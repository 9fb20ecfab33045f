import LogAlert.Notify.Mail
import LogAlert.Script

/-!
# Transports

What the delivery of notifications asks of the network: the steps of a conversation with a mail
server, and requests to web servers.

## Main definitions

* `MailStep`, `WebRequest`, `WebReply` : the parts of the two conversations.
* `Transport` : the interface.
* `WebAddress.read` : the address that a text names.
-/

namespace LogAlert

/-- A step of a conversation with a mail server. -/
inductive MailStep where
  | connect (host port timeout : Json)
  | greet
  | encrypt
  | login (user password : Json)
  | send (sender : Json) (recipients : List Json) (mail : Mail)
  deriving Repr, Inhabited

/-- The name of a step in the protocol of mail servers. -/
def MailStep.name : MailStep → String
  | .connect .. => "connect"
  | .greet => "ehlo"
  | .encrypt => "starttls"
  | .login .. => "login"
  | .send .. => "sendmail"

/-- A request to a web server. -/
structure WebRequest where
  url : String
  method : String
  headers : List (String × String)
  body : String
  timeout : Json
  deriving Repr, Inhabited

/-- The reply of a web server: its code and content, or a refusal with its code and perhaps
content. -/
inductive WebReply where
  | reply (code : Int) (content : List UInt8)
  | refusal (code : Int) (content : Option (List UInt8))
  deriving Repr, Inhabited

/-- A request to the network. -/
inductive TransportRequest where
  | mail (step : MailStep)
  | web (request : WebRequest)
  deriving Repr, Inhabited

/-- What a request is answered with. -/
@[reducible] def TransportRequest.Answer : TransportRequest → Type
  | mail _ => Unit
  | web _ => WebReply

/-- The requests to the network. -/
abbrev Transport : Interface :=
  ⟨TransportRequest, TransportRequest.Answer⟩

namespace Transport

/-- A step of a conversation with a mail server. -/
def mail (step : MailStep) : Script Transport Unit :=
  .request (I := Transport) (.mail step)

/-- A request to a web server. -/
def web (r : WebRequest) : Script Transport WebReply :=
  .request (I := Transport) (.web r)

end Transport

/-! ### Web addresses -/

namespace WebAddress

/-- The text without blanks, angle brackets and a leading mark around an address. -/
def unwrap (cs : List Char) : List Char :=
  let cs := Text.strip cs
  let cs := if cs.head? = some '<' && cs.getLast? = some '>' then
      Text.strip ((cs.drop 1).dropLast)
    else cs
  if "URL:".toList.isPrefixOf cs then Text.strip (cs.drop 4) else cs

/-- The parts of an address before and after its last number sign. -/
def splitFragment (cs : List Char) : List Char × List Char :=
  let fragment := (cs.reverse.takeWhile (· != '#')).reverse
  if fragment.length == cs.length then (cs, [])
  else (cs.take (cs.length - fragment.length - 1), fragment)

/-- Whether an address starts with a scheme. -/
def hasScheme (cs : List Char) : Bool :=
  let scheme := cs.takeWhile fun c => c != '/' && c != ':'
  !scheme.isEmpty && (cs.drop scheme.length).head? = some ':'

/-- The address that a text names; it must have a scheme. -/
def read (s : String) : Except Failure String :=
  let (address, fragment) := splitFragment (unwrap s.toList)
  let full := String.ofList (if fragment.isEmpty then address else address ++ '#' :: fragment)
  if hasScheme address then .ok full
  else .error (.value ("unknown url type: " ++ (Json.str full).inspect))

end WebAddress

end LogAlert
