import LogAlert.Json.Writer
import LogAlert.Notify.Message
import LogAlert.Notify.Transport
import LogAlert.Settings
import LogAlert.Text.Form
import LogAlert.Text.Utf8

/-!
# Senders

A sender delivers the news of a trigger to one channel.  It tells whether the delivery
succeeded; failures of the network count as failed deliveries.

## Main definitions

* `Delivery` : what comes of a delivery.
* `Sender` : the senders with their configuration.
* `Sender.send` : the delivery to a channel.
-/

namespace LogAlert

/-- What comes of a delivery. -/
inductive Delivery where
  | delivered
  | failed (reason : String)
  deriving DecidableEq, Repr, Inhabited

/-- The configuration of the mail sender. -/
structure MailOptions where
  host : Json
  port : Json
  user : Json
  password : Json
  sender : Json
  useTls : Json
  timeout : Json
  deriving Repr, Inhabited

/-- A sender: for mail, for push messages, for web hooks, or without any way of delivery. -/
inductive Sender where
  | mail (options : MailOptions)
  | push (url timeout : Json)
  | hook (timeout : Json)
  | none
  deriving Repr, Inhabited

namespace Sender

/-- A value if it is given, and otherwise the standard one. -/
def given (v standard : Json) : Json :=
  if v.isNull then standard else v

/-- The mail sender with some options given. -/
def mailFrom (s : Settings) (options : Json.Fields) : Sender :=
  let option (key : String) : Json := (Json.field? options key).getD .null
  let sender := option "from_addr"
  .mail
    { host := given (option "host") (.str s.smtpHost)
      port := given (option "port") (.int s.smtpPort)
      user := given (option "username") (.str s.smtpUser)
      password := given (option "password") (.str s.smtpPassword)
      sender := if sender.isTruthy then sender else .str s.alertFromEmail
      useTls := given (option "use_tls") (.bool s.smtpUseTls)
      timeout := given (option "timeout") (.float s.notifyTimeout) }

/-- The push sender with some options given. -/
def pushFrom (s : Settings) (options : Json.Fields) : Sender :=
  let option (key : String) : Json := (Json.field? options key).getD .null
  let url := option "api_url"
  .push (if url.isTruthy then url else .str s.pushoverApiUrl)
    (given (option "timeout") (.float s.notifyTimeout))

/-- The sender for web hooks with some options given. -/
def hookFrom (s : Settings) (options : Json.Fields) : Sender :=
  .hook (given ((Json.field? options "timeout").getD .null) (.float s.notifyTimeout))

/-- The sender for a type of channels, as the settings say. -/
def standard (s : Settings) : ChannelType → Sender
  | .email => mailFrom s []
  | .pushover => pushFrom s []
  | .slack => hookFrom s []

/-- A field of a channel's configuration, or the standard value if it is absent. -/
def configField (c : Channel) (key : String) (standard : Json) : Except Failure Json :=
  match c.config with
  | .obj fields => .ok ((Json.field? fields key).getD standard)
  | v => if v.isTruthy then .error (.lacks v "get") else .ok standard

/-- A delivery whose network failures are reported. -/
def reportNetwork (s : Script Transport Delivery) : Script Transport Delivery := do
  match ← s.attempt with
  | .ok d => pure d
  | .error e => if e.isNetwork then pure (.failed e.inspect) else .fail e

/-- The conversation with the mail server. -/
def converse (o : MailOptions) (recipient : Json) (subject body : String) :
    Script Transport Delivery := do
  Transport.mail (.connect o.host o.port o.timeout)
  if o.useTls.isTruthy then
    Transport.mail .greet
    Transport.mail .encrypt
    Transport.mail .greet
  if o.user.isTruthy then Transport.mail (.login o.user o.password)
  let sender := "logwarden Alerts <" ++ o.sender.display ++ ">"
  let mail ← .ofExcept (Mail.compose subject sender recipient body)
  Transport.mail (.send o.sender [recipient] mail)
  pure .delivered

/-- Delivery by mail. -/
def sendMail (o : MailOptions) (c : Channel) (a : Alert) (type data : Json) :
    Script Transport Delivery := do
  let recipient ← .ofExcept (configField c "email" .null)
  if !recipient.isTruthy then pure (.failed "channel has no email address")
  else
    let type ← .ofExcept (AlertType.ofJson type)
    let body ← .ofExcept (Message.body a type data)
    reportNetwork (converse o recipient (Message.subject a type) body)

/-- What a reply means: anything but code 200 is a failure.  `describe` words it. -/
def judge (describe : Int → List UInt8 → String) : WebReply → Delivery
  | .reply code content => if code == 200 then .delivered else .failed (describe code content)
  | .refusal code content => .failed (describe code (content.getD []))

/-- A request whose reply is judged. -/
def post (url : Json) (contentType body : String) (timeout : Json)
    (describe : Int → List UInt8 → String) : Script Transport Delivery := do
  let url ← .ofExcept (WebAddress.read url.display)
  reportNetwork do
    let reply ← Transport.web
      { url, method := "POST", headers := [("Content-type", contentType)], body, timeout }
    pure (judge describe reply)

/-- The wording of a code. -/
def codeText (code : Int) : String :=
  "HTTP " ++ toString code

/-- Delivery by push message. -/
def sendPush (url timeout : Json) (c : Channel) (a : Alert) (type data : Json) :
    Script Transport Delivery := do
  let token ← .ofExcept (configField c "app_token" (.str ""))
  let user ← .ofExcept (configField c "user_key" (.str ""))
  let type ← .ofExcept (AlertType.ofJson type)
  let message ← .ofExcept (Message.note a type data)
  let priority ← .ofExcept (configField c "priority" (.int 0))
  let body := Text.Form.encode
    [("token", token.display), ("user", user.display), ("title", Message.title a type),
      ("message", message), ("priority", priority.display)]
  post url "application/x-www-form-urlencoded" body timeout fun code content =>
    codeText code ++ ": " ++ String.ofList (Text.Utf8.decode content)

/-- The document that a web hook is sent. -/
def hookDocument (title message : String) : Json :=
  .obj
    [("text", .str (":rotating_light: *" ++ title ++ "*")),
      ("blocks", .arr
        [.obj
          [("type", .str "section"),
            ("text", .obj [("type", .str "mrkdwn"), ("text", .str message)])]])]

/-- Delivery to a web hook. -/
def sendHook (timeout : Json) (c : Channel) (a : Alert) (type data : Json) :
    Script Transport Delivery := do
  let url ← .ofExcept (configField c "webhook_url" .null)
  if !url.isTruthy then pure (.failed "channel has no webhook_url")
  else
    let type ← .ofExcept (AlertType.ofJson type)
    let message ← .ofExcept (Message.note a type data)
    let body := (hookDocument (Message.title a type) message).write
    post url "application/json" body timeout fun code _ => codeText code

/-- Delivery to a channel. -/
def send (s : Sender) (c : Channel) (a : Alert) (type data : Json) : Script Transport Delivery :=
  match s with
  | .mail o => sendMail o c a type data
  | .push url timeout => sendPush url timeout c a type data
  | .hook timeout => sendHook timeout c a type data
  | .none => .fail ⟨.notImplemented, []⟩

end Sender

end LogAlert
