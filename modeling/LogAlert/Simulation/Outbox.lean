import LogAlert.Notify.Dispatch

/-!
# The outbox

Notification without a network.  Either the real senders talk to a network that answers as
planned, or rehearsed senders answer themselves.  Whatever would have gone out is kept in the
order in which it did.

## Main definitions

* `Network` : the planned answers of mail and web servers.
* `Rehearsal` : what a rehearsed sender does.
* `Means` : the ways of notification.
* `Sent` : what went out.
* `Means.sendAlert` : the notification of an alert's channels.
-/

namespace LogAlert.Simulation

/-- What went out: a step of a conversation with a mail server, a request to a web server, or a
note of a rehearsed sender. -/
inductive Sent where
  | mail (step : MailStep)
  | web (request : WebRequest)
  | note (sender : ChannelType) (channel alert : Json) (type : AlertType) (data : Json)
  deriving Repr, Inhabited

/-- The planned answers of a network: the step at which mail servers fail, if they do, and the
answer of all web servers. -/
structure Network where
  mailFailure : Option (String × Failure)
  web : Except Failure WebReply
  deriving Inhabited

namespace Network

/-- The network without failures. -/
def calm : Network :=
  ⟨none, .ok (.reply 200 [])⟩

/-- The answer to a request. -/
def answer (n : Network) (r : TransportRequest) : Except Failure r.Answer :=
  match r with
  | .mail step =>
    match n.mailFailure with
    | some (name, e) => if step.name == name then .error e else .ok ()
    | none => .ok ()
  | .web _ => n.web

/-- A request as something that went out. -/
def sentOf : TransportRequest → Sent
  | .mail step => .mail step
  | .web request => .web request

/-- A script on the network, after what was sent before. -/
def run {α : Type} (n : Network) (s : Script Transport α) (sent : List Sent) :
    Except Failure α × List Sent :=
  s.run (fun r sent => (n.answer r, sent ++ [sentOf r])) sent

end Network

/-- What a rehearsed sender does. -/
inductive Rehearsal where
  | answers (delivery : Delivery)
  | fails (failure : Failure)
  deriving Repr, Inhabited

/-- The result of a rehearsed delivery. -/
def Rehearsal.result : Rehearsal → Except Failure Delivery
  | .answers d => .ok d
  | .fails e => .error e

/-- The ways of notification. -/
inductive Means where
  | network (settings : Settings) (servers : Network)
  /-- Rehearsed senders; those without a rehearsal succeed. -/
  | rehearsed (rehearsals : Table ChannelType Rehearsal)
  deriving Inhabited

namespace Means

/-- A rehearsed delivery.  A trigger of no known type is refused before anything goes out. -/
def rehearse (rehearsals : Table ChannelType Rehearsal) (sender : ChannelType)
    (r : DeliveryRequest) (sent : List Sent) : Except Failure Delivery × List Sent :=
  match AlertType.ofJson r.type with
  | .error e => (.error e, sent)
  | .ok type =>
    (((rehearsals.get? sender).getD (.answers .delivered)).result,
      sent ++ [.note sender r.channel.name r.alert.settings.name type r.data])

/-- The delivery to a channel. -/
def deliver (m : Means) (r : DeliveryRequest) (sent : List Sent) :
    Except Failure Delivery × List Sent :=
  match ChannelType.ofJson r.channel.type with
  | .error e => (.error e, sent)
  | .ok sender =>
    match m with
    | .network settings servers =>
      servers.run ((Sender.standard settings sender).send r.channel r.alert r.type r.data) sent
    | .rehearsed rehearsals => rehearse rehearsals sender r sent

/-- The notification of the channels of an alert. -/
def sendAlert (m : Means) (a : Alert) (type data : Json) (sent : List Sent) :
    Except Failure (List Notification) × List Sent :=
  (Dispatch.sendAlert a type data).run m.deliver sent

end Means

end LogAlert.Simulation
