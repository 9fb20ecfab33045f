import LogAlert.Notify.Sender

/-!
# Dispatch

Telling a trigger to all enabled channels of an alert, one attempt each.  A delivery that fails
does not stop the others, and every enabled channel has an entry in the result.

## Main definitions

* `Outcome` entries are `Notification`s: what came of the delivery to a channel.
* `Deliveries` : the interface to the senders.
* `Dispatch.sendAlert` : the deliveries to the channels of an alert.
-/

namespace LogAlert

/-- What came of the delivery to a channel. -/
structure Notification where
  channelId : Option Int
  channelType : ChannelType
  channelName : Json
  delivery : Delivery
  deriving Repr, Inhabited

namespace Notification

/-- A notification as it is recorded with a trigger. -/
def toJson (n : Notification) : Json :=
  let (success, error) := match n.delivery with
    | .delivered => (true, Json.null)
    | .failed reason => (false, .str reason)
  .obj
    [("channel_id", .ofInt? n.channelId), ("channel_type", .str n.channelType.name),
      ("channel_name", n.channelName), ("success", .bool success), ("error", error)]

end Notification

/-- A delivery that a sender is asked for. -/
structure DeliveryRequest where
  channel : Channel
  alert : Alert
  type : Json
  data : Json
  deriving Repr, Inhabited

/-- The requests to the senders. -/
abbrev Deliveries : Interface :=
  ⟨DeliveryRequest, fun _ => Delivery⟩

namespace Dispatch

/-- Every type of channels needs a sender. -/
def checkSenders (registered : ChannelType → Bool) : Except Failure Unit :=
  let missing := ChannelType.all.filter fun t => !registered t
  if missing.isEmpty then .ok ()
  else .error (.value ("no sender registered for channel types: " ++
    (Json.arr (missing.map fun t => .str t.name)).inspect))

/-- The delivery to a channel; a failure of the sender is a failed delivery. -/
def deliver (r : DeliveryRequest) : Script Deliveries Delivery := do
  match ← (Script.request (I := Deliveries) r).attempt with
  | .ok d => pure d
  | .error e => pure (.failed e.inspect)

/-- The deliveries to the enabled ones of some channels. -/
def sendEach (a : Alert) (type data : Json) : List Channel → Script Deliveries (List Notification)
  | [] => pure []
  | c :: cs => do
    if c.enabled.isTruthy then
      let channelType ← .ofExcept (ChannelType.ofJson c.type)
      let delivery ← deliver ⟨c, a, type, data⟩
      let rest ← sendEach a type data cs
      pure (⟨c.id, channelType, c.name, delivery⟩ :: rest)
    else sendEach a type data cs

/-- The deliveries to the enabled channels of an alert. -/
def sendAlert (a : Alert) (type data : Json) : Script Deliveries (List Notification) :=
  sendEach a type data a.channels

end Dispatch

end LogAlert
