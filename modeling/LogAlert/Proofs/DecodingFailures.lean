import LogAlert.KeyValue.AlertStore

/-!
# What decoders fail with

The decoders of stored documents, tables and sets refuse content in one of four ways: it is no JSON
document, a field is missing, a value is of the wrong kind, or it has the wrong content.  None of
these is a failure of a store or of the client of a server.

## Main definitions

* `Failure.OfContent` : the failures of these four kinds.
* `Failure.Decodes` : a computation has no other failures.

## Main results

* `Alert.decodes_decode`, `Cursor.decodes_decode`, `Channel.decodes_decode`,
  `History.decodes_decode` : the stored forms.
* `KeyValue.AlertStore.decodes_linkedIds`, `KeyValue.AlertStore.decodes_sortedIds` : ids.
-/

namespace LogAlert

namespace Failure

/-- A failure about the content of what is decoded. -/
def OfContent (e : Failure) : Prop :=
  e.kind ∈ [.json, .value, .type, .key]

theorem ofContent_value (message : String) : (value message).OfContent :=
  (by decide : Kind.value ∈ [.json, .value, .type, .key])

theorem ofContent_type (message : String) : (type message).OfContent :=
  (by decide : Kind.type ∈ [.json, .value, .type, .key])

theorem OfContent.not_store {e : Failure} (h : e.OfContent) : e.kind ≠ .store := by
  intro heq
  rw [OfContent, heq] at h
  revert h
  decide

theorem OfContent.not_client {e : Failure} (h : e.OfContent) : e.isClient = false := by
  rw [isClient]
  split
  · next fault heq =>
    rw [OfContent, heq] at h
    simp at h
  · rfl

/-- A computation that fails about content, if at all. -/
def Decodes {α : Type} (x : Except Failure α) : Prop :=
  ∀ e, x = .error e → e.OfContent

variable {α β : Type} {x : Except Failure α}

theorem Decodes.ok {a : α} : Decodes (.ok a) := fun _ h => nomatch h

theorem Decodes.error {e : Failure} (h : e.OfContent) : Decodes (.error e : Except Failure α) :=
  fun _ heq => Except.error.inj heq ▸ h

theorem Decodes.bind {f : α → Except Failure β} (first : Decodes x) (second : ∀ a, Decodes (f a)) :
    Decodes (x >>= f) := by
  cases x with
  | error e => exact .error (first e rfl)
  | ok a => exact second a

theorem Decodes.map {f : α → β} (h : Decodes x) : Decodes (x.map f) := by
  cases x with
  | error e => exact .error (h e rfl)
  | ok a => exact .ok

theorem Decodes.mapM {f : α → Except Failure β} (h : ∀ a, Decodes (f a)) (as : List α) :
    Decodes (as.mapM f) := by
  induction as with
  | nil => exact .ok
  | cons a as ih =>
    rw [List.mapM_cons]
    exact (h a).bind fun b => ih.bind fun bs => .ok

theorem Decodes.optionMapM {f : α → Except Failure β} (h : ∀ a, Decodes (f a)) (a : Option α) :
    Decodes (a.mapM f) := by
  cases a with
  | none => exact .ok
  | some a => exact (h a).bind fun b => .ok

end Failure

open Failure

/-! ### Parts of documents -/

theorem decodes_readStoredMoment (s : String) : Decodes (readStoredMoment s) := by
  rw [readStoredMoment]
  split
  · exact .ok
  · exact .error (ofContent_value _)

theorem AlertType.decodes_ofJson (v : Json) : Decodes (ofJson v) := by
  rw [ofJson]
  split
  · exact .ok
  · exact .error (ofContent_value _)

theorem ChannelType.decodes_ofJson (v : Json) : Decodes (ofJson v) := by
  rw [ofJson]
  split
  · exact .ok
  · exact .error (ofContent_value _)

namespace Document

theorem decodes_read (raw : String) : Decodes (read raw) := by
  rw [read]
  split
  · exact .ok
  · refine .error ?_
    rw [ofSyntax]
    split
    · exact ofContent_value _
    · exact (by decide : Kind.json ∈ [.json, .value, .type, .key])

theorem decodes_fields (v : Json) : Decodes (fields v) := by
  cases v with
  | obj fields => exact .ok
  | null | bool | int | float | str | arr => exact .error (ofContent_type _)

theorem decodes_field (fields : Json.Fields) (key : String) : Decodes (field fields key) := by
  rw [field]
  split
  · exact .ok
  · exact .error (by decide : Kind.key ∈ [.json, .value, .type, .key])

theorem decodes_checkKeys (owner : String) (required known : List String) (fields : Json.Fields) :
    Decodes (checkKeys owner required known fields) := by
  rw [checkKeys]
  split
  · exact .error (ofContent_type _)
  · dsimp only
    split
    · exact .ok
    · exact .error (ofContent_type _)

end Document

/-! ### Stored forms -/

open Document

theorem Alert.decodes_decode (raw : String) : Decodes (decode raw) :=
  (decodes_read raw).bind fun v => (decodes_fields v).bind fun fields =>
    (decodes_field fields _).bind fun type => (AlertType.decodes_ofJson type).bind fun _ =>
      (decodes_checkKeys _ _ _ fields).bind fun _ => .ok

theorem Channel.decodes_decode (raw : String) : Decodes (decode raw) :=
  (decodes_read raw).bind fun v => (decodes_fields v).bind fun fields =>
    (decodes_field fields _).bind fun type => (ChannelType.decodes_ofJson type).bind fun _ =>
      (decodes_checkKeys _ _ _ fields).bind fun _ => .ok

theorem History.decodes_decode (raw : String) : Decodes (decode raw) := by
  refine (decodes_read raw).bind fun v => (decodes_fields v).bind fun fields =>
    (decodes_field fields _).bind fun id => (decodes_field fields _).bind fun alertId =>
      (decodes_field fields _).bind fun type => (AlertType.decodes_ofJson type).bind fun _ =>
        (decodes_field fields _).bind fun data => (decodes_field fields _).bind fun notifications =>
          (decodes_field fields _).bind fun time => ?_
  split
  · exact (decodes_readStoredMoment _).bind fun _ => .ok
  · exact .error (ofContent_type _)

namespace Cursor

theorem decodes_readStoredInt (s : String) : Decodes (readStoredInt s) := by
  rw [readStoredInt]
  split
  · exact .error (ofContent_value _)
  · split
    · exact .ok
    · exact .error (ofContent_value _)

theorem decodes_part {α : Type} {read : String → Except Failure α} (h : ∀ s, Decodes (read s))
    (entries : Table String String) (key : String) : Decodes (part entries key read) := by
  rw [part]
  split
  · exact .ok
  · split
    · exact .ok
    · exact (h _).map

theorem decodes_decode (entries : Table String String) : Decodes (decode entries) :=
  (decodes_part decodes_readStoredInt entries _).bind fun _ =>
    (decodes_part decodes_readStoredMoment entries _).bind fun _ =>
      (decodes_part decodes_readStoredMoment entries _).bind fun _ => .ok

end Cursor

namespace KeyValue.AlertStore

theorem decodes_linkedIds (v : Json) : Decodes (linkedIds v) := by
  cases v with
  | arr | obj | str => exact .ok
  | null | bool | int | float => exact .error (ofContent_type _)

theorem decodes_sortedIds (members : List String) : Decodes (sortedIds members) :=
  (Decodes.mapM Cursor.decodes_readStoredInt members).bind fun _ => .ok

end KeyValue.AlertStore

end LogAlert
