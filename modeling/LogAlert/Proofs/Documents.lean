import LogAlert.Proofs.StoredRevisions

/-!
# Documents of channels and alerts are read back

Channels and the settings of alerts are stored as JSON documents.  A document is read back to what
it was written for if its values are made of null, truth values, integers of at most 4300 digits and
texts, by arrays and objects of any depth.

## Main definitions

* `Json.Plain` : the values that are made of these.
* `Channel.Plain`, `AlertSettings.Plain` : channels and settings with such values.

## Main results

* `Json.Plain.isStorable` : plain values survive their documents.
* `documents_read_back` : channels by their documents, and alerts by what is read of a store.
-/

namespace LogAlert

open KeyValue AlertStore
open Simulation.Server (Ends)

namespace Json

/-- The values made of null, truth values, integers of at most 4300 digits and texts.  An object has
each key once. -/
inductive Plain : Json → Prop where
  | null : Plain .null
  | bool (b : Bool) : Plain (.bool b)
  | int {n : Int} (small : n.natAbs < 10 ^ Number.digitLimit) : Plain (.int n)
  | str (s : String) : Plain (.str s)
  | arr {items : List Json} (plain : ∀ x ∈ items, Plain x) : Plain (.arr items)
  | obj {fields : Fields} (nodup : (Table.keys fields).Nodup) (plain : ∀ f ∈ fields, Plain f.2) :
      Plain (.obj fields)

theorem Plain.isStorable {v : Json} (h : v.Plain) : v.isStorable := by
  induction h with
  | null | bool | str => rfl
  | int small => exact isStorable_int_iff.mpr small
  | arr _ ih =>
    rw [Json.isStorable]
    exact areStorable_iff.mpr ih
  | obj nodup _ ih =>
    rw [Json.isStorable, decide_eq_true nodup, Bool.true_and]
    exact haveStorable_iff.mpr ih

end Json

/-- A channel of a known type whose other parts are plain values. -/
structure Channel.Plain (c : Channel) : Prop where
  type : ∃ t : ChannelType, c.type = .str t.name
  values : ∀ v ∈ [c.name, c.config, c.enabled, c.ownerId, .ofInt? c.id], v.Plain

/-- Settings of a known type whose other parts are plain values. -/
structure AlertSettings.Plain (s : AlertSettings) : Prop where
  type : ∃ t : AlertType, s.type = .str t.name
  values : ∀ v ∈ [s.ownerId, s.name, s.description, s.enabled, s.searchQuery, s.threshold,
    s.window, s.cooldown], v.Plain

theorem Channel.Plain.storable {c : Channel} (h : c.Plain) : c.Storable :=
  ⟨h.type, fun v hv => (h.values v hv).isStorable⟩

theorem AlertSettings.Plain.storable {s : AlertSettings} (h : s.Plain) : s.Storable :=
  ⟨h.type, fun v hv => (h.values v hv).isStorable⟩

/-- What is under the keys of an alert for it to be read, by the document that is there. -/
theorem KeyValue.AlertStore.keeps_iff {st : AlertStore} {db : Database} {a b : Alert}
    {document : String} (stored : db.text (st.alertKey (idText a.id)) = .ok (some document))
    (decoded : Alert.decode document = .ok { a with channels := [], cursor := .empty }) :
    st.Keeps db a.id b ↔ (b.id = a.id ∧ b.settings = a.settings) ∧
      (∃ entries, db.entries (st.cursorKey (idText a.id)) = .ok entries ∧
        Cursor.decode entries = .ok b.cursor) ∧
      Ends (st.readLinks (idText a.id)) db (.ok b.channels) db := by
  constructor
  · rintro ⟨⟨raw, hraw, hdecode⟩, cursor, channels⟩
    obtain rfl : document = raw := Option.some.inj (Except.ok.inj (stored.symm.trans hraw))
    have same := Except.ok.inj (decoded.symm.trans hdecode)
    exact ⟨⟨(congrArg Alert.id same).symm, (congrArg Alert.settings same).symm⟩, cursor, channels⟩
  · rintro ⟨⟨id, settings⟩, cursor, channels⟩
    exact ⟨⟨document, stored, by rw [decoded, id, settings]⟩, cursor, channels⟩

/-- **Documents are read back.**  A channel with plain values is read from its document.  So is an
alert: whatever store holds its document, an alert is read there exactly if the cursor and the
channels are, and then it has the id and all the settings that were written. -/
theorem documents_read_back :
    (∀ c : Channel, c.Plain →
      ∃ document, c.encode = .ok document ∧ Channel.decode document = .ok c) ∧
    ∀ a : Alert, a.settings.Plain → (Json.ofInt? a.id).Plain →
      ∃ document, a.encode = .ok document ∧
        ∀ (st : AlertStore) (db : Database),
          db.text (st.alertKey (idText a.id)) = .ok (some document) →
            ∀ b : Alert, Ends (st.get a.id) db (.ok (some b)) db ↔
              (b.id = a.id ∧ b.settings = a.settings) ∧
                (∃ entries, db.entries (st.cursorKey (idText a.id)) = .ok entries ∧
                  Cursor.decode entries = .ok b.cursor) ∧
                Ends (st.readLinks (idText a.id)) db (.ok b.channels) db := by
  refine ⟨fun c plain => Channel.decode_document plain.storable, fun a settings id => ?_⟩
  obtain ⟨document, encoded, decoded⟩ := Alert.decode_document settings.storable id.isStorable
  exact ⟨document, encoded, fun st db stored b => ends_get_iff.trans (keeps_iff stored decoded)⟩

namespace KeyValue.AlertStore.Sample

/-- A value with a text that has marks, a line break, an accent and a character beyond the first
plane, and with objects in an array in an object. -/
def deepValue : Json :=
  .obj [("url", .str "caf\u00e9 \"\u260e\" \\ 😀\n"),
    ("deep", .arr [.null, .bool true, .int (-3), .obj [("", .arr [.obj []])]])]

theorem plain_deepValue : deepValue.Plain := by
  have empty : (Json.obj []).Plain := .obj .nil nofun
  have inner : (Json.obj [("", .arr [.obj []])]).Plain := by
    refine .obj (by decide) fun f hf => ?_
    obtain rfl := List.mem_singleton.mp hf
    exact .arr fun x hx => List.mem_singleton.mp hx ▸ empty
  have small : (-3 : Int).natAbs < 10 ^ Number.digitLimit :=
    Json.isStorable_int_iff.mp (by decide)
  refine .obj (by decide) ?_
  simp only [List.forall_mem_cons, List.not_mem_nil, false_imp_iff, implies_true, and_true]
  refine ⟨.str _, .arr ?_⟩
  simp only [List.forall_mem_cons, List.not_mem_nil, false_imp_iff, implies_true, and_true]
  exact ⟨.null, .bool true, .int small, inner⟩

/-- A channel with such a configuration. -/
def deepChannel : Channel where
  type := .str "email"
  name := .str "\u00e9"
  config := deepValue
  enabled := .bool true
  ownerId := .null
  id := none

/-- An alert with such a description. -/
def deepAlert : Alert :=
  { alert with id := some 1, settings := { alert.settings with description := deepValue } }

end KeyValue.AlertStore.Sample

open KeyValue.AlertStore.Sample in
/-- A channel with a nested configuration, and an alert of which a server holds nothing but the
document. -/
theorem documents_read_back_of_deep :
    (∃ document, deepChannel.encode = .ok document ∧
      Channel.decode document = .ok deepChannel) ∧
    ∃ document, deepAlert.encode = .ok document ∧
      Ends (store.get (some 1)) [(store.alertKey "1", .text document)] (.ok (some deepAlert))
        [(store.alertKey "1", .text document)] := by
  obtain ⟨channels, alerts⟩ := documents_read_back
  refine ⟨channels deepChannel ⟨⟨.email, rfl⟩, ?_⟩, ?_⟩
  · simp only [deepChannel, List.forall_mem_cons, List.not_mem_nil, false_imp_iff, implies_true,
      and_true]
    exact ⟨.str _, plain_deepValue, .bool true, .null, .null⟩
  · have settings : deepAlert.settings.Plain := by
      refine ⟨⟨.anyMatch, rfl⟩, ?_⟩
      simp only [deepAlert, alert, List.forall_mem_cons, List.not_mem_nil, false_imp_iff,
        implies_true, and_true]
      exact ⟨.null, .str _, plain_deepValue, .bool true, .str _, .null, .null,
        .int (Json.isStorable_int_iff.mp (by decide))⟩
    obtain ⟨document, encoded, read⟩ :=
      alerts deepAlert settings (.int (Json.isStorable_int_iff.mp (by decide)))
    refine ⟨document, encoded, (read store _ rfl deepAlert).mpr ⟨⟨rfl, rfl⟩, ⟨[], rfl, rfl⟩, ?_⟩⟩
    exact rfl

end LogAlert
