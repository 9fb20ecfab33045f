import LogAlert.Proofs.Characters
import LogAlert.Proofs.IsoReading
import LogAlert.Proofs.JsonReading

/-!
# Stored forms are read back

The texts under which alerts, channels, cursors and triggers are stored are read back to what was
stored, if their values can be stored at all: JSON values that are read back, moments in the
calendar whose offset is read back, and known types.

## Main definitions

* `Moment.Storable`, `Cursor.Storable`, `AlertSettings.Storable`, `Alert.Storable`,
  `Channel.Storable`, `History.Storable` : what can be stored.
* `Moment.reloaded`, `Cursor.reloaded` : what is read of any moment of the calendar, and of any
  cursor.

## Main results

* `Cursor.decode_eq_reloaded`, `Cursor.decode_of_get?` : a cursor is read from its entries, in
  whatever order they are.
* `Alert.decode_document`, `Channel.decode_document`, `History.decode_encode` : documents.
-/

namespace LogAlert

/-! ### Integers -/

namespace Number

theorem dropSeparators_plain {cs : List Char} (h : '_' ∉ cs) (afterDigit : Bool) :
    dropSeparators afterDigit cs = some cs := by
  induction cs generalizing afterDigit with
  | nil => rfl
  | cons c cs ih =>
    obtain ⟨hc, hcs⟩ := not_or.mp (mt List.mem_cons.mpr h)
    have hne : (c == '_') = false := beq_false_of_ne (Ne.symm hc)
    rw [dropSeparators, hne, if_neg Bool.false_ne_true, ih hcs]
    · rfl
    · exact fun _ _ h => absurd h.symm hc

end Number

theorem intText_chars (n : Int) : ∀ c ∈ Json.intText n, c = '-' ∨ c.isDigit := by
  intro c hc
  rw [Json.intText, List.mem_append] at hc
  rcases hc with hc | hc
  · split at hc
    · exact .inl (List.mem_singleton.mp hc)
    · cases hc
  · exact .inr (Nat.isDigit_of_mem_toDigits (by decide) (by decide) hc)

theorem isBare_of_mem_intText {n : Int} {c : Char} (hc : c ∈ Json.intText n) :
    Lexeme.isBare c := by
  rcases intText_chars n c hc with rfl | h
  · decide
  · exact Lexeme.isBare_of_isDigit h

theorem trim_intText (n : Int) : Number.trim (Json.intText n) = Json.intText n := by
  have padding {c : Char} (hc : c ∈ Json.intText n) : Number.isPadding c = false := by
    rw [Number.isPadding, Text.isBlank_of_isBare (isBare_of_mem_intText hc), Bool.false_and]
  exact Text.stripBy_eq_self (fun c hc => padding (List.mem_of_head? hc))
    fun c hc => padding (List.mem_of_getLast? hc)

theorem splitSign_intText (n : Int) :
    Number.splitSign (Json.intText n) = (decide (n < 0), Nat.toDigits 10 n.natAbs) := by
  rw [Json.intText]
  by_cases negative : n < 0
  · rw [if_pos negative, decide_eq_true negative]
    rfl
  · rw [if_neg negative, decide_eq_false negative, List.nil_append]
    obtain ⟨c, ds, hcons, digits⟩ := toDigits_cons n.natAbs
    have hdigit := digits c List.mem_cons_self
    rw [hcons, Number.splitSign]
    · exact fun _ h => absurd (List.cons.inj h).1 (ne_of_isDigit hdigit (by decide))
    · exact fun _ h => absurd (List.cons.inj h).1 (ne_of_isDigit hdigit (by decide))

theorem underscore_not_mem_intText (n : Int) : '_' ∉ Json.intText n := fun hmem => by
  rcases intText_chars n _ hmem with h | h
  · exact absurd h (by decide)
  · exact absurd h (by decide)

theorem readInt?_intText (n : Int) : Number.readInt? (Json.intText n) = some n := by
  have hall : (Nat.toDigits 10 n.natAbs).all Text.isDecimal = true :=
    List.all_eq_true.mpr fun c hc =>
      Number.isDecimal_of_isDigit (Nat.isDigit_of_mem_toDigits (by decide) (by decide) hc)
  have hempty : (Nat.toDigits 10 n.natAbs).isEmpty = false :=
    List.isEmpty_eq_false_iff.mpr Nat.toDigits_ne_nil
  rw [Number.readInt?, trim_intText,
    Number.dropSeparators_plain (underscore_not_mem_intText n)]
  rw [Option.bind_eq_bind, Option.bind_some, splitSign_intText]
  dsimp only
  rw [hempty, hall, Json.Reader.digitsValue_toDigits, signed_natAbs]
  rfl

/-- A stored integer is read back. -/
theorem Cursor.readStoredInt_intText {n : Int} (h : (Json.int n).isStorable) :
    readStoredInt (String.ofList (Json.intText n)) = .ok n := by
  have hlength : (leadingDigits (Json.intText n)).length ≤ Number.digitLimit := by
    have hdigits : ∀ c ∈ Nat.toDigits 10 n.natAbs, (Text.isDecimal c || c == '_') = true := by
      intro c hc
      rw [Number.isDecimal_of_isDigit (Nat.isDigit_of_mem_toDigits (by decide) (by decide) hc)]
      rfl
    have hplain : '_' ∉ Nat.toDigits 10 n.natAbs := Nat.underscore_not_in_toDigits
    rw [leadingDigits, trim_intText, splitSign_intText]
    dsimp only
    rw [List.takeWhile_eq_self_iff.mpr hdigits, Number.dropSeparators_plain hplain]
    exact of_decide_eq_true h
  rw [readStoredInt, String.toList_ofList, if_neg (Nat.not_lt.mpr hlength),
    readInt?_intText]

/-! ### Moments and cursors -/

/-- A moment of the calendar whose offset is less than a day. -/
structure Moment.Proper (m : Moment) : Prop where
  range : Moment.inRange m.wall
  offset : ∀ o, m.offset = some o → -Span.day < o ∧ o < Span.day

/-- A moment that is read back: one of the calendar, with an offset that is read back. -/
structure Moment.Storable (m : Moment) : Prop where
  range : Moment.inRange m.wall
  offset : Iso.Writable m.offset

/-- The moment that is read from the written form of a moment: an offset of less than a second is
lost. -/
def Moment.reloaded (m : Moment) : Moment :=
  { m with offset := m.offset.map Iso.keptOffset }

theorem Moment.Storable.proper {m : Moment} (h : m.Storable) : m.Proper :=
  ⟨h.range, fun o ho => (ho ▸ h.offset : Iso.Writable (some o)).1⟩

theorem Moment.Storable.reloaded_eq {m : Moment} (h : m.Storable) : m.reloaded = m := by
  rw [reloaded, Iso.map_keptOffset h.offset]

theorem readStoredMoment_isoText {m : Moment} (h : m.Proper) :
    readStoredMoment m.isoText = .ok m.reloaded := by
  rw [readStoredMoment, Moment.isoText, String.toList_ofList,
    Iso.readMoment_isoChars h.range h.offset]
  rfl

namespace Cursor

/-- A cursor with an integer of at most 4300 digits, and with moments of the calendar whose offsets
are less than a day. -/
structure Proper (c : Cursor) : Prop where
  lastSeen : ∀ n, c.lastSeen = some n → n.natAbs < 10 ^ Number.digitLimit
  lastTriggered : ∀ m, c.lastTriggered = some m → m.Proper
  lastChecked : ∀ m, c.lastChecked = some m → m.Proper

/-- The cursor that is read from the entries of a cursor. -/
def reloaded (c : Cursor) : Cursor :=
  { c with
    lastTriggered := c.lastTriggered.map Moment.reloaded
    lastChecked := c.lastChecked.map Moment.reloaded }

/-- A cursor whose parts are read back. -/
structure Storable (c : Cursor) : Prop where
  lastSeen : ∀ n, c.lastSeen = some n → (Json.int n).isStorable
  lastTriggered : ∀ m, c.lastTriggered = some m → m.Storable
  lastChecked : ∀ m, c.lastChecked = some m → m.Storable

theorem storable_empty : empty.Storable :=
  ⟨fun _ h => (nomatch h), fun _ h => (nomatch h), fun _ h => (nomatch h)⟩

/-- What changes are written to a cursor that is read back. -/
theorem Storable.write {stored changes : Cursor} (hstored : stored.Storable)
    (hchanges : changes.Storable) : (stored.write changes).Storable where
  lastSeen n h := (Option.or_eq_some_iff.mp h).elim (hchanges.lastSeen n)
    fun h => hstored.lastSeen n h.2
  lastTriggered m h := (Option.or_eq_some_iff.mp h).elim (hchanges.lastTriggered m)
    fun h => hstored.lastTriggered m h.2
  lastChecked m h := (Option.or_eq_some_iff.mp h).elim (hchanges.lastChecked m)
    fun h => hstored.lastChecked m h.2

theorem Storable.changes {update : Cursor} (h : update.Storable) (stored : Cursor) :
    (stored.changes update).Storable where
  lastSeen n hn := h.lastSeen n (Option.filter_eq_some_iff.mp hn).1
  lastTriggered := h.lastTriggered
  lastChecked := h.lastChecked

/-- The keys of the entries of a cursor. -/
def keys : List String :=
  ["last_seen_log_id", "last_triggered_at", "last_checked_at"]

/-- The entries of a cursor by their keys. -/
theorem get?_encode (c : Cursor) :
    c.encode.get? "last_seen_log_id" = c.lastSeen.map (fun n => String.ofList (Json.intText n)) ∧
      c.encode.get? "last_triggered_at" = c.lastTriggered.map (·.isoText) ∧
        c.encode.get? "last_checked_at" = c.lastChecked.map (·.isoText) := by
  obtain ⟨seen, triggered, checked⟩ := c
  cases seen <;> cases triggered <;> cases checked <;> exact ⟨rfl, rfl, rfl⟩

theorem nodup_keys_encode (c : Cursor) : c.encode.keys.Nodup := by
  obtain ⟨seen, triggered, checked⟩ := c
  cases seen <;> cases triggered <;> cases checked <;> simp [encode, Table.keys]

theorem part_eq {α : Type} {entries : Table String String} {key : String} {x : Option α}
    {write : α → String} {read : String → Except Failure α} {reload : α → α}
    (h : entries.get? key = x.map write)
    (back : ∀ a, x = some a → write a ≠ "" ∧ read (write a) = .ok (reload a)) :
    part entries key read = .ok (x.map reload) := by
  cases x with
  | none =>
    rw [part, h]
    rfl
  | some a =>
    obtain ⟨hne, hread⟩ := back a rfl
    rw [part, h]
    change (if write a == "" then _ else (read (write a)).map some) = _
    rw [beq_false_of_ne hne, if_neg Bool.false_ne_true, hread]
    rfl

/-- **A cursor is read from entries** that read under its keys what its own entries do.  What is
read is the cursor up to the parts of offsets that are lost. -/
theorem decode_eq_reloaded {c : Cursor} (h : c.Proper) {entries : Table String String}
    (same : ∀ key ∈ keys, entries.get? key = c.encode.get? key) :
    decode entries = .ok c.reloaded := by
  obtain ⟨hseen, htriggered, hchecked⟩ := get?_encode c
  have seen : part entries "last_seen_log_id" readStoredInt = .ok (c.lastSeen.map id) := by
    refine part_eq ((same _ (by decide)).trans hseen) fun n hn => ⟨?_, ?_⟩
    · obtain ⟨d, ds, hcons, -⟩ := Json.Reader.head_intText n
      intro hempty
      have := congrArg String.toList hempty
      rw [String.toList_ofList, hcons] at this
      cases this
    · exact readStoredInt_intText (Json.isStorable_int_iff.mpr (h.lastSeen n hn))
  have moment {x : Option Moment} (hx : ∀ m, x = some m → m.Proper) (m : Moment)
      (hm : x = some m) : m.isoText ≠ "" ∧ readStoredMoment m.isoText = .ok m.reloaded := by
    refine ⟨fun hempty => ?_, readStoredMoment_isoText (hx m hm)⟩
    have hchars := congrArg String.toList hempty
    rw [Moment.isoText, String.toList_ofList, Moment.isoChars] at hchars
    simp at hchars
  have triggered := part_eq ((same _ (by decide)).trans htriggered) (moment h.lastTriggered)
  have checked := part_eq ((same _ (by decide)).trans hchecked) (moment h.lastChecked)
  rw [decode, seen, triggered, checked, Option.map_id]
  rfl

theorem Storable.proper {c : Cursor} (h : c.Storable) : c.Proper where
  lastSeen n hn := Json.isStorable_int_iff.mp (h.lastSeen n hn)
  lastTriggered m hm := (h.lastTriggered m hm).proper
  lastChecked m hm := (h.lastChecked m hm).proper

theorem Storable.reloaded_eq {c : Cursor} (h : c.Storable) : c.reloaded = c := by
  have moment {x : Option Moment} (hx : ∀ m, x = some m → m.Storable) :
      x.map Moment.reloaded = x := by
    cases x with
    | none => rfl
    | some m => exact congrArg some (hx m rfl).reloaded_eq
  rw [reloaded, moment h.lastTriggered, moment h.lastChecked]

/-- A cursor whose parts are read back is read from entries that read what its own entries do. -/
theorem decode_of_get? {c : Cursor} (h : c.Storable) {entries : Table String String}
    (same : ∀ key ∈ keys, entries.get? key = c.encode.get? key) : decode entries = .ok c := by
  rw [decode_eq_reloaded h.proper same, h.reloaded_eq]

end Cursor

/-! ### Documents -/

theorem AlertType.ofJson_name (t : AlertType) : ofJson (.str t.name) = .ok t := by
  cases t <;> rfl

theorem ChannelType.ofJson_name (t : ChannelType) : ofJson (.str t.name) = .ok t := by
  cases t <;> rfl

/-- Settings that are read back: of a known type, and with values that are read back. -/
structure AlertSettings.Storable (s : AlertSettings) : Prop where
  type : ∃ t : AlertType, s.type = .str t.name
  values : ∀ v ∈ [s.ownerId, s.name, s.description, s.enabled, s.searchQuery, s.threshold,
    s.window, s.cooldown], v.isStorable

/-- An alert whose id, settings and cursor are read back. -/
structure Alert.Storable (a : Alert) : Prop where
  id : (Json.ofInt? a.id).isStorable
  settings : a.settings.Storable
  cursor : a.cursor.Storable

/-- A channel that is read back. -/
structure Channel.Storable (c : Channel) : Prop where
  type : ∃ t : ChannelType, c.type = .str t.name
  values : ∀ v ∈ [c.name, c.config, c.enabled, c.ownerId, .ofInt? c.id], v.isStorable

/-- A channel is read back under any id that is. -/
theorem Channel.Storable.setId {c : Channel} (h : c.Storable) {id : Option Int}
    (hid : (Json.ofInt? id).isStorable) : Channel.Storable { c with id } := by
  refine ⟨h.type, ?_⟩
  have values := h.values
  simp only [List.forall_mem_cons] at values ⊢
  exact ⟨values.1, values.2.1, values.2.2.1, values.2.2.2.1, hid, nofun⟩

/-- A trigger that is read back. -/
structure History.Storable (h : History) : Prop where
  time : h.triggeredAt.Storable
  values : ∀ v ∈ [.ofInt? h.id, .ofInt? h.alertId, h.data, h.notifications], v.isStorable

namespace Alert

/-- **The document of an alert** is read back to its settings and its id. -/
theorem decode_document {a : Alert} (settings : a.settings.Storable)
    (id : (Json.ofInt? a.id).isStorable) :
    ∃ document, a.encode = .ok document ∧
      decode document = .ok { a with channels := [], cursor := .empty } := by
  obtain ⟨⟨t, ht⟩, values⟩ := settings
  obtain ⟨id', ⟨name, query, type, description, enabled, threshold, window, cooldown, owner⟩,
    channels, cursor⟩ := a
  obtain rfl : type = .str t.name := ht
  simp only [List.forall_mem_cons, List.not_mem_nil, false_imp_iff, implies_true, and_true]
    at values
  obtain ⟨howner, hname, hdescription, henabled, hquery, hthreshold, hwindow, hcooldown⟩ := values
  have hstorable : (Json.obj
      [("id", .ofInt? id'), ("owner_id", owner), ("name", name), ("description", description),
        ("enabled", enabled), ("search_query", query), ("alert_type", .str t.name),
        ("velocity_threshold", threshold), ("velocity_window_seconds", window),
        ("cooldown_seconds", cooldown)]).isStorable := by
    simp only [Json.isStorable, Json.haveStorable, howner, hname, hdescription, henabled, hquery,
      hthreshold, hwindow, hcooldown, id, Bool.and_true]
    rfl
  refine ⟨_, by rw [encode, AlertType.ofJson_name]; rfl, ?_⟩
  rw [decode, Document.read_write hstorable]
  change (do
    let type ← AlertType.ofJson (.str t.name)
    _) = _
  rw [AlertType.ofJson_name]
  cases id' <;> rfl

end Alert

namespace Channel

/-- **The document of a channel** is read back to the channel. -/
theorem decode_document {c : Channel} (h : c.Storable) :
    ∃ document, c.encode = .ok document ∧ decode document = .ok c := by
  obtain ⟨⟨t, ht⟩, values⟩ := h
  obtain ⟨type, name, config, enabled, owner, id'⟩ := c
  obtain rfl : type = .str t.name := ht
  simp only [List.forall_mem_cons, List.not_mem_nil, false_imp_iff, implies_true, and_true]
    at values
  obtain ⟨hname, hconfig, henabled, howner, hid⟩ := values
  have hstorable : (Json.obj
      [("channel_type", .str t.name), ("name", name), ("config", config), ("enabled", enabled),
        ("owner_id", owner), ("id", .ofInt? id')]).isStorable := by
    simp only [Json.isStorable, Json.haveStorable, hname, hconfig, henabled, howner, hid,
      Bool.and_true]
    rfl
  refine ⟨_, by rw [encode, ChannelType.ofJson_name]; rfl, ?_⟩
  rw [decode, Document.read_write hstorable]
  change (do
    let type ← ChannelType.ofJson (.str t.name)
    _) = _
  rw [ChannelType.ofJson_name]
  cases id' <;> rfl

end Channel

namespace History

/-- **The document of a trigger** is read back to the trigger. -/
theorem decode_encode {r : History} (h : r.Storable) : decode r.encode = .ok r := by
  obtain ⟨time, values⟩ := h
  obtain ⟨id', alertId, type, data, notifications, triggeredAt⟩ := r
  simp only [List.forall_mem_cons, List.not_mem_nil, false_imp_iff, implies_true, and_true]
    at values
  obtain ⟨hid, halert, hdata, hnotifications⟩ := values
  have hstorable : (Json.obj
      [("id", .ofInt? id'), ("alert_id", .ofInt? alertId), ("trigger_type", .str type.name),
        ("trigger_data", data), ("notifications_sent", notifications),
        ("triggered_at", .str triggeredAt.isoText)]).isStorable := by
    simp only [Json.isStorable, Json.haveStorable, hid, halert, hdata, hnotifications,
      Bool.and_true]
    rfl
  rw [encode]
  generalize hfields : [("id", Json.ofInt? id'), ("alert_id", .ofInt? alertId),
    ("trigger_type", .str type.name), ("trigger_data", data), ("notifications_sent", notifications),
    ("triggered_at", .str triggeredAt.isoText)] = fields at hstorable ⊢
  have hfield (key : String) (v : Json) (h : Json.field? fields key = some v) :
      Document.field fields key = .ok v := by rw [Document.field, h]
  have h₁ := hfield "id" (.ofInt? id') (by rw [← hfields]; rfl)
  have h₂ := hfield "alert_id" (.ofInt? alertId) (by rw [← hfields]; rfl)
  have h₃ := hfield "trigger_type" (.str type.name) (by rw [← hfields]; rfl)
  have h₄ := hfield "trigger_data" data (by rw [← hfields]; rfl)
  have h₅ := hfield "notifications_sent" notifications (by rw [← hfields]; rfl)
  have h₆ := hfield "triggered_at" (.str triggeredAt.isoText) (by rw [← hfields]; rfl)
  simp only [decode, Document.read_write hstorable, bind, Except.bind, Document.fields, h₁, h₂, h₃,
    h₄, h₅, h₆, AlertType.ofJson_name, readStoredMoment_isoText time.proper, time.reloaded_eq]
  cases id' <;> cases alertId <;> rfl

end History

end LogAlert
