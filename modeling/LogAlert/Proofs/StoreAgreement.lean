import LogAlert.Proofs.ServedAlerts

/-!
# The alert stores agree

An alert store in a key-value server answers requests as a book does, if the server raises no error
and nobody else writes to it.  Both start empty and are asked the same requests one after the other.
The data of the server mirror the book all the time: this holds at the beginning, every request
keeps it so, and on data that mirror a book a request is answered as by the book.

A book takes more than can be stored as texts.  The requests bring values that are read back:
integers of at most 4300 digits, moments whose offset is not lost, and in documents no numbers of
double precision.  A moment whose offset is lost tells the stores apart.

## Main definitions

* `AlertBook.Admits` : the requests that both stores answer alike.
* `AlertRequest.SameAnswer` : two answers to a request are the same.
* `AlertStore.Agrees` : a store on a server and a book answer a sequence of requests alike.

## Main results

* `AlertStore.answersAs_of_mirrors` : one request.
* `AlertStore.agrees_of_admits` : a sequence of requests to empty stores.
* `AlertStore.small_offset_tells_apart` : an offset of half a second.
-/

namespace LogAlert

open KeyValue AlertStore
open Simulation (Server)
open Simulation.Server (Ends)

/-! ### Requests and answers -/

/-- The requests of a book that a server takes as well.  Alerts and channels are saved under an id
that is there or under the next one, which the counter of the server can give; alerts that are
there are linked to channels that are there; and the triggers of an alert come with times that
compare and are not earlier than the ones before. -/
def AlertBook.Admits (b : AlertBook) : AlertRequest → Prop
  | .save a _ =>
    a.settings.Storable ∧ a.cursor.Storable ∧
      (∀ i, a.id = some i → (b.alerts.get? i).isSome) ∧
      (a.id = none → (Json.int b.nextAlert).isStorable)
  | .setChannels id channelIds =>
    (b.alert? id).isSome ∧ ∀ c ∈ channelIds, b.channels.has c
  | .updateCursor _ update => update.Storable
  | .createHistory a type data notifications time =>
    (∃ t : AlertType, type = .str t.name) ∧ data.isStorable ∧ notifications.isStorable ∧
      time.Storable ∧ time.isAware ∧
      (∀ r ∈ b.recorded a.id, r.triggeredAt.instant ≤ time.instant) ∧
      (Json.int b.nextHistory).isStorable
  | .listHistory _ limit => 1 ≤ limit
  | .saveChannel c =>
    c.Storable ∧ (∀ i, c.id = some i → (b.channels.get? i).isSome) ∧
      (c.id = none → (Json.int b.nextChannel).isStorable)
  | _ => True

/-- All requests of a sequence are admitted, each by the book after the ones before. -/
def AlertBook.AdmitsAll : AlertBook → List AlertRequest → Prop
  | _, [] => True
  | b, r :: rs => b.Admits r ∧ AdmitsAll (b.answer r).2 rs

/-- Two answers to a request are the same.  A cursor is moved in the same way, and the alert that
is answered with it may have the settings of the request or those that are stored. -/
def AlertRequest.SameAnswer : (r : AlertRequest) → (x y : Except Failure r.Answer) → Prop
  | .updateCursor .., x, y => x.map (·.cursor) = y.map (·.cursor)
  | _, x, y => x = y

namespace KeyValue.AlertStore

/-- The answer of a store on a server, and the server after it. -/
def answer (st : AlertStore) (r : AlertRequest) (s : Server) : Except Failure r.Answer × Server :=
  (st.serve r).run (fun r s => s.answer r) s

/-- A store on a server and a book answer requests alike, one after the other. -/
def Agrees (st : AlertStore) : AlertBook → Server → List AlertRequest → Prop
  | _, _, [] => True
  | b, s, r :: rs =>
    r.SameAnswer (st.answer r s).1 (b.answer r).1 ∧ Agrees st (b.answer r).2 (st.answer r s).2 rs

end KeyValue.AlertStore

/-! ### One request -/

namespace AlertBook

variable {b : AlertBook}

theorem updateCursor_absent {id : Option Int} (absent : b.alert? id = none) (u : Cursor) :
    b.updateCursor id u = (b, .error (noSuchAlert id)) := by
  have hnone : (id.bind fun i => (b.alerts.get? i).map (i, ·)) = none := by
    cases id with
    | none => rfl
    | some i => exact congrArg (Option.map (i, ·)) absent
  rw [updateCursor, hnone]

theorem createHistory_absent {id : Option Int} (absent : b.alert? id = none)
    (type data notifications : Json) (time : Moment) :
    b.createHistory id type data notifications time = (b, .error (noSuchAlert id)) := by
  have hnone : id.filter b.alerts.has = none := by
    cases id with
    | none => rfl
    | some i =>
      have hget : b.alerts.get? i = none := absent
      rw [Option.filter_some, Table.has_eq_isSome, hget]
      rfl
  rw [createHistory, hnone]

end AlertBook

namespace KeyValue.AlertStore

variable {st : AlertStore} {b : AlertBook} {db : Database}

/-- On the data of a server the store answers a request as a book does, and leaves data that mirror
the book after the request. -/
def AnswersAs (st : AlertStore) (b : AlertBook) (db : Database) (r : AlertRequest) : Prop :=
  ∃ x db', Ends (st.serve r) db x db' ∧ r.SameAnswer x (b.answer r).1 ∧
    (b.answer r).2.Storable ∧ st.Mirrors (b.answer r).2 db'

theorem answersAs_save (hb : b.Storable) (h : st.Mirrors b db) {a : Alert} {resetBaseline : Bool}
    (admitted : b.Admits (.save a resetBaseline)) : st.AnswersAs b db (.save a resetBaseline) := by
  obtain ⟨settings, cursor, there, next⟩ := admitted
  cases hid : a.id with
  | none =>
    obtain ⟨db', hends, hmirror⟩ :=
      ends_save_new hb h hid settings cursor (next hid) resetBaseline
    exact ⟨_, db', hends, rfl, hb.save_new hid settings cursor (next hid) resetBaseline, hmirror⟩
  | some i =>
    obtain ⟨current, hcurrent⟩ := Option.isSome_iff_exists.mp (there i hid)
    obtain ⟨db', hends, hmirror⟩ :=
      ends_save_old hb h hid hcurrent settings cursor resetBaseline
    exact ⟨_, db', hends, rfl, hb.save_old hid hcurrent settings cursor resetBaseline, hmirror⟩

theorem answersAs_setChannels (hb : b.Storable) (h : st.Mirrors b db) {id : Option Int}
    {channelIds : List Int} (admitted : b.Admits (.setChannels id channelIds)) :
    st.AnswersAs b db (.setChannels id channelIds) := by
  obtain ⟨there, existing⟩ := admitted
  cases id with
  | none => cases there
  | some i =>
    obtain ⟨db', hends, hmirror⟩ := ends_setChannels hb h there existing
    refine ⟨_, db', hends, rfl, ?_, hmirror⟩
    change (b.setChannels (some i) channelIds).1.Storable
    rw [AlertBook.setChannels_ok there]
    exact hb.setLinks _

theorem answersAs_updateCursor (hb : b.Storable) (h : st.Mirrors b db)
    (attempts : 0 < st.attempts) (a : Alert) {update : Cursor} (storable : update.Storable) :
    st.AnswersAs b db (.updateCursor a update) := by
  change ∃ x db', Ends (st.updateCursor a update) db x db' ∧
    x.map (·.cursor) = (b.updateCursor a.id update).2.map (·.cursor) ∧
      (b.updateCursor a.id update).1.Storable ∧ st.Mirrors (b.updateCursor a.id update).1 db'
  cases ha : b.alert? a.id with
  | none =>
    refine ⟨_, db, ends_updateCursor_absent h attempts ha update, ?_⟩
    rw [AlertBook.updateCursor_absent ha]
    exact ⟨rfl, hb, h⟩
  | some current =>
    obtain ⟨i, hid, there⟩ := Option.bind_eq_some_iff.mp ha
    obtain ⟨db', hends, hmirror⟩ := ends_updateCursor hb h attempts hid there update
    rw [hid]
    refine ⟨_, db', hends, ?_, hb.updateCursor there storable, hmirror⟩
    rw [AlertBook.updateCursor_ok there]
    rfl

theorem answersAs_createHistory (hb : b.Storable) (h : st.Mirrors b db)
    (attempts : 0 < st.attempts) {a : Alert} {type data notifications : Json} {time : Moment}
    (admitted : b.Admits (.createHistory a type data notifications time)) :
    st.AnswersAs b db (.createHistory a type data notifications time) := by
  obtain ⟨⟨t, rfl⟩, hdata, hnotifications, htime, aware, later, next⟩ := admitted
  change ∃ x db', Ends (st.createHistory a (.str t.name) data notifications time) db x db' ∧
    x = (b.createHistory a.id (.str t.name) data notifications time).2 ∧
      (b.createHistory a.id (.str t.name) data notifications time).1.Storable ∧
      st.Mirrors (b.createHistory a.id (.str t.name) data notifications time).1 db'
  cases ha : b.alert? a.id with
  | none =>
    refine ⟨_, db, ends_createHistory_absent h attempts ha _ data notifications time, ?_⟩
    rw [AlertBook.createHistory_absent ha]
    exact ⟨rfl, hb, h⟩
  | some current =>
    obtain ⟨i, hid, there⟩ := Option.bind_eq_some_iff.mp ha
    have hsome : (b.alerts.get? i).isSome := Option.isSome_iff_exists.mpr ⟨current, there⟩
    obtain ⟨db', hends, hmirror⟩ :=
      ends_createHistory hb h attempts hid there t data notifications time next
    rw [hid] at later ⊢
    have hrow : (b.nextRow i t data notifications time).Storable := by
      refine ⟨htime, ?_⟩
      simp only [AlertBook.nextRow, List.forall_mem_cons]
      exact ⟨next, hb.isStorable_alertId there, hdata, hnotifications, nofun⟩
    refine ⟨_, db', hends, ?_, hb.createHistory hsome t hrow aware later, hmirror⟩
    rw [AlertBook.createHistory_ok t data notifications time hsome]

theorem answersAs_saveChannel (hb : b.Storable) (h : st.Mirrors b db) {c : Channel}
    (admitted : b.Admits (.saveChannel c)) : st.AnswersAs b db (.saveChannel c) := by
  obtain ⟨hc, there, next⟩ := admitted
  cases hid : c.id with
  | none =>
    obtain ⟨db', hends, hmirror⟩ := ends_saveChannel_new h hid hc (next hid)
    exact ⟨_, db', hends, rfl, hb.saveChannel_new hid hc (next hid), hmirror⟩
  | some i =>
    obtain ⟨db', hends, hmirror⟩ := ends_saveChannel_old h hid (there i hid) hc
    exact ⟨_, db', hends, rfl, hb.saveChannel_old hid (there i hid) hc, hmirror⟩

/-- **One request is answered as by the book**, if the data of the server mirror it, and leaves data
that mirror the book after the request. -/
theorem answersAs_of_mirrors (hb : b.Storable) (h : st.Mirrors b db) (attempts : 0 < st.attempts)
    (r : AlertRequest) (admitted : b.Admits r) : st.AnswersAs b db r := by
  cases r with
  | listEnabled => exact ⟨_, db, ends_listEnabled hb h, rfl, hb, h⟩
  | listAlerts owner => exact ⟨_, db, ends_listAlerts hb h owner, rfl, hb, h⟩
  | get id => exact ⟨_, db, ends_get hb h id, rfl, hb, h⟩
  | listHistory id limit => exact ⟨_, db, ends_listHistory hb h id admitted, rfl, hb, h⟩
  | getChannel id => exact ⟨_, db, ends_readChannel hb h id, rfl, hb, h⟩
  | listChannels owner => exact ⟨_, db, ends_listChannels hb h owner, rfl, hb, h⟩
  | save a resetBaseline => exact answersAs_save hb h admitted
  | setChannels id channelIds => exact answersAs_setChannels hb h admitted
  | updateCursor a update => exact answersAs_updateCursor hb h attempts a admitted
  | createHistory a type data notifications time =>
    exact answersAs_createHistory hb h attempts admitted
  | saveChannel c => exact answersAs_saveChannel hb h admitted
  | delete id =>
    obtain ⟨db', hends, hmirror⟩ := ends_delete h id
    exact ⟨_, db', hends, rfl, hb.delete id, hmirror⟩
  | deleteChannel id =>
    obtain ⟨db', hends, hmirror⟩ := ends_deleteChannel h id
    exact ⟨_, db', hends, rfl, hb.deleteChannel id, hmirror⟩

/-! ### Sequences of requests -/

/-- From data that mirror a book on, requests are answered as by the book. -/
theorem Mirrors.agrees (attempts : 0 < st.attempts) (hb : b.Storable) (h : st.Mirrors b db)
    {requests : List AlertRequest} (admitted : b.AdmitsAll requests) :
    st.Agrees b ⟨db, []⟩ requests := by
  induction requests generalizing b db with
  | nil => trivial
  | cons r rs ih =>
    obtain ⟨head, tail⟩ := admitted
    obtain ⟨x, db', hends, same, storable, mirrors⟩ := answersAs_of_mirrors hb h attempts r head
    have hanswer : st.answer r ⟨db, []⟩ = (x, ⟨db', []⟩) := hends
    rw [Agrees, hanswer]
    exact ⟨same, ih storable mirrors tail⟩

/-- **The alert stores agree.**  From empty stores on, an alert store in a key-value server that
raises no error and that nobody else writes to, and that tries its writes at least once, answers
every sequence of admitted requests as the book does: the reads give the same, the same ids are
assigned, removals tell the same, and the writes of an evaluation fail in the same requests with
the same failures. -/
theorem agrees_of_admits (attempts : 0 < st.attempts) {requests : List AlertRequest}
    (admitted : AlertBook.empty.AdmitsAll requests) :
    st.Agrees .empty .empty requests :=
  (mirrors_empty st).agrees attempts AlertBook.storable_empty admitted

namespace Sample

/-- A store that tries a write three times. -/
def store : AlertStore where
  keyPrefix := "app"
  attempts := 3

/-- A channel without an id. -/
def channel : Channel where
  type := .str "slack"
  name := .str "operators"
  config := .obj [("webhook_url", .str "hook")]
  enabled := .bool true
  ownerId := .null
  id := none

/-- An alert without an id. -/
def alert : Alert where
  id := none
  settings :=
    { name := .str "errors"
      searchQuery := .str "error"
      type := .str "any_match"
      description := .str ""
      enabled := .bool true
      threshold := .null
      window := .null
      cooldown := .int 300
      ownerId := .null }
  channels := []
  cursor := .empty

/-- The time of a check. -/
def noon : Moment := ⟨63890000000000000, some 0⟩

/-- An alert is linked to a channel, moves on and triggers; then the channel is removed, and an
alert that was never there is asked to move on. -/
def requests : List AlertRequest :=
  [.saveChannel channel, .save alert false, .setChannels (some 1) [1],
    .updateCursor { alert with id := some 1 } ⟨some 7, none, some noon⟩,
    .createHistory { alert with id := some 1 } (.str "any_match") (.obj [("match_count", .int 1)])
      (.arr []) noon,
    .deleteChannel (some 1), .get (some 1), .listHistory (some 1) 5,
    .updateCursor { alert with id := some 2 } .empty]

theorem storable_noon : noon.Storable where
  range := by decide
  offset := ⟨⟨by decide, by decide⟩, .inl rfl⟩

theorem admitted : AlertBook.empty.AdmitsAll requests := by
  refine ⟨?_, ?_, ?_, ?_, ?_, trivial, trivial, ?_, ?_, trivial⟩
  · exact ⟨⟨⟨.slack, rfl⟩, by decide⟩, nofun, fun _ => by decide⟩
  · exact ⟨⟨⟨.anyMatch, rfl⟩, by decide⟩, Cursor.storable_empty, nofun, fun _ => by decide⟩
  · exact ⟨by decide, by decide⟩
  · refine ⟨fun n hn => ?_, nofun, fun m hm => ?_⟩
    · cases hn
      decide
    · cases hm
      exact storable_noon
  · exact ⟨⟨.anyMatch, rfl⟩, by decide, by decide, storable_noon, rfl, nofun, by decide⟩
  · exact (by decide : (1 : Int) ≤ 5)
  · exact Cursor.storable_empty

end Sample

/-- An alert that loses its channel, and one that was never there. -/
theorem agrees_of_sample : Sample.store.Agrees .empty .empty Sample.requests :=
  agrees_of_admits (by decide) Sample.admitted

namespace Sample

/-- An alert is told of a trigger by a clock that is half a second ahead of UTC, and is read. -/
def halfSecondAhead : List AlertRequest :=
  [.save alert false, .updateCursor { alert with id := some 1 } Cursor.Sample.halfSecond,
    .get (some 1)]

theorem exists_there : ∃ db, (store.answer (.save alert false) .empty).2 = ⟨db, []⟩ ∧
    store.There db 1 { alert with id := some 1 } ∧
    store.Mirrors (AlertBook.empty.answer (.save alert false)).2 db := by
  have settings : alert.settings.Storable := ⟨⟨.anyMatch, rfl⟩, by decide⟩
  have cursor := Cursor.storable_empty
  have next : (Json.int AlertBook.empty.nextAlert).isStorable := by decide
  obtain ⟨db, saved, mirrors⟩ := ends_save_new AlertBook.storable_empty (mirrors_empty store)
    (a := alert) rfl settings cursor next false
  have storable := AlertBook.storable_empty.save_new (a := alert) rfl settings cursor next false
  have there : store.There db 1 { alert with id := some 1 } :=
    ⟨rfl, ends_get storable mirrors (some 1), _, Database.members_eq (mirrors .alerts), by decide⟩
  exact ⟨db, congrArg Prod.snd saved, there, mirrors⟩

end Sample

/-- A time whose offset is half a second is read differently of the two stores. -/
theorem small_offset_tells_apart :
    Cursor.Sample.halfSecond.Proper ∧
      ¬Sample.store.Agrees .empty .empty Sample.halfSecondAhead := by
  refine ⟨Cursor.Sample.proper_halfSecond, ?_⟩
  rintro ⟨-, -, read, -⟩
  obtain ⟨db, saved, there, -⟩ := Sample.exists_there
  obtain ⟨entries, hentries, stored⟩ := there.keeps.cursor
  have own : Alert.id { Sample.alert with id := some 1 } = some 1 := rfl
  obtain ⟨moved, there⟩ :=
    there.move (by decide) own Cursor.Sample.proper_halfSecond hentries stored
  have moved : (Sample.store.answer (.updateCursor { Sample.alert with id := some 1 }
      Cursor.Sample.halfSecond) ⟨db, []⟩).2 = _ := congrArg Prod.snd moved
  have found : (Sample.store.answer (.get (some 1)) ⟨_, []⟩).1 = _ := congrArg Prod.fst there.read
  rw [saved, moved] at read
  -- the store has dropped the offset, and the book has kept it
  cases found.symm.trans read

end KeyValue.AlertStore

end LogAlert
