import LogAlert.Proofs.Calls
import LogAlert.Proofs.DecodingFailures
import LogAlert.Proofs.StoreKeys
import LogAlert.Simulation.Server

/-!
# Reads of an alert store

A read asks the server for content and decodes each answer before it asks for the next.  It ends
with the first command that fails, or with the first content that is refused, and otherwise it
returns.  The failure of a command becomes a failure of the store.  The refusal of content does
not: it leaves the store as the decoder's own failure.

## Main definitions

* `AlertRequest.Reading` : the requests that only read.
* `AlertStore.Undecodable` : the answers whose content is refused.
* `AlertStore.Readable` : the answers that a read goes on with.
* `AlertStore.Genuine` : commands fail with failures of the client.

## Main results

* `AlertStore.ends_serve` : how a read ends.
* `AlertStore.reads_end` : when a read returns, fails as a store and fails otherwise.
-/

namespace LogAlert

/-- The requests that only read. -/
def AlertRequest.Reading : AlertRequest → Prop
  | .listEnabled | .listAlerts _ | .get _ => True
  | .listHistory .. | .getChannel _ | .listChannels _ => True
  | _ => False

namespace KeyValue.AlertStore

open Client Failure Script

/-! ### Refused content -/

/-- The ids in the answer to a request for links, where no links and an empty text stand for
none. -/
def idsOfLinks : Option String → Except Failure (List String)
  | none => .ok []
  | some raw => if raw == "" then .ok [] else do linkedIds (← Document.read raw)

/-- The content of an answer is refused with a failure: a document by its key, the entries of a
cursor, the ids of a set, or the triggers of a list. -/
inductive Undecodable (st : AlertStore) : Call Client → Failure → Prop where
  | alert {e : Failure} {id : Option Int} {raw : Option String}
      (h : raw.mapM Alert.decode = .error e) :
      Undecodable st ⟨.read (.get (st.alertKey (idText id))), .ok raw⟩ e
  | links {e : Failure} {id : Option Int} {raw : Option String} (h : idsOfLinks raw = .error e) :
      Undecodable st ⟨.read (.get (st.linksKey (idText id))), .ok raw⟩ e
  | channel {e : Failure} {id : String} {raw : Option String}
      (h : raw.mapM Channel.decode = .error e) :
      Undecodable st ⟨.read (.get (st.channelKey id)), .ok raw⟩ e
  | cursor {e : Failure} {key : String} {entries : Table String String}
      (h : Cursor.decode entries = .error e) :
      Undecodable st ⟨.read (.entries key), .ok entries⟩ e
  | ids {e : Failure} {key : String} {members : List String} (h : sortedIds members = .error e) :
      Undecodable st ⟨.read (.members key), .ok members⟩ e
  | history {e : Failure} {key : String} {start stop : Int} {items : List String}
      (h : items.reverse.mapM History.decode = .error e) :
      Undecodable st ⟨.read (.range key start stop), .ok items⟩ e

variable {st : AlertStore} {e : Failure} {α β : Type}

/-! ### The keys of documents -/

theorem linksKey_ne {id other : Option Int} :
    st.linksKey (idText other) ≠ st.alertKey (idText id) := fun h =>
  nomatch (slotKey_inj (s := .links other) (t := .alert id)).mp h

theorem channelKey_ne {id : Option Int} {text : String} :
    st.alertKey (idText id) ≠ st.channelKey text ∧ st.linksKey (idText id) ≠ st.channelKey text :=
  ⟨slotKey_ne_channelKey (s := .alert id) (fun _ => nofun) text,
    slotKey_ne_channelKey (s := .links id) (fun _ => nofun) text⟩

theorem undecodable_alert {id : Option Int} {raw : Option String} :
    st.Undecodable ⟨.read (.get (st.alertKey (idText id))), .ok raw⟩ e ↔
      raw.mapM Alert.decode = .error e := by
  refine ⟨fun h => ?_, .alert⟩
  generalize hkey : st.alertKey (idText id) = key at h
  cases h with
  | alert h => exact h
  | links h => exact absurd hkey.symm linksKey_ne
  | channel h => exact absurd hkey channelKey_ne.1

theorem undecodable_links {id : Option Int} {raw : Option String} :
    st.Undecodable ⟨.read (.get (st.linksKey (idText id))), .ok raw⟩ e ↔
      idsOfLinks raw = .error e := by
  refine ⟨fun h => ?_, .links⟩
  generalize hkey : st.linksKey (idText id) = key at h
  cases h with
  | alert h => exact absurd hkey linksKey_ne
  | links h => exact h
  | channel h => exact absurd hkey channelKey_ne.2

theorem undecodable_channel {id : String} {raw : Option String} :
    st.Undecodable ⟨.read (.get (st.channelKey id)), .ok raw⟩ e ↔
      raw.mapM Channel.decode = .error e := by
  refine ⟨fun h => ?_, .channel⟩
  generalize hkey : st.channelKey id = key at h
  cases h with
  | alert h => exact absurd hkey.symm channelKey_ne.1
  | links h => exact absurd hkey.symm channelKey_ne.2
  | channel h => exact h

theorem undecodable_cursor {key : String} {entries : Table String String} :
    st.Undecodable ⟨.read (.entries key), .ok entries⟩ e ↔ Cursor.decode entries = .error e :=
  ⟨fun | .cursor h => h, .cursor⟩

theorem undecodable_ids {key : String} {members : List String} :
    st.Undecodable ⟨.read (.members key), .ok members⟩ e ↔ sortedIds members = .error e :=
  ⟨fun | .ids h => h, .ids⟩

theorem undecodable_history {key : String} {start stop : Int} {items : List String} :
    st.Undecodable ⟨.read (.range key start stop), .ok items⟩ e ↔
      items.reverse.mapM History.decode = .error e :=
  ⟨fun | .history h => h, .history⟩

theorem Undecodable.decides {c : Call Client} {e' : Failure} (h : st.Undecodable c e)
    (h' : st.Undecodable c e') : e = e' := by
  cases h with
  | alert h => exact Except.error.inj (h.symm.trans (undecodable_alert.mp h'))
  | links h => exact Except.error.inj (h.symm.trans (undecodable_links.mp h'))
  | channel h => exact Except.error.inj (h.symm.trans (undecodable_channel.mp h'))
  | cursor h => exact Except.error.inj (h.symm.trans (undecodable_cursor.mp h'))
  | ids h => exact Except.error.inj (h.symm.trans (undecodable_ids.mp h'))
  | history h => exact Except.error.inj (h.symm.trans (undecodable_history.mp h'))

theorem decodes_idsOfLinks (raw : Option String) : Decodes (idsOfLinks raw) := by
  rw [idsOfLinks.eq_def]
  split
  · exact .ok
  · split
    · exact .ok
    · exact (Document.decodes_read _).bind decodes_linkedIds

theorem Undecodable.ofContent {c : Call Client} (h : st.Undecodable c e) : e.OfContent := by
  cases h with
  | alert h => exact Decodes.optionMapM Alert.decodes_decode _ e h
  | links h => exact decodes_idsOfLinks _ e h
  | channel h => exact Decodes.optionMapM Channel.decodes_decode _ e h
  | cursor h => exact Cursor.decodes_decode _ e h
  | ids h => exact decodes_sortedIds _ e h
  | history h => exact Decodes.mapM History.decodes_decode _ e h

theorem Undecodable.answered {c : Call Client} (h : st.Undecodable c e) :
    ∃ x, c.answer = .ok x := by
  cases h <;> exact ⟨_, rfl⟩

/-! ### How a read ends -/

/-- A command is answered, and the content of the answer is not refused. -/
def Readable (st : AlertStore) (c : Call Client) : Prop :=
  (∃ x, c.answer = .ok x) ∧ ∀ e, ¬st.Undecodable c e

/-- A call that does not fail, or that is a command and fails with a failure of the client. -/
def Genuine (c : Call Client) : Prop :=
  ∀ e, c.answer = .error e → e.isClient ∧ (Simulation.Server.commandOf c.request).isSome

instance : DecidablePred Genuine
  | ⟨_, .ok _⟩ => isTrue nofun
  | ⟨request, .error e⟩ =>
    decidable_of_iff (e.isClient ∧ (Simulation.Server.commandOf request).isSome)
      ⟨fun h _ heq => Except.error.inj heq ▸ h, fun h => h e rfl⟩

/-- How a read ends after some calls: all answers were good and it returns, or the last command
failed and the read ends in a failure with the property `Surfaces`, or the last content was refused
and the read ends in this refusal. -/
inductive ReadEnds (st : AlertStore) (Surfaces : Failure → Prop) :
    List (Call Client) → Except Failure α → Prop where
  | returned {calls : List (Call Client)} {a : α} (readable : ∀ c ∈ calls, st.Readable c) :
      ReadEnds st Surfaces calls (.ok a)
  | failed {calls : List (Call Client)} {c : Call Client} {e e' : Failure}
      (readable : ∀ c ∈ calls, st.Readable c) (fails : c.answer = .error e')
      (surfaces : Surfaces e) : ReadEnds st Surfaces (calls ++ [c]) (.error e)
  | refused {calls : List (Call Client)} {c : Call Client} {e : Failure}
      (readable : ∀ c ∈ calls, st.Readable c) (h : st.Undecodable c e) :
      ReadEnds st Surfaces (calls ++ [c]) (.error e)

theorem ReadEnds.error {Surfaces : Failure → Prop} {calls : List (Call Client)}
    (h : ReadEnds st Surfaces calls (.error e : Except Failure α)) :
    ReadEnds st Surfaces calls (.error e : Except Failure β) := by
  cases h with
  | failed readable fails surfaces => exact .failed readable fails surfaces
  | refused readable h => exact .refused readable h

theorem ReadEnds.mono {Surfaces Other : Failure → Prop} {calls : List (Call Client)}
    {result : Except Failure α} (h : ReadEnds st Surfaces calls result)
    (weaker : ∀ e, Surfaces e → Other e) : ReadEnds st Other calls result := by
  cases h with
  | returned readable => exact .returned readable
  | failed readable fails surfaces => exact .failed readable fails (weaker _ surfaces)
  | refused readable h => exact .refused readable h

/-- A script decodes what it is answered, and ends with the first failure. -/
def Reads (st : AlertStore) (Surfaces : Failure → Prop) (script : Script Client α) : Prop :=
  ∀ before, (∀ c ∈ before, st.Readable c) → script.Ensures before fun calls result =>
    (∀ c ∈ calls, Genuine c) → ReadEnds st Surfaces calls result

section Reads

variable {Surfaces Other : Failure → Prop}

theorem reads_pure {a : α} : st.Reads Surfaces (pure a : Script Client α) :=
  fun _ readable => .pure fun _ => .returned readable

theorem Reads.mono {script : Script Client α} (h : st.Reads Surfaces script)
    (weaker : ∀ e, Surfaces e → Other e) : st.Reads Other script :=
  fun before readable calls result made genuine =>
    (h before readable calls result made genuine).mono weaker

theorem Reads.bind {script : Script Client α} {next : α → Script Client β}
    (first : st.Reads Surfaces script) (second : ∀ a, st.Reads Surfaces (next a)) :
    st.Reads Surfaces (script >>= next) := by
  intro before readable
  refine (first before readable).bind (fun calls e h genuine => (h genuine).error)
    fun calls a h more result made genuine => ?_
  have readable' : ∀ c ∈ calls, st.Readable c := by
    cases h fun c hc => genuine c (List.mem_append_left _ hc) with
    | returned readable => exact readable
  exact second a calls readable' more result made genuine

theorem reads_mapList {f : α → Script Client β} {as : List α}
    (h : ∀ a ∈ as, st.Reads Surfaces (f a)) : st.Reads Surfaces (mapList f as) := by
  induction as with
  | nil => exact reads_pure
  | cons a as ih =>
    obtain ⟨ha, has⟩ := List.forall_mem_cons.mp h
    exact ha.bind fun b => (ih has).bind fun bs => reads_pure

theorem reads_begins (operation : String) : st.Reads Surfaces (begins operation) := by
  intro before readable
  refine .ask fun answer => .ofExcept fun genuine => ?_
  cases answer with
  | error e =>
    exact nomatch (genuine _ (List.mem_append_right _ List.mem_cons_self) e rfl).2
  | ok x =>
    refine .returned fun c hc => ?_
    rcases List.mem_append.mp hc with hc | hc
    · exact readable c hc
    · obtain rfl := List.mem_singleton.mp hc
      exact ⟨⟨_, rfl⟩, fun e h => nomatch h⟩

/-- A command whose answer is decoded. -/
theorem reads_fetch {r : Read} {decode : r.Answer → Except Failure β}
    (client : ∀ e, e.isClient → Surfaces e)
    (undecodable : ∀ x e, st.Undecodable ⟨.read r, .ok x⟩ e ↔ decode x = .error e) :
    st.Reads Surfaces (read r >>= fun x => ofExcept (decode x)) := by
  intro before readable
  refine .request_bind (fun e genuine => ?_) fun x => ?_
  · exact .failed readable rfl
      (client e (genuine _ (List.mem_append_right _ List.mem_cons_self) e rfl).1)
  · refine .ofExcept fun genuine => ?_
    cases hdecode : decode x with
    | error e => exact .refused readable ((undecodable x e).mpr hdecode)
    | ok b =>
      refine .returned fun c hc => ?_
      rcases List.mem_append.mp hc with hc | hc
      · exact readable c hc
      · obtain rfl := List.mem_singleton.mp hc
        refine ⟨⟨_, rfl⟩, fun e h => ?_⟩
        rw [undecodable x e, hdecode] at h
        cases h

/-- A command whose answer is decoded for what follows. -/
theorem reads_decoded {r : Read} {decode : r.Answer → Except Failure β}
    {next : β → Script Client α} (client : ∀ e, e.isClient → Surfaces e)
    (undecodable : ∀ x e, st.Undecodable ⟨.read r, .ok x⟩ e ↔ decode x = .error e)
    (h : ∀ b, st.Reads Surfaces (next b)) :
    st.Reads Surfaces (read r >>= fun x => ofExcept (decode x) >>= next) := by
  rw [← bind_bind]
  exact (reads_fetch client undecodable).bind h

end Reads

/-! ### Failures of the store -/

/-- Failures of the client and of the store. -/
def OfServer (e : Failure) : Prop :=
  e.isClient ∨ e.kind = .store

/-- Failures of the store. -/
def OfStore (e : Failure) : Prop :=
  e.kind = .store

theorem OfStore.ofServer (h : OfStore e) : OfServer e := .inr h

theorem ofStore_storeFailure (action : String) (h : OfServer e) :
    OfStore (storeFailure action e) := by
  rw [storeFailure]
  split
  · rfl
  · next notClient => exact h.resolve_left notClient

theorem storeFailure_ofContent (action : String) (h : e.OfContent) : storeFailure action e = e := by
  rw [storeFailure, h.not_client]
  rfl

theorem ReadEnds.guarded {calls : List (Call Client)} {result : Except Failure α} (action : String)
    (h : st.ReadEnds OfServer calls result) :
    st.ReadEnds OfStore calls (result.mapError (storeFailure action)) := by
  cases h with
  | returned readable => exact .returned readable
  | failed readable fails surfaces =>
    exact .failed readable fails (ofStore_storeFailure action surfaces)
  | refused readable h =>
    rw [Except.mapError, storeFailure_ofContent action h.ofContent]
    exact .refused readable h

/-- A guard makes failures of the client failures of the store. -/
theorem Reads.guarded {script : Script Client α} (action : String)
    (h : st.Reads OfServer script) : st.Reads OfStore (guarded action script) := by
  intro before readable calls result made genuine
  rcases makes_bind.mp made with ⟨e, attempted, -⟩ | ⟨ended, first, second, attempted, rest, rfl⟩
  · obtain ⟨_, -, ⟨⟩⟩ := makes_attempt.mp attempted
  · obtain ⟨_, hfirst, heq⟩ := makes_attempt.mp attempted
    obtain rfl := Except.ok.inj heq
    obtain ⟨rfl, rfl⟩ : second = [] ∧ result = ended.mapError (storeFailure action) := by
      cases ended with
      | ok a => exact makes_pure.mp rest
      | error e => exact makes_done.mp rest
    rw [List.append_nil] at genuine ⊢
    exact (h before readable _ _ hfirst genuine).guarded action

/-- It does not matter whether a guard encloses the decoding of an answer. -/
theorem guarded_decode (action : String) {r : Read} {decode : r.Answer → Except Failure β}
    (decodes : ∀ x, Decodes (decode x)) :
    (KeyValue.AlertStore.guarded action (read r) >>= fun x => ofExcept (decode x)) =
      KeyValue.AlertStore.guarded action (read r >>= fun x => ofExcept (decode x)) := by
  refine congrArg (Script.ask _) (funext fun answer => ?_)
  cases answer with
  | error e => rfl
  | ok x =>
    change ofExcept (decode x) = KeyValue.AlertStore.guarded action (ofExcept (decode x))
    cases h : decode x with
    | ok b => rfl
    | error e => exact congrArg fail (storeFailure_ofContent action (decodes x e h)).symm

/-! ### The reads of a store -/

theorem readChannel_eq (st : AlertStore) (id : String) : st.readChannel id =
    begins "get_channel" >>= fun _ => KeyValue.AlertStore.guarded ("read channel " ++ id)
      (read (.get (st.channelKey id)) >>= fun raw => ofExcept (raw.mapM Channel.decode)) := by
  rw [← guarded_decode _ (Decodes.optionMapM Channel.decodes_decode), readChannel]
  congr 1
  funext _
  congr 1
  funext raw
  cases raw with
  | none => rfl
  | some raw =>
    change some <$> ofExcept (Channel.decode raw) = ofExcept (some <$> Channel.decode raw)
    cases Channel.decode raw <;> rfl

theorem reads_readChannel (id : String) : st.Reads OfStore (st.readChannel id) := by
  rw [readChannel_eq]
  exact (reads_begins _).bind fun _ => (reads_fetch (fun e => .inl)
    fun raw e => undecodable_channel).guarded _

theorem reads_readChannels (ids : List String) : st.Reads OfStore (st.readChannels ids) :=
  (reads_mapList fun id _ => reads_readChannel id).bind fun _ => reads_pure

theorem readLinks_eq (st : AlertStore) (id : String) : st.readLinks id =
    read (.get (st.linksKey id)) >>= fun raw => ofExcept (idsOfLinks raw) >>= st.readChannels := by
  rw [readLinks]
  congr 1
  funext raw
  cases raw with
  | none => rfl
  | some raw =>
    rw [idsOfLinks.eq_def]
    dsimp only
    split <;> rfl

theorem reads_readLinks (id : Option Int) : st.Reads OfServer (st.readLinks (idText id)) := by
  rw [readLinks_eq]
  exact reads_decoded (fun e => .inl) (fun raw e => undecodable_links) fun ids =>
    (reads_readChannels ids).mono fun e => OfStore.ofServer

theorem readAlert_eq (st : AlertStore) (id : String) : st.readAlert id =
    read (.get (st.alertKey id)) >>= fun raw => ofExcept (raw.mapM Alert.decode) >>= fun found =>
      match found with
      | none => pure none
      | some a =>
        read (.entries (st.cursorKey id)) >>= fun entries => ofExcept (Cursor.decode entries) >>=
          fun cursor => st.readLinks id >>= fun channels =>
            pure (some { a with cursor, channels }) := by
  rw [readAlert]
  congr 1
  funext raw
  cases raw with
  | none => rfl
  | some raw =>
    change (ofExcept (Alert.decode raw) >>= fun a => _) =
      (ofExcept (some <$> Alert.decode raw) >>= fun found => _)
    cases Alert.decode raw <;> rfl

theorem reads_readAlert (id : Option Int) : st.Reads OfServer (st.readAlert (idText id)) := by
  rw [readAlert_eq]
  refine reads_decoded (fun e => .inl) (fun raw e => undecodable_alert) fun found => ?_
  cases found with
  | none => exact reads_pure
  | some a =>
    exact reads_decoded (fun e => .inl) (fun entries e => undecodable_cursor) fun cursor =>
      (reads_readLinks id).bind fun channels => reads_pure

theorem reads_listAlerts (owner : Json) : st.Reads OfStore (st.listAlerts owner) := by
  refine (reads_begins _).bind fun _ => (Reads.guarded _ ?_).bind fun found => reads_pure
  refine reads_decoded (fun e => .inl) (fun members e => undecodable_ids) fun ids => ?_
  refine reads_mapList fun id hid => ?_
  obtain ⟨i, -, rfl⟩ := List.mem_map.mp hid
  rw [toString_eq_idText]
  exact reads_readAlert (some i)

theorem reads_listChannels (owner : Json) : st.Reads OfStore (st.listChannels owner) := by
  refine (reads_begins _).bind fun _ => ?_
  rw [← bind_bind, guarded_decode _ decodes_sortedIds]
  refine (Reads.guarded _ (reads_fetch (fun e => .inl) fun members e => undecodable_ids)).bind
    fun ids => ?_
  exact (reads_readChannels _).bind fun channels => reads_pure

theorem reads_listHistory (id : Option Int) (limit : Int) :
    st.Reads OfStore (st.listHistory id limit) := by
  refine (reads_begins _).bind fun _ => ?_
  rw [guarded_decode _ fun items => Decodes.mapM History.decodes_decode _]
  exact (reads_fetch (fun e => .inl) fun items e => undecodable_history).guarded _

/-- How a read of a store ends. -/
theorem ends_serve {r : AlertRequest} (reading : r.Reading) {calls : List (Call Client)}
    {result : Except Failure r.Answer} (made : (st.serve r).Makes calls result)
    (genuine : ∀ c ∈ calls, Genuine c) : st.ReadEnds OfStore calls result := by
  have ends {α : Type} {script : Script Client α} (h : st.Reads OfStore script)
      {result : Except Failure α} (made : script.Makes calls result) :
      st.ReadEnds OfStore calls result :=
    h [] (fun c hc => nomatch hc) calls result made genuine
  cases r with
  | listEnabled =>
    exact ends ((reads_begins _).bind fun _ => (reads_listAlerts .null).bind fun _ => reads_pure)
      made
  | listAlerts owner => exact ends (reads_listAlerts owner) made
  | get id => exact ends ((reads_begins _).bind fun _ => (reads_readAlert id).guarded _) made
  | listHistory id limit => exact ends (reads_listHistory id limit) made
  | getChannel id => exact ends (reads_readChannel _) made
  | listChannels owner => exact ends (reads_listChannels owner) made
  | save | delete | setChannels | updateCursor | createHistory | saveChannel | deleteChannel =>
    exact reading.elim

/-! ### The outcomes of a read -/

/-- Only the last call of a read that fails is not readable. -/
theorem mem_of_not_readable {calls : List (Call Client)} {c d : Call Client}
    (readable : ∀ c ∈ calls, st.Readable c) (hd : d ∈ calls ++ [c]) (h : ¬st.Readable d) : d = c :=
  (List.mem_append.mp hd).elim (fun hd => absurd (readable d hd) h) List.mem_singleton.mp

theorem not_readable_of_fails {c : Call Client} (h : c.answer = .error e) : ¬st.Readable c := by
  rintro ⟨⟨x, hx⟩, -⟩
  rw [hx] at h
  cases h

theorem Undecodable.not_readable {c : Call Client} (h : st.Undecodable c e) : ¬st.Readable c :=
  fun readable => readable.2 e h

theorem Undecodable.not_fails {c : Call Client} {e' : Failure} (h : st.Undecodable c e) :
    c.answer ≠ .error e' := by
  obtain ⟨x, hx⟩ := h.answered
  rw [hx]
  exact nofun

theorem ReadEnds.ok_iff {calls : List (Call Client)} {result : Except Failure α}
    (h : st.ReadEnds OfStore calls result) :
    (∃ a, result = .ok a) ↔ ∀ c ∈ calls, st.Readable c := by
  have last {calls : List (Call Client)} {c : Call Client} (h : ¬st.Readable c) :
      ¬∀ d ∈ calls ++ [c], st.Readable d := fun all => h (all c (by simp))
  cases h with
  | returned readable => exact iff_of_true ⟨_, rfl⟩ readable
  | failed readable fails surfaces =>
    exact iff_of_false (by rintro ⟨_, ⟨⟩⟩) (last (not_readable_of_fails fails))
  | refused readable h => exact iff_of_false (by rintro ⟨_, ⟨⟩⟩) (last h.not_readable)

theorem ReadEnds.store_iff {calls : List (Call Client)} {result : Except Failure α}
    (h : st.ReadEnds OfStore calls result) :
    (∃ e, result = .error e ∧ e.kind = .store) ↔ ∃ c ∈ calls, ∃ e, c.answer = .error e := by
  cases h with
  | returned readable =>
    refine iff_of_false (by rintro ⟨_, ⟨⟩, _⟩) ?_
    rintro ⟨c, hc, e, he⟩
    exact not_readable_of_fails he (readable c hc)
  | failed readable fails surfaces =>
    exact iff_of_true ⟨_, rfl, surfaces⟩ ⟨_, by simp, _, fails⟩
  | refused readable h =>
    refine iff_of_false ?_ ?_
    · rintro ⟨e, he, store⟩
      obtain rfl := Except.error.inj he
      exact h.ofContent.not_store store
    · rintro ⟨c, hc, e, he⟩
      obtain rfl := mem_of_not_readable readable hc (not_readable_of_fails he)
      exact h.not_fails he

theorem ReadEnds.refused_iff {calls : List (Call Client)} {result : Except Failure α}
    (h : st.ReadEnds OfStore calls result) (e : Failure) :
    result = .error e ∧ e.kind ≠ .store ↔ ∃ c ∈ calls, st.Undecodable c e := by
  cases h with
  | returned readable =>
    refine iff_of_false (by rintro ⟨⟨⟩, _⟩) ?_
    rintro ⟨c, hc, h⟩
    exact h.not_readable (readable c hc)
  | failed readable fails surfaces =>
    refine iff_of_false ?_ ?_
    · rintro ⟨he, other⟩
      obtain rfl := Except.error.inj he
      exact other surfaces
    · rintro ⟨c, hc, h⟩
      obtain rfl := mem_of_not_readable readable hc h.not_readable
      exact h.not_fails fails
  | refused readable h =>
    constructor
    · rintro ⟨he, -⟩
      obtain rfl := Except.error.inj he
      exact ⟨_, by simp, h⟩
    · rintro ⟨c, hc, h'⟩
      obtain rfl := mem_of_not_readable readable hc h'.not_readable
      exact ⟨congrArg Except.error (h.decides h'), h'.ofContent.not_store⟩

/-- **How a read of the store ends**, whatever its calls are answered.  It returns if and only if
every command is answered with content that can be decoded.  It ends in a failure of the store if
and only if a command fails.  It ends in another failure if and only if this is a decoder's refusal
of an answer; this says that a text is no JSON document, that a field is missing, or that a value
has the wrong kind or the wrong content. -/
theorem reads_end {r : AlertRequest} (reading : r.Reading) {calls : List (Call Client)}
    {result : Except Failure r.Answer} (made : (st.serve r).Makes calls result)
    (genuine : ∀ c ∈ calls, Genuine c) :
    ((∃ a, result = .ok a) ↔ ∀ c ∈ calls, st.Readable c) ∧
    ((∃ e, result = .error e ∧ e.kind = .store) ↔ ∃ c ∈ calls, ∃ e, c.answer = .error e) ∧
    (∀ e, result = .error e ∧ e.kind ≠ .store ↔ ∃ c ∈ calls, st.Undecodable c e) ∧
    ∀ e, result = .error e → e.kind ∈ [.store, .json, .value, .type, .key] := by
  have ends := ends_serve reading made genuine
  refine ⟨ends.ok_iff, ends.store_iff, ends.refused_iff, fun e he => ?_⟩
  by_cases store : e.kind = .store
  · rw [store]
    exact List.mem_cons_self
  · obtain ⟨c, -, h⟩ := (ends.refused_iff e).mp ⟨he, store⟩
    exact List.mem_cons_of_mem _ h.ofContent

namespace Sample

/-- A store whose keys begin with `lw`. -/
def shortStore : AlertStore := ⟨"lw", 3⟩

/-- The document of an alert. -/
def alertText : String :=
  "\x7b\"name\": \"a\", \"search_query\": \"\", \"alert_type\": \"any_match\"\x7d"

/-- A server with an alert that is linked to a channel, whose document is an empty object. -/
def damaged : Simulation.Server where
  data :=
    [("lw:alerts", .set ["1"]), ("lw:alert:1", .text alertText),
      ("lw:alert:1:channels", .text "[7]"), ("lw:channel:7", .text "\x7b\x7d")]
  plans := []

/-- What is asked of the server for the alert. -/
def damagedCalls : List (Call Client) :=
  (shortStore.serve (.get (some 1))).calls (fun r (s : Simulation.Server) => s.answer r) damaged

/-- What becomes of the alert. -/
def damagedResult : Except Failure (Option Alert) :=
  ((shortStore.serve (.get (some 1))).run (fun r (s : Simulation.Server) => s.answer r) damaged).1

theorem damaged_makes : (shortStore.serve (.get (some 1))).Makes damagedCalls damagedResult :=
  makes_calls _ _ _

theorem damaged_genuine : ∀ c ∈ damagedCalls, Genuine c := by
  decide +kernel

theorem damaged_result : ∃ e, damagedResult = .error e ∧ e.kind = .key := by
  have hkind : (match damagedResult with
      | .error e => e.kind == .key
      | .ok _ => false) = true := by
    decide +kernel
  cases h : damagedResult with
  | error e =>
    rw [h] at hkind
    exact ⟨e, rfl, beq_iff_eq.mp hkind⟩
  | ok alerts =>
    rw [h] at hkind
    cases hkind

end Sample

theorem reads_end_of_damaged : (AlertRequest.get (some 1)).Reading ∧
    (Sample.shortStore.serve (.get (some 1))).Makes Sample.damagedCalls Sample.damagedResult ∧
    (∀ c ∈ Sample.damagedCalls, Genuine c) ∧
    ∃ e, (Sample.damagedResult = .error e ∧ e.kind = .key) ∧
      ∃ c ∈ Sample.damagedCalls, Sample.shortStore.Undecodable c e := by
  have reading : (AlertRequest.get (some 1)).Reading := trivial
  obtain ⟨e, he, key⟩ := Sample.damaged_result
  obtain ⟨-, -, refused, -⟩ := reads_end reading Sample.damaged_makes Sample.damaged_genuine
  exact ⟨reading, Sample.damaged_makes, Sample.damaged_genuine, e, ⟨he, key⟩,
    (refused e).mp ⟨he, by rw [key]; decide⟩⟩

/-- **Refused content is no failure of the store**: not every read returns or fails as a store. -/
theorem refused_content_is_no_store_failure :
    ¬∀ (st : AlertStore) (r : AlertRequest), r.Reading → ∀ calls result,
      (st.serve r).Makes calls result → (∀ c ∈ calls, Genuine c) →
        (∃ a, result = .ok a) ∨ ∃ e, result = .error e ∧ e.kind = .store := by
  intro claim
  obtain ⟨e, he, key⟩ := Sample.damaged_result
  rcases claim Sample.shortStore (.get (some 1)) trivial _ _ Sample.damaged_makes
    Sample.damaged_genuine with ⟨a, ha⟩ | ⟨e', he', store⟩
  · rw [he] at ha
    cases ha
  · rw [he] at he'
    obtain rfl := Except.error.inj he'
    rw [key] at store
    cases store

end KeyValue.AlertStore

end LogAlert
