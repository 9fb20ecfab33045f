import LogAlert.Proofs.Book
import LogAlert.Proofs.World

/-!
# What the administration does

Users create, edit, switch and remove alerts.  Each of these either leaves the book as it is or
changes one alert, and of that one only what it is meant for: an edit keeps the cursor, switching
keeps everything but the baseline, and a removal takes the triggers along.

## Main definitions

* `AlertBook.checkLinks` : whether an alert may be linked to channels.
* `Fate` : what the administration can make of an alert and its triggers.
* `Administered` : the books in which every alert has such a fate.

## Main results

* `Service.run_createAlert`, `Service.run_updateAlert`, `Service.run_toggleAlert` : the books
  after the requests of users.
* `Administered.createAlert`, `Administered.updateAlert`, … : no request of a user does more.
-/

namespace LogAlert

namespace AlertBook

/-- Whether an alert with an owner may be linked to channels, or why not. -/
def checkLinks (b : AlertBook) (owner : Json) : List Int → Except Failure Unit
  | [] => .ok ()
  | id :: ids =>
    match b.channels.get? id with
    | some c =>
      if Service.mayUse owner c then b.checkLinks owner ids else .error (Service.unknownChannel id)
    | none => .error (Service.unknownChannel id)

/-- The book after channels are given to an alert, if any are. -/
def link (b : AlertBook) (id : Option Int) (channelIds : List Int) : AlertBook :=
  if channelIds.isEmpty then b else (b.setChannels id channelIds).1

end AlertBook

namespace Service

open Engine

variable {w : World} {notifier : Notifier}

/-- A new alert as it is stored first, with the newest record as its baseline. -/
def baseline (a : Alert) (newest : Option Int) : Alert :=
  { a with id := none, channels := [], cursor := { Cursor.empty with lastSeen := newest } }

theorem run_checkChannels (owner : Json) (channelIds : List Int) :
    w.run notifier (checkChannels owner channelIds) = (w.book.checkLinks owner channelIds, w) := by
  induction channelIds with
  | nil => rfl
  | cons id ids ih =>
    rw [checkChannels, AlertBook.checkLinks, World.run_bind, World.run_alerts, AlertBook.answer]
    dsimp only [Option.bind_some]
    cases w.book.channels.get? id with
    | none => rfl
    | some c =>
      dsimp only
      split
      · exact ih
      · rfl

theorem run_reread (a : Alert) :
    w.run notifier (reread a) = (.ok ((w.book.get a.id).getD a), w) := rfl

private theorem run_setChannels {id : Option Int} {i : Int} (hid : id = some i)
    (h : (w.book.alerts.get? i).isSome) (channelIds : List Int) :
    w.run notifier (alerts (.setChannels id channelIds)) =
      (.ok (), { w with book := (w.book.setChannels id channelIds).1 }) := by
  subst hid
  rw [World.run_alerts, AlertBook.answer, AlertBook.setChannels_ok h]
  rfl

private theorem run_link {created : Alert} {i : Int} (hid : created.id = some i)
    (h : (w.book.alerts.get? i).isSome) (channelIds : List Int) :
    w.run notifier (do
        if !channelIds.isEmpty then alerts (.setChannels created.id channelIds)
        reread created) =
      (.ok (((w.book.link created.id channelIds).get created.id).getD created),
        { w with book := w.book.link created.id channelIds }) := by
  unfold AlertBook.link
  cases channelIds.isEmpty with
  | true => exact run_reread created
  | false =>
    simp only [Bool.not_false, if_true, Bool.false_eq_true, if_false]
    rw [World.run_bind, run_setChannels hid h]
    exact run_reread created

/-- A new alert that is valid and may use its channels is stored under the next id and linked to
them; any other changes nothing. -/
theorem run_createAlert (a : Alert) (channelIds : List Int) :
    w.run notifier (createAlert a channelIds) =
      match a.validate, w.book.checkLinks a.settings.ownerId channelIds with
      | .error e, _ => (.error e, w)
      | .ok _, .error e => (.error e, w)
      | .ok _, .ok _ =>
        let (b, created) := w.book.save (baseline a w.logs.maxId) true
        (.ok (((b.link created.id channelIds).get created.id).getD created),
          { w with book := b.link created.id channelIds }) := by
  unfold createAlert
  rw [World.run_bind, World.run_ofExcept]
  cases a.validate with
  | error e => rfl
  | ok _ =>
    dsimp only
    rw [World.run_bind, run_checkChannels]
    cases w.book.checkLinks a.settings.ownerId channelIds with
    | error e => rfl
    | ok _ =>
      dsimp only
      rw [World.run_bind, World.run_logs, LogStore.answer]
      dsimp only
      rw [World.run_bind, World.run_alerts, AlertBook.answer]
      have hstored : ((w.book.save (baseline a w.logs.maxId) true).1.alerts.get?
          w.book.nextAlert).isSome := by
        rw [AlertBook.save_new rfl, AlertBook.get?_store, if_pos (beq_self_eq_true _)]
        rfl
      change World.run { w with book := (w.book.save (baseline a w.logs.maxId) true).1 } notifier
        (stored (some (w.book.save (baseline a w.logs.maxId) true).2) >>= _) = _
      rw [World.run_bind]
      exact run_link rfl hstored channelIds

/-- Switching an alert that is there: one that is on is stored as it is but off, and one that is
off is stored with the newest record as its baseline and on. -/
theorem run_toggleAlert (a : Alert) :
    w.run notifier (toggleAlert a) =
      match w.book.get a.id with
      | none => (.error (.config "id" ("alert " ++ idText a.id ++ " does not exist")), w)
      | some current =>
        let (b, saved) :=
          if current.settings.enabled.isTruthy then
            w.book.save (switched current false current.cursor) false
          else
            w.book.save
              (switched current true { current.cursor with lastSeen := w.logs.maxId }) true
        (.ok (some saved), { w with book := b }) := by
  unfold toggleAlert
  rw [World.run_bind, World.run_alerts, AlertBook.answer]
  dsimp only
  cases w.book.get a.id with
  | none => rfl
  | some current =>
    dsimp only
    split
    · rfl
    · rw [World.run_bind, World.run_logs, LogStore.answer]
      rfl

private theorem checkLinks_save {a : Alert} {i : Int} (hid : a.id = some i) (owner : Json)
    (ids : List Int) :
    (w.book.save a false).1.checkLinks owner ids = w.book.checkLinks owner ids := by
  induction ids with
  | nil => rfl
  | cons id ids ih =>
    rw [AlertBook.checkLinks, AlertBook.checkLinks, ih, AlertBook.save_old hid]
    rfl

/-- The settings of an alert with an id are stored if they are valid, even if the alert may then
not be linked to the given channels. -/
theorem run_updateAlert {a : Alert} {i : Int} (hid : a.id = some i)
    (channelIds : Option (List Int)) :
    w.run notifier (updateAlert a channelIds) =
      match a.validate, channelIds with
      | .error e, _ => (.error e, w)
      | .ok _, none =>
        let (b, saved) := w.book.save a false
        (.ok ((b.get (some i)).getD saved), { w with book := b })
      | .ok _, some ids =>
        let (b, saved) := w.book.save a false
        match w.book.checkLinks a.settings.ownerId ids with
        | .error e => (.error e, { w with book := b })
        | .ok _ =>
          (.ok (((b.setChannels (some i) ids).1.get (some i)).getD saved),
            { w with book := (b.setChannels (some i) ids).1 }) := by
  have saved : (w.book.save a false).2.id = some i := by
    rw [AlertBook.save_old hid]
    rfl
  have hstored : ((w.book.save a false).1.alerts.get? i).isSome := by
    rw [AlertBook.save_old hid, AlertBook.get?_store, if_pos (beq_self_eq_true _)]
    rfl
  unfold updateAlert
  rw [hid]
  change w.run notifier (.ofExcept a.validate >>= _) = _
  rw [World.run_bind, World.run_ofExcept]
  cases a.validate with
  | error e => rfl
  | ok _ =>
    cases channelIds with
    | none =>
      rw [← saved]
      rfl
    | some ids =>
      dsimp only
      rw [World.run_bind, World.run_alerts, AlertBook.answer]
      dsimp only
      rw [World.run_bind, run_checkChannels, checkLinks_save hid]
      cases w.book.checkLinks a.settings.ownerId ids with
      | error e => rfl
      | ok _ =>
        dsimp only
        change World.run _ _ (do
          alerts (.setChannels (w.book.save a false).2.id ids); reread _) = _
        rw [World.run_bind, run_setChannels saved hstored, ← saved]
        exact run_reread _

end Service

/-! ### The fate of an alert -/

/-- What the administration can make of an alert and of its triggers, when `newest` is the id of
the newest record. -/
inductive Fate (newest : Option Int) (before after : Option Alert) (rows rows' : List History) :
    Prop where
  | kept (alert : after = before) (rows : rows' = rows)
  | created (a : Alert) (fresh : before = none) (alert : after = some a)
      (valid : a.validate = .ok ()) (cursor : a.cursor = { Cursor.empty with lastSeen := newest })
      (rows : rows' = rows)
  | edited (a a' : Alert) (old : before = some a) (alert : after = some a')
      (valid : a'.validate = .ok ()) (cursor : a'.cursor = a.cursor) (rows : rows' = rows)
  | disabled (a a' : Alert) (old : before = some a) (alert : after = some a')
      (settings : a'.settings = { a.settings with enabled := .bool false })
      (cursor : a'.cursor = a.cursor) (rows : rows' = rows)
  | enabled (a a' : Alert) (old : before = some a) (alert : after = some a')
      (settings : a'.settings = { a.settings with enabled := .bool true })
      (cursor : a'.cursor = { a.cursor with lastSeen := newest }) (rows : rows' = rows)
  | removed (alert : after = none) (rows : rows' = [])

/-- A sound book that the administration has made of another one. -/
structure Administered (newest : Option Int) (b b' : AlertBook) : Prop where
  sound : b'.Sound
  fate : ∀ i, Fate newest (b.alerts.get? i) (b'.alerts.get? i) (b.rows i) (b'.rows i)

namespace Administered

variable {newest : Option Int} {b b' b'' : AlertBook}

theorem refl (hb : b.Sound) : Administered newest b b :=
  ⟨hb, fun _ => .kept rfl rfl⟩

/-- Channels and links may be changed afterwards. -/
theorem congr (h : Administered newest b b') (alerts : b''.alerts = b'.alerts)
    (history : b''.history = b'.history) (nextAlert : b''.nextAlert = b'.nextAlert)
    (nextHistory : b''.nextHistory = b'.nextHistory) : Administered newest b b'' := by
  refine ⟨h.sound.congr alerts history nextAlert nextHistory, fun i => ?_⟩
  have hrows : b''.rows i = b'.rows i := by
    rw [AlertBook.rows, AlertBook.rows, history]
  rw [alerts, hrows]
  exact h.fate i

theorem setChannels (h : Administered newest b b') (id : Option Int) (channelIds : List Int) :
    Administered newest b (b'.setChannels id channelIds).1 := by
  rw [AlertBook.setChannels]
  split
  · exact h
  · exact h.congr rfl rfl rfl rfl

/-- Storing an alert under an id that was given decides the fate of this alert. -/
theorem store (hb : b.Sound) {i : Int} (given : i < b.nextAlert) (a : Alert) (c : Cursor)
    (fate : Fate newest (b.alerts.get? i)
      (some { a with id := some i, channels := [], cursor := c })
      (b.rows i) (b.rows i)) :
    Administered newest b (b.store i a c).1 := by
  refine ⟨hb.store a c given, fun j => ?_⟩
  rw [AlertBook.get?_store, AlertBook.rows_store]
  by_cases hij : i = j
  · rw [if_pos (by simpa using hij), ← hij]
    exact fate
  · rw [if_neg (by simpa using hij)]
    exact .kept rfl rfl

theorem createAlert (hb : b.Sound) {a : Alert} (valid : a.validate = .ok ()) :
    Administered newest b (b.save (Service.baseline a newest) true).1 := by
  refine ⟨hb.save_new rfl true, fun j => ?_⟩
  rw [AlertBook.save_new rfl, AlertBook.get?_store, AlertBook.rows_store]
  by_cases hij : b.nextAlert = j
  · rw [if_pos (by simpa using hij), ← hij]
    exact .created _ hb.get?_nextAlert rfl valid rfl rfl
  · rw [if_neg (by simpa using hij)]
    exact .kept rfl rfl

theorem updateAlert (hb : b.Sound) {a old : Alert} {i : Int} (hid : a.id = some i)
    (stored : b.alerts.get? i = some old) (valid : a.validate = .ok ()) :
    Administered newest b (b.save a false).1 := by
  rw [AlertBook.save_old hid]
  refine store hb (hb.id_lt stored) _ _ (.edited old _ stored rfl valid ?_ rfl)
  change b.cursorFor i a false = _
  rw [AlertBook.cursorFor, stored]
  rfl

theorem disableAlert (hb : b.Sound) {old : Alert} {i : Int}
    (stored : b.alerts.get? i = some old) :
    Administered newest b (b.save (Service.switched (b.load old) false old.cursor) false).1 := by
  have hid : (Service.switched (b.load old) false old.cursor).id = some i :=
    (hb.id_eq stored :)
  rw [AlertBook.save_old hid]
  refine store hb (hb.id_lt stored) _ _ (.disabled old _ stored rfl rfl ?_ rfl)
  change b.cursorFor i _ false = _
  rw [AlertBook.cursorFor, stored]
  rfl

theorem enableAlert (hb : b.Sound) {old : Alert} {i : Int}
    (stored : b.alerts.get? i = some old) :
    Administered newest b
      (b.save (Service.switched (b.load old) true { old.cursor with lastSeen := newest })
        true).1 := by
  have hid : (Service.switched (b.load old) true { old.cursor with lastSeen := newest }).id =
      some i := (hb.id_eq stored :)
  rw [AlertBook.save_old hid]
  refine store hb (hb.id_lt stored) _ _ (.enabled old _ stored rfl rfl ?_ rfl)
  change b.cursorFor i _ true = _
  rw [AlertBook.cursorFor, stored]
  rfl

theorem deleteAlert (hb : b.Sound) (id : Option Int) : Administered newest b (b.delete id).1 := by
  refine ⟨hb.delete id, fun j => ?_⟩
  cases id with
  | none => exact .kept rfl rfl
  | some i =>
    rw [AlertBook.get?_delete, AlertBook.rows_delete]
    split
    · exact .removed rfl rfl
    · exact .kept rfl rfl

end Administered

end LogAlert
