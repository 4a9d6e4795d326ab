import MovieApi.Playback.Access
import MovieApi.ReadCommitted.Commits

/-!
# Saving watch progress

`upsert_watch_progress` as a session on the database.  The row is looked up without a
lock; the commit flushes it as an `INSERT`, or as an `UPDATE` of those columns only
that differ from what the session has loaded.
-/

namespace MovieApi.Playback.WatchProgress

open ReadCommitted ReadCommitted.Prog
open Accounts (Uuid Instant Err User)

/-! ## Rows -/

/-- A row of `watch_progress` without its key. -/
structure Progress where
  positionSeconds : Int
  completed : Bool
  lastWatchedAt : Instant
deriving DecidableEq, Repr

/-- The primary key: user and content. -/
abbrev Key := Uuid × Uuid

/-- `catalog` is what decides who may watch what. -/
structure Db where
  catalog : Playback.Db
  watchProgress : Key → Option Progress

/-- `UPDATE` with the columns of `row` that differ from the `loaded` ones. -/
def flush (loaded row stored : Progress) : Progress where
  positionSeconds :=
    if row.positionSeconds = loaded.positionSeconds then stored.positionSeconds
    else row.positionSeconds
  completed := if row.completed = loaded.completed then stored.completed else row.completed
  lastWatchedAt :=
    if row.lastWatchedAt = loaded.lastWatchedAt then stored.lastWatchedAt else row.lastWatchedAt

@[simp] theorem flush_self (row stored : Progress) : flush row row stored = stored := by
  simp [flush]

inductive Write where
  | insertProgress (key : Key) (row : Progress)
  | updateProgress (key : Key) (loaded row : Progress)
deriving DecidableEq, Repr

namespace Write

def apply : Write → Db → Db
  | insertProgress key row, d =>
      { d with watchProgress :=
          Function.update d.watchProgress key ((d.watchProgress key).or (some row)) }
  | updateProgress key loaded row, d =>
      { d with watchProgress :=
          Function.update d.watchProgress key ((d.watchProgress key).map (flush loaded row)) }

/-- No statement is sent when no column differs. -/
def needs : Write → List (Key × LockMode)
  | insertProgress key _ => [(key, .update)]
  | updateProgress key loaded row => if row = loaded then [] else [(key, .noKeyUpdate)]

end Write

instance : Database Db Key Write where
  apply w d := w.apply d
  needs := Write.needs

@[simp] theorem apply_eq (w : Write) (d : Db) : Database.apply w d = w.apply d := rfl

@[simp] theorem needs_eq (w : Write) : Database.needs Db w = w.needs := rfl

/-- The row of one key after a write. -/
def Write.onRow (key : Key) (row? : Option Progress) : Write → Option Progress
  | insertProgress key' row => if key = key' then row?.or (some row) else row?
  | updateProgress key' loaded row => if key = key' then row?.map (flush loaded row) else row?

theorem Write.watchProgress_apply (w : Write) (d : Db) (key : Key) :
    (w.apply d).watchProgress key = w.onRow key (d.watchProgress key) := by
  cases w with
  | insertProgress key' row | updateProgress key' loaded row =>
      by_cases h : key = key'
      · subst h
        simp [apply, onRow]
      · simp [apply, onRow, h]

@[simp] theorem Write.catalog_apply (w : Write) (d : Db) : (w.apply d).catalog = d.catalog := by
  cases w <;> rfl

/-- A lock that only shares the key leaves the other columns to others. -/
instance : LawfulDatabase Db Key Write where
  Agree key mode d d' := mode ≠ .keyShare → d'.watchProgress key = d.watchProgress key
  agree_refl _ _ _ := fun _ => rfl
  agree_trans h h' := fun hm => (h' hm).trans (h hm)
  agree_congr w h := fun hm => by
    rw [apply_eq, apply_eq, Write.watchProgress_apply, Write.watchProgress_apply, h hm]
  agree_apply w d key mode h := fun hm => by
    rw [apply_eq, Write.watchProgress_apply]
    cases w with
    | insertProgress key' row =>
        by_cases heq : key = key'
        · subst heq
          have hfree := h .update (by simp [Write.needs])
          simp at hfree
        · simp [Write.onRow, heq]
    | updateProgress key' loaded row =>
        by_cases heq : key = key'
        · subst heq
          by_cases hsame : row = loaded
          · subst hsame
            cases d.watchProgress key <;> simp [Write.onRow]
          · have hfree := h .noKeyUpdate (by simp [Write.needs, hsame])
            cases mode <;> simp [LockMode.conflicts] at hfree hm
        · simp [Write.onRow, heq]

/-! ## The call -/

/-- The body of the request, with a position that the column can hold. -/
structure WatchProgressUpdate where
  positionSeconds : Int
  completed : Bool := false
  bounds : 0 ≤ positionSeconds ∧ positionSeconds ≤ 86400 * 24 := by decide

inductive Fault where
  | aborted
  | refused (err : Err)
  | integrity
  | notRefreshed
deriving DecidableEq, Repr

instance : ServerError Fault := ⟨.aborted⟩

abbrev Store := ReadCommitted.Store Db Key Write Instant Unit

abbrev Stmt := ReadCommitted.Stmt Db Key Write Instant Unit Fault

abbrev Prog := ReadCommitted.Prog Db Key Write Instant Unit Fault

abbrev Pool := ReadCommitted.Pool Db Key Write Instant Unit Fault

abbrev Regime := ReadCommitted.Regime Db Key Write Instant Unit Fault

abbrev Contract := ReadCommitted.Contract Db Key Write Instant Unit Fault

/-- `datetime.now(UTC)`. -/
def utcNow : Prog Instant := sense id

/-- `assert_can_track_watch_progress`. -/
def assertCanTrackWatchProgress (catalog : Playback.Db) (now : Instant) (user : User)
    (contentId : Uuid) : Except Err Content :=
  match catalog.publishedContent contentId (some user) with
  | .error err => .error err
  | .ok content =>
      if catalog.canAccessContent now (some user) none content none then .ok content
      else .error (.forbidden "You do not have access to this title")

/-- Flush of a row that the session has loaded, or of a new one. -/
def flushProgress (key : Key) (loaded? : Option Progress) (row : Progress) : Prog Unit :=
  match loaded? with
  | some loaded => write (.updateProgress key loaded row)
  | none => do
      if ← enter key fun d => (d.watchProgress key).isSome then
        write (.insertProgress key row)
      else
        reject .integrity

/-- `upsert_watch_progress`. -/
def upsertWatchProgress (user : User) (contentId : Uuid) (data : WatchProgressUpdate) :
    Prog Unit := do
  let checkedAt ← utcNow
  match ← select fun d => assertCanTrackWatchProgress d.catalog checkedAt user contentId with
  | .error err => .raise (.refused err)
  | .ok _ =>
      let progress ← select fun d => d.watchProgress (user.id, contentId)
      let now ← utcNow
      flushProgress (user.id, contentId) progress
        { positionSeconds := data.positionSeconds, completed := data.completed,
          lastWatchedAt := now }
      commit
      -- `db.refresh`
      match ← select fun d => d.watchProgress (user.id, contentId) with
      | some _ => return ()
      | none => .raise .notRefreshed

/-- The end of every session: what is left open is rolled back. -/
def closing (p : Prog Unit) : Prog Unit := do
  tryCatch p fun fault => do
    rollback
    .raise fault
  rollback

/-- Any number of calls of a user for a title. -/
def startUpserts (user : User) (contentId : Uuid) (d : Db) (now : Instant)
    (requests : Tid → WatchProgressUpdate) : Pool where
  store := .idle d () now
  progs t := closing (upsertWatchProgress user contentId (requests t))

/-- The clock does not go back. -/
def realTime : Regime where
  stmt _ _ _ _ := true
  outside now s := decide (s.world ≤ now)

/-- What an `UPDATE` leaves out is as the call has it, and it puts no older date in the
place of a newer one. -/
def Write.fits (d : Db) : Write → Bool
  | insertProgress _ _ => true
  | updateProgress key loaded row => (d.watchProgress key).all fun stored =>
      decide ((row.positionSeconds = loaded.positionSeconds →
          stored.positionSeconds = row.positionSeconds) ∧
        (row.completed = loaded.completed → stored.completed = row.completed) ∧
        (row.lastWatchedAt ≠ loaded.lastWatchedAt → stored.lastWatchedAt ≤ row.lastWatchedAt))

/-- A call that has found no row comes to its `INSERT` while there is still none, and
one that has found a row commits where its `UPDATE` fits. -/
def undisturbed : Regime where
  stmt t _ c s :=
    match c with
    | .enter key taken => s.blocked t key .update || !taken (s.view t)
    | .commit => (s.writes t).all fun w => w.fits s.db
    | _ => true
  outside now s := decide (s.world ≤ now)

end MovieApi.Playback.WatchProgress
