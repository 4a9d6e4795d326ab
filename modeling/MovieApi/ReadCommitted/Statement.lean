import Mathlib

/-!
# Statements under READ COMMITTED

A database server as its sessions see it.  Committed data is one value of type
`D`; what a transaction has written and not committed is a list of writes of
type `W`, seen by its own statements only.  Locks are held on keys of type `K`
until the transaction ends: rows, and entries of unique indexes, which an
insert holds until it commits.  A statement that needs a lock another session
holds in a conflicting mode waits.  `E` is the world outside the database, `I`
what a session keeps for itself, `X` the errors a statement or a program ends
with.
-/

namespace MovieApi.ReadCommitted

/-! ## Row locks -/

/-- The row-level lock modes of PostgreSQL, weakest first. -/
inductive LockMode where
  | keyShare | share | noKeyUpdate | update
deriving DecidableEq, Repr

def LockMode.conflicts : LockMode → LockMode → Bool
  | .keyShare, .update => true
  | .update, .keyShare => true
  | .keyShare, _ => false
  | _, .keyShare => false
  | .share, .share => false
  | _, _ => true

theorem LockMode.conflicts_comm (m m' : LockMode) : m.conflicts m' = m'.conflicts m := by
  cases m <;> cases m' <;> rfl

@[simp] theorem LockMode.update_conflicts (m : LockMode) : LockMode.update.conflicts m = true := by
  cases m <;> rfl

@[simp] theorem LockMode.conflicts_update (m : LockMode) : m.conflicts .update = true := by
  cases m <;> rfl

abbrev Tid := Nat

structure Held (K : Type) where
  tid : Tid
  key : K
  mode : LockMode
deriving DecidableEq, Repr

/-! ## Databases -/

/-- How writes act on the data, and the locks a write holds. -/
class Database (D : Type) (K W : outParam Type) where
  apply : W → D → D
  needs : W → List (K × LockMode)

/-- `Agree k m d d'`: the data that a lock on `k` in mode `m` protects is the
same in `d` and `d'`.  Writes whose own locks do not conflict keep it, and a
write made on both sides does too. -/
class LawfulDatabase (D : Type) (K W : outParam Type) [Database D K W] where
  Agree : K → LockMode → D → D → Prop
  agree_refl : ∀ k m (d : D), Agree k m d d
  agree_trans : ∀ {k m} {d d' d'' : D}, Agree k m d d' → Agree k m d' d'' → Agree k m d d''
  agree_congr : ∀ {k m} {d d' : D} (w : W),
    Agree k m d d' → Agree k m (Database.apply w d) (Database.apply w d')
  agree_apply : ∀ (w : W) (d : D) (k : K) (m : LockMode),
    (∀ m', (k, m') ∈ Database.needs D w → m.conflicts m' = false) →
      Agree k m d (Database.apply w d)

/-- The errors the server itself raises. -/
class ServerError (X : Type) where
  /-- any statement of a transaction whose earlier statement was rejected -/
  aborted : X

variable {D K W E I X : Type}

/-- Apply writes in order. -/
def applyAll [Database D K W] (ws : List W) (d : D) : D :=
  ws.foldl (fun d w => Database.apply w d) d

section

variable [Database D K W]

@[simp] theorem applyAll_nil (d : D) : applyAll ([] : List W) d = d := rfl

@[simp] theorem applyAll_cons (w : W) (ws : List W) (d : D) :
    applyAll (w :: ws) d = applyAll ws (Database.apply w d) := rfl

@[simp] theorem applyAll_append (ws ws' : List W) (d : D) :
    applyAll (ws ++ ws') d = applyAll ws' (applyAll ws d) := by
  simp [applyAll, List.foldl_append]

/-- What every write keeps, a list of writes keeps. -/
theorem applyAll_induction {P : D → Prop} {ws : List W} {d : D} (start : P d)
    (step : ∀ w ∈ ws, ∀ d, P d → P (Database.apply w d)) : P (applyAll ws d) := by
  induction ws generalizing d with
  | nil => exact start
  | cons w ws ih =>
      exact ih (step w (by simp) d start) (fun w' hw' => step w' (by simp [hw']))

end

/-! ## The store -/

/-- Server and sessions between two statements.  `active` says that a session
is inside a transaction, `doomed` that the server has rejected a statement of
that transaction, which can then only end without effect. -/
structure Store (D K W E I : Type) where
  db : D
  locks : List (Held K)
  writes : Tid → List W
  active : Tid → Bool
  doomed : Tid → Bool
  info : Tid → I
  world : E

namespace Store

/-- What statements of session `t` read: committed data and its own writes. -/
def view [Database D K W] (s : Store D K W E I) (t : Tid) : D :=
  applyAll (s.writes t) s.db

def Holds (s : Store D K W E I) (t : Tid) (k : K) (m : LockMode) : Prop :=
  ⟨t, k, m⟩ ∈ s.locks

/-- The locks session `t` holds. -/
def locksOf (s : Store D K W E I) (t : Tid) : List (K × LockMode) :=
  (s.locks.filter fun h => h.tid = t).map fun h => (h.key, h.mode)

def blocked [DecidableEq K] (s : Store D K W E I) (t : Tid) (k : K) (m : LockMode) : Bool :=
  s.locks.any fun h => decide (h.tid ≠ t) && (decide (h.key = k) && m.conflicts h.mode)

/-- Session `t` runs a statement: it is inside a transaction from now on. -/
def begin (s : Store D K W E I) (t : Tid) : Store D K W E I :=
  { s with active := Function.update s.active t true }

def acquire (s : Store D K W E I) (t : Tid) (ks : List (K × LockMode)) : Store D K W E I :=
  { s with locks := ks.map (fun k => ⟨t, k.1, k.2⟩) ++ s.locks }

def record (s : Store D K W E I) (t : Tid) (w : W) : Store D K W E I :=
  { s with writes := Function.update s.writes t (s.writes t ++ [w]) }

def doom (s : Store D K W E I) (t : Tid) : Store D K W E I :=
  { s with doomed := Function.update s.doomed t true }

/-- The transaction of `t` is over and its locks are gone. -/
def finish (s : Store D K W E I) (t : Tid) : Store D K W E I :=
  { s with
    locks := s.locks.filter fun h => h.tid ≠ t
    writes := Function.update s.writes t []
    active := Function.update s.active t false
    doomed := Function.update s.doomed t false }

def publish [Database D K W] (s : Store D K W E I) (t : Tid) : Store D K W E I :=
  { s with db := s.view t }

/-- A store no session has touched. -/
def idle (d : D) (i : I) (e : E) : Store D K W E I where
  db := d
  locks := []
  writes := fun _ => []
  active := fun _ => false
  doomed := fun _ => false
  info := fun _ => i
  world := e

section

variable (s : Store D K W E I) (t : Tid) (ks : List (K × LockMode)) (w : W)

@[simp] theorem begin_db : (s.begin t).db = s.db := rfl

@[simp] theorem begin_locks : (s.begin t).locks = s.locks := rfl

@[simp] theorem begin_writes : (s.begin t).writes = s.writes := rfl

@[simp] theorem begin_doomed : (s.begin t).doomed = s.doomed := rfl

@[simp] theorem begin_info : (s.begin t).info = s.info := rfl

@[simp] theorem begin_world : (s.begin t).world = s.world := rfl

@[simp] theorem acquire_db : (s.acquire t ks).db = s.db := rfl

@[simp] theorem acquire_writes : (s.acquire t ks).writes = s.writes := rfl

@[simp] theorem acquire_active : (s.acquire t ks).active = s.active := rfl

@[simp] theorem acquire_doomed : (s.acquire t ks).doomed = s.doomed := rfl

@[simp] theorem acquire_info : (s.acquire t ks).info = s.info := rfl

@[simp] theorem acquire_world : (s.acquire t ks).world = s.world := rfl

@[simp] theorem record_db : (s.record t w).db = s.db := rfl

@[simp] theorem record_locks : (s.record t w).locks = s.locks := rfl

@[simp] theorem record_active : (s.record t w).active = s.active := rfl

@[simp] theorem record_doomed : (s.record t w).doomed = s.doomed := rfl

@[simp] theorem record_info : (s.record t w).info = s.info := rfl

@[simp] theorem record_world : (s.record t w).world = s.world := rfl

@[simp] theorem doom_db : (s.doom t).db = s.db := rfl

@[simp] theorem doom_locks : (s.doom t).locks = s.locks := rfl

@[simp] theorem doom_writes : (s.doom t).writes = s.writes := rfl

@[simp] theorem doom_active : (s.doom t).active = s.active := rfl

@[simp] theorem doom_info : (s.doom t).info = s.info := rfl

@[simp] theorem doom_world : (s.doom t).world = s.world := rfl

@[simp] theorem finish_db : (s.finish t).db = s.db := rfl

@[simp] theorem finish_info : (s.finish t).info = s.info := rfl

@[simp] theorem finish_world : (s.finish t).world = s.world := rfl

@[simp] theorem record_writes : (s.record t w).writes t = s.writes t ++ [w] := by
  simp [record]

@[simp] theorem doom_doomed : (s.doom t).doomed t = true := by
  simp [doom]

@[simp] theorem finish_writes : (s.finish t).writes t = [] := by
  simp [finish]

@[simp] theorem finish_doomed : (s.finish t).doomed t = false := by
  simp [finish]

@[simp] theorem finish_active : (s.finish t).active t = false := by
  simp [finish]

@[simp] theorem begin_active : (s.begin t).active t = true := by
  simp [begin]

theorem mem_record_writes {u : Tid} {w' : W} :
    w' ∈ (s.record t w).writes u ↔ w' ∈ s.writes u ∨ (u = t ∧ w' = w) := by
  by_cases h : u = t <;> simp [record, h]

theorem mem_finish_writes {u : Tid} {w : W} :
    w ∈ (s.finish t).writes u ↔ u ≠ t ∧ w ∈ s.writes u := by
  by_cases h : u = t <;> simp [finish, h]

variable [Database D K W]

@[simp] theorem publish_db : (s.publish t).db = s.view t := rfl

@[simp] theorem publish_locks : (s.publish t).locks = s.locks := rfl

@[simp] theorem publish_writes : (s.publish t).writes = s.writes := rfl

@[simp] theorem publish_active : (s.publish t).active = s.active := rfl

@[simp] theorem publish_doomed : (s.publish t).doomed = s.doomed := rfl

@[simp] theorem publish_info : (s.publish t).info = s.info := rfl

@[simp] theorem publish_world : (s.publish t).world = s.world := rfl

@[simp] theorem begin_view (u : Tid) : (s.begin t).view u = s.view u := rfl

@[simp] theorem acquire_view (u : Tid) : (s.acquire t ks).view u = s.view u := rfl

@[simp] theorem record_view : (s.record t w).view t = Database.apply w (s.view t) := by
  simp [view]

theorem record_view_of_ne {u : Tid} (h : u ≠ t) : (s.record t w).view u = s.view u := by
  simp [view, record, h]

end

theorem holds_iff_mem_locksOf {s : Store D K W E I} {t : Tid} {k : K} {m : LockMode} :
    s.Holds t k m ↔ (k, m) ∈ s.locksOf t := by
  unfold Holds locksOf
  constructor
  · intro h
    exact List.mem_map.2 ⟨_, List.mem_filter.2 ⟨h, by simp⟩, rfl⟩
  · intro h
    obtain ⟨⟨t', k', m'⟩, hfilter, heq⟩ := List.mem_map.1 h
    obtain ⟨hmem, ht⟩ := List.mem_filter.1 hfilter
    simp only [decide_eq_true_eq] at ht
    simp only [Prod.mk.injEq] at heq
    rw [← ht, ← heq.1, ← heq.2]
    exact hmem

theorem blocked_eq_false [DecidableEq K] {s : Store D K W E I} {t : Tid} {k : K} {m : LockMode} :
    s.blocked t k m = false ↔
      ∀ u m', u ≠ t → s.Holds u k m' → m.conflicts m' = false := by
  simp only [blocked, Holds, List.any_eq_false, Bool.and_eq_true, decide_eq_true_eq, not_and,
    Bool.not_eq_true]
  constructor
  · intro h u m' hu hm
    exact h _ hm hu rfl
  · rintro h ⟨u, k', m'⟩ hm hu rfl
    exact h u m' hu hm

theorem blocked_eq_true [DecidableEq K] {s : Store D K W E I} {t : Tid} {k : K} {m : LockMode} :
    s.blocked t k m = true ↔ ∃ u m', u ≠ t ∧ s.Holds u k m' ∧ m.conflicts m' = true := by
  rw [← Bool.not_eq_false, blocked_eq_false]
  push Not
  simp

end Store

/-! ## Statements -/

/-- One statement, or one part of a statement that locks several rows in
turn; also what a program does between statements. -/
inductive Stmt (D K W E I X : Type) : Type → Type 1
  /-- a plain `SELECT`, on a snapshot taken as it starts -/
  | select {α : Type} (query : D → α) : Stmt D K W E I X α
  /-- lock one row, waiting for it -/
  | lock (key : K) (mode : LockMode) : Stmt D K W E I X Unit
  /-- lock one row under `SKIP LOCKED` -/
  | tryLock (key : K) (mode : LockMode) : Stmt D K W E I X Bool
  /-- enter a key in a unique index; false when the key is taken -/
  | enter (key : K) (taken : D → Bool) : Stmt D K W E I X Bool
  /-- write, holding the locks the write needs -/
  | write (w : W) : Stmt D K W E I X Unit
  /-- a statement the server rejects -/
  | reject (error : X) : Stmt D K W E I X Unit
  | commit : Stmt D K W E I X Unit
  | rollback : Stmt D K W E I X Unit
  /-- read the outside world -/
  | sense {α : Type} (read : E → α) : Stmt D K W E I X α
  /-- act on the outside world -/
  | tell (act : E → E) : Stmt D K W E I X Unit
  /-- read and change what the session keeps for itself -/
  | session {α : Type} (step : I → α × I) : Stmt D K W E I X α

/-- The locks a statement has to wait for. -/
def Stmt.wants [Database D K W] {α : Type} : Stmt D K W E I X α → List (K × LockMode)
  | .lock k m => [(k, m)]
  | .enter k _ => [(k, .update)]
  | .write w => Database.needs D w
  | _ => []

/-- Run one statement of session `t`; `none` while it has to wait. -/
def Stmt.exec [DecidableEq K] [Database D K W] [ServerError X] {α : Type} (t : Tid)
    (c : Stmt D K W E I X α) (s : Store D K W E I) : Option (Except X α × Store D K W E I) :=
  match c with
  | .select query =>
      if s.doomed t then some (.error ServerError.aborted, s)
      else some (.ok (query (s.view t)), s.begin t)
  | .lock k m =>
      if s.doomed t then some (.error ServerError.aborted, s)
      else if s.blocked t k m then none
      else some (.ok (), (s.begin t).acquire t [(k, m)])
  | .tryLock k m =>
      if s.doomed t then some (.error ServerError.aborted, s)
      else if s.blocked t k m then some (.ok false, s.begin t)
      else some (.ok true, (s.begin t).acquire t [(k, m)])
  | .enter k taken =>
      if s.doomed t then some (.error ServerError.aborted, s)
      else if s.blocked t k .update then none
      else if taken (s.view t) then some (.ok false, s.begin t)
      else some (.ok true, (s.begin t).acquire t [(k, .update)])
  | .write w =>
      if s.doomed t then some (.error ServerError.aborted, s)
      else if (Database.needs D w).any fun k => s.blocked t k.1 k.2 then none
      else some (.ok (), ((s.begin t).acquire t (Database.needs D w)).record t w)
  | .reject error =>
      if s.doomed t then some (.error ServerError.aborted, s)
      else some (.error error, s.doom t)
  | .commit =>
      if s.doomed t then some (.ok (), s.finish t)
      else some (.ok (), (s.publish t).finish t)
  | .rollback => some (.ok (), s.finish t)
  | .sense read => some (.ok (read s.world), s)
  | .tell act => some (.ok (), { s with world := act s.world })
  | .session step =>
      some (.ok (step (s.info t)).1, { s with info := Function.update s.info t (step (s.info t)).2 })

section

variable [DecidableEq K] [Database D K W] [ServerError X] {α : Type} {t : Tid}
  {s s' : Store D K W E I}

/-- An error leaves the transaction doomed. -/
theorem Stmt.doomed_of_exec_error {c : Stmt D K W E I X α} {e : X}
    (h : c.exec t s = some (.error e, s')) : s'.doomed t = true := by
  cases c with
  | select | lock | tryLock | enter | write =>
      simp only [Stmt.exec] at h
      split at h
      · simp only [Option.some.injEq, Prod.mk.injEq] at h
        rw [← h.2]; assumption
      · repeat' split at h
        all_goals simp at h
  | reject =>
      simp only [Stmt.exec] at h
      split at h <;> simp only [Option.some.injEq, Prod.mk.injEq] at h <;> rw [← h.2]
      · assumption
      · simp [Store.doom]
  | commit => simp only [Stmt.exec] at h; split at h <;> simp at h
  | rollback | sense | tell | session => simp [Stmt.exec] at h

/-- A statement waits exactly for the locks it wants. -/
theorem Stmt.exec_eq_none_iff {c : Stmt D K W E I X α} :
    c.exec t s = none ↔
      s.doomed t = false ∧ ∃ km ∈ c.wants, s.blocked t km.1 km.2 = true := by
  cases c with
  | select | reject | commit =>
      simp only [Stmt.exec, Stmt.wants]
      split <;> simp
  | rollback | sense | tell | session => simp [Stmt.exec, Stmt.wants]
  | tryLock =>
      simp only [Stmt.exec, Stmt.wants]
      repeat' split
      all_goals simp
  | lock | enter | write =>
      simp only [Stmt.exec, Stmt.wants]
      repeat' split
      all_goals simp_all

end

end MovieApi.ReadCommitted
