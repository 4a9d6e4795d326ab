import MovieApi.Playback.WatchProgress

/-!
# Watch progress from several devices

While no call inserts over a row or updates past one that has moved on, no call fails
or waits for one that waits, and the row is always what the last commit has saved.
-/

namespace MovieApi.Playback.WatchProgress

open ReadCommitted ReadCommitted.Prog
open Accounts (Uuid Instant Err User)

variable {user : User} {contentId : Uuid} {catalog : Playback.Db}
  {requests : Tid → WatchProgressUpdate} {t u : Tid} {s s' : Store} {d d' : Db}
  {ws : List Write} {data : WatchProgressUpdate}

/-! ## Rows after writes -/

theorem catalog_applyAll (ws : List Write) (d : Db) : (applyAll ws d).catalog = d.catalog := by
  refine applyAll_induction (P := fun d' : Db => d'.catalog = d.catalog) rfl fun w _ d' hd' => ?_
  rw [apply_eq, Write.catalog_apply, hd']

/-- Rows stay. -/
theorem isSome_applyAll {key : Key} (h : (d.watchProgress key).isSome = true) (ws : List Write) :
    ((applyAll ws d).watchProgress key).isSome = true := by
  refine applyAll_induction (P := fun d' : Db => (d'.watchProgress key).isSome = true) h
    fun w _ d' hd' => ?_
  obtain ⟨row, hrow⟩ := Option.isSome_iff_exists.1 hd'
  rw [apply_eq, Write.watchProgress_apply, hrow]
  cases w <;> simp [Write.onRow, apply_ite Option.isSome]

/-! ## The contract -/

/-- A commit has saved the call's position and flag, and no older date than before. -/
def Saved (key : Key) (data : WatchProgressUpdate) (d d' : Db) : Prop :=
  ∃ row, d'.watchProgress key = some row ∧ row.positionSeconds = data.positionSeconds ∧
    row.completed = data.completed ∧
      ∀ old, d.watchProgress key = some old → old.lastWatchedAt ≤ row.lastWatchedAt

/-- The call was refused because the user may not watch the title at some time. -/
def Refused (user : User) (contentId : Uuid) (catalog : Playback.Db) (fault : Fault) : Prop :=
  ∃ now err, fault = .refused err ∧
    assertCanTrackWatchProgress catalog now user contentId = .error err

/-- A statement that has to wait is issued without any lock. -/
def WaitsBare {α : Type} (t : Tid) (c : Stmt α) (s : Store) : Prop :=
  (∃ km ∈ c.wants, s.blocked t km.1 km.2 = true) → s.locksOf t = []

def progressContract (user : User) (contentId : Uuid) (catalog : Playback.Db)
    (requests : Tid → WatchProgressUpdate) : Contract where
  Inv s := s.db.catalog = catalog ∧ ∀ t, s.doomed t = false
  Obl t _ c s := WaitsBare t c s ∧
    match c with
    | .reject _ => False
    | .commit => Saved (user.id, contentId) (requests t) s.db (s.view t)
    | _ => True
  Rely s s' := ∀ key, (s.db.watchProgress key).isSome = true →
    (s'.db.watchProgress key).isSome = true
  rely_refl _ := fun _ h => h
  rely_trans h h' := fun key hkey => h' key (h key hkey)
  Allows t _ c s := undisturbed.stmt t c s = true

theorem progressContract_sound :
    (progressContract user contentId catalog requests).Sound undisturbed where
  allows := id
  stmt {α c t s r s'} _ hinv hobl _ hexec := by
    obtain ⟨hcatalog, hlive⟩ := hinv
    have hobl := hobl (hlive t)
    cases c with
    | reject => exact hobl.2.elim
    | commit =>
        simp only [Stmt.exec, hlive t, Bool.false_eq_true, if_false, Option.some.injEq,
          Prod.mk.injEq] at hexec
        rw [← hexec.2]
        refine ⟨⟨(catalog_applyAll _ _).trans hcatalog, fun u => ?_⟩,
          fun key hkey => isSome_applyAll hkey _⟩
        by_cases hu : u = t <;> simp [Store.finish, Store.publish, hu, hlive u]
    | select | lock | tryLock | enter | write | rollback | sense | tell | session =>
        simp only [Stmt.exec, hlive t, Bool.false_eq_true, if_false] at hexec
        repeat' split at hexec
        all_goals simp only [Option.some.injEq, Prod.mk.injEq, reduceCtorEq] at hexec
        all_goals rw [← hexec.2]
        all_goals refine ⟨⟨hcatalog, fun u => ?_⟩, fun key hkey => hkey⟩
        all_goals first
          | exact hlive u
          | by_cases hu : u = t <;> simp [Store.finish, hu, hlive u]
  others _ _ _ _ _ _ := trivial
  outside hinv _ := ⟨⟨hinv, fun _ hkey => hkey⟩, fun _ => trivial⟩

/-! ## One call -/

/-- The transaction has written nothing and holds no lock. -/
def Bare (t : Tid) (s : Store) : Prop := s.writes t = [] ∧ s.locksOf t = []

theorem bare_stable : Stable (progressContract user contentId catalog requests) t (Bare t) :=
  ⟨fun hb hs => ⟨hb.writes.trans hs.1, hb.locks.trans hs.2⟩⟩

/-- The row is there. -/
def Kept (key : Key) (s : Store) : Prop := (s.db.watchProgress key).isSome = true

theorem kept_stable (key : Key) :
    Stable (progressContract user contentId catalog requests) t (Kept key) :=
  ⟨fun hb hs => hb.rely key hs⟩

/-- A session waits for no lock that it has already. -/
theorem blocked_of_holds {key : Key} {m : LockMode} (hdis : s.Disciplined)
    (h : s.Holds t key .update) : s.blocked t key m = false := by
  rw [Store.blocked_eq_false]
  intro u m' hne hheld
  have hconflict := hdis.compatible (Ne.symm hne) h hheld
  simp at hconflict

/-- The new row is entered, and its `INSERT` flushed or not. -/
structure Inserting (key : Key) (t : Tid) (ws : List Write) (s : Store) : Prop where
  writes : s.writes t = ws
  entered : s.Holds t key .update
  free : s.db.watchProgress key = none

theorem inserting_stable (key : Key) (ws : List Write) :
    Stable (progressContract user contentId catalog requests) t (Inserting key t ws) := by
  refine ⟨fun hb hs => ⟨hb.writes.trans hs.writes, hb.holds_iff.2 hs.entered, ?_⟩⟩
  exact (hb.agree hs.entered (by decide)).trans hs.free

/-- What is flushed: a new row, or an update of the one that is there. -/
inductive Flushed (key : Key) (t : Tid) (row : Progress) (s : Store) : Prop
  | inserted (h : Inserting key t [.insertProgress key row] s)
  | updated (loaded : Progress) (h : s.writes t = [.updateProgress key loaded row])
      (hkept : Kept key s)

theorem flushed_stable (key : Key) (row : Progress) :
    Stable (progressContract user contentId catalog requests) t (Flushed key t row) := by
  refine ⟨fun hb hs => ?_⟩
  cases hs with
  | inserted h => exact .inserted ((inserting_stable key _).keep hb h)
  | updated loaded h hkept =>
      exact .updated loaded (hb.writes.trans h) ((kept_stable key).keep hb hkept)

/-- What is flushed saves the call where its update fits. -/
theorem Flushed.saved {key : Key} {row : Progress} (h : Flushed key t row s)
    (hposition : row.positionSeconds = data.positionSeconds)
    (hcompleted : row.completed = data.completed)
    (hfits : ∀ w ∈ s.writes t, w.fits s.db = true) : Saved key data s.db (s.view t) := by
  cases h with
  | inserted h =>
      refine ⟨row, ?_, hposition, hcompleted, fun old hold => ?_⟩
      · rw [Store.view, h.writes, applyAll_cons, applyAll_nil, apply_eq, Write.watchProgress_apply]
        simp [Write.onRow, h.free]
      · rw [h.free] at hold
        cases hold
  | updated loaded h hkept =>
      obtain ⟨stored, hstored⟩ := Option.isSome_iff_exists.1 hkept
      have hrow := hfits (.updateProgress key loaded row) (by simp [h])
      simp only [Write.fits, hstored, Option.all_some, decide_eq_true_eq] at hrow
      obtain ⟨hpositionFits, hcompletedFits, hdate⟩ := hrow
      refine ⟨flush loaded row stored, ?_, ?_, ?_, fun old hold => ?_⟩
      · rw [Store.view, h, applyAll_cons, applyAll_nil, apply_eq, Write.watchProgress_apply]
        simp [Write.onRow, hstored]
      · show (if _ then _ else _) = _
        rw [← hposition]
        split
        · next hleft => exact hpositionFits hleft
        · rfl
      · show (if _ then _ else _) = _
        rw [← hcompleted]
        split
        · next hleft => exact hcompletedFits hleft
        · rfl
      · obtain rfl : stored = old := Option.some.inj (hstored.symm.trans hold)
        show _ ≤ (if _ then _ else _)
        split
        · exact le_refl _
        · next hleft => exact hdate hleft

section

variable {Q : Store → Prop} {R : Fault → Store → Prop}

/-- A statement that waits for nothing. -/
theorem waitsBare_of_nil {α : Type} {c : Stmt α} (h : c.wants = []) : WaitsBare t c s := by
  rintro ⟨km, hkm, -⟩
  rw [h] at hkm
  cases hkm

theorem flushProgress_part (loaded? : Option Progress) (row : Progress) :
    Triple (progressContract user contentId catalog requests) t
      (fun s => Bare t s ∧ (loaded?.isSome = true → Kept (user.id, contentId) s))
      (flushProgress (user.id, contentId) loaded? row)
      (fun _ => Flushed (user.id, contentId) t row) R := by
  cases loaded? with
  | some loaded =>
      refine .write (bare_stable.and ⟨fun hb hs hkept => (kept_stable _).keep hb (hs hkept)⟩)
        fun s _ hs _ => ⟨⟨fun _ => hs.1.2, trivial⟩, fun _ => .updated loaded ?_ (hs.2 rfl)⟩
      simp [Store.record, Store.acquire, hs.1.1]
  | none =>
      refine .bind (Q := fun entered s => entered = true ∧ Inserting (user.id, contentId) t [] s)
        (.pre (.performAllowed bare_stable fun s hc hallow hs => ⟨fun _ => ⟨fun _ => hs.2, trivial⟩,
          fun entered s' hexec => ?_⟩) fun s hs => hs.1) fun entered => ?_
      · have hfree : (s.blocked t (user.id, contentId) .update ||
            !((s.view t).watchProgress (user.id, contentId)).isSome) = true := hallow
        have hview : s.view t = s.db := by rw [Store.view, hs.1, applyAll_nil]
        rw [hview] at hfree
        simp only [Stmt.exec, hc.inv.2 t, Bool.false_eq_true, if_false, hview] at hexec
        split at hexec
        · cases hexec
        · next hblocked =>
            have hnone : s.db.watchProgress (user.id, contentId) = none := by
              simpa [hblocked] using hfree
            rw [hnone] at hexec
            simp only [Option.isSome_none, Bool.false_eq_true, if_false, Option.some.injEq,
              Prod.mk.injEq, Except.ok.injEq] at hexec
            rw [← hexec.2]
            exact ⟨hexec.1.symm, hs.1, by simp, hnone⟩
      · refine .given (fun s hs => hs.1) fun hentered => ?_
        rw [hentered, if_pos rfl]
        refine .pre (.write (inserting_stable _ []) fun s hc hs _ => ⟨⟨?_, trivial⟩, fun _ => ?_⟩)
          fun s hs => hs.2
        · rintro ⟨km, hkm, hblocked⟩
          obtain rfl := List.mem_singleton.1 hkm
          rw [blocked_of_holds hc.disciplined hs.entered] at hblocked
          cases hblocked
        · refine .inserted ⟨?_, Store.holds_acquire.2 (.inr hs.entered), hs.free⟩
          simp [Store.record, Store.acquire, hs.writes]

/-- A call keeps the contract, and it fails only where it is refused. -/
theorem upsertWatchProgress_part :
    Triple (progressContract user contentId catalog requests) t (Bare t)
      (upsertWatchProgress user contentId (requests t)) (fun _ _ => True)
      fun fault _ => Refused user contentId catalog fault := by
  refine .bind (.sense (Q := fun _ => Bare t) bare_stable
    fun s _ hs => ⟨fun _ => ⟨waitsBare_of_nil rfl, trivial⟩, hs⟩) fun checkedAt => ?_
  refine .bind (.select (Q := fun access s => Bare t s ∧
      access = assertCanTrackWatchProgress catalog checkedAt user contentId) bare_stable
    fun s hc hs _ => ⟨⟨waitsBare_of_nil rfl, trivial⟩, hs, ?_⟩) fun access => ?_
  · rw [Store.view, hs.1, applyAll_nil, hc.inv.1]
  · refine .given (fun s hs => hs.2) fun haccess => .pre ?_ fun s hs => hs.1
    cases access with
    | error err => exact .raise fun _ _ => ⟨checkedAt, err, rfl, haccess.symm⟩
    | ok content =>
        refine .bind (.select (Q := fun progress s => Bare t s ∧
            (progress.isSome = true → Kept (user.id, contentId) s)) bare_stable
          fun s _ hs _ => ⟨⟨waitsBare_of_nil rfl, trivial⟩, hs, fun hsome => ?_⟩) fun progress => ?_
        · rw [Store.view, hs.1, applyAll_nil] at hsome
          exact hsome
        refine .bind (.sense (Q := fun _ s => Bare t s ∧
            (progress.isSome = true → Kept (user.id, contentId) s))
          (bare_stable.and ⟨fun hb hs hkept => (kept_stable _).keep hb (hs hkept)⟩)
          fun s _ hs => ⟨fun _ => ⟨waitsBare_of_nil rfl, trivial⟩, hs⟩) fun now => ?_
        refine .bind (flushProgress_part progress _) fun _ => ?_
        refine .bind (Q := fun _ => Kept (user.id, contentId)) (.performAllowed
          (flushed_stable _ _) fun s hc hallow hs => ?_) fun _ => ?_
        · have hsaved : Saved (user.id, contentId) (requests t) s.db (s.view t) :=
            hs.saved rfl rfl fun w hw => List.all_eq_true.1 hallow w hw
          refine ⟨fun _ => ⟨waitsBare_of_nil rfl, hsaved⟩, fun _ s' hexec => ?_⟩
          simp only [Stmt.exec, hc.inv.2 t, Bool.false_eq_true, if_false, Option.some.injEq,
            Prod.mk.injEq] at hexec
          obtain ⟨row, hrow, -⟩ := hsaved
          rw [← hexec.2]
          exact Option.isSome_iff_exists.2 ⟨row, hrow⟩
        · refine .bind (.select (Q := fun row? _ => row?.isSome = true) (kept_stable _)
            fun s _ hs _ => ⟨⟨waitsBare_of_nil rfl, trivial⟩, isSome_applyAll hs _⟩) fun row? => ?_
          refine .given (fun _ hs => hs) fun hsome => ?_
          obtain ⟨row, hrow⟩ := Option.isSome_iff_exists.1 hsome
          rw [hrow]
          exact .ret fun _ _ => trivial

theorem closing_part {p : Prog Unit} (h : Triple (progressContract user contentId catalog requests)
      t (Bare t) p (fun _ _ => True) fun fault _ => Refused user contentId catalog fault) :
    Triple (progressContract user contentId catalog requests) t (Bare t) (closing p)
      (fun _ s => s.locksOf t = [])
      fun fault s => s.locksOf t = [] ∧ Refused user contentId catalog fault := by
  have hrollback (φ : Prop) (P : Store → Prop)
      (hP : Stable (progressContract user contentId catalog requests) t P)
      (hφ : ∀ s, Calm (progressContract user contentId catalog requests) s → P s → φ) :
      Triple (progressContract user contentId catalog requests) t P rollback
        (fun _ s => s.locksOf t = [] ∧ φ) fun fault s =>
          s.locksOf t = [] ∧ Refused user contentId catalog fault :=
    .rollback hP fun s hc hs => ⟨fun _ => ⟨waitsBare_of_nil rfl, trivial⟩, by simp, hφ s hc hs⟩
  refine .bind (Q := fun _ _ => True) (.tryCatch h fun fault => ?_) fun _ =>
    .post (hrollback True _ (.pure True) fun _ _ _ => trivial) fun _ s hs => hs.1
  refine .bind (hrollback (Refused user contentId catalog fault) _
    (.or (.doomed true) (.pure _)) fun s hc hs => ?_) fun _ => .raise fun s hs => hs
  rcases hs with hdoomed | hrefused
  · rw [hc.inv.2 t] at hdoomed
    cases hdoomed
  · exact hrefused

end

/-! ## Every run -/

section

variable {q : Pool} {R : Tid → Fault → Store → Prop}

/-- A call that has not ended can go on, or waits for a lock of one that can. -/
def CanGoOn (q : Pool) (t : Tid) : Prop :=
  (q.next (.run t)).isSome = true ∨
    ∃ u key m, u ≠ t ∧ q.store.Holds u key m ∧ (q.next (.run u)).isSome = true

/-- The lock a session waits for, and that it holds none itself. -/
theorem waits_of_next (h : Pool.Keeps (progressContract user contentId catalog requests)
    (fun t s => s.locksOf t = []) R q) {α : Type} {c : Stmt α}
    {k : Except Fault α → Prog Unit} (hprog : q.progs t = .stmt c k)
    (hnext : q.next (.run t) = none) :
    q.store.locksOf t = [] ∧ ∃ km ∈ c.wants, q.store.blocked t km.1 km.2 = true := by
  have hexec : c.exec t q.store = none := by
    simp only [Pool.next, hprog] at hnext
    split at hnext
    · cases hnext
    · next hexec => exact hexec
  obtain ⟨-, hwaits⟩ := Stmt.exec_eq_none_iff.1 hexec
  refine ⟨?_, hwaits⟩
  have hallow : undisturbed.stmt t c q.store = true := by
    obtain ⟨km, hkm, hblocked⟩ := hwaits
    cases c with
    | enter key taken =>
        obtain rfl := List.mem_singleton.1 hkm
        simp [undisturbed, hblocked]
    | commit => cases hkm
    | _ => rfl
  exact (h.obl hprog hallow (h.calm.inv.2 t)).1 hwaits

theorem canGoOn_of_keeps (h : Pool.Keeps (progressContract user contentId catalog requests)
    (fun t s => s.locksOf t = [])
    (fun t fault s => s.doomed t = true ∨
      s.locksOf t = [] ∧ Refused user contentId catalog fault) q)
    (hrest : (q.progs t).ended = false) : CanGoOn q t := by
  cases hnext : q.next (.run t) with
  | some r => exact .inl (Option.isSome_iff_exists.2 ⟨r, hnext⟩)
  | none =>
      right
      cases hprog : q.progs t with
      | ret a => simp [hprog, Prog.ended] at hrest
      | raise fault => simp [hprog, Prog.ended] at hrest
      | stmt c k =>
          obtain ⟨-, km, -, hblocked⟩ := waits_of_next h hprog hnext
          obtain ⟨u, m, hne, hheld, -⟩ := Store.blocked_eq_true.1 hblocked
          have hholds : q.store.locksOf u ≠ [] := by
            rw [Store.holds_iff_mem_locksOf] at hheld
            exact List.ne_nil_of_mem hheld
          refine ⟨u, km.1, m, hne, hheld, ?_⟩
          -- the one that holds the lock has not ended, and waits for nobody
          have hmeets := h.meets u
          cases hu : q.progs u with
          | ret a =>
              rw [hu] at hmeets
              exact absurd hmeets hholds
          | raise fault =>
              rw [hu] at hmeets
              rcases hmeets with hdoomed | hended
              · rw [h.calm.inv.2 u] at hdoomed
                cases hdoomed
              · exact absurd hended.1 hholds
          | stmt c' k' =>
              cases hnext' : q.next (.run u) with
              | some r => rfl
              | none => exact absurd (waits_of_next h hu hnext').1 hholds

end

namespace Shelf

def viewer : User := ⟨1, "viewer@shelf", none, none, none, "user", true⟩

/-- A catalogue with one free movie. -/
def movies : Playback.Db where
  accounts := { users := [viewer], sessions := [], resetTokens := [] }
  contents := [⟨7, .single, none, none, none, "movie", "Movie", none, none, true, true⟩]
  series := []
  channels := []
  subscriptions := []
  purchases := []
  seriesPurchases := []
  rails := ⟨[], [], [], [], by decide, by decide, by decide, by decide⟩

/-- The movie, watched so far as `progress` says. -/
def db (progress : Option Progress) : Db :=
  ⟨movies, fun key => if key = (1, 7) then progress else none⟩

def runs (t n : Nat) : List (Event Instant) := List.replicate n (.run t)

def fails (q : Pool) (t : Tid) : Bool :=
  match q.progs t with
  | .raise fault => decide (fault = .integrity)
  | _ => false

/-- One device stops at 20 seconds, the other watches to the end of the first 10. -/
def devices : Tid → WatchProgressUpdate
  | 0 => { positionSeconds := 20 }
  | _ => { positionSeconds := 10, completed := true }

def start (progress : Option Progress) : Pool := startUpserts viewer 7 (db progress) 5 devices

end Shelf

end MovieApi.Playback.WatchProgress
