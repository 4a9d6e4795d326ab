import MovieApi.ReadCommitted.Pool

/-!
# What locks give a transaction

Two sessions never hold conflicting locks, and every uncommitted write is
covered by locks of its session.  So while a transaction holds a lock, the
statements of all other sessions leave alone the data the lock protects.
-/

namespace MovieApi.ReadCommitted

variable {D K W E I X : Type}

structure Store.Disciplined [Database D K W] (s : Store D K W E I) : Prop where
  compatible : ∀ {t u k m m'}, t ≠ u → s.Holds t k m → s.Holds u k m' → m.conflicts m' = false
  covered : ∀ {t w k m}, w ∈ s.writes t → (k, m) ∈ Database.needs D w → s.Holds t k m

/-- What the statements of other sessions leave to session `t`: all it keeps,
and the data its locks protect. -/
structure Steady [Database D K W] [LawfulDatabase D K W] (t : Tid) (s s' : Store D K W E I) :
    Prop where
  locks : s'.locksOf t = s.locksOf t
  writes : s'.writes t = s.writes t
  active : s'.active t = s.active t
  doomed : s'.doomed t = s.doomed t
  info : s'.info t = s.info t
  agree : ∀ {k m}, s.Holds t k m → LawfulDatabase.Agree k m s.db s'.db

namespace Steady

variable [Database D K W] [LawfulDatabase D K W] {t : Tid} {s s' s'' : Store D K W E I}

theorem refl (t : Tid) (s : Store D K W E I) : Steady t s s :=
  ⟨rfl, rfl, rfl, rfl, rfl, fun {k m} _ => LawfulDatabase.agree_refl k m s.db⟩

theorem holds_iff (h : Steady t s s') {k : K} {m : LockMode} :
    s'.Holds t k m ↔ s.Holds t k m := by
  rw [Store.holds_iff_mem_locksOf, Store.holds_iff_mem_locksOf, h.locks]

theorem trans (h : Steady t s s') (h' : Steady t s' s'') : Steady t s s'' where
  locks := h'.locks.trans h.locks
  writes := h'.writes.trans h.writes
  active := h'.active.trans h.active
  doomed := h'.doomed.trans h.doomed
  info := h'.info.trans h.info
  agree hk := LawfulDatabase.agree_trans (h.agree hk) (h'.agree (h.holds_iff.2 hk))

theorem agree_applyAll {k : K} {m : LockMode} (ws : List W) {d d' : D}
    (h : LawfulDatabase.Agree k m d d') :
    LawfulDatabase.Agree k m (applyAll ws d) (applyAll ws d') := by
  induction ws generalizing d d' with
  | nil => exact h
  | cons w ws ih => exact ih (LawfulDatabase.agree_congr w h)

/-- The data a lock protects stays the same in what the session reads. -/
theorem agree_view (h : Steady t s s') {k : K} {m : LockMode} (hk : s.Holds t k m) :
    LawfulDatabase.Agree k m (s.view t) (s'.view t) := by
  unfold Store.view
  rw [h.writes]
  exact agree_applyAll _ (h.agree hk)

end Steady

/-! ## Locks after each change of the store -/

namespace Store

variable {s : Store D K W E I} {t u : Tid} {k : K} {m : LockMode}

@[simp] theorem holds_acquire {ks : List (K × LockMode)} :
    (s.acquire t ks).Holds u k m ↔ (u = t ∧ (k, m) ∈ ks) ∨ s.Holds u k m := by
  simp only [Holds, acquire, List.mem_append, List.mem_map, Held.mk.injEq, Prod.exists]
  constructor
  · rintro (⟨_, _, hmem, rfl, rfl, rfl⟩ | h)
    · exact .inl ⟨rfl, hmem⟩
    · exact .inr h
  · rintro (⟨rfl, hmem⟩ | h)
    · exact .inl ⟨k, m, hmem, rfl, rfl, rfl⟩
    · exact .inr h

@[simp] theorem holds_finish : (s.finish t).Holds u k m ↔ u ≠ t ∧ s.Holds u k m := by
  simp [Holds, finish, and_comm]

@[simp] theorem holds_begin : (s.begin t).Holds u k m ↔ s.Holds u k m := Iff.rfl

@[simp] theorem holds_record {w : W} : (s.record t w).Holds u k m ↔ s.Holds u k m := Iff.rfl

@[simp] theorem holds_doom : (s.doom t).Holds u k m ↔ s.Holds u k m := Iff.rfl

@[simp] theorem holds_publish [Database D K W] :
    (s.publish t).Holds u k m ↔ s.Holds u k m := Iff.rfl

@[simp] theorem locksOf_acquire_self {ks : List (K × LockMode)} :
    (s.acquire t ks).locksOf t = ks ++ s.locksOf t := by
  simp [locksOf, acquire, List.filter_map, Function.comp_def]

theorem locksOf_acquire_of_ne (h : u ≠ t) {ks : List (K × LockMode)} :
    (s.acquire u ks).locksOf t = s.locksOf t := by
  simp [locksOf, acquire, List.filter_map, Function.comp_def, h]

@[simp] theorem locksOf_finish_self : (s.finish t).locksOf t = [] := by
  simp [locksOf, finish, List.filter_filter]

theorem locksOf_finish_of_ne (h : u ≠ t) : (s.finish u).locksOf t = s.locksOf t := by
  have hfilter : (s.locks.filter fun x => x.tid ≠ u).filter (fun x => x.tid = t) =
      s.locks.filter fun x => x.tid = t := by
    rw [List.filter_filter]
    refine List.filter_congr fun x _ => ?_
    by_cases hx : x.tid = t <;> simp [hx, Ne.symm h]
  simp only [locksOf, finish, hfilter]

@[simp] theorem locksOf_begin : (s.begin t).locksOf u = s.locksOf u := rfl

@[simp] theorem locksOf_record {w : W} : (s.record t w).locksOf u = s.locksOf u := rfl

@[simp] theorem locksOf_doom : (s.doom t).locksOf u = s.locksOf u := rfl

end Store

/-! ## What other sessions may do -/

namespace Steady

variable [Database D K W] [LawfulDatabase D K W] {t u : Tid} (hne : u ≠ t)

include hne

theorem begin (s : Store D K W E I) : Steady t s (s.begin u) :=
  ⟨rfl, rfl, Function.update_of_ne hne.symm _ _, rfl, rfl,
    fun _ => LawfulDatabase.agree_refl _ _ _⟩

theorem acquire (s : Store D K W E I) (ks : List (K × LockMode)) :
    Steady t s (s.acquire u ks) :=
  ⟨Store.locksOf_acquire_of_ne hne, rfl, rfl, rfl, rfl, fun _ => LawfulDatabase.agree_refl _ _ _⟩

theorem record (s : Store D K W E I) (w : W) : Steady t s (s.record u w) :=
  ⟨rfl, Function.update_of_ne hne.symm _ _, rfl, rfl, rfl,
    fun _ => LawfulDatabase.agree_refl _ _ _⟩

theorem doom (s : Store D K W E I) : Steady t s (s.doom u) :=
  ⟨rfl, rfl, rfl, Function.update_of_ne hne.symm _ _, rfl,
    fun _ => LawfulDatabase.agree_refl _ _ _⟩

theorem finish (s : Store D K W E I) : Steady t s (s.finish u) :=
  ⟨Store.locksOf_finish_of_ne hne, Function.update_of_ne hne.symm _ _,
    Function.update_of_ne hne.symm _ _, Function.update_of_ne hne.symm _ _, rfl,
    fun _ => LawfulDatabase.agree_refl _ _ _⟩

/-- A commit leaves alone what other sessions have locked. -/
theorem publish {s : Store D K W E I} (hs : s.Disciplined) : Steady t s (s.publish u) := by
  refine ⟨rfl, rfl, rfl, rfl, rfl, fun {k m} hk => ?_⟩
  refine applyAll_induction (P := fun d => LawfulDatabase.Agree k m s.db d)
    (LawfulDatabase.agree_refl k m s.db) fun w hw d hd => ?_
  refine LawfulDatabase.agree_trans hd (LawfulDatabase.agree_apply w d k m fun m' hm' => ?_)
  exact hs.compatible (Ne.symm hne) hk (hs.covered hw hm')

omit hne in
theorem world (s : Store D K W E I) (e : E) : Steady t s { s with world := e } :=
  ⟨rfl, rfl, rfl, rfl, rfl, fun _ => LawfulDatabase.agree_refl _ _ _⟩

end Steady

/-! ## Every statement keeps the discipline -/

namespace Store.Disciplined

variable [Database D K W] {s : Store D K W E I} {t : Tid}

theorem idle (d : D) (i : I) (e : E) : (Store.idle d i e : Store D K W E I).Disciplined where
  compatible _ h := by simp [Holds, Store.idle] at h
  covered h := by simp [Store.idle] at h

theorem of_same {s' : Store D K W E I} (h : s.Disciplined) (hlocks : s'.locks = s.locks)
    (hwrites : s'.writes = s.writes) : s'.Disciplined where
  compatible hne ht hu := by
    simp only [Holds, hlocks] at ht hu
    exact h.compatible hne ht hu
  covered hw hn := by
    rw [hwrites] at hw
    have := h.covered hw hn
    simpa only [Holds, hlocks] using this

theorem acquire [DecidableEq K] (h : s.Disciplined) {ks : List (K × LockMode)}
    (hfree : ∀ km ∈ ks, s.blocked t km.1 km.2 = false) : (s.acquire t ks).Disciplined where
  compatible {a b k m m'} hne ha hb := by
    simp only [holds_acquire] at ha hb
    rcases ha with ⟨rfl, ha⟩ | ha <;> rcases hb with ⟨rfl, hb⟩ | hb
    · exact absurd rfl hne
    · exact blocked_eq_false.1 (hfree _ ha) b m' (Ne.symm hne) hb
    · rw [LockMode.conflicts_comm]
      exact blocked_eq_false.1 (hfree _ hb) a m hne ha
    · exact h.compatible hne ha hb
  covered hw hn := by
    simp only [holds_acquire]
    exact .inr (h.covered hw hn)

theorem record (h : s.Disciplined) {w : W}
    (hcov : ∀ km ∈ Database.needs D w, s.Holds t km.1 km.2) : (s.record t w).Disciplined where
  compatible hne ht hu := h.compatible hne ht hu
  covered {u w' k m} hw hn := by
    simp only [Store.record, Function.update_apply] at hw
    split at hw
    · next hu =>
        subst hu
        rw [List.mem_append, List.mem_singleton] at hw
        rcases hw with hw | rfl
        · exact h.covered hw hn
        · exact hcov _ hn
    · exact h.covered hw hn

theorem finish (h : s.Disciplined) : (s.finish t).Disciplined where
  compatible hne ha hb := by
    simp only [holds_finish] at ha hb
    exact h.compatible hne ha.2 hb.2
  covered {u w k m} hw hn := by
    simp only [Store.finish, Function.update_apply] at hw
    split at hw
    · simp at hw
    · next hu => exact holds_finish.2 ⟨hu, h.covered hw hn⟩

end Store.Disciplined

section

variable [DecidableEq K] [Database D K W] [ServerError X] {α : Type} {t u : Tid}
  {s s' : Store D K W E I} {c : Stmt D K W E I X α} {r : Except X α}

theorem Stmt.exec_disciplined (h : c.exec t s = some (r, s')) (hs : s.Disciplined) :
    s'.Disciplined := by
  have hbegin : (s.begin t).Disciplined := hs.of_same rfl rfl
  have hblocked : ∀ k m, (s.begin t).blocked t k m = s.blocked t k m := fun _ _ => rfl
  cases c with
  | select | sense | tell | session =>
      simp only [Stmt.exec] at h
      repeat' split at h
      all_goals
        simp only [Option.some.injEq, Prod.mk.injEq] at h
        exact h.2 ▸ hs.of_same rfl rfl
  | lock | tryLock | enter =>
      simp only [Stmt.exec] at h
      repeat' split at h
      all_goals simp only [Option.some.injEq, Prod.mk.injEq, reduceCtorEq] at h
      all_goals rw [← h.2]
      all_goals first
        | assumption
        | exact hbegin.acquire (by simp_all)
  | write w =>
      simp only [Stmt.exec] at h
      repeat' split at h
      · simp only [Option.some.injEq, Prod.mk.injEq] at h
        exact h.2 ▸ hs
      · simp at h
      · next hfree =>
          simp only [Option.some.injEq, Prod.mk.injEq] at h
          rw [← h.2]
          refine (hbegin.acquire fun km hkm => ?_).record fun km hkm => ?_
          · simp only [Bool.not_eq_true, List.any_eq_false] at hfree
            simpa [hblocked] using hfree km hkm
          · exact Store.holds_acquire.2 (.inl ⟨rfl, hkm⟩)
  | reject =>
      simp only [Stmt.exec] at h
      split at h <;> simp only [Option.some.injEq, Prod.mk.injEq] at h
      · exact h.2 ▸ hs
      · exact h.2 ▸ hs.of_same rfl rfl
  | commit =>
      simp only [Stmt.exec] at h
      split at h <;> simp only [Option.some.injEq, Prod.mk.injEq] at h
      · exact h.2 ▸ hs.finish
      · have hpublish : (s.publish t).Disciplined := hs.of_same rfl rfl
        exact h.2 ▸ hpublish.finish
  | rollback =>
      simp only [Stmt.exec, Option.some.injEq, Prod.mk.injEq] at h
      exact h.2 ▸ hs.finish

variable [LawfulDatabase D K W]

/-- A statement of one session leaves every other session steady. -/
theorem Stmt.exec_steady (h : c.exec u s = some (r, s')) (hs : s.Disciplined) (hne : u ≠ t) :
    Steady t s s' := by
  have hbegin : Steady t s (s.begin u) := .begin hne s
  cases c with
  | select | lock | tryLock | enter | reject =>
      simp only [Stmt.exec] at h
      repeat' split at h
      all_goals simp only [Option.some.injEq, Prod.mk.injEq, reduceCtorEq] at h
      all_goals rw [← h.2]
      all_goals first
        | exact .refl t s
        | exact hbegin
        | exact hbegin.trans (.acquire hne _ _)
        | exact .doom hne s
  | write w =>
      simp only [Stmt.exec] at h
      repeat' split at h
      all_goals simp only [Option.some.injEq, Prod.mk.injEq, reduceCtorEq] at h
      · exact h.2 ▸ .refl t s
      · exact h.2 ▸ (hbegin.trans (.acquire hne _ _)).trans (.record hne _ w)
  | commit =>
      simp only [Stmt.exec] at h
      split at h <;> simp only [Option.some.injEq, Prod.mk.injEq] at h
      · exact h.2 ▸ .finish hne s
      · exact h.2 ▸ (Steady.publish hne hs).trans (.finish hne _)
  | rollback =>
      simp only [Stmt.exec, Option.some.injEq, Prod.mk.injEq] at h
      exact h.2 ▸ .finish hne s
  | sense =>
      simp only [Stmt.exec, Option.some.injEq, Prod.mk.injEq] at h
      exact h.2 ▸ .refl t s
  | tell act =>
      simp only [Stmt.exec, Option.some.injEq, Prod.mk.injEq] at h
      exact h.2 ▸ .world s _
  | session step =>
      simp only [Stmt.exec, Option.some.injEq, Prod.mk.injEq] at h
      exact h.2 ▸ ⟨rfl, rfl, rfl, rfl, Function.update_of_ne hne.symm _ _,
        fun _ => LawfulDatabase.agree_refl _ _ _⟩

end

end MovieApi.ReadCommitted
