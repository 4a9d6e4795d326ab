import MovieApi.ReadCommitted.Program

/-!
# Pools of sessions

Any number of sessions, each with the rest of its program, over one store.  An
event lets one session run its next statement, or changes the outside world; a
session whose next statement waits has no event of its own until the lock it
wants is free.
-/

namespace MovieApi.ReadCommitted

structure Pool (D K W E I X : Type) where
  store : Store D K W E I
  progs : Tid → Prog D K W E I X Unit

inductive Event (E : Type) where
  | run (t : Tid)
  | outside (e : E)

/-- A restriction on runs: which statements may be run, and how the outside
world may change, in which stores. -/
structure Regime (D K W E I X : Type) where
  stmt : Tid → {α : Type} → Stmt D K W E I X α → Store D K W E I → Bool
  outside : E → Store D K W E I → Bool

variable {D K W E I X : Type}

/-- No restriction. -/
def Regime.any : Regime D K W E I X where
  stmt _ _ _ _ := true
  outside _ _ := true

namespace Pool

section

variable [DecidableEq K] [Database D K W] [ServerError X]

def next (p : Pool D K W E I X) : Event E → Option (Pool D K W E I X)
  | .run t =>
      match p.progs t with
      | .stmt c k =>
          match c.exec t p.store with
          | some (r, s') => some ⟨s', Function.update p.progs t (k r)⟩
          | none => none
      | _ => none
  | .outside e => some { p with store := { p.store with world := e } }

end

def admits (R : Regime D K W E I X) (p : Pool D K W E I X) : Event E → Bool
  | .run t =>
      match p.progs t with
      | .stmt c _ => R.stmt t c p.store
      | _ => true
  | .outside e => R.outside e p.store

@[simp] theorem admits_any (p : Pool D K W E I X) (ev : Event E) : p.admits .any ev = true := by
  cases ev with
  | run t =>
      simp only [admits]
      split <;> rfl
  | outside e => rfl

/-- Run a schedule; `none` when a session of it waits or the regime forbids a step. -/
def play [DecidableEq K] [Database D K W] [ServerError X] (R : Regime D K W E I X)
    (p : Pool D K W E I X) : List (Event E) → Option (Pool D K W E I X)
  | [] => some p
  | ev :: evs => if p.admits R ev then (p.next ev).bind fun q => q.play R evs else none

/-- The pools that a run within a regime reaches. -/
inductive Run [DecidableEq K] [Database D K W] [ServerError X] (R : Regime D K W E I X)
    (p : Pool D K W E I X) : Pool D K W E I X → Prop
  | refl : Run R p p
  | step {q r : Pool D K W E I X} (ev : Event E) :
      Run R p q → q.admits R ev = true → q.next ev = some r → Run R p r

section

variable [DecidableEq K] [Database D K W] [ServerError X] {R : Regime D K W E I X}
  {p q r : Pool D K W E I X}

theorem Run.trans (hpq : Run R p q) (hqr : Run R q r) : Run R p r := by
  induction hqr with
  | refl => exact hpq
  | step ev _ hallow hnext ih => exact .step ev ih hallow hnext

/-- A program that has ended stays as it is. -/
theorem next_progs_of_ended {ev : Event E} {t : Tid} (h : p.next ev = some q)
    (hended : (p.progs t).ended = true) : q.progs t = p.progs t := by
  cases ev with
  | outside e =>
      simp only [next, Option.some.injEq] at h
      rw [← h]
  | run u =>
      simp only [next] at h
      split at h
      · next c k hprog =>
          have hne : t ≠ u := by
            rintro rfl
            simp [hprog, Prog.ended] at hended
          split at h
          · simp only [Option.some.injEq] at h
            rw [← h]
            exact Function.update_of_ne hne _ _
          · simp at h
      · simp at h

theorem Run.progs_of_ended (h : Run R p q) {t : Tid} (hended : (p.progs t).ended = true) :
    q.progs t = p.progs t := by
  induction h with
  | refl => rfl
  | step ev _ _ hnext ih => exact (next_progs_of_ended hnext (ih.symm ▸ hended)).trans ih

theorem run_of_play {evs : List (Event E)} (h : p.play R evs = some q) : Run R p q := by
  induction evs generalizing p with
  | nil =>
      simp only [play, Option.some.injEq] at h
      exact h ▸ .refl
  | cons ev evs ih =>
      simp only [play] at h
      split at h
      · next hallow =>
          obtain ⟨p', hnext, hplay⟩ := Option.bind_eq_some_iff.1 h
          exact (Run.step ev .refl hallow hnext).trans (ih hplay)
      · simp at h

/-- A schedule that can be run ends in a pool the run reaches. -/
theorem exists_run_of_play {evs : List (Event E)} {f : Pool D K W E I X → Bool}
    (h : (p.play R evs).any f = true) : ∃ q, Run R p q ∧ f q = true := by
  cases hplay : p.play R evs with
  | none => simp [hplay] at h
  | some q => exact ⟨q, run_of_play hplay, by simpa [hplay] using h⟩

/-- Only commits change the committed data. -/
theorem next_db {ev : Event E} (h : p.next ev = some q) :
    q.store.db = p.store.db ∨
      ∃ t k, p.progs t = .stmt .commit k ∧ ev = .run t ∧ p.store.doomed t = false ∧
        q.store.db = p.store.view t := by
  cases ev with
  | outside e =>
      simp only [next, Option.some.injEq] at h
      exact .inl (h ▸ rfl)
  | run t =>
      simp only [next] at h
      split at h
      · next c k hprog =>
          split at h
          · next r s' hexec =>
              simp only [Option.some.injEq] at h
              subst h
              cases c <;> simp only [Stmt.exec] at hexec
              case commit =>
                split at hexec <;> simp only [Option.some.injEq, Prod.mk.injEq] at hexec
                · exact .inl (hexec.2 ▸ rfl)
                · next hd =>
                    exact .inr ⟨t, k, hprog, rfl, by simpa using hd, hexec.2 ▸ rfl⟩
              all_goals
                left
                repeat' split at hexec
                all_goals simp only [Option.some.injEq, Prod.mk.injEq, reduceCtorEq] at hexec
                all_goals exact hexec.2 ▸ rfl
          · simp at h
      · simp at h

/-- What every write keeps holds at every committed state. -/
theorem db_of_writes {P : D → Prop} (hwrites : ∀ w d, P d → P (Database.apply w d))
    (h : Run R p q) (hp : P p.store.db) : P q.store.db := by
  induction h with
  | refl => exact hp
  | step ev _ _ hnext ih =>
      rcases next_db hnext with hdb | ⟨t, k, -, -, -, hdb⟩ <;> rw [hdb]
      · exact ih
      · exact applyAll_induction ih fun w _ d hd => hwrites w d hd

end

end Pool

end MovieApi.ReadCommitted
