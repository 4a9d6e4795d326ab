import MovieApi.ReadCommitted.Discipline

/-!
# Parts of the data

The rows of one key are changed only under a lock on it, and a write does with them the
same whatever the rest of the data is.  So what a session reads of them after another
session's commit is what it read before, or what the other one did, and its locks say which.
-/

namespace MovieApi.ReadCommitted

variable {D K W E I β : Type}

/-- Session `t` holds a lock on the key that keeps others from changing its row. -/
def Store.Guards (s : Store D K W E I) (t : Tid) (k : K) : Prop :=
  ∃ mode, mode ≠ .keyShare ∧ s.Holds t k mode

variable [Database D K W]

/-- The write holds no lock on the key that would let it change its row. -/
def Leaves (D : Type) [Database D K W] (w : W) (k : K) : Prop :=
  (k, .noKeyUpdate) ∉ Database.needs D w ∧ (k, .update) ∉ Database.needs D w

/-- What is under one key. -/
structure Part (D K W β : Type) [Database D K W] where
  key : K
  read : D → β
  read_congr : ∀ (w : W) {d d' : D}, read d = read d' →
    read (Database.apply w d) = read (Database.apply w d')
  read_apply : ∀ (w : W) (d : D), Leaves D w key → read (Database.apply w d) = read d

namespace Store

variable {s : Store D K W E I} {t u : Tid} {k : K}

/-- A session that does not guard a row has not changed it. -/
theorem leaves_of_not_guards (hdis : s.Disciplined) (h : ¬ s.Guards t k) :
    ∀ w ∈ s.writes t, Leaves D w k :=
  fun _ hw => ⟨fun hneeds => h ⟨.noKeyUpdate, by decide, hdis.covered hw hneeds⟩,
    fun hneeds => h ⟨.update, by decide, hdis.covered hw hneeds⟩⟩

/-- What one session guards, no other has changed. -/
theorem leaves_of_guards (hdis : s.Disciplined) (hne : u ≠ t) (h : s.Guards t k) :
    ∀ w ∈ s.writes u, Leaves D w k := by
  obtain ⟨mode, hmode, hheld⟩ := h
  intro w hw
  constructor <;> intro hneeds <;>
    have hfree := hdis.compatible (Ne.symm hne) hheld (hdis.covered hw hneeds) <;>
    cases mode <;> simp_all [LockMode.conflicts]

end Store

namespace Part

variable (P : Part D K W β) {s : Store D K W E I} {t u : Tid}

theorem read_applyAll {ws : List W} (h : ∀ w ∈ ws, Leaves D w P.key) (d : D) :
    P.read (applyAll ws d) = P.read d :=
  applyAll_induction (P := fun d' : D => P.read d' = P.read d) rfl fun w hw d' hd' =>
    (P.read_apply w d' (h w hw)).trans hd'

theorem read_applyAll_congr (ws : List W) {d d' : D} (h : P.read d = P.read d') :
    P.read (applyAll ws d) = P.read (applyAll ws d') := by
  induction ws generalizing d d' with
  | nil => exact h
  | cons w ws ih => exact ih (P.read_congr w h)

theorem view_of_not_guards (hdis : s.Disciplined) (h : ¬ s.Guards t P.key) :
    P.read (s.view t) = P.read s.db :=
  P.read_applyAll (Store.leaves_of_not_guards hdis h) s.db

theorem view_of_guards (hdis : s.Disciplined) (hne : u ≠ t) (h : s.Guards t P.key) :
    P.read (s.view u) = P.read s.db :=
  P.read_applyAll (Store.leaves_of_guards hdis hne h) s.db

/-- What session `t` reads after a commit of `u`. -/
theorem committed (hdis : s.Disciplined) (hne : u ≠ t) :
    (s.Guards t P.key ∧ P.read (((s.publish u).finish u).view t) = P.read (s.view t)) ∨
    (¬ s.Guards t P.key ∧ P.read (((s.publish u).finish u).view t) = P.read (s.view u)) := by
  have hview : ((s.publish u).finish u).view t = applyAll (s.writes t) (s.view u) := by
    simp [Store.view, Store.finish, Ne.symm hne]
  rw [hview]
  by_cases h : s.Guards t P.key
  · exact .inl ⟨h, P.read_applyAll_congr _ (P.view_of_guards hdis hne h)⟩
  · exact .inr ⟨h, P.read_applyAll (Store.leaves_of_not_guards hdis h) _⟩

end Part

end MovieApi.ReadCommitted
