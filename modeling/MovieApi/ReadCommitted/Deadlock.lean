import MovieApi.ReadCommitted.Pool

/-!
# Sessions that wait for each other

A session waits for another one while its next statement wants a lock that the
other one's lock conflicts with.  A cycle of such sessions is a deadlock: none of
them moves until the server rejects a statement of one.
-/

namespace MovieApi.ReadCommitted

variable {D K W E I X : Type} {α : Type}

/-- The rows a statement has to lock.  A key that is entered in an index is no row
yet. -/
def Stmt.rows [Database D K W] : Stmt D K W E I X α → List (K × LockMode)
  | .lock k m => [(k, m)]
  | .write w => Database.needs D w
  | _ => []

variable [DecidableEq K] [Database D K W]

/-- Session `t` cannot run the statement because of a lock of session `u`. -/
def Stmt.waitsFor (t u : Tid) (c : Stmt D K W E I X α) (s : Store D K W E I) : Bool :=
  !s.doomed t && c.rows.any fun km => s.locks.any fun h =>
    decide (u ≠ t ∧ h.tid = u ∧ h.key = km.1) && km.2.conflicts h.mode

namespace Pool

def waitsFor (p : Pool D K W E I X) (t u : Tid) : Bool :=
  match p.progs t with
  | .stmt c _ => c.waitsFor t u p.store
  | _ => false

/-- Some sessions wait for each other in a cycle. -/
def Deadlocked (p : Pool D K W E I X) : Prop :=
  ∃ t, Relation.TransGen (fun t u => p.waitsFor t u = true) t t

end Pool

theorem Stmt.waitsFor_iff {t u : Tid} {c : Stmt D K W E I X α} {s : Store D K W E I} :
    c.waitsFor t u s = true ↔ s.doomed t = false ∧ u ≠ t ∧
      ∃ km ∈ c.rows, ∃ m, s.Holds u km.1 m ∧ km.2.conflicts m = true := by
  simp only [Stmt.waitsFor, Bool.and_eq_true, Bool.not_eq_true', List.any_eq_true,
    decide_eq_true_eq, Store.Holds]
  constructor
  · rintro ⟨hd, km, hkm, ⟨holder, key, mode⟩, hmem, ⟨hne, rfl, rfl⟩, hconflict⟩
    exact ⟨hd, hne, km, hkm, mode, hmem, hconflict⟩
  · rintro ⟨hd, hne, km, hkm, m, hmem, hconflict⟩
    exact ⟨hd, km, hkm, _, hmem, ⟨hne, rfl, rfl⟩, hconflict⟩

/-- A session that waits for a lock of another one. -/
structure Pool.Waits (p : Pool D K W E I X) (t : Tid) (k : K) (u : Tid) : Prop where
  live : p.store.doomed t = false
  other : u ≠ t
  wanted : ∃ (β : Type) (c : Stmt D K W E I X β) (next : Except X β → Prog D K W E I X Unit)
    (m : LockMode), p.progs t = .stmt c next ∧ (k, m) ∈ c.rows ∧
      ∃ m', p.store.Holds u k m' ∧ m.conflicts m' = true

theorem Pool.waits_of_waitsFor {p : Pool D K W E I X} {t u : Tid} (h : p.waitsFor t u = true) :
    ∃ k, p.Waits t k u := by
  unfold Pool.waitsFor at h
  split at h
  · next c next hprog =>
      obtain ⟨hd, hne, ⟨k, m⟩, hkm, m', hheld, hconflict⟩ := Stmt.waitsFor_iff.1 h
      exact ⟨k, hd, hne, _, c, next, m, hprog, hkm, m', hheld, hconflict⟩
  · cases h

omit [DecidableEq K] [Database D K W] in
/-- The next element of a cycle is on a cycle. -/
theorem exists_next_of_cycle {τ : Type} {r : τ → τ → Prop} {a : τ} (h : Relation.TransGen r a a) :
    ∃ b, r a b ∧ Relation.TransGen r b b := by
  obtain ⟨b, hab, hba⟩ := Relation.TransGen.head'_iff.1 h
  exact ⟨b, hab, Relation.TransGen.tail'_iff.2 ⟨a, hba, hab⟩⟩

/-- A session on a cycle waits for one that is on a cycle itself. -/
theorem Pool.exists_waits_of_cycle {p : Pool D K W E I X} {t : Tid}
    (h : Relation.TransGen (fun t u => p.waitsFor t u = true) t t) :
    ∃ k u, p.Waits t k u ∧ Relation.TransGen (fun t u => p.waitsFor t u = true) u u := by
  obtain ⟨u, hwaits, hu⟩ := exists_next_of_cycle h
  obtain ⟨k, hk⟩ := Pool.waits_of_waitsFor hwaits
  exact ⟨k, u, hk, hu⟩

end MovieApi.ReadCommitted
