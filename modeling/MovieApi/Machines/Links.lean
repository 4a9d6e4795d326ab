import Mathlib.Computability.StateTransition
import Mathlib.Data.Set.Finite.Basic
import Mathlib.Order.WellFounded

/-!
# Following links

Every node has at most one link. Among finitely many nodes a walk along the links comes
to an end unless it comes to a cycle.
-/

namespace MovieApi.Machines

open Relation StateTransition

variable {N : Type} {next : N → Option N} {x y : N}

/-- What is reached from a cycle lies on one. -/
theorem reaches₁_self_of_reaches (h : Reaches₁ next x x) (hxy : Reaches next x y) :
    Reaches₁ next y y := by
  induction hxy with
  | refl => exact h
  | tail _ hstep ih =>
      have hback := reaches₁_fwd ih hstep
      exact TransGen.tail' hback hstep

theorem ne_none_of_reaches₁ (h : Reaches₁ next x y) : next x ≠ none := by
  obtain ⟨z, hstep, -⟩ := TransGen.head'_iff.1 h
  intro hnone
  rw [hnone] at hstep
  cases hstep

/-- Before a walk has come to a cycle, the nodes it has left do not come back. -/
theorem exists_end_of_no_cycle [Finite N] (h : ¬ ∃ y, Reaches next x y ∧ Reaches₁ next y y) :
    ∃ y, Reaches next x y ∧ next y = none := by
  let later (a b : {y // Reaches next x y}) : Prop := Reaches₁ next b.1 a.1
  have htrans : IsTrans _ later := ⟨fun _ _ _ hab hbc => TransGen.trans hbc hab⟩
  have hirrefl : Std.Irrefl later := ⟨fun a haa => h ⟨a.1, a.2, haa⟩⟩
  have hwf := Finite.wellFounded_of_trans_of_irrefl later
  obtain ⟨last, -, hlast⟩ := hwf.has_min Set.univ ⟨⟨x, ReflTransGen.refl⟩, trivial⟩
  refine ⟨last.1, last.2, ?_⟩
  cases hnext : next last.1 with
  | none => rfl
  | some z =>
      have hstep : Reaches₁ next last.1 z := TransGen.single hnext
      exact absurd hstep (hlast ⟨z, last.2.tail hnext⟩ trivial)

theorem exists_end_iff [Finite N] :
    (∃ y, Reaches next x y ∧ next y = none) ↔ ¬ ∃ y, Reaches next x y ∧ Reaches₁ next y y := by
  constructor
  · rintro ⟨last, hlast, hend⟩ ⟨y, hy, hcycle⟩
    cases reaches_total hlast hy with
    | inl hback =>
        cases ReflTransGen.cases_head hback with
        | inl heq => exact ne_none_of_reaches₁ hcycle (heq ▸ hend)
        | inr hstep => exact ne_none_of_reaches₁ (TransGen.head'_iff.2 hstep) hend
    | inr hon => exact ne_none_of_reaches₁ (reaches₁_self_of_reaches hcycle hon) hend
  · exact exists_end_of_no_cycle

end MovieApi.Machines
