import Mathlib.Data.List.Basic

/-!
# Texts joined by a separator

What two texts of the form `front ++ sep ++ back` have in common when they are
equal.  With a one-character mark that the back does not contain, both halves
are recovered.  With a longer separator and arbitrary halves they are not: the
equality holds exactly when the halves agree or one half has swallowed the
separator of the other.
-/

namespace MovieApi.Text

variable {α : Type}

/-- The last mark splits the text: neither back part contains it. -/
theorem append_mark_inj {mark : α} {front front' back back' : List α}
    (hback : mark ∉ back) (hback' : mark ∉ back')
    (h : front ++ mark :: back = front' ++ mark :: back') :
    front = front' ∧ back = back' := by
  rcases List.append_eq_append_iff.mp h with ⟨between, hfront, hrest⟩ | ⟨between, hfront, hrest⟩
  · cases between with
    | nil =>
        simp only [List.append_nil] at hfront
        simp only [List.nil_append, List.cons.injEq, true_and] at hrest
        exact ⟨hfront.symm, hrest⟩
    | cons x between =>
        simp only [List.cons_append, List.cons.injEq] at hrest
        exact (hback (by rw [hrest.2]; simp)).elim
  · cases between with
    | nil =>
        simp only [List.append_nil] at hfront
        simp only [List.nil_append, List.cons.injEq, true_and] at hrest
        exact ⟨hfront, hrest.symm⟩
    | cons x between =>
        simp only [List.cons_append, List.cons.injEq] at hrest
        exact (hback' (by rw [hrest.2]; simp)).elim

/-- A separator whose first symbol does not come back never overlaps itself. -/
def Unbordered (sep : List α) : Prop :=
  ∃ mark tail, sep = mark :: tail ∧ mark ∉ tail

/-- Where a nonempty text ends just before a copy of the separator, it holds a
whole copy of its own: a shorter overlap would repeat the separator's first
symbol inside the separator. -/
theorem Unbordered.swallow {sep between back back' : List α} (hsep : Unbordered sep)
    (hne : between ≠ []) (h : sep ++ back = between ++ (sep ++ back')) :
    ∃ middle, between = sep ++ middle ∧ back = middle ++ (sep ++ back') := by
  obtain ⟨mark, tail, rfl, hmark⟩ := hsep
  rcases List.append_eq_append_iff.mp h with ⟨middle, hbetween, hrest⟩ | ⟨overlap, hcut, hrest⟩
  · exact ⟨middle, hbetween, hrest⟩
  · cases between with
    | nil => exact (hne rfl).elim
    | cons x between =>
        simp only [List.cons_append, List.cons.injEq] at hcut
        obtain ⟨rfl, htail⟩ := hcut
        cases overlap with
        | nil =>
            refine ⟨[], ?_, ?_⟩
            · simpa using htail.symm
            · simpa using hrest.symm
        | cons y overlap =>
            simp only [List.cons_append, List.cons.injEq] at hrest
            obtain ⟨rfl, -⟩ := hrest
            exact (hmark (by rw [htail]; simp)).elim

/-- The second text lets its front swallow the first separator. -/
def Shifted (sep front back front' back' : List α) : Prop :=
  ∃ middle, front' = front ++ sep ++ middle ∧ back = middle ++ sep ++ back'

theorem Shifted.append_eq {sep front back front' back' : List α}
    (h : Shifted sep front back front' back') :
    front ++ sep ++ back = front' ++ sep ++ back' := by
  obtain ⟨middle, rfl, rfl⟩ := h
  simp [List.append_assoc]

theorem Unbordered.append_eq_iff {sep : List α} (hsep : Unbordered sep)
    {front back front' back' : List α} :
    front ++ sep ++ back = front' ++ sep ++ back' ↔
      (front = front' ∧ back = back') ∨ Shifted sep front back front' back' ∨
        Shifted sep front' back' front back := by
  constructor
  · intro h
    simp only [List.append_assoc] at h
    rcases List.append_eq_append_iff.mp h with ⟨between, hfront, hrest⟩ | ⟨between, hfront, hrest⟩
    · by_cases hne : between = []
      · subst hne
        exact Or.inl ⟨by simpa using hfront.symm, List.append_cancel_left hrest⟩
      · obtain ⟨middle, rfl, hback⟩ := hsep.swallow hne hrest
        exact Or.inr (Or.inl ⟨middle, by simp [hfront], by simp [hback]⟩)
    · by_cases hne : between = []
      · subst hne
        exact Or.inl ⟨by simpa using hfront, (List.append_cancel_left hrest).symm⟩
      · obtain ⟨middle, rfl, hback⟩ := hsep.swallow hne hrest
        exact Or.inr (Or.inr ⟨middle, by simp [hfront], by simp [hback]⟩)
  · rintro (⟨rfl, rfl⟩ | h | h)
    · rfl
    · exact h.append_eq
    · exact h.append_eq.symm

end MovieApi.Text
