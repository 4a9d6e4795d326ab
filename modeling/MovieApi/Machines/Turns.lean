import Mathlib.Data.List.Basic

/-!
# Turns of a run

A machine that takes one input after the other.  A run is the list of its
turns, each input with the state it meets.  What holds at a turn is proved from
what the turns before it keep.
-/

namespace MovieApi.Machines

variable {S E : Type}

/-- Each input of a run, with the state it meets. -/
def turns (step : S → E → S) : S → List E → List (S × E)
  | _, [] => []
  | s, e :: es => (s, e) :: turns step (step s e) es

variable {step : S → E → S} {s : S} {es : List E} {turn first : S × E}
  {front middle back : List (S × E)}

theorem map_snd_turns : (turns step s es).map Prod.snd = es := by
  induction es generalizing s with
  | nil => rfl
  | cons e es ih => rw [turns, List.map_cons, ih]

/-- The inputs of a run are ordered as its turns are. -/
theorem pairwise_turns {R : E → E → Prop} (h : es.Pairwise R) :
    (turns step s es).Pairwise fun t t' => R t.2 t'.2 := by
  rw [← List.pairwise_map, map_snd_turns]
  exact h

/-- A run goes on from the state that a turn leaves. -/
theorem turns_split (h : turns step s es = front ++ turn :: back) :
    ∃ rest, back = turns step (step turn.1 turn.2) rest := by
  induction front generalizing s es with
  | nil =>
      cases es with
      | nil => cases h
      | cons e es =>
          simp only [turns, List.nil_append, List.cons.injEq] at h
          obtain ⟨rfl, rfl⟩ := h
          exact ⟨es, rfl⟩
  | cons t front ih =>
      cases es with
      | nil => cases h
      | cons e es =>
          simp only [turns, List.cons_append, List.cons.injEq] at h
          exact ih h.2

/-- A turn finds what held of the history before it. -/
theorem holds_at {P : List (S × E) → S → Prop} {past : List (S × E)} (hstart : P past s)
    (hstep : ∀ past t, P past t.1 → P (past ++ [t]) (step t.1 t.2))
    (h : turns step s es = front ++ turn :: back) : P (past ++ front) turn.1 := by
  induction front generalizing s es past with
  | nil =>
      cases es with
      | nil => cases h
      | cons e es =>
          simp only [turns, List.nil_append, List.cons.injEq] at h
          rw [List.append_nil, ← h.1]
          exact hstart
  | cons t front ih =>
      cases es with
      | nil => cases h
      | cons e es =>
          simp only [turns, List.cons_append, List.cons.injEq] at h
          obtain ⟨rfl, hrest⟩ := h
          have hnext := ih (hstep past (s, e) hstart) hrest
          rwa [List.append_assoc, List.singleton_append] at hnext

theorem holds_at_turn {P : List (S × E) → S → Prop} (hstart : P [] s)
    (hstep : ∀ past t, P past t.1 → P (past ++ [t]) (step t.1 t.2))
    (h : turns step s es = front ++ turn :: back) : P front turn.1 :=
  holds_at hstart hstep h

/-- What a turn establishes and the turns in between keep, a later turn finds. -/
theorem holds_after {P : S → Prop}
    (h : turns step s es = front ++ first :: (middle ++ turn :: back))
    (hfirst : P (step first.1 first.2))
    (hkeep : ∀ t ∈ middle, P t.1 → P (step t.1 t.2)) : P turn.1 := by
  obtain ⟨rest, hrest⟩ := turns_split h
  clear h
  generalize step first.1 first.2 = s at hfirst hrest
  induction middle generalizing s rest with
  | nil =>
      cases rest with
      | nil => cases hrest
      | cons e rest =>
          simp only [turns, List.nil_append, List.cons.injEq] at hrest
          rw [hrest.1]
          exact hfirst
  | cons t middle ih =>
      cases rest with
      | nil => cases hrest
      | cons e rest =>
          simp only [turns, List.cons_append, List.cons.injEq] at hrest
          obtain ⟨rfl, hrest⟩ := hrest
          have hnext : P (step s e) := hkeep (s, e) (by simp) hfirst
          exact ih (fun t ht => hkeep t (by simp [ht])) rest (step s e) hnext hrest

end MovieApi.Machines
