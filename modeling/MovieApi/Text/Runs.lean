import Mathlib.Data.List.Basic

/-!
# Runs of a text

The maximal runs of the symbols that count, in order, and the words that a text falls
into where it is cut at the others. They are the same.
-/

namespace MovieApi.Text

variable {α : Type} {stop token : α → Bool} {text rest gap word : List α} {runs : List (List α)}

/-! ## Words -/

/-- Cut at every stop, without the empty pieces. -/
def words (stop : α → Bool) (text : List α) : List (List α) :=
  (text.splitOnP stop).filter fun word => !word.isEmpty

@[simp] theorem words_nil : words stop [] = [] := by simp [words, List.splitOnP_nil]

theorem words_append_cons {c : α} (h : stop c = true) (text rest : List α) :
    words stop (text ++ c :: rest) = words stop text ++ words stop rest := by
  rw [words, List.splitOnP_append_cons text rest h, List.filter_append]
  rfl

theorem words_cons {c : α} (h : stop c = true) (rest : List α) :
    words stop (c :: rest) = words stop rest := by
  have hcut := words_append_cons h [] rest
  rwa [List.nil_append, words_nil, List.nil_append] at hcut

theorem words_gap_append (h : ∀ c ∈ gap, stop c = true) (rest : List α) :
    words stop (gap ++ rest) = words stop rest := by
  induction gap with
  | nil => rfl
  | cons c gap ih =>
      rw [List.cons_append, words_cons (h c List.mem_cons_self)]
      exact ih fun c' hc' => h c' (List.mem_cons_of_mem c hc')

theorem words_append_gap (h : ∀ c ∈ gap, stop c = true) (text : List α) :
    words stop (text ++ gap) = words stop text := by
  cases gap with
  | nil => rw [List.append_nil]
  | cons c gap =>
      have hgap : words stop gap = [] := by
        have hall := words_gap_append (fun c' hc' => h c' (List.mem_cons_of_mem c hc')) []
        rwa [List.append_nil, words_nil] at hall
      rw [words_append_cons (h c List.mem_cons_self), hgap, List.append_nil]

theorem words_of_forall (hne : word ≠ []) (h : ∀ c ∈ word, stop c = false) :
    words stop word = [word] := by
  rw [words, List.splitOnP_eq_singleton h]
  simp [hne]

/-- A word ends at the first stop. -/
theorem words_word_append (hne : word ≠ []) (h : ∀ c ∈ word, stop c = false)
    (hrest : ∀ c ∈ rest.head?, stop c = true) :
    words stop (word ++ rest) = word :: words stop rest := by
  cases rest with
  | nil => rw [List.append_nil, words_of_forall hne h, words_nil]
  | cons c rest =>
      have hc : stop c = true := hrest c rfl
      rw [words_append_cons hc, words_of_forall hne h, words_cons hc]
      rfl

/-! ## Maximal runs -/

/-- The text is gaps and runs by turns; no run touches a symbol that counts. -/
inductive MaximalRuns (token : α → Bool) : List α → List (List α) → Prop where
  | done {gap : List α} : (∀ c ∈ gap, token c = false) → MaximalRuns token gap []
  | run {gap word rest : List α} {runs : List (List α)} :
      (∀ c ∈ gap, token c = false) → word ≠ [] → (∀ c ∈ word, token c = true) →
        (∀ c ∈ rest.head?, token c = false) → MaximalRuns token rest runs →
          MaximalRuns token (gap ++ (word ++ rest)) (word :: runs)

namespace MaximalRuns

theorem cons_gap {c : α} (hc : token c = false) (h : MaximalRuns token text runs) :
    MaximalRuns token (c :: text) runs := by
  cases h with
  | done hgap =>
      exact done fun c' hc' => by
        cases List.mem_cons.1 hc' with
        | inl heq => rwa [heq]
        | inr hmem => exact hgap c' hmem
  | run hgap hne hword hrest h =>
      rw [← List.cons_append]
      refine run (fun c' hc' => ?_) hne hword hrest h
      cases List.mem_cons.1 hc' with
      | inl heq => rwa [heq]
      | inr hmem => exact hgap c' hmem

/-- A symbol that counts begins a run, or it lengthens the first one. -/
theorem cons_token {c : α} (hc : token c = true) (h : MaximalRuns token text runs) :
    ∃ runs', MaximalRuns token (c :: text) runs' := by
  have hone : ∀ c' ∈ [c], token c' = true := fun c' hc' => by
    rwa [List.mem_singleton.1 hc']
  have hnone : ∀ c' ∈ ([] : List α), token c' = false := fun _ hc' => absurd hc' List.not_mem_nil
  cases h with
  | done hgap =>
      have hhead : ∀ c' ∈ List.head? _, token c' = false := fun c' hc' =>
        hgap c' (List.mem_of_mem_head? hc')
      have hrun : MaximalRuns token ([] ++ ([c] ++ _)) [[c]] :=
        run hnone (List.cons_ne_nil c []) hone hhead (done hgap)
      exact ⟨[[c]], hrun⟩
  | @run gap word rest runs hgap hne hword hrest h =>
      cases gap with
      | nil =>
          have hlonger : ∀ c' ∈ c :: word, token c' = true := by
            intro c' hc'
            cases List.mem_cons.1 hc' with
            | inl heq => rwa [heq]
            | inr hmem => exact hword c' hmem
          have hrun : MaximalRuns token ([] ++ ((c :: word) ++ rest)) ((c :: word) :: runs) :=
            run hnone (List.cons_ne_nil c word) hlonger hrest h
          exact ⟨(c :: word) :: runs, hrun⟩
      | cons d gap =>
          have hhead : ∀ c' ∈ (d :: gap ++ (word ++ rest)).head?, token c' = false := by
            intro c' hc'
            obtain rfl := Option.some.inj hc'
            exact hgap d List.mem_cons_self
          have hrun : MaximalRuns token ([] ++ ([c] ++ (d :: gap ++ (word ++ rest))))
              ([c] :: word :: runs) :=
            run hnone (List.cons_ne_nil c []) hone hhead (run hgap hne hword hrest h)
          exact ⟨[c] :: word :: runs, hrun⟩

theorem exists_runs (token : α → Bool) (text : List α) : ∃ runs, MaximalRuns token text runs := by
  induction text with
  | nil => exact ⟨[], done fun _ hc => absurd hc List.not_mem_nil⟩
  | cons c text ih =>
      obtain ⟨runs, h⟩ := ih
      cases hc : token c with
      | false => exact ⟨runs, h.cons_gap hc⟩
      | true => exact h.cons_token hc

theorem run_ne_nil (h : MaximalRuns token text runs) : ∀ run ∈ runs, run ≠ [] := by
  induction h with
  | done => exact fun _ hrun => absurd hrun List.not_mem_nil
  | run _ hne _ _ _ ih =>
      intro run hrun
      cases List.mem_cons.1 hrun with
      | inl heq => rwa [heq]
      | inr hmem => exact ih run hmem

theorem token_of_mem (h : MaximalRuns token text runs) :
    ∀ run ∈ runs, ∀ c ∈ run, token c = true := by
  induction h with
  | done => exact fun _ hrun => absurd hrun List.not_mem_nil
  | run _ _ hword _ _ ih =>
      intro run hrun
      cases List.mem_cons.1 hrun with
      | inl heq => rwa [heq]
      | inr hmem => exact ih run hmem

theorem words_eq (h : MaximalRuns token text runs) : words (fun c => !token c) text = runs := by
  induction h with
  | @done gap hgap =>
      have hall : words (fun c => !token c) ([] ++ gap) = words _ [] :=
        words_append_gap (fun c hc => by rw [hgap c hc]; rfl) []
      rwa [words_nil] at hall
  | run hgap hne hword hrest _ ih =>
      rw [words_gap_append fun c hc => by rw [hgap c hc]; rfl,
        words_word_append hne (fun c hc => by rw [hword c hc]; rfl)
          (fun c hc => by rw [hrest c hc]; rfl), ih]

end MaximalRuns

/-- The words of a text are its maximal runs, and it has no others. -/
theorem maximalRuns_iff :
    MaximalRuns token text runs ↔ runs = words (fun c => !token c) text := by
  constructor
  · intro h
    exact h.words_eq.symm
  · intro h
    obtain ⟨runs', h'⟩ := MaximalRuns.exists_runs token text
    rw [h, h'.words_eq]
    exact h'

end MovieApi.Text
