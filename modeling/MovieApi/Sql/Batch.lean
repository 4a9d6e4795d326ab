import MovieApi.Sql.OrderBy

/-!
# Working through a table in batches

A worker takes the first `limit` rows of an `ORDER BY` again and again and
finishes those among them that are ready.  Rows that are not ready stay in
front; a ready row is reached exactly when fewer than `limit` of them can be
placed before it.
-/

namespace MovieApi.Sql

/-! ## Repetition -/

/-- `step` taken so many times in a row. -/
inductive Times {α : Type} (step : α → α → Prop) : Nat → α → α → Prop
  | zero (a : α) : Times step 0 a a
  | succ {n : Nat} {a a' a'' : α} : step a a' → Times step n a' a'' → Times step (n + 1) a a''

/-- A simulation of one step is one of every number of steps. -/
theorem Times.simulation {α β : Type} {step : α → α → Prop} {step' : β → β → Prop}
    (rel : α → β → Prop) {n : Nat} {a a' : α} (h : Times step n a a')
    (hstep : ∀ {a a' b}, rel a b → step a a' → ∃ b', step' b b' ∧ rel a' b') :
    ∀ {b : β}, rel a b → ∃ b', Times step' n b b' ∧ rel a' b' := by
  induction h with
  | zero a =>
      intro b hrel
      exact ⟨b, .zero b, hrel⟩
  | succ hfirst _ ih =>
      intro b hrel
      obtain ⟨b₁, hb₁, hrel₁⟩ := hstep hrel hfirst
      obtain ⟨b', hb', hrel'⟩ := ih hrel₁
      exact ⟨b', .succ hb₁ hb', hrel'⟩

/-! ## Passes -/

variable {ρ : Type} [DecidableEq ρ] (key : ρ → Int) (ready : ρ → Bool)

/-- `answer` lists the rows in an order a database may return them in. -/
structure Answers (rows answer : List ρ) : Prop where
  perm : answer.Perm rows
  sorted : answer.Pairwise fun r r' => key r ≤ key r'

/-- The rows that are not ready and may be placed before `r`. -/
def blockers (rows : List ρ) (r : ρ) : List ρ :=
  rows.filter fun u => !ready u && decide (key u ≤ key r)

/-- One pass: the ready rows among the first `limit` are finished. -/
def Pass (limit : Nat) (rows rows' : List ρ) : Prop :=
  ∃ answer, Answers key rows answer ∧
    rows' = rows.filter fun r => !(decide (r ∈ answer.take limit) && ready r)

/-- So many passes in a row. -/
def Passes (limit n : Nat) : List ρ → List ρ → Prop :=
  Times (Pass key ready limit) n

variable {key ready} {limit n : Nat} {rows rows' answer : List ρ} {r : ρ}

omit [DecidableEq ρ] in
/-- With few blockers, the first ready row is within reach. -/
theorem Answers.exists_ready_mem_take (h : Answers key rows answer)
    (hblockers : ∀ r ∈ rows, ready r = true → (blockers key ready rows r).length < limit)
    (hr : r ∈ rows) (hready : ready r = true) : ∃ r' ∈ answer.take limit, ready r' = true := by
  have hsome : (answer.find? ready).isSome := by
    rw [List.find?_isSome]
    exact ⟨r, h.perm.mem_iff.2 hr, hready⟩
  obtain ⟨first, hfirst⟩ := Option.isSome_iff_exists.1 hsome
  obtain ⟨hfirstReady, before, after, rfl, hbefore⟩ := List.find?_eq_some_iff_append.1 hfirst
  have hmem : first ∈ rows := h.perm.mem_iff.1 (by simp)
  have hlength : before.length ≤ (blockers key ready rows first).length := by
    have hall : before.filter (fun u => !ready u && decide (key u ≤ key first)) = before := by
      refine List.filter_eq_self.2 fun u hu => ?_
      have hle : key u ≤ key first :=
        (List.pairwise_append.1 h.sorted).2.2 u hu first (by simp)
      simpa [hle] using hbefore u hu
    have hperm := (h.perm.filter fun u => !ready u && decide (key u ≤ key first)).length_eq
    rw [List.filter_append, hall, List.length_append] at hperm
    unfold blockers
    omega
  have hlimit := hblockers first hmem hfirstReady
  refine ⟨first, ?_, hfirstReady⟩
  rw [List.mem_take_iff_getElem]
  exact ⟨before.length, by simp; omega, by simp⟩

theorem Pass.sublist (h : Pass key ready limit rows rows') : rows'.Sublist rows := by
  obtain ⟨answer, -, rfl⟩ := h
  exact List.filter_sublist

/-- A pass finishes a ready row, if there is one and none has too many blockers. -/
theorem Pass.length_lt (h : Pass key ready limit rows rows')
    (hblockers : ∀ r ∈ rows, ready r = true → (blockers key ready rows r).length < limit)
    (hr : r ∈ rows) (hready : ready r = true) :
    (rows'.filter ready).length < (rows.filter ready).length := by
  obtain ⟨answer, hanswer, rfl⟩ := h
  obtain ⟨r', hr', hready'⟩ := hanswer.exists_ready_mem_take hblockers hr hready
  have hmem : r' ∈ rows.filter ready :=
    List.mem_filter.2 ⟨hanswer.perm.mem_iff.1 (List.mem_of_mem_take hr'), hready'⟩
  rw [List.filter_comm, List.length_filter_lt_length_iff_exists]
  exact ⟨r', hmem, by simp [hr', hready']⟩

/-- Passes keep the unready rows. -/
theorem Pass.blockers_eq (h : Pass key ready limit rows rows') (r : ρ) :
    blockers key ready rows' r = blockers key ready rows r := by
  obtain ⟨answer, -, rfl⟩ := h
  unfold blockers
  rw [List.filter_filter]
  refine List.filter_congr fun u _ => ?_
  cases ready u <;> simp

/-- After as many passes as there are rows no ready row is left. -/
theorem Passes.not_ready (h : Passes key ready limit n rows rows')
    (hblockers : ∀ r ∈ rows, ready r = true → (blockers key ready rows r).length < limit)
    (hn : (rows.filter ready).length ≤ n) : ∀ r ∈ rows', ready r = false := by
  induction h with
  | zero rows =>
      intro r hr
      have hnil : rows.filter ready = [] := List.length_eq_zero_iff.1 (by omega)
      simpa using List.filter_eq_nil_iff.1 hnil r hr
  | @succ n rows rows₁ rows₂ hpass hrest ih =>
      refine ih (fun r hr hready => ?_) ?_
      · rw [hpass.blockers_eq]
        exact hblockers r (hpass.sublist.subset hr) hready
      · by_cases hsome : ∃ r ∈ rows, ready r = true
        · obtain ⟨r, hr, hready⟩ := hsome
          have := hpass.length_lt hblockers hr hready
          omega
        · have hle := (hpass.sublist.filter ready).length_le
          have hnil : rows.filter ready = [] :=
            List.filter_eq_nil_iff.2 fun r hr hready => hsome ⟨r, hr, hready⟩
          rw [hnil] at hle
          simp only [List.length_nil] at hle
          omega

/-! ## The worst order -/

variable (key ready) in
/-- By key, unready rows first. -/
def unreadyFirst (r r' : ρ) : Prop :=
  key r < key r' ∨ (key r = key r' ∧ (ready r = true → ready r' = true))

instance : DecidableRel (unreadyFirst key ready) :=
  fun _ _ => inferInstanceAs (Decidable (_ ∨ (_ ∧ _)))

instance : IsTrans ρ (unreadyFirst key ready) where
  trans a b c hab hbc := by
    rcases hab with hab | ⟨hab, hab'⟩ <;> rcases hbc with hbc | ⟨hbc, hbc'⟩
    · exact .inl (hab.trans hbc)
    · exact .inl (hbc ▸ hab)
    · exact .inl (hab ▸ hbc)
    · exact .inr ⟨hab.trans hbc, fun h => hbc' (hab' h)⟩

instance : Std.Total (unreadyFirst key ready) where
  total a b := by
    rcases lt_trichotomy (key a) (key b) with h | h | h
    · exact .inl (.inl h)
    · cases ha : ready a
      · exact .inl (.inr ⟨h, by simp [ha]⟩)
      · exact .inr (.inr ⟨h.symm, fun _ => ha⟩)
    · exact .inr (.inl h)

omit [DecidableEq ρ] in
theorem answers_orderBy (rows : List ρ) :
    Answers key rows (orderBy (unreadyFirst key ready) rows) where
  perm := orderBy_perm _ rows
  sorted := by
    refine (List.pairwise_insertionSort (unreadyFirst key ready) rows).imp fun h => ?_
    rcases h with h | h
    · exact h.le
    · exact h.1.le

omit [DecidableEq ρ] in
/-- In the worst order a row with too many blockers is out of reach. -/
theorem not_mem_take_of_blockers (hready : ready r = true)
    (h : limit ≤ (blockers key ready rows r).length) :
    r ∉ (orderBy (unreadyFirst key ready) rows).take limit := by
  intro hmem
  obtain ⟨i, hi, heq⟩ := List.mem_take_iff_getElem.1 hmem
  let answer := orderBy (unreadyFirst key ready) rows
  have hsorted : answer.Pairwise (unreadyFirst key ready) := List.pairwise_insertionSort _ rows
  have hi' : i < answer.length := lt_of_lt_of_le hi (min_le_right _ _)
  have hlimit : i < limit := lt_of_lt_of_le hi (min_le_left _ _)
  let p : ρ → Bool := fun u => !ready u && decide (key u ≤ key r)
  have hdrop : (answer.drop i).filter p = [] := by
    rw [List.filter_eq_nil_iff, List.drop_eq_getElem_cons hi']
    have hpair := hsorted.drop (i := i)
    rw [List.drop_eq_getElem_cons hi', List.pairwise_cons] at hpair
    intro u hu
    rcases List.mem_cons.1 hu with rfl | hu
    · simp [p, answer, heq, hready]
    · have hru := hpair.1 u hu
      rw [show answer[i] = r from heq] at hru
      rcases hru with hlt | ⟨hkey, himp⟩
      · simp [p, hlt]
      · simp [p, himp hready]
  have hcount : (rows.filter p).length = (answer.filter p).length :=
    ((orderBy_perm _ rows).filter p).length_eq.symm
  have hsplit : (answer.filter p).length ≤ i := by
    rw [← List.take_append_drop i answer, List.filter_append, hdrop, List.append_nil]
    exact (List.length_filter_le _ _).trans (by simp)
  unfold blockers at h
  have : limit ≤ (rows.filter p).length := h
  omega

/-- A row with too many blockers can stay for ever. -/
theorem exists_passes_of_blockers (hr : r ∈ rows) (hready : ready r = true)
    (h : limit ≤ (blockers key ready rows r).length) (n : Nat) :
    ∃ rows', Passes key ready limit n rows rows' ∧ r ∈ rows' := by
  induction n generalizing rows with
  | zero => exact ⟨rows, .zero rows, hr⟩
  | succ n ih =>
      let answer := orderBy (unreadyFirst key ready) rows
      have hpass : Pass key ready limit rows
          (rows.filter fun r => !(decide (r ∈ answer.take limit) && ready r)) :=
        ⟨answer, answers_orderBy rows, rfl⟩
      have hstays : r ∈ rows.filter fun r => !(decide (r ∈ answer.take limit) && ready r) := by
        refine List.mem_filter.2 ⟨hr, ?_⟩
        simp [answer, not_mem_take_of_blockers hready h]
      obtain ⟨rows', hpasses, hmem⟩ := ih hstays (by rwa [hpass.blockers_eq])
      exact ⟨rows', .succ hpass hpasses, hmem⟩

/-- Passes leave no ready row behind, whatever order the database picks among
equal keys, exactly when every ready row has fewer blockers than a pass takes. -/
theorem passes_finish_iff (hn : (rows.filter ready).length ≤ n) :
    (∀ rows', Passes key ready limit n rows rows' → ∀ r ∈ rows', ready r = false) ↔
      ∀ r ∈ rows, ready r = true → (blockers key ready rows r).length < limit := by
  constructor
  · intro h r hr hready
    by_contra hblocked
    obtain ⟨rows', hpasses, hmem⟩ := exists_passes_of_blockers hr hready (not_lt.1 hblocked) n
    rw [h rows' hpasses r hmem] at hready
    simp at hready
  · intro h rows' hpasses
    exact hpasses.not_ready h hn

end MovieApi.Sql
