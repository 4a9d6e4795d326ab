import Mathlib.Data.List.Sort

/-!
# Stable sorts by a key

A stable sort puts the elements in the order of their keys and leaves those with
equal keys in the order they had.  There is one such list, and two keys have the
same one exactly when they call the same pairs out of order.
-/

namespace MovieApi.Sorting

variable {α κ κ' : Type} [LinearOrder κ] [LinearOrder κ']

structure StableSort (key : α → κ) (l l' : List α) : Prop where
  perm : l'.Perm l
  sorted : l'.Pairwise fun a b => key a ≤ key b
  ties : ∀ k, (l'.filter fun a => decide (key a = k)) = l.filter fun a => decide (key a = k)

/-- `sorted(l, key=key)`. -/
def sortOn (key : α → κ) (l : List α) : List α :=
  l.insertionSort fun a b => key a ≤ key b

variable {key : α → κ} {f : α → κ} {g : α → κ'} {l l' l'' : List α}

theorem sortOn_stable (key : α → κ) (l : List α) : StableSort key l (sortOn key l) := by
  have hperm : (sortOn key l).Perm l := List.perm_insertionSort _ l
  have : IsTrans α fun a b => key a ≤ key b := ⟨fun _ _ _ hab hbc => hab.trans hbc⟩
  have : Std.Total fun a b : α => key a ≤ key b := ⟨fun a b => le_total (key a) (key b)⟩
  refine ⟨hperm, List.pairwise_insertionSort _ l, fun k => ?_⟩
  have hequal : (l.filter fun a => decide (key a = k)).Pairwise fun a b => key a ≤ key b := by
    refine List.pairwise_of_forall_mem_list fun a ha b hb => ?_
    have hka : key a = k := by simpa using (List.mem_filter.1 ha).2
    have hkb : key b = k := by simpa using (List.mem_filter.1 hb).2
    exact le_of_eq (hka.trans hkb.symm)
  have hsub : (l.filter fun a => decide (key a = k)).Sublist (sortOn key l) :=
    List.sublist_insertionSort hequal List.filter_sublist
  have hsub' := hsub.filter fun a => decide (key a = k)
  rw [List.filter_filter] at hsub'
  simp only [Bool.and_self] at hsub'
  exact (hsub'.eq_of_length (hperm.filter _).length_eq.symm).symm

namespace StableSort

theorem of_sorted (h : l.Pairwise fun a b => key a ≤ key b) : StableSort key l l :=
  ⟨.refl l, h, fun _ => rfl⟩

theorem filter (h : StableSort key l l') (p : α → Bool) :
    StableSort key (l.filter p) (l'.filter p) where
  perm := h.perm.filter p
  sorted := h.sorted.filter p
  ties k := by rw [List.filter_comm, h.ties k, List.filter_comm]

/-- Two elements with equal keys keep their order. -/
theorem pair_sublist (h : StableSort key l l') {a b : α} (hkey : key a = key b) :
    [a, b].Sublist l' ↔ [a, b].Sublist l := by
  have hpair (rows : List α) : [a, b].Sublist rows ↔
      [a, b].Sublist (rows.filter fun c => decide (key c = key b)) := by
    constructor
    · intro hsub
      have hfilter := hsub.filter fun c => decide (key c = key b)
      simpa [hkey] using hfilter
    · intro hsub
      exact hsub.trans List.filter_sublist
  rw [hpair l', hpair l, h.ties]

theorem unique_of_filter (h : l.Pairwise fun a b => key a ≤ key b)
    (h' : l'.Pairwise fun a b => key a ≤ key b)
    (hties : ∀ k, (l.filter fun a => decide (key a = k)) = l'.filter fun a => decide (key a = k)) :
    l = l' := by
  have hmem (a : α) : a ∈ l ↔ a ∈ l' := by
    have hfilter := congrArg (a ∈ ·) (hties (key a))
    simpa using hfilter
  induction l generalizing l' with
  | nil =>
      cases l' with
      | nil => rfl
      | cons b _ => exact absurd ((hmem b).2 (by simp)) (by simp)
  | cons a l ih =>
      cases l' with
      | nil => exact absurd ((hmem a).1 (by simp)) (by simp)
      | cons b l' =>
          rw [List.pairwise_cons] at h h'
          have hab : key a ≤ key b := by
            rcases List.mem_cons.1 ((hmem b).2 (by simp)) with rfl | hb
            · exact le_refl _
            · exact h.1 b hb
          have hba : key b ≤ key a := by
            rcases List.mem_cons.1 ((hmem a).1 (by simp)) with rfl | ha
            · exact le_refl _
            · exact h'.1 a ha
          have hkey : key b = key a := le_antisymm hba hab
          have hhead := hties (key a)
          rw [List.filter_cons_of_pos (by simp), List.filter_cons_of_pos (by simp [hkey]),
            List.cons.injEq] at hhead
          obtain ⟨rfl, hhead⟩ := hhead
          have hrest (k : κ) : (l.filter fun c => decide (key c = k)) =
              l'.filter fun c => decide (key c = k) := by
            by_cases hk : key a = k
            · exact hk ▸ hhead
            · have htail := hties k
              rwa [List.filter_cons_of_neg (by simpa using hk),
                List.filter_cons_of_neg (by simpa using hk)] at htail
          rw [ih h.2 h'.2 hrest fun c => by simpa using congrArg (c ∈ ·) (hrest (key c))]

/-- There is one stable sort. -/
theorem unique (h : StableSort key l l') (h' : StableSort key l l'') : l' = l'' :=
  unique_of_filter h.sorted h'.sorted fun k => (h.ties k).trans (h'.ties k).symm

end StableSort

omit [LinearOrder κ] [LinearOrder κ'] in
/-- Of two elements one comes first. -/
theorem pair_sublist_or {a b : α} (ha : a ∈ l) (hb : b ∈ l) (hne : a ≠ b) :
    [a, b].Sublist l ∨ [b, a].Sublist l := by
  induction l with
  | nil => simp at ha
  | cons c l ih =>
      rcases List.mem_cons.1 ha with rfl | ha
      · have hb : b ∈ l := (List.mem_cons.1 hb).resolve_left hne.symm
        exact .inl ((List.singleton_sublist.2 hb).cons_cons a)
      · rcases List.mem_cons.1 hb with hbc | hb
        · exact .inr (hbc ▸ (List.singleton_sublist.2 ha).cons_cons c)
        · exact (ih ha hb).imp (fun h => h.cons c) fun h => h.cons c

/-- A list that is a stable sort by two keys has the same pairs out of order in both. -/
theorem lt_of_stableSort (hf : StableSort f l l') (hg : StableSort g l l') {a b : α}
    (h : [a, b].Sublist l) (hlt : f b < f a) : g b < g a := by
  have hmoved : ¬ [a, b].Sublist l' := fun hsub =>
    absurd (List.pairwise_iff_forall_sublist.1 hf.sorted hsub) (not_le.2 hlt)
  by_contra hle
  rcases (not_lt.1 hle).lt_or_eq with hab | hab
  · have hmem {c : α} (hc : c ∈ [a, b]) : c ∈ l' := hg.perm.mem_iff.2 (h.subset hc)
    have hne : a ≠ b := by
      rintro rfl
      exact absurd hlt (lt_irrefl _)
    rcases pair_sublist_or (hmem (by simp : a ∈ [a, b])) (hmem (by simp)) hne with hsub | hsub
    · exact hmoved hsub
    · exact absurd (List.pairwise_iff_forall_sublist.1 hg.sorted hsub) (not_le.2 hab)
  · exact hmoved ((hg.pair_sublist hab).2 h)

/-- The stable sort by one key is that by another exactly when both have the same pairs
out of order. -/
theorem stableSort_iff (hf : StableSort f l l') :
    StableSort g l l' ↔ l.Pairwise fun a b => (f b < f a ↔ g b < g a) := by
  constructor
  · intro hg
    exact List.pairwise_of_forall_sublist fun h =>
      ⟨lt_of_stableSort hf hg h, lt_of_stableSort hg hf h⟩
  · intro hpairwise
    have hpairs (a b : α) (h : [a, b].Sublist l) : f b < f a ↔ g b < g a :=
      List.pairwise_iff_forall_sublist.1 hpairwise h
    refine ⟨hf.perm, ?_, fun k => ?_⟩
    · rw [List.pairwise_iff_forall_sublist]
      intro a b hab
      have hle : f a ≤ f b := List.pairwise_iff_forall_sublist.1 hf.sorted hab
      by_contra hlt
      rw [not_le] at hlt
      have hne : a ≠ b := by
        rintro rfl
        exact absurd hlt (lt_irrefl _)
      have hmem {c : α} (hc : c ∈ [a, b]) : c ∈ l := hf.perm.mem_iff.1 (hab.subset hc)
      have hnot : ¬ [a, b].Sublist l := fun hsub =>
        absurd ((hpairs a b hsub).2 hlt) (not_lt.2 hle)
      rcases pair_sublist_or (hmem (by simp : a ∈ [a, b])) (hmem (by simp)) hne with hsub | hsub
      · exact hnot hsub
      · have hge : f b ≤ f a := not_lt.1 fun h => absurd ((hpairs b a hsub).1 h) (lt_asymm hlt)
        exact hnot ((hf.pair_sublist (le_antisymm hle hge)).1 hab)
    · have hsorted : (l.filter fun a => decide (g a = k)).Pairwise fun a b => f a ≤ f b := by
        rw [List.pairwise_iff_forall_sublist]
        intro a b hab
        have hkey {c : α} (hc : c ∈ [a, b]) : g c = k := by
          simpa using (List.mem_filter.1 (hab.subset hc)).2
        have hsame : ¬ g b < g a := by
          rw [hkey (by simp : a ∈ [a, b]), hkey (by simp : b ∈ [a, b])]
          exact lt_irrefl k
        exact not_lt.1 fun h => hsame ((hpairs a b (hab.trans List.filter_sublist)).1 h)
      exact ((StableSort.of_sorted hsorted).unique (hf.filter _)).symm

end MovieApi.Sorting
