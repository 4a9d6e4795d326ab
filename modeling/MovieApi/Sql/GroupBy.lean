import Mathlib.Algebra.BigOperators.Group.List.Basic
import Mathlib.Data.List.Dedup

/-!
# Grouped totals

`SELECT key, SUM(amount) … GROUP BY key`: one row for each key that occurs.  The
total looked up under a key, zero where there is none, is the sum over the rows
of that key, and the totals under the keys of a list that has every key once add
up to the sum over all rows.
-/

namespace MovieApi.Sql

variable {R K M : Type} [DecidableEq K] [AddCommMonoid M]

def sumOf (amount : R → M) (rows : List R) : M := (rows.map amount).sum

/-- The keys that occur, each with the sum over its rows. -/
def groupTotals (key : R → K) (amount : R → M) (rows : List R) : List (K × M) :=
  (rows.map key).dedup.map fun k => (k, sumOf amount (rows.filter fun row => key row = k))

/-- The total under a key in rows looked up as a dictionary. -/
def totalAt (totals : List (K × M)) (k : K) : M :=
  match totals.find? fun row => row.1 = k with
  | some row => row.2
  | none => 0

variable {key : R → K} {amount : R → M} {rows : List R}

theorem sumOf_cons (row : R) : sumOf amount (row :: rows) = amount row + sumOf amount rows := by
  rw [sumOf, sumOf, List.map_cons, List.sum_cons]

omit [AddCommMonoid M] in
theorem find?_keyed {k : K} {f : K → M} {keys : List K} :
    ((keys.map fun k' => (k', f k')).find? fun row => row.1 = k) =
      if k ∈ keys then some (k, f k) else none := by
  induction keys with
  | nil => rfl
  | cons first keys ih =>
      rw [List.map_cons, List.find?_cons]
      by_cases heq : first = k
      · simp [heq]
      · simp [heq, Ne.symm heq, ih]

/-- What is looked up under a key is the sum over the rows of the key. -/
theorem totalAt_groupTotals (k : K) :
    totalAt (groupTotals key amount rows) k =
      sumOf amount (rows.filter fun row => key row = k) := by
  rw [totalAt, groupTotals, find?_keyed]
  by_cases hmem : k ∈ (rows.map key).dedup
  · rw [if_pos hmem]
  · have hnone : (rows.filter fun row => key row = k) = [] := by
      refine List.filter_eq_nil_iff.2 fun row hrow heq => hmem ?_
      exact List.mem_dedup.2 (List.mem_map.2 ⟨row, hrow, of_decide_eq_true heq⟩)
    rw [if_neg hmem, hnone]
    rfl

theorem sum_indicator {keys : List K} (hnodup : keys.Nodup) {k : K} (hmem : k ∈ keys) (x : M) :
    (keys.map fun k' => if k = k' then x else 0).sum = x := by
  induction keys with
  | nil => cases hmem
  | cons first keys ih =>
      obtain ⟨hfirst, hrest⟩ := List.nodup_cons.1 hnodup
      rw [List.map_cons, List.sum_cons]
      by_cases heq : k = first
      · have hothers : (keys.map fun k' => if k = k' then x else 0).sum = 0 := by
          refine List.sum_eq_zero fun y hy => ?_
          obtain ⟨k', hk', rfl⟩ := List.mem_map.1 hy
          refine if_neg fun hsame => hfirst ?_
          rw [← heq, hsame]
          exact hk'
        rw [if_pos heq, hothers, add_zero]
      · rw [if_neg heq, zero_add]
        exact ih hrest ((List.mem_cons.1 hmem).resolve_left heq)

/-- The sums over the rows of each key add up to the sum over all rows. -/
theorem sum_filter_keys {keys : List K} (hnodup : keys.Nodup)
    (hmem : ∀ row ∈ rows, key row ∈ keys) :
    (keys.map fun k => sumOf amount (rows.filter fun row => key row = k)).sum =
      sumOf amount rows := by
  induction rows with
  | nil =>
      refine List.sum_eq_zero fun x hx => ?_
      obtain ⟨k, -, rfl⟩ := List.mem_map.1 hx
      rfl
  | cons row rows ih =>
      have hsplit (k : K) : sumOf amount ((row :: rows).filter fun row => key row = k) =
          (if key row = k then amount row else 0) +
            sumOf amount (rows.filter fun row => key row = k) := by
        rw [List.filter_cons]
        by_cases heq : key row = k
        · simp [heq, sumOf_cons]
        · simp [heq]
      rw [List.map_congr_left fun k _ => hsplit k, List.sum_map_add,
        sum_indicator hnodup (hmem row (by simp)), ih fun row hrow => hmem row (by simp [hrow]),
        sumOf_cons]

/-- **The grouped totals add up.** -/
theorem sum_totalAt {keys : List K} (hnodup : keys.Nodup)
    (hmem : ∀ row ∈ rows, key row ∈ keys) :
    (keys.map (totalAt (groupTotals key amount rows))).sum = sumOf amount rows := by
  rw [List.map_congr_left fun k _ => totalAt_groupTotals k]
  exact sum_filter_keys hnodup hmem

end MovieApi.Sql
