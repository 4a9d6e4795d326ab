import Mathlib.Data.List.Sort

/-!
# `ORDER BY … LIMIT n`

Rows of a query in the order of a total preorder.  Rows the order does not tell
apart keep the order of the given list; as that list is arbitrary, every order
a database may choose among such rows is covered.
-/

namespace MovieApi.Sql

/-- The orders a server hands out the rows of its queries in, one for each query. -/
structure Scan (α : Type) where
  rows : Nat → List α → List α
  perm : ∀ query l, (rows query l).Perm l

theorem Scan.mem_rows {α : Type} (scan : Scan α) {query : Nat} {l : List α} {a : α} :
    a ∈ scan.rows query l ↔ a ∈ l :=
  (scan.perm query l).mem_iff

variable {α : Type} (le : α → α → Prop) [DecidableRel le]

def orderBy (rows : List α) : List α :=
  rows.insertionSort le

@[simp] theorem mem_orderBy {rows : List α} {x : α} : x ∈ orderBy le rows ↔ x ∈ rows :=
  List.mem_insertionSort le

theorem orderBy_perm (rows : List α) : (orderBy le rows).Perm rows :=
  List.perm_insertionSort le rows

/-- How many rows come before `x`: the strictly smaller ones, and among the
equal ones those listed earlier. -/
def placesBefore [DecidableEq α] : List α → α → Nat
  | [], _ => 0
  | row :: rows, x =>
      if row = x then rows.countP (fun other => ¬ le row other)
      else placesBefore rows x + if le row x then 1 else 0

variable [DecidableEq α]

/-- Inserting into an ordered list puts the row after all strictly smaller ones. -/
theorem idxOf_orderedInsert_self [IsTrans α le] [Std.Total le] (row : α) (rows : List α)
    (hsorted : rows.Pairwise le) :
    (rows.orderedInsert le row).idxOf row = rows.countP (fun other => ¬ le row other) := by
  induction rows with
  | nil => simp
  | cons head rows ih =>
      rw [List.pairwise_cons] at hsorted
      by_cases hle : le row head
      · have hall : ∀ other ∈ rows, le row other := fun other hother =>
          IsTrans.trans _ _ _ hle (hsorted.1 other hother)
        have hcount : rows.countP (fun other => ¬ le row other) = 0 :=
          List.countP_eq_zero.mpr fun other hother => by simp [hall other hother]
        rw [List.orderedInsert_cons_of_le _ _ hle, List.idxOf_cons_self, List.countP_cons, hcount]
        simp [hle]
      · have hne : head ≠ row := by
          rintro rfl
          exact hle (Std.Total.total head head |>.elim id id)
        rw [List.orderedInsert_of_not_le _ _ hle, List.idxOf_cons_ne _ hne, ih hsorted.2]
        simp [hle]

/-- Inserting another row moves `x` by one place exactly when the new row is
not after it. -/
theorem idxOf_orderedInsert_ne [IsTrans α le] (row x : α) (rows : List α)
    (hne : row ≠ x) (hsorted : rows.Pairwise le) (hmem : x ∈ rows) :
    (rows.orderedInsert le row).idxOf x = rows.idxOf x + if le row x then 1 else 0 := by
  induction rows with
  | nil => simp at hmem
  | cons head rows ih =>
      rw [List.pairwise_cons] at hsorted
      by_cases hle : le row head
      · have hx : le row x := by
          rcases List.mem_cons.mp hmem with rfl | hmem
          · exact hle
          · exact IsTrans.trans _ _ _ hle (hsorted.1 x hmem)
        rw [List.orderedInsert_cons_of_le _ _ hle, List.idxOf_cons_ne _ hne]
        simp [hx]
      · rw [List.orderedInsert_of_not_le _ _ hle]
        by_cases hhead : head = x
        · subst hhead
          simp [hle]
        · have hmem' : x ∈ rows := by
            rcases List.mem_cons.mp hmem with rfl | hmem
            · exact (hhead rfl).elim
            · exact hmem
          rw [List.idxOf_cons_ne _ hhead, List.idxOf_cons_ne _ hhead, ih hsorted.2 hmem']
          omega

theorem idxOf_orderBy [IsTrans α le] [Std.Total le] {rows : List α} (hnodup : rows.Nodup)
    {x : α} (hmem : x ∈ rows) : (orderBy le rows).idxOf x = placesBefore le rows x := by
  induction rows with
  | nil => simp at hmem
  | cons row rows ih =>
      rw [List.nodup_cons] at hnodup
      have hsorted : (rows.insertionSort le).Pairwise le := List.pairwise_insertionSort le rows
      simp only [orderBy, List.insertionSort_cons, placesBefore]
      by_cases hrow : row = x
      · subst hrow
        rw [if_pos rfl, idxOf_orderedInsert_self le row _ hsorted]
        exact (List.perm_insertionSort le rows).countP_eq _
      · have hmem' : x ∈ rows := by
          rcases List.mem_cons.mp hmem with rfl | hmem
          · exact (hrow rfl).elim
          · exact hmem
        rw [if_neg hrow, idxOf_orderedInsert_ne le row x _ hrow hsorted (by simpa using hmem')]
        exact congrArg (· + _) (ih hnodup.2 hmem')

/-- A row is on the first `n` places exactly when fewer than `n` come before it. -/
theorem mem_take_orderBy [IsTrans α le] [Std.Total le] {rows : List α} (hnodup : rows.Nodup)
    {x : α} (hmem : x ∈ rows) (n : Nat) :
    x ∈ (orderBy le rows).take n ↔ placesBefore le rows x < n := by
  rw [List.mem_take_iff_idxOf_lt (by simpa using hmem), idxOf_orderBy le hnodup hmem]

end MovieApi.Sql
