import MovieApi.Sql.Pages

/-!
# Pages of a listing

`PaginationParams` as the query string may give them, and what a page of them shows.
-/

namespace MovieApi.Catalog

structure PaginationParams where
  page : Nat
  pageSize : Nat
  page_pos : 1 ≤ page
  pageSize_bounds : 1 ≤ pageSize ∧ pageSize ≤ 100

structure PaginatedResponse (ρ : Type) where
  items : List ρ
  total : Nat
  page : Nat
  pageSize : Nat
  pages : Nat
deriving DecidableEq, Repr

/-- `max(1, ceil(total / page_size)) if total else 1`. -/
def pageCount (total pageSize : Nat) : Nat :=
  if total ≠ 0 then max 1 ((total + pageSize - 1) / pageSize) else 1

theorem le_pageCount_mul {total pageSize : Nat} (h : 0 < pageSize) :
    total ≤ pageCount total pageSize * pageSize := by
  have hceil : total ≤ (total + pageSize - 1) / pageSize * pageSize := by
    have hmod := Nat.mod_lt (total + pageSize - 1) h
    have hdiv := Nat.div_add_mod (total + pageSize - 1) pageSize
    rw [Nat.mul_comm] at hdiv
    omega
  unfold pageCount
  split
  · exact hceil.trans (Nat.mul_le_mul_right _ (le_max_right _ _))
  · omega

namespace PaginationParams

def offset (params : PaginationParams) : Nat := (params.page - 1) * params.pageSize

/-- The same listing on page `k + 1`. -/
def turnTo (params : PaginationParams) (k : Nat) : PaginationParams :=
  { params with page := k + 1, page_pos := Nat.le_add_left 1 k }

/-- `OFFSET … LIMIT …`. -/
def slice {α : Type} (params : PaginationParams) (rows : List α) : List α :=
  (rows.drop params.offset).take params.pageSize

theorem slice_sublist {α : Type} (params : PaginationParams) (rows : List α) :
    (params.slice rows).Sublist rows :=
  (List.take_sublist _ _).trans (List.drop_sublist _ _)

theorem slice_turnTo {α : Type} (params : PaginationParams) (k : Nat) (rows : List α) :
    (params.turnTo k).slice rows = Sql.pageSlice params.pageSize k rows := rfl

end PaginationParams

/-- `build_paginated_response`. -/
def buildPaginatedResponse {ρ : Type} (items : List ρ) (total : Nat) (params : PaginationParams) :
    PaginatedResponse ρ :=
  ⟨items, total, params.page, params.pageSize, pageCount total params.pageSize⟩

end MovieApi.Catalog
