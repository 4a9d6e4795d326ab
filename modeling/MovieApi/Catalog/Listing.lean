import MovieApi.Catalog.Pagination
import MovieApi.Catalog.Search
import MovieApi.Publishing.State

/-!
# The public listings

`list_published_movies` and `list_published_series` behind their cache: the rows that
match, one page of them, and what is read beside a page of series.
-/

namespace MovieApi.Catalog.Listing

open Publishing (Uuid Instant)
open Sql

/-! ## Rows -/

/-- The columns movies and series are listed by. -/
structure CatalogRow where
  id : Uuid
  columns : SearchColumns
  isPublished : Bool
  sortOrder : Int
  createdAt : Instant
deriving DecidableEq, Repr

structure Content extends CatalogRow where
  type : Publishing.ContentType
  seriesId : Option Uuid
  region : Option String
  isFree : Bool
deriving DecidableEq, Repr

structure Series extends CatalogRow where
  isShortMovie : Bool
deriving DecidableEq, Repr

structure Db where
  contents : List Content
  series : List Series
  uniqueContents : Unique (fun content : Content => content.id) contents
  uniqueSeries : Unique (fun series : Series => series.id) series

/-- `sort_order ASC, created_at DESC`. -/
def CatalogRow.le (row row' : CatalogRow) : Prop :=
  row.sortOrder < row'.sortOrder ∨ (row.sortOrder = row'.sortOrder ∧ row'.createdAt ≤ row.createdAt)

def Content.le (content content' : Content) : Prop :=
  content.toCatalogRow.le content'.toCatalogRow

def Series.le (series series' : Series) : Prop := series.toCatalogRow.le series'.toCatalogRow

instance : DecidableRel CatalogRow.le := fun _ _ => inferInstanceAs (Decidable (_ ∨ _))

instance : DecidableRel Content.le := fun _ _ => inferInstanceAs (Decidable (CatalogRow.le _ _))

instance : DecidableRel Series.le := fun _ _ => inferInstanceAs (Decidable (CatalogRow.le _ _))

/-! ## The queries -/

/-- The parameters of both listings; `short` is one of the series only. -/
structure Filters where
  search : Option String
  genre : Option String
  free : Option Bool
  short : Option Bool
deriving DecidableEq, Repr

namespace Db

/-- The rows `list_published_movies` selects. -/
def publishedMovies (d : Db) (text : TextSearch) (filters : Filters) : List Content :=
  d.contents.filter fun content =>
    decide (content.type = .single) && content.isPublished &&
      text.applyCatalogSearch filters.search content.columns &&
      text.applyCatalogGenre filters.genre content.columns &&
      (decide (filters.free ≠ some true) || content.isFree)

/-- `has_free_episode`, which asks for no type. -/
def hasFreeEpisode (d : Db) (seriesId : Uuid) : Bool :=
  d.contents.any fun content =>
    decide (content.seriesId = some seriesId) && content.isFree && content.isPublished

/-- The rows `list_published_series` selects. -/
def publishedSeries (d : Db) (text : TextSearch) (filters : Filters) : List Series :=
  d.series.filter fun series =>
    series.isPublished && text.applyCatalogSearch filters.search series.columns &&
      text.applyCatalogGenre filters.genre series.columns &&
      filters.short.all (fun short => decide (series.isShortMovie = short)) &&
      (decide (filters.free ≠ some true) || d.hasFreeEpisode series.id)

/-- `free_episode_counts_by_series`. -/
def freeEpisodeCount (d : Db) (seriesId : Uuid) : Nat :=
  d.contents.countP fun content =>
    decide (content.seriesId = some seriesId) && decide (content.type = .episode) &&
      content.isFree && content.isPublished

/-- The groups of the query of `regions_by_series`, with their counts. -/
def regionGroups (d : Db) (seriesIds : List Uuid) : List (Uuid × String × Nat) :=
  let pairs := d.contents.filterMap fun content =>
    content.seriesId.bind fun seriesId =>
      if seriesId ∈ seriesIds ∧ content.type = .episode then content.region.map (seriesId, ·)
      else none
  pairs.dedup.map fun pair => (pair.1, pair.2, pairs.count pair)

end Db

/-- The loop of `regions_by_series`: the most common region, the first one among equals. -/
def bestRegion (groups : List (Uuid × String × Nat)) (seriesId : Uuid) : Option String :=
  (groups.foldl
    (fun best group =>
      if group.1 = seriesId ∧ group.2.1 ≠ "" ∧
          best.all (fun current : String × Nat => decide (current.2 < group.2.2)) then
        some group.2
      else best)
    none).map Prod.fst

/-! ## The listings -/

structure SeriesListItem where
  series : Series
  freeEpisodeCount : Nat
  region : Option String
deriving DecidableEq, Repr

/-- `paginate_query`: the page and the number of all rows. -/
def paginateQuery {ρ : Type} (le : ρ → ρ → Prop) [DecidableRel le] (rows : List ρ) (scan : Scan ρ)
    (params : PaginationParams) : List ρ × Nat :=
  (params.slice (orderBy le (scan.rows 0 rows)), rows.length)

namespace Db

def listPublishedMovies (d : Db) (text : TextSearch) (filters : Filters) (scan : Scan Content)
    (params : PaginationParams) : PaginatedResponse Content :=
  let page := paginateQuery Content.le (d.publishedMovies text filters) scan params
  buildPaginatedResponse page.1 page.2 params

def listPublishedSeries (d : Db) (text : TextSearch) (filters : Filters) (scan : Scan Series)
    (groups : Scan (Uuid × String × Nat)) (params : PaginationParams) :
    PaginatedResponse SeriesListItem :=
  let page := paginateQuery Series.le (d.publishedSeries text filters) scan params
  let regions := groups.rows 0 (d.regionGroups (page.1.map fun series => series.id))
  buildPaginatedResponse
    (page.1.map fun series =>
      ⟨series, d.freeEpisodeCount series.id, bestRegion regions series.id⟩)
    page.2 params

end Db

/-! ## The pages of a listing -/

theorem CatalogRow.le_trans {a b c : CatalogRow} (hab : a.le b) (hbc : b.le c) : a.le c := by
  rcases hab with hab | ⟨hab, hab'⟩ <;> rcases hbc with hbc | ⟨hbc, hbc'⟩
  · exact .inl (hab.trans hbc)
  · exact .inl (hbc ▸ hab)
  · exact .inl (hab ▸ hbc)
  · exact .inr ⟨hab.trans hbc, hbc'.trans hab'⟩

theorem CatalogRow.le_total (a b : CatalogRow) : a.le b ∨ b.le a := by
  rcases lt_trichotomy a.sortOrder b.sortOrder with h | h | h
  · exact .inl (.inl h)
  · rcases Int.le_total a.createdAt b.createdAt with h' | h'
    · exact .inr (.inr ⟨h.symm, h'⟩)
    · exact .inl (.inr ⟨h, h'⟩)
  · exact .inr (.inl h)

instance : IsTrans Content Content.le := ⟨fun _ _ _ => CatalogRow.le_trans⟩

instance : Std.Total Content.le := ⟨fun a b => a.toCatalogRow.le_total b.toCatalogRow⟩

instance : IsTrans Series Series.le := ⟨fun _ _ _ => CatalogRow.le_trans⟩

instance : Std.Total Series.le := ⟨fun a b => a.toCatalogRow.le_total b.toCatalogRow⟩

/-- Whatever the answers to the page queries, the pages hold each row once, exactly when
rows with equal sort keys share a page. -/
theorem paginateQuery_perm_iff {ρ : Type} [DecidableEq ρ] {le : ρ → ρ → Prop} [DecidableRel le]
    [IsTrans ρ le] [Std.Total le] {rows : List ρ} (hrows : rows.Nodup) (params : PaginationParams) :
    (∀ scans : Nat → Scan ρ, ((List.range (pageCount rows.length params.pageSize)).flatMap fun k =>
      (paginateQuery le rows (scans k) (params.turnTo k)).1).Perm rows) ↔
      TiesOnOnePage le params.pageSize rows := by
  have hsize : 0 < params.pageSize := params.pageSize_bounds.1
  constructor
  · intro h
    refine tiesOnOnePage_of_pages_perm hrows hsize (le_pageCount_mul hsize) fun answers hanswers => ?_
    have hperm := h fun k => Scan.handing (hanswers k).perm
    have hpage (k : Nat) : (paginateQuery le rows (Scan.handing (hanswers k).perm)
        (params.turnTo k)).1 = pageSlice params.pageSize k (answers k) := by
      unfold paginateQuery
      rw [Scan.handing_rows, (hanswers k).orderBy_eq, PaginationParams.slice_turnTo]
    simpa only [hpage] using hperm
  · intro hties scans
    have hanswers (k : Nat) : Sql.Answer le rows (orderBy le ((scans k).rows 0 rows)) := by
      have hanswer : Sql.Answer le ((scans k).rows 0 rows) (orderBy le ((scans k).rows 0 rows)) :=
        answer_orderBy _
      exact ⟨hanswer.perm.trans ((scans k).perm 0 rows), hanswer.ordered⟩
    exact pages_perm hrows hsize hties (le_pageCount_mul hsize) hanswers

namespace Db

theorem nodup_publishedMovies (d : Db) (text : TextSearch) (filters : Filters) :
    (d.publishedMovies text filters).Nodup :=
  (List.Nodup.of_map _ d.uniqueContents).filter _

theorem nodup_publishedSeries (d : Db) (text : TextSearch) (filters : Filters) :
    (d.publishedSeries text filters).Nodup :=
  (List.Nodup.of_map _ d.uniqueSeries).filter _

/-- The pages of a listing hold every matching title once, however the page queries are
answered, exactly when matching titles with equal `sort_order` and `created_at` share a
page. -/
theorem pages_partition_iff (d : Db) (text : TextSearch) (filters : Filters)
    (params : PaginationParams) :
    ((∀ scans : Nat → Scan Content,
      ((List.range (pageCount (d.publishedMovies text filters).length params.pageSize)).flatMap
        fun k => (d.listPublishedMovies text filters (scans k) (params.turnTo k)).items).Perm
          (d.publishedMovies text filters)) ↔
      TiesOnOnePage Content.le params.pageSize (d.publishedMovies text filters)) ∧
    ((∀ (scans : Nat → Scan Series) (groups : Nat → Scan (Uuid × String × Nat)),
      ((List.range (pageCount (d.publishedSeries text filters).length params.pageSize)).flatMap
        fun k => (d.listPublishedSeries text filters (scans k) (groups k)
          (params.turnTo k)).items.map SeriesListItem.series).Perm
          (d.publishedSeries text filters)) ↔
      TiesOnOnePage Series.le params.pageSize (d.publishedSeries text filters)) := by
  refine ⟨paginateQuery_perm_iff (d.nodup_publishedMovies text filters) params, ?_⟩
  rw [← paginateQuery_perm_iff (d.nodup_publishedSeries text filters) params]
  have hitems (scan : Scan Series) (groups : Scan (Uuid × String × Nat)) (k : Nat) :
      (d.listPublishedSeries text filters scan groups (params.turnTo k)).items.map
        SeriesListItem.series =
          (paginateQuery Series.le (d.publishedSeries text filters) scan (params.turnTo k)).1 := by
    unfold listPublishedSeries buildPaginatedResponse
    rw [List.map_map]
    exact List.map_id _
  simp only [hitems]
  constructor
  · intro h scans
    exact h scans fun _ => ⟨fun _ l => l, fun _ l => .refl l⟩
  · intro h scans _
    exact h scans

/-- Two movies that nobody has put in order, created by one bulk insert. -/
def bulkCreated : Db where
  contents :=
    [⟨⟨1, ⟨"First", none, none, []⟩, true, 0, 5⟩, .single, none, none, false⟩,
      ⟨⟨2, ⟨"Second", none, none, []⟩, true, 0, 5⟩, .single, none, none, false⟩]
  series := []
  uniqueContents := by unfold Sql.Unique; decide
  uniqueSeries := List.nodup_nil

/-- The second query may come in the other order: one of them is shown on both pages. -/
theorem bulkCreated_shown_twice :
    ¬ ∀ scans : Nat → Scan Content, ((List.range (pageCount 2 1)).flatMap fun k =>
      (bulkCreated.listPublishedMovies ⟨.ascii, Char.isAlphanum, fun _ _ => false⟩
        ⟨none, none, none, none⟩ (scans k)
        (PaginationParams.turnTo ⟨1, 1, by decide, by decide⟩ k)).items).Perm
          (bulkCreated.publishedMovies ⟨.ascii, Char.isAlphanum, fun _ _ => false⟩
            ⟨none, none, none, none⟩) := by
  intro h
  have hpages := h fun k =>
    ⟨fun _ l => if k = 0 then l else l.reverse, fun _ l => by
      split
      · exact .refl l
      · exact l.reverse_perm⟩
  revert hpages
  decide +kernel

end Db

end MovieApi.Catalog.Listing
