import MovieApi.Billing.Schema
import MovieApi.HomePage.Builder

/-!
# Cleaning up after deleted titles

Before a title is deleted the rows that refer to it are: once for a single
title, and in bulk for the episodes of a series.  Each of the two functions has
its own list of statements.
-/

namespace MovieApi.Catalog.ContentDelete

open Sql
open Billing (Uuid Instant PaymentIntent Receipt)
open HomePage (HeroFeaturedItem HomeSectionItem RailItem)

/-! ## Rows -/

structure Content where
  id : Uuid
  seriesId : Option Uuid
  slug : String
  title : String
deriving DecidableEq, Repr

structure Favorite where
  userId : Uuid
  contentId : Uuid
  createdAt : Instant
deriving DecidableEq, Repr

structure GenreRailItem extends RailItem where
  genreName : String
deriving DecidableEq, Repr

structure WatchProgress where
  userId : Uuid
  contentId : Uuid
  positionSeconds : Int
  completed : Bool
  lastWatchedAt : Instant
deriving DecidableEq, Repr

structure TranscodeJob where
  id : Uuid
  contentId : Uuid
  sourceKey : String
  status : String
  attempts : Int
  error : Option String
deriving DecidableEq, Repr

/-! ## Tables -/

/-- The tables whose rows go with the title. -/
inductive Table where
  | purchase | favorite | freeTodayItem | comingSoonItem | genreRailItem | heroFeaturedItem
  | homeSectionItem | watchProgress | transcodeJob
deriving DecidableEq, Repr

namespace Table

@[reducible] def Row : Table → Type
  | .purchase => Receipt
  | .favorite => Favorite
  | .freeTodayItem => RailItem
  | .comingSoonItem => RailItem
  | .genreRailItem => GenreRailItem
  | .heroFeaturedItem => HeroFeaturedItem
  | .homeSectionItem => HomeSectionItem
  | .watchProgress => WatchProgress
  | .transcodeJob => TranscodeJob

/-- The column that refers to a title: `content_id`, or `ref_id` of an item. -/
def contentId : (table : Table) → table.Row → Option Uuid
  | .purchase, row => some row.titleId
  | .favorite, row => some row.contentId
  | .freeTodayItem, row => some row.contentId
  | .comingSoonItem, row => some row.contentId
  | .genreRailItem, row => some row.contentId
  | .heroFeaturedItem, row => row.contentId
  | .homeSectionItem, row => some row.refId
  | .watchProgress, row => some row.contentId
  | .transcodeJob, row => some row.contentId

end Table

structure Db where
  contents : List Content
  rows : (table : Table) → List table.Row
  paymentIntents : List PaymentIntent

namespace Db

/-- `SELECT id FROM content WHERE series_id = …`. -/
def episodeIds (d : Db) (seriesId : Uuid) : List Uuid :=
  (d.contents.filter fun row : Content => decide (row.seriesId = some seriesId)).map Content.id

/-- `DELETE FROM table WHERE content_id = …`. -/
def deleteOf (table : Table) (contentId : Uuid) (d : Db) : Db :=
  { d with
    rows := Function.update d.rows table
      ((d.rows table).filter fun row => decide (¬ table.contentId row = some contentId)) }

/-- `DELETE FROM table WHERE content_id IN (SELECT id FROM content WHERE series_id = …)`. -/
def deleteOfSeries (table : Table) (seriesId : Uuid) (d : Db) : Db :=
  { d with
    rows := Function.update d.rows table
      ((d.rows table).filter fun row =>
        decide (¬ ∃ id ∈ table.contentId row, id ∈ d.episodeIds seriesId)) }

end Db

/-! ## The two functions -/

/-- `delete_transcode_jobs_for_content`. -/
def deleteTranscodeJobsForContent (contentId : Uuid) (d : Db) : Db :=
  d.deleteOf .transcodeJob contentId

/-- `delete_transcode_jobs_for_series`. -/
def deleteTranscodeJobsForSeries (seriesId : Uuid) (d : Db) : Db :=
  d.deleteOfSeries .transcodeJob seriesId

/-- `delete_content_dependencies`. -/
def deleteContentDependencies (contentId : Uuid) (d : Db) : Db :=
  let d := d.deleteOf .purchase contentId
  let d := d.deleteOf .favorite contentId
  let d := d.deleteOf .freeTodayItem contentId
  let d := d.deleteOf .comingSoonItem contentId
  let d := d.deleteOf .genreRailItem contentId
  let d := d.deleteOf .heroFeaturedItem contentId
  let d := d.deleteOf .homeSectionItem contentId
  let d := d.deleteOf .watchProgress contentId
  let d := { d with
    paymentIntents := d.paymentIntents.map fun row : PaymentIntent =>
      if row.contentId = some contentId then { row with contentId := none } else row }
  deleteTranscodeJobsForContent contentId d

/-- `delete_content_dependencies_for_series`. -/
def deleteContentDependenciesForSeries (seriesId : Uuid) (d : Db) : Db :=
  let d := d.deleteOfSeries .purchase seriesId
  let d := d.deleteOfSeries .favorite seriesId
  let d := d.deleteOfSeries .freeTodayItem seriesId
  let d := d.deleteOfSeries .comingSoonItem seriesId
  let d := d.deleteOfSeries .genreRailItem seriesId
  let d := d.deleteOfSeries .heroFeaturedItem seriesId
  let d := d.deleteOfSeries .homeSectionItem seriesId
  let d := d.deleteOfSeries .watchProgress seriesId
  let d := { d with
    paymentIntents := d.paymentIntents.map fun row : PaymentIntent =>
      if ∃ id ∈ row.contentId, id ∈ d.episodeIds seriesId then { row with contentId := none }
      else row }
  deleteTranscodeJobsForSeries seriesId d

/-! ## The effect of a cleanup -/

/-- Everything that refers to a title among `ids` is gone, and nothing else has
changed. -/
structure CleanedUp (ids : List Uuid) (d d' : Db) : Prop where
  contents : d'.contents = d.contents
  gone : ∀ table, ∀ row ∈ d'.rows table, ∀ id ∈ ids, table.contentId row ≠ some id
  kept : ∀ table, SameElsewhere (fun row => ∃ id ∈ table.contentId row, id ∈ ids)
    (d.rows table) (d'.rows table)
  intentsFreed : ∀ row ∈ d'.paymentIntents, ∀ id ∈ ids, row.contentId ≠ some id
  intentsKept : List.Forall₂ (fun row row' : PaymentIntent =>
    row' = row ∨ (∃ id ∈ row.contentId, id ∈ ids) ∧ row' = { row with contentId := none })
    d.paymentIntents d'.paymentIntents

/-- The database without what refers to a title among `ids`. -/
def Db.without (d : Db) (ids : List Uuid) : Db :=
  { d with
    rows := fun table => (d.rows table).filter fun row =>
      decide (¬ ∃ id ∈ table.contentId row, id ∈ ids)
    paymentIntents := d.paymentIntents.map fun row : PaymentIntent =>
      if ∃ id ∈ row.contentId, id ∈ ids then { row with contentId := none } else row }

section

variable {d : Db} {ids ids' : List Uuid} {id seriesId : Uuid}

theorem exists_mem_singleton {ref : Option Uuid} : (∃ id' ∈ ref, id' ∈ [id]) ↔ ref = some id := by
  simp [Option.mem_def]

theorem deleteContentDependencies_eq (id : Uuid) (d : Db) :
    deleteContentDependencies id d = d.without [id] := by
  simp only [deleteContentDependencies, deleteTranscodeJobsForContent, Db.deleteOf, Db.without,
    exists_mem_singleton, Db.mk.injEq, true_and, and_true]
  funext table
  cases table <;> rfl

theorem deleteContentDependenciesForSeries_eq (seriesId : Uuid) (d : Db) :
    deleteContentDependenciesForSeries seriesId d = d.without (d.episodeIds seriesId) := by
  simp only [deleteContentDependenciesForSeries, deleteTranscodeJobsForSeries, Db.deleteOfSeries,
    Db.without, Db.episodeIds, Db.mk.injEq, true_and]
  constructor
  · funext table
    cases table <;> rfl
  · rfl

/-! ## Several titles -/

/-- Cleaning up in two steps is cleaning up for both lists. -/
theorem Db.without_without : (d.without ids).without ids' = d.without (ids ++ ids') := by
  simp only [Db.without, Db.mk.injEq, true_and]
  constructor
  · funext table
    rw [List.filter_filter]
    refine List.filter_congr fun row _ => ?_
    cases table.contentId row <;> simp [Bool.and_comm]
  · rw [List.map_map]
    refine List.map_congr_left fun row _ => ?_
    cases hrow : row.contentId with
    | none => simp [hrow]
    | some id =>
        by_cases hmem : id ∈ ids
        · simp [hrow, hmem]
        · simp [hrow, hmem]

theorem Db.without_nil : d.without [] = d := by
  simp [Db.without]

/-- Only which titles are meant counts. -/
theorem Db.without_congr (h : ∀ id, id ∈ ids ↔ id ∈ ids') : d.without ids = d.without ids' := by
  simp only [Db.without, h]

theorem foldl_deleteContentDependencies (ids : List Uuid) (d : Db) :
    ids.foldl (fun d id => deleteContentDependencies id d) d = d.without ids := by
  induction ids generalizing d with
  | nil => exact Db.without_nil.symm
  | cons id ids ih =>
      rw [List.foldl_cons, ih, deleteContentDependencies_eq, Db.without_without]
      rfl

theorem Db.without_cleanedUp (ids : List Uuid) (d : Db) : CleanedUp ids d (d.without ids) where
  contents := rfl
  gone := by
    intro table row hrow id hid href
    have hkept := (List.mem_filter.1 hrow).2
    simp only [decide_not, Bool.not_eq_true', decide_eq_false_iff_not] at hkept
    exact hkept ⟨id, href, hid⟩
  kept := fun table => sameElsewhere_filter (fun row => ∃ id ∈ table.contentId row, id ∈ ids) _
  intentsFreed := by
    intro row hrow id hid href
    obtain ⟨old, -, rfl⟩ := List.mem_map.1 hrow
    by_cases hold : ∃ id ∈ old.contentId, id ∈ ids
    · rw [if_pos hold] at href
      cases href
    · rw [if_neg hold] at href
      exact hold ⟨id, href, hid⟩
  intentsKept := by
    rw [Db.without, List.forall₂_map_right_iff, List.forall₂_same]
    intro row _
    by_cases hrow : ∃ id ∈ row.contentId, id ∈ ids
    · rw [if_pos hrow]
      exact .inr ⟨hrow, rfl⟩
    · rw [if_neg hrow]
      exact .inl rfl

/-- The bulk cleanup for a series is the cleanup of its episodes in any order, and
leaves nothing that refers to one of them. -/
theorem deleteContentDependenciesForSeries_eq_each (seriesId : Uuid) (d : Db) {order : List Uuid}
    (h : order.Perm (d.episodeIds seriesId)) :
    deleteContentDependenciesForSeries seriesId d =
        order.foldl (fun d id => deleteContentDependencies id d) d ∧
      CleanedUp (d.episodeIds seriesId) d (deleteContentDependenciesForSeries seriesId d) := by
  rw [foldl_deleteContentDependencies, deleteContentDependenciesForSeries_eq]
  exact ⟨Db.without_congr fun _ => h.mem_iff.symm, d.without_cleanedUp _⟩

end

/-- A series with two episodes, a purchase and a pending intent for the second one. -/
def twoEpisodes : Db where
  contents := [⟨1, some 7, "one", "One"⟩, ⟨2, some 7, "two", "Two"⟩]
  rows
    | .purchase => [⟨some 3, none, 2, "bkg-1", "order-1", some "ABA", 500⟩]
    | .favorite => [⟨3, 1, 0⟩, ⟨3, 9, 0⟩]
    | .freeTodayItem | .comingSoonItem | .genreRailItem | .heroFeaturedItem | .homeSectionItem
    | .watchProgress | .transcodeJob => []
  paymentIntents := []

/-- The second episode may be cleaned up first. -/
theorem twoEpisodes_backwards :
    deleteContentDependenciesForSeries 7 twoEpisodes =
        [2, 1].foldl (fun d id => deleteContentDependencies id d) twoEpisodes ∧
      CleanedUp [1, 2] twoEpisodes (deleteContentDependenciesForSeries 7 twoEpisodes) := by
  have horder : [2, 1].Perm (twoEpisodes.episodeIds 7) := by decide
  exact deleteContentDependenciesForSeries_eq_each 7 twoEpisodes horder

end MovieApi.Catalog.ContentDelete
