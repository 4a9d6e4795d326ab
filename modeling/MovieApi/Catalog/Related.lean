import MovieApi.Catalog.Listing

/-!
# Related titles

`related_movies` and `related_series`: titles that share a genre, newest first, filled up
with other titles.  A genre without a name counts for nothing.
-/

namespace MovieApi.Catalog.Listing

open Publishing (Uuid Instant)
open Sql

/-! ## The queries -/

/-- `[g for g in genres if g]`. -/
def CatalogRow.namedGenres (row : CatalogRow) : List String :=
  row.columns.genres.filter fun genre => decide (genre ≠ "")

/-- `genres && ARRAY[…]`. -/
def CatalogRow.overlaps (row : CatalogRow) (genres : List String) : Bool :=
  row.columns.genres.any fun genre => decide (genre ∈ genres)

/-- `created_at DESC`. -/
def CatalogRow.newer (row row' : CatalogRow) : Prop := row'.createdAt ≤ row.createdAt

instance : DecidableRel CatalogRow.newer := fun _ _ => inferInstanceAs (Decidable (_ ≤ _))

/-- `id != title.id`. -/
def otherTitles {ρ : Type} (toRow : ρ → CatalogRow) (published : List ρ) (title : CatalogRow) :
    List ρ :=
  published.filter fun row => decide ((toRow row).id ≠ title.id)

/-- What both functions do with the published titles of their kind; `toRow` is the part of
a title that is looked at. -/
def related {ρ : Type} (toRow : ρ → CatalogRow) (published : List ρ) (title : CatalogRow)
    (limit : Nat) (scan : Scan ρ) : List ρ :=
  let newest (query : Nat) (rows : List ρ) : List ρ :=
    orderBy (fun a b => (toRow a).newer (toRow b)) (scan.rows query rows)
  let genres := title.namedGenres
  let others := otherTitles toRow published title
  let items :=
    if genres = [] then (newest 0 others).take limit
    else (newest 0 (others.filter fun row => (toRow row).overlaps genres)).take limit
  if limit ≤ items.length ∨ genres = [] then items
  else
    let existingIds := title.id :: items.map fun row => (toRow row).id
    items ++ (newest 1 (published.filter fun row => decide ((toRow row).id ∉ existingIds))).take
      (limit - items.length)

namespace Db

def allPublishedMovies (d : Db) : List Content :=
  d.contents.filter fun content => decide (content.type = .single) && content.isPublished

def allPublishedSeries (d : Db) : List Series := d.series.filter fun series => series.isPublished

def relatedMovies (d : Db) (movie : Content) (limit : Nat) (scan : Scan Content) : List Content :=
  related Content.toCatalogRow d.allPublishedMovies movie.toCatalogRow limit scan

def relatedSeries (d : Db) (series : Series) (limit : Nat) (scan : Scan Series) : List Series :=
  related Series.toCatalogRow d.allPublishedSeries series.toCatalogRow limit scan

end Db

/-! ## What is suggested -/

/-- The best `limit` of the other titles: as many as there are, each once, those that share
something before those that do not, and none of the former left out for one of the
latter. -/
structure Suggests {ρ : Type} (toRow : ρ → CatalogRow) (published : List ρ) (title : CatalogRow)
    (shares : CatalogRow → Prop) (limit : Nat) (answer : List ρ) : Prop where
  length : answer.length = min limit (otherTitles toRow published title).length
  distinct : (answer.map fun row => (toRow row).id).Nodup
  mem : ∀ row ∈ answer, row ∈ otherTitles toRow published title
  sharingFirst : answer.Pairwise fun a b => shares (toRow b) → shares (toRow a)
  leftOut : ∀ row ∈ otherTitles toRow published title, shares (toRow row) → row ∉ answer →
    answer.length = limit ∧ ∀ other ∈ answer, shares (toRow other)

/-- Two titles have a genre with a name in common. -/
def CatalogRow.SharesGenre (title row : CatalogRow) : Prop :=
  ∃ genre ∈ title.columns.genres, genre ≠ "" ∧ genre ∈ row.columns.genres

section

variable {ρ : Type} {toRow : ρ → CatalogRow} {published found fallback : List ρ}
  {title : CatalogRow} {limit : Nat}

theorem mem_otherTitles {row : ρ} : row ∈ otherTitles toRow published title ↔
    row ∈ published ∧ (toRow row).id ≠ title.id := by
  unfold otherTitles
  rw [List.mem_filter, decide_eq_true_eq]

theorem overlaps_iff {row : CatalogRow} :
    row.overlaps title.namedGenres = true ↔ title.SharesGenre row := by
  unfold CatalogRow.overlaps CatalogRow.namedGenres CatalogRow.SharesGenre
  simp only [List.any_eq_true, List.mem_filter, decide_eq_true_eq]
  constructor
  · rintro ⟨genre, hrow, htitle, hname⟩
    exact ⟨genre, htitle, hname, hrow⟩
  · rintro ⟨genre, htitle, hname, hrow⟩
    exact ⟨genre, hrow, htitle, hname⟩

theorem not_sharesGenre {row : CatalogRow} (h : title.namedGenres = []) :
    ¬ title.SharesGenre row := by
  rintro ⟨genre, htitle, hname, -⟩
  have hmem : genre ∈ title.namedGenres := List.mem_filter.2 ⟨htitle, by simpa using hname⟩
  rw [h] at hmem
  cases hmem

/-- A query hands out the rows it selects. -/
theorem newest_perm (toRow : ρ → CatalogRow) (scan : Scan ρ) (query : Nat) (rows : List ρ) :
    (orderBy (fun a b => (toRow a).newer (toRow b)) (scan.rows query rows)).Perm rows :=
  (orderBy_perm _ _).trans (scan.perm query rows)

variable (hunique : (published.map fun row => (toRow row).id).Nodup)

include hunique

theorem nodup_otherTitles :
    ((otherTitles toRow published title).map fun row => (toRow row).id).Nodup :=
  hunique.sublist (List.filter_sublist.map _)

theorem suggests_without_genres (hgenres : title.namedGenres = [])
    (hperm : found.Perm (otherTitles toRow published title)) :
    Suggests toRow published title title.SharesGenre limit (found.take limit) := by
  have hsub : (found.take limit).Sublist found := List.take_sublist _ _
  have hnodup := (hperm.map fun row => (toRow row).id).nodup_iff.2 (nodup_otherTitles hunique)
  refine ⟨?_, hnodup.sublist (hsub.map _), fun row hrow => hperm.mem_iff.1 (hsub.mem hrow), ?_, ?_⟩
  · rw [List.length_take, hperm.length_eq]
  · exact List.pairwise_of_forall fun a b hb => absurd hb (not_sharesGenre hgenres)
  · exact fun row _ hshares => absurd hshares (not_sharesGenre hgenres)

/-- The titles that share a genre are enough. -/
theorem suggests_of_enough
    (hperm : found.Perm ((otherTitles toRow published title).filter fun row =>
      (toRow row).overlaps title.namedGenres)) (henough : limit ≤ found.length) :
    Suggests toRow published title title.SharesGenre limit (found.take limit) := by
  have hsub : (found.take limit).Sublist found := List.take_sublist _ _
  have hlength : (found.take limit).length = limit := List.length_take_of_le henough
  have hmem (row : ρ) (hrow : row ∈ found.take limit) :
      row ∈ otherTitles toRow published title ∧ title.SharesGenre (toRow row) := by
    rw [← overlaps_iff]
    exact List.mem_filter.1 (hperm.mem_iff.1 (hsub.mem hrow))
  have hnodup : (found.map fun row => (toRow row).id).Nodup :=
    (hperm.map _).nodup_iff.2 ((nodup_otherTitles hunique).sublist (List.filter_sublist.map _))
  refine ⟨?_, hnodup.sublist (hsub.map _), fun row hrow => (hmem row hrow).1, ?_, ?_⟩
  · have hle : found.length ≤ (otherTitles toRow published title).length := by
      rw [hperm.length_eq]
      exact List.length_filter_le _ _
    omega
  · exact List.pairwise_of_forall_mem_list fun a ha _ _ _ => (hmem a ha).2
  · exact fun row _ _ _ => ⟨hlength, fun other hother => (hmem other hother).2⟩

/-- Once all titles that share a genre are found, the second query is for the rest. -/
theorem filter_existingIds
    (hperm : found.Perm ((otherTitles toRow published title).filter fun row =>
      (toRow row).overlaps title.namedGenres)) :
    (published.filter fun row => decide
      ((toRow row).id ∉ title.id :: found.map fun row => (toRow row).id)) =
      (otherTitles toRow published title).filter fun row =>
        !(toRow row).overlaps title.namedGenres := by
  unfold otherTitles
  rw [List.filter_filter]
  refine List.filter_congr fun row hrow => ?_
  have hknown : (toRow row).id ∈ (found.map fun row => (toRow row).id) ↔
      (toRow row).id ≠ title.id ∧ (toRow row).overlaps title.namedGenres = true := by
    rw [List.mem_map]
    constructor
    · rintro ⟨other, hother, hid⟩
      obtain ⟨hmem, hshares⟩ := List.mem_filter.1 (hperm.mem_iff.1 hother)
      obtain ⟨hpublished, hne⟩ := mem_otherTitles.1 hmem
      obtain rfl := List.inj_on_of_nodup_map hunique hpublished hrow hid
      exact ⟨hne, hshares⟩
    · rintro ⟨hne, hshares⟩
      exact ⟨row, hperm.mem_iff.2 (List.mem_filter.2 ⟨mem_otherTitles.2 ⟨hrow, hne⟩, hshares⟩), rfl⟩
  simp only [List.mem_cons, hknown]
  by_cases hne : (toRow row).id = title.id
  · simp [hne]
  · cases hoverlap : (toRow row).overlaps title.namedGenres <;> simp [hne]

/-- Titles that share nothing fill the answer up. -/
theorem suggests_of_fallback
    (hperm : found.Perm ((otherTitles toRow published title).filter fun row =>
      (toRow row).overlaps title.namedGenres))
    (hperm' : fallback.Perm ((otherTitles toRow published title).filter fun row =>
      !(toRow row).overlaps title.namedGenres)) (hshort : found.length < limit) :
    Suggests toRow published title title.SharesGenre limit
      (found ++ fallback.take (limit - found.length)) := by
  have hboth : (found ++ fallback).Perm (otherTitles toRow published title) :=
    (hperm.append hperm').trans (List.filter_append_perm _ _)
  have hsub : (found ++ fallback.take (limit - found.length)).Sublist (found ++ fallback) :=
    (List.take_sublist _ _).append_left found
  have hfound (row : ρ) (hrow : row ∈ found) : title.SharesGenre (toRow row) :=
    overlaps_iff.1 (List.mem_filter.1 (hperm.mem_iff.1 hrow)).2
  have hfallback (row : ρ) (hrow : row ∈ fallback) : ¬ title.SharesGenre (toRow row) := by
    have hno := (List.mem_filter.1 (hperm'.mem_iff.1 hrow)).2
    rw [← overlaps_iff]
    simpa using hno
  have hnodup := (hboth.map fun row => (toRow row).id).nodup_iff.2 (nodup_otherTitles hunique)
  refine ⟨?_, hnodup.sublist (hsub.map _), fun row hrow => hboth.mem_iff.1 (hsub.mem hrow), ?_, ?_⟩
  · have hlength := hboth.length_eq
    rw [List.length_append] at hlength
    rw [List.length_append, List.length_take]
    omega
  · refine List.pairwise_append.2 ⟨?_, ?_, fun a ha _ _ _ => hfound a ha⟩
    · exact List.pairwise_of_forall_mem_list fun a ha _ _ _ => hfound a ha
    · refine List.pairwise_of_forall_mem_list fun _ _ b hb hshares => ?_
      exact absurd hshares (hfallback b (List.mem_of_mem_take hb))
  · intro row hrow hshares hout
    refine absurd (List.mem_append_left _ (hperm.mem_iff.2 ?_)) hout
    exact List.mem_filter.2 ⟨hrow, overlaps_iff.2 hshares⟩

theorem related_suggests (title : CatalogRow) (limit : Nat) (scan : Scan ρ) :
    Suggests toRow published title title.SharesGenre limit
      (related toRow published title limit scan) := by
  unfold related
  dsimp only
  by_cases hgenres : title.namedGenres = []
  · simp only [hgenres, if_true, or_true]
    exact suggests_without_genres hunique hgenres (newest_perm toRow scan 0 _)
  · simp only [hgenres, if_false, or_false]
    have hperm := newest_perm toRow scan 0 ((otherTitles toRow published title).filter
      fun row => (toRow row).overlaps title.namedGenres)
    generalize orderBy (fun a b => (toRow a).newer (toRow b)) (scan.rows 0
      ((otherTitles toRow published title).filter
        fun row => (toRow row).overlaps title.namedGenres)) = found at hperm
    split
    · next hfull =>
        rw [List.length_take] at hfull
        exact suggests_of_enough hunique hperm (by omega)
    · next hshort =>
        rw [List.length_take] at hshort
        rw [List.take_of_length_le (by omega), filter_existingIds hunique hperm]
        exact suggests_of_fallback hunique hperm (newest_perm toRow scan 1 _) (by omega)

end

namespace Db

/-- Related movies and related series, sharing a genre that has a name. -/
theorem related_titles (d : Db) (movie : Content) (series : Series) (limit : Nat)
    (scan : Scan Content) (scan' : Scan Series) :
    Suggests Content.toCatalogRow d.allPublishedMovies movie.toCatalogRow
      movie.toCatalogRow.SharesGenre limit (d.relatedMovies movie limit scan) ∧
    Suggests Series.toCatalogRow d.allPublishedSeries series.toCatalogRow
      series.toCatalogRow.SharesGenre limit (d.relatedSeries series limit scan') :=
  ⟨related_suggests (d.uniqueContents.sublist (List.filter_sublist.map _)) _ limit scan,
    related_suggests (d.uniqueSeries.sublist (List.filter_sublist.map _)) _ limit scan'⟩

/-- A movie filed under a genre without a name. -/
def unnamed (id : Uuid) (createdAt : Instant) : Content :=
  ⟨⟨id, ⟨"", none, none, [""]⟩, true, 0, createdAt⟩, .single, none, none, false⟩

/-- Two such movies, and a newer one with a genre. -/
def unnamedGenres : Db where
  contents := [unnamed 1 5, unnamed 2 6,
    ⟨⟨3, ⟨"", none, none, ["Drama"]⟩, true, 0, 7⟩, .single, none, none, false⟩]
  series := []
  uniqueContents := by unfold Sql.Unique; decide
  uniqueSeries := List.nodup_nil

/-- Movie 2 has an entry of `genres` in common with movie 1, and comes after movie 3. -/
theorem unnamed_genre_comes_last :
    ¬ Suggests Content.toCatalogRow unnamedGenres.allPublishedMovies (unnamed 1 5).toCatalogRow
      (fun row => ∃ genre ∈ (unnamed 1 5).columns.genres, genre ∈ row.columns.genres) 2
      (unnamedGenres.relatedMovies (unnamed 1 5) 2 ⟨fun _ l => l, fun _ l => .refl l⟩) := by
  intro h
  have hfirst := h.sharingFirst
  have hanswer : unnamedGenres.relatedMovies (unnamed 1 5) 2 ⟨fun _ l => l, fun _ l => .refl l⟩ =
      [⟨⟨3, ⟨"", none, none, ["Drama"]⟩, true, 0, 7⟩, .single, none, none, false⟩,
        unnamed 2 6] := by decide +kernel
  rw [hanswer] at hfirst
  have hdrama := (List.pairwise_cons.1 hfirst).1 (unnamed 2 6) (by simp)
    ⟨"", by simp [unnamed], by simp [unnamed]⟩
  simp [unnamed] at hdrama

end Db

end MovieApi.Catalog.Listing
