import Mathlib
import MovieApi.Sql.OrderBy

/-!
# Free movies today

`app/catalog/free_today.py` answers two questions about the same picks: which
movies the rail shows (`resolve_free_today_movies`) and whether one movie is
free (`is_free_today`).  Both read the legacy `free_today_items` table and the
`free_today` home sections, with different precedence, limits and filters.
-/

namespace MovieApi.Catalog

open Sql

/-! ## Tables -/

inductive ContentType where
  | single | episode | podcast
deriving DecidableEq, Repr

inductive SectionType where
  | hero | banners | tv | freeToday | trending | mostWatched | comingSoon | series | genre
  | custom | plans
deriving DecidableEq, Repr

inductive ItemKind where
  | movie | series | tvChannel | heroSlide | banner
deriving DecidableEq, Repr

structure Movie where
  id : Nat
  type : ContentType
  isPublished : Bool
deriving DecidableEq, Repr

structure HomeSection where
  id : Nat
  type : SectionType
  isVisible : Bool
  sortOrder : Int
deriving DecidableEq, Repr

structure HomeSectionItem where
  sectionId : Nat
  itemKind : ItemKind
  refId : Nat
  sortOrder : Int
  createdAt : Int
deriving DecidableEq, Repr

structure FreeTodayItem where
  contentId : Nat
  sortOrder : Int
  createdAt : Int
deriving DecidableEq, Repr

def freeTodayMax : Nat := 10

/-- The tables the free-today queries read, with the keys the schema declares:
`content.id`, `free_today_items.content_id` and `uq_home_section_item_ref`. -/
structure RailDb where
  contents : List Movie
  homeSections : List HomeSection
  homeSectionItems : List HomeSectionItem
  freeTodayItems : List FreeTodayItem
  contents_key : (contents.map (·.id)).Nodup
  sections_key : (homeSections.map (·.id)).Nodup
  items_key : (homeSectionItems.map fun i => (i.sectionId, i.itemKind, i.refId)).Nodup
  legacy_key : (freeTodayItems.map (·.contentId)).Nodup

def RailDb.empty : RailDb :=
  ⟨[], [], [], [], List.nodup_nil, List.nodup_nil, List.nodup_nil, List.nodup_nil⟩

/-! ## Queries -/

/-- A row of a rail query: the movie and the columns it is ordered by. -/
structure Placed where
  sortOrder : Int
  createdAt : Int
  movie : Movie
deriving DecidableEq, Repr

/-- `sort_order ASC, created_at DESC`. -/
def RailOrder (a b : Placed) : Prop :=
  a.sortOrder < b.sortOrder ∨ (a.sortOrder = b.sortOrder ∧ b.createdAt ≤ a.createdAt)

instance : DecidableRel RailOrder := fun _ _ => inferInstanceAs (Decidable (_ ∨ _))

instance : IsTrans Placed RailOrder := ⟨fun _ _ _ hab hbc => by unfold RailOrder at *; omega⟩

instance : Std.Total RailOrder := ⟨fun a b => by unfold RailOrder; omega⟩

/-- `sort_order ASC`. -/
def SectionOrder (a b : HomeSection) : Prop := a.sortOrder ≤ b.sortOrder

instance : DecidableRel SectionOrder := fun a b => inferInstanceAs (Decidable (a.sortOrder ≤ b.sortOrder))

/-- `Content JOIN item ON ref = Content.id WHERE type = 'single' AND is_published`. -/
def publishedMovie (db : RailDb) (id : Nat) : List Movie :=
  db.contents.filter fun m => m.id = id ∧ m.type = .single ∧ m.isPublished

def visibleRails (db : RailDb) : List HomeSection :=
  db.homeSections.filter fun s => s.type = .freeToday ∧ s.isVisible

def movieItems (db : RailDb) (rail : HomeSection) : List HomeSectionItem :=
  db.homeSectionItems.filter fun i => i.sectionId = rail.id ∧ i.itemKind = .movie

def railPicks (db : RailDb) (rail : HomeSection) : List Placed :=
  (movieItems db rail).flatMap fun i =>
    (publishedMovie db i.refId).map fun m => ⟨i.sortOrder, i.createdAt, m⟩

def legacyPicks (db : RailDb) : List Placed :=
  db.freeTodayItems.flatMap fun i =>
    (publishedMovie db i.contentId).map fun m => ⟨i.sortOrder, i.createdAt, m⟩

/-- `free_today_content_ids_from_sections`. -/
def freeTodayContentIdsFromSections (db : RailDb) : List Nat :=
  (visibleRails db).flatMap fun s => (movieItems db s).map (·.refId)

def isFreeToday (db : RailDb) (contentId : Nat) : Bool :=
  if contentId ∈ freeTodayContentIdsFromSections db then true
  else db.freeTodayItems.any fun i => i.contentId = contentId

def resolveFreeTodayMovies (db : RailDb) : List Movie :=
  let legacy := ((orderBy RailOrder (legacyPicks db)).take freeTodayMax).map (·.movie)
  match (orderBy SectionOrder (visibleRails db)).head? with
  | none => legacy
  | some rail =>
      if (movieItems db rail).length > 0 then
        ((orderBy RailOrder (railPicks db rail)).take freeTodayMax).map (·.movie)
      else legacy

/-! ## Picks of the source in use -/

/-- The first visible rail when it holds a movie item, else the legacy table. -/
def sourcePicks (db : RailDb) : List Placed :=
  match (orderBy SectionOrder (visibleRails db)).head? with
  | none => legacyPicks db
  | some rail => if (movieItems db rail).length > 0 then railPicks db rail else legacyPicks db

theorem resolveFreeTodayMovies_eq (db : RailDb) :
    resolveFreeTodayMovies db =
      ((orderBy RailOrder (sourcePicks db)).take freeTodayMax).map (·.movie) := by
  unfold resolveFreeTodayMovies sourcePicks
  cases (orderBy SectionOrder (visibleRails db)).head? with
  | none => rfl
  | some rail =>
      dsimp only
      split <;> rfl

theorem publishedMovie_id {db : RailDb} {id : Nat} {m : Movie} (h : m ∈ publishedMovie db id) :
    m.id = id := by
  have hwhere := (List.mem_filter.mp h).2
  simp only [decide_eq_true_eq] at hwhere
  exact hwhere.1

/-- Joining distinct references to the movie table repeats no movie. -/
theorem picks_ids_nodup {ι : Type} {db : RailDb} {items : List ι} (ref : ι → Nat)
    (place : ι → Movie → Placed) (hplace : ∀ i m, (place i m).movie = m)
    (hitems : (items.map ref).Nodup) :
    ((items.flatMap fun i => (publishedMovie db (ref i)).map (place i)).map
      (·.movie.id)).Nodup := by
  have hcontents : ∀ id, ((publishedMovie db id).map (·.id)).Nodup := fun id =>
    db.contents_key.sublist (List.filter_sublist.map _)
  rw [List.map_flatMap, List.nodup_flatMap]
  refine ⟨fun i _ => ?_, ?_⟩
  · have hmap : ((publishedMovie db (ref i)).map (place i)).map (·.movie.id) =
        (publishedMovie db (ref i)).map (·.id) := by
      simp [hplace]
    rw [hmap]
    exact hcontents (ref i)
  · refine (List.pairwise_map.mp hitems).imp fun {i j} hij => ?_
    simp only [Function.onFun, List.Disjoint, List.map_map, List.mem_map, Function.comp_apply,
      hplace, forall_exists_index, and_imp]
    rintro id m hm rfl m' hm' hid
    rw [publishedMovie_id hm, publishedMovie_id hm'] at hid
    exact hij hid.symm

theorem movieItems_refs_nodup (db : RailDb) (rail : HomeSection) :
    ((movieItems db rail).map (·.refId)).Nodup := by
  have hkeys := db.items_key
  rw [List.Nodup, List.pairwise_map] at hkeys ⊢
  refine (hkeys.sublist List.filter_sublist).imp_of_mem ?_
  intro i j hi hj hne href
  have hi' := (List.mem_filter.mp hi).2
  have hj' := (List.mem_filter.mp hj).2
  simp only [decide_eq_true_eq] at hi' hj'
  exact hne (by rw [hi'.1, hj'.1, hi'.2, hj'.2, href])

theorem sourcePicks_ids_nodup (db : RailDb) : ((sourcePicks db).map (·.movie.id)).Nodup := by
  have hlegacy : ((legacyPicks db).map (·.movie.id)).Nodup :=
    picks_ids_nodup FreeTodayItem.contentId (fun i m => ⟨i.sortOrder, i.createdAt, m⟩)
      (fun _ _ => rfl) db.legacy_key
  unfold sourcePicks
  split
  · exact hlegacy
  · split
    · exact picks_ids_nodup HomeSectionItem.refId (fun i m => ⟨i.sortOrder, i.createdAt, m⟩)
        (fun _ _ => rfl) (movieItems_refs_nodup db _)
    · exact hlegacy

theorem isFreeToday_iff (db : RailDb) (id : Nat) :
    isFreeToday db id = true ↔
      id ∈ freeTodayContentIdsFromSections db ∨ ∃ i ∈ db.freeTodayItems, i.contentId = id := by
  unfold isFreeToday
  split
  · simp_all
  · simp_all

/-- Whatever the source in use picks is free. -/
theorem isFreeToday_of_pick {db : RailDb} {pick : Placed} (h : pick ∈ sourcePicks db) :
    isFreeToday db pick.movie.id = true := by
  rw [isFreeToday_iff]
  have hlegacy : pick ∈ legacyPicks db → ∃ i ∈ db.freeTodayItems, i.contentId = pick.movie.id := by
    intro hpick
    obtain ⟨i, hi, hpick⟩ := List.mem_flatMap.mp hpick
    obtain ⟨m, hm, rfl⟩ := List.mem_map.mp hpick
    exact ⟨i, hi, (publishedMovie_id hm).symm⟩
  unfold sourcePicks at h
  split at h
  · exact Or.inr (hlegacy h)
  · rename_i rail hrail
    split at h
    · left
      obtain ⟨i, hi, hpick⟩ := List.mem_flatMap.mp h
      obtain ⟨m, hm, rfl⟩ := List.mem_map.mp hpick
      have hvisible : rail ∈ visibleRails db := by
        simpa using List.mem_of_mem_head? hrail
      exact List.mem_flatMap.mpr ⟨rail, hvisible,
        List.mem_map.mpr ⟨i, hi, (publishedMovie_id hm).symm⟩⟩
    · exact Or.inr (hlegacy h)

theorem shown_iff (db : RailDb) (id : Nat) :
    id ∈ (resolveFreeTodayMovies db).map (·.id) ↔
      ∃ pick ∈ sourcePicks db, pick.movie.id = id ∧
        placesBefore RailOrder (sourcePicks db) pick < freeTodayMax := by
  have hnodup : (sourcePicks db).Nodup := (sourcePicks_ids_nodup db).of_map
  rw [resolveFreeTodayMovies_eq, List.map_map, List.mem_map]
  constructor
  · rintro ⟨pick, hpick, rfl⟩
    have hmem : pick ∈ sourcePicks db := by
      simpa using List.mem_of_mem_take hpick
    exact ⟨pick, hmem, rfl, (mem_take_orderBy RailOrder hnodup hmem _).mp hpick⟩
  · rintro ⟨pick, hmem, rfl, hplace⟩
    exact ⟨pick, (mem_take_orderBy RailOrder hnodup hmem _).mpr hplace, rfl⟩

/-! ## Free against shown -/

/-- Some table makes the movie free, but the source in use does not pick it: a
legacy row left behind a rail in use, or a rail shadowed by another. -/
def Leftover (db : RailDb) (id : Nat) : Prop :=
  (id ∈ freeTodayContentIdsFromSections db ∨ ∃ i ∈ db.freeTodayItems, i.contentId = id) ∧
    ∀ pick ∈ sourcePicks db, pick.movie.id ≠ id

/-- The source in use picks the movie behind `freeTodayMax` published others. -/
def Overflow (db : RailDb) (id : Nat) : Prop :=
  ∃ pick ∈ sourcePicks db, pick.movie.id = id ∧
    freeTodayMax ≤ placesBefore RailOrder (sourcePicks db) pick

/-- A movie is free today exactly when it is shown, unless it is a leftover or
has no place on the rail. -/
theorem isFreeToday_iff_shown_iff (db : RailDb) (id : Nat) :
    (isFreeToday db id = true ↔ id ∈ (resolveFreeTodayMovies db).map (·.id)) ↔
      ¬ Leftover db id ∧ ¬ Overflow db id := by
  have hunique : ∀ pick ∈ sourcePicks db, ∀ pick' ∈ sourcePicks db,
      pick.movie.id = pick'.movie.id → pick = pick' := fun pick hpick pick' hpick' =>
    List.inj_on_of_nodup_map (sourcePicks_ids_nodup db) hpick hpick'
  rw [shown_iff]
  constructor
  · intro h
    refine ⟨fun hleft => ?_, fun hover => ?_⟩
    · obtain ⟨pick, hpick, hid, -⟩ := h.mp ((isFreeToday_iff db id).mpr hleft.1)
      exact hleft.2 pick hpick hid
    · obtain ⟨pick, hpick, rfl, hplace⟩ := hover
      obtain ⟨pick', hpick', hid, hplace'⟩ := h.mp (isFreeToday_of_pick hpick)
      rw [hunique pick' hpick' pick hpick hid] at hplace'
      omega
  · rintro ⟨hleft, hover⟩
    constructor
    · intro hfree
      by_contra hshown
      by_cases hpicked : ∃ pick ∈ sourcePicks db, pick.movie.id = id
      · obtain ⟨pick, hpick, hid⟩ := hpicked
        refine hover ⟨pick, hpick, hid, ?_⟩
        by_contra hplace
        exact hshown ⟨pick, hpick, hid, by omega⟩
      · exact hleft ⟨(isFreeToday_iff db id).mp hfree,
          fun pick hpick hid => hpicked ⟨pick, hpick, hid⟩⟩
    · rintro ⟨pick, hpick, rfl, -⟩
      exact isFreeToday_of_pick hpick

/-- The tables after the home sections were seeded from `free_today_items` and
an admin then took movie 2 off the rail: its legacy row stays. -/
def trimmedRail : RailDb where
  contents := [⟨1, .single, true⟩, ⟨2, .single, true⟩]
  homeSections := [⟨7, .freeToday, true, 2⟩]
  homeSectionItems := [⟨7, .movie, 1, 0, 0⟩]
  freeTodayItems := [⟨1, 0, 0⟩, ⟨2, 1, 0⟩]
  contents_key := by decide
  sections_key := by decide
  items_key := by decide
  legacy_key := by decide

/-- Movie 2 is published and free, but not shown. -/
theorem trimmedRail_free_not_shown :
    ¬ ∀ (db : RailDb) (id : Nat), publishedMovie db id ≠ [] →
      (isFreeToday db id = true ↔ id ∈ (resolveFreeTodayMovies db).map (·.id)) := by
  intro h
  have hfree := (h trimmedRail 2 (by decide)).mp (by decide)
  exact absurd hfree (by decide)

end MovieApi.Catalog
