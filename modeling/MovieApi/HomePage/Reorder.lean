import MovieApi.HomePage.PublicSections
import MovieApi.Sql.Reorder

/-!
# Rails, slides and banners in a new order

`reorder_section_items`, `reorder_hero_items` and `reorder_promotion_banners` take a whole
list of ids or nothing of it.
-/

namespace MovieApi.HomePage

open Publishing (Uuid)
open Sql

/-! ## The requests -/

def HomeSectionItem.place (index : Int) (item : HomeSectionItem) : HomeSectionItem :=
  { item with sortOrder := index }

def HeroFeaturedItem.place (index : Int) (slide : HeroFeaturedItem) : HeroFeaturedItem :=
  { slide with sortOrder := index }

def PromotionBanner.place (index : Int) (banner : PromotionBanner) : PromotionBanner :=
  { banner with sortOrder := index }

/-- The ids of the items of a rail. -/
def Db.railIds (d : Db) (sectionId : Uuid) : List Uuid :=
  (d.items.filter fun item => decide (item.sectionId = sectionId)).map HomeSectionItem.id

/-- `reorder_section_items`. -/
def reorderSectionItems (sectionId : Uuid) (ids : List Uuid) (d : Db) :
    Except ReorderFault Unit × Db :=
  let (result, items) := reorder HomeSectionItem.id HomeSectionItem.place
    "This rail changed. Refresh and try again." (d.railIds sectionId) ids d.items
  (result, { d with items := items })

/-- `reorder_hero_items`; the placements touched. -/
def reorderHeroItems (ids : List Uuid) (d : Db) : Except ReorderFault (Finset String) × Db :=
  let found := d.heroItems.filter fun slide => decide (slide.id ∈ ids)
  let (result, slides) := reorder HeroFeaturedItem.id HeroFeaturedItem.place
    "These slides changed. Refresh and try again." (found.map HeroFeaturedItem.id) ids d.heroItems
  (result.map fun _ => (found.map HeroFeaturedItem.placement).toFinset,
    { d with heroItems := slides })

/-- `reorder_promotion_banners`; the placements touched. -/
def reorderPromotionBanners (ids : List Uuid) (d : Db) :
    Except ReorderFault (Finset String) × Db :=
  let found := d.banners.filter fun banner => decide (banner.id ∈ ids)
  let (result, banners) := reorder PromotionBanner.id PromotionBanner.place
    "These banners changed. Refresh and try again." (found.map PromotionBanner.id) ids d.banners
  (result.map fun _ => (found.map PromotionBanner.placement).toFinset,
    { d with banners := banners })

/-! ## All or nothing -/

/-- The request is refused and leaves everything as it is, or it is carried out. -/
def AllOrNothing {α : Type} (d : Db) (done : Db → Prop) (answer : Except ReorderFault α × Db) :
    Prop :=
  (∃ message, answer = (.error (.valueError message), d)) ∨
    ∃ value d', answer = (.ok value, d') ∧ done d'

/-- The ids are the whole rail, each once, and every listing of it is in their order. -/
structure RailReordered (sectionId : Uuid) (ids : List Uuid) (d d' : Db) : Prop where
  whole : ids.Perm (d.railIds sectionId)
  shown : ∀ l, Answer HomeSectionItem.le
      (d'.items.filter fun item => decide (item.sectionId = sectionId)) l →
    l.map HomeSectionItem.id = ids
  reordered : Reordered HomeSectionItem.id HomeSectionItem.place HomeSectionItem.le ids d.items
    d'.items
  elsewhere : d' = { d with items := d'.items }

structure SlidesReordered (ids : List Uuid) (d d' : Db) : Prop where
  reordered : Reordered HeroFeaturedItem.id HeroFeaturedItem.place HeroFeaturedItem.le ids
    d.heroItems d'.heroItems
  elsewhere : d' = { d with heroItems := d'.heroItems }

structure BannersReordered (ids : List Uuid) (d d' : Db) : Prop where
  reordered : Reordered PromotionBanner.id PromotionBanner.place PromotionBanner.le ids
    d.banners d'.banners
  elsewhere : d' = { d with banners := d'.banners }

theorem newestFirst_sortOrder {a b c e : Int} (h : newestFirst a b c e) : a ≤ c := by
  rcases h with hlt | ⟨heq, -⟩
  · exact hlt.le
  · exact heq.le

/-- The rows of a query have the ids they are found by. -/
theorem exists_of_mem_ids {ρ : Type} {key : ρ → Uuid} {p : ρ → Bool} {rows : List ρ} {id : Uuid}
    (hid : id ∈ (rows.filter p).map key) : ∃ row ∈ rows, key row = id := by
  obtain ⟨row, hrow, rfl⟩ := List.mem_map.1 hid
  exact ⟨row, (List.mem_filter.1 hrow).1, rfl⟩

theorem nodup_railIds {d : Db} (hunique : Sql.Unique HomeSectionItem.id d.items)
    (sectionId : Uuid) : (d.railIds sectionId).Nodup :=
  List.Nodup.sublist (List.filter_sublist.map HomeSectionItem.id) hunique

/-- The rail holds the same items wherever they are placed. -/
theorem railIds_of_columns {d d' : Db} (h : d'.items.map (HomeSectionItem.place 0) =
    d.items.map (HomeSectionItem.place 0)) (sectionId : Uuid) :
    d'.railIds sectionId = d.railIds sectionId := by
  have hrail (d : Db) : d.railIds sectionId = ((d.items.map (HomeSectionItem.place 0)).filter
      fun item => decide (item.sectionId = sectionId)).map HomeSectionItem.id := by
    unfold Db.railIds
    rw [List.filter_map, List.map_map]
    rfl
  rw [hrail d, hrail d', h]

theorem reorderSectionItems_allOrNothing {d : Db} (hunique : Sql.Unique HomeSectionItem.id d.items)
    (sectionId : Uuid) (ids : List Uuid) :
    AllOrNothing d (RailReordered sectionId ids d) (reorderSectionItems sectionId ids d) := by
  have hcases := reorder_cases HomeSectionItem.place HomeSectionItem.le
    HomeSectionItem.sortOrder "This rail changed. Refresh and try again." (d.railIds sectionId) ids
    (fun _ _ => rfl) (fun _ _ => rfl) (fun _ _ => rfl) (fun _ _ => newestFirst_sortOrder) hunique
    fun id hid => exists_of_mem_ids hid
  unfold reorderSectionItems
  rcases hcases with hrefused | ⟨items, hdone, hids, hmem, hreordered⟩
  · rw [hrefused]
    exact .inl ⟨_, rfl⟩
  · rw [hdone]
    refine .inr ⟨(), { d with items := items }, rfl, ?_⟩
    have hrail : ({ d with items := items } : Db).railIds sectionId = d.railIds sectionId :=
      railIds_of_columns hreordered.columns sectionId
    refine ⟨(List.perm_ext_iff_of_nodup hids (nodup_railIds hunique sectionId)).2 hmem, ?_,
      hreordered, rfl⟩
    intro l hl
    refine hreordered.listed_eq hl fun id => ?_
    rw [hmem id, ← hrail]
    exact (hl.perm.map HomeSectionItem.id).mem_iff

theorem reorderHeroItems_allOrNothing {d : Db} (hunique : Sql.Unique HeroFeaturedItem.id d.heroItems)
    (ids : List Uuid) : AllOrNothing d (SlidesReordered ids d) (reorderHeroItems ids d) := by
  have hcases := reorder_cases HeroFeaturedItem.place HeroFeaturedItem.le HeroFeaturedItem.sortOrder
    "These slides changed. Refresh and try again." _ ids
    (fun _ _ => rfl) (fun _ _ => rfl) (fun _ _ => rfl) (fun _ _ => newestFirst_sortOrder) hunique
    fun id hid => exists_of_mem_ids (p := fun slide => decide (slide.id ∈ ids)) hid
  rcases hcases with hrefused | ⟨slides, hdone, -, -, hreordered⟩
  · simp only [reorderHeroItems, hrefused]
    exact .inl ⟨_, rfl⟩
  · simp only [reorderHeroItems, hdone]
    exact .inr ⟨_, { d with heroItems := slides }, rfl, hreordered, rfl⟩

theorem reorderPromotionBanners_allOrNothing {d : Db}
    (hunique : Sql.Unique PromotionBanner.id d.banners) (ids : List Uuid) :
    AllOrNothing d (BannersReordered ids d) (reorderPromotionBanners ids d) := by
  have hcases := reorder_cases PromotionBanner.place PromotionBanner.le PromotionBanner.sortOrder
    "These banners changed. Refresh and try again." _ ids
    (fun _ _ => rfl) (fun _ _ => rfl) (fun _ _ => rfl) (fun _ _ => newestFirst_sortOrder) hunique
    fun id hid => exists_of_mem_ids (p := fun banner => decide (banner.id ∈ ids)) hid
  rcases hcases with hrefused | ⟨banners, hdone, -, -, hreordered⟩
  · simp only [reorderPromotionBanners, hrefused]
    exact .inl ⟨_, rfl⟩
  · simp only [reorderPromotionBanners, hdone]
    exact .inr ⟨_, { d with banners := banners }, rfl, hreordered, rfl⟩

/-- The primary keys of the three tables. -/
structure Db.Keyed (d : Db) : Prop where
  items : Sql.Unique HomeSectionItem.id d.items
  slides : Sql.Unique HeroFeaturedItem.id d.heroItems
  banners : Sql.Unique PromotionBanner.id d.banners

/-- Each of the three takes a whole list of ids or nothing of it. -/
theorem reorder_allOrNothing {d : Db} (hkeyed : d.Keyed) (ids : List Uuid) :
    (∀ sectionId,
      AllOrNothing d (RailReordered sectionId ids d) (reorderSectionItems sectionId ids d)) ∧
    AllOrNothing d (SlidesReordered ids d) (reorderHeroItems ids d) ∧
    AllOrNothing d (BannersReordered ids d) (reorderPromotionBanners ids d) :=
  ⟨fun sectionId => reorderSectionItems_allOrNothing hkeyed.items sectionId ids,
    reorderHeroItems_allOrNothing hkeyed.slides ids,
    reorderPromotionBanners_allOrNothing hkeyed.banners ids⟩

/-- Two picks of one place in the rail change places. -/
def twoPicks : Db :=
  { contents := [], series := [], channels := [], heroItems := [], banners := [],
    freeTodayItems := [], comingSoonItems := [], sections := [],
    items := [⟨1, 7, .movie, 3, 0, 20⟩, ⟨2, 7, .movie, 4, 0, 10⟩] }

theorem twoPicks_keyed : twoPicks.Keyed :=
  ⟨by unfold Sql.Unique; decide, by unfold Sql.Unique; decide, by unfold Sql.Unique; decide⟩

theorem twoPicks_reordered :
    (∀ sectionId, AllOrNothing twoPicks (RailReordered sectionId [2, 1] twoPicks)
      (reorderSectionItems sectionId [2, 1] twoPicks)) ∧
    AllOrNothing twoPicks (SlidesReordered [2, 1] twoPicks) (reorderHeroItems [2, 1] twoPicks) ∧
    AllOrNothing twoPicks (BannersReordered [2, 1] twoPicks)
      (reorderPromotionBanners [2, 1] twoPicks) :=
  reorder_allOrNothing twoPicks_keyed [2, 1]

example : (reorderSectionItems 7 [2, 1] twoPicks).2.items.map HomeSectionItem.sortOrder = [1, 0] := by
  decide

end MovieApi.HomePage
