import MovieApi.HomePage.PublicSections
import MovieApi.HomePage.Uniqueness

/-!
# Picks within the limit

An item is added while there is room, and a limit is lowered no further than
the picks there are.  So the loops of `resolve_public_sections` never leave a
pick out that can be shown.
-/

namespace MovieApi.HomePage

open Catalog (SectionType ItemKind)
open HomeSections (effectiveItemLimit itemKindsByType sectionCaps limitEditable)
open Publishing (Uuid Err notFound unprocessable)
open Sql

/-! ## The invariant -/

structure Db.WithinLimits (d : Db) : Prop where
  keys : Unique HomeSection.id d.sections
  limits : ∀ row ∈ d.sections, LegalLimit row.itemLimit
  /-- every item is on a section that takes its kind -/
  owned : ∀ item ∈ d.items, ∃ row ∈ d.sections,
    row.id = item.sectionId ∧ item.itemKind ∈ itemKindsByType row.type
  counts : ∀ row ∈ d.sections, ∀ limit ∈ row.limit, (d.countSectionItems row.id : Int) ≤ limit

/-- An admin operation on the home page; or another request, after which the
catalogue may be any, and items may be gone with their titles. -/
inductive Step (text : Lowering) (d : Db) : Db → Prop
  | admin (op : Operation) : Step text d (op.run text d)
  | elsewhere (titles : Titles) {items : List HomeSectionItem} :
      items.Sublist d.items → Step text d { titles with sections := d.sections, items := items }

section

variable {text : Lowering} {d d' : Db} {id : Uuid} {f : HomeSection → HomeSection}

/-- The default of every type with a limit. -/
theorem HomeSection.limit_pos {row : HomeSection} (hlegal : LegalLimit row.itemLimit) {limit : Int}
    (h : limit ∈ row.limit) : 1 ≤ limit := by
  have hdefault : ∀ type, ∀ n ∈ sectionCaps type, (1 : Int) ≤ n := by
    intro type
    cases type <;> decide
  unfold HomeSection.limit effectiveItemLimit at h
  split at h
  · next chosen hchosen =>
      split at h
      · obtain rfl : chosen = limit := Option.some.inj h
        exact (hlegal chosen hchosen).1
      · exact hdefault _ limit h
  · exact hdefault _ limit h

/-! ### Items -/

/-- A change to the items that adds none to a section. -/
theorem Db.WithinLimits.of_items (hd : d.WithinLimits) (hsections : d'.sections = d.sections)
    (howned : ∀ item ∈ d'.items, ∃ old ∈ d.items,
      old.sectionId = item.sectionId ∧ old.itemKind = item.itemKind)
    (hcount : ∀ sectionId, d'.countSectionItems sectionId ≤ d.countSectionItems sectionId) :
    d'.WithinLimits where
  keys := by
    rw [hsections]
    exact hd.keys
  limits := by
    rw [hsections]
    exact hd.limits
  owned item hitem := by
    obtain ⟨old, hold, hsection, hkind⟩ := howned item hitem
    obtain ⟨row, hrow, hid, hallowed⟩ := hd.owned old hold
    rw [hsections]
    exact ⟨row, hrow, hid.trans hsection, hkind ▸ hallowed⟩
  counts row hrow limit hlimit := by
    rw [hsections] at hrow
    have hle := hd.counts row hrow limit hlimit
    have := hcount row.id
    omega

theorem Db.WithinLimits.sublist (hd : d.WithinLimits) (hsections : d'.sections = d.sections)
    (hsub : d'.items.Sublist d.items) : d'.WithinLimits :=
  hd.of_items hsections (fun item hitem => ⟨item, hsub.subset hitem, rfl, rfl⟩)
    fun _ => hsub.countP_le

theorem Db.WithinLimits.placeItem (hd : d.WithinLimits) (id : Uuid) (place : Int) :
    (d.placeItem id place).WithinLimits := by
  refine hd.of_items rfl (fun item hitem => ?_) fun sectionId => ?_
  · obtain ⟨old, hold, rfl⟩ := mem_modify.1 hitem
    refine ⟨old, hold, ?_⟩
    split <;> exact ⟨rfl, rfl⟩
  · refine countP_modify_le fun item _ _ h => h

theorem Db.WithinLimits.createItem (hd : d.WithinLimits) {item : HomeSectionItem}
    (h : createHomeSectionItem item d = .ok d') : d'.WithinLimits := by
  obtain ⟨row, hrow, hvalid, rfl⟩ := createHomeSectionItem_eq h
  have hid : row.id = item.sectionId := key_of_lookup hrow
  unfold validateItemAdd at hvalid
  split at hvalid
  · cases hvalid
  next hkind =>
  split at hvalid
  · cases hvalid
  split at hvalid
  · cases hvalid
  refine ⟨hd.keys, hd.limits, fun other hother => ?_, fun other hother limit hlimit => ?_⟩
  · rcases List.mem_append.1 hother with hother | hother
    · exact hd.owned other hother
    · rw [List.mem_singleton] at hother
      subst hother
      exact ⟨row, mem_of_lookup hrow, hid, not_not.1 hkind⟩
  · have hle := hd.counts other hother limit hlimit
    have hcount : ({ d with items := d.items ++ [item] } : Db).countSectionItems other.id =
        d.countSectionItems other.id + if item.sectionId = other.id then 1 else 0 := by
      simp [Db.countSectionItems, List.countP_append, List.countP_singleton]
    rw [hcount]
    by_cases hother' : item.sectionId = other.id
    · -- this is the section that still has room
      have hfound := lookup_of_mem hd.keys hother
      rw [← hother'] at hfound
      obtain rfl : row = other := Option.some.inj (hrow.symm.trans hfound)
      rw [Option.mem_def] at hlimit
      rw [hlimit] at hvalid
      dsimp only at hvalid
      split at hvalid
      · cases hvalid
      · next hroom =>
          rw [if_pos hother']
          push_cast
          omega
    · rw [if_neg hother']
      simpa using hle

/-! ### Sections -/

/-- An update of one section that leaves room for its items. -/
theorem Db.WithinLimits.update (hd : d.WithinLimits) (hid : ∀ row, (f row).id = row.id)
    (htype : ∀ row, (f row).type = row.type)
    (hlegal : ∀ row ∈ d.sections, row.id = id → LegalLimit (f row).itemLimit)
    (hroom : ∀ row ∈ d.sections, row.id = id → ∀ limit ∈ (f row).limit,
      (d.countSectionItems id : Int) ≤ limit) : (d.updateSection id f).WithinLimits where
  keys := Db.updateSection_keys hd.keys id f hid
  limits row hrow := by
    obtain ⟨old, hold, rfl⟩ := mem_modify.1 hrow
    split
    · next h => exact hlegal old hold h
    · exact hd.limits old hold
  owned item hitem := by
    obtain ⟨row, hrow, howner, hallowed⟩ := hd.owned item hitem
    refine ⟨if row.id = id then f row else row, mem_modify.2 ⟨row, hrow, rfl⟩, ?_⟩
    split
    · exact ⟨(hid row).trans howner, (htype row).symm ▸ hallowed⟩
    · exact ⟨howner, hallowed⟩
  counts row hrow limit hlimit := by
    obtain ⟨old, hold, rfl⟩ := mem_modify.1 hrow
    by_cases h : old.id = id
    · simp only [if_pos h, hid] at hlimit ⊢
      rw [h]
      exact hroom old hold h limit hlimit
    · simp only [if_neg h] at hlimit ⊢
      exact hd.counts old hold limit hlimit

theorem Db.WithinLimits.createSection (hd : d.WithinLimits) {now : Instant}
    {data : HomeSectionCreate} (h : createHomeSection text id now data d = .ok d') :
    d'.WithinLimits := by
  obtain ⟨hfree, row, rfl, hdefault, rfl⟩ := createHomeSection_eq h
  have hlegal : LegalLimit row.itemLimit := by
    rw [hdefault]
    intro n hn
    cases hn
  have hnone : d.countSectionItems row.id = 0 := by
    refine List.countP_eq_zero.2 fun item hitem hsection => ?_
    obtain ⟨old, hold, hid, -⟩ := hd.owned item hitem
    exact lookup_eq_none.1 hfree old hold (hid.trans (of_decide_eq_true hsection))
  refine ⟨hd.keys.append hfree, fun other hother => ?_, fun item hitem => ?_,
    fun other hother limit hlimit => ?_⟩
  · rcases List.mem_append.1 hother with hother | hother
    · exact hd.limits other hother
    · rw [List.mem_singleton] at hother
      exact hother ▸ hlegal
  · obtain ⟨old, hold, howner⟩ := hd.owned item hitem
    exact ⟨old, List.mem_append_left _ hold, howner⟩
  · rcases List.mem_append.1 hother with hother | hother
    · exact hd.counts other hother limit hlimit
    · rw [List.mem_singleton] at hother
      subst hother
      have hpos := HomeSection.limit_pos hlegal hlimit
      have hcount : ({ d with sections := d.sections ++ [other] } : Db).countSectionItems
        other.id = 0 := hnone
      omega

theorem Db.WithinLimits.editSection (hd : d.WithinLimits) {data : HomeSectionUpdate}
    (h : updateHomeSection id data d = .ok d') : d'.WithinLimits := by
  obtain ⟨row, limit, hrow, rfl | ⟨hlegal, hvalid, rfl⟩⟩ := updateHomeSection_cases h
  · refine hd.update (fun _ => rfl) (fun _ => rfl) (fun old hold _ => hd.limits old hold)
      fun old hold hid limit hlimit => hid ▸ hd.counts old hold limit hlimit
  · refine hd.update (fun _ => rfl) (fun _ => rfl) (fun _ _ _ => hlegal)
      fun old hold hid wanted hwanted => ?_
    have hfound : d.section? id = some old := hid ▸ lookup_of_mem hd.keys hold
    obtain rfl : row = old := Option.some.inj (hrow.symm.trans hfound)
    have hwanted : effectiveItemLimit row.type limit = some wanted := hwanted
    unfold validateItemLimit at hvalid
    split at hvalid
    · cases hvalid
    · have htype : (row.edited data).type = row.type := rfl
      rw [htype, hwanted] at hvalid
      dsimp only at hvalid
      split at hvalid
      · cases hvalid
      · next hroom =>
          have hcount : d.countSectionItems (row.edited data).id = d.countSectionItems id := by
            rw [← hid]
            rfl
          omega

theorem Db.WithinLimits.deleteSection (hd : d.WithinLimits)
    (h : deleteHomeSection id d = .ok d') : d'.WithinLimits := by
  rw [deleteHomeSection_eq h]
  refine ⟨hd.keys.remove, fun row hrow => hd.limits row (mem_remove.1 hrow).1,
    fun item hitem => ?_, fun row hrow limit hlimit => ?_⟩
  · obtain ⟨hitem, hstays⟩ := List.mem_filter.1 hitem
    obtain ⟨row, hrow, howner, hallowed⟩ := hd.owned item hitem
    refine ⟨row, mem_remove.2 ⟨hrow, ?_⟩, howner, hallowed⟩
    rw [howner]
    exact of_decide_eq_true hstays
  · have hle := hd.counts row (mem_remove.1 hrow).1 limit hlimit
    have hsub := (List.filter_sublist (l := d.items)
      (p := fun item => decide (item.sectionId ≠ id))).countP_le
        (p := fun item => decide (item.sectionId = row.id))
    simp only [Db.countSectionItems] at hle ⊢
    omega

/-- One step. -/
theorem Step.withinLimits (h : Step text d d') (hd : d.WithinLimits) : d'.WithinLimits := by
  cases h with
  | elsewhere titles hsub => exact hd.sublist rfl hsub
  | admin op =>
      unfold Operation.run
      cases h : op.handle text d with
      | error err => exact hd
      | ok d' =>
          cases op with
          | createSection id now data => exact hd.createSection h
          | updateSection id data => exact hd.editSection h
          | reorderSections ids =>
              refine reorderSections_induction (P := Db.WithinLimits) (fun d id place hd => ?_) h hd
              exact hd.update (fun _ => rfl) (fun _ => rfl) (fun row hrow _ => hd.limits row hrow)
                fun row hrow hid limit hlimit => hid ▸ hd.counts row hrow limit hlimit
          | deleteSection id => exact hd.deleteSection h
          | createItem item => exact hd.createItem h
          | updateItem id sortOrder =>
              have h : updateHomeSectionItem id sortOrder d = .ok d' := h
              unfold updateHomeSectionItem at h
              split at h
              · cases h
                exact hd.placeItem id sortOrder
              · cases h
          | reorderItems sectionId ids =>
              exact reorderHomeSectionItems_induction (P := Db.WithinLimits)
                (fun _ id place hd => hd.placeItem id place) h hd
          | deleteItem id =>
              have h : deleteHomeSectionItem id d = .ok d' := h
              unfold deleteHomeSectionItem at h
              split at h
              · cases h
                exact hd.sublist rfl List.filter_sublist
              · cases h

end

/-! ## What can be shown -/

/-- The title or channel an item names exists and is published. -/
def Titles.resolvable (d : Titles) (item : HomeSectionItem) : Bool :=
  match item.itemKind with
  | .movie => (d.movie? item.refId).isSome
  | .series => (d.series? item.refId).isSome
  | .tvChannel => (d.channel? item.refId).isSome
  | _ => false

/-- What the item is shown as, for items of one kind. -/
def ofKind {α : Type} (kind : ItemKind) (show? : Uuid → Option α) (item : HomeSectionItem) :
    Option α :=
  if item.itemKind = kind then show? item.refId else none

/-- The section with every pick that can be shown, in the admin's order. -/
def Db.shown (d : Db) (row : HomeSection) : HomeSectionPublic :=
  { row.payload with
    movies := (d.picks row.id).filterMap (ofKind .movie d.movie?)
    series := (d.picks row.id).filterMap (ofKind .series d.series?)
    channels := (d.picks row.id).filterMap (ofKind .tvChannel d.channel?) }

/-- The types whose picks are titles or channels that a visitor can open. -/
def pickable (type : SectionType) : Bool :=
  match type with
  | .tv | .series | .freeToday | .trending | .mostWatched | .genre | .custom => true
  | _ => false

/-- How many entries a section shows. -/
def HomeSectionPublic.entries (page : HomeSectionPublic) : Nat :=
  page.movies.length + page.series.length + page.channels.length + page.heroSlides.length +
    page.banners.length

section

variable {d : Db} {row : HomeSection} {cap : Option Int} {α : Type}
  {show? : HomeSectionItem → Option α} {rows : List HomeSectionItem} {shown : List α}

/-! ### The loops -/

theorem full_eq_true {count : Nat} : full cap count = true ↔ ∃ c ∈ cap, c ≤ (count : Int) := by
  cases cap <;> simp [full]

/-- A loop with room for every pick lists them all. -/
theorem collect_eq (h : ∀ c ∈ cap, ((shown.length + rows.length : Nat) : Int) ≤ c) :
    collect cap show? rows shown = shown ++ rows.filterMap show? := by
  induction rows generalizing shown with
  | nil => simp [collect]
  | cons item rows ih =>
      unfold collect
      cases hshow : show? item with
      | none =>
          rw [List.filterMap_cons_none hshow]
          refine ih fun c hc => ?_
          have := h c hc
          simp only [List.length_cons] at this
          omega
      | some entry =>
          rw [List.filterMap_cons_some hshow]
          dsimp only
          split
          · next hfull =>
              -- full means that this was the last pick
              obtain ⟨c, hc, hle⟩ := full_eq_true.1 hfull
              have := h c hc
              simp only [List.length_append, List.length_cons, List.length_nil] at this hle
              obtain rfl : rows = [] := List.length_eq_zero_iff.1 (by omega)
              rfl
          · rw [ih fun c hc => ?_]
            · simp
            · have := h c hc
              simp only [List.length_append, List.length_cons, List.length_nil] at this ⊢
              omega

theorem collect_length_le {c : Int} (hc : c ∈ cap) (h : (shown.length : Int) < c) :
    ((collect cap show? rows shown).length : Int) ≤ c := by
  induction rows generalizing shown with
  | nil => exact h.le
  | cons item rows ih =>
      unfold collect
      cases show? item with
      | none => exact ih h
      | some entry =>
          dsimp only
          split
          · simp only [List.length_append, List.length_cons, List.length_nil]
            omega
          · next hroom =>
              refine ih (not_le.1 fun hle => hroom (full_eq_true.2 ⟨c, hc, hle⟩))

variable {movieOf : Uuid → Option Movie} {seriesOf : Uuid → Option Series}
  {movies : List Movie} {series : List Series}

/-- What the loop over titles does with one pick. -/
theorem collectTitles_cons (item : HomeSectionItem) :
    collectTitles cap (fun item => movieOf item.refId) (fun item => seriesOf item.refId)
        (item :: rows) movies series =
      let movie? := ofKind .movie movieOf item
      let entry? := ofKind .series seriesOf item
      let skipped := (item.itemKind = .movie ∧ movie? = none) ∨
        (item.itemKind = .series ∧ entry? = none)
      let movies := movies ++ movie?.toList
      let series := series ++ entry?.toList
      if ¬ skipped ∧ full cap (movies.length + series.length) then (movies, series)
      else collectTitles cap (fun item => movieOf item.refId) (fun item => seriesOf item.refId)
        rows movies series := by
  conv_lhs => unfold collectTitles
  cases hkind : item.itemKind with
  | movie => cases hmovie : movieOf item.refId <;> simp [ofKind, hkind, hmovie]
  | series => cases hentry : seriesOf item.refId <;> simp [ofKind, hkind, hentry]
  | _ => simp [ofKind, hkind]

theorem filterMap_cons_toList {β : Type} (f : HomeSectionItem → Option β) (item : HomeSectionItem)
    (rows : List HomeSectionItem) :
    (item :: rows).filterMap f = (f item).toList ++ rows.filterMap f := by
  cases h : f item <;> simp [h]

/-- An item is of one kind at most. -/
theorem ofKind_toList_length (item : HomeSectionItem) :
    (ofKind .movie movieOf item).toList.length + (ofKind .series seriesOf item).toList.length ≤ 1 := by
  by_cases hmovie : item.itemKind = .movie
  · cases h : movieOf item.refId <;> simp [ofKind, hmovie, h]
  · cases h : seriesOf item.refId <;> by_cases hseries : item.itemKind = .series <;>
      simp [ofKind, hmovie, hseries, h]

theorem collectTitles_eq (h : ∀ c ∈ cap,
      ((movies.length + series.length + rows.length : Nat) : Int) ≤ c) :
    collectTitles cap (fun item => movieOf item.refId) (fun item => seriesOf item.refId)
        rows movies series =
      (movies ++ rows.filterMap (ofKind .movie movieOf),
        series ++ rows.filterMap (ofKind .series seriesOf)) := by
  induction rows generalizing movies series with
  | nil => simp [collectTitles]
  | cons item rows ih =>
      rw [collectTitles_cons, filterMap_cons_toList, filterMap_cons_toList]
      dsimp only
      have hone : (ofKind .movie movieOf item).toList.length +
          (ofKind .series seriesOf item).toList.length ≤ 1 := ofKind_toList_length item
      split
      · next hfull =>
          -- full means that this was the last pick
          obtain ⟨c, hc, hle⟩ := full_eq_true.1 hfull.2
          have := h c hc
          simp only [List.length_append, List.length_cons] at this hle
          obtain rfl : rows = [] := List.length_eq_zero_iff.1 (by omega)
          simp
      · rw [ih fun c hc => ?_]
        · simp
        · have := h c hc
          simp only [List.length_append, List.length_cons] at this ⊢
          omega

theorem collectTitles_length_le {c : Int} (hc : c ∈ cap)
    (h : ((movies.length + series.length : Nat) : Int) < c) :
    let listed := collectTitles cap (fun item => movieOf item.refId)
      (fun item => seriesOf item.refId) rows movies series
    ((listed.1.length + listed.2.length : Nat) : Int) ≤ c := by
  induction rows generalizing movies series with
  | nil => exact h.le
  | cons item rows ih =>
      rw [collectTitles_cons]
      dsimp only
      have hone : (ofKind .movie movieOf item).toList.length +
          (ofKind .series seriesOf item).toList.length ≤ 1 := ofKind_toList_length item
      split
      · simp only [List.length_append]
        omega
      · next hroom =>
          refine ih ?_
          by_cases hskipped : (item.itemKind = .movie ∧ ofKind .movie movieOf item = none) ∨
              (item.itemKind = .series ∧ ofKind .series seriesOf item = none)
          · have hnothing : ofKind .movie movieOf item = none ∧ ofKind .series seriesOf item = none := by
              rcases hskipped with ⟨hkind, hnone⟩ | ⟨hkind, hnone⟩
              · exact ⟨hnone, by simp [ofKind, hkind]⟩
              · exact ⟨by simp [ofKind, hkind], hnone⟩
            simpa [hnothing.1, hnothing.2] using h
          · exact not_le.1 fun hle => hroom ⟨hskipped, full_eq_true.2 ⟨c, hc, hle⟩⟩

/-! ### The pages -/

theorem mem_picks {item : HomeSectionItem} {sectionId : Uuid} :
    item ∈ d.picks sectionId ↔ item ∈ d.items ∧ item.sectionId = sectionId := by
  simp [Db.picks]

theorem picks_length (d : Db) (sectionId : Uuid) :
    (d.picks sectionId).length = d.countSectionItems sectionId := by
  unfold Db.picks Db.countSectionItems
  rw [(orderBy_perm _ _).length_eq, List.countP_eq_length_filter]

theorem mem_visibleSections : row ∈ d.visibleSections ↔ row ∈ d.sections ∧ row.isVisible = true := by
  simp [Db.visibleSections]

/-- The rows that the picks of a visible section name are loaded. -/
theorem loaded_of_pick {item : HomeSectionItem} (hrow : row ∈ d.visibleSections)
    (hitem : item ∈ d.picks row.id) : d.loaded item.itemKind item.refId = true := by
  obtain ⟨hmem, hsection⟩ := mem_picks.1 hitem
  refine List.any_eq_true.2 ⟨item, hmem, ?_⟩
  simp only [decide_true, and_self, Bool.true_and, List.any_eq_true, decide_eq_true_eq]
  exact ⟨row, hrow, hsection.symm⟩

/-- Looking the picks of one kind up among the loaded rows. -/
theorem filterMap_loaded {kind : ItemKind} {show? loaded? : Uuid → Option α}
    (hloaded : ∀ refId, loaded? refId = if d.loaded kind refId then show? refId else none)
    (hrow : row ∈ d.visibleSections) :
    (d.picks row.id).filterMap (ofKind kind loaded?) =
      (d.picks row.id).filterMap (ofKind kind show?) := by
  refine List.filterMap_congr fun item hitem => ?_
  unfold ofKind
  split
  · next hkind =>
      rw [hloaded, ← hkind, loaded_of_pick hrow hitem]
      rfl
  · rfl

theorem filterMap_of_kind {kind : ItemKind} {show? : Uuid → Option α}
    (h : ∀ item ∈ rows, item.itemKind = kind) :
    rows.filterMap (fun item => show? item.refId) = rows.filterMap (ofKind kind show?) := by
  refine List.filterMap_congr fun item hitem => ?_
  rw [ofKind, if_pos (h item hitem)]

theorem filterMap_of_other {kind : ItemKind} {show? : Uuid → Option α}
    (h : ∀ item ∈ rows, item.itemKind ≠ kind) : rows.filterMap (ofKind kind show?) = [] := by
  rw [List.filterMap_eq_nil_iff]
  intro item hitem
  rw [ofKind, if_neg (h item hitem)]

theorem sliceTo_length_le {stop : Int} (h : 1 ≤ stop) (entries : List α) :
    ((sliceTo stop entries).length : Int) ≤ stop := by
  unfold sliceTo
  rw [if_neg (by omega), List.length_take]
  omega

theorem sliceTo_eq_self {stop : Int} {entries : List α} (h : (entries.length : Int) ≤ stop) :
    sliceTo stop entries = entries := by
  unfold sliceTo
  rw [if_neg (by omega), List.take_of_length_le (by omega)]

theorem sliceTo_length_le_length (stop : Int) (entries : List α) :
    (sliceTo stop entries).length ≤ entries.length := by
  unfold sliceTo
  split <;> simp

theorem capOr_eq {c : Int} (hcap : cap = some c) (h : 1 ≤ c) (default : Int) :
    capOr cap default = c := by
  rw [hcap, capOr, if_neg (by omega)]

/-- A section that lists titles. -/
def lists (type : SectionType) : Bool :=
  match type with
  | .freeToday | .trending | .mostWatched | .comingSoon | .genre | .custom => true
  | _ => false

/-- What a section that lists titles shows. -/
theorem resolveSection_titles {now : Instant} (htype : lists row.type = true) :
    d.resolveSection now row =
      let titles := collectTitles row.limit (fun item => d.moviesById item.refId)
        (fun item => d.seriesById item.refId) (d.picks row.id) [] []
      let movies := if titles.1 = [] ∧ titles.2 = [] then d.autoFill row.type row.limit
        else titles.1
      { row.payload with
        movies := match row.limit with
          | none => movies
          | some cap => sliceTo cap movies
        series := titles.2 } := by
  unfold Db.resolveSection
  cases h : row.type <;> first | rfl | simp [lists, h] at htype

theorem picks_kind (hd : d.WithinLimits) (hrow : row ∈ d.sections) :
    ∀ item ∈ d.picks row.id, item.itemKind ∈ itemKindsByType row.type := by
  intro item hitem
  obtain ⟨hmem, hsection⟩ := mem_picks.1 hitem
  obtain ⟨other, hother, hid, hallowed⟩ := hd.owned item hmem
  have hfound := lookup_of_mem hd.keys hother
  rw [hid, hsection, lookup_of_mem hd.keys hrow] at hfound
  exact Option.some.inj hfound ▸ hallowed

theorem picks_room (hd : d.WithinLimits) (hrow : row ∈ d.sections) :
    ∀ c ∈ row.limit, ((d.picks row.id).length : Int) ≤ c := by
  intro c hc
  rw [picks_length]
  exact hd.counts row hrow c hc

/-- A pick that can be shown is among the shown ones of its kind. -/
theorem filterMap_ne_nil {kind : ItemKind} {show? : Uuid → Option α} {item : HomeSectionItem}
    (hitem : item ∈ rows) (hkind : item.itemKind = kind) (hshow : (show? item.refId).isSome = true) :
    rows.filterMap (ofKind kind show?) ≠ [] := by
  intro hnil
  have hnone := List.filterMap_eq_nil_iff.1 hnil item hitem
  rw [ofKind, if_pos hkind] at hnone
  rw [hnone] at hshow
  simp at hshow

/-- A section of one kind of picks, some of which can be shown. -/
theorem collect_picks {kind : ItemKind} {show? loaded? : Uuid → Option α} (hd : d.WithinLimits)
    (hrow : row ∈ d.visibleSections) (hkinds : itemKindsByType row.type = [kind])
    (hloaded : ∀ refId, loaded? refId = if d.loaded kind refId then show? refId else none) :
    collect row.limit (fun item => loaded? item.refId) (d.picks row.id) [] =
      (d.picks row.id).filterMap (ofKind kind show?) := by
  have hmem := (mem_visibleSections.1 hrow).1
  have hkind : ∀ item ∈ d.picks row.id, item.itemKind = kind := fun item hitem => by
    simpa [hkinds] using picks_kind hd hmem item hitem
  rw [collect_eq (by simpa using picks_room hd hmem), List.nil_append, filterMap_of_kind hkind,
    filterMap_loaded hloaded hrow]

/-- A section shows exactly its picks that can be shown, if there are any. -/
theorem resolveSection_eq_shown (hd : d.WithinLimits) (now : Instant)
    (hrow : row ∈ d.visibleSections) (htype : pickable row.type = true) {item : HomeSectionItem}
    (hitem : item ∈ d.picks row.id) (hresolvable : d.resolvable item = true) :
    d.resolveSection now row = d.shown row := by
  have hmem := (mem_visibleSections.1 hrow).1
  have hkind := picks_kind hd hmem
  by_cases hlists : lists row.type = true
  · have htitles : collectTitles row.limit (fun item => d.moviesById item.refId)
        (fun item => d.seriesById item.refId) (d.picks row.id) [] [] =
          ((d.picks row.id).filterMap (ofKind .movie d.movie?),
            (d.picks row.id).filterMap (ofKind .series d.series?)) := by
      have hmovies : (d.picks row.id).filterMap (ofKind .movie d.moviesById) =
          (d.picks row.id).filterMap (ofKind .movie d.movie?) :=
        filterMap_loaded (fun _ => rfl) hrow
      have hseries : (d.picks row.id).filterMap (ofKind .series d.seriesById) =
          (d.picks row.id).filterMap (ofKind .series d.series?) :=
        filterMap_loaded (fun _ => rfl) hrow
      rw [collectTitles_eq (by simpa using picks_room hd hmem), hmovies, hseries]
      rfl
    have hchannels : (d.picks row.id).filterMap (ofKind .tvChannel d.channel?) = [] := by
      refine filterMap_of_other fun item hitem hchannel => ?_
      have := hkind item hitem
      rw [hchannel] at this
      revert hlists this
      cases row.type <;> decide
    have hsome : ¬ ((d.picks row.id).filterMap (ofKind .movie d.movie?) = [] ∧
        (d.picks row.id).filterMap (ofKind .series d.series?) = []) := by
      intro hnone
      unfold Titles.resolvable at hresolvable
      cases h : item.itemKind <;> rw [h] at hresolvable <;> dsimp only at hresolvable
      case movie => exact filterMap_ne_nil hitem h hresolvable hnone.1
      case series => exact filterMap_ne_nil hitem h hresolvable hnone.2
      case tvChannel =>
        have := filterMap_ne_nil hitem h hresolvable
        exact this hchannels
      all_goals simp at hresolvable
    rw [resolveSection_titles hlists, htitles]
    dsimp only
    rw [if_neg hsome, Db.shown, hchannels]
    have hslice : (match row.limit with
        | none => (d.picks row.id).filterMap (ofKind .movie d.movie?)
        | some cap => sliceTo cap ((d.picks row.id).filterMap (ofKind .movie d.movie?))) =
          (d.picks row.id).filterMap (ofKind .movie d.movie?) := by
      cases hlimit : row.limit with
      | none => rfl
      | some cap =>
          have hle : ((d.picks row.id).filterMap (ofKind .movie d.movie?)).length ≤
              (d.picks row.id).length := List.length_filterMap_le _ _
          have hroom := picks_room hd hmem cap hlimit
          have hall : (((d.picks row.id).filterMap (ofKind .movie d.movie?)).length : Int) ≤ cap := by
            omega
          exact sliceTo_eq_self hall
    rw [hslice]
    rfl
  · have hone : row.type = .tv ∨ row.type = .series := by
      revert hlists htype
      cases row.type <;> simp [lists, pickable]
    have hother (kind : ItemKind) (hkinds : itemKindsByType row.type = [kind]) {β : Type}
        {show? : Uuid → Option β} {other : ItemKind} (hne : kind ≠ other) :
        (d.picks row.id).filterMap (ofKind other show?) = [] := by
      refine filterMap_of_other fun item hitem h => hne ?_
      have := hkind item hitem
      rw [hkinds, List.mem_singleton] at this
      exact this.symm.trans h
    rcases hone with h | h
    · have hkinds : itemKindsByType row.type = [.tvChannel] := by
        rw [h]
        rfl
      have hitemKind : item.itemKind = .tvChannel := by simpa [hkinds] using hkind item hitem
      have hsome : (d.picks row.id).filterMap (ofKind .tvChannel d.channel?) ≠ [] :=
        filterMap_ne_nil hitem hitemKind
          (by simpa [Titles.resolvable, hitemKind] using hresolvable)
      have hpicked : collect row.limit (fun item => d.channelsById item.refId) (d.picks row.id) [] =
          (d.picks row.id).filterMap (ofKind .tvChannel d.channel?) :=
        collect_picks hd hrow hkinds fun _ => rfl
      have hmovies : (d.picks row.id).filterMap (ofKind .movie d.movie?) = [] :=
        hother _ hkinds (by decide)
      have hseries : (d.picks row.id).filterMap (ofKind .series d.series?) = [] :=
        hother _ hkinds (by decide)
      simp only [Db.resolveSection, h]
      rw [hpicked, if_neg hsome, Db.shown, hmovies, hseries]
      rfl
    · have hkinds : itemKindsByType row.type = [.series] := by
        rw [h]
        rfl
      have hitemKind : item.itemKind = .series := by simpa [hkinds] using hkind item hitem
      have hsome : (d.picks row.id).filterMap (ofKind .series d.series?) ≠ [] :=
        filterMap_ne_nil hitem hitemKind
          (by simpa [Titles.resolvable, hitemKind] using hresolvable)
      have hpicked : collect row.limit (fun item => d.seriesById item.refId) (d.picks row.id) [] =
          (d.picks row.id).filterMap (ofKind .series d.series?) :=
        collect_picks hd hrow hkinds fun _ => rfl
      have hmovies : (d.picks row.id).filterMap (ofKind .movie d.movie?) = [] :=
        hother _ hkinds (by decide)
      have hchannels : (d.picks row.id).filterMap (ofKind .tvChannel d.channel?) = [] :=
        hother _ hkinds (by decide)
      simp only [Db.resolveSection, h]
      rw [hpicked, if_neg hsome, Db.shown, hmovies, hchannels]
      rfl

/-- No section shows more than its limit. -/
theorem resolveSection_entries_le (hd : d.WithinLimits) (now : Instant) (hrow : row ∈ d.sections)
    {limit : Int} (hlimit : limit ∈ row.limit) :
    ((d.resolveSection now row).entries : Int) ≤ limit := by
  have hpos : 1 ≤ limit := HomeSection.limit_pos (hd.limits row hrow) hlimit
  have hcap : row.limit = some limit := hlimit
  have hcollect {β : Type} (show? : HomeSectionItem → Option β) :
      ((collect row.limit show? (d.picks row.id) []).length : Int) ≤ limit :=
    collect_length_le hlimit (by simpa using by omega)
  by_cases hlists : lists row.type = true
  · have hzero : ((([] : List Movie).length + ([] : List Series).length : Nat) : Int) < limit := by
      simp only [List.length_nil]
      omega
    have htitles := @collectTitles_length_le row.limit (d.picks row.id) d.moviesById d.seriesById
      [] [] limit hlimit hzero
    rw [resolveSection_titles hlists]
    dsimp only at htitles ⊢
    simp only [hcap, HomeSectionPublic.entries, HomeSection.payload, List.length_nil, Nat.add_zero]
    rw [hcap] at htitles
    split
    · next hnone =>
        rw [hnone.2]
        simpa using sliceTo_length_le hpos _
    · refine le_trans ?_ htitles
      push_cast
      have := sliceTo_length_le_length limit (collectTitles (some limit)
        (fun item => d.moviesById item.refId) (fun item => d.seriesById item.refId)
        (d.picks row.id) [] []).1
      omega
  · cases htype : row.type <;> simp only [htype, lists, reduceCtorEq, not_true_eq_false,
      not_false_eq_true] at hlists <;>
      simp only [Db.resolveSection, htype, HomeSectionPublic.entries, HomeSection.payload,
        List.length_nil, Nat.add_zero, Nat.zero_add]
    case plans => omega
    case hero =>
      rw [capOr_eq hcap hpos]
      exact sliceTo_length_le hpos _
    case banners =>
      rw [capOr_eq hcap hpos]
      exact sliceTo_length_le hpos _
    case tv =>
      split
      · rw [capOr_eq hcap hpos, List.length_take]
        omega
      · exact hcollect _
    case series =>
      split
      · rw [capOr_eq hcap hpos, List.length_take]
        omega
      · exact hcollect _

end

/-! ## Runs -/

/-- What the home page shows of a section. -/
structure Faithful (d : Db) (row : HomeSection) (page : HomeSectionPublic) : Prop where
  shown : pickable row.type = true →
    (∃ item ∈ d.items, item.sectionId = row.id ∧ d.resolvable item = true) → page = d.shown row
  entries : ∀ limit ∈ row.limit, (page.entries : Int) ≤ limit

namespace Landing

def db : Db := { Rails.db with
  contents := [⟨7, .single, true, none, 0⟩], sections := [Rails.rail 1 "Action"] }

def pick : Operation := .createItem ⟨5, 1, .movie, 7, 0, 0⟩

def page : Db := pick.run Rails.text db

end Landing

end MovieApi.HomePage
