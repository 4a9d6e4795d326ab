import MovieApi.HomePage.Links

/-!
# The schedule of the banners

A banners section without a banner to show falls back on `list_active_promotion_banners`,
which looks at the dates.  The picks of an admin are only asked whether they are active.
-/

namespace MovieApi.HomePage

open Catalog (SectionType)
open Publishing (Uuid)
open Sql

/-- What `list_active_promotion_banners` asks of a banner besides its placement. -/
def PromotionBanner.inWindow (now : Instant) (banner : PromotionBanner) : Bool :=
  banner.isActive && showing now banner.startsAt banner.endsAt

/-- The picks of a section that are active banners. -/
def Db.activePicks (d : Db) (row : HomeSection) : List PromotionBanner :=
  (d.picks row.id).filterMap fun item => (d.bannersById item.refId).filter (·.isActive)

section

variable {α : Type} {show? : HomeSectionItem → Option α} {rows : List HomeSectionItem}
  {shown : List α}

/-- With a limit the loop keeps the first picks that can be shown. -/
theorem collect_eq_take {limit : Nat} (h : shown.length < limit) :
    collect (some (limit : Int)) show? rows shown = (shown ++ rows.filterMap show?).take limit := by
  induction rows generalizing shown with
  | nil =>
      rw [List.filterMap_nil, List.append_nil, List.take_of_length_le h.le]
      rfl
  | cons item rows ih =>
      unfold collect
      cases hpicked : show? item with
      | none =>
          rw [List.filterMap_cons_none hpicked]
          exact ih h
      | some picked =>
          rw [List.filterMap_cons_some hpicked, List.append_cons]
          have hlength : (shown ++ [picked]).length = shown.length + 1 := List.length_append
          dsimp only
          split
          · next hfull =>
              obtain ⟨c, hc, hle⟩ := full_eq_true.1 hfull
              obtain rfl : (limit : Int) = c := Option.some.inj hc
              have hlast : (shown ++ [picked]).length = limit := by omega
              rw [← hlast, List.take_left]
          · next hroom =>
              refine ih ?_
              by_contra hle
              exact hroom (full_eq_true.2 ⟨limit, rfl, by omega⟩)

end

section

variable {d : Db} {now : Instant} {row : HomeSection} {banner : PromotionBanner}

/-- The limit of a banners section cannot be chosen. -/
theorem limit_banners (htype : row.type = .banners) : row.limit = some (10 : Nat) := by
  unfold HomeSection.limit
  rw [htype]
  cases row.itemLimit with
  | none => rfl
  | some limit => rfl

theorem resolveSection_banners (htype : row.type = .banners) :
    (d.resolveSection now row).banners =
      if d.activePicks row = [] then (d.listActivePromotionBanners now "home").take 10
      else (d.activePicks row).take 10 := by
  have hpicked : collect row.limit (fun item => (d.bannersById item.refId).filter (·.isActive))
      (d.picks row.id) [] = (d.activePicks row).take 10 := by
    rw [limit_banners htype]
    exact collect_eq_take (by decide)
  have hnone : (d.activePicks row).take 10 = [] ↔ d.activePicks row = [] := by
    rw [List.take_eq_nil_iff, or_iff_right (by decide)]
  have hslice (banners : List PromotionBanner) :
      sliceTo (capOr row.limit banners.length) banners = banners.take 10 := by
    rw [limit_banners htype]
    rfl
  unfold Db.resolveSection
  rw [htype]
  dsimp only
  rw [hpicked, hslice]
  simp only [hnone]
  split
  · rfl
  · rw [List.take_take, min_self]

theorem type_resolveSection (d : Db) (now : Instant) (row : HomeSection) :
    (d.resolveSection now row).type = row.type := by
  unfold Db.resolveSection
  cases htype : row.type <;> exact htype

theorem inWindow_of_listed (h : banner ∈ d.listActivePromotionBanners now "home") :
    banner.inWindow now = true := by
  have hmem := (List.mem_filter.1 ((mem_orderBy _).1 h)).2
  rw [Bool.and_assoc, Bool.and_eq_true] at hmem
  exact hmem.2

theorem isActive_of_activePicks (h : banner ∈ d.activePicks row) : banner.isActive = true := by
  obtain ⟨item, -, hitem⟩ := List.mem_filterMap.1 h
  exact (Option.filter_eq_some_iff.1 hitem).2

end

/-- The banners sections show only banners within their dates, exactly when that is so of the
first ten active banners picked for each. -/
theorem banners_inWindow_iff (d : Db) (now : Instant) :
    (∀ payload ∈ d.resolvePublicSections now, payload.type = .banners →
      ∀ banner ∈ payload.banners, banner.inWindow now = true) ↔
    ∀ row ∈ d.visibleSections, row.type = .banners →
      ∀ banner ∈ (d.activePicks row).take 10, showing now banner.startsAt banner.endsAt = true := by
  constructor
  · intro h row hrow htype banner hbanner
    have hshown : banner ∈ (d.resolveSection now row).banners := by
      rw [resolveSection_banners htype, if_neg]
      · exact hbanner
      · intro hnone
        rw [hnone] at hbanner
        cases hbanner
    have hwindow := h _ (List.mem_map_of_mem hrow) ((type_resolveSection d now row).trans htype)
      banner hshown
    exact (Bool.and_eq_true_iff.1 hwindow).2
  · intro h payload hpayload htype banner hbanner
    obtain ⟨row, hrow, rfl⟩ := List.mem_map.1 hpayload
    rw [type_resolveSection] at htype
    rw [resolveSection_banners htype] at hbanner
    split at hbanner
    · exact inWindow_of_listed (List.mem_of_mem_take hbanner)
    · exact Bool.and_eq_true_iff.2
        ⟨isActive_of_activePicks (List.mem_of_mem_take hbanner), h row hrow htype banner hbanner⟩

/-! ## A campaign that has ended -/

namespace Campaign

/-- A banner that ended at 5 is still among the picks. -/
def db : Db :=
  { contents := [], series := [], channels := [], heroItems := [],
    banners := [⟨3, "home", true, none, some 5, 0, 0⟩], freeTodayItems := [], comingSoonItems := [],
    sections := [⟨1, .banners, none, none, true, 0, none, 0⟩],
    items := [⟨2, 1, .banner, 3, 0, 0⟩] }

end Campaign

theorem ended_campaign_shown :
    (∃ payload ∈ Campaign.db.resolvePublicSections 10, payload.type = .banners ∧
      ∃ banner ∈ payload.banners, banner.inWindow 10 = false) ∧
    Campaign.db.listActivePromotionBanners 10 "home" = [] := by
  decide

end MovieApi.HomePage
