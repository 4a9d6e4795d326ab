import MovieApi.HomeSections.Requests

/-!
# What home-section items point at

Items of movies and series go with their titles.  Items of channels, hero
slides and banners stay when the row is deleted, also when a hero slide goes
because its title does.
-/

namespace MovieApi.HomeSections

open Catalog (SectionType ItemKind)
open Publishing (Uuid Err notFound Content Series)
open Relation (ReflTransGen)

/-! ## The invariant -/

/-- Every item names a row that exists. -/
def Db.NoDangling (d : Db) : Prop :=
  ∀ item ∈ d.items, d.hasReference item.itemKind item.refId = true

/-- No item names the row. -/
def Db.Unpicked (d : Db) (kind : ItemKind) (refId : Uuid) : Prop :=
  ∀ item ∈ d.items, item.itemKind = kind → item.refId ≠ refId

/-- An item that names a hero slide, and whose id is not cleaned up, names one
that does not go. -/
def Db.KeepsSlides (d : Db) (goes : HeroFeaturedItem → Prop) (cleaned : Uuid → Prop) : Prop :=
  ∀ item ∈ d.items, item.itemKind = .heroSlide → ¬cleaned item.refId →
    ∃ slide ∈ d.heroSlides, slide.id = item.refId ∧ ¬goes slide

/-- Deleting the title takes no hero slide that an item names. -/
def Db.SparesContent (d : Db) (contentId : Uuid) : Prop :=
  d.KeepsSlides (·.contentId = some contentId) (· = contentId)

def Db.SparesSeries (d : Db) (seriesId : Uuid) : Prop :=
  d.KeepsSlides
    (fun slide => (∃ id ∈ d.episodeIds seriesId, slide.contentId = some id) ∨
      (slide.contentId = some seriesId ∧ slide.contentType = .series))
    fun refId => refId ∈ d.episodeIds seriesId ∨ refId = seriesId

/-- The request deletes nothing that an item names and that it does not clean
up. -/
def Request.Spares (d : Db) : Request → Prop
  | .createHomeSectionItem _ | .deleteHomeSectionItem _ | .deleteHomeSection _ => True
  | .deleteMovie slug => ∀ movie, d.movieBySlug slug = some movie → d.SparesContent movie.id
  | .deleteAdminMovie id => ∀ movie, d.movieById id = some movie → d.SparesContent movie.id
  | .deleteAdminPodcast id => ∀ podcast, d.podcastById id = some podcast →
      d.SparesContent podcast.id
  | .deleteEpisode slug episodeSlug => ∀ series, d.findSeries slug = .ok series →
      ∀ episode, d.episodeBySlug series.id episodeSlug = some episode → d.SparesContent episode.id
  | .deleteSeries slug => ∀ series, d.findSeries slug = .ok series → d.SparesSeries series.id
  | .deleteAdminSeries id => ∀ series, d.series.find? (fun row => row.id = id) = some series →
      d.SparesSeries series.id
  | .deleteChannel id stop => ∀ channel, d.channels.find? (fun row => row.id = id) = some channel →
      channel.stopFails stop = false → d.Unpicked .tvChannel id
  | .deleteAdminHeroFeatured id => d.Unpicked .heroSlide id
  | .deleteAdminPromotionBanner id => d.Unpicked .banner id

/-- What the other admin operations do: create and edit rows, order items. -/
structure Edits (d d' : Db) : Prop where
  references : ∀ kind refId, d.hasReference kind refId = true → d'.hasReference kind refId = true
  items : ∀ item ∈ d'.items, ∃ old ∈ d.items,
    old.itemKind = item.itemKind ∧ old.refId = item.refId

/-! ## References -/

variable {d d' : Db} {kind : ItemKind} {refId : Uuid} {item : HomeSectionItem}

theorem Db.hasReference_congr (hcontents : d'.contents = d.contents) (hseries : d'.series = d.series)
    (hchannels : d'.channels = d.channels) (hslides : d'.heroSlides = d.heroSlides)
    (hbanners : d'.banners = d.banners) : d'.hasReference kind refId = d.hasReference kind refId := by
  cases kind <;> simp only [Db.hasReference, hcontents, hseries, hchannels, hslides, hbanners]

/-- A change to the items alone that adds none. -/
theorem Db.NoDangling.of_items (hd : d.NoDangling) (hsub : ∀ item ∈ d'.items, item ∈ d.items)
    (href : ∀ kind refId, d'.hasReference kind refId = d.hasReference kind refId) :
    d'.NoDangling := by
  intro item hitem
  rw [href]
  exact hd item (hsub item hitem)

/-! ## Adding and removing items -/

theorem validateItemAdd_hasReference {homeSection : HomeSection}
    (h : validateItemAdd d homeSection kind refId = .ok ()) : d.hasReference kind refId = true := by
  unfold validateItemAdd at h
  split at h
  · cases h
  · split at h
    · cases h
    · next href => exact Bool.eq_true_of_not_eq_false href

theorem createHomeSectionItem_noDangling (hd : d.NoDangling)
    (h : createHomeSectionItem item d = .ok d') : d'.NoDangling := by
  unfold createHomeSectionItem at h
  split at h
  · cases h
  · split at h
    · cases h
    · next hvalid =>
        have href := validateItemAdd_hasReference hvalid
        unfold Db.addItem at h
        split at h
        · cases h
        · cases h
          intro item' hitem
          rcases List.mem_append.1 hitem with hitem | hitem
          · exact hd item' hitem
          · rw [List.mem_singleton] at hitem
            exact hitem ▸ href

theorem deleteHomeSectionItem_noDangling {id : Uuid} (hd : d.NoDangling)
    (h : deleteHomeSectionItem id d = .ok d') : d'.NoDangling := by
  unfold deleteHomeSectionItem at h
  split at h
  · cases h
    exact hd.of_items (fun item hitem => (List.mem_filter.1 hitem).1)
      fun _ _ => Db.hasReference_congr rfl rfl rfl rfl rfl
  · cases h

theorem deleteHomeSection_noDangling {id : Uuid} (hd : d.NoDangling)
    (h : deleteHomeSection id d = .ok d') : d'.NoDangling := by
  unfold deleteHomeSection at h
  split at h
  · cases h
  · split at h
    · cases h
    · cases h
      exact hd.of_items (fun item hitem => (List.mem_filter.1 hitem).1)
        fun _ _ => Db.hasReference_congr rfl rfl rfl rfl rfl

/-! ## Deleting titles -/

/-- A deletion cleans up after itself but for the hero slides it takes. -/
theorem noDangling_iff_keepsSlides {goes : HeroFeaturedItem → Prop} {cleaned : Uuid → Prop}
    (hd : d.NoDangling) (hitems : ∀ item, item ∈ d'.items ↔ item ∈ d.items ∧ ¬cleaned item.refId)
    (hslides : ∀ slide, slide ∈ d'.heroSlides ↔ slide ∈ d.heroSlides ∧ ¬goes slide)
    (hother : ∀ kind, kind ≠ .heroSlide → ∀ refId, ¬cleaned refId →
      d.hasReference kind refId = true → d'.hasReference kind refId = true) :
    d'.NoDangling ↔ d.KeepsSlides goes cleaned := by
  constructor
  · intro h item hitem hkind hclean
    have href := h item ((hitems item).2 ⟨hitem, hclean⟩)
    simp only [hkind, Db.hasReference, List.any_eq_true, decide_eq_true_eq] at href
    obtain ⟨slide, hslide, hid⟩ := href
    exact ⟨slide, ((hslides slide).1 hslide).1, hid, ((hslides slide).1 hslide).2⟩
  · intro h item hitem
    obtain ⟨hitem, hclean⟩ := (hitems item).1 hitem
    by_cases hkind : item.itemKind = .heroSlide
    · obtain ⟨slide, hslide, hid, hstays⟩ := h item hitem hkind hclean
      simp only [hkind, Db.hasReference, List.any_eq_true, decide_eq_true_eq]
      exact ⟨slide, (hslides slide).2 ⟨hslide, hstays⟩, hid⟩
    · exact hother _ hkind _ hclean (hd item hitem)

theorem deleteContent_noDangling (hd : d.NoDangling) (found : Option Content) (detail : String) :
    (d.after (deleteContent found detail d)).NoDangling ↔
      ∀ row, found = some row → d.SparesContent row.id := by
  cases found with
  | none => simpa [deleteContent, Db.after] using hd
  | some row =>
      simp only [deleteContent, Db.after, Option.some.injEq, forall_eq']
      refine noDangling_iff_keepsSlides hd (fun item => ?_) (fun slide => ?_) ?_
      · simp [deleteContentDependencies]
      · simp [deleteContentDependencies]
      · intro kind hkind refId hclean href
        cases kind with
        | heroSlide => exact absurd rfl hkind
        | movie =>
            simp only [Db.hasReference, List.any_eq_true, decide_eq_true_eq] at href ⊢
            obtain ⟨content, hcontent, rfl, htype⟩ := href
            exact ⟨content, by simpa [deleteContentDependencies] using ⟨hcontent, hclean⟩, rfl, htype⟩
        | _ => exact href

theorem removeSeries_noDangling (hd : d.NoDangling) (seriesId : Uuid) :
    ((deleteSeriesAndDependencies seriesId d).removeSeries seriesId).NoDangling ↔
      d.SparesSeries seriesId := by
  refine noDangling_iff_keepsSlides hd (fun item => ?_) (fun slide => ?_) ?_
  · simp only [Db.removeSeries, deleteSeriesAndDependencies, deleteContentDependenciesForSeries,
      List.mem_filter, decide_eq_true_eq, not_or, ne_eq, and_assoc]
  · simp only [Db.removeSeries, deleteSeriesAndDependencies, deleteContentDependenciesForSeries,
      List.mem_filter, Bool.not_eq_true', Option.any_eq_false, decide_eq_false_iff_not, not_or,
      not_exists, not_and, and_assoc]
    refine and_congr_right fun _ => and_congr_left fun _ => ?_
    exact ⟨fun h id hid hslide => h id hslide hid, fun h id hslide hid => h id hid hslide⟩
  · intro kind hkind refId hclean href
    rw [not_or] at hclean
    cases kind with
    | heroSlide => exact absurd rfl hkind
    | movie =>
        simp only [Db.hasReference, List.any_eq_true, decide_eq_true_eq] at href ⊢
        obtain ⟨content, hcontent, rfl, htype⟩ := href
        have hseries : content.seriesId ≠ some seriesId := fun h =>
          hclean.1 (List.mem_map.2 ⟨content, List.mem_filter.2 ⟨hcontent, by simpa using h⟩, rfl⟩)
        refine ⟨content, ?_, rfl, htype⟩
        simp [deleteSeriesAndDependencies, deleteContentDependenciesForSeries, Db.removeSeries,
          hcontent, hseries]
    | series =>
        simp only [Db.hasReference, List.any_eq_true, decide_eq_true_eq] at href ⊢
        obtain ⟨series, hseries, rfl⟩ := href
        exact ⟨series, List.mem_filter.2 ⟨hseries, by simpa using hclean.2⟩, rfl⟩
    | _ => exact href

/-! ## Deleting channels, slides and banners -/

/-- A deletion that takes the row with one id from one table and cleans up
nothing. -/
theorem noDangling_iff_unpicked (hd : d.NoDangling) (hitems : d'.items = d.items)
    (hreference : ∀ kind' refId', d'.hasReference kind' refId' = true ↔
      d.hasReference kind' refId' = true ∧ ¬(kind' = kind ∧ refId' = refId)) :
    d'.NoDangling ↔ d.Unpicked kind refId := by
  constructor
  · intro h item hitem hkind hid
    exact ((hreference _ _).1 (h item (hitems ▸ hitem))).2 ⟨hkind, hid⟩
  · intro h item hitem
    rw [hitems] at hitem
    exact (hreference _ _).2 ⟨hd item hitem, fun hboth => h item hitem hboth.1 hboth.2⟩

theorem any_removed {ρ : Type} {rows : List ρ} {key : ρ → Uuid} {id refId : Uuid} :
    ((rows.filter fun row => decide (key row ≠ id)).any fun row => decide (key row = refId)) =
        true ↔
      (rows.any fun row => decide (key row = refId)) = true ∧ refId ≠ id := by
  simp only [List.any_eq_true, List.mem_filter, decide_eq_true_eq]
  constructor
  · rintro ⟨row, ⟨hrow, hne⟩, rfl⟩
    exact ⟨⟨row, hrow, rfl⟩, hne⟩
  · rintro ⟨⟨row, hrow, rfl⟩, hne⟩
    exact ⟨row, ⟨hrow, hne⟩, rfl⟩

theorem deleteChannel_noDangling {id : Uuid} {stop : StopResult} (hd : d.NoDangling) :
    (serve (.deleteChannel id stop) d).NoDangling ↔ (Request.deleteChannel id stop).Spares d := by
  simp only [serve, Request.handle, deleteChannel, Request.Spares]
  cases h : d.channels.find? fun row => decide (row.id = id) with
  | none => simpa [Db.after] using hd
  | some channel =>
      cases hstop : channel.stopFails stop with
      | true => simpa [hstop, Db.after] using hd
      | false =>
          simp only [Bool.false_eq_true, if_false, Option.some.injEq, forall_eq', hstop,
            forall_const, Db.after]
          refine noDangling_iff_unpicked hd rfl fun kind refId => ?_
          cases kind with
          | tvChannel => simpa only [Db.hasReference, true_and] using any_removed
          | _ => simp [Db.hasReference]

/-- An id that is not in the table is named by no item. -/
theorem Db.NoDangling.unpicked (hd : d.NoDangling) (h : d.hasReference kind refId = false) :
    d.Unpicked kind refId := by
  rintro item hitem rfl rfl
  rw [hd item hitem] at h
  cases h

theorem deleteAdminHeroFeatured_noDangling {id : Uuid} (hd : d.NoDangling) :
    (serve (.deleteAdminHeroFeatured id) d).NoDangling ↔ d.Unpicked .heroSlide id := by
  simp only [serve, Request.handle, deleteAdminHeroFeatured]
  cases h : d.heroSlides.any fun row => decide (row.id = id) with
  | false =>
      simp only [Bool.false_eq_true, if_false, Db.after]
      exact iff_of_true hd (hd.unpicked h)
  | true =>
      simp only [if_true, Db.after]
      refine noDangling_iff_unpicked hd rfl fun kind refId => ?_
      cases kind with
      | heroSlide => simpa only [Db.hasReference, true_and] using any_removed
      | _ => simp [Db.hasReference]

theorem deleteAdminPromotionBanner_noDangling {id : Uuid} (hd : d.NoDangling) :
    (serve (.deleteAdminPromotionBanner id) d).NoDangling ↔ d.Unpicked .banner id := by
  simp only [serve, Request.handle, deleteAdminPromotionBanner]
  cases h : d.banners.any fun row => decide (row.id = id) with
  | false =>
      simp only [Bool.false_eq_true, if_false, Db.after]
      exact iff_of_true hd (hd.unpicked h)
  | true =>
      simp only [if_true, Db.after]
      refine noDangling_iff_unpicked hd rfl fun kind refId => ?_
      cases kind with
      | banner => simpa only [Db.hasReference, true_and] using any_removed
      | _ => simp [Db.hasReference]

/-! ## Every request -/

/-- A request that changes nothing but keeps the invariant where it succeeds. -/
theorem serve_noDangling {request : Request} (hd : d.NoDangling)
    (h : ∀ d', request.handle d = .ok d' → d'.NoDangling) : (serve request d).NoDangling := by
  unfold serve
  cases hhandle : request.handle d with
  | ok d' => exact h d' hhandle
  | error _ => exact hd

theorem serve_noDangling_iff (hd : d.NoDangling) (request : Request) :
    (serve request d).NoDangling ↔ request.Spares d := by
  cases request with
  | createHomeSectionItem item =>
      exact iff_of_true (serve_noDangling hd fun _ => createHomeSectionItem_noDangling hd) trivial
  | deleteHomeSectionItem id =>
      exact iff_of_true (serve_noDangling hd fun _ => deleteHomeSectionItem_noDangling hd) trivial
  | deleteHomeSection id =>
      exact iff_of_true (serve_noDangling hd fun _ => deleteHomeSection_noDangling hd) trivial
  | deleteMovie slug => exact deleteContent_noDangling hd _ _
  | deleteAdminMovie id => exact deleteContent_noDangling hd _ _
  | deleteAdminPodcast id => exact deleteContent_noDangling hd _ _
  | deleteEpisode slug episodeSlug =>
      simp only [serve, Request.handle, deleteEpisode, Request.Spares]
      cases h : d.findSeries slug with
      | error _ => simpa [bind, Except.bind, Db.after] using hd
      | ok series => simpa [bind, Except.bind] using
          deleteContent_noDangling hd (d.episodeBySlug series.id episodeSlug) "Episode not found"
  | deleteSeries slug =>
      simp only [serve, Request.handle, deleteSeries, Request.Spares]
      cases h : d.findSeries slug with
      | error _ => simpa [bind, Except.bind, Db.after] using hd
      | ok series => simpa [bind, Except.bind, Db.after] using removeSeries_noDangling hd series.id
  | deleteAdminSeries id =>
      simp only [serve, Request.handle, deleteAdminSeries, Request.Spares]
      cases h : d.series.find? fun row => decide (row.id = id) with
      | none => simpa [Db.after] using hd
      | some series => simpa [Db.after] using removeSeries_noDangling hd series.id
  | deleteChannel id stop => exact deleteChannel_noDangling hd
  | deleteAdminHeroFeatured id => exact deleteAdminHeroFeatured_noDangling hd
  | deleteAdminPromotionBanner id => exact deleteAdminPromotionBanner_noDangling hd

theorem Edits.noDangling (h : Edits d d') (hd : d.NoDangling) : d'.NoDangling := by
  intro item hitem
  obtain ⟨old, hold, hkind, href⟩ := h.items item hitem
  rw [← hkind, ← href]
  exact h.references _ _ (hd old hold)

/-! ## Runs -/

/-- One admin operation after another. -/
def AdminStep (d d' : Db) : Prop :=
  (∃ request, d' = serve request d) ∨ Edits d d'

/-- The same where no deletion takes what an item names. -/
def SparingStep (d d' : Db) : Prop :=
  (∃ request : Request, request.Spares d ∧ d' = serve request d) ∨ Edits d d'

theorem SparingStep.noDangling (h : SparingStep d d') (hd : d.NoDangling) : d'.NoDangling := by
  obtain ⟨request, hspares, rfl⟩ | hedits := h
  · exact (serve_noDangling_iff hd request).2 hspares
  · exact hedits.noDangling hd

/-- Items never dangle while every deletion spares what they name, and from any
state so reached the next request leaves one dangling exactly when it does
not. -/
theorem sparing_noDangling (hd : d.NoDangling) (hrun : ReflTransGen SparingStep d d') :
    d'.NoDangling ∧ ∀ request : Request, (serve request d').NoDangling ↔ request.Spares d' := by
  have hd' : d'.NoDangling := by
    induction hrun with
    | refl => exact hd
    | tail _ hstep ih => exact hstep.noDangling ih
  exact ⟨hd', serve_noDangling_iff hd'⟩

instance (d : Db) : Decidable d.NoDangling :=
  inferInstanceAs (Decidable (∀ item ∈ d.items, d.hasReference item.itemKind item.refId = true))

namespace Lobby

/-- A movie with a slide of its own, a channel and a section for each. -/
def db : Db where
  contents := [{
    status := .published, isPublished := true, publishAt := none, id := 1, type := .single,
    seriesId := none, slug := "river", posterKey := none, hlsMasterKey := none, audioKey := none,
    transcodeStatus := .ready }]
  series := []
  jobs := []
  channels := [⟨2, "offline"⟩]
  heroSlides := [⟨3, .movie, some 1⟩]
  banners := []
  sections := [⟨10, .custom, none⟩, ⟨11, .tv, none⟩, ⟨12, .hero, none⟩]
  items := []

def movieItem : Request := .createHomeSectionItem ⟨20, 10, .movie, 1, 0⟩

def channelItem : Request := .createHomeSectionItem ⟨21, 11, .tvChannel, 2, 0⟩

def slideItem : Request := .createHomeSectionItem ⟨22, 12, .heroSlide, 3, 0⟩

theorem movieItem_kind :
    ∀ item ∈ (serve movieItem db).items, item.itemKind ≠ .heroSlide := by decide

end Lobby

theorem sparing_noDangling_movie :
    (serve (.deleteMovie "river") (serve Lobby.movieItem Lobby.db)).NoDangling :=
  (sparing_noDangling (d := Lobby.db) (by decide)
    ((ReflTransGen.single (.inl ⟨Lobby.movieItem, trivial, rfl⟩)).tail
      (.inl ⟨.deleteMovie "river", fun _ _ item hitem hkind =>
        absurd hkind (Lobby.movieItem_kind item hitem), rfl⟩))).1

/-- A deleted channel leaves its item behind. -/
theorem deleted_rows_dangle :
    ¬∀ d d' : Db, d.NoDangling → ReflTransGen AdminStep d d' → d'.NoDangling := by
  intro h
  have hrun : ReflTransGen AdminStep Lobby.db
      (serve (.deleteChannel 2 .stopped) (serve Lobby.channelItem Lobby.db)) :=
    (ReflTransGen.single (.inl ⟨_, rfl⟩)).tail (.inl ⟨_, rfl⟩)
  exact absurd (h _ _ (by decide) hrun) (by decide)

-- The slide goes with the movie, the item that names the slide stays.
example : ¬(serve (.deleteMovie "river") (serve Lobby.slideItem Lobby.db)).NoDangling := by decide

end MovieApi.HomeSections
