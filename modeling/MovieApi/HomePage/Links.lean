import MovieApi.HomePage.Limits

/-!
# No dead links

Whatever branch of `resolve_public_sections` lists a title, its page opens for a visitor who
is not signed in.  The page of a movie asks for more than the coming-soon rail does, and lets
the movies of that rail through.
-/

namespace MovieApi.HomePage

open Catalog (SectionType)
open Publishing (Uuid Err notFound)
open Sql

/-! ## The detail pages -/

/-- The slugs of movies and series by their ids. -/
structure Slugs where
  content : Uuid → String
  series : Uuid → String

/-- `scalar_one_or_none`. -/
def oneOrNone {α : Type} : List α → Except Err (Option α)
  | [] => .ok none
  | [row] => .ok (some row)
  | _ => .error multipleResults

/-- `is_coming_soon`. -/
def Titles.isComingSoon (d : Titles) (contentId : Uuid) : Except Err Bool :=
  (oneOrNone (d.comingSoonItems.filter fun item => decide (item.contentId = contentId))).map
    Option.isSome

/-- `free_today_content_ids_from_sections`. -/
def Db.freeTodayContentIds (d : Db) : List Uuid :=
  (d.items.filter fun item => decide (item.itemKind = .movie) && d.sections.any fun row =>
    decide (row.id = item.sectionId ∧ row.type = .freeToday) && row.isVisible).map
      HomeSectionItem.refId

/-- `is_free_today`. -/
def Db.isFreeToday (d : Db) (contentId : Uuid) : Except Err Bool :=
  if contentId ∈ d.freeTodayContentIds then .ok true
  else (oneOrNone (d.freeTodayItems.filter fun item => decide (item.contentId = contentId))).map
    Option.isSome

/-- The answer of the detail page of a movie. -/
structure ContentRead where
  movie : Movie
  isFreeToday : Bool
  /-- is `hls_master_key` left in? -/
  playable : Bool
deriving DecidableEq, Repr

/-- May the caller see the page at all? -/
def Titles.admits (d : Titles) (movie : Movie) (isAdmin : Bool) : Except Err Bool :=
  if movie.isPublished || isAdmin then .ok true else d.isComingSoon movie.id

/-- `get_movie_detail`; `canAccess` is `can_access_content` for the caller. -/
def getMovieDetail (slugs : Slugs) (canAccess : Movie → Bool → Bool) (slug : String)
    (isAdmin : Bool) (d : Db) : Except Err ContentRead := do
  match ← oneOrNone (d.contents.filter fun movie =>
      decide (slugs.content movie.id = slug ∧ movie.type = .single)) with
  | none => .error (notFound "Movie not found")
  | some movie =>
      if ← d.admits movie isAdmin then
        let isFreeToday ← d.isFreeToday movie.id
        .ok ⟨movie, isFreeToday, canAccess movie isFreeToday⟩
      else .error (notFound "Movie not found")

/-- `get_series_or_404`. -/
def getSeriesOr404 (slugs : Slugs) (slug : String) (publishedOnly : Bool) (d : Titles) :
    Except Err Series := do
  match ← oneOrNone (d.series.filter fun series =>
      decide (slugs.series series.id = slug) && (!publishedOnly || series.isPublished)) with
  | none => .error (notFound "Series not found")
  | some series => .ok series

/-- The unique columns of the tables. -/
structure Titles.UniqueColumns (slugs : Slugs) (d : Titles) : Prop where
  contents : Unique (fun movie => slugs.content movie.id) d.contents
  series : Unique (fun series => slugs.series series.id) d.series
  freeToday : Unique RailItem.contentId d.freeTodayItems
  comingSoon : Unique RailItem.contentId d.comingSoonItems

/-! ## What the pages let through -/

section

variable {ρ κ : Type} {key : ρ → κ} {p : ρ → Bool} {rows : List ρ} {row : ρ}

theorem oneOrNone_of_mem (hunique : Unique key rows) (hrow : row ∈ rows) (hp : p row = true)
    (hsame : ∀ other ∈ rows, p other = true → key other = key row) :
    oneOrNone (rows.filter p) = .ok (some row) := by
  have hmem : row ∈ rows.filter p := List.mem_filter.2 ⟨hrow, hp⟩
  have hnodup : ((rows.filter p).map key).Nodup := hunique.sublist (List.filter_sublist.map key)
  have hall : (rows.filter p).map key = List.replicate (rows.filter p).length (key row) := by
    rw [List.eq_replicate_iff, List.length_map]
    refine ⟨rfl, fun k hk => ?_⟩
    obtain ⟨other, hother, rfl⟩ := List.mem_map.1 hk
    exact hsame other (List.mem_filter.1 hother).1 (List.mem_filter.1 hother).2
  rw [hall, List.nodup_replicate] at hnodup
  have hlength := List.length_pos_of_mem hmem
  obtain ⟨found, hfound⟩ := List.length_eq_one_iff.1 (show (rows.filter p).length = 1 by omega)
  rw [hfound, List.mem_singleton] at hmem
  rw [hfound, hmem]
  rfl

/-- A query by a unique column finds one row at most. -/
theorem oneOrNone_ok (hunique : Unique key rows)
    (hsame : ∀ a ∈ rows, ∀ b ∈ rows, p a = true → p b = true → key b = key a) :
    ∃ found, oneOrNone (rows.filter p) = .ok found := by
  cases hrows : rows.filter p with
  | nil => exact ⟨none, rfl⟩
  | cons row rest =>
      obtain ⟨hrow, hp⟩ := List.mem_filter.1 (hrows ▸ List.mem_cons_self : row ∈ rows.filter p)
      rw [← hrows]
      exact ⟨some row, oneOrNone_of_mem hunique hrow hp fun other hother hp' =>
        hsame row hrow other hother hp hp'⟩

end

section

variable {slugs : Slugs} {d : Db} {movie : Movie} {series : Series}

theorem isFreeToday_ok (hd : d.UniqueColumns slugs) (contentId : Uuid) :
    ∃ free, d.isFreeToday contentId = .ok free := by
  unfold Db.isFreeToday
  split
  · exact ⟨true, rfl⟩
  · obtain ⟨found, hfound⟩ := oneOrNone_ok
      (p := fun item : RailItem => decide (item.contentId = contentId)) hd.freeToday
      fun a _ b _ ha hb => (of_decide_eq_true hb).trans (of_decide_eq_true ha).symm
    rw [hfound]
    exact ⟨found.isSome, rfl⟩

theorem isComingSoon_of_mem (hd : d.UniqueColumns slugs) {item : RailItem}
    (hitem : item ∈ d.comingSoonItems) : d.isComingSoon item.contentId = .ok true := by
  unfold Titles.isComingSoon
  rw [oneOrNone_of_mem hd.comingSoon hitem (by simp) fun other _ hother => of_decide_eq_true hother]
  rfl

/-- A movie that is public, or on the coming-soon rail. -/
structure Db.Visitable (d : Db) (movie : Movie) : Prop where
  stored : movie ∈ d.contents
  single : movie.type = .single
  visible : movie.isPublished = true ∨ ∃ item ∈ d.comingSoonItems, item.contentId = movie.id

theorem admits_of_visitable (hd : d.UniqueColumns slugs) (h : d.Visitable movie) :
    d.admits movie false = .ok true := by
  unfold Titles.admits
  rw [Bool.or_false]
  cases hpublished : movie.isPublished with
  | true => rfl
  | false =>
      rcases h.visible with htrue | ⟨item, hitem, hid⟩
      · rw [hpublished] at htrue
        cases htrue
      · rw [← hid]
        exact isComingSoon_of_mem hd hitem

theorem getMovieDetail_of_visitable (canAccess : Movie → Bool → Bool) (hd : d.UniqueColumns slugs)
    (h : d.Visitable movie) :
    ∃ read, getMovieDetail slugs canAccess (slugs.content movie.id) false d = .ok read ∧
      read.movie = movie := by
  obtain ⟨free, hfree⟩ := isFreeToday_ok hd movie.id
  have hfound : oneOrNone (d.contents.filter fun other =>
      decide (slugs.content other.id = slugs.content movie.id ∧ other.type = .single)) =
        .ok (some movie) :=
    oneOrNone_of_mem hd.contents h.stored (by simp [h.single]) fun other _ hother =>
      (of_decide_eq_true hother).1
  refine ⟨⟨movie, free, canAccess movie free⟩, ?_, rfl⟩
  unfold getMovieDetail
  rw [hfound]
  simp only [bind, Except.bind, admits_of_visitable hd h, hfree, if_true]

theorem getSeriesOr404_of_published (hd : d.UniqueColumns slugs) (hseries : series ∈ d.series)
    (hpublished : series.isPublished = true) :
    getSeriesOr404 slugs (slugs.series series.id) true d.toTitles = .ok series := by
  have hfound : oneOrNone (d.series.filter fun other =>
      decide (slugs.series other.id = slugs.series series.id) && (!true || other.isPublished)) =
        .ok (some series) := by
    refine oneOrNone_of_mem hd.series hseries (by simp [hpublished]) fun other _ hother => ?_
    exact of_decide_eq_true (Bool.and_eq_true_iff.1 hother).1
  unfold getSeriesOr404
  rw [hfound]
  rfl

end

/-! ## What the sections list -/

section

variable {α : Type} {cap : Option Int} {show? : HomeSectionItem → Option α}
  {rows : List HomeSectionItem} {shown : List α} {entry : α}

theorem mem_sliceTo {stop : Int} {entries : List α} (h : entry ∈ sliceTo stop entries) :
    entry ∈ entries := by
  unfold sliceTo at h
  split at h
  · exact List.mem_of_mem_take h
  · exact List.mem_of_mem_take h

/-- The loop over the picks of one kind lists what they name. -/
theorem collect_forall {P : α → Prop} (hentry : ∀ item, ∀ entry ∈ show? item, P entry)
    (hshown : ∀ entry ∈ shown, P entry) : ∀ entry ∈ collect cap show? rows shown, P entry := by
  induction rows generalizing shown with
  | nil => exact hshown
  | cons item rows ih =>
      unfold collect
      cases hpicked : show? item with
      | none => exact ih hshown
      | some picked =>
          have hshown' : ∀ entry ∈ shown ++ [picked], P entry := by
            intro entry hmem
            rcases List.mem_append.1 hmem with hmem | hmem
            · exact hshown entry hmem
            · rw [List.mem_singleton.1 hmem]
              exact hentry item picked hpicked
          dsimp only
          split
          · exact hshown'
          · exact ih hshown'

variable {movieOf : Uuid → Option Movie} {seriesOf : Uuid → Option Series}
  {movies : List Movie} {series : List Series}

/-- So does the loop over titles. -/
theorem collectTitles_forall {P : Movie → Prop} {Q : Series → Prop}
    (hmovie : ∀ id, ∀ movie ∈ movieOf id, P movie) (hseries : ∀ id, ∀ entry ∈ seriesOf id, Q entry)
    (hmovies : ∀ movie ∈ movies, P movie) (hlisted : ∀ entry ∈ series, Q entry) :
    let titles := collectTitles cap (fun item => movieOf item.refId)
      (fun item => seriesOf item.refId) rows movies series
    (∀ movie ∈ titles.1, P movie) ∧ ∀ entry ∈ titles.2, Q entry := by
  induction rows generalizing movies series with
  | nil => exact ⟨hmovies, hlisted⟩
  | cons item rows ih =>
      have hmovies' : ∀ movie ∈ movies ++ (ofKind .movie movieOf item).toList, P movie := by
        intro movie hmem
        rcases List.mem_append.1 hmem with hmem | hmem
        · exact hmovies movie hmem
        · unfold ofKind at hmem
          split at hmem
          · exact hmovie _ movie (Option.mem_toList.1 hmem)
          · cases hmem
      have hlisted' : ∀ entry ∈ series ++ (ofKind .series seriesOf item).toList, Q entry := by
        intro entry hmem
        rcases List.mem_append.1 hmem with hmem | hmem
        · exact hlisted entry hmem
        · unfold ofKind at hmem
          split at hmem
          · exact hseries _ entry (Option.mem_toList.1 hmem)
          · cases hmem
      rw [collectTitles_cons]
      dsimp only
      split
      · exact ⟨hmovies', hlisted'⟩
      · exact ih hmovies' hlisted'

end

section

variable {d : Db} {movie : Movie} {series : Series} {channel : TVChannel} {id : Uuid}

theorem visitable_of_listed (hmovie : movie ∈ d.contents) (hlisted : movie.listed = true) :
    d.Visitable movie := by
  unfold Movie.listed at hlisted
  rw [Bool.and_eq_true, decide_eq_true_eq] at hlisted
  exact ⟨hmovie, hlisted.1, .inl hlisted.2⟩

theorem visitable_of_movie? (h : movie ∈ d.movie? id) : d.Visitable movie := by
  have hfound := List.find?_some h
  rw [Bool.and_eq_true] at hfound
  exact visitable_of_listed (List.mem_of_find?_eq_some h) hfound.2

theorem visitable_of_moviesById (h : movie ∈ d.moviesById id) : d.Visitable movie := by
  unfold Db.moviesById at h
  split at h
  · exact visitable_of_movie? h
  · cases h

/-- A series whose page opens. -/
structure Db.Published (d : Db) (series : Series) : Prop where
  stored : series ∈ d.series
  published : series.isPublished = true

theorem published_of_series? (h : series ∈ d.series? id) : d.Published series := by
  have hfound := List.find?_some h
  rw [Bool.and_eq_true] at hfound
  exact ⟨List.mem_of_find?_eq_some h, hfound.2⟩

theorem published_of_seriesById (h : series ∈ d.seriesById id) : d.Published series := by
  unfold Db.seriesById at h
  split at h
  · exact published_of_series? h
  · cases h

theorem channel_of_channelsById (h : channel ∈ d.channelsById id) :
    channel ∈ d.channels ∧ channel.isPublished = true := by
  unfold Db.channelsById at h
  split at h
  · have hfound := List.find?_some h
    rw [Bool.and_eq_true] at hfound
    exact ⟨List.mem_of_find?_eq_some h, hfound.2⟩
  · cases h

/-! ### Rails of the catalogue -/

theorem exists_of_mem_joined {limit : Nat} {rows : List Placed} (h : movie ∈ joined limit rows) :
    ∃ row ∈ rows, row.movie = movie := by
  obtain ⟨row, hrow, rfl⟩ := List.mem_map.1 h
  exact ⟨row, (mem_orderBy _).1 (List.mem_of_mem_take hrow), rfl⟩

theorem mem_placed {item : RailItem} {movies : List Movie} {row : Placed}
    (h : row ∈ item.placed movies) : row.movie ∈ movies ∧ row.movie.id = item.contentId := by
  obtain ⟨movie, hmovie, rfl⟩ := List.mem_map.1 h
  obtain ⟨hmem, hid⟩ := List.mem_filter.1 hmovie
  exact ⟨hmem, of_decide_eq_true hid⟩

theorem visitable_of_freeToday (h : movie ∈ d.resolveFreeTodayMovies) : d.Visitable movie := by
  have hjoined {ρ : Type} {items : List ρ} {rail : ρ → RailItem}
      (h : movie ∈ joined freeTodayMax
        (items.flatMap fun item => (rail item).placed (d.contents.filter Movie.listed))) :
      d.Visitable movie := by
    obtain ⟨row, hrow, rfl⟩ := exists_of_mem_joined h
    obtain ⟨item, -, hrow⟩ := List.mem_flatMap.1 hrow
    obtain ⟨hmem, hlisted⟩ := List.mem_filter.1 (mem_placed hrow).1
    exact visitable_of_listed hmem hlisted
  unfold Db.resolveFreeTodayMovies at h
  dsimp only at h
  split at h
  · exact hjoined h
  · split at h
    · exact hjoined h
    · exact hjoined h

/-- The rail lists drafts too, and all of them are in the table that opens their pages. -/
theorem visitable_of_comingSoon (h : movie ∈ d.resolveComingSoonMovies) : d.Visitable movie := by
  obtain ⟨row, hrow, rfl⟩ := exists_of_mem_joined h
  obtain ⟨item, hitem, hrow⟩ := List.mem_flatMap.1 hrow
  obtain ⟨hmem, hid⟩ := mem_placed hrow
  obtain ⟨hstored, hmovie⟩ := List.mem_filter.1 hmem
  rw [Bool.and_eq_true, decide_eq_true_eq] at hmovie
  exact ⟨hstored, hmovie.1, .inr ⟨item, hitem, hid.symm⟩⟩

theorem visitable_of_autoFill {type : SectionType} {cap : Option Int}
    (h : movie ∈ d.autoFill type cap) : d.Visitable movie := by
  have hcatalog {limit : Nat}
      (h : movie ∈ (orderBy Movie.newer (d.contents.filter Movie.listed)).take limit) :
      d.Visitable movie := by
    obtain ⟨hmem, hlisted⟩ := List.mem_filter.1 ((mem_orderBy _).1 (List.mem_of_mem_take h))
    exact visitable_of_listed hmem hlisted
  cases type with
  | freeToday => exact visitable_of_freeToday h
  | comingSoon => exact visitable_of_comingSoon h
  | trending => exact hcatalog (mem_sliceTo (List.mem_of_mem_drop h))
  | mostWatched => exact hcatalog (mem_sliceTo h)
  | _ => cases h

/-! ### The sections -/

/-- Everything a section lists can be opened. -/
structure Db.Alive (d : Db) (payload : HomeSectionPublic) : Prop where
  movies : ∀ movie ∈ payload.movies, d.Visitable movie
  series : ∀ series ∈ payload.series, d.Published series
  channels : ∀ channel ∈ payload.channels, channel ∈ d.channels ∧ channel.isPublished = true
  movieSlides : ∀ slide ∈ payload.heroSlides, slide.contentType = .movie →
    ∃ movie, some movie.id = slide.contentId ∧ d.Visitable movie
  seriesSlides : ∀ slide ∈ payload.heroSlides, slide.contentType = .series →
    ∃ series, some series.id = slide.contentId ∧ d.Published series

theorem alive_payload (d : Db) (row : HomeSection) : d.Alive row.payload where
  movies _ h := by cases h
  series _ h := by cases h
  channels _ h := by cases h
  movieSlides _ h := by cases h
  seriesSlides _ h := by cases h

theorem buildSlide_of_mem {now : Instant} {placement : String} {slide : HeroFeaturedItem}
    (h : slide ∈ d.resolveHeroSlides now placement) : d.buildSlide slide = some slide := by
  obtain ⟨item, -, hitem⟩ := List.mem_filterMap.1 h
  suffices item = slide by rwa [this] at hitem
  unfold Titles.buildSlide at hitem
  cases htype : item.contentType with
  | custom =>
      rw [htype] at hitem
      exact Option.some.inj hitem
  | movie =>
      rw [htype] at hitem
      obtain ⟨-, -, heq⟩ := Option.map_eq_some_iff.1 hitem
      exact heq
  | series =>
      rw [htype] at hitem
      obtain ⟨-, -, heq⟩ := Option.map_eq_some_iff.1 hitem
      exact heq

theorem visitable_of_slide {slide : HeroFeaturedItem} (h : d.buildSlide slide = some slide)
    (htype : slide.contentType = .movie) :
    ∃ movie, some movie.id = slide.contentId ∧ d.Visitable movie := by
  unfold Titles.buildSlide at h
  rw [htype] at h
  obtain ⟨movie, hmovie, -⟩ := Option.map_eq_some_iff.1 h
  obtain ⟨id, hid, hmovie⟩ := Option.bind_eq_some_iff.1 hmovie
  have hfound := List.find?_some hmovie
  rw [Bool.and_eq_true, decide_eq_true_eq] at hfound
  exact ⟨movie, by rw [hid, hfound.1], visitable_of_movie? hmovie⟩

theorem published_of_slide {slide : HeroFeaturedItem} (h : d.buildSlide slide = some slide)
    (htype : slide.contentType = .series) :
    ∃ series, some series.id = slide.contentId ∧ d.Published series := by
  unfold Titles.buildSlide at h
  rw [htype] at h
  obtain ⟨series, hseries, -⟩ := Option.map_eq_some_iff.1 h
  obtain ⟨id, hid, hseries⟩ := Option.bind_eq_some_iff.1 hseries
  have hfound := List.find?_some hseries
  rw [Bool.and_eq_true, decide_eq_true_eq] at hfound
  exact ⟨series, by rw [hid, hfound.1], published_of_series? hseries⟩

theorem alive_hero (d : Db) (now : Instant) (row : HomeSection) (stop : Int) :
    d.Alive { row.payload with heroSlides := sliceTo stop (d.resolveHeroSlides now "home") } :=
  { alive_payload d row with
    movieSlides := fun _ hslide => visitable_of_slide (buildSlide_of_mem (mem_sliceTo hslide))
    seriesSlides := fun _ hslide => published_of_slide (buildSlide_of_mem (mem_sliceTo hslide)) }

theorem alive_tv (d : Db) (row : HomeSection) {channels : List TVChannel}
    (h : ∀ channel ∈ channels, channel ∈ d.channels ∧ channel.isPublished = true) :
    d.Alive { row.payload with channels := channels } :=
  { alive_payload d row with channels := h }

theorem alive_titles (d : Db) (row : HomeSection) {movies : List Movie} {series : List Series}
    (hmovies : ∀ movie ∈ movies, d.Visitable movie) (hseries : ∀ entry ∈ series, d.Published entry) :
    d.Alive { row.payload with movies := movies, series := series } :=
  { alive_payload d row with movies := hmovies, series := hseries }

theorem resolveSection_tv {now : Instant} {row : HomeSection} (htype : row.type = .tv) :
    d.Alive (d.resolveSection now row) := by
  unfold Db.resolveSection
  rw [htype]
  refine alive_tv d row ?_
  split
  · intro channel hchannel
    exact List.mem_filter.1 ((mem_orderBy _).1 (List.mem_of_mem_take hchannel))
  · exact collect_forall (fun _ _ h => channel_of_channelsById h) (by simp)

theorem resolveSection_series {now : Instant} {row : HomeSection} (htype : row.type = .series) :
    d.Alive (d.resolveSection now row) := by
  unfold Db.resolveSection
  rw [htype]
  refine alive_titles d row (fun _ h => (List.not_mem_nil h).elim) ?_
  split
  · intro series hseries
    have hmem := List.mem_filter.1 ((mem_orderBy _).1 (List.mem_of_mem_take hseries))
    exact ⟨hmem.1, hmem.2⟩
  · exact collect_forall (fun _ _ h => published_of_seriesById h) (by simp)

theorem resolveSection_lists {now : Instant} {row : HomeSection} (htype : lists row.type = true) :
    d.Alive (d.resolveSection now row) := by
  have hpicked : (∀ movie ∈ (collectTitles row.limit (fun item => d.moviesById item.refId)
        (fun item => d.seriesById item.refId) (d.picks row.id) [] []).1, d.Visitable movie) ∧
      ∀ entry ∈ (collectTitles row.limit (fun item => d.moviesById item.refId)
        (fun item => d.seriesById item.refId) (d.picks row.id) [] []).2, d.Published entry :=
    collectTitles_forall (fun _ _ h => visitable_of_moviesById h)
      (fun _ _ h => published_of_seriesById h) (by simp) (by simp)
  rw [resolveSection_titles htype]
  have hfilled (titles : List Movie × List Series) (h : ∀ movie ∈ titles.1, d.Visitable movie) :
      ∀ movie ∈ (if titles.1 = [] ∧ titles.2 = [] then d.autoFill row.type row.limit
        else titles.1), d.Visitable movie := by
    split
    · exact fun movie hmovie => visitable_of_autoFill hmovie
    · exact h
  refine alive_titles d row ?_ hpicked.2
  split
  · exact hfilled _ hpicked.1
  · exact fun movie hmovie => hfilled _ hpicked.1 movie (mem_sliceTo hmovie)

/-- Every section of the page lists only what can be opened. -/
theorem resolveSection_alive (d : Db) (now : Instant) (row : HomeSection) :
    d.Alive (d.resolveSection now row) := by
  by_cases hlists : lists row.type = true
  · exact resolveSection_lists hlists
  · cases htype : row.type with
    | tv => exact resolveSection_tv htype
    | series => exact resolveSection_series htype
    | hero =>
        unfold Db.resolveSection
        rw [htype]
        exact alive_hero d now row _
    | plans =>
        unfold Db.resolveSection
        rw [htype]
        exact alive_payload d row
    | banners =>
        unfold Db.resolveSection
        rw [htype]
        exact { alive_payload d row with }
    | _ =>
        rw [htype] at hlists
        exact absurd rfl hlists

end

/-- The page of every title listed opens for a visitor who is not signed in. -/
structure HomeSectionPublic.Opens (slugs : Slugs) (canAccess : Movie → Bool → Bool) (d : Db)
    (payload : HomeSectionPublic) : Prop where
  movies : ∀ movie ∈ payload.movies, ∃ read,
    getMovieDetail slugs canAccess (slugs.content movie.id) false d = .ok read ∧ read.movie = movie
  series : ∀ series ∈ payload.series,
    getSeriesOr404 slugs (slugs.series series.id) true d.toTitles = .ok series
  channels : ∀ channel ∈ payload.channels, channel ∈ d.channels ∧ channel.isPublished = true
  movieSlides : ∀ slide ∈ payload.heroSlides, slide.contentType = .movie →
    ∃ id ∈ slide.contentId, ∃ read,
      getMovieDetail slugs canAccess (slugs.content id) false d = .ok read ∧ read.movie.id = id
  seriesSlides : ∀ slide ∈ payload.heroSlides, slide.contentType = .series →
    ∃ id ∈ slide.contentId, ∃ series,
      getSeriesOr404 slugs (slugs.series id) true d.toTitles = .ok series ∧ series.id = id

/-- Whatever branch has filled them, the sections of the page have no dead links. -/
theorem no_dead_links (slugs : Slugs) (canAccess : Movie → Bool → Bool) {d : Db}
    (hd : d.UniqueColumns slugs) (now : Instant) :
    ∀ payload ∈ d.resolvePublicSections now, payload.Opens slugs canAccess d := by
  intro payload hpayload
  obtain ⟨row, -, rfl⟩ := List.mem_map.1 hpayload
  have halive := resolveSection_alive d now row
  refine ⟨fun movie hmovie => getMovieDetail_of_visitable canAccess hd (halive.movies movie hmovie),
    fun series hseries => ?_, halive.channels, fun slide hslide htype => ?_,
    fun slide hslide htype => ?_⟩
  · have hpublished := halive.series series hseries
    exact getSeriesOr404_of_published hd hpublished.stored hpublished.published
  · obtain ⟨movie, hid, hvisitable⟩ := halive.movieSlides slide hslide htype
    obtain ⟨read, hread, rfl⟩ := getMovieDetail_of_visitable canAccess hd hvisitable
    exact ⟨read.movie.id, hid.symm, read, hread, rfl⟩
  · obtain ⟨series, hid, hpublished⟩ := halive.seriesSlides slide hslide htype
    exact ⟨series.id, hid.symm, series,
      getSeriesOr404_of_published hd hpublished.stored hpublished.published, rfl⟩

/-! ## A page of one draft -/

namespace Trailer

/-- A draft on the coming-soon rail. -/
def db : Db :=
  { contents := [⟨7, .single, false, some "posters/7.jpg", 0⟩], series := [], channels := [],
    heroItems := [], banners := [], freeTodayItems := [], comingSoonItems := [⟨7, 0, 0⟩],
    sections := [⟨1, .comingSoon, none, none, true, 0, none, 0⟩], items := [] }

def slugs : Slugs := ⟨fun _ => "the-cub", fun _ => "the-cub"⟩

theorem db_uniqueColumns : db.UniqueColumns slugs := by
  constructor <;> unfold Sql.Unique <;> decide

end Trailer

theorem draft_opens :
    (Trailer.db.resolvePublicSections 0).map (fun payload => payload.movies.map Movie.id) = [[7]] ∧
    ∀ payload ∈ Trailer.db.resolvePublicSections 0,
      payload.Opens Trailer.slugs (fun movie _ => movie.isPublished) Trailer.db :=
  ⟨by decide, no_dead_links Trailer.slugs (fun movie _ => movie.isPublished)
    Trailer.db_uniqueColumns 0⟩

end MovieApi.HomePage
