import MovieApi.HomePage.Builder
import MovieApi.Sql.OrderBy

/-!
# The home page as visitors see it

`resolve_public_sections`: the visible sections in order, each filled with its
picks, or from the catalogue when none of them can be shown.
-/

namespace MovieApi.HomePage

open Catalog (SectionType ItemKind)
open Publishing (Uuid)
open Sql

/-! ## Orders -/

/-- `sort_order ASC, created_at DESC`. -/
def newestFirst (sortOrder createdAt sortOrder' createdAt' : Int) : Prop :=
  sortOrder < sortOrder' ∨ (sortOrder = sortOrder' ∧ createdAt' ≤ createdAt)

instance (a b c e : Int) : Decidable (newestFirst a b c e) := inferInstanceAs (Decidable (_ ∨ _))

/-- The order of an admin's picks. -/
def HomeSectionItem.le (item item' : HomeSectionItem) : Prop :=
  newestFirst item.sortOrder item.createdAt item'.sortOrder item'.createdAt

instance : DecidableRel HomeSectionItem.le := fun _ _ => inferInstanceAs (Decidable (newestFirst ..))

/-- `sort_order ASC, created_at ASC`. -/
def HomeSection.le (row row' : HomeSection) : Prop :=
  row.sortOrder < row'.sortOrder ∨ (row.sortOrder = row'.sortOrder ∧ row.createdAt ≤ row'.createdAt)

instance : DecidableRel HomeSection.le := fun _ _ => inferInstanceAs (Decidable (_ ∨ _))

def HeroFeaturedItem.le (slide slide' : HeroFeaturedItem) : Prop :=
  newestFirst slide.sortOrder slide.createdAt slide'.sortOrder slide'.createdAt

instance : DecidableRel HeroFeaturedItem.le :=
  fun _ _ => inferInstanceAs (Decidable (newestFirst ..))

def PromotionBanner.le (banner banner' : PromotionBanner) : Prop :=
  newestFirst banner.sortOrder banner.createdAt banner'.sortOrder banner'.createdAt

instance : DecidableRel PromotionBanner.le :=
  fun _ _ => inferInstanceAs (Decidable (newestFirst ..))

/-- Live channels first, then `sort_order ASC, name ASC`. -/
def TVChannel.le (channel channel' : TVChannel) : Prop :=
  (channel.status = "live" ∧ channel'.status ≠ "live") ∨
    ((channel.status = "live" ↔ channel'.status = "live") ∧
      (channel.sortOrder < channel'.sortOrder ∨
        (channel.sortOrder = channel'.sortOrder ∧ channel.name ≤ channel'.name)))

instance : DecidableRel TVChannel.le := fun _ _ => inferInstanceAs (Decidable (_ ∨ _))

def Movie.newer (movie movie' : Movie) : Prop := movie'.createdAt ≤ movie.createdAt

instance : DecidableRel Movie.newer := fun _ _ => inferInstanceAs (Decidable (_ ≤ _))

def Series.newer (series series' : Series) : Prop := series'.createdAt ≤ series.createdAt

instance : DecidableRel Series.newer := fun _ _ => inferInstanceAs (Decidable (_ ≤ _))

/-! ## Slides and banners -/

/-- The schedule of a slide or a banner. -/
def showing (now : Instant) (startsAt endsAt : Option Instant) : Bool :=
  startsAt.all (fun start => decide (start ≤ now)) && endsAt.all fun stop => decide (now ≤ stop)

/-- `list_active_hero_items`. -/
def Titles.listActiveHeroItems (d : Titles) (now : Instant) (placement : String) :
    List HeroFeaturedItem :=
  orderBy HeroFeaturedItem.le (d.heroItems.filter fun slide =>
    decide (slide.placement = placement) && slide.isActive &&
      showing now slide.startsAt slide.endsAt)

/-- A movie the public queries list. -/
def Movie.listed (movie : Movie) : Bool := decide (movie.type = .single) && movie.isPublished

def Titles.movie? (d : Titles) (id : Uuid) : Option Movie :=
  d.contents.find? fun movie => decide (movie.id = id) && movie.listed

def Titles.series? (d : Titles) (id : Uuid) : Option Series :=
  d.series.find? fun series => decide (series.id = id) && series.isPublished

def Titles.channel? (d : Titles) (id : Uuid) : Option TVChannel :=
  d.channels.find? fun channel => decide (channel.id = id) && channel.isPublished

def Titles.banner? (d : Titles) (id : Uuid) : Option PromotionBanner :=
  d.banners.find? fun banner => decide (banner.id = id)

/-- `_build_slide`: the slide of a title that is not public is left out. -/
def Titles.buildSlide (d : Titles) (slide : HeroFeaturedItem) : Option HeroFeaturedItem :=
  match slide.contentType with
  | .custom => some slide
  | .movie => (slide.contentId.bind d.movie?).map fun _ => slide
  | .series => (slide.contentId.bind d.series?).map fun _ => slide

/-- `resolve_hero_slides`. -/
def Titles.resolveHeroSlides (d : Titles) (now : Instant) (placement : String) :
    List HeroFeaturedItem :=
  (d.listActiveHeroItems now placement).filterMap d.buildSlide

/-- `list_active_promotion_banners`. -/
def Titles.listActivePromotionBanners (d : Titles) (now : Instant) (placement : String) :
    List PromotionBanner :=
  orderBy PromotionBanner.le (d.banners.filter fun banner =>
    decide (banner.placement = placement) && banner.isActive &&
      showing now banner.startsAt banner.endsAt)

/-! ## Rails of the catalogue -/

/-- A joined row: the movie and the columns it is ordered by. -/
structure Placed where
  sortOrder : Int
  createdAt : Instant
  movie : Movie
deriving DecidableEq, Repr

def Placed.le (placed placed' : Placed) : Prop :=
  newestFirst placed.sortOrder placed.createdAt placed'.sortOrder placed'.createdAt

instance : DecidableRel Placed.le := fun _ _ => inferInstanceAs (Decidable (newestFirst ..))

/-- `JOIN … ORDER BY … LIMIT`. -/
def joined (limit : Nat) (rows : List Placed) : List Movie :=
  ((orderBy Placed.le rows).take limit).map (·.movie)

def RailItem.placed (item : RailItem) (movies : List Movie) : List Placed :=
  (movies.filter fun movie => decide (movie.id = item.contentId)).map fun movie =>
    ⟨item.sortOrder, item.createdAt, movie⟩

/-- `FREE_TODAY_MAX`. -/
def freeTodayMax : Nat := 10

/-- `COMING_SOON_MAX`. -/
def comingSoonMax : Nat := 12

/-- `sort_order ASC`. -/
def HomeSection.before (row row' : HomeSection) : Prop := row.sortOrder ≤ row'.sortOrder

instance : DecidableRel HomeSection.before := fun _ _ => inferInstanceAs (Decidable (_ ≤ _))

/-- `resolve_free_today_movies`. -/
def Db.resolveFreeTodayMovies (d : Db) : List Movie :=
  let listed := d.contents.filter Movie.listed
  let legacy := joined freeTodayMax (d.freeTodayItems.flatMap fun item => item.placed listed)
  match (orderBy HomeSection.before
      (d.sections.filter fun row => decide (row.type = .freeToday) && row.isVisible)).head? with
  | none => legacy
  | some row =>
      let items := d.items.filter fun item =>
        decide (item.sectionId = row.id ∧ item.itemKind = .movie)
      if 0 < items.length then
        joined freeTodayMax (items.flatMap fun item =>
          (⟨item.refId, item.sortOrder, item.createdAt⟩ : RailItem).placed listed)
      else legacy

/-- `resolve_coming_soon_movies`: published or not, with a poster. -/
def Titles.resolveComingSoonMovies (d : Titles) : List Movie :=
  let movies := d.contents.filter fun movie =>
    decide (movie.type = .single) && movie.posterKey.any fun key => decide (key ≠ "")
  joined comingSoonMax (d.comingSoonItems.flatMap fun item => item.placed movies)

/-! ## Filling a section -/

structure HomeSectionPublic where
  id : Uuid
  type : SectionType
  title : Option String
  genreName : Option String
  sortOrder : Int
  movies : List Movie
  series : List Series
  channels : List TVChannel
  heroSlides : List HeroFeaturedItem
  banners : List PromotionBanner
deriving DecidableEq, Repr

/-- The payload before it is filled. -/
def HomeSection.payload (row : HomeSection) : HomeSectionPublic :=
  ⟨row.id, row.type, row.title, row.genreName, row.sortOrder, [], [], [], [], []⟩

/-- `cap is not None and count >= cap`. -/
def full (cap : Option Int) (count : Nat) : Bool :=
  cap.any fun cap : Int => decide (cap ≤ count)

/-- `rows[:stop]`; a negative `stop` counts from the end. -/
def sliceTo {α : Type} (stop : Int) (rows : List α) : List α :=
  if stop < 0 then rows.take (rows.length - stop.natAbs) else rows.take stop.toNat

/-- The loop over the picks of one kind: those that can be shown, until the
section is full. -/
def collect {α : Type} (cap : Option Int) (show? : HomeSectionItem → Option α) :
    List HomeSectionItem → List α → List α
  | [], shown => shown
  | item :: rows, shown =>
      match show? item with
      | none => collect cap show? rows shown
      | some entry =>
          let shown := shown ++ [entry]
          if full cap shown.length then shown else collect cap show? rows shown

/-- The loop over the picks of a section of movies, which in a custom section
also lists series. -/
def collectTitles (cap : Option Int) (movie? : HomeSectionItem → Option Movie)
    (series? : HomeSectionItem → Option Series) :
    List HomeSectionItem → List Movie → List Series → List Movie × List Series
  | [], movies, series => (movies, series)
  | item :: rows, movies, series =>
      let next := fun (movies : List Movie) (series : List Series) =>
        if full cap (movies.length + series.length) then (movies, series)
        else collectTitles cap movie? series? rows movies series
      match item.itemKind with
      | .movie =>
          match movie? item with
          | none => collectTitles cap movie? series? rows movies series
          | some movie => next (movies ++ [movie]) series
      | .series =>
          match series? item with
          | none => collectTitles cap movie? series? rows movies series
          | some entry => next movies (series ++ [entry])
      | _ => next movies series

/-- The picks of a section in the admin's order. -/
def Db.picks (d : Db) (sectionId : Uuid) : List HomeSectionItem :=
  orderBy HomeSectionItem.le (d.items.filter fun item => decide (item.sectionId = sectionId))

/-- The visible sections in order. -/
def Db.visibleSections (d : Db) : List HomeSection :=
  orderBy HomeSection.le (d.sections.filter (·.isVisible))

/-- Is the row of this id loaded?  Only the rows that an item of the kind on a
visible section names are. -/
def Db.loaded (d : Db) (kind : ItemKind) (refId : Uuid) : Bool :=
  d.items.any fun item => decide (item.itemKind = kind ∧ item.refId = refId) &&
    d.visibleSections.any fun row => decide (row.id = item.sectionId)

/-- `movies_by_id`. -/
def Db.moviesById (d : Db) (refId : Uuid) : Option Movie :=
  if d.loaded .movie refId then d.movie? refId else none

/-- `series_by_id`. -/
def Db.seriesById (d : Db) (refId : Uuid) : Option Series :=
  if d.loaded .series refId then d.series? refId else none

/-- `channels_by_id`. -/
def Db.channelsById (d : Db) (refId : Uuid) : Option TVChannel :=
  if d.loaded .tvChannel refId then d.channel? refId else none

/-- `banners_by_id`. -/
def Db.bannersById (d : Db) (refId : Uuid) : Option PromotionBanner :=
  if d.loaded .banner refId then d.banner? refId else none

/-- `cap or default`. -/
def capOr (cap : Option Int) (default : Int) : Int :=
  match cap with
  | none => default
  | some cap => if cap = 0 then default else cap

/-- What a movie rail shows when no pick can be shown. -/
def Db.autoFill (d : Db) (type : SectionType) (cap : Option Int) : List Movie :=
  match type with
  | .freeToday => d.resolveFreeTodayMovies
  | .comingSoon => d.resolveComingSoonMovies
  | .trending =>
      let catalog :=
        (orderBy Movie.newer (d.contents.filter Movie.listed)).take (capOr cap 12 + 10).toNat
      (sliceTo (10 + capOr cap 12) catalog).drop 10
  | .mostWatched =>
      let catalog :=
        (orderBy Movie.newer (d.contents.filter Movie.listed)).take (capOr cap 12 + 10).toNat
      sliceTo (capOr cap 10) catalog
  | _ => []

/-- One section of `resolve_public_sections`. -/
def Db.resolveSection (d : Db) (now : Instant) (row : HomeSection) : HomeSectionPublic :=
  let cap := row.limit
  let rows := d.picks row.id
  match row.type with
  | .plans => row.payload
  | .hero =>
      let slides := d.resolveHeroSlides now "home"
      { row.payload with heroSlides := sliceTo (capOr cap slides.length) slides }
  | .banners =>
      let picked := collect cap
        (fun item => (d.bannersById item.refId).filter (·.isActive)) rows []
      let banners := if picked = [] then d.listActivePromotionBanners now "home" else picked
      { row.payload with banners := sliceTo (capOr cap banners.length) banners }
  | .tv =>
      let picked := collect cap (fun item => d.channelsById item.refId) rows []
      let channels := if picked = [] then
          (orderBy TVChannel.le (d.channels.filter (·.isPublished))).take (capOr cap 12).toNat
        else picked
      { row.payload with channels := channels }
  | .series =>
      let picked := collect cap (fun item => d.seriesById item.refId) rows []
      let series := if picked = [] then
          (orderBy Series.newer (d.series.filter (·.isPublished))).take (capOr cap 12).toNat
        else picked
      { row.payload with series := series }
  | _ =>
      let (movies, series) := collectTitles cap (fun item => d.moviesById item.refId)
        (fun item => d.seriesById item.refId) rows [] []
      let movies := if movies = [] ∧ series = [] then d.autoFill row.type cap else movies
      -- automatic fills use their own sizes
      { row.payload with
        movies := match cap with
          | none => movies
          | some cap => sliceTo cap movies
        series := series }

/-- `resolve_public_sections`. -/
def Db.resolvePublicSections (d : Db) (now : Instant) : List HomeSectionPublic :=
  d.visibleSections.map (d.resolveSection now)

end MovieApi.HomePage
