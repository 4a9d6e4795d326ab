import MovieApi.Catalog.FreeToday
import MovieApi.Publishing.Requests

/-!
# Home sections and the deletions that clean up after them

An item of a home section names a movie, a series, a channel, a hero slide or a
banner by kind and id, without a foreign key.  `validate_item_add` looks the row
up when the item is added.  The deletions of `content_delete.py` and of the
admin routes remove items by hand, where they do.
-/

namespace MovieApi.HomeSections

open Catalog (SectionType ItemKind)
open Publishing (Uuid Err notFound Content Series)

/-! ## Rows -/

structure TVChannel where
  id : Uuid
  status : String
deriving DecidableEq, Repr

inductive SlideType where
  | movie | series | custom
deriving DecidableEq, Repr

structure HeroFeaturedItem where
  id : Uuid
  contentType : SlideType
  contentId : Option Uuid
deriving DecidableEq, Repr

structure PromotionBanner where
  id : Uuid
deriving DecidableEq, Repr

structure HomeSection where
  id : Uuid
  type : SectionType
  itemLimit : Option Int
deriving DecidableEq, Repr

structure HomeSectionItem where
  id : Uuid
  sectionId : Uuid
  itemKind : ItemKind
  refId : Uuid
  sortOrder : Int
deriving DecidableEq, Repr

structure Db extends Publishing.Db where
  channels : List TVChannel
  heroSlides : List HeroFeaturedItem
  banners : List PromotionBanner
  sections : List HomeSection
  items : List HomeSectionItem
deriving DecidableEq, Repr

/-! ## Adding items -/

def typeText : SectionType → String
  | .hero => "hero"
  | .banners => "banners"
  | .tv => "tv"
  | .freeToday => "free_today"
  | .trending => "trending"
  | .mostWatched => "most_watched"
  | .comingSoon => "coming_soon"
  | .series => "series"
  | .genre => "genre"
  | .custom => "custom"
  | .plans => "plans"

def kindText : ItemKind → String
  | .movie => "movie"
  | .series => "series"
  | .tvChannel => "tv_channel"
  | .heroSlide => "hero_slide"
  | .banner => "banner"

/-- `ITEM_KINDS_BY_TYPE`. -/
def itemKindsByType : SectionType → List ItemKind
  | .freeToday | .trending | .mostWatched | .comingSoon | .genre => [.movie]
  | .custom => [.movie, .series]
  | .series => [.series]
  | .tv => [.tvChannel]
  | .hero => [.heroSlide]
  | .banners => [.banner]
  | .plans => []

/-- `SECTION_CAPS`. -/
def sectionCaps : SectionType → Option Int
  | .freeToday | .mostWatched | .hero | .banners => some 10
  | .trending | .comingSoon | .series | .genre | .custom | .tv => some 12
  | .plans => none

/-- `LIMIT_EDITABLE_TYPES`. -/
def limitEditable (type : SectionType) : Bool :=
  (sectionCaps type).isSome && decide (type ≠ .hero) && decide (type ≠ .banners)

def effectiveItemLimit (type : SectionType) (chosen : Option Int) : Option Int :=
  match chosen with
  | some limit => if limitEditable type then some limit else sectionCaps type
  | none => sectionCaps type

/-- The row an item names, as `validate_item_add` looks for it. -/
def Db.hasReference (d : Db) (kind : ItemKind) (refId : Uuid) : Bool :=
  match kind with
  | .movie => d.contents.any fun row => decide (row.id = refId ∧ row.type = .single)
  | .series => d.series.any fun row => decide (row.id = refId)
  | .tvChannel => d.channels.any fun row => decide (row.id = refId)
  | .heroSlide => d.heroSlides.any fun row => decide (row.id = refId)
  | .banner => d.banners.any fun row => decide (row.id = refId)

def missing : ItemKind → String
  | .movie => "Movie not found"
  | .series => "Series not found"
  | .tvChannel => "TV channel not found"
  | .heroSlide => "Hero slide not found"
  | .banner => "Banner not found"

/-- `validate_item_add`, which raises a `ValueError` with a message. -/
def validateItemAdd (d : Db) (homeSection : HomeSection) (kind : ItemKind) (refId : Uuid) :
    Except String Unit :=
  if kind ∉ itemKindsByType homeSection.type then
    .error (typeText homeSection.type ++ " sections do not accept " ++ kindText kind ++ " items")
  else if d.hasReference kind refId = false then .error (missing kind)
  else if d.items.any fun item =>
      decide (item.sectionId = homeSection.id ∧ item.itemKind = kind ∧ item.refId = refId) then
    .error "Already on this section"
  else match effectiveItemLimit homeSection.type homeSection.itemLimit with
    | none => .ok ()
    | some cap =>
        if cap ≤ d.items.countP fun item => decide (item.sectionId = homeSection.id) then
          .error ("This section is limited to " ++ toString cap ++ " items")
        else .ok ()

/-- A message that says `not found` is a 404, any other a 409. -/
def itemRefused (message : String) : Err :=
  if (message.toLower.splitOn "not found").length > 1 then notFound message else .http 409 message

/-- An insert that the keys of `home_section_items` accept. -/
def Db.addItem (item : HomeSectionItem) (d : Db) : Except Err Db :=
  if d.items.any fun row => decide (row.id = item.id ∨
      (row.sectionId = item.sectionId ∧ row.itemKind = item.itemKind ∧ row.refId = item.refId)) then
    .error .integrity
  else .ok { d with items := d.items ++ [item] }

/-- `admin_create_home_section_item`; `item` carries the id drawn for the row
and the fields of the body. -/
def createHomeSectionItem (item : HomeSectionItem) (d : Db) : Except Err Db :=
  match d.sections.find? fun row => row.id = item.sectionId with
  | none => .error (notFound "Home section not found")
  | some homeSection =>
      match validateItemAdd d homeSection item.itemKind item.refId with
      | .error message => .error (itemRefused message)
      | .ok () => d.addItem item

/-! ## Removing items -/

def deleteHomeSectionItem (id : Uuid) (d : Db) : Except Err Db :=
  if d.items.any fun item => decide (item.id = id) then
    .ok { d with items := d.items.filter fun item => decide (item.id ≠ id) }
  else .error (notFound "Home section item not found")

/-- `admin_delete_home_section`; the items go with the section. -/
def deleteHomeSection (id : Uuid) (d : Db) : Except Err Db :=
  match d.sections.find? fun row => row.id = id with
  | none => .error (notFound "Home section not found")
  | some homeSection =>
      if homeSection.type ≠ .genre ∧ homeSection.type ≠ .custom then
        .error (.http 409 "Hide this section instead of deleting it")
      else .ok { d with
        sections := d.sections.filter fun row => decide (row.id ≠ id)
        items := d.items.filter fun item => decide (item.sectionId ≠ id) }

/-! ## Deleting titles -/

def deleteContentDependencies (contentId : Uuid) (d : Db) : Db :=
  { d with
    heroSlides := d.heroSlides.filter fun slide => decide (slide.contentId ≠ some contentId)
    items := d.items.filter fun item => decide (item.refId ≠ contentId)
    jobs := d.jobs.filter fun job => decide (job ≠ contentId) }

/-- `select(Content.id).where(Content.series_id == series_id)`. -/
def Db.episodeIds (d : Db) (seriesId : Uuid) : List Uuid :=
  (d.contents.filter fun row => decide (row.seriesId = some seriesId)).map (·.id)

def deleteContentDependenciesForSeries (seriesId : Uuid) (d : Db) : Db :=
  { d with
    heroSlides := d.heroSlides.filter fun slide =>
      !slide.contentId.any fun id => decide (id ∈ d.episodeIds seriesId)
    items := d.items.filter fun item => decide (item.refId ∉ d.episodeIds seriesId)
    jobs := d.jobs.filter fun job => decide (job ∉ d.episodeIds seriesId) }

def deleteSeriesAndDependencies (seriesId : Uuid) (d : Db) : Db :=
  let d := deleteContentDependenciesForSeries seriesId d
  { d with
    heroSlides := d.heroSlides.filter fun slide =>
      !decide (slide.contentId = some seriesId ∧ slide.contentType = .series)
    items := d.items.filter fun item => decide (item.refId ≠ seriesId)
    contents := d.contents.filter fun row => decide (row.seriesId ≠ some seriesId) }

/-- What every deletion of a movie, a podcast or an episode does once the row is
loaded. -/
def deleteContent (found : Option Content) (detail : String) (d : Db) : Except Err Db :=
  match found with
  | none => .error (notFound detail)
  | some row =>
      let d := deleteContentDependencies row.id d
      .ok { d with contents := d.contents.filter fun other => decide (other.id ≠ row.id) }

def deleteMovie (slug : String) (d : Db) : Except Err Db :=
  deleteContent (d.movieBySlug slug) "Movie not found" d

def deleteAdminMovie (movieId : Uuid) (d : Db) : Except Err Db :=
  deleteContent (d.movieById movieId) "Movie not found" d

def deleteAdminPodcast (podcastId : Uuid) (d : Db) : Except Err Db :=
  deleteContent (d.podcastById podcastId) "Podcast not found" d

def deleteEpisode (slug episodeSlug : String) (d : Db) : Except Err Db := do
  let series ← d.findSeries slug
  deleteContent (d.episodeBySlug series.id episodeSlug) "Episode not found" d

/-- Deleting the row of a series takes the episodes that still are there with
it. -/
def Db.removeSeries (seriesId : Uuid) (d : Db) : Db :=
  { d with
    series := d.series.filter fun row => decide (row.id ≠ seriesId)
    contents := d.contents.filter fun row => decide (row.seriesId ≠ some seriesId) }

def deleteSeries (slug : String) (d : Db) : Except Err Db := do
  let series ← d.findSeries slug
  .ok ((deleteSeriesAndDependencies series.id d).removeSeries series.id)

def deleteAdminSeries (seriesId : Uuid) (d : Db) : Except Err Db :=
  match d.series.find? fun row => row.id = seriesId with
  | none => .error (notFound "Series not found")
  | some series => .ok ((deleteSeriesAndDependencies series.id d).removeSeries series.id)

/-! ## Deleting channels, slides and banners -/

/-- How `live_client.stop_channel` ends. -/
inductive StopResult where
  | stopped
  | refused (status : Nat) (detail : String)
  | failed
deriving DecidableEq, Repr

/-- The call to the live service does not get past a failure it does not know. -/
def TVChannel.stopFails (channel : TVChannel) (stop : StopResult) : Bool :=
  decide ((channel.status = "live" ∨ channel.status = "starting") ∧ stop = .failed)

def deleteChannel (channelId : Uuid) (stop : StopResult) (d : Db) : Except Err Db :=
  match d.channels.find? fun row => row.id = channelId with
  | none => .error (notFound "Channel not found")
  | some channel =>
      if channel.stopFails stop then .error (.http 500 "Internal Server Error")
      else .ok { d with channels := d.channels.filter fun row => decide (row.id ≠ channelId) }

def deleteAdminHeroFeatured (itemId : Uuid) (d : Db) : Except Err Db :=
  if d.heroSlides.any fun row => decide (row.id = itemId) then
    .ok { d with heroSlides := d.heroSlides.filter fun row => decide (row.id ≠ itemId) }
  else .error (notFound "Hero featured item not found")

def deleteAdminPromotionBanner (bannerId : Uuid) (d : Db) : Except Err Db :=
  if d.banners.any fun row => decide (row.id = bannerId) then
    .ok { d with banners := d.banners.filter fun row => decide (row.id ≠ bannerId) }
  else .error (notFound "Promotion banner not found")

/-! ## All of them -/

inductive Request where
  | createHomeSectionItem (item : HomeSectionItem)
  | deleteHomeSectionItem (id : Uuid)
  | deleteHomeSection (id : Uuid)
  | deleteMovie (slug : String)
  | deleteAdminMovie (id : Uuid)
  | deleteAdminPodcast (id : Uuid)
  | deleteEpisode (slug episodeSlug : String)
  | deleteSeries (slug : String)
  | deleteAdminSeries (id : Uuid)
  | deleteChannel (id : Uuid) (stop : StopResult)
  | deleteAdminHeroFeatured (id : Uuid)
  | deleteAdminPromotionBanner (id : Uuid)
deriving DecidableEq, Repr

def Request.handle : Request → Db → Except Err Db
  | .createHomeSectionItem item => HomeSections.createHomeSectionItem item
  | .deleteHomeSectionItem id => HomeSections.deleteHomeSectionItem id
  | .deleteHomeSection id => HomeSections.deleteHomeSection id
  | .deleteMovie slug => HomeSections.deleteMovie slug
  | .deleteAdminMovie id => HomeSections.deleteAdminMovie id
  | .deleteAdminPodcast id => HomeSections.deleteAdminPodcast id
  | .deleteEpisode slug episodeSlug => HomeSections.deleteEpisode slug episodeSlug
  | .deleteSeries slug => HomeSections.deleteSeries slug
  | .deleteAdminSeries id => HomeSections.deleteAdminSeries id
  | .deleteChannel id stop => HomeSections.deleteChannel id stop
  | .deleteAdminHeroFeatured id => HomeSections.deleteAdminHeroFeatured id
  | .deleteAdminPromotionBanner id => HomeSections.deleteAdminPromotionBanner id

/-- A request that fails commits nothing. -/
def Db.after (d : Db) : Except Err Db → Db
  | .ok d' => d'
  | .error _ => d

def serve (request : Request) (d : Db) : Db :=
  d.after (request.handle d)

end MovieApi.HomeSections
