import MovieApi.Publishing.State

/-!
# Requests that create and update titles

The admin routes for movies, series, podcasts and episodes, as far as they
decide the publish state.  A request answers with the database it commits, or
with the error after which nothing is committed.  In a `PATCH` body a field may
be missing, null or set.
-/

namespace MovieApi.Publishing

open Sql

/-! ## Storage and keys -/

/-- The object storage, as the routes use it. -/
structure Storage where
  completeMultipartUpload : (sourceKey uploadId : String) → Except Err Unit
  objectExists : String → Bool
  optimizeImage : String → String

/-- `verify_storage_objects_exist` for one key. -/
def verifyStorageObjectExists (storage : Storage) (key : Option String)
    (missingDetail : String) : Except Err Unit :=
  if present key = true ∧ key.all storage.objectExists = false then .error (.http 409 missingDetail)
  else .ok ()

/-- `optimize_r2_image`. -/
def optimizeR2Image (storage : Storage) (key : Option String) : Option String :=
  if present key then key.map storage.optimizeImage else key

def movieDir (slug : String) : String := "movies/" ++ slug

def movieSourceKey (slug : String) : String := movieDir slug ++ "/source.mp4"

def isMovieAssetKey (slug key : String) : Bool := (movieDir slug ++ "/").isPrefixOf key

def episodeDir (seriesSlug episodeSlug : String) : String :=
  "series/" ++ seriesSlug ++ "/episodes/" ++ episodeSlug

def episodeSourceKey (seriesSlug episodeSlug : String) : String :=
  episodeDir seriesSlug episodeSlug ++ "/source.mp4"

def isEpisodeAssetKey (seriesSlug episodeSlug key : String) : Bool :=
  (episodeDir seriesSlug episodeSlug ++ "/").isPrefixOf key

/-! ## Bodies -/

structure ContentUpdate where
  status : Option (Option String)
  isPublished : Option (Option Bool)
  publishAt : Option (Option Instant)
deriving DecidableEq, Repr

structure SeriesUpdate where
  status : Option (Option String)
  isPublished : Option (Option Bool)
  publishAt : Option (Option Instant)
  posterKey : Option (Option String)
deriving DecidableEq, Repr

structure MovieUploadComplete where
  contentId : Uuid
  slug : String
  sourceKey : String
  uploadId : String
  status : String
  publishAt : Option Instant
  posterKey : Option String
  bannerKey : Option String
deriving DecidableEq, Repr

structure EpisodeUploadComplete where
  contentId : Uuid
  episodeSlug : String
  sourceKey : String
  uploadId : String
  status : String
  posterKey : Option String
deriving DecidableEq, Repr

structure CreateSeriesBody where
  status : String
  publishAt : Option Instant
deriving DecidableEq, Repr

/-! ## Shared steps -/

def check (ok : Bool) (err : Err) : Except Err Unit :=
  if ok then .ok () else .error err

/-- A title that is published has to have what that takes. -/
def whenPublished (status : ContentStatus) (ensure : Except Err Unit) : Except Err Unit :=
  if status = .published then ensure else .ok ()

/-- `validate_content_status`, whose error the routes turn into a 422. -/
def validateContentStatus (status : Option String) : Except Err ContentStatus :=
  match status.bind ContentStatus.parse with
  | none => .error invalidStatus
  | some status => .ok status

/-- An insert the keys of `content` accept. -/
def Db.addContent (content : Content) (d : Db) : Except Err Db :=
  if d.contents.any fun row => decide (row.id = content.id ∨ row.slug = content.slug) then
    .error .integrity
  else .ok { d with contents := d.contents ++ [content] }

def Db.addSeries (series : Series) (d : Db) : Except Err Db :=
  if d.series.any fun row => decide (row.id = series.id ∨ row.slug = series.slug) then
    .error .integrity
  else .ok { d with series := d.series ++ [series] }

def Db.saveContent (content : Content) (d : Db) : Db :=
  { d with contents := modify Content.id content.id (fun _ => content) d.contents }

def Db.saveSeries (series : Series) (d : Db) : Db :=
  { d with series := modify Series.id series.id (fun _ => series) d.series }

/-- Load a title, update it, commit. -/
def Db.patchContent (d : Db) (found : Option Content) (missing : Err)
    (update : Content → Except Err Content) : Except Err Db :=
  match found with
  | none => .error missing
  | some row => do
      let row ← update row
      .ok (d.saveContent row)

def Db.findSeries (d : Db) (slug : String) : Except Err Series :=
  match d.series.find? fun series => series.slug = slug with
  | none => .error (notFound "Series not found")
  | some series => .ok series

/-! ## Movies -/

/-- A title without assets, as the draft routes create it. -/
def draft (type : ContentType) (id : Uuid) (slug : String) : Content :=
  { id := id, type := type, seriesId := none, slug := slug, posterKey := none,
    hlsMasterKey := none, audioKey := none, transcodeStatus := .pending,
    status := .draft, isPublished := false, publishAt := none }

def createAdminMovieDraft (id : Uuid) (slug : String) (d : Db) : Except Err Db :=
  d.addContent (draft .single id slug)

/-- The movie `complete_movie_upload` adds, before its state is normalized. -/
def uploadedMovie (storage : Storage) (body : MovieUploadComplete) (status : ContentStatus) :
    Content :=
  { draft .single body.contentId body.slug with
    posterKey := optimizeR2Image storage body.posterKey
    status := status
    publishAt := body.publishAt }

def completeMovieUpload (storage : Storage) (body : MovieUploadComplete) (d : Db) :
    Except Err Db := do
  let status ← validateContentStatus (some body.status)
  check (decide (body.sourceKey = movieSourceKey body.slug))
    (unprocessable "source_key does not match slug")
  check (!present body.posterKey || body.posterKey.all (isMovieAssetKey body.slug))
    (unprocessable "poster_key does not match slug")
  check (!present body.bannerKey || body.bannerKey.all (isMovieAssetKey body.slug))
    (unprocessable "banner_key does not match slug")
  check (!(decide (status = .published) && !present body.posterKey)) posterRequired
  storage.completeMultipartUpload body.sourceKey body.uploadId
  verifyStorageObjectExists storage body.posterKey "Poster upload is not available in storage yet"
  verifyStorageObjectExists storage body.bannerKey "Banner upload is not available in storage yet"
  let movie ← applyMoviePublishState (uploadedMovie storage body status) (some body.status)
    body.publishAt true
  let jobs := d.jobs ++ [body.contentId]
  whenPublished movie.status (ensureMoviePublishable jobs movie)
  let d ← d.addContent movie
  .ok { d with jobs := jobs }

/-- The body sets a status or touches the schedule. -/
def ContentUpdate.normalizes (body : ContentUpdate) : Bool :=
  body.status.join.isSome || body.publishAt.isSome

def ContentUpdate.normalize (body : ContentUpdate) (movie : Content) : Except Err Content :=
  if body.normalizes then
    applyMoviePublishState movie body.status.join body.publishAt.join body.publishAt.isSome
  else .ok movie

/-- `update_movie` and `update_admin_movie` on the loaded row: the fields of the
body are set one by one, then a status or a schedule normalizes the state.  A
null flag that nothing overwrote is refused by its column. -/
def updateMovieRow (jobs : List Uuid) (body : ContentUpdate) (movie : Content) :
    Except Err Content := do
  let flag := body.isPublished.getD (some movie.isPublished)
  let movie ← body.normalize { movie with isPublished := flag.getD false }
  whenPublished movie.status (ensureMoviePublishable jobs movie)
  check (flag.isSome || body.normalizes) .integrity
  .ok movie

def Db.movieBySlug (d : Db) (slug : String) : Option Content :=
  d.contents.find? fun movie => movie.slug = slug ∧ movie.type = .single

def Db.movieById (d : Db) (id : Uuid) : Option Content :=
  d.contents.find? fun movie => movie.id = id ∧ movie.type = .single

def updateMovie (slug : String) (body : ContentUpdate) (d : Db) : Except Err Db :=
  d.patchContent (d.movieBySlug slug) (notFound "Movie not found") (updateMovieRow d.jobs body)

def updateAdminMovie (id : Uuid) (body : ContentUpdate) (d : Db) : Except Err Db :=
  d.patchContent (d.movieById id) (notFound "Movie not found") (updateMovieRow d.jobs body)

/-! ## Podcasts -/

def createAdminPodcastDraft (id : Uuid) (slug : String) (d : Db) : Except Err Db :=
  d.addContent (draft .podcast id slug)

/-- The status a body asks for; null is refused like an unknown one. -/
def ContentUpdate.newStatus (body : ContentUpdate) (row : Content) : Except Err ContentStatus :=
  match body.status with
  | none => .ok row.status
  | some status => validateContentStatus status

/-- `update_admin_podcast` on the loaded row: a status decides the flag. -/
def updatePodcastRow (body : ContentUpdate) (podcast : Content) : Except Err Content := do
  let status ← body.newStatus podcast
  let flag := if body.status.isSome then some (decide (status = .published))
    else body.isPublished.getD (some podcast.isPublished)
  let podcast := { podcast with
    status := status
    isPublished := flag.getD false
    publishAt := body.publishAt.getD podcast.publishAt }
  whenPublished podcast.status (ensurePodcastPublishable podcast)
  check flag.isSome .integrity
  .ok podcast

def Db.podcastById (d : Db) (id : Uuid) : Option Content :=
  d.contents.find? fun podcast => podcast.id = id ∧ podcast.type = .podcast

def updateAdminPodcast (id : Uuid) (body : ContentUpdate) (d : Db) : Except Err Db :=
  d.patchContent (d.podcastById id) (notFound "Podcast not found") (updatePodcastRow body)

/-! ## Series -/

/-- The series `create_series` adds, before its state is normalized. -/
def newSeries (id : Uuid) (slug : String) (status : ContentStatus) (publishAt : Option Instant) :
    Series :=
  { id := id, slug := slug, posterKey := none,
    status := status, isPublished := false, publishAt := publishAt }

/-- A series without artwork starts as a draft. -/
def unpublished (series : Series) : Except Err Series :=
  if series.status = .published then applySeriesPublishState series (some "draft") none false
  else .ok series

/-- `create_series`, with the id and the slug it generates. -/
def createSeries (id : Uuid) (slug : String) (body : CreateSeriesBody) (d : Db) :
    Except Err Db := do
  let status ← validateContentStatus (some body.status)
  let series ← applySeriesPublishState (newSeries id slug status body.publishAt)
    (some body.status) body.publishAt true
  let series ← unpublished series
  d.addSeries series

def applyLegacyIsPublished (series : Series) (isPublished : Bool) : Except Err Series :=
  if isPublished then applySeriesPublishState series (some "published") none false
  else applySeriesPublishState series (some "draft") none false

def SeriesUpdate.normalize (body : SeriesUpdate) (series : Series) : Except Err Series :=
  if body.status.join.isSome || body.publishAt.isSome then
    applySeriesPublishState series body.status.join body.publishAt.join body.publishAt.isSome
  else match body.isPublished.join with
    | none => .ok series
    | some isPublished => applyLegacyIsPublished series isPublished

/-- `update_series` on the loaded row. -/
def updateSeriesRow (storage : Storage) (body : SeriesUpdate) (series : Series) :
    Except Err Series := do
  let posterKey := match body.posterKey with
    | none => series.posterKey
    | some key => optimizeR2Image storage key
  let series ← body.normalize { series with posterKey := posterKey }
  whenPublished series.status (ensureSeriesPublishable series)
  .ok series

def updateSeries (storage : Storage) (slug : String) (body : SeriesUpdate) (d : Db) :
    Except Err Db := do
  let series ← d.findSeries slug
  let series ← updateSeriesRow storage body series
  .ok (d.saveSeries series)

/-! ## Episodes -/

/-- The episode `complete_episode_upload` adds. -/
def uploadedEpisode (storage : Storage) (seriesId : Uuid) (body : EpisodeUploadComplete)
    (status : ContentStatus) : Content :=
  { draft .episode body.contentId body.episodeSlug with
    seriesId := some seriesId
    posterKey := optimizeR2Image storage body.posterKey
    status := status
    isPublished := decide (status = .published) }

def completeEpisodeUpload (storage : Storage) (slug : String) (body : EpisodeUploadComplete)
    (d : Db) : Except Err Db := do
  let status ← validateContentStatus (some body.status)
  let series ← d.findSeries slug
  check (decide (body.sourceKey = episodeSourceKey slug body.episodeSlug))
    (unprocessable "source_key does not match episode_slug")
  check (!present body.posterKey || body.posterKey.all (isEpisodeAssetKey slug body.episodeSlug))
    (unprocessable "poster_key does not match episode_slug")
  storage.completeMultipartUpload body.sourceKey body.uploadId
  verifyStorageObjectExists storage body.posterKey "Poster upload is not available in storage yet"
  let d ← d.addContent (uploadedEpisode storage series.id body status)
  .ok { d with jobs := d.jobs ++ [body.contentId] }

/-- `update_episode` on the loaded row: a status decides the flag only if the
body has none. -/
def updateEpisodeRow (body : ContentUpdate) (episode : Content) : Except Err Content := do
  let status ← body.newStatus episode
  let flag := body.isPublished.getD
    (some (if body.status.isSome then decide (status = .published) else episode.isPublished))
  check flag.isSome .integrity
  .ok { episode with
    status := status
    isPublished := flag.getD false
    publishAt := body.publishAt.getD episode.publishAt }

def Db.episodeBySlug (d : Db) (seriesId : Uuid) (slug : String) : Option Content :=
  d.contents.find? fun episode =>
    episode.slug = slug ∧ episode.seriesId = some seriesId ∧ episode.type = .episode

def updateEpisode (slug episodeSlug : String) (body : ContentUpdate) (d : Db) :
    Except Err Db := do
  let series ← d.findSeries slug
  d.patchContent (d.episodeBySlug series.id episodeSlug) (notFound "Episode not found")
    (updateEpisodeRow body)

/-! ## All of them -/

inductive Request where
  | createAdminMovieDraft (id : Uuid) (slug : String)
  | completeMovieUpload (storage : Storage) (body : MovieUploadComplete)
  | updateMovie (slug : String) (body : ContentUpdate)
  | updateAdminMovie (id : Uuid) (body : ContentUpdate)
  | createAdminPodcastDraft (id : Uuid) (slug : String)
  | updateAdminPodcast (id : Uuid) (body : ContentUpdate)
  | createSeries (id : Uuid) (slug : String) (body : CreateSeriesBody)
  | updateSeries (storage : Storage) (slug : String) (body : SeriesUpdate)
  | completeEpisodeUpload (storage : Storage) (slug : String) (body : EpisodeUploadComplete)
  | updateEpisode (slug episodeSlug : String) (body : ContentUpdate)

def Request.run : Request → Db → Except Err Db
  | .createAdminMovieDraft id slug => Publishing.createAdminMovieDraft id slug
  | .completeMovieUpload storage body => Publishing.completeMovieUpload storage body
  | .updateMovie slug body => Publishing.updateMovie slug body
  | .updateAdminMovie id body => Publishing.updateAdminMovie id body
  | .createAdminPodcastDraft id slug => Publishing.createAdminPodcastDraft id slug
  | .updateAdminPodcast id body => Publishing.updateAdminPodcast id body
  | .createSeries id slug body => Publishing.createSeries id slug body
  | .updateSeries storage slug body => Publishing.updateSeries storage slug body
  | .completeEpisodeUpload storage slug body => Publishing.completeEpisodeUpload storage slug body
  | .updateEpisode slug episodeSlug body => Publishing.updateEpisode slug episodeSlug body

end MovieApi.Publishing
