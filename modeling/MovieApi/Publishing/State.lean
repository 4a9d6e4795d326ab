import MovieApi.Sql.Table

/-!
# Publish state of movies, series, podcasts and episodes

The columns that say whether a title is live, what it takes to go live, and the
helpers `apply_movie_publish_state` and `apply_series_publish_state`.
-/

namespace MovieApi.Publishing

open Sql

abbrev Uuid := Nat

/-- Points in time, in microseconds. -/
abbrev Instant := Int

/-! ## Rows -/

inductive ContentType where
  | single | episode | podcast
deriving DecidableEq, Repr

/-- `VALID_CONTENT_STATUSES`. -/
inductive ContentStatus where
  | draft | review | scheduled | published
deriving DecidableEq, Repr

/-- `validate_content_status`. -/
def ContentStatus.parse : String → Option ContentStatus
  | "draft" => some .draft
  | "review" => some .review
  | "scheduled" => some .scheduled
  | "published" => some .published
  | _ => none

inductive TranscodeStatus where
  | pending | processing | ready | failed
deriving DecidableEq, Repr

structure PublishState where
  status : ContentStatus
  isPublished : Bool
  publishAt : Option Instant
deriving DecidableEq, Repr

structure Content extends PublishState where
  id : Uuid
  type : ContentType
  seriesId : Option Uuid
  slug : String
  posterKey : Option String
  hlsMasterKey : Option String
  audioKey : Option String
  transcodeStatus : TranscodeStatus
deriving DecidableEq, Repr

structure Series extends PublishState where
  id : Uuid
  slug : String
  posterKey : Option String
deriving DecidableEq, Repr

/-- `jobs` are the content ids of the rows of `transcode_jobs`. -/
structure Db where
  contents : List Content
  series : List Series
  jobs : List Uuid
deriving DecidableEq, Repr

/-- The keys the schema declares. -/
structure Db.Legal (d : Db) : Prop where
  contents : Unique Content.id d.contents
  slugs : Unique Content.slug d.contents
  series : Unique Series.id d.series
  seriesSlugs : Unique Series.slug d.series

/-! ## Errors -/

inductive Err where
  | http (status : Nat) (detail : String)
  | integrity
deriving DecidableEq, Repr

def unprocessable (detail : String) : Err := .http 422 detail

def notFound (detail : String) : Err := .http 404 detail

def invalidStatus : Err :=
  unprocessable "status must be one of ['draft', 'published', 'review', 'scheduled']"

def posterRequired : Err := unprocessable "A poster is required before publishing."

def videoRequired : Err := unprocessable "A movie video is required before publishing."

def coverRequired : Err := unprocessable "A cover image is required before publishing."

def audioRequired : Err := unprocessable "An audio file is required before publishing."

def scheduleRequired : Err := unprocessable "publish_at is required when status is scheduled."

/-! ## Readiness -/

/-- A key Python counts as true. -/
def present (key : Option String) : Bool :=
  key.any fun key => decide (key ≠ "")

def ensureMoviePublishable (jobs : List Uuid) (movie : Content) : Except Err Unit :=
  if movie.type ≠ .single then .ok ()
  else if present movie.posterKey = false then .error posterRequired
  else if present movie.hlsMasterKey then .ok ()
  else if movie.transcodeStatus = .processing ∨ movie.transcodeStatus = .ready then .ok ()
  else if movie.id ∈ jobs then .ok ()
  else .error videoRequired

def movieIsPublishable (jobs : List Uuid) (movie : Content) : Bool :=
  (ensureMoviePublishable jobs movie).isOk

def ensurePodcastPublishable (podcast : Content) : Except Err Unit :=
  if podcast.type ≠ .podcast then .ok ()
  else if present podcast.posterKey = false then .error coverRequired
  else if present podcast.audioKey = false then .error audioRequired
  else .ok ()

def ensureSeriesPublishable (series : Series) : Except Err Unit :=
  if present series.posterKey = false then .error posterRequired else .ok ()

def seriesIsPublishable (series : Series) : Bool :=
  (ensureSeriesPublishable series).isOk

/-! ## Normalization -/

/-- What both helpers do to the three columns once a status is valid:
published is live and has no schedule, scheduled needs one, draft and review
have none. -/
def PublishState.normalize (state : PublishState) : Except Err PublishState :=
  match state.status with
  | .published => .ok { state with isPublished := true, publishAt := none }
  | .scheduled =>
      match state.publishAt with
      | none => .error scheduleRequired
      | some _ => .ok { state with isPublished := false }
  | .draft | .review => .ok { state with isPublished := false, publishAt := none }

def PublishState.withStatus (state : PublishState) : Option String → Except Err PublishState
  | none => .ok state
  | some text =>
      match ContentStatus.parse text with
      | none => .error invalidStatus
      | some status => .ok { state with status := status }

def PublishState.withSchedule (state : PublishState) (publishAt : Option Instant)
    (publishAtSet : Bool) : PublishState :=
  if publishAtSet then { state with publishAt := publishAt } else state

def PublishState.apply (state : PublishState) (status : Option String)
    (publishAt : Option Instant) (publishAtSet : Bool) : Except Err PublishState := do
  let state ← state.withStatus status
  (state.withSchedule publishAt publishAtSet).normalize

/-- `apply_movie_publish_state`. -/
def applyMoviePublishState (movie : Content) (status : Option String)
    (publishAt : Option Instant) (publishAtSet : Bool) : Except Err Content :=
  if movie.type ≠ .single then .ok movie
  else do
    let state ← movie.toPublishState.apply status publishAt publishAtSet
    .ok { movie with toPublishState := state }

/-- `apply_series_publish_state`. -/
def applySeriesPublishState (series : Series) (status : Option String)
    (publishAt : Option Instant) (publishAtSet : Bool) : Except Err Series := do
  let state ← series.toPublishState.apply status publishAt publishAtSet
  .ok { series with toPublishState := state }

/-- `promote_scheduled_movie_to_published` and its series sibling. -/
def PublishState.promoted (_ : PublishState) : PublishState := ⟨.published, true, none⟩

def promoteScheduledMovieToPublished (movie : Content) : Content :=
  { movie with toPublishState := movie.toPublishState.promoted }

def promoteScheduledSeriesToPublished (series : Series) : Series :=
  { series with toPublishState := series.toPublishState.promoted }

/-! ## Coherence -/

/-- Live exactly when the status says so. -/
def PublishState.Live (state : PublishState) : Prop :=
  state.isPublished = true ↔ state.status = .published

/-- Scheduled exactly when there is a time. -/
def PublishState.Timed (state : PublishState) : Prop :=
  state.publishAt.isSome = true ↔ state.status = .scheduled

/-- A movie or series that is live exactly when published, and has a time
exactly when scheduled. -/
structure PublishState.Coherent (state : PublishState) : Prop where
  live : state.Live
  timed : state.Timed

instance (state : PublishState) : Decidable state.Live := inferInstanceAs (Decidable (_ ↔ _))

instance (state : PublishState) : Decidable state.Timed := inferInstanceAs (Decidable (_ ↔ _))

theorem PublishState.normalize_coherent {state state' : PublishState}
    (h : state.normalize = .ok state') : state'.Coherent := by
  unfold normalize at h
  split at h
  · next hstatus =>
      cases h
      exact ⟨by simp [Live, hstatus], by simp [Timed, hstatus]⟩
  · next hstatus =>
      split at h
      · simp at h
      · next at_ hat =>
          cases h
          exact ⟨by simp [Live, hstatus], by simp [Timed, hstatus, hat]⟩
  · next hstatus =>
      cases h
      exact ⟨by simp [Live, hstatus], by simp [Timed, hstatus]⟩
  · next hstatus =>
      cases h
      exact ⟨by simp [Live, hstatus], by simp [Timed, hstatus]⟩

/-- Whatever the row and the arguments were, the helpers leave a coherent state. -/
theorem PublishState.apply_coherent {state state' : PublishState} {status : Option String}
    {publishAt : Option Instant} {publishAtSet : Bool}
    (h : state.apply status publishAt publishAtSet = .ok state') : state'.Coherent := by
  unfold apply at h
  cases hstatus : state.withStatus status with
  | error e => simp [hstatus, bind, Except.bind] at h
  | ok state₁ =>
      simp only [hstatus, bind, Except.bind] at h
      exact normalize_coherent h

theorem PublishState.promoted_coherent (state : PublishState) : state.promoted.Coherent :=
  ⟨by simp [Live, promoted], by simp [Timed, promoted]⟩

end MovieApi.Publishing
