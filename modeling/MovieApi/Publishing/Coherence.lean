import MovieApi.Publishing.Requests
import MovieApi.Publishing.Sweeper

/-!
# Coherent publish states

A title is live exactly when its status says so, and a movie or series has a
time exactly when it is scheduled.  The routes keep this, unless a body sets the
flag by itself.
-/

namespace MovieApi.Publishing

open Sql

/-! ## Reading requests -/

theorem bind_ok {ε α β : Type} {x : Except ε α} {f : α → Except ε β} {b : β} :
    (x >>= f) = .ok b ↔ ∃ a, x = .ok a ∧ f a = .ok b := by
  cases x <;> simp [bind, Except.bind]

theorem check_ok {ok : Bool} {err : Err} {u : Unit} : check ok err = .ok u ↔ ok = true := by
  cases ok <;> simp [check]

theorem whenPublished_ok {status : ContentStatus} {ensure : Except Err Unit} {u : Unit} :
    whenPublished status ensure = .ok u ↔ (status = .published → ensure = .ok ()) := by
  unfold whenPublished
  split <;> simp_all

/-! ## The invariant -/

def Content.Coherent (content : Content) : Prop :=
  content.Live ∧ (content.type = .single → content.Timed)

structure Db.Coherent (d : Db) : Prop where
  contents : ∀ content ∈ d.contents, content.Coherent
  series : ∀ series ∈ d.series, series.toPublishState.Coherent

/-- Every movie that is live now and was not before has what publishing takes. -/
def GoesLiveReady (d d' : Db) : Prop :=
  ∀ movie ∈ d'.contents, movie.type = .single → movie.isPublished = true →
    (∀ row ∈ d.contents, row.id = movie.id → row.isPublished = false) →
    ensureMoviePublishable d'.jobs movie = .ok ()

/-- What an operation has to keep. -/
structure Keeps (d d' : Db) : Prop where
  coherent : d'.Coherent
  ready : GoesLiveReady d d'

/-! ## Flags set by themselves -/

/-- A flag that no status or schedule overwrites says what the status says,
unless the movie cannot be published anyway. -/
def ContentUpdate.AgreesWithMovie (jobs : List Uuid) (body : ContentUpdate) (movie : Content) :
    Prop :=
  body.normalizes = false → ∀ flag, body.isPublished = some (some flag) →
    (movie.status = .published → ensureMoviePublishable jobs movie = .ok ()) →
    (flag = true ↔ movie.status = .published)

/-- A flag that comes without a status says what the status says, unless the
podcast cannot be published anyway. -/
def ContentUpdate.AgreesWithPodcast (body : ContentUpdate) (podcast : Content) : Prop :=
  body.status = none → ∀ flag, body.isPublished = some (some flag) →
    (podcast.status = .published → ensurePodcastPublishable podcast = .ok ()) →
    (flag = true ↔ podcast.status = .published)

/-- A flag says what the status says that the episode is left with. -/
def ContentUpdate.AgreesWithEpisode (body : ContentUpdate) (episode : Content) : Prop :=
  ∀ flag, body.isPublished = some (some flag) → ∀ status, body.newStatus episode = .ok status →
    (flag = true ↔ status = .published)

/-- No flag of the request contradicts the status. -/
def Request.FlagAgrees (d : Db) : Request → Prop
  | .updateMovie slug body => ∀ movie, d.movieBySlug slug = some movie →
      body.AgreesWithMovie d.jobs movie
  | .updateAdminMovie id body => ∀ movie, d.movieById id = some movie →
      body.AgreesWithMovie d.jobs movie
  | .updateAdminPodcast id body => ∀ podcast, d.podcastById id = some podcast →
      body.AgreesWithPodcast podcast
  | .updateEpisode slug episodeSlug body => ∀ series, d.findSeries slug = .ok series →
      ∀ episode, d.episodeBySlug series.id episodeSlug = some episode →
      body.AgreesWithEpisode episode
  | _ => True

/-! ## Rows -/

variable {jobs : List Uuid} {d d' : Db}

theorem applyMoviePublishState_coherent {movie movie' : Content} {status : Option String}
    {publishAt : Option Instant} {publishAtSet : Bool} (htype : movie.type = .single)
    (h : applyMoviePublishState movie status publishAt publishAtSet = .ok movie') :
    movie'.toPublishState.Coherent ∧ movie'.type = .single ∧ movie'.id = movie.id := by
  unfold applyMoviePublishState at h
  rw [if_neg (by simp [htype])] at h
  simp only [bind_ok, Except.ok.injEq] at h
  obtain ⟨state, hstate, rfl⟩ := h
  exact ⟨PublishState.apply_coherent hstate, htype, rfl⟩

theorem applySeriesPublishState_coherent {series series' : Series} {status : Option String}
    {publishAt : Option Instant} {publishAtSet : Bool}
    (h : applySeriesPublishState series status publishAt publishAtSet = .ok series') :
    series'.toPublishState.Coherent := by
  simp only [applySeriesPublishState, bind_ok, Except.ok.injEq] at h
  obtain ⟨state, hstate, rfl⟩ := h
  exact PublishState.apply_coherent hstate

theorem updateMovieRow_keeps {body : ContentUpdate} {movie movie' : Content}
    (htype : movie.type = .single) (hcoherent : movie.Coherent)
    (hagrees : body.AgreesWithMovie jobs movie) (h : updateMovieRow jobs body movie = .ok movie') :
    movie'.Coherent ∧ (movie'.status = .published → ensureMoviePublishable jobs movie' = .ok ()) := by
  simp only [updateMovieRow, bind_ok, check_ok, whenPublished_ok, Except.ok.injEq] at h
  obtain ⟨movie₁, hnormalize, -, hensure, -, hflag, rfl⟩ := h
  refine ⟨?_, hensure⟩
  unfold ContentUpdate.normalize at hnormalize
  cases hnormalizes : body.normalizes with
  | true =>
      rw [if_pos hnormalizes] at hnormalize
      obtain ⟨hstate, -, -⟩ := applyMoviePublishState_coherent (by exact htype) hnormalize
      exact ⟨hstate.live, fun _ => hstate.timed⟩
  | false =>
      simp only [hnormalizes, Bool.false_eq_true, if_false, Except.ok.injEq] at hnormalize
      subst hnormalize
      refine ⟨?_, hcoherent.2⟩
      cases hbody : body.isPublished with
      | none => simpa [PublishState.Live] using hcoherent.1
      | some value =>
          cases value with
          | none => simp [hbody, hnormalizes] at hflag
          | some flag =>
              have hready : movie.status = .published →
                  ensureMoviePublishable jobs movie = .ok () := by
                simpa [ensureMoviePublishable] using hensure
              simpa [PublishState.Live] using hagrees hnormalizes flag hbody hready

theorem updatePodcastRow_keeps {body : ContentUpdate} {podcast podcast' : Content}
    (htype : podcast.type = .podcast) (hcoherent : podcast.Coherent)
    (hagrees : body.AgreesWithPodcast podcast) (h : updatePodcastRow body podcast = .ok podcast') :
    podcast'.Coherent ∧ podcast'.type = .podcast := by
  simp only [updatePodcastRow, bind_ok, check_ok, whenPublished_ok, Except.ok.injEq] at h
  obtain ⟨status, hstatus, -, hensure, -, hflag, rfl⟩ := h
  refine ⟨⟨?_, fun hsingle => absurd (htype.symm.trans hsingle) (by decide)⟩, htype⟩
  cases hbody : body.status with
  | some text => simp [PublishState.Live]
  | none =>
      simp only [ContentUpdate.newStatus, hbody, Except.ok.injEq] at hstatus
      subst hstatus
      cases hpublished : body.isPublished with
      | none => simpa [PublishState.Live] using hcoherent.1
      | some value =>
          cases value with
          | none => simp [hbody, hpublished] at hflag
          | some flag =>
              have hready : podcast.status = .published →
                  ensurePodcastPublishable podcast = .ok () := by
                simpa [ensurePodcastPublishable] using hensure
              simpa [PublishState.Live] using hagrees hbody flag hpublished hready

theorem updateEpisodeRow_keeps {body : ContentUpdate} {episode episode' : Content}
    (htype : episode.type = .episode) (hcoherent : episode.Coherent)
    (hagrees : body.AgreesWithEpisode episode) (h : updateEpisodeRow body episode = .ok episode') :
    episode'.Coherent ∧ episode'.type = .episode := by
  simp only [updateEpisodeRow, bind_ok, check_ok, Except.ok.injEq] at h
  obtain ⟨status, hstatus, -, hflag, rfl⟩ := h
  refine ⟨⟨?_, fun hsingle => absurd (htype.symm.trans hsingle) (by decide)⟩, htype⟩
  cases hpublished : body.isPublished with
  | none =>
      cases hbody : body.status with
      | some text => simp [PublishState.Live]
      | none =>
          simp only [ContentUpdate.newStatus, hbody, Except.ok.injEq] at hstatus
          subst hstatus
          simpa [PublishState.Live] using hcoherent.1
  | some value =>
      cases value with
      | none => simp [hpublished] at hflag
      | some flag => simpa [PublishState.Live] using hagrees flag hpublished status hstatus

theorem seriesNormalize_coherent {body : SeriesUpdate} {series series' : Series}
    (hcoherent : series.toPublishState.Coherent) (h : body.normalize series = .ok series') :
    series'.toPublishState.Coherent := by
  unfold SeriesUpdate.normalize at h
  split at h
  · exact applySeriesPublishState_coherent h
  · split at h
    · cases h
      exact hcoherent
    · unfold applyLegacyIsPublished at h
      split at h <;> exact applySeriesPublishState_coherent h

/-! ## Databases -/

theorem addContent_ok {content : Content} (h : d.addContent content = .ok d') :
    d' = { d with contents := d.contents ++ [content] } := by
  unfold Db.addContent at h
  split at h
  · cases h
  · cases h
    rfl

theorem addSeries_ok {series : Series} (h : d.addSeries series = .ok d') :
    d' = { d with series := d.series ++ [series] } := by
  unfold Db.addSeries at h
  split at h
  · cases h
  · cases h
    rfl

/-- A new title that is coherent, and ready if it is a live movie. -/
theorem add_keeps (hd : d.Coherent) {content : Content} (hcontent : content.Coherent)
    (hready : content.type = .single → content.isPublished = true →
      ensureMoviePublishable jobs content = .ok ()) :
    Keeps d { d with contents := d.contents ++ [content], jobs := jobs } where
  coherent := by
    refine ⟨fun row hrow => ?_, hd.series⟩
    rcases List.mem_append.1 hrow with hrow | hrow
    · exact hd.contents row hrow
    · rw [List.mem_singleton.1 hrow]
      exact hcontent
  ready := by
    intro movie hmovie htype hlive hbefore
    rcases List.mem_append.1 hmovie with hmovie | hmovie
    · exact absurd hlive (by simp [hbefore movie hmovie rfl])
    · obtain rfl := List.mem_singleton.1 hmovie
      exact hready htype hlive

/-- Saving a title that is coherent, and ready if it is a live movie. -/
theorem saveContent_keeps (hd : d.Coherent) {content : Content} (hcontent : content.Coherent)
    (hready : content.type = .single → content.isPublished = true →
      ensureMoviePublishable d.jobs content = .ok ()) :
    Keeps d (d.saveContent content) where
  coherent := by
    refine ⟨fun row hrow => ?_, hd.series⟩
    obtain ⟨old, hold, rfl⟩ := mem_modify.1 hrow
    split
    · exact hcontent
    · exact hd.contents old hold
  ready := by
    intro movie hmovie htype hlive hbefore
    obtain ⟨old, hold, rfl⟩ := mem_modify.1 hmovie
    split at hbefore
    · next hid =>
        rw [if_pos hid] at htype hlive ⊢
        exact hready htype hlive
    · next hid =>
        rw [if_neg hid] at hlive
        exact absurd hlive (by simp [hbefore old hold rfl])

theorem series_keeps (hd : d.Coherent) {rows : List Series}
    (hrows : ∀ series ∈ rows, series.toPublishState.Coherent) :
    Keeps d { d with series := rows } where
  coherent := ⟨hd.contents, hrows⟩
  ready := by
    intro movie hmovie _ hlive hbefore
    exact absurd hlive (by simp [hbefore movie hmovie rfl])

theorem patchContent_keeps (hd : d.Coherent) {found : Option Content} {missing : Err}
    {update : Content → Except Err Content}
    (hupdate : ∀ row, found = some row → ∀ row', update row = .ok row' → row'.Coherent ∧
      (row'.type = .single → row'.isPublished = true → ensureMoviePublishable d.jobs row' = .ok ()))
    (h : d.patchContent found missing update = .ok d') : Keeps d d' := by
  cases hfound : found with
  | none => simp [Db.patchContent, hfound] at h
  | some row =>
      simp only [Db.patchContent, hfound, bind_ok, Except.ok.injEq] at h
      obtain ⟨row', hrow', rfl⟩ := h
      obtain ⟨hcoherent, hready⟩ := hupdate row hfound row' hrow'
      exact saveContent_keeps hd hcoherent hready

theorem patchMovie_keeps (hd : d.Coherent) {body : ContentUpdate} {found : Option Content}
    {missing : Err} (hfound : ∀ movie, found = some movie → movie ∈ d.contents ∧ movie.type = .single)
    (hagrees : ∀ movie, found = some movie → body.AgreesWithMovie d.jobs movie)
    (h : d.patchContent found missing (updateMovieRow d.jobs body) = .ok d') : Keeps d d' := by
  refine patchContent_keeps hd (fun movie hmovie movie' hupdate => ?_) h
  obtain ⟨hmem, htype⟩ := hfound movie hmovie
  obtain ⟨hcoherent, hready⟩ :=
    updateMovieRow_keeps htype (hd.contents movie hmem) (hagrees movie hmovie) hupdate
  exact ⟨hcoherent, fun _ hlive => hready (hcoherent.1.1 hlive)⟩

/-! ## Requests -/

theorem draft_coherent (type : ContentType) (id : Uuid) (slug : String) :
    (draft type id slug).Coherent :=
  ⟨by simp [PublishState.Live, draft], fun _ => by simp [PublishState.Timed, draft]⟩

theorem addDraft_keeps (hd : d.Coherent) {type : ContentType} {id : Uuid} {slug : String}
    (h : d.addContent (draft type id slug) = .ok d') : Keeps d d' := by
  rw [addContent_ok h]
  exact add_keeps hd (draft_coherent type id slug) (fun _ hlive => absurd hlive (by simp [draft]))

theorem completeMovieUpload_keeps (hd : d.Coherent) {storage : Storage}
    {body : MovieUploadComplete} (h : completeMovieUpload storage body d = .ok d') :
    Keeps d d' := by
  simp only [completeMovieUpload, bind_ok, check_ok, whenPublished_ok, Except.ok.injEq] at h
  obtain ⟨status, -, -, -, -, -, -, -, -, -, -, -, -, -, -, -, movie, hmovie, -, hensure, d₁,
    hadd, rfl⟩ := h
  obtain ⟨hstate, htype, -⟩ := applyMoviePublishState_coherent rfl hmovie
  rw [addContent_ok hadd]
  exact add_keeps hd ⟨hstate.live, fun _ => hstate.timed⟩
    (fun _ hlive => hensure (hstate.live.1 hlive))

theorem createSeries_keeps (hd : d.Coherent) {id : Uuid} {slug : String}
    {body : CreateSeriesBody} (h : createSeries id slug body d = .ok d') : Keeps d d' := by
  simp only [createSeries, bind_ok] at h
  obtain ⟨status, -, series, hseries, series', hseries', hadd⟩ := h
  have hcoherent : series'.toPublishState.Coherent := by
    unfold unpublished at hseries'
    split at hseries'
    · exact applySeriesPublishState_coherent hseries'
    · cases hseries'
      exact applySeriesPublishState_coherent hseries
  rw [addSeries_ok hadd]
  refine series_keeps hd fun row hrow => ?_
  rcases List.mem_append.1 hrow with hrow | hrow
  · exact hd.series row hrow
  · rw [List.mem_singleton.1 hrow]
    exact hcoherent

theorem findSeries_mem {slug : String} {series : Series} (h : d.findSeries slug = .ok series) :
    series ∈ d.series := by
  unfold Db.findSeries at h
  split at h
  · cases h
  · next hfound =>
      cases h
      exact List.mem_of_find?_eq_some hfound

theorem updateSeries_keeps (hd : d.Coherent) {storage : Storage} {slug : String}
    {body : SeriesUpdate} (h : updateSeries storage slug body d = .ok d') : Keeps d d' := by
  simp only [updateSeries, updateSeriesRow, bind_ok, Except.ok.injEq] at h
  obtain ⟨series, hfound, _, ⟨series', hnormalize, -, -, rfl⟩, rfl⟩ := h
  have hcoherent : series'.toPublishState.Coherent :=
    seriesNormalize_coherent (by exact hd.series series (findSeries_mem hfound)) hnormalize
  refine series_keeps hd fun row hrow => ?_
  obtain ⟨old, hold, rfl⟩ := mem_modify.1 hrow
  split
  · exact hcoherent
  · exact hd.series old hold

theorem completeEpisodeUpload_keeps (hd : d.Coherent) {storage : Storage} {slug : String}
    {body : EpisodeUploadComplete} (h : completeEpisodeUpload storage slug body d = .ok d') :
    Keeps d d' := by
  simp only [completeEpisodeUpload, bind_ok, Except.ok.injEq] at h
  obtain ⟨status, -, series, -, -, -, -, -, -, -, -, -, d₁, hadd, rfl⟩ := h
  rw [addContent_ok hadd]
  refine add_keeps hd ⟨?_, fun hsingle => ?_⟩ (fun hsingle _ => ?_)
  · simp [PublishState.Live, uploadedEpisode]
  · exact absurd hsingle (by simp [uploadedEpisode, draft])
  · exact absurd hsingle (by simp [uploadedEpisode, draft])

/-- A request whose flags agree with the status keeps the states coherent, and
what it makes live is ready. -/
theorem Request.run_keeps (hd : d.Coherent) {request : Request} (hagrees : request.FlagAgrees d)
    (h : request.run d = .ok d') : Keeps d d' := by
  cases request with
  | createAdminMovieDraft id slug => exact addDraft_keeps hd h
  | completeMovieUpload storage body => exact completeMovieUpload_keeps hd h
  | updateMovie slug body =>
      refine patchMovie_keeps hd (fun movie hmovie => ?_) hagrees h
      have hquery := List.find?_some hmovie
      simp only [decide_eq_true_eq] at hquery
      exact ⟨List.mem_of_find?_eq_some hmovie, hquery.2⟩
  | updateAdminMovie id body =>
      refine patchMovie_keeps hd (fun movie hmovie => ?_) hagrees h
      have hquery := List.find?_some hmovie
      simp only [decide_eq_true_eq] at hquery
      exact ⟨List.mem_of_find?_eq_some hmovie, hquery.2⟩
  | createAdminPodcastDraft id slug => exact addDraft_keeps hd h
  | updateAdminPodcast id body =>
      refine patchContent_keeps hd (fun podcast hpodcast podcast' hupdate => ?_) h
      have hquery := List.find?_some hpodcast
      simp only [decide_eq_true_eq] at hquery
      obtain ⟨hcoherent, htype⟩ := updatePodcastRow_keeps hquery.2
        (hd.contents podcast (List.mem_of_find?_eq_some hpodcast)) (hagrees podcast hpodcast) hupdate
      exact ⟨hcoherent, fun hsingle => absurd (htype.symm.trans hsingle) (by decide)⟩
  | createSeries id slug body => exact createSeries_keeps hd h
  | updateSeries storage slug body => exact updateSeries_keeps hd h
  | completeEpisodeUpload storage slug body => exact completeEpisodeUpload_keeps hd h
  | updateEpisode slug episodeSlug body =>
      obtain ⟨series, hseries, hpatch⟩ := bind_ok.1 h
      refine patchContent_keeps hd (fun episode hepisode episode' hupdate => ?_) hpatch
      have hquery := List.find?_some hepisode
      simp only [decide_eq_true_eq] at hquery
      obtain ⟨hcoherent, htype⟩ := updateEpisodeRow_keeps hquery.2.2
        (hd.contents episode (List.mem_of_find?_eq_some hepisode))
        (hagrees series hseries episode hepisode) hupdate
      exact ⟨hcoherent, fun hsingle => absurd (htype.symm.trans hsingle) (by decide)⟩

/-! ## The sweeper -/

/-- A sweep promotes ready rows and touches no other. -/
theorem mem_sweepDue {ρ : Type} {id : ρ → Uuid} {publishable : ρ → Bool} {promote : ρ → ρ}
    {picked rows : List ρ} {row : ρ} (h : row ∈ sweepDue id publishable promote picked rows) :
    row ∈ rows ∨ ∃ old ∈ picked, publishable old = true ∧ row = promote old := by
  induction picked generalizing rows with
  | nil => exact .inl h
  | cons head picked ih =>
      unfold sweepDue at h ih
      rw [List.foldl_cons] at h
      rcases ih h with hrow | ⟨old, hold, hready, heq⟩
      · split at hrow
        · next hready =>
            obtain ⟨old, hold, rfl⟩ := mem_modify.1 hrow
            by_cases hid : id old = id head
            · rw [if_pos hid]
              exact .inr ⟨head, by simp, hready, rfl⟩
            · rw [if_neg hid]
              exact .inl hold
        · exact .inl hrow
      · exact .inr ⟨old, by simp [hold], hready, heq⟩

theorem movieSweep_keeps (hd : d.Coherent) {now : Instant} (h : MovieSweep now d d') :
    Keeps d d' := by
  obtain ⟨answer, -, rfl⟩ := h
  constructor
  · refine ⟨fun row hrow => ?_, hd.series⟩
    rcases mem_sweepDue hrow with hrow | ⟨movie, -, -, rfl⟩
    · exact hd.contents row hrow
    · have hstate := PublishState.promoted_coherent movie.toPublishState
      exact ⟨hstate.live, fun _ => hstate.timed⟩
  · intro row hrow _ hlive hbefore
    rcases mem_sweepDue hrow with hrow | ⟨movie, -, hready, rfl⟩
    · exact absurd hlive (by simp [hbefore row hrow rfl])
    · have hensure : ensureMoviePublishable d.jobs movie = .ok () := by
        unfold movieIsPublishable at hready
        cases hresult : ensureMoviePublishable d.jobs movie with
        | error err => simp [hresult, Except.isOk, Except.toBool] at hready
        | ok u => rfl
      exact hensure

theorem seriesSweep_keeps (hd : d.Coherent) {now : Instant} (h : SeriesSweep now d d') :
    Keeps d d' := by
  obtain ⟨answer, -, rfl⟩ := h
  refine series_keeps hd fun row hrow => ?_
  rcases mem_sweepDue hrow with hrow | ⟨series, -, -, rfl⟩
  · exact hd.series row hrow
  · exact PublishState.promoted_coherent series.toPublishState

/-! ## Runs -/

/-- What other code does to titles: assets, other columns and deletions. -/
structure KeepsStates (d d' : Db) : Prop where
  contents : ∀ row ∈ d'.contents, ∃ old ∈ d.contents,
    old.id = row.id ∧ old.type = row.type ∧ old.toPublishState = row.toPublishState
  series : ∀ row ∈ d'.series, ∃ old ∈ d.series, old.toPublishState = row.toPublishState

theorem KeepsStates.keeps (h : KeepsStates d d') (hd : d.Coherent) : Keeps d d' := by
  constructor
  · constructor
    · intro row hrow
      obtain ⟨old, hold, -, htype, hstate⟩ := h.contents row hrow
      have hcoherent := hd.contents old hold
      rwa [Content.Coherent, htype, hstate] at hcoherent
    · intro row hrow
      obtain ⟨old, hold, hstate⟩ := h.series row hrow
      exact hstate ▸ hd.series old hold
  · intro row hrow _ hlive hbefore
    obtain ⟨old, hold, hid, -, hstate⟩ := h.contents row hrow
    have hfalse := hbefore old hold hid
    rw [hstate] at hfalse
    exact absurd hlive (by simp [hfalse])

/-- One committed operation, with the requests `allow` admits.  A refused request
commits nothing. -/
inductive Operation (allow : Db → Request → Prop) (d d' : Db) : Prop
  | request (request : Request) (hallow : allow d request) (h : request.run d = .ok d')
  | sweepMovies (now : Instant) (h : MovieSweep now d d')
  | sweepSeries (now : Instant) (h : SeriesSweep now d d')
  | other (h : KeepsStates d d')

theorem Operation.keeps (hd : d.Coherent)
    (h : Operation (fun d request => request.FlagAgrees d) d d') : Keeps d d' := by
  cases h with
  | request request hagrees h => exact request.run_keeps hd hagrees h
  | sweepMovies now h => exact movieSweep_keeps hd h
  | sweepSeries now h => exact seriesSweep_keeps hd h
  | other h => exact h.keeps hd

/-- As long as no flag contradicts a status, every state a run commits is
coherent, and every movie that goes live has what publishing takes. -/
theorem publishState_coherent {d₀ : Db} (h₀ : d₀.Coherent)
    (hrun : Relation.ReflTransGen (Operation fun d request => request.FlagAgrees d) d₀ d) :
    d.Coherent ∧ ∀ d', Operation (fun d request => request.FlagAgrees d) d d' →
      GoesLiveReady d d' := by
  have hd : d.Coherent := by
    induction hrun with
    | refl => exact h₀
    | tail _ hstep ih => exact (hstep.keeps ih).coherent
  exact ⟨hd, fun d' hstep => (hstep.keeps hd).ready⟩

/-- A catalogue of one draft. -/
def oneDraft : Db := ⟨[draft .single 1 "film"], [], []⟩

theorem oneDraft_coherent : oneDraft.Coherent :=
  ⟨fun _ hcontent => List.mem_singleton.1 hcontent ▸ draft_coherent _ _ _, by simp [oneDraft]⟩

/-- The draft is scheduled; the flag the body sends with it does not count. -/
theorem schedule_coherent :
    Db.Coherent ⟨[{ draft .single 1 "film" with
      status := .scheduled, publishAt := some 5 }], [], []⟩ := by
  refine (publishState_coherent oneDraft_coherent (.single (.request
    (.updateAdminMovie 1 ⟨some (some "scheduled"), some (some true), some (some 5)⟩) ?_ rfl))).1
  intro movie _ hnormalizes
  simp [ContentUpdate.normalizes] at hnormalizes

/-- A draft whose flag is set by itself is live, whatever its status. -/
theorem publishState_not_coherent :
    ¬ ∀ d₀ d : Db, d₀.Coherent →
      Relation.ReflTransGen (Operation fun _ _ => True) d₀ d → d.Coherent := by
  intro h
  let d : Db := ⟨[{ draft .single 1 "film" with isPublished := true }], [], []⟩
  have hpatch : Operation (fun _ _ => True) oneDraft d :=
    .request (.updateAdminMovie 1 ⟨none, some (some true), none⟩) trivial rfl
  have hlive := ((h oneDraft d oneDraft_coherent (.single hpatch)).contents _
    (List.mem_singleton.2 rfl)).1
  exact absurd (hlive.1 rfl) (by decide)

end MovieApi.Publishing
