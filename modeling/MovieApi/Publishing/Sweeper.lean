import MovieApi.Sql.Batch
import MovieApi.Publishing.State

/-!
# The publish sweeper

`sweep_due_scheduled_movies` and `sweep_due_scheduled_series` take the oldest
due titles, publish the ready ones and leave the others where they are.  A
sweep is a function of the rows its query answers with; the database orders
titles of one `publish_at` as it likes.
-/

namespace MovieApi.Publishing

open Sql

/-! ## One pass -/

def PublishState.due (now : Instant) (state : PublishState) : Bool :=
  !state.isPublished && state.publishAt.any fun at_ => decide (at_ ≤ now)

/-- The `ORDER BY` of both queries, whose rows all have a time. -/
def PublishState.time (state : PublishState) : Instant :=
  state.publishAt.getD 0

def dueMovie (now : Instant) (movie : Content) : Bool :=
  decide (movie.type = .single) && movie.toPublishState.due now

def dueSeries (now : Instant) (series : Series) : Bool :=
  series.toPublishState.due now

def dueMovies (now : Instant) (d : Db) : List Content := d.contents.filter (dueMovie now)

def allDueSeries (now : Instant) (d : Db) : List Series := d.series.filter (dueSeries now)

section

variable {ρ : Type} (id : ρ → Uuid) (publishable : ρ → Bool) (promote : ρ → ρ)

/-- The loop of both sweeps over the rows the query answered with. -/
def sweepDue (picked rows : List ρ) : List ρ :=
  picked.foldl (fun rows row =>
    if publishable row then modify id (id row) (fun _ => promote row) rows else rows) rows

end

def sweepDueScheduledMovies (movies : List Content) (d : Db) : Db :=
  { d with
    contents := sweepDue Content.id (movieIsPublishable d.jobs) promoteScheduledMovieToPublished
      movies d.contents }

def sweepDueScheduledSeries (rows : List Series) (d : Db) : Db :=
  { d with
    series := sweepDue Series.id seriesIsPublishable promoteScheduledSeriesToPublished
      rows d.series }

/-- The `limit` both sweeps default to. -/
def sweepLimit : Nat := 25

/-- A run of `sweep_due_scheduled_movies` while nobody else writes. -/
def MovieSweep (now : Instant) (d d' : Db) : Prop :=
  ∃ answer, Answers (fun movie : Content => movie.time) (dueMovies now d) answer ∧
    d' = sweepDueScheduledMovies (answer.take sweepLimit) d

/-- A run of `sweep_due_scheduled_series` while nobody else writes. -/
def SeriesSweep (now : Instant) (d d' : Db) : Prop :=
  ∃ answer, Answers (fun series : Series => series.time) (allDueSeries now d) answer ∧
    d' = sweepDueScheduledSeries (answer.take sweepLimit) d

/-! ## A sweep is a pass over the due rows -/

section

variable {ρ : Type} [DecidableEq ρ] {id : ρ → Uuid} {publishable : ρ → Bool} {promote : ρ → ρ}
variable {rows picked answer due' : List ρ} {due : ρ → Bool} {key : ρ → Int} {limit : Nat}

/-- The picked rows that are ready are promoted. -/
theorem sweepDue_eq_map (hunique : Unique id rows) (hid : ∀ r, id (promote r) = id r)
    (hpicked : ∀ r ∈ picked, r ∈ rows) :
    sweepDue id publishable promote picked rows =
      rows.map fun r => if r ∈ picked ∧ publishable r = true then promote r else r := by
  induction picked using List.reverseRecOn with
  | nil => simp [sweepDue]
  | append_singleton picked row ih =>
      have hrow : row ∈ rows := hpicked row (by simp)
      have ih := ih fun r hr => hpicked r (by simp [hr])
      unfold sweepDue at ih ⊢
      rw [List.foldl_append, ih]
      simp only [List.foldl_cons, List.foldl_nil]
      by_cases hready : publishable row = true
      · rw [if_pos hready]
        unfold Sql.modify
        rw [List.map_map]
        refine List.map_congr_left fun r hr => ?_
        have hidr : id (if r ∈ picked ∧ publishable r = true then promote r else r) = id r := by
          split <;> simp [hid]
        simp only [Function.comp_apply, hidr, List.mem_append, List.mem_singleton]
        by_cases hsame : id r = id row
        · have : r = row := List.inj_on_of_nodup_map hunique hr hrow hsame
          subst this
          simp [hready]
        · have : r ≠ row := fun h => hsame (by rw [h])
          simp [hsame, this]
      · rw [if_neg hready]
        refine List.map_congr_left fun r _ => ?_
        simp only [List.mem_append, List.mem_singleton]
        by_cases hsame : r = row
        · subst hsame
          simp [hready]
        · simp [hsame]

theorem sweepDue_unique (hunique : Unique id rows) (hid : ∀ r, id (promote r) = id r)
    (hpicked : ∀ r ∈ picked, r ∈ rows) : Unique id (sweepDue id publishable promote picked rows) := by
  rw [sweepDue_eq_map hunique hid hpicked]
  unfold Sql.Unique
  rw [List.map_map]
  have hsame : rows.map (id ∘ fun r =>
      if r ∈ picked ∧ publishable r = true then promote r else r) = rows.map id := by
    refine List.map_congr_left fun r _ => ?_
    simp only [Function.comp_apply]
    split <;> simp [hid]
  rw [hsame]
  exact hunique

/-- The due rows after a sweep are those that were not promoted. -/
theorem filter_due_sweepDue (hunique : Unique id rows) (hid : ∀ r, id (promote r) = id r)
    (hdue : ∀ r, due (promote r) = false) (hpicked : ∀ r ∈ picked, r ∈ rows) :
    (sweepDue id publishable promote picked rows).filter due =
      (rows.filter due).filter fun r => !(decide (r ∈ picked) && publishable r) := by
  rw [sweepDue_eq_map hunique hid hpicked, List.filter_filter]
  clear hunique hpicked
  induction rows with
  | nil => simp
  | cons r rows ih =>
      rw [List.map_cons, List.filter_cons, List.filter_cons, ih]
      by_cases hready : r ∈ picked ∧ publishable r = true
      · simp [hready, hdue]
      · rw [if_neg hready]
        have hkeep : (!(decide (r ∈ picked) && publishable r)) = true := by
          by_cases h : r ∈ picked <;> simp_all
        simp [hkeep]

omit [DecidableEq ρ] in
theorem mem_rows_of_take (h : Answers key (rows.filter due) answer) :
    ∀ r ∈ answer.take limit, r ∈ rows := by
  intro r hr
  exact List.mem_of_mem_filter (h.perm.mem_iff.1 (List.mem_of_mem_take hr))

end

theorem movieSweep_unique {now : Instant} {d d' : Db} (hunique : Unique Content.id d.contents)
    (h : MovieSweep now d d') : Unique Content.id d'.contents := by
  obtain ⟨answer, hanswer, rfl⟩ := h
  exact sweepDue_unique hunique (fun _ => rfl) (mem_rows_of_take hanswer)

theorem seriesSweep_unique {now : Instant} {d d' : Db} (hunique : Unique Series.id d.series)
    (h : SeriesSweep now d d') : Unique Series.id d'.series := by
  obtain ⟨answer, hanswer, rfl⟩ := h
  exact sweepDue_unique hunique (fun _ => rfl) (mem_rows_of_take hanswer)

theorem dueMovies_sweep {now : Instant} {d : Db} {answer : List Content}
    (hunique : Unique Content.id d.contents)
    (h : Answers (fun movie : Content => movie.time) (dueMovies now d) answer) :
    dueMovies now (sweepDueScheduledMovies (answer.take sweepLimit) d) =
      (dueMovies now d).filter fun movie =>
        !(decide (movie ∈ answer.take sweepLimit) && movieIsPublishable d.jobs movie) :=
  filter_due_sweepDue hunique (fun _ => rfl)
    (fun movie => by simp [dueMovie, PublishState.due, promoteScheduledMovieToPublished,
      PublishState.promoted])
    (mem_rows_of_take h)

theorem allDueSeries_sweep {now : Instant} {d : Db} {answer : List Series}
    (hunique : Unique Series.id d.series)
    (h : Answers (fun series : Series => series.time) (allDueSeries now d) answer) :
    allDueSeries now (sweepDueScheduledSeries (answer.take sweepLimit) d) =
      (allDueSeries now d).filter fun series =>
        !(decide (series ∈ answer.take sweepLimit) && seriesIsPublishable series) :=
  filter_due_sweepDue hunique (fun _ => rfl)
    (fun series => by simp [dueSeries, PublishState.due, promoteScheduledSeriesToPublished,
      PublishState.promoted])
    (mem_rows_of_take h)

/-! ## Many sweeps -/

abbrev MoviePasses (jobs : List Uuid) : Nat → List Content → List Content → Prop :=
  Passes (fun movie : Content => movie.time) (movieIsPublishable jobs) sweepLimit

abbrev SeriesPasses : Nat → List Series → List Series → Prop :=
  Passes (fun series : Series => series.time) seriesIsPublishable sweepLimit

/-- `rows` are the due movies of `d`. -/
def DueMoviesOf (now : Instant) (jobs : List Uuid) (d : Db) (rows : List Content) : Prop :=
  Unique Content.id d.contents ∧ d.jobs = jobs ∧ dueMovies now d = rows

/-- `rows` are the due series of `d`. -/
def DueSeriesOf (now : Instant) (d : Db) (rows : List Series) : Prop :=
  Unique Series.id d.series ∧ allDueSeries now d = rows

variable {now : Instant} {n : Nat} {d d' : Db}

/-- Sweeps are passes over the due movies. -/
theorem moviePasses_of_sweeps (hlegal : d.Legal) (h : Times (MovieSweep now) n d d') :
    MoviePasses d.jobs n (dueMovies now d) (dueMovies now d') ∧ d'.jobs = d.jobs := by
  have hsim : ∃ rows, MoviePasses d.jobs n (dueMovies now d) rows ∧
      DueMoviesOf now d.jobs d' rows := by
    refine h.simulation (DueMoviesOf now d.jobs) (fun {d₁ d₂ rows} hrel hstep => ?_)
      ⟨hlegal.contents, rfl, rfl⟩
    obtain ⟨hunique, hjobs, rfl⟩ := hrel
    have hunique' := movieSweep_unique hunique hstep
    obtain ⟨answer, hanswer, rfl⟩ := hstep
    exact ⟨_, ⟨answer, hanswer, hjobs ▸ dueMovies_sweep hunique hanswer⟩, hunique', hjobs, rfl⟩
  obtain ⟨rows, hpasses, -, hjobs, rfl⟩ := hsim
  exact ⟨hpasses, hjobs⟩

/-- Every choice of passes is one the sweeper can make. -/
theorem sweeps_of_moviePasses (hlegal : d.Legal) {rows : List Content}
    (h : MoviePasses d.jobs n (dueMovies now d) rows) :
    ∃ d', Times (MovieSweep now) n d d' ∧ dueMovies now d' = rows ∧ d'.jobs = d.jobs := by
  have hsim : ∃ d', Times (MovieSweep now) n d d' ∧ DueMoviesOf now d.jobs d' rows := by
    refine Times.simulation (fun rows d₁ => DueMoviesOf now d.jobs d₁ rows) h
      (fun {rows rows' d₁} hrel hstep => ?_) ⟨hlegal.contents, rfl, rfl⟩
    obtain ⟨hunique, hjobs, rfl⟩ := hrel
    obtain ⟨answer, hanswer, rfl⟩ := hstep
    have hsweep : MovieSweep now d₁ (sweepDueScheduledMovies (answer.take sweepLimit) d₁) :=
      ⟨answer, hanswer, rfl⟩
    refine ⟨_, hsweep, movieSweep_unique hunique hsweep, hjobs, ?_⟩
    rw [dueMovies_sweep hunique hanswer, hjobs]
  obtain ⟨d', hsweeps, -, hjobs, hrows⟩ := hsim
  exact ⟨d', hsweeps, hrows, hjobs⟩

theorem seriesPasses_of_sweeps (hlegal : d.Legal) (h : Times (SeriesSweep now) n d d') :
    SeriesPasses n (allDueSeries now d) (allDueSeries now d') := by
  have hsim : ∃ rows, SeriesPasses n (allDueSeries now d) rows ∧ DueSeriesOf now d' rows := by
    refine h.simulation (DueSeriesOf now) (fun {d₁ d₂ rows} hrel hstep => ?_)
      ⟨hlegal.series, rfl⟩
    obtain ⟨hunique, rfl⟩ := hrel
    have hunique' := seriesSweep_unique hunique hstep
    obtain ⟨answer, hanswer, rfl⟩ := hstep
    exact ⟨_, ⟨answer, hanswer, allDueSeries_sweep hunique hanswer⟩, hunique', rfl⟩
  obtain ⟨rows, hpasses, -, rfl⟩ := hsim
  exact hpasses

theorem sweeps_of_seriesPasses (hlegal : d.Legal) {rows : List Series}
    (h : SeriesPasses n (allDueSeries now d) rows) :
    ∃ d', Times (SeriesSweep now) n d d' ∧ allDueSeries now d' = rows := by
  have hsim : ∃ d', Times (SeriesSweep now) n d d' ∧ DueSeriesOf now d' rows := by
    refine Times.simulation (fun rows d₁ => DueSeriesOf now d₁ rows) h
      (fun {rows rows' d₁} hrel hstep => ?_) ⟨hlegal.series, rfl⟩
    obtain ⟨hunique, rfl⟩ := hrel
    obtain ⟨answer, hanswer, rfl⟩ := hstep
    have hsweep : SeriesSweep now d₁ (sweepDueScheduledSeries (answer.take sweepLimit) d₁) :=
      ⟨answer, hanswer, rfl⟩
    refine ⟨_, hsweep, seriesSweep_unique hunique hsweep, ?_⟩
    rw [allDueSeries_sweep hunique hanswer]
  obtain ⟨d', hsweeps, -, hrows⟩ := hsim
  exact ⟨d', hsweeps, hrows⟩

/-! ## Reach -/

/-- Sweeping as often as there are due movies leaves none of them that is due and ready. -/
def MoviesFinish (now : Instant) (d : Db) : Prop :=
  ∀ d', Times (MovieSweep now) (dueMovies now d).length d d' →
    ∀ movie ∈ d'.contents, dueMovie now movie = true → movieIsPublishable d'.jobs movie = false

/-- Sweeping as often as there are due series leaves none of them that is due and ready. -/
def SeriesFinish (now : Instant) (d : Db) : Prop :=
  ∀ d', Times (SeriesSweep now) (allDueSeries now d).length d d' →
    ∀ series ∈ d'.series, dueSeries now series = true → seriesIsPublishable series = false

/-- Every ready due movie has fewer than a pass's worth of due movies that are
not ready and have its time or an earlier one. -/
def MoviesInReach (now : Instant) (d : Db) : Prop :=
  ∀ movie ∈ dueMovies now d, movieIsPublishable d.jobs movie = true →
    (blockers (fun movie : Content => movie.time) (movieIsPublishable d.jobs)
      (dueMovies now d) movie).length < sweepLimit

/-- Every ready due series has fewer than a pass's worth of due series that are
not ready and have its time or an earlier one. -/
def SeriesInReach (now : Instant) (d : Db) : Prop :=
  ∀ series ∈ allDueSeries now d, seriesIsPublishable series = true →
    (blockers (fun series : Series => series.time) seriesIsPublishable
      (allDueSeries now d) series).length < sweepLimit

theorem moviesFinish_iff (hlegal : d.Legal) : MoviesFinish now d ↔ MoviesInReach now d := by
  have hfinish : (∀ rows, MoviePasses d.jobs (dueMovies now d).length (dueMovies now d) rows →
      ∀ movie ∈ rows, movieIsPublishable d.jobs movie = false) ↔ MoviesInReach now d :=
    passes_finish_iff (List.length_filter_le _ _)
  refine Iff.trans ⟨fun h rows hpasses movie hmem => ?_, fun h d' hsweeps movie hmem hdue => ?_⟩
    hfinish
  · obtain ⟨d', hsweeps, rfl, hjobs⟩ := sweeps_of_moviePasses hlegal hpasses
    obtain ⟨hcontent, hdue⟩ := List.mem_filter.1 hmem
    rw [← hjobs]
    exact h d' hsweeps movie hcontent hdue
  · obtain ⟨hpasses, hjobs⟩ := moviePasses_of_sweeps hlegal hsweeps
    rw [hjobs]
    exact h _ hpasses movie (List.mem_filter.2 ⟨hmem, hdue⟩)

theorem seriesFinish_iff (hlegal : d.Legal) : SeriesFinish now d ↔ SeriesInReach now d := by
  have hfinish : (∀ rows, SeriesPasses (allDueSeries now d).length (allDueSeries now d) rows →
      ∀ series ∈ rows, seriesIsPublishable series = false) ↔ SeriesInReach now d :=
    passes_finish_iff (List.length_filter_le _ _)
  refine Iff.trans ⟨fun h rows hpasses series hmem => ?_, fun h d' hsweeps series hmem hdue => ?_⟩
    hfinish
  · obtain ⟨d', hsweeps, rfl⟩ := sweeps_of_seriesPasses hlegal hpasses
    obtain ⟨hrow, hdue⟩ := List.mem_filter.1 hmem
    exact h d' hsweeps series hrow hdue
  · exact h _ (seriesPasses_of_sweeps hlegal hsweeps) series (List.mem_filter.2 ⟨hmem, hdue⟩)

/-! ## A backlog -/

/-- A due movie, with or without what publishing takes. -/
def scheduledMovie (id : Uuid) (slug : String) (posterKey : Option String) : Content :=
  { id := id, type := .single, seriesId := none, slug := slug, posterKey := posterKey,
    hlsMasterKey := some "hls/master.m3u8", audioKey := none, transcodeStatus := .ready,
    status := .scheduled, isPublished := false, publishAt := some 0 }

/-- So many scheduled movies without a poster, and one that has everything. -/
def backlog (n : Nat) : Db :=
  { contents := scheduledMovie n "ready" (some "poster.jpg") ::
      (List.range n).map fun i => scheduledMovie i (toString i) none
    series := []
    jobs := [] }

theorem backlog_legal : (backlog 25).Legal where
  contents := by unfold Sql.Unique; decide +kernel
  slugs := by unfold Sql.Unique; decide +kernel
  series := by unfold Sql.Unique; decide +kernel
  seriesSlugs := by unfold Sql.Unique; decide +kernel

theorem backlog_inReach : MoviesInReach 0 (backlog 1) := by
  unfold MoviesInReach
  decide +kernel

theorem backlog_not_inReach : ¬ MoviesInReach 0 (backlog 25) := by
  unfold MoviesInReach
  decide +kernel

/-! ## Starvation -/

/-- The sweeper publishes everything that is due and ready exactly when no ready
title is behind a pass's worth of titles that are not. -/
theorem sweeps_finish_iff (d : Db) (now : Instant) (hlegal : d.Legal) :
    (MoviesFinish now d ∧ SeriesFinish now d) ↔ (MoviesInReach now d ∧ SeriesInReach now d) :=
  and_congr (moviesFinish_iff hlegal) (seriesFinish_iff hlegal)

theorem sweeps_finish_backlog : MoviesFinish 0 (backlog 1) ∧ SeriesFinish 0 (backlog 1) :=
  (sweeps_finish_iff (backlog 1) 0 (by constructor <;> (unfold Sql.Unique; decide +kernel))).2
    ⟨backlog_inReach, by simp [SeriesInReach, allDueSeries, backlog]⟩

/-- Twenty-five movies without a poster keep a ready one out for ever. -/
theorem sweeps_starve :
    ¬ ∀ (d : Db) (now : Instant), d.Legal → MoviesFinish now d ∧ SeriesFinish now d := fun h =>
  backlog_not_inReach ((moviesFinish_iff backlog_legal).1 (h (backlog 25) 0 backlog_legal).1)

end MovieApi.Publishing
