import MovieApi.Publishing.Coherence
import MovieApi.Publishing.MovieUploads

/-!
# The source video of a movie

Two uploads under one slug share a key, and the object is assembled before the
database can refuse the second row.  As long as no completion assembles an
object under the slug of another one, every movie keeps the video it was
uploaded with.
-/

namespace MovieApi.Publishing

variable {letters : Letters} {etag : String → String} {w w' : World} {event : Event}

/-! ## The property -/

/-- The object under the source key of a slug was assembled by this upload. -/
def World.Holds (w : World) (slug uploadId : String) : Prop :=
  ∃ object, w.bucket.objects (movieSourceKey slug) = some object ∧ object.uploadId = uploadId

/-- Every movie has the video of the upload whose completion created it. -/
def World.SourcesMatch (w : World) : Prop :=
  ∀ movie ∈ w.db.contents, ∀ uploadId, (movie.id, uploadId) ∈ w.created →
    w.Holds movie.slug uploadId

/-- A completion assembles its object while no movie that a completion created has
the slug, nor has a completion under way. -/
def Exclusive (w : World) : Event → Prop
  | .assemble _ body _ =>
      (∀ movie ∈ w.db.contents, (∃ uploadId, (movie.id, uploadId) ∈ w.created) →
        movie.slug ≠ body.slug) ∧
      ∀ request body' status, w.assembled request = some (body', status) → body'.slug ≠ body.slug
  | _ => True

/-! ## Keys -/

theorem movieSourceKey_inj {slug slug' : String} (h : movieSourceKey slug = movieSourceKey slug') :
    slug = slug' := by
  have hlist := congrArg String.toList h
  simp only [movieSourceKey, movieDir, String.toList_append] at hlist
  exact String.toList_injective (List.append_cancel_left (List.append_cancel_right hlist))

/-! ## The invariant -/

/-- Created movies are there, and they and the completions under way find their
own object. -/
structure World.Kept (w : World) : Prop where
  sources : w.SourcesMatch
  rows : ∀ entry ∈ w.created, ∃ movie ∈ w.db.contents, movie.id = entry.1
  assembled : ∀ request body status, w.assembled request = some (body, status) →
    w.Holds body.slug body.uploadId

theorem World.Fresh.kept (h : w.Fresh) : w.Kept where
  sources := by
    intro movie _ uploadId hcreated
    rw [h.created] at hcreated
    cases hcreated
  rows := by
    intro entry hentry
    rw [h.created] at hentry
    cases hentry
  assembled := by
    intro request body status hassembled
    rw [h.assembled request] at hassembled
    cases hassembled

/-- An event that leaves rows and objects alone and starts no completion. -/
theorem World.Kept.of_same (h : w.Kept) (hdb : w'.db = w.db)
    (hobjects : w'.bucket.objects = w.bucket.objects) (hcreated : w'.created = w.created)
    (hassembled : ∀ request body status, w'.assembled request = some (body, status) →
      w.assembled request = some (body, status)) : w'.Kept := by
  have hholds : ∀ slug uploadId, w.Holds slug uploadId → w'.Holds slug uploadId := by
    intro slug uploadId
    unfold World.Holds
    rw [hobjects]
    exact id
  constructor
  · intro movie hmovie uploadId hentry
    rw [hdb] at hmovie
    rw [hcreated] at hentry
    exact hholds _ _ (h.sources movie hmovie uploadId hentry)
  · rw [hdb, hcreated]
    exact h.rows
  · intro request body status hunder
    exact hholds _ _ (h.assembled request body status (hassembled request body status hunder))

theorem abortMultipartUpload_objects (key uploadId : String) (bucket : Bucket) :
    (bucket.abortMultipartUpload key uploadId).objects = bucket.objects := by
  unfold Bucket.abortMultipartUpload
  split <;> rfl

theorem startMovieUpload_objects (drawn : Drawn) (data : MovieUploadStart) (d : Db)
    (bucket : Bucket) :
    (startMovieUpload letters drawn data d bucket).2.objects = bucket.objects := by
  unfold startMovieUpload
  dsimp only
  split
  · rfl
  · split <;> rfl

/-! ## Assembling -/

theorem checkCompletion_key {body : MovieUploadComplete} {status : ContentStatus}
    (h : checkCompletion body = .ok status) : body.sourceKey = movieSourceKey body.slug := by
  by_contra hne
  unfold checkCompletion at h
  cases hstatus : validateContentStatus (some body.status) with
  | error err =>
      rw [hstatus] at h
      cases h
  | ok parsed =>
      rw [hstatus] at h
      simp only [check, hne, decide_false] at h
      cases h

/-- What an assembly does: one object is put under the key of the slug. -/
theorem assemble_eq {request : Nat} {body : Completion} {answered : Bool}
    (h : w.assemble etag request body answered = some w') :
    w'.db = w.db ∧ w'.created = w.created ∧
    (∃ object : Object, object.uploadId = body.uploadId ∧ w'.bucket.objects =
      Function.update w.bucket.objects (movieSourceKey body.slug) (some object)) ∧
    ∀ other body' status, w'.assembled other = some (body', status) →
      w.assembled other = some (body', status) ∨ body' = body.toMovieUploadComplete := by
  unfold World.assemble at h
  split at h
  · cases h
  next status hcheck =>
  split at h
  · cases h
  split at h
  · cases h
  next bucket hbucket =>
  cases h
  refine ⟨rfl, rfl, ?_, ?_⟩
  · unfold Bucket.completeMultipartUpload at hbucket
    split at hbucket
    · cases hbucket
    split at hbucket
    · cases hbucket
    next chunks _ =>
    cases hbucket
    refine ⟨⟨body.uploadId, chunks⟩, rfl, ?_⟩
    rw [← checkCompletion_key hcheck]
  · intro other body' status' hother
    dsimp only at hother
    split at hother
    · by_cases hsame : other = request
      · rw [hsame, Function.update_self] at hother
        cases hother
        exact .inr rfl
      · rw [Function.update_of_ne hsame] at hother
        exact .inl hother
    · exact .inl hother

theorem World.Holds.other_slug {slug slug' uploadId : String} {object : Option Object}
    (h : w.Holds slug uploadId) (hne : slug ≠ slug')
    (hobjects : w'.bucket.objects =
      Function.update w.bucket.objects (movieSourceKey slug') object) :
    w'.Holds slug uploadId := by
  unfold World.Holds
  have hkey : movieSourceKey slug ≠ movieSourceKey slug' := fun h => hne (movieSourceKey_inj h)
  rw [hobjects, Function.update_of_ne hkey]
  exact h

theorem assemble_keeps {request : Nat} {body : Completion} {answered : Bool} (h : w.Kept)
    (hexclusive : Exclusive w (.assemble request body answered))
    (hnext : w.assemble etag request body answered = some w') : w'.Kept := by
  obtain ⟨hdb, hcreated, ⟨object, hupload, hobjects⟩, hassembled⟩ := assemble_eq hnext
  constructor
  · intro movie hmovie uploadId hentry
    rw [hdb] at hmovie
    rw [hcreated] at hentry
    have hne : movie.slug ≠ body.slug := hexclusive.1 movie hmovie ⟨uploadId, hentry⟩
    exact (h.sources movie hmovie uploadId hentry).other_slug hne hobjects
  · rw [hdb, hcreated]
    exact h.rows
  · intro other body' status hother
    rcases hassembled other body' status hother with hbefore | rfl
    · have hne : body'.slug ≠ body.slug := hexclusive.2 other body' status hbefore
      exact (h.assembled other body' status hbefore).other_slug hne hobjects
    · refine ⟨object, ?_, hupload⟩
      rw [hobjects, Function.update_self]

/-! ## Creating the row -/

/-- A completion that goes through adds one movie under a new id. -/
theorem createMovie_ok {storage : Storage} {body : MovieUploadComplete} {status : ContentStatus}
    {d d' : Db} (h : createMovie storage body status d = .ok d') :
    ∃ movie : Content, movie.id = body.contentId ∧ movie.slug = body.slug ∧
      d'.contents = d.contents ++ [movie] ∧ ∀ row ∈ d.contents, row.id ≠ body.contentId := by
  simp only [createMovie, bind_ok, Except.ok.injEq] at h
  obtain ⟨-, -, -, -, movie, happly, -, -, added, hadded, rfl⟩ := h
  have hmovie : movie.id = body.contentId ∧ movie.slug = body.slug := by
    simp only [applyMoviePublishState, uploadedMovie, draft, ne_eq, not_true, if_false, bind_ok,
      Except.ok.injEq] at happly
    obtain ⟨state, -, rfl⟩ := happly
    exact ⟨rfl, rfl⟩
  unfold Db.addContent at hadded
  split at hadded
  · cases hadded
  next hfree =>
  cases hadded
  refine ⟨movie, hmovie.1, hmovie.2, rfl, ?_⟩
  intro row hrow hid
  simp only [Bool.not_eq_true, List.any_eq_false, decide_eq_true_eq, not_or] at hfree
  exact (hfree row hrow).1 (hid.trans hmovie.1.symm)

theorem create_keeps {request : Nat} {storage : Storage} (h : w.Kept)
    (hnext : w.create request storage = some w') : w'.Kept := by
  unfold World.create at hnext
  split at hnext
  · cases hnext
  next body status hunder =>
  split at hnext
  · cases hnext
  next d' hcreate =>
  cases hnext
  obtain ⟨movie, hid, hslug, hcontents, hfresh⟩ := createMovie_ok hcreate
  constructor
  · intro row hrow uploadId hentry
    rw [hcontents] at hrow
    rcases List.mem_append.1 hrow with hold | hnew
    · -- an older row has another id than the new entry
      rcases List.mem_cons.1 hentry with hsame | hbefore
      · exact absurd (congrArg Prod.fst hsame) (hfresh row hold)
      · exact h.sources row hold uploadId hbefore
    · -- no older entry is about the new row
      obtain rfl := List.mem_singleton.1 hnew
      rcases List.mem_cons.1 hentry with hsame | hbefore
      · obtain rfl : uploadId = body.uploadId := congrArg Prod.snd hsame
        rw [hslug]
        exact h.assembled request body status hunder
      · obtain ⟨older, holder, hsame⟩ := h.rows _ hbefore
        exact absurd (hsame.trans hid) (hfresh older holder)
  · intro entry hentry
    rw [hcontents]
    rcases List.mem_cons.1 hentry with rfl | hbefore
    · exact ⟨movie, List.mem_append_right _ (List.mem_singleton.2 rfl), hid⟩
    · obtain ⟨older, holder, hsame⟩ := h.rows entry hbefore
      exact ⟨older, List.mem_append_left _ holder, hsame⟩
  · intro other body' status' hother
    dsimp only at hother
    by_cases hsame : other = request
    · rw [hsame, Function.update_self] at hother
      cases hother
    · rw [Function.update_of_ne hsame] at hother
      exact h.assembled other body' status' hother

/-! ## Runs -/

theorem next_keeps (h : w.Kept) (hexclusive : Exclusive w event)
    (hnext : w.next letters etag event = some w') : w'.Kept := by
  cases event with
  | start drawn data =>
      simp only [World.next] at hnext
      split at hnext
      · cases hnext
      cases hnext
      exact h.of_same rfl (startMovieUpload_objects ..) rfl fun _ _ _ hunder => hunder
  | uploadPart uploadId number bytes =>
      cases hnext
      exact h.of_same rfl rfl rfl fun _ _ _ hunder => hunder
  | abort key uploadId =>
      cases hnext
      exact h.of_same rfl (abortMultipartUpload_objects ..) rfl fun _ _ _ hunder => hunder
  | assemble request body answered =>
      simp only [World.next] at hnext
      split at hnext
      · cases hnext
      exact assemble_keeps h hexclusive hnext
  | create request storage => exact create_keeps h hnext
  | giveUp request =>
      cases hnext
      refine h.of_same rfl rfl rfl ?_
      intro other body status hunder
      by_cases hsame : other = request
      · dsimp only at hunder
        rw [hsame, Function.update_self] at hunder
        cases hunder
      · dsimp only at hunder
        rwa [Function.update_of_ne hsame] at hunder

/-- While completions keep out of each other's slugs, every movie has its own video
in every state reached. -/
theorem exclusive_sourcesMatch (hfresh : w.Fresh) (hrun : Run letters etag Exclusive w w') :
    w'.SourcesMatch := by
  have hkept : w'.Kept := by
    induction hrun with
    | refl => exact hfresh.kept
    | step event _ hexclusive hnext ih => exact next_keeps ih hexclusive hnext
  exact hkept.sources

theorem run_of_play {Allowed : World → Event → Prop} {w₀ : World} :
    ∀ {w : World} {events : List Event}, Run letters etag Allowed w₀ w →
      (∀ w event, Allowed w event) → w.play letters etag events = some w' →
        Run letters etag Allowed w₀ w' := by
  intro w events hrun hall hplay
  induction events generalizing w with
  | nil =>
      cases hplay
      exact hrun
  | cons event events ih =>
      obtain ⟨w₁, hnext, hrest⟩ := Option.bind_eq_some_iff.1 hplay
      exact ih (hrun.step event (hall w event) hnext) hrest

/-! ## One title, two uploads -/

def plainLetters : Letters where
  lower := id
  isWord := fun c => c.isAlphanum || decide (c = '_')

/-- No titles and an empty bucket. -/
def emptyWorld : World where
  db := ⟨[], [], []⟩
  bucket := ⟨fun _ => none, fun _ => none, []⟩
  assembled := fun _ => none
  created := []

/-- An upload of `up` and the body that completes it. -/
def upStart (contentId : Uuid) (uploadId : String) : Event :=
  .start ⟨contentId, "0a1b2c", "", "", uploadId⟩ ⟨"up", 1, none, none⟩

def upBody (contentId : Uuid) (uploadId : String) : Completion where
  contentId := contentId
  slug := "up"
  sourceKey := "movies/up/source.mp4"
  uploadId := uploadId
  status := "draft"
  publishAt := none
  posterKey := none
  bannerKey := none
  parts := [⟨1, uploadId⟩]

def noImages : Storage where
  completeMultipartUpload := fun _ _ => .ok ()
  objectExists := fun _ => false
  optimizeImage := id

theorem emptyWorld_fresh : emptyWorld.Fresh := ⟨fun _ => rfl, rfl⟩

/-- One upload from the start to the row. -/
theorem single_upload_matches :
    ∃ w, Run plainLetters id Exclusive emptyWorld w ∧ w.db.contents.length = 1 ∧
      w.SourcesMatch := by
  have hfree : Exclusive emptyWorld (.assemble 0 (upBody 1 "u0") true) :=
    ⟨fun movie hmovie => absurd hmovie List.not_mem_nil, fun _ _ _ hunder => by cases hunder⟩
  have hrun : ∃ w, Run plainLetters id Exclusive emptyWorld w ∧ w.db.contents.length = 1 := by
    have hstarted : Run plainLetters id Exclusive emptyWorld _ :=
      .step (upStart 1 "u0") (.refl emptyWorld) trivial rfl
    have hsent := hstarted.step (.uploadPart "u0" 1 "u0") trivial rfl
    have hassembled := hsent.step (.assemble 0 (upBody 1 "u0") true) hfree rfl
    exact ⟨_, hassembled.step (.create 0 noImages) trivial rfl, rfl⟩
  obtain ⟨w, hrun, hone⟩ := hrun
  exact ⟨w, hrun, hone, exclusive_sourcesMatch emptyWorld_fresh hrun⟩

/-- Both uploads were given the slug, and the second completion replaces the video of
the first movie before its own row is refused. -/
theorem shared_slug_overwritten :
    ¬ ∀ w, Run plainLetters id (fun _ _ => True) emptyWorld w → w.SourcesMatch := by
  intro h
  have hplay : ∃ w, emptyWorld.play plainLetters id [upStart 1 "u0", upStart 2 "u1",
      .uploadPart "u0" 1 "u0", .uploadPart "u1" 1 "u1", .assemble 0 (upBody 1 "u0") true,
      .create 0 noImages, .assemble 1 (upBody 2 "u1") true] = some w ∧
      w.db.contents.map (fun movie => (movie.id, movie.slug)) = [(1, "up")] ∧
      w.created = [(1, "u0")] ∧
      w.bucket.objects "movies/up/source.mp4" = some ⟨"u1", ["u1"]⟩ :=
    ⟨_, rfl, rfl, rfl, rfl⟩
  obtain ⟨w, hplay, hcontents, hcreated, hobject⟩ := hplay
  have hmatch := h w (run_of_play (.refl _) (fun _ _ => trivial) hplay)
  obtain ⟨movie, hmovie, hsame⟩ := List.mem_map.1 (hcontents ▸ List.mem_singleton.2 rfl :
    (1, "up") ∈ w.db.contents.map fun movie => (movie.id, movie.slug))
  obtain ⟨hid, hslug⟩ := Prod.mk.inj hsame
  have hentry : (movie.id, "u0") ∈ w.created := by
    rw [hcreated, hid]
    exact List.mem_singleton.2 rfl
  obtain ⟨object, hfound, hupload⟩ := hmatch movie hmovie "u0" hentry
  rw [hslug] at hfound
  have hkey : movieSourceKey "up" = "movies/up/source.mp4" := by decide
  rw [hkey, hobject] at hfound
  cases hfound
  exact absurd hupload (by decide)

end MovieApi.Publishing
