import MovieApi.Catalog.Ratings

/-!
# The displayed rating

While movies are looked after, the rating that a movie displays is twice the average of
its ratings, in every state in which no call on the movie is on its way.
-/

namespace MovieApi.Catalog.Ratings

open ReadCommitted ReadCommitted.Prog
open Accounts (Uuid Err userInactive)

variable {n : ℕ} {t u : Tid} {s s' : Store} {d d' : Db} {movie : Uuid} {w : Write}

/-- A rated movie displays twice the average, rounded half up to one decimal. -/
def Follows (d : Db) (movie : Uuid) : Prop :=
  d.ratingsOf movie ≠ [] → ∀ content, d.contents movie = some content →
    content.rating = some (quantizeTenth (2 * average (d.ratingsOf movie)))

/-! ## Movies that a write leaves alone -/

/-- The movie whose ratings a write changes. -/
def Write.rated : Write → Option Uuid
  | insertRating row => some row.contentId
  | updateRating _ contentId _ => some contentId
  | deleteRating _ contentId => some contentId
  | updateContent _ _ => none
  | emptyUser _ => none

theorem ratingsOf_apply (h : w.rated ≠ some movie) (d : Db) :
    (w.apply d).ratingsOf movie = d.ratingsOf movie := by
  cases w with
  | updateContent id rating => rfl
  | emptyUser id => rfl
  | insertRating row =>
      have hne : row.contentId ≠ movie := fun heq => h (congrArg some heq)
      simp only [Write.apply]
      split
      · rfl
      · simp [Db.ratingsOf, List.filter_append, hne]
  | updateRating userId contentId value =>
      have hne : contentId ≠ movie := fun heq => h (congrArg some heq)
      simp only [Write.apply, Db.ratingsOf]
      induction d.ratings with
      | nil => rfl
      | cons row rows ih =>
          rw [List.map_cons, List.filter_cons, List.filter_cons, ih]
          by_cases hrow : row.userId = userId ∧ row.contentId = contentId
          · obtain ⟨rfl, rfl⟩ := hrow
            simp [hne]
          · rw [if_neg hrow]
  | deleteRating userId contentId =>
      have hne : contentId ≠ movie := fun heq => h (congrArg some heq)
      simp only [Write.apply, Db.ratingsOf, List.filter_filter]
      refine List.filter_congr fun row _ => ?_
      by_cases hrow : row.contentId = movie
      · have hother : row.contentId ≠ contentId := fun heq => hne (heq.symm.trans hrow)
        simp [hrow ▸ hother, hrow]
      · simp [hrow]

theorem contents_apply_of_ne (h : ∀ rating, w ≠ .updateContent movie rating) (d : Db) :
    (w.apply d).contents movie = d.contents movie := by
  rw [Write.contents_apply]
  cases w with
  | updateContent id rating =>
      have hne : movie ≠ id := fun heq => h rating (by rw [heq])
      simp [Write.onContent, hne]
  | _ => rfl

theorem rating?_of_ratingsOf (h : d'.ratingsOf movie = d.ratingsOf movie) (userId : Uuid) :
    d'.rating? userId movie = d.rating? userId movie := by
  simp only [Db.rating?, h]

theorem Follows.of_same (h : Follows d movie) (hratings : d'.ratingsOf movie = d.ratingsOf movie)
    (hcontents : d'.contents movie = d.contents movie) : Follows d' movie := by
  intro hrated content hcontent
  rw [hratings] at hrated ⊢
  rw [hcontents] at hcontent
  exact h hrated content hcontent

/-! ## Movies that are looked after -/

/-- The movie displays what it should, or a call will see to it. -/
def Covered (s : Store) (movie : Uuid) : Prop :=
  Follows s.db movie ∨ ∃ t, onWay s movie t = true

theorem onWay_congr (hratings : s'.db.ratingsOf movie = s.db.ratingsOf movie)
    (hinfo : s'.info u = s.info u) (hactive : s.active u = true → s'.active u = true)
    (h : onWay s movie u = true) : onWay s' movie u = true := by
  simp only [onWay, hinfo] at h ⊢
  cases hnote : s.info u with
  | away => simp [hnote] at h
  | rating userId contentId =>
      simp only [hnote, Bool.and_eq_true, decide_eq_true_eq] at h ⊢
      rw [rating?_of_ratingsOf hratings]
      exact h
  | showing contentId => simpa [hnote] using h
  | averaged contentId loaded answer =>
      simp only [hnote, Bool.and_eq_true, decide_eq_true_eq] at h ⊢
      exact ⟨h.1, hactive h.2⟩

theorem exists_onWay_of_others (h : othersOnWay n s movie t = true) :
    ∃ u, u ≠ t ∧ onWay s movie u = true := by
  obtain ⟨u, -, hu⟩ := List.any_eq_true.1 h
  rw [Bool.and_eq_true, decide_eq_true_eq] at hu
  exact ⟨u, hu⟩

/-- The store after a commit. -/
abbrev committed (s : Store) (t : Tid) : Store := (s.publish t).finish t

theorem onWay_committed (hratings : (s.view t).ratingsOf movie = s.db.ratingsOf movie)
    (hne : u ≠ t) (h : onWay s movie u = true) : onWay (committed s t) movie u = true := by
  refine onWay_congr hratings rfl (fun hactive => ?_) h
  simpa [Store.finish, Store.publish, hne] using hactive

/-- A commit that leaves the movie alone. -/
theorem Covered.committed (h : Covered s movie)
    (hratings : (s.view t).ratingsOf movie = s.db.ratingsOf movie)
    (hcontents : (s.view t).contents movie = s.db.contents movie)
    (hself : onWay s movie t = true → onWay (committed s t) movie t = true) :
    Covered (committed s t) movie := by
  rcases h with hfollows | ⟨u, hu⟩
  · exact .inl (hfollows.of_same hratings hcontents)
  · by_cases hne : u = t
    · exact .inr ⟨t, hself (hne ▸ hu)⟩
    · exact .inr ⟨u, onWay_committed hratings hne hu⟩

/-! ## The contract -/

/-- The store after a session has noted something. -/
abbrev noted (s : Store) (t : Tid) (n : Note) : Store :=
  { s with info := Function.update s.info t n }

def ratingContract (n : ℕ) : Contract where
  Inv s := (∀ t, s.doomed t = false) ∧ ∀ movie, Covered s movie
  Obl t _ c s :=
    match c with
    | .reject _ => False
    | .commit => ∀ movie, Covered (committed s t) movie
    | .rollback => s.info t = .away
    | .session step => ∀ movie, onWay s movie t = true →
        Covered (noted s t (step (s.info t)).2) movie
    | _ => True
  Rely _ _ := True
  rely_refl _ := trivial
  rely_trans _ _ := trivial
  Allows t _ c s := (lookedAfter n).stmt t c s = true

theorem onWay_noted {note : Note} (hne : u ≠ t) :
    onWay (noted s t note) movie u = onWay s movie u := by
  simp [onWay, Function.update_of_ne hne]

/-- What only adds to the calls on their way keeps movies covered. -/
theorem Covered.of_onWay (h : Covered s movie) (hdb : s'.db = s.db)
    (hway : ∀ u, onWay s movie u = true → onWay s' movie u = true) : Covered s' movie := by
  rcases h with hfollows | ⟨u, hu⟩
  · exact .inl (hdb ▸ hfollows)
  · exact .inr ⟨u, hway u hu⟩

theorem covered_of_begin (h : Covered s movie) (hdb : s'.db = s.db) (hinfo : s'.info = s.info)
    (hactive : ∀ u, s.active u = true → s'.active u = true) : Covered s' movie :=
  h.of_onWay hdb fun u => onWay_congr (by rw [hdb]) (by rw [hinfo]) (hactive u)

theorem ratingContract_sound : (ratingContract n).Sound (lookedAfter n) where
  allows := id
  stmt {α c t s r s'} _ hinv hobl _ hexec := by
    obtain ⟨hlive, hcovered⟩ := hinv
    have hobl := hobl (hlive t)
    refine ⟨?_, trivial⟩
    cases c with
    | reject => exact hobl.elim
    | commit =>
        simp only [Stmt.exec, hlive t, Bool.false_eq_true, if_false, Option.some.injEq,
          Prod.mk.injEq] at hexec
        rw [← hexec.2]
        refine ⟨fun u => ?_, hobl⟩
        by_cases hu : u = t <;> simp [Store.finish, Store.publish, hu, hlive u]
    | rollback =>
        simp only [Stmt.exec, Option.some.injEq, Prod.mk.injEq] at hexec
        rw [← hexec.2]
        refine ⟨fun u => ?_, fun movie => (hcovered movie).of_onWay rfl fun u hu => ?_⟩
        · by_cases hu : u = t <;> simp [Store.finish, hu, hlive u]
        · have hne : u ≠ t := by
            rintro rfl
            simp [onWay, show s.info u = .away from hobl] at hu
          refine onWay_congr (s := s) rfl rfl (fun hactive => ?_) hu
          simpa [Store.finish, hne] using hactive
    | session step =>
        simp only [Stmt.exec, Option.some.injEq, Prod.mk.injEq] at hexec
        rw [← hexec.2]
        refine ⟨hlive, fun movie => ?_⟩
        rcases hcovered movie with hfollows | ⟨u, hu⟩
        · exact .inl hfollows
        · by_cases hne : u = t
          · exact hobl movie (hne ▸ hu)
          · exact .inr ⟨u, (onWay_noted hne).trans hu⟩
    | select | lock | tryLock | enter | write | sense | tell =>
        simp only [Stmt.exec, hlive t, Bool.false_eq_true, if_false] at hexec
        repeat' split at hexec
        all_goals simp only [Option.some.injEq, Prod.mk.injEq, reduceCtorEq] at hexec
        all_goals rw [← hexec.2]
        all_goals refine ⟨hlive, fun movie => covered_of_begin (hcovered movie) rfl rfl fun u hu => ?_⟩
        all_goals first
          | exact hu
          | by_cases hne : u = t <;> simp [Store.begin, Store.acquire, Store.record, hne, hu]
  others _ _ _ _ _ _ := trivial
  outside hinv _ := ⟨⟨hinv, trivial⟩, fun _ => trivial⟩

/-! ## A call that rates a movie -/

section

variable {userId contentId : Uuid} {loaded : Option ℚ} {answer : Option ℚ × ℕ} {note : Note}
  {value : ℕ} {ws : List Write} {Q : Store → Prop}

/-- The session has noted this and has written that. -/
structure At (t : Tid) (note : Note) (ws : List Write) (s : Store) : Prop where
  info : s.info t = note
  writes : s.writes t = ws

theorem at_stable : Stable (ratingContract n) t (At t note ws) :=
  ⟨fun hb hs => ⟨hb.info.trans hs.info, hb.writes.trans hs.writes⟩⟩

/-- The call is not on its way. -/
def Away (t : Tid) (_ : Fault) (s : Store) : Prop := s.info t = .away

/-- What a rating is flushed as, with its row there at the latest after the commit. -/
inductive Flushed (t : Tid) (userId contentId : Uuid) (s : Store) : Prop
  | same (h : s.writes t = [])
  | inserted (value : ℕ) (h : s.writes t = [.insertRating ⟨userId, contentId, value⟩])
  | updated (value : ℕ) (h : s.writes t = [.updateRating userId contentId value])
      (hlock : s.Holds t (.rating userId contentId) .noKeyUpdate)
      (hrow : (s.db.rating? userId contentId).isSome = true)

theorem flushed_stable : Stable (ratingContract n) t (Flushed t userId contentId) := by
  refine ⟨fun hb hs => ?_⟩
  cases hs with
  | same h => exact .same (hb.writes.trans h)
  | inserted value h => exact .inserted value (hb.writes.trans h)
  | updated value h hlock hrow =>
      refine .updated value (hb.writes.trans h) (hb.holds_iff.2 hlock) ?_
      have hsame : _ = _ := hb.agree hlock (by decide)
      rw [hsame]
      exact hrow

theorem info_stable : Stable (ratingContract n) t fun s => s.info t = note :=
  ⟨fun hb hs => hb.info.trans hs⟩

theorem select_part {α : Type} {q : Db → α} {R : Fault → Store → Prop} :
    Triple (ratingContract n) t (At t note ws) (select q) (fun _ => At t note ws) R :=
  .select at_stable fun _ _ hs _ => ⟨trivial, hs.info, hs.writes⟩

theorem currentUser_part :
    Triple (ratingContract n) t (At t .away []) (currentUser userId) (fun _ => At t .away [])
      (Away t) := by
  refine .bind select_part fun user? => ?_
  cases user?.filter User.isActive with
  | none => exact .raise fun s hs => hs.info
  | some user => exact .ret fun s hs => hs

theorem assertRateableMovie_part :
    Triple (ratingContract n) t (At t .away []) (assertRateableMovie contentId)
      (fun _ => At t .away []) (Away t) := by
  refine .bind select_part fun content? => ?_
  cases content? with
  | none => exact .raise fun s hs => hs.info
  | some content =>
      show Triple _ t _ (if _ then _ else _) _ _
      split
      · exact .raise fun s hs => hs.info
      · exact .ret fun s hs => hs

theorem flushRating_part (rating? : Option Rating) :
    Triple (ratingContract n) t (At t .away []) (flushRating userId contentId rating? value)
      (fun _ s => s.info t = .away ∧ Flushed t userId contentId s) (Away t) := by
  cases rating? with
  | some rating =>
      show Triple _ t _ (if _ then _ else _) _ _
      split
      · exact .ret fun s hs => ⟨hs.info, .same hs.writes⟩
      · refine .bind (.lock (Q := fun _ s => At t .away [] s ∧
          s.Holds t (.rating userId contentId) .noKeyUpdate) at_stable
          fun s _ hs _ => ⟨trivial, fun _ => ⟨⟨hs.info, hs.writes⟩, by simp⟩⟩) fun _ => ?_
        refine .bind (.select (Q := fun found s => (At t .away [] s ∧
          s.Holds t (.rating userId contentId) .noKeyUpdate) ∧
            (found = true → (s.db.rating? userId contentId).isSome = true))
          (at_stable.and (.holds _ _)) fun s _ hs _ => ⟨trivial, ⟨⟨hs.1.info, hs.1.writes⟩, hs.2⟩,
            fun hfound => ?_⟩) fun found => ?_
        · rw [Store.view, hs.1.writes, applyAll_nil] at hfound
          exact hfound
        · cases found with
          | false => exact .raise fun s hs => hs.1.1.info
          | true =>
              refine .pre (.write (P := fun s => (At t .away [] s ∧
                s.Holds t (.rating userId contentId) .noKeyUpdate) ∧
                  (s.db.rating? userId contentId).isSome = true)
                ⟨fun hb hs => ?_⟩ fun s _ hs _ => ⟨trivial, fun _ => ⟨hs.1.1.info, ?_⟩⟩)
                fun s hs => ⟨hs.1, hs.2 rfl⟩
              · have hsame : _ = _ := hb.agree hs.1.2 (by decide)
                exact ⟨(at_stable.and (.holds _ _)).keep hb hs.1, by rw [hsame]; exact hs.2⟩
              · refine .updated value ?_ ?_ hs.2
                · simp [Store.record, Store.acquire, hs.1.1.writes]
                · exact Store.holds_acquire.2 (.inr hs.1.2)
  | none =>
      refine .bind (.enter (Q := fun _ => At t .away []) at_stable fun s _ hs _ =>
        ⟨trivial, fun _ _ => ⟨hs.info, hs.writes⟩, fun _ _ => ⟨hs.info, hs.writes⟩⟩) fun entered => ?_
      cases entered with
      | false => exact .raise fun s hs => hs.info
      | true =>
          refine .write at_stable fun s _ hs _ => ⟨trivial, fun _ => ⟨hs.info, .inserted value ?_⟩⟩
          simp [Store.record, Store.acquire, hs.writes]

theorem onWay_of_rating (h : s.info t = .rating userId contentId) :
    onWay s movie t = (decide (contentId = movie) && (s.db.rating? userId movie).isSome) := by
  simp only [onWay, h]

/-- The commit of a rating leaves its call on the way. -/
theorem Flushed.covered (h : Flushed t userId contentId s)
    (hinfo : s.info t = .rating userId contentId) (hcovered : Covered s movie) :
    Covered (committed s t) movie := by
  have hnoted : (committed s t).info t = .rating userId contentId := hinfo
  have hself (hpresent : ((s.view t).rating? userId contentId).isSome = true) :
      Covered (committed s t) contentId := by
    refine .inr ⟨t, ?_⟩
    rw [onWay_of_rating hnoted, decide_eq_true rfl, Bool.true_and]
    exact hpresent
  have hother (hne : contentId ≠ movie)
      (hratings : (s.view t).ratingsOf movie = s.db.ratingsOf movie)
      (hcontents : (s.view t).contents movie = s.db.contents movie) :
      Covered (committed s t) movie :=
    hcovered.committed hratings hcontents fun hway => by
      simp [onWay_of_rating hinfo, hne] at hway
  cases h with
  | same h =>
      have hview : s.view t = s.db := by rw [Store.view, h, applyAll_nil]
      refine hcovered.committed (by rw [hview]) (by rw [hview]) fun hway => ?_
      rw [onWay_of_rating hinfo] at hway
      rw [onWay_of_rating hnoted, show (committed s t).db = s.db from hview]
      exact hway
  | inserted value h =>
      have hview : s.view t = (Write.insertRating ⟨userId, contentId, value⟩).apply s.db := by
        rw [Store.view, h, applyAll_cons, applyAll_nil, apply_eq]
      by_cases hne : contentId = movie
      · subst hne
        refine hself ?_
        rw [hview, Write.rating?_apply]
        cases s.db.rating? userId contentId <;> simp [Write.onRating]
      · refine hother hne ?_ ?_ <;> rw [hview]
        · exact ratingsOf_apply (by simp [Write.rated, hne]) _
        · exact contents_apply_of_ne (by simp) _
  | updated value h hlock hrow =>
      have hview : s.view t = (Write.updateRating userId contentId value).apply s.db := by
        rw [Store.view, h, applyAll_cons, applyAll_nil, apply_eq]
      by_cases hne : contentId = movie
      · subst hne
        refine hself ?_
        rw [hview, Write.rating?_apply]
        simpa [Write.onRating] using hrow
      · refine hother hne ?_ ?_ <;> rw [hview]
        · exact ratingsOf_apply (by simp [Write.rated, hne]) _
        · exact contents_apply_of_ne (by simp) _

theorem commitRating_part {R : Fault → Store → Prop} :
    Triple (ratingContract n) t
      (fun s => s.info t = .rating userId contentId ∧ Flushed t userId contentId s) commit
      (fun _ => At t (.rating userId contentId) []) R := by
  refine .commit (info_stable.and flushed_stable) fun s hc hs => ⟨fun hd => ?_, fun _ => ⟨?_, ?_⟩⟩
  · rw [hc.inv.1 t] at hd
    cases hd
  · exact fun movie => hs.2.covered hs.1 (hc.inv.2 movie)
  · exact ⟨hs.1, by simp⟩

/-- An average of ratings is displayed as the movie's rating should be. -/
theorem newRating_averageOf {rows : List Rating} (h : rows ≠ []) :
    newRating loaded (averageOf rows) = some (quantizeTenth (2 * average rows)) := by
  have hlength : rows.length ≠ 0 := fun hzero => h (List.length_eq_zero_iff.1 hzero)
  simp [newRating, averageOf, h, hlength, mul_comm]

/-- The writes of a flushed movie. -/
def contentWrites (contentId : Uuid) (loaded rating : Option ℚ) : List Write :=
  if rating = loaded then [] else [.updateContent contentId rating]

/-- A fresh average is what the movie displays after the commit. -/
theorem follows_of_fresh
    (hwrites : s.writes t = contentWrites contentId loaded (newRating loaded answer))
    (h : fresh s t contentId loaded answer = true) : Follows (s.view t) contentId := by
  simp only [fresh, Bool.and_eq_true, decide_eq_true_eq] at h
  obtain ⟨rfl, hsent⟩ := h
  intro hrated content hcontent
  rw [Store.view, hwrites] at hrated hcontent ⊢
  by_cases hsame : newRating loaded (averageOf (s.db.ratingsOf contentId)) = loaded
  · simp only [contentWrites, hsame, if_true, applyAll_nil] at hrated hcontent ⊢
    have hshown : content.rating = loaded := by
      simpa [hwrites, contentWrites, hsame, hcontent] using hsent
    rw [hshown, ← hsame, newRating_averageOf hrated]
  · simp only [contentWrites, hsame, if_false, applyAll_cons, applyAll_nil, apply_eq]
      at hrated hcontent ⊢
    have hratings : (Write.updateContent contentId
        (newRating loaded (averageOf (s.db.ratingsOf contentId))) |>.apply s.db).ratingsOf
          contentId = s.db.ratingsOf contentId := rfl
    rw [hratings] at hrated ⊢
    rw [Write.contents_apply] at hcontent
    simp only [Write.onContent, if_true, Option.map_eq_some_iff] at hcontent
    obtain ⟨stored, -, rfl⟩ := hcontent
    exact newRating_averageOf hrated

/-- The commit of an average. -/
theorem covered_of_averaged (hinfo : s.info t = .averaged contentId loaded answer)
    (hwrites : s.writes t = contentWrites contentId loaded (newRating loaded answer))
    (hallow : (lookedAfter n).stmt t (.commit : Stmt Unit) s = true)
    (hcovered : Covered s movie) : Covered (committed s t) movie := by
  have hratings : (s.view t).ratingsOf movie = s.db.ratingsOf movie := by
    rw [Store.view, hwrites, contentWrites]
    split <;> rfl
  by_cases hne : contentId = movie
  · subst hne
    simp only [lookedAfter, hinfo, Bool.and_eq_true, Bool.or_eq_true] at hallow
    rcases hallow.2 with hfresh | hothers
    · exact .inl (follows_of_fresh hwrites hfresh)
    · obtain ⟨u, hu, hway⟩ := exists_onWay_of_others hothers
      exact .inr ⟨u, onWay_committed hratings hu hway⟩
  · refine hcovered.committed hratings ?_ fun hway => ?_
    · rw [Store.view, hwrites, contentWrites]
      split
      · rfl
      · exact contents_apply_of_ne (fun rating heq => hne (Write.updateContent.inj heq).1) _
    · simp [onWay, hinfo, hne] at hway

theorem note_part {note' : Note} {P : Store → Prop} {Q : Unit → Store → Prop}
    {R : Fault → Store → Prop} (hP : Stable (ratingContract n) t P)
    (h : ∀ s, Calm (ratingContract n) s → P s → Q () (noted s t note') ∧
      ∀ movie, onWay s movie t = true → Covered (noted s t note') movie) :
    Triple (ratingContract n) t P (Ratings.note note') Q R :=
  .session hP fun s hc hs => ⟨fun _ => (h s hc hs).2, (h s hc hs).1⟩

theorem at_noted {note' : Note} (h : At t note ws s) : At t note' ws (noted s t note') :=
  ⟨by simp, h.writes⟩

theorem recomputeContentRating_part {R : Fault → Store → Prop} :
    Triple (ratingContract n) t (At t (.showing contentId) [])
      (recomputeContentRating contentId loaded) (fun _ => At t .away []) R := by
  refine .bind (.select (Q := fun _ s => At t (.showing contentId) [] s ∧ s.active t = true)
    at_stable fun s _ hs _ => ⟨trivial, ⟨hs.info, hs.writes⟩, by simp⟩) fun answer => ?_
  refine .bind (Q := fun _ => At t (.averaged contentId loaded answer) []) (note_part
    (at_stable.and ⟨fun hb hs => hb.active.trans hs⟩) fun s _ hs =>
      ⟨at_noted hs.1, fun movie hway => .inr ⟨t, ?_⟩⟩) fun _ => ?_
  · have hmovie : contentId = movie := by simpa [onWay, hs.1.info] using hway
    simp [onWay, hmovie, hs.2]
  refine .bind (Q := fun _ => At t (.averaged contentId loaded answer)
    (contentWrites contentId loaded (newRating loaded answer))) ?_ fun _ => ?_
  · show Triple _ t _ (if _ then _ else _) _ _
    split
    · next hsame => exact .ret fun s hs => ⟨hs.info, by rw [hs.writes, contentWrites, if_pos hsame]⟩
    · next hne =>
        refine .write at_stable fun s _ hs _ => ⟨trivial, fun _ => ⟨hs.info, ?_⟩⟩
        simp [Store.record, Store.acquire, hs.writes, contentWrites, hne]
  refine .bind (Q := fun _ s => At t (.averaged contentId loaded answer) [] s ∧
    s.active t = false) (.performAllowed at_stable fun s hc hallow hs =>
      ⟨fun _ => fun movie => covered_of_averaged hs.info hs.writes hallow (hc.inv.2 movie),
        fun _ s' hexec => ?_⟩) fun _ => ?_
  · simp only [Stmt.exec, hc.inv.1 t, Bool.false_eq_true, if_false, Option.some.injEq,
      Prod.mk.injEq] at hexec
    rw [← hexec.2]
    exact ⟨⟨hs.info, by simp⟩, by simp⟩
  refine .bind (Q := fun _ => At t .away []) (note_part
    (at_stable.and ⟨fun hb hs => hb.active.trans hs⟩) fun s _ hs =>
      ⟨at_noted hs.1, fun movie hway => ?_⟩) fun _ => .ret fun _ hs => hs
  simp [onWay, hs.1.info, hs.2] at hway

theorem upsertRating_part (content : Content) :
    Triple (ratingContract n) t (At t .away [])
      (upsertRating contentId content userId value) (fun _ => At t .away []) (Away t) := by
  refine .bind select_part fun rating? => ?_
  refine .bind (flushRating_part rating?) fun _ => ?_
  refine .bind (Q := fun _ s => s.info t = .rating userId contentId ∧
    Flushed t userId contentId s) (note_part (info_stable.and flushed_stable) fun s _ hs =>
      ⟨⟨by simp, ?_⟩, fun movie hway => ?_⟩) fun _ => ?_
  · cases hs.2 with
    | same h => exact .same h
    | inserted value h => exact .inserted value h
    | updated value h hlock hrow => exact .updated value h hlock hrow
  · simp [onWay, hs.1] at hway
  refine .bind commitRating_part fun _ => ?_
  refine .bind select_part fun found => ?_
  cases found with
  | none =>
      refine .bind (Q := fun _ => At t .away []) (.performAllowed at_stable fun s hc hallow hs =>
        ⟨fun _ => fun movie hway => ?_, fun _ s' hexec => ?_⟩) fun _ => .raise fun s hs => hs.info
      · rw [onWay_of_rating hs.info, Bool.and_eq_true, decide_eq_true_eq] at hway
        obtain ⟨rfl, hrow⟩ := hway
        have hallow : (lookedAfter n).stmt t (.session fun _ => ((), .away) : Stmt Unit) s =
            true := hallow
        have hothers : othersOnWay n s contentId t = true := by
          simpa [lookedAfter, hs.info, Option.isSome_iff_ne_none.1 hrow] using hallow
        obtain ⟨u, hu, hway⟩ := exists_onWay_of_others hothers
        exact .inr ⟨u, (onWay_noted hu).trans hway⟩
      · simp only [Stmt.exec, Option.some.injEq, Prod.mk.injEq] at hexec
        rw [← hexec.2]
        exact at_noted hs
  | some rating =>
      refine .bind (Q := fun _ => At t (.showing contentId) []) (note_part at_stable fun s _ hs =>
        ⟨at_noted hs, fun movie hway => .inr ⟨t, ?_⟩⟩) fun _ => ?_
      · rw [onWay_of_rating hs.info, Bool.and_eq_true, decide_eq_true_eq] at hway
        simp [onWay, hway.1]
      refine .bind recomputeContentRating_part fun count => ?_
      refine .bind select_part fun refreshed => ?_
      cases refreshed with
      | none => exact .raise fun s hs => hs.info
      | some refreshed => exact .ret fun s hs => hs

theorem rateMovie_part (data : RatingUpsert) :
    Triple (ratingContract n) t (At t .away []) (rateMovie userId contentId data)
      (fun _ => At t .away []) (Away t) :=
  .bind currentUser_part fun _ => .bind assertRateableMovie_part fun content =>
    .bind (upsertRating_part content) fun _ => .ret fun _ hs => hs

/-! ## The deletion of an account -/

/-- The session has deleted ratings and emptied the user, and nothing else. -/
structure Deleting (t : Tid) (userId : Uuid) (s : Store) : Prop where
  info : s.info t = .away
  writes : ∀ w ∈ s.writes t, (∃ movie, w = .deleteRating userId movie) ∨ w = .emptyUser userId

theorem deleting_stable : Stable (ratingContract n) t (Deleting t userId) :=
  ⟨fun hb hs => ⟨hb.info.trans hs.info, hb.writes ▸ hs.writes⟩⟩

theorem deleting_write (hw : (∃ movie, w = .deleteRating userId movie) ∨ w = .emptyUser userId)
    {R : Fault → Store → Prop} :
    Triple (ratingContract n) t (Deleting t userId) (write w) (fun _ => Deleting t userId) R := by
  refine .write deleting_stable fun s _ hs _ => ⟨trivial, fun _ => ⟨hs.info, fun w' hw' => ?_⟩⟩
  rw [Store.record_writes, List.mem_append, List.mem_singleton] at hw'
  rcases hw' with hold | rfl
  · exact hs.writes w' hold
  · exact hw

/-- The commit of a deletion covers the movies it has removed a rating of, and the others. -/
theorem Deleting.covered (h : Deleting t userId s)
    (hallow : (lookedAfter n).stmt t (.commit : Stmt Unit) s = true)
    (hcovered : Covered s movie) : Covered (committed s t) movie := by
  by_cases hremoved : .deleteRating userId movie ∈ s.writes t
  · simp only [lookedAfter, Bool.and_eq_true, List.all_eq_true] at hallow
    obtain ⟨u, -, hway⟩ := exists_onWay_of_others (hallow.1 _ hremoved)
    exact .inr ⟨u, hway⟩
  · have hsame : (s.view t).ratingsOf movie = s.db.ratingsOf movie ∧
        (s.view t).contents movie = s.db.contents movie := by
      refine applyAll_induction (P := fun d : Db => d.ratingsOf movie = s.db.ratingsOf movie ∧
        d.contents movie = s.db.contents movie) ⟨rfl, rfl⟩ fun w hw d hd => ?_
      rw [apply_eq]
      rcases h.writes w hw with ⟨other, rfl⟩ | rfl
      · have hne : other ≠ movie := fun heq => hremoved (heq ▸ hw)
        exact ⟨(ratingsOf_apply (by simp [Write.rated, hne]) d).trans hd.1, hd.2⟩
      · exact hd
    exact hcovered.committed hsame.1 hsame.2 fun hway => by simp [onWay, h.info] at hway

theorem deleteUserAccount_part (scan : Scan) :
    Triple (ratingContract n) t (At t .away []) (deleteUserAccount scan userId)
      (fun _ => At t .away []) (Away t) := by
  refine .bind currentUser_part fun user => ?_
  show Triple _ t _ (if _ then _ else _) _ _
  split
  · exact .raise fun s hs => hs.info
  · refine .bind select_part fun movies => ?_
    refine .bind (Q := fun _ => Deleting t userId) (.pre (.forEach fun movie _ =>
      deleting_write (.inl ⟨movie, rfl⟩)) fun s hs => ⟨hs.info, by simp [hs.writes]⟩) fun _ => ?_
    refine .bind (deleting_write (.inr rfl)) fun _ => ?_
    refine .performAllowed deleting_stable fun s hc hallow hs =>
      ⟨fun _ => fun movie => hs.covered hallow (hc.inv.2 movie), fun _ s' hexec => ?_⟩
    simp only [Stmt.exec, hc.inv.1 t, Bool.false_eq_true, if_false, Option.some.injEq,
      Prod.mk.injEq] at hexec
    rw [← hexec.2]
    exact ⟨hs.info, by simp⟩

/-! ## Every run -/

theorem closing_part {α : Type} {p : Prog α} (h : Triple (ratingContract n) t (At t .away []) p
      (fun _ => At t .away []) (Away t)) :
    Triple (ratingContract n) t (At t .away []) (closing p)
      (fun _ s => s.info t = .away) (Away t) := by
  have hrollback {R : Fault → Store → Prop} : Triple (ratingContract n) t
      (fun s => s.info t = .away) rollback (fun _ s => s.info t = .away) R :=
    .rollback info_stable fun s _ hs => ⟨fun _ => hs, hs⟩
  refine .bind (Q := fun _ s => s.info t = .away) (.tryCatch (M := Away t)
    (.bind h fun _ => .ret fun s hs => hs.info) fun fault => ?_) fun _ => hrollback
  have hstable : Stable (ratingContract n) t fun s => s.info t = .away := info_stable
  refine .bind (Q := fun _ => Away t fault) (.rollback (.or (.doomed true) hstable)
    fun s hc hs => ?_) fun _ => .raise fun s hs => hs
  have haway : s.info t = .away := by
    rcases hs with hdoomed | haway
    · rw [hc.inv.1 t] at hdoomed
      cases hdoomed
    · exact haway
  exact ⟨fun _ => haway, haway⟩

theorem request_part (request : Request) :
    Triple (ratingContract n) t (At t .away []) request.prog (fun _ s => s.info t = .away)
      (Away t) := by
  cases request with
  | rate userId contentId data => exact closing_part (rateMovie_part data)
  | deleteAccount scan userId => exact closing_part (deleteUserAccount_part scan)

end

/-- In every run in which movies are looked after, a movie displays twice the average of
its ratings whenever no call on it is on its way, and so when all calls have ended. -/
theorem displayed_follows {d : Db} (hstart : ∀ movie, Follows d movie) (requests : List Request)
    {q : Pool} (h : Pool.Run (lookedAfter requests.length) (startRatings d requests) q) :
    (∀ movie, (∀ t, onWay q.store movie t = false) → Follows q.store.db movie) ∧
      ((∀ t < requests.length, (q.progs t).ended = true) → ∀ movie, Follows q.store.db movie) := by
  have hkeeps : Pool.Keeps (ratingContract requests.length) (fun t s => s.info t = .away)
      (fun t fault s => s.doomed t = true ∨ Away t fault s) (startRatings d requests) := by
    have hinv : (ratingContract requests.length).Inv (.idle d .away ()) :=
      ⟨fun _ => rfl, fun movie => .inl (hstart movie)⟩
    refine Pool.Keeps.start hinv fun t => ?_
    cases hrequest : requests[t]? with
    | none => exact .ret fun s hs => by rw [hs]; rfl
    | some request => exact (request_part request).pre fun s hs => by rw [hs]; exact ⟨rfl, rfl⟩
  obtain ⟨hq, -⟩ := hkeeps.run ratingContract_sound (fun _ => info_stable)
    (fun _ _ => .or (.doomed true) info_stable) h
  have hidle : ∀ movie, (∀ t, onWay q.store movie t = false) → Follows q.store.db movie := by
    intro movie hnone
    rcases hq.calm.inv.2 movie with hfollows | ⟨t, hway⟩
    · exact hfollows
    · rw [hnone t] at hway
      cases hway
  refine ⟨hidle, fun hended movie => hidle movie fun t => ?_⟩
  have haway : q.store.info t = .away := by
    have hmeets := hq.meets t
    have hend : (q.progs t).ended = true := by
      by_cases ht : t < requests.length
      · exact hended t ht
      · have hnone : (startRatings d requests).progs t = .ret () := by
          simp [startRatings, List.getElem?_eq_none (not_lt.1 ht)]
        rw [h.progs_of_ended (by rw [hnone]; rfl), hnone]
        rfl
    cases hprog : q.progs t with
    | ret a =>
        rw [hprog] at hmeets
        exact hmeets
    | stmt c k => simp [hprog, Prog.ended] at hend
    | raise fault =>
        rw [hprog] at hmeets
        rcases hmeets with hdoomed | haway
        · rw [hq.calm.inv.1 t] at hdoomed
          cases hdoomed
        · exact haway
  simp [onWay, haway]

namespace Premiere

/-- Two users and a movie that nobody has rated. -/
def db : Db where
  users := fun id => if id < 3 then some ⟨"user", true⟩ else none
  contents := fun id => if id = 7 then some ⟨.single, true, none⟩ else none
  ratings := []

theorem follows (movie : Uuid) : Follows db movie := fun h => (h rfl).elim

def five : RatingUpsert := ⟨5, by decide⟩

def one : RatingUpsert := ⟨1, by decide⟩

def inOrder : Scan := ⟨id, fun _ => .refl _⟩

def runs (t n : ℕ) : List (Event Unit) := List.replicate n (.run t)

/-- Every session has ended, with these ratings and this rating of the movie. -/
def endsWith (n : ℕ) (rows : List Rating) (rating : ℚ) (q : Pool) : Bool :=
  (List.range n).all (fun t => (q.progs t).ended) && decide (q.store.db.ratings = rows ∧
    (q.store.db.contents 7).map Content.rating = some (some rating))

theorem of_endsWith {n : ℕ} {rows : List Rating} {rating : ℚ} {q : Pool}
    (h : endsWith n rows rating q = true) :
    (∀ t < n, (q.progs t).ended = true) ∧ q.store.db.ratings = rows ∧
      (q.store.db.contents 7).map Content.rating = some (some rating) := by
  simpa [endsWith] using h

end Premiere

open Premiere in
/-- The first user's account is deleted while the second one's rating is committed and not
yet displayed. -/
theorem deleted_meanwhile : ∃ q,
    Pool.Run (lookedAfter 3)
      (startRatings db [.rate 1 7 five, .rate 2 7 one, .deleteAccount inOrder 1]) q ∧
      q.store.db.ratings = [⟨2, 7, 1⟩] ∧
      (q.store.db.contents 7).map Content.rating = some (some 2) ∧
      Follows q.store.db 7 := by
  obtain ⟨q, hrun, hq⟩ := Pool.exists_run_of_play (f := endsWith 3 [⟨2, 7, 1⟩] 2)
    (show (Pool.play (lookedAfter 3)
      (startRatings db [.rate 1 7 five, .rate 2 7 one, .deleteAccount inOrder 1])
      (runs 0 16 ++ runs 1 7 ++ runs 2 6 ++ runs 1 9)).any _ = true by decide +kernel)
  obtain ⟨hended, hratings, hrating⟩ := of_endsWith hq
  exact ⟨q, hrun, hratings, hrating, (displayed_follows follows
    [.rate 1 7 five, .rate 2 7 one, .deleteAccount inOrder 1] hrun).2 hended 7⟩

open Premiere in
/-- The account is deleted when both ratings are displayed; one call displays the average it
has read before the other one's rating; and a call displays what the movie showed when the
call began, and so sends no `UPDATE`. -/
theorem displayed_lags :
    (∃ q, Pool.Run .any
        (startRatings db [.rate 1 7 five, .rate 2 7 one, .deleteAccount inOrder 1]) q ∧
      (∀ t < 3, (q.progs t).ended = true) ∧ ¬Follows q.store.db 7) ∧
    (∃ q, Pool.Run .any (startRatings db [.rate 1 7 five, .rate 2 7 one]) q ∧
      (∀ t < 2, (q.progs t).ended = true) ∧ ¬Follows q.store.db 7) ∧
    (∃ q, Pool.Run .any
        (startRatings db [.rate 1 7 five, .rate 1 7 one, .rate 1 7 five]) q ∧
      (∀ t < 3, (q.progs t).ended = true) ∧ ¬Follows q.store.db 7) := by
  have hlags {n : ℕ} {rows : List Rating} {rating : ℚ} {q : Pool}
      (hq : endsWith n rows rating q = true)
      (hne : rows ≠ [] ∧ (∀ row ∈ rows, row.contentId = 7) ∧
        rating ≠ quantizeTenth (2 * average rows)) :
      (∀ t < n, (q.progs t).ended = true) ∧ ¬Follows q.store.db 7 := by
    obtain ⟨hended, hratings, hrating⟩ := of_endsWith hq
    refine ⟨hended, fun hfollows => ?_⟩
    obtain ⟨content, hcontent, hshown⟩ := Option.map_eq_some_iff.1 hrating
    have hof : q.store.db.ratingsOf 7 = rows := by
      rw [Db.ratingsOf, hratings, List.filter_eq_self]
      simpa using hne.2.1
    have hfollowed := hfollows (hof ▸ hne.1) content hcontent
    rw [hof, hshown] at hfollowed
    exact hne.2.2 (Option.some.inj hfollowed)
  refine ⟨?_, ?_, ?_⟩
  · obtain ⟨q, hrun, hq⟩ := Pool.exists_run_of_play (f := endsWith 3 [⟨2, 7, 1⟩] 6)
      (show (Pool.play .any
        (startRatings db [.rate 1 7 five, .rate 2 7 one, .deleteAccount inOrder 1])
        (runs 0 16 ++ runs 1 16 ++ runs 2 6)).any _ = true by decide +kernel)
    exact ⟨q, hrun, hlags hq (by decide +kernel)⟩
  · obtain ⟨q, hrun, hq⟩ := Pool.exists_run_of_play
      (f := endsWith 2 [⟨1, 7, 5⟩, ⟨2, 7, 1⟩] 10)
      (show (Pool.play .any (startRatings db [.rate 1 7 five, .rate 2 7 one])
        (runs 0 11 ++ runs 1 16 ++ runs 0 5)).any _ = true by decide +kernel)
    exact ⟨q, hrun, hlags hq (by decide +kernel)⟩
  · obtain ⟨q, hrun, hq⟩ := Pool.exists_run_of_play (f := endsWith 3 [⟨1, 7, 5⟩] 2)
      (show (Pool.play .any (startRatings db [.rate 1 7 five, .rate 1 7 one, .rate 1 7 five])
        (runs 0 16 ++ runs 2 2 ++ runs 1 17 ++ runs 2 14)).any _ = true by decide +kernel)
    exact ⟨q, hrun, hlags hq (by decide +kernel)⟩

end MovieApi.Catalog.Ratings
