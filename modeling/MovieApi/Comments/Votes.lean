import MovieApi.Comments.ThreadListing
import MovieApi.Sql.CheckThenAct

/-!
# Votes and reports

`set_comment_vote` and `report_comment` read a row, decide, and write it in a later
statement, beside the same calls of other tabs.  What a listing then shows is the last
vote of each user, counted once.
-/

namespace MovieApi.Comments

open Publishing (Uuid Err unprocessable)
open Sql

/-! ## The calls -/

structure CommentVoteUpdate where
  userId : Uuid
  commentId : Uuid
  value : Int
deriving DecidableEq, Repr

structure CommentReportCreate where
  userId : Uuid
  commentId : Uuid
deriving DecidableEq, Repr

def invalidVote : Err := unprocessable "Invalid vote"

def alreadyReported : Err := .http 409 "Comment already reported"

def CommentVote.key (vote : CommentVote) : Uuid × Uuid := (vote.userId, vote.commentId)

def CommentReport.key (report : CommentReport) : Uuid × Uuid := (report.userId, report.commentId)

/-- `coalesce(sum(value), 0)` over the votes on a comment. -/
def sumOfVotes (commentId : Uuid) (votes : List CommentVote) : Int :=
  ((votes.filter fun vote => decide (vote.commentId = commentId)).map CommentVote.value).sum

/-- The session writes an update only where the value is another one. -/
def setCommentVote :
    Service CommentVoteUpdate CommentVote (Uuid × Uuid) Err (Int × Option Int) where
  keyOf := CommentVote.key
  key data := (data.userId, data.commentId)
  plan data existing :=
    if data.value ∉ [-1, 0, 1] then .refuse invalidVote
    else if data.value = 0 then
      match existing with
      | some _ => .write .delete
      | none => .keep
    else
      match existing with
      | some vote =>
          if vote.value = data.value then .keep
          else .write (.update ⟨data.userId, data.commentId, data.value⟩)
      | none => .write (.insert ⟨data.userId, data.commentId, data.value⟩)
  answer data votes :=
    (sumOfVotes data.commentId votes, if data.value ≠ 0 then some data.value else none)

def reportComment : Service CommentReportCreate CommentReport (Uuid × Uuid) Err Unit where
  keyOf := CommentReport.key
  key data := (data.userId, data.commentId)
  plan data existing :=
    match existing with
    | some _ => .refuse alreadyReported
    | none => .write (.insert ⟨data.userId, data.commentId⟩)
  answer _ _ := ()

/-! ## What they are for -/

/-- A vote is what its user voted last. -/
def voteEffect (data : CommentVoteUpdate) (_ : Option CommentVote) :
    Except Err (Option CommentVote) :=
  if data.value ∉ [-1, 0, 1] then .error invalidVote
  else if data.value = 0 then .ok none
  else .ok (some ⟨data.userId, data.commentId, data.value⟩)

/-- A user reports a comment once. -/
def reportEffect (data : CommentReportCreate) :
    Option CommentReport → Except Err (Option CommentReport)
  | some _ => .error alreadyReported
  | none => .ok (some ⟨data.userId, data.commentId⟩)

/-- What `set_comment_vote` decides about the row it has read. -/
inductive VotePlan (data : CommentVoteUpdate) :
    Option CommentVote → Plan CommentVote Err → Prop
  | invalid {existing : Option CommentVote} (hinvalid : data.value ∉ [-1, 0, 1]) :
      VotePlan data existing (.refuse invalidVote)
  | remove {vote : CommentVote} (hvalid : data.value ∈ [-1, 0, 1]) (hzero : data.value = 0) :
      VotePlan data (some vote) (.write .delete)
  | nothing (hvalid : data.value ∈ [-1, 0, 1]) (hzero : data.value = 0) :
      VotePlan data none .keep
  | same {vote : CommentVote} (hvalid : data.value ∈ [-1, 0, 1]) (hvote : data.value ≠ 0)
      (hsame : vote.value = data.value) : VotePlan data (some vote) .keep
  | change {vote : CommentVote} (hvalid : data.value ∈ [-1, 0, 1]) (hvote : data.value ≠ 0) :
      VotePlan data (some vote) (.write (.update ⟨data.userId, data.commentId, data.value⟩))
  | first (hvalid : data.value ∈ [-1, 0, 1]) (hvote : data.value ≠ 0) :
      VotePlan data none (.write (.insert ⟨data.userId, data.commentId, data.value⟩))

theorem setCommentVote_plan (data : CommentVoteUpdate) (existing : Option CommentVote) :
    VotePlan data existing (setCommentVote.plan data existing) := by
  simp only [setCommentVote]
  split
  · next hinvalid => exact .invalid hinvalid
  · next hvalid =>
      rw [not_not] at hvalid
      by_cases hzero : data.value = 0
      · rw [if_pos hzero]
        cases existing with
        | none => exact .nothing hvalid hzero
        | some vote => exact .remove hvalid hzero
      · rw [if_neg hzero]
        cases existing with
        | none => exact .first hvalid hzero
        | some vote =>
            by_cases hsame : vote.value = data.value
            · simp only [if_pos hsame]
              exact .same hvalid hzero hsame
            · simp only [if_neg hsame]
              exact .change hvalid hzero

section

variable {data : CommentVoteUpdate} {existing : Option CommentVote}

theorem voteEffect_of_zero (hvalid : data.value ∈ [-1, 0, 1]) (hzero : data.value = 0) :
    voteEffect data existing = .ok none := by
  rw [voteEffect, if_neg (not_not.2 hvalid), if_pos hzero]

theorem voteEffect_of_vote (hvalid : data.value ∈ [-1, 0, 1]) (hvote : data.value ≠ 0) :
    voteEffect data existing = .ok (some ⟨data.userId, data.commentId, data.value⟩) := by
  rw [voteEffect, if_neg (not_not.2 hvalid), if_neg hvote]

end

theorem setCommentVote_implements : setCommentVote.Implements voteEffect where
  keep := by
    intro data found hkey hplan
    have h := hplan ▸ setCommentVote_plan data found
    cases h with
    | nothing hvalid hzero => exact voteEffect_of_zero hvalid hzero
    | same hvalid hvote hsame =>
        obtain ⟨hid, hcomment⟩ := Prod.mk.inj (hkey _ rfl)
        rw [voteEffect_of_vote hvalid hvote, ← hsame, ← hid, ← hcomment]
  refuse := by
    intro data found err hplan
    have h := hplan ▸ setCommentVote_plan data found
    cases h with
    | invalid hinvalid => exact if_pos hinvalid
  insert := by
    intro data found row hplan
    have h := hplan ▸ setCommentVote_plan data found
    cases h with
    | first hvalid hvote => exact ⟨rfl, voteEffect_of_vote hvalid hvote⟩
  update := by
    intro data found row hplan
    have h := hplan ▸ setCommentVote_plan data found
    cases h with
    | change hvalid hvote => exact ⟨rfl, fun _ _ => voteEffect_of_vote hvalid hvote⟩
  delete := by
    intro data found hplan found'
    have h := hplan ▸ setCommentVote_plan data found
    cases h with
    | remove hvalid hzero => exact voteEffect_of_zero hvalid hzero

theorem reportComment_implements : reportComment.Implements reportEffect where
  keep := by
    intro data found _ hplan
    cases found <;> cases hplan
  refuse := by
    intro data found err hplan
    cases found <;> cases hplan
    rfl
  insert := by
    intro data found row hplan
    cases found <;> cases hplan
    exact ⟨rfl, rfl⟩
  update := by
    intro data found row hplan
    cases found <;> cases hplan
  delete := by
    intro data found hplan
    cases found <;> cases hplan

/-! ## What a listing shows -/

theorem sumOfVotes_cons (commentId : Uuid) (vote : CommentVote) (votes : List CommentVote) :
    sumOfVotes commentId (vote :: votes) =
      (if vote.commentId = commentId then vote.value else 0) + sumOfVotes commentId votes := by
  by_cases h : vote.commentId = commentId <;> simp [sumOfVotes, h]

/-- Each user counts once. -/
theorem sumOfVotes_eq {votes : List CommentVote} (hunique : Unique CommentVote.key votes)
    (commentId : Uuid) {voters : Finset Uuid}
    (hvoters : ∀ vote ∈ votes, vote.commentId = commentId → vote.userId ∈ voters) :
    sumOfVotes commentId votes = ∑ userId ∈ voters,
      ((lookup CommentVote.key (userId, commentId) votes).map CommentVote.value).getD 0 := by
  induction votes with
  | nil => simp [sumOfVotes]
  | cons vote votes ih =>
      have hnew : lookup CommentVote.key vote.key votes = none := by
        rw [lookup_eq_none]
        intro other hother hsame
        exact (List.nodup_cons.1 hunique).1 (hsame ▸ List.mem_map_of_mem hother)
      have hsplit (userId : Uuid) :
          ((lookup CommentVote.key (userId, commentId) (vote :: votes)).map
              CommentVote.value).getD 0 =
            (if vote.commentId = commentId ∧ userId = vote.userId then vote.value else 0) +
              ((lookup CommentVote.key (userId, commentId) votes).map CommentVote.value).getD 0 := by
        rw [lookup_cons]
        by_cases hkey : vote.key = (userId, commentId)
        · obtain ⟨rfl, rfl⟩ := Prod.mk.inj hkey
          rw [if_pos hkey, if_pos ⟨rfl, rfl⟩, ← hkey, hnew]
          simp
        · have hother : ¬(vote.commentId = commentId ∧ userId = vote.userId) := by
            rintro ⟨rfl, rfl⟩
            exact hkey rfl
          rw [if_neg hkey, if_neg hother, zero_add]
      rw [sumOfVotes_cons, Finset.sum_congr rfl fun userId _ => hsplit userId,
        Finset.sum_add_distrib, ih (List.nodup_cons.1 hunique).2 fun other hother =>
          hvoters other (List.mem_cons_of_mem _ hother)]
      congr 1
      by_cases hcomment : vote.commentId = commentId
      · have hmem := hvoters vote List.mem_cons_self hcomment
        simp [hcomment, hmem]
      · simp [hcomment]

namespace Tables

variable {t : Tables} {comment : Comment}

theorem read_score (hmem : comment ∈ t.comments) (currentUserId : Option Uuid) :
    (t.read currentUserId comment).score = sumOfVotes comment.id t.votes := by
  have hid : comment.id ∈ t.comments.map Comment.id := List.mem_map_of_mem hmem
  simp only [read, toCommentRead, loadVoteAndReportMaps, if_pos hid, score, sumOfVotes]
  split
  · next hnil => rw [hnil, List.sum_nil, Option.getD_none]
  · rw [Option.getD_some]

theorem read_userVote (hmem : comment ∈ t.comments) (userId : Uuid) :
    (t.read (some userId) comment).userVote =
      (lookup CommentVote.key (userId, comment.id) t.votes).map CommentVote.value := by
  have hid : comment.id ∈ t.comments.map Comment.id := List.mem_map_of_mem hmem
  simp only [read, toCommentRead, loadVoteAndReportMaps, Option.bind_some, lookup]
  congr 1
  refine List.find?_congr fun vote _ => ?_
  simp only [CommentVote.key, Prod.mk.injEq, decide_eq_decide]
  exact ⟨fun h => ⟨h.1, h.2.2⟩, fun h => ⟨h.1, h.2 ▸ hid, h.2⟩⟩

theorem read_userReported (hmem : comment ∈ t.comments) (userId : Uuid) :
    (t.read (some userId) comment).userReported =
      (lookup CommentReport.key (userId, comment.id) t.reports).isSome := by
  have hid : comment.id ∈ t.comments.map Comment.id := List.mem_map_of_mem hmem
  have hread : (t.read (some userId) comment).userReported = true ↔ comment.id ∈
      (t.loadVoteAndReportMaps (t.comments.map Comment.id) (some userId)).userReported :=
    decide_eq_true_iff
  rw [Bool.eq_iff_iff, hread, Option.isSome_iff_exists]
  simp only [loadVoteAndReportMaps, Option.elim_some]
  rw [List.mem_map]
  constructor
  · rintro ⟨report, hreport, hcomment⟩
    obtain ⟨hreport, hmatch⟩ := List.mem_filter.1 hreport
    have huser := (of_decide_eq_true hmatch).1
    cases hrow : lookup CommentReport.key (userId, comment.id) t.reports with
    | some row => exact ⟨row, rfl⟩
    | none =>
        refine absurd ?_ (lookup_eq_none.1 hrow report hreport)
        rw [CommentReport.key, huser, hcomment]
  · rintro ⟨report, hrow⟩
    have hkey : report.key = (userId, comment.id) := key_of_lookup hrow
    obtain ⟨huser, hcomment⟩ := Prod.mk.inj hkey
    refine ⟨report, List.mem_filter.2 ⟨mem_of_lookup hrow, ?_⟩, hcomment⟩
    rw [decide_eq_true_eq]
    exact ⟨huser, hcomment ▸ hid⟩

end Tables

/-- Whatever the tabs of all users do at once, their votes and reports count as in one
order, one at a time: a listing shows each user's last vote, sums every user's last vote
once, and marks what the user has reported. -/
theorem listing_counts_last_votes
    (votes : List (DeskEvent CommentVoteUpdate CommentVote))
    (reports : List (DeskEvent CommentReportCreate CommentReport)) (t : Tables)
    (hvotes : t.votes = (setCommentVote.run .empty votes).rows)
    (hreports : t.reports = (reportComment.run .empty reports).rows) :
    ∃ (voted : List (Entry CommentVoteUpdate CommentVote Err))
      (reported : List (Entry CommentReportCreate CommentReport Err))
      (lastVote : Uuid × Uuid → Option CommentVote) (report : Uuid × Uuid → Option CommentReport),
      setCommentVote.Serial voteEffect .empty votes voted ∧
      reportComment.Serial reportEffect .empty reports reported ∧
      Replays setCommentVote.key voteEffect (fun _ => none) voted lastVote ∧
      Replays reportComment.key reportEffect (fun _ => none) reported report ∧
      ∀ comment ∈ t.comments,
        (∀ userId, (t.read (some userId) comment).userVote =
            (lastVote (userId, comment.id)).map CommentVote.value ∧
          (t.read (some userId) comment).userReported =
            (report (userId, comment.id)).isSome) ∧
        ∀ (currentUserId : Option Uuid) (voters : Finset Uuid),
          (∀ userId, (lastVote (userId, comment.id)).isSome → userId ∈ voters) →
          (t.read currentUserId comment).score = ∑ userId ∈ voters,
            ((lastVote (userId, comment.id)).map CommentVote.value).getD 0 := by
  have hsound := Desk.Sound.empty setCommentVote
  have hvoted := setCommentVote.one_at_a_time setCommentVote_implements hsound
    (fun _ => rfl) votes
  have hreported := reportComment.one_at_a_time reportComment_implements
    (Desk.Sound.empty reportComment) (fun _ => rfl) reports
  have hunique : Unique CommentVote.key t.votes := by
    rw [hvotes]
    exact (hsound.run setCommentVote_implements votes).1.unique
  refine ⟨_, _, setCommentVote.cells t.votes, reportComment.cells t.reports, hvoted, hreported,
    ?_, ?_, fun comment hmem => ⟨fun userId => ⟨?_, ?_⟩, fun currentUserId voters hvoters => ?_⟩⟩
  · rw [hvotes]
    exact hvoted.replays
  · rw [hreports]
    exact hreported.replays
  · exact Tables.read_userVote hmem userId
  · exact Tables.read_userReported hmem userId
  · rw [Tables.read_score hmem]
    refine sumOfVotes_eq hunique comment.id fun vote hvote hcomment => hvoters vote.userId ?_
    have hrow := lookup_of_mem hunique hvote
    rw [CommentVote.key, hcomment] at hrow
    exact Option.isSome_iff_exists.2 ⟨vote, hrow⟩

/-- A user votes in two tabs at once, and again in the one that was too late. -/
def twoTabs : List (DeskEvent CommentVoteUpdate CommentVote) :=
  [.request 0 ⟨7, 1, 1⟩, .request 1 ⟨7, 1, -1⟩, .statement 0 true, .statement 1 true,
    .statement 0 true, .statement 1 true, .statement 0 true, .request 2 ⟨7, 1, -1⟩,
    .statement 2 true, .statement 2 true, .request 3 ⟨8, 1, -1⟩, .statement 3 true,
    .statement 3 true, .statement 2 true]

def twoTabsTables : Tables where
  comments := [⟨1, 5, 9, none, "Great", 0, 0, none⟩]
  users := [⟨9, none, "author@example.com"⟩]
  votes := [⟨7, 1, -1⟩, ⟨8, 1, -1⟩]
  reports := []
  blocks := []
  uniqueComments := List.nodup_singleton _
  uniqueUsers := List.nodup_singleton _
  authors := by decide

theorem two_tabs_count_once : ∃ lastVote : Uuid × Uuid → Option CommentVote,
    ∀ comment ∈ twoTabsTables.comments, ∀ voters : Finset Uuid,
      (∀ userId, (lastVote (userId, comment.id)).isSome → userId ∈ voters) →
      (twoTabsTables.read none comment).score = ∑ userId ∈ voters,
        ((lastVote (userId, comment.id)).map CommentVote.value).getD 0 := by
  obtain ⟨_, _, lastVote, _, -, -, -, -, hshown⟩ :=
    listing_counts_last_votes twoTabs [] twoTabsTables (by decide) rfl
  exact ⟨lastVote, fun comment hmem => (hshown comment hmem).2 none⟩

end MovieApi.Comments
