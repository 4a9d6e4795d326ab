import MovieApi.Catalog.Pagination
import MovieApi.Comments.Replies
import MovieApi.Sorting.Stable
import MovieApi.Sql.OrderBy
import MovieApi.Trees.Forest

/-!
# Threads of comments

`list_comment_threads`: a page of root comments, a search for the replies below them,
level by level, and the trees that are linked from the rows found.
-/

namespace MovieApi.Comments

open Catalog (PaginationParams)
open Publishing (Uuid Instant)
open Sorting (sortOn)
open Sql
open Trees

/-! ## Rows -/

structure User where
  id : Uuid
  fullName : Option String
  email : String
deriving DecidableEq, Repr

structure CommentVote where
  userId : Uuid
  commentId : Uuid
  value : Int
deriving DecidableEq, Repr

structure CommentReport where
  userId : Uuid
  commentId : Uuid
deriving DecidableEq, Repr

structure UserBlock where
  blockerId : Uuid
  blockedId : Uuid
deriving DecidableEq, Repr

/-- The tables of one listing, with the keys of `comments` and `users` and the reference
to the author.  The parents of comments may be anything. -/
structure Tables where
  comments : List Comment
  users : List User
  votes : List CommentVote
  reports : List CommentReport
  blocks : List UserBlock
  uniqueComments : Unique Comment.id comments
  uniqueUsers : Unique User.id users
  authors : ∀ comment ∈ comments, ∃ user ∈ users, user.id = comment.userId

structure CommentAuthorRead where
  id : Uuid
  displayName : String
deriving DecidableEq, Repr

structure CommentRead where
  id : Uuid
  contentId : Uuid
  parentId : Option Uuid
  body : String
  createdAt : Instant
  updatedAt : Instant
  author : CommentAuthorRead
  score : Int
  userVote : Option Int
  userReported : Bool
deriving DecidableEq, Repr

/-! ## Reading a comment -/

def strip (text : String) : String := String.ofList (TelegramBot.strip text.toList)

/-- `email.split("@", 1)[0]`. -/
def localPart (email : String) : String :=
  String.ofList (email.toList.takeWhile fun c => c ≠ '@')

def authorDisplayName : Option User → String
  | none => "Deleted User"
  | some user =>
      if strip (user.fullName.getD "") ≠ "" then strip (user.fullName.getD "")
      else if localPart user.email ≠ "" then localPart user.email
      else "User"

structure VoteAndReportMaps where
  scores : Uuid → Option Int
  userVotes : Uuid → Option Int
  userReported : List Uuid

def toCommentRead (comment : Comment) (author : Option User) (maps : VoteAndReportMaps) :
    CommentRead where
  id := comment.id
  contentId := comment.contentId
  parentId := comment.parentId
  body := comment.body
  createdAt := comment.createdAt
  updatedAt := comment.updatedAt
  author :=
    { id := author.elim comment.userId User.id
      displayName := authorDisplayName author }
  score := (maps.scores comment.id).getD 0
  userVote := maps.userVotes comment.id
  userReported := decide (comment.id ∈ maps.userReported)

namespace Tables

/-- The sum of the votes on a comment, where there is one. -/
def score (t : Tables) (id : Uuid) : Option Int :=
  match (t.votes.filter fun vote => decide (vote.commentId = id)).map CommentVote.value with
  | [] => none
  | values => some values.sum

def loadVoteAndReportMaps (t : Tables) (commentIds : List Uuid) (currentUserId : Option Uuid) :
    VoteAndReportMaps where
  scores id := if id ∈ commentIds then t.score id else none
  userVotes id :=
    currentUserId.bind fun userId =>
      (t.votes.find? fun vote => decide
        (vote.userId = userId ∧ vote.commentId ∈ commentIds ∧ vote.commentId = id)).map
          CommentVote.value
  userReported :=
    currentUserId.elim [] fun userId =>
      (t.reports.filter fun report => decide
        (report.userId = userId ∧ report.commentId ∈ commentIds)).map CommentReport.commentId

end Tables

/-! ## Linking the rows -/

/-- The dictionary of nodes. -/
def byId (nodes : List CommentRead) : Uuid → Option CommentRead :=
  nodes.foldl (fun byId node => Function.update byId node.id (some node)) fun _ => none

/-- The dictionary of children. -/
def childIds (nodes : List CommentRead) : Option Uuid → List Uuid :=
  nodes.foldl
    (fun children node =>
      Function.update children node.parentId (children node.parentId ++ [node.id]))
    fun _ => []

/-- `parent.replies`. -/
def repliesOf (nodes : List CommentRead) (parent : CommentRead) : List CommentRead :=
  sortOn CommentRead.createdAt ((childIds nodes (some parent.id)).filterMap (byId nodes))

/-- The linked nodes, from the roots on; a thread has no more levels than there are rows. -/
def buildCommentThreads (rows : List (Comment × User)) (maps : VoteAndReportMaps)
    (rootIds : List Uuid) : List (Rose CommentRead) :=
  let nodes := rows.map fun row => toCommentRead row.1 (some row.2) maps
  (rootIds.filterMap (byId nodes)).map (grow (repliesOf nodes) nodes.length)

/-! ## The queries -/

namespace Tables

def blockedAuthorIds (t : Tables) (blockerId : Uuid) : List Uuid :=
  (t.blocks.filter fun block => decide (block.blockerId = blockerId)).map UserBlock.blockedId

def visible (hidden : List Uuid) (comment : Comment) : Bool :=
  comment.deletedAt.isNone && decide (comment.userId ∉ hidden)

/-- The visible replies to the comments of a frontier. -/
def replies (t : Tables) (hidden frontier : List Uuid) : List Comment :=
  t.comments.filter fun comment =>
    comment.parentId.any (fun parentId => decide (parentId ∈ frontier)) && visible hidden comment

/-- The new frontier: what a query for replies finds that is not known yet. -/
def nextFrontier (t : Tables) (scan : Scan Comment) (hidden : List Uuid) (query : Nat)
    (allIds frontier : List Uuid) : List Uuid :=
  ((scan.rows query (t.replies hidden frontier)).map Comment.id).filter fun id =>
    decide (id ∉ allIds)

/-- How many rows a search has not found. -/
def unknown (t : Tables) (allIds : List Uuid) : Nat :=
  t.comments.countP fun comment => decide (comment.id ∉ allIds)

theorem unknown_lt {t : Tables} {scan : Scan Comment} {hidden allIds frontier : List Uuid}
    {query : Nat} (h : t.nextFrontier scan hidden query allIds frontier ≠ []) :
    t.unknown (allIds ++ t.nextFrontier scan hidden query allIds frontier) < t.unknown allIds := by
  obtain ⟨id, hid⟩ := List.exists_mem_of_ne_nil _ h
  obtain ⟨hmem, hnew⟩ := List.mem_filter.1 hid
  obtain ⟨comment, hcomment, rfl⟩ := List.mem_map.1 hmem
  have hrow : comment ∈ t.comments := (List.mem_filter.1 (scan.mem_rows.1 hcomment)).1
  have hnew : comment.id ∉ allIds := by simpa using hnew
  unfold unknown
  rw [List.countP_eq_length_filter, List.countP_eq_length_filter]
  have hsub : (t.comments.filter fun comment => decide (comment.id ∉ allIds ++
      t.nextFrontier scan hidden query allIds frontier)).Sublist
        (t.comments.filter fun comment => decide (comment.id ∉ allIds)) := by
    refine List.monotone_filter_right _ fun other hother => ?_
    simp only [List.mem_append, decide_eq_true_eq, not_or] at hother ⊢
    exact hother.1
  refine Nat.lt_of_le_of_ne hsub.length_le fun heq => ?_
  have hleft : comment ∈ t.comments.filter fun comment => decide (comment.id ∉ allIds) :=
    List.mem_filter.2 ⟨hrow, by simpa using hnew⟩
  rw [← hsub.eq_of_length heq] at hleft
  have hknown : comment.id ∉ allIds ++ t.nextFrontier scan hidden query allIds frontier := by
    simpa using (List.mem_filter.1 hleft).2
  exact hknown (List.mem_append_right _ hid)

/-- The loop of `fetch_thread_rows_for_roots`. -/
def expand (t : Tables) (scan : Scan Comment) (hidden : List Uuid) (query : Nat)
    (allIds frontier : List Uuid) : List Uuid :=
  if frontier = [] then allIds
  else
    let found := t.nextFrontier scan hidden query allIds frontier
    t.expand scan hidden (query + 1) (allIds ++ found) found
termination_by (t.unknown allIds, frontier.length)
decreasing_by
  by_cases hfound : t.nextFrontier scan hidden query allIds frontier = []
  · rename_i hne
    rw [hfound, List.append_nil]
    exact .right _ (List.length_pos_iff.2 hne)
  · exact .left _ _ (unknown_lt hfound)

/-- The inner join with the authors. -/
def withAuthors (t : Tables) (comments : List Comment) : List (Comment × User) :=
  comments.flatMap fun comment =>
    (t.users.filter fun user => decide (user.id = comment.userId)).map fun user => (comment, user)

def fetchThreadRowsForRoots (t : Tables) (scan : Scan Comment) (hidden rootIds : List Uuid) :
    List (Comment × User) :=
  if rootIds = [] then []
  else
    let allIds := t.expand scan hidden 2 rootIds rootIds
    t.withAuthors (scan.rows 1 (t.comments.filter fun comment =>
      decide (comment.id ∈ allIds) && visible hidden comment))

/-- The authors a viewer does not see. -/
def hiddenFor (t : Tables) (currentUserId : Option Uuid) : List Uuid :=
  currentUserId.elim [] t.blockedAuthorIds

/-- The root comments of a title. -/
def roots (t : Tables) (hidden : List Uuid) (contentId : Uuid) : List Comment :=
  t.comments.filter fun comment =>
    decide (comment.contentId = contentId ∧ comment.parentId = none) && visible hidden comment

/-- The threads of one page and the number of all. -/
def listCommentThreads (t : Tables) (scan : Scan Comment) (contentId : Uuid)
    (currentUserId : Option Uuid) (params : PaginationParams) : List (Rose CommentRead) × Nat :=
  let hidden := t.hiddenFor currentUserId
  let roots := t.roots hidden contentId
  let rootIds := (params.slice (orderBy (fun a b => b.createdAt ≤ a.createdAt)
    (scan.rows 0 roots))).map Comment.id
  let rows := t.fetchThreadRowsForRoots scan hidden rootIds
  let maps := t.loadVoteAndReportMaps (rows.map fun row => row.1.id) currentUserId
  (buildCommentThreads rows maps rootIds, roots.length)

end Tables

end MovieApi.Comments
