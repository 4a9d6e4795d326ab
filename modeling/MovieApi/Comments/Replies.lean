import MovieApi.Publishing.State
import MovieApi.Sql.ParentLinks
import MovieApi.TelegramBot.Text

/-!
# Comments and the replies to them

`create_comment` statement by statement, beside everything else that writes to the
comments: moderation, account deletion and the deletion of rows.  A site holds the
committed data and the calls under way; any of them may go on at any time.
-/

namespace MovieApi.Comments

open Publishing (Uuid Instant Err Content notFound)
open Sql

/-! ## Rows -/

structure Comment where
  id : Uuid
  contentId : Uuid
  userId : Uuid
  parentId : Option Uuid
  body : String
  createdAt : Instant
  updatedAt : Instant
  deletedAt : Option Instant
deriving DecidableEq, Repr

structure Db where
  contents : List Content
  comments : List Comment

namespace Db

def comment? (d : Db) (id : Uuid) : Option Comment := lookup Comment.id id d.comments

/-- The parent of the comment with an id. -/
def parentOf (d : Db) (id : Uuid) : Option Uuid := (d.comment? id).bind Comment.parentId

end Db

def maxReplyDepth : Nat := 8

def badRequest (detail : String) : Err := .http 400 detail

def movieNotFound : Err := notFound "Movie not found"

def commentNotFound : Err := notFound "Comment not found"

def parentNotFound : Err := notFound "Parent comment not found"

def differentMovie : Err := badRequest "Parent comment belongs to a different movie"

def depthReached : Err := badRequest "Maximum reply depth reached"

/-! ## Reads -/

def getMovieContentOr404 (d : Db) (contentId : Uuid) : Except Err Content :=
  match lookup Content.id contentId d.contents with
  | none => .error movieNotFound
  | some content => if content.type = .single then .ok content else .error movieNotFound

def ensureCommentableMovie (d : Db) (contentId : Uuid) : Except Err Content :=
  (getMovieContentOr404 d contentId).bind fun content =>
    if content.status = .published then .ok content else .error movieNotFound

def getCommentOr404 (d : Db) (id : Uuid) : Except Err Comment :=
  match d.comment? id with
  | none => .error commentNotFound
  | some comment => if comment.deletedAt.isSome then .error commentNotFound else .ok comment

/-! ## `create_comment` -/

structure CommentCreate where
  contentId : Uuid
  body : String
  parentId : Option Uuid
deriving DecidableEq, Repr

/-- What a call does next. -/
inductive Phase where
  /-- reads the movie -/
  | begun
  /-- reads the parent -/
  | parentToRead (parentId : Uuid)
  /-- reads the row `next` in the loop of `_comment_depth` -/
  | climbing (next : Uuid) (depth : Nat)
  /-- inserts the comment -/
  | validated
  | done (result : Except Err Comment)

/-- The end of `validate_parent_comment`, with the depth of the parent. -/
def checkDepth (depth : Nat) : Phase :=
  if maxReplyDepth ≤ depth then .done (.error depthReached) else .validated

/-- The head of the loop of `_comment_depth`. -/
def climbFrom (current : Comment) (depth : Nat) : Phase :=
  match current.parentId with
  | none => checkDepth depth
  | some next =>
      if maxReplyDepth < depth + 1 then checkDepth (depth + 1) else .climbing next (depth + 1)

/-- One `SELECT` of the call, up to the next statement. -/
def CommentCreate.read (data : CommentCreate) (d : Db) : Phase → Phase
  | .begun =>
      match ensureCommentableMovie d data.contentId with
      | .error err => .done (.error err)
      | .ok _ => data.parentId.elim .validated .parentToRead
  | .parentToRead parentId =>
      match getCommentOr404 d parentId with
      | .error err => .done (.error err)
      | .ok parent =>
          if parent.contentId ≠ data.contentId then .done (.error differentMovie)
          else climbFrom parent 0
  | .climbing next depth =>
      match d.comment? next with
      | none => .done (.error parentNotFound)
      | some parent =>
          if parent.deletedAt.isSome then .done (.error parentNotFound)
          else climbFrom parent depth
  | phase => phase

/-- The foreign keys to `content` and `comments`. -/
def Db.refers (d : Db) (comment : Comment) : Bool :=
  (lookup Content.id comment.contentId d.contents).isSome &&
    comment.parentId.all fun parentId => (d.comment? parentId).isSome

/-! ## The site -/

/-- `began` is the committed data as the call came in; no step reads it. -/
structure Call where
  userId : Uuid
  data : CommentCreate
  began : Db
  phase : Phase

/-- The new row. -/
def Call.comment (call : Call) (id : Uuid) (createdAt updatedAt : Instant) : Comment where
  id := id
  contentId := call.data.contentId
  userId := call.userId
  parentId := call.data.parentId
  body := String.ofList (TelegramBot.strip call.data.body.toList)
  createdAt := createdAt
  updatedAt := updatedAt
  deletedAt := none

/-- Ids are drawn in the order of `nextId`, so none comes twice. -/
structure Site where
  db : Db
  nextId : Uuid
  calls : Nat → Option Call

/-- No comment yet and no call. -/
def Site.fresh (contents : List Content) : Site := ⟨⟨contents, []⟩, 0, fun _ => none⟩

namespace Site

def setPhase (s : Site) (i : Nat) (call : Call) (phase : Phase) : Site :=
  { s with calls := Function.update s.calls i (some { call with phase := phase }) }

/-- The `INSERT` and its commit. -/
def insertComment (s : Site) (i : Nat) (call : Call) (createdAt updatedAt : Instant) : Site :=
  let comment := call.comment s.nextId createdAt updatedAt
  if s.db.refers comment then
    { s with
      db := { s.db with comments := s.db.comments ++ [comment] }
      nextId := s.nextId + 1 }.setPhase i call (.done (.ok comment))
  else { s with nextId := s.nextId + 1 }.setPhase i call (.done (.error .integrity))

/-- The next statement of call `i`; the times are what its clock reads. -/
def statement (s : Site) (i : Nat) (createdAt updatedAt : Instant) : Site :=
  match s.calls i with
  | none => s
  | some call =>
      match call.phase with
      | .validated => s.insertComment i call createdAt updatedAt
      | phase => s.setPhase i call (call.data.read s.db phase)

def mapComments (s : Site) (f : Comment → Comment) : Site :=
  { s with db := { s.db with comments := s.db.comments.map f } }

end Site

/-! ## The other writers -/

/-- The `UPDATE` of `soft_delete_comment`. -/
def Comment.softDelete (id : Uuid) (now updatedAt : Instant) (comment : Comment) : Comment :=
  if comment.id = id then { comment with deletedAt := some now, updatedAt := updatedAt }
  else comment

/-- The `UPDATE` of `update_comment_body`. -/
def Comment.updateBody (id : Uuid) (body : String) (now : Instant) (comment : Comment) : Comment :=
  if comment.id = id then
    { comment with body := String.ofList (TelegramBot.strip body.toList), updatedAt := now }
  else comment

/-- The `UPDATE` of the account deletion. -/
def Comment.deleteAccount (userId : Uuid) (now updatedAt : Instant) (comment : Comment) : Comment :=
  if comment.userId = userId then
    { comment with
      body := "[deleted]"
      deletedAt := comment.deletedAt.or (some now)
      updatedAt := updatedAt }
  else comment

def Comment.attached (rows : List Comment) (comment : Comment) : Bool :=
  comment.parentId.all fun parentId => (lookup Comment.id parentId rows).isSome

/-- `ON DELETE CASCADE`: the replies to rows that are gone go too, in so many rounds. -/
def cascade : Nat → List Comment → List Comment
  | 0, rows => rows
  | n + 1, rows => cascade n (rows.filter (Comment.attached rows))

/-- What a deletion of rows leaves. -/
def deleteComments (ids : List Uuid) (rows : List Comment) : List Comment :=
  cascade rows.length (rows.filter fun comment => decide (comment.id ∉ ids))

inductive Event where
  /-- a request comes in -/
  | request (i : Nat) (userId : Uuid) (data : CommentCreate)
  /-- a call goes on -/
  | statement (i : Nat) (createdAt updatedAt : Instant)
  | softDelete (id : Uuid) (now updatedAt : Instant)
  | updateBody (id : Uuid) (body : String) (now : Instant)
  | deleteAccount (userId : Uuid) (now updatedAt : Instant)
  /-- rows go, by themselves or with their movie -/
  | deleteRows (ids : List Uuid)
  /-- the movies change in any way -/
  | catalogue (contents : List Content)

def Site.next (s : Site) : Event → Site
  | .request i userId data =>
      if (s.calls i).isSome then s
      else { s with calls := Function.update s.calls i (some ⟨userId, data, s.db, .begun⟩) }
  | .statement i createdAt updatedAt => s.statement i createdAt updatedAt
  | .softDelete id now updatedAt => s.mapComments (Comment.softDelete id now updatedAt)
  | .updateBody id body now => s.mapComments (Comment.updateBody id body now)
  | .deleteAccount userId now updatedAt =>
      s.mapComments (Comment.deleteAccount userId now updatedAt)
  | .deleteRows ids => { s with db := { s.db with comments := deleteComments ids s.db.comments } }
  | .catalogue contents => { s with db := { s.db with contents := contents } }

def Site.run (s : Site) (events : List Event) : Site := events.foldl Site.next s

end MovieApi.Comments
