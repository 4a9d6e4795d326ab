import MovieApi.Accounts.Schema
import MovieApi.Catalog.FreeToday
import MovieApi.ReadCommitted.Contract

/-!
# Ratings

`upsert_rating` and the rating part of `delete_user_account` as sessions on the
database.  A rating is committed first; the average that a movie displays is read and
committed in a second transaction.
-/

namespace MovieApi.Catalog.Ratings

open ReadCommitted ReadCommitted.Prog
open Accounts (Uuid Err userInactive)

/-! ## Rows -/

structure Rating where
  userId : Uuid
  contentId : Uuid
  value : ℕ
deriving DecidableEq, Repr

structure Content where
  type : ContentType
  isPublished : Bool
  rating : Option ℚ
deriving DecidableEq, Repr

structure User where
  role : String
  isActive : Bool
deriving DecidableEq, Repr

structure Db where
  users : Uuid → Option User
  contents : Uuid → Option Content
  ratings : List Rating

def Db.ratingsOf (d : Db) (contentId : Uuid) : List Rating :=
  d.ratings.filter fun row : Rating => decide (row.contentId = contentId)

/-- The row of a primary key. -/
def Db.rating? (d : Db) (userId contentId : Uuid) : Option Rating :=
  (d.ratingsOf contentId).find? fun row : Rating => decide (row.userId = userId)

def average (rows : List Rating) : ℚ :=
  (rows.map fun row => (row.value : ℚ)).sum / rows.length

/-- `avg(value)`, which is null without rows, and `count(value)`. -/
def averageOf (rows : List Rating) : Option ℚ × ℕ :=
  if rows = [] then (none, 0) else (some (average rows), rows.length)

/-- `quantize(Decimal("0.1"), rounding=ROUND_HALF_UP)` of a number that is not negative. -/
def quantizeTenth (x : ℚ) : ℚ := (⌊x * 10 + 1 / 2⌋ : ℤ) / 10

/-! ## Writes -/

/-- Rows that are locked: a rating by its primary key, which an insert enters. -/
inductive Key where
  | rating (userId contentId : Uuid)
  | content (id : Uuid)
  | user (id : Uuid)
deriving DecidableEq, Repr

inductive Write where
  | insertRating (row : Rating)
  | updateRating (userId contentId : Uuid) (value : ℕ)
  | deleteRating (userId contentId : Uuid)
  | updateContent (id : Uuid) (rating : Option ℚ)
  | emptyUser (id : Uuid)
deriving DecidableEq, Repr

namespace Write

def apply : Write → Db → Db
  | insertRating row, d =>
      if (d.rating? row.userId row.contentId).isSome then d
      else { d with ratings := d.ratings ++ [row] }
  | updateRating userId contentId value, d =>
      { d with
        ratings := d.ratings.map fun row =>
          if row.userId = userId ∧ row.contentId = contentId then { row with value := value }
          else row }
  | deleteRating userId contentId, d =>
      { d with
        ratings := d.ratings.filter fun row =>
          !decide (row.userId = userId ∧ row.contentId = contentId) }
  | updateContent id rating, d =>
      { d with
        contents := Function.update d.contents id
          ((d.contents id).map fun content : Content => { content with rating := rating }) }
  | emptyUser id, d =>
      { d with
        users := Function.update d.users id
          ((d.users id).map fun user : User => { user with isActive := false }) }

/-- An insert also shares the keys that the new row refers to; the e-mail of an emptied
user is a key of its own. -/
def needs : Write → List (Key × LockMode)
  | insertRating row =>
      [(.rating row.userId row.contentId, .update), (.user row.userId, .keyShare),
        (.content row.contentId, .keyShare)]
  | updateRating userId contentId _ => [(.rating userId contentId, .noKeyUpdate)]
  | deleteRating userId contentId => [(.rating userId contentId, .update)]
  | updateContent id _ => [(.content id, .noKeyUpdate)]
  | emptyUser id => [(.user id, .update)]

end Write

/-- The row of one key after a write. -/
def Write.onRating (userId contentId : Uuid) (row? : Option Rating) : Write → Option Rating
  | insertRating row =>
      if row.userId = userId ∧ row.contentId = contentId then row?.or (some row) else row?
  | updateRating userId' contentId' value =>
      if userId = userId' ∧ contentId = contentId' then
        row?.map fun row => { row with value := value }
      else row?
  | deleteRating userId' contentId' =>
      if userId = userId' ∧ contentId = contentId' then none else row?
  | updateContent _ _ => row?
  | emptyUser _ => row?

theorem rating?_eq (d : Db) (userId contentId : Uuid) :
    d.rating? userId contentId = d.ratings.find? fun row : Rating =>
      decide (row.userId = userId ∧ row.contentId = contentId) := by
  simp only [Db.rating?, Db.ratingsOf, List.find?_filter]
  congr 1
  funext row
  by_cases huser : row.userId = userId <;> by_cases hcontent : row.contentId = contentId <;>
    simp [huser, hcontent]

theorem find?_key_eq_some {rows : List Rating} {userId contentId : Uuid} {row : Rating}
    (h : rows.find? (fun row : Rating =>
      decide (row.userId = userId ∧ row.contentId = contentId)) = some row) :
    row.userId = userId ∧ row.contentId = contentId := by
  simpa using List.find?_some h

theorem Write.rating?_apply (w : Write) (d : Db) (userId contentId : Uuid) :
    (w.apply d).rating? userId contentId = w.onRating userId contentId
      (d.rating? userId contentId) := by
  cases w with
  | updateContent id rating => rfl
  | emptyUser id => rfl
  | insertRating row =>
      simp only [apply, onRating]
      by_cases htaken : (d.rating? row.userId row.contentId).isSome = true
      · rw [if_pos htaken]
        by_cases hkey : row.userId = userId ∧ row.contentId = contentId
        · obtain ⟨rfl, rfl⟩ := hkey
          obtain ⟨old, hold⟩ := Option.isSome_iff_exists.1 htaken
          simp [hold]
        · rw [if_neg hkey]
      · rw [if_neg htaken, rating?_eq, rating?_eq, List.find?_append]
        by_cases hkey : row.userId = userId ∧ row.contentId = contentId
        · simp [hkey]
        · simp [hkey]
  | updateRating userId' contentId' value =>
      simp only [apply, onRating, rating?_eq, List.find?_map]
      have hkeys : ((fun row : Rating =>
          decide (row.userId = userId ∧ row.contentId = contentId)) ∘ fun row : Rating =>
            if row.userId = userId' ∧ row.contentId = contentId' then { row with value := value }
            else row) = fun row : Rating =>
              decide (row.userId = userId ∧ row.contentId = contentId) := by
        funext row
        by_cases h : row.userId = userId' ∧ row.contentId = contentId' <;> simp [h]
      rw [hkeys]
      cases hfind : d.ratings.find? fun row : Rating =>
          decide (row.userId = userId ∧ row.contentId = contentId) with
      | none => by_cases h : userId = userId' ∧ contentId = contentId' <;> simp [h]
      | some row =>
          obtain ⟨rfl, rfl⟩ := find?_key_eq_some hfind
          by_cases h : row.userId = userId' ∧ row.contentId = contentId' <;> simp [h]
  | deleteRating userId' contentId' =>
      simp only [apply, onRating, rating?_eq, List.find?_filter]
      by_cases h : userId = userId' ∧ contentId = contentId'
      · obtain ⟨rfl, rfl⟩ := h
        simp only [and_self, if_true, List.find?_eq_none]
        intro row _
        by_cases hrow : row.userId = userId ∧ row.contentId = contentId <;> simp [hrow]
      · rw [if_neg h]
        congr 1
        funext row
        by_cases hrow : row.userId = userId ∧ row.contentId = contentId
        · obtain ⟨rfl, rfl⟩ := hrow
          simp [h]
        · simp [hrow]

/-- The movie of an id after a write. -/
def Write.onContent (id : Uuid) (content? : Option Content) : Write → Option Content
  | updateContent id' rating =>
      if id = id' then content?.map fun content : Content => { content with rating := rating }
      else content?
  | _ => content?

theorem Write.contents_apply (w : Write) (d : Db) (id : Uuid) :
    (w.apply d).contents id = w.onContent id (d.contents id) := by
  cases w with
  | updateContent id' rating =>
      by_cases h : id = id'
      · subst h
        simp [apply, onContent]
      · simp [apply, onContent, h]
  | insertRating row =>
      simp only [apply, apply_ite Db.contents, ite_self]
      rfl
  | _ => rfl

/-- The user of an id after a write. -/
def Write.onUser (id : Uuid) (user? : Option User) : Write → Option User
  | emptyUser id' =>
      if id = id' then user?.map fun user : User => { user with isActive := false } else user?
  | _ => user?

theorem Write.users_apply (w : Write) (d : Db) (id : Uuid) :
    (w.apply d).users id = w.onUser id (d.users id) := by
  cases w with
  | emptyUser id' =>
      by_cases h : id = id'
      · subst h
        simp [apply, onUser]
      · simp [apply, onUser, h]
  | insertRating row =>
      simp only [apply, apply_ite Db.users, ite_self]
      rfl
  | _ => rfl

instance : Database Db Key Write where
  apply w d := w.apply d
  needs := Write.needs

@[simp] theorem apply_eq (w : Write) (d : Db) : Database.apply w d = w.apply d := rfl

@[simp] theorem needs_eq (w : Write) : Database.needs Db w = w.needs := rfl

/-- The data of a key is the same. -/
def Same (d d' : Db) : Key → Prop
  | .rating userId contentId => d'.rating? userId contentId = d.rating? userId contentId
  | .content id => d'.contents id = d.contents id
  | .user id => d'.users id = d.users id

/-- Writes without a conflicting lock on a key leave its data alone. -/
theorem Write.same_apply {w : Write} {d : Db} {key : Key} {mode : LockMode}
    (h : ∀ mode', (key, mode') ∈ w.needs → mode.conflicts mode' = false)
    (hmode : mode ≠ .keyShare) : Same d (w.apply d) key := by
  cases key with
  | rating userId contentId =>
      simp only [Same, rating?_apply]
      cases w with
      | insertRating row =>
          by_cases hkey : row.userId = userId ∧ row.contentId = contentId
          · obtain ⟨rfl, rfl⟩ := hkey
            have hfree := h .update (by simp [needs])
            simp at hfree
          · simp [onRating, hkey]
      | updateRating userId' contentId' value =>
          by_cases hkey : userId = userId' ∧ contentId = contentId'
          · obtain ⟨rfl, rfl⟩ := hkey
            have hfree := h .noKeyUpdate (by simp [needs])
            cases mode <;> simp [LockMode.conflicts] at hfree hmode
          · simp [onRating, hkey]
      | deleteRating userId' contentId' =>
          by_cases hkey : userId = userId' ∧ contentId = contentId'
          · obtain ⟨rfl, rfl⟩ := hkey
            have hfree := h .update (by simp [needs])
            simp at hfree
          · simp [onRating, hkey]
      | _ => rfl
  | content id =>
      simp only [Same, contents_apply]
      cases w with
      | updateContent id' rating =>
          by_cases hkey : id = id'
          · subst hkey
            have hfree := h .noKeyUpdate (by simp [needs])
            cases mode <;> simp [LockMode.conflicts] at hfree hmode
          · simp [onContent, hkey]
      | _ => rfl
  | user id =>
      simp only [Same, users_apply]
      cases w with
      | emptyUser id' =>
          by_cases hkey : id = id'
          · subst hkey
            have hfree := h .update (by simp [needs])
            simp at hfree
          · simp [onUser, hkey]
      | _ => rfl

/-- A lock that only shares the key leaves the other columns to others. -/
instance : LawfulDatabase Db Key Write where
  Agree key mode d d' := mode ≠ .keyShare → Same d d' key
  agree_refl key _ _ := fun _ => by cases key <;> rfl
  agree_trans {key _ _ _ _} h h' := fun hm => by
    cases key <;> exact (h' hm).trans (h hm)
  agree_congr {key _ _ _} w h := fun hm => by
    have h := h hm
    cases key with
    | rating | content | user =>
        simp only [Same, apply_eq, Write.rating?_apply, Write.contents_apply,
          Write.users_apply] at h ⊢
        rw [h]
  agree_apply _ _ _ _ h := Write.same_apply h

/-! ## Sessions -/

inductive Fault where
  | aborted
  | refused (err : Err)
  | integrity
  /-- an `UPDATE` that was to match one row has matched none -/
  | staleData
  | notRefreshed
deriving DecidableEq, Repr

instance : ServerError Fault := ⟨.aborted⟩

/-- Where a call on a movie stands.  Sessions note it for the statements below only. -/
inductive Note where
  | away
  /-- its rating is about to be committed or committed, and not yet found again -/
  | rating (userId contentId : Uuid)
  /-- it has found its rating again -/
  | showing (contentId : Uuid)
  /-- it has read the average; `loaded` is the rating of the movie that the call began with -/
  | averaged (contentId : Uuid) (loaded : Option ℚ) (answer : Option ℚ × ℕ)
deriving DecidableEq, Repr

abbrev Store := ReadCommitted.Store Db Key Write Unit Note

abbrev Stmt := ReadCommitted.Stmt Db Key Write Unit Note Fault

abbrev Prog := ReadCommitted.Prog Db Key Write Unit Note Fault

abbrev Pool := ReadCommitted.Pool Db Key Write Unit Note Fault

abbrev Regime := ReadCommitted.Regime Db Key Write Unit Note Fault

abbrev Contract := ReadCommitted.Contract Db Key Write Unit Note Fault

def note (n : Note) : Prog Unit := session fun _ => ((), n)

/-! ## Rating a movie -/

/-- The user a request is authenticated as. -/
def currentUser (userId : Uuid) : Prog User := do
  match (← select fun d => d.users userId).filter User.isActive with
  | none => .raise (.refused userInactive)
  | some user => return user

/-- `assert_rateable_movie`. -/
def assertRateableMovie (contentId : Uuid) : Prog Content := do
  match ← select fun d => d.contents contentId with
  | none => .raise (.refused (.notFound "Movie not found"))
  | some content =>
      if content.type ≠ .single ∨ content.isPublished = false then
        .raise (.refused (.notFound "Movie not found"))
      else return content

/-- Flush of the rating that was loaded or is new. -/
def flushRating (userId contentId : Uuid) (rating? : Option Rating) (value : ℕ) : Prog Unit :=
  match rating? with
  | some rating =>
      if rating.value = value then return ()
      else do
        lock (.rating userId contentId) .noKeyUpdate
        if ← select fun d => (d.rating? userId contentId).isSome then
          write (.updateRating userId contentId value)
        else
          .raise .staleData
  | none => do
      if ← enter (.rating userId contentId) fun d => (d.rating? userId contentId).isSome then
        write (.insertRating ⟨userId, contentId, value⟩)
      else
        -- the server has aborted the transaction: what is left is the rollback
        .raise .integrity

/-- The rating of a movie once the average is known. -/
def newRating (loaded : Option ℚ) (answer : Option ℚ × ℕ) : Option ℚ :=
  if answer.2 = 0 then loaded
  else answer.1.map fun average => quantizeTenth (average * 2)

/-- Flush of a movie, whose rating was `loaded`: an equal value is not sent. -/
def flushContent (contentId : Uuid) (loaded rating : Option ℚ) : Prog Unit :=
  if rating = loaded then return () else write (.updateContent contentId rating)

/-- `_recompute_content_rating`. -/
def recomputeContentRating (contentId : Uuid) (loaded : Option ℚ) : Prog ℕ := do
  let answer ← select fun d => averageOf (d.ratingsOf contentId)
  note (.averaged contentId loaded answer)
  flushContent contentId loaded (newRating loaded answer)
  commit
  note .away
  return answer.2

/-- `upsert_rating`. -/
def upsertRating (contentId : Uuid) (content : Content) (userId : Uuid) (value : ℕ) :
    Prog (Rating × Content × ℕ) := do
  let rating? ← select fun d => d.rating? userId contentId
  flushRating userId contentId rating? value
  note (.rating userId contentId)
  commit
  match ← select fun d => d.rating? userId contentId with
  | none => do
      note .away
      .raise .notRefreshed
  | some rating => do
      note (.showing contentId)
      let count ← recomputeContentRating contentId content.rating
      match ← select fun d => d.contents contentId with
      | none => .raise .notRefreshed
      | some refreshed => return (rating, refreshed, count)

structure RatingUpsert where
  value : ℕ
  bounds : 1 ≤ value ∧ value ≤ 5 := by decide

structure RatingWriteResult where
  contentId : Uuid
  value : ℕ
  contentRating : Option ℚ
  ratingCount : ℕ

/-- `rate_movie`. -/
def rateMovie (userId contentId : Uuid) (data : RatingUpsert) : Prog RatingWriteResult := do
  let _ ← currentUser userId
  let content ← assertRateableMovie contentId
  let (rating, refreshed, count) ← upsertRating contentId content userId data.value
  return ⟨contentId, rating.value, refreshed.rating, count⟩

/-! ## Deleting an account -/

/-- The order in which a scan meets the rows of a table. -/
structure Scan where
  order : List Uuid → List Uuid
  perm : ∀ rows, (order rows).Perm rows

def moviesRatedBy (userId : Uuid) (d : Db) : List Uuid :=
  (d.ratings.filter fun row : Rating => decide (row.userId = userId)).map Rating.contentId

/-- `delete_user_account`, as far as it touches ratings and the user. -/
def deleteUserAccount (scan : Scan) (userId : Uuid) : Prog Unit := do
  let user ← currentUser userId
  if user.role = "admin" then
    .raise (.refused (.forbidden "Admin accounts cannot be deleted from the app"))
  else
    let movies ← select (moviesRatedBy userId)
    forEach (scan.order movies) fun contentId => write (.deleteRating userId contentId)
    write (.emptyUser userId)
    commit

/-! ## Requests -/

inductive Request where
  | rate (userId contentId : Uuid) (data : RatingUpsert)
  | deleteAccount (scan : Scan) (userId : Uuid)

/-- The end of every session: what is left open is rolled back. -/
def closing {α : Type} (p : Prog α) : Prog Unit := do
  tryCatch
    (do
      let _ ← p
      return ())
    fun fault => do
      rollback
      .raise fault
  rollback

def Request.prog : Request → Prog Unit
  | .rate userId contentId data => closing (rateMovie userId contentId data)
  | .deleteAccount scan userId => closing (deleteUserAccount scan userId)

/-- Session `t` runs request `t`. -/
def startRatings (d : Db) (requests : List Request) : Pool where
  store := .idle d .away ()
  progs t :=
    match requests[t]? with
    | some request => request.prog
    | none => .ret ()

/-! ## When a movie is looked after -/

/-- A call that will still display the ratings of the movie, or is about to: it has
committed its rating, which is still there, or has found it again, or has read the
average in a transaction that is still open. -/
def onWay (s : Store) (contentId : Uuid) (t : Tid) : Bool :=
  match s.info t with
  | .away => false
  | .rating userId contentId' =>
      decide (contentId' = contentId) && (s.db.rating? userId contentId).isSome
  | .showing contentId' => decide (contentId' = contentId)
  | .averaged contentId' _ _ => decide (contentId' = contentId) && s.active t

/-- Another one of the first `n` sessions is on its way. -/
def othersOnWay (n : ℕ) (s : Store) (contentId : Uuid) (t : Tid) : Bool :=
  (List.range n).any fun u => decide (u ≠ t) && onWay s contentId u

/-- What the session has read is still so, and its `UPDATE` is sent, or need not be. -/
def fresh (s : Store) (t : Tid) (contentId : Uuid) (loaded : Option ℚ)
    (answer : Option ℚ × ℕ) : Bool :=
  decide (averageOf (s.db.ratingsOf contentId) = answer) &&
    (!(s.writes t).isEmpty ||
      (s.db.contents contentId).all fun content => decide (content.rating = loaded))

/-- A deletion that commits the removal of a rating leaves a call on the movie that is on
its way; a call commits an average that is fresh, or leaves another one on its way; and
a call that has not found its rating again gives up while it is not there. -/
def lookedAfter (n : ℕ) : Regime where
  stmt t _ c s :=
    match c with
    | .commit =>
        ((s.writes t).all fun w => match w with
          | .deleteRating _ contentId => othersOnWay n ((s.publish t).finish t) contentId t
          | _ => true) &&
        (match s.info t with
          | .averaged contentId loaded answer =>
              fresh s t contentId loaded answer || othersOnWay n s contentId t
          | _ => true)
    | .session step =>
        match s.info t, (step (s.info t)).2 with
        | .rating userId contentId, .away =>
            !(s.db.rating? userId contentId).isSome || othersOnWay n s contentId t
        | _, _ => true
    | _ => true
  outside _ _ := true

end MovieApi.Catalog.Ratings
