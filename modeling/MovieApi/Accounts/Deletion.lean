import MovieApi.Accounts.Sessions

/-!
# Deleting an account

`delete_user_account` empties the row of the user, blanks the comments and goes
through a list of tables that name the user.  The table of sign-ins through the
bot names nobody by id: it holds the Telegram identity itself, and it is not on
the list.
-/

namespace MovieApi.Accounts.Deletion

open Sql

/-! ## Rows -/

structure User extends Accounts.User where
  googleId : Option String
  appleId : Option String
  avatarUrl : Option String
deriving DecidableEq, Repr

structure Comment where
  id : Uuid
  contentId : Uuid
  userId : Uuid
  parentId : Option Uuid
  body : String
  deletedAt : Option Instant
deriving DecidableEq, Repr

structure WatchProgress where
  userId : Uuid
  contentId : Uuid
  positionSeconds : Nat
  completed : Bool
deriving DecidableEq, Repr

structure Favorite where
  userId : Uuid
  contentId : Uuid
deriving DecidableEq, Repr

structure Rating where
  userId : Uuid
  contentId : Uuid
  value : Int
deriving DecidableEq, Repr

structure CommentVote where
  userId : Uuid
  commentId : Uuid
  value : Int
deriving DecidableEq, Repr

structure CommentReport where
  id : Uuid
  userId : Uuid
  commentId : Uuid
deriving DecidableEq, Repr

structure TvAccessCode where
  id : Uuid
  code : String
  label : Option String
  userId : Uuid
  expiresAt : Instant
  isActive : Bool
deriving DecidableEq, Repr

structure DevicePairingCode where
  id : Uuid
  codeHash : String
  status : String
  token : Option Claims
  userId : Option Uuid
  expiresAt : Instant
deriving DecidableEq, Repr

structure UserBlock where
  blockerId : Uuid
  blockedId : Uuid
deriving DecidableEq, Repr

structure TelegramBotLogin where
  id : Uuid
  codeHash : String
  status : String
  telegramId : Option String
  telegramFirstName : Option String
  telegramLastName : Option String
  telegramUsername : Option String
  expiresAt : Instant
deriving DecidableEq, Repr

/-- A row of the books: purchases, series purchases, payment intents and
subscriptions. -/
structure PaymentRecord where
  id : String
  userId : Option Uuid
deriving DecidableEq, Repr

/-! ## Tables -/

/-- The tables whose rows have a `user_id`, comments and payments apart. -/
inductive PersonalTable where
  | watchProgress | favorite | rating | commentVote | commentReport | session | tvAccessCode
  | devicePairingCode | passwordResetToken
deriving DecidableEq, Repr

namespace PersonalTable

@[reducible] def Row : PersonalTable → Type
  | .watchProgress => WatchProgress
  | .favorite => Favorite
  | .rating => Rating
  | .commentVote => CommentVote
  | .commentReport => CommentReport
  | .session => Session
  | .tvAccessCode => TvAccessCode
  | .devicePairingCode => DevicePairingCode
  | .passwordResetToken => PasswordResetToken

/-- The column `user_id`. -/
def userId : (table : PersonalTable) → table.Row → Option Uuid
  | .watchProgress, row => some row.userId
  | .favorite, row => some row.userId
  | .rating, row => some row.userId
  | .commentVote, row => some row.userId
  | .commentReport, row => some row.userId
  | .session, row => some row.userId
  | .tvAccessCode, row => some row.userId
  | .devicePairingCode, row => row.userId
  | .passwordResetToken, row => some row.userId

end PersonalTable

structure Db where
  users : List User
  comments : List Comment
  personal : (table : PersonalTable) → List table.Row
  userBlocks : List UserBlock
  telegramBotLogins : List TelegramBotLogin
  purchases : List PaymentRecord
  seriesPurchases : List PaymentRecord
  paymentIntents : List PaymentRecord
  subscriptions : List PaymentRecord

/-- The part of the database that decides about tokens. -/
def Db.accounts (d : Db) : Accounts.Db where
  users := d.users.map User.toUser
  sessions := d.personal .session
  resetTokens := d.personal .passwordResetToken

def Db.user? (d : Db) (id : Uuid) : Option User := lookup (fun user : User => user.id) id d.users

/-- What the schema keeps unique in `users`. -/
structure Db.Legal (d : Db) : Prop where
  ids : Unique (fun user : User => user.id) d.users
  emails : Unique (fun user : User => user.email) d.users
  googleIds : ∀ row ∈ d.users, ∀ row' ∈ d.users, ∀ google ∈ row.googleId,
    row'.googleId = some google → row'.id = row.id
  telegramIds : ∀ row ∈ d.users, ∀ row' ∈ d.users, ∀ telegram ∈ row.telegramId,
    row'.telegramId = some telegram → row'.id = row.id
  appleIds : ∀ row ∈ d.users, ∀ row' ∈ d.users, ∀ apple ∈ row.appleId,
    row'.appleId = some apple → row'.id = row.id

/-! ## The deletion -/

/-- `_PERSONAL_TABLES`. -/
def personalTables : List PersonalTable :=
  [.watchProgress, .favorite, .rating, .commentVote, .commentReport, .session, .tvAccessCode,
    .devicePairingCode, .passwordResetToken]

/-- `DELETE FROM table WHERE user_id = …`. -/
def Db.deleteOf (d : Db) (userId : Uuid) (table : PersonalTable) : Db :=
  { d with
    personal := Function.update d.personal table
      ((d.personal table).filter fun row => decide (table.userId row ≠ some userId)) }

/-- `_placeholder_email`. -/
def placeholderEmail (userId : Uuid) : String :=
  "deleted-" ++ toString userId ++ "@deleted.reeltime.fun"

def Comment.blanked (now : Instant) (comment : Comment) : Comment :=
  { comment with body := "[deleted]", deletedAt := some (comment.deletedAt.getD now) }

/-- The row of a deleted account. -/
def User.emptied (user : User) : User :=
  { user with
    email := placeholderEmail user.id, passwordHash := none, googleId := none, telegramId := none,
    appleId := none, avatarUrl := none, fullName := none, isActive := false }

/-- `delete_user_account`; the flush fails when the placeholder is the email of
another account. -/
def deleteUserAccount (now : Instant) (user : User) (d : Db) : Except Err Db :=
  if user.role = "admin" then .error (.forbidden "Admin accounts cannot be deleted from the app")
  else
    let d := { d with
      comments := d.comments.map fun row : Comment =>
        if row.userId = user.id then row.blanked now else row }
    let d := personalTables.foldl (fun d table => d.deleteOf user.id table) d
    let d := { d with
      userBlocks := d.userBlocks.filter fun row : UserBlock =>
        decide (¬ (row.blockerId = user.id ∨ row.blockedId = user.id)) }
    if d.users.any fun other : User =>
        decide (other.id ≠ user.id ∧ other.email = placeholderEmail user.id) then
      .error .integrity
    else .ok { d with users := modify (fun user : User => user.id) user.id User.emptied d.users }

/-! ## What the user is promised -/

/-- No row outside the books holds anything that identifies the user. -/
structure Forgotten (user : User) (d : Db) : Prop where
  emptied : ∀ row ∈ d.users, row.id = user.id → row.passwordHash = none ∧ row.fullName = none ∧
    row.avatarUrl = none
  email : ∀ row ∈ d.users, row.email ≠ user.email
  googleId : ∀ row ∈ d.users, ∀ google ∈ user.googleId, row.googleId ≠ some google
  telegramId : ∀ row ∈ d.users, ∀ telegram ∈ user.telegramId, row.telegramId ≠ some telegram
  appleId : ∀ row ∈ d.users, ∀ apple ∈ user.appleId, row.appleId ≠ some apple
  comments : ∀ row ∈ d.comments, row.userId = user.id → row.body = "[deleted]"
  personal : ∀ table, ∀ row ∈ d.personal table, table.userId row ≠ some user.id
  botLogins : ∀ row ∈ d.telegramBotLogins, ∀ telegram ∈ user.telegramId,
    row.telegramId ≠ some telegram

/-- No access token of the user is accepted. -/
structure SignedOut (user : User) (d : Db) : Prop where
  current : ∀ now claims, claims.sub = user.id → ∀ u, getCurrentUser now claims d.accounts ≠ .ok u
  refresh : ∀ settings now claims, claims.sub = user.id →
    ∀ fresh, (refreshSession settings now claims d.accounts).1 ≠ .ok fresh

/-- Every row of other users is unchanged, but for blocks that name the user. -/
structure OthersKept (user : User) (d d' : Db) : Prop where
  users : SameElsewhere (fun row => row.id = user.id) d.users d'.users
  comments : SameElsewhere (fun row => row.userId = user.id) d.comments d'.comments
  personal : ∀ table, SameElsewhere (fun row => table.userId row = some user.id) (d.personal table)
    (d'.personal table)
  userBlocks : SameElsewhere (fun row => row.blockerId = user.id ∨ row.blockedId = user.id) d.userBlocks
    d'.userBlocks
  telegramBotLogins : d'.telegramBotLogins = d.telegramBotLogins
  purchases : d'.purchases = d.purchases
  seriesPurchases : d'.seriesPurchases = d.seriesPurchases
  paymentIntents : d'.paymentIntents = d.paymentIntents
  subscriptions : d'.subscriptions = d.subscriptions

/-! ## The list of tables -/

theorem mem_personalTables (table : PersonalTable) : table ∈ personalTables := by
  cases table <;> decide

section

variable {now : Instant} {user : User} {d d' : Db}

theorem foldl_deleteOf (tables : List PersonalTable) (d : Db) (userId : Uuid) :
    tables.foldl (fun d table => d.deleteOf userId table) d = { d with
      personal := fun table =>
        if table ∈ tables then
          (d.personal table).filter fun row => decide (table.userId row ≠ some userId)
        else d.personal table } := by
  induction tables generalizing d with
  | nil => simp
  | cons first tables ih =>
      rw [List.foldl_cons, ih]
      simp only [Db.deleteOf, Db.mk.injEq, true_and, and_true]
      funext table
      by_cases hfirst : table = first
      · subst hfirst
        simp only [Function.update_self, List.mem_cons, true_or, if_true]
        split
        · rw [List.filter_filter]
          exact List.filter_congr fun row _ => by simp
        · rfl
      · simp only [Function.update_of_ne hfirst, List.mem_cons, hfirst, false_or]

/-- The database after a deletion. -/
theorem deleteUserAccount_eq (h : deleteUserAccount now user d = .ok d') :
    (∀ other ∈ d.users, other.id ≠ user.id → other.email ≠ placeholderEmail user.id) ∧
    d' = { d with
      users := modify (fun user : User => user.id) user.id User.emptied d.users
      comments := d.comments.map fun row : Comment =>
        if row.userId = user.id then row.blanked now else row
      personal := fun table =>
        (d.personal table).filter fun row => decide (table.userId row ≠ some user.id)
      userBlocks := d.userBlocks.filter fun row : UserBlock =>
        decide (¬ (row.blockerId = user.id ∨ row.blockedId = user.id)) } := by
  unfold deleteUserAccount at h
  split at h
  · cases h
  simp only [foldl_deleteOf, mem_personalTables, if_true] at h
  split at h
  · cases h
  next hfree =>
  simp only [Bool.not_eq_true, List.any_eq_false, decide_eq_true_eq, not_and] at hfree
  cases h
  exact ⟨hfree, rfl⟩

/-- The user's own row, or a row of another user that stays. -/
theorem mem_users_after {row : User}
    (h : row ∈ modify (fun user : User => user.id) user.id User.emptied d.users) :
    (row.id = user.id ∧ ∃ old : User, row = old.emptied ∧ old.id = user.id) ∨
      (row.id ≠ user.id ∧ row ∈ d.users) := by
  obtain ⟨old, hold, rfl⟩ := mem_modify.1 h
  by_cases hid : old.id = user.id
  · rw [if_pos hid]
    exact .inl ⟨hid, old, rfl, hid⟩
  · rw [if_neg hid]
    exact .inr ⟨hid, hold⟩

/-! ## Rows of others -/

theorem deleteUserAccount_othersKept (h : deleteUserAccount now user d = .ok d') :
    OthersKept user d d' := by
  obtain ⟨-, rfl⟩ := deleteUserAccount_eq h
  exact {
    users := sameElsewhere_map (fun row : User => row.id = user.id) User.emptied d.users fun _ h => h
    comments := sameElsewhere_map (fun row : Comment => row.userId = user.id) (Comment.blanked now)
      d.comments fun _ h => h
    personal := fun table => sameElsewhere_filter (fun row => table.userId row = some user.id) _
    userBlocks := sameElsewhere_filter (fun row : UserBlock => row.blockerId = user.id ∨ row.blockedId = user.id) _
    telegramBotLogins := rfl
    purchases := rfl
    seriesPurchases := rfl
    paymentIntents := rfl
    subscriptions := rfl }

/-! ## Tokens -/

/-- The account is found inactive, or not at all. -/
theorem user?_inactive (h : deleteUserAccount now user d = .ok d') :
    (d'.accounts.user? user.id).filter Accounts.User.isActive = none := by
  obtain ⟨-, rfl⟩ := deleteUserAccount_eq h
  rw [Option.filter_eq_none_iff]
  intro row hrow
  have hmem := mem_of_lookup hrow
  have hid : row.id = user.id := key_of_lookup hrow
  obtain ⟨full, hfull, rfl⟩ := List.mem_map.1 hmem
  rcases mem_users_after hfull with ⟨-, old, rfl, -⟩ | ⟨hne, -⟩
  · simp [User.emptied]
  · exact absurd hid hne

theorem deleteUserAccount_signedOut (h : deleteUserAccount now user d = .ok d') :
    SignedOut user d' := by
  have hinactive := user?_inactive h
  constructor
  · intro now claims hsub u hu
    unfold getCurrentUser at hu
    split at hu
    · cases hu
    split at hu
    · cases hu
    rw [hsub, hinactive] at hu
    cases hu
  · intro settings now claims hsub fresh hfresh
    unfold refreshSession at hfresh
    repeat' split at hfresh
    all_goals try cases hfresh
    rw [extendSession, hsub, hinactive] at hfresh
    cases hfresh

end

/-! ## A user of the bot -/

/-- Somebody with a Telegram account. -/
def sokha : User where
  id := 1
  email := "sokha@mail.kh"
  passwordHash := some "hash"
  telegramId := some "42"
  fullName := some "Sokha"
  role := "user"
  isActive := true
  googleId := none
  appleId := none
  avatarUrl := some "https://cdn/sokha.jpg"

/-- Sokha alone, with the given sign-ins through the bot. -/
def sokhaAlone (logins : List TelegramBotLogin) : Db where
  users := [sokha]
  comments := [⟨9, 5, 1, none, "great", none⟩]
  personal := fun _ => []
  userBlocks := []
  telegramBotLogins := logins
  purchases := [⟨"p", some 1⟩]
  seriesPurchases := []
  paymentIntents := []
  subscriptions := []

/-- The sign-in of Sokha that the bot has recorded. -/
def sokhaLogin : TelegramBotLogin where
  id := 7
  codeHash := "hash"
  status := "used"
  telegramId := some "42"
  telegramFirstName := some "Sokha"
  telegramLastName := none
  telegramUsername := some "sokha"
  expiresAt := 0

theorem sokhaAlone_legal (logins : List TelegramBotLogin) : (sokhaAlone logins).Legal := by
  have hown : ∀ row ∈ (sokhaAlone logins).users, row = sokha := fun row hrow =>
    List.mem_singleton.1 hrow
  constructor
  · simp [Sql.Unique, sokhaAlone]
  · simp [Sql.Unique, sokhaAlone]
  all_goals
    intro row hrow row' hrow' _ _ _
    rw [hown row hrow, hown row' hrow']

/-- The database after the deletion. -/
def sokhaGone (logins : List TelegramBotLogin) : Db :=
  { sokhaAlone logins with
    users := [sokha.emptied]
    comments := [⟨9, 5, 1, none, "[deleted]", some 100⟩] }

theorem sokha_deleted (logins : List TelegramBotLogin) :
    deleteUserAccount 100 sokha (sokhaAlone logins) = .ok (sokhaGone logins) := by
  have hnever : ¬ sokha.role = "admin" := by decide
  simp only [deleteUserAccount, if_neg hnever, foldl_deleteOf]
  simp [sokhaAlone, sokhaGone, Sql.modify, sokha, Comment.blanked]

/-! ## What is forgotten -/

section

variable {now : Instant} {user : User} {d d' : Db}

/-- The emptied row is there. -/
theorem emptied_mem (h : deleteUserAccount now user d = .ok d') (hfound : d.user? user.id = some user) :
    user.emptied ∈ d'.users := by
  obtain ⟨-, rfl⟩ := deleteUserAccount_eq h
  have hmem : user ∈ d.users := mem_of_lookup hfound
  exact mem_modify.2 ⟨user, hmem, by rw [if_pos rfl]⟩

/-- An identity that at most one account has is held by no account afterwards. -/
theorem identity_gone {ident : User → Option String} {value : String}
    (h : deleteUserAccount now user d = .ok d') (hfound : d.user? user.id = some user)
    (hunique : ∀ row ∈ d.users, ∀ row' ∈ d.users, ∀ value ∈ ident row,
      ident row' = some value → row'.id = row.id)
    (hempty : ∀ row : User, ident row.emptied = none) (hvalue : value ∈ ident user) :
    ∀ row ∈ d'.users, ident row ≠ some value := by
  intro row hrow hheld
  obtain ⟨-, rfl⟩ := deleteUserAccount_eq h
  rcases mem_users_after hrow with ⟨-, old, rfl, -⟩ | ⟨hne, hmem⟩
  · rw [hempty] at hheld
    cases hheld
  · exact hne (hunique user (mem_of_lookup hfound) row hmem value hvalue hheld)

theorem email_gone (h : deleteUserAccount now user d = .ok d')
    (hfound : d.user? user.id = some user) (hlegal : d.Legal)
    (hemail : user.email ≠ placeholderEmail user.id) : ∀ row ∈ d'.users, row.email ≠ user.email := by
  intro row hrow hheld
  obtain ⟨-, rfl⟩ := deleteUserAccount_eq h
  have hmem : user ∈ d.users := mem_of_lookup hfound
  rcases mem_users_after hrow with ⟨-, old, rfl, hid⟩ | ⟨hne, hother⟩
  · have hplaceholder : placeholderEmail old.id = user.email := hheld
    rw [hid] at hplaceholder
    exact hemail hplaceholder.symm
  · have hsame : lookup (fun user : User => user.email) row.email d.users = some user := by
      rw [hheld]
      exact lookup_of_mem hlegal.emails hmem
    rw [lookup_of_mem hlegal.emails hother] at hsame
    exact hne (congrArg (fun user : User => user.id) (Option.some.inj hsame))

theorem comments_blanked (h : deleteUserAccount now user d = .ok d') :
    ∀ row ∈ d'.comments, row.userId = user.id → row.body = "[deleted]" := by
  intro row hrow howner
  obtain ⟨-, rfl⟩ := deleteUserAccount_eq h
  obtain ⟨old, -, rfl⟩ := List.mem_map.1 hrow
  by_cases hold : old.userId = user.id
  · rw [if_pos hold]
    rfl
  · rw [if_neg hold] at howner
    exact absurd howner hold

theorem personal_gone (h : deleteUserAccount now user d = .ok d') :
    ∀ table, ∀ row ∈ d'.personal table, table.userId row ≠ some user.id := by
  intro table row hrow
  obtain ⟨-, rfl⟩ := deleteUserAccount_eq h
  simpa using (List.mem_filter.1 hrow).2

/-- A deletion leaves nothing behind and touches nobody else exactly when the user
never signed in through the bot, whose table is not on the list. -/
theorem deleteUserAccount_forgets_iff (hlegal : d.Legal) (hfound : d.user? user.id = some user)
    (h : deleteUserAccount now user d = .ok d') :
    (Forgotten user d' ∧ SignedOut user d' ∧ OthersKept user d d') ↔
      ((∀ row ∈ d.telegramBotLogins, ∀ telegram ∈ user.telegramId,
        row.telegramId ≠ some telegram) ∧ user.email ≠ placeholderEmail user.id) := by
  have hkept : OthersKept user d d' := deleteUserAccount_othersKept h
  constructor
  · rintro ⟨hforgotten, -, -⟩
    constructor
    · have hbot := hforgotten.botLogins
      rwa [hkept.telegramBotLogins] at hbot
    · intro hemail
      exact hforgotten.email user.emptied (emptied_mem h hfound) hemail.symm
  · rintro ⟨hbot, hemail⟩
    have hforgotten : Forgotten user d' := {
      emptied := by
        intro row hrow hid
        obtain ⟨-, rfl⟩ := deleteUserAccount_eq h
        rcases mem_users_after hrow with ⟨-, old, rfl, -⟩ | ⟨hne, -⟩
        · exact ⟨rfl, rfl, rfl⟩
        · exact absurd hid hne
      email := email_gone h hfound hlegal hemail
      googleId := fun row hrow google hgoogle =>
        identity_gone h hfound hlegal.googleIds (fun _ => rfl) hgoogle row hrow
      telegramId := fun row hrow telegram htelegram =>
        identity_gone h hfound hlegal.telegramIds (fun _ => rfl) htelegram row hrow
      appleId := fun row hrow apple happle =>
        identity_gone h hfound hlegal.appleIds (fun _ => rfl) happle row hrow
      comments := comments_blanked h
      personal := personal_gone h
      botLogins := by rwa [hkept.telegramBotLogins] }
    exact ⟨hforgotten, deleteUserAccount_signedOut h, hkept⟩

end

/-- Without a sign-in through the bot the deletion leaves nothing behind. -/
theorem sokha_forgotten :
    Forgotten sokha (sokhaGone []) ∧ SignedOut sokha (sokhaGone []) ∧
      OthersKept sokha (sokhaAlone []) (sokhaGone []) := by
  have hemail : sokha.email ≠ placeholderEmail sokha.id := by decide
  exact (deleteUserAccount_forgets_iff (sokhaAlone_legal []) rfl (sokha_deleted [])).2
    ⟨fun row hrow => absurd hrow List.not_mem_nil, hemail⟩

/-- The row the bot has recorded survives the deletion, with name and Telegram id. -/
theorem sokha_remembered :
    (sokhaAlone [sokhaLogin]).Legal ∧
      (sokhaAlone [sokhaLogin]).user? sokha.id = some sokha ∧
      deleteUserAccount 100 sokha (sokhaAlone [sokhaLogin]) = .ok (sokhaGone [sokhaLogin]) ∧
      sokhaLogin ∈ (sokhaGone [sokhaLogin]).telegramBotLogins ∧
      ¬ Forgotten sokha (sokhaGone [sokhaLogin]) := by
  have hstays : sokhaLogin ∈ (sokhaGone [sokhaLogin]).telegramBotLogins := by
    exact List.mem_singleton.2 rfl
  refine ⟨sokhaAlone_legal _, rfl, sokha_deleted _, hstays, ?_⟩
  intro hforgotten
  exact hforgotten.botLogins sokhaLogin hstays "42" rfl rfl

end MovieApi.Accounts.Deletion
