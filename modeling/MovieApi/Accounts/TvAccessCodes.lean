import MovieApi.Accounts.Deletion

/-!
# TV access codes

An administrator issues codes that sign in a television.  A code owns a user of
its own, whose email is made from the code, and a subscription that ends with
the code.
-/

namespace MovieApi.Accounts

open Sql

/-! ## Letters -/

/-- What Python's `str` methods and the folding of a `citext` do to characters. -/
structure Letters where
  strip : String → String
  upper : String → String
  lower : String → String
  isAlnum : Char → Bool
  fold : Char → Char
  fold_lowercase : ∀ c, 'a' ≤ c → c ≤ 'z' → fold c = c

def Letters.citext (letters : Letters) (text : String) : List Char :=
  text.toList.map letters.fold

/-- The letters, and the `CHECK` on the status of a subscription: the migrations
allow three values, the schema file for the console has none. -/
structure TvSite extends Letters where
  allowsStatus : String → Bool

/-! ## Requests -/

structure TvAccessCodeCreate where
  label : Option String
  expiresAt : Instant
  code : Option String
  isActive : Bool
deriving DecidableEq, Repr

/-- A field that is not set is `none`. -/
structure TvAccessCodeUpdate where
  label : Option (Option String)
  expiresAt : Option Instant
  isActive : Option Bool
deriving DecidableEq, Repr

/-- `_normalize_code`. -/
def normalizeCode (letters : Letters) (value : String) : Except String String :=
  let cleaned := (letters.upper (letters.strip value)).toList.filter fun ch =>
    letters.isAlnum ch || ch == '-' || ch == '_'
  if cleaned.length < 4 then .error "TV ID must be at least 4 characters"
  else if 32 < cleaned.length then .error "TV ID must be at most 32 characters"
  else .ok (String.ofList cleaned)

/-- `normalize_optional_code`. -/
def normalizeOptionalCode (letters : Letters) : Option String → Except String (Option String)
  | none => .ok none
  | some value =>
      if letters.strip value = "" then .ok none
      else do
        let code ← normalizeCode letters value
        return some code

/-- `strip_label`, after the bound on the field. -/
def stripLabel (letters : Letters) : Option String → Except String (Option String)
  | none => .ok none
  | some value =>
      if 120 < value.length then .error "String should have at most 120 characters"
      else .ok ((some (letters.strip value)).filter fun cleaned => decide (cleaned ≠ ""))

def TvAccessCodeCreate.validate (letters : Letters) (data : TvAccessCodeCreate) :
    Except String TvAccessCodeCreate := do
  let label ← stripLabel letters data.label
  let code ← normalizeOptionalCode letters data.code
  return { data with label := label, code := code }

/-! ## Constraints of the tables -/

namespace Db

def insertUser (letters : Letters) (user : User) (d : Db) : Except Err Db :=
  if d.users.any (fun other => decide (other.id = user.id) ||
      decide (letters.citext other.email = letters.citext user.email)) then .error .integrity
  else .ok { d with users := d.users ++ [user] }

def insertSubscription (site : TvSite) (subscription : Subscription) (d : Db) : Except Err Db :=
  if site.allowsStatus subscription.status = false ∨ (d.user? subscription.userId).isNone ∨
      (d.subscription? subscription.userId).isSome then .error .integrity
  else .ok { d with subscriptions := d.subscriptions ++ [subscription] }

def insertTvAccessCode (row : TvAccessCode) (d : Db) : Except Err Db :=
  if (d.user? row.userId).isNone ∨ d.tvAccessCodes.any (fun other => decide (other.id = row.id) ||
      decide (other.code = row.code) || decide (other.userId = row.userId)) then .error .integrity
  else .ok { d with tvAccessCodes := d.tvAccessCodes ++ [row] }

/-- The rows of a user that go with the user's row, or are deleted with the account. -/
def withoutRowsOf (d : Db) (userId : Uuid) : Db :=
  { d with
    sessions := d.sessions.filter fun row => decide (row.userId ≠ userId)
    resetTokens := d.resetTokens.filter fun row => decide (row.userId ≠ userId)
    pairingCodes := d.pairingCodes.filter fun row => decide (row.userId ≠ some userId)
    tvAccessCodes := d.tvAccessCodes.filter fun row => decide (row.userId ≠ userId) }

end Db

/-! ## The service -/

/-- `_TV_PLAN`. -/
def tvPlan : String := "tv_access"

/-- `_is_expired`. -/
def TvAccessCode.expired (now : Instant) (row : TvAccessCode) : Bool :=
  decide (row.expiresAt ≤ now)

structure TvAccessCodeRead extends TvAccessCode where
  isExpired : Bool
deriving DecidableEq, Repr

/-- `to_read`. -/
def TvAccessCode.toRead (now : Instant) (row : TvAccessCode) : TvAccessCodeRead :=
  { row with isExpired := row.expired now }

/-- `_generate_code`, from eight drawn characters. -/
def generateCode (body : String) : String := "TV-" ++ body

/-- `_unique_code`; `bodies` are the draws. -/
def uniqueCode (bodies : Nat → String) (preferred : Option String) (d : Db) :
    Except Err String :=
  match preferred.filter fun code => decide (code ≠ "") with
  | some code =>
      if d.tvAccessCodes.any fun row => decide (row.code = code) then
        .error (.conflict "This TV ID is already in use")
      else .ok code
  | none =>
      match (List.range 12).find? fun n =>
          !d.tvAccessCodes.any fun row => decide (row.code = generateCode (bodies n)) with
      | some n => .ok (generateCode (bodies n))
      | none => .error (.conflict "Could not generate a unique TV ID. Try again.")

/-- The code in lower case, without its dashes. -/
def dashless (letters : Letters) (code : String) : String :=
  String.ofList ((letters.lower code).toList.filter fun ch => ch != '-')

/-- The email of the user a code owns. -/
def tvEmail (letters : Letters) (code : String) : String :=
  "tv+" ++ dashless letters code ++ "@tv.reeltime.local"

namespace TvAccessCodeCreate

/-- The status of the subscription a new code comes with. -/
def status (data : TvAccessCodeCreate) : String :=
  if data.isActive then "active" else "cancelled"

def user (letters : Letters) (userId : Uuid) (hashed code : String) (data : TvAccessCodeCreate) :
    User :=
  { id := userId, email := tvEmail letters code, passwordHash := some hashed, telegramId := none,
    fullName := some (data.label.getD ("TV " ++ code)), role := "user", isActive := true }

def subscription (now : Instant) (userId : Uuid) (data : TvAccessCodeCreate) : Subscription :=
  { userId := userId, plan := tvPlan, status := data.status, currentPeriodStart := now,
    currentPeriodEnd := data.expiresAt }

def row (id userId : Uuid) (code : String) (data : TvAccessCodeCreate) : TvAccessCode :=
  { id := id, code := code, label := data.label, userId := userId, expiresAt := data.expiresAt,
    isActive := data.isActive }

end TvAccessCodeCreate

/-- The rows of a new code: its user, the subscription and the code. -/
def insertTvRows (site : TvSite) (now : Instant) (userId id : Uuid) (hashed : String)
    (data : TvAccessCodeCreate) (d : Db) (code : String) : Except Err (TvAccessCodeRead × Db) := do
  let d ← d.insertUser site.toLetters (data.user site.toLetters userId hashed code)
  let d ← d.insertSubscription site (data.subscription now userId)
  let d ← d.insertTvAccessCode (data.row id userId code)
  return ((data.row id userId code).toRead now, d)

/-- `create_tv_access_code`; `userId` and `id` are the fresh keys, `hashed` the hash
of the random password. -/
def createTvAccessCode (site : TvSite) (now : Instant) (userId id : Uuid) (hashed : String)
    (bodies : Nat → String) (data : TvAccessCodeCreate) (d : Db) :
    Except Err (TvAccessCodeRead × Db) :=
  if data.expiresAt ≤ now then .error (.conflict "Expiry must be in the future")
  else uniqueCode bodies data.code d >>= insertTvRows site now userId id hashed data d

/-- An update of the TV subscriptions of a user. -/
def Db.updateTvSubscription (d : Db) (userId : Uuid) (f : Subscription → Subscription) : Db :=
  { d with
    subscriptions := d.subscriptions.map fun subscription =>
      if subscription.userId = userId ∧ subscription.plan = tvPlan then f subscription
      else subscription }

/-- The columns an update of a code can change. -/
def Db.saveTvAccessCode (d : Db) (row : TvAccessCode) : Db :=
  { d with
    tvAccessCodes := Sql.modify TvAccessCode.id row.id (fun old =>
      { old with label := row.label, expiresAt := row.expiresAt, isActive := row.isActive })
      d.tvAccessCodes }

def Db.updateUser (d : Db) (id : Uuid) (f : User → User) : Db :=
  { d with users := Sql.modify User.id id f d.users }

/-- The new label, and with it the name of the user. -/
def relabelTv (data : TvAccessCodeUpdate) (row : TvAccessCode) (d : Db) : TvAccessCode × Db :=
  match data.label with
  | none => (row, d)
  | some label =>
      ({ row with label := label },
        d.updateUser row.userId fun user =>
          { user with fullName := some (label.getD ("TV " ++ row.code)) })

/-- The new expiry, and with it the end of the subscription. -/
def extendTv (data : TvAccessCodeUpdate) (row : TvAccessCode) (d : Db) : TvAccessCode × Db :=
  match data.expiresAt with
  | none => (row, d)
  | some expiresAt =>
      ({ row with expiresAt := expiresAt },
        d.updateTvSubscription row.userId fun subscription =>
          { subscription with currentPeriodEnd := expiresAt })

/-- Switching the code on or off, and with it the subscription and the user. -/
def switchTv (site : TvSite) (now : Instant) (data : TvAccessCodeUpdate) (row : TvAccessCode)
    (d : Db) : Except Err (TvAccessCode × Db) :=
  match data.isActive with
  | none => .ok (row, d)
  | some isActive =>
      let status := if isActive && !row.expired now then "active" else "cancelled"
      if site.allowsStatus status = false ∧ d.subscriptions.any (fun subscription =>
          decide (subscription.userId = row.userId ∧ subscription.plan = tvPlan)) then
        .error .integrity
      else
        .ok ({ row with isActive := isActive },
          (d.updateTvSubscription row.userId fun subscription =>
            { subscription with status := status }).updateUser row.userId fun user =>
              { user with isActive := isActive })

/-- `update_tv_access_code`. -/
def updateTvAccessCode (site : TvSite) (now : Instant) (id : Uuid) (data : TvAccessCodeUpdate)
    (d : Db) : Except Err (TvAccessCodeRead × Db) :=
  match d.tvAccessCode? id with
  | none => .error (.notFound "TV access ID not found")
  | some row => do
      let (row, d) := relabelTv data row d
      let (row, d) := extendTv data row d
      let (row, d) ← switchTv site now data row d
      return (row.toRead now, d.saveTvAccessCode row)

/-- `delete_tv_access_code`.  The keys that point at users without a cascade are
those of the subscriptions and of tables outside, `referenced`. -/
def deleteTvAccessCode (referenced : Uuid → Bool) (id : Uuid) (d : Db) : Except Err Db :=
  match d.tvAccessCode? id with
  | none => .error (.notFound "TV access ID not found")
  | some row =>
      match d.user? row.userId with
      | none => .ok { d with tvAccessCodes := Sql.remove TvAccessCode.id id d.tvAccessCodes }
      | some user =>
          if (d.subscription? user.id).isSome ∨ referenced user.id then .error .integrity
          else
            let d := d.withoutRowsOf user.id
            .ok { d with users := Sql.remove User.id user.id d.users }

/-- `delete_user_account`, as far as these tables go. -/
def deleteUserAccount (letters : Letters) (user : User) (d : Db) : Except Err Db :=
  let email := Deletion.placeholderEmail user.id
  if user.role = "admin" then .error (.forbidden "Admin accounts cannot be deleted from the app")
  else if d.users.any fun other => decide (other.id ≠ user.id ∧
      letters.citext other.email = letters.citext email) then .error .integrity
  else
    .ok ((d.withoutRowsOf user.id).updateUser user.id fun user =>
      { user with
        email := email, passwordHash := none, telegramId := none, fullName := none,
        isActive := false })

end MovieApi.Accounts
