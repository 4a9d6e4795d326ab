import MovieApi.Accounts.Concurrent.Programs
import MovieApi.Accounts.Deletion
import MovieApi.ReadCommitted.Deadlock

/-!
# Account deletions among the other transactions

`delete_user_account` as far as it locks rows of users, sessions and reset links:
it deletes the sessions, then the links, and flushes the emptied user last.
-/

namespace MovieApi.Accounts.Concurrent

open ReadCommitted ReadCommitted.Prog Sql

/-- The order in which a scan meets the rows of a table. -/
structure Scan (α : Type) where
  order : List α → List α
  perm : ∀ rows, (order rows).Perm rows

/-- The row of a deleted account. -/
def emptied (user : User) : User :=
  { user with
    email := Deletion.placeholderEmail user.id, passwordHash := none, telegramId := none,
    fullName := none, isActive := false }

/-- Flush of a loaded user that was emptied. -/
def saveEmptied (user : User) : Prog Unit :=
  if emptied user = user then return () else write (.updateUser user (emptied user))

def sessionsOf (userId : Uuid) (d : Db) : List Uuid :=
  (d.sessions.filter fun row : Session => decide (row.userId = userId)).map Session.id

def resetTokensOf (userId : Uuid) (d : Db) : List String :=
  (d.resetTokens.filter fun row : PasswordResetToken => decide (row.userId = userId)).map
    PasswordResetToken.tokenHash

/-- `delete_user_account` for the user the request was authenticated as. -/
def deleteUserAccount (sessionScan : Scan Uuid) (tokenScan : Scan String) (userId : Uuid) :
    Prog Unit := do
  match (← select fun d => d.user? userId).filter User.isActive with
  | none => fail userInactive
  | some user =>
      if user.role = "admin" then
        fail (.forbidden "Admin accounts cannot be deleted from the app")
      else
        let ids ← select (sessionsOf user.id)
        forEach (sessionScan.order ids) fun id => write (.deleteSession user.id id)
        let hashes ← select (resetTokensOf user.id)
        forEach (tokenScan.order hashes) fun hash => write (.deleteResetToken user.id hash)
        saveEmptied user
        commit

/-- The transactions that lock sessions and users. -/
inductive AccountRequest where
  | createSession (userId : Uuid)
  | refresh (claims : Claims)
  | revoke (userId id : Uuid)
  | reset (token hashed : String)
  | deleteAccount (sessionScan : Scan Uuid) (tokenScan : Scan String) (userId : Uuid)

def AccountRequest.prog (hashing : Hashing) (settings : Settings) : AccountRequest → Prog Unit
  | .createSession userId => (Request.createSession userId).prog hashing settings
  | .refresh claims => (Request.refresh claims).prog hashing settings
  | .revoke userId id => (Request.revoke userId id).prog hashing settings
  | .reset token hashed => (Request.reset token hashed).prog hashing settings
  | .deleteAccount sessionScan tokenScan userId =>
      closing (deleteUserAccount sessionScan tokenScan userId)

/-- Any number of such transactions; session `t` runs request `t`. -/
def startAccounts (hashing : Hashing) (settings : Settings) (d : Db) (world : World)
    (requests : Tid → AccountRequest) : Pool where
  store := .idle d .empty world
  progs t := (requests t).prog hashing settings

end MovieApi.Accounts.Concurrent
