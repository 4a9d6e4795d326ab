import MovieApi.Accounts.Concurrent.Writes

/-!
# Sign-ins, refreshes and resets as sessions on the database

The transactions of `services/session.py` and of the password paths in
`services/auth.py`, statement by statement: what each reads, locks and writes,
and where it reads the clock.
-/

namespace MovieApi.Accounts.Concurrent

open ReadCommitted ReadCommitted.Prog Sql

/-! ## Sessions on the database -/

structure World where
  now : Instant
  /-- the next `uuid4()` -/
  uuid : Uuid
deriving DecidableEq, Repr

/-- What a sign-in has in its variables: the hash it checked the password
against and, after its commit, the session it started.  What a pairing call has:
the clock as it read it under the code's lock, and the token it is to return.
What a TV sign-in and a request for a reset link have: the sessions and the links
they have found to put out of use. -/
structure Info where
  verified : Option String
  signedIn : Option Uuid
  checkedAt : Option Instant := none
  token : Option Claims := none
  found : List Uuid := []
  foundTokens : List String := []
deriving DecidableEq, Repr

def Info.empty : Info := { verified := none, signedIn := none }

inductive Fault where
  | aborted
  | raised (err : Err)
deriving DecidableEq, Repr

instance : ServerError Fault := ⟨.aborted⟩

abbrev Store := ReadCommitted.Store Db Key Write World Info

abbrev Stmt := ReadCommitted.Stmt Db Key Write World Info Fault

abbrev Prog := ReadCommitted.Prog Db Key Write World Info Fault

abbrev Pool := ReadCommitted.Pool Db Key Write World Info Fault

abbrev Regime := ReadCommitted.Regime Db Key Write World Info Fault

abbrev Contract := ReadCommitted.Contract Db Key Write World Info Fault

def fail {α : Type} (err : Err) : Prog α := .raise (.raised err)

def utcNow : Prog Instant := sense World.now

def uuid4 : Prog Uuid := sense World.uuid

/-! ## Rows under a lock -/

/-- `SELECT … FOR UPDATE` on a user's row. -/
def lockUser (id : Uuid) : Prog (Option User) := do
  if ← select fun d => (d.user? id).isSome then
    lock (.user id) .update
    select fun d => d.user? id
  else
    return none

/-- `SELECT … FOR UPDATE` on a session that has not been revoked. -/
def lockSession (id : Uuid) : Prog (Option Session) := do
  if ← select fun d => ((d.session? id).filter fun row => row.revokedAt.isNone).isSome then
    lock (.session id) .update
    select fun d => (d.session? id).filter fun row => row.revokedAt.isNone
  else
    return none

def lockResetToken (tokenHash : String) : Prog (Option PasswordResetToken) := do
  if ← select fun d => (d.resetToken? tokenHash).isSome then
    lock (.resetToken tokenHash) .update
    select fun d => d.resetToken? tokenHash
  else
    return none

/-- The foreign key to a user. -/
def referenceUser (id : Uuid) : Prog Unit := do
  lock (.user id) .keyShare
  if ← select fun d => (d.user? id).isSome then return () else reject (.raised .integrity)

/-! ## Sessions -/

/-- `_count_active_sessions`. -/
def countActiveSessions (userId : Uuid) : Prog Nat := do
  let now ← utcNow
  select fun d => d.countActiveSessions userId now

/-- Flush of a new session. -/
def addSession (row : Session) : Prog Unit := do
  if ← enter (.session row.id) fun d => (d.session? row.id).isSome then
    referenceUser row.userId
    write (.insertSession row)
  else
    reject (.raised .integrity)

/-- `create_session`. -/
def createSession (settings : Settings) (userId : Uuid) : Prog Session := do
  match ← lockUser userId with
  | none => fail (.notFound "User not found")
  | some _ =>
      if settings.maxActiveSessionsPerUser ≤ (← countActiveSessions userId) then
        fail (deviceLimit settings)
      else
        let now ← utcNow
        let id ← uuid4
        let row := newSession settings now id userId
        addSession row
        return row

/-- Is a session that has lapsed kept out by the device limit? -/
def keptOut (settings : Settings) (now : Instant) (session : Session) (userId : Uuid) :
    Prog Bool := do
  if session.expiresAt ≤ now then
    return decide (settings.maxActiveSessionsPerUser ≤ (← countActiveSessions userId))
  else
    return false

/-- `refresh_session` after the version was accepted. -/
def extendSession (settings : Settings) (now : Instant) (claims : Claims) (session : Session)
    (next : Nat) : Prog Claims := do
  match (← lockUser claims.sub).filter User.isActive with
  | none => fail userInactive
  | some user =>
      if ← keptOut settings now session claims.sub then
        fail sessionExpired
      else
        write (.updateSession session (session.refreshed settings now next))
        commit
        let issuedAt ← utcNow
        return createAccessToken settings issuedAt user session.id next

/-- `refresh_session`. -/
def refreshSession (settings : Settings) (claims : Claims) : Prog Claims := do
  let now ← utcNow
  match ← lockSession claims.sid with
  | none => fail sessionRevoked
  | some session =>
      if session.userId ≠ claims.sub then fail sessionRevoked
      else if session.pastCutoff settings now then fail sessionExpired
      else
        match session.nextVersion now claims.version with
        | none => do
            write (.updateSession session (session.revoked now))
            commit
            fail sessionRevoked
        | some next => extendSession settings now claims session next

/-- `revoke_session`. -/
def revokeSession (userId id : Uuid) : Prog Unit := do
  match (← select fun d => d.session? id).filter fun row =>
      decide (row.userId = userId ∧ row.revokedAt = none) with
  | none => fail (.notFound "Session not found")
  | some session =>
      let now ← utcNow
      write (.updateSession session (session.revoked now))
      commit

def unrevokedOf (userId : Uuid) (row : Session) : Bool :=
  decide (row.userId = userId ∧ row.revokedAt = none)

/-- `revoke_all_user_sessions`; the clock is read before the session's own
changes are flushed. -/
def revokeAllUserSessions (userId : Uuid) (autoflush : Prog Unit) : Prog Unit := do
  let now ← utcNow
  autoflush
  let snapshot ← select fun d =>
    (d.sessions.filter (unrevokedOf userId)).map Session.id
  forEach snapshot fun id => do
    lock (.session id) .noKeyUpdate
    match (← select fun d => d.session? id).filter (unrevokedOf userId) with
    | some _ => write (.revokeSession id now)
    | none => return ()

/-! ## Passwords -/

/-- The foreign keys of the purchases and intents a sign-in claims for the
account, when the guest has any. -/
def claimGuestPurchases (userId : Uuid) (found : Bool) : Prog Unit :=
  if found then referenceUser userId else return ()

def invalidCredentials : Err := .unauthorized "Invalid email or password"

/-- `authenticate_user`. -/
def authenticateUser (hashing : Hashing) (settings : Settings) (email password : String)
    (guestFound : Bool) : Prog Claims := do
  match ← select fun d => d.users.find? fun user => user.email = email with
  | none => fail invalidCredentials
  | some user =>
      match user.passwordHash.filter fun hashed =>
          decide (hashed ≠ "") && hashing.verifyPassword password hashed with
      | none => fail invalidCredentials
      | some hashed =>
          if user.isActive = false then
            fail (.unauthorized "Account is disabled")
          else
            session fun info => ((), { info with verified := some hashed })
            claimGuestPurchases user.id guestFound
            let row ← createSession settings user.id
            commit
            session fun info => ((), { info with signedIn := some row.id })
            let now ← utcNow
            return createAccessToken settings now user row.id 0

/-- Flush of a loaded user whose password hash was set. -/
def savePassword (user : User) (hashed : String) : Prog Unit :=
  if user.passwordHash = some hashed then return () else write (.setPassword user.id hashed)

/-- `reset_password`; `hashed` is the bcrypt hash of the new password. -/
def resetPassword (hashing : Hashing) (token hashed : String) : Prog Unit := do
  let found ← lockResetToken (hashing.hashResetToken token)
  let now ← utcNow
  match found.filter fun row => row.usedAt.isNone && decide (now ≤ row.expiresAt) with
  | none => fail invalidResetLink
  | some row =>
      match (← select fun d => d.user? row.userId).filter User.isActive with
      | none => fail invalidResetLink
      | some user =>
          revokeAllUserSessions user.id do
            savePassword user hashed
            write (.useResetToken row.tokenHash now)
          commit

/-! ## Requests -/

/-- The end of every session: what is left open is rolled back. -/
def closing {α : Type} (p : Prog α) : Prog Unit := do
  tryCatch
    (do
      let _ ← p
      return ())
    fun e => do
      rollback
      .raise e
  rollback

inductive Request where
  | createSession (userId : Uuid)
  | login (email password : String) (guestFound : Bool)
  | refresh (claims : Claims)
  | revoke (userId id : Uuid)
  | revokeAll (userId : Uuid)
  | reset (token hashed : String)

def Request.prog (hashing : Hashing) (settings : Settings) : Request → Prog Unit
  | .createSession userId => closing do
      let _ ← Concurrent.createSession settings userId
      commit
  | .login email password guestFound =>
      closing (authenticateUser hashing settings email password guestFound)
  | .refresh claims => closing (refreshSession settings claims)
  | .revoke userId id => closing (revokeSession userId id)
  | .revokeAll userId => closing do
      revokeAllUserSessions userId (return ())
      commit
  | .reset token hashed => closing (resetPassword hashing token hashed)

/-- Any number of sessions over an idle database; session `t` runs request `t`. -/
def start (hashing : Hashing) (settings : Settings) (d : Db) (world : World)
    (requests : Tid → Request) : Pool where
  store := .idle d .empty world
  progs t := (requests t).prog hashing settings

/-! ## One account

A user with one session, for runs on concrete data. -/

namespace Desk

/-- Passwords stand for their own hashes. -/
def hashing : Hashing := ⟨fun plain hashed => plain = hashed, fun token => token⟩

/-- One device for each user. -/
def settings : Settings := { Settings.default with maxActiveSessionsPerUser := 1 }

def user : User := ⟨1, "a@desk", some "old", none, none, "user", true⟩

/-- Expires at 100. -/
def session : Session := ⟨1, 1, 100, none, 0, none⟩

def claims : Claims := ⟨1, "user", 1, some 0, 100⟩

def db : Db :=
  { users := [user], sessions := [session], resetTokens := [⟨1, "link", 1000, none⟩] }

def runs (t n : Nat) : List (Event World) := List.replicate n (.run t)

/-- Has the call returned? -/
def returned (q : Pool) (t : Tid) : Bool :=
  match q.progs t with
  | .ret _ => true
  | _ => false

theorem eq_ret_of_returned {q : Pool} {t : Tid} (h : returned q t = true) :
    q.progs t = .ret () := by
  unfold returned at h
  split at h
  · next hret => exact hret
  · simp at h

end Desk

end MovieApi.Accounts.Concurrent
