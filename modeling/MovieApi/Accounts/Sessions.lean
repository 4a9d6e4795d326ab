import MovieApi.Accounts.Schema

/-!
# Session services

The functions of `services/session.py` and the two ways to change a password,
each as one transaction: they answer with their result and the database they
leave committed.
-/

namespace MovieApi.Accounts

open Sql

/-! ## Tables -/

namespace Db

def saveSession (d : Db) (session : Session) : Db :=
  { d with sessions := modify Session.id session.id (fun _ => session) d.sessions }

def saveUser (d : Db) (user : User) : Db :=
  { d with users := modify User.id user.id (fun _ => user) d.users }

/-- An update of the unrevoked sessions of a user. -/
def revokeAll (d : Db) (userId : Uuid) (now : Instant) : Db :=
  { d with
    sessions := d.sessions.map fun session =>
      if session.userId = userId ∧ session.revokedAt = none then session.revoked now
      else session }

end Db

/-! ## Sessions -/

/-- `create_session`; `id` is the fresh key of the new row. -/
def createSession (settings : Settings) (now : Instant) (id userId : Uuid) (d : Db) :
    Except Err Db :=
  if (d.user? userId).isNone then .error (.notFound "User not found")
  else if settings.maxActiveSessionsPerUser ≤ d.countActiveSessions userId now then
    .error (deviceLimit settings)
  else if (d.session? id).isSome then .error .integrity
  else .ok { d with sessions := d.sessions ++ [newSession settings now id userId] }

/-- The checks of `refresh_session` after the version was accepted. -/
def extendSession (settings : Settings) (now : Instant) (claims : Claims) (session : Session)
    (next : Nat) (d : Db) : Except Err Claims × Db :=
  match (d.user? claims.sub).filter User.isActive with
  | none => (.error userInactive, d)
  | some user =>
      if session.expiresAt ≤ now ∧
          settings.maxActiveSessionsPerUser ≤ d.countActiveSessions claims.sub now then
        (.error sessionExpired, d)
      else
        (.ok (createAccessToken settings now user session.id next),
          d.saveSession (session.refreshed settings now next))

/-- `refresh_session`. -/
def refreshSession (settings : Settings) (now : Instant) (claims : Claims) (d : Db) :
    Except Err Claims × Db :=
  match (d.session? claims.sid).filter fun session => session.revokedAt.isNone with
  | none => (.error sessionRevoked, d)
  | some session =>
      if session.userId ≠ claims.sub then (.error sessionRevoked, d)
      else if session.pastCutoff settings now then (.error sessionExpired, d)
      else
        match session.nextVersion now claims.version with
        | none => (.error sessionRevoked, d.saveSession (session.revoked now))
        | some next => extendSession settings now claims session next d

/-- `require_active_session`. -/
def requireActiveSession (now : Instant) (sid : Uuid) (d : Db) : Except Err Uuid :=
  match d.activeSession? sid now with
  | none => .error sessionRevoked
  | some session => .ok session.id

/-- `revoke_session`. -/
def revokeSession (now : Instant) (userId id : Uuid) (d : Db) : Except Err Db :=
  match (d.session? id).filter fun session => decide (session.userId = userId) with
  | none => .error (.notFound "Session not found")
  | some session =>
      if session.revokedAt.isSome then .error (.notFound "Session not found")
      else .ok (d.saveSession (session.revoked now))

/-! ## Passwords -/

/-- The password and reset-link hashes the service is configured with. -/
structure Hashing where
  verifyPassword : (plain hashed : String) → Bool
  hashResetToken : String → String

/-- `authenticate_user`, without the purchases it claims. -/
def authenticateUser (hashing : Hashing) (settings : Settings) (now : Instant) (id : Uuid)
    (email password : String) (d : Db) : Except Err (Claims × Db) :=
  match d.users.find? fun user => user.email = email with
  | none => .error (.unauthorized "Invalid email or password")
  | some user =>
      if user.passwordHash.all (fun hashed => hashed = "" || !hashing.verifyPassword password hashed)
      then .error (.unauthorized "Invalid email or password")
      else if user.isActive = false then .error (.unauthorized "Account is disabled")
      else
        match createSession settings now id user.id d with
        | .error err => .error err
        | .ok d => .ok (createAccessToken settings now user id 0, d)

/-- `reset_password`; `hashed` is the bcrypt hash of the new password. -/
def resetPassword (hashing : Hashing) (now : Instant) (token hashed : String) (d : Db) :
    Except Err (Uuid × Db) :=
  match (d.resetToken? (hashing.hashResetToken token)).filter
      (fun row => row.usedAt.isNone && decide (now ≤ row.expiresAt)) with
  | none => .error invalidResetLink
  | some row =>
      match (d.user? row.userId).filter User.isActive with
      | none => .error invalidResetLink
      | some user =>
          let d := d.saveUser { user with passwordHash := some hashed }
          let d := { d with
            resetTokens := modify PasswordResetToken.tokenHash row.tokenHash
              (fun row => { row with usedAt := some now }) d.resetTokens }
          .ok (user.id, d.revokeAll user.id now)

/-- `get_current_user`. -/
def getCurrentUser (now : Instant) (claims : Claims) (d : Db) : Except Err User :=
  if claims.exp ≤ now then .error (.unauthorized "Could not validate credentials")
  else
    match requireActiveSession now claims.sid d with
    | .error err => .error err
    | .ok _ =>
        match (d.user? claims.sub).filter User.isActive with
        | none => .error userInactive
        | some user => .ok user

/-- A user who has a password knows it. -/
def provesPassword (hashing : Hashing) (user : User) (currentPassword : Option String) : Bool :=
  user.passwordHash.all fun old => currentPassword.any fun password =>
    decide (password ≠ "") && hashing.verifyPassword password old

/-- `update_me` with a new password, whose bcrypt hash is `hashed`. -/
def updateMe (hashing : Hashing) (now : Instant) (claims : Claims)
    (currentPassword : Option String) (hashed : String) (d : Db) : Except Err (User × Db) :=
  match getCurrentUser now claims d with
  | .error err => .error err
  | .ok user =>
      if provesPassword hashing user currentPassword then
        .ok (user, d.saveUser { user with passwordHash := some hashed })
      else .error (.unauthorized "Current password is incorrect")

end MovieApi.Accounts
