import MovieApi.Sql.Table

/-!
# Accounts and their sessions

Users, the sessions that stand behind their access tokens, the reset links of
forgotten passwords, and the codes that sign in a television.  A session row
decides whether a token is accepted; time alone takes it out of use.
-/

namespace MovieApi.Accounts

open Sql

abbrev Uuid := Nat

/-- Points in time, in microseconds. -/
abbrev Instant := Int

def minutes (n : Int) : Int := n * 60000000

def days (n : Int) : Int := n * 86400000000

/-- The payload of a signed access token.  Tokens from before rotation carry no
version. -/
structure Claims where
  sub : Uuid
  role : String
  sid : Uuid
  ver : Option Nat
  exp : Instant
deriving DecidableEq, Repr

def Claims.version (claims : Claims) : Nat := claims.ver.getD 0

/-! ## Rows -/

structure User where
  id : Uuid
  email : String
  passwordHash : Option String
  telegramId : Option String
  fullName : Option String
  role : String
  isActive : Bool
deriving DecidableEq, Repr

structure Session where
  id : Uuid
  userId : Uuid
  expiresAt : Instant
  revokedAt : Option Instant
  tokenVersion : Nat
  refreshedAt : Option Instant
deriving DecidableEq, Repr

structure PasswordResetToken where
  userId : Uuid
  tokenHash : String
  expiresAt : Instant
  usedAt : Option Instant
deriving DecidableEq, Repr

inductive PairingStatus where
  | pending | confirmed | expired
deriving DecidableEq, Repr

/-- The token is the one of the session a phone has confirmed. -/
structure DevicePairingCode where
  codeHash : String
  status : PairingStatus
  token : Option Claims
  userId : Option Uuid
  expiresAt : Instant
deriving DecidableEq, Repr

inductive NonceStatus where
  | pending | used
deriving DecidableEq, Repr

structure TelegramAuthNonce where
  nonceHash : String
  status : NonceStatus
  expiresAt : Instant
deriving DecidableEq, Repr

structure Subscription where
  userId : Uuid
  plan : String
  status : String
  currentPeriodStart : Instant
  currentPeriodEnd : Instant
deriving DecidableEq, Repr

structure TvAccessCode where
  id : Uuid
  code : String
  label : Option String
  userId : Uuid
  expiresAt : Instant
  isActive : Bool
deriving DecidableEq, Repr

structure Db where
  users : List User
  sessions : List Session
  resetTokens : List PasswordResetToken
  pairingCodes : List DevicePairingCode := []
  telegramAuthNonces : List TelegramAuthNonce := []
  subscriptions : List Subscription := []
  tvAccessCodes : List TvAccessCode := []
deriving DecidableEq, Repr

namespace Db

def user? (d : Db) (id : Uuid) : Option User := lookup User.id id d.users

def session? (d : Db) (id : Uuid) : Option Session := lookup Session.id id d.sessions

def resetToken? (d : Db) (tokenHash : String) : Option PasswordResetToken :=
  lookup PasswordResetToken.tokenHash tokenHash d.resetTokens

def pairingCode? (d : Db) (codeHash : String) : Option DevicePairingCode :=
  lookup DevicePairingCode.codeHash codeHash d.pairingCodes

def telegramAuthNonce? (d : Db) (nonceHash : String) : Option TelegramAuthNonce :=
  lookup TelegramAuthNonce.nonceHash nonceHash d.telegramAuthNonces

def subscription? (d : Db) (userId : Uuid) : Option Subscription :=
  lookup Subscription.userId userId d.subscriptions

def tvAccessCode? (d : Db) (id : Uuid) : Option TvAccessCode :=
  lookup TvAccessCode.id id d.tvAccessCodes

end Db

/-- The keys the schema declares. -/
structure Db.Legal (d : Db) : Prop where
  users : Unique User.id d.users
  sessions : Unique Session.id d.sessions
  resetTokens : Unique PasswordResetToken.tokenHash d.resetTokens

/-! ## Settings -/

structure Settings where
  accessTokenExpireMinutes : Int
  sessionRefreshGraceDays : Option Int
  maxActiveSessionsPerUser : Nat
  passwordResetTokenExpireMinutes : Int
deriving DecidableEq, Repr

def Settings.default : Settings := ⟨60, none, 5, 30⟩

/-- `REFRESH_RETRY_WINDOW`. -/
def refreshRetryWindow : Int := minutes 2

/-- How long a new or refreshed session lasts. -/
def Settings.lifetime (settings : Settings) : Int := minutes settings.accessTokenExpireMinutes

/-! ## Errors -/

inductive Err where
  | unauthorized (detail : String)
  | forbidden (detail : String)
  | notFound (detail : String)
  | conflict (detail : String)
  | integrity
  | overflow
deriving DecidableEq, Repr

def sessionRevoked : Err := .unauthorized "Session has been revoked. Please log in again."

def sessionExpired : Err := .unauthorized "Session has expired. Please log in again."

def userInactive : Err := .unauthorized "User not found or inactive"

def invalidResetLink : Err := .unauthorized "This reset link is invalid or has expired"

def deviceLimit (settings : Settings) : Err :=
  .forbidden ("You're signed in on " ++ toString settings.maxActiveSessionsPerUser ++
    " devices already. Log out from another device to continue.")

/-! ## Sessions in use -/

def Session.active (now : Instant) (session : Session) : Bool :=
  session.revokedAt.isNone && decide (now < session.expiresAt)

/-- `_count_active_sessions`. -/
def Db.countActiveSessions (d : Db) (userId : Uuid) (now : Instant) : Nat :=
  (d.sessions.filter fun session => decide (session.userId = userId) && session.active now).length

/-- `get_active_session`. -/
def Db.activeSession? (d : Db) (id : Uuid) (now : Instant) : Option Session :=
  (d.session? id).filter (Session.active now)

/-- `_refresh_cutoff`. -/
def refreshCutoff (settings : Settings) (now : Instant) : Option Instant :=
  settings.sessionRefreshGraceDays.map fun grace => now - days grace

/-- A session that lapsed too long ago to be refreshed. -/
def Session.pastCutoff (settings : Settings) (now : Instant) (session : Session) : Bool :=
  (refreshCutoff settings now).any fun cutoff => decide (session.expiresAt ≤ cutoff)

/-! ## Token versions -/

/-- The version a refresh with a token of this version hands out: the next one
for the current token, the current one for a retry, none for an old token. -/
def Session.nextVersion (now : Instant) (version : Nat) (session : Session) : Option Nat :=
  if version = session.tokenVersion then some (session.tokenVersion + 1)
  else if version + 1 = session.tokenVersion ∧
      session.refreshedAt.any (fun at_ => decide (now - at_ < refreshRetryWindow)) = true then
    some session.tokenVersion
  else none

/-- The row after a refresh. -/
def Session.refreshed (settings : Settings) (now : Instant) (next : Nat) (session : Session) :
    Session :=
  { session with
    tokenVersion := next
    refreshedAt := if next ≠ session.tokenVersion then some now else session.refreshedAt
    expiresAt := now + settings.lifetime }

def Session.revoked (now : Instant) (session : Session) : Session :=
  { session with revokedAt := some now }

/-- The session a login starts. -/
def newSession (settings : Settings) (now : Instant) (id userId : Uuid) : Session :=
  { id := id, userId := userId, expiresAt := now + settings.lifetime, revokedAt := none,
    tokenVersion := 0, refreshedAt := none }

/-- `create_access_token`. -/
def createAccessToken (settings : Settings) (now : Instant) (user : User) (sid : Uuid)
    (version : Nat) : Claims :=
  { sub := user.id, role := user.role, sid := sid, ver := some version,
    exp := now + settings.lifetime }

end MovieApi.Accounts
