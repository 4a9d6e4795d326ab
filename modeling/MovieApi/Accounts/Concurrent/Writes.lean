import MovieApi.Accounts.TvAccessCodes
import MovieApi.ReadCommitted.Contract

/-!
# Writes to the account tables

Every write of the sign-in, refresh, revocation, reset, pairing and deletion
transactions of accounts, what it does to the tables and which locks it holds
until its transaction ends.
-/

namespace MovieApi.Accounts.Concurrent

open ReadCommitted Sql

inductive Key where
  | user (id : Uuid)
  | session (id : Uuid)
  | resetToken (tokenHash : String)
  | pairingCode (codeHash : String)
  | telegramNonce (nonceHash : String)
  | subscription (userId : Uuid)
  /-- entries of the unique indexes of users -/
  | userEmail (email : String)
  | userTelegramId (telegramId : String)
deriving DecidableEq, Repr

inductive Write where
  | insertSession (row : Session)
  /-- flush of a loaded session: only the attributes that changed are written -/
  | updateSession (loaded row : Session)
  /-- one row of the bulk update that revokes a user's sessions -/
  | revokeSession (id : Uuid) (now : Instant)
  | setPassword (userId : Uuid) (hashed : String)
  | useResetToken (tokenHash : String) (now : Instant)
  /-- one row of a `DELETE … WHERE user_id = …` -/
  | deleteSession (userId id : Uuid)
  | deleteResetToken (userId : Uuid) (tokenHash : String)
  /-- flush of a loaded user whose email has changed -/
  | updateUser (loaded row : User)
  | insertPairingCode (row : DevicePairingCode)
  /-- flush of a loaded pairing code -/
  | updatePairingCode (loaded row : DevicePairingCode)
  | insertUser (row : User)
  | setFullName (userId : Uuid) (name : Option String)
  | insertTelegramNonce (row : TelegramAuthNonce)
  | useTelegramNonce (nonceHash : String)
  | insertResetToken (row : PasswordResetToken)
  /-- the TV subscription of a user, when a code signs in -/
  | renewTvSubscription (userId : Uuid) (expiresAt : Instant)
deriving DecidableEq, Repr

/-- A flushed attribute: an unchanged one is not in the `UPDATE`. -/
def flush {α : Type} [DecidableEq α] (loaded new current : α) : α :=
  if new = loaded then current else new

def flushSession (loaded new row : Session) : Session :=
  { row with
    expiresAt := flush loaded.expiresAt new.expiresAt row.expiresAt
    revokedAt := flush loaded.revokedAt new.revokedAt row.revokedAt
    tokenVersion := flush loaded.tokenVersion new.tokenVersion row.tokenVersion
    refreshedAt := flush loaded.refreshedAt new.refreshedAt row.refreshedAt }

def flushUser (loaded new row : User) : User :=
  { row with
    email := flush loaded.email new.email row.email
    passwordHash := flush loaded.passwordHash new.passwordHash row.passwordHash
    telegramId := flush loaded.telegramId new.telegramId row.telegramId
    fullName := flush loaded.fullName new.fullName row.fullName
    isActive := flush loaded.isActive new.isActive row.isActive }

def flushPairingCode (loaded new row : DevicePairingCode) : DevicePairingCode :=
  { row with
    status := flush loaded.status new.status row.status
    token := flush loaded.token new.token row.token
    userId := flush loaded.userId new.userId row.userId }

/-- The `UPDATE` of a TV subscription. -/
def renewTv (expiresAt : Instant) (row : Subscription) : Subscription :=
  if row.plan = tvPlan then { row with status := "active", currentPeriodEnd := expiresAt } else row

def Write.apply (d : Db) : Write → Db
  | .insertSession row => { d with sessions := d.sessions ++ [row] }
  | .updateSession loaded row =>
      { d with sessions := modify Session.id loaded.id (flushSession loaded row) d.sessions }
  | .revokeSession id now =>
      { d with sessions := modify Session.id id (Session.revoked now) d.sessions }
  | .setPassword userId hashed =>
      { d with
        users := modify User.id userId (fun user => { user with passwordHash := some hashed })
          d.users }
  | .useResetToken tokenHash now =>
      { d with
        resetTokens := modify PasswordResetToken.tokenHash tokenHash
          (fun row => { row with usedAt := some now }) d.resetTokens }
  | .deleteSession _ id => { d with sessions := remove Session.id id d.sessions }
  | .deleteResetToken _ tokenHash =>
      { d with resetTokens := remove PasswordResetToken.tokenHash tokenHash d.resetTokens }
  | .updateUser loaded row =>
      { d with users := modify User.id loaded.id (flushUser loaded row) d.users }
  | .insertPairingCode row => { d with pairingCodes := d.pairingCodes ++ [row] }
  | .updatePairingCode loaded row =>
      { d with
        pairingCodes := modify DevicePairingCode.codeHash loaded.codeHash
          (flushPairingCode loaded row) d.pairingCodes }
  | .insertUser row => { d with users := d.users ++ [row] }
  | .setFullName userId name =>
      { d with users := modify User.id userId (fun user => { user with fullName := name }) d.users }
  | .insertTelegramNonce row => { d with telegramAuthNonces := d.telegramAuthNonces ++ [row] }
  | .useTelegramNonce nonceHash =>
      { d with
        telegramAuthNonces := modify TelegramAuthNonce.nonceHash nonceHash
          (fun row => { row with status := .used }) d.telegramAuthNonces }
  | .insertResetToken row => { d with resetTokens := d.resetTokens ++ [row] }
  | .renewTvSubscription userId expiresAt =>
      { d with
        subscriptions := modify Subscription.userId userId (renewTv expiresAt) d.subscriptions }

def Write.needs : Write → List (Key × LockMode)
  | .insertSession row => [(.session row.id, .update), (.user row.userId, .keyShare)]
  | .updateSession loaded _ => [(.session loaded.id, .noKeyUpdate)]
  | .revokeSession id _ => [(.session id, .noKeyUpdate)]
  | .setPassword userId _ => [(.user userId, .noKeyUpdate)]
  | .useResetToken tokenHash _ => [(.resetToken tokenHash, .noKeyUpdate)]
  | .deleteSession _ id => [(.session id, .update)]
  | .deleteResetToken _ tokenHash => [(.resetToken tokenHash, .update)]
  | .updateUser loaded _ => [(.user loaded.id, .update)]
  | .insertPairingCode row => [(.pairingCode row.codeHash, .update)]
  | .updatePairingCode loaded row =>
      (.pairingCode loaded.codeHash, .noKeyUpdate) ::
        if row.userId = loaded.userId then []
        else row.userId.toList.map fun userId => (.user userId, .keyShare)
  | .insertUser row =>
      (.user row.id, .update) :: (.userEmail row.email, .update) ::
        row.telegramId.toList.map fun telegramId => (.userTelegramId telegramId, .update)
  | .setFullName userId _ => [(.user userId, .noKeyUpdate)]
  | .insertTelegramNonce row => [(.telegramNonce row.nonceHash, .update)]
  | .useTelegramNonce nonceHash => [(.telegramNonce nonceHash, .noKeyUpdate)]
  | .insertResetToken row => [(.resetToken row.tokenHash, .update), (.user row.userId, .keyShare)]
  | .renewTvSubscription userId _ => [(.subscription userId, .noKeyUpdate)]

instance : Database Db Key Write where
  apply w d := w.apply d
  needs := Write.needs

@[simp] theorem apply_eq (w : Write) (d : Db) : Database.apply w d = w.apply d := rfl

@[simp] theorem needs_eq (w : Write) : Database.needs Db w = w.needs := rfl

/-! ## One row after a write -/

def Write.onSession (id : Uuid) (row? : Option Session) : Write → Option Session
  | .insertSession row => row?.or (if row.id = id then some row else none)
  | .updateSession loaded row => if id = loaded.id then row?.map (flushSession loaded row) else row?
  | .revokeSession id' now => if id = id' then row?.map (Session.revoked now) else row?
  | .deleteSession _ id' => if id = id' then none else row?
  | _ => row?

def Write.onUser (id : Uuid) (row? : Option User) : Write → Option User
  | .setPassword userId hashed =>
      if id = userId then row?.map fun user => { user with passwordHash := some hashed } else row?
  | .updateUser loaded row => if id = loaded.id then row?.map (flushUser loaded row) else row?
  | .insertUser row => row?.or (if row.id = id then some row else none)
  | .setFullName userId name =>
      if id = userId then row?.map fun user => { user with fullName := name } else row?
  | _ => row?

def Write.onResetToken (tokenHash : String) (row? : Option PasswordResetToken) :
    Write → Option PasswordResetToken
  | .useResetToken tokenHash' now =>
      if tokenHash = tokenHash' then row?.map fun row => { row with usedAt := some now } else row?
  | .deleteResetToken _ tokenHash' => if tokenHash = tokenHash' then none else row?
  | .insertResetToken row => row?.or (if row.tokenHash = tokenHash then some row else none)
  | _ => row?

def Write.onPairingCode (codeHash : String) (row? : Option DevicePairingCode) :
    Write → Option DevicePairingCode
  | .insertPairingCode row => row?.or (if row.codeHash = codeHash then some row else none)
  | .updatePairingCode loaded row =>
      if codeHash = loaded.codeHash then row?.map (flushPairingCode loaded row) else row?
  | _ => row?

def Write.onTelegramNonce (nonceHash : String) (row? : Option TelegramAuthNonce) :
    Write → Option TelegramAuthNonce
  | .insertTelegramNonce row => row?.or (if row.nonceHash = nonceHash then some row else none)
  | .useTelegramNonce nonceHash' =>
      if nonceHash = nonceHash' then row?.map fun row => { row with status := .used } else row?
  | _ => row?

def Write.onSubscription (userId : Uuid) (row? : Option Subscription) :
    Write → Option Subscription
  | .renewTvSubscription userId' expiresAt =>
      if userId = userId' then row?.map (renewTv expiresAt) else row?
  | _ => row?

section

-- Its equations are derived here, once, and not by every proof below that unfolds it.
attribute [local simp] Write.apply

end

theorem Write.session?_apply (w : Write) (d : Db) (id : Uuid) :
    (w.apply d).session? id = w.onSession id (d.session? id) := by
  cases w with
  | insertSession row => exact lookup_append
  | updateSession loaded row => exact lookup_modify fun _ h => h
  | revokeSession id' now => exact lookup_modify fun _ h => h
  | deleteSession userId id' => exact lookup_remove
  | _ => rfl

theorem Write.user?_apply (w : Write) (d : Db) (id : Uuid) :
    (w.apply d).user? id = w.onUser id (d.user? id) := by
  cases w with
  | setPassword userId hashed => exact lookup_modify fun _ h => h
  | updateUser loaded row => exact lookup_modify fun _ h => h
  | insertUser row => exact lookup_append
  | setFullName userId name => exact lookup_modify fun _ h => h
  | _ => rfl

theorem Write.resetToken?_apply (w : Write) (d : Db) (tokenHash : String) :
    (w.apply d).resetToken? tokenHash = w.onResetToken tokenHash (d.resetToken? tokenHash) := by
  cases w with
  | useResetToken tokenHash' now => exact lookup_modify fun _ h => h
  | deleteResetToken userId tokenHash' => exact lookup_remove
  | insertResetToken row => exact lookup_append
  | _ => rfl

theorem Write.pairingCode?_apply (w : Write) (d : Db) (codeHash : String) :
    (w.apply d).pairingCode? codeHash = w.onPairingCode codeHash (d.pairingCode? codeHash) := by
  cases w with
  | insertPairingCode row => exact lookup_append
  | updatePairingCode loaded row => exact lookup_modify fun _ h => h
  | _ => rfl

theorem Write.telegramAuthNonce?_apply (w : Write) (d : Db) (nonceHash : String) :
    (w.apply d).telegramAuthNonce? nonceHash =
      w.onTelegramNonce nonceHash (d.telegramAuthNonce? nonceHash) := by
  cases w with
  | insertTelegramNonce row => exact lookup_append
  | useTelegramNonce nonceHash' => exact lookup_modify fun _ h => h
  | _ => rfl

theorem renewTv_userId (expiresAt : Instant) (row : Subscription) :
    (renewTv expiresAt row).userId = row.userId := by
  unfold renewTv
  split <;> rfl

theorem Write.subscription?_apply (w : Write) (d : Db) (userId : Uuid) :
    (w.apply d).subscription? userId = w.onSubscription userId (d.subscription? userId) := by
  cases w with
  | renewTvSubscription userId' expiresAt =>
      exact lookup_modify fun row h => (renewTv_userId expiresAt row).trans h
  | _ => rfl

theorem flush_loaded {α : Type} [DecidableEq α] (loaded new : α) :
    flush loaded new loaded = new := by
  unfold flush
  split
  · next h => exact h.symm
  · rfl

/-- A row that is flushed as it was loaded becomes the new row. -/
theorem flushSession_loaded {loaded row : Session} (hid : row.id = loaded.id)
    (huser : row.userId = loaded.userId) : flushSession loaded row loaded = row := by
  cases row
  simp_all [flushSession, flush_loaded]

theorem flushPairingCode_loaded {loaded row : DevicePairingCode}
    (hhash : row.codeHash = loaded.codeHash) (hexpires : row.expiresAt = loaded.expiresAt) :
    flushPairingCode loaded row loaded = row := by
  cases row
  simp_all [flushPairingCode, flush_loaded]

/-! ## What a lock protects -/

/-- The row a lock protects, in every mode above `FOR KEY SHARE`; an index entry keeps
other inserts out and protects no row. -/
def Protected (mode : LockMode) (d d' : Db) : Key → Prop
  | .user id => mode ≠ .keyShare → d.user? id = d'.user? id
  | .session id => mode ≠ .keyShare → d.session? id = d'.session? id
  | .resetToken tokenHash => mode ≠ .keyShare → d.resetToken? tokenHash = d'.resetToken? tokenHash
  | .pairingCode codeHash => mode ≠ .keyShare → d.pairingCode? codeHash = d'.pairingCode? codeHash
  | .telegramNonce nonceHash =>
      mode ≠ .keyShare → d.telegramAuthNonce? nonceHash = d'.telegramAuthNonce? nonceHash
  | .subscription userId => mode ≠ .keyShare → d.subscription? userId = d'.subscription? userId
  | .userEmail _ => True
  | .userTelegramId _ => True

/-- A write holds no lock on the key that keeps others from writing it. -/
def Write.Spares (w : Write) (k : Key) : Prop :=
  (k, .noKeyUpdate) ∉ w.needs ∧ (k, .update) ∉ w.needs

theorem Write.spares_of_compatible {w : Write} {k : Key} {mode : LockMode}
    (hmode : mode ≠ .keyShare) (h : ∀ m', (k, m') ∈ w.needs → mode.conflicts m' = false) :
    w.Spares k := by
  constructor <;> intro hmem <;> have := h _ hmem <;> cases mode <;>
    simp [LockMode.conflicts] at this hmode

theorem Write.onUser_of_spares {w : Write} {id : Uuid} (h : w.Spares (.user id))
    (row? : Option User) : w.onUser id row? = row? := by
  cases w <;> simp_all [Write.onUser, Write.Spares, Write.needs, eq_comm]

theorem Write.onSession_of_spares {w : Write} {id : Uuid} (h : w.Spares (.session id))
    (row? : Option Session) : w.onSession id row? = row? := by
  cases w <;> simp_all [Write.onSession, Write.Spares, Write.needs, eq_comm]

theorem Write.onResetToken_of_spares {w : Write} {tokenHash : String}
    (h : w.Spares (.resetToken tokenHash)) (row? : Option PasswordResetToken) :
    w.onResetToken tokenHash row? = row? := by
  cases w <;> simp_all [Write.onResetToken, Write.Spares, Write.needs, eq_comm]

theorem Write.onPairingCode_of_spares {w : Write} {codeHash : String}
    (h : w.Spares (.pairingCode codeHash)) (row? : Option DevicePairingCode) :
    w.onPairingCode codeHash row? = row? := by
  cases w <;> simp_all [Write.onPairingCode, Write.Spares, Write.needs, eq_comm]

theorem Write.onTelegramNonce_of_spares {w : Write} {nonceHash : String}
    (h : w.Spares (.telegramNonce nonceHash)) (row? : Option TelegramAuthNonce) :
    w.onTelegramNonce nonceHash row? = row? := by
  cases w <;> simp_all [Write.onTelegramNonce, Write.Spares, Write.needs, eq_comm]

theorem Write.onSubscription_of_spares {w : Write} {userId : Uuid}
    (h : w.Spares (.subscription userId)) (row? : Option Subscription) :
    w.onSubscription userId row? = row? := by
  cases w <;> simp_all [Write.onSubscription, Write.Spares, Write.needs, eq_comm]

instance : LawfulDatabase Db Key Write where
  Agree k mode d d' := Protected mode d d' k
  agree_refl k mode d := by
    cases k <;> simp [Protected]
  agree_trans {k mode d d' d''} h h' := by
    cases k <;> first | trivial | exact fun hm => (h hm).trans (h' hm)
  agree_congr {k mode d d'} w h := by
    cases k with
    | user id =>
        intro hm
        rw [apply_eq, apply_eq, Write.user?_apply, Write.user?_apply, h hm]
    | session id =>
        intro hm
        rw [apply_eq, apply_eq, Write.session?_apply, Write.session?_apply, h hm]
    | resetToken tokenHash =>
        intro hm
        rw [apply_eq, apply_eq, Write.resetToken?_apply, Write.resetToken?_apply, h hm]
    | pairingCode codeHash =>
        intro hm
        rw [apply_eq, apply_eq, Write.pairingCode?_apply, Write.pairingCode?_apply, h hm]
    | telegramNonce nonceHash =>
        intro hm
        rw [apply_eq, apply_eq, Write.telegramAuthNonce?_apply, Write.telegramAuthNonce?_apply,
          h hm]
    | subscription userId =>
        intro hm
        rw [apply_eq, apply_eq, Write.subscription?_apply, Write.subscription?_apply, h hm]
    | userEmail | userTelegramId => trivial
  agree_apply w d k mode h := by
    cases k with
    | user id =>
        intro hm
        rw [apply_eq, Write.user?_apply,
          Write.onUser_of_spares (Write.spares_of_compatible hm h)]
    | session id =>
        intro hm
        rw [apply_eq, Write.session?_apply,
          Write.onSession_of_spares (Write.spares_of_compatible hm h)]
    | resetToken tokenHash =>
        intro hm
        rw [apply_eq, Write.resetToken?_apply,
          Write.onResetToken_of_spares (Write.spares_of_compatible hm h)]
    | pairingCode codeHash =>
        intro hm
        rw [apply_eq, Write.pairingCode?_apply,
          Write.onPairingCode_of_spares (Write.spares_of_compatible hm h)]
    | telegramNonce nonceHash =>
        intro hm
        rw [apply_eq, Write.telegramAuthNonce?_apply,
          Write.onTelegramNonce_of_spares (Write.spares_of_compatible hm h)]
    | subscription userId =>
        intro hm
        rw [apply_eq, Write.subscription?_apply,
          Write.onSubscription_of_spares (Write.spares_of_compatible hm h)]
    | userEmail | userTelegramId => trivial

end MovieApi.Accounts.Concurrent
