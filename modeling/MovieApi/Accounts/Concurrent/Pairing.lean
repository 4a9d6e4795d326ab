import MovieApi.Accounts.Concurrent.Conduct
import MovieApi.ReadCommitted.History

/-!
# Pairing codes

The transactions of `services/device_pairing.py`, and what can be committed for a
code: it is opened, a phone confirms it and starts a session, and a poll consumes
the token of that session.
-/

namespace MovieApi.Accounts.Concurrent

open ReadCommitted ReadCommitted.Prog Sql

/-! ## Transactions -/

def codeExpired : Err := .notFound "This code has expired."

/-- `start_pairing`; `rawCode` is what `generate_reset_token` draws. -/
def startPairing (hashing : Hashing) (expireMinutes : Int) (rawCode : String) : Prog Unit := do
  let codeHash := hashing.hashResetToken rawCode
  let now ← utcNow
  if ← enter (.pairingCode codeHash) fun d => (d.pairingCode? codeHash).isSome then
    write (.insertPairingCode
      { codeHash := codeHash, status := .pending, token := none, userId := none,
        expiresAt := now + minutes expireMinutes })
    commit
  else
    reject (.raised .integrity)

/-- `SELECT … FOR UPDATE` on a pairing code. -/
def lockPairingCode (codeHash : String) : Prog (Option DevicePairingCode) := do
  if ← select fun d => (d.pairingCode? codeHash).isSome then
    lock (.pairingCode codeHash) .update
    select fun d => d.pairingCode? codeHash
  else
    return none

/-- `_find_pending_or_confirmed`. -/
def findPendingOrConfirmed (hashing : Hashing) (rawCode : String) : Prog DevicePairingCode := do
  let found ← lockPairingCode (hashing.hashResetToken rawCode)
  let now ← utcNow
  session fun info => ((), { info with checkedAt := some now })
  match found.filter fun pairing =>
      decide (now ≤ pairing.expiresAt ∧ pairing.status ≠ .expired) with
  | none => fail codeExpired
  | some pairing => return pairing

/-- `confirm_pairing`. -/
def confirmPairing (hashing : Hashing) (settings : Settings) (rawCode : String) (user : User) :
    Prog Unit := do
  let pairing ← findPendingOrConfirmed hashing rawCode
  if pairing.status ≠ .pending then
    fail codeExpired
  else
    let session ← createSession settings user.id
    let now ← utcNow
    let token := createAccessToken settings now user session.id 0
    write (.updatePairingCode pairing
      { pairing with token := some token, userId := some user.id, status := .confirmed })
    commit

/-- `poll_pairing`; the token it returns stays in its notes. -/
def pollPairing (hashing : Hashing) (rawCode : String) : Prog Unit := do
  let pairing ← findPendingOrConfirmed hashing rawCode
  if pairing.status = .pending then
    return ()
  else
    session fun info => ((), { info with token := pairing.token })
    write (.updatePairingCode pairing { pairing with status := .expired, token := none })
    commit

inductive PairingRequest where
  | start (rawCode : String)
  | confirm (rawCode : String) (user : User)
  | poll (rawCode : String)

def PairingRequest.prog (hashing : Hashing) (settings : Settings) (expireMinutes : Int) :
    PairingRequest → Prog Unit
  | .start rawCode => closing (startPairing hashing expireMinutes rawCode)
  | .confirm rawCode user => closing (confirmPairing hashing settings rawCode user)
  | .poll rawCode => closing (pollPairing hashing rawCode)

/-- Any number of televisions and phones; session `t` runs request `t`. -/
def startPairings (hashing : Hashing) (settings : Settings) (expireMinutes : Int) (d : Db)
    (world : World) (requests : Tid → PairingRequest) : Pool where
  store := .idle d .empty world
  progs t := (requests t).prog hashing settings expireMinutes

/-- The token that the poll of session `t` has returned. -/
def polled (q : Pool) (t : Tid) : Option Claims :=
  match q.progs t with
  | .ret _ => (q.store.info t).token
  | _ => none

/-- Session `t` has raised an error. -/
def raised (q : Pool) (t : Tid) : Bool :=
  match q.progs t with
  | .raise _ => true
  | _ => false

/-! ## What is committed -/

/-- One change of a pairing code, with the clock as its session read it under the
code's lock. -/
inductive Pairing where
  | opened (pairing : DevicePairingCode)
  | confirmed (pairing : DevicePairingCode) (user : User) (session : Session) (token : Claims)
      (now : Instant)
  | consumed (pairing : DevicePairingCode) (now : Instant)

namespace Pairing

def codeHash : Pairing → String
  | opened pairing => pairing.codeHash
  | confirmed pairing _ _ _ _ => pairing.codeHash
  | consumed pairing _ => pairing.codeHash

/-- The session that is created. -/
def session : Pairing → Option Session
  | confirmed _ _ session _ _ => some session
  | _ => none

/-- The code after it. -/
def code : Pairing → DevicePairingCode
  | opened pairing => pairing
  | confirmed pairing user _ token _ =>
      { pairing with token := some token, userId := some user.id, status := .confirmed }
  | consumed pairing _ => { pairing with status := .expired, token := none }

def writes : Pairing → List Write
  | opened pairing => [.insertPairingCode pairing]
  | confirmed pairing user session token now =>
      [.insertSession session,
        .updatePairingCode pairing (confirmed pairing user session token now).code]
  | consumed pairing now => [.updatePairingCode pairing (consumed pairing now).code]

/-- What a change finds. -/
def Enabled (d : Db) : Pairing → Prop
  | opened pairing => d.pairingCode? pairing.codeHash = none ∧ pairing.status = .pending
  | confirmed pairing _ _ _ _ =>
      d.pairingCode? pairing.codeHash = some pairing ∧ pairing.status = .pending
  | consumed pairing _ =>
      d.pairingCode? pairing.codeHash = some pairing ∧ pairing.status = .confirmed

/-- A request that makes a change: a confirm starts a session of its user, and it and
a poll find the code within its time. -/
inductive By (hashing : Hashing) : PairingRequest → Pairing → Prop
  | start {rawCode pairing} : pairing.codeHash = hashing.hashResetToken rawCode →
      By hashing (.start rawCode) (opened pairing)
  | confirm {rawCode user pairing session token now} :
      pairing.codeHash = hashing.hashResetToken rawCode → now ≤ pairing.expiresAt →
      session.userId = user.id → token.sub = user.id → token.sid = session.id →
      By hashing (.confirm rawCode user) (confirmed pairing user session token now)
  | poll {rawCode pairing now} :
      pairing.codeHash = hashing.hashResetToken rawCode → now ≤ pairing.expiresAt →
      By hashing (.poll rawCode) (consumed pairing now)

/-- The notes of a session that commits a change. -/
def Noted (info : Info) : Pairing → Prop
  | opened _ => info.token = none
  | confirmed _ _ _ _ now => info.checkedAt = some now ∧ info.token = none
  | consumed pairing now => info.checkedAt = some now ∧ info.token = pairing.token

end Pairing

/-- The changes that the requests of a pool may make. -/
def pairingChanges (hashing : Hashing) (requests : Tid → PairingRequest) :
    Changes Db Write Info Pairing where
  writes := Pairing.writes
  Enabled change d := change.Enabled d
  By t change := Pairing.By hashing (requests t) change
  Noted change info := change.Noted info

end MovieApi.Accounts.Concurrent
