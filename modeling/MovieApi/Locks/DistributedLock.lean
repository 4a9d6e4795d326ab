import Mathlib

/-!
# Locks of the background loops

`distributed_lock.py` takes one Redis key with `SET NX EX` and falls back on a
file lock when Redis does not answer.  A refresh reads the key and then extends
it, a release reads the key and then deletes it.  Each function below is one
command of these methods with what the method does up to the next command.
-/

namespace MovieApi.Locks

/-- Times are in microseconds. -/
def seconds (n : Int) : Int := n * 1000000

/-- One call of `try_acquire`.  The token it draws is its own, so it stands for
the token too. -/
abbrev Handle := Nat

/-! ## State -/

/-- The Redis key of the lock. -/
structure Entry where
  token : Handle
  deadline : Int
deriving DecidableEq, Repr

inductive Backend where
  | redis | flock
deriving DecidableEq, Repr

/-- Where a handle is.  `reported` is the time of the last acquire or refresh if
that one reported the lock as held. -/
inductive Phase where
  /-- `try_acquire` is about to set the key. -/
  | idle
  /-- The key could not be set for an error, the file lock is next. -/
  | fallback
  | refused
  | held (backend : Backend) (reported : Option Int)
  /-- `refresh` has read its token and is about to extend the key. -/
  | extending (reported : Option Int)
  /-- `release` has read its token and is about to delete the key. -/
  | deleting (reported : Option Int)
  | released
deriving DecidableEq, Repr

structure State where
  now : Int
  key : Option Entry
  flock : Option Handle
  phase : Handle → Phase

def State.enter (s : State) (h : Handle) (phase : Phase) : State :=
  { s with phase := Function.update s.phase h phase }

/-- What becomes of a call to Redis.  A call may fail before the command is
carried out, or only its answer be lost; without a client every call fails. -/
inductive Reply where
  | answered | lost | failed
deriving DecidableEq, Repr

def Reply.executed (reply : Reply) : Bool :=
  decide (reply ≠ .failed)

/-! ## `try_acquire` -/

def lockTtl (ttlSeconds : Int) : Int :=
  seconds (max 30 ttlSeconds)

/-- `SET name token NX EX ttl`. -/
def acquireRedis (ttl : Int) (h : Handle) (reply : Reply) (s : State) : State :=
  let key := if reply.executed && s.key.isNone then some ⟨h, s.now + ttl⟩ else s.key
  let phase : Phase := match reply with
    | .answered => if s.key.isNone then .held .redis (some s.now) else .refused
    | _ => .fallback
  { s with key }.enter h phase

/-- `flock(LOCK_EX | LOCK_NB)`. -/
def acquireFlock (h : Handle) (s : State) : State :=
  match s.flock with
  | none => { s with flock := some h }.enter h (.held .flock (some s.now))
  | some _ => s.enter h .refused

/-! ## `HeldLock.refresh` -/

def State.holdsToken (s : State) (h : Handle) : Bool :=
  decide (s.key.map (·.token) = some h)

def refreshGet (h : Handle) (reported : Option Int) (reply : Reply) (s : State) : State :=
  if reply = Reply.answered ∧ s.holdsToken h then s.enter h (.extending reported)
  else s.enter h (.held .redis none)

/-- `EXPIRE name ttl`, which extends the key whoever's token it holds. -/
def refreshExpire (ttl : Int) (h : Handle) (reply : Reply) (s : State) : State :=
  let key := if reply.executed then s.key.map fun entry => { entry with deadline := s.now + ttl }
    else s.key
  { s with key }.enter h (.held .redis (if reply = Reply.answered then some s.now else none))

/-- A file lock is held for the life of the process. -/
def refreshFlock (h : Handle) (s : State) : State :=
  s.enter h (.held .flock (some s.now))

/-! ## `HeldLock.release` -/

def releaseGet (h : Handle) (reported : Option Int) (reply : Reply) (s : State) : State :=
  if reply = Reply.answered ∧ s.holdsToken h then s.enter h (.deleting reported)
  else s.enter h .released

/-- `DEL name`, whoever's token the key holds. -/
def releaseDelete (h : Handle) (reply : Reply) (s : State) : State :=
  { s with key := if reply.executed then none else s.key }.enter h .released

def releaseFlock (h : Handle) (s : State) : State :=
  { s with flock := none }.enter h .released

/-! ## Steps -/

inductive Action where
  | acquire (h : Handle) (reply : Reply)
  | refresh (h : Handle) (reply : Reply)
  | release (h : Handle) (reply : Reply)
  /-- Redis drops the key once its time is over. -/
  | expire
  | wait (d : Nat)
deriving DecidableEq, Repr

/-- The next command of a handle that is inside `try_acquire`, `refresh` or
`release`, or the first one of a `refresh` or `release` that is called now. -/
def next (ttlSeconds : Handle → Int) (s : State) : Action → State
  | .acquire h reply => match s.phase h with
    | .idle => acquireRedis (lockTtl (ttlSeconds h)) h reply s
    | .fallback => acquireFlock h s
    | _ => s
  | .refresh h reply => match s.phase h with
    | .held .redis reported => refreshGet h reported reply s
    | .extending _ => refreshExpire (lockTtl (ttlSeconds h)) h reply s
    | .held .flock _ => refreshFlock h s
    | _ => s
  | .release h reply => match s.phase h with
    | .held .redis reported => releaseGet h reported reply s
    | .deleting _ => releaseDelete h reply s
    | .held .flock _ => releaseFlock h s
    | _ => s
  | .expire => if s.key.any fun entry => decide (entry.deadline ≤ s.now) then { s with key := none }
    else s
  | .wait d => { s with now := s.now + d }

def start (now : Int) : State :=
  { now, key := none, flock := none, phase := fun _ => .idle }

end MovieApi.Locks
