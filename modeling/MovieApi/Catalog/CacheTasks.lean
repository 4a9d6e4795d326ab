import MovieApi.Catalog.ResponseCache

/-!
# Cache calls of many tasks

The cached reads and the invalidations of all workers, one step per await: a
task stops at every call to Redis and while its factory runs, and the other
tasks go on meanwhile.  What a factory computed is told by the state of the
database it read and by the times it started and finished.
-/

namespace MovieApi.Catalog

/-- Times are in microseconds here. -/
def micros (seconds : Int) : Int := seconds * 1000000

/-- What a factory computed.  The state of the database is counted in admin
writes. -/
structure Payload where
  version : Nat
  started : Int
  finished : Int
deriving DecidableEq, Repr

/-- A cached value.  A copy made from Redis carries the deadline that the key had
there. -/
structure Cached extends Payload where
  copiedFrom : Option Int
deriving DecidableEq, Repr

/-- The keys that `cache_delete` or `cache_delete_prefix` drops. -/
inductive Selection where
  | exactly (key : String)
  | starting (start : String)
deriving DecidableEq, Repr

def Selection.affects : Selection → String → Bool
  | .exactly key, other => decide (other = key)
  | .starting start, other => start.toList.isPrefixOf other.toList

def Selection.raise (selection : Selection) (version : Nat) (valid : String → Nat) (key : String) :
    Nat :=
  if selection.affects key then max version (valid key) else valid key

def Selection.inRedis : Selection → Selection
  | .exactly key => .exactly (redisKeyPrefix ++ key)
  | .starting start => .starting (redisKeyPrefix ++ start)

/-! ## Tasks -/

/-- Where a task is.  `since` is the newest state of the database for which an
invalidation of the key had completed when the read began; `returns` says whether
the value is the answer to a read or stored by a call of `cache_set_async`. -/
inductive TaskPhase where
  | idle
  /-- The key was not in L1, its value is asked from Redis. -/
  | asking (key : String) (since : Nat) (fill : Bool)
  /-- Redis has answered, the answer is on its way. -/
  | answered (key : String) (since : Nat) (fill : Bool) (found : Option (CacheEntry Cached))
  /-- The factory runs; `read` is the state of the database it has read. -/
  | computing (key : String) (since : Nat) (returns : Bool) (started : Int) (read : Option Nat)
  /-- The value is in L1 and sent to Redis. -/
  | storing (key : String) (since : Nat) (returns : Bool) (value : Payload)
  | stored (key : String) (since : Nat) (returns : Bool) (value : Payload)
  /-- An admin's request that has committed. -/
  | wrote (version : Nat)
  /-- L1 is clean; `keys` are the keys of Redis to delete, once they are known. -/
  | deleting (version : Nat) (selection : Selection) (keys : Option (List String))
deriving DecidableEq, Repr

/-- A value some read returned. -/
structure Answer where
  key : String
  since : Nat
  time : Int
  value : Payload
deriving DecidableEq, Repr

/-- `cached` holds what the workers and Redis have, `valid` the state of the
database from which an invalidation of a key lets its values be, `answers` what
the reads so far returned. -/
structure Site where
  now : Int
  version : Nat
  cached : Caches Cached
  tasks : Nat → TaskPhase
  valid : String → Nat
  answers : List Answer

/-- Which worker a task runs on and what its clock shows at time zero, and the
`ttl_seconds` of the calls, in microseconds. -/
structure Setup where
  worker : Nat → Nat
  clock : Nat → Int
  ttl : Int

def catalogTtl : Int := micros catalogTtlSeconds

/-- `max(1, int(ttl_seconds))` seconds. -/
def redisTtl (ttl : Int) : Int :=
  micros (max 1 (ttl / 1000000))

namespace Site

variable (setup : Setup)

def enter (s : Site) (task : Nat) (phase : TaskPhase) : Site :=
  { s with tasks := Function.update s.tasks task phase }

def answer (s : Site) (key : String) (since : Nat) (value : Payload) : Site :=
  { s with answers := s.answers ++ [⟨key, since, s.now, value⟩] }

def workerNow (s : Site) (task : Nat) : Int :=
  s.now + setup.clock (setup.worker task)

def setL1 (s : Site) (task : Nat) (cache : CacheDict Cached) : Site :=
  { s with cached := s.cached.setL1 (setup.worker task) cache }

/-- `cache_set` on the worker of the task. -/
def store (s : Site) (task : Nat) (key : String) (value : Cached) (ttl : Int) : Site :=
  s.setL1 setup task
    (cacheSet (s.cached.l1 (setup.worker task)) key value ttl (s.workerNow setup task))

/-! ## Reads -/

/-- `cache_get_async` up to its await; `fill` for a call of `cache_get_or_set`. -/
def lookup (s : Site) (task : Nat) (key : String) (fill : Bool) : Site :=
  let (found, cache) := cacheGet (s.cached.l1 (setup.worker task)) key (s.workerNow setup task)
  let s := s.setL1 setup task cache
  match found with
  | some value => s.answer key (s.valid key) value.toPayload
  | none => s.enter task (.asking key (s.valid key) fill)

/-- Redis executes the `GET`, or the call fails. -/
def get (s : Site) (task : Nat) (key : String) (since : Nat) (fill up : Bool) : Site :=
  let found := if up then (s.cached.l2.get? (redisKeyPrefix ++ key)).filter fun entry =>
      decide (s.now < entry.expiresAt)
    else none
  s.enter task (.answered key since fill found)

/-- The answer to the `GET` arrives.  A hit is copied into L1 for
`CATALOG_TTL_SECONDS`, after a miss `cache_get_or_set` calls the factory. -/
def hear (s : Site) (task : Nat) (key : String) (since : Nat) (fill : Bool)
    (found : Option (CacheEntry Cached)) : Site :=
  match found with
  | some entry =>
      let copy := { entry.value with copiedFrom := some entry.expiresAt }
      ((s.store setup task key copy catalogTtl).answer key since copy.toPayload).enter task .idle
  | none =>
      if fill then s.enter task (.computing key since true s.now none) else s.enter task .idle

/-- The factory is done, and `cache_set_async` runs up to its await. -/
def finish (s : Site) (task : Nat) (key : String) (since : Nat) (returns : Bool) (started : Int)
    (version : Nat) : Site :=
  let value : Payload := ⟨version, started, s.now⟩
  (s.store setup task key ⟨value, none⟩ setup.ttl).enter task (.storing key since returns value)

/-- Redis executes the `SET`, or the call fails. -/
def set (s : Site) (task : Nat) (key : String) (since : Nat) (returns : Bool) (value : Payload)
    (up : Bool) : Site :=
  let l2 := if up then
      s.cached.l2.put (redisKeyPrefix ++ key) ⟨s.now + redisTtl setup.ttl, ⟨value, none⟩⟩
    else s.cached.l2
  { s with cached := { s.cached with l2 } }.enter task (.stored key since returns value)

def done (s : Site) (task : Nat) (key : String) (since : Nat) (returns : Bool) (value : Payload) :
    Site :=
  (if returns then s.answer key since value else s).enter task .idle

/-! ## Invalidations -/

/-- An admin's request commits. -/
def write (s : Site) (task : Nat) : Site :=
  { s with version := s.version + 1 }.enter task (.wrote (s.version + 1))

/-- `cache_delete` and `cache_delete_prefix` up to their await. -/
def invalidate (s : Site) (task : Nat) (version : Nat) (selection : Selection) : Site :=
  let cache := (s.cached.l1 (setup.worker task)).filter fun item => !selection.affects item.1
  (s.setL1 setup task cache).enter task (.deleting version selection (match selection with
    | .exactly key => some [redisKeyPrefix ++ key]
    | .starting _ => none))

/-- The call is over: from now on reads of the keys should see `version`. -/
def invalidated (s : Site) (task : Nat) (version : Nat) (selection : Selection) : Site :=
  { s with valid := selection.raise version s.valid }.enter task (.wrote version)

/-- `SCAN`, which ends the call when it fails. -/
def scan (s : Site) (task : Nat) (version : Nat) (selection : Selection) (up : Bool) : Site :=
  if up then s.enter task (.deleting version selection
    (some ((s.cached.l2.map (·.1)).filter selection.inRedis.affects)))
  else s.invalidated task version selection

/-- `DEL`, which ends the call, executed or not. -/
def delete (s : Site) (task : Nat) (version : Nat) (selection : Selection) (keys : List String)
    (up : Bool) : Site :=
  let l2 := if up then s.cached.l2.filter fun item => decide (item.1 ∉ keys) else s.cached.l2
  { s with cached := { s.cached with l2 } }.invalidated task version selection

end Site

/-! ## Steps -/

/-- What a task does next, or time passing.  `up` tells whether a call to Redis
gets through. -/
inductive CacheAction where
  | lookup (task : Nat) (key : String) (fill : Bool)
  /-- The caller of `cache_set_async` starts to compute. -/
  | compute (task : Nat) (key : String)
  | resume (task : Nat) (up : Bool)
  | write (task : Nat)
  | invalidate (task : Nat) (selection : Selection)
  | wait (d : Nat)
deriving DecidableEq, Repr

def Site.resume (setup : Setup) (s : Site) (task : Nat) (up : Bool) : Site :=
  match s.tasks task with
  | .idle | .wrote _ => s
  | .asking key since fill => s.get task key since fill up
  | .answered key since fill found => s.hear setup task key since fill found
  | .computing key since returns started none =>
      s.enter task (.computing key since returns started (some s.version))
  | .computing key since returns started (some version) =>
      s.finish setup task key since returns started version
  | .storing key since returns value => s.set setup task key since returns value up
  | .stored key since returns value => s.done task key since returns value
  | .deleting version selection none => s.scan task version selection up
  | .deleting version selection (some keys) => s.delete task version selection keys up

def Site.next (setup : Setup) (s : Site) : CacheAction → Site
  | .lookup task key fill => if s.tasks task = .idle then s.lookup setup task key fill else s
  | .compute task key =>
      if s.tasks task = .idle then s.enter task (.computing key (s.valid key) false s.now none)
      else s
  | .resume task up => s.resume setup task up
  | .write task => match s.tasks task with
    | .idle | .wrote _ => s.write task
    | _ => s
  | .invalidate task selection => match s.tasks task with
    | .wrote version => s.invalidate setup task version selection
    | _ => s
  | .wait d => { s with now := s.now + d }

/-- Empty caches, no task and a database nobody has invalidated anything of. -/
def Site.fresh (now : Int) : Site where
  now := now
  version := 0
  cached := .empty
  tasks := fun _ => .idle
  valid := fun _ => 0
  answers := []

end MovieApi.Catalog
