import MovieApi.Billing.Session

/-!
# The breaker of NBC checks

What one worker process remembers of its checks (`bakong_check_cache.py`), and
the point in time until which all checks stop (`bakong_quota.py`), which the
workers share through Redis while it answers.
-/

namespace MovieApi.NbcChecks

open Billing

def seconds (n : Int) : Int := n * 1000000

/-! ## Clocks -/

abbrev WorkerId := Nat

/-- When each worker's monotonic clock stood at zero. -/
abbrev Clocks := WorkerId → Instant

def Clocks.monotonic (clocks : Clocks) (w : WorkerId) (now : Instant) : Instant := now - clocks w

/-! ## Memory -/

/-- A Python dictionary, oldest item first. -/
abbrev Dict (V : Type) := List (String × V)

namespace Dict

variable {V : Type}

def get? (d : Dict V) (key : String) : Option V := (d.find? fun item => item.1 = key).map Prod.snd

def del (d : Dict V) (key : String) : Dict V := d.filter fun item => item.1 ≠ key

def put (d : Dict V) (key : String) (value : V) : Dict V :=
  if d.any fun item => item.1 = key then
    d.map fun item => if item.1 = key then (key, value) else item
  else d ++ [(key, value)]

def keys (d : Dict V) : List String := d.map Prod.fst

variable {d : Dict V} {key key' : String} {value : V}

theorem get?_eq_none : d.get? key = none ↔ key ∉ d.keys := by
  simp only [get?, Option.map_eq_none_iff, List.find?_eq_none, keys, List.mem_map,
    decide_eq_true_eq]
  constructor
  · rintro h ⟨item, hmem, rfl⟩
    exact h item hmem rfl
  · intro h item hmem hkey
    exact h ⟨item, hmem, hkey⟩

theorem put_of_mem (h : key ∈ d.keys) :
    d.put key value = d.map fun item => if item.1 = key then (key, value) else item := by
  obtain ⟨item, hmem, rfl⟩ := List.mem_map.1 h
  have hany : d.any (fun other => other.1 = item.1) = true :=
    List.any_eq_true.2 ⟨item, hmem, decide_eq_true rfl⟩
  rw [put, if_pos hany]

theorem put_of_not_mem (h : key ∉ d.keys) : d.put key value = d ++ [(key, value)] := by
  have hany : ¬ d.any (fun item => item.1 = key) = true := by
    intro hany
    obtain ⟨item, hmem, hkey⟩ := List.any_eq_true.1 hany
    exact h (List.mem_map.2 ⟨item, hmem, of_decide_eq_true hkey⟩)
  rw [put, if_neg hany]

theorem keys_put_of_mem (h : key ∈ d.keys) : (d.put key value).keys = d.keys := by
  rw [put_of_mem h, keys, keys, List.map_map]
  refine List.map_congr_left fun item _ => ?_
  by_cases hkey : item.1 = key <;> simp [hkey]

theorem keys_put_of_not_mem (h : key ∉ d.keys) : (d.put key value).keys = d.keys ++ [key] := by
  simp [put_of_not_mem h, keys]

theorem get?_put_self : (d.put key value).get? key = some value := by
  by_cases h : key ∈ d.keys
  · rw [put_of_mem h, get?, List.find?_map]
    obtain ⟨item, hmem, hkey⟩ := List.mem_map.1 h
    have hsome : (d.find? fun item => decide (item.1 = key)).isSome = true :=
      List.find?_isSome.2 ⟨item, hmem, decide_eq_true hkey⟩
    obtain ⟨found, hfound⟩ := Option.isSome_iff_exists.1 hsome
    have hfoundKey : found.1 = key := by simpa using List.find?_some hfound
    have hsame : ((fun other : String × V => decide (other.1 = key)) ∘
        fun item => if item.1 = key then (key, value) else item) =
          fun item => decide (item.1 = key) := by
      funext item
      by_cases hitem : item.1 = key <;> simp [hitem]
    rw [hsame, hfound]
    simp [hfoundKey]
  · rw [put_of_not_mem h, get?, List.find?_append]
    have hnone : (d.find? fun item => decide (item.1 = key)) = none := by
      simpa [get?] using get?_eq_none.2 h
    simp [hnone]

theorem get?_put_of_ne (hne : key ≠ key') : (d.put key' value).get? key = d.get? key := by
  by_cases h : key' ∈ d.keys
  · have hsame : ((fun other : String × V => decide (other.1 = key)) ∘
        fun item => if item.1 = key' then (key', value) else item) =
          fun item => decide (item.1 = key) := by
      funext item
      by_cases hitem : item.1 = key'
      · simp [hitem]
      · simp [hitem]
    rw [put_of_mem h, get?, List.find?_map, hsame, Option.map_map, get?]
    cases hfound : d.find? fun item => decide (item.1 = key) with
    | none => rfl
    | some found =>
        have hfoundKey : found.1 = key := by simpa using List.find?_some hfound
        simp [hfoundKey, hne]
  · rw [put_of_not_mem h, get?, get?, List.find?_append]
    simp [Ne.symm hne]

/-- Items that are dropped matter to their own keys only. -/
theorem get?_drop {n : Nat} (h : key ∉ (d.take n).map Prod.fst) :
    Dict.get? (d.drop n) key = d.get? key := by
  have hnone : (d.take n).find? (fun item => decide (item.1 = key)) = none := by
    simpa [get?] using (get?_eq_none (d := d.take n)).2 h
  conv_rhs => rw [get?, ← List.take_append_drop n d, List.find?_append, hnone]
  simp [get?]

theorem get?_del_of_ne (hne : key ≠ key') : (d.del key').get? key = d.get? key := by
  rw [del, get?, get?, List.find?_filter]
  congr 2
  funext item
  by_cases hkey : item.1 = key
  · simp [hkey, hne]
  · simp [hkey]

theorem get?_filter {p : String × V → Bool} (h : d.get? key = some value)
    (hp : p (key, value) = true) : Dict.get? (d.filter p) key = some value := by
  induction d with
  | nil => cases h
  | cons item d ih =>
      obtain ⟨key', value'⟩ := item
      by_cases hkey : key' = key
      · subst hkey
        obtain rfl : value' = value := by simpa [get?] using h
        simp [get?, hp]
      · have hrest : Dict.get? d key = some value := by simpa [get?, hkey] using h
        cases hitem : p (key', value') with
        | true => simpa [get?, hitem, hkey] using ih hrest
        | false => simpa [hitem] using ih hrest

theorem get?_del_self : (d.del key).get? key = none := by
  rw [get?_eq_none]
  simp [keys, del]

theorem keys_put_nodup (h : d.keys.Nodup) : (d.put key value).keys.Nodup := by
  by_cases hmem : key ∈ d.keys
  · rwa [keys_put_of_mem hmem]
  · rw [keys_put_of_not_mem hmem]
    exact List.nodup_append.2 ⟨h, by simp, fun a ha b hb => by
      rw [List.mem_singleton.1 hb]
      exact fun heq => hmem (heq ▸ ha)⟩

theorem mem_of_get? (h : d.get? key = some value) : (key, value) ∈ d := by
  obtain ⟨item, hitem, hvalue⟩ := Option.map_eq_some_iff.1 h
  have hkey : item.1 = key := by simpa using List.find?_some hitem
  rw [← hkey, ← hvalue]
  exact List.mem_of_find?_eq_some hitem

theorem get?_of_mem (hnodup : d.keys.Nodup) (h : (key, value) ∈ d) :
    d.get? key = some value := by
  induction d with
  | nil => cases h
  | cons item d ih =>
      obtain ⟨hfirst, hrest⟩ := List.nodup_cons.1 hnodup
      rcases List.mem_cons.1 h with rfl | hmem
      · simp [get?]
      · have hne : item.1 ≠ key := by
          rintro rfl
          exact hfirst (List.mem_map.2 ⟨(item.1, value), hmem, rfl⟩)
        have hd : Dict.get? d key = some value := ih hrest hmem
        simpa [get?, hne] using hd

end Dict

structure Memory where
  blockedUntil : Instant
  /-- the sweeper's own pause -/
  rateLimitUntil : Instant
  /-- statuses with their deadlines -/
  md5Cache : Dict (ProbeStatus × Instant)
  intentPolledAt : Dict Instant
  /-- checks used, and when the window started -/
  intentNbcChecks : Dict (Nat × Instant)
deriving DecidableEq, Repr

def Memory.empty : Memory := ⟨0, 0, [], [], []⟩

/-! ## The check cache -/

def unpaidTtl : Int := seconds 8

def rateLimitTtl : Int := seconds 120

def paidTtl : Int := seconds 60

def intentPollTtl : Int := seconds 12

def maxNbcChecksPerIntent : Nat := 40

def intentNbcCheckWindow : Int := seconds 3600

/-- `_prune`. -/
def Memory.prune (now : Instant) (m : Memory) : Memory :=
  { m with
    md5Cache := m.md5Cache.filter fun item => now < item.2.2
    intentPolledAt := m.intentPolledAt.filter fun item => now < item.2 }

def ttlForStatus : ProbeStatus → Int
  | .paid => paidTtl
  | .unknown => rateLimitTtl
  | .unpaid => unpaidTtl

def getCachedMd5Status (md5 : String) (now : Instant) (m : Memory) : Option ProbeStatus × Memory :=
  if md5 = "" then (none, m)
  else
    match m.md5Cache.get? md5 with
    | none => (none, m)
    | some (status, expires) =>
        if expires ≤ now then (none, { m with md5Cache := m.md5Cache.del md5 })
        else (some status, m)

def setCachedMd5Status (md5 : String) (status : ProbeStatus) (now : Instant) (m : Memory) :
    Memory :=
  if md5 = "" then m
  else
    let m := m.prune now
    { m with md5Cache := m.md5Cache.put md5 (status, now + ttlForStatus status) }

def markIntentPolled (intentId : String) (now : Instant) (m : Memory) : Memory :=
  if intentId = "" then m
  else
    let m := m.prune now
    { m with intentPolledAt := m.intentPolledAt.put intentId (now + intentPollTtl) }

def wasIntentRecentlyPolled (intentId : String) (now : Instant) (m : Memory) : Bool × Memory :=
  if intentId = "" then (false, m)
  else
    match m.intentPolledAt.get? intentId with
    | none => (false, m)
    | some expires =>
        if expires ≤ now then
          (false, { m with intentPolledAt := m.intentPolledAt.del intentId })
        else (true, m)

/-- Forget the oldest 500 of more than 2000 intents. -/
def softPrune (checks : Dict (Nat × Instant)) : Dict (Nat × Instant) :=
  if 2000 < checks.length then checks.drop 500 else checks

/-- `consume_intent_nbc_check`: reserve one check, if the intent has one left. -/
def consumeIntentNbcCheck (intentId : String) (now : Instant) (m : Memory) : Bool × Memory :=
  if intentId = "" then (true, m)
  else
    let reserved (used : Nat) (started : Instant) : Memory :=
      { m with intentNbcChecks := softPrune (m.intentNbcChecks.put intentId (used, started)) }
    match m.intentNbcChecks.get? intentId with
    | none => (true, reserved 1 now)
    | some (used, started) =>
        if intentNbcCheckWindow ≤ now - started then (true, reserved 1 now)
        else if maxNbcChecksPerIntent < used + 1 then (false, m)
        else (true, reserved (used + 1) started)

/-! ## The breaker -/

/-- The Redis key, with the time Redis drops it. -/
structure RedisKey where
  blockedUntil : Instant
  expiresAt : Instant
deriving DecidableEq, Repr

/-- Which of its commands Redis answers. -/
structure Link where
  get : Bool
  set : Bool
  delete : Bool
deriving DecidableEq, Repr

/-- `client.get(_REDIS_KEY)`. -/
def redisGet (now : Instant) (redis : Option RedisKey) : Option Instant :=
  (redis.filter fun key => decide (now < key.expiresAt)).map RedisKey.blockedUntil

/-- The worker's memory and what the workers share. -/
structure View where
  memory : Memory
  redis : Option RedisKey
deriving DecidableEq, Repr

def defaultCooldown : Int := seconds 3600

def transientCooldown : Int := seconds 30

/-- `_set_blocked_until`; a deadline only ever grows. -/
def setBlockedUntil (cooldown : Int) (mono now : Instant) (link : Link) (v : View) : View :=
  let cooldown := max (seconds 5) cooldown
  let memory := { v.memory with blockedUntil := max v.memory.blockedUntil (mono + cooldown) }
  if link.get = false ∨ link.set = false then { v with memory := memory }
  else
    let until_ := (redisGet now v.redis).elim (now + cooldown) (max (now + cooldown))
    let ttl := max 60 ((until_ - now) / seconds 1 + 60)
    { memory := memory, redis := some ⟨until_, now + seconds ttl⟩ }

/-- `note_bakong_rate_limited`. -/
def noteBakongRateLimited (mono now : Instant) (link : Link) (v : View) : View :=
  setBlockedUntil defaultCooldown mono now link v

/-- `note_bakong_transient`. -/
def noteBakongTransient (mono now : Instant) (link : Link) (v : View) : View :=
  setBlockedUntil (max (seconds 5) (min transientCooldown (seconds 120))) mono now link v

/-- `bakong_checks_blocked`. -/
def bakongChecksBlocked (mono now : Instant) (link : Link) (v : View) : Bool :=
  (link.get && (redisGet now v.redis).any fun until_ => decide (now < until_)) ||
    decide (mono < v.memory.blockedUntil)

/-- `clear_bakong_rate_limit`. -/
def clearBakongRateLimit (link : Link) (v : View) : View :=
  { memory := { v.memory with blockedUntil := 0 }
    redis := if link.delete then none else v.redis }

/-! ## Probes -/

/-- What a check came to: `_remote_check_khqr_paid` and `_local_check_khqr_paid`. -/
structure Outcome where
  paid : Bool
  inconclusive : Bool
  quota : Bool
deriving DecidableEq, Repr

/-- `probe_khqr_status` up to its request; no status when it asks NBC. -/
def probeKhqrStatus (md5 : String) (intentId : Option String) (mono now : Instant) (link : Link)
    (v : View) : Option ProbeStatus × View :=
  if md5 = "" then (some .unpaid, v)
  else
    match getCachedMd5Status md5 mono v.memory with
    | (some status, memory) => (some status, { v with memory := memory })
    | (none, memory) =>
        if bakongChecksBlocked mono now link { v with memory := memory } then
          (some .unknown, { v with memory := setCachedMd5Status md5 .unknown mono memory })
        else
          match intentId.elim (true, memory) fun id => consumeIntentNbcCheck id mono memory with
          | (false, memory) =>
              (some .unknown, { v with memory := setCachedMd5Status md5 .unknown mono memory })
          | (true, memory) => (none, { v with memory := memory })

def Outcome.status (outcome : Outcome) : ProbeStatus :=
  if outcome.paid then .paid else if outcome.inconclusive then .unknown else .unpaid

/-- `probe_khqr_status` after the request. -/
def noteOutcome (md5 : String) (outcome : Outcome) (mono now : Instant) (link : Link) (v : View) :
    View :=
  let v :=
    if outcome.paid then clearBakongRateLimit link v
    else if outcome.inconclusive then
      if outcome.quota then noteBakongRateLimited mono now link v
      else noteBakongTransient mono now link v
    else v
  { v with memory := setCachedMd5Status md5 outcome.status mono v.memory }

end MovieApi.NbcChecks
