import MovieApi.Locks.DistributedLock

/-!
# Sweeper loops that renew their lock

`_sweeper_loop` renews its lock once a tick, sweeps and sleeps.  With Redis
always at hand and nobody else around, the lock lasts from tick to tick exactly
when the interval is below the time to live.
-/

namespace MovieApi.Locks

/-! ## The loop -/

/-- The lock of the one process there is. -/
def owner : Handle := 0

/-- Time passes, and a key that is due goes. -/
def elapse (d : Nat) (s : State) : State :=
  next (fun _ => 0) (next (fun _ => 0) s (.wait d)) .expire

/-- `_held_lock.refresh()`; there is no state to go on from when it returns
`False`. -/
def refreshed (ttlSeconds : Int) (s : State) : Option State :=
  let s := next (fun _ => ttlSeconds) s (.refresh owner .answered)
  match s.phase owner with
  | .extending _ => some (next (fun _ => ttlSeconds) s (.refresh owner .answered))
  | _ => none

/-- `_sweeper_loop`, where `sweeps` are the times the sweeps take.  It breaks when
a refresh fails. -/
def sweeperLoop (ttlSeconds interval : Int) : List Nat → State → Option State
  | [], s => some s
  | sweep :: sweeps, s =>
      match refreshed ttlSeconds s with
      | none => none
      | some s => sweeperLoop ttlSeconds interval sweeps
          (elapse (seconds interval).toNat (elapse sweep s))

/-- The state in which `start_publish_sweeper` or `start_bakong_sweeper` leaves
the loop. -/
def started (ttlSeconds : Int) (now : Int) : State :=
  next (fun _ => ttlSeconds) (start now) (.acquire owner .answered)

/-! ## Settings -/

def publishTtlSeconds : Int := 120

def publishInterval (publishSweeperIntervalSeconds : Int) : Int :=
  max 15 (min 300 publishSweeperIntervalSeconds)

def bakongTtlSeconds : Int := 180

def bakongInterval (bakongSweeperIntervalSeconds : Int) : Int :=
  max 120 bakongSweeperIntervalSeconds

/-- A sweep that takes no time, or less than the time to live leaves after the
sleep. -/
def Short (ttlSeconds interval : Int) (sweep : Nat) : Prop :=
  sweep = 0 ∨ (sweep : Int) < seconds ttlSeconds - seconds interval

/-- No refresh fails, however many sweeps there are. -/
def NeverStops (ttlSeconds interval : Int) : Prop :=
  ∀ (now : Int) (sweeps : List Nat), (∀ sweep ∈ sweeps, Short ttlSeconds interval sweep) →
    (sweeperLoop ttlSeconds interval sweeps (started ttlSeconds now)).isSome

/-! ## A tick -/

/-- The loop holds its key until `deadline`. -/
structure Holding (deadline : Int) (s : State) : Prop where
  key : s.key = some ⟨owner, deadline⟩
  phase : ∃ reported, s.phase owner = .held .redis reported

variable {ttlSeconds interval : Int} {s s' : State} {deadline now : Int}

theorem lockTtl_eq (h : 30 ≤ ttlSeconds) : lockTtl ttlSeconds = seconds ttlSeconds := by
  rw [lockTtl, max_eq_right h]

theorem started_holding (h : 30 ≤ ttlSeconds) :
    (started ttlSeconds now).now = now ∧
      Holding (now + seconds ttlSeconds) (started ttlSeconds now) := by
  refine ⟨rfl, ?_, some now, ?_⟩
  · rw [← lockTtl_eq h]
    rfl
  · simp [started, next, start, acquireRedis, State.enter]

theorem Holding.refreshed (h : 30 ≤ ttlSeconds) (hs : Holding deadline s) :
    ∃ s', refreshed ttlSeconds s = some s' ∧ s'.now = s.now ∧
      Holding (s.now + seconds ttlSeconds) s' := by
  obtain ⟨reported, hphase⟩ := hs.phase
  have htoken : s.holdsToken owner = true := by simp [State.holdsToken, hs.key]
  refine ⟨refreshExpire (lockTtl ttlSeconds) owner .answered (s.enter owner (.extending reported)),
    ?_, rfl, ?_, some s.now, ?_⟩
  · simp [Locks.refreshed, next, hphase, refreshGet, htoken, State.enter]
  · simp [refreshExpire, Reply.executed, State.enter, hs.key, lockTtl_eq h]
  · simp [refreshExpire, State.enter]

theorem Holding.elapse (hs : Holding deadline s) {d : Nat} (hd : s.now + d < deadline) :
    (elapse d s).now = s.now + d ∧ Holding deadline (elapse d s) := by
  have helapse : Locks.elapse d s = { s with now := s.now + d } := by
    simp [Locks.elapse, next, hs.key, not_le.2 hd]
  rw [helapse]
  exact ⟨rfl, hs.key, hs.phase⟩

/-- A tick that is shorter than the time to live ends with the key in hand. -/
theorem Holding.tick (h : 30 ≤ ttlSeconds) (hs : Holding deadline s) {sweep : Nat}
    (hsweep : (sweep : Int) + (seconds interval).toNat < seconds ttlSeconds) :
    ∃ s' deadline', Locks.refreshed ttlSeconds s = some s' ∧
      Holding deadline' (Locks.elapse (seconds interval).toNat (Locks.elapse sweep s')) := by
  obtain ⟨s', hrefreshed, hnow, hs'⟩ := hs.refreshed h
  have hfirst : s'.now + sweep < s.now + seconds ttlSeconds := by omega
  obtain ⟨hnow', hswept⟩ := hs'.elapse hfirst
  obtain ⟨-, hslept⟩ := hswept.elapse (d := (seconds interval).toNat) (by omega)
  exact ⟨s', _, hrefreshed, hslept⟩

theorem Holding.sweeperLoop (h : 30 ≤ ttlSeconds) {sweeps : List Nat}
    (hsweeps : ∀ sweep ∈ sweeps, ((sweep : Int) + (seconds interval).toNat) < seconds ttlSeconds) :
    ∀ {deadline s}, Holding deadline s → (sweeperLoop ttlSeconds interval sweeps s).isSome := by
  induction sweeps with
  | nil => exact fun _ => rfl
  | cons sweep sweeps ih =>
      intro deadline s hs
      obtain ⟨s', deadline', hrefreshed, hs'⟩ := hs.tick h (hsweeps sweep (by simp))
      simp only [Locks.sweeperLoop, hrefreshed]
      exact ih (fun sweep hsweep => hsweeps sweep (by simp [hsweep])) hs'

/-! ## Losing the lock -/

/-- A sleep as long as the time to live ends without the key. -/
theorem Holding.lost (hs : Holding deadline s) {d : Nat} (hd : deadline ≤ s.now + d) :
    Locks.refreshed ttlSeconds (Locks.elapse d s) = none := by
  obtain ⟨reported, hphase⟩ := hs.phase
  have helapse : Locks.elapse d s = { s with now := s.now + d, key := none } := by
    simp [Locks.elapse, next, hs.key, hd]
  simp [Locks.refreshed, helapse, next, hphase, refreshGet, State.holdsToken, State.enter]

theorem sweeperLoop_stops (h : 30 ≤ ttlSeconds) (hlong : ttlSeconds ≤ interval) (now : Int) :
    sweeperLoop ttlSeconds interval [0, 0] (started ttlSeconds now) = none := by
  obtain ⟨hnow, hs⟩ : (started ttlSeconds now).now = now ∧
      Holding (now + seconds ttlSeconds) (started ttlSeconds now) := started_holding h
  obtain ⟨s', hrefreshed, hnow', hs'⟩ := hs.refreshed h
  have hpositive : s'.now + (0 : Nat) < (started ttlSeconds now).now + seconds ttlSeconds := by
    unfold seconds
    omega
  obtain ⟨hnow'', hswept⟩ := hs'.elapse hpositive
  have hlost : refreshed ttlSeconds (elapse (seconds interval).toNat (elapse 0 s')) = none := by
    refine hswept.lost ?_
    unfold seconds at *
    omega
  simp only [sweeperLoop, hrefreshed, hlost]

/-! ## Safe settings -/

theorem neverStops_iff (httl : 30 ≤ ttlSeconds) (hinterval : 0 ≤ interval) :
    NeverStops ttlSeconds interval ↔ interval < ttlSeconds := by
  constructor
  · intro h
    by_contra hlong
    have hsome := h 0 [0, 0] (by simp [Short])
    rw [sweeperLoop_stops httl (not_lt.1 hlong)] at hsome
    cases hsome
  · intro hlt now sweeps hshort
    refine (started_holding httl).2.sweeperLoop httl fun sweep hsweep => ?_
    have hsleep : ((seconds interval).toNat : Int) = seconds interval :=
      Int.toNat_of_nonneg (by unfold seconds; omega)
    rcases hshort sweep hsweep with rfl | hslack
    · unfold seconds at *
      omega
    · omega

/-- The publish sweeper keeps its lock at settings below 120 seconds, the Bakong
sweeper at settings below 180 seconds. -/
theorem loops_keep_lock (setting : Int) :
    (NeverStops publishTtlSeconds (publishInterval setting) ↔ setting < 120) ∧
      (NeverStops bakongTtlSeconds (bakongInterval setting) ↔ setting < 180) := by
  rw [neverStops_iff (by decide) (by unfold publishInterval; omega),
    neverStops_iff (by decide) (by unfold bakongInterval; omega)]
  unfold publishInterval publishTtlSeconds bakongInterval bakongTtlSeconds
  omega

/-- With an interval of 120 seconds the publish sweeper finds no key at its second
tick. -/
theorem publish_loop_stops :
    ¬∀ setting : Int, NeverStops publishTtlSeconds (publishInterval setting) ∧
      NeverStops bakongTtlSeconds (bakongInterval setting) := by
  intro h
  have hsome := (h 120).1 0 [0, 0] (by simp [Short])
  rw [show sweeperLoop publishTtlSeconds (publishInterval 120) [0, 0]
    (started publishTtlSeconds 0) = none from sweeperLoop_stops (by decide) (by decide) 0] at hsome
  cases hsome

end MovieApi.Locks
