import MovieApi.NbcChecks.Breaker

/-!
# The deadline that the workers share

`_set_blocked_until` reads the key of Redis, and writes it with a second command.
A deadline that another call stores in between is overwritten, with a shorter one
perhaps.  The two functions that read the key disagree once it has lapsed.
-/

namespace MovieApi.NbcChecks

open Billing (Instant)

/-! ## Calls that store a deadline -/

inductive Note where
  /-- `note_bakong_rate_limited` -/
  | rateLimited (cooldown : Int)
  /-- `note_bakong_transient` -/
  | transient (cooldown : Int)
deriving DecidableEq, Repr

/-- The cooldown that `_set_blocked_until` comes to. -/
def Note.cooldown : Note → Int
  | .rateLimited cooldown => max (seconds 5) cooldown
  | .transient cooldown => max (seconds 5) (max (seconds 5) (min cooldown (seconds 120)))

/-- Where a call of `_set_blocked_until` is. -/
inductive SetPhase where
  | idle
  /-- The worker's own deadline is set. -/
  | noted (cooldown : Int)
  /-- The deadline is computed, and `GET` is sent. -/
  | asking (own : Instant)
  | answered (own : Instant) (found : Option Instant)
  /-- The time to live is computed, and `SET` is sent. -/
  | sending (own : Instant) (found : Option Instant) (ttl : Int)
deriving DecidableEq, Repr

/-- The longer of the deadline in Redis and the call's own. -/
def longer (own : Instant) (found : Option Instant) : Instant := found.elim own (max own)

/-- The workers, Redis, the calls of all workers, and the deadlines that completed
calls have computed. -/
structure DeadlineSite where
  now : Instant
  memory : WorkerId → Memory
  redis : Option RedisKey
  calls : Nat → SetPhase
  completed : List Instant

inductive DeadlineAction where
  | wait (d : Nat)
  | call (task : Nat) (w : WorkerId) (note : Note)
  | resume (task : Nat)
deriving DecidableEq, Repr

namespace DeadlineSite

def enter (s : DeadlineSite) (task : Nat) (phase : SetPhase) : DeadlineSite :=
  { s with calls := Function.update s.calls task phase }

/-- The worker's own deadline, which only ever grows. -/
def noteLocally (clocks : Clocks) (s : DeadlineSite) (w : WorkerId) (cooldown : Int) :
    DeadlineSite :=
  let memory := s.memory w
  let deadline := max memory.blockedUntil (clocks.monotonic w s.now + cooldown)
  { s with memory := Function.update s.memory w { memory with blockedUntil := deadline } }

/-- Redis executes the `SET`. -/
def store (s : DeadlineSite) (deadline : Instant) (ttl : Int) : DeadlineSite :=
  { s with
    redis := some ⟨deadline, s.now + seconds ttl⟩
    completed := s.completed ++ [deadline] }

def resume (s : DeadlineSite) (task : Nat) : DeadlineSite :=
  match s.calls task with
  | .idle => s
  | .noted cooldown => s.enter task (.asking (s.now + cooldown))
  | .asking own => s.enter task (.answered own (redisGet s.now s.redis))
  | .answered own found =>
      let ttl := max 60 ((longer own found - s.now) / seconds 1 + 60)
      s.enter task (.sending own found ttl)
  | .sending own found ttl => (s.store (longer own found) ttl).enter task .idle

def next (clocks : Clocks) (s : DeadlineSite) : DeadlineAction → DeadlineSite
  | .wait d => { s with now := s.now + d }
  | .call task w note =>
      if s.calls task = .idle then
        (s.noteLocally clocks w note.cooldown).enter task (.noted note.cooldown)
      else s
  | .resume task => s.resume task

def run (clocks : Clocks) (s : DeadlineSite) (actions : List DeadlineAction) : DeadlineSite :=
  actions.foldl (next clocks) s

/-- No call is under way yet. -/
def fresh (now : Instant) (memory : WorkerId → Memory) (redis : Option RedisKey) : DeadlineSite :=
  ⟨now, memory, redis, fun _ => .idle, []⟩

/-- A call that nothing interrupts does what `setBlockedUntil` says. -/
theorem run_alone (clocks : Clocks) (now : Instant) (memory : WorkerId → Memory)
    (redis : Option RedisKey) (w : WorkerId) (cooldown : Int) :
    let s := run clocks (fresh now memory redis)
      [.call 0 w (.rateLimited cooldown), .resume 0, .resume 0, .resume 0, .resume 0]
    (⟨s.memory w, s.redis⟩ : View) =
      setBlockedUntil cooldown (clocks.monotonic w now) now ⟨true, true, true⟩
        ⟨memory w, redis⟩ := by
  simp [run, next, resume, fresh, enter, noteLocally, store, setBlockedUntil, longer, Note.cooldown]

/-! ## Deadlines are kept -/

/-- No deadline beyond the call's own and the one its `GET` has found was stored since. -/
def undisturbed (s : DeadlineSite) : DeadlineAction → Bool
  | .resume task => match s.calls task with
    | .sending own found _ => (redisGet s.now s.redis).all fun stored =>
        decide (stored ≤ own) || found.any fun d => decide (stored ≤ d)
    | _ => true
  | _ => true

inductive Reached (clocks : Clocks) (s₀ : DeadlineSite) : DeadlineSite → Prop
  | refl : Reached clocks s₀ s₀
  | step {s : DeadlineSite} {action : DeadlineAction} (h : Reached clocks s₀ s)
      (hfree : s.undisturbed action = true) : Reached clocks s₀ (s.next clocks action)

/-- The deadline in Redis is not before any that a completed call has computed and that
has not passed. -/
def Keeps (s : DeadlineSite) : Prop :=
  ∀ deadline ∈ s.completed, s.now < deadline →
    ∃ stored, redisGet s.now s.redis = some stored ∧ deadline ≤ stored

/-- The key outlives every deadline it has to keep, and so will the keys on their way. -/
structure Kept (s : DeadlineSite) : Prop where
  stored : ∀ deadline ∈ s.completed, s.now < deadline →
    ∃ key, s.redis = some key ∧ deadline ≤ key.blockedUntil ∧ deadline < key.expiresAt
  sent : ∀ task own found ttl, s.calls task = .sending own found ttl →
    longer own found < s.now + seconds ttl

theorem redisGet_eq_some {now stored : Instant} {redis : Option RedisKey} :
    redisGet now redis = some stored ↔
      ∃ key, redis = some key ∧ now < key.expiresAt ∧ key.blockedUntil = stored := by
  cases redis with
  | none => simp [redisGet]
  | some key =>
      by_cases hlive : now < key.expiresAt
      · simp [redisGet, hlive]
      · simp [redisGet, hlive]

theorem Kept.keeps {s : DeadlineSite} (h : s.Kept) : s.Keeps := by
  intro deadline hmem hfuture
  obtain ⟨key, hkey, hle, hlife⟩ := h.stored deadline hmem hfuture
  exact ⟨key.blockedUntil, redisGet_eq_some.2 ⟨key, hkey, lt_trans hfuture hlife, rfl⟩, hle⟩

/-- The time to live ends after the deadline. -/
theorem lt_of_ttl (deadline now : Instant) :
    deadline < now + seconds (max 60 ((deadline - now) / seconds 1 + 60)) := by
  have hdiv : deadline - now < ((deadline - now) / seconds 1 + 1) * seconds 1 :=
    Int.lt_ediv_add_one_mul_self _ (by decide)
  have hmax : (deadline - now) / seconds 1 + 60 ≤ max 60 ((deadline - now) / seconds 1 + 60) :=
    le_max_right _ _
  simp only [seconds] at *
  linarith

theorem le_longer {own stored : Instant} {found : Option Instant}
    (h : (decide (stored ≤ own) || found.any fun d => decide (stored ≤ d)) = true) :
    stored ≤ longer own found := by
  cases found with
  | none => simpa [longer] using h
  | some d => simpa [longer] using h

variable {s : DeadlineSite}

/-- A step within a call that leaves Redis alone. -/
theorem Kept.enter (h : s.Kept) {task : Nat} {phase : SetPhase}
    (hphase : ∀ own found ttl, phase = .sending own found ttl →
      longer own found < s.now + seconds ttl) : (s.enter task phase).Kept where
  stored := h.stored
  sent task' own found ttl hcall := by
    by_cases htask : task' = task
    · subst htask
      simp only [DeadlineSite.enter, Function.update_self] at hcall
      exact hphase own found ttl hcall
    · simp only [DeadlineSite.enter, Function.update_of_ne htask] at hcall
      exact h.sent task' own found ttl hcall

theorem Kept.store (h : s.Kept) {deadline : Instant} {ttl : Int}
    (hlife : deadline < s.now + seconds ttl)
    (hfree : ∀ stored, redisGet s.now s.redis = some stored → stored ≤ deadline) :
    (s.store deadline ttl).Kept where
  sent := h.sent
  stored d hmem hfuture := by
    refine ⟨_, rfl, ?_⟩
    rcases List.mem_append.1 hmem with hold | hnew
    · obtain ⟨stored, hstored, hle⟩ := h.keeps d hold hfuture
      have hlonger : d ≤ deadline := le_trans hle (hfree stored hstored)
      exact ⟨hlonger, lt_of_le_of_lt hlonger hlife⟩
    · rw [List.mem_singleton.1 hnew]
      exact ⟨le_refl _, hlife⟩

theorem Kept.resume (h : s.Kept) {task : Nat} (hfree : s.undisturbed (.resume task) = true) :
    (s.resume task).Kept := by
  unfold DeadlineSite.resume
  cases hcall : s.calls task with
  | idle => exact h
  | noted cooldown => exact h.enter fun _ _ _ hphase => by cases hphase
  | asking own => exact h.enter fun _ _ _ hphase => by cases hphase
  | answered own found =>
      refine h.enter fun own' found' ttl hphase => ?_
      cases hphase
      exact lt_of_ttl _ _
  | sending own found ttl =>
      simp only [undisturbed, hcall] at hfree
      have hstore := h.store (h.sent task own found ttl hcall) fun stored hstored =>
        le_longer (by simpa only [hstored, Option.all_some] using hfree)
      exact hstore.enter fun _ _ _ hphase => by cases hphase

theorem Kept.next (clocks : Clocks) (h : s.Kept) {action : DeadlineAction}
    (hfree : s.undisturbed action = true) : (s.next clocks action).Kept := by
  cases action with
  | wait d =>
      refine ⟨fun deadline hmem hfuture => ?_, fun task own found ttl hcall => ?_⟩
      · simp only [DeadlineSite.next] at hfuture
        exact h.stored deadline hmem (by linarith)
      · have hsent := h.sent task own found ttl hcall
        simp only [DeadlineSite.next]
        linarith
  | call task w note =>
      simp only [DeadlineSite.next]
      split
      · have hlocal : (s.noteLocally clocks w note.cooldown).Kept := ⟨h.stored, h.sent⟩
        exact hlocal.enter fun _ _ _ hphase => by cases hphase
      · exact h
  | resume task => exact h.resume hfree

theorem kept_of_reached {clocks : Clocks} {s₀ : DeadlineSite} (h₀ : s₀.Kept)
    (h : Reached clocks s₀ s) : s.Kept := by
  induction h with
  | refl => exact h₀
  | step _ hfree ih => exact ih.next clocks hfree

theorem fresh_kept (now : Instant) (memory : WorkerId → Memory) (redis : Option RedisKey) :
    (fresh now memory redis).Kept where
  stored _ hmem := by cases hmem
  sent _ _ _ _ hcall := by cases hcall

/-- Deadlines are kept as long as no call overwrites a later one that was stored after
its `GET`. -/
theorem shared_deadline_kept (clocks : Clocks) (now : Instant) (memory : WorkerId → Memory)
    (redis : Option RedisKey) {s : DeadlineSite}
    (h : Reached clocks (fresh now memory redis) s) : s.Keeps :=
  (kept_of_reached (fresh_kept now memory redis) h).keeps

/-- The actions one after the other, none of which overwrites a later deadline. -/
def play (clocks : Clocks) (s : DeadlineSite) (actions : List DeadlineAction) :
    Option DeadlineSite :=
  actions.foldlM (fun s action =>
    if s.undisturbed action then some (s.next clocks action) else none) s

theorem reached_play {clocks : Clocks} {s₀ s' : DeadlineSite} {actions : List DeadlineAction}
    (h : Reached clocks s₀ s) (hplay : s.play clocks actions = some s') :
    Reached clocks s₀ s' := by
  induction actions generalizing s with
  | nil =>
      obtain rfl : s = s' := Option.some.inj hplay
      exact h
  | cons action actions ih =>
      simp only [play, List.foldlM_cons] at hplay
      split at hplay
      · next hfree => exact ih (h.step hfree) hplay
      · cases hplay

/-- An hour's pause, and then a short one of another worker. -/
theorem short_pause_keeps_hour : ∃ s,
    Reached (fun _ => 0) (fresh 0 (fun _ => .empty) none) s ∧
      s.completed = [seconds 3600, seconds 3600] ∧ s.Keeps := by
  have hplay : ((fresh 0 (fun _ => .empty) none).play (fun _ => 0)
      [.call 0 0 (.rateLimited (seconds 3600)), .resume 0, .resume 0, .resume 0, .resume 0,
        .call 1 1 (.transient (seconds 30)), .resume 1, .resume 1, .resume 1, .resume 1]).any
      (fun s => s.completed = [seconds 3600, seconds 3600]) = true := by decide
  obtain ⟨s, hs, hcompleted⟩ := (Option.any_eq_true _ _).1 hplay
  have hreached := reached_play .refl hs
  exact ⟨s, hreached, of_decide_eq_true hcompleted, shared_deadline_kept _ _ _ _ hreached⟩

/-- Two calls whose commands alternate: the second one has found nothing. -/
def alternating : List DeadlineAction :=
  [.call 0 0 (.rateLimited (seconds 3600)), .resume 0, .resume 0,
    .call 1 1 (.transient (seconds 30)), .resume 1, .resume 1,
    .resume 0, .resume 0, .resume 1, .resume 1]

/-- The hour's pause is gone although the call that asked for it is complete. -/
theorem deadline_overwritten :
    let s := (fresh 0 (fun _ => .empty) none).run (fun _ => 0) alternating
    s.completed = [seconds 3600, seconds 30] ∧ s.now < seconds 3600 ∧
      redisGet s.now s.redis = some (seconds 30) := by
  decide

end DeadlineSite

/-! ## Blocked, and for how long -/

/-- A Python float. -/
inductive PyFloat where
  | nan
  | negInf
  | finite (x : ℚ)
  | posInf
deriving DecidableEq

namespace PyFloat

/-- `x > y` for a finite `y`. -/
def gt : PyFloat → ℚ → Bool
  | nan, _ => false
  | negInf, _ => false
  | finite x, y => decide (y < x)
  | posInf, _ => true

/-- `x - y` for a finite `y`. -/
def sub : PyFloat → ℚ → PyFloat
  | finite x, y => finite (x - y)
  | x, _ => x

/-- `max(0.0, x)`, which is its first argument when `x` is no number. -/
def max0 (x : PyFloat) : PyFloat := if x.gt 0 then x else finite 0

theorem gt_sub (x : PyFloat) (y : ℚ) : (x.sub y).gt 0 = x.gt y := by
  cases x with
  | finite x => simp [sub, gt]
  | _ => rfl

theorem gt_max0 (x : PyFloat) : x.max0.gt 0 = x.gt 0 := by
  unfold max0
  split
  · rfl
  · next hle => simpa [gt] using hle

end PyFloat

/-- What comes of `client.get(_REDIS_KEY)`. -/
inductive Reply where
  /-- Redis is not configured, or the client could not be made. -/
  | noClient
  /-- The command raises. -/
  | failed
  | absent
  /-- A text that `float` raises at. -/
  | malformed
  | number (x : PyFloat)
deriving DecidableEq

/-- `bakong_checks_blocked` on the float clocks, for any content of the key. -/
def checksBlockedBy (reply : Reply) (blockedUntil mono now : ℚ) : Bool :=
  match reply with
  | .number x => x.gt now || decide (mono < blockedUntil)
  | _ => decide (mono < blockedUntil)

/-- `bakong_checks_blocked_remaining_seconds`. -/
def remainingSeconds (reply : Reply) (blockedUntil mono now : ℚ) : PyFloat :=
  match reply with
  | .number x => (x.sub now).max0
  | _ => (PyFloat.finite (blockedUntil - mono)).max0

/-- What a key that `_set_blocked_until` has written comes to. -/
def reply (link : Link) (now : Instant) (redis : Option RedisKey) : Reply :=
  if link.get then
    (redisGet now redis).elim .absent fun deadline => .number (.finite deadline)
  else .failed

theorem bakongChecksBlocked_eq (mono now : Instant) (link : Link) (v : View) :
    bakongChecksBlocked mono now link v =
      checksBlockedBy (reply link now v.redis) v.memory.blockedUntil mono now := by
  cases hget : link.get with
  | false => simp [bakongChecksBlocked, reply, checksBlockedBy, hget]
  | true =>
      cases hkey : redisGet now v.redis with
      | none => simp [bakongChecksBlocked, reply, checksBlockedBy, hget, hkey]
      | some deadline =>
          simp [bakongChecksBlocked, reply, checksBlockedBy, PyFloat.gt, hget, hkey]

/-- The key holds a number, but no time in the future, while the worker's own deadline
has not passed. -/
def LapsedInRedis (reply : Reply) (blockedUntil mono now : ℚ) : Prop :=
  (∃ x, reply = .number x ∧ x.gt now = false) ∧ mono < blockedUntil

theorem own_deadline_agrees (blockedUntil mono : ℚ) :
    decide (mono < blockedUntil) = (PyFloat.finite (blockedUntil - mono)).max0.gt 0 := by
  rw [PyFloat.gt_max0]
  simp [PyFloat.gt]

/-- The two functions agree unless the key has lapsed before the worker's own deadline. -/
theorem blocked_iff_remaining (reply : Reply) (blockedUntil mono now : ℚ) :
    (checksBlockedBy reply blockedUntil mono now = true ↔
        (remainingSeconds reply blockedUntil mono now).gt 0 = true) ↔
      ¬ LapsedInRedis reply blockedUntil mono now := by
  cases reply with
  | number x =>
      have hshared : (remainingSeconds (.number x) blockedUntil mono now).gt 0 = x.gt now := by
        rw [remainingSeconds, PyFloat.gt_max0, PyFloat.gt_sub]
      rw [hshared]
      cases hx : x.gt now with
      | true => simp [checksBlockedBy, LapsedInRedis, hx]
      | false => simp [checksBlockedBy, LapsedInRedis, hx]
  | noClient | failed | absent | malformed =>
      simp [checksBlockedBy, remainingSeconds, own_deadline_agrees, LapsedInRedis]

/-- A key that has lapsed, and a worker whose own pause goes on for an hour. -/
theorem blocked_without_remaining :
    checksBlockedBy (.number (.finite 100)) 3600 0 100 = true ∧
      (remainingSeconds (.number (.finite 100)) 3600 0 100).gt 0 = false := by
  decide +kernel

end MovieApi.NbcChecks
