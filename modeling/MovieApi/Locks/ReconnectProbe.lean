import Mathlib.Algebra.Order.Ring.Unbundled.Rat
import Mathlib.Logic.Function.Basic

/-!
# The reconnect probe

`DatabaseWarmup.try_connect` of `db_connect.py`: a call gives up while another
one holds the lock, and otherwise pings the database unless the last failure is
too recent.  Each action below is one step of one call, and any two steps may
have the steps of other calls between them, also those that no `await` parts.
The clock is read in each step and never goes back.
-/

namespace MovieApi.Locks.Probe

abbrev CallId := ℕ

/-- How `wait_for(self._ping(), …)` ends; `cancelled` when the call is. -/
inductive Outcome where
  | answered | raised | timedOut | cancelled
deriving DecidableEq, Repr

inductive Phase where
  | idle
  /-- found the lock free, and is at `async with` -/
  | entering
  /-- holds the lock, before the test of the deadline -/
  | inside
  | pinging
  /-- the ping has failed, the deadline is not set yet -/
  | failed
  /-- has returned, none where it was cancelled -/
  | done (answer : Option Bool)
deriving DecidableEq, Repr

inductive Event where
  | started (time : ℚ)
  | ended (outcome : Outcome) (time : ℚ)
deriving DecidableEq, Repr

/-- The probe with its calls, and the history of its pings, oldest first. -/
structure State where
  now : ℚ
  lock : Option CallId
  nextAttemptAt : ℚ
  phase : CallId → Phase
  pings : List Event

def start (now : ℚ) : State := ⟨now, none, 0, fun _ => .idle, []⟩

inductive Action where
  /-- `if self._lock.locked()` -/
  | enter (c : CallId)
  /-- the lock is acquired -/
  | acquire (c : CallId)
  /-- the test of the deadline, and the start of the ping -/
  | test (c : CallId)
  /-- the ping ends -/
  | ping (c : CallId) (outcome : Outcome)
  /-- `self._next_attempt_at = time.monotonic() + self._cooldown_seconds` -/
  | coolDown (c : CallId)
  /-- a call that waits for the lock is cancelled -/
  | cancel (c : CallId)
  | clock (time : ℚ)
deriving DecidableEq, Repr

namespace State

def goTo (s : State) (c : CallId) (phase : Phase) : State :=
  { s with phase := Function.update s.phase c phase }

theorem goTo_self (s : State) (c : CallId) (phase : Phase) : (s.goTo c phase).phase c = phase := by
  simp [goTo]

theorem goTo_of_ne (s : State) {c c' : CallId} (hne : c' ≠ c) (phase : Phase) :
    (s.goTo c phase).phase c' = s.phase c' := by
  simp [goTo, hne]

/-- The end of `async with`, which releases the lock. -/
def leave (s : State) (c : CallId) (answer : Option Bool) : State :=
  { s.goTo c (.done answer) with lock := none }

def note (s : State) (event : Event) : State := { s with pings := s.pings ++ [event] }

/-- A step of a call that is where the action takes it up; other steps change
nothing. -/
def next (cooldownSeconds : ℚ) (s : State) : Action → State
  | .enter c =>
      if s.phase c = .idle then
        if s.lock.isSome then s.goTo c (.done (some false)) else s.goTo c .entering
      else s
  | .acquire c =>
      if s.phase c = .entering ∧ s.lock = none then { s.goTo c .inside with lock := some c } else s
  | .test c =>
      if s.phase c = .inside then
        if s.now < s.nextAttemptAt then s.leave c (some false)
        else (s.goTo c .pinging).note (.started s.now)
      else s
  | .ping c outcome =>
      if s.phase c = .pinging then
        match outcome with
        | .answered => (s.leave c (some true)).note (.ended .answered s.now)
        | .raised => (s.goTo c .failed).note (.ended .raised s.now)
        | .timedOut => (s.goTo c .failed).note (.ended .timedOut s.now)
        | .cancelled => (s.leave c none).note (.ended .cancelled s.now)
      else s
  | .coolDown c =>
      if s.phase c = .failed then
        { s.leave c (some false) with nextAttemptAt := s.now + cooldownSeconds }
      else s
  | .cancel c => if s.phase c = .entering then s.goTo c (.done none) else s
  | .clock time => { s with now := max s.now time }

def run (cooldownSeconds : ℚ) (s : State) (actions : List Action) : State :=
  actions.foldl (next cooldownSeconds) s

end State

/-! ## What is promised -/

def Failure : Event → Option ℚ
  | .ended .raised time => some time
  | .ended .timedOut time => some time
  | _ => none

/-- No ping starts less than `cooldown` after an earlier one failed. -/
def Spaced (cooldown : ℚ) (pings : List Event) : Prop :=
  pings.Pairwise fun earlier later => ∀ failedAt startedAt, Failure earlier = some failedAt →
    later = .started startedAt → failedAt + cooldown ≤ startedAt

/-! ## The invariant -/

/-- The call is between the acquisition of the lock and its release. -/
def Phase.locked : Phase → Bool
  | .inside | .pinging | .failed => true
  | _ => false

structure Inv (cooldown : ℚ) (s : State) : Prop where
  owner : ∀ c, (s.phase c).locked = true → s.lock = some c
  held : ∀ c, s.lock = some c → (s.phase c).locked = true
  past : ∀ event ∈ s.pings, ∀ time, Failure event = some time → time ≤ s.now
  cooling : ∀ event ∈ s.pings, ∀ time, Failure event = some time →
    time + cooldown ≤ s.nextAttemptAt ∨ ∃ c, s.phase c = .failed
  spaced : Spaced cooldown s.pings

variable {cooldown now : ℚ} {s : State} {c : CallId}

theorem Inv.start (now : ℚ) : Inv cooldown (start now) where
  owner c hc := by cases hc
  held c hc := by cases hc
  past event hevent := absurd hevent List.not_mem_nil
  cooling event hevent := absurd hevent List.not_mem_nil
  spaced := List.Pairwise.nil

/-- No other call is inside. -/
theorem Inv.sole (h : Inv cooldown s) {c' : CallId} (hc : (s.phase c).locked = true)
    (hc' : (s.phase c').locked = true) : c' = c :=
  Option.some.inj ((h.owner c' hc').symm.trans (h.owner c hc))

/-- A call moves while it stays on its side of the lock. -/
theorem Inv.goTo (h : Inv cooldown s) {phase : Phase}
    (hside : phase.locked = (s.phase c).locked) (hfailed : s.phase c = .failed → phase = .failed) :
    Inv cooldown (s.goTo c phase) := by
  have hphase (c' : CallId) : ((s.goTo c phase).phase c').locked = (s.phase c').locked := by
    by_cases heq : c' = c
    · rw [heq, State.goTo_self, hside]
    · rw [s.goTo_of_ne heq]
  refine ⟨?_, ?_, h.past, ?_, h.spaced⟩
  · intro c' hc'
    rw [hphase] at hc'
    exact h.owner c' hc'
  · intro c' hc'
    rw [hphase]
    exact h.held c' hc'
  · intro event hevent time htime
    rcases h.cooling event hevent time htime with hcool | ⟨c', hc'⟩
    · exact Or.inl hcool
    · refine Or.inr ⟨c', ?_⟩
      by_cases heq : c' = c
      · rw [heq, State.goTo_self]
        exact hfailed (heq ▸ hc')
      · rw [s.goTo_of_ne heq, hc']

theorem Inv.acquire (h : Inv cooldown s) (hfree : s.lock = none) :
    Inv cooldown { s.goTo c .inside with lock := some c } := by
  have hnone (c' : CallId) : (s.phase c').locked = false := by
    rw [Bool.eq_false_iff]
    intro hc'
    rw [h.owner c' hc'] at hfree
    cases hfree
  have hother (c' : CallId) (hne : c' ≠ c) :
      ((s.goTo c .inside).phase c').locked = false := by
    rw [s.goTo_of_ne hne]
    exact hnone c'
  refine ⟨?_, ?_, h.past, ?_, h.spaced⟩
  · intro c' hc'
    by_cases heq : c' = c
    · rw [heq]
    · rw [hother c' heq] at hc'
      cases hc'
  · intro c' hc'
    obtain rfl : c = c' := Option.some.inj hc'
    rw [State.goTo_self]
    rfl
  · intro event hevent time htime
    rcases h.cooling event hevent time htime with hcool | ⟨c', hc'⟩
    · exact Or.inl hcool
    · have hlocked := hnone c'
      rw [hc'] at hlocked
      cases hlocked

/-- The call that holds the lock leaves; `hcool` where it has failed. -/
theorem Inv.leave (h : Inv cooldown s) (hlocked : (s.phase c).locked = true)
    (answer : Option Bool) (nextAttemptAt : ℚ) (hgrown : s.phase c ≠ .failed →
      nextAttemptAt = s.nextAttemptAt)
    (hcool : s.phase c = .failed → nextAttemptAt = s.now + cooldown) :
    Inv cooldown { s.leave c answer with nextAttemptAt := nextAttemptAt } := by
  have hnone (c' : CallId) :
      ((s.goTo c (.done answer)).phase c').locked = false := by
    by_cases heq : c' = c
    · rw [heq, State.goTo_self]
      rfl
    · rw [s.goTo_of_ne heq, Bool.eq_false_iff]
      exact fun hc' => heq (h.sole hlocked hc')
  refine ⟨?_, ?_, h.past, ?_, h.spaced⟩
  · intro c' hc'
    cases (hnone c').symm.trans hc'
  · intro c' hc'
    cases hc'
  · intro event hevent time htime
    by_cases hfailed : s.phase c = .failed
    · refine Or.inl ?_
      rw [hcool hfailed]
      exact add_le_add_left (h.past event hevent time htime) cooldown
    · rcases h.cooling event hevent time htime with hold | ⟨c', hc'⟩
      · exact Or.inl (by rw [hgrown hfailed]; exact hold)
      · have hsame : c' = c := h.sole hlocked (by rw [hc']; rfl)
        exact absurd (hsame ▸ hc') hfailed

/-- Something is noted that is no failure, or the failure of a call that now has
the deadline to set; a start comes after the deadline. -/
theorem Inv.note (h : Inv cooldown s) {event : Event}
    (hfailure : ∀ time, Failure event = some time → time = s.now ∧ ∃ c, s.phase c = .failed)
    (hstart : ∀ time, event = .started time →
      time = s.now ∧ s.nextAttemptAt ≤ s.now ∧ ∀ c, s.phase c ≠ .failed) :
    Inv cooldown (s.note event) := by
  refine ⟨h.owner, h.held, ?_, ?_, ?_⟩
  · intro event' hevent' time htime
    rcases List.mem_append.1 hevent' with hold | hnew
    · exact h.past event' hold time htime
    · rw [List.mem_singleton.1 hnew] at htime
      exact (hfailure time htime).1.le
  · intro event' hevent' time htime
    rcases List.mem_append.1 hevent' with hold | hnew
    · exact h.cooling event' hold time htime
    · rw [List.mem_singleton.1 hnew] at htime
      exact Or.inr (hfailure time htime).2
  · refine List.pairwise_append.2 ⟨h.spaced, List.pairwise_singleton _ _, ?_⟩
    intro earlier hearlier later hlater failedAt startedAt hfailedAt hstartedAt
    rw [List.mem_singleton.1 hlater] at hstartedAt
    obtain ⟨rfl, hdeadline, hnot⟩ := hstart startedAt hstartedAt
    rcases h.cooling earlier hearlier failedAt hfailedAt with hcool | ⟨c, hc⟩
    · exact hcool.trans hdeadline
    · exact absurd hc (hnot c)

theorem Inv.clock (h : Inv cooldown s) (time : ℚ) :
    Inv cooldown { s with now := max s.now time } :=
  ⟨h.owner, h.held, fun event hevent t ht => (h.past event hevent t ht).trans (le_max_left _ _),
    h.cooling, h.spaced⟩

/-- A ping fails: the deadline is still to be set. -/
theorem Inv.fail (h : Inv cooldown s) (hphase : s.phase c = .pinging) (outcome : Outcome) :
    Inv cooldown ((s.goTo c .failed).note (.ended outcome s.now)) := by
  have hmoved : Inv cooldown (s.goTo c .failed) := h.goTo (by rw [hphase]; rfl) fun _ => rfl
  refine hmoved.note ?_ (fun time htime => by cases htime)
  intro time htime
  refine ⟨?_, c, s.goTo_self c .failed⟩
  cases outcome with
  | raised => exact (Option.some.inj htime).symm
  | timedOut => exact (Option.some.inj htime).symm
  | answered => cases htime
  | cancelled => cases htime

/-- A ping ends without a failure, and its call leaves. -/
theorem Inv.finish (h : Inv cooldown s) (hphase : s.phase c = .pinging) (answer : Option Bool)
    {outcome : Outcome} (houtcome : ∀ time, Failure (.ended outcome time) = none) :
    Inv cooldown ((s.leave c answer).note (.ended outcome s.now)) := by
  have hleft : Inv cooldown (s.leave c answer) :=
    h.leave (by rw [hphase]; rfl) answer s.nextAttemptAt (fun _ => rfl)
      (fun hfailed => by rw [hphase] at hfailed; cases hfailed)
  refine hleft.note ?_ (fun time htime => by cases htime)
  intro time htime
  rw [houtcome] at htime
  cases htime

theorem Inv.test (h : Inv cooldown s) (hphase : s.phase c = .inside)
    (hdeadline : ¬ s.now < s.nextAttemptAt) :
    Inv cooldown ((s.goTo c .pinging).note (.started s.now)) := by
  have hlocked : (s.phase c).locked = true := by rw [hphase]; rfl
  have hmoved : Inv cooldown (s.goTo c .pinging) := h.goTo (by rw [hphase]; rfl)
    (fun hfailed => by rw [hphase] at hfailed; cases hfailed)
  refine hmoved.note (fun time htime => by cases htime) ?_
  intro time htime
  refine ⟨(Event.started.inj htime).symm, not_lt.1 hdeadline, ?_⟩
  intro c' hc'
  by_cases heq : c' = c
  · rw [heq, State.goTo_self] at hc'
    cases hc'
  · rw [s.goTo_of_ne heq] at hc'
    exact heq (h.sole hlocked (by rw [hc']; rfl))

/-- Every step keeps the invariant. -/
theorem Inv.next (h : Inv cooldown s) (action : Action) : Inv cooldown (s.next cooldown action) := by
  cases action with
  | enter c =>
      simp only [State.next]
      split
      · next hphase =>
          have hnot (phase : Phase) (hside : phase.locked = false) : Inv cooldown (s.goTo c phase) :=
            h.goTo (by rw [hside, hphase]; rfl) fun hfailed => by rw [hphase] at hfailed; cases hfailed
          split
          · exact hnot _ rfl
          · exact hnot _ rfl
      · exact h
  | acquire c =>
      simp only [State.next]
      split
      · next hready => exact h.acquire hready.2
      · exact h
  | test c =>
      simp only [State.next]
      split
      · next hphase =>
          split
          · exact h.leave (by rw [hphase]; rfl) _ s.nextAttemptAt (fun _ => rfl)
              (fun hfailed => by rw [hphase] at hfailed; cases hfailed)
          · next hdeadline => exact h.test hphase hdeadline
      · exact h
  | ping c outcome =>
      simp only [State.next]
      split
      · next hphase =>
          cases outcome with
          | answered => exact h.finish hphase _ fun time => rfl
          | raised => exact h.fail hphase .raised
          | timedOut => exact h.fail hphase .timedOut
          | cancelled => exact h.finish hphase _ fun time => rfl
      · exact h
  | coolDown c =>
      simp only [State.next]
      split
      · next hphase =>
          exact h.leave (by rw [hphase]; rfl) _ _ (fun hnot => absurd hphase hnot) fun _ => rfl
      · exact h
  | cancel c =>
      simp only [State.next]
      split
      · next hphase =>
          exact h.goTo (by rw [hphase]; rfl) fun hfailed => by rw [hphase] at hfailed; cases hfailed
      · exact h
  | clock time => exact h.clock time

theorem Inv.run (h : Inv cooldown s) (actions : List Action) :
    Inv cooldown (s.run cooldown actions) := by
  induction actions generalizing s with
  | nil => exact h
  | cons action actions ih => exact ih (h.next action)

/-- **The reconnect probe is single-flight and spaced.**  At most one ping runs at
a time, and none starts less than the cooldown after one that failed. -/
theorem single_flight_spaced (cooldown now : ℚ) (actions : List Action) :
    (∀ c c', ((start now).run cooldown actions).phase c = .pinging →
      ((start now).run cooldown actions).phase c' = .pinging → c = c') ∧
    Spaced cooldown ((start now).run cooldown actions).pings := by
  have hstart : Inv cooldown (start now) := Inv.start now
  have h := hstart.run actions
  refine ⟨?_, h.spaced⟩
  intro c c' hc hc'
  exact h.sole (by rw [hc']; rfl) (by rw [hc]; rfl)

/-- A burst during a slow ping: the second call gives up at once, the third after
the failure, and the one after the cooldown pings again. -/
example : ((start 0).run 5 [.enter 0, .acquire 0, .test 0, .clock 4, .enter 1, .ping 0 .timedOut,
    .coolDown 0, .enter 2, .acquire 2, .test 2, .clock 9, .enter 3, .acquire 3, .test 3]).pings =
    [.started 0, .ended .timedOut 4, .started 9] := by decide +kernel

end MovieApi.Locks.Probe
