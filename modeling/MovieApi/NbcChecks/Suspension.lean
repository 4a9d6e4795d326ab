import MovieApi.NbcChecks.Tasks

/-!
# How long an inconclusive answer suspends checks

Without quota errors the breaker should open for seconds.  It does, unless a
pass of the sweeper takes an unknown answer for a rate limit and stops all
checks for an hour.
-/

namespace MovieApi.NbcChecks

open Billing (PaymentIntent ProbeStatus Instant)
open Async

/-! ## The workers and Redis -/

structure State where
  now : Instant
  memory : WorkerId → Memory
  redis : Option RedisKey
  /-- when the last check came out inconclusive -/
  lastInconclusive : Option Instant

def State.view (s : State) (w : WorkerId) : View := ⟨s.memory w, s.redis⟩

def State.put (s : State) (w : WorkerId) (v : View) : State :=
  { s with memory := Function.update s.memory w v.memory, redis := v.redis }

def State.blocked (clocks : Clocks) (s : State) (w : WorkerId) (link : Link) : Bool :=
  bakongChecksBlocked (clocks.monotonic w s.now) s.now link (s.view w)

def State.putMemory (s : State) (w : WorkerId) (m : Memory) : State := s.put w ⟨m, s.redis⟩

/-- The sweeper's reaction to a rate limit. -/
def backedOff (mono now : Instant) (link : Link) (v : View) : View :=
  let v := noteBakongRateLimited mono now link v
  { v with memory := { v.memory with rateLimitUntil := mono + defaultCooldown } }

/-- How a call of a task is answered at once. -/
def answers (clocks : Clocks) (w : WorkerId) : (c : Call) → c.Answer → State → State → Prop
  | .checksBlocked _, blocked, s, s' => ∃ link, blocked = s.blocked clocks w link ∧ s' = s
  | .sweeperPaused, paused, s, s' =>
      paused = decide (clocks.monotonic w s.now < (s.memory w).rateLimitUntil) ∧ s' = s
  | .wasIntentRecentlyPolled id, polled, s, s' =>
      let result := wasIntentRecentlyPolled id (clocks.monotonic w s.now) (s.memory w)
      polled = result.1 ∧ s' = s.putMemory w result.2
  | .markIntentPolled id, _, s, s' =>
      s' = s.putMemory w (markIntentPolled id (clocks.monotonic w s.now) (s.memory w))
  | .probe _ md5 id, answer, s, s' => ∃ link status,
      let result := probeKhqrStatus md5 id (clocks.monotonic w s.now) s.now link (s.view w)
      result.1 = some status ∧ answer = some status ∧ s' = s.put w result.2
  | .backOff, _, s, s' => ∃ link,
      s' = s.put w (backedOff (clocks.monotonic w s.now) s.now link (s.view w))

/-- A probe that has to ask NBC. -/
def asks (clocks : Clocks) (w : WorkerId) (c : Call) (s s' : State) : Prop :=
  match c with
  | .probe _ md5 id => ∃ link,
      let result := probeKhqrStatus md5 id (clocks.monotonic w s.now) s.now link (s.view w)
      result.1 = none ∧ s' = s.put w result.2
  | _ => False

/-- The outcome of a check; none when the request raised. -/
def hears (clocks : Clocks) (w : WorkerId) :
    (c : Call) → Option Outcome → c.Answer → State → State → Prop
  | .probe _ md5 _, some outcome, answer, s, s' => ∃ link, answer = some outcome.status ∧
      s' = { s.put w (noteOutcome md5 outcome (clocks.monotonic w s.now) s.now link (s.view w)) with
        lastInconclusive := if outcome.inconclusive then some s.now else s.lastInconclusive }
  | .probe .., none, answer, s, s' => answer = none ∧ s' = s
  | _, _, _, _, _ => False

def machine (clocks : Clocks) : Machine Call Call.Answer WorkerId (Option Outcome) State where
  idle s s' := ∃ now, s.now ≤ now ∧ s' = { s with now := now }
  answers := answers clocks
  asks := asks clocks
  hears := hears clocks
  starts p := ∃ cfg fulfils task, p = Task.prog cfg fulfils task

abbrev Config := Async.Config Call Call.Answer WorkerId State

abbrev Event := Async.Event Call Call.Answer (Option Outcome)

/-! ## Conditions on runs -/

/-- The outcome reports no quota or rate limit. -/
def NoQuota : Event → Prop
  | .heard _ (some outcome) _ => outcome.quota = false
  | _ => True

/-- A pass that gets this answer stops and backs off. -/
def Call.Alarms : (c : Call) → c.Answer → Prop
  | .checksBlocked inPass, blocked => inPass = true ∧ blocked = true
  | .probe inPass _ _, status => inPass = true ∧ status = some .unknown
  | _, _ => False

/-- No pass of the sweeper is alarmed. -/
def Calm : Event → Prop
  | .quiet => True
  | .answered c a => ¬ c.Alarms a
  | .heard c _ a => ¬ c.Alarms a

/-- Nothing runs yet, and checks are not blocked. -/
structure Fresh (clocks : Clocks) (x : Config) : Prop where
  threads : x.threads = fun _ => none
  /-- monotonic clocks started at zero -/
  booted : ∀ w, 0 ≤ clocks.monotonic w x.state.now
  memory : ∀ w, (x.state.memory w).blockedUntil ≤ clocks.monotonic w x.state.now
  redis : ∀ key, x.state.redis = some key → key.blockedUntil ≤ x.state.now
  lastInconclusive : x.state.lastInconclusive = none

/-! ## Deadlines -/

/-- No deadline of the breaker is beyond a limit, read on both clocks. -/
structure View.Within (monoLimit limit : Instant) (v : View) : Prop where
  memory : v.memory.blockedUntil ≤ monoLimit
  redis : ∀ key, v.redis = some key → key.blockedUntil ≤ limit

variable {clocks : Clocks} {mono now monoLimit limit : Instant} {link : Link} {v : View}
  {m : Memory} {md5 : String} {w : WorkerId} {s s' : State}

@[simp] theorem setCachedMd5Status_blockedUntil (status : ProbeStatus) :
    (setCachedMd5Status md5 status now m).blockedUntil = m.blockedUntil := by
  unfold setCachedMd5Status
  split <;> rfl

@[simp] theorem markIntentPolled_blockedUntil (id : String) :
    (markIntentPolled id now m).blockedUntil = m.blockedUntil := by
  unfold markIntentPolled
  split <;> rfl

@[simp] theorem wasIntentRecentlyPolled_blockedUntil (id : String) :
    (wasIntentRecentlyPolled id now m).2.blockedUntil = m.blockedUntil := by
  unfold wasIntentRecentlyPolled
  split
  · rfl
  · split
    · rfl
    · split <;> rfl

@[simp] theorem getCachedMd5Status_blockedUntil :
    (getCachedMd5Status md5 now m).2.blockedUntil = m.blockedUntil := by
  unfold getCachedMd5Status
  split
  · rfl
  · split
    · rfl
    · split <;> rfl

@[simp] theorem consumeIntentNbcCheck_blockedUntil (id : String) :
    (consumeIntentNbcCheck id now m).2.blockedUntil = m.blockedUntil := by
  unfold consumeIntentNbcCheck
  split
  · rfl
  · dsimp only
    split
    · rfl
    · split
      · rfl
      · split <;> rfl

/-- A probe on its way to NBC leaves the breaker alone. -/
theorem probeKhqrStatus_breaker (id : Option String) :
    (probeKhqrStatus md5 id mono now link v).2.memory.blockedUntil = v.memory.blockedUntil ∧
      (probeKhqrStatus md5 id mono now link v).2.redis = v.redis := by
  unfold probeKhqrStatus
  split
  · exact ⟨rfl, rfl⟩
  · have hcached : (getCachedMd5Status md5 mono v.memory).2.blockedUntil = v.memory.blockedUntil :=
      getCachedMd5Status_blockedUntil
    split
    · next h => exact ⟨by simpa [h] using hcached, rfl⟩
    · next memory h =>
        rw [h] at hcached
        split
        · exact ⟨by simpa using hcached, rfl⟩
        · have hconsumed : ((id.elim (true, memory) fun id =>
              consumeIntentNbcCheck id mono memory).2).blockedUntil = v.memory.blockedUntil := by
            cases id <;> simpa using hcached
          split
          · next h => exact ⟨by simpa [h] using hconsumed, rfl⟩
          · next h => exact ⟨by simpa [h] using hconsumed, rfl⟩

theorem setBlockedUntil_within {cooldown : Int} (h : v.Within monoLimit limit)
    (hmono : mono + max (seconds 5) cooldown ≤ monoLimit)
    (hlimit : now + max (seconds 5) cooldown ≤ limit) :
    (setBlockedUntil cooldown mono now link v).Within monoLimit limit := by
  unfold setBlockedUntil
  dsimp only
  split
  · exact ⟨max_le h.memory hmono, h.redis⟩
  · refine ⟨max_le h.memory hmono, fun key hkey => ?_⟩
    obtain rfl := Option.some.inj hkey
    dsimp only
    cases hget : redisGet now v.redis with
    | none => exact hlimit
    | some until_ =>
        obtain ⟨old, hold, rfl⟩ := Option.map_eq_some_iff.1 hget
        exact max_le hlimit (h.redis old (Option.filter_eq_some_iff.1 hold).1)

theorem bakongChecksBlocked_eq_false (h : v.Within monoLimit limit) (hmono : monoLimit ≤ mono)
    (hlimit : limit ≤ now) : bakongChecksBlocked mono now link v = false := by
  unfold bakongChecksBlocked
  simp only [Bool.or_eq_false_iff, Bool.and_eq_false_iff, decide_eq_false_iff_not, not_lt]
  refine ⟨.inr ?_, h.memory.trans hmono⟩
  cases hget : redisGet now v.redis with
  | none => rfl
  | some until_ =>
      obtain ⟨key, hkey, rfl⟩ := Option.map_eq_some_iff.1 hget
      have hle := (h.redis key (Option.filter_eq_some_iff.1 hkey).1).trans hlimit
      simpa using hle

theorem probeKhqrStatus_within (id : Option String) (h : v.Within monoLimit limit) :
    (probeKhqrStatus md5 id mono now link v).2.Within monoLimit limit := by
  refine ⟨?_, ?_⟩
  · rw [(probeKhqrStatus_breaker id).1]
    exact h.memory
  · rw [(probeKhqrStatus_breaker id).2]
    exact h.redis

theorem noteOutcome_within {outcome : Outcome} (h : v.Within monoLimit limit)
    (hzero : 0 ≤ monoLimit) (hquota : outcome.quota = false)
    (hmono : outcome.inconclusive = true → mono + seconds 120 ≤ monoLimit)
    (hlimit : outcome.inconclusive = true → now + seconds 120 ≤ limit) :
    (noteOutcome md5 outcome mono now link v).Within monoLimit limit := by
  have hnoted : (if outcome.paid then clearBakongRateLimit link v
      else if outcome.inconclusive then
        if outcome.quota then noteBakongRateLimited mono now link v
        else noteBakongTransient mono now link v
      else v).Within monoLimit limit := by
    split
    · refine ⟨hzero, fun key hkey => ?_⟩
      unfold clearBakongRateLimit at hkey
      split at hkey
      · simp at hkey
      · exact h.redis key hkey
    · split
      · next hinconclusive =>
          have hcooldown : max (seconds 5) (max (seconds 5) (min transientCooldown (seconds 120))) ≤
              seconds 120 := by decide
          rw [hquota]
          exact setBlockedUntil_within h ((add_le_add_right hcooldown _).trans (hmono hinconclusive))
            ((add_le_add_right hcooldown _).trans (hlimit hinconclusive))
      · exact h
  exact ⟨by simpa [noteOutcome] using hnoted.memory, hnoted.redis⟩

/-! ## Runs -/

/-- Checks may be blocked until here. -/
def State.mayBlockUntil (start : Instant) (s : State) : Instant :=
  s.lastInconclusive.elim start fun last => last + seconds 120

/-- Since `start`, nothing has been blocked for longer than two minutes after an
inconclusive outcome. -/
structure Brief (clocks : Clocks) (start : Instant) (s : State) : Prop where
  started : start ≤ s.now
  booted : ∀ w, 0 ≤ clocks.monotonic w start
  last : ∀ last, s.lastInconclusive = some last → start ≤ last ∧ last ≤ s.now
  within : ∀ w, (s.view w).Within (clocks.monotonic w (s.mayBlockUntil start)) (s.mayBlockUntil start)

theorem monotonic_mono (clocks : Clocks) (w : WorkerId) (h : now ≤ limit) :
    clocks.monotonic w now ≤ clocks.monotonic w limit :=
  sub_le_sub_right h _

variable {start : Instant}

theorem Brief.mayBlockUntil_le (h : Brief clocks start s) : s.mayBlockUntil start ≤ s.now + seconds 120 := by
  unfold State.mayBlockUntil
  cases hlast : s.lastInconclusive with
  | none => exact h.started.trans (le_add_of_nonneg_right (by decide))
  | some last => exact add_le_add_left (h.last last hlast).2 _

theorem Brief.start_le (h : Brief clocks start s) : start ≤ s.mayBlockUntil start := by
  unfold State.mayBlockUntil
  cases hlast : s.lastInconclusive with
  | none => exact le_rfl
  | some last => exact (h.last last hlast).1.trans (le_add_of_nonneg_right (by decide))

/-- A worker's view is replaced, with deadlines that keep within the limit. -/
theorem Brief.put (h : Brief clocks start s) {v : View}
    (hv : v.Within (clocks.monotonic w (s.mayBlockUntil start)) (s.mayBlockUntil start)) :
    Brief clocks start (s.put w v) := by
  refine ⟨h.started, h.booted, h.last, fun w' => ⟨?_, hv.redis⟩⟩
  by_cases hw : w' = w
  · subst hw
    simpa [State.put, State.view, State.mayBlockUntil] using hv.memory
  · simpa [State.put, State.view, State.mayBlockUntil, Function.update_of_ne hw] using (h.within w').memory

theorem Brief.answers (h : Brief clocks start s) {c : Call} {a : c.Answer} (hc : c ≠ .backOff)
    (hanswer : answers clocks w c a s s') : Brief clocks start s' := by
  cases c with
  | checksBlocked inPass =>
      obtain ⟨link, -, rfl⟩ := hanswer
      exact h
  | sweeperPaused =>
      obtain ⟨-, rfl⟩ := hanswer
      exact h
  | wasIntentRecentlyPolled id =>
      obtain ⟨-, rfl⟩ := hanswer
      exact h.put ⟨by simpa [State.view] using (h.within w).memory, (h.within w).redis⟩
  | markIntentPolled id =>
      obtain rfl := hanswer
      exact h.put ⟨by simpa [State.view] using (h.within w).memory, (h.within w).redis⟩
  | probe inPass md5 id =>
      obtain ⟨link, status, -, -, rfl⟩ := hanswer
      exact h.put (probeKhqrStatus_within id (h.within w))
  | backOff => exact absurd rfl hc

theorem Brief.asks (h : Brief clocks start s) {c : Call} (hask : asks clocks w c s s') :
    Brief clocks start s' := by
  cases c with
  | probe inPass md5 id =>
      obtain ⟨link, -, rfl⟩ := hask
      exact h.put (probeKhqrStatus_within id (h.within w))
  | _ => exact hask.elim

theorem Brief.hears (h : Brief clocks start s) {c : Call} {message : Option Outcome} {a : c.Answer}
    (hquota : NoQuota (.heard c message a)) (hhear : hears clocks w c message a s s') :
    Brief clocks start s' := by
  cases c with
  | probe inPass md5 id =>
      cases message with
      | none =>
          obtain ⟨-, rfl⟩ := hhear
          exact h
      | some outcome =>
          obtain ⟨link, -, rfl⟩ := hhear
          have hnow := h.mayBlockUntil_le
          by_cases hinconclusive : outcome.inconclusive = true
          · have hview (w' : WorkerId) : (s.view w').Within (clocks.monotonic w' (s.now + seconds 120))
                (s.now + seconds 120) :=
              ⟨(h.within w').memory.trans (monotonic_mono clocks w' hnow),
                fun key hkey => ((h.within w').redis key hkey).trans hnow⟩
            have hzero : 0 ≤ clocks.monotonic w (s.now + seconds 120) :=
              (h.booted w).trans (monotonic_mono clocks w (h.start_le.trans hnow))
            have hnoted : (noteOutcome md5 outcome (clocks.monotonic w s.now) s.now link
                (s.view w)).Within (clocks.monotonic w (s.now + seconds 120))
                  (s.now + seconds 120) :=
              noteOutcome_within (hview w) hzero hquota (fun _ => (sub_add_eq_add_sub ..).le)
                (fun _ => le_rfl)
            refine ⟨h.started, h.booted, fun last hlast => ?_, fun w' => ?_⟩
            · simp only [hinconclusive, if_true, Option.some.injEq] at hlast
              exact hlast ▸ ⟨h.started, le_rfl⟩
            · simp only [State.mayBlockUntil, hinconclusive, if_true, Option.elim_some]
              refine ⟨?_, hnoted.redis⟩
              by_cases hw : w' = w
              · subst hw
                simpa [State.put, State.view] using hnoted.memory
              · simpa [State.put, State.view, Function.update_of_ne hw] using (hview w').memory
          · have hzero : 0 ≤ clocks.monotonic w (s.mayBlockUntil start) :=
              (h.booted w).trans (monotonic_mono clocks w h.start_le)
            have hnoted : (noteOutcome md5 outcome (clocks.monotonic w s.now) s.now link
                (s.view w)).Within (clocks.monotonic w (s.mayBlockUntil start))
                  (s.mayBlockUntil start) :=
              noteOutcome_within (h.within w) hzero hquota
                (fun hyes => absurd hyes hinconclusive) (fun hyes => absurd hyes hinconclusive)
            simpa [hinconclusive, State.put] using h.put hnoted
  | _ => exact hhear.elim

/-! ## Tasks that cause no pause -/

/-- A program of a task without alarms in its passes never backs off. -/
abbrev Peaceful {α : Type} (p : Prog α) (post : α → Prop) : Prop :=
  p.Under (fun c a => ¬ c.Alarms a) (fun c => c ≠ .backOff) post

section

variable {cfg : Settings} {fulfils : PaymentIntent → Bool}

theorem perform_peaceful {c : Call} {post : c.Answer → Prop} (hc : c ≠ .backOff)
    (hpost : ∀ a, ¬ c.Alarms a → post a) : Peaceful (perform c) post :=
  .perform hc hpost

theorem perform_any {c : Call} (hc : c ≠ .backOff) : Peaceful (perform c) fun _ => True :=
  perform_peaceful hc fun _ _ => trivial

theorem probeKhqr_peaceful (inPass : Bool) (md5 : String) (id : Option String) :
    Peaceful (probeKhqr inPass md5 id) fun status => inPass = true → status ≠ .unknown := by
  refine .bind (perform_peaceful (by simp) fun _ h => h) fun answer hanswer => ?_
  cases answer with
  | none => trivial
  | some status => exact fun hpass hunknown => hanswer ⟨hpass, hunknown ▸ rfl⟩

theorem bakongMd5sPaid_peaceful (intent : PaymentIntent) :
    Peaceful (bakongMd5sPaid cfg intent) fun _ => True := by
  unfold bakongMd5sPaid
  split
  · trivial
  · split
    · trivial
    · refine .bind (probeKhqr_peaceful ..) fun status _ => ?_
      cases status with
      | paid | unknown => trivial
      | unpaid =>
          dsimp only
          split
          · trivial
          · split
            · trivial
            · exact .bind (probeKhqr_peaceful ..) fun _ _ => trivial

theorem settleBakongIntentIfPaid_peaceful (intent : PaymentIntent) :
    Peaceful (settleBakongIntentIfPaid cfg fulfils intent) fun _ => True := by
  unfold settleBakongIntentIfPaid
  split
  · trivial
  · split
    · trivial
    · split
      · trivial
      · refine .bind (bakongMd5sPaid_peaceful intent) fun paid _ => ?_
        cases paid with
        | false => trivial
        | true =>
            rw [if_pos rfl]
            split
            · trivial
            · trivial

theorem settlePendingIntentOnPoll_peaceful (owned : Bool) (sibling : Option PaymentIntent)
    (intent : PaymentIntent) :
    Peaceful (settlePendingIntentOnPoll cfg fulfils owned sibling intent) fun _ => True := by
  have hmark : Peaceful (markPolled intent.intentId) fun _ => True := perform_any (by simp)
  unfold settlePendingIntentOnPoll
  split
  · trivial
  · split
    · trivial
    · split
      · trivial
      · refine .bind (perform_any (by simp)) fun blocked _ => ?_
        split
        · exact hmark
        · refine .bind (settleBakongIntentIfPaid_peaceful intent) fun settled _ => ?_
          split
          · exact hmark
          · split
            · exact hmark
            · exact .bind (settleBakongIntentIfPaid_peaceful _) fun _ _ => hmark

theorem settleFirstPaid_peaceful (intents : List PaymentIntent) :
    Peaceful (settleFirstPaid cfg fulfils intents) fun _ => True := by
  induction intents with
  | nil => trivial
  | cons intent intents ih =>
      refine .bind (settleBakongIntentIfPaid_peaceful intent) fun settled _ => ?_
      split
      · trivial
      · exact ih

theorem settlePendingMovieBakongForBuyer_peaceful (intents : List PaymentIntent) :
    Peaceful (settlePendingMovieBakongForBuyer cfg fulfils intents) fun _ => True := by
  unfold settlePendingMovieBakongForBuyer
  split
  · trivial
  · refine .bind (perform_any (by simp)) fun blocked _ => ?_
    split
    · trivial
    · exact settleFirstPaid_peaceful intents

theorem allUnpaid_peaceful (id : String) (md5s : List String) :
    Peaceful (allUnpaid id md5s) fun _ => True := by
  induction md5s with
  | nil => trivial
  | cons md5 md5s ih =>
      refine .bind (probeKhqr_peaceful ..) fun status _ => ?_
      split
      · exact ih
      · trivial

theorem bakongQrConfirmedUnpaid_peaceful (intent : PaymentIntent) :
    Peaceful (bakongQrConfirmedUnpaid cfg intent) fun _ => True := by
  unfold bakongQrConfirmedUnpaid
  split
  · exact allUnpaid_peaceful ..
  · trivial

theorem notRecentlyPolled_peaceful (intents : List PaymentIntent) :
    Peaceful (notRecentlyPolled intents) fun _ => True := by
  induction intents with
  | nil => trivial
  | cons intent intents ih =>
      exact .bind (perform_any (by simp)) fun _ _ => .bind ih fun _ _ => trivial

theorem sweepStatus_peaceful (intent : PaymentIntent) {status : ProbeStatus}
    (hstatus : status ≠ .unknown) :
    Peaceful (sweepStatus intent status) fun paid => paid ≠ none := by
  unfold sweepStatus
  split
  · exact absurd rfl hstatus
  · exact Option.some_ne_none _
  · split
    · exact Option.some_ne_none _
    · refine .bind (probeKhqr_peaceful ..) fun prev hprev => ?_
      cases prev with
      | unknown => exact absurd rfl (hprev rfl)
      | paid | unpaid => exact Option.some_ne_none _

/-- Without alarms the loop of a pass is not cut short. -/
theorem sweepIntents_peaceful (intents : List PaymentIntent) (settled : Nat) :
    Peaceful (sweepIntents cfg fulfils intents settled) fun result => result.2 = false := by
  induction intents generalizing settled with
  | nil => rfl
  | cons intent intents ih =>
      refine .bind (perform_peaceful (by simp) fun _ h => h) fun blocked hblocked => ?_
      split
      · next hyes => exact absurd ⟨rfl, hyes⟩ hblocked
      · refine .bind (probeKhqr_peaceful ..).attempt fun answer hanswer => ?_
        cases answer with
        | none => exact ih settled
        | some status =>
            refine .bind (sweepStatus_peaceful intent (hanswer status rfl rfl)) fun paid hpaid => ?_
            match paid with
            | none => exact absurd rfl hpaid
            | some false => exact ih settled
            | some true =>
                refine .bind (settleBakongIntentIfPaid_peaceful intent).attempt fun done _ => ?_
                split
                · exact ih (settled + 1)
                · exact ih settled

theorem sweepPendingBakongIntents_peaceful (batch : List PaymentIntent) (commits : Bool) :
    Peaceful (sweepPendingBakongIntents cfg fulfils batch commits) fun _ => True := by
  refine .bind (perform_any (by simp)) fun paused _ => ?_
  split
  · trivial
  · refine .bind (perform_any (by simp)) fun blocked _ => ?_
    split
    · trivial
    · refine .bind (notRecentlyPolled_peaceful batch) fun intents _ => ?_
      split
      · trivial
      · refine .bind (sweepIntents_peaceful intents 0) fun result hresult => ?_
        dsimp only
        split
        · trivial
        · rw [hresult]
          trivial

theorem Task.prog_peaceful (task : Task) : Peaceful (task.prog cfg fulfils) fun _ => True := by
  cases task with
  | poll owned sibling intent => exact settlePendingIntentOnPoll_peaceful owned sibling intent
  | playback intents =>
      exact .bind (settlePendingMovieBakongForBuyer_peaceful intents) fun _ _ => trivial
  | refreshQr intent => exact .bind (bakongQrConfirmedUnpaid_peaceful intent) fun _ _ => trivial
  | sweep batch commits =>
      exact .bind (sweepPendingBakongIntents_peaceful batch commits) fun _ _ => trivial

end

/-! ## The suspension -/

theorem brief_keeps (clocks : Clocks) (start : Instant) :
    Keeps (machine clocks) (fun event => NoQuota event ∧ Calm event) (fun c a => ¬ c.Alarms a)
      (fun c => c ≠ .backOff) (Brief clocks start) where
  idle h hidle := by
    obtain ⟨now, hle, rfl⟩ := hidle
    exact ⟨h.started.trans hle, h.booted,
      fun last hlast => ⟨(h.last last hlast).1, (h.last last hlast).2.trans hle⟩, h.within⟩
  answers hpermitted h hanswer hok := ⟨hok.2, h.answers hpermitted hanswer⟩
  asks _ h hask := h.asks hask
  hears _ h hhear hok := ⟨hok.2, h.hears hok.1 hhear⟩
  starts hstart := by
    obtain ⟨cfg, fulfils, task, rfl⟩ := hstart
    exact task.prog_peaceful

/-- Two minutes after the last inconclusive outcome no check is blocked. -/
def Resumes (clocks : Clocks) (s : State) : Prop :=
  (∀ last, s.lastInconclusive = some last → last + seconds 120 < s.now) →
    ∀ w link, s.blocked clocks w link = false

/-- If no outcome reports a quota error and no pass of the sweeper is alarmed,
checks resume two minutes after the last inconclusive outcome. -/
theorem checks_resume (clocks : Clocks) {x y : Config} (hfresh : Fresh clocks x)
    (hrun : Runs (machine clocks) (fun event => NoQuota event ∧ Calm event) x y) :
    Resumes clocks y.state := by
  have hbrief : Brief clocks x.state.now x.state := by
    refine ⟨le_rfl, hfresh.booted, by simp [hfresh.lastInconclusive], fun w => ?_⟩
    simp only [State.mayBlockUntil, hfresh.lastInconclusive, Option.elim_none]
    exact ⟨hfresh.memory w, hfresh.redis⟩
  have hsound := (brief_keeps clocks x.state.now).runs ⟨hbrief, by simp [hfresh.threads]⟩ hrun
  intro hlate w link
  have hend : y.state.mayBlockUntil x.state.now ≤ y.state.now := by
    unfold State.mayBlockUntil
    cases hlast : y.state.lastInconclusive with
    | none => exact hsound.state.started
    | some last => exact (hlate last hlast).le
  exact bakongChecksBlocked_eq_false (hsound.state.within w) (monotonic_mono clocks w hend) hend

/-! ## A pass that meets one unreachable server -/

def oneClock : Clocks := fun _ => 0

def settleSettings : Settings := ⟨true⟩

def pendingIntent : PaymentIntent :=
  { intentId := "bkg-1", orderId := "single-10-a", userId := some 1, guestId := none,
    method := .bakong, bakongMd5 := some "m1", bakongPrevMd5 := none, bakongQr := some "qr",
    bakongMerchantName := none, bakongQrCreatedAt := some 0, kind := .single, contentId := some 10,
    seriesId := none, planCode := none, planIntervalDays := none, amountUsd := 300,
    status := .pending, createdAt := 0, resolvedAt := none }

/-- One worker, nothing running, at time zero. -/
def quietConfig : Config :=
  { state := ⟨0, fun _ => Memory.empty, none, none⟩, threads := fun _ => none }

theorem quietConfig_fresh : Fresh oneClock quietConfig :=
  ⟨rfl, fun _ => le_refl (0 : Int), fun _ => le_refl (0 : Int), by simp [quietConfig], rfl⟩

def noRedis : Link := ⟨false, false, false⟩

/-- The request failed: paid or not, nobody knows. -/
def unreachable : Outcome := ⟨false, true, false⟩

section

variable {ok : Event → Prop} {x y : Config} {c : Call} {k : c.Answer → Prog Unit}

/-- The only task makes a call, which is answered. -/
theorem run_answer (h : Runs (machine oneClock) ok x y) (a : c.Answer)
    (hthread : y.threads 0 = some (0, .running (.call c k)))
    (hanswer : NbcChecks.answers oneClock 0 c a y.state s) (hok : ok (.answered c a)) :
    Runs (machine oneClock) ok x (y.set s 0 0 (.running (k a))) :=
  h.tail ⟨_, hok, .answered hthread hanswer⟩

/-- The only task makes a call and hears this message. -/
theorem run_ask (h : Runs (machine oneClock) ok x y) (message : Option Outcome) (a : c.Answer)
    (hthread : y.threads 0 = some (0, .running (.call c k)))
    (hask : NbcChecks.asks oneClock 0 c y.state s)
    (hhear : NbcChecks.hears oneClock 0 c message a s s') (hquiet : ok .quiet)
    (hok : ok (.heard c message a)) :
    Runs (machine oneClock) ok x ((y.set s 0 0 (.waiting c k)).set s' 0 0 (.running (k a))) := by
  have hasked := h.tail ⟨_, hquiet, .asked hthread hask⟩
  have hthread' : (y.set s 0 0 (Thread.waiting c k)).threads 0 = some (0, .waiting c k) := by
    simp [Config.set]
  exact hasked.tail ⟨_, hok, .heard hthread' hhear⟩

end

/-- A poll gets no answer at time zero; two minutes later checks go on. -/
theorem poll_resumes : ∃ y : Config,
    Runs (machine oneClock) (fun event => NoQuota event ∧ Calm event) quietConfig y ∧
    y.state.lastInconclusive = some 0 ∧ y.state.now = seconds 121 ∧
    Resumes oneClock y.state := by
  have hstart : Runs (machine oneClock) (fun event => NoQuota event ∧ Calm event) quietConfig _ :=
    .tail .refl ⟨.quiet, ⟨trivial, trivial⟩, .start (t := 0) (w := 0) rfl
      ⟨settleSettings, fun _ => true, .poll false none pendingIntent, rfl⟩⟩
  have hopen := run_answer hstart (c := .checksBlocked false) false rfl ⟨noRedis, rfl, rfl⟩
    ⟨trivial, by simp [Calm, Call.Alarms]⟩
  have hasked := run_ask hopen (c := .probe false "m1" (some "bkg-1")) (some unreachable)
    (some .unknown) rfl ⟨noRedis, rfl, rfl⟩ ⟨noRedis, rfl, rfl⟩ ⟨trivial, trivial⟩
    ⟨rfl, by simp [Calm, Call.Alarms]⟩
  have hlater : (0 : Int) ≤ seconds 121 := by decide
  have hidle : Runs (machine oneClock) (fun event => NoQuota event ∧ Calm event) quietConfig _ :=
    .tail hasked ⟨.quiet, ⟨trivial, trivial⟩, .idle ⟨seconds 121, hlater, rfl⟩⟩
  exact ⟨_, hidle, rfl, rfl, checks_resume oneClock quietConfig_fresh hidle⟩

/-- One failed request of a pass, and an hour without checks. -/
theorem sweep_suspends_checks :
    ¬ ∀ (clocks : Clocks) (x y : Config), Fresh clocks x → Runs (machine clocks) NoQuota x y →
      Resumes clocks y.state := by
  intro h
  have hstart : Runs (machine oneClock) NoQuota quietConfig _ :=
    .tail .refl ⟨.quiet, trivial, .start (t := 0) (w := 0) rfl
      ⟨settleSettings, fun _ => true, .sweep [pendingIntent] true, rfl⟩⟩
  have hrunning := run_answer hstart (c := .sweeperPaused) false rfl ⟨rfl, rfl⟩ trivial
  have hopen := run_answer hrunning (c := .checksBlocked false) false rfl ⟨noRedis, rfl, rfl⟩ trivial
  have hbatch := run_answer hopen (c := .wasIntentRecentlyPolled "bkg-1") false rfl ⟨rfl, rfl⟩ trivial
  have hturn := run_answer hbatch (c := .checksBlocked true) false rfl ⟨noRedis, rfl, rfl⟩ trivial
  have hasked := run_ask hturn (c := .probe true "m1" none) (some unreachable) (some .unknown) rfl
    ⟨noRedis, rfl, rfl⟩ ⟨noRedis, rfl, rfl⟩ trivial rfl
  have hbacked := run_answer hasked (c := .backOff) () rfl ⟨noRedis, rfl⟩ trivial
  have hlater : (0 : Int) ≤ seconds 121 := by decide
  have hidle : Runs (machine oneClock) NoQuota quietConfig _ :=
    .tail hbacked ⟨.quiet, trivial, .idle ⟨seconds 121, hlater, rfl⟩⟩
  have hlast : ∀ last, some (0 : Instant) = some last → last + seconds 120 < seconds 121 := by
    intro last hlast
    obtain rfl := Option.some.inj hlast
    decide
  have hblocked := h oneClock quietConfig _ quietConfig_fresh hidle hlast 0 noRedis
  exact Bool.noConfusion hblocked

end MovieApi.NbcChecks
