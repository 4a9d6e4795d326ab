import MovieApi.NbcChecks.Breaker

/-!
# Paid stays paid

A probe reads the cache, waits for NBC and then writes the cache.  One that was
answered before the payment can come back after another one has noted it, and then
its older answer takes the place of `paid`.
-/

namespace MovieApi.NbcChecks

open Billing (ProbeStatus Instant)

/-! ## Probes of one worker -/

/-- Where a probe is. -/
inductive ProbePhase where
  | idle
  /-- The cache had nothing, and NBC is asked. -/
  | asking (md5 : String)
  /-- NBC has answered, and the answer is on its way. -/
  | answered (md5 : String) (outcome : Outcome)
deriving DecidableEq, Repr

inductive ProbeEvent where
  /-- A probe has written `paid` to the cache. -/
  | notedPaid (md5 : String) (time : Instant)
  | returned (md5 : String) (status : ProbeStatus) (time : Instant)
deriving DecidableEq, Repr

/-- What `paid` asks of an answer that comes later. -/
def ProbeEvent.Agree : ProbeEvent → ProbeEvent → Prop
  | .notedPaid md5 noted, .returned md5' status time =>
      md5' = md5 → time < noted + paidTtl → status = .paid
  | _, _ => True

/-- One worker with its probes, and NBC, which knows the md5s that are paid. -/
structure ProbeSite where
  now : Instant
  view : View
  paidAtNbc : List String
  probes : Nat → ProbePhase
  log : List ProbeEvent

inductive ProbeAction where
  | wait (d : Nat)
  /-- Other workers change the key of the breaker. -/
  | outside (redis : Option RedisKey)
  | pay (md5 : String)
  | probe (task : Nat) (md5 : String) (intentId : Option String) (link : Link)
  /-- NBC answers, or the answer is inconclusive. -/
  | answer (task : Nat) (lost quota : Bool)
  | resume (task : Nat) (link : Link)
  /-- The request raises. -/
  | fail (task : Nat)
deriving DecidableEq, Repr

namespace ProbeSite

variable (clocks : Clocks) (w : WorkerId)

def enter (s : ProbeSite) (task : Nat) (phase : ProbePhase) : ProbeSite :=
  { s with probes := Function.update s.probes task phase }

def record (s : ProbeSite) (event : ProbeEvent) : ProbeSite := { s with log := s.log ++ [event] }

/-- What NBC answers; what it knows to be paid is never unpaid again. -/
def outcome (s : ProbeSite) (md5 : String) (lost quota : Bool) : Outcome :=
  if lost then ⟨false, true, quota⟩ else ⟨decide (md5 ∈ s.paidAtNbc), false, false⟩

/-- `probe_khqr_status` up to its request. -/
def ask (s : ProbeSite) (task : Nat) (md5 : String) (intentId : Option String) (link : Link) :
    ProbeSite :=
  let answer := probeKhqrStatus md5 intentId (clocks.monotonic w s.now) s.now link s.view
  let s := { s with view := answer.2 }
  match answer.1 with
  | some status => s.record (.returned md5 status s.now)
  | none => s.enter task (.asking md5)

/-- `probe_khqr_status` after the request. -/
def note (s : ProbeSite) (task : Nat) (md5 : String) (outcome : Outcome) (link : Link) :
    ProbeSite :=
  let s := { s with view := noteOutcome md5 outcome (clocks.monotonic w s.now) s.now link s.view }
  let s := if outcome.status = .paid then s.record (.notedPaid md5 s.now) else s
  (s.record (.returned md5 outcome.status s.now)).enter task .idle

def next (s : ProbeSite) : ProbeAction → ProbeSite
  | .wait d => { s with now := s.now + d }
  | .outside redis => { s with view := { s.view with redis := redis } }
  | .pay md5 => { s with paidAtNbc := md5 :: s.paidAtNbc }
  | .probe task md5 intentId link =>
      if s.probes task = .idle then s.ask clocks w task md5 intentId link else s
  | .answer task lost quota => match s.probes task with
    | .asking md5 => s.enter task (.answered md5 (s.outcome md5 lost quota))
    | _ => s
  | .resume task link => match s.probes task with
    | .answered md5 outcome => s.note clocks w task md5 outcome link
    | _ => s
  | .fail task => match s.probes task with
    | .asking _ => s.enter task .idle
    | _ => s

/-- A probe that comes back with another answer than `paid` was not overtaken: no probe
of the md5 has noted `paid` since it read the cache, less than 60 seconds ago. -/
def notOvertaken (s : ProbeSite) : ProbeAction → Bool
  | .resume task _ => match s.probes task with
    | .answered md5 outcome => decide (outcome.status = .paid) ||
        decide ((getCachedMd5Status md5 (clocks.monotonic w s.now) s.view.memory).1 ≠ some .paid)
    | _ => true
  | _ => true

inductive Reached (s₀ : ProbeSite) : ProbeSite → Prop
  | refl : Reached s₀ s₀
  | step {s : ProbeSite} {action : ProbeAction} (h : Reached s₀ s)
      (hfree : s.notOvertaken clocks w action = true) : Reached s₀ (s.next clocks w action)

def fresh (now : Instant) (view : View) (paidAtNbc : List String) : ProbeSite :=
  ⟨now, view, paidAtNbc, fun _ => .idle, []⟩

/-- Once a probe has noted `paid`, every probe of the md5 that returns within 60 seconds
returns `paid`. -/
def Terminal (s : ProbeSite) : Prop := s.log.Pairwise ProbeEvent.Agree

end ProbeSite

/-! ## The cache keeps `paid` -/

/-- The cache has `paid` for the md5 until this time at least. -/
def Memory.PaidUntil (m : Memory) (md5 : String) (deadline : Instant) : Prop :=
  ∃ expires, m.md5Cache.get? md5 = some (.paid, expires) ∧ deadline ≤ expires

section

variable {m : Memory} {md5 md5' : String} {deadline mono now : Instant} {status : ProbeStatus}
  {link : Link} {v : View}

theorem Memory.PaidUntil.prune (h : m.PaidUntil md5 deadline) (hlive : mono < deadline) :
    (m.prune mono).PaidUntil md5 deadline := by
  obtain ⟨expires, hentry, hle⟩ := h
  exact ⟨expires, Dict.get?_filter hentry (decide_eq_true (lt_of_lt_of_le hlive hle)), hle⟩

theorem Memory.PaidUntil.set_of_ne (h : m.PaidUntil md5 deadline) (hlive : mono < deadline)
    (hne : md5 ≠ md5') : (setCachedMd5Status md5' status mono m).PaidUntil md5 deadline := by
  unfold setCachedMd5Status
  split
  · exact h
  · obtain ⟨expires, hentry, hle⟩ := h.prune hlive
    exact ⟨expires, by rw [Dict.get?_put_of_ne hne]; exact hentry, hle⟩

theorem paidUntil_set (hmd5 : md5 ≠ "") (hle : deadline ≤ mono + paidTtl) :
    (setCachedMd5Status md5 .paid mono m).PaidUntil md5 deadline := by
  unfold setCachedMd5Status
  rw [if_neg hmd5]
  exact ⟨mono + ttlForStatus .paid, Dict.get?_put_self, hle⟩

/-- A cached `paid` is what `get_cached_md5_status` finds. -/
theorem Memory.PaidUntil.get (h : m.PaidUntil md5 deadline) (hlive : mono < deadline)
    (hmd5 : md5 ≠ "") : getCachedMd5Status md5 mono m = (some .paid, m) := by
  obtain ⟨expires, hentry, hle⟩ := h
  have hexpires : ¬ expires ≤ mono := not_le.2 (lt_of_lt_of_le hlive hle)
  simp [getCachedMd5Status, hmd5, hentry, hexpires]

/-- Reading the cache drops lapsed entries only. -/
theorem Memory.PaidUntil.read (h : m.PaidUntil md5 deadline) (hlive : mono < deadline) :
    (getCachedMd5Status md5' mono m).2.PaidUntil md5 deadline := by
  unfold getCachedMd5Status
  split
  · exact h
  · cases hentry : m.md5Cache.get? md5' with
    | none => exact h
    | some entry =>
        obtain ⟨status, expires⟩ := entry
        simp only
        split
        · next hlapsed =>
            obtain ⟨expires', hentry', hle⟩ := h
            have hne : md5 ≠ md5' := by
              rintro rfl
              rw [hentry] at hentry'
              cases hentry'
              exact absurd (lt_of_lt_of_le hlive hle) (not_lt.2 hlapsed)
            exact ⟨expires', by rw [Dict.get?_del_of_ne hne]; exact hentry', hle⟩
        · exact h

theorem Memory.PaidUntil.congr {m' : Memory} (h : m.PaidUntil md5 deadline)
    (hcache : m'.md5Cache = m.md5Cache) : m'.PaidUntil md5 deadline := by
  obtain ⟨expires, hentry, hle⟩ := h
  exact ⟨expires, by rwa [hcache], hle⟩

theorem reserved_md5Cache (intentId : Option String) (mono : Instant) (m : Memory) :
    (intentId.elim (true, m) fun id => consumeIntentNbcCheck id mono m).2.md5Cache =
      m.md5Cache := by
  cases intentId with
  | none => rfl
  | some id =>
      simp only [Option.elim_some, consumeIntentNbcCheck]
      split
      · rfl
      cases m.intentNbcChecks.get? id with
      | none => rfl
      | some entry =>
          simp only
          split
          · rfl
          · split <;> rfl

/-- A probe keeps a cached `paid`, and returns it when asked for that md5. -/
theorem Memory.PaidUntil.probe (h : v.memory.PaidUntil md5 deadline) (hlive : mono < deadline)
    (intentId : Option String) :
    (probeKhqrStatus md5' intentId mono now link v).2.memory.PaidUntil md5 deadline ∧
      (md5' = md5 → md5 ≠ "" → (probeKhqrStatus md5' intentId mono now link v).1 = some .paid) := by
  unfold probeKhqrStatus
  split
  · next hempty => exact ⟨h, fun hsame hmd5 => absurd (hsame ▸ hempty) hmd5⟩
  next hmd5 =>
  by_cases hsame : md5' = md5
  · subst hsame
    rw [h.get hlive hmd5]
    exact ⟨h, fun _ _ => rfl⟩
  · refine ⟨?_, fun heq => absurd heq hsame⟩
    have hread : (getCachedMd5Status md5' mono v.memory).2.PaidUntil md5 deadline := h.read hlive
    have hne : md5 ≠ md5' := Ne.symm hsame
    cases hget : getCachedMd5Status md5' mono v.memory with
    | mk found memory =>
        rw [hget] at hread
        cases found with
        | some status => exact hread
        | none =>
            simp only
            split
            · exact hread.set_of_ne hlive hne
            · have hcounted := hread.congr (reserved_md5Cache intentId mono memory)
              cases hreserved : intentId.elim (true, memory) fun id =>
                  consumeIntentNbcCheck id mono memory with
              | mk granted memory' =>
                  rw [hreserved] at hcounted
                  cases granted with
                  | false => exact hcounted.set_of_ne hlive hne
                  | true => exact hcounted

theorem setBlockedUntil_md5Cache (cooldown : Int) (mono now : Instant) (link : Link) (v : View) :
    (setBlockedUntil cooldown mono now link v).memory.md5Cache = v.memory.md5Cache := by
  unfold setBlockedUntil
  split <;> rfl

/-- The cache that a probe leaves when it has heard of NBC. -/
theorem noteOutcome_paidUntil (v : View) (md5 : String) (mono now : Instant)
    (outcome : Outcome) (link : Link) :
    (∀ md5' deadline, v.memory.PaidUntil md5' deadline → mono < deadline → md5' ≠ md5 →
      (noteOutcome md5 outcome mono now link v).memory.PaidUntil md5' deadline) ∧
    (outcome.status = .paid → md5 ≠ "" → ∀ deadline ≤ mono + paidTtl,
      (noteOutcome md5 outcome mono now link v).memory.PaidUntil md5 deadline) := by
  unfold noteOutcome
  refine ⟨fun md5' deadline h hlive hne => ?_, fun hpaid hmd5 deadline hle => ?_⟩
  · refine Memory.PaidUntil.set_of_ne (h.congr ?_) hlive hne
    split
    · rfl
    · split
      · split
        · exact setBlockedUntil_md5Cache _ _ _ _ _
        · exact setBlockedUntil_md5Cache _ _ _ _ _
      · rfl
  · rw [hpaid]
    exact paidUntil_set hmd5 hle

end

/-! ## Runs -/

namespace ProbeSite

variable {clocks : Clocks} {w : WorkerId} {s : ProbeSite}

/-- A noted `paid` is in the cache for its time, and every later answer agrees with it. -/
structure Kept (clocks : Clocks) (w : WorkerId) (s : ProbeSite) : Prop where
  asked : ∀ task md5, s.probes task = .asking md5 → md5 ≠ ""
  answered : ∀ task md5 outcome, s.probes task = .answered md5 outcome → md5 ≠ ""
  noted : ∀ md5 noted, .notedPaid md5 noted ∈ s.log → md5 ≠ "" ∧ noted ≤ s.now ∧
    (s.now < noted + paidTtl →
      s.view.memory.PaidUntil md5 (clocks.monotonic w noted + paidTtl))
  terminal : s.Terminal

theorem monotonic_lt {now noted : Instant} (h : now < noted + paidTtl) :
    clocks.monotonic w now < clocks.monotonic w noted + paidTtl := by
  simp only [Clocks.monotonic]
  linarith

/-- A probe moves from one phase to the next. -/
theorem Kept.enter (h : s.Kept clocks w) {task : Nat} {phase : ProbePhase}
    (hasked : ∀ md5, phase = .asking md5 → md5 ≠ "")
    (hanswered : ∀ md5 outcome, phase = .answered md5 outcome → md5 ≠ "") :
    (s.enter task phase).Kept clocks w where
  asked task' md5 hprobe := by
    by_cases htask : task' = task
    · subst htask
      exact hasked md5 (by simpa [ProbeSite.enter] using hprobe)
    · exact h.asked task' md5 (by simpa [ProbeSite.enter, htask] using hprobe)
  answered task' md5 outcome hprobe := by
    by_cases htask : task' = task
    · subst htask
      exact hanswered md5 outcome (by simpa [ProbeSite.enter] using hprobe)
    · exact h.answered task' md5 outcome (by simpa [ProbeSite.enter, htask] using hprobe)
  noted := h.noted
  terminal := h.terminal

/-- The answer of a probe that agrees with what is noted. -/
theorem Kept.returned (h : s.Kept clocks w) {md5 : String} {status : ProbeStatus}
    (hagree : ∀ noted, .notedPaid md5 noted ∈ s.log → s.now < noted + paidTtl → status = .paid) :
    (s.record (.returned md5 status s.now)).Kept clocks w where
  asked := h.asked
  answered := h.answered
  noted md5' noted hmem := by
    have hold : .notedPaid md5' noted ∈ s.log := by simpa [record] using hmem
    exact h.noted md5' noted hold
  terminal := by
    refine List.pairwise_append.2 ⟨h.terminal, List.pairwise_singleton _ _, fun event hmem e he => ?_⟩
    rw [List.mem_singleton.1 he]
    cases event with
    | notedPaid md5' noted =>
        intro hsame hlive
        exact hagree noted (hsame ▸ hmem) hlive
    | returned => trivial

theorem Kept.notePaid (h : s.Kept clocks w) {md5 : String} (hmd5 : md5 ≠ "")
    (hcached : s.view.memory.PaidUntil md5 (clocks.monotonic w s.now + paidTtl)) :
    (s.record (.notedPaid md5 s.now)).Kept clocks w where
  asked := h.asked
  answered := h.answered
  noted md5' noted hmem := by
    rcases List.mem_append.1 hmem with hold | hnew
    · exact h.noted md5' noted hold
    · obtain ⟨rfl, rfl⟩ := ProbeEvent.notedPaid.inj (List.mem_singleton.1 hnew)
      exact ⟨hmd5, le_refl _, fun _ => hcached⟩
  terminal := by
    refine List.pairwise_append.2 ⟨h.terminal, List.pairwise_singleton _ _, fun event _ e he => ?_⟩
    rw [List.mem_singleton.1 he]
    cases event <;> trivial

/-- A new state of the worker that still has every `paid` that was noted. -/
theorem Kept.view (h : s.Kept clocks w) {v : View}
    (hkeeps : ∀ md5 noted, .notedPaid md5 noted ∈ s.log → s.now < noted + paidTtl →
      v.memory.PaidUntil md5 (clocks.monotonic w noted + paidTtl)) :
    ProbeSite.Kept clocks w { s with view := v } where
  asked := h.asked
  answered := h.answered
  noted md5 noted hmem :=
    ⟨(h.noted md5 noted hmem).1, (h.noted md5 noted hmem).2.1, hkeeps md5 noted hmem⟩
  terminal := h.terminal

theorem Kept.ask (h : s.Kept clocks w) (task : Nat) (md5 : String) (intentId : Option String)
    (link : Link) : (s.ask clocks w task md5 intentId link).Kept clocks w := by
  have hprobe {md5' : String} {noted : Instant} (hmem : .notedPaid md5' noted ∈ s.log)
      (hlive : s.now < noted + paidTtl) :
      (probeKhqrStatus md5 intentId (clocks.monotonic w s.now) s.now link s.view).2.memory.PaidUntil
          md5' (clocks.monotonic w noted + paidTtl) ∧
        (md5 = md5' → md5' ≠ "" →
          (probeKhqrStatus md5 intentId (clocks.monotonic w s.now) s.now link s.view).1 =
            some .paid) :=
    ((h.noted md5' noted hmem).2.2 hlive).probe (monotonic_lt hlive) intentId
  have hview : ProbeSite.Kept clocks w { s with
      view := (probeKhqrStatus md5 intentId (clocks.monotonic w s.now) s.now link s.view).2 } :=
    h.view fun md5' noted hmem hlive => (hprobe hmem hlive).1
  unfold ProbeSite.ask
  cases hanswer : (probeKhqrStatus md5 intentId (clocks.monotonic w s.now) s.now link s.view).1 with
  | some status =>
      simp only [hanswer]
      refine hview.returned fun noted hmem hlive => ?_
      have hpaid := (hprobe hmem hlive).2 rfl (h.noted md5 noted hmem).1
      rw [hanswer] at hpaid
      exact Option.some.inj hpaid
  | none =>
      simp only [hanswer]
      refine hview.enter (fun md5' hphase => ?_) fun _ _ hphase => by cases hphase
      cases hphase
      rintro rfl
      cases hanswer

theorem Kept.note (h : s.Kept clocks w) {task : Nat} {md5 : String} {outcome : Outcome}
    (hprobe : s.probes task = .answered md5 outcome) (link : Link)
    (hfree : outcome.status = .paid ∨
      (getCachedMd5Status md5 (clocks.monotonic w s.now) s.view.memory).1 ≠ some .paid) :
    (s.note clocks w task md5 outcome link).Kept clocks w := by
  have hmd5 := h.answered task md5 outcome hprobe
  obtain ⟨hother, hself⟩ :=
    noteOutcome_paidUntil s.view md5 (clocks.monotonic w s.now) s.now outcome link
  -- what another answer than `paid` would overwrite
  have hunpaid (hstatus : outcome.status ≠ .paid) {noted : Instant}
      (hmem : .notedPaid md5 noted ∈ s.log) : ¬ s.now < noted + paidTtl := by
    intro hlive
    have hget := ((h.noted md5 noted hmem).2.2 hlive).get (monotonic_lt hlive) hmd5
    rcases hfree with hpaid | hmissed
    · exact hstatus hpaid
    · exact hmissed (by rw [hget])
  have hview : ProbeSite.Kept clocks w { s with
      view := noteOutcome md5 outcome (clocks.monotonic w s.now) s.now link s.view } := by
    refine h.view fun md5' noted hmem hlive => ?_
    obtain ⟨-, hnoted, hcached⟩ := h.noted md5' noted hmem
    by_cases hsame : md5' = md5
    · subst hsame
      by_cases hstatus : outcome.status = .paid
      · refine hself hstatus hmd5 _ ?_
        simp only [Clocks.monotonic]
        linarith
      · exact absurd hlive (hunpaid hstatus hmem)
    · exact hother md5' _ (hcached hlive) (monotonic_lt hlive) hsame
  unfold ProbeSite.note
  refine Kept.enter ?_ (fun _ hphase => by cases hphase) fun _ _ hphase => by cases hphase
  by_cases hstatus : outcome.status = .paid
  · simp only [if_pos hstatus]
    exact (hview.notePaid hmd5 (hself hstatus hmd5 _ (le_refl _))).returned fun _ _ _ => hstatus
  · simp only [if_neg hstatus]
    exact hview.returned fun noted hmem hlive => absurd hlive (hunpaid hstatus hmem)

theorem Kept.next (h : s.Kept clocks w) {action : ProbeAction}
    (hfree : s.notOvertaken clocks w action = true) : (s.next clocks w action).Kept clocks w := by
  cases action with
  | wait d =>
      refine ⟨h.asked, h.answered, fun md5 noted hmem => ?_, h.terminal⟩
      obtain ⟨hmd5, hnoted, hcached⟩ := h.noted md5 noted hmem
      simp only [ProbeSite.next]
      exact ⟨hmd5, by linarith, fun hlive => hcached (by linarith)⟩
  | outside redis => exact h.view fun md5 noted hmem hlive => (h.noted md5 noted hmem).2.2 hlive
  | pay md5 => exact ⟨h.asked, h.answered, h.noted, h.terminal⟩
  | probe task md5 intentId link =>
      simp only [ProbeSite.next]
      split
      · exact h.ask task md5 intentId link
      · exact h
  | answer task lost quota =>
      simp only [ProbeSite.next]
      cases hprobe : s.probes task with
      | asking md5 =>
          refine h.enter (fun _ hphase => by cases hphase) fun md5' outcome hphase => ?_
          cases hphase
          exact h.asked task md5 hprobe
      | _ => exact h
  | resume task link =>
      simp only [ProbeSite.next]
      cases hprobe : s.probes task with
      | answered md5 outcome =>
          simp only [notOvertaken, hprobe, Bool.or_eq_true, decide_eq_true_eq] at hfree
          exact h.note hprobe link hfree
      | _ => exact h
  | fail task =>
      simp only [ProbeSite.next]
      cases hprobe : s.probes task with
      | asking md5 => exact h.enter (fun _ hphase => by cases hphase) fun _ _ hphase => by cases hphase
      | _ => exact h

/-- While no probe is overtaken, `paid` is terminal for its time in the cache. -/
theorem paid_is_terminal (clocks : Clocks) (w : WorkerId) (now : Instant) (view : View)
    (paidAtNbc : List String) {s : ProbeSite}
    (h : Reached clocks w (fresh now view paidAtNbc) s) : s.Terminal := by
  have hkept : s.Kept clocks w := by
    induction h with
    | refl =>
        exact ⟨fun _ _ hprobe => (by cases hprobe), fun _ _ _ hprobe => (by cases hprobe),
          fun _ _ hmem => (by cases hmem), List.Pairwise.nil⟩
    | step _ hfree ih => exact ih.next hfree
  exact hkept.terminal

/-! ### Two probes -/

def run (clocks : Clocks) (w : WorkerId) (s : ProbeSite) (actions : List ProbeAction) : ProbeSite :=
  actions.foldl (next clocks w) s

def play (clocks : Clocks) (w : WorkerId) (s : ProbeSite) (actions : List ProbeAction) :
    Option ProbeSite :=
  actions.foldlM (fun s action =>
    if s.notOvertaken clocks w action then some (s.next clocks w action) else none) s

theorem reached_play {s₀ s' : ProbeSite} {actions : List ProbeAction}
    (h : Reached clocks w s₀ s) (hplay : s.play clocks w actions = some s') :
    Reached clocks w s₀ s' := by
  induction actions generalizing s with
  | nil =>
      obtain rfl : s = s' := Option.some.inj hplay
      exact h
  | cons action actions ih =>
      simp only [play, List.foldlM_cons] at hplay
      split at hplay
      · next hfree => exact ih (h.step hfree) hplay
      · cases hplay

/-- Redis answers nothing. -/
def noLink : Link := ⟨false, false, false⟩

def freshSite : ProbeSite := fresh 0 ⟨.empty, none⟩ []

/-- The second probe finds what the first one has noted. -/
theorem second_probe_paid : ∃ s, Reached (fun _ => 0) 0 freshSite s ∧
    s.log = [.notedPaid "md5" 0, .returned "md5" .paid 0, .returned "md5" .paid 0] ∧
      s.Terminal := by
  have hplay : (freshSite.play (fun _ => 0) 0 [.pay "md5", .probe 0 "md5" none noLink,
      .answer 0 false false, .resume 0 noLink, .probe 1 "md5" none noLink]).any
      (fun s => s.log =
        [.notedPaid "md5" 0, .returned "md5" .paid 0, .returned "md5" .paid 0]) = true := by
    decide
  obtain ⟨s, hs, hlog⟩ := (Option.any_eq_true _ _).1 hplay
  have hreached := reached_play .refl hs
  exact ⟨s, hreached, of_decide_eq_true hlog, paid_is_terminal _ _ _ _ _ hreached⟩

/-- The first probe was answered before the payment and comes back after the second one:
it returns `unpaid`, and so does a third probe. -/
theorem paid_overwritten :
    (freshSite.run (fun _ => 0) 0 [.probe 0 "md5" none noLink, .answer 0 false false,
      .pay "md5", .probe 1 "md5" none noLink, .answer 1 false false, .resume 1 noLink,
      .resume 0 noLink, .probe 2 "md5" none noLink]).log =
      [.notedPaid "md5" 0, .returned "md5" .paid 0, .returned "md5" .unpaid 0,
        .returned "md5" .unpaid 0] := by
  decide

end ProbeSite

end MovieApi.NbcChecks
