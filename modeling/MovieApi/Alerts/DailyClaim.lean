import MovieApi.TelegramBot.Text
import MovieApi.Text.IsoDate

/-!
# Alerts that go out once a day

`claim_bakong_daily_limit_alert` and `claim_bakong_checks_unavailable_alert`: the workers
share a file with the day of the last alert, under a file lock.  A step is one system
call, and a worker may die before any of them.
-/

namespace MovieApi.Alerts.Daily

/-! ## Days -/

/-- Times are in microseconds since 1970. -/
abbrev Instant := Nat

/-- The day in Cambodia, seven hours ahead, counted from 0. -/
def ictDay (now : Instant) : Nat := (now + 7 * 3600 * 1000000) / (86400 * 1000000) + 719162

def stampOf (day : Nat) : String := (Text.Date.fromOrdinal (day + 1)).isoformat

/-- `_ict_today`. -/
def ictToday (now : Instant) : String := stampOf (ictDay now)

theorem ictDay_mono {now now' : Instant} (h : now ≤ now') : ictDay now ≤ ictDay now' := by
  unfold ictDay
  gcongr

theorem stampOf_inj {day day' : Nat} (h : stampOf day = stampOf day') : day = day' :=
  Nat.succ_injective (Text.fromOrdinal_inj (Nat.succ_pos _) (Nat.succ_pos _)
    (Text.isoformat_inj h))

theorem stampOf_ne_empty (day : Nat) : stampOf day ≠ "" := Text.isoformat_ne_empty _

def strip (text : String) : String := String.ofList (TelegramBot.strip text.toList)

theorem strip_of_no_space {text : List Char} (h : ∀ c ∈ text, TelegramBot.isSpace c = false) :
    TelegramBot.strip text = text := by
  have hleft (l : List Char) (hl : ∀ c ∈ l, TelegramBot.isSpace c = false) :
      TelegramBot.stripLeft l = l := by
    cases l with
    | nil => rfl
    | cons c l =>
        rw [TelegramBot.stripLeft, List.dropWhile_cons, hl c List.mem_cons_self]
        rfl
  rw [TelegramBot.strip, hleft text h, hleft text.reverse (by simpa using h),
    List.reverse_reverse]

theorem strip_stampOf (day : Nat) : strip (stampOf day) = stampOf day := by
  rw [strip, strip_of_no_space, String.ofList_toList]
  intro c hc
  rcases Text.mem_isoformat hc with hdigit | rfl
  · have hrange : 48 ≤ c.toNat ∧ c.toNat ≤ 57 := Char.isDigit_iff_toNat.1 hdigit
    unfold TelegramBot.isSpace
    simp only [Bool.or_eq_false_iff, Bool.and_eq_false_iff, decide_eq_false_iff_not,
      beq_eq_false_iff_ne]
    omega
  · decide

/-! ## The system calls of a claim -/

inductive Phase where
  /-- the file is open; next comes the lock -/
  | waiting
  /-- has the lock; next it reads -/
  | locked
  /-- has read another day; next it truncates -/
  | stale
  /-- next it writes its day -/
  | truncated
  /-- next it closes the file, which gives the lock back, and answers `True` -/
  | written
  /-- has read its own day; next it closes the file and answers `False` -/
  | current
  | answered (first : Bool)
  | dead
deriving DecidableEq, Repr

structure Claim where
  day : Nat
  phase : Phase
deriving DecidableEq, Repr

structure State where
  now : Instant
  file : String
  lock : Option Nat
  claims : Nat → Option Claim

inductive Event where
  | wait (d : Nat)
  | call (i : Nat)
  | proceed (i : Nat)
  /-- the worker of a claim dies, and with it its lock -/
  | crash (i : Nat)
  /-- a new container: no worker and an empty directory -/
  | restart
deriving DecidableEq, Repr

namespace State

def enter (s : State) (i : Nat) (claim : Claim) (phase : Phase) : State :=
  { s with claims := Function.update s.claims i (some { claim with phase := phase }) }

def proceed (s : State) (i : Nat) (claim : Claim) : State :=
  match claim.phase with
  | .waiting => if s.lock = none then { s with lock := some i }.enter i claim .locked else s
  | .locked =>
      if strip s.file = stampOf claim.day then s.enter i claim .current
      else s.enter i claim .stale
  | .stale => { s with file := "" }.enter i claim .truncated
  | .truncated => { s with file := s.file ++ stampOf claim.day }.enter i claim .written
  | .written => { s with lock := none }.enter i claim (.answered true)
  | .current => { s with lock := none }.enter i claim (.answered false)
  | .answered _ => s
  | .dead => s

def die (claim : Claim) : Claim :=
  match claim.phase with
  | .answered _ => claim
  | _ => { claim with phase := .dead }

def next (s : State) : Event → State
  | .wait d => { s with now := s.now + d }
  | .call i =>
      if (s.claims i).isSome then s
      else { s with claims := Function.update s.claims i (some ⟨ictDay s.now, .waiting⟩) }
  | .proceed i =>
      match s.claims i with
      | none => s
      | some claim => s.proceed i claim
  | .crash i =>
      { s with
        lock := if s.lock = some i then none else s.lock
        claims := Function.update s.claims i ((s.claims i).map die) }
  | .restart =>
      { s with file := "", lock := none, claims := fun i => (s.claims i).map die }

def run (s : State) (events : List Event) : State := events.foldl next s

def start (now : Instant) (file : String) : State := ⟨now, file, none, fun _ => none⟩

end State

/-! ## One claim at a time -/

inductive Mark where
  | claimed (i day : Nat)
  | refused (i day : Nat)
  /-- the day of the last alert is gone -/
  | emptied
deriving DecidableEq, Repr

/-- Claims one at a time: a day is claimed where the file has another one, and refused
where the file has it. -/
inductive Follows : String → List Mark → String → Prop
  | nil (last : String) : Follows last [] last
  | claimed {last last' : String} {i day : Nat} {marks : List Mark} (hother : last ≠ stampOf day)
      (hrest : Follows (stampOf day) marks last') : Follows last (.claimed i day :: marks) last'
  | refused {last last' : String} {i day : Nat} {marks : List Mark} (hsame : last = stampOf day)
      (hrest : Follows last marks last') : Follows last (.refused i day :: marks) last'
  | emptied {last last' : String} {marks : List Mark} (hrest : Follows "" marks last') :
      Follows last (.emptied :: marks) last'

namespace State

/-- What an event comes to: a claim counts when it writes or refuses. -/
def mark (s : State) : Event → List Mark
  | .proceed i =>
      match s.claims i with
      | some ⟨day, .locked⟩ => if strip s.file = stampOf day then [.refused i day] else []
      | some ⟨day, .truncated⟩ => [.claimed i day]
      | _ => []
  | .crash i =>
      match s.claims i with
      | some ⟨_, .truncated⟩ => [.emptied]
      | _ => []
  | .restart => [.emptied]
  | _ => []

def history : State → List Event → List Mark
  | _, [] => []
  | s, event :: events => s.mark event ++ (s.next event).history events

end State

theorem Follows.append {last last' last'' : String} {front back : List Mark}
    (h : Follows last front last') (h' : Follows last' back last'') :
    Follows last (front ++ back) last'' := by
  induction h with
  | nil => exact h'
  | claimed hother _ ih => exact .claimed hother (ih h')
  | refused hsame _ ih => exact .refused hsame (ih h')
  | emptied _ ih => exact .emptied (ih h')

theorem Follows.split {last last'' : String} {front back : List Mark}
    (h : Follows last (front ++ back) last'') :
    ∃ last', Follows last front last' ∧ Follows last' back last'' := by
  induction front generalizing last with
  | nil => exact ⟨last, .nil _, h⟩
  | cons mark front ih =>
      cases h with
      | claimed hother hrest =>
          obtain ⟨last', hfront, hback⟩ := ih hrest
          exact ⟨last', .claimed hother hfront, hback⟩
      | refused hsame hrest =>
          obtain ⟨last', hfront, hback⟩ := ih hrest
          exact ⟨last', .refused hsame hfront, hback⟩
      | emptied hrest =>
          obtain ⟨last', hfront, hback⟩ := ih hrest
          exact ⟨last', .emptied hfront, hback⟩

/-- The file keeps its day until it is emptied or another day is claimed. -/
theorem Follows.keeps {day : Nat} {first last : String} {marks : List Mark}
    (h : Follows first marks last) (hfirst : first = stampOf day) (hempty : .emptied ∉ marks)
    (hday : ∀ i day', .claimed i day' ∈ marks → day' = day) : last = stampOf day := by
  induction h with
  | nil => exact hfirst
  | @claimed last last' i day' marks hother hrest ih =>
      obtain rfl := hday i day' List.mem_cons_self
      exact absurd hfirst hother
  | refused hsame hrest ih =>
      exact ih hfirst (fun hmem => hempty (List.mem_cons_of_mem _ hmem))
        fun i day' hmem => hday i day' (List.mem_cons_of_mem _ hmem)
  | emptied hrest ih => exact absurd List.mem_cons_self hempty

/-- Between two claims of a day the file was emptied or another day claimed. -/
theorem Follows.separated {last last' : String} {front between back : List Mark} {i j day : Nat}
    (h : Follows last (front ++ .claimed i day :: (between ++ .claimed j day :: back)) last') :
    .emptied ∈ between ∨ ∃ k day', .claimed k day' ∈ between ∧ day' ≠ day := by
  by_contra hnone
  rw [not_or, not_exists] at hnone
  obtain ⟨_, _, hrest⟩ := h.split
  cases hrest with
  | claimed _ hrest =>
      obtain ⟨middle, hbetween, hback⟩ := hrest.split
      have hsame := hbetween.keeps rfl hnone.1 fun k day' hmem => by
        by_contra hne
        exact hnone.2 k ⟨day', hmem, hne⟩
      cases hback with
      | claimed hother _ => exact hother hsame

/-- A day that the file has at the end was claimed, if it did not have it at the start. -/
theorem Follows.exists_claimed {day : Nat} {first last : String} {marks : List Mark}
    (hfirst : first ≠ stampOf day) (h : Follows first marks last)
    (hlast : last = stampOf day) :
    ∃ i, .claimed i day ∈ marks := by
  induction h with
  | nil => exact absurd hlast hfirst
  | @claimed last last' i day' marks hother hrest ih =>
      by_cases hsame : stampOf day' = stampOf day
      · exact ⟨i, stampOf_inj hsame ▸ List.mem_cons_self⟩
      · obtain ⟨j, hmem⟩ := ih hsame hlast
        exact ⟨j, List.mem_cons_of_mem _ hmem⟩
  | refused _ _ ih =>
      obtain ⟨j, hmem⟩ := ih hfirst hlast
      exact ⟨j, List.mem_cons_of_mem _ hmem⟩
  | emptied _ ih =>
      obtain ⟨j, hmem⟩ := ih (Ne.symm (stampOf_ne_empty day)) hlast
      exact ⟨j, List.mem_cons_of_mem _ hmem⟩

/-! ## Runs -/

/-- What the file holds while a claim has the lock; `last` is the day claimed last. -/
def Claim.Fits (claim : Claim) (file last : String) : Prop :=
  match claim.phase with
  | .locked => strip file = last
  | .stale => strip file = last ∧ last ≠ stampOf claim.day
  | .truncated => file = "" ∧ last ≠ stampOf claim.day
  | .written => strip file = last
  | .current => strip file = last
  | _ => False

def Phase.outside : Phase → Bool
  | .waiting | .answered _ | .dead => true
  | _ => false

/-- An answer stands in the history. -/
def Claim.Told (claim : Claim) (i : Nat) (marks : List Mark) : Prop :=
  match claim.phase with
  | .written => .claimed i claim.day ∈ marks
  | .answered true => .claimed i claim.day ∈ marks
  | .current => .refused i claim.day ∈ marks
  | .answered false => .refused i claim.day ∈ marks
  | _ => True

structure State.Sound (first : String) (s : State) (marks : List Mark) (last : String) :
    Prop where
  follows : Follows first marks last
  free : s.lock = none → strip s.file = last
  held : ∀ i, s.lock = some i → ∃ claim, s.claims i = some claim ∧ claim.Fits s.file last
  outside : ∀ i claim, s.claims i = some claim → s.lock ≠ some i → claim.phase.outside = true
  told : ∀ i claim, s.claims i = some claim → claim.Told i marks

variable {s : State} {first last last' : String} {marks marks' : List Mark} {i : Nat}
  {claim : Claim}

theorem Claim.Told.mono (h : claim.Told i marks) (new : List Mark) :
    claim.Told i (marks ++ new) := by
  unfold Claim.Told at h ⊢
  split at h <;> simp_all

theorem die_told (h : claim.Told i marks) : (State.die claim).Told i marks := by
  obtain ⟨day, phase⟩ := claim
  cases phase with
  | answered first => exact h
  | _ => trivial

theorem die_outside (claim : Claim) : (State.die claim).phase.outside = true := by
  obtain ⟨day, phase⟩ := claim
  cases phase <;> rfl

theorem update_cases {claims : Nat → Option Claim} {j : Nat} {other : Claim}
    (h : Function.update claims i (some claim) j = some other) :
    j = i ∧ other = claim ∨ j ≠ i ∧ claims j = some other := by
  by_cases hj : j = i
  · subst hj
    rw [Function.update_self, Option.some.injEq] at h
    exact .inl ⟨rfl, h.symm⟩
  · rw [Function.update_of_ne hj] at h
    exact .inr ⟨hj, h⟩

namespace State.Sound

theorem start (now : Instant) (file : String) :
    (State.start now file).Sound (strip file) [] (strip file) where
  follows := .nil _
  free _ := rfl
  held _ h := by cases h
  outside _ _ h := by cases h
  told _ _ h := by cases h

/-- A claim moves on; what it leaves to show is where the lock and the file are. -/
theorem enter (h : s.Sound first marks last) (hclaim : s.claims i = some claim)
    {phase : Phase} {now : Instant} {file : String} {lock : Option Nat}
    (hfollows : Follows last marks' last') (hfree : lock = none → strip file = last')
    (hheld : ∀ j, lock = some j →
      j = i ∧ Claim.Fits { claim with phase := phase } file last')
    (houtside : lock ≠ some i → phase.outside = true)
    (hother : ∀ j, j ≠ i → s.lock ≠ some j)
    (htold : Claim.Told { claim with phase := phase } i (marks ++ marks')) :
    (State.enter ⟨now, file, lock, s.claims⟩ i claim phase).Sound first (marks ++ marks')
      last' where
  follows := h.follows.append hfollows
  free := hfree
  held j hj := by
    obtain ⟨rfl, hfits⟩ := hheld j hj
    exact ⟨_, Function.update_self .., hfits⟩
  outside j other hclaims hj := by
    rcases update_cases hclaims with ⟨rfl, rfl⟩ | ⟨hne, hold⟩
    · exact houtside hj
    · exact h.outside j other hold (hother j hne)
  told j other hclaims := by
    rcases update_cases hclaims with ⟨rfl, rfl⟩ | ⟨-, hold⟩
    · exact htold
    · exact (h.told j other hold).mono marks'

/-- The claim with the lock goes on and keeps it. -/
theorem move (h : s.Sound first marks last) (hlock : s.lock = some i)
    (hclaim : s.claims i = some claim) {phase : Phase} {file : String}
    (hfollows : Follows last marks' last')
    (hfits : Claim.Fits { claim with phase := phase } file last')
    (htold : Claim.Told { claim with phase := phase } i (marks ++ marks')) :
    ({ s with file := file }.enter i claim phase).Sound first (marks ++ marks') last' := by
  refine h.enter hclaim hfollows (fun hnone => ?_) (fun j hj => ⟨?_, hfits⟩)
    (fun hne => absurd hlock hne) (fun j hne hj => ?_) htold
  · rw [hlock] at hnone
    cases hnone
  · exact Option.some.inj (hj.symm.trans hlock)
  · exact hne (Option.some.inj (hj.symm.trans hlock))

/-- The claim with the lock gives it back. -/
theorem leave (h : s.Sound first marks last) (hlock : s.lock = some i)
    (hclaim : s.claims i = some claim) (hfile : strip s.file = last) {phase : Phase}
    (hphase : phase.outside = true)
    (htold : Claim.Told { claim with phase := phase } i marks) :
    ({ s with lock := none }.enter i claim phase).Sound first marks last := by
  rw [← marks.append_nil] at htold ⊢
  refine h.enter hclaim (.nil _) (fun _ => hfile) (fun j hj => ?_) (fun _ => hphase)
    (fun j hne hj => ?_) htold
  · cases hj
  · exact hne (Option.some.inj (hj.symm.trans hlock))

/-- The lock is free and a claim takes it. -/
theorem take (h : s.Sound first marks last) (hlock : s.lock = none)
    (hclaim : s.claims i = some claim) :
    ({ s with lock := some i }.enter i claim .locked).Sound first marks last := by
  rw [← marks.append_nil]
  refine h.enter hclaim (.nil _) (fun hnone => ?_)
    (fun j hj => ⟨(Option.some.inj hj).symm, h.free hlock⟩)
    (fun hne => absurd rfl hne) (fun j _ hj => ?_) trivial
  · cases hnone
  · rw [hlock] at hj
    cases hj

theorem lock_eq_of_inside (h : s.Sound first marks last) (hclaim : s.claims i = some claim)
    (hinside : claim.phase.outside = false) : s.lock = some i := by
  by_contra hne
  rw [h.outside i claim hclaim hne] at hinside
  cases hinside

theorem fits (h : s.Sound first marks last) (hclaim : s.claims i = some claim)
    (hinside : claim.phase.outside = false) : claim.Fits s.file last := by
  obtain ⟨other, hother, hfits⟩ := h.held i (h.lock_eq_of_inside hclaim hinside)
  obtain rfl : claim = other := Option.some.inj (hclaim.symm.trans hother)
  exact hfits

theorem proceed (h : s.Sound first marks last) (hclaim : s.claims i = some claim) :
    ∃ last', (s.proceed i claim).Sound first (marks ++ s.mark (.proceed i)) last' := by
  obtain ⟨day, phase⟩ := claim
  cases phase with
  | waiting =>
      simp only [State.proceed, State.mark, hclaim, List.append_nil]
      by_cases hlock : s.lock = none
      · rw [if_pos hlock]
        exact ⟨last, h.take hlock hclaim⟩
      · rw [if_neg hlock]
        exact ⟨last, h⟩
  | locked =>
      have hlock := h.lock_eq_of_inside hclaim rfl
      have hfile : strip s.file = last := h.fits hclaim rfl
      simp only [State.proceed, State.mark, hclaim]
      by_cases hsame : strip s.file = stampOf day
      · rw [if_pos hsame, if_pos hsame]
        exact ⟨last, h.move hlock hclaim (.refused (hfile.symm.trans hsame) (.nil _)) hfile
          (List.mem_append_right _ (List.mem_singleton_self _))⟩
      · rw [if_neg hsame, if_neg hsame]
        exact ⟨last, h.move hlock hclaim (.nil _) ⟨hfile, hfile ▸ hsame⟩ trivial⟩
  | stale =>
      have hlock := h.lock_eq_of_inside hclaim rfl
      obtain ⟨-, hother⟩ : strip s.file = last ∧ last ≠ stampOf day := h.fits hclaim rfl
      simp only [State.proceed, State.mark, hclaim]
      exact ⟨last, h.move hlock hclaim (.nil _) ⟨rfl, hother⟩ trivial⟩
  | truncated =>
      have hlock := h.lock_eq_of_inside hclaim rfl
      obtain ⟨hempty, hother⟩ : s.file = "" ∧ last ≠ stampOf day := h.fits hclaim rfl
      simp only [State.proceed, State.mark, hclaim]
      refine ⟨stampOf day, h.move hlock hclaim (.claimed hother (.nil _)) ?_
        (List.mem_append_right _ (List.mem_singleton_self _))⟩
      rw [hempty, String.empty_append]
      exact strip_stampOf day
  | written =>
      have hlock := h.lock_eq_of_inside hclaim rfl
      simp only [State.proceed, State.mark, hclaim, List.append_nil]
      have htold := h.told i _ hclaim
      exact ⟨last, h.leave hlock hclaim (h.fits hclaim rfl) rfl htold⟩
  | current =>
      have hlock := h.lock_eq_of_inside hclaim rfl
      simp only [State.proceed, State.mark, hclaim, List.append_nil]
      have htold := h.told i _ hclaim
      exact ⟨last, h.leave hlock hclaim (h.fits hclaim rfl) rfl htold⟩
  | answered firstOne =>
      simp only [State.proceed, State.mark, hclaim, List.append_nil]
      exact ⟨last, h⟩
  | dead =>
      simp only [State.proceed, State.mark, hclaim, List.append_nil]
      exact ⟨last, h⟩

theorem call (h : s.Sound first marks last) (i : Nat) :
    (s.next (.call i)).Sound first marks last := by
  rw [State.next]
  by_cases hsome : (s.claims i).isSome
  · rw [if_pos hsome]
    exact h
  · rw [if_neg hsome]
    rw [Bool.not_eq_true, Option.isSome_eq_false_iff, Option.isNone_iff_eq_none] at hsome
    refine ⟨h.follows, h.free, fun j hj => ?_, fun j other hother hj => ?_,
      fun j other hother => ?_⟩
    · obtain ⟨claim, hclaim, hfits⟩ := h.held j hj
      have hne : j ≠ i := by
        rintro rfl
        rw [hsome] at hclaim
        cases hclaim
      exact ⟨claim, (Function.update_of_ne hne ..).trans hclaim, hfits⟩
    · rcases update_cases hother with ⟨rfl, rfl⟩ | ⟨-, hold⟩
      · rfl
      · exact h.outside j other hold hj
    · rcases update_cases hother with ⟨rfl, rfl⟩ | ⟨-, hold⟩
      · trivial
      · exact h.told j other hold

/-- The worker of a claim dies.  The file is left empty if it had truncated it. -/
theorem crash (h : s.Sound first marks last) (i : Nat) : ∃ last',
    (s.next (.crash i)).Sound first (marks ++ s.mark (.crash i)) last' := by
  cases hclaim : s.claims i with
  | none =>
      have hfree : s.lock ≠ some i := by
        intro hlock
        obtain ⟨claim, hsome, -⟩ := h.held i hlock
        rw [hclaim] at hsome
        cases hsome
      have hsame : Function.update s.claims i none = s.claims := by
        rw [← hclaim, Function.update_eq_self]
      simp only [State.next, State.mark, hclaim, Option.map_none, if_neg hfree, hsame,
        List.append_nil]
      exact ⟨last, h⟩
  | some claim =>
      have hmark : ∃ last', Follows last (s.mark (.crash i)) last' ∧
          (s.lock = some i → strip s.file = last') ∧ (s.lock ≠ some i → last' = last) := by
        obtain ⟨day, phase⟩ := claim
        cases phase with
        | truncated =>
            have hlock := h.lock_eq_of_inside hclaim rfl
            obtain ⟨hempty, -⟩ : s.file = "" ∧ last ≠ stampOf day := h.fits hclaim rfl
            simp only [State.mark, hclaim]
            refine ⟨"", .emptied (.nil _), fun _ => ?_, fun hne => absurd hlock hne⟩
            rw [hempty]
            rfl
        | stale =>
            simp only [State.mark, hclaim]
            obtain ⟨hfile, -⟩ : strip s.file = last ∧ last ≠ stampOf day := h.fits hclaim rfl
            exact ⟨last, .nil _, fun _ => hfile, fun _ => rfl⟩
        | locked | written | current =>
            simp only [State.mark, hclaim]
            exact ⟨last, .nil _, fun _ => h.fits hclaim rfl, fun _ => rfl⟩
        | waiting | answered | dead =>
            simp only [State.mark, hclaim]
            refine ⟨last, .nil _, fun hlock => ?_, fun _ => rfl⟩
            obtain ⟨other, hother, hfits⟩ := h.held i hlock
            obtain rfl := Option.some.inj (hclaim.symm.trans hother)
            exact absurd hfits id
      obtain ⟨last', hfollows, hheld, hforeign⟩ := hmark
      simp only [State.next, hclaim, Option.map_some]
      refine ⟨last', h.follows.append hfollows, fun hnone => ?_, fun j hj => ?_,
        fun j other hother hj => ?_, fun j other hother => ?_⟩
      · by_cases hlock : s.lock = some i
        · exact hheld hlock
        · rw [if_neg hlock] at hnone
          rw [hforeign hlock]
          exact h.free hnone
      · by_cases hlock : s.lock = some i
        · rw [if_pos hlock] at hj
          cases hj
        · rw [if_neg hlock] at hj
          obtain ⟨other, hother, hfits⟩ := h.held j hj
          have hne : j ≠ i := fun heq => hlock (heq ▸ hj)
          exact ⟨other, (Function.update_of_ne hne ..).trans hother, hforeign hlock ▸ hfits⟩
      · rcases update_cases hother with ⟨rfl, rfl⟩ | ⟨hne, hold⟩
        · exact die_outside claim
        · refine h.outside j other hold fun hlock => hj ?_
          rw [if_neg fun heq => hne (Option.some.inj (hlock.symm.trans heq))]
          exact hlock
      · rcases update_cases hother with ⟨rfl, rfl⟩ | ⟨-, hold⟩
        · exact die_told ((h.told j claim hclaim).mono _)
        · exact (h.told j other hold).mono _

theorem restart (h : s.Sound first marks last) :
    (s.next .restart).Sound first (marks ++ [.emptied]) "" where
  follows := h.follows.append (.emptied (.nil _))
  free _ := rfl
  held _ hj := by cases hj
  outside j other hother _ := by
    obtain ⟨claim, -, rfl⟩ := Option.map_eq_some_iff.1 hother
    exact die_outside claim
  told j other hother := by
    obtain ⟨claim, hclaim, rfl⟩ := Option.map_eq_some_iff.1 hother
    exact die_told ((h.told j claim hclaim).mono _)

theorem next (h : s.Sound first marks last) (event : Event) :
    ∃ last', (s.next event).Sound first (marks ++ s.mark event) last' := by
  cases event with
  | wait d =>
      simp only [State.mark, List.append_nil]
      exact ⟨last, h.follows, h.free, h.held, h.outside, h.told⟩
  | call i =>
      simp only [State.mark, List.append_nil]
      exact ⟨last, h.call i⟩
  | proceed i =>
      cases hclaim : s.claims i with
      | none =>
          simp only [State.next, State.mark, hclaim, List.append_nil]
          exact ⟨last, h⟩
      | some claim =>
          simp only [State.next, hclaim]
          exact h.proceed hclaim
  | crash i => exact h.crash i
  | restart => exact ⟨"", h.restart⟩

theorem run (h : s.Sound first marks last) (events : List Event) :
    ∃ last', (s.run events).Sound first (marks ++ s.history events) last' := by
  induction events generalizing s marks last with
  | nil =>
      rw [State.history, List.append_nil]
      exact ⟨last, h⟩
  | cons event events ih =>
      obtain ⟨last', hnext⟩ := h.next event
      rw [State.history, ← List.append_assoc]
      exact ih hnext

end State.Sound

/-! ## Midnight -/

/-- No call gets the lock on a later day than the one it came in on. -/
def State.Prompt : State → List Event → Prop
  | _, [] => True
  | s, event :: events =>
      (∀ i claim, event = .proceed i → s.claims i = some claim → claim.phase = .waiting →
        s.lock = none → claim.day = ictDay s.now) ∧ (s.next event).Prompt events

/-- The days are claimed in order, none later than the day of a claim at work. -/
structure State.InOrder (s : State) (marks : List Mark) : Prop where
  sorted : marks.Pairwise fun mark mark' => ∀ i day j day', mark = .claimed i day →
    mark' = .claimed j day' → day ≤ day'
  today : ∀ i day, .claimed i day ∈ marks → day ≤ ictDay s.now
  before : ∀ i day, .claimed i day ∈ marks → ∀ j claim, s.claims j = some claim →
    claim.phase.outside = false → day ≤ claim.day
  begun : ∀ j claim, s.claims j = some claim → claim.phase.outside = false →
    claim.day ≤ ictDay s.now

theorem State.now_le_next (s : State) (event : Event) : s.now ≤ (s.next event).now := by
  cases event with
  | wait d => exact Nat.le_add_right ..
  | call i =>
      simp only [State.next]
      split <;> exact le_rfl
  | proceed i =>
      cases hclaim : s.claims i with
      | none => simp only [State.next, hclaim, le_refl]
      | some claim =>
          simp only [State.next, hclaim, State.proceed]
          split <;> first | exact le_rfl | (split <;> exact le_rfl)
  | crash i => exact le_rfl
  | restart => exact le_rfl

/-- A claim at work was at work before, or gets the lock today. -/
theorem State.inside_next {event : Event} {events : List Event}
    (hprompt : s.Prompt (event :: events)) {j : Nat} {other : Claim}
    (hother : (s.next event).claims j = some other) (hinside : other.phase.outside = false) :
    (∃ claim, s.claims j = some claim ∧ claim.phase.outside = false ∧ claim.day = other.day) ∨
      s.mark event = [] ∧ other.day = ictDay s.now := by
  have hdie (claim : Claim) : (State.die claim).phase.outside ≠ false := by
    rw [die_outside]
    exact fun h => by cases h
  cases event with
  | wait d => exact .inl ⟨other, hother, hinside, rfl⟩
  | call i =>
      simp only [State.next] at hother
      split at hother
      · exact .inl ⟨other, hother, hinside, rfl⟩
      · rcases update_cases hother with ⟨rfl, rfl⟩ | ⟨-, hold⟩
        · cases hinside
        · exact .inl ⟨other, hold, hinside, rfl⟩
  | proceed i =>
      cases hclaim : s.claims i with
      | none =>
          simp only [State.next, hclaim] at hother
          exact .inl ⟨other, hother, hinside, rfl⟩
      | some claim =>
          have htoday := hprompt.1 i claim rfl hclaim
          simp only [State.next, hclaim] at hother
          obtain ⟨day, phase⟩ := claim
          cases phase with
          | waiting =>
              simp only [State.proceed] at hother
              split at hother
              · next hlock =>
                  rcases update_cases hother with ⟨rfl, rfl⟩ | ⟨-, hold⟩
                  · exact .inr ⟨by simp only [State.mark, hclaim], htoday rfl hlock⟩
                  · exact .inl ⟨other, hold, hinside, rfl⟩
              · exact .inl ⟨other, hother, hinside, rfl⟩
          | locked =>
              simp only [State.proceed] at hother
              split at hother
              all_goals
                rcases update_cases hother with ⟨rfl, rfl⟩ | ⟨-, hold⟩
                · exact .inl ⟨_, hclaim, rfl, rfl⟩
                · exact .inl ⟨other, hold, hinside, rfl⟩
          | stale | truncated =>
              rcases update_cases hother with ⟨rfl, rfl⟩ | ⟨-, hold⟩
              · exact .inl ⟨_, hclaim, rfl, rfl⟩
              · exact .inl ⟨other, hold, hinside, rfl⟩
          | written | current =>
              rcases update_cases hother with ⟨rfl, rfl⟩ | ⟨-, hold⟩
              · cases hinside
              · exact .inl ⟨other, hold, hinside, rfl⟩
          | answered | dead => exact .inl ⟨other, hother, hinside, rfl⟩
  | crash i =>
      cases hclaim : s.claims i with
      | none =>
          simp only [State.next, hclaim, Option.map_none] at hother
          rw [← hclaim, Function.update_eq_self] at hother
          exact .inl ⟨other, hother, hinside, rfl⟩
      | some claim =>
          simp only [State.next, hclaim, Option.map_some] at hother
          rcases update_cases hother with ⟨rfl, rfl⟩ | ⟨-, hold⟩
          · exact absurd hinside (hdie claim)
          · exact .inl ⟨other, hold, hinside, rfl⟩
  | restart =>
      obtain ⟨claim, -, rfl⟩ := Option.map_eq_some_iff.1 hother
      exact absurd hinside (hdie claim)

/-- What claims a day is at work. -/
theorem State.of_mem_mark {event : Event} {day : Nat} (h : .claimed i day ∈ s.mark event) :
    s.mark event = [.claimed i day] ∧
      ∃ claim, s.claims i = some claim ∧ claim.phase.outside = false ∧ claim.day = day := by
  cases event with
  | wait | call => cases h
  | proceed j =>
      simp only [State.mark] at h ⊢
      split at h
      · split at h <;> simp at h
      · next found hclaim =>
          obtain ⟨rfl, rfl⟩ := Mark.claimed.inj (List.mem_singleton.1 h)
          rw [hclaim]
          exact ⟨rfl, _, rfl, rfl, rfl⟩
      · cases h
  | crash j =>
      simp only [State.mark] at h
      split at h <;> simp at h
  | restart => simp [State.mark] at h

namespace State.InOrder

theorem next (h : s.InOrder marks) (hsound : s.Sound first marks last) {event : Event}
    {events : List Event} (hprompt : s.Prompt (event :: events)) :
    (s.next event).InOrder (marks ++ s.mark event) := by
  have hlater : ictDay s.now ≤ ictDay (s.next event).now := ictDay_mono (s.now_le_next event)
  refine ⟨List.pairwise_append.2 ⟨h.sorted, ?_, fun mark hmark mark' hmark' => ?_⟩,
    fun i day hmem => ?_, fun i day hmem j other hother hinside => ?_,
    fun j other hother hinside => ?_⟩
  · refine List.pairwise_of_forall_mem_list ?_
    rintro mark hmark mark' hmark' i day j day' rfl rfl
    rw [(State.of_mem_mark hmark).1, List.mem_singleton] at hmark'
    exact (Mark.claimed.inj hmark').2.ge
  · rintro i day j day' rfl rfl
    obtain ⟨-, claim, hclaim, hinside, rfl⟩ := State.of_mem_mark hmark'
    exact h.before i day hmark j claim hclaim hinside
  · rcases List.mem_append.1 hmem with hold | hnew
    · exact (h.today i day hold).trans hlater
    · obtain ⟨-, claim, hclaim, hinside, rfl⟩ := State.of_mem_mark hnew
      exact (h.begun i claim hclaim hinside).trans hlater
  · rcases State.inside_next hprompt hother hinside with
      ⟨claim, hclaim, hwork, hday⟩ | ⟨hnone, htoday⟩
    · rw [← hday]
      rcases List.mem_append.1 hmem with hold | hnew
      · exact h.before i day hold j claim hclaim hwork
      · obtain ⟨-, claim', hclaim', hwork', rfl⟩ := State.of_mem_mark hnew
        have hsame : i = j := Option.some.inj
          ((hsound.lock_eq_of_inside hclaim' hwork').symm.trans
            (hsound.lock_eq_of_inside hclaim hwork))
        subst hsame
        rw [Option.some.inj (hclaim'.symm.trans hclaim)]
    · rw [hnone, List.append_nil] at hmem
      rw [htoday]
      exact h.today i day hmem
  · rcases State.inside_next hprompt hother hinside with
      ⟨claim, hclaim, hwork, hday⟩ | ⟨-, htoday⟩
    · rw [← hday]
      exact (h.begun j claim hclaim hwork).trans hlater
    · rw [htoday]
      exact hlater

theorem run (h : s.InOrder marks) (hsound : s.Sound first marks last) {events : List Event}
    (hprompt : s.Prompt events) : (s.run events).InOrder (marks ++ s.history events) := by
  induction events generalizing s marks last with
  | nil =>
      rw [State.history, List.append_nil]
      exact h
  | cons event events ih =>
      obtain ⟨last', hnext⟩ := hsound.next event
      rw [State.history, ← List.append_assoc]
      exact ih (h.next hsound hprompt) hnext hprompt.2

end State.InOrder

/-! ## One alert a day -/

/-- Two places of a list, in their order. -/
theorem exists_append_of_mem {α : Type} {l : List α} {a b : α} (ha : a ∈ l) (hb : b ∈ l)
    (hne : a ≠ b) : ∃ front between back,
      l = front ++ a :: (between ++ b :: back) ∨ l = front ++ b :: (between ++ a :: back) := by
  obtain ⟨front, rest, rfl⟩ := List.append_of_mem ha
  rcases List.mem_append.1 hb with hb | hb
  · obtain ⟨front, between, rfl⟩ := List.append_of_mem hb
    exact ⟨front, between, rest, .inr (by simp)⟩
  · rcases List.mem_cons.1 hb with rfl | hb
    · exact absurd rfl hne
    · obtain ⟨between, back, rfl⟩ := List.append_of_mem hb
      exact ⟨front, between, back, .inl rfl⟩

/-- In order, a day is claimed twice only where the file was emptied in between. -/
theorem Follows.claimed_once (h : Follows first marks last)
    (hsorted : marks.Pairwise fun mark mark' => ∀ i day j day', mark = .claimed i day →
      mark' = .claimed j day' → day ≤ day') (hempty : .emptied ∉ marks) {j day : Nat}
    (hi : .claimed i day ∈ marks) (hj : .claimed j day ∈ marks) : i = j := by
  by_contra hne
  have hapart : ∀ i j : Nat, ∀ front between back,
      marks ≠ front ++ .claimed i day :: (between ++ .claimed j day :: back) := by
    rintro i j front between back rfl
    rcases h.separated with hmem | ⟨k, day', hmem, hother⟩
    · exact hempty (by simp [hmem])
    · obtain ⟨-, hrest, -⟩ := List.pairwise_append.1 hsorted
      obtain ⟨hafter, hrest⟩ := List.pairwise_cons.1 hrest
      obtain ⟨-, -, hbefore⟩ := List.pairwise_append.1 hrest
      have hle := hafter _ (List.mem_append_left _ hmem) i day k day' rfl rfl
      have hge := hbefore _ hmem _ List.mem_cons_self k day' j day rfl rfl
      omega
  obtain ⟨front, between, back, hsplit | hsplit⟩ := exists_append_of_mem hi hj fun heq =>
    hne (Mark.claimed.inj heq).1
  · exact hapart i j front between back hsplit
  · exact hapart j i front between back hsplit

/-- Any number of workers, any of which may die between two system calls: between two
alerts of a day, another day's alert went out, or the file was emptied.  A call that is
refused finds its day in the file, or a call has claimed it.  When no call gets the lock
on a later day than it came in on and the file is never emptied, one call a day answers
that it is the first. -/
theorem one_alert_a_day (now : Instant) (file : String) (events : List Event) :
    (∀ front between back i j day, (State.start now file).history events =
        front ++ .claimed i day :: (between ++ .claimed j day :: back) →
      .emptied ∈ between ∨ ∃ k day', .claimed k day' ∈ between ∧ day' ≠ day) ∧
    (∀ i claim, ((State.start now file).run events).claims i = some claim →
      claim.phase = .answered true →
        .claimed i claim.day ∈ (State.start now file).history events) ∧
    (∀ i claim, ((State.start now file).run events).claims i = some claim →
      claim.phase = .answered false → strip file = stampOf claim.day ∨
        ∃ j, .claimed j claim.day ∈ (State.start now file).history events) ∧
    ((State.start now file).Prompt events →
      .emptied ∉ (State.start now file).history events →
      ∀ i j claim claim', ((State.start now file).run events).claims i = some claim →
        ((State.start now file).run events).claims j = some claim' →
        claim.phase = .answered true → claim'.phase = .answered true →
        claim.day = claim'.day → i = j) := by
  have hstart := State.Sound.start now file
  obtain ⟨last, hrun⟩ := hstart.run events
  rw [List.nil_append] at hrun
  have hfirst : ∀ i claim, ((State.start now file).run events).claims i = some claim →
      claim.phase = .answered true →
        .claimed i claim.day ∈ (State.start now file).history events := by
    rintro i ⟨day, phase⟩ hclaim rfl
    exact hrun.told i _ hclaim
  refine ⟨fun front between back i j day hsplit => ?_, hfirst, ?_, ?_⟩
  · have hfollows := hrun.follows
    rw [hsplit] at hfollows
    exact hfollows.separated
  · rintro i ⟨day, phase⟩ hclaim rfl
    by_cases hsame : strip file = stampOf day
    · exact .inl hsame
    · have hrefused : .refused i day ∈ (State.start now file).history events :=
        hrun.told i _ hclaim
      obtain ⟨front, back, hsplit⟩ := List.append_of_mem hrefused
      rw [hsplit]
      have hfollows := hrun.follows
      rw [hsplit] at hfollows
      obtain ⟨last', hfront, hrest⟩ := hfollows.split
      cases hrest with
      | refused hlast _ =>
          obtain ⟨j, hmem⟩ := hfront.exists_claimed hsame hlast
          exact .inr ⟨j, List.mem_append_left _ hmem⟩
  · intro hprompt hempty i j claim claim' hclaim hclaim' hphase hphase' hday
    have hinit : (State.start now file).InOrder [] :=
      ⟨.nil, fun _ _ hmem => (by cases hmem), fun _ _ hmem => (by cases hmem),
        fun _ _ hclaim => (by cases hclaim)⟩
    have horder := hinit.run hstart hprompt
    rw [List.nil_append] at horder
    exact hrun.follows.claimed_once horder.sorted hempty (hfirst i claim hclaim hphase)
      (hday ▸ hfirst j claim' hclaim' hphase')

/-- A call of yesterday gets the lock after the first one of today. -/
def overtaken : List Event :=
  [.call 0, .wait 1, .call 1] ++ List.replicate 5 (.proceed 1) ++
    List.replicate 5 (.proceed 0) ++ .call 2 :: List.replicate 5 (.proceed 2)

/-- Today's second call is then the first again. -/
example : ([1, 2].map ((State.start (17 * 3600 * 1000000 - 1) "").run overtaken).claims) =
    [some ⟨719163, .answered true⟩, some ⟨719163, .answered true⟩] := by
  decide +kernel

end MovieApi.Alerts.Daily
