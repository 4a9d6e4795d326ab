import MovieApi.Alerts.Relay
import MovieApi.Machines.Turns

/-!
# What the relay lets through

Runs of `admit`.  No minute holds more than `per_minute` alerts.  A `resolved`
goes out where there is room for it, and wherever it comes, the next alert of
its fingerprint is not taken for a repeat of the alerts before it.
-/

namespace MovieApi.Alerts

open NbcChecks (Dict)

namespace Relay

/-- Each call of a run, with the relay it meets. -/
def turns : Relay → List Call → List (Relay × Call) := Machines.turns fun r c => (r.admitCall c).2

def admits (turn : Relay × Call) : Bool := (turn.1.admitCall turn.2).1.1

/-- The times at which a run lets alerts through. -/
def admittedTimes (r : Relay) (calls : List Call) : List ℚ :=
  ((r.turns calls).filter admits).map fun turn => turn.2.now

variable {r : Relay} {c : Call} {calls : List Call}

/-! ## The rate limit -/

theorem prune_sent (now : ℚ) : (r.prune now).sent = r.sent := by
  rw [prune]
  split <;> rfl

theorem remember_sent : (r.remember c).sent = r.sent := by
  rw [remember]
  split
  · split
    · rfl
    · exact prune_sent c.now
  · rfl

theorem hold_sent : (r.hold c).sent = r.sent := by
  rw [hold]
  split <;> rfl

theorem prune_perMinute (now : ℚ) : (r.prune now).perMinute = r.perMinute := by
  rw [prune]
  split <;> rfl

theorem remember_perMinute : (r.remember c).perMinute = r.perMinute := by
  rw [remember]
  split
  · split
    · rfl
    · exact prune_perMinute c.now
  · rfl

theorem hold_perMinute : (r.hold c).perMinute = r.perMinute := by
  rw [hold]
  split <;> rfl

theorem admit_perMinute : (r.admitCall c).2.perMinute = r.perMinute := by
  rcases r.admit_cases c with ⟨-, heq⟩ | ⟨-, -, heq⟩ | ⟨-, -, heq⟩
  · rw [heq]
    exact hold_perMinute
  · rw [heq]
    rfl
  · rw [heq]
    exact remember_perMinute

/-- A call moves the memory of sent times as the limiter does, or not at all. -/
theorem tracks_admit {passed : List ℚ}
    (h : Windows.Tracks 60 r.perMinute passed r.sent c.now) :
    Windows.Tracks 60 (r.admitCall c).2.perMinute
      (if admits (r, c) then passed ++ [c.now] else passed) (r.admitCall c).2.sent c.now := by
  have hslot := h.takeSlot
  change Windows.Tracks _ _ (if (r.takeSlot c.now).1 then _ else _) (r.takeSlot c.now).2.sent _
    at hslot
  rw [takeSlot_fst] at hslot
  rw [admit_perMinute, admits]
  rcases r.admit_cases c with ⟨-, heq⟩ | ⟨-, hroom, heq⟩ | ⟨-, hroom, heq⟩
  · simp only [heq, hold_sent, Bool.false_eq_true, if_false]
    exact h
  · simp only [heq, Bool.false_eq_true, if_false]
    simpa only [hroom, Bool.false_eq_true, if_false] using hslot
  · simp only [heq, if_true, remember_sent]
    simpa only [hroom, if_true] using hslot

theorem admittedTimes_cons : r.admittedTimes (c :: calls) =
    if admits (r, c) then c.now :: (r.admitCall c).2.admittedTimes calls
    else (r.admitCall c).2.admittedTimes calls := by
  rw [admittedTimes, turns, Machines.turns, List.filter_cons]
  split <;> rfl

theorem bounded_run {passed : List ℚ} {now : ℚ}
    (h : Windows.Tracks 60 r.perMinute passed r.sent now)
    (hlater : ∀ c ∈ calls, now ≤ c.now) (hordered : calls.Pairwise (·.now ≤ ·.now)) (start : ℚ) :
    (Windows.window 60 start (passed ++ r.admittedTimes calls)).length ≤ r.perMinute := by
  induction calls generalizing r passed now with
  | nil =>
      have hnone : r.admittedTimes [] = [] := rfl
      rw [hnone, List.append_nil]
      exact h.bounded start
  | cons c calls ih =>
      obtain ⟨hfirst, hrest⟩ := List.pairwise_cons.1 hordered
      have hstep := tracks_admit (h.later (hlater c (by simp)))
      have hrun := ih hstep hfirst hrest
      rw [admit_perMinute] at hrun
      rw [admittedTimes_cons]
      by_cases hadmits : admits (r, c) = true
      · simpa only [hadmits, if_true, List.append_assoc, List.singleton_append] using hrun
      · simpa only [Bool.eq_false_iff.2 hadmits, Bool.false_eq_true, if_false] using hrun

theorem repeats_of_resolved (h : c.level = .resolved) : r.repeats c = false := by
  rw [repeats]
  split
  · simp [h]
  · rfl

theorem repeats_of_seen (h : r.seen? c = none) : r.repeats c = false := by
  rw [repeats, h]

/-- A `resolved` goes out exactly where there is room for it. -/
theorem admits_resolved (h : c.level = .resolved) : admits (r, c) = r.room c.now := by
  have hnot := repeats_of_resolved (r := r) h
  rcases r.admit_cases c with ⟨hrepeats, -⟩ | ⟨-, hroom, heq⟩ | ⟨-, hroom, heq⟩
  · rw [hrepeats] at hnot
    cases hnot
  · rw [admits, heq, hroom]
  · rw [admits, heq, hroom]

/-- Nothing is remembered under a key. -/
def Forgot (r : Relay) (key : String) : Prop := r.seen.get? key = none

theorem Forgot.put {key key' : String} {seen : Seen} (h : r.Forgot key) (hne : key ≠ key') :
    Forgot { r with seen := r.seen.put key' seen } key := by
  rw [Forgot, Dict.get?_put_of_ne hne]
  exact h

theorem Forgot.del {key key' : String} (h : r.Forgot key) :
    Forgot { r with seen := r.seen.del key' } key := by
  by_cases heq : key = key'
  · rw [Forgot, heq]
    exact Dict.get?_del_self
  · rw [Forgot, Dict.get?_del_of_ne heq]
    exact h

theorem Forgot.prune {key : String} (h : r.Forgot key) (now : ℚ) : (r.prune now).Forgot key := by
  rw [Relay.prune]
  split
  · exact h
  · rw [Forgot, Dict.get?_eq_none]
    intro hmem
    obtain ⟨item, hitem, hkey⟩ := List.mem_map.1 hmem
    have hold : key ∉ r.seen.keys := Dict.get?_eq_none.1 h
    exact hold (List.mem_map.2 ⟨item, List.mem_of_mem_filter hitem, hkey⟩)

theorem Forgot.hold {key : String} (h : r.Forgot key) : (r.hold c).Forgot key := by
  rw [Relay.hold]
  split
  · next key' seen hkey hseen =>
      refine h.put ?_
      intro heq
      rw [Relay.seen?, hkey, Option.bind_some, ← heq, h] at hseen
      cases hseen
  · exact h

theorem Forgot.remember {key : String} (h : r.Forgot key)
    (hc : c.level = .resolved ∨ c.key? ≠ some key) : (r.remember c).Forgot key := by
  rw [Relay.remember]
  split
  · next key' hkey =>
      split
      · exact h.del
      · next hlevel =>
          have hne : key ≠ key' := by
            rintro rfl
            rcases hc with hresolved | hother
            · exact hlevel hresolved
            · exact hother hkey
          exact (h.put hne).prune c.now
  · exact h

/-- Only an alert of the key itself brings it back. -/
theorem Forgot.admitCall {key : String} (h : r.Forgot key)
    (hc : c.level = .resolved ∨ c.key? ≠ some key) : (r.admitCall c).2.Forgot key := by
  rcases r.admit_cases c with ⟨-, heq⟩ | ⟨-, -, heq⟩ | ⟨-, -, heq⟩
  · rw [heq]
    exact h.hold
  · rw [heq]
    exact h
  · rw [heq]
    exact Forgot.remember (r := (r.takeSlot c.now).2) h hc

theorem forgot_of_resolved {key : String} (hkey : c.key? = some key) (h : c.level = .resolved)
    (hroom : r.room c.now = true) : (r.admitCall c).2.Forgot key := by
  have hnot := repeats_of_resolved (r := r) h
  rcases r.admit_cases c with ⟨hrepeats, -⟩ | ⟨-, hfull, -⟩ | ⟨-, -, heq⟩
  · rw [hrepeats] at hnot
    cases hnot
  · rw [hfull] at hroom
    cases hroom
  · rw [heq, remember, hkey]
    simp only [h, if_true]
    exact Dict.get?_del_self

/-- In a run every `resolved` goes out, and the next alert of its fingerprint is
not held back as a repeat. -/
structure ResolvedGoesOut (run : List (Relay × Call)) : Prop where
  admitted : ∀ turn ∈ run, turn.2.level = .resolved → admits turn = true
  freed : ∀ front middle back resolve next, run = front ++ resolve :: (middle ++ next :: back) →
    resolve.2.level = .resolved → next.2.level ≠ .resolved →
    next.2.fingerprint = resolve.2.fingerprint →
    (∀ turn ∈ middle, turn.2.fingerprint = resolve.2.fingerprint → turn.2.level = .resolved) →
    next.1.repeats next.2 = false

/-- **`resolved` always goes out** exactly in the runs in which each `resolved`
finds room under the rate limit. -/
theorem resolvedGoesOut_iff (r : Relay) (calls : List Call) :
    ResolvedGoesOut (r.turns calls) ↔
      ∀ turn ∈ r.turns calls, turn.2.level = .resolved → turn.1.room turn.2.now = true := by
  constructor
  · intro h turn hturn hlevel
    have hadmitted := h.admitted turn hturn hlevel
    rwa [admits_resolved hlevel] at hadmitted
  · intro hroom
    constructor
    · intro turn hturn hlevel
      rw [admits_resolved hlevel]
      exact hroom turn hturn hlevel
    · intro front middle back resolve next hrun hlevel _ hsame hmiddle
      have hresolveRoom := hroom resolve (by rw [hrun]; simp) hlevel
      have hkeys : next.2.key? = resolve.2.key? := by rw [Call.key?, Call.key?, hsame]
      cases hkey : resolve.2.key? with
      | none =>
          apply repeats_of_seen
          rw [seen?, hkeys, hkey, Option.bind_none]
      | some key =>
          have hforgot := forgot_of_resolved hkey hlevel hresolveRoom
          have hothers : ∀ t ∈ middle, t.1.Forgot key → (t.1.admitCall t.2).2.Forgot key := by
            intro t ht hbefore
            refine hbefore.admitCall ?_
            by_cases hfingerprint : t.2.fingerprint = resolve.2.fingerprint
            · exact Or.inl (hmiddle t ht hfingerprint)
            · refine Or.inr fun htkey => hfingerprint ?_
              rw [Call.key?, Option.filter_eq_some_iff] at htkey hkey
              rw [htkey.1, hkey.1]
          have hnext := Machines.holds_after (P := fun r => r.Forgot key) hrun hforgot hothers
          apply repeats_of_seen
          rw [seen?, hkeys, hkey, Option.bind_some]
          exact hnext

/-- Twenty alerts within a minute, and the recovery after them. -/
def storm : List Call :=
  List.replicate 20 ⟨none, .error, 0⟩ ++ [⟨some "disk", .resolved, 1⟩]

/-- The recovery after a storm is dropped. -/
theorem storm_drops_resolved : ¬ ResolvedGoesOut ((Relay.new 600 20).turns storm) := by
  intro h
  have hadmitted := h.admitted
  revert hadmitted
  decide +kernel

end Relay

end MovieApi.Alerts
