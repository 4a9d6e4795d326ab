import Mathlib.Algebra.Order.Ring.Unbundled.Rat
import MovieApi.NbcChecks.Breaker
import MovieApi.Windows.Sliding

/-!
# The alert relay

`Relay` of `ops/alert_relay/main.py`: alerts that share a fingerprint are held
back for `dedup_seconds`, and the alerts let through are at most `per_minute` a
minute.  The clock is read once in each call, and its readings are exact.
-/

namespace MovieApi.Alerts

open NbcChecks (Dict)

inductive Level where
  | error
  | warning
  | info
  | resolved
deriving DecidableEq, Repr

/-- `_Seen`. -/
structure Seen where
  sentAt : ℚ
  held : ℕ
deriving DecidableEq, Repr

structure Relay where
  dedupSeconds : ℚ
  perMinute : ℕ
  seen : Dict Seen
  sent : List ℚ
  dropped : ℕ
deriving DecidableEq, Repr

/-- `Relay(dedup_seconds=…, per_minute=…)`. -/
def Relay.new (dedupSeconds : ℚ) (perMinute : ℕ) : Relay := ⟨dedupSeconds, perMinute, [], [], 0⟩

/-- A call of `admit`, with the clock's reading. -/
structure Call where
  fingerprint : Option String
  level : Level
  now : ℚ
deriving DecidableEq, Repr

/-- An empty fingerprint counts as none. -/
def Call.key? (c : Call) : Option String := c.fingerprint.filter fun f => f ≠ ""

/-! ## The two gates -/

namespace Relay

def seen? (r : Relay) (c : Call) : Option Seen := c.key?.bind r.seen.get?

/-- The alert repeats one that went out less than `dedup_seconds` ago. -/
def repeats (r : Relay) (c : Call) : Bool :=
  match r.seen? c with
  | some seen => decide (c.level ≠ .resolved ∧ c.now - seen.sentAt < r.dedupSeconds)
  | none => false

/-- `seen.held += 1`. -/
def hold (r : Relay) (c : Call) : Relay :=
  match c.key?, r.seen? c with
  | some key, some seen => { r with seen := r.seen.put key { seen with held := seen.held + 1 } }
  | _, _ => r

/-- `_take_slot`. -/
def takeSlot (r : Relay) (now : ℚ) : Bool × Relay :=
  ((Windows.takeSlot 60 r.perMinute r.sent now).1,
    { r with sent := (Windows.takeSlot 60 r.perMinute r.sent now).2 })

/-- What `_prune` keeps. -/
def fresh (now : ℚ) (item : String × Seen) : Bool := decide (now - 86400 < item.2.sentAt)

/-- `_prune`. -/
def prune (r : Relay) (now : ℚ) : Relay :=
  if r.seen.length < 500 then r else { r with seen := r.seen.filter (fresh now) }

/-- What a call that is let through leaves behind under its fingerprint. -/
def remember (r : Relay) (c : Call) : Relay :=
  match c.key? with
  | some key =>
      if c.level = .resolved then { r with seen := r.seen.del key }
      else ({ r with seen := r.seen.put key ⟨c.now, 0⟩ }).prune c.now
  | none => r

/-- The repeats held back since the last alert of the fingerprint. -/
def heldFor (r : Relay) (c : Call) : ℕ :=
  match r.seen? c with
  | some seen => seen.held
  | none => 0

/-- `admit`: whether to send, the repeats held back, and the relay afterwards. -/
def admitCall (r : Relay) (c : Call) : (Bool × ℕ) × Relay :=
  if r.repeats c then ((false, 0), r.hold c)
  else if (r.takeSlot c.now).1 then
    ((true, r.heldFor c), (r.takeSlot c.now).2.remember c)
  else ((false, 0), { (r.takeSlot c.now).2 with dropped := r.dropped + 1 })

/-- `take_dropped`. -/
def takeDropped (r : Relay) : ℕ × Relay := (r.dropped, { r with dropped := 0 })

/-- Fewer than `per_minute` alerts still count at `now`. -/
def room (r : Relay) (now : ℚ) : Bool :=
  decide ((Windows.evict 60 now r.sent).length < r.perMinute)

variable {r : Relay} {c : Call}

theorem takeSlot_fst (now : ℚ) : (r.takeSlot now).1 = r.room now := by
  rw [Bool.eq_iff_iff, room, decide_eq_true_iff]
  exact Windows.takeSlot_eq_true

/-- What a call can do, once for all proofs. -/
theorem admit_cases (r : Relay) (c : Call) :
    (r.repeats c = true ∧ r.admitCall c = ((false, 0), r.hold c)) ∨
    (r.repeats c = false ∧ r.room c.now = false ∧
      r.admitCall c = ((false, 0), { (r.takeSlot c.now).2 with dropped := r.dropped + 1 })) ∨
    (r.repeats c = false ∧ r.room c.now = true ∧
      r.admitCall c = ((true, r.heldFor c), (r.takeSlot c.now).2.remember c)) := by
  rw [admitCall]
  by_cases hrepeats : r.repeats c = true
  · exact Or.inl ⟨hrepeats, if_pos hrepeats⟩
  have hnot : r.repeats c = false := Bool.eq_false_iff.2 hrepeats
  rw [if_neg hrepeats, takeSlot_fst]
  by_cases hroom : r.room c.now = true
  · exact Or.inr (Or.inr ⟨hnot, hroom, if_pos hroom⟩)
  · exact Or.inr (Or.inl ⟨hnot, Bool.eq_false_iff.2 hroom, if_neg hroom⟩)

end Relay

end MovieApi.Alerts
