import Mathlib.Algebra.Order.Group.Basic
import Mathlib.Data.List.TakeWhile

/-!
# Sliding windows

A limiter that keeps the times it let through, oldest first, and forgets the
oldest ones when they are `width` old.  Forgetting stops at the first young
time, so the memory may hold more than it must, and never less: no window of
that width holds more than `limit` of the times let through.
-/

namespace MovieApi.Windows

variable {T : Type} [AddCommGroup T] [LinearOrder T]

/-- What is left of the memory at `now`. -/
def evict (width now : T) (sent : List T) : List T :=
  sent.dropWhile fun t => decide (width ≤ now - t)

/-- Whether there is room at `now`, and the memory afterwards. -/
def takeSlot (width : T) (limit : ℕ) (sent : List T) (now : T) : Bool × List T :=
  if limit ≤ (evict width now sent).length then (false, evict width now sent)
  else (true, evict width now sent ++ [now])

/-- The times of the half-open window of `width` from `start` on. -/
def window (width start : T) (times : List T) : List T :=
  times.filter fun t => decide (start ≤ t ∧ t < start + width)

/-- The memory of a limiter after it let `passed` through: what it forgot is
old at `now`, and no window holds more than `limit`. -/
structure Tracks (width : T) (limit : ℕ) (passed sent : List T) (now : T) : Prop where
  forgotten : ∃ old, passed = old ++ sent ∧ ∀ t ∈ old, width ≤ now - t
  bounded : ∀ start, (window width start passed).length ≤ limit

variable {width now now' : T} {limit : ℕ} {passed sent : List T}

theorem Tracks.new (width : T) (limit : ℕ) (now : T) : Tracks width limit [] [] now :=
  ⟨⟨[], rfl, by simp⟩, fun _ => Nat.zero_le _⟩

theorem takeSlot_eq_true :
    (takeSlot width limit sent now).1 = true ↔ (evict width now sent).length < limit := by
  rw [takeSlot]
  split
  · next hfull => simp [hfull]
  · next hroom => simp [Nat.lt_of_not_le hroom]

theorem Tracks.evict (h : Tracks width limit passed sent now) :
    Tracks width limit passed (evict width now sent) now := by
  obtain ⟨old, hpassed, hold⟩ := h.forgotten
  refine ⟨⟨old ++ sent.takeWhile fun t => decide (width ≤ now - t), ?_, ?_⟩, h.bounded⟩
  · rw [List.append_assoc, Windows.evict, List.takeWhile_append_dropWhile, hpassed]
  · intro t ht
    rcases List.mem_append.1 ht with ht | ht
    · exact hold t ht
    · exact of_decide_eq_true (List.mem_takeWhile_imp (p := fun t => decide (width ≤ now - t)) ht)

variable [IsOrderedAddMonoid T]

theorem Tracks.later (h : Tracks width limit passed sent now) (hle : now ≤ now') :
    Tracks width limit passed sent now' := by
  obtain ⟨old, hpassed, hold⟩ := h.forgotten
  exact ⟨⟨old, hpassed, fun t ht => (hold t ht).trans (sub_le_sub_right hle t)⟩, h.bounded⟩

/-- A window that reaches `now` starts after everything forgotten. -/
theorem window_eq_of_forgotten {old : List T} {start : T} (hold : ∀ t ∈ old, width ≤ now - t)
    (hnow : now < start + width) : window width start (old ++ sent) = window width start sent := by
  have hnone : window width start old = [] := by
    refine List.filter_eq_nil_iff.2 fun t ht => ?_
    intro hin
    have hstart : start ≤ t := (of_decide_eq_true hin).1
    have hold' : t + width ≤ now := by
      have := hold t ht
      rwa [le_sub_iff_add_le, add_comm] at this
    exact absurd (hold'.trans_lt hnow) (not_lt.2 (add_le_add_left hstart width))
  rw [window, List.filter_append]
  change window width start old ++ _ = _
  rw [hnone, List.nil_append]
  rfl

/-- One more time may be let through where the memory is not full. -/
theorem Tracks.push (h : Tracks width limit passed sent now) (hroom : sent.length < limit) :
    Tracks width limit (passed ++ [now]) (sent ++ [now]) now := by
  obtain ⟨old, hpassed, hold⟩ := h.forgotten
  refine ⟨⟨old, by rw [hpassed, List.append_assoc], hold⟩, fun start => ?_⟩
  by_cases hin : start ≤ now ∧ now < start + width
  · have hsent : window width start (passed ++ [now]) = window width start (sent ++ [now]) := by
      rw [hpassed, List.append_assoc]
      exact window_eq_of_forgotten hold hin.2
    have hlen : (window width start (sent ++ [now])).length ≤ (sent ++ [now]).length :=
      List.length_filter_le _ _
    rw [hsent]
    simp only [List.length_append, List.length_singleton] at hlen
    omega
  · have hsame : window width start (passed ++ [now]) = window width start passed := by
      rw [window, List.filter_append]
      simp [hin, window]
    rw [hsame]
    exact h.bounded start

/-- **The step of the limiter.** -/
theorem Tracks.takeSlot (h : Tracks width limit passed sent now) :
    Tracks width limit
      (if (takeSlot width limit sent now).1 then passed ++ [now] else passed)
      (takeSlot width limit sent now).2 now := by
  rw [Windows.takeSlot]
  split
  · exact h.evict
  · next hroom => exact h.evict.push (Nat.lt_of_not_le hroom)

end MovieApi.Windows
