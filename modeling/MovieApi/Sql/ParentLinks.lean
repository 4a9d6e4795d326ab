import Mathlib.Data.Option.Basic
import Mathlib.Tactic.Common

/-!
# Parent links

Rows of a table that may name another row of it as their parent.  `climb` follows so
many links.
-/

namespace MovieApi.Sql

variable {κ : Type}

/-- The row `n` links above `k`. -/
def climb (up : κ → Option κ) : Nat → κ → Option κ
  | 0, k => some k
  | n + 1, k => (climb up n k).bind up

variable {up up' : κ → Option κ} {k root : κ} {n : Nat}

@[simp] theorem climb_zero : climb up 0 k = some k := rfl

theorem climb_succ : climb up (n + 1) k = (climb up n k).bind up := rfl

theorem climb_add (m n : Nat) (k : κ) : climb up (m + n) k = (climb up m k).bind (climb up n) := by
  induction n with
  | zero =>
      show climb up m k = (climb up m k).bind fun x => some x
      cases climb up m k <;> rfl
  | succ n ih => rw [← Nat.add_assoc, climb_succ, ih, Option.bind_assoc]; rfl

/-- The first link first. -/
theorem climb_succ_of_up {parent : κ} (h : up k = some parent) (n : Nat) :
    climb up (n + 1) k = climb up n parent := by
  rw [Nat.add_comm, climb_add]
  simp [climb, h]

theorem climb_eq_none_of_le (h : climb up n k = none) {m : Nat} (hle : n ≤ m) :
    climb up m k = none := by
  obtain ⟨rest, rfl⟩ := Nat.exists_eq_add_of_le hle
  rw [climb_add, h, Option.bind_none]

/-- A way up that ends has ended at a root. -/
theorem exists_root_of_climb_eq_none (h : climb up n k = none) :
    ∃ m < n, ∃ root, climb up m k = some root ∧ up root = none := by
  induction n with
  | zero => cases h
  | succ n ih =>
      cases hn : climb up n k with
      | none =>
          obtain ⟨m, hm, hroot⟩ := ih hn
          exact ⟨m, Nat.lt_succ_of_lt hm, hroot⟩
      | some root =>
          rw [climb_succ, hn, Option.bind_some] at h
          exact ⟨n, Nat.lt_succ_self n, root, hn, h⟩

/-- A way up stays in a set of rows that holds the parents of its rows. -/
theorem climb_mem {inside : κ → Prop} (hclosed : ∀ i j, inside i → up i = some j → inside j)
    (hk : inside k) {j : κ} (h : climb up n k = some j) : inside j := by
  induction n generalizing j with
  | zero => exact Option.some.inj h ▸ hk
  | succ n ih =>
      obtain ⟨i, hi, hup⟩ := Option.bind_eq_some_iff.1 h
      exact hclosed i j (ih hi) hup

/-- Ways up are the same where the links are. -/
theorem climb_congr (inside : κ → Prop) (hclosed : ∀ i j, inside i → up i = some j → inside j)
    (hsame : ∀ i, inside i → up' i = up i) (hk : inside k) (n : Nat) :
    climb up' n k = climb up n k := by
  induction n with
  | zero => rfl
  | succ n ih =>
      rw [climb_succ, climb_succ, ih]
      cases h : climb up n k with
      | none => rfl
      | some i => exact hsame i (climb_mem hclosed hk h)

/-- A way up that ends at a root comes back nowhere. -/
theorem climb_ne_self (h : climb up n k = some root) (hroot : up root = none) (m : Nat) :
    climb up (m + 1) k ≠ some k := by
  intro hcycle
  have hrounds (rounds : Nat) : climb up (rounds * (m + 1)) k = some k := by
    induction rounds with
    | zero => simp
    | succ rounds ih => rw [Nat.succ_mul, climb_add, ih, Option.bind_some, hcycle]
  have hend (rest : Nat) : climb up (n + (rest + 1)) k = none := by
    rw [climb_add, h, Option.bind_some]
    induction rest with
    | zero => exact hroot
    | succ rest ih => rw [climb_succ, ih, Option.bind_none]
  have hfar : (n + 1) * (m + 1) = n + ((n * m + m) + 1) := by
    rw [Nat.add_mul, Nat.mul_add]
    omega
  have hback := hrounds (n + 1)
  rw [hfar, hend] at hback
  cases hback

end MovieApi.Sql
