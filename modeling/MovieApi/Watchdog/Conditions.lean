import Mathlib

/-!
# Conditions of the watchdog

`ops/watchdog/watchdog.py`: `Condition` turns a series of checks into changes, and
`report` sends an alert for each of them.
-/

namespace MovieApi.Watchdog

/-- An alert as it is sent to the relay, under the label of the host. -/
structure Alert where
  level : String
  title : String
  detail : String
  fingerprint : Option String
deriving DecidableEq, Repr

inductive Change where
  | fire | resolve
deriving DecidableEq, Repr

structure Condition where
  needed : Nat
  badStreak : Nat
  active : Bool
deriving DecidableEq, Repr

namespace Condition

def fresh (needed : Nat) : Condition := ⟨needed, 0, false⟩

def update (c : Condition) (bad : Bool) : Option Change × Condition :=
  if bad then
    if c.active = false ∧ c.needed ≤ c.badStreak + 1 then
      (some .fire, ⟨c.needed, c.badStreak + 1, true⟩)
    else (none, ⟨c.needed, c.badStreak + 1, c.active⟩)
  else if c.active then (some .resolve, ⟨c.needed, 0, false⟩)
  else (none, ⟨c.needed, 0, c.active⟩)

/-- The outputs of one check after the other. -/
def updates (c : Condition) : List Bool → List (Option Change)
  | [] => []
  | bad :: checks => (c.update bad).1 :: (c.update bad).2.updates checks

def after (c : Condition) : List Bool → Condition
  | [] => c
  | bad :: checks => (c.update bad).2.after checks

end Condition

def Change.level : Change → String
  | .fire => "error"
  | .resolve => "resolved"

def Change.title (fire resolve : String) : Change → String
  | .fire => fire
  | .resolve => resolve

/-- `report`: the alert of a change. -/
def report (host : String) (c : Condition) (bad : Bool) (key fire resolve : String) :
    Option Alert × Condition :=
  ((c.update bad).1.map fun change =>
    ⟨change.level, change.title fire resolve, "", some (host ++ ":" ++ key)⟩, (c.update bad).2)

/-- The alerts of one condition; every check comes with its two texts. -/
def reports (host key : String) (c : Condition) : List (Bool × String × String) → List Alert
  | [] => []
  | (bad, fire, resolve) :: checks =>
      (report host c bad key fire resolve).1.toList ++
        reports host key (report host c bad key fire resolve).2 checks

/-! ## Streaks -/

/-- The number of bad checks since the last good one. -/
def streak : List Bool → Nat :=
  List.foldl (fun n bad => if bad then n + 1 else 0) 0

@[simp] theorem streak_nil : streak [] = 0 := rfl

@[simp] theorem streak_snoc (checks : List Bool) (bad : Bool) :
    streak (checks ++ [bad]) = if bad then streak checks + 1 else 0 := by
  simp [streak, List.foldl_append]

variable {needed : Nat} {checks : List Bool} {i : Nat}

theorem streak_take_succ {bad : Bool} (h : checks[i]? = some bad) :
    streak (checks.take (i + 1)) = if bad then streak (checks.take i) + 1 else 0 := by
  rw [List.take_add_one, h, Option.toList_some, streak_snoc]

/-- How long the streak is: the checks in it are bad, and the one before it is good. -/
theorem streak_take_eq_iff (hi : i ≤ checks.length) (n : Nat) :
    streak (checks.take i) = n ↔
      n ≤ i ∧ (∀ k, i - n ≤ k → k < i → checks[k]? = some true) ∧
        (n < i → checks[i - n - 1]? = some false) := by
  induction i generalizing n with
  | zero =>
      constructor
      · intro h
        have hn : n = 0 := by simpa using h.symm
        subst hn
        exact ⟨le_refl 0, fun k _ hk => absurd hk (by omega), fun h => absurd h (by omega)⟩
      · intro h
        have hn : n = 0 := by omega
        simp [hn]
  | succ i ih =>
      obtain ⟨bad, hbad⟩ : ∃ bad, checks[i]? = some bad := ⟨_, List.getElem?_eq_getElem (by omega)⟩
      rw [streak_take_succ hbad]
      cases bad with
      | false =>
          simp only [Bool.false_eq_true, if_false]
          constructor
          · intro h
            subst h
            exact ⟨by omega, fun k hk hk' => absurd hk' (by omega), fun _ => by simpa using hbad⟩
          · rintro ⟨-, hall, -⟩
            by_contra hn
            have hlast := hall i (by omega) (by omega)
            rw [hbad] at hlast
            cases hlast
      | true =>
          simp only [if_true]
          cases n with
          | zero =>
              simp only [Nat.add_eq_zero_iff, one_ne_zero, and_false, false_iff, not_and]
              intro _ _ hbefore
              have hlast := hbefore (by omega)
              rw [show i + 1 - 0 - 1 = i by omega, hbad] at hlast
              cases hlast
          | succ n =>
              rw [Nat.add_right_cancel_iff, ih (by omega)]
              have hsub : i + 1 - (n + 1) = i - n := by omega
              rw [hsub]
              constructor
              · rintro ⟨hn, hall, hbefore⟩
                refine ⟨by omega, fun k hk hk' => ?_, fun hlt => hbefore (by omega)⟩
                by_cases hki : k = i
                · rw [hki, hbad]
                · exact hall k hk (by omega)
              · rintro ⟨hn, hall, hbefore⟩
                exact ⟨by omega, fun k hk hk' => hall k hk (by omega), fun hlt => hbefore (by omega)⟩

/-! ## The condition after a series of checks -/

namespace Condition

theorem after_snoc (c : Condition) (checks : List Bool) (bad : Bool) :
    c.after (checks ++ [bad]) = ((c.after checks).update bad).2 := by
  induction checks generalizing c with
  | nil => rfl
  | cons first checks ih => exact ih _

theorem updates_getElem? (c : Condition) (checks : List Bool) (i : Nat) :
    (c.updates checks)[i]? =
      checks[i]?.map fun bad => ((c.after (checks.take i)).update bad).1 := by
  induction checks generalizing c i with
  | nil => simp [updates]
  | cons first checks ih =>
      cases i with
      | zero => rfl
      | succ i => exact ih _ i

/-- The streak is counted, and the condition is active once it is long enough. -/
theorem after_fresh (h : 1 ≤ needed) (checks : List Bool) :
    (fresh needed).after checks =
      ⟨needed, streak checks, decide (needed ≤ streak checks)⟩ := by
  induction checks using List.reverseRecOn with
  | nil =>
      have hneeded : ¬ needed ≤ 0 := by omega
      simp [after, fresh, hneeded]
  | append_singleton checks bad ih =>
      rw [after_snoc, ih, streak_snoc]
      cases bad with
      | false =>
          have hneeded : ¬ needed ≤ 0 := by omega
          by_cases hactive : needed ≤ streak checks <;> simp [update, hactive, hneeded]
      | true =>
          by_cases hactive : needed ≤ streak checks
          · have hmore : needed ≤ streak checks + 1 := by omega
            simp [update, hactive, hmore]
          · by_cases hreached : needed ≤ streak checks + 1 <;>
              simp [update, hactive, hreached]

theorem update_eq_fire_iff (n : Nat) (bad : Bool) :
    (update ⟨needed, n, decide (needed ≤ n)⟩ bad).1 = some .fire ↔
      bad = true ∧ n + 1 = needed := by
  cases bad with
  | false => by_cases h : needed ≤ n <;> simp [update, h]
  | true =>
      by_cases h : needed ≤ n
      · have hne : n + 1 ≠ needed := by omega
        simp [update, h, hne]
      · by_cases hreached : needed ≤ n + 1
        · have heq : n + 1 = needed := by omega
          simp [update, h, heq]
        · have hne : n + 1 ≠ needed := by omega
          simp [update, h, hreached, hne]

theorem update_eq_resolve_iff (n : Nat) (bad : Bool) :
    (update ⟨needed, n, decide (needed ≤ n)⟩ bad).1 = some .resolve ↔
      bad = false ∧ needed ≤ n := by
  cases bad with
  | false => by_cases h : needed ≤ n <;> simp [update, h]
  | true => by_cases h : needed ≤ n <;> by_cases h' : needed ≤ n + 1 <;> simp [update, h, h']

theorem fires_iff_streak (h : 1 ≤ needed) :
    ((fresh needed).updates checks)[i]? = some (some .fire) ↔
      checks[i]? = some true ∧ streak (checks.take i) + 1 = needed := by
  rw [updates_getElem?, after_fresh h]
  cases hcheck : checks[i]? with
  | none => simp
  | some bad => simp [update_eq_fire_iff]

theorem resolves_iff_streak (h : 1 ≤ needed) :
    ((fresh needed).updates checks)[i]? = some (some .resolve) ↔
      checks[i]? = some false ∧ needed ≤ streak (checks.take i) := by
  rw [updates_getElem?, after_fresh h]
  cases hcheck : checks[i]? with
  | none => simp
  | some bad => simp [update_eq_resolve_iff]

/-- A streak that is long enough has fired, and it is not over. -/
theorem exists_fire_iff (h : 1 ≤ needed) (hi : i ≤ checks.length) :
    needed ≤ streak (checks.take i) ↔
      ∃ j < i, ((fresh needed).updates checks)[j]? = some (some .fire) ∧
        ∀ k, j < k → k < i → checks[k]? = some true := by
  induction i with
  | zero =>
      constructor
      · intro hlong
        rw [List.take_zero, streak_nil] at hlong
        omega
      · rintro ⟨j, hj, -⟩
        omega
  | succ i ih =>
      obtain ⟨bad, hbad⟩ : ∃ bad, checks[i]? = some bad := ⟨_, List.getElem?_eq_getElem (by omega)⟩
      rw [streak_take_succ hbad]
      cases bad with
      | false =>
          simp only [Bool.false_eq_true, if_false]
          constructor
          · intro hlong
            omega
          · rintro ⟨j, hj, hfire, hall⟩
            by_cases hji : j = i
            · rw [hji, fires_iff_streak h, hbad] at hfire
              cases hfire.1
            · have hlast := hall i (by omega) (by omega)
              rw [hbad] at hlast
              cases hlast
      | true =>
          simp only [if_true]
          constructor
          · intro hlong
            by_cases hbefore : needed ≤ streak (checks.take i)
            · obtain ⟨j, hj, hfire, hall⟩ := (ih (by omega)).1 hbefore
              refine ⟨j, by omega, hfire, fun k hk hk' => ?_⟩
              by_cases hki : k = i
              · rw [hki, hbad]
              · exact hall k hk (by omega)
            · refine ⟨i, by omega, (fires_iff_streak h).2 ⟨hbad, by omega⟩, fun k hk hk' => ?_⟩
              omega
          · rintro ⟨j, hj, hfire, hall⟩
            by_cases hji : j = i
            · rw [hji, fires_iff_streak h] at hfire
              omega
            · have hlong := (ih (by omega)).2
                ⟨j, by omega, hfire, fun k hk hk' => hall k hk (by omega)⟩
              omega

end Condition

/-! ## Episodes -/

/-- Check `i` is the `needed`-th bad one of its streak. -/
def ReachesAt (needed : Nat) (checks : List Bool) (i : Nat) : Prop :=
  needed ≤ i + 1 ∧ (∀ k, i + 1 - needed ≤ k → k ≤ i → checks[k]? = some true) ∧
    (needed ≤ i → checks[i - needed]? = some false)

/-- `next`, the other change, `next` again, and so on. -/
def Alternates : Change → List Change → Prop
  | _, [] => True
  | .fire, change :: changes => change = .fire ∧ Alternates .resolve changes
  | .resolve, change :: changes => change = .resolve ∧ Alternates .fire changes

/-- A check changes nothing, or it is the change the condition is ready for. -/
theorem Condition.update_cases (c : Condition) (bad : Bool) :
    ((c.update bad).1 = none ∧ (c.update bad).2.active = c.active) ∨
      ((c.update bad).1 = some .fire ∧ c.active = false ∧ (c.update bad).2.active = true) ∨
      ((c.update bad).1 = some .resolve ∧ c.active = true ∧ (c.update bad).2.active = false) := by
  unfold update
  cases bad with
  | false => cases hactive : c.active <;> simp
  | true =>
      cases hactive : c.active with
      | true => simp
      | false => by_cases hreached : c.needed ≤ c.badStreak + 1 <;> simp [hreached]

theorem alternates_updates (c : Condition) (checks : List Bool) :
    Alternates (if c.active then .resolve else .fire) (c.updates checks).reduceOption := by
  induction checks generalizing c with
  | nil => cases c.active <;> trivial
  | cons bad checks ih =>
      have hrest := ih (c.update bad).2
      rw [Condition.updates]
      rcases c.update_cases bad with ⟨hnone, hsame⟩ | ⟨hfire, hbefore, hafter⟩ |
        ⟨hresolve, hbefore, hafter⟩
      · rw [hnone, List.reduceOption_cons_of_none, ← hsame]
        exact hrest
      · rw [hfire, List.reduceOption_cons_of_some, hbefore]
        rw [hafter] at hrest
        exact ⟨rfl, hrest⟩
      · rw [hresolve, List.reduceOption_cons_of_some, hbefore]
        rw [hafter] at hrest
        exact ⟨rfl, hrest⟩

/-- What is reported: one alert for every change, an error first. -/
theorem reports_levels (host key : String) (c : Condition) (checks : List (Bool × String × String)) :
    (reports host key c checks).map Alert.level =
      (c.updates (checks.map Prod.fst)).reduceOption.map Change.level := by
  induction checks generalizing c with
  | nil => rfl
  | cons check checks ih =>
      obtain ⟨bad, fire, resolve⟩ := check
      rw [reports, List.map_cons, Condition.updates, List.map_append, ih]
      cases hchange : (c.update bad).1 with
      | none => simp [report, hchange]
      | some change => simp [report, hchange]

/-- A condition fires at the check with which a streak of bad ones becomes long enough,
resolves at the first good check after that, and does so in turn. -/
theorem condition_episodes (h : 1 ≤ needed) (checks : List Bool) :
    (∀ i : Nat, ((Condition.fresh needed).updates checks)[i]? = some (some Change.fire) ↔
      ReachesAt needed checks i) ∧
    (∀ i : Nat, ((Condition.fresh needed).updates checks)[i]? = some (some Change.resolve) ↔
      checks[i]? = some false ∧
        ∃ j < i, ((Condition.fresh needed).updates checks)[j]? = some (some Change.fire) ∧
          ∀ k, j < k → k < i → checks[k]? = some true) ∧
    Alternates .fire ((Condition.fresh needed).updates checks).reduceOption := by
  refine ⟨fun i => ?_, fun i => ?_, alternates_updates (Condition.fresh needed) checks⟩
  · rw [Condition.fires_iff_streak h]
    constructor
    · rintro ⟨hbad, hstreak⟩
      have hi : i < checks.length := (List.getElem?_eq_some_iff.1 hbad).1
      have hreached : streak (checks.take (i + 1)) = needed := by
        rw [streak_take_succ hbad, if_pos rfl, hstreak]
      obtain ⟨hle, hall, hbefore⟩ := (streak_take_eq_iff (by omega) needed).1 hreached
      refine ⟨hle, fun k hk hk' => hall k hk (by omega), fun hlt => ?_⟩
      have hgood := hbefore (by omega)
      rwa [show i + 1 - needed - 1 = i - needed by omega] at hgood
    · rintro ⟨hle, hall, hbefore⟩
      have hbad : checks[i]? = some true := hall i (by omega) (le_refl i)
      have hi : i < checks.length := (List.getElem?_eq_some_iff.1 hbad).1
      refine ⟨hbad, ?_⟩
      have hreached : streak (checks.take (i + 1)) = needed := by
        refine (streak_take_eq_iff (by omega) needed).2
          ⟨hle, fun k hk hk' => hall k hk (by omega), fun hlt => ?_⟩
        rw [show i + 1 - needed - 1 = i - needed by omega]
        exact hbefore (by omega)
      rwa [streak_take_succ hbad, if_pos rfl] at hreached
  · rw [Condition.resolves_iff_streak h]
    constructor
    · rintro ⟨hgood, hlong⟩
      have hi : i < checks.length := (List.getElem?_eq_some_iff.1 hgood).1
      exact ⟨hgood, (Condition.exists_fire_iff h (by omega)).1 hlong⟩
    · rintro ⟨hgood, hfired⟩
      have hi : i < checks.length := (List.getElem?_eq_some_iff.1 hgood).1
      exact ⟨hgood, (Condition.exists_fire_iff h (by omega)).2 hfired⟩

/-- Two misses fire at the second, as the watch on containers has it. -/
theorem down_episodes :
    1 ≤ 2 ∧ (∀ i : Nat, ((Condition.fresh 2).updates [true, true, true, false, false])[i]? =
      some (some Change.fire) ↔ ReachesAt 2 [true, true, true, false, false] i) :=
  ⟨by decide, (condition_episodes (by decide) [true, true, true, false, false]).1⟩

example : (Condition.fresh 2).updates [true, true, true, false, false] =
    [none, some .fire, none, some .resolve, none] := by decide

end MovieApi.Watchdog
