import MovieApi.NbcChecks.Breaker

/-!
# The cap on the checks of an intent

`consume_intent_nbc_check` counts the checks of every intent in one dictionary.  When
that has grown it forgets its oldest 500 keys, and an intent keeps the place of its
first check however often it is checked afterwards.
-/

namespace MovieApi.NbcChecks

open Billing (Instant)

/-! ## Checks of many intents -/

/-- `consume_intent_nbc_check`, with the cap the caller passes. -/
def consumeUpTo (maxChecks : Int) (intentId : String) (now : Instant)
    (checks : Dict (Nat × Instant)) : Bool × Dict (Nat × Instant) :=
  if intentId = "" then (true, checks)
  else
    let reserved (used : Nat) (started : Instant) : Dict (Nat × Instant) :=
      softPrune (checks.put intentId (used, started))
    match checks.get? intentId with
    | none => (true, reserved 1 now)
    | some (used, started) =>
        if intentNbcCheckWindow ≤ now - started then (true, reserved 1 now)
        else if max 1 maxChecks < used + 1 then (false, checks)
        else (true, reserved (used + 1) started)

/-- The probes pass no cap of their own. -/
theorem consumeIntentNbcCheck_eq (intentId : String) (now : Instant) (m : Memory) :
    consumeIntentNbcCheck intentId now m =
      ((consumeUpTo maxNbcChecksPerIntent intentId now m.intentNbcChecks).1,
        { m with
          intentNbcChecks :=
            (consumeUpTo maxNbcChecksPerIntent intentId now m.intentNbcChecks).2 }) := by
  unfold consumeIntentNbcCheck consumeUpTo
  have hcap (used : Nat) : maxNbcChecksPerIntent < used + 1 ↔
      max 1 (maxNbcChecksPerIntent : Int) < used + 1 := by
    have hmax : max 1 (maxNbcChecksPerIntent : Int) = maxNbcChecksPerIntent :=
      max_eq_right (by decide)
    rw [hmax]
    omega
  split
  · rfl
  · cases hentry : m.intentNbcChecks.get? intentId with
    | none => rfl
    | some entry =>
        simp only [← hcap entry.1]
        split
        · rfl
        · split <;> rfl

/-- `intent_nbc_check_count`. -/
def intentNbcCheckCount (intentId : String) (now : Instant) (checks : Dict (Nat × Instant)) :
    Nat × Dict (Nat × Instant) :=
  if intentId = "" then (0, checks)
  else
    match checks.get? intentId with
    | none => (0, checks)
    | some (used, started) =>
        if intentNbcCheckWindow ≤ now - started then (0, checks.del intentId) else (used, checks)

/-- `reset_intent_nbc_checks`; without an intent it forgets all. -/
def resetIntentNbcChecks (intentId : Option String) (checks : Dict (Nat × Instant)) :
    Dict (Nat × Instant) :=
  match intentId with
  | none => []
  | some id => if id = "" then [] else checks.del id

section

variable {checks : Dict (Nat × Instant)} {id intentId : String} {value : Nat × Instant}

theorem softPrune_of_le (h : checks.length ≤ 2000) : softPrune checks = checks :=
  if_neg (not_lt.2 h)

theorem length_softPrune_put (h : checks.length ≤ 2000) :
    (softPrune (checks.put id value)).length ≤ 2000 := by
  by_cases hmem : id ∈ checks.keys
  · have hlength : (checks.put id value).length = checks.length := by simp [Dict.put_of_mem hmem]
    rw [softPrune_of_le (by omega)]
    omega
  · have hlength : (checks.put id value).length = checks.length + 1 := by
      simp [Dict.put_of_not_mem hmem]
    unfold softPrune
    split
    · rw [List.length_drop]
      omega
    · omega

theorem keys_softPrune_nodup (h : checks.keys.Nodup) : (softPrune checks).keys.Nodup := by
  unfold softPrune
  split
  · rw [Dict.keys, List.map_drop]
    exact h.sublist (List.drop_sublist _ _)
  · exact h

/-- The key that was put last is never pruned. -/
theorem get?_softPrune_put_self (h : checks.length ≤ 2000) :
    (softPrune (checks.put id value)).get? id = some value := by
  have hput : (checks.put id value).get? id = some value := Dict.get?_put_self
  rw [← hput]
  by_cases hmem : id ∈ checks.keys
  · rw [softPrune_of_le (by simpa [Dict.put_of_mem hmem] using h)]
  · unfold softPrune
    split
    · next hlong =>
        refine Dict.get?_drop fun htake => hmem ?_
        rw [Dict.put_of_not_mem hmem, List.length_append, List.length_singleton] at hlong
        rw [Dict.put_of_not_mem hmem, List.take_append_of_le_length (by omega), List.map_take]
          at htake
        exact List.mem_of_mem_take htake
    · rfl

/-- What a new check of one intent does to the entry of another one. -/
theorem get?_softPrune_put_of_ne (hnodup : checks.keys.Nodup) (hshort : checks.length ≤ 2000)
    (hne : intentId ≠ id) :
    (softPrune (checks.put id value)).get? intentId = checks.get? intentId ∨
      (softPrune (checks.put id value)).get? intentId = none ∧ 2000 ≤ checks.length ∧
        id ∉ checks.keys ∧ intentId ∈ (checks.take 500).map Prod.fst := by
  have hput : (checks.put id value).get? intentId = checks.get? intentId :=
    Dict.get?_put_of_ne hne
  rw [← hput]
  unfold softPrune
  split
  · next hlong =>
      have hnew : id ∉ checks.keys := fun hmem => by
        simp only [Dict.put_of_mem hmem, List.length_map] at hlong
        omega
      by_cases htake : intentId ∈ ((checks.put id value).take 500).map Prod.fst
      · have hgone : intentId ∉ Dict.keys ((checks.put id value).drop 500) := by
          have hkeys : (checks.put id value).keys.Nodup := Dict.keys_put_nodup hnodup
          have hdisjoint := List.disjoint_take_drop hkeys (le_refl 500)
          rw [List.map_take] at htake
          rw [Dict.keys, List.map_drop]
          exact hdisjoint htake
        rw [Dict.put_of_not_mem hnew, List.length_append, List.length_singleton] at hlong
        rw [Dict.put_of_not_mem hnew, List.take_append_of_le_length (by omega)] at htake
        exact .inr ⟨Dict.get?_eq_none.2 hgone, by omega, hnew, htake⟩
      · exact .inl (Dict.get?_drop htake)
  · exact .inl rfl

end

/-- The checks of all intents, and when those of one of them were granted since its
last reset. -/
structure CapSite where
  now : Instant
  checks : Dict (Nat × Instant)
  granted : List Instant
deriving DecidableEq

inductive CapAction where
  | wait (d : Nat)
  | consume (intentId : String)
  | count (intentId : String)
  | reset (intentId : Option String)
deriving DecidableEq, Repr

/-- Does the call forget the checks of the intent? -/
def CapAction.resets (intentId : String) : CapAction → Bool
  | .reset none => true
  | .reset (some id) => decide (id = "" ∨ id = intentId)
  | _ => false

/-- How many checks were granted in a window, and since when. -/
def countGrant (window : Option (Nat × Instant)) (now : Instant) : Option (Nat × Instant) :=
  match window with
  | none => some (1, now)
  | some (n, started) =>
      if intentNbcCheckWindow ≤ now - started then some (1, now) else some (n + 1, started)

/-- The counting window that the last granted check lies in: it begins with the first
check that is granted after the window before it. -/
def lastWindow (granted : List Instant) : Option (Nat × Instant) := granted.foldl countGrant none

namespace CapSite

variable (caps : String → Int) (intentId : String)

def next (s : CapSite) (action : CapAction) : CapSite :=
  match action with
  | .wait d => { s with now := s.now + d }
  | .consume id =>
      let answer := consumeUpTo (caps id) id s.now s.checks
      { s with
        checks := answer.2
        granted := if id = intentId ∧ answer.1 then s.granted ++ [s.now] else s.granted }
  | .count id => { s with checks := (intentNbcCheckCount id s.now s.checks).2 }
  | .reset id =>
      { s with
        checks := resetIntentNbcChecks id s.checks
        granted := if action.resets intentId then [] else s.granted }

/-- A new intent does not push out the intent's window while that goes on. -/
def spares (s : CapSite) : CapAction → Bool
  | .consume id =>
      !decide (2000 ≤ s.checks.length ∧ id ∉ s.checks.keys ∧
        intentId ∈ (s.checks.take 500).map Prod.fst ∧
        (s.checks.get? intentId).any fun entry => s.now - entry.2 < intentNbcCheckWindow)
  | _ => true

def fresh (now : Instant) : CapSite := ⟨now, [], []⟩

inductive Reached (s₀ : CapSite) : CapSite → Prop
  | refl : Reached s₀ s₀
  | step {s : CapSite} {action : CapAction} (h : Reached s₀ s)
      (hspares : s.spares intentId action = true) : Reached s₀ (s.next caps intentId action)

/-- The dictionary has the intent's window, unless that is over. -/
structure Counted (s : CapSite) : Prop where
  nodup : s.checks.keys.Nodup
  short : s.checks.length ≤ 2000
  entry : s.checks.get? intentId = lastWindow s.granted ∨
    (s.checks.get? intentId = none ∧ ∀ n started, lastWindow s.granted = some (n, started) →
      intentNbcCheckWindow ≤ s.now - started)
  within : ∀ n started, lastWindow s.granted = some (n, started) →
    (n : Int) ≤ max 1 (caps intentId)

variable {caps : String → Int} {intentId : String} {s : CapSite}

theorem lastWindow_snoc (granted : List Instant) (now : Instant) :
    lastWindow (granted ++ [now]) = countGrant (lastWindow granted) now := by
  simp [lastWindow, List.foldl_append]

/-- What the dictionary says of the window is what a check has to know of it. -/
theorem Counted.countGrant_entry (h : s.Counted caps intentId) :
    countGrant (s.checks.get? intentId) s.now = countGrant (lastWindow s.granted) s.now := by
  rcases h.entry with heq | ⟨hnone, hover⟩
  · rw [heq]
  · rw [hnone]
    cases hwindow : lastWindow s.granted with
    | none => rfl
    | some window =>
        obtain ⟨n, started⟩ := window
        simp [countGrant, hover n started hwindow]

/-- A check of the intent itself. -/
theorem Counted.consume_self (h : s.Counted caps intentId) (hid : intentId ≠ "") :
    (s.next caps intentId (.consume intentId)).Counted caps intentId := by
  have hgranted (value : Nat × Instant) (hvalue : countGrant (s.checks.get? intentId) s.now =
      some value) (hwithin : (value.1 : Int) ≤ max 1 (caps intentId)) :
      CapSite.Counted caps intentId { s with
        checks := softPrune (s.checks.put intentId value)
        granted := s.granted ++ [s.now] } := by
    have hwindow : lastWindow (s.granted ++ [s.now]) = some value := by
      rw [lastWindow_snoc, ← h.countGrant_entry, hvalue]
    refine ⟨keys_softPrune_nodup (Dict.keys_put_nodup h.nodup), length_softPrune_put h.short,
      .inl ?_, fun n started hn => ?_⟩
    · rw [get?_softPrune_put_self h.short, hwindow]
    · rw [hwindow] at hn
      cases hn
      exact hwithin
  simp only [CapSite.next, consumeUpTo, if_neg hid]
  cases hentry : s.checks.get? intentId with
  | none =>
      simp only [true_and, if_true]
      exact hgranted (1, s.now) (by rw [hentry]; rfl) (le_max_left _ _)
  | some entry =>
      obtain ⟨used, started⟩ := entry
      by_cases hover : intentNbcCheckWindow ≤ s.now - started
      · simp only [if_pos hover, true_and, if_true]
        exact hgranted (1, s.now) (by rw [hentry, countGrant, if_pos hover]) (le_max_left _ _)
      · by_cases hcap : max 1 (caps intentId) < (used : Int) + 1
        · simp only [if_neg hover, if_pos hcap]
          simpa using h
        · simp only [if_neg hover, if_neg hcap, true_and, if_true]
          refine hgranted (used + 1, started) (by rw [hentry, countGrant, if_neg hover]) ?_
          push_cast
          exact not_lt.1 hcap

/-- A check of another intent. -/
theorem Counted.consume_other (h : s.Counted caps intentId) {id : String} (hne : intentId ≠ id)
    (hspares : s.spares intentId (.consume id) = true) :
    (s.next caps intentId (.consume id)).Counted caps intentId := by
  have hput (value : Nat × Instant) : CapSite.Counted caps intentId { s with
      checks := softPrune (s.checks.put id value) } := by
    refine ⟨keys_softPrune_nodup (Dict.keys_put_nodup h.nodup), length_softPrune_put h.short,
      ?_, h.within⟩
    have hpruned : (softPrune (s.checks.put id value)).get? intentId = s.checks.get? intentId ∨
        (softPrune (s.checks.put id value)).get? intentId = none ∧ 2000 ≤ s.checks.length ∧
          id ∉ s.checks.keys ∧ intentId ∈ (s.checks.take 500).map Prod.fst :=
      get?_softPrune_put_of_ne h.nodup h.short hne
    rcases hpruned with hsame | ⟨hgone, hlong, hnew, htake⟩
    · simpa only [hsame] using h.entry
    · -- what is pruned is a window that is over
      refine .inr ⟨hgone, fun n started hwindow => ?_⟩
      rcases h.entry with heq | ⟨-, hover⟩
      · have holdest : intentId ∈ (s.checks.map Prod.fst).take 500 := by
          simpa only [List.map_take] using htake
        simpa [spares, hlong, hnew, holdest, heq, hwindow] using hspares
      · exact hover n started hwindow
  have hother (b : Bool) : ¬ (id = intentId ∧ b = true) := fun hsame => hne hsame.1.symm
  simp only [CapSite.next, consumeUpTo, hother, if_false]
  split
  · exact h
  · cases hentry : s.checks.get? id with
    | none => exact hput (1, s.now)
    | some entry =>
        obtain ⟨used, started⟩ := entry
        simp only
        split
        · exact hput (1, s.now)
        · split
          · exact h
          · exact hput (used + 1, started)

theorem Counted.del_other (h : s.Counted caps intentId) {id : String} (hne : intentId ≠ id) :
    CapSite.Counted caps intentId { s with checks := s.checks.del id } := by
  refine ⟨?_, (List.length_filter_le _ _).trans h.short, ?_, h.within⟩
  · exact h.nodup.sublist (List.filter_sublist.map _)
  · simpa only [Dict.get?_del_of_ne hne] using h.entry

theorem Counted.count (h : s.Counted caps intentId) (id : String) :
    (s.next caps intentId (.count id)).Counted caps intentId := by
  simp only [CapSite.next, intentNbcCheckCount]
  split
  · exact h
  cases hentry : s.checks.get? id with
  | none => exact h
  | some entry =>
      obtain ⟨used, started⟩ := entry
      simp only
      split
      · next hover =>
          by_cases hne : intentId = id
          · subst hne
            refine ⟨h.nodup.sublist (List.filter_sublist.map _),
              (List.length_filter_le _ _).trans h.short, .inr ⟨Dict.get?_del_self, ?_⟩, h.within⟩
            intro n started' hwindow
            rcases h.entry with heq | ⟨hnone, -⟩
            · rw [hentry, hwindow] at heq
              cases heq
              exact hover
            · rw [hentry] at hnone
              cases hnone
          · exact h.del_other hne
      · exact h

theorem Counted.reset (h : s.Counted caps intentId) (id : Option String) :
    (s.next caps intentId (.reset id)).Counted caps intentId := by
  have hfresh (checks : Dict (Nat × Instant)) (hnodup : checks.keys.Nodup)
      (hshort : checks.length ≤ 2000) (hnone : checks.get? intentId = none) :
      CapSite.Counted caps intentId { s with checks := checks, granted := [] } :=
    ⟨hnodup, hshort, .inl hnone, fun _ _ hwindow => by cases hwindow⟩
  have hdel : (s.checks.del intentId).keys.Nodup := h.nodup.sublist (List.filter_sublist.map _)
  cases id with
  | none => exact hfresh [] (by simp [Dict.keys]) (by simp) rfl
  | some id =>
      by_cases hempty : id = ""
      · simpa [CapSite.next, resetIntentNbcChecks, CapAction.resets, hempty] using
          hfresh [] (by simp [Dict.keys]) (by simp) rfl
      · by_cases hne : id = intentId
        · subst hne
          simpa [CapSite.next, resetIntentNbcChecks, CapAction.resets, hempty] using
            hfresh _ hdel ((List.length_filter_le _ _).trans h.short) Dict.get?_del_self
        · simpa [CapSite.next, resetIntentNbcChecks, CapAction.resets, hempty, hne] using
            h.del_other (Ne.symm hne)

theorem Counted.next (h : s.Counted caps intentId) (hid : intentId ≠ "") {action : CapAction}
    (hspares : s.spares intentId action = true) :
    (s.next caps intentId action).Counted caps intentId := by
  cases action with
  | wait d =>
      refine ⟨h.nodup, h.short, ?_, h.within⟩
      rcases h.entry with heq | ⟨hnone, hover⟩
      · exact .inl heq
      · refine .inr ⟨hnone, fun n started hwindow => ?_⟩
        have hsince := hover n started hwindow
        simp only [CapSite.next]
        linarith
  | consume id =>
      by_cases hne : intentId = id
      · exact hne ▸ h.consume_self hid
      · exact h.consume_other hne hspares
  | count id => exact h.count id
  | reset id => exact h.reset id

theorem fresh_counted (caps : String → Int) (intentId : String) (now : Instant) :
    (fresh now).Counted caps intentId where
  nodup := by simp [fresh, Dict.keys]
  short := by simp [fresh]
  entry := .inl rfl
  within _ _ hwindow := by cases hwindow

/-- However many intents are checked, no window of an intent has more checks than its cap,
as long as no new intent pushes out a window that goes on. -/
theorem nbc_checks_capped (caps : String → Int) (intentId : String) (now : Instant)
    (hid : intentId ≠ "") (hcap : 1 ≤ caps intentId) {s : CapSite}
    (h : Reached caps intentId (fresh now) s) :
    ∀ n started, lastWindow s.granted = some (n, started) → (n : Int) ≤ caps intentId := by
  have hcounted : s.Counted caps intentId := by
    induction h with
    | refl => exact fresh_counted caps intentId now
    | step _ hspares ih => exact ih.next hid hspares
  intro n started hwindow
  have hwithin := hcounted.within n started hwindow
  rwa [max_eq_right hcap] at hwithin

/-! ### The oldest intent -/

def run (caps : String → Int) (intentId : String) (s : CapSite) (actions : List CapAction) :
    CapSite :=
  actions.foldl (next caps intentId) s

theorem run_append (actions actions' : List CapAction) :
    s.run caps intentId (actions ++ actions') =
      (s.run caps intentId actions).run caps intentId actions' :=
  List.foldl_append

/-- Checks of the intent itself push out nothing. -/
theorem reached_own_checks {s₀ : CapSite} (h : Reached caps intentId s₀ s) (n : Nat) :
    Reached caps intentId s₀
      (s.run caps intentId (List.replicate n (.consume intentId))) := by
  induction n generalizing s with
  | zero => exact h
  | succ n ih =>
      refine ih (h.step ?_)
      have hkept : ¬ (intentId ∉ s.checks.keys ∧ intentId ∈ (s.checks.take 500).map Prod.fst) := by
        rintro ⟨hnew, htake⟩
        rw [List.map_take] at htake
        exact hnew (List.mem_of_mem_take htake)
      simp only [spares, Bool.not_eq_true', decide_eq_false_iff_not]
      exact fun hpruned => hkept ⟨hpruned.2.1, hpruned.2.2.1⟩

/-- Two of three checks under a cap of two. -/
theorem third_check_refused :
    let s := run (fun _ => 2) "i" (fresh 0) (List.replicate 3 (.consume "i"))
    s.granted.length = 2 ∧
      ∀ n started, lastWindow s.granted = some (n, started) → (n : Int) ≤ 2 :=
  ⟨by decide, nbc_checks_capped (fun _ => 2) "i" 0 (by decide) (by decide)
    (reached_own_checks .refl 3)⟩

/-- Ids of other intents, all longer than `"i"`. -/
def otherId (k : Nat) : String := String.ofList (List.replicate (k + 2) 'x')

theorem otherId_length (k : Nat) : (otherId k).length = k + 2 := by simp [otherId]

def defaultCaps (_ : String) : Int := maxNbcChecksPerIntent

/-- The site after forty checks of `"i"` and one each of `n` others. -/
def crowded (n : Nat) : CapSite where
  now := 0
  checks := ("i", (40, 0)) :: (List.range n).map fun k => (otherId k, (1, 0))
  granted := List.replicate 40 0

theorem run_forty : run defaultCaps "i" (fresh 0) (List.replicate 40 (.consume "i")) = crowded 0 := by
  decide +kernel

theorem otherId_not_mem (n : Nat) : otherId n ∉ Dict.keys (crowded n).checks := by
  intro hmem
  simp only [crowded, Dict.keys, List.map_cons, List.map_map, List.mem_cons, List.mem_map,
    List.mem_range, Function.comp_apply] at hmem
  rcases hmem with hi | ⟨k, hk, hother⟩
  · have hlength := otherId_length n
    rw [hi] at hlength
    have hone : "i".length = 1 := rfl
    omega
  · have hlength := otherId_length n
    rw [← hother, otherId_length] at hlength
    omega

theorem next_crowded (n : Nat) :
    (crowded n).next defaultCaps "i" (.consume (otherId n)) =
      { crowded (n + 1) with checks := softPrune (crowded (n + 1)).checks } := by
  have hnone := Dict.get?_eq_none.2 (otherId_not_mem n)
  have hempty : otherId n ≠ "" := fun h => by
    have hlength := otherId_length n
    rw [h] at hlength
    simp at hlength
  have hother : otherId n ≠ "i" := fun h => by
    have hlength := otherId_length n
    rw [h] at hlength
    have hone : "i".length = 1 := rfl
    omega
  have hput : (crowded n).checks.put (otherId n) (1, 0) = (crowded (n + 1)).checks := by
    rw [Dict.put_of_not_mem (otherId_not_mem n)]
    simp [crowded, List.range_succ]
  simp only [CapSite.next, consumeUpTo, if_neg hempty, hnone, hother, false_and, if_false]
  rw [show (crowded n).now = 0 from rfl, hput]
  rfl

theorem run_others {n : Nat} (hn : n ≤ 1999) :
    run defaultCaps "i" (crowded 0) ((List.range n).map fun k => .consume (otherId k)) =
      crowded n := by
  induction n with
  | zero => rfl
  | succ n ih =>
      have hshort : softPrune (crowded (n + 1)).checks = (crowded (n + 1)).checks :=
        softPrune_of_le (by simp [crowded]; omega)
      rw [List.range_succ, List.map_append, run_append, ih (by omega)]
      show (crowded n).next defaultCaps "i" (.consume (otherId n)) = _
      rw [next_crowded, hshort]

/-- After 2000 other intents the first one has been forgotten. -/
theorem pruned_crowded : Dict.get? (softPrune (crowded 2000).checks) "i" = none := by
  have hlong : 2000 < (crowded 2000).checks.length := by simp [crowded]
  rw [softPrune, if_pos hlong, Dict.get?_eq_none]
  intro hmem
  obtain ⟨item, hitem, hkey⟩ := List.mem_map.1 hmem
  rw [crowded, show (500 : Nat) = 499 + 1 from rfl, List.drop_succ_cons] at hitem
  obtain ⟨k, -, rfl⟩ := List.mem_map.1 (List.mem_of_mem_drop hitem)
  have hlength := otherId_length k
  rw [show otherId k = "i" from hkey] at hlength
  have hone : "i".length = 1 := rfl
  omega

/-- Forty checks of one intent, one of each of 2000 others, and one more of the first:
its window has forty-one. -/
theorem pruned_window_exceeds : ∃ actions : List CapAction,
    (∀ action ∈ actions, action.resets "i" = false) ∧
      lastWindow (run defaultCaps "i" (fresh 0) actions).granted = some (41, 0) := by
  refine ⟨List.replicate 40 (.consume "i") ++
    ((List.range 2000).map fun k => .consume (otherId k)) ++ [.consume "i"], ?_, ?_⟩
  · intro action hmem
    rcases List.mem_append.1 hmem with hmem | hmem
    · rcases List.mem_append.1 hmem with hmem | hmem
      · rw [List.eq_of_mem_replicate hmem]
        rfl
      · obtain ⟨k, -, rfl⟩ := List.mem_map.1 hmem
        rfl
    · rw [List.mem_singleton.1 hmem]
      rfl
  · have hcrowded : run defaultCaps "i" (fresh 0) (List.replicate 40 (.consume "i") ++
        (List.range 2000).map fun k => .consume (otherId k)) =
          { crowded 2000 with checks := softPrune (crowded 2000).checks } := by
      rw [run_append, run_forty, List.range_succ, List.map_append, run_append,
        run_others (le_refl _)]
      exact next_crowded 1999
    rw [run_append, hcrowded]
    have hnone := pruned_crowded
    simp only [run, List.foldl_cons, List.foldl_nil, CapSite.next, consumeUpTo, hnone]
    rfl

end CapSite

end MovieApi.NbcChecks
