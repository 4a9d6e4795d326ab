import MovieApi.Catalog.Staleness

/-!
# Reads after an invalidation

An invalidation drops the keys from the dictionary of its own worker and from
Redis.  What the other workers hold, and what a read under way is about to
store, stays.
-/

namespace MovieApi.Catalog

open Relation (ReflTransGen)

/-! ## The property -/

/-- No read returned a value older than the last invalidation of its key that was
over when it began. -/
def Site.Rebuilt (s : Site) : Prop :=
  ∀ a ∈ s.answers, a.since ≤ a.value.version

/-! ## Steps that keep it -/

/-- The state of the database that a task's value for the key comes from, where
the task may still store it. -/
inductive TaskPhase.Carries : TaskPhase → String → Nat → Prop
  | answered {key since fill entry} :
      Carries (.answered key since fill (some entry)) key entry.value.version
  | computing {key since returns started version} :
      Carries (.computing key since returns started (some version)) key version
  | storing {key since returns value} :
      Carries (.storing key since returns value) key value.version

/-- Nothing of the keys is left from before `version`: not in a worker's
dictionary, not in Redis under a key that is not deleted now, and not with a
read under way. -/
structure Site.Leaves (setup : Setup) (s : Site) (version : Nat) (selection : Selection)
    (deleted : List String) : Prop where
  l1 : ∀ worker key entry, (key, entry) ∈ s.cached.l1 worker → selection.affects key = true →
    s.now + setup.clock worker < entry.expiresAt → version ≤ entry.value.version
  l2 : ∀ key entry, (redisKeyPrefix ++ key, entry) ∈ s.cached.l2 → selection.affects key = true →
    redisKeyPrefix ++ key ∉ deleted → s.now < entry.expiresAt → version ≤ entry.value.version
  tasks : ∀ task key read, (s.tasks task).Carries key read → selection.affects key = true →
    version ≤ read

/-- A call to Redis that ends an invalidation leaves nothing old behind. -/
def Thorough (setup : Setup) (s : Site) : CacheAction → Prop
  | .resume task up => ∀ version selection keys, s.tasks task = .deleting version selection keys →
      (keys.isSome = true ∨ up = false) →
      s.Leaves setup version selection (if up then keys.getD [] else [])
  | _ => True

/-! ## The invariant -/

def TaskPhase.Current (valid : String → Nat) (version : Nat) : TaskPhase → Prop
  | .asking key since _ | .answered key since _ _ | .computing key since _ _ _
  | .storing key since _ _ => since ≤ valid key
  | .stored _ since _ value => since ≤ value.version
  | .wrote own | .deleting own _ _ => own ≤ version
  | .idle => True

structure Current (setup : Setup) (s : Site) : Prop where
  l1 : ∀ worker key entry, (key, entry) ∈ s.cached.l1 worker →
    s.now + setup.clock worker < entry.expiresAt → s.valid key ≤ entry.value.version
  l2 : ∀ key entry, (redisKeyPrefix ++ key, entry) ∈ s.cached.l2 → s.now < entry.expiresAt →
    s.valid key ≤ entry.value.version
  carried : ∀ task key read, (s.tasks task).Carries key read → s.valid key ≤ read
  tasks : ∀ task, (s.tasks task).Current s.valid s.version
  valid : ∀ key, s.valid key ≤ s.version
  answers : s.Rebuilt

variable {setup : Setup} {s : Site} {task : Nat} {key : String} {since : Nat}

theorem Current.fresh (now : Int) : Current setup (Site.fresh now) where
  l1 _ _ _ h := by simp [Site.fresh, Caches.empty] at h
  l2 _ _ h := by simp [Site.fresh, Caches.empty] at h
  carried _ _ _ h := by cases h
  tasks _ := trivial
  valid _ := le_rfl
  answers _ h := by simp [Site.fresh] at h

theorem Current.enter (h : Current setup s) {phase : TaskPhase}
    (hcarried : ∀ key read, phase.Carries key read → s.valid key ≤ read)
    (hphase : phase.Current s.valid s.version) : Current setup (s.enter task phase) where
  l1 := h.l1
  l2 := h.l2
  carried other key read hread := by
    by_cases ho : other = task
    · subst ho
      exact hcarried key read (by simpa [Site.enter] using hread)
    · exact h.carried other key read (by simpa [Site.enter, Function.update_of_ne ho] using hread)
  tasks other := by
    by_cases ho : other = task
    · subst ho
      simpa [Site.enter] using hphase
    · simpa [Site.enter, Function.update_of_ne ho] using h.tasks other
  valid := h.valid
  answers := h.answers

/-- A task that goes on with nothing in its hands. -/
theorem Current.leave (h : Current setup s) {phase : TaskPhase}
    (hcarried : ∀ key read, ¬phase.Carries key read) (hphase : phase.Current s.valid s.version) :
    Current setup (s.enter task phase) :=
  h.enter (fun key read hread => absurd hread (hcarried key read)) hphase

theorem Current.answer (h : Current setup s) {value : Payload} (hvalue : since ≤ value.version) :
    Current setup (s.answer key since value) where
  l1 := h.l1
  l2 := h.l2
  carried := h.carried
  tasks := h.tasks
  valid := h.valid
  answers a ha := by
    rcases List.mem_append.1 ha with ha | ha
    · exact h.answers a ha
    · rw [List.mem_singleton] at ha
      exact ha ▸ hvalue

theorem Current.setL1 (h : Current setup s) {cache : CacheDict Cached}
    (hcache : ∀ key entry, (key, entry) ∈ cache → s.workerNow setup task < entry.expiresAt →
      s.valid key ≤ entry.value.version) : Current setup (s.setL1 setup task cache) where
  l1 worker key entry hmem hlive := by
    by_cases hw : worker = setup.worker task
    · subst hw
      exact hcache key entry (by simpa [Site.setL1, Caches.setL1] using hmem) hlive
    · exact h.l1 worker key entry
        (by simpa [Site.setL1, Caches.setL1, Function.update_of_ne hw] using hmem) hlive
  l2 := h.l2
  carried := h.carried
  tasks := h.tasks
  valid := h.valid
  answers := h.answers

theorem Current.store (h : Current setup s) {value : Cached} {ttl : Int}
    (hvalue : s.valid key ≤ value.version) : Current setup (s.store setup task key value ttl) := by
  refine h.setL1 fun key' entry hmem hlive => ?_
  rcases mem_cacheSet hmem with heq | hold
  · simp only [Prod.mk.injEq] at heq
    obtain ⟨rfl, rfl⟩ := heq
    exact hvalue
  · exact h.l1 _ _ _ hold hlive

theorem Current.setL2 (h : Current setup s) {l2 : CacheDict Cached}
    (hl2 : ∀ key entry, (redisKeyPrefix ++ key, entry) ∈ l2 → s.now < entry.expiresAt →
      s.valid key ≤ entry.value.version) :
    Current setup { s with cached := { s.cached with l2 } } :=
  ⟨h.l1, hl2, h.carried, h.tasks, h.valid, h.answers⟩

/-! ## One step of a read -/

theorem Current.lookup {fill : Bool} (h : Current setup s) :
    Current setup (s.lookup setup task key fill) := by
  have hread : Current setup (s.setL1 setup task
      (cacheGet (s.cached.l1 (setup.worker task)) key (s.workerNow setup task)).2) :=
    h.setL1 fun key entry hmem hlive => h.l1 _ key entry (mem_of_mem_cacheGet hmem) hlive
  unfold Site.lookup
  cases hfound : (cacheGet (s.cached.l1 (setup.worker task)) key (s.workerNow setup task)).1 with
  | none =>
      simp only [hfound]
      exact hread.leave (fun _ _ hcarries => by cases hcarries) le_rfl
  | some value =>
      simp only [hfound]
      obtain ⟨entry, hmem, rfl, hlive⟩ := cacheGet_mem hfound
      exact hread.answer (h.l1 _ _ _ hmem hlive)

theorem Current.get {fill up : Bool} (h : Current setup s)
    (hphase : s.tasks task = .asking key since fill) :
    Current setup (s.get task key since fill up) := by
  have hsince := h.tasks task
  rw [hphase] at hsince
  refine h.enter (fun key' read hread => ?_) hsince
  generalize hfound : (if up = true then _ else none) = found at hread
  cases hread with
  | @answered _ _ _ entry =>
      cases up with
      | false => cases hfound
      | true =>
          simp only [if_true, Option.filter_eq_some_iff, decide_eq_true_eq] at hfound
          exact h.l2 _ _ (CacheDict.get?_mem hfound.1) hfound.2

theorem Current.hear {fill : Bool} {found : Option (CacheEntry Cached)} (h : Current setup s)
    (hphase : s.tasks task = .answered key since fill found) :
    Current setup (s.hear setup task key since fill found) := by
  have hsince := h.tasks task
  rw [hphase] at hsince
  unfold Site.hear
  cases found with
  | none =>
      dsimp only
      split
      · exact h.leave (fun _ _ hcarries => by cases hcarries) hsince
      · exact h.leave (fun _ _ hcarries => by cases hcarries) trivial
  | some entry =>
      have hvalue : s.valid key ≤ entry.value.version :=
        h.carried task key _ (by rw [hphase]; exact .answered)
      refine ((h.store ?_).answer ?_).leave ?_ ?_
      · exact hvalue
      · exact hsince.trans hvalue
      · intro _ _ hcarries
        cases hcarries
      · trivial

theorem Current.read {returns : Bool} {started : Int} (h : Current setup s)
    (hphase : s.tasks task = .computing key since returns started none) :
    Current setup (s.enter task (.computing key since returns started (some s.version))) := by
  have hsince := h.tasks task
  rw [hphase] at hsince
  refine h.enter (fun key' read hread => ?_) hsince
  cases hread with
  | computing => exact h.valid key

theorem Current.finish {returns : Bool} {started : Int} {version : Nat} (h : Current setup s)
    (hphase : s.tasks task = .computing key since returns started (some version)) :
    Current setup (s.finish setup task key since returns started version) := by
  have hsince := h.tasks task
  rw [hphase] at hsince
  have hvalue : s.valid key ≤ version := h.carried task key _ (by rw [hphase]; exact .computing)
  refine (h.store ?_).enter ?_ ?_
  · exact hvalue
  · intro key' read hread
    cases hread with
    | storing => exact hvalue
  · exact hsince

theorem redisKey_inj {key key' : String} (h : redisKeyPrefix ++ key = redisKeyPrefix ++ key') :
    key = key' := by
  have hlist := congrArg String.toList h
  simpa [String.toList_append, String.toList_inj] using hlist

theorem Current.set {returns up : Bool} {value : Payload} (h : Current setup s)
    (hphase : s.tasks task = .storing key since returns value) :
    Current setup (s.set setup task key since returns value up) := by
  have hsince := h.tasks task
  rw [hphase] at hsince
  have hvalue : s.valid key ≤ value.version := h.carried task key _ (by rw [hphase]; exact .storing)
  refine (h.setL2 fun key' entry hmem hlive => ?_).leave ?_ ?_
  · cases up with
    | false => exact h.l2 key' entry hmem hlive
    | true =>
        rcases CacheDict.mem_put hmem with heq | hold
        · simp only [Prod.mk.injEq] at heq
          obtain ⟨hkey, rfl⟩ := heq
          exact redisKey_inj hkey ▸ hvalue
        · exact h.l2 key' entry hold hlive
  · intro _ _ hcarries
    cases hcarries
  · exact hsince.trans hvalue

theorem Current.done {returns : Bool} {value : Payload} (h : Current setup s)
    (hphase : s.tasks task = .stored key since returns value) :
    Current setup (s.done task key since returns value) := by
  have hsince := h.tasks task
  rw [hphase] at hsince
  unfold Site.done
  cases returns with
  | false => exact h.leave (fun _ _ hcarries => by cases hcarries) trivial
  | true =>
      refine (h.answer ?_).leave ?_ ?_
      · exact hsince
      · intro _ _ hcarries
        cases hcarries
      · trivial

/-! ## One step of an invalidation -/

theorem Current.write (h : Current setup s) : Current setup (s.write task) := by
  have hnewer : Current setup { s with version := s.version + 1 } := by
    refine ⟨h.l1, h.l2, h.carried, fun other => ?_, fun key => (h.valid key).trans (by simp),
      h.answers⟩
    have hother := h.tasks other
    show (s.tasks other).Current s.valid (s.version + 1)
    cases hphase : s.tasks other with
    | wrote own =>
        rw [hphase] at hother
        exact Nat.le_succ_of_le hother
    | deleting own selection keys =>
        rw [hphase] at hother
        exact Nat.le_succ_of_le hother
    | _ =>
        rw [hphase] at hother
        exact hother
  exact hnewer.leave (fun _ _ hcarries => by cases hcarries) le_rfl

theorem Current.invalidate {version : Nat} {selection : Selection} (h : Current setup s)
    (hphase : s.tasks task = .wrote version) :
    Current setup (s.invalidate setup task version selection) := by
  have hversion := h.tasks task
  rw [hphase] at hversion
  refine (h.setL1 fun _ _ hmem hlive => h.l1 _ _ _ (List.mem_filter.1 hmem).1 hlive).leave
    (fun _ _ hcarries => by cases hcarries) ?_
  exact hversion

theorem Selection.le_raise (selection : Selection) (version : Nat) (valid : String → Nat) :
    valid key ≤ selection.raise version valid key := by
  unfold Selection.raise
  split
  · exact le_max_right _ _
  · exact le_rfl

theorem Selection.raise_le {selection : Selection} {version n : Nat} {valid : String → Nat}
    (hversion : selection.affects key = true → version ≤ n) (hvalid : valid key ≤ n) :
    selection.raise version valid key ≤ n := by
  unfold Selection.raise
  split
  · next haffects => exact max_le (hversion haffects) hvalid
  · exact hvalid

/-- What a task was waiting for is not newer than before. -/
theorem TaskPhase.Current.raise {phase : TaskPhase} {valid : String → Nat} {version : Nat}
    (h : phase.Current valid version) (selection : Selection) (newest : Nat) :
    phase.Current (selection.raise newest valid) version := by
  cases phase with
  | asking | answered | computing | storing =>
      exact le_trans h (selection.le_raise newest valid)
  | _ => exact h

/-- The end of an invalidation that leaves nothing old behind. -/
theorem Current.invalidated {version : Nat} {selection : Selection} (h : Current setup s)
    (hversion : version ≤ s.version) (hleaves : s.Leaves setup version selection []) :
    Current setup (s.invalidated task version selection) := by
  have hraised : Current setup { s with valid := selection.raise version s.valid } :=
    { l1 := fun worker key entry hmem hlive =>
        Selection.raise_le (fun haffects => hleaves.l1 worker key entry hmem haffects hlive)
          (h.l1 worker key entry hmem hlive)
      l2 := fun key entry hmem hlive =>
        Selection.raise_le (fun haffects => hleaves.l2 key entry hmem haffects (by simp) hlive)
          (h.l2 key entry hmem hlive)
      carried := fun other key read hread =>
        Selection.raise_le (fun haffects => hleaves.tasks other key read hread haffects)
          (h.carried other key read hread)
      tasks := fun other => (h.tasks other).raise selection version
      valid := fun key => Selection.raise_le (fun _ => hversion) (h.valid key)
      answers := h.answers }
  exact hraised.leave (fun _ _ hcarries => by cases hcarries) hversion

theorem Current.delete {version : Nat} {selection : Selection} {keys : List String} {up : Bool}
    (h : Current setup s) (hphase : s.tasks task = .deleting version selection (some keys))
    (hleaves : s.Leaves setup version selection (if up then keys else [])) :
    Current setup (s.delete task version selection keys up) := by
  have hversion := h.tasks task
  rw [hphase] at hversion
  cases up with
  | false => exact h.invalidated hversion hleaves
  | true =>
      refine (h.setL2 ?_).invalidated hversion ⟨hleaves.l1, ?_, hleaves.tasks⟩
      · intro key entry hmem hlive
        exact h.l2 key entry (List.mem_filter.1 hmem).1 hlive
      · intro key entry hmem haffects _ hlive
        obtain ⟨hold, hkept⟩ := List.mem_filter.1 hmem
        exact hleaves.l2 key entry hold haffects (of_decide_eq_true hkept) hlive

theorem Current.scan {version : Nat} {selection : Selection} {up : Bool} (h : Current setup s)
    (hphase : s.tasks task = .deleting version selection none)
    (hleaves : up = false → s.Leaves setup version selection []) :
    Current setup (s.scan task version selection up) := by
  have hversion := h.tasks task
  rw [hphase] at hversion
  cases up with
  | false => exact h.invalidated hversion (hleaves rfl)
  | true => exact h.leave (fun _ _ hcarries => by cases hcarries) hversion

/-! ## Runs -/

theorem Current.resume {up : Bool} (h : Current setup s)
    (hthorough : Thorough setup s (.resume task up)) : Current setup (s.resume setup task up) := by
  unfold Site.resume
  cases hphase : s.tasks task with
  | idle => exact h
  | wrote version => exact h
  | asking key since fill => exact h.get hphase
  | answered key since fill found => exact h.hear hphase
  | computing key since returns started read =>
      cases read with
      | none => exact h.read hphase
      | some version => exact h.finish hphase
  | storing key since returns value => exact h.set hphase
  | stored key since returns value => exact h.done hphase
  | deleting version selection keys =>
      have hleaves := hthorough version selection keys hphase
      cases keys with
      | some keys => exact h.delete hphase (hleaves (.inl rfl))
      | none =>
          refine h.scan hphase fun hup => ?_
          subst hup
          exact hleaves (.inr rfl)

theorem Current.wait (h : Current setup s) (d : Nat) :
    Current setup { s with now := s.now + d } where
  l1 worker key entry hmem hlive := h.l1 worker key entry hmem (by dsimp only at hlive; omega)
  l2 key entry hmem hlive := h.l2 key entry hmem (by dsimp only at hlive; omega)
  carried := h.carried
  tasks := h.tasks
  valid := h.valid
  answers := h.answers

theorem Current.next {a : CacheAction} (h : Current setup s) (hthorough : Thorough setup s a) :
    Current setup (s.next setup a) := by
  cases a with
  | lookup task key fill =>
      simp only [Site.next]
      split
      · exact h.lookup
      · exact h
  | compute task key =>
      simp only [Site.next]
      split
      · exact h.leave (fun _ _ hcarries => by cases hcarries) le_rfl
      · exact h
  | resume task up => exact h.resume hthorough
  | write task =>
      simp only [Site.next]
      split
      · exact h.write
      · exact h.write
      · exact h
  | invalidate task selection =>
      simp only [Site.next]
      split
      · next hphase => exact h.invalidate hphase
      · exact h
  | wait d => exact h.wait d

def ThoroughStep (setup : Setup) (s s' : Site) : Prop :=
  ∃ a, Thorough setup s a ∧ s' = s.next setup a

/-- The second worker reads before the first one's admin writes and invalidates,
and again afterwards. -/
def readsAround : List CacheAction :=
  [.lookup 1 "genres" true, .resume 1 true, .resume 1 true, .resume 1 true, .resume 1 true,
    .resume 1 true, .resume 1 true, .write 0, .invalidate 0 (.exactly "genres"), .resume 0 true,
    .lookup 1 "genres" true]

-- On one worker a factory that has read the database stores its value after the invalidation.
example : (⟨"genres", 1, 0, ⟨0, 0, 0⟩⟩ : Answer) ∈ (Site.run ⟨fun _ => 0, fun _ => 0, micros 30⟩
    (Site.fresh 0) [.lookup 1 "genres" true, .resume 1 true, .resume 1 true, .resume 1 true,
      .write 0, .invalidate 0 (.exactly "genres"), .resume 0 true, .resume 1 true, .resume 1 true,
      .lookup 2 "genres" true]).answers := by decide

end MovieApi.Catalog
