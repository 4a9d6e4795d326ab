import MovieApi.Catalog.CacheTasks

/-!
# How old a cached answer may be

A value lives for `ttl_seconds` in the dictionary of the worker that stored it
and as long in Redis, but a copy made from Redis starts a new life of
`CATALOG_TTL_SECONDS`.
-/

namespace MovieApi.Catalog

open Relation (ReflTransGen)

/-! ## The bound -/

/-- The factory started at most `ttl` and its own running time ago. -/
def Answer.Fresh (ttl : Int) (a : Answer) : Prop :=
  a.time - ttl - (a.value.finished - a.value.started) ≤ a.value.started

instance (ttl : Int) (a : Answer) : Decidable (a.Fresh ttl) :=
  inferInstanceAs (Decidable (_ ≤ _))

def Site.Bounded (ttl : Int) (s : Site) : Prop :=
  ∀ a ∈ s.answers, a.Fresh ttl

/-! ## Steps that keep it -/

def TaskPhase.inTransit : TaskPhase → Bool
  | .answered .. | .storing .. | .stored .. => true
  | _ => false

/-- No time passes while a value is on its way to Redis or an answer on its way
back, and no read is answered by a copy whose key has run out in Redis. -/
def Prompt (setup : Setup) (s : Site) : CacheAction → Prop
  | .wait _ => ∀ task, (s.tasks task).inTransit = false
  | .lookup task key _ => ∀ value,
      (cacheGet (s.cached.l1 (setup.worker task)) key (s.workerNow setup task)).1 = some value →
      ∀ due, value.copiedFrom = some due → s.now < due
  | _ => True

/-! ## The invariant -/

/-- An entry of a worker's dictionary that the worker itself computed expires in
time; the key a copy was made from did in Redis. -/
structure KeptL1 (ttl clock : Int) (entry : CacheEntry Cached) : Prop where
  own : entry.value.copiedFrom = none → entry.expiresAt ≤ entry.value.finished + ttl + clock
  copy : ∀ due, entry.value.copiedFrom = some due → due ≤ entry.value.finished + ttl

def KeptL2 (ttl : Int) (entry : CacheEntry Cached) : Prop :=
  entry.expiresAt ≤ entry.value.finished + ttl

def TaskPhase.Kept (ttl now : Int) : TaskPhase → Prop
  | .answered _ _ _ found => ∀ entry, found = some entry → KeptL2 ttl entry ∧ now < entry.expiresAt
  | .storing _ _ _ value | .stored _ _ _ value => now ≤ value.finished
  | _ => True

structure Kept (setup : Setup) (s : Site) : Prop where
  l1 : ∀ worker key entry, (key, entry) ∈ s.cached.l1 worker →
    KeptL1 setup.ttl (setup.clock worker) entry
  l2 : ∀ key entry, (key, entry) ∈ s.cached.l2 → KeptL2 setup.ttl entry
  tasks : ∀ task, (s.tasks task).Kept setup.ttl s.now
  answers : s.Bounded setup.ttl

variable {setup : Setup} {s : Site} {task : Nat} {key : String} {since : Nat}

theorem Kept.fresh (now : Int) : Kept setup (Site.fresh now) where
  l1 _ _ _ h := by simp [Site.fresh, Caches.empty] at h
  l2 _ _ h := by simp [Site.fresh, Caches.empty] at h
  tasks _ := trivial
  answers _ h := by simp [Site.fresh] at h

theorem Kept.enter (h : Kept setup s) {phase : TaskPhase} (hphase : phase.Kept setup.ttl s.now) :
    Kept setup (s.enter task phase) where
  l1 := h.l1
  l2 := h.l2
  tasks other := by
    by_cases ho : other = task
    · subst ho
      simpa [Site.enter] using hphase
    · simpa [Site.enter, Function.update_of_ne ho] using h.tasks other
  answers := h.answers

theorem Kept.answer (h : Kept setup s) {value : Payload} (hvalue : s.now ≤ value.finished + setup.ttl) :
    Kept setup (s.answer key since value) where
  l1 := h.l1
  l2 := h.l2
  tasks := h.tasks
  answers a ha := by
    rcases List.mem_append.1 ha with ha | ha
    · exact h.answers a ha
    · rw [List.mem_singleton] at ha
      subst ha
      simp only [Answer.Fresh]
      omega

theorem Kept.setL1 (h : Kept setup s) {cache : CacheDict Cached}
    (hcache : ∀ key entry, (key, entry) ∈ cache →
      KeptL1 setup.ttl (setup.clock (setup.worker task)) entry) :
    Kept setup (s.setL1 setup task cache) where
  l1 worker key entry hmem := by
    by_cases hw : worker = setup.worker task
    · subst hw
      exact hcache key entry (by simpa [Site.setL1, Caches.setL1] using hmem)
    · exact h.l1 worker key entry
        (by simpa [Site.setL1, Caches.setL1, Function.update_of_ne hw] using hmem)
  l2 := h.l2
  tasks := h.tasks
  answers := h.answers

theorem Kept.store (h : Kept setup s) {value : Cached} {ttl : Int}
    (hvalue : KeptL1 setup.ttl (setup.clock (setup.worker task))
      ⟨s.workerNow setup task + ttl, value⟩) :
    Kept setup (s.store setup task key value ttl) := by
  refine h.setL1 fun key' entry hmem => ?_
  rcases mem_cacheSet hmem with heq | hold
  · simp only [Prod.mk.injEq] at heq
    exact heq.2 ▸ hvalue
  · exact h.l1 _ _ _ hold

theorem Kept.setL2 (h : Kept setup s) {l2 : CacheDict Cached}
    (hl2 : ∀ key entry, (key, entry) ∈ l2 → KeptL2 setup.ttl entry) :
    Kept setup { s with cached := { s.cached with l2 } } :=
  ⟨h.l1, hl2, h.tasks, h.answers⟩

/-! ## One step -/

theorem Kept.lookup {fill : Bool} (h : Kept setup s)
    (hprompt : Prompt setup s (.lookup task key fill)) :
    Kept setup (s.lookup setup task key fill) := by
  have hread : Kept setup (s.setL1 setup task
      (cacheGet (s.cached.l1 (setup.worker task)) key (s.workerNow setup task)).2) :=
    h.setL1 fun key entry hmem => h.l1 _ key entry (mem_of_mem_cacheGet hmem)
  unfold Site.lookup
  cases hfound : (cacheGet (s.cached.l1 (setup.worker task)) key (s.workerNow setup task)).1 with
  | none =>
      simp only [hfound]
      exact hread.enter trivial
  | some value =>
      simp only [hfound]
      obtain ⟨entry, hmem, rfl, hlive⟩ := cacheGet_mem hfound
      refine hread.answer ?_
      have hkept := h.l1 _ _ _ hmem
      show s.now ≤ entry.value.finished + setup.ttl
      cases hcopy : entry.value.copiedFrom with
      | none =>
          have hexpires := hkept.own hcopy
          unfold Site.workerNow at hlive
          omega
      | some due =>
          have hdue := hkept.copy due hcopy
          have hnow := hprompt _ hfound due hcopy
          omega

theorem Kept.get {fill up : Bool} (h : Kept setup s) : Kept setup (s.get task key since fill up) := by
  refine h.enter fun entry hentry => ?_
  cases up with
  | false => cases hentry
  | true =>
      simp only [if_true, Option.filter_eq_some_iff, decide_eq_true_eq] at hentry
      exact ⟨h.l2 _ _ (CacheDict.get?_mem hentry.1), hentry.2⟩

theorem Kept.hear {fill : Bool} {found : Option (CacheEntry Cached)} (h : Kept setup s)
    (hphase : s.tasks task = .answered key since fill found) :
    Kept setup (s.hear setup task key since fill found) := by
  have hfound := h.tasks task
  rw [hphase] at hfound
  unfold Site.hear
  cases found with
  | none =>
      dsimp only
      split
      · exact h.enter trivial
      · exact h.enter trivial
  | some entry =>
      obtain ⟨hkept, hlive⟩ := hfound entry rfl
      unfold KeptL2 at hkept
      refine ((h.store ⟨fun hcopy => by simp at hcopy, fun due hdue => ?_⟩).answer ?_).enter trivial
      · simp only [Option.some.injEq] at hdue
        exact hdue ▸ hkept
      · show s.now ≤ entry.value.finished + setup.ttl
        omega

theorem Kept.finish {returns : Bool} {started : Int} {version : Nat} (h : Kept setup s) :
    Kept setup (s.finish setup task key since returns started version) := by
  refine (h.store ⟨fun _ => ?_, fun due hdue => by simp at hdue⟩).enter le_rfl
  unfold Site.workerNow
  dsimp only
  omega

theorem redisTtl_le {ttl : Int} (httl : micros 1 ≤ ttl) : redisTtl ttl ≤ ttl := by
  unfold redisTtl micros at *
  omega

theorem Kept.set {returns up : Bool} {value : Payload} (httl : micros 1 ≤ setup.ttl)
    (h : Kept setup s) (hphase : s.tasks task = .storing key since returns value) :
    Kept setup (s.set setup task key since returns value up) := by
  have hnow := h.tasks task
  rw [hphase] at hnow
  change s.now ≤ value.finished at hnow
  refine (h.setL2 fun key' entry hmem => ?_).enter hnow
  cases up with
  | false => exact h.l2 key' entry hmem
  | true =>
      rcases CacheDict.mem_put hmem with heq | hold
      · simp only [Prod.mk.injEq] at heq
        obtain ⟨-, rfl⟩ := heq
        have := redisTtl_le httl
        unfold KeptL2
        dsimp only
        omega
      · exact h.l2 key' entry hold

theorem Kept.done {returns : Bool} {value : Payload} (httl : micros 1 ≤ setup.ttl)
    (h : Kept setup s) (hphase : s.tasks task = .stored key since returns value) :
    Kept setup (s.done task key since returns value) := by
  have hnow := h.tasks task
  rw [hphase] at hnow
  change s.now ≤ value.finished at hnow
  have hpositive : 0 < setup.ttl := lt_of_lt_of_le (by decide) httl
  unfold Site.done
  cases returns with
  | false => exact h.enter trivial
  | true =>
      refine (h.answer ?_).enter trivial
      omega

theorem Kept.renumber (h : Kept setup s) (version : Nat) (valid : String → Nat) :
    Kept setup { s with version, valid } :=
  ⟨h.l1, h.l2, h.tasks, h.answers⟩

theorem Kept.invalidated {version : Nat} {selection : Selection} (h : Kept setup s) :
    Kept setup (s.invalidated task version selection) := by
  refine (h.renumber s.version _).enter ?_
  trivial

theorem Kept.write (h : Kept setup s) : Kept setup (s.write task) := by
  refine (h.renumber (s.version + 1) s.valid).enter ?_
  trivial

theorem Kept.invalidate {version : Nat} {selection : Selection} (h : Kept setup s) :
    Kept setup (s.invalidate setup task version selection) :=
  (h.setL1 fun _ _ hmem => h.l1 _ _ _ (List.mem_filter.1 hmem).1).enter trivial

theorem Kept.delete {version : Nat} {selection : Selection} {keys : List String} {up : Bool}
    (h : Kept setup s) : Kept setup (s.delete task version selection keys up) := by
  refine (h.setL2 fun key' entry hmem => ?_).invalidated
  cases up with
  | false => exact h.l2 key' entry hmem
  | true => exact h.l2 key' entry (List.mem_filter.1 hmem).1

theorem Kept.resume {up : Bool} (httl : micros 1 ≤ setup.ttl) (h : Kept setup s) :
    Kept setup (s.resume setup task up) := by
  unfold Site.resume
  cases hphase : s.tasks task with
  | idle => exact h
  | wrote version => exact h
  | asking key since fill => exact h.get
  | answered key since fill found => exact h.hear hphase
  | computing key since returns started read =>
      cases read with
      | none => exact h.enter trivial
      | some version => exact h.finish
  | storing key since returns value => exact h.set httl hphase
  | stored key since returns value => exact h.done httl hphase
  | deleting version selection keys =>
      cases keys with
      | some keys => exact h.delete
      | none =>
          simp only [Site.scan]
          split
          · exact h.enter trivial
          · exact h.invalidated

theorem Kept.wait (h : Kept setup s) (d : Nat) (hprompt : Prompt setup s (.wait d)) :
    Kept setup { s with now := s.now + d } where
  l1 := h.l1
  l2 := h.l2
  tasks task := by
    have htransit := hprompt task
    show (s.tasks task).Kept setup.ttl (s.now + d)
    cases hphase : s.tasks task <;> simp [hphase, TaskPhase.inTransit, TaskPhase.Kept] at htransit ⊢
  answers := h.answers

theorem Kept.next {a : CacheAction} (httl : micros 1 ≤ setup.ttl) (h : Kept setup s)
    (hprompt : Prompt setup s a) : Kept setup (s.next setup a) := by
  cases a with
  | lookup task key fill =>
      simp only [Site.next]
      split
      · exact h.lookup hprompt
      · exact h
  | compute task key =>
      simp only [Site.next]
      split
      · exact h.enter trivial
      · exact h
  | resume task up => exact h.resume httl
  | write task =>
      simp only [Site.next]
      split
      · exact h.write
      · exact h.write
      · exact h
  | invalidate task selection =>
      simp only [Site.next]
      split
      · exact h.invalidate
      · exact h
  | wait d => exact h.wait d hprompt

/-! ## Runs -/

def CacheStep (setup : Setup) (s s' : Site) : Prop :=
  ∃ a, s' = s.next setup a

def PromptStep (setup : Setup) (s s' : Site) : Prop :=
  ∃ a, Prompt setup s a ∧ s' = s.next setup a

/-- The state after some actions, one after the other. -/
def Site.run (setup : Setup) (s : Site) (actions : List CacheAction) : Site :=
  actions.foldl (Site.next setup) s

theorem Site.run_steps (actions : List CacheAction) :
    ReflTransGen (CacheStep setup) s (s.run setup actions) := by
  induction actions generalizing s with
  | nil => exact .refl
  | cons a actions ih => exact .head ⟨a, rfl⟩ ih

/-- Each task on a worker of its own, values of thirty seconds. -/
def Setup.lone : Setup where
  worker := id
  clock := fun _ => 0
  ttl := micros 30

/-- The first worker fills the caches, the second reads from Redis 29 seconds
later and from its own copy after another 29. -/
def lateReads : List CacheAction :=
  [.lookup 0 "genres" true, .resume 0 true, .resume 0 true, .resume 0 true, .resume 0 true,
    .resume 0 true, .resume 0 true, .wait 29000000, .lookup 1 "genres" true, .resume 1 true,
    .resume 1 true, .wait 29000000, .lookup 1 "genres" true]

end MovieApi.Catalog
