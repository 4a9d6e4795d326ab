import MovieApi.Alerts.Incidents
import MovieApi.Watchdog.Events

/-!
# From the watchdog to the chat

The checks of the host and its containers and the events of the Docker daemon, each with
its alert on the way through the relay, beside the alerts of everybody else.  Readings of
the host are exact numbers here.
-/

namespace MovieApi.Watchdog

open Alerts (Post Passage InTurn Relay Level)

/-! ## The checks -/

/-- What an incident is about. -/
inductive Source where
  | disk
  | memory
  | load
  | down (container : String)
  | health (container : String)
deriving DecidableEq, Repr

def Source.key : Source → String
  | .disk => "disk"
  | .memory => "memory"
  | .load => "load"
  | .down name => "down:" ++ name
  | .health name => "health:" ++ name

/-- How many bad checks in a row make an incident. -/
def Source.needed : Source → Nat
  | .memory | .load => 3
  | .down _ => 2
  | _ => 1

structure Settings where
  diskLimit : ℚ
  memLimit : ℚ
  loadLimit : ℚ

/-- The `State` of a container: a missing entry is false, empty or 0. -/
structure ContainerState where
  running : Bool
  restarting : Bool
  status : String
  exitCode : Int
deriving DecidableEq, Repr

/-- One reading of `check_host` or `check_containers`; a container may not be found. -/
inductive Reading where
  | disk (percent : ℚ)
  | memory (percent : ℚ)
  | load (load5 : ℚ) (cpus : Nat)
  | container (name : String) (state : Option ContainerState)

/-- Rounding as in the format `.0f`. -/
def roundHalfEven (q : ℚ) : Int :=
  if q - q.floor < 1 / 2 then q.floor
  else if 1 / 2 < q - q.floor then q.floor + 1
  else if q.floor % 2 = 0 then q.floor
  else q.floor + 1

/-- The format `.0f`. -/
def wholes (q : ℚ) : String := toString (roundHalfEven q)

/-- The format `.1f`, of a number that is not negative. -/
def tenths (q : ℚ) : String :=
  toString (roundHalfEven (10 * q) / 10) ++ "." ++ toString (roundHalfEven (10 * q) % 10)

/-- A check as it is reported. -/
structure Check where
  source : Source
  bad : Bool
  fire : String
  resolve : String

def ContainerState.isRunning (state : Option ContainerState) : Bool :=
  state.any fun state => state.running && !state.restarting

def ContainerState.what (state : Option ContainerState) : String :=
  let status := state.elim "" ContainerState.status
  let exitCode := state.elim 0 ContainerState.exitCode
  (if status = "" then "missing" else status) ++
    if exitCode = 0 then "" else ", exit " ++ toString exitCode

/-- `check_host` and `check_containers`, one report of them. -/
def Reading.check (settings : Settings) : Reading → Check
  | .disk percent =>
      ⟨.disk, decide (settings.diskLimit ≤ percent), "Disk " ++ wholes percent ++ "% full",
        "Disk back to " ++ wholes percent ++ "%"⟩
  | .memory percent =>
      ⟨.memory, decide (settings.memLimit ≤ percent), "Memory " ++ wholes percent ++ "% used",
        "Memory back to " ++ wholes percent ++ "%"⟩
  | .load load5 cpus =>
      ⟨.load, decide (settings.loadLimit ≤ load5 / cpus),
        "CPU overloaded: load " ++ tenths load5 ++ " on " ++ toString cpus ++ " vCPU",
        "CPU load back to " ++ tenths load5⟩
  | .container name state =>
      ⟨.down name, !ContainerState.isRunning state,
        "Container " ++ name ++ " is not running (" ++ ContainerState.what state ++ ")",
        "Container " ++ name ++ " is running again"⟩

/-! ## The watchdog and everybody else -/

structure Watch where
  conditions : Source → Condition
  dog : State

def Watch.start : Watch := ⟨fun source => Condition.fresh source.needed, State.fresh⟩

/-- The way of an alert: when it comes to the relay, and whether it is lost before it or
fails after it. -/
structure Way where
  now : ℚ
  lost : Bool
  failed : Bool
deriving DecidableEq, Repr

inductive Step where
  | check (reading : Reading) (way : Way)
  | docker (arrival : Arrival) (way : Way)
  | other (post : Post)

def levelOf : String → Level
  | "resolved" => .resolved
  | "warning" => .warning
  | "info" => .info
  | _ => .error

def Alert.post (alert : Alert) (way : Way) : Post :=
  ⟨⟨alert.fingerprint, levelOf alert.level, way.now⟩, way.lost, way.failed⟩

namespace Watch

variable (host : String) (r : Readers) (settings : Settings)

/-- The alerts of a step, on their way. -/
def emit (w : Watch) : Step → List Post
  | .check reading way =>
      let check := reading.check settings
      (report host (w.conditions check.source) check.bad check.source.key check.fire
        check.resolve).1.toList.map (·.post way)
  | .docker arrival way => (handleEvent host r arrival w.dog).1.map (·.post way)
  | .other post => [post]

def next (w : Watch) : Step → Watch
  | .check reading _ =>
      let check := reading.check settings
      { w with
        conditions := Function.update w.conditions check.source
          (report host (w.conditions check.source) check.bad check.source.key check.fire
            check.resolve).2 }
  | .docker arrival _ => { w with dog := (handleEvent host r arrival w.dog).2 }
  | .other _ => w

/-- Everything that is sent to the relay. -/
def posts (w : Watch) : List Step → List Post
  | [] => []
  | step :: steps => w.emit host r settings step ++ (w.next host r settings step).posts steps

end Watch

/-- The checks of one source. -/
def checksOf (settings : Settings) (source : Source) : List Step → List Bool
  | [] => []
  | .check reading _ :: steps =>
      if (reading.check settings).source = source then
        (reading.check settings).bad :: checksOf settings source steps
      else checksOf settings source steps
  | _ :: steps => checksOf settings source steps

/-! ## The alerts of one source -/

def fingerprint (host : String) (source : Source) : String := host ++ ":" ++ source.key

def Watch.opened (w : Watch) : Source → Bool
  | .health name => decide (name ∈ w.dog.unhealthy)
  | source => (w.conditions source).active

variable {host : String} {r : Readers} {settings : Settings} {w : Watch} {source : Source}

theorem key_inj {source' : Source} (h : source.key = source'.key) : source = source' := by
  have hlist := congrArg String.toList h
  cases source <;> cases source' <;>
    simp [Source.key, String.toList_append] at hlist ⊢
  all_goals exact String.toList_injective hlist

theorem crash_ne_key (name : String) : "crash:" ++ name ≠ source.key := by
  intro h
  have hlist := congrArg String.toList h
  cases source <;> simp [Source.key, String.toList_append] at hlist

theorem fingerprint_inj {source' : Source}
    (h : fingerprint host source = fingerprint host source') : source = source' :=
  key_inj ((String.append_right_inj _).1 h)

theorem fingerprint_health (host name : String) :
    fingerprint host (.health name) = host ++ ":health:" ++ name := by
  have hcolon : ":health:" = ":" ++ "health:" := by decide
  rw [fingerprint, Source.key, hcolon]
  simp only [String.append_assoc]

theorem crash_ne_fingerprint {name : String} :
    host ++ ":crash:" ++ name ≠ fingerprint host source := by
  have hcolon : ":crash:" = ":" ++ "crash:" := by decide
  intro h
  rw [fingerprint, hcolon] at h
  simp only [String.append_assoc] at h
  exact crash_ne_key name ((String.append_right_inj _).1 ((String.append_right_inj _).1 h))

/-- What an event of the daemon raises: a crash, which nothing resolves, or a change of
the health of a container. -/
theorem handleEvent_cases (host : String) (r : Readers) (a : Arrival) (dog : State) :
    ((∀ alert ∈ (handleEvent host r a dog).1,
        alert.fingerprint = some (host ++ ":crash:" ++ a.event.name)) ∧
      (handleEvent host r a dog).2.unhealthy = dog.unhealthy) ∨
    ∃ name alert, (handleEvent host r a dog).1 = [alert] ∧
      alert.fingerprint = some (fingerprint host (.health name)) ∧
      (levelOf alert.level = .resolved ↔ name ∈ dog.unhealthy) ∧
      (name ∈ (handleEvent host r a dog).2.unhealthy ↔ name ∉ dog.unhealthy) ∧
      ∀ other, other ≠ name →
        (other ∈ (handleEvent host r a dog).2.unhealthy ↔ other ∈ dog.unhealthy) := by
  simp only [fingerprint_health]
  unfold handleEvent
  split
  · exact .inl ⟨fun _ h => (by cases h), rfl⟩
  · split
    · exact .inl ⟨fun _ h => (by cases h), rfl⟩
    · split
      · refine .inl ?_
        simp only [handleDeath]
        split
        · exact ⟨fun alert h => (by rw [List.mem_singleton.1 h]; rfl), rfl⟩
        · split
          · exact ⟨fun alert h => (by rw [List.mem_singleton.1 h]; rfl), rfl⟩
          · exact ⟨fun _ h => (by cases h), rfl⟩
      · split
        · simp only [handleHealth]
          split
          · next hsick =>
              refine .inr ⟨a.event.name, _, rfl, rfl, ?_, ?_, fun other hother => ?_⟩
              · simp [levelOf, hsick.2]
              · simp [hsick.2]
              · simp [hother]
          · split
            · next hwell =>
                refine .inr ⟨a.event.name, _, rfl, rfl, ?_, ?_, fun other hother => ?_⟩
                · simp [levelOf, hwell.2]
                · simp [hwell.2]
                · simp [hother]
            · exact .inl ⟨fun _ h => (by cases h), rfl⟩
        · exact .inl ⟨fun _ h => (by cases h), rfl⟩

/-- What a step sends under the fingerprint of a source, and what it leaves open. -/
inductive Watch.Tells (opened : Bool) : List Post → Bool → Prop
  | nothing : Tells opened [] opened
  | change {p : Post} (hlevel : p.call.level = .resolved ↔ opened = true) :
      Tells opened [p] (!opened)

/-- The alerts of a list that are sent under a fingerprint. -/
def under (key : String) (posts : List Post) : List Post := posts.filter (Post.isOf key)

theorem under_append (key : String) (front back : List Post) :
    under key (front ++ back) = under key front ++ under key back :=
  List.filter_append ..

theorem under_eq_nil {key : String} {posts : List Post}
    (h : ∀ p ∈ posts, p.call.fingerprint ≠ some key) : under key posts = [] := by
  refine List.filter_eq_nil_iff.2 fun p hp => ?_
  rw [Post.isOf, decide_eq_true_eq]
  exact fun hkey => h p hp (Option.filter_eq_some_iff.1 hkey).1

theorem under_post {alert : Alert} (h : alert.fingerprint = some (fingerprint host source))
    (way : Way) : under (fingerprint host source) [alert.post way] = [alert.post way] := by
  have hne : fingerprint host source ≠ "" := by
    intro hempty
    have hlist := congrArg String.toList hempty
    simp [fingerprint, String.toList_append] at hlist
  refine List.filter_cons_of_pos ?_
  rw [Post.isOf, decide_eq_true_eq]
  exact Option.filter_eq_some_iff.2 ⟨h, by simpa using hne⟩

theorem check_source_ne_health (settings : Settings) (reading : Reading) (name : String) :
    (reading.check settings).source ≠ .health name := by
  cases reading <;> exact fun h => by cases h

/-- The posts of one report. -/
def reportPosts (host : String) (c : Condition) (check : Check) (way : Way) : List Post :=
  (report host c check.bad check.source.key check.fire check.resolve).1.toList.map (·.post way)

/-- A report tells the change of its condition, under its fingerprint. -/
theorem reportPosts_cases (host : String) (c : Condition) (check : Check) (way : Way) :
    ((c.update check.bad).1 = none ∧ reportPosts host c check way = []) ∨
    ∃ change alert, (c.update check.bad).1 = some change ∧
      reportPosts host c check way = [Alert.post alert way] ∧
      alert.fingerprint = some (fingerprint host check.source) ∧
      levelOf alert.level = match change with
        | .fire => .error
        | .resolve => .resolved := by
  unfold reportPosts report
  cases hchange : (c.update check.bad).1 with
  | none => exact .inl ⟨rfl, rfl⟩
  | some change =>
      refine .inr ⟨change, _, rfl, rfl, rfl, ?_⟩
      cases change <;> rfl

theorem Watch.opened_eq (h : ∀ name, source ≠ .health name) (w : Watch) :
    w.opened source = (w.conditions source).active := by
  cases source with
  | health name => exact absurd rfl (h name)
  | _ => rfl

theorem Watch.next_conditions (w : Watch) (reading : Reading) (way : Way) :
    (w.next host r settings (.check reading way)).conditions =
      Function.update w.conditions (reading.check settings).source
        ((w.conditions (reading.check settings).source).update
          (reading.check settings).bad).2 := rfl

theorem reportPosts_tells (host : String) (c : Condition) (check : Check) (way : Way) :
    Watch.Tells c.active (under (fingerprint host check.source) (reportPosts host c check way))
      (c.update check.bad).2.active := by
  have hcases := c.update_cases check.bad
  rcases reportPosts_cases host c check way with
    ⟨hnone, hnil⟩ | ⟨change, alert, hchange, hone, hfinger, hlevel⟩
  · rw [hnil]
    rcases hcases with ⟨-, hsame⟩ | ⟨hfire, -⟩ | ⟨hresolve, -⟩
    · rw [hsame]
      exact .nothing
    · rw [hnone] at hfire
      cases hfire
    · rw [hnone] at hresolve
      cases hresolve
  · rw [hone, under_post hfinger]
    rcases hcases with ⟨hnone, -⟩ | ⟨hfire, hbefore, hafter⟩ | ⟨hresolve, hbefore, hafter⟩
    · rw [hchange] at hnone
      cases hnone
    · obtain rfl := Option.some.inj (hchange.symm.trans hfire)
      rw [hbefore, hafter]
      refine .change (p := alert.post way) ?_
      simp [Alert.post, hlevel]
    · obtain rfl := Option.some.inj (hchange.symm.trans hresolve)
      rw [hbefore, hafter]
      refine .change (p := alert.post way) ?_
      simp [Alert.post, hlevel]

theorem under_reportPosts_of_ne {check : Check} (h : check.source ≠ source) (c : Condition)
    (way : Way) : under (fingerprint host source) (reportPosts host c check way) = [] := by
  refine under_eq_nil fun p hp hfinger => h ?_
  rcases reportPosts_cases host c check way with ⟨-, hnil⟩ | ⟨_, alert, -, hone, hown, -⟩
  · rw [hnil] at hp
    cases hp
  · rw [hone, List.mem_singleton] at hp
    subst hp
    exact fingerprint_inj (Option.some.inj (hown.symm.trans hfinger))

theorem Watch.check_tells (r : Readers) (settings : Settings) (w : Watch) (reading : Reading)
    (way : Way) (source : Source) :
    Tells (w.opened source)
      (under (fingerprint host source) (w.emit host r settings (.check reading way)))
      ((w.next host r settings (.check reading way)).opened source) := by
  have hposts : w.emit host r settings (.check reading way) = reportPosts host
    (w.conditions (reading.check settings).source) (reading.check settings) way := rfl
  have hhealth := check_source_ne_health settings reading
  have hnext : (w.next host r settings (.check reading way)).conditions = _ :=
    w.next_conditions reading way
  rw [hposts]
  generalize reading.check settings = check at hhealth hnext ⊢
  by_cases hsource : check.source = source
  · subst hsource
    rw [opened_eq hhealth, opened_eq hhealth, hnext, Function.update_self]
    exact reportPosts_tells ..
  · have hopened : (w.next host r settings (.check reading way)).opened source =
        w.opened source := by
      cases source with
      | health name => rfl
      | _ =>
          simp only [opened, hnext]
          rw [Function.update_of_ne (Ne.symm hsource)]
    rw [under_reportPosts_of_ne hsource, hopened]
    exact .nothing

theorem Watch.docker_tells (r : Readers) (settings : Settings) (w : Watch) (arrival : Arrival)
    (way : Way) (source : Source) :
    Tells (w.opened source)
      (under (fingerprint host source) (w.emit host r settings (.docker arrival way)))
      ((w.next host r settings (.docker arrival way)).opened source) := by
  have hnext : (w.next host r settings (.docker arrival way)).dog =
      (handleEvent host r arrival w.dog).2 := rfl
  simp only [Watch.emit]
  rcases handleEvent_cases host r arrival w.dog with
    ⟨hcrash, hsame⟩ | ⟨name, alert, hone, hfinger, hlevel, hturned, hothers⟩
  · have hforeign : under (fingerprint host source)
        ((handleEvent host r arrival w.dog).1.map (·.post way)) = [] := by
      refine under_eq_nil fun p hp hown => ?_
      obtain ⟨alert, halert, rfl⟩ := List.mem_map.1 hp
      exact crash_ne_fingerprint (Option.some.inj ((hcrash alert halert).symm.trans hown))
    have hopened : (w.next host r settings (.docker arrival way)).opened source =
        w.opened source := by
      cases source with
      | health name => rw [opened, opened, hnext, hsame]
      | _ => rfl
    rw [hforeign, hopened]
    exact .nothing
  · rw [hone]
    by_cases hsource : source = .health name
    · subst hsource
      have hopened : (w.next host r settings (.docker arrival way)).opened (.health name) =
          !w.opened (.health name) := by
        rw [opened, opened, hnext, ← decide_not, decide_eq_decide]
        exact hturned
      rw [List.map_singleton, under_post hfinger, hopened]
      refine .change (p := alert.post way) ?_
      rw [opened, decide_eq_true_eq]
      exact hlevel
    · have hforeign : under (fingerprint host source) ([alert].map (·.post way)) = [] := by
        refine under_eq_nil fun p hp hown => hsource ?_
        obtain rfl := List.mem_singleton.1 hp
        exact fingerprint_inj (Option.some.inj (hown.symm.trans hfinger))
      have hopened : (w.next host r settings (.docker arrival way)).opened source =
          w.opened source := by
        cases source with
        | health name' =>
            rw [opened, opened, hnext, decide_eq_decide]
            exact hothers name' fun heq => hsource (heq ▸ rfl)
        | _ => rfl
      rw [hforeign, hopened]
      exact .nothing

theorem Watch.emit_tells (r : Readers) (settings : Settings) (w : Watch) (step : Step)
    (source : Source)
    (hother : ∀ p, step = .other p → p.call.key? ≠ some (fingerprint host source)) :
    Tells (w.opened source) (under (fingerprint host source) (w.emit host r settings step))
      ((w.next host r settings step).opened source) := by
  cases step with
  | check reading way => exact check_tells ..
  | docker arrival way => exact docker_tells ..
  | other p =>
      have hnil : under (fingerprint host source) [p] = [] :=
        List.filter_cons_of_neg (by simpa [Post.isOf] using hother p rfl)
      rw [Watch.emit, hnil]
      exact .nothing

/-! ## Runs -/

/-- Nobody else sends under the fingerprint of a source. -/
def Unshared (host : String) (source : Source) (steps : List Step) : Prop :=
  ∀ p, Step.other p ∈ steps → p.call.key? ≠ some (fingerprint host source)

theorem Watch.Tells.inTurn {opened opened' : Bool} {posts rest : List Post}
    (h : Tells opened posts opened') (hrest : InTurn opened' rest) :
    InTurn opened (posts ++ rest) := by
  cases h with
  | nothing => exact hrest
  | change hlevel => exact ⟨hlevel, hrest⟩

theorem Watch.posts_inTurn (r : Readers) (settings : Settings) {steps : List Step}
    (h : Unshared host source steps) (w : Watch) :
    InTurn (w.opened source)
      (under (fingerprint host source) (w.posts host r settings steps)) := by
  induction steps generalizing w with
  | nil => trivial
  | cons step steps ih =>
      rw [posts, under_append]
      have htells := emit_tells r settings w step source fun p hp =>
        h p (hp ▸ List.mem_cons_self)
      refine htells.inTurn ?_
      exact ih (fun p hp => h p (List.mem_cons_of_mem _ hp)) _

/-- Whether an alert ends an incident. -/
def resolves (p : Post) : Bool := decide (p.call.level = .resolved)

def Change.resolves (change : Change) : Bool := decide (change = .resolve)

theorem Watch.Tells.of_same {opened opened' : Bool} {posts : List Post}
    (h : Tells opened posts opened') (hsame : opened' = opened) : posts = [] := by
  cases h with
  | nothing => rfl
  | change _ => exact absurd hsame (by simp)

theorem Watch.Tells.of_turned {opened opened' : Bool} {posts : List Post}
    (h : Tells opened posts opened') (hturned : opened' ≠ opened) :
    posts.map resolves = [opened] := by
  cases h with
  | nothing => exact absurd rfl hturned
  | change hlevel =>
      rw [List.map_singleton, resolves, Bool.decide_congr hlevel]
      simp

/-- The alerts of a condition are the changes of its checks. -/
theorem Watch.posts_resolves {steps : List Step} (h : Unshared host source steps)
    (hsource : ∀ name, source ≠ .health name) (w : Watch) :
    (under (fingerprint host source) (w.posts host r settings steps)).map resolves =
      ((w.conditions source).updates (checksOf settings source steps)).reduceOption.map
        Change.resolves := by
  induction steps generalizing w with
  | nil => rfl
  | cons step steps ih =>
      have htells := emit_tells r settings w step source fun p hp =>
        h p (hp ▸ List.mem_cons_self)
      have hrest := ih (fun p hp => h p (List.mem_cons_of_mem _ hp))
        (w.next host r settings step)
      have hsame (hchecks : checksOf settings source (step :: steps) =
          checksOf settings source steps)
          (hconditions : (w.next host r settings step).conditions source = w.conditions source) :
          (under (fingerprint host source) (w.posts host r settings (step :: steps))).map
            resolves = ((w.conditions source).updates
              (checksOf settings source (step :: steps))).reduceOption.map Change.resolves := by
        have hopened : (w.next host r settings step).opened source = w.opened source := by
          rw [opened_eq hsource, opened_eq hsource, hconditions]
        rw [posts, under_append, htells.of_same hopened, List.nil_append, hchecks, hrest,
          hconditions]
      cases step with
      | check reading way =>
          by_cases hown : (reading.check settings).source = source
          · have hconditions : (w.next host r settings (.check reading way)).conditions source =
                ((w.conditions source).update (reading.check settings).bad).2 := by
              rw [next_conditions, hown, Function.update_self]
            rw [opened_eq hsource, opened_eq hsource, hconditions] at htells
            rw [posts, under_append, List.map_append, hrest, hconditions, checksOf, if_pos hown,
              Condition.updates]
            rcases (w.conditions source).update_cases (reading.check settings).bad with
              ⟨hnone, hactive⟩ | ⟨hfire, hbefore, hafter⟩ | ⟨hresolve, hbefore, hafter⟩
            · rw [htells.of_same hactive, hnone, List.reduceOption_cons_of_none]
              rfl
            · rw [htells.of_turned (by rw [hbefore, hafter]; decide), hbefore, hfire,
                List.reduceOption_cons_of_some]
              rfl
            · rw [htells.of_turned (by rw [hbefore, hafter]; decide), hbefore, hresolve,
                List.reduceOption_cons_of_some]
              rfl
          · exact hsame (if_neg hown) (Function.update_of_ne (Ne.symm hown) ..)
      | docker arrival way => exact hsame rfl rfl
      | other p => exact hsame rfl rfl

/-- What the relay makes of the alerts of a source, in their order. -/
def trail (host : String) (r : Readers) (settings : Settings) (relay : Relay) (steps : List Step)
    (source : Source) : List (Post × Passage) :=
  (relay.passages (Watch.start.posts host r settings steps)).filter fun item =>
    item.1.isOf (fingerprint host source)

theorem map_fst_trail (relay : Relay) (steps : List Step) (source : Source) :
    (trail host r settings relay steps source).map Prod.fst =
      under (fingerprint host source) (Watch.start.posts host r settings steps) := by
  unfold trail under
  generalize Watch.start.posts host r settings steps = posts
  induction posts generalizing relay with
  | nil => rfl
  | cons p posts ih =>
      rw [Relay.passages]
      cases hown : p.isOf (fingerprint host source) with
      | true =>
          rw [List.filter_cons_of_pos (by exact hown), List.filter_cons_of_pos hown,
            List.map_cons, ih]
      | false =>
          rw [List.filter_cons_of_neg (by simp [hown]),
            List.filter_cons_of_neg (by simp [hown]), ih]

/-- However the checks, the events of the daemon and everybody else's alerts come in
between, the alerts of a source open and close its incidents in turn; those of a condition
are the changes of its checks.  The relay takes one for a repeat only where the `resolved`
before it was lost or found no room.  So where none is lost and each finds room, the relay
lets all of them through. -/
theorem incidents_get_through (r : Readers) (settings : Settings) (relay : Relay)
    {steps : List Step} (hfresh : relay.Forgot (fingerprint host source))
    (hunshared : Unshared host source steps) :
    InTurn false ((trail host r settings relay steps source).map Prod.fst) ∧
    ((∀ name, source ≠ .health name) →
      (trail host r settings relay steps source).map (fun item => resolves item.1) =
        ((Condition.fresh source.needed).updates
          (checksOf settings source steps)).reduceOption.map Change.resolves) ∧
    (∀ front p back, trail host r settings relay steps source = front ++ (p, .held) :: back →
      resolves p = false ∧ ∃ q passage, front.getLast? = some (q, passage) ∧
        resolves q = true ∧ passage.missed = true) ∧
    ((∀ item ∈ trail host r settings relay steps source, item.2.missed = false) →
      ∀ item ∈ trail host r settings relay steps source, item.2 = .sent ∨ item.2 = .failed) := by
  have hturn := Watch.posts_inTurn r settings hunshared Watch.start
  have hopened : Watch.start.opened source = false := by cases source <;> rfl
  rw [hopened] at hturn
  have hheld : ∀ front p back,
      trail host r settings relay steps source = front ++ (p, .held) :: back →
      resolves p = false ∧ ∃ q passage, front.getLast? = some (q, passage) ∧
        resolves q = true ∧ passage.missed = true := by
    intro front p back hsplit
    obtain ⟨hp, q, passage, hlast, hq, hmissed⟩ :=
      Relay.held_after_missed hturn hfresh hsplit
    exact ⟨decide_eq_false hp, q, passage, hlast, decide_eq_true hq, hmissed⟩
  refine ⟨?_, fun hsource => ?_, hheld, fun hnone item hitem => ?_⟩
  · rw [map_fst_trail]
    exact hturn
  · have hmap : (trail host r settings relay steps source).map (fun item => resolves item.1) =
        ((trail host r settings relay steps source).map Prod.fst).map resolves := by
      rw [List.map_map]
      rfl
    rw [hmap, map_fst_trail]
    exact Watch.posts_resolves hunshared hsource Watch.start
  · obtain ⟨p, passage⟩ := item
    have hpassage := hnone _ hitem
    cases passage with
    | sent => exact .inl rfl
    | failed => exact .inr rfl
    | lost | full => cases hpassage
    | held =>
        obtain ⟨front, back, hsplit⟩ := List.append_of_mem hitem
        obtain ⟨-, q, passage, hlast, -, hmissed⟩ := hheld front p back hsplit
        have hmem : (q, passage) ∈ trail host r settings relay steps source := by
          rw [hsplit]
          exact List.mem_append_left _ (List.mem_of_getLast? hlast)
        rw [hnone _ hmem] at hmissed
        cases hmissed

/-- The disk fills up, is cleared and fills up again two minutes later, while somebody
else sends an alert. -/
def fillsTwice : List Step :=
  [.check (.disk 91) ⟨0, false, false⟩,
    .other ⟨⟨some "api:timeout", .error, 30⟩, false, false⟩,
    .check (.disk 40) ⟨60, false, false⟩, .check (.disk 92) ⟨120, false, false⟩]

def quietReaders : Readers := ⟨fun _ => none, fun _ => none, id⟩

theorem second_fill_gets_through :
    (Relay.new 600 20).Forgot (fingerprint "vm" .disk) ∧ Unshared "vm" .disk fillsTwice ∧
      ∀ item ∈ trail "vm" quietReaders ⟨85, 90, 2⟩ (Relay.new 600 20) fillsTwice .disk,
        item.2 = .sent ∨ item.2 = .failed := by
  have hunshared : Unshared "vm" .disk fillsTwice := by
    intro p hp
    simp only [fillsTwice, List.mem_cons, List.not_mem_nil, Step.other.injEq, reduceCtorEq,
      false_or, or_false] at hp
    subst hp
    decide
  exact ⟨rfl, hunshared, (incidents_get_through quietReaders ⟨85, 90, 2⟩ (Relay.new 600 20) rfl
    hunshared).2.2.2 (by decide +kernel)⟩

end MovieApi.Watchdog
