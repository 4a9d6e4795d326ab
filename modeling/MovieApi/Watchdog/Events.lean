import MovieApi.Watchdog.Conditions
import MovieApi.Watchdog.DockerLogs
import MovieApi.TelegramBot.Text

/-!
# The events of the Docker daemon

`Watchdog.handle_event`: a death with a non-zero exit is reported unless somebody asked
for it, and a change of health is reported once. What was asked for is remembered per
container, and it is spelled out below over the events that came before.
-/

namespace MovieApi.Watchdog

open TelegramBot (strip)

/-- `text[-n:]`. -/
def lastChars (n : Nat) (text : String) : String :=
  String.ofList (text.toList.drop (text.toList.length - n))

def stripped (text : String) : String := String.ofList (strip text.toList)

def logTailLines : Nat := 25

def logTailChars : Nat := 1800

/-- An event of the stream. A missing name is `"?"`, a missing or empty exit code is `0`. -/
structure Event where
  action : String
  cid : String
  name : String
  exitCode : Int
deriving DecidableEq, Repr

/-- What the daemon answers while an event is handled; `none` is a call that raises. -/
abbrev Docker := String → Option (Nat × Bytes)

/-- How the answers are read: two fields of the JSON of a container, and the patterns that
hide secrets. The outer `none` is an exception, the inner one a missing or null field; a
health log may be empty, too. -/
structure Readers where
  restartPolicy : Bytes → Option (Option String)
  lastHealthLog : Bytes → Option (Option (Option String))
  redact : String → String

/-- An event as it arrives. -/
structure Arrival where
  time : ℚ
  event : Event
  docker : Docker

/-- The watchdog between two events. -/
structure State where
  unhealthy : Finset String
  stoppedAt : String → Option ℚ
  oomAt : String → Option ℚ

def State.fresh : State := ⟨∅, fun _ => none, fun _ => none⟩

/-! ## Handling an event -/

/-- `is_crash`. -/
def isCrash (exitCode : Int) (now : ℚ) (stoppedAt : Option ℚ) : Bool :=
  if exitCode = 0 then false
  else match stoppedAt with
    | none => true
    | some t => decide (60 < now - t)

def containerLogTail (r : Readers) (docker : Docker) (cid : String) : Option String :=
  match docker ("/containers/" ++ cid ++ "/logs?stdout=1&stderr=1&tail=" ++
      toString logTailLines) with
  | none => none
  | some (status, raw) =>
      if status ≠ 200 then some ""
      else some (lastChars logTailChars (r.redact (stripped (demuxLogs raw))))

def restartNote (r : Readers) (docker : Docker) (cid : String) : Option String :=
  match docker ("/containers/" ++ cid ++ "/json") with
  | none => none
  | some (status, raw) =>
      if status ≠ 200 then some ""
      else (r.restartPolicy raw).map fun name =>
        let policy := if name.getD "" = "" then "no" else name.getD ""
        if policy = "no" then "No restart policy: it stays down until someone starts it."
        else "Docker will restart it (restart policy: " ++ policy ++ ")."

def healthOutput (r : Readers) (docker : Docker) (cid : String) : Option String :=
  match docker ("/containers/" ++ cid ++ "/json") with
  | none => none
  | some (status, raw) =>
      if status ≠ 200 then some ""
      else (r.lastHealthLog raw).map fun
        | none => ""
        | some output => lastChars logTailChars (r.redact (stripped (output.getD "")))

/-- The alert of a death, without the extras if one of them cannot be had. -/
def crashAlert (host : String) (r : Readers) (docker : Docker) (event : Event) (oom : Bool) :
    Alert :=
  let title :=
    if oom then "Container " ++ event.name ++ " was killed: out of memory"
    else "Container " ++ event.name ++ " crashed (exit " ++ toString event.exitCode ++ ")"
  let (note, logs) :=
    match restartNote r docker event.cid, containerLogTail r docker event.cid with
    | some note, some logs => (note, logs)
    | _, _ => ("", "")
  let detail := if logs = "" then note else note ++ "\n\nLast log lines:\n" ++ logs
  ⟨"error", title, detail, some (host ++ ":crash:" ++ event.name)⟩

/-- `now - mark < 30`, where a missing mark is long ago. -/
def recent (now : ℚ) (mark : Option ℚ) : Bool := decide (now - mark.getD (-1000000000) < 30)

/-- The branch of a `die` event. -/
def handleDeath (host : String) (r : Readers) (a : Arrival) (dog : State) :
    List Alert × State :=
  let oom := recent a.time (dog.oomAt a.event.cid)
  let dog' := { dog with oomAt := Function.update dog.oomAt a.event.cid none }
  if oom then ([crashAlert host r a.docker a.event true], dog')
  else
    -- The mark of a stop is taken only where it is looked at.
    let dog'' := { dog' with stoppedAt := Function.update dog.stoppedAt a.event.cid none }
    if isCrash a.event.exitCode a.time (dog.stoppedAt a.event.cid) then
      ([crashAlert host r a.docker a.event false], dog'')
    else ([], dog'')

/-- `action.split(":", 1)[-1].strip()`. -/
def healthStatus (action : String) : String :=
  if ':' ∈ action.toList then
    String.ofList (strip ((action.toList.dropWhile fun c => c ≠ ':').drop 1))
  else stripped action

/-- The branch of a `health_status` event. -/
def handleHealth (host : String) (r : Readers) (a : Arrival) (dog : State) :
    List Alert × State :=
  let name := a.event.name
  let fingerprint := some (host ++ ":health:" ++ name)
  let status := healthStatus a.event.action
  if status = "unhealthy" ∧ name ∉ dog.unhealthy then
    ([⟨"warning", "Container " ++ name ++ " is unhealthy",
        (healthOutput r a.docker a.event.cid).getD "", fingerprint⟩],
      { dog with unhealthy := insert name dog.unhealthy })
  else if status = "healthy" ∧ name ∈ dog.unhealthy then
    ([⟨"resolved", "Container " ++ name ++ " is healthy again", "", fingerprint⟩],
      { dog with unhealthy := dog.unhealthy.erase name })
  else ([], dog)

/-- `handle_event`: what is sent, and the watchdog after it. -/
def handleEvent (host : String) (r : Readers) (a : Arrival) (dog : State) :
    List Alert × State :=
  if a.event.action = "kill" ∨ a.event.action = "stop" then
    ([], { dog with stoppedAt := Function.update dog.stoppedAt a.event.cid (some a.time) })
  else if a.event.action = "oom" then
    ([], { dog with oomAt := Function.update dog.oomAt a.event.cid (some a.time) })
  else if a.event.action = "die" then handleDeath host r a dog
  else if "health_status".toList <+: a.event.action.toList then handleHealth host r a dog
  else ([], dog)

/-- The watchdog after a stream of events. -/
def State.after (host : String) (r : Readers) (dog : State) (stream : List Arrival) :
    State :=
  stream.foldl (fun dog a => (handleEvent host r a dog).2) dog

/-- What is sent for each event of the stream. -/
def State.alerts (host : String) (r : Readers) (dog : State) :
    List Arrival → List (List Alert)
  | [] => []
  | a :: stream =>
      (handleEvent host r a dog).1 :: (handleEvent host r a dog).2.alerts host r stream

/-! ## What the events before say, newest first -/

/-- A kill or a stop came after the last start. -/
def requested (cid : String) : List Arrival → Bool
  | [] => false
  | a :: past =>
      if a.event.cid = cid ∧ (a.event.action = "kill" ∨ a.event.action = "stop") then true
      else if a.event.cid = cid ∧ a.event.action = "start" then false
      else requested cid past

/-- When the container ran out of memory since it last died. -/
def oomMark (cid : String) : List Arrival → Option ℚ
  | [] => none
  | a :: past =>
      if a.event.cid = cid ∧ a.event.action = "oom" then some a.time
      else if a.event.cid = cid ∧ a.event.action = "die" then none
      else oomMark cid past

/-- When somebody last killed or stopped the container, since it last died of anything but
its memory. -/
def stopMark (cid : String) : List Arrival → Option ℚ
  | [] => none
  | a :: past =>
      if a.event.cid = cid ∧ (a.event.action = "kill" ∨ a.event.action = "stop") then
        some a.time
      else if a.event.cid = cid ∧ a.event.action = "die" ∧
          recent a.time (oomMark cid past) = false then none
      else stopMark cid past

/-- Event `i` is a death with a non-zero exit, and nobody asked for it since the container
last started. -/
structure UnrequestedCrash (stream : List Arrival) (i : Nat) (a : Arrival) : Prop where
  arrives : stream[i]? = some a
  dies : a.event.action = "die"
  exit : a.event.exitCode ≠ 0
  unrequested : requested a.event.cid (stream.take i).reverse = false

/-- An error is sent for event `i`, under the fingerprint of a crash. -/
def Reported (host : String) (r : Readers) (stream : List Arrival) (i : Nat) (a : Arrival) :
    Prop :=
  ∃ alerts, (State.fresh.alerts host r stream)[i]? = some alerts ∧
    ∃ alert ∈ alerts, alert.level = "error" ∧
      alert.fingerprint = some (host ++ ":crash:" ++ a.event.name)

/-- A kill or a stop at most 60 seconds ago still counts, and the memory did not run out. -/
def Hidden (stream : List Arrival) (i : Nat) (a : Arrival) : Prop :=
  recent a.time (oomMark a.event.cid (stream.take i).reverse) = false ∧
    ∃ t, stopMark a.event.cid (stream.take i).reverse = some t ∧ a.time - t ≤ 60

/-! ## The marks of the watchdog -/

variable {host : String} {r : Readers} {dog : State} {past stream : List Arrival}
  {a : Arrival} {i : Nat}

/-- The marks of a watchdog are the ones of the events it has seen. -/
structure State.Recalls (dog : State) (past : List Arrival) : Prop where
  stopped : ∀ cid, dog.stoppedAt cid = stopMark cid past
  oom : ∀ cid, dog.oomAt cid = oomMark cid past

theorem handleHealth_marks (dog : State) :
    (handleHealth host r a dog).2.stoppedAt = dog.stoppedAt ∧
      (handleHealth host r a dog).2.oomAt = dog.oomAt := by
  simp only [handleHealth]
  split
  · exact ⟨rfl, rfl⟩
  · split
    · exact ⟨rfl, rfl⟩
    · exact ⟨rfl, rfl⟩

theorem handleDeath_oomAt (dog : State) :
    (handleDeath host r a dog).2.oomAt = Function.update dog.oomAt a.event.cid none := by
  simp only [handleDeath]
  split
  · rfl
  · split
    · rfl
    · rfl

theorem handleDeath_stoppedAt (dog : State) :
    (handleDeath host r a dog).2.stoppedAt =
      if recent a.time (dog.oomAt a.event.cid) then dog.stoppedAt
      else Function.update dog.stoppedAt a.event.cid none := by
  simp only [handleDeath]
  split
  · rfl
  · split
    · rfl
    · rfl

/-- What an event leaves of the marks of memory. -/
theorem handleEvent_oomAt (dog : State) (cid : String) :
    (handleEvent host r a dog).2.oomAt cid =
      if a.event.cid = cid ∧ a.event.action = "oom" then some a.time
      else if a.event.cid = cid ∧ a.event.action = "die" then none
      else dog.oomAt cid := by
  unfold handleEvent
  by_cases hcid : a.event.cid = cid
  · subst hcid
    by_cases hstop : a.event.action = "kill" ∨ a.event.action = "stop"
    · rcases hstop with hkill | hstop
      · simp [hkill]
      · simp [hstop]
    · by_cases hoom : a.event.action = "oom"
      · simp [hoom]
      · by_cases hdie : a.event.action = "die"
        · simp [hdie, handleDeath_oomAt]
        · rw [if_neg hstop, if_neg hoom, if_neg hdie]
          simp only [hoom, hdie, and_false, if_false]
          split
          · rw [(handleHealth_marks dog).2]
          · rfl
  · have hcid' : cid ≠ a.event.cid := fun h => hcid h.symm
    simp only [hcid, false_and, if_false]
    split
    · rfl
    · split
      · exact Function.update_of_ne hcid' _ _
      · split
        · rw [handleDeath_oomAt, Function.update_of_ne hcid']
        · split
          · rw [(handleHealth_marks dog).2]
          · rfl

/-- What an event leaves of the marks of stops. -/
theorem handleEvent_stoppedAt (dog : State) (cid : String) :
    (handleEvent host r a dog).2.stoppedAt cid =
      if a.event.cid = cid ∧ (a.event.action = "kill" ∨ a.event.action = "stop") then
        some a.time
      else if a.event.cid = cid ∧ a.event.action = "die" ∧
          recent a.time (dog.oomAt cid) = false then none
      else dog.stoppedAt cid := by
  unfold handleEvent
  by_cases hcid : a.event.cid = cid
  · subst hcid
    by_cases hstop : a.event.action = "kill" ∨ a.event.action = "stop"
    · simp [hstop]
    · by_cases hoom : a.event.action = "oom"
      · simp [hoom]
      · by_cases hdie : a.event.action = "die"
        · cases hrecent : recent a.time (dog.oomAt a.event.cid) with
          | true => simp [hdie, handleDeath_stoppedAt, hrecent]
          | false => simp [hdie, handleDeath_stoppedAt, hrecent]
        · rw [if_neg hstop, if_neg hoom, if_neg hdie]
          simp only [hstop, hdie, and_false, false_and, if_false]
          split
          · rw [(handleHealth_marks dog).1]
          · rfl
  · have hcid' : cid ≠ a.event.cid := fun h => hcid h.symm
    simp only [hcid, false_and, if_false]
    split
    · exact Function.update_of_ne hcid' _ _
    · split
      · rfl
      · split
        · rw [handleDeath_stoppedAt]
          split
          · rfl
          · exact Function.update_of_ne hcid' _ _
        · split
          · rw [(handleHealth_marks dog).1]
          · rfl

/-- One event more. -/
theorem State.Recalls.handleEvent (h : dog.Recalls past) :
    (handleEvent host r a dog).2.Recalls (a :: past) := by
  constructor
  · intro cid
    rw [handleEvent_stoppedAt, h.oom, h.stopped, stopMark]
  · intro cid
    rw [handleEvent_oomAt, h.oom, oomMark]

theorem State.after_recalls (stream : List Arrival) :
    (fresh.after host r stream).Recalls stream.reverse := by
  induction stream using List.reverseRecOn with
  | nil => exact ⟨fun _ => rfl, fun _ => rfl⟩
  | append_singleton stream a ih =>
      rw [after, List.foldl_append, List.reverse_append]
      exact ih.handleEvent

theorem State.alerts_getElem? (dog : State) (stream : List Arrival) (i : Nat) :
    (dog.alerts host r stream)[i]? =
      stream[i]?.map fun a => (handleEvent host r a (dog.after host r (stream.take i))).1 := by
  induction stream generalizing dog i with
  | nil => simp [alerts]
  | cons first stream ih =>
      cases i with
      | zero => rfl
      | succ i => exact ih _ i

/-! ## Crashes -/

theorem isCrash_iff {exitCode : Int} (hexit : exitCode ≠ 0) (now : ℚ) (mark : Option ℚ) :
    isCrash exitCode now mark = true ↔ ¬ ∃ t, mark = some t ∧ now - t ≤ 60 := by
  unfold isCrash
  rw [if_neg hexit]
  cases mark with
  | none => simp
  | some t => simp only [decide_eq_true_eq, Option.some.injEq, exists_eq_left', not_le]

/-- A death with a non-zero exit sends the alert of a crash, or a mark hides it. -/
theorem handleDeath_alerts (hexit : a.event.exitCode ≠ 0) (dog : State) :
    (handleDeath host r a dog).1 =
      if recent a.time (dog.oomAt a.event.cid) = false ∧
          ∃ t, dog.stoppedAt a.event.cid = some t ∧ a.time - t ≤ 60 then []
      else [crashAlert host r a.docker a.event (recent a.time (dog.oomAt a.event.cid))] := by
  have hcrash := isCrash_iff hexit a.time (dog.stoppedAt a.event.cid)
  unfold handleDeath
  cases hrecent : recent a.time (dog.oomAt a.event.cid) with
  | true => simp
  | false =>
      simp only [Bool.false_eq_true, if_false, true_and]
      by_cases hmark : ∃ t, dog.stoppedAt a.event.cid = some t ∧ a.time - t ≤ 60
      · have hno : ¬ isCrash a.event.exitCode a.time (dog.stoppedAt a.event.cid) = true :=
          fun h => hcrash.1 h hmark
        rw [if_pos hmark, if_neg hno]
      · rw [if_neg hmark, if_pos (hcrash.2 hmark)]

/-- An unrequested crash is reported, unless an earlier mark still hides it. -/
theorem crash_reported_iff (h : UnrequestedCrash stream i a) :
    Reported host r stream i a ↔ ¬ Hidden stream i a := by
  have hrecalls : (State.fresh.after host r (stream.take i)).Recalls (stream.take i).reverse :=
    State.after_recalls (stream.take i)
  have halerts : (State.fresh.alerts host r stream)[i]? =
      some (handleDeath host r a (State.fresh.after host r (stream.take i))).1 := by
    rw [State.alerts_getElem?, h.arrives, Option.map_some, handleEvent, h.dies]
    rfl
  rw [handleDeath_alerts h.exit, hrecalls.stopped, hrecalls.oom] at halerts
  unfold Reported
  rw [halerts]
  by_cases hhidden : Hidden stream i a
  · rw [if_pos (show _ ∧ _ from hhidden)]
    simp [hhidden]
  · rw [if_neg (show ¬ (_ ∧ _) from hhidden)]
    simp [hhidden, crashAlert]

/-! ## A restart -/

/-- Nothing more is known of the container than its name. -/
def bare : Readers := ⟨fun _ => none, fun _ => none, fun text => text⟩

def api (time : ℚ) (action : String) (exitCode : Int) : Arrival :=
  ⟨time, ⟨action, "c1", "api", exitCode⟩, fun _ => none⟩

/-- `docker restart`, as the daemon tells it: the stop comes after the death. -/
def restart : List Arrival :=
  [api 0 "kill" 0, api 1 "die" 143, api 1 "stop" 0, api 2 "start" 0, api 2 "restart" 0]

theorem restart_crash_unrequested (time : ℚ) :
    UnrequestedCrash (restart ++ [api time "die" 1]) 5 (api time "die" 1) :=
  ⟨rfl, rfl, by simp [api], by simp [restart, api, requested]⟩

theorem late_crash_reported_iff :
    UnrequestedCrash (restart ++ [api 90 "die" 1]) 5 (api 90 "die" 1) ∧
      (Reported "vm" bare (restart ++ [api 90 "die" 1]) 5 (api 90 "die" 1) ↔
        ¬ Hidden (restart ++ [api 90 "die" 1]) 5 (api 90 "die" 1)) :=
  ⟨restart_crash_unrequested 90, crash_reported_iff (restart_crash_unrequested 90)⟩

/-- The new process crashes 18 seconds after its start, and nothing is sent. -/
theorem early_crash_hidden :
    UnrequestedCrash (restart ++ [api 20 "die" 1]) 5 (api 20 "die" 1) ∧
      ¬ Reported "vm" bare (restart ++ [api 20 "die" 1]) 5 (api 20 "die" 1) := by
  have hsilent : (State.fresh.alerts "vm" bare (restart ++ [api 20 "die" 1]))[5]? = some [] := by
    decide +kernel
  refine ⟨restart_crash_unrequested 20, ?_⟩
  rintro ⟨alerts, halerts, alert, hmem, -⟩
  rw [hsilent] at halerts
  obtain rfl := Option.some.inj halerts
  exact List.not_mem_nil hmem

end MovieApi.Watchdog
