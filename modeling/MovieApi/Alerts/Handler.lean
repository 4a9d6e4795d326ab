import Mathlib.Algebra.Order.Ring.Unbundled.Rat
import MovieApi.Machines.Turns
import MovieApi.NbcChecks.Breaker
import MovieApi.TelegramBot.Text
import MovieApi.Text.Lines

/-!
# The log handler that raises alerts

`AlertRelayHandler.emit` of `services/error_alerts.py`.  A record is thrown away
as a repeat while the mark of its fingerprint is young.  The mark is set before
the alert is put into the queue, and stays where the queue is full, so a repeat
may follow an alert that was never queued.
-/

namespace MovieApi.Alerts

open NbcChecks (Dict)

/-! ## Records -/

structure Frame where
  filename : String
  lineno : ℕ
deriving DecidableEq, Repr

/-- An exception with its traceback: `traceback` is the joined `format_tb`. -/
structure Raised where
  typeName : String
  text : String
  frames : List Frame
  traceback : String
deriving DecidableEq, Repr

/-- A log record; `message` is `getMessage()`, none where it raises, and
`requestLine` the context variable of the logging thread. -/
structure LogRecord where
  name : String
  msg : String
  message : Option String
  exc : Option Raised
  requestLine : Option String
deriving DecidableEq, Repr

structure Alert where
  source : String
  level : String
  title : String
  detail : String
  fingerprint : String
deriving DecidableEq, Repr

/-- `_first_line`. -/
def firstTextLine (text : String) : String :=
  String.ofList (((Text.splitLines (TelegramBot.strip text.toList)).head?.getD []).take 300)

def tracebackLimit : ℕ := 2500

/-- `text[-n:]`. -/
def lastChars (n : ℕ) (text : String) : String :=
  String.ofList (text.toList.drop (text.toList.length - n))

def Raised.place (e : Raised) : String :=
  match e.frames.getLast? with
  | some frame => frame.filename ++ ":" ++ toString frame.lineno
  | none => ""

/-- `build_alert`, with the hexadecimal SHA-1 digest of a text as a parameter;
none where it raises. -/
def buildAlert (sha1 : String → String) (service : String) (record : LogRecord) : Option Alert :=
  record.message.map fun message =>
    let requestLines := (record.requestLine.filter fun line => line ≠ "").toList
    let logger := "logger: " ++ record.name
    match record.exc with
    | some e =>
        { source := service
          level := "error"
          title := e.typeName ++ ": " ++ firstTextLine e.text
          detail := "\n".intercalate (requestLines ++
            [firstTextLine message, lastChars tracebackLimit e.traceback, logger])
          fingerprint := String.ofList ((sha1 ("|".intercalate
            [service, record.name, record.msg, e.typeName, e.place])).toList.take 16) }
    | none =>
        { source := service
          level := "error"
          title := firstTextLine message
          detail := "\n".intercalate (requestLines ++ [logger])
          fingerprint := String.ofList ((sha1 ("|".intercalate
            [service, record.name, record.msg, "", ""])).toList.take 16) }

/-- `_IGNORED_LOGGERS`. -/
def ignoredLoggers : List String := ["httpx", "httpcore"]

def LogRecord.ignored (record : LogRecord) : Bool :=
  ignoredLoggers.any fun start => start.toList.isPrefixOf record.name.toList

/-! ## The handler -/

structure Handler where
  service : String
  throttle : ℚ
  lastSent : Dict ℚ
deriving DecidableEq, Repr

def Handler.new (service : String) (throttle : ℚ) : Handler := ⟨service, throttle, []⟩

/-- A record, the clock's reading, and whether the queue is full just then. -/
structure Emit where
  record : LogRecord
  now : ℚ
  full : Bool
deriving DecidableEq, Repr

/-- What becomes of a record. -/
inductive Fate where
  | ignored
  /-- building the alert raised -/
  | failed
  /-- thrown away as a repeat -/
  | repeated
  | queued (alert : Alert)
  /-- `queue.Full` -/
  | dropped
deriving DecidableEq, Repr

section Handler

variable (sha1 : String → String)

/-- The alert that the handler makes of a record. -/
def Handler.alertOf (h : Handler) (e : Emit) : Option Alert :=
  if e.record.ignored then none else buildAlert sha1 h.service e.record

/-- The mark of a fingerprint is younger than `throttle_seconds`. -/
def Handler.throttled (h : Handler) (fingerprint : String) (now : ℚ) : Bool :=
  match h.lastSent.get? fingerprint with
  | some last => decide (now - last < h.throttle)
  | none => false

def Handler.mark (h : Handler) (fingerprint : String) (now : ℚ) : Handler :=
  { h with lastSent := h.lastSent.put fingerprint now }

/-- `emit`. -/
def Handler.emit (h : Handler) (e : Emit) : Fate × Handler :=
  if e.record.ignored then (.ignored, h)
  else
    match buildAlert sha1 h.service e.record with
    | none => (.failed, h)
    | some alert =>
        if h.throttled alert.fingerprint e.now then (.repeated, h)
        else if e.full then (.dropped, h.mark alert.fingerprint e.now)
        else (.queued alert, h.mark alert.fingerprint e.now)

def Handler.turns (h : Handler) (emits : List Emit) : List (Handler × Emit) :=
  Machines.turns (fun h e => (h.emit sha1 e).2) h emits

/-! ## Runs -/

/-- The fingerprint under which a turn is reported. -/
def reportedAs (turn : Handler × Emit) : Option String :=
  (turn.1.alertOf sha1 turn.2).map Alert.fingerprint

def fateOf (turn : Handler × Emit) : Fate := (turn.1.emit sha1 turn.2).1

/-- The turn is not a repeat: it sets the mark of its fingerprint. -/
def Marks (turn : Handler × Emit) (fingerprint : String) : Prop :=
  reportedAs sha1 turn = some fingerprint ∧ turn.1.throttled fingerprint turn.2.now = false

variable {sha1} {h : Handler} {e : Emit} {turn earlier later : Handler × Emit}
  {fingerprint : String} {emits : List Emit}

/-- What a call can do, once for all proofs. -/
theorem emit_cases (sha1 : String → String) (h : Handler) (e : Emit) :
    (h.alertOf sha1 e = none ∧ (h.emit sha1 e).2 = h ∧ fateOf sha1 (h, e) ≠ .repeated ∧
      ∀ alert, fateOf sha1 (h, e) ≠ .queued alert) ∨
    ∃ alert, h.alertOf sha1 e = some alert ∧
      ((h.throttled alert.fingerprint e.now = true ∧ h.emit sha1 e = (.repeated, h)) ∨
        (h.throttled alert.fingerprint e.now = false ∧ h.emit sha1 e =
          (if e.full then .dropped else .queued alert, h.mark alert.fingerprint e.now))) := by
  by_cases hignored : e.record.ignored = true
  · refine Or.inl ⟨if_pos hignored, ?_⟩
    have hemit : h.emit sha1 e = (.ignored, h) := if_pos hignored
    rw [fateOf, hemit]
    simp
  have halert : h.alertOf sha1 e = buildAlert sha1 h.service e.record := if_neg hignored
  rw [fateOf, Handler.emit, if_neg hignored, halert]
  cases hbuild : buildAlert sha1 h.service e.record with
  | none => simp
  | some alert =>
      refine Or.inr ⟨alert, rfl, ?_⟩
      cases hthrottled : h.throttled alert.fingerprint e.now with
      | true => exact Or.inl ⟨rfl, by simp [hthrottled]⟩
      | false =>
          refine Or.inr ⟨rfl, ?_⟩
          cases e.full <;> simp [hthrottled]

theorem repeated_iff : fateOf sha1 turn = .repeated ↔
    ∃ fingerprint, reportedAs sha1 turn = some fingerprint ∧
      turn.1.throttled fingerprint turn.2.now = true := by
  obtain ⟨h, e⟩ := turn
  rcases emit_cases sha1 h e with ⟨hnone, -, hnot, -⟩ | ⟨alert, hsome, hcases⟩
  · simp [hnot, reportedAs, hnone]
  · rw [reportedAs, hsome, fateOf]
    rcases hcases with ⟨hyes, heq⟩ | ⟨hno, heq⟩
    · simp [heq, hyes]
    · rw [heq]
      cases e.full <;> simp [hno]

/-- An alert is queued by a turn that is not a repeat and finds room. -/
theorem queued_iff : (∃ alert, fateOf sha1 turn = .queued alert ∧
      alert.fingerprint = fingerprint) ↔
    Marks sha1 turn fingerprint ∧ turn.2.full = false := by
  obtain ⟨h, e⟩ := turn
  rcases emit_cases sha1 h e with ⟨hnone, -, -, hnot⟩ | ⟨alert, hsome, hcases⟩
  · simp [hnot, Marks, reportedAs, hnone]
  · rw [Marks, reportedAs, hsome, fateOf]
    simp only [Option.map_some, Option.some.injEq]
    rcases hcases with ⟨hyes, heq⟩ | ⟨hno, heq⟩
    · rw [heq]
      constructor
      · rintro ⟨queued, hqueued, -⟩
        cases hqueued
      · rintro ⟨⟨rfl, hfree⟩, -⟩
        rw [hyes] at hfree
        cases hfree
    · rw [heq]
      cases hfull : e.full with
      | true => simp
      | false =>
          constructor
          · rintro ⟨queued, hqueued, rfl⟩
            cases hqueued
            exact ⟨⟨rfl, hno⟩, rfl⟩
          · rintro ⟨⟨rfl, -⟩, -⟩
            exact ⟨alert, rfl, rfl⟩

theorem emit_throttle : (h.emit sha1 e).2.throttle = h.throttle := by
  rcases emit_cases sha1 h e with ⟨-, heq, -⟩ | ⟨alert, -, ⟨-, heq⟩ | ⟨-, heq⟩⟩
  · rw [heq]
  · rw [heq]
  · rw [heq]
    rfl

/-- The handler has marked a fingerprint, not before `start`. -/
def MarkedSince (fingerprint : String) (start : ℚ) (h : Handler) : Prop :=
  ∃ last, h.lastSent.get? fingerprint = some last ∧ start ≤ last

theorem markedSince_mark (h : Handler) (fingerprint : String) (now : ℚ) :
    MarkedSince fingerprint now (h.mark fingerprint now) :=
  ⟨now, Dict.get?_put_self, le_refl _⟩

/-- Marks only grow younger. -/
theorem MarkedSince.emit {start : ℚ} (hmarked : MarkedSince fingerprint start h)
    (hlater : start ≤ e.now) : MarkedSince fingerprint start (h.emit sha1 e).2 := by
  rcases emit_cases sha1 h e with ⟨-, heq, -⟩ | ⟨alert, -, ⟨-, heq⟩ | ⟨-, heq⟩⟩
  · rwa [heq]
  · rwa [heq]
  · rw [heq]
    by_cases hsame : fingerprint = alert.fingerprint
    · rw [hsame]
      exact ⟨e.now, Dict.get?_put_self, hlater⟩
    · obtain ⟨last, hlast, hstart⟩ := hmarked
      exact ⟨last, (Dict.get?_put_of_ne hsame).trans hlast, hstart⟩

theorem MarkedSince.throttled {start now : ℚ} (hmarked : MarkedSince fingerprint start h)
    (hyoung : now - start < h.throttle) : h.throttled fingerprint now = true := by
  obtain ⟨last, hlast, hstart⟩ := hmarked
  rw [Handler.throttled, hlast]
  exact decide_eq_true (lt_of_le_of_lt (sub_le_sub_left hstart now) hyoung)

theorem Marks.emit (hmarks : Marks sha1 turn fingerprint) :
    (turn.1.emit sha1 turn.2).2 = turn.1.mark fingerprint turn.2.now := by
  obtain ⟨hreported, hfree⟩ := hmarks
  rcases emit_cases sha1 turn.1 turn.2 with ⟨hnone, -⟩ | ⟨alert, hsome, hcases⟩
  · rw [reportedAs, hnone] at hreported
    cases hreported
  · rw [reportedAs, hsome] at hreported
    obtain rfl := Option.some.inj hreported
    rcases hcases with ⟨hyes, -⟩ | ⟨-, heq⟩
    · rw [hfree] at hyes
      cases hyes
    · rw [heq]

theorem throttle_of_mem {service : String} {throttle : ℚ} {front back : List (Handler × Emit)}
    (hrun : (Handler.new service throttle).turns sha1 emits = front ++ turn :: back) :
    turn.1.throttle = throttle := by
  refine Machines.holds_at_turn (P := fun _ h => h.throttle = throttle) rfl ?_ hrun
  intro past t ht
  rw [emit_throttle, ht]

theorem ordered_turns (sha1 : String → String) (h : Handler)
    (hordered : emits.Pairwise (·.now ≤ ·.now)) :
    (h.turns sha1 emits).Pairwise fun t t' => t.2.now ≤ t'.2.now :=
  Machines.pairwise_turns hordered

/-- After a turn that marks a fingerprint, records of it are repeats for
`throttle_seconds`. -/
theorem throttled_after {service : String} {throttle : ℚ}
    {front middle back : List (Handler × Emit)}
    (hordered : emits.Pairwise (·.now ≤ ·.now))
    (hrun : (Handler.new service throttle).turns sha1 emits =
      front ++ earlier :: (middle ++ later :: back))
    (hmarks : Marks sha1 earlier fingerprint)
    (hyoung : later.2.now - earlier.2.now < throttle) :
    later.1.throttled fingerprint later.2.now = true := by
  have htimes := ordered_turns sha1 (Handler.new service throttle) hordered
  rw [hrun] at htimes
  have hlater : ∀ t ∈ middle, earlier.2.now ≤ t.2.now := fun t ht =>
    (List.pairwise_cons.1 (List.pairwise_append.1 htimes).2.1).1 t (by simp [ht])
  have hfirst : MarkedSince fingerprint earlier.2.now (earlier.1.emit sha1 earlier.2).2 := by
    rw [hmarks.emit]
    exact markedSince_mark _ _ _
  have hmarked : MarkedSince fingerprint earlier.2.now later.1 :=
    Machines.holds_after hrun hfirst fun t ht hbefore => hbefore.emit (hlater t ht)
  have hthrottle : later.1.throttle = throttle := by
    have hrun' : (Handler.new service throttle).turns sha1 emits =
        (front ++ earlier :: middle) ++ later :: back := by
      rw [hrun, List.append_assoc, List.cons_append]
    exact throttle_of_mem hrun'
  exact hmarked.throttled (by rwa [hthrottle])

/-- A repeat is one of a turn that marked its fingerprint. -/
theorem marked_before {service : String} {throttle : ℚ} {front back : List (Handler × Emit)}
    (hrun : (Handler.new service throttle).turns sha1 emits = front ++ turn :: back)
    (hthrottled : turn.1.throttled fingerprint turn.2.now = true) :
    ∃ earlier ∈ front, Marks sha1 earlier fingerprint ∧
      turn.2.now - earlier.2.now < throttle := by
  have hhistory : ∀ fingerprint last, turn.1.lastSent.get? fingerprint = some last →
      ∃ earlier ∈ front, Marks sha1 earlier fingerprint ∧ earlier.2.now = last := by
    refine Machines.holds_at_turn (P := fun past h => ∀ fingerprint last,
      h.lastSent.get? fingerprint = some last →
        ∃ earlier ∈ past, Marks sha1 earlier fingerprint ∧ earlier.2.now = last) ?_ ?_ hrun
    · intro fingerprint last hlast
      cases hlast
    · intro past t ih fingerprint last hlast
      have hold (hkept : t.1.lastSent.get? fingerprint = some last) :
          ∃ earlier ∈ past ++ [t], Marks sha1 earlier fingerprint ∧ earlier.2.now = last := by
        obtain ⟨earlier, hmem, hmarks⟩ := ih fingerprint last hkept
        exact ⟨earlier, by simp [hmem], hmarks⟩
      rcases emit_cases sha1 t.1 t.2 with
        ⟨-, heq, -⟩ | ⟨alert, hsome, ⟨-, heq⟩ | ⟨hfree, heq⟩⟩
      · rw [heq] at hlast
        exact hold hlast
      · rw [heq] at hlast
        exact hold hlast
      · rw [heq] at hlast
        by_cases hsame : fingerprint = alert.fingerprint
        · rw [hsame, Handler.mark, Dict.get?_put_self] at hlast
          refine ⟨t, by simp, ⟨?_, by rwa [hsame]⟩, Option.some.inj hlast⟩
          rw [reportedAs, hsome, hsame]
          rfl
        · rw [Handler.mark, Dict.get?_put_of_ne hsame] at hlast
          exact hold hlast
  rw [Handler.throttled] at hthrottled
  cases hlast : turn.1.lastSent.get? fingerprint with
  | none =>
      rw [hlast] at hthrottled
      cases hthrottled
  | some last =>
      rw [hlast] at hthrottled
      obtain ⟨earlier, hmem, hmarks, hnow⟩ := hhistory fingerprint last hlast
      refine ⟨earlier, hmem, hmarks, ?_⟩
      rw [hnow, ← throttle_of_mem hrun]
      exact of_decide_eq_true hthrottled

variable (sha1)

/-- Every record thrown away as a repeat follows an alert of its fingerprint that
was queued less than `throttle` earlier. -/
def RepeatsFollowQueued (throttle : ℚ) (run : List (Handler × Emit)) : Prop :=
  ∀ front turn back fingerprint, run = front ++ turn :: back →
    fateOf sha1 turn = .repeated → reportedAs sha1 turn = some fingerprint →
    ∃ earlier ∈ front,
      (∃ alert, fateOf sha1 earlier = .queued alert ∧ alert.fingerprint = fingerprint) ∧
        turn.2.now - earlier.2.now < throttle

/-- A record that is no repeat and finds the queue full is not followed by one of
its fingerprint within `throttle`. -/
def FullUnfollowed (throttle : ℚ) (run : List (Handler × Emit)) : Prop :=
  ∀ front first middle next back fingerprint,
    run = front ++ first :: (middle ++ next :: back) →
    Marks sha1 first fingerprint → first.2.full = true →
    reportedAs sha1 next = some fingerprint → throttle ≤ next.2.now - first.2.now

/-- **A suppressed error was really queued** exactly in the runs in which no
record that finds the queue full is followed by one of its fingerprint. -/
theorem repeatsFollowQueued_iff (service : String) (throttle : ℚ) {emits : List Emit}
    (hordered : emits.Pairwise (·.now ≤ ·.now)) :
    RepeatsFollowQueued sha1 throttle ((Handler.new service throttle).turns sha1 emits) ↔
      FullUnfollowed sha1 throttle ((Handler.new service throttle).turns sha1 emits) := by
  constructor
  · intro h front first middle next back fingerprint hrun hmarks hfull hreported
    by_contra hyoung
    have hyoung' : next.2.now - first.2.now < throttle := lt_of_not_ge hyoung
    have hrun' : (Handler.new service throttle).turns sha1 emits =
        (front ++ first :: middle) ++ next :: back := by
      rw [hrun, List.append_assoc, List.cons_append]
    have hthrottled := throttled_after hordered hrun hmarks hyoung'
    have hrepeated := repeated_iff.2 ⟨fingerprint, hreported, hthrottled⟩
    obtain ⟨queued, hmem, hqueued, hnear⟩ := h _ _ _ fingerprint hrun' hrepeated hreported
    obtain ⟨hqueuedMarks, hroom⟩ := queued_iff.1 hqueued
    have htimes := ordered_turns sha1 (Handler.new service throttle) hordered
    rw [hrun'] at htimes
    have hbefore : ∀ t ∈ front ++ first :: middle, t.2.now ≤ next.2.now := fun t ht =>
      (List.pairwise_append.1 htimes).2.2 t ht next (by simp)
    -- the queued alert would make `first` a repeat, or be a repeat of it
    rcases List.mem_append.1 hmem with hfront | hrest
    · obtain ⟨before, between, rfl⟩ := List.append_of_mem hfront
      have hrun'' : (Handler.new service throttle).turns sha1 emits =
          before ++ queued :: (between ++ first :: (middle ++ next :: back)) := by
        rw [hrun, List.append_assoc, List.cons_append]
      have hclose : first.2.now - queued.2.now < throttle :=
        lt_of_le_of_lt (sub_le_sub_right (hbefore first (by simp)) _) hnear
      have hrepeat := throttled_after hordered hrun'' hqueuedMarks hclose
      rw [hmarks.2] at hrepeat
      cases hrepeat
    · rcases List.mem_cons.1 hrest with rfl | hmiddle
      · rw [hfull] at hroom
        cases hroom
      · obtain ⟨before, between, rfl⟩ := List.append_of_mem hmiddle
        have hrun'' : (Handler.new service throttle).turns sha1 emits =
            front ++ first :: (before ++ queued :: (between ++ next :: back)) := by
          rw [hrun, List.append_assoc, List.cons_append]
        have hclose : queued.2.now - first.2.now < throttle :=
          lt_of_le_of_lt (sub_le_sub_right (hbefore queued hmem) _) hyoung'
        have hrepeat := throttled_after hordered hrun'' hmarks hclose
        rw [hqueuedMarks.2] at hrepeat
        cases hrepeat
  · intro h front turn back fingerprint hrun hrepeated hreported
    obtain ⟨fingerprint', hsame, hthrottled⟩ := repeated_iff.1 hrepeated
    rw [hreported] at hsame
    obtain rfl := Option.some.inj hsame
    obtain ⟨earlier, hmem, hmarks, hyoung⟩ := marked_before hrun hthrottled
    refine ⟨earlier, hmem, queued_iff.2 ⟨hmarks, ?_⟩, hyoung⟩
    obtain ⟨before, between, rfl⟩ := List.append_of_mem hmem
    have hrun' : (Handler.new service throttle).turns sha1 emits =
        before ++ earlier :: (between ++ turn :: back) := by
      rw [hrun, List.append_assoc, List.cons_append]
    by_contra hnot
    have hfull : earlier.2.full = true := by simpa using hnot
    exact absurd hyoung (not_lt.2 (h _ _ _ _ _ _ hrun' hmarks hfull hreported))

/-- A record of a worker, and its digest. -/
def boom : LogRecord := ⟨"app.worker", "boom", some "boom", none, none⟩

def boomDigest (_ : String) : String := "ae08c0e57c4fa355eee5ce5f1e3f4200787b2cb4"

/-- Where the first record is queued, its repeat is thrown away rightly. -/
theorem queued_then_repeated :
    [(⟨boom, 0, false⟩ : Emit), ⟨boom, 30, true⟩].Pairwise (·.now ≤ ·.now) ∧
      (RepeatsFollowQueued boomDigest 60 ((Handler.new "api" 60).turns boomDigest
          [⟨boom, 0, false⟩, ⟨boom, 30, true⟩]) ↔
        FullUnfollowed boomDigest 60 ((Handler.new "api" 60).turns boomDigest
          [⟨boom, 0, false⟩, ⟨boom, 30, true⟩])) := by
  have hordered : [(⟨boom, 0, false⟩ : Emit), ⟨boom, 30, true⟩].Pairwise (·.now ≤ ·.now) := by
    decide
  exact ⟨hordered, repeatsFollowQueued_iff boomDigest "api" 60 hordered⟩

/-- Where the first record finds the queue full, the second is thrown away though
none was queued. -/
theorem full_then_repeated :
    ¬ RepeatsFollowQueued boomDigest 60 ((Handler.new "api" 60).turns boomDigest
      [⟨boom, 0, true⟩, ⟨boom, 30, false⟩]) := by
  intro h
  have hrepeated : fateOf boomDigest
      (((Handler.new "api" 60).emit boomDigest ⟨boom, 0, true⟩).2, ⟨boom, 30, false⟩) =
        .repeated := by decide +kernel
  obtain ⟨earlier, hmem, ⟨alert, hqueued, -⟩, -⟩ :=
    h [(Handler.new "api" 60, ⟨boom, 0, true⟩)] _ [] "ae08c0e57c4fa355" rfl hrepeated (by decide +kernel)
  rw [List.mem_singleton.1 hmem] at hqueued
  have hdropped : fateOf boomDigest (Handler.new "api" 60, ⟨boom, 0, true⟩) = .dropped := by
    decide +kernel
  rw [hdropped] at hqueued
  cases hqueued

end Handler

end MovieApi.Alerts
