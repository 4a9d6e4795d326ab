import Mathlib.Data.Nat.Count
import MovieApi.Alerts.Relay
import MovieApi.TelegramBot.Text

/-!
# Where every alert is accounted for

`deliver` of `ops/alert_relay/main.py`.  An event that is not sent is counted,
under its fingerprint or among the dropped ones, and the next message tells the
counts.  They leave the relay when the message is written, so a message that is
not delivered, or whose count lines are cut off, takes them along; so does the
pruning of an old fingerprint that still holds repeats.
-/

namespace MovieApi.Alerts

open NbcChecks (Dict)

/-! ## Messages -/

def telegramLimit : ℕ := 4096

/-- `_ICONS`. -/
def icon : Level → Char
  | .error => '🔴'
  | .warning => '🟠'
  | .info => '🔵'
  | .resolved => '✅'

structure Event where
  source : String
  level : Level
  title : String
  detail : String
  fingerprint : Option String
deriving DecidableEq, Repr

def firstLine (e : Event) : List Char :=
  TelegramBot.strip (icon e.level :: " [".toList ++ e.source.toList ++ "] ".toList ++ e.title.toList)

def heldLine (held : ℕ) : List Char :=
  "(+".toList ++ (toString held).toList ++ " more of these since the last alert)".toList

def droppedLine (dropped : ℕ) : List Char :=
  "(".toList ++ (toString dropped).toList ++
    " other alerts dropped: more than 20 a minute)".toList

def countLines (held dropped : ℕ) : List (List Char) :=
  (if held ≠ 0 then [heldLine held] else []) ++
    (if dropped ≠ 0 then [droppedLine dropped] else [])

/-- `"\n".join`. -/
def joined (lines : List (List Char)) : List Char := ['\n'].intercalate lines

/-- `format_message`. -/
def formatMessage (e : Event) (held dropped : ℕ) : List Char :=
  let text := joined (firstLine e :: countLines held dropped ++
    (if e.detail ≠ "" then [e.detail.toList] else []))
  if text.length ≤ telegramLimit then text else text.take (telegramLimit - 1) ++ ['…']

/-- A message for the event that was handed over as number `number`. -/
structure Message where
  number : ℕ
  event : Event
  held : ℕ
  dropped : ℕ
deriving DecidableEq, Repr

def Message.text (m : Message) : List Char := formatMessage m.event m.held m.dropped

/-- The repeats the text tells of: its count line was not cut off. -/
def Message.toldHeld (m : Message) : ℕ :=
  if (joined [firstLine m.event, heldLine m.held]).isPrefixOf m.text then m.held else 0

/-- The dropped alerts the text tells of. -/
def Message.toldDropped (m : Message) : ℕ :=
  if (joined (firstLine m.event :: countLines m.held m.dropped)).isPrefixOf m.text then m.dropped
  else 0

/-! ## Deliveries -/

/-- An event handed to the relay, when, and whether Telegram takes the message. -/
structure Posted where
  event : Event
  now : ℚ
  accepted : Bool
deriving DecidableEq, Repr

def Posted.call (p : Posted) : Call := ⟨p.event.fingerprint, p.event.level, p.now⟩

/-- What the caller of `/event` hears. -/
inductive Reply where
  | sent
  | notSent
  /-- `502 telegram send failed` -/
  | sendFailed
deriving DecidableEq, Repr

/-- The message that an event let through becomes. -/
def Relay.messageFor (r : Relay) (number : ℕ) (p : Posted) : Message :=
  ⟨number, p.event, r.heldFor p.call, r.dropped⟩

/-- `deliver`: the reply, the relay afterwards, and the message Telegram took. -/
def Relay.deliver (r : Relay) (number : ℕ) (p : Posted) : Reply × Relay × Option Message :=
  match r.admitCall p.call with
  | ((false, _), r) => (.notSent, r, none)
  | ((true, held), r) =>
      let m : Message := ⟨number, p.event, held, r.takeDropped.1⟩
      if p.accepted then (.sent, r.takeDropped.2, some m)
      else (.sendFailed, r.takeDropped.2, none)

/-- The relay with the history of what it was handed and what it delivered. -/
structure Site where
  relay : Relay
  handed : List Posted
  delivered : List Message
deriving DecidableEq

def Site.new (dedupSeconds : ℚ) (perMinute : ℕ) : Site :=
  ⟨Relay.new dedupSeconds perMinute, [], []⟩

def Site.post (s : Site) (p : Posted) : Site :=
  ⟨(s.relay.deliver s.handed.length p).2.1, s.handed ++ [p],
    s.delivered ++ (s.relay.deliver s.handed.length p).2.2.toList⟩

def Site.run (s : Site) (posts : List Posted) : Site := posts.foldl Site.post s

def apiError : Event := ⟨"api", .error, "ValueError: bad", "GET /movies", some "fp"⟩

example : (Message.mk 0 apiError 0 0).text =
    "🔴 [api] ValueError: bad\nGET /movies".toList := by decide

example : (Message.mk 0 apiError 2 0).text =
    "🔴 [api] ValueError: bad\n(+2 more of these since the last alert)\nGET /movies".toList := by
  decide

/-! ## The books -/

/-- The repeats held back under a key. -/
def Relay.heldUnder (r : Relay) (key : String) : ℕ :=
  match r.seen.get? key with
  | some seen => seen.held
  | none => 0

/-- Where an event that was handed over is accounted for. -/
inductive Place where
  | delivered
  /-- in the "more of these" number of a message -/
  | more (message : ℕ)
  /-- in the "dropped" number of a message -/
  | other (message : ℕ)
  /-- in the relay's counter of a fingerprint -/
  | held (key : String)
  /-- in the relay's counter of dropped alerts -/
  | dropped
deriving DecidableEq, Repr

/-- How many of the events handed over have a place. -/
def Site.countAt (s : Site) (place : ℕ → Place) (x : Place) : ℕ :=
  Nat.count (fun i => place i = x) s.handed.length

def Site.keyOf (s : Site) (i : ℕ) : Option String := s.handed[i]?.bind fun p => p.call.key?

/-- A place for every event, which agrees with the messages that were delivered
and with the relay's counters. -/
structure Ledger (s : Site) (place : ℕ → Place) : Prop where
  delivered : ∀ i < s.handed.length, (place i = .delivered ↔ ∃ m ∈ s.delivered, m.number = i)
  more : ∀ i < s.handed.length, ∀ k, place i = .more k →
    s.keyOf i = s.keyOf k ∧ ∃ m ∈ s.delivered, m.number = k
  other : ∀ i < s.handed.length, ∀ k, place i = .other k → ∃ m ∈ s.delivered, m.number = k
  held : ∀ i < s.handed.length, ∀ key, place i = .held key → s.keyOf i = some key
  toldHeld : ∀ m ∈ s.delivered, s.countAt place (.more m.number) = m.toldHeld
  toldDropped : ∀ m ∈ s.delivered, s.countAt place (.other m.number) = m.toldDropped
  heldUnder : ∀ key, s.countAt place (.held key) = s.relay.heldUnder key
  dropped : s.countAt place .dropped = s.relay.dropped

/-- No alert vanished: every event handed over has its one place. -/
def Accounted (s : Site) : Prop := ∃ place, Ledger s place

/-! ## Moving places -/

theorem count_congr {p q : ℕ → Prop} [DecidablePred p] [DecidablePred q] {n : ℕ}
    (h : ∀ i < n, (p i ↔ q i)) : Nat.count p n = Nat.count q n :=
  le_antisymm (Nat.count_mono_left fun i hi => (h i hi).1)
    (Nat.count_mono_left fun i hi => (h i hi).2)

/-- The place of one more event. -/
theorem count_push (place : ℕ → Place) (n : ℕ) (x y : Place) :
    Nat.count (fun i => Function.update place n x i = y) (n + 1) =
      Nat.count (fun i => place i = y) n + if x = y then 1 else 0 := by
  have hold : Nat.count (fun i => Function.update place n x i = y) n =
      Nat.count (fun i => place i = y) n := by
    refine count_congr fun i hi => ?_
    rw [Function.update_of_ne hi.ne]
  rw [Nat.count_succ, hold, Function.update_self]

/-- Where a message with number `n` takes what it tells: the repeats under its
key and all that were dropped. -/
def Place.tell (n : ℕ) (key? : Option String) : Place → Place
  | .held key => if key? = some key then .more n else .held key
  | .dropped => .other n
  | place => place

section

-- Its equations are derived here, once, and not by every proof below that unfolds it.
attribute [local simp] Place.tell

end

section Tell

variable {n k : ℕ} {key? : Option String} {key : String} {place : Place}

theorem tell_eq_delivered : place.tell n key? = .delivered ↔ place = .delivered := by
  cases place with
  | held key => by_cases h : key? = some key <;> simp [Place.tell, h]
  | _ => simp [Place.tell]

theorem tell_eq_more : place.tell n key? = .more k ↔
    place = .more k ∨ (k = n ∧ ∃ key, key? = some key ∧ place = .held key) := by
  cases place with
  | held key => by_cases h : key? = some key <;> simp [Place.tell, h, eq_comm]
  | _ => simp [Place.tell]

theorem tell_eq_other : place.tell n key? = .other k ↔
    place = .other k ∨ (k = n ∧ place = .dropped) := by
  cases place with
  | held key => by_cases h : key? = some key <;> simp [Place.tell, h]
  | dropped => simp [Place.tell, eq_comm]
  | _ => simp [Place.tell]

theorem tell_eq_held : place.tell n key? = .held key ↔ place = .held key ∧ key? ≠ some key := by
  cases place with
  | held key' =>
      by_cases h : key? = some key'
      · simp only [Place.tell, h, if_true]
        constructor
        · intro hmore
          cases hmore
        · rintro ⟨heq, hne⟩
          cases heq
          exact absurd rfl hne
      · simp only [Place.tell, h, if_false]
        constructor
        · intro heq
          cases heq
          exact ⟨rfl, h⟩
        · exact fun hboth => hboth.1
  | _ => simp [Place.tell]

theorem tell_ne_dropped : place.tell n key? ≠ .dropped := by
  cases place with
  | held key => by_cases h : key? = some key <;> simp [Place.tell, h]
  | _ => simp [Place.tell]

end Tell

/-! ## What a call does to the counters -/

namespace Relay

variable {r : Relay} {c : Call} {key key' : String} {seen : Seen}

theorem heldUnder_of_some (h : r.seen.get? key = some seen) : r.heldUnder key = seen.held := by
  rw [heldUnder, h]

theorem heldUnder_of_none (h : r.seen.get? key = none) : r.heldUnder key = 0 := by
  rw [heldUnder, h]

theorem heldUnder_put_self :
    heldUnder { r with seen := r.seen.put key seen } key = seen.held :=
  heldUnder_of_some Dict.get?_put_self

theorem heldUnder_put_of_ne (hne : key ≠ key') :
    heldUnder { r with seen := r.seen.put key' seen } key = r.heldUnder key := by
  rw [heldUnder, heldUnder, Dict.get?_put_of_ne hne]

theorem heldUnder_del_self : heldUnder { r with seen := r.seen.del key } key = 0 :=
  heldUnder_of_none Dict.get?_del_self

theorem heldUnder_del_of_ne (hne : key ≠ key') :
    heldUnder { r with seen := r.seen.del key' } key = r.heldUnder key := by
  rw [heldUnder, heldUnder, Dict.get?_del_of_ne hne]

theorem heldFor_eq : r.heldFor c = c.key?.elim 0 r.heldUnder := by
  rw [heldFor, seen?]
  cases c.key? <;> rfl

theorem seen?_of_repeats (h : r.repeats c = true) :
    ∃ key seen, c.key? = some key ∧ r.seen.get? key = some seen := by
  rw [repeats] at h
  cases hseen : r.seen? c with
  | none =>
      rw [hseen] at h
      cases h
  | some seen =>
      obtain ⟨key, hkey, hget⟩ := Option.bind_eq_some_iff.1 hseen
      exact ⟨key, seen, hkey, hget⟩

theorem hold_eq (hkey : c.key? = some key) (hseen : r.seen.get? key = some seen) :
    r.hold c = { r with seen := r.seen.put key { seen with held := seen.held + 1 } } := by
  have hfound : r.seen? c = some seen := by rw [seen?, hkey, Option.bind_some, hseen]
  rw [hold, hkey, hfound]

/-- The fingerprints that pruning forgets in a call that is let through. -/
def forgets (r : Relay) (c : Call) : List (String × Seen) :=
  match c.key? with
  | some key =>
      if c.level = .resolved ∨ (r.seen.put key ⟨c.now, 0⟩).length < 500 then []
      else (r.seen.put key ⟨c.now, 0⟩).filter fun item => !fresh c.now item
  | none => []

theorem nodup_filter {d : Dict Seen} (p : String × Seen → Bool) (h : d.keys.Nodup) :
    (Dict.keys (d.filter p)).Nodup :=
  h.sublist (List.filter_sublist.map Prod.fst)

/-- Pruning loses no repeat where what it forgets holds none. -/
theorem heldUnder_prune (hnodup : r.seen.keys.Nodup) (now : ℚ)
    (h : ¬ r.seen.length < 500 → ∀ item ∈ r.seen.filter (fun item => !fresh now item),
      item.2.held = 0) (key : String) :
    (r.prune now).heldUnder key = r.heldUnder key := by
  rw [prune]
  split
  · rfl
  next hlarge =>
  cases hget : r.seen.get? key with
  | none =>
      have hnone : Dict.get? (r.seen.filter (fresh now)) key = none := by
        rw [Dict.get?_eq_none] at hget ⊢
        intro hmem
        obtain ⟨item, hitem, hkey⟩ := List.mem_map.1 hmem
        exact hget (List.mem_map.2 ⟨item, List.mem_of_mem_filter hitem, hkey⟩)
      rw [heldUnder_of_none hget]
      exact heldUnder_of_none hnone
  | some seen =>
      rw [heldUnder_of_some hget]
      by_cases hfresh : fresh now (key, seen) = true
      · exact heldUnder_of_some (Dict.get?_filter hget hfresh)
      · have hitem : (key, seen) ∈ r.seen.filter fun item => !fresh now item := by
          refine List.mem_filter.2 ⟨Dict.mem_of_get? hget, ?_⟩
          simp [Bool.eq_false_iff.2 hfresh]
        have hnone : Dict.get? (r.seen.filter (fresh now)) key = none := by
          rw [Dict.get?_eq_none]
          intro hmem
          obtain ⟨⟨key', seen'⟩, hkept, hkey⟩ := List.mem_map.1 hmem
          obtain rfl : key' = key := hkey
          have hsame := Dict.get?_of_mem hnodup (List.mem_of_mem_filter hkept)
          rw [hget] at hsame
          obtain rfl := Option.some.inj hsame
          exact hfresh (List.mem_filter.1 hkept).2
        rw [h hlarge (key, seen) hitem]
        exact heldUnder_of_none hnone

theorem nodup_prune (hnodup : r.seen.keys.Nodup) (now : ℚ) : (r.prune now).seen.keys.Nodup := by
  rw [prune]
  split
  · exact hnodup
  · exact nodup_filter _ hnodup

theorem nodup_remember (hnodup : r.seen.keys.Nodup) : (r.remember c).seen.keys.Nodup := by
  rw [remember]
  split
  · split
    · exact nodup_filter _ hnodup
    · exact nodup_prune (Dict.keys_put_nodup hnodup) c.now
  · exact hnodup

/-- A call that is let through empties the counter of its own fingerprint, and
no other where pruning forgets no repeat. -/
theorem heldUnder_remember (hnodup : r.seen.keys.Nodup)
    (h : ∀ item ∈ r.forgets c, item.2.held = 0) (key : String) :
    (r.remember c).heldUnder key = if c.key? = some key then 0 else r.heldUnder key := by
  rw [remember]
  cases hkey : c.key? with
  | none => simp
  | some own =>
      simp only [Option.some.injEq]
      by_cases hlevel : c.level = .resolved
      · rw [if_pos hlevel]
        split
        · next heq => rw [heq]; exact heldUnder_del_self
        · next hne => exact heldUnder_del_of_ne (Ne.symm hne)
      · rw [if_neg hlevel]
        have hput : (r.seen.put own ⟨c.now, 0⟩).keys.Nodup := Dict.keys_put_nodup hnodup
        have hforgets : ¬ (r.seen.put own ⟨c.now, 0⟩).length < 500 →
            ∀ item ∈ (r.seen.put own ⟨c.now, 0⟩).filter (fun item => !fresh c.now item),
              item.2.held = 0 := by
          intro hlarge item hitem
          refine h item ?_
          rw [forgets, hkey]
          simp only [hlevel, false_or, hlarge, if_false]
          exact hitem
        rw [heldUnder_prune (r := { r with seen := r.seen.put own ⟨c.now, 0⟩ }) hput c.now hforgets]
        split
        · next heq => rw [heq]; exact heldUnder_put_self
        · next hne => exact heldUnder_put_of_ne (Ne.symm hne)

theorem prune_dropped (now : ℚ) : (r.prune now).dropped = r.dropped := by
  rw [prune]
  split <;> rfl

theorem remember_dropped : (r.remember c).dropped = r.dropped := by
  rw [remember]
  split
  · split
    · rfl
    · exact prune_dropped c.now
  · rfl

end Relay

/-! ## One event -/

/-- The event is neither held back nor dropped. -/
def Relay.passes (r : Relay) (p : Posted) : Bool := !r.repeats p.call && r.room p.now

/-- What the event's message must do for nothing to be lost. -/
structure Keeps (r : Relay) (p : Posted) : Prop where
  accepted : p.accepted = true
  toldHeld : (r.messageFor 0 p).toldHeld = r.heldFor p.call
  toldDropped : (r.messageFor 0 p).toldDropped = r.dropped
  forgets : ∀ item ∈ r.forgets p.call, item.2.held = 0

variable {s : Site} {p : Posted} {place : ℕ → Place}

theorem post_of_repeats (h : s.relay.repeats p.call = true) :
    s.post p = ⟨s.relay.hold p.call, s.handed ++ [p], s.delivered⟩ := by
  have hadmit : s.relay.admitCall p.call = ((false, 0), s.relay.hold p.call) := if_pos h
  rw [Site.post, Relay.deliver, hadmit]
  simp

theorem post_of_full (hrepeats : s.relay.repeats p.call = false)
    (hroom : s.relay.room p.now = false) :
    s.post p = ⟨{ (s.relay.takeSlot p.now).2 with dropped := s.relay.dropped + 1 },
      s.handed ++ [p], s.delivered⟩ := by
  have hadmit : s.relay.admitCall p.call = ((false, 0),
      { (s.relay.takeSlot p.now).2 with dropped := s.relay.dropped + 1 }) := by
    rw [Relay.admitCall, hrepeats, Relay.takeSlot_fst, Posted.call, hroom]
    rfl
  rw [Site.post, Relay.deliver, hadmit]
  simp

theorem post_of_passes (hrepeats : s.relay.repeats p.call = false)
    (hroom : s.relay.room p.now = true) (haccepted : p.accepted = true) :
    s.post p = ⟨{ (s.relay.takeSlot p.now).2.remember p.call with dropped := 0 },
      s.handed ++ [p], s.delivered ++ [s.relay.messageFor s.handed.length p]⟩ := by
  have hadmit : s.relay.admitCall p.call = ((true, s.relay.heldFor p.call),
      (s.relay.takeSlot p.now).2.remember p.call) := by
    rw [Relay.admitCall, hrepeats, Relay.takeSlot_fst, Posted.call, hroom]
    rfl
  have hdropped : ((s.relay.takeSlot p.now).2.remember p.call).dropped = s.relay.dropped :=
    Relay.remember_dropped
  rw [Site.post, Relay.deliver, hadmit]
  simp only [haccepted, if_true, Relay.takeDropped, hdropped, Relay.messageFor,
    Option.toList_some]

/-- The ledger with what its steps need: one entry for each fingerprint, and
messages for events that were handed over. -/
structure Books (s : Site) (place : ℕ → Place) : Prop extends Ledger s place where
  keys : s.relay.seen.keys.Nodup
  numbers : ∀ m ∈ s.delivered, m.number < s.handed.length

theorem keyOf_of_lt {i : ℕ} {relay : Relay} {delivered : List Message}
    (hi : i < s.handed.length) :
    Site.keyOf ⟨relay, s.handed ++ [p], delivered⟩ i = s.keyOf i := by
  rw [Site.keyOf, Site.keyOf, List.getElem?_append_left hi]

theorem keyOf_last {relay : Relay} {delivered : List Message} :
    Site.keyOf ⟨relay, s.handed ++ [p], delivered⟩ s.handed.length = p.call.key? := by
  rw [Site.keyOf, List.getElem?_concat_length, Option.bind_some]

theorem countAt_push {relay : Relay} {delivered : List Message} (x y : Place) :
    Site.countAt ⟨relay, s.handed ++ [p], delivered⟩
        (Function.update place s.handed.length x) y =
      s.countAt place y + if x = y then 1 else 0 := by
  rw [Site.countAt, Site.countAt, List.length_append, List.length_singleton]
  exact count_push place s.handed.length x y

/-- An event that is not sent goes to one of the relay's counters. -/
theorem Books.count (h : Books s place) {relay : Relay} {x : Place}
    (hx : x = .dropped ∨ ∃ key, x = .held key ∧ p.call.key? = some key)
    (hheld : ∀ key, relay.heldUnder key =
      s.relay.heldUnder key + if x = .held key then 1 else 0)
    (hdropped : relay.dropped = s.relay.dropped + if x = .dropped then 1 else 0)
    (hkeys : relay.seen.keys.Nodup) :
    Books ⟨relay, s.handed ++ [p], s.delivered⟩ (Function.update place s.handed.length x) := by
  have hplace {i : ℕ} (hi : i < (s.handed ++ [p]).length) {y : Place} :
      (i < s.handed.length ∧ (Function.update place s.handed.length x i = y ↔ place i = y)) ∨
        (i = s.handed.length ∧ (Function.update place s.handed.length x i = y ↔ x = y)) := by
    rw [List.length_append, List.length_singleton] at hi
    rcases Nat.lt_succ_iff_lt_or_eq.1 hi with hlt | rfl
    · exact Or.inl ⟨hlt, by rw [Function.update_of_ne hlt.ne]⟩
    · exact Or.inr ⟨rfl, by rw [Function.update_self]⟩
  have hnot (y : Place) (hy : y ≠ .dropped) (hy' : ∀ key, y ≠ .held key) : x ≠ y := by
    rintro rfl
    rcases hx with hdrop | ⟨key, hheld, -⟩
    · exact hy hdrop
    · exact hy' key hheld
  constructor
  · constructor
    · intro i hi
      rcases hplace hi (y := .delivered) with ⟨hlt, hiff⟩ | ⟨rfl, hiff⟩
      · rw [hiff]
        exact h.delivered i hlt
      · rw [hiff]
        constructor
        · exact fun heq => absurd heq (hnot _ (by simp) (by simp))
        · rintro ⟨m, hm, hnumber⟩
          exact absurd hnumber (h.numbers m hm).ne
    · intro i hi k hmore
      rcases hplace hi (y := .more k) with ⟨hlt, hiff⟩ | ⟨rfl, hiff⟩
      · obtain ⟨hkey, m, hm, hnumber⟩ := h.more i hlt k (hiff.1 hmore)
        have hk : k < s.handed.length := hnumber ▸ h.numbers m hm
        rw [keyOf_of_lt hlt, keyOf_of_lt hk]
        exact ⟨hkey, m, hm, hnumber⟩
      · exact absurd (hiff.1 hmore) (hnot _ (by simp) (by simp))
    · intro i hi k hother
      rcases hplace hi (y := .other k) with ⟨hlt, hiff⟩ | ⟨rfl, hiff⟩
      · exact h.other i hlt k (hiff.1 hother)
      · exact absurd (hiff.1 hother) (hnot _ (by simp) (by simp))
    · intro i hi key hheld
      rcases hplace hi (y := .held key) with ⟨hlt, hiff⟩ | ⟨rfl, hiff⟩
      · rw [keyOf_of_lt hlt]
        exact h.held i hlt key (hiff.1 hheld)
      · rw [keyOf_last]
        rcases hx with rfl | ⟨own, rfl, hown⟩
        · cases hiff.1 hheld
        · cases hiff.1 hheld
          exact hown
    · intro m hm
      rw [countAt_push, if_neg (hnot _ (by simp) (by simp)), Nat.add_zero]
      exact h.toldHeld m hm
    · intro m hm
      rw [countAt_push, if_neg (hnot _ (by simp) (by simp)), Nat.add_zero]
      exact h.toldDropped m hm
    · intro key
      rw [countAt_push, h.heldUnder]
      exact (hheld key).symm
    · rw [countAt_push, h.dropped]
      exact hdropped.symm
  · exact hkeys
  · intro m hm
    have := h.numbers m hm
    simp only [List.length_append, List.length_singleton]
    omega

/-- The repeats that a message takes along were all in the counter of its key. -/
theorem Books.count_more (h : Books s place) (key? : Option String) :
    Nat.count (fun i => (place i).tell s.handed.length key? = .more s.handed.length)
      s.handed.length = key?.elim 0 s.relay.heldUnder := by
  have hiff : ∀ i < s.handed.length,
      ((place i).tell s.handed.length key? = .more s.handed.length ↔
        ∃ key, key? = some key ∧ place i = .held key) := by
    intro i hi
    rw [tell_eq_more]
    constructor
    · rintro (hmore | ⟨-, hkey⟩)
      · obtain ⟨-, m, hm, hnumber⟩ := h.more i hi _ hmore
        exact absurd hnumber (h.numbers m hm).ne
      · exact hkey
    · exact fun hkey => Or.inr ⟨rfl, hkey⟩
  cases key? with
  | none =>
      refine (count_congr hiff).trans ?_
      simp
  | some key =>
      rw [Option.elim_some, ← h.heldUnder key]
      refine count_congr fun i hi => (hiff i hi).trans ?_
      simp

theorem Books.count_other (h : Books s place) (key? : Option String) :
    Nat.count (fun i => (place i).tell s.handed.length key? = .other s.handed.length)
      s.handed.length = s.relay.dropped := by
  rw [← h.dropped]
  refine count_congr fun i hi => ?_
  rw [tell_eq_other]
  constructor
  · rintro (hother | ⟨-, hdropped⟩)
    · obtain ⟨m, hm, hnumber⟩ := h.other i hi _ hother
      exact absurd hnumber (h.numbers m hm).ne
    · exact hdropped
  · exact fun hdropped => Or.inr ⟨rfl, hdropped⟩

/-- A message that is delivered takes the counts along that it tells. -/
theorem Books.send (h : Books s place) {relay : Relay} {m : Message}
    (hnumber : m.number = s.handed.length)
    (htoldHeld : m.toldHeld = p.call.key?.elim 0 s.relay.heldUnder)
    (htoldDropped : m.toldDropped = s.relay.dropped)
    (hheld : ∀ key, relay.heldUnder key =
      if p.call.key? = some key then 0 else s.relay.heldUnder key)
    (hdropped : relay.dropped = 0) (hkeys : relay.seen.keys.Nodup) :
    Books ⟨relay, s.handed ++ [p], s.delivered ++ [m]⟩
      (Function.update (fun i => (place i).tell s.handed.length p.call.key?) s.handed.length
        .delivered) := by
  have hplace {i : ℕ} (hi : i < (s.handed ++ [p]).length) :
      (i < s.handed.length ∧ Function.update (fun i =>
          (place i).tell s.handed.length p.call.key?) s.handed.length .delivered i =
            (place i).tell s.handed.length p.call.key?) ∨
        (i = s.handed.length ∧ Function.update (fun i =>
          (place i).tell s.handed.length p.call.key?) s.handed.length .delivered i =
            .delivered) := by
    rw [List.length_append, List.length_singleton] at hi
    rcases Nat.lt_succ_iff_lt_or_eq.1 hi with hlt | rfl
    · exact Or.inl ⟨hlt, by rw [Function.update_of_ne hlt.ne]⟩
    · exact Or.inr ⟨rfl, by rw [Function.update_self]⟩
  have hmem {m' : Message} (hm' : m' ∈ s.delivered) : m' ∈ s.delivered ++ [m] := by
    simp [hm']
  constructor
  · constructor
    · intro i hi
      rcases hplace hi with ⟨hlt, heq⟩ | ⟨rfl, heq⟩
      · rw [heq, tell_eq_delivered, h.delivered i hlt]
        constructor
        · rintro ⟨m', hm', hsame⟩
          exact ⟨m', hmem hm', hsame⟩
        · rintro ⟨m', hm', hsame⟩
          rcases List.mem_append.1 hm' with hold | hnew
          · exact ⟨m', hold, hsame⟩
          · rw [List.mem_singleton.1 hnew, hnumber] at hsame
            exact absurd hsame hlt.ne'
      · exact ⟨fun _ => ⟨m, by simp, hnumber⟩, fun _ => heq⟩
    · intro i hi k hmore
      rcases hplace hi with ⟨hlt, heq⟩ | ⟨rfl, heq⟩
      · rw [heq, tell_eq_more] at hmore
        rw [keyOf_of_lt hlt]
        rcases hmore with hmore | ⟨rfl, key, hkey, hheldAt⟩
        · obtain ⟨hkey, m', hm', hsame⟩ := h.more i hlt k hmore
          have hk : k < s.handed.length := hsame ▸ h.numbers m' hm'
          rw [keyOf_of_lt hk]
          exact ⟨hkey, m', hmem hm', hsame⟩
        · rw [keyOf_last, hkey]
          exact ⟨h.held i hlt key hheldAt, m, by simp, hnumber⟩
      · rw [heq] at hmore
        cases hmore
    · intro i hi k hother
      rcases hplace hi with ⟨hlt, heq⟩ | ⟨rfl, heq⟩
      · rw [heq, tell_eq_other] at hother
        rcases hother with hother | ⟨rfl, -⟩
        · obtain ⟨m', hm', hsame⟩ := h.other i hlt k hother
          exact ⟨m', hmem hm', hsame⟩
        · exact ⟨m, by simp, hnumber⟩
      · rw [heq] at hother
        cases hother
    · intro i hi key hheldAt
      rcases hplace hi with ⟨hlt, heq⟩ | ⟨rfl, heq⟩
      · rw [heq, tell_eq_held] at hheldAt
        rw [keyOf_of_lt hlt]
        exact h.held i hlt key hheldAt.1
      · rw [heq] at hheldAt
        cases hheldAt
    · intro m' hm'
      rw [countAt_push, if_neg (by simp), Nat.add_zero, Site.countAt]
      rcases List.mem_append.1 hm' with hold | hnew
      · have hne : m'.number ≠ s.handed.length := (h.numbers m' hold).ne
        rw [← h.toldHeld m' hold]
        refine count_congr fun i _ => ?_
        rw [tell_eq_more]
        simp [hne]
      · rw [List.mem_singleton.1 hnew, hnumber, htoldHeld]
        exact h.count_more p.call.key?
    · intro m' hm'
      rw [countAt_push, if_neg (by simp), Nat.add_zero, Site.countAt]
      rcases List.mem_append.1 hm' with hold | hnew
      · have hne : m'.number ≠ s.handed.length := (h.numbers m' hold).ne
        rw [← h.toldDropped m' hold]
        refine count_congr fun i _ => ?_
        rw [tell_eq_other]
        simp [hne]
      · rw [List.mem_singleton.1 hnew, hnumber, htoldDropped]
        exact h.count_other p.call.key?
    · intro key
      rw [countAt_push, if_neg (by simp), Nat.add_zero, Site.countAt, hheld key]
      split
      · next hown =>
          refine Nat.count_iff_forall_not.2 fun i _ hheldAt => ?_
          exact (tell_eq_held.1 hheldAt).2 hown
      · next hother =>
          rw [← h.heldUnder key]
          refine count_congr fun i _ => ?_
          rw [tell_eq_held]
          simp [hother]
    · rw [countAt_push, if_neg (by simp), Nat.add_zero, Site.countAt, hdropped]
      exact Nat.count_iff_forall_not.2 fun i _ => tell_ne_dropped
  · exact hkeys
  · intro m' hm'
    simp only [List.length_append, List.length_singleton]
    rcases List.mem_append.1 hm' with hold | hnew
    · have := h.numbers m' hold
      omega
    · rw [List.mem_singleton.1 hnew, hnumber]
      omega

/-! ## Runs -/

/-- Every event finds its place. -/
theorem Books.post (h : Books s place)
    (hkeeps : s.relay.passes p = true → Keeps s.relay p) :
    ∃ place', Books (s.post p) place' := by
  cases hrepeats : s.relay.repeats p.call with
  | true =>
      obtain ⟨key, seen, hkey, hget⟩ := Relay.seen?_of_repeats hrepeats
      rw [post_of_repeats hrepeats, Relay.hold_eq hkey hget]
      refine ⟨_, h.count (Or.inr ⟨key, rfl, hkey⟩) ?_ ?_ (Dict.keys_put_nodup h.keys)⟩
      · intro key'
        by_cases heq : key' = key
        · rw [heq, if_pos rfl, Relay.heldUnder_of_some hget]
          exact Relay.heldUnder_put_self
        · rw [if_neg (by simpa using Ne.symm heq)]
          exact Relay.heldUnder_put_of_ne heq
      · simp
  | false =>
      cases hroom : s.relay.room p.now with
      | false =>
          rw [post_of_full hrepeats hroom]
          refine ⟨_, h.count (Or.inl rfl) ?_ ?_ h.keys⟩
          · intro key
            simp [Relay.heldUnder, Relay.takeSlot]
          · simp
      | true =>
          have hkept := hkeeps (by simp [Relay.passes, hrepeats, hroom])
          have hslotKeys : (s.relay.takeSlot p.now).2.seen.keys.Nodup := h.keys
          rw [post_of_passes hrepeats hroom hkept.accepted]
          refine ⟨_, h.send rfl ?_ hkept.toldDropped ?_ rfl (Relay.nodup_remember hslotKeys)⟩
          · rw [← Relay.heldFor_eq]
            exact hkept.toldHeld
          · intro key
            exact Relay.heldUnder_remember hslotKeys hkept.forgets key

/-- Nothing is lost at any step of a run. -/
def Keeping : Site → List Posted → Prop
  | _, [] => True
  | s, p :: posts => (s.relay.passes p = true → Keeps s.relay p) ∧ Keeping (s.post p) posts

theorem Books.run {posts : List Posted} (h : Books s place) (hkeeping : Keeping s posts) :
    ∃ place', Books (s.run posts) place' := by
  induction posts generalizing s place with
  | nil => exact ⟨place, h⟩
  | cons p posts ih =>
      obtain ⟨place', hstep⟩ := h.post hkeeping.1
      exact ih hstep hkeeping.2

theorem books_new (dedupSeconds : ℚ) (perMinute : ℕ) :
    Books (Site.new dedupSeconds perMinute) fun _ => .dropped := by
  constructor
  · constructor
    · exact fun i hi => absurd hi (Nat.not_lt_zero i)
    · exact fun i hi => absurd hi (Nat.not_lt_zero i)
    · exact fun i hi => absurd hi (Nat.not_lt_zero i)
    · exact fun i hi => absurd hi (Nat.not_lt_zero i)
    · exact fun m hm => absurd hm List.not_mem_nil
    · exact fun m hm => absurd hm List.not_mem_nil
    · exact fun key => rfl
    · rfl
  · exact List.nodup_nil
  · exact fun m hm => absurd hm List.not_mem_nil

/-- **No alert vanishes** in a run whose messages are all delivered with their
count lines, and in which pruning forgets no fingerprint that holds repeats. -/
theorem accounted_run (dedupSeconds : ℚ) (perMinute : ℕ) {posts : List Posted}
    (hkeeping : Keeping (Site.new dedupSeconds perMinute) posts) :
    Accounted ((Site.new dedupSeconds perMinute).run posts) := by
  obtain ⟨place, hbooks⟩ := (books_new dedupSeconds perMinute).run hkeeping
  exact ⟨place, hbooks.toLedger⟩

/-- An alert, a repeat, and after ten minutes the next one with the count. -/
def tenMinutes (accepted : Bool) : List Posted :=
  [⟨apiError, 0, true⟩, ⟨apiError, 1, true⟩, ⟨apiError, 601, accepted⟩]

theorem tenMinutes_accounted :
    Keeping (Site.new 600 20) (tenMinutes true) ∧
      Accounted ((Site.new 600 20).run (tenMinutes true)) := by
  have hkeeping : Keeping (Site.new 600 20) (tenMinutes true) := by
    refine ⟨fun _ => ?_, fun h => ?_, fun _ => ?_, trivial⟩
    · constructor <;> decide +kernel
    · exact absurd h (by decide +kernel)
    · constructor <;> decide +kernel
  exact ⟨hkeeping, accounted_run 600 20 hkeeping⟩

/-- When the third message fails, the repeat before it is counted nowhere. -/
theorem failedMessage_loses : ¬ Accounted ((Site.new 600 20).run (tenMinutes false)) := by
  rintro ⟨place, h⟩
  have hsite : (Site.new 600 20).run (tenMinutes false) =
      ⟨⟨600, 20, [("fp", ⟨601, 0⟩)], [601], 0⟩, tenMinutes false, [⟨0, apiError, 0, 0⟩]⟩ := by
    decide +kernel
  rw [hsite] at h
  have hlen : (tenMinutes false).length = 3 := rfl
  cases hplace : place 1 with
  | delivered =>
      obtain ⟨m, hm, hnumber⟩ := (h.delivered 1 (by decide)).1 hplace
      rw [List.mem_singleton.1 hm] at hnumber
      cases hnumber
  | more k =>
      obtain ⟨-, m, hm, rfl⟩ := h.more 1 (by decide) k hplace
      have htold := h.toldHeld m hm
      rw [List.mem_singleton.1 hm] at htold hplace
      exact Nat.count_iff_forall_not.1 htold 1 (by decide) hplace
  | other k =>
      obtain ⟨m, hm, rfl⟩ := h.other 1 (by decide) k hplace
      have htold := h.toldDropped m hm
      rw [List.mem_singleton.1 hm] at htold hplace
      exact Nat.count_iff_forall_not.1 htold 1 (by decide) hplace
  | held key =>
      have hkey := h.held 1 (by decide) key hplace
      obtain rfl : "fp" = key := Option.some.inj hkey
      exact Nat.count_iff_forall_not.1 (h.heldUnder "fp") 1 (by decide) hplace
  | dropped => exact Nat.count_iff_forall_not.1 h.dropped 1 (by decide) hplace

end MovieApi.Alerts
