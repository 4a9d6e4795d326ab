import MovieApi.Alerts.Admission

/-!
# Incidents that end

An alert may be lost on its way to the relay or fail on its way to the chat.  Where the
alerts of a fingerprint are raised and resolved in turn, the relay takes one for a repeat
only after a `resolved` that did not get through to it.
-/

namespace MovieApi.Alerts

/-- An alert on its way: `lost` before it reaches the relay, `failed` after it has been
let through. -/
structure Post where
  call : Call
  lost : Bool
  failed : Bool
deriving DecidableEq, Repr

/-- What becomes of an alert. -/
inductive Passage where
  | lost
  | held
  | full
  | failed
  | sent
deriving DecidableEq, Repr

/-- The relay has not let the alert through, and not for being a repeat. -/
def Passage.missed : Passage → Bool
  | .lost | .full => true
  | _ => false

namespace Relay

/-- `deliver`: what becomes of an alert, as the caller and the chat see it. -/
def passage (r : Relay) (p : Post) : Passage :=
  if p.lost then .lost
  else if r.repeats p.call then .held
  else if (r.admitCall p.call).1.1 then if p.failed then .failed else .sent
  else .full

def post (r : Relay) (p : Post) : Relay := if p.lost then r else (r.admitCall p.call).2

/-- The alerts of a run with what becomes of them. -/
def passages : Relay → List Post → List (Post × Passage)
  | _, [] => []
  | r, p :: posts => (p, r.passage p) :: (r.post p).passages posts

end Relay

/-- Alerts in turn: one that is not `resolved` opens an incident, a `resolved` closes it. -/
def InTurn : Bool → List Post → Prop
  | _, [] => True
  | opened, p :: posts => (p.call.level = .resolved ↔ opened = true) ∧ InTurn (!opened) posts

def Post.isOf (key : String) (p : Post) : Bool := decide (p.call.key? = some key)

variable {r : Relay} {p : Post} {posts : List Post} {key : String} {opened : Bool}

theorem Relay.passage_of_repeats (hlost : p.lost = false) (h : r.repeats p.call = true) :
    r.passage p = .held := by
  simp [passage, hlost, h]

theorem Relay.repeats_of_passage (h : r.passage p = .held) : r.repeats p.call = true := by
  by_contra hnot
  rw [Bool.not_eq_true] at hnot
  unfold passage at h
  rw [hnot] at h
  split at h
  · cases h
  · simp only [Bool.false_eq_true, if_false] at h
    split at h
    · split at h <;> cases h
    · cases h

/-- A `resolved` is never taken for a repeat; where it is let through, the fingerprint is
forgotten. -/
theorem Relay.post_resolved (hkey : p.call.key? = some key) (hlevel : p.call.level = .resolved) :
    r.passage p ≠ .held ∧ ((r.passage p).missed = false → (r.post p).Forgot key) := by
  have hnot : r.repeats p.call = false := repeats_of_resolved hlevel
  refine ⟨fun h => ?_, fun hmissed => ?_⟩
  · rw [repeats_of_passage h] at hnot
    cases hnot
  · cases hlost : p.lost with
    | true => simp [passage, hlost, Passage.missed] at hmissed
    | false =>
        have hadmits : admits (r, p.call) = r.room p.call.now := admits_resolved hlevel
        cases hroom : r.room p.call.now with
        | true =>
            simp only [post, hlost, Bool.false_eq_true, if_false]
            exact forgot_of_resolved hkey hlevel hroom
        | false =>
            rw [hroom, admits] at hadmits
            simp [passage, hlost, hnot, hadmits, Passage.missed] at hmissed

theorem Relay.Forgot.post (h : r.Forgot key) (hother : p.call.key? ≠ some key) :
    (r.post p).Forgot key := by
  unfold Relay.post
  split
  · exact h
  · exact h.admitCall (.inr hother)

theorem Relay.Forgot.not_held (h : r.Forgot key) (hkey : p.call.key? = some key) :
    r.passage p ≠ .held := by
  intro hheld
  have hseen : r.seen? p.call = none := by rw [seen?, hkey, Option.bind_some, h]
  have hnot := repeats_of_seen hseen
  rw [repeats_of_passage hheld] at hnot
  cases hnot

/-- The same, after an alert of the fingerprint. -/
theorem Relay.held_after_missed_from (before : Option (Post × Passage))
    (hturn : InTurn opened (posts.filter (Post.isOf key)))
    (hforgot : opened = false → r.Forgot key ∨ ∃ q passage, before = some (q, passage) ∧
      q.call.level = .resolved ∧ passage.missed = true)
    {front back : List (Post × Passage)}
    (hsplit : (r.passages posts).filter (fun item => item.1.isOf key) =
      front ++ (p, .held) :: back) :
    p.call.level ≠ .resolved ∧ ∃ q passage, (before.toList ++ front).getLast? = some (q, passage) ∧
      q.call.level = .resolved ∧ passage.missed = true := by
  induction posts generalizing r opened before front with
  | nil => simp [passages] at hsplit
  | cons q posts ih =>
      rw [passages] at hsplit
      by_cases hown : q.isOf key = true
      · have hkey : q.call.key? = some key := of_decide_eq_true hown
        rw [List.filter_cons_of_pos (by exact hown)] at hsplit hturn
        obtain ⟨hlevel, hrest⟩ := hturn
        cases front with
        | nil =>
            obtain ⟨hhead, -⟩ := List.cons.inj hsplit
            obtain ⟨rfl, hheld⟩ := Prod.mk.inj hhead
            cases opened with
            | true => exact absurd hheld (post_resolved hkey (hlevel.2 rfl)).1
            | false =>
                refine ⟨fun h => (by cases hlevel.1 h), ?_⟩
                rcases hforgot rfl with hforgot | ⟨q', passage, rfl, hresolved, hmissed⟩
                · exact absurd hheld (hforgot.not_held hkey)
                · exact ⟨q', passage, by simp, hresolved, hmissed⟩
        | cons item front =>
            obtain ⟨rfl, htail⟩ := List.cons.inj hsplit
            have hnext : (!opened) = false → (r.post q).Forgot key ∨ ∃ q' passage,
                some (q, r.passage q) = some (q', passage) ∧ q'.call.level = .resolved ∧
                  passage.missed = true := by
              intro hclosed
              have hresolved := hlevel.2 (by simpa using hclosed)
              cases hmissed : (r.passage q).missed with
              | true => exact .inr ⟨q, r.passage q, rfl, hresolved, hmissed⟩
              | false => exact .inl ((post_resolved hkey hresolved).2 hmissed)
            obtain ⟨hp, q', passage, hlast, hpassage⟩ := ih _ hrest hnext htail
            refine ⟨hp, q', passage, ?_, hpassage⟩
            rw [List.getLast?_append]
            simpa using hlast
      · rw [Bool.not_eq_true] at hown
        rw [List.filter_cons_of_neg (by simp [hown])] at hsplit hturn
        refine ih _ hturn (fun hclosed => ?_) hsplit
        rcases hforgot hclosed with hforgot | hmissed
        · exact .inl (hforgot.post (of_decide_eq_false hown))
        · exact .inr hmissed

/-- An alert is held back as a repeat only where the alert of its fingerprint before it is
a `resolved` that was lost or found no room. -/
theorem Relay.held_after_missed (hturn : InTurn false (posts.filter (Post.isOf key)))
    (hforgot : r.Forgot key) {front back : List (Post × Passage)}
    (hsplit : (r.passages posts).filter (fun item => item.1.isOf key) =
      front ++ (p, .held) :: back) :
    p.call.level ≠ .resolved ∧ ∃ q passage, front.getLast? = some (q, passage) ∧
      q.call.level = .resolved ∧ passage.missed = true := by
  have h := held_after_missed_from none hturn (fun _ => .inl hforgot) hsplit
  simpa using h

end MovieApi.Alerts
