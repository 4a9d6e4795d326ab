import MovieApi.Locks.DistributedLock

/-!
# One owner at a time

A handle owns the lock while its last acquire or refresh reported it as held and
the time to live has not passed since.  Two handles never own the lock together
as long as the key and the file lock are not taken side by side and the key does
not run out between the two commands of a refresh or a release.
-/

namespace MovieApi.Locks

open Relation (ReflTransGen)

/-! ## Ownership -/

def Phase.reported : Phase → Option Int
  | .held _ reported | .extending reported | .deleting reported => reported
  | _ => none

def State.Owns (ttlSeconds : Handle → Int) (s : State) (h : Handle) : Prop :=
  ∃ at_, (s.phase h).reported = some at_ ∧ s.now < at_ + lockTtl (ttlSeconds h)

/-- At most one process owns the lock, where `process` tells which process a
handle belongs to, and a release that is about to delete the key finds no other
token there. -/
structure State.Sole (ttlSeconds : Handle → Int) (process : Handle → Nat) (s : State) : Prop where
  owner : ∀ h h', s.Owns ttlSeconds h → s.Owns ttlSeconds h' → process h = process h'
  release : ∀ h reported, s.phase h = .deleting reported →
    ∀ entry, s.key = some entry → entry.token = h

/-! ## Steps that keep it -/

/-- The owner has read its token and not yet extended or deleted the key. -/
def Phase.between : Phase → Bool
  | .extending _ | .deleting _ => true
  | _ => false

/-- No acquire sets the key while a file lock is held or takes the file lock
while the key is set, and the key does not run out between the two commands of a
refresh or release of its owner. -/
def Careful (s : State) : Action → Prop
  | .acquire h reply => match s.phase h with
    | .idle => reply.executed = true → s.key = none → s.flock = none
    | .fallback => s.flock = none → s.key = none
    | _ => True
  | .expire => ∀ entry, s.key = some entry → (s.phase entry.token).between = false
  | _ => True

/-! ## The invariant -/

structure Inv (ttlSeconds : Handle → Int) (s : State) : Prop where
  fresh : ∀ h at_, (s.phase h).reported = some at_ → s.now < at_ + lockTtl (ttlSeconds h) →
    s.flock = some h ∨ ∃ d, s.key = some ⟨h, d⟩ ∧ at_ + lockTtl (ttlSeconds h) ≤ d
  between : ∀ h, (s.phase h).between = true → ∃ d, s.key = some ⟨h, d⟩
  file : ∀ h reported, s.phase h = .held .flock reported → s.flock = some h
  apart : s.key = none ∨ s.flock = none

variable {ttlSeconds : Handle → Int} {s s' : State} {h : Handle}

theorem Inv.start (now : Int) : Inv ttlSeconds (start now) where
  fresh h at_ hat := by simp [Locks.start, Phase.reported] at hat
  between h hbetween := by simp [Locks.start, Phase.between] at hbetween
  file h reported hheld := by simp [Locks.start] at hheld
  apart := .inl rfl

theorem Inv.owner (hs : Inv ttlSeconds s) {h' : Handle} (hh : s.Owns ttlSeconds h)
    (hh' : s.Owns ttlSeconds h') : h = h' := by
  obtain ⟨at_, hat, hnow⟩ := hh
  obtain ⟨at', hat', hnow'⟩ := hh'
  rcases hs.fresh h at_ hat hnow with hflock | ⟨d, hkey, -⟩ <;>
    rcases hs.fresh h' at' hat' hnow' with hflock' | ⟨d', hkey', -⟩
  · exact Option.some.inj (hflock.symm.trans hflock')
  · rcases hs.apart with hnone | hnone
    · simp [hnone] at hkey'
    · simp [hnone] at hflock
  · rcases hs.apart with hnone | hnone
    · simp [hnone] at hkey
    · simp [hnone] at hflock'
  · exact (Entry.mk.inj (Option.some.inj (hkey.symm.trans hkey'))).1

theorem Inv.sole (hs : Inv ttlSeconds s) (process : Handle → Nat) :
    s.Sole ttlSeconds process where
  owner h h' hh hh' := congrArg process (hs.owner hh hh')
  release h reported hphase entry hkey := by
    obtain ⟨d, hd⟩ := hs.between h (by rw [hphase]; rfl)
    rw [hkey] at hd
    rw [Option.some.inj hd]

/-! ## One command -/

/-- A command of one handle that leaves what the others have alone. -/
theorem Inv.moved {key : Option Entry} {flock : Option Handle} {phase : Phase}
    (hs : Inv ttlSeconds s)
    (hkey : ∀ h' ≠ h, ∀ d, s.key = some ⟨h', d⟩ → key = some ⟨h', d⟩)
    (hflock : ∀ h' ≠ h, s.flock = some h' → flock = some h')
    (hfresh : ∀ at_, phase.reported = some at_ → s.now < at_ + lockTtl (ttlSeconds h) →
      flock = some h ∨ ∃ d, key = some ⟨h, d⟩ ∧ at_ + lockTtl (ttlSeconds h) ≤ d)
    (hbetween : phase.between = true → ∃ d, key = some ⟨h, d⟩)
    (hfile : ∀ reported, phase = .held .flock reported → flock = some h)
    (hapart : key = none ∨ flock = none) :
    Inv ttlSeconds ({ s with key, flock }.enter h phase) where
  fresh h' at_ hat hnow := by
    by_cases hh : h' = h
    · subst hh
      simp only [State.enter, Function.update_self] at hat
      exact hfresh at_ hat hnow
    · simp only [State.enter, Function.update_of_ne hh] at hat
      rcases hs.fresh h' at_ hat hnow with hold | ⟨d, hold, hd⟩
      · exact .inl (hflock h' hh hold)
      · exact .inr ⟨d, hkey h' hh d hold, hd⟩
  between h' hh' := by
    by_cases hh : h' = h
    · subst hh
      simp only [State.enter, Function.update_self] at hh'
      exact hbetween hh'
    · simp only [State.enter, Function.update_of_ne hh] at hh'
      obtain ⟨d, hd⟩ := hs.between h' hh'
      exact ⟨d, hkey h' hh d hd⟩
  file h' reported hh' := by
    by_cases hh : h' = h
    · subst hh
      simp only [State.enter, Function.update_self] at hh'
      exact hfile reported hh'
    · simp only [State.enter, Function.update_of_ne hh] at hh'
      exact hflock h' hh (hs.file h' reported hh')
  apart := hapart

/-- A handle whose report is out goes on without one. -/
theorem Inv.enter_unreported {phase : Phase} (hs : Inv ttlSeconds s)
    (hreported : phase.reported = none) (hbetween : phase.between = false)
    (hfile : ∀ reported, phase ≠ .held .flock reported) : Inv ttlSeconds (s.enter h phase) :=
  hs.moved (fun _ _ _ => id) (fun _ _ => id) (fun at_ hat => by simp [hreported] at hat)
    (fun hb => by simp [hbetween] at hb) (fun reported hp => absurd hp (hfile reported)) hs.apart

theorem Inv.acquireRedis {reply : Reply} (hs : Inv ttlSeconds s)
    (hcareful : reply.executed = true → s.key = none → s.flock = none) :
    Inv ttlSeconds (acquireRedis (lockTtl (ttlSeconds h)) h reply s) := by
  unfold Locks.acquireRedis
  cases hkey : s.key with
  | some entry =>
      have hsame : { s with key := some entry } = s := by rw [← hkey]
      cases reply <;>
        simpa [Reply.executed, hsame] using hs.enter_unreported rfl rfl (by simp)
  | none =>
      cases reply with
      | failed =>
          have hsame : { s with key := none } = s := by rw [← hkey]
          simpa [Reply.executed, hsame] using hs.enter_unreported rfl rfl (by simp)
      | lost =>
          have hflock := hcareful rfl hkey
          exact hs.moved (by simp [hkey]) (fun _ _ => id) (fun at_ hat => by cases hat)
            (fun hb => by cases hb) (fun _ hp => by cases hp) (.inr hflock)
      | answered =>
          have hflock := hcareful rfl hkey
          refine hs.moved (by simp [hkey]) (fun _ _ => id) ?_ (fun hb => by cases hb)
            (fun _ hp => by cases hp) (.inr hflock)
          intro at_ hat _
          cases hat
          exact .inr ⟨_, rfl, le_rfl⟩

theorem Inv.acquireFlock (hs : Inv ttlSeconds s) (hcareful : s.flock = none → s.key = none) :
    Inv ttlSeconds (acquireFlock h s) := by
  unfold Locks.acquireFlock
  cases hflock : s.flock with
  | some other => exact hs.enter_unreported rfl rfl (by simp)
  | none =>
      have hkey := hcareful hflock
      exact hs.moved (fun _ _ _ => id) (by simp [hflock]) (fun _ _ _ => .inl rfl)
        (fun hb => by cases hb) (fun _ _ => rfl) (.inl hkey)

theorem holdsToken_iff : s.holdsToken h = true ↔ ∃ d, s.key = some ⟨h, d⟩ := by
  simp only [State.holdsToken, decide_eq_true_eq, Option.map_eq_some_iff]
  constructor
  · rintro ⟨⟨token, d⟩, hkey, rfl⟩
    exact ⟨d, hkey⟩
  · rintro ⟨d, hkey⟩
    exact ⟨_, hkey, rfl⟩

/-- Reading the own token changes nothing but the place in the method. -/
theorem Inv.enter_between {phase : Phase} (hs : Inv ttlSeconds s)
    (hreported : phase.reported = (s.phase h).reported) (htoken : s.holdsToken h = true)
    (hfile : ∀ reported, phase ≠ .held .flock reported) : Inv ttlSeconds (s.enter h phase) :=
  hs.moved (fun _ _ _ => id) (fun _ _ => id) (fun at_ hat hnow => hs.fresh h at_ (hreported ▸ hat) hnow)
    (fun _ => holdsToken_iff.1 htoken) (fun reported hp => absurd hp (hfile reported)) hs.apart

theorem Inv.refreshGet {reported : Option Int} {reply : Reply} (hs : Inv ttlSeconds s)
    (hphase : s.phase h = .held .redis reported) :
    Inv ttlSeconds (refreshGet h reported reply s) := by
  unfold Locks.refreshGet
  split
  · next htoken => exact hs.enter_between (by rw [hphase]; rfl) htoken.2 (by simp)
  · exact hs.enter_unreported rfl rfl (by simp)

theorem Inv.releaseGet {reported : Option Int} {reply : Reply} (hs : Inv ttlSeconds s)
    (hphase : s.phase h = .held .redis reported) :
    Inv ttlSeconds (releaseGet h reported reply s) := by
  unfold Locks.releaseGet
  split
  · next htoken => exact hs.enter_between (by rw [hphase]; rfl) htoken.2 (by simp)
  · exact hs.enter_unreported rfl rfl (by simp)

/-- The owner extends its own key. -/
theorem Inv.refreshExpire {reported : Option Int} {reply : Reply} (hs : Inv ttlSeconds s)
    (hphase : s.phase h = .extending reported) :
    Inv ttlSeconds (refreshExpire (lockTtl (ttlSeconds h)) h reply s) := by
  obtain ⟨d, hkey⟩ := hs.between h (by rw [hphase]; rfl)
  have hflock : s.flock = none := hs.apart.resolve_left (by simp [hkey])
  have hothers : ∀ h' ≠ h, ∀ d', s.key ≠ some ⟨h', d'⟩ := by
    intro h' hh d' hkey'
    rw [hkey] at hkey'
    exact hh (Entry.mk.inj (Option.some.inj hkey')).1.symm
  refine hs.moved (fun h' hh d' hkey' => absurd hkey' (hothers h' hh d')) (fun _ _ => id) ?_
    (fun hb => by cases hb) (fun _ hp => by cases hp) (.inr hflock)
  intro at_ hat _
  cases reply with
  | answered =>
      cases hat
      exact .inr ⟨_, by simp [Reply.executed, hkey], le_rfl⟩
  | _ => simp [Phase.reported] at hat

/-- The owner deletes its own key. -/
theorem Inv.releaseDelete {reported : Option Int} {reply : Reply} (hs : Inv ttlSeconds s)
    (hphase : s.phase h = .deleting reported) : Inv ttlSeconds (releaseDelete h reply s) := by
  obtain ⟨d, hkey⟩ := hs.between h (by rw [hphase]; rfl)
  have hflock : s.flock = none := hs.apart.resolve_left (by simp [hkey])
  refine hs.moved (fun h' hh d' hkey' => ?_) (fun _ _ => id) (fun at_ hat => by cases hat)
    (fun hb => by cases hb) (fun _ hp => by cases hp) (.inr hflock)
  rw [hkey] at hkey'
  exact absurd (Entry.mk.inj (Option.some.inj hkey')).1.symm hh

theorem Inv.refreshFlock {reported : Option Int} (hs : Inv ttlSeconds s)
    (hphase : s.phase h = .held .flock reported) : Inv ttlSeconds (refreshFlock h s) :=
  have hflock := hs.file h reported hphase
  hs.moved (fun _ _ _ => id) (fun _ _ => id) (fun _ _ _ => .inl hflock) (fun hb => by cases hb)
    (fun _ _ => hflock) hs.apart

theorem Inv.releaseFlock {reported : Option Int} (hs : Inv ttlSeconds s)
    (hphase : s.phase h = .held .flock reported) : Inv ttlSeconds (releaseFlock h s) := by
  have hflock := hs.file h reported hphase
  refine hs.moved (fun _ _ _ => id) (fun h' hh hother => ?_) (fun at_ hat => by cases hat)
    (fun hb => by cases hb) (fun _ hp => by cases hp) (.inr rfl)
  rw [hflock] at hother
  exact absurd (Option.some.inj hother).symm hh

/-! ## Time -/

theorem Inv.wait (hs : Inv ttlSeconds s) (d : Nat) :
    Inv ttlSeconds { s with now := s.now + d } where
  fresh h at_ hat hnow := hs.fresh h at_ hat (lt_of_le_of_lt (by simp) hnow)
  between := hs.between
  file := hs.file
  apart := hs.apart

/-- A key that runs out outside a refresh or release belongs to nobody who owns
the lock. -/
theorem Inv.expire {entry : Entry} (hs : Inv ttlSeconds s) (hkey : s.key = some entry)
    (hover : entry.deadline ≤ s.now) (hcareful : (s.phase entry.token).between = false) :
    Inv ttlSeconds { s with key := none } where
  fresh h at_ hat hnow := by
    rcases hs.fresh h at_ hat hnow with hflock | ⟨d, hd, hle⟩
    · exact .inl hflock
    · rw [hkey] at hd
      rw [Option.some.inj hd] at hover
      exact absurd (hle.trans hover) (not_le.2 hnow)
  between h hbetween := by
    obtain ⟨d, hd⟩ := hs.between h hbetween
    rw [hkey] at hd
    rw [Option.some.inj hd, hbetween] at hcareful
    cases hcareful
  file := hs.file
  apart := .inl rfl

/-! ## Runs -/

theorem Inv.next {a : Action} (hs : Inv ttlSeconds s) (hcareful : Careful s a) :
    Inv ttlSeconds (next ttlSeconds s a) := by
  cases a with
  | acquire h reply =>
      simp only [Locks.next, Careful] at hcareful ⊢
      cases hphase : s.phase h with
      | idle =>
          simp only [hphase] at hcareful
          exact hs.acquireRedis hcareful
      | fallback =>
          simp only [hphase] at hcareful
          exact hs.acquireFlock hcareful
      | _ => exact hs
  | refresh h reply =>
      simp only [Locks.next]
      cases hphase : s.phase h with
      | held backend reported =>
          cases backend with
          | redis => exact hs.refreshGet hphase
          | flock => exact hs.refreshFlock hphase
      | extending reported => exact hs.refreshExpire hphase
      | _ => exact hs
  | release h reply =>
      simp only [Locks.next]
      cases hphase : s.phase h with
      | held backend reported =>
          cases backend with
          | redis => exact hs.releaseGet hphase
          | flock => exact hs.releaseFlock hphase
      | deleting reported => exact hs.releaseDelete hphase
      | _ => exact hs
  | expire =>
      simp only [Locks.next]
      split
      · next hover =>
          obtain ⟨entry, hkey, hle⟩ := (Option.any_eq_true _ _).1 hover
          exact hs.expire hkey (of_decide_eq_true hle) (hcareful entry hkey)
      · exact hs
  | wait d => exact hs.wait d

def Step (ttlSeconds : Handle → Int) (s s' : State) : Prop :=
  ∃ a, s' = next ttlSeconds s a

def CarefulStep (ttlSeconds : Handle → Int) (s s' : State) : Prop :=
  ∃ a, Careful s a ∧ s' = next ttlSeconds s a

theorem careful_sole {now : Int} (hrun : ReflTransGen (CarefulStep ttlSeconds) (start now) s)
    (process : Handle → Nat) : s.Sole ttlSeconds process := by
  have hs : Inv ttlSeconds s := by
    induction hrun with
    | refl => exact Inv.start now
    | tail _ hstep ih =>
        obtain ⟨a, hcareful, rfl⟩ := hstep
        exact ih.next hcareful
  exact hs.sole process

/-- The state after some actions, one after the other. -/
def run (ttlSeconds : Handle → Int) (now : Int) (actions : List Action) : State :=
  actions.foldl (next ttlSeconds) (start now)

theorem run_append (now : Int) (actions : List Action) (a : Action) :
    run ttlSeconds now (actions ++ [a]) = next ttlSeconds (run ttlSeconds now actions) a := by
  simp [run]

theorem run_steps (now : Int) (actions : List Action) :
    ReflTransGen (Step ttlSeconds) (start now) (run ttlSeconds now actions) := by
  induction actions using List.reverseRecOn with
  | nil => exact .refl
  | append_singleton actions a ih => exact ih.tail ⟨a, run_append now actions a⟩

/-- A process takes the key, refreshes it and hands it on to another one. -/
theorem careful_sole_handover :
    (run (fun _ => 120) 0 [.acquire 0 .answered, .wait 5, .refresh 0 .answered,
      .refresh 0 .answered, .release 0 .answered, .release 0 .answered,
      .acquire 1 .answered]).Sole (fun _ => 120) id := by
  refine @careful_sole _ _ 0 ?_ id
  simp only [run, List.foldl_cons, List.foldl_nil]
  refine .tail (.tail (.tail (.tail (.tail (.tail (.tail .refl ⟨_, ?_, rfl⟩) ⟨_, ?_, rfl⟩)
    ⟨_, ?_, rfl⟩) ⟨_, ?_, rfl⟩) ⟨_, ?_, rfl⟩) ⟨_, ?_, rfl⟩) ⟨_, ?_, rfl⟩
  all_goals first | exact trivial | exact fun _ _ => rfl

/-- One process holds the Redis key when the call of another one fails, which
takes the file lock. -/
theorem two_owners :
    ¬∀ (ttlSeconds : Handle → Int) (process : Handle → Nat) (now : Int) (s : State),
      ReflTransGen (Step ttlSeconds) (start now) s → s.Sole ttlSeconds process := by
  intro h
  have hsole := h (fun _ => 120) id 0 _ (run_steps 0
    [.acquire 0 .answered, .acquire 1 .failed, .acquire 1 .answered])
  have howner := hsole.owner 0 1 ⟨0, rfl, by decide⟩ ⟨0, rfl, by decide⟩
  exact absurd howner (by decide)

-- The key runs out inside a release, which then deletes the token of the next owner.
example : ¬(run (fun _ => 30) 0 [.acquire 0 .answered, .release 0 .answered, .wait 30000000,
    .expire, .acquire 1 .answered]).Sole (fun _ => 30) id :=
  fun h => absurd (h.release 0 (some 0) rfl ⟨1, 60000000⟩ rfl) (by decide)

-- The key runs out inside a refresh, which then extends the key of the next owner.
example : ¬(run (fun _ => 30) 0 [.acquire 0 .answered, .refresh 0 .answered, .wait 30000000,
    .expire, .acquire 1 .answered, .refresh 0 .answered]).Sole (fun _ => 30) id :=
  fun h => absurd (h.owner 0 1 ⟨30000000, rfl, by decide⟩ ⟨30000000, rfl, by decide⟩) (by decide)

end MovieApi.Locks
