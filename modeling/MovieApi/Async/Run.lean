import MovieApi.Async.Program

/-!
# Tasks that share a state

Any number of tasks run their programs over one state.  A call is answered at
once, or its task waits and hears the answer later, with a message from outside.
-/

namespace MovieApi.Async

variable {C : Type} {A : C → Type} {W M σ : Type}

/-! ## Machines -/

/-- How calls of a worker's tasks are answered. -/
structure Machine (C : Type) (A : C → Type) (W M σ : Type) where
  /-- what happens by itself -/
  idle : σ → σ → Prop
  answers : W → (c : C) → A c → σ → σ → Prop
  /-- the call has to wait -/
  asks : W → C → σ → σ → Prop
  hears : W → (c : C) → M → A c → σ → σ → Prop
  /-- the programs of new tasks -/
  starts : Prog C A Unit → Prop

inductive Thread (C : Type) (A : C → Type) where
  | running (p : Prog C A Unit)
  | waiting (c : C) (k : A c → Prog C A Unit)

structure Config (C : Type) (A : C → Type) (W σ : Type) where
  state : σ
  threads : Nat → Option (W × Thread C A)

/-- What a step lets an observer see. -/
inductive Event (C : Type) (A : C → Type) (M : Type) where
  | quiet
  | answered (c : C) (a : A c)
  | heard (c : C) (message : M) (a : A c)

def Config.set (x : Config C A W σ) (s : σ) (t : Nat) (w : W) (thread : Thread C A) :
    Config C A W σ :=
  { state := s, threads := Function.update x.threads t (some (w, thread)) }

inductive Step (m : Machine C A W M σ) (x : Config C A W σ) :
    Event C A M → Config C A W σ → Prop
  | idle {s : σ} (h : m.idle x.state s) : Step m x .quiet { x with state := s }
  | start {t : Nat} {w : W} {p : Prog C A Unit} (hfree : x.threads t = none)
      (h : m.starts p) : Step m x .quiet (x.set x.state t w (.running p))
  | answered {t : Nat} {w : W} {c : C} {k : A c → Prog C A Unit} {a : A c} {s : σ}
      (hthread : x.threads t = some (w, .running (.call c k)))
      (h : m.answers w c a x.state s) :
      Step m x (.answered c a) (x.set s t w (.running (k a)))
  | asked {t : Nat} {w : W} {c : C} {k : A c → Prog C A Unit} {s : σ}
      (hthread : x.threads t = some (w, .running (.call c k)))
      (h : m.asks w c x.state s) : Step m x .quiet (x.set s t w (.waiting c k))
  | heard {t : Nat} {w : W} {c : C} {k : A c → Prog C A Unit} {message : M} {a : A c} {s : σ}
      (hthread : x.threads t = some (w, .waiting c k))
      (h : m.hears w c message a x.state s) :
      Step m x (.heard c message a) (x.set s t w (.running (k a)))

/-- Runs whose events are all `ok`. -/
def Runs (m : Machine C A W M σ) (ok : Event C A M → Prop) :
    Config C A W σ → Config C A W σ → Prop :=
  Relation.ReflTransGen fun x y => ∃ event, ok event ∧ Step m x event y

/-! ## Invariants -/

section

variable {m : Machine C A W M σ} {ok : Event C A M → Prop} {allows : (c : C) → A c → Prop}
  {permitted : C → Prop} {inv : σ → Prop} {x y : Config C A W σ}

def Thread.Under (allows : (c : C) → A c → Prop) (permitted : C → Prop) : Thread C A → Prop
  | .running p => p.Under allows permitted fun _ => True
  | .waiting c k => permitted c ∧
      ∀ a, allows c a → (k a).Under allows permitted fun _ => True

/-- The state keeps an invariant while only permitted calls are made and the
events are ok. -/
structure Keeps (m : Machine C A W M σ) (ok : Event C A M → Prop)
    (allows : (c : C) → A c → Prop) (permitted : C → Prop) (inv : σ → Prop) : Prop where
  idle : ∀ {s s'}, inv s → m.idle s s' → inv s'
  answers : ∀ {w c a s s'}, permitted c → inv s → m.answers w c a s s' →
    ok (.answered c a) → allows c a ∧ inv s'
  asks : ∀ {w c s s'}, permitted c → inv s → m.asks w c s s' → inv s'
  hears : ∀ {w c message a s s'}, permitted c → inv s → m.hears w c message a s s' →
    ok (.heard c message a) → allows c a ∧ inv s'
  starts : ∀ {p}, m.starts p → p.Under allows permitted fun _ => True

/-- The invariant, and tasks that go on as they may. -/
structure Sound (allows : (c : C) → A c → Prop) (permitted : C → Prop) (inv : σ → Prop)
    (x : Config C A W σ) : Prop where
  state : inv x.state
  threads : ∀ t w thread, x.threads t = some (w, thread) → thread.Under allows permitted

theorem Sound.set (h : Sound allows permitted inv x) {s : σ} (hs : inv s) (t : Nat) (w : W)
    {thread : Thread C A} (hthread : thread.Under allows permitted) :
    Sound allows permitted inv (x.set s t w thread) := by
  refine ⟨hs, fun t' w' thread' h' => ?_⟩
  by_cases heq : t' = t
  · subst heq
    simp only [Config.set, Function.update_self, Option.some.injEq, Prod.mk.injEq] at h'
    exact h'.2 ▸ hthread
  · simp only [Config.set, Function.update_of_ne heq] at h'
    exact h.threads t' w' thread' h'

theorem Sound.step (h : Sound allows permitted inv x) (hkeeps : Keeps m ok allows permitted inv)
    {event : Event C A M} (hok : ok event) (hstep : Step m x event y) :
    Sound allows permitted inv y := by
  cases hstep with
  | idle hidle => exact ⟨hkeeps.idle h.state hidle, h.threads⟩
  | start _ hstart => exact h.set h.state _ _ (hkeeps.starts hstart)
  | answered hthread hanswer =>
      obtain ⟨hpermitted, hk⟩ := h.threads _ _ _ hthread
      obtain ⟨hallowed, hs⟩ := hkeeps.answers hpermitted h.state hanswer hok
      exact h.set hs _ _ (hk _ hallowed)
  | asked hthread hask =>
      obtain ⟨hpermitted, hk⟩ := h.threads _ _ _ hthread
      exact h.set (hkeeps.asks hpermitted h.state hask) _ _ ⟨hpermitted, hk⟩
  | heard hthread hhear =>
      obtain ⟨hpermitted, hk⟩ := h.threads _ _ _ hthread
      obtain ⟨hallowed, hs⟩ := hkeeps.hears hpermitted h.state hhear hok
      exact h.set hs _ _ (hk _ hallowed)

/-- The invariant holds through every run. -/
theorem Keeps.runs (hkeeps : Keeps m ok allows permitted inv) (h : Sound allows permitted inv x)
    (hrun : Runs m ok x y) : Sound allows permitted inv y := by
  induction hrun with
  | refl => exact h
  | tail _ hstep ih =>
      obtain ⟨event, hok, hstep⟩ := hstep
      exact ih.step hkeeps hok hstep

end

end MovieApi.Async
