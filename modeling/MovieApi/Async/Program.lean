import Mathlib

/-!
# Programs of asynchronous tasks

A task calls services one at a time and goes on with what each call answered.
`C` lists the calls and `A c` the answers to `c`.
-/

namespace MovieApi.Async

inductive Prog (C : Type) (A : C → Type) (α : Type) : Type
  | ret (a : α)
  | raise
  | call (c : C) (k : A c → Prog C A α)

namespace Prog

variable {C : Type} {A : C → Type} {α β : Type}

def bind : Prog C A α → (α → Prog C A β) → Prog C A β
  | .ret a, f => f a
  | .raise, _ => .raise
  | .call c k, f => .call c fun a => (k a).bind f

instance : Monad (Prog C A) where
  pure := .ret
  bind := bind

@[simp] theorem pure_eq (a : α) : (pure a : Prog C A α) = .ret a := rfl

@[simp] theorem bind_eq (p : Prog C A α) (f : α → Prog C A β) : p >>= f = p.bind f := rfl

def perform (c : C) : Prog C A (A c) := .call c .ret

/-- Swallow an error: `none` when the program raised. -/
def attempt : Prog C A α → Prog C A (Option α)
  | .ret a => .ret (some a)
  | .raise => .ret none
  | .call c k => .call c fun a => (k a).attempt

/-! ## Programs under restricted answers -/

/-- While calls answer as `allows` says, the program makes only `permitted` calls
and returns as `post` says. -/
def Under (allows : (c : C) → A c → Prop) (permitted : C → Prop) (post : α → Prop) :
    Prog C A α → Prop
  | .ret a => post a
  | .raise => True
  | .call c k => permitted c ∧ ∀ a, allows c a → (k a).Under allows permitted post

namespace Under

variable {allows : (c : C) → A c → Prop} {permitted : C → Prop} {post post' : α → Prop}
  {p : Prog C A α}

theorem mono (h : p.Under allows permitted post) (hpost : ∀ a, post a → post' a) :
    p.Under allows permitted post' := by
  induction p with
  | ret a => exact hpost a h
  | raise => trivial
  | call c k ih => exact ⟨h.1, fun a ha => ih a (h.2 a ha)⟩

theorem bind {after : β → Prop} {f : α → Prog C A β} (h : p.Under allows permitted post)
    (hf : ∀ a, post a → (f a).Under allows permitted after) :
    (p >>= f).Under allows permitted after := by
  induction p with
  | ret a => exact hf a h
  | raise => trivial
  | call c k ih => exact ⟨h.1, fun a ha => ih a (h.2 a ha)⟩

theorem perform {c : C} {post' : A c → Prop} (hc : permitted c) (hpost : ∀ a, allows c a → post' a) :
    (Prog.perform c : Prog C A (A c)).Under allows permitted post' :=
  ⟨hc, hpost⟩

theorem attempt (h : p.Under allows permitted post) :
    p.attempt.Under allows permitted fun answer => ∀ a, answer = some a → post a := by
  induction p with
  | ret a => exact fun b hb => Option.some.inj hb ▸ h
  | raise => exact fun b hb => by simp at hb
  | call c k ih => exact ⟨h.1, fun a ha => ih a (h.2 a ha)⟩

end Under

end Prog

end MovieApi.Async
