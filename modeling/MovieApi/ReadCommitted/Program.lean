import MovieApi.ReadCommitted.Statement

/-!
# Programs of database sessions

A program issues statements one at a time and goes on with what each of them
answered.  It is a tree: a statement, and a program for every answer.
-/

namespace MovieApi.ReadCommitted

inductive Prog (D K W E I X : Type) (α : Type) : Type 1
  | ret (a : α)
  | raise (e : X)
  | stmt {β : Type} (c : Stmt D K W E I X β) (k : Except X β → Prog D K W E I X α)

namespace Prog

variable {D K W E I X : Type} {α β γ : Type}

def bind : Prog D K W E I X α → (α → Prog D K W E I X β) → Prog D K W E I X β
  | .ret a, f => f a
  | .raise e, _ => .raise e
  | .stmt c k, f => .stmt c fun r => (k r).bind f

/-- Has it returned or raised? -/
def ended : Prog D K W E I X α → Bool
  | .stmt _ _ => false
  | _ => true

instance : Monad (Prog D K W E I X) where
  pure := .ret
  bind := bind

@[simp] theorem pure_eq (a : α) : (pure a : Prog D K W E I X α) = .ret a := rfl

@[simp] theorem bind_eq (p : Prog D K W E I X α) (f : α → Prog D K W E I X β) :
    p >>= f = p.bind f := rfl

@[simp] theorem ret_bind (a : α) (f : α → Prog D K W E I X β) : (ret a).bind f = f a := rfl

@[simp] theorem raise_bind (e : X) (f : α → Prog D K W E I X β) :
    (raise e).bind f = raise e := rfl

@[simp] theorem stmt_bind (c : Stmt D K W E I X γ) (k : Except X γ → Prog D K W E I X α)
    (f : α → Prog D K W E I X β) : (stmt c k).bind f = stmt c fun r => (k r).bind f := rfl

theorem bind_assoc (p : Prog D K W E I X α) (f : α → Prog D K W E I X β)
    (g : β → Prog D K W E I X γ) : (p.bind f).bind g = p.bind fun a => (f a).bind g := by
  induction p with
  | ret a => rfl
  | raise e => rfl
  | stmt c k ih => simp only [stmt_bind, ih]

/-- Go on with the answer of a statement, or raise its error. -/
def answer : Except X α → Prog D K W E I X α
  | .ok a => ret a
  | .error e => raise e

/-- The program that issues one statement. -/
def perform (c : Stmt D K W E I X α) : Prog D K W E I X α := stmt c answer

def tryCatch : Prog D K W E I X α → (X → Prog D K W E I X α) → Prog D K W E I X α
  | .ret a, _ => .ret a
  | .raise e, handler => handler e
  | .stmt c k, handler => .stmt c fun r => (k r).tryCatch handler

/-- Run the body on each element in turn. -/
def forEach : List β → (β → Prog D K W E I X Unit) → Prog D K W E I X Unit
  | [], _ => ret ()
  | b :: bs, body => (body b).bind fun _ => forEach bs body

/-! ## Programs made of harmless statements -/

/-- Every statement the program may issue is `ok`, and it handles no error itself. -/
def Every (ok : ∀ {α : Type}, Stmt D K W E I X α → Prop) : Prog D K W E I X α → Prop
  | .ret _ => True
  | .raise _ => True
  | .stmt c k => ok c ∧ (∀ e, k (.error e) = .raise e) ∧ ∀ a, (k (.ok a)).Every ok

namespace Every

variable {ok ok' : ∀ {α : Type}, Stmt D K W E I X α → Prop}

protected theorem ret (a : α) : (ret a : Prog D K W E I X α).Every ok := trivial

protected theorem raise (e : X) : (raise e : Prog D K W E I X α).Every ok := trivial

protected theorem perform {c : Stmt D K W E I X α} (h : ok c) : (perform c).Every ok :=
  ⟨h, fun _ => rfl, fun _ => trivial⟩

protected theorem bind {p : Prog D K W E I X α} {f : α → Prog D K W E I X β} (h : p.Every ok)
    (hf : ∀ a, (f a).Every ok) : (p >>= f).Every ok := by
  induction p with
  | ret a => exact hf a
  | raise e => trivial
  | stmt c k ih =>
      obtain ⟨hok, herr, hk⟩ := h
      refine ⟨hok, fun e => ?_, fun a => ih (.ok a) (hk a)⟩
      simp [herr e]

protected theorem forEach {bs : List β} {body : β → Prog D K W E I X Unit} (h : ∀ b, (body b).Every ok) :
    (forEach bs body).Every ok := by
  induction bs with
  | nil => trivial
  | cons b bs ih => exact (h b).bind fun _ => ih

theorem mono {p : Prog D K W E I X α} (h : p.Every ok)
    (hok : ∀ {β : Type} (c : Stmt D K W E I X β), ok c → ok' c) : p.Every ok' := by
  induction p with
  | ret a => trivial
  | raise e => trivial
  | stmt c k ih => exact ⟨hok c h.1, h.2.1, fun a => ih (.ok a) (h.2.2 a)⟩

end Every

/-! ## Statements as programs -/

section

def select (query : D → α) : Prog D K W E I X α := perform (.select query)

def lock (key : K) (mode : LockMode) : Prog D K W E I X Unit := perform (.lock key mode)

def tryLock (key : K) (mode : LockMode) : Prog D K W E I X Bool := perform (.tryLock key mode)

def enter (key : K) (taken : D → Bool) : Prog D K W E I X Bool := perform (.enter key taken)

def write (w : W) : Prog D K W E I X Unit := perform (.write w)

def reject (error : X) : Prog D K W E I X Unit := perform (.reject error)

def commit : Prog D K W E I X Unit := perform .commit

def rollback : Prog D K W E I X Unit := perform .rollback

def sense (read : E → α) : Prog D K W E I X α := perform (.sense read)

def tell (act : E → E) : Prog D K W E I X Unit := perform (.tell act)

def session (step : I → α × I) : Prog D K W E I X α := perform (.session step)

end

/-! ## One program on its own -/

section

variable [DecidableEq K] [Database D K W] [ServerError X]

/-- Run the whole program while no other session moves; `none` when it gets to
wait, for a lock that will then never be given up. -/
def runAlone (t : Tid) : Prog D K W E I X α → Store D K W E I →
    Option (Except X α × Store D K W E I)
  | .ret a, s => some (.ok a, s)
  | .raise e, s => some (.error e, s)
  | .stmt c k, s =>
      match c.exec t s with
      | none => none
      | some (r, s') => (k r).runAlone t s'

@[simp] theorem runAlone_ret (t : Tid) (a : α) (s : Store D K W E I) :
    (ret a : Prog D K W E I X α).runAlone t s = some (.ok a, s) := rfl

@[simp] theorem runAlone_raise (t : Tid) (e : X) (s : Store D K W E I) :
    (raise e : Prog D K W E I X α).runAlone t s = some (.error e, s) := rfl

theorem runAlone_bind (t : Tid) (p : Prog D K W E I X α) (f : α → Prog D K W E I X β)
    (s : Store D K W E I) :
    (p.bind f).runAlone t s =
      match p.runAlone t s with
      | none => none
      | some (.ok a, s') => (f a).runAlone t s'
      | some (.error e, s') => some (.error e, s') := by
  induction p generalizing s with
  | ret a => rfl
  | raise e => rfl
  | stmt c k ih =>
      simp only [stmt_bind, runAlone]
      cases c.exec t s with
      | none => rfl
      | some r => exact ih r.1 r.2

theorem runAlone_perform (t : Tid) (c : Stmt D K W E I X α) (s : Store D K W E I) :
    (perform c).runAlone t s = c.exec t s := by
  simp only [perform, runAlone]
  cases h : c.exec t s with
  | none => rfl
  | some r =>
      obtain ⟨r, s'⟩ := r
      cases r with
      | ok a => rfl
      | error e => rfl

end

end Prog

end MovieApi.ReadCommitted
