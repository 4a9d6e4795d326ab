import Mathlib
import MovieApi.Machines.Links

/-!
# Transient errors

`is_transient_db_error` of `app/db_connect.py` looks for an error worth a retry among an
exception and what it was raised from. It steps over an exception that is its own cause,
but it does not remember where it has been.
-/

namespace MovieApi.Database

open Relation StateTransition

/-- The class of an exception, as far as it is looked at; timeouts include every error of
the operating system, and the text of a driver's error is `str(exc)`. -/
inductive Kind where
  | timeout
  | poolTimeout
  | driver (message : String)
  | other
deriving DecidableEq, Repr

/-- Exceptions with their `__cause__` and `__context__`. -/
structure Exceptions (N : Type) where
  kind : N → Kind
  cause : N → Option N
  context : N → Option N

variable {N : Type} {lower : String → String} {g : Exceptions N} {exc x y : N}

/-- The cause, else the context. -/
def Exceptions.link (g : Exceptions N) (exc : N) : Option N := (g.cause exc).or (g.context exc)

def transientTokens : List String := ["timeout", "timed out", "connection", "cancelled", "closed"]

def transientMessage (lower : String → String) (message : String) : Bool :=
  transientTokens.any fun token => decide (token.toList <:+: (lower message).toList)

/-- What the class alone decides. -/
def Kind.verdict (lower : String → String) : Kind → Option Bool
  | .timeout => some true
  | .poolTimeout => some true
  | .driver message => some (transientMessage lower message)
  | .other => none

/-- `is_transient_db_error`, down to a given depth of the recursion. -/
def isTransientDbError [DecidableEq N] (lower : String → String) (g : Exceptions N) :
    Nat → N → Option Bool
  | 0, _ => none
  | depth + 1, exc =>
      match (g.kind exc).verdict lower with
      | some answer => some answer
      | none =>
          match g.link exc with
          | none => some false
          | some cause =>
              if cause = exc then some false else isTransientDbError lower g depth cause

def IsTransient (lower : String → String) (g : Exceptions N) (exc : N) : Prop :=
  (g.kind exc).verdict lower = some true

/-- Reachable by following links. -/
def Linked (g : Exceptions N) : N → N → Prop := ReflTransGen fun a b => g.link a = some b

/-! ## The exceptions that are looked at -/

/-- The exception looked at next: none after a class that decides, or a link to itself. -/
def Exceptions.next [DecidableEq N] (g : Exceptions N) (exc : N) : Option N :=
  if g.kind exc = .other then
    match g.link exc with
    | none => none
    | some cause => if cause = exc then none else some cause
  else none

/-- The answer where the search ends. -/
def answerAt (lower : String → String) (g : Exceptions N) (exc : N) : Bool :=
  ((g.kind exc).verdict lower).getD false

theorem isTransient_of_answerAt (h : answerAt lower g exc = true) : IsTransient lower g exc := by
  unfold answerAt at h
  cases hverdict : (g.kind exc).verdict lower with
  | none => simp [hverdict] at h
  | some answer =>
      rw [hverdict, Option.getD_some] at h
      rw [IsTransient, hverdict, h]

variable [DecidableEq N]

theorem isTransientDbError_succ (depth : Nat) (exc : N) :
    isTransientDbError lower g (depth + 1) exc =
      match g.next exc with
      | none => some (answerAt lower g exc)
      | some cause => isTransientDbError lower g depth cause := by
  rw [isTransientDbError, Exceptions.next, answerAt]
  cases hkind : g.kind exc with
  | timeout => simp [Kind.verdict]
  | poolTimeout => simp [Kind.verdict]
  | driver message => simp [Kind.verdict]
  | other =>
      cases hlink : g.link exc with
      | none => simp [Kind.verdict]
      | some cause =>
          by_cases hself : cause = exc
          · simp [Kind.verdict, hself]
          · simp [Kind.verdict, hself]

theorem link_of_next (h : g.next x = some y) : g.link x = some y := by
  unfold Exceptions.next at h
  split at h
  · cases hlink : g.link x with
    | none =>
        rw [hlink] at h
        cases h
    | some cause =>
        simp only [hlink] at h
        split at h
        · cases h
        · exact h
  · cases h

theorem linked_of_reaches (h : Reaches g.next x y) : Linked g x y := by
  induction h with
  | refl => exact ReflTransGen.refl
  | tail _ hstep ih => exact ih.tail (link_of_next hstep)

/-- An answer is the one of the exception at which the search ends. -/
theorem reaches_of_answer {depth : Nat} {answer : Bool}
    (h : isTransientDbError lower g depth exc = some answer) :
    ∃ last, Reaches g.next exc last ∧ g.next last = none ∧ answerAt lower g last = answer := by
  induction depth generalizing exc with
  | zero => cases h
  | succ depth ih =>
      rw [isTransientDbError_succ] at h
      cases hnext : g.next exc with
      | none =>
          rw [hnext] at h
          exact ⟨exc, ReflTransGen.refl, hnext, Option.some.inj h⟩
      | some cause =>
          rw [hnext] at h
          obtain ⟨last, hreaches, hend, hanswer⟩ := ih h
          exact ⟨last, ReflTransGen.head hnext hreaches, hend, hanswer⟩

theorem answer_of_reaches {last : N} (h : Reaches g.next exc last) (hend : g.next last = none) :
    ∃ depth, isTransientDbError lower g depth exc = some (answerAt lower g last) := by
  induction h using ReflTransGen.head_induction_on with
  | refl =>
      refine ⟨1, ?_⟩
      rw [isTransientDbError_succ, hend]
  | head hstep _ ih =>
      obtain ⟨depth, hdepth⟩ := ih
      refine ⟨depth + 1, ?_⟩
      rw [isTransientDbError_succ, show g.next _ = _ from hstep]
      exact hdepth

/-! ## Cycles -/

/-- The search ends, and says rightly what it has found, unless the links lead through
exceptions of no database kind to a cycle of them. -/
theorem transient_search_iff [Finite N] :
    (∃ depth answer, isTransientDbError lower g depth exc = some answer ∧
      (answer = true → ∃ x, Linked g exc x ∧ IsTransient lower g x)) ↔
    ¬ ∃ x, Reaches g.next exc x ∧ Reaches₁ g.next x x := by
  rw [← Machines.exists_end_iff]
  constructor
  · rintro ⟨depth, answer, h, -⟩
    obtain ⟨last, hreaches, hend, -⟩ := reaches_of_answer h
    exact ⟨last, hreaches, hend⟩
  · rintro ⟨last, hreaches, hend⟩
    obtain ⟨depth, hdepth⟩ :
        ∃ depth, isTransientDbError lower g depth exc = some (answerAt lower g last) :=
      answer_of_reaches hreaches hend
    refine ⟨depth, _, hdepth, fun hanswer => ?_⟩
    exact ⟨last, linked_of_reaches hreaches, isTransient_of_answerAt hanswer⟩

/-- A wrapped timeout is found. -/
def wrapped : Exceptions Bool :=
  ⟨fun exc => if exc then .other else .timeout, fun exc => if exc then some false else none,
    fun _ => none⟩

theorem wrapped_search_iff :
    Finite Bool ∧
      ((∃ depth answer, isTransientDbError id wrapped depth true = some answer ∧
        (answer = true → ∃ x, Linked wrapped true x ∧ IsTransient id wrapped x)) ↔
      ¬ ∃ x, Reaches wrapped.next true x ∧ Reaches₁ wrapped.next x x) :=
  ⟨inferInstance, transient_search_iff⟩

example : isTransientDbError id wrapped 2 true = some true := by decide

/-- The second exception was raised while the first was handled, and the first is raised
again from the second. -/
def entangled : Exceptions Bool :=
  ⟨fun _ => .other, fun exc => if exc then some false else none,
    fun exc => if exc then none else some true⟩

theorem entangled_unanswered (depth : Nat) :
    isTransientDbError id entangled depth true = none ∧
      isTransientDbError id entangled depth false = none := by
  induction depth with
  | zero => exact ⟨rfl, rfl⟩
  | succ depth ih => exact ⟨ih.2, ih.1⟩

/-- No depth of the recursion is enough. -/
theorem entangled_search_endless :
    ¬ ∃ depth answer, isTransientDbError id entangled depth true = some answer := by
  rintro ⟨depth, answer, h⟩
  rw [(entangled_unanswered depth).1] at h
  cases h

end MovieApi.Database
