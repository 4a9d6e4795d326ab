import MovieApi.ReadCommitted.Contract

/-!
# Facts that last

What every move of the store keeps, a program's own moves included, holds on
from any statement of the program.  And a transaction none of whose statements
was rejected stays alive through a program that handles no error.
-/

namespace MovieApi.ReadCommitted

variable {D K W E I X : Type} {α : Type}

section

variable [DecidableEq K] [Database D K W] [ServerError X] {t : Tid} {s s' : Store D K W E I}

/-- A statement that answers dooms no transaction. -/
theorem Stmt.doomed_of_exec_ok {c : Stmt D K W E I X α} {a : α}
    (h : c.exec t s = some (.ok a, s')) (hd : s.doomed t = false) : s'.doomed t = false := by
  cases c with
  | select | lock | tryLock | enter | write | reject | commit | rollback | sense | tell | session =>
      simp only [Stmt.exec, hd, Bool.false_eq_true, if_false] at h
      repeat' split at h
      all_goals simp only [Option.some.injEq, Prod.mk.injEq, reduceCtorEq, false_and] at h
      all_goals obtain ⟨-, rfl⟩ := h
      all_goals simp [hd]

end

variable [DecidableEq K] [Database D K W] [LawfulDatabase D K W] [ServerError X]
  {C : Contract D K W E I X} {reg : Regime D K W E I X} {t : Tid} {p : Prog D K W E I X α}

/-- What the contract's moves keep lasts over a program that meets it. -/
theorem Meets.lasting {Q : α → Store D K W E I → Prop} {R : X → Store D K W E I → Prop}
    {s : Store D K W E I} {F : Store D K W E I → Prop} (hsound : C.Sound reg)
    (hallows : ∀ {β : Type} {c : Stmt D K W E I X β} {s}, C.Allows t c s → reg.stmt t c s = true)
    (hF : ∀ {s s'}, C.Rely s s' → F s → F s') (h : Meets C t p Q R s) (hs : F s) :
    Meets C t p (fun a s => Q a s ∧ F s) (fun e s => R e s ∧ F s) s := by
  induction p generalizing s with
  | ret a => exact ⟨h, hs⟩
  | raise e => exact ⟨h, hs⟩
  | stmt c k ih =>
      intro s' hb hc hallow
      obtain ⟨hobl, hk⟩ := h s' hb hc hallow
      refine ⟨hobl, fun r s'' hexec => ih r (hk r s'' hexec) ?_⟩
      have hmove := hsound.stmt hc.disciplined hc.inv hobl (hallows hallow) hexec
      exact hF hmove.2 (hF hb.rely hs)

theorem Triple.lasting {P : Store D K W E I → Prop} {Q : α → Store D K W E I → Prop}
    {R : X → Store D K W E I → Prop} {F : Store D K W E I → Prop} (hsound : C.Sound reg)
    (hallows : ∀ {β : Type} {c : Stmt D K W E I X β} {s}, C.Allows t c s → reg.stmt t c s = true)
    (hF : ∀ {s s'}, C.Rely s s' → F s → F s') (h : Triple C t P p Q R) :
    Triple C t (fun s => P s ∧ F s) p (fun a s => Q a s ∧ F s) fun e s => R e s ∧ F s := by
  intro s hs
  refine ((h s hs.1).lasting hsound hallows hF hs.2).mono (fun _ _ => id) fun e s hr => ?_
  exact hr.1.imp_right fun hR => ⟨hR, hr.2⟩

/-- A handler may rely on what lasts, whatever the program raised. -/
theorem Triple.tryCatch_lasting {P : Store D K W E I → Prop} {Q : α → Store D K W E I → Prop}
    {R M : X → Store D K W E I → Prop} {F : Store D K W E I → Prop}
    {handler : X → Prog D K W E I X α} (hsound : C.Sound reg)
    (hallows : ∀ {β : Type} {c : Stmt D K W E I X β} {s}, C.Allows t c s → reg.stmt t c s = true)
    (hF : ∀ {s s'}, C.Rely s s' → F s → F s') (h : Triple C t P p Q M)
    (hh : ∀ e, Triple C t F (handler e) Q R) :
    Triple C t (fun s => P s ∧ F s) (p.tryCatch handler) Q R := by
  intro s hs
  refine Meets.tryCatch (M := fun _ => F) ?_ fun e s hs => hh e s hs
  exact ((h s hs.1).lasting hsound hallows hF hs.2).mono (fun _ _ hQ => hQ.1) fun _ _ hM => hM.2

/-- Session `t` may go on: its transaction is not doomed, and `P` holds. -/
def Live (t : Tid) (P : Store D K W E I → Prop) (s : Store D K W E I) : Prop :=
  s.doomed t = false ∧ P s

omit [DecidableEq K] [ServerError X] in
theorem Stable.live {P : Store D K W E I → Prop} (h : Stable C t P) : Stable C t (Live t P) :=
  .and (.doomed false) h

theorem Meets.live {ok : ∀ {β : Type}, Stmt D K W E I X β → Prop}
    {Q : α → Store D K W E I → Prop} {R : X → Store D K W E I → Prop} {s : Store D K W E I}
    (hp : p.Every ok) (h : Meets C t p Q (fun e s => s.doomed t = true ∨ R e s) s)
    (hd : s.doomed t = false) :
    Meets C t p (fun a => Live t (Q a)) (fun e s => s.doomed t = true ∨ R e s) s := by
  induction p generalizing s with
  | ret a => exact ⟨hd, h⟩
  | raise e => exact h
  | stmt c k ih =>
      intro s' hb hc hallow
      obtain ⟨hobl, hk⟩ := h s' hb hc hallow
      refine ⟨hobl, fun r s'' hexec => ?_⟩
      cases r with
      | ok a =>
          have hd' : s''.doomed t = false :=
            Stmt.doomed_of_exec_ok hexec (hb.doomed.trans hd)
          exact ih (.ok a) (hp.2.2 a) (hk (.ok a) s'' hexec) hd'
      | error x =>
          rw [hp.2.1 x]
          exact .inl (Stmt.doomed_of_exec_error hexec)

/-- A program that handles no error answers only in a live transaction. -/
theorem Triple.live {ok : ∀ {β : Type}, Stmt D K W E I X β → Prop} {P : Store D K W E I → Prop}
    {Q : α → Store D K W E I → Prop} {R : X → Store D K W E I → Prop} (hp : p.Every ok)
    (h : Triple C t P p Q R) : Triple C t (Live t P) p (fun a => Live t (Q a)) R :=
  fun s hs => (h s hs.2).live hp hs.1

end MovieApi.ReadCommitted
