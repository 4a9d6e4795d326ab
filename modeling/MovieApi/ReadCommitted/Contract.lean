import MovieApi.ReadCommitted.Discipline

/-!
# Contracts

Rely-guarantee reasoning for pools.  A contract names an invariant of the store,
what a program owes at each statement it issues, and how the store may move in
between.  `Meets` follows a program through every answer and every move of the
other sessions; when the contract is sound for a regime, programs that meet it
keep it in every run.
-/

namespace MovieApi.ReadCommitted

variable {D K W E I X : Type}

structure Contract (D K W E I X : Type) where
  Inv : Store D K W E I → Prop
  Obl : Tid → {α : Type} → Stmt D K W E I X α → Store D K W E I → Prop
  Rely : Store D K W E I → Store D K W E I → Prop
  rely_refl : ∀ s, Rely s s
  rely_trans : ∀ {s s' s''}, Rely s s' → Rely s' s'' → Rely s s''
  /-- What the others leave to a session beyond the data its locks protect. -/
  Spares : Tid → Store D K W E I → Store D K W E I → Prop := fun _ _ _ => True
  spares_refl : ∀ t s, Spares t s s := by intros; trivial
  spares_trans : ∀ {t s s' s''}, Spares t s s' → Spares t s' s'' → Spares t s s'' := by
    intros; trivial
  /-- What a program may assume where the regime lets it run a statement. -/
  Allows : Tid → {α : Type} → Stmt D K W E I X α → Store D K W E I → Prop :=
    fun _ {_} _ _ => True

section

variable [Database D K W] [LawfulDatabase D K W]

/-- Store `s'` is `s` after moves of other sessions and of the world. -/
structure Between (C : Contract D K W E I X) (t : Tid) (s s' : Store D K W E I) : Prop
    extends Steady t s s' where
  rely : C.Rely s s'
  spares : C.Spares t s s'

theorem Between.refl (C : Contract D K W E I X) (t : Tid) (s : Store D K W E I) :
    Between C t s s :=
  ⟨.refl t s, C.rely_refl s, C.spares_refl t s⟩

theorem Between.trans {C : Contract D K W E I X} {t : Tid} {s s' s'' : Store D K W E I}
    (h : Between C t s s') (h' : Between C t s' s'') : Between C t s s'' :=
  ⟨h.toSteady.trans h'.toSteady, C.rely_trans h.rely h'.rely, C.spares_trans h.spares h'.spares⟩

/-- What holds of every store of a run. -/
structure Calm (C : Contract D K W E I X) (s : Store D K W E I) : Prop where
  disciplined : s.Disciplined
  inv : C.Inv s

/-- Moves of other sessions and of the world keep `P`. -/
structure Stable (C : Contract D K W E I X) (t : Tid) (P : Store D K W E I → Prop) : Prop where
  keep : ∀ {s s'}, Between C t s s' → P s → P s'

variable {C : Contract D K W E I X} {t : Tid} {P P' : Store D K W E I → Prop}

theorem Stable.and (h : Stable C t P) (h' : Stable C t P') :
    Stable C t fun s => P s ∧ P' s :=
  ⟨fun hb hp => ⟨h.keep hb hp.1, h'.keep hb hp.2⟩⟩

theorem Stable.or (h : Stable C t P) (h' : Stable C t P') :
    Stable C t fun s => P s ∨ P' s :=
  ⟨fun hb hp => hp.imp (h.keep hb) (h'.keep hb)⟩

theorem Stable.pure (φ : Prop) : Stable C t fun _ => φ := ⟨fun _ h => h⟩

theorem Stable.doomed (b : Bool) : Stable C t fun s => s.doomed t = b :=
  ⟨fun hb h => hb.doomed.trans h⟩

theorem Stable.holds (k : K) (m : LockMode) : Stable C t fun s => s.Holds t k m :=
  ⟨fun hb h => hb.holds_iff.2 h⟩

end

variable [DecidableEq K] [Database D K W] [LawfulDatabase D K W] [ServerError X]
  {α β : Type}

/-- From `s` on, the program owes what the contract says at every statement it
issues, and ends with `Q` or, raising, with `R`. -/
def Meets (C : Contract D K W E I X) (t : Tid) :
    Prog D K W E I X α → (α → Store D K W E I → Prop) → (X → Store D K W E I → Prop) →
      Store D K W E I → Prop
  | .ret a, Q, _, s => Q a s
  | .raise e, _, R, s => R e s
  | .stmt c k, Q, R, s =>
      ∀ s', Between C t s s' → Calm C s' → C.Allows t c s' →
        (s'.doomed t = false → C.Obl t c s') ∧
          ∀ r s'', c.exec t s' = some (r, s'') → Meets C t (k r) Q R s''

section

variable {C : Contract D K W E I X} {t : Tid} {p : Prog D K W E I X α}
  {Q Q' : α → Store D K W E I → Prop} {R R' : X → Store D K W E I → Prop}
  {s s' : Store D K W E I}

theorem Meets.mono (h : Meets C t p Q R s) (hQ : ∀ a s, Q a s → Q' a s)
    (hR : ∀ e s, R e s → R' e s) : Meets C t p Q' R' s := by
  induction p generalizing s with
  | ret a => exact hQ _ _ h
  | raise e => exact hR _ _ h
  | stmt c k ih =>
      intro s' hb hc hallow
      exact ⟨(h s' hb hc hallow).1, fun r s'' hexec => ih r ((h s' hb hc hallow).2 r s'' hexec)⟩

theorem Meets.and (h : Meets C t p Q R s) (h' : Meets C t p Q' R' s) :
    Meets C t p (fun a s => Q a s ∧ Q' a s) (fun e s => R e s ∧ R' e s) s := by
  induction p generalizing s with
  | ret a => exact ⟨h, h'⟩
  | raise e => exact ⟨h, h'⟩
  | stmt c k ih =>
      intro s' hb hc hallow
      exact ⟨(h s' hb hc hallow).1, fun r s'' hexec =>
        ih r ((h s' hb hc hallow).2 r s'' hexec) ((h' s' hb hc hallow).2 r s'' hexec)⟩

/-- Moves of other sessions do not matter between two statements. -/
theorem Meets.between (h : Meets C t p Q R s) (hQ : ∀ a, Stable C t (Q a))
    (hR : ∀ e, Stable C t (R e)) (hb : Between C t s s') : Meets C t p Q R s' := by
  cases p with
  | ret a => exact (hQ a).keep hb h
  | raise e => exact (hR e).keep hb h
  | stmt c k => exact fun s'' hb' hc => h s'' (hb.trans hb') hc

theorem Meets.bind {f : α → Prog D K W E I X β} {Q' : β → Store D K W E I → Prop}
    (h : Meets C t p Q R s) (hf : ∀ a s, Q a s → Meets C t (f a) Q' R s) :
    Meets C t (p.bind f) Q' R s := by
  induction p generalizing s with
  | ret a => exact hf a s h
  | raise e => exact h
  | stmt c k ih =>
      intro s' hb hc hallow
      exact ⟨(h s' hb hc hallow).1, fun r s'' hexec => ih r ((h s' hb hc hallow).2 r s'' hexec)⟩

theorem Meets.tryCatch {handler : X → Prog D K W E I X α} {M : X → Store D K W E I → Prop}
    (h : Meets C t p Q M s) (hh : ∀ e s, M e s → Meets C t (handler e) Q R s) :
    Meets C t (p.tryCatch handler) Q R s := by
  induction p generalizing s with
  | ret a => exact h
  | raise e => exact hh e s h
  | stmt c k ih =>
      intro s' hb hc hallow
      exact ⟨(h s' hb hc hallow).1, fun r s'' hexec => ih r ((h s' hb hc hallow).2 r s'' hexec)⟩

end

/-! ## Triples -/

/-- A program started where `P` holds meets the contract and ends with `Q`; it
raises only in a doomed transaction or with `R`. -/
def Triple (C : Contract D K W E I X) (t : Tid) (P : Store D K W E I → Prop)
    (p : Prog D K W E I X α) (Q : α → Store D K W E I → Prop)
    (R : X → Store D K W E I → Prop) : Prop :=
  ∀ s, P s → Meets C t p Q (fun e s => s.doomed t = true ∨ R e s) s

namespace Triple

variable {C : Contract D K W E I X} {t : Tid} {P P' : Store D K W E I → Prop}
  {p : Prog D K W E I X α} {Q Q' : α → Store D K W E I → Prop}
  {R R' : X → Store D K W E I → Prop}

theorem conseq (h : Triple C t P p Q R) (hP : ∀ s, P' s → P s) (hQ : ∀ a s, Q a s → Q' a s)
    (hR : ∀ e s, R e s → R' e s) : Triple C t P' p Q' R' :=
  fun s hs => (h s (hP s hs)).mono hQ fun e s => Or.imp_right (hR e s)

theorem pre (h : Triple C t P p Q R) (hP : ∀ s, P' s → P s) : Triple C t P' p Q R :=
  h.conseq hP (fun _ _ => id) fun _ _ => id

theorem post (h : Triple C t P p Q R) (hQ : ∀ a s, Q a s → Q' a s) : Triple C t P p Q' R :=
  h.conseq (fun _ => id) hQ fun _ _ => id

theorem and (h : Triple C t P p Q R) (h' : Triple C t P' p Q' R') :
    Triple C t (fun s => P s ∧ P' s) p (fun a s => Q a s ∧ Q' a s) fun e s => R e s ∧ R' e s := by
  intro s hs
  refine ((h s hs.1).and (h' s hs.2)).mono (fun _ _ => id) fun e s hr => ?_
  obtain ⟨hd | hR, hd' | hR'⟩ := hr
  · exact .inl hd
  · exact .inl hd
  · exact .inl hd'
  · exact .inr ⟨hR, hR'⟩

/-- A fact the precondition gives about the program's values. -/
theorem given {φ : Prop} (hφ : ∀ s, P s → φ) (h : φ → Triple C t P p Q R) :
    Triple C t P p Q R :=
  fun s hs => h (hφ s hs) s hs

theorem ofExists {ι : Type} {P : ι → Store D K W E I → Prop} (h : ∀ i, Triple C t (P i) p Q R) :
    Triple C t (fun s => ∃ i, P i s) p Q R := by
  intro s hs
  obtain ⟨i, hi⟩ := hs
  exact h i s hi

theorem ret {a : α} (h : ∀ s, P s → Q a s) : Triple C t P (.ret a) Q R := h

theorem raise {e : X} (h : ∀ s, P s → R e s) : Triple C t P (.raise e) Q R :=
  fun s hs => .inr (h s hs)

theorem bind {f : α → Prog D K W E I X β} {Q' : β → Store D K W E I → Prop}
    (h : Triple C t P p Q R) (hf : ∀ a, Triple C t (Q a) (f a) Q' R) :
    Triple C t P (p >>= f) Q' R :=
  fun s hs => (h s hs).bind fun a s => hf a s

theorem tryCatch {handler : X → Prog D K W E I X α} {M : X → Store D K W E I → Prop}
    (h : Triple C t P p Q M)
    (hh : ∀ e, Triple C t (fun s => s.doomed t = true ∨ M e s) (handler e) Q R) :
    Triple C t P (p.tryCatch handler) Q R :=
  fun s hs => (h s hs).tryCatch fun e s => hh e s

theorem forEach {bs : List β} {body : β → Prog D K W E I X Unit}
    (h : ∀ b ∈ bs, Triple C t P (body b) (fun _ => P) R) :
    Triple C t P (Prog.forEach bs body) (fun _ => P) R := by
  induction bs with
  | nil => exact ret fun _ hs => hs
  | cons b bs ih =>
      exact (h b (by simp)).bind fun _ => ih fun b' hb' => h b' (by simp [hb'])

/-- One statement, where the regime allows it. -/
theorem performAllowed {c : Stmt D K W E I X α} (hP : Stable C t P)
    (h : ∀ s, Calm C s → C.Allows t c s → P s →
      (s.doomed t = false → C.Obl t c s) ∧ ∀ a s', c.exec t s = some (.ok a, s') → Q a s') :
    Triple C t P (.perform c) Q R := by
  intro s hs s' hb hc hallow
  obtain ⟨hobl, hok⟩ := h s' hc hallow (hP.keep hb hs)
  refine ⟨hobl, fun r s'' hexec => ?_⟩
  cases r with
  | ok a => exact hok a s'' hexec
  | error e => exact .inl (Stmt.doomed_of_exec_error hexec)

theorem perform {c : Stmt D K W E I X α} (hP : Stable C t P)
    (h : ∀ s, Calm C s → P s →
      (s.doomed t = false → C.Obl t c s) ∧ ∀ a s', c.exec t s = some (.ok a, s') → Q a s') :
    Triple C t P (.perform c) Q R :=
  performAllowed hP fun s hc _ hs => h s hc hs

/-! ### One statement -/

theorem select {q : D → α} (hP : Stable C t P)
    (h : ∀ s, Calm C s → P s → s.doomed t = false →
      C.Obl t (.select q) s ∧ Q (q (s.view t)) (s.begin t)) :
    Triple C t P (.select q) Q R := by
  refine perform hP fun s hc hs => ⟨fun hd => (h s hc hs hd).1, fun a s' hexec => ?_⟩
  simp only [Stmt.exec] at hexec
  split at hexec
  · simp at hexec
  · next hd =>
      simp only [Option.some.injEq, Prod.mk.injEq, Except.ok.injEq] at hexec
      obtain ⟨rfl, rfl⟩ := hexec
      exact (h s hc hs (by simpa using hd)).2

theorem lock {k : K} {m : LockMode} {Q : Unit → Store D K W E I → Prop} (hP : Stable C t P)
    (h : ∀ s, Calm C s → P s → s.doomed t = false → C.Obl t (.lock k m) s ∧
      (s.blocked t k m = false → Q () ((s.begin t).acquire t [(k, m)]))) :
    Triple C t P (.lock k m) Q R := by
  refine perform hP fun s hc hs => ⟨fun hd => (h s hc hs hd).1, fun a s' hexec => ?_⟩
  simp only [Stmt.exec] at hexec
  split at hexec
  · simp at hexec
  · next hd =>
      split at hexec
      · simp at hexec
      · next hfree =>
          simp only [Option.some.injEq, Prod.mk.injEq] at hexec
          obtain ⟨-, rfl⟩ := hexec
          exact (h s hc hs (by simpa using hd)).2 (by simpa using hfree)

theorem tryLock {k : K} {m : LockMode} {Q : Bool → Store D K W E I → Prop} (hP : Stable C t P)
    (h : ∀ s, Calm C s → P s → s.doomed t = false → C.Obl t (.tryLock k m) s ∧
      Q false (s.begin t) ∧
      (s.blocked t k m = false → Q true ((s.begin t).acquire t [(k, m)]))) :
    Triple C t P (.tryLock k m) Q R := by
  refine perform hP fun s hc hs => ⟨fun hd => (h s hc hs hd).1, fun a s' hexec => ?_⟩
  simp only [Stmt.exec] at hexec
  split at hexec
  · simp at hexec
  · next hd =>
      have hd : s.doomed t = false := by simpa using hd
      split at hexec
      · simp only [Option.some.injEq, Prod.mk.injEq, Except.ok.injEq] at hexec
        obtain ⟨rfl, rfl⟩ := hexec
        exact (h s hc hs hd).2.1
      · next hfree =>
          simp only [Option.some.injEq, Prod.mk.injEq, Except.ok.injEq] at hexec
          obtain ⟨rfl, rfl⟩ := hexec
          exact (h s hc hs hd).2.2 (by simpa using hfree)

theorem enter {k : K} {taken : D → Bool} {Q : Bool → Store D K W E I → Prop} (hP : Stable C t P)
    (h : ∀ s, Calm C s → P s → s.doomed t = false → C.Obl t (.enter k taken) s ∧
      (s.blocked t k .update = false → taken (s.view t) = true → Q false (s.begin t)) ∧
      (s.blocked t k .update = false → taken (s.view t) = false →
        Q true ((s.begin t).acquire t [(k, .update)]))) :
    Triple C t P (.enter k taken) Q R := by
  refine perform hP fun s hc hs => ⟨fun hd => (h s hc hs hd).1, fun a s' hexec => ?_⟩
  simp only [Stmt.exec] at hexec
  split at hexec
  · simp at hexec
  · next hd =>
      have hd : s.doomed t = false := by simpa using hd
      split at hexec
      · simp at hexec
      · next hfree =>
          have hfree : s.blocked t k .update = false := by simpa using hfree
          split at hexec
          · next htaken =>
              simp only [Option.some.injEq, Prod.mk.injEq, Except.ok.injEq] at hexec
              obtain ⟨rfl, rfl⟩ := hexec
              exact (h s hc hs hd).2.1 hfree htaken
          · next htaken =>
              simp only [Option.some.injEq, Prod.mk.injEq, Except.ok.injEq] at hexec
              obtain ⟨rfl, rfl⟩ := hexec
              exact (h s hc hs hd).2.2 hfree (by simpa using htaken)

theorem write {w : W} {Q : Unit → Store D K W E I → Prop} (hP : Stable C t P)
    (h : ∀ s, Calm C s → P s → s.doomed t = false → C.Obl t (.write w) s ∧
      ((∀ km ∈ Database.needs D w, s.blocked t km.1 km.2 = false) →
        Q () (((s.begin t).acquire t (Database.needs D w)).record t w))) :
    Triple C t P (.write w) Q R := by
  refine perform hP fun s hc hs => ⟨fun hd => (h s hc hs hd).1, fun a s' hexec => ?_⟩
  simp only [Stmt.exec] at hexec
  split at hexec
  · simp at hexec
  · next hd =>
      split at hexec
      · simp at hexec
      · next hfree =>
          simp only [Option.some.injEq, Prod.mk.injEq] at hexec
          obtain ⟨-, rfl⟩ := hexec
          refine (h s hc hs (by simpa using hd)).2 fun km hkm => ?_
          simp only [Bool.not_eq_true, List.any_eq_false] at hfree
          simpa using hfree km hkm

theorem reject {e : X} {Q : Unit → Store D K W E I → Prop} (hP : Stable C t P)
    (h : ∀ s, Calm C s → P s → s.doomed t = false → C.Obl t (.reject e) s) :
    Triple C t P (.reject e) Q R := by
  refine perform hP fun s hc hs => ⟨h s hc hs, fun a s' hexec => ?_⟩
  simp only [Stmt.exec] at hexec
  split at hexec <;> simp at hexec

theorem commit {Q : Unit → Store D K W E I → Prop} (hP : Stable C t P)
    (h : ∀ s, Calm C s → P s →
      (s.doomed t = true → Q () (s.finish t)) ∧
      (s.doomed t = false → C.Obl t .commit s ∧ Q () ((s.publish t).finish t))) :
    Triple C t P .commit Q R := by
  refine perform hP fun s hc hs => ⟨fun hd => ((h s hc hs).2 hd).1, fun a s' hexec => ?_⟩
  simp only [Stmt.exec] at hexec
  split at hexec <;> simp only [Option.some.injEq, Prod.mk.injEq] at hexec <;>
    obtain ⟨-, rfl⟩ := hexec
  · next hd => exact (h s hc hs).1 hd
  · next hd => exact ((h s hc hs).2 (by simpa using hd)).2

theorem rollback {Q : Unit → Store D K W E I → Prop} (hP : Stable C t P)
    (h : ∀ s, Calm C s → P s → (s.doomed t = false → C.Obl t .rollback s) ∧ Q () (s.finish t)) :
    Triple C t P .rollback Q R := by
  refine perform hP fun s hc hs => ⟨(h s hc hs).1, fun a s' hexec => ?_⟩
  simp only [Stmt.exec, Option.some.injEq, Prod.mk.injEq] at hexec
  obtain ⟨-, rfl⟩ := hexec
  exact (h s hc hs).2

theorem sense {read : E → α} (hP : Stable C t P)
    (h : ∀ s, Calm C s → P s →
      (s.doomed t = false → C.Obl t (.sense read) s) ∧ Q (read s.world) s) :
    Triple C t P (.sense read) Q R := by
  refine perform hP fun s hc hs => ⟨(h s hc hs).1, fun a s' hexec => ?_⟩
  simp only [Stmt.exec, Option.some.injEq, Prod.mk.injEq, Except.ok.injEq] at hexec
  obtain ⟨rfl, rfl⟩ := hexec
  exact (h s hc hs).2

theorem tell {act : E → E} {Q : Unit → Store D K W E I → Prop} (hP : Stable C t P)
    (h : ∀ s, Calm C s → P s →
      (s.doomed t = false → C.Obl t (.tell act) s) ∧ Q () { s with world := act s.world }) :
    Triple C t P (.tell act) Q R := by
  refine perform hP fun s hc hs => ⟨(h s hc hs).1, fun a s' hexec => ?_⟩
  simp only [Stmt.exec, Option.some.injEq, Prod.mk.injEq] at hexec
  obtain ⟨-, rfl⟩ := hexec
  exact (h s hc hs).2

theorem session {step : I → α × I} (hP : Stable C t P)
    (h : ∀ s, Calm C s → P s → (s.doomed t = false → C.Obl t (.session step) s) ∧
      Q (step (s.info t)).1 { s with info := Function.update s.info t (step (s.info t)).2 }) :
    Triple C t P (.session step) Q R := by
  refine perform hP fun s hc hs => ⟨(h s hc hs).1, fun a s' hexec => ?_⟩
  simp only [Stmt.exec, Option.some.injEq, Prod.mk.injEq, Except.ok.injEq] at hexec
  obtain ⟨rfl, rfl⟩ := hexec
  exact (h s hc hs).2

end Triple

/-! ### Programs made of harmless statements -/

/-- What every statement of a program keeps, the program keeps. -/
theorem Triple.every {C : Contract D K W E I X} {t : Tid} {P : Store D K W E I → Prop}
    {ok : ∀ {α : Type}, Stmt D K W E I X α → Prop} {p : Prog D K W E I X α} (hP : Stable C t P)
    (h : ∀ {β : Type} (c : Stmt D K W E I X β), ok c → ∀ s, Calm C s → P s →
      (s.doomed t = false → C.Obl t c s) ∧ ∀ a s', c.exec t s = some (.ok a, s') → P s')
    (hp : p.Every ok) : Triple C t P p (fun _ => P) fun _ => P := by
  intro s hs
  induction p generalizing s with
  | ret a => exact hs
  | raise e => exact .inr hs
  | stmt c k ih =>
      intro s' hb hc _
      obtain ⟨hobl, hstep⟩ := h c hp.1 s' hc (hP.keep hb hs)
      refine ⟨hobl, fun r s'' hexec => ?_⟩
      cases r with
      | ok a => exact ih (.ok a) (hp.2.2 a) s'' (hstep a s'' hexec)
      | error e =>
          rw [hp.2.1 e]
          exact .inl (Stmt.doomed_of_exec_error hexec)

/-! ## Runs -/

/-- Within the regime, a statement that pays its obligation keeps the contract. -/
structure Contract.Sound (C : Contract D K W E I X) (reg : Regime D K W E I X) : Prop where
  allows : ∀ {α : Type} {c : Stmt D K W E I X α} {t s}, reg.stmt t c s = true → C.Allows t c s
  stmt : ∀ {α : Type} {c : Stmt D K W E I X α} {t s r s'}, s.Disciplined → C.Inv s →
    (s.doomed t = false → C.Obl t c s) → reg.stmt t c s = true → c.exec t s = some (r, s') →
      C.Inv s' ∧ C.Rely s s'
  others : ∀ {α : Type} {c : Stmt D K W E I X α} {t u s r s'}, u ≠ t → s.Disciplined → C.Inv s →
    (s.doomed u = false → C.Obl u c s) → reg.stmt u c s = true → c.exec u s = some (r, s') →
      C.Spares t s s'
  outside : ∀ {e s}, C.Inv s → reg.outside e s = true →
    (C.Inv { s with world := e } ∧ C.Rely s { s with world := e }) ∧
      ∀ t, C.Spares t s { s with world := e }

/-- A move that touches neither the data nor anybody's writes: session `t` may
have taken locks and changed what it keeps, and the world may have changed. -/
structure Quiet (t : Tid) (s s' : Store D K W E I) : Prop where
  db : s'.db = s.db
  writes : s'.writes = s.writes
  locks : ∃ ks : List (K × LockMode), s'.locks = ks.map (fun k => ⟨t, k.1, k.2⟩) ++ s.locks
  active : ∀ u, u ≠ t → s'.active u = s.active u
  info : ∀ u, u ≠ t → s'.info u = s.info u

namespace Quiet

omit [DecidableEq K] [Database D K W] [LawfulDatabase D K W]

theorem refl (t : Tid) (s : Store D K W E I) : Quiet t s s :=
  ⟨rfl, rfl, ⟨[], rfl⟩, fun _ _ => rfl, fun _ _ => rfl⟩

theorem begin (t : Tid) (s : Store D K W E I) : Quiet t s (s.begin t) :=
  ⟨rfl, rfl, ⟨[], rfl⟩, fun _ hu => Function.update_of_ne hu _ _, fun _ _ => rfl⟩

theorem acquire (t : Tid) (s : Store D K W E I) (ks : List (K × LockMode)) :
    Quiet t s ((s.begin t).acquire t ks) :=
  ⟨rfl, rfl, ⟨ks, rfl⟩, fun _ hu => Function.update_of_ne hu _ _, fun _ _ => rfl⟩

theorem doom (t : Tid) (s : Store D K W E I) : Quiet t s (s.doom t) :=
  ⟨rfl, rfl, ⟨[], rfl⟩, fun _ _ => rfl, fun _ _ => rfl⟩

theorem world (t : Tid) (s : Store D K W E I) (e : E) : Quiet t s { s with world := e } :=
  ⟨rfl, rfl, ⟨[], rfl⟩, fun _ _ => rfl, fun _ _ => rfl⟩

theorem session (t : Tid) (s : Store D K W E I) (i : I) :
    Quiet t s { s with info := Function.update s.info t i } :=
  ⟨rfl, rfl, ⟨[], rfl⟩, fun _ _ => rfl, fun _ hu => Function.update_of_ne hu _ _⟩

theorem holds {t u : Tid} {s s' : Store D K W E I} (h : Quiet t s s') {k : K} {m : LockMode}
    (hk : s.Holds u k m) : s'.Holds u k m := by
  obtain ⟨ks, hlocks⟩ := h.locks
  simp only [Store.Holds, hlocks]
  exact List.mem_append_right _ hk

omit [DecidableEq K] in
theorem view [Database D K W] {t : Tid} {s s' : Store D K W E I} (h : Quiet t s s') (u : Tid) :
    s'.view u = s.view u := by
  simp only [Store.view, h.writes, h.db]

end Quiet

/-- A contract is sound when quiet moves of sessions, moves of the world, writes,
commits and rollbacks keep it. -/
theorem Contract.Sound.of_moves {C : Contract D K W E I X} {reg : Regime D K W E I X}
    (quiet : ∀ {t s s'}, Quiet t s s' → s'.world = s.world → C.Inv s → C.Inv s' ∧ C.Rely s s')
    (world : ∀ {e s}, C.Inv s → reg.outside e s = true →
      C.Inv { s with world := e } ∧ C.Rely s { s with world := e })
    (tell : ∀ {t act s}, C.Inv s → reg.stmt t (.tell act : Stmt D K W E I X Unit) s = true →
      C.Inv { s with world := act s.world } ∧ C.Rely s { s with world := act s.world })
    (write : ∀ {t w s}, s.Disciplined → C.Inv s → C.Obl t (.write w : Stmt D K W E I X Unit) s →
      reg.stmt t (.write w : Stmt D K W E I X Unit) s = true →
      (∀ km ∈ Database.needs D w, s.blocked t km.1 km.2 = false) →
        C.Inv (((s.begin t).acquire t (Database.needs D w)).record t w) ∧
          C.Rely s (((s.begin t).acquire t (Database.needs D w)).record t w))
    (commit : ∀ {t s}, s.Disciplined → C.Inv s → C.Obl t (.commit : Stmt D K W E I X Unit) s →
      reg.stmt t (.commit : Stmt D K W E I X Unit) s = true → s.doomed t = false →
        C.Inv ((s.publish t).finish t) ∧ C.Rely s ((s.publish t).finish t))
    (finish : ∀ {t s}, C.Inv s → C.Inv (s.finish t) ∧ C.Rely s (s.finish t))
    (idle : ∀ {t s s'}, Steady t s s' → s'.db = s.db → C.Spares t s s' := by intros; trivial)
    (spares : ∀ {t u s}, u ≠ t → s.Disciplined → C.Inv s →
      C.Obl u (.commit : Stmt D K W E I X Unit) s →
      reg.stmt u (.commit : Stmt D K W E I X Unit) s = true → s.doomed u = false →
        C.Spares t s ((s.publish u).finish u) := by intros; trivial)
    (allows : ∀ {α : Type} {c : Stmt D K W E I X α} {t s}, reg.stmt t c s = true →
      C.Allows t c s := by intros; trivial) :
    C.Sound reg where
  allows := allows
  outside {e s} hinv hreg := ⟨world hinv hreg, fun t => idle (.world s e) rfl⟩
  others {α c t u s r s'} hne hdis hinv hobl hreg hexec := by
    have hsteady : Steady t s s' := Stmt.exec_steady hexec hdis hne
    cases c with
    | commit =>
        simp only [Stmt.exec] at hexec
        split at hexec <;> simp only [Option.some.injEq, Prod.mk.injEq] at hexec
        · rw [← hexec.2] at hsteady ⊢
          exact idle hsteady rfl
        · next hd =>
            have hd : s.doomed u = false := by simpa using hd
            rw [← hexec.2]
            exact spares hne hdis hinv (hobl hd) hreg hd
    | _ =>
        refine idle hsteady ?_
        simp only [Stmt.exec] at hexec
        repeat' split at hexec
        all_goals simp only [Option.some.injEq, Prod.mk.injEq, reduceCtorEq] at hexec
        all_goals exact hexec.2 ▸ rfl
  stmt {α c t s r s'} hdis hinv hobl hreg hexec := by
    cases c with
    | write w =>
        simp only [Stmt.exec] at hexec
        repeat' split at hexec
        all_goals simp only [Option.some.injEq, Prod.mk.injEq, reduceCtorEq] at hexec
        · exact hexec.2 ▸ quiet (.refl t s) rfl hinv
        · next hd hfree =>
            rw [← hexec.2]
            refine write hdis hinv (hobl (by simpa using hd)) hreg fun km hkm => ?_
            simp only [Bool.not_eq_true, List.any_eq_false] at hfree
            simpa using hfree km hkm
    | commit =>
        simp only [Stmt.exec] at hexec
        split at hexec <;> simp only [Option.some.injEq, Prod.mk.injEq] at hexec <;>
          rw [← hexec.2]
        · exact finish hinv
        · next hd =>
            have hd : s.doomed t = false := by simpa using hd
            exact commit hdis hinv (hobl hd) hreg hd
    | rollback =>
        simp only [Stmt.exec, Option.some.injEq, Prod.mk.injEq] at hexec
        exact hexec.2 ▸ finish hinv
    | tell act =>
        simp only [Stmt.exec, Option.some.injEq, Prod.mk.injEq] at hexec
        exact hexec.2 ▸ tell hinv hreg
    | select | lock | tryLock | enter | reject | sense | session =>
        simp only [Stmt.exec] at hexec
        repeat' split at hexec
        all_goals simp only [Option.some.injEq, Prod.mk.injEq, reduceCtorEq] at hexec
        all_goals rw [← hexec.2]
        all_goals first
          | exact quiet (.refl t s) rfl hinv
          | exact quiet (.begin t s) rfl hinv
          | exact quiet (.acquire t s _) rfl hinv
          | exact quiet (.doom t s) rfl hinv
          | exact quiet (.session t s _) rfl hinv

/-- The same where moves of the world do not matter. -/
theorem Contract.Sound.of_steps {C : Contract D K W E I X} {reg : Regime D K W E I X}
    (quiet : ∀ {t s s'}, Quiet t s s' → C.Inv s → C.Inv s' ∧ C.Rely s s')
    (write : ∀ {t w s}, s.Disciplined → C.Inv s → C.Obl t (.write w : Stmt D K W E I X Unit) s →
      reg.stmt t (.write w : Stmt D K W E I X Unit) s = true →
      (∀ km ∈ Database.needs D w, s.blocked t km.1 km.2 = false) →
        C.Inv (((s.begin t).acquire t (Database.needs D w)).record t w) ∧
          C.Rely s (((s.begin t).acquire t (Database.needs D w)).record t w))
    (commit : ∀ {t s}, s.Disciplined → C.Inv s → C.Obl t (.commit : Stmt D K W E I X Unit) s →
      reg.stmt t (.commit : Stmt D K W E I X Unit) s = true → s.doomed t = false →
        C.Inv ((s.publish t).finish t) ∧ C.Rely s ((s.publish t).finish t))
    (finish : ∀ {t s}, C.Inv s → C.Inv (s.finish t) ∧ C.Rely s (s.finish t))
    (idle : ∀ {t s s'}, Steady t s s' → s'.db = s.db → C.Spares t s s' := by intros; trivial)
    (spares : ∀ {t u s}, u ≠ t → s.Disciplined → C.Inv s →
      C.Obl u (.commit : Stmt D K W E I X Unit) s →
      reg.stmt u (.commit : Stmt D K W E I X Unit) s = true → s.doomed u = false →
        C.Spares t s ((s.publish u).finish u) := by intros; trivial)
    (allows : ∀ {α : Type} {c : Stmt D K W E I X α} {t s}, reg.stmt t c s = true →
      C.Allows t c s := by intros; trivial) :
    C.Sound reg :=
  .of_moves (fun hq _ hinv => quiet hq hinv) (fun hinv _ => quiet (.world 0 _ _) hinv)
    (fun hinv _ => quiet (.world 0 _ _) hinv) write commit finish idle spares allows

namespace Pool

/-- Every session of the pool meets the contract from here on. -/
structure Keeps (C : Contract D K W E I X) (Q : Tid → Store D K W E I → Prop)
    (R : Tid → X → Store D K W E I → Prop) (p : Pool D K W E I X) : Prop where
  calm : Calm C p.store
  meets : ∀ t, Meets C t (p.progs t) (fun _ => Q t) (R t) p.store

variable {C : Contract D K W E I X} {reg : Regime D K W E I X}
  {Q : Tid → Store D K W E I → Prop} {R : Tid → X → Store D K W E I → Prop}
  {p q : Pool D K W E I X}

/-- A session owes its obligation at the statement it has come to. -/
theorem Keeps.obl (h : Keeps C Q R p) {t : Tid} {c : Stmt D K W E I X β}
    {k : Except X β → Prog D K W E I X Unit} (hprog : p.progs t = .stmt c k)
    (hallow : C.Allows t c p.store) (hd : p.store.doomed t = false) : C.Obl t c p.store := by
  have hm := h.meets t
  rw [hprog] at hm
  exact (hm p.store (.refl C t p.store) h.calm hallow).1 hd

theorem Keeps.next (hsound : C.Sound reg) (hQ : ∀ t, Stable C t (Q t))
    (hR : ∀ t e, Stable C t (R t e)) (h : Keeps C Q R p) {ev : Event E}
    (hallow : p.admits reg ev = true) (hnext : p.next ev = some q) :
    Keeps C Q R q ∧ C.Rely p.store q.store := by
  cases ev with
  | outside e =>
      simp only [Pool.next, Option.some.injEq] at hnext
      subst hnext
      obtain ⟨⟨hinv, hrely⟩, hspares⟩ := hsound.outside h.calm.inv hallow
      refine ⟨⟨⟨h.calm.disciplined.of_same rfl rfl, hinv⟩, fun t => ?_⟩, hrely⟩
      exact (h.meets t).between (fun _ => hQ t) (hR t) ⟨.world _ _, hrely, hspares t⟩
  | run t =>
      simp only [Pool.next] at hnext
      split at hnext
      · next c k hprog =>
          split at hnext
          · next r s' hexec =>
              simp only [Option.some.injEq] at hnext
              subst hnext
              have hreg : reg.stmt t c p.store = true := by
                simpa only [admits, hprog] using hallow
              have hallowed := hsound.allows hreg
              obtain ⟨hinv, hrely⟩ :=
                hsound.stmt h.calm.disciplined h.calm.inv (h.obl hprog hallowed) hreg hexec
              refine ⟨⟨⟨Stmt.exec_disciplined hexec h.calm.disciplined, hinv⟩, fun u => ?_⟩,
                hrely⟩
              by_cases hu : u = t
              · subst hu
                have hm := h.meets u
                rw [hprog] at hm
                simpa using (hm p.store (.refl C u p.store) h.calm hallowed).2 r s' hexec
              · have hsteady : Steady u p.store s' :=
                  Stmt.exec_steady hexec h.calm.disciplined (Ne.symm hu)
                have hspares : C.Spares u p.store s' := hsound.others (Ne.symm hu)
                  h.calm.disciplined h.calm.inv (h.obl hprog hallowed) hreg hexec
                simpa [Function.update_of_ne hu] using
                  (h.meets u).between (fun _ => hQ u) (hR u) ⟨hsteady, hrely, hspares⟩
          · simp at hnext
      · simp at hnext

/-- Programs that meet a sound contract keep it in every run, and the run moves
the store as the contract says. -/
theorem Keeps.run (hsound : C.Sound reg) (hQ : ∀ t, Stable C t (Q t))
    (hR : ∀ t e, Stable C t (R t e)) (h : Keeps C Q R p) (hrun : Run reg p q) :
    Keeps C Q R q ∧ C.Rely p.store q.store := by
  induction hrun with
  | refl => exact ⟨h, C.rely_refl _⟩
  | step ev _ hallow hnext ih =>
      obtain ⟨hkeeps, hrely⟩ := ih.1.next hsound hQ hR hallow hnext
      exact ⟨hkeeps, C.rely_trans ih.2 hrely⟩

/-- A pool that starts with all sessions idle. -/
theorem Keeps.start {d : D} {i : I} {e : E} {progs : Tid → Prog D K W E I X Unit}
    (hinv : C.Inv (.idle d i e))
    (hprogs : ∀ t, Triple C t (fun s => s = .idle d i e) (progs t) (fun _ => Q t) (R t)) :
    Keeps C Q (fun t x s => s.doomed t = true ∨ R t x s) ⟨.idle d i e, progs⟩ :=
  ⟨⟨.idle d i e, hinv⟩, fun t => hprogs t _ rfl⟩

end Pool

end MovieApi.ReadCommitted
