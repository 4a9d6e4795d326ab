import MovieApi.ReadCommitted.Pool

/-!
# What a session does for others to see

A watch turns some of a session's statements into signs and says which sequences
of signs are right.  What a session writes, keeps and decides depends on the
others only through the answers it gets, so its signs can be followed along its
program alone, whatever the answers.
-/

namespace MovieApi.ReadCommitted

variable {D K W E I X : Type} {α β : Type}

/-! ## A session's own part of the store -/

structure Own (W I : Type) where
  writes : List W
  info : I
  doomed : Bool

def Store.own (s : Store D K W E I) (t : Tid) : Own W I := ⟨s.writes t, s.info t, s.doomed t⟩

/-- The answers a statement can get from any data, and what it leaves. -/
def Stmt.May [Database D K W] [ServerError X] (c : Stmt D K W E I X α) (o : Own W I) (e : E)
    (r : Except X α) (o' : Own W I) : Prop :=
  match c with
  | .select query =>
      if o.doomed then r = .error ServerError.aborted ∧ o' = o
      else (∃ d, r = .ok (query (applyAll o.writes d))) ∧ o' = o
  | .lock _ _ =>
      if o.doomed then r = .error ServerError.aborted ∧ o' = o else r = .ok () ∧ o' = o
  | .tryLock _ _ =>
      if o.doomed then r = .error ServerError.aborted ∧ o' = o else (∃ b, r = .ok b) ∧ o' = o
  | .enter _ _ =>
      if o.doomed then r = .error ServerError.aborted ∧ o' = o else (∃ b, r = .ok b) ∧ o' = o
  | .write w =>
      if o.doomed then r = .error ServerError.aborted ∧ o' = o
      else r = .ok () ∧ o' = { o with writes := o.writes ++ [w] }
  | .reject error =>
      if o.doomed then r = .error ServerError.aborted ∧ o' = o
      else r = .error error ∧ o' = { o with doomed := true }
  | .commit => r = .ok () ∧ o' = { o with writes := [], doomed := false }
  | .rollback => r = .ok () ∧ o' = { o with writes := [], doomed := false }
  | .sense read => r = .ok (read e) ∧ o' = o
  | .tell _ => r = .ok () ∧ o' = o
  | .session step => r = .ok (step o.info).1 ∧ o' = { o with info := (step o.info).2 }

section

variable [DecidableEq K] [Database D K W] [ServerError X] {t u : Tid} {s s' : Store D K W E I}
  {c : Stmt D K W E I X α} {r : Except X α}

theorem Stmt.may_of_exec (h : c.exec t s = some (r, s')) :
    c.May (s.own t) s.world r (s'.own t) := by
  cases c with
  | select query =>
      simp only [Stmt.exec] at h
      simp only [Stmt.May, Store.own]
      split at h
      all_goals simp only [Option.some.injEq, Prod.mk.injEq] at h
      all_goals obtain ⟨rfl, rfl⟩ := h
      · next hd => simp [hd]
      · next hd =>
          simp only [hd, Bool.false_eq_true, if_false]
          exact ⟨⟨s.db, rfl⟩, by simp [hd]⟩
  | lock | tryLock | enter | write | reject | commit | rollback | sense | tell | session =>
      simp only [Stmt.exec] at h
      simp only [Stmt.May, Store.own]
      repeat' split at h
      all_goals simp only [Option.some.injEq, Prod.mk.injEq, reduceCtorEq] at h
      all_goals obtain ⟨rfl, rfl⟩ := h
      all_goals simp_all

theorem Stmt.own_of_exec (h : c.exec t s = some (r, s')) (hu : u ≠ t) : s'.own u = s.own u := by
  cases c with
  | select | lock | tryLock | enter | write | reject | commit | rollback | sense | tell | session =>
      simp only [Stmt.exec] at h
      repeat' split at h
      all_goals simp only [Option.some.injEq, Prod.mk.injEq, reduceCtorEq] at h
      all_goals obtain ⟨rfl, rfl⟩ := h
      all_goals simp [Store.own, Store.begin, Store.acquire, Store.record, Store.doom,
        Store.finish, Store.publish, Function.update_of_ne hu]

end

/-! ## Watches -/

/-- The signs of statements, and the states they lead a watcher through. -/
structure Watch (D K W E I X O G : Type) where
  sign : {α : Type} → Stmt D K W E I X α → Own W I → E → Option O
  next : G → O → G → Prop

variable {O G : Type}

/-- The watcher's move at a statement. -/
def Watch.Moves (A : Watch D K W E I X O G) (g : G) (c : Stmt D K W E I X α) (o : Own W I) (e : E)
    (g' : G) : Prop :=
  match A.sign c o e with
  | none => g' = g
  | some x => A.next g x g'

/-- Which statements a session may issue in which state of its own. -/
abbrev Permit (D K W E I X : Type) := {α : Type} → Stmt D K W E I X α → Own W I → Prop

/-- Whatever the answers, the watcher can follow the program, which ends with
`Q` or, raising, with `R`. -/
def Follows [Database D K W] [ServerError X] (A : Watch D K W E I X O G)
    (permit : Permit D K W E I X) : Prog D K W E I X α → (α → Own W I → G → Prop) →
      (X → Own W I → G → Prop) → Own W I → G → Prop
  | .ret a, Q, _, o, g => Q a o g
  | .raise e, _, R, o, g => R e o g
  | .stmt c k, Q, R, o, g =>
      permit c o → ∀ e r o', c.May o e r o' → ∃ g', A.Moves g c o e g' ∧ Follows A permit (k r) Q R o' g'

section

variable [Database D K W] [ServerError X] {A : Watch D K W E I X O G}
  {permit : Permit D K W E I X} {p : Prog D K W E I X α}
  {Q Q' : α → Own W I → G → Prop} {R R' : X → Own W I → G → Prop} {o : Own W I} {g : G}

theorem Follows.mono (h : Follows A permit p Q R o g) (hQ : ∀ a o g, Q a o g → Q' a o g)
    (hR : ∀ e o g, R e o g → R' e o g) : Follows A permit p Q' R' o g := by
  induction p generalizing o g with
  | ret a => exact hQ _ _ _ h
  | raise e => exact hR _ _ _ h
  | stmt c k ih =>
      intro hpermit e r o' hmay
      obtain ⟨g', hmove, hk⟩ := h hpermit e r o' hmay
      exact ⟨g', hmove, ih r hk⟩

theorem Follows.of_ended {S : Own W I → G → Prop} (hended : p.ended = true)
    (h : Follows A permit p (fun _ => S) (fun _ => S) o g) : S o g := by
  cases p with
  | ret a => exact h
  | raise e => exact h
  | stmt c k => simp [Prog.ended] at hended

theorem Follows.bind {f : α → Prog D K W E I X β} {Q' : β → Own W I → G → Prop}
    (h : Follows A permit p Q R o g) (hf : ∀ a o g, Q a o g → Follows A permit (f a) Q' R o g) :
    Follows A permit (p.bind f) Q' R o g := by
  induction p generalizing o g with
  | ret a => exact hf a o g h
  | raise e => exact h
  | stmt c k ih =>
      intro hpermit e r o' hmay
      obtain ⟨g', hmove, hk⟩ := h hpermit e r o' hmay
      exact ⟨g', hmove, ih r hk⟩

theorem Follows.tryCatch {handler : X → Prog D K W E I X α} {M : X → Own W I → G → Prop}
    (h : Follows A permit p Q M o g)
    (hh : ∀ e o g, M e o g → Follows A permit (handler e) Q R o g) :
    Follows A permit (p.tryCatch handler) Q R o g := by
  induction p generalizing o g with
  | ret a => exact h
  | raise e => exact hh e o g h
  | stmt c k ih =>
      intro hpermit e r o' hmay
      obtain ⟨g', hmove, hk⟩ := h hpermit e r o' hmay
      exact ⟨g', hmove, ih r hk⟩

end

/-! ## Watched triples -/

/-- A program started where `P` holds can be followed to `Q`; an exception
leaves `R`. -/
def Watched [Database D K W] [ServerError X] (A : Watch D K W E I X O G)
    (permit : Permit D K W E I X) (P : Own W I → G → Prop) (p : Prog D K W E I X α)
    (Q : α → Own W I → G → Prop) (R : X → Own W I → G → Prop) : Prop :=
  ∀ o g, P o g → Follows A permit p Q R o g

namespace Watched

variable [Database D K W] [ServerError X] {A : Watch D K W E I X O G}
  {permit : Permit D K W E I X} {p : Prog D K W E I X α} {P P' : Own W I → G → Prop}
  {Q Q' : α → Own W I → G → Prop} {R R' : X → Own W I → G → Prop}

theorem conseq (h : Watched A permit P p Q R) (hP : ∀ o g, P' o g → P o g)
    (hQ : ∀ a o g, Q a o g → Q' a o g) (hR : ∀ e o g, R e o g → R' e o g) :
    Watched A permit P' p Q' R' :=
  fun o g hs => (h o g (hP o g hs)).mono hQ hR

theorem pre (h : Watched A permit P p Q R) (hP : ∀ o g, P' o g → P o g) :
    Watched A permit P' p Q R :=
  h.conseq hP (fun _ _ _ => id) fun _ _ _ => id

theorem post (h : Watched A permit P p Q R) (hQ : ∀ a o g, Q a o g → Q' a o g) :
    Watched A permit P p Q' R :=
  h.conseq (fun _ _ => id) hQ fun _ _ _ => id

theorem given {φ : Prop} (hφ : ∀ o g, P o g → φ) (h : φ → Watched A permit P p Q R) :
    Watched A permit P p Q R :=
  fun o g hs => h (hφ o g hs) o g hs

theorem ret {a : α} (h : ∀ o g, P o g → Q a o g) : Watched A permit P (.ret a) Q R := h

theorem raise {e : X} (h : ∀ o g, P o g → R e o g) : Watched A permit P (.raise e) Q R := h

theorem bind {f : α → Prog D K W E I X β} {Q' : β → Own W I → G → Prop}
    (h : Watched A permit P p Q R) (hf : ∀ a, Watched A permit (Q a) (f a) Q' R) :
    Watched A permit P (p >>= f) Q' R :=
  fun o g hs => (h o g hs).bind fun a => hf a

theorem tryCatch {handler : X → Prog D K W E I X α} {M : X → Own W I → G → Prop}
    (h : Watched A permit P p Q M) (hh : ∀ e, Watched A permit (M e) (handler e) Q R) :
    Watched A permit P (p.tryCatch handler) Q R :=
  fun o g hs => (h o g hs).tryCatch fun e => hh e

theorem forEach {bs : List β} {body : β → Prog D K W E I X Unit}
    (h : ∀ b ∈ bs, Watched A permit P (body b) (fun _ => P) R) :
    Watched A permit P (Prog.forEach bs body) (fun _ => P) R := by
  induction bs with
  | nil => exact ret fun _ _ hs => hs
  | cons b bs ih =>
      exact (h b (by simp)).bind fun _ => ih fun b' hb' => h b' (by simp [hb'])

/-- One statement. -/
theorem perform {c : Stmt D K W E I X α}
    (h : ∀ o g e r o', P o g → permit c o → c.May o e r o' → ∃ g', A.Moves g c o e g' ∧
      match r with
      | .ok a => Q a o' g'
      | .error x => R x o' g') : Watched A permit P (.perform c) Q R := by
  intro o g hs hpermit e r o' hmay
  obtain ⟨g', hmove, hr⟩ := h o g e r o' hs hpermit hmay
  refine ⟨g', hmove, ?_⟩
  cases r with
  | ok a => exact hr
  | error x => exact hr

/-- What every statement of a program keeps, the program keeps. -/
theorem every {ok : ∀ {α : Type}, Stmt D K W E I X α → Prop}
    (h : ∀ {γ : Type} (c : Stmt D K W E I X γ), ok c → ∀ o g e r o', P o g → permit c o →
      c.May o e r o' → A.Moves g c o e g ∧ P o' g) (hp : p.Every ok) :
    Watched A permit P p (fun _ => P) fun _ => P := by
  intro o g hs
  induction p generalizing o with
  | ret a => exact hs
  | raise e => exact hs
  | stmt c k ih =>
      intro hpermit e r o' hmay
      obtain ⟨hmove, hkeep⟩ := h c hp.1 o g e r o' hs hpermit hmay
      refine ⟨g, hmove, ?_⟩
      cases r with
      | ok a => exact ih (.ok a) (hp.2.2 a) o' hkeep
      | error x =>
          rw [hp.2.1 x]
          exact hkeep

end Watched

/-! ## Watched runs -/

/-- The sequences of signs that lead a watcher from `g` on. -/
inductive Watch.Accepts (A : Watch D K W E I X O G) (g : G) : List O → G → Prop
  | nil : Accepts A g [] g
  | snoc {xs : List O} {g' g'' : G} {x : O} (h : Accepts A g xs g') (hx : A.next g' x g'') :
      Accepts A g (xs ++ [x]) g''

/-- The sign of a step of the pool, and whose it is. -/
def Pool.sign (A : Watch D K W E I X O G) (p : Pool D K W E I X) : Event E → List (Tid × O)
  | .run t =>
      match p.progs t with
      | .stmt c _ => ((A.sign c (p.store.own t) p.store.world).map fun x => (t, x)).toList
      | _ => []
  | .outside _ => []

/-- A run, with the signs it gives. -/
inductive Pool.Trace [DecidableEq K] [Database D K W] [ServerError X] (A : Watch D K W E I X O G)
    (reg : Regime D K W E I X) (p : Pool D K W E I X) :
    List (Tid × O) → Pool D K W E I X → Prop
  | refl : Trace A reg p [] p
  | step {xs : List (Tid × O)} {q r : Pool D K W E I X} (ev : Event E) (h : Trace A reg p xs q)
      (hadmits : q.admits reg ev = true) (hnext : q.next ev = some r) :
      Trace A reg p (xs ++ q.sign A ev) r

/-- Run a schedule and note its signs. -/
def Pool.observe [DecidableEq K] [Database D K W] [ServerError X] (A : Watch D K W E I X O G)
    (reg : Regime D K W E I X) (p : Pool D K W E I X) :
    List (Event E) → Option (List (Tid × O) × Pool D K W E I X)
  | [] => some ([], p)
  | ev :: evs =>
      if p.admits reg ev then
        (p.next ev).bind fun q => (q.observe A reg evs).map fun (xs, r) => (p.sign A ev ++ xs, r)
      else none

/-- The signs of one session. -/
def signsOf (t : Tid) (xs : List (Tid × O)) : List O :=
  xs.filterMap fun x => if x.1 = t then some x.2 else none

@[simp] theorem signsOf_append (t : Tid) (xs ys : List (Tid × O)) :
    signsOf t (xs ++ ys) = signsOf t xs ++ signsOf t ys :=
  List.filterMap_append

section

variable [DecidableEq K] [Database D K W] [ServerError X] {A : Watch D K W E I X O G}
  {reg : Regime D K W E I X} {π : Tid → Permit D K W E I X} {p q : Pool D K W E I X}
  {xs : List (Tid × O)} {Q : Tid → Own W I → G → Prop} {R : Tid → X → Own W I → G → Prop}

theorem Pool.Trace.trans {r : Pool D K W E I X} {ys : List (Tid × O)}
    (h : Pool.Trace A reg p xs q) (h' : Pool.Trace A reg q ys r) :
    Pool.Trace A reg p (xs ++ ys) r := by
  induction h' with
  | refl => simpa using h
  | step ev _ hadmits hnext ih =>
      rw [← List.append_assoc]
      exact .step ev ih hadmits hnext

theorem Pool.trace_of_observe {evs : List (Event E)} (h : p.observe A reg evs = some (xs, q)) :
    Pool.Trace A reg p xs q := by
  induction evs generalizing p xs with
  | nil =>
      simp only [Pool.observe, Option.some.injEq, Prod.mk.injEq] at h
      obtain ⟨rfl, rfl⟩ := h
      exact .refl
  | cons ev evs ih =>
      simp only [Pool.observe] at h
      split at h
      · next hadmits =>
          obtain ⟨p', hnext, hobserve⟩ := Option.bind_eq_some_iff.1 h
          obtain ⟨⟨ys, r⟩, hrest, heq⟩ := Option.map_eq_some_iff.1 hobserve
          simp only [Prod.mk.injEq] at heq
          obtain ⟨rfl, rfl⟩ := heq
          have hfirst := Pool.Trace.step ev (.refl (A := A)) hadmits hnext
          rw [List.nil_append] at hfirst
          exact hfirst.trans (ih hrest)
      · simp at h

theorem Pool.exists_trace_of_observe {evs : List (Event E)}
    {f : List (Tid × O) × Pool D K W E I X → Bool}
    (h : (p.observe A reg evs).any f = true) :
    ∃ xs q, Pool.Trace A reg p xs q ∧ f (xs, q) = true := by
  cases hobserve : p.observe A reg evs with
  | none => simp [hobserve] at h
  | some r => exact ⟨r.1, r.2, Pool.trace_of_observe hobserve, by simpa [hobserve] using h⟩

/-- The watcher of every session keeps up with it. -/
theorem Pool.Trace.follows {g₀ : G}
    (hreg : ∀ {t} {α : Type} {c : Stmt D K W E I X α} {s : Store D K W E I},
      reg.stmt t c s = true → π t c (s.own t))
    (hstart : ∀ t, Follows A (π t) (p.progs t) (fun _ => Q t) (R t) (p.store.own t) g₀)
    (h : Pool.Trace A reg p xs q) (t : Tid) :
    ∃ g, A.Accepts g₀ (signsOf t xs) g ∧
      Follows A (π t) (q.progs t) (fun _ => Q t) (R t) (q.store.own t) g := by
  induction h with
  | refl => exact ⟨g₀, .nil, hstart t⟩
  | @step xs q r ev _ hadmits hnext ih =>
      obtain ⟨g, haccepts, hfollows⟩ := ih
      cases ev with
      | outside e =>
          simp only [Pool.next, Option.some.injEq] at hnext
          subst hnext
          exact ⟨g, by simpa [Pool.sign] using haccepts, hfollows⟩
      | run u =>
          simp only [Pool.next] at hnext
          split at hnext
          · next c k hprog =>
              split at hnext
              · next answer s' hexec =>
                  simp only [Option.some.injEq] at hnext
                  subst hnext
                  by_cases hu : u = t
                  · subst hu
                    have hstmt : reg.stmt u c q.store = true := by
                      simpa only [Pool.admits, hprog] using hadmits
                    rw [hprog] at hfollows
                    obtain ⟨g', hmove, hk⟩ := hfollows (hreg hstmt) q.store.world answer
                      (s'.own u) (Stmt.may_of_exec hexec)
                    refine ⟨g', ?_, by simpa using hk⟩
                    unfold Watch.Moves at hmove
                    simp only [Pool.sign, hprog, signsOf_append]
                    cases hsign : A.sign c (q.store.own u) q.store.world with
                    | none =>
                        rw [hsign] at hmove
                        obtain rfl := hmove
                        simpa [signsOf] using haccepts
                    | some x =>
                        rw [hsign] at hmove
                        simpa [signsOf] using haccepts.snoc hmove
                  · have hown := Stmt.own_of_exec hexec (Ne.symm hu)
                    refine ⟨g, ?_, ?_⟩
                    · have hother : signsOf t (q.sign A (.run u)) = [] := by
                        simp only [Pool.sign, hprog]
                        cases A.sign c (q.store.own u) q.store.world <;> simp [signsOf, hu]
                      simpa [hother] using haccepts
                    · simpa [Function.update_of_ne (Ne.symm hu), hown] using hfollows
              · simp at hnext
          · simp at hnext

end

end MovieApi.ReadCommitted
