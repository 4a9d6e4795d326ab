import MovieApi.ReadCommitted.Carried
import MovieApi.ReadCommitted.Observed

/-!
# The commits of a run

The committed data of a run is what its commits have published, in order.  Every
one of them was owed to a contract, at a store with the data the earlier ones
left; and a session's own commits are followed along its program.
-/

namespace MovieApi.ReadCommitted

variable {D K W E I X : Type} {α : Type}

/-- What a commit publishes, and what its session keeps for itself. -/
structure Commit (W I : Type) where
  writes : List W
  info : I

/-- Watches for the commit of a session that makes one at most. -/
def commits : Watch D K W E I X (Commit W I) (Option (Commit W I)) where
  sign c o _ := match c with
    | .commit => if o.doomed then none else some ⟨o.writes, o.info⟩
    | _ => none
  next g x g' := g = none ∧ g' = some x

/-- The data after commits. -/
def publishAll [Database D K W] (xs : List (Tid × Commit W I)) (d : D) : D :=
  xs.foldl (fun d x => applyAll x.2.writes d) d

@[simp] theorem publishAll_nil [Database D K W] (d : D) :
    publishAll ([] : List (Tid × Commit W I)) d = d := rfl

@[simp] theorem publishAll_snoc [Database D K W] (xs : List (Tid × Commit W I))
    (x : Tid × Commit W I) (d : D) :
    publishAll (xs ++ [x]) d = applyAll x.2.writes (publishAll xs d) := by
  simp [publishAll, List.foldl_append]

/-! ## One session's commits -/

theorem accepts_commits {xs : List (Commit W I)} {g : Option (Commit W I)}
    (h : (commits : Watch D K W E I X _ _).Accepts none xs g) : xs = g.toList := by
  induction h with
  | nil => rfl
  | snoc _ hx ih =>
      obtain ⟨rfl, rfl⟩ := hx
      rw [ih]
      rfl

theorem mem_signsOf {O : Type} {t : Tid} {x : O} {xs : List (Tid × O)} :
    x ∈ signsOf t xs ↔ (t, x) ∈ xs := by
  simp only [signsOf, List.mem_filterMap]
  constructor
  · rintro ⟨⟨u, y⟩, hmem, hy⟩
    split at hy
    · next hu =>
        obtain rfl : y = x := Option.some.inj hy
        exact hu ▸ hmem
    · cases hy
  · exact fun hmem => ⟨(t, x), hmem, if_pos rfl⟩

theorem commits_moves {N : W → Prop} {c : Stmt D K W E I X α} (hc : c.Inside N)
    (g : Option (Commit W I)) (o : Own W I) (e : E) : commits.Moves g c o e g := by
  cases c with
  | commit => exact hc.elim
  | _ => rfl

section

variable [Database D K W] [ServerError X] {permit : Permit D K W E I X} {N : W → Prop}
  {p : Prog D K W E I X α}

/-- Inside a transaction a session publishes nothing and keeps its notes. -/
theorem Watched.inside (φ : I → Prop) (hp : p.Every (Stmt.Inside N)) :
    Watched commits permit (fun o g => g = none ∧ φ o.info) p
      (fun _ o g => g = none ∧ φ o.info) fun _ _ g => g = none := by
  refine (Watched.every (P := fun o g => g = none ∧ φ o.info)
    (fun c hc o g e r o' hs _ hmay => ⟨commits_moves hc g o e, hs.1, ?_⟩) hp).conseq
      (fun _ _ => id) (fun _ _ _ => id) fun _ _ _ hs => hs.1
  have hinfo : o'.info = o.info := by
    cases c with
    | tell | session | commit | rollback => exact hc.elim
    | sense => rw [hmay.2]
    | select | lock | tryLock | enter | write | reject =>
        simp only [Stmt.May] at hmay
        split at hmay <;> simp_all
  rw [hinfo]
  exact hs.2

/-- A session notes something before its commit. -/
theorem Watched.note {φ ψ : I → Prop} {step : I → α × I} (h : ∀ i, φ i → ψ (step i).2) :
    Watched commits permit (fun o g => g = none ∧ φ o.info) (Prog.session step)
      (fun _ o g => g = none ∧ ψ o.info) fun _ _ g => g = none := by
  refine .perform fun o g e r o' hs _ hmay => ⟨g, rfl, ?_⟩
  obtain ⟨rfl, rfl⟩ := hmay
  exact ⟨hs.1, h o.info hs.2⟩

/-- The one commit of a live transaction. -/
theorem Watched.commit {φ : I → Prop} :
    Watched commits permit (fun o g => o.doomed = false ∧ g = none ∧ φ o.info) Prog.commit
      (fun _ o g => ∃ x, g = some x ∧ x.info = o.info) fun _ _ g => g = none := by
  refine .perform fun o g e r o' hs _ hmay => ?_
  obtain ⟨hd, rfl, -⟩ := hs
  obtain ⟨rfl, rfl⟩ := hmay
  exact ⟨some ⟨o.writes, o.info⟩, by simp [Watch.Moves, commits, hd], ⟨_, rfl, rfl⟩⟩

/-- A write that is answered was made in a live transaction. -/
theorem Watched.write {φ : I → Prop} {w : W} :
    Watched commits permit (fun o g => g = none ∧ φ o.info) (Prog.write w)
      (fun _ o g => o.doomed = false ∧ g = none ∧ φ o.info) fun _ _ g => g = none := by
  refine .perform fun o g e r o' hs _ hmay => ⟨g, rfl, ?_⟩
  simp only [Stmt.May] at hmay
  split at hmay
  · obtain ⟨rfl, rfl⟩ := hmay
    exact hs.1
  · next hd =>
      obtain ⟨rfl, rfl⟩ := hmay
      exact ⟨by simpa using hd, hs⟩

end

/-! ## All commits -/

section

variable [DecidableEq K] [Database D K W] [ServerError X] {O G : Type}
  {A : Watch D K W E I X O G} {reg : Regime D K W E I X} {p q : Pool D K W E I X}
  {xs : List (Tid × Commit W I)}

theorem Pool.Trace.run {ys : List (Tid × O)} (h : Pool.Trace A reg p ys q) : Pool.Run reg p q := by
  induction h with
  | refl => exact .refl
  | step ev _ hadmits hnext ih => exact .step ev ih hadmits hnext

/-- One step of the pool commits for one session, or changes no data. -/
theorem Pool.commits_next {ev : Event E} {r : Pool D K W E I X} (h : q.next ev = some r) :
    (q.sign commits ev = [] ∧ r.store.db = q.store.db) ∨
      ∃ t k, q.progs t = .stmt .commit k ∧ ev = .run t ∧ q.store.doomed t = false ∧
        q.sign commits ev = [(t, ⟨q.store.writes t, q.store.info t⟩)] ∧
          r.store.db = q.store.view t := by
  cases ev with
  | outside e =>
      simp only [Pool.next, Option.some.injEq] at h
      exact .inl ⟨rfl, h ▸ rfl⟩
  | run t =>
      simp only [Pool.next] at h
      split at h
      · next c k hprog =>
          split at h
          · next answer s' hexec =>
              simp only [Option.some.injEq] at h
              subst h
              simp only [Pool.sign, hprog]
              cases c <;> simp only [Stmt.exec] at hexec
              case commit =>
                split at hexec <;> simp only [Option.some.injEq, Prod.mk.injEq] at hexec
                · next hd => exact .inl ⟨by simp [commits, Store.own, hd], hexec.2 ▸ rfl⟩
                · next hd =>
                    have hd : q.store.doomed t = false := by simpa using hd
                    exact .inr ⟨t, k, hprog, rfl, hd, by simp [commits, Store.own, hd],
                      hexec.2 ▸ rfl⟩
              all_goals
                left
                refine ⟨rfl, ?_⟩
                repeat' split at hexec
                all_goals simp only [Option.some.injEq, Prod.mk.injEq, reduceCtorEq] at hexec
                all_goals exact hexec.2 ▸ rfl
          · simp at h
      · simp at h

theorem Pool.Trace.committed (h : Pool.Trace commits reg p xs q) :
    q.store.db = publishAll xs p.store.db := by
  induction h with
  | refl => rfl
  | step ev _ _ hnext ih =>
      rcases Pool.commits_next hnext with ⟨hsign, hdb⟩ | ⟨t, k, -, -, -, hsign, hdb⟩
      · rw [hsign, hdb, List.append_nil, ih]
      · rw [hsign, hdb, publishAll_snoc, ← ih]
        rfl

variable [LawfulDatabase D K W]

/-- Commits, each owed to the contract with the data the earlier ones left. -/
inductive Owed (C : Contract D K W E I X) (d : D) : List (Tid × Commit W I) → Prop
  | nil : Owed C d []
  | snoc {ys : List (Tid × Commit W I)} {t : Tid} (s : Store D K W E I) (h : Owed C d ys)
      (hdb : s.db = publishAll ys d) (hobl : C.Obl t (.commit : Stmt D K W E I X Unit) s) :
      Owed C d (ys ++ [(t, ⟨s.writes t, s.info t⟩)])

theorem Pool.Trace.owed {C : Contract D K W E I X} {Q : Tid → Store D K W E I → Prop}
    {R : Tid → X → Store D K W E I → Prop} (hsound : C.Sound reg) (hQ : ∀ t, Stable C t (Q t))
    (hR : ∀ t e, Stable C t (R t e)) (hkeeps : Keeps C Q R p)
    (h : Pool.Trace commits reg p xs q) : Owed C p.store.db xs := by
  induction h with
  | refl => exact .nil
  | @step ys q r ev htrace hadmits hnext ih =>
      rcases Pool.commits_next hnext with ⟨hsign, -⟩ | ⟨t, k, hprog, rfl, hd, hsign, -⟩
      · rw [hsign, List.append_nil]
        exact ih
      · have hrun := (hkeeps.run hsound hQ hR htrace.run).1
        have hreg : reg.stmt t (.commit : Stmt D K W E I X Unit) q.store = true := by
          simpa only [Pool.admits, hprog] using hadmits
        rw [hsign]
        exact .snoc q.store ih htrace.committed (hrun.obl hprog (hsound.allows hreg) hd)

omit [DecidableEq K] [ServerError X] [LawfulDatabase D K W] in
/-- Every commit was owed when it was made. -/
theorem Owed.of_split {C : Contract D K W E I X} {d : D} (h : Owed C d xs)
    {ys zs : List (Tid × Commit W I)} {t : Tid} {x : Commit W I} (hxs : xs = ys ++ (t, x) :: zs) :
    ∃ s : Store D K W E I, s.db = publishAll ys d ∧ s.view t = publishAll (ys ++ [(t, x)]) d ∧
      C.Obl t (.commit : Stmt D K W E I X Unit) s := by
  induction h generalizing zs with
  | nil => simp at hxs
  | @snoc front u s hfront hdb hobl ih =>
      rcases zs.eq_nil_or_concat with rfl | ⟨zs', z, rfl⟩
      · obtain ⟨rfl, hlast⟩ := List.append_inj' hxs rfl
        obtain ⟨rfl, rfl⟩ := Prod.mk.inj (List.head_eq_of_cons_eq hlast)
        refine ⟨s, hdb, ?_, hobl⟩
        rw [publishAll_snoc, ← hdb]
        rfl
      · have hsplit : front ++ [(u, ⟨s.writes u, s.info u⟩)] = (ys ++ (t, x) :: zs') ++ [z] := by
          simpa using hxs
        exact ih (List.append_inj' hsplit rfl).1

end

end MovieApi.ReadCommitted
