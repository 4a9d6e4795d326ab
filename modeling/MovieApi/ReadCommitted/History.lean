import MovieApi.ReadCommitted.Commits

/-!
# Histories of changes

A component whose commits are changes of a few kinds: each publishes the writes of one
change, found the data the change needs, and was asked for by the request of its
session.  The commits of every run are then a history of such changes.
-/

namespace MovieApi.ReadCommitted

variable {D K W E I X Γ : Type}

/-- Kinds of change: what they write, what they find in the data, which sessions may
make them, and what such a session has noted. -/
structure Changes (D W I Γ : Type) where
  writes : Γ → List W
  Enabled : Γ → D → Prop
  By : Tid → Γ → Prop
  Noted : Γ → I → Prop

section

variable [Database D K W] {S : Changes D W I Γ}

/-- The commits of a run as changes made one after the other. -/
inductive History (S : Changes D W I Γ) (d : D) :
    List (Tid × Commit W I) → List (Tid × Γ) → D → Prop
  | nil : History S d [] [] d
  | snoc {xs : List (Tid × Commit W I)} {log : List (Tid × Γ)} {d' : D} {t : Tid}
      {x : Commit W I} {change : Γ} (h : History S d xs log d') (henabled : S.Enabled change d')
      (hby : S.By t change) (hwrites : x.writes = S.writes change)
      (hnoted : S.Noted change x.info) :
      History S d (xs ++ [(t, x)]) (log ++ [(t, change)]) (applyAll (S.writes change) d')

variable {d d' : D} {xs : List (Tid × Commit W I)} {log : List (Tid × Γ)} {t : Tid}

/-- A change is what its session has committed. -/
theorem History.of_change (h : History S d xs log d') {change : Γ} (hmem : (t, change) ∈ log) :
    S.By t change ∧ ∃ x, (t, x) ∈ xs ∧ S.Noted change x.info := by
  induction h with
  | nil => cases hmem
  | @snoc xs log d' u x change' _ _ hby _ hnoted ih =>
      rcases List.mem_append.1 hmem with hold | hnew
      · obtain ⟨hby', y, hy, hnoted'⟩ := ih hold
        exact ⟨hby', y, List.mem_append_left _ hy, hnoted'⟩
      · obtain ⟨rfl, rfl⟩ := Prod.mk.inj (List.mem_singleton.1 hnew)
        exact ⟨hby, x, by simp, hnoted⟩

theorem History.of_commit (h : History S d xs log d') {x : Commit W I} (hmem : (t, x) ∈ xs) :
    ∃ change, (t, change) ∈ log ∧ S.By t change ∧ S.Noted change x.info := by
  induction h with
  | nil => cases hmem
  | @snoc xs log d' u y change _ _ hby _ hnoted ih =>
      rcases List.mem_append.1 hmem with hold | hnew
      · obtain ⟨change', hchange, hby', hnoted'⟩ := ih hold
        exact ⟨change', List.mem_append_left _ hchange, hby', hnoted'⟩
      · obtain ⟨rfl, rfl⟩ := Prod.mk.inj (List.mem_singleton.1 hnew)
        exact ⟨change, by simp, hby, hnoted⟩

end

/-! ## The contract of a component -/

section

variable (S : Changes D W I Γ)

/-- A commit makes one change. -/
def Changes.contract : Contract D K W E I X where
  Inv _ := True
  Obl t _ c s := match c with
    | .commit => ∃ change, s.writes t = S.writes change ∧ S.Enabled change s.db ∧
        S.By t change ∧ S.Noted change (s.info t)
    | _ => True
  Rely _ _ := True
  rely_refl _ := trivial
  rely_trans _ _ := trivial

variable {S}

theorem Changes.contract_easy : (S.contract : Contract D K W E I X).Easy fun _ => True := by
  intro β c hc t s
  cases c with
  | commit => exact hc.elim
  | _ => trivial

variable [Database D K W]

theorem Owed.history {d : D} {xs : List (Tid × Commit W I)}
    (h : Owed (S.contract : Contract D K W E I X) d xs) :
    ∃ log, History S d xs log (publishAll xs d) := by
  induction h with
  | nil => exact ⟨[], .nil⟩
  | @snoc ys t s _ hdb hobl ih =>
      obtain ⟨log, hlog⟩ := ih
      obtain ⟨change, hwrites, henabled, hby, hnoted⟩ := hobl
      rw [hdb] at henabled
      have hsnoc : History S d (ys ++ [(t, ⟨s.writes t, s.info t⟩)]) (log ++ [(t, change)])
          (applyAll (S.writes change) (publishAll ys d)) :=
        .snoc hlog henabled hby hwrites hnoted
      rw [← hwrites] at hsnoc
      exact ⟨_, by rwa [publishAll_snoc]⟩

variable [DecidableEq K] [ServerError X]

theorem Changes.contract_sound {reg : Regime D K W E I X} :
    (S.contract : Contract D K W E I X).Sound reg where
  allows _ := trivial
  stmt _ _ _ _ _ := ⟨trivial, trivial⟩
  others _ _ _ _ _ _ := trivial
  outside _ _ := ⟨⟨trivial, trivial⟩, fun _ => trivial⟩

variable [LawfulDatabase D K W]

/-- The commit of a program that has come to make a change. -/
theorem Changes.commit {t : Tid} {P : Store D K W E I → Prop}
    (hP : Stable (S.contract : Contract D K W E I X) t P)
    (h : ∀ s, P s → ∃ change, s.writes t = S.writes change ∧ S.Enabled change s.db ∧
      S.By t change ∧ S.Noted change (s.info t)) :
    Triple S.contract t P (Prog.commit : Prog D K W E I X Unit) (fun _ _ => True)
      fun _ _ => True :=
  .commit hP fun s _ hs => ⟨fun _ => trivial, fun _ => ⟨h s hs, trivial⟩⟩

/-- The commits of a run of programs that meet the contract are a history. -/
theorem Pool.Trace.history {reg : Regime D K W E I X} {p q : Pool D K W E I X}
    {xs : List (Tid × Commit W I)} {d : D} {i : I} {e : E} (h : Pool.Trace commits reg p xs q)
    (hidle : p.store = .idle d i e)
    (hprogs : ∀ t, Triple (S.contract : Contract D K W E I X) t (fun s => s = .idle d i e)
      (p.progs t) (fun _ _ => True) fun _ _ => True) :
    ∃ log, History S d xs log q.store.db := by
  obtain ⟨store, progs⟩ := p
  subst hidle
  have hkeeps : Pool.Keeps (S.contract : Contract D K W E I X) (fun _ _ => True)
      (fun t _ s => s.doomed t = true ∨ True) ⟨.idle d i e, progs⟩ :=
    Pool.Keeps.start trivial hprogs
  have howed : Owed (S.contract : Contract D K W E I X) d xs :=
    h.owed Changes.contract_sound (fun _ => .pure True)
      (fun _ _ => .or (.doomed true) (.pure True)) hkeeps
  have hcommitted : q.store.db = publishAll xs d := h.committed
  rw [hcommitted]
  exact howed.history

end

end MovieApi.ReadCommitted
