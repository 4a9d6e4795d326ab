import MovieApi.ReadCommitted.Contract
import MovieApi.ReadCommitted.Parts

/-!
# Unique indexes

An insert enters the keys of its row in unique indexes, each under a lock it keeps until it
commits, after a look at what it can see.  An entry that a session reads beyond the
committed ones is then one it holds, and no two rows of any snapshot share an entry.
-/

namespace MovieApi.ReadCommitted

variable {D K W E I X : Type}

/-- The rows under each key, and the entries they have. -/
structure UniqueIndex (D K W : Type) [Database D K W] where
  Rows : Type
  part : K → Part D K W Rows
  part_key : ∀ k, (part k).key = k
  entries : Rows → List K

namespace UniqueIndex

variable [Database D K W] (ix : UniqueIndex D K W)

def entriesAt (d : D) (k : K) : List K := ix.entries ((ix.part k).read d)

/-- No two rows share an entry. -/
structure Sole (d : D) : Prop where
  apart : ∀ {k k' e}, e ∈ ix.entriesAt d k → e ∈ ix.entriesAt d k' → k = k'
  nodup : ∀ k, (ix.entriesAt d k).Nodup

/-- The write makes its new entries under locks, and makes none twice. -/
structure Enters (w : W) (d : D) : Prop where
  sole : ix.Sole d → ix.Sole (Database.apply w d)
  locked : ∀ {k e}, e ∈ ix.entriesAt (Database.apply w d) k →
    e ∈ ix.entriesAt d k ∨ (e, .update) ∈ Database.needs D w

section

variable {ix} {w : W} {d : D}

/-- A write that makes no entries. -/
theorem Enters.of_sublist
    (h : ∀ k, (ix.entriesAt (Database.apply w d) k).Sublist (ix.entriesAt d k)) :
    ix.Enters w d where
  sole hd := ⟨fun he he' => hd.apart ((h _).mem he) ((h _).mem he'),
    fun k => (hd.nodup k).sublist (h k)⟩
  locked he := .inl ((h _).mem he)

/-- A write that changes the rows under one key: an entry they had not is locked, and no
other row has it. -/
theorem Enters.of_change (own : K)
    (hothers : ∀ k, k ≠ own → (ix.entriesAt (Database.apply w d) k).Perm (ix.entriesAt d k))
    (hnew : ∀ e ∈ ix.entriesAt (Database.apply w d) own, e ∈ ix.entriesAt d own ∨
      ((e, .update) ∈ Database.needs D w ∧ ∀ k, k ≠ own → e ∉ ix.entriesAt d k))
    (hnodup : ix.Sole d → (ix.entriesAt (Database.apply w d) own).Nodup) : ix.Enters w d where
  sole hd := by
    have hleft : ∀ {k e}, k ≠ own → e ∈ ix.entriesAt (Database.apply w d) own →
        e ∈ ix.entriesAt (Database.apply w d) k → False := by
      intro k e hk he he'
      rw [(hothers k hk).mem_iff] at he'
      rcases hnew e he with hold | ⟨-, hfree⟩
      · exact hk (hd.apart he' hold)
      · exact hfree k hk he'
    refine ⟨fun {k k' e} he he' => ?_, fun k => ?_⟩
    · by_cases hk : k = own <;> by_cases hk' : k' = own
      · rw [hk, hk']
      · exact (hleft hk' (hk ▸ he) he').elim
      · exact (hleft hk (hk' ▸ he') he).elim
      · exact hd.apart ((hothers k hk).mem_iff.1 he) ((hothers k' hk').mem_iff.1 he')
    · by_cases hk : k = own
      · exact hk ▸ hnodup hd
      · exact (hothers k hk).nodup_iff.2 (hd.nodup k)
  locked {k e} he := by
    by_cases hk : k = own
    · subst hk
      exact (hnew e he).imp_right And.left
    · exact .inl ((hothers k hk).mem_iff.1 he)

/-- An insert, of a row whose entries are locked and that no row has. -/
theorem Enters.of_insert (own : K) (new : List K)
    (hothers : ∀ k, k ≠ own → (ix.entriesAt (Database.apply w d) k).Perm (ix.entriesAt d k))
    (hown : (ix.entriesAt (Database.apply w d) own).Perm (new ++ ix.entriesAt d own))
    (hnodup : new.Nodup)
    (hfree : ∀ e ∈ new, (e, .update) ∈ Database.needs D w ∧ ∀ k, e ∉ ix.entriesAt d k) :
    ix.Enters w d := by
  refine .of_change own hothers (fun e he => ?_) fun hd => ?_
  · rcases List.mem_append.1 (hown.mem_iff.1 he) with hnew | hold
    · exact .inr ⟨(hfree e hnew).1, fun k _ => (hfree e hnew).2 k⟩
    · exact .inl hold
  · rw [hown.nodup_iff]
    exact hnodup.append (hd.nodup own) fun e he => (hfree e he).2 own

end

/-- What holds of every store of a run. -/
structure Orderly (s : Store D K W E I) : Prop where
  db : ix.Sole s.db
  view : ∀ t, ix.Sole (s.view t)
  locked : ∀ {t k e}, e ∈ ix.entriesAt (s.view t) k →
    e ∈ ix.entriesAt s.db k ∨ s.Holds t e .update

theorem Orderly.idle {d : D} (h : ix.Sole d) (i : I) (e : E) :
    ix.Orderly (Store.idle d i e : Store D K W E I) :=
  ⟨h, fun _ => h, fun he => .inl he⟩

section

variable {ix} {s s' : Store D K W E I} {t u : Tid} {k e : K}

/-- What session `t` finds under a key after a commit of `u`. -/
theorem entriesAt_committed (hdis : s.Disciplined) (hne : u ≠ t) (k : K) :
    (s.Guards t k ∧
      ix.entriesAt (((s.publish u).finish u).view t) k = ix.entriesAt (s.view t) k) ∨
    (¬ s.Guards t k ∧
      ix.entriesAt (((s.publish u).finish u).view t) k = ix.entriesAt (s.view u) k) := by
  have h := (ix.part k).committed hdis hne
  rw [ix.part_key] at h
  exact h.imp (.imp_right (congrArg ix.entries)) (.imp_right (congrArg ix.entries))

theorem entriesAt_of_not_guards (hdis : s.Disciplined) (h : ¬ s.Guards t k) :
    ix.entriesAt (s.view t) k = ix.entriesAt s.db k :=
  congrArg ix.entries ((ix.part k).view_of_not_guards hdis (by rwa [ix.part_key]))

theorem entriesAt_of_guards (hdis : s.Disciplined) (hne : u ≠ t) (h : s.Guards t k) :
    ix.entriesAt (s.view u) k = ix.entriesAt s.db k :=
  congrArg ix.entries ((ix.part k).view_of_guards hdis hne (by rwa [ix.part_key]))

theorem Orderly.of_same (hs : ix.Orderly s) (hdb : s'.db = s.db) (hwrites : s'.writes = s.writes)
    (hholds : ∀ {t k mode}, s.Holds t k mode → s'.Holds t k mode) : ix.Orderly s' := by
  have hview : ∀ t, s'.view t = s.view t := fun t => by rw [Store.view, hdb, hwrites]; rfl
  refine ⟨hdb ▸ hs.db, fun t => hview t ▸ hs.view t, fun {t k e} he => ?_⟩
  rw [hview] at he
  rw [hdb]
  exact (hs.locked he).imp_right hholds

theorem Orderly.write (hs : ix.Orderly s) {w : W} (h : ix.Enters w (s.view t)) :
    ix.Orderly (((s.begin t).acquire t (Database.needs D w)).record t w) := by
  have hview : ∀ {u}, u ≠ t → (((s.begin t).acquire t (Database.needs D w)).record t w).view u =
      s.view u := fun hu => Store.record_view_of_ne _ _ _ hu
  refine ⟨hs.db, fun u => ?_, fun {u k e} he => ?_⟩
  · by_cases hu : u = t
    · subst hu
      rw [Store.record_view]
      exact h.sole (hs.view u)
    · exact hview hu ▸ hs.view u
  · by_cases hu : u = t
    · subst hu
      rw [Store.record_view] at he
      rcases h.locked he with hold | hneeds
      · exact (hs.locked hold).imp_right fun hheld => Store.holds_acquire.2 (.inr hheld)
      · exact .inr (Store.holds_acquire.2 (.inl ⟨rfl, hneeds⟩))
    · rw [hview hu] at he
      exact (hs.locked he).imp_right fun hheld => Store.holds_acquire.2 (.inr hheld)

/-- An entry in `t`'s rows and one in `u`'s are in one row. -/
theorem Orderly.meet (hs : ix.Orderly s) (hdis : s.Disciplined) (hne : u ≠ t) {k k' : K}
    (hk : s.Guards t k) (hk' : ¬ s.Guards t k') (he : e ∈ ix.entriesAt (s.view t) k)
    (he' : e ∈ ix.entriesAt (s.view u) k') : k = k' := by
  rcases hs.locked he' with hdb' | hheld'
  · rw [← entriesAt_of_not_guards hdis hk'] at hdb'
    exact (hs.view t).apart he hdb'
  · rcases hs.locked he with hdb | hheld
    · rw [← entriesAt_of_guards hdis hne hk] at hdb
      exact (hs.view u).apart hdb he'
    · have hconflict := hdis.compatible (Ne.symm hne) hheld hheld'
      simp at hconflict

theorem Orderly.commit (hs : ix.Orderly s) (hdis : s.Disciplined) (u : Tid) :
    ix.Orderly ((s.publish u).finish u) := by
  refine ⟨hs.view u, fun t => ?_, fun {t k e} he => ?_⟩
  · by_cases hne : u = t
    · subst hne
      rw [show ((s.publish u).finish u).view u = s.view u by simp [Store.view]]
      exact hs.view u
    · refine ⟨fun {k k' e} he he' => ?_, fun k => ?_⟩
      · rcases entriesAt_committed hdis hne k with ⟨hk, heq⟩ | ⟨hk, heq⟩ <;>
          rcases entriesAt_committed hdis hne k' with ⟨hk', heq'⟩ | ⟨hk', heq'⟩ <;>
          rw [heq] at he <;> rw [heq'] at he'
        · exact (hs.view t).apart he he'
        · exact hs.meet hdis hne hk hk' he he'
        · exact (hs.meet hdis hne hk' hk he' he).symm
        · exact (hs.view u).apart he he'
      · rcases entriesAt_committed hdis hne k with ⟨-, heq⟩ | ⟨-, heq⟩ <;> rw [heq]
        · exact (hs.view t).nodup k
        · exact (hs.view u).nodup k
  · by_cases hne : u = t
    · subst hne
      rw [show ((s.publish u).finish u).view u = s.view u by simp [Store.view]] at he
      exact .inl he
    · rcases entriesAt_committed hdis hne k with ⟨hk, heq⟩ | ⟨-, heq⟩ <;> rw [heq] at he
      · refine (hs.locked he).imp (fun hdb => ?_) fun hheld =>
          Store.holds_finish.2 ⟨Ne.symm hne, hheld⟩
        rw [← entriesAt_of_guards hdis hne hk] at hdb
        exact hdb
      · exact .inl he

theorem Orderly.finish (hs : ix.Orderly s) (u : Tid) : ix.Orderly (s.finish u) := by
  have hview : ∀ {t}, t ≠ u → (s.finish u).view t = s.view t := fun hne => by
    simp [Store.view, Store.finish, hne]
  have hdb : (s.finish u).view u = s.db := by simp [Store.view]
  refine ⟨hs.db, fun t => ?_, fun {t k e} he => ?_⟩
  · by_cases hne : t = u
    · subst hne
      exact hdb ▸ hs.db
    · exact hview hne ▸ hs.view t
  · by_cases hne : t = u
    · subst hne
      rw [hdb] at he
      exact .inl he
    · rw [hview hne] at he
      exact (hs.locked he).imp_right fun hheld => Store.holds_finish.2 ⟨hne, hheld⟩

end

/-! ## The contract -/

/-- Others make no entry that session `t` holds. -/
def Spared (t : Tid) (s s' : Store D K W E I) : Prop :=
  ∀ e, s.Holds t e .update → s'.Holds t e .update ∧
    ∀ k, e ∈ ix.entriesAt (s'.view t) k → e ∈ ix.entriesAt (s.view t) k

/-- What committed rows have of the entries in `kept`, they keep. -/
def Keeping (kept : K → Prop) (d d' : D) : Prop :=
  ∀ e, kept e → ∀ k, e ∈ ix.entriesAt d k → e ∈ ix.entriesAt d' k

variable {ix} in
theorem Orderly.spared {s : Store D K W E I} {t u : Tid} (hs : ix.Orderly s)
    (hdis : s.Disciplined) (hne : u ≠ t) : ix.Spared t s ((s.publish u).finish u) := by
  intro e hheld
  refine ⟨Store.holds_finish.2 ⟨Ne.symm hne, hheld⟩, fun k he => ?_⟩
  rcases entriesAt_committed hdis hne k with ⟨-, heq⟩ | ⟨hk, heq⟩ <;> rw [heq] at he
  · exact he
  · rcases hs.locked he with hdb | hheld'
    · rw [← entriesAt_of_not_guards hdis hk] at hdb
      exact hdb
    · have hconflict := hdis.compatible (Ne.symm hne) hheld hheld'
      simp at hconflict

/-- Every write makes its entries under locks, and commits keep what `kept` names. -/
def contract [DecidableEq K] [LawfulDatabase D K W] [ServerError X] (kept : K → Prop)
    (reg : Regime D K W E I X) : Contract D K W E I X where
  Inv := ix.Orderly
  Obl t _ c s :=
    match c with
    | .write w => ix.Enters w (s.view t)
    | _ => True
  Rely s s' := ix.Keeping kept s.db s'.db
  rely_refl _ _ _ _ he := he
  rely_trans h h' e hkept k he := h' e hkept k (h e hkept k he)
  Spares := ix.Spared
  spares_refl _ _ _ hheld := ⟨hheld, fun _ he => he⟩
  spares_trans h h' e hheld :=
    ⟨(h' e (h e hheld).1).1, fun k he => (h e hheld).2 k ((h' e (h e hheld).1).2 k he)⟩
  Allows t _ c s := reg.stmt t c s = true

variable [DecidableEq K] [LawfulDatabase D K W] [ServerError X]

theorem contract_sound {kept : K → Prop} {reg : Regime D K W E I X}
    (hkept : ∀ {t s}, reg.stmt t (.commit : Stmt D K W E I X Unit) s = true →
      s.doomed t = false → ix.Keeping kept s.db (s.view t)) :
    (ix.contract kept reg).Sound reg := by
  refine .of_steps ?_ ?_ ?_ ?_ ?_ ?_ fun h => h
  · intro t s s' hq hs
    refine ⟨Orderly.of_same hs hq.db hq.writes hq.holds, fun e _ k he => ?_⟩
    rw [hq.db]
    exact he
  · intro t w s _ hs hobl _ _
    exact ⟨Orderly.write hs hobl, fun _ _ _ he => he⟩
  · intro t s hdis hs _ hreg hd
    exact ⟨Orderly.commit hs hdis t, hkept hreg hd⟩
  · intro t s hs
    exact ⟨Orderly.finish hs t, fun _ _ _ he => he⟩
  · intro t s s' hsteady hdb e hheld
    refine ⟨hsteady.holds_iff.2 hheld, fun k he => ?_⟩
    rwa [show s'.view t = s.view t by rw [Store.view, hsteady.writes, hdb]; rfl] at he
  · intro t u s hne hdis hs _ _ _
    exact Orderly.spared hs hdis hne

/-- The session holds the entry, and finds it under no key it looks at. -/
def Free (t : Tid) (looked : K → Prop) (e : K) (s : Store D K W E I) : Prop :=
  s.Holds t e .update ∧ ∀ k, looked k → e ∉ ix.entriesAt (s.view t) k

variable {ix} {kept : K → Prop} {reg : Regime D K W E I X} {t : Tid} {looked : K → Prop} {e : K}

theorem free_stable : Stable (ix.contract kept reg) t (ix.Free t looked e) :=
  ⟨fun hb hs => ⟨hb.holds_iff.2 hs.1,
    fun k hk he => hs.2 k hk ((hb.spares e hs.1).2 k he)⟩⟩

omit [DecidableEq K] [LawfulDatabase D K W] in
theorem Free.quiet {s s' : Store D K W E I} (hq : Quiet t s s') (hs : ix.Free t looked e s) :
    ix.Free t looked e s' := by
  refine ⟨hq.holds hs.1, fun k hk he => hs.2 k hk ?_⟩
  rwa [hq.view] at he

/-- A session that finds an entry free holds it from then on. -/
theorem free_enter {L : Store D K W E I → Prop} {taken : D → Bool}
    {R : X → Store D K W E I → Prop} (hL : Stable (ix.contract kept reg) t L)
    (hbegin : ∀ s, L s → L (s.begin t))
    (hacquire : ∀ s ks, L s → L ((s.begin t).acquire t ks))
    (htaken : ∀ d, taken d = false → ∀ k, looked k → e ∉ ix.entriesAt d k) :
    Triple (ix.contract kept reg) t (fun s => s.doomed t = true ∨ L s) (.enter e taken)
      (fun entered s => L s ∧ (entered = true → ix.Free t looked e s)) R := by
  refine .enter (.or (.doomed true) hL) fun s _ hs hd => ?_
  have hlive := hs.resolve_left (by simp [hd])
  refine ⟨trivial, fun _ _ => ⟨hbegin s hlive, by simp⟩,
    fun _ hfree => ⟨hacquire s _ hlive, fun _ => ⟨by simp, fun k hk he => ?_⟩⟩⟩
  exact htaken _ hfree k hk he

end UniqueIndex

end MovieApi.ReadCommitted
