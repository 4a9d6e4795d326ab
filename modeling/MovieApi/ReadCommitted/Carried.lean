import MovieApi.ReadCommitted.Contract

/-!
# Assertions carried through a transaction

Between its locks and its commit a program mostly reads, locks and writes rows
of one kind.  An assertion that other sessions leave alone and that those
statements keep is carried through any program made of them.
-/

namespace MovieApi.ReadCommitted

variable {D K W E I X : Type} {α β : Type}

/-- A statement inside a transaction that writes at most what `N` allows. -/
def Stmt.Inside (N : W → Prop) : Stmt D K W E I X α → Prop
  | .write w => N w
  | .tell _ => False
  | .session _ => False
  | .commit => False
  | .rollback => False
  | _ => True

theorem Stmt.Inside.mono {N N' : W → Prop} (hN : ∀ w, N w → N' w) (c : Stmt D K W E I X α)
    (h : c.Inside N) : c.Inside N' := by
  cases c with
  | write w => exact hN w h
  | _ => exact h

variable [Database D K W]

/-- The store after session `t` made a write. -/
def Store.wrote (s : Store D K W E I) (t : Tid) (w : W) : Store D K W E I :=
  ((s.begin t).acquire t (Database.needs D w)).record t w

variable [LawfulDatabase D K W]

structure Carried (C : Contract D K W E I X) (t : Tid) (N : W → Prop)
    (P : Store D K W E I → Prop) : Prop where
  stable : Stable C t P
  quiet : ∀ {s s'}, Quiet t s s' → s'.world = s.world → s'.info = s.info → P s → P s'
  write : ∀ w, N w → ∀ s, Calm C s → P s → s.doomed t = false → P (s.wrote t w)

/-- The contract asks nothing of statements inside a transaction. -/
def Contract.Easy (C : Contract D K W E I X) (N : W → Prop) : Prop :=
  ∀ {β : Type} (c : Stmt D K W E I X β), c.Inside N → ∀ t s, C.Obl t c s

namespace Carried

variable {C : Contract D K W E I X} {t : Tid} {N N' : W → Prop} {P P' : Store D K W E I → Prop}

theorem mono (h : Carried C t N P) (hN : ∀ w, N' w → N w) : Carried C t N' P :=
  ⟨h.stable, h.quiet, fun w hw => h.write w (hN w hw)⟩

theorem and (h : Carried C t N P) (h' : Carried C t N P') :
    Carried C t N fun s => P s ∧ P' s where
  stable := h.stable.and h'.stable
  quiet hq hworld hinfo hs := ⟨h.quiet hq hworld hinfo hs.1, h'.quiet hq hworld hinfo hs.2⟩
  write w hw s hc hs hd := ⟨h.write w hw s hc hs.1 hd, h'.write w hw s hc hs.2 hd⟩

theorem imp {φ : Prop} (h : Carried C t N P) : Carried C t N fun s => φ → P s where
  stable := ⟨fun hb hs hφ => h.stable.keep hb (hs hφ)⟩
  quiet hq hworld hinfo hs hφ := h.quiet hq hworld hinfo (hs hφ)
  write w hw s hc hs hd hφ := h.write w hw s hc (hs hφ) hd

theorem pure (φ : Prop) : Carried C t N fun _ => φ :=
  ⟨.pure φ, fun _ _ _ h => h, fun _ _ _ _ h _ => h⟩

theorem holds (k : K) (m : LockMode) : Carried C t N fun s => s.Holds t k m where
  stable := .holds k m
  quiet hq _ _ hs := hq.holds hs
  write _ _ _ _ hs _ := Store.holds_acquire.2 (.inr hs)

/-- What a session has noted. -/
theorem info (φ : I → Prop) : Carried C t N fun s => φ (s.info t) where
  stable := ⟨fun hb hs => by rwa [hb.info]⟩
  quiet _ _ hinfo hs := by rwa [hinfo]
  write _ _ _ _ hs _ := hs

/-- The writes of a transaction that makes none meanwhile. -/
theorem writes (ws : List W) : Carried C t (fun _ => False) fun s => s.writes t = ws where
  stable := ⟨fun hb hs => hb.writes.trans hs⟩
  quiet hq _ _ hs := by rw [hq.writes, hs]
  write _ hw := hw.elim

theorem writesIn (N : W → Prop) : Carried C t N fun s => ∀ w ∈ s.writes t, N w where
  stable := ⟨fun hb hs w hw => hs w (hb.writes ▸ hw)⟩
  quiet hq _ _ hs w hw := hs w (hq.writes ▸ hw)
  write w hw s _ hs _ w' hw' := by
    rcases (Store.mem_record_writes _ _ _).1 hw' with hmem | ⟨-, rfl⟩
    · exact hs w' hmem
    · exact hw

/-- Data under a lock. -/
theorem locked {k : K} {m : LockMode} {φ : D → Prop}
    (hφ : ∀ d d', LawfulDatabase.Agree k m d d' → φ d → φ d') :
    Carried C t N fun s => s.Holds t k m ∧ φ s.db where
  stable := ⟨fun hb hs => ⟨hb.holds_iff.2 hs.1, hφ _ _ (hb.agree hs.1) hs.2⟩⟩
  quiet hq _ _ hs := ⟨hq.holds hs.1, hq.db ▸ hs.2⟩
  write _ _ _ _ hs _ := ⟨Store.holds_acquire.2 (.inr hs.1), hs.2⟩

/-- Programs inside a transaction keep what they carry. -/
theorem every [DecidableEq K] [ServerError X] {p : Prog D K W E I X α} (h : Carried C t N P) (hobl : C.Easy N)
    (hp : p.Every (Stmt.Inside N)) : Triple C t P p (fun _ => P) fun _ => P := by
  refine .every h.stable (fun {β} c hc s hcalm hs => ⟨fun _ => hobl c hc t s, ?_⟩) hp
  intro a s' hexec
  cases c with
  | write w =>
      simp only [Stmt.exec] at hexec
      repeat' split at hexec
      all_goals simp only [Option.some.injEq, Prod.mk.injEq, reduceCtorEq, false_and] at hexec
      next hd _ =>
        rw [← hexec.2]
        exact h.write w hc s hcalm hs (by simpa using hd)
  | tell | session | commit | rollback => exact hc.elim
  | select | lock | tryLock | enter | reject | sense =>
      simp only [Stmt.exec] at hexec
      repeat' split at hexec
      all_goals simp only [Option.some.injEq, Prod.mk.injEq, reduceCtorEq, false_and] at hexec
      all_goals rw [← hexec.2]
      all_goals first
        | exact h.quiet (.refl t s) rfl rfl hs
        | exact h.quiet (.begin t s) rfl rfl hs
        | exact h.quiet (.acquire t s _) rfl rfl hs

end Carried

end MovieApi.ReadCommitted
