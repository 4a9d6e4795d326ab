import MovieApi.ReadCommitted.Carried

/-!
# One session at a time

While no other session holds a lock a program waits for nothing.  What it does
then is a matter of the data it reads, its own writes included, and of the world:
`Yields` says what comes of them, with one rule for each statement.
-/

namespace MovieApi.ReadCommitted

variable {D K W E I X : Type} {α β : Type}

/-- Session `t` is not in a doomed transaction, and no other holds a lock. -/
structure Store.Undisturbed (s : Store D K W E I) (t : Tid) : Prop where
  live : s.doomed t = false
  alone : ∀ held ∈ s.locks, held.tid = t

namespace Store.Undisturbed

variable {s s' : Store D K W E I} {t : Tid}

theorem blocked [DecidableEq K] (h : s.Undisturbed t) (k : K) (m : LockMode) :
    s.blocked t k m = false := by
  rw [blocked_eq_false]
  intro u m' hu hheld
  exact absurd (h.alone _ hheld) hu

theorem of_same (h : s.Undisturbed t) (hdoomed : s'.doomed t = s.doomed t)
    (hlocks : s'.locks = s.locks) : s'.Undisturbed t :=
  ⟨hdoomed.trans h.live, hlocks ▸ h.alone⟩

theorem begin (h : s.Undisturbed t) : (s.begin t).Undisturbed t := h.of_same rfl rfl

theorem acquire (h : s.Undisturbed t) (ks : List (K × LockMode)) :
    (s.acquire t ks).Undisturbed t := by
  refine ⟨h.live, fun held hmem => ?_⟩
  rcases List.mem_append.1 hmem with hmem | hmem
  · obtain ⟨k, -, rfl⟩ := List.mem_map.1 hmem
    rfl
  · exact h.alone held hmem

theorem idle (d : D) (i : I) (e : E) (t : Tid) :
    (Store.idle d i e : Store D K W E I).Undisturbed t :=
  ⟨rfl, by simp [Store.idle]⟩

end Store.Undisturbed

variable [DecidableEq K] [Database D K W] [ServerError X]

/-- Undisturbed, on the data `d` and in the world `e`, the program ends with an
outcome, data and world that `Q` describes. -/
def Prog.Yields (t : Tid) (p : Prog D K W E I X α) (d : D) (e : E)
    (Q : Except X α → D → E → Prop) : Prop :=
  ∀ s : Store D K W E I, s.Undisturbed t → s.view t = d → s.world = e →
    ∃ r s', p.runAlone t s = some (r, s') ∧ (r.isOk = true → s'.Undisturbed t) ∧
      Q r (s'.view t) s'.world

namespace Prog.Yields

variable {t : Tid} {p : Prog D K W E I X α} {d : D} {e : E} {Q Q' : Except X α → D → E → Prop}

theorem mono (h : Yields t p d e Q) (hQ : ∀ r d' e', Q r d' e' → Q' r d' e') :
    Yields t p d e Q' := by
  intro s hs hd he
  obtain ⟨r, s', hrun, halone, hr⟩ := h s hs hd he
  exact ⟨r, s', hrun, halone, hQ _ _ _ hr⟩

theorem ret {a : α} (h : Q (.ok a) d e) : Yields t (.ret a : Prog D K W E I X α) d e Q := by
  rintro s hs rfl rfl
  exact ⟨_, s, rfl, fun _ => hs, h⟩

theorem raise {x : X} (h : Q (.error x) d e) :
    Yields t (.raise x : Prog D K W E I X α) d e Q := by
  rintro s hs rfl rfl
  exact ⟨_, s, rfl, fun hok => by simp [Except.isOk, Except.toBool] at hok, h⟩

theorem bind {f : α → Prog D K W E I X β} {Q : Except X β → D → E → Prop}
    {M : Except X α → D → E → Prop} (h : Yields t p d e M)
    (hok : ∀ a d' e', M (.ok a) d' e' → Yields t (f a) d' e' Q)
    (herror : ∀ x d' e', M (.error x) d' e' → Q (.error x) d' e') :
    Yields t (p >>= f) d e Q := by
  intro s hs hd he
  obtain ⟨r, s', hrun, halone, hr⟩ := h s hs hd he
  cases r with
  | ok a =>
      obtain ⟨r', s'', hrun', halone', hr'⟩ := hok a _ _ hr s' (halone rfl) rfl rfl
      refine ⟨r', s'', ?_, halone', hr'⟩
      simp only [bind_eq, runAlone_bind, hrun]
      exact hrun'
  | error x =>
      refine ⟨.error x, s', ?_, fun hok => by simp [Except.isOk, Except.toBool] at hok,
        herror x _ _ hr⟩
      simp only [bind_eq, runAlone_bind, hrun]

theorem perform {c : Stmt D K W E I X α}
    (h : ∀ s : Store D K W E I, s.Undisturbed t → s.view t = d → s.world = e →
      ∃ r s', c.exec t s = some (r, s') ∧ (r.isOk = true → s'.Undisturbed t) ∧
        Q r (s'.view t) s'.world) : Yields t (.perform c) d e Q := by
  intro s hs hd he
  obtain ⟨r, s', hexec, halone, hr⟩ := h s hs hd he
  exact ⟨r, s', by rw [runAlone_perform, hexec], halone, hr⟩

theorem write {w : W} {Q : Except X Unit → D → E → Prop} (h : Q (.ok ()) (Database.apply w d) e) :
    Yields t (.write w : Prog D K W E I X Unit) d e Q := by
  refine perform fun s hs hd he => ⟨.ok (), s.wrote t w, ?_, fun _ => ?_, ?_⟩
  · simp [Stmt.exec, hs.live, hs.blocked, Store.wrote]
  · exact (hs.begin.acquire _).of_same rfl rfl
  · rw [Store.wrote, Store.record_view, Store.acquire_view, Store.begin_view, hd]
    exact he ▸ h

theorem writeThen {w : W} {f : Unit → Prog D K W E I X α}
    (h : Yields t (f ()) (Database.apply w d) e Q) :
    Yields t (Prog.write w >>= f) d e Q := by
  refine bind (M := fun r d' e' => r = .ok () ∧ d' = Database.apply w d ∧ e' = e)
    (write ⟨rfl, rfl, rfl⟩) ?_ fun x d' e' hx => by simp at hx
  rintro a d' e' ⟨-, rfl, rfl⟩
  exact h

/-- Rejected by the server. -/
theorem reject {x : X} {Q : Except X Unit → D → E → Prop} (h : Q (.error x) d e) :
    Yields t (.reject x : Prog D K W E I X Unit) d e Q := by
  refine perform fun s hs hd he => ⟨.error x, s.doom t, by simp [Stmt.exec, hs.live],
    fun hok => by simp [Except.isOk, Except.toBool] at hok, ?_⟩
  have hview : (s.doom t).view t = d := hd
  have hworld : (s.doom t).world = e := he
  rw [hview, hworld]
  exact h

/-- A loop ends early with an error, or keeps its invariant to the end. -/
theorem forEach {bs : List β} {body : β → Prog D K W E I X Unit} {Q : Except X Unit → D → E → Prop}
    (Inv : List β → D → E → Prop)
    (hstep : ∀ done b rest d e, bs = done ++ b :: rest → Inv done d e →
      Yields t (body b) d e fun r d' e' =>
        (r = .ok () ∧ Inv (done ++ [b]) d' e') ∨ ∃ x, r = .error x ∧ Q r d' e')
    (hend : ∀ d e, Inv bs d e → Q (.ok ()) d e) (h : Inv [] d e) :
    Yields t (Prog.forEach bs body) d e Q := by
  suffices hrest : ∀ rest done d e, bs = done ++ rest → Inv done d e →
      Yields t (Prog.forEach rest body) d e Q from hrest bs [] d e rfl h
  intro rest
  induction rest with
  | nil =>
      intro done d e hbs hinv
      rw [List.append_nil] at hbs
      exact ret (hend d e (hbs ▸ hinv))
  | cons b rest ih =>
      intro done d e hbs hinv
      refine bind (hstep done b rest d e hbs hinv) ?_ ?_
      · rintro a d' e' (⟨-, hinv'⟩ | ⟨x, hx, -⟩)
        · exact ih (done ++ [b]) d' e' (by rw [hbs, List.append_assoc, List.singleton_append]) hinv'
        · cases hx
      · rintro x d' e' (⟨hx, -⟩ | ⟨x', -, hQ⟩)
        · cases hx
        · exact hQ

end Prog.Yields

/-- A program that only looks and locks: its outcome is `r`, and the data and the
world stay as they are. -/
def Prog.Answers (t : Tid) (p : Prog D K W E I X α) (d : D) (e : E) (r : Except X α) : Prop :=
  p.Yields t d e fun r' d' e' => r' = r ∧ d' = d ∧ e' = e

namespace Prog.Answers

variable {t : Tid} {p : Prog D K W E I X α} {d : D} {e : E}

theorem ret (a : α) : Answers t (.ret a : Prog D K W E I X α) d e (.ok a) :=
  Yields.ret ⟨rfl, rfl, rfl⟩

theorem raise (x : X) : Answers t (.raise x : Prog D K W E I X α) d e (.error x) :=
  Yields.raise ⟨rfl, rfl, rfl⟩

/-- Go on with the answer. -/
theorem bind {f : α → Prog D K W E I X β} {Q : Except X β → D → E → Prop} {a : α}
    (h : Answers t p d e (.ok a)) (hf : Yields t (f a) d e Q) : Yields t (p >>= f) d e Q := by
  refine Yields.bind h ?_ fun x d' e' hx => by simp at hx
  rintro a' d' e' ⟨ha, rfl, rfl⟩
  obtain rfl := Except.ok.inj ha
  exact hf

theorem bindError {f : α → Prog D K W E I X β} {Q : Except X β → D → E → Prop} {x : X}
    (h : Answers t p d e (.error x)) (hx : Q (.error x) d e) : Yields t (p >>= f) d e Q := by
  refine Yields.bind h (fun a d' e' ha => by simp at ha) ?_
  rintro x' d' e' ⟨herror, rfl, rfl⟩
  obtain rfl := Except.error.inj herror
  exact hx

theorem select (q : D → α) : Answers t (.select q : Prog D K W E I X α) d e (.ok (q d)) := by
  refine Yields.perform fun s hs hd he => ⟨.ok (q (s.view t)), s.begin t,
    by simp [Stmt.exec, hs.live], fun _ => hs.begin, ?_, ?_, he⟩
  · rw [hd]
  · rw [Store.begin_view, hd]

theorem lock (k : K) (m : LockMode) :
    Answers t (.lock k m : Prog D K W E I X Unit) d e (.ok ()) := by
  refine Yields.perform fun s hs hd he => ⟨.ok (), (s.begin t).acquire t [(k, m)],
    by simp [Stmt.exec, hs.live, hs.blocked], fun _ => hs.begin.acquire _, rfl, ?_, he⟩
  rw [Store.acquire_view, Store.begin_view, hd]

theorem enter (k : K) (taken : D → Bool) :
    Answers t (.enter k taken : Prog D K W E I X Bool) d e (.ok !taken d) := by
  refine Yields.perform fun s hs hd he => ?_
  by_cases htaken : taken d = true
  · refine ⟨.ok false, s.begin t, by simp [Stmt.exec, hs.live, hs.blocked, hd, htaken],
      fun _ => hs.begin, by simp [htaken], ?_, he⟩
    rw [Store.begin_view, hd]
  · refine ⟨.ok true, (s.begin t).acquire t [(k, .update)],
      by simp [Stmt.exec, hs.live, hs.blocked, hd, htaken], fun _ => hs.begin.acquire _,
      by simp [htaken], ?_, he⟩
    rw [Store.acquire_view, Store.begin_view, hd]

theorem sense (read : E → α) :
    Answers t (.sense read : Prog D K W E I X α) d e (.ok (read e)) :=
  Yields.perform fun s hs hd he => ⟨.ok (read s.world), s, by simp [Stmt.exec], fun _ => hs,
    by rw [he], hd, he⟩

theorem session (step : I → Unit × I) :
    Answers t (.session step : Prog D K W E I X Unit) d e (.ok ()) :=
  Yields.perform fun s hs hd he => ⟨.ok (), { s with
    info := Function.update s.info t (step (s.info t)).2 }, by simp [Stmt.exec],
    fun _ => hs.of_same rfl rfl, rfl, hd, he⟩

end Prog.Answers

end MovieApi.ReadCommitted
