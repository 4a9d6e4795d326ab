import MovieApi.Accounts.Concurrent.Programs
import MovieApi.ReadCommitted.Carried

/-!
# What the account programs do inside a transaction

The parts that only read and lock, and what a program knows of the rows it has
locked, whatever the contract.
-/

namespace MovieApi.Accounts.Concurrent

open ReadCommitted Sql

/-! ## Parts inside a transaction -/

section

variable {N : Write → Prop}

theorem lockUser_inside (id : Uuid) : (lockUser id).Every (Stmt.Inside N) := by
  refine .bind (.perform trivial) fun found => ?_
  split
  · exact .bind (.perform trivial) fun _ => .perform trivial
  · trivial

theorem lockSession_inside (id : Uuid) : (lockSession id).Every (Stmt.Inside N) := by
  refine .bind (.perform trivial) fun found => ?_
  split
  · exact .bind (.perform trivial) fun _ => .perform trivial
  · trivial

theorem lockResetToken_inside (tokenHash : String) :
    (lockResetToken tokenHash).Every (Stmt.Inside N) := by
  refine .bind (.perform trivial) fun found => ?_
  split
  · exact .bind (.perform trivial) fun _ => .perform trivial
  · trivial

theorem referenceUser_inside (id : Uuid) : (referenceUser id).Every (Stmt.Inside N) := by
  refine .bind (.perform trivial) fun _ => .bind (.perform trivial) fun found => ?_
  split
  · trivial
  · exact .perform trivial

theorem claimGuestPurchases_inside (userId : Uuid) (found : Bool) :
    (claimGuestPurchases userId found).Every (Stmt.Inside N) := by
  unfold claimGuestPurchases
  split
  · exact referenceUser_inside userId
  · trivial

theorem countActiveSessions_inside (userId : Uuid) :
    (countActiveSessions userId).Every (Stmt.Inside N) :=
  .bind (.perform trivial) fun _ => .perform trivial

theorem keptOut_inside (settings : Settings) (now : Instant) (session : Session) (userId : Uuid) :
    (keptOut settings now session userId).Every (Stmt.Inside N) := by
  unfold keptOut
  split
  · exact .bind (countActiveSessions_inside userId) fun _ => trivial
  · trivial

/-- The loop of a revocation. -/
theorem revokeAllUserSessions_inside (userId : Uuid) {autoflush : Prog Unit}
    (hflush : autoflush.Every (Stmt.Inside N)) (h : ∀ id now, N (.revokeSession id now)) :
    (revokeAllUserSessions userId autoflush).Every (Stmt.Inside N) := by
  refine .bind (.perform trivial) fun now => .bind hflush fun _ => .bind (.perform trivial)
    fun snapshot => .forEach fun id => .bind (.perform trivial) fun _ =>
    .bind (.perform trivial) fun row => ?_
  cases Option.filter (unrevokedOf userId) row with
  | none => trivial
  | some row => exact .perform (h _ _)

end

/-! ## Locked rows -/

/-- The session has loaded this row under its lock. -/
def Loaded (t : Tid) (row : Session) (s : Store) : Prop :=
  s.Holds t (.session row.id) .update ∧ s.db.session? row.id = some row

/-- The session has loaded this reset token under its lock. -/
def LoadedToken (t : Tid) (row : PasswordResetToken) (s : Store) : Prop :=
  s.Holds t (.resetToken row.tokenHash) .update ∧ s.db.resetToken? row.tokenHash = some row

/-- The transaction inserts this session and nothing else. -/
structure Adding (t : Tid) (row : Session) (s : Store) : Prop where
  writes : s.writes t = [.insertSession row]
  entered : s.Holds t (.session row.id) .update
  fresh : s.db.session? row.id = none

section

variable {C : Contract} {t : Tid} {P : Store → Prop} {N : Write → Prop} {α : Type}

theorem loaded_carried (row : Session) : Carried C t N (Loaded t row) :=
  .locked (φ := fun d : Db => d.session? row.id = some row) fun _ _ hagree hrow =>
    (hagree (by decide)).symm.trans hrow

theorem loadedToken_carried (row : PasswordResetToken) : Carried C t N (LoadedToken t row) :=
  .locked (φ := fun d : Db => d.resetToken? row.tokenHash = some row) fun _ _ hagree hrow =>
    (hagree (by decide)).symm.trans hrow

theorem fresh_carried (id : Uuid) :
    Carried C t N fun s => s.Holds t (.session id) .update ∧ s.db.session? id = none :=
  .locked (φ := fun d : Db => d.session? id = none) fun _ _ hagree hrow =>
    (hagree (by decide)).symm.trans hrow

theorem adding_stable (row : Session) : Stable C t (Adding t row) := by
  have hcarried := fresh_carried (C := C) (t := t) (N := fun _ => False) row.id
  refine ⟨fun hb hs => ?_⟩
  obtain ⟨hentered, hfresh⟩ := hcarried.stable.keep hb ⟨hs.entered, hs.fresh⟩
  exact ⟨hb.writes.trans hs.writes, hentered, hfresh⟩

theorem view_of_writes {s : Store} {ws : List Write} (h : s.writes t = ws) :
    s.view t = applyAll ws s.db := by
  rw [Store.view, h]

variable (hobl : C.Easy fun _ => True)
include hobl

theorem inside (hP : Carried C t N P) {p : Prog α} (hp : p.Every (Stmt.Inside N)) :
    Triple C t P p (fun _ => P) fun _ _ => True :=
  (hP.every (fun c hc => hobl c (hc.mono (fun _ _ => trivial) c)) hp).conseq (fun _ => id)
    (fun _ _ => id) fun _ _ _ => trivial

/-- A part of the program keeps what it carries besides what it is about. -/
theorem framed {Q : α → Store → Prop} {P₀ : Store → Prop} {p : Prog α}
    (h : Triple C t P₀ p Q fun _ _ => True) (hP : Carried C t N P)
    (hp : p.Every (Stmt.Inside N)) :
    Triple C t (fun s => P₀ s ∧ P s) p (fun a s => Q a s ∧ P s) fun _ _ => True :=
  (h.and (inside hobl hP hp)).conseq (fun _ => id) (fun _ _ => id) fun _ _ _ => trivial

/-- A user's row under the strongest lock. -/
theorem lockUser_holds (hP : Carried C t (fun _ => False) P) (id : Uuid) :
    Triple C t P (lockUser id)
      (fun user? s => P s ∧ (user?.isSome = true → s.Holds t (.user id) .update))
      fun _ _ => True := by
  refine .bind (inside hobl hP (.perform trivial)) fun found => ?_
  split
  · refine .bind (.lock (Q := fun _ s => P s ∧ s.Holds t (.user id) .update) hP.stable
      fun s _ hs _ => ⟨hobl _ (by trivial) t s, fun _ => ⟨?_, by simp⟩⟩) fun _ => ?_
    · exact hP.quiet (.acquire t s _) rfl rfl hs
    · exact .post (inside hobl (hP.and (.holds (.user id) .update)) (.perform (by trivial)))
        fun user? s hs => ⟨hs.1, fun _ => hs.2⟩
  · exact .ret fun s hs => ⟨hs, by simp⟩

/-- A session's row under its lock. -/
theorem lockSession_loaded (id : Uuid) :
    Triple C t (fun s => s.writes t = []) (lockSession id)
      (fun session? s => s.writes t = [] ∧ ∀ row, session? = some row →
        row.revokedAt = none ∧ Loaded t row s) fun _ _ => True := by
  have hnone : Carried C t (fun _ => False) fun s => s.writes t = [] := .writes []
  refine .bind (inside hobl hnone (.perform trivial)) fun found => ?_
  split
  · refine .bind (.lock (Q := fun _ s => s.writes t = [] ∧ s.Holds t (.session id) .update)
      hnone.stable fun s _ hs _ => ⟨hobl _ (by trivial) t s, fun _ => ⟨hs, by simp⟩⟩) fun _ => ?_
    refine .select (hnone.and (.holds _ _)).stable fun s _ hs _ =>
      ⟨hobl _ (by trivial) t s, hs.1, fun row hrow => ?_⟩
    obtain ⟨hfound, hlive⟩ := Option.filter_eq_some_iff.1 hrow
    rw [view_of_writes hs.1, applyAll_nil] at hfound
    have hkey : row.id = id := key_of_lookup hfound
    exact ⟨by simpa using hlive, hkey ▸ hs.2, hkey ▸ hfound⟩
  · exact .ret fun s hs => ⟨hs, by simp⟩

theorem lockResetToken_loaded (tokenHash : String) :
    Triple C t (fun s => s.writes t = []) (lockResetToken tokenHash)
      (fun row? s => s.writes t = [] ∧ ∀ row, row? = some row →
        row.tokenHash = tokenHash ∧ LoadedToken t row s) fun _ _ => True := by
  have hnone : Carried C t (fun _ => False) fun s => s.writes t = [] := .writes []
  refine .bind (inside hobl hnone (.perform trivial)) fun found => ?_
  split
  · refine .bind (.lock (Q := fun _ s => s.writes t = [] ∧ s.Holds t (.resetToken tokenHash) .update)
      hnone.stable fun s _ hs _ => ⟨hobl _ (by trivial) t s, fun _ => ⟨hs, by simp⟩⟩) fun _ => ?_
    refine .select (hnone.and (.holds _ _)).stable fun s _ hs _ =>
      ⟨hobl _ (by trivial) t s, hs.1, fun row hrow => ?_⟩
    have hkey : row.tokenHash = tokenHash := key_of_lookup hrow
    rw [view_of_writes hs.1, applyAll_nil] at hrow
    exact ⟨hkey, hkey ▸ hs.2, hkey ▸ hrow⟩
  · exact .ret fun s hs => ⟨hs, by simp⟩

/-- The insertion of a new session. -/
theorem addSession_adding (row : Session) (hP : Carried C t (fun _ => True) P) :
    Triple C t (fun s => s.writes t = [] ∧ P s) (addSession row)
      (fun _ s => Adding t row s ∧ P s) fun _ _ => True := by
  have hbefore : Carried C t (fun _ => False) fun s => s.writes t = [] ∧ P s :=
    .and (.writes []) (hP.mono fun _ => False.elim)
  refine .bind (.enter (Q := fun entered s => entered = true → (s.writes t = [] ∧ P s) ∧
      s.Holds t (.session row.id) .update ∧ s.db.session? row.id = none) hbefore.stable
    fun s _ hs _ => ⟨hobl _ (by trivial) t s, fun _ _ => by simp, fun _ hfree _ => ?_⟩)
    fun entered => ?_
  · refine ⟨hbefore.quiet (.acquire t s _) rfl rfl hs, by simp, ?_⟩
    rw [view_of_writes hs.1, applyAll_nil] at hfree
    simpa using hfree
  · split
    · next hentered =>
        have hcarried : Carried C t (fun _ => False) fun s => (s.writes t = [] ∧ P s) ∧
            s.Holds t (.session row.id) .update ∧ s.db.session? row.id = none :=
          hbefore.and (fresh_carried row.id)
        refine .pre (.bind (inside hobl hcarried (referenceUser_inside _)) fun _ => ?_)
          fun s hs => hs hentered
        refine .write hcarried.stable fun s hc hs hd => ⟨hobl _ (by trivial) t s, fun _ => ?_⟩
        refine ⟨⟨?_, ?_, hs.2.2⟩, hP.write _ trivial s hc hs.1.2 hd⟩
        · simp [hs.1.1]
        · exact Store.holds_acquire.2 (.inr hs.2.1)
    · exact .pre (.reject (.pure True) fun s _ _ _ => hobl _ (by trivial) t s) fun _ _ => trivial

/-- The new session of `create_session`, with what the caller learns when it has
locked the user's row and when it has found a free slot. -/
theorem createSession_adding (settings : Settings) (userId : Uuid) {P₀ L : Store → Prop}
    (hlock : Triple C t P₀ (lockUser userId)
      (fun user? s => user?.isSome = true → s.writes t = [] ∧ L s) fun _ _ => True)
    (hcount : Triple C t (fun s => s.writes t = [] ∧ L s) (countActiveSessions userId)
      (fun n s => n < settings.maxActiveSessionsPerUser → s.writes t = [] ∧ P s) fun _ _ => True)
    (hP : Carried C t (fun _ => True) P) :
    Triple C t P₀ (createSession settings userId)
      (fun row s => (row.userId = userId ∧ row.revokedAt = none) ∧ Adding t row s ∧ P s)
      fun _ _ => True := by
  refine .bind hlock fun user? => ?_
  cases user? with
  | none => exact .raise fun _ _ => trivial
  | some user =>
      refine .bind (hcount.pre fun s hs => hs rfl) fun n => ?_
      split
      · exact .raise fun _ _ => trivial
      · next hslot =>
          have hbefore : Carried C t (fun _ => False) fun s => s.writes t = [] ∧ P s :=
            .and (.writes []) (hP.mono fun _ => False.elim)
          refine .pre (.bind (inside hobl hbefore (.perform trivial)) fun now =>
            .bind (inside hobl hbefore (.perform trivial)) fun id => ?_)
            fun s hs => hs (not_le.1 hslot)
          refine .bind (addSession_adding hobl _ hP) fun _ => ?_
          exact .ret fun s hs => ⟨⟨rfl, rfl⟩, hs⟩

end

/-- The end of a session keeps what a rollback keeps. -/
theorem closing_triple {C : Contract} {t : Tid} {P Q : Store → Prop} {α : Type} {p : Prog α}
    (h : Triple C t P p (fun _ => Q) fun _ _ => True) (hQ : Stable C t Q)
    (hfinish : ∀ s, Q s → Q (s.finish t)) (hobl : ∀ s, C.Obl t (.rollback : Stmt Unit) s) :
    Triple C t P (closing p) (fun _ => Q) fun _ _ => True := by
  refine .bind (Q := fun _ => Q) ?_ fun _ =>
    .rollback hQ fun s _ hs => ⟨fun _ => hobl s, hfinish s hs⟩
  refine .tryCatch (M := fun _ _ => True) (.bind h fun _ => .ret fun _ hs => hs) fun e => ?_
  refine .bind (Q := fun _ _ => True) (.rollback ?_ fun s _ _ => ⟨fun _ => hobl s, trivial⟩)
    fun _ => .raise fun _ _ => trivial
  exact .or (.doomed true) (.pure True)

end MovieApi.Accounts.Concurrent
