import MovieApi.Accounts.Concurrent.LockOrder

/-!
# No deadlock on an account

Where each transaction stands at each of its locks, and so: within the regime,
refreshes, sign-ins, revocations, resets and deletions never wait for each other in
a cycle.
-/

namespace MovieApi.Accounts.Concurrent

open ReadCommitted Sql

variable {owners : Owners}

/-! ## Own locks and writes -/

/-- An assertion about the locks and writes of the session itself. -/
structure Own (t : Tid) (P : Store → Prop) : Prop where
  keep : ∀ {s s' : Store}, (∀ k m, s'.Holds t k m ↔ s.Holds t k m) → s'.writes t = s.writes t →
    P s → P s'

/-- Statements that read, or end in an error. -/
def Reads {α : Type} : Stmt α → Prop
  | .select _ => True
  | .sense _ => True
  | .reject _ => True
  | _ => False

section

variable {t : Tid} {P Q : Store → Prop} {α : Type}

theorem Own.stable (h : Own t P) : Stable (orderContract owners) t P :=
  ⟨fun hb hs => h.keep (fun _ _ => hb.holds_iff) hb.writes hs⟩

theorem Own.holds (k : Key) (m : LockMode) : Own t fun s => s.Holds t k m :=
  ⟨fun hlocks _ hs => (hlocks k m).2 hs⟩

theorem Own.pure (φ : Prop) : Own t fun _ => φ := ⟨fun _ _ h => h⟩

theorem Own.and (h : Own t P) (h' : Own t Q) : Own t fun s => P s ∧ Q s :=
  ⟨fun hlocks hwrites hs => ⟨h.keep hlocks hwrites hs.1, h'.keep hlocks hwrites hs.2⟩⟩

theorem Own.begin (h : Own t P) {s : Store} (hs : P s) : P (s.begin t) :=
  h.keep (fun _ _ => Store.holds_begin) rfl hs

theorem Own.reads (h : Own t P) {p : Prog α} (hp : p.Every Reads) :
    Triple (orderContract owners) t P p (fun _ => P) fun _ _ => True := by
  refine (Triple.every h.stable (fun {β} c hc s _ hs => ?_) hp).conseq (fun _ => id) (fun _ _ => id)
    fun _ _ _ => trivial
  cases c with
  | select query =>
      refine ⟨fun _ => List.forall_mem_nil _, fun a s' hexec => ?_⟩
      simp only [Stmt.exec] at hexec
      split at hexec <;> simp only [Option.some.injEq, Prod.mk.injEq] at hexec
      · exact hexec.2 ▸ hs
      · exact hexec.2 ▸ h.begin hs
  | sense read =>
      refine ⟨fun _ => List.forall_mem_nil _, fun a s' hexec => ?_⟩
      simp only [Stmt.exec, Option.some.injEq, Prod.mk.injEq] at hexec
      exact hexec.2 ▸ hs
  | reject error =>
      refine ⟨fun _ => List.forall_mem_nil _, fun a s' hexec => ?_⟩
      simp only [Stmt.exec] at hexec
      split at hexec <;> simp at hexec
  | lock | tryLock | enter | write | commit | rollback | tell | session => exact hc.elim

theorem lock_order {k : Key} {m : LockMode} (hP : Own t P)
    (hstands : ∀ s, P s → Stands owners t k s)
    (hQ : ∀ s, P s → Q ((s.begin t).acquire t [(k, m)])) :
    Triple (orderContract owners) t P (Prog.lock k m) (fun _ => Q) fun _ _ => True := by
  refine .lock hP.stable fun s _ hs _ => ⟨fun km hkm => ?_, fun _ => hQ s hs⟩
  rw [List.mem_singleton.1 hkm]
  exact hstands s hs

theorem write_order {w : Write} (hP : Own t P)
    (hstands : ∀ s, P s → ∀ km ∈ w.needs, Stands owners t km.1 s)
    (hQ : ∀ s, P s → Q (s.wrote t w)) :
    Triple (orderContract owners) t P (Prog.write w) (fun _ => Q) fun _ _ => True :=
  .write hP.stable fun s _ hs _ => ⟨hstands s hs, fun _ => hQ s hs⟩

theorem commit_order (hP : Own t P) :
    Triple (orderContract owners) t P Prog.commit (fun _ _ => True) fun _ _ => True :=
  .commit hP.stable fun _ _ _ => ⟨fun _ => trivial, fun _ => ⟨List.forall_mem_nil _, trivial⟩⟩

/-- Reading the clock, or the random numbers. -/
theorem sense_reads {read : World → α} : (Prog.sense read : Prog α).Every Reads := .perform trivial

theorem select_reads {query : Db → α} : (Prog.select query : Prog α).Every Reads := .perform trivial

/-! ## Signing in -/

/-- Before its first lock. -/
def Bare (t : Tid) (s : Store) : Prop := s.writes t = [] ∧ ∀ k m, ¬ s.Holds t k m

theorem Own.bare : Own t (Bare t) :=
  ⟨fun hlocks hwrites hs => ⟨hwrites.trans hs.1, fun k m hk => hs.2 k m ((hlocks k m).1 hk)⟩⟩

theorem Bare.stands {k : Key} {s : Store} (h : Bare t s) : Stands owners t k s := .bare h.2

theorem lockUser_order {id : Uuid} (hP : Own t P) (hP' : Own t Q)
    (hstands : ∀ s, P s → Stands owners t (.user id) s)
    (hQ : ∀ s, P s → Q ((s.begin t).acquire t [(.user id, .update)])) :
    Triple (orderContract owners) t P (lockUser id)
      (fun user? s => user?.isSome = true → Q s) fun _ _ => True := by
  refine .bind (hP.reads select_reads) fun found => ?_
  split
  · exact .bind (lock_order hP hstands hQ) fun _ =>
      .post (hP'.reads select_reads) fun _ _ hs _ => hs
  · exact .ret fun _ _ hnone => by simp at hnone

theorem referenceUser_order {id : Uuid} (hP : Own t P)
    (hown : ∀ s, P s → s.Holds t (.user id) .update)
    (hQ : ∀ s, P s → P ((s.begin t).acquire t [(.user id, .keyShare)])) :
    Triple (orderContract owners) t P (referenceUser id) (fun _ => P) fun _ _ => True := by
  refine .bind (lock_order hP (fun s hs => .own (hown s hs)) hQ) fun _ =>
    .bind (hP.reads select_reads) fun found => ?_
  split
  · exact .ret fun _ hs => hs
  · exact hP.reads (.perform trivial)

/-- A session is inserted under the lock of its user. -/
theorem addSession_order (row : Session) :
    Triple (orderContract owners) t (fun s => s.Holds t (.user row.userId) .update)
      (addSession row) (fun _ s => s.Holds t (.user row.userId) .update) fun _ _ => True := by
  have huser : Own t fun s => s.Holds t (.user row.userId) .update := .holds _ _
  have hboth : Own t fun s => s.Holds t (.user row.userId) .update ∧
      s.Holds t (.session row.id) .update := huser.and (.holds _ _)
  refine .bind (Q := fun entered s => s.Holds t (.user row.userId) .update ∧
    (entered = true → s.Holds t (.session row.id) .update)) (.enter huser.stable fun s _ hs _ =>
      ⟨List.forall_mem_nil _, fun _ _ => ⟨huser.begin hs, by simp⟩, fun _ _ => ⟨?_, by simp⟩⟩)
      fun entered => ?_
  · exact Store.holds_acquire.2 (.inr hs)
  · split
    · next hentered =>
        refine .pre (.bind (referenceUser_order hboth (fun _ hs => hs.1) fun s hs =>
          ⟨Store.holds_acquire.2 (.inr hs.1), Store.holds_acquire.2 (.inr hs.2)⟩) fun _ => ?_)
          fun s hs => ⟨hs.1, hs.2 hentered⟩
        refine write_order hboth (fun s hs km hkm => ?_) fun s hs =>
          Store.holds_acquire.2 (.inr hs.1)
        simp only [Write.needs, List.mem_cons, List.not_mem_nil, or_false] at hkm
        rcases hkm with rfl | rfl
        · exact .own hs.2
        · exact .own hs.1
    · exact .pre (huser.reads (.perform trivial)) fun s hs => hs.1

theorem countActiveSessions_reads (userId : Uuid) :
    (countActiveSessions userId).Every Reads :=
  .bind sense_reads fun _ => select_reads

theorem createSession_order (settings : Settings) (userId : Uuid) :
    Triple (orderContract owners) t (Bare t) (createSession settings userId)
      (fun _ s => s.Holds t (.user userId) .update) fun _ _ => True := by
  have huser : Own t fun s => s.Holds t (.user userId) .update := .holds _ _
  refine .bind (lockUser_order .bare huser (fun _ hs => hs.stands) fun _ _ => by simp)
    fun user? => ?_
  cases user? with
  | none => exact .raise fun _ _ => trivial
  | some user =>
      refine .pre (.bind (huser.reads (countActiveSessions_reads userId)) fun n => ?_)
        fun s hs => hs rfl
      split
      · exact .raise fun _ _ => trivial
      · exact .bind (huser.reads sense_reads) fun now => .bind (huser.reads sense_reads) fun id =>
          .bind (addSession_order (newSession settings now id userId)) fun _ =>
            .ret fun _ hs => hs

/-! ## Refreshes and revocations -/

/-- The session's row is all that is locked. -/
def OnlySession (id : Uuid) (t : Tid) (s : Store) : Prop :=
  s.Holds t (.session id) .update ∧ Low t s

theorem Own.low : Own t (Low t) :=
  ⟨fun hlocks _ hs => ⟨fun userId m hk => hs.user userId m ((hlocks _ m).1 hk),
    fun id m hk => hs.session id m ((hlocks _ m).1 hk)⟩⟩

theorem Own.onlySession (id : Uuid) : Own t (OnlySession id t) := .and (.holds _ _) .low

theorem Bare.onlySession {id : Uuid} {s : Store} (h : Bare t s) :
    OnlySession id t ((s.begin t).acquire t [(.session id, .update)]) := by
  refine ⟨by simp, fun userId m hk => ?_, fun id' m hk => ?_⟩
  · rcases Store.holds_acquire.1 hk with ⟨-, hnew⟩ | hold
    · simp at hnew
    · exact h.2 _ _ hold
  · rcases Store.holds_acquire.1 hk with ⟨-, hnew⟩ | hold
    · simp only [List.mem_singleton, Prod.mk.injEq] at hnew
      exact hnew.2
    · exact absurd hold (h.2 _ _)

theorem lockSession_order (id : Uuid) :
    Triple (orderContract owners) t (Bare t) (lockSession id)
      (fun session? s => ∀ row, session? = some row → row.id = id ∧ OnlySession id t s)
      fun _ _ => True := by
  refine .bind (Own.bare.reads select_reads) fun found => ?_
  split
  · refine .bind (lock_order .bare (fun _ hs => hs.stands) fun s hs => hs.onlySession) fun _ => ?_
    refine .select (Own.onlySession id).stable fun s _ hs _ =>
      ⟨List.forall_mem_nil _, fun row hrow => ⟨?_, (Own.onlySession id).begin hs⟩⟩
    exact key_of_lookup (Option.filter_eq_some_iff.1 hrow).1
  · exact .ret fun _ _ row hrow => by cases hrow

/-- The last write of a refresh. -/
theorem saveSession_order {session : Session} (row : Session) :
    Triple (orderContract owners) t (fun s => s.Holds t (.session session.id) .update)
      (Prog.write (.updateSession session row))
      (fun _ s => s.Holds t (.session session.id) .update) fun _ _ => True := by
  refine write_order (.holds _ _) (fun s hs km hkm => ?_) fun s hs => Store.holds_acquire.2 (.inr hs)
  rw [List.mem_singleton.1 hkm]
  exact .own hs

theorem keptOut_reads (settings : Settings) (now : Instant) (session : Session) (userId : Uuid) :
    (keptOut settings now session userId).Every Reads := by
  unfold keptOut
  split
  · exact .bind (countActiveSessions_reads userId) fun _ => trivial
  · trivial

theorem extendSession_order (settings : Settings) (now : Instant) (claims : Claims)
    (session : Session) (next : Nat) :
    Triple (orderContract owners) t (OnlySession session.id t)
      (extendSession settings now claims session next) (fun _ _ => True) fun _ _ => True := by
  have hsession : Own t fun s => s.Holds t (.session session.id) .update := .holds _ _
  refine .bind (lockUser_order (Own.onlySession session.id) hsession
    (fun s hs => .forUser claims.sub rfl hs.2) fun s hs => Store.holds_acquire.2 (.inr hs.1))
    fun user? => ?_
  cases hfound : Option.filter User.isActive user? with
  | none => exact .raise fun _ _ => trivial
  | some user =>
      have hsome : user?.isSome = true := by
        rw [(Option.filter_eq_some_iff.1 hfound).1]
        rfl
      refine .pre (.bind (hsession.reads (keptOut_reads settings now session claims.sub))
        fun kept => ?_) fun s hs => hs hsome
      split
      · exact .raise fun _ _ => trivial
      · exact .bind (saveSession_order _) fun _ => .bind (commit_order hsession) fun _ =>
          .bind ((Own.pure True).reads sense_reads) fun _ => .ret fun _ _ => trivial

theorem refreshSession_order (settings : Settings) (claims : Claims) :
    Triple (orderContract owners) t (Bare t) (refreshSession settings claims)
      (fun _ _ => True) fun _ _ => True := by
  refine .bind (Own.bare.reads sense_reads) fun now => .bind (lockSession_order claims.sid)
    fun session? => ?_
  cases session? with
  | none => exact .raise fun _ _ => trivial
  | some session =>
      have honly : ∀ s, (∀ row, some session = some row → row.id = claims.sid ∧
          OnlySession claims.sid t s) → OnlySession session.id t s := by
        intro s hs
        obtain ⟨hid, hlocked⟩ := hs session rfl
        rwa [hid]
      refine .pre ?_ honly
      dsimp only
      split
      · exact .raise fun _ _ => trivial
      split
      · exact .raise fun _ _ => trivial
      cases session.nextVersion now claims.version with
      | none =>
          exact .pre (.bind (saveSession_order _) fun _ => .bind (commit_order (.holds _ _))
            fun _ => .raise fun _ _ => trivial) fun s hs => hs.1
      | some next => exact extendSession_order settings now claims session next

theorem revokeSession_order (userId id : Uuid) :
    Triple (orderContract owners) t (Bare t) (revokeSession userId id)
      (fun _ _ => True) fun _ _ => True := by
  refine .bind (Own.bare.reads select_reads) fun found => ?_
  cases Option.filter (fun row : Session =>
      decide (row.userId = userId ∧ row.revokedAt = none)) found with
  | none => exact .raise fun _ _ => trivial
  | some session =>
      exact .bind (Own.bare.reads sense_reads) fun now =>
        .bind (write_order (Q := fun _ => True) .bare (fun s hs _ _ => hs.stands)
          fun _ _ => trivial) fun _ => commit_order (.pure True)

/-! ## Resets -/

/-- The reset link's row is all that is locked. -/
structure OnlyLink (tokenHash : String) (t : Tid) (s : Store) : Prop where
  locked : s.Holds t (.resetToken tokenHash) .update
  user : ∀ userId m, ¬ s.Holds t (.user userId) m
  session : ∀ id m, ¬ s.Holds t (.session id) m

/-- The reset link and the user are locked, and no session. -/
structure NoSession (tokenHash : String) (t : Tid) (s : Store) : Prop where
  locked : s.Holds t (.resetToken tokenHash) .update
  session : ∀ id m, ¬ s.Holds t (.session id) m

/-- The sessions of the user are gone through. -/
structure GoingThrough (owners : Owners) (userId : Uuid) (t : Tid) (s : Store) : Prop where
  resetting : Resetting owners s t userId
  session : ∀ id m, s.Holds t (.session id) m → owners.session id = userId

theorem Own.onlyLink (tokenHash : String) : Own t (OnlyLink tokenHash t) :=
  ⟨fun hlocks _ hs => ⟨(hlocks _ _).2 hs.locked, fun userId m hk => hs.user userId m ((hlocks _ m).1 hk),
    fun id m hk => hs.session id m ((hlocks _ m).1 hk)⟩⟩

theorem Own.noSession (tokenHash : String) : Own t (NoSession tokenHash t) :=
  ⟨fun hlocks _ hs => ⟨(hlocks _ _).2 hs.locked,
    fun id m hk => hs.session id m ((hlocks _ m).1 hk)⟩⟩

theorem Own.goingThrough (userId : Uuid) : Own t (GoingThrough owners userId t) := by
  refine ⟨fun hlocks hwrites hs => ⟨?_, fun id m hk => hs.session id m ((hlocks _ m).1 hk)⟩⟩
  obtain ⟨w, hw, hresets⟩ := hs.resetting
  exact ⟨w, hwrites ▸ hw, hresets⟩

theorem OnlyLink.low {tokenHash : String} {s : Store} (h : OnlyLink tokenHash t s) : Low t s :=
  ⟨h.user, fun id m hk => absurd hk (h.session id m)⟩

theorem OnlyLink.noSession {tokenHash : String} {s : Store} (h : OnlyLink tokenHash t s) :
    NoSession tokenHash t s :=
  ⟨h.locked, h.session⟩

theorem lockResetToken_order (tokenHash : String) :
    Triple (orderContract owners) t (Bare t) (lockResetToken tokenHash)
      (fun found s => ∀ row, found = some row → row.tokenHash = tokenHash ∧
        owners.token tokenHash = row.userId ∧ OnlyLink tokenHash t s) fun _ _ => True := by
  refine .bind (Own.bare.reads select_reads) fun found => ?_
  split
  · refine .bind (lock_order (Q := OnlyLink tokenHash t) .bare (fun _ hs => hs.stands) fun s hs =>
      ⟨by simp, fun userId m hk => ?_, fun id m hk => ?_⟩) fun _ => ?_
    · rcases Store.holds_acquire.1 hk with ⟨-, hnew⟩ | hold
      · simp at hnew
      · exact hs.2 _ _ hold
    · rcases Store.holds_acquire.1 hk with ⟨-, hnew⟩ | hold
      · simp at hnew
      · exact hs.2 _ _ hold
    · refine .select (Own.onlyLink tokenHash).stable fun s hcalm hs _ =>
        ⟨List.forall_mem_nil _, fun row hrow => ?_⟩
      have hkey : row.tokenHash = tokenHash := key_of_lookup hrow
      refine ⟨hkey, ?_, (Own.onlyLink tokenHash).begin hs⟩
      rw [← hkey]
      exact (hcalm.inv.view t).2 row (mem_of_lookup hrow)
  · exact .ret fun _ _ row hrow => by cases hrow

theorem savePassword_order {tokenHash : String} (user : User) (hashed : String) :
    Triple (orderContract owners) t (OnlyLink tokenHash t) (savePassword user hashed)
      (fun _ => NoSession tokenHash t) fun _ _ => True := by
  unfold savePassword
  split
  · exact .ret fun _ hs => hs.noSession
  · refine write_order (.onlyLink tokenHash) (fun s hs km hkm => ?_) fun s hs =>
      ⟨Store.holds_acquire.2 (.inr hs.locked), fun id m hk => ?_⟩
    · rw [List.mem_singleton.1 hkm]
      exact .forUser user.id rfl hs.low
    · rcases Store.holds_acquire.1 hk with ⟨-, hnew⟩ | hold
      · simp [Write.needs] at hnew
      · exact hs.session _ _ hold

/-- From here on the transaction is resetting a password. -/
theorem useResetToken_order {tokenHash : String} {userId : Uuid} (now : Instant)
    (howner : owners.token tokenHash = userId) :
    Triple (orderContract owners) t (NoSession tokenHash t)
      (Prog.write (.useResetToken tokenHash now)) (fun _ => GoingThrough owners userId t)
      fun _ _ => True := by
  refine write_order (.noSession tokenHash) (fun s hs km hkm => ?_) fun s hs => ⟨?_, fun id m hk => ?_⟩
  · rw [List.mem_singleton.1 hkm]
    exact .own hs.locked
  · exact exists_record.2 (.inr ⟨rfl, by rw [Write.resets, howner]⟩)
  · rcases Store.holds_acquire.1 hk with ⟨-, hnew⟩ | hold
    · simp [Write.needs] at hnew
    · exact absurd hold (hs.session _ _)

/-- Another session of the user is locked. -/
theorem GoingThrough.acquire {userId id : Uuid} {m : LockMode} {s : Store}
    (h : GoingThrough owners userId t s) (hid : owners.session id = userId) :
    GoingThrough owners userId t ((s.begin t).acquire t [(.session id, m)]) := by
  refine ⟨h.resetting, fun id' m' hk => ?_⟩
  rcases Store.holds_acquire.1 hk with ⟨-, hnew⟩ | hold
  · simp only [List.mem_singleton, Prod.mk.injEq, Key.session.injEq] at hnew
    rw [hnew.1]
    exact hid
  · exact h.session id' m' hold

theorem GoingThrough.stands {userId id : Uuid} {s : Store} (h : GoingThrough owners userId t s)
    (hid : owners.session id = userId) : Stands owners t (.session id) s := by
  subst hid
  exact .resetting id rfl h.resetting h.session

theorem revokeAll_order {userId : Uuid} (now : Instant) (snapshot : List Uuid)
    (hsnapshot : ∀ id ∈ snapshot, owners.session id = userId) :
    Triple (orderContract owners) t (GoingThrough owners userId t)
      (Prog.forEach snapshot fun id => do
        Prog.lock (.session id) .noKeyUpdate
        match (← Prog.select fun d => d.session? id).filter (unrevokedOf userId) with
        | some _ => Prog.write (.revokeSession id now)
        | none => return ()) (fun _ => GoingThrough owners userId t) fun _ _ => True := by
  have hgoing : Own t (GoingThrough owners userId t) := .goingThrough userId
  refine .forEach fun id hid => ?_
  have howner : owners.session id = userId := hsnapshot id hid
  refine .bind (lock_order hgoing (fun s hs => hs.stands howner) fun s hs => hs.acquire howner)
    fun _ => .bind (hgoing.reads select_reads) fun found => ?_
  cases Option.filter (unrevokedOf userId) found with
  | none => exact .ret fun _ hs => hs
  | some _ =>
      refine write_order hgoing (fun s hs km hkm => ?_) fun s hs => ?_
      · rw [List.mem_singleton.1 hkm]
        exact hs.stands howner
      · obtain ⟨w, hw, hresets⟩ := hs.resetting
        exact ⟨exists_record.2 (.inl ⟨w, hw, hresets⟩), (hs.acquire howner).session⟩

theorem resetPassword_order (hashing : Hashing) (token hashed : String) :
    Triple (orderContract owners) t (Bare t) (resetPassword hashing token hashed)
      (fun _ _ => True) fun _ _ => True := by
  refine .bind (lockResetToken_order (hashing.hashResetToken token)) fun found => ?_
  have hfound : Own t fun s => ∀ row, found = some row →
      row.tokenHash = hashing.hashResetToken token ∧
        owners.token (hashing.hashResetToken token) = row.userId ∧
          OnlyLink (hashing.hashResetToken token) t s :=
    ⟨fun hlocks hwrites hs row hrow =>
      ⟨(hs row hrow).1, (hs row hrow).2.1, (Own.onlyLink _).keep hlocks hwrites (hs row hrow).2.2⟩⟩
  refine .bind (hfound.reads sense_reads) fun now => ?_
  cases hrow : Option.filter (fun row : PasswordResetToken =>
      row.usedAt.isNone && decide (now ≤ row.expiresAt)) found with
  | none => exact .raise fun _ _ => trivial
  | some row =>
      have hsome : found = some row := (Option.filter_eq_some_iff.1 hrow).1
      refine .given (φ := row.tokenHash = hashing.hashResetToken token ∧
        owners.token (hashing.hashResetToken token) = row.userId)
        (fun s hs => ⟨(hs row hsome).1, (hs row hsome).2.1⟩) fun ⟨hkey, howner⟩ => ?_
      rw [← hkey] at howner
      have hlink : Own t (OnlyLink row.tokenHash t) := .onlyLink _
      have hid {d : Db} {user : User} (huser : d.user? row.userId = some user) :
          user.id = row.userId := key_of_lookup huser
      refine .pre (.bind (Q := fun user? s => (∀ user, user? = some user → user.id = row.userId) ∧
        OnlyLink row.tokenHash t s) (.select hlink.stable fun s _ hs _ =>
          ⟨List.forall_mem_nil _, fun user huser => hid huser,
            hlink.begin hs⟩)
        fun user? => ?_) fun s hs => hkey ▸ (hs row hsome).2.2
      cases huser : Option.filter User.isActive user? with
      | none => exact .raise fun _ _ => trivial
      | some user =>
          refine .given (φ := user.id = row.userId)
            (fun s hs => hs.1 user (Option.filter_eq_some_iff.1 huser).1) fun hid => ?_
          have hgoing : Own t (GoingThrough owners user.id t) := .goingThrough user.id
          refine .bind ?_ fun _ => commit_order hgoing
          refine .pre (.bind (hlink.reads sense_reads) fun now' => .bind (.bind
            (savePassword_order user hashed) fun _ =>
              useResetToken_order now (howner.trans hid.symm)) fun _ => .bind
            (Q := fun snapshot s => (∀ id ∈ snapshot, owners.session id = user.id) ∧
              GoingThrough owners user.id t s) (.select hgoing.stable fun s hcalm hs _ =>
                ⟨List.forall_mem_nil _, fun id hid' => ?_, hgoing.begin hs⟩) fun snapshot =>
            .given (fun s hs => hs.1) fun hsnapshot =>
              .pre (revokeAll_order now' snapshot hsnapshot) fun s hs => hs.2) fun s hs => hs.2
          obtain ⟨session, hsession, rfl⟩ := List.mem_map.1 hid'
          obtain ⟨hmem, hunrevoked⟩ := List.mem_filter.1 hsession
          have hsession' : session.userId = user.id := (of_decide_eq_true hunrevoked).1
          exact ((hcalm.inv.view t).1 session hmem).trans hsession'

/-! ## Deletions -/

/-- Only rows of the account are locked, to be deleted. -/
structure Wiping (owners : Owners) (userId : Uuid) (t : Tid) (s : Store) : Prop where
  low : Low t s
  rows : ∀ k m, s.Holds t k m → k.owner owners = some userId ∧ Sweeping s t userId

theorem Own.wiping (userId : Uuid) : Own t (Wiping owners userId t) := by
  refine ⟨fun hlocks hwrites hs => ⟨Own.low.keep hlocks hwrites hs.low, fun k m hk => ?_⟩⟩
  obtain ⟨howner, w, hw, hsweeps⟩ := hs.rows k m ((hlocks k m).1 hk)
  exact ⟨howner, w, hwrites ▸ hw, hsweeps⟩

theorem Bare.wiping {userId : Uuid} {s : Store} (h : Bare t s) : Wiping owners userId t s :=
  ⟨⟨fun _ _ => h.2 _ _, fun _ _ hk => absurd hk (h.2 _ _)⟩, fun k m hk => absurd hk (h.2 k m)⟩

/-- One row of the account is deleted. -/
theorem deleteRow_order {userId : Uuid} {w : Write} {k : Key} (hneeds : w.needs = [(k, .update)])
    (howner : k.owner owners = some userId) (hsweeps : w.sweeps = some userId) :
    Triple (orderContract owners) t (Wiping owners userId t) (Prog.write w)
      (fun _ => Wiping owners userId t) fun _ _ => True := by
  refine write_order (.wiping userId) (fun s hs km hkm => ?_) fun s hs => ?_
  · rw [hneeds] at hkm
    rw [List.mem_singleton.1 hkm]
    exact .sweeping userId howner hs.low hs.rows
  · have hsweep : Sweeping (s.wrote t w) t userId := exists_record.2 (.inr ⟨rfl, hsweeps⟩)
    have hheld : ∀ {k' m}, (s.wrote t w).Holds t k' m → (k' = k ∧ m = .update) ∨ s.Holds t k' m := by
      intro k' m hk
      rcases Store.holds_acquire.1 hk with ⟨-, hnew⟩ | hold
      · rw [needs_eq, hneeds, List.mem_singleton, Prod.mk.injEq] at hnew
        exact .inl hnew
      · exact .inr hold
    refine ⟨⟨fun user m hk => ?_, fun id m hk => ?_⟩, fun k' m hk => ⟨?_, hsweep⟩⟩
    · rcases hheld hk with ⟨rfl, -⟩ | hold
      · cases howner
      · exact hs.low.user user m hold
    · rcases hheld hk with ⟨-, rfl⟩ | hold
      · rfl
      · exact hs.low.session id m hold
    · rcases hheld hk with ⟨rfl, -⟩ | hold
      · exact howner
      · exact (hs.rows k' m hold).1

theorem saveEmptied_order {userId : Uuid} (user : User) :
    Triple (orderContract owners) t (Wiping owners userId t) (saveEmptied user)
      (fun _ _ => True) fun _ _ => True := by
  unfold saveEmptied
  split
  · exact .ret fun _ _ => trivial
  · refine write_order (.wiping userId) (fun s hs km hkm => ?_) fun _ _ => trivial
    rw [List.mem_singleton.1 hkm]
    exact .forUser user.id rfl hs.low

theorem deleteUserAccount_order (sessionScan : Scan Uuid) (tokenScan : Scan String)
    (userId : Uuid) :
    Triple (orderContract owners) t (Bare t) (deleteUserAccount sessionScan tokenScan userId)
      (fun _ _ => True) fun _ _ => True := by
  refine .bind (Own.bare.reads select_reads) fun found => ?_
  cases Option.filter User.isActive found with
  | none => exact .raise fun _ _ => trivial
  | some user =>
      dsimp only
      split
      · exact .raise fun _ _ => trivial
      have hwiping : Own t (Wiping owners user.id t) := .wiping user.id
      refine .pre (.bind (Q := fun ids s => (∀ id ∈ ids, owners.session id = user.id) ∧
        Wiping owners user.id t s) (.select hwiping.stable fun s hcalm hs _ =>
          ⟨List.forall_mem_nil _, fun id hid => ?_, hwiping.begin hs⟩) fun ids =>
        .bind (.given (fun s hs => hs.1) fun hids => .pre (.forEach fun id hid =>
          deleteRow_order rfl ?_ rfl) fun s hs => hs.2) fun _ =>
        .bind (Q := fun hashes s => (∀ hash ∈ hashes, owners.token hash = user.id) ∧
          Wiping owners user.id t s) (.select hwiping.stable fun s hcalm hs _ =>
            ⟨List.forall_mem_nil _, fun hash hhash => ?_, hwiping.begin hs⟩) fun hashes =>
        .bind (.given (fun s hs => hs.1) fun hhashes => .pre (.forEach fun hash hhash =>
          deleteRow_order rfl ?_ rfl) fun s hs => hs.2) fun _ =>
        .bind (saveEmptied_order user) fun _ => commit_order (.pure True)) fun s hs => hs.wiping
      · obtain ⟨row, hrow, rfl⟩ := List.mem_map.1 hid
        obtain ⟨hmem, howner⟩ := List.mem_filter.1 hrow
        exact ((hcalm.inv.view t).1 row hmem).trans (of_decide_eq_true howner)
      · exact congrArg some (hids id ((sessionScan.perm ids).mem_iff.1 hid))
      · obtain ⟨row, hrow, rfl⟩ := List.mem_map.1 hhash
        obtain ⟨hmem, howner⟩ := List.mem_filter.1 hrow
        exact ((hcalm.inv.view t).2 row hmem).trans (of_decide_eq_true howner)
      · exact congrArg some (hhashes hash ((tokenScan.perm hashes).mem_iff.1 hhash))

theorem prog_order (hashing : Hashing) (settings : Settings) (request : AccountRequest) :
    Triple (orderContract owners) t (Bare t) (request.prog hashing settings) (fun _ _ => True)
      fun _ _ => True := by
  have hclosing {α : Type} {p : Prog α}
      (h : Triple (orderContract owners) t (Bare t) p (fun _ _ => True) fun _ _ => True) :
      Triple (orderContract owners) t (Bare t) (closing p) (fun _ _ => True) fun _ _ => True :=
    closing_triple h (.pure True) (fun _ _ => trivial) fun _ => List.forall_mem_nil _
  cases request with
  | createSession userId =>
      exact hclosing (.bind (createSession_order settings userId) fun _ =>
        commit_order (.holds _ _))
  | refresh claims => exact hclosing (refreshSession_order settings claims)
  | revoke userId id => exact hclosing (revokeSession_order userId id)
  | reset token hashed => exact hclosing (resetPassword_order hashing token hashed)
  | deleteAccount sessionScan tokenScan userId =>
      exact hclosing (deleteUserAccount_order sessionScan tokenScan userId)

end

/-! ## No deadlock -/

/-- While no session of a user is locked for a refresh or a deletion during a reset of
the user's password, and deletions of one account and resets of one password do not
overlap, no transactions wait for each other in a cycle. -/
theorem apart_not_deadlocked (hashing : Hashing) (settings : Settings) (d : Db) (world : World)
    (requests : Tid → AccountRequest) (owners : Owners)
    (hsessions : ∀ row ∈ d.sessions, owners.session row.id = row.userId)
    (htokens : ∀ row ∈ d.resetTokens, owners.token row.tokenHash = row.userId) {q : Pool}
    (h : Pool.Run (apart owners) (startAccounts hashing settings d world requests) q) :
    ¬ q.Deadlocked := by
  have hinv : Apart owners (.idle d .empty world) :=
    { sessions := hsessions
      tokens := htokens
      inserts := fun t w hw => by cases hw
      untaken := fun _ ⟨w, hw, _⟩ => by cases hw
      oneReset := fun ⟨w, hw, _⟩ => by cases hw
      oneSweep := fun ⟨w, hw, _⟩ => by cases hw }
  have hstart : Pool.Keeps (orderContract owners) (fun _ _ => True)
      (fun t _ s => s.doomed t = true ∨ True)
      (startAccounts hashing settings d world requests) :=
    Pool.Keeps.start hinv fun t => (prog_order hashing settings (requests t)).pre fun s hs => by
      subst hs
      exact ⟨rfl, fun k m hk => by cases hk⟩
  have hkeeps := (hstart.run orderContract_sound (fun _ => .pure True)
    (fun _ _ => .or (.doomed true) (.pure True)) h).1
  refine not_deadlocked hkeeps.calm.disciplined hkeeps.calm.inv fun {t k u} hwaits => ?_
  obtain ⟨hd, hne, _, c, next, m, hprog, hkm, hheld⟩ := hwaits
  have hobl := hkeeps.obl hprog trivial hd
  cases c with
  | tryLock => exact hobl.elim
  | _ => exact hobl (k, m) hkm

/-- A refresh of the only session, and sign-ins. -/
def Desk.refreshAndSignIns : Tid → AccountRequest
  | 0 => .refresh Desk.claims
  | _ => .createSession 1

/-- Everything belongs to the one user. -/
def Desk.onlyUser : Owners := ⟨fun _ => 1, fun _ => 1⟩

theorem signIn_waits : ∃ q,
    Pool.Run (apart Desk.onlyUser)
      (startAccounts Desk.hashing Desk.settings Desk.db ⟨99, 2⟩ Desk.refreshAndSignIns) q ∧
      q.waitsFor 1 0 = true ∧ ¬ q.Deadlocked := by
  obtain ⟨q, hrun, hwaits⟩ := Pool.exists_run_of_play (f := fun q : Pool => q.waitsFor 1 0)
    (show (Pool.play (apart Desk.onlyUser)
      (startAccounts Desk.hashing Desk.settings Desk.db ⟨99, 2⟩ Desk.refreshAndSignIns)
      (Desk.runs 0 6 ++ Desk.runs 1 1)).any _ = true by decide)
  exact ⟨q, hrun, hwaits, apart_not_deadlocked Desk.hashing Desk.settings Desk.db ⟨99, 2⟩
    Desk.refreshAndSignIns Desk.onlyUser (by decide) (by decide) hrun⟩

/-- A refresh of the only session, and resets of the password. -/
def Desk.refreshAndReset : Tid → AccountRequest
  | 0 => .refresh Desk.claims
  | _ => .reset "link" "new"

/-- The refresh locks the session, the reset flushes the new password, and now the
refresh waits for the user and the reset for the session. -/
theorem refresh_reset_deadlocked : ∃ q,
    Pool.Run .any (startAccounts Desk.hashing Desk.settings Desk.db ⟨99, 2⟩ Desk.refreshAndReset) q ∧
      q.Deadlocked := by
  obtain ⟨q, hrun, hwaits⟩ := Pool.exists_run_of_play
    (f := fun q : Pool => q.waitsFor 0 1 && q.waitsFor 1 0)
    (show (Pool.play .any
      (startAccounts Desk.hashing Desk.settings Desk.db ⟨99, 2⟩ Desk.refreshAndReset)
      (Desk.runs 0 5 ++ Desk.runs 1 9)).any _ = true by decide)
  obtain ⟨h01, h10⟩ := Bool.and_eq_true_iff.1 hwaits
  exact ⟨q, hrun, 0, .tail (.single h01) h10⟩

end MovieApi.Accounts.Concurrent
