import MovieApi.Accounts.Concurrent.Conduct

/-!
# The device limit

A new session, and a refresh of one that has lapsed, count the user's active
sessions under the lock of the user's row and keep the lock until they commit.
A refresh reads the clock before it waits for its locks, so it can take a
session that lapses meanwhile for one that holds a slot.
-/

namespace MovieApi.Accounts.Concurrent

open ReadCommitted Sql

variable {settings : Settings} {userId : Uuid}

/-! ## Counting -/

theorem countActiveSessions_eq (d : Db) (userId : Uuid) (now : Instant) :
    d.countActiveSessions userId now =
      d.sessions.countP fun row => decide (row.userId = userId) && row.active now :=
  List.countP_eq_length_filter.symm

/-- Time takes sessions out of use. -/
theorem countActiveSessions_antitone {now now' : Instant} (h : now ≤ now') (d : Db) :
    d.countActiveSessions userId now' ≤ d.countActiveSessions userId now := by
  rw [countActiveSessions_eq, countActiveSessions_eq]
  refine List.countP_mono_left fun row _ hrow => ?_
  simp only [Session.active, Bool.and_eq_true, decide_eq_true_eq] at hrow ⊢
  exact ⟨hrow.1, hrow.2.1, h.trans_lt hrow.2.2⟩

theorem countActiveSessions_insert (d : Db) (row : Session) (now : Instant) :
    ((Write.insertSession row).apply d).countActiveSessions userId now ≤
      d.countActiveSessions userId now + if row.userId = userId then 1 else 0 := by
  rw [countActiveSessions_eq, countActiveSessions_eq]
  simp only [Write.apply, List.countP_append, List.countP_singleton]
  by_cases h : row.userId = userId <;> simp only [h, decide_true, decide_false, Bool.true_and,
    Bool.false_and, Bool.false_eq_true, if_false, if_true]
  · split <;> simp
  · simp

/-- A write that adds no active session of the user. -/
def Write.Lessens (userId : Uuid) (w : Write) : Prop :=
  ∀ d : Db, (Unique Session.id d.sessions → Unique Session.id (w.apply d).sessions) ∧
    ∀ now, (w.apply d).countActiveSessions userId now ≤ d.countActiveSessions userId now

theorem lessens_of_revokes {id : Uuid} {f : Session → Session} (hid : ∀ row, (f row).id = row.id)
    (hf : ∀ row, (f row).revokedAt ≠ none) (d : Db) :
    (Unique Session.id d.sessions → Unique Session.id (modify Session.id id f d.sessions)) ∧
      ∀ now, ({ d with sessions := modify Session.id id f d.sessions } : Db).countActiveSessions
        userId now ≤ d.countActiveSessions userId now := by
  refine ⟨fun hu => hu.modify fun row h => (hid row).trans h, fun now => ?_⟩
  rw [countActiveSessions_eq, countActiveSessions_eq]
  refine countP_modify_le fun row _ _ hrow => ?_
  simp [Session.active, hf row] at hrow

theorem revokeSession_lessens (id : Uuid) (now : Instant) :
    (Write.revokeSession id now).Lessens userId :=
  lessens_of_revokes (fun _ => rfl) fun _ => by simp [Session.revoked]

theorem revoked_lessens {session : Session} (hlive : session.revokedAt = none) (now : Instant) :
    (Write.updateSession session (session.revoked now)).Lessens userId :=
  lessens_of_revokes (fun _ => rfl) fun _ => by simp [flushSession, Session.revoked, flush, hlive]

theorem setPassword_lessens (user : Uuid) (hashed : String) :
    (Write.setPassword user hashed).Lessens userId :=
  fun _ => ⟨id, fun _ => le_rfl⟩

theorem useResetToken_lessens (tokenHash : String) (now : Instant) :
    (Write.useResetToken tokenHash now).Lessens userId :=
  fun _ => ⟨id, fun _ => le_rfl⟩

theorem applyAll_lessens {ws : List Write} (h : ∀ w ∈ ws, w.Lessens userId) (d : Db) :
    (Unique Session.id d.sessions → Unique Session.id (applyAll ws d).sessions) ∧
      ∀ now, (applyAll ws d).countActiveSessions userId now ≤ d.countActiveSessions userId now := by
  refine applyAll_induction (P := fun d' : Db => (Unique Session.id d.sessions →
    Unique Session.id d'.sessions) ∧ ∀ now,
      d'.countActiveSessions userId now ≤ d.countActiveSessions userId now)
    ⟨id, fun _ => le_rfl⟩ fun w hw d' hd' => ?_
  obtain ⟨hunique, hcount⟩ := h w hw d'
  exact ⟨fun hu => hunique (hd'.1 hu), fun now => (hcount now).trans (hd'.2 now)⟩

/-! ## The contract -/

/-- The user whose session a refresh extends although it has lapsed since the
refresh read the clock. -/
def Write.lateRefresh (settings : Settings) (now : Instant) : Write → Option Uuid
  | .updateSession loaded row =>
      -- the refresh read the clock at `row.expiresAt - settings.lifetime`
      if row.revokedAt = none ∧ row.expiresAt - settings.lifetime < loaded.expiresAt ∧
          loaded.expiresAt ≤ now then some loaded.userId
      else none
  | _ => none

/-- The clock never goes back, and a refresh that commits late finds a slot. -/
def freeSlots (settings : Settings) : Regime where
  stmt t _ c s :=
    match c with
    | .commit => (s.writes t).all fun w => (w.lateRefresh settings s.world.now).all fun userId =>
        decide (s.db.countActiveSessions userId s.world.now < settings.maxActiveSessionsPerUser)
    | .tell act => decide (s.world.now ≤ (act s.world).now)
    | _ => true
  outside e s := decide (s.world.now ≤ e.now)

/-- The limit holds for the user, and ids are unique. -/
structure Limited (settings : Settings) (userId : Uuid) (d : Db) (now : Instant) : Prop where
  unique : Unique Session.id d.sessions
  within : d.countActiveSessions userId now ≤ settings.maxActiveSessionsPerUser

theorem Limited.later {d : Db} {now now' : Instant} (h : Limited settings userId d now)
    (hle : now ≤ now') : Limited settings userId d now' :=
  ⟨h.unique, (countActiveSessions_antitone hle d).trans h.within⟩

/-- Who holds the user's row keeps new active sessions of the user away. -/
def slotContract (settings : Settings) (userId : Uuid) : Contract where
  Inv s := Limited settings userId s.db s.world.now
  Obl t _ c s :=
    match c with
    | .commit => Limited settings userId (s.view t) s.world.now ∧
        (¬ s.Holds t (.user userId) .update → ∀ now,
          (s.view t).countActiveSessions userId now ≤ s.db.countActiveSessions userId now)
    | _ => True
  Rely s s' := s.world.now ≤ s'.world.now
  rely_refl _ := le_rfl
  rely_trans h h' := le_trans h h'
  Spares t s s' := s'.locksOf t = s.locksOf t ∧ (s.Holds t (.user userId) .update → ∀ now,
    s'.db.countActiveSessions userId now ≤ s.db.countActiveSessions userId now)
  spares_refl _ _ := ⟨rfl, fun _ _ => le_rfl⟩
  spares_trans h h' := ⟨h'.1.trans h.1, fun hheld now => (h'.2 (by
    rwa [Store.holds_iff_mem_locksOf, h.1, ← Store.holds_iff_mem_locksOf]) now).trans
      (h.2 hheld now)⟩
  Allows t _ c s := (freeSlots settings).stmt t c s = true

theorem slotContract_easy : (slotContract settings userId).Easy fun _ => True := by
  intro β c hc t s
  cases c <;> first | exact hc.elim | trivial

theorem slotContract_sound : (slotContract settings userId).Sound (freeSlots settings) := by
  refine .of_moves ?_ ?_ ?_ ?_ ?_ ?_ ?_ ?_ id
  · intro t s s' hq hworld hs
    refine ⟨?_, ?_⟩
    · show Limited settings userId s'.db s'.world.now
      rw [hq.db, hworld]
      exact hs
    · show s.world.now ≤ s'.world.now
      rw [hworld]
  · intro e s hs hreg
    have hle : s.world.now ≤ e.now := of_decide_eq_true hreg
    exact ⟨Limited.later hs hle, hle⟩
  · intro t act s hs hreg
    have hle : s.world.now ≤ (act s.world).now := of_decide_eq_true hreg
    exact ⟨Limited.later hs hle, hle⟩
  · intro t w s _ hs _ _ _
    exact ⟨hs, le_rfl⟩
  · intro t s _ _ hobl _ _
    exact ⟨hobl.1, le_rfl⟩
  · intro t s hs
    exact ⟨hs, le_rfl⟩
  · intro t s s' hsteady hdb
    exact ⟨hsteady.locks, fun _ now => by rw [hdb]⟩
  · intro t u s hne hdis _ hobl _ _
    refine ⟨Store.locksOf_finish_of_ne hne, fun hheld now => hobl.2 (fun hother => ?_) now⟩
    simpa using hdis.compatible hne.symm hheld hother

/-! ## Slots -/

/-- The session holds the row of user `u`; of the user of the contract it knows
that fewer than `n` sessions are active. -/
def Slot (userId u : Uuid) (t : Tid) (n : Nat) (s : Store) : Prop :=
  s.Holds t (.user u) .update ∧
    (u = userId → s.db.countActiveSessions userId s.world.now < n)

section

variable {t : Tid} {u : Uuid}

theorem slot_carried (n : Nat) :
    Carried (slotContract settings userId) t (fun _ => True) (Slot userId u t n) where
  stable := by
    refine ⟨fun {s s'} hb hs => ⟨hb.holds_iff.2 hs.1, fun hu => ?_⟩⟩
    have hheld : s.Holds t (.user userId) .update := hu ▸ hs.1
    have hclock : s.world.now ≤ s'.world.now := hb.rely
    calc s'.db.countActiveSessions userId s'.world.now
        ≤ s'.db.countActiveSessions userId s.world.now := countActiveSessions_antitone hclock _
      _ ≤ s.db.countActiveSessions userId s.world.now := hb.spares.2 hheld _
      _ < n := hs.2 hu
  quiet hq hworld _ hs := ⟨hq.holds hs.1, fun hu => by
    rw [hq.db, hworld]
    exact hs.2 hu⟩
  write _ _ _ _ hs _ := ⟨Store.holds_acquire.2 (.inr hs.1), hs.2⟩

/-- What the count found is known as long as the user's row is held. -/
theorem countActiveSessions_slot :
    Triple (slotContract settings userId) t
      (fun s => s.writes t = [] ∧ s.Holds t (.user u) .update) (countActiveSessions u)
      (fun n s => s.writes t = [] ∧ ∀ m, n < m → Slot userId u t m s) fun _ _ => True := by
  have hbefore : Carried (slotContract settings userId) t (fun _ => False) fun s =>
      s.writes t = [] ∧ s.Holds t (.user u) .update := .and (.writes []) (.holds _ _)
  refine .bind (.sense (Q := fun now s => (s.writes t = [] ∧ s.Holds t (.user u) .update) ∧
    now ≤ s.world.now) hbefore.stable fun s _ hs => ⟨fun _ => trivial, hs, le_rfl⟩) fun now => ?_
  have hclock : Stable (slotContract settings userId) t fun s => now ≤ s.world.now :=
    ⟨fun hb hs => hs.trans hb.rely⟩
  refine .select (hbefore.stable.and hclock) fun s _ hs _ => ⟨trivial, hs.1.1, fun m hm => ?_⟩
  refine ⟨hs.1.2, fun hu => ?_⟩
  subst hu
  rw [view_of_writes hs.1.1, applyAll_nil] at hm
  exact (countActiveSessions_antitone hs.2 s.db).trans_lt hm

/-! ## The programs -/

/-- The commit of a transaction that only takes sessions out of use. -/
theorem commit_lessens {R : Fault → Store → Prop} :
    Triple (slotContract settings userId) t (fun s => ∀ w ∈ s.writes t, w.Lessens userId) .commit
      (fun _ _ => True) R := by
  refine .commit (Carried.writesIn _).stable fun s hc hs =>
    ⟨fun _ => trivial, fun _ => ⟨?_, trivial⟩⟩
  obtain ⟨hunique, hcount⟩ := applyAll_lessens hs s.db
  exact ⟨⟨hunique hc.inv.unique, (hcount _).trans hc.inv.within⟩, fun _ => hcount⟩

theorem lessens_part {α : Type} {p : Prog α} (hp : p.Every (Stmt.Inside (Write.Lessens userId))) :
    Triple (slotContract settings userId) t (fun s => ∀ w ∈ s.writes t, w.Lessens userId) p
      (fun _ s => ∀ w ∈ s.writes t, w.Lessens userId) fun _ _ => True :=
  inside slotContract_easy (.writesIn _) hp

/-- The commit of a new session. -/
theorem commit_added {row : Session} {R : Fault → Store → Prop} :
    Triple (slotContract settings userId) t (fun s => Adding t row s ∧
      Slot userId row.userId t settings.maxActiveSessionsPerUser s) .commit (fun _ _ => True) R := by
  refine .commit ((adding_stable row).and (slot_carried _).stable) fun s hc hs =>
    ⟨fun _ => trivial, fun _ => ⟨?_, trivial⟩⟩
  obtain ⟨hadding, hheld, hslot⟩ := hs
  have hview : s.view t = (Write.insertSession row).apply s.db := by
    rw [view_of_writes hadding.writes]
    rfl
  have hcount (now : Instant) :
      ((Write.insertSession row).apply s.db).countActiveSessions userId now ≤
        s.db.countActiveSessions userId now + if row.userId = userId then 1 else 0 :=
    countActiveSessions_insert s.db row now
  rw [← hview] at hcount
  by_cases hu : row.userId = userId
  · simp only [hu, if_true] at hcount
    refine ⟨⟨?_, (hcount _).trans (hslot hu)⟩, fun hfree => absurd (hu ▸ hheld) hfree⟩
    rw [hview]
    exact hc.inv.unique.append hadding.fresh
  · simp only [hu, if_false, Nat.add_zero] at hcount
    refine ⟨⟨?_, (hcount _).trans hc.inv.within⟩, fun _ => hcount⟩
    rw [hview]
    exact hc.inv.unique.append hadding.fresh

theorem createSession_slot (user : Uuid) :
    Triple (slotContract settings userId) t (fun s => s.writes t = [])
      (createSession settings user)
      (fun row s => Adding t row s ∧
        Slot userId row.userId t settings.maxActiveSessionsPerUser s) fun _ _ => True := by
  refine .post (createSession_adding slotContract_easy settings user
    (L := fun s => s.Holds t (.user user) .update)
    (P := Slot userId user t settings.maxActiveSessionsPerUser)
    ((lockUser_holds slotContract_easy (.writes []) user).post fun _ _ hs hsome =>
      ⟨hs.1, hs.2 hsome⟩)
    (countActiveSessions_slot.post fun _ _ hs hn => ⟨hs.1, hs.2 _ hn⟩) (slot_carried _))
    fun row s hs => ?_
  obtain ⟨⟨huser, -⟩, hadding, hslot⟩ := hs
  exact ⟨hadding, huser ▸ hslot⟩

/-! ### Refreshes -/

/-- A refresh before its commit. -/
structure Extending (t : Tid) (settings : Settings) (userId : Uuid) (session : Session)
    (now : Instant) (next : Nat) (s : Store) : Prop where
  writes : s.writes t = [.updateSession session (session.refreshed settings now next)]
  loaded : Loaded t session s
  held : s.Holds t (.user session.userId) .update
  slot : session.expiresAt ≤ now → Slot userId session.userId t settings.maxActiveSessionsPerUser s

theorem extending_stable (session : Session) (now : Instant) (next : Nat) :
    Stable (slotContract settings userId) t (Extending t settings userId session now next) := by
  refine ⟨fun hb hs => ⟨hb.writes.trans hs.writes, ?_, hb.holds_iff.2 hs.held, fun hlapsed => ?_⟩⟩
  · exact (loaded_carried (N := fun _ => False) session).stable.keep hb hs.loaded
  · exact (slot_carried _).stable.keep hb (hs.slot hlapsed)

/-- What the commit of a refresh does to the count. -/
theorem Extending.limited {session : Session} {now : Instant} {next : Nat} {s : Store}
    (hs : Extending t settings userId session now next s) (hlive : session.revokedAt = none)
    (hinv : Limited settings userId s.db s.world.now)
    (hallow : (freeSlots settings).stmt t (.commit : Stmt Unit) s = true) :
    Limited settings userId (s.view t) s.world.now ∧
      (¬ s.Holds t (.user userId) .update → ∀ now,
        (s.view t).countActiveSessions userId now ≤ s.db.countActiveSessions userId now) := by
  have hview : s.view t = { s.db with
      sessions := modify Session.id session.id
        (flushSession session (session.refreshed settings now next)) s.db.sessions } := by
    rw [view_of_writes hs.writes]
    rfl
  have hrow : ∀ row ∈ s.db.sessions, row.id = session.id → row = session := by
    intro row hmem hid
    have hfound := lookup_of_mem hinv.unique hmem
    rw [hid] at hfound
    exact Option.some.inj (hfound.symm.trans hs.loaded.2)
  have hflush : flushSession session (session.refreshed settings now next) session =
      session.refreshed settings now next := flushSession_loaded rfl rfl
  have hunique : Unique Session.id (s.view t).sessions := by
    rw [hview]
    exact hinv.unique.modify fun _ h => h
  by_cases hu : session.userId = userId
  · refine ⟨⟨hunique, ?_⟩, fun hfree => absurd (hu ▸ hs.held) hfree⟩
    -- one more session counts, and there is a slot for it
    have hone (hfree : s.db.countActiveSessions userId s.world.now <
        settings.maxActiveSessionsPerUser) :
        (s.view t).countActiveSessions userId s.world.now ≤ settings.maxActiveSessionsPerUser := by
      rw [countActiveSessions_eq] at hfree ⊢
      rw [hview]
      exact (countP_modify_le_succ hinv.unique).trans hfree
    by_cases hlapsed : session.expiresAt ≤ now
    · exact hone ((hs.slot hlapsed).2 hu)
    by_cases hlate : session.expiresAt ≤ s.world.now
    · refine hone ?_
      have hread : (session.refreshed settings now next).expiresAt - settings.lifetime = now :=
        add_sub_cancel_right now settings.lifetime
      have hnone : (session.refreshed settings now next).revokedAt = none := hlive
      simpa [freeSlots, hs.writes, Write.lateRefresh, hread, hnone, hlate, hu,
        lt_of_not_ge hlapsed] using hallow
    · refine le_trans ?_ hinv.within
      rw [countActiveSessions_eq, countActiveSessions_eq, hview]
      refine countP_modify_le fun row hmem hid _ => ?_
      obtain rfl := hrow row hmem hid
      simp [hu, Session.active, hlive, lt_of_not_ge hlate]
  · have hcount : ∀ now, (s.view t).countActiveSessions userId now ≤
        s.db.countActiveSessions userId now := by
      intro later
      rw [countActiveSessions_eq, countActiveSessions_eq, hview]
      refine countP_modify_le fun row hmem hid hnew => ?_
      obtain rfl := hrow row hmem hid
      rw [hflush] at hnew
      simp [Session.refreshed, hu] at hnew
    exact ⟨⟨hunique, (hcount _).trans hinv.within⟩, fun _ => hcount⟩

/-- A session that lapsed before the refresh read the clock needs a slot. -/
theorem keptOut_slot (now : Instant) (session : Session) (u : Uuid) :
    Triple (slotContract settings userId) t
      (fun s => s.writes t = [] ∧ s.Holds t (.user u) .update) (keptOut settings now session u)
      (fun out s => out = false → (s.writes t = [] ∧ s.Holds t (.user u) .update) ∧
        (session.expiresAt ≤ now → Slot userId u t settings.maxActiveSessionsPerUser s))
      fun _ _ => True := by
  unfold keptOut
  split
  · refine .bind countActiveSessions_slot fun n => .ret fun s hs hfree => ?_
    have hn : n < settings.maxActiveSessionsPerUser := by simpa using hfree
    exact ⟨⟨hs.1, (hs.2 _ hn).1⟩, fun _ => hs.2 _ hn⟩
  · next hlive => exact .ret fun s hs _ => ⟨hs, fun hlapsed => absurd hlapsed hlive⟩

theorem extendSession_part (now : Instant) (claims : Claims) {session : Session} (next : Nat)
    (huser : session.userId = claims.sub) (hlive : session.revokedAt = none) :
    Triple (slotContract settings userId) t (fun s => s.writes t = [] ∧ Loaded t session s)
      (extendSession settings now claims session next) (fun _ _ => True) fun _ _ => True := by
  have hloaded : Carried (slotContract settings userId) t (fun _ => False) fun s =>
      s.writes t = [] ∧ Loaded t session s := .and (.writes []) (loaded_carried session)
  refine .bind (lockUser_holds slotContract_easy hloaded claims.sub) fun user? => ?_
  cases hactive : user?.filter User.isActive with
  | none => exact .raise fun _ _ => trivial
  | some user =>
      have hsome : user?.isSome = true := by
        obtain ⟨hfound, -⟩ := Option.filter_eq_some_iff.1 hactive
        simp [hfound]
      refine .pre (P := fun s => (s.writes t = [] ∧ s.Holds t (.user claims.sub) .update) ∧
        Loaded t session s) ?_ fun s hs => ⟨⟨hs.1.1, hs.2 hsome⟩, hs.1.2⟩
      refine .bind (framed slotContract_easy (keptOut_slot now session claims.sub)
        (loaded_carried (N := fun _ => True) session) (keptOut_inside _ _ _ _)) fun out => ?_
      cases out with
      | true => exact .raise fun _ _ => trivial
      | false =>
          have hbefore : Carried (slotContract settings userId) t (fun _ => False) fun s =>
              ((s.writes t = [] ∧ s.Holds t (.user claims.sub) .update) ∧ Loaded t session s) ∧
                (session.expiresAt ≤ now →
                  Slot userId claims.sub t settings.maxActiveSessionsPerUser s) :=
            .and (.and (.and (.writes []) (.holds _ _)) (loaded_carried session))
              (.imp ((slot_carried _).mono fun _ => False.elim))
          refine .bind (Q := fun _ => Extending t settings userId session now next)
            (.pre (.write hbefore.stable fun s hc hs hd => ⟨trivial, fun _ => ?_⟩)
              fun s hs => ⟨⟨(hs.1 rfl).1, hs.2⟩, (hs.1 rfl).2⟩) fun _ =>
            .bind (.performAllowed (extending_stable session now next) fun s hc hallow hs =>
              ⟨fun _ => hs.limited hlive hc.inv hallow, fun _ _ _ => trivial⟩) fun _ =>
            .bind (.sense (Q := fun _ _ => True) (.pure True) fun _ _ _ =>
              ⟨fun _ => trivial, trivial⟩) fun _ => .ret fun _ _ => trivial
          obtain ⟨⟨⟨hwrites, hheld⟩, hloaded⟩, hslot⟩ := hs
          refine ⟨?_, ?_, ?_, fun hlapsed => ?_⟩
          · simp [hwrites]
          · exact (loaded_carried (N := fun _ => True) session).write _ trivial s hc hloaded hd
          · rw [huser]
            exact Store.holds_acquire.2 (.inr hheld)
          · rw [huser]
            exact (slot_carried _).write _ trivial s hc (hslot hlapsed) hd

theorem refreshSession_part (claims : Claims) :
    Triple (slotContract settings userId) t (fun s => s.writes t = [])
      (refreshSession settings claims) (fun _ _ => True) fun _ _ => True := by
  have hnone : Carried (slotContract settings userId) t (fun _ => False) fun s =>
      s.writes t = [] := .writes []
  refine .bind (inside slotContract_easy hnone (.perform trivial)) fun now => ?_
  refine .bind (lockSession_loaded slotContract_easy claims.sid) fun found => ?_
  cases found with
  | none => exact .raise fun _ _ => trivial
  | some session =>
      refine .given (fun s hs => (hs.2 session rfl).1) fun hlive => ?_
      refine .pre (P := fun s => s.writes t = [] ∧ Loaded t session s) ?_
        fun s hs => ⟨hs.1, (hs.2 session rfl).2⟩
      dsimp only
      split
      · exact .raise fun _ _ => trivial
      next huser =>
      split
      · exact .raise fun _ _ => trivial
      cases session.nextVersion now claims.version with
      | some next => exact extendSession_part now claims next (not_not.1 huser) hlive
      | none =>
          refine .pre (.bind (lessens_part (.perform (revoked_lessens hlive now))) fun _ =>
            .bind commit_lessens fun _ => .raise fun _ _ => trivial) fun s hs => ?_
          simp [hs.1]

end

/-! ## Runs -/

theorem prog_part (hashing : Hashing) (t : Tid) (request : Request) :
    Triple (slotContract settings userId) t (fun s => s.writes t = [])
      (request.prog hashing settings) (fun _ _ => True) fun _ _ => True := by
  have hclosing {α : Type} {p : Prog α} (h : Triple (slotContract settings userId) t
      (fun s => s.writes t = []) p (fun _ _ => True) fun _ _ => True) :
      Triple (slotContract settings userId) t (fun s => s.writes t = []) (closing p)
        (fun _ _ => True) fun _ _ => True :=
    closing_triple h (.pure True) (fun _ _ => trivial) fun _ => trivial
  have hlessens : ∀ s : Store, s.writes t = [] → ∀ w ∈ s.writes t, w.Lessens userId :=
    fun s hs => by simp [hs]
  cases request with
  | createSession user =>
      exact hclosing (.bind (createSession_slot user) fun _ => commit_added)
  | login email password guestFound =>
      refine hclosing (.bind (inside slotContract_easy (.writes []) (.perform trivial))
        fun found => ?_)
      cases found with
      | none => exact .raise fun _ _ => trivial
      | some user =>
          dsimp only
          split
          · exact .raise fun _ _ => trivial
          split
          · exact .raise fun _ _ => trivial
          have hnote {step : Info → Unit × Info} {P : Store → Prop}
              (hP : Stable (slotContract settings userId) t P)
              (h : ∀ s, P s → P { s with info := Function.update s.info t (step (s.info t)).2 }) :
              Triple (slotContract settings userId) t P (.session step) (fun _ => P)
                fun _ _ => True :=
            .session hP fun s _ hs => ⟨fun _ => trivial, h s hs⟩
          refine .bind (hnote (Carried.writes []).stable fun _ => id) fun _ => ?_
          refine .bind (inside slotContract_easy (.writes [])
            (claimGuestPurchases_inside user.id guestFound)) fun _ => ?_
          refine .bind (createSession_slot user.id) fun row => .bind commit_added fun _ => ?_
          refine .bind (hnote (.pure True) fun _ => id) fun _ => .bind (.sense
            (Q := fun _ _ => True) (.pure True) fun _ _ _ => ⟨fun _ => trivial, trivial⟩)
            fun _ => .ret fun _ _ => trivial
  | refresh claims => exact hclosing (refreshSession_part claims)
  | revoke user id =>
      refine hclosing (.bind (.pre (lessens_part (.perform trivial)) hlessens) fun found => ?_)
      cases hfound : Option.filter (fun row : Session =>
          decide (row.userId = user ∧ row.revokedAt = none)) found with
      | none => exact .raise fun _ _ => trivial
      | some session =>
          have hlive : session.revokedAt = none := by
            obtain ⟨-, hrow⟩ := Option.filter_eq_some_iff.1 hfound
            exact (of_decide_eq_true hrow).2
          exact .bind (lessens_part (.perform trivial)) fun now =>
            .bind (lessens_part (.perform (revoked_lessens hlive now))) fun _ => commit_lessens
  | revokeAll user =>
      exact hclosing (.bind (.pre (lessens_part (revokeAllUserSessions_inside user trivial
        revokeSession_lessens)) hlessens) fun _ => commit_lessens)
  | reset token hashed =>
      refine hclosing (.bind (.pre (lessens_part (lockResetToken_inside _)) hlessens) fun found =>
        .bind (lessens_part (.perform trivial)) fun now => ?_)
      split
      · exact .raise fun _ _ => trivial
      refine .bind (lessens_part (.perform trivial)) fun user? => ?_
      split
      · exact .raise fun _ _ => trivial
      refine .bind (lessens_part (revokeAllUserSessions_inside _ (.bind ?_ fun _ =>
        .perform (useResetToken_lessens _ _)) revokeSession_lessens)) fun _ => commit_lessens
      unfold savePassword
      split
      · trivial
      · exact .perform (setPassword_lessens _ _)

/-- However sign-ins, refreshes, revocations and resets interleave: as long as
every refresh that commits after its session has lapsed, and read the clock
before, finds a free slot, no user ever has more active sessions than the limit. -/
theorem activeSessions_limited (hashing : Hashing) (settings : Settings) (d : Db) (world : World)
    (requests : Tid → Request) (userId : Uuid) (hunique : Unique Session.id d.sessions)
    (hlimit : d.countActiveSessions userId world.now ≤ settings.maxActiveSessionsPerUser)
    {q : Pool} (h : Pool.Run (freeSlots settings) (start hashing settings d world requests) q) :
    q.store.db.countActiveSessions userId q.store.world.now ≤
      settings.maxActiveSessionsPerUser := by
  have hstart : Pool.Keeps (slotContract settings userId) (fun _ _ => True)
      (fun t _ s => s.doomed t = true ∨ True) (start hashing settings d world requests) :=
    Pool.Keeps.start ⟨hunique, hlimit⟩ fun t =>
      (prog_part hashing t (requests t)).pre fun s hs => by
        rw [hs]
        rfl
  exact (hstart.run slotContract_sound (fun _ => .pure True)
    (fun _ _ => .or (.doomed true) (.pure True)) h).1.calm.inv.within

/-- A refresh of the only session, and sign-ins. -/
def Desk.refreshAndSignIn : Tid → Request
  | 0 => .refresh Desk.claims
  | _ => .createSession 1

theorem refresh_limited : ∃ q,
    Pool.Run (freeSlots Desk.settings)
      (start Desk.hashing Desk.settings Desk.db ⟨99, 2⟩ Desk.refreshAndSignIn) q ∧
      (q.progs 0).ended = true ∧ q.store.db.countActiveSessions 1 q.store.world.now ≤ 1 := by
  obtain ⟨q, hrun, hended⟩ := Pool.exists_run_of_play (f := fun q => (q.progs 0).ended)
    (show (Pool.play (freeSlots Desk.settings)
      (start Desk.hashing Desk.settings Desk.db ⟨99, 2⟩ Desk.refreshAndSignIn)
      (Desk.runs 0 11)).any _ = true by decide)
  exact ⟨q, hrun, hended, activeSessions_limited Desk.hashing Desk.settings Desk.db ⟨99, 2⟩
    Desk.refreshAndSignIn 1 (show (Desk.db.sessions.map Session.id).Nodup by decide) (by decide)
    hrun⟩

/-- The refresh reads the clock at 99, the session lapses at 100, a sign-in takes
the only slot, and the refresh brings the session back. -/
theorem activeSessions_over_limit :
    Desk.db.countActiveSessions 1 99 ≤ Desk.settings.maxActiveSessionsPerUser ∧ ∃ q,
      Pool.Run .any (start Desk.hashing Desk.settings Desk.db ⟨99, 2⟩ Desk.refreshAndSignIn) q ∧
      (99 : Instant) ≤ q.store.world.now ∧
      Desk.settings.maxActiveSessionsPerUser <
        q.store.db.countActiveSessions 1 q.store.world.now := by
  refine ⟨by decide, ?_⟩
  obtain ⟨q, hrun, hcount⟩ := Pool.exists_run_of_play
    (f := fun q : Pool => decide ((99 : Instant) ≤ q.store.world.now ∧
      Desk.settings.maxActiveSessionsPerUser <
        q.store.db.countActiveSessions 1 q.store.world.now))
    (show (Pool.play .any
      (start Desk.hashing Desk.settings Desk.db ⟨99, 2⟩ Desk.refreshAndSignIn)
      (Desk.runs 0 1 ++ [.outside ⟨100, 2⟩] ++ Desk.runs 1 13 ++ Desk.runs 0 10)).any _ = true by
        decide)
  exact ⟨q, hrun, of_decide_eq_true hcount⟩

end MovieApi.Accounts.Concurrent
