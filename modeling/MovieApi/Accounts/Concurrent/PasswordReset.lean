import MovieApi.Accounts.Concurrent.Conduct
import MovieApi.ReadCommitted.Lasting

/-!
# Sign-ins with an old password

While every sign-in commits its session only as long as the hash it has checked the
password against is still the user's, a reset leaves no session in use that was signed
in with the password from before.
-/

namespace MovieApi.Accounts.Concurrent

open ReadCommitted ReadCommitted.Prog Sql

variable {hashing : Hashing} {settings : Settings} {userId : Uuid} {t : Tid} {s s' : Store}
  {d d' d'' : Db} {ws : List Write} {w : Write}

/-- The password hash of a user. -/
def currentHash (userId : Uuid) (d : Db) : Option String := (d.user? userId).bind User.passwordHash

/-- A sign-in commits its session only while the hash that it has verified is still
the one of the user. -/
def hashesCurrent : Regime where
  stmt t _ c s :=
    match c with
    | .commit => (s.writes t).all fun w =>
        match w with
        | .insertSession row => (s.info t).verified.all fun hashed =>
            decide (currentHash row.userId s.db = some hashed)
        | _ => true
    | _ => true
  outside _ _ := true

/-! ## The contract -/

/-- Sessions stay, and one that is in use was in use before, with the same password of
its user. -/
structure KeepsPasswords (d d' : Db) : Prop where
  kept : ∀ {id row}, d.session? id = some row →
    ∃ row', d'.session? id = some row' ∧ row'.userId = row.userId
  inUse : ∀ {id row row'}, d.session? id = some row → d'.session? id = some row' →
    row'.revokedAt = none →
      row.revokedAt = none ∧ currentHash row.userId d' = currentHash row.userId d

theorem KeepsPasswords.refl (d : Db) : KeepsPasswords d d where
  kept {id row} h := ⟨row, h, rfl⟩
  inUse {id row row'} h h' hlive := by
    obtain rfl : row = row' := Option.some.inj (h.symm.trans h')
    exact ⟨hlive, rfl⟩

theorem KeepsPasswords.trans (h : KeepsPasswords d d') (h' : KeepsPasswords d' d'') :
    KeepsPasswords d d'' where
  kept {id row} hrow := by
    obtain ⟨row', hrow', huser⟩ := h.kept hrow
    obtain ⟨row'', hrow'', huser'⟩ := h'.kept hrow'
    exact ⟨row'', hrow'', huser'.trans huser⟩
  inUse {id row row''} hrow hrow'' hlive := by
    obtain ⟨row', hrow', huser⟩ := h.kept hrow
    obtain ⟨hlive', hhash'⟩ := h'.inUse hrow' hrow'' hlive
    obtain ⟨hlive, hhash⟩ := h.inUse hrow hrow' hlive'
    rw [huser] at hhash'
    exact ⟨hlive, hhash'.trans hhash⟩

/-- Who holds the user's row keeps new sessions of the user away. -/
def passwordContract : Contract where
  Inv _ := True
  Obl t _ c s :=
    match c with
    | .commit => KeepsPasswords s.db (s.view t) ∧ ∀ id row, s.db.session? id = none →
        (s.view t).session? id = some row → s.Holds t (.user row.userId) .update
    | _ => True
  Rely s s' := KeepsPasswords s.db s'.db
  rely_refl s := .refl s.db
  rely_trans h h' := h.trans h'
  Spares t s s' := s'.locksOf t = s.locksOf t ∧
    ∀ userId, s.Holds t (.user userId) .noKeyUpdate → ∀ id row', s'.db.session? id = some row' →
      row'.userId = userId → ∃ row, s.db.session? id = some row ∧ row.userId = userId
  spares_refl _ _ := ⟨rfl, fun _ _ _ row hrow huser => ⟨row, hrow, huser⟩⟩
  spares_trans {t s s' s''} h h' := by
    refine ⟨h'.1.trans h.1, fun userId hheld id row hrow huser => ?_⟩
    have hheld' : s'.Holds t (.user userId) .noKeyUpdate := by
      rwa [Store.holds_iff_mem_locksOf, h.1, ← Store.holds_iff_mem_locksOf]
    obtain ⟨row', hrow', huser'⟩ := h'.2 userId hheld' id row hrow huser
    exact h.2 userId hheld id row' hrow' huser'
  Allows t _ c s := hashesCurrent.stmt t c s = true

theorem passwordContract_easy : passwordContract.Easy fun _ => True := by
  intro β c hc t s
  cases c <;> first | exact hc.elim | trivial

theorem passwordContract_sound : passwordContract.Sound hashesCurrent := by
  refine .of_steps ?_ ?_ ?_ ?_ ?_ ?_ id
  · intro t s s' hq _
    refine ⟨trivial, ?_⟩
    show KeepsPasswords s.db s'.db
    rw [hq.db]
    exact .refl _
  · intro t w s _ _ _ _ _
    exact ⟨trivial, .refl _⟩
  · intro t s _ _ hobl _ _
    exact ⟨trivial, hobl.1⟩
  · intro t s _
    exact ⟨trivial, .refl _⟩
  · intro t s s' hsteady hdb
    refine ⟨hsteady.locks, fun userId _ id row hrow huser => ⟨row, ?_, huser⟩⟩
    rwa [hdb] at hrow
  · intro t u s hne hdis _ hobl _ _
    refine ⟨Store.locksOf_finish_of_ne hne, fun userId hheld id row' hrow' huser => ?_⟩
    cases hrow : s.db.session? id with
    | some row =>
        obtain ⟨row'', hrow'', hsame⟩ := hobl.1.kept hrow
        have heq : row'' = row' := Option.some.inj (hrow''.symm.trans hrow')
        exact ⟨row, rfl, by rw [← hsame, heq, huser]⟩
    | none =>
        have hother : s.Holds u (.user userId) .update := huser ▸ hobl.2 id row' hrow hrow'
        have hconflict := hdis.compatible hne.symm hheld hother
        simp at hconflict

/-! ## Writes that change no password -/

/-- A write that brings no session into use and changes no password. -/
def Write.Harmless (w : Write) : Prop :=
  ∀ d, KeepsPasswords d (w.apply d) ∧ ∀ id, d.session? id = none → (w.apply d).session? id = none

theorem harmless_of (husers : ∀ id row?, w.onUser id row? = row?)
    (hnone : ∀ id, w.onSession id none = none)
    (hsome : ∀ id row, ∃ row', w.onSession id (some row) = some row' ∧
      row'.userId = row.userId ∧ (row'.revokedAt = none → row.revokedAt = none)) :
    w.Harmless := by
  intro d
  have hhash (userId : Uuid) : currentHash userId (w.apply d) = currentHash userId d := by
    rw [currentHash, Write.user?_apply, husers]
    rfl
  refine ⟨⟨fun {id row} hrow => ?_, fun {id row row'} hrow hrow' hlive => ?_⟩, fun id hid => ?_⟩
  · obtain ⟨row', hrow', huser, -⟩ := hsome id row
    exact ⟨row', by rw [Write.session?_apply, hrow, hrow'], huser⟩
  · obtain ⟨row'', hrow'', -, hrevoked⟩ := hsome id row
    rw [Write.session?_apply, hrow, hrow''] at hrow'
    have heq : row'' = row' := Option.some.inj hrow'
    exact ⟨hrevoked (heq ▸ hlive), hhash _⟩
  · rw [Write.session?_apply, hid, hnone]

theorem useResetToken_harmless (tokenHash : String) (now : Instant) :
    (Write.useResetToken tokenHash now).Harmless :=
  harmless_of (fun _ _ => rfl) (fun _ => rfl) fun _ row => ⟨row, rfl, rfl, id⟩

theorem revokeSession_harmless (id : Uuid) (now : Instant) :
    (Write.revokeSession id now).Harmless := by
  refine harmless_of (fun _ _ => rfl) (fun id' => by simp [Write.onSession]) fun id' row => ?_
  by_cases hid : id' = id
  · exact ⟨row.revoked now, by simp [Write.onSession, hid], rfl, by simp [Session.revoked]⟩
  · exact ⟨row, by simp [Write.onSession, hid], rfl, fun hlive => hlive⟩

/-- The flush of a session that was not brought back into use. -/
theorem updateSession_harmless {loaded new : Session}
    (h : new.revokedAt = loaded.revokedAt ∨ new.revokedAt ≠ none) :
    (Write.updateSession loaded new).Harmless := by
  refine harmless_of (fun _ _ => rfl) (fun id => by simp [Write.onSession]) fun id row => ?_
  by_cases hid : id = loaded.id
  · refine ⟨flushSession loaded new row, by simp [Write.onSession, hid], rfl, fun hlive => ?_⟩
    have hlive : (if new.revokedAt = loaded.revokedAt then row.revokedAt else new.revokedAt) =
        none := hlive
    split at hlive
    · exact hlive
    · next hchanged =>
        rcases h with hsame | hrevoked
        · exact absurd hsame hchanged
        · exact absurd hlive hrevoked
  · exact ⟨row, by simp [Write.onSession, hid], rfl, fun hlive => hlive⟩

theorem applyAll_harmless (h : ∀ w ∈ ws, w.Harmless) (d : Db) :
    KeepsPasswords d (applyAll ws d) ∧
      ∀ id, d.session? id = none → (applyAll ws d).session? id = none := by
  refine applyAll_induction (P := fun d' : Db => KeepsPasswords d d' ∧
    ∀ id, d.session? id = none → d'.session? id = none) ⟨.refl d, fun _ => id⟩
    fun w hw d' hd' => ?_
  obtain ⟨hkeeps, hnone⟩ := h w hw d'
  exact ⟨hd'.1.trans hkeeps, fun id hid => hnone id (hd'.2 id hid)⟩

/-! ## Requests that sign nobody in with a password -/

/-- The transaction is harmless so far, and no password sign-in of the call has
committed. -/
def Mild (t : Tid) (s : Store) : Prop :=
  (∀ w ∈ s.writes t, w.Harmless) ∧ (s.info t).signedIn = none

theorem mild_carried : Carried passwordContract t Write.Harmless (Mild t) :=
  .and (.writesIn _) (.info fun info : Info => info.signedIn = none)

theorem mild_part {α : Type} {p : Prog α} (hp : p.Every (Stmt.Inside Write.Harmless)) :
    Triple passwordContract t (Mild t) p (fun _ => Mild t) fun _ _ => True :=
  inside passwordContract_easy mild_carried hp

theorem commit_mild {R : Fault → Store → Prop} :
    Triple passwordContract t (Mild t) (.perform .commit) (fun _ => Mild t) R := by
  refine .commit mild_carried.stable fun s _ hs => ⟨fun _ => ⟨by simp, hs.2⟩, fun _ => ⟨?_, ?_⟩⟩
  · obtain ⟨hkeeps, hnone⟩ := applyAll_harmless hs.1 s.db
    refine ⟨hkeeps, fun id row hid hrow => ?_⟩
    rw [Store.view, hnone id hid] at hrow
    cases hrow
  · exact ⟨by simp, hs.2⟩

/-- A new session under its user's lock. -/
structure Opening (t : Tid) (row : Session) (s : Store) : Prop where
  adding : Adding t row s
  held : s.Holds t (.user row.userId) .update

theorem opening_stable (row : Session) : Stable passwordContract t (Opening t row) :=
  ⟨fun hb hs => ⟨(adding_stable row).keep hb hs.adding, hb.holds_iff.2 hs.held⟩⟩

theorem insertSession_inside (user : Uuid) :
    (createSession settings user).Every (Stmt.Inside fun _ => True) := by
  refine .bind (lockUser_inside user) fun user? => ?_
  cases user? with
  | none => trivial
  | some _ =>
      refine .bind (countActiveSessions_inside user) fun n => ?_
      split
      · trivial
      refine .bind (.perform trivial) fun now => .bind (.perform trivial) fun id =>
        .bind (.bind (.perform trivial) fun entered => ?_) fun _ => trivial
      split
      · exact .bind (referenceUser_inside user) fun _ => .perform trivial
      · exact .perform trivial

theorem createSession_opening (φ : Info → Prop) (user : Uuid) :
    Triple passwordContract t (fun s => s.writes t = [] ∧ φ (s.info t))
      (createSession settings user)
      (fun row s => row.userId = user ∧ Opening t row s ∧ φ (s.info t)) fun _ _ => True := by
  have hbefore : Carried passwordContract t (fun _ => False) fun s =>
      s.writes t = [] ∧ φ (s.info t) := .and (.writes []) (.info φ)
  have hheld {N : Write → Prop} : Carried passwordContract t N fun s =>
      s.Holds t (.user user) .update ∧ φ (s.info t) := .and (.holds _ _) (.info φ)
  have hlock : Triple passwordContract t (fun s => s.writes t = [] ∧ φ (s.info t)) (lockUser user)
      (fun user? s => user?.isSome = true →
        s.writes t = [] ∧ s.Holds t (.user user) .update ∧ φ (s.info t)) fun _ _ => True :=
    (lockUser_holds passwordContract_easy hbefore user).post fun _ _ hs hsome =>
      ⟨hs.1.1, hs.2 hsome, hs.1.2⟩
  have hcount : Triple passwordContract t
      (fun s => s.writes t = [] ∧ s.Holds t (.user user) .update ∧ φ (s.info t))
      (countActiveSessions user)
      (fun n s => n < settings.maxActiveSessionsPerUser →
        s.writes t = [] ∧ s.Holds t (.user user) .update ∧ φ (s.info t)) fun _ _ => True :=
    (inside passwordContract_easy (Carried.and (.writes []) hheld)
      (countActiveSessions_inside user)).post fun _ _ hs _ => hs
  refine (createSession_adding passwordContract_easy settings user hlock hcount hheld).post
    fun row s hs => ?_
  obtain ⟨⟨huser, -⟩, hadding, hheld, hφ⟩ := hs
  exact ⟨huser, ⟨hadding, huser ▸ hheld⟩, hφ⟩

/-- What the commit of a new session owes. -/
theorem Opening.keeps {row : Session} (hs : Opening t row s) :
    KeepsPasswords s.db (s.view t) ∧ ∀ id row', s.db.session? id = none →
      (s.view t).session? id = some row' → s.Holds t (.user row'.userId) .update := by
  have hview : s.view t = (Write.insertSession row).apply s.db := by
    rw [view_of_writes hs.adding.writes]
    rfl
  have hold {id : Uuid} {row' : Session} (h : s.db.session? id = some row') :
      (s.view t).session? id = some row' := by
    rw [hview, Write.session?_apply, h]
    rfl
  refine ⟨⟨fun {id row'} hrow' => ⟨row', hold hrow', rfl⟩, fun {id old new} hrow hrow' hlive => ?_⟩,
    fun id row' hid hrow' => ?_⟩
  · obtain rfl : old = new := Option.some.inj ((hold hrow).symm.trans hrow')
    refine ⟨hlive, ?_⟩
    rw [hview, currentHash, Write.user?_apply]
    rfl
  · rw [hview, Write.session?_apply, hid] at hrow'
    have hnew : (if row.id = id then some row else none) = some row' := hrow'
    split at hnew
    · exact Option.some.inj hnew ▸ hs.held
    · cases hnew

theorem refreshSession_mild (claims : Claims) :
    Triple passwordContract t (Mild t) (refreshSession settings claims) (fun _ => Mild t)
      fun _ _ => True := by
  refine .bind (mild_part (.perform trivial)) fun now => .bind (mild_part (lockSession_inside _))
    fun found => ?_
  cases found with
  | none => exact .raise fun _ _ => trivial
  | some session =>
      dsimp only
      split
      · exact .raise fun _ _ => trivial
      split
      · exact .raise fun _ _ => trivial
      cases session.nextVersion now claims.version with
      | none =>
          exact .bind (mild_part (.perform (updateSession_harmless (.inr (by
            simp [Session.revoked]))))) fun _ => .bind commit_mild fun _ => .raise fun _ _ => trivial
      | some next =>
          refine .bind (mild_part (lockUser_inside _)) fun user? => ?_
          cases user?.filter User.isActive with
          | none => exact .raise fun _ _ => trivial
          | some user =>
              refine .bind (mild_part (keptOut_inside _ _ _ _)) fun out => ?_
              cases out with
              | true => exact .raise fun _ _ => trivial
              | false =>
                  exact .bind (mild_part (.perform (updateSession_harmless (.inl rfl)))) fun _ =>
                    .bind commit_mild fun _ => .bind (mild_part (.perform trivial)) fun _ =>
                    .ret fun _ hs => hs

theorem revokeSession_mild (user id : Uuid) :
    Triple passwordContract t (Mild t) (revokeSession user id) (fun _ => Mild t)
      fun _ _ => True := by
  refine .bind (mild_part (.perform trivial)) fun found => ?_
  cases found.filter fun row : Session => decide (row.userId = user ∧ row.revokedAt = none) with
  | none => exact .raise fun _ _ => trivial
  | some session =>
      exact .bind (mild_part (.perform trivial)) fun now => .bind (mild_part (.perform
        (updateSession_harmless (.inr (by simp [Session.revoked]))))) fun _ => commit_mild

/-! ## Resets -/

/-- The writes of a reset of the user's password. -/
inductive Write.OfPasswordReset (userId : Uuid) : Write → Prop
  | password (hashed : String) : OfPasswordReset userId (.setPassword userId hashed)
  | token (tokenHash : String) (now : Instant) :
      OfPasswordReset userId (.useResetToken tokenHash now)
  | revoke (id : Uuid) (now : Instant) : OfPasswordReset userId (.revokeSession id now)

/-- A reset leaves the sessions in use that it does not revoke, and other users alone. -/
theorem applyAll_passwordReset (h : ∀ w ∈ ws, w.OfPasswordReset userId) (d : Db) :
    (∀ id, d.session? id = none → (applyAll ws d).session? id = none) ∧
    (∀ id row, d.session? id = some row → ∃ row', (applyAll ws d).session? id = some row' ∧
      row'.userId = row.userId ∧
      (row'.revokedAt = none ↔ row.revokedAt = none ∧ ∀ now, .revokeSession id now ∉ ws)) ∧
    ∀ other, other ≠ userId → (applyAll ws d).user? other = d.user? other := by
  induction ws generalizing d with
  | nil => exact ⟨fun _ => id, fun id row hrow => ⟨row, hrow, rfl, by simp⟩, fun _ _ => rfl⟩
  | cons w ws ih =>
      obtain ⟨hnone, hsome, husers⟩ := ih (fun w' hw' => h w' (by simp [hw'])) (w.apply d)
      rw [applyAll_cons, apply_eq]
      -- one write keeps or revokes each session
      have hfirst (id : Uuid) (row : Session) (hrow : d.session? id = some row) :
          ∃ row', (w.apply d).session? id = some row' ∧ row'.userId = row.userId ∧
            (row'.revokedAt = none ↔ row.revokedAt = none ∧ ∀ now, w ≠ .revokeSession id now) := by
        rw [Write.session?_apply, hrow]
        cases h w (by simp) with
        | password | token => exact ⟨row, rfl, rfl, by simp⟩
        | revoke id' now =>
            by_cases hid : id = id'
            · exact ⟨row.revoked now, by simp [Write.onSession, hid], rfl, by
                simp [Session.revoked, hid]⟩
            · exact ⟨row, by simp [Write.onSession, hid], rfl, by simp [Ne.symm hid]⟩
      refine ⟨fun id hid => hnone id ?_, fun id row hrow => ?_, fun other hother => ?_⟩
      · rw [Write.session?_apply, hid]
        cases h w (by simp) <;> simp [Write.onSession]
      · obtain ⟨row', hrow', huser, hlive⟩ := hfirst id row hrow
        obtain ⟨row'', hrow'', huser', hlive'⟩ := hsome id row' hrow'
        refine ⟨row'', hrow'', huser'.trans huser, ?_⟩
        rw [hlive', hlive, and_assoc]
        simp only [List.mem_cons, not_or, forall_and, ne_comm]
      · rw [husers other hother, Write.user?_apply]
        cases h w (by simp) <;> simp [Write.onUser, hother]

/-- A reset under the user's lock: what is left to revoke is among these sessions. -/
structure PasswordResetting (userId : Uuid) (t : Tid) (rest : List Uuid) (s : Store) : Prop where
  writes : ∀ w ∈ s.writes t, w.OfPasswordReset userId
  held : s.Holds t (.user userId) .noKeyUpdate
  covered : ∀ id row, s.db.session? id = some row → row.userId = userId → row.revokedAt = none →
    id ∈ rest ∨ ∃ now, .revokeSession id now ∈ s.writes t
  unsigned : (s.info t).signedIn = none

theorem passwordResetting_stable (rest : List Uuid) :
    Stable passwordContract t (PasswordResetting userId t rest) := by
  refine ⟨fun {s s'} hb hs => ⟨?_, hb.holds_iff.2 hs.held, fun id row' hrow' huser hlive => ?_, ?_⟩⟩
  · rw [hb.writes]
    exact hs.writes
  · have hrely : KeepsPasswords s.db s'.db := hb.rely
    obtain ⟨row, hrow, hmine⟩ := hb.spares.2 userId hs.held id row' hrow' huser
    rw [hb.writes]
    exact hs.covered id row hrow hmine (hrely.inUse hrow hrow' hlive).1
  · rw [hb.info]
    exact hs.unsigned

/-- When everything is revoked the reset may commit. -/
theorem PasswordResetting.keeps (hs : PasswordResetting userId t [] s) :
    KeepsPasswords s.db (s.view t) ∧ ∀ id row, s.db.session? id = none →
      (s.view t).session? id = some row → s.Holds t (.user row.userId) .update := by
  obtain ⟨hnone, hsome, husers⟩ := applyAll_passwordReset hs.writes s.db
  refine ⟨⟨fun {id row} hrow => ?_, fun {id row row'} hrow hrow' hlive => ?_⟩,
    fun id row hid hrow => ?_⟩
  · obtain ⟨row', hrow', huser, -⟩ := hsome id row hrow
    exact ⟨row', hrow', huser⟩
  · obtain ⟨row'', hrow'', huser, hkept⟩ := hsome id row hrow
    obtain rfl : row'' = row' := Option.some.inj (hrow''.symm.trans hrow')
    obtain ⟨hbefore, hunrevoked⟩ := hkept.1 hlive
    have hother : row.userId ≠ userId := by
      intro hmine
      rcases hs.covered id row hrow hmine hbefore with hin | ⟨now, hmem⟩
      · simp at hin
      · exact hunrevoked now hmem
    refine ⟨hbefore, ?_⟩
    rw [currentHash, Store.view, husers _ hother]
    rfl
  · rw [Store.view, hnone id hid] at hrow
    cases hrow

theorem PasswordResetting.acquire {rest : List Uuid} (hs : PasswordResetting userId t rest s)
    (ks : List (Key × LockMode)) : PasswordResetting userId t rest ((s.begin t).acquire t ks) :=
  ⟨hs.writes, Store.holds_acquire.2 (.inr hs.held), hs.covered, hs.unsigned⟩

/-- A session that the reset does not find in use any more needs no revoking. -/
theorem PasswordResetting.skip {id : Uuid} {rest : List Uuid} (hs : PasswordResetting userId t (id :: rest) s)
    (hnone : ((s.view t).session? id).filter (unrevokedOf userId) = none) :
    PasswordResetting userId t rest s := by
  refine { hs with covered := fun id' row hrow hmine hlive => ?_ }
  rcases hs.covered id' row hrow hmine hlive with hin | hrevoked
  · rcases List.mem_cons.1 hin with rfl | hin
    · right
      by_contra hunrevoked
      obtain ⟨row', hrow', huser, hkept⟩ := (applyAll_passwordReset hs.writes s.db).2.1 id' row hrow
      have hfree : row'.revokedAt = none :=
        hkept.2 ⟨hlive, fun now hmem => hunrevoked ⟨now, hmem⟩⟩
      have hmine' : unrevokedOf userId row' = true := by simp [unrevokedOf, huser, hmine, hfree]
      rw [show (s.view t).session? id' = some row' from hrow', Option.filter_some,
        if_pos hmine'] at hnone
      cases hnone
    · exact .inl hin
  · exact .inr hrevoked

theorem PasswordResetting.revoke {id : Uuid} {rest : List Uuid} (hs : PasswordResetting userId t (id :: rest) s)
    (now : Instant) : PasswordResetting userId t rest (s.wrote t (.revokeSession id now)) := by
  have hwrites (w : Write) : w ∈ (s.wrote t (.revokeSession id now)).writes t ↔
      w ∈ s.writes t ∨ w = .revokeSession id now := by
    unfold Store.wrote
    rw [Store.mem_record_writes]
    simp [Store.acquire]
  refine ⟨fun w hw => ?_, Store.holds_acquire.2 (.inr hs.held), fun id' row hrow hmine hlive => ?_,
    hs.unsigned⟩
  · rcases (hwrites w).1 hw with hold | rfl
    · exact hs.writes w hold
    · exact .revoke id now
  · rcases hs.covered id' row hrow hmine hlive with hin | ⟨now', hmem⟩
    · rcases List.mem_cons.1 hin with rfl | hin
      · exact .inr ⟨now, (hwrites _).2 (.inr rfl)⟩
      · exact .inl hin
    · exact .inr ⟨now', (hwrites _).2 (.inl hmem)⟩

theorem revokeRest_part (now : Instant) (rest : List Uuid) :
    Triple passwordContract t (PasswordResetting userId t rest)
      (forEach rest fun id => do
        lock (.session id) .noKeyUpdate
        match (← select fun d => d.session? id).filter (unrevokedOf userId) with
        | some _ => write (.revokeSession id now)
        | none => return ())
      (fun _ => PasswordResetting userId t []) fun _ _ => True := by
  induction rest with
  | nil => exact .ret fun _ hs => hs
  | cons id rest ih =>
      refine .bind ?_ fun _ => ih
      refine .bind (.lock (Q := fun _ => PasswordResetting userId t (id :: rest)) (passwordResetting_stable _)
        fun s _ hs _ => ⟨trivial, fun _ => hs.acquire _⟩) fun _ => ?_
      refine .bind (.select (Q := fun found s => PasswordResetting userId t (id :: rest) s ∧
        (found.filter (unrevokedOf userId) = none → PasswordResetting userId t rest s))
        (passwordResetting_stable _) fun s _ hs _ => ⟨trivial, hs.acquire [], fun hnone => ?_⟩)
        fun found => ?_
      · exact (hs.skip hnone).acquire []
      · cases found.filter (unrevokedOf userId) with
        | none => exact .ret fun s hs => hs.2 rfl
        | some row =>
            exact .pre (.write (passwordResetting_stable _) fun s _ hs _ =>
              ⟨trivial, fun _ => hs.revoke now⟩) fun s hs => hs.1

/-- The user's password is set and the revocation is still to come. -/
theorem revokeAll_passwordResetting (user : User) {hashed : String} (hnew : user.passwordHash ≠ some hashed)
    (tokenHash : String) (now : Instant) :
    Triple passwordContract t (fun s => s.writes t = [] ∧ (s.info t).signedIn = none)
      (revokeAllUserSessions user.id do
        savePassword user hashed
        write (.useResetToken tokenHash now))
      (fun _ => PasswordResetting user.id t []) fun _ _ => True := by
  have hbare : Carried passwordContract t (fun _ => False) fun s =>
      s.writes t = [] ∧ (s.info t).signedIn = none :=
    .and (.writes []) (.info fun info : Info => info.signedIn = none)
  refine .bind (inside passwordContract_easy hbare (.perform trivial)) fun later => ?_
  -- before the snapshot only the flushed password and token are written
  let Flushed (s : Store) : Prop := (∀ w ∈ s.writes t, w.OfPasswordReset user.id) ∧
    s.Holds t (.user user.id) .noKeyUpdate ∧ (∀ id now, .revokeSession id now ∉ s.writes t) ∧
      (s.info t).signedIn = none
  have hflushed : Stable passwordContract t Flushed := by
    refine ⟨fun hb hs => ⟨?_, hb.holds_iff.2 hs.2.1, ?_, ?_⟩⟩
    · rw [hb.writes]
      exact hs.1
    · rw [hb.writes]
      exact hs.2.2.1
    · rw [hb.info]
      exact hs.2.2.2
  refine .bind (Q := fun _ => Flushed) (.bind (Q := fun _ => Flushed) ?_ fun _ =>
    .write hflushed fun s _ hs _ => ⟨trivial, fun _ => ⟨fun w hw => ?_, ?_, ?_, hs.2.2.2⟩⟩)
    fun _ => ?_
  · rw [savePassword, if_neg hnew]
    refine .write hbare.stable fun s _ hs _ => ⟨trivial, fun _ => ⟨fun w hw => ?_, ?_, ?_, hs.2⟩⟩
    · have hmem : w = .setPassword user.id hashed := by
        simpa [Store.record, Store.acquire, hs.1] using hw
      exact hmem ▸ .password hashed
    · exact Store.holds_acquire.2 (.inl ⟨rfl, by simp [Write.needs]⟩)
    · simp [Store.record, Store.acquire, hs.1]
  · rcases (Store.mem_record_writes _ _ _).1 hw with hold | ⟨-, rfl⟩
    · exact hs.1 w hold
    · exact .token tokenHash now
  · exact Store.holds_acquire.2 (.inr hs.2.1)
  · intro id now hmem
    rcases (Store.mem_record_writes _ _ _).1 hmem with hold | ⟨-, heq⟩
    · exact hs.2.2.1 id now hold
    · cases heq
  · refine .bind (.select (Q := fun snapshot => PasswordResetting user.id t snapshot) hflushed
      fun s _ hs _ => ⟨trivial, hs.1, hs.2.1, fun id row hrow hmine hlive => .inl ?_, hs.2.2.2⟩)
      fun snapshot => revokeRest_part later snapshot
    obtain ⟨row', hrow', huser, hkept⟩ := (applyAll_passwordReset hs.1 s.db).2.1 id row hrow
    have hfree : row'.revokedAt = none := hkept.2 ⟨hlive, fun now => hs.2.2.1 id now⟩
    have hid : row'.id = id := key_of_lookup hrow'
    refine List.mem_map.2 ⟨row', List.mem_filter.2 ⟨mem_of_lookup hrow', ?_⟩, hid⟩
    simp [unrevokedOf, huser, hmine, hfree]

theorem resetPassword_unsigned (token hashed : String) :
    Triple passwordContract t (fun s => s.writes t = [] ∧ (s.info t).signedIn = none)
      (resetPassword hashing token hashed) (fun _ s => (s.info t).signedIn = none)
      fun _ _ => True := by
  have hbare : Carried passwordContract t (fun _ => False) fun s =>
      s.writes t = [] ∧ (s.info t).signedIn = none :=
    .and (.writes []) (.info fun info : Info => info.signedIn = none)
  refine .bind (inside passwordContract_easy hbare (lockResetToken_inside _)) fun found =>
    .bind (inside passwordContract_easy hbare (.perform trivial)) fun now => ?_
  cases found.filter fun row : PasswordResetToken =>
      row.usedAt.isNone && decide (now ≤ row.expiresAt) with
  | none => exact .raise fun _ _ => trivial
  | some row =>
      refine .bind (inside passwordContract_easy hbare (.perform trivial)) fun user? => ?_
      cases user?.filter User.isActive with
      | none => exact .raise fun _ _ => trivial
      | some user =>
          by_cases hsame : user.passwordHash = some hashed
          · -- the hash stays, and the revocation is harmless
            have hflush : (do
                savePassword user hashed
                write (.useResetToken row.tokenHash now) : Prog Unit).Every
                  (Stmt.Inside Write.Harmless) := by
              rw [savePassword, if_pos hsame]
              exact .bind trivial fun _ => .perform (useResetToken_harmless _ _)
            refine .pre (.bind (mild_part (revokeAllUserSessions_inside user.id hflush
              revokeSession_harmless)) fun _ => .post commit_mild fun _ s hs => hs.2) fun s hs => ?_
            exact ⟨by simp [hs.1], hs.2⟩
          · refine .bind (revokeAll_passwordResetting user hsame row.tokenHash now) fun _ => ?_
            exact .commit (passwordResetting_stable []) fun s _ hs =>
              ⟨fun _ => hs.unsigned, fun _ => ⟨hs.keeps, hs.unsigned⟩⟩

/-! ## Sign-ins with a password -/

/-- The session is there, and in use only with this password of its user. -/
def SignedIn (hashed : String) (id : Uuid) (d : Db) : Prop :=
  ∃ row, d.session? id = some row ∧
    (row.revokedAt = none → currentHash row.userId d = some hashed)

theorem SignedIn.keeps {hashed : String} {id : Uuid} (h : SignedIn hashed id d)
    (hkeeps : KeepsPasswords d d') : SignedIn hashed id d' := by
  obtain ⟨row, hrow, hhash⟩ := h
  obtain ⟨row', hrow', huser⟩ := hkeeps.kept hrow
  refine ⟨row', hrow', fun hlive => ?_⟩
  obtain ⟨hbefore, hsame⟩ := hkeeps.inUse hrow hrow' hlive
  rw [huser, hsame, hhash hbefore]

/-- What a returned call leaves of its sign-in. -/
def SignInCurrent (t : Tid) (s : Store) : Prop :=
  ∀ id hashed, (s.info t).signedIn = some id → (s.info t).verified = some hashed →
    SignedIn hashed id s.db

theorem signInCurrent_stable : Stable passwordContract t (SignInCurrent t) := by
  refine ⟨fun hb hs id hashed hid hverified => ?_⟩
  rw [hb.info] at hid hverified
  exact (hs id hashed hid hverified).keeps hb.rely

theorem signInCurrent_of_none (h : (s.info t).signedIn = none) : SignInCurrent t s := by
  intro id hashed hid
  rw [h] at hid
  cases hid

theorem authenticateUser_part (email password : String) (guestFound : Bool) :
    Triple passwordContract t (Live t fun s => s.writes t = [] ∧ (s.info t).signedIn = none)
      (authenticateUser hashing settings email password guestFound)
      (fun _ => SignInCurrent t) fun _ _ => True := by
  have hbare : Carried passwordContract t (fun _ => False) fun s =>
      s.writes t = [] ∧ (s.info t).signedIn = none :=
    .and (.writes []) (.info fun info : Info => info.signedIn = none)
  refine .bind (.select (Q := fun _ => Live t fun s => s.writes t = [] ∧
    (s.info t).signedIn = none) hbare.stable.live fun s _ hs _ => ⟨trivial, hs⟩) fun found => ?_
  cases found with
  | none => exact .raise fun _ _ => trivial
  | some user =>
      dsimp only
      split
      · exact .raise fun _ _ => trivial
      next hashed _ =>
      split
      · exact .raise fun _ _ => trivial
      let Noted (info : Info) : Prop := info.verified = some hashed ∧ info.signedIn = none
      have hnoted : Carried passwordContract t (fun _ => False) fun s =>
          s.writes t = [] ∧ Noted (s.info t) := .and (.writes []) (.info Noted)
      refine .bind (.session (Q := fun _ => Live t fun s => s.writes t = [] ∧ Noted (s.info t))
        hbare.stable.live fun s _ hs => ⟨fun _ => trivial, hs.1, hs.2.1, by
          simp [Noted, hs.2.2]⟩) fun _ => ?_
      refine .bind ((inside passwordContract_easy hnoted
        (claimGuestPurchases_inside user.id guestFound)).live
          (claimGuestPurchases_inside (N := fun _ => True) user.id guestFound)) fun _ => ?_
      refine .bind ((createSession_opening Noted user.id).live (insertSession_inside user.id))
        fun row => ?_
      refine .given (fun s hs => hs.2.1) fun huser => ?_
      refine .pre (P := Live t fun s => Opening t row s ∧ Noted (s.info t)) ?_
        fun s hs => ⟨hs.1, hs.2.2⟩
      have hopening : Stable passwordContract t fun s => Opening t row s ∧ Noted (s.info t) :=
        .and (opening_stable row) (Carried.info (N := fun _ => False) Noted).stable
      have hcommitted : Stable passwordContract t fun s =>
          (s.info t).verified = some hashed ∧ SignedIn hashed row.id s.db :=
        ⟨fun hb hs => ⟨by rw [hb.info, hs.1], hs.2.keeps hb.rely⟩⟩
      refine .bind (.performAllowed (Q := fun _ s => (s.info t).verified = some hashed ∧
        SignedIn hashed row.id s.db) hopening.live fun s _ hallow hs =>
          ⟨fun _ => hs.2.1.keeps, fun _ s' hexec => ?_⟩) fun _ => ?_
      · obtain ⟨hlive, hadded, hverified, -⟩ := hs
        simp only [Stmt.exec, hlive, Bool.false_eq_true, if_false, Option.some.injEq,
          Prod.mk.injEq] at hexec
        have hcurrent : currentHash row.userId s.db = some hashed := by
          have hall := List.all_eq_true.1 (show ((s.writes t).all fun w => _) = true from hallow)
            (.insertSession row) (by rw [hadded.adding.writes]; simp)
          simpa [hverified] using hall
        rw [← hexec.2]
        refine ⟨hverified, row, ?_, fun _ => ?_⟩
        · show (s.view t).session? row.id = some row
          rw [view_of_writes hadded.adding.writes, applyAll_cons, applyAll_nil, apply_eq,
            Write.session?_apply, hadded.adding.fresh]
          simp [Write.onSession]
        · rw [← hcurrent]
          show currentHash row.userId (s.view t) = _
          rw [view_of_writes hadded.adding.writes, applyAll_cons, applyAll_nil, apply_eq,
            currentHash, Write.user?_apply]
          rfl
      · refine .bind (.session (Q := fun _ => SignInCurrent t) hcommitted fun s _ hs =>
          ⟨fun _ => trivial, fun id hashed' hid hhashed => ?_⟩) fun _ =>
          .bind (.sense (Q := fun _ => SignInCurrent t) signInCurrent_stable
            fun s _ hs => ⟨fun _ => trivial, hs⟩) fun _ => .ret fun _ hs => hs
        simp only [Function.update_self, Option.some.injEq] at hid hhashed
        rw [hs.1] at hhashed
        obtain rfl := hid
        obtain rfl := Option.some.inj hhashed
        exact hs.2

/-! ## Every run -/

theorem request_part (request : Request) :
    Triple passwordContract t (Live t fun s => s.writes t = [] ∧ (s.info t).signedIn = none)
      (request.prog hashing settings) (fun _ => SignInCurrent t) fun _ _ => True := by
  have hclosing {α : Type} {p : Prog α} (h : Triple passwordContract t
      (Live t fun s => s.writes t = [] ∧ (s.info t).signedIn = none) p
      (fun _ => SignInCurrent t) fun _ _ => True) :
      Triple passwordContract t (Live t fun s => s.writes t = [] ∧ (s.info t).signedIn = none)
        (closing p) (fun _ => SignInCurrent t) fun _ _ => True :=
    closing_triple h signInCurrent_stable (fun _ hs => hs) fun _ => trivial
  -- the requests that make no password sign-in
  have hmild {α : Type} {p : Prog α} (h : Triple passwordContract t (Mild t) p (fun _ => Mild t)
      fun _ _ => True) : Triple passwordContract t
      (Live t fun s => s.writes t = [] ∧ (s.info t).signedIn = none) p
      (fun _ => SignInCurrent t) fun _ _ => True :=
    h.conseq (fun s hs => ⟨by simp [hs.2.1], hs.2.2⟩)
      (fun _ _ hs => signInCurrent_of_none hs.2) fun _ _ => id
  cases request with
  | createSession user =>
      refine hclosing (.bind (.pre (createSession_opening (fun info => info.signedIn = none) user)
        fun s hs => hs.2) fun row => ?_)
      have hopening : Stable passwordContract t fun s =>
          row.userId = user ∧ Opening t row s ∧ (s.info t).signedIn = none :=
        .and (.pure _) (.and (opening_stable row)
          (Carried.info (N := fun _ => False) fun info : Info => info.signedIn = none).stable)
      exact .commit hopening fun s _ hs => ⟨fun _ => signInCurrent_of_none hs.2.2,
        fun _ => ⟨hs.2.1.keeps, signInCurrent_of_none hs.2.2⟩⟩
  | login email password guestFound => exact hclosing (authenticateUser_part _ _ _)
  | refresh claims => exact hclosing (hmild (refreshSession_mild claims))
  | revoke user id => exact hclosing (hmild (revokeSession_mild user id))
  | revokeAll user =>
      exact hclosing (hmild (.bind (mild_part (revokeAllUserSessions_inside user trivial
        revokeSession_harmless)) fun _ => commit_mild))
  | reset token hashed =>
      exact hclosing ((resetPassword_unsigned token hashed).conseq (fun s hs => hs.2)
        (fun _ _ hs => signInCurrent_of_none hs) fun _ _ => id)

/-- However sign-ins, refreshes, revocations and resets interleave: when every sign-in
commits its session only while the hash it has verified is still the user's, then the
session of a returned sign-in is there, and it is revoked unless that hash is the one
of its user. -/
theorem old_password_signed_out (hashing : Hashing) (settings : Settings) (d : Db) (world : World)
    (requests : Tid → Request) {q : Pool}
    (h : Pool.Run hashesCurrent (start hashing settings d world requests) q) {t : Tid}
    (hreturned : q.progs t = .ret ()) {id : Uuid} {hashed : String}
    (hid : (q.store.info t).signedIn = some id) (hverified : (q.store.info t).verified = some hashed) :
    ∃ row, q.store.db.session? id = some row ∧
      (currentHash row.userId q.store.db ≠ some hashed → row.revokedAt ≠ none) := by
  have hstart : Pool.Keeps passwordContract (fun u => SignInCurrent u)
      (fun u _ s => s.doomed u = true ∨ True) (start hashing settings d world requests) :=
    Pool.Keeps.start trivial fun u => (request_part (requests u)).pre fun s hs => by
      rw [hs]
      exact ⟨rfl, rfl, rfl⟩
  have hmeets := ((hstart.run passwordContract_sound (fun _ => signInCurrent_stable)
    (fun u _ => .or (.doomed true) (.pure True)) h).1).meets t
  rw [hreturned] at hmeets
  have hcurrent : SignInCurrent t q.store := hmeets
  obtain ⟨row, hrow, hhash⟩ := hcurrent id hashed hid hverified
  exact ⟨row, hrow, fun hchanged hlive => hchanged (hhash hlive)⟩

/-- Sign-ins with the old password, and a reset. -/
def Desk.loginsAndReset : Tid → Request
  | 1 => .reset "link" "new"
  | _ => .login "a@desk" "old" false

def Desk.startReset : Pool :=
  start Desk.hashing .default Desk.db ⟨10, 5⟩ Desk.loginsAndReset

/-- A sign-in that has committed when the reset starts is signed out by it. -/
theorem reset_signs_out : ∃ q, Pool.Run hashesCurrent Desk.startReset q ∧
    (q.store.info 0).verified = some "old" ∧ currentHash 1 q.store.db = some "new" ∧
      ∃ row, q.store.db.session? 5 = some row ∧
        (currentHash row.userId q.store.db ≠ some "old" → row.revokedAt ≠ none) := by
  obtain ⟨q, hrun, hq⟩ := Pool.exists_run_of_play
    (f := fun q : Pool => Desk.returned q 0 && decide ((q.store.info 0).signedIn = some 5 ∧
      (q.store.info 0).verified = some "old" ∧ currentHash 1 q.store.db = some "new"))
    (show (Pool.play hashesCurrent Desk.startReset (Desk.runs 0 17 ++ Desk.runs 1 16)).any _ = true
      by decide +kernel)
  rw [Bool.and_eq_true, decide_eq_true_eq] at hq
  obtain ⟨hreturned, hid, hverified, hhash⟩ := hq
  exact ⟨q, hrun, hverified, hhash, old_password_signed_out Desk.hashing .default Desk.db ⟨10, 5⟩
    Desk.loginsAndReset hrun (Desk.eq_ret_of_returned hreturned) hid hverified⟩

/-- The sign-in has verified the old password when the reset runs, and starts its session
when the reset has committed. -/
theorem old_password_signed_in : ∃ q, Pool.Run .any Desk.startReset q ∧
    (q.progs 0).ended = true ∧ (q.progs 1).ended = true ∧
      (q.store.info 0).verified = some "old" ∧ (q.store.info 0).signedIn = some 5 ∧
        currentHash 1 q.store.db = some "new" ∧
          (q.store.db.sessions.filter fun row => row.revokedAt.isNone).map Session.id = [5] := by
  obtain ⟨q, hrun, hq⟩ := Pool.exists_run_of_play
    (f := fun q : Pool => decide ((q.progs 0).ended = true ∧ (q.progs 1).ended = true ∧
      (q.store.info 0).verified = some "old" ∧ (q.store.info 0).signedIn = some 5 ∧
        currentHash 1 q.store.db = some "new" ∧
          (q.store.db.sessions.filter fun row => row.revokedAt.isNone).map Session.id = [5]))
    (show (Pool.play .any Desk.startReset
      (Desk.runs 0 2 ++ Desk.runs 1 14 ++ Desk.runs 0 15)).any _ = true by decide +kernel)
  exact ⟨q, hrun, of_decide_eq_true hq⟩

end MovieApi.Accounts.Concurrent
