import MovieApi.Accounts.TokenRotation

/-!
# Password changes and earlier tokens

A reset revokes every session of the user.  A change through the profile leaves
the sessions alone, so earlier tokens stay of use unless their sessions are out
of use already.
-/

namespace MovieApi.Accounts

open Sql

variable {hashing : Hashing} {settings : Settings} {now : Instant} {d : Db} {sid userId : Uuid}
  {session session' : Session} {claims : Claims} {w w' w₀ : World}

/-! ## States of the service -/

/-- What holds of every state the service reaches from one without sessions. -/
structure Faithful (w : World) : Prop where
  honest : Honest w
  unique : Unique Session.id w.db.sessions
  /-- the current token of a session with a token is among the issued ones -/
  current : ∀ claims ∈ w.issued, ∀ session, w.db.session? claims.sid = some session →
    ∃ current ∈ w.issued, current.sid = claims.sid ∧ current.version = session.tokenVersion

theorem revokeAll_unique (h : Unique Session.id d.sessions) :
    Unique Session.id (d.revokeAll userId now).sessions := by
  unfold Sql.Unique Db.revokeAll
  rw [List.map_map]
  have hsame : (Session.id ∘ fun session : Session =>
      if session.userId = userId ∧ session.revokedAt = none then session.revoked now
      else session) = Session.id := by
    funext session
    simp only [Function.comp_apply]
    split <;> rfl
  rw [hsame]
  exact h

theorem saveSession_unique (h : Unique Session.id d.sessions) (row : Session) :
    Unique Session.id (d.saveSession row).sessions :=
  h.modify fun _ _ => rfl

theorem resetPassword_unique {token hashed : String} {d' : Db}
    (hunique : Unique Session.id d.sessions)
    (h : resetPassword hashing now token hashed d = .ok (userId, d')) :
    Unique Session.id d'.sessions := by
  unfold resetPassword at h
  split at h
  · simp at h
  · split at h
    · simp at h
    · simp only [Except.ok.injEq, Prod.mk.injEq] at h
      obtain ⟨rfl, rfl⟩ := h
      exact revokeAll_unique hunique

theorem Step.unique (h : Step hashing settings w w') (hunique : Unique Session.id w.db.sessions) :
    Unique Session.id w'.db.sessions := by
  cases h with
  | signIn _ _ h =>
      obtain ⟨-, hfresh, -, rfl⟩ := createSession_ok h
      exact hunique.append hfresh
  | refresh _ _ =>
      rcases refreshSession_cases settings _ _ w.db with ⟨_, hresult⟩ | ⟨_, -, -, -, -, hrest⟩
      · rw [hresult]
        exact hunique
      · rcases hrest with ⟨-, hresult⟩ | ⟨_, _, -, -, -, -, hresult⟩ <;> rw [hresult] <;>
          exact saveSession_unique hunique _
  | revoke _ h =>
      obtain ⟨_, -, -, -, rfl⟩ := revokeSession_ok h
      exact saveSession_unique hunique _
  | resetPassword _ h => exact resetPassword_unique hunique h
  | updateMe _ _ h => exact (updateMe_ok h).2.2 ▸ hunique
  | other _ h => exact h ▸ hunique

theorem Step.issued_subset (h : Step hashing settings w w') : w.issued ⊆ w'.issued := by
  cases h with
  | signIn | refresh => exact List.subset_append_left _ _
  | revoke | resetPassword | updateMe | other => exact fun _ h => h

theorem Faithful.step (h : Faithful w) (hstep : Step hashing settings w w') : Faithful w' where
  honest := h.honest.step hstep
  unique := hstep.unique h.unique
  current claims hclaims session' hsession' := by
    by_cases hold : claims ∈ w.issued
    · obtain ⟨session, hsession, -⟩ := h.honest claims hold
      obtain ⟨moved, hmoved, hmove, htoken⟩ := hstep.moves hsession
      obtain rfl : session' = moved := Option.some.inj (hsession'.symm.trans hmoved)
      by_cases hbump : session.tokenVersion < session'.tokenVersion
      · exact htoken hbump
      · obtain ⟨current, hcurrent, hsid, hversion⟩ := h.current claims hold session hsession
        refine ⟨current, hstep.issued_subset hcurrent, hsid, ?_⟩
        have hle := hmove.tokenVersion.1
        omega
    · obtain ⟨session, hsession, -, hversion, -⟩ := hstep.issued hclaims hold
      obtain rfl : session' = session := Option.some.inj (hsession'.symm.trans hsession)
      exact ⟨claims, hclaims, rfl, hversion⟩

theorem Faithful.reaches (h : Faithful w) (hrun : Reaches hashing settings w w') : Faithful w' := by
  induction hrun with
  | refl => exact h
  | tail _ hstep ih => exact ih.step hstep

/-! ## Sessions out of use -/

/-- The session is revoked, or it lapsed and can never be refreshed. -/
def Session.Dead (settings : Settings) (now : Instant) (session : Session) : Prop :=
  session.revokedAt.isSome = true ∨
    (session.expiresAt ≤ now ∧
      (session.pastCutoff settings now = true ∨ settings.maxActiveSessionsPerUser = 0))

/-- Neither function accepts the token. -/
def Rejected (settings : Settings) (w : World) (claims : Claims) : Prop :=
  (∃ err, requireActiveSession w.clock claims.sid w.db = .error err) ∧
    ∃ err, (refreshSession settings w.clock claims w.db).1 = .error err

theorem Session.Dead.not_active (h : session.Dead settings now) : session.active now = false := by
  unfold Session.active
  rcases h with hrevoked | ⟨hlapsed, -⟩
  · rw [Option.isSome_iff_exists] at hrevoked
    obtain ⟨at_, hat⟩ := hrevoked
    simp [hat]
  · simp [not_lt.2 hlapsed]

theorem Session.Dead.rejected (hsession : w.db.session? claims.sid = some session)
    (h : session.Dead settings w.clock) : Rejected settings w claims := by
  constructor
  · refine ⟨sessionRevoked, ?_⟩
    unfold requireActiveSession Db.activeSession?
    rw [hsession]
    simp [Option.filter, h.not_active]
  · rcases refreshSession_cases settings w.clock claims w.db with
      ⟨err, hresult⟩ | ⟨found, hfound, hlive, -, hcutoff, hrest⟩
    · exact ⟨err, by rw [hresult]⟩
    · obtain rfl : found = session := Option.some.inj (hfound.symm.trans hsession)
      rcases hrest with ⟨-, hresult⟩ | ⟨next, user, -, -, -, hslot, -⟩
      · exact ⟨_, by rw [hresult]⟩
      · rcases h with hrevoked | ⟨hlapsed, hpast | hmax⟩
        · simp [hlive] at hrevoked
        · simp [hcutoff] at hpast
        · exact absurd ⟨hlapsed, hmax ▸ Nat.zero_le _⟩ hslot

theorem SessionMove.dead {now' : Instant} (h : SessionMove settings now' session session')
    (hle : now ≤ now') (hdead : session.Dead settings now) : session'.Dead settings now' := by
  rcases hdead with hrevoked | ⟨hlapsed, hlost⟩
  · rw [h.revokedAt hrevoked]
    exact .inl hrevoked
  · have hlapsed' := hlapsed.trans hle
    cases h with
    | same => exact .inr ⟨hlapsed', hlost.imp (pastCutoff_mono hle) id⟩
    | revoked => exact .inl rfl
    | refreshed _ hcutoff hslot =>
        rcases hlost with hpast | hmax
        · exact absurd (pastCutoff_mono hle hpast) (by simp [hcutoff])
        · exact absurd (hslot hlapsed') (by simp [hmax])

/-- Dead sessions stay dead. -/
theorem dead_reaches (hsession : w.db.session? sid = some session)
    (hdead : session.Dead settings w.clock) (hrun : Reaches hashing settings w w') :
    ∃ session', w'.db.session? sid = some session' ∧ session'.Dead settings w'.clock := by
  induction hrun with
  | refl => exact ⟨session, hsession, hdead⟩
  | tail _ hstep ih =>
      obtain ⟨session₁, hsession₁, hdead₁⟩ := ih
      obtain ⟨session', hsession', hmove, -⟩ := hstep.moves hsession₁
      exact ⟨session', hsession', hmove.dead hstep.clock_le hdead₁⟩

/-! ## Bringing a lapsed session back -/

theorem countActive_revoke {row : Session} (hmem : row ∈ d.sessions) (huser : row.userId = userId)
    (hactive : row.active now = true) (at_ : Instant) :
    (d.saveSession (row.revoked at_)).countActiveSessions userId now <
      d.countActiveSessions userId now := by
  unfold Db.countActiveSessions
  rw [← List.countP_eq_length_filter, ← List.countP_eq_length_filter]
  refine countP_modify_lt (fun _ _ => ?_) hmem rfl ?_
  · simp [Session.active, Session.revoked]
  · simp [huser, hactive]

/-- The other devices of a user can be signed out. -/
theorem exists_slot (hashing : Hashing) (settings : Settings) (userId : Uuid)
    (hunique : Unique Session.id w.db.sessions)
    (hsession : w.db.session? sid = some session) (hlapsed : session.active w.clock = false) :
    ∃ w', Reaches hashing settings w w' ∧ w'.db.session? sid = some session ∧
      w'.db.users = w.db.users ∧ w'.issued = w.issued ∧ w'.clock = w.clock ∧
      w'.db.countActiveSessions userId w.clock = 0 := by
  generalize hcount : w.db.countActiveSessions userId w.clock = n
  induction n using Nat.strong_induction_on generalizing w with
  | h n ih =>
      by_cases hzero : n = 0
      · exact ⟨w, .refl, hsession, rfl, rfl, rfl, hcount.trans hzero⟩
      · obtain ⟨row, hrow⟩ := List.exists_mem_of_length_pos
          (show 0 < w.db.countActiveSessions userId w.clock by omega)
        obtain ⟨hmem, hactive⟩ := List.mem_filter.1 hrow
        simp only [Bool.and_eq_true, decide_eq_true_eq] at hactive
        have hfound : w.db.session? row.id = some row := lookup_of_mem hunique hmem
        have hne : sid ≠ row.id := by
          rintro rfl
          obtain rfl := Option.some.inj (hsession.symm.trans hfound)
          simp [hlapsed] at hactive
        have hlive : row.revokedAt = none := by
          have := hactive.2
          simp only [Session.active, Bool.and_eq_true, Option.isNone_iff_eq_none] at this
          exact this.1
        let w₁ : World := ⟨w.db.saveSession (row.revoked w.clock), w.issued, w.clock⟩
        have hstep : Step hashing settings w w₁ := by
          have hrevoke : revokeSession w.clock userId row.id w.db =
              .ok (w.db.saveSession (row.revoked w.clock)) := by
            simp [revokeSession, hfound, Option.filter, hactive.1, hlive]
          exact .revoke le_rfl hrevoke
        have hsession₁ : w₁.db.session? sid = some session := by
          rw [session?_revoke hfound, if_neg hne, hsession]
        obtain ⟨w', hreaches, hrest⟩ := ih (w₁.db.countActiveSessions userId w.clock)
          (hcount ▸ countActive_revoke hmem hactive.1 hactive.2 w.clock)
          (saveSession_unique hunique _) hsession₁ hlapsed rfl
        exact ⟨w', .head hstep hreaches, hrest⟩

/-- The current token of a lapsed session refreshes it when a slot is free. -/
theorem refreshSession_current (hsession : d.session? claims.sid = some session)
    (hlive : session.revokedAt = none) (hsub : session.userId = claims.sub)
    (hcutoff : session.pastCutoff settings now = false)
    (hversion : claims.version = session.tokenVersion) {user : User}
    (huser : d.user? claims.sub = some user) (hactive : user.isActive = true)
    (hslot : d.countActiveSessions claims.sub now < settings.maxActiveSessionsPerUser) :
    (refreshSession settings now claims d).2 =
      d.saveSession (session.refreshed settings now (session.tokenVersion + 1)) := by
  have hnext : session.nextVersion now claims.version = some (session.tokenVersion + 1) := by
    rw [hversion, Session.nextVersion, if_pos rfl]
  rcases refreshSession_cases settings now claims d with ⟨err, hresult⟩ | ⟨found, hfound, -, -, -, hrest⟩
  · exfalso
    have hok : ∃ token, (refreshSession settings now claims d).1 = .ok token := by
      unfold refreshSession
      simp [hsession, Option.filter, hlive, hsub, hcutoff, hnext, extendSession, huser, hactive,
        not_le.2 hslot]
    obtain ⟨token, hok⟩ := hok
    simp [hresult] at hok
  · obtain rfl : found = session := Option.some.inj (hfound.symm.trans hsession)
    rcases hrest with ⟨hnone, -⟩ | ⟨next, _, hsome, -, -, -, hresult⟩
    · simp [hnext] at hnone
    · obtain rfl : found.tokenVersion + 1 = next := Option.some.inj (hnext.symm.trans hsome)
      rw [hresult]

theorem not_rejected_of_active (hsession : w.db.session? claims.sid = some session)
    (hactive : session.active w.clock = true) : ¬ Rejected settings w claims := by
  rintro ⟨⟨err, hrequire⟩, -⟩
  unfold requireActiveSession Db.activeSession? at hrequire
  rw [hsession] at hrequire
  simp [Option.filter, hactive] at hrequire

/-- A session that is not dead can be used again by whoever has a token for it. -/
theorem exists_accepted (hashing : Hashing) (hfaithful : Faithful w) (hclaims : claims ∈ w.issued) {user : User}
    (huser : w.db.user? claims.sub = some user) (hactive : user.isActive = true)
    (hlifetime : 0 < settings.lifetime)
    (hsession : w.db.session? claims.sid = some session) (hdead : ¬ session.Dead settings w.clock) :
    ∃ w', Reaches hashing settings w w' ∧ ¬ Rejected settings w' claims := by
  have hlive : session.revokedAt = none := by
    by_contra h
    exact hdead (.inl (Option.isSome_iff_ne_none.2 h))
  cases hnow : session.active w.clock with
  | true => exact ⟨w, .refl, not_rejected_of_active hsession hnow⟩
  | false =>
      have hlapsed : session.expiresAt ≤ w.clock := by
        simpa [Session.active, hlive] using hnow
      have hcutoff : session.pastCutoff settings w.clock = false := by
        by_contra h
        exact hdead (.inr ⟨hlapsed, .inl (by simpa using h)⟩)
      have hmax : 0 < settings.maxActiveSessionsPerUser := by
        by_contra h
        exact hdead (.inr ⟨hlapsed, .inr (Nat.eq_zero_of_not_pos h)⟩)
      obtain ⟨w₁, hreaches, hsession₁, husers, hissued, hclock, hcount⟩ :=
        exists_slot hashing settings claims.sub hfaithful.unique hsession hnow
      obtain ⟨current, hcurrent, hsid, hversion⟩ := hfaithful.current claims hclaims session hsession
      have hsub : session.userId = claims.sub := by
        obtain ⟨owner, howner, hsub, -⟩ := hfaithful.honest claims hclaims
        obtain rfl := Option.some.inj (hsession.symm.trans howner)
        exact hsub.symm
      have hsub' : current.sub = claims.sub := by
        obtain ⟨owner, howner, hsub', -⟩ := hfaithful.honest current hcurrent
        obtain rfl := Option.some.inj (howner.symm.trans (hsid ▸ hsession))
        exact hsub'.trans hsub
      have huser₁ : w₁.db.user? current.sub = some user := by
        rw [hsub', Db.user?, husers]
        exact huser
      have hslot : w₁.db.countActiveSessions current.sub w.clock <
          settings.maxActiveSessionsPerUser := by
        rw [hsub', hcount]
        exact hmax
      have hresult := refreshSession_current (hsid ▸ hsession₁) hlive (hsub.trans hsub'.symm)
        hcutoff hversion huser₁ hactive hslot
      have hcurrent₁ : current ∈ w₁.issued := hissued ▸ hcurrent
      have hback : ((refreshSession settings w.clock current w₁.db).2).session? claims.sid =
          some (session.refreshed settings w.clock (session.tokenVersion + 1)) := by
        rw [hresult, session?_refresh hsession₁, if_pos rfl]
      refine ⟨_, hreaches.tail (.refresh hclock.le hcurrent₁), not_rejected_of_active hback ?_⟩
      simp [Session.active, Session.refreshed, hlive, hlifetime]

/-! ## Changing the password -/

/-- A transaction that replaces the password of `userId`, and the token it was
requested with, if any. -/
inductive PasswordChange (hashing : Hashing) (w : World) : World → Uuid → Option Claims → Prop
  | reset {now : Instant} (hclock : w.clock ≤ now) {token hashed : String} {userId : Uuid} {d : Db}
      (h : resetPassword hashing now token hashed w.db = .ok (userId, d)) :
      PasswordChange hashing w ⟨d, w.issued, now⟩ userId none
  | update {now : Instant} (hclock : w.clock ≤ now) {claims : Claims} (hissued : claims ∈ w.issued)
      {password : Option String} {hashed : String} {user : User} {d : Db}
      (h : updateMe hashing now claims password hashed w.db = .ok (user, d)) :
      PasswordChange hashing w ⟨d, w.issued, now⟩ user.id (some claims)

theorem PasswordChange.step {presented : Option Claims}
    (h : PasswordChange hashing w w' userId presented) : Step hashing settings w w' := by
  cases h with
  | reset hclock h => exact .resetPassword hclock h
  | update hclock hissued h => exact .updateMe hclock hissued h

/-- From the change on, every other token the user had is rejected. -/
def Invalidates (hashing : Hashing) (settings : Settings) (w w' : World) (userId : Uuid)
    (presented : Option Claims) : Prop :=
  ∀ claims ∈ w.issued, claims.sub = userId → some claims ≠ presented →
    ∀ w₂, Reaches hashing settings w' w₂ → Rejected settings w₂ claims

/-- The sessions of the other tokens of the user are dead. -/
def OthersDead (settings : Settings) (w : World) (now : Instant) (userId : Uuid)
    (presented : Option Claims) : Prop :=
  ∀ claims ∈ w.issued, claims.sub = userId → some claims ≠ presented →
    ∀ session, w.db.session? claims.sid = some session → session.Dead settings now

theorem user?_saveUser (d : Db) {user : User} {id : Uuid} (h : d.user? id = some user)
    (hashed : String) : (d.saveUser { user with passwordHash := some hashed }).user? id =
      some { user with passwordHash := some hashed } := by
  have hid : user.id = id := key_of_lookup h
  unfold Db.saveUser Db.user?
  rw [lookup_modify (fun _ _ => rfl), if_pos hid.symm]
  rw [Db.user?] at h
  rw [h]
  rfl

theorem reset_invalidates {token hashed : String} (hhonest : Honest w)
    (h : resetPassword hashing now token hashed w.db = .ok (userId, d)) :
    Invalidates hashing settings w ⟨d, w.issued, now⟩ userId none := by
  intro claims hclaims hsub _ w₂ hrun
  obtain ⟨session, hsession, hsub', -⟩ := hhonest claims hclaims
  have hrevoked : ∃ session', d.session? claims.sid = some session' ∧
      session'.revokedAt.isSome = true := by
    rw [resetPassword_sessions h, session?_revokeAll, hsession]
    refine ⟨_, rfl, ?_⟩
    dsimp only
    split
    · rfl
    · next hother =>
        have huser : session.userId = userId := hsub'.symm.trans hsub
        exact Option.isSome_iff_ne_none.2 fun hnone => hother ⟨huser, hnone⟩
  obtain ⟨session', hsession', hrevoked⟩ := hrevoked
  have hlater := revoked_reaches (by exact hsession') hrevoked hrun
  exact Session.Dead.rejected hlater (.inl hrevoked)

/-- Tokens of the user are rejected from a password change on if it is a reset,
or if the sessions of the other tokens are dead already; and, as sessions last
some time, only then. -/
theorem passwordChange_invalidates (hfaithful : Faithful w₀) (hrun : Reaches hashing settings w₀ w)
    {presented : Option Claims} (h : PasswordChange hashing w w' userId presented) :
    ((presented = none ∨ OthersDead settings w w'.clock userId presented) →
        Invalidates hashing settings w w' userId presented) ∧
      (0 < settings.lifetime → Invalidates hashing settings w w' userId presented →
        presented = none ∨ OthersDead settings w w'.clock userId presented) := by
  have hw : Faithful w := hfaithful.reaches hrun
  have hw' : Faithful w' := hw.step (h.step : Step hashing settings w w')
  cases h with
  | reset hclock h => exact ⟨fun _ => reset_invalidates hw.honest h, fun _ _ => .inl rfl⟩
  | @update _ hclock _ hissued _ hashed _ _ h =>
      obtain ⟨huser, hactive, rfl⟩ := updateMe_ok h
      refine ⟨fun hcond claims hclaims hsub hne w₂ hrun₂ => ?_, fun hlifetime hinvalid => ?_⟩
      · obtain ⟨session, hsession, -⟩ := hw.honest claims hclaims
        have hdead := (hcond.resolve_left (by simp)) claims hclaims hsub hne session hsession
        obtain ⟨session₂, hsession₂, hdead₂⟩ := dead_reaches (by exact hsession) (by exact hdead) hrun₂
        exact hdead₂.rejected hsession₂
      · refine .inr fun claims hclaims hsub hne session hsession => ?_
        by_contra hdead
        have hid := key_of_lookup huser
        have huser' := user?_saveUser w.db huser hashed
        obtain ⟨w₂, hrun₂, haccepted⟩ := exists_accepted hashing hw' hclaims
          ((hsub.trans hid).symm ▸ huser') (by exact hactive) hlifetime hsession hdead
        exact haccepted (hinvalid claims hclaims hsub hne w₂ hrun₂)

/-! ## A change through the profile -/

/-- One user, signed in on two devices at time zero. -/
def twoDevices : World :=
  { db :=
      { users := [⟨1, "viewer@example.com", some "secret1", none, none, "user", true⟩]
        sessions := [newSession Settings.default 0 7 1, newSession Settings.default 0 8 1]
        resetTokens := [⟨1, "link", days 1, none⟩] }
    issued := [⟨1, "user", 7, some 0, minutes 60⟩, ⟨1, "user", 8, some 0, minutes 60⟩]
    clock := 0 }

theorem twoDevices_faithful : Faithful twoDevices where
  honest := by
    intro claims hclaims
    simp only [twoDevices, List.mem_cons, List.not_mem_nil, or_false] at hclaims
    rcases hclaims with rfl | rfl
    · exact ⟨newSession Settings.default 0 7 1, rfl, rfl, le_refl 0⟩
    · exact ⟨newSession Settings.default 0 8 1, rfl, rfl, le_refl 0⟩
  unique := by
    unfold Sql.Unique
    decide
  current := by
    intro claims hclaims session hsession
    refine ⟨claims, hclaims, rfl, ?_⟩
    simp only [twoDevices, List.mem_cons, List.not_mem_nil, or_false] at hclaims
    rcases hclaims with rfl | rfl <;> (obtain rfl := Option.some.inj (hsession.symm.trans rfl); rfl)

/-- The database after the reset link was used. -/
def twoDevicesReset : World :=
  { twoDevices with
    db :=
      { users := [⟨1, "viewer@example.com", some "secret2", none, none, "user", true⟩]
        sessions := twoDevices.db.sessions.map (Session.revoked 1)
        resetTokens := [⟨1, "link", days 1, some 1⟩] }
    clock := 1 }

theorem reset_ends_twoDevices :
    Invalidates plainHashing Settings.default twoDevices twoDevicesReset 1 none :=
  (passwordChange_invalidates twoDevices_faithful .refl
    (.reset (by decide) (by rfl : resetPassword plainHashing 1 "link" "secret2" twoDevices.db =
      .ok (1, twoDevicesReset.db)))).1 (.inl rfl)

/-- A change through the profile of one device leaves the other device signed in. -/
theorem update_keeps_other_device :
    ¬ ∀ (hashing : Hashing) (settings : Settings) (w₀ w w' : World) (userId : Uuid)
      (presented : Option Claims), Faithful w₀ → Reaches hashing settings w₀ w →
      PasswordChange hashing w w' userId presented →
      Invalidates hashing settings w w' userId presented := by
  intro h
  let laptop : Claims := ⟨1, "user", 7, some 0, minutes 60⟩
  let phone : Claims := ⟨1, "user", 8, some 0, minutes 60⟩
  let d : Db := twoDevices.db.saveUser ⟨1, "viewer@example.com", some "secret2", none, none, "user", true⟩
  have hupdate : updateMe plainHashing 1 laptop (some "secret1") "secret2" twoDevices.db =
      .ok (⟨1, "viewer@example.com", some "secret1", none, none, "user", true⟩, d) := by rfl
  have hchange : PasswordChange plainHashing twoDevices ⟨d, twoDevices.issued, 1⟩ 1 (some laptop) :=
    .update (by decide) (by decide) hupdate
  have hrejected := h plainHashing Settings.default _ _ _ 1 _ twoDevices_faithful .refl hchange phone
    (by decide) rfl (by decide) _ .refl
  exact not_rejected_of_active (by rfl) (by decide) hrejected

end MovieApi.Accounts
