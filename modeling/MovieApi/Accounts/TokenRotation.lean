import MovieApi.Accounts.Service

/-!
# Rotation of refresh tokens

Every refresh moves a session to a new token version, and only the current
token may refresh, or for a short while the one before it.  Presenting an older
token ends the session.
-/

namespace MovieApi.Accounts

variable {hashing : Hashing} {settings : Settings} {now now' t : Instant} {d : Db} {sid : Uuid}
  {n : Nat} {session session' : Session} {claims : Claims} {w w' : World}

/-! ## Moves of a session -/

theorem SessionMove.tokenVersion (h : SessionMove settings now session session') :
    session.tokenVersion ≤ session'.tokenVersion ∧
      session'.tokenVersion ≤ session.tokenVersion + 1 := by
  cases h with
  | same | revoked => simp [Session.revoked]
  | refreshed _ _ _ hnext =>
      rcases nextVersion_bounds hnext with rfl | rfl <;> simp [Session.refreshed]

theorem SessionMove.userId (h : SessionMove settings now session session') :
    session'.userId = session.userId := by
  cases h <;> rfl

/-- A revocation is final. -/
theorem SessionMove.revokedAt (h : SessionMove settings now session session')
    (hrevoked : session.revokedAt.isSome = true) : session' = session := by
  cases h with
  | same => rfl
  | revoked hlive | refreshed hlive => simp [hlive] at hrevoked

/-- The retry window is the one of the last version. -/
theorem SessionMove.refreshedAt (h : SessionMove settings now session session')
    (hversion : session'.tokenVersion = session.tokenVersion) :
    session'.refreshedAt = session.refreshedAt := by
  cases h with
  | same | revoked => rfl
  | refreshed => simpa [Session.refreshed] using fun hne => absurd hversion hne

/-- A version bump is noted with its time. -/
theorem SessionMove.bumped (h : SessionMove settings now session session')
    (hversion : session.tokenVersion < session'.tokenVersion) :
    session'.refreshedAt = some now := by
  cases h with
  | same | revoked => simp [Session.revoked] at hversion
  | @refreshed _ next =>
      have hne : next ≠ session.tokenVersion := Nat.ne_of_gt hversion
      simp [Session.refreshed, hne]

/-! ## Sessions that are over -/

/-- The session is revoked, or lapsed too long ago. -/
def Session.Over (settings : Settings) (now : Instant) (session : Session) : Prop :=
  session.revokedAt.isSome = true ∨ session.pastCutoff settings now = true

theorem pastCutoff_mono (hle : now ≤ now') (h : session.pastCutoff settings now = true) :
    session.pastCutoff settings now' = true := by
  unfold Session.pastCutoff refreshCutoff at h ⊢
  cases hgrace : settings.sessionRefreshGraceDays with
  | none => simp [hgrace] at h
  | some grace =>
      simp only [hgrace, Option.map_some, Option.any_some, decide_eq_true_eq] at h ⊢
      exact h.trans (sub_le_sub_right hle _)

theorem SessionMove.over (h : SessionMove settings now' session session') (hle : now ≤ now')
    (hover : session.Over settings now) : session'.Over settings now' := by
  rcases hover with hrevoked | hcutoff
  · rw [h.revokedAt hrevoked]
    exact .inl hrevoked
  · have hcutoff' := pastCutoff_mono hle hcutoff
    cases h with
    | same => exact .inr hcutoff'
    | revoked => exact .inl rfl
    | refreshed _ hin => exact absurd hcutoff' (by simp [hin])

/-- The session is over, and `tokens` are all that was ever issued for it. -/
structure Ended (settings : Settings) (sid : Uuid) (tokens : List Claims) (w : World) : Prop where
  session : ∃ session, w.db.session? sid = some session ∧ session.Over settings w.clock
  issued : ∀ claims ∈ w.issued, claims.sid = sid → claims ∈ tokens

theorem Ended.step {tokens : List Claims} (h : Ended settings sid tokens w)
    (hstep : Step hashing settings w w') : Ended settings sid tokens w' := by
  obtain ⟨session, hsession, hover⟩ := h.session
  obtain ⟨session', hsession', hmove, -⟩ := hstep.moves hsession
  refine ⟨⟨session', hsession', hmove.over hstep.clock_le hover⟩, fun claims hclaims hsid => ?_⟩
  by_cases hold : claims ∈ w.issued
  · exact h.issued claims hold hsid
  · obtain ⟨_, -, -, -, hbefore⟩ := hstep.issued hclaims hold
    obtain ⟨hlive, hin⟩ := hbefore session (hsid ▸ hsession)
    rcases hover with hrevoked | hcutoff
    · simp [hlive] at hrevoked
    · exact absurd (pastCutoff_mono hstep.clock_le hcutoff) (by simp [hin])

theorem Ended.reaches {tokens : List Claims} (h : Ended settings sid tokens w)
    (hrun : Reaches hashing settings w w') : Ended settings sid tokens w' := by
  induction hrun with
  | refl => exact h
  | tail _ hstep ih => exact ih.step hstep

theorem revoked_reaches (hsession : w.db.session? sid = some session)
    (hrevoked : session.revokedAt.isSome = true) (hrun : Reaches hashing settings w w') :
    w'.db.session? sid = some session := by
  induction hrun with
  | refl => exact hsession
  | tail _ hstep ih =>
      obtain ⟨session', hsession', hmove, -⟩ := hstep.moves ih
      rw [hsession', hmove.revokedAt hrevoked]

/-! ## Issued tokens -/

/-- Every token stands for a session of its user that has come at least to its version. -/
def Honest (w : World) : Prop :=
  ∀ claims ∈ w.issued, ∃ session, w.db.session? claims.sid = some session ∧
    claims.sub = session.userId ∧ claims.version ≤ session.tokenVersion

theorem Honest.step (h : Honest w) (hstep : Step hashing settings w w') : Honest w' := by
  intro claims hclaims
  by_cases hold : claims ∈ w.issued
  · obtain ⟨session, hsession, hsub, hversion⟩ := h claims hold
    obtain ⟨session', hsession', hmove, -⟩ := hstep.moves hsession
    exact ⟨session', hsession', hsub.trans hmove.userId.symm,
      hversion.trans hmove.tokenVersion.1⟩
  · obtain ⟨session', hsession', hsub, hversion, -⟩ := hstep.issued hclaims hold
    exact ⟨session', hsession', hsub, hversion.le⟩

theorem Honest.reaches (h : Honest w) (hrun : Reaches hashing settings w w') : Honest w' := by
  induction hrun with
  | refl => exact h
  | tail _ hstep ih => exact ih.step hstep

/-! ## Replaced tokens -/

/-- The session came to version `n` at time `t`, and may have gone further. -/
def Session.CameTo (n : Nat) (t : Instant) (session : Session) : Prop :=
  n < session.tokenVersion ∨ (session.tokenVersion = n ∧ session.refreshedAt = some t)

theorem SessionMove.cameTo (h : SessionMove settings now session session')
    (hcame : session.CameTo n t) : session'.CameTo n t := by
  have hversion := h.tokenVersion
  rcases hcame with hgone | ⟨rfl, hat⟩
  · exact .inl (by omega)
  · by_cases hsame : session'.tokenVersion = session.tokenVersion
    · exact .inr ⟨hsame, (h.refreshedAt hsame).trans hat⟩
    · exact .inl (by omega)

theorem cameTo_reaches (hsession : w.db.session? sid = some session)
    (hcame : session.CameTo n t) (hrun : Reaches hashing settings w w') :
    ∃ session', w'.db.session? sid = some session' ∧ session'.CameTo n t := by
  induction hrun with
  | refl => exact ⟨session, hsession, hcame⟩
  | tail _ hstep ih =>
      obtain ⟨session₁, hsession₁, hcame₁⟩ := ih
      obtain ⟨session', hsession', hmove, -⟩ := hstep.moves hsession₁
      exact ⟨session', hsession', hmove.cameTo hcame₁⟩

/-- Version `v` is too old for a session that came to `n` at `t`: two behind, or
one behind and the retry window over. -/
def Stale (n : Nat) (t now : Instant) (version : Nat) (session : Session) : Prop :=
  version + 1 < n ∨
    (version + 1 = n ∧ t + refreshRetryWindow ≤ now ∧ session.tokenVersion = n)

theorem nextVersion_stale {version : Nat} (hcame : session.CameTo n t)
    (hstale : Stale n t now version session) : session.nextVersion now version = none := by
  unfold Session.nextVersion
  rcases hstale with hold | ⟨hversion, hwindow, hcurrent⟩
  · have hn : n ≤ session.tokenVersion := by
      rcases hcame with h | h
      · exact h.le
      · exact h.1.ge
    rw [if_neg (by omega), if_neg fun h => by omega]
  · rcases hcame with hgone | ⟨-, hat⟩
    · omega
    · rw [if_neg (by omega), if_neg]
      rintro ⟨-, hretry⟩
      simp only [hat, Option.any_some, decide_eq_true_eq] at hretry
      exact absurd hretry (not_lt.2 (le_sub_iff_add_le'.2 hwindow))

/-- A refresh with an old token is refused, and revokes the session unless it
is over already. -/
theorem refreshSession_stale (settings : Settings) (hsession : d.session? claims.sid = some session)
    (huser : session.userId = claims.sub)
    (hstale : session.nextVersion now claims.version = none) :
    ∃ err, refreshSession settings now claims d = (.error err,
      if session.revokedAt.isNone = true ∧ session.pastCutoff settings now = false then
        d.saveSession (session.revoked now) else d) := by
  unfold refreshSession
  by_cases hlive : session.revokedAt.isNone = true
  · cases hcutoff : session.pastCutoff settings now with
    | true => exact ⟨sessionExpired, by simp [hsession, Option.filter, hlive, huser, hcutoff]⟩
    | false =>
        exact ⟨sessionRevoked, by simp [hsession, Option.filter, hlive, huser, hcutoff, hstale]⟩
  · exact ⟨sessionRevoked, by simp [hsession, Option.filter, hlive]⟩

/-! ## Rotation -/

/-- What rotation promises of a session from a state on.  A reused token revokes
the session for ever, unless `excused` says otherwise of the session and time. -/
structure Rotates (hashing : Hashing) (settings : Settings) (excused : Instant → Session → Prop)
    (sid : Uuid) (w : World) : Prop where
  /-- no token is ahead of its session -/
  issued : ∀ claims ∈ w.issued, claims.sid = sid →
    ∃ session, w.db.session? sid = some session ∧ claims.version ≤ session.tokenVersion
  /-- versions go up one at a time, revocations stay, retries do not move the window -/
  moves : ∀ w' session, Step hashing settings w w' → w.db.session? sid = some session →
    ∃ session', w'.db.session? sid = some session' ∧
      session.tokenVersion ≤ session'.tokenVersion ∧
      session'.tokenVersion ≤ session.tokenVersion + 1 ∧
      (session.revokedAt.isSome = true → session'.revokedAt = session.revokedAt) ∧
      (session'.tokenVersion = session.tokenVersion → session'.refreshedAt = session.refreshedAt)
  /-- a token that was replaced when the session came to a version is no use any more -/
  reuse : ∀ w' session session', Step hashing settings w w' →
    w.db.session? sid = some session → w'.db.session? sid = some session' →
    session.tokenVersion < session'.tokenVersion →
    ∀ w₁, Reaches hashing settings w' w₁ → ∀ session₁, w₁.db.session? sid = some session₁ →
    ∀ claims ∈ w₁.issued, claims.sid = sid → ∀ now, w₁.clock ≤ now →
    Stale session'.tokenVersion w'.clock now claims.version session₁ →
    (∃ err, (refreshSession settings now claims w₁.db).1 = .error err) ∧
    ∀ w₂, Reaches hashing settings ⟨(refreshSession settings now claims w₁.db).2, w₁.issued, now⟩ w₂ →
      (∀ claims ∈ w₂.issued, claims.sid = sid → claims ∈ w₁.issued) ∧
      (¬ excused now session₁ →
        ∃ session₂, w₂.db.session? sid = some session₂ ∧ session₂.revokedAt.isSome = true)

/-- A refused old token leaves the session over, and revoked unless it lapsed
too long ago. -/
theorem refreshSession_ends (settings : Settings) (tokens : List Claims)
    (hsession : d.session? claims.sid = some session) (huser : session.userId = claims.sub)
    (hstale : session.nextVersion now claims.version = none) :
    (∃ err, (refreshSession settings now claims d).1 = .error err) ∧
      Ended settings claims.sid tokens ⟨(refreshSession settings now claims d).2, tokens, now⟩ ∧
      (session.pastCutoff settings now = false → ∃ session',
        (refreshSession settings now claims d).2.session? claims.sid = some session' ∧
          session'.revokedAt.isSome = true) := by
  obtain ⟨err, hresult⟩ := refreshSession_stale settings hsession huser hstale
  rw [hresult]
  refine ⟨⟨err, rfl⟩, ⟨?_, fun _ h _ => h⟩, fun hcutoff => ?_⟩
  · dsimp only
    split
    · rw [session?_revoke hsession, if_pos rfl]
      exact ⟨_, rfl, .inl rfl⟩
    · next hover =>
        refine ⟨session, hsession, ?_⟩
        by_cases hlive : session.revokedAt.isNone = true
        · exact .inr (by simpa [hlive] using hover)
        · exact .inl (Option.isSome_iff_ne_none.2 (by simpa using hlive))
  · dsimp only
    split
    · rw [session?_revoke hsession, if_pos rfl]
      exact ⟨_, rfl, rfl⟩
    · next hover =>
        exact ⟨session, hsession, Option.isSome_iff_ne_none.2 (by simpa [hcutoff] using hover)⟩

/-- Rotation detects the reuse of replaced tokens; only a session that lapsed
past the configured grace is not revoked for it, and is never refreshed again. -/
theorem refresh_rotates {w₀ : World} (hhonest : Honest w₀) (hrun : Reaches hashing settings w₀ w)
    (sid : Uuid) :
    Rotates hashing settings (fun now session => session.pastCutoff settings now = true) sid w where
  issued claims hclaims hsid := by
    obtain ⟨session, hsession, -, hversion⟩ := hhonest.reaches hrun claims hclaims
    exact ⟨session, hsid ▸ hsession, hversion⟩
  moves w' session hstep hsession := by
    obtain ⟨session', hsession', hmove, -⟩ := hstep.moves hsession
    refine ⟨session', hsession', hmove.tokenVersion.1, hmove.tokenVersion.2, fun hrevoked => ?_,
      hmove.refreshedAt⟩
    rw [hmove.revokedAt hrevoked]
  reuse := by
    intro w' session session' hstep hsession hsession' hbump w₁ hrun₁ session₁ hsession₁ claims
      hclaims hsid now hclock hstale
    obtain ⟨moved, hmoved, hmove, -⟩ := hstep.moves hsession
    obtain rfl : session' = moved := Option.some.inj (hsession'.symm.trans hmoved)
    have hcame₀ : session'.CameTo session'.tokenVersion w'.clock := .inr ⟨rfl, hmove.bumped hbump⟩
    obtain ⟨reached, hreached, hcame⟩ := cameTo_reaches hsession' hcame₀ hrun₁
    obtain rfl : session₁ = reached := Option.some.inj (hsession₁.symm.trans hreached)
    subst hsid
    obtain ⟨owner, howner, hsub, -⟩ :=
      (hhonest.reaches ((hrun.tail hstep).trans hrun₁)) claims hclaims
    obtain rfl : session₁ = owner := Option.some.inj (hsession₁.symm.trans howner)
    obtain ⟨herr, hended, hrevoked⟩ := refreshSession_ends settings w₁.issued hsession₁ hsub.symm (nextVersion_stale hcame hstale)
    refine ⟨herr, fun w₂ hrun₂ => ⟨fun claims' hclaims' hsid' => ?_, fun hexcused => ?_⟩⟩
    · exact (hended.reaches hrun₂).issued claims' hclaims' hsid'
    · obtain ⟨session₂, hsession₂, hrevoked₂⟩ := hrevoked (by simpa using hexcused)
      exact ⟨session₂, revoked_reaches hsession₂ hrevoked₂ hrun₂, hrevoked₂⟩

/-! ## A reused token past the grace window -/

def plainHashing : Hashing := ⟨fun plain hashed => plain = hashed, id⟩

def graceSettings : Settings := { Settings.default with sessionRefreshGraceDays := some 30 }

/-- One user, signed in on one device at time zero. -/
def oneSession (settings : Settings) : World :=
  { db :=
      { users := [⟨1, "viewer@example.com", some "secret1", none, none, "user", true⟩]
        sessions := [newSession settings 0 7 1]
        resetTokens := [] }
    issued := [⟨1, "user", 7, some 0, settings.lifetime⟩]
    clock := 0 }

theorem oneSession_honest (settings : Settings) : Honest (oneSession settings) := by
  intro claims hclaims
  obtain rfl := List.mem_singleton.1 hclaims
  exact ⟨newSession settings 0 7 1, rfl, rfl, le_refl 0⟩

theorem oneSession_rotates :
    Rotates plainHashing Settings.default
      (fun now session => session.pastCutoff Settings.default now = true) 7
      (oneSession Settings.default) :=
  refresh_rotates (oneSession_honest Settings.default) .refl 7

/-- With a grace of thirty days, a token replaced at time one and presented
again after forty days leaves the session as it was. -/
theorem reuse_not_revoked :
    ¬ ∀ (hashing : Hashing) (settings : Settings) (w₀ w : World) (sid : Uuid), Honest w₀ →
      Reaches hashing settings w₀ w → Rotates hashing settings (fun _ _ => False) sid w := by
  intro h
  let claims : Claims := ⟨1, "user", 7, some 0, graceSettings.lifetime⟩
  let w' : World :=
    ⟨(refreshSession graceSettings 1 claims (oneSession graceSettings).db).2,
      (oneSession graceSettings).issued ++
        issuedToken (refreshSession graceSettings 1 claims (oneSession graceSettings).db).1, 1⟩
  have hrotates := h plainHashing graceSettings _ _ 7 (oneSession_honest graceSettings) .refl
  have hstep : Step plainHashing graceSettings (oneSession graceSettings) w' :=
    .refresh (by decide) (by decide)
  obtain ⟨-, hlater⟩ := hrotates.reuse w' _ _ hstep rfl rfl (by decide) w' .refl _ rfl claims
    (by decide) rfl (days 40) (by decide) (.inr (by decide))
  obtain ⟨session, hsession, hrevoked⟩ := (hlater _ .refl).2 id
  obtain rfl := Option.some.inj (hsession.symm.trans rfl)
  exact absurd hrevoked (by decide)

end MovieApi.Accounts
