import MovieApi.Accounts.TokenRotation

/-!
# The device list

`list_active_sessions` shows the sessions a user can still use, idle ones that
only need a refresh included, so that each of them can be revoked.  The list is
drawn up to the cutoff of the grace window, and a window that reaches back
before the first year has no cutoff that a `datetime` can hold.
-/

namespace MovieApi.Accounts

/-! ## The cutoff -/

/-- `datetime.min`, counted from the start of 1970. -/
def datetimeMin : Instant := -62135596800000000

/-- `_refresh_cutoff`, which raises when the cutoff is no date. -/
def computeRefreshCutoff (settings : Settings) (now : Instant) : Except Err (Option Instant) :=
  match settings.sessionRefreshGraceDays with
  | none => .ok none
  | some grace =>
      if now - days grace < datetimeMin then .error .overflow else .ok (some (now - days grace))

def cutoffInRange (settings : Settings) (now : Instant) : Bool :=
  settings.sessionRefreshGraceDays.all fun grace => decide (datetimeMin ≤ now - days grace)

/-- `list_active_sessions`, in the order of the table. -/
def listActiveSessions (settings : Settings) (now : Instant) (userId : Uuid) (d : Db) :
    Except Err (List Session) := do
  let cutoff ← computeRefreshCutoff settings now
  return d.sessions.filter fun session =>
    decide (session.userId = userId) && session.revokedAt.isNone &&
      cutoff.all fun cutoff => decide (cutoff < session.expiresAt)

/-- `refresh_session` where the cutoff has to be a date: it is computed once the
session is found to be the one of the token. -/
def refreshWithinDates (settings : Settings) (now : Instant) (claims : Claims) (d : Db) :
    Except Err Claims × Db :=
  match (d.session? claims.sid).filter fun session => session.revokedAt.isNone with
  | none => (.error sessionRevoked, d)
  | some session =>
      if session.userId ≠ claims.sub then (.error sessionRevoked, d)
      else
        match computeRefreshCutoff settings now with
        | .error err => (.error err, d)
        | .ok _ => refreshSession settings now claims d

variable {hashing : Hashing} {settings : Settings} {now later : Instant} {d d' : Db} {sid : Uuid}
  {session : Session} {claims fresh : Claims} {w : World}

theorem computeRefreshCutoff_eq (settings : Settings) (now : Instant) :
    computeRefreshCutoff settings now =
      if cutoffInRange settings now then .ok (refreshCutoff settings now) else .error .overflow := by
  unfold computeRefreshCutoff cutoffInRange refreshCutoff
  cases settings.sessionRefreshGraceDays with
  | none => rfl
  | some grace =>
      by_cases h : now - days grace < datetimeMin
      · have hout : ¬ datetimeMin ≤ now - days grace := not_le.2 h
        simp [h, hout]
      · have hin : datetimeMin ≤ now - days grace := not_lt.1 h
        simp [h, hin]

/-! ## Three predicates on a session -/

/-- A refresh may extend the session: it is not revoked and inside the window. -/
def Session.refreshable (settings : Settings) (now : Instant) (session : Session) : Bool :=
  session.revokedAt.isNone && !session.pastCutoff settings now

/-- What has not expired is inside every window that reaches back. -/
theorem Session.active.refreshable (h : session.active now = true)
    (hgrace : ∀ grace ∈ settings.sessionRefreshGraceDays, 0 ≤ grace) :
    session.refreshable settings now = true := by
  unfold Session.active at h
  unfold Session.refreshable Session.pastCutoff refreshCutoff
  obtain ⟨hlive, hexpires⟩ : session.revokedAt = none ∧ now < session.expiresAt := by
    simpa using h
  cases hset : settings.sessionRefreshGraceDays with
  | none => simp [hlive]
  | some grace =>
      have hnonneg : 0 ≤ grace := hgrace grace hset
      have hcutoff : now - days grace < session.expiresAt := by
        unfold days
        linarith
      simp [hlive, hcutoff]

theorem mem_listActiveSessions (hrange : cutoffInRange settings now = true) :
    ∃ listed, listActiveSessions settings now session.userId d = .ok listed ∧
      (session ∈ listed ↔ session ∈ d.sessions ∧ session.refreshable settings now = true) := by
  refine ⟨d.sessions.filter fun row => decide (row.userId = session.userId) &&
    row.revokedAt.isNone && (refreshCutoff settings now).all fun cutoff =>
      decide (cutoff < row.expiresAt), ?_, ?_⟩
  · unfold listActiveSessions
    rw [computeRefreshCutoff_eq, if_pos hrange]
    rfl
  · rw [List.mem_filter]
    unfold Session.refreshable Session.pastCutoff
    cases refreshCutoff settings now <;> simp

theorem listActiveSessions_overflow (hrange : cutoffInRange settings now = false)
    (userId : Uuid) : listActiveSessions settings now userId d = .error .overflow := by
  unfold listActiveSessions
  rw [computeRefreshCutoff_eq, hrange]
  rfl

/-! ## Using and revoking a session -/

/-- What a refresh with a token of the session does to it. -/
theorem refreshWithinDates_ok (h : (refreshWithinDates settings now claims d).1 = .ok fresh) :
    cutoffInRange settings now = true ∧
      ∃ session, d.session? claims.sid = some session ∧
        session.refreshable settings now = true := by
  unfold refreshWithinDates at h
  split at h
  · simp at h
  · split at h
    · simp at h
    · rw [computeRefreshCutoff_eq] at h
      cases hrange : cutoffInRange settings now with
      | false => simp [hrange] at h
      | true =>
          simp only [hrange, if_true] at h
          rcases refreshSession_cases settings now claims d with
            ⟨err, hresult⟩ | ⟨found, hfound, hlive, -, hcutoff, -⟩
          · simp [hresult] at h
          · exact ⟨rfl, found, hfound, by simp [Session.refreshable, hlive, hcutoff]⟩

theorem refreshWithinDates_revoked (hsession : d.session? claims.sid = some session)
    (hrevoked : session.revokedAt.isSome = true) :
    refreshWithinDates settings now claims d = (.error sessionRevoked, d) := by
  have hnone : session.revokedAt.isNone = false := by
    cases h : session.revokedAt <;> simp [h] at hrevoked ⊢
  unfold refreshWithinDates
  simp [hsession, Option.filter_some, hnone]

theorem requireActiveSession_ok {id : Uuid} (h : requireActiveSession now sid d = .ok id) :
    ∃ session, d.session? sid = some session ∧ session.active now = true := by
  unfold requireActiveSession Db.activeSession? at h
  split at h
  · simp at h
  · next session hactive =>
      exact ⟨session, Option.filter_eq_some_iff.1 hactive⟩

theorem requireActiveSession_revoked (hsession : d.session? sid = some session)
    (hrevoked : session.revokedAt.isSome = true) :
    requireActiveSession now sid d = .error sessionRevoked := by
  have hactive : session.active now = false := by
    unfold Session.active
    cases h : session.revokedAt <;> simp [h] at hrevoked ⊢
  unfold requireActiveSession Db.activeSession?
  simp [hsession, Option.filter_some, hactive]

/-- `require_active_session` accepts the session, or a refresh with some token
extends it. -/
def Usable (settings : Settings) (now : Instant) (session : Session) (d : Db) : Prop :=
  d.session? session.id = some session ∧
    (requireActiveSession now session.id d = .ok session.id ∨
      ∃ claims fresh, claims.sid = session.id ∧
        (refreshWithinDates settings now claims d).1 = .ok fresh)

/-- Neither accepts the session any more. -/
def Refused (settings : Settings) (sid : Uuid) (w : World) : Prop :=
  requireActiveSession w.clock sid w.db = .error sessionRevoked ∧
    ∀ claims : Claims, claims.sid = sid →
      refreshWithinDates settings w.clock claims w.db = (.error sessionRevoked, w.db)

/-- The user finds the session on the list, and can revoke it for good. -/
def Manageable (hashing : Hashing) (settings : Settings) (now : Instant) (session : Session)
    (d : Db) : Prop :=
  (∃ listed, listActiveSessions settings now session.userId d = .ok listed ∧ session ∈ listed) ∧
    ∀ later, now ≤ later → ∃ d', revokeSession later session.userId session.id d = .ok d' ∧
      ∀ issued w, Reaches hashing settings ⟨d', issued, later⟩ w → Refused settings session.id w

theorem Usable.refreshable (h : Usable settings now session d)
    (hgrace : ∀ grace ∈ settings.sessionRefreshGraceDays, 0 ≤ grace) :
    session.refreshable settings now = true := by
  obtain ⟨hsession, haccepted | ⟨claims, fresh, hsid, hextended⟩⟩ := h
  · obtain ⟨found, hfound, hactive⟩ := requireActiveSession_ok haccepted
    have hsame : found = session := by simpa [hfound] using hsession
    rw [← hsame]
    exact Session.active.refreshable hactive hgrace
  · obtain ⟨-, found, hfound, hrefreshable⟩ := refreshWithinDates_ok hextended
    have hsame : found = session := by
      rw [hsid] at hfound
      simpa [hfound] using hsession
    rw [← hsame]
    exact hrefreshable

/-- A revoked session stays rejected, whatever the service does. -/
theorem refused_of_revoked (hsession : d.session? sid = some session)
    (hrevoked : session.revokedAt.isSome = true) {issued : List Claims}
    (hrun : Reaches hashing settings ⟨d, issued, now⟩ w) : Refused settings sid w := by
  have hkept : w.db.session? sid = some session := revoked_reaches hsession hrevoked hrun
  refine ⟨requireActiveSession_revoked hkept hrevoked, fun claims hsid => ?_⟩
  exact refreshWithinDates_revoked (hsid ▸ hkept) hrevoked

theorem revokeSession_refuses (hsession : d.session? session.id = some session)
    (hlive : session.revokedAt = none) (later : Instant) :
    ∃ d', revokeSession later session.userId session.id d = .ok d' ∧
      ∀ issued w, Reaches hashing settings ⟨d', issued, later⟩ w →
        Refused settings session.id w := by
  refine ⟨d.saveSession (session.revoked later), ?_, fun issued w hrun => ?_⟩
  · unfold revokeSession
    simp [hsession, Option.filter_some, hlive]
  · have hrow : (d.saveSession (session.revoked later)).session? session.id =
        some (session.revoked later) := by
      rw [session?_revoke hsession, if_pos rfl]
    exact refused_of_revoked hrow rfl hrun

/-- A usable session is on the list and can be revoked for good exactly when the
cutoff of the grace window is a date. -/
theorem usable_session_manageable_iff
    (hgrace : ∀ grace ∈ settings.sessionRefreshGraceDays, 0 ≤ grace)
    (husable : Usable settings now session d) :
    Manageable hashing settings now session d ↔ cutoffInRange settings now = true := by
  have hrefreshable := husable.refreshable hgrace
  have hlive : session.revokedAt = none := by
    unfold Session.refreshable at hrefreshable
    simp only [Bool.and_eq_true, Option.isNone_iff_eq_none] at hrefreshable
    exact hrefreshable.1
  constructor
  · intro hmanageable
    obtain ⟨⟨listed, hlisted, -⟩, -⟩ := hmanageable
    by_contra hrange
    rw [listActiveSessions_overflow (by simpa using hrange)] at hlisted
    simp at hlisted
  · intro hrange
    obtain ⟨listed, hlisted, hmem⟩ := mem_listActiveSessions (d := d) hrange
    have hrow : session ∈ d.sessions := Sql.mem_of_lookup husable.1
    exact ⟨⟨listed, hlisted, hmem.2 ⟨hrow, hrefreshable⟩⟩,
      fun later _ => revokeSession_refuses husable.1 hlive later⟩

/-! ## A window of a million days -/

def millionDays : Settings := { Settings.default with sessionRefreshGraceDays := some 1000000 }

def newYear2026 : Instant := 1767225600000000

def signedIn : Session := newSession Settings.default newYear2026 7 1

def signedInDb : Db :=
  { users := [⟨1, "dara@example.com", none, none, none, "user", true⟩], sessions := [signedIn],
    resetTokens := [] }

/-- With the default settings the session of a fresh login is manageable. -/
theorem fresh_login_manageable :
    Manageable plainHashing Settings.default newYear2026 signedIn signedInDb :=
  (usable_session_manageable_iff (by simp [Settings.default])
    ⟨by decide, .inl (by decide)⟩).2 (by decide)

/-- The same session is accepted under a window of a million days, but cannot be
listed. -/
theorem usable_session_unlisted :
    (∀ grace ∈ millionDays.sessionRefreshGraceDays, 0 ≤ grace) ∧
      Usable millionDays newYear2026 signedIn signedInDb ∧
      ¬ Manageable plainHashing millionDays newYear2026 signedIn signedInDb := by
  refine ⟨by simp [millionDays], ⟨by decide, .inl (by decide)⟩, ?_⟩
  intro hmanageable
  obtain ⟨⟨listed, hlisted, -⟩, -⟩ := hmanageable
  have hoverflow : listActiveSessions millionDays newYear2026 1 signedInDb = .error .overflow :=
    listActiveSessions_overflow (by decide) 1
  rw [show signedIn.userId = 1 from rfl, hoverflow] at hlisted
  simp at hlisted

end MovieApi.Accounts
