import MovieApi.Accounts.Sessions

/-!
# The account service over time

Sign-ins, refreshes, revocations and password changes in any order, each as one
transaction, on a clock that never goes back.  The service keeps in mind every
token it has issued; only those can be presented to it.
-/

namespace MovieApi.Accounts

open Sql

structure World where
  db : Db
  issued : List Claims
  clock : Instant

def issuedToken {ε : Type} : Except ε Claims → List Claims
  | .ok claims => [claims]
  | .error _ => []

inductive Step (hashing : Hashing) (settings : Settings) (w : World) : World → Prop
  /-- any sign-in: by password, provider, bot, device pairing or access code -/
  | signIn {now : Instant} (hclock : w.clock ≤ now) {id userId : Uuid} {user : User} {d : Db}
      (huser : w.db.user? userId = some user)
      (h : createSession settings now id userId w.db = .ok d) :
      Step hashing settings w ⟨d, w.issued ++ [createAccessToken settings now user id 0], now⟩
  | refresh {now : Instant} (hclock : w.clock ≤ now) {claims : Claims}
      (hissued : claims ∈ w.issued) :
      Step hashing settings w
        ⟨(refreshSession settings now claims w.db).2,
          w.issued ++ issuedToken (refreshSession settings now claims w.db).1, now⟩
  | revoke {now : Instant} (hclock : w.clock ≤ now) {userId id : Uuid} {d : Db}
      (h : revokeSession now userId id w.db = .ok d) :
      Step hashing settings w ⟨d, w.issued, now⟩
  | resetPassword {now : Instant} (hclock : w.clock ≤ now) {token hashed : String}
      {userId : Uuid} {d : Db} (h : resetPassword hashing now token hashed w.db = .ok (userId, d)) :
      Step hashing settings w ⟨d, w.issued, now⟩
  | updateMe {now : Instant} (hclock : w.clock ≤ now) {claims : Claims}
      (hissued : claims ∈ w.issued) {password : Option String} {hashed : String} {user : User}
      {d : Db} (h : updateMe hashing now claims password hashed w.db = .ok (user, d)) :
      Step hashing settings w ⟨d, w.issued, now⟩
  /-- everything else: registration, status changes, reset links, and time -/
  | other {now : Instant} (hclock : w.clock ≤ now) {d : Db} (h : d.sessions = w.db.sessions) :
      Step hashing settings w ⟨d, w.issued, now⟩

abbrev Reaches (hashing : Hashing) (settings : Settings) : World → World → Prop :=
  Relation.ReflTransGen (Step hashing settings)

/-! ## One session in one step -/

/-- What a step can do to a session row. -/
inductive SessionMove (settings : Settings) (now : Instant) (session : Session) : Session → Prop
  | same : SessionMove settings now session session
  | revoked (hlive : session.revokedAt = none) :
      SessionMove settings now session (session.revoked now)
  | refreshed {version next : Nat} (hlive : session.revokedAt = none)
      (hcutoff : session.pastCutoff settings now = false)
      (hslot : session.expiresAt ≤ now → 0 < settings.maxActiveSessionsPerUser)
      (hnext : session.nextVersion now version = some next) :
      SessionMove settings now session (session.refreshed settings now next)

variable {hashing : Hashing} {settings : Settings} {now : Instant} {d d' : Db} {sid : Uuid}
  {session session' : Session} {claims : Claims} {w w' : World}

@[simp] theorem session?_saveUser (d : Db) (user : User) (id : Uuid) :
    (d.saveUser user).session? id = d.session? id := rfl

theorem session?_saveSession (session' : Session) (h : d.session? sid = some session)
    (hid : session'.id = session.id) (id : Uuid) : (d.saveSession session').session? id =
      if id = sid then some session' else d.session? id := by
  have hsid : session.id = sid := key_of_lookup h
  unfold Db.saveSession Db.session?
  rw [lookup_modify (fun _ _ => rfl), hid, hsid]
  split
  · next hid =>
      subst hid
      rw [Db.session?] at h
      rw [h]
      rfl
  · rfl

theorem session?_revoke (h : d.session? sid = some session) (now : Instant) (id : Uuid) :
    (d.saveSession (session.revoked now)).session? id =
      if id = sid then some (session.revoked now) else d.session? id :=
  session?_saveSession (session.revoked now) h rfl id

theorem session?_refresh (h : d.session? sid = some session) (settings : Settings) (now : Instant)
    (next : Nat) (id : Uuid) :
    (d.saveSession (session.refreshed settings now next)).session? id =
      if id = sid then some (session.refreshed settings now next) else d.session? id :=
  session?_saveSession (session.refreshed settings now next) h rfl id

theorem session?_revokeAll (d : Db) (userId : Uuid) (now : Instant) (id : Uuid) :
    (d.revokeAll userId now).session? id = (d.session? id).map fun session =>
      if session.userId = userId ∧ session.revokedAt = none then session.revoked now
      else session := by
  unfold Db.revokeAll Db.session?
  induction d.sessions with
  | nil => rfl
  | cons head rows ih =>
      rw [List.map_cons, lookup_cons, lookup_cons, ih]
      have hid : (if head.userId = userId ∧ head.revokedAt = none then head.revoked now
          else head).id = head.id := by
        split <;> rfl
      rw [hid]
      by_cases h : head.id = id <;> simp [h]

theorem nextVersion_bounds {version next : Nat} (h : session.nextVersion now version = some next) :
    next = session.tokenVersion ∨ next = session.tokenVersion + 1 := by
  unfold Session.nextVersion at h
  split at h
  · exact .inr (by simpa using h.symm)
  · split at h
    · exact .inl (by simpa using h.symm)
    · simp at h

/-- Everything a refresh can do. -/
theorem refreshSession_cases (settings : Settings) (now : Instant) (claims : Claims) (d : Db) :
    (∃ err, refreshSession settings now claims d = (.error err, d)) ∨
    ∃ session, d.session? claims.sid = some session ∧ session.revokedAt = none ∧
      session.userId = claims.sub ∧ session.pastCutoff settings now = false ∧
      ((session.nextVersion now claims.version = none ∧
        refreshSession settings now claims d =
          (.error sessionRevoked, d.saveSession (session.revoked now))) ∨
      ∃ next user, session.nextVersion now claims.version = some next ∧
        d.user? claims.sub = some user ∧ user.isActive = true ∧
        ¬ (session.expiresAt ≤ now ∧
          settings.maxActiveSessionsPerUser ≤ d.countActiveSessions claims.sub now) ∧
        refreshSession settings now claims d =
          (.ok (createAccessToken settings now user session.id next),
            d.saveSession (session.refreshed settings now next))) := by
  unfold refreshSession
  split
  · exact .inl ⟨_, rfl⟩
  · next session hfound =>
      obtain ⟨hsession, hlive⟩ := Option.filter_eq_some_iff.1 hfound
      have hlive : session.revokedAt = none := by simpa using hlive
      by_cases huser : session.userId = claims.sub
      · rw [if_neg (by simpa using huser)]
        split
        · exact .inl ⟨_, rfl⟩
        · next hcutoff =>
            have hcutoff : session.pastCutoff settings now = false := by simpa using hcutoff
            cases hnext : session.nextVersion now claims.version with
            | none => exact .inr ⟨session, hsession, hlive, huser, hcutoff, .inl ⟨hnext, rfl⟩⟩
            | some next =>
                simp only [extendSession]
                split
                · exact .inl ⟨_, rfl⟩
                · next user hfilter =>
                    obtain ⟨hrow, hactive⟩ := Option.filter_eq_some_iff.1 hfilter
                    split
                    · exact .inl ⟨_, rfl⟩
                    · next hslot =>
                        exact .inr ⟨session, hsession, hlive, huser, hcutoff,
                          .inr ⟨next, user, hnext, hrow, hactive, hslot, rfl⟩⟩
      · rw [if_pos huser]
        exact .inl ⟨_, rfl⟩

/-- A refresh moves every session, and bumps a version only to hand out its token. -/
theorem refreshSession_move (hsession : d.session? sid = some session) :
    ∃ session', (refreshSession settings now claims d).2.session? sid = some session' ∧
      SessionMove settings now session session' ∧
      (session.tokenVersion < session'.tokenVersion →
        ∃ token ∈ issuedToken (refreshSession settings now claims d).1,
          token.sid = sid ∧ token.version = session'.tokenVersion) := by
  rcases refreshSession_cases settings now claims d with
    ⟨err, hresult⟩ | ⟨found, hfound, hlive, huser, hcutoff, hrest⟩
  · rw [hresult]
    exact ⟨session, hsession, .same, fun h => absurd h (lt_irrefl _)⟩
  · by_cases hsid : sid = claims.sid
    · subst hsid
      obtain rfl : found = session := by simpa [hfound] using hsession
      rcases hrest with ⟨hnext, hresult⟩ | ⟨next, user, hnext, -, -, hslot, hresult⟩
      · rw [hresult, session?_revoke hsession, if_pos rfl]
        exact ⟨_, rfl, .revoked hlive, fun h => absurd h (lt_irrefl _)⟩
      · rw [hresult, session?_refresh hsession, if_pos rfl]
        have hslot' : found.expiresAt ≤ now → 0 < settings.maxActiveSessionsPerUser :=
          fun hlapsed => lt_of_le_of_lt (Nat.zero_le _) (not_le.1 fun h => hslot ⟨hlapsed, h⟩)
        refine ⟨_, rfl, .refreshed hlive hcutoff hslot' hnext, fun _ => ?_⟩
        have hid : found.id = claims.sid := key_of_lookup hsession
        exact ⟨_, List.mem_singleton.2 rfl, hid, rfl⟩
    · refine ⟨session, ?_, .same, fun h => absurd h (lt_irrefl _)⟩
      rcases hrest with ⟨-, hresult⟩ | ⟨next, user, -, -, -, -, hresult⟩
      · rw [hresult, session?_revoke hfound, if_neg hsid, hsession]
      · rw [hresult, session?_refresh hfound, if_neg hsid, hsession]

theorem createSession_ok {id userId : Uuid} (h : createSession settings now id userId d = .ok d') :
    (d.user? userId).isSome ∧ d.session? id = none ∧
      d.countActiveSessions userId now < settings.maxActiveSessionsPerUser ∧
      d' = { d with sessions := d.sessions ++ [newSession settings now id userId] } := by
  unfold createSession at h
  split at h
  · simp at h
  · next huser =>
      split at h
      · simp at h
      · next hcount =>
          split at h
          · simp at h
          · next hfresh =>
              simp only [Except.ok.injEq] at h
              exact ⟨by simpa [Option.isSome_iff_ne_none] using huser, by simpa using hfresh,
                not_le.1 hcount, h.symm⟩

theorem session?_addSession (d : Db) (row : Session) (id : Uuid) :
    ({ d with sessions := d.sessions ++ [row] } : Db).session? id =
      (d.session? id).or (if row.id = id then some row else none) := lookup_append

theorem revokeSession_ok {userId id : Uuid} (h : revokeSession now userId id d = .ok d') :
    ∃ session, d.session? id = some session ∧ session.userId = userId ∧
      session.revokedAt = none ∧ d' = d.saveSession (session.revoked now) := by
  unfold revokeSession at h
  split at h
  · simp at h
  · next session hfilter =>
      obtain ⟨hfound, huser⟩ := Option.filter_eq_some_iff.1 hfilter
      split at h
      · simp at h
      · next hlive =>
          simp only [Except.ok.injEq] at h
          exact ⟨session, hfound, by simpa using huser, by simpa using hlive, h.symm⟩

/-- What a password reset does to the sessions. -/
theorem resetPassword_sessions {token hashed : String} {userId : Uuid}
    (h : resetPassword hashing now token hashed d = .ok (userId, d')) :
    ∀ id, d'.session? id = (d.revokeAll userId now).session? id := by
  unfold resetPassword at h
  split at h
  · simp at h
  · split at h
    · simp at h
    · simp only [Except.ok.injEq, Prod.mk.injEq] at h
      obtain ⟨rfl, rfl⟩ := h
      exact fun _ => rfl

theorem getCurrentUser_ok {user : User} (h : getCurrentUser now claims d = .ok user) :
    d.user? claims.sub = some user ∧ user.isActive = true := by
  unfold getCurrentUser at h
  split at h
  · simp at h
  · split at h
    · simp at h
    · split at h
      · simp at h
      · next hfilter =>
          simp only [Except.ok.injEq] at h
          subst h
          exact Option.filter_eq_some_iff.1 hfilter

theorem updateMe_ok {password : Option String} {hashed : String} {user : User}
    (h : updateMe hashing now claims password hashed d = .ok (user, d')) :
    d.user? claims.sub = some user ∧ user.isActive = true ∧
      d' = d.saveUser { user with passwordHash := some hashed } := by
  unfold updateMe at h
  split at h
  · simp at h
  · next hcurrent =>
      obtain ⟨huser, hactive⟩ := getCurrentUser_ok hcurrent
      split at h
      · simp only [Except.ok.injEq, Prod.mk.injEq] at h
        obtain ⟨rfl, rfl⟩ := h
        exact ⟨huser, hactive, rfl⟩
      · simp at h

theorem Step.clock_le (h : Step hashing settings w w') : w.clock ≤ w'.clock := by
  cases h <;> assumption

/-- A step moves every session the way `SessionMove` says, and bumps a version
only to hand out its token. -/
theorem Step.moves (h : Step hashing settings w w') (hsession : w.db.session? sid = some session) :
    ∃ session', w'.db.session? sid = some session' ∧
      SessionMove settings w'.clock session session' ∧
      (session.tokenVersion < session'.tokenVersion →
        ∃ token ∈ w'.issued, token.sid = sid ∧ token.version = session'.tokenVersion) := by
  have hkept : session.tokenVersion < session.tokenVersion →
      ∃ token ∈ w'.issued, token.sid = sid ∧ token.version = session.tokenVersion :=
    fun h => absurd h (lt_irrefl _)
  cases h with
  | signIn _ _ h =>
      obtain ⟨-, -, -, rfl⟩ := createSession_ok h
      refine ⟨session, ?_, .same, hkept⟩
      rw [session?_addSession, hsession]
      rfl
  | refresh _ _ =>
      obtain ⟨session', hsession', hmove, htoken⟩ := refreshSession_move hsession
      refine ⟨session', hsession', hmove, fun hbump => ?_⟩
      obtain ⟨token, hmem, htoken⟩ := htoken hbump
      exact ⟨token, List.mem_append_right _ hmem, htoken⟩
  | revoke _ h =>
      obtain ⟨found, hfound, -, hlive, rfl⟩ := revokeSession_ok h
      rw [session?_revoke hfound]
      split
      · next hid =>
          subst hid
          obtain rfl : found = session := by simpa [hfound] using hsession
          exact ⟨_, rfl, .revoked hlive, hkept⟩
      · exact ⟨session, hsession, .same, hkept⟩
  | resetPassword _ h =>
      rw [resetPassword_sessions h, session?_revokeAll, hsession]
      refine ⟨_, rfl, ?_⟩
      dsimp only
      split
      · next hlive => exact ⟨.revoked hlive.2, hkept⟩
      · exact ⟨.same, hkept⟩
  | updateMe _ _ h =>
      refine ⟨session, ?_, .same, hkept⟩
      rw [← hsession, (updateMe_ok h).2.2, session?_saveUser]
  | other _ h =>
      refine ⟨session, ?_, .same, hkept⟩
      rw [← hsession, Db.session?, Db.session?, h]

/-- A step issues a token only for a session it starts or refreshes, and at the
version the session is left with. -/
theorem Step.issued (h : Step hashing settings w w') (hclaims : claims ∈ w'.issued)
    (hnew : claims ∉ w.issued) :
    ∃ session', w'.db.session? claims.sid = some session' ∧ claims.sub = session'.userId ∧
      claims.version = session'.tokenVersion ∧
      ∀ session, w.db.session? claims.sid = some session →
        session.revokedAt = none ∧ session.pastCutoff settings w'.clock = false := by
  cases h with
  | @signIn now _ id userId user d huser h =>
      have hnew : claims = createAccessToken settings now user id 0 := by
        simpa [hnew] using hclaims
      obtain ⟨-, hfresh, -, rfl⟩ := createSession_ok h
      subst hnew
      have huserId : user.id = userId := key_of_lookup huser
      refine ⟨newSession settings now id userId, ?_, huserId, rfl, ?_⟩
      · rw [session?_addSession]
        simp [createAccessToken, hfresh, newSession]
      · simp [createAccessToken, hfresh]
  | @refresh now _ presented hissued =>
      have hnew : claims ∈ issuedToken (refreshSession settings now presented w.db).1 := by
        simpa [hnew] using hclaims
      rcases refreshSession_cases settings now presented w.db with
        ⟨err, hresult⟩ | ⟨session, hfound, hlive, huser, hcutoff, hrest⟩
      · rw [hresult] at hnew
        simp [issuedToken] at hnew
      · rcases hrest with ⟨-, hresult⟩ | ⟨next, user, -, hrow, -, -, hresult⟩
        · rw [hresult] at hnew
          simp [issuedToken] at hnew
        · have hid : session.id = presented.sid := key_of_lookup hfound
          have huserId : user.id = presented.sub := key_of_lookup hrow
          simp only [hresult] at hnew ⊢
          obtain rfl : claims = createAccessToken settings now user session.id next := by
            simpa [issuedToken] using hnew
          refine ⟨session.refreshed settings now next, ?_, ?_, rfl, ?_⟩
          · rw [session?_refresh hfound]
            exact if_pos hid
          · exact huserId.trans huser.symm
          · intro found hfound'
            have hsame : found = session := by
              rw [show (createAccessToken settings now user session.id next).sid = presented.sid
                from hid, hfound] at hfound'
              simpa using hfound'.symm
            rw [hsame]
            exact ⟨hlive, hcutoff⟩
  | revoke | resetPassword | updateMe | other => exact absurd hclaims hnew

end MovieApi.Accounts
