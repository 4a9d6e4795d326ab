import MovieApi.Accounts.Concurrent.Conduct

/-!
# Signing in a television

A code signs in one television at a time: `login_with_tv_access_code` revokes the
sessions of the code's user and then starts a new one.  The revocation commits on
its own, so another login can start its session in between.
-/

namespace MovieApi.Accounts.Concurrent

open ReadCommitted ReadCommitted.Prog Sql

/-! ## The program -/

def invalidTvId : Err := .unauthorized "Invalid or inactive TV ID"

def tvIdExpired : Err := .unauthorized "This TV ID has expired. Ask admin for a new one."

/-- The code that is looked up: `raw_code.strip().upper()`. -/
def lookedUp (letters : Letters) (rawCode : String) : String :=
  letters.upper (letters.strip rawCode)

/-- The update of the subscription to the expiry of the code. -/
def renewTvSubscription (userId : Uuid) (expiresAt : Instant) : Prog Unit := do
  let isTv := fun row : Subscription => decide (row.plan = tvPlan)
  if ← select fun d => ((d.subscription? userId).filter isTv).isSome then
    lock (.subscription userId) .noKeyUpdate
    if ← select fun d => ((d.subscription? userId).filter isTv).isSome then
      write (.renewTvSubscription userId expiresAt)
    else
      return ()
  else
    return ()

/-- One row of the update that revokes the sessions of a user. -/
def revokeFound (userId : Uuid) (now : Instant) (id : Uuid) : Prog Unit := do
  lock (.session id) .noKeyUpdate
  match (← select fun d => d.session? id).filter (unrevokedOf userId) with
  | some _ => write (.revokeSession id now)
  | none => return ()

/-- `_revoke_all_sessions`; the call notes which sessions its update has found. -/
def revokeAllSessions (userId : Uuid) : Prog Unit := do
  let now ← utcNow
  let found ← select fun d => (d.sessions.filter (unrevokedOf userId)).map Session.id
  session fun info => ((), { info with found := found })
  forEach found (revokeFound userId now)
  commit

/-- `login_with_tv_access_code`. -/
def loginWithTvAccessCode (letters : Letters) (settings : Settings) (rawCode : String) :
    Prog Claims := do
  let found ← select fun d =>
    d.tvAccessCodes.find? fun row => decide (row.code = lookedUp letters rawCode)
  match found.filter TvAccessCode.isActive with
  | none => fail invalidTvId
  | some row =>
      let now ← utcNow
      if row.expired now then fail tvIdExpired
      else
        match (← select fun d => d.user? row.userId).filter User.isActive with
        | none => fail invalidTvId
        | some user =>
            renewTvSubscription user.id row.expiresAt
            commit
            revokeAllSessions user.id
            let session ← createSession settings user.id
            commit
            let issuedAt ← utcNow
            return createAccessToken settings issuedAt user session.id 0

/-- Any number of sign-ins with one code. -/
def startTvLogins (letters : Letters) (settings : Settings) (rawCode : String) (d : Db)
    (world : World) : Pool where
  store := .idle d .empty world
  progs _ := closing (loginWithTvAccessCode letters settings rawCode)

/-- A session is committed only while every unrevoked session of its user is one
that the call has found when it revoked them. -/
def notOvertaken : Regime where
  stmt t _ c s :=
    match c with
    | .commit => (s.writes t).all fun w =>
        match w with
        | .insertSession row => s.db.sessions.all fun other =>
            !unrevokedOf row.userId other || (s.info t).found.contains other.id
        | _ => true
    | _ => true
  outside _ _ := true

variable {userId : Uuid} {olds : List Uuid} {d d' : Db} {id : Uuid} {ws : List Write}

/-! ## Live sessions -/

/-- The session is one of the user's and not revoked. -/
def Live (userId id : Uuid) (d : Db) : Prop :=
  ∃ row, d.session? id = some row ∧ unrevokedOf userId row = true

theorem mem_found_of_live (h : Live userId id d) :
    id ∈ (d.sessions.filter (unrevokedOf userId)).map Session.id := by
  obtain ⟨row, hrow, hlive⟩ := h
  exact List.mem_map.2 ⟨row, List.mem_filter.2 ⟨mem_of_lookup hrow, hlive⟩, key_of_lookup hrow⟩

/-- The writes of a sign-in before it starts its session. -/
inductive Write.Renews : Write → Prop
  | renew (userId : Uuid) (expiresAt : Instant) : Renews (.renewTvSubscription userId expiresAt)
  | revoke (id : Uuid) (now : Instant) : Renews (.revokeSession id now)

theorem renews_session? {w : Write} (hw : w.Renews) (d : Db) (id : Uuid) :
    ((w.apply d).session? id).isSome = (d.session? id).isSome ∧
      (Live userId id (w.apply d) ↔ Live userId id d ∧ ∀ now, w ≠ .revokeSession id now) := by
  unfold Live
  rw [Write.session?_apply]
  cases hw with
  | renew => simp [Write.onSession]
  | revoke id' now =>
      by_cases h : id = id'
      · subst h
        simp only [Write.onSession, if_pos, Option.isSome_map, Option.map_eq_some_iff, true_and]
        constructor
        · rintro ⟨-, ⟨row, -, rfl⟩, hlive⟩
          simp [unrevokedOf, Session.revoked] at hlive
        · rintro ⟨-, hne⟩
          exact absurd rfl (hne now)
      · simp [Write.onSession, h, Ne.symm h]

theorem renews_applyAll (h : ∀ w ∈ ws, w.Renews) (d : Db) (id : Uuid) :
    ((applyAll ws d).session? id).isSome = (d.session? id).isSome ∧
      (Live userId id (applyAll ws d) ↔
        Live userId id d ∧ ∀ now, .revokeSession id now ∉ ws) := by
  induction ws generalizing d with
  | nil => simp
  | cons w ws ih =>
      have hw : ((w.apply d).session? id).isSome = (d.session? id).isSome ∧
          (Live userId id (w.apply d) ↔ Live userId id d ∧ ∀ now, w ≠ .revokeSession id now) :=
        renews_session? (h w (by simp)) d id
      have hws := ih (fun w' hw' => h w' (by simp [hw'])) (w.apply d)
      rw [applyAll_cons, apply_eq]
      refine ⟨hws.1.trans hw.1, ?_⟩
      rw [hws.2, hw.2]
      simp only [List.mem_cons, not_or, and_assoc, forall_and]
      constructor
      · rintro ⟨hlive, hne, hrest⟩
        exact ⟨hlive, fun now heq => hne now heq.symm, hrest⟩
      · rintro ⟨hlive, hne, hrest⟩
        exact ⟨hlive, fun now heq => hne now heq.symm, hrest⟩

theorem tvAccessCodes_applyAll (ws : List Write) (d : Db) :
    (applyAll ws d).tvAccessCodes = d.tvAccessCodes := by
  refine applyAll_induction (P := fun d' : Db => d'.tvAccessCodes = d.tvAccessCodes) rfl
    fun w _ d' hd' => ?_
  rw [← hd', apply_eq]
  cases w <;> rfl

end MovieApi.Accounts.Concurrent
