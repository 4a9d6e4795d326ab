import MovieApi.Accounts.TvEmails
import MovieApi.Accounts.Concurrent.AccountDeletion
import MovieApi.Accounts.Concurrent.Conduct

/-!
# Reset links

`request_password_reset` deletes the tokens of the user and inserts a new one;
`reset_password` uses up the token it is presented.  The deletion takes the tokens it
has found, not those that another request commits in the meantime.
-/

namespace MovieApi.Accounts.Concurrent

open ReadCommitted ReadCommitted.Prog Sql

/-! ## The programs -/

/-- Flush of a new token. -/
def addResetToken (row : PasswordResetToken) : Prog Unit := do
  if ← enter (.resetToken row.tokenHash) fun d => (d.resetToken? row.tokenHash).isSome then
    referenceUser row.userId
    write (.insertResetToken row)
  else
    reject (.raised .integrity)

/-- `request_password_reset`; `rawToken` is the token it draws.  The call notes which
tokens its deletion has found. -/
def requestPasswordReset (hashing : Hashing) (settings : Settings) (email rawToken : String) :
    Prog Unit := do
  match (← select fun d => d.users.find? fun user => user.email = email).filter User.isActive with
  | none => return ()
  | some user =>
      let found ← select (resetTokensOf user.id)
      session fun info => ((), { info with foundTokens := found })
      forEach found fun hash => write (.deleteResetToken user.id hash)
      let now ← utcNow
      addResetToken
        { userId := user.id, tokenHash := hashing.hashResetToken rawToken
          expiresAt := now + minutes settings.passwordResetTokenExpireMinutes, usedAt := none }
      commit

inductive ResetRequest where
  | request (rawToken : String)
  | reset (token hashed : String)

def ResetRequest.prog (hashing : Hashing) (settings : Settings) (email : String) :
    ResetRequest → Prog Unit
  | .request rawToken => closing (requestPasswordReset hashing settings email rawToken)
  | .reset token hashed => closing (resetPassword hashing token hashed)

/-- Any number of requests for one email, and of resets with any tokens. -/
def startResets (hashing : Hashing) (settings : Settings) (email : String) (d : Db) (world : World)
    (requests : Tid → ResetRequest) : Pool where
  store := .idle d .empty world
  progs t := (requests t).prog hashing settings email

/-- A new token is committed only while every unused token of its user is one that the
deletion before it has found. -/
def allFound : Regime where
  stmt t _ c s :=
    match c with
    | .commit => (s.writes t).all fun w =>
        match w with
        | .insertResetToken row => s.db.resetTokens.all fun other =>
            !decide (other.userId = row.userId ∧ other.usedAt = none) ||
              (s.info t).foundTokens.contains other.tokenHash
        | _ => true
    | _ => true
  outside _ _ := true

variable {userId : Uuid} {d d' : Db} {hash : String} {ws : List Write}

/-! ## Tokens after a transaction -/

/-- An unused token of the user. -/
def OpenToken (userId : Uuid) (hash : String) (d : Db) : Prop :=
  ∃ row, d.resetToken? hash = some row ∧ row.userId = userId ∧ row.usedAt = none

/-- No unused token of the user but this one. -/
def OnlyToken (userId : Uuid) (hash : String) (d : Db) : Prop :=
  ∀ other, OpenToken userId other d → other = hash

/-- A reset has used up an unused token, and no other one. -/
structure Resets (hash : String) (d d' : Db) : Prop where
  used : ∃ row row', d.resetToken? hash = some row ∧ row.usedAt = none ∧
    d'.resetToken? hash = some row' ∧ row'.userId = row.userId ∧ row'.usedAt ≠ none
  others : ∀ {h}, h ≠ hash → d'.resetToken? h = d.resetToken? h

theorem identities_apply {w : Write} (h : ∀ loaded row, w ≠ .updateUser loaded row)
    (h' : ∀ row, w ≠ .insertUser row) (d : Db) : (w.apply d).identities = d.identities := by
  cases w with
  | updateUser loaded row => exact absurd rfl (h loaded row)
  | insertUser row => exact absurd rfl (h' row)
  | setPassword user hashed | setFullName user name =>
      unfold Db.identities Write.apply Sql.modify
      apply map_update
      intro row
      rfl
  | _ => rfl

/-- The user that an email belongs to depends on ids and emails only. -/
theorem find?_identities (email : String) (d : Db) :
    (d.users.find? fun user => decide (user.email = email)).map User.id =
      (d.identities.find? fun user => decide (user.2 = email)).map Prod.fst := by
  unfold Db.identities
  induction d.users with
  | nil => rfl
  | cons user users ih =>
      by_cases h : user.email = email
      · simp [h]
      · simpa [h] using ih

/-- What the deletions leave. -/
theorem resetToken?_deletions (userId : Uuid) (hashes : List String) (d : Db) (hash : String) :
    (applyAll (hashes.map (Write.deleteResetToken userId)) d).resetToken? hash =
      if hash ∈ hashes then none else d.resetToken? hash := by
  induction hashes generalizing d with
  | nil => simp
  | cons first rest ih =>
      rw [List.map_cons, applyAll_cons, ih, apply_eq, Write.resetToken?_apply]
      by_cases hrest : hash ∈ rest
      · simp [hrest]
      · by_cases hfirst : hash = first
        · simp [hfirst, Write.onResetToken]
        · simp [hrest, hfirst, Write.onResetToken]

/-- The writes of a reset with the token. -/
inductive Write.OfReset (hash : String) : Write → Prop
  | password (userId : Uuid) (hashed : String) : OfReset hash (.setPassword userId hashed)
  | token (now : Instant) : OfReset hash (.useResetToken hash now)
  | revoke (id : Uuid) (now : Instant) : OfReset hash (.revokeSession id now)

/-- What a reset leaves of the tokens: it can only have used its own. -/
theorem resetToken?_ofReset (h : ∀ w ∈ ws, w.OfReset hash) (d : Db) :
    (applyAll ws d).identities = d.identities ∧
    (∀ other, other ≠ hash → (applyAll ws d).resetToken? other = d.resetToken? other) ∧
    ∀ row, d.resetToken? hash = some row → ∃ row', (applyAll ws d).resetToken? hash = some row' ∧
      row'.userId = row.userId ∧
      (row.usedAt ≠ none ∨ (∃ now, .useResetToken hash now ∈ ws) → row'.usedAt ≠ none) := by
  induction ws generalizing d with
  | nil => exact ⟨rfl, fun _ _ => rfl, fun row hrow => ⟨row, hrow, rfl, by simp⟩⟩
  | cons w ws ih =>
      obtain ⟨hids, hothers, hown⟩ := ih (fun w' hw' => h w' (by simp [hw'])) (w.apply d)
      rw [applyAll_cons, apply_eq]
      have hw := h w (by simp)
      have hkept (hnot : ∀ now, w ≠ .useResetToken hash now)
          (hsame : ∀ other, (w.apply d).resetToken? other = d.resetToken? other)
          (hsameIds : (w.apply d).identities = d.identities) :
          (applyAll ws (w.apply d)).identities = d.identities ∧
          (∀ other, other ≠ hash →
            (applyAll ws (w.apply d)).resetToken? other = d.resetToken? other) ∧
          ∀ row, d.resetToken? hash = some row → ∃ row',
            (applyAll ws (w.apply d)).resetToken? hash = some row' ∧ row'.userId = row.userId ∧
            (row.usedAt ≠ none ∨ (∃ now, .useResetToken hash now ∈ w :: ws) →
              row'.usedAt ≠ none) := by
        refine ⟨hids.trans hsameIds, fun other hne => (hothers other hne).trans (hsame other),
          fun row hrow => ?_⟩
        obtain ⟨row', hrow', huser, hused⟩ := hown row ((hsame hash).trans hrow)
        refine ⟨row', hrow', huser, fun hcause => hused (hcause.imp_right fun hnow => ?_)⟩
        obtain ⟨now, hmem⟩ := hnow
        rcases List.mem_cons.1 hmem with heq | hin
        · exact absurd heq.symm (hnot now)
        · exact ⟨now, hin⟩
      cases hw with
      | password user hashed =>
          exact hkept (by simp) (fun _ => rfl) (identities_apply (by simp) (by simp) d)
      | revoke id now => exact hkept (by simp) (fun _ => rfl) rfl
      | token now =>
          have hafter (other : String) : ((Write.useResetToken hash now).apply d).resetToken? other =
              if other = hash then (d.resetToken? other).map fun row => { row with usedAt := some now }
              else d.resetToken? other := Write.resetToken?_apply _ d other
          refine ⟨hids, fun other hne => ?_, fun row hrow => ?_⟩
          · rw [hothers other hne, hafter, if_neg hne]
          · obtain ⟨row', hrow', huser, hused⟩ := hown { row with usedAt := some now } (by
              rw [hafter, if_pos rfl, hrow]
              rfl)
            exact ⟨row', hrow', huser, fun _ => hused (.inl (by simp))⟩

end MovieApi.Accounts.Concurrent
