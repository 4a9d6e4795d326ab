import MovieApi.Accounts.Deletion
import MovieApi.Accounts.Service
import MovieApi.Accounts.TvEmails
import MovieApi.TelegramBot.BotLogin

/-!
# Signing in with an outside identity

Google, Apple and Telegram vouch for an identity; `services/auth.py` finds the
account it is linked to, links it to the account with its email, or makes one.
An account keeps its identities until it is deleted.
-/

namespace MovieApi.SignIn

open Sql
open Accounts (Uuid Instant Err Claims Letters Settings createSession createAccessToken)
open Accounts.Deletion (User Db)
open TelegramBot (LoginInput nonempty identityName telegramSyntheticEmail)

/-! ## Tokens -/

/-- A flag in the payload of a token: absent, a boolean or a text. -/
inductive Flag where
  | missing
  | bool (value : Bool)
  | text (value : String)
deriving DecidableEq, Repr

structure GoogleClaims where
  sub : Option String
  email : Option String
  emailVerified : Flag
  name : Option String
  givenName : Option String
  picture : Option String
deriving DecidableEq, Repr

structure AppleClaims where
  sub : Option String
  email : Option String
  emailVerified : Flag
  nonce : Option String
deriving DecidableEq, Repr

/-- The client ids of the settings, and what the libraries make of a token: nothing
where its signature, audience or issuer is wrong. -/
structure Verifier where
  googleClientId : String
  appleClientId : String
  verifyOauth2Token : String → Option GoogleClaims
  decodeApple : String → Option AppleClaims
  sha256Hex : String → String

/-- `_verify_google_id_token`. -/
def verifyGoogleIdToken (verifier : Verifier) (token : String) : Except Err GoogleClaims :=
  if verifier.googleClientId = "" then
    .error (.unauthorized "Google sign-in is not configured")
  else
    match verifier.verifyOauth2Token token with
    | none => .error (.unauthorized "Invalid Google token")
    | some claims => .ok claims

/-- `_verify_apple_identity_token`. -/
def verifyAppleIdentityToken (verifier : Verifier) (token rawNonce : String) :
    Except Err AppleClaims :=
  if verifier.appleClientId = "" then .error (.unauthorized "Apple sign-in is not configured")
  else
    match verifier.decodeApple token with
    | none => .error (.unauthorized "Invalid Apple token")
    | some claims =>
        if claims.nonce.getD "" ≠ verifier.sha256Hex rawNonce then
          .error (.unauthorized "Invalid Apple token")
        else .ok claims

/-! ## The users table -/

/-- The services that vouch for identities, each with a column of its own. -/
inductive Provider where
  | google | apple | telegram
deriving DecidableEq, Repr

def Provider.identity : Provider → User → Option String
  | .google => User.googleId
  | .apple => User.appleId
  | .telegram => fun user => user.telegramId

/-- Two rows with one identity. -/
def shareIdentity (user other : User) : Bool :=
  [Provider.google, .apple, .telegram].any fun provider =>
    (provider.identity user).isSome && decide (provider.identity other = provider.identity user)

def addUser (letters : Letters) (user : User) (d : Db) : Except Err Db :=
  if d.users.any (fun other => decide (other.id = user.id) ||
      decide (letters.citext other.email = letters.citext user.email) ||
      shareIdentity user other) then .error .integrity
  else .ok { d with users := d.users ++ [user] }

def saveUser (user : User) (d : Db) : Except Err Db :=
  if d.users.any (fun other => decide (other.id ≠ user.id) && shareIdentity user other) then
    .error .integrity
  else .ok { d with users := modify (fun row : User => row.id) user.id (fun _ => user) d.users }

/-! ## The services -/

/-- The end of every sign-in: the purchases of the guest, the session and the token. -/
def openSession (settings : Settings) (now : Instant) (input : LoginInput) (user : User)
    (d : Db) : Except Err (User × Claims × Db) :=
  match input.claimed with
  | .error err => .error err
  | .ok () =>
      match createSession settings now input.sessionId user.id d.accounts with
      | .error err => .error err
      | .ok accounts =>
          .ok (user, createAccessToken settings now user.toUser input.sessionId 0,
            { d with personal := Function.update d.personal .session accounts.sessions })

/-- A row that was found is updated, a new one inserted. -/
def writeUser (letters : Letters) (user : User) (isNew : Bool) (d : Db) : Except Err Db :=
  if isNew then addUser letters user d else saveUser user d

/-- An active account is written and signed in. -/
def letIn (letters : Letters) (settings : Settings) (now : Instant) (input : LoginInput)
    (found : User × Bool) (d : Db) : Except Err (User × Claims × Db) :=
  if found.1.isActive = false then .error (.unauthorized "Account is disabled")
  else writeUser letters found.1 found.2 d >>= openSession settings now input found.1

/-- A picture replaces the old one, a name only fills in. -/
def withProfile (picture name : Option String) (user : User) : User :=
  { user with
    avatarUrl := if (nonempty picture).isSome then picture else user.avatarUrl
    fullName :=
      if (nonempty name).isSome ∧ (nonempty user.fullName).isNone then name else user.fullName }

/-- The row of a first sign-in. -/
def newUser (input : LoginInput) (email : String) (fullName avatarUrl : Option String) : User :=
  { id := input.userId, email := email, passwordHash := none, telegramId := none,
    fullName := fullName, role := "user", isActive := true, googleId := none, appleId := none,
    avatarUrl := avatarUrl }

/-- The user with this email, if there is one. -/
def userByEmail? (letters : Letters) (email : String) (d : Db) : Option User :=
  d.users.find? fun row => decide (letters.citext row.email = letters.citext email)

/-- The account of a Google identity, with whether it is new. -/
def googleUser (letters : Letters) (input : LoginInput) (sub email : String)
    (name picture : Option String) (d : Db) : Except Err (User × Bool) :=
  match d.users.find? fun row => decide (row.googleId = some sub) with
  | some user => .ok (user, false)
  | none =>
      match userByEmail? letters email d with
      | some user =>
          if (nonempty user.googleId).isSome ∧ user.googleId ≠ some sub then
            .error (.conflict "Email is linked to a different Google account")
          else .ok ({ user with googleId := some sub }, false)
      | none => .ok ({ newUser input email name picture with googleId := some sub }, true)

/-- `authenticate_google`. -/
def authenticateGoogle (letters : Letters) (verifier : Verifier) (settings : Settings)
    (now : Instant) (input : LoginInput) (idToken : String) (d : Db) :
    Except Err (User × Claims × Db) := do
  let claims ← verifyGoogleIdToken verifier idToken
  match nonempty claims.sub, nonempty claims.email with
  | some sub, some email =>
      if claims.emailVerified ≠ .bool true then
        .error (.unauthorized "Google email is not verified")
      else do
        let name := (nonempty claims.name).or claims.givenName
        let (user, isNew) ←
          googleUser letters input sub (letters.lower email) name claims.picture d
        letIn letters settings now input (withProfile claims.picture name user, isNew) d
  | _, _ => .error (.unauthorized "Google account is missing required profile data")

/-- `str(flag).lower() == "true"`. -/
def Flag.saysTrue (letters : Letters) : Flag → Bool
  | .missing => false
  | .bool value => value
  | .text value => decide (letters.lower value = "true")

/-- The account of an Apple identity, with whether it is new. -/
def appleUser (letters : Letters) (input : LoginInput) (sub : String) (name : Option String)
    (claims : AppleClaims) (d : Db) : Except Err (User × Bool) :=
  match d.users.find? fun row => decide (row.appleId = some sub) with
  | some user => .ok (user, false)
  | none =>
      match nonempty claims.email with
      | none => .error (.unauthorized "Apple account is missing required profile data")
      | some email =>
          if claims.emailVerified.saysTrue letters = false then
            .error (.unauthorized "Apple email is not verified")
          else
            match userByEmail? letters (letters.lower email) d with
            | some user =>
                if (nonempty user.appleId).isSome ∧ user.appleId ≠ some sub then
                  .error (.conflict "Email is linked to a different Apple account")
                else .ok ({ user with appleId := some sub }, false)
            | none =>
                .ok ({ newUser input (letters.lower email) name none with appleId := some sub },
                  true)

/-- `authenticate_apple`. -/
def authenticateApple (letters : Letters) (verifier : Verifier) (settings : Settings)
    (now : Instant) (input : LoginInput) (identityToken rawNonce : String)
    (fullName : Option String) (d : Db) : Except Err (User × Claims × Db) := do
  let claims ← verifyAppleIdentityToken verifier identityToken rawNonce
  match nonempty claims.sub with
  | none => .error (.unauthorized "Apple account is missing required profile data")
  | some sub => do
      let name := nonempty (some (letters.strip (fullName.getD "")))
      let (user, isNew) ← appleUser letters input sub name claims d
      letIn letters settings now input (withProfile none name user, isNew) d

/-- The account of a Telegram identity, with whether it is new. -/
def telegramUser (input : LoginInput) (telegramId : String) (name photoUrl : Option String)
    (d : Db) : User × Bool :=
  match d.users.find? fun row => decide (row.telegramId = some telegramId) with
  | some user => (withProfile photoUrl name user, false)
  | none =>
      ({ newUser input (telegramSyntheticEmail telegramId) name photoUrl with
          telegramId := some telegramId }, true)

/-- `login_telegram_identity`. -/
def loginTelegramIdentity (letters : Letters) (settings : Settings) (now : Instant)
    (input : LoginInput) (telegramId : String)
    (firstName lastName username photoUrl : Option String) (d : Db) :
    Except Err (User × Claims × Db) :=
  letIn letters settings now input
    (telegramUser input telegramId (identityName firstName lastName username) photoUrl d) d

/-- `register_user`; `hashed` is the bcrypt hash of the password. -/
def registerUser (letters : Letters) (input : LoginInput) (email hashed : String)
    (fullName : Option String) (d : Db) : Except Err (User × Db) :=
  match userByEmail? letters (letters.lower email) d with
  | some _ => .error (.conflict "Unable to create account with this email")
  | none => do
      let user := { newUser input (letters.lower email) fullName none with
        passwordHash := some hashed }
      let d ← addUser letters user d
      match input.claimed with
      | .error err => .error err
      | .ok () => return (user, d)

/-! ## Runs -/

/-- A sign-in that succeeded: the provider, the identity, the email the token vouches
for, and the account it was for. -/
inductive SignsIn (letters : Letters) (verifier : Verifier) (d : Db) :
    Provider → String → Option String → User → Db → Prop
  | google {settings : Settings} {now : Instant} {input : LoginInput} {idToken sub email : String}
      {claims : GoogleClaims} {user : User} {token : Claims} {d' : Db}
      (hclaims : verifyGoogleIdToken verifier idToken = .ok claims)
      (hsub : nonempty claims.sub = some sub) (hemail : nonempty claims.email = some email)
      (h : authenticateGoogle letters verifier settings now input idToken d =
        .ok (user, token, d')) :
      SignsIn letters verifier d .google sub (some (letters.lower email)) user d'
  | apple {settings : Settings} {now : Instant} {input : LoginInput}
      {identityToken rawNonce sub : String} {fullName : Option String} {claims : AppleClaims}
      {user : User} {token : Claims} {d' : Db}
      (hclaims : verifyAppleIdentityToken verifier identityToken rawNonce = .ok claims)
      (hsub : nonempty claims.sub = some sub)
      (h : authenticateApple letters verifier settings now input identityToken rawNonce fullName d =
        .ok (user, token, d')) :
      SignsIn letters verifier d .apple sub
        (((nonempty claims.email).filter fun _ => claims.emailVerified.saysTrue letters).map
          letters.lower) user d'
  | telegram {settings : Settings} {now : Instant} {input : LoginInput} {telegramId : String}
      {firstName lastName username photoUrl : Option String} {user : User} {token : Claims}
      {d' : Db}
      (h : loginTelegramIdentity letters settings now input telegramId firstName lastName username
        photoUrl d = .ok (user, token, d')) :
      SignsIn letters verifier d .telegram telegramId none user d'

/-- A call that changes the users, with the account it deletes. -/
inductive Step (letters : Letters) (verifier : Verifier) (d : Db) : Option Uuid → Db → Prop
  | signIn {provider : Provider} {sub : String} {email : Option String} {user : User} {d' : Db}
      (h : SignsIn letters verifier d provider sub email user d') : Step letters verifier d none d'
  | register {input : LoginInput} {email hashed : String} {fullName : Option String}
      {user : User} {d' : Db}
      (h : registerUser letters input email hashed fullName d = .ok (user, d')) :
      Step letters verifier d none d'
  | deleteAccount {now : Instant} {user : User} {d' : Db}
      (h : Accounts.Deletion.deleteUserAccount now user d = .ok d') :
      Step letters verifier d (some user.id) d'
  /-- an administrator deletes the row, and what goes with it -/
  | adminDelete {id : Uuid} {d' : Db}
      (husers : d'.users = Sql.remove (fun row : User => row.id) id d.users) :
      Step letters verifier d (some id) d'
  /-- passwords, names, the status of an account, and all other tables -/
  | other {d' : Db}
      (husers : d'.users.map (fun row => (row.id, row.googleId, row.appleId, row.telegramId)) =
        d.users.map fun row => (row.id, row.googleId, row.appleId, row.telegramId)) :
      Step letters verifier d none d'

abbrev Runs (letters : Letters) (verifier : Verifier) : Db → Db → Prop :=
  Relation.ReflTransGen fun d d' => ∃ deleted, Step letters verifier d deleted d'

/-- Runs that leave this account undeleted. -/
abbrev RunsKeeping (letters : Letters) (verifier : Verifier) (id : Uuid) : Db → Db → Prop :=
  Relation.ReflTransGen fun d d' =>
    ∃ deleted, deleted ≠ some id ∧ Step letters verifier d deleted d'

/-! ## What a sign-in does to the users -/

/-- What keeps accounts and identities apart. -/
structure Sound (d : Db) : Prop where
  ids : Unique (fun row : User => row.id) d.users
  sole : ∀ provider : Provider, ∀ row ∈ d.users, ∀ other ∈ d.users, ∀ sub,
    provider.identity row = some sub → provider.identity other = some sub → other.id = row.id
  named : ∀ row ∈ d.users, row.googleId ≠ some "" ∧ row.appleId ≠ some ""

/-- The identity is linked to the account. -/
def Linked (provider : Provider) (sub : String) (id : Uuid) (d : Db) : Prop :=
  ∃ row ∈ d.users, row.id = id ∧ provider.identity row = some sub

variable {letters : Letters} {verifier : Verifier} {settings : Settings} {now : Instant}
  {input : LoginInput} {d d' : Db} {user row : User} {token : Claims} {provider : Provider}
  {sub : String} {id : Uuid}

theorem shareIdentity_eq_false {other : User} : shareIdentity user other = false ↔
    ∀ (provider : Provider) (sub : String), provider.identity user = some sub →
      provider.identity other ≠ some sub := by
  unfold shareIdentity
  simp only [List.any_cons, List.any_nil, Bool.or_false, Bool.or_eq_false_iff,
    Bool.and_eq_false_iff, Option.isSome_eq_false_iff, Option.isNone_iff_eq_none,
    decide_eq_false_iff_not]
  constructor
  · rintro ⟨hgoogle, happle, htelegram⟩ provider sub huser hother
    cases provider <;> simp_all
  · intro h
    have each : ∀ provider : Provider, provider.identity user = none ∨
        ¬ provider.identity other = provider.identity user := by
      intro provider
      cases hsub : provider.identity user with
      | none => exact .inl rfl
      | some sub => exact .inr (h provider sub hsub)
    exact ⟨each .google, each .apple, each .telegram⟩

theorem addUser_ok (h : addUser letters user d = .ok d') :
    (∀ other ∈ d.users, other.id ≠ user.id ∧ shareIdentity user other = false) ∧
      d' = { d with users := d.users ++ [user] } := by
  unfold addUser at h
  split at h
  · cases h
  · next hclash =>
      simp only [List.any_eq_true, not_exists, not_and, Bool.not_eq_true, Bool.or_eq_false_iff,
        decide_eq_false_iff_not] at hclash
      exact ⟨fun other hother => ⟨(hclash other hother).1.1, (hclash other hother).2⟩,
        (Except.ok.inj h).symm⟩

theorem saveUser_ok (h : saveUser user d = .ok d') :
    (∀ other ∈ d.users, other.id ≠ user.id → shareIdentity user other = false) ∧
      d' = { d with
        users := modify (fun row : User => row.id) user.id (fun _ => user) d.users } := by
  unfold saveUser at h
  split at h
  · cases h
  · next hclash =>
      simp only [List.any_eq_true, not_exists, not_and, Bool.not_eq_true,
        Bool.and_eq_false_iff, decide_eq_false_iff_not] at hclash
      refine ⟨fun other hother hne => ?_, (Except.ok.inj h).symm⟩
      exact (hclash other hother).resolve_left fun heq => heq hne

theorem openSession_ok (h : openSession settings now input user d = .ok (row, token, d')) :
    row = user ∧ d'.users = d.users := by
  unfold openSession at h
  split at h
  · cases h
  · split at h
    · cases h
    · obtain ⟨rfl, hrest⟩ := Prod.mk.inj (Except.ok.inj h)
      obtain ⟨-, rfl⟩ := Prod.mk.inj hrest
      exact ⟨rfl, rfl⟩

/-- The row is written if it was found, added if it is new. -/
inductive Written (user : User) (d d' : Db) : Bool → Prop
  | added (hfresh : ∀ other ∈ d.users, other.id ≠ user.id ∧ shareIdentity user other = false)
      (husers : d'.users = d.users ++ [user]) : Written user d d' true
  | saved (hapart : ∀ other ∈ d.users, other.id ≠ user.id → shareIdentity user other = false)
      (husers : d'.users = modify (fun row : User => row.id) user.id (fun _ => user) d.users) :
      Written user d d' false

theorem admit_ok {isNew : Bool}
    (h : letIn letters settings now input (user, isNew) d = .ok (row, token, d')) :
    row = user ∧ Written user d d' isNew := by
  unfold letIn at h
  split at h
  · cases h
  · obtain ⟨d₁, hwrite, hopen⟩ := Accounts.bind_ok_iff.1 h
    obtain ⟨hrow, husers⟩ := openSession_ok hopen
    refine ⟨hrow, ?_⟩
    cases isNew with
    | true =>
        obtain ⟨hfresh, rfl⟩ := addUser_ok hwrite
        exact .added hfresh husers
    | false =>
        obtain ⟨hapart, rfl⟩ := saveUser_ok hwrite
        exact .saved hapart husers

/-! ## Which account a sign-in finds -/

/-- The account an identity is linked to, the one with its email, or a new one. -/
inductive Found (letters : Letters) (provider : Provider) (sub : String) (email : Option String)
    (d : Db) (user : User) : Bool → Prop
  | known {row : User} (hrow : row ∈ d.users) (hid : user.id = row.id)
      (hidentity : provider.identity row = some sub)
      (hsame : ∀ other : Provider, other.identity user = other.identity row) :
      Found letters provider sub email d user false
  | linked {row : User} (hrow : row ∈ d.users) (hid : user.id = row.id)
      (hfree : provider.identity row = none) (hidentity : provider.identity user = some sub)
      (hsame : ∀ other : Provider, other ≠ provider → other.identity user = other.identity row)
      (hemail : ∃ text, email = some text ∧ letters.citext row.email = letters.citext text) :
      Found letters provider sub email d user false
  | created (hidentity : provider.identity user = some sub)
      (hnone : ∀ other : Provider, other ≠ provider → other.identity user = none) :
      Found letters provider sub email d user true

theorem Found.identity {email : Option String} {isNew : Bool}
    (h : Found letters provider sub email d user isNew) : provider.identity user = some sub := by
  cases h with
  | known _ _ hidentity hsame => exact (hsame provider).trans hidentity
  | linked _ _ _ hidentity _ _ => exact hidentity
  | created hidentity _ => exact hidentity

theorem identity_withProfile (picture name : Option String) (user : User) :
    provider.identity (withProfile picture name user) = provider.identity user := by
  cases provider <;> rfl

theorem Found.withProfile {email : Option String} {isNew : Bool}
    (h : Found letters provider sub email d user isNew) (picture name : Option String) :
    Found letters provider sub email d (withProfile picture name user) isNew := by
  cases h with
  | known hrow hid hidentity hsame =>
      exact .known hrow hid hidentity fun other => (identity_withProfile ..).trans (hsame other)
  | linked hrow hid hfree hidentity hsame hemail =>
      exact .linked hrow hid hfree ((identity_withProfile ..).trans hidentity)
        (fun other hne => (identity_withProfile ..).trans (hsame other hne)) hemail
  | created hidentity hnone =>
      exact .created ((identity_withProfile ..).trans hidentity)
        fun other hne => (identity_withProfile ..).trans (hnone other hne)

theorem mem_of_userByEmail? {email : String} (h : userByEmail? letters email d = some row) :
    row ∈ d.users ∧ letters.citext row.email = letters.citext email :=
  ⟨List.mem_of_find?_eq_some h, by simpa using List.find?_some h⟩

theorem nonempty_eq_some {text : Option String} {value : String}
    (h : nonempty text = some value) : text = some value ∧ value ≠ "" := by
  obtain ⟨htext, hne⟩ := Option.filter_eq_some_iff.1 h
  exact ⟨htext, by simpa using hne⟩

/-- A column that the service takes for empty is empty. -/
theorem identity_free {column : Option String} (hnamed : column ≠ some "")
    (hother : column ≠ some sub)
    (hlink : ¬ ((nonempty column).isSome ∧ column ≠ some sub)) : column = none := by
  cases column with
  | none => rfl
  | some text =>
      have hne : text ≠ "" := fun heq => hnamed (congrArg some heq)
      exact absurd ⟨by simp [nonempty, Option.filter_some, hne], hother⟩ hlink

theorem googleUser_found (hs : Sound d) {email : String} {name picture : Option String}
    {isNew : Bool}
    (h : googleUser letters input sub email name picture d = .ok (user, isNew)) :
    Found letters .google sub (some email) d user isNew := by
  unfold googleUser at h
  split at h
  · next row hrow =>
      obtain ⟨rfl, rfl⟩ := Prod.mk.inj (Except.ok.inj h)
      exact .known (List.mem_of_find?_eq_some hrow) rfl
        (by simpa [Provider.identity] using List.find?_some hrow) fun _ => rfl
  · next hnone =>
      have hother : ∀ other ∈ d.users, other.googleId ≠ some sub := by simpa using hnone
      split at h
      · next row hrow =>
          obtain ⟨hmem, hemail⟩ := mem_of_userByEmail? hrow
          split at h
          · cases h
          · next hlink =>
              obtain ⟨rfl, rfl⟩ := Prod.mk.inj (Except.ok.inj h)
              refine .linked hmem rfl
                (identity_free (hs.named row hmem).1 (hother row hmem) hlink) rfl
                (fun other hne => ?_) ⟨email, rfl, hemail⟩
              cases other with
              | google => exact absurd rfl hne
              | apple => rfl
              | telegram => rfl
      · obtain ⟨rfl, rfl⟩ := Prod.mk.inj (Except.ok.inj h)
        refine .created rfl fun other hne => ?_
        cases other with
        | google => exact absurd rfl hne
        | apple => rfl
        | telegram => rfl

theorem appleUser_found (hs : Sound d) {name : Option String} {claims : AppleClaims}
    {isNew : Bool} (h : appleUser letters input sub name claims d = .ok (user, isNew)) :
    Found letters .apple sub
      (((nonempty claims.email).filter fun _ => claims.emailVerified.saysTrue letters).map
        letters.lower) d user isNew := by
  unfold appleUser at h
  split at h
  · next row hrow =>
      obtain ⟨rfl, rfl⟩ := Prod.mk.inj (Except.ok.inj h)
      exact .known (List.mem_of_find?_eq_some hrow) rfl
        (by simpa [Provider.identity] using List.find?_some hrow) fun _ => rfl
  · next hnone =>
      have hother : ∀ other ∈ d.users, other.appleId ≠ some sub := by simpa using hnone
      split at h
      · cases h
      · next email hclaim =>
          split at h
          · cases h
          · next hverified =>
              rw [Bool.not_eq_false] at hverified
              split at h
              · next row hrow =>
                  obtain ⟨hmem, hemail⟩ := mem_of_userByEmail? hrow
                  split at h
                  · cases h
                  · next hlink =>
                      obtain ⟨rfl, rfl⟩ := Prod.mk.inj (Except.ok.inj h)
                      refine .linked hmem rfl
                        (identity_free (hs.named row hmem).2 (hother row hmem) hlink) rfl
                        (fun other hne => ?_)
                        ⟨letters.lower email, by simp [hclaim, hverified], hemail⟩
                      cases other with
                      | apple => exact absurd rfl hne
                      | google => rfl
                      | telegram => rfl
              · obtain ⟨rfl, rfl⟩ := Prod.mk.inj (Except.ok.inj h)
                refine .created rfl fun other hne => ?_
                cases other with
                | apple => exact absurd rfl hne
                | google => rfl
                | telegram => rfl

theorem telegramUser_found {name photoUrl : Option String} :
    Found letters .telegram sub none d (telegramUser input sub name photoUrl d).1
      (telegramUser input sub name photoUrl d).2 := by
  unfold telegramUser
  split
  · next row hrow =>
      exact (Found.known (List.mem_of_find?_eq_some hrow) rfl
        (by simpa [Provider.identity] using List.find?_some hrow) fun _ => rfl).withProfile
          photoUrl name
  · refine .created rfl fun other hne => ?_
    cases other with
    | telegram => exact absurd rfl hne
    | google => rfl
    | apple => rfl

/-- What every sign-in does to the users. -/
theorem SignsIn.written (hs : Sound d) {email : Option String}
    (h : SignsIn letters verifier d provider sub email user d') :
    (∃ isNew, Found letters provider sub email d user isNew ∧ Written user d d' isNew) ∧
      (provider ≠ .telegram → sub ≠ "") := by
  cases h with
  | @google settings now input idToken _ email claims _ token _ hclaims hsub hemail h =>
      refine ⟨?_, fun _ => (nonempty_eq_some hsub).2⟩
      unfold authenticateGoogle at h
      obtain ⟨claims', hclaims', h⟩ := Accounts.bind_ok_iff.1 h
      obtain rfl : claims' = claims := Except.ok.inj (hclaims'.symm.trans hclaims)
      simp only [hsub, hemail] at h
      split at h
      · cases h
      · obtain ⟨⟨found, isNew⟩, hfound, hadmit⟩ := Accounts.bind_ok_iff.1 h
        obtain ⟨rfl, hwritten⟩ := admit_ok hadmit
        exact ⟨isNew, (googleUser_found hs hfound).withProfile _ _, hwritten⟩
  | @apple settings now input identityToken rawNonce _ fullName claims _ token _ hclaims hsub h =>
      refine ⟨?_, fun _ => (nonempty_eq_some hsub).2⟩
      unfold authenticateApple at h
      obtain ⟨claims', hclaims', h⟩ := Accounts.bind_ok_iff.1 h
      obtain rfl : claims' = claims := Except.ok.inj (hclaims'.symm.trans hclaims)
      simp only [hsub] at h
      obtain ⟨⟨found, isNew⟩, hfound, hadmit⟩ := Accounts.bind_ok_iff.1 h
      obtain ⟨rfl, hwritten⟩ := admit_ok hadmit
      exact ⟨isNew, (appleUser_found hs hfound).withProfile _ _, hwritten⟩
  | @telegram settings now input _ firstName lastName username photoUrl _ token _ h =>
      refine ⟨?_, fun hne => absurd rfl hne⟩
      obtain ⟨rfl, hwritten⟩ := admit_ok h
      exact ⟨_, telegramUser_found, hwritten⟩

theorem registerUser_ok {email hashed : String} {fullName : Option String}
    (h : registerUser letters input email hashed fullName d = .ok (user, d')) :
    Written user d d' true ∧ ∀ provider : Provider, provider.identity user = none := by
  unfold registerUser at h
  split at h
  · cases h
  · obtain ⟨d₁, hadd, h⟩ := Accounts.bind_ok_iff.1 h
    split at h
    · cases h
    · obtain ⟨rfl, rfl⟩ := Prod.mk.inj (Except.ok.inj h)
      obtain ⟨hfresh, rfl⟩ := addUser_ok hadd
      refine ⟨.added hfresh rfl, fun provider => ?_⟩
      cases provider <;> rfl

theorem deleteUserAccount_users
    (h : Accounts.Deletion.deleteUserAccount now user d = .ok d') :
    d'.users = modify (fun row : User => row.id) user.id Accounts.Deletion.User.emptied
      d.users := by
  obtain ⟨-, -, rfl⟩ := Accounts.Deletion.deleteUserAccount_eq h
  rfl

/-! ## What the calls keep -/

namespace Sound

theorem eq_of_id (h : Sound d) {other : User} (hrow : row ∈ d.users) (hother : other ∈ d.users)
    (hid : other.id = row.id) : other = row :=
  List.inj_on_of_nodup_map h.ids hother hrow hid

theorem empty (h : d.users = []) : Sound d := by
  constructor
  · rw [Sql.Unique, h]
    exact List.nodup_nil
  · rw [h]
    simp
  · rw [h]
    simp

/-- Rows with the same ids and identities are as sound. -/
theorem of_columns (h : Sound d)
    (husers : d'.users.map (fun row => (row.id, row.googleId, row.appleId, row.telegramId)) =
      d.users.map fun row => (row.id, row.googleId, row.appleId, row.telegramId)) :
    Sound d' := by
  have hback : ∀ row ∈ d'.users, ∃ old ∈ d.users, old.id = row.id ∧
      ∀ provider : Provider, provider.identity old = provider.identity row := by
    intro row hrow
    have hmem := List.mem_map_of_mem
      (f := fun row : User => (row.id, row.googleId, row.appleId, row.telegramId)) hrow
    rw [husers] at hmem
    obtain ⟨old, hold, heq⟩ := List.mem_map.1 hmem
    simp only [Prod.mk.injEq] at heq
    obtain ⟨hid, hgoogle, happle, htelegram⟩ := heq
    refine ⟨old, hold, hid, fun provider => ?_⟩
    cases provider with
    | google => exact hgoogle
    | apple => exact happle
    | telegram => exact htelegram
  constructor
  · have hids : d'.users.map (fun row => row.id) = d.users.map fun row => row.id := by
      have hfirst := congrArg (List.map Prod.fst) husers
      simpa [List.map_map, Function.comp_def] using hfirst
    rw [Sql.Unique, hids]
    exact h.ids
  · intro provider row hrow other hother sub hsub hsub'
    obtain ⟨old, hold, hid, hsame⟩ := hback row hrow
    obtain ⟨old', hold', hid', hsame'⟩ := hback other hother
    rw [← hid, ← hid']
    exact h.sole provider old hold old' hold' sub ((hsame provider).trans hsub)
      ((hsame' provider).trans hsub')
  · intro row hrow
    obtain ⟨old, hold, -, hsame⟩ := hback row hrow
    have hgoogle : old.googleId = row.googleId := hsame .google
    have happle : old.appleId = row.appleId := hsame .apple
    rw [← hgoogle, ← happle]
    exact h.named old hold

/-- A row is added or written whose identities nobody else has. -/
theorem write (h : Sound d) {isNew : Bool} (hwritten : Written user d d' isNew)
    (hnamed : user.googleId ≠ some "" ∧ user.appleId ≠ some "") : Sound d' := by
  have hmem : ∀ row ∈ d'.users, row = user ∨ row ∈ d.users ∧ row.id ≠ user.id := by
    intro row hrow
    cases hwritten with
    | added hfresh husers =>
        rw [husers, List.mem_append, List.mem_singleton] at hrow
        exact hrow.symm.imp_right fun hold => ⟨hold, (hfresh row hold).1⟩
    | saved hapart husers =>
        rw [husers, mem_modify] at hrow
        obtain ⟨old, hold, rfl⟩ := hrow
        by_cases hid : old.id = user.id
        · exact .inl (if_pos hid)
        · rw [if_neg hid]
          exact .inr ⟨hold, hid⟩
  have hapart : ∀ other ∈ d.users, other.id ≠ user.id → shareIdentity user other = false := by
    cases hwritten with
    | added hfresh husers => exact fun other hother _ => (hfresh other hother).2
    | saved hapart husers => exact hapart
  constructor
  · cases hwritten with
    | added hfresh husers =>
        rw [husers]
        exact h.ids.append (lookup_eq_none.2 fun other hother => (hfresh other hother).1)
    | saved hapart husers =>
        rw [husers]
        exact h.ids.modify fun _ _ => rfl
  · intro provider row hrow other hother sub hsub hsub'
    rcases hmem row hrow with rfl | ⟨hold, hid⟩
    · rcases hmem other hother with rfl | ⟨hold', hid'⟩
      · rfl
      · exact absurd hsub' (shareIdentity_eq_false.1 (hapart other hold' hid') provider sub hsub)
    · rcases hmem other hother with rfl | ⟨hold', -⟩
      · exact absurd hsub (shareIdentity_eq_false.1 (hapart row hold hid) provider sub hsub')
      · exact h.sole provider row hold other hold' sub hsub hsub'
  · intro row hrow
    rcases hmem row hrow with rfl | ⟨hold, -⟩
    · exact hnamed
    · exact h.named row hold

theorem signIn (h : Sound d) {email : Option String}
    (hsign : SignsIn letters verifier d provider sub email user d') : Sound d' := by
  obtain ⟨⟨isNew, hfound, hwritten⟩, hne⟩ := hsign.written h
  refine h.write hwritten ?_
  have hlinked : ∀ column : Provider, column.identity user = some "" → column ≠ .telegram →
      ∃ row ∈ d.users, column.identity row = some "" := by
    intro column hempty htelegram
    by_cases hcolumn : column = provider
    · subst hcolumn
      exact absurd (Option.some.inj (hfound.identity.symm.trans hempty)) (hne htelegram)
    · cases hfound with
      | known hrow _ _ hsame => exact ⟨_, hrow, (hsame column).symm.trans hempty⟩
      | linked hrow _ _ _ hsame _ => exact ⟨_, hrow, (hsame column hcolumn).symm.trans hempty⟩
      | created _ hnone =>
          rw [hnone column hcolumn] at hempty
          cases hempty
  constructor
  · intro hempty
    obtain ⟨row, hrow, hname⟩ := hlinked .google hempty (by decide)
    exact (h.named row hrow).1 hname
  · intro hempty
    obtain ⟨row, hrow, hname⟩ := hlinked .apple hempty (by decide)
    exact (h.named row hrow).2 hname

theorem remove (h : Sound d)
    (husers : d'.users = Sql.remove (fun row : User => row.id) id d.users) : Sound d' := by
  constructor
  · rw [husers]
    exact h.ids.remove
  · intro provider row hrow other hother
    rw [husers, mem_remove] at hrow hother
    exact h.sole provider row hrow.1 other hother.1
  · intro row hrow
    rw [husers, mem_remove] at hrow
    exact h.named row hrow.1

theorem register (h : Sound d) {email hashed : String} {fullName : Option String}
    (hok : registerUser letters input email hashed fullName d = .ok (user, d')) : Sound d' := by
  obtain ⟨hwritten, hnone⟩ := registerUser_ok hok
  have hgoogle : user.googleId = none := hnone .google
  have happle : user.appleId = none := hnone .apple
  exact h.write hwritten ⟨by simp [hgoogle], by simp [happle]⟩

/-- A deleted account has no identities left. -/
theorem deleteAccount (h : Sound d)
    (hok : Accounts.Deletion.deleteUserAccount now user d = .ok d') : Sound d' := by
  have husers := deleteUserAccount_users hok
  have hempty : ∀ (provider : Provider) (row : User), provider.identity row.emptied = none := by
    intro provider row
    cases provider <;> rfl
  constructor
  · rw [husers]
    exact h.ids.modify fun _ hid => hid
  · intro provider row hrow other hother sub hsub hsub'
    rw [husers, mem_modify] at hrow hother
    obtain ⟨old, hold, rfl⟩ := hrow
    obtain ⟨old', hold', rfl⟩ := hother
    split at hsub
    · rw [hempty] at hsub
      cases hsub
    · split at hsub'
      · rw [hempty] at hsub'
        cases hsub'
      · next hne hne' =>
          rw [if_neg hne, if_neg hne']
          exact h.sole provider old hold old' hold' sub hsub hsub'
  · intro row hrow
    rw [husers, mem_modify] at hrow
    obtain ⟨old, hold, rfl⟩ := hrow
    split
    · exact ⟨Option.some_ne_none "" ∘ Eq.symm, Option.some_ne_none "" ∘ Eq.symm⟩
    · exact h.named old hold

theorem step (h : Sound d) {deleted : Option Uuid}
    (hstep : Step letters verifier d deleted d') : Sound d' := by
  cases hstep with
  | signIn hsign => exact h.signIn hsign
  | register hok => exact h.register hok
  | deleteAccount hok => exact h.deleteAccount hok
  | adminDelete husers => exact h.remove husers
  | other husers => exact h.of_columns husers

theorem runs (h : Sound d) (hrun : Runs letters verifier d d') : Sound d' := by
  induction hrun with
  | refl => exact h
  | tail _ hstep ih =>
      obtain ⟨deleted, hstep⟩ := hstep
      exact ih.step hstep

end Sound

namespace Linked

/-- A written row takes no identity away. -/
theorem write (h : Linked provider sub id d) {isNew : Bool}
    (hwritten : Written user d d' isNew)
    (hkept : ∀ row ∈ d.users, row.id = user.id → provider.identity row = some sub →
      provider.identity user = some sub) : Linked provider sub id d' := by
  obtain ⟨row, hrow, hid, hsub⟩ := h
  cases hwritten with
  | added hfresh husers => exact ⟨row, husers ▸ List.mem_append_left _ hrow, hid, hsub⟩
  | saved hapart husers =>
      by_cases huser : row.id = user.id
      · refine ⟨user, ?_, huser.symm.trans hid, hkept row hrow huser hsub⟩
        rw [husers, mem_modify]
        exact ⟨row, hrow, by rw [if_pos huser]⟩
      · refine ⟨row, ?_, hid, hsub⟩
        rw [husers, mem_modify]
        exact ⟨row, hrow, by rw [if_neg huser]⟩

theorem signIn (h : Linked provider sub id d) (hs : Sound d) {other : Provider} {sub' : String}
    {email : Option String} (hsign : SignsIn letters verifier d other sub' email user d') :
    Linked provider sub id d' := by
  obtain ⟨⟨isNew, hfound, hwritten⟩, -⟩ := hsign.written hs
  refine h.write hwritten fun row hrow hid hsub => ?_
  cases hfound with
  | @known old hold hold_id hidentity hsame =>
      obtain rfl : row = old := hs.eq_of_id hold hrow (hid.trans hold_id)
      exact (hsame provider).trans hsub
  | @linked old hold hold_id hfree hidentity hsame hemail =>
      obtain rfl : row = old := hs.eq_of_id hold hrow (hid.trans hold_id)
      by_cases hprovider : provider = other
      · subst hprovider
        rw [hfree] at hsub
        cases hsub
      · exact (hsame provider hprovider).trans hsub
  | created hidentity hnone =>
      cases hwritten with
      | added hfresh _ => exact absurd hid (hfresh row hrow).1

/-- Only its deletion takes an identity from an account. -/
theorem step (h : Linked provider sub id d) (hs : Sound d) {deleted : Option Uuid}
    (hne : deleted ≠ some id) (hstep : Step letters verifier d deleted d') :
    Linked provider sub id d' := by
  cases hstep with
  | signIn hsign => exact h.signIn hs hsign
  | register hok =>
      obtain ⟨hwritten, -⟩ := registerUser_ok hok
      refine h.write hwritten fun row hrow hid _ => ?_
      cases hwritten with
      | added hfresh _ => exact absurd hid (hfresh row hrow).1
  | @deleteAccount now user d' hok =>
      obtain ⟨row, hrow, hid, hsub⟩ := h
      have hother : row.id ≠ user.id := fun heq => hne (congrArg some (heq.symm.trans hid))
      refine ⟨row, ?_, hid, hsub⟩
      rw [deleteUserAccount_users hok, mem_modify]
      exact ⟨row, hrow, by rw [if_neg hother]⟩
  | adminDelete husers =>
      obtain ⟨row, hrow, hid, hsub⟩ := h
      refine ⟨row, ?_, hid, hsub⟩
      rw [husers, mem_remove]
      exact ⟨hrow, fun heq => hne (congrArg some (heq.symm.trans hid))⟩
  | other husers =>
      obtain ⟨row, hrow, hid, hsub⟩ := h
      have hmem := List.mem_map_of_mem
        (f := fun row : User => (row.id, row.googleId, row.appleId, row.telegramId)) hrow
      rw [← husers] at hmem
      obtain ⟨new, hnew, heq⟩ := List.mem_map.1 hmem
      simp only [Prod.mk.injEq] at heq
      obtain ⟨hsame, hgoogle, happle, htelegram⟩ := heq
      refine ⟨new, hnew, hsame.trans hid, ?_⟩
      cases provider with
      | google => exact hgoogle.trans hsub
      | apple => exact happle.trans hsub
      | telegram => exact htelegram.trans hsub

theorem runs (h : Linked provider sub id d) (hs : Sound d)
    (hrun : RunsKeeping letters verifier id d d') : Linked provider sub id d' ∧ Sound d' := by
  induction hrun with
  | refl => exact ⟨h, hs⟩
  | tail _ hstep ih =>
      obtain ⟨deleted, hne, hstep⟩ := hstep
      exact ⟨ih.1.step ih.2 hne hstep, ih.2.step hstep⟩

end Linked

theorem SignsIn.linked (hs : Sound d) {email : Option String}
    (hsign : SignsIn letters verifier d provider sub email user d') :
    Linked provider sub user.id d' := by
  obtain ⟨⟨isNew, hfound, hwritten⟩, -⟩ := hsign.written hs
  refine ⟨user, ?_, rfl, hfound.identity⟩
  cases hwritten with
  | added _ husers => exact husers ▸ List.mem_append_right _ (List.mem_singleton.2 rfl)
  | saved _ husers =>
      rw [husers, mem_modify]
      cases hfound with
      | @known row hrow hid _ _ => exact ⟨row, hrow, by rw [if_pos hid.symm]⟩
      | @linked row hrow hid _ _ _ _ => exact ⟨row, hrow, by rw [if_pos hid.symm]⟩

/-- Once a provider's identity has signed in to an account, its later sign-ins are for
that account and no other identity of the provider signs in to it, until the account
is deleted.  An account that had no identity of the provider is entered only with its
own email, which the token vouches for. -/
theorem sign_ins_meet_iff {d₀ d₁ d₂ d₃ : Db} {user' : User} {sub' : String}
    {email email' : Option String} (hempty : d₀.users = []) (hrun : Runs letters verifier d₀ d)
    (hfirst : SignsIn letters verifier d provider sub email user d₁)
    (hrun' : RunsKeeping letters verifier user.id d₁ d₂)
    (hsecond : SignsIn letters verifier d₂ provider sub' email' user' d₃) :
    (user'.id = user.id ↔ sub' = sub) ∧
      ∀ row ∈ d₂.users, row.id = user'.id → provider.identity row = some sub' ∨
        provider.identity row = none ∧
          ∃ text, email' = some text ∧ letters.citext row.email = letters.citext text := by
  have hs : Sound d := (Sound.empty hempty).runs hrun
  obtain ⟨⟨row, hrow, hid, hsub⟩, hs₂⟩ := (hfirst.linked hs).runs (hs.signIn hfirst) hrun'
  obtain ⟨⟨isNew, hfound, hwritten⟩, -⟩ := hsecond.written hs₂
  have hapart : row.id ≠ user'.id → sub' ≠ sub := by
    intro hne heq
    have hshare : shareIdentity user' row = false := by
      cases hwritten with
      | added hfresh _ => exact (hfresh row hrow).2
      | saved hapart _ => exact hapart row hrow hne
    exact shareIdentity_eq_false.1 hshare provider sub' hfound.identity (heq ▸ hsub)
  have hmet : ∀ other ∈ d₂.users, other.id = user'.id →
      provider.identity other = some sub' ∨ provider.identity other = none ∧
        ∃ text, email' = some text ∧ letters.citext other.email = letters.citext text := by
    intro other hother hother_id
    cases hfound with
    | @known old hold hold_id hidentity hsame =>
        obtain rfl : other = old := hs₂.eq_of_id hold hother (hother_id.trans hold_id)
        exact .inl hidentity
    | @linked old hold hold_id hfree hidentity hsame hemail =>
        obtain rfl : other = old := hs₂.eq_of_id hold hother (hother_id.trans hold_id)
        exact .inr ⟨hfree, hemail⟩
    | created hidentity hnone =>
        cases hwritten with
        | added hfresh _ => exact absurd hother_id (hfresh other hother).1
  refine ⟨⟨fun heq => ?_, fun heq => ?_⟩, hmet⟩
  · rcases hmet row hrow (hid.trans heq.symm) with hsame | ⟨hnone, -⟩
    · exact Option.some.inj (hsame.symm.trans hsub)
    · rw [hnone] at hsub
      cases hsub
  · by_contra hne
    exact hapart (fun heq' => hne (heq'.symm.trans hid)) heq

/-! ## One person with two emails -/

def sokhaClaims (email : String) : GoogleClaims :=
  { sub := some "1104", email := some email, emailVerified := .bool true, name := some "Sokha",
    givenName := none, picture := none }

/-- A verifier that knows two tokens of one Google identity. -/
def twoTokens : Verifier where
  googleClientId := "reeltime"
  appleClientId := ""
  verifyOauth2Token token :=
    if token = "work" then some (sokhaClaims "sokha@work.kh")
    else if token = "home" then some (sokhaClaims "sokha@home.kh")
    else none
  decodeApple _ := none
  sha256Hex text := text

def noUsers : Db :=
  { users := [], comments := [], personal := fun table => by cases table <;> exact [],
    userBlocks := [], telegramBotLogins := [], purchases := [], seriesPurchases := [],
    paymentIntents := [], subscriptions := [] }

def firstInput (sessionId : Uuid) : LoginInput :=
  { userId := 1, sessionId := sessionId, claimed := .ok () }

def sokha : User :=
  { newUser (firstInput 7) "sokha@work.kh" (some "Sokha") none with googleId := some "1104" }

def sokhaSignedIn : Db :=
  { noUsers with
    users := [sokha]
    personal := Function.update noUsers.personal .session
      [Accounts.newSession Settings.default 0 7 1] }

theorem sokha_signs_in : SignsIn Accounts.asciiSite.toLetters twoTokens noUsers .google "1104"
    (some "sokha@work.kh") sokha sokhaSignedIn := by
  have hemail : Accounts.asciiSite.lower "sokha@work.kh" = "sokha@work.kh" := by decide +kernel
  rw [← hemail]
  exact @SignsIn.google _ _ _ Settings.default 0 (firstInput 7) "work" _ _
    (sokhaClaims "sokha@work.kh") _ _ _ rfl rfl rfl rfl

/-- With the email of another account the identity still finds its own. -/
theorem sokha_comes_back : ∃ user d, SignsIn Accounts.asciiSite.toLetters twoTokens sokhaSignedIn
    .google "1104" (some "sokha@home.kh") user d ∧ user.id = sokha.id := by
  have hemail : Accounts.asciiSite.lower "sokha@home.kh" = "sokha@home.kh" := by decide +kernel
  have hsign : ∃ user d, SignsIn Accounts.asciiSite.toLetters twoTokens sokhaSignedIn .google "1104"
      (some "sokha@home.kh") user d := by
    rw [← hemail]
    exact ⟨_, _, @SignsIn.google _ _ _ Settings.default 1 (firstInput 8) "home" _ _
      (sokhaClaims "sokha@home.kh") _ _ _ rfl rfl rfl rfl⟩
  obtain ⟨user, d, hsign⟩ := hsign
  exact ⟨user, d, hsign, (sign_ins_meet_iff rfl .refl sokha_signs_in .refl hsign).1.2 rfl⟩

end MovieApi.SignIn
