import MovieApi.Accounts.Concurrent.Conduct
import MovieApi.ReadCommitted.History
import MovieApi.TelegramBot.BotLogin

/-!
# Sign-in with the Telegram Login Widget

`start_telegram_auth` and `authenticate_telegram` of `services/auth.py`.  A signed
payload, its age and a nonce are checked one after the other; the nonce is then used
up in the transaction that opens the session.
-/

namespace MovieApi.Accounts.Concurrent

open ReadCommitted ReadCommitted.Prog Sql TelegramBot

/-! ## Payloads -/

structure TelegramAuthRequest where
  nonce : String
  id : Int
  firstName : Option String
  lastName : Option String
  username : Option String
  photoUrl : Option String
  authDate : Int
  hash : String
deriving DecidableEq, Repr

/-- What names a signed payload. -/
structure SignedPayload where
  id : Int
  authDate : Int
  hash : String
deriving DecidableEq, Repr

def TelegramAuthRequest.signed (data : TelegramAuthRequest) : SignedPayload :=
  ⟨data.id, data.authDate, data.hash⟩

structure TelegramSettings where
  botToken : String
  botUsername : String
  nonceExpireMinutes : Int
  maxAgeSeconds : Int
deriving DecidableEq, Repr

/-- `hashlib.sha256` of a text, and the hex digest of `hmac.new` under such a key. -/
structure Digests where
  Key : Type
  sha256 : String → Key
  hmacSha256 : Key → String → String

def stripped (text : String) : String := String.ofList (strip text.toList)

/-- `_telegram_configured`. -/
def TelegramSettings.configured (telegram : TelegramSettings) : Bool :=
  decide (stripped telegram.botToken ≠ "" ∧ stripped telegram.botUsername ≠ "")

/-- The rows of the payload but its hash, sorted by key. -/
def TelegramAuthRequest.checkRows (data : TelegramAuthRequest) : List (String × String) :=
  let row (key : String) (value : Option String) := (nonempty value).toList.map fun value => (key, value)
  ("auth_date", toString data.authDate) :: row "first_name" data.firstName ++
    ("id", toString data.id) :: row "last_name" data.lastName ++ row "photo_url" data.photoUrl ++
      row "username" data.username

/-- `verify_telegram_login_hash`. -/
def verifyTelegramLoginHash (digests : Digests) (data : TelegramAuthRequest) (botToken : String) :
    Bool :=
  let rows := data.checkRows.map fun row => row.1 ++ "=" ++ row.2
  decide (data.hash ≠ "" ∧
    digests.hmacSha256 (digests.sha256 botToken) ("\n".intercalate rows) = data.hash)

/-- `int(now.timestamp())`. -/
def unixTime (now : Instant) : Int := now.tdiv 1000000

/-! ## Transactions -/

def telegramNotConfigured : Err := .unauthorized "Telegram sign-in is not configured"

/-- `start_telegram_auth`; `rawNonce` is what `token_urlsafe` draws. -/
def startTelegramAuth (hashing : Hashing) (telegram : TelegramSettings) (rawNonce : String) :
    Prog Unit := do
  if telegram.configured = false then
    fail telegramNotConfigured
  else
    let nonceHash := hashing.hashResetToken rawNonce
    let now ← utcNow
    if ← enter (.telegramNonce nonceHash) fun d => (d.telegramAuthNonce? nonceHash).isSome then
      write (.insertTelegramNonce
        { nonceHash := nonceHash, status := .pending,
          expiresAt := now + minutes telegram.nonceExpireMinutes })
      commit
    else
      reject (.raised .integrity)

/-- `SELECT … FOR UPDATE` on a nonce. -/
def lockTelegramNonce (nonceHash : String) : Prog (Option TelegramAuthNonce) := do
  if ← select fun d => (d.telegramAuthNonce? nonceHash).isSome then
    lock (.telegramNonce nonceHash) .update
    select fun d => d.telegramAuthNonce? nonceHash
  else
    return none

/-- `_consume_telegram_nonce`; the used nonce is flushed by the next query. -/
def consumeTelegramNonce (hashing : Hashing) (rawNonce : String) : Prog Unit := do
  let found ← lockTelegramNonce (hashing.hashResetToken rawNonce)
  let now ← utcNow
  match found.filter fun row => decide (row.status = .pending ∧ now ≤ row.expiresAt) with
  | none => fail (.unauthorized "Telegram sign-in session expired. Try again.")
  | some row => write (.useTelegramNonce row.nonceHash)

/-- Flush of a loaded user who had no name. -/
def saveName (user : User) (name : Option String) : Prog Unit :=
  if (nonempty name).isSome ∧ (nonempty user.fullName).isNone then
    write (.setFullName user.id name)
  else
    return ()

/-- Flush of a new user, with its entries in the unique indexes. -/
def addTelegramUser (telegramId : String) (row : User) : Prog Unit := do
  if ← enter (.user row.id) fun d => (d.user? row.id).isSome then
    if ← enter (.userEmail row.email) fun d => d.users.any fun user => user.email = row.email then
      if ← enter (.userTelegramId telegramId) fun d =>
          d.users.any fun user => user.telegramId = some telegramId then
        write (.insertUser row)
      else
        reject (.raised .integrity)
    else
      reject (.raised .integrity)
  else
    reject (.raised .integrity)

/-- The session of a Telegram identity's account. -/
def openTelegramSession (settings : Settings) (user : User) (guestFound : Bool) : Prog Claims := do
  claimGuestPurchases user.id guestFound
  let row ← createSession settings user.id
  commit
  session fun info => ((), { info with signedIn := some row.id })
  let now ← utcNow
  return createAccessToken settings now user row.id 0

/-- `login_telegram_identity`. -/
def loginTelegramIdentity (settings : Settings) (telegramId : String) (name : Option String)
    (guestFound : Bool) : Prog Claims := do
  match ← select fun d => d.users.find? fun user => user.telegramId = some telegramId with
  | some user =>
      if user.isActive = false then
        fail (.unauthorized "Account is disabled")
      else
        saveName user name
        openTelegramSession settings user guestFound
  | none =>
      let id ← uuid4
      let user : User :=
        { id := id, email := telegramSyntheticEmail telegramId, passwordHash := none,
          telegramId := some telegramId, fullName := name, role := "user", isActive := true }
      addTelegramUser telegramId user
      openTelegramSession settings user guestFound

/-- `authenticate_telegram`. -/
def authenticateTelegram (hashing : Hashing) (digests : Digests) (settings : Settings)
    (telegram : TelegramSettings) (data : TelegramAuthRequest) (guestFound : Bool) :
    Prog Claims := do
  if telegram.configured = false then
    fail telegramNotConfigured
  else
    let now ← utcNow
    if telegram.maxAgeSeconds < |unixTime now - data.authDate| then
      fail (.unauthorized "Telegram sign-in expired. Try again.")
    else if verifyTelegramLoginHash digests data (stripped telegram.botToken) = false then
      fail (.unauthorized "Invalid Telegram sign-in")
    else
      consumeTelegramNonce hashing data.nonce
      loginTelegramIdentity settings (toString data.id)
        (identityName data.firstName data.lastName data.username) guestFound

inductive WidgetRequest where
  | start (rawNonce : String)
  | authenticate (data : TelegramAuthRequest) (guestFound : Bool)

/-- The service as it is configured. -/
structure WidgetService where
  hashing : Hashing
  digests : Digests
  settings : Settings
  telegram : TelegramSettings

/-- Has the bot signed the payload? -/
def WidgetService.verifies (service : WidgetService) (data : TelegramAuthRequest) : Bool :=
  verifyTelegramLoginHash service.digests data (stripped service.telegram.botToken)

def WidgetRequest.prog (service : WidgetService) : WidgetRequest → Prog Unit
  | .start rawNonce => closing (startTelegramAuth service.hashing service.telegram rawNonce)
  | .authenticate data guestFound =>
      closing (authenticateTelegram service.hashing service.digests service.settings
        service.telegram data guestFound)

/-- Any number of parties; session `t` runs request `t`. -/
def startWidget (service : WidgetService) (d : Db) (world : World)
    (requests : Tid → WidgetRequest) : Pool where
  store := .idle d .empty world
  progs t := (requests t).prog service

/-! ## What is committed -/

/-- A write to the account that signs in. -/
def Write.ofAccount : Write → Prop
  | .insertUser _ => True
  | .setFullName _ _ => True
  | _ => False

inductive WidgetChange where
  | started (nonce : TelegramAuthNonce)
  | signedIn (nonce : TelegramAuthNonce) (account : List Write) (session : Session)

namespace WidgetChange

def nonceHash : WidgetChange → String
  | started nonce => nonce.nonceHash
  | signedIn nonce _ _ => nonce.nonceHash

/-- The session that is created. -/
def session : WidgetChange → Option Session
  | started _ => none
  | signedIn _ _ session => some session

def writes : WidgetChange → List Write
  | started nonce => [.insertTelegramNonce nonce]
  | signedIn nonce account session =>
      .useTelegramNonce nonce.nonceHash :: account ++ [.insertSession session]

def Enabled (d : Db) : WidgetChange → Prop
  | started nonce => d.telegramAuthNonce? nonce.nonceHash = none ∧ nonce.status = .pending
  | signedIn nonce account _ => d.telegramAuthNonce? nonce.nonceHash = some nonce ∧
      nonce.status = .pending ∧ ∀ w ∈ account, w.ofAccount

/-- A sign-in presented a payload the bot has signed, and the nonce. -/
inductive By (service : WidgetService) : WidgetRequest → WidgetChange → Prop
  | start {rawNonce nonce} : nonce.nonceHash = service.hashing.hashResetToken rawNonce →
      By service (.start rawNonce) (started nonce)
  | authenticate {data guestFound nonce account session} : service.verifies data = true →
      nonce.nonceHash = service.hashing.hashResetToken data.nonce →
      By service (.authenticate data guestFound) (signedIn nonce account session)

end WidgetChange

/-- The changes that the requests of a pool may make. -/
def widgetChanges (service : WidgetService) (requests : Tid → WidgetRequest) :
    Changes Db Write Info WidgetChange where
  writes := WidgetChange.writes
  Enabled change d := change.Enabled d
  By t change := WidgetChange.By service (requests t) change
  Noted _ _ := True

end MovieApi.Accounts.Concurrent
