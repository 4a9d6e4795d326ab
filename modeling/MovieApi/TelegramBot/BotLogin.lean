import MovieApi.Accounts.Sessions
import MovieApi.TelegramBot.Text

/-!
# Sign-in through the Telegram bot

A login code goes from pending over started and confirmed to used.  Updates of
the bot and polls of the app each lock the code's row and are one transaction;
a transaction that ends with an error leaves the database alone.
-/

namespace MovieApi.TelegramBot

open Sql Accounts

/-! ## Rows -/

inductive LoginStatus where
  | pending | started | confirmed | used | expired
deriving DecidableEq, Repr

structure TelegramBotLogin where
  id : Uuid
  codeHash : String
  status : LoginStatus
  telegramId : Option String
  firstName : Option String
  lastName : Option String
  username : Option String
  expiresAt : Instant
deriving DecidableEq, Repr

structure State where
  logins : List TelegramBotLogin
  accounts : Db
deriving DecidableEq, Repr

def State.login? (s : State) (id : Uuid) : Option TelegramBotLogin :=
  lookup TelegramBotLogin.id id s.logins

def State.loginByHash? (s : State) (codeHash : String) : Option TelegramBotLogin :=
  lookup TelegramBotLogin.codeHash codeHash s.logins

def State.saveLogin (s : State) (row : TelegramBotLogin) : State :=
  { s with logins := modify TelegramBotLogin.id row.id (fun _ => row) s.logins }

/-! ## Updates of the Bot API -/

structure Sender where
  id : Int
  isBot : Bool
  firstName : Option String
  lastName : Option String
  username : Option String
deriving DecidableEq, Repr

structure Message where
  sender : Sender
  chatId : Int
  privateChat : Bool
  text : Option String
deriving DecidableEq, Repr

structure Callback where
  id : String
  senderId : Int
  data : Option String
  /-- chat and message the pressed button belongs to -/
  message : Option (Int × Int)
deriving DecidableEq, Repr

inductive Update where
  | message (message : Message)
  | callbackQuery (callback : Callback)
  | unrelated
deriving DecidableEq, Repr

/-- What the bot sends back. -/
inductive BotCall where
  | sendMessage (chatId : Int) (text : String) (buttons : List (String × String))
  | answerCallbackQuery (id : String)
  | editMessageText (chatId messageId : Int) (text : String)
deriving DecidableEq, Repr

/-- The hash of codes, and how a button's data names a row. -/
structure Encoding where
  hashResetToken : String → String
  parseUuid : String → Option Uuid
  formatUuid : Uuid → String

/-! ## Texts -/

def confirmPrefix : String := "tglogin:ok:"

def cancelPrefix : String := "tglogin:no:"

def hintText : String :=
  "Open the REELTIME app and tap “Continue with Telegram” to sign in."

def expiredText : String :=
  "This sign-in request has expired. Go back to the REELTIME app and try again."

def signedInText : String := "✅ Signed in. Go back to the REELTIME app."

def cancelledText : String := "Sign-in cancelled. Nothing was changed."

def promptText (name : String) : String :=
  "Sign in to REELTIME as " ++ name ++ "?\n\n" ++
    "Only tap Confirm if you just tapped “Continue with Telegram” in the " ++
    "REELTIME app on your own phone. Never confirm a link someone sent you."

/-- A name part Python counts as true. -/
def nonempty (part : Option String) : Option String :=
  part.filter fun part => decide (part ≠ "")

def joined (parts : List (Option String)) : String :=
  String.ofList (strip (" ".intercalate (parts.filterMap nonempty)).toList)

/-- `_display_name` of a login row. -/
def TelegramBotLogin.displayName (row : TelegramBotLogin) : String :=
  let name := joined [row.firstName, row.lastName]
  if name ≠ "" then name
  else match nonempty row.username with
    | some username => "@" ++ username
    | none => "your Telegram account"

/-! ## Messages -/

/-- The row after `/start` by this sender. -/
def TelegramBotLogin.startedBy (row : TelegramBotLogin) (sender : Sender) : TelegramBotLogin :=
  { row with
    status := .started
    telegramId := some (toString sender.id)
    firstName := sender.firstName
    lastName := sender.lastName
    username := sender.username }

/-- A code that was not started, or by this sender, and has not expired. -/
def TelegramBotLogin.startable (row : TelegramBotLogin) (now : Instant) (sender : Sender) : Bool :=
  decide (now ≤ row.expiresAt) &&
    (decide (row.status = .pending) ||
      (decide (row.status = .started) && decide (row.telegramId = some (toString sender.id))))

def promptButtons (encoding : Encoding) (id : Uuid) : List (String × String) :=
  [("✅ Confirm sign-in", confirmPrefix ++ encoding.formatUuid id),
    ("Cancel", cancelPrefix ++ encoding.formatUuid id)]

/-- `_handle_message`. -/
def handleMessage (encoding : Encoding) (now : Instant) (message : Message) (s : State) :
    State × List BotCall :=
  if message.privateChat = false ∨ message.sender.isBot = true then (s, [])
  else
    match parseLoginStart message.text with
    | none =>
        if message.text.any fun text => "/start".isPrefixOf text then
          (s, [.sendMessage message.chatId hintText []])
        else (s, [])
    | some code =>
        match (s.loginByHash? (encoding.hashResetToken code)).filter
            (fun row => row.startable now message.sender) with
        | none => (s, [.sendMessage message.chatId expiredText []])
        | some row =>
            let row := row.startedBy message.sender
            (s.saveLogin row,
              [.sendMessage message.chatId (promptText row.displayName)
                (promptButtons encoding row.id)])

/-! ## Callbacks -/

/-- The choice a button stands for, and the row it names. -/
def parseChoice (encoding : Encoding) (data : Option String) : Option (Bool × Uuid) :=
  data.bind fun data =>
    if confirmPrefix.isPrefixOf data then
      (encoding.parseUuid (String.ofList (data.toList.drop confirmPrefix.length))).map
        fun id => (true, id)
    else if cancelPrefix.isPrefixOf data then
      (encoding.parseUuid (String.ofList (data.toList.drop cancelPrefix.length))).map
        fun id => (false, id)
    else none

/-- A started code that has not expired, and was started by this user. -/
def TelegramBotLogin.approvable (row : TelegramBotLogin) (now : Instant) (senderId : Int) : Bool :=
  decide (row.status = .started) && decide (now ≤ row.expiresAt) &&
    decide (row.telegramId = some (toString senderId))

def answerCalls (callback : Callback) (reply : String) : List BotCall :=
  .answerCallbackQuery callback.id ::
    (callback.message.map fun place => BotCall.editMessageText place.1 place.2 reply).toList

/-- `_handle_callback`. -/
def handleCallback (encoding : Encoding) (now : Instant) (callback : Callback) (s : State) :
    State × List BotCall :=
  match parseChoice encoding callback.data with
  | none => (s, [])
  | some (approve, id) =>
      match (s.login? id).filter (fun row => row.approvable now callback.senderId) with
      | none => (s, answerCalls callback expiredText)
      | some row =>
          (s.saveLogin { row with status := if approve then .confirmed else .expired },
            answerCalls callback (if approve then signedInText else cancelledText))

/-- `handle_update`. -/
def handleUpdate (encoding : Encoding) (now : Instant) (update : Update) (s : State) :
    State × List BotCall :=
  match update with
  | .message message => handleMessage encoding now message s
  | .callbackQuery callback => handleCallback encoding now callback s
  | .unrelated => (s, [])

/-! ## Polls -/

/-- The keys a login may need for new rows, and what `claim_guest_purchases`
comes to. -/
structure LoginInput where
  userId : Uuid
  sessionId : Uuid
  claimed : Except Err Unit

def telegramSyntheticEmail (telegramId : String) : String :=
  "telegram_" ++ telegramId ++ "@users.reeltime.fun"

/-- The display name of a Telegram identity: first and last name, else the username. -/
def identityName (firstName lastName username : Option String) : Option String :=
  let blank (part : String) : Bool := strip part.toList = []
  let name := joined ([firstName, lastName].map fun part => part.filter fun part => !blank part)
  if name ≠ "" then some name
  else (nonempty username).map fun username => String.ofList (strip username.toList)

/-- The account of a Telegram identity, found or added. -/
def findOrCreateUser (input : LoginInput) (telegramId : String) (name : Option String) (d : Db) :
    Except Err (User × Db) :=
  match d.users.find? fun user => user.telegramId = some telegramId with
  | some user =>
      let user := if (nonempty name).isSome ∧ (nonempty user.fullName).isNone then
        { user with fullName := name } else user
      .ok (user, d.saveUser user)
  | none =>
      let user : User :=
        { id := input.userId, email := telegramSyntheticEmail telegramId, passwordHash := none,
          telegramId := some telegramId, fullName := name, role := "user", isActive := true }
      if d.users.any fun row => decide (row.id = user.id ∨ row.email = user.email) then
        .error .integrity
      else .ok (user, { d with users := d.users ++ [user] })

/-- `login_telegram_identity`. -/
def loginTelegramIdentity (settings : Settings) (now : Instant) (input : LoginInput)
    (telegramId : String) (name : Option String) (d : Db) : Except Err (Claims × Db) :=
  match findOrCreateUser input telegramId name d with
  | .error err => .error err
  | .ok (user, d) =>
      if user.isActive = false then .error (.unauthorized "Account is disabled")
      else
        match input.claimed with
        | .error err => .error err
        | .ok () =>
            match createSession settings now input.sessionId user.id d with
            | .error err => .error err
            | .ok d => .ok (createAccessToken settings now user input.sessionId 0, d)

inductive PollAnswer where
  | waiting (status : LoginStatus)
  | confirmed (accessToken : Claims)
deriving DecidableEq, Repr

def signInExpired : Err := .notFound "This Telegram sign-in has expired."

/-- `poll_bot_login`: a confirmed code is marked used and the login opens the
session, in one transaction. -/
def pollBotLogin (encoding : Encoding) (settings : Settings) (now : Instant) (rawCode : String)
    (input : LoginInput) (s : State) : Except Err (PollAnswer × State) :=
  match (s.loginByHash? (encoding.hashResetToken rawCode)).filter
      (fun row => decide (now ≤ row.expiresAt)) with
  | none => .error signInExpired
  | some row =>
      if row.status = .used ∨ row.status = .expired then .error signInExpired
      else
        match (nonempty row.telegramId).filter (fun _ => decide (row.status = .confirmed)) with
        | none => .ok (.waiting row.status, s)
        | some telegramId =>
            let s := s.saveLogin { row with status := .used }
            let name := identityName row.firstName row.lastName row.username
            match loginTelegramIdentity settings now input telegramId name s.accounts with
            | .error err => .error err
            | .ok (token, d) => .ok (.confirmed token, { s with accounts := d })

/-- `start_bot_login`, with the key and the code it generates. -/
def startBotLogin (encoding : Encoding) (expireMinutes : Int) (now : Instant) (id : Uuid)
    (rawCode : String) (s : State) : Except Err State :=
  let row : TelegramBotLogin :=
    { id := id, codeHash := encoding.hashResetToken rawCode, status := .pending,
      telegramId := none, firstName := none, lastName := none, username := none,
      expiresAt := now + minutes expireMinutes }
  if s.logins.any fun other => decide (other.id = row.id ∨ other.codeHash = row.codeHash) then
    .error .integrity
  else .ok { s with logins := s.logins ++ [row] }

end MovieApi.TelegramBot
