import MovieApi.Billing.Writes

/-!
# Sessions of the billing code

What a request or a background task can do: run statements on its database
session, read the clock and draw ids, ask NBC, and keep notes on the session.
-/

namespace MovieApi.Billing

open ReadCommitted Sql

/-! ## The world outside the database -/

/-- The answers of `probe_khqr_status`. -/
inductive ProbeStatus where
  | paid | unpaid | unknown
deriving DecidableEq, Repr

structure World where
  now : Instant
  /-- the next `uuid4()` -/
  uuid : Uuid
  /-- the next `uuid4().hex` -/
  hex : String
  /-- what `generate_khqr` answers: QR text, md5, merchant name; `none` when it raises -/
  khqr : Option (String × String × String)
  /-- what `probe_khqr_status` answers, with the intent it counts the check for;
  `none` when it raises -/
  nbc : Option String → String → Option ProbeStatus
  /-- the md5s whose KHQR has been paid -/
  paid : List String
  checksBlocked : Bool
  sweeperPaused : Bool
  recentlyPolled : List String
  sentAlerts : List String

/-- Notes on a session: alerts to send after the commit, the intents whose
failed fulfilment was swallowed and logged, and the intent a call answered with. -/
structure Info where
  pendingTelegramAlerts : List String
  failedIntents : List String
  answer : Option PaymentIntent
deriving DecidableEq, Repr

def Info.empty : Info := ⟨[], [], none⟩

inductive Err where
  | aborted
  | integrity
  | http (status : Nat) (detail : String)
  | probe
  | noRow
deriving DecidableEq, Repr

instance : ServerError Err := ⟨.aborted⟩

def notFound (detail : String) : Err := .http 404 detail

def conflict (detail : String) : Err := .http 409 detail

def unprocessable (detail : String) : Err := .http 422 detail

abbrev Store := ReadCommitted.Store Db Key Write World Info

abbrev Stmt := ReadCommitted.Stmt Db Key Write World Info Err

abbrev Prog := ReadCommitted.Prog Db Key Write World Info Err

abbrev Pool := ReadCommitted.Pool Db Key Write World Info Err

abbrev Regime := ReadCommitted.Regime Db Key Write World Info Err

abbrev Contract := ReadCommitted.Contract Db Key Write World Info Err

/-! ## Settings -/

structure Settings where
  bakongMerchantName : String
  bakongQrTtlMinutes : Int
  bakongSweeperWindowMinutes : Int
  bakongSweeperBatchSize : Nat
  bakongNbcSettleEnabled : Bool
deriving DecidableEq, Repr

def Settings.default : Settings := ⟨"", 10, 30, 2, true⟩

/-! ## Statements of the billing code -/

open ReadCommitted.Prog

def utcNow : Prog Instant := sense World.now

def uuid4 : Prog Uuid := sense World.uuid

def uuidHex : Prog String := sense World.hex

/-- `bakong.generate_khqr`. -/
def generateKhqr : Prog (String × String × String) := do
  match ← sense World.khqr with
  | some answer => return answer
  | none => .raise (.http 503 "Bakong payment service unreachable")

/-- `bakong.probe_khqr_status`: paid, unpaid or unknown. -/
def probeKhqrStatus (md5 : String) (intentId : Option String) : Prog ProbeStatus := do
  if md5 = "" then
    return .unpaid
  else
    match ← sense fun world => world.nbc intentId md5 with
    | some status => return status
    | none => .raise .probe

/-- `bakong.check_khqr_paid`. -/
def checkKhqrPaid (md5 : String) (intentId : Option String) : Prog Bool := do
  return decide ((← probeKhqrStatus md5 intentId) = .paid)

/-- A foreign key: key-share the row it points to, which has to be there. -/
def reference (key : Key) (present : Db → Bool) : Prog Unit := do
  lock key .keyShare
  if ← select present then return () else reject .integrity

def referenceUser : Option Uuid → Prog Unit
  | none => return ()
  | some user => reference (.user user) fun d => (d.user? user).isSome

def referenceTitle (title : Title) : Option Uuid → Prog Unit
  | none => return ()
  | some id => reference (.title title id) fun d => d.hasTitle title id

/-- An entry in a unique index whose key must be free. -/
def enterUnique (key : Key) (taken : Db → Bool) : Prog Unit := do
  if ← enter key taken then return () else reject .integrity

/-- `SELECT … FOR UPDATE` on a user's row. -/
def lockUser (user : Uuid) : Prog Unit := do
  if ← select fun d => (d.user? user).isSome then lock (.user user) .update else return ()

/-- `_lock_buyer`: serialize the sessions of one logged-in buyer. -/
def lockBuyer : Option Uuid → Prog Unit
  | none => return ()
  | some user => lockUser user

/-- The rows of a snapshot, each locked in turn and read again. -/
def lockIntents (qualifies : PaymentIntent → Bool) : List String → Prog (List PaymentIntent)
  | [] => return []
  | intentId :: intentIds => do
      lock (.intent intentId) .update
      let row? ← select fun d => (d.intent? intentId).filter qualifies
      let rows ← lockIntents qualifies intentIds
      return row?.toList ++ rows

/-- `SELECT … FOR UPDATE SKIP LOCKED LIMIT n`. -/
def lockIntentsSkipLocked (qualifies : PaymentIntent → Bool) :
    Nat → List String → Prog (List PaymentIntent)
  | 0, _ => return []
  | _, [] => return []
  | n + 1, intentId :: intentIds => do
      if ← tryLock (.intent intentId) .update then
        match ← select fun d => (d.intent? intentId).filter qualifies with
        | some row => return row :: (← lockIntentsSkipLocked qualifies n intentIds)
        | none => lockIntentsSkipLocked qualifies (n + 1) intentIds
      else
        lockIntentsSkipLocked qualifies (n + 1) intentIds

/-- `db.refresh`. -/
def refresh (intent : PaymentIntent) : Prog PaymentIntent := do
  match ← select fun d => d.intent? intent.intentId with
  | some row => return row
  | none => .raise .noRow

/-! ## Alerts -/

def queueTelegramAlert (text : String) : Prog Unit :=
  session fun info =>
    ((), { info with pendingTelegramAlerts := info.pendingTelegramAlerts ++ [text] })

def popTelegramAlerts : Prog (List String) :=
  session fun info => (info.pendingTelegramAlerts, { info with pendingTelegramAlerts := [] })

def flushPendingTelegramAlerts : Prog Unit := do
  let pending ← popTelegramAlerts
  tell fun world => { world with sentAlerts := world.sentAlerts ++ pending }

def commitWithTelegram : Prog Unit := do
  commit
  flushPendingTelegramAlerts

/-- The amount as `f"${amount:.2f}"` writes it. -/
def usd (cents : Int) : String :=
  let n := cents.natAbs
  "$" ++ (if cents < 0 then "-" else "") ++ toString (n / 100) ++ "." ++
    (if n % 100 < 10 then "0" else "") ++ toString (n % 100)

/-- The title line of an alert. -/
def alertTitle (intent : PaymentIntent) : Prog String :=
  match intent.kind, intent.contentId with
  | .single, some id => do
      let found ← select fun d => (d.content? id).map Content.title
      match found with
      | some title => return if title = "" then "content:" ++ toString id else title
      | none => return "content:" ++ toString id
  | _, _ => return "Subscription"

/-- The buyer line of an alert. -/
def alertBuyer (intent : PaymentIntent) : Prog String :=
  match intent.userId, intent.guestId with
  | some user, _ => do
      match ← select fun d => d.user? user with
      | some row =>
          match row.fullName with
          | some name => return if name = "" then row.email else name ++ " <" ++ row.email ++ ">"
          | none => return row.email
      | none => return "user:" ++ toString user
  | none, some guest =>
      return if guest = "" then "guest"
        else if guest.length > 8 then "guest:" ++ String.ofList (guest.toList.take 8) ++ "..."
        else "guest:" ++ guest
  | none, none => return "guest"

def Method.text : Method → String
  | .baray => "baray"
  | .bakong => "bakong"

def paymentSucceededText (intent : PaymentIntent) (bank : Option String) (title buyer : String) :
    String :=
  let method := match bank with
    | some bank => if bank = "" then intent.method.text else bank
    | none => intent.method.text
  let kindLabel := if intent.kind = .single then "Movie" else "Subscription"
  "Reeltime payment succeeded\n- " ++ kindLabel ++ ": " ++ title ++
    "\n- Amount: " ++ usd intent.amountUsd ++ "\n- Method: " ++ method ++
    "\n- Buyer: " ++ buyer ++ "\n- Order: " ++ intent.orderId ++ "\n- Intent: " ++ intent.intentId

def buildPaymentSucceededMessage (intent : PaymentIntent) (bank : Option String) :
    Prog String := do
  let title ← alertTitle intent
  let buyer ← alertBuyer intent
  return paymentSucceededText intent bank title buyer

def notifyPaymentSucceeded (intent : PaymentIntent) (bank : Option String) : Prog Unit := do
  queueTelegramAlert (← buildPaymentSucceededMessage intent bank)

end MovieApi.Billing
