import MovieApi.Billing.Fulfillment

/-!
# Settlement

Finding out that a pending intent was paid, or that its buyer already owns the
title: the ownership check, the Bakong probes and `settle_bakong_intent_if_paid`.
-/

namespace MovieApi.Billing

open ReadCommitted ReadCommitted.Prog Sql

/-! ## Ownership -/

/-- Whose purchases count: the account's, else those of the guest cookie. -/
inductive Owner where
  | user (id : Uuid)
  | guest (id : String)
deriving DecidableEq, Repr

def Owner.owns (owner : Owner) (row : Receipt) : Bool :=
  match owner with
  | .user id => decide (row.userId = some id)
  | .guest id => decide (row.guestId = some id)

def owner? (userId : Option Uuid) (guestId : Option String) : Option Owner :=
  match userId with
  | some id => some (.user id)
  | none => (guestId.bind nonempty).map .guest

def Db.owns (d : Db) (owner : Owner) (title : Title) (titleId : Uuid) : Bool :=
  (d.receipts title).any fun row => decide (row.titleId = titleId) && owner.owns row

/-- The title whose ownership settles the question for this intent. -/
def PaymentIntent.ownable (intent : PaymentIntent) : Option (Title × Uuid) :=
  match intent.kind, intent.seriesId with
  | .series, some id => some (.series, id)
  | _, _ => intent.contentId.map fun id => (.movie, id)

/-- `mark_succeeded_if_already_purchased`, with the flush of its two
assignments, which the commit of every caller sends next. -/
def markSucceededIfAlreadyPurchased (intent : PaymentIntent) : Prog Bool := do
  match owner? intent.userId intent.guestId, intent.ownable with
  | some owner, some (title, titleId) =>
      if ← select fun d => d.owns owner title titleId then
        let now ← utcNow
        write (.resolveIntent intent .superseded (some now))
        return true
      else
        return false
  | _, _ => return false

/-! ## Bakong -/

def PaymentIntent.qrIssuedAt (intent : PaymentIntent) : Instant :=
  intent.bakongQrCreatedAt.getD intent.createdAt

def qrIsStale (cfg : Settings) (intent : PaymentIntent) (now : Instant) : Bool :=
  decide (minutes cfg.bakongQrTtlMinutes ≤ now - intent.qrIssuedAt)

/-- `bakong_md5s_paid`: is the current or the previous KHQR paid? -/
def bakongMd5sPaid (cfg : Settings) (intent : PaymentIntent) : Prog Bool := do
  match intent.bakongMd5.bind nonempty with
  | none => return false
  | some md5 =>
      if cfg.bakongNbcSettleEnabled = false then
        return false
      else
        match ← probeKhqrStatus md5 (some intent.intentId) with
        | .paid => return true
        | .unknown => return false
        | .unpaid =>
            match intent.bakongPrevMd5.bind nonempty with
            | none => return false
            | some prev =>
                if prev = md5 then return false
                else checkKhqrPaid prev (some intent.intentId)

/-- The md5s a regeneration has to see unpaid. -/
def PaymentIntent.md5s (intent : PaymentIntent) : List String :=
  match intent.bakongMd5.bind nonempty, intent.bakongPrevMd5.bind nonempty with
  | some md5, some prev => if prev = md5 then [md5] else [md5, prev]
  | some md5, none => [md5]
  | none, some prev => [prev]
  | none, none => []

def allUnpaid (intentId : String) : List String → Prog Bool
  | [] => return true
  | md5 :: md5s => do
      if (← probeKhqrStatus md5 (some intentId)) = .unpaid then allUnpaid intentId md5s
      else return false

/-- `bakong_qr_confirmed_unpaid`. -/
def bakongQrConfirmedUnpaid (cfg : Settings) (intent : PaymentIntent) : Prog Bool :=
  if cfg.bakongNbcSettleEnabled then allUnpaid intent.intentId intent.md5s else return true

/-- `settle_bakong_intent_if_paid`; answers also the intent object as it is left. -/
def settleBakongIntentIfPaid (cfg : Settings) (intent : PaymentIntent) :
    Prog (Bool × PaymentIntent) := do
  if intent.status = .succeeded then
    return (true, intent)
  else if intent.method ≠ .bakong ∨ intent.status ≠ .pending then
    return (false, intent)
  else if cfg.bakongNbcSettleEnabled = false then
    return (false, intent)
  else if ← bakongMd5sPaid cfg intent then
    let settled ← fulfillPaymentIntent intent (some "bakong")
    return (true, settled)
  else
    return (false, intent)

/-- The rows of one buyer: an account's, else those with the given guest id. -/
def PaymentIntent.hasIdentity (userId : Option Uuid) (guestId : Option String)
    (row : PaymentIntent) : Bool :=
  match userId with
  | some id => decide (row.userId = some id)
  | none => decide (row.guestId = guestId)

/-- A pending Bakong movie intent of the buyer with a QR. -/
def PaymentIntent.pendingMovie (userId : Option Uuid) (guestId : Option String)
    (contentId : Uuid) (row : PaymentIntent) : Bool :=
  row.hasIdentity userId guestId && decide (row.method = .bakong ∧ row.kind = .single ∧
    row.contentId = some contentId ∧ row.status = .pending ∧ row.bakongMd5.isSome)

/-- Newest first. -/
def newestFirst (rows : List PaymentIntent) : List PaymentIntent :=
  orderBy (fun p q => q.createdAt ≤ p.createdAt) rows

def oldestFirst (rows : List PaymentIntent) : List PaymentIntent :=
  orderBy (fun p q => p.createdAt ≤ q.createdAt) rows

def settleFirstPaid (cfg : Settings) : List PaymentIntent → Prog Bool
  | [] => return false
  | intent :: intents => do
      if (← settleBakongIntentIfPaid cfg intent).1 then return true
      else settleFirstPaid cfg intents

/-- `settle_pending_movie_bakong_for_buyer`. -/
def settlePendingMovieBakongForBuyer (cfg : Settings) (contentId : Uuid)
    (userId : Option Uuid) (guestId : Option String) : Prog Bool := do
  if cfg.bakongNbcSettleEnabled = false then
    return false
  else if (owner? userId guestId).isNone then
    return false
  else if ← sense World.checksBlocked then
    return false
  else
    let intents ← select fun d =>
      (newestFirst (d.intents.filter (PaymentIntent.pendingMovie userId guestId contentId))).take 2
    settleFirstPaid cfg intents

end MovieApi.Billing
