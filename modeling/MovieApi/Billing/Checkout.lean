import MovieApi.Billing.Settlement

/-!
# Checkout

Creating, reusing and polling Bakong intents: the three
`create_or_reuse_…_bakong_intent`, `_reuse_or_refresh_pending` and
`settle_pending_intent_on_poll`.
-/

namespace MovieApi.Billing

open ReadCommitted ReadCommitted.Prog Sql

/-! ## QR codes -/

/-- `merchant_name or intent.bakong_merchant_name`. -/
def PaymentIntent.merchantAfter (intent : PaymentIntent) (merchant : String) : Option String :=
  (nonempty merchant).or intent.bakongMerchantName

/-- `regenerate_bakong_qr`, with the flush of its assignments. -/
def regenerateBakongQr (intent : PaymentIntent) : Prog Unit := do
  let (qr, md5, merchant) ← generateKhqr
  let now ← utcNow
  enterUnique (.intentMd5 md5) fun d => d.intents.any fun row =>
    decide (row.intentId ≠ intent.intentId ∧ row.bakongMd5 = some md5)
  write (.replaceQr intent md5 qr (intent.merchantAfter merchant) now)

/-! ## Reuse -/

def commitAndRefresh (intent : PaymentIntent) : Prog PaymentIntent := do
  commitWithTelegram
  refresh intent

/-- `check_ownership and await mark_succeeded_if_already_purchased(…)`. -/
def supersedeIfOwned (checkOwnership : Bool) (intent : PaymentIntent) : Prog Bool :=
  if checkOwnership then markSucceededIfAlreadyPurchased intent else return false

/-- `_reuse_or_refresh_pending`. -/
def reuseOrRefreshPending (cfg : Settings) (pending : PaymentIntent) (checkOwnership : Bool) :
    Prog PaymentIntent := do
  let now ← utcNow
  if qrIsStale cfg pending now = false then
    if ← supersedeIfOwned checkOwnership pending then commitAndRefresh pending
    else return pending
  else if (← settleBakongIntentIfPaid cfg pending).1 then
    commitAndRefresh pending
  else if ← supersedeIfOwned checkOwnership pending then
    commitAndRefresh pending
  else if ← bakongQrConfirmedUnpaid cfg pending then
    regenerateBakongQr pending
    commitAndRefresh pending
  else
    return pending

/-- The pending intents a checkout may reuse, oldest first. -/
def pendingLookup (qualifies : PaymentIntent → Bool) (d : Db) : List PaymentIntent :=
  oldestFirst (d.intents.filter qualifies)

/-! ## New intents -/

/-- Flush of a new intent. -/
def addIntent (row : PaymentIntent) : Prog Unit := do
  enterUnique (.intent row.intentId) fun d => (d.intent? row.intentId).isSome
  enterUnique (.intentOrder row.orderId) fun d =>
    d.intents.any fun other => decide (other.orderId = row.orderId)
  forEach row.bakongMd5.toList fun md5 =>
    enterUnique (.intentMd5 md5) fun d =>
      d.intents.any fun other => decide (other.bakongMd5 = some md5)
  forEach row.pendingKeys fun key => enterUnique (.pending key) fun d => d.hasPending key
  referenceUser row.userId
  referenceTitle .movie row.contentId
  referenceTitle .series row.seriesId
  write (.insertIntent row)

/-- `_commit_new_intent_or_reuse`. -/
def commitNewIntentOrReuse (cfg : Settings) (intent : PaymentIntent)
    (qualifies : PaymentIntent → Bool) (checkOwnership : Bool) : Prog PaymentIntent := do
  let committed ← tryCatch
    (do
      addIntent intent
      commitWithTelegram
      return true)
    fun e =>
      if e = .integrity then return false else .raise e
  if committed then
    refresh intent
  else
    rollback
    let _ ← popTelegramAlerts
    match ← select fun d => (pendingLookup qualifies d).head? with
    | some existing => reuseOrRefreshPending cfg existing checkOwnership
    | none => .raise .integrity

/-- What differs between the rows the three checkouts create. -/
structure Order where
  orderPrefix : String
  userId : Option Uuid
  guestId : Option String
  kind : Kind
  contentId : Option Uuid
  seriesId : Option Uuid
  planCode : Option String
  planIntervalDays : Option Int
  amountUsd : Int

/-- Issue a QR and build the pending row of an order. -/
def newIntent (cfg : Settings) (order : Order) : Prog PaymentIntent := do
  let orderHex ← uuidHex
  let (qr, md5, merchant) ← generateKhqr
  let now ← utcNow
  let intentHex ← uuidHex
  return {
    intentId := "bkg-" ++ intentHex
    orderId := order.orderPrefix ++ orderHex
    userId := order.userId
    guestId := order.guestId
    method := .bakong
    bakongMd5 := some md5
    bakongPrevMd5 := none
    bakongQr := some qr
    bakongMerchantName := (nonempty merchant).or (nonempty cfg.bakongMerchantName)
    bakongQrCreatedAt := some now
    kind := order.kind
    contentId := order.contentId
    seriesId := order.seriesId
    planCode := order.planCode
    planIntervalDays := order.planIntervalDays
    amountUsd := order.amountUsd
    status := .pending
    createdAt := now
    resolvedAt := none }

/-- From `_lock_buyer` on, the three checkouts are one: reuse the oldest
pending intent, locked, else create the intent `order` describes. -/
def checkout (cfg : Settings) (userId : Option Uuid) (qualifies : PaymentIntent → Bool)
    (checkOwnership : Bool) (order : Prog Order) : Prog PaymentIntent := do
  lockBuyer userId
  let snapshot ← select fun d => (pendingLookup qualifies d).map PaymentIntent.intentId
  match ← lockIntents qualifies snapshot with
  | pending :: _ => reuseOrRefreshPending cfg pending checkOwnership
  | [] => do
      let intent ← newIntent cfg (← order)
      commitNewIntentOrReuse cfg intent qualifies checkOwnership

def minPaidUsd : Int := 3

def seriesUnlockPriceUsd : Int := 250

/-- `validate_payment_amount`. -/
def validatePaymentAmount (amount : Option Int) : Prog Int :=
  match amount with
  | some amount =>
      if amount < minPaidUsd then .raise (unprocessable "USD payments must be at least 0.03")
      else return amount
  | none => .raise (unprocessable "USD payments must be at least 0.03")

/-- A pending Bakong intent of the buyer for the title. -/
def PaymentIntent.pendingTitle (title : Title) (userId : Option Uuid) (guestId : Option String)
    (titleId : Uuid) (row : PaymentIntent) : Bool :=
  row.hasIdentity userId guestId && decide (row.method = .bakong ∧ row.kind = title.kind ∧
    row.titleId title = some titleId ∧ row.status = .pending)

/-- The buyer's purchases of a title, by `user_id`, else by `guest_id`. -/
def Db.purchased (d : Db) (userId : Option Uuid) (guestId : Option String) (contentId : Uuid) :
    Bool :=
  d.purchases.any fun row => decide (row.titleId = contentId) &&
    match userId with
    | some id => decide (row.userId = some id)
    | none => decide (row.guestId = guestId)

def movieOrder (contentId : Uuid) (userId : Option Uuid) (guestId : Option String) :
    Prog Order := do
  match (← select fun d => d.content? contentId).filter fun row =>
      decide (row.type = .single ∧ row.isPublished = true) with
  | none => .raise (notFound "Movie not found")
  | some movie =>
      let amount ← validatePaymentAmount movie.priceUsd
      return ⟨"movie-", userId, guestId, .single, some movie.id, none, none, none, amount⟩

def createOrReuseMovieBakongIntent (cfg : Settings) (contentId : Uuid) (userId : Option Uuid)
    (guestId : Option String) : Prog PaymentIntent := do
  if ← select fun d => d.purchased userId guestId contentId then
    .raise (conflict "Movie already purchased")
  else
    checkout cfg userId (PaymentIntent.pendingTitle .movie userId guestId contentId) true
      (movieOrder contentId userId guestId)

/-- `user_has_active_subscription`. -/
def Db.hasActiveSubscription (d : Db) (userId : Uuid) (now : Instant) : Bool :=
  d.subscriptions.any fun row =>
    decide (row.userId = userId ∧ row.status = .active ∧ now < row.currentPeriodEnd)

def userHasActiveSubscription (userId : Uuid) : Prog Bool := do
  let now ← utcNow
  select fun d => d.hasActiveSubscription userId now

/-- `has_series_purchase`. -/
def Db.hasSeriesPurchase (d : Db) (seriesId : Uuid) (userId : Option Uuid)
    (guestId : Option String) : Bool :=
  match owner? userId guestId with
  | some owner => d.owns owner .series seriesId
  | none => false

def seriesOrder (seriesId : Uuid) (userId : Option Uuid) (guestId : Option String) :
    Prog Order := do
  let amount ← validatePaymentAmount (some seriesUnlockPriceUsd)
  return ⟨"series-", userId, guestId, .series, none, some seriesId, none, none, amount⟩

def subscribed (userId : Option Uuid) : Prog Bool :=
  match userId with
  | some user => userHasActiveSubscription user
  | none => return false

def createOrReuseSeriesBakongIntent (cfg : Settings) (seriesId : Uuid) (userId : Option Uuid)
    (guestId : Option String) : Prog PaymentIntent := do
  if ← subscribed userId then
    .raise (conflict "You already have an active subscription")
  else if ← select fun d => d.hasSeriesPurchase seriesId userId guestId then
    .raise (conflict "Series already unlocked")
  else
    checkout cfg userId (PaymentIntent.pendingTitle .series userId guestId seriesId) true
      (seriesOrder seriesId userId guestId)

/-- A pending Bakong intent of the user for the plan; rows from before plan
codes are told by their amount. -/
def PaymentIntent.pendingPlan (user : Uuid) (plan : String) (amount : Int)
    (row : PaymentIntent) : Bool :=
  decide (row.userId = some user ∧ row.method = .bakong ∧ row.kind = .sub ∧
    row.status = .pending ∧
      (row.planCode = some plan ∨ (row.planCode = none ∧ row.amountUsd = amount)))

def planOrder (user : Uuid) (plan : SubscriptionPlan) (amount : Int) : Prog Order :=
  return ⟨"sub-" ++ plan.code ++ "-", some user, none, .sub, none, none, some plan.code,
    some plan.billingIntervalDays, amount⟩

def createOrReuseSubscriptionBakongIntent (cfg : Settings) (user : Uuid)
    (planCode : Option String) : Prog PaymentIntent := do
  let plan ← resolveActivePlan planCode
  let amount ← validatePaymentAmount (some plan.priceUsd)
  -- no ownership check: a subscription has no purchase per title
  checkout cfg (some user) (PaymentIntent.pendingPlan user plan.code amount) false
    (planOrder user plan amount)

/-! ## Polling -/

def loadBuyerIntent (intentId : String) (userId : Option Uuid) (guestId : Option String) :
    Prog PaymentIntent := do
  if (owner? userId guestId).isNone then
    .raise (notFound "Payment intent not found")
  else
    match (← select fun d => d.intent? intentId).filter
        (PaymentIntent.hasIdentity userId guestId) with
    | some intent => return intent
    | none => .raise (notFound "Payment intent not found")

def markIntentPolled (intentId : String) : Prog Unit :=
  tell fun world => { world with recentlyPolled := intentId :: world.recentlyPolled }

/-- The buyer's other pending intent for the same movie that a poll may find
paid instead, newest first. -/
def PaymentIntent.sibling? (intent : PaymentIntent) (contentId : Uuid) (d : Db) :
    Option PaymentIntent :=
  (newestFirst (d.intents.filter fun row =>
    row.pendingMovie intent.userId intent.guestId contentId &&
      decide (row.intentId ≠ intent.intentId))).head?

/-- The fallback of a poll whose own intent is not paid. -/
def settleSibling (cfg : Settings) (intent : PaymentIntent) (contentId : Uuid) :
    Prog PaymentIntent := do
  match ← select (intent.sibling? contentId) with
  | none => return intent
  | some sibling =>
      let (paid, settled) ← settleBakongIntentIfPaid cfg sibling
      if paid then
        write (.resolveIntent intent .superseded settled.resolvedAt)
        commitAndRefresh intent
      else
        return intent

/-- The NBC check of a poll. -/
def settleOnPoll (cfg : Settings) (intent : PaymentIntent) : Prog PaymentIntent := do
  if (← settleBakongIntentIfPaid cfg intent).1 then
    commitAndRefresh intent
  else
    match intent.contentId with
    | some contentId => settleSibling cfg intent contentId
    | none => return intent

/-- `settle_pending_intent_on_poll`. -/
def settlePendingIntentOnPoll (cfg : Settings) (intent : PaymentIntent) :
    Prog PaymentIntent := do
  if intent.method ≠ .bakong ∨ intent.status ≠ .pending then
    return intent
  else if ← markSucceededIfAlreadyPurchased intent then
    commitAndRefresh intent
  else if cfg.bakongNbcSettleEnabled = false ∨ (intent.bakongMd5.bind nonempty).isNone then
    return intent
  else if ← sense World.checksBlocked then
    markIntentPolled intent.intentId
    return intent
  else
    let settled ← settleOnPoll cfg intent
    markIntentPolled intent.intentId
    return settled

end MovieApi.Billing
