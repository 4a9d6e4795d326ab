import MovieApi.Billing.Session

/-!
# Fulfilment

`fulfill_payment_intent`: mark an intent succeeded under its row lock and make
the grant it was paid for.
-/

namespace MovieApi.Billing

open ReadCommitted ReadCommitted.Prog Sql

/-! ## Plans -/

/-- Python's `str.isspace` of one character. -/
def isSpace (c : Char) : Bool :=
  decide (c.toNat ∈ [0x9, 0xa, 0xb, 0xc, 0xd, 0x1c, 0x1d, 0x1e, 0x1f, 0x20, 0x85, 0xa0, 0x1680,
    0x2000, 0x2001, 0x2002, 0x2003, 0x2004, 0x2005, 0x2006, 0x2007, 0x2008, 0x2009, 0x200a,
    0x2028, 0x2029, 0x202f, 0x205f, 0x3000])

def strip (text : String) : String :=
  String.ofList (((text.toList.dropWhile isSpace).reverse.dropWhile isSpace).reverse)

/-- A text that Python counts as true. -/
def nonempty (text : String) : Option String :=
  if text = "" then none else some text

/-- `_plan_code_from_order_id`: the code in `sub-{plan_code}-{hex}`. -/
def planCodeFromOrderId (orderId : String) : Option String :=
  match orderId.toList with
  | 's' :: 'u' :: 'b' :: '-' :: rest =>
      match rest.reverse.dropWhile (· ≠ '-') with
      | [] => none
      | _ :: code => nonempty (String.ofList code.reverse)
  | _ => none

/-- `ORDER BY sort_order, created_at`. -/
def SubscriptionPlan.le (p q : SubscriptionPlan) : Prop :=
  p.sortOrder < q.sortOrder ∨ (p.sortOrder = q.sortOrder ∧ p.createdAt ≤ q.createdAt)

instance : DecidableRel SubscriptionPlan.le :=
  fun _ _ => inferInstanceAs (Decidable (_ ∨ (_ ∧ _)))

/-- `list_subscription_plans` with `active_only`. -/
def Db.activePlans (d : Db) : List SubscriptionPlan :=
  orderBy SubscriptionPlan.le (d.plans.filter SubscriptionPlan.isActive)

def planNotFound : Err := notFound "Subscription plan not found"

def noActivePlan : Err := notFound "No active subscription plan configured"

def resolveActivePlan (planCode : Option String) : Prog SubscriptionPlan := do
  match planCode.bind nonempty with
  | some code =>
      match (← select fun d => d.plan? code).filter SubscriptionPlan.isActive with
      | some plan => return plan
      | none => .raise planNotFound
  | none =>
      match ← select fun d => d.activePlans.head? with
      | some plan => return plan
      | none => .raise noActivePlan

/-- `max` by billing interval: the first of the longest plans. -/
def longestPlan (plan : SubscriptionPlan) (plans : List SubscriptionPlan) : SubscriptionPlan :=
  plans.foldl (fun best p => if best.billingIntervalDays < p.billingIntervalDays then p else best)
    plan

/-- The plan code an intent names: its own, else the one in its order id. -/
def PaymentIntent.codedPlan (intent : PaymentIntent) : Option String :=
  (nonempty (strip (intent.planCode.getD ""))).or (planCodeFromOrderId intent.orderId)

/-- The plan with the amount of the intent, or the only active one there is. -/
def resolvePlanByAmount (intent : PaymentIntent) : Prog SubscriptionPlan := do
  match (← select Db.activePlans).filter fun plan => plan.priceUsd = intent.amountUsd with
  | plan :: plans => return longestPlan plan plans
  | [] => resolveActivePlan none

def resolvePlanForSubscriptionIntent (intent : PaymentIntent) : Prog SubscriptionPlan := do
  match intent.codedPlan with
  | some code =>
      match (← select fun d => d.plan? code).filter SubscriptionPlan.isActive with
      | some plan => return plan
      | none => resolvePlanByAmount intent
  | none => resolvePlanByAmount intent

/-- The interval snapshotted at checkout, else the plan's. -/
def billingIntervalDays (intent : PaymentIntent) (plan : SubscriptionPlan) : Int :=
  match intent.planIntervalDays with
  | some snapshotted => if 0 < snapshotted then snapshotted else plan.billingIntervalDays
  | none => plan.billingIntervalDays

/-! ## Grants -/

def PaymentIntent.receipt (intent : PaymentIntent) (titleId : Uuid) (bank : Option String) :
    Receipt where
  userId := intent.userId
  guestId := intent.guestId
  titleId := titleId
  intentId := intent.intentId
  orderId := intent.orderId
  bank := bank
  amountUsd := intent.amountUsd

def Db.hasReceiptOrder (d : Db) (title : Title) (orderId : String) : Bool :=
  (d.receipts title).any fun row => decide (row.orderId = orderId)

def Db.hasPaymentOrder (d : Db) (orderId : String) : Bool :=
  d.subscriptionPayments.any fun row => decide (row.orderId = orderId)

/-- `INSERT … ON CONFLICT (intent_id) DO NOTHING` into `purchases` or
`series_purchases`. -/
def insertReceipt (title : Title) (row : Receipt) : Prog Unit := do
  if ← enter (.receipt title row.intentId) fun d => (d.receipt? title row.intentId).isSome then
    enterUnique (.receiptOrder title row.orderId) fun d => d.hasReceiptOrder title row.orderId
    referenceUser row.userId
    referenceTitle title (some row.titleId)
    write (.insertReceipt title row)
  else
    return ()

/-- `INSERT … ON CONFLICT (intent_id) DO NOTHING` into `subscription_payments`. -/
def insertPayment (row : SubscriptionPayment) : Prog Unit := do
  if ← enter (.payment row.intentId) fun d => (d.payment? row.intentId).isSome then
    enterUnique (.paymentOrder row.orderId) fun d => d.hasPaymentOrder row.orderId
    write (.insertPayment row)
  else
    return ()

/-- The grant of a movie or series intent. -/
def grantTitle (title : Title) (titleId : Uuid) (intent : PaymentIntent) (bank : Option String) :
    Prog Unit := do
  if ← select fun d => (d.receipt? title intent.intentId).isSome then
    return ()
  else
    insertReceipt title (intent.receipt titleId bank)
    notifyPaymentSucceeded intent bank

/-- A user's subscriptions, the one that ends last first. -/
def Db.subscriptionsOf (d : Db) (userId : Option Uuid) : List Subscription :=
  orderBy (fun p q => q.currentPeriodEnd ≤ p.currentPeriodEnd)
    (d.subscriptions.filter fun row => some row.userId = userId)

/-- `SELECT … FOR UPDATE` of a user's subscription. -/
def lockSubscription (userId : Option Uuid) : Prog (Option Subscription) := do
  match ← select fun d => (d.subscriptionsOf userId).head? with
  | some row => do
      lock (.subscription row.userId) .update
      select fun d => (d.subscriptionsOf userId).head?
  | none => return none

/-- Flush of a new subscription. -/
def addSubscription (userId : Option Uuid) (plan : String) (now periodEnd : Instant) :
    Prog Subscription := do
  match userId with
  | none => do
      reject .integrity
      .raise .integrity
  | some user => do
      let id ← uuid4
      let row : Subscription := ⟨id, user, plan, .active, now, periodEnd⟩
      enterUnique (.subscription user) fun d => (d.subscription? user).isSome
      referenceUser (some user)
      write (.insertSubscription row)
      return row

/-- The subscription after its plan was paid for at `now`. -/
def Subscription.extended (row : Subscription) (plan : String) (now periodEnd : Instant) :
    Subscription :=
  { row with
    status := .active
    plan := plan
    currentPeriodStart := if row.currentPeriodEnd ≤ now then now else row.currentPeriodStart
    currentPeriodEnd := periodEnd }

/-- Where the paid period starts. -/
def periodStart (subscription? : Option Subscription) (now : Instant) : Instant :=
  match subscription? with
  | some row => if now < row.currentPeriodEnd then row.currentPeriodEnd else now
  | none => now

/-- Create the user's subscription, or extend the one there is. -/
def saveSubscription (subscription? : Option Subscription) (userId : Option Uuid)
    (plan : String) (now periodEnd : Instant) : Prog Subscription := do
  match subscription? with
  | none => addSubscription userId plan now periodEnd
  | some row => do
      write (.updateSubscription (row.extended plan now periodEnd))
      return row.extended plan now periodEnd

def PaymentIntent.payment (intent : PaymentIntent) (subscription : Subscription)
    (periodEnd : Instant) (bank : Option String) : SubscriptionPayment where
  subscriptionId := subscription.id
  intentId := intent.intentId
  orderId := intent.orderId
  bank := bank
  amountUsd := intent.amountUsd
  periodExtendedTo := periodEnd

/-- The grant of a subscription intent. -/
def grantSubscription (intent : PaymentIntent) (now : Instant) (bank : Option String) :
    Prog Unit := do
  if ← select fun d => (d.payment? intent.intentId).isSome then
    return ()
  else
    -- no subscription row to lock yet when it is the user's first
    lockBuyer intent.userId
    let plan ← resolvePlanForSubscriptionIntent intent
    let subscription? ← lockSubscription intent.userId
    let periodEnd := periodStart subscription? now + days (billingIntervalDays intent plan)
    let subscription ← saveSubscription subscription? intent.userId plan.code now periodEnd
    insertPayment (intent.payment subscription periodEnd bank)
    notifyPaymentSucceeded intent bank

/-! ## Fulfilment -/

/-- The side effects of a fulfilment, by what the intent is for. -/
def grant (intent : PaymentIntent) (now : Instant) (bank : Option String) : Prog Unit :=
  match intent.kind with
  | .single =>
      match intent.contentId with
      | some id => grantTitle .movie id intent bank
      | none => notifyPaymentSucceeded intent bank
  | .series =>
      match intent.seriesId with
      | some id => grantTitle .series id intent bank
      | none => notifyPaymentSucceeded intent bank
  | .sub => grantSubscription intent now bank

/-- `_lock_intent_if_orm`: reload with `FOR UPDATE`. -/
def lockIntent (intentId : String) : Prog (Option PaymentIntent) := do
  if ← select fun d => (d.intent? intentId).isSome then
    lock (.intent intentId) .update
    select fun d => d.intent? intentId
  else
    return none

/-- The loaded intent after `status` and `resolved_at` were set. -/
def PaymentIntent.resolved (intent : PaymentIntent) (outcome : Outcome)
    (resolvedAt : Option Instant) : PaymentIntent :=
  { intent with status := outcome.status, resolvedAt := resolvedAt }

/-- `fulfill_payment_intent`; answers the caller's intent object as it is left. -/
def fulfillPaymentIntent (intent : PaymentIntent) (bank : Option String) :
    Prog PaymentIntent := do
  match ← lockIntent intent.intentId with
  | none => return intent
  | some locked =>
      if locked.status = .succeeded then
        return locked
      else
        let now ← utcNow
        write (.resolveIntent locked .succeeded (some now))
        let fulfilled := locked.resolved .succeeded (some now)
        grant fulfilled now bank
        return fulfilled

end MovieApi.Billing
