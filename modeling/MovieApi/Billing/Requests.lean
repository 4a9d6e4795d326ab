import MovieApi.Billing.Checkout

/-!
# Requests and background tasks

The programs of whole sessions: the sweeper, the Baray webhook, manual
fulfilment, the claim of a guest's history at sign-in, and the administration of
titles and plans.
-/

namespace MovieApi.Billing

open ReadCommitted ReadCommitted.Prog Sql

/-! ## The sweeper -/

/-- The intents a pass looks at: pending Bakong intents with a recent QR. -/
def PaymentIntent.sweepable (windowStart : Instant) (row : PaymentIntent) : Bool :=
  decide (row.method = .bakong ∧ row.status = .pending ∧ row.bakongMd5.isSome ∧
    windowStart ≤ row.qrIssuedAt)

def sweepOrder (rows : List PaymentIntent) : List PaymentIntent :=
  orderBy (fun p q => q.qrIssuedAt ≤ p.qrIssuedAt) rows

def Settings.windowMinutes (cfg : Settings) : Int :=
  min 45 (max 10 cfg.bakongSweeperWindowMinutes)

def Settings.batchSize (cfg : Settings) : Nat :=
  min 3 (max 1 cfg.bakongSweeperBatchSize)

/-- Run a program whose exception is swallowed. -/
def attempt {α : Type} (p : Prog α) : Prog (Option α) :=
  tryCatch (do return some (← p)) fun _ => return none

/-- What a pass makes of one intent's probes; `none` stops the pass. -/
def sweepPaid (intent : PaymentIntent) (status : ProbeStatus) : Prog (Option Bool) := do
  match status with
  | .unknown => return none
  | .paid => return some true
  | .unpaid =>
      match intent.bakongPrevMd5.bind nonempty with
      | none => return some false
      | some prev =>
          if some prev = intent.bakongMd5 then
            return some false
          else
            match ← probeKhqrStatus prev none with
            | .unknown => return none
            | .paid => return some true
            | .unpaid => return some false

def noteFailure (intentId : String) : Prog Unit :=
  session fun info => ((), { info with failedIntents := info.failedIntents ++ [intentId] })

/-- Settle one intent of a pass; an exception is logged and swallowed. -/
def sweepSettle (cfg : Settings) (intent : PaymentIntent) : Prog Nat :=
  tryCatch
    (do
      if (← settleBakongIntentIfPaid cfg intent).1 then return 1 else return 0)
    fun _ => do
      noteFailure intent.intentId
      return 0

/-- The loop of a pass: how many intents it settled, and whether it stopped at
a rate limit. -/
def sweepEach (cfg : Settings) (settled : Nat) : List PaymentIntent → Prog (Nat × Bool)
  | [] => return (settled, false)
  | intent :: intents => do
      if ← sense World.checksBlocked then
        return (settled, true)
      else
        match ← attempt (probeKhqrStatus (intent.bakongMd5.getD "") none) with
        | none => sweepEach cfg settled intents
        | some status =>
            match ← sweepPaid intent status with
            | none => return (settled, true)
            | some false => sweepEach cfg settled intents
            | some true => do
                let n ← sweepSettle cfg intent
                sweepEach cfg (settled + n) intents

def notRecentlyPolled (intents : List PaymentIntent) : Prog (List PaymentIntent) :=
  sense fun world => intents.filter fun row => decide (row.intentId ∉ world.recentlyPolled)

def commitIfSettled (settled : Nat) : Prog Unit :=
  if settled = 0 then rollback else commitWithTelegram

def pauseIfLimited (rateLimited : Bool) : Prog Unit :=
  if rateLimited then
    tell fun world => { world with checksBlocked := true, sweeperPaused := true }
  else
    return ()

/-- `sweep_pending_bakong_intents`. -/
def sweepPendingBakongIntents (cfg : Settings) : Prog Nat := do
  if ← sense fun world => world.sweeperPaused || world.checksBlocked then
    return 0
  else
    let windowStart := (← utcNow) - minutes cfg.windowMinutes
    let snapshot ← select fun d =>
      (sweepOrder (d.intents.filter (PaymentIntent.sweepable windowStart))).map
        PaymentIntent.intentId
    let locked ← lockIntentsSkipLocked (PaymentIntent.sweepable windowStart) cfg.batchSize snapshot
    let intents ← notRecentlyPolled locked
    if intents = [] then
      rollback
      return 0
    else
      let (settled, rateLimited) ← sweepEach cfg 0 intents
      commitIfSettled settled
      pauseIfLimited rateLimited
      return settled

/-! ## Manual fulfilment and the Baray webhook -/

/-- Flush of a new approval.  The model declares `intent_id` unique, but no
migration makes a unique index of it. -/
def addApproval (row : PaymentApproval) : Prog Unit := do
  reference (.intent row.intentId) fun d => (d.intent? row.intentId).isSome
  referenceUser (some row.adminUserId)
  write (.insertApproval row)

/-- `admin_fulfill_payment`. -/
def adminFulfillPayment (intentId : String) (admin : Uuid) : Prog PaymentIntent := do
  match ← select fun d => d.intent? intentId with
  | none => .raise (notFound "Payment intent not found")
  | some intent =>
      if intent.status = .succeeded then
        return intent
      else if intent.status ≠ .pending then
        .raise (conflict ("Cannot fulfill intent in status=" ++ intent.status.text))
      else
        let _ ← fulfillPaymentIntent intent (some "manual_bakong")
        addApproval ⟨intent.intentId, admin, "manual_bakong"⟩
        commitAndRefresh intent

/-- Fulfil for the webhook; an exception becomes the event's error. -/
def processBarayEvent (orderId : String) (bank : Option String) : Prog Bool := do
  match ← select fun d => d.intents.find? fun row => decide (row.orderId = orderId) with
  | none => return true
  | some intent =>
      tryCatch
        (do
          let _ ← fulfillPaymentIntent intent bank
          return true)
        fun _ => do
          noteFailure intent.intentId
          return false

/-- The Baray webhook, after its payload was verified. -/
def barayWebhook (orderId : String) (bank : Option String) : Prog Unit := do
  let receivedAt ← utcNow
  let id ← uuid4
  write (.putWebhookEvent ⟨id, receivedAt, none, false⟩)
  let processed ← processBarayEvent orderId bank
  let now ← utcNow
  write (.putWebhookEvent ⟨id, receivedAt, if processed then some now else none, !processed⟩)
  commit

/-! ## Bulk statements -/

/-- A bulk `UPDATE` or `DELETE` of intents: the rows of a snapshot, each locked
in turn and read again. -/
def eachIntent (mode : LockMode) (qualifies : PaymentIntent → Bool)
    (change : PaymentIntent → Prog Unit) : Prog Unit := do
  let snapshot ← select fun d => (d.intents.filter qualifies).map PaymentIntent.intentId
  forEach snapshot fun intentId => do
    lock (.intent intentId) mode
    match (← select fun d => d.intent? intentId).filter qualifies with
    | some row => change row
    | none => return ()

/-- The same for `purchases` or `series_purchases`. -/
def eachReceipt (title : Title) (mode : LockMode) (qualifies : Receipt → Bool)
    (change : Receipt → Prog Unit) : Prog Unit := do
  let snapshot ← select fun d => ((d.receipts title).filter qualifies).map Receipt.intentId
  forEach snapshot fun intentId => do
    lock (.receipt title intentId) mode
    match (← select fun d => d.receipt? title intentId).filter qualifies with
    | some row => change row
    | none => return ()

/-! ## Claiming a guest's history -/

def claimReceipt (title : Title) (user : Uuid) (row : Receipt) : Prog Unit := do
  referenceUser (some user)
  write (.claimReceipt title row.intentId user)

/-- The updated row goes into the partial unique indexes again. -/
def claimIntent (user : Uuid) (row : PaymentIntent) : Prog Unit := do
  forEach (row.claimed user).pendingKeys fun key =>
    enterUnique (.pending key) fun d => d.intents.any fun other =>
      decide (other.intentId ≠ row.intentId ∧ key ∈ other.pendingKeys)
  referenceUser (some user)
  write (.claimIntent row user)

def claimReceipts (title : Title) (user : Uuid) (guestId : String) : Prog Unit :=
  eachReceipt title .noKeyUpdate (fun row => decide (row.guestId = some guestId))
    (claimReceipt title user)

def claimIntents (user : Uuid) (guestId : String) : Prog Unit :=
  eachIntent .noKeyUpdate (fun row => decide (row.guestId = some guestId)) (claimIntent user)

/-- `claim_guest_purchases`. -/
def claimGuestPurchases (user : Uuid) (guestId : Option String) : Prog Unit := do
  match guestId.bind nonempty with
  | none => return ()
  | some guestId => do
      claimReceipts .movie user guestId
      claimReceipts .series user guestId
      claimIntents user guestId

/-- The transaction of a sign-in, after the credentials were checked. -/
def signIn (user : Uuid) (guestId : Option String) : Prog Unit := do
  claimGuestPurchases user guestId
  commit

/-! ## Administration of titles and plans -/

def deleteReceipts (title : Title) (titleIds : List Uuid) : Prog Unit :=
  eachReceipt title .update (fun row => decide (row.titleId ∈ titleIds)) fun row =>
    write (.deleteReceipt title row.intentId)

def clearTitle (title : Title) (titleIds : List Uuid) : Prog Unit :=
  eachIntent .noKeyUpdate (fun row => (row.titleId title).any fun id => decide (id ∈ titleIds))
    fun row => write (.clearTitle title row.intentId)

/-- `delete_content_dependencies`, as far as the billing tables go. -/
def deleteContentDependencies (contentId : Uuid) : Prog Unit := do
  deleteReceipts .movie [contentId]
  clearTitle .movie [contentId]

def Db.episodes (d : Db) (seriesId : Uuid) : List Uuid :=
  (d.contents.filter fun row => decide (row.seriesId = some seriesId)).map Content.id

/-- `delete_content_dependencies_for_series`. -/
def deleteContentDependenciesForSeries (seriesId : Uuid) : Prog Unit := do
  deleteReceipts .movie (← select fun d => d.episodes seriesId)
  clearTitle .movie (← select fun d => d.episodes seriesId)

/-- Some row's `content_id` still points to the content. -/
def Db.contentReferenced (d : Db) (contentId : Uuid) : Bool :=
  (d.purchases.any fun row => decide (row.titleId = contentId)) ||
    d.intents.any fun row => decide (row.contentId = some contentId)

/-- `DELETE` of one content row, whose references have no `ON DELETE` action. -/
def deleteContentRow (contentId : Uuid) : Prog Unit := do
  lock (.title .movie contentId) .update
  if ← select fun d => d.contentReferenced contentId then reject .integrity
  else write (.deleteTitle .movie contentId)

def deleteEpisodes (seriesId : Uuid) : Prog Unit := do
  forEach (← select fun d => d.episodes seriesId) deleteContentRow

/-- `delete_series_and_dependencies`. -/
def deleteSeriesAndDependencies (seriesId : Uuid) : Prog Unit := do
  deleteContentDependenciesForSeries seriesId
  deleteReceipts .series [seriesId]
  clearTitle .series [seriesId]
  deleteEpisodes seriesId

/-- `DELETE` of a series row; its references are `ON DELETE CASCADE`. -/
def deleteSeriesRow (seriesId : Uuid) : Prog Unit := do
  lock (.title .series seriesId) .update
  write (.deleteTitle .series seriesId)
  deleteEpisodes seriesId
  deleteReceipts .series [seriesId]
  eachIntent .update (fun row => decide (row.seriesId = some seriesId)) fun row =>
    write (.deleteIntent row.intentId)

def deleteContent (contentId : Uuid) : Prog Unit := do
  deleteContentDependencies contentId
  deleteContentRow contentId
  commit

def deleteSeries (seriesId : Uuid) : Prog Unit := do
  deleteSeriesAndDependencies seriesId
  deleteSeriesRow seriesId
  commit

def savePlan (row : SubscriptionPlan) : Prog Unit := do
  write (.putPlan row)
  commit

def deletePlan (code : String) : Prog Unit := do
  if ← select fun d => d.subscriptions.any fun row => decide (row.plan = code) then
    .raise (conflict
      "This plan has active subscriptions and cannot be deleted. Deactivate it instead.")
  else
    write (.deletePlan code)
    commit

def saveContent (row : Content) : Prog Unit := do
  write (.putContent row)
  commit

def saveSeries (seriesId : Uuid) : Prog Unit := do
  if ← select fun d => d.hasTitle .series seriesId then
    commit
  else
    write (.putSeries seriesId)
    commit

/-! ## Sessions -/

/-- The end of every session: what is left open is rolled back, and an
exception goes on to whoever answers the request. -/
def closing {α : Type} (p : Prog α) : Prog Unit := do
  tryCatch
    (do
      let _ ← p
      return ())
    fun e => do
      rollback
      .raise e
  rollback

/-- What a session of the application runs. -/
inductive Request where
  | checkoutMovie (contentId : Uuid) (userId : Option Uuid) (guestId : Option String)
  | checkoutSeries (seriesId : Uuid) (userId : Option Uuid) (guestId : Option String)
  | checkoutPlan (user : Uuid) (planCode : Option String)
  | poll (intentId : String) (userId : Option Uuid) (guestId : Option String)
  | playback (contentId : Uuid) (userId : Option Uuid) (guestId : Option String)
  | sweep
  | fulfill (intent : PaymentIntent) (bank : Option String)
  | adminFulfill (intentId : String) (admin : Uuid)
  | webhook (orderId : String) (bank : Option String)
  | signIn (user : Uuid) (guestId : Option String)
  | deleteContent (contentId : Uuid)
  | deleteSeries (seriesId : Uuid)
  | savePlan (row : SubscriptionPlan)
  | deletePlan (code : String)
  | saveContent (row : Content)
  | saveSeries (seriesId : Uuid)

def poll (cfg : Settings) (intentId : String) (userId : Option Uuid) (guestId : Option String) :
    Prog PaymentIntent := do
  settlePendingIntentOnPoll cfg (← loadBuyerIntent intentId userId guestId)

/-- The settle attempt of `authorize_playback`. -/
def playbackSettle (cfg : Settings) (contentId : Uuid) (userId : Option Uuid)
    (guestId : Option String) : Prog Unit := do
  if ← settlePendingMovieBakongForBuyer cfg contentId userId guestId then commit else return ()

/-- One fulfilment in a transaction of its own. -/
def fulfillAndCommit (intent : PaymentIntent) (bank : Option String) : Prog Unit := do
  let _ ← fulfillPaymentIntent intent bank
  commitWithTelegram

def Request.prog (cfg : Settings) : Request → Prog Unit
  | .checkoutMovie contentId userId guestId =>
      closing (createOrReuseMovieBakongIntent cfg contentId userId guestId)
  | .checkoutSeries seriesId userId guestId =>
      closing (createOrReuseSeriesBakongIntent cfg seriesId userId guestId)
  | .checkoutPlan user planCode =>
      closing (createOrReuseSubscriptionBakongIntent cfg user planCode)
  | .poll intentId userId guestId => closing (Billing.poll cfg intentId userId guestId)
  | .playback contentId userId guestId => closing (playbackSettle cfg contentId userId guestId)
  | .sweep => closing (sweepPendingBakongIntents cfg)
  | .fulfill intent bank => closing (fulfillAndCommit intent bank)
  | .adminFulfill intentId admin => closing (adminFulfillPayment intentId admin)
  | .webhook orderId bank => closing (barayWebhook orderId bank)
  | .signIn user guestId => closing (Billing.signIn user guestId)
  | .deleteContent contentId => closing (Billing.deleteContent contentId)
  | .deleteSeries seriesId => closing (Billing.deleteSeries seriesId)
  | .savePlan row => closing (Billing.savePlan row)
  | .deletePlan code => closing (Billing.deletePlan code)
  | .saveContent row => closing (Billing.saveContent row)
  | .saveSeries seriesId => closing (Billing.saveSeries seriesId)

/-- Any number of sessions over an idle database; session `t` runs request `t`. -/
def start (cfg : Settings) (d : Db) (world : World) (requests : Tid → Request) : Pool where
  store := .idle d .empty world
  progs t := (requests t).prog cfg

/-! ## A small shop

One account, an administrator and one movie, for runs on concrete data. -/

namespace Shop

def world : World where
  now := 0
  uuid := 100
  hex := "c0de"
  khqr := some ("qr", "md5-new", "Shop")
  nbc _ _ := some .unpaid
  paid := []
  checksBlocked := false
  sweeperPaused := false
  recentlyPolled := []
  sentAlerts := []

def movie : Content := ⟨10, .single, none, "Movie", true, false, some 500⟩

/-- A pending movie intent of user 1. -/
def intent : PaymentIntent where
  intentId := "bkg-1"
  orderId := "movie-1"
  userId := some 1
  guestId := none
  method := .bakong
  bakongMd5 := some "md5-1"
  bakongPrevMd5 := none
  bakongQr := some "qr-1"
  bakongMerchantName := none
  bakongQrCreatedAt := some 0
  kind := .single
  contentId := some 10
  seriesId := none
  planCode := none
  planIntervalDays := none
  amountUsd := 500
  status := .pending
  createdAt := 0
  resolvedAt := none

def db : Db :=
  { Db.empty with
    users := [⟨1, "a@shop", none, .user⟩, ⟨2, "b@shop", none, .admin⟩]
    contents := [movie]
    intents := [intent] }

def runs (t n : Nat) : List (Event World) := List.replicate n (.run t)

def status (p : Pool) : Option Status :=
  (p.store.db.intent? "bkg-1").map PaymentIntent.status

/-- A manual fulfilment of the intent, and polls of it. -/
def fulfillAndPoll : Tid → Request
  | 1 => .adminFulfill "bkg-1" 2
  | _ => .poll "bkg-1" (some 1) none

end Shop

end MovieApi.Billing
