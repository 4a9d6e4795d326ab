import MovieApi.Billing.Schema
import MovieApi.ReadCommitted.Contract

/-!
# Writes to the billing tables

Every write the programs make, what it does to the tables and which locks it
holds until its transaction ends: the row it changes, the entries it makes in
unique indexes, and the rows its foreign keys point to.
-/

namespace MovieApi.Billing

open ReadCommitted Sql

/-! ## Lockable keys -/

inductive Key where
  | user (id : Uuid)
  | intent (intentId : String)
  /-- a user's row in `subscriptions`, and its entry in `uq_subscriptions_user_id` -/
  | subscription (userId : Uuid)
  | receipt (title : Title) (intentId : String)
  | receiptOrder (title : Title) (orderId : String)
  | payment (intentId : String)
  | paymentOrder (orderId : String)
  | intentOrder (orderId : String)
  | intentMd5 (md5 : String)
  | pending (key : PendingKey)
  | title (title : Title) (id : Uuid)
  | plan (code : String)
deriving DecidableEq, Repr

/-! ## Writes -/

/-- The statuses the code moves an intent to. -/
inductive Outcome where
  | succeeded | superseded
deriving DecidableEq, Repr

def Outcome.status : Outcome → Status
  | .succeeded => .succeeded
  | .superseded => .superseded

theorem Outcome.status_ne_pending (outcome : Outcome) : outcome.status ≠ .pending := by
  cases outcome <;> simp [status]

/-- A flushed attribute: an unchanged one is not in the `UPDATE`. -/
def flush {α : Type} [DecidableEq α] (loaded new current : α) : α :=
  if new = loaded then current else new

inductive Write where
  | insertIntent (row : PaymentIntent)
  /-- flush of a loaded intent whose status and resolution time were set -/
  | resolveIntent (copy : PaymentIntent) (outcome : Outcome) (resolvedAt : Option Instant)
  /-- flush of a loaded intent whose QR was regenerated -/
  | replaceQr (copy : PaymentIntent) (md5 qr : String) (merchant : Option String) (at_ : Instant)
  /-- one row of the bulk update of a claim; `row` is the row as it was found -/
  | claimIntent (row : PaymentIntent) (user : Uuid)
  /-- one row of the bulk update before a title is deleted -/
  | clearTitle (title : Title) (intentId : String)
  | deleteIntent (intentId : String)
  | insertReceipt (title : Title) (row : Receipt)
  | claimReceipt (title : Title) (intentId : String) (user : Uuid)
  | deleteReceipt (title : Title) (intentId : String)
  | insertSubscription (row : Subscription)
  | updateSubscription (row : Subscription)
  | insertPayment (row : SubscriptionPayment)
  | insertApproval (row : PaymentApproval)
  | putWebhookEvent (row : WebhookEvent)
  | putPlan (row : SubscriptionPlan)
  | deletePlan (code : String)
  | putContent (row : Content)
  | putSeries (id : Uuid)
  | deleteTitle (title : Title) (id : Uuid)
deriving DecidableEq, Repr

def PaymentIntent.resolve (copy : PaymentIntent) (outcome : Outcome)
    (resolvedAt : Option Instant) (row : PaymentIntent) : PaymentIntent :=
  { row with
    status := outcome.status
    resolvedAt := flush copy.resolvedAt resolvedAt row.resolvedAt }

def PaymentIntent.withQr (copy : PaymentIntent) (md5 qr : String) (merchant : Option String)
    (at_ : Instant) (row : PaymentIntent) : PaymentIntent :=
  { row with
    bakongPrevMd5 := flush copy.bakongPrevMd5 copy.bakongMd5 row.bakongPrevMd5
    bakongMd5 := flush copy.bakongMd5 (some md5) row.bakongMd5
    bakongQr := flush copy.bakongQr (some qr) row.bakongQr
    bakongMerchantName := flush copy.bakongMerchantName merchant row.bakongMerchantName
    bakongQrCreatedAt := flush copy.bakongQrCreatedAt (some at_) row.bakongQrCreatedAt }

def PaymentIntent.claimed (row : PaymentIntent) (user : Uuid) : PaymentIntent :=
  { row with userId := some user, guestId := none }

def PaymentIntent.cleared (row : PaymentIntent) : Title → PaymentIntent
  | .movie => { row with contentId := none }
  | .series => { row with seriesId := none }

def Receipt.claimed (row : Receipt) (user : Uuid) : Receipt :=
  { row with userId := some user, guestId := none }

def Db.mapIntent (d : Db) (intentId : String) (f : PaymentIntent → PaymentIntent) : Db :=
  { d with intents := modify PaymentIntent.intentId intentId f d.intents }

def insertOrUpdate {ρ κ : Type} [DecidableEq κ] (key : ρ → κ) (row : ρ) (rows : List ρ) :
    List ρ :=
  if (lookup key (key row) rows).isSome then modify key (key row) (fun _ => row) rows
  else rows ++ [row]

def Write.apply (d : Db) : Write → Db
  | .insertIntent row => { d with intents := d.intents ++ [row] }
  | .resolveIntent copy outcome resolvedAt =>
      d.mapIntent copy.intentId (copy.resolve outcome resolvedAt)
  | .replaceQr copy md5 qr merchant at_ =>
      d.mapIntent copy.intentId (copy.withQr md5 qr merchant at_)
  | .claimIntent row user => d.mapIntent row.intentId fun row => row.claimed user
  | .clearTitle title intentId => d.mapIntent intentId fun row => row.cleared title
  | .deleteIntent intentId =>
      { d with intents := remove PaymentIntent.intentId intentId d.intents }
  | .insertReceipt title row => d.mapReceipts title fun rows => rows ++ [row]
  | .claimReceipt title intentId user =>
      d.mapReceipts title (modify Receipt.intentId intentId fun row => row.claimed user)
  | .deleteReceipt title intentId => d.mapReceipts title (remove Receipt.intentId intentId)
  | .insertSubscription row => { d with subscriptions := d.subscriptions ++ [row] }
  | .updateSubscription row =>
      { d with
        subscriptions := modify Subscription.userId row.userId (fun _ => row) d.subscriptions }
  | .insertPayment row => { d with subscriptionPayments := d.subscriptionPayments ++ [row] }
  | .insertApproval row => { d with approvals := d.approvals ++ [row] }
  | .putWebhookEvent row =>
      { d with webhookEvents := insertOrUpdate WebhookEvent.id row d.webhookEvents }
  | .putPlan row => { d with plans := insertOrUpdate SubscriptionPlan.code row d.plans }
  | .deletePlan code => { d with plans := remove SubscriptionPlan.code code d.plans }
  | .putContent row => { d with contents := insertOrUpdate Content.id row d.contents }
  | .putSeries id => { d with series := d.series ++ [id] }
  | .deleteTitle .movie id => { d with contents := remove Content.id id d.contents }
  | .deleteTitle .series id => { d with series := d.series.filter (· ≠ id) }

/-! ## Locks of a write -/

/-- The row a foreign key points to. -/
def references (key : Uuid → Key) (id : Option Uuid) : List (Key × LockMode) :=
  (id.map fun id => (key id, LockMode.keyShare)).toList

def PaymentIntent.indexEntries (row : PaymentIntent) : List (Key × LockMode) :=
  row.pendingKeys.map fun key => (.pending key, .update)

def Write.needs : Write → List (Key × LockMode)
  | .insertIntent row =>
      [(.intent row.intentId, .update), (.intentOrder row.orderId, .update)] ++
        (row.bakongMd5.map fun md5 => (Key.intentMd5 md5, LockMode.update)).toList ++
        row.indexEntries ++ references .user row.userId ++
        references (.title .movie) row.contentId ++ references (.title .series) row.seriesId
  | .resolveIntent copy _ _ => [(.intent copy.intentId, .noKeyUpdate)]
  | .replaceQr copy md5 _ _ _ =>
      [(.intent copy.intentId, .noKeyUpdate), (.intentMd5 md5, .update)]
  | .claimIntent row user =>
      [(.intent row.intentId, .noKeyUpdate), (.user user, .keyShare)] ++
        (row.claimed user).indexEntries
  | .clearTitle _ intentId => [(.intent intentId, .noKeyUpdate)]
  | .deleteIntent intentId => [(.intent intentId, .update)]
  | .insertReceipt title row =>
      [(.receipt title row.intentId, .update), (.receiptOrder title row.orderId, .update),
        (.title title row.titleId, .keyShare)] ++ references .user row.userId
  | .claimReceipt title intentId user =>
      [(.receipt title intentId, .noKeyUpdate), (.user user, .keyShare)]
  | .deleteReceipt title intentId => [(.receipt title intentId, .update)]
  | .insertSubscription row => [(.subscription row.userId, .update), (.user row.userId, .keyShare)]
  | .updateSubscription row => [(.subscription row.userId, .noKeyUpdate)]
  | .insertPayment row =>
      [(.payment row.intentId, .update), (.paymentOrder row.orderId, .update)]
  | .insertApproval row =>
      [(.intent row.intentId, .keyShare), (.user row.adminUserId, .keyShare)]
  | .putWebhookEvent _ => []
  | .putPlan row => [(.plan row.code, .noKeyUpdate)]
  | .deletePlan code => [(.plan code, .update)]
  | .putContent row => [(.title .movie row.id, .noKeyUpdate)]
  | .putSeries id => [(.title .series id, .noKeyUpdate)]
  | .deleteTitle title id => [(.title title id, .update)]

instance : Database Db Key Write where
  apply w d := w.apply d
  needs := Write.needs

@[simp] theorem apply_eq (w : Write) (d : Db) : Database.apply w d = w.apply d := rfl

@[simp] theorem needs_eq (w : Write) : Database.needs Db w = w.needs := rfl

/-! ## One row after a write -/

/-- The intent with the given id after a write. -/
def Write.onIntent (intentId : String) (row? : Option PaymentIntent) :
    Write → Option PaymentIntent
  | .insertIntent row => row?.or (if row.intentId = intentId then some row else none)
  | .resolveIntent copy outcome resolvedAt =>
      if intentId = copy.intentId then row?.map (copy.resolve outcome resolvedAt) else row?
  | .replaceQr copy md5 qr merchant at_ =>
      if intentId = copy.intentId then row?.map (copy.withQr md5 qr merchant at_) else row?
  | .claimIntent row user =>
      if intentId = row.intentId then row?.map fun row => row.claimed user else row?
  | .clearTitle title intentId' =>
      if intentId = intentId' then row?.map fun row => row.cleared title else row?
  | .deleteIntent intentId' => if intentId = intentId' then none else row?
  | _ => row?

def Write.onReceipt (title : Title) (intentId : String) (row? : Option Receipt) :
    Write → Option Receipt
  | .insertReceipt title' row =>
      if title = title' then row?.or (if row.intentId = intentId then some row else none)
      else row?
  | .claimReceipt title' intentId' user =>
      if title = title' ∧ intentId = intentId' then row?.map fun row => row.claimed user
      else row?
  | .deleteReceipt title' intentId' =>
      if title = title' ∧ intentId = intentId' then none else row?
  | _ => row?

def Write.onSubscription (userId : Uuid) (row? : Option Subscription) :
    Write → Option Subscription
  | .insertSubscription row => row?.or (if row.userId = userId then some row else none)
  | .updateSubscription row => if userId = row.userId then row?.map fun _ => row else row?
  | _ => row?

def Write.onPayment (intentId : String) (row? : Option SubscriptionPayment) :
    Write → Option SubscriptionPayment
  | .insertPayment row => row?.or (if row.intentId = intentId then some row else none)
  | _ => row?

namespace PaymentIntent

@[simp] theorem resolve_intentId (copy row : PaymentIntent) (outcome : Outcome)
    (at_ : Option Instant) : (copy.resolve outcome at_ row).intentId = row.intentId := rfl

@[simp] theorem withQr_intentId (copy row : PaymentIntent) (md5 qr : String)
    (merchant : Option String) (at_ : Instant) :
    (copy.withQr md5 qr merchant at_ row).intentId = row.intentId := rfl

@[simp] theorem claimed_intentId (row : PaymentIntent) (user : Uuid) :
    (row.claimed user).intentId = row.intentId := rfl

@[simp] theorem cleared_intentId (row : PaymentIntent) (title : Title) :
    (row.cleared title).intentId = row.intentId := by
  cases title <;> rfl

end PaymentIntent

theorem Db.intent?_mapIntent {d : Db} {intentId intentId' : String}
    {f : PaymentIntent → PaymentIntent}
    (hf : ∀ row, row.intentId = intentId → (f row).intentId = intentId) :
    (d.mapIntent intentId f).intent? intentId' =
      if intentId' = intentId then (d.intent? intentId').map f else d.intent? intentId' :=
  lookup_modify hf

theorem Write.intent?_apply (w : Write) (d : Db) (intentId : String) :
    (w.apply d).intent? intentId = w.onIntent intentId (d.intent? intentId) := by
  cases w with
  | insertIntent row => exact lookup_append
  | resolveIntent copy outcome resolvedAt =>
      exact Db.intent?_mapIntent (fun _ h => h)
  | replaceQr copy md5 qr merchant at_ =>
      exact Db.intent?_mapIntent (fun _ h => h)
  | claimIntent row user => exact Db.intent?_mapIntent (fun _ h => h)
  | clearTitle title intentId' => exact Db.intent?_mapIntent (fun _ h => by simpa using h)
  | deleteIntent intentId' => exact lookup_remove
  | insertReceipt title | claimReceipt title | deleteReceipt title =>
      simp [Write.apply, Write.onIntent, Db.intent?]
  | deleteTitle title => cases title <;> rfl
  | _ => rfl

theorem Write.receipt?_apply (w : Write) (d : Db) (title : Title) (intentId : String) :
    (w.apply d).receipt? title intentId =
      w.onReceipt title intentId (d.receipt? title intentId) := by
  cases w with
  | insertReceipt title' row =>
      simp only [Write.apply, Write.onReceipt, Db.receipt?, Db.receipts_mapReceipts]
      split
      · exact lookup_append
      · rfl
  | claimReceipt title' row user =>
      simp only [Write.apply, Write.onReceipt, Db.receipt?, Db.receipts_mapReceipts]
      by_cases h : title = title' <;> simp [h, lookup_modify, Receipt.claimed]
  | deleteReceipt title' intentId' =>
      simp only [Write.apply, Write.onReceipt, Db.receipt?, Db.receipts_mapReceipts]
      by_cases h : title = title' <;> simp [h, lookup_remove]
  | deleteTitle title' => cases title' <;> cases title <;> rfl
  | _ => cases title <;> rfl

theorem Write.subscription?_apply (w : Write) (d : Db) (userId : Uuid) :
    (w.apply d).subscription? userId = w.onSubscription userId (d.subscription? userId) := by
  cases w with
  | insertSubscription row => exact lookup_append
  | updateSubscription row => exact lookup_modify fun _ _ => rfl
  | insertReceipt title | claimReceipt title | deleteReceipt title =>
      simp [Write.apply, Write.onSubscription, Db.subscription?]
  | deleteTitle title => cases title <;> rfl
  | _ => rfl

theorem Write.payment?_apply (w : Write) (d : Db) (intentId : String) :
    (w.apply d).payment? intentId = w.onPayment intentId (d.payment? intentId) := by
  cases w with
  | insertPayment row => exact lookup_append
  | insertReceipt title | claimReceipt title | deleteReceipt title =>
      simp [Write.apply, Write.onPayment, Db.payment?]
  | deleteTitle title => cases title <;> rfl
  | _ => rfl

/-! ## What a lock protects -/

/-- The data a lock on a row protects, in every mode above `FOR KEY SHARE`.  A
lock on a user's row, the strongest mode, also keeps a first subscription of
that user away. -/
def Protected : Key → LockMode → Db → Db → Prop
  | .intent intentId, mode, d, d' => mode ≠ .keyShare → d.intent? intentId = d'.intent? intentId
  | .receipt title intentId, mode, d, d' =>
      mode ≠ .keyShare → d.receipt? title intentId = d'.receipt? title intentId
  | .subscription userId, mode, d, d' =>
      mode ≠ .keyShare → d.subscription? userId = d'.subscription? userId
  | .payment intentId, mode, d, d' => mode ≠ .keyShare → d.payment? intentId = d'.payment? intentId
  | .user userId, mode, d, d' =>
      mode = .update → d.subscription? userId = none → d'.subscription? userId = none
  | _, _, _, _ => True

/-- A write holds no lock on the key that keeps others from writing it. -/
def Write.Spares (w : Write) (k : Key) : Prop :=
  (k, .noKeyUpdate) ∉ w.needs ∧ (k, .update) ∉ w.needs

theorem Write.spares_of_compatible {w : Write} {k : Key} {mode : LockMode}
    (hmode : mode ≠ .keyShare) (h : ∀ m', (k, m') ∈ w.needs → mode.conflicts m' = false) :
    w.Spares k := by
  constructor <;> intro hmem <;> have := h _ hmem <;> cases mode <;>
    simp [LockMode.conflicts] at this hmode

theorem Write.onIntent_of_spares {w : Write} {intentId : String}
    (h : w.Spares (.intent intentId)) (row? : Option PaymentIntent) :
    w.onIntent intentId row? = row? := by
  cases w <;> simp_all [Write.onIntent, Write.Spares, Write.needs, eq_comm]

theorem Write.onReceipt_of_spares {w : Write} {title : Title} {intentId : String}
    (h : w.Spares (.receipt title intentId)) (row? : Option Receipt) :
    w.onReceipt title intentId row? = row? := by
  cases w <;> simp_all [Write.onReceipt, Write.Spares, Write.needs, eq_comm]

theorem Write.onSubscription_of_spares {w : Write} {userId : Uuid}
    (h : w.Spares (.subscription userId)) (row? : Option Subscription) :
    w.onSubscription userId row? = row? := by
  cases w <;> simp_all [Write.onSubscription, Write.Spares, Write.needs, eq_comm]

theorem Write.onPayment_of_spares {w : Write} {intentId : String}
    (h : w.Spares (.payment intentId)) (row? : Option SubscriptionPayment) :
    w.onPayment intentId row? = row? := by
  cases w <;> simp_all [Write.onPayment, Write.Spares, Write.needs, eq_comm]

/-- Only an insert that key-shares the user's row gives a user a first subscription. -/
theorem Write.onSubscription_none {w : Write} {userId : Uuid}
    (h : (.user userId, .keyShare) ∉ w.needs) : w.onSubscription userId none = none := by
  cases w <;> simp_all [Write.onSubscription, Write.needs, eq_comm]

theorem Write.onSubscription_eq_none {w : Write} {userId : Uuid} {row? row?' : Option Subscription}
    (h : row? = none → row?' = none) (h' : w.onSubscription userId row? = none) :
    w.onSubscription userId row?' = none := by
  cases w with
  | updateSubscription row =>
      simp only [Write.onSubscription] at h' ⊢
      split at h'
      · simp_all
      · simp_all
  | _ => simp_all [Write.onSubscription]

instance : LawfulDatabase Db Key Write where
  Agree := Protected
  agree_refl k mode d := by
    cases k <;> simp [Protected]
  agree_trans {k mode d d' d''} h h' := by
    cases k <;> simp only [Protected] at h h' ⊢
    case user => exact fun hm hn => h' hm (h hm hn)
    all_goals exact fun hm => (h hm).trans (h' hm)
  agree_congr {k mode d d'} w h := by
    cases k <;> simp only [Protected] at h ⊢
    case intent intentId =>
      intro hm
      rw [apply_eq, apply_eq, Write.intent?_apply, Write.intent?_apply, h hm]
    case receipt title intentId =>
      intro hm
      rw [apply_eq, apply_eq, Write.receipt?_apply, Write.receipt?_apply, h hm]
    case subscription userId =>
      intro hm
      rw [apply_eq, apply_eq, Write.subscription?_apply, Write.subscription?_apply, h hm]
    case payment intentId =>
      intro hm
      rw [apply_eq, apply_eq, Write.payment?_apply, Write.payment?_apply, h hm]
    case user userId =>
      intro hm hn
      rw [apply_eq, Write.subscription?_apply] at hn ⊢
      exact Write.onSubscription_eq_none (h hm) hn
  agree_apply w d k mode h := by
    have hspares : mode ≠ .keyShare → w.Spares k := fun hm => Write.spares_of_compatible hm h
    cases k <;> simp only [Protected]
    case intent intentId =>
      intro hm
      rw [apply_eq, Write.intent?_apply, Write.onIntent_of_spares (hspares hm)]
    case receipt title intentId =>
      intro hm
      rw [apply_eq, Write.receipt?_apply, Write.onReceipt_of_spares (hspares hm)]
    case subscription userId =>
      intro hm
      rw [apply_eq, Write.subscription?_apply, Write.onSubscription_of_spares (hspares hm)]
    case payment intentId =>
      intro hm
      rw [apply_eq, Write.payment?_apply, Write.onPayment_of_spares (hspares hm)]
    case user userId =>
      intro hm hn
      subst hm
      have hshare : (.user userId, .keyShare) ∉ w.needs := fun hmem => by
        simpa using h _ hmem
      rw [apply_eq, Write.subscription?_apply, hn, Write.onSubscription_none hshare]

end MovieApi.Billing
