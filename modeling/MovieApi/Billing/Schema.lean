import MovieApi.Sql.OrderBy
import MovieApi.Sql.Table

/-!
# The billing tables

The rows that checkout, settlement and entitlement read and write.  Prices are
in US cents, points in time in microseconds.
-/

namespace MovieApi.Billing

open Sql

abbrev Uuid := Nat

abbrev Instant := Int

def minutes (n : Int) : Int := n * 60000000

def days (n : Int) : Int := n * 86400000000

/-! ## Rows -/

inductive Method where
  | baray | bakong
deriving DecidableEq, Repr

inductive Kind where
  | single | series | sub
deriving DecidableEq, Repr

/-- The values `payment_intents_status_check` allows. -/
inductive Status where
  | pending | succeeded | failed | expired | superseded
deriving DecidableEq, Repr

def Status.text : Status → String
  | .pending => "pending"
  | .succeeded => "succeeded"
  | .failed => "failed"
  | .expired => "expired"
  | .superseded => "superseded"

structure PaymentIntent where
  intentId : String
  orderId : String
  userId : Option Uuid
  guestId : Option String
  method : Method
  bakongMd5 : Option String
  bakongPrevMd5 : Option String
  bakongQr : Option String
  bakongMerchantName : Option String
  bakongQrCreatedAt : Option Instant
  kind : Kind
  contentId : Option Uuid
  seriesId : Option Uuid
  planCode : Option String
  planIntervalDays : Option Int
  amountUsd : Int
  status : Status
  createdAt : Instant
  resolvedAt : Option Instant
deriving DecidableEq, Repr

/-- What a one-time purchase unlocks. -/
inductive Title where
  | movie | series
deriving DecidableEq, Repr

def Title.kind : Title → Kind
  | .movie => .single
  | .series => .series

/-- The reference an intent for this kind of title carries. -/
def PaymentIntent.titleId (intent : PaymentIntent) : Title → Option Uuid
  | .movie => intent.contentId
  | .series => intent.seriesId

/-- A row of `purchases` (`titleId` is its `content_id`) or of
`series_purchases` (its `series_id`). -/
structure Receipt where
  userId : Option Uuid
  guestId : Option String
  titleId : Uuid
  intentId : String
  orderId : String
  bank : Option String
  amountUsd : Int
deriving DecidableEq, Repr

inductive SubscriptionStatus where
  | active | grace | expired
deriving DecidableEq, Repr

structure Subscription where
  id : Uuid
  userId : Uuid
  plan : String
  status : SubscriptionStatus
  currentPeriodStart : Instant
  currentPeriodEnd : Instant
deriving DecidableEq, Repr

structure SubscriptionPayment where
  subscriptionId : Uuid
  intentId : String
  orderId : String
  bank : Option String
  amountUsd : Int
  periodExtendedTo : Instant
deriving DecidableEq, Repr

structure SubscriptionPlan where
  code : String
  priceUsd : Int
  billingIntervalDays : Int
  isActive : Bool
  sortOrder : Int
  createdAt : Instant
deriving DecidableEq, Repr

inductive Role where
  | user | admin
deriving DecidableEq, Repr

structure User where
  id : Uuid
  email : String
  fullName : Option String
  role : Role
deriving DecidableEq, Repr

inductive ContentType where
  | single | episode | podcast
deriving DecidableEq, Repr

structure Content where
  id : Uuid
  type : ContentType
  seriesId : Option Uuid
  title : String
  isPublished : Bool
  isFree : Bool
  priceUsd : Option Int
deriving DecidableEq, Repr

structure PaymentApproval where
  intentId : String
  adminUserId : Uuid
  bank : String
deriving DecidableEq, Repr

structure WebhookEvent where
  id : Nat
  receivedAt : Instant
  processedAt : Option Instant
  failed : Bool
deriving DecidableEq, Repr

/-! ## Tables -/

structure Db where
  users : List User
  contents : List Content
  series : List Uuid
  plans : List SubscriptionPlan
  intents : List PaymentIntent
  purchases : List Receipt
  seriesPurchases : List Receipt
  subscriptions : List Subscription
  subscriptionPayments : List SubscriptionPayment
  approvals : List PaymentApproval
  webhookEvents : List WebhookEvent
deriving DecidableEq, Repr

namespace Db

def empty : Db := ⟨[], [], [], [], [], [], [], [], [], [], []⟩

def receipts (d : Db) : Title → List Receipt
  | .movie => d.purchases
  | .series => d.seriesPurchases

def mapReceipts (d : Db) (title : Title) (f : List Receipt → List Receipt) : Db :=
  match title with
  | .movie => { d with purchases := f d.purchases }
  | .series => { d with seriesPurchases := f d.seriesPurchases }

def user? (d : Db) (id : Uuid) : Option User := lookup User.id id d.users

def content? (d : Db) (id : Uuid) : Option Content := lookup Content.id id d.contents

def plan? (d : Db) (code : String) : Option SubscriptionPlan :=
  lookup SubscriptionPlan.code code d.plans

def intent? (d : Db) (intentId : String) : Option PaymentIntent :=
  lookup PaymentIntent.intentId intentId d.intents

def receipt? (d : Db) (title : Title) (intentId : String) : Option Receipt :=
  lookup Receipt.intentId intentId (d.receipts title)

def subscription? (d : Db) (userId : Uuid) : Option Subscription :=
  lookup Subscription.userId userId d.subscriptions

def payment? (d : Db) (intentId : String) : Option SubscriptionPayment :=
  lookup SubscriptionPayment.intentId intentId d.subscriptionPayments

def hasTitle (d : Db) : Title → Uuid → Bool
  | .movie, id => (d.content? id).isSome
  | .series, id => decide (id ∈ d.series)

@[simp] theorem receipts_mapReceipts (d : Db) (title title' : Title)
    (f : List Receipt → List Receipt) :
    (d.mapReceipts title f).receipts title' =
      if title' = title then f (d.receipts title') else d.receipts title' := by
  cases title <;> cases title' <;> rfl

@[simp] theorem intents_mapReceipts (d : Db) (title : Title) (f : List Receipt → List Receipt) :
    (d.mapReceipts title f).intents = d.intents := by cases title <;> rfl

@[simp] theorem subscriptions_mapReceipts (d : Db) (title : Title)
    (f : List Receipt → List Receipt) :
    (d.mapReceipts title f).subscriptions = d.subscriptions := by cases title <;> rfl

@[simp] theorem subscriptionPayments_mapReceipts (d : Db) (title : Title)
    (f : List Receipt → List Receipt) :
    (d.mapReceipts title f).subscriptionPayments = d.subscriptionPayments := by
  cases title <;> rfl

end Db

/-! ## The partial unique indexes on pending Bakong intents -/

/-- An entry of `uq_pending_bakong_movie_user`, `…_movie_guest`,
`…_series_user`, `…_series_guest` or `…_sub_user_plan`. -/
inductive PendingKey where
  | titleUser (title : Title) (user titleId : Uuid)
  | titleGuest (title : Title) (guest : String) (titleId : Uuid)
  | subUserPlan (user : Uuid) (plan : String)
deriving DecidableEq, Repr

/-- The entries of a row whose kind is for a title. -/
def PaymentIntent.titleKeys (intent : PaymentIntent) (title : Title) : List PendingKey :=
  match intent.titleId title with
  | none => []
  | some id =>
      (intent.userId.map fun user => PendingKey.titleUser title user id).toList ++
        (intent.guestId.map fun guest => PendingKey.titleGuest title guest id).toList

/-- The index entries of a row. -/
def PaymentIntent.pendingKeys (intent : PaymentIntent) : List PendingKey :=
  if intent.status = .pending ∧ intent.method = .bakong then
    match intent.kind with
    | .single => intent.titleKeys .movie
    | .series => intent.titleKeys .series
    | .sub =>
        match intent.userId, intent.planCode with
        | some user, some plan => [.subUserPlan user plan]
        | _, _ => []
  else []

/-- Some row has an entry for the key. -/
def Db.hasPending (d : Db) (key : PendingKey) : Bool :=
  d.intents.any fun row => decide (key ∈ row.pendingKeys)

/-! ## Constraints -/

/-- The keys and unique indexes the migrations declare. -/
structure Db.Legal (d : Db) : Prop where
  users : Unique User.id d.users
  contents : Unique Content.id d.contents
  plans : Unique SubscriptionPlan.code d.plans
  intents : Unique PaymentIntent.intentId d.intents
  orders : Unique PaymentIntent.orderId d.intents
  pending : ∀ row ∈ d.intents, ∀ row' ∈ d.intents, ∀ key,
    key ∈ row.pendingKeys → key ∈ row'.pendingKeys → row = row'
  md5s : ∀ row ∈ d.intents, ∀ row' ∈ d.intents, ∀ md5,
    row.bakongMd5 = some md5 → row'.bakongMd5 = some md5 → row = row'
  receipts : ∀ title, Unique Receipt.intentId (d.receipts title)
  receiptOrders : ∀ title, Unique Receipt.orderId (d.receipts title)
  subscriptions : Unique Subscription.userId d.subscriptions
  payments : Unique SubscriptionPayment.intentId d.subscriptionPayments
  paymentOrders : Unique SubscriptionPayment.orderId d.subscriptionPayments

end MovieApi.Billing
