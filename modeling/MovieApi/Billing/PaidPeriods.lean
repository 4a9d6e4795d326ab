import MovieApi.Billing.GrantedPayments
import MovieApi.Billing.PaidTerms
import MovieApi.ReadCommitted.Commits

/-!
# Paid periods

What a committed fulfilment does to the tables: it settles one intent that was open,
makes the grant of that intent unless it is made, and lets the paid period of the
buyer end later.  A list of such commits fulfils no intent twice, and every paid
period ends where the fulfilments, taken in their order, put it.
-/

namespace MovieApi.Billing

open ReadCommitted Sql

/-! ## Fulfilments -/

/-- An intent as it was locked, and the moment it was fulfilled. -/
structure Fulfilment where
  intent : PaymentIntent
  at_ : Instant
deriving DecidableEq, Repr

namespace Fulfilment

variable (f : Fulfilment)

/-- The id of the fulfilled intent. -/
def id : String := f.intent.intentId

/-- The intent object that the grant is made from. -/
def settled : PaymentIntent := f.intent.resolved .succeeded (some f.at_)

/-- The status write. -/
def write : Write := .resolveIntent f.intent .succeeded (some f.at_)

end Fulfilment

def Write.fulfilment : Write → Option Fulfilment
  | .resolveIntent copy .succeeded (some at_) => some ⟨copy, at_⟩
  | _ => none

/-- The fulfilments that commits publish, in their order. -/
def fulfilments (xs : List (Tid × Commit Write Info)) : List Fulfilment :=
  xs.flatMap fun x => x.2.writes.filterMap Write.fulfilment

/-- The later of the end of the paid period and now; now where there is no period. -/
def laterEnd (end? : Option Instant) (now : Instant) : Instant :=
  match end? with
  | some end_ => max end_ now
  | none => now

theorem periodStart_eq (subscription? : Option Subscription) (now : Instant) :
    periodStart subscription? now =
      laterEnd (subscription?.map Subscription.currentPeriodEnd) now := by
  cases subscription? with
  | none => rfl
  | some row =>
      simp only [periodStart, laterEnd, Option.map_some]
      split
      · next h => exact (max_eq_left (le_of_lt h)).symm
      · next h => exact (max_eq_right (not_lt.1 h)).symm

/-- The days an intent pays for. -/
def Db.paidDays (d : Db) (intent : PaymentIntent) : Int :=
  match d.planFor intent with
  | .ok plan => billingIntervalDays intent plan
  | .error _ => 0

/-- Where a fulfilment puts the end of the buyer's paid period. -/
def Db.extend (d : Db) (end? : Option Instant) (f : Fulfilment) : Option Instant :=
  some (laterEnd end? f.at_ + days (d.paidDays f.intent))

/-- The fulfilments that a user's subscription is extended by: those of subscription
intents of the user that no payment had been booked for. -/
def Db.extensions (d : Db) (user : Uuid) (fs : List Fulfilment) : List Fulfilment :=
  fs.filter fun f => decide (f.intent.kind = .sub ∧ f.intent.userId = some user) &&
    (d.payment? f.id).isNone

def Db.periodEnd? (d : Db) (user : Uuid) : Option Instant :=
  (d.subscription? user).map Subscription.currentPeriodEnd

/-! ## The grant of a fulfilment -/

/-- The flush of a user's subscription: an insert of the first one, else an update. -/
def savingWrite (subscription? : Option Subscription) (row : Subscription) : Write :=
  match subscription? with
  | none => .insertSubscription row
  | some _ => .updateSubscription row

/-- The row that is flushed. -/
def savedRow (subscription? : Option Subscription) (newId user : Uuid) (plan : String)
    (now periodEnd : Instant) : Subscription :=
  match subscription? with
  | none => ⟨newId, user, plan, .active, now, periodEnd⟩
  | some row => row.extended plan now periodEnd

@[simp] theorem savedRow_currentPeriodEnd (subscription? : Option Subscription) (newId user : Uuid)
    (plan : String) (now periodEnd : Instant) :
    (savedRow subscription? newId user plan now periodEnd).currentPeriodEnd = periodEnd := by
  cases subscription? <;> rfl

theorem savedRow_userId {d : Db} {user : Uuid} (newId : Uuid) (plan : String)
    (now periodEnd : Instant) :
    (savedRow (d.subscription? user) newId user plan now periodEnd).userId = user := by
  cases h : d.subscription? user with
  | none => rfl
  | some row =>
      have huser : row.userId = user := key_of_lookup h
      exact huser

/-- The writes of a grant of a title, none where it is made or there is no title. -/
inductive TitleGrant (d : Db) (f : Fulfilment) : List Write → Prop
  | nothing (h : f.intent.grantable = true → d.granted f.intent.kind f.id = true) :
      TitleGrant d f []
  | receipt {title : Title} {titleId : Uuid} (bank : Option String)
      (hkind : f.intent.kind = title.kind) (hfree : d.receipt? title f.id = none) :
      TitleGrant d f [.insertReceipt title (f.settled.receipt titleId bank)]

/-- The writes of the grant of a subscription, to a user whose subscription is found. -/
inductive SubscriptionGrant (plan? : PaymentIntent → Except Err SubscriptionPlan) (f : Fulfilment)
    (user : Uuid) (subscription? : Option Subscription) : List Write → Prop
  | saved {plan : SubscriptionPlan} {periodEnd : Instant} (newId : Uuid) (bank : Option String)
      (hplan : plan? f.intent = .ok plan)
      (hend : periodEnd = periodStart subscription? f.at_ +
        days (billingIntervalDays f.intent plan)) :
      SubscriptionGrant plan? f user subscription?
        [savingWrite subscription?
            (savedRow subscription? newId user plan.code f.at_ periodEnd),
          .insertPayment (f.settled.payment
            (savedRow subscription? newId user plan.code f.at_ periodEnd) periodEnd bank)]

/-- What a fulfilment that finds `d` writes after the status; plans are looked up in
the tables the run started with. -/
inductive GrantWrites (start d : Db) (f : Fulfilment) (ws : List Write) : Prop
  | title (h : TitleGrant d f ws)
  | subscription {user : Uuid} (hkind : f.intent.kind = .sub)
      (huser : f.intent.userId = some user) (hfree : d.payment? f.id = none)
      (h : SubscriptionGrant start.planFor f user (d.subscription? user) ws)

/-- What the commit of a fulfilling session publishes: nothing, or one fulfilment. -/
inductive Publishes (start d : Db) : List Write → Prop
  | nothing : Publishes start d []
  | fulfilment {f : Fulfilment} {ws : List Write} (hstored : d.intent? f.id = some f.intent)
      (hopen : f.intent.status ≠ .succeeded) (h : GrantWrites start d f ws) :
      Publishes start d (f.write :: ws)

/-! ## What the writes leave -/

section

variable {start d d' : Db} {f : Fulfilment} {ws : List Write} {user : Uuid} {row : Subscription}

/-- The grants that the tables hold for an intent. -/
structure SameGrants (intentId : String) (d d' : Db) : Prop where
  receipts : ∀ title, d'.receipt? title intentId = d.receipt? title intentId
  payment : d'.payment? intentId = d.payment? intentId

theorem SameGrants.refl (intentId : String) (d : Db) : SameGrants intentId d d :=
  ⟨fun _ => rfl, rfl⟩

theorem SameGrants.trans {intentId : String} {d'' : Db} (h : SameGrants intentId d d')
    (h' : SameGrants intentId d' d'') : SameGrants intentId d d'' :=
  ⟨fun title => (h'.receipts title).trans (h.receipts title), h'.payment.trans h.payment⟩

theorem SameGrants.granted {intentId : String} (h : SameGrants intentId d d') (kind : Kind) :
    d'.granted kind intentId = d.granted kind intentId := by
  cases kind with
  | single => exact congrArg Option.isSome (h.receipts .movie)
  | series => exact congrArg Option.isSome (h.receipts .series)
  | sub => exact congrArg Option.isSome h.payment

theorem subscription?_savingWrite (huser : row.userId = user) (user' : Uuid) :
    ((savingWrite (d.subscription? user) row).apply d).subscription? user' =
      if user' = user then some row else d.subscription? user' := by
  rw [Write.subscription?_apply]
  cases h : d.subscription? user with
  | none =>
      simp only [savingWrite, Write.onSubscription, huser]
      by_cases hu : user' = user
      · simp [hu, h]
      · simp [hu, Ne.symm hu]
  | some found =>
      simp only [savingWrite, Write.onSubscription, huser]
      by_cases hu : user' = user
      · simp [hu, h]
      · simp [hu]

theorem unique_savingWrite (huser : row.userId = user)
    (hd : Unique Subscription.userId d.subscriptions) :
    Unique Subscription.userId
      ((savingWrite (d.subscription? user) row).apply d).subscriptions := by
  cases h : d.subscription? user with
  | none => exact hd.append (huser ▸ h)
  | some found => exact hd.modify fun _ h => h.symm ▸ rfl

/-- A write that makes a grant. -/
def Write.ofGrant : Write → Prop
  | .insertReceipt _ _ => True
  | .insertSubscription _ => True
  | .updateSubscription _ => True
  | .insertPayment _ => True
  | _ => False

theorem savingWrite_ofGrant (subscription? : Option Subscription) (row : Subscription) :
    (savingWrite subscription? row).ofGrant := by
  cases subscription? <;> trivial

theorem GrantWrites.ofGrant (h : GrantWrites start d f ws) : ∀ w ∈ ws, w.ofGrant := by
  intro w hw
  cases h with
  | title h =>
      cases h with
      | nothing => cases hw
      | receipt => rw [List.mem_singleton.1 hw]; trivial
  | subscription _ _ _ h =>
      cases h with
      | saved =>
          rcases List.mem_cons.1 hw with rfl | hw
          · exact savingWrite_ofGrant _ _
          · rw [List.mem_singleton.1 hw]
            trivial

theorem Write.ofGrant.keeps {w : Write} (h : w.ofGrant) (d : Db) :
    (w.apply d).intents = d.intents ∧ (w.apply d).plans = d.plans := by
  cases w with
  | insertReceipt title => cases title <;> exact ⟨rfl, rfl⟩
  | insertSubscription | updateSubscription | insertPayment => exact ⟨rfl, rfl⟩
  | _ => exact h.elim

theorem Write.ofGrant.fulfilment {w : Write} (h : w.ofGrant) : w.fulfilment = none := by
  cases w with
  | insertReceipt | insertSubscription | updateSubscription | insertPayment => rfl
  | _ => exact h.elim

theorem applyAll_ofGrant (h : ∀ w ∈ ws, w.ofGrant) (d : Db) :
    (applyAll ws d).intents = d.intents ∧ (applyAll ws d).plans = d.plans := by
  refine applyAll_induction (P := fun d' : Db => d'.intents = d.intents ∧ d'.plans = d.plans)
    ⟨rfl, rfl⟩ fun w hw d' hd' => ?_
  obtain ⟨hintents, hplans⟩ := (h w hw).keeps d'
  exact ⟨hintents.trans hd'.1, hplans.trans hd'.2⟩

/-- The commit of a fulfilment publishes that one. -/
theorem GrantWrites.fulfilments (h : GrantWrites start d f ws) :
    (f.write :: ws).filterMap Write.fulfilment = [f] := by
  have hnone : ws.filterMap Write.fulfilment = [] :=
    List.filterMap_eq_nil_iff.2 fun w hw => (h.ofGrant w hw).fulfilment
  rw [List.filterMap_cons, hnone]
  rfl

theorem receipts_savingWrite (subscription? : Option Subscription) (title : Title) :
    ((savingWrite subscription? row).apply d).receipts title = d.receipts title := by
  cases subscription? <;> cases title <;> rfl

theorem payments_savingWrite (subscription? : Option Subscription) :
    ((savingWrite subscription? row).apply d).subscriptionPayments = d.subscriptionPayments := by
  cases subscription? <;> rfl

/-- Another intent's grants stay as they are. -/
theorem GrantWrites.sameGrants (h : GrantWrites start d f ws) {intentId : String}
    (hne : intentId ≠ f.id) : SameGrants intentId d (applyAll ws d) := by
  cases h with
  | title h =>
      cases h with
      | nothing => exact .refl intentId d
      | @receipt title titleId bank hkind hfree =>
          have hid : (f.settled.receipt titleId bank).intentId ≠ intentId := Ne.symm hne
          refine ⟨fun title' => ?_, ?_⟩
          · rw [applyAll_cons, applyAll_nil, apply_eq, Write.receipt?_apply]
            simp [Write.onReceipt, hid]
          · rw [applyAll_cons, applyAll_nil, apply_eq, Write.payment?_apply]
            rfl
  | subscription _ _ _ h =>
      cases h with
      | @saved plan periodEnd newId bank hplan hend =>
          refine ⟨fun title => ?_, ?_⟩
          · simp only [applyAll_cons, applyAll_nil, apply_eq, Db.receipt?]
            exact congrArg (lookup _ _) (receipts_savingWrite _ title)
          · have hid : ∀ saved : Subscription,
                (f.settled.payment saved periodEnd bank).intentId ≠ intentId := fun _ => Ne.symm hne
            simp only [applyAll_cons, applyAll_nil, apply_eq]
            rw [Write.payment?_apply]
            simp only [Write.onPayment, hid, if_false, Option.or_none]
            exact congrArg (lookup _ _) (payments_savingWrite _)

/-- The grant of the intent is made, where there is one to make. -/
theorem GrantWrites.granted (h : GrantWrites start d f ws)
    (hgrantable : f.intent.grantable = true) :
    (applyAll ws d).granted f.intent.kind f.id = true := by
  have hkept : ∀ title intentId, .deleteReceipt title intentId ∉ ws := by
    intro title intentId hmem
    exact (h.ofGrant _ hmem).elim
  cases h with
  | title h =>
      cases h with
      | nothing h => exact h hgrantable
      | @receipt title titleId bank hkind hfree =>
          rw [hkind]
          exact granted_of_mem hkept (List.mem_singleton_self _) rfl d
  | subscription hkind _ _ h =>
      cases h with
      | saved =>
          rw [hkind]
          exact granted_of_mem hkept (List.mem_cons_of_mem _ (List.mem_singleton_self _)) rfl d

/-! ### Unique rows -/

/-- The unique indexes on grants and subscriptions. -/
structure Db.UniqueGrants (d : Db) : Prop where
  receipts : ∀ title, Unique Receipt.intentId (d.receipts title)
  payments : Unique SubscriptionPayment.intentId d.subscriptionPayments
  subscriptions : Unique Subscription.userId d.subscriptions

theorem GrantWrites.uniqueGrants (h : GrantWrites start d f ws) (hd : d.UniqueGrants) :
    (applyAll ws d).UniqueGrants := by
  cases h with
  | title h =>
      cases h with
      | nothing => exact hd
      | @receipt title titleId bank hkind hfree =>
          refine ⟨fun title' => ?_, ?_, ?_⟩
          · simp only [applyAll_cons, applyAll_nil, apply_eq, Write.apply, Db.receipts_mapReceipts]
            split
            · next ht => exact (hd.receipts title').append (ht ▸ hfree)
            · exact hd.receipts title'
          · simpa [Write.apply] using hd.payments
          · simpa [Write.apply] using hd.subscriptions
  | @subscription user hkind huser hfree h =>
      cases h with
      | @saved plan periodEnd newId bank hplan hend =>
          refine ⟨fun title => ?_, ?_, ?_⟩
          · have hreceipts := @receipts_savingWrite d
              (savedRow (d.subscription? user) newId user plan.code f.at_ periodEnd)
              (d.subscription? user) title
            have hsame : ∀ (d' : Db) row, ((Write.insertPayment row).apply d').receipts title =
                d'.receipts title := fun _ _ => by cases title <;> rfl
            rw [applyAll_cons, applyAll_cons, applyAll_nil, apply_eq, apply_eq, hsame, hreceipts]
            exact hd.receipts title
          · have hpayments := @payments_savingWrite d
              (savedRow (d.subscription? user) newId user plan.code f.at_ periodEnd)
              (d.subscription? user)
            simp only [applyAll_cons, applyAll_nil, apply_eq, Write.apply] at hpayments ⊢
            rw [hpayments]
            exact hd.payments.append hfree
          · exact unique_savingWrite (savedRow_userId newId plan.code f.at_ periodEnd)
              hd.subscriptions

/-! ### Rows that fit their intent -/

/-- The grants in `d` of intents that `start` holds are of the intents' kinds. -/
structure Db.Fits (start d : Db) : Prop where
  receipts : ∀ intent ∈ start.intents, ∀ title, ∀ row ∈ d.receipts title,
    row.intentId = intent.intentId → intent.kind = title.kind
  payments : ∀ intent ∈ start.intents, ∀ row ∈ d.subscriptionPayments,
    row.intentId = intent.intentId → intent.kind = .sub

theorem GrantWrites.fits (h : GrantWrites start d f ws)
    (hunique : Unique PaymentIntent.intentId start.intents)
    (hstored : start.intent? f.id = some f.intent) (hd : start.Fits d) :
    start.Fits (applyAll ws d) := by
  have hsame : ∀ intent ∈ start.intents, f.id = intent.intentId → intent = f.intent := by
    intro intent hmem hid
    rw [hid, Db.intent?, lookup_of_mem hunique hmem, Option.some.injEq] at hstored
    exact hstored
  cases h with
  | title h =>
      cases h with
      | nothing => exact hd
      | @receipt title titleId bank hkind hfree =>
          refine ⟨fun intent hintent title' row hrow hid => ?_, ?_⟩
          · simp only [applyAll_cons, applyAll_nil, apply_eq, Write.apply,
              Db.receipts_mapReceipts] at hrow
            split at hrow
            · next ht =>
                rcases List.mem_append.1 hrow with hrow | hrow
                · exact hd.receipts intent hintent title' row hrow hid
                · rw [List.mem_singleton.1 hrow] at hid
                  rw [hsame intent hintent hid, hkind, ht]
            · exact hd.receipts intent hintent title' row hrow hid
          · simpa [Write.apply] using hd.payments
  | @subscription user hkind huser hfree h =>
      cases h with
      | @saved plan periodEnd newId bank hplan hend =>
          refine ⟨fun intent hintent title row hrow hid => ?_,
            fun intent hintent row hrow hid => ?_⟩
          · refine hd.receipts intent hintent title row ?_ hid
            rw [← receipts_savingWrite (d := d) (d.subscription? user) title]
            cases title <;> exact hrow
          · simp only [applyAll_cons, applyAll_nil, apply_eq, Write.apply] at hrow
            rcases List.mem_append.1 hrow with hrow | hrow
            · refine hd.payments intent hintent row ?_ hid
              rw [← payments_savingWrite (d := d) (d.subscription? user)]
              exact hrow
            · rw [List.mem_singleton.1 hrow] at hid
              rw [hsame intent hintent hid, hkind]

/-! ### The paid period -/

/-- A fulfilment extends the paid period of its buyer, where it books a payment. -/
theorem GrantWrites.periodEnd? (h : GrantWrites start d f ws) (user : Uuid) :
    (applyAll ws d).periodEnd? user =
      if f.intent.kind = .sub ∧ f.intent.userId = some user ∧ (d.payment? f.id).isNone then
        start.extend (d.periodEnd? user) f
      else d.periodEnd? user := by
  cases h with
  | title h =>
      cases h with
      | nothing h =>
          rw [if_neg]
          · rfl
          · rintro ⟨hkind, -, hfree⟩
            have hgranted := h (by simp [PaymentIntent.grantable, hkind])
            rw [hkind] at hgranted
            simp [Db.granted, Option.isNone_iff_eq_none.1 hfree] at hgranted
      | @receipt title titleId bank hkind hfree =>
          rw [if_neg]
          · simp [Db.periodEnd?, Db.subscription?, Write.apply]
          · rintro ⟨hsub, -⟩
            rw [hkind] at hsub
            cases title <;> cases hsub
  | @subscription buyer hkind huser hfree h =>
      cases h with
      | @saved plan periodEnd newId bank hplan hend =>
          have hsaved : (applyAll [savingWrite (d.subscription? buyer)
              (savedRow (d.subscription? buyer) newId buyer plan.code f.at_ periodEnd),
              .insertPayment (f.settled.payment (savedRow (d.subscription? buyer) newId buyer
                plan.code f.at_ periodEnd) periodEnd bank)] d).subscription? user =
              if user = buyer then
                some (savedRow (d.subscription? buyer) newId buyer plan.code f.at_ periodEnd)
              else d.subscription? user :=
            subscription?_savingWrite (savedRow_userId newId plan.code f.at_ periodEnd) user
          by_cases hu : user = buyer
          · subst hu
            rw [if_pos ⟨hkind, huser, by rw [hfree]; rfl⟩, Db.periodEnd?, hsaved, if_pos rfl,
              Option.map_some, savedRow_currentPeriodEnd, hend, periodStart_eq]
            simp [Db.extend, Db.paidDays, hplan, Db.periodEnd?]
          · rw [if_neg, Db.periodEnd?, hsaved, if_neg hu]
            · rfl
            · rintro ⟨-, hbuyer, -⟩
              exact hu (Option.some.inj (hbuyer.symm.trans huser))

/-- A payment is booked under a plan. -/
theorem GrantWrites.planned (h : GrantWrites start d f ws) (hkind : f.intent.kind = .sub)
    (hfree : d.payment? f.id = none) : ∃ plan, start.planFor f.intent = .ok plan := by
  cases h with
  | title h =>
      cases h with
      | nothing h =>
          have hgranted := h (by simp [PaymentIntent.grantable, hkind])
          rw [hkind] at hgranted
          simp [Db.granted, hfree] at hgranted
      | @receipt title titleId bank htitle _ =>
          rw [hkind] at htitle
          cases title <;> cases htitle
  | subscription _ _ _ h =>
      cases h with
      | saved _ _ hplan _ => exact ⟨_, hplan⟩

/-! ### The status -/

theorem TitleGrant.congr (h : TitleGrant d f ws) (hgrants : SameGrants f.id d d') :
    TitleGrant d' f ws := by
  cases h with
  | nothing h => exact .nothing fun hgrantable => (hgrants.granted _).trans (h hgrantable)
  | receipt bank hkind hfree => exact .receipt bank hkind ((hgrants.receipts _).trans hfree)

/-- The writes of a grant depend on the grants of the intent and on the subscription of
its buyer. -/
theorem GrantWrites.congr (h : GrantWrites start d f ws) (hgrants : SameGrants f.id d d')
    (hsubscription : ∀ user, f.intent.userId = some user →
      d'.subscription? user = d.subscription? user) : GrantWrites start d' f ws := by
  cases h with
  | title h => exact .title (h.congr hgrants)
  | subscription hkind huser hfree h =>
      refine .subscription hkind huser (hgrants.payment.trans hfree) ?_
      rw [hsubscription _ huser]
      exact h

theorem write_sameGrants (f : Fulfilment) (intentId : String) (d : Db) :
    SameGrants intentId d (f.write.apply d) :=
  ⟨fun title => by cases title <;> rfl, rfl⟩

theorem intent?_write (f : Fulfilment) (d : Db) (intentId : String) :
    (f.write.apply d).intent? intentId =
      if intentId = f.id then (d.intent? intentId).map (f.intent.resolve .succeeded (some f.at_))
      else d.intent? intentId :=
  Write.intent?_apply f.write d intentId

theorem GrantWrites.intent? (h : GrantWrites start d f ws) (intentId : String) :
    (applyAll (f.write :: ws) d).intent? intentId = (f.write.apply d).intent? intentId :=
  congrArg (lookup _ intentId) (applyAll_ofGrant h.ofGrant _).1

theorem GrantWrites.after_write (h : GrantWrites start d f ws) :
    GrantWrites start (f.write.apply d) f ws :=
  h.congr (write_sameGrants f f.id d) fun _ _ => rfl

end

/-! ## Lists of fulfilments -/

/-- The tables after the fulfilments, each of an intent that was open until then. -/
structure FulfilledBy (d : Db) (fs : List Fulfilment) (d' : Db) : Prop where
  distinct : (fs.map Fulfilment.id).Nodup
  stored : ∀ f ∈ fs, d.intent? f.id = some f.intent
  opened : ∀ f ∈ fs, f.intent.status ≠ .succeeded
  settled : ∀ f ∈ fs, d'.statusOf f.id = some .succeeded
  others : ∀ intentId, intentId ∉ fs.map Fulfilment.id →
    d'.intent? intentId = d.intent? intentId ∧ SameGrants intentId d d'
  granted : ∀ f ∈ fs, f.intent.grantable = true → d'.granted f.intent.kind f.id = true
  unique : d'.UniqueGrants
  fits : d.Fits d → d.Fits d'
  planned : ∀ user, ∀ f ∈ d.extensions user fs, ∃ plan, d.planFor f.intent = .ok plan
  periods : ∀ user, d'.periodEnd? user = (d.extensions user fs).foldl d.extend (d.periodEnd? user)

section

variable {d d' : Db} {fs : List Fulfilment} {f : Fulfilment} {ws : List Write}

theorem FulfilledBy.nil (hd : d.UniqueGrants) : FulfilledBy d [] d where
  distinct := List.nodup_nil
  stored _ h := by cases h
  opened _ h := by cases h
  settled _ h := by cases h
  others _ _ := ⟨rfl, .refl _ d⟩
  granted _ h := by cases h
  unique := hd
  fits := id
  planned _ _ h := by cases h
  periods _ := rfl

/-- An open intent has not been fulfilled before. -/
theorem FulfilledBy.fresh (h : FulfilledBy d fs d') (hstored : d'.intent? f.id = some f.intent)
    (hopen : f.intent.status ≠ .succeeded) : f.id ∉ fs.map Fulfilment.id := by
  intro hmem
  obtain ⟨g, hg, hid⟩ := List.mem_map.1 hmem
  have hsettled := h.settled g hg
  rw [hid, Db.statusOf, hstored, Option.map_some, Option.some.injEq] at hsettled
  exact hopen hsettled

theorem Db.extensions_append (d : Db) (user : Uuid) (fs gs : List Fulfilment) :
    d.extensions user (fs ++ gs) = d.extensions user fs ++ d.extensions user gs :=
  List.filter_append fs gs

/-- A single fulfilment extends the period of its buyer or none. -/
theorem Db.extensions_singleton (d : Db) (user : Uuid) (f : Fulfilment) :
    d.extensions user [f] =
      if f.intent.kind = .sub ∧ f.intent.userId = some user ∧ (d.payment? f.id).isNone then [f]
      else [] := by
  simp only [extensions, List.filter_cons, List.filter_nil, Bool.and_eq_true, decide_eq_true_eq,
    and_assoc]

/-- One more fulfilment. -/
theorem FulfilledBy.step (h : FulfilledBy d fs d')
    (hunique : Unique PaymentIntent.intentId d.intents)
    (hstored : d'.intent? f.id = some f.intent) (hopen : f.intent.status ≠ .succeeded)
    (hgrant : GrantWrites d d' f ws) : FulfilledBy d (fs ++ [f]) (applyAll (f.write :: ws) d') := by
  have hfresh : f.id ∉ fs.map Fulfilment.id := h.fresh hstored hopen
  obtain ⟨hrow, hgrants⟩ := h.others f.id hfresh
  have hfirst : d.intent? f.id = some f.intent := hrow.symm.trans hstored
  have hafter : GrantWrites d (f.write.apply d') f ws := hgrant.after_write
  have hintent : ∀ intentId, (applyAll (f.write :: ws) d').intent? intentId =
      if intentId = f.id then (d'.intent? intentId).map (f.intent.resolve .succeeded (some f.at_))
      else d'.intent? intentId := fun intentId =>
    (hgrant.intent? intentId).trans (intent?_write f d' intentId)
  have hother : ∀ intentId, intentId ≠ f.id →
      (applyAll (f.write :: ws) d').intent? intentId = d'.intent? intentId ∧
        SameGrants intentId d' (applyAll (f.write :: ws) d') := fun intentId hne =>
    ⟨by rw [hintent, if_neg hne],
      (write_sameGrants f intentId d').trans (hafter.sameGrants hne)⟩
  have hne : ∀ g ∈ fs, g.id ≠ f.id := fun g hg hid =>
    hfresh (List.mem_map.2 ⟨g, hg, hid⟩)
  have hcase : ∀ {P : Fulfilment → Prop}, (∀ g ∈ fs, P g) → P f → ∀ g ∈ fs ++ [f], P g := by
    intro P hold hnew g hg
    rcases List.mem_append.1 hg with hg | hg
    · exact hold g hg
    · exact List.mem_singleton.1 hg ▸ hnew
  refine ⟨?_, hcase h.stored hfirst, hcase h.opened hopen, hcase (fun g hg => ?_) ?_,
    fun intentId hmem => ?_, hcase (fun g hg hgrantable => ?_) hafter.granted,
    hafter.uniqueGrants ⟨h.unique.receipts, h.unique.payments, h.unique.subscriptions⟩,
    fun hfits => hafter.fits hunique hfirst ⟨(h.fits hfits).receipts, (h.fits hfits).payments⟩,
    fun user g hg => ?_, fun user => ?_⟩
  · rw [List.map_append, List.nodup_append]
    refine ⟨h.distinct, List.nodup_singleton _, fun a ha b hb hab => ?_⟩
    rw [List.map_singleton, List.mem_singleton] at hb
    exact hfresh (hb ▸ hab ▸ ha)
  · rw [Db.statusOf, (hother g.id (hne g hg)).1]
    exact h.settled g hg
  · rw [Db.statusOf, hintent, if_pos rfl, hstored]
    rfl
  · rw [List.map_append, List.mem_append, not_or, List.map_singleton, List.mem_singleton] at hmem
    obtain ⟨hrow', hgrants'⟩ := h.others intentId hmem.1
    obtain ⟨hrow'', hgrants''⟩ := hother intentId hmem.2
    exact ⟨hrow''.trans hrow', hgrants'.trans hgrants''⟩
  · rw [(hother g.id (hne g hg)).2.granted]
    exact h.granted g hg hgrantable
  · rw [Db.extensions_append, List.mem_append] at hg
    rcases hg with hg | hg
    · exact h.planned user g hg
    · rw [Db.extensions_singleton] at hg
      split at hg
      · next hext =>
          rw [List.mem_singleton.1 hg]
          rw [← hgrants.payment] at hext
          exact hgrant.planned hext.1 (Option.isNone_iff_eq_none.1 hext.2.2)
      · cases hg
  · have hperiod := hafter.periodEnd? user
    rw [show (f.write.apply d').payment? f.id = d.payment? f.id from hgrants.payment] at hperiod
    rw [applyAll_cons, apply_eq, hperiod, Db.extensions_append, List.foldl_append, ← h.periods,
      Db.extensions_singleton]
    split
    · rfl
    · rfl

end

end MovieApi.Billing
