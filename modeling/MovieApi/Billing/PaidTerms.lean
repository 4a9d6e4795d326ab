import MovieApi.Billing.Approvals
import MovieApi.ReadCommitted.Alone

/-!
# The terms of a paid subscription

The days a subscription intent pays for are kept on the intent itself, the plan
only by its code.  A fulfilment looks the code up among the active plans and,
where it finds none, falls back on a plan of the same price or the default one:
the days are always those bought, the plan only while it is still active.
-/

namespace MovieApi.Billing

open ReadCommitted ReadCommitted.Prog Sql

/-! ## The plan a fulfilment resolves -/

def Db.activePlan? (d : Db) (code : String) : Option SubscriptionPlan :=
  (d.plan? code).filter SubscriptionPlan.isActive

def Db.defaultPlan (d : Db) : Except Err SubscriptionPlan :=
  match d.activePlans.head? with
  | some plan => .ok plan
  | none => .error noActivePlan

def Db.planByAmount (d : Db) (intent : PaymentIntent) : Except Err SubscriptionPlan :=
  match d.activePlans.filter fun plan => plan.priceUsd = intent.amountUsd with
  | plan :: plans => .ok (longestPlan plan plans)
  | [] => d.defaultPlan

def Db.planFor (d : Db) (intent : PaymentIntent) : Except Err SubscriptionPlan :=
  match intent.codedPlan.bind d.activePlan? with
  | some plan => .ok plan
  | none => d.planByAmount intent

theorem mem_activePlans {d : Db} {plan : SubscriptionPlan} :
    plan ∈ d.activePlans ↔ plan ∈ d.plans ∧ plan.isActive = true := by
  simp [Db.activePlans, mem_orderBy]

theorem longestPlan_mem (plan : SubscriptionPlan) (plans : List SubscriptionPlan) :
    longestPlan plan plans ∈ plan :: plans := by
  unfold longestPlan
  induction plans generalizing plan with
  | nil => simp
  | cons next plans ih =>
      rw [List.foldl_cons]
      have hmem := ih (if plan.billingIntervalDays < next.billingIntervalDays then next else plan)
      rcases List.mem_cons.1 hmem with h | h
      · rw [h]
        split <;> simp
      · simp [h]

theorem Db.planByAmount_active {d : Db} {intent : PaymentIntent} {plan : SubscriptionPlan}
    (h : d.planByAmount intent = .ok plan) : plan ∈ d.plans ∧ plan.isActive = true := by
  rw [← mem_activePlans]
  unfold planByAmount at h
  split at h
  · next first plans hmatches =>
      obtain rfl := Except.ok.inj h
      have hmem := longestPlan_mem first plans
      rw [← hmatches] at hmem
      exact (List.mem_filter.1 hmem).1
  · unfold defaultPlan at h
    split at h
    · next first hfirst =>
        obtain rfl := Except.ok.inj h
        exact List.mem_of_head? hfirst
    · simp at h

/-- The plan of an intent is the one its code names exactly while that is active. -/
theorem Db.planFor_code {d : Db} (hplans : Sql.Unique SubscriptionPlan.code d.plans)
    {intent : PaymentIntent} {code : String} (hcode : intent.codedPlan = some code) :
    (∃ plan, d.planFor intent = .ok plan ∧ plan.code = code) ↔
      ∃ plan ∈ d.plans, plan.code = code ∧ plan.isActive = true := by
  have hactive {plan : SubscriptionPlan} (hmem : plan ∈ d.plans) (hcode : plan.code = code)
      (hactive : plan.isActive = true) : d.activePlan? code = some plan := by
    rw [activePlan?, plan?, ← hcode, lookup_of_mem hplans hmem]
    simp [hactive]
  constructor
  · rintro ⟨plan, hplan, hplanCode⟩
    unfold planFor at hplan
    rw [hcode, Option.bind_some] at hplan
    split at hplan
    · next found hfound =>
        obtain rfl := Except.ok.inj hplan
        obtain ⟨hlookup, hisActive⟩ := Option.filter_eq_some_iff.1 hfound
        exact ⟨found, mem_of_lookup hlookup, key_of_lookup hlookup, hisActive⟩
    · obtain ⟨hmem, hisActive⟩ := planByAmount_active hplan
      exact ⟨plan, hmem, hplanCode, hisActive⟩
  · rintro ⟨plan, hmem, hplanCode, hisActive⟩
    refine ⟨plan, ?_, hplanCode⟩
    rw [planFor, hcode, Option.bind_some, hactive hmem hplanCode hisActive]

section

variable {t : Tid} {d : Db} {e : World}

theorem resolveActivePlan_none : (resolveActivePlan none).Answers t d e d.defaultPlan := by
  refine .bind (.select _) ?_
  unfold Db.defaultPlan
  cases d.activePlans.head? with
  | some plan => exact Answers.ret plan
  | none => exact Answers.raise noActivePlan

theorem resolvePlanByAmount_answers (intent : PaymentIntent) :
    (resolvePlanByAmount intent).Answers t d e (d.planByAmount intent) := by
  refine .bind (.select _) ?_
  unfold Db.planByAmount
  cases d.activePlans.filter fun plan => decide (plan.priceUsd = intent.amountUsd) with
  | cons plan plans => exact Answers.ret (longestPlan plan plans)
  | nil => exact resolveActivePlan_none

theorem resolvePlanForSubscriptionIntent_answers (intent : PaymentIntent) :
    (resolvePlanForSubscriptionIntent intent).Answers t d e (d.planFor intent) := by
  unfold resolvePlanForSubscriptionIntent Db.planFor
  cases intent.codedPlan with
  | none => exact resolvePlanByAmount_answers intent
  | some code =>
      refine .bind (.select _) ?_
      rw [Option.bind_some, Db.activePlan?]
      cases Option.filter SubscriptionPlan.isActive (d.plan? code) with
      | some plan => exact Answers.ret plan
      | none => exact resolvePlanByAmount_answers intent

/-! ## The statements of a grant -/

theorem reference_answers {key : Key} {present : Db → Bool} (h : present d = true) :
    (reference key present).Answers t d e (.ok ()) := by
  refine Answers.bind (.lock _ _) (Answers.bind (.select _) ?_)
  rw [h, if_pos rfl]
  exact Answers.ret ()

theorem enterUnique_answers {key : Key} {taken : Db → Bool} (h : taken d = false) :
    (enterUnique key taken).Answers t d e (.ok ()) := by
  refine Answers.bind (.enter _ _) ?_
  rw [h, Bool.not_false, if_pos rfl]
  exact Answers.ret ()

theorem lockBuyer_answers (user : Option Uuid) : (lockBuyer user).Answers t d e (.ok ()) := by
  cases user with
  | none => exact Answers.ret ()
  | some user =>
      refine Answers.bind (.select _) ?_
      split
      · exact Answers.lock _ _
      · exact Answers.ret ()

theorem lockSubscription_answers (user : Option Uuid) :
    (lockSubscription user).Answers t d e (.ok (d.subscriptionsOf user).head?) := by
  refine Answers.bind (.select _) ?_
  cases h : (d.subscriptionsOf user).head? with
  | none => exact Answers.ret none
  | some row =>
      refine Answers.bind (.lock _ _) ?_
      rw [← h]
      exact Answers.select _

theorem alertTitle_answers (intent : PaymentIntent) :
    ∃ title, (alertTitle intent).Answers t d e (.ok title) := by
  unfold alertTitle
  split
  · next id _ _ =>
      cases h : (d.content? id).map Content.title with
      | none =>
          refine ⟨"content:" ++ toString id, Answers.bind (.select _) ?_⟩
          rw [h]
          exact Answers.ret _
      | some title =>
          refine ⟨if title = "" then "content:" ++ toString id else title,
            Answers.bind (.select _) ?_⟩
          rw [h]
          exact Answers.ret _
  · exact ⟨_, Answers.ret _⟩

theorem alertBuyer_answers (intent : PaymentIntent) :
    ∃ buyer, (alertBuyer intent).Answers t d e (.ok buyer) := by
  unfold alertBuyer
  split
  · next user _ =>
      cases h : d.user? user with
      | none =>
          refine ⟨"user:" ++ toString user, Answers.bind (.select _) ?_⟩
          rw [h]
          exact Answers.ret _
      | some row =>
          cases hname : row.fullName with
          | none =>
              refine ⟨row.email, Answers.bind (.select _) ?_⟩
              rw [h]
              simp only [hname]
              exact Answers.ret _
          | some name =>
              refine ⟨if name = "" then row.email else name ++ " <" ++ row.email ++ ">",
                Answers.bind (.select _) ?_⟩
              rw [h]
              simp only [hname]
              exact Answers.ret _
  · exact ⟨_, Answers.ret _⟩
  · exact ⟨_, Answers.ret _⟩

/-- Queueing the alert changes no table. -/
theorem notifyPaymentSucceeded_answers (intent : PaymentIntent) (bank : Option String) :
    (notifyPaymentSucceeded intent bank).Answers t d e (.ok ()) := by
  obtain ⟨title, htitle⟩ := alertTitle_answers (t := t) (d := d) (e := e) intent
  obtain ⟨buyer, hbuyer⟩ := alertBuyer_answers (t := t) (d := d) (e := e) intent
  have hmessage : (buildPaymentSucceededMessage intent bank).Answers t d e
      (.ok (paymentSucceededText intent bank title buyer)) :=
    Answers.bind htitle (Answers.bind hbuyer (Answers.ret _))
  exact Answers.bind hmessage (Answers.session _)

theorem insertPayment_yields {row : SubscriptionPayment} (hfree : d.payment? row.intentId = none)
    (horder : d.hasPaymentOrder row.orderId = false) :
    (insertPayment row).Yields t d e fun r d' e' =>
      r = .ok () ∧ d' = (Write.insertPayment row).apply d ∧ e' = e := by
  refine Answers.bind (.enter _ _) ?_
  rw [hfree, Option.isSome_none, Bool.not_false, if_pos rfl]
  exact Answers.bind (enterUnique_answers horder) (Yields.write ⟨rfl, rfl, rfl⟩)

/-- What the flush of a subscription leaves. -/
structure Saved (user : Uuid) (plan : String) (periodEnd : Instant) (row : Subscription)
    (d d' : Db) : Prop where
  saved : d'.subscription? user = some row
  plan : row.plan = plan
  periodEnd : row.currentPeriodEnd = periodEnd
  intents : d'.intents = d.intents
  payments : d'.subscriptionPayments = d.subscriptionPayments

theorem saveSubscription_yields {user : Uuid} (haccount : (d.user? user).isSome)
    (plan : String) (now periodEnd : Instant) :
    (saveSubscription (d.subscription? user) (some user) plan now periodEnd).Yields t d e
      fun r d' e' => ∃ row, r = .ok row ∧ Saved user plan periodEnd row d d' ∧ e' = e := by
  cases h : d.subscription? user with
  | none =>
      refine Answers.bind (.sense _) (Answers.bind (enterUnique_answers ?_)
        (Answers.bind (reference_answers haccount) (.writeThen ?_)))
      · simp [h]
      · refine .ret ⟨_, rfl, ⟨?_, rfl, rfl, rfl, rfl⟩, rfl⟩
        rw [apply_eq, Write.subscription?_apply, h]
        simp [Write.onSubscription]
  | some row =>
      have huser : row.userId = user := key_of_lookup h
      refine .writeThen ?_
      refine .ret ⟨_, rfl, ⟨?_, rfl, rfl, rfl, rfl⟩, rfl⟩
      rw [apply_eq, Write.subscription?_apply, h]
      simp [Write.onSubscription, Subscription.extended, huser]

end

/-! ## Fulfilment of a subscription intent -/

/-- A plan code as the administration accepts it. -/
structure IsPlanCode (code : String) : Prop where
  nonempty : code ≠ ""
  chars : ∀ c ∈ code.toList, c.isLower = true ∨ c.isDigit = true ∨ c = '_'

/-- A pending intent of a checkout of `n` days of the plan with this code. -/
structure PaymentIntent.Buys (row : PaymentIntent) (user : Uuid) (code : String) (n : Int) :
    Prop where
  pending : row.status = .pending
  kind : row.kind = .sub
  user : row.userId = some user
  plan : row.planCode = some code
  interval : row.planIntervalDays = some n
  positive : 0 < n
  code : IsPlanCode code

/-- The tables as a pending intent of the user finds them. -/
structure Db.Awaits (d : Db) (row : PaymentIntent) (user : Uuid) : Prop where
  stored : d.intent? row.intentId = some row
  account : (d.user? user).isSome
  unpaid : d.payment? row.intentId = none
  unordered : d.hasPaymentOrder row.orderId = false
  subscriptions : Sql.Unique Subscription.userId d.subscriptions
  plans : Sql.Unique SubscriptionPlan.code d.plans

/-- The intent is settled, and the user's subscription is under the plan and
`n` days longer. -/
structure Extends (intentId : String) (user : Uuid) (plan : String) (n : Int) (now : Instant)
    (d d' : Db) : Prop where
  settled : d'.statusOf intentId = some .succeeded
  extended : (d'.subscription? user).map (fun row => (row.plan, row.currentPeriodEnd)) =
    some (plan, periodStart (d.subscription? user) now + days n)

theorem strip_eq_of_isPlanCode {code : String} (h : IsPlanCode code) : strip code = code := by
  have hspace : ∀ c ∈ code.toList, isSpace c = false := by
    intro c hc
    rcases h.chars c hc with hlower | hdigit | rfl
    · simp only [Char.isLower, Bool.and_eq_true, decide_eq_true_eq] at hlower
      have hge : 97 ≤ c.toNat := hlower.1
      have hle : c.toNat ≤ 122 := hlower.2
      simp only [isSpace, decide_eq_false_iff_not, List.mem_cons, List.not_mem_nil, or_false]
      omega
    · simp only [Char.isDigit, Bool.and_eq_true, decide_eq_true_eq] at hdigit
      have hge : 48 ≤ c.toNat := hdigit.1
      have hle : c.toNat ≤ 57 := hdigit.2
      simp only [isSpace, decide_eq_false_iff_not, List.mem_cons, List.not_mem_nil, or_false]
      omega
    · decide
  have hdrop : ∀ cs : List Char, (∀ c ∈ cs, isSpace c = false) → cs.dropWhile isSpace = cs := by
    intro cs hcs
    cases cs with
    | nil => rfl
    | cons c cs => rw [List.dropWhile_cons_of_neg (by simp [hcs c (by simp)])]
  rw [strip, hdrop _ hspace, hdrop _ (by simpa using hspace), List.reverse_reverse,
    String.ofList_toList]

theorem PaymentIntent.Buys.codedPlan {row : PaymentIntent} {user : Uuid} {code : String} {n : Int}
    (h : row.Buys user code n) : row.codedPlan = some code := by
  simp [PaymentIntent.codedPlan, h.plan, strip_eq_of_isPlanCode h.code, Billing.nonempty,
    h.code.nonempty]

/-- A user has one subscription at most, so the one that ends last is it. -/
theorem subscriptionsOf_head? {d : Db} (h : Sql.Unique Subscription.userId d.subscriptions)
    (user : Uuid) : (d.subscriptionsOf (some user)).head? = d.subscription? user := by
  have hmem {row : Subscription} : row ∈ d.subscriptionsOf (some user) ↔
      row ∈ d.subscriptions ∧ row.userId = user := by
    simp [Db.subscriptionsOf, mem_orderBy]
  cases hhead : (d.subscriptionsOf (some user)).head? with
  | none =>
      rw [List.head?_eq_none_iff] at hhead
      refine (lookup_eq_none.2 fun row hrow huser => ?_).symm
      have hin := hmem.2 ⟨hrow, huser⟩
      simp [hhead] at hin
  | some row =>
      obtain ⟨hrow, huser⟩ := hmem.1 (List.mem_of_head? hhead)
      rw [Db.subscription?, ← huser, lookup_of_mem h hrow]

section

variable {t : Tid} {d : Db} {e : World}

theorem lockIntent_answers (intentId : String) :
    (lockIntent intentId).Answers t d e (.ok (d.intent? intentId)) := by
  refine Answers.bind (.select _) ?_
  cases h : d.intent? intentId with
  | none => exact Answers.ret none
  | some row =>
      rw [Option.isSome_some, if_pos rfl, ← h]
      refine Answers.bind (.lock _ _) ?_
      exact Answers.select _

/-- The grant of a subscription: it raises what the plan lookup raises, and
otherwise extends the subscription under the plan that was found. -/
theorem grantSubscription_yields {intent : PaymentIntent} {user : Uuid} {n : Int}
    (huser : intent.userId = some user) (hinterval : intent.planIntervalDays = some n)
    (hpositive : 0 < n) (haccount : (d.user? user).isSome)
    (hunpaid : d.payment? intent.intentId = none)
    (hunordered : d.hasPaymentOrder intent.orderId = false)
    (hsubscriptions : Sql.Unique Subscription.userId d.subscriptions) (now : Instant)
    (bank : Option String) :
    (grantSubscription intent now bank).Yields t d e fun r d' _ =>
      (∃ x, d.planFor intent = .error x ∧ r = .error x) ∨
        ∃ plan, d.planFor intent = .ok plan ∧ r = .ok () ∧ d'.intents = d.intents ∧
          (d'.subscription? user).map (fun row => (row.plan, row.currentPeriodEnd)) =
            some (plan.code, periodStart (d.subscription? user) now + days n) := by
  refine Answers.bind (.select _) ?_
  rw [hunpaid, Option.isSome_none, if_neg Bool.false_ne_true]
  refine Answers.bind (lockBuyer_answers _) ?_
  have hplan := resolvePlanForSubscriptionIntent_answers (t := t) (d := d) (e := e) intent
  cases h : d.planFor intent with
  | error x =>
      rw [h] at hplan
      exact hplan.bindError (.inl ⟨x, rfl, rfl⟩)
  | ok plan =>
      rw [h] at hplan
      refine hplan.bind (Answers.bind (lockSubscription_answers _) ?_)
      have hdays : billingIntervalDays intent plan = n := by
        simp [billingIntervalDays, hinterval, hpositive]
      rw [huser, subscriptionsOf_head? hsubscriptions, hdays]
      refine .bind (saveSubscription_yields haccount _ _ _) ?_ fun x d' _ hx => by simp at hx
      rintro row d' _ ⟨row', hrow, hsaved, rfl⟩
      obtain rfl := Except.ok.inj hrow
      refine .bind (insertPayment_yields ?_ ?_) ?_ fun x d' e' hx => by simp at hx
      · rw [Db.payment?, hsaved.payments]
        exact hunpaid
      · rw [Db.hasPaymentOrder, hsaved.payments]
        exact hunordered
      rintro _ d' e' ⟨-, rfl, rfl⟩
      refine (notifyPaymentSucceeded_answers intent bank).mono ?_
      rintro r d' e' ⟨rfl, rfl, rfl⟩
      refine .inr ⟨plan, rfl, rfl, hsaved.intents, ?_⟩
      rw [Write.subscription?_apply, hsaved.saved]
      simp [Write.onSubscription, hsaved.plan, hsaved.periodEnd]

/-- The status of an intent does not matter for its plan. -/
theorem planFor_resolved (row : PaymentIntent) (outcome : Outcome) (at_ : Option Instant) :
    ((Write.resolveIntent row outcome at_).apply d).planFor (row.resolved outcome at_) =
      d.planFor row := by
  have hcoded : (row.resolved outcome at_).codedPlan = row.codedPlan := rfl
  have hactive : ((Write.resolveIntent row outcome at_).apply d).activePlan? = d.activePlan? := rfl
  have hamount : ((Write.resolveIntent row outcome at_).apply d).planByAmount
      (row.resolved outcome at_) = d.planByAmount row := rfl
  rw [Db.planFor, Db.planFor, hcoded, hactive, hamount]

/-- A fulfilment of a subscription intent either raises, where no plan is to be
had, or extends the subscription by the days bought. -/
theorem fulfillPaymentIntent_yields {intent row : PaymentIntent} {user : Uuid} {code : String}
    {n : Int} (hid : intent.intentId = row.intentId) (hbuys : row.Buys user code n)
    (hawaits : d.Awaits row user) (bank : Option String) :
    (fulfillPaymentIntent intent bank).Yields t d e fun r d' _ =>
      (∃ x, d.planFor row = .error x ∧ r = .error x) ∨
        ∃ plan settled, d.planFor row = .ok plan ∧ r = .ok settled ∧
          Extends row.intentId user plan.code n e.now d d' := by
  refine Answers.bind (lockIntent_answers _) ?_
  rw [hid, hawaits.stored]
  simp only [hbuys.pending, reduceCtorEq, if_false]
  refine Answers.bind (.sense _) (.writeThen ?_)
  have hstatus : ((Write.resolveIntent row .succeeded (some e.now)).apply d).statusOf
      row.intentId = some .succeeded := by
    rw [Db.statusOf, Write.intent?_apply, hawaits.stored]
    simp [Write.onIntent, PaymentIntent.resolve, Outcome.status]
  have huser : (row.resolved .succeeded (some e.now)).userId = some user := hbuys.user
  have hgrant := grantSubscription_yields (t := t) (e := e)
    (d := (Write.resolveIntent row .succeeded (some e.now)).apply d) huser hbuys.interval
    hbuys.positive hawaits.account hawaits.unpaid hawaits.unordered hawaits.subscriptions e.now bank
  have hkind : (row.resolved .succeeded (some e.now)).kind = .sub := hbuys.kind
  simp only [grant, hkind]
  refine .bind hgrant ?_ ?_
  · rintro _ d' _ (⟨x, -, hx⟩ | ⟨plan, hplan, -, hintents, hextended⟩)
    · simp at hx
    · rw [planFor_resolved] at hplan
      refine .ret (.inr ⟨plan, _, hplan, rfl, ?_, hextended⟩)
      rw [← hstatus, Db.statusOf, Db.statusOf, Db.intent?, Db.intent?, hintents]
  · rintro x d' _ (⟨x', hx', hx⟩ | ⟨plan, -, hx, -⟩)
    · rw [planFor_resolved] at hx'
      obtain rfl := Except.error.inj hx
      exact .inl ⟨x, hx', rfl⟩
    · simp at hx

end

/-- Whatever became of the plans since the checkout: a fulfilment succeeds and
gives the days and the plan bought exactly if the plan bought is still active. -/
theorem paidTerms_iff {t : Tid} {s : Store} (hs : s.Undisturbed t) {intent row : PaymentIntent}
    {user : Uuid} {code : String} {n : Int} (hid : intent.intentId = row.intentId)
    (hbuys : row.Buys user code n) (hawaits : (s.view t).Awaits row user) (bank : Option String) :
    (∃ settled s', (fulfillPaymentIntent intent bank).runAlone t s = some (.ok settled, s') ∧
        Extends row.intentId user code n s.world.now (s.view t) (s'.view t)) ↔
      ∃ plan ∈ (s.view t).plans, plan.code = code ∧ plan.isActive = true := by
  rw [← Db.planFor_code hawaits.plans hbuys.codedPlan]
  obtain ⟨r, s', hrun, -, hr⟩ := fulfillPaymentIntent_yields (t := t) (e := s.world) hid hbuys
    hawaits bank s hs rfl rfl
  rw [hrun]
  constructor
  · rintro ⟨settled, s'', heq, hextends⟩
    obtain ⟨rfl, rfl⟩ := Prod.mk.inj (Option.some.inj heq)
    rcases hr with ⟨x, -, hx⟩ | ⟨plan, settled', hplan, -, hextends'⟩
    · simp at hx
    · refine ⟨plan, hplan, ?_⟩
      have hsame := hextends'.extended.symm.trans hextends.extended
      simpa using hsame
  · rintro ⟨plan, hplan, hcode⟩
    rcases hr with ⟨x, hx, -⟩ | ⟨plan', settled, hplan', rfl, hextends⟩
    · simp [hplan] at hx
    · rw [hplan, Except.ok.injEq] at hplan'
      obtain rfl := hplan'
      exact ⟨settled, s', rfl, hcode ▸ hextends⟩

/-! ## Where the intents come from, and where their plans go -/

/-- A checkout of a plan makes an intent that buys the plan's days. -/
theorem newIntent_buys {t : Tid} {d : Db} {e : World} (cfg : Settings) {plan : SubscriptionPlan}
    (hcode : IsPlanCode plan.code) (hdays : 0 < plan.billingIntervalDays) (user : Uuid)
    (amount : Int) :
    (planOrder user plan amount >>= newIntent cfg).Yields t d e fun r _ _ =>
      ∀ row, r = .ok row → row.Buys user plan.code plan.billingIntervalDays := by
  refine Answers.bind (.ret _) (Answers.bind (.sense _) ?_)
  cases h : e.khqr with
  | none =>
      have hraised : generateKhqr.Answers t d e
          (.error (.http 503 "Bakong payment service unreachable")) := by
        refine Answers.bind (.sense _) ?_
        rw [h]
        exact Answers.raise _
      exact hraised.bindError fun row hrow => by simp at hrow
  | some answer =>
      have hissued : generateKhqr.Answers t d e (.ok answer) := by
        refine Answers.bind (.sense _) ?_
        rw [h]
        exact Answers.ret _
      refine hissued.bind (Answers.bind (.sense _) (Answers.bind (.sense _) (.ret ?_)))
      rintro row hrow
      obtain rfl := Except.ok.inj hrow
      exact ⟨rfl, rfl, rfl, rfl, rfl, hdays, hcode⟩

namespace Shop

def basic : SubscriptionPlan := ⟨"basic_2w", 349, 14, true, 0, 0⟩

def premium : SubscriptionPlan := ⟨"premium_5m", 1099, 150, true, 1, 0⟩

/-- A pending intent of user 1 for the basic plan. -/
def planIntent : PaymentIntent :=
  { intent with
    intentId := "bkg-2", orderId := "sub-basic_2w-c0de", kind := .sub, contentId := none,
    planCode := some "basic_2w", planIntervalDays := some 14, amountUsd := 349 }

/-- The shop with these plans and that intent. -/
def withPlans (plans : List SubscriptionPlan) : Db :=
  { db with plans := plans, intents := [planIntent] }

theorem planIntent_buys : planIntent.Buys 1 "basic_2w" 14 :=
  ⟨rfl, rfl, rfl, rfl, rfl, by decide, by decide, by simp⟩

theorem withPlans_awaits {plans : List SubscriptionPlan}
    (h : Sql.Unique SubscriptionPlan.code plans) : (withPlans plans).Awaits planIntent 1 :=
  ⟨rfl, rfl, rfl, rfl, List.nodup_nil, h⟩

end Shop

/-- Repriced and re-timed, the plan is still the one bought. -/
theorem paidTerms_repriced : ∃ settled s',
    (fulfillPaymentIntent Shop.planIntent none).runAlone 0
      (.idle (Shop.withPlans [{ Shop.basic with priceUsd := 999, billingIntervalDays := 7 }])
        .empty Shop.world) = some (.ok settled, s') ∧
    Extends "bkg-2" 1 "basic_2w" 14 0
      (Shop.withPlans [{ Shop.basic with priceUsd := 999, billingIntervalDays := 7 }])
      (s'.view 0) :=
  (paidTerms_iff (.idle _ _ _ _) rfl Shop.planIntent_buys
    (Shop.withPlans_awaits (by simp [Sql.Unique])) none).2 ⟨_, List.mem_singleton_self _, rfl, rfl⟩

/-- Deactivated, the plan is replaced by another one; with no active plan at all
the fulfilment raises. -/
theorem paidTerms_lost :
    (∃ settled s', (fulfillPaymentIntent Shop.planIntent none).runAlone 0
        (.idle (Shop.withPlans [{ Shop.basic with isActive := false }, Shop.premium]) .empty
          Shop.world) = some (.ok settled, s') ∧
      ((s'.view 0).subscription? 1).map Subscription.plan = some "premium_5m") ∧
    ∃ s', (fulfillPaymentIntent Shop.planIntent none).runAlone 0
        (.idle (Shop.withPlans [{ Shop.basic with isActive := false }]) .empty Shop.world) =
      some (.error noActivePlan, s') := by
  constructor
  · exact ⟨_, _, rfl, by decide⟩
  · exact ⟨_, rfl⟩

end MovieApi.Billing
