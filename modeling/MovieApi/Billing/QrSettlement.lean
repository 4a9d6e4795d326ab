import MovieApi.Billing.PaidTerms
import MovieApi.Billing.QrMemory

/-!
# A payment on an issued QR

A settlement asks NBC about the two QRs its row remembers.  So it finds a payment on
the last QR or on the one before, and no payment on an earlier one; what it finds it
settles where the tables let it make the grant.
-/

namespace MovieApi.Billing

open ReadCommitted ReadCommitted.Prog Sql

variable {t : Tid} {d : Db} {e : World} {intent row : PaymentIntent}

/-! ## The grant, alone -/

/-- The purchase is there, or it can be inserted. -/
def Db.titleGrantable (d : Db) (title : Title) (titleId : Uuid) (intent : PaymentIntent) : Bool :=
  (d.receipt? title intent.intentId).isSome ||
    !d.hasReceiptOrder title intent.orderId && intent.userId.all (fun user => (d.user? user).isSome) &&
      d.hasTitle title titleId

/-- The payment is there; or a plan is found, the user has or can be given a
subscription, and the payment can be inserted. -/
def Db.subscriptionGrantable (d : Db) (intent : PaymentIntent) : Bool :=
  (d.payment? intent.intentId).isSome ||
    (d.planFor intent).toBool &&
      ((d.subscriptionsOf intent.userId).head?.isSome ||
        intent.userId.any fun user => (d.user? user).isSome) &&
      !d.hasPaymentOrder intent.orderId

/-- The tables let a fulfilment make the intent's grant. -/
def Db.grantable (d : Db) (intent : PaymentIntent) : Bool :=
  match intent.kind with
  | .single => intent.contentId.all fun id => d.titleGrantable .movie id intent
  | .series => intent.seriesId.all fun id => d.titleGrantable .series id intent
  | .sub => d.subscriptionGrantable intent

/-- Granted if and only if `b`, and no intent changed. -/
def Grants {α : Type} (d : Db) (b : Bool) (r : Except Err α) (d' : Db) (_ : World) : Prop :=
  r.toBool = b ∧ d'.intents = d.intents

/-- A check: it passes if and only if `b`, and changes nothing. -/
def Checks (t : Tid) (d : Db) (e : World) (p : Prog Unit) (b : Bool) : Prop :=
  p.Yields t d e fun r d' e' => r.toBool = b ∧ d' = d ∧ e' = e

theorem Checks.grants {p : Prog Unit} {f : Unit → Prog Unit} {b c : Bool} (h : Checks t d e p b)
    (hf : b = true → (f ()).Yields t d e (Grants d c)) :
    (p >>= f).Yields t d e (Grants d (b && c)) := by
  refine Yields.bind h ?_ ?_
  · rintro _ d' e' ⟨hb, rfl, rfl⟩
    obtain rfl : b = true := hb.symm
    exact hf rfl
  · rintro x d' e' ⟨hb, rfl, rfl⟩
    obtain rfl : b = false := hb.symm
    exact ⟨rfl, rfl⟩

theorem enterUnique_checks (key : Key) (taken : Db → Bool) :
    Checks t d e (enterUnique key taken) !taken d := by
  refine Answers.bind (.enter _ _) ?_
  cases h : taken d with
  | true => exact .reject ⟨rfl, rfl, rfl⟩
  | false => exact .ret ⟨rfl, rfl, rfl⟩

theorem reference_checks (key : Key) (present : Db → Bool) :
    Checks t d e (reference key present) (present d) := by
  refine Answers.bind (.lock _ _) (Answers.bind (.select _) ?_)
  cases h : present d with
  | true => exact .ret ⟨rfl, rfl, rfl⟩
  | false => exact .reject ⟨rfl, rfl, rfl⟩

theorem referenceUser_checks (user : Option Uuid) :
    Checks t d e (referenceUser user) (user.all fun user => (d.user? user).isSome) := by
  cases user with
  | none => exact .ret ⟨rfl, rfl, rfl⟩
  | some user => exact reference_checks _ _

theorem notify_grants (bank : Option String) :
    (notifyPaymentSucceeded intent bank).Yields t d e (Grants d true) := by
  refine (notifyPaymentSucceeded_answers intent bank).mono fun r d' e' h => ?_
  obtain ⟨rfl, rfl, rfl⟩ := h
  exact ⟨rfl, rfl⟩

/-- Afterwards the buyer is told. -/
theorem grants_notify {p : Prog Unit} {b : Bool} (h : p.Yields t d e (Grants d b))
    (intent : PaymentIntent) (bank : Option String) :
    (p >>= fun _ => notifyPaymentSucceeded intent bank).Yields t d e (Grants d b) := by
  refine Yields.bind h ?_ ?_
  · rintro _ d' e' ⟨hb, hintents⟩
    obtain rfl : b = true := hb.symm
    refine (notify_grants bank).mono fun r d'' e'' hr => ?_
    exact ⟨hr.1, hr.2.trans hintents⟩
  · rintro x d' e' ⟨hb, hintents⟩
    exact ⟨hb, hintents⟩

theorem insertReceipt_grants (title : Title) {row : Receipt}
    (hnew : d.receipt? title row.intentId = none) :
    (insertReceipt title row).Yields t d e (Grants d (!d.hasReceiptOrder title row.orderId &&
      (row.userId.all (fun user => (d.user? user).isSome) &&
        (d.hasTitle title row.titleId && true)))) := by
  refine Answers.bind (.enter _ _) ?_
  rw [hnew, Option.isSome_none, Bool.not_false, if_pos rfl]
  refine (enterUnique_checks _ _).grants fun _ => ?_
  refine (referenceUser_checks _).grants fun _ => ?_
  refine Checks.grants (reference_checks _ _) fun _ => ?_
  exact Yields.write ⟨rfl, by cases title <;> rfl⟩

theorem grantTitle_grants (title : Title) (titleId : Uuid) (bank : Option String) :
    (grantTitle title titleId intent bank).Yields t d e
      (Grants d (d.titleGrantable title titleId intent)) := by
  refine Answers.bind (.select _) ?_
  unfold Db.titleGrantable
  cases h : d.receipt? title intent.intentId with
  | some row => exact .ret ⟨rfl, rfl⟩
  | none =>
      have hinsert : (insertReceipt title (intent.receipt titleId bank)).Yields t d e
          (Grants d (!d.hasReceiptOrder title intent.orderId &&
            (intent.userId.all (fun user => (d.user? user).isSome) &&
              (d.hasTitle title titleId && true)))) := insertReceipt_grants title h
      rw [Option.isSome_none, if_neg Bool.false_ne_true, Bool.false_or,
        Bool.and_assoc, ← Bool.and_true (d.hasTitle title titleId)]
      exact grants_notify hinsert intent bank

/-- The subscription is saved; no intent and no payment changed. -/
def Saves (d : Db) (b : Bool) (r : Except Err Subscription) (d' : Db) (_ : World) : Prop :=
  r.toBool = b ∧ d'.intents = d.intents ∧ d'.subscriptionPayments = d.subscriptionPayments

theorem subscription?_of_head? {user : Uuid} (h : (d.subscriptionsOf (some user)).head? = none) :
    d.subscription? user = none := by
  refine lookup_eq_none.2 fun row hrow huser => ?_
  rw [List.head?_eq_none_iff] at h
  have hmem : row ∈ d.subscriptionsOf (some user) := by
    simp [Db.subscriptionsOf, mem_orderBy, hrow, huser]
  rw [h] at hmem
  cases hmem

theorem saveSubscription_saves (userId : Option Uuid) (plan : String) (now periodEnd : Instant) :
    (saveSubscription (d.subscriptionsOf userId).head? userId plan now periodEnd).Yields t d e
      (Saves d ((d.subscriptionsOf userId).head?.isSome ||
        userId.any fun user => (d.user? user).isSome)) := by
  cases h : (d.subscriptionsOf userId).head? with
  | some row => exact .writeThen (.ret ⟨rfl, rfl, rfl⟩)
  | none =>
      cases userId with
      | none =>
          refine Yields.bind (M := fun r d' _ => r.toBool = false ∧ d' = d) (.reject ⟨rfl, rfl⟩) ?_ ?_
          · rintro _ d' e' ⟨hb, -⟩
            cases hb
          · rintro x d' e' ⟨-, rfl⟩
            exact ⟨rfl, rfl, rfl⟩
      | some user =>
          refine Answers.bind (.sense _) (Answers.bind (enterUnique_answers ?_) ?_)
          · rw [subscription?_of_head? h]
            rfl
          refine Yields.bind (reference_checks _ _) ?_ ?_
          · rintro _ d' e' ⟨hb, rfl, rfl⟩
            refine .writeThen (.ret ⟨?_, rfl, rfl⟩)
            exact hb
          · rintro x d' e' ⟨hb, rfl, rfl⟩
            exact ⟨hb, rfl, rfl⟩

theorem insertPayment_grants {row : SubscriptionPayment}
    (hnew : d.payment? row.intentId = none) :
    (insertPayment row).Yields t d e (Grants d (!d.hasPaymentOrder row.orderId && true)) := by
  refine Answers.bind (.enter _ _) ?_
  rw [hnew, Option.isSome_none, Bool.not_false, if_pos rfl]
  refine (enterUnique_checks _ _).grants fun _ => ?_
  exact Yields.write ⟨rfl, rfl⟩

theorem grantSubscription_grants (now : Instant) (bank : Option String) :
    (grantSubscription intent now bank).Yields t d e
      (Grants d (d.subscriptionGrantable intent)) := by
  refine Answers.bind (.select _) ?_
  unfold Db.subscriptionGrantable
  cases hpaid : d.payment? intent.intentId with
  | some row => exact .ret ⟨rfl, rfl⟩
  | none =>
      rw [Option.isSome_none, if_neg Bool.false_ne_true, Bool.false_or]
      refine Answers.bind (lockBuyer_answers _) ?_
      have hplan := resolvePlanForSubscriptionIntent_answers (t := t) (d := d) (e := e) intent
      cases h : d.planFor intent with
      | error x =>
          rw [h] at hplan
          exact hplan.bindError ⟨rfl, rfl⟩
      | ok plan =>
          rw [h] at hplan
          refine hplan.bind (Answers.bind (lockSubscription_answers _) ?_)
          refine Yields.bind (saveSubscription_saves _ _ _ _) ?_ ?_
          · rintro row d' e' ⟨hsaved, hintents, hpayments⟩
            have hnew : d'.payment? intent.intentId = none := by
              rw [Db.payment?, hpayments]
              exact hpaid
            have horder : d'.hasPaymentOrder intent.orderId = d.hasPaymentOrder intent.orderId := by
              rw [Db.hasPaymentOrder, hpayments]
              rfl
            rw [← hsaved]
            refine (grants_notify (insertPayment_grants hnew) intent bank).mono fun r d'' e'' hr => ?_
            refine ⟨hr.1.trans ?_, hr.2.trans hintents⟩
            show (!d'.hasPaymentOrder intent.orderId && true) = _
            rw [horder, Bool.and_true]
            rfl
          · rintro x d' e' ⟨hsaved, hintents, -⟩
            refine ⟨?_, hintents⟩
            rw [← hsaved]
            rfl

/-- A grant succeeds if and only if the tables let it, and no intent changes. -/
theorem grant_grants (now : Instant) (bank : Option String) :
    (grant intent now bank).Yields t d e (Grants d (d.grantable intent)) := by
  unfold grant Db.grantable
  cases intent.kind with
  | single =>
      cases intent.contentId with
      | none => exact notify_grants bank
      | some id => exact grantTitle_grants .movie id bank
  | series =>
      cases intent.seriesId with
      | none => exact notify_grants bank
      | some id => exact grantTitle_grants .series id bank
  | sub => exact grantSubscription_grants now bank

/-! ## The settlement, alone -/

theorem grantable_resolved (row : PaymentIntent) (outcome : Outcome) (at_ : Option Instant) :
    ((Write.resolveIntent row outcome at_).apply d).grantable (row.resolved outcome at_) =
      d.grantable row := rfl

/-- A fulfilment of a pending intent succeeds if and only if its grant can be made. -/
theorem fulfill_grants (hrow : d.intent? row.intentId = some row) (hpending : row.status = .pending)
    (bank : Option String) :
    (fulfillPaymentIntent row bank).Yields t d e fun r d' _ =>
      r.toBool = d.grantable row ∧
        (r.toBool = true → d'.statusOf row.intentId = some .succeeded) := by
  refine Answers.bind (lockIntent_answers _) ?_
  rw [hrow]
  simp only [hpending, reduceCtorEq, if_false]
  refine Answers.bind (.sense _) (.writeThen ?_)
  have hstatus : ((Write.resolveIntent row .succeeded (some e.now)).apply d).statusOf
      row.intentId = some .succeeded := by
    rw [Db.statusOf, Write.intent?_apply, hrow]
    simp [Write.onIntent, PaymentIntent.resolve, Outcome.status]
  refine Yields.bind (grant_grants _ _) ?_ ?_
  · rintro _ d' e' ⟨hb, hintents⟩
    rw [apply_eq, grantable_resolved] at hb
    refine .ret ⟨hb, fun _ => ?_⟩
    rw [← hstatus, Db.statusOf, Db.statusOf, Db.intent?, Db.intent?, hintents]
    rfl
  · rintro x d' e' ⟨hb, -⟩
    rw [apply_eq, grantable_resolved] at hb
    exact ⟨hb, fun hok => by cases hok⟩

/-- NBC tells of every KHQR whether it was paid. -/
def World.Conclusive (e : World) : Prop :=
  ∀ intentId md5, e.nbc intentId md5 = some (if md5 ∈ e.paid then .paid else .unpaid)

theorem nonempty_of_ne {text : String} (h : text ≠ "") : nonempty text = some text := if_neg h

theorem probe_answers (he : e.Conclusive) {md5 : String} (h : md5 ≠ "") (intentId : Option String) :
    (probeKhqrStatus md5 intentId).Answers t d e
      (.ok (if md5 ∈ e.paid then .paid else .unpaid)) := by
  unfold probeKhqrStatus
  rw [if_neg h]
  refine Answers.bind (.sense _) ?_
  rw [he]
  exact Answers.ret _

/-- One of the QRs that the row remembers was paid. -/
def FoundPaid (issued : List String) (e : World) : Prop := ∃ md5 ∈ issued.take 2, md5 ∈ e.paid

instance (issued : List String) (e : World) : Decidable (FoundPaid issued e) :=
  inferInstanceAs (Decidable (∃ md5 ∈ issued.take 2, md5 ∈ e.paid))

/-- The search sees the last two QRs. -/
theorem bakongMd5sPaid_answers {cfg : Settings} {issued : List String} (he : e.Conclusive)
    (hnbc : cfg.bakongNbcSettleEnabled = true) (hrow : row.Remembers issued)
    (hissued : "" ∉ issued) :
    (bakongMd5sPaid cfg row).Answers t d e (.ok (decide (FoundPaid issued e))) := by
  unfold bakongMd5sPaid
  rw [hrow.current]
  cases issued with
  | nil => exact Answers.ret false
  | cons md5 older =>
      have hmd5 : md5 ≠ "" := fun h => hissued (by simp [h])
      simp only [List.getElem?_cons_zero, Option.bind_some, nonempty_of_ne hmd5, hnbc,
        Bool.true_eq_false, if_false]
      refine Answers.bind (probe_answers he hmd5 _) ?_
      by_cases hpaid : md5 ∈ e.paid
      · have hfound : FoundPaid (md5 :: older) e := ⟨md5, by simp, hpaid⟩
        simp only [hpaid, if_true, hfound, decide_true]
        exact Answers.ret true
      · simp only [hpaid, if_false]
        rw [hrow.previous]
        cases older with
        | nil =>
            have hfound : ¬ FoundPaid [md5] e := by simp [FoundPaid, hpaid]
            simp only [hfound, decide_false]
            exact Answers.ret false
        | cons prev rest =>
            have hprev : prev ≠ "" := fun h => hissued (by simp [h])
            simp only [List.getElem?_cons_succ, List.getElem?_cons_zero, Option.bind_some,
              nonempty_of_ne hprev]
            have hfound : FoundPaid (md5 :: prev :: rest) e ↔ prev ∈ e.paid := by
              simp [FoundPaid, hpaid]
            simp only [hfound]
            split
            · next hsame =>
                have hunpaid : prev ∉ e.paid := hsame ▸ hpaid
                simp only [hunpaid, decide_false]
                exact Answers.ret false
            · refine Answers.bind (probe_answers he hprev _) ?_
              by_cases hprevPaid : prev ∈ e.paid
              · simp only [hprevPaid, if_true, decide_true]
                exact Answers.ret true
              · simp only [hprevPaid, if_false, decide_false, reduceCtorEq]
                exact Answers.ret false

/-- The settlement of the intent answers that it is paid, and leaves it succeeded. -/
def Settles (cfg : Settings) (t : Tid) (row : PaymentIntent) (s : Store) : Prop :=
  ∃ settled s', (settleBakongIntentIfPaid cfg row).runAlone t s = some (.ok (true, settled), s') ∧
    (s'.view t).statusOf row.intentId = some .succeeded

/-- The settlement of a pending intent that remembers the last two QRs. -/
theorem settles_iff {cfg : Settings} {issued : List String} {s : Store} (hs : s.Undisturbed t)
    (he : s.world.Conclusive) (hnbc : cfg.bakongNbcSettleEnabled = true)
    (hstored : (s.view t).intent? row.intentId = some row) (hmethod : row.method = .bakong)
    (hpending : row.status = .pending) (hrow : row.Remembers issued) (hissued : "" ∉ issued) :
    Settles cfg t row s ↔ FoundPaid issued s.world ∧ (s.view t).grantable row = true := by
  have hpaid := bakongMd5sPaid_answers (t := t) (d := s.view t) he hnbc hrow hissued
  have hyields : (settleBakongIntentIfPaid cfg row).Yields t (s.view t) s.world fun r d' _ =>
      if FoundPaid issued s.world then
        r.toBool = (s.view t).grantable row ∧ ∀ answer, r = .ok answer →
          answer.1 = true ∧ d'.statusOf row.intentId = some .succeeded
      else r = .ok (false, row) := by
    unfold settleBakongIntentIfPaid
    simp only [hpending, hmethod, hnbc, reduceCtorEq, ne_eq, not_true_eq_false, or_self, if_false,
      Bool.true_eq_false]
    refine hpaid.bind ?_
    by_cases hfound : FoundPaid issued s.world
    · simp only [hfound, decide_true, if_true]
      refine Yields.bind (fulfill_grants hstored hpending _) ?_ ?_
      · rintro settled d' e' ⟨hb, hstatus⟩
        refine .ret ⟨hb, fun answer hanswer => ?_⟩
        obtain rfl := Except.ok.inj hanswer
        exact ⟨rfl, hstatus rfl⟩
      · rintro x d' e' ⟨hb, -⟩
        exact ⟨hb, fun answer hanswer => by cases hanswer⟩
    · simp only [hfound, decide_false, Bool.false_eq_true, if_false]
      exact .ret rfl
  obtain ⟨r, s', hrun, -, hr⟩ := hyields s hs rfl rfl
  unfold Settles
  rw [hrun]
  constructor
  · rintro ⟨settled, s'', heq, -⟩
    obtain ⟨rfl, rfl⟩ := Prod.mk.inj (Option.some.inj heq)
    by_cases hfound : FoundPaid issued s.world
    · rw [if_pos hfound] at hr
      exact ⟨hfound, hr.1.symm⟩
    · rw [if_neg hfound] at hr
      cases hr
  · rintro ⟨hfound, hgrantable⟩
    rw [if_pos hfound, hgrantable] at hr
    cases r with
    | error x => cases hr.1
    | ok answer =>
        obtain ⟨hanswer, hstatus⟩ := hr.2 answer rfl
        refine ⟨answer.2, s', ?_, hstatus⟩
        rw [← hanswer]

/-! ## After every run of opens -/

/-- Whatever opens have run and however they interleaved: with the intent pending still, a
payment on one of its QRs is settled exactly if a paid one is among the last two issued
and the tables let the grant be made. -/
theorem issuedQr_settled_iff (cfg : Settings) (hnbc : cfg.bakongNbcSettleEnabled = true)
    {intentId : String} {past : List String} (hone : d.One intentId)
    (hpast : ∀ row, d.intent? intentId = some row → row.Remembers past) {world : World}
    {opens : Tid → Opening} {xs : List (Tid × Commit Write Info)} {q : Pool}
    (h : Pool.Trace commits .any (startOpens cfg d world opens) xs q)
    (hrow : q.store.db.intent? intentId = some row) (hmethod : row.method = .bakong)
    (hpending : row.status = .pending) (hissued : "" ∉ issuedBy intentId xs ++ past)
    (he : e.Conclusive) (t : Tid) :
    Settles cfg t row (.idle q.store.db .empty e) ↔
      FoundPaid (issuedBy intentId xs ++ past) e ∧ q.store.db.grantable row = true := by
  have hid : row.intentId = intentId := key_of_lookup hrow
  have hremembers := opens_remember cfg hone h hpast hrow hpending
  exact settles_iff (.idle _ _ _ _) he hnbc (hid ▸ hrow) hmethod hpending hremembers hissued

namespace Shop

def issuing (now : Instant) (md5 : String) : World :=
  { world with now := now, khqr := some ("qr", md5, "Shop") }

/-- NBC knows of these payments. -/
def bank (paid : List String) : World :=
  { world with
    now := minutes 30
    nbc := fun _ md5 => some (if md5 ∈ paid then .paid else .unpaid)
    paid := paid }

theorem bank_conclusive (paid : List String) : (bank paid).Conclusive := fun _ _ => rfl

/-- Two opens of the movie, each with the QR it finds stale. -/
def twoOpens : List (Event World) :=
  runs 0 20 ++ [.outside (issuing (minutes 22) "md5-3")] ++ runs 1 20

def opened : Pool :=
  startOpens .default db (issuing (minutes 11) "md5-2") fun _ => .movie 10 (some 1) none

/-- The intent is still pending, and two QRs were issued for it. -/
def renewed (r : List (Tid × Commit Write Info) × Pool) : Bool :=
  (r.2.store.db.intent? "bkg-1").any fun row =>
    decide (row.method = .bakong ∧ row.status = .pending ∧
      issuedBy "bkg-1" r.1 = ["md5-3", "md5-2"]) && r.2.store.db.grantable row

/-- The settlement finds nothing. -/
def overlooks (paid : List String) (r : List (Tid × Commit Write Info) × Pool) : Bool :=
  (r.2.store.db.intent? "bkg-1").any fun row =>
    ((settleBakongIntentIfPaid .default row).runAlone 0
      (.idle r.2.store.db .empty (bank paid))).any fun answer =>
        match answer.1 with
        | .ok (settled, _) => !settled
        | .error _ => false

end Shop

/-- A payment on the QR before the last one. -/
theorem previousQr_settled_iff : ∃ xs q row,
    Pool.Trace commits .any Shop.opened xs q ∧ q.store.db.intent? "bkg-1" = some row ∧
      issuedBy "bkg-1" xs = ["md5-3", "md5-2"] ∧
      (Settles .default 0 row (.idle q.store.db .empty (Shop.bank ["md5-2"])) ↔
        FoundPaid (issuedBy "bkg-1" xs ++ ["md5-1"]) (Shop.bank ["md5-2"]) ∧
          q.store.db.grantable row = true) := by
  obtain ⟨xs, q, htrace, hq⟩ := Pool.exists_trace_of_observe (f := Shop.renewed)
    (show (Pool.observe commits .any Shop.opened Shop.twoOpens).any _ = true by decide +kernel)
  obtain ⟨row, hrow, hrenewed⟩ := (Option.any_eq_true _ _).1 hq
  rw [Bool.and_eq_true, decide_eq_true_eq] at hrenewed
  obtain ⟨⟨hmethod, hpending, hissued⟩, -⟩ := hrenewed
  have hpast : ∀ row, Shop.db.intent? "bkg-1" = some row → row.Remembers ["md5-1"] := by
    intro row hrow
    obtain rfl : Shop.intent = row := Option.some.inj hrow
    exact ⟨rfl, rfl⟩
  have hone : Shop.db.One "bkg-1" := by simp [Db.One, Shop.db, Shop.intent]
  refine ⟨xs, q, row, htrace, hrow, hissued, ?_⟩
  exact issuedQr_settled_iff .default rfl hone hpast htrace hrow hmethod hpending
    (by simp [hissued]) (Shop.bank_conclusive _) 0

/-- The third QR is issued, then the first one is paid: the settlement asks for the third
and the second, and answers that nothing is paid. -/
theorem firstQr_overlooked : ∃ xs q row,
    Pool.Trace commits .any Shop.opened xs q ∧ q.store.db.intent? "bkg-1" = some row ∧
      row.method = .bakong ∧ row.status = .pending ∧ q.store.db.grantable row = true ∧
      issuedBy "bkg-1" xs ++ ["md5-1"] = ["md5-3", "md5-2", "md5-1"] ∧
      (Shop.bank ["md5-1"]).Conclusive ∧
      ¬ Settles .default 0 row (.idle q.store.db .empty (Shop.bank ["md5-1"])) := by
  obtain ⟨xs, q, htrace, hq⟩ := Pool.exists_trace_of_observe
    (f := fun r => Shop.renewed r && Shop.overlooks ["md5-1"] r)
    (show (Pool.observe commits .any Shop.opened Shop.twoOpens).any _ = true by decide +kernel)
  rw [Bool.and_eq_true] at hq
  obtain ⟨row, hrow, hrenewed⟩ := (Option.any_eq_true _ _).1 hq.1
  rw [Bool.and_eq_true, decide_eq_true_eq] at hrenewed
  obtain ⟨⟨hmethod, hpending, hissued⟩, hgrantable⟩ := hrenewed
  refine ⟨xs, q, row, htrace, hrow, hmethod, hpending, hgrantable, by rw [hissued]; rfl,
    Shop.bank_conclusive _, ?_⟩
  rintro ⟨settled, s', hrun, -⟩
  have hoverlooked := hq.2
  unfold Shop.overlooks at hoverlooked
  rw [hrow, Option.any_some, hrun] at hoverlooked
  cases hoverlooked

end MovieApi.Billing
