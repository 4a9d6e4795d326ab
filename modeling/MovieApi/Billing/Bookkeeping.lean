import MovieApi.Billing.Requests

/-!
# Keeping books over a session

Most statements of the billing code neither resolve an intent nor end a
transaction.  `Bookkeeping` says what it takes to keep a statement about a
session's own writes through one fulfilment, one superseding write, one other
write and one commit; the requests then keep it from start to end.
-/

namespace MovieApi.Billing

open ReadCommitted Sql

/-! ## Harmless statements -/

/-- A statement that changes no table and takes no lock. -/
def Reads {α : Type} : Stmt α → Prop
  | .select _ => True
  | .sense _ => True
  | .tell _ => True
  | .session step => ∀ info, (step info).2.failedIntents = info.failedIntents
  | _ => False

/-- A statement that ends no transaction and writes at most what `N` allows. -/
def Mild (N : Write → Prop) {α : Type} : Stmt α → Prop
  | .write w => N w
  | .session step => ∀ info, (step info).2.failedIntents = info.failedIntents
  | .commit => False
  | .rollback => False
  | _ => True

theorem Reads.mild {N : Write → Prop} {α : Type} (c : Stmt α) (h : Reads c) : Mild N c := by
  cases c <;> first | exact h | trivial

theorem Mild.mono {N N' : Write → Prop} (hN : ∀ w, N w → N' w) {α : Type} (c : Stmt α)
    (h : Mild N c) : Mild N' c := by
  cases c with
  | write w => exact hN w h
  | _ => exact h

/-- A query, of the database or of the world. -/
def Looks {α : Type} : Stmt α → Prop
  | .select _ => True
  | .sense _ => True
  | _ => False

/-- A statement inside a transaction that writes at most what `N` allows, and
touches neither the world nor the notes on the session. -/
def Plain (N : Write → Prop) {α : Type} : Stmt α → Prop
  | .write w => N w
  | .tell _ => False
  | .session _ => False
  | .commit => False
  | .rollback => False
  | _ => True

theorem Looks.reads {α : Type} (c : Stmt α) (h : Looks c) : Reads c := by
  cases c <;> first | exact h | trivial

theorem Looks.plain {N : Write → Prop} {α : Type} (c : Stmt α) (h : Looks c) : Plain N c := by
  cases c <;> first | exact h | trivial

theorem Plain.mild {N : Write → Prop} {α : Type} (c : Stmt α) (h : Plain N c) : Mild N c := by
  cases c <;> first | exact h | trivial

theorem Plain.mono {N N' : Write → Prop} (hN : ∀ w, N w → N' w) {α : Type} (c : Stmt α)
    (h : Plain N c) : Plain N' c := by
  cases c with
  | write w => exact hN w h
  | _ => exact h

/-! ## Programs made of them -/

section

variable {N : Write → Prop}

theorem utcNow_looks : utcNow.Every Looks := .perform trivial

theorem utcNow_reads : utcNow.Every Reads :=
  utcNow_looks.mono fun _ => Looks.reads _

theorem uuid4_looks : uuid4.Every Looks := .perform trivial

theorem uuid4_reads : uuid4.Every Reads :=
  uuid4_looks.mono fun _ => Looks.reads _

theorem uuidHex_looks : uuidHex.Every Looks := .perform trivial

theorem uuidHex_reads : uuidHex.Every Reads :=
  uuidHex_looks.mono fun _ => Looks.reads _

theorem generateKhqr_looks : generateKhqr.Every Looks := by
  refine .bind (.perform trivial) fun answer => ?_
  cases answer <;> trivial

theorem generateKhqr_reads : generateKhqr.Every Reads :=
  generateKhqr_looks.mono fun _ => Looks.reads _

theorem probeKhqrStatus_looks (md5 : String) (intentId : Option String) :
    (probeKhqrStatus md5 intentId).Every Looks := by
  unfold probeKhqrStatus
  split
  · trivial
  · refine .bind (.perform trivial) fun answer => ?_
    cases answer <;> trivial

theorem probeKhqrStatus_reads (md5 : String) (intentId : Option String) :
    (probeKhqrStatus md5 intentId).Every Reads :=
  (probeKhqrStatus_looks md5 intentId).mono fun _ => Looks.reads _

theorem checkKhqrPaid_looks (md5 : String) (intentId : Option String) :
    (checkKhqrPaid md5 intentId).Every Looks :=
  .bind (probeKhqrStatus_looks md5 intentId) fun _ => trivial

theorem refresh_looks (intent : PaymentIntent) : (refresh intent).Every Looks := by
  refine .bind (.perform trivial) fun row => ?_
  cases row <;> trivial

theorem refresh_reads (intent : PaymentIntent) : (refresh intent).Every Reads :=
  (refresh_looks intent).mono fun _ => Looks.reads _

theorem popTelegramAlerts_reads : popTelegramAlerts.Every Reads := .perform fun _ => rfl

theorem flushPendingTelegramAlerts_reads : flushPendingTelegramAlerts.Every Reads :=
  .bind popTelegramAlerts_reads fun _ => .perform trivial

theorem notifyPaymentSucceeded_reads (intent : PaymentIntent) (bank : Option String) :
    (notifyPaymentSucceeded intent bank).Every Reads := by
  have htitle : (alertTitle intent).Every Reads := by
    unfold alertTitle
    split
    · refine .bind (.perform trivial) fun title => ?_
      cases title <;> trivial
    · trivial
  have hbuyer : (alertBuyer intent).Every Reads := by
    unfold alertBuyer
    split
    · refine .bind (.perform trivial) fun row => ?_
      cases row with
      | none => trivial
      | some row => cases h : row.fullName <;> simp only [h] <;> trivial
    · trivial
    · trivial
  exact .bind (.bind htitle fun _ => .bind hbuyer fun _ => trivial) fun _ => .perform fun _ => rfl

theorem resolveActivePlan_looks (planCode : Option String) :
    (resolveActivePlan planCode).Every Looks := by
  unfold resolveActivePlan
  split
  · refine .bind (.perform trivial) fun plan => ?_
    split <;> trivial
  · refine .bind (.perform trivial) fun plan => ?_
    cases plan <;> trivial

theorem resolveActivePlan_reads (planCode : Option String) :
    (resolveActivePlan planCode).Every Reads :=
  (resolveActivePlan_looks planCode).mono fun _ => Looks.reads _

theorem resolvePlanForSubscriptionIntent_looks (intent : PaymentIntent) :
    (resolvePlanForSubscriptionIntent intent).Every Looks := by
  have hamount : (resolvePlanByAmount intent).Every Looks := by
    refine .bind (.perform trivial) fun plans => ?_
    split
    · trivial
    · exact resolveActivePlan_looks none
  unfold resolvePlanForSubscriptionIntent
  split
  · refine .bind (.perform trivial) fun plan => ?_
    split
    · trivial
    · exact hamount
  · exact hamount

theorem resolvePlanForSubscriptionIntent_reads (intent : PaymentIntent) :
    (resolvePlanForSubscriptionIntent intent).Every Reads :=
  (resolvePlanForSubscriptionIntent_looks intent).mono fun _ => Looks.reads _

theorem bakongMd5sPaid_looks (cfg : Settings) (intent : PaymentIntent) :
    (bakongMd5sPaid cfg intent).Every Looks := by
  unfold bakongMd5sPaid
  split
  · trivial
  · split
    · trivial
    · refine .bind (probeKhqrStatus_looks _ _) fun status => ?_
      cases status with
      | paid => trivial
      | unknown => trivial
      | unpaid =>
          simp only
          split
          · trivial
          · split
            · trivial
            · exact checkKhqrPaid_looks _ _

theorem bakongMd5sPaid_reads (cfg : Settings) (intent : PaymentIntent) :
    (bakongMd5sPaid cfg intent).Every Reads :=
  (bakongMd5sPaid_looks cfg intent).mono fun _ => Looks.reads _

theorem bakongQrConfirmedUnpaid_looks (cfg : Settings) (intent : PaymentIntent) :
    (bakongQrConfirmedUnpaid cfg intent).Every Looks := by
  have hall : ∀ md5s, (allUnpaid intent.intentId md5s).Every Looks := by
    intro md5s
    induction md5s with
    | nil => trivial
    | cons md5 md5s ih =>
        refine .bind (probeKhqrStatus_looks _ _) fun status => ?_
        split
        · exact ih
        · trivial
  unfold bakongQrConfirmedUnpaid
  split
  · exact hall _
  · trivial

theorem bakongQrConfirmedUnpaid_reads (cfg : Settings) (intent : PaymentIntent) :
    (bakongQrConfirmedUnpaid cfg intent).Every Reads :=
  (bakongQrConfirmedUnpaid_looks cfg intent).mono fun _ => Looks.reads _

theorem reference_plain (key : Key) (present : Db → Bool) :
    (reference key present).Every (Plain N) := by
  refine .bind (.perform trivial) fun _ => .bind (.perform trivial) fun found => ?_
  split
  · trivial
  · exact .perform trivial

theorem referenceUser_plain (user : Option Uuid) : (referenceUser user).Every (Plain N) := by
  cases user with
  | none => trivial
  | some user => exact reference_plain _ _

theorem referenceUser_mild (user : Option Uuid) : (referenceUser user).Every (Mild N) :=
  (referenceUser_plain user).mono fun _ => Plain.mild _

theorem referenceTitle_plain (title : Title) (id : Option Uuid) :
    (referenceTitle title id).Every (Plain N) := by
  cases id with
  | none => trivial
  | some id => exact reference_plain _ _

theorem referenceTitle_mild (title : Title) (id : Option Uuid) :
    (referenceTitle title id).Every (Mild N) :=
  (referenceTitle_plain title id).mono fun _ => Plain.mild _

theorem enterUnique_plain (key : Key) (taken : Db → Bool) :
    (enterUnique key taken).Every (Plain N) := by
  refine .bind (.perform trivial) fun entered => ?_
  split
  · trivial
  · exact .perform trivial

theorem enterUnique_mild (key : Key) (taken : Db → Bool) :
    (enterUnique key taken).Every (Mild N) :=
  (enterUnique_plain key taken).mono fun _ => Plain.mild _

theorem lockBuyer_plain (user : Option Uuid) : (lockBuyer user).Every (Plain N) := by
  cases user with
  | none => trivial
  | some user =>
      refine .bind (.perform trivial) fun found => ?_
      split
      · exact .perform trivial
      · trivial

theorem lockBuyer_mild (user : Option Uuid) : (lockBuyer user).Every (Mild N) :=
  (lockBuyer_plain user).mono fun _ => Plain.mild _

theorem addIntent_plain {row : PaymentIntent} (h : N (.insertIntent row)) :
    (addIntent row).Every (Plain N) :=
  .bind (enterUnique_plain _ _) fun _ => .bind (enterUnique_plain _ _) fun _ =>
    .bind (.forEach fun _ => enterUnique_plain _ _) fun _ =>
    .bind (.forEach fun _ => enterUnique_plain _ _) fun _ =>
    .bind (referenceUser_plain _) fun _ => .bind (referenceTitle_plain _ _) fun _ =>
    .bind (referenceTitle_plain _ _) fun _ => .perform h

theorem addIntent_mild {row : PaymentIntent} (h : N (.insertIntent row)) :
    (addIntent row).Every (Mild N) :=
  (addIntent_plain h).mono fun _ => Plain.mild _

theorem regenerateBakongQr_plain (intent : PaymentIntent)
    (h : ∀ md5 qr merchant at_, N (.replaceQr intent md5 qr merchant at_)) :
    (regenerateBakongQr intent).Every (Plain N) :=
  .bind (generateKhqr_looks.mono fun _ => Looks.plain _) fun _ =>
    .bind (utcNow_looks.mono fun _ => Looks.plain _) fun _ =>
    .bind (enterUnique_plain _ _) fun _ => .perform (h _ _ _ _)

theorem regenerateBakongQr_mild (intent : PaymentIntent)
    (h : ∀ md5 qr merchant at_, N (.replaceQr intent md5 qr merchant at_)) :
    (regenerateBakongQr intent).Every (Mild N) :=
  (regenerateBakongQr_plain intent h).mono fun _ => Plain.mild _

theorem addApproval_plain {row : PaymentApproval} (h : N (.insertApproval row)) :
    (addApproval row).Every (Plain N) :=
  .bind (reference_plain _ _) fun _ => .bind (referenceUser_plain _) fun _ => .perform h

theorem addApproval_mild {row : PaymentApproval} (h : N (.insertApproval row)) :
    (addApproval row).Every (Mild N) :=
  (addApproval_plain h).mono fun _ => Plain.mild _

theorem sweepPaid_looks (intent : PaymentIntent) (status : ProbeStatus) :
    (sweepPaid intent status).Every Looks := by
  cases status with
  | unknown => trivial
  | paid => trivial
  | unpaid =>
      unfold sweepPaid
      simp only
      split
      · trivial
      · split
        · trivial
        · refine .bind (probeKhqrStatus_looks _ _) fun status => ?_
          cases status <;> trivial

theorem sweepPaid_reads (intent : PaymentIntent) (status : ProbeStatus) :
    (sweepPaid intent status).Every Reads :=
  (sweepPaid_looks intent status).mono fun _ => Looks.reads _

theorem insertReceipt_plain (title : Title) {row : Receipt} (h : N (.insertReceipt title row)) :
    (insertReceipt title row).Every (Plain N) := by
  refine .bind (.perform trivial) fun entered => ?_
  split
  · exact .bind (enterUnique_plain _ _) fun _ => .bind (referenceUser_plain _) fun _ =>
      .bind (referenceTitle_plain _ _) fun _ => .perform h
  · trivial

theorem insertReceipt_mild (title : Title) {row : Receipt} (h : N (.insertReceipt title row)) :
    (insertReceipt title row).Every (Mild N) :=
  (insertReceipt_plain title h).mono fun _ => Plain.mild _

theorem insertPayment_plain {row : SubscriptionPayment} (h : N (.insertPayment row)) :
    (insertPayment row).Every (Plain N) := by
  refine .bind (.perform trivial) fun entered => ?_
  split
  · exact .bind (enterUnique_plain _ _) fun _ => .perform h
  · trivial

theorem insertPayment_mild {row : SubscriptionPayment} (h : N (.insertPayment row)) :
    (insertPayment row).Every (Mild N) :=
  (insertPayment_plain h).mono fun _ => Plain.mild _

theorem lockSubscription_plain (user : Option Uuid) : (lockSubscription user).Every (Plain N) := by
  refine .bind (.perform trivial) fun row => ?_
  cases row with
  | none => trivial
  | some row => exact .bind (.perform trivial) fun _ => .perform trivial

theorem lockSubscription_mild (user : Option Uuid) : (lockSubscription user).Every (Mild N) :=
  (lockSubscription_plain user).mono fun _ => Plain.mild _

theorem saveSubscription_plain (subscription? : Option Subscription) (user : Option Uuid)
    (plan : String) (now periodEnd : Instant) (hinsert : ∀ row, N (.insertSubscription row))
    (hupdate : ∀ row, N (.updateSubscription row)) :
    (saveSubscription subscription? user plan now periodEnd).Every (Plain N) := by
  cases subscription? with
  | some row => exact .bind (.perform (hupdate _)) fun _ => trivial
  | none =>
      cases user with
      | none => exact .bind (.perform trivial) fun _ => trivial
      | some user =>
          exact .bind (uuid4_looks.mono fun _ => Looks.plain _) fun _ =>
            .bind (enterUnique_plain _ _) fun _ => .bind (referenceUser_plain _) fun _ =>
            .bind (.perform (hinsert _)) fun _ => trivial

theorem saveSubscription_mild (subscription? : Option Subscription) (user : Option Uuid)
    (plan : String) (now periodEnd : Instant) (hinsert : ∀ row, N (.insertSubscription row))
    (hupdate : ∀ row, N (.updateSubscription row)) :
    (saveSubscription subscription? user plan now periodEnd).Every (Mild N) :=
  (saveSubscription_plain subscription? user plan now periodEnd hinsert hupdate).mono fun _ => Plain.mild _

theorem grantSubscription_mild (intent : PaymentIntent) (now : Instant) (bank : Option String)
    (hinsert : ∀ row, N (.insertSubscription row)) (hupdate : ∀ row, N (.updateSubscription row))
    (hpayment : ∀ row, N (.insertPayment row)) :
    (grantSubscription intent now bank).Every (Mild N) := by
  refine .bind (.perform trivial) fun found => ?_
  split
  · trivial
  · exact .bind (lockBuyer_mild _) fun _ =>
      .bind ((resolvePlanForSubscriptionIntent_reads intent).mono fun _ => Reads.mild _) fun _ =>
      .bind (lockSubscription_mild _) fun _ =>
      .bind (saveSubscription_mild _ _ _ _ _ hinsert hupdate) fun _ =>
      .bind (insertPayment_mild (hpayment _)) fun _ =>
        (notifyPaymentSucceeded_reads intent bank).mono fun _ => Reads.mild _

/-- A grant resolves no intent. -/
theorem grant_mild (intent : PaymentIntent) (now : Instant) (bank : Option String)
    (hreceipt : ∀ title row, N (.insertReceipt title row))
    (hinsert : ∀ row, N (.insertSubscription row)) (hupdate : ∀ row, N (.updateSubscription row))
    (hpayment : ∀ row, N (.insertPayment row)) : (grant intent now bank).Every (Mild N) := by
  have hnotify : (notifyPaymentSucceeded intent bank).Every (Mild N) :=
    (notifyPaymentSucceeded_reads intent bank).mono fun _ => Reads.mild _
  have htitle : ∀ title id, (grantTitle title id intent bank).Every (Mild N) := by
    intro title id
    refine .bind (.perform trivial) fun found => ?_
    split
    · trivial
    · exact .bind (insertReceipt_mild title (hreceipt _ _)) fun _ => hnotify
  unfold grant
  split
  · split
    · exact htitle _ _
    · exact hnotify
  · split
    · exact htitle _ _
    · exact hnotify
  · exact grantSubscription_mild intent now bank hinsert hupdate hpayment

end

/-! ## Bookkeeping -/

/-- The assertion kept: `L`, unless the transaction is doomed. -/
def Books (t : Tid) (L : Store → Prop) (s : Store) : Prop :=
  s.doomed t = true ∨ L s

/-- The store after session `t` made a write. -/
def wrote (t : Tid) (w : Write) (s : Store) : Store :=
  ((s.begin t).acquire t w.needs).record t w

/-- The store after session `t` noted the failed fulfilment of an intent. -/
def noted (t : Tid) (intentId : String) (s : Store) : Store :=
  { s with
    info := Function.update s.info t
      { s.info t with failedIntents := (s.info t).failedIntents ++ [intentId] } }

/-- Session `t` holds the row `FOR UPDATE` and reads it as `row`. -/
def LockedRow (t : Tid) (row : PaymentIntent) (s : Store) : Prop :=
  s.Holds t (.intent row.intentId) .update ∧ (s.view t).intent? row.intentId = some row

theorem lockedRow_stable {C : Contract} {t : Tid} {row : PaymentIntent} :
    Stable C t (LockedRow t row) :=
  ⟨fun hb h => ⟨hb.holds_iff.2 h.1, ((hb.agree_view h.1) (by decide)).symm.trans h.2⟩⟩

/-- What it takes to keep `L` while session `t` goes on with its transaction.
`N` names the writes, other than those that resolve an intent, it may make. -/
structure Upkeep (C : Contract) (t : Tid) (N : Write → Prop) (L : Store → Prop) : Prop where
  stable : Stable C t L
  quiet : ∀ {s s' : Store}, Quiet t s s' →
    (s'.info t).failedIntents = (s.info t).failedIntents → L s → L s'
  mild : ∀ {α : Type} (c : Stmt α) (s : Store), Mild (fun _ => False) c → C.Obl t c s
  write : ∀ w, N w → ∀ s, Calm C s → L s → s.doomed t = false →
    C.Obl t (.write w : Stmt Unit) s ∧ L (wrote t w s)

/-- What it takes to keep `L` over whole sessions, fulfilments apart. -/
structure Ledger (C : Contract) (t : Tid) (N : Write → Prop) (L : Store → Prop) : Prop
    extends Upkeep C t N L where
  rollback : ∀ s, C.Obl t (.rollback : Stmt Unit) s
  session : ∀ {α : Type} (step : Info → α × Info) s, C.Obl t (.session step : Stmt α) s
  finish : ∀ s : Store, L (s.finish t)
  note : ∀ s intentId, L s → L (noted t intentId s)
  stableNoted : ∀ intentId, Stable C t fun s => L (noted t intentId s)
  supersede : ∀ copy at_ s, copy.status = .pending → Calm C s → L s → s.doomed t = false →
    C.Obl t (.write (.resolveIntent copy .superseded at_) : Stmt Unit) s ∧
      L (wrote t (.resolveIntent copy .superseded at_) s)
  commit : ∀ s, Calm C s → L s → s.doomed t = false → C.Obl t (.commit : Stmt Unit) s

/-- A ledger that fulfilments keep too. -/
structure Bookkeeping (C : Contract) (t : Tid) (N : Write → Prop) (L : Store → Prop) : Prop
    extends Ledger C t N L where
  fulfill : ∀ intent bank, Triple C t (Books t L) (fulfillPaymentIntent intent bank)
    (fun _ => Books t L) fun _ s => L (noted t intent.intentId s)

/-- A statement that neither writes nor ends the transaction moves quietly. -/
theorem Mild.quiet {α : Type} {c : Stmt α} {t : Tid} {s s' : Store} {r : Except Err α}
    (hc : Mild (fun _ => False) c) (h : c.exec t s = some (r, s')) :
    Quiet t s s' ∧ (s'.info t).failedIntents = (s.info t).failedIntents := by
  cases c with
  | write w => exact hc.elim
  | commit => exact hc.elim
  | rollback => exact hc.elim
  | session step =>
      simp only [Stmt.exec, Option.some.injEq, Prod.mk.injEq] at h
      rw [← h.2]
      exact ⟨.session t s _, by simpa using hc (s.info t)⟩
  | select | lock | tryLock | enter | reject | sense | tell =>
      simp only [Stmt.exec] at h
      repeat' split at h
      all_goals simp only [Option.some.injEq, Prod.mk.injEq, reduceCtorEq] at h
      all_goals rw [← h.2]
      all_goals first
        | exact ⟨.refl t s, rfl⟩
        | exact ⟨.begin t s, rfl⟩
        | exact ⟨.acquire t s _, rfl⟩
        | exact ⟨.doom t s, rfl⟩
        | exact ⟨.world t s _, rfl⟩

theorem Mild.doomed_of_exec {α : Type} {c : Stmt α} {t : Tid} {s s' : Store} {r : Except Err α}
    (hc : Mild (fun _ => False) c) (h : c.exec t s = some (r, s')) (hd : s.doomed t = true) :
    s'.doomed t = true := by
  cases c with
  | write w => exact hc.elim
  | commit => exact hc.elim
  | rollback => exact hc.elim
  | _ =>
      simp only [Stmt.exec, hd, if_true, Option.some.injEq, Prod.mk.injEq] at h
      rw [← h.2]
      exact hd

namespace Upkeep

variable {C : Contract} {t : Tid} {N : Write → Prop} {L : Store → Prop}

variable (B : Upkeep C t N L)
include B

theorem books_stable : Stable C t (Books t L) := .or (.doomed true) B.stable

theorem books_of_mild {α : Type} {c : Stmt α} (hc : Mild N c) (s : Store) (hcalm : Calm C s)
    (hs : Books t L s) : (s.doomed t = false → C.Obl t c s) ∧
      ∀ a s', c.exec t s = some (.ok a, s') → Books t L s' := by
  have hlive : s.doomed t = false → L s := fun hd => hs.resolve_left (by simp [hd])
  have hquiet : Mild (fun _ => False) c → (s.doomed t = false → C.Obl t c s) ∧
      ∀ a s', c.exec t s = some (.ok a, s') → Books t L s' := by
    intro hc
    refine ⟨fun _ => B.mild c s hc, fun a s' hexec => ?_⟩
    obtain ⟨hq, hinfo⟩ := hc.quiet hexec
    exact hs.imp (hc.doomed_of_exec hexec) (B.quiet hq hinfo)
  cases c with
  | write w =>
      refine ⟨fun hd => (B.write w hc s hcalm (hlive hd) hd).1, fun a s' hexec => ?_⟩
      simp only [Stmt.exec] at hexec
      repeat' split at hexec
      all_goals simp only [Option.some.injEq, Prod.mk.injEq, reduceCtorEq, false_and] at hexec
      next hd _ =>
        have hd : s.doomed t = false := by simpa using hd
        rw [← hexec.2]
        exact .inr (B.write w hc s hcalm (hlive hd) hd).2
  | commit => exact hc.elim
  | rollback => exact hc.elim
  | _ => exact hquiet hc

/-- Harmless programs keep the books. -/
theorem every {α : Type} {p : Prog α} (hp : p.Every (Mild N)) :
    Triple C t (Books t L) p (fun _ => Books t L) fun _ => Books t L :=
  .every B.books_stable (fun _ hc => B.books_of_mild hc) hp

theorem reads {α : Type} {p : Prog α} (hp : p.Every Reads) :
    Triple C t (Books t L) p (fun _ => Books t L) fun _ => Books t L :=
  B.every (hp.mono fun _ => Reads.mild _)

/-- Whatever the answer of a query is like, the books are kept. -/
theorem select {α : Type} {query : Db → α} {φ : α → Prop} (hφ : ∀ d, φ (query d))
    {R : Err → Store → Prop} :
    Triple C t (Books t L) (.select query) (fun a s => φ a ∧ Books t L s) R :=
  .select B.books_stable fun s _ hs _ =>
    ⟨B.mild _ s trivial, hφ _, hs.imp_right (B.quiet (.begin t s) rfl)⟩

/-- A locked intent is the row the session reads. -/
theorem lockIntent (intentId : String) :
    Triple C t (Books t L) (lockIntent intentId)
      (fun row? s => (∀ row, row? = some row → row.intentId = intentId ∧ LockedRow t row s) ∧
        Books t L s) fun _ => Books t L := by
  refine .bind (B.every (.perform trivial)) fun found => ?_
  split
  · refine .bind (.lock (Q := fun _ s => s.Holds t (.intent intentId) .update ∧ Books t L s)
      B.books_stable fun s _ hs _ => ⟨B.mild _ s trivial, fun _ =>
        ⟨by simp, hs.imp_right (B.quiet (.acquire t s _) rfl)⟩⟩) fun _ => ?_
    refine .select (Stable.and (.holds _ _) B.books_stable) fun s _ hs _ =>
      ⟨B.mild _ s trivial, fun row hrow => ?_, hs.2.imp_right (B.quiet (.begin t s) rfl)⟩
    have hkey : row.intentId = intentId := key_of_lookup hrow
    refine ⟨hkey, ?_, ?_⟩
    · rw [hkey]
      exact hs.1
    · rw [hkey]
      exact hrow
  · exact .ret fun s hs => ⟨by simp, hs⟩

/-- The locked rows qualify. -/
theorem lockIntents (qualifies : PaymentIntent → Bool) (intentIds : List String) :
    Triple C t (Books t L) (lockIntents qualifies intentIds)
      (fun rows s => (∀ row ∈ rows, qualifies row = true) ∧ Books t L s) fun _ => Books t L := by
  induction intentIds with
  | nil => exact .ret fun s hs => ⟨by simp, hs⟩
  | cons intentId intentIds ih =>
      refine .bind (B.every (.perform trivial)) fun _ => ?_
      refine .bind (B.select (φ := fun row? => ∀ row ∈ row?, qualifies row = true) ?_)
        fun row? => ?_
      · intro d row hrow
        exact (Option.filter_eq_some_iff.1 hrow).2
      · refine .given (fun s hs => hs.1) fun hrow => ?_
        refine .pre (.bind ih fun rows => ?_) fun s hs => hs.2
        refine .ret fun s hs => ⟨fun row hmem => ?_, hs.2⟩
        rcases List.mem_append.1 hmem with hmem | hmem
        · exact hrow row (by simpa using hmem)
        · exact hs.1 row hmem

end Upkeep

namespace Ledger

variable {C : Contract} {t : Tid} {N : Write → Prop} {L : Store → Prop}

variable (B : Ledger C t N L)
include B

theorem commitStmt {R : Err → Store → Prop} :
    Triple C t (Books t L) .commit (fun _ => Books t L) R :=
  .commit B.books_stable fun s hc hs => ⟨fun _ => .inr (B.finish s), fun hd =>
    ⟨B.commit s hc (hs.resolve_left (by simp [hd])) hd, .inr (B.finish _)⟩⟩

theorem rollbackStmt {P : Store → Prop} (hP : Stable C t P) {R : Err → Store → Prop} :
    Triple C t P .rollback (fun _ => Books t L) R :=
  .rollback hP fun s _ _ => ⟨fun _ => B.rollback s, .inr (B.finish s)⟩

theorem commitWithTelegram :
    Triple C t (Books t L) commitWithTelegram (fun _ => Books t L) fun _ => Books t L :=
  .bind B.commitStmt fun _ => B.reads flushPendingTelegramAlerts_reads

theorem commitAndRefresh (intent : PaymentIntent) :
    Triple C t (Books t L) (commitAndRefresh intent) (fun _ => Books t L)
      fun _ => Books t L :=
  .bind B.commitWithTelegram fun _ => B.reads (refresh_reads intent)

/-- A fulfilment: the status write on the locked row, then the grant. -/
theorem fulfillPaymentIntent {P : PaymentIntent → Instant → Store → Prop}
    (intent : PaymentIntent) (bank : Option String)
    (hwrite : ∀ locked now s, locked.intentId = intent.intentId → locked.status ≠ .succeeded →
      Calm C s → LockedRow t locked s → L s → s.doomed t = false →
        C.Obl t (.write (.resolveIntent locked .succeeded (some now)) : Stmt Unit) s ∧
          P locked now (wrote t (.resolveIntent locked .succeeded (some now)) s))
    (hgrant : ∀ locked now, locked.intentId = intent.intentId →
      Triple C t (P locked now)
        (grant (locked.resolved .succeeded (some now)) now bank) (fun _ => Books t L)
        fun _ s => L (noted t intent.intentId s)) :
    Triple C t (Books t L) (fulfillPaymentIntent intent bank) (fun _ => Books t L)
      fun _ s => L (noted t intent.intentId s) := by
  have hnote : ∀ (e : Err) s, s.doomed t = true ∨ Books t L s → s.doomed t = true ∨
      L (noted t intent.intentId s) := fun _ s hs =>
    hs.elim .inl fun hs => hs.imp_right (B.note s _)
  refine .bind (fun s hs => (B.lockIntent intent.intentId s hs).mono (fun _ _ => id) hnote)
    fun locked? => ?_
  cases locked? with
  | none => exact .ret fun s hs => hs.2
  | some locked =>
      refine .pre (P := fun s => locked.intentId = intent.intentId ∧ LockedRow t locked s ∧
        Books t L s) ?_ fun s hs => ⟨(hs.1 locked rfl).1, (hs.1 locked rfl).2, hs.2⟩
      refine .given (fun s hs => hs.1) fun hid => .pre ?_ fun s hs => hs.2
      simp only
      split
      · exact .ret fun s hs => hs.2
      next hstatus =>
        have hstable : Stable C t fun s => LockedRow t locked s ∧ Books t L s :=
          .and lockedRow_stable B.books_stable
        refine .bind (.sense (Q := fun _ s => LockedRow t locked s ∧ Books t L s) hstable
          fun s _ hs => ⟨fun _ => B.mild _ s trivial, hs⟩) fun now => ?_
        refine .bind (.write (Q := fun _ => P locked now) hstable fun s hc hs hd => ?_) fun _ =>
          .bind (hgrant locked now hid) fun _ => .ret fun _ hs => hs
        have hlive := hs.2.resolve_left (by simp [hd])
        obtain ⟨hobl, hP⟩ := hwrite locked now s hid hstatus hc hs.1 hlive hd
        exact ⟨hobl, fun _ => hP⟩

/-! ### Parts of a request

An exception that nothing handles ends the request, and with it the
transaction. -/

theorem part {α : Type} {p : Prog α} (hp : p.Every (Mild N)) :
    Triple C t (Books t L) p (fun _ => Books t L) fun _ _ => True :=
  (B.every hp).conseq (fun _ => id) (fun _ _ => id) fun _ _ _ => trivial

theorem partReads {α : Type} {p : Prog α} (hp : p.Every Reads) :
    Triple C t (Books t L) p (fun _ => Books t L) fun _ _ => True :=
  B.part (hp.mono fun _ => Reads.mild _)

theorem closing {α : Type} {p : Prog α} {P : Store → Prop}
    (h : Triple C t P p (fun _ => Books t L) fun _ _ => True) :
    Triple C t P (closing p) (fun _ => Books t L) fun _ _ => True := by
  refine .bind (Q := fun _ _ => True) ?_ fun _ => B.rollbackStmt (.pure True)
  refine .tryCatch (M := fun _ _ => True) ?_ fun e => ?_
  · exact .bind h fun _ => .ret fun _ _ => trivial
  · refine .bind (B.rollbackStmt ?_) fun _ => .raise fun _ _ => trivial
    exact .or (.doomed true) (.pure True)

end Ledger

end MovieApi.Billing
