import MovieApi.Billing.Bookkeeping

/-!
# Requests keep the books

Each request of the application, from the settlement of one intent up to a
whole session, keeps what `Bookkeeping` keeps.
-/

namespace MovieApi.Billing

open ReadCommitted Sql

/-! ## What queries answer -/

theorem mem_pendingLookup {qualifies : PaymentIntent → Bool} {d : Db} {row : PaymentIntent}
    (h : row ∈ pendingLookup qualifies d) : qualifies row = true := by
  simp only [pendingLookup, oldestFirst, mem_orderBy] at h
  exact (List.mem_filter.1 h).2

theorem PaymentIntent.pending_of_pendingTitle {title : Title} {user : Option Uuid}
    {guest : Option String} {titleId : Uuid} {row : PaymentIntent}
    (h : row.pendingTitle title user guest titleId = true) : row.status = .pending := by
  simp only [pendingTitle, Bool.and_eq_true, decide_eq_true_eq] at h
  exact h.2.2.2.2

theorem PaymentIntent.pending_of_pendingPlan {user : Uuid} {plan : String} {amount : Int}
    {row : PaymentIntent} (h : row.pendingPlan user plan amount = true) :
    row.status = .pending := by
  simp only [pendingPlan, decide_eq_true_eq] at h
  exact h.2.2.2.1

theorem lockIntentsSkipLocked_plain {N : Write → Prop} (qualifies : PaymentIntent → Bool) (n : Nat)
    (intentIds : List String) :
    (lockIntentsSkipLocked qualifies n intentIds).Every (Plain N) := by
  induction intentIds generalizing n with
  | nil => cases n <;> trivial
  | cons intentId intentIds ih =>
      cases n with
      | zero => trivial
      | succ n =>
          refine .bind (.perform trivial) fun locked => ?_
          split
          · refine .bind (.perform trivial) fun row => ?_
            cases row with
            | none => exact ih (n + 1)
            | some row => exact .bind (ih n) fun _ => trivial
          · exact ih (n + 1)

theorem lockIntentsSkipLocked_mild {N : Write → Prop} (qualifies : PaymentIntent → Bool) (n : Nat)
    (intentIds : List String) :
    (lockIntentsSkipLocked qualifies n intentIds).Every (Mild N) :=
  (lockIntentsSkipLocked_plain qualifies n intentIds).mono fun _ => Plain.mild _

/-! ## Settlement -/

namespace Bookkeeping

variable {C : Contract} {t : Tid} {N : Write → Prop} {L : Store → Prop}
  (B : Bookkeeping C t N L)
include B

theorem markSucceededIfAlreadyPurchased {intent : PaymentIntent} (h : intent.status = .pending) :
    Triple C t (Books t L) (markSucceededIfAlreadyPurchased intent) (fun _ => Books t L)
      fun _ => Books t L := by
  unfold Billing.markSucceededIfAlreadyPurchased
  split
  · refine .bind (B.every (.perform trivial)) fun owned => ?_
    split
    · refine .bind (B.reads utcNow_reads) fun now => .bind (Q := fun _ => Books t L) ?_ fun _ => ?_
      · refine .write B.books_stable fun s hc hs hd => ?_
        have hlive := hs.resolve_left (by simp [hd])
        obtain ⟨hobl, hL⟩ := B.supersede intent (some now) s h hc hlive hd
        exact ⟨hobl, fun _ => .inr hL⟩
      · exact .ret fun _ hs => hs
    · exact .ret fun _ hs => hs
  · exact .ret fun _ hs => hs

theorem supersedeIfOwned {intent : PaymentIntent} (check : Bool) (h : intent.status = .pending) :
    Triple C t (Books t L) (supersedeIfOwned check intent) (fun _ => Books t L)
      fun _ => Books t L := by
  unfold Billing.supersedeIfOwned
  split
  · exact B.markSucceededIfAlreadyPurchased h
  · exact .ret fun _ hs => hs

theorem settleBakongIntentIfPaid (cfg : Settings) (intent : PaymentIntent) :
    Triple C t (Books t L) (settleBakongIntentIfPaid cfg intent) (fun _ => Books t L)
      fun _ s => L (noted t intent.intentId s) := by
  unfold Billing.settleBakongIntentIfPaid
  split
  · exact .ret fun _ hs => hs
  split
  · exact .ret fun _ hs => hs
  split
  · exact .ret fun _ hs => hs
  have hpaid := B.reads (bakongMd5sPaid_reads cfg intent)
  refine .bind (Q := fun _ => Books t L) ?_ fun paid => ?_
  · intro s hs
    refine (hpaid s hs).mono (fun _ _ => id) fun e s hs => ?_
    rcases hs with hd | hd | hL
    · exact .inl hd
    · exact .inl hd
    · exact .inr (B.note _ _ hL)
  · split
    · exact .bind (B.fulfill intent _) fun _ => .ret fun _ hs => hs
    · exact .ret fun _ hs => hs

/-- A settlement whose exception ends the request. -/
theorem settle (cfg : Settings) (intent : PaymentIntent) :
    Triple C t (Books t L) (Billing.settleBakongIntentIfPaid cfg intent) (fun _ => Books t L)
      fun _ _ => True :=
  (B.settleBakongIntentIfPaid cfg intent).conseq (fun _ => id) (fun _ _ => id)
    fun _ _ _ => trivial

theorem settleFirstPaid (cfg : Settings) (intents : List PaymentIntent) :
    Triple C t (Books t L) (settleFirstPaid cfg intents) (fun _ => Books t L)
      fun _ _ => True := by
  induction intents with
  | nil => exact .ret fun _ hs => hs
  | cons intent intents ih =>
      refine .bind (B.settle cfg intent) fun settled => ?_
      split
      · exact .ret fun _ hs => hs
      · exact ih

/-- A refreshed intent is the intent. -/
theorem refresh (intent : PaymentIntent) :
    Triple C t (Books t L) (Billing.refresh intent)
      (fun row s => row.intentId = intent.intentId ∧ Books t L s) fun _ _ => True := by
  have hid : ∀ (d : Db) (row : PaymentIntent), row ∈ d.intent? intent.intentId →
      row.intentId = intent.intentId := fun _ _ hrow => by
    rw [Db.intent?, Option.mem_def] at hrow
    exact key_of_lookup hrow
  refine .bind (B.select (φ := fun row? => ∀ row ∈ row?, row.intentId = intent.intentId) hid)
    fun row? => ?_
  cases row? with
  | none => exact .raise fun _ _ => trivial
  | some row => exact .ret fun s hs => ⟨hs.1 row rfl, hs.2⟩

/-- The request goes on with the intent it has committed. -/
theorem refreshed (intent : PaymentIntent) :
    Triple C t (Books t L) (Billing.commitAndRefresh intent)
      (fun row s => row.intentId = intent.intentId ∧ Books t L s) fun _ _ => True :=
  .bind (B.commitWithTelegram.conseq (fun _ => id) (fun _ _ => id) fun _ _ _ => trivial)
    fun _ => B.refresh intent

theorem finishRequest (intent : PaymentIntent) :
    Triple C t (Books t L) (Billing.commitAndRefresh intent) (fun _ => Books t L)
      fun _ _ => True :=
  (B.refreshed intent).post fun _ _ hs => hs.2

theorem supersedeOwned {intent : PaymentIntent} (check : Bool) (h : intent.status = .pending) :
    Triple C t (Books t L) (Billing.supersedeIfOwned check intent) (fun _ => Books t L)
      fun _ _ => True :=
  (B.supersedeIfOwned check h).conseq (fun _ => id) (fun _ _ => id) fun _ _ _ => trivial

theorem playbackSettle (cfg : Settings) (contentId : Uuid) (user : Option Uuid)
    (guest : Option String) :
    Triple C t (Books t L) (playbackSettle cfg contentId user guest) (fun _ => Books t L)
      fun _ _ => True := by
  refine .bind (Q := fun _ => Books t L) ?_ fun settled => ?_
  · unfold settlePendingMovieBakongForBuyer
    split
    · exact .ret fun _ hs => hs
    split
    · exact .ret fun _ hs => hs
    refine .bind (B.part (.perform trivial)) fun blocked => ?_
    split
    · exact .ret fun _ hs => hs
    · exact .bind (B.part (.perform trivial)) fun intents => B.settleFirstPaid cfg intents
  · split
    · exact B.commitStmt
    · exact .ret fun _ hs => hs

/-! ## Checkout -/

/-- What is reused is the pending intent, settled or refreshed as may be. -/
theorem reuseOrRefresh (cfg : Settings) {pending : PaymentIntent} (check : Bool)
    (hqr : Triple C t (Books t L) (regenerateBakongQr pending) (fun _ => Books t L) fun _ _ => True)
    (h : pending.status = .pending) :
    Triple C t (Books t L) (Billing.reuseOrRefreshPending cfg pending check)
      (fun row s => row.intentId = pending.intentId ∧ Books t L s) fun _ _ => True := by
  refine .bind (B.partReads utcNow_reads) fun now => ?_
  split
  · refine .bind (B.supersedeOwned check h) fun owned => ?_
    split
    · exact B.refreshed pending
    · exact .ret fun _ hs => ⟨rfl, hs⟩
  refine .bind (B.settle cfg pending) fun settled => ?_
  split
  · exact B.refreshed pending
  refine .bind (B.supersedeOwned check h) fun owned => ?_
  split
  · exact B.refreshed pending
  refine .bind (B.partReads (bakongQrConfirmedUnpaid_reads cfg pending)) fun unpaid => ?_
  split
  · exact .bind hqr fun _ => B.refreshed pending
  · exact .ret fun _ hs => ⟨rfl, hs⟩

theorem reuseOrRefreshPending (cfg : Settings) {pending : PaymentIntent} (check : Bool)
    (hN : ∀ md5 qr merchant at_, N (.replaceQr pending md5 qr merchant at_))
    (h : pending.status = .pending) :
    Triple C t (Books t L) (reuseOrRefreshPending cfg pending check) (fun _ => Books t L)
      fun _ _ => True :=
  (B.reuseOrRefresh cfg check (B.part (regenerateBakongQr_mild pending hN)) h).post
    fun _ _ hs => hs.2

/-! ## Polling -/

theorem settlePendingIntentOnPoll (cfg : Settings) (intent : PaymentIntent) :
    Triple C t (Books t L) (settlePendingIntentOnPoll cfg intent) (fun _ => Books t L)
      fun _ _ => True := by
  unfold Billing.settlePendingIntentOnPoll
  split
  · exact .ret fun _ hs => hs
  next hguard =>
    have hpending : intent.status = .pending := by
      by_contra h
      exact hguard (.inr h)
    refine .bind (B.supersedeOwned true hpending) fun owned => ?_
    split
    · exact B.finishRequest intent
    split
    · exact .ret fun _ hs => hs
    refine .bind (B.part (.perform trivial)) fun blocked => ?_
    split
    · exact .bind (B.part (.perform trivial)) fun _ => .ret fun _ hs => hs
    refine .bind (Q := fun _ => Books t L) ?_ fun settled =>
      .bind (B.part (.perform trivial)) fun _ => .ret fun _ hs => hs
    refine .bind (B.settle cfg intent) fun settled => ?_
    split
    · exact B.finishRequest intent
    split
    · next contentId _ =>
        refine .bind (B.part (.perform trivial)) fun sibling => ?_
        cases sibling with
        | none => exact .ret fun _ hs => hs
        | some sibling =>
            refine .bind (B.settle cfg sibling) fun settled => ?_
            obtain ⟨paid, settled⟩ := settled
            cases paid with
            | false => exact .ret fun _ hs => hs
            | true =>
                refine .bind (Q := fun _ => Books t L) ?_ fun _ => B.finishRequest intent
                refine .write B.books_stable fun s hc hs hd => ?_
                have hlive := hs.resolve_left (by simp [hd])
                obtain ⟨hobl, hL⟩ :=
                  B.supersede intent settled.resolvedAt s hpending hc hlive hd
                exact ⟨hobl, fun _ => .inr hL⟩
    · exact .ret fun _ hs => hs

/-! ## The sweeper -/

theorem attempt {α : Type} {p : Prog α} (hp : p.Every Reads) :
    Triple C t (Books t L) (attempt p) (fun _ => Books t L) fun _ _ => True := by
  refine .tryCatch (M := fun _ => Books t L) ?_ fun e => .ret fun _ hs => hs.elim .inl id
  exact .bind (B.reads hp) fun _ => .ret fun _ hs => hs

theorem noteFailure (intentId : String) :
    Triple C t (fun s => s.doomed t = true ∨ L (noted t intentId s)) (noteFailure intentId)
      (fun _ => Books t L) fun _ _ => True :=
  .session (.or (.doomed true) (B.stableNoted intentId)) fun s _ hs =>
    ⟨fun _ => B.session _ s, hs⟩

theorem sweepSettle (cfg : Settings) (intent : PaymentIntent) :
    Triple C t (Books t L) (sweepSettle cfg intent) (fun _ => Books t L) fun _ _ => True := by
  refine .tryCatch ?_ fun e => .bind (B.noteFailure intent.intentId) fun _ => .ret fun _ hs => hs
  refine .bind (B.settleBakongIntentIfPaid cfg intent) fun settled => ?_
  split <;> exact .ret fun _ hs => hs

theorem sweepEach (cfg : Settings) (settled : Nat) (intents : List PaymentIntent) :
    Triple C t (Books t L) (sweepEach cfg settled intents) (fun _ => Books t L)
      fun _ _ => True := by
  induction intents generalizing settled with
  | nil => exact .ret fun _ hs => hs
  | cons intent intents ih =>
      refine .bind (B.part (.perform trivial)) fun blocked => ?_
      split
      · exact .ret fun _ hs => hs
      refine .bind (B.attempt (probeKhqrStatus_reads _ _)) fun status => ?_
      cases status with
      | none => exact ih settled
      | some status =>
          refine .bind (B.partReads (sweepPaid_reads intent status)) fun paid => ?_
          cases paid with
          | none => exact .ret fun _ hs => hs
          | some paid =>
              cases paid with
              | false => exact ih settled
              | true => exact .bind (B.sweepSettle cfg intent) fun n => ih (settled + n)

theorem sweepPendingBakongIntents (cfg : Settings) :
    Triple C t (Books t L) (sweepPendingBakongIntents cfg) (fun _ => Books t L)
      fun _ _ => True := by
  refine .bind (B.part (.perform trivial)) fun paused => ?_
  split
  · exact .ret fun _ hs => hs
  refine .bind (B.partReads utcNow_reads) fun now => ?_
  refine .bind (B.part (.perform trivial)) fun snapshot => ?_
  refine .bind (B.part (lockIntentsSkipLocked_mild _ _ _)) fun locked => ?_
  refine .bind (B.part (.perform trivial)) fun intents => ?_
  split
  · exact .bind (B.rollbackStmt B.books_stable) fun _ => .ret fun _ hs => hs
  refine .bind (B.sweepEach cfg 0 intents) fun outcome => ?_
  refine .bind (Q := fun _ => Books t L) ?_ fun _ => .bind (Q := fun _ => Books t L) ?_ fun _ =>
    .ret fun _ hs => hs
  · unfold commitIfSettled
    split
    · exact B.rollbackStmt B.books_stable
    · exact B.commitWithTelegram.conseq (fun _ => id) (fun _ _ => id) fun _ _ _ => trivial
  · unfold pauseIfLimited
    split
    · exact B.part (.perform trivial)
    · exact .ret fun _ hs => hs

/-! ## Manual fulfilment and the webhook -/

theorem fulfillPaymentIntent (intent : PaymentIntent) (bank : Option String) :
    Triple C t (Books t L) (fulfillPaymentIntent intent bank) (fun _ => Books t L)
      fun _ _ => True :=
  (B.fulfill intent bank).conseq (fun _ => id) (fun _ _ => id) fun _ _ _ => trivial

theorem adminFulfillPayment (intentId : String) (admin : Uuid)
    (happrove : ∀ row, N (.insertApproval row)) :
    Triple C t (Books t L) (adminFulfillPayment intentId admin) (fun _ => Books t L)
      fun _ _ => True := by
  refine .bind (B.part (.perform trivial)) fun intent => ?_
  cases intent with
  | none => exact .raise fun _ _ => trivial
  | some intent =>
      simp only
      split
      · exact .ret fun _ hs => hs
      split
      · exact .raise fun _ _ => trivial
      refine .bind (B.fulfillPaymentIntent intent _) fun _ => ?_
      exact .bind (B.part (addApproval_mild (happrove _))) fun _ => B.finishRequest intent

theorem barayWebhook (orderId : String) (bank : Option String)
    (hevent : ∀ row, N (.putWebhookEvent row)) :
    Triple C t (Books t L) (barayWebhook orderId bank) (fun _ => Books t L)
      fun _ _ => True := by
  refine .bind (B.partReads utcNow_reads) fun _ => .bind (B.partReads uuid4_reads) fun _ => ?_
  refine .bind (B.part (.perform (hevent _))) fun _ => ?_
  refine .bind (Q := fun _ => Books t L) ?_ fun _ => .bind (B.partReads utcNow_reads) fun _ =>
    .bind (B.part (.perform (hevent _))) fun _ => B.commitStmt
  refine .bind (B.part (.perform trivial)) fun intent => ?_
  cases intent with
  | none => exact .ret fun _ hs => hs
  | some intent =>
      refine .tryCatch (.bind (B.fulfill intent bank) fun _ => .ret fun _ hs => hs) fun e => ?_
      exact .bind (B.noteFailure intent.intentId) fun _ => .ret fun _ hs => hs

theorem fulfillAndCommit (intent : PaymentIntent) (bank : Option String) :
    Triple C t (Books t L) (fulfillAndCommit intent bank) (fun _ => Books t L)
      fun _ _ => True :=
  .bind (B.fulfillPaymentIntent intent bank) fun _ =>
    B.commitWithTelegram.conseq (fun _ => id) (fun _ _ => id) fun _ _ _ => trivial

end Bookkeeping

/-! ## Bulk statements -/

section

variable {N : Write → Prop}

theorem eachIntent_plain (mode : LockMode) (qualifies : PaymentIntent → Bool)
    {change : PaymentIntent → Prog Unit} (h : ∀ row, (change row).Every (Plain N)) :
    (eachIntent mode qualifies change).Every (Plain N) := by
  refine .bind (.perform trivial) fun _ => .forEach fun _ => .bind (.perform trivial) fun _ =>
    .bind (.perform trivial) fun row => ?_
  cases Option.filter qualifies row with
  | none => trivial
  | some row => exact h row

theorem eachReceipt_plain (title : Title) (mode : LockMode) (qualifies : Receipt → Bool)
    {change : Receipt → Prog Unit} (h : ∀ row, (change row).Every (Plain N)) :
    (eachReceipt title mode qualifies change).Every (Plain N) := by
  refine .bind (.perform trivial) fun _ => .forEach fun _ => .bind (.perform trivial) fun _ =>
    .bind (.perform trivial) fun row => ?_
  cases Option.filter qualifies row with
  | none => trivial
  | some row => exact h row

theorem claimGuestPurchases_plain (user : Uuid) (guest : Option String)
    (hreceipt : ∀ title intentId, N (.claimReceipt title intentId user))
    (hintent : ∀ row, N (.claimIntent row user)) :
    (claimGuestPurchases user guest).Every (Plain N) := by
  unfold claimGuestPurchases
  split
  · trivial
  · refine .bind (eachReceipt_plain _ _ _ fun row => ?_) fun _ =>
      .bind (eachReceipt_plain _ _ _ fun row => ?_) fun _ => eachIntent_plain _ _ fun row => ?_
    · exact .bind (referenceUser_plain _) fun _ => .perform (hreceipt _ _)
    · exact .bind (referenceUser_plain _) fun _ => .perform (hreceipt _ _)
    · exact .bind (.forEach fun _ => enterUnique_plain _ _) fun _ =>
        .bind (referenceUser_plain _) fun _ => .perform (hintent _)

theorem claimGuestPurchases_mild (user : Uuid) (guest : Option String)
    (hreceipt : ∀ title intentId, N (.claimReceipt title intentId user))
    (hintent : ∀ row, N (.claimIntent row user)) :
    (claimGuestPurchases user guest).Every (Mild N) :=
  (claimGuestPurchases_plain user guest hreceipt hintent).mono fun _ => Plain.mild _

theorem deleteReceipts_plain (title : Title) (ids : List Uuid)
    (h : ∀ title intentId, N (.deleteReceipt title intentId)) :
    (deleteReceipts title ids).Every (Plain N) :=
  eachReceipt_plain _ _ _ fun _ => .perform (h _ _)

theorem deleteReceipts_mild (title : Title) (ids : List Uuid)
    (h : ∀ title intentId, N (.deleteReceipt title intentId)) :
    (deleteReceipts title ids).Every (Mild N) :=
  (deleteReceipts_plain title ids h).mono fun _ => Plain.mild _

theorem clearTitle_plain (title : Title) (ids : List Uuid)
    (h : ∀ title intentId, N (.clearTitle title intentId)) :
    (clearTitle title ids).Every (Plain N) :=
  eachIntent_plain _ _ fun _ => .perform (h _ _)

theorem clearTitle_mild (title : Title) (ids : List Uuid)
    (h : ∀ title intentId, N (.clearTitle title intentId)) :
    (clearTitle title ids).Every (Mild N) :=
  (clearTitle_plain title ids h).mono fun _ => Plain.mild _

theorem deleteContentRow_plain (id : Uuid) (h : ∀ title id, N (.deleteTitle title id)) :
    (deleteContentRow id).Every (Plain N) := by
  refine .bind (.perform trivial) fun _ => .bind (.perform trivial) fun referenced => ?_
  split
  · exact .perform trivial
  · exact .perform (h _ _)

theorem deleteContentRow_mild (id : Uuid) (h : ∀ title id, N (.deleteTitle title id)) :
    (deleteContentRow id).Every (Mild N) :=
  (deleteContentRow_plain id h).mono fun _ => Plain.mild _

theorem deleteEpisodes_plain (id : Uuid) (h : ∀ title id, N (.deleteTitle title id)) :
    (deleteEpisodes id).Every (Plain N) :=
  .bind (.perform trivial) fun _ => .forEach fun _ => deleteContentRow_plain _ h

theorem deleteSeriesAndDependencies_plain (id : Uuid)
    (hreceipt : ∀ title intentId, N (.deleteReceipt title intentId))
    (hclear : ∀ title intentId, N (.clearTitle title intentId))
    (htitle : ∀ title id, N (.deleteTitle title id)) :
    (deleteSeriesAndDependencies id).Every (Plain N) :=
  .bind (.bind (.perform trivial) fun _ => .bind (deleteReceipts_plain _ _ hreceipt) fun _ =>
      .bind (.perform trivial) fun _ => clearTitle_plain _ _ hclear) fun _ =>
    .bind (deleteReceipts_plain _ _ hreceipt) fun _ =>
    .bind (clearTitle_plain _ _ hclear) fun _ => deleteEpisodes_plain _ htitle

theorem deleteSeriesAndDependencies_mild (id : Uuid)
    (hreceipt : ∀ title intentId, N (.deleteReceipt title intentId))
    (hclear : ∀ title intentId, N (.clearTitle title intentId))
    (htitle : ∀ title id, N (.deleteTitle title id)) :
    (deleteSeriesAndDependencies id).Every (Mild N) :=
  (deleteSeriesAndDependencies_plain id hreceipt hclear htitle).mono fun _ => Plain.mild _

theorem deleteSeriesRow_plain (id : Uuid)
    (hreceipt : ∀ title intentId, N (.deleteReceipt title intentId))
    (htitle : ∀ title id, N (.deleteTitle title id))
    (hintent : ∀ intentId, N (.deleteIntent intentId)) :
    (deleteSeriesRow id).Every (Plain N) :=
  .bind (.perform trivial) fun _ => .bind (.perform (htitle _ _)) fun _ =>
    .bind (deleteEpisodes_plain _ htitle) fun _ =>
    .bind (deleteReceipts_plain _ _ hreceipt) fun _ =>
      eachIntent_plain _ _ fun _ => .perform (hintent _)

end

theorem deleteSeriesRow_mild (id : Uuid)
    (hreceipt : ∀ title intentId, N (.deleteReceipt title intentId))
    (htitle : ∀ title id, N (.deleteTitle title id))
    (hintent : ∀ intentId, N (.deleteIntent intentId)) :
    (deleteSeriesRow id).Every (Mild N) :=
  (deleteSeriesRow_plain id hreceipt htitle hintent).mono fun _ => Plain.mild _

/-! ## Requests -/

/-- The writes of checkout and settlement, those that fulfil or supersede an
intent apart. -/
def Write.ofCheckout : Write → Prop
  | .insertIntent row => row.status = .pending
  | .replaceQr _ _ _ _ _ => True
  | .insertApproval _ => True
  | .putWebhookEvent _ => True
  | _ => False

/-- The writes of sign-in and of the administration of titles and plans. -/
def Write.ofAdministration : Write → Prop
  | .claimIntent _ _ => True
  | .claimReceipt _ _ _ => True
  | .clearTitle _ _ => True
  | .deleteIntent _ => True
  | .deleteReceipt _ _ => True
  | .deleteTitle _ _ => True
  | .putPlan _ => True
  | .deletePlan _ => True
  | .putContent _ => True
  | .putSeries _ => True
  | _ => False

/-- Does the request create, poll or settle intents? -/
def Request.isCheckout : Request → Bool
  | .checkoutMovie _ _ _ => true
  | .checkoutSeries _ _ _ => true
  | .checkoutPlan _ _ => true
  | .poll _ _ _ => true
  | .playback _ _ _ => true
  | .sweep => true
  | .fulfill _ _ => true
  | .adminFulfill _ _ => true
  | .webhook _ _ => true
  | _ => false

theorem movieOrder_looks (contentId : Uuid) (user : Option Uuid) (guest : Option String) :
    (movieOrder contentId user guest).Every Looks := by
  refine .bind (.perform trivial) fun row => ?_
  split
  · trivial
  · refine .bind ?_ fun _ => trivial
    unfold validatePaymentAmount
    repeat' split
    all_goals trivial

theorem movieOrder_reads (contentId : Uuid) (user : Option Uuid) (guest : Option String) :
    (movieOrder contentId user guest).Every Reads :=
  (movieOrder_looks contentId user guest).mono fun _ => Looks.reads _

theorem subscribed_looks (user : Option Uuid) : (subscribed user).Every Looks := by
  cases user with
  | none => trivial
  | some user => exact .bind utcNow_looks fun _ => .perform trivial

theorem subscribed_reads (user : Option Uuid) : (subscribed user).Every Reads :=
  (subscribed_looks user).mono fun _ => Looks.reads _

theorem validatePaymentAmount_looks (amount : Option Int) :
    (validatePaymentAmount amount).Every Looks := by
  unfold validatePaymentAmount
  repeat' split
  all_goals trivial

theorem validatePaymentAmount_reads (amount : Option Int) :
    (validatePaymentAmount amount).Every Reads :=
  (validatePaymentAmount_looks amount).mono fun _ => Looks.reads _

theorem seriesOrder_looks (seriesId : Uuid) (user : Option Uuid) (guest : Option String) :
    (seriesOrder seriesId user guest).Every Looks :=
  .bind (validatePaymentAmount_looks _) fun _ => trivial

theorem seriesOrder_reads (seriesId : Uuid) (user : Option Uuid) (guest : Option String) :
    (seriesOrder seriesId user guest).Every Reads :=
  (seriesOrder_looks seriesId user guest).mono fun _ => Looks.reads _

theorem loadBuyerIntent_looks (intentId : String) (user : Option Uuid) (guest : Option String) :
    (loadBuyerIntent intentId user guest).Every Looks := by
  unfold loadBuyerIntent
  split
  · trivial
  · refine .bind (.perform trivial) fun row => ?_
    split <;> trivial

theorem loadBuyerIntent_reads (intentId : String) (user : Option Uuid) (guest : Option String) :
    (loadBuyerIntent intentId user guest).Every Reads :=
  (loadBuyerIntent_looks intentId user guest).mono fun _ => Looks.reads _

/-- Bookkeeping that new intents and new QRs keep too. -/
structure Openings (C : Contract) (t : Tid) (N : Write → Prop) (L : Store → Prop) : Prop
    extends Bookkeeping C t N L where
  add : ∀ row : PaymentIntent, row.status = .pending →
    Triple C t (Books t L) (addIntent row) (fun _ => Books t L) fun _ => Books t L
  regenerate : ∀ pending, Triple C t (Books t L) (regenerateBakongQr pending)
    (fun _ => Books t L) fun _ _ => True

theorem Bookkeeping.openings {C : Contract} {t : Tid} {N : Write → Prop} {L : Store → Prop}
    (B : Bookkeeping C t N L)
    (hqr : ∀ copy md5 qr merchant at_, N (.replaceQr copy md5 qr merchant at_))
    (hinsert : ∀ row : PaymentIntent, row.status = .pending → N (.insertIntent row)) :
    Openings C t N L where
  toBookkeeping := B
  add row h := B.every (addIntent_mild (hinsert row h))
  regenerate pending := B.part (regenerateBakongQr_mild pending (hqr pending))

namespace Openings

variable {C : Contract} {t : Tid} {N : Write → Prop} {L : Store → Prop}
  (B : Openings C t N L)
include B

theorem newIntent (cfg : Settings) (order : Order) :
    Triple C t (Books t L) (newIntent cfg order)
      (fun row s => row.status = .pending ∧ Books t L s) fun _ _ => True :=
  .bind (B.partReads uuidHex_reads) fun _ => .bind (B.partReads generateKhqr_reads) fun _ =>
    .bind (B.partReads utcNow_reads) fun _ => .bind (B.partReads uuidHex_reads) fun _ =>
      .ret fun _ hs => ⟨rfl, hs⟩

theorem commitNewIntentOrReuse (cfg : Settings) {intent : PaymentIntent}
    {qualifies : PaymentIntent → Bool} (check : Bool) (hopened : intent.status = .pending)
    (hpending : ∀ row, qualifies row = true → row.status = .pending) :
    Triple C t (Books t L) (commitNewIntentOrReuse cfg intent qualifies check)
      (fun _ => Books t L) fun _ _ => True := by
  refine .bind (Q := fun _ => Books t L) ?_ fun committed => ?_
  · refine .tryCatch (M := fun _ => Books t L) ?_ fun e => ?_
    · exact .bind (B.add intent hopened) fun _ =>
        .bind B.commitWithTelegram fun _ => .ret fun _ hs => hs
    · split
      · exact .ret fun _ hs => hs.elim .inl id
      · exact .raise fun _ _ => trivial
  · split
    · exact B.partReads (refresh_reads intent)
    · refine .bind (B.rollbackStmt B.books_stable) fun _ => ?_
      refine .bind (B.partReads popTelegramAlerts_reads) fun _ => ?_
      refine .bind (B.select (φ := fun row? => ∀ row ∈ row?, qualifies row = true) ?_)
        fun row? => ?_
      · intro d row hrow
        exact mem_pendingLookup (List.mem_of_head? hrow)
      · cases row? with
        | none => exact .raise fun _ _ => trivial
        | some existing =>
            refine .given (fun s hs => hs.1) fun hq => ?_
            refine .pre ?_ fun s hs => hs.2
            exact (B.reuseOrRefresh cfg check (B.regenerate existing) (hpending _ (hq _ rfl))).post
              fun _ _ hs => hs.2

theorem checkout (cfg : Settings) (user : Option Uuid) {qualifies : PaymentIntent → Bool}
    (check : Bool) {order : Prog Order}
    (horder : Triple C t (Books t L) order (fun _ => Books t L) fun _ _ => True)
    (hpending : ∀ row, qualifies row = true → row.status = .pending) :
    Triple C t (Books t L) (checkout cfg user qualifies check order) (fun _ => Books t L)
      fun _ _ => True := by
  refine .bind (B.part (lockBuyer_mild user)) fun _ => ?_
  refine .bind (B.part (.perform trivial)) fun snapshot => ?_
  refine .bind ((B.lockIntents qualifies snapshot).conseq (fun _ => id) (fun _ _ => id)
    fun _ _ _ => trivial) fun rows => ?_
  cases rows with
  | cons pending rows =>
      refine .given (fun s hs => hs.1) fun hq => .pre ?_ fun s hs => hs.2
      exact (B.reuseOrRefresh cfg check (B.regenerate pending) (hpending _ (hq _ (by simp)))).post
        fun _ _ hs => hs.2
  | nil =>
      refine .pre ?_ fun s hs => hs.2
      refine .bind horder fun order => .bind (B.newIntent cfg order) fun intent => ?_
      refine .given (fun s hs => hs.1) fun hp => .pre ?_ fun s hs => hs.2
      exact B.commitNewIntentOrReuse cfg check hp hpending

theorem createOrReuseMovie (cfg : Settings) (contentId : Uuid) (user : Option Uuid)
    (guest : Option String) :
    Triple C t (Books t L) (createOrReuseMovieBakongIntent cfg contentId user guest)
      (fun _ => Books t L) fun _ _ => True := by
  refine .bind (B.part (.perform trivial)) fun purchased => ?_
  split
  · exact .raise fun _ _ => trivial
  · exact B.checkout cfg user true (B.partReads (movieOrder_reads _ _ _)) fun _ =>
      PaymentIntent.pending_of_pendingTitle

theorem createOrReuseSeries (cfg : Settings) (seriesId : Uuid) (user : Option Uuid)
    (guest : Option String) :
    Triple C t (Books t L) (createOrReuseSeriesBakongIntent cfg seriesId user guest)
      (fun _ => Books t L) fun _ _ => True := by
  refine .bind (B.partReads (subscribed_reads user)) fun active => ?_
  split
  · exact .raise fun _ _ => trivial
  refine .bind (B.part (.perform trivial)) fun purchased => ?_
  split
  · exact .raise fun _ _ => trivial
  · exact B.checkout cfg user true (B.partReads (seriesOrder_reads _ _ _)) fun _ =>
      PaymentIntent.pending_of_pendingTitle

theorem createOrReuseSubscription (cfg : Settings) (user : Uuid) (planCode : Option String) :
    Triple C t (Books t L) (createOrReuseSubscriptionBakongIntent cfg user planCode)
      (fun _ => Books t L) fun _ _ => True := by
  refine .bind (B.partReads (resolveActivePlan_reads planCode)) fun plan => ?_
  refine .bind (B.partReads (validatePaymentAmount_reads _)) fun amount => ?_
  exact B.checkout cfg (some user) false (.ret fun _ hs => hs) fun _ =>
    PaymentIntent.pending_of_pendingPlan

theorem request (cfg : Settings) (hevent : ∀ row, N (.putWebhookEvent row)) {request : Request}
    (h : request.isCheckout = true)
    (happrove : ∀ intentId admin, request = .adminFulfill intentId admin →
      ∀ row, N (.insertApproval row)) :
    Triple C t (Books t L) (request.prog cfg) (fun _ => Books t L) fun _ _ => True := by
  cases request with
  | checkoutMovie contentId user guest =>
      exact B.closing (B.createOrReuseMovie cfg contentId user guest)
  | checkoutSeries seriesId user guest =>
      exact B.closing (B.createOrReuseSeries cfg seriesId user guest)
  | checkoutPlan user planCode =>
      exact B.closing (B.createOrReuseSubscription cfg user planCode)
  | poll intentId user guest =>
      exact B.closing (.bind (B.partReads (loadBuyerIntent_reads _ _ _)) fun intent =>
        B.settlePendingIntentOnPoll cfg intent)
  | playback contentId user guest => exact B.closing (B.playbackSettle cfg contentId user guest)
  | sweep => exact B.closing (B.sweepPendingBakongIntents cfg)
  | fulfill intent bank => exact B.closing (B.fulfillAndCommit intent bank)
  | adminFulfill intentId admin =>
      exact B.closing (B.adminFulfillPayment intentId admin (happrove intentId admin rfl))
  | webhook orderId bank => exact B.closing (B.barayWebhook orderId bank hevent)
  | _ => simp [Request.isCheckout] at h

end Openings

namespace Bookkeeping

variable {C : Contract} {t : Tid} {N : Write → Prop} {L : Store → Prop}
  (B : Bookkeeping C t N L)
include B

theorem createOrReuseMovie (cfg : Settings) (contentId : Uuid) (user : Option Uuid)
    (guest : Option String) (hqr : ∀ copy md5 qr merchant at_, N (.replaceQr copy md5 qr merchant at_))
    (hinsert : ∀ row : PaymentIntent, row.status = .pending → N (.insertIntent row)) :
    Triple C t (Books t L) (createOrReuseMovieBakongIntent cfg contentId user guest)
      (fun _ => Books t L) fun _ _ => True :=
  (B.openings hqr hinsert).createOrReuseMovie cfg contentId user guest

theorem createOrReuseSeries (cfg : Settings) (seriesId : Uuid) (user : Option Uuid)
    (guest : Option String) (hqr : ∀ copy md5 qr merchant at_, N (.replaceQr copy md5 qr merchant at_))
    (hinsert : ∀ row : PaymentIntent, row.status = .pending → N (.insertIntent row)) :
    Triple C t (Books t L) (createOrReuseSeriesBakongIntent cfg seriesId user guest)
      (fun _ => Books t L) fun _ _ => True :=
  (B.openings hqr hinsert).createOrReuseSeries cfg seriesId user guest

theorem createOrReuseSubscription (cfg : Settings) (user : Uuid) (planCode : Option String)
    (hqr : ∀ copy md5 qr merchant at_, N (.replaceQr copy md5 qr merchant at_))
    (hinsert : ∀ row : PaymentIntent, row.status = .pending → N (.insertIntent row)) :
    Triple C t (Books t L) (createOrReuseSubscriptionBakongIntent cfg user planCode)
      (fun _ => Books t L) fun _ _ => True :=
  (B.openings hqr hinsert).createOrReuseSubscription cfg user planCode

theorem checkoutRequest (cfg : Settings)
    (hN : ∀ w, w.ofCheckout → (∀ row, w ≠ .insertApproval row) → N w) {request : Request}
    (h : request.isCheckout = true)
    (happrove : ∀ intentId admin, request = .adminFulfill intentId admin →
      ∀ row, N (.insertApproval row)) :
    Triple C t (Books t L) (request.prog cfg) (fun _ => Books t L) fun _ _ => True := by
  have hqr : ∀ copy md5 qr merchant at_, N (.replaceQr copy md5 qr merchant at_) :=
    fun _ _ _ _ _ => hN _ trivial (by simp)
  have hinsert : ∀ row : PaymentIntent, row.status = .pending → N (.insertIntent row) :=
    fun _ hp => hN _ hp (by simp)
  exact (B.openings hqr hinsert).request cfg (fun _ => hN _ trivial (by simp)) h happrove

end Bookkeeping

/-- The writes of the administration of titles and plans, the deletion of intents apart. -/
def Write.ofCatalog : Write → Prop
  | .clearTitle _ _ => True
  | .deleteReceipt _ _ => True
  | .deleteTitle _ _ => True
  | .putPlan _ => True
  | .deletePlan _ => True
  | .putContent _ => True
  | .putSeries _ => True
  | _ => False

/-- The administration of titles and plans keeps a ledger. -/
theorem Ledger.catalogRequest {C : Contract} {t : Tid} {N : Write → Prop} {L : Store → Prop}
    (B : Ledger C t N L) (cfg : Settings) (hN : ∀ w, w.ofCatalog → N w) {request : Request}
    (h : request.isCheckout = false) (hsign : ∀ user guest, request ≠ .signIn user guest)
    (hdelete : ∀ id, request = .deleteSeries id → ∀ intentId, N (.deleteIntent intentId)) :
    Triple C t (Books t L) (request.prog cfg) (fun _ => Books t L) fun _ _ => True := by
  have hreceipt : ∀ title intentId, N (.deleteReceipt title intentId) := fun _ _ => hN _ trivial
  have hclear : ∀ title intentId, N (.clearTitle title intentId) := fun _ _ => hN _ trivial
  have htitle : ∀ title id, N (.deleteTitle title id) := fun _ _ => hN _ trivial
  cases request with
  | signIn user guest => exact absurd rfl (hsign user guest)
  | deleteContent id =>
      refine B.closing (.bind (B.part ?_) fun _ =>
        .bind (B.part (deleteContentRow_mild id htitle)) fun _ => B.commitStmt)
      exact .bind (deleteReceipts_mild _ _ hreceipt) fun _ => clearTitle_mild _ _ hclear
  | deleteSeries id =>
      exact B.closing (.bind (B.part (deleteSeriesAndDependencies_mild id hreceipt hclear htitle))
        fun _ => .bind (B.part (deleteSeriesRow_mild id hreceipt htitle (hdelete id rfl))) fun _ =>
          B.commitStmt)
  | savePlan row =>
      exact B.closing (.bind (B.part (.perform (hN _ trivial))) fun _ => B.commitStmt)
  | deletePlan code =>
      refine B.closing (.bind (B.part (.perform trivial)) fun used => ?_)
      split
      · exact .raise fun _ _ => trivial
      · exact .bind (B.part (.perform (hN _ trivial))) fun _ => B.commitStmt
  | saveContent row =>
      exact B.closing (.bind (B.part (.perform (hN _ trivial))) fun _ => B.commitStmt)
  | saveSeries id =>
      refine B.closing (.bind (B.part (.perform trivial)) fun found => ?_)
      split
      · exact B.commitStmt
      · exact .bind (B.part (.perform (hN _ trivial))) fun _ => B.commitStmt
  | _ => simp [Request.isCheckout] at h

/-- Requests that settle nothing keep a ledger. -/
theorem Ledger.administrationRequest {C : Contract} {t : Tid} {N : Write → Prop}
    {L : Store → Prop} (B : Ledger C t N L) (cfg : Settings)
    (hN : ∀ w, w.ofAdministration → (∀ intentId, w ≠ .deleteIntent intentId) → N w)
    {request : Request} (h : request.isCheckout = false)
    (hdelete : ∀ id, request = .deleteSeries id → ∀ intentId, N (.deleteIntent intentId)) :
    Triple C t (Books t L) (request.prog cfg) (fun _ => Books t L) fun _ _ => True := by
  by_cases hsign : ∃ user guest, request = .signIn user guest
  · obtain ⟨user, guest, rfl⟩ := hsign
    refine B.closing (.bind (B.part (claimGuestPurchases_mild user guest ?_ ?_)) fun _ =>
      B.commitStmt)
    · exact fun _ _ => hN _ trivial (by simp)
    · exact fun _ => hN _ trivial (by simp)
  · refine B.catalogRequest cfg (fun w hw => ?_) h (fun user guest he => hsign ⟨user, guest, he⟩)
      hdelete
    cases w <;> first | exact hw.elim | exact hN _ trivial (by simp)

end MovieApi.Billing
