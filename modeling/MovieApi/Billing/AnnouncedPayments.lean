import MovieApi.Billing.Announcements

/-!
# Every committed payment is announced once

The requests that settle payments queue one alert for each grant and deliver it
right after the commit, except that the settle attempt before a playback commits
without sending anything.
-/

namespace MovieApi.Billing

open ReadCommitted Sql

variable {request : Request} {ids : List String} {id : String} {o : Own Write Info} {due : Due}

/-! ## Fulfilment -/

theorem Fulfilled.booked_of_doomed (h : Fulfilled ids id o due) (hd : o.doomed = true) :
    Booked o due :=
  ⟨h.1, fun hlive => by simp [hd] at hlive⟩

theorem alertTitle_tells (intent : PaymentIntent) :
    Says request (Fulfilled ids id) (alertTitle intent) (fun _ => Fulfilled ids id)
      fun _ => Booked := by
  unfold alertTitle
  split
  · refine .bind (Says.select (Q := fun _ => Fulfilled ids id) (fun _ _ _ hs _ => hs)
      fun _ _ hs hd => hs.booked_of_doomed hd) fun title => ?_
    cases title with
    | none => exact .ret fun _ _ hs => hs
    | some title => exact .ret fun _ _ hs => hs
  · exact .ret fun _ _ hs => hs

theorem alertBuyer_tells (intent : PaymentIntent) :
    Says request (Fulfilled ids id) (alertBuyer intent) (fun _ => Fulfilled ids id)
      fun _ => Booked := by
  unfold alertBuyer
  split
  · refine .bind (Says.select (Q := fun _ => Fulfilled ids id) (fun _ _ _ hs _ => hs)
      fun _ _ hs hd => hs.booked_of_doomed hd) fun row => ?_
    cases row with
    | none => exact .ret fun _ _ hs => hs
    | some row => cases hname : row.fullName <;> simp only [hname] <;> exact .ret fun _ _ hs => hs
  · exact .ret fun _ _ hs => hs
  · exact .ret fun _ _ hs => hs

theorem notifyPaymentSucceeded_tells (intent : PaymentIntent) (bank : Option String) :
    Says request (Fulfilled ids intent.intentId) (notifyPaymentSucceeded intent bank)
      (fun _ => Booked) fun _ => Booked := by
  refine .bind (Q := fun text o due => AlertFor intent.intentId text ∧
    Fulfilled ids intent.intentId o due) ?_ fun text => ?_
  · refine .bind (alertTitle_tells intent) fun title => .bind (alertBuyer_tells intent) fun buyer => ?_
    exact .ret fun o due hs => ⟨⟨intent, bank, title, buyer, rfl, rfl⟩, hs⟩
  · refine Says.session fun o due hs => ⟨hs.2.1, fun hd => ?_⟩
    exact ⟨_, (hs.2.2 hd).notify hs.1⟩

theorem ungranted_keeping : Keeping Write.Apart (Ungranted ids id) :=
  Lasting.keeping fun _ hw _ _ h => ⟨h.1.apart hw, fun hx => h.2 (hw.granted ▸ hx)⟩

/-- Programs before the grant row is inserted. -/
theorem ungranted_plain {α : Type} {p : Prog α} (hp : p.Every (Plain Write.Apart)) :
    Says request (Ungranted ids id) p (fun _ => Ungranted ids id) fun _ => Booked :=
  (ungranted_keeping.plain hp).conseq (fun _ _ hs => hs) (fun _ _ _ hs => hs)
    fun _ _ _ hs => hs.booked

theorem grantWrite_tells {w : Write} (hw : w.Grants id) :
    Says request (Ungranted ids id) (Prog.write w) (fun _ => Fulfilled ids id) fun _ => Booked :=
  Says.write (fun _ _ hs hd => ⟨hs.1, fun _ => (hs.2 hd).1.grant hw⟩)
    fun _ _ hs hd => hs.fulfilled.booked_of_doomed hd

theorem insertReceipt_tells (title : Title) {row : Receipt} (hrow : row.intentId = id) :
    Says request (Ungranted ids id) (insertReceipt title row) (fun _ => Fulfilled ids id)
      fun _ => Booked := by
  refine .bind (ungranted_plain (.perform trivial)) fun entered => ?_
  split
  · exact .bind (ungranted_plain (enterUnique_plain _ _)) fun _ =>
      .bind (ungranted_plain (referenceUser_plain _)) fun _ =>
      .bind (ungranted_plain (referenceTitle_plain _ _)) fun _ => grantWrite_tells hrow
  · exact .ret fun _ _ hs => hs.fulfilled

theorem insertPayment_tells {row : SubscriptionPayment} (hrow : row.intentId = id) :
    Says request (Ungranted ids id) (insertPayment row) (fun _ => Fulfilled ids id)
      fun _ => Booked := by
  refine .bind (ungranted_plain (.perform trivial)) fun entered => ?_
  split
  · exact .bind (ungranted_plain (enterUnique_plain _ _)) fun _ => grantWrite_tells hrow
  · exact .ret fun _ _ hs => hs.fulfilled

theorem grantTitle_tells (title : Title) (titleId : Uuid) (intent : PaymentIntent)
    (bank : Option String) :
    Says request (Ungranted ids intent.intentId) (grantTitle title titleId intent bank)
      (fun _ => Booked) fun _ => Booked := by
  refine .bind (ungranted_plain (.perform trivial)) fun found => ?_
  split
  · exact .ret fun _ _ hs => hs.booked
  · exact .bind (insertReceipt_tells title rfl) fun _ => notifyPaymentSucceeded_tells intent bank

theorem grantSubscription_tells (intent : PaymentIntent) (now : Instant) (bank : Option String) :
    Says request (Ungranted ids intent.intentId) (grantSubscription intent now bank)
      (fun _ => Booked) fun _ => Booked := by
  refine .bind (ungranted_plain (.perform trivial)) fun found => ?_
  split
  · exact .ret fun _ _ hs => hs.booked
  · refine .bind (ungranted_plain (lockBuyer_plain _)) fun _ => .bind (ungranted_plain
      ((resolvePlanForSubscriptionIntent_looks intent).mono fun _ => Looks.plain _)) fun plan => ?_
    refine .bind (ungranted_plain (lockSubscription_plain _)) fun subscription? => ?_
    refine .bind (ungranted_plain (saveSubscription_plain _ _ _ _ _ (fun _ => trivial)
      fun _ => trivial)) fun subscription => ?_
    exact .bind (insertPayment_tells rfl) fun _ => notifyPaymentSucceeded_tells intent bank

theorem grant_tells (intent : PaymentIntent) (now : Instant) (bank : Option String) :
    Says request (Ungranted ids intent.intentId) (grant intent now bank) (fun _ => Booked)
      fun _ => Booked := by
  have hnotify : Says request (Ungranted ids intent.intentId) (notifyPaymentSucceeded intent bank)
      (fun _ => Booked) fun _ => Booked :=
    (notifyPaymentSucceeded_tells intent bank).pre fun _ _ hs => hs.fulfilled
  unfold grant
  split
  · split
    · exact grantTitle_tells _ _ intent bank
    · exact hnotify
  · split
    · exact grantTitle_tells _ _ intent bank
    · exact hnotify
  · exact grantSubscription_tells intent now bank

/-- The locked row, which an announced intent shows as succeeded. -/
def Located (row? : Option PaymentIntent) (o : Own Write Info) (due : Due) : Prop :=
  Lasting due o fun writes alerts => ∃ ids, Queued ids writes alerts ∧
    ∀ row, row? = some row → row.intentId ∈ ids → row.status = .succeeded

theorem Located.booked {row? : Option PaymentIntent} (h : Located row? o due) : Booked o due :=
  ⟨h.1, fun hd => (h.2 hd).imp fun _ hids => hids.1⟩

theorem booked_plain {α : Type} {p : Prog α} (hp : p.Every (Plain Write.Apart)) :
    Says request Booked p (fun _ => Booked) fun _ => Booked :=
  Booked.keeping.plain hp

theorem booked_looks {α : Type} {p : Prog α} (hp : p.Every Looks) :
    Says request Booked p (fun _ => Booked) fun _ => Booked :=
  Booked.keeping.looks hp

theorem lockIntent_tells (intentId : String) :
    Says request Booked (lockIntent intentId) Located fun _ => Booked := by
  refine .bind (booked_plain (.perform trivial)) fun found => ?_
  split
  · refine .bind (booked_plain (.perform trivial)) fun _ => ?_
    refine Says.select (fun o due d hs hd => ⟨hs.settled, fun _ => ?_⟩) fun o due hs _ => hs
    obtain ⟨ids, hqueued⟩ := hs.queued hd
    refine ⟨ids, hqueued, fun row hrow hmem => ?_⟩
    have hkey : row.intentId = intentId := key_of_lookup hrow
    exact hqueued.resolved.succeeded _ hmem d row (hkey ▸ hrow)
  · refine .ret fun o due hs => ⟨hs.settled, fun hd => ?_⟩
    obtain ⟨ids, hqueued⟩ := hs.queued hd
    exact ⟨ids, hqueued, by simp⟩

theorem fulfillPaymentIntent_tells (intent : PaymentIntent) (bank : Option String) :
    Says request Booked (fulfillPaymentIntent intent bank) (fun _ => Booked)
      fun _ => Booked := by
  refine .bind (lockIntent_tells _) fun row? => ?_
  cases row? with
  | none => exact .ret fun _ _ hs => hs.booked
  | some locked =>
      dsimp only
      split
      · exact .ret fun _ _ hs => hs.booked
      · next hstatus =>
          have hkeeping : Keeping (fun _ => False) (Located (some locked)) :=
            Lasting.keeping fun _ hw => hw.elim
          refine .bind ((hkeeping.looks utcNow_looks).conseq (fun _ _ hs => hs) (fun _ _ _ hs => hs)
            fun _ _ _ hs => hs.booked) fun now => ?_
          refine .bind (Q := fun _ o due => ∃ ids, Ungranted ids locked.intentId o due)
            (Says.write (fun o due hs hd => ?_) fun o due hs _ => hs.booked) fun _ => ?_
          · obtain ⟨ids, hqueued, hlocated⟩ := hs.2 hd
            have hfresh : locked.intentId ∉ ids := fun hmem => hstatus (hlocated _ rfl hmem)
            refine ⟨ids, hs.1, fun _ => ⟨hqueued.resolve hfresh, fun hgranted => ?_⟩⟩
            exact hfresh (hqueued.granted _ (by simpa [granted] using hgranted))
          · refine .bind (Q := fun _ => Booked) (fun o due hs => ?_) fun _ => .ret fun _ _ hs => hs
            obtain ⟨ids, hs⟩ := hs
            exact grant_tells (locked.resolved .succeeded (some now)) now bank o due hs

/-! ## Settlement -/

/-- What an attempt leaves that may have fulfilled an intent. -/
def Settling (P : Own Write Info → Due → Prop) (paid : Bool) (o : Own Write Info) (due : Due) :
    Prop :=
  if paid then Booked o due else P o due

theorem settleBakongIntentIfPaid_tells {P : Own Write Info → Due → Prop}
    (hkeeping : Keeping (fun _ => False) P) (hbooked : ∀ o due, P o due → Booked o due)
    (cfg : Settings) (intent : PaymentIntent) :
    Says request P (settleBakongIntentIfPaid cfg intent) (fun r => Settling P r.1)
      fun _ => Booked := by
  unfold settleBakongIntentIfPaid
  split
  · exact .ret hbooked
  split
  · exact .ret fun _ _ hs => hs
  split
  · exact .ret fun _ _ hs => hs
  refine .bind ((hkeeping.looks (bakongMd5sPaid_looks cfg intent)).conseq (fun _ _ hs => hs)
    (fun _ _ _ hs => hs) fun _ => hbooked) fun paid => ?_
  split
  · exact .bind ((fulfillPaymentIntent_tells intent _).pre hbooked) fun settled =>
      .ret fun _ _ hs => hs
  · exact .ret fun _ _ hs => hs

/-- A part of a request, whose exceptions end it. -/
abbrev Part {α : Type} (request : Request) (P : Own Write Info → Due → Prop) (p : Prog α)
    (Q : α → Own Write Info → Due → Prop) : Prop :=
  Says request P p Q fun _ _ due => Settled due

section

variable {α : Type} {p : Prog α}

theorem bare_part (hp : p.Every (Plain Write.Idle)) :
    Part request Bare p fun _ => Bare :=
  (Bare.keeping.plain hp).conseq (fun _ _ hs => hs) (fun _ _ _ hs => hs)
    fun _ _ _ hs => hs.settled

theorem bare_looks (hp : p.Every Looks) : Part request Bare p fun _ => Bare :=
  bare_part (hp.mono fun _ => Looks.plain _)

theorem booked_part (hp : p.Every (Plain Write.Apart)) :
    Part request Booked p fun _ => Booked :=
  (booked_plain hp).conseq (fun _ _ hs => hs) (fun _ _ _ hs => hs) fun _ _ _ hs => hs.settled

theorem settle_part (cfg : Settings) (intent : PaymentIntent) :
    Part request Bare (settleBakongIntentIfPaid cfg intent) fun r => Settling Bare r.1 :=
  (settleBakongIntentIfPaid_tells (Bare.keeping.mono fun _ => False.elim)
    (fun _ _ hs => hs.booked) cfg intent).conseq (fun _ _ hs => hs) (fun _ _ _ hs => hs)
    fun _ _ _ hs => hs.settled

end

theorem commitAndRefresh_part (intent : PaymentIntent) :
    Part request Ready (commitAndRefresh intent) fun _ => Bare :=
  .bind Says.commitWithTelegram fun _ => bare_looks (refresh_looks intent)

theorem finish_part (intent : PaymentIntent) :
    Part request Booked (commitAndRefresh intent) fun _ => Bare :=
  (commitAndRefresh_part intent).pre fun _ _ hs => hs.ready

theorem finishBare_part (intent : PaymentIntent) :
    Part request Bare (commitAndRefresh intent) fun _ => Bare :=
  (finish_part intent).pre fun _ _ hs => hs.booked

/-! ## Checkout -/

theorem markSucceededIfAlreadyPurchased_plain (intent : PaymentIntent) :
    (markSucceededIfAlreadyPurchased intent).Every (Plain Write.Idle) := by
  unfold markSucceededIfAlreadyPurchased
  split
  · refine .bind (.perform trivial) fun owned => ?_
    split
    · exact .bind (utcNow_looks.mono fun _ => Looks.plain _) fun _ =>
        .bind (.perform rfl) fun _ => trivial
    · trivial
  · trivial

theorem supersedeIfOwned_part (check : Bool) (intent : PaymentIntent) :
    Part request Bare (supersedeIfOwned check intent) fun _ => Bare := by
  unfold supersedeIfOwned
  split
  · exact bare_part (markSucceededIfAlreadyPurchased_plain intent)
  · exact .ret fun _ _ hs => hs

theorem reuseOrRefreshPending_part (cfg : Settings) (pending : PaymentIntent) (check : Bool) :
    Part request Bare (reuseOrRefreshPending cfg pending check) fun _ => Bare := by
  refine .bind (bare_looks utcNow_looks) fun now => ?_
  split
  · refine .bind (supersedeIfOwned_part check pending) fun owned => ?_
    split
    · exact finishBare_part pending
    · exact .ret fun _ _ hs => hs
  refine .bind (settle_part cfg pending) fun ⟨paid, settled⟩ => ?_
  cases paid with
  | true => exact finish_part pending
  | false =>
      refine .bind (supersedeIfOwned_part check pending) fun owned => ?_
      split
      · exact finishBare_part pending
      refine .bind (bare_looks (bakongQrConfirmedUnpaid_looks cfg pending)) fun unpaid => ?_
      split
      · exact .bind (bare_part (regenerateBakongQr_plain pending fun _ _ _ _ => rfl)) fun _ =>
          finishBare_part pending
      · exact .ret fun _ _ hs => hs

theorem newIntent_looks (cfg : Settings) (order : Order) : (newIntent cfg order).Every Looks :=
  .bind uuidHex_looks fun _ => .bind generateKhqr_looks fun _ => .bind utcNow_looks fun _ =>
    .bind uuidHex_looks fun _ => trivial

/-- The failed insertion is rolled back with its alerts. -/
theorem commitNewIntentOrReuse_part (cfg : Settings) (intent : PaymentIntent)
    (qualifies : PaymentIntent → Bool) (check : Bool) :
    Part request Bare (commitNewIntentOrReuse cfg intent qualifies check) fun _ => Bare := by
  refine .bind (Q := fun _ => Bare) ?_ fun committed => ?_
  · refine .tryCatch (M := fun _ => Bare) ?_ fun e => ?_
    · refine .bind (Bare.keeping.plain (addIntent_plain rfl)) fun _ => ?_
      exact .bind (Says.commitWithTelegram.pre fun _ _ hs => hs.booked.ready) fun _ =>
        .ret fun _ _ hs => hs
    · split
      · exact .ret fun _ _ hs => hs
      · exact .raise fun _ _ hs => hs.settled
  · split
    · exact bare_looks (refresh_looks intent)
    · refine .bind (Q := fun _ => Bare) (Says.rollback fun o due hs =>
        ⟨hs.settled, hs.pending, fun _ => rfl⟩) fun _ => ?_
      refine .bind (Q := fun _ => Bare) (Says.session fun o due hs =>
        ⟨hs.settled, rfl, hs.granted⟩) fun _ => ?_
      refine .bind (bare_part (.perform trivial)) fun existing => ?_
      cases existing with
      | none => exact .raise fun _ _ hs => hs.settled
      | some existing => exact reuseOrRefreshPending_part cfg existing check

theorem lockIntents_plain {N : Write → Prop} (qualifies : PaymentIntent → Bool)
    (intentIds : List String) : (lockIntents qualifies intentIds).Every (Plain N) := by
  induction intentIds with
  | nil => trivial
  | cons intentId intentIds ih =>
      exact .bind (.perform trivial) fun _ => .bind (.perform trivial) fun _ =>
        .bind ih fun _ => trivial

theorem checkout_part (cfg : Settings) (userId : Option Uuid) (qualifies : PaymentIntent → Bool)
    (check : Bool) {order : Prog Order} (horder : order.Every Looks) :
    Part request Bare (checkout cfg userId qualifies check order) fun _ => Bare := by
  refine .bind (bare_part (lockBuyer_plain userId)) fun _ =>
    .bind (bare_part (.perform trivial)) fun snapshot =>
    .bind (bare_part (lockIntents_plain qualifies snapshot)) fun rows => ?_
  cases rows with
  | cons pending rows => exact reuseOrRefreshPending_part cfg pending check
  | nil =>
      exact .bind (bare_looks horder) fun order =>
        .bind (bare_looks (newIntent_looks cfg order)) fun intent =>
          commitNewIntentOrReuse_part cfg intent qualifies check

/-! ## Polling -/

theorem markIntentPolled_part (intentId : String) {P : Own Write Info → Due → Prop} :
    Part request P (markIntentPolled intentId) fun _ => P :=
  Says.tell fun _ => rfl

/-- The poll supersedes its own intent after it settled the sibling. -/
theorem settleSibling_part (cfg : Settings) (intent : PaymentIntent) (contentId : Uuid) :
    Part request Bare (settleSibling cfg intent contentId) fun _ => Bare := by
  refine .bind (bare_part (.perform trivial)) fun sibling => ?_
  cases sibling with
  | none => exact .ret fun _ _ hs => hs
  | some sibling =>
      refine .bind (settle_part cfg sibling) fun ⟨paid, settled⟩ => ?_
      cases paid with
      | false => exact .ret fun _ _ hs => hs
      | true =>
          refine .bind (Q := fun _ => Ready) (Says.write (fun o due hs hd => ?_)
            fun _ _ hs _ => hs.settled) fun _ => commitAndRefresh_part intent
          exact ⟨hs.settled, fun _ => (hs.ready.2 hd).supersede intent settled.resolvedAt⟩

theorem settleOnPoll_part (cfg : Settings) (intent : PaymentIntent) :
    Part request Bare (settleOnPoll cfg intent) fun _ => Bare := by
  refine .bind (settle_part cfg intent) fun ⟨paid, settled⟩ => ?_
  cases paid with
  | true => exact finish_part intent
  | false =>
      cases h : intent.contentId with
      | none => exact .ret fun _ _ hs => hs
      | some contentId => exact settleSibling_part cfg intent contentId

theorem settlePendingIntentOnPoll_part (cfg : Settings) (intent : PaymentIntent) :
    Part request Bare (settlePendingIntentOnPoll cfg intent) fun _ => Bare := by
  unfold settlePendingIntentOnPoll
  split
  · exact .ret fun _ _ hs => hs
  refine .bind (supersedeIfOwned_part true intent) fun owned => ?_
  split
  · exact finishBare_part intent
  split
  · exact .ret fun _ _ hs => hs
  refine .bind (bare_part (.perform trivial)) fun blocked => ?_
  split
  · exact .bind (markIntentPolled_part intent.intentId) fun _ => .ret fun _ _ hs => hs
  · exact .bind (settleOnPoll_part cfg intent) fun settled =>
      .bind (markIntentPolled_part intent.intentId) fun _ => .ret fun _ _ hs => hs

/-! ## The sweeper -/

theorem noteFailure_part (intentId : String) :
    Part request Booked (noteFailure intentId) fun _ => Booked :=
  Says.session fun _ _ hs => ⟨hs.settled, hs.queued⟩

theorem attempt_part {α : Type} {p : Prog α} (hp : p.Every Looks) :
    Part request Booked (attempt p) fun _ => Booked :=
  .tryCatch (M := fun _ => Booked)
    (.bind (booked_looks hp) fun _ => .ret fun _ _ hs => hs) fun _ => .ret fun _ _ hs => hs

theorem settleBooked_tells (cfg : Settings) (intent : PaymentIntent) :
    Says request Booked (settleBakongIntentIfPaid cfg intent) (fun _ => Booked)
      fun _ => Booked := by
  refine (settleBakongIntentIfPaid_tells (Booked.keeping.mono fun _ => False.elim)
    (fun _ _ hs => hs) cfg intent).post fun r o due hs => ?_
  cases h : r.1 <;> simpa [Settling, h] using hs

theorem sweepSettle_part (cfg : Settings) (intent : PaymentIntent) :
    Part request Booked (sweepSettle cfg intent) fun _ => Booked := by
  refine .tryCatch (M := fun _ => Booked) (.bind (settleBooked_tells cfg intent) fun settled => ?_)
    fun _ => .bind (noteFailure_part intent.intentId) fun _ => .ret fun _ _ hs => hs
  split <;> exact .ret fun _ _ hs => hs

theorem sweepEach_part (cfg : Settings) (settled : Nat) (intents : List PaymentIntent) :
    Part request Booked (sweepEach cfg settled intents) fun _ => Booked := by
  induction intents generalizing settled with
  | nil => exact .ret fun _ _ hs => hs
  | cons intent intents ih =>
      refine .bind (booked_part (.perform trivial)) fun blocked => ?_
      split
      · exact .ret fun _ _ hs => hs
      refine .bind (attempt_part (probeKhqrStatus_looks _ _)) fun status => ?_
      cases status with
      | none => exact ih settled
      | some status =>
          refine .bind (booked_part ((sweepPaid_looks intent status).mono fun _ => Looks.plain _))
            fun paid => ?_
          cases paid with
          | none => exact .ret fun _ _ hs => hs
          | some paid =>
              cases paid with
              | false => exact ih settled
              | true => exact .bind (sweepSettle_part cfg intent) fun n => ih (settled + n)

/-- A rollback leaves nothing due. -/
theorem rollback_part : Part request Booked .rollback fun _ _ due => Settled due :=
  Says.rollback fun _ _ hs => hs.settled

theorem sweepPendingBakongIntents_part (cfg : Settings) :
    Part request Bare (sweepPendingBakongIntents cfg) fun _ _ due => Settled due := by
  refine .pre ?_ fun _ _ hs => hs.booked
  refine .bind (booked_part (.perform trivial)) fun paused => ?_
  split
  · exact .ret fun _ _ hs => hs.settled
  refine .bind (booked_part (utcNow_looks.mono fun _ => Looks.plain _)) fun now => ?_
  refine .bind (booked_part (.perform trivial)) fun snapshot => ?_
  refine .bind (booked_part (lockIntentsSkipLocked_plain _ _ _)) fun locked => ?_
  refine .bind (booked_part (.perform trivial)) fun intents => ?_
  split
  · exact .bind rollback_part fun _ => .ret fun _ _ hs => hs
  refine .bind (sweepEach_part cfg 0 intents) fun outcome => ?_
  refine .bind (Q := fun _ _ due => Settled due) ?_ fun _ =>
    .bind (Q := fun _ _ due => Settled due) ?_ fun _ => .ret fun _ _ hs => hs
  · unfold commitIfSettled
    split
    · exact rollback_part
    · exact Says.commitWithTelegram.conseq (fun _ _ hs => hs.ready) (fun _ _ _ hs => hs.settled)
        fun _ _ _ hs => hs
  · unfold pauseIfLimited
    split
    · exact Says.tell fun _ => rfl
    · exact .ret fun _ _ hs => hs

/-! ## Manual fulfilment -/

theorem fulfillPaymentIntent_part (intent : PaymentIntent) (bank : Option String) :
    Part request Booked (fulfillPaymentIntent intent bank) fun _ => Booked :=
  (fulfillPaymentIntent_tells intent bank).conseq (fun _ _ hs => hs) (fun _ _ _ hs => hs)
    fun _ _ _ hs => hs.settled

theorem adminFulfillPayment_part (intentId : String) (admin : Uuid) :
    Part request Bare (adminFulfillPayment intentId admin) fun _ => Bare := by
  refine .bind (bare_part (.perform trivial)) fun found => ?_
  cases found with
  | none => exact .raise fun _ _ hs => hs.settled
  | some intent =>
      dsimp only
      split
      · exact .ret fun _ _ hs => hs
      split
      · exact .raise fun _ _ hs => hs.settled
      refine .bind ((fulfillPaymentIntent_part intent _).pre fun _ _ hs => hs.booked) fun _ => ?_
      exact .bind (booked_part (addApproval_plain trivial)) fun _ => finish_part intent

theorem fulfillAndCommit_part (intent : PaymentIntent) (bank : Option String) :
    Part request Bare (fulfillAndCommit intent bank) fun _ => Bare :=
  .bind ((fulfillPaymentIntent_part intent bank).pre fun _ _ hs => hs.booked) fun _ =>
    Says.commitWithTelegram.pre fun _ _ hs => hs.ready

/-! ## Commits that send nothing -/

/-- Where a plain commit is permitted, it commits no new grant. -/
theorem plainCommit_part (h : request.plainCommit = true) :
    Part request Booked .commit fun _ _ due => Settled due := by
  refine .perform fun o due world r o' hs hpermit hmay => ?_
  obtain ⟨rfl, rfl⟩ := hmay
  cases hd : o.doomed with
  | true => exact ⟨due, by simp [Watch.Moves, announcing, hd], hs.settled⟩
  | false =>
      have hnone : newGrants o.writes = [] := by
        simpa [announcementPermit, mayCommit, hd, h] using hpermit
      refine ⟨some o.writes, ?_, fun writes hwrites => ?_⟩
      · simpa [Watch.Moves, announcing, hd] using hs.settled
      · obtain rfl := Option.some.inj hwrites
        exact hnone

theorem bareCommit_part : Part request Bare .commit fun _ => Bare := by
  refine .perform fun o due world r o' hs _ hmay => ?_
  obtain ⟨rfl, rfl⟩ := hmay
  have hbare (due : Due) (hsettled : Settled due) :
      Bare { o with writes := [], doomed := false } due :=
    ⟨hsettled, hs.pending, fun _ => rfl⟩
  cases hd : o.doomed with
  | true => exact ⟨due, by simp [Watch.Moves, announcing, hd], hbare due hs.settled⟩
  | false =>
      refine ⟨some o.writes, ?_, hbare _ fun writes hwrites => ?_⟩
      · simpa [Watch.Moves, announcing, hd] using hs.settled
      · obtain rfl := Option.some.inj hwrites
        simp [newGrants, hs.granted hd]

theorem playbackSettle_part (h : request.plainCommit = true) (cfg : Settings) (contentId : Uuid)
    (userId : Option Uuid) (guestId : Option String) :
    Part request Bare (playbackSettle cfg contentId userId guestId)
      fun _ _ due => Settled due := by
  have hfirst : ∀ intents, Part request Booked (settleFirstPaid cfg intents) fun _ => Booked := by
    intro intents
    induction intents with
    | nil => exact .ret fun _ _ hs => hs
    | cons intent intents ih =>
        refine .bind ((settleBooked_tells cfg intent).conseq (fun _ _ hs => hs)
          (fun _ _ _ hs => hs) fun _ _ _ hs => hs.settled) fun settled => ?_
        split
        · exact .ret fun _ _ hs => hs
        · exact ih
  refine .pre (.bind (Q := fun _ => Booked) ?_ fun settled => ?_) fun _ _ hs => hs.booked
  · unfold settlePendingMovieBakongForBuyer
    split
    · exact .ret fun _ _ hs => hs
    split
    · exact .ret fun _ _ hs => hs
    refine .bind (booked_part (.perform trivial)) fun blocked => ?_
    split
    · exact .ret fun _ _ hs => hs
    · exact .bind (booked_part (.perform trivial)) fun intents => hfirst intents
  · split
    · exact plainCommit_part h
    · exact .ret fun _ _ hs => hs.settled

theorem barayWebhook_part (h : request.plainCommit = true) (orderId : String)
    (bank : Option String) :
    Part request Bare (barayWebhook orderId bank) fun _ _ due => Settled due := by
  refine .pre ?_ fun _ _ hs => hs.booked
  refine .bind (booked_part (utcNow_looks.mono fun _ => Looks.plain _)) fun _ =>
    .bind (booked_part (uuid4_looks.mono fun _ => Looks.plain _)) fun _ =>
    .bind (booked_part (.perform trivial)) fun _ => .bind (Q := fun _ => Booked) ?_ fun _ =>
    .bind (booked_part (utcNow_looks.mono fun _ => Looks.plain _)) fun _ =>
    .bind (booked_part (.perform trivial)) fun _ => plainCommit_part h
  refine .bind (booked_part (.perform trivial)) fun found => ?_
  cases found with
  | none => exact .ret fun _ _ hs => hs
  | some intent =>
      refine .tryCatch (M := fun _ => Booked) ?_ fun _ => ?_
      · exact .bind (fulfillPaymentIntent_tells intent bank) fun _ => .ret fun _ _ hs => hs
      · exact .bind (noteFailure_part intent.intentId) fun _ => .ret fun _ _ hs => hs

/-! ## Requests -/

theorem closing_part {α : Type} {p : Prog α}
    (h : Part request Bare p fun _ _ due => Settled due) :
    Part request Bare (closing p) fun _ _ due => Settled due := by
  have hrollback {P : Own Write Info → Due → Prop} (hP : ∀ o due, P o due → Settled due) :
      Part request P .rollback fun _ _ due => Settled due :=
    Says.rollback hP
  refine .bind (.tryCatch (M := fun _ _ due => Settled due) (.bind h fun _ => .ret fun _ _ hs => hs)
    fun _ => ?_) fun _ => hrollback fun _ _ hs => hs
  exact .bind (hrollback fun _ _ hs => hs) fun _ => .raise fun _ _ hs => hs

theorem closingBare_part {α : Type} {p : Prog α} (h : Part request Bare p fun _ => Bare) :
    Part request Bare (closing p) fun _ _ due => Settled due :=
  closing_part (h.post fun _ _ _ hs => hs.settled)

/-- A request that settles nothing. -/
theorem closingCommit_part {p : Prog Unit} (hp : p.Every (Plain Write.Idle)) :
    Part request Bare (closing (do p; Prog.commit)) fun _ _ due => Settled due :=
  closingBare_part (.bind (bare_part hp) fun _ => bareCommit_part)

theorem requestProg_part (cfg : Settings) (request : Request) :
    Part request Bare (request.prog cfg) fun _ _ due => Settled due := by
  cases request with
  | checkoutMovie contentId user guest =>
      refine closingBare_part (.bind (bare_part (.perform trivial)) fun purchased => ?_)
      split
      · exact .raise fun _ _ hs => hs.settled
      · exact checkout_part cfg user _ true (movieOrder_looks _ _ _)
  | checkoutSeries seriesId user guest =>
      refine closingBare_part (.bind (bare_looks (subscribed_looks user)) fun active => ?_)
      split
      · exact .raise fun _ _ hs => hs.settled
      refine .bind (bare_part (.perform trivial)) fun purchased => ?_
      split
      · exact .raise fun _ _ hs => hs.settled
      · exact checkout_part cfg user _ true (seriesOrder_looks _ _ _)
  | checkoutPlan user planCode =>
      exact closingBare_part (.bind (bare_looks (resolveActivePlan_looks planCode)) fun plan =>
        .bind (bare_looks (validatePaymentAmount_looks _)) fun amount =>
          checkout_part cfg (some user) _ false trivial)
  | poll intentId user guest =>
      exact closingBare_part (.bind (bare_looks (loadBuyerIntent_looks _ _ _)) fun intent =>
        settlePendingIntentOnPoll_part cfg intent)
  | playback contentId user guest =>
      exact closing_part (playbackSettle_part rfl cfg contentId user guest)
  | sweep => exact closing_part (sweepPendingBakongIntents_part cfg)
  | fulfill intent bank => exact closingBare_part (fulfillAndCommit_part intent bank)
  | adminFulfill intentId admin => exact closingBare_part (adminFulfillPayment_part intentId admin)
  | webhook orderId bank => exact closing_part (barayWebhook_part rfl orderId bank)
  | signIn user guest =>
      exact closingCommit_part (claimGuestPurchases_plain user guest (fun _ _ => rfl) fun _ => rfl)
  | deleteContent id =>
      exact closingBare_part (.bind (bare_part (.bind (deleteReceipts_plain _ _ fun _ _ => rfl)
        fun _ => clearTitle_plain _ _ fun _ _ => rfl)) fun _ =>
        .bind (bare_part (deleteContentRow_plain id fun _ _ => rfl)) fun _ => bareCommit_part)
  | deleteSeries id =>
      exact closingBare_part (.bind (bare_part (deleteSeriesAndDependencies_plain id
        (fun _ _ => rfl) (fun _ _ => rfl) fun _ _ => rfl)) fun _ =>
        .bind (bare_part (deleteSeriesRow_plain id (fun _ _ => rfl) (fun _ _ => rfl)
          fun _ => rfl)) fun _ => bareCommit_part)
  | savePlan row => exact closingCommit_part (.perform rfl)
  | deletePlan code =>
      refine closingBare_part (.bind (bare_part (.perform trivial)) fun used => ?_)
      split
      · exact .raise fun _ _ hs => hs.settled
      · exact .bind (bare_part (.perform rfl)) fun _ => bareCommit_part
  | saveContent row => exact closingCommit_part (.perform rfl)
  | saveSeries id =>
      refine closingBare_part (.bind (bare_part (.perform trivial)) fun found => ?_)
      split
      · exact bareCommit_part
      · exact .bind (bare_part (.perform rfl)) fun _ => bareCommit_part

/-! ## Runs -/

/-- Every commit with new grants is followed at once by the delivery of its
alerts, unless it is the last sign so far and the session goes on; every
delivery follows at once the commit it announces. -/
structure Announced (signs : List Notice) (ended : Prop) : Prop where
  once : ∀ before writes after, signs = before ++ .committed writes :: after →
    newGrants writes ≠ [] → (after = [] ∧ ¬ ended) ∨
      ∃ alerts rest, after = .delivered alerts :: rest ∧ Announces writes alerts
  only : ∀ before alerts after, signs = before ++ .delivered alerts :: after →
    ∃ before' writes, before = before' ++ [.committed writes] ∧ Announces writes alerts

theorem snoc_eq_append_cons {α : Type} {xs before after : List α} {x y : α}
    (h : xs ++ [x] = before ++ y :: after) :
    (after = [] ∧ xs = before ∧ x = y) ∨
      ∃ after', after = after' ++ [x] ∧ xs = before ++ y :: after' := by
  rcases List.eq_nil_or_concat' after with rfl | ⟨after', z, rfl⟩
  · obtain ⟨hxs, hx⟩ := List.append_inj' h rfl
    exact .inl ⟨rfl, hxs, by simpa using hx⟩
  · rw [← List.cons_append, ← List.append_assoc] at h
    obtain ⟨hxs, hx⟩ := List.append_inj' h rfl
    obtain rfl : x = z := by simpa using hx
    exact .inr ⟨after', rfl, hxs⟩

/-- A sequence of signs that a watcher accepted, with what is due after it. -/
structure Account (signs : List Notice) (due : Due) : Prop where
  once : ∀ before writes after, signs = before ++ .committed writes :: after →
    newGrants writes ≠ [] → (after = [] ∧ due = some writes) ∨
      ∃ alerts rest, after = .delivered alerts :: rest ∧ Announces writes alerts
  only : ∀ before alerts after, signs = before ++ .delivered alerts :: after →
    ∃ before' writes, before = before' ++ [.committed writes] ∧ Announces writes alerts
  last : ∀ writes, due = some writes → ∃ before, signs = before ++ [.committed writes]

theorem Account.commit {signs : List Notice} {due : Due} {writes : List Write}
    (h : Account signs due) (hsettled : Settled due) :
    Account (signs ++ [.committed writes]) (some writes) := by
  refine ⟨fun before ws after heq hgrants => ?_, fun before alerts after heq => ?_,
    fun ws hws => ⟨signs, by rw [Option.some.inj hws]⟩⟩
  · rcases snoc_eq_append_cons heq with ⟨rfl, -, hw⟩ | ⟨after', rfl, hsigns⟩
    · cases hw
      exact .inl ⟨rfl, rfl⟩
    · rcases h.once before ws after' hsigns hgrants with ⟨-, hdue⟩ | ⟨alerts, rest, rfl, hannounces⟩
      · exact absurd (hsettled ws hdue) hgrants
      · exact .inr ⟨alerts, rest ++ [.committed writes], rfl, hannounces⟩
  · rcases snoc_eq_append_cons heq with ⟨-, -, hw⟩ | ⟨after', -, hsigns⟩
    · cases hw
    · exact h.only before alerts after' hsigns

theorem Account.deliver {signs : List Notice} {writes : List Write} {alerts : List String}
    (h : Account signs (some writes)) (hannounces : Announces writes alerts) :
    Account (signs ++ [.delivered alerts]) none := by
  obtain ⟨earlier, hlast⟩ := h.last writes rfl
  refine ⟨fun before ws after heq hgrants => ?_, fun before alerts' after heq => ?_, by simp⟩
  · rcases snoc_eq_append_cons heq with ⟨-, -, hw⟩ | ⟨after', rfl, hsigns⟩
    · cases hw
    · rcases h.once before ws after' hsigns hgrants with ⟨rfl, hdue⟩ | ⟨alerts', rest, rfl, hrest⟩
      · obtain rfl := Option.some.inj hdue
        exact .inr ⟨alerts, [], rfl, hannounces⟩
      · exact .inr ⟨alerts', rest ++ [.delivered alerts], rfl, hrest⟩
  · rcases snoc_eq_append_cons heq with ⟨-, hsigns, hw⟩ | ⟨after', -, hsigns⟩
    · cases hw
      exact ⟨earlier, writes, hsigns ▸ hlast, hannounces⟩
    · exact h.only before alerts' after' hsigns

theorem account_of_accepts {signs : List Notice} {due : Due}
    (h : announcing.Accepts none signs due) : Account signs due := by
  induction h with
  | nil => exact ⟨by simp, by simp, by simp⟩
  | @snoc xs due due' notice _ hnext ih =>
      cases notice with
      | committed writes =>
          obtain ⟨hsettled, rfl⟩ := hnext
          exact ih.commit hsettled
      | delivered alerts =>
          obtain ⟨writes, rfl, hannounces, rfl⟩ := hnext
          exact ih.deliver hannounces

theorem Account.announced {signs : List Notice} {due : Due} {ended : Prop}
    (h : Account signs due) (hended : ended → Settled due) : Announced signs ended := by
  refine ⟨fun before writes after heq hgrants => ?_, h.only⟩
  rcases h.once before writes after heq hgrants with ⟨hafter, hdue⟩ | hdelivered
  · exact .inl ⟨hafter, fun ho => hgrants (hended ho writes hdue)⟩
  · exact .inr hdelivered

/-- Sessions commit where `mayCommit` allows it. -/
def announcedCommits (requests : Tid → Request) : Regime where
  stmt t _ c s :=
    match c with
    | .commit => mayCommit (requests t) (s.own t)
    | _ => true
  outside _ _ := true

/-- However the sessions interleave and wherever they fail: as long as neither a
playback settle nor a webhook commits a new grant and no session commits a
transaction the server has rejected while alerts are queued, what a session
committed is announced once, right after the commit, and nothing else is. -/
theorem payments_announced (cfg : Settings) (d : Db) (world : World) (requests : Tid → Request)
    {xs : List (Tid × Notice)} {q : Pool}
    (h : Pool.Trace announcing (announcedCommits requests) (start cfg d world requests) xs q)
    (t : Tid) : Announced (signsOf t xs) ((q.progs t).ended = true) := by
  have hpermit {t : Tid} {α : Type} {c : Stmt α} {s : Store}
      (hstmt : (announcedCommits requests).stmt t c s = true) :
      announcementPermit (requests t) c (s.own t) := by
    cases c <;> first | exact hstmt | trivial
  have hparts (t : Tid) : Follows announcing (announcementPermit (requests t))
      ((requests t).prog cfg) (fun _ _ due => Settled due) (fun _ _ due => Settled due)
      ((start cfg d world requests).store.own t) none :=
    requestProg_part cfg (requests t) _ none
      ⟨fun _ hnone => by simp at hnone, rfl, fun _ => rfl⟩
  obtain ⟨due, haccepts, hfollows⟩ := h.follows hpermit hparts t
  exact (account_of_accepts haccepts).announced fun hended => hfollows.of_ended hended

theorem fulfilment_announced : ∃ xs q,
    Pool.Trace announcing (announcedCommits Shop.fulfillAndPoll)
      (start .default Shop.db Shop.world Shop.fulfillAndPoll) xs q ∧
      (q.progs 1).ended = true ∧ (signsOf 1 xs).length = 2 ∧
      Announced (signsOf 1 xs) ((q.progs 1).ended = true) := by
  obtain ⟨xs, q, htrace, hsigns⟩ := Pool.exists_trace_of_observe
    (f := fun r => (r.2.progs 1).ended && decide ((signsOf 1 r.1).length = 2))
    (show (Pool.observe announcing (announcedCommits Shop.fulfillAndPoll)
      (start .default Shop.db Shop.world Shop.fulfillAndPoll) (Shop.runs 1 27)).any _ = true by
        decide)
  rw [Bool.and_eq_true, decide_eq_true_eq] at hsigns
  exact ⟨xs, q, htrace, hsigns.1, hsigns.2,
    payments_announced .default Shop.db Shop.world Shop.fulfillAndPoll htrace 1⟩

/-- The shop's intent was paid at the bank. -/
def Shop.paidWorld : World :=
  { Shop.world with nbc := fun _ _ => some .paid, paid := ["md5-1"] }

/-- A lone commit of new grants. -/
def loneCommit : List Notice → Bool
  | [.committed writes] => decide (newGrants writes ≠ [])
  | _ => false

/-- The settle attempt before a playback commits the purchase and never sends
the alert it queued. -/
theorem playback_unannounced : ∃ xs q,
    Pool.Trace announcing .any
      (start .default Shop.db Shop.paidWorld fun _ => .playback 10 (some 1) none) xs q ∧
      q.store.world.sentAlerts = [] ∧
      ¬ Announced (signsOf 0 xs) ((q.progs 0).ended = true) := by
  obtain ⟨xs, q, htrace, hrun⟩ := Pool.exists_trace_of_observe
    (f := fun r : _ × Pool => (r.2.progs 0).ended && decide (r.2.store.world.sentAlerts = []) &&
      loneCommit (signsOf 0 r.1))
    (show (Pool.observe announcing .any
      (start .default Shop.db Shop.paidWorld fun _ => .playback 10 (some 1) none)
      (Shop.runs 0 21)).any _ = true by decide)
  simp only [Bool.and_eq_true, decide_eq_true_eq] at hrun
  obtain ⟨⟨hended, hsent⟩, hsigns⟩ := hrun
  refine ⟨xs, q, htrace, hsent, fun hannounced => ?_⟩
  unfold loneCommit at hsigns
  split at hsigns
  · next writes heq =>
      rcases hannounced.once [] writes [] heq (of_decide_eq_true hsigns) with
        ⟨-, hgoes⟩ | ⟨alerts, rest, hnil, -⟩
      · exact hgoes hended
      · simp at hnil
  · simp at hsigns

end MovieApi.Billing
