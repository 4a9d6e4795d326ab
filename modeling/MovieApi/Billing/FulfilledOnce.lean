import MovieApi.Billing.PaidPeriods
import MovieApi.ReadCommitted.Lasting

/-!
# Fulfilments, once each

Any number of sessions that fulfil intents and commit.  A session that marks an intent
succeeded holds the lock on it until it commits, and with it the grants of the intent;
what it writes of a subscription it read under the lock on the user's row in
`subscriptions`, or found missing as it entered the user in the unique index.  So every
commit publishes one fulfilment of an open intent, as `Publishes` says, or nothing.
-/

namespace MovieApi.Billing

open ReadCommitted ReadCommitted.Prog Sql

/-! ## The sessions -/

/-- A session that fulfils an intent, and commits. -/
def fulfilling (intent : PaymentIntent) (bank : Option String) : Prog Unit :=
  closing do
    let _ ← fulfillPaymentIntent intent bank
    commitWithTelegram

/-- Any number of sessions over an idle database; session `t` makes call `t`. -/
def startFulfilments (d : Db) (world : World) (calls : Tid → PaymentIntent × Option String) :
    Pool where
  store := .idle d .empty world
  progs t := fulfilling (calls t).1 (calls t).2

/-! ## The contract -/

variable {start d : Db} {t : Tid} {f : Fulfilment} {ws : List Write} {s s' : Store}
  {P P' : Store → Prop}

/-- The intent is fulfilled, or there is none. -/
def Db.Settled (d : Db) (intentId : String) : Prop :=
  ∀ row, d.intent? intentId = some row → row.status = .succeeded

/-- Plans stay, grants are unique and settled intents settled; a session that has locked
an intent finds its grants as it left them, and publishes a fulfilment or nothing. -/
def fulfilContract (start : Db) : Contract where
  Inv s := s.db.plans = start.plans ∧ s.db.UniqueGrants
  Obl t _ c s := match c with
    | .commit => Publishes start s.db (s.writes t)
    | _ => True
  Rely s s' := ∀ intentId, s.db.Settled intentId → s'.db.Settled intentId
  rely_refl _ _ := id
  rely_trans h h' intentId := h' intentId ∘ h intentId
  Spares t s s' := ∀ intentId, s.Holds t (.intent intentId) .update →
    s'.Holds t (.intent intentId) .update ∧ SameGrants intentId s.db s'.db
  spares_refl _ s intentId hheld := ⟨hheld, .refl intentId s.db⟩
  spares_trans h h' intentId hheld := by
    obtain ⟨hheld', hgrants⟩ := h intentId hheld
    obtain ⟨hheld'', hgrants'⟩ := h' intentId hheld'
    exact ⟨hheld'', hgrants.trans hgrants'⟩

theorem Publishes.keeps (h : Publishes start d ws) (hd : d.UniqueGrants) :
    (applyAll ws d).plans = d.plans ∧ (applyAll ws d).UniqueGrants := by
  cases h with
  | nothing => exact ⟨rfl, hd⟩
  | @fulfilment f ws hstored hopen h =>
      refine ⟨(applyAll_ofGrant h.ofGrant _).2, h.after_write.uniqueGrants ?_⟩
      exact ⟨hd.receipts, hd.payments, hd.subscriptions⟩

theorem Publishes.settled (h : Publishes start d ws) {intentId : String}
    (hd : d.Settled intentId) : (applyAll ws d).Settled intentId := by
  cases h with
  | nothing => exact hd
  | @fulfilment f ws hstored hopen h =>
      intro row hrow
      rw [h.intent?, intent?_write] at hrow
      split at hrow
      · obtain ⟨row', -, rfl⟩ := Option.map_eq_some_iff.1 hrow
        rfl
      · exact hd row hrow

/-- A commit changes no grant of an intent that another session has locked. -/
theorem Publishes.spares {u : Tid} (hdis : s.Disciplined) (hne : u ≠ t)
    (h : Publishes start s.db (s.writes u)) {intentId : String}
    (hheld : s.Holds t (.intent intentId) .update) :
    SameGrants intentId s.db (s.view u) := by
  unfold Store.view
  generalize hws : s.writes u = ws at h
  cases h with
  | nothing => exact .refl intentId s.db
  | @fulfilment f ws hstored hopen h =>
      have hlock : s.Holds u (.intent f.id) .noKeyUpdate :=
        hdis.covered (w := f.write) (by simp [hws])
          (by simp [Fulfilment.write, Write.needs, Fulfilment.id])
      have hother : intentId ≠ f.id := by
        rintro rfl
        have hconflict := hdis.compatible hne.symm hheld hlock
        simp at hconflict
      exact (write_sameGrants f intentId s.db).trans (h.after_write.sameGrants hother)

theorem fulfilContract_sound : (fulfilContract start).Sound .any := by
  refine .of_steps ?_ ?_ ?_ ?_ ?_ ?_
  · intro t s s' hq hinv
    refine ⟨?_, fun intentId hs => hq.db ▸ hs⟩
    show s'.db.plans = start.plans ∧ s'.db.UniqueGrants
    rw [hq.db]
    exact hinv
  · intro t w s _ hinv _ _ _
    exact ⟨hinv, fun _ => id⟩
  · intro t s _ hinv hobl _ _
    obtain ⟨hplans, hunique⟩ := Publishes.keeps hobl hinv.2
    exact ⟨⟨hplans.trans hinv.1, hunique⟩, fun _ => Publishes.settled hobl⟩
  · intro t s hinv
    exact ⟨hinv, fun _ => id⟩
  · intro t s s' hsteady hdb intentId hheld
    refine ⟨hsteady.holds_iff.2 hheld, ?_⟩
    rw [hdb]
    exact .refl intentId s.db
  · intro t u s hne hdis hinv hobl _ _ intentId hheld
    exact ⟨Store.holds_finish.2 ⟨hne.symm, hheld⟩, Publishes.spares hdis hne hobl hheld⟩

/-! ## What a session keeps -/

/-- An assertion that moves of others, and its own moves short of a write, keep. -/
structure Retained (start : Db) (t : Tid) (P : Store → Prop) : Prop where
  stable : Stable (fulfilContract start) t P
  quiet : ∀ {s s' : Store}, Quiet t s s' → P s → P s'

namespace Retained

theorem and (h : Retained start t P) (h' : Retained start t P') :
    Retained start t fun s => P s ∧ P' s where
  stable := h.stable.and h'.stable
  quiet hq hs := ⟨h.quiet hq hs.1, h'.quiet hq hs.2⟩

theorem writes (ws : List Write) : Retained start t fun s => s.writes t = ws where
  stable := ⟨fun hb hs => hb.writes.trans hs⟩
  quiet hq hs := (congrFun hq.writes t).trans hs

/-- Data under a lock. -/
theorem locked (k : Key) (mode : LockMode) (φ : Db → Prop)
    (hφ : ∀ d d', Protected k mode d d' → φ d → φ d') :
    Retained start t fun s => s.Holds t k mode ∧ φ s.db where
  stable := ⟨fun hb hs => ⟨hb.holds_iff.2 hs.1, hφ _ _ (hb.agree hs.1) hs.2⟩⟩
  quiet hq hs := ⟨hq.holds hs.1, hq.db ▸ hs.2⟩

/-- Grants of a locked intent. -/
theorem grants {intentId : String} {φ : Db → Prop}
    (hφ : ∀ d d', SameGrants intentId d d' → φ d → φ d') :
    Retained start t fun s => s.Holds t (.intent intentId) .update ∧ φ s.db where
  stable := ⟨fun hb hs => by
    obtain ⟨hheld, hgrants⟩ := hb.spares intentId hs.1
    exact ⟨hheld, hφ _ _ hgrants hs.2⟩⟩
  quiet hq hs := ⟨hq.holds hs.1, hq.db ▸ hs.2⟩

/-- Statements that write nothing and end no transaction. -/
theorem every {α : Type} {p : Prog α} (h : Retained start t P)
    (hp : p.Every (Mild fun _ => False)) :
    Triple (fulfilContract start) t P p (fun _ => P) fun _ _ => True := by
  refine Triple.conseq
    (.every h.stable (fun {β} c hc s _ hs => ⟨fun _ => ?_, fun a s' hexec => ?_⟩) hp)
    (fun _ => id) (fun _ _ => id) fun _ _ _ => trivial
  · cases c with
    | commit => exact hc.elim
    | _ => trivial
  · exact h.quiet (hc.quiet hexec).1 hs

theorem reads {α : Type} {p : Prog α} (h : Retained start t P) (hp : p.Every Reads) :
    Triple (fulfilContract start) t P p (fun _ => P) fun _ _ => True :=
  h.every (hp.mono fun _ => Reads.mild _)

end Retained

/-! ## The programs -/

/-- The session has locked an open intent, and has written `ws`. -/
def Working (t : Tid) (f : Fulfilment) (ws : List Write) (s : Store) : Prop :=
  (s.Holds t (.intent f.id) .update ∧ s.db.intent? f.id = some f.intent) ∧ s.writes t = ws

theorem working_retained : Retained start t (Working t f ws) :=
  .and (.locked (.intent f.id) .update (fun d => d.intent? f.id = some f.intent)
    fun _ _ h hd => (h (by decide)).symm.trans hd) (.writes ws)

theorem Working.wrote (h : Working t f ws s) (w : Write) : Working t f (ws ++ [w]) (wrote t w s) :=
  ⟨⟨Store.holds_acquire.2 (.inr h.1.1), h.1.2⟩, by
    simp [Billing.wrote, h.2]⟩

/-- What the session reads after the status write. -/
theorem Working.view (h : Working t f [f.write] s) : s.view t = f.write.apply s.db := by
  rw [Store.view, h.2]
  rfl

/-- The subscription of a user as the session has locked it. -/
def LockedSubscription (t : Tid) (user : Uuid) (subscription? : Option Subscription)
    (s : Store) : Prop :=
  s.Holds t (.subscription user) .update ∧ s.db.subscription? user = subscription?

theorem lockedSubscription_retained {user : Uuid} {subscription? : Option Subscription} :
    Retained start t (LockedSubscription t user subscription?) :=
  .locked (.subscription user) .update (fun d => d.subscription? user = subscription?)
    fun _ _ h hd => (h (by decide)).symm.trans hd

/-- What the session may commit after a call for the intent. -/
inductive ToPublish (start : Db) (t : Tid) (intentId : String) (s : Store) : Prop
  | idle (h : s.writes t = []) (hsettled : s.db.Settled intentId)
  | title {f : Fulfilment} {ws : List Write} (hid : f.id = intentId)
      (hopen : f.intent.status ≠ .succeeded)
      (hs : Working t f (f.write :: ws) s) (h : TitleGrant s.db f ws)
  | subscription {f : Fulfilment} {ws : List Write} {user : Uuid}
      {subscription? : Option Subscription} (hid : f.id = intentId)
      (hopen : f.intent.status ≠ .succeeded) (hs : Working t f (f.write :: ws) s)
      (hkind : f.intent.kind = .sub)
      (huser : f.intent.userId = some user) (hfree : s.db.payment? f.id = none)
      (hlocked : LockedSubscription t user subscription? s)
      (h : SubscriptionGrant start.planFor f user subscription? ws)

theorem ToPublish.publishes {intentId : String} (h : ToPublish start t intentId s) :
    Publishes start s.db (s.writes t) := by
  cases h with
  | idle h _ => exact h ▸ .nothing
  | title _ hopen hs h => exact hs.2 ▸ .fulfilment hs.1.2 hopen (.title h)
  | subscription _ hopen hs hkind huser hfree hlocked h =>
      exact hs.2 ▸ .fulfilment hs.1.2 hopen (.subscription hkind huser hfree (hlocked.2 ▸ h))

/-- The status write settles the intent. -/
theorem GrantWrites.settles (h : GrantWrites start d f ws) :
    (applyAll (f.write :: ws) d).Settled f.id := by
  intro row hrow
  rw [h.intent?, intent?_write, if_pos rfl] at hrow
  obtain ⟨row', -, rfl⟩ := Option.map_eq_some_iff.1 hrow
  rfl

theorem ToPublish.settles {intentId : String} (h : ToPublish start t intentId s) :
    (s.view t).Settled intentId := by
  unfold Store.view
  cases h with
  | idle h hsettled =>
      rw [h]
      exact hsettled
  | title hid _ hs h =>
      rw [hs.2, ← hid]
      exact @GrantWrites.settles start _ _ _ (.title h)
  | subscription hid _ hs hkind huser hfree hlocked h =>
      rw [hs.2, ← hid]
      exact GrantWrites.settles (.subscription hkind huser hfree (hlocked.2 ▸ h))

theorem toPublish_retained {intentId : String} :
    Retained start t (ToPublish start t intentId) where
  stable := ⟨fun {s s'} hb hs => by
    cases hs with
    | idle h hsettled => exact .idle (hb.writes.trans h) (hb.rely _ hsettled)
    | title hid hopen hs h =>
        have hgrants := (hb.spares _ hs.1.1).2
        exact .title hid hopen (working_retained.stable.keep hb hs) (h.congr hgrants)
    | subscription hid hopen hs hkind huser hfree hlocked h =>
        have hgrants := (hb.spares _ hs.1.1).2
        exact .subscription hid hopen (working_retained.stable.keep hb hs) hkind huser
          (hgrants.payment.trans hfree) (lockedSubscription_retained.stable.keep hb hlocked) h⟩
  quiet {s s'} hq hs := by
    have hworking : ∀ {f : Fulfilment} {ws : List Write},
        Working t f ws s → Working t f ws s' :=
      fun hs => (@working_retained start _ _ _).quiet hq hs
    cases hs with
    | idle h hsettled => exact .idle ((congrFun hq.writes t).trans h) (hq.db ▸ hsettled)
    | title hid hopen hs h => exact .title hid hopen (hworking hs) (hq.db ▸ h)
    | subscription hid hopen hs hkind huser hfree hlocked h =>
        exact .subscription hid hopen (hworking hs) hkind huser (hq.db ▸ hfree)
          ((@lockedSubscription_retained start _ _ _).quiet hq hlocked) h

/-- The locked intent, while the session has written nothing. -/
theorem lockIntent_publishes (intentId : String) :
    Triple (fulfilContract start) t (fun s => s.writes t = []) (lockIntent intentId)
      (fun row? s => match row? with
        | some row => row.intentId = intentId ∧ ∀ now, Working t ⟨row, now⟩ [] s
        | none => s.writes t = [] ∧ s.db.Settled intentId) fun _ _ => True := by
  have hidle : Retained start t fun s => s.writes t = [] := .writes []
  have hview : ∀ s : Store, s.writes t = [] → s.view t = s.db := by
    intro s hs
    rw [Store.view, hs]
    rfl
  have hmissing : ∀ d : Db, d.intent? intentId = none → d.Settled intentId := by
    intro d hd row hrow
    rw [hd] at hrow
    cases hrow
  refine .bind (.select (Q := fun found s => s.writes t = [] ∧
    (found = false → s.db.Settled intentId)) hidle.stable fun s _ hs _ =>
      ⟨trivial, hs, fun hnone => ?_⟩) fun found => ?_
  · rw [hview s hs] at hnone
    exact hmissing _ (by simpa using hnone)
  split
  · refine .bind (.lock (Q := fun _ s => s.Holds t (.intent intentId) .update ∧ s.writes t = [])
      ⟨fun hb hs => ⟨hidle.stable.keep hb hs.1, fun hfound => hb.rely _ (hs.2 hfound)⟩⟩
      fun s _ hs _ => ⟨trivial, fun _ => ⟨by simp, hs.1⟩⟩) fun _ => ?_
    refine .select (.and (.holds _ _) hidle.stable) fun s _ hs _ => ⟨trivial, ?_⟩
    rw [hview s hs.2]
    cases hrow : s.db.intent? intentId with
    | none => exact ⟨hs.2, hmissing _ hrow⟩
    | some row =>
        obtain rfl : row.intentId = intentId := key_of_lookup hrow
        exact ⟨rfl, fun now => ⟨⟨hs.1, hrow⟩, hs.2⟩⟩
  · next hfound => exact .ret fun s hs => ⟨hs.1, hs.2 (by simpa using hfound)⟩

/-- The plan of the intent, from the tables the run started with. -/
theorem resolvePlan_publishes (h : Retained start t P)
    (hplans : ∀ s, s.db.plans = start.plans → P s → (s.view t).plans = start.plans) :
    Triple (fulfilContract start) t P (resolvePlanForSubscriptionIntent f.settled)
      (fun plan s => start.planFor f.intent = .ok plan ∧ P s) fun _ _ => True := by
  have hselect : ∀ {α : Type} {query : Db → α}, (∀ d, d.plans = start.plans →
      query d = query start) → Triple (fulfilContract start) t P (Prog.select query)
        (fun a s => a = query start ∧ P s) fun _ _ => True := by
    intro α query hquery
    exact .select h.stable fun s hc hs _ =>
      ⟨trivial, hquery _ (hplans s hc.inv.1 hs), h.quiet (.begin t s) hs⟩
  have hactive : ∀ d : Db, d.plans = start.plans → d.activePlans = start.activePlans := by
    intro d hd
    rw [Db.activePlans, hd]
    rfl
  have hdefault : Triple (fulfilContract start) t P (resolveActivePlan none)
      (fun plan s => start.defaultPlan = .ok plan ∧ P s) fun _ _ => True := by
    refine .bind (hselect fun d hd => by rw [hactive d hd]) fun plan? => ?_
    refine .given (fun s hs => hs.1) fun hplan => ?_
    subst hplan
    unfold Db.defaultPlan
    cases start.activePlans.head? with
    | some plan => exact .ret fun s hs => ⟨rfl, hs.2⟩
    | none => exact .raise fun _ _ => trivial
  have hamount : Triple (fulfilContract start) t P (resolvePlanByAmount f.settled)
      (fun plan s => start.planByAmount f.intent = .ok plan ∧ P s) fun _ _ => True := by
    refine .bind (hselect fun d hd => hactive d hd) fun plans => ?_
    refine .given (fun s hs => hs.1) fun hplan => ?_
    subst hplan
    unfold Db.planByAmount
    rw [show f.settled.amountUsd = f.intent.amountUsd from rfl]
    cases start.activePlans.filter fun plan => decide (plan.priceUsd = f.intent.amountUsd) with
    | cons plan plans => exact .ret fun s hs => ⟨rfl, hs.2⟩
    | nil => exact hdefault.pre fun s hs => hs.2
  unfold resolvePlanForSubscriptionIntent Db.planFor
  rw [show f.settled.codedPlan = f.intent.codedPlan from rfl]
  cases f.intent.codedPlan with
  | none => exact hamount
  | some code =>
      refine .bind (hselect fun d hd => by rw [Db.plan?, hd]; rfl) fun plan? => ?_
      refine .given (fun s hs => hs.1) fun hplan => ?_
      subst hplan
      rw [Option.bind_some, Db.activePlan?]
      cases Option.filter SubscriptionPlan.isActive (start.plan? code) with
      | some plan => exact .ret fun s hs => ⟨rfl, hs.2⟩
      | none => exact hamount.pre fun s hs => hs.2

theorem notify_publishes (h : Retained start t P) (intent : PaymentIntent) (bank : Option String) :
    Triple (fulfilContract start) t P (notifyPaymentSucceeded intent bank) (fun _ => P)
      fun _ _ => True :=
  h.reads (notifyPaymentSucceeded_reads intent bank)

/-- The session has marked the intent succeeded. -/
def Marked (t : Tid) (f : Fulfilment) (s : Store) : Prop := Working t f [f.write] s

theorem marked_retained : Retained start t (Marked t f) := working_retained

/-- A row that is not there cannot come while the session holds the intent. -/
theorem noReceipt_retained {title : Title} : Retained start t fun s =>
    s.Holds t (.intent f.id) .update ∧ s.db.receipt? title f.id = none :=
  .grants fun _ _ h hd => (h.receipts title).trans hd

theorem noPayment_retained : Retained start t fun s =>
    s.Holds t (.intent f.id) .update ∧ s.db.payment? f.id = none :=
  .grants fun _ _ h hd => h.payment.trans hd

/-! ### The grant of a title -/

section

variable {title : Title} {titleId : Uuid}

theorem Marked.receipt? (h : Marked t f s) :
    (s.view t).receipt? title f.id = s.db.receipt? title f.id := by
  rw [h.view]
  exact (write_sameGrants f f.id s.db).receipts title

/-- A receipt that is there already is all there is to make. -/
theorem Marked.made (h : Marked t f s) (hopen : f.intent.status ≠ .succeeded)
    (hkind : f.intent.kind = title.kind)
    (hreceipt : ((s.view t).receipt? title f.id).isSome = true) : ToPublish start t f.id s := by
  rw [h.receipt?] at hreceipt
  refine .title rfl hopen h (.nothing fun _ => ?_)
  rw [hkind]
  cases title <;> exact hreceipt

theorem insertReceipt_publishes (hopen : f.intent.status ≠ .succeeded)
    (hkind : f.intent.kind = title.kind) (bank : Option String) :
    Triple (fulfilContract start) t (Marked t f)
      (insertReceipt title (f.settled.receipt titleId bank)) (fun _ => ToPublish start t f.id)
      fun _ _ => True := by
  have hfree : Retained start t fun s => Marked t f s ∧
      (s.Holds t (.intent f.id) .update ∧ s.db.receipt? title f.id = none) :=
    .and marked_retained noReceipt_retained
  refine .bind (.enter (Q := fun entered s => if entered then Marked t f s ∧
    (s.Holds t (.intent f.id) .update ∧ s.db.receipt? title f.id = none)
    else ToPublish start t f.id s)
    marked_retained.stable fun s _ hs _ => ⟨trivial, fun _ htaken => ?_, fun _ htaken => ?_⟩)
    fun entered => ?_
  · exact toPublish_retained.quiet (.begin t s) (hs.made hopen hkind htaken)
  · have hnone : ((s.view t).receipt? title f.id).isSome = false := htaken
    rw [hs.receipt?] at hnone
    have hnone' : s.db.receipt? title f.id = none := by simpa using hnone
    exact hfree.quiet (.acquire t s _) ⟨hs, hs.1.1, hnone'⟩
  · cases entered with
    | false => exact .ret fun _ hs => hs
    | true =>
        refine .bind (hfree.every (enterUnique_mild _ _)) fun _ => ?_
        refine .bind (hfree.every (referenceUser_mild _)) fun _ => ?_
        refine .bind (hfree.every (referenceTitle_mild _ _)) fun _ => ?_
        refine .write hfree.stable fun s _ hs _ => ⟨trivial, fun _ => ?_⟩
        exact .title rfl hopen (hs.1.wrote _) (.receipt bank hkind hs.2.2)

theorem grantTitle_publishes (hopen : f.intent.status ≠ .succeeded)
    (hkind : f.intent.kind = title.kind) (bank : Option String) :
    Triple (fulfilContract start) t (Marked t f) (grantTitle title titleId f.settled bank)
      (fun _ => ToPublish start t f.id) fun _ _ => True := by
  refine .bind (.select
    (Q := fun found s => if found then ToPublish start t f.id s else Marked t f s)
    marked_retained.stable fun s _ hs _ => ⟨trivial, ?_⟩) fun found => ?_
  · show if ((s.view t).receipt? title f.id).isSome = true then ToPublish start t f.id (s.begin t)
      else Marked t f (s.begin t)
    split
    · next h => exact toPublish_retained.quiet (.begin t s) (hs.made hopen hkind h)
    · exact hs
  · cases found with
    | true => exact .ret fun _ hs => hs
    | false =>
        exact .bind (insertReceipt_publishes hopen hkind bank) fun _ =>
          notify_publishes toPublish_retained _ _

end

/-! ### The grant of a subscription -/

/-- The session has marked the intent of a user, for which no payment is booked. -/
def Unpaid (t : Tid) (f : Fulfilment) (s : Store) : Prop :=
  Marked t f s ∧ (s.Holds t (.intent f.id) .update ∧ s.db.payment? f.id = none)

theorem unpaid_retained : Retained start t (Unpaid t f) := .and marked_retained noPayment_retained

theorem Marked.payment? (h : Marked t f s) : (s.view t).payment? f.id = s.db.payment? f.id := by
  rw [h.view]
  exact (write_sameGrants f f.id s.db).payment

theorem Marked.subscriptionsOf (h : Marked t f s) (user? : Option Uuid) :
    (s.view t).subscriptionsOf user? = s.db.subscriptionsOf user? := by
  rw [h.view]
  rfl

/-- The user's subscription, if it is found, is locked. -/
theorem lockSubscription_publishes (user? : Option Uuid) :
    Triple (fulfilContract start) t (Unpaid t f) (lockSubscription user?)
      (fun subscription? s => Unpaid t f s ∧ ∀ row, subscription? = some row →
        user? = some row.userId ∧ LockedSubscription t row.userId (some row) s)
      fun _ _ => True := by
  refine .bind (.select (Q := fun found s => Unpaid t f s ∧ ∀ row, found = some row →
    user? = some row.userId) unpaid_retained.stable fun s _ hs _ =>
      ⟨trivial, (@unpaid_retained start _ _).quiet (.begin t s) hs, fun row hrow => ?_⟩)
      fun found => ?_
  · have hmem := List.mem_of_head? hrow
    rw [Db.subscriptionsOf, mem_orderBy, List.mem_filter, decide_eq_true_eq] at hmem
    exact hmem.2.symm
  cases found with
  | none => exact .ret fun _ hs => ⟨hs.1, fun _ h => by cases h⟩
  | some found =>
      refine .given (fun s hs => hs.2 found rfl) fun huser => ?_
      subst huser
      have hlock : Retained start t fun s =>
          Unpaid t f s ∧ (s.Holds t (.subscription found.userId) .update ∧ True) :=
        .and unpaid_retained (.locked _ _ (fun _ => True) fun _ _ _ _ => trivial)
      refine .bind (.lock (Q := fun _ s => Unpaid t f s ∧
        (s.Holds t (.subscription found.userId) .update ∧ True))
        (.and unpaid_retained.stable (.pure _)) fun s _ hs _ => ⟨trivial, fun _ => ?_⟩)
        fun _ => ?_
      · exact ⟨(@unpaid_retained start _ _).quiet (.acquire t s _) hs.1, by simp, trivial⟩
      · refine .select hlock.stable fun s hc hs _ => ⟨trivial, hs.1, fun row hrow => ?_⟩
        rw [hs.1.1.subscriptionsOf, subscriptionsOf_head? hc.inv.2.subscriptions] at hrow
        have huser : row.userId = found.userId := key_of_lookup hrow
        rw [huser]
        exact ⟨rfl, hs.2.1, hrow⟩

theorem enterUnique_publishes {key : Key} {taken : Db → Bool} (hP : Retained start t P)
    (h : ∀ s, P s → taken (s.view t) = false → P' ((s.begin t).acquire t [(key, .update)])) :
    Triple (fulfilContract start) t P (enterUnique key taken) (fun _ => P') fun _ _ => True := by
  refine .bind (.enter (Q := fun entered s => if entered then P' s else True) hP.stable
    fun s _ hs _ => ⟨trivial, fun _ _ => trivial, fun _ hfree => h s hs hfree⟩)
    fun entered => ?_
  cases entered with
  | true => exact .ret fun _ hs => hs
  | false => exact .reject (.pure True) fun _ _ _ _ => trivial

/-- The session has saved the user's subscription, which it has locked. -/
def Extended (t : Tid) (f : Fulfilment) (user : Uuid) (subscription? : Option Subscription)
    (row : Subscription) (s : Store) : Prop :=
  (Working t f [f.write, savingWrite subscription? row] s ∧
    (s.Holds t (.intent f.id) .update ∧ s.db.payment? f.id = none)) ∧
      LockedSubscription t user subscription? s

theorem extended_retained {user : Uuid} {subscription? : Option Subscription}
    {row : Subscription} : Retained start t (Extended t f user subscription? row) :=
  .and (.and working_retained noPayment_retained) lockedSubscription_retained

theorem Unpaid.save {user : Uuid} {subscription? : Option Subscription} (hs : Unpaid t f s)
    (hlocked : LockedSubscription t user subscription? s) (row : Subscription) :
    Extended t f user subscription? row (wrote t (savingWrite subscription? row) s) :=
  ⟨⟨hs.1.wrote _, Store.holds_acquire.2 (.inr hs.2.1), hs.2.2⟩,
    Store.holds_acquire.2 (.inr hlocked.1), hlocked.2⟩

/-- What `lockSubscription` has found. -/
def Found (t : Tid) (user? : Option Uuid) (subscription? : Option Subscription) (s : Store) :
    Prop :=
  ∀ row, subscription? = some row →
    user? = some row.userId ∧ LockedSubscription t row.userId (some row) s

theorem saveSubscription_publishes (user? : Option Uuid) (subscription? : Option Subscription)
    (plan : String) (now periodEnd : Instant) :
    Triple (fulfilContract start) t (fun s => Unpaid t f s ∧ Found t user? subscription? s)
      (saveSubscription subscription? user? plan now periodEnd)
      (fun row s => ∃ user newId, user? = some user ∧
        row = savedRow subscription? newId user plan now periodEnd ∧
          Extended t f user subscription? row s) fun _ _ => True := by
  cases subscription? with
  | some found =>
      refine .given (fun s hs => (hs.2 found rfl).1) fun huser => ?_
      have hlocked : Retained start t fun s =>
          Unpaid t f s ∧ LockedSubscription t found.userId (some found) s :=
        .and unpaid_retained lockedSubscription_retained
      refine .pre (P := fun s => Unpaid t f s ∧ LockedSubscription t found.userId (some found) s)
        ?_ fun s hs => ⟨hs.1, (hs.2 found rfl).2⟩
      refine .bind (.write (Q := fun _ s => Extended t f found.userId (some found)
        (found.extended plan now periodEnd) s) hlocked.stable fun s _ hs _ =>
          ⟨trivial, fun _ => hs.1.save hs.2 _⟩) fun _ => ?_
      exact .ret fun s hs => ⟨found.userId, found.id, huser, rfl, hs⟩
  | none =>
      refine .pre (P := Unpaid t f) ?_ fun s hs => hs.1
      cases user? with
      | none =>
          refine .bind (.reject (Q := fun _ _ => True) unpaid_retained.stable
            fun _ _ _ _ => trivial) fun _ => ?_
          exact .raise fun _ _ => trivial
      | some user =>
          have hlocked : Retained start t fun s =>
              Unpaid t f s ∧ LockedSubscription t user none s :=
            .and unpaid_retained lockedSubscription_retained
          refine .bind (unpaid_retained.reads uuid4_reads) fun newId => ?_
          refine .bind (Q := fun _ s => Unpaid t f s ∧ LockedSubscription t user none s)
            (enterUnique_publishes unpaid_retained fun s hs hfree => ?_) fun _ => ?_
          · have hnone : (s.view t).subscription? user = none := by simpa using hfree
            rw [hs.1.view] at hnone
            exact ⟨(@unpaid_retained start _ _).quiet (.acquire t s _) hs, by simp, hnone⟩
          · refine .bind (hlocked.every (referenceUser_mild _)) fun _ => ?_
            refine .bind (.write (Q := fun _ s => Extended t f user none
              ⟨newId, user, plan, .active, now, periodEnd⟩ s) hlocked.stable fun s _ hs _ =>
                ⟨trivial, fun _ => hs.1.save hs.2 _⟩) fun _ => ?_
            exact .ret fun s hs => ⟨user, newId, rfl, rfl, hs⟩

theorem Extended.payment? {user : Uuid} {subscription? : Option Subscription} {row : Subscription}
    (h : Extended t f user subscription? row s) : (s.view t).payment? f.id = none := by
  rw [Store.view, h.1.1.2]
  simp only [applyAll_cons, applyAll_nil, apply_eq]
  exact (congrArg (lookup _ _) (payments_savingWrite subscription?)).trans h.1.2.2

/-- The payment of an extension that is made under the plan of the intent. -/
theorem insertPayment_publishes (hopen : f.intent.status ≠ .succeeded)
    (hkind : f.intent.kind = .sub) {user : Uuid} (huser : f.intent.userId = some user)
    {subscription? : Option Subscription}
    {plan : SubscriptionPlan} (hplan : start.planFor f.intent = .ok plan) {periodEnd : Instant}
    (hend : periodEnd = periodStart subscription? f.at_ +
      days (billingIntervalDays f.intent plan)) (newId : Uuid) (bank : Option String) :
    Triple (fulfilContract start) t
      (Extended t f user subscription?
        (savedRow subscription? newId user plan.code f.at_ periodEnd))
      (insertPayment (f.settled.payment
        (savedRow subscription? newId user plan.code f.at_ periodEnd) periodEnd bank))
      (fun _ => ToPublish start t f.id) fun _ _ => True := by
  refine .bind (.enter (Q := fun entered s => entered = true ∧ Extended t f user subscription?
    (savedRow subscription? newId user plan.code f.at_ periodEnd) s) extended_retained.stable
      fun s _ hs _ => ⟨trivial, fun _ htaken => ?_, fun _ _ => ⟨rfl, ?_⟩⟩) fun entered => ?_
  · have hsome : ((s.view t).payment? f.id).isSome = true := htaken
    rw [hs.payment?] at hsome
    cases hsome
  · exact (@extended_retained start _ _ _ _ _).quiet (.acquire t s _) hs
  · refine .given (fun s hs => hs.1) fun hentered => .pre ?_ fun s hs => hs.2
    subst hentered
    refine .bind (extended_retained.every (enterUnique_mild _ _)) fun _ => ?_
    refine .write extended_retained.stable fun s _ hs _ => ⟨trivial, fun _ => ?_⟩
    exact .subscription rfl hopen (hs.1.1.wrote _) hkind huser hs.1.2.2
      ⟨Store.holds_acquire.2 (.inr hs.2.1), hs.2.2⟩ (.saved newId bank hplan hend)

theorem grantSubscription_publishes (hopen : f.intent.status ≠ .succeeded)
    (hkind : f.intent.kind = .sub) (bank : Option String) :
    Triple (fulfilContract start) t (Marked t f) (grantSubscription f.settled f.at_ bank)
      (fun _ => ToPublish start t f.id) fun _ _ => True := by
  refine .bind (.select
    (Q := fun found s => if found then ToPublish start t f.id s else Unpaid t f s)
    marked_retained.stable fun s _ hs _ => ⟨trivial, ?_⟩) fun found => ?_
  · show if ((s.view t).payment? f.id).isSome = true then ToPublish start t f.id (s.begin t)
      else Unpaid t f (s.begin t)
    rw [hs.payment?]
    split
    · next h =>
        refine toPublish_retained.quiet (.begin t s) (.title rfl hopen hs (.nothing fun _ => ?_))
        rw [hkind]
        exact h
    · next h => exact ⟨hs, hs.1.1, Option.not_isSome_iff_eq_none.1 h⟩
  cases found with
  | true => exact .ret fun _ hs => hs
  | false =>
      refine .bind (unpaid_retained.every (lockBuyer_mild _)) fun _ => ?_
      refine .bind (resolvePlan_publishes unpaid_retained fun s hplans hs => ?_) fun plan => ?_
      · rw [hs.1.view]
        exact hplans
      refine .given (fun s hs => hs.1) fun hplan => .pre ?_ fun s hs => hs.2
      refine .bind (lockSubscription_publishes _) fun subscription? => ?_
      refine .bind (saveSubscription_publishes _ subscription? _ _ _) fun row => ?_
      refine .ofExists fun user => .ofExists fun newId => ?_
      refine .given (fun s hs => hs.1) fun huser => .pre ?_ fun s hs => hs.2
      refine .given (fun s hs => hs.1) fun hrow => .pre ?_ fun s hs => hs.2
      subst hrow
      refine .bind (insertPayment_publishes hopen hkind huser hplan rfl newId bank) fun _ => ?_
      exact notify_publishes toPublish_retained _ _

/-! ### A whole session -/

theorem grant_publishes (hopen : f.intent.status ≠ .succeeded) (bank : Option String) :
    Triple (fulfilContract start) t (Marked t f) (grant f.settled f.at_ bank)
      (fun _ => ToPublish start t f.id) fun _ _ => True := by
  have hnothing : f.intent.grantable = false →
      Triple (fulfilContract start) t (Marked t f) (notifyPaymentSucceeded f.settled bank)
        (fun _ => ToPublish start t f.id) fun _ _ => True := by
    intro hgrantable
    refine (notify_publishes marked_retained _ _).post fun _ s hs =>
      .title rfl hopen hs (.nothing ?_)
    simp [hgrantable]
  unfold grant
  rw [show f.settled.kind = f.intent.kind from rfl,
    show f.settled.contentId = f.intent.contentId from rfl,
    show f.settled.seriesId = f.intent.seriesId from rfl]
  cases hkind : f.intent.kind with
  | single =>
      cases hid : f.intent.contentId with
      | none => exact hnothing (by simp [PaymentIntent.grantable, hkind, hid])
      | some id =>
          exact grantTitle_publishes hopen (show f.intent.kind = Title.movie.kind from hkind) bank
  | series =>
      cases hid : f.intent.seriesId with
      | none => exact hnothing (by simp [PaymentIntent.grantable, hkind, hid])
      | some id =>
          exact grantTitle_publishes hopen (show f.intent.kind = Title.series.kind from hkind) bank
  | sub => exact grantSubscription_publishes hopen hkind bank

theorem fulfillPaymentIntent_publishes (intent : PaymentIntent) (bank : Option String) :
    Triple (fulfilContract start) t (fun s => s.writes t = []) (fulfillPaymentIntent intent bank)
      (fun _ => ToPublish start t intent.intentId) fun _ _ => True := by
  refine .bind (lockIntent_publishes intent.intentId) fun locked? => ?_
  cases locked? with
  | none => exact .ret fun _ hs => .idle hs.1 hs.2
  | some locked =>
      refine .given (fun s hs => hs.1) fun hid => .pre (P := Working t ⟨locked, 0⟩ []) ?_
        fun s hs => hs.2 0
      have hworking : ∀ now : Instant,
          Stable (fulfilContract start) t (Working t ⟨locked, now⟩ []) :=
        fun now => working_retained.stable
      simp only
      split
      · next hsucceeded =>
          refine .ret fun s hs => .idle hs.2 fun row hrow => ?_
          rw [← hid] at hrow
          obtain rfl : locked = row := Option.some.inj (hs.1.2.symm.trans hrow)
          exact hsucceeded
      · next hopen =>
          refine .bind (.sense (Q := fun now => Working t ⟨locked, now⟩ []) (hworking 0)
            fun s _ hs => ⟨fun _ => trivial, hs⟩) fun now => ?_
          refine .bind (.write (Q := fun _ => Marked t ⟨locked, now⟩) (hworking now)
            fun s _ hs _ => ⟨trivial, fun _ => hs.wrote (Fulfilment.write ⟨locked, now⟩)⟩)
            fun _ => ?_
          rw [← hid]
          exact .bind (grant_publishes (f := ⟨locked, now⟩) hopen bank) fun _ =>
            .ret fun _ hs => hs

theorem fulfillPaymentIntent_mild (intent : PaymentIntent) (bank : Option String) :
    (fulfillPaymentIntent intent bank).Every (Mild fun _ => True) := by
  have hlock : (lockIntent intent.intentId).Every (Mild fun _ => True) := by
    refine .bind (.perform trivial) fun found => ?_
    split
    · exact .bind (.perform trivial) fun _ => .perform trivial
    · trivial
  refine .bind hlock fun locked? => ?_
  cases locked? with
  | none => trivial
  | some locked =>
      simp only
      split
      · trivial
      · exact .bind (.perform trivial) fun now => .bind (.perform trivial) fun _ =>
          .bind (grant_mild _ _ _ (fun _ _ => trivial) (fun _ => trivial) (fun _ => trivial)
            fun _ => trivial) fun _ => trivial

/-- A call that returns leaves its intent settled. -/
theorem fulfilling_publishes (intent : PaymentIntent) (bank : Option String) :
    Triple (fulfilContract start) t (Live t fun s => s.writes t = []) (fulfilling intent bank)
      (fun _ s => s.db.Settled intent.intentId) fun _ _ => True := by
  have hsettled : Retained start t fun s => s.db.Settled intent.intentId :=
    ⟨⟨fun hb hs => hb.rely _ hs⟩, fun hq hs => hq.db ▸ hs⟩
  refine .bind (Q := fun _ s => s.db.Settled intent.intentId) ?_ fun _ =>
    .rollback hsettled.stable fun _ _ hs => ⟨fun _ => trivial, hs⟩
  refine .tryCatch (M := fun _ _ => True) ?_ fun e => ?_
  · refine .bind (.bind ((fulfillPaymentIntent_publishes intent bank).live
      (fulfillPaymentIntent_mild intent bank)) fun _ => ?_) fun _ => .ret fun _ hs => hs
    refine .bind (.commit (Q := fun _ s => s.db.Settled intent.intentId)
      toPublish_retained.stable.live fun s _ hs => ⟨fun hd => ?_, fun _ => ?_⟩) fun _ =>
        hsettled.reads flushPendingTelegramAlerts_reads
    · rw [hs.1] at hd
      cases hd
    · exact ⟨hs.2.publishes, hs.2.settles⟩
  · exact .bind (.rollback (Q := fun _ _ => True) (.or (.doomed true) (.pure True))
      fun _ _ _ => ⟨fun _ => trivial, trivial⟩) fun _ => .raise fun _ _ => trivial

/-! ## Runs -/

section

variable {world : World} {calls : Tid → PaymentIntent × Option String}
  {xs : List (Tid × Commit Write Info)} {q : Pool}

/-- The sessions meet the contract; a call that has returned left its intent settled. -/
theorem startFulfilments_keeps (hd : d.UniqueGrants) :
    Pool.Keeps (fulfilContract d) (fun t s => s.db.Settled (calls t).1.intentId)
      (fun t _ s => s.doomed t = true ∨ True) (startFulfilments d world calls) :=
  Pool.Keeps.start ⟨rfl, hd⟩ fun t => (fulfilling_publishes _ _).pre fun s hs => by
    rw [hs]
    exact ⟨rfl, rfl⟩

theorem settled_stable (intentId : String) :
    Stable (fulfilContract start) t fun s => s.db.Settled intentId :=
  ⟨fun hb hs => hb.rely _ hs⟩

/-- What a run of fulfilments has committed. -/
theorem fulfilledBy_of_trace (hintents : Unique PaymentIntent.intentId d.intents)
    (hd : d.UniqueGrants) (h : Pool.Trace commits .any (startFulfilments d world calls) xs q) :
    FulfilledBy d (fulfilments xs) q.store.db := by
  have howed : Owed (fulfilContract d) d xs :=
    h.owed fulfilContract_sound (fun t => settled_stable _)
      (fun _ _ => .or (.doomed true) (.pure True)) (startFulfilments_keeps hd)
  have hcommitted : q.store.db = publishAll xs d := h.committed
  rw [hcommitted]
  clear h hcommitted
  induction howed with
  | nil => exact .nil hd
  | @snoc ys t s hys hdb hobl ih =>
      have hpublishes : Publishes d s.db (s.writes t) := hobl
      have hfulfilments : fulfilments (ys ++ [(t, ⟨s.writes t, s.info t⟩)]) =
          fulfilments ys ++ (s.writes t).filterMap Write.fulfilment := by
        simp [fulfilments]
      rw [← hdb] at ih
      rw [publishAll_snoc, ← hdb, hfulfilments]
      generalize s.writes t = ws at hpublishes
      cases hpublishes with
      | nothing => simpa using ih
      | fulfilment hstored hopen hgrant =>
          rw [hgrant.fulfilments]
          exact ih.step hintents hstored hopen hgrant

/-- A call that has returned left its intent settled, unless there is none. -/
theorem settled_of_returned (hd : d.UniqueGrants)
    (h : Pool.Run .any (startFulfilments d world calls) q) {t : Tid} (hret : q.progs t = .ret ()) :
    q.store.db.Settled (calls t).1.intentId := by
  have hkeeps := ((startFulfilments_keeps hd).run fulfilContract_sound (fun t => settled_stable _)
    (fun _ _ => .or (.doomed true) (.pure True)) h).1
  have hmeets := hkeeps.meets t
  rw [hret] at hmeets
  exact hmeets

/-- How many purchases, series purchases and subscription payments carry the intent's id. -/
def Db.grantRows (d : Db) (intentId : String) : Nat :=
  d.purchases.countP (fun row => decide (row.intentId = intentId)) +
    d.seriesPurchases.countP (fun row => decide (row.intentId = intentId)) +
    d.subscriptionPayments.countP fun row => decide (row.intentId = intentId)

/-- Each of the fulfilments has happened once: the intents that have come to succeed are
those they name, each has its grant and no second one, and every paid period ends where
the fulfilments of the user, one after the other, have put it. -/
structure FulfilledOnce (d : Db) (fs : List Fulfilment) (d' : Db) : Prop where
  distinct : (fs.map Fulfilment.id).Nodup
  stored : ∀ f ∈ fs, d.intent? f.id = some f.intent
  succeeded : ∀ intentId, d'.statusOf intentId = some .succeeded ↔
    d.statusOf intentId = some .succeeded ∨ intentId ∈ fs.map Fulfilment.id
  granted : ∀ f ∈ fs, f.intent.grantable = true → d'.granted f.intent.kind f.id = true
  unique : d'.UniqueGrants
  oneGrant : d.Fits d → ∀ intent ∈ d.intents, d'.grantRows intent.intentId ≤ 1
  planned : ∀ user, ∀ f ∈ d.extensions user fs, ∃ plan, d.planFor f.intent = .ok plan
  periods : ∀ user, d'.periodEnd? user = (d.extensions user fs).foldl d.extend (d.periodEnd? user)

theorem countP_le_one {ρ : Type} {key : ρ → String} {rows : List ρ} (h : Unique key rows)
    (k : String) : rows.countP (fun row => decide (key row = k)) ≤ 1 := by
  have hcount : rows.countP (fun row => decide (key row = k)) = (rows.map key).count k := by
    rw [List.count, List.countP_map]
    rfl
  rw [hcount]
  exact List.nodup_iff_count_le_one.1 h k

theorem FulfilledBy.oneGrant {fs : List Fulfilment} {d' : Db} (h : FulfilledBy d fs d')
    (hfits : d.Fits d) {intent : PaymentIntent} (hmem : intent ∈ d.intents) :
    d'.grantRows intent.intentId ≤ 1 := by
  have hfits' := h.fits hfits
  have hreceipts : ∀ title, intent.kind ≠ title.kind →
      (d'.receipts title).countP (fun row => decide (row.intentId = intent.intentId)) = 0 := by
    intro title hkind
    refine List.countP_eq_zero.2 fun row hrow hid => hkind ?_
    exact hfits'.receipts intent hmem title row hrow (of_decide_eq_true hid)
  have hpayments : intent.kind ≠ .sub →
      d'.subscriptionPayments.countP (fun row => decide (row.intentId = intent.intentId)) = 0 := by
    intro hkind
    refine List.countP_eq_zero.2 fun row hrow hid => hkind ?_
    exact hfits'.payments intent hmem row hrow (of_decide_eq_true hid)
  have hmovie := countP_le_one (h.unique.receipts .movie) intent.intentId
  have hseries := countP_le_one (h.unique.receipts .series) intent.intentId
  have hpayment := countP_le_one h.unique.payments intent.intentId
  have hnoMovie := hreceipts .movie
  have hnoSeries := hreceipts .series
  simp only [Db.receipts, Title.kind] at hmovie hseries hnoMovie hnoSeries
  unfold Db.grantRows
  cases hkind : intent.kind with
  | single =>
      rw [hnoSeries (by simp [hkind]), hpayments (by simp [hkind])]
      omega
  | series =>
      rw [hnoMovie (by simp [hkind]), hpayments (by simp [hkind])]
      omega
  | sub =>
      rw [hnoMovie (by simp [hkind]), hnoSeries (by simp [hkind])]
      omega

theorem FulfilledBy.succeeded {fs : List Fulfilment} {d' : Db} (h : FulfilledBy d fs d')
    (intentId : String) : d'.statusOf intentId = some .succeeded ↔
      d.statusOf intentId = some .succeeded ∨ intentId ∈ fs.map Fulfilment.id := by
  by_cases hmem : intentId ∈ fs.map Fulfilment.id
  · obtain ⟨f, hf, rfl⟩ := List.mem_map.1 hmem
    exact ⟨fun _ => .inr hmem, fun _ => h.settled f hf⟩
  · rw [Db.statusOf, (h.others intentId hmem).1]
    simp only [hmem, or_false]
    rfl

/-- However the calls interleave: every commit so far fulfilled one open intent or
nothing, no intent twice, and no paid time is lost or given twice; a call that has
returned left its intent fulfilled. -/
theorem fulfilled_once (hd : d.Legal)
    (h : Pool.Trace commits .any (startFulfilments d world calls) xs q) :
    FulfilledOnce d (fulfilments xs) q.store.db ∧
      ∀ t, q.progs t = .ret () → q.store.db.Settled (calls t).1.intentId := by
  have hunique : d.UniqueGrants := ⟨hd.receipts, hd.payments, hd.subscriptions⟩
  have hfulfilled := fulfilledBy_of_trace hd.intents hunique h
  refine ⟨⟨hfulfilled.distinct, hfulfilled.stored, hfulfilled.succeeded, hfulfilled.granted,
    hfulfilled.unique, fun hfits intent hmem => hfulfilled.oneGrant hfits hmem,
    hfulfilled.planned, hfulfilled.periods⟩, fun t hret => ?_⟩
  exact settled_of_returned hunique h.run hret

end

namespace Shop

/-- A pending intent of user 1 for the premium plan. -/
def premiumIntent : PaymentIntent :=
  { planIntent with
    intentId := "bkg-3", orderId := "sub-premium_5m-f00d", bakongMd5 := some "md5-2",
    planCode := some "premium_5m", planIntervalDays := some 150, amountUsd := 1099 }

def twoPlans : Db :=
  { withPlans [basic, premium] with intents := [planIntent, premiumIntent] }

/-- One call for the premium plan; the others are for the basic plan. -/
def planCalls : Tid → PaymentIntent × Option String
  | 1 => (premiumIntent, some "bakong")
  | _ => (planIntent, some "bakong")

/-- Session 1 comes to wait for the user's row while session 0 has it; session 2 comes
when both are through. -/
def planRuns : List (Event World) := runs 0 9 ++ runs 1 7 ++ runs 0 15 ++ runs 1 15 ++ runs 2 7

def planPool : Pool := startFulfilments twoPlans world planCalls

/-- Both intents are fulfilled, one of them asked for twice. -/
def planRun (r : List (Tid × Commit Write Info) × Pool) : Bool :=
  [0, 1, 2].all (fun t => (r.2.progs t).ended) &&
    decide ((fulfilments r.1).map Fulfilment.id = ["bkg-2", "bkg-3"])

theorem twoPlans_legal : twoPlans.Legal := by
  have hpending : ∀ row ∈ twoPlans.intents, ∀ row' ∈ twoPlans.intents,
      ∀ key ∈ row.pendingKeys, key ∈ row'.pendingKeys → row = row' := by decide
  have hmd5s : ∀ row ∈ twoPlans.intents, ∀ row' ∈ twoPlans.intents,
      ∀ md5 ∈ row.bakongMd5, row'.bakongMd5 = some md5 → row = row' := by decide
  have hkeys : Unique User.id twoPlans.users ∧ Unique Content.id twoPlans.contents ∧
      Unique SubscriptionPlan.code twoPlans.plans ∧
      Unique PaymentIntent.intentId twoPlans.intents ∧
      Unique PaymentIntent.orderId twoPlans.intents := by
    unfold Sql.Unique
    decide
  obtain ⟨husers, hcontents, hplans, hintents, horders⟩ := hkeys
  exact ⟨husers, hcontents, hplans, hintents, horders,
    fun row hrow row' hrow' key hkey hkey' => hpending row hrow row' hrow' key hkey hkey',
    fun row hrow row' hrow' md5 hmd5 hmd5' => hmd5s row hrow row' hrow' md5 hmd5 hmd5',
    fun title => by cases title <;> exact List.nodup_nil,
    fun title => by cases title <;> exact List.nodup_nil, List.nodup_nil, List.nodup_nil,
    List.nodup_nil⟩

end Shop

/-- Two plans of one user, and one of the calls made twice: 14 days and 150 days. -/
theorem twoPlans_fulfilled_once : ∃ xs q, Pool.Trace commits .any Shop.planPool xs q ∧
    Shop.planRun (xs, q) = true ∧
    FulfilledOnce Shop.twoPlans (fulfilments xs) q.store.db ∧
    q.store.db.periodEnd? 1 = some (days 164) := by
  obtain ⟨xs, q, htrace, hq⟩ := Pool.exists_trace_of_observe
    (f := fun r => Shop.planRun r && decide (r.2.store.db.periodEnd? 1 = some (days 164)))
    (show (Pool.observe commits .any Shop.planPool Shop.planRuns).any _ = true by decide +kernel)
  rw [Bool.and_eq_true, decide_eq_true_eq] at hq
  exact ⟨xs, q, htrace, hq.1, (fulfilled_once Shop.twoPlans_legal htrace).1, hq.2⟩

end MovieApi.Billing
