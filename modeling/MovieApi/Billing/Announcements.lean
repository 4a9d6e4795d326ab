import MovieApi.Billing.Conduct
import MovieApi.ReadCommitted.Observed

/-!
# Announcing payments

A fulfilment queues an alert on its session, for delivery after the commit.
What a session commits and what it delivers are its signs; the alerts it
delivers are to be those of the commit before, each once.
-/

namespace MovieApi.Billing

open ReadCommitted Sql

/-! ## Signs -/

inductive Notice where
  | committed (writes : List Write)
  | delivered (alerts : List String)
deriving DecidableEq, Repr

/-- The intents that were resolved as succeeded. -/
def paid (writes : List Write) : List String :=
  writes.filterMap fun
    | .resolveIntent copy .succeeded _ => some copy.intentId
    | _ => none

/-- The intents a grant row was inserted for. -/
def granted (writes : List Write) : List String :=
  writes.filterMap fun
    | .insertReceipt _ row => some row.intentId
    | .insertPayment row => some row.intentId
    | _ => none

theorem paid_append (writes writes' : List Write) :
    paid (writes ++ writes') = paid writes ++ paid writes' :=
  List.filterMap_append

theorem granted_append (writes writes' : List Write) :
    granted (writes ++ writes') = granted writes ++ granted writes' :=
  List.filterMap_append

/-- The intents that came to succeeded with a new grant. -/
def newGrants (writes : List Write) : List String :=
  (paid writes).filter fun id => decide (id ∈ granted writes)

/-- The text is an alert for the payment of this intent. -/
def AlertFor (intentId text : String) : Prop :=
  ∃ intent bank title buyer, intent.intentId = intentId ∧
    text = paymentSucceededText intent bank title buyer

/-- The alerts are one for each of some intents the writes paid, among them all
that got a new grant. -/
def Announces (writes : List Write) (alerts : List String) : Prop :=
  ∃ ids, List.Forall₂ AlertFor ids alerts ∧ ids.Nodup ∧ (∀ id ∈ ids, id ∈ paid writes) ∧
    ∀ id ∈ newGrants writes, id ∈ ids

/-- The last commit, while its alerts are due. -/
abbrev Due := Option (List Write)

/-- No alert has to be delivered any more. -/
def Settled (due : Due) : Prop := ∀ writes, due = some writes → newGrants writes = []

/-- Every delivery answers the commit before it, and nothing is committed while
alerts are due. -/
def announcing : Watch Db Key Write World Info Err Notice Due where
  sign c o world :=
    match c with
    | .commit => if o.doomed then none else some (.committed o.writes)
    | .tell act =>
        let alerts := (act world).sentAlerts.drop world.sentAlerts.length
        if alerts = [] then none else some (.delivered alerts)
    | _ => none
  next due notice due' :=
    match notice with
    | .committed writes => Settled due ∧ due' = some writes
    | .delivered alerts => ∃ writes, due = some writes ∧ Announces writes alerts ∧ due' = none

/-! ## Conditions -/

/-- Requests that commit without sending the queued alerts. -/
def Request.plainCommit : Request → Bool
  | .playback _ _ _ => true
  | .webhook _ _ => true
  | _ => false

/-- A session may commit unless it is a playback settle or a webhook with a new
grant, or the server has rejected a statement of a transaction with alerts. -/
def mayCommit (request : Request) (o : Own Write Info) : Bool :=
  if o.doomed then decide (o.info.pendingTelegramAlerts = [])
  else !request.plainCommit || decide (newGrants o.writes = [])

def announcementPermit (request : Request) : Permit Db Key Write World Info Err :=
  fun c o =>
    match c with
    | .commit => mayCommit request o = true
    | _ => True

/-! ## A session's books -/

/-- The writes paid these intents, and whatever the data, the session reads them
as succeeded. -/
structure Resolved (ids : List String) (writes : List Write) : Prop where
  paid : ∀ id ∈ ids, id ∈ paid writes
  succeeded : ∀ id ∈ ids, ∀ (d : Db) row, (applyAll writes d).intent? id = some row →
    row.status = .succeeded

/-- The queued alerts are those of the transaction, for the given intents. -/
structure Queued (ids : List String) (writes : List Write) (alerts : List String) : Prop where
  alerts : List.Forall₂ AlertFor ids alerts
  nodup : ids.Nodup
  resolved : Resolved ids writes
  granted : ∀ id ∈ granted writes, id ∈ ids

theorem Queued.announces {ids : List String} {writes : List Write} {alerts : List String}
    (h : Queued ids writes alerts) : Announces writes alerts := by
  refine ⟨ids, h.alerts, h.nodup, h.resolved.paid, fun id hid => h.granted id ?_⟩
  simpa using (List.mem_filter.1 hid).2

theorem Announces.nil {writes : List Write} (h : Announces writes []) : newGrants writes = [] := by
  obtain ⟨ids, halerts, -, -, hgrants⟩ := h
  obtain rfl := List.forall₂_nil_right_iff.1 halerts
  exact List.eq_nil_iff_forall_not_mem.2 fun id hid => by simpa using hgrants id hid

/-- Nothing is due, and a transaction that can still commit has its alerts queued. -/
structure Booked (o : Own Write Info) (due : Due) : Prop where
  settled : Settled due
  queued : o.doomed = false → ∃ ids, Queued ids o.writes o.info.pendingTelegramAlerts

/-- The transaction has announced nothing yet. -/
structure Bare (o : Own Write Info) (due : Due) : Prop where
  settled : Settled due
  pending : o.info.pendingTelegramAlerts = []
  granted : o.doomed = false → granted o.writes = []

theorem Bare.booked {o : Own Write Info} {due : Due} (h : Bare o due) : Booked o due where
  settled := h.settled
  queued hd := ⟨[], by
    refine ⟨?_, List.nodup_nil, ⟨by simp, by simp⟩, fun id hid => ?_⟩
    · rw [h.pending]
      exact .nil
    · rw [h.granted hd] at hid
      exact hid⟩

/-! ## Writes between a fulfilment and its commit -/

/-- Writes that neither touch an intent nor grant anything. -/
def Write.Apart : Write → Prop
  | .insertSubscription _ => True
  | .updateSubscription _ => True
  | .insertApproval _ => True
  | .putWebhookEvent _ => True
  | _ => False

/-- The session has resolved intent `id` and owes its alert. -/
structure Unannounced (ids : List String) (id : String) (writes : List Write)
    (alerts : List String) : Prop where
  alerts : List.Forall₂ AlertFor ids alerts
  nodup : (id :: ids).Nodup
  resolved : Resolved (id :: ids) writes
  granted : ∀ x ∈ granted writes, x ∈ id :: ids

section

variable {ids : List String} {id : String} {writes : List Write} {alerts : List String} {w : Write}

theorem applyAll_snoc_intent? (d : Db) (x : String) :
    (applyAll (writes ++ [w]) d).intent? x = w.onIntent x ((applyAll writes d).intent? x) := by
  rw [applyAll_append]
  exact w.intent?_apply _ x

theorem mem_paid_snoc {x : String} (h : x ∈ paid writes) : x ∈ paid (writes ++ [w]) := by
  rw [paid_append]
  exact List.mem_append_left _ h

/-- A write that leaves the intents alone. -/
theorem Resolved.snoc (h : Resolved ids writes) (hw : ∀ x row?, w.onIntent x row? = row?) :
    Resolved ids (writes ++ [w]) := by
  refine ⟨fun x hx => mem_paid_snoc (h.paid x hx), fun x hx d row hrow => ?_⟩
  rw [applyAll_snoc_intent?, hw] at hrow
  exact h.succeeded x hx d row hrow

theorem Resolved.subset {ids' : List String} (h : Resolved ids writes) (hsub : ids' ⊆ ids) :
    Resolved ids' writes :=
  ⟨fun x hx => h.paid x (hsub hx), fun x hx => h.succeeded x (hsub hx)⟩

theorem Write.Apart.onIntent (hw : w.Apart) (x : String) (row? : Option PaymentIntent) :
    w.onIntent x row? = row? := by
  cases w <;> first | exact hw.elim | rfl

theorem Write.Apart.granted (hw : w.Apart) : granted (writes ++ [w]) = granted writes := by
  cases w <;> first | exact hw.elim | simp [Billing.granted]

theorem Unannounced.apart (h : Unannounced ids id writes alerts) (hw : w.Apart) :
    Unannounced ids id (writes ++ [w]) alerts :=
  ⟨h.alerts, h.nodup, h.resolved.snoc hw.onIntent, fun x hx => h.granted x (hw.granted ▸ hx)⟩

theorem Queued.apart (h : Queued ids writes alerts) (hw : w.Apart) :
    Queued ids (writes ++ [w]) alerts :=
  ⟨h.alerts, h.nodup, h.resolved.snoc hw.onIntent, fun x hx => h.granted x (hw.granted ▸ hx)⟩

/-- The status write of a fulfilment. -/
theorem Queued.resolve (h : Queued ids writes alerts) {copy : PaymentIntent}
    {at_ : Option Instant} (hfresh : copy.intentId ∉ ids) :
    Unannounced ids copy.intentId (writes ++ [.resolveIntent copy .succeeded at_]) alerts := by
  refine ⟨h.alerts, List.nodup_cons.2 ⟨hfresh, h.nodup⟩, ⟨fun x hx => ?_, fun x hx d row hrow => ?_⟩,
    fun x hx => ?_⟩
  · rcases List.mem_cons.1 hx with rfl | hx
    · simp [Billing.paid]
    · exact mem_paid_snoc (h.resolved.paid x hx)
  · rw [applyAll_snoc_intent?] at hrow
    simp only [Write.onIntent] at hrow
    split at hrow
    · obtain ⟨old, -, rfl⟩ := Option.map_eq_some_iff.1 hrow
      rfl
    · next hne =>
        exact h.resolved.succeeded x ((List.mem_cons.1 hx).resolve_left hne) d row hrow
  · have hold : x ∈ Billing.granted writes := by simpa [Billing.granted] using hx
    exact List.mem_cons_of_mem _ (h.granted x hold)

theorem Unannounced.queued (h : Unannounced ids id writes alerts)
    (hungranted : id ∉ Billing.granted writes) : Queued ids writes alerts := by
  refine ⟨h.alerts, (List.nodup_cons.1 h.nodup).2, h.resolved.subset (List.subset_cons_self ..),
    fun x hx => ?_⟩
  exact (List.mem_cons.1 (h.granted x hx)).resolve_left fun heq => hungranted (heq ▸ hx)

/-- A write that grants the intent. -/
def Write.Grants (id : String) : Write → Prop
  | .insertReceipt _ row => row.intentId = id
  | .insertPayment row => row.intentId = id
  | _ => False

theorem Unannounced.grant (h : Unannounced ids id writes alerts) (hw : w.Grants id) :
    Unannounced ids id (writes ++ [w]) alerts := by
  refine ⟨h.alerts, h.nodup, h.resolved.snoc ?_, fun x hx => ?_⟩
  · cases w <;> first | exact hw.elim | exact fun _ _ => rfl
  · have hcases : x ∈ Billing.granted writes ∨ x = id := by
      cases w with
      | insertReceipt title row | insertPayment row =>
          obtain rfl : row.intentId = id := hw
          simpa [Billing.granted] using hx
      | _ => exact hw.elim
    exact hcases.elim (h.granted x) fun heq => heq ▸ List.mem_cons_self ..

/-- The alert of the resolved intent is queued. -/
theorem Unannounced.notify (h : Unannounced ids id writes alerts) {text : String}
    (htext : AlertFor id text) : Queued (ids ++ [id]) writes (alerts ++ [text]) := by
  have hperm : (ids ++ [id]).Perm (id :: ids) := List.perm_append_singleton id ids
  exact ⟨List.rel_append h.alerts (.cons htext .nil), hperm.nodup_iff.2 h.nodup,
    h.resolved.subset hperm.subset, fun x hx => hperm.mem_iff.2 (h.granted x hx)⟩

/-- A superseding write before the commit. -/
theorem Announces.supersede (h : Announces writes alerts) (copy : PaymentIntent)
    (at_ : Option Instant) :
    Announces (writes ++ [.resolveIntent copy .superseded at_]) alerts := by
  obtain ⟨ids, halerts, hnodup, hpaid, hgrants⟩ := h
  refine ⟨ids, halerts, hnodup, fun id hid => mem_paid_snoc (hpaid id hid), fun id hid => ?_⟩
  refine hgrants id ?_
  simpa [newGrants, Billing.paid, Billing.granted] using hid

end

/-! ## Statements -/

/-- What the session is committed to holds after it, too, or the transaction is lost. -/
def Lasting (due : Due) (o : Own Write Info) (φ : List Write → List String → Prop) : Prop :=
  Settled due ∧ (o.doomed = false → φ o.writes o.info.pendingTelegramAlerts)

/-- The commit may follow: what is queued announces what is written. -/
def Ready (o : Own Write Info) (due : Due) : Prop := Lasting due o Announces

def Fulfilled (ids : List String) (id : String) (o : Own Write Info) (due : Due) : Prop :=
  Lasting due o (Unannounced ids id)

def Ungranted (ids : List String) (id : String) (o : Own Write Info) (due : Due) : Prop :=
  Lasting due o fun writes alerts => Unannounced ids id writes alerts ∧ id ∉ granted writes

theorem Booked.ready {o : Own Write Info} {due : Due} (h : Booked o due) : Ready o due := by
  refine ⟨h.settled, fun hd => ?_⟩
  obtain ⟨ids, hqueued⟩ := h.queued hd
  exact hqueued.announces

theorem Ungranted.booked {ids : List String} {id : String} {o : Own Write Info} {due : Due}
    (h : Ungranted ids id o due) : Booked o due :=
  ⟨h.1, fun hd => ⟨ids, (h.2 hd).1.queued (h.2 hd).2⟩⟩

theorem Ungranted.fulfilled {ids : List String} {id : String} {o : Own Write Info} {due : Due}
    (h : Ungranted ids id o due) : Fulfilled ids id o due :=
  ⟨h.1, fun hd => (h.2 hd).1⟩

/-- A program of a request that the watcher of announcements can follow. -/
abbrev Says {α : Type} (request : Request) (P : Own Write Info → Due → Prop) (p : Prog α)
    (Q : α → Own Write Info → Due → Prop) (R : Err → Own Write Info → Due → Prop) : Prop :=
  Watched announcing (announcementPermit request) P p Q R

/-- An assertion that survives the loss of the transaction, and some writes. -/
structure Keeping (N : Write → Prop) (P : Own Write Info → Due → Prop) : Prop where
  doomed : ∀ o due, P o due → P { o with doomed := true } due
  write : ∀ w, N w → ∀ o due, P o due → o.doomed = false →
    P { o with writes := o.writes ++ [w] } due

section

variable {N : Write → Prop} {P : Own Write Info → Due → Prop} {request : Request} {α : Type}
  {p : Prog α}

theorem Keeping.mono {N' : Write → Prop} (h : Keeping N P) (hN : ∀ w, N' w → N w) :
    Keeping N' P :=
  ⟨h.doomed, fun w hw => h.write w (hN w hw)⟩

theorem Lasting.keeping {φ : List Write → List String → Prop}
    (h : ∀ w, N w → ∀ writes alerts, φ writes alerts → φ (writes ++ [w]) alerts) :
    Keeping N fun o due => Lasting due o φ where
  doomed _ _ hs := ⟨hs.1, fun hd => by simp at hd⟩
  write w hw _ _ hs _ := ⟨hs.1, fun hd => h w hw _ _ (hs.2 hd)⟩

theorem Booked.keeping : Keeping Write.Apart Booked where
  doomed _ _ hs := ⟨hs.settled, fun hd => by simp at hd⟩
  write w hw _ _ hs hd := by
    refine ⟨hs.settled, fun _ => ?_⟩
    obtain ⟨ids, hqueued⟩ := hs.queued hd
    exact ⟨ids, hqueued.apart hw⟩

/-- Writes that grant nothing. -/
def Write.Idle (w : Write) : Prop := granted [w] = []

theorem Bare.keeping : Keeping Write.Idle Bare where
  doomed _ _ hs := ⟨hs.settled, hs.pending, fun hd => by simp at hd⟩
  write w hw _ _ hs hd := by
    refine ⟨hs.settled, hs.pending, fun _ => ?_⟩
    rw [granted_append, hs.granted hd, List.nil_append]
    exact hw

/-! ### Rules -/

/-- Statements inside a transaction give no sign. -/
theorem plain_keeps (h : Keeping N P) {β : Type} (c : Stmt β) (hc : Plain N c)
    (o : Own Write Info) (due : Due) (world : World) (r : Except Err β) (o' : Own Write Info)
    (hP : P o due) (hmay : c.May o world r o') :
    announcing.Moves due c o world due ∧ P o' due := by
  refine ⟨?_, ?_⟩
  · cases c <;> first | exact hc.elim | rfl
  · cases c with
    | write w =>
        simp only [Stmt.May] at hmay
        split at hmay
        · exact hmay.2 ▸ hP
        · next hd => exact hmay.2 ▸ h.write w hc o due hP (by simpa using hd)
    | reject error =>
        simp only [Stmt.May] at hmay
        split at hmay
        · exact hmay.2 ▸ hP
        · exact hmay.2 ▸ h.doomed o due hP
    | select | lock | tryLock | enter =>
        simp only [Stmt.May] at hmay
        split at hmay <;> exact hmay.2 ▸ hP
    | sense => exact hmay.2 ▸ hP
    | tell | session | commit | rollback => exact hc.elim

theorem Keeping.plain (h : Keeping N P) (hp : p.Every (Plain N)) :
    Says request P p (fun _ => P) fun _ => P :=
  .every (fun c hc o due world r o' hP _ hmay => plain_keeps h c hc o due world r o' hP hmay) hp

theorem Keeping.looks (h : Keeping N P) (hp : p.Every Looks) :
    Says request P p (fun _ => P) fun _ => P :=
  h.plain (hp.mono fun _ => Looks.plain _)

/-- A query, by what it answers on the transaction's own view of any data. -/
theorem Says.select {query : Db → α} {Q : α → Own Write Info → Due → Prop}
    {R : Err → Own Write Info → Due → Prop}
    (hok : ∀ o due d, P o due → o.doomed = false → Q (query (applyAll o.writes d)) o due)
    (herr : ∀ o due, P o due → o.doomed = true → R .aborted o due) :
    Says request P (.select query) Q R := by
  refine .perform fun o due world r o' hP _ hmay => ⟨due, rfl, ?_⟩
  simp only [Stmt.May] at hmay
  split at hmay
  · next hd =>
      obtain ⟨rfl, rfl⟩ := hmay
      exact herr o' due hP hd
  · next hd =>
      obtain ⟨⟨d, rfl⟩, rfl⟩ := hmay
      exact hok o' due d hP (by simpa using hd)

theorem Says.write {w : Write} {Q : Unit → Own Write Info → Due → Prop}
    {R : Err → Own Write Info → Due → Prop}
    (hok : ∀ o due, P o due → o.doomed = false → Q () { o with writes := o.writes ++ [w] } due)
    (herr : ∀ o due, P o due → o.doomed = true → R .aborted o due) :
    Says request P (.write w) Q R := by
  refine .perform fun o due world r o' hP _ hmay => ⟨due, rfl, ?_⟩
  simp only [Stmt.May] at hmay
  split at hmay
  · next hd =>
      obtain ⟨rfl, rfl⟩ := hmay
      exact herr o' due hP hd
  · next hd =>
      obtain ⟨rfl, rfl⟩ := hmay
      exact hok o due hP (by simpa using hd)

theorem Says.session {step : Info → α × Info} {Q : α → Own Write Info → Due → Prop}
    {R : Err → Own Write Info → Due → Prop}
    (hok : ∀ o due, P o due → Q (step o.info).1 { o with info := (step o.info).2 } due) :
    Says request P (.session step) Q R := by
  refine .perform fun o due world r o' hP _ hmay => ⟨due, rfl, ?_⟩
  obtain ⟨rfl, rfl⟩ := hmay
  exact hok o due hP

theorem Says.rollback {Q : Unit → Own Write Info → Due → Prop}
    {R : Err → Own Write Info → Due → Prop}
    (hok : ∀ o due, P o due → Q () { o with writes := [], doomed := false } due) :
    Says request P .rollback Q R := by
  refine .perform fun o due world r o' hP _ hmay => ⟨due, rfl, ?_⟩
  obtain ⟨rfl, rfl⟩ := hmay
  exact hok o due hP

/-- A message to the world that is no alert. -/
theorem Says.tell {act : World → World} {R : Err → Own Write Info → Due → Prop}
    (hact : ∀ world, (act world).sentAlerts = world.sentAlerts) :
    Says request P (.tell act) (fun _ => P) R := by
  refine .perform fun o due world r o' hP _ hmay => ⟨due, ?_, ?_⟩
  · simp [Watch.Moves, announcing, hact]
  · obtain ⟨rfl, rfl⟩ := hmay
    exact hP

/-! ### Commits -/

/-- The flush after a commit delivers what the commit announced. -/
theorem Says.commitWithTelegram {R : Err → Own Write Info → Due → Prop} :
    Says request Ready commitWithTelegram (fun _ => Bare) R := by
  refine .bind (Q := fun _ o due => o.writes = [] ∧ o.doomed = false ∧
    (Settled due ∧ o.info.pendingTelegramAlerts = [] ∨
      ∃ writes, due = some writes ∧ Announces writes o.info.pendingTelegramAlerts))
    (.perform fun o due world r o' hP hpermit hmay => ?_) fun _ => ?_
  · obtain ⟨rfl, rfl⟩ := hmay
    cases hd : o.doomed with
    | true =>
        refine ⟨due, by simp [Watch.Moves, announcing, hd], rfl, rfl, .inl ⟨hP.1, ?_⟩⟩
        simpa [announcementPermit, mayCommit, hd] using hpermit
    | false =>
        refine ⟨some o.writes, ?_, rfl, rfl, .inr ⟨o.writes, rfl, hP.2 hd⟩⟩
        simpa [Watch.Moves, announcing, hd] using hP.1
  · refine .bind (Q := fun alerts o due => Bare o due ∧ alerts = [] ∨
      o.writes = [] ∧ o.doomed = false ∧ o.info.pendingTelegramAlerts = [] ∧
        ∃ writes, due = some writes ∧ Announces writes alerts)
      (Says.session fun o due hs => ?_) fun alerts => ?_
    · obtain ⟨hwrites, hd, ⟨hsettled, hnone⟩ | ⟨writes, hdue, hannounces⟩⟩ := hs
      · exact .inl ⟨⟨hsettled, rfl, fun _ => by simp [hwrites, granted]⟩, hnone⟩
      · exact .inr ⟨hwrites, hd, rfl, writes, hdue, hannounces⟩
    · refine .perform fun o due world r o' hs _ hmay => ?_
      obtain ⟨rfl, rfl⟩ := hmay
      obtain ⟨hbare, rfl⟩ | ⟨hwrites, hd, hpending, writes, rfl, hannounces⟩ := hs
      · exact ⟨due, by simp [Watch.Moves, announcing], hbare⟩
      · have hbare (due : Due) (hsettled : Settled due) : Bare o' due :=
          ⟨hsettled, hpending, fun _ => by simp [hwrites, granted]⟩
        by_cases halerts : alerts = []
        · subst halerts
          refine ⟨some writes, by simp [Watch.Moves, announcing], hbare _ fun ws hws => ?_⟩
          obtain rfl := Option.some.inj hws
          exact hannounces.nil
        · refine ⟨none, ?_, hbare none fun _ hnone => by simp at hnone⟩
          simpa [Watch.Moves, announcing, halerts] using hannounces

end

end MovieApi.Billing
