import MovieApi.Billing.StatusFinality

/-!
# Approvals of manual fulfilments

An administrator's call reads the intent's status without a lock and adds its
approval whatever the fulfilment finds afterwards.  Where the intent is still
pending once the fulfilment has locked it, the approval and the fulfilment are
one commit, and no intent is ever approved twice.
-/

namespace MovieApi.Billing

open ReadCommitted Sql

/-! ## Approvals and statuses -/

def Db.statusOf (d : Db) (intentId : String) : Option Status :=
  (d.intent? intentId).map PaymentIntent.status

/-- How often an intent was approved. -/
def Db.approvalsOf (d : Db) (intentId : String) : Nat :=
  d.approvals.countP fun row => decide (row.intentId = intentId)

/-- Every intent is approved once at most, and not before it is resolved. -/
def ApprovedOnce (d : Db) : Prop :=
  ∀ intentId, d.approvalsOf intentId ≤ 1 ∧
    (0 < d.approvalsOf intentId →
      ∃ row, d.intent? intentId = some row ∧ row.status ≠ .pending)

/-- The approvals added from `d` to `d'` are of intents fulfilled from `d` to `d'`. -/
def ApprovesFulfilled (d d' : Db) : Prop :=
  ∃ rows, d'.approvals = d.approvals ++ rows ∧ ∀ row ∈ rows,
    d.statusOf row.intentId = some .pending ∧ d'.statusOf row.intentId = some .succeeded

def Write.approval? : Write → Option PaymentApproval
  | .insertApproval row => some row
  | _ => none

/-- The approvals a session has written. -/
def newApprovals (ws : List Write) : List PaymentApproval := ws.filterMap Write.approval?

@[simp] theorem newApprovals_nil : newApprovals [] = [] := rfl

@[simp] theorem newApprovals_wrote (t : Tid) (w : Write) (s : Store) :
    newApprovals ((wrote t w s).writes t) = newApprovals (s.writes t) ++ w.approval?.toList := by
  simp only [wrote, Store.record_writes, newApprovals, List.filterMap_append, Store.acquire_writes,
    Store.begin_writes]
  cases h : w.approval? <;> simp [h]

theorem Write.approvals_apply (w : Write) (d : Db) :
    (w.apply d).approvals = d.approvals ++ w.approval?.toList := by
  cases w with
  | insertReceipt title | claimReceipt title | deleteReceipt title | deleteTitle title =>
      cases title <;> simp [apply, approval?, Db.mapReceipts]
  | _ => simp [apply, approval?, Db.mapIntent]

theorem approvals_applyAll (ws : List Write) (d : Db) :
    (applyAll ws d).approvals = d.approvals ++ newApprovals ws := by
  induction ws generalizing d with
  | nil => simp [newApprovals]
  | cons w ws ih =>
      rw [applyAll_cons, ih, apply_eq, Write.approvals_apply, List.append_assoc]
      congr 1
      cases h : w.approval? <;> simp [newApprovals, h]

/-- Writes that neither resolve or delete an intent nor approve one. -/
def Write.leavesApprovals (w : Write) : Prop :=
  w.leavesIntents ∧ w.approval? = none

/-! ## The contract -/

/-- Session `t` is fulfilling the intent, which is still pending for the others. -/
structure InSettlement (t : Tid) (intentId : String) (s : Store) : Prop where
  locked : s.Holds t (.intent intentId) .noKeyUpdate
  pending : ∃ row, s.db.intent? intentId = some row ∧ row.status = .pending
  succeeded : ∃ row, (s.view t).intent? intentId = some row ∧ row.status = .succeeded

/-- A session approves no intent, or the one it is fulfilling. -/
def ApprovesOwn (t : Tid) (s : Store) : Prop :=
  ∀ row rows, newApprovals (s.writes t) = row :: rows → rows = [] ∧ InSettlement t row.intentId s

structure ApprovalInv (s : Store) : Prop where
  approved : ApprovedOnce s.db
  own : ∀ t, ApprovesOwn t s
  keeps : ∀ t intentId, .deleteIntent intentId ∉ s.writes t

/-- An approval is the last change its session makes to the intent. -/
def ApprovalObl (t : Tid) {α : Type} (c : Stmt α) (s : Store) : Prop :=
  match c with
  | .write (.insertApproval row) => newApprovals (s.writes t) = [] ∧ InSettlement t row.intentId s
  | .write (.resolveIntent _ _ _) => newApprovals (s.writes t) = []
  | .write (.deleteIntent _) => False
  | _ => True

/-- Where an administrator's call gets the lock of its fulfilment, the intent is
still pending. -/
def pendingAtLock (requests : Tid → Request) : Regime where
  stmt t _ c s :=
    match requests t, c with
    | .adminFulfill _ _, .lock (.intent intentId) .update =>
        (s.db.intent? intentId).all fun row => decide (row.status = .pending)
    | _, _ => true
  outside _ _ := true

def approvalContract (requests : Tid → Request) : Contract where
  Inv := ApprovalInv
  Obl := ApprovalObl
  Rely s s' := ∀ intentId, (s.db.intent? intentId).isSome → (s'.db.intent? intentId).isSome
  rely_refl _ _ h := h
  rely_trans h h' intentId hrow := h' intentId (h intentId hrow)
  Allows t _ c s := (pendingAtLock requests).stmt t c s = true

/-- What the locks of a session leave of its fulfilment. -/
theorem InSettlement.steady {t : Tid} {intentId : String} {s s' : Store} (h : InSettlement t intentId s)
    (hs : Steady t s s') : InSettlement t intentId s' := by
  have hdb := hs.agree h.locked (by decide)
  have hview := hs.agree_view h.locked (by decide)
  refine ⟨hs.holds_iff.2 h.locked, ?_, ?_⟩
  · rw [← hdb]
    exact h.pending
  · rw [← hview]
    exact h.succeeded

theorem InSettlement.of_same {t : Tid} {intentId : String} {s s' : Store} (h : InSettlement t intentId s)
    (hdb : s'.db = s.db) (hwrites : s'.writes t = s.writes t)
    (hlocked : s'.Holds t (.intent intentId) .noKeyUpdate) : InSettlement t intentId s' := by
  refine ⟨hlocked, hdb ▸ h.pending, ?_⟩
  have hview : s'.view t = s.view t := by simp only [Store.view, hdb, hwrites]
  rw [hview]
  exact h.succeeded

theorem ApprovesOwn.of_same {t : Tid} {s s' : Store} (h : ApprovesOwn t s) (hdb : s'.db = s.db)
    (hwrites : s'.writes t = s.writes t) (hlocks : ∀ k m, s.Holds t k m → s'.Holds t k m) :
    ApprovesOwn t s' := by
  intro row rows hrows
  obtain ⟨hnil, hsettling⟩ := h row rows (hwrites ▸ hrows)
  exact ⟨hnil, hsettling.of_same hdb hwrites (hlocks _ _ hsettling.locked)⟩

/-- A write that leaves the statuses alone leaves a fulfilment going. -/
theorem InSettlement.wrote {t : Tid} {intentId : String} {s : Store} (h : InSettlement t intentId s)
    {w : Write} (hw : w.leavesIntents) : InSettlement t intentId (wrote t w s) := by
  obtain ⟨row, hrow, hstatus⟩ := h.succeeded
  have hdelete : w ≠ .deleteIntent intentId := by
    rintro rfl
    exact hw
  obtain ⟨row', hrow', hsame | ⟨copy, outcome, at_, rfl, -⟩⟩ := Write.onIntent_status hdelete row
  · refine ⟨Store.holds_acquire.2 (.inr h.locked), h.pending, row', ?_, hsame.trans hstatus⟩
    rw [Billing.wrote, Store.record_view, apply_eq, Write.intent?_apply, Store.acquire_view,
      Store.begin_view, hrow, hrow']
  · exact hw.elim

/-- Committed intents that are not pending stay so, and stay. -/
theorem resolved_applyAll {ws : List Write} {d : Db} {intentId : String}
    (hkeeps : ∀ intentId, .deleteIntent intentId ∉ ws)
    (h : ∃ row, d.intent? intentId = some row ∧ row.status ≠ .pending) :
    ∃ row, (applyAll ws d).intent? intentId = some row ∧ row.status ≠ .pending := by
  obtain ⟨row, hrow, hstatus⟩ := h
  obtain ⟨row', hrow', hsame | ⟨copy, outcome, at_, -, -, houtcome⟩⟩ :=
    status_applyAll hkeeps hrow
  · exact ⟨row', hrow', hsame ▸ hstatus⟩
  · refine ⟨row', hrow', ?_⟩
    rw [houtcome]
    exact outcome.status_ne_pending

theorem Db.approvalsOf_view (s : Store) (t : Tid) (intentId : String) :
    (s.view t).approvalsOf intentId = s.db.approvalsOf intentId +
      (newApprovals (s.writes t)).countP fun row => decide (row.intentId = intentId) := by
  simp only [approvalsOf, Store.view, approvals_applyAll, List.countP_append]

/-- What a session commits is approved once, and only if fulfilled. -/
theorem ApprovalInv.view_approved {s : Store} (hs : ApprovalInv s) (t : Tid) :
    ApprovedOnce (s.view t) := by
  intro intentId
  rw [Db.approvalsOf_view]
  cases h : newApprovals (s.writes t) with
  | nil =>
      refine ⟨(hs.approved intentId).1, fun hpos => ?_⟩
      exact resolved_applyAll (hs.keeps t) ((hs.approved intentId).2 hpos)
  | cons row rows =>
      obtain ⟨rfl, hsettling⟩ := hs.own t row rows h
      by_cases hid : row.intentId = intentId
      · subst hid
        obtain ⟨pending, hpending, hstatus⟩ := hsettling.pending
        have hzero : s.db.approvalsOf row.intentId = 0 := by
          by_contra hne
          obtain ⟨row', hrow', hresolved⟩ := (hs.approved row.intentId).2 (Nat.pos_of_ne_zero hne)
          rw [hpending, Option.some.injEq] at hrow'
          exact hresolved (hrow' ▸ hstatus)
        obtain ⟨row', hrow', hsucceeded⟩ := hsettling.succeeded
        refine ⟨by simp [hzero], fun _ => ⟨row', hrow', by simp [hsucceeded]⟩⟩
      · refine ⟨by simpa [hid] using (hs.approved intentId).1, fun hpos => ?_⟩
        refine resolved_applyAll (hs.keeps t) ((hs.approved intentId).2 ?_)
        simpa [hid] using hpos

/-- A commit approves only what it fulfils. -/
theorem ApprovalInv.view_fulfilled {s : Store} (hs : ApprovalInv s) (t : Tid) :
    ApprovesFulfilled s.db (s.view t) := by
  refine ⟨newApprovals (s.writes t), approvals_applyAll _ _, fun row hmem => ?_⟩
  cases h : newApprovals (s.writes t) with
  | nil => simp [h] at hmem
  | cons first rows =>
      obtain ⟨rfl, hsettling⟩ := hs.own t first rows h
      rw [h, List.mem_singleton] at hmem
      subst hmem
      obtain ⟨pending, hpending, hstatus⟩ := hsettling.pending
      obtain ⟨row', hrow', hsucceeded⟩ := hsettling.succeeded
      exact ⟨by simp [Db.statusOf, hpending, hstatus], by simp [Db.statusOf, hrow', hsucceeded]⟩

theorem approvalContract_sound (requests : Tid → Request) :
    (approvalContract requests).Sound (pendingAtLock requests) := by
  refine .of_steps ?_ ?_ ?_ ?_ (fun _ _ => trivial) (fun _ _ _ _ _ _ => trivial) id
  · intro t s s' hq hs
    refine ⟨⟨hq.db ▸ hs.approved, fun u => ?_, fun u => hq.writes ▸ hs.keeps u⟩, fun intentId => ?_⟩
    · exact (hs.own u).of_same hq.db (by rw [hq.writes]) fun _ _ => hq.holds
    · rw [hq.db]
      exact id
  · intro t w s hdis hs hobl _ _
    have hown (u : Tid) : ApprovesOwn u (wrote t w s) := by
      by_cases hu : u = t
      · subst hu
        intro row rows hrows
        rw [newApprovals_wrote] at hrows
        cases w with
        | insertApproval row' =>
            obtain ⟨hnone, hsettling⟩ := hobl
            simp only [hnone, Write.approval?, Option.toList_some, List.nil_append,
              List.cons.injEq] at hrows
            exact ⟨hrows.2.symm, hrows.1 ▸ hsettling.wrote trivial⟩
        | resolveIntent copy outcome at_ =>
            have hnone : newApprovals (s.writes u) = [] := hobl
            simp [hnone, Write.approval?] at hrows
        | deleteIntent => exact hobl.elim
        | _ =>
            obtain ⟨hnil, hsettling⟩ := hs.own u row rows (by simpa [Write.approval?] using hrows)
            exact ⟨hnil, hsettling.wrote trivial⟩
      · refine (hs.own u).of_same rfl ?_ fun k m hk => Store.holds_acquire.2 (.inr hk)
        simp [wrote, Store.record, Function.update_of_ne hu]
    refine ⟨⟨hs.approved, hown, fun u intentId hmem => ?_⟩, fun _ => id⟩
    rcases (Store.mem_record_writes _ _ _).1 hmem with hmem | ⟨rfl, rfl⟩
    · exact hs.keeps u intentId hmem
    · exact hobl
  · intro t s hdis hs _ _ _
    refine ⟨⟨hs.view_approved t, fun u row rows hrows => ?_, fun u intentId hmem => ?_⟩,
      fun intentId hrow => ?_⟩
    · by_cases hu : u = t
      · subst hu
        simp at hrows
      · have hsteady : Steady u s ((s.publish t).finish t) :=
          (Steady.publish (Ne.symm hu) hdis).trans (.finish (Ne.symm hu) _)
        obtain ⟨hnil, hsettling⟩ := hs.own u row rows (hsteady.writes ▸ hrows)
        exact ⟨hnil, hsettling.steady hsteady⟩
    · exact hs.keeps u intentId ((Store.mem_finish_writes _ _).1 hmem).2
    · obtain ⟨row, hrow⟩ := Option.isSome_iff_exists.1 hrow
      obtain ⟨row', hrow', -⟩ := status_applyAll (hs.keeps t) hrow
      exact Option.isSome_iff_exists.2 ⟨row', hrow'⟩
  · intro t s hs
    refine ⟨⟨hs.approved, fun u row rows hrows => ?_, fun u intentId hmem => ?_⟩, fun _ => id⟩
    · by_cases hu : u = t
      · subst hu
        simp at hrows
      · have hsteady : Steady u s (s.finish t) := .finish (Ne.symm hu) s
        obtain ⟨hnil, hsettling⟩ := hs.own u row rows (hsteady.writes ▸ hrows)
        exact ⟨hnil, hsettling.steady hsteady⟩
    · exact hs.keeps u intentId ((Store.mem_finish_writes _ _).1 hmem).2

/-! ## The programs -/

section

variable {requests : Tid → Request} {t : Tid}

/-- Sessions that approve nothing. -/
theorem approvalLedger :
    Ledger (approvalContract requests) t Write.leavesApprovals
      fun s => newApprovals (s.writes t) = [] where
  stable := ⟨fun hb h => hb.writes ▸ h⟩
  quiet hq _ h := hq.writes ▸ h
  mild c s h := by
    cases c with
    | write w => exact h.elim
    | _ => trivial
  write w hw s _ hs _ := by
    refine ⟨?_, by simp [hs, hw.2]⟩
    cases w with
    | resolveIntent => exact hw.1.elim
    | deleteIntent => exact hw.1.elim
    | insertApproval => simp [Write.approval?, Write.leavesApprovals] at hw
    | _ => trivial
  rollback _ := trivial
  session _ _ := trivial
  finish s := by simp
  note _ _ h := h
  stableNoted _ := ⟨fun hb h => by simpa [noted] using hb.writes ▸ h⟩
  supersede copy at_ s _ _ hs _ := ⟨hs, by simp [hs, Write.approval?]⟩
  commit _ _ _ _ := trivial

theorem grant_leavesApprovals (intent : PaymentIntent) (now : Instant) (bank : Option String) :
    (grant intent now bank).Every (Mild Write.leavesApprovals) :=
  grant_mild intent now bank (fun _ _ => ⟨trivial, rfl⟩) (fun _ => ⟨trivial, rfl⟩)
    (fun _ => ⟨trivial, rfl⟩) fun _ => ⟨trivial, rfl⟩

theorem approvalBookkeeping :
    Bookkeeping (approvalContract requests) t Write.leavesApprovals
      fun s => newApprovals (s.writes t) = [] where
  toLedger := approvalLedger
  fulfill intent bank := by
    have B : Ledger (approvalContract requests) t Write.leavesApprovals fun s =>
        newApprovals (s.writes t) = [] := approvalLedger
    refine B.fulfillPaymentIntent (P := fun _ _ s => newApprovals (s.writes t) = []) intent bank
      ?_ ?_
    · intro locked now s _ _ _ _ hs _
      exact ⟨hs, by simp [hs, Write.approval?]⟩
    · intro locked now _ s hs
      refine (B.every (grant_leavesApprovals _ now bank) s (.inr hs)).mono (fun _ _ => id) ?_
      rintro e s (hd | hd | hs)
      · exact .inl hd
      · exact .inl hd
      · exact .inr hs

/-- A session inside its fulfilment, before the approval. -/
theorem settlingUpkeep (intentId : String) :
    Upkeep (approvalContract requests) t Write.leavesApprovals
      fun s => newApprovals (s.writes t) = [] ∧ InSettlement t intentId s where
  stable := ⟨fun hb h => ⟨hb.writes ▸ h.1, h.2.steady hb.toSteady⟩⟩
  quiet hq _ h := ⟨hq.writes ▸ h.1, h.2.of_same hq.db (by rw [hq.writes]) (hq.holds h.2.locked)⟩
  mild := approvalLedger.mild
  write w hw s hc hs hd := by
    obtain ⟨hobl, hnone⟩ := approvalLedger.write w hw s hc hs.1 hd
    exact ⟨hobl, hnone, hs.2.wrote hw.1⟩

/-- The row under the lock, which no other session can have changed since. -/
theorem present_stable {intentId : String} :
    Stable (approvalContract requests) t fun s =>
      s.writes t = [] ∧ (s.db.intent? intentId).isSome :=
  ⟨fun hb h => ⟨hb.writes.trans h.1, hb.rely _ h.2⟩⟩

/-- An administrator's call locks a pending intent. -/
theorem lockIntent_pending {intentId intentId' : String} {admin : Uuid}
    (hrequest : requests t = .adminFulfill intentId' admin) :
    Triple (approvalContract requests) t
      (fun s => s.writes t = [] ∧ (s.db.intent? intentId).isSome) (lockIntent intentId)
      (fun row? s => ∃ row, row? = some row ∧ row.intentId = intentId ∧ row.status = .pending ∧
        s.writes t = [] ∧ LockedRow t row s) fun _ _ => True := by
  have hview {s : Store} (hs : s.writes t = []) : s.view t = s.db := by
    simp [Store.view, hs]
  refine .bind (Q := fun found s => found = true ∧ s.writes t = [] ∧
    (s.db.intent? intentId).isSome) ?_ fun found => ?_
  · refine .select present_stable fun s _ hs _ => ⟨trivial, ?_, hs⟩
    rw [hview hs.1]
    exact hs.2
  refine .given (fun s hs => hs.1) fun hfound => .pre ?_ fun s hs => hs.2
  simp only [hfound, if_true]
  refine .bind (Q := fun _ s => s.writes t = [] ∧ s.Holds t (.intent intentId) .update ∧
    ∃ row, (s.view t).intent? intentId = some row ∧ row.status = .pending) ?_ fun _ => ?_
  · refine .performAllowed present_stable fun s _ hallow hs => ⟨fun _ => trivial, fun _ s' hexec => ?_⟩
    obtain ⟨row, hrow⟩ := Option.isSome_iff_exists.1 hs.2
    have hpending : row.status = .pending := by
      have hallow : (pendingAtLock requests).stmt t (.lock (.intent intentId) .update : Stmt Unit)
          s = true := hallow
      simpa [pendingAtLock, hrequest, hrow] using hallow
    simp only [Stmt.exec] at hexec
    repeat' split at hexec
    all_goals simp only [Option.some.injEq, Prod.mk.injEq, reduceCtorEq, false_and] at hexec
    obtain ⟨-, rfl⟩ := hexec
    refine ⟨hs.1, by simp, row, ?_, hpending⟩
    rw [Store.acquire_view, Store.begin_view, hview hs.1]
    exact hrow
  · refine .select ⟨fun hb hs => ⟨hb.writes.trans hs.1, hb.holds_iff.2 hs.2.1, ?_⟩⟩
      fun s _ hs _ => ⟨trivial, ?_⟩
    · rw [← hb.agree_view hs.2.1 (by decide)]
      exact hs.2.2
    · obtain ⟨hwrites, hlocked, row, hrow, hpending⟩ := hs
      have hid : row.intentId = intentId := key_of_lookup hrow
      exact ⟨row, hrow, hid, hpending, hwrites, hid ▸ hlocked, hid ▸ hrow⟩

/-- An administrator's fulfilment settles the pending intent. -/
theorem fulfillPaymentIntent_settling {intent : PaymentIntent} {intentId' : String} {admin : Uuid}
    (hrequest : requests t = .adminFulfill intentId' admin) (bank : Option String) :
    Triple (approvalContract requests) t
      (fun s => s.writes t = [] ∧ (s.db.intent? intent.intentId).isSome)
      (fulfillPaymentIntent intent bank)
      (fun _ => Books t fun s => newApprovals (s.writes t) = [] ∧ InSettlement t intent.intentId s)
      fun _ _ => True := by
  refine .bind (lockIntent_pending hrequest) fun row? => ?_
  cases row? with
  | none => exact .given (φ := False) (fun s ⟨row, hnone, _⟩ => by simp at hnone) False.elim
  | some locked =>
      refine .pre (P := fun s => (locked.intentId = intent.intentId ∧ locked.status = .pending) ∧
        s.writes t = [] ∧ LockedRow t locked s) ?_ ?_
      · refine .given (fun s hs => hs.1) fun hlocked => .pre ?_ fun s hs => hs.2
        obtain ⟨hid, hpending⟩ := hlocked
        have hstable : Stable (approvalContract requests) t fun s =>
            s.writes t = [] ∧ LockedRow t locked s :=
          .and ⟨fun hb hs => hb.writes.trans hs⟩ lockedRow_stable
        simp only [hpending, reduceCtorEq, if_false]
        refine .bind (Q := fun _ s => s.writes t = [] ∧ LockedRow t locked s)
          (.sense hstable fun s _ hs => ⟨fun _ => trivial, hs⟩) fun now => ?_
        refine .bind (Q := fun _ => Books t fun s => newApprovals (s.writes t) = [] ∧
          InSettlement t intent.intentId s) (.write hstable fun s _ hs _ => ?_) fun _ => ?_
        · obtain ⟨hwrites, hheld, hrow⟩ := hs
          have hnone : newApprovals (s.writes t) = [] := by simp [hwrites]
          refine ⟨hnone, fun _ => .inr ⟨?_, ?_⟩⟩
          · show newApprovals ((wrote t _ s).writes t) = []
            simp [hnone, Write.approval?]
          · have hdb : s.db.intent? intent.intentId = some locked := by
              simpa [Store.view, hwrites, hid] using hrow
            refine ⟨by simp [Write.needs, hid], ⟨locked, hdb, hpending⟩, ?_⟩
            refine ⟨locked.resolve .succeeded (some now) locked, ?_, rfl⟩
            rw [Store.record_view, apply_eq, Write.intent?_apply, Store.acquire_view,
              Store.begin_view, ← hid, hrow]
            simp [Write.onIntent]
        · refine .bind (Q := fun _ => Books t fun s => newApprovals (s.writes t) = [] ∧
            InSettlement t intent.intentId s) ?_ fun _ => .ret fun _ hs => hs
          exact ((settlingUpkeep intent.intentId).every (grant_leavesApprovals _ now bank)).conseq
            (fun _ => id) (fun _ _ => id) fun _ _ _ => trivial
      · rintro s ⟨row, hrow, hid, hpending, hwrites, hheld⟩
        obtain rfl := Option.some.inj hrow
        exact ⟨⟨hid, hpending⟩, hwrites, hheld⟩

theorem adminFulfillPayment_approves {intentId : String} {admin : Uuid}
    (hrequest : requests t = .adminFulfill intentId admin) :
    Triple (approvalContract requests) t (fun s => s.writes t = [])
      (adminFulfillPayment intentId admin)
      (fun _ => Books t fun s => newApprovals (s.writes t) = []) fun _ _ => True := by
  have hidle : Stable (approvalContract requests) t fun s => s.writes t = [] :=
    ⟨fun hb hs => hb.writes.trans hs⟩
  have hnone {s : Store} (hs : s.writes t = []) :
      Books t (fun s => newApprovals (s.writes t) = []) s := .inr (by simp [hs])
  refine .bind (Q := fun row? s => s.writes t = [] ∧ ∀ row ∈ row?,
      (s.db.intent? row.intentId).isSome) (.select hidle fun s _ hs _ => ⟨trivial, hs, ?_⟩)
    fun row? => ?_
  · intro row hrow
    have hid : row.intentId = intentId := key_of_lookup hrow
    simp only [Store.view, hs, applyAll_nil] at hrow
    rw [hid]
    exact Option.isSome_iff_exists.2 ⟨row, hrow⟩
  cases row? with
  | none => exact .raise fun _ _ => trivial
  | some intent =>
      simp only
      split
      · exact .ret fun s hs => hnone hs.1
      split
      · exact .raise fun _ _ => trivial
      have B : Upkeep (approvalContract requests) t Write.leavesApprovals fun s =>
          newApprovals (s.writes t) = [] ∧ InSettlement t intent.intentId s :=
        settlingUpkeep intent.intentId
      refine .bind (.pre (fulfillPaymentIntent_settling hrequest _) fun s hs =>
        ⟨hs.1, hs.2 intent rfl⟩) fun _ => ?_
      refine .bind (Q := fun _ _ => True) ?_ fun _ => ?_
      · have hbefore : (reference (.intent intent.intentId) fun d =>
            (d.intent? intent.intentId).isSome).Every (Mild Write.leavesApprovals) :=
          (reference_plain _ _).mono fun _ => Plain.mild _
        refine .bind ((B.every hbefore).conseq (fun _ => id) (fun _ _ => id) fun _ _ _ => trivial)
          fun _ => .bind ((B.every (referenceUser_mild _)).conseq (fun _ => id) (fun _ _ => id)
            fun _ _ _ => trivial) fun _ => ?_
        refine .write B.books_stable fun s _ hs hd => ⟨?_, fun _ => trivial⟩
        exact hs.resolve_left (by simp [hd])
      · refine .bind (Q := fun _ => Books t fun s => newApprovals (s.writes t) = [])
          (.bind (Q := fun _ => Books t fun s => newApprovals (s.writes t) = [])
            (.commit (.pure True) fun s _ _ => ⟨fun _ => .inr (by simp), fun _ =>
              ⟨trivial, .inr (by simp)⟩⟩) fun _ => ?_) fun _ => ?_
        · exact approvalLedger.partReads flushPendingTelegramAlerts_reads
        · exact approvalLedger.partReads (refresh_reads intent)

end

/-! ## Runs -/

theorem approvalContract_keeps (cfg : Settings) {d : Db} (hd : ApprovedOnce d) (world : World)
    {requests : Tid → Request} (hrequests : ∀ t id, requests t ≠ .deleteSeries id) :
    Pool.Keeps (approvalContract requests) (fun _ _ => True)
      (fun t _ s => s.doomed t = true ∨ True) (start cfg d world requests) := by
  refine Pool.Keeps.start ⟨hd, fun t row rows h => by simp [Store.idle] at h,
    by simp [Store.idle]⟩ fun t => ?_
  have hbooks (s : Store) (hs : s = .idle d .empty world) :
      Books t (fun s => newApprovals (s.writes t) = []) s := by
    subst hs
    exact .inr rfl
  cases h : (requests t).isCheckout with
  | false =>
      refine (approvalLedger.administrationRequest cfg (fun w hw hne => ?_) h
        fun id hid => (hrequests t id hid).elim).conseq hbooks (fun _ _ _ => trivial) fun _ _ => id
      cases w with
      | deleteIntent intentId => exact (hne intentId rfl).elim
      | resolveIntent => exact hw.elim
      | insertApproval => exact hw.elim
      | _ => exact ⟨trivial, rfl⟩
  | true =>
      by_cases hadmin : ∃ intentId admin, requests t = .adminFulfill intentId admin
      · obtain ⟨intentId, admin, hrequest⟩ := hadmin
        have happroves := approvalLedger.closing (adminFulfillPayment_approves hrequest)
        show Triple _ t _ ((requests t).prog cfg) _ _
        rw [hrequest]
        refine happroves.conseq (fun s hs => ?_) (fun _ _ _ => trivial) fun _ _ => id
        rw [hs]
        rfl
      · refine (approvalBookkeeping.checkoutRequest cfg (fun w hw hne => ?_) h
          fun intentId admin hrequest => (hadmin ⟨intentId, admin, hrequest⟩).elim).conseq hbooks
            (fun _ _ _ => trivial) fun _ _ => id
        cases w with
        | insertApproval row => exact (hne row rfl).elim
        | insertIntent | replaceQr | putWebhookEvent => exact ⟨trivial, rfl⟩
        | _ => exact hw.elim

/-- However manual fulfilments interleave with polls, sweeper passes and all
else that deletes no intent: as long as every fulfilment of an administrator
finds its intent still pending when it locks it, an intent is approved once at
most, and the commit that approves it is the one that fulfils it. -/
theorem approvals_fulfilled (cfg : Settings) {d : Db} (hd : ApprovedOnce d) (world : World)
    {requests : Tid → Request} (hrequests : ∀ t id, requests t ≠ .deleteSeries id) {q : Pool}
    (hq : Pool.Run (pendingAtLock requests) (start cfg d world requests) q) :
    ApprovedOnce q.store.db ∧
      ∀ ev r, q.next ev = some r → ApprovesFulfilled q.store.db r.store.db := by
  have hstable (t : Tid) (_ : Err) :
      Stable (approvalContract requests) t fun s => s.doomed t = true ∨ True :=
    .or (.doomed true) (.pure True)
  have hkeeps := ((approvalContract_keeps cfg hd world hrequests).run
    (approvalContract_sound requests) (fun _ => .pure True) hstable hq).1
  have hinv : ApprovalInv q.store := hkeeps.calm.inv
  refine ⟨hinv.approved, fun ev r hnext => ?_⟩
  rcases Pool.next_db hnext with hdb | ⟨t, k, -, -, -, hdb⟩
  · rw [hdb]
    exact ⟨[], by simp, by simp⟩
  · rw [hdb]
    exact hinv.view_fulfilled t

/-- Two administrators' calls for one intent. -/
def Shop.approveTwice (_ : Tid) : Request := .adminFulfill "bkg-1" 2

theorem approval_fulfilled : ∃ q,
    Pool.Run (pendingAtLock Shop.approveTwice)
      (start .default Shop.db Shop.world Shop.approveTwice) q ∧
    q.store.db.approvalsOf "bkg-1" = 1 ∧ ApprovedOnce q.store.db := by
  have hd : ApprovedOnce Shop.db := fun intentId => by
    simp [Db.approvalsOf, Shop.db, Db.empty]
  obtain ⟨q, hrun, happroved⟩ := Pool.exists_run_of_play
    (f := fun q : Pool => decide (q.store.db.approvalsOf "bkg-1" = 1))
    (show (Pool.play (pendingAtLock Shop.approveTwice)
      (start .default Shop.db Shop.world Shop.approveTwice) (Shop.runs 1 24)).any _ = true by decide)
  exact ⟨q, hrun, of_decide_eq_true happroved,
    (approvals_fulfilled .default hd Shop.world (by simp [Shop.approveTwice]) hrun).1⟩

/-- A second call that loaded the pending intent before the first one committed
adds an approval of its own; so does a call overtaken by a poll. -/
theorem approvals_not_fulfilled :
    ∃ q, Pool.Run .any (start .default Shop.db Shop.world Shop.approveTwice) q ∧
      q.store.db.approvalsOf "bkg-1" = 2 := by
  obtain ⟨q, hrun, happroved⟩ := Pool.exists_run_of_play
    (f := fun q : Pool => decide (q.store.db.approvalsOf "bkg-1" = 2))
    (show (Pool.play .any (start .default Shop.db Shop.world Shop.approveTwice)
      (Shop.runs 0 1 ++ Shop.runs 1 24 ++ Shop.runs 0 9)).any _ = true by decide)
  exact ⟨q, hrun, of_decide_eq_true happroved⟩

end MovieApi.Billing
