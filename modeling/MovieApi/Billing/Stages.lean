import MovieApi.Billing.Calls

/-!
# Intents and purchases over a checkout

Checkouts and settlements never take an intent or a purchase away: an intent
goes from pending to resolved and stays there, and a title once owned stays
owned.  A call that reads an intent follows it from stage to stage.
-/

namespace MovieApi.Billing

open ReadCommitted ReadCommitted.Prog Sql

/-! ## What checkouts and settlements keep -/

/-- How far the life of an intent has come: absent, pending, resolved. -/
def stage : Option PaymentIntent → Nat
  | none => 0
  | some row => if row.status = .pending then 1 else 2

/-- Writes that take no intent and no receipt away from anybody. -/
def Write.keeps : Write → Prop
  | .insertIntent row => row.status = .pending
  | .deleteIntent _ => False
  | .claimReceipt _ _ _ => False
  | .deleteReceipt _ _ => False
  | _ => True

/-- The stage of an intent after a write. -/
def Write.onStage (intentId : String) (n : Nat) : Write → Nat
  | .insertIntent row => if n = 0 ∧ row.intentId = intentId then 1 else n
  | .resolveIntent copy _ _ => if n ≠ 0 ∧ intentId = copy.intentId then 2 else n
  | _ => n

theorem stage_le_two (row? : Option PaymentIntent) : stage row? ≤ 2 := by
  unfold stage
  repeat' split
  all_goals omega

theorem stage_some_ne_zero (row : PaymentIntent) : stage (some row) ≠ 0 := by
  by_cases h : row.status = .pending <;> simp [stage, h]

/-- Where a map of rows keeps the status it keeps the stage. -/
theorem stage_map {f : PaymentIntent → PaymentIntent} (hf : ∀ row, (f row).status = row.status)
    (row? : Option PaymentIntent) : stage (row?.map f) = stage row? := by
  cases row? <;> simp [stage, hf]

theorem Write.stage_onIntent {w : Write} (hw : w.keeps) (intentId : String)
    (row? : Option PaymentIntent) :
    stage (w.onIntent intentId row?) = w.onStage intentId (stage row?) := by
  cases w with
  | insertIntent row =>
      cases row? with
      | none =>
          have hpending : row.status = .pending := hw
          by_cases h : row.intentId = intentId <;> simp [onIntent, onStage, stage, h, hpending]
      | some row' => simp [onIntent, onStage, stage_some_ne_zero]
  | resolveIntent copy outcome at_ =>
      by_cases h : intentId = copy.intentId
      · cases row? with
        | none => simp [onIntent, onStage, stage, h]
        | some row =>
            have hstatus : (copy.resolve outcome at_ row).status ≠ .pending :=
              outcome.status_ne_pending
            simp only [onIntent, onStage, if_pos h, Option.map_some, stage_some_ne_zero,
              ne_eq, not_false_eq_true, true_and]
            simp [stage, hstatus]
      · simp [onIntent, onStage, h]
  | replaceQr copy md5 qr merchant at_ =>
      simp only [onIntent, onStage]
      split
      · exact stage_map (f := copy.withQr md5 qr merchant at_) (fun _ => rfl) row?
      · rfl
  | claimIntent row user =>
      simp only [onIntent, onStage]
      split
      · exact stage_map (f := fun row : PaymentIntent => row.claimed user) (fun _ => rfl) row?
      · rfl
  | clearTitle title intentId' =>
      simp only [onIntent, onStage]
      split
      · exact stage_map (f := fun row : PaymentIntent => row.cleared title)
          (fun row => by cases title <;> rfl) row?
      · rfl
  | deleteIntent => exact hw.elim
  | _ => rfl

theorem Write.le_onStage (w : Write) (intentId : String) {n : Nat} (hn : n ≤ 2) :
    n ≤ w.onStage intentId n := by
  cases w <;> simp only [onStage] <;> first | exact le_refl n | (split <;> omega)

theorem Write.onStage_mono (w : Write) (intentId : String) {n n' : Nat} (h : n ≤ n')
    (hn' : n' ≤ 2) : w.onStage intentId n ≤ w.onStage intentId n' := by
  cases w with
  | insertIntent row =>
      by_cases hid : row.intentId = intentId
      · simp only [onStage, hid, and_true]
        split <;> split <;> omega
      · simpa only [onStage, hid, and_false, if_false] using h
  | resolveIntent copy outcome at_ =>
      by_cases hid : intentId = copy.intentId
      · simp only [onStage, hid, and_true]
        split <;> split <;> omega
      · simpa only [onStage, hid, and_false, if_false] using h
  | _ => exact h

/-- Whoever owns a title after a write owned it before or got it by the write. -/
theorem Write.owns_apply {w : Write} (hw : w.keeps) (d : Db) (owner : Owner) (title : Title)
    (titleId : Uuid) :
    (w.apply d).owns owner title titleId = true ↔
      d.owns owner title titleId = true ∨
        ∃ row, w = .insertReceipt title row ∧ row.titleId = titleId ∧ owner.owns row = true := by
  cases w with
  | insertReceipt title' row =>
      by_cases h : title = title'
      · subst h
        simp [Write.apply, Db.owns]
      · have hne : title' ≠ title := Ne.symm h
        simp [Write.apply, Db.owns, h, hne]
  | claimReceipt | deleteReceipt => exact hw.elim
  | deleteTitle title' id => cases title' <;> cases title <;> simp [Write.apply, Db.owns, Db.receipts]
  | _ => cases title <;> simp [Write.apply, Db.owns, Db.receipts, Db.mapIntent]

/-- Intents come no less far, and what is owned stays owned. -/
structure Kept (d d' : Db) : Prop where
  stages : ∀ intentId, stage (d.intent? intentId) ≤ stage (d'.intent? intentId)
  owned : ∀ owner title titleId, d.owns owner title titleId = true →
    d'.owns owner title titleId = true

namespace Kept

variable {d d' d'' : Db} {w : Write}

theorem refl (d : Db) : Kept d d := ⟨fun _ => le_refl _, fun _ _ _ h => h⟩

theorem trans (h : Kept d d') (h' : Kept d' d'') : Kept d d'' :=
  ⟨fun intentId => (h.stages intentId).trans (h'.stages intentId),
    fun owner title titleId ho => h'.owned owner title titleId (h.owned owner title titleId ho)⟩

theorem write (hw : w.keeps) (d : Db) : Kept d (w.apply d) := by
  refine ⟨fun intentId => ?_, fun owner title titleId h => ?_⟩
  · rw [Write.intent?_apply, Write.stage_onIntent hw]
    exact w.le_onStage intentId (stage_le_two _)
  · exact (Write.owns_apply hw d owner title titleId).2 (.inl h)

/-- The same write on both sides. -/
theorem congr (h : Kept d d') (hw : w.keeps) : Kept (w.apply d) (w.apply d') := by
  refine ⟨fun intentId => ?_, fun owner title titleId ho => ?_⟩
  · simp only [Write.intent?_apply, Write.stage_onIntent hw]
    exact w.onStage_mono intentId (h.stages intentId) (stage_le_two _)
  · rw [Write.owns_apply hw] at ho ⊢
    exact ho.imp_left (h.owned owner title titleId)

theorem applyAll {ws : List Write} (hws : ∀ w ∈ ws, w.keeps) (d : Db) :
    Kept d (ReadCommitted.applyAll ws d) :=
  applyAll_induction (.refl d) fun w hw _ hd => hd.trans (.write (hws w hw) _)

theorem applyAll_congr {ws : List Write} (h : Kept d d') (hws : ∀ w ∈ ws, w.keeps) :
    Kept (ReadCommitted.applyAll ws d) (ReadCommitted.applyAll ws d') := by
  induction ws generalizing d d' with
  | nil => exact h
  | cons w ws ih =>
      exact ih (h.congr (hws w (by simp))) fun w' hw' => hws w' (by simp [hw'])

end Kept

/-! ## The contract -/

/-- The account's intent is for a title it owns. -/
def PaymentIntent.alreadyOwned (row : PaymentIntent) (d : Db) : Bool :=
  match row.userId, row.ownable with
  | some user, some (title, titleId) => d.owns (.user user) title titleId
  | _, _ => false

/-- No call gets to create an intent for a title its buyer owns. -/
def unownedOnly : Regime where
  stmt t _ c s :=
    match c with
    | .write (.insertIntent row) => !row.alreadyOwned (s.view t)
    | _ => true
  outside _ _ := true

def KeepingObl {α : Type} (c : Stmt α) : Prop :=
  match c with
  | .write w => w.keeps
  | _ => True

def ownershipContract : Contract where
  Inv s := ∀ t, ∀ w ∈ s.writes t, w.keeps
  Obl _ _ c _ := KeepingObl c
  Rely s s' := Kept s.db s'.db
  rely_refl s := .refl s.db
  rely_trans h h' := h.trans h'
  Allows t _ c s := unownedOnly.stmt t c s = true

theorem ownershipContract_sound : ownershipContract.Sound unownedOnly := by
  refine .of_steps ?_ ?_ ?_ ?_ (fun _ _ => trivial) (fun _ _ _ _ _ _ => trivial) fun h => h
  · intro t s s' hq hs
    refine ⟨fun u w hw => hs u w (hq.writes ▸ hw), ?_⟩
    show Kept s.db s'.db
    rw [hq.db]
    exact .refl s.db
  · intro t w s _ hs hobl _ _
    refine ⟨fun u w' hw' => ?_, .refl s.db⟩
    rcases (Store.mem_record_writes _ _ _).1 hw' with hmem | ⟨-, rfl⟩
    · exact hs u w' hmem
    · exact hobl
  · intro t s _ hs _ _ _
    exact ⟨fun u w hw => hs u w ((Store.mem_finish_writes _ _).1 hw).2, .applyAll (hs t) s.db⟩
  · intro t s hs
    exact ⟨fun u w hw => hs u w ((Store.mem_finish_writes _ _).1 hw).2, .refl s.db⟩

theorem ownershipBookkeeping (t : Tid) :
    Bookkeeping ownershipContract t Write.keeps fun _ => True := by
  have B : Ledger ownershipContract t Write.keeps fun _ => True :=
    { stable := .pure True
      quiet := fun _ _ _ => trivial
      mild := fun c s h => by
        cases c with
        | write w => exact h.elim
        | _ => trivial
      rollback := fun _ => trivial
      session := fun _ _ => trivial
      finish := fun _ => trivial
      note := fun _ _ _ => trivial
      stableNoted := fun _ => .pure True
      write := fun w hw s _ _ _ => ⟨hw, trivial⟩
      supersede := fun copy at_ s _ _ _ _ => ⟨trivial, trivial⟩
      commit := fun _ _ _ _ => trivial }
  refine ⟨B, fun intent bank => B.fulfillPaymentIntent (P := fun _ _ _ => True) intent bank ?_ ?_⟩
  · exact fun locked now s _ _ _ _ _ _ => ⟨trivial, trivial⟩
  · intro locked now _
    have hgrant := grant_mild (N := Write.keeps) (locked.resolved .succeeded (some now))
      now bank (fun _ _ => trivial) (fun _ => trivial) (fun _ => trivial) fun _ => trivial
    exact (B.every hgrant).conseq (fun _ _ => .inr trivial) (fun _ _ => id) fun _ _ _ => trivial

/-! ## One call -/

/-- Session `t` reads the intents at stage `n` or later. -/
def Reached (t : Tid) (n : Nat) (intentIds : List String) (s : Store) : Prop :=
  (∀ w ∈ s.writes t, w.keeps) ∧ ∀ intentId ∈ intentIds, n ≤ stage ((s.view t).intent? intentId)

theorem reachedUpkeep (t : Tid) (n : Nat) (intentIds : List String) :
    Upkeep ownershipContract t Write.keeps (Reached t n intentIds) where
  stable := by
    refine ⟨fun {s s'} hb hs => ⟨fun w hw => hs.1 w (hb.writes ▸ hw), fun intentId hid => ?_⟩⟩
    refine (hs.2 intentId hid).trans ?_
    unfold Store.view
    rw [hb.writes]
    exact (Kept.applyAll_congr hb.rely hs.1).stages intentId
  quiet hq _ hs := ⟨fun w hw => hs.1 w (hq.writes ▸ hw), by simpa only [hq.view] using hs.2⟩
  mild c s h := by
    cases c with
    | write w => exact h.elim
    | _ => trivial
  write w hw s _ hs _ := by
    refine ⟨hw, fun w' hw' => ?_, fun intentId hid => ?_⟩
    · rcases (Store.mem_record_writes _ _ _).1 hw' with hmem | ⟨-, rfl⟩
      · exact hs.1 w' hmem
      · exact hw
    · simp only [wrote, Store.record_view]
      exact (hs.2 intentId hid).trans ((Kept.write hw _).stages intentId)

section

variable {t : Tid} {n : Nat} {intentId : String} {intentIds : List String}

theorem reached_part {α : Type} {p : Prog α} (hp : p.Every (Mild Write.keeps)) :
    Triple ownershipContract t (Live t (Reached t n intentIds)) p
      (fun _ => Live t (Reached t n intentIds)) fun _ _ => True :=
  (reachedUpkeep t n intentIds).everyLive hp

theorem reached_reads {α : Type} {p : Prog α} (hp : p.Every Reads) :
    Triple ownershipContract t (Live t (Reached t n intentIds)) p
      (fun _ => Live t (Reached t n intentIds)) fun _ _ => True :=
  reached_part (hp.mono fun _ => Reads.mild _)

theorem reached_stable : Stable ownershipContract t (Live t (Reached t n intentIds)) :=
  .live (reachedUpkeep t n intentIds).stable

/-- A status write resolves the intent the session reads. -/
theorem reached_resolve {copy : PaymentIntent} {outcome : Outcome} {at_ : Option Instant}
    (hid : copy.intentId = intentId) :
    Triple ownershipContract t (Live t (Reached t 1 [intentId]))
      (.write (.resolveIntent copy outcome at_))
      (fun _ => Live t (Reached t 2 [intentId])) fun _ _ => True := by
  refine .write reached_stable fun s _ hs _ => ⟨trivial, fun _ => ⟨hs.1, fun w hw => ?_, ?_⟩⟩
  · rcases (Store.mem_record_writes _ _ _).1 hw with hmem | ⟨-, rfl⟩
    · exact hs.2.1 w hmem
    · trivial
  · intro intentId' hid'
    obtain rfl : intentId' = intentId := by simpa using hid'
    have hstage := hs.2.2 intentId' (by simp)
    have hne : stage ((s.view t).intent? intentId') ≠ 0 := by omega
    simp only [Store.record_view, Store.acquire_view, Store.begin_view, apply_eq,
      Write.intent?_apply, Write.stage_onIntent (w := .resolveIntent copy outcome at_) trivial]
    simp [Write.onStage, hne, hid]

/-- A fulfilment resolves the intent. -/
theorem fulfillPaymentIntent_resolves {intent : PaymentIntent} (bank : Option String) :
    Triple ownershipContract t (Live t (Reached t 1 [intent.intentId]))
      (fulfillPaymentIntent intent bank) (fun _ => Live t (Reached t 2 [intent.intentId]))
      fun _ _ => True := by
  have hlock : Triple ownershipContract t (Live t (Reached t 1 [intent.intentId]))
      (lockIntent intent.intentId)
      (fun row? s => ∃ row, row? = some row ∧ row.intentId = intent.intentId ∧
        Live t (Reached t (stage (some row)) [intent.intentId]) s) fun _ _ => True := by
    refine .bind (.select (Q := fun found s => found = true ∧
      Live t (Reached t 1 [intent.intentId]) s) reached_stable fun s _ hs _ => ⟨trivial, ?_, hs⟩)
        fun found => ?_
    · have hstage := hs.2.2 intent.intentId (by simp)
      cases hrow : (s.view t).intent? intent.intentId with
      | none => simp [hrow, stage] at hstage
      | some row => rfl
    · refine .given (fun _ hs => hs.1) fun hfound => .pre ?_ fun _ hs => hs.2
      subst hfound
      refine .bind (reached_part (.perform trivial)) fun _ => ?_
      refine .select reached_stable fun s _ hs _ => ⟨trivial, ?_⟩
      have hstage := hs.2.2 intent.intentId (by simp)
      cases hrow : (s.view t).intent? intent.intentId with
      | none => simp [hrow, stage] at hstage
      | some row =>
          refine ⟨row, rfl, key_of_lookup hrow, hs.1, hs.2.1, fun intentId hid => ?_⟩
          obtain rfl : intentId = intent.intentId := by simpa using hid
          show _ ≤ stage ((s.view t).intent? _)
          rw [hrow]
  refine .bind hlock fun row? => ?_
  cases row? with
  | none => exact .given (φ := False) (fun s hs => by simp at hs) False.elim
  | some locked =>
      refine .pre (P := fun s => locked.intentId = intent.intentId ∧
        Live t (Reached t (stage (some locked)) [intent.intentId]) s) ?_ fun s hs => by
          obtain ⟨row, hrow, hs⟩ := hs
          rw [Option.some.injEq] at hrow
          exact hrow ▸ hs
      refine .given (fun _ hs => hs.1) fun hid => .pre ?_ fun _ hs => hs.2
      simp only
      split
      · next hstatus => exact .ret fun s hs => by simpa [stage, hstatus] using hs
      · refine .pre (P := Live t (Reached t 1 [intent.intentId])) ?_ fun s hs =>
          ⟨hs.1, hs.2.1, fun intentId hmem => ?_⟩
        · refine .bind (reached_reads utcNow_reads) fun now => ?_
          refine .bind (reached_resolve hid) fun _ => .bind (reached_part ?_) fun _ => .ret fun _ hs => hs
          exact grant_mild _ now bank (fun _ _ => trivial) (fun _ => trivial) (fun _ => trivial)
            fun _ => trivial
        · have hne := stage_some_ne_zero locked
          have := hs.2.2 intentId hmem
          omega

theorem settleBakongIntentIfPaid_resolves (cfg : Settings) {intent : PaymentIntent}
    (hpending : intent.status = .pending) :
    Triple ownershipContract t (Live t (Reached t 1 [intent.intentId]))
      (settleBakongIntentIfPaid cfg intent)
      (fun settled => Live t (Reached t (if settled.1 then 2 else 1) [intent.intentId]))
      fun _ _ => True := by
  unfold settleBakongIntentIfPaid
  split
  · next hstatus => simp [hpending] at hstatus
  split
  · exact .ret fun _ hs => hs
  split
  · exact .ret fun _ hs => hs
  refine .bind (reached_reads (bakongMd5sPaid_reads cfg intent)) fun paid => ?_
  split
  · exact .bind (fulfillPaymentIntent_resolves _) fun _ => .ret fun _ hs => hs
  · exact .ret fun _ hs => hs

/-- The refreshed row of a resolved intent is not pending. -/
theorem commitAndRefresh_resolved {intent : PaymentIntent} :
    Triple ownershipContract t (Live t (Reached t 2 [intent.intentId]))
      (commitAndRefresh intent) (fun row _ => row.status ≠ .pending) fun _ _ => True := by
  refine .bind (Q := fun _ => Live t (Reached t 2 [intent.intentId])) ?_ fun _ => ?_
  · refine .bind (.commit reached_stable fun s _ hs => ⟨fun hd => ?_, fun _ => ⟨trivial, ?_⟩⟩)
      fun _ => reached_reads flushPendingTelegramAlerts_reads
    · simp [hs.1] at hd
    · exact ⟨by simp, by simp, by simpa [Store.view] using hs.2.2⟩
  · refine .bind (.select (Q := fun row? _ => ∀ row, row? = some row → row.status ≠ .pending)
      reached_stable fun s _ hs _ => ⟨trivial, fun row hrow => ?_⟩) fun row? => ?_
    · have hstage := hs.2.2 intent.intentId (by simp)
      rw [hrow] at hstage
      intro hstatus
      simp [stage, hstatus] at hstage
    · cases row? with
      | none => exact .raise fun _ _ => trivial
      | some row => exact .ret fun _ hs => hs row rfl

end

end MovieApi.Billing
