import MovieApi.Billing.UniqueKeys

/-!
# Legal states

The programs look every key up before they enter it, and hold it until they commit: the
primary keys and the unique indexes hold at every committed state of every run.
-/

namespace MovieApi.Billing

open ReadCommitted ReadCommitted.Prog Sql

/-! ## The programs -/

section

variable {kept : Key → Prop} {reg : Regime} {t : Tid}

theorem keyObl_of_mild {α : Type} (c : Stmt α) (s : Store) (h : Mild (fun _ => False) c) :
    (keys.contract kept reg : Contract).Obl t c s := by
  cases c with
  | write w => exact h.elim
  | _ => trivial

theorem keyLedger (t : Tid) : Ledger (keys.contract kept reg) t Write.makesNone fun _ => True where
  stable := .pure True
  quiet _ _ _ := trivial
  mild := keyObl_of_mild
  rollback _ := trivial
  session _ _ := trivial
  finish _ := trivial
  note _ _ _ := trivial
  stableNoted _ := .pure True
  write _ hw _ _ _ _ := ⟨hw.enters _, trivial⟩
  supersede copy at_ _ _ _ _ _ :=
    ⟨(show (Write.resolveIntent copy .superseded at_).makesNone from trivial).enters _, trivial⟩
  commit _ _ _ _ := trivial

/-! ### Entries found free -/

variable {N : Write → Prop} {F : Store → Prop} {looked : Key → Prop} {entries : List Key}

/-- Beside `F`, the session has found the entries free. -/
def Entering (t : Tid) (F : Store → Prop) (looked : Key → Prop) (entries : List Key) (s : Store) :
    Prop :=
  F s ∧ ∀ e ∈ entries, keys.Free t looked e s

theorem enteringUpkeep (B : Upkeep (keys.contract kept reg) t N F) :
    Upkeep (keys.contract kept reg) t (fun _ => False) (Entering t F looked entries) where
  stable := B.stable.and ⟨fun hb hs e he => UniqueIndex.free_stable.keep hb (hs e he)⟩
  quiet hq hinfo hs := ⟨B.quiet hq hinfo hs.1, fun e he => UniqueIndex.Free.quiet hq (hs.2 e he)⟩
  mild := keyObl_of_mild
  write _ := False.elim

theorem entering_nil {s : Store} (hs : Books t F s) :
    Books t (Entering t F looked []) s :=
  hs.imp_right fun hs => ⟨hs, by simp⟩

theorem enter_entering (B : Upkeep (keys.contract kept reg) t N F) {e : Key} {taken : Db → Bool}
    {R : Err → Store → Prop}
    (htaken : ∀ d, taken d = false → ∀ k, looked k → e ∉ keys.entriesAt d k) :
    Triple (keys.contract kept reg) t (Books t (Entering t F looked entries)) (.enter e taken)
      (fun entered => Books t (Entering t F looked (if entered then e :: entries else entries)))
      R := by
  have hentering : Upkeep (keys.contract kept reg) t (fun _ => False)
      (Entering t F looked entries) := enteringUpkeep B
  refine (UniqueIndex.free_enter hentering.stable (fun s => hentering.quiet (.begin t s) rfl)
    (fun s ks => hentering.quiet (.acquire t s ks) rfl) htaken).post fun entered s hs => .inr ?_
  cases entered with
  | false => exact hs.1
  | true =>
      refine ⟨hs.1.1, fun e he => ?_⟩
      rcases List.mem_cons.1 he with rfl | he
      · exact hs.2 rfl
      · exact hs.1.2 e he

theorem enterUnique_entering (B : Upkeep (keys.contract kept reg) t N F) {e : Key}
    {taken : Db → Bool} (htaken : ∀ d, taken d = false → ∀ k, looked k → e ∉ keys.entriesAt d k) :
    Triple (keys.contract kept reg) t (Books t (Entering t F looked entries))
      (enterUnique e taken) (fun _ => Books t (Entering t F looked (e :: entries)))
      fun _ _ => True := by
  refine .bind (enter_entering B htaken) fun entered => ?_
  cases entered with
  | true => exact .ret fun _ hs => hs
  | false => exact (Triple.reject (.pure True) fun _ _ _ _ => trivial).pre fun _ _ => trivial

theorem forEach_entering {β : Type} {bs : List β} {entry : β → Key} {body : β → Prog Unit}
    (h : ∀ b ∈ bs, ∀ entries, Triple (keys.contract kept reg) t
      (Books t (Entering t F looked entries)) (body b)
      (fun _ => Books t (Entering t F looked (entry b :: entries))) fun _ _ => True) :
    Triple (keys.contract kept reg) t (Books t (Entering t F looked entries)) (forEach bs body)
      (fun _ => Books t (Entering t F looked (bs.map entry ++ entries))) fun _ _ => True := by
  induction bs generalizing entries with
  | nil => exact .ret fun _ hs => hs
  | cons b bs ih =>
      refine .bind (h b (by simp) entries) fun _ =>
        (ih fun b' hb' => h b' (by simp [hb'])).post fun _ s hs => ?_
      refine hs.imp_right fun hs => ⟨hs.1, fun e he => hs.2 e ?_⟩
      simp only [List.map_cons, List.cons_append, List.mem_cons, List.mem_append] at he ⊢
      tauto

/-! ### What the lookups of the constraints find -/

/-- An entry that no row has under the keys looked at. -/
theorem not_mem_entriesAt {d : Db} {e : Key}
    (h : ∀ row ∈ d.rows, e ∈ row.entries → ¬ looked row.key) (k : Key) (hk : looked k) :
    e ∉ keys.entriesAt d k := fun he => by
  obtain ⟨row, hrow, rfl, hmem⟩ := mem_entriesAt.1 he
  exact h row hrow hmem hk

/-- A query that finds the intents with the entry. -/
theorem intents_free {d : Db} {e : Key} {found : PaymentIntent → Bool}
    (hkind : ∀ row : Row, e ∈ row.entries → ∃ intent, row = .intent intent)
    (hfound : ∀ intent : PaymentIntent, e ∈ intent.entries → looked (.intent intent.intentId) →
      found intent = true)
    (h : d.intents.any found = false) : ∀ k, looked k → e ∉ keys.entriesAt d k :=
  not_mem_entriesAt fun row hrow he hk => by
    obtain ⟨intent, rfl⟩ := hkind row he
    exact absurd (hfound intent he hk)
      (List.any_eq_false.1 h intent (Db.intent_mem_rows.1 hrow))

theorem intent_free {d : Db} {id : String} (h : (d.intent? id).isSome = false) :
    ∀ k, looked k → .intent id ∉ keys.entriesAt d k := by
  rw [Db.intent?, lookup_isSome_eq_any] at h
  refine intents_free (fun row he => ?_) (fun intent he _ => ?_) h
  · cases row <;> simp [Row.entries] at he ⊢
  · simpa [PaymentIntent.entries, eq_comm] using he

theorem intentOrder_free {d : Db} {orderId : String}
    (h : (d.intents.any fun row => decide (row.orderId = orderId)) = false) :
    ∀ k, looked k → .intentOrder orderId ∉ keys.entriesAt d k := by
  refine intents_free (fun row he => ?_) (fun intent he _ => ?_) h
  · cases row <;> simp [Row.entries] at he ⊢
  · simpa [PaymentIntent.entries, eq_comm] using he

theorem intentMd5_free {d : Db} {md5 : String}
    (h : (d.intents.any fun row => decide (row.bakongMd5 = some md5)) = false) :
    ∀ k, looked k → .intentMd5 md5 ∉ keys.entriesAt d k := by
  refine intents_free (fun row he => ?_) (fun intent he _ => ?_) h
  · cases row <;> simp [Row.entries] at he ⊢
  · simpa [PaymentIntent.entries] using he

theorem intentMd5_free_beside {d : Db} {id md5 : String}
    (h : (d.intents.any fun row => decide (row.intentId ≠ id ∧ row.bakongMd5 = some md5)) = false) :
    ∀ k, k ≠ .intent id → .intentMd5 md5 ∉ keys.entriesAt d k := by
  refine intents_free (fun row he => ?_) (fun intent he hk => ?_) h
  · cases row <;> simp [Row.entries] at he ⊢
  · simpa [PaymentIntent.entries, show intent.intentId ≠ id from fun h => hk (congrArg _ h)]
      using he

theorem pending_free {d : Db} {key : PendingKey} (h : d.hasPending key = false) :
    ∀ k, looked k → .pending key ∉ keys.entriesAt d k := by
  refine intents_free (fun row he => ?_) (fun intent he _ => ?_) h
  · cases row <;> simp [Row.entries] at he ⊢
  · simpa [PaymentIntent.entries] using he

theorem pending_free_beside {d : Db} {id : String} {key : PendingKey}
    (h : (d.intents.any fun row => decide (row.intentId ≠ id ∧ key ∈ row.pendingKeys)) = false) :
    ∀ k, k ≠ .intent id → .pending key ∉ keys.entriesAt d k := by
  refine intents_free (fun row he => ?_) (fun intent he hk => ?_) h
  · cases row <;> simp [Row.entries] at he ⊢
  · simpa [PaymentIntent.entries, show intent.intentId ≠ id from fun h => hk (congrArg _ h)]
      using he

theorem receipt_free {d : Db} {title : Title} {id : String}
    (h : (d.receipt? title id).isSome = false) :
    ∀ k, looked k → .receipt title id ∉ keys.entriesAt d k :=
  not_mem_entriesAt fun row hrow he _ => by
    cases row with
    | receipt title' row =>
        obtain ⟨rfl, rfl⟩ : title = title' ∧ id = row.intentId := by simpa [Row.entries] using he
        simp [Db.receipt?, lookup_isSome_of_mem (Db.receipt_mem_rows.1 hrow)] at h
    | _ => simp [Row.entries, PaymentIntent.entries] at he

theorem receiptOrder_free {d : Db} {title : Title} {orderId : String}
    (h : d.hasReceiptOrder title orderId = false) :
    ∀ k, looked k → .receiptOrder title orderId ∉ keys.entriesAt d k :=
  not_mem_entriesAt fun row hrow he _ => by
    cases row with
    | receipt title' row =>
        obtain ⟨rfl, rfl⟩ : title = title' ∧ orderId = row.orderId := by
          simpa [Row.entries] using he
        simpa using List.any_eq_false.1 h row (Db.receipt_mem_rows.1 hrow)
    | _ => simp [Row.entries, PaymentIntent.entries] at he

theorem payment_free {d : Db} {id : String} (h : (d.payment? id).isSome = false) :
    ∀ k, looked k → .payment id ∉ keys.entriesAt d k :=
  not_mem_entriesAt fun row hrow he _ => by
    cases row with
    | payment row =>
        obtain rfl : id = row.intentId := by simpa [Row.entries] using he
        simp [Db.payment?, lookup_isSome_of_mem (Db.payment_mem_rows.1 hrow)] at h
    | _ => simp [Row.entries, PaymentIntent.entries] at he

theorem paymentOrder_free {d : Db} {orderId : String} (h : d.hasPaymentOrder orderId = false) :
    ∀ k, looked k → .paymentOrder orderId ∉ keys.entriesAt d k :=
  not_mem_entriesAt fun row hrow he _ => by
    cases row with
    | payment row =>
        obtain rfl : orderId = row.orderId := by simpa [Row.entries] using he
        simpa using List.any_eq_false.1 h row (Db.payment_mem_rows.1 hrow)
    | _ => simp [Row.entries, PaymentIntent.entries] at he

theorem subscription_free {d : Db} {user : Uuid} (h : (d.subscription? user).isSome = false) :
    ∀ k, looked k → .subscription user ∉ keys.entriesAt d k :=
  not_mem_entriesAt fun row hrow he _ => by
    cases row with
    | subscription row =>
        obtain rfl : user = row.userId := by simpa [Row.entries] using he
        simp [Db.subscription?, lookup_isSome_of_mem (Db.subscription_mem_rows.1 hrow)] at h
    | _ => simp [Row.entries, PaymentIntent.entries] at he

/-! ### Inserts -/

theorem entering_part (B : Upkeep (keys.contract kept reg) t N F) {α : Type} {p : Prog α}
    (hp : p.Every (Mild fun _ => False)) :
    Triple (keys.contract kept reg) t (Books t (Entering t F looked entries)) p
      (fun _ => Books t (Entering t F looked entries)) fun _ _ => True :=
  ((enteringUpkeep B).every hp).conseq (fun _ => id) (fun _ _ => id) fun _ _ _ => trivial

/-- A row whose entries were found free may be inserted. -/
theorem enters_of_entering {w : Write} (row : Row) {s : Store}
    (hs : Entering t F (fun _ => True) entries s)
    (hrows : ∀ d : Db, (w.apply d).rows.Perm (row :: d.rows))
    (hneeds : ∀ e ∈ row.entries, (e, .update) ∈ w.needs) (hentries : row.entries ⊆ entries) :
    keys.Enters w (s.view t) :=
  enters_insert (hrows _) hneeds fun e he k => (hs.2 e (hentries he)).2 k trivial

theorem insert_entering (B : Upkeep (keys.contract kept reg) t N F) {w : Write} (row : Row)
    (hrows : ∀ d : Db, (w.apply d).rows.Perm (row :: d.rows))
    (hneeds : ∀ e ∈ row.entries, (e, .update) ∈ w.needs) (hentries : row.entries ⊆ entries) :
    Triple (keys.contract kept reg) t (Books t (Entering t F (fun _ => True) entries)) (.write w)
      (fun _ => Books t fun _ => True) fun _ _ => True :=
  .write (enteringUpkeep B).books_stable fun _ _ hs hd =>
    ⟨enters_of_entering row (hs.resolve_left (by simp [hd])) hrows hneeds hentries,
      fun _ => .inr trivial⟩

theorem intent?_of_free {s : Store} {id : String} (h : keys.Free t (fun _ => True) (.intent id) s) :
    (s.view t).intent? id = none := by
  cases hrow : (s.view t).intent? id with
  | none => rfl
  | some row =>
      have hid : row.intentId = id := key_of_lookup hrow
      refine (h.2 (.intent id) trivial (mem_entriesAt.2
        ⟨.intent row, Db.intent_mem_rows.2 (mem_of_lookup hrow), congrArg _ hid, ?_⟩)).elim
      simp [Row.entries, PaymentIntent.entries, hid]

/-- A new intent is held until the session ends its transaction. -/
theorem addIntent_enters (row : PaymentIntent) :
    Triple (keys.contract kept reg) t (Books t fun _ => True) (addIntent row)
      (fun _ => Books t (LockedRow t row)) fun _ _ => True := by
  have B : Upkeep (keys.contract kept reg) t Write.makesNone fun _ => True := (keyLedger t).toUpkeep
  refine .pre (P := Books t (Entering t (fun _ => True) (fun _ => True) [])) ?_
    fun _ => entering_nil
  refine .bind (enterUnique_entering B fun d => intent_free) fun _ =>
    .bind (enterUnique_entering B fun d => intentOrder_free) fun _ =>
    .bind (forEach_entering fun md5 _ entries => enterUnique_entering B fun d => intentMd5_free)
      fun _ =>
    .bind (forEach_entering fun key _ entries => enterUnique_entering B fun d => pending_free)
      fun _ =>
    .bind (entering_part B (referenceUser_mild _)) fun _ =>
    .bind (entering_part B (referenceTitle_mild _ _)) fun _ =>
    .bind (entering_part B (referenceTitle_mild _ _)) fun _ => ?_
  refine .write (enteringUpkeep B).books_stable fun s _ hs hd => ?_
  have hentering := hs.resolve_left (by simp [hd])
  refine ⟨enters_of_entering (.intent row) hentering (fun d => ?_) (fun e he => ?_)
    fun e he => ?_, fun _ => .inr ⟨?_, ?_⟩⟩
  · simp [Write.apply, Db.rows, List.perm_middle]
  · rcases PaymentIntent.mem_entries.1 he with rfl | rfl | ⟨md5, hmd5, rfl⟩ | ⟨key, hkey, rfl⟩
    · simp [Write.needs]
    · simp [Write.needs]
    · simp [Write.needs, hmd5]
    · simp [Write.needs, PaymentIntent.indexEntries, hkey]
  · rcases PaymentIntent.mem_entries.1 he with rfl | rfl | ⟨md5, hmd5, rfl⟩ | ⟨key, hkey, rfl⟩
    · simp
    · simp
    · simp [hmd5]
    · simp [hkey]
  · exact Store.holds_record.2 (Store.holds_acquire.2 (.inl ⟨rfl, by simp [Write.needs]⟩))
  · have hnone : (s.view t).intent? row.intentId = none :=
      intent?_of_free (hentering.2 (.intent row.intentId) (by simp))
    rw [Store.record_view, Store.acquire_view, Store.begin_view, apply_eq, Write.intent?_apply,
      hnone]
    simp [Write.onIntent]

theorem insertReceipt_enters (title : Title) (row : Receipt) :
    Triple (keys.contract kept reg) t (Books t fun _ => True) (insertReceipt title row)
      (fun _ => Books t fun _ => True) fun _ _ => True := by
  have B : Upkeep (keys.contract kept reg) t Write.makesNone fun _ => True := (keyLedger t).toUpkeep
  refine .pre (P := Books t (Entering t (fun _ => True) (fun _ => True) [])) ?_
    fun _ => entering_nil
  refine .bind (enter_entering B fun d => receipt_free) fun entered => ?_
  cases entered with
  | false => exact .ret fun _ _ => .inr trivial
  | true =>
      refine .bind (enterUnique_entering B fun d => receiptOrder_free) fun _ =>
        .bind (entering_part B (referenceUser_mild _)) fun _ =>
        .bind (entering_part B (referenceTitle_mild _ _)) fun _ =>
          insert_entering B (.receipt title row) (fun d => ?_) (fun e he => ?_)
            fun e he => ?_
      · refine List.perm_iff_count.2 fun r => ?_
        cases title <;> simp [Write.apply, Db.mapReceipts, Db.rows, List.count_cons] <;> omega
      · simp only [Row.entries, List.mem_cons, List.not_mem_nil, or_false] at he
        rcases he with rfl | rfl <;> simp [Write.needs]
      · simp only [Row.entries, List.mem_cons, List.not_mem_nil, or_false] at he
        rcases he with rfl | rfl <;> simp

theorem insertPayment_enters (row : SubscriptionPayment) :
    Triple (keys.contract kept reg) t (Books t fun _ => True) (insertPayment row)
      (fun _ => Books t fun _ => True) fun _ _ => True := by
  have B : Upkeep (keys.contract kept reg) t Write.makesNone fun _ => True := (keyLedger t).toUpkeep
  refine .pre (P := Books t (Entering t (fun _ => True) (fun _ => True) [])) ?_
    fun _ => entering_nil
  refine .bind (enter_entering B fun d => payment_free) fun entered => ?_
  cases entered with
  | false => exact .ret fun _ _ => .inr trivial
  | true =>
      refine .bind (enterUnique_entering B fun d => paymentOrder_free) fun _ =>
        insert_entering B (.payment row) (fun d => ?_) (fun e he => ?_) fun e he => ?_
      · refine List.perm_iff_count.2 fun r => ?_
        simp [Write.apply, Db.rows, List.count_cons]
        omega
      · simp only [Row.entries, List.mem_cons, List.not_mem_nil, or_false] at he
        rcases he with rfl | rfl <;> simp [Write.needs]
      · simp only [Row.entries, List.mem_cons, List.not_mem_nil, or_false] at he
        rcases he with rfl | rfl <;> simp

theorem saveSubscription_enters (subscription? : Option Subscription) (user : Option Uuid)
    (plan : String) (now periodEnd : Instant) :
    Triple (keys.contract kept reg) t (Books t fun _ => True)
      (saveSubscription subscription? user plan now periodEnd)
      (fun _ => Books t fun _ => True) fun _ _ => True := by
  have B : Ledger (keys.contract kept reg) t Write.makesNone fun _ => True := keyLedger t
  cases subscription? with
  | some row => exact .bind (B.part (.perform trivial)) fun _ => .ret fun _ hs => hs
  | none =>
      cases user with
      | none => exact .bind (B.part (.perform trivial)) fun _ => .raise fun _ _ => trivial
      | some user =>
          refine .bind (B.partReads uuid4_reads) fun id => ?_
          refine .pre (P := Books t (Entering t (fun _ => True) (fun _ => True) [])) ?_
            fun _ => entering_nil
          refine .bind (enterUnique_entering B.toUpkeep fun d => subscription_free) fun _ =>
            .bind (entering_part B.toUpkeep (referenceUser_mild _)) fun _ =>
            .bind (insert_entering B.toUpkeep
              (.subscription ⟨id, user, plan, .active, now, periodEnd⟩)
              (fun d => ?_) (fun e he => ?_) fun e he => ?_) fun _ => .ret fun _ hs => hs
          · refine List.perm_iff_count.2 fun r => ?_
            simp [Write.apply, Db.rows, List.count_cons]
            omega
          · simp only [Row.entries, List.mem_cons, List.not_mem_nil, or_false] at he
            subst he
            simp [Write.needs]
          · simp only [Row.entries, List.mem_cons, List.not_mem_nil, or_false] at he
            subst he
            simp

/-! ### Updates -/

/-- The QR that replaces an intent's is one that no other intent has. -/
theorem PaymentIntent.withQr_entries {copy row : PaymentIntent} {md5 qr : String}
    {merchant : Option String} {at_ : Instant} {e : Key}
    (he : e ∈ (copy.withQr md5 qr merchant at_ row).entries) :
    e ∈ row.entries ∨ e = .intentMd5 md5 := by
  rcases mem_entries.1 he with rfl | rfl | ⟨md5', hmd5, rfl⟩ | ⟨key, hkey, rfl⟩
  · exact .inl (mem_entries.2 (.inl rfl))
  · exact .inl (mem_entries.2 (.inr (.inl rfl)))
  · rcases ite_eq_or_eq (some md5 = copy.bakongMd5) row.bakongMd5 (some md5) with hflush | hflush
    · exact .inl (mem_entries.2 (.inr (.inr (.inl ⟨md5', hflush.symm.trans hmd5, rfl⟩))))
    · exact .inr (congrArg _ (Option.some.inj (hflush.symm.trans hmd5)).symm)
  · exact .inl (mem_entries.2 (.inr (.inr (.inr ⟨key, hkey, rfl⟩))))

theorem regenerateBakongQr_enters (intent : PaymentIntent) :
    Triple (keys.contract kept reg) t (Books t fun _ => True) (regenerateBakongQr intent)
      (fun _ => Books t fun _ => True) fun _ _ => True := by
  have B : Ledger (keys.contract kept reg) t Write.makesNone fun _ => True := keyLedger t
  refine .bind (B.partReads generateKhqr_reads) fun khqr => ?_
  obtain ⟨qr, md5, merchant⟩ := khqr
  refine .bind (B.partReads utcNow_reads) fun now => ?_
  refine .pre (P := Books t (Entering t (fun _ => True) (· ≠ .intent intent.intentId) [])) ?_
    fun _ => entering_nil
  refine .bind (enterUnique_entering B.toUpkeep fun d => intentMd5_free_beside) fun _ => ?_
  refine .write (enteringUpkeep B.toUpkeep).books_stable
    fun s _ hs hd => ⟨?_, fun _ => .inr trivial⟩
  obtain ⟨-, hfree⟩ := hs.resolve_left (by simp [hd])
  refine enters_mapIntent rfl
    (fun row => intent.withQr_intentId row md5 qr (intent.merchantAfter merchant) now)
    fun row _ _ e he => (PaymentIntent.withQr_entries he).imp_right ?_
  rintro rfl
  exact ⟨by simp [Write.needs], (hfree (.intentMd5 md5) (by simp)).2⟩

/-- The session holds the intent, and reads it as `row`. -/
def HeldIntent (t : Tid) (row : PaymentIntent) (s : Store) : Prop :=
  s.Holds t (.intent row.intentId) .noKeyUpdate ∧ (s.view t).intent? row.intentId = some row

theorem heldUpkeep (t : Tid) (row : PaymentIntent) :
    Upkeep (keys.contract kept reg) t (fun _ => False) (HeldIntent t row) where
  stable := ⟨fun hb hs => ⟨hb.holds_iff.2 hs.1,
    ((hb.agree_view hs.1) (by decide)).symm.trans hs.2⟩⟩
  quiet hq _ hs := ⟨hq.holds hs.1, by rw [hq.view]; exact hs.2⟩
  mild := keyObl_of_mild
  write _ := False.elim

theorem claimIntent_enters (user : Uuid) (row : PaymentIntent) :
    Triple (keys.contract kept reg) t (Books t (HeldIntent t row)) (claimIntent user row)
      (fun _ => Books t fun _ => True) fun _ _ => True := by
  have B : Upkeep (keys.contract kept reg) t (fun _ => False) (HeldIntent t row) := heldUpkeep t row
  refine .pre (P := Books t (Entering t (HeldIntent t row) (· ≠ .intent row.intentId) [])) ?_
    fun _ => entering_nil
  refine .bind (forEach_entering fun key _ entries =>
      enterUnique_entering B fun d => pending_free_beside) fun _ =>
    .bind (entering_part B (referenceUser_mild _)) fun _ => ?_
  refine .write (enteringUpkeep B).books_stable fun s hc hs hd => ⟨?_, fun _ => .inr trivial⟩
  obtain ⟨⟨-, hrow⟩, hfree⟩ := hs.resolve_left (by simp [hd])
  refine enters_mapIntent rfl (fun row => row.claimed_intentId user)
    fun row' hrow' hid e he => ?_
  obtain rfl : row' = row := Row.intent.inj
    ((rowsApart_of_sole (hc.inv.view t)).apart _ (Db.intent_mem_rows.2 hrow') _
      (Db.intent_mem_rows.2 (mem_of_lookup hrow)) (.intent row.intentId)
      (by simp [Row.entries, PaymentIntent.entries, hid])
      (by simp [Row.entries, PaymentIntent.entries]))
  rcases PaymentIntent.mem_entries.1 he with rfl | rfl | ⟨md5, hmd5, rfl⟩ | ⟨key, hkey, rfl⟩
  · exact .inl (PaymentIntent.mem_entries.2 (.inl rfl))
  · exact .inl (PaymentIntent.mem_entries.2 (.inr (.inl rfl)))
  · exact .inl (PaymentIntent.mem_entries.2 (.inr (.inr (.inl ⟨md5, hmd5, rfl⟩))))
  · refine .inr ⟨by simp [Write.needs, PaymentIntent.indexEntries, hkey], ?_⟩
    exact (hfree (.pending key) (by simp [hkey])).2

theorem claimIntents_enters (user : Uuid) (guest : String) :
    Triple (keys.contract kept reg) t (Books t fun _ => True) (claimIntents user guest)
      (fun _ => Books t fun _ => True) fun _ _ => True := by
  have B : Ledger (keys.contract kept reg) t Write.makesNone fun _ => True := keyLedger t
  refine .bind (B.part (.perform trivial)) fun snapshot => .forEach fun id _ => ?_
  refine .bind (.lock (Q := fun _ s => s.Holds t (.intent id) .noKeyUpdate) B.books_stable
    fun s _ _ _ => ⟨trivial, fun _ => by simp⟩) fun _ => ?_
  refine .bind (.select (Q := fun row? => Books t fun s => ∀ row, row? = some row →
    HeldIntent t row s) (.holds _ _) fun s _ hs _ => ⟨trivial, .inr fun row hrow => ?_⟩)
      fun row? => ?_
  · have hid : row.intentId = id := key_of_lookup hrow
    exact ⟨hid ▸ hs, hid ▸ hrow⟩
  · split
    · next row hfilter =>
        exact (claimIntent_enters user row).pre fun s hs =>
          hs.imp_right fun hs => hs row (Option.filter_eq_some_iff.1 hfilter).1
    · exact .ret fun _ _ => .inr trivial

theorem signIn_enters (user : Uuid) (guest : Option String) :
    Triple (keys.contract kept reg) t (Books t fun _ => True) (signIn user guest)
      (fun _ => Books t fun _ => True) fun _ _ => True := by
  have B : Ledger (keys.contract kept reg) t Write.makesNone fun _ => True := keyLedger t
  have hclaim : ∀ title guest, (claimReceipts title user guest).Every (Mild Write.makesNone) :=
    fun title guest => by
      refine (eachReceipt_plain _ _ _ fun row => ?_).mono fun _ => Plain.mild _
      exact .bind (referenceUser_plain _) fun _ => .perform trivial
  refine .bind (Q := fun _ => Books t fun _ => True) ?_ fun _ => B.commitStmt
  unfold claimGuestPurchases
  split
  · exact .ret fun _ hs => hs
  · exact .bind (B.part (hclaim .movie _)) fun _ => .bind (B.part (hclaim .series _)) fun _ =>
      claimIntents_enters user _

/-! ### Fulfilments -/

theorem grant_enters (intent : PaymentIntent) (now : Instant) (bank : Option String) :
    Triple (keys.contract kept reg) t (Books t fun _ => True) (grant intent now bank)
      (fun _ => Books t fun _ => True) fun _ _ => True := by
  have B : Ledger (keys.contract kept reg) t Write.makesNone fun _ => True := keyLedger t
  have htitle : ∀ title id, Triple (keys.contract kept reg) t (Books t fun _ => True)
      (grantTitle title id intent bank) (fun _ => Books t fun _ => True) fun _ _ => True := by
    intro title id
    refine .bind (B.part (.perform trivial)) fun found => ?_
    cases found with
    | true => exact .ret fun _ hs => hs
    | false =>
        exact .bind (insertReceipt_enters title _) fun _ =>
          B.partReads (notifyPaymentSucceeded_reads _ _)
  unfold grant
  split
  · split
    · exact htitle .movie _
    · exact B.partReads (notifyPaymentSucceeded_reads _ _)
  · split
    · exact htitle .series _
    · exact B.partReads (notifyPaymentSucceeded_reads _ _)
  · refine .bind (B.part (.perform trivial)) fun found => ?_
    cases found with
    | true => exact .ret fun _ hs => hs
    | false =>
        exact .bind (B.part (lockBuyer_mild _)) fun _ =>
          .bind (B.partReads (resolvePlanForSubscriptionIntent_reads intent)) fun plan =>
          .bind (B.part (lockSubscription_mild _)) fun subscription? =>
          .bind (saveSubscription_enters subscription? _ _ _ _) fun _ =>
          .bind (insertPayment_enters _) fun _ =>
            B.partReads (notifyPaymentSucceeded_reads _ _)

theorem keyOpenings (t : Tid) :
    Openings (keys.contract kept reg) t Write.makesNone fun _ => True where
  toLedger := keyLedger t
  fulfill intent bank :=
    (keyLedger t).fulfillPaymentIntent (P := fun _ _ => Books t fun _ => True) intent bank
      (fun locked now _ _ _ _ _ _ _ =>
        ⟨(show (Write.resolveIntent locked .succeeded (some now)).makesNone from trivial).enters _,
          .inr trivial⟩)
      fun _ now _ => (grant_enters _ now bank).conseq (fun _ => id) (fun _ _ => id)
        fun _ _ _ => trivial
  add row _ := (addIntent_enters row).conseq (fun _ => id) (fun _ _ _ => .inr trivial)
    fun _ _ _ => .inr trivial
  regenerate pending := regenerateBakongQr_enters pending

theorem request_enters (cfg : Settings) (request : Request) :
    Triple (keys.contract kept reg) t (Books t fun _ => True) (request.prog cfg)
      (fun _ => Books t fun _ => True) fun _ _ => True := by
  cases h : request.isCheckout with
  | true => exact (keyOpenings t).request cfg (fun _ => trivial) h fun _ _ _ _ => trivial
  | false =>
      by_cases hsign : ∃ user guest, request = .signIn user guest
      · obtain ⟨user, guest, rfl⟩ := hsign
        exact (keyLedger t).closing (signIn_enters user guest)
      · refine (keyLedger t).catalogRequest cfg (fun w hw => ?_) h
          (fun user guest he => hsign ⟨user, guest, he⟩) fun _ _ _ => trivial
        cases w <;> first | exact hw.elim | trivial

end

/-! ## Whole runs -/

theorem unique_insertOrUpdate {ρ κ : Type} [DecidableEq κ] {key : ρ → κ}
    {row : ρ} {rows : List ρ} (h : Sql.Unique key rows) :
    Sql.Unique key (insertOrUpdate key row rows) := by
  unfold insertOrUpdate
  split
  · exact h.modify fun _ _ => rfl
  · next hnone => exact h.append (by simpa using hnone)

/-- No write takes a key twice in the tables that it merges rows into. -/
theorem Write.apply_unique (w : Write) {d : Db} (husers : Sql.Unique User.id d.users)
    (hcontents : Sql.Unique Content.id d.contents)
    (hplans : Sql.Unique SubscriptionPlan.code d.plans) :
    Sql.Unique User.id (w.apply d).users ∧ Sql.Unique Content.id (w.apply d).contents ∧
      Sql.Unique SubscriptionPlan.code (w.apply d).plans := by
  cases w with
  | putPlan row => exact ⟨husers, hcontents, unique_insertOrUpdate hplans⟩
  | putContent row => exact ⟨husers, unique_insertOrUpdate hcontents, hplans⟩
  | deletePlan code => exact ⟨husers, hcontents, hplans.remove⟩
  | deleteTitle title id =>
      cases title with
      | movie => exact ⟨husers, hcontents.remove, hplans⟩
      | series => exact ⟨husers, hcontents, hplans⟩
  | insertReceipt title | claimReceipt title | deleteReceipt title =>
      cases title <;> exact ⟨husers, hcontents, hplans⟩
  | _ => exact ⟨husers, hcontents, hplans⟩

/-- However its sessions interleave, a run that starts with unique keys has them at every
committed state. -/
theorem legal_run (cfg : Settings) {d : Db} (hd : d.Legal) (world : World)
    (requests : Tid → Request) {reg : Regime} {q : Pool}
    (hq : Pool.Run reg (start cfg d world requests) q) : q.store.db.Legal := by
  have hsole : keys.Sole d := sole_of_rowsApart hd.rowsApart
  have hsound : (keys.contract (fun _ => False) reg).Sound reg :=
    keys.contract_sound fun _ _ _ hkept => hkept.elim
  have hstart : Pool.Keeps (keys.contract (fun _ => False) reg) (fun _ _ => True)
      (fun t _ s => s.doomed t = true ∨ True) (start cfg d world requests) :=
    Pool.Keeps.start (UniqueIndex.Orderly.idle keys hsole _ _) fun t =>
      (request_enters cfg (requests t)).conseq (fun _ _ => .inr trivial)
        (fun _ _ _ => trivial) fun _ _ _ => trivial
  have hkeeps := (hstart.run hsound (fun _ => .pure True)
    (fun _ _ => .or (.doomed true) (.pure True)) hq).1
  obtain ⟨husers, hcontents, hplans⟩ := Pool.db_of_writes
    (P := fun d : Db => Sql.Unique User.id d.users ∧ Sql.Unique Content.id d.contents ∧
      Sql.Unique SubscriptionPlan.code d.plans)
    (fun w d h => w.apply_unique h.1 h.2.1 h.2.2) hq ⟨hd.users, hd.contents, hd.plans⟩
  exact (rowsApart_of_sole hkeeps.calm.inv.db).legal husers hcontents hplans

namespace Shop

/-- The shop before its first intent. -/
def emptied : Db := { db with intents := [] }

theorem emptied_legal : emptied.Legal := by
  have hkeys : Sql.Unique User.id emptied.users ∧ Sql.Unique Content.id emptied.contents := by
    unfold Sql.Unique
    decide
  exact ⟨hkeys.1, hkeys.2, List.nodup_nil, List.nodup_nil, List.nodup_nil, by simp [emptied],
    by simp [emptied], fun title => by cases title <;> exact List.nodup_nil,
    fun title => by cases title <;> exact List.nodup_nil, List.nodup_nil, List.nodup_nil,
    List.nodup_nil⟩

/-- A guest checks the movie out twice, then signs in. -/
def browsing : Tid → Request
  | 2 => .signIn 1 (some "visitor")
  | _ => .checkoutMovie 10 none (some "visitor")

/-- Both checkouts have looked for a pending intent before either commits one. -/
theorem legal_run_browsing : ∃ q, Pool.Run .any (start .default emptied world browsing) q ∧
    q.store.db.intents.map PaymentIntent.userId = [some 1] ∧ q.store.db.Legal := by
  have hplay : (Pool.play .any (start .default emptied world browsing)
      (runs 0 2 ++ runs 1 2 ++ runs 0 17 ++ runs 1 13 ++ runs 2 11)).any
        (fun p => decide (p.store.db.intents.map PaymentIntent.userId = [some 1])) = true := by
    decide +kernel
  obtain ⟨q, hq, husers⟩ := Pool.exists_run_of_play hplay
  exact ⟨q, hq, of_decide_eq_true husers, legal_run .default emptied_legal world browsing hq⟩

end Shop

end MovieApi.Billing
