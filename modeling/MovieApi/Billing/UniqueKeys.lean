import MovieApi.Billing.Calls
import MovieApi.ReadCommitted.UniqueIndex

/-!
# Unique keys of the billing tables

The primary keys and the unique indexes, the partial ones on pending Bakong intents among
them, as entries of the rows; which entries each write makes, and under which locks.
-/

namespace MovieApi.Billing

open ReadCommitted ReadCommitted.Prog Sql

/-! ## The entries of the rows -/

def PaymentIntent.entries (row : PaymentIntent) : List Key :=
  [.intent row.intentId, .intentOrder row.orderId] ++ (row.bakongMd5.map Key.intentMd5).toList ++
    row.pendingKeys.map Key.pending

/-- A row of a table with unique keys. -/
inductive Row where
  | intent (row : PaymentIntent)
  | receipt (title : Title) (row : Receipt)
  | subscription (row : Subscription)
  | payment (row : SubscriptionPayment)
deriving DecidableEq

/-- The key whose lock protects the row. -/
def Row.key : Row → Key
  | .intent row => .intent row.intentId
  | .receipt title row => .receipt title row.intentId
  | .subscription row => .subscription row.userId
  | .payment row => .payment row.intentId

/-- What the row has in the primary keys and the unique indexes. -/
def Row.entries : Row → List Key
  | .intent row => row.entries
  | .receipt title row => [.receipt title row.intentId, .receiptOrder title row.orderId]
  | .subscription row => [.subscription row.userId]
  | .payment row => [.payment row.intentId, .paymentOrder row.orderId]

namespace Db

def rows (d : Db) : List Row :=
  d.intents.map Row.intent ++ d.purchases.map (Row.receipt .movie) ++
    d.seriesPurchases.map (Row.receipt .series) ++ d.subscriptions.map Row.subscription ++
    d.subscriptionPayments.map Row.payment

def entries (d : Db) : List Key := d.rows.flatMap Row.entries

/-- The rows that a lock on the key protects. -/
def under (d : Db) (k : Key) : Db :=
  { Db.empty with
    intents := d.intents.filter fun row => decide (.intent row.intentId = k)
    purchases := d.purchases.filter fun row => decide (.receipt .movie row.intentId = k)
    seriesPurchases :=
      d.seriesPurchases.filter fun row => decide (.receipt .series row.intentId = k)
    subscriptions := d.subscriptions.filter fun row => decide (.subscription row.userId = k)
    subscriptionPayments :=
      d.subscriptionPayments.filter fun row => decide (.payment row.intentId = k) }

theorem rows_under (d : Db) (k : Key) :
    (d.under k).rows = d.rows.filter fun row => decide (row.key = k) := by
  simp only [rows, under, List.filter_append, List.filter_map]
  rfl

@[simp] theorem intent_mem_rows {d : Db} {row : PaymentIntent} :
    .intent row ∈ d.rows ↔ row ∈ d.intents := by simp [rows]

@[simp] theorem receipt_mem_rows {d : Db} {title : Title} {row : Receipt} :
    .receipt title row ∈ d.rows ↔ row ∈ d.receipts title := by
  cases title <;> simp [rows, receipts]

@[simp] theorem subscription_mem_rows {d : Db} {row : Subscription} :
    .subscription row ∈ d.rows ↔ row ∈ d.subscriptions := by simp [rows]

@[simp] theorem payment_mem_rows {d : Db} {row : SubscriptionPayment} :
    .payment row ∈ d.rows ↔ row ∈ d.subscriptionPayments := by simp [rows]

end Db

theorem PaymentIntent.pendingKeys_nodup (row : PaymentIntent) : row.pendingKeys.Nodup := by
  have htitle : ∀ title, (row.titleKeys title).Nodup := fun title => by
    unfold titleKeys
    cases row.titleId title <;> cases row.userId <;> cases row.guestId <;> simp
  unfold pendingKeys
  repeat' split
  all_goals simp [htitle]

theorem Row.entries_nodup (row : Row) : row.entries.Nodup := by
  cases row with
  | intent row =>
      have hpending : (row.pendingKeys.map Key.pending).Nodup :=
        row.pendingKeys_nodup.map fun _ _ h => Key.pending.inj h
      cases h : row.bakongMd5 <;>
        simp [entries, PaymentIntent.entries, h, hpending]
  | _ => simp [entries]

theorem Row.key_mem_entries (row : Row) : row.key ∈ row.entries := by
  cases row <;> simp [key, entries, PaymentIntent.entries]

theorem Db.under_mapIntent {d : Db} {id : String} {f : PaymentIntent → PaymentIntent}
    (hf : ∀ row, (f row).intentId = row.intentId) (k : Key) :
    (d.mapIntent id f).under k = ((d.under k).mapIntent id f).under k := by
  simp only [under, mapIntent, Db.empty, List.filter_filter, Bool.and_self]
  rw [filter_modify_filter fun row _ => by rw [hf]]

/-- What a write does under a key, it does whatever the other rows are. -/
theorem Write.under_apply (w : Write) (d : Db) (k : Key) :
    (w.apply d).under k = (w.apply (d.under k)).under k := by
  cases w with
  | resolveIntent copy outcome at_ =>
      exact Db.under_mapIntent (fun row => copy.resolve_intentId row outcome at_) k
  | replaceQr copy md5 qr merchant at_ =>
      exact Db.under_mapIntent (fun row => copy.withQr_intentId row md5 qr merchant at_) k
  | claimIntent row user =>
      exact Db.under_mapIntent (fun row => row.claimed_intentId user) k
  | clearTitle title id => exact Db.under_mapIntent (fun row => row.cleared_intentId title) k
  | insertReceipt title row => cases title <;> simp [Write.apply, Db.under, Db.mapReceipts]
  | claimReceipt title id user =>
      cases title <;>
        simp only [Write.apply, Db.under, Db.mapReceipts, Db.empty, List.filter_filter,
          Bool.and_self] <;>
        rw [filter_modify_filter (f := fun row : Receipt => row.claimed user) fun row _ => rfl]
  | deleteReceipt title id =>
      cases title <;> simp [Write.apply, Db.under, Db.mapReceipts, filter_remove]
  | deleteIntent id => simp [Write.apply, Db.under, filter_remove]
  | updateSubscription row =>
      simp only [Write.apply, Db.under, Db.empty, List.filter_filter, Bool.and_self]
      rw [filter_modify_filter fun row' h => by rw [h]]
  | deleteTitle title id => cases title <;> simp [Write.apply, Db.under]
  | _ => simp [Write.apply, Db.under]

theorem Db.under_mapIntent_of_ne {d : Db} {id : String} {f : PaymentIntent → PaymentIntent}
    (hf : ∀ row, (f row).intentId = row.intentId) {k : Key} (hk : .intent id ≠ k) :
    (d.mapIntent id f).under k = d.under k := by
  simp only [under, mapIntent]
  rw [filter_modify_of_off (fun row _ => by rw [hf]) fun row h => by simp [h, hk]]

/-- What a write does not lock, it leaves alone. -/
theorem Write.under_apply_of_leaves (w : Write) (d : Db) {k : Key} (h : Leaves Db w k) :
    (w.apply d).under k = d.under k := by
  have hk : ∀ k', (k', .noKeyUpdate) ∈ w.needs ∨ (k', .update) ∈ w.needs → k' ≠ k := by
    rintro k' hneeds rfl
    exact hneeds.elim h.1 h.2
  cases w with
  | resolveIntent copy outcome at_ =>
      exact Db.under_mapIntent_of_ne (fun row => copy.resolve_intentId row outcome at_)
        (hk (.intent copy.intentId) (.inl (by simp [Write.needs])))
  | replaceQr copy md5 qr merchant at_ =>
      exact Db.under_mapIntent_of_ne (fun row => copy.withQr_intentId row md5 qr merchant at_)
        (hk (.intent copy.intentId) (.inl (by simp [Write.needs])))
  | claimIntent row user =>
      exact Db.under_mapIntent_of_ne (fun row => row.claimed_intentId user)
        (hk (.intent row.intentId) (.inl (by simp [Write.needs])))
  | clearTitle title id =>
      exact Db.under_mapIntent_of_ne (fun row => row.cleared_intentId title)
        (hk _ (.inl (by simp [Write.needs])))
  | insertIntent row =>
      have hne := hk (.intent row.intentId) (.inr (by simp [Write.needs]))
      simp [Write.apply, Db.under, hne]
  | insertReceipt title row =>
      have hne := hk (.receipt title row.intentId) (.inr (by simp [Write.needs]))
      cases title <;> simp [Write.apply, Db.under, Db.mapReceipts, hne]
  | insertSubscription row =>
      have hne := hk (.subscription row.userId) (.inr (by simp [Write.needs]))
      simp [Write.apply, Db.under, hne]
  | insertPayment row =>
      have hne := hk (.payment row.intentId) (.inr (by simp [Write.needs]))
      simp [Write.apply, Db.under, hne]
  | claimReceipt title id user =>
      have hne := hk (.receipt title id) (.inl (by simp [Write.needs]))
      cases title <;> simp only [Write.apply, Db.under, Db.mapReceipts] <;>
        rw [filter_modify_of_off (f := fun row : Receipt => row.claimed user) (fun _ _ => rfl)
          fun row h => by simp [h, hne]]
  | deleteReceipt title id =>
      have hne := hk (.receipt title id) (.inr (by simp [Write.needs]))
      cases title <;> simp only [Write.apply, Db.under, Db.mapReceipts] <;>
        rw [filter_remove_of_off fun row h => by simp [h, hne]]
  | deleteIntent id =>
      have hne := hk (.intent id) (.inr (by simp [Write.needs]))
      simp only [Write.apply, Db.under]
      rw [filter_remove_of_off fun row h => by simp [h, hne]]
  | updateSubscription row =>
      have hne := hk (.subscription row.userId) (.inl (by simp [Write.needs]))
      simp only [Write.apply, Db.under]
      rw [filter_modify_of_off (fun row' h => by rw [h]) fun row' h => by simp [h, hne]]
  | deleteTitle title id => cases title <;> rfl
  | _ => rfl

/-- The primary keys and the unique indexes of the billing tables. -/
def keys : UniqueIndex Db Key Write where
  Rows := Db
  part k :=
    { key := k
      read := fun d => d.under k
      read_congr := fun w d d' h => by
        rw [apply_eq, apply_eq, w.under_apply d, w.under_apply d', h]
      read_apply := fun w d h => w.under_apply_of_leaves d h }
  part_key _ := rfl
  entries := Db.entries

theorem entriesAt_eq (d : Db) (k : Key) : keys.entriesAt d k =
    (d.rows.filter fun row => decide (row.key = k)).flatMap Row.entries := by
  rw [← d.rows_under]
  rfl

theorem mem_entriesAt {d : Db} {k e : Key} :
    e ∈ keys.entriesAt d k ↔ ∃ row ∈ d.rows, row.key = k ∧ e ∈ row.entries := by
  simp [entriesAt_eq, and_assoc]

/-- No two rows have an entry in common. -/
structure Db.RowsApart (d : Db) : Prop where
  nodup : (d.rows.map Row.key).Nodup
  apart : ∀ row ∈ d.rows, ∀ row' ∈ d.rows, ∀ e ∈ row.entries, e ∈ row'.entries → row = row'

theorem length_le_one_of_nodup_flatMap {ρ κ : Type} {f : ρ → List κ} {rows : List ρ} {k : κ}
    (h : (rows.flatMap f).Nodup) (hk : ∀ r ∈ rows, k ∈ f r) : rows.length ≤ 1 := by
  match rows, h, hk with
  | [], _, _ => simp
  | [_], _, _ => simp
  | r :: r' :: rows, h, hk =>
      have hdisjoint := (List.nodup_flatMap.1 h).2
      exact (List.rel_of_pairwise_cons hdisjoint (by simp) (hk r (by simp))
        (hk r' (by simp))).elim

theorem rowsApart_of_sole {d : Db} (h : keys.Sole d) : d.RowsApart := by
  have hnodup : (d.rows.map Row.key).Nodup := by
    refine List.nodup_iff_count_le_one.2 fun k => ?_
    rw [List.count_eq_countP, List.countP_map, List.countP_eq_length_filter]
    refine length_le_one_of_nodup_flatMap (k := k) (entriesAt_eq d k ▸ h.nodup k)
      fun row hrow => ?_
    rw [← of_decide_eq_true (List.mem_filter.1 hrow).2]
    exact row.key_mem_entries
  refine ⟨hnodup, fun row hrow row' hrow' e he he' => ?_⟩
  have hkey : row.key = row'.key :=
    h.apart (mem_entriesAt.2 ⟨row, hrow, rfl, he⟩) (mem_entriesAt.2 ⟨row', hrow', rfl, he'⟩)
  exact List.inj_on_of_nodup_map hnodup hrow hrow' hkey

theorem nodup_entriesAt {d : Db} (h : (d.rows.map Row.key).Nodup) (k : Key) :
    (keys.entriesAt d k).Nodup := by
  rw [entriesAt_eq]
  refine List.nodup_flatMap.2 ⟨fun row _ => row.entries_nodup, ?_⟩
  refine ((h.of_map).filter _).imp_of_mem fun hrow hrow' hne => (hne ?_).elim
  obtain ⟨hrow, hkey⟩ := List.mem_filter.1 hrow
  obtain ⟨hrow', hkey'⟩ := List.mem_filter.1 hrow'
  exact List.inj_on_of_nodup_map h hrow hrow'
    ((of_decide_eq_true hkey).trans (of_decide_eq_true hkey').symm)

theorem sole_of_rowsApart {d : Db} (h : d.RowsApart) : keys.Sole d where
  apart {k k' e} he he' := by
    obtain ⟨row, hrow, rfl, hmem⟩ := mem_entriesAt.1 he
    obtain ⟨row', hrow', rfl, hmem'⟩ := mem_entriesAt.1 he'
    rw [h.apart row hrow row' hrow' e hmem hmem']
  nodup := nodup_entriesAt h.nodup

theorem Db.Legal.nodup_rows {d : Db} (h : d.Legal) : (d.rows.map Row.key).Nodup := by
  have hreceipts : ∀ title, ((d.receipts title).map (Row.key ∘ Row.receipt title)).Nodup :=
    fun title => by
      simpa [Function.comp_def, Row.key] using
        (h.receipts title).map (f := Key.receipt title) fun _ _ he => (Key.receipt.inj he).2
  have hintents : (d.intents.map (Row.key ∘ Row.intent)).Nodup := by
    simpa [Function.comp_def, Row.key] using h.intents.map fun _ _ => Key.intent.inj
  have hsubscriptions : (d.subscriptions.map (Row.key ∘ Row.subscription)).Nodup := by
    simpa [Function.comp_def, Row.key] using h.subscriptions.map fun _ _ => Key.subscription.inj
  have hpayments : (d.subscriptionPayments.map (Row.key ∘ Row.payment)).Nodup := by
    simpa [Function.comp_def, Row.key] using h.payments.map fun _ _ => Key.payment.inj
  simp only [rows, List.map_append, List.map_map]
  refine (((hintents.append (hreceipts .movie) ?_).append (hreceipts .series) ?_).append
    hsubscriptions ?_).append hpayments ?_
  all_goals
    intro k hk hk'
    simp only [List.mem_append, List.mem_map, Function.comp_apply, Row.key] at hk hk'
    grind

theorem Db.Legal.rowsApart {d : Db} (h : d.Legal) : d.RowsApart where
  nodup := h.nodup_rows
  apart row hrow row' hrow' e he he' := by
    cases row <;> cases row' <;> cases e <;>
      simp only [Row.entries, PaymentIntent.entries, intent_mem_rows, receipt_mem_rows,
        subscription_mem_rows, payment_mem_rows, List.mem_append, List.mem_cons, List.mem_map,
        Option.mem_toList, Option.map_eq_some_iff, List.not_mem_nil, reduceCtorEq, or_false,
        false_or, and_false, exists_false, Key.intent.injEq, Key.intentOrder.injEq,
        Key.intentMd5.injEq, Key.pending.injEq, Key.receipt.injEq, Key.receiptOrder.injEq,
        Key.subscription.injEq, Key.payment.injEq, Key.paymentOrder.injEq, exists_eq_right]
        at hrow hrow' he he'
    case intent.intent.intent =>
      rw [List.inj_on_of_nodup_map h.intents hrow hrow' (he ▸ he')]
    case intent.intent.intentOrder =>
      rw [List.inj_on_of_nodup_map h.orders hrow hrow' (he ▸ he')]
    case intent.intent.intentMd5 => rw [h.md5s _ hrow _ hrow' _ he he']
    case intent.intent.pending => rw [h.pending _ hrow _ hrow' _ he he']
    case receipt.receipt.receipt =>
      obtain ⟨rfl, he⟩ := he
      obtain ⟨rfl, he'⟩ := he'
      rw [List.inj_on_of_nodup_map (h.receipts _) hrow hrow' (he ▸ he')]
    case receipt.receipt.receiptOrder =>
      obtain ⟨rfl, he⟩ := he
      obtain ⟨rfl, he'⟩ := he'
      rw [List.inj_on_of_nodup_map (h.receiptOrders _) hrow hrow' (he ▸ he')]
    case subscription.subscription.subscription =>
      rw [List.inj_on_of_nodup_map h.subscriptions hrow hrow' (he ▸ he')]
    case payment.payment.payment =>
      rw [List.inj_on_of_nodup_map h.payments hrow hrow' (he ▸ he')]
    case payment.payment.paymentOrder =>
      rw [List.inj_on_of_nodup_map h.paymentOrders hrow hrow' (he ▸ he')]

/-- A column whose values are entries is unique. -/
theorem Db.RowsApart.unique {d : Db} (h : d.RowsApart) {ρ κ : Type} [DecidableEq κ]
    {table : List ρ} {row : ρ → Row} (hnodup : (table.map row).Nodup)
    (hrows : ∀ r ∈ table, row r ∈ d.rows) (hinj : ∀ r r', row r = row r' → r = r')
    {column : ρ → κ} (entry : κ → Key) (hentry : ∀ r, entry (column r) ∈ (row r).entries) :
    Sql.Unique column table :=
  List.Nodup.map_on (fun r hr r' hr' he => hinj r r' (h.apart _ (hrows r hr) _ (hrows r' hr')
    (entry (column r)) (hentry r) (he ▸ hentry r'))) hnodup.of_map

theorem Db.RowsApart.legal {d : Db} (h : d.RowsApart) (husers : Sql.Unique User.id d.users)
    (hcontents : Sql.Unique Content.id d.contents)
    (hplans : Sql.Unique SubscriptionPlan.code d.plans) : d.Legal := by
  have hrows : d.rows.Nodup := h.nodup.of_map
  simp only [rows, List.nodup_append] at hrows
  obtain ⟨⟨⟨⟨hintents, hmovies, -⟩, hseries, -⟩, hsubscriptions, -⟩, hpayments, -⟩ := hrows
  have hreceipts : ∀ title, ((d.receipts title).map (Row.receipt title)).Nodup := fun title => by
    cases title
    · exact hmovies
    · exact hseries
  have hintent : ∀ row ∈ d.intents, Row.intent row ∈ d.rows := fun _ => intent_mem_rows.2
  have hreceipt : ∀ title, ∀ row ∈ d.receipts title, Row.receipt title row ∈ d.rows :=
    fun _ _ => receipt_mem_rows.2
  have hpayment : ∀ row ∈ d.subscriptionPayments, Row.payment row ∈ d.rows :=
    fun _ => payment_mem_rows.2
  refine ⟨husers, hcontents, hplans, ?_, ?_, ?_, ?_, ?_, ?_, ?_, ?_, ?_⟩
  · exact h.unique hintents hintent (fun _ _ => Row.intent.inj) Key.intent fun row => by
      simp [Row.entries, PaymentIntent.entries]
  · exact h.unique hintents hintent (fun _ _ => Row.intent.inj) Key.intentOrder fun row => by
      simp [Row.entries, PaymentIntent.entries]
  · intro row hrow row' hrow' key hkey hkey'
    exact Row.intent.inj (h.apart _ (hintent row hrow) _ (hintent row' hrow') (.pending key)
      (by simp [Row.entries, PaymentIntent.entries, hkey])
      (by simp [Row.entries, PaymentIntent.entries, hkey']))
  · intro row hrow row' hrow' md5 hmd5 hmd5'
    exact Row.intent.inj (h.apart _ (hintent row hrow) _ (hintent row' hrow') (.intentMd5 md5)
      (by simp [Row.entries, PaymentIntent.entries, hmd5])
      (by simp [Row.entries, PaymentIntent.entries, hmd5']))
  · exact fun title => h.unique (hreceipts title) (hreceipt title)
      (fun _ _ he => (Row.receipt.inj he).2) (Key.receipt title) fun row => by simp [Row.entries]
  · exact fun title => h.unique (hreceipts title) (hreceipt title)
      (fun _ _ he => (Row.receipt.inj he).2) (Key.receiptOrder title) fun row => by
        simp [Row.entries]
  · exact h.unique hsubscriptions (fun _ => subscription_mem_rows.2)
      (fun _ _ => Row.subscription.inj) Key.subscription fun row => by simp [Row.entries]
  · exact h.unique hpayments hpayment (fun _ _ => Row.payment.inj) Key.payment fun row => by
      simp [Row.entries]
  · exact h.unique hpayments hpayment (fun _ _ => Row.payment.inj) Key.paymentOrder fun row => by
      simp [Row.entries]

/-! ## The entries that a write makes -/

section

variable {w : Write} {d : Db}

theorem entriesAt_eq_index (d : Db) (k : Key) : keys.entriesAt d k =
    ((d.rows.map fun row => (row.key, row.entries)).filter fun row =>
      decide (row.1 = k)).flatMap Prod.snd := by
  rw [entriesAt_eq, List.filter_map, List.flatMap_map]
  rfl

/-- A write that leaves the entries of the rows alone, or takes rows away. -/
theorem enters_of_sublist
    (h : ((w.apply d).rows.map fun row => (row.key, row.entries)).Sublist
      (d.rows.map fun row => (row.key, row.entries))) : keys.Enters w d :=
  .of_sublist fun k => by
    rw [apply_eq, entriesAt_eq_index, entriesAt_eq_index]
    exact (h.filter _).flatMap _

theorem enters_of_eq
    (h : ((w.apply d).rows.map fun row => (row.key, row.entries)) =
      d.rows.map fun row => (row.key, row.entries)) : keys.Enters w d :=
  enters_of_sublist (by rw [h])

theorem enters_insert {row : Row} (hrows : (w.apply d).rows.Perm (row :: d.rows))
    (hneeds : ∀ e ∈ row.entries, (e, .update) ∈ w.needs)
    (hfree : ∀ e ∈ row.entries, ∀ k, e ∉ keys.entriesAt d k) : keys.Enters w d := by
  refine .of_insert row.key row.entries (fun k hk => ?_) ?_ row.entries_nodup
    fun e he => ⟨hneeds e he, hfree e he⟩
  · rw [apply_eq, entriesAt_eq, entriesAt_eq]
    refine ((hrows.filter _).flatMap_right _).trans ?_
    rw [List.filter_cons_of_neg (by simpa using Ne.symm hk)]
  · rw [apply_eq, entriesAt_eq, entriesAt_eq]
    refine ((hrows.filter _).flatMap_right _).trans ?_
    rw [List.filter_cons_of_pos (by simp), List.flatMap_cons]

theorem Db.map_key_rows_mapIntent (d : Db) (id : String) {f : PaymentIntent → PaymentIntent}
    (hf : ∀ row, (f row).intentId = row.intentId) :
    (d.mapIntent id f).rows.map Row.key = d.rows.map Row.key := by
  simp only [rows, mapIntent, List.map_append, List.map_map]
  rw [map_modify (g := Row.key ∘ Row.intent) fun row _ => congrArg Key.intent (hf row)]

/-- An update of one intent. -/
theorem enters_mapIntent {id : String} {f : PaymentIntent → PaymentIntent}
    (happly : w.apply d = d.mapIntent id f) (hf : ∀ row, (f row).intentId = row.intentId)
    (hnew : ∀ row ∈ d.intents, row.intentId = id → ∀ e ∈ (f row).entries, e ∈ row.entries ∨
      ((e, .update) ∈ w.needs ∧ ∀ k, k ≠ .intent id → e ∉ keys.entriesAt d k)) :
    keys.Enters w d := by
  refine .of_change (.intent id) (fun k hk => ?_) (fun e he => ?_) fun hd => ?_
  · rw [apply_eq, happly]
    exact .of_eq (congrArg Db.entries (Db.under_mapIntent_of_ne hf (Ne.symm hk)))
  · rw [apply_eq, happly] at he
    obtain ⟨row, hrow, hkey, he⟩ := mem_entriesAt.1 he
    cases row with
    | intent row =>
        obtain ⟨row', hrow', rfl⟩ := mem_modify.1 (Db.intent_mem_rows.1 hrow)
        have hid : row'.intentId = id := by
          by_contra h
          rw [if_neg h] at hkey
          exact h (Key.intent.inj hkey)
        rw [if_pos hid] at he
        refine (hnew row' hrow' hid e he).imp_left fun he => ?_
        exact mem_entriesAt.2 ⟨.intent row', Db.intent_mem_rows.2 hrow', congrArg _ hid, he⟩
    | _ => cases hkey
  · rw [apply_eq, happly]
    refine nodup_entriesAt ?_ _
    rw [d.map_key_rows_mapIntent id hf]
    exact (rowsApart_of_sole hd).nodup

/-- Rows taken from one table. -/
theorem Db.rows_sublist {d d' : Db} (hintents : d'.intents.Sublist d.intents)
    (hreceipts : ∀ title, (d'.receipts title).Sublist (d.receipts title))
    (hsubscriptions : d'.subscriptions.Sublist d.subscriptions)
    (hpayments : d'.subscriptionPayments.Sublist d.subscriptionPayments) :
    d'.rows.Sublist d.rows :=
  ((((hintents.map _).append ((hreceipts .movie).map _)).append ((hreceipts .series).map _)).append
    (hsubscriptions.map _)).append (hpayments.map _)

/-- A write that makes no entry. -/
def Write.makesNone : Write → Prop
  | .insertIntent _ => False
  | .replaceQr _ _ _ _ _ => False
  | .claimIntent _ _ => False
  | .insertReceipt _ _ => False
  | .insertSubscription _ => False
  | .insertPayment _ => False
  | _ => True

theorem PaymentIntent.mem_entries {row : PaymentIntent} {e : Key} : e ∈ row.entries ↔
    e = .intent row.intentId ∨ e = .intentOrder row.orderId ∨
      (∃ md5, row.bakongMd5 = some md5 ∧ .intentMd5 md5 = e) ∨
      ∃ key ∈ row.pendingKeys, .pending key = e := by
  simp [entries]

theorem PaymentIntent.entries_subset {row row' : PaymentIntent}
    (hid : row'.intentId = row.intentId) (horder : row'.orderId = row.orderId)
    (hmd5 : row'.bakongMd5 = row.bakongMd5) (hkeys : row'.pendingKeys ⊆ row.pendingKeys) :
    row'.entries ⊆ row.entries := by
  intro e he
  rw [mem_entries, hid, horder, hmd5] at he
  rw [mem_entries]
  exact he.imp_right (.imp_right (.imp_right fun ⟨key, hkey, he⟩ => ⟨key, hkeys hkey, he⟩))

theorem PaymentIntent.resolve_pendingKeys (copy row : PaymentIntent) (outcome : Outcome)
    (at_ : Option Instant) : (copy.resolve outcome at_ row).pendingKeys = [] := by
  simp [pendingKeys, resolve, outcome.status_ne_pending]

theorem PaymentIntent.cleared_pendingKeys (row : PaymentIntent) (title : Title) :
    (row.cleared title).pendingKeys ⊆ row.pendingKeys := by
  cases title <;> cases h : row.kind <;>
    simp [pendingKeys, cleared, h, titleKeys, titleId]

theorem PaymentIntent.cleared_orderId (row : PaymentIntent) (title : Title) :
    (row.cleared title).orderId = row.orderId := by
  cases title <;> rfl

theorem PaymentIntent.cleared_bakongMd5 (row : PaymentIntent) (title : Title) :
    (row.cleared title).bakongMd5 = row.bakongMd5 := by
  cases title <;> rfl

theorem Write.makesNone.enters (h : w.makesNone) (d : Db) : keys.Enters w d := by
  cases w with
  | resolveIntent copy outcome at_ =>
      have hsubset : ∀ row, (copy.resolve outcome at_ row).entries ⊆ row.entries := fun row =>
        PaymentIntent.entries_subset rfl rfl rfl (by rw [copy.resolve_pendingKeys]; simp)
      exact enters_mapIntent rfl (fun row => copy.resolve_intentId row outcome at_)
        fun row _ _ e he => .inl (hsubset row he)
  | clearTitle title id =>
      exact enters_mapIntent rfl (fun row => row.cleared_intentId title)
        fun row _ _ e he => .inl (PaymentIntent.entries_subset (row.cleared_intentId title)
          (row.cleared_orderId title) (row.cleared_bakongMd5 title)
          (row.cleared_pendingKeys title) he)
  | deleteIntent id =>
      exact enters_of_sublist (.map _ (Db.rows_sublist List.filter_sublist (fun _ => .refl _)
        (.refl _) (.refl _)))
  | deleteReceipt title id =>
      refine enters_of_sublist (.map _ (Db.rows_sublist ?_ (fun title' => ?_) ?_ ?_))
      · simp [Write.apply]
      · simp only [Write.apply, Db.receipts_mapReceipts]
        split
        · exact List.filter_sublist
        · exact .refl _
      · simp [Write.apply]
      · simp [Write.apply]
  | claimReceipt title id user =>
      refine enters_of_eq ?_
      cases title <;> simp only [Write.apply, Db.mapReceipts, Db.rows, List.map_append,
          List.map_map] <;>
        rw [map_modify (f := fun row : Receipt => row.claimed user) fun row _ => rfl]
  | updateSubscription row =>
      refine enters_of_eq ?_
      simp only [Write.apply, Db.rows, List.map_append, List.map_map]
      rw [map_modify fun row' h => ?_]
      simp [Row.key, Row.entries, h]
  | insertIntent | replaceQr | claimIntent | insertReceipt | insertSubscription | insertPayment =>
      exact h.elim
  | deleteTitle title id => cases title <;> exact enters_of_sublist (.refl _)
  | _ => exact enters_of_sublist (.refl _)

end

end MovieApi.Billing
