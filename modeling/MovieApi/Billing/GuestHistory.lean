import MovieApi.Billing.PaidTerms

/-!
# Claiming what a guest has bought

At sign-in the purchases and intents of a guest are moved to the account.  A pending intent
then takes an entry of the account in the partial unique indexes, and that entry may be taken:
by an intent of the account for the same title, or, for a plan, by another one of the guest.
-/

namespace MovieApi.Billing

open ReadCommitted ReadCommitted.Prog Sql

/-! ## What a pending intent is for -/

inductive Product where
  | oneTime (title : Title) (id : Uuid)
  | plan (code : String)
deriving DecidableEq, Repr

/-- The index entry of a user's pending intent for the product. -/
def Product.userKey (user : Uuid) : Product → PendingKey
  | .oneTime title id => .titleUser title user id
  | .plan code => .subUserPlan user code

namespace PaymentIntent

/-- What a pending Bakong intent is for. -/
def pendingFor (row : PaymentIntent) : Option Product :=
  if row.status = .pending ∧ row.method = .bakong then
    match row.kind with
    | .single => row.contentId.map (.oneTime .movie)
    | .series => row.seriesId.map (.oneTime .series)
    | .sub => row.planCode.map .plan
  else none

theorem titleKeys_claimed (row : PaymentIntent) (user : Uuid) (title : Title) :
    (row.claimed user).titleKeys title =
      ((row.titleId title).map (Product.oneTime title)).toList.map (Product.userKey user) := by
  have hid : (row.claimed user).titleId title = row.titleId title := by cases title <;> rfl
  unfold titleKeys
  rw [hid]
  cases row.titleId title with
  | none => rfl
  | some id => rfl

/-- A row that belongs to a user alone has one entry at most. -/
theorem pendingKeys_claimed (row : PaymentIntent) (user : Uuid) :
    (row.claimed user).pendingKeys = row.pendingFor.toList.map (Product.userKey user) := by
  have hstatus : (row.claimed user).status = row.status := rfl
  have hmethod : (row.claimed user).method = row.method := rfl
  have hkind : (row.claimed user).kind = row.kind := rfl
  unfold pendingKeys pendingFor
  rw [hstatus, hmethod, hkind]
  split
  · cases row.kind with
    | single => exact titleKeys_claimed row user .movie
    | series => exact titleKeys_claimed row user .series
    | sub =>
        have huser : (row.claimed user).userId = some user := rfl
        have hplan : (row.claimed user).planCode = row.planCode := rfl
        simp only [huser, hplan]
        cases row.planCode with
        | none => rfl
        | some code => rfl
  · rfl

theorem userKey_mem_titleKeys {row : PaymentIntent} {title : Title} {user : Uuid}
    {product : Product} : product.userKey user ∈ row.titleKeys title ↔
      (row.titleId title).map (Product.oneTime title) = some product ∧ row.userId = some user := by
  unfold titleKeys
  cases row.titleId title with
  | none => simp
  | some titleId =>
      cases product with
      | plan code => simp [Product.userKey]
      | oneTime title' id =>
          simp only [Product.userKey, List.mem_append, Option.mem_toList, Option.map_eq_some_iff,
            Option.map_some, reduceCtorEq, and_false, exists_false, or_false,
            PendingKey.titleUser.injEq, Option.some.injEq, Product.oneTime.injEq]
          constructor
          · rintro ⟨_, huser, rfl, rfl, rfl⟩
            exact ⟨⟨rfl, rfl⟩, huser⟩
          · rintro ⟨⟨rfl, rfl⟩, huser⟩
            exact ⟨user, huser, rfl, rfl, rfl⟩

/-- An entry of a user is that of a row of the user for the product. -/
theorem userKey_mem_pendingKeys {row : PaymentIntent} {user : Uuid} {product : Product} :
    product.userKey user ∈ row.pendingKeys ↔
      row.pendingFor = some product ∧ row.userId = some user := by
  unfold pendingKeys pendingFor
  split
  · cases row.kind with
    | single => exact userKey_mem_titleKeys
    | series => exact userKey_mem_titleKeys
    | sub =>
        cases huser : row.userId with
        | none => simp
        | some owner =>
            cases hplan : row.planCode with
            | none => simp
            | some code =>
                cases product with
                | oneTime title id => simp [Product.userKey]
                | plan code' =>
                    simp only [Product.userKey, List.mem_singleton, PendingKey.subUserPlan.injEq,
                      Option.map_some, Option.some.injEq, Product.plan.injEq]
                    constructor
                    · rintro ⟨rfl, rfl⟩
                      exact ⟨rfl, rfl⟩
                    · rintro ⟨rfl, rfl⟩
                      exact ⟨rfl, rfl⟩
  · simp

end PaymentIntent

/-! ## The claim -/

/-- The row after the claim of a guest's history. -/
def Receipt.claimedFrom (guestId : String) (user : Uuid) (row : Receipt) : Receipt :=
  if row.guestId = some guestId then row.claimed user else row

def PaymentIntent.claimedFrom (guestId : String) (user : Uuid) (row : PaymentIntent) :
    PaymentIntent :=
  if row.guestId = some guestId then row.claimed user else row

/-- No two intents of the guest, and none of the guest and the user, are pending for the same
product. -/
def Db.Separate (d : Db) (user : Uuid) (guestId : String) : Prop :=
  ∀ row ∈ d.intents, ∀ row' ∈ d.intents, row.guestId = some guestId →
    (row'.guestId = some guestId ∨ row'.userId = some user) → row.pendingFor.isSome →
      row.pendingFor = row'.pendingFor → row = row'

/-- Some row is the guest's. -/
def Db.Knows (d : Db) (guestId : String) : Prop :=
  (∃ title, ∃ row ∈ d.receipts title, row.guestId = some guestId) ∨
    ∃ row ∈ d.intents, row.guestId = some guestId

/-- Nothing is the guest's any more, and what was is the user's. -/
structure HistoryClaimed (user : Uuid) (guestId : String) (d d' : Db) : Prop where
  forgotten : ¬ d'.Knows guestId
  receipts : ∀ title, ∀ row ∈ d.receipts title, row.guestId = some guestId →
    ∃ row' ∈ d'.receipts title, row'.intentId = row.intentId ∧ row'.userId = some user
  intents : ∀ row ∈ d.intents, row.guestId = some guestId →
    ∃ row' ∈ d'.intents, row'.intentId = row.intentId ∧ row'.userId = some user

/-- The tables after the claim. -/
def Db.claimed (d : Db) (user : Uuid) (guestId : String) : Db :=
  { d with
    purchases := d.purchases.map (Receipt.claimedFrom guestId user)
    seriesPurchases := d.seriesPurchases.map (Receipt.claimedFrom guestId user)
    intents := d.intents.map (PaymentIntent.claimedFrom guestId user) }

section

variable {t : Tid} {d : Db} {e : World} {user : Uuid} {guestId : String} {title : Title}

/-! ### The receipts -/

theorem claimReceipt_yields (haccount : (d.user? user).isSome) (row : Receipt) :
    (claimReceipt title user row).Yields t d e fun r d' _ =>
      r = .ok () ∧ d' = d.mapReceipts title
        (modify Receipt.intentId row.intentId fun row => row.claimed user) :=
  Answers.bind (reference_answers haccount) (.write ⟨rfl, rfl⟩)

theorem users_mapReceipts (d : Db) (f : List Receipt → List Receipt) :
    (d.mapReceipts title f).users = d.users := by cases title <;> rfl

theorem mapReceipts_congr {f g : List Receipt → List Receipt}
    (h : f (d.receipts title) = g (d.receipts title)) :
    d.mapReceipts title f = d.mapReceipts title g := by
  cases title with
  | movie =>
      unfold Db.mapReceipts
      exact congrArg (fun rows => { d with purchases := rows }) h
  | series =>
      unfold Db.mapReceipts
      exact congrArg (fun rows => { d with seriesPurchases := rows }) h

theorem mapReceipts_mapReceipts (f g : List Receipt → List Receipt) :
    (d.mapReceipts title f).mapReceipts title g = d.mapReceipts title fun rows => g (f rows) := by
  cases title <;> rfl

/-- The receipts of the snapshot are claimed as far as `done`. -/
def Db.claimedReceipts (d : Db) (title : Title) (user : Uuid) (guestId : String)
    (done : List String) : Db :=
  d.mapReceipts title (modifyListed Receipt.intentId done
    (fun row => decide (row.guestId = some guestId)) fun row => row.claimed user)

theorem receipt?_claimedReceipts (done : List String) (intentId : String) :
    (d.claimedReceipts title user guestId done).receipt? title intentId =
      lookup Receipt.intentId intentId (modifyListed Receipt.intentId done
        (fun row => decide (row.guestId = some guestId)) (fun row => row.claimed user)
        (d.receipts title)) := by
  rw [Db.receipt?, Db.claimedReceipts, Db.receipts_mapReceipts, if_pos rfl]

theorem claimedReceipts_of_none (hunique : Sql.Unique Receipt.intentId (d.receipts title))
    {done : List String} {intentId : String}
    (h : ((d.claimedReceipts title user guestId done).receipt? title intentId).filter
      (fun row => decide (row.guestId = some guestId)) = none) :
    d.claimedReceipts title user guestId (done ++ [intentId]) =
      d.claimedReceipts title user guestId done := by
  rw [receipt?_claimedReceipts] at h
  exact mapReceipts_congr (modifyListed_append_of_none hunique (fun _ => rfl) h)

theorem claimedReceipts_of_some (hunique : Sql.Unique Receipt.intentId (d.receipts title))
    {done : List String} {intentId : String} {row : Receipt}
    (h : ((d.claimedReceipts title user guestId done).receipt? title intentId).filter
      (fun row => decide (row.guestId = some guestId)) = some row) :
    (d.claimedReceipts title user guestId done).mapReceipts title
        (modify Receipt.intentId row.intentId fun row => row.claimed user) =
      d.claimedReceipts title user guestId (done ++ [intentId]) := by
  have hid : row.intentId = intentId := key_of_lookup (Option.filter_eq_some_iff.1 h).1
  rw [receipt?_claimedReceipts] at h
  rw [Db.claimedReceipts, mapReceipts_mapReceipts, hid]
  exact mapReceipts_congr (modify_modifyListed hunique (fun _ => rfl) (fun _ => by
    simp [Receipt.claimed]) h)

theorem claimReceipts_yields (hunique : Sql.Unique Receipt.intentId (d.receipts title))
    (haccount : (d.user? user).isSome) :
    (claimReceipts title user guestId).Yields t d e fun r d' _ =>
      r = .ok () ∧ d' = d.mapReceipts title (List.map (Receipt.claimedFrom guestId user)) := by
  refine Answers.bind (.select _) (Yields.forEach (fun done d' _ =>
    d' = d.claimedReceipts title user guestId done) ?_ ?_ ?_)
  · rintro done intentId rest _ e' - rfl
    refine Answers.bind (.lock _ _) (Answers.bind (.select _) ?_)
    cases hfound : ((d.claimedReceipts title user guestId done).receipt? title intentId).filter
        fun row => decide (row.guestId = some guestId) with
    | none => exact .ret (.inl ⟨rfl, (claimedReceipts_of_none hunique hfound).symm⟩)
    | some row =>
        have haccount' : ((d.claimedReceipts title user guestId done).user? user).isSome := by
          rw [Db.user?, Db.claimedReceipts, users_mapReceipts]
          exact haccount
        refine (claimReceipt_yields haccount' row).mono ?_
        rintro r d' e' ⟨rfl, rfl⟩
        exact .inl ⟨rfl, claimedReceipts_of_some hunique hfound⟩
  · rintro d' e' rfl
    refine ⟨rfl, mapReceipts_congr ?_⟩
    rw [modifyListed_selection]
    refine List.map_congr_left fun row _ => ?_
    simp only [decide_eq_true_eq]
    rfl
  · cases title <;> simp [Db.claimedReceipts, Db.mapReceipts]

/-! ### The intents -/

/-- The entries of the partial unique indexes are distinct. -/
def Db.PendingApart (d : Db) : Prop :=
  ∀ row ∈ d.intents, ∀ row' ∈ d.intents, ∀ key,
    key ∈ row.pendingKeys → key ∈ row'.pendingKeys → row = row'

/-- The intents of the snapshot are claimed as far as `done`. -/
def Db.claimedIntents (d : Db) (user : Uuid) (guestId : String) (done : List String) : Db :=
  { d with
    intents := modifyListed PaymentIntent.intentId done
      (fun row => decide (row.guestId = some guestId)) (fun row => row.claimed user) d.intents }

/-- A claimed row whose new entry is free goes in. -/
theorem Db.PendingApart.claim (hd : d.PendingApart)
    (hunique : Sql.Unique PaymentIntent.intentId d.intents) {row : PaymentIntent}
    (hrow : row ∈ d.intents)
    (hfree : ∀ product ∈ row.pendingFor, ∀ other ∈ d.intents, other.intentId ≠ row.intentId →
      product.userKey user ∉ other.pendingKeys) :
    ((Write.claimIntent row user).apply d).PendingApart := by
  have hsame {old : PaymentIntent} (hold : old ∈ d.intents) (hid : old.intentId = row.intentId) :
      old = row := List.inj_on_of_nodup_map hunique hold hrow hid
  have hclash {other : PaymentIntent} {key : PendingKey} (hother : other ∈ d.intents)
      (hid : other.intentId ≠ row.intentId) (hkey : key ∈ (row.claimed user).pendingKeys)
      (hkey' : key ∈ other.pendingKeys) : False := by
    rw [PaymentIntent.pendingKeys_claimed] at hkey
    obtain ⟨product, hproduct, rfl⟩ := List.mem_map.1 hkey
    exact hfree product (Option.mem_toList.1 hproduct) other hother hid hkey'
  intro r hr r' hr' key hkey hkey'
  obtain ⟨old, hold, rfl⟩ := mem_modify.1 hr
  obtain ⟨old', hold', rfl⟩ := mem_modify.1 hr'
  by_cases h : old.intentId = row.intentId
  · obtain rfl := hsame hold h
    by_cases h' : old'.intentId = old.intentId
    · rw [hsame hold' h']
    · rw [if_pos rfl] at hkey
      rw [if_neg h'] at hkey'
      exact (hclash hold' h' hkey hkey').elim
  · by_cases h' : old'.intentId = row.intentId
    · obtain rfl := hsame hold' h'
      rw [if_neg h] at hkey
      rw [if_pos rfl] at hkey'
      exact (hclash hold h hkey' hkey).elim
    · rw [if_neg h] at hkey ⊢
      rw [if_neg h'] at hkey' ⊢
      exact hd old hold old' hold' key hkey hkey'

theorem enterUnique_rejected {key : Key} {taken : Db → Bool} (h : taken d = true) :
    (enterUnique key taken).Yields t d e fun r d' _ => r = .error .integrity ∧ d' = d := by
  refine Answers.bind (.enter _ _) ?_
  rw [h, Bool.not_true, if_neg Bool.false_ne_true]
  exact .reject ⟨rfl, rfl⟩

/-- Either an entry of the claimed row is taken, or the row is the user's. -/
theorem claimIntent_yields (haccount : (d.user? user).isSome) (row : PaymentIntent) :
    (claimIntent user row).Yields t d e fun r d' _ =>
      (r = .error .integrity ∧ d' = d ∧ ∃ product ∈ row.pendingFor, ∃ other ∈ d.intents,
        other.intentId ≠ row.intentId ∧ product.userKey user ∈ other.pendingKeys) ∨
      (r = .ok () ∧ d' = (Write.claimIntent row user).apply d ∧
        ∀ product ∈ row.pendingFor, ∀ other ∈ d.intents, other.intentId ≠ row.intentId →
          product.userKey user ∉ other.pendingKeys) := by
  have hclaim : (do
      referenceUser (some user)
      write (.claimIntent row user) : Prog Unit).Yields t d e fun r d' _ =>
        r = .ok () ∧ d' = (Write.claimIntent row user).apply d :=
    Answers.bind (reference_answers haccount) (.write ⟨rfl, rfl⟩)
  unfold claimIntent
  rw [PaymentIntent.pendingKeys_claimed]
  cases hproduct : row.pendingFor with
  | none =>
      refine Answers.bind (.ret _) (hclaim.mono ?_)
      rintro r d' e' ⟨rfl, rfl⟩
      exact .inr ⟨rfl, rfl, fun product h => by cases h⟩
  | some product =>
      by_cases htaken : (d.intents.any fun other => decide
          (other.intentId ≠ row.intentId ∧ product.userKey user ∈ other.pendingKeys)) = true
      · refine Yields.bind (M := fun r d' _ => r = .error .integrity ∧ d' = d)
          (Yields.bind (enterUnique_rejected htaken) ?_ ?_) ?_ ?_
        · rintro a d' e' ⟨h, -⟩
          cases h
        · exact fun x d' e' h => h
        · rintro a d' e' ⟨h, -⟩
          cases h
        · rintro x d' e' ⟨hx, rfl⟩
          simp only [List.any_eq_true, decide_eq_true_eq] at htaken
          exact .inl ⟨hx, rfl, product, rfl, htaken⟩
      · have hfree := Bool.eq_false_iff.2 htaken
        refine Answers.bind (Answers.bind (enterUnique_answers hfree) (Answers.ret ())) (hclaim.mono ?_)
        rintro r d' e' ⟨rfl, rfl⟩
        refine .inr ⟨rfl, rfl, ?_⟩
        rintro _ ⟨⟩ other hother hid hkey
        exact htaken (List.any_eq_true.2 ⟨other, hother, decide_eq_true ⟨hid, hkey⟩⟩)

theorem claimedIntents_of_none (hunique : Sql.Unique PaymentIntent.intentId d.intents)
    {done : List String} {intentId : String}
    (h : ((d.claimedIntents user guestId done).intent? intentId).filter
      (fun row => decide (row.guestId = some guestId)) = none) :
    d.claimedIntents user guestId (done ++ [intentId]) = d.claimedIntents user guestId done := by
  have hkey (row : PaymentIntent) : (row.claimed user).intentId = row.intentId := rfl
  exact congrArg (fun rows => { d with intents := rows })
    (modifyListed_append_of_none hunique hkey h)

theorem claimedIntents_of_some (hunique : Sql.Unique PaymentIntent.intentId d.intents)
    {done : List String} {intentId : String} {row : PaymentIntent}
    (h : ((d.claimedIntents user guestId done).intent? intentId).filter
      (fun row => decide (row.guestId = some guestId)) = some row) :
    (Write.claimIntent row user).apply (d.claimedIntents user guestId done) =
      d.claimedIntents user guestId (done ++ [intentId]) := by
  have hid : row.intentId = intentId := key_of_lookup (Option.filter_eq_some_iff.1 h).1
  have hrows := modify_modifyListed (f := fun row : PaymentIntent => row.claimed user) hunique
    (fun _ => rfl) (fun _ => by simp [PaymentIntent.claimed]) h
  rw [← hid] at hrows ⊢
  exact congrArg (fun rows => { d with intents := rows }) hrows

/-- An intent that is in the way is the guest's or the user's own, for the same product. -/
theorem not_separate_of_taken {done : List String} {row other : PaymentIntent} {product : Product}
    (hrow : row ∈ (d.claimedIntents user guestId done).intents) (hguest : row.guestId = some guestId)
    (hother : other ∈ (d.claimedIntents user guestId done).intents)
    (hid : other.intentId ≠ row.intentId) (hproduct : row.pendingFor = some product)
    (hkey : product.userKey user ∈ other.pendingKeys) : ¬ d.Separate user guestId := by
  intro hseparate
  obtain ⟨row₀, hrow₀, hrow⟩ := mem_modifyListed.1 hrow
  obtain ⟨other₀, hother₀, hother⟩ := mem_modifyListed.1 hother
  obtain ⟨hfor, hown⟩ := PaymentIntent.userKey_mem_pendingKeys.1 hkey
  have hsame : row = row₀ := by
    rw [hrow]
    refine if_neg fun hlisted => ?_
    rw [if_pos hlisted] at hrow
    rw [hrow] at hguest
    cases hguest
  subst hsame
  have hfor₀ : other₀.pendingFor = some product := by
    rw [← hfor, hother]
    split <;> rfl
  have hid₀ : other₀.intentId = other.intentId := by
    rw [hother]
    split <;> rfl
  have hclaimant : other₀.guestId = some guestId ∨ other₀.userId = some user := by
    by_cases hlisted : other₀.intentId ∈ done ∧ decide (other₀.guestId = some guestId) = true
    · exact .inl (of_decide_eq_true hlisted.2)
    · rw [if_neg hlisted] at hother
      exact .inr (hother ▸ hown)
  refine hid ?_
  rw [hseparate row hrow₀ other₀ hother₀ hguest hclaimant (by simp [hproduct])
    (hproduct.trans hfor₀.symm), hid₀]

/-- Once all are claimed, no two of them are for the same product. -/
theorem separate_of_pendingApart (hunique : Sql.Unique PaymentIntent.intentId d.intents)
    (h : Db.PendingApart { d with
      intents := d.intents.map (PaymentIntent.claimedFrom guestId user) }) :
    d.Separate user guestId := by
  intro row hrow row' hrow' hguest hclaimant hsome hfor
  have hkey {old : PaymentIntent} (hold : old.guestId = some guestId ∨ old.userId = some user)
      {product : Product} (hproduct : old.pendingFor = some product) :
      product.userKey user ∈ (old.claimedFrom guestId user).pendingKeys := by
    rw [PaymentIntent.userKey_mem_pendingKeys]
    unfold PaymentIntent.claimedFrom
    split
    · exact ⟨hproduct, rfl⟩
    · next hother => exact ⟨hproduct, hold.resolve_left hother⟩
  have hid (old : PaymentIntent) : (old.claimedFrom guestId user).intentId = old.intentId := by
    unfold PaymentIntent.claimedFrom
    split <;> rfl
  obtain ⟨product, hproduct⟩ := Option.isSome_iff_exists.1 hsome
  have heq := h _ (List.mem_map_of_mem hrow) _ (List.mem_map_of_mem hrow') _
    (hkey (.inl hguest) hproduct) (hkey hclaimant (hfor ▸ hproduct))
  refine List.inj_on_of_nodup_map hunique hrow hrow' ?_
  rw [← hid row, ← hid row', heq]

theorem claimIntents_yields (hunique : Sql.Unique PaymentIntent.intentId d.intents)
    (hapart : d.PendingApart) (haccount : (d.user? user).isSome) :
    (claimIntents user guestId).Yields t d e fun r d' _ =>
      (r = .error .integrity ∧ ¬ d.Separate user guestId) ∨
      (r = .ok () ∧ d.Separate user guestId ∧
        d' = { d with intents := d.intents.map (PaymentIntent.claimedFrom guestId user) }) := by
  refine Answers.bind (.select _) (Yields.forEach (fun done d' _ =>
    d' = d.claimedIntents user guestId done ∧ d'.PendingApart) ?_ ?_ ?_)
  · rintro done intentId rest _ e' - ⟨rfl, hapart'⟩
    refine Answers.bind (.lock _ _) (Answers.bind (.select _) ?_)
    have hunique' : Sql.Unique PaymentIntent.intentId (d.claimedIntents user guestId done).intents :=
      hunique.modifyListed fun _ => rfl
    cases hfound : ((d.claimedIntents user guestId done).intent? intentId).filter
        fun row => decide (row.guestId = some guestId) with
    | none =>
        have hsame := claimedIntents_of_none hunique hfound
        exact .ret (.inl ⟨rfl, hsame.symm, hapart'⟩)
    | some row =>
        obtain ⟨hlookup, hguest⟩ := Option.filter_eq_some_iff.1 hfound
        have hrow := mem_of_lookup hlookup
        refine (claimIntent_yields (d := d.claimedIntents user guestId done) haccount row).mono ?_
        rintro r d' e' (⟨rfl, rfl, product, hproduct, other, hother, hid, hkey⟩ | ⟨rfl, rfl, hfree⟩)
        · exact .inr ⟨_, rfl, .inl ⟨rfl, not_separate_of_taken hrow
            (of_decide_eq_true hguest) hother hid hproduct hkey⟩⟩
        · exact .inl ⟨rfl, claimedIntents_of_some hunique hfound, hapart'.claim hunique' hrow hfree⟩
  · rintro d' e' ⟨rfl, hapart'⟩
    have hall : d.claimedIntents user guestId
        ((d.intents.filter fun row => decide (row.guestId = some guestId)).map
          PaymentIntent.intentId) =
        { d with intents := d.intents.map (PaymentIntent.claimedFrom guestId user) } := by
      unfold Db.claimedIntents
      rw [modifyListed_selection]
      refine congrArg (fun rows => { d with intents := rows }) (List.map_congr_left fun row _ => ?_)
      simp only [decide_eq_true_eq]
      rfl
    rw [hall] at hapart' ⊢
    exact .inr ⟨rfl, separate_of_pendingApart hunique hapart', rfl⟩
  · refine ⟨?_, hapart⟩
    simp [Db.claimedIntents]

/-! ### The whole claim -/

theorem claimGuestPurchases_yields (hd : d.Legal) (haccount : (d.user? user).isSome)
    (hguest : guestId ≠ "") :
    (claimGuestPurchases user (some guestId)).Yields t d e fun r d' _ =>
      (r = .error .integrity ∧ ¬ d.Separate user guestId) ∨
      (r = .ok () ∧ d.Separate user guestId ∧ d' = d.claimed user guestId) := by
  have hcookie : (some guestId).bind nonempty = some guestId := if_neg hguest
  unfold claimGuestPurchases
  rw [hcookie]
  refine Yields.bind (claimReceipts_yields (hd.receipts .movie) haccount) ?_ fun x d' e' h => by
    cases h.1
  rintro _ d₁ e₁ ⟨-, rfl⟩
  refine Yields.bind (claimReceipts_yields (hd.receipts .series) haccount) ?_ fun x d' e' h => by
    cases h.1
  rintro _ d₂ e₂ ⟨-, rfl⟩
  exact claimIntents_yields hd.intents hd.pending haccount

theorem historyClaimed_claimed (d : Db) (user : Uuid) (guestId : String) :
    HistoryClaimed user guestId d (d.claimed user guestId) := by
  have hreceipts (title : Title) : (d.claimed user guestId).receipts title =
      (d.receipts title).map (Receipt.claimedFrom guestId user) := by cases title <;> rfl
  refine ⟨?_, fun title row hrow hguest => ?_, fun row hrow hguest => ?_⟩
  · rintro (⟨title, row, hrow, hguest⟩ | ⟨row, hrow, hguest⟩)
    · rw [hreceipts] at hrow
      obtain ⟨old, -, rfl⟩ := List.mem_map.1 hrow
      unfold Receipt.claimedFrom at hguest
      split at hguest
      · cases hguest
      · contradiction
    · obtain ⟨old, -, rfl⟩ := List.mem_map.1 hrow
      unfold PaymentIntent.claimedFrom at hguest
      split at hguest
      · cases hguest
      · contradiction
  · rw [hreceipts]
    exact ⟨_, List.mem_map_of_mem hrow, by simp [Receipt.claimedFrom, hguest, Receipt.claimed],
      by simp [Receipt.claimedFrom, hguest, Receipt.claimed]⟩
  · exact ⟨_, List.mem_map_of_mem hrow,
      by simp [PaymentIntent.claimedFrom, hguest, PaymentIntent.claimed],
      by simp [PaymentIntent.claimedFrom, hguest, PaymentIntent.claimed]⟩

end

theorem separate_of_unknown {d : Db} {user : Uuid} {guestId : String} (h : ¬ d.Knows guestId) :
    d.Separate user guestId :=
  fun row hrow _ _ hguest => (h (.inr ⟨row, hrow, hguest⟩)).elim

theorem historyClaimed_of_unknown {d : Db} {user : Uuid} {guestId : String}
    (h : ¬ d.Knows guestId) : HistoryClaimed user guestId d d where
  forgotten := h
  receipts title row hrow hguest := (h (.inl ⟨title, row, hrow, hguest⟩)).elim
  intents row hrow hguest := (h (.inr ⟨row, hrow, hguest⟩)).elim

/-- The claim succeeds and moves the history of the guest exactly if no two intents that would
then be the user's are pending for one product; the cookie `""` counts as none. -/
theorem claimGuestPurchases_iff {t : Tid} {s : Store} (hs : s.Undisturbed t)
    (hd : (s.view t).Legal) {user : Uuid} (haccount : ((s.view t).user? user).isSome)
    (guestId : Option String) :
    (∃ s', (claimGuestPurchases user guestId).runAlone t s = some (.ok (), s') ∧
        ∀ guest ∈ guestId, HistoryClaimed user guest (s.view t) (s'.view t)) ↔
      ∀ guest ∈ guestId, (guest = "" → ¬ (s.view t).Knows guest) ∧
        (s.view t).Separate user guest := by
  cases guestId with
  | none =>
      constructor
      · rintro - _ ⟨⟩
      · intro _
        refine ⟨s, rfl, ?_⟩
        rintro _ ⟨⟩
  | some guest =>
      by_cases hguest : guest = ""
      · subst hguest
        have hrun : (claimGuestPurchases user (some "")).runAlone t s = some (.ok (), s) := rfl
        constructor
        · rintro ⟨s', hrun', hclaimed⟩ _ ⟨⟩
          rw [hrun] at hrun'
          obtain rfl : s = s' := by cases hrun'; rfl
          have hforgotten := (hclaimed "" rfl).forgotten
          exact ⟨fun _ => hforgotten, separate_of_unknown hforgotten⟩
        · intro h
          have hunknown := (h "" rfl).1 rfl
          refine ⟨s, hrun, ?_⟩
          rintro _ ⟨⟩
          exact historyClaimed_of_unknown hunknown
      · obtain ⟨r, s', hrun, -, hr⟩ :=
          claimGuestPurchases_yields (t := t) (e := s.world) hd haccount hguest s hs rfl rfl
        rw [hrun]
        constructor
        · rintro ⟨s'', heq, -⟩ _ ⟨⟩
          obtain ⟨rfl, rfl⟩ := Prod.mk.inj (Option.some.inj heq)
          rcases hr with ⟨hr, -⟩ | ⟨-, hseparate, -⟩
          · cases hr
          · exact ⟨fun h => (hguest h).elim, hseparate⟩
        · intro h
          rcases hr with ⟨-, hnot⟩ | ⟨rfl, -, hview⟩
          · exact (hnot (h guest rfl).2).elim
          · refine ⟨s', rfl, ?_⟩
            rintro _ ⟨⟩
            rw [hview]
            exact historyClaimed_claimed _ user guest

/-! ## A guest who signs in twice for one movie -/

namespace Shop

/-- An intent a guest has opened for the movie of the shop. -/
def guestIntent : PaymentIntent :=
  { intent with intentId := "bkg-9", orderId := "movie-9", userId := none, guestId := some "visitor",
                bakongMd5 := some "md5-9" }

/-- The guest has an open intent; the account may have one too. -/
def visited (intents : List PaymentIntent) : Db := { db with intents := guestIntent :: intents }

theorem visited_legal {intents : List PaymentIntent} (h : intents = [] ∨ intents = [intent]) :
    (visited intents).Legal := by
  have hpending : ∀ row ∈ (visited intents).intents, ∀ row' ∈ (visited intents).intents,
      ∀ key ∈ row.pendingKeys, key ∈ row'.pendingKeys → row = row' := by
    rcases h with rfl | rfl <;> decide
  have hmd5s : ∀ row ∈ (visited intents).intents, ∀ row' ∈ (visited intents).intents,
      ∀ md5 ∈ row.bakongMd5, row'.bakongMd5 = some md5 → row = row' := by
    rcases h with rfl | rfl <;> decide
  have hkeys : Sql.Unique PaymentIntent.intentId (visited intents).intents ∧
      Sql.Unique PaymentIntent.orderId (visited intents).intents := by
    unfold Sql.Unique
    rcases h with rfl | rfl <;> decide
  have hshop : Sql.Unique User.id db.users ∧ Sql.Unique Content.id db.contents := by
    unfold Sql.Unique
    decide
  exact ⟨hshop.1, hshop.2, List.nodup_nil, hkeys.1, hkeys.2,
    fun row hrow row' hrow' key hkey hkey' => hpending row hrow row' hrow' key hkey hkey',
    fun row hrow row' hrow' md5 hmd5 hmd5' => hmd5s row hrow row' hrow' md5 hmd5 hmd5',
    fun title => by cases title <;> exact List.nodup_nil,
    fun title => by cases title <;> exact List.nodup_nil, List.nodup_nil, List.nodup_nil,
    List.nodup_nil⟩

end Shop

/-- Without an intent of the account the claim goes through. -/
theorem claimGuestPurchases_first : ∃ s',
    (claimGuestPurchases 1 (some "visitor")).runAlone 0 (.idle (Shop.visited []) .empty Shop.world) =
      some (.ok (), s') ∧
    ∀ guest ∈ some "visitor", HistoryClaimed 1 guest (Shop.visited []) (s'.view 0) := by
  refine (claimGuestPurchases_iff (.idle _ _ _ _) (Shop.visited_legal (.inl rfl)) rfl _).2 ?_
  rintro _ ⟨⟩
  refine ⟨fun h => absurd h (by decide), ?_⟩
  intro row hrow row' hrow' _ _ _ _
  rw [List.mem_singleton.1 hrow, List.mem_singleton.1 hrow']

/-- With one for the same movie it violates `uq_pending_bakong_movie_user`. -/
theorem claimGuestPurchases_collides : (Shop.visited [Shop.intent]).Legal ∧
    ((Shop.visited [Shop.intent]).user? 1).isSome ∧ ∃ s',
      (claimGuestPurchases 1 (some "visitor")).runAlone 0
        (.idle (Shop.visited [Shop.intent]) .empty Shop.world) = some (.error .integrity, s') :=
  ⟨Shop.visited_legal (.inr rfl), rfl, _, rfl⟩

end MovieApi.Billing
