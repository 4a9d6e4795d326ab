import MovieApi.Billing.Conduct

/-!
# Grants of paid intents

A fulfilment changes the status first and makes the grant afterwards, with
nothing in between that ties the two together: it makes no grant for a title
intent whose title is gone, and an exception it raises leaves the status write in
the session.  Where neither happens to a session that commits, every intent the
commit moves from `pending` to `succeeded` has its grant.
-/

namespace MovieApi.Billing

open ReadCommitted Sql

/-! ## Grants -/

/-- A purchase, a series purchase or a subscription payment, by the kind of the
intent, carries the intent's id. -/
def Db.granted (d : Db) (kind : Kind) (intentId : String) : Bool :=
  match kind with
  | .single => (d.receipt? .movie intentId).isSome
  | .series => (d.receipt? .series intentId).isSome
  | .sub => (d.payment? intentId).isSome

/-- The grant a write makes. -/
def Write.grants : Write → Option (Kind × String)
  | .insertReceipt title row => some (title.kind, row.intentId)
  | .insertPayment row => some (.sub, row.intentId)
  | _ => none

/-- The kind of the intent comes with the reference its grant is made from. -/
def PaymentIntent.grantable (intent : PaymentIntent) : Bool :=
  match intent.kind with
  | .single => intent.contentId.isSome
  | .series => intent.seriesId.isSome
  | .sub => true

theorem Write.granted_apply {w : Write} {d : Db} {kind : Kind} {intentId : String}
    (h : (w.apply d).granted kind intentId = true) :
    d.granted kind intentId = true ∨ w.grants = some (kind, intentId) := by
  have hreceipt : ∀ title, (w.onReceipt title intentId (d.receipt? title intentId)).isSome →
      (d.receipt? title intentId).isSome ∨ w.grants = some (title.kind, intentId) := by
    intro title hsome
    cases w <;> simp only [onReceipt, grants] at hsome ⊢ <;> try exact .inl hsome
    case insertReceipt title' row =>
      split at hsome
      · next ht =>
          rw [Option.isSome_or, Bool.or_eq_true] at hsome
          refine hsome.imp_right fun hrow => ?_
          split at hrow
          · next hid => rw [ht, hid]
          · simp at hrow
      · exact .inl hsome
    all_goals
      split at hsome
      · left; simpa using hsome
      · exact .inl hsome
  cases kind with
  | single => exact hreceipt .movie (by simpa only [Db.granted, receipt?_apply] using h)
  | series => exact hreceipt .series (by simpa only [Db.granted, receipt?_apply] using h)
  | sub =>
      simp only [Db.granted, payment?_apply] at h ⊢
      cases w <;> simp only [onPayment, grants] at h ⊢ <;> try exact .inl h
      case insertPayment row =>
        rw [Option.isSome_or, Bool.or_eq_true] at h
        refine h.imp_right fun hrow => ?_
        split at hrow
        · next hid => rw [hid]
        · simp at hrow

theorem Write.granted_of_grants {w : Write} {kind : Kind} {intentId : String}
    (h : w.grants = some (kind, intentId)) (d : Db) : (w.apply d).granted kind intentId = true := by
  cases w <;> simp only [grants, Option.some.injEq, Prod.mk.injEq, reduceCtorEq] at h
  case insertReceipt title row =>
    obtain ⟨rfl, rfl⟩ := h
    cases title <;>
      simp [Db.granted, Title.kind, receipt?_apply, onReceipt]
  case insertPayment row =>
    obtain ⟨rfl, rfl⟩ := h
    simp [Db.granted, payment?_apply, onPayment]

theorem Write.granted_mono {w : Write} {d : Db} {kind : Kind} {intentId : String}
    (hw : ∀ title intentId, w ≠ .deleteReceipt title intentId)
    (h : d.granted kind intentId = true) : (w.apply d).granted kind intentId = true := by
  have hreceipt : ∀ title, (d.receipt? title intentId).isSome →
      (w.onReceipt title intentId (d.receipt? title intentId)).isSome := by
    intro title hsome
    cases w <;> simp only [onReceipt] <;> try exact hsome
    case deleteReceipt title' intentId' => exact absurd rfl (hw title' intentId')
    all_goals split <;> simp [hsome, Option.isSome_or]
  cases kind with
  | single => simpa only [Db.granted, receipt?_apply] using hreceipt .movie h
  | series => simpa only [Db.granted, receipt?_apply] using hreceipt .series h
  | sub =>
      simp only [Db.granted, payment?_apply] at h ⊢
      cases w <;> simp only [onPayment] <;> try exact h
      simp [h, Option.isSome_or]

theorem granted_applyAll {ws : List Write} {d : Db} {kind : Kind} {intentId : String}
    (h : (applyAll ws d).granted kind intentId = true) :
    d.granted kind intentId = true ∨ ∃ w ∈ ws, w.grants = some (kind, intentId) := by
  induction ws generalizing d with
  | nil => exact .inl h
  | cons w ws ih =>
      rcases ih h with hd | ⟨w', hmem, hw'⟩
      · rcases Write.granted_apply hd with hd | hw
        · exact .inl hd
        · exact .inr ⟨w, by simp, hw⟩
      · exact .inr ⟨w', by simp [hmem], hw'⟩

/-- In a transaction that deletes no grant, a grant made stays. -/
theorem granted_of_mem {ws : List Write} {kind : Kind} {intentId : String}
    (hws : ∀ title intentId, .deleteReceipt title intentId ∉ ws) {w : Write} (hmem : w ∈ ws)
    (hw : w.grants = some (kind, intentId)) (d : Db) :
    (applyAll ws d).granted kind intentId = true := by
  induction ws generalizing d with
  | nil => simp at hmem
  | cons w' ws ih =>
      have htail : ∀ title intentId, .deleteReceipt title intentId ∉ ws :=
        fun title intentId h => hws title intentId (by simp [h])
      rw [applyAll_cons]
      rcases List.mem_cons.1 hmem with rfl | hmem
      · refine applyAll_induction (P := fun d : Db => d.granted kind intentId = true)
          (Write.granted_of_grants hw d) fun w' hw' d hd => Write.granted_mono ?_ hd
        exact fun title intentId h => htail title intentId (h ▸ hw')
      · exact ih htail hmem _

/-! ## Where a row comes from -/

theorem Write.onIntent_origin {w : Write} {intentId : String} {row? : Option PaymentIntent}
    {row' : PaymentIntent} (h : w.onIntent intentId row? = some row') :
    (∃ row, row? = some row ∧ row'.kind = row.kind ∧
      (row'.status = row.status ∨ ∃ copy outcome at_, w = .resolveIntent copy outcome at_ ∧
        copy.intentId = intentId ∧ row'.status = outcome.status)) ∨
    (row? = none ∧ w = .insertIntent row' ∧ row'.intentId = intentId) := by
  have hsame : row? = some row' → ∃ row, row? = some row ∧ row'.kind = row.kind ∧
      (row'.status = row.status ∨ ∃ copy outcome at_, w = .resolveIntent copy outcome at_ ∧
        copy.intentId = intentId ∧ row'.status = outcome.status) :=
    fun h => ⟨row', h, rfl, .inl rfl⟩
  have hmap : ∀ f : PaymentIntent → PaymentIntent,
      (∀ row, (f row).kind = row.kind ∧ (f row).status = row.status) → row?.map f = some row' →
        ∃ row, row? = some row ∧ row'.kind = row.kind ∧
          (row'.status = row.status ∨ ∃ copy outcome at_, w = .resolveIntent copy outcome at_ ∧
            copy.intentId = intentId ∧ row'.status = outcome.status) := by
    intro f hf hmap
    obtain ⟨row, hrow, rfl⟩ := Option.map_eq_some_iff.1 hmap
    exact ⟨row, hrow, (hf row).1, .inl (hf row).2⟩
  cases w with
  | insertIntent row =>
      simp only [onIntent] at h
      cases row? with
      | some row₀ => exact .inl (hsame (by simpa using h))
      | none =>
          simp only [Option.none_or] at h
          split at h
          · next hid =>
              rw [Option.some.injEq] at h
              subst h
              exact .inr ⟨rfl, rfl, hid⟩
          · simp at h
  | resolveIntent copy outcome at_ =>
      simp only [onIntent] at h
      split at h
      · next hid =>
          obtain ⟨row, hrow, rfl⟩ := Option.map_eq_some_iff.1 h
          exact .inl ⟨row, hrow, rfl, .inr ⟨copy, outcome, at_, rfl, hid.symm, rfl⟩⟩
      · exact .inl (hsame h)
  | replaceQr copy md5 qr merchant at_ =>
      simp only [onIntent] at h
      split at h
      · exact .inl (hmap (copy.withQr md5 qr merchant at_) (fun _ => ⟨rfl, rfl⟩) h)
      · exact .inl (hsame h)
  | claimIntent row user =>
      simp only [onIntent] at h
      split at h
      · exact .inl (hmap (fun row => row.claimed user) (fun _ => ⟨rfl, rfl⟩) h)
      · exact .inl (hsame h)
  | clearTitle title intentId' =>
      simp only [onIntent] at h
      split at h
      · exact .inl (hmap (fun row => row.cleared title) (fun _ => by cases title <;> exact ⟨rfl, rfl⟩) h)
      · exact .inl (hsame h)
  | deleteIntent intentId' =>
      simp only [onIntent] at h
      split at h
      · simp at h
      · exact .inl (hsame h)
  | _ => exact .inl (hsame h)

/-- The status of a row is the committed one, that of a new row, or the outcome
of a status write. -/
theorem status_origin {ws : List Write} {d : Db} {intentId : String} {row' : PaymentIntent}
    (h : (applyAll ws d).intent? intentId = some row') :
    (∃ row, d.intent? intentId = some row ∧ row'.status = row.status) ∨
    (∃ row, .insertIntent row ∈ ws ∧ row.intentId = intentId ∧ row'.status = row.status) ∨
    ∃ copy outcome at_, .resolveIntent copy outcome at_ ∈ ws ∧ copy.intentId = intentId ∧
      row'.status = outcome.status := by
  induction ws using List.reverseRecOn generalizing row' with
  | nil => exact .inl ⟨row', h, rfl⟩
  | append_singleton ws w ih =>
      rw [applyAll_append, applyAll_cons, applyAll_nil, apply_eq, Write.intent?_apply] at h
      rcases Write.onIntent_origin h with ⟨row, hrow, -, hsame | hresolved⟩ | ⟨-, rfl, hid⟩
      · rcases ih hrow with ⟨row₀, hrow₀, hs⟩ | ⟨row₀, hmem, hid, hs⟩ |
          ⟨copy, outcome, at_, hmem, hid, hs⟩
        · exact .inl ⟨row₀, hrow₀, hsame.trans hs⟩
        · exact .inr (.inl ⟨row₀, by simp [hmem], hid, hsame.trans hs⟩)
        · exact .inr (.inr ⟨copy, outcome, at_, by simp [hmem], hid, hsame.trans hs⟩)
      · obtain ⟨copy, outcome, at_, rfl, hid, hs⟩ := hresolved
        exact .inr (.inr ⟨copy, outcome, at_, by simp, hid, hs⟩)
      · exact .inr (.inl ⟨row', by simp, hid, rfl⟩)

/-! ## The contract -/

/-- What excuses a session from the grant of an intent it has fulfilled: the
grant is made, the failure is noted, there is nothing to grant, or the intent
was not pending. -/
def Accounted (t : Tid) (copy : PaymentIntent) (s : Store) : Prop :=
  (∃ w ∈ s.writes t, w.grants = some (copy.kind, copy.intentId)) ∨
  copy.intentId ∈ (s.info t).failedIntents ∨
  copy.grantable = false ∨
  (s.Holds t (.intent copy.intentId) .update ∧
    ∀ row, s.db.intent? copy.intentId = some row → row.status ≠ .pending)

/-- Every intent the session has fulfilled is accounted for, but for the open ones. -/
structure Accounts (t : Tid) (isOpen : PaymentIntent → Prop) (s : Store) : Prop where
  keeps : ∀ title intentId, .deleteReceipt title intentId ∉ s.writes t
  accounted : ∀ copy at_, .resolveIntent copy .succeeded at_ ∈ s.writes t →
    isOpen copy ∨ Accounted t copy s

/-- Grants follow status writes, and follow them only: a committed pending intent
has no grant. -/
structure GrantInv (s : Store) : Prop where
  ungranted : ∀ intentId row, s.db.intent? intentId = some row → row.status = .pending →
    ∀ kind, s.db.granted kind intentId = false
  granting : ∀ t, ∀ w ∈ s.writes t, ∀ kind intentId, w.grants = some (kind, intentId) →
    ∃ copy at_, .resolveIntent copy .succeeded at_ ∈ s.writes t ∧ copy.intentId = intentId
  resolved : ∀ t copy outcome at_ row, .resolveIntent copy outcome at_ ∈ s.writes t →
    (s.view t).intent? copy.intentId = some row →
      row.status ≠ .pending ∧ (outcome = .succeeded → row.kind = copy.kind)
  created : ∀ t row, .insertIntent row ∈ s.writes t →
    row.status = .pending ∧ ∀ kind, s.db.granted kind row.intentId = false

/-- A session grants what it has fulfilled, and accounts for all of it when it
commits. -/
def GrantObl (t : Tid) {α : Type} (c : Stmt α) (s : Store) : Prop :=
  match c with
  | .write (.insertIntent row) => row.status = .pending
  | .write (.resolveIntent copy .succeeded _) =>
      (s.view t).intent? copy.intentId = some copy
  | .write (.insertReceipt _ row) =>
      ∃ copy at_, .resolveIntent copy .succeeded at_ ∈ s.writes t ∧ copy.intentId = row.intentId
  | .write (.insertPayment row) =>
      ∃ copy at_, .resolveIntent copy .succeeded at_ ∈ s.writes t ∧ copy.intentId = row.intentId
  | .commit =>
      (∃ copy at_, .resolveIntent copy .succeeded at_ ∈ s.writes t) →
        Accounts t (fun _ => False) s
  | _ => True

def grantContract : Contract where
  Inv := GrantInv
  Obl := GrantObl
  Rely _ _ := True
  rely_refl _ := trivial
  rely_trans _ _ := trivial

def Write.resolves (w : Write) (intentId : String) : Bool :=
  match w with
  | .resolveIntent copy _ _ => decide (copy.intentId = intentId)
  | _ => false

/-- The intent a write fulfils has something to grant, and its fulfilment did not fail. -/
def Write.fulfilsWhole (failed : List String) : Write → Bool
  | .resolveIntent copy .succeeded _ => copy.grantable && decide (copy.intentId ∉ failed)
  | _ => true

/-- No session commits the fulfilment of an intent that has lost the reference
to what it was for, or one that raised half-way; ids of new intents are new. -/
def wholeFulfilments : Regime where
  stmt t _ c s :=
    match c with
    | .write (.insertIntent row) =>
        !s.db.granted .single row.intentId && !s.db.granted .series row.intentId &&
          !s.db.granted .sub row.intentId && !(s.writes t).any fun w => w.resolves row.intentId
    | .commit => s.doomed t || (s.writes t).all (Write.fulfilsWhole (s.info t).failedIntents)
    | _ => true
  outside _ _ := true

/-! ### Soundness -/

theorem GrantInv.of_same {s s' : Store} (hs : GrantInv s) (hdb : s'.db = s.db)
    (hwrites : ∀ u, s'.writes u = s.writes u ∨ s'.writes u = []) : GrantInv s' := by
  refine ⟨fun intentId row => ?_, fun u w hmem => ?_, fun u copy outcome at_ row hmem hrow => ?_,
    fun u row hmem => ?_⟩
  · rw [hdb]
    exact hs.ungranted intentId row
  · rcases hwrites u with h | h
    · rw [h] at hmem ⊢
      exact hs.granting u w hmem
    · simp [h] at hmem
  · rcases hwrites u with h | h
    · rw [h] at hmem
      refine hs.resolved u copy outcome at_ row hmem ?_
      simpa only [Store.view, hdb, h] using hrow
    · simp [h] at hmem
  · rw [hdb]
    rcases hwrites u with h | h
    · exact hs.created u row (h ▸ hmem)
    · simp [h] at hmem

theorem GrantInv.write {s : Store} (hs : GrantInv s) {t : Tid} {w : Write}
    (hobl : GrantObl t (.write w : Stmt Unit) s)
    (hreg : wholeFulfilments.stmt t (.write w : Stmt Unit) s = true) : GrantInv (wrote t w s) := by
  refine ⟨hs.ungranted, fun u w' hmem kind intentId hw' => ?_,
    fun u copy outcome at_ row hmem hrow => ?_, fun u row hmem => ?_⟩
  · have hlift : (∃ copy at_, Write.resolveIntent copy .succeeded at_ ∈ s.writes u ∧
        copy.intentId = intentId) → ∃ copy at_,
          Write.resolveIntent copy .succeeded at_ ∈ (wrote t w s).writes u ∧
            copy.intentId = intentId := by
      rintro ⟨copy, at_, hres, hid⟩
      exact ⟨copy, at_, (Store.mem_record_writes _ _ _).2 (.inl hres), hid⟩
    refine hlift ?_
    rcases (Store.mem_record_writes _ _ _).1 hmem with hmem | ⟨rfl, rfl⟩
    · exact hs.granting u w' hmem kind intentId hw'
    · cases w' <;> simp only [Write.grants, Option.some.injEq, Prod.mk.injEq, reduceCtorEq] at hw'
      · exact hw'.2 ▸ hobl
      · exact hw'.2 ▸ hobl
  · by_cases hu : u = t
    · subst hu
      have hview : (wrote u w s).view u = w.apply (s.view u) := Store.record_view _ _ _
      rw [hview, Write.intent?_apply] at hrow
      rcases (Store.mem_record_writes _ _ _).1 hmem with hmem | ⟨-, rfl⟩
      · rcases Write.onIntent_origin hrow with ⟨row₀, hrow₀, hkind, hstatus⟩ | ⟨-, rfl, hid⟩
        · obtain ⟨hpending, hkind₀⟩ := hs.resolved u copy outcome at_ row₀ hmem hrow₀
          refine ⟨?_, fun ho => hkind.trans (hkind₀ ho)⟩
          rcases hstatus with hstatus | ⟨_, outcome', _, -, -, hstatus⟩
          · rwa [hstatus]
          · rw [hstatus]
            exact outcome'.status_ne_pending
        · -- the id of a new intent is not one the session has resolved
          simp only [wholeFulfilments, Bool.and_eq_true, Bool.not_eq_true', List.any_eq_false] at hreg
          have := hreg.2 _ hmem
          simp [Write.resolves, hid] at this
      · simp only [Write.onIntent, if_true] at hrow
        obtain ⟨row₀, hrow₀, rfl⟩ := Option.map_eq_some_iff.1 hrow
        refine ⟨outcome.status_ne_pending, fun ho => ?_⟩
        subst ho
        have hcopy : (s.view u).intent? copy.intentId = some copy := hobl
        rw [hcopy, Option.some.injEq] at hrow₀
        rw [← hrow₀]
        rfl
    · refine hs.resolved u copy outcome at_ row ?_ ?_
      · exact ((Store.mem_record_writes _ _ _).1 hmem).resolve_right fun h => hu h.1
      · rwa [show (wrote t w s).view u = s.view u from Store.record_view_of_ne _ _ _ hu] at hrow
  · rcases (Store.mem_record_writes _ _ _).1 hmem with hmem | ⟨rfl, rfl⟩
    · exact hs.created u row hmem
    · refine ⟨hobl, fun kind => ?_⟩
      simp only [wholeFulfilments, Bool.and_eq_true, Bool.not_eq_true'] at hreg
      cases kind
      · exact hreg.1.1.1
      · exact hreg.1.1.2
      · exact hreg.1.2

/-- What a session reads of a pending intent has no grant. -/
theorem GrantInv.ungranted_view {s : Store} (hs : GrantInv s) {t : Tid} {intentId : String}
    {row : PaymentIntent} (hrow : (s.view t).intent? intentId = some row)
    (hpending : row.status = .pending) (kind : Kind) :
    (s.view t).granted kind intentId = false := by
  rw [Bool.eq_false_iff]
  intro hgranted
  rcases granted_applyAll hgranted with hdb | ⟨w, hw, hgrants⟩
  · rcases status_origin hrow with ⟨row₀, hrow₀, hs₀⟩ | ⟨row₀, hmem, hid, -⟩ |
      ⟨_, outcome, _, -, -, hs₀⟩
    · rw [hs.ungranted intentId row₀ hrow₀ (hs₀ ▸ hpending) kind] at hdb
      simp at hdb
    · rw [← hid, (hs.created t row₀ hmem).2 kind] at hdb
      simp at hdb
    · exact outcome.status_ne_pending (hs₀ ▸ hpending)
  · obtain ⟨copy, at_, hmem, hid⟩ := hs.granting t w hw kind intentId hgrants
    exact (hs.resolved t copy .succeeded at_ row hmem (hid ▸ hrow)).1 hpending

theorem GrantInv.commit {s : Store} (hs : GrantInv s) (hdis : s.Disciplined) (t : Tid) :
    GrantInv ((s.publish t).finish t) := by
  refine ⟨fun intentId row hrow hpending kind => hs.ungranted_view hrow hpending kind,
    fun u w hmem kind intentId hw => ?_, fun u copy outcome at_ row hmem hrow => ?_,
    fun u row hmem => ?_⟩
  · obtain ⟨hne, hmem⟩ := (Store.mem_finish_writes _ _).1 hmem
    obtain ⟨copy, at_, hres, hid⟩ := hs.granting u w hmem kind intentId hw
    exact ⟨copy, at_, (Store.mem_finish_writes _ _).2 ⟨hne, hres⟩, hid⟩
  · obtain ⟨hne, hmem⟩ := (Store.mem_finish_writes _ _).1 hmem
    -- the lock of the status write keeps the commit off its row
    have hheld : s.Holds u (.intent copy.intentId) .noKeyUpdate :=
      hdis.covered hmem (by simp [Write.needs])
    have hsteady : Steady u s ((s.publish t).finish t) :=
      (Steady.publish (Ne.symm hne) hdis).trans (.finish (Ne.symm hne) _)
    exact hs.resolved u copy outcome at_ row hmem
      ((hsteady.agree_view hheld (by decide)).trans hrow)
  · obtain ⟨hne, hmem⟩ := (Store.mem_finish_writes _ _).1 hmem
    refine ⟨(hs.created u row hmem).1, fun kind => ?_⟩
    rw [Bool.eq_false_iff]
    intro hgranted
    rcases granted_applyAll hgranted with hdb | ⟨w, hw, hgrants⟩
    · rw [(hs.created u row hmem).2 kind] at hdb
      simp at hdb
    · -- the grant would lock the intent that the other session is inserting
      obtain ⟨copy, at_, hres, hid⟩ := hs.granting t w hw kind _ hgrants
      have hnew : s.Holds u (.intent row.intentId) .update :=
        hdis.covered hmem (by simp [Write.needs])
      have hold : s.Holds t (.intent row.intentId) .noKeyUpdate :=
        hdis.covered hres (by simp [Write.needs, hid])
      simpa [LockMode.conflicts] using hdis.compatible hne hnew hold

theorem grantContract_sound : grantContract.Sound wholeFulfilments := by
  refine .of_steps ?_ ?_ ?_ ?_
  · intro t s s' hq hs
    exact ⟨GrantInv.of_same hs hq.db fun u => .inl (congrFun hq.writes u), trivial⟩
  · intro t w s _ hs hobl hreg _
    exact ⟨GrantInv.write hs hobl hreg, trivial⟩
  · intro t s hdis hs _ _ _
    exact ⟨GrantInv.commit hs hdis t, trivial⟩
  · intro t s hs
    refine ⟨GrantInv.of_same hs rfl fun u => ?_, trivial⟩
    by_cases hu : u = t
    · subst hu
      exact .inr (Store.finish_writes _ _)
    · exact .inl (Function.update_of_ne hu _ _)

/-! ## The programs -/

theorem accounted_stable {t : Tid} {copy : PaymentIntent} :
    Stable grantContract t (Accounted t copy) := by
  refine ⟨fun {s s'} hb hs => ?_⟩
  unfold Accounted at hs ⊢
  rw [hb.writes, hb.info]
  refine hs.imp_right (.imp_right (.imp_right fun h => ⟨hb.holds_iff.2 h.1, fun row hrow => ?_⟩))
  exact h.2 row ((hb.agree h.1 (by decide)).trans hrow)

theorem Accounted.quiet {t : Tid} {copy : PaymentIntent} {s s' : Store} (hq : Quiet t s s')
    (hinfo : (s'.info t).failedIntents = (s.info t).failedIntents) (hs : Accounted t copy s) :
    Accounted t copy s' := by
  unfold Accounted at hs ⊢
  rw [hq.writes, hinfo, hq.db]
  exact hs.imp_right (.imp_right (.imp_right fun h => ⟨hq.holds h.1, h.2⟩))

theorem Accounted.wrote {t : Tid} {copy : PaymentIntent} {s : Store} {w : Write}
    (hs : Accounted t copy s) : Accounted t copy (wrote t w s) := by
  refine hs.imp ?_ (.imp_right (.imp_right fun h => ⟨?_, h.2⟩))
  · rintro ⟨w', hmem, hw'⟩
    exact ⟨w', (Store.mem_record_writes _ _ _).2 (.inl hmem), hw'⟩
  · exact Store.holds_record.2 (Store.holds_acquire.2 (.inr h.1))

variable {t : Tid} {isOpen : PaymentIntent → Prop}

theorem accounts_stable : Stable grantContract t (Accounts t isOpen) := by
  refine ⟨fun {s s'} hb hs => ⟨fun title intentId => ?_, fun copy at_ hmem => ?_⟩⟩
  · rw [hb.writes]
    exact hs.keeps title intentId
  · rw [hb.writes] at hmem
    exact (hs.accounted copy at_ hmem).imp_right (accounted_stable.keep hb)

theorem Accounts.quiet {s s' : Store} (hq : Quiet t s s')
    (hinfo : (s'.info t).failedIntents = (s.info t).failedIntents) (hs : Accounts t isOpen s) :
    Accounts t isOpen s' := by
  refine ⟨fun title intentId => ?_, fun copy at_ hmem => ?_⟩
  · rw [hq.writes]
    exact hs.keeps title intentId
  · rw [hq.writes] at hmem
    exact (hs.accounted copy at_ hmem).imp_right (.quiet hq hinfo)

/-- A write that fulfils nothing and deletes no grant. -/
def Write.leavesGrants : Write → Prop
  | .resolveIntent _ .succeeded _ => False
  | .deleteReceipt _ _ => False
  | _ => True

theorem Accounts.wrote {s : Store} {w : Write} (hw : w.leavesGrants) (hs : Accounts t isOpen s) :
    Accounts t isOpen (wrote t w s) := by
  refine ⟨fun title intentId hmem => ?_, fun copy at_ hmem => ?_⟩
  · rcases (Store.mem_record_writes _ _ _).1 hmem with hmem | ⟨-, rfl⟩
    · exact hs.keeps title intentId hmem
    · exact hw
  · rcases (Store.mem_record_writes _ _ _).1 hmem with hmem | ⟨-, rfl⟩
    · exact (hs.accounted copy at_ hmem).imp_right .wrote
    · exact hw.elim

theorem Accounts.close {s : Store} {copy : PaymentIntent} (hs : Accounts t (· = copy) s)
    (hcopy : Accounted t copy s) : Accounts t (fun _ => False) s := by
  refine ⟨hs.keeps, fun copy' at_ hmem => .inr ?_⟩
  rcases hs.accounted copy' at_ hmem with rfl | h
  · exact hcopy
  · exact h

/-- The writes of checkout, and those to subscriptions. -/
def Write.beforeGrants (w : Write) : Prop :=
  w.ofCheckout ∨ (∃ row, w = .insertSubscription row) ∨ ∃ row, w = .updateSubscription row

theorem Write.beforeGrants.leavesGrants {w : Write} (h : w.beforeGrants) : w.leavesGrants := by
  rcases h with h | ⟨row, rfl⟩ | ⟨row, rfl⟩
  · cases w <;> first | exact h.elim | trivial
  · trivial
  · trivial

theorem Write.beforeGrants.obl {w : Write} (h : w.beforeGrants) (s : Store) :
    GrantObl t (.write w : Stmt Unit) s := by
  rcases h with h | ⟨row, rfl⟩ | ⟨row, rfl⟩
  · cases w <;> first | exact h.elim | exact h
  · trivial
  · trivial

theorem grantObl_of_mild {α : Type} (c : Stmt α) (s : Store) (h : Mild (fun _ => False) c) :
    GrantObl t c s := by
  cases c with
  | write w => exact h.elim
  | commit => exact h.elim
  | _ => trivial

theorem accountsUpkeep : Upkeep grantContract t Write.beforeGrants (Accounts t isOpen) where
  stable := accounts_stable
  quiet := .quiet
  mild := grantObl_of_mild
  write _ hw s _ hs _ := ⟨hw.obl s, hs.wrote hw.leavesGrants⟩

theorem Steady.noted {s s' : Store} (h : Steady t s s') (intentId : String) :
    Steady t (noted t intentId s) (noted t intentId s') where
  locks := h.locks
  writes := h.writes
  active := h.active
  doomed := h.doomed
  info := by simp [Billing.noted, h.info]
  agree hk := h.agree hk

theorem Accounted.noted {copy : PaymentIntent} {s : Store} (intentId : String)
    (hs : Accounted t copy s) : Accounted t copy (noted t intentId s) := by
  refine hs.imp_right (.imp_left fun h => ?_)
  simp [Billing.noted, h]

/-- Settlement accounts for all it has fulfilled. -/
theorem accountsLedger :
    Ledger grantContract t Write.beforeGrants (Accounts t fun _ => False) where
  toUpkeep := accountsUpkeep
  rollback _ := trivial
  session _ _ := trivial
  finish s := ⟨by simp, by simp⟩
  note s intentId hs :=
    ⟨hs.keeps, fun copy at_ hmem => (hs.accounted copy at_ hmem).imp_right (.noted intentId)⟩
  stableNoted intentId :=
    ⟨fun hb hs => accounts_stable.keep ⟨Steady.noted hb.toSteady intentId, trivial, trivial⟩ hs⟩
  supersede copy at_ s _ _ hs _ := ⟨trivial, hs.wrote trivial⟩
  commit s _ hs _ _ := hs

/-- The session has fulfilled the row it holds, and may still owe the grant. -/
structure Owing (t : Tid) (locked : PaymentIntent) (s : Store) : Prop where
  accounts : Accounts t (· = locked) s
  held : s.Holds t (.intent locked.intentId) .update
  fulfilled : ∃ at_, .resolveIntent locked .succeeded at_ ∈ s.writes t

section

variable {locked : PaymentIntent}

theorem owingUpkeep : Upkeep grantContract t Write.beforeGrants (Owing t locked) where
  stable := by
    refine ⟨fun {s s'} hb hs => ⟨accounts_stable.keep hb hs.accounts, hb.holds_iff.2 hs.held, ?_⟩⟩
    rw [hb.writes]
    exact hs.fulfilled
  quiet {s s'} hq hinfo hs := by
    refine ⟨hs.accounts.quiet hq hinfo, hq.holds hs.held, ?_⟩
    rw [hq.writes]
    exact hs.fulfilled
  mild := grantObl_of_mild
  write w hw s _ hs _ := by
    refine ⟨hw.obl s, hs.accounts.wrote hw.leavesGrants, ?_, ?_⟩
    · exact Store.holds_record.2 (Store.holds_acquire.2 (.inr hs.held))
    · obtain ⟨at_, hmem⟩ := hs.fulfilled
      exact ⟨at_, (Store.mem_record_writes _ _ _).2 (.inl hmem)⟩

/-- A grant that is there already was made by this session, or the row was not pending. -/
theorem Owing.close_of_granted {s : Store} (hc : Calm grantContract s) (hs : Owing t locked s)
    (h : (s.view t).granted locked.kind locked.intentId = true) :
    Accounts t (fun _ => False) s := by
  refine hs.accounts.close ?_
  rcases granted_applyAll h with hdb | ⟨w, hmem, hw⟩
  · refine .inr (.inr (.inr ⟨hs.held, fun row hrow hpending => ?_⟩))
    rw [hc.inv.ungranted _ row hrow hpending] at hdb
    simp at hdb
  · exact .inl ⟨w, hmem, hw⟩

theorem Owing.close_of_grants {s : Store} (hs : Owing t locked s) {w : Write}
    (hw : w.grants = some (locked.kind, locked.intentId)) :
    GrantObl t (.write w : Stmt Unit) s ∧ Accounts t (fun _ => False) (wrote t w s) := by
  have hobl : ∃ copy at_, .resolveIntent copy .succeeded at_ ∈ s.writes t ∧
      copy.intentId = locked.intentId :=
    hs.fulfilled.elim fun at_ hmem => ⟨locked, at_, hmem, rfl⟩
  refine ⟨?_, (hs.accounts.wrote ?_).close (.inl ⟨w, ?_, hw⟩)⟩
  · cases w <;> simp only [Write.grants, Option.some.injEq, Prod.mk.injEq, reduceCtorEq] at hw
    · simpa only [GrantObl, hw.2] using hobl
    · simpa only [GrantObl, hw.2] using hobl
  · cases w <;> simp only [Write.grants, reduceCtorEq] at hw <;> trivial
  · exact (Store.mem_record_writes _ _ _).2 (.inr ⟨rfl, rfl⟩)

theorem Owing.noted {s : Store} (hs : Owing t locked s) :
    Accounts t (fun _ => False) (noted t locked.intentId s) := by
  have hopen : Accounts t (· = locked) (Billing.noted t locked.intentId s) :=
    ⟨hs.accounts.keeps, fun copy at_ hmem =>
      (hs.accounts.accounted copy at_ hmem).imp_right (.noted _)⟩
  exact hopen.close (.inr (.inl (by simp [Billing.noted])))

/-! ### The grant -/

variable {C : Contract}

/-- What an exception leaves once the grant is owed. -/
abbrev Failed (t : Tid) (locked : PaymentIntent) (_ : Err) (s : Store) : Prop :=
  Accounts t (fun _ => False) (noted t locked.intentId s)

theorem owing_mild {α : Type} {p : Prog α} (hp : p.Every (Mild Write.beforeGrants)) :
    Triple grantContract t (Books t (Owing t locked)) p (fun _ => Books t (Owing t locked))
      (Failed t locked) :=
  fun s hs => (owingUpkeep.every hp s hs).mono (fun _ _ => id) fun _ _ h =>
    h.elim .inl fun h => h.imp_right Owing.noted

theorem closed_reads {α : Type} {p : Prog α} (hp : p.Every Reads) :
    Triple grantContract t (Books t (Accounts t fun _ => False)) p
      (fun _ => Books t (Accounts t fun _ => False)) (Failed t locked) :=
  fun s hs => (accountsLedger.reads hp s hs).mono (fun _ _ => id) fun _ s h =>
    h.elim .inl fun h => h.imp_right (accountsLedger.note s _)

theorem owing_select {query : Db → Bool}
    (hquery : ∀ d, query d = d.granted locked.kind locked.intentId) :
    Triple grantContract t (Books t (Owing t locked)) (.select query)
      (fun found => if found then Books t (Accounts t fun _ => False) else Books t (Owing t locked))
      (Failed t locked) := by
  refine .select owingUpkeep.books_stable fun s hc hs hd => ⟨trivial, ?_⟩
  have hlive := hs.resolve_left (by simp [hd])
  split
  · next hfound =>
      rw [hquery] at hfound
      exact .inr ((hlive.close_of_granted hc hfound).quiet (.begin t s) rfl)
  · exact .inr (owingUpkeep.quiet (.begin t s) rfl hlive)

theorem owing_enter {key : Key} {taken : Db → Bool}
    (htaken : ∀ d, taken d = d.granted locked.kind locked.intentId) :
    Triple grantContract t (Books t (Owing t locked)) (.enter key taken)
      (fun entered =>
        if entered then Books t (Owing t locked) else Books t (Accounts t fun _ => False))
      (Failed t locked) := by
  refine .enter owingUpkeep.books_stable fun s hc hs hd => ⟨trivial, fun _ hfound => ?_,
    fun _ _ => ?_⟩
  all_goals have hlive := hs.resolve_left (by simp [hd])
  · rw [htaken] at hfound
    exact .inr ((hlive.close_of_granted hc hfound).quiet (.begin t s) rfl)
  · exact .inr (owingUpkeep.quiet (.acquire t s _) rfl hlive)

theorem owing_write {w : Write} (hw : w.grants = some (locked.kind, locked.intentId)) :
    Triple grantContract t (Books t (Owing t locked)) (.write w)
      (fun _ => Books t (Accounts t fun _ => False)) (Failed t locked) := by
  refine .write owingUpkeep.books_stable fun s hc hs hd => ?_
  obtain ⟨hobl, hclosed⟩ := (hs.resolve_left (by simp [hd])).close_of_grants hw
  exact ⟨hobl, fun _ => .inr hclosed⟩

theorem owing_insertReceipt (title : Title) {row : Receipt} (hkind : locked.kind = title.kind)
    (hid : row.intentId = locked.intentId) :
    Triple grantContract t (Books t (Owing t locked)) (insertReceipt title row)
      (fun _ => Books t (Accounts t fun _ => False)) (Failed t locked) := by
  refine .bind (owing_enter fun d => ?_) fun entered => ?_
  · rw [hkind, hid]
    cases title <;> rfl
  · cases entered with
    | false => exact .ret fun _ hs => hs
    | true =>
        refine .bind (owing_mild (enterUnique_mild _ _)) fun _ => ?_
        refine .bind (owing_mild (referenceUser_mild _)) fun _ => ?_
        refine .bind (owing_mild (referenceTitle_mild _ _)) fun _ => owing_write ?_
        rw [hkind, ← hid]
        rfl

theorem owing_grantTitle (title : Title) (titleId : Uuid) (now : Instant) (bank : Option String)
    (hkind : locked.kind = title.kind) :
    Triple grantContract t (Books t (Owing t locked))
      (grantTitle title titleId (locked.resolved .succeeded (some now)) bank)
      (fun _ => Books t (Accounts t fun _ => False)) (Failed t locked) := by
  refine .bind (owing_select fun d => ?_) fun found => ?_
  · rw [hkind]
    cases title <;> rfl
  · cases found with
    | true => exact .ret fun _ hs => hs
    | false =>
        exact .bind (owing_insertReceipt title hkind rfl) fun _ =>
          closed_reads (notifyPaymentSucceeded_reads _ _)

theorem owing_insertPayment {row : SubscriptionPayment} (hkind : locked.kind = .sub)
    (hid : row.intentId = locked.intentId) :
    Triple grantContract t (Books t (Owing t locked)) (insertPayment row)
      (fun _ => Books t (Accounts t fun _ => False)) (Failed t locked) := by
  refine .bind (owing_enter fun d => ?_) fun entered => ?_
  · rw [hkind, hid]
    rfl
  · cases entered with
    | false => exact .ret fun _ hs => hs
    | true =>
        refine .bind (owing_mild (enterUnique_mild _ _)) fun _ => owing_write ?_
        rw [hkind, ← hid]
        rfl

theorem owing_grantSubscription (now : Instant) (bank : Option String)
    (hkind : locked.kind = .sub) :
    Triple grantContract t (Books t (Owing t locked))
      (grantSubscription (locked.resolved .succeeded (some now)) now bank)
      (fun _ => Books t (Accounts t fun _ => False)) (Failed t locked) := by
  refine .bind (owing_select fun d => ?_) fun found => ?_
  · rw [hkind]
    rfl
  · cases found with
    | true => exact .ret fun _ hs => hs
    | false =>
        refine .bind (owing_mild (lockBuyer_mild _)) fun _ => ?_
        refine .bind (owing_mild ((resolvePlanForSubscriptionIntent_reads _).mono fun _ =>
          Reads.mild _)) fun plan => ?_
        refine .bind (owing_mild (lockSubscription_mild _)) fun subscription? => ?_
        refine .bind (owing_mild (saveSubscription_mild _ _ _ _ _
          (fun row => .inr (.inl ⟨row, rfl⟩)) fun row => .inr (.inr ⟨row, rfl⟩))) fun row => ?_
        exact .bind (owing_insertPayment hkind rfl) fun _ =>
          closed_reads (notifyPaymentSucceeded_reads _ _)

/-- A grant pays what the fulfilment owes, where there is anything to grant. -/
theorem owing_grant (now : Instant) (bank : Option String) :
    Triple grantContract t (Books t (Owing t locked))
      (grant (locked.resolved .succeeded (some now)) now bank)
      (fun _ => Books t (Accounts t fun _ => False)) (Failed t locked) := by
  have hnothing (h : locked.grantable = false) : Triple grantContract t (Books t (Owing t locked))
      (notifyPaymentSucceeded (locked.resolved .succeeded (some now)) bank)
      (fun _ => Books t (Accounts t fun _ => False)) (Failed t locked) :=
    (closed_reads (notifyPaymentSucceeded_reads _ _)).pre fun s hs =>
      hs.imp_right fun hs => hs.accounts.close (.inr (.inr (.inl h)))
  unfold grant
  split
  · next hkind =>
      have hkind : locked.kind = .single := hkind
      split
      · exact owing_grantTitle .movie _ now bank hkind
      · next hnone =>
          have hnone : locked.contentId = none := hnone
          exact hnothing (by simp [PaymentIntent.grantable, hkind, hnone])
  · next hkind =>
      have hkind : locked.kind = .series := hkind
      split
      · exact owing_grantTitle .series _ now bank hkind
      · next hnone =>
          have hnone : locked.seriesId = none := hnone
          exact hnothing (by simp [PaymentIntent.grantable, hkind, hnone])
  · next hkind => exact owing_grantSubscription now bank hkind

end

theorem accountsBookkeeping :
    Bookkeeping grantContract t Write.beforeGrants (Accounts t fun _ => False) where
  toLedger := accountsLedger
  fulfill intent bank := by
    refine accountsLedger.fulfillPaymentIntent (P := fun locked _ => Books t (Owing t locked))
      intent bank ?_ fun locked now hid => ?_
    · intro locked now s _ _ _ hlocked hs _
      refine ⟨hlocked.2, .inr ⟨⟨fun title intentId hmem => ?_, fun copy at_ hmem => ?_⟩, ?_, ?_⟩⟩
      · exact hs.keeps title intentId
          (((Store.mem_record_writes _ _ _).1 hmem).resolve_right (by simp))
      · rcases (Store.mem_record_writes _ _ _).1 hmem with hmem | ⟨-, heq⟩
        · exact .inr (Accounted.wrote ((hs.accounted copy at_ hmem).resolve_left id))
        · simp only [Write.resolveIntent.injEq, true_and] at heq
          exact .inl heq.1
      · exact Store.holds_record.2 (Store.holds_acquire.2 (.inr hlocked.1))
      · exact ⟨some now, (Store.mem_record_writes _ _ _).2 (.inr ⟨rfl, rfl⟩)⟩
    · rw [← hid]
      exact owing_grant now bank

/-- Sessions that settle nothing fulfil nothing. -/
theorem unfulfillingLedger :
    Ledger grantContract t Write.ofAdministration
      fun s => ∀ copy at_, .resolveIntent copy .succeeded at_ ∉ s.writes t where
  stable := ⟨fun hb hs => by simpa only [hb.writes] using hs⟩
  quiet hq _ hs := by simpa only [hq.writes] using hs
  mild := grantObl_of_mild
  rollback _ := trivial
  session _ _ := trivial
  finish s := by simp
  note s intentId hs := hs
  stableNoted intentId := ⟨fun hb hs => by simpa only [noted, hb.writes] using hs⟩
  write w hw s _ hs _ := by
    refine ⟨?_, fun copy at_ hmem => ?_⟩
    · cases w <;> first | exact hw.elim | trivial
    · rcases (Store.mem_record_writes _ _ _).1 hmem with hmem | ⟨-, rfl⟩
      · exact hs copy at_ hmem
      · exact hw
  supersede copy at_ s _ _ hs _ :=
    ⟨trivial, fun copy' at_' hmem => hs copy' at_'
      (((Store.mem_record_writes _ _ _).1 hmem).resolve_right (by simp))⟩
  commit s _ hs _ := fun ⟨copy, at_, hmem⟩ => (hs copy at_ hmem).elim

/-! ## Whole runs -/

/-- No intent that can still be paid has its grant already. -/
def Db.Ungranted (d : Db) : Prop :=
  ∀ row ∈ d.intents, row.status = .pending → ∀ kind, d.granted kind row.intentId = false

theorem grantContract_keeps (cfg : Settings) {d : Db} (hd : d.Ungranted) (world : World)
    (requests : Tid → Request) :
    Pool.Keeps grantContract (fun _ _ => True) (fun t _ s => s.doomed t = true ∨ True)
      (start cfg d world requests) := by
  refine Pool.Keeps.start ⟨fun intentId row hrow hpending kind => ?_, by simp [Store.idle],
    by simp [Store.idle], by simp [Store.idle]⟩ fun t => ?_
  · have hid : row.intentId = intentId := key_of_lookup hrow
    rw [← hid]
    exact hd row (mem_of_lookup hrow) hpending kind
  · cases h : (requests t).isCheckout with
    | true =>
        refine (accountsBookkeeping.checkoutRequest cfg (fun w hw _ => .inl hw) h
          fun _ _ _ _ => .inl trivial).conseq (fun s hs => .inr ?_) (fun _ _ _ => trivial)
          fun _ _ => id
        subst hs
        exact ⟨by simp [Store.idle], by simp [Store.idle]⟩
    | false =>
        refine (unfulfillingLedger.administrationRequest cfg (fun w hw _ => hw) h
          fun _ _ _ => trivial).conseq (fun s hs => .inr ?_) (fun _ _ _ => trivial) fun _ _ => id
        subst hs
        simp [Store.idle]

/-- The next event of session `t` moves the intent from `pending` to `succeeded`. -/
def Shop.succeeds (t : Tid) (granted : Bool) (kind : Kind) (p : Pool) : Bool :=
  decide (Shop.status p = some .pending) &&
    (p.next (.run t)).any fun q =>
      decide (Shop.status q = some .succeeded) &&
        decide (q.store.db.granted kind "bkg-1" = granted)

theorem Shop.exists_succeeds (R : Regime) (d : Db) (requests : Tid → Request)
    (evs : List (Event World)) (t : Tid) (granted : Bool) (kind : Kind)
    (h : (Pool.play R (start .default d Shop.world requests) evs).any
      (fun p => p.admits R (.run t) && Shop.succeeds t granted kind p) = true) :
    ∃ p q, Pool.Run R (start .default d Shop.world requests) p ∧
      p.admits R (.run t) = true ∧ p.next (.run t) = some q ∧
      Shop.status p = some .pending ∧ Shop.status q = some .succeeded ∧
      q.store.db.granted kind "bkg-1" = granted := by
  obtain ⟨p, hp, h⟩ := Pool.exists_run_of_play h
  simp only [Shop.succeeds, Bool.and_eq_true, decide_eq_true_eq, Option.any_eq_true] at h
  obtain ⟨hallow, hpending, q, hnext, hsucceeded, hgranted⟩ := h
  exact ⟨p, q, hp, hallow, hnext, hpending, hsucceeded, hgranted⟩

theorem Shop.db_ungranted : Shop.db.Ungranted :=
  fun _ _ _ kind => by cases kind <;> rfl

/-- The movie is deleted while its QR is still open, and then paid for. -/
def Shop.deleteAndFulfill : Tid → Request
  | 0 => .deleteContent 10
  | 1 => .adminFulfill "bkg-1" 2
  | _ => .sweep

/-- A Baray subscription intent, and no active plan. -/
def Shop.withoutPlans : Db :=
  { Shop.db with
    intents := [{ Shop.intent with
      kind := .sub
      contentId := none
      method := .baray
      bakongMd5 := none
      orderId := "sub-gold-1" }] }

def Shop.barayPayment : Tid → Request
  | 0 => .webhook "sub-gold-1" none
  | _ => .sweep

end MovieApi.Billing
