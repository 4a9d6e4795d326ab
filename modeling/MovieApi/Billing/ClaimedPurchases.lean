import MovieApi.Billing.GrantedPayments
import MovieApi.Playback.Access

/-!
# Purchases of a guest who signs in

A claim moves the guest's purchases to the account first and the intents last.  A purchase
that is committed in between is not seen by the first statements, and its intent is moved by
the last one.  Where a claim gets to no intent whose purchases it has not moved, a purchase
belongs to the account its intent belongs to.
-/

namespace MovieApi.Billing

open ReadCommitted Sql

/-! ## Owners -/

/-- The purchase of the intent belongs to the account the intent belongs to. -/
def Db.Follows (d : Db) (title : Title) (intentId : String) : Prop :=
  ∀ row receipt user, d.intent? intentId = some row → d.receipt? title intentId = some receipt →
    row.userId = some user → receipt.userId = some user

/-- An account or a guest, not both. -/
def PaymentIntent.OneBuyer (row : PaymentIntent) : Prop := row.userId = none ∨ row.guestId = none

def Receipt.OneBuyer (receipt : Receipt) : Prop :=
  receipt.userId = none ∨ receipt.guestId = none

instance (row : PaymentIntent) : Decidable row.OneBuyer :=
  inferInstanceAs (Decidable (_ ∨ _))

instance (receipt : Receipt) : Decidable receipt.OneBuyer :=
  inferInstanceAs (Decidable (_ ∨ _))

/-- Owners are as they should be; `fresh` says of which purchases. -/
structure Db.Owned (fresh : Title → String → Prop) (d : Db) : Prop where
  follows : ∀ title intentId, fresh title intentId → d.Follows title intentId
  receipts : ∀ title intentId receipt, fresh title intentId →
    d.receipt? title intentId = some receipt → receipt.OneBuyer
  intents : ∀ intentId row, d.intent? intentId = some row → row.OneBuyer

/-- The purchases whose intent belongs to the account do so themselves. -/
def Db.allFollow (d : Db) (intentId : String) (user : Uuid) : Bool :=
  [Title.movie, .series].all fun title =>
    (d.receipt? title intentId).all fun receipt => decide (receipt.userId = some user)

theorem Db.userId_of_allFollow {d : Db} {intentId : String} {user : Uuid}
    (h : d.allFollow intentId user = true) {title : Title} {receipt : Receipt}
    (hreceipt : d.receipt? title intentId = some receipt) : receipt.userId = some user := by
  simp only [allFollow, List.all_cons, List.all_nil, Bool.and_true, Bool.and_eq_true] at h
  cases title with
  | movie => simpa [hreceipt] using h.1
  | series => simpa [hreceipt] using h.2

/-! ## Where a purchase comes from -/

/-- Without an insert, the purchase of an intent is the one there was, claimed or not. -/
theorem receipt_origin {ws : List Write} {d : Db} {title : Title} {intentId : String}
    {receipt : Receipt} (hws : ∀ row, .insertReceipt title row ∈ ws → row.intentId ≠ intentId)
    (h : (applyAll ws d).receipt? title intentId = some receipt) :
    ∃ found, d.receipt? title intentId = some found ∧ (receipt = found ∨
      receipt.guestId = none ∧ ∃ user, .claimReceipt title intentId user ∈ ws) := by
  induction ws using List.reverseRecOn generalizing receipt with
  | nil => exact ⟨receipt, h, .inl rfl⟩
  | append_singleton ws w ih =>
      have hlift : ∀ {receipt : Receipt}, (applyAll ws d).receipt? title intentId = some receipt →
          ∃ found, d.receipt? title intentId = some found ∧ (receipt = found ∨
            receipt.guestId = none ∧ ∃ user, .claimReceipt title intentId user ∈ ws ++ [w]) := by
        intro receipt h
        obtain ⟨found, hfound, hreceipt⟩ := ih (fun row hmem => hws row (by simp [hmem])) h
        refine ⟨found, hfound, hreceipt.imp_right fun hclaimed => ⟨hclaimed.1, ?_⟩⟩
        obtain ⟨user, hmem⟩ := hclaimed.2
        exact ⟨user, by simp [hmem]⟩
      rw [applyAll_append, applyAll_cons, applyAll_nil, apply_eq, Write.receipt?_apply] at h
      cases w with
      | insertReceipt title' row =>
          simp only [Write.onReceipt] at h
          split at h
          · next htitle =>
              subst htitle
              rw [if_neg (hws row (by simp)), Option.or_none] at h
              exact hlift h
          · exact hlift h
      | claimReceipt title' intentId' user =>
          simp only [Write.onReceipt] at h
          split at h
          · next hsame =>
              obtain ⟨rfl, rfl⟩ := hsame
              obtain ⟨before, hbefore, rfl⟩ := Option.map_eq_some_iff.1 h
              obtain ⟨found, hfound, -⟩ := hlift hbefore
              exact ⟨found, hfound, .inr ⟨rfl, user, by simp⟩⟩
          · exact hlift h
      | deleteReceipt title' intentId' =>
          simp only [Write.onReceipt] at h
          split at h
          · simp at h
          · exact hlift h
      | _ => exact hlift h

/-! ## Writes -/

/-- What a write has to do with owners in `d`. -/
def Write.KeepsOwners (d : Db) : Write → Prop
  | .insertIntent row => row.OneBuyer ∧ ∀ title, d.receipt? title row.intentId = none
  | .claimIntent row user => d.allFollow row.intentId user = true
  | .insertReceipt _ receipt => receipt.OneBuyer ∧ ∀ row user,
      d.intent? receipt.intentId = some row → row.userId = some user → receipt.userId = some user
  | .claimReceipt title intentId _ =>
      ∀ receipt, d.receipt? title intentId = some receipt → receipt.guestId ≠ none
  | _ => True

/-- The owner of an intent changes when it is created and when it is claimed. -/
theorem Write.onIntent_owner {w : Write} {intentId : String} {row? : Option PaymentIntent}
    {row' : PaymentIntent} (h : w.onIntent intentId row? = some row') :
    (∃ row, row? = some row ∧ row'.userId = row.userId ∧ row'.guestId = row.guestId) ∨
    (w = .insertIntent row' ∧ row'.intentId = intentId) ∨
    ∃ row user, w = .claimIntent row user ∧ row.intentId = intentId ∧ row'.userId = some user ∧
      row'.guestId = none := by
  have hmap : ∀ f : PaymentIntent → PaymentIntent,
      (∀ row, (f row).userId = row.userId ∧ (f row).guestId = row.guestId) →
      row?.map f = some row' → ∃ row, row? = some row ∧ row'.userId = row.userId ∧
        row'.guestId = row.guestId := by
    intro f hf hmap
    obtain ⟨row, hrow, rfl⟩ := Option.map_eq_some_iff.1 hmap
    exact ⟨row, hrow, hf row⟩
  have hsame : row? = some row' → ∃ row, row? = some row ∧ row'.userId = row.userId ∧
      row'.guestId = row.guestId := fun h => ⟨row', h, rfl, rfl⟩
  cases w with
  | insertIntent row =>
      simp only [onIntent] at h
      cases hrow : row? with
      | some found => exact .inl (hrow ▸ hsame (by simpa [hrow] using h))
      | none =>
          rw [hrow, Option.none_or] at h
          split at h
          · next hid =>
              obtain rfl := Option.some.inj h
              exact .inr (.inl ⟨rfl, hid⟩)
          · simp at h
  | resolveIntent copy outcome at_ =>
      simp only [onIntent] at h
      split at h
      · exact .inl (hmap (copy.resolve outcome at_) (fun _ => ⟨rfl, rfl⟩) h)
      · exact .inl (hsame h)
  | replaceQr copy md5 qr merchant at_ =>
      simp only [onIntent] at h
      split at h
      · exact .inl (hmap (copy.withQr md5 qr merchant at_) (fun _ => ⟨rfl, rfl⟩) h)
      · exact .inl (hsame h)
  | claimIntent row user =>
      simp only [onIntent] at h
      split at h
      · next hid =>
          obtain ⟨found, -, rfl⟩ := Option.map_eq_some_iff.1 h
          exact .inr (.inr ⟨row, user, rfl, hid.symm, rfl, rfl⟩)
      · exact .inl (hsame h)
  | clearTitle title intentId' =>
      simp only [onIntent] at h
      split at h
      · exact .inl (hmap (fun row => row.cleared title)
          (fun _ => by cases title <;> exact ⟨rfl, rfl⟩) h)
      · exact .inl (hsame h)
  | deleteIntent intentId' =>
      simp only [onIntent] at h
      split at h
      · simp at h
      · exact .inl (hsame h)
  | _ => exact .inl (hsame h)

/-- A purchase changes hands when it is claimed. -/
theorem Write.onReceipt_owner {w : Write} {title : Title} {intentId : String}
    {receipt? : Option Receipt} {receipt' : Receipt}
    (h : w.onReceipt title intentId receipt? = some receipt') :
    receipt? = some receipt' ∨
    (receipt? = none ∧ w = .insertReceipt title receipt' ∧ receipt'.intentId = intentId) ∨
    ∃ receipt user, receipt? = some receipt ∧ w = .claimReceipt title intentId user ∧
      receipt' = receipt.claimed user := by
  cases w with
  | insertReceipt title' row =>
      simp only [onReceipt] at h
      split at h
      · next htitle =>
          subst htitle
          cases hreceipt : receipt? with
          | some found => exact .inl (by simpa [hreceipt] using h)
          | none =>
              rw [hreceipt, Option.none_or] at h
              split at h
              · next hid =>
                  obtain rfl := Option.some.inj h
                  exact .inr (.inl ⟨rfl, rfl, hid⟩)
              · simp at h
      · exact .inl h
  | claimReceipt title' intentId' user =>
      simp only [onReceipt] at h
      split at h
      · next hsame =>
          obtain ⟨rfl, rfl⟩ := hsame
          obtain ⟨receipt, hreceipt, rfl⟩ := Option.map_eq_some_iff.1 h
          exact .inr (.inr ⟨receipt, user, hreceipt, rfl, rfl⟩)
      · exact .inl h
  | deleteReceipt title' intentId' =>
      simp only [onReceipt] at h
      split at h
      · simp at h
      · exact .inl h
  | _ => exact .inl h

section

variable {fresh : Title → String → Prop} {d : Db} {w : Write}

theorem Db.Owned.receipts_apply (hd : d.Owned fresh) (hw : w.KeepsOwners d) {title : Title}
    {intentId : String} {receipt : Receipt} (hfresh : fresh title intentId)
    (h : (w.apply d).receipt? title intentId = some receipt) : receipt.OneBuyer := by
  rw [Write.receipt?_apply] at h
  rcases Write.onReceipt_owner h with h | ⟨-, rfl, -⟩ | ⟨found, user, -, rfl, rfl⟩
  · exact hd.receipts title intentId receipt hfresh h
  · exact hw.1
  · exact .inr rfl

theorem Db.Owned.intents_apply (hd : d.Owned fresh) (hw : w.KeepsOwners d) {intentId : String}
    {row : PaymentIntent} (h : (w.apply d).intent? intentId = some row) : row.OneBuyer := by
  rw [Write.intent?_apply] at h
  rcases Write.onIntent_owner h with ⟨found, hfound, huser, hguest⟩ | ⟨rfl, -⟩ |
    ⟨found, user, -, -, -, hguest⟩
  · exact (hd.intents intentId found hfound).imp huser.trans hguest.trans
  · exact hw.1
  · exact .inr hguest

theorem Db.Owned.follows_apply (hd : d.Owned fresh) (hw : w.KeepsOwners d) {title : Title}
    {intentId : String} (hfresh : fresh title intentId) : (w.apply d).Follows title intentId := by
  intro row receipt user hrow hreceipt huser
  rw [Write.intent?_apply] at hrow
  rw [Write.receipt?_apply] at hreceipt
  rcases Write.onReceipt_owner hreceipt with hfound | ⟨hnone, rfl, hid⟩ |
    ⟨found, user', hfound, rfl, rfl⟩
  · rcases Write.onIntent_owner hrow with ⟨row₀, hrow₀, huser₀, -⟩ | ⟨rfl, hid⟩ |
      ⟨row₀, user₀, rfl, hid, huser₀, -⟩
    · exact hd.follows title intentId hfresh row₀ receipt user hrow₀ hfound (huser₀ ▸ huser)
    · rw [← hid, hw.2 title] at hfound
      cases hfound
    · obtain rfl : user₀ = user := Option.some.inj (huser₀.symm.trans huser)
      rw [← hid] at hfound
      exact Db.userId_of_allFollow hw hfound
  · exact hw.2 row user (hid ▸ hrow) huser
  · -- a purchase that still carries a guest id belongs to nobody
    have hnobody : found.userId = none :=
      (hd.receipts title intentId found hfresh hfound).resolve_right (hw found hfound)
    have hfollows := hd.follows title intentId hfresh row found user hrow hfound huser
    rw [hnobody] at hfollows
    cases hfollows

theorem Db.Owned.apply (hd : d.Owned fresh) (hw : w.KeepsOwners d) : (w.apply d).Owned fresh :=
  ⟨fun _ _ hfresh => hd.follows_apply hw hfresh, fun _ _ _ hfresh => hd.receipts_apply hw hfresh,
    fun _ _ => hd.intents_apply hw⟩

end

/-! ## What a lock keeps off a row -/

/-- Session `t` holds the row in a mode that keeps others from changing it. -/
def Guards (t : Tid) (key : Key) (s : Store) : Prop := ∃ mode, mode ≠ .keyShare ∧ s.Holds t key mode

/-- A session that does not hold a row has not written it. -/
theorem spares_of_not_guards {s : Store} (hdis : s.Disciplined) {t : Tid} {key : Key}
    (h : ¬ Guards t key s) : ∀ w ∈ s.writes t, w.Spares key :=
  fun _ hw => ⟨fun hneeds => h ⟨.noKeyUpdate, by decide, hdis.covered hw hneeds⟩,
    fun hneeds => h ⟨.update, by decide, hdis.covered hw hneeds⟩⟩

/-- What one session holds, no other has written. -/
theorem spares_of_guards {s : Store} (hdis : s.Disciplined) {t u : Tid} (hne : u ≠ t) {key : Key}
    (h : Guards t key s) : ∀ w ∈ s.writes u, w.Spares key := by
  obtain ⟨mode, hmode, hheld⟩ := h
  exact fun w hw => Write.spares_of_compatible hmode fun mode' hneeds =>
    hdis.compatible (Ne.symm hne) hheld (hdis.covered hw hneeds)

theorem intent?_applyAll {ws : List Write} {intentId : String}
    (h : ∀ w ∈ ws, w.Spares (.intent intentId)) (d : Db) :
    (applyAll ws d).intent? intentId = d.intent? intentId :=
  applyAll_induction (P := fun d' : Db => d'.intent? intentId = d.intent? intentId) rfl
    fun w hw d' hd' => by
      rw [apply_eq, Write.intent?_apply, Write.onIntent_of_spares (h w hw), hd']

theorem receipt?_applyAll {ws : List Write} {title : Title} {intentId : String}
    (h : ∀ w ∈ ws, w.Spares (.receipt title intentId)) (d : Db) :
    (applyAll ws d).receipt? title intentId = d.receipt? title intentId :=
  applyAll_induction (P := fun d' : Db => d'.receipt? title intentId = d.receipt? title intentId)
    rfl fun w hw d' hd' => by
      rw [apply_eq, Write.receipt?_apply, Write.onReceipt_of_spares (h w hw), hd']

/-! ## The contract -/

/-- Owners are as they should be in the database and in what each session reads.  A purchase
that a session claims is committed with a guest id, and one that it inserts belongs to an
intent it holds. -/
structure OwnerInv (fresh : Title → String → Prop) (s : Store) : Prop where
  db : s.db.Owned fresh
  view : ∀ t, (s.view t).Owned fresh
  claiming : ∀ t title intentId user, .claimReceipt title intentId user ∈ s.writes t →
    ∀ receipt, s.db.receipt? title intentId = some receipt → receipt.guestId ≠ none
  inserting : ∀ t title receipt, .insertReceipt title receipt ∈ s.writes t →
    s.Holds t (.intent receipt.intentId) .update

/-- A fulfilment inserts the purchase of the intent it holds, for the intent's buyer; a claim
takes purchases that carry a guest id. -/
def OwnerObl (t : Tid) {α : Type} (c : Stmt α) (s : Store) : Prop :=
  match c with
  | .write (.insertReceipt title receipt) =>
      (Write.insertReceipt title receipt).KeepsOwners (s.view t) ∧
        s.Holds t (.intent receipt.intentId) .update
  | .write (.claimReceipt title intentId user) =>
      (Write.claimReceipt title intentId user).KeepsOwners (s.view t) ∧
        ∀ receipt, s.db.receipt? title intentId = some receipt → receipt.guestId ≠ none
  | _ => True

def ownerContract (fresh : Title → String → Prop) : Contract where
  Inv := OwnerInv fresh
  Obl := OwnerObl
  Rely _ _ := True
  rely_refl _ := trivial
  rely_trans _ _ := trivial

/-- When a claim gets to an intent, the intent's purchases belong to the account already; new
intents have new ids and one buyer. -/
def purchasesClaimedFirst : Regime where
  stmt t _ c s :=
    match c with
    | .write (.claimIntent row user) => (s.view t).allFollow row.intentId user
    | .write (.insertIntent row) =>
        decide row.OneBuyer && ((s.view t).receipt? .movie row.intentId).isNone &&
          ((s.view t).receipt? .series row.intentId).isNone
    | _ => true
  outside _ _ := true

section

variable {fresh : Title → String → Prop} {s s' : Store} {t u : Tid}

theorem OwnerInv.keepsOwners {w : Write} (hobl : OwnerObl t (.write w : Stmt Unit) s)
    (hreg : purchasesClaimedFirst.stmt t (.write w : Stmt Unit) s = true) :
    w.KeepsOwners (s.view t) := by
  cases w with
  | insertReceipt | claimReceipt => exact hobl.1
  | claimIntent row user => exact hreg
  | insertIntent row =>
      simp only [purchasesClaimedFirst, Bool.and_eq_true, decide_eq_true_eq,
        Option.isNone_iff_eq_none] at hreg
      refine ⟨hreg.1.1, fun title => ?_⟩
      cases title with
      | movie => exact hreg.1.2
      | series => exact hreg.2
  | _ => trivial

theorem OwnerInv.of_same (hs : OwnerInv fresh s) (hdb : s'.db = s.db)
    (hwrites : s'.writes = s.writes)
    (hholds : ∀ t key mode, s.Holds t key mode → s'.Holds t key mode) :
    OwnerInv fresh s' := by
  refine ⟨hdb ▸ hs.db, fun t => ?_, fun t => ?_, fun t title receipt hmem => ?_⟩
  · rw [Store.view, hdb, hwrites]
    exact hs.view t
  · rw [hdb, hwrites]
    exact hs.claiming t
  · rw [hwrites] at hmem
    exact hholds _ _ _ (hs.inserting t title receipt hmem)

theorem OwnerInv.write (hs : OwnerInv fresh s) {w : Write}
    (hobl : OwnerObl t (.write w : Stmt Unit) s)
    (hreg : purchasesClaimedFirst.stmt t (.write w : Stmt Unit) s = true) :
    OwnerInv fresh (wrote t w s) := by
  refine ⟨hs.db, fun u => ?_, fun u title intentId user hmem => ?_,
    fun u title receipt hmem => ?_⟩
  · by_cases hu : u = t
    · subst hu
      rw [show (wrote u w s).view u = w.apply (s.view u) from Store.record_view _ _ _]
      exact (hs.view u).apply (OwnerInv.keepsOwners hobl hreg)
    · rw [show (wrote t w s).view u = s.view u from Store.record_view_of_ne _ _ _ hu]
      exact hs.view u
  · rcases (Store.mem_record_writes _ _ _).1 hmem with hmem | ⟨rfl, rfl⟩
    · exact hs.claiming u title intentId user hmem
    · exact hobl.2
  · have hheld : s.Holds u (.intent receipt.intentId) .update := by
      rcases (Store.mem_record_writes _ _ _).1 hmem with hmem | ⟨rfl, rfl⟩
      · exact hs.inserting u title receipt hmem
      · exact hobl.2
    exact Store.holds_record.2 (Store.holds_acquire.2 (.inr hheld))

/-- A session that inserts no purchase of the intent can only have taken it from a guest, and
then the intent belongs to nobody. -/
theorem OwnerInv.follows_of_kept (hs : OwnerInv fresh s) {title : Title} {intentId : String}
    (hfresh : fresh title intentId)
    (hinserts : ∀ receipt, .insertReceipt title receipt ∈ s.writes u → receipt.intentId ≠ intentId)
    {d : Db} (hd : d.Owned fresh) (hkept : d.receipt? title intentId = s.db.receipt? title intentId)
    {row : PaymentIntent} {receipt : Receipt} {user : Uuid}
    (hrow : d.intent? intentId = some row) (huser : row.userId = some user)
    (h : (s.view u).receipt? title intentId = some receipt) : receipt.userId = some user := by
  obtain ⟨found, hfound, rfl | ⟨-, user', hclaim⟩⟩ := receipt_origin hinserts h
  · exact hd.follows title intentId hfresh row receipt user hrow (hkept.trans hfound) huser
  · have hguest := hs.claiming u title intentId user' hclaim found hfound
    rw [← hkept] at hfound
    have hnobody := (hd.receipts title intentId found hfresh hfound).resolve_right hguest
    have hfollows := hd.follows title intentId hfresh row found user hrow hfound huser
    rw [hnobody] at hfollows
    cases hfollows

/-- What session `t` reads of an intent after a commit of `u`. -/
theorem intent?_committed (hdis : s.Disciplined) (hne : u ≠ t) (intentId : String) :
    (Guards t (.intent intentId) s ∧
      (((s.publish u).finish u).view t).intent? intentId = (s.view t).intent? intentId) ∨
    (¬ Guards t (.intent intentId) s ∧
      (((s.publish u).finish u).view t).intent? intentId = (s.view u).intent? intentId) := by
  have hsteady : Steady t s ((s.publish u).finish u) :=
    (Steady.publish hne hdis).trans (.finish hne _)
  by_cases h : Guards t (.intent intentId) s
  · obtain ⟨mode, hmode, hheld⟩ := h
    exact .inl ⟨⟨mode, hmode, hheld⟩, ((hsteady.agree_view hheld) hmode).symm⟩
  · refine .inr ⟨h, ?_⟩
    rw [Store.view, hsteady.writes]
    exact intent?_applyAll (spares_of_not_guards hdis h) _

/-- What it reads of a purchase. -/
theorem receipt?_committed (hdis : s.Disciplined) (hne : u ≠ t) (title : Title)
    (intentId : String) :
    (Guards t (.receipt title intentId) s ∧
      (((s.publish u).finish u).view t).receipt? title intentId =
        (s.view t).receipt? title intentId) ∨
    (¬ Guards t (.receipt title intentId) s ∧
      (((s.publish u).finish u).view t).receipt? title intentId =
        (s.view u).receipt? title intentId) := by
  have hsteady : Steady t s ((s.publish u).finish u) :=
    (Steady.publish hne hdis).trans (.finish hne _)
  by_cases h : Guards t (.receipt title intentId) s
  · obtain ⟨mode, hmode, hheld⟩ := h
    exact .inl ⟨⟨mode, hmode, hheld⟩, ((hsteady.agree_view hheld) hmode).symm⟩
  · refine .inr ⟨h, ?_⟩
    rw [Store.view, hsteady.writes]
    exact receipt?_applyAll (spares_of_not_guards hdis h) _

theorem OwnerInv.follows_committed (hs : OwnerInv fresh s) (hdis : s.Disciplined) (hne : u ≠ t)
    {title : Title} {intentId : String} (hfresh : fresh title intentId) :
    (((s.publish u).finish u).view t).Follows title intentId := by
  intro row receipt user hrow hreceipt huser
  have hheld : ∀ v receipt, .insertReceipt title receipt ∈ s.writes v →
      receipt.intentId = intentId → Guards v (.intent intentId) s :=
    fun v receipt hmem hid => ⟨.update, by decide, hid ▸ hs.inserting v title receipt hmem⟩
  rcases intent?_committed hdis hne intentId with ⟨hintent, heq⟩ | ⟨hintent, heq⟩ <;>
    rcases receipt?_committed hdis hne title intentId with ⟨hguards, heq'⟩ | ⟨hguards, heq'⟩ <;>
    rw [heq] at hrow <;> rw [heq'] at hreceipt
  · exact (hs.view t).follows title intentId hfresh row receipt user hrow hreceipt huser
  · -- `t` holds the intent, so `u` has not inserted its purchase
    refine hs.follows_of_kept hfresh (fun receipt hmem hid => ?_) (hs.view t)
      (receipt?_applyAll (spares_of_not_guards hdis hguards) s.db) hrow huser hreceipt
    obtain ⟨mode, hmode, hlock⟩ := hintent
    have hconflict := hdis.compatible (Ne.symm hne) hlock
      (hid ▸ hs.inserting u title receipt hmem)
    rw [LockMode.conflicts_update] at hconflict
    cases hconflict
  · -- `t` holds the purchase, and does not hold the intent
    exact hs.follows_of_kept hfresh (fun receipt hmem hid => hintent (hheld t receipt hmem hid))
      (hs.view u) (receipt?_applyAll (spares_of_guards hdis hne hguards) s.db) hrow huser hreceipt
  · exact (hs.view u).follows title intentId hfresh row receipt user hrow hreceipt huser

theorem OwnerInv.commit (hs : OwnerInv fresh s) (hdis : s.Disciplined) (u : Tid) :
    OwnerInv fresh ((s.publish u).finish u) := by
  have hview : ∀ t, (((s.publish u).finish u).view t).Owned fresh := by
    intro t
    by_cases hne : u = t
    · subst hne
      rw [show ((s.publish u).finish u).view u = s.view u by simp [Store.view]]
      exact hs.view u
    · refine ⟨fun title intentId hfresh => hs.follows_committed hdis hne hfresh,
        fun title intentId receipt hfresh h => ?_, fun intentId row h => ?_⟩
      · rcases receipt?_committed hdis hne title intentId with ⟨-, heq⟩ | ⟨-, heq⟩ <;> rw [heq] at h
        · exact (hs.view t).receipts title intentId receipt hfresh h
        · exact (hs.view u).receipts title intentId receipt hfresh h
      · rcases intent?_committed hdis hne intentId with ⟨-, heq⟩ | ⟨-, heq⟩ <;> rw [heq] at h
        · exact (hs.view t).intents intentId row h
        · exact (hs.view u).intents intentId row h
  refine ⟨hs.view u, hview, fun t title intentId user hmem receipt h => ?_,
    fun t title receipt hmem => ?_⟩
  · obtain ⟨hne, hmem⟩ := (Store.mem_finish_writes _ _).1 hmem
    have hheld : s.Holds t (.receipt title intentId) .noKeyUpdate :=
      hdis.covered hmem (by simp [Write.needs])
    have hagree := (Steady.publish (Ne.symm hne) hdis).agree hheld (by decide)
    exact hs.claiming t title intentId user hmem receipt (hagree.trans h)
  · obtain ⟨hne, hmem⟩ := (Store.mem_finish_writes _ _).1 hmem
    exact Store.holds_finish.2 ⟨hne, hs.inserting t title receipt hmem⟩

theorem OwnerInv.finish (hs : OwnerInv fresh s) (u : Tid) : OwnerInv fresh (s.finish u) := by
  refine ⟨hs.db, fun t => ?_, fun t title intentId user hmem => ?_, fun t title receipt hmem => ?_⟩
  · by_cases hne : t = u
    · subst hne
      rw [show (s.finish t).view t = s.db by simp [Store.view]]
      exact hs.db
    · rw [show (s.finish u).view t = s.view t by simp [Store.view, Store.finish, hne]]
      exact hs.view t
  · exact hs.claiming t title intentId user ((Store.mem_finish_writes _ _).1 hmem).2
  · obtain ⟨hne, hmem⟩ := (Store.mem_finish_writes _ _).1 hmem
    exact Store.holds_finish.2 ⟨hne, hs.inserting t title receipt hmem⟩

theorem ownerContract_sound : (ownerContract fresh).Sound purchasesClaimedFirst := by
  refine .of_steps ?_ ?_ ?_ ?_
  · intro t s s' hq hs
    exact ⟨OwnerInv.of_same hs hq.db hq.writes fun _ _ _ => hq.holds, trivial⟩
  · intro t w s _ hs hobl hreg _
    exact ⟨OwnerInv.write hs hobl hreg, trivial⟩
  · intro t s hdis hs _ _ _
    exact ⟨OwnerInv.commit hs hdis t, trivial⟩
  · intro t s hs
    exact ⟨OwnerInv.finish hs t, trivial⟩

end

/-! ## The programs -/

/-- A write that neither makes nor claims a purchase. -/
def Write.leavesOwners : Write → Prop
  | .insertReceipt _ _ => False
  | .claimReceipt _ _ _ => False
  | _ => True

section

variable {fresh : Title → String → Prop} {t : Tid}

theorem ownerObl_of_mild {α : Type} (c : Stmt α) (s : Store) (h : Mild (fun _ => False) c) :
    OwnerObl t c s := by
  cases c with
  | write w => exact h.elim
  | _ => trivial

theorem Write.leavesOwners.obl {w : Write} (h : w.leavesOwners) (s : Store) :
    OwnerObl t (.write w : Stmt Unit) s := by
  cases w <;> first | exact h.elim | trivial

theorem ownerLedger (t : Tid) :
    Ledger (ownerContract fresh) t Write.leavesOwners fun _ => True where
  stable := .pure True
  quiet _ _ _ := trivial
  mild := ownerObl_of_mild
  rollback _ := trivial
  session _ _ := trivial
  finish _ := trivial
  note _ _ _ := trivial
  stableNoted _ := .pure True
  write _ hw s _ _ _ := ⟨hw.obl s, trivial⟩
  supersede _ _ _ _ _ _ _ := ⟨trivial, trivial⟩
  commit _ _ _ _ := trivial

/-! ### A fulfilment inserts the purchase -/

/-- The session holds the intent, whose buyer is still the one it has read. -/
structure Paying (t : Tid) (locked : PaymentIntent) (s : Store) : Prop where
  held : s.Holds t (.intent locked.intentId) .update
  owner : ∃ row, (s.view t).intent? locked.intentId = some row ∧ row.userId = locked.userId ∧
    row.guestId = locked.guestId

variable {locked : PaymentIntent}

theorem payingUpkeep : Upkeep (ownerContract fresh) t (fun _ => False) (Paying t locked) where
  stable := ⟨fun hb hs => ⟨hb.holds_iff.2 hs.held,
    ((hb.agree_view hs.held) (by decide)) ▸ hs.owner⟩⟩
  quiet hq _ hs := ⟨hq.holds hs.held, by rw [hq.view]; exact hs.owner⟩
  mild := ownerObl_of_mild
  write _ := False.elim

theorem paying_part {α : Type} {p : Prog α} (hp : p.Every (Mild fun _ => False)) :
    Triple (ownerContract fresh) t (Books t (Paying t locked)) p
      (fun _ => Books t (Paying t locked)) fun _ _ => True :=
  (payingUpkeep.every hp).conseq (fun _ => id) (fun _ _ => id) fun _ _ _ => trivial

/-- The purchase goes to the buyer of the intent. -/
theorem insertReceipt_owned (title : Title) (titleId : Uuid) (outcome : Outcome)
    (at_ : Option Instant) (bank : Option String) :
    Triple (ownerContract fresh) t (Books t (Paying t locked))
      (insertReceipt title ((locked.resolved outcome at_).receipt titleId bank))
      (fun _ => Books t fun _ => True) fun _ _ => True := by
  refine .bind (paying_part (.perform trivial)) fun entered => ?_
  cases entered with
  | false => exact .ret fun _ hs => .inr trivial
  | true =>
      refine .bind (paying_part (enterUnique_mild _ _)) fun _ =>
        .bind (paying_part (referenceUser_mild _)) fun _ =>
        .bind (paying_part (referenceTitle_mild _ _)) fun _ => ?_
      refine .write payingUpkeep.books_stable fun s hc hs hd => ⟨?_, fun _ => .inr trivial⟩
      obtain ⟨hheld, row, hrow, huser, hguest⟩ := hs.resolve_left (by simp [hd])
      refine ⟨⟨?_, fun row' user hrow' huser' => ?_⟩, hheld⟩
      · exact ((hc.inv.view t).intents _ row hrow).imp huser.symm.trans hguest.symm.trans
      · obtain rfl : row = row' := Option.some.inj (hrow.symm.trans hrow')
        exact huser.symm.trans huser'

theorem grantTitle_owned (title : Title) (titleId : Uuid) (outcome : Outcome)
    (at_ : Option Instant) (bank : Option String) :
    Triple (ownerContract fresh) t (Books t (Paying t locked))
      (grantTitle title titleId (locked.resolved outcome at_) bank)
      (fun _ => Books t fun _ => True) fun _ _ => True := by
  refine .bind (paying_part (.perform trivial)) fun found => ?_
  cases found with
  | true => exact .ret fun _ hs => .inr trivial
  | false =>
      exact .bind (insertReceipt_owned title titleId outcome at_ bank) fun _ =>
        (ownerLedger t).partReads (notifyPaymentSucceeded_reads _ _)

theorem grant_owned (outcome : Outcome) (at_ : Option Instant) (now : Instant)
    (bank : Option String) :
    Triple (ownerContract fresh) t (Books t (Paying t locked))
      (grant (locked.resolved outcome at_) now bank) (fun _ => Books t fun _ => True)
      fun _ _ => True := by
  have hother {p : Prog Unit} (hp : p.Every (Mild Write.leavesOwners)) :
      Triple (ownerContract fresh) t (Books t (Paying t locked)) p
        (fun _ => Books t fun _ => True) fun _ _ => True :=
    ((ownerLedger t).part hp).pre fun _ _ => .inr trivial
  have hnotify : (notifyPaymentSucceeded (locked.resolved outcome at_) bank).Every
      (Mild Write.leavesOwners) :=
    (notifyPaymentSucceeded_reads _ _).mono fun _ => Reads.mild _
  unfold grant
  split
  · split
    · exact grantTitle_owned .movie _ outcome at_ bank
    · exact hother hnotify
  · split
    · exact grantTitle_owned .series _ outcome at_ bank
    · exact hother hnotify
  · exact hother (grantSubscription_mild _ now bank (fun _ => trivial) (fun _ => trivial)
      fun _ => trivial)

theorem ownerBookkeeping (t : Tid) :
    Bookkeeping (ownerContract fresh) t Write.leavesOwners fun _ => True where
  toLedger := ownerLedger t
  fulfill intent bank := by
    refine (ownerLedger t).fulfillPaymentIntent
      (P := fun locked _ => Books t (Paying t locked)) intent bank ?_ fun locked now _ => ?_
    · intro locked now s _ _ _ hlocked _ _
      refine ⟨trivial, .inr ⟨?_, ?_⟩⟩
      · exact Store.holds_record.2 (Store.holds_acquire.2 (.inr hlocked.1))
      · refine ⟨locked.resolve .succeeded (some now) locked, ?_, rfl, rfl⟩
        show (((s.begin t).acquire t _).record t _ |>.view t).intent? locked.intentId = _
        rw [Store.record_view, Store.acquire_view, Store.begin_view, apply_eq,
          Write.intent?_apply, hlocked.2]
        simp [Write.onIntent]
    · exact grant_owned .succeeded (some now) now bank

/-! ### A claim takes what a guest has -/

/-- The session holds the purchase and reads it as `receipt`. -/
def LockedReceipt (t : Tid) (title : Title) (receipt : Receipt) (s : Store) : Prop :=
  s.Holds t (.receipt title receipt.intentId) .noKeyUpdate ∧
    (s.view t).receipt? title receipt.intentId = some receipt

/-- The session has made no purchase. -/
def Unpurchased (t : Tid) (s : Store) : Prop := ∀ title row, .insertReceipt title row ∉ s.writes t

theorem unpurchasedLedger (t : Tid) :
    Ledger (ownerContract fresh) t Write.leavesOwners (Unpurchased t) where
  stable := ⟨fun hb hs => by simpa only [Unpurchased, hb.writes] using hs⟩
  quiet hq _ hs := by simpa only [Unpurchased, hq.writes] using hs
  mild := ownerObl_of_mild
  rollback _ := trivial
  session _ _ := trivial
  finish s := by simp [Unpurchased]
  note _ _ hs := hs
  stableNoted _ := ⟨fun hb hs => by simpa only [Unpurchased, noted, hb.writes] using hs⟩
  write w hw s _ hs _ := by
    refine ⟨hw.obl s, fun title row hmem => ?_⟩
    rcases (Store.mem_record_writes _ _ _).1 hmem with hmem | ⟨-, rfl⟩
    · exact hs title row hmem
    · exact hw
  supersede copy at_ s _ _ hs _ := ⟨trivial, fun title row hmem =>
    hs title row (((Store.mem_record_writes _ _ _).1 hmem).resolve_right (by simp))⟩
  commit _ _ _ _ := trivial

theorem claimingUpkeep (title : Title) (receipt : Receipt) :
    Upkeep (ownerContract fresh) t (fun _ => False)
      fun s => Unpurchased t s ∧ LockedReceipt t title receipt s where
  stable := (unpurchasedLedger t).stable.and
    ⟨fun hb hs => ⟨hb.holds_iff.2 hs.1, ((hb.agree_view hs.1) (by decide)).symm.trans hs.2⟩⟩
  quiet {s s'} hq _ hs := by
    refine ⟨?_, hq.holds hs.2.1, ?_⟩
    · simpa only [Unpurchased, hq.writes] using hs.1
    · rw [hq.view]
      exact hs.2.2
  mild := ownerObl_of_mild
  write _ := False.elim

theorem claimReceipt_owned (title : Title) (user : Uuid) {receipt : Receipt}
    (hguest : receipt.guestId ≠ none) :
    Triple (ownerContract fresh) t
      (Books t fun s => Unpurchased t s ∧ LockedReceipt t title receipt s)
      (claimReceipt title user receipt) (fun _ => Books t (Unpurchased t)) fun _ _ => True := by
  refine .bind (Q := fun _ => Books t fun s => Unpurchased t s ∧ LockedReceipt t title receipt s)
    (((claimingUpkeep title receipt).every (referenceUser_mild _)).conseq (fun _ => id)
      (fun _ _ => id) fun _ _ _ => trivial) fun _ => ?_
  refine .write (claimingUpkeep title receipt).books_stable fun s hc hs hd => ?_
  obtain ⟨hunpurchased, -, hread⟩ := hs.resolve_left (by simp [hd])
  refine ⟨⟨fun receipt' h => ?_, fun receipt' h => ?_⟩, fun _ => .inr fun title' row hmem => ?_⟩
  · obtain rfl : receipt = receipt' := Option.some.inj (hread.symm.trans h)
    exact hguest
  · -- what the session has not claimed is as it was committed
    obtain ⟨found, hfound, rfl | ⟨hnone, -⟩⟩ :=
      receipt_origin (fun row hmem => (hunpurchased title row hmem).elim) hread
    · obtain rfl : receipt = receipt' := Option.some.inj (hfound.symm.trans h)
      exact hguest
    · exact absurd hnone hguest
  · exact hunpurchased title' row (((Store.mem_record_writes _ _ _).1 hmem).resolve_right (by simp))

theorem claimReceipts_owned (title : Title) (user : Uuid) (guest : String) :
    Triple (ownerContract fresh) t (Books t (Unpurchased t)) (claimReceipts title user guest)
      (fun _ => Books t (Unpurchased t)) fun _ _ => True := by
  have B : Ledger (ownerContract fresh) t Write.leavesOwners (Unpurchased t) := unpurchasedLedger t
  refine .bind (B.part (.perform trivial)) fun snapshot => .forEach fun intentId _ => ?_
  refine .bind (.lock (Q := fun _ => Books t fun s => Unpurchased t s ∧
    s.Holds t (.receipt title intentId) .noKeyUpdate) B.books_stable fun s _ hs _ =>
      ⟨trivial, fun _ => hs.imp_right fun hs => ⟨B.quiet (.acquire t s _) rfl hs, by simp⟩⟩)
    fun _ => ?_
  have hstable : Stable (ownerContract fresh) t (Books t fun s => Unpurchased t s ∧
      s.Holds t (.receipt title intentId) .noKeyUpdate) :=
    .or (.doomed true) (B.stable.and (.holds _ _))
  refine .bind (.select (Q := fun receipt? s => Books t (fun s => Unpurchased t s ∧
    ∀ receipt, receipt? = some receipt → LockedReceipt t title receipt s) s) hstable
      fun s _ hs hd => ⟨trivial, ?_⟩) fun receipt? => ?_
  · obtain ⟨hunpurchased, hheld⟩ := hs.resolve_left (by simp [hd])
    refine .inr ⟨hunpurchased, fun receipt h => ?_⟩
    have hid : receipt.intentId = intentId := key_of_lookup h
    exact ⟨hid ▸ hheld, hid ▸ h⟩
  · split
    · next receipt hreceipt =>
        obtain ⟨rfl, hguest⟩ := Option.filter_eq_some_iff.1 hreceipt
        refine (claimReceipt_owned title user ?_).pre fun s hs =>
          hs.imp_right fun hs => ⟨hs.1, hs.2 receipt rfl⟩
        rw [of_decide_eq_true hguest]
        simp
    · exact .ret fun s hs => hs.imp_right And.left

theorem signIn_owned (user : Uuid) (guest : Option String) :
    Triple (ownerContract fresh) t (Books t (Unpurchased t)) (signIn user guest)
      (fun _ => Books t (Unpurchased t)) fun _ _ => True := by
  have B : Ledger (ownerContract fresh) t Write.leavesOwners (Unpurchased t) := unpurchasedLedger t
  refine .bind (Q := fun _ => Books t (Unpurchased t)) ?_ fun _ => B.commitStmt
  unfold claimGuestPurchases
  split
  · exact .ret fun _ hs => hs
  · refine .bind (claimReceipts_owned .movie user _) fun _ =>
      .bind (claimReceipts_owned .series user _) fun _ => B.part ?_
    refine (eachIntent_plain _ _ fun row => ?_).mono fun _ => Plain.mild _
    exact .bind (.forEach fun _ => enterUnique_plain _ _) fun _ =>
      .bind (referenceUser_plain _) fun _ => .perform trivial

end

/-! ## Whole runs -/

/-- Purchases that are not there at the start. -/
def Db.Unbought (d : Db) (title : Title) (intentId : String) : Prop :=
  d.receipt? title intentId = none

theorem ownerContract_keeps (cfg : Settings) {d : Db} (hd : ∀ row ∈ d.intents, row.OneBuyer)
    (world : World) (requests : Tid → Request) :
    Pool.Keeps (ownerContract d.Unbought) (fun _ _ => True) (fun t _ s => s.doomed t = true ∨ True)
      (start cfg d world requests) := by
  have howned : d.Owned d.Unbought := by
    refine ⟨fun title intentId hfresh row receipt user _ h _ => ?_,
      fun title intentId receipt hfresh h => ?_, fun intentId row h => hd row (mem_of_lookup h)⟩
    · cases hfresh.symm.trans h
    · cases hfresh.symm.trans h
  refine Pool.Keeps.start ⟨howned, fun _ => howned, by simp [Store.idle], by simp [Store.idle]⟩
    fun t => ?_
  cases h : (requests t).isCheckout with
  | true =>
      refine ((ownerBookkeeping t).checkoutRequest cfg (fun w hw _ => ?_) h
        fun _ _ _ _ => trivial).conseq (fun _ _ => .inr trivial) (fun _ _ _ => trivial)
        fun _ _ => id
      cases w <;> first | exact hw.elim | trivial
  | false =>
      by_cases hsign : ∃ user guest, requests t = .signIn user guest
      · obtain ⟨user, guest, heq⟩ := hsign
        rw [heq]
        refine ((unpurchasedLedger t).closing (signIn_owned user guest)).conseq (fun s hs => ?_)
          (fun _ _ _ => trivial) fun _ _ => id
        subst hs
        exact .inr (by simp [Unpurchased, Store.idle])
      · refine ((ownerLedger t).catalogRequest cfg (fun w hw => ?_) h
          (fun user guest he => hsign ⟨user, guest, he⟩) fun _ _ _ => trivial).conseq
          (fun _ _ => .inr trivial) (fun _ _ _ => trivial) fun _ _ => id
        cases w <;> first | exact hw.elim | trivial

/-! ### Playback of what was bought -/

/-- Playback reads the purchases of these tables. -/
structure Db.ReadBy (d : Db) (p : Playback.Db) : Prop where
  purchases : p.purchases = d.purchases.map fun row => ⟨row.userId, row.guestId, row.titleId⟩
  seriesPurchases : p.seriesPurchases =
    d.seriesPurchases.map fun row => ⟨row.userId, row.guestId, row.titleId⟩

/-- The content is what the purchase of the title is for: the movie, or an episode of the
series. -/
def Title.Unlocks : Title → Uuid → Playback.Content → Prop
  | .movie, id, content => content.type = .single ∧ content.id = id
  | .series, id, content => content.type = .episode ∧ content.seriesId = some id

/-- `can_access_content` lets the owner of a purchase have the published title. -/
theorem Db.ReadBy.canAccess {d : Db} {p : Playback.Db} (h : d.ReadBy p) {title : Title}
    {receipt : Receipt} (hmem : receipt ∈ d.receipts title) {user : Accounts.User}
    (huser : receipt.userId = some user.id) {content : Playback.Content}
    (hcontent : title.Unlocks receipt.titleId content) (hpublished : content.isPublished = true)
    (now : Instant) (guest : Option String) (free : Option Bool) :
    p.canAccessContent now (some user) guest content free = true := by
  unfold Playback.Db.canAccessContent
  rw [hpublished]
  cases title with
  | movie =>
      obtain ⟨htype, hid⟩ := hcontent
      have hbought : ∃ row ∈ p.purchases,
          row.userId = some user.id ∧ row.contentId = content.id := by
        rw [h.purchases]
        exact ⟨_, List.mem_map_of_mem hmem, huser, hid.symm⟩
      simp [htype, Playback.Db.canAccessMovie, hbought]
  | series =>
      obtain ⟨htype, hid⟩ := hcontent
      have hbought : ∃ row ∈ p.seriesPurchases, row.userId = some user.id ∧
          row.seriesId = receipt.titleId := by
        rw [h.seriesPurchases]
        exact ⟨_, List.mem_map_of_mem hmem, huser, rfl⟩
      simp [htype, Playback.Db.canAccessEpisode, hid, Playback.Db.hasSeriesPurchase, hbought]

namespace Shop

/-- The pending movie intent is a guest's. -/
def browsed : Db :=
  { db with intents := [{ intent with userId := none, guestId := some "visitor" }] }

/-- The guest signs in beside a manual fulfilment. -/
def signInAndFulfill : Tid → Request
  | 0 => .signIn 1 (some "visitor")
  | 1 => .adminFulfill "bkg-1" 2
  | _ => .sweep

def owners (p : Pool) : Option (Option Uuid) × Option (Option Uuid) :=
  ((p.store.db.intent? "bkg-1").map PaymentIntent.userId,
    (p.store.db.receipt? .movie "bkg-1").map Receipt.userId)

/-- What playback reads after the run. -/
def screening (d : Db) : Playback.Db where
  accounts := { users := [], sessions := [], resetTokens := [] }
  contents := []
  series := []
  channels := []
  subscriptions := []
  purchases := d.purchases.map fun row => ⟨row.userId, row.guestId, row.titleId⟩
  seriesPurchases := d.seriesPurchases.map fun row => ⟨row.userId, row.guestId, row.titleId⟩
  rails := .empty

def buyer : Accounts.User := ⟨1, "a@shop", none, none, none, "user", true⟩

/-- What the purchase is for, with its price. -/
def boughtMovie (id : Uuid) : Playback.Content :=
  ⟨id, .single, none, none, none, "movie", "Movie", none, some 500, true, false⟩

theorem browsed_intents : ∀ row ∈ browsed.intents, row.OneBuyer := by decide

/-- The claim has looked for purchases before the fulfilment commits: the intent becomes the
account's and the purchase stays the guest's. -/
theorem claimedPurchase_left : ∃ q,
    Pool.Run .any (start .default browsed world signInAndFulfill) q ∧
      owners q = (some (some 1), some none) := by
  have hplay : (Pool.play .any (start .default browsed world signInAndFulfill)
      (runs 0 1 ++ runs 1 20 ++ runs 0 8)).any (fun p =>
        decide (owners p = (some (some 1), some none))) = true := by decide +kernel
  obtain ⟨q, hq, howners⟩ := Pool.exists_run_of_play hplay
  exact ⟨q, hq, of_decide_eq_true howners⟩

end Shop

end MovieApi.Billing
