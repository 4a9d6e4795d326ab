import MovieApi.Billing.Calls
import MovieApi.ReadCommitted.Commits

/-!
# The QRs of a pending intent

Every stale open of a checkout may issue a new QR for the intent it finds.  The row
remembers the last one and the one before, whatever the number of opens and however
they interleave; the earlier ones are nowhere.
-/

namespace MovieApi.Billing

open ReadCommitted ReadCommitted.Prog Sql

variable {intentId : String} {t : Tid} {s s' : Store} {d : Db} {w : Write} {ws : List Write}
  {row row' : PaymentIntent} {issued : List String}

/-! ## What is issued, and what is remembered -/

/-- The md5 of the QR that a write issues for the intent. -/
def Write.issues (intentId : String) : Write → Option String
  | .replaceQr copy md5 _ _ _ => if copy.intentId = intentId then some md5 else none
  | _ => none

/-- The QRs that writes issue for the intent, the newest first. -/
def issuedOn (intentId : String) (ws : List Write) : List String :=
  (ws.filterMap (Write.issues intentId)).reverse

@[simp] theorem issuedOn_nil : issuedOn intentId [] = [] := rfl

theorem issuedOn_append (ws ws' : List Write) :
    issuedOn intentId (ws ++ ws') = issuedOn intentId ws' ++ issuedOn intentId ws := by
  simp [issuedOn]

/-- The row keeps the last QR and the one before. -/
structure PaymentIntent.Remembers (row : PaymentIntent) (issued : List String) : Prop where
  current : row.bakongMd5 = issued[0]?
  previous : row.bakongPrevMd5 = issued[1]?

theorem flush_self {α : Type} [DecidableEq α] (loaded new : α) : flush loaded new loaded = new := by
  unfold flush
  split
  · next h => exact h.symm
  · rfl

/-- A new QR, issued on the row as it is. -/
theorem PaymentIntent.Remembers.withQr (h : row.Remembers issued) (md5 qr : String)
    (merchant : Option String) (at_ : Instant) :
    (row.withQr md5 qr merchant at_ row).Remembers (md5 :: issued) :=
  ⟨flush_self _ _, (flush_self _ _).trans h.current⟩

/-! ## The intent under the writes of checkouts -/

/-- A write of a checkout: it leaves alone what the intent is for and who buys it, and
it does not insert the intent again. -/
def Write.ofOpen (intentId : String) : Write → Prop
  | .insertIntent row => row.intentId ≠ intentId
  | .claimIntent _ _ => False
  | .clearTitle _ _ => False
  | .deleteIntent _ => False
  | _ => True

/-- A write on the row of the intent. -/
def Write.Touches (intentId : String) : Write → Prop
  | .resolveIntent copy _ _ => copy.intentId = intentId
  | .replaceQr copy _ _ _ _ => copy.intentId = intentId
  | _ => False

/-- What an intent is for, and who buys it. -/
def PaymentIntent.terms (row : PaymentIntent) :
    (Option Uuid × Option String) × Method × Kind × (Option Uuid × Option Uuid) ×
      Option String × Int :=
  ((row.userId, row.guestId), row.method, row.kind, (row.contentId, row.seriesId), row.planCode,
    row.amountUsd)

theorem Write.onIntent_ofOpen (h : w.ofOpen intentId) (row : PaymentIntent) :
    ∃ row', w.onIntent intentId (some row) = some row' ∧ row'.terms = row.terms ∧
      (row'.status = .pending → row.status = .pending) := by
  cases w with
  | resolveIntent copy outcome at_ =>
      by_cases hid : intentId = copy.intentId
      · refine ⟨copy.resolve outcome at_ row, by simp [onIntent, hid], rfl, fun hpending => ?_⟩
        exact absurd hpending outcome.status_ne_pending
      · exact ⟨row, by simp [onIntent, hid], rfl, id⟩
  | replaceQr copy md5 qr merchant at_ =>
      by_cases hid : intentId = copy.intentId
      · exact ⟨copy.withQr md5 qr merchant at_ row, by simp [onIntent, hid], rfl, id⟩
      · exact ⟨row, by simp [onIntent, hid], rfl, id⟩
  | claimIntent | clearTitle | deleteIntent => exact h.elim
  | _ => exact ⟨row, rfl, rfl, id⟩

/-- A write that does not touch the row leaves it, and issues no QR for it. -/
theorem Write.onIntent_of_not_touches (h : w.ofOpen intentId) (haway : ¬ w.Touches intentId)
    (row : PaymentIntent) :
    w.onIntent intentId (some row) = some row ∧ w.issues intentId = none := by
  cases w with
  | resolveIntent copy outcome at_ =>
      have hid : intentId ≠ copy.intentId := fun hid => haway hid.symm
      simp [onIntent, issues, hid]
  | replaceQr copy md5 qr merchant at_ =>
      have hid : intentId ≠ copy.intentId := fun hid => haway hid.symm
      simp [onIntent, issues, hid, Ne.symm hid]
  | claimIntent | clearTitle | deleteIntent => exact h.elim
  | _ => exact ⟨rfl, rfl⟩

theorem intent?_applyAll_ofOpen (hopen : ∀ w ∈ ws, w.ofOpen intentId)
    (hrow : d.intent? intentId = some row) :
    ∃ row', (applyAll ws d).intent? intentId = some row' ∧ row'.terms = row.terms ∧
      (row'.status = .pending → row.status = .pending) := by
  refine applyAll_induction (P := fun d' : Db => ∃ row', d'.intent? intentId = some row' ∧
    row'.terms = row.terms ∧ (row'.status = .pending → row.status = .pending))
    ⟨row, hrow, rfl, id⟩ fun w hw d' hd' => ?_
  obtain ⟨row₁, hrow₁, hterms₁, hstatus₁⟩ := hd'
  obtain ⟨row', hrow', hterms, hstatus⟩ := Write.onIntent_ofOpen (hopen w hw) row₁
  refine ⟨row', ?_, hterms.trans hterms₁, hstatus₁ ∘ hstatus⟩
  rw [apply_eq, Write.intent?_apply, hrow₁, hrow']

/-! ### One row with the id -/

/-- There is one row with the id. -/
def Db.One (intentId : String) (d : Db) : Prop :=
  (d.intents.map PaymentIntent.intentId).count intentId = 1

theorem Db.One.exists_intent? (h : d.One intentId) : ∃ row, d.intent? intentId = some row := by
  have hmem : intentId ∈ d.intents.map PaymentIntent.intentId :=
    List.count_pos_iff.1 (h.symm ▸ Nat.one_pos)
  obtain ⟨row, hrow, rfl⟩ := List.mem_map.1 hmem
  exact Option.isSome_iff_exists.1 (lookup_isSome_of_mem hrow)

theorem Db.One.apply (h : d.One intentId) (hw : w.ofOpen intentId) :
    (w.apply d).One intentId := by
  have hmodify {key : String} {f : PaymentIntent → PaymentIntent}
      (hf : ∀ row, row.intentId = key → (f row).intentId = key) :
      (d.mapIntent key f).One intentId := by
    rw [Db.One, Db.mapIntent, map_key_modify hf]
    exact h
  cases w with
  | insertIntent row =>
      have hne : row.intentId ≠ intentId := hw
      have hone : (d.intents.map PaymentIntent.intentId).count intentId = 1 := h
      rw [Db.One, Write.apply, List.map_append, List.count_append, hone]
      simp [hne]
  | resolveIntent copy outcome at_ => exact hmodify fun _ hid => hid
  | replaceQr copy md5 qr merchant at_ => exact hmodify fun _ hid => hid
  | claimIntent | clearTitle | deleteIntent => exact hw.elim
  | insertReceipt title | claimReceipt title | deleteReceipt title =>
      rw [Db.One, Write.apply, Db.intents_mapReceipts]
      exact h
  | deleteTitle title => cases title <;> exact h
  | _ => exact h

theorem Db.One.applyAll (h : d.One intentId) (hopen : ∀ w ∈ ws, w.ofOpen intentId) :
    (applyAll ws d).One intentId :=
  applyAll_induction h fun w hw _ hd => hd.apply (hopen w hw)

/-- A row with the id is the one that is found. -/
theorem Db.One.intent?_of_mem (h : d.One intentId) (hmem : row ∈ d.intents)
    (hid : row.intentId = intentId) : d.intent? intentId = some row :=
  lookup_of_count h hmem hid

/-! ## What a transaction does to the memory of the row -/

/-- Unless the writes resolve the intent, the row remembers what they issue. -/
def Follows (intentId : String) (ws : List Write) (d : Db) : Prop :=
  ∀ row row', d.intent? intentId = some row → (applyAll ws d).intent? intentId = some row' →
    row'.status = .pending → ∀ issued, row.Remembers issued →
      row'.Remembers (issuedOn intentId ws ++ issued)

theorem follows_nil : Follows intentId [] d := by
  intro row row' hrow hrow' _ issued hremembers
  obtain rfl : row = row' := Option.some.inj (hrow.symm.trans hrow')
  exact hremembers

/-- One more write, if it is no new QR of the intent. -/
theorem Follows.snoc (h : Follows intentId ws d) (hopen : ∀ w ∈ ws, w.ofOpen intentId)
    (hw : w.ofOpen intentId) (hissues : w.issues intentId = none) :
    Follows intentId (ws ++ [w]) d := by
  intro row row' hrow hrow' hpending issued hremembers
  obtain ⟨row₁, hrow₁, -, -⟩ := intent?_applyAll_ofOpen hopen hrow
  rw [applyAll_append, applyAll_cons, applyAll_nil, apply_eq, Write.intent?_apply, hrow₁] at hrow'
  have hissued : issuedOn intentId (ws ++ [w]) = issuedOn intentId ws := by
    rw [issuedOn_append]
    simp [issuedOn, hissues]
  rw [hissued]
  by_cases htouches : w.Touches intentId
  · cases w with
    | resolveIntent copy outcome at_ =>
        -- a resolved row is pending no more
        have hid : copy.intentId = intentId := htouches
        rw [Write.onIntent, if_pos hid.symm, Option.map_some, Option.some.injEq] at hrow'
        rw [← hrow'] at hpending
        exact absurd hpending outcome.status_ne_pending
    | replaceQr copy md5 qr merchant at_ =>
        have hid : copy.intentId = intentId := htouches
        simp [Write.issues, hid] at hissues
    | _ => exact htouches.elim
  · rw [(Write.onIntent_of_not_touches hw htouches row₁).1, Option.some.injEq] at hrow'
    subst hrow'
    exact h row row₁ hrow hrow₁ hpending issued hremembers

theorem follows_of_away (hopen : ∀ w ∈ ws, w.ofOpen intentId)
    (haway : ∀ w ∈ ws, ¬ w.Touches intentId) (d : Db) : Follows intentId ws d := by
  induction ws using List.reverseRecOn with
  | nil => exact follows_nil
  | append_singleton ws w ih =>
      have hws : ∀ w ∈ ws, w.ofOpen intentId := fun w hw => hopen w (by simp [hw])
      have hissues : w.issues intentId = none := by
        cases w with
        | replaceQr copy md5 qr merchant at_ =>
            have hne : copy.intentId ≠ intentId := haway (.replaceQr copy md5 qr merchant at_)
              (by simp)
            simp [Write.issues, hne]
        | _ => rfl
      exact (ih hws fun w hw => haway w (by simp [hw])).snoc hws (hopen w (by simp)) hissues

/-- A new QR issued on the row as it is committed. -/
theorem follows_replaceQr (hrow : d.intent? intentId = some row) (md5 qr : String)
    (merchant : Option String) (at_ : Instant) :
    Follows intentId [.replaceQr row md5 qr merchant at_] d := by
  have hid : row.intentId = intentId := key_of_lookup hrow
  intro row₁ row' hrow₁ hrow' _ issued hremembers
  obtain rfl : row = row₁ := Option.some.inj (hrow.symm.trans hrow₁)
  rw [applyAll_cons, applyAll_nil, apply_eq, Write.intent?_apply, hrow, Write.onIntent,
    if_pos hid.symm, Option.map_some, Option.some.injEq] at hrow'
  subst hrow'
  have hissued : issuedOn intentId [.replaceQr row md5 qr merchant at_] = [md5] := by
    simp [issuedOn, Write.issues, hid]
  rw [hissued]
  exact hremembers.withQr md5 qr merchant at_

end MovieApi.Billing
