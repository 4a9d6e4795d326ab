import MovieApi.Billing.Conduct

/-!
# Terminal payment statuses

A status write replaces whatever status the row has.  A fulfilment makes it from
the locked row and stops only at `succeeded`; a superseding write is the flush of
a copy that may be older than the row.  Where neither finds the row already
resolved, a committed status that is not `pending` stays for ever.
-/

namespace MovieApi.Billing

open ReadCommitted Sql

/-! ## Statuses and writes -/

/-- A write on a row leaves its status or, resolving it, gives it a final one. -/
theorem Write.onIntent_status {w : Write} {intentId : String}
    (hdelete : w ≠ .deleteIntent intentId) (row : PaymentIntent) :
    ∃ row', w.onIntent intentId (some row) = some row' ∧
      (row'.status = row.status ∨ ∃ copy outcome at_,
        w = .resolveIntent copy outcome at_ ∧ copy.intentId = intentId ∧
          row'.status = outcome.status) := by
  cases w with
  | resolveIntent copy outcome at_ =>
      by_cases h : intentId = copy.intentId
      · exact ⟨copy.resolve outcome at_ row, by simp [onIntent, h], .inr ⟨_, _, _, rfl, h.symm, rfl⟩⟩
      · exact ⟨row, by simp [onIntent, h], .inl rfl⟩
  | replaceQr copy md5 qr merchant at_ =>
      by_cases h : intentId = copy.intentId
      · exact ⟨copy.withQr md5 qr merchant at_ row, by simp [onIntent, h], .inl rfl⟩
      · exact ⟨row, by simp [onIntent, h], .inl rfl⟩
  | claimIntent found user =>
      by_cases h : intentId = found.intentId
      · exact ⟨row.claimed user, by simp [onIntent, h], .inl rfl⟩
      · exact ⟨row, by simp [onIntent, h], .inl rfl⟩
  | clearTitle title intentId' =>
      by_cases h : intentId = intentId'
      · exact ⟨row.cleared title, by simp [onIntent, h], .inl (by cases title <;> rfl)⟩
      · exact ⟨row, by simp [onIntent, h], .inl rfl⟩
  | deleteIntent intentId' =>
      have h : intentId ≠ intentId' := fun h => hdelete (by rw [h])
      exact ⟨row, by simp [onIntent, h], .inl rfl⟩
  | _ => exact ⟨row, by simp [onIntent], .inl rfl⟩

/-- The same for a transaction that deletes no intent. -/
theorem status_applyAll {ws : List Write} {d : Db} {intentId : String} {row : PaymentIntent}
    (hdelete : ∀ intentId, .deleteIntent intentId ∉ ws) (h : d.intent? intentId = some row) :
    ∃ row', (applyAll ws d).intent? intentId = some row' ∧
      (row'.status = row.status ∨ ∃ copy outcome at_,
        .resolveIntent copy outcome at_ ∈ ws ∧ copy.intentId = intentId ∧
          row'.status = outcome.status) := by
  induction ws generalizing d row with
  | nil => exact ⟨row, h, .inl rfl⟩
  | cons w ws ih =>
      have hw : w ≠ .deleteIntent intentId := fun he => hdelete intentId (by simp [he])
      obtain ⟨row₁, hrow₁, hstatus₁⟩ := Write.onIntent_status hw row
      have hd₁ : (w.apply d).intent? intentId = some row₁ := by
        rw [Write.intent?_apply, h, hrow₁]
      obtain ⟨row', hrow', hstatus'⟩ :=
        ih (fun intentId hmem => hdelete intentId (by simp [hmem])) hd₁
      refine ⟨row', hrow', ?_⟩
      rcases hstatus' with hstatus' | ⟨copy, outcome, at_, hmem, hid, hstatus'⟩
      · rcases hstatus₁ with hstatus₁ | ⟨copy, outcome, at_, rfl, hid, hstatus₁⟩
        · exact .inl (hstatus'.trans hstatus₁)
        · exact .inr ⟨copy, outcome, at_, by simp, hid, hstatus'.trans hstatus₁⟩
      · exact .inr ⟨copy, outcome, at_, by simp [hmem], hid, hstatus'⟩

/-! ## The contract -/

/-- Final statuses stay, and a pending row is only ever fulfilled or superseded. -/
def Onward (d d' : Db) : Prop :=
  ∀ intentId row, d.intent? intentId = some row →
    ∃ row', d'.intent? intentId = some row' ∧
      (row'.status = row.status ∨
        row.status = .pending ∧ (row'.status = .succeeded ∨ row'.status = .superseded))

theorem Onward.refl (d : Db) : Onward d d := fun _ row h => ⟨row, h, .inl rfl⟩

theorem Onward.trans {d d' d'' : Db} (h : Onward d d') (h' : Onward d' d'') : Onward d d'' := by
  intro intentId row hrow
  obtain ⟨row', hrow', hstatus⟩ := h intentId row hrow
  obtain ⟨row'', hrow'', hstatus'⟩ := h' intentId row' hrow'
  refine ⟨row'', hrow'', ?_⟩
  rcases hstatus with hstatus | ⟨hpending, hfinal⟩
  · rw [← hstatus]
    exact hstatus'
  · rcases hstatus' with hstatus' | ⟨hpending', -⟩
    · exact .inr ⟨hpending, by rwa [hstatus']⟩
    · rw [hpending'] at hfinal
      simp at hfinal

/-- Every uncommitted status write is on a row that is committed as pending. -/
structure StatusInv (s : Store) : Prop where
  pending : ∀ t copy outcome at_ row, .resolveIntent copy outcome at_ ∈ s.writes t →
    s.db.intent? copy.intentId = some row → row.status = .pending
  keeps : ∀ t intentId, .deleteIntent intentId ∉ s.writes t

/-- A fulfilment writes the row it reads, a superseding write starts from a
pending copy, and nothing deletes an intent. -/
def StatusObl (t : Tid) {α : Type} (c : Stmt α) (s : Store) : Prop :=
  match c with
  | .write (.resolveIntent copy .succeeded _) =>
      copy.status ≠ .succeeded ∧ (s.view t).intent? copy.intentId = some copy
  | .write (.resolveIntent copy .superseded _) => copy.status = .pending
  | .write (.deleteIntent _) => False
  | _ => True

def statusContract : Contract where
  Inv := StatusInv
  Obl := StatusObl
  Rely s s' := Onward s.db s'.db
  rely_refl s := .refl s.db
  rely_trans h h' := h.trans h'

/-- The row a status write falls on has not been resolved meanwhile: a
fulfilment does not find it superseded (or in one of the statuses no code
writes), and a superseding copy is not stale. -/
def unresolvedMeanwhile : Regime where
  stmt t _ c s :=
    match c with
    | .write (.resolveIntent copy .succeeded _) =>
        ((s.view t).intent? copy.intentId).all fun row =>
          decide (row.status ∉ [.superseded, .failed, .expired])
    | .write (.resolveIntent copy .superseded _) =>
        ((s.view t).intent? copy.intentId).all fun row => decide (row.status = copy.status)
    | _ => true
  outside _ _ := true

/-- What the session reads of a committed row, as far as the status goes. -/
theorem StatusInv.pending_of_view {s : Store} (hs : StatusInv s) {t : Tid} {intentId : String}
    {row : PaymentIntent} (hrow : s.db.intent? intentId = some row)
    (hview : ∀ row', (s.view t).intent? intentId = some row' → row'.status = .pending) :
    row.status = .pending := by
  obtain ⟨row', hrow', hstatus | ⟨copy, outcome, at_, hmem, hid, -⟩⟩ :=
    status_applyAll (hs.keeps t) hrow
  · rw [← hstatus]
    exact hview row' hrow'
  · exact hs.pending t copy outcome at_ row hmem (hid ▸ hrow)

theorem StatusInv.of_same {s s' : Store} (hs : StatusInv s) (hdb : s'.db = s.db)
    (hwrites : s'.writes = s.writes) : StatusInv s' := by
  refine ⟨fun t copy outcome at_ row hmem hrow => ?_, fun t intentId => ?_⟩
  · rw [hwrites] at hmem
    rw [hdb] at hrow
    exact hs.pending t copy outcome at_ row hmem hrow
  · rw [hwrites]
    exact hs.keeps t intentId

/-- A status write that pays its obligation falls on a pending row. -/
theorem StatusInv.pending_of_obl {s : Store} (hs : StatusInv s) {t : Tid} {copy : PaymentIntent}
    {outcome : Outcome} {at_ : Option Instant}
    (hobl : StatusObl t (.write (.resolveIntent copy outcome at_) : Stmt Unit) s)
    (hreg : unresolvedMeanwhile.stmt t (.write (.resolveIntent copy outcome at_) : Stmt Unit) s =
      true) {row : PaymentIntent} (hrow : s.db.intent? copy.intentId = some row) :
    row.status = .pending := by
  refine hs.pending_of_view (t := t) hrow fun row' hview => ?_
  cases outcome with
  | succeeded =>
      simp only [StatusObl] at hobl
      obtain ⟨hne, hcopy⟩ := hobl
      rw [hcopy, Option.some.injEq] at hview
      subst hview
      simp only [unresolvedMeanwhile, hcopy, Option.all_some, decide_eq_true_eq] at hreg
      cases h : copy.status <;> simp_all
  | superseded =>
      simp only [unresolvedMeanwhile, hview, Option.all_some, decide_eq_true_eq] at hreg
      rw [hreg]
      exact hobl

theorem statusContract_sound : statusContract.Sound unresolvedMeanwhile := by
  refine .of_steps ?_ ?_ ?_ ?_
  · intro t s s' hq hs
    refine ⟨StatusInv.of_same hs hq.db hq.writes, ?_⟩
    show Onward s.db s'.db
    rw [hq.db]
    exact .refl s.db
  · intro t w s _ hs hobl hreg _
    refine ⟨⟨fun u copy outcome at_ row hmem hrow => ?_, fun u intentId hmem => ?_⟩, .refl s.db⟩
    · rcases (Store.mem_record_writes _ _ _).1 hmem with hmem | ⟨rfl, rfl⟩
      · exact hs.pending u copy outcome at_ row hmem hrow
      · exact hs.pending_of_obl hobl hreg hrow
    · rcases (Store.mem_record_writes _ _ _).1 hmem with hmem | ⟨rfl, rfl⟩
      · exact hs.keeps u intentId hmem
      · exact hobl
  · intro t s hdis hs _ _ _
    refine ⟨⟨fun u copy outcome at_ row hmem hrow => ?_, fun u intentId hmem => ?_⟩, ?_⟩
    · obtain ⟨hne, hmem⟩ := (Store.mem_finish_writes _ _).1 hmem
      -- the lock of the pending write keeps the commit off its row
      have hheld : s.Holds u (.intent copy.intentId) .noKeyUpdate :=
        hdis.covered hmem (by simp [Write.needs])
      have hagree := (Steady.publish (Ne.symm hne) hdis).agree hheld (by decide)
      exact hs.pending u copy outcome at_ row hmem (hagree.trans hrow)
    · exact hs.keeps u intentId ((Store.mem_finish_writes _ _).1 hmem).2
    · intro intentId row hrow
      obtain ⟨row', hrow', hstatus | ⟨copy, outcome, at_, hmem, hid, hstatus⟩⟩ :=
        status_applyAll (hs.keeps t) hrow
      · exact ⟨row', hrow', .inl hstatus⟩
      · refine ⟨row', hrow', .inr ⟨hs.pending t copy outcome at_ row hmem (hid ▸ hrow), ?_⟩⟩
        rw [hstatus]
        cases outcome <;> simp [Outcome.status]
  · intro t s hs
    refine ⟨⟨fun u copy outcome at_ row hmem hrow => ?_, fun u intentId hmem => ?_⟩, .refl s.db⟩
    · exact hs.pending u copy outcome at_ row ((Store.mem_finish_writes _ _).1 hmem).2 hrow
    · exact hs.keeps u intentId ((Store.mem_finish_writes _ _).1 hmem).2

/-! ## The programs -/

/-- Writes that neither resolve nor delete an intent. -/
def Write.leavesIntents : Write → Prop
  | .resolveIntent _ _ _ => False
  | .deleteIntent _ => False
  | _ => True

theorem statusLedger (t : Tid) :
    Ledger statusContract t Write.leavesIntents fun _ => True where
  stable := .pure True
  quiet _ _ _ := trivial
  mild c s h := by
    cases c with
    | write w => exact h.elim
    | _ => trivial
  rollback _ := trivial
  session _ _ := trivial
  finish _ := trivial
  note _ _ _ := trivial
  stableNoted _ := .pure True
  write w hw s _ _ _ := by
    refine ⟨?_, trivial⟩
    cases w with
    | resolveIntent => exact hw.elim
    | deleteIntent => exact hw.elim
    | _ => trivial
  supersede copy at_ s h _ _ _ := ⟨h, trivial⟩
  commit _ _ _ _ := trivial

/-- A fulfilment writes the status of the row it has locked. -/
theorem statusBookkeeping (t : Tid) :
    Bookkeeping statusContract t Write.leavesIntents fun _ => True where
  toLedger := statusLedger t
  fulfill intent bank := by
    have B := statusLedger t
    refine B.fulfillPaymentIntent (P := fun _ _ _ => True) intent bank ?_ ?_
    · intro locked now s _ hstatus _ hlocked _ _
      exact ⟨⟨hstatus, hlocked.2⟩, trivial⟩
    · intro locked now _
      have hgrant := grant_mild (N := Write.leavesIntents) (locked.resolved .succeeded (some now))
        now bank (fun _ _ => trivial) (fun _ => trivial) (fun _ => trivial) fun _ => trivial
      exact (B.every hgrant).conseq (fun _ _ => .inr trivial) (fun _ _ => id) fun _ _ _ => trivial

/-- However polls, checkouts, playback, the sweeper and manual or webhook
fulfilments interleave: as long as no status write falls on a row that was
resolved meanwhile, a committed status moves from `pending` once, to `succeeded`
or `superseded`, and then stays. -/
theorem committedStatus_final (cfg : Settings) (d : Db) (world : World)
    (requests : Tid → Request) (hrequests : ∀ t id, requests t ≠ .deleteSeries id) {p q : Pool}
    (hp : Pool.Run unresolvedMeanwhile (start cfg d world requests) p)
    (hq : Pool.Run unresolvedMeanwhile p q) : Onward p.store.db q.store.db := by
  have hstart : Pool.Keeps statusContract (fun _ _ => True)
      (fun t _ s => s.doomed t = true ∨ True) (start cfg d world requests) := by
    refine Pool.Keeps.start ⟨by simp [Store.idle], by simp [Store.idle]⟩ fun t => ?_
    have B := statusBookkeeping t
    have hbooks : ∀ s, Books t (fun _ => True) s := fun s => .inr trivial
    cases h : (requests t).isCheckout with
    | true =>
        refine (B.checkoutRequest cfg (fun w hw _ => ?_) h fun _ _ _ _ => trivial).conseq
          (fun s _ => hbooks s) (fun _ _ _ => trivial) fun _ _ => id
        cases w <;> first | exact hw.elim | trivial
    | false =>
        refine (B.toLedger.administrationRequest cfg (fun w hw hne => ?_) h fun id hid => ?_).conseq
          (fun s _ => hbooks s) (fun _ _ _ => trivial) fun _ _ => id
        · cases w with
          | deleteIntent intentId => exact (hne intentId rfl).elim
          | resolveIntent => exact hw.elim
          | _ => trivial
        · exact (hrequests t id hid).elim
  have hstable : ∀ (t : Tid) (e : Err),
      Stable statusContract t fun s => s.doomed t = true ∨ True := fun t _ =>
    .or (.doomed true) (.pure True)
  have hkeeps := (hstart.run statusContract_sound (fun _ => .pure True) hstable hp).1
  exact (hkeeps.run statusContract_sound (fun _ => .pure True) hstable hq).2

theorem fulfilment_final : ∃ q,
    Pool.Run unresolvedMeanwhile (start .default Shop.db Shop.world Shop.fulfillAndPoll) q ∧
      Shop.status q = some .succeeded ∧ Onward Shop.db q.store.db := by
  have hrequests : ∀ t id, Shop.fulfillAndPoll t ≠ .deleteSeries id := by
    intro t id
    unfold Shop.fulfillAndPoll
    split <;> simp
  obtain ⟨q, hrun, hstatus⟩ := Pool.exists_run_of_play
    (f := fun q => decide (Shop.status q = some .succeeded))
    (show (Pool.play unresolvedMeanwhile (start .default Shop.db Shop.world Shop.fulfillAndPoll)
      (Shop.runs 1 27)).any _ = true by decide)
  exact ⟨q, hrun, of_decide_eq_true hstatus,
    committedStatus_final .default Shop.db Shop.world Shop.fulfillAndPoll hrequests .refl hrun⟩

/-- The shop after the account bought the movie with an earlier intent. -/
def Shop.owned : Db :=
  { Shop.db with purchases := [⟨some 1, none, 10, "bkg-0", "movie-0", none, 500⟩] }

/-- Two stages of a run and the committed status after each. -/
theorem Shop.exists_stages {d : Db} {requests : Tid → Request} (evs evs' : List (Event World))
    {before after : Status}
    (h : (Pool.play .any (start .default d Shop.world requests) evs).any (fun p =>
      decide (Shop.status p = some before) &&
        (Pool.play .any p evs').any fun q => decide (Shop.status q = some after)) = true) :
    ∃ p q, Pool.Run .any (start .default d Shop.world requests) p ∧ Pool.Run .any p q ∧
      Shop.status p = some before ∧ Shop.status q = some after := by
  obtain ⟨p, hp, h⟩ := Pool.exists_run_of_play h
  rw [Bool.and_eq_true, decide_eq_true_eq] at h
  obtain ⟨q, hq, h'⟩ := Pool.exists_run_of_play h.2
  exact ⟨p, q, hp, hq, h.1, of_decide_eq_true h'⟩

/-- A manual fulfilment that loaded the intent before a poll superseded it makes
it `succeeded`; a poll that loaded it before the fulfilment sees the purchase
just made and marks the paid intent `superseded`. -/
theorem committedStatus_not_final :
    (∃ p q, Pool.Run .any (start .default Shop.owned Shop.world Shop.fulfillAndPoll) p ∧
      Pool.Run .any p q ∧ Shop.status p = some .superseded ∧ Shop.status q = some .succeeded) ∧
    (∃ p q, Pool.Run .any (start .default Shop.db Shop.world Shop.fulfillAndPoll) p ∧
      Pool.Run .any p q ∧ Shop.status p = some .succeeded ∧ Shop.status q = some .superseded) := by
  constructor
  · exact Shop.exists_stages (Shop.runs 1 1 ++ Shop.runs 0 6) (Shop.runs 1 26) (by decide)
  · exact Shop.exists_stages (Shop.runs 0 1 ++ Shop.runs 1 24) (Shop.runs 0 8) (by decide)

end MovieApi.Billing
