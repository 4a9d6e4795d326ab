import MovieApi.Billing.IssuedQrs

/-!
# Opens keep the memory of the row

Every open issues a QR only on the row of the intent as it has locked it, unless the
intent is pending no more.  So while the intent is pending its row remembers the last
two QRs issued for it.
-/

namespace MovieApi.Billing

open ReadCommitted ReadCommitted.Prog Sql

variable {intentId : String} {t : Tid} {s s' : Store} {d d' : Db} {w : Write} {ws : List Write}
  {pending row row' : PaymentIntent} {issued : List String}

/-! ## The contract -/

/-- The intent is for the same and of the same buyer, and if it is pending it was. -/
def Continues (intentId : String) (d d' : Db) : Prop :=
  ∀ row', d'.intent? intentId = some row' →
    ∃ row, d.intent? intentId = some row ∧ row'.terms = row.terms ∧
      (row'.status = .pending → row.status = .pending)

theorem Continues.refl (intentId : String) (d : Db) : Continues intentId d d :=
  fun row' hrow' => ⟨row', hrow', rfl, id⟩

theorem Continues.trans {d'' : Db} (h : Continues intentId d d') (h' : Continues intentId d' d'') :
    Continues intentId d d'' := by
  intro row'' hrow''
  obtain ⟨row', hrow', hterms', hpending'⟩ := h' row'' hrow''
  obtain ⟨row, hrow, hterms, hpending⟩ := h row' hrow'
  exact ⟨row, hrow, hterms'.trans hterms, hpending ∘ hpending'⟩

theorem continues_applyAll (hone : d.One intentId) (hopen : ∀ w ∈ ws, w.ofOpen intentId) :
    Continues intentId d (applyAll ws d) := by
  intro row' hrow'
  obtain ⟨row, hrow⟩ := hone.exists_intent?
  obtain ⟨row₁, hrow₁, hterms, hpending⟩ := intent?_applyAll_ofOpen hopen hrow
  obtain rfl : row₁ = row' := Option.some.inj (hrow₁.symm.trans hrow')
  exact ⟨row, hrow, hterms, hpending⟩

/-- There is one row of the intent and only checkouts write, and what a commit issues
for the intent its row remembers. -/
def qrContract (intentId : String) : Contract where
  Inv s := s.db.One intentId ∧ ∀ t, ∀ w ∈ s.writes t, w.ofOpen intentId
  Obl t _ c s := match c with
    | .write w => w.ofOpen intentId
    | .commit => Continues intentId s.db (s.view t) ∧ Follows intentId (s.writes t) s.db
    | _ => True
  Rely s s' := Continues intentId s.db s'.db
  rely_refl s := .refl intentId s.db
  rely_trans h h' := h.trans h'

theorem qrContract_sound : (qrContract intentId).Sound .any := by
  refine .of_steps ?_ ?_ ?_ ?_
  · intro t s s' hq hinv
    refine ⟨⟨hq.db ▸ hinv.1, hq.writes ▸ hinv.2⟩, ?_⟩
    show Continues intentId s.db s'.db
    rw [hq.db]
    exact .refl intentId s.db
  · intro t w s _ hinv hobl _ _
    refine ⟨⟨hinv.1, fun u w' hmem => ?_⟩, .refl intentId s.db⟩
    rcases (Store.mem_record_writes _ _ _).1 hmem with hmem | ⟨-, rfl⟩
    · exact hinv.2 u w' hmem
    · exact hobl
  · intro t s _ hinv _ _ _
    refine ⟨⟨hinv.1.applyAll (hinv.2 t), fun u w hmem => ?_⟩, continues_applyAll hinv.1 (hinv.2 t)⟩
    exact hinv.2 u w ((Store.mem_finish_writes _ _).1 hmem).2
  · intro t s hinv
    refine ⟨⟨hinv.1, fun u w hmem => ?_⟩, .refl intentId s.db⟩
    exact hinv.2 u w ((Store.mem_finish_writes _ _).1 hmem).2

/-! ## What a session keeps -/

/-- The session has not written the intent; or it has locked it, and issues no QR that
the row would not remember. -/
inductive Handling (intentId : String) (t : Tid) (s : Store) : Prop
  | away (h : ∀ w ∈ s.writes t, ¬ w.Touches intentId)
  | held (mode : LockMode) (hmode : mode ≠ .keyShare) (hlock : s.Holds t (.intent intentId) mode)
      (h : Follows intentId (s.writes t) s.db)

theorem Handling.follows (h : Handling intentId t s) (hopen : ∀ w ∈ s.writes t, w.ofOpen intentId) :
    Follows intentId (s.writes t) s.db := by
  cases h with
  | away haway => exact follows_of_away hopen haway s.db
  | held _ _ _ hfollows => exact hfollows

theorem Follows.congr (h : Follows intentId ws d) (hrow : d.intent? intentId = d'.intent? intentId)
    (hview : (applyAll ws d).intent? intentId = (applyAll ws d').intent? intentId) :
    Follows intentId ws d' := by
  intro row row' hrow' hview'
  exact h row row' (hrow.trans hrow') (hview.trans hview')

theorem handling_stable : Stable (qrContract intentId) t (Handling intentId t) := by
  refine ⟨fun hb hs => ?_⟩
  cases hs with
  | away h => exact .away (hb.writes ▸ h)
  | held mode hmode hlock h =>
      refine .held mode hmode (hb.holds_iff.2 hlock) ?_
      have hview := hb.agree_view hlock hmode
      unfold Store.view at hview
      rw [hb.writes] at hview ⊢
      exact h.congr (hb.agree hlock hmode) hview

/-- A write that issues no QR of the intent. -/
theorem Handling.wrote (h : Handling intentId t s) (hopen : ∀ w ∈ s.writes t, w.ofOpen intentId)
    (hw : w.ofOpen intentId) (hissues : w.issues intentId = none) :
    Handling intentId t (wrote t w s) := by
  have hfollows : Follows intentId (s.writes t ++ [w]) s.db :=
    (h.follows hopen).snoc hopen hw hissues
  by_cases htouches : w.Touches intentId
  · refine .held .noKeyUpdate (by simp) (Store.holds_acquire.2 (.inl ⟨rfl, ?_⟩)) ?_
    · cases w with
      | resolveIntent copy outcome at_ =>
          have hid : copy.intentId = intentId := htouches
          simp [Write.needs, hid]
      | replaceQr copy md5 qr merchant at_ =>
          have hid : copy.intentId = intentId := htouches
          simp [Write.needs, hid]
      | _ => exact htouches.elim
    · simpa [Billing.wrote] using hfollows
  · cases h with
    | away haway =>
        refine .away fun w' hmem => ?_
        rcases (Store.mem_record_writes _ _ _).1 hmem with hmem | ⟨-, rfl⟩
        · exact haway w' hmem
        · exact htouches
    | held mode hmode hlock _ =>
        refine .held mode hmode (Store.holds_acquire.2 (.inr hlock)) ?_
        simpa [Billing.wrote] using hfollows

/-- A write of a checkout that issues no QR of the intent. -/
def Write.Plain (intentId : String) (w : Write) : Prop :=
  w.ofOpen intentId ∧ w.issues intentId = none

theorem qrObl_of_mild {α : Type} (c : Stmt α) (s : Store) (h : Mild (fun _ => False) c) :
    (qrContract intentId).Obl t c s := by
  cases c with
  | write w => exact h.elim
  | commit => exact h.elim
  | _ => trivial

/-- Only the data, the session's writes and its lock on the intent matter. -/
theorem Handling.of_same (h : Handling intentId t s) (hdb : s'.db = s.db)
    (hwrites : s'.writes t = s.writes t)
    (hlocks : ∀ {mode}, s.Holds t (.intent intentId) mode → s'.Holds t (.intent intentId) mode) :
    Handling intentId t s' := by
  cases h with
  | away h => exact .away (hwrites ▸ h)
  | held mode hmode hlock h =>
      refine .held mode hmode (hlocks hlock) ?_
      rw [hwrites, hdb]
      exact h

theorem handling_noted {note : String} :
    Handling intentId t (noted t note s) ↔ Handling intentId t s :=
  ⟨fun h => h.of_same rfl rfl fun hlock => hlock, fun h => h.of_same rfl rfl fun hlock => hlock⟩

theorem qrLedger (intentId : String) (t : Tid) :
    Ledger (qrContract intentId) t (Write.Plain intentId) (Handling intentId t) where
  stable := handling_stable
  quiet hq _ hs := hs.of_same hq.db (congrFun hq.writes t) hq.holds
  mild := qrObl_of_mild
  write w hw s hc hs _ := ⟨hw.1, hs.wrote (hc.inv.2 t) hw.1 hw.2⟩
  rollback _ := trivial
  session _ _ := trivial
  finish s := .away (by simp)
  note _ _ := handling_noted.2
  stableNoted _ := ⟨fun hb hs => handling_noted.2 (handling_stable.keep hb (handling_noted.1 hs))⟩
  supersede _ _ s _ hc hs _ := ⟨trivial, hs.wrote (hc.inv.2 t) trivial rfl⟩
  commit s hc hs _ := ⟨continues_applyAll hc.inv.1 (hc.inv.2 t), hs.follows (hc.inv.2 t)⟩

theorem qrBookkeeping (intentId : String) (t : Tid) :
    Bookkeeping (qrContract intentId) t (Write.Plain intentId) (Handling intentId t) where
  toLedger := qrLedger intentId t
  fulfill intent bank := by
    have B := qrLedger intentId t
    refine B.fulfillPaymentIntent (P := fun _ _ => Handling intentId t) intent bank ?_ ?_
    · intro locked now s _ _ hc _ hs _
      exact ⟨trivial, hs.wrote (hc.inv.2 t) trivial rfl⟩
    · intro locked now _ s hs
      have hgrant := grant_mild (N := Write.Plain intentId) (locked.resolved .succeeded (some now))
        now bank (fun _ _ => ⟨trivial, rfl⟩) (fun _ => ⟨trivial, rfl⟩) (fun _ => ⟨trivial, rfl⟩)
        fun _ => ⟨trivial, rfl⟩
      refine (B.every hgrant s (.inr hs)).mono (fun _ _ => id) fun e s hs => ?_
      rcases hs with hdoomed | hdoomed | hs
      · exact .inl hdoomed
      · exact .inl hdoomed
      · exact .inr (handling_noted.2 hs)

/-! ## An open that finds the intent -/

/-- The session has locked the row of a pending intent and has written nothing. -/
structure Reading (t : Tid) (pending : PaymentIntent) (s : Store) : Prop where
  locked : LockedRow t pending s
  clean : s.writes t = []

theorem readingUpkeep (t : Tid) (pending : PaymentIntent) :
    Upkeep (qrContract intentId) t (fun _ => False) (Reading t pending) where
  stable := ⟨fun hb hs => ⟨lockedRow_stable.keep hb hs.locked, hb.writes.trans hs.clean⟩⟩
  quiet hq _ hs :=
    ⟨⟨hq.holds hs.locked.1, by rw [hq.view]; exact hs.locked.2⟩, by rw [hq.writes]; exact hs.clean⟩
  mild := qrObl_of_mild
  write _ hw := hw.elim

theorem reading_part {α : Type} {p : Prog α} (hp : p.Every (Mild fun _ => False)) :
    Triple (qrContract intentId) t (Books t (Reading t pending)) p
      (fun _ => Books t (Reading t pending)) fun _ _ => True :=
  ((readingUpkeep t pending).every hp).conseq (fun _ => id) (fun _ _ => id) fun _ _ _ => trivial

theorem reading_reads {α : Type} {p : Prog α} (hp : p.Every Reads) :
    Triple (qrContract intentId) t (Books t (Reading t pending)) p
      (fun _ => Books t (Reading t pending)) fun _ _ => True :=
  reading_part (hp.mono fun _ => Reads.mild _)

theorem Reading.handling (h : Reading t pending s) : Handling intentId t s :=
  .away (by simp [h.clean])

/-- Until an answer says so, nothing is written. -/
def Unless (intentId : String) (t : Tid) (pending : PaymentIntent) (done : Bool) (s : Store) : Prop :=
  if done then Books t (Handling intentId t) s else Books t (Reading t pending) s

theorem settle_remembers (cfg : Settings) :
    Triple (qrContract intentId) t (Books t (Reading t pending))
      (settleBakongIntentIfPaid cfg pending) (fun answer => Unless intentId t pending answer.1)
      fun _ _ => True := by
  have B := qrBookkeeping intentId t
  unfold settleBakongIntentIfPaid
  split
  · exact .ret fun s hs => hs.imp_right Reading.handling
  split
  · exact .ret fun s hs => hs
  split
  · exact .ret fun s hs => hs
  refine .bind (reading_reads (bakongMd5sPaid_reads cfg pending)) fun paid => ?_
  split
  · refine .bind (Q := fun _ => Books t (Handling intentId t)) ?_ fun settled => .ret fun s hs => hs
    exact (B.fulfill pending _).conseq (fun s hs => hs.imp_right Reading.handling)
      (fun _ _ => id) fun _ _ _ => trivial
  · exact .ret fun s hs => hs

theorem supersede_remembers (check : Bool) :
    Triple (qrContract intentId) t (Books t (Reading t pending))
      (supersedeIfOwned check pending) (Unless intentId t pending) fun _ _ => True := by
  have B := qrBookkeeping intentId t
  unfold supersedeIfOwned markSucceededIfAlreadyPurchased
  split
  · split
    · refine .bind (reading_reads (.perform trivial)) fun owned => ?_
      split
      · refine .bind (reading_reads utcNow_reads) fun now => ?_
        refine .bind (Q := fun _ => Books t (Handling intentId t)) ?_ fun _ => .ret fun s hs => hs
        refine .write (readingUpkeep t pending).books_stable fun s hc hs hd => ⟨trivial, fun _ => .inr ?_⟩
        have hreading := hs.resolve_left (by simp [hd])
        exact hreading.handling.wrote (hc.inv.2 t) trivial rfl
      · exact .ret fun s hs => hs
    · exact .ret fun s hs => hs
  · exact .ret fun s hs => hs

/-- A new QR is issued on the row as it is committed. -/
theorem regenerateBakongQr_remembers (hid : pending.intentId = intentId) :
    Triple (qrContract intentId) t (Books t (Reading t pending)) (regenerateBakongQr pending)
      (fun _ => Books t (Handling intentId t)) fun _ _ => True := by
  refine .bind (reading_reads generateKhqr_reads) fun answer => ?_
  refine .bind (reading_reads utcNow_reads) fun now => ?_
  refine .bind (reading_part (enterUnique_mild _ _)) fun _ => ?_
  refine .write (readingUpkeep t pending).books_stable fun s _ hs hd => ⟨trivial, fun _ => .inr ?_⟩
  have hreading := hs.resolve_left (by simp [hd])
  have hrow : s.db.intent? intentId = some pending := by
    have hview := hreading.locked.2
    rwa [Store.view, hreading.clean, applyAll_nil, hid] at hview
  refine .held .update (by simp) (Store.holds_acquire.2 (.inr ?_)) ?_
  · rw [← hid]
    exact hreading.locked.1
  · simpa [hreading.clean] using follows_replaceQr hrow answer.2.1 answer.1
      (pending.merchantAfter answer.2.2) now

/-- An open of the intent itself, on the row it has locked. -/
theorem reuseOrRefreshPending_remembers (cfg : Settings) (check : Bool)
    (hid : pending.intentId = intentId) :
    Triple (qrContract intentId) t (Books t (Reading t pending))
      (reuseOrRefreshPending cfg pending check) (fun _ => Books t (Handling intentId t))
      fun _ _ => True := by
  have B := qrBookkeeping intentId t
  refine .bind (reading_reads utcNow_reads) fun now => ?_
  split
  · refine .bind (supersede_remembers check) fun owned => ?_
    cases owned with
    | true => exact B.finishRequest pending
    | false => exact .ret fun s hs => hs.imp_right Reading.handling
  refine .bind (settle_remembers cfg) fun answer => ?_
  cases hpaid : answer.1 with
  | true => exact B.finishRequest pending
  | false =>
      refine .bind (supersede_remembers check) fun owned => ?_
      cases owned with
      | true => exact B.finishRequest pending
      | false =>
          refine .bind (reading_reads (bakongQrConfirmedUnpaid_reads cfg pending)) fun unpaid => ?_
          split
          · exact .bind (regenerateBakongQr_remembers hid) fun _ => B.finishRequest pending
          · exact .ret fun s hs => hs.imp_right Reading.handling

/-! ## An open that finds no intent -/

/-- A selection of pending intents by what they are for and by their buyer. -/
structure ByTerms (qualifies : PaymentIntent → Bool) : Prop where
  pending : ∀ {row}, qualifies row = true → row.status = .pending
  congr : ∀ {row row'}, row'.terms = row.terms → row'.status = row.status →
    qualifies row' = qualifies row

theorem pendingTitle_byTerms (title : Title) (user : Option Uuid) (guest : Option String)
    (titleId : Uuid) : ByTerms (PaymentIntent.pendingTitle title user guest titleId) where
  pending := PaymentIntent.pending_of_pendingTitle
  congr {row row'} hterms hstatus := by
    simp only [PaymentIntent.terms, Prod.mk.injEq] at hterms
    obtain ⟨⟨huser, hguest⟩, hmethod, hkind, ⟨hcontent, hseries⟩, -⟩ := hterms
    have htitle : row'.titleId title = row.titleId title := by
      cases title
      · exact hcontent
      · exact hseries
    have hidentity : row'.hasIdentity user guest = row.hasIdentity user guest := by
      simp only [PaymentIntent.hasIdentity, huser, hguest]
    rw [PaymentIntent.pendingTitle, PaymentIntent.pendingTitle, hidentity, hmethod, hkind, htitle,
      hstatus]

theorem pendingPlan_byTerms (user : Uuid) (plan : String) (amount : Int) :
    ByTerms (PaymentIntent.pendingPlan user plan amount) where
  pending := PaymentIntent.pending_of_pendingPlan
  congr {row row'} hterms hstatus := by
    simp only [PaymentIntent.terms, Prod.mk.injEq] at hterms
    obtain ⟨⟨huser, -⟩, hmethod, hkind, -, hplan, hamount⟩ := hterms
    rw [PaymentIntent.pendingPlan, PaymentIntent.pendingPlan, huser, hmethod, hkind, hplan, hamount,
      hstatus]

/-- The intent as it is committed does not qualify. -/
def Unlisted (qualifies : PaymentIntent → Bool) (intentId : String) (s : Store) : Prop :=
  ∀ row, s.db.intent? intentId = some row → qualifies row = false

section

variable {qualifies : PaymentIntent → Bool}

/-- An intent that does not qualify never will. -/
theorem Unlisted.of_continues (hq : ByTerms qualifies) (h : Unlisted qualifies intentId s)
    (hmove : Continues intentId s.db s'.db) : Unlisted qualifies intentId s' := by
  intro row' hrow'
  obtain ⟨row, hrow, hterms, hpending⟩ := hmove row' hrow'
  by_contra hqualifies
  rw [Bool.not_eq_false] at hqualifies
  have hpending' := hq.pending hqualifies
  have hsame := hq.congr hterms (hpending'.trans (hpending hpending').symm)
  rw [h row hrow] at hsame
  simp [hsame] at hqualifies

theorem unlisted_stable (hq : ByTerms qualifies) :
    Stable (qrContract intentId) t (Unlisted qualifies intentId) :=
  ⟨fun hb hs => hs.of_continues hq hb.rely⟩

/-- The session has written nothing. -/
def Clean (t : Tid) (s : Store) : Prop := s.writes t = []

theorem Clean.view (h : Clean t s) : s.view t = s.db := by
  rw [Store.view, h, applyAll_nil]

theorem cleanUpkeep (t : Tid) : Upkeep (qrContract intentId) t (fun _ => False) (Clean t) where
  stable := ⟨fun hb hs => hb.writes.trans hs⟩
  quiet hq _ hs := (congrFun hq.writes t).trans hs
  mild := qrObl_of_mild
  write _ hw := hw.elim

theorem clean_stable : Stable (qrContract intentId) t (Clean t) := (cleanUpkeep t).stable

theorem Clean.handling (h : Clean t s) : Handling intentId t s := .away (by simp [show _ = [] from h])

/-- The rows locked so far; while there are none, the intent is still to come or does not
qualify. -/
structure Search (qualifies : PaymentIntent → Bool) (intentId : String) (t : Tid)
    (found : List PaymentIntent) (intentIds : List String) (s : Store) : Prop where
  clean : Clean t s
  locked : ∀ row ∈ found, qualifies row = true ∧ LockedRow t row s
  rest : found = [] → intentId ∈ intentIds ∨ Unlisted qualifies intentId s

theorem search_stable (hq : ByTerms qualifies) (found : List PaymentIntent)
    (intentIds : List String) :
    Stable (qrContract intentId) t (Search qualifies intentId t found intentIds) :=
  ⟨fun hb hs => ⟨clean_stable.keep hb hs.clean,
    fun row hrow => (hs.locked row hrow).imp_right (lockedRow_stable.keep hb),
    fun hnone => (hs.rest hnone).imp_right ((unlisted_stable hq).keep hb)⟩⟩

theorem lockIntents_part (hq : ByTerms qualifies) (found : List PaymentIntent)
    (intentIds : List String) :
    Triple (qrContract intentId) t (Search qualifies intentId t found intentIds)
      (lockIntents qualifies intentIds)
      (fun rows => Search qualifies intentId t (found ++ rows) []) fun _ _ => True := by
  induction intentIds generalizing found with
  | nil => exact .ret fun s hs => by rwa [List.append_nil]
  | cons id intentIds ih =>
      refine .bind (.lock (Q := fun _ s => s.Holds t (.intent id) .update ∧
        Search qualifies intentId t found (id :: intentIds) s) (search_stable hq _ _)
        fun s _ hs _ => ⟨trivial, fun _ => ⟨by simp, hs.clean, ?_, hs.rest⟩⟩) fun _ => ?_
      · exact fun row hrow => (hs.locked row hrow).imp_right fun h => ⟨Store.holds_acquire.2 (.inr h.1), h.2⟩
      refine .bind (.select (Q := fun row? =>
          Search qualifies intentId t (found ++ row?.toList) intentIds)
        (.and (.holds _ _) (search_stable hq _ _)) fun s _ hs _ => ⟨trivial, hs.2.clean, ?_, ?_⟩)
        fun row? => ?_
      · intro row hrow
        rcases List.mem_append.1 hrow with hrow | hrow
        · exact hs.2.locked row hrow
        · obtain ⟨hlookup, hqualifies⟩ := Option.filter_eq_some_iff.1 (Option.mem_toList.1 hrow)
          have hid : row.intentId = id := key_of_lookup hlookup
          refine ⟨hqualifies, ?_, ?_⟩
          · rw [hid]
            exact hs.1
          · rw [hid]
            exact hlookup
      · intro hnone
        obtain ⟨hfound, hrow⟩ := List.append_eq_nil_iff.1 hnone
        rcases hs.2.rest hfound with hmem | hunlisted
        · rcases List.mem_cons.1 hmem with rfl | hmem
          · refine .inr fun row hcommitted => ?_
            rw [hs.2.clean.view, show s.db.intent? intentId = some row from hcommitted] at hrow
            by_contra hqualifies
            simp [hqualifies] at hrow
          · exact .inl hmem
        · exact .inr hunlisted
      · refine .bind (ih (found ++ row?.toList)) fun rows => .ret fun s hs => ?_
        rwa [List.append_assoc] at hs

/-- That the intent does not qualify lasts over every program. -/
theorem unlisted_lasting (hq : ByTerms qualifies) {α : Type} {p : Prog α} {P : Store → Prop}
    {Q : α → Store → Prop} (h : Triple (qrContract intentId) t P p Q fun _ _ => True) :
    Triple (qrContract intentId) t (fun s => P s ∧ Unlisted qualifies intentId s) p
      (fun a s => Q a s ∧ Unlisted qualifies intentId s) fun _ _ => True :=
  (h.lasting qrContract_sound (fun _ => rfl) fun hmove hs => hs.of_continues hq hmove).conseq
    (fun _ => id) (fun _ _ => id) fun _ _ _ => trivial

theorem clean_part {α : Type} {p : Prog α} (hp : p.Every (Mild fun _ => False)) :
    Triple (qrContract intentId) t (Books t (Clean t)) p (fun _ => Books t (Clean t))
      fun _ _ => True :=
  ((cleanUpkeep t).every hp).conseq (fun _ => id) (fun _ _ => id) fun _ _ _ => trivial

theorem clean_reads {α : Type} {p : Prog α} (hp : p.Every Reads) :
    Triple (qrContract intentId) t (Books t (Clean t)) p (fun _ => Books t (Clean t))
      fun _ _ => True :=
  clean_part (hp.mono fun _ => Reads.mild _)

/-- The intent is there, so no other is inserted under its id. -/
theorem addIntent_remembers (row : PaymentIntent) :
    Triple (qrContract intentId) t (Books t (Clean t)) (addIntent row)
      (fun _ => Books t (Handling intentId t)) fun _ _ => True := by
  by_cases hid : row.intentId = intentId
  · refine .bind (Q := fun _ _ => False) ?_ fun _ _ hs => hs.elim
    refine .bind (.enter (Q := fun entered _ => entered = false)
      (cleanUpkeep t).books_stable fun s hc hs hd => ⟨trivial, fun _ _ => rfl, fun _ hfree => ?_⟩)
      fun entered => ?_
    · have hclean : Clean t s := hs.resolve_left (by simp [hd])
      obtain ⟨found, hfound⟩ := hc.inv.1.exists_intent?
      rw [hclean.view, hid, hfound] at hfree
      cases hfree
    · refine .given (fun _ hs => hs) fun hentered => ?_
      rw [hentered, if_neg Bool.false_ne_true]
      exact .reject (.pure _) fun _ _ _ _ => trivial
  · exact ((qrBookkeeping intentId t).part (addIntent_mild ⟨hid, rfl⟩)).pre fun s hs =>
      hs.imp_right Clean.handling

theorem commitNewIntentOrReuse_remembers (cfg : Settings) (hq : ByTerms qualifies)
    (intent : PaymentIntent) (check : Bool) :
    Triple (qrContract intentId) t
      (fun s => Books t (Clean t) s ∧ Unlisted qualifies intentId s)
      (commitNewIntentOrReuse cfg intent qualifies check)
      (fun _ => Books t (Handling intentId t)) fun _ _ => True := by
  have B := qrBookkeeping intentId t
  refine .bind (unlisted_lasting hq (Q := fun committed s => committed = true →
    Books t (Handling intentId t) s) (.tryCatch (M := fun _ _ => True) ?_ fun e => ?_))
    fun committed => ?_
  · exact .bind (addIntent_remembers intent) fun _ =>
      .bind (B.commitWithTelegram.conseq (fun _ => id) (fun _ _ => id) fun _ _ _ => trivial)
        fun _ => .ret fun s hs _ => hs
  · split
    · exact .ret fun _ _ h => (Bool.false_ne_true h).elim
    · exact .raise fun _ _ => trivial
  cases committed with
  | true => exact (B.partReads (refresh_reads intent)).pre fun s hs => hs.1 rfl
  | false =>
      refine .bind (.rollback (Q := fun _ s => Clean t s ∧ Unlisted qualifies intentId s)
        (.and ⟨fun _ _ h => (Bool.false_ne_true h).elim⟩ (unlisted_stable hq)) fun s _ hs =>
        ⟨fun _ => trivial, Store.finish_writes s t, hs.2⟩) fun _ => ?_
      have hstable : Stable (qrContract intentId) t
          fun s => Clean t s ∧ Unlisted qualifies intentId s :=
        .and clean_stable (unlisted_stable hq)
      refine .bind (.session (Q := fun _ s => Clean t s ∧ Unlisted qualifies intentId s) hstable
        fun s _ hs => ⟨fun _ => trivial, hs⟩) fun _ => ?_
      refine .bind (.select (Q := fun existing? s => (∀ row ∈ existing?, qualifies row = true ∧
        row.intentId ≠ intentId) ∧ Clean t s) hstable fun s hc hs _ =>
          ⟨trivial, fun row hrow => ?_, hs.1⟩) fun existing? => ?_
      · have hmem := List.mem_of_head? hrow
        simp only [pendingLookup, oldestFirst, mem_orderBy, hs.1.view] at hmem
        obtain ⟨hmem, hqualifies⟩ := List.mem_filter.1 hmem
        refine ⟨hqualifies, fun hid => ?_⟩
        have hunlisted := hs.2 row (hc.inv.1.intent?_of_mem hmem hid)
        rw [hqualifies] at hunlisted
        cases hunlisted
      · cases existing? with
        | none => exact .raise fun _ _ => trivial
        | some existing =>
            refine .given (fun s hs => hs.1 existing rfl) fun hexisting => ?_
            refine (B.reuseOrRefreshPending cfg check (fun md5 qr merchant at_ => ⟨trivial, ?_⟩)
              (hq.pending hexisting.1)).pre fun s hs => .inr hs.2.handling
            simp [Write.issues, hexisting.2]

theorem newIntent_reads (cfg : Settings) (order : Order) : (newIntent cfg order).Every Reads :=
  .bind uuidHex_reads fun _ => .bind generateKhqr_reads fun _ => .bind utcNow_reads fun _ =>
    .bind uuidHex_reads fun _ => .ret _

theorem checkout_remembers (cfg : Settings) (user : Option Uuid) (hq : ByTerms qualifies) (check : Bool)
    {order : Prog Order} (horder : order.Every Reads) :
    Triple (qrContract intentId) t (Books t (Clean t)) (checkout cfg user qualifies check order)
      (fun _ => Books t (Handling intentId t)) fun _ _ => True := by
  have B := qrBookkeeping intentId t
  refine .bind (clean_part (lockBuyer_mild user)) fun _ => ?_
  refine .bind (.select (Q := fun snapshot => Search qualifies intentId t [] snapshot)
    (cleanUpkeep t).books_stable fun s hc hs hd => ⟨trivial, ?_⟩) fun snapshot =>
    .bind (lockIntents_part hq [] snapshot) fun rows => ?_
  · have hclean : Clean t s := hs.resolve_left (by simp [hd])
    refine ⟨hclean, by simp, fun _ => ?_⟩
    by_cases hmem : intentId ∈ (pendingLookup qualifies (s.view t)).map PaymentIntent.intentId
    · exact .inl hmem
    · refine .inr fun row hrow => ?_
      by_contra hqualifies
      refine hmem (List.mem_map.2 ⟨row, ?_, key_of_lookup hrow⟩)
      rw [hclean.view]
      simp only [pendingLookup, oldestFirst, mem_orderBy]
      exact List.mem_filter.2 ⟨mem_of_lookup hrow, by simpa using hqualifies⟩
  rw [List.nil_append]
  cases rows with
  | nil =>
      refine (Triple.bind (unlisted_lasting hq (clean_reads horder)) fun order => ?_).pre
        fun s hs => ⟨.inr hs.clean, (hs.rest rfl).resolve_left (by simp)⟩
      exact .bind (unlisted_lasting hq (clean_reads (newIntent_reads cfg order))) fun intent =>
        commitNewIntentOrReuse_remembers cfg hq intent check
  | cons pending rows =>
      by_cases hid : pending.intentId = intentId
      · exact (reuseOrRefreshPending_remembers cfg check hid).pre fun s hs =>
          .inr ⟨(hs.locked pending (by simp)).2, hs.clean⟩
      · refine .given (fun s hs => (hs.locked pending (by simp)).1) fun hqualifies => ?_
        refine (B.reuseOrRefreshPending cfg check (fun md5 qr merchant at_ => ⟨trivial, ?_⟩)
          (hq.pending hqualifies)).pre fun s hs => .inr hs.clean.handling
        simp [Write.issues, hid]

end

/-! ## Every run of opens -/

/-- An open of the checkout of a movie, a series or a plan. -/
inductive Opening where
  | movie (contentId : Uuid) (userId : Option Uuid) (guestId : Option String)
  | series (seriesId : Uuid) (userId : Option Uuid) (guestId : Option String)
  | plan (user : Uuid) (planCode : Option String)

def Opening.call : Opening → Call
  | .movie contentId userId guestId => .movie contentId userId guestId
  | .series seriesId userId guestId => .series seriesId userId guestId
  | .plan user planCode => .plan user planCode

/-- Any number of opens over an idle database. -/
def startOpens (cfg : Settings) (d : Db) (world : World) (opens : Tid → Opening) : Pool :=
  startCalls cfg d world fun t => (opens t).call

theorem Opening.part (cfg : Settings) (opening : Opening) :
    Triple (qrContract intentId) t (Clean t) (opening.call.prog cfg)
      (fun _ => Books t (Handling intentId t)) fun _ _ => True := by
  have B := qrBookkeeping intentId t
  have hclosing {p : Prog PaymentIntent} (h : Triple (qrContract intentId) t (Books t (Clean t)) p
      (fun _ => Books t (Handling intentId t)) fun _ _ => True) :
      Triple (qrContract intentId) t (Clean t) (closing (answering p))
        (fun _ => Books t (Handling intentId t)) fun _ _ => True :=
    (B.closing (B.answering h)).pre fun s hs => .inr hs
  cases opening with
  | movie contentId user guest =>
      refine hclosing (.bind (clean_part (.perform trivial)) fun purchased => ?_)
      split
      · exact .raise fun _ _ => trivial
      · exact checkout_remembers cfg user (pendingTitle_byTerms _ _ _ _) true (movieOrder_reads _ _ _)
  | series seriesId user guest =>
      refine hclosing (.bind (clean_reads (subscribed_reads user)) fun active => ?_)
      split
      · exact .raise fun _ _ => trivial
      refine .bind (clean_part (.perform trivial)) fun purchased => ?_
      split
      · exact .raise fun _ _ => trivial
      · exact checkout_remembers cfg user (pendingTitle_byTerms _ _ _ _) true (seriesOrder_reads _ _ _)
  | plan user planCode =>
      refine hclosing (.bind (clean_reads (resolveActivePlan_reads planCode)) fun plan => ?_)
      refine .bind (clean_reads (validatePaymentAmount_reads _)) fun amount => ?_
      exact checkout_remembers cfg (some user) (pendingPlan_byTerms _ _ _) false trivial

/-- The QRs that committed transactions have issued for the intent, the newest first. -/
def issuedBy (intentId : String) (xs : List (Tid × Commit Write Info)) : List String :=
  issuedOn intentId (xs.flatMap fun x => x.2.writes)

theorem startOpens_keeps (cfg : Settings) (hone : d.One intentId) (world : World)
    (opens : Tid → Opening) :
    Pool.Keeps (qrContract intentId) (fun t => Books t (Handling intentId t))
      (fun t _ s => s.doomed t = true ∨ True) (startOpens cfg d world opens) :=
  Pool.Keeps.start ⟨hone, by simp [Store.idle]⟩ fun t => ((opens t).part cfg).pre fun s hs => by
    rw [hs]
    rfl

theorem books_stable (intentId : String) (t : Tid) :
    Stable (qrContract intentId) t (Books t (Handling intentId t)) :=
  (qrBookkeeping intentId t).books_stable

theorem opens_continue (cfg : Settings) (hone : d.One intentId) {world : World}
    {opens : Tid → Opening} {q : Pool} (h : Pool.Run .any (startOpens cfg d world opens) q) :
    Continues intentId d q.store.db :=
  ((startOpens_keeps cfg hone world opens).run qrContract_sound (books_stable intentId)
    (fun _ _ => .or (.doomed true) (.pure True)) h).2

/-- However opens interleave: while the intent is pending, its row remembers the last two
QRs issued for it. -/
theorem opens_remember (cfg : Settings) (hone : d.One intentId) {world : World}
    {opens : Tid → Opening} {xs : List (Tid × Commit Write Info)} {q : Pool}
    (h : Pool.Trace commits .any (startOpens cfg d world opens) xs q)
    (hpast : ∀ row, d.intent? intentId = some row → row.Remembers issued)
    (hrow' : q.store.db.intent? intentId = some row') (hpending : row'.status = .pending) :
    row'.Remembers (issuedBy intentId xs ++ issued) := by
  have howed : Owed (qrContract intentId) d xs :=
    h.owed qrContract_sound (books_stable intentId) (fun t _ => .or (.doomed true) (.pure True))
      (startOpens_keeps cfg hone world opens)
  have hcommitted : q.store.db = publishAll xs d := h.committed
  rw [hcommitted] at hrow'
  clear h hcommitted
  induction howed generalizing row' with
  | nil => exact hpast row' hrow'
  | @snoc ys t s _ hdb hobl ih =>
      obtain ⟨hcontinues, hfollows⟩ := hobl
      rw [publishAll_snoc, ← hdb] at hrow'
      obtain ⟨row, hrow, -, hpending'⟩ := hcontinues row' hrow'
      have hremembers := ih (hdb ▸ hrow) (hpending' hpending)
      have hissued : issuedBy intentId (ys ++ [(t, ⟨s.writes t, s.info t⟩)]) =
          issuedOn intentId (s.writes t) ++ issuedBy intentId ys := by
        simp [issuedBy, issuedOn_append]
      rw [hissued, List.append_assoc]
      exact hfollows row row' hrow hrow' hpending _ hremembers

end MovieApi.Billing
