import MovieApi.Billing.LegalRuns

/-!
# Convergent checkouts

A buyer who opens the checkout of one title twice, from two tabs or by a double click, gets
one intent: the calls find the pending one under its lock, or run into the partial unique
index and fall back to it.  As long as no commit takes the pending intent of a buyer and a
title away, every call for them that returns returns that intent, and there is no other.
-/

namespace MovieApi.Billing

open ReadCommitted ReadCommitted.Prog Sql

/-! ## The key of a checkout -/

/-- The entry of a buyer and a title in the indexes on pending intents. -/
def Title.pendingKey (title : Title) (userId : Option Uuid) (guestId : Option String)
    (titleId : Uuid) : Option PendingKey :=
  match userId with
  | some user => some (.titleUser title user titleId)
  | none => guestId.map fun guest => .titleGuest title guest titleId

/-- What a call checks out. -/
def Call.pendingKey : Call → Option PendingKey
  | .movie contentId userId guestId => Title.movie.pendingKey userId guestId contentId
  | .series seriesId userId guestId => Title.series.pendingKey userId guestId seriesId
  | _ => none

/-- A row that a checkout may reuse has the entry of the checkout. -/
theorem PaymentIntent.mem_pendingKeys_of_pendingTitle {title : Title} {userId : Option Uuid}
    {guestId : Option String} {titleId : Uuid} {row : PaymentIntent} {key : PendingKey}
    (hkey : title.pendingKey userId guestId titleId = some key)
    (h : row.pendingTitle title userId guestId titleId = true) : key ∈ row.pendingKeys := by
  simp only [pendingTitle, Bool.and_eq_true, decide_eq_true_eq] at h
  obtain ⟨hidentity, hmethod, hkind, htitle, hstatus⟩ := h
  have hkeys : key ∈ row.titleKeys title := by
    unfold titleKeys
    rw [htitle]
    cases userId with
    | some user =>
        simp only [Title.pendingKey, Option.some.injEq] at hkey
        simp only [hasIdentity, decide_eq_true_eq] at hidentity
        simp [hidentity, ← hkey]
    | none =>
        cases guestId with
        | none => simp [Title.pendingKey] at hkey
        | some guest =>
            simp only [Title.pendingKey, Option.map_some, Option.some.injEq] at hkey
            simp only [hasIdentity, decide_eq_true_eq] at hidentity
            simp [hidentity, ← hkey]
  unfold pendingKeys
  rw [if_pos ⟨hstatus, hmethod⟩, hkind]
  cases title <;> exact hkeys

/-! ## Runs that keep the pending intent -/

/-- No commit takes the entry away from the intent that has it. -/
def holderKept (key : PendingKey) : Regime where
  stmt t _ c s :=
    match c with
    | .commit => s.db.intents.all fun row => !decide (key ∈ row.pendingKeys) ||
        (s.view t).intents.any fun row' =>
          decide (row'.intentId = row.intentId ∧ key ∈ row'.pendingKeys)
    | _ => true
  outside _ _ := true

/-- The intent with the id has the entry. -/
def HeldBy (key : PendingKey) (intentId : String) (d : Db) : Prop :=
  .pending key ∈ keys.entriesAt d (.intent intentId)

/-- What every session keeps where the entry keeps its intent. -/
abbrev holderContract (key : PendingKey) : Contract :=
  keys.contract (fun e => e = .pending key) (holderKept key)

theorem heldBy_iff {d : Db} {key : PendingKey} {intentId : String} :
    HeldBy key intentId d ↔
      ∃ row ∈ d.intents, row.intentId = intentId ∧ key ∈ row.pendingKeys := by
  rw [HeldBy, mem_entriesAt]
  constructor
  · rintro ⟨row, hrow, hkey, he⟩
    cases row with
    | intent row =>
        exact ⟨row, Db.intent_mem_rows.1 hrow, Key.intent.inj hkey, by
          simpa [Row.entries, PaymentIntent.entries] using he⟩
    | _ => cases hkey
  · rintro ⟨row, hrow, rfl, hkey⟩
    exact ⟨.intent row, Db.intent_mem_rows.2 hrow, rfl, by
      simp [Row.entries, PaymentIntent.entries, hkey]⟩

/-- Only intents have entries in the indexes on pending intents. -/
theorem eq_intent_of_pending {d : Db} {key : PendingKey} {k : Key}
    (h : .pending key ∈ keys.entriesAt d k) : ∃ intentId, k = .intent intentId := by
  obtain ⟨row, -, rfl, he⟩ := mem_entriesAt.1 h
  cases row with
  | intent row => exact ⟨_, rfl⟩
  | _ => simp [Row.entries] at he

section

variable {key : PendingKey} {t : Tid}

theorem holderContract_sound : (holderContract key).Sound (holderKept key) := by
  refine keys.contract_sound fun {t s} hreg _ e he k hmem => ?_
  subst he
  obtain ⟨intentId, rfl⟩ := eq_intent_of_pending hmem
  obtain ⟨row, hrow, rfl, hkey⟩ := heldBy_iff.1 hmem
  simp only [holderKept, List.all_eq_true, Bool.or_eq_true, Bool.not_eq_true',
    decide_eq_false_iff_not, List.any_eq_true, decide_eq_true_eq] at hreg
  obtain ⟨row', hrow', hid, hkey'⟩ := (hreg row hrow).resolve_left (not_not_intro hkey)
  exact heldBy_iff.2 ⟨row', hrow', hid, hkey'⟩

theorem HeldBy.rely {intentId : String} {s s' : Store} (h : (holderContract key).Rely s s')
    (hs : HeldBy key intentId s.db) : HeldBy key intentId s'.db :=
  h (.pending key) rfl (.intent intentId) hs

theorem heldBy_stable {intentId : String} :
    Stable (holderContract key) t fun s => HeldBy key intentId s.db :=
  ⟨fun hb hs => HeldBy.rely hb.rely hs⟩

/-- Once the intent has the entry, it has it until a program ends. -/
theorem heldBy_lasting {α : Type} {p : Prog α} {P : Store → Prop} {Q : α → Store → Prop}
    {R : Err → Store → Prop} (h : Triple (holderContract key) t P p Q R) (intentId : String) :
    Triple (holderContract key) t (fun s => P s ∧ HeldBy key intentId s.db) p
      (fun a s => Q a s ∧ HeldBy key intentId s.db) R :=
  (Triple.lasting holderContract_sound (fun h => h) HeldBy.rely h).conseq (fun _ => id)
    (fun _ _ => id) fun _ _ hs => hs.1

/-! ## Before a session writes -/

/-- The session has written nothing. -/
def Unwritten (t : Tid) (s : Store) : Prop := s.writes t = []

theorem Unwritten.view {s : Store} (h : Unwritten t s) : s.view t = s.db := by
  rw [Store.view, h]
  rfl

theorem unwrittenUpkeep (t : Tid) :
    Upkeep (holderContract key) t (fun _ => False) (Unwritten t) where
  stable := ⟨fun hb hs => hb.writes.trans hs⟩
  quiet hq _ hs := by rw [Unwritten, hq.writes]; exact hs
  mild := keyObl_of_mild
  write _ := False.elim

theorem unwritten_part {α : Type} {p : Prog α} (hp : p.Every (Mild fun _ => False)) :
    Triple (holderContract key) t (Live t (Unwritten t)) p (fun _ => Live t (Unwritten t))
      fun _ _ => True :=
  (unwrittenUpkeep t).everyLive hp

/-- What a session that has written nothing finds is committed. -/
theorem unwritten_select {α : Type} {query : Db → α} {φ : α → Db → Prop}
    (hφ : ∀ d, φ (query d) d) :
    Triple (holderContract key) t (Live t (Unwritten t)) (.select query)
      (fun a s => Live t (Unwritten t) s ∧ φ a s.db) fun _ _ => True := by
  have B : Upkeep (holderContract key) t (fun _ => False) (Unwritten t) := unwrittenUpkeep t
  refine .select B.stable.live fun s _ hs _ => ⟨trivial, ⟨?_, B.quiet (.begin t s) rfl hs.2⟩, ?_⟩
  · simpa using hs.1
  · rw [hs.2.view]
    exact hφ s.db

variable {qualifies : PaymentIntent → Bool}

/-- The rows that the checkout reuses have the entry, and keep it. -/
theorem lockIntents_held (hqualifies : ∀ row, qualifies row = true → key ∈ row.pendingKeys)
    (intentIds : List String) :
    Triple (holderContract key) t (Live t (Unwritten t)) (lockIntents qualifies intentIds)
      (fun rows s => Live t (Unwritten t) s ∧
        ∀ row ∈ rows, qualifies row = true ∧ HeldBy key row.intentId s.db) fun _ _ => True := by
  induction intentIds with
  | nil => exact .ret fun s hs => ⟨hs, by simp⟩
  | cons intentId intentIds ih =>
      refine .bind (unwritten_part (.perform trivial)) fun _ => ?_
      refine .bind (unwritten_select (φ := fun (row? : Option PaymentIntent) d =>
        ∀ row, row? = some row → qualifies row = true ∧ HeldBy key row.intentId d)
          fun d row hrow => ?_) fun row? => ?_
      · obtain ⟨hrow, hq⟩ := Option.filter_eq_some_iff.1 hrow
        exact ⟨hq, heldBy_iff.2 ⟨row, mem_of_lookup hrow, rfl, hqualifies row hq⟩⟩
      · cases row? with
        | none =>
            refine .pre ?_ fun s hs => hs.1
            exact .bind ih fun rows => .ret fun s hs => hs
        | some row =>
            refine .given (fun s hs => (hs.2 row rfl).1) fun hq => ?_
            refine .pre (.bind (heldBy_lasting ih row.intentId) fun rows => ?_)
              fun s hs => ⟨hs.1, (hs.2 row rfl).2⟩
            refine .ret fun s hs => ⟨hs.1.1, fun row' hrow' => ?_⟩
            rcases List.mem_cons.1 hrow' with rfl | hrow'
            · exact ⟨hq, hs.2⟩
            · exact hs.1.2 row' hrow'

/-! ## What the checkout answers -/

theorem reuseOrRefresh_held (cfg : Settings) {pending : PaymentIntent} (check : Bool)
    (h : pending.status = .pending) :
    Triple (holderContract key) t (fun s => HeldBy key pending.intentId s.db)
      (reuseOrRefreshPending cfg pending check)
      (fun row s => HeldBy key row.intentId s.db) fun _ _ => True := by
  have B : Openings (holderContract key) t Write.makesNone fun _ => True := keyOpenings t
  refine (heldBy_lasting (B.reuseOrRefresh cfg check (B.regenerate pending) h)
    pending.intentId).conseq (fun s hs => ⟨.inr trivial, hs⟩) (fun row s hs => ?_)
      fun _ _ _ => trivial
  rw [hs.1.1]
  exact hs.2

/-- A committed new intent has the entry it was made with. -/
theorem commitNewIntent_held {intent : PaymentIntent} (hkey : key ∈ intent.pendingKeys) :
    Triple (holderContract key) t (Live t fun _ => True)
      (do
        addIntent intent
        commitWithTelegram
        return true)
      (fun _ s => HeldBy key intent.intentId s.db) fun _ _ => True := by
  have B : Openings (holderContract key) t Write.makesNone fun _ => True := keyOpenings t
  have hadd : Triple (holderContract key) t (Live t (Books t fun _ => True)) (addIntent intent)
      (fun _ => Live t (Books t (LockedRow t intent))) fun _ _ => True :=
    (addIntent_enters intent).live (addIntent_mild (N := fun _ => True) trivial)
  refine .bind (hadd.pre fun s hs => ⟨hs.1, .inr trivial⟩) fun _ => ?_
  refine .bind (Q := fun _ s => HeldBy key intent.intentId s.db)
    (.bind (Q := fun _ s => HeldBy key intent.intentId s.db) ?_ fun _ => ?_) fun _ =>
      .ret fun _ hs => hs
  · refine .commit (Q := fun _ s => HeldBy key intent.intentId s.db)
      (Stable.or (.doomed true) lockedRow_stable).live fun s _ hs =>
        ⟨fun hd => by simp [hs.1] at hd, fun hd => ⟨trivial, ?_⟩⟩
    have hrow := (hs.2.resolve_left (by simp [hd])).2
    exact heldBy_iff.2 ⟨intent, mem_of_lookup hrow, rfl, hkey⟩
  · exact (heldBy_lasting (B.reads flushPendingTelegramAlerts_reads) intent.intentId).conseq
      (fun s hs => ⟨.inr trivial, hs⟩) (fun _ s hs => hs.2) fun _ _ _ => trivial

theorem commitNewIntentOrReuse_held (cfg : Settings) {intent : PaymentIntent} (check : Bool)
    (hkey : key ∈ intent.pendingKeys)
    (hqualifies : ∀ row, qualifies row = true → row.status = .pending ∧ key ∈ row.pendingKeys) :
    Triple (holderContract key) t (Live t fun _ => True)
      (commitNewIntentOrReuse cfg intent qualifies check)
      (fun row s => HeldBy key row.intentId s.db) fun _ _ => True := by
  have B : Openings (holderContract key) t Write.makesNone fun _ => True := keyOpenings t
  refine .bind (Q := fun committed s => committed = true → HeldBy key intent.intentId s.db) ?_
    fun committed => ?_
  · refine .tryCatch (M := fun _ _ => True)
      ((commitNewIntent_held hkey).post fun _ s hs _ => hs) fun e => ?_
    split
    · exact .ret fun _ _ => by simp
    · exact .raise fun _ _ => trivial
  · cases committed with
    | true =>
        refine (heldBy_lasting (B.refresh intent) intent.intentId).conseq
          (fun s hs => ⟨.inr trivial, hs rfl⟩) (fun row s hs => ?_) fun _ _ _ => trivial
        rw [hs.1.1]
        exact hs.2
    | false =>
        -- the index has the entry: what the other session committed is there to be reused
        refine .pre (P := fun _ => True) ?_ fun _ _ => trivial
        refine .bind (Q := fun _ => Live t (Unwritten t)) (.rollback (.pure True) fun s _ _ =>
          ⟨fun _ => trivial, by simp, by simp [Unwritten]⟩) fun _ => ?_
        refine .bind (unwritten_part (popTelegramAlerts_reads.mono fun _ => Reads.mild _))
          fun _ => ?_
        refine .bind (unwritten_select (φ := fun (row? : Option PaymentIntent) d =>
          ∀ row, row? = some row → row.status = .pending ∧ HeldBy key row.intentId d)
            fun d row hrow => ?_) fun row? => ?_
        · have hmem := List.mem_of_head? hrow
          obtain ⟨hstatus, hpending⟩ := hqualifies row (mem_pendingLookup hmem)
          simp only [pendingLookup, oldestFirst, mem_orderBy] at hmem
          exact ⟨hstatus,
            heldBy_iff.2 ⟨row, (List.mem_filter.1 hmem).1, rfl, hpending⟩⟩
        · cases row? with
          | none => exact .raise fun _ _ => trivial
          | some existing =>
              refine .given (fun s hs => (hs.2 existing rfl).1) fun hstatus => ?_
              exact (reuseOrRefresh_held cfg check hstatus).pre fun s hs => (hs.2 existing rfl).2

/-- An order of the title for the buyer. -/
structure Order.IsFor (order : Order) (title : Title) (userId : Option Uuid)
    (guestId : Option String) (titleId : Uuid) : Prop where
  userId : order.userId = userId
  guestId : order.guestId = guestId
  kind : order.kind = title.kind
  contentId : title = .movie → order.contentId = some titleId
  seriesId : title = .series → order.seriesId = some titleId

/-- The intent that an order makes is one that the checkout would reuse. -/
theorem newIntent_pendingTitle (cfg : Settings) {order : Order} {title : Title}
    {userId : Option Uuid} {guestId : Option String} {titleId : Uuid}
    (h : order.IsFor title userId guestId titleId) :
    Triple (holderContract key) t (Live t (Unwritten t)) (newIntent cfg order)
      (fun row s => row.pendingTitle title userId guestId titleId = true ∧
        Live t (Unwritten t) s) fun _ _ => True := by
  refine .bind (unwritten_part (uuidHex_reads.mono fun _ => Reads.mild _)) fun _ =>
    .bind (unwritten_part (generateKhqr_reads.mono fun _ => Reads.mild _)) fun _ =>
    .bind (unwritten_part (utcNow_reads.mono fun _ => Reads.mild _)) fun _ =>
    .bind (unwritten_part (uuidHex_reads.mono fun _ => Reads.mild _)) fun _ =>
    .ret fun _ hs => ⟨?_, hs⟩
  have htitle : ∀ row : PaymentIntent, row.contentId = order.contentId →
      row.seriesId = order.seriesId → row.titleId title = some titleId := by
    intro row hcontent hseries
    cases title with
    | movie => exact hcontent.trans (h.contentId rfl)
    | series => exact hseries.trans (h.seriesId rfl)
  simp only [PaymentIntent.pendingTitle, PaymentIntent.hasIdentity, h.kind, h.userId, h.guestId]
  cases userId <;> simpa using htitle _ rfl rfl

theorem checkout_held (cfg : Settings) (user : Option Uuid) (check : Bool) {order : Prog Order}
    {title : Title} {userId : Option Uuid} {guestId : Option String} {titleId : Uuid}
    (hkey : title.pendingKey userId guestId titleId = some key)
    (horder : Triple (holderContract key) t (Live t (Unwritten t)) order
      (fun order s => order.IsFor title userId guestId titleId ∧ Live t (Unwritten t) s)
      fun _ _ => True) :
    Triple (holderContract key) t (Live t (Unwritten t))
      (checkout cfg user (PaymentIntent.pendingTitle title userId guestId titleId) check order)
      (fun row s => HeldBy key row.intentId s.db) fun _ _ => True := by
  have hqualifies : ∀ row : PaymentIntent,
      row.pendingTitle title userId guestId titleId = true →
        row.status = .pending ∧ key ∈ row.pendingKeys := fun row hq =>
    ⟨PaymentIntent.pending_of_pendingTitle hq,
      PaymentIntent.mem_pendingKeys_of_pendingTitle hkey hq⟩
  refine .bind (unwritten_part (lockBuyer_mild user)) fun _ => ?_
  refine .bind (unwritten_part (.perform trivial)) fun snapshot => ?_
  refine .bind (lockIntents_held (fun row hq => (hqualifies row hq).2) snapshot) fun rows => ?_
  cases rows with
  | cons pending rows =>
      refine .given (fun s hs => (hs.2 pending (by simp)).1) fun hq => ?_
      exact (reuseOrRefresh_held cfg check (hqualifies _ hq).1).pre fun s hs =>
        (hs.2 pending (by simp)).2
  | nil =>
      refine .pre ?_ fun s hs => hs.1
      refine .bind horder fun order => .given (fun s hs => hs.1) fun hfor =>
        .pre ?_ fun s hs => hs.2
      refine .bind (newIntent_pendingTitle cfg hfor) fun intent => .given (fun s hs => hs.1)
        fun hq => ?_
      exact (commitNewIntentOrReuse_held cfg check (hqualifies intent hq).2 hqualifies).pre
        fun s hs => ⟨hs.2.1, trivial⟩

theorem createOrReuseMovie_held (cfg : Settings) {contentId : Uuid} {userId : Option Uuid}
    {guestId : Option String} (hkey : Title.movie.pendingKey userId guestId contentId = some key) :
    Triple (holderContract key) t (Live t (Unwritten t))
      (createOrReuseMovieBakongIntent cfg contentId userId guestId)
      (fun row s => HeldBy key row.intentId s.db) fun _ _ => True := by
  refine .bind (unwritten_part (.perform trivial)) fun purchased => ?_
  split
  · exact .raise fun _ _ => trivial
  refine checkout_held cfg userId true hkey ?_
  refine .bind (unwritten_select (φ := fun (row? : Option Content) _ =>
    ∀ row, row? = some row → row.id = contentId) fun d row hrow => ?_) fun row? => ?_
  · rw [Db.content?] at hrow
    exact key_of_lookup hrow
  split
  · exact .raise fun _ _ => trivial
  · next movie hmovie =>
      refine .given (fun s hs => hs.2 movie (Option.filter_eq_some_iff.1 hmovie).1) fun hid => ?_
      refine .pre (.bind (unwritten_part ((validatePaymentAmount_reads _).mono
        fun _ => Reads.mild _)) fun amount => .ret fun s hs => ⟨?_, hs⟩) fun s hs => hs.1
      exact ⟨rfl, rfl, rfl, fun _ => congrArg some hid, by simp⟩

theorem createOrReuseSeries_held (cfg : Settings) {seriesId : Uuid} {userId : Option Uuid}
    {guestId : Option String} (hkey : Title.series.pendingKey userId guestId seriesId = some key) :
    Triple (holderContract key) t (Live t (Unwritten t))
      (createOrReuseSeriesBakongIntent cfg seriesId userId guestId)
      (fun row s => HeldBy key row.intentId s.db) fun _ _ => True := by
  refine .bind (unwritten_part ((subscribed_reads userId).mono fun _ => Reads.mild _))
    fun active => ?_
  split
  · exact .raise fun _ _ => trivial
  refine .bind (unwritten_part (.perform trivial)) fun purchased => ?_
  split
  · exact .raise fun _ _ => trivial
  refine checkout_held cfg userId true hkey ?_
  exact .bind (unwritten_part ((validatePaymentAmount_reads _).mono fun _ => Reads.mild _))
    fun amount => .ret fun s hs => ⟨⟨rfl, rfl, rfl, by simp, fun _ => rfl⟩, hs⟩

/-! ## Calls -/

/-- The session's call has returned an intent that has the entry. -/
def AnsweredWith (key : PendingKey) (t : Tid) (s : Store) : Prop :=
  ∃ intent, (s.info t).answer = some intent ∧ HeldBy key intent.intentId s.db

theorem answeredWith_stable : Stable (holderContract key) t (AnsweredWith key t) :=
  ⟨fun hb ⟨intent, hanswer, hheld⟩ => ⟨intent, by rw [hb.info]; exact hanswer,
    HeldBy.rely hb.rely hheld⟩⟩

theorem closing_answering_held {p : Prog PaymentIntent} {P : Store → Prop}
    (h : Triple (holderContract key) t P p (fun row s => HeldBy key row.intentId s.db)
      fun _ _ => True) :
    Triple (holderContract key) t P (closing (answering p)) (fun _ => AnsweredWith key t)
      fun _ _ => True := by
  have B : Openings (holderContract key) t Write.makesNone fun _ => True := keyOpenings t
  refine .bind (Q := fun _ => AnsweredWith key t) ?_ fun _ => ?_
  · refine .tryCatch (M := fun _ _ => True) ?_ fun e => ?_
    · refine .bind (.bind h fun intent => ?_) fun _ => .ret fun _ hs => hs
      exact .session heldBy_stable fun s _ hs => ⟨fun _ => trivial, intent, by simp, hs⟩
    · refine .bind (B.rollbackStmt ?_) fun _ => .raise fun _ _ => trivial
      exact .or (.doomed true) (.pure True)
  · exact .rollback answeredWith_stable fun s _ hs => ⟨fun _ => trivial, hs⟩

theorem call_held (cfg : Settings) (call : Call) :
    Triple (holderContract key) t (Live t (Unwritten t)) (call.prog cfg)
      (fun _ s => call.pendingKey = some key → AnsweredWith key t s) fun _ _ => True := by
  have B : Openings (holderContract key) t Write.makesNone fun _ => True := keyOpenings t
  by_cases hkey : call.pendingKey = some key
  · cases call with
    | movie contentId userId guestId =>
        exact (closing_answering_held (createOrReuseMovie_held cfg hkey)).post
          fun _ _ hs _ => hs
    | series seriesId userId guestId =>
        exact (closing_answering_held (createOrReuseSeries_held cfg hkey)).post
          fun _ _ hs _ => hs
    | plan => cases hkey
    | other => cases hkey
  · refine Triple.conseq (P := Books t fun _ => True) (Q := fun _ => Books t fun _ => True) ?_
      (fun _ _ => .inr trivial) (fun _ _ _ h => absurd h hkey) fun _ _ => id
    cases call with
    | movie contentId userId guestId =>
        exact B.closing (B.answering (B.createOrReuseMovie cfg contentId userId guestId))
    | series seriesId userId guestId =>
        exact B.closing (B.answering (B.createOrReuseSeries cfg seriesId userId guestId))
    | plan user planCode =>
        exact B.closing (B.answering (B.createOrReuseSubscription cfg user planCode))
    | other request => exact request_enters cfg request

end

/-! ## Whole runs -/

theorem holderContract_keeps (cfg : Settings) {d : Db} (hd : d.Legal) (world : World)
    (calls : Tid → Call) (key : PendingKey) :
    Pool.Keeps (holderContract key)
      (fun t s => (calls t).pendingKey = some key → AnsweredWith key t s)
      (fun t _ s => s.doomed t = true ∨ True) (startCalls cfg d world calls) :=
  Pool.Keeps.start (UniqueIndex.Orderly.idle keys (sole_of_rowsApart hd.rowsApart) _ _) fun t =>
    (call_held cfg (calls t)).conseq (fun s hs => by subst hs; exact ⟨rfl, rfl⟩) (fun _ _ => id)
      fun _ _ => id

/-- However the checkouts of a buyer and a title interleave with each other and with all other
requests: while no commit takes their pending intent away, all that have returned have
returned the same one, and it is the only one pending. -/
theorem checkouts_converge (cfg : Settings) {d : Db} (hd : d.Legal) (world : World)
    (calls : Tid → Call) {key : PendingKey} {q : Pool}
    (hq : Pool.Run (holderKept key) (startCalls cfg d world calls) q) {t u : Tid}
    (ht : (calls t).pendingKey = some key) (hu : (calls u).pendingKey = some key)
    {intent intent' : PaymentIntent} (hintent : returned q t = some intent)
    (hintent' : returned q u = some intent') :
    intent'.intentId = intent.intentId ∧
      ∃ row ∈ q.store.db.intents, row.intentId = intent.intentId ∧ key ∈ row.pendingKeys ∧
        ∀ row' ∈ q.store.db.intents, key ∈ row'.pendingKeys → row' = row := by
  have hkeeps := ((holderContract_keeps cfg hd world calls key).run holderContract_sound
    (fun t => ⟨fun hb hs hkey => answeredWith_stable.keep hb (hs hkey)⟩)
    (fun _ _ => .or (.doomed true) (.pure True)) hq).1
  have hheld : ∀ {v intent}, (calls v).pendingKey = some key → returned q v = some intent →
      HeldBy key intent.intentId q.store.db := by
    intro v intent hkey hreturned
    have hmeets := hkeeps.meets v
    unfold returned at hreturned
    cases hprog : q.progs v with
    | ret a =>
        rw [hprog] at hmeets hreturned
        obtain ⟨intent', hanswer, hheld⟩ := hmeets hkey
        rw [hanswer, Option.some.injEq] at hreturned
        exact hreturned ▸ hheld
    | raise e => simp [hprog] at hreturned
    | stmt c k => simp [hprog] at hreturned
  have hsole := hkeeps.calm.inv.db
  refine ⟨Key.intent.inj (hsole.apart (hheld hu hintent') (hheld ht hintent)), ?_⟩
  obtain ⟨row, hrow, hid, hkey⟩ := heldBy_iff.1 (hheld ht hintent)
  refine ⟨row, hrow, hid, hkey, fun row' hrow' hkey' => Row.intent.inj
    ((rowsApart_of_sole hsole).apart _ (Db.intent_mem_rows.2 hrow') _ (Db.intent_mem_rows.2 hrow)
      (.pending key) ?_ ?_)⟩
  · simp [Row.entries, PaymentIntent.entries, hkey']
  · simp [Row.entries, PaymentIntent.entries, hkey]

namespace Shop

/-- A guest with the movie's checkout in two tabs. -/
def twoTabs : Tid → Call := fun _ => .movie 10 none (some "visitor")

/-- Both tabs have looked for a pending intent when the first one commits its own; the second
one makes another, runs into the index and reuses the first one's. -/
theorem checkouts_converge_twoTabs : ∃ q,
    Pool.Run (holderKept (.titleGuest .movie "visitor" 10))
      (startCalls .default emptied world twoTabs) q ∧
      ∃ intent intent', returned q 0 = some intent ∧ returned q 1 = some intent' ∧
        intent'.intentId = intent.intentId := by
  have hplay : (Pool.play (holderKept (.titleGuest .movie "visitor" 10))
      (startCalls .default emptied world twoTabs)
      (runs 0 2 ++ runs 1 2 ++ runs 0 18 ++
        [.outside { world with hex := "beef", khqr := some ("qr-2", "md5-2", "Shop") }] ++
        runs 1 17)).any (fun p => (returned p 0).isSome && (returned p 1).isSome) = true := by
    decide +kernel
  obtain ⟨q, hq, hreturned⟩ := Pool.exists_run_of_play hplay
  simp only [Bool.and_eq_true, Option.isSome_iff_exists] at hreturned
  obtain ⟨⟨intent, hintent⟩, intent', hintent'⟩ := hreturned
  exact ⟨q, hq, intent, intent', hintent, hintent',
    (checkouts_converge .default emptied_legal world twoTabs hq rfl rfl hintent hintent').1⟩

end Shop

end MovieApi.Billing
