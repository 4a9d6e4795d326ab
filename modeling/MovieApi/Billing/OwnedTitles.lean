import MovieApi.Billing.Stages

/-!
# No QR for a title already owned

A checkout tests for a purchase before it locks its buyer and looks for a
pending intent after.  A settlement in between makes the purchase and takes the
pending intent away, so the call creates a new one.  Where no call creates an
intent for a title its buyer owns, a call that gets the lock once the title is
owned returns no pending intent.
-/

namespace MovieApi.Billing

open ReadCommitted ReadCommitted.Prog Sql

/-! ## From the buyer lock on -/

/-- The checkout of a title, after the tests for a purchase. -/
def titleOrder : Title → Uuid → Option Uuid → Option String → Prog Order
  | .movie => movieOrder
  | .series => seriesOrder

/-- An account's checkout from `SELECT … FOR UPDATE` of its row on. -/
def checkoutLocked (cfg : Settings) (title : Title) (titleId : Uuid) (user : Uuid)
    (guestId : Option String) : Prog PaymentIntent := do
  lock (.user user) .update
  -- the rest of a checkout is that of one without a buyer to lock
  checkout cfg none (PaymentIntent.pendingTitle title (some user) guestId titleId) true
    (titleOrder title titleId (some user) guestId)

theorem createOrReuseMovie_eq (cfg : Settings) (contentId user : Uuid) (guestId : Option String) :
    createOrReuseMovieBakongIntent cfg contentId (some user) guestId = (do
      if ← select fun d => d.purchased (some user) guestId contentId then
        .raise (conflict "Movie already purchased")
      else if ← select fun d => (d.user? user).isSome then
        checkoutLocked cfg .movie contentId user guestId
      else
        checkout cfg none (PaymentIntent.pendingTitle .movie (some user) guestId contentId) true
          (movieOrder contentId (some user) guestId)) := by
  simp only [createOrReuseMovieBakongIntent, checkout, lockBuyer, lockUser, checkoutLocked,
    bind_eq, bind_assoc]
  congr 1
  funext purchased
  split
  · rfl
  · congr 1
    funext found
    cases found <;> rfl

theorem createOrReuseSeries_eq (cfg : Settings) (seriesId user : Uuid) (guestId : Option String) :
    createOrReuseSeriesBakongIntent cfg seriesId (some user) guestId = (do
      if ← userHasActiveSubscription user then
        .raise (conflict "You already have an active subscription")
      else if ← select fun d => d.hasSeriesPurchase seriesId (some user) guestId then
        .raise (conflict "Series already unlocked")
      else if ← select fun d => (d.user? user).isSome then
        checkoutLocked cfg .series seriesId user guestId
      else
        checkout cfg none (PaymentIntent.pendingTitle .series (some user) guestId seriesId) true
          (seriesOrder seriesId (some user) guestId)) := by
  simp only [createOrReuseSeriesBakongIntent, subscribed, checkout, lockBuyer, lockUser,
    checkoutLocked, bind_eq, bind_assoc]
  congr 1
  funext active
  split
  · rfl
  · congr 1
    funext purchased
    split
    · rfl
    · congr 1
      funext found
      cases found <;> rfl

/-! ## A call whose buyer owns the title -/

/-- The account owns the title, as far as is committed. -/
def Owned (user : Uuid) (title : Title) (titleId : Uuid) (s : Store) : Prop :=
  s.db.owns (.user user) title titleId = true

theorem PaymentIntent.owner_of_pendingTitle {title : Title} {user titleId : Uuid}
    {guest : Option String} {row : PaymentIntent}
    (h : row.pendingTitle title (some user) guest titleId = true) :
    owner? row.userId row.guestId = some (.user user) ∧ row.ownable = some (title, titleId) := by
  simp only [pendingTitle, hasIdentity, Bool.and_eq_true, decide_eq_true_eq] at h
  obtain ⟨huser, -, hkind, htitle, -⟩ := h
  refine ⟨by simp [owner?, huser], ?_⟩
  cases title with
  | movie =>
      have hcontent : row.contentId = some titleId := htitle
      simp [ownable, show row.kind = .single from hkind, hcontent]
  | series =>
      have hseries : row.seriesId = some titleId := htitle
      simp [ownable, show row.kind = .series from hkind, hseries]

section

variable {t : Tid} {user titleId : Uuid} {title : Title} {guest : Option String}
  {intentIds : List String}

theorem owned_stable : Stable ownershipContract t (Owned user title titleId) :=
  ⟨fun hb hs => hb.rely.owned _ _ _ hs⟩

/-- A title once owned stays owned over any program. -/
theorem lasting_owned {α : Type} {p : Prog α} {P : Store → Prop} {Q : α → Store → Prop}
    {R : Err → Store → Prop} (h : Triple ownershipContract t P p Q R) :
    Triple ownershipContract t (fun s => P s ∧ Owned user title titleId s) p
      (fun a s => Q a s ∧ Owned user title titleId s) fun _ _ => True :=
  (h.lasting ownershipContract_sound (fun h => h) fun hr hs => hr.owned _ _ _ hs).conseq
    (fun _ => id) (fun _ _ => id) fun _ _ _ => trivial

theorem Owned.view {s : Store} (h : Owned user title titleId s) (hc : Calm ownershipContract s) :
    (s.view t).owns (.user user) title titleId = true :=
  (Kept.applyAll (hc.inv t) s.db).owned _ _ _ h

/-- The intent of an owned title is superseded. -/
theorem supersedeIfOwned_owned {pending : PaymentIntent}
    (h : pending.pendingTitle title (some user) guest titleId = true) :
    Triple ownershipContract t
      (fun s => Live t (Reached t 1 [pending.intentId]) s ∧ Owned user title titleId s)
      (supersedeIfOwned true pending)
      (fun superseded s => superseded = true ∧ Live t (Reached t 2 [pending.intentId]) s)
      fun _ _ => True := by
  obtain ⟨howner, hownable⟩ := PaymentIntent.owner_of_pendingTitle h
  simp only [supersedeIfOwned, if_true, markSucceededIfAlreadyPurchased, howner, hownable]
  refine .bind (.select (Q := fun owned s => owned = true ∧
    Live t (Reached t 1 [pending.intentId]) s) (reached_stable.and owned_stable)
      fun s hc hs _ => ⟨trivial, hs.2.view hc, hs.1⟩) fun owned => ?_
  refine .given (fun _ hs => hs.1) fun howned => .pre ?_ fun _ hs => hs.2
  subst howned
  refine .bind (reached_reads utcNow_reads) fun now => .bind (reached_resolve rfl) fun _ => ?_
  exact .ret fun _ hs => ⟨rfl, hs⟩

/-- What a pending intent of an owned title comes to. -/
theorem reuseOrRefreshPending_owned (cfg : Settings) {pending : PaymentIntent}
    (h : pending.pendingTitle title (some user) guest titleId = true) :
    Triple ownershipContract t
      (fun s => Live t (Reached t 1 [pending.intentId]) s ∧ Owned user title titleId s)
      (reuseOrRefreshPending cfg pending true) (fun intent _ => intent.status ≠ .pending)
      fun _ _ => True := by
  refine .bind (lasting_owned (reached_reads utcNow_reads)) fun now => ?_
  split
  · refine .bind (supersedeIfOwned_owned h) fun superseded => ?_
    refine .given (fun _ hs => hs.1) fun hsuperseded => .pre ?_ fun _ hs => hs.2
    subst hsuperseded
    exact commitAndRefresh_resolved
  refine .bind (lasting_owned (settleBakongIntentIfPaid_resolves cfg
    (PaymentIntent.pending_of_pendingTitle h))) fun settled => ?_
  split
  · next hpaid => exact commitAndRefresh_resolved.pre fun s hs => by simpa [hpaid] using hs.1
  next hpaid =>
    refine .pre (P := fun s => Live t (Reached t 1 [pending.intentId]) s ∧
      Owned user title titleId s) ?_ fun s hs => ⟨by simpa [hpaid] using hs.1, hs.2⟩
    refine .bind (supersedeIfOwned_owned h) fun superseded => ?_
    refine .given (fun _ hs => hs.1) fun hsuperseded => .pre ?_ fun _ hs => hs.2
    subst hsuperseded
    exact commitAndRefresh_resolved

/-- The locked rows qualify and are there. -/
theorem lockIntents_reached (qualifies : PaymentIntent → Bool) (snapshot : List String) :
    Triple ownershipContract t (Live t (Reached t 1 intentIds)) (lockIntents qualifies snapshot)
      (fun rows s => (∀ row ∈ rows, qualifies row = true) ∧
        Live t (Reached t 1 (intentIds ++ rows.map PaymentIntent.intentId)) s)
      fun _ _ => True := by
  induction snapshot generalizing intentIds with
  | nil => exact .ret fun s hs => ⟨by simp, by simpa using hs⟩
  | cons intentId snapshot ih =>
      refine .bind (reached_part (.perform trivial)) fun _ => ?_
      refine .bind (.select (Q := fun row? s => (∀ row ∈ row?, qualifies row = true) ∧
        Live t (Reached t 1 (intentIds ++ row?.toList.map PaymentIntent.intentId)) s)
          reached_stable fun s _ hs _ => ⟨trivial, ?_, hs.1, hs.2.1, ?_⟩) fun row? => ?_
      · intro row hrow
        exact (Option.filter_eq_some_iff.1 hrow).2
      · intro intentId' hmem
        rcases List.mem_append.1 hmem with hmem | hmem
        · exact hs.2.2 intentId' hmem
        · obtain ⟨row, hrow, rfl⟩ := List.mem_map.1 hmem
          rw [Option.mem_toList] at hrow
          have hread := (Option.filter_eq_some_iff.1 hrow).1
          have hkey : row.intentId = intentId := key_of_lookup hread
          have hne := stage_some_ne_zero row
          show 1 ≤ stage ((s.view t).intent? row.intentId)
          rw [hkey, hread]
          omega
      · refine .given (fun _ hs => hs.1) fun hrow => .pre ?_ fun _ hs => hs.2
        refine .bind ih fun rows => .ret fun s hs => ⟨fun row hmem => ?_, ?_⟩
        · rcases List.mem_append.1 hmem with hmem | hmem
          · exact hrow row (by simpa using hmem)
          · exact hs.1 row hmem
        · simpa using hs.2

/-- Within the regime, no call gets to insert an intent for an owned title. -/
theorem addIntent_owned {row : PaymentIntent} (huser : row.userId = some user)
    (hownable : row.ownable = some (title, titleId)) :
    Triple ownershipContract t (Owned user title titleId) (addIntent row) (fun _ _ => False)
      fun _ _ => True := by
  have hpart {p : Prog Unit} (hp : p.Every (Mild Write.keeps)) :
      Triple ownershipContract t (Owned user title titleId) p
        (fun _ => Owned user title titleId) fun _ _ => True :=
    (lasting_owned ((ownershipBookkeeping t).part hp)).conseq (fun s hs => ⟨.inr trivial, hs⟩)
      (fun _ _ hs => hs.2) fun _ _ => id
  refine .bind (hpart (enterUnique_mild _ _)) fun _ => .bind (hpart (enterUnique_mild _ _)) fun _ =>
    .bind (hpart (.forEach fun _ => enterUnique_mild _ _)) fun _ =>
    .bind (hpart (.forEach fun _ => enterUnique_mild _ _)) fun _ =>
    .bind (hpart (referenceUser_mild _)) fun _ => .bind (hpart (referenceTitle_mild _ _)) fun _ =>
    .bind (hpart (referenceTitle_mild _ _)) fun _ => ?_
  refine .performAllowed owned_stable fun s hc hallow hs => ?_
  have hallow : (!row.alreadyOwned (s.view t)) = true := hallow
  simp [PaymentIntent.alreadyOwned, huser, hownable, hs.view hc] at hallow

theorem commitNewIntentOrReuse_owned (cfg : Settings) {row : PaymentIntent}
    (huser : row.userId = some user) (hownable : row.ownable = some (title, titleId)) :
    Triple ownershipContract t (Owned user title titleId)
      (commitNewIntentOrReuse cfg row
        (PaymentIntent.pendingTitle title (some user) guest titleId) true)
      (fun intent _ => intent.status ≠ .pending) fun _ _ => True := by
  refine .bind (Q := fun committed s => committed = false ∧ Owned user title titleId s) ?_
    fun committed => ?_
  · refine .pre (.tryCatch_lasting (F := Owned user title titleId) (M := fun _ _ => True)
      ownershipContract_sound (fun h => h) (fun hr hs => hr.owned _ _ _ hs) ?_ fun e => ?_)
        fun s hs => ⟨hs, hs⟩
    · exact .bind (addIntent_owned huser hownable) fun _ => fun _ hs => hs.elim
    · split
      · exact .ret fun _ hs => ⟨rfl, hs⟩
      · exact .raise fun _ _ => trivial
  · refine .given (fun _ hs => hs.1) fun hcommitted => .pre ?_ fun _ hs => hs.2
    subst hcommitted
    refine .bind (Q := fun _ s => Live t (Reached t 1 []) s ∧ Owned user title titleId s)
      (.rollback owned_stable fun s _ hs => ⟨fun _ => trivial,
        ⟨by simp, by simp, by simp⟩, hs⟩) fun _ => ?_
    refine .bind (lasting_owned (reached_reads popTelegramAlerts_reads)) fun _ => ?_
    refine .bind (.select (Q := fun row? s => ∀ row, row? = some row →
      row.pendingTitle title (some user) guest titleId = true ∧
        Live t (Reached t 1 [row.intentId]) s ∧ Owned user title titleId s)
          (reached_stable.and owned_stable) fun s _ hs _ => ⟨trivial, fun row hrow => ?_⟩)
            fun row? => ?_
    · have hmem := List.mem_of_head? hrow
      refine ⟨mem_pendingLookup hmem, ⟨hs.1.1, hs.1.2.1, fun intentId hid => ?_⟩, hs.2⟩
      obtain rfl : intentId = row.intentId := by simpa using hid
      simp only [pendingLookup, oldestFirst, mem_orderBy] at hmem
      have hsome : ((s.view t).intent? row.intentId).isSome :=
        lookup_isSome_of_mem (List.mem_filter.1 hmem).1
      obtain ⟨row', hrow'⟩ := Option.isSome_iff_exists.1 hsome
      have hne := stage_some_ne_zero row'
      show 1 ≤ stage ((s.view t).intent? row.intentId)
      rw [hrow']
      omega
    · cases row? with
      | none => exact .raise fun _ _ => trivial
      | some existing =>
          refine .pre (P := fun s => existing.pendingTitle title (some user) guest titleId = true ∧
            Live t (Reached t 1 [existing.intentId]) s ∧ Owned user title titleId s) ?_
              fun s hs => hs existing rfl
          exact .given (fun _ hs => hs.1) fun h =>
            (reuseOrRefreshPending_owned cfg h).pre fun _ hs => hs.2

/-- A new intent is for the title that was ordered. -/
theorem titleOrder_owned :
    Triple ownershipContract t (Owned user title titleId)
      (titleOrder title titleId (some user) guest)
      (fun order s => (order.userId = some user ∧ order.kind = title.kind ∧
        order.contentId = (if title = .movie then some titleId else none) ∧
        order.seriesId = (if title = .series then some titleId else none)) ∧
          Owned user title titleId s) fun _ _ => True := by
  cases title with
  | series =>
      refine .bind (.ret fun s hs => hs) fun amount => .ret fun s hs => ⟨?_, hs⟩
      simp [Title.kind]
  | movie =>
      refine .bind (.select (Q := fun row? s => (∀ row, row? = some row → row.id = titleId) ∧
        Owned user .movie titleId s) owned_stable fun s _ hs _ =>
          ⟨trivial, fun row hrow => ?_, hs⟩) fun row? => ?_
      · have hfound : lookup Content.id titleId (s.view t).contents = some row := hrow
        exact key_of_lookup hfound
      split
      · exact .raise fun _ _ => trivial
      · next movie hmovie =>
          refine .given (fun _ hs => hs.1) fun hid => .pre ?_ fun _ hs => hs.2
          have hid : movie.id = titleId := hid movie (Option.filter_eq_some_iff.1 hmovie).1
          refine .bind (Q := fun _ => Owned user .movie titleId) ?_ fun amount =>
            .ret fun s hs => ⟨by simp [Title.kind, hid], hs⟩
          unfold validatePaymentAmount
          split
          · split
            · exact .raise fun _ _ => trivial
            · exact .ret fun _ hs => hs
          · exact .raise fun _ _ => trivial

/-- From the buyer lock on, a call whose buyer owns the title returns no pending
intent. -/
theorem checkoutLocked_owned (cfg : Settings) :
    Triple ownershipContract t (Owned user title titleId)
      (checkoutLocked cfg title titleId user guest) (fun intent _ => intent.status ≠ .pending)
      fun _ _ => True := by
  refine .bind (.lock (Q := fun _ s => Live t (Reached t 1 []) s ∧ Owned user title titleId s)
    owned_stable fun s hc hs hd => ⟨trivial, fun _ => ⟨⟨hd, hc.inv t, by simp⟩, hs⟩⟩) fun _ => ?_
  show Triple _ _ _ (checkout cfg none _ true _) _ _
  refine .bind (Q := fun _ s => Live t (Reached t 1 []) s ∧ Owned user title titleId s)
    (.ret fun _ hs => hs) fun _ => ?_
  refine .bind (lasting_owned (reached_part (.perform trivial))) fun snapshot => ?_
  refine .bind (lasting_owned (lockIntents_reached _ snapshot)) fun rows => ?_
  cases rows with
  | cons pending rows =>
      refine .given (fun _ hs => hs.1.1) fun hqualifies => ?_
      refine .pre (reuseOrRefreshPending_owned cfg (hqualifies pending (by simp)))
        fun s hs => ⟨⟨hs.1.2.1, hs.1.2.2.1, fun intentId hid => ?_⟩, hs.2⟩
      obtain rfl : intentId = pending.intentId := by simpa using hid
      exact hs.1.2.2.2 _ (by simp)
  | nil =>
      refine .bind (.pre titleOrder_owned fun _ hs => hs.2) fun order => ?_
      refine .given (fun _ hs => hs.1) fun horder => .pre ?_ fun _ hs => hs.2
      refine .bind (Q := fun row s => (row.userId = order.userId ∧ row.kind = order.kind ∧
        row.contentId = order.contentId ∧ row.seriesId = order.seriesId) ∧
          Owned user title titleId s) ?_ fun row => ?_
      · have hpart {α : Type} {p : Prog α} (hp : p.Every Reads) :
            Triple ownershipContract t (Owned user title titleId) p
              (fun _ => Owned user title titleId) fun _ _ => True :=
          (lasting_owned ((ownershipBookkeeping t).partReads hp)).conseq
            (fun s hs => ⟨.inr trivial, hs⟩) (fun _ _ hs => hs.2) fun _ _ => id
        exact .bind (hpart uuidHex_reads) fun _ => .bind (hpart generateKhqr_reads) fun _ =>
          .bind (hpart utcNow_reads) fun _ => .bind (hpart uuidHex_reads) fun _ =>
            .ret fun _ hs => ⟨⟨rfl, rfl, rfl, rfl⟩, hs⟩
      · refine .given (fun _ hs => hs.1) fun hrow => .pre ?_ fun _ hs => hs.2
        obtain ⟨huser, hkind, hcontent, hseries⟩ := hrow
        refine commitNewIntentOrReuse_owned cfg (huser.trans horder.1) ?_
        cases title <;>
          simp [PaymentIntent.ownable, hkind, hcontent, hseries, horder.2.1, horder.2.2, Title.kind]

end

/-! ## Runs -/

/-- However checkouts interleave with settlements of whatever intents: where no
call gets to create an intent for a title its buyer owns, a call that takes the
buyer lock once its title is owned returns no pending intent. -/
theorem ownedTitle_not_payable (cfg : Settings) (d : Db) (world : World) {calls : Tid → Call}
    (hcalls : ∀ t, (calls t).isCheckout = true) {p q : Pool}
    (hp : Pool.Run unownedOnly (startCalls cfg d world calls) p) {t : Tid} {title : Title}
    {titleId user : Uuid} {guest : Option String}
    (hlock : p.progs t = closing (answering (checkoutLocked cfg title titleId user guest)))
    (howned : p.store.db.owns (.user user) title titleId = true) (hq : Pool.Run unownedOnly p q)
    {intent : PaymentIntent} (hreturned : returned q t = some intent) :
    intent.status ≠ .pending := by
  have hstart : Pool.Keeps ownershipContract (fun _ _ => True)
      (fun t _ s => s.doomed t = true ∨ True) (startCalls cfg d world calls) := by
    refine Pool.Keeps.start (by simp [ownershipContract, Store.idle]) fun u => ?_
    refine ((ownershipBookkeeping u).call cfg (fun w hw => ?_) (hcalls u)).conseq
      (fun _ _ => .inr trivial) (fun _ _ _ => trivial) fun _ _ => id
    cases w with
    | insertIntent row => exact hw
    | replaceQr | insertApproval | putWebhookEvent => trivial
    | _ => exact hw.elim
  have hstable (u : Tid) (_ : Err) :
      Stable ownershipContract u fun s => s.doomed u = true ∨ True :=
    .or (.doomed true) (.pure True)
  have hkeeps := (hstart.run ownershipContract_sound (fun _ => .pure True) hstable hp).1
  -- from here on the call is known to return no pending intent
  have hlocked : Pool.Keeps ownershipContract
      (fun u s => u = t → Answered t (fun intent => intent.status ≠ .pending) s)
      (fun u _ s => s.doomed u = true ∨ True) p := by
    refine ⟨hkeeps.calm, fun u => ?_⟩
    by_cases hu : u = t
    · subst hu
      rw [hlock]
      exact ((ownershipBookkeeping u).closeAnswering (checkoutLocked_owned cfg) p.store
        howned).mono (fun _ _ hs _ => hs) fun _ _ => id
    · exact (hkeeps.meets u).mono (fun _ _ _ h => absurd h hu) fun _ _ => id
  have hanswered (u : Tid) : Stable ownershipContract u
      fun s => u = t → Answered t (fun intent => intent.status ≠ .pending) s := by
    by_cases hu : u = t
    · subst hu
      exact ⟨fun hb hs h => answered_stable.keep hb (hs h)⟩
    · exact ⟨fun _ _ h => absurd h hu⟩
  have hend := ((hlocked.run ownershipContract_sound hanswered hstable hq).1).meets t
  exact returned_of_meets (hend.mono (fun _ _ hs => hs rfl) fun _ _ => id) hreturned

/-- A call for the movie by account 1, beside a manual fulfilment. -/
def Shop.checkoutAndFulfill (intentId : String) : Tid → Call
  | 0 => .movie 10 (some 1) none
  | _ => .other (.adminFulfill intentId 2)

/-- The shop with an order for the movie that is not by KHQR, beside the one
that is. -/
def Shop.twoOrders : Db :=
  { Shop.db with
    intents := [Shop.intent,
      { Shop.intent with
        intentId := "bry-1"
        orderId := "movie-2"
        method := .baray
        bakongMd5 := none }] }

/-- Two stages of a run: call 0 has come to `prog`, and it has returned. -/
theorem Shop.exists_returned (reg : Regime) (d : Db) (calls : Tid → Call)
    (evs evs' : List (Event World)) (prog : Prog Unit) (f : Pool → Bool) (g : PaymentIntent → Bool)
    (hprog : (Pool.play reg (startCalls .default d Shop.world calls) evs).map
      (fun p : Pool => p.progs 0) = some prog)
    (h : (Pool.play reg (startCalls .default d Shop.world calls) evs).any (fun p : Pool =>
      f p && (Pool.play reg p evs').any fun q => (returned q 0).any g) = true) :
    ∃ p q intent, Pool.Run reg (startCalls .default d Shop.world calls) p ∧ p.progs 0 = prog ∧
      f p = true ∧ Pool.Run reg p q ∧ returned q 0 = some intent ∧ g intent = true := by
  cases hplay : Pool.play reg (startCalls .default d Shop.world calls) evs with
  | none => simp [hplay] at h
  | some p =>
      simp only [hplay, Option.map_some, Option.some.injEq] at hprog
      simp only [hplay, Option.any_some, Bool.and_eq_true] at h
      obtain ⟨q, hq, hreturned⟩ := Pool.exists_run_of_play h.2
      obtain ⟨intent, hintent, hg⟩ := (Option.any_eq_true _ _).1 hreturned
      exact ⟨p, q, intent, Pool.run_of_play hplay, hprog, h.1, hq, hintent, hg⟩

theorem ownedTitle_superseded : ∃ q intent,
    Pool.Run unownedOnly
      (startCalls .default Shop.twoOrders Shop.world (Shop.checkoutAndFulfill "bry-1")) q ∧
    returned q 0 = some intent ∧ intent.status = .superseded ∧ intent.status ≠ .pending := by
  obtain ⟨p, q, intent, hp, hlock, howned, hq, hreturned, hstatus⟩ := Shop.exists_returned
    unownedOnly Shop.twoOrders (Shop.checkoutAndFulfill "bry-1")
    (Shop.runs 0 2 ++ Shop.runs 1 27) (Shop.runs 0 14)
    (closing (answering (checkoutLocked .default .movie 10 1 none)))
    (fun p : Pool => p.store.db.owns (.user 1) .movie 10)
    (fun intent => decide (intent.status = .superseded)) rfl (by decide)
  have hcalls : ∀ t, (Shop.checkoutAndFulfill "bry-1" t).isCheckout = true := by
    intro t
    unfold Shop.checkoutAndFulfill
    split <;> rfl
  exact ⟨q, intent, hp.trans hq, hreturned, of_decide_eq_true hstatus,
    ownedTitle_not_payable .default Shop.twoOrders Shop.world hcalls hp hlock howned hq hreturned⟩

/-- The fulfilment commits between a call's test for a purchase and its buyer
lock: the call returns a new pending intent for the movie the account has. -/
theorem ownedTitle_payable : ∃ p q intent,
    Pool.Run .any (startCalls .default Shop.db Shop.world (Shop.checkoutAndFulfill "bkg-1")) p ∧
    p.progs 0 = closing (answering (checkoutLocked .default .movie 10 1 none)) ∧
    p.store.db.owns (.user 1) .movie 10 = true ∧ Pool.Run .any p q ∧
    returned q 0 = some intent ∧ intent.status = .pending := by
  obtain ⟨p, q, intent, hp, hlock, howned, hq, hreturned, hstatus⟩ := Shop.exists_returned
    .any Shop.db (Shop.checkoutAndFulfill "bkg-1")
    (Shop.runs 0 2 ++ Shop.runs 1 27) (Shop.runs 0 22)
    (closing (answering (checkoutLocked .default .movie 10 1 none)))
    (fun p : Pool => p.store.db.owns (.user 1) .movie 10)
    (fun intent => decide (intent.status = .pending)) rfl (by decide)
  exact ⟨p, q, intent, hp, hlock, howned, hq, hreturned, of_decide_eq_true hstatus⟩

end MovieApi.Billing
