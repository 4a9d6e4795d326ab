import MovieApi.Accounts.Concurrent.TelegramWidget

/-!
# How often a payload signs in

A nonce is used up by one sign-in.  Nothing ties a payload to a nonce, so a payload
that is presented with one nonce only opens one session, and with two it opens two.
-/

namespace MovieApi.Accounts.Concurrent

open ReadCommitted Sql TelegramBot

/-! ## Changes -/

namespace WidgetChange

variable {d : Db} {change : WidgetChange}

theorem onTelegramNonce_of_ofAccount {w : Write} (h : w.ofAccount) (nonceHash : String)
    (row? : Option TelegramAuthNonce) : w.onTelegramNonce nonceHash row? = row? := by
  cases w with
  | insertUser | setFullName => rfl
  | _ => exact h.elim

/-- What a write to the account leaves alone. -/
theorem ofAccount_apply {w : Write} (h : w.ofAccount) (d : Db) :
    (∀ nonceHash, (w.apply d).telegramAuthNonce? nonceHash = d.telegramAuthNonce? nonceHash) ∧
      (w.apply d).sessions = d.sessions := by
  refine ⟨fun nonceHash => ?_, ?_⟩
  · rw [Write.telegramAuthNonce?_apply, onTelegramNonce_of_ofAccount h]
  · cases w with
    | insertUser | setFullName => rfl
    | _ => exact h.elim

theorem applyAll_account {account : List Write} (h : ∀ w ∈ account, w.ofAccount) (d : Db) :
    (∀ nonceHash, (applyAll account d).telegramAuthNonce? nonceHash =
      d.telegramAuthNonce? nonceHash) ∧ (applyAll account d).sessions = d.sessions :=
  applyAll_induction (P := fun d' : Db => (∀ nonceHash, d'.telegramAuthNonce? nonceHash =
    d.telegramAuthNonce? nonceHash) ∧ d'.sessions = d.sessions) ⟨fun _ => rfl, rfl⟩
    fun w hw d' hd' => by
      obtain ⟨hnonce, hsessions⟩ := ofAccount_apply (h w hw) d'
      exact ⟨fun nonceHash => (hnonce nonceHash).trans (hd'.1 nonceHash), hsessions.trans hd'.2⟩

theorem sessions_apply (h : change.Enabled d) :
    (applyAll change.writes d).sessions = d.sessions ++ change.session.toList := by
  cases change with
  | started nonce => simp [writes, session, Write.apply]
  | signedIn nonce account row =>
      have haccount := (applyAll_account h.2.2 ((Write.useTelegramNonce nonce.nonceHash).apply d)).2
      simp only [writes, List.cons_append, applyAll_cons, applyAll_append, applyAll_nil, apply_eq]
      simp only [Write.apply] at haccount ⊢
      rw [haccount]
      rfl

/-- The status of a nonce after a change. -/
theorem status_apply (h : change.Enabled d) (nonceHash : String) :
    ((applyAll change.writes d).telegramAuthNonce? nonceHash).map TelegramAuthNonce.status =
      if nonceHash = change.nonceHash then
        some (if change.session.isSome then .used else .pending)
      else (d.telegramAuthNonce? nonceHash).map TelegramAuthNonce.status := by
  cases change with
  | started nonce =>
      obtain ⟨hnone, hpending⟩ := h
      simp only [writes, applyAll_cons, applyAll_nil, apply_eq, Write.telegramAuthNonce?_apply,
        Write.onTelegramNonce]
      by_cases hhash : nonceHash = nonce.nonceHash
      · simp [hhash, hnone, hpending, WidgetChange.nonceHash, session]
      · simp [hhash, Ne.symm hhash, WidgetChange.nonceHash]
  | signedIn nonce account row =>
      obtain ⟨hsome, -, haccount⟩ := h
      have hkeep := (applyAll_account haccount
        ((Write.useTelegramNonce nonce.nonceHash).apply d)).1 nonceHash
      have hlast (d' : Db) : ((Write.insertSession row).apply d').telegramAuthNonce? nonceHash =
          d'.telegramAuthNonce? nonceHash := Write.telegramAuthNonce?_apply _ _ _
      simp only [writes, List.cons_append, applyAll_cons, applyAll_append, applyAll_nil, apply_eq]
      rw [hlast, hkeep, Write.telegramAuthNonce?_apply, Write.onTelegramNonce]
      by_cases hhash : nonceHash = nonce.nonceHash
      · simp [hhash, hsome, WidgetChange.nonceHash, session]
      · simp [hhash, WidgetChange.nonceHash]

end WidgetChange

/-! ## A nonce is used up once -/

/-- The sign-ins that use up a nonce. -/
def uses (nonceHash : String) (x : Tid × WidgetChange) : Bool :=
  x.2.session.isSome && decide (x.2.nonceHash = nonceHash)

/-- After these changes the nonce was used once at most, and then it is marked. -/
structure NonceLife (nonceHash : String) (log : List (Tid × WidgetChange)) (d : Db) : Prop where
  once : (log.filter (uses nonceHash)).length ≤ 1
  marked : log.filter (uses nonceHash) ≠ [] →
    (d.telegramAuthNonce? nonceHash).map TelegramAuthNonce.status = some .used

section

variable {service : WidgetService} {requests : Tid → WidgetRequest} {d d' : Db}
  {xs : List (Tid × Commit Write Info)} {log : List (Tid × WidgetChange)} {nonceHash : String}

theorem NonceLife.step (h : NonceLife nonceHash log d) {t : Tid} {change : WidgetChange}
    (henabled : change.Enabled d) :
    NonceLife nonceHash (log ++ [(t, change)]) (applyAll change.writes d) := by
  have hstatus := WidgetChange.status_apply henabled nonceHash
  by_cases hhash : nonceHash = change.nonceHash
  · -- the nonce is there and pending, so it was not used before
    have hunused : log.filter (uses nonceHash) = [] := by
      by_contra hused
      have hmarked := h.marked hused
      rw [hhash] at hmarked
      cases change with
      | started nonce =>
          rw [WidgetChange.nonceHash, henabled.1] at hmarked
          cases hmarked
      | signedIn nonce account row =>
          rw [WidgetChange.nonceHash, henabled.1, Option.map_some, henabled.2.1] at hmarked
          cases hmarked
    rw [if_pos hhash] at hstatus
    cases hsession : change.session with
    | none =>
        have hno : uses nonceHash (t, change) = false := by simp [uses, hsession]
        exact ⟨by simp [hunused, hno], fun hused => absurd (by simp [hunused, hno]) hused⟩
    | some row =>
        rw [hsession] at hstatus
        exact ⟨by simpa [hunused] using List.length_filter_le _ [(t, change)], fun _ => hstatus⟩
  · have hno : uses nonceHash (t, change) = false := by simp [uses, Ne.symm hhash]
    rw [if_neg hhash] at hstatus
    have hfilter : (log ++ [(t, change)]).filter (uses nonceHash) = log.filter (uses nonceHash) := by
      simp [List.filter_append, hno]
    exact ⟨by rw [hfilter]; exact h.once, fun hused => by
      rw [hstatus]
      exact h.marked (by rwa [hfilter] at hused)⟩

theorem nonceLife_of_history (h : History (widgetChanges service requests) d xs log d') :
    NonceLife nonceHash log d' := by
  induction h with
  | nil => exact ⟨by simp, fun hused => absurd rfl hused⟩
  | snoc _ henabled _ _ _ ih => exact ih.step henabled

theorem sessions_of_widgetHistory (h : History (widgetChanges service requests) d xs log d') :
    d'.sessions = d.sessions ++ log.filterMap fun x => x.2.session := by
  induction h with
  | nil => simp
  | @snoc xs log d' t x change _ henabled _ _ _ ih =>
      have hsessions : (applyAll change.writes d').sessions =
          d'.sessions ++ change.session.toList := WidgetChange.sessions_apply henabled
      rw [show (widgetChanges service requests).writes change = change.writes from rfl, hsessions,
        ih, List.filterMap_append, List.append_assoc]
      cases hsession : change.session <;> simp [hsession]

end

/-! ## One nonce for a payload -/

/-- The request presents the payload, and the bot has signed it. -/
def WidgetRequest.presents (service : WidgetService) (payload : SignedPayload) :
    WidgetRequest → Bool
  | .authenticate data _ => decide (data.signed = payload) && service.verifies data
  | .start _ => false

/-- No signed payload is presented with two nonces. -/
def OneNonce (service : WidgetService) (requests : Tid → WidgetRequest) : Prop :=
  ∀ t u data data' guestFound guestFound', requests t = .authenticate data guestFound →
    requests u = .authenticate data' guestFound' → service.verifies data = true →
    service.verifies data' = true → data.signed = data'.signed → data.nonce = data'.nonce

/-- The sessions a payload has opened. -/
def sessionsFor (service : WidgetService) (requests : Tid → WidgetRequest)
    (payload : SignedPayload) (log : List (Tid × WidgetChange)) : List Session :=
  log.filterMap fun x => if (requests x.1).presents service payload then x.2.session else none

section

variable {service : WidgetService} {requests : Tid → WidgetRequest} {d d' : Db}
  {xs : List (Tid × Commit Write Info)} {log : List (Tid × WidgetChange)}

/-- The nonce that a session for a payload has used up. -/
theorem nonce_of_session (h : History (widgetChanges service requests) d xs log d') {t : Tid}
    {change : WidgetChange} {payload : SignedPayload} (hmem : (t, change) ∈ log)
    (hpresents : (requests t).presents service payload = true)
    (hsession : change.session.isSome = true) :
    ∃ data guestFound, requests t = .authenticate data guestFound ∧ data.signed = payload ∧
      service.verifies data = true ∧
      change.nonceHash = service.hashing.hashResetToken data.nonce := by
  have hby : WidgetChange.By service (requests t) change := (h.of_change hmem).1
  cases hrequest : requests t with
  | start rawNonce =>
      rw [hrequest] at hpresents
      cases hpresents
  | authenticate data guestFound =>
      rw [hrequest] at hby hpresents
      simp only [WidgetRequest.presents, Bool.and_eq_true, decide_eq_true_eq] at hpresents
      cases hby with
      | authenticate hverifies hhash =>
          exact ⟨data, guestFound, rfl, hpresents.1, hverifies, hhash⟩

theorem sessionsFor_le_one (hone : OneNonce service requests)
    (h : History (widgetChanges service requests) d xs log d') (payload : SignedPayload) :
    (sessionsFor service requests payload log).length ≤ 1 := by
  unfold sessionsFor
  rw [List.length_filterMap_eq_countP]
  by_cases hany : ∃ t change, (t, change) ∈ log ∧
      (requests t).presents service payload = true ∧ change.session.isSome = true
  · obtain ⟨t, change, hmem, hpresents, hsession⟩ := hany
    obtain ⟨data, guestFound, hrequest, hsigned, hverifies, -⟩ :=
      nonce_of_session h hmem hpresents hsession
    -- every session of the payload has used up the nonce of this one
    have hall : ∀ x ∈ log, (if (requests x.1).presents service payload then x.2.session
        else none).isSome = true →
          uses (service.hashing.hashResetToken data.nonce) x = true := by
      intro x hx hsome
      obtain ⟨u, change'⟩ := x
      split at hsome
      · next hpresents' =>
          obtain ⟨data', guestFound', hrequest', hsigned', hverifies', hhash'⟩ :=
            nonce_of_session h hx hpresents' hsome
          have hnonce : data'.nonce = data.nonce :=
            hone u t data' data guestFound' guestFound hrequest' hrequest hverifies' hverifies
              (hsigned'.trans hsigned.symm)
          simp [uses, hsome, hhash', hnonce]
      · cases hsome
    calc log.countP _ ≤ log.countP (uses (service.hashing.hashResetToken data.nonce)) :=
          List.countP_mono_left hall
      _ = (log.filter (uses (service.hashing.hashResetToken data.nonce))).length :=
          List.countP_eq_length_filter
      _ ≤ 1 := (nonceLife_of_history h).once
  · have hzero : log.countP (fun x => (if (requests x.1).presents service payload then x.2.session
        else none).isSome) = 0 := by
      rw [List.countP_eq_zero]
      intro x hx hsome
      split at hsome
      · next hpresents => exact hany ⟨x.1, x.2, hx, hpresents, hsome⟩
      · cases hsome
    rw [hzero]
    exact Nat.zero_le 1

end

/-! ## Every commit is a change -/

def widgetContract (service : WidgetService) (requests : Tid → WidgetRequest) : Contract :=
  (widgetChanges service requests).contract

/-- The nonce's row is locked, and as it was loaded. -/
def NonceLocked (nonce : TelegramAuthNonce) (t : Tid) (s : Store) : Prop :=
  s.Holds t (.telegramNonce nonce.nonceHash) .update ∧
    s.db.telegramAuthNonce? nonce.nonceHash = some nonce

/-- What is known of a nonce that was found under its lock. -/
def KeptNonce (nonceHash : String) (found : Option TelegramAuthNonce) (t : Tid) (s : Store) :
    Prop :=
  ∀ nonce, found = some nonce → nonce.nonceHash = nonceHash ∧ NonceLocked nonce t s

/-- The nonce is used up, and only the account was written since. -/
structure Consumed (nonce : TelegramAuthNonce) (account : List Write) (t : Tid) (s : Store) :
    Prop where
  writes : s.writes t = .useTelegramNonce nonce.nonceHash :: account
  account : ∀ w ∈ account, w.ofAccount
  locked : NonceLocked nonce t s

section

variable {service : WidgetService} {requests : Tid → WidgetRequest} {t : Tid} {C : Contract}
  {N : Write → Prop}

theorem nonceLocked_carried (nonce : TelegramAuthNonce) : Carried C t N (NonceLocked nonce t) :=
  .locked (φ := fun d : Db => d.telegramAuthNonce? nonce.nonceHash = some nonce)
    fun _ _ hagree hrow => (hagree (by decide)).symm.trans hrow

theorem freshNonce_carried (nonceHash : String) :
    Carried C t N fun s => s.Holds t (.telegramNonce nonceHash) .update ∧
      s.db.telegramAuthNonce? nonceHash = none :=
  .locked (φ := fun d : Db => d.telegramAuthNonce? nonceHash = none)
    fun _ _ hagree hrow => (hagree (by decide)).symm.trans hrow

theorem keptNonce_carried {nonceHash : String} {found : Option TelegramAuthNonce} :
    Carried C t N (KeptNonce nonceHash found t) where
  stable := ⟨fun hb hs nonce hrow => ⟨(hs nonce hrow).1,
    (nonceLocked_carried (N := N) nonce).stable.keep hb (hs nonce hrow).2⟩⟩
  quiet hq hworld hinfo hs nonce hrow := ⟨(hs nonce hrow).1,
    (nonceLocked_carried (C := C) (N := N) nonce).quiet hq hworld hinfo (hs nonce hrow).2⟩
  write w hw s hc hs hd nonce hrow := ⟨(hs nonce hrow).1,
    (nonceLocked_carried nonce).write w hw s hc (hs nonce hrow).2 hd⟩

theorem usedUp_carried (nonce : TelegramAuthNonce) (account : List Write) :
    Carried C t (fun _ => False) (Consumed nonce account t) where
  stable := ⟨fun hb hs => ⟨hb.writes.trans hs.writes, hs.account,
    (nonceLocked_carried (N := fun _ => False) nonce).stable.keep hb hs.locked⟩⟩
  quiet hq hworld hinfo hs := ⟨by rw [hq.writes, hs.writes], hs.account,
    (nonceLocked_carried (C := C) (N := fun _ => False) nonce).quiet hq hworld hinfo hs.locked⟩
  write _ hw := hw.elim

/-- Writes to the account come after the nonce is used up. -/
theorem consumed_carried (nonce : TelegramAuthNonce) :
    Carried C t Write.ofAccount fun s => ∃ account, Consumed nonce account t s where
  stable := ⟨fun hb hs => by
    obtain ⟨account, hs⟩ := hs
    exact ⟨account, (usedUp_carried nonce account).stable.keep hb hs⟩⟩
  quiet hq hworld hinfo hs := by
    obtain ⟨account, hs⟩ := hs
    exact ⟨account, (usedUp_carried (C := C) nonce account).quiet hq hworld hinfo hs⟩
  write w hw s hc hs hd := by
    obtain ⟨account, hs⟩ := hs
    refine ⟨account ++ [w], ?_, fun w' hw' => ?_,
      (nonceLocked_carried nonce).write w hw s hc hs.locked hd⟩
    · simp [Store.wrote, hs.writes]
    · rcases List.mem_append.1 hw' with hold | hnew
      · exact hs.account w' hold
      · exact List.mem_singleton.1 hnew ▸ hw

theorem commit_widget_change {P : Store → Prop} (hP : Stable (widgetContract service requests) t P)
    (h : ∀ s, P s → ∃ change : WidgetChange, s.writes t = change.writes ∧ change.Enabled s.db ∧
      WidgetChange.By service (requests t) change) :
    Triple (widgetContract service requests) t P Prog.commit (fun _ _ => True)
      fun _ _ => True :=
  Changes.commit hP fun s hs => by
    obtain ⟨change, hwrites, henabled, hby⟩ := h s hs
    exact ⟨change, hwrites, henabled, hby, trivial⟩

/-! ### Nonces -/

theorem startTelegramAuth_part {rawNonce : String} (hrequest : requests t = .start rawNonce) :
    Triple (widgetContract service requests) t (fun s => s.writes t = [])
      (startTelegramAuth service.hashing service.telegram rawNonce) (fun _ _ => True)
      fun _ _ => True := by
  have hobl : (widgetContract service requests).Easy fun _ => True := Changes.contract_easy
  have hbare : Carried (widgetContract service requests) t (fun _ => False)
      fun s => s.writes t = [] := .writes []
  unfold startTelegramAuth
  split
  · exact .raise fun _ _ => trivial
  refine .bind (inside hobl hbare (.perform trivial)) fun now => ?_
  refine .bind (Q := fun entered s => entered = true → s.writes t = [] ∧
      s.Holds t (.telegramNonce (service.hashing.hashResetToken rawNonce)) .update ∧
        s.db.telegramAuthNonce? (service.hashing.hashResetToken rawNonce) = none)
    (.enter hbare.stable fun s _ hs _ => ⟨trivial, fun _ _ => by simp, fun _ hfree _ => ?_⟩)
    fun entered => ?_
  · refine ⟨hbare.quiet (.acquire t s _) rfl rfl hs, by simp, ?_⟩
    rw [view_of_writes hs, applyAll_nil] at hfree
    simpa using hfree
  split
  · next hentered =>
      let nonce : TelegramAuthNonce :=
        { nonceHash := service.hashing.hashResetToken rawNonce, status := .pending,
          expiresAt := now + minutes service.telegram.nonceExpireMinutes }
      have hfresh {N : Write → Prop} : Carried (widgetContract service requests) t N fun s =>
          s.Holds t (.telegramNonce nonce.nonceHash) .update ∧
            s.db.telegramAuthNonce? nonce.nonceHash = none := freshNonce_carried nonce.nonceHash
      refine .pre (P := fun s => s.writes t = [] ∧
          s.Holds t (.telegramNonce nonce.nonceHash) .update ∧
            s.db.telegramAuthNonce? nonce.nonceHash = none) ?_ fun s hs => hs hentered
      refine .bind (.write (Q := fun _ s => s.writes t = (WidgetChange.started nonce).writes ∧
          s.Holds t (.telegramNonce nonce.nonceHash) .update ∧
            s.db.telegramAuthNonce? nonce.nonceHash = none)
        (hbare.and hfresh).stable fun s hc hs hd => ⟨trivial, fun _ => ⟨?_, ?_⟩⟩) fun _ => ?_
      · simp [hs.1, WidgetChange.writes, nonce]
      · exact hfresh.write (N := fun _ => True) _ trivial s hc hs.2 hd
      · refine commit_widget_change (Carried.and (.writes _) hfresh).stable fun s hs =>
          ⟨.started nonce, hs.1, ⟨hs.2.2, rfl⟩, ?_⟩
        rw [hrequest]
        exact .start rfl
  · exact .pre (.reject (.pure True) fun _ _ _ _ => trivial) fun _ _ => trivial

theorem lockTelegramNonce_kept (nonceHash : String) :
    Triple (widgetContract service requests) t (fun s => s.writes t = [])
      (lockTelegramNonce nonceHash)
      (fun found s => s.writes t = [] ∧ KeptNonce nonceHash found t s) fun _ _ => True := by
  have hobl : (widgetContract service requests).Easy fun _ => True := Changes.contract_easy
  have hbare : Carried (widgetContract service requests) t (fun _ => False)
      fun s => s.writes t = [] := .writes []
  refine .bind (inside hobl hbare (.perform trivial)) fun there => ?_
  split
  · refine .bind (.lock (Q := fun _ s => s.writes t = [] ∧
        s.Holds t (.telegramNonce nonceHash) .update) hbare.stable
      fun s _ hs _ => ⟨trivial, fun _ => ⟨hbare.quiet (.acquire t s _) rfl rfl hs, by simp⟩⟩)
      fun _ => ?_
    refine .select (hbare.and (.holds _ _)).stable fun s _ hs _ =>
      ⟨trivial, hs.1, fun nonce hrow => ?_⟩
    have hkey : nonce.nonceHash = nonceHash :=
      key_of_lookup (show Sql.lookup TelegramAuthNonce.nonceHash _ _ = some nonce from hrow)
    rw [view_of_writes hs.1, applyAll_nil] at hrow
    exact ⟨hkey, hkey ▸ hs.2, hkey ▸ hrow⟩
  · exact .ret fun s hs => ⟨hs, fun nonce hrow => by cases hrow⟩

theorem consumeTelegramNonce_consumed (rawNonce : String) :
    Triple (widgetContract service requests) t (fun s => s.writes t = [])
      (consumeTelegramNonce service.hashing rawNonce)
      (fun _ s => ∃ nonce : TelegramAuthNonce,
        (nonce.nonceHash = service.hashing.hashResetToken rawNonce ∧ nonce.status = .pending) ∧
          ∃ account, Consumed nonce account t s) fun _ _ => True := by
  have hobl : (widgetContract service requests).Easy fun _ => True := Changes.contract_easy
  refine .bind (lockTelegramNonce_kept _) fun found => ?_
  have hkept : Carried (widgetContract service requests) t (fun _ => False) fun s =>
      s.writes t = [] ∧ KeptNonce (service.hashing.hashResetToken rawNonce) found t s :=
    .and (.writes []) keptNonce_carried
  refine .bind (inside hobl hkept (.perform trivial)) fun now => ?_
  cases hrow : Option.filter (fun nonce : TelegramAuthNonce =>
      decide (nonce.status = .pending ∧ now ≤ nonce.expiresAt)) found with
  | none => exact .raise fun _ _ => trivial
  | some nonce =>
      obtain ⟨hsome, husable⟩ := Option.filter_eq_some_iff.1 hrow
      have husable := of_decide_eq_true husable
      refine .write hkept.stable fun s hc hs hd => ⟨trivial, fun _ => ?_⟩
      obtain ⟨hhash, hlocked⟩ := hs.2 nonce hsome
      refine ⟨nonce, ⟨hhash, husable.1⟩, [], ?_, by simp, ?_⟩
      · simp [hs.1]
      · exact (nonceLocked_carried nonce).write (N := fun _ => True) _ trivial s hc hlocked hd

/-! ### Sign-ins -/

theorem createSession_records (hobl : C.Easy fun _ => True) (settings : Settings) (userId : Uuid)
    {P : Store → Prop} {Q : Session → Store → Prop} (hP : Carried C t (fun _ => False) P)
    (hQ : ∀ row s, Calm C s → P s → s.doomed t = false → Q row (s.wrote t (.insertSession row))) :
    Triple C t P (createSession settings userId) Q fun _ _ => True := by
  refine .bind (inside hobl hP (lockUser_inside userId)) fun user? => ?_
  cases user? with
  | none => exact .raise fun _ _ => trivial
  | some user =>
      refine .bind (inside hobl hP (countActiveSessions_inside userId)) fun n => ?_
      split
      · exact .raise fun _ _ => trivial
      refine .bind (inside hobl hP (.perform trivial)) fun now =>
        .bind (inside hobl hP (.perform trivial)) fun id => ?_
      refine .bind (Q := fun _ s => Q (newSession settings now id userId) s)
        (.bind (inside hobl hP (.perform trivial)) fun entered => ?_)
        fun _ => .ret fun _ hs => hs
      split
      · exact .bind (inside hobl hP (referenceUser_inside _)) fun _ => .write hP.stable
          fun s hc hs hd => ⟨hobl _ (by trivial) t s, fun _ => hQ _ s hc hs hd⟩
      · exact .reject hP.stable fun s _ _ _ => hobl _ (by trivial) t s

theorem saveName_inside (user : User) (name : Option String) :
    (saveName user name).Every (Stmt.Inside Write.ofAccount) := by
  unfold saveName
  split
  · exact .perform trivial
  · trivial

theorem addTelegramUser_inside (telegramId : String) (row : User) :
    (addTelegramUser telegramId row).Every (Stmt.Inside Write.ofAccount) := by
  refine .bind (.perform trivial) fun entered => ?_
  split
  · refine .bind (.perform trivial) fun entered => ?_
    split
    · refine .bind (.perform trivial) fun entered => ?_
      split
      · exact .perform trivial
      · exact .perform trivial
    · exact .perform trivial
  · exact .perform trivial

theorem openTelegramSession_part {nonce : TelegramAuthNonce} (settings : Settings) (user : User)
    (guestFound : Bool) (hpending : nonce.status = .pending)
    (hby : ∀ account session,
      WidgetChange.By service (requests t) (.signedIn nonce account session)) :
    Triple (widgetContract service requests) t (fun s => ∃ account, Consumed nonce account t s)
      (openTelegramSession settings user guestFound) (fun _ _ => True) fun _ _ => True := by
  have hobl : (widgetContract service requests).Easy fun _ => True := Changes.contract_easy
  have hconsumed : Carried (widgetContract service requests) t Write.ofAccount fun s =>
      ∃ account, Consumed nonce account t s := consumed_carried nonce
  refine .bind (inside hobl hconsumed (claimGuestPurchases_inside user.id guestFound))
    fun _ => .ofExists fun account => ?_
  have haccount : Carried (widgetContract service requests) t (fun _ => False)
      (Consumed nonce account t) := usedUp_carried nonce account
  refine .bind (Q := fun row s => (∀ w ∈ account, w.ofAccount) ∧
      s.writes t = (WidgetChange.signedIn nonce account row).writes ∧ NonceLocked nonce t s)
    (createSession_records hobl settings user.id haccount fun row s hc hs hd =>
      ⟨hs.account, ?_, ?_⟩) fun row => ?_
  · simp [Store.wrote, hs.writes, WidgetChange.writes]
  · exact (nonceLocked_carried nonce).write (N := fun _ => True) _ trivial s hc hs.locked hd
  refine .bind (Q := fun _ _ => True) (commit_widget_change ?_ fun s hs =>
    ⟨.signedIn nonce account row, hs.2.1, ⟨hs.2.2.2, hpending, hs.1⟩, hby account row⟩) fun _ => ?_
  · exact (Carried.and (.pure _) (.and (.writes _) (nonceLocked_carried nonce))).stable
  · refine .bind (Q := fun _ _ => True) (.session (.pure True) fun _ _ _ => ⟨fun _ => trivial,
      trivial⟩) fun _ => ?_
    exact .bind (Q := fun _ _ => True) (inside (N := fun _ => False) hobl (.pure True)
      (.perform trivial)) fun _ => .ret fun _ _ => trivial

theorem loginTelegramIdentity_part {nonce : TelegramAuthNonce} (settings : Settings)
    (telegramId : String) (name : Option String) (guestFound : Bool)
    (hpending : nonce.status = .pending)
    (hby : ∀ account session,
      WidgetChange.By service (requests t) (.signedIn nonce account session)) :
    Triple (widgetContract service requests) t (fun s => ∃ account, Consumed nonce account t s)
      (loginTelegramIdentity settings telegramId name guestFound) (fun _ _ => True)
      fun _ _ => True := by
  have hobl : (widgetContract service requests).Easy fun _ => True := Changes.contract_easy
  have hconsumed : Carried (widgetContract service requests) t Write.ofAccount fun s =>
      ∃ account, Consumed nonce account t s := consumed_carried nonce
  refine .bind (inside hobl hconsumed (.perform trivial)) fun user? => ?_
  cases user? with
  | some user =>
      show Triple _ t _ (if user.isActive = false then _ else _) _ _
      split
      · exact .raise fun _ _ => trivial
      · exact .bind (inside hobl hconsumed (saveName_inside user name)) fun _ =>
          openTelegramSession_part settings user guestFound hpending hby
  | none =>
      refine .bind (inside hobl hconsumed (.perform trivial)) fun id => ?_
      exact .bind (inside hobl hconsumed (addTelegramUser_inside telegramId _)) fun _ =>
        openTelegramSession_part settings _ guestFound hpending hby

theorem authenticateTelegram_part {data : TelegramAuthRequest} {guestFound : Bool}
    (hrequest : requests t = .authenticate data guestFound) :
    Triple (widgetContract service requests) t (fun s => s.writes t = [])
      (authenticateTelegram service.hashing service.digests service.settings service.telegram
        data guestFound) (fun _ _ => True) fun _ _ => True := by
  have hobl : (widgetContract service requests).Easy fun _ => True := Changes.contract_easy
  have hbare : Carried (widgetContract service requests) t (fun _ => False)
      fun s => s.writes t = [] := .writes []
  unfold authenticateTelegram
  split
  · exact .raise fun _ _ => trivial
  refine .bind (inside hobl hbare (.perform trivial)) fun now => ?_
  split
  · exact .raise fun _ _ => trivial
  split
  · exact .raise fun _ _ => trivial
  next hverifies =>
  refine .bind (consumeTelegramNonce_consumed data.nonce) fun _ => .ofExists fun nonce => ?_
  refine .given (φ := nonce.nonceHash = service.hashing.hashResetToken data.nonce ∧
    nonce.status = .pending) (fun s hs => hs.1) fun hnonce => ?_
  refine .pre (loginTelegramIdentity_part service.settings _ _ guestFound hnonce.2
    fun account session => ?_) fun s hs => hs.2
  rw [hrequest]
  exact .authenticate (Bool.eq_true_of_not_eq_false hverifies) hnonce.1

theorem widgetProg_part :
    Triple (widgetContract service requests) t (fun s => s.writes t = [])
      ((requests t).prog service) (fun _ _ => True) fun _ _ => True := by
  have hclosing {α : Type} {p : Prog α}
      (h : Triple (widgetContract service requests) t (fun s => s.writes t = []) p
        (fun _ _ => True) fun _ _ => True) :
      Triple (widgetContract service requests) t (fun s => s.writes t = []) (closing p)
        (fun _ _ => True) fun _ _ => True :=
    closing_triple h (.pure True) (fun _ _ => trivial) fun _ => trivial
  -- only reducibly, or the check evaluates the settings
  cases hrequest : requests t with
  | start rawNonce =>
      rw [WidgetRequest.prog]
      with_reducible exact hclosing (startTelegramAuth_part hrequest)
  | authenticate data guestFound =>
      rw [WidgetRequest.prog]
      with_reducible exact hclosing (authenticateTelegram_part hrequest)

end

/-! ## A payload signs in once -/

/-- When nobody presents a payload with two nonces, no payload opens two sessions, whoever
starts and finishes sign-ins in whatever order. -/
theorem payload_accepted_once (service : WidgetService) (d : Db) (world : World)
    (requests : Tid → WidgetRequest) (hone : OneNonce service requests)
    {xs : List (Tid × Commit Write Info)} {q : Pool}
    (h : Pool.Trace commits .any (startWidget service d world requests) xs q) :
    ∃ log, History (widgetChanges service requests) d xs log q.store.db ∧
      q.store.db.sessions = d.sessions ++ log.filterMap (fun x => x.2.session) ∧
      ∀ payload, (sessionsFor service requests payload log).length ≤ 1 := by
  have hprogs : ∀ t, Triple (widgetContract service requests) t
      (fun s => s = .idle d .empty world) ((requests t).prog service)
      (fun _ _ => True) fun _ _ => True :=
    fun t => widgetProg_part.pre fun s hs => by
      rw [hs]
      rfl
  obtain ⟨log, hlog⟩ := h.history (S := widgetChanges service requests) rfl hprogs
  exact ⟨log, hlog, sessions_of_widgetHistory hlog, sessionsFor_le_one hone hlog⟩

namespace Desk

/-- A bot whose signature is always the same. -/
def widget : WidgetService where
  hashing := hashing
  digests := ⟨Unit, fun _ => (), fun _ _ => "signature"⟩
  settings := .default
  telegram := ⟨"token", "bot", 10, 86400⟩

/-- A payload of the user with Telegram id 7. -/
def payload (nonce : String) : TelegramAuthRequest :=
  ⟨nonce, 7, some "A", none, none, none, 0, "signature"⟩

/-- The account of that user. -/
def telegramDb : Db :=
  { users := [⟨1, "a@desk", none, some "7", some "A", "user", true⟩], sessions := [],
    resetTokens := [] }

/-- Two nonces, and the payload with the first one over and over. -/
def replays : Tid → WidgetRequest
  | 0 => .start "n"
  | 1 => .start "m"
  | _ => .authenticate (payload "n") false

/-- Two nonces, and the payload with the first and then with the second one. -/
def twoNonces : Tid → WidgetRequest
  | 0 => .start "n"
  | 1 => .start "m"
  | 2 => .authenticate (payload "n") false
  | _ => .authenticate (payload "m") false

end Desk

/-- A payload that was presented a second time with its nonce. -/
theorem payload_replayed : ∃ xs q log,
    Pool.Trace commits .any (startWidget Desk.widget Desk.telegramDb ⟨99, 5⟩ Desk.replays) xs q ∧
      (q.store.info 2).signedIn = some 5 ∧ (q.store.info 3).signedIn = none ∧
      History (widgetChanges Desk.widget Desk.replays) Desk.telegramDb xs log q.store.db ∧
      ∀ payload, (sessionsFor Desk.widget Desk.replays payload log).length ≤ 1 := by
  have hone : OneNonce Desk.widget Desk.replays := by
    have hnonce : ∀ t data guestFound, Desk.replays t = .authenticate data guestFound →
        data.nonce = "n" := by
      intro t data guestFound hrequest
      unfold Desk.replays at hrequest
      split at hrequest <;> cases hrequest
      rfl
    intro t u data data' guestFound guestFound' ht hu _ _ _
    rw [hnonce t data guestFound ht, hnonce u data' guestFound' hu]
  obtain ⟨xs, q, htrace, hq⟩ := Pool.exists_trace_of_observe
    (f := fun r : _ × Pool => decide ((r.2.store.info 2).signedIn = some 5 ∧
      (r.2.store.info 3).signedIn = none))
    (show (Pool.observe commits .any
      (startWidget Desk.widget Desk.telegramDb ⟨99, 5⟩ Desk.replays)
      (Desk.runs 0 5 ++ Desk.runs 2 22 ++ [.outside ⟨99, 6⟩] ++ Desk.runs 3 5)).any _ = true by
        decide +kernel)
  obtain ⟨log, hlog, -, hpayload⟩ :=
    payload_accepted_once Desk.widget Desk.telegramDb ⟨99, 5⟩ Desk.replays hone htrace
  have hq := of_decide_eq_true hq
  exact ⟨xs, q, log, htrace, hq.1, hq.2, hlog, hpayload⟩

/-- The nonce is no part of what the bot signs, so a payload that is presented with a
second nonce opens a second session. -/
theorem two_nonces_two_sessions :
    (Desk.payload "n").signed = (Desk.payload "m").signed ∧
      Desk.widget.verifies (Desk.payload "n") = true ∧
      Desk.widget.verifies (Desk.payload "m") = true ∧
      ∃ q, Pool.Run .any
        (startWidget Desk.widget Desk.telegramDb ⟨99, 5⟩ Desk.twoNonces) q ∧
          (q.store.info 2).signedIn = some 5 ∧ (q.store.info 3).signedIn = some 6 ∧
          q.store.db.sessions.map Session.id = [5, 6] := by
  refine ⟨rfl, by decide +kernel, by decide +kernel, ?_⟩
  obtain ⟨q, hrun, hq⟩ := Pool.exists_run_of_play
    (f := fun q : Pool => decide ((q.store.info 2).signedIn = some 5 ∧
      (q.store.info 3).signedIn = some 6 ∧ q.store.db.sessions.map Session.id = [5, 6]))
    (show (Pool.play .any
      (startWidget Desk.widget Desk.telegramDb ⟨99, 5⟩ Desk.twoNonces)
      (Desk.runs 0 5 ++ Desk.runs 1 5 ++ Desk.runs 2 22 ++ [.outside ⟨99, 6⟩] ++
        Desk.runs 3 22)).any _ = true by decide +kernel)
  exact ⟨q, hrun, of_decide_eq_true hq⟩

end MovieApi.Accounts.Concurrent
