import MovieApi.Accounts.Concurrent.Pairing

/-!
# A code delivers one session once

The committed changes of a code follow each other in one way only: opened, confirmed,
consumed.  Every commit of a pairing call is such a change, and a call that raises an
error has made none.
-/

namespace MovieApi.Accounts.Concurrent

open ReadCommitted Sql

/-! ## Changes of a code -/

namespace Pairing

variable {d : Db} {change : Pairing} {codeHash : String}

@[simp] theorem code_codeHash : change.code.codeHash = change.codeHash := by
  cases change <;> rfl

theorem pairingCode?_apply (h : change.Enabled d) :
    (applyAll change.writes d).pairingCode? codeHash =
      if codeHash = change.codeHash then some change.code else d.pairingCode? codeHash := by
  cases change with
  | opened pairing =>
      obtain ⟨hnone, -⟩ := h
      simp only [writes, applyAll_cons, applyAll_nil, apply_eq, Write.pairingCode?_apply,
        Write.onPairingCode, Pairing.codeHash, code]
      by_cases hcode : codeHash = pairing.codeHash
      · simp [hcode, hnone]
      · simp [hcode, Ne.symm hcode]
  | confirmed pairing user session token now =>
      obtain ⟨hsome, -⟩ := h
      have hflush : flushPairingCode pairing (confirmed pairing user session token now).code pairing =
          (confirmed pairing user session token now).code := flushPairingCode_loaded rfl rfl
      simp only [writes, applyAll_cons, applyAll_nil, apply_eq, Write.pairingCode?_apply,
        Write.onPairingCode]
      by_cases hcode : codeHash = pairing.codeHash
      · simp [hcode, hsome, hflush, Pairing.codeHash]
      · simp [hcode, Pairing.codeHash]
  | consumed pairing now =>
      obtain ⟨hsome, -⟩ := h
      have hflush : flushPairingCode pairing (consumed pairing now).code pairing =
          (consumed pairing now).code := flushPairingCode_loaded rfl rfl
      simp only [writes, applyAll_cons, applyAll_nil, apply_eq, Write.pairingCode?_apply,
        Write.onPairingCode]
      by_cases hcode : codeHash = pairing.codeHash
      · simp [hcode, hsome, hflush, Pairing.codeHash]
      · simp [hcode, Pairing.codeHash]

theorem sessions_apply :
    (applyAll change.writes d).sessions = d.sessions ++ change.session.toList := by
  cases change <;> simp [writes, session, Write.apply]

end Pairing

/-! ## The life of a code -/

/-- The confirmations of a code. -/
def confirms (codeHash : String) : Tid × Pairing → Bool
  | (_, .confirmed pairing _ _ _ _) => decide (pairing.codeHash = codeHash)
  | _ => false

/-- The polls that consume a code. -/
def consumes (codeHash : String) : Tid × Pairing → Bool
  | (_, .consumed pairing _) => decide (pairing.codeHash = codeHash)
  | _ => false

/-- Where a code is in its life, after these changes. -/
inductive Life (codeHash : String) (log : List (Tid × Pairing)) : Option DevicePairingCode → Prop
  | unused {row? : Option DevicePairingCode} :
      (∀ row, row? = some row → row.status = .pending) →
      log.filter (confirms codeHash) = [] → log.filter (consumes codeHash) = [] →
      Life codeHash log row?
  | waiting {row : DevicePairingCode} (t : Tid) (pairing : DevicePairingCode) (user : User)
      (session : Session) (token : Claims) (now : Instant) :
      row.status = .confirmed → row.token = some token →
      log.filter (confirms codeHash) = [(t, .confirmed pairing user session token now)] →
      log.filter (consumes codeHash) = [] → Life codeHash log (some row)
  | spent {row : DevicePairingCode} (t u : Tid) (pairing pairing' : DevicePairingCode)
      (user : User) (session : Session) (token : Claims) (now now' : Instant) :
      row.status = .expired → pairing'.token = some token →
      log.filter (confirms codeHash) = [(t, .confirmed pairing user session token now)] →
      log.filter (consumes codeHash) = [(u, .consumed pairing' now')] →
      Life codeHash log (some row)

section

variable {hashing : Hashing} {requests : Tid → PairingRequest} {d d' : Db}
  {xs : List (Tid × Commit Write Info)} {log : List (Tid × Pairing)} {codeHash : String}

/-- A change of the code itself is the next step of its life. -/
theorem Life.change {t : Tid} {change : Pairing}
    (h : Life change.codeHash log (d.pairingCode? change.codeHash)) (henabled : change.Enabled d) :
    Life change.codeHash (log ++ [(t, change)]) (some change.code) := by
  cases change with
  | opened pairing =>
      obtain ⟨hnone, hpending⟩ := henabled
      simp only [Pairing.codeHash] at h ⊢
      rw [hnone] at h
      cases h with
      | unused _ hconfirms hconsumes =>
          refine .unused (fun row hrow => ?_) ?_ ?_
          · rw [← Option.some.inj hrow]
            exact hpending
          · simp [hconfirms, confirms]
          · simp [hconsumes, consumes]
  | confirmed pairing user session token now =>
      obtain ⟨hsome, hpending⟩ := henabled
      simp only [Pairing.codeHash] at h ⊢
      rw [hsome] at h
      cases h with
      | unused _ hconfirms hconsumes =>
          refine .waiting t pairing user session token now rfl rfl ?_ ?_
          · simp [hconfirms, confirms]
          · simp [hconsumes, consumes]
      | waiting _ _ _ _ _ _ hstatus => rw [hpending] at hstatus; cases hstatus
      | spent _ _ _ _ _ _ _ _ _ hstatus => rw [hpending] at hstatus; cases hstatus
  | consumed pairing now =>
      obtain ⟨hsome, hconfirmed⟩ := henabled
      simp only [Pairing.codeHash] at h ⊢
      rw [hsome] at h
      cases h with
      | unused hpending =>
          rw [hpending pairing rfl] at hconfirmed
          cases hconfirmed
      | waiting u pairing' user session token now' _ htoken hconfirms hconsumes =>
          refine .spent u t pairing' pairing user session token now' now rfl htoken ?_ ?_
          · simp [hconfirms, confirms]
          · simp [hconsumes, consumes]
      | spent _ _ _ _ _ _ _ _ _ hstatus => rw [hconfirmed] at hstatus; cases hstatus

theorem not_confirms {t : Tid} {change : Pairing} (h : codeHash ≠ change.codeHash) :
    confirms codeHash (t, change) = false := by
  cases change with
  | confirmed => exact decide_eq_false (Ne.symm h)
  | _ => rfl

theorem not_consumes {t : Tid} {change : Pairing} (h : codeHash ≠ change.codeHash) :
    consumes codeHash (t, change) = false := by
  cases change with
  | consumed => exact decide_eq_false (Ne.symm h)
  | _ => rfl

/-- A change of another code is none of this one. -/
theorem Life.other {t : Tid} {change : Pairing} {row? : Option DevicePairingCode}
    (h : Life codeHash log row?) (hne : codeHash ≠ change.codeHash) :
    Life codeHash (log ++ [(t, change)]) row? := by
  have hconfirms : (log ++ [(t, change)]).filter (confirms codeHash) =
      log.filter (confirms codeHash) := by
    simp [List.filter_append, not_confirms (t := t) hne]
  have hconsumes : (log ++ [(t, change)]).filter (consumes codeHash) =
      log.filter (consumes codeHash) := by
    simp [List.filter_append, not_consumes (t := t) hne]
  cases h with
  | unused hpending hc hu => exact .unused hpending (hconfirms.trans hc) (hconsumes.trans hu)
  | waiting u pairing user session token now hstatus htoken hc hu =>
      exact .waiting u pairing user session token now hstatus htoken (hconfirms.trans hc)
        (hconsumes.trans hu)
  | spent u v pairing pairing' user session token now now' hstatus htoken hc hu =>
      exact .spent u v pairing pairing' user session token now now' hstatus htoken
        (hconfirms.trans hc) (hconsumes.trans hu)

theorem life_of_history (h : History (pairingChanges hashing requests) d xs log d')
    (hnew : ∀ row, d.pairingCode? codeHash = some row → row.status = .pending) :
    Life codeHash log (d'.pairingCode? codeHash) := by
  induction h with
  | nil => exact .unused hnew rfl rfl
  | @snoc _ _ d' _ _ change _ henabled _ _ _ ih =>
      have happly : (applyAll change.writes d').pairingCode? codeHash =
          if codeHash = change.codeHash then some change.code else d'.pairingCode? codeHash :=
        Pairing.pairingCode?_apply henabled
      rw [show (pairingChanges hashing requests).writes change = change.writes from rfl, happly]
      split
      · next hcode =>
          subst hcode
          exact ih.change henabled
      · next hne => exact ih.other hne

theorem sessions_of_history (h : History (pairingChanges hashing requests) d xs log d') :
    d'.sessions = d.sessions ++ log.filterMap fun x => x.2.session := by
  induction h with
  | nil => simp
  | @snoc xs log d' t x change _ _ _ _ _ ih =>
      rw [show (pairingChanges hashing requests).writes change = change.writes from rfl,
        Pairing.sessions_apply, ih, List.filterMap_append, List.append_assoc]
      cases hsession : change.session <;> simp [hsession]

/-- The sessions that are created through a code. -/
def sessionsThrough (codeHash : String) (log : List (Tid × Pairing)) : List Session :=
  (log.filter (confirms codeHash)).filterMap fun x => x.2.session

end

/-! ## Every commit is a change -/

def pairingContract (hashing : Hashing) (requests : Tid → PairingRequest) : Contract :=
  (pairingChanges hashing requests).contract

/-- The code's row is locked, and as it was loaded. -/
def CodeLocked (pairing : DevicePairingCode) (t : Tid) (s : Store) : Prop :=
  s.Holds t (.pairingCode pairing.codeHash) .update ∧
    s.db.pairingCode? pairing.codeHash = some pairing

/-- The code of the call is locked, and as it was loaded within its time. -/
structure Found (hashing : Hashing) (rawCode : String) (pairing : DevicePairingCode) (t : Tid)
    (now : Instant) (s : Store) : Prop where
  locked : CodeLocked pairing t s
  noted : (s.info t).checkedAt = some now ∧ (s.info t).token = none
  hash : pairing.codeHash = hashing.hashResetToken rawCode
  usable : now ≤ pairing.expiresAt ∧ pairing.status ≠ .expired

section

variable {hashing : Hashing} {requests : Tid → PairingRequest} {t : Tid}

theorem lockPairingCode_inside {N : Write → Prop} (codeHash : String) :
    (lockPairingCode codeHash).Every (Stmt.Inside N) := by
  refine .bind (.perform trivial) fun found => ?_
  split
  · exact .bind (.perform trivial) fun _ => .perform trivial
  · trivial

theorem createSession_inside (settings : Settings) (userId : Uuid) :
    (createSession settings userId).Every (Stmt.Inside fun _ => True) := by
  refine .bind (lockUser_inside userId) fun user? => ?_
  cases user? with
  | none => trivial
  | some user =>
      refine .bind (countActiveSessions_inside userId) fun n => ?_
      split
      · trivial
      refine .bind (.perform trivial) fun now => .bind (.perform trivial) fun id =>
        .bind (.bind (.perform trivial) fun entered => ?_) fun _ => trivial
      split
      · exact .bind (referenceUser_inside _) fun _ => .perform trivial
      · exact .perform trivial

theorem locked_carried {C : Contract} {N : Write → Prop} (pairing : DevicePairingCode) :
    Carried C t N (CodeLocked pairing t) :=
  .locked (φ := fun d : Db => d.pairingCode? pairing.codeHash = some pairing)
    fun _ _ hagree hrow => (hagree (by decide)).symm.trans hrow

theorem found_carried {C : Contract} {N : Write → Prop} {rawCode : String}
    {pairing : DevicePairingCode} {now : Instant} :
    Carried C t N (Found hashing rawCode pairing t now) := by
  have hlocked : Carried C t N (CodeLocked pairing t) := locked_carried pairing
  have hnoted : Carried C t N fun s => (s.info t).checkedAt = some now ∧ (s.info t).token = none :=
    .info fun i : Info => i.checkedAt = some now ∧ i.token = none
  exact
    { stable := ⟨fun hb hs => ⟨hlocked.stable.keep hb hs.locked, hnoted.stable.keep hb hs.noted,
        hs.hash, hs.usable⟩⟩
      quiet := fun hq hworld hinfo hs => ⟨hlocked.quiet hq hworld hinfo hs.locked,
        hnoted.quiet hq hworld hinfo hs.noted, hs.hash, hs.usable⟩
      write := fun w hw s hc hs hd => ⟨hlocked.write w hw s hc hs.locked hd,
        hnoted.write w hw s hc hs.noted hd, hs.hash, hs.usable⟩ }

/-- Before its first write. -/
def Unwritten (t : Tid) (s : Store) : Prop := s.writes t = [] ∧ (s.info t).token = none

theorem unwritten_carried {C : Contract} : Carried C t (fun _ => False) (Unwritten t) :=
  .and (.writes []) (.info fun i : Info => i.token = none)

/-- What is known of a row that was found under its lock. -/
def Kept (hashing : Hashing) (rawCode : String) (found : Option DevicePairingCode) (t : Tid)
    (s : Store) : Prop :=
  ∀ pairing, found = some pairing →
    pairing.codeHash = hashing.hashResetToken rawCode ∧ CodeLocked pairing t s

theorem kept_carried {C : Contract} {N : Write → Prop} {rawCode : String}
    {found : Option DevicePairingCode} : Carried C t N (Kept hashing rawCode found t) where
  stable := ⟨fun hb hs pairing hrow =>
    ⟨(hs pairing hrow).1, (locked_carried (N := N) pairing).stable.keep hb (hs pairing hrow).2⟩⟩
  quiet hq hworld hinfo hs pairing hrow :=
    ⟨(hs pairing hrow).1,
      (locked_carried (C := C) (N := N) pairing).quiet hq hworld hinfo (hs pairing hrow).2⟩
  write w hw s hc hs hd pairing hrow :=
    ⟨(hs pairing hrow).1, (locked_carried pairing).write w hw s hc (hs pairing hrow).2 hd⟩

theorem lockPairingCode_kept (rawCode : String) :
    Triple (pairingContract hashing requests) t (Unwritten t)
      (lockPairingCode (hashing.hashResetToken rawCode))
      (fun found s => Unwritten t s ∧ Kept hashing rawCode found t s) fun _ _ => True := by
  have hobl : (pairingContract hashing requests).Easy fun _ => True := Changes.contract_easy
  have hbare : Carried (pairingContract hashing requests) t (fun _ => False) (Unwritten t) :=
    unwritten_carried
  refine .bind (inside hobl hbare (.perform trivial)) fun there => ?_
  split
  · refine .bind (.lock (Q := fun _ s => Unwritten t s ∧
        s.Holds t (.pairingCode (hashing.hashResetToken rawCode)) .update) hbare.stable
      fun s _ hs _ => ⟨trivial, fun _ => ⟨hbare.quiet (.acquire t s _) rfl rfl hs, by simp⟩⟩)
      fun _ => ?_
    refine .select (hbare.and (.holds _ _)).stable fun s _ hs _ =>
      ⟨trivial, hs.1, fun row hrow => ?_⟩
    have hkey : row.codeHash = hashing.hashResetToken rawCode :=
      key_of_lookup (show lookup DevicePairingCode.codeHash _ _ = some row from hrow)
    rw [view_of_writes hs.1.1, applyAll_nil] at hrow
    exact ⟨hkey, hkey ▸ hs.2, hkey ▸ hrow⟩
  · exact .ret fun s hs => ⟨hs, fun row hrow => by cases hrow⟩

theorem findPendingOrConfirmed_found (rawCode : String) :
    Triple (pairingContract hashing requests) t (Unwritten t)
      (findPendingOrConfirmed hashing rawCode)
      (fun pairing s => ∃ now, s.writes t = [] ∧ Found hashing rawCode pairing t now s)
      fun _ _ => True := by
  have hobl : (pairingContract hashing requests).Easy fun _ => True := Changes.contract_easy
  refine .bind (lockPairingCode_kept rawCode) fun found => ?_
  have hkept : Carried (pairingContract hashing requests) t (fun _ => False) fun s =>
      Unwritten t s ∧ Kept hashing rawCode found t s := unwritten_carried.and kept_carried
  refine .bind (inside hobl hkept (.perform trivial)) fun now => ?_
  refine .bind (Q := fun _ s => s.writes t = [] ∧ ((s.info t).checkedAt = some now ∧
      (s.info t).token = none) ∧ Kept hashing rawCode found t s)
    (.session hkept.stable fun s _ hs => ⟨fun _ => trivial, hs.1.1, by simp [hs.1.2], hs.2⟩)
    fun _ => ?_
  cases hrow : Option.filter (fun pairing : DevicePairingCode =>
      decide (now ≤ pairing.expiresAt ∧ pairing.status ≠ .expired)) found with
  | none => exact .raise fun _ _ => trivial
  | some pairing =>
      obtain ⟨hsome, husable⟩ := Option.filter_eq_some_iff.1 hrow
      refine .ret fun s hs => ?_
      obtain ⟨hhash, hlocked⟩ := hs.2.2 pairing hsome
      exact ⟨now, hs.1, hlocked, hs.2.1, hhash, of_decide_eq_true husable⟩

theorem commit_change {P : Store → Prop} (hP : Stable (pairingContract hashing requests) t P)
    (h : ∀ s, P s → ∃ change : Pairing, s.writes t = change.writes ∧ change.Enabled s.db ∧
      Pairing.By hashing (requests t) change ∧ change.Noted (s.info t)) :
    Triple (pairingContract hashing requests) t P Prog.commit (fun _ _ => True)
      fun _ _ => True :=
  Changes.commit hP h

/-- Another transaction can open no code of the same hash. -/
theorem fresh_code_carried {C : Contract} {N : Write → Prop} (codeHash : String) :
    Carried C t N fun s => s.Holds t (.pairingCode codeHash) .update ∧
      s.db.pairingCode? codeHash = none :=
  .locked (φ := fun d : Db => d.pairingCode? codeHash = none)
    fun _ _ hagree hrow => (hagree (by decide)).symm.trans hrow

theorem openCode_part {rawCode : String} {pairing : DevicePairingCode}
    (hrequest : requests t = .start rawCode)
    (hhash : pairing.codeHash = hashing.hashResetToken rawCode) (hpending : pairing.status = .pending) :
    Triple (pairingContract hashing requests) t
      (fun s => Unwritten t s ∧ s.Holds t (.pairingCode pairing.codeHash) .update ∧
        s.db.pairingCode? pairing.codeHash = none)
      (do
        Prog.write (.insertPairingCode pairing)
        Prog.commit) (fun _ _ => True) fun _ _ => True := by
  have hfresh {N : Write → Prop} : Carried (pairingContract hashing requests) t N fun s =>
      s.Holds t (.pairingCode pairing.codeHash) .update ∧
        s.db.pairingCode? pairing.codeHash = none := fresh_code_carried pairing.codeHash
  have hnoted : Carried (pairingContract hashing requests) t (fun _ => False) fun s =>
      (s.info t).token = none := .info fun i : Info => i.token = none
  refine .bind (.write (Q := fun _ s => s.writes t = (Pairing.opened pairing).writes ∧
      (s.info t).token = none ∧ s.Holds t (.pairingCode pairing.codeHash) .update ∧
        s.db.pairingCode? pairing.codeHash = none)
    (unwritten_carried.and hfresh).stable
    fun s hc hs hd => ⟨trivial, fun _ => ⟨?_, hs.1.2, ?_⟩⟩) fun _ => ?_
  · simp [hs.1.1, Pairing.writes]
  · exact hfresh.write (N := fun _ => True) _ trivial s hc hs.2 hd
  · refine commit_change (Carried.and (.writes _) (hnoted.and hfresh)).stable fun s hs =>
      ⟨.opened pairing, hs.1, ⟨hs.2.2.2, hpending⟩, ?_, hs.2.1⟩
    rw [hrequest]
    exact .start hhash

theorem startPairing_part (expireMinutes : Int) {rawCode : String}
    (hrequest : requests t = .start rawCode) :
    Triple (pairingContract hashing requests) t (Unwritten t)
      (startPairing hashing expireMinutes rawCode) (fun _ _ => True) fun _ _ => True := by
  have hobl : (pairingContract hashing requests).Easy fun _ => True := Changes.contract_easy
  have hbare : Carried (pairingContract hashing requests) t (fun _ => False) (Unwritten t) :=
    unwritten_carried
  refine .bind (inside hobl hbare (.perform trivial)) fun now => ?_
  refine .bind (Q := fun entered s => entered = true → Unwritten t s ∧
      s.Holds t (.pairingCode (hashing.hashResetToken rawCode)) .update ∧
        s.db.pairingCode? (hashing.hashResetToken rawCode) = none)
    (.enter hbare.stable fun s _ hs _ => ⟨trivial, fun _ _ => by simp, fun _ hfree _ => ?_⟩)
    fun entered => ?_
  · refine ⟨hbare.quiet (.acquire t s _) rfl rfl hs, by simp, ?_⟩
    rw [view_of_writes hs.1, applyAll_nil] at hfree
    simpa using hfree
  · split
    · next hentered => exact .pre (openCode_part hrequest rfl rfl) fun s hs => hs hentered
    · exact .pre (.reject (.pure True) fun _ _ _ _ => trivial) fun _ _ => trivial

theorem confirmPairing_part (settings : Settings) {rawCode : String} {user : User}
    (hrequest : requests t = .confirm rawCode user) :
    Triple (pairingContract hashing requests) t (Unwritten t)
      (confirmPairing hashing settings rawCode user) (fun _ _ => True) fun _ _ => True := by
  have hobl : (pairingContract hashing requests).Easy fun _ => True := Changes.contract_easy
  refine .bind (findPendingOrConfirmed_found rawCode) fun pairing => ?_
  split
  · exact .raise fun _ _ => trivial
  next hpending =>
  have hpending : pairing.status = .pending := by simpa using hpending
  refine .ofExists fun now => ?_
  have hcarried {N : Write → Prop} : Carried (pairingContract hashing requests) t N
      (Found hashing rawCode pairing t now) := found_carried
  have hbefore : Carried (pairingContract hashing requests) t (fun _ => False) fun s =>
      s.writes t = [] ∧ Found hashing rawCode pairing t now s := .and (.writes []) hcarried
  have hlock : Triple (pairingContract hashing requests) t
      (fun s => s.writes t = [] ∧ Found hashing rawCode pairing t now s) (lockUser user.id)
      (fun user? s => user?.isSome = true →
        s.writes t = [] ∧ Found hashing rawCode pairing t now s) fun _ _ => True :=
    (lockUser_holds hobl hbefore user.id).post fun _ _ hs _ => hs.1
  have hcreate := createSession_adding hobl settings user.id hlock
    ((inside hobl hbefore (countActiveSessions_inside user.id)).post fun _ _ hs _ => hs) hcarried
  refine .bind hcreate fun session => ?_
  refine .given (φ := session.userId = user.id) (fun s hs => hs.1.1) fun huser => ?_
  have hadding : Carried (pairingContract hashing requests) t (fun _ => False) fun s =>
      s.writes t = [.insertSession session] ∧ Found hashing rawCode pairing t now s :=
    .and (.writes _) hcarried
  refine .pre (.bind (inside hobl hadding (.perform trivial)) fun issuedAt => ?_)
    fun s hs => ⟨hs.2.1.writes, hs.2.2⟩
  refine .bind (.write (Q := fun _ s => s.writes t = (Pairing.confirmed pairing user session
      (createAccessToken settings issuedAt user session.id 0) now).writes ∧
        Found hashing rawCode pairing t now s) hadding.stable
    fun s hc hs hd => ⟨trivial, fun _ => ⟨?_, ?_⟩⟩) fun _ => ?_
  · simp [hs.1, Pairing.writes, Pairing.code]
  · exact hcarried.write (N := fun _ => True) _ trivial s hc hs.2 hd
  · refine commit_change (Carried.and (.writes _) hcarried).stable fun s hs =>
      ⟨_, hs.1, ⟨hs.2.locked.2, hpending⟩, ?_, hs.2.noted⟩
    rw [hrequest]
    exact .confirm hs.2.hash hs.2.usable.1 huser rfl rfl

theorem pollPairing_part {rawCode : String} (hrequest : requests t = .poll rawCode) :
    Triple (pairingContract hashing requests) t (Unwritten t) (pollPairing hashing rawCode)
      (fun _ _ => True) fun _ _ => True := by
  refine .bind (findPendingOrConfirmed_found rawCode) fun pairing => ?_
  split
  · exact .ret fun _ _ => trivial
  next hpending =>
  refine .ofExists fun now => .given (φ := pairing.codeHash = hashing.hashResetToken rawCode ∧
    now ≤ pairing.expiresAt ∧ pairing.status ≠ .expired)
    (fun s hs => ⟨hs.2.hash, hs.2.usable⟩) fun husable => ?_
  have hlocked {N : Write → Prop} : Carried (pairingContract hashing requests) t N
      (CodeLocked pairing t) := locked_carried pairing
  have hnoted {N : Write → Prop} : Carried (pairingContract hashing requests) t N fun s =>
      (s.info t).checkedAt = some now ∧ (s.info t).token = pairing.token :=
    .info fun i : Info => i.checkedAt = some now ∧ i.token = pairing.token
  have hconfirmed : pairing.status = .confirmed := by
    cases hstatus : pairing.status with
    | pending => exact absurd hstatus hpending
    | confirmed => rfl
    | expired => exact absurd hstatus husable.2.2
  have hbefore : Carried (pairingContract hashing requests) t (fun _ => False) fun s =>
      s.writes t = [] ∧ Found hashing rawCode pairing t now s := .and (.writes []) found_carried
  refine .bind (Q := fun _ s => s.writes t = [] ∧ ((s.info t).checkedAt = some now ∧
      (s.info t).token = pairing.token) ∧ CodeLocked pairing t s)
    (.session hbefore.stable fun s _ hs =>
      ⟨fun _ => trivial, hs.1, by simp [hs.2.noted.1], hs.2.locked⟩) fun _ => ?_
  refine .bind (.write (Q := fun _ s => s.writes t = (Pairing.consumed pairing now).writes ∧
      ((s.info t).checkedAt = some now ∧ (s.info t).token = pairing.token) ∧
        CodeLocked pairing t s)
    (Carried.and (.writes []) (hnoted.and hlocked)).stable
    fun s hc hs hd => ⟨trivial, fun _ => ⟨?_, hs.2.1, ?_⟩⟩) fun _ => ?_
  · simp [hs.1, Pairing.writes, Pairing.code]
  · exact hlocked.write (N := fun _ => True) _ trivial s hc hs.2.2 hd
  · refine commit_change (Carried.and (.writes _) (hnoted.and hlocked)).stable fun s hs =>
      ⟨_, hs.1, ⟨hs.2.2.2, hconfirmed⟩, ?_, hs.2.1⟩
    rw [hrequest]
    exact .poll husable.1 husable.2.1

theorem pairingProg_part (settings : Settings) (expireMinutes : Int) :
    Triple (pairingContract hashing requests) t (Unwritten t)
      ((requests t).prog hashing settings expireMinutes) (fun _ _ => True) fun _ _ => True := by
  have hclosing {p : Prog Unit}
      (h : Triple (pairingContract hashing requests) t (Unwritten t) p (fun _ _ => True)
        fun _ _ => True) :
      Triple (pairingContract hashing requests) t (Unwritten t) (closing p) (fun _ _ => True)
        fun _ _ => True :=
    closing_triple h (.pure True) (fun _ _ => trivial) fun _ => trivial
  cases hrequest : requests t with
  | start rawCode => exact hclosing (startPairing_part expireMinutes hrequest)
  | confirm rawCode user => exact hclosing (confirmPairing_part settings hrequest)
  | poll rawCode => exact hclosing (pollPairing_part hrequest)

end

/-! ## What a call commits -/

section

variable {hashing : Hashing} {requests : Tid → PairingRequest} {permit : ReadCommitted.Permit Db Key
  Write World Info Fault}

/-- Nothing is committed yet, and no token is to be returned. -/
def Uncommitted (o : ReadCommitted.Own Write Info) (g : Option (Commit Write Info)) : Prop :=
  g = none ∧ o.info.token = none

/-- A token that is to be returned was consumed by a commit. -/
def Covered (o : ReadCommitted.Own Write Info) (g : Option (Commit Write Info)) : Prop :=
  o.info.token.isSome = true → ∃ x, g = some x ∧ x.info = o.info

theorem closing_watched {p : Prog Unit} {P S : ReadCommitted.Own Write Info → Option (Commit Write Info) → Prop}
    (h : Watched commits permit P p (fun _ => S) fun _ _ g => g = none)
    (hS : ∀ o g, S o g → S { o with writes := [], doomed := false } g) :
    Watched commits permit P (closing p) (fun _ => S) fun _ _ g => g = none := by
  have hrollback {T : ReadCommitted.Own Write Info → Option (Commit Write Info) → Prop}
      (hT : ∀ o g, T o g → T { o with writes := [], doomed := false } g) :
      Watched commits permit T Prog.rollback (fun _ => T) fun _ _ g => g = none := by
    refine .perform fun o g e r o' hs _ hmay => ⟨g, rfl, ?_⟩
    obtain ⟨rfl, rfl⟩ := hmay
    exact hT o g hs
  refine .bind (Q := fun _ => S) (.tryCatch (M := fun _ _ g => g = none)
    (.bind h fun _ => .ret fun _ _ hs => hs) fun e => ?_) fun _ => hrollback hS
  exact .bind (hrollback fun _ _ hg => hg) fun _ => .raise fun _ _ hg => hg

theorem inside_uncommitted {α : Type} {p : Prog α}
    (hp : p.Every (Stmt.Inside fun _ => True)) :
    Watched commits permit Uncommitted p (fun _ => Uncommitted) fun _ _ g => g = none :=
  Watched.inside (fun i : Info => i.token = none) hp

theorem findPendingOrConfirmed_watched (rawCode : String) :
    Watched commits permit Uncommitted (findPendingOrConfirmed hashing rawCode)
      (fun _ => Uncommitted) fun _ _ g => g = none := by
  refine .bind (inside_uncommitted (lockPairingCode_inside _)) fun found => ?_
  refine .bind (inside_uncommitted (.perform trivial)) fun now => ?_
  refine .bind (Q := fun _ => Uncommitted) (Watched.note (φ := fun i : Info => i.token = none)
    (ψ := fun i : Info => i.token = none) fun _ hi => hi) fun _ => ?_
  split
  · exact .raise fun _ _ hs => hs.1
  · exact .ret fun _ _ hs => hs

/-- A call that raises an error has committed nothing, and a poll that returns a token
has committed what it says. -/
theorem pairingProg_watched (settings : Settings) (expireMinutes : Int)
    (request : PairingRequest) :
    Watched commits permit Uncommitted (request.prog hashing settings expireMinutes)
      (fun _ o g => ∀ rawCode, request = .poll rawCode → Covered o g) fun _ _ g => g = none := by
  have hcommit : Watched commits permit Uncommitted (Prog.commit : Prog Unit) (fun _ _ _ => True)
      fun _ _ g => g = none := by
    refine .perform fun o g e r o' hs _ hmay => ?_
    obtain ⟨rfl, rfl⟩ := hmay
    by_cases hd : o.doomed = true
    · exact ⟨g, by simp [Watch.Moves, commits, hd], trivial⟩
    · exact ⟨some ⟨o.writes, o.info⟩, by simp [Watch.Moves, commits, hd, hs.1], trivial⟩
  cases request with
  | start rawCode =>
      refine (closing_watched (S := fun _ _ => True) ?_ fun _ _ => id).post
        fun _ _ _ _ _ hpoll => by cases hpoll
      refine .bind (inside_uncommitted (.perform trivial)) fun now => .bind (inside_uncommitted (.perform trivial))
        fun entered => ?_
      split
      · exact .bind (inside_uncommitted (.perform trivial)) fun _ => hcommit
      · exact .post (inside_uncommitted (.perform trivial)) fun _ _ _ _ => trivial
  | confirm rawCode user =>
      refine (closing_watched (S := fun _ _ => True) ?_ fun _ _ => id).post
        fun _ _ _ _ _ hpoll => by cases hpoll
      refine .bind (findPendingOrConfirmed_watched rawCode) fun pairing => ?_
      split
      · exact .raise fun _ _ hs => hs.1
      · exact .bind (inside_uncommitted (createSession_inside settings user.id)) fun _ =>
          .bind (inside_uncommitted (.perform trivial)) fun _ => .bind (inside_uncommitted (.perform trivial)) fun _ =>
            hcommit
  | poll rawCode =>
      refine (closing_watched (S := Covered) ?_ fun _ _ => id).post fun _ _ _ hs _ _ => hs
      refine .bind (findPendingOrConfirmed_watched rawCode) fun pairing => ?_
      split
      · exact .ret fun o g hs hsome => by simp [hs.2] at hsome
      · refine .bind (Watched.note (φ := fun i : Info => i.token = none) (ψ := fun _ => True)
          fun _ _ => trivial) fun _ => .bind (Watched.write (φ := fun _ => True)) fun _ =>
            .post (Watched.commit (φ := fun _ => True)) ?_
        exact fun _ _ _ hs _ => hs

end

/-! ## One session, once -/

/-- What a code delivers: one session at most, to one poll at most, which returns the
token of that session, of the user who confirmed the code.  Both found the code within
its time. -/
structure DeliversOnce (hashing : Hashing) (requests : Tid → PairingRequest) (codeHash : String)
    (log : List (Tid × Pairing)) (q : Pool) : Prop where
  session : (sessionsThrough codeHash log).length ≤ 1
  poll : ∀ {t u rawCode rawCode' token token'}, requests t = .poll rawCode →
    hashing.hashResetToken rawCode = codeHash → requests u = .poll rawCode' →
    hashing.hashResetToken rawCode' = codeHash → polled q t = some token →
    polled q u = some token' → t = u
  token : ∀ {t rawCode token}, requests t = .poll rawCode →
    hashing.hashResetToken rawCode = codeHash → polled q t = some token →
    (∃ pairing now, (t, .consumed pairing now) ∈ log ∧ pairing.codeHash = codeHash ∧
      (q.store.info t).checkedAt = some now ∧ now ≤ pairing.expiresAt) ∧
    ∃ u rawCode' user pairing session now, requests u = .confirm rawCode' user ∧
      (u, .confirmed pairing user session token now) ∈ log ∧ pairing.codeHash = codeHash ∧
      session.userId = user.id ∧ token.sub = user.id ∧ token.sid = session.id ∧
      now ≤ pairing.expiresAt

section

variable {hashing : Hashing} {requests : Tid → PairingRequest} {d : Db}
  {xs : List (Tid × Commit Write Info)} {log : List (Tid × Pairing)} {codeHash : String} {q : Pool}

theorem polled_eq {t : Tid} {token : Claims} (h : polled q t = some token) :
    q.progs t = .ret () ∧ (q.store.info t).token = some token := by
  unfold polled at h
  split at h
  · next hprog => exact ⟨hprog, h⟩
  · cases h

theorem raised_eq {t : Tid} (h : raised q t = true) : ∃ e, q.progs t = .raise e := by
  unfold raised at h
  split at h
  · next e hprog => exact ⟨e, hprog⟩
  · cases h

/-- A poll that returned a token has consumed its code. -/
theorem consumed_of_history (h : History (pairingChanges hashing requests) d xs log q.store.db) {t : Tid}
    {rawCode : String} {token : Claims} {g : Option (Commit Write Info)}
    (hrequest : requests t = .poll rawCode) (hsigns : signsOf t xs = g.toList)
    (hcovered : Covered (q.store.own t) g) (hpolled : polled q t = some token) :
    ∃ pairing now, (t, .consumed pairing now) ∈ log ∧
      pairing.codeHash = hashing.hashResetToken rawCode ∧ pairing.token = some token ∧
      (q.store.info t).checkedAt = some now ∧ now ≤ pairing.expiresAt := by
  have htoken : (q.store.info t).token = some token := (polled_eq hpolled).2
  obtain ⟨x, rfl, hinfo⟩ := hcovered (by simp [Store.own, htoken])
  have hx : (t, x) ∈ xs := mem_signsOf.1 (by rw [hsigns]; simp)
  obtain ⟨change, hchange, hby, hnoted⟩ := h.of_commit hx
  have hby : Pairing.By hashing (requests t) change := hby
  rw [hrequest] at hby
  cases hby with
  | @poll _ pairing now hhash hnow =>
      obtain ⟨hchecked, hpairing⟩ := hnoted
      rw [hinfo] at hchecked hpairing
      exact ⟨pairing, now, hchange, hhash, hpairing.symm.trans htoken, hchecked, hnow⟩

theorem Life.session {row? : Option DevicePairingCode} (h : Life codeHash log row?) :
    (sessionsThrough codeHash log).length ≤ 1 := by
  unfold sessionsThrough
  cases h with
  | unused _ hconfirms _ => simp [hconfirms]
  | waiting _ _ _ _ _ _ _ _ hconfirms _ => simp [hconfirms, Pairing.session]
  | spent _ _ _ _ _ _ _ _ _ _ _ hconfirms _ => simp [hconfirms, Pairing.session]

/-- A code that was consumed was confirmed, with the token that is consumed. -/
theorem Life.consumed {row? : Option DevicePairingCode} (h : Life codeHash log row?) {t : Tid}
    {pairing : DevicePairingCode} {now : Instant} (hmem : (t, .consumed pairing now) ∈ log)
    (hhash : pairing.codeHash = codeHash) :
    log.filter (consumes codeHash) = [(t, .consumed pairing now)] ∧
      ∃ u pairing' user session token now', pairing.token = some token ∧
        log.filter (confirms codeHash) = [(u, .confirmed pairing' user session token now')] := by
  have hfilter : (t, .consumed pairing now) ∈ log.filter (consumes codeHash) :=
    List.mem_filter.2 ⟨hmem, decide_eq_true hhash⟩
  cases h with
  | unused _ _ hconsumes => simp [hconsumes] at hfilter
  | waiting _ _ _ _ _ _ _ _ _ hconsumes => simp [hconsumes] at hfilter
  | spent u v pairing' pairing'' user session token now' now'' _ htoken hconfirms hconsumes =>
      rw [hconsumes, List.mem_singleton] at hfilter
      cases hfilter
      exact ⟨hconsumes, u, pairing', user, session, token, now', htoken, hconfirms⟩

end

/-- However televisions and phones act on a code: a call that raises an error changes
nothing, and the code delivers one session once. -/
theorem pairing_delivers_once (hashing : Hashing) (settings : Settings) (expireMinutes : Int)
    (d : Db) (world : World) (requests : Tid → PairingRequest) (codeHash : String)
    (hnew : ∀ pairing, d.pairingCode? codeHash = some pairing → pairing.status = .pending)
    {xs : List (Tid × Commit Write Info)} {q : Pool}
    (h : Pool.Trace commits .any
      (startPairings hashing settings expireMinutes d world requests) xs q) :
    ∃ log, History (pairingChanges hashing requests) d xs log q.store.db ∧
      q.store.db.sessions = d.sessions ++ log.filterMap (fun x => x.2.session) ∧
      (∀ t, raised q t = true → ∀ change, (t, change) ∉ log) ∧
      DeliversOnce hashing requests codeHash log q := by
  have hprogs : ∀ t, Triple (pairingContract hashing requests) t
      (fun s => s = .idle d .empty world) ((requests t).prog hashing settings expireMinutes)
      (fun _ _ => True) fun _ _ => True :=
    fun t => (pairingProg_part settings expireMinutes).pre fun s hs => by
      rw [hs]
      exact ⟨rfl, rfl⟩
  obtain ⟨log, hlog⟩ := h.history (S := pairingChanges hashing requests) rfl hprogs
  -- what each session has committed by itself
  have hown : ∀ t, ∃ g, signsOf t xs = g.toList ∧ Follows commits (fun _ _ => True) (q.progs t)
      (fun _ o g => ∀ rawCode, requests t = .poll rawCode → Covered o g) (fun _ _ g => g = none)
      (q.store.own t) g := by
    intro t
    obtain ⟨g, haccepts, hfollows⟩ := h.follows (π := fun _ => fun _ _ => True)
      (fun _ => trivial) (fun t => pairingProg_watched settings expireMinutes (requests t) _ none
        ⟨rfl, rfl⟩) t
    exact ⟨g, accepts_commits haccepts, hfollows⟩
  have hconsumed : ∀ {t rawCode token}, requests t = .poll rawCode → polled q t = some token →
      ∃ pairing now, (t, .consumed pairing now) ∈ log ∧
        pairing.codeHash = hashing.hashResetToken rawCode ∧ pairing.token = some token ∧
        (q.store.info t).checkedAt = some now ∧ now ≤ pairing.expiresAt := by
    intro t rawCode token hrequest hpolled
    obtain ⟨g, hsigns, hfollows⟩ := hown t
    rw [(polled_eq hpolled).1] at hfollows
    exact consumed_of_history hlog hrequest hsigns (hfollows rawCode hrequest) hpolled
  have hlife := life_of_history hlog hnew
  refine ⟨log, hlog, sessions_of_history hlog, ?_, ⟨hlife.session, ?_, ?_⟩⟩
  · intro t hraised change hchange
    obtain ⟨e, hprog⟩ := raised_eq hraised
    obtain ⟨g, hsigns, hfollows⟩ := hown t
    rw [hprog] at hfollows
    obtain rfl : g = none := hfollows
    obtain ⟨-, x, hx, -⟩ := hlog.of_change hchange
    have hsign := mem_signsOf.2 hx
    simp [hsigns] at hsign
  · intro t u rawCode rawCode' token token' ht hhash hu hhash' htoken htoken'
    obtain ⟨pairing, now, hmem, hcode, -⟩ := hconsumed ht htoken
    obtain ⟨pairing', now', hmem', hcode', -⟩ := hconsumed hu htoken'
    have hfilter := (hlife.consumed hmem (hcode.trans hhash)).1
    rw [(hlife.consumed hmem' (hcode'.trans hhash')).1] at hfilter
    cases hfilter
    rfl
  · intro t rawCode token ht hhash htoken
    obtain ⟨pairing, now, hmem, hcode, hpairing, hchecked, hnow⟩ := hconsumed ht htoken
    have hcode : pairing.codeHash = codeHash := hcode.trans hhash
    refine ⟨⟨pairing, now, hmem, hcode, hchecked, hnow⟩, ?_⟩
    obtain ⟨-, u, pairing', user, session, token', now', htoken', hconfirms⟩ :=
      hlife.consumed hmem hcode
    obtain rfl : token = token' := by simpa [hpairing] using htoken'
    have hconfirmed : (u, .confirmed pairing' user session token now') ∈
        log.filter (confirms codeHash) := by rw [hconfirms]; simp
    obtain ⟨hmem', hcode'⟩ := List.mem_filter.1 hconfirmed
    have hby : Pairing.By hashing (requests u) (.confirmed pairing' user session token now') :=
      (hlog.of_change hmem').1
    cases hrequest : requests u with
    | start rawCode' => rw [hrequest] at hby; cases hby
    | poll rawCode' => rw [hrequest] at hby; cases hby
    | confirm rawCode' user' =>
        rw [hrequest] at hby
        cases hby with
        | confirm _ hnow' huser hsub hsid =>
            exact ⟨u, rawCode', user, pairing', session, now', hrequest, hmem',
              of_decide_eq_true hcode', huser, hsub, hsid, hnow'⟩

/-- A television, a phone that confirms its code, a poll, and a second phone. -/
def Desk.pairings : Tid → PairingRequest
  | 0 => .start "code"
  | 2 => .poll "code"
  | _ => .confirm "code" Desk.user

/-- Code, session and token of the first phone. -/
theorem code_delivered : ∃ xs q log,
    Pool.Trace commits .any
      (startPairings Desk.hashing .default 10 Desk.db ⟨99, 2⟩ Desk.pairings) xs q ∧
      polled q 2 = some ⟨1, "user", 2, some 0, 99 + minutes 60⟩ ∧
      History (pairingChanges Desk.hashing Desk.pairings) Desk.db xs log q.store.db ∧
      DeliversOnce Desk.hashing Desk.pairings "code" log q := by
  obtain ⟨xs, q, htrace, hpolled⟩ := Pool.exists_trace_of_observe
    (f := fun r : _ × Pool => decide (polled r.2 2 = some ⟨1, "user", 2, some 0, 99 + minutes 60⟩))
    (show (Pool.observe commits .any
      (startPairings Desk.hashing .default 10 Desk.db ⟨99, 2⟩ Desk.pairings)
      (Desk.runs 0 5 ++ Desk.runs 1 20 ++ Desk.runs 2 9)).any _ = true by decide)
  obtain ⟨log, hlog, -, -, honce⟩ := pairing_delivers_once Desk.hashing .default 10 Desk.db ⟨99, 2⟩
    Desk.pairings "code" (fun pairing hpairing => by cases hpairing) htrace
  exact ⟨xs, q, log, htrace, of_decide_eq_true hpolled, hlog, honce⟩

/-- A second phone gets an error, and the code stays confirmed with the session of the
first one.  And a poll that found the code in time returns after the code has lapsed. -/
theorem second_phone_and_late_poll :
    (∃ q, Pool.Run .any
      (startPairings Desk.hashing .default 10 Desk.db ⟨99, 2⟩ Desk.pairings) q ∧
        raised q 3 = true ∧
        (q.store.db.pairingCode? "code").map (·.status) = some .confirmed ∧
        (q.store.db.session? 2).isSome = true) ∧
    ∃ q, Pool.Run .any
      (startPairings Desk.hashing .default 10 Desk.db ⟨99, 2⟩ Desk.pairings) q ∧
        (polled q 2).isSome = true ∧
        (q.store.db.pairingCode? "code").any (fun pairing =>
          decide (pairing.expiresAt < q.store.world.now)) = true := by
  constructor
  · obtain ⟨q, hrun, hq⟩ := Pool.exists_run_of_play
      (f := fun q : Pool => raised q 3 &&
        decide ((q.store.db.pairingCode? "code").map (·.status) = some .confirmed ∧
          (q.store.db.session? 2).isSome = true))
      (show (Pool.play .any
        (startPairings Desk.hashing .default 10 Desk.db ⟨99, 2⟩ Desk.pairings)
        (Desk.runs 0 5 ++ Desk.runs 1 20 ++ Desk.runs 3 6)).any _ = true by decide)
    rw [Bool.and_eq_true, decide_eq_true_eq] at hq
    exact ⟨q, hrun, hq.1, hq.2⟩
  · obtain ⟨q, hrun, hq⟩ := Pool.exists_run_of_play
      (f := fun q : Pool => (polled q 2).isSome && (q.store.db.pairingCode? "code").any
        fun pairing => decide (pairing.expiresAt < q.store.world.now))
      (show (Pool.play .any
        (startPairings Desk.hashing .default 10 Desk.db ⟨99, 2⟩ Desk.pairings)
        (Desk.runs 0 5 ++ Desk.runs 1 20 ++ Desk.runs 2 5 ++ [.outside ⟨600000100, 3⟩] ++
          Desk.runs 2 4)).any _ = true by decide)
    exact ⟨q, hrun, (Bool.and_eq_true_iff.1 hq).1, (Bool.and_eq_true_iff.1 hq).2⟩

end MovieApi.Accounts.Concurrent
