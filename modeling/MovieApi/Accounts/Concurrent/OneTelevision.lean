import MovieApi.Accounts.TvEmails
import MovieApi.Accounts.Concurrent.TvLogin

/-!
# One television for each code

While no session is committed that another call has not seen when it revoked the
sessions of the user, at most one session of the user is live once a call has
revoked, and it is none of those from before.
-/

namespace MovieApi.Accounts.Concurrent

open ReadCommitted ReadCommitted.Prog Sql

variable {userId : Uuid} {olds : List Uuid} {codes : List TvAccessCode} {d d' : Db} {id : Uuid}
  {t : Tid} {settings : Settings} {letters : Letters}

/-! ## The contract -/

/-- At most one session of the user is live, and it is none of the old ones. -/
structure OneNew (userId : Uuid) (olds : List Uuid) (d : Db) : Prop where
  unique : ∀ {id id'}, Live userId id d → Live userId id' d → id = id'
  new : ∀ {id}, Live userId id d → id ∉ olds

theorem OneNew.shrink (h : OneNew userId olds d)
    (hlive : ∀ id, Live userId id d' → Live userId id d) : OneNew userId olds d' :=
  ⟨fun hid hid' => h.unique (hlive _ hid) (hlive _ hid'), fun hid => h.new (hlive _ hid)⟩

theorem OneNew.of_none (h : ∀ id, ¬ Live userId id d) : OneNew userId olds d :=
  ⟨fun hid => absurd hid (h _), fun hid => absurd hid (h _)⟩

/-- Either nobody has revoked yet and only old sessions are live, or one new one is. -/
structure TvSessions (userId : Uuid) (olds : List Uuid) (codes : List TvAccessCode) (d : Db) :
    Prop where
  codes : d.tvAccessCodes = codes
  kept : ∀ id ∈ olds, (d.session? id).isSome = true
  live : (∀ id, Live userId id d → id ∈ olds) ∨ OneNew userId olds d

/-- Sessions stay, and none comes back to life. -/
structure NoRevival (userId : Uuid) (olds : List Uuid) (d d' : Db) : Prop where
  kept : ∀ id, (d.session? id).isSome = true → (d'.session? id).isSome = true
  live : ∀ id, (d.session? id).isSome = true → Live userId id d' → Live userId id d
  one : OneNew userId olds d → OneNew userId olds d'

theorem NoRevival.refl (d : Db) : NoRevival userId olds d d :=
  ⟨fun _ => id, fun _ _ => id, id⟩

theorem NoRevival.trans {d'' : Db} (h : NoRevival userId olds d d')
    (h' : NoRevival userId olds d' d'') : NoRevival userId olds d d'' :=
  ⟨fun id hid => h'.kept id (h.kept id hid),
    fun id hid hlive => h.live id hid (h'.live id (h.kept id hid) hlive),
    fun hone => h'.one (h.one hone)⟩

def tvContract (userId : Uuid) (olds : List Uuid) (codes : List TvAccessCode) : Contract where
  Inv s := TvSessions userId olds codes s.db
  Obl t _ c s :=
    match c with
    | .commit => NoRevival userId olds s.db (s.view t) ∧ TvSessions userId olds codes (s.view t)
    | _ => True
  Rely s s' := NoRevival userId olds s.db s'.db
  rely_refl s := .refl s.db
  rely_trans h h' := h.trans h'
  Allows t _ c s := notOvertaken.stmt t c s = true

theorem tvContract_easy : (tvContract userId olds codes).Easy fun _ => True := by
  intro β c hc t s
  cases c <;> first | exact hc.elim | trivial

theorem tvContract_sound : (tvContract userId olds codes).Sound notOvertaken := by
  refine .of_steps ?_ ?_ ?_ ?_ (fun _ _ => trivial) (fun _ _ _ _ _ _ => trivial) id
  · intro t s s' hq hinv
    show TvSessions userId olds codes s'.db ∧ NoRevival userId olds s.db s'.db
    rw [hq.db]
    exact ⟨hinv, .refl s.db⟩
  · intro t w s _ hinv _ _ _
    exact ⟨hinv, .refl s.db⟩
  · intro t s _ _ hobl _ _
    exact ⟨hobl.2, hobl.1⟩
  · intro t s hinv
    exact ⟨hinv, .refl s.db⟩

/-! ## Commits -/

/-- A transaction that only renews and revokes. -/
theorem renews_commit {s : Store} (hws : ∀ w ∈ s.writes t, w.Renews)
    (hinv : TvSessions userId olds codes s.db) :
    NoRevival userId olds s.db (s.view t) ∧ TvSessions userId olds codes (s.view t) := by
  have hrenews (id : Uuid) : ((s.view t).session? id).isSome = (s.db.session? id).isSome ∧
      (Live userId id (s.view t) ↔
        Live userId id s.db ∧ ∀ now, .revokeSession id now ∉ s.writes t) :=
    renews_applyAll hws s.db id
  have hview (id : Uuid) : ((s.view t).session? id).isSome = (s.db.session? id).isSome :=
    (hrenews id).1
  have hlive (id : Uuid) (h : Live userId id (s.view t)) : Live userId id s.db :=
    ((hrenews id).2.1 h).1
  refine ⟨⟨fun id hid => (hview id).trans hid, fun id _ => hlive id, fun h => h.shrink hlive⟩, ?_⟩
  refine ⟨(tvAccessCodes_applyAll _ _).trans hinv.codes, fun id hid => ?_, ?_⟩
  · exact (hview id).trans (hinv.kept id hid)
  · exact hinv.live.imp (fun hold id hid => hold id (hlive id hid)) fun hone => hone.shrink hlive

theorem renews_part {α : Type} {p : Prog α} (hp : p.Every (Stmt.Inside Write.Renews)) :
    Triple (tvContract userId olds codes) t (fun s => ∀ w ∈ s.writes t, w.Renews) p
      (fun _ s => ∀ w ∈ s.writes t, w.Renews) fun _ _ => True :=
  inside tvContract_easy (.writesIn _) hp

theorem commit_renews {R : Fault → Store → Prop} :
    Triple (tvContract userId olds codes) t (fun s => ∀ w ∈ s.writes t, w.Renews) .commit
      (fun _ s => s.writes t = []) R := by
  refine .commit (Carried.writesIn _).stable fun s hc hs => ⟨fun _ => ?_, fun _ => ⟨?_, ?_⟩⟩
  · simp [Store.finish]
  · exact renews_commit hs hc.inv
  · simp [Store.finish, Store.publish]

theorem renewTvSubscription_inside (user : Uuid) (expiresAt : Instant) :
    (renewTvSubscription user expiresAt).Every (Stmt.Inside Write.Renews) := by
  refine .bind (.perform trivial) fun found => ?_
  split
  · refine .bind (.perform trivial) fun _ => .bind (.perform trivial) fun found' => ?_
    split
    · exact .perform (.renew user expiresAt)
    · trivial
  · trivial

/-! ## Revoking -/

/-- The session exists and is revoked, or its revocation is written. -/
def Done (userId : Uuid) (t : Tid) (id : Uuid) (s : Store) : Prop :=
  (s.db.session? id).isSome = true ∧
    (¬ Live userId id s.db ∨ ∃ now, .revokeSession id now ∈ s.writes t)

/-- The update has found the sessions to revoke, and is through with some. -/
structure Revoking (userId : Uuid) (olds : List Uuid) (t : Tid) (found done : List Uuid)
    (s : Store) : Prop where
  writes : ∀ w ∈ s.writes t, w.Renews
  healthy : s.doomed t = false
  noted : (s.info t).found = found
  present : ∀ id ∈ olds, (s.db.session? id).isSome = true
  complete : ∀ id ∈ olds, Live userId id s.db → id ∈ found
  kept : ∀ id ∈ found, (s.db.session? id).isSome = true
  done : ∀ id ∈ done, Done userId t id s

theorem Revoking.same {found done : List Uuid} {s s' : Store}
    (h : Revoking userId olds t found done s) (hdb : s'.db = s.db) (hwrites : s'.writes = s.writes)
    (hdoomed : s'.doomed = s.doomed) (hinfo : s'.info = s.info) :
    Revoking userId olds t found done s' := by
  have hdone : ∀ id ∈ done, Done userId t id s' := by
    intro id hid
    unfold Done
    rw [hdb, hwrites]
    exact h.done id hid
  constructor
  · rw [hwrites]
    exact h.writes
  · rw [hdoomed]
    exact h.healthy
  · rw [hinfo]
    exact h.noted
  · rw [hdb]
    exact h.present
  · rw [hdb]
    exact h.complete
  · rw [hdb]
    exact h.kept
  · exact hdone

/-- Every session that was found is revoked, and at most one new one is live. -/
structure Cleared (userId : Uuid) (olds : List Uuid) (t : Tid) (s : Store) : Prop where
  one : OneNew userId olds s.db
  gone : ∀ id ∈ (s.info t).found, (s.db.session? id).isSome = true ∧ ¬ Live userId id s.db

theorem done_stable (id : Uuid) :
    Stable (tvContract userId olds codes) t (Done userId t id) := by
  refine ⟨fun {s s'} hb hs => ?_⟩
  have hrely : NoRevival userId olds s.db s'.db := hb.rely
  refine ⟨hrely.kept id hs.1, ?_⟩
  rw [hb.writes]
  exact hs.2.imp_left fun hdead hlive => hdead (hrely.live id hs.1 hlive)

theorem revoking_stable (found done : List Uuid) :
    Stable (tvContract userId olds codes) t (Revoking userId olds t found done) := by
  refine ⟨fun {s s'} hb hs => ?_⟩
  have hrely : NoRevival userId olds s.db s'.db := hb.rely
  constructor
  · rw [hb.writes]
    exact hs.writes
  · exact hb.doomed.trans hs.healthy
  · rw [hb.info]
    exact hs.noted
  · exact fun id hid => hrely.kept id (hs.present id hid)
  · exact fun id hid hlive => hs.complete id hid (hrely.live id (hs.present id hid) hlive)
  · exact fun id hid => hrely.kept id (hs.kept id hid)
  · exact fun id hid => (done_stable id).keep hb (hs.done id hid)

theorem cleared_carried {N : Write → Prop} :
    Carried (tvContract userId olds codes) t N (Cleared userId olds t) where
  stable := by
    refine ⟨fun {s s'} hb hs => ?_⟩
    have hrely : NoRevival userId olds s.db s'.db := hb.rely
    refine ⟨hrely.one hs.one, ?_⟩
    rw [hb.info]
    intro id hid
    have hgone := hs.gone id hid
    exact ⟨hrely.kept id hgone.1, fun hlive => hgone.2 (hrely.live id hgone.1 hlive)⟩
  quiet hq _ hinfo hs := by
    refine ⟨hq.db ▸ hs.one, ?_⟩
    rw [hinfo, hq.db]
    exact hs.gone
  write _ _ _ _ hs _ := ⟨hs.one, hs.gone⟩

/-- A session that the update does not find live any more is dead or being revoked. -/
theorem done_of_not_live {s : Store} (hws : ∀ w ∈ s.writes t, w.Renews)
    (hkept : (s.db.session? id).isSome = true) (hdead : ¬ Live userId id (s.view t)) :
    Done userId t id s := by
  refine ⟨hkept, ?_⟩
  by_cases hlive : Live userId id s.db
  · right
    by_contra hnone
    exact hdead ((renews_applyAll hws s.db id).2.2 ⟨hlive, fun now hmem => hnone ⟨now, hmem⟩⟩)
  · exact .inl hlive

theorem revokeFound_part {found done : List Uuid} (now : Instant) (hid : id ∈ found) :
    Triple (tvContract userId olds codes) t (Revoking userId olds t found done)
      (revokeFound userId now id) (fun _ => Revoking userId olds t found (id :: done))
      fun _ _ => True := by
  have hdone {s : Store} (hs : Revoking userId olds t found done s) (h : Done userId t id s) :
      Revoking userId olds t found (id :: done) s := by
    refine { hs with done := fun id' hid' => ?_ }
    rcases List.mem_cons.1 hid' with rfl | hold
    · exact h
    · exact hs.done id' hold
  refine .bind (.lock (Q := fun _ => Revoking userId olds t found done) (revoking_stable _ _)
    fun s _ hs _ => ⟨trivial, fun _ => hs.same rfl rfl rfl rfl⟩) fun _ => ?_
  refine .bind (.select (Q := fun row? s => Revoking userId olds t found done s ∧
    (row?.filter (unrevokedOf userId) = none → Done userId t id s)) (revoking_stable _ _)
    fun s _ hs _ => ⟨trivial, hs.same rfl rfl rfl rfl, fun hnone => ?_⟩) fun row? => ?_
  · refine done_of_not_live hs.writes (hs.kept id hid) fun hlive => ?_
    obtain ⟨row, hrow, hunrevoked⟩ := hlive
    rw [show (s.view t).session? id = some row from hrow, Option.filter_some, if_pos hunrevoked] at hnone
    simp at hnone
  · cases hfilter : row?.filter (unrevokedOf userId) with
    | none => exact .ret fun s hs => hdone hs.1 (hs.2 rfl)
    | some row =>
        refine .pre (.write (revoking_stable found done) fun s _ hs _ => ⟨trivial, fun _ => ?_⟩)
          fun s hs => hs.1
        have hwrote (w : Write) : w ∈ (s.wrote t (.revokeSession id now)).writes t ↔
            w ∈ s.writes t ∨ w = .revokeSession id now := by
          unfold Store.wrote
          rw [Store.mem_record_writes]
          simp [Store.acquire]
        refine hdone ⟨fun w hw => ?_, hs.healthy, hs.noted, hs.present, hs.complete, hs.kept,
          fun id' hid' => ?_⟩ ⟨hs.kept id hid, .inr ⟨now, (hwrote _).2 (.inr rfl)⟩⟩
        · rcases (hwrote w).1 hw with hold | rfl
          · exact hs.writes w hold
          · exact .revoke id now
        · obtain ⟨hkept, hdead⟩ := hs.done id' hid'
          refine ⟨hkept, hdead.imp_right fun hnow => ?_⟩
          obtain ⟨now', hmem⟩ := hnow
          exact ⟨now', (hwrote _).2 (.inl hmem)⟩

theorem forEach_revokeFound {found : List Uuid} (now : Instant) (rest done : List Uuid)
    (hrest : ∀ id ∈ rest, id ∈ found) :
    Triple (tvContract userId olds codes) t (Revoking userId olds t found done)
      (forEach rest (revokeFound userId now))
      (fun _ s => Revoking userId olds t found done s ∧ ∀ id ∈ rest, Done userId t id s)
      fun _ _ => True := by
  induction rest generalizing done with
  | nil => exact .ret fun s hs => ⟨hs, by simp⟩
  | cons id rest ih =>
      refine .bind (revokeFound_part now (hrest id (by simp))) fun _ => ?_
      refine .post (ih (id :: done) fun id' hid' => hrest id' (by simp [hid'])) fun _ s hs => ?_
      obtain ⟨hrevoking, hdone⟩ := hs
      refine ⟨{ hrevoking with done := fun id' hid' => hrevoking.done id' (by simp [hid']) }, ?_⟩
      intro id' hid'
      rcases List.mem_cons.1 hid' with rfl | hin
      · exact hrevoking.done id' (by simp)
      · exact hdone id' hin

/-- When the revocation commits, no session that was there before is live. -/
theorem Revoking.cleared {found : List Uuid} {s : Store}
    (hs : Revoking userId olds t found [] s) (hdone : ∀ id ∈ found, Done userId t id s)
    (hinv : TvSessions userId olds codes s.db) :
    Cleared userId olds t ((s.publish t).finish t) := by
  have hdead (id : Uuid) (hid : id ∈ found) : ¬ Live userId id (s.view t) := by
    intro hlive
    obtain ⟨hbefore, hnot⟩ := (renews_applyAll hs.writes s.db id).2.1 hlive
    obtain ⟨-, hdead | hrevoked⟩ := hdone id hid
    · exact hdead hbefore
    · obtain ⟨now, hmem⟩ := hrevoked
      exact hnot now hmem
  constructor
  · show OneNew userId olds (s.view t)
    rcases hinv.live with hold | hone
    · refine .of_none fun id hlive => ?_
      have hbefore := ((renews_applyAll hs.writes s.db id).2.1 hlive).1
      exact hdead id (hs.complete id (hold id hbefore) hbefore) hlive
    · exact hone.shrink fun id hlive => ((renews_applyAll hs.writes s.db id).2.1 hlive).1
  · intro id hid
    have hid : id ∈ found := by
      have hnoted : (s.info t).found = found := hs.noted
      rw [← hnoted]
      exact hid
    have hrenews : ((s.view t).session? id).isSome = (s.db.session? id).isSome ∧
        (Live userId id (s.view t) ↔ _) := renews_applyAll hs.writes s.db id
    exact ⟨hrenews.1.trans (hs.kept id hid), hdead id hid⟩

theorem revokeAllSessions_part :
    Triple (tvContract userId olds codes) t (fun s => s.writes t = [])
      (revokeAllSessions userId)
      (fun _ s => s.writes t = [] ∧ Cleared userId olds t s) fun _ _ => True := by
  refine .bind (inside tvContract_easy (.writes []) (.perform trivial)) fun now => ?_
  -- the sessions the update finds
  let Found (found : List Uuid) (s : Store) : Prop :=
    Revoking userId olds t found [] { s with
      info := Function.update s.info t { s.info t with found := found } }
  have hfound (found : List Uuid) : Stable (tvContract userId olds codes) t (Found found) := by
    refine ⟨fun {s s'} hb hs => ?_⟩
    have hrely : NoRevival userId olds s.db s'.db := hb.rely
    refine ⟨?_, hb.doomed.trans hs.healthy, by simp, ?_, ?_, ?_, by simp⟩
    · show ∀ w ∈ s'.writes t, w.Renews
      rw [hb.writes]
      exact hs.writes
    · exact fun id hid => hrely.kept id (hs.present id hid)
    · exact fun id hid hlive => hs.complete id hid (hrely.live id (hs.present id hid) hlive)
    · exact fun id hid => hrely.kept id (hs.kept id hid)
  refine .bind (.select (Q := Found) (Carried.writes []).stable fun s hc hs hd =>
    ⟨trivial, ?_⟩) fun found => ?_
  · have hview : s.view t = s.db := by rw [view_of_writes hs, applyAll_nil]
    rw [hview]
    refine ⟨?_, hd, by simp, hc.inv.kept, fun id _ hlive => mem_found_of_live hlive, ?_, by simp⟩
    · show ∀ w ∈ s.writes t, w.Renews
      rw [hs]
      simp
    · intro id hid
      obtain ⟨row, hrow, rfl⟩ := List.mem_map.1 hid
      exact lookup_isSome_of_mem (List.mem_filter.1 hrow).1
  · refine .bind (.session (Q := fun _ => Revoking userId olds t found []) (hfound found)
      fun s _ hs => ⟨fun _ => trivial, hs⟩) fun _ => ?_
    refine .bind (forEach_revokeFound now found [] fun _ => id) fun _ => ?_
    have hstable : Stable (tvContract userId olds codes) t fun s =>
        Revoking userId olds t found [] s ∧ ∀ id ∈ found, Done userId t id s :=
      (revoking_stable found []).and
        ⟨fun hb hs id hid => (done_stable id).keep hb (hs id hid)⟩
    refine .commit hstable fun s hc hs => ⟨fun hd => ?_, fun _ => ⟨?_, ?_, ?_⟩⟩
    · rw [hs.1.healthy] at hd
      simp at hd
    · exact renews_commit hs.1.writes hc.inv
    · simp [Store.finish, Store.publish]
    · exact hs.1.cleared hs.2 hc.inv

/-! ## Starting the session -/

/-- The new session is the only live one where every live session had been found. -/
theorem oneNew_insert {row : Session} (hfresh : d.session? row.id = none)
    (hkept : ∀ id ∈ olds, (d.session? id).isSome = true) (hdead : ∀ id, ¬ Live userId id d) :
    OneNew userId olds ((Write.insertSession row).apply d) := by
  have honly (id : Uuid) (h : Live userId id ((Write.insertSession row).apply d)) :
      id = row.id := by
    obtain ⟨row', hrow', hlive⟩ := h
    rw [Write.session?_apply] at hrow'
    cases hold : d.session? id with
    | none =>
        by_contra hne
        simp [Write.onSession, hold, Ne.symm hne] at hrow'
    | some old =>
        have hsame : old = row' := by simpa [Write.onSession, hold] using hrow'
        exact absurd ⟨old, hold, hsame ▸ hlive⟩ (hdead id)
  refine ⟨fun {id id'} hid hid' => (honly id hid).trans (honly id' hid').symm,
    fun {id} hid hold => ?_⟩
  have hsome := hkept id hold
  rw [honly id hid, hfresh] at hsome
  simp at hsome

theorem session?_insert_isSome {row : Session} (h : (d.session? id).isSome = true) :
    ((Write.insertSession row).apply d).session? id = d.session? id := by
  rw [Write.session?_apply]
  obtain ⟨old, hold⟩ := Option.isSome_iff_exists.1 h
  simp [Write.onSession, hold]

theorem commit_newSession {row : Session} (huser : row.userId = userId) {R : Fault → Store → Prop} :
    Triple (tvContract userId olds codes) t
      (fun s => Adding t row s ∧ Cleared userId olds t s) (.perform .commit)
      (fun _ s => OneNew userId olds s.db) R := by
  refine .performAllowed ((adding_stable row).and (cleared_carried (N := fun _ => False)).stable)
    fun s hc hallow hs => ?_
  obtain ⟨hadding, hcleared⟩ := hs
  have hview : s.view t = (Write.insertSession row).apply s.db := by
    rw [view_of_writes hadding.writes]
    rfl
  have hdead : ∀ id, ¬ Live userId id s.db := by
    intro id hlive
    obtain ⟨old, hold, hunrevoked⟩ := hlive
    have hid : old.id = id := key_of_lookup hold
    have hfound : (s.info t).found.contains old.id = true := by
      have hall := List.all_eq_true.1 (show ((s.writes t).all fun w => _) = true from hallow)
        (.insertSession row) (by rw [hadding.writes]; simp)
      simpa [huser, hunrevoked] using List.all_eq_true.1 hall old (mem_of_lookup hold)
    have hmem : id ∈ (s.info t).found := by simpa [hid] using hfound
    exact (hcleared.gone id hmem).2 ⟨old, hold, hunrevoked⟩
  have hone : OneNew userId olds (s.view t) := by
    rw [hview]
    exact oneNew_insert hadding.fresh hc.inv.kept hdead
  have hsame (id : Uuid) (hid : (s.db.session? id).isSome = true) :
      (s.view t).session? id = s.db.session? id := by
    rw [hview]
    exact session?_insert_isSome hid
  refine ⟨fun _ => ⟨⟨fun id hid => by rw [hsame id hid]; exact hid, fun id hid hlive => ?_,
    fun _ => hone⟩, ?_⟩, fun a s' hexec => ?_⟩
  · obtain ⟨old, hold, hunrevoked⟩ := hlive
    exact ⟨old, (hsame id hid).symm.trans hold, hunrevoked⟩
  · refine ⟨(tvAccessCodes_applyAll _ _).trans hc.inv.codes, fun id hid => ?_, .inr hone⟩
    rw [hsame id (hc.inv.kept id hid)]
    exact hc.inv.kept id hid
  · simp only [Stmt.exec] at hexec
    split at hexec <;> simp only [Option.some.injEq, Prod.mk.injEq] at hexec <;> rw [← hexec.2]
    · exact hcleared.one
    · exact hone

theorem createSession_cleared :
    Triple (tvContract userId olds codes) t
      (fun s => s.writes t = [] ∧ Cleared userId olds t s) (createSession settings userId)
      (fun row s => row.userId = userId ∧ Adding t row s ∧ Cleared userId olds t s)
      fun _ _ => True := by
  have hbefore : Carried (tvContract userId olds codes) t (fun _ => False) fun s =>
      s.writes t = [] ∧ Cleared userId olds t s := .and (.writes []) cleared_carried
  refine .post (createSession_adding tvContract_easy settings userId
    (L := Cleared userId olds t) (P := Cleared userId olds t) ?_ ?_ cleared_carried)
    fun row s hs => ⟨hs.1.1, hs.2⟩
  · exact (lockUser_holds tvContract_easy hbefore userId).post fun _ _ hs _ => hs.1
  · exact (inside tvContract_easy hbefore (countActiveSessions_inside userId)).post
      fun _ _ hs _ => hs

/-! ## Signing in -/

theorem loginWithTvAccessCode_part {rawCode : String} {row : TvAccessCode}
    (hcode : codes.find? (fun row => decide (row.code = lookedUp letters rawCode)) = some row) :
    Triple (tvContract row.userId olds codes) t (fun s => s.writes t = [])
      (loginWithTvAccessCode letters settings rawCode)
      (fun _ s => OneNew row.userId olds s.db) fun _ _ => True := by
  refine .bind (.select (Q := fun found s => found = some row ∧ s.writes t = [])
    (Carried.writes []).stable fun s hc hs _ => ⟨trivial, ?_, hs⟩) fun found => ?_
  · rw [view_of_writes hs, applyAll_nil, hc.inv.codes]
    exact hcode
  · refine .given (φ := found = some row) (fun s hs => hs.1) fun hfound => ?_
    refine .pre (P := fun s => s.writes t = []) ?_ fun s hs => hs.2
    subst hfound
    cases hactive : (some row).filter TvAccessCode.isActive with
    | none => exact .raise fun _ _ => trivial
    | some row' =>
        obtain rfl : row' = row :=
          (Option.some.inj (Option.filter_eq_some_iff.1 hactive).1).symm
        refine .bind (inside tvContract_easy (.writes []) (.perform trivial)) fun now => ?_
        split
        · exact .raise fun _ _ => trivial
        · refine .bind (.select (Q := fun user? s =>
              (∀ user, user? = some user → user.id = row'.userId) ∧ s.writes t = [])
            (Carried.writes []).stable fun s _ hs _ =>
              ⟨trivial, fun user huser => ?_, hs⟩) fun user? => ?_
          · have hid : user.id = row'.userId := key_of_lookup huser
            exact hid
          refine .given (fun s hs => hs.1) fun huser => ?_
          refine .pre (P := fun s => s.writes t = []) ?_ fun s hs => hs.2
          cases hfilter : user?.filter User.isActive with
          | none => exact .raise fun _ _ => trivial
          | some user =>
              have hid : user.id = row'.userId :=
                huser user (Option.filter_eq_some_iff.1 hfilter).1
              dsimp only
              rw [hid]
              refine .bind (.pre (renews_part (renewTvSubscription_inside _ _)) fun s hs => ?_)
                fun _ => .bind commit_renews fun _ => .bind revokeAllSessions_part fun _ =>
                .bind createSession_cleared fun session => ?_
              · simp [hs]
              · refine .given (fun s hs => hs.1) fun hsession => ?_
                refine .bind (.pre (commit_newSession hsession) fun s hs => hs.2) fun _ => ?_
                have hone : Stable (tvContract row'.userId olds codes) t fun s =>
                    OneNew row'.userId olds s.db :=
                  ⟨fun {s s'} hb hs => NoRevival.one hb.rely hs⟩
                exact .bind (.sense (Q := fun _ s => OneNew row'.userId olds s.db) hone
                  fun s _ hs => ⟨fun _ => trivial, hs⟩) fun _ => .ret fun _ hs => hs

/-- However the sign-ins with a code interleave: when none of them commits its session
while a live one is there that it has not found, then once a call has returned at
most one session of the code's user is unrevoked, and it is one of theirs. -/
theorem one_television (letters : Letters) (settings : Settings) (rawCode : String) (d : Db)
    (world : World) {row : TvAccessCode}
    (hcode : d.tvAccessCodes.find? (fun row => decide (row.code = lookedUp letters rawCode)) =
      some row) {q : Pool}
    (h : Pool.Run notOvertaken (startTvLogins letters settings rawCode d world) q) {t : Tid}
    (hreturned : q.progs t = .ret ()) :
    (∀ id id', Live row.userId id q.store.db → Live row.userId id' q.store.db → id = id') ∧
      ∀ id, Live row.userId id q.store.db → d.session? id = none := by
  have hone (u : Tid) : Stable (tvContract row.userId (d.sessions.map Session.id) d.tvAccessCodes) u
      fun s => OneNew row.userId (d.sessions.map Session.id) s.db :=
    ⟨fun {s s'} hb hs => NoRevival.one hb.rely hs⟩
  have hinv : TvSessions row.userId (d.sessions.map Session.id) d.tvAccessCodes d := by
    refine ⟨rfl, fun id hid => ?_, .inl fun id hlive => ?_⟩
    · obtain ⟨old, hold, rfl⟩ := List.mem_map.1 hid
      exact lookup_isSome_of_mem hold
    · obtain ⟨old, hold, rfl⟩ := List.mem_map.1 (mem_found_of_live hlive)
      exact List.mem_map.2 ⟨old, (List.mem_filter.1 hold).1, rfl⟩
  have hstart : Pool.Keeps (tvContract row.userId (d.sessions.map Session.id) d.tvAccessCodes)
      (fun _ s => OneNew row.userId (d.sessions.map Session.id) s.db)
      (fun u _ s => s.doomed u = true ∨ True) (startTvLogins letters settings rawCode d world) :=
    Pool.Keeps.start hinv fun u =>
      (closing_triple (loginWithTvAccessCode_part hcode) (hone u) (fun _ hs => hs)
        fun _ => trivial).pre fun s hs => by
          rw [hs]
          rfl
  have hmeets := ((hstart.run tvContract_sound hone
    (fun u _ => .or (.doomed true) (.pure True)) h).1).meets t
  rw [hreturned] at hmeets
  have hend : OneNew row.userId (d.sessions.map Session.id) q.store.db := hmeets
  refine ⟨fun id id' hid hid' => hend.unique hid hid', fun id hid => ?_⟩
  rw [Db.session?, lookup_eq_none]
  intro old hold heq
  exact hend.new hid (List.mem_map.2 ⟨old, hold, heq⟩)

/-! ## Two logins -/

namespace Desk

def tvUser : User :=
  ⟨1, "tv+box1@tv.reeltime.local", some "hash", none, some "TV BOX1", "user", true⟩

/-- A code whose user is signed in on one television. -/
def tvDb : Db :=
  { users := [tvUser], sessions := [session], resetTokens := []
    subscriptions := [⟨1, tvPlan, "active", 0, 1000⟩]
    tvAccessCodes := [⟨1, "BOX1", none, 1, 1000, true⟩] }

def tvStart : Pool := startTvLogins asciiSite.toLetters .default "box1" tvDb ⟨50, 5⟩

end Desk

/-- A login alone takes the place of the session from before. -/
theorem login_takes_over : ∃ q, Pool.Run notOvertaken Desk.tvStart q ∧
    q.store.db.sessions.map Session.id = [1, 5] ∧
    (∀ id id', Live 1 id q.store.db → Live 1 id' q.store.db → id = id') ∧
      ∀ id, Live 1 id q.store.db → Desk.tvDb.session? id = none := by
  obtain ⟨q, hrun, hq⟩ := Pool.exists_run_of_play
    (f := fun q : Pool => Desk.returned q 0 &&
      decide (q.store.db.sessions.map Session.id = [1, 5]))
    (show (Pool.play notOvertaken Desk.tvStart (Desk.runs 0 29)).any _ = true by decide +kernel)
  rw [Bool.and_eq_true] at hq
  have hcode : Desk.tvDb.tvAccessCodes.find? (fun row =>
      decide (row.code = lookedUp asciiSite.toLetters "box1")) =
      some ⟨1, "BOX1", none, 1, 1000, true⟩ := by decide +kernel
  have hone := one_television asciiSite.toLetters .default "box1" Desk.tvDb ⟨50, 5⟩ hcode hrun
    (Desk.eq_ret_of_returned hq.1)
  exact ⟨q, hrun, of_decide_eq_true hq.2, hone⟩

/-- Both logins revoke before either starts its session: two televisions are signed in. -/
theorem two_televisions : ∃ q, Pool.Run .any Desk.tvStart q ∧
    q.progs 0 = .ret () ∧ q.progs 1 = .ret () ∧
    (q.store.db.sessions.filter fun row =>
      decide (row.userId = 1) && row.active q.store.world.now).map Session.id = [5, 6] := by
  obtain ⟨q, hrun, hq⟩ := Pool.exists_run_of_play
    (f := fun q : Pool => Desk.returned q 0 && (Desk.returned q 1 &&
      decide ((q.store.db.sessions.filter fun row =>
        decide (row.userId = 1) && row.active q.store.world.now).map Session.id = [5, 6])))
    (show (Pool.play .any Desk.tvStart
      (Desk.runs 0 15 ++ Desk.runs 1 12 ++ Desk.runs 0 14 ++ [.outside ⟨50, 6⟩] ++
        Desk.runs 1 14)).any _ = true by decide +kernel)
  rw [Bool.and_eq_true, Bool.and_eq_true] at hq
  exact ⟨q, hrun, Desk.eq_ret_of_returned hq.1, Desk.eq_ret_of_returned hq.2.1,
    of_decide_eq_true hq.2.2⟩

end MovieApi.Accounts.Concurrent
