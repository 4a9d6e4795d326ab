import MovieApi.Accounts.Concurrent.AccountDeletion
import MovieApi.Accounts.Concurrent.Conduct

/-!
# The order of locks on an account

A refresh locks its session and then the user; a reset has locked the user when it
goes through the sessions; a deletion locks sessions, links and the user in that
order.  They wait for each other in a cycle only when a session of a user is locked
for a refresh or a deletion while the user's password is being reset, or when two
deletions of one account overlap.
-/

namespace MovieApi.Accounts.Concurrent

open ReadCommitted Sql

/-- Whose session, or reset link, a key is.  A key is never used for two users. -/
structure Owners where
  session : Uuid → Uuid
  token : String → Uuid

variable {owners : Owners}

/-! ## What a transaction is about -/

/-- The user whose password the write's transaction resets. -/
def Write.resets (owners : Owners) : Write → Option Uuid
  | .useResetToken tokenHash _ => some (owners.token tokenHash)
  | _ => none

/-- The user whose rows the write's transaction deletes. -/
def Write.sweeps : Write → Option Uuid
  | .deleteSession userId _ => some userId
  | .deleteResetToken userId _ => some userId
  | _ => none

/-- A new row has the owner of its key. -/
def Write.Owned (owners : Owners) : Write → Prop
  | .insertSession row => owners.session row.id = row.userId
  | .insertResetToken row => owners.token row.tokenHash = row.userId
  | _ => True

/-- The owner of a row other than a user's own. -/
def Key.owner (owners : Owners) : Key → Option Uuid
  | .session id => some (owners.session id)
  | .resetToken tokenHash => some (owners.token tokenHash)
  | _ => none

def Resetting (owners : Owners) (s : Store) (t : Tid) (userId : Uuid) : Prop :=
  ∃ w ∈ s.writes t, w.resets owners = some userId

def Sweeping (s : Store) (t : Tid) (userId : Uuid) : Prop :=
  ∃ w ∈ s.writes t, w.sweeps = some userId

/-! ## The regime -/

/-- Another session has made a write of a kind and not committed it. -/
def elsewhere (s : Store) (t : Tid) (kind : Write → Bool) : Bool :=
  s.locks.any fun h => decide (h.tid ≠ t) && (s.writes h.tid).any kind

/-- Another session has locked a session of the user for a refresh or a deletion. -/
def sessionTaken (owners : Owners) (s : Store) (t : Tid) (userId : Uuid) : Bool :=
  s.locks.any fun h => decide (h.tid ≠ t ∧ h.mode = .update ∧ h.key.owner owners = some userId) &&
    match h.key with
    | .session _ => true
    | _ => false

/-- What a write may start: a reset while nobody refreshes or deletes a session of the
user or resets the password as well, a deletion while there is no other one of the
account. -/
def Write.free (owners : Owners) (s : Store) (t : Tid) (w : Write) : Bool :=
  (w.resets owners).all (fun userId => !sessionTaken owners s t userId &&
    !elsewhere s t fun w' => decide (w'.resets owners = some userId)) &&
  w.sweeps.all (fun userId => !elsewhere s t fun w' => decide (w'.sweeps = some userId)) &&
  match w with
  | .insertSession row => decide (owners.session row.id = row.userId)
  | .insertResetToken row => decide (owners.token row.tokenHash = row.userId)
  | _ => true

/-- A session row is locked for a refresh or a deletion only while the password of its
user is not being reset elsewhere. -/
def lockFree (owners : Owners) (s : Store) (t : Tid) : Key × LockMode → Bool
  | (.session id, .update) =>
      !elsewhere s t fun w => decide (w.resets owners = some (owners.session id))
  | _ => true

def apart (owners : Owners) : Regime where
  stmt t _ c s := c.wants.all (lockFree owners s t) &&
    match c with
    | .write w => w.free owners s t
    | _ => true
  outside _ _ := true

/-! ## The invariant -/

structure Apart (owners : Owners) (s : Store) : Prop where
  sessions : ∀ row ∈ s.db.sessions, owners.session row.id = row.userId
  tokens : ∀ row ∈ s.db.resetTokens, owners.token row.tokenHash = row.userId
  inserts : ∀ t, ∀ w ∈ s.writes t, w.Owned owners
  untaken : ∀ {t u id}, u ≠ t → Resetting owners s t (owners.session id) →
    ¬ s.Holds u (.session id) .update
  oneReset : ∀ {t u userId}, Resetting owners s t userId → Resetting owners s u userId → u = t
  oneSweep : ∀ {t u userId}, Sweeping s t userId → Sweeping s u userId → u = t

/-! ## Where a transaction waits -/

/-- No lock on a user, and sessions locked in the strongest mode only. -/
structure Low (t : Tid) (s : Store) : Prop where
  user : ∀ userId m, ¬ s.Holds t (.user userId) m
  session : ∀ id m, s.Holds t (.session id) m → m = .update

/-- What a session holds when it wants the lock of a row. -/
inductive Stands (owners : Owners) (t : Tid) (want : Key) (s : Store) : Prop
  | own : s.Holds t want .update → Stands owners t want s
  | bare : (∀ k m, ¬ s.Holds t k m) → Stands owners t want s
  | resetting (id : Uuid) : want = .session id → Resetting owners s t (owners.session id) →
      (∀ id' m, s.Holds t (.session id') m → owners.session id' = owners.session id) →
      Stands owners t want s
  | forUser (userId : Uuid) : want = .user userId → Low t s → Stands owners t want s
  | sweeping (userId : Uuid) : want.owner owners = some userId → Low t s →
      (∀ k m, s.Holds t k m → k.owner owners = some userId ∧ Sweeping s t userId) →
      Stands owners t want s

def orderContract (owners : Owners) : Contract where
  Inv := Apart owners
  Obl t _ c s := match c with
    | .tryLock _ _ => False
    | c => ∀ km ∈ c.rows, Stands owners t km.1 s
  Rely _ _ := True
  rely_refl _ := trivial
  rely_trans _ _ := trivial

/-! ## No cycle -/

/-- A key held by another session is not held in the strongest mode. -/
theorem not_own {q : Pool} {t u : Tid} {k : Key} (hdis : q.store.Disciplined)
    (hwaits : q.Waits t k u) : ¬ q.store.Holds t k .update := by
  obtain ⟨-, hne, -, c, next, m, -, -, m', hheld, -⟩ := hwaits
  intro hown
  have hfree := hdis.compatible (Ne.symm hne) hown hheld
  simp at hfree

/-- Where the sessions of a cycle stand. -/
structure OnCycle (owners : Owners) (q : Pool) (t : Tid) (k : Key) (u : Tid) : Prop where
  waits : q.Waits t k u
  stands : Stands owners t k q.store
  held : ∃ k' m, q.store.Holds t k' m
  cycle : Relation.TransGen (fun t u => q.waitsFor t u = true) u u

section

variable {q : Pool} (hdis : q.store.Disciplined) (hinv : Apart owners q.store)
  (hstands : ∀ {t k u}, q.Waits t k u → Stands owners t k q.store)
include hdis hstands

omit hdis in
/-- The next session of a cycle holds a lock and waits. -/
theorem OnCycle.next {t u : Tid} {k : Key} (h : OnCycle owners q t k u) :
    ∃ k' v, OnCycle owners q u k' v := by
  obtain ⟨k', v, hwaits, hcycle⟩ := Pool.exists_waits_of_cycle h.cycle
  obtain ⟨-, -, -, c, next, m, -, -, m', hheld, -⟩ := h.waits
  exact ⟨k', v, hwaits, hstands hwaits, ⟨k, m', hheld⟩, hcycle⟩

include hinv

/-- Nobody on a cycle goes through the sessions for a reset. -/
theorem OnCycle.not_resetting {t u : Tid} {id : Uuid} (h : OnCycle owners q t (.session id) u) :
    ¬ Resetting owners q.store t (owners.session id) := by
  intro hreset
  obtain ⟨k', v, hnext⟩ := h.next hstands
  obtain ⟨-, hne, -, c, next, m, -, -, m', hheld, hconflict⟩ := h.waits
  have hmode : m' ≠ .update := by
    rintro rfl
    exact hinv.untaken hne hreset hheld
  cases hnext.stands with
  | own hown => exact not_own hdis hnext.waits hown
  | bare hbare => exact hbare _ _ hheld
  | resetting id' _ hreset' howner =>
      have hsame : owners.session id = owners.session id' := howner id m' hheld
      rw [← hsame] at hreset'
      exact hne (hinv.oneReset hreset hreset')
  | forUser userId _ hlow => exact hmode (hlow.session id m' hheld)
  | sweeping userId _ hlow _ => exact hmode (hlow.session id m' hheld)

/-- Nobody on a cycle waits for a user. -/
theorem OnCycle.not_user {t u : Tid} {userId : Uuid} : ¬ OnCycle owners q t (.user userId) u := by
  intro h
  obtain ⟨k', v, hnext⟩ := h.next hstands
  obtain ⟨-, hne, -, c, next, m, -, -, m', hheld, hconflict⟩ := h.waits
  cases hnext.stands with
  | own hown => exact not_own hdis hnext.waits hown
  | bare hbare => exact hbare _ _ hheld
  | resetting id' hwant hreset _ =>
      subst hwant
      exact hnext.not_resetting hdis hinv hstands hreset
  | forUser _ _ hlow => exact hlow.user userId m' hheld
  | sweeping _ _ hlow _ => exact hlow.user userId m' hheld

/-- Whoever is on a cycle deletes an account, and waits for a row of that account. -/
theorem OnCycle.sweeps {t u : Tid} {k : Key} (h : OnCycle owners q t k u) :
    ∃ userId, k.owner owners = some userId ∧ Sweeping q.store t userId ∧
      ∀ k m, q.store.Holds t k m → k.owner owners = some userId := by
  obtain ⟨k', m', hheld⟩ := h.held
  cases h.stands with
  | own hown => exact absurd hown (not_own hdis h.waits)
  | bare hbare => exact absurd hheld (hbare k' m')
  | resetting id hwant hreset _ =>
      subst hwant
      exact absurd hreset (h.not_resetting hdis hinv hstands)
  | forUser userId hwant _ =>
      subst hwant
      exact (OnCycle.not_user hdis hinv hstands h).elim
  | sweeping userId hwant _ hsweep =>
      exact ⟨userId, hwant, (hsweep k' m' hheld).2, fun k m hk => (hsweep k m hk).1⟩

theorem not_deadlocked : ¬ q.Deadlocked := by
  rintro ⟨t, ht⟩
  -- the session after `t` holds a lock, and so does the one after that
  obtain ⟨k₀, t₁, hwaits₀, ht₁⟩ := Pool.exists_waits_of_cycle ht
  obtain ⟨k₁, t₂, hwaits₁, ht₂⟩ := Pool.exists_waits_of_cycle ht₁
  obtain ⟨-, -, -, _, _, _, -, -, m₀, hheld₀, -⟩ := hwaits₀
  have hon : OnCycle owners q t₁ k₁ t₂ := ⟨hwaits₁, hstands hwaits₁, ⟨k₀, m₀, hheld₀⟩, ht₂⟩
  obtain ⟨k₂, t₃, hnext⟩ := hon.next hstands
  obtain ⟨userId, howner, hsweep, -⟩ := hon.sweeps hdis hinv hstands
  obtain ⟨userId', -, hsweep', hrows⟩ := hnext.sweeps hdis hinv hstands
  obtain ⟨-, hne, -, _, _, _, -, -, m₁, hheld₁, -⟩ := hwaits₁
  have hsame : some userId' = some userId := (hrows k₁ m₁ hheld₁).symm.trans howner
  rw [Option.some.inj hsame] at hsweep'
  exact hne (hinv.oneSweep hsweep hsweep')

end

/-! ## Statements keep the invariant -/

section

variable {s s' : Store} {t u : Tid}

theorem Write.needs_ne_nil (w : Write) : w.needs ≠ [] := by
  cases w <;> simp [Write.needs]

theorem not_elsewhere {kind : Write → Bool} {w : Write} (hdis : s.Disciplined)
    (h : elsewhere s t kind = false) (hne : u ≠ t) (hw : w ∈ s.writes u) : kind w = false := by
  obtain ⟨km, hkm⟩ := List.exists_mem_of_ne_nil _ w.needs_ne_nil
  have hheld : s.Holds u km.1 km.2 := hdis.covered hw hkm
  simp only [elsewhere, List.any_eq_false, Bool.and_eq_true, decide_eq_true_eq, not_and,
    Bool.not_eq_true] at h
  exact h _ hheld hne w hw

theorem not_sessionTaken {id : Uuid} (h : sessionTaken owners s t (owners.session id) = false)
    (hne : u ≠ t) : ¬ s.Holds u (.session id) .update := by
  intro hheld
  simp only [sessionTaken, List.any_eq_false, Bool.and_eq_true, decide_eq_true_eq, not_and] at h
  exact h _ hheld ⟨hne, rfl, rfl⟩ rfl

/-- Less is left of locks and writes, and the data is the same. -/
theorem Apart.shrink (h : Apart owners s) (hdb : s'.db = s.db)
    (hwrites : ∀ u w, w ∈ s'.writes u → w ∈ s.writes u)
    (hlocks : ∀ u k m, s'.Holds u k m → s.Holds u k m) : Apart owners s' where
  sessions := hdb ▸ h.sessions
  tokens := hdb ▸ h.tokens
  inserts u w hw := h.inserts u w (hwrites u w hw)
  untaken := fun hne ⟨w, hw, hreset⟩ hheld =>
    h.untaken hne ⟨w, hwrites _ w hw, hreset⟩ (hlocks _ _ _ hheld)
  oneReset := fun ⟨w, hw, hreset⟩ ⟨w', hw', hreset'⟩ =>
    h.oneReset ⟨w, hwrites _ w hw, hreset⟩ ⟨w', hwrites _ w' hw', hreset'⟩
  oneSweep := fun ⟨w, hw, hsweep⟩ ⟨w', hw', hsweep'⟩ =>
    h.oneSweep ⟨w, hwrites _ w hw, hsweep⟩ ⟨w', hwrites _ w' hw', hsweep'⟩

theorem Apart.of_same (h : Apart owners s) (hdb : s'.db = s.db) (hwrites : s'.writes = s.writes)
    (hlocks : s'.locks = s.locks) : Apart owners s' :=
  h.shrink hdb (fun u w hw => hwrites ▸ hw) fun u k m hheld => by
    unfold Store.Holds at hheld ⊢
    rwa [hlocks] at hheld

/-- Locks are taken where nobody's reset is in the way. -/
theorem Apart.acquire (h : Apart owners s) (hdis : s.Disciplined) {ks : List (Key × LockMode)}
    (hfree : ∀ km ∈ ks, lockFree owners s t km = true) : Apart owners (s.acquire t ks) where
  sessions := h.sessions
  tokens := h.tokens
  inserts := h.inserts
  untaken {t' u' id} hne hreset hheld := by
    rcases Store.holds_acquire.1 hheld with ⟨rfl, hnew⟩ | hold
    · obtain ⟨w, hw, hresets⟩ := hreset
      have hlock := hfree _ hnew
      simp only [lockFree, Bool.not_eq_true'] at hlock
      have hnot := not_elsewhere hdis hlock (Ne.symm hne) hw
      simp [hresets] at hnot
    · exact h.untaken hne hreset hold
  oneReset := h.oneReset
  oneSweep := h.oneSweep

/-- The writes of a session after another one. -/
theorem exists_record {w : Write} {kind : Write → Prop} :
    (∃ w' ∈ (s.record t w).writes u, kind w') ↔
      (∃ w' ∈ s.writes u, kind w') ∨ (u = t ∧ kind w) := by
  constructor
  · rintro ⟨w', hw', hkind⟩
    rcases (Store.mem_record_writes s t w).1 hw' with hold | ⟨rfl, rfl⟩
    · exact .inl ⟨w', hold, hkind⟩
    · exact .inr ⟨rfl, hkind⟩
  · rintro (⟨w', hw', hkind⟩ | ⟨rfl, hkind⟩)
    · exact ⟨w', (Store.mem_record_writes s t w).2 (.inl hw'), hkind⟩
    · exact ⟨w, (Store.mem_record_writes s u w).2 (.inr ⟨rfl, rfl⟩), hkind⟩

theorem Write.free_iff {w : Write} : w.free owners s t = true ↔
    (∀ userId, w.resets owners = some userId → sessionTaken owners s t userId = false ∧
      elsewhere s t (fun w' => decide (w'.resets owners = some userId)) = false) ∧
    (∀ userId, w.sweeps = some userId →
      elsewhere s t (fun w' => decide (w'.sweeps = some userId)) = false) ∧ w.Owned owners := by
  cases w <;> simp [Write.free, Write.resets, Write.sweeps, Write.Owned]

theorem Apart.wrote (h : Apart owners s) (hdis : s.Disciplined) {w : Write}
    (hfree : w.free owners s t = true)
    (hlocks : ∀ km ∈ w.needs, lockFree owners s t km = true) : Apart owners (s.wrote t w) := by
  obtain ⟨hresets, hsweeps, howned⟩ := Write.free_iff.1 hfree
  have hbegin : Apart owners (s.begin t) := h.of_same rfl rfl rfl
  have hbefore : Apart owners ((s.begin t).acquire t w.needs) := hbegin.acquire (hdis.of_same rfl rfl) hlocks
  constructor
  · exact h.sessions
  · exact h.tokens
  · intro u' w' hw'
    rcases (Store.mem_record_writes _ t w).1 hw' with hold | ⟨-, rfl⟩
    · exact h.inserts u' w' hold
    · exact howned
  · intro t' u' id hne hreset hheld
    rcases exists_record.1 hreset with hold | ⟨rfl, hnew⟩
    · exact hbefore.untaken hne hold hheld
    · rcases Store.holds_acquire.1 hheld with ⟨rfl, -⟩ | hold
      · exact hne rfl
      · exact not_sessionTaken (hresets _ hnew).1 hne hold
  · intro t' u' userId hreset hreset'
    rcases exists_record.1 hreset with hold | ⟨rfl, hnew⟩ <;>
      rcases exists_record.1 hreset' with hold' | ⟨rfl, hnew'⟩
    · exact h.oneReset hold hold'
    · by_contra hne
      obtain ⟨w', hw', hkind⟩ := hold
      have hnot := not_elsewhere hdis (hresets _ hnew').2 (Ne.symm hne) hw'
      simp [hkind] at hnot
    · by_contra hne
      obtain ⟨w', hw', hkind⟩ := hold'
      have hnot := not_elsewhere hdis (hresets _ hnew).2 hne hw'
      simp [hkind] at hnot
    · rfl
  · intro t' u' userId hsweep hsweep'
    rcases exists_record.1 hsweep with hold | ⟨rfl, hnew⟩ <;>
      rcases exists_record.1 hsweep' with hold' | ⟨rfl, hnew'⟩
    · exact h.oneSweep hold hold'
    · by_contra hne
      obtain ⟨w', hw', hkind⟩ := hold
      have hnot := not_elsewhere hdis (hsweeps _ hnew') (Ne.symm hne) hw'
      simp [hkind] at hnot
    · by_contra hne
      obtain ⟨w', hw', hkind⟩ := hold'
      have hnot := not_elsewhere hdis (hsweeps _ hnew) hne hw'
      simp [hkind] at hnot
    · rfl

theorem Apart.finish (h : Apart owners s) : Apart owners (s.finish t) :=
  h.shrink rfl (fun _ _ hw => ((Store.mem_finish_writes s t).1 hw).2)
    fun _ _ _ hheld => (Store.holds_finish.1 hheld).2

/-- Rows keep their keys and owners. -/
theorem Write.owned_apply {w : Write} (hw : w.Owned owners) {d : Db}
    (h : (∀ row ∈ d.sessions, owners.session row.id = row.userId) ∧
      ∀ row ∈ d.resetTokens, owners.token row.tokenHash = row.userId) :
    (∀ row ∈ (w.apply d).sessions, owners.session row.id = row.userId) ∧
      ∀ row ∈ (w.apply d).resetTokens, owners.token row.tokenHash = row.userId := by
  have hmodify (f : Session → Session)
      (hf : ∀ row, (f row).id = row.id ∧ (f row).userId = row.userId) (id : Uuid) :
      ∀ row ∈ modify Session.id id f d.sessions, owners.session row.id = row.userId := by
    intro row hrow
    obtain ⟨old, hold, rfl⟩ := mem_modify.1 hrow
    split
    · rw [(hf old).1, (hf old).2]
      exact h.1 old hold
    · exact h.1 old hold
  cases w with
  | insertSession row =>
      refine ⟨fun row' hrow' => ?_, h.2⟩
      rcases List.mem_append.1 hrow' with hold | hnew
      · exact h.1 row' hold
      · rw [List.mem_singleton.1 hnew]
        exact hw
  | updateSession loaded row => exact ⟨hmodify (flushSession loaded row) (fun _ => ⟨rfl, rfl⟩) _, h.2⟩
  | revokeSession id now => exact ⟨hmodify (Session.revoked now) (fun _ => ⟨rfl, rfl⟩) _, h.2⟩
  | useResetToken tokenHash now =>
      refine ⟨h.1, fun row hrow => ?_⟩
      obtain ⟨old, hold, rfl⟩ := mem_modify.1 hrow
      split <;> exact h.2 old hold
  | deleteSession userId id => exact ⟨fun row hrow => h.1 row (mem_remove.1 hrow).1, h.2⟩
  | deleteResetToken userId tokenHash =>
      exact ⟨h.1, fun row hrow => h.2 row (mem_remove.1 hrow).1⟩
  | insertResetToken row =>
      refine ⟨h.1, fun row' hrow' => ?_⟩
      rcases List.mem_append.1 hrow' with hold | hnew
      · exact h.2 row' hold
      · rw [List.mem_singleton.1 hnew]
        exact hw
  | setPassword | updateUser | insertPairingCode | updatePairingCode | insertUser | setFullName
  | insertTelegramNonce | useTelegramNonce | renewTvSubscription => exact h

/-- What a session reads has the right owners. -/
theorem Apart.view (h : Apart owners s) (t : Tid) :
    (∀ row ∈ (s.view t).sessions, owners.session row.id = row.userId) ∧
      ∀ row ∈ (s.view t).resetTokens, owners.token row.tokenHash = row.userId :=
  applyAll_induction (P := fun d : Db => (∀ row ∈ d.sessions, owners.session row.id = row.userId) ∧
    ∀ row ∈ d.resetTokens, owners.token row.tokenHash = row.userId) ⟨h.sessions, h.tokens⟩
    fun w hw _ hd => Write.owned_apply (h.inserts t w hw) hd

theorem Apart.commit (h : Apart owners s) : Apart owners ((s.publish t).finish t) := by
  have hfinish : Apart owners (s.finish t) := h.finish
  exact { hfinish with sessions := (h.view t).1, tokens := (h.view t).2 }

theorem orderContract_sound : (orderContract owners).Sound (apart owners) where
  allows _ := trivial
  others _ _ _ _ _ _ := trivial
  outside hinv _ := ⟨⟨hinv.of_same rfl rfl rfl, trivial⟩, fun _ => trivial⟩
  stmt {α c t s r s'} hdis hinv hobl hreg hexec := by
    refine ⟨?_, trivial⟩
    have hbegin : Apart owners (s.begin t) := hinv.of_same rfl rfl rfl
    simp only [apart, Bool.and_eq_true, List.all_eq_true] at hreg
    obtain ⟨hlocks, hwrite⟩ := hreg
    cases c with
    | select | sense | tell | session | reject =>
        simp only [Stmt.exec] at hexec
        repeat' split at hexec
        all_goals
          simp only [Option.some.injEq, Prod.mk.injEq] at hexec
          exact hexec.2 ▸ hinv.of_same rfl rfl rfl
    | lock k m =>
        simp only [Stmt.exec] at hexec
        repeat' split at hexec
        all_goals simp only [Option.some.injEq, Prod.mk.injEq, reduceCtorEq] at hexec
        · exact hexec.2 ▸ hinv
        · rw [← hexec.2]
          exact hbegin.acquire (hdis.of_same rfl rfl) hlocks
    | enter k taken =>
        simp only [Stmt.exec] at hexec
        repeat' split at hexec
        all_goals simp only [Option.some.injEq, Prod.mk.injEq, reduceCtorEq] at hexec
        · exact hexec.2 ▸ hinv
        · exact hexec.2 ▸ hbegin
        · rw [← hexec.2]
          exact hbegin.acquire (hdis.of_same rfl rfl) hlocks
    | tryLock k m =>
        simp only [Stmt.exec] at hexec
        split at hexec
        · simp only [Option.some.injEq, Prod.mk.injEq] at hexec
          exact hexec.2 ▸ hinv
        · next hd => exact (hobl (by simpa using hd)).elim
    | write w =>
        simp only [Stmt.exec] at hexec
        repeat' split at hexec
        all_goals simp only [Option.some.injEq, Prod.mk.injEq, reduceCtorEq] at hexec
        · exact hexec.2 ▸ hinv
        · rw [← hexec.2]
          exact hinv.wrote hdis hwrite hlocks
    | commit =>
        simp only [Stmt.exec] at hexec
        split at hexec <;> simp only [Option.some.injEq, Prod.mk.injEq] at hexec
        · exact hexec.2 ▸ hinv.finish
        · exact hexec.2 ▸ hinv.commit
    | rollback =>
        simp only [Stmt.exec, Option.some.injEq, Prod.mk.injEq] at hexec
        exact hexec.2 ▸ hinv.finish

end

end MovieApi.Accounts.Concurrent
