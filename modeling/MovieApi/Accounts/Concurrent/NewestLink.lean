import MovieApi.Accounts.Concurrent.ResetLinks
import MovieApi.ReadCommitted.Commits

/-!
# Only the newest link works

While every request's deletion has found the tokens that are there when it commits,
a user has one unused token at most, and a reset leaves none: whoever resets the
password again uses a token that was issued since.
-/

namespace MovieApi.Accounts.Concurrent

open ReadCommitted ReadCommitted.Prog Sql

variable {hashing : Hashing} {settings : Settings} {email : String} {userId : Uuid}
  {ids : List (Uuid × String)} {requests : Tid → ResetRequest} {t : Tid} {d d' : Db}
  {hash : String}

/-! ## The contract -/

/-- What the commit of a session does to the tokens. -/
def Owes (hashing : Hashing) (userId : Uuid) (d d' : Db) : ResetRequest → Prop
  | .request rawToken => OnlyToken userId (hashing.hashResetToken rawToken) d'
  | .reset token _ => Resets (hashing.hashResetToken token) d d'

/-- The users are those of the start, and the key of the tokens is one. -/
structure ResetDb (ids : List (Uuid × String)) (d : Db) : Prop where
  identities : d.identities = ids
  unique : Unique PasswordResetToken.tokenHash d.resetTokens

def resetContract (hashing : Hashing) (userId : Uuid) (ids : List (Uuid × String))
    (requests : Tid → ResetRequest) : Contract where
  Inv s := ResetDb ids s.db
  Obl t _ c s :=
    match c with
    | .commit => ResetDb ids (s.view t) ∧ Owes hashing userId s.db (s.view t) (requests t)
    | _ => True
  Rely _ _ := True
  rely_refl _ := trivial
  rely_trans _ _ := trivial
  Allows t _ c s := allFound.stmt t c s = true

theorem resetContract_easy : (resetContract hashing userId ids requests).Easy fun _ => True := by
  intro β c hc t s
  cases c <;> first | exact hc.elim | trivial

theorem resetContract_sound : (resetContract hashing userId ids requests).Sound allFound := by
  refine .of_steps ?_ ?_ ?_ ?_ (fun _ _ => trivial) (fun _ _ _ _ _ _ => trivial) id
  · intro t s s' hq hinv
    show ResetDb ids s'.db ∧ True
    rw [hq.db]
    exact ⟨hinv, trivial⟩
  · intro t w s _ hinv _ _ _
    exact ⟨hinv, trivial⟩
  · intro t s _ _ hobl _ _
    exact ⟨hobl.1, trivial⟩
  · intro t s hinv
    exact ⟨hinv, trivial⟩

/-! ## Requests -/

/-- The deletion has found these tokens, and deleted some of them. -/
structure Deleting (userId : Uuid) (t : Tid) (found deleted : List String) (s : Store) : Prop where
  writes : s.writes t = deleted.map (Write.deleteResetToken userId)
  noted : (s.info t).foundTokens = found

theorem deleting_carried (found deleted : List String) :
    Carried (resetContract hashing userId ids requests) t (fun _ => False)
      (Deleting userId t found deleted) where
  stable := ⟨fun hb hs => ⟨hb.writes.trans hs.writes, by rw [hb.info, hs.noted]⟩⟩
  quiet hq _ hinfo hs := ⟨by rw [hq.writes, hs.writes], by rw [hinfo, hs.noted]⟩
  write _ hw := hw.elim

theorem forEach_delete (found rest deleted : List String) :
    Triple (resetContract hashing userId ids requests) t (Deleting userId t found deleted)
      (forEach rest fun hash => write (.deleteResetToken userId hash))
      (fun _ => Deleting userId t found (deleted ++ rest)) fun _ _ => True := by
  induction rest generalizing deleted with
  | nil => exact .ret fun s hs => by simpa using hs
  | cons hash rest ih =>
      refine .bind (Q := fun _ => Deleting userId t found (deleted ++ [hash]))
        (.write (deleting_carried found deleted).stable fun s _ hs _ => ⟨trivial, fun _ => ?_⟩)
        fun _ => ?_
      · refine ⟨?_, hs.noted⟩
        simp [Store.record, Store.acquire, hs.writes]
      · have hrest := ih (deleted ++ [hash])
        rw [List.append_assoc] at hrest
        exact hrest

/-- The transaction inserts this token after deleting those that it has found. -/
structure Issuing (userId : Uuid) (t : Tid) (found : List String) (row : PasswordResetToken)
    (s : Store) : Prop where
  writes : s.writes t = found.map (Write.deleteResetToken userId) ++ [.insertResetToken row]
  noted : (s.info t).foundTokens = found
  entered : s.Holds t (.resetToken row.tokenHash) .update
  fresh : row.tokenHash ∈ found ∨ s.db.resetToken? row.tokenHash = none

theorem free_carried (found : List String) (hash : String) {N : Write → Prop} :
    Carried (resetContract hashing userId ids requests) t N fun s =>
      s.Holds t (.resetToken hash) .update ∧ (hash ∈ found ∨ s.db.resetToken? hash = none) :=
  .locked (φ := fun d : Db => hash ∈ found ∨ d.resetToken? hash = none) fun _ _ hagree hfree =>
    hfree.imp_right (hagree (by decide)).symm.trans

theorem issuing_stable (found : List String) (row : PasswordResetToken) :
    Stable (resetContract hashing userId ids requests) t (Issuing userId t found row) := by
  refine ⟨fun {s s'} hb hs => ?_⟩
  obtain ⟨hentered, hfresh⟩ := (free_carried (N := fun _ => False) found row.tokenHash).stable.keep
    hb ⟨hs.entered, hs.fresh⟩
  exact ⟨hb.writes.trans hs.writes, by rw [hb.info, hs.noted], hentered, hfresh⟩

theorem addResetToken_issuing (found : List String) (row : PasswordResetToken) :
    Triple (resetContract hashing userId ids requests) t (Deleting userId t found found)
      (addResetToken row) (fun _ => Issuing userId t found row) fun _ _ => True := by
  have hbefore : Carried (resetContract hashing userId ids requests) t (fun _ => False)
      (Deleting userId t found found) := deleting_carried found found
  refine .bind (.enter (Q := fun entered s => entered = true → Deleting userId t found found s ∧
      s.Holds t (.resetToken row.tokenHash) .update ∧
      (row.tokenHash ∈ found ∨ s.db.resetToken? row.tokenHash = none)) hbefore.stable
    fun s _ hs _ => ⟨trivial, fun _ _ => by simp, fun _ hfree _ => ?_⟩) fun entered => ?_
  · refine ⟨hbefore.quiet (.acquire t s _) rfl rfl hs, by simp, ?_⟩
    rw [view_of_writes hs.writes, resetToken?_deletions] at hfree
    by_cases hmem : row.tokenHash ∈ found
    · exact .inl hmem
    · right
      simpa [hmem] using hfree
  · split
    · next hentered =>
        have hcarried : Carried (resetContract hashing userId ids requests) t (fun _ => False)
            fun s => Deleting userId t found found s ∧
              s.Holds t (.resetToken row.tokenHash) .update ∧
              (row.tokenHash ∈ found ∨ s.db.resetToken? row.tokenHash = none) :=
          hbefore.and (free_carried found row.tokenHash)
        refine .pre (.bind (inside resetContract_easy hcarried (referenceUser_inside _))
          fun _ => ?_) fun s hs => hs hentered
        refine .write hcarried.stable fun s _ hs _ => ⟨trivial, fun _ => ?_⟩
        obtain ⟨hdeleting, hentered, hfresh⟩ := hs
        refine ⟨?_, hdeleting.noted, Store.holds_acquire.2 (.inr hentered), hfresh⟩
        simp [Store.record, Store.acquire, hdeleting.writes]
    · exact .pre (.reject (.pure True) fun _ _ _ _ => trivial) fun _ _ => trivial

/-- What a request commits, when its deletion has found all unused tokens. -/
theorem Issuing.only {found : List String} {row : PasswordResetToken} {s : Store}
    (hs : Issuing userId t found row s) (hrow : row.userId = userId)
    (hallow : allFound.stmt t (.commit : Stmt Unit) s = true) :
    OnlyToken userId row.tokenHash (s.view t) := by
  have hfound : ∀ other ∈ s.db.resetTokens, other.userId = userId → other.usedAt = none →
      other.tokenHash ∈ found := by
    intro other hmem huser hunused
    have hall := List.all_eq_true.1 (show ((s.writes t).all fun w => _) = true from hallow)
      (.insertResetToken row) (by rw [hs.writes]; simp)
    have hother := List.all_eq_true.1 hall other hmem
    simpa [hrow, huser, hunused, hs.noted] using hother
  intro h hopen
  by_contra hne
  obtain ⟨other, hother, huser, hunused⟩ := hopen
  have hview : (s.view t).resetToken? h =
      (if h ∈ found then none else s.db.resetToken? h).or
        (if row.tokenHash = h then some row else none) := by
    rw [view_of_writes hs.writes, applyAll_append, applyAll_cons, applyAll_nil, apply_eq,
      Write.resetToken?_apply, resetToken?_deletions]
    rfl
  rw [hview, if_neg (Ne.symm hne)] at hother
  by_cases hmem : h ∈ found
  · simp [hmem] at hother
  · have hdb : s.db.resetToken? h = some other := by simpa [hmem] using hother
    have hhash : other.tokenHash = h := key_of_lookup hdb
    exact hmem (hhash ▸ hfound other (mem_of_lookup hdb) huser hunused)

/-- Inserting under a free key after deletions. -/
theorem Issuing.resetDb {found : List String} {row : PasswordResetToken} {s : Store}
    (hs : Issuing userId t found row s) (hinv : ResetDb ids s.db) : ResetDb ids (s.view t) := by
  have hdeleted : ResetDb ids (applyAll (found.map (Write.deleteResetToken userId)) s.db) := by
    refine applyAll_induction hinv fun w hw d hd => ?_
    obtain ⟨hash, -, rfl⟩ := List.mem_map.1 hw
    exact ⟨hd.identities, hd.unique.remove⟩
  have hfree : (applyAll (found.map (Write.deleteResetToken userId)) s.db).resetToken?
      row.tokenHash = none := by
    rw [resetToken?_deletions]
    rcases hs.fresh with hmem | hnone
    · exact if_pos hmem
    · rw [hnone, ite_self]
  rw [view_of_writes hs.writes, applyAll_append, applyAll_cons, applyAll_nil, apply_eq]
  exact ⟨hdeleted.identities, hdeleted.unique.append hfree⟩

theorem requestPasswordReset_part {rawToken : String}
    (hrequest : requests t = .request rawToken)
    (hemail : ∀ user, (ids.find? fun user => decide (user.2 = email)) = some user →
      user.1 = userId) :
    Triple (resetContract hashing userId ids requests) t (fun s => s.writes t = [])
      (requestPasswordReset hashing settings email rawToken) (fun _ _ => True)
      fun _ _ => True := by
  refine .bind (.select (Q := fun user? s => (∀ user, user? = some user → user.id = userId) ∧
    s.writes t = []) (Carried.writes []).stable fun s hc hs _ => ⟨trivial, ?_, hs⟩) fun user? => ?_
  · intro user huser
    rw [view_of_writes hs, applyAll_nil] at huser
    have hids : s.db.identities = ids := hc.inv.identities
    have hfind := find?_identities email s.db
    rw [huser, hids, Option.map_some] at hfind
    obtain ⟨pair, hpair, hfst⟩ := Option.map_eq_some_iff.1 hfind.symm
    rw [← hfst]
    exact hemail pair hpair
  · refine .given (fun s hs => hs.1) fun huser => ?_
    refine .pre (P := fun s => s.writes t = []) ?_ fun s hs => hs.2
    cases hactive : user?.filter User.isActive with
    | none => exact .ret fun _ _ => trivial
    | some user =>
        have hid : user.id = userId := huser user (Option.filter_eq_some_iff.1 hactive).1
        dsimp only
        rw [hid]
        refine .bind (.select (Q := fun _ s => s.writes t = []) (Carried.writes []).stable
          fun s _ hs _ => ⟨trivial, hs⟩) fun found => ?_
        refine .bind (.session (Q := fun _ => Deleting userId t found []) (Carried.writes []).stable
          fun s _ hs => ⟨fun _ => trivial, hs, by simp⟩) fun _ => ?_
        refine .bind (by simpa using forEach_delete found found []) fun _ => ?_
        refine .bind (.sense (Q := fun _ => Deleting userId t found found)
          (deleting_carried found found).stable fun s _ hs => ⟨fun _ => trivial, hs⟩)
          fun now => ?_
        refine .bind (addResetToken_issuing found _) fun _ => ?_
        refine .performAllowed (issuing_stable found _) fun s hc hallow hs =>
          ⟨fun _ => ⟨hs.resetDb hc.inv, ?_⟩, fun _ _ _ => trivial⟩
        rw [hrequest]
        exact hs.only rfl hallow

/-! ## Resets -/

theorem resetDb_ofReset {ws : List Write} (h : ∀ w ∈ ws, w.OfReset hash) (hd : ResetDb ids d) :
    ResetDb ids (applyAll ws d) := by
  refine applyAll_induction hd fun w hw d hd => ?_
  have hidentities : (w.apply d).identities = d.identities := by
    refine identities_apply (fun loaded row heq => ?_) (fun row heq => ?_) d <;>
      cases h w hw <;> cases heq
  refine ⟨hidentities.trans hd.identities, ?_⟩
  cases h w hw with
  | token now => exact hd.unique.modify fun _ h => h
  | password | revoke => exact hd.unique

/-- A token under its lock that the transaction uses up. -/
structure Using (t : Tid) (row : PasswordResetToken) (s : Store) : Prop where
  writes : ∀ w ∈ s.writes t, w.OfReset row.tokenHash
  loaded : LoadedToken t row s

theorem using_carried (row : PasswordResetToken) :
    Carried (resetContract hashing userId ids requests) t (Write.OfReset row.tokenHash)
      (Using t row) := by
  have hcarried : Carried (resetContract hashing userId ids requests) t
      (Write.OfReset row.tokenHash) fun s =>
        (∀ w ∈ s.writes t, w.OfReset row.tokenHash) ∧ LoadedToken t row s :=
    .and (.writesIn _) (loadedToken_carried row)
  refine ⟨⟨fun hb hs => ?_⟩, fun hq hworld hinfo hs => ?_, fun w hw s hc hs hd => ?_⟩
  · obtain ⟨hwrites, hloaded⟩ := hcarried.stable.keep hb ⟨hs.writes, hs.loaded⟩
    exact ⟨hwrites, hloaded⟩
  · obtain ⟨hwrites, hloaded⟩ := hcarried.quiet hq hworld hinfo ⟨hs.writes, hs.loaded⟩
    exact ⟨hwrites, hloaded⟩
  · obtain ⟨hwrites, hloaded⟩ := hcarried.write w hw s hc ⟨hs.writes, hs.loaded⟩ hd
    exact ⟨hwrites, hloaded⟩

theorem written_carried (hash : String) {N : Write → Prop} :
    Carried (resetContract hashing userId ids requests) t N fun s =>
      ∃ now, .useResetToken hash now ∈ s.writes t where
  stable := ⟨fun hb hs => by rwa [hb.writes]⟩
  quiet hq _ _ hs := by rwa [hq.writes]
  write w _ s _ hs _ := by
    obtain ⟨now, hmem⟩ := hs
    exact ⟨now, (Store.mem_record_writes _ t w).2 (.inl hmem)⟩

/-- What a reset commits. -/
theorem Using.resets {row : PasswordResetToken} {s : Store} (hs : Using t row s)
    (hunused : row.usedAt = none) (hwritten : ∃ now, .useResetToken row.tokenHash now ∈ s.writes t) :
    Resets row.tokenHash s.db (s.view t) := by
  obtain ⟨-, hothers, hown⟩ := resetToken?_ofReset hs.writes s.db
  obtain ⟨row', hrow', huser, hused⟩ := hown row hs.loaded.2
  exact ⟨⟨row, row', hs.loaded.2, hunused, hrow', huser, hused (.inr hwritten)⟩,
    fun hne => hothers _ hne⟩

theorem revokeAll_using (user : User) {row : PasswordResetToken} (hashed : String) (now : Instant) :
    Triple (resetContract hashing userId ids requests) t (Using t row)
      (revokeAllUserSessions user.id do
        savePassword user hashed
        write (.useResetToken row.tokenHash now))
      (fun _ s => Using t row s ∧ ∃ now, .useResetToken row.tokenHash now ∈ s.writes t)
      fun _ _ => True := by
  have hpassword : (savePassword user hashed).Every (Stmt.Inside (Write.OfReset row.tokenHash)) := by
    unfold savePassword
    split
    · trivial
    · exact .perform (.password user.id hashed)
  refine .bind (inside resetContract_easy (using_carried row) (.perform trivial)) fun later => ?_
  refine .bind (Q := fun _ s => Using t row s ∧ ∃ now, .useResetToken row.tokenHash now ∈ s.writes t)
    ?_ fun _ => ?_
  · refine .bind (inside resetContract_easy (using_carried row) hpassword) fun _ => ?_
    refine .write (using_carried row).stable fun s hc hs hd => ⟨trivial, fun _ => ⟨?_, now, ?_⟩⟩
    · exact (using_carried row).write _ (.token now) s hc hs hd
    · exact (Store.mem_record_writes _ t _).2 (.inr ⟨rfl, rfl⟩)
  · refine inside resetContract_easy ((using_carried row).and (written_carried row.tokenHash))
      (.bind (.perform trivial) fun snapshot => .forEach fun id => .bind (.perform trivial)
        fun _ => .bind (.perform trivial) fun found => ?_)
    cases Option.filter (unrevokedOf user.id) found with
    | none => trivial
    | some found => exact .perform (.revoke id later)

theorem resetPassword_part {token hashed : String} (hrequest : requests t = .reset token hashed) :
    Triple (resetContract hashing userId ids requests) t (fun s => s.writes t = [])
      (resetPassword hashing token hashed) (fun _ _ => True) fun _ _ => True := by
  refine .bind (lockResetToken_loaded resetContract_easy _) fun found => ?_
  cases found with
  | none =>
      exact .bind (.pre (inside (N := fun _ => False) resetContract_easy (.pure True)
        (.perform trivial)) fun _ _ => trivial) fun now => .raise fun _ _ => trivial
  | some row =>
      refine .given (fun s hs => (hs.2 row rfl).1) fun hhash => ?_
      refine .pre (P := Using t row) ?_ fun s hs => ⟨by simp [hs.1], (hs.2 row rfl).2⟩
      refine .bind (inside resetContract_easy (using_carried row) (.perform trivial)) fun now => ?_
      cases hvalid : (some row).filter fun row : PasswordResetToken =>
          row.usedAt.isNone && decide (now ≤ row.expiresAt) with
      | none => exact .raise fun _ _ => trivial
      | some row' =>
          obtain ⟨hsame, hvalid⟩ := Option.filter_eq_some_iff.1 hvalid
          obtain rfl : row = row' := Option.some.inj hsame
          have hunused : row.usedAt = none := by
            rw [Bool.and_eq_true] at hvalid
            simpa using hvalid.1
          refine .bind (inside resetContract_easy (using_carried row) (.perform trivial))
            fun user? => ?_
          cases user?.filter User.isActive with
          | none => exact .raise fun _ _ => trivial
          | some user =>
              refine .bind (revokeAll_using user hashed now) fun _ => ?_
              refine .commit ((using_carried row).and (written_carried row.tokenHash)).stable
                fun s hc hs => ⟨fun _ => trivial, fun _ => ⟨⟨?_, ?_⟩, trivial⟩⟩
              · exact resetDb_ofReset hs.1.writes hc.inv
              · rw [hrequest]
                show Resets (hashing.hashResetToken token) s.db (s.view t)
                rw [← hhash]
                exact hs.1.resets hunused hs.2

/-! ## The log of the commits -/

/-- A token of the user. -/
def TokenOf (userId : Uuid) (hash : String) (d : Db) : Prop :=
  ∃ row, d.resetToken? hash = some row ∧ row.userId = userId

/-- The user has one unused token at most. -/
def OneToken (userId : Uuid) (d : Db) : Prop :=
  ∀ hash hash', OpenToken userId hash d → OpenToken userId hash' d → hash = hash'

theorem OnlyToken.oneToken (h : OnlyToken userId hash d) : OneToken userId d :=
  fun other other' hopen hopen' => (h other hopen).trans (h other' hopen').symm

/-- What is unused after a reset was unused before, and is another token. -/
theorem Resets.openToken (h : Resets hash d d') {other : String}
    (hopen : OpenToken userId other d') : OpenToken userId other d ∧ other ≠ hash := by
  obtain ⟨row, hrow, huser, hunused⟩ := hopen
  have hne : other ≠ hash := by
    rintro rfl
    obtain ⟨-, row', -, -, hrow', -, hused⟩ := h.used
    have hsame : row' = row := Option.some.inj (hrow'.symm.trans hrow)
    exact hused (hsame ▸ hunused)
  rw [h.others hne] at hrow
  exact ⟨⟨row, hrow, huser, hunused⟩, hne⟩

theorem Resets.unused (h : Resets hash d d') (huser : TokenOf userId hash d) :
    OpenToken userId hash d := by
  obtain ⟨row, -, hrow, hunused, -⟩ := h.used
  obtain ⟨row', hrow', huser⟩ := huser
  have hsame : row' = row := Option.some.inj (hrow'.symm.trans hrow)
  exact ⟨row, hrow, hsame ▸ huser, hunused⟩

/-- A reset with a token of the user leaves no unused one. -/
theorem Resets.none_open (h : Resets hash d d') (huser : TokenOf userId hash d)
    (hone : OneToken userId d) (other : String) : ¬ OpenToken userId other d' := by
  intro hopen
  obtain ⟨hbefore, hne⟩ := h.openToken hopen
  exact hne (hone other hash hbefore (h.unused huser))

section

variable {xs pre mid post : List (Tid × Commit Write Info)} {x : Commit Write Info}

theorem owes_of_split (h : Owed (resetContract hashing userId ids requests) d xs)
    (hxs : xs = pre ++ (t, x) :: post) :
    Owes hashing userId (publishAll pre d) (publishAll (pre ++ [(t, x)]) d) (requests t) := by
  obtain ⟨s, hdb, hview, -, howes⟩ := h.of_split hxs
  rw [← hdb, ← hview]
  exact howes

/-- One unused token at most, after each of the commits. -/
theorem oneToken_publishAll (h : Owed (resetContract hashing userId ids requests) d xs)
    (hone : OneToken userId d) (hxs : xs = pre ++ post) : OneToken userId (publishAll pre d) := by
  induction pre using List.reverseRecOn generalizing post with
  | nil => exact hone
  | append_singleton front last ih =>
      obtain ⟨t, x⟩ := last
      have hxs : xs = front ++ (t, x) :: post := by simpa using hxs
      have howes := owes_of_split h hxs
      cases hrequest : requests t with
      | request rawToken =>
          rw [hrequest] at howes
          exact howes.oneToken
      | reset token hashed =>
          rw [hrequest] at howes
          intro hash hash' hopen hopen'
          exact ih hxs hash hash' (howes.openToken hopen).1 (howes.openToken hopen').1

/-- Some request among these commits has issued the token. -/
def IssuedIn (hashing : Hashing) (requests : Tid → ResetRequest)
    (xs : List (Tid × Commit Write Info)) (hash : String) : Prop :=
  ∃ t x rawToken, (t, x) ∈ xs ∧ requests t = .request rawToken ∧
    hashing.hashResetToken rawToken = hash

/-- Where no token was unused, an unused one has been issued since. -/
theorem issued_of_openToken (h : Owed (resetContract hashing userId ids requests) d xs)
    (hnone : ∀ other, ¬ OpenToken userId other (publishAll pre d))
    (hxs : xs = pre ++ mid ++ post) (hopen : OpenToken userId hash (publishAll (pre ++ mid) d)) :
    IssuedIn hashing requests mid hash := by
  induction mid using List.reverseRecOn generalizing post with
  | nil => exact absurd (by simpa using hopen) (hnone hash)
  | append_singleton front last ih =>
      obtain ⟨t, x⟩ := last
      have hxs : xs = (pre ++ front) ++ (t, x) :: post := by simpa using hxs
      have howes := owes_of_split h hxs
      rw [← List.append_assoc] at hopen
      cases hrequest : requests t with
      | request rawToken =>
          rw [hrequest] at howes
          exact ⟨t, x, rawToken, by simp, hrequest, (howes hash hopen).symm⟩
      | reset token hashed =>
          rw [hrequest] at howes
          obtain ⟨u, y, rawToken, hmem, hissued⟩ := ih hxs (howes.openToken hopen).1
          exact ⟨u, y, rawToken, List.mem_append_left _ hmem, hissued⟩

end

/-! ## Every run -/

/-- After a reset with a token of the user, another one has been issued since. -/
def NewestOnly (hashing : Hashing) (userId : Uuid) (requests : Tid → ResetRequest) (d : Db)
    (xs : List (Tid × Commit Write Info)) : Prop :=
  ∀ pre t x mid t' x' post token hashed token' hashed',
    xs = pre ++ (t, x) :: mid ++ (t', x') :: post →
    requests t = .reset token hashed → requests t' = .reset token' hashed' →
    TokenOf userId (hashing.hashResetToken token) (publishAll pre d) →
    TokenOf userId (hashing.hashResetToken token') (publishAll (pre ++ (t, x) :: mid) d) →
      IssuedIn hashing requests mid (hashing.hashResetToken token')

/-- However requests for an email and resets interleave: when no request commits while an
unused token of the user is there that its deletion has not found, the user has one
unused token at most; and after a reset only a token that was issued since can reset
the password. -/
theorem newest_link_only (hashing : Hashing) (settings : Settings) (email : String) (d : Db)
    (world : World) (requests : Tid → ResetRequest) {user : User}
    (huser : d.users.find? (fun user => decide (user.email = email)) = some user)
    (hunique : Unique PasswordResetToken.tokenHash d.resetTokens) (hone : OneToken user.id d)
    {xs : List (Tid × Commit Write Info)} {q : Pool}
    (h : Pool.Trace commits allFound (startResets hashing settings email d world requests) xs q) :
    OneToken user.id q.store.db ∧ NewestOnly hashing user.id requests d xs := by
  have hemail : ∀ pair, (d.identities.find? fun user => decide (user.2 = email)) = some pair →
      pair.1 = user.id := by
    intro pair hpair
    have hfind := find?_identities email d
    rw [huser, hpair] at hfind
    exact (Option.some.inj hfind).symm
  have hstart : Pool.Keeps (resetContract hashing user.id d.identities requests)
      (fun _ _ => True) (fun u _ s => s.doomed u = true ∨ True)
      (startResets hashing settings email d world requests) := by
    have hprog (u : Tid) : Triple (resetContract hashing user.id d.identities requests) u
        (fun s => s.writes u = []) ((requests u).prog hashing settings email) (fun _ _ => True)
        fun _ _ => True := by
      cases hrequest : requests u with
      | request rawToken =>
          exact closing_triple (requestPasswordReset_part hrequest hemail) (.pure True)
            (fun _ _ => trivial) fun _ => trivial
      | reset token hashed =>
          exact closing_triple (resetPassword_part hrequest) (.pure True)
            (fun _ _ => trivial) fun _ => trivial
    have hinv : ResetDb d.identities d := ⟨rfl, hunique⟩
    exact Pool.Keeps.start hinv fun u => (hprog u).pre fun s hs => by
      rw [hs]
      rfl
  have howed : Owed (resetContract hashing user.id d.identities requests) d xs :=
    h.owed resetContract_sound (fun _ => .pure True) (fun u _ => .or (.doomed true) (.pure True))
      hstart
  refine ⟨?_, ?_⟩
  · have hlast := oneToken_publishAll howed hone (List.append_nil xs).symm
    rw [show q.store.db = publishAll xs d from h.committed]
    exact hlast
  · intro pre t x mid t' x' post token hashed token' hashed' hxs hreset hreset' hmine hmine'
    have hfirst : xs = pre ++ (t, x) :: (mid ++ (t', x') :: post) := by simpa using hxs
    have hresets := owes_of_split howed hfirst
    rw [hreset] at hresets
    have hnone := hresets.none_open hmine (oneToken_publishAll howed hone hfirst)
    have hresets' := owes_of_split howed hxs
    rw [hreset'] at hresets'
    have hopen := hresets'.unused hmine'
    rw [List.append_cons] at hopen
    have hsplit : xs = (pre ++ [(t, x)]) ++ mid ++ (t', x') :: post := by simpa using hxs
    exact issued_of_openToken howed hnone hsplit hopen

namespace Desk

/-- A reset with the link, a request, and a reset with the new link. -/
def resets : Tid → ResetRequest
  | 0 => .reset "link" "first"
  | 1 => .request "a"
  | _ => .reset "a" "second"

/-- Two requests, and a reset with either link. -/
def twoRequests : Tid → ResetRequest
  | 0 => .request "a"
  | 1 => .request "b"
  | 2 => .reset "a" "first"
  | _ => .reset "b" "second"

/-- Nobody has asked for a link yet. -/
def noLinks : Db := { db with resetTokens := [] }

def startTwoRequests : Pool := startResets Desk.hashing .default "a@desk" noLinks ⟨10, 5⟩ twoRequests

/-- The tokens that can still be used. -/
def usable (q : Pool) : List String :=
  (q.store.db.resetTokens.filter fun row =>
    row.usedAt.isNone && decide (q.store.world.now ≤ row.expiresAt)).map
      PasswordResetToken.tokenHash

end Desk

/-- A reset with the link, and one with the link that was asked for afterwards. -/
theorem newest_link_works : ∃ xs q,
    Pool.Trace commits allFound
      (startResets Desk.hashing .default "a@desk" Desk.db ⟨10, 5⟩ Desk.resets) xs q ∧
      xs.map Prod.fst = [0, 1, 2] ∧ OneToken 1 q.store.db ∧
        NewestOnly Desk.hashing 1 Desk.resets Desk.db xs := by
  obtain ⟨xs, q, htrace, hq⟩ := Pool.exists_trace_of_observe
    (f := fun r : List (Tid × Commit Write Info) × Pool => decide (r.1.map Prod.fst = [0, 1, 2]))
    (show (Pool.observe commits allFound
      (startResets Desk.hashing .default "a@desk" Desk.db ⟨10, 5⟩ Desk.resets)
      (Desk.runs 0 14 ++ Desk.runs 1 11 ++ Desk.runs 2 11)).any _ = true by decide +kernel)
  have hone : OneToken Desk.user.id Desk.db := by
    have hlink (hash : String) (hopen : OpenToken Desk.user.id hash Desk.db) : hash = "link" := by
      obtain ⟨row, hrow, -⟩ := hopen
      have hkey : row.tokenHash = hash := key_of_lookup hrow
      have hmem : row ∈ Desk.db.resetTokens := mem_of_lookup hrow
      rw [← hkey, List.mem_singleton.1 hmem]
    exact fun hash hash' hopen hopen' => (hlink hash hopen).trans (hlink hash' hopen').symm
  have hfirst : Desk.db.users.find? (fun user => decide (user.email = "a@desk")) =
      some Desk.user := rfl
  have hnewest := newest_link_only Desk.hashing .default "a@desk" Desk.db ⟨10, 5⟩ Desk.resets
    hfirst (show (Desk.db.resetTokens.map PasswordResetToken.tokenHash).Nodup by decide) hone
    htrace
  exact ⟨xs, q, htrace, of_decide_eq_true hq, hnewest⟩

/-- Both deletions run before either token is there: two links can be used, and the
older one resets the password after the newer one has. -/
theorem two_links_work :
    (∃ q, Pool.Run .any Desk.startTwoRequests q ∧ Desk.usable q = ["b", "a"]) ∧
      ∃ xs q, Pool.Trace commits .any Desk.startTwoRequests xs q ∧
        xs.map Prod.fst = [1, 0, 2, 3] ∧
          q.store.db.users.map User.passwordHash = [some "second"] := by
  constructor
  · obtain ⟨q, hrun, hq⟩ := Pool.exists_run_of_play
      (f := fun q : Pool => decide (Desk.usable q = ["b", "a"]))
      (show (Pool.play .any Desk.startTwoRequests
        (Desk.runs 0 6 ++ Desk.runs 1 10 ++ Desk.runs 0 4)).any _ = true by decide +kernel)
    exact ⟨q, hrun, of_decide_eq_true hq⟩
  · obtain ⟨xs, q, htrace, hq⟩ := Pool.exists_trace_of_observe
      (f := fun r : List (Tid × Commit Write Info) × Pool =>
        decide (r.1.map Prod.fst = [1, 0, 2, 3] ∧
          r.2.store.db.users.map User.passwordHash = [some "second"]))
      (show (Pool.observe commits .any Desk.startTwoRequests
        (Desk.runs 0 6 ++ Desk.runs 1 10 ++ Desk.runs 0 4 ++ Desk.runs 2 14 ++
          Desk.runs 3 11)).any _ = true by decide +kernel)
    have hq := of_decide_eq_true hq
    exact ⟨xs, q, htrace, hq.1, hq.2⟩

end MovieApi.Accounts.Concurrent
