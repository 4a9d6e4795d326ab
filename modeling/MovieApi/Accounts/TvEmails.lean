import MovieApi.Accounts.TvAccessCodes

/-!
# The emails of TV users

The user of a TV code has the email that is made from the code, and only such
users have an email of that form.  Two codes clash there, though they differ,
when nothing but case and dashes tells them apart.
-/

namespace MovieApi.Accounts

open Sql

variable {letters : Letters} {site : TvSite} {referenced : Uuid → Bool} {now : Instant} {d d' : Db}
  {userId id : Uuid} {hashed : String} {bodies : Nat → String} {data raw : TvAccessCodeCreate}
  {code code' : String}

/-! ## Codes behind an email -/

/-- What the email keeps of a code: neither its case nor its dashes. -/
def bareCode (letters : Letters) (code : String) : List Char :=
  letters.citext (dashless letters code)

/-- The database takes the text for the email of some TV user. -/
def TvShaped (letters : Letters) (email : String) : Prop :=
  ∃ name : String, letters.citext email = letters.citext ("tv+" ++ name ++ "@tv.reeltime.local")

theorem citext_append (letters : Letters) (a b : String) :
    letters.citext (a ++ b) = letters.citext a ++ letters.citext b := by
  simp [Letters.citext, String.toList_append]

theorem citext_tvEmail_eq_iff :
    letters.citext (tvEmail letters code) = letters.citext (tvEmail letters code') ↔
      bareCode letters code = bareCode letters code' := by
  unfold tvEmail bareCode
  simp only [citext_append]
  rw [List.append_left_inj, List.append_right_inj]

/-- The placeholder of a deleted account starts with another letter. -/
theorem not_tvShaped_placeholder (letters : Letters) (userId : Uuid) :
    ¬ TvShaped letters (Deletion.placeholderEmail userId) := by
  intro hshaped
  obtain ⟨name, hname⟩ := hshaped
  have hd : letters.fold 'd' = 'd' := letters.fold_lowercase 'd' (by decide) (by decide)
  have ht : letters.fold 't' = 't' := letters.fold_lowercase 't' (by decide) (by decide)
  have hfirst := congrArg List.head? hname
  simp [Letters.citext, Deletion.placeholderEmail, String.toList_append, hd, ht] at hfirst

/-! ## The columns that name users -/

namespace Db

def identities (d : Db) : List (Uuid × String) := d.users.map fun user => (user.id, user.email)

def tvOwners (d : Db) : List (Uuid × String) :=
  d.tvAccessCodes.map fun row => (row.userId, row.code)

def subscribers (d : Db) : List Uuid := d.subscriptions.map Subscription.userId

end Db

/-- Codes and TV users come in pairs, and a subscription has a user. -/
structure Issued (letters : Letters) (d : Db) : Prop where
  owned : ∀ owner ∈ d.tvOwners, (owner.1, tvEmail letters owner.2) ∈ d.identities
  issued : ∀ user ∈ d.identities, TvShaped letters user.2 →
    ∃ code, (user.1, code) ∈ d.tvOwners ∧ user.2 = tvEmail letters code
  subscribed : ∀ id ∈ d.subscribers, ∃ email, (id, email) ∈ d.identities

theorem Issued.of_same (h : Issued letters d) (husers : d'.identities = d.identities)
    (howners : d'.tvOwners = d.tvOwners)
    (hsubscribers : ∀ id ∈ d'.subscribers, ∃ email, (id, email) ∈ d'.identities) :
    Issued letters d' := by
  refine ⟨?_, ?_, hsubscribers⟩
  · rw [husers, howners]
    exact h.owned
  · rw [husers, howners]
    exact h.issued

theorem isSome_user?_iff : (d.user? id).isSome = true ↔ ∃ email, (id, email) ∈ d.identities := by
  constructor
  · intro h
    obtain ⟨user, huser⟩ := Option.isSome_iff_exists.1 h
    have hid : user.id = id := key_of_lookup huser
    exact ⟨user.email, List.mem_map.2 ⟨user, mem_of_lookup huser, by rw [hid]⟩⟩
  · intro h
    obtain ⟨email, hmem⟩ := h
    obtain ⟨user, huser, heq⟩ := List.mem_map.1 hmem
    have hid : user.id = id := congrArg Prod.fst heq
    rw [← hid]
    exact lookup_isSome_of_mem huser

theorem user?_eq_none_iff : d.user? id = none ↔ ∀ email, (id, email) ∉ d.identities := by
  rw [← Option.not_isSome_iff_eq_none, isSome_user?_iff]
  simp

/-! ## Inserts -/

theorem guarded_ok_iff {ε α : Type} {p : Prop} [Decidable p] {err : ε} {a b : α} :
    (if p then Except.error err else .ok a) = .ok b ↔ ¬ p ∧ b = a := by
  by_cases h : p
  · simp [h]
  · rw [if_neg h, Except.ok.injEq]
    exact ⟨fun heq => ⟨h, heq.symm⟩, fun heq => heq.2.symm⟩

theorem insertUser_ok_iff {user : User} : d.insertUser letters user = .ok d' ↔
    (∀ other ∈ d.identities, other.1 ≠ user.id ∧
      letters.citext other.2 ≠ letters.citext user.email) ∧
    d' = { d with users := d.users ++ [user] } := by
  unfold Db.insertUser
  rw [guarded_ok_iff]
  simp [Db.identities]

theorem subscription?_eq_none_iff : d.subscription? id = none ↔ id ∉ d.subscribers := by
  unfold Db.subscription? Db.subscribers
  rw [lookup_eq_none]
  simp

theorem insertSubscription_ok_iff {subscription : Subscription} :
    d.insertSubscription site subscription = .ok d' ↔
      (site.allowsStatus subscription.status = true ∧
        (d.user? subscription.userId).isSome = true ∧ subscription.userId ∉ d.subscribers) ∧
      d' = { d with subscriptions := d.subscriptions ++ [subscription] } := by
  unfold Db.insertSubscription
  rw [guarded_ok_iff, ← subscription?_eq_none_iff]
  simp [Option.isSome_iff_ne_none]

theorem insertTvAccessCode_ok_iff {row : TvAccessCode} : d.insertTvAccessCode row = .ok d' ↔
    ((d.user? row.userId).isSome = true ∧ ∀ other ∈ d.tvAccessCodes,
      other.id ≠ row.id ∧ other.code ≠ row.code ∧ other.userId ≠ row.userId) ∧
    d' = { d with tvAccessCodes := d.tvAccessCodes ++ [row] } := by
  unfold Db.insertTvAccessCode
  rw [guarded_ok_iff]
  simp [Option.isSome_iff_ne_none, and_assoc]

/-! ## Issuing a code -/

/-- What `create_tv_access_code` needs of the tables for a code it was asked for. -/
structure Free (site : TvSite) (data : TvAccessCodeCreate) (userId id : Uuid) (code : String)
    (d : Db) : Prop where
  user : ∀ other ∈ d.identities, other.1 ≠ userId ∧
    site.citext other.2 ≠ site.citext (tvEmail site.toLetters code)
  status : site.allowsStatus data.status = true
  subscriber : userId ∉ d.subscribers
  row : ∀ other ∈ d.tvAccessCodes, other.id ≠ id ∧ other.code ≠ code ∧ other.userId ≠ userId

theorem bind_ok_iff {ε α β : Type} {x : Except ε α} {f : α → Except ε β} {b : β} :
    (x >>= f) = .ok b ↔ ∃ a, x = .ok a ∧ f a = .ok b := by
  cases x with
  | error err => simp [bind, Except.bind]
  | ok a => simp [bind, Except.bind]

theorem insertTvRows_ok_iff {read : TvAccessCodeRead} :
    insertTvRows site now userId id hashed data d code = .ok (read, d') ↔
      Free site data userId id code d ∧ read = (data.row id userId code).toRead now ∧
      d' = { d with
        users := d.users ++ [data.user site.toLetters userId hashed code]
        subscriptions := d.subscriptions ++ [data.subscription now userId]
        tvAccessCodes := d.tvAccessCodes ++ [data.row id userId code] } := by
  have hfound : ∀ subscriptions, ({ d with
      users := d.users ++ [data.user site.toLetters userId hashed code]
      subscriptions := subscriptions } : Db).user? userId ≠ none := by
    intro subscriptions
    rw [Ne, user?_eq_none_iff, not_forall_not]
    exact ⟨tvEmail site.toLetters code, by simp [Db.identities, TvAccessCodeCreate.user]⟩
  unfold insertTvRows
  simp only [bind_ok_iff, insertUser_ok_iff, insertSubscription_ok_iff, insertTvAccessCode_ok_iff]
  constructor
  · rintro ⟨d₁, ⟨huser, rfl⟩, d₂, ⟨⟨hstatus, -, hsubscriber⟩, rfl⟩, d₃, ⟨⟨-, hrow⟩, rfl⟩, hresult⟩
    obtain ⟨hread, hd'⟩ := Prod.mk.inj (Except.ok.inj hresult)
    exact ⟨⟨huser, hstatus, hsubscriber, hrow⟩, hread.symm, hd'.symm⟩
  · rintro ⟨hfree, rfl, rfl⟩
    exact ⟨_, ⟨hfree.user, rfl⟩,
      _, ⟨⟨hfree.status, Option.isSome_iff_ne_none.2 (hfound _), hfree.subscriber⟩, rfl⟩,
      _, ⟨⟨Option.isSome_iff_ne_none.2 (hfound _), hfree.row⟩, rfl⟩, rfl⟩

theorem createTvAccessCode_ok_iff {read : TvAccessCodeRead} :
    createTvAccessCode site now userId id hashed bodies data d = .ok (read, d') ↔
      now < data.expiresAt ∧ ∃ code, uniqueCode bodies data.code d = .ok code ∧
        insertTvRows site now userId id hashed data d code = .ok (read, d') := by
  unfold createTvAccessCode
  by_cases hexpired : data.expiresAt ≤ now
  · simp [hexpired]
  · rw [if_neg hexpired, bind_ok_iff]
    simp [not_le.1 hexpired]

/-- A code that is asked for and not issued yet is taken as it is. -/
theorem uniqueCode_requested (hcode : data.code = some code) (hne : code ≠ "")
    (hnew : ∀ row ∈ d.tvAccessCodes, row.code ≠ code) :
    uniqueCode bodies data.code d = .ok code := by
  have hnone : (d.tvAccessCodes.any fun row => decide (row.code = code)) = false := by
    simpa using hnew
  unfold uniqueCode
  simp [hcode, Option.filter_some, hne, hnone]

/-! ## What an update leaves -/

/-- The columns that name users are the same. -/
structure SameNames (d d' : Db) : Prop where
  identities : d'.identities = d.identities
  tvOwners : d'.tvOwners = d.tvOwners
  subscribers : d'.subscribers = d.subscribers

theorem SameNames.refl (d : Db) : SameNames d d := ⟨rfl, rfl, rfl⟩

theorem SameNames.trans {d'' : Db} (h : SameNames d d') (h' : SameNames d' d'') :
    SameNames d d'' :=
  ⟨h'.identities.trans h.identities, h'.tvOwners.trans h.tvOwners,
    h'.subscribers.trans h.subscribers⟩

theorem Issued.of_sameNames (h : Issued letters d) (hsame : SameNames d d') :
    Issued letters d' := by
  refine h.of_same hsame.identities hsame.tvOwners ?_
  rw [hsame.identities, hsame.subscribers]
  exact h.subscribed

theorem map_update {α β : Type} {p : α → Prop} [DecidablePred p] {f : α → α} {column : α → β}
    (hf : ∀ row, column (f row) = column row) (rows : List α) :
    (rows.map fun row => if p row then f row else row).map column = rows.map column := by
  rw [List.map_map]
  refine List.map_congr_left fun row _ => ?_
  by_cases h : p row
  · simp [h, hf]
  · simp [h]

theorem SameNames.updateUser {f : User → User} (h : SameNames d d')
    (hf : ∀ user, ((f user).id, (f user).email) = (user.id, user.email)) :
    SameNames d (d'.updateUser id f) :=
  ⟨(map_update hf d'.users).trans h.identities, h.tvOwners, h.subscribers⟩

theorem sameNames_updateTvSubscription {f : Subscription → Subscription}
    (hf : ∀ subscription, (f subscription).userId = subscription.userId) (d : Db) :
    SameNames d (d.updateTvSubscription userId f) :=
  ⟨rfl, rfl, map_update hf d.subscriptions⟩

theorem sameNames_saveTvAccessCode (d : Db) (row : TvAccessCode) :
    SameNames d (d.saveTvAccessCode row) := by
  refine ⟨rfl, ?_, rfl⟩
  unfold Db.tvOwners Db.saveTvAccessCode Sql.modify
  apply map_update
  intro old
  rfl

theorem sameNames_relabelTv (data : TvAccessCodeUpdate) (row : TvAccessCode) (d : Db) :
    SameNames d (relabelTv data row d).2 := by
  unfold relabelTv
  cases data.label with
  | none => exact .refl d
  | some label =>
      apply (SameNames.refl d).updateUser
      intro user
      rfl

theorem sameNames_extendTv (data : TvAccessCodeUpdate) (row : TvAccessCode) (d : Db) :
    SameNames d (extendTv data row d).2 := by
  unfold extendTv
  cases data.expiresAt with
  | none => exact .refl d
  | some expiresAt =>
      apply sameNames_updateTvSubscription
      intro subscription
      rfl

theorem sameNames_switchTv {data : TvAccessCodeUpdate} {row row' : TvAccessCode}
    (h : switchTv site now data row d = .ok (row', d')) : SameNames d d' := by
  unfold switchTv at h
  cases hactive : data.isActive with
  | none =>
      simp only [hactive, Except.ok.injEq, Prod.mk.injEq] at h
      rw [← h.2]
      exact .refl d
  | some isActive =>
      simp only [hactive] at h
      rw [guarded_ok_iff] at h
      rw [(Prod.mk.inj h.2).2]
      apply SameNames.updateUser
      · apply sameNames_updateTvSubscription
        intro subscription
        rfl
      · intro user
        rfl

theorem sameNames_updateTvAccessCode {data : TvAccessCodeUpdate} {read : TvAccessCodeRead}
    (h : updateTvAccessCode site now id data d = .ok (read, d')) : SameNames d d' := by
  unfold updateTvAccessCode at h
  split at h
  · simp at h
  · next row hrow =>
      rw [bind_ok_iff] at h
      obtain ⟨⟨row', d₁⟩, hswitch, hresult⟩ := h
      have hrelabel := sameNames_relabelTv data row d
      have hextend := sameNames_extendTv data (relabelTv data row d).1 (relabelTv data row d).2
      have hsame := (hrelabel.trans hextend).trans (sameNames_switchTv hswitch)
      rw [← (Prod.mk.inj (Except.ok.inj hresult)).2]
      exact hsame.trans (sameNames_saveTvAccessCode d₁ row')

/-! ## Codes and TV users come in pairs -/

theorem Issued.insertTvRows {read : TvAccessCodeRead} (h : Issued site.toLetters d)
    (hok : insertTvRows site now userId id hashed data d code = .ok (read, d')) :
    Issued site.toLetters d' := by
  obtain ⟨-, -, rfl⟩ := insertTvRows_ok_iff.1 hok
  constructor
  · intro owner howner
    simp only [Db.tvOwners, Db.identities, List.map_append, List.map_cons, List.map_nil,
      List.mem_append, List.mem_singleton] at howner ⊢
    rcases howner with howner | rfl
    · exact .inl (h.owned owner howner)
    · exact .inr rfl
  · intro user huser hshaped
    simp only [Db.tvOwners, Db.identities, List.map_append, List.map_cons, List.map_nil,
      List.mem_append, List.mem_singleton] at huser ⊢
    rcases huser with huser | rfl
    · obtain ⟨code, hcode, hemail⟩ := h.issued user huser hshaped
      exact ⟨code, .inl hcode, hemail⟩
    · exact ⟨code, .inr rfl, rfl⟩
  · intro id hid
    simp only [Db.subscribers, Db.identities, List.map_append, List.map_cons, List.map_nil,
      List.mem_append, List.mem_singleton] at hid ⊢
    rcases hid with hid | rfl
    · obtain ⟨email, hmem⟩ := h.subscribed id hid
      exact ⟨email, .inl hmem⟩
    · exact ⟨_, .inr rfl⟩

theorem Issued.insertUser {user : User} (h : Issued letters d)
    (hplain : ¬ TvShaped letters user.email) (hok : d.insertUser letters user = .ok d') :
    Issued letters d' := by
  obtain ⟨-, rfl⟩ := insertUser_ok_iff.1 hok
  constructor
  · intro owner howner
    exact List.mem_map.2 (by
      obtain ⟨row, hrow, heq⟩ := List.mem_map.1 (h.owned owner howner)
      exact ⟨row, List.mem_append_left _ hrow, heq⟩)
  · intro other hother hshaped
    simp only [Db.identities, List.map_append, List.map_cons, List.map_nil, List.mem_append,
      List.mem_singleton] at hother
    rcases hother with hother | rfl
    · exact h.issued other hother hshaped
    · exact absurd hshaped hplain
  · intro id hid
    obtain ⟨email, hmem⟩ := h.subscribed id hid
    exact ⟨email, by
      obtain ⟨row, hrow, heq⟩ := List.mem_map.1 hmem
      exact List.mem_map.2 ⟨row, List.mem_append_left _ hrow, heq⟩⟩

theorem mem_tvOwners_withoutRowsOf {owner : Uuid × String} :
    owner ∈ (d.withoutRowsOf userId).tvOwners ↔ owner ∈ d.tvOwners ∧ owner.1 ≠ userId := by
  unfold Db.withoutRowsOf Db.tvOwners
  simp only [List.mem_map, List.mem_filter, decide_eq_true_eq]
  constructor
  · rintro ⟨row, ⟨hrow, hne⟩, rfl⟩
    exact ⟨⟨row, hrow, rfl⟩, hne⟩
  · rintro ⟨⟨row, hrow, rfl⟩, hne⟩
    exact ⟨row, ⟨hrow, hne⟩, rfl⟩

theorem Issued.deleteTvAccessCode (h : Issued letters d)
    (hok : deleteTvAccessCode referenced id d = .ok d') : Issued letters d' := by
  unfold MovieApi.Accounts.deleteTvAccessCode at hok
  split at hok
  · simp at hok
  · next row hrow =>
      have howner : (row.userId, row.code) ∈ d.tvOwners :=
        List.mem_map.2 ⟨row, mem_of_lookup hrow, rfl⟩
      split at hok
      · next hnone => exact absurd (h.owned _ howner) (user?_eq_none_iff.1 hnone _)
      · next user huser =>
          rw [guarded_ok_iff, not_or] at hok
          obtain ⟨⟨hunsubscribed, -⟩, rfl⟩ := hok
          have hunsubscribed : user.id ∉ d.subscribers := by
            rw [← subscription?_eq_none_iff]
            simpa using hunsubscribed
          have hmem : ∀ other : Uuid × String,
              other ∈ (Sql.remove User.id user.id d.users).map (fun user => (user.id, user.email)) ↔
                other ∈ d.identities ∧ other.1 ≠ user.id := by
            intro other
            unfold Db.identities
            simp only [List.mem_map, mem_remove]
            constructor
            · rintro ⟨row, ⟨hrow, hne⟩, rfl⟩
              exact ⟨⟨row, hrow, rfl⟩, hne⟩
            · rintro ⟨⟨row, hrow, rfl⟩, hne⟩
              exact ⟨row, ⟨hrow, hne⟩, rfl⟩
          constructor
          · intro owner howner
            obtain ⟨howner, hne⟩ := mem_tvOwners_withoutRowsOf.1 howner
            exact (hmem _).2 ⟨h.owned owner howner, hne⟩
          · intro other hother hshaped
            obtain ⟨hother, hne⟩ := (hmem other).1 hother
            obtain ⟨code, hcode, hemail⟩ := h.issued other hother hshaped
            exact ⟨code, mem_tvOwners_withoutRowsOf.2 ⟨hcode, hne⟩, hemail⟩
          · intro id hid
            obtain ⟨email, hemail⟩ := h.subscribed id hid
            have hne : id ≠ user.id := fun heq => hunsubscribed (heq ▸ hid)
            exact ⟨email, (hmem _).2 ⟨hemail, hne⟩⟩

/-- A deleted account keeps its id and takes the placeholder for an email. -/
theorem deleteUserAccount_names {user : User} (hok : deleteUserAccount letters user d = .ok d') :
    d'.identities = d.identities.map (fun other => if other.1 = user.id then
        (other.1, Deletion.placeholderEmail user.id) else other) ∧
      d'.tvOwners = (d.withoutRowsOf user.id).tvOwners ∧ d'.subscribers = d.subscribers := by
  unfold deleteUserAccount at hok
  split at hok
  · simp at hok
  · rw [guarded_ok_iff] at hok
    obtain ⟨-, rfl⟩ := hok
    refine ⟨?_, rfl, rfl⟩
    unfold Db.identities Db.updateUser Sql.modify Db.withoutRowsOf
    rw [List.map_map, List.map_map]
    refine List.map_congr_left fun other _ => ?_
    by_cases h : other.id = user.id
    · simp [h]
    · simp [h]

theorem Issued.deleteUserAccount {user : User} (h : Issued letters d)
    (hok : deleteUserAccount letters user d = .ok d') : Issued letters d' := by
  obtain ⟨hidentities, howners, hsubscribers⟩ := deleteUserAccount_names hok
  constructor
  · intro owner howner
    rw [howners, mem_tvOwners_withoutRowsOf] at howner
    rw [hidentities, List.mem_map]
    exact ⟨_, h.owned owner howner.1, if_neg howner.2⟩
  · intro other hother hshaped
    rw [hidentities, List.mem_map] at hother
    obtain ⟨old, hold, rfl⟩ := hother
    by_cases hid : old.1 = user.id
    · rw [if_pos hid] at hshaped
      exact absurd hshaped (not_tvShaped_placeholder letters user.id)
    · rw [if_neg hid] at hshaped ⊢
      obtain ⟨code, hcode, hemail⟩ := h.issued old hold hshaped
      rw [howners]
      exact ⟨code, mem_tvOwners_withoutRowsOf.2 ⟨hcode, hid⟩, hemail⟩
  · intro id hid
    rw [hsubscribers] at hid
    obtain ⟨email, hemail⟩ := h.subscribed id hid
    rw [hidentities]
    by_cases heq : id = user.id
    · exact ⟨_, List.mem_map.2 ⟨_, hemail, if_pos heq⟩⟩
    · exact ⟨_, List.mem_map.2 ⟨_, hemail, if_neg heq⟩⟩

/-! ## Runs -/

/-- One call, or any change to other columns.  Nobody signs up with the email of a
TV user: its domain is not one that mail can be sent to. -/
inductive TvStep (site : TvSite) (referenced : Uuid → Bool) (d : Db) : Db → Prop
  | create {now : Instant} {userId id : Uuid} {hashed : String} {bodies : Nat → String}
      {data : TvAccessCodeCreate} {read : TvAccessCodeRead} {d' : Db}
      (h : createTvAccessCode site now userId id hashed bodies data d = .ok (read, d')) :
      TvStep site referenced d d'
  | update {now : Instant} {id : Uuid} {data : TvAccessCodeUpdate} {read : TvAccessCodeRead}
      {d' : Db} (h : updateTvAccessCode site now id data d = .ok (read, d')) :
      TvStep site referenced d d'
  | delete {id : Uuid} {d' : Db} (h : deleteTvAccessCode referenced id d = .ok d') :
      TvStep site referenced d d'
  | signUp {user : User} {d' : Db} (hplain : ¬ TvShaped site.toLetters user.email)
      (h : d.insertUser site.toLetters user = .ok d') : TvStep site referenced d d'
  | deleteAccount {user : User} {d' : Db}
      (h : deleteUserAccount site.toLetters user d = .ok d') : TvStep site referenced d d'
  /-- sign-ins, password changes, payments for existing users -/
  | other {d' : Db} (husers : d'.identities = d.identities) (howners : d'.tvOwners = d.tvOwners)
      (hsubscribers : ∀ id ∈ d'.subscribers, ∃ email, (id, email) ∈ d'.identities) :
      TvStep site referenced d d'

theorem Issued.step (h : Issued site.toLetters d) (hstep : TvStep site referenced d d') :
    Issued site.toLetters d' := by
  cases hstep with
  | create hok =>
      obtain ⟨-, code, -, hrows⟩ := createTvAccessCode_ok_iff.1 hok
      exact h.insertTvRows hrows
  | update hok => exact h.of_sameNames (sameNames_updateTvAccessCode hok)
  | delete hok => exact h.deleteTvAccessCode hok
  | signUp hplain hok => exact h.insertUser hplain hok
  | deleteAccount hok => exact h.deleteUserAccount hok
  | other husers howners hsubscribers => exact h.of_same husers howners hsubscribers

def emptyDb : Db := { users := [], sessions := [], resetTokens := [] }

abbrev TvReaches (site : TvSite) (referenced : Uuid → Bool) : Db → Db → Prop :=
  Relation.ReflTransGen (TvStep site referenced)

theorem issued_of_reaches (hrun : TvReaches site referenced emptyDb d) :
    Issued site.toLetters d := by
  induction hrun with
  | refl => exact ⟨by simp [Db.tvOwners, emptyDb], by simp [Db.identities, emptyDb],
      by simp [Db.subscribers, emptyDb]⟩
  | tail _ hstep ih => exact ih.step hstep

/-! ## Which codes can be issued -/

/-- With fresh keys, what stands in the way of a new code is another code that only
case and dashes tell apart from it. -/
theorem Issued.free_iff (h : Issued site.toLetters d)
    (hnew : ∀ row ∈ d.tvAccessCodes, row.code ≠ code) (huser : d.user? userId = none)
    (hid : d.tvAccessCode? id = none) :
    Free site data userId id code d ↔
      (∀ row ∈ d.tvAccessCodes, bareCode site.toLetters row.code ≠ bareCode site.toLetters code) ∧
        site.allowsStatus data.status = true := by
  rw [user?_eq_none_iff] at huser
  constructor
  · intro hfree
    refine ⟨fun row hrow hbare => ?_, hfree.status⟩
    have howned := h.owned (row.userId, row.code) (List.mem_map.2 ⟨row, hrow, rfl⟩)
    exact (hfree.user _ howned).2 (citext_tvEmail_eq_iff.2 hbare)
  · rintro ⟨hbare, hstatus⟩
    refine ⟨fun other hother => ⟨?_, ?_⟩, hstatus, ?_, fun other hother => ⟨?_, hnew other hother, ?_⟩⟩
    · intro heq
      exact huser other.2 (heq ▸ hother)
    · intro hclash
      obtain ⟨code', hcode', hemail⟩ := h.issued other hother ⟨_, hclash⟩
      obtain ⟨row, hrow, heq⟩ := List.mem_map.1 hcode'
      have hcode : row.code = code' := congrArg Prod.snd heq
      rw [hemail, citext_tvEmail_eq_iff, ← hcode] at hclash
      exact hbare row hrow hclash
    · intro hmem
      obtain ⟨email, hemail⟩ := h.subscribed userId hmem
      exact huser email hemail
    · exact lookup_eq_none.1 hid other hother
    · intro heq
      have howned := h.owned (other.userId, other.code) (List.mem_map.2 ⟨other, hother, rfl⟩)
      rw [heq] at howned
      exact huser _ howned

theorem normalizeCode_ne_empty {value : String} (h : normalizeCode letters value = .ok code) :
    code ≠ "" := by
  unfold normalizeCode at h
  dsimp only at h
  split at h
  · simp at h
  · next hshort =>
      rw [guarded_ok_iff] at h
      obtain ⟨-, hcode⟩ := h
      rintro rfl
      have hnil : ((letters.upper (letters.strip value)).toList.filter fun ch =>
          letters.isAlnum ch || ch == '-' || ch == '_') = [] := by
        simpa using (congrArg String.toList hcode).symm
      rw [hnil] at hshort
      exact hshort (by decide)

theorem validate_code_ne_empty (h : raw.validate letters = .ok data)
    (hcode : data.code = some code) : code ≠ "" := by
  unfold TvAccessCodeCreate.validate at h
  rw [bind_ok_iff] at h
  obtain ⟨label, -, h⟩ := h
  rw [bind_ok_iff] at h
  obtain ⟨code', hnormalize, h⟩ := h
  have hdata : data.code = code' := congrArg TvAccessCodeCreate.code (Except.ok.inj h).symm
  rw [hcode] at hdata
  subst hdata
  unfold normalizeOptionalCode at hnormalize
  split at hnormalize
  · simp at hnormalize
  · split at hnormalize
    · simp at hnormalize
    · rw [bind_ok_iff] at hnormalize
      obtain ⟨cleaned, hcleaned, hsome⟩ := hnormalize
      have hsame : cleaned = code := Option.some.inj (Except.ok.inj hsome)
      exact hsame ▸ normalizeCode_ne_empty hcleaned

/-- A code that is asked for and not issued yet can be issued, with an email of its
own, exactly when no issued code is the same but for case and dashes and the
table allows the status of the subscription. -/
theorem createTvAccessCode_succeeds_iff (hrun : TvReaches site referenced emptyDb d)
    (hraw : raw.validate site.toLetters = .ok data) (hcode : data.code = some code)
    (hnew : ∀ row ∈ d.tvAccessCodes, row.code ≠ code) (hfuture : now < data.expiresAt)
    (huser : d.user? userId = none) (hid : d.tvAccessCode? id = none) :
    ((∃ read d', createTvAccessCode site now userId id hashed bodies data d = .ok (read, d')) ∧
      ∀ row ∈ d.tvAccessCodes, tvEmail site.toLetters row.code ≠ tvEmail site.toLetters code) ↔
    (∀ row ∈ d.tvAccessCodes, bareCode site.toLetters row.code ≠ bareCode site.toLetters code) ∧
      site.allowsStatus data.status = true := by
  have hfree : Free site data userId id code d ↔
      (∀ row ∈ d.tvAccessCodes,
        bareCode site.toLetters row.code ≠ bareCode site.toLetters code) ∧
        site.allowsStatus data.status = true :=
    (issued_of_reaches hrun).free_iff hnew huser hid
  have hunique : uniqueCode bodies data.code d = .ok code :=
    uniqueCode_requested hcode (validate_code_ne_empty hraw hcode) hnew
  rw [← hfree]
  constructor
  · rintro ⟨⟨read, d', hok⟩, -⟩
    obtain ⟨-, code', hcode', hrows⟩ := createTvAccessCode_ok_iff.1 hok
    have hsame : code' = code := by simpa [hunique] using hcode'.symm
    rw [hsame] at hrows
    exact (insertTvRows_ok_iff.1 hrows).1
  · intro hfree'
    refine ⟨⟨_, _, createTvAccessCode_ok_iff.2 ⟨hfuture, code, hunique,
      insertTvRows_ok_iff.2 ⟨hfree', rfl, rfl⟩⟩⟩, fun row hrow hemail => ?_⟩
    have hbare := (hfree.1 hfree').1 row hrow
    exact hbare (citext_tvEmail_eq_iff.1 (congrArg site.citext hemail))

/-! ## Two codes with one email -/

/-- ASCII, and the statuses that the migrations allow. -/
def asciiSite : TvSite where
  strip text := text
  upper text := String.ofList (text.toList.map Char.toUpper)
  lower text := String.ofList (text.toList.map Char.toLower)
  isAlnum := Char.isAlphanum
  fold := Char.toLower
  fold_lowercase c ha _ := by
    have hupper : ¬ (c.val ≥ 65 ∧ c.val ≤ 90) := fun h =>
      absurd (UInt32.le_trans (Char.le_def.1 ha) h.2) (by decide)
    simp [Char.toLower, hupper]
  allowsStatus status := ["active", "grace", "expired"].contains status

def request (code : String) (isActive : Bool) : TvAccessCodeCreate :=
  { label := none, expiresAt := 100, code := some code, isActive := isActive }

def firstCodeDb : Db :=
  { emptyDb with
    users := [(request "AB-CD" true).user asciiSite.toLetters 1 "hash" "AB-CD"]
    subscriptions := [(request "AB-CD" true).subscription 0 1]
    tvAccessCodes := [(request "AB-CD" true).row 1 1 "AB-CD"] }

theorem firstCodeDb_reached : TvReaches asciiSite (fun _ => false) emptyDb firstCodeDb := by
  have hcreate : createTvAccessCode asciiSite 0 1 1 "hash" (fun _ => "") (request "AB-CD" true)
      emptyDb = .ok (((request "AB-CD" true).row 1 1 "AB-CD").toRead 0, firstCodeDb) := by
    decide +kernel
  exact .single (.create hcreate)

/-- Next to `AB-CD`, the code `xy_12` can be issued. -/
theorem second_code_issued :
    (∃ read d', createTvAccessCode asciiSite 0 2 2 "hash" (fun _ => "") (request "XY_12" true)
      firstCodeDb = .ok (read, d')) ∧
    ∀ row ∈ firstCodeDb.tvAccessCodes,
      tvEmail asciiSite.toLetters row.code ≠ tvEmail asciiSite.toLetters "XY_12" := by
  have hraw : (request "xy_12" true).validate asciiSite.toLetters = .ok (request "XY_12" true) := by
    decide +kernel
  exact (createTvAccessCode_succeeds_iff firstCodeDb_reached hraw rfl (by decide) (by decide)
    (by decide) (by decide)).2 (by decide +kernel)

/-- Next to `AB-CD`, the code `abcd` cannot, and no code can be issued inactive. -/
theorem dashless_code_refused :
    TvReaches asciiSite (fun _ => false) emptyDb firstCodeDb ∧
    (request "abcd" true).validate asciiSite.toLetters = .ok (request "ABCD" true) ∧
    (∀ row ∈ firstCodeDb.tvAccessCodes, row.code ≠ "ABCD") ∧
    createTvAccessCode asciiSite 0 2 2 "hash" (fun _ => "") (request "ABCD" true) firstCodeDb =
      .error .integrity ∧
    createTvAccessCode asciiSite 0 2 2 "hash" (fun _ => "") (request "XY_12" false) firstCodeDb =
      .error .integrity :=
  ⟨firstCodeDb_reached, by decide +kernel, by decide, by decide +kernel, by decide +kernel⟩

end MovieApi.Accounts
