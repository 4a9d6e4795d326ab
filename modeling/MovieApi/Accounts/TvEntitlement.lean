import MovieApi.Accounts.Service
import MovieApi.Accounts.TvEmails
import MovieApi.Accounts.Concurrent.TvLogin

/-!
# What a TV access code unlocks

The television of a code plays on the subscription of the code's own user.  No
foreign key ties that subscription to the code: every request that changes the one
has to change the other by hand.  Requests are served one after another here.
-/

namespace MovieApi.Accounts

open Sql
open Concurrent (invalidTvId tvIdExpired lookedUp)

/-! ## Requests -/

/-- `user_has_active_subscription`. -/
def Db.userHasActiveSubscription (now : Instant) (userId : Uuid) (d : Db) : Bool :=
  d.subscriptions.any fun subscription =>
    decide (subscription.userId = userId ∧ subscription.status = "active" ∧
      now < subscription.currentPeriodEnd)

/-- The subscription of a code that signs in. -/
def TvAccessCode.renew (row : TvAccessCode) (subscription : Subscription) : Subscription :=
  { subscription with status := "active", currentPeriodEnd := row.expiresAt }

/-- `login_with_tv_access_code`, with what it leaves committed. -/
def loginWithTvAccessCode (letters : Letters) (settings : Settings) (now : Instant)
    (sessionId : Uuid) (rawCode : String) (d : Db) : Except Err Claims × Db :=
  match (d.tvAccessCodes.find? fun row =>
      decide (row.code = lookedUp letters rawCode)).filter TvAccessCode.isActive with
  | none => (.error invalidTvId, d)
  | some row =>
      if row.expired now then (.error tvIdExpired, d)
      else
        match (d.user? row.userId).filter User.isActive with
        | none => (.error invalidTvId, d)
        | some user =>
            let d := (d.updateTvSubscription user.id row.renew).revokeAll user.id now
            match createSession settings now sessionId user.id d with
            | .error err => (.error err, d)
            | .ok d => (.ok (createAccessToken settings now user sessionId 0), d)

/-- A call that fails is rolled back. -/
def committed (d : Db) : Except Err Db → Db
  | .ok d' => d'
  | .error _ => d

theorem committed_cases {d : Db} {P : Db → Prop} {result : Except Err Db} (hrollback : P d)
    (hcommit : ∀ d', result = .ok d' → P d') : P (committed d result) := by
  cases result with
  | error err => exact hrollback
  | ok d' => exact hcommit d' rfl

theorem map_snd_ok {α : Type} {result : Except Err (α × Db)} {d' : Db}
    (h : result.map Prod.snd = .ok d') : ∃ a, result = .ok (a, d') := by
  cases result with
  | error err => cases h
  | ok pair => exact ⟨pair.1, by rw [← Except.ok.inj h]⟩

inductive TvRequest where
  | create (userId id : Uuid) (hashed : String) (bodies : Nat → String)
      (data : TvAccessCodeCreate)
  | update (id : Uuid) (data : TvAccessCodeUpdate)
  | delete (id : Uuid)
  | login (sessionId : Uuid) (rawCode : String)
  | deleteAccount (user : User)

namespace TvRequest

/-- What a request leaves committed. -/
def serve (site : TvSite) (settings : Settings) (referenced : Uuid → Bool) (now : Instant)
    (d : Db) : TvRequest → Db
  | create userId id hashed bodies data =>
      committed d ((createTvAccessCode site now userId id hashed bodies data d).map Prod.snd)
  | update id data => committed d ((updateTvAccessCode site now id data d).map Prod.snd)
  | delete id => committed d (deleteTvAccessCode referenced id d)
  | login sessionId rawCode =>
      (loginWithTvAccessCode site.toLetters settings now sessionId rawCode d).2
  | deleteAccount user => committed d (deleteUserAccount site.toLetters user d)

/-- The code an administrator makes or changes. -/
def managed : TvRequest → Option Uuid
  | create _ id _ _ _ => some id
  | update id _ => some id
  | _ => none

end TvRequest

/-- One request, or something else that leaves the codes and the subscriptions of
their users alone: sign-ups, other sign-ins, payments for other users. -/
inductive TvMove (site : TvSite) (settings : Settings) (referenced : Uuid → Bool) (d : Db) :
    Option Uuid → Db → Prop
  | request (now : Instant) (request : TvRequest) :
      TvMove site settings referenced d request.managed
        (request.serve site settings referenced now d)
  | other {d' : Db} (hcodes : d'.tvAccessCodes = d.tvAccessCodes)
      (hunique : Sql.Unique Subscription.userId d'.subscriptions)
      (hkept : ∀ row ∈ d.tvAccessCodes, ∀ subscription : Subscription,
        subscription.userId = row.userId →
          (subscription ∈ d'.subscriptions ↔ subscription ∈ d.subscriptions)) :
      TvMove site settings referenced d none d'

/-- Any number of moves. -/
abbrev TvRuns (site : TvSite) (settings : Settings) (referenced : Uuid → Bool) : Db → Db → Prop :=
  Relation.ReflTransGen fun d d' => ∃ managed, TvMove site settings referenced d managed d'

/-- Any number of moves, none of them an administrator's change of the code. -/
abbrev TvRunsWithout (site : TvSite) (settings : Settings) (referenced : Uuid → Bool)
    (id : Uuid) : Db → Db → Prop :=
  Relation.ReflTransGen fun d d' =>
    ∃ managed, managed ≠ some id ∧ TvMove site settings referenced d managed d'

/-! ## Codes and their subscriptions -/

/-- The subscription is the one of the code: it ends with the code, and is active
only if the code is. -/
structure TvAccessCode.Matches (row : TvAccessCode) (subscription : Subscription) : Prop where
  userId : subscription.userId = row.userId
  plan : subscription.plan = tvPlan
  ends : subscription.currentPeriodEnd = row.expiresAt
  active : subscription.status = "active" → row.isActive = true

structure Db.InStep (d : Db) : Prop where
  subscribers : Sql.Unique Subscription.userId d.subscriptions
  ids : Sql.Unique TvAccessCode.id d.tvAccessCodes
  codes : Sql.Unique TvAccessCode.code d.tvAccessCodes
  owners : Sql.Unique TvAccessCode.userId d.tvAccessCodes
  matched : ∀ row ∈ d.tvAccessCodes, ∃ subscription ∈ d.subscriptions, row.Matches subscription

/-- The subscription of the code is active. -/
def Db.Unlocked (id : Uuid) (d : Db) : Prop :=
  ∀ row ∈ d.tvAccessCodes, row.id = id → ∀ subscription ∈ d.subscriptions,
    subscription.userId = row.userId → subscription.status = "active"

variable {site : TvSite} {settings : Settings} {referenced : Uuid → Bool} {d d' : Db}
  {row : TvAccessCode} {now : Instant} {id : Uuid} {f : Subscription → Subscription}

theorem mem_updateTvSubscription {userId : Uuid} {subscription : Subscription} :
    subscription ∈ (d.updateTvSubscription userId f).subscriptions ↔
      ∃ old ∈ d.subscriptions, subscription =
        if old.userId = userId ∧ old.plan = tvPlan then f old else old := by
  simp [Db.updateTvSubscription, eq_comm]

theorem updateTvSubscription_userIds (hf : ∀ s, (f s).userId = s.userId) (userId : Uuid) :
    (d.updateTvSubscription userId f).subscriptions.map Subscription.userId =
      d.subscriptions.map Subscription.userId :=
  map_update hf d.subscriptions

namespace Db.InStep

theorem empty : emptyDb.InStep := by
  constructor
  · exact List.nodup_nil
  · exact List.nodup_nil
  · exact List.nodup_nil
  · exact List.nodup_nil
  · intro row hrow
    cases hrow

/-- A code and its subscription change together. -/
theorem rewrite (h : d.InStep) (hrow : row ∈ d.tvAccessCodes) {g : TvAccessCode → TvAccessCode}
    (hcodes : d'.tvAccessCodes = Sql.modify TvAccessCode.id row.id g d.tvAccessCodes)
    (hsubscriptions : d'.subscriptions = (d.updateTvSubscription row.userId f).subscriptions)
    (hg : ∀ r, (g r).id = r.id ∧ (g r).code = r.code ∧ (g r).userId = r.userId)
    (hf : ∀ s, (f s).userId = s.userId)
    (hmatch : ∀ s, row.Matches s → (g row).Matches (f s)) : d'.InStep := by
  constructor
  · unfold Sql.Unique
    rw [hsubscriptions, updateTvSubscription_userIds hf]
    exact h.subscribers
  · rw [hcodes]
    exact h.ids.modify fun r hr => (hg r).1.trans hr
  · unfold Sql.Unique
    rw [hcodes, map_modify fun r _ => (hg r).2.1]
    exact h.codes
  · unfold Sql.Unique
    rw [hcodes, map_modify fun r _ => (hg r).2.2]
    exact h.owners
  · intro row' hrow'
    rw [hcodes, mem_modify] at hrow'
    obtain ⟨old, hold, rfl⟩ := hrow'
    obtain ⟨subscription, hmem, hmatches⟩ := h.matched old hold
    by_cases hid : old.id = row.id
    · obtain rfl : old = row := List.inj_on_of_nodup_map h.ids hold hrow hid
      refine ⟨f subscription, ?_, by simpa using hmatch subscription hmatches⟩
      rw [hsubscriptions, mem_updateTvSubscription]
      exact ⟨subscription, hmem, by rw [if_pos ⟨hmatches.userId, hmatches.plan⟩]⟩
    · refine ⟨subscription, ?_, by simpa [hid] using hmatches⟩
      rw [hsubscriptions, mem_updateTvSubscription]
      refine ⟨subscription, hmem, ?_⟩
      rw [if_neg]
      rintro ⟨huser, -⟩
      exact hid (congrArg TvAccessCode.id (List.inj_on_of_nodup_map h.owners hold hrow
        (hmatches.userId.symm.trans huser)))

/-- Codes go, with the rows of their users. -/
theorem remove (h : d.InStep) {keep : TvAccessCode → Bool}
    (hcodes : d'.tvAccessCodes = d.tvAccessCodes.filter keep)
    (hsubscriptions : d'.subscriptions = d.subscriptions) : d'.InStep := by
  have hsublist : d'.tvAccessCodes.Sublist d.tvAccessCodes := hcodes ▸ List.filter_sublist
  constructor
  · rw [hsubscriptions]
    exact h.subscribers
  · exact h.ids.sublist (hsublist.map _)
  · exact h.codes.sublist (hsublist.map _)
  · exact h.owners.sublist (hsublist.map _)
  · intro row hrow
    rw [hsubscriptions]
    exact h.matched row (hsublist.mem hrow)

theorem create (h : d.InStep) {userId id : Uuid} {hashed code : String}
    {data : TvAccessCodeCreate} {read : TvAccessCodeRead}
    (hok : insertTvRows site now userId id hashed data d code = .ok (read, d')) : d'.InStep := by
  obtain ⟨hfree, -, rfl⟩ := insertTvRows_ok_iff.1 hok
  constructor
  · exact Unique.append h.subscribers
      (subscription?_eq_none_iff.2 hfree.subscriber)
  · exact Unique.append h.ids (lookup_eq_none.2 fun r hr => (hfree.row r hr).1)
  · exact Unique.append h.codes (lookup_eq_none.2 fun r hr => (hfree.row r hr).2.1)
  · exact Unique.append h.owners (lookup_eq_none.2 fun r hr => (hfree.row r hr).2.2)
  · intro row hrow
    rcases List.mem_append.1 hrow with hold | hnew
    · obtain ⟨subscription, hmem, hmatches⟩ := h.matched row hold
      exact ⟨subscription, List.mem_append_left _ hmem, hmatches⟩
    · rw [List.mem_singleton] at hnew
      subst hnew
      refine ⟨data.subscription now userId, List.mem_append_right _ (by simp), rfl, rfl, rfl, ?_⟩
      intro hactive
      cases hon : data.isActive with
      | true => exact hon
      | false => simp [TvAccessCodeCreate.subscription, TvAccessCodeCreate.status, hon] at hactive

end Db.InStep

/-! ## What each request does -/

namespace TvAccessCodeUpdate

/-- The status an update gives the subscription. -/
def status (now expiresAt : Instant) (data : TvAccessCodeUpdate) (status : String) : String :=
  match data.isActive with
  | none => status
  | some isActive => if isActive && !decide (expiresAt ≤ now) then "active" else "cancelled"

def extend (data : TvAccessCodeUpdate) (subscription : Subscription) : Subscription :=
  { subscription with
    currentPeriodEnd := data.expiresAt.getD subscription.currentPeriodEnd }

def switch (now expiresAt : Instant) (data : TvAccessCodeUpdate) (subscription : Subscription) :
    Subscription :=
  { subscription with status := data.status now expiresAt subscription.status }

/-- The subscription of a code after an update. -/
def onSubscription (now : Instant) (row : TvAccessCode) (data : TvAccessCodeUpdate)
    (subscription : Subscription) : Subscription :=
  data.switch now (data.expiresAt.getD row.expiresAt) (data.extend subscription)

/-- The code after an update. -/
def onCode (row : TvAccessCode) (data : TvAccessCodeUpdate)
    (old : TvAccessCode) : TvAccessCode :=
  { old with
    label := data.label.getD row.label
    expiresAt := data.expiresAt.getD row.expiresAt
    isActive := data.isActive.getD row.isActive }

end TvAccessCodeUpdate

theorem subscriptions_update {d₁ : Db} (hsame : d₁.subscriptions = d.subscriptions)
    (userId : Uuid) (f : Subscription → Subscription) :
    (d₁.updateTvSubscription userId f).subscriptions =
      (d.updateTvSubscription userId f).subscriptions := by
  unfold Db.updateTvSubscription
  rw [hsame]

theorem subscriptions_update_update {userId : Uuid} {f g : Subscription → Subscription}
    (hf : ∀ s, (f s).userId = s.userId ∧ (f s).plan = s.plan) (d : Db) :
    ((d.updateTvSubscription userId f).updateTvSubscription userId g).subscriptions =
      (d.updateTvSubscription userId fun s => g (f s)).subscriptions := by
  simp only [Db.updateTvSubscription, List.map_map]
  refine List.map_congr_left fun s _ => ?_
  by_cases htv : s.userId = userId ∧ s.plan = tvPlan
  · simp [htv, hf]
  · simp [htv]

theorem subscriptions_update_same (userId : Uuid) (d : Db) :
    (d.updateTvSubscription userId fun s => s).subscriptions = d.subscriptions := by
  simp [Db.updateTvSubscription]

theorem relabelTv_rows (data : TvAccessCodeUpdate) (row : TvAccessCode) (d : Db) :
    (relabelTv data row d).1 = { row with label := data.label.getD row.label } ∧
      (relabelTv data row d).2.subscriptions = d.subscriptions ∧
      (relabelTv data row d).2.tvAccessCodes = d.tvAccessCodes := by
  unfold relabelTv
  cases data.label with
  | none => exact ⟨rfl, rfl, rfl⟩
  | some label => exact ⟨rfl, rfl, rfl⟩

theorem extendTv_rows (data : TvAccessCodeUpdate) (row : TvAccessCode) (d : Db) :
    (extendTv data row d).1 = { row with expiresAt := data.expiresAt.getD row.expiresAt } ∧
      (extendTv data row d).2.subscriptions =
        (d.updateTvSubscription row.userId data.extend).subscriptions ∧
      (extendTv data row d).2.tvAccessCodes = d.tvAccessCodes := by
  unfold extendTv TvAccessCodeUpdate.extend
  cases data.expiresAt with
  | none => exact ⟨rfl, (subscriptions_update_same row.userId d).symm, rfl⟩
  | some expiresAt => exact ⟨rfl, rfl, rfl⟩

theorem switchTv_rows {data : TvAccessCodeUpdate} {row' : TvAccessCode}
    (hok : switchTv site now data row d = .ok (row', d')) :
    row' = { row with isActive := data.isActive.getD row.isActive } ∧
      d'.subscriptions =
        (d.updateTvSubscription row.userId (data.switch now row.expiresAt)).subscriptions ∧
      d'.tvAccessCodes = d.tvAccessCodes := by
  unfold switchTv at hok
  unfold TvAccessCodeUpdate.switch TvAccessCodeUpdate.status
  cases hactive : data.isActive with
  | none =>
      simp only [hactive, Except.ok.injEq, Prod.mk.injEq] at hok
      obtain ⟨rfl, rfl⟩ := hok
      exact ⟨rfl, (subscriptions_update_same row.userId d).symm, rfl⟩
  | some isActive =>
      simp only [hactive] at hok
      rw [guarded_ok_iff] at hok
      obtain ⟨-, hpair⟩ := hok
      obtain ⟨rfl, rfl⟩ := Prod.mk.inj hpair
      exact ⟨rfl, rfl, rfl⟩

theorem updateTvAccessCode_rows {data : TvAccessCodeUpdate} {read : TvAccessCodeRead}
    (hok : updateTvAccessCode site now id data d = .ok (read, d')) :
    ∃ row, d.tvAccessCode? id = some row ∧
      d'.subscriptions =
        (d.updateTvSubscription row.userId (data.onSubscription now row)).subscriptions ∧
      d'.tvAccessCodes = Sql.modify TvAccessCode.id row.id (data.onCode row) d.tvAccessCodes := by
  unfold updateTvAccessCode at hok
  split at hok
  · simp at hok
  · next row hrow =>
      refine ⟨row, hrow, ?_⟩
      rw [bind_ok_iff] at hok
      obtain ⟨⟨row', d₁⟩, hswitch, hresult⟩ := hok
      rw [← (Prod.mk.inj (Except.ok.inj hresult)).2]
      obtain ⟨hlabel, hsubscriptions₀, hcodes₀⟩ := relabelTv_rows data row d
      obtain ⟨hexpiry, hsubscriptions₁, hcodes₁⟩ :=
        extendTv_rows data (relabelTv data row d).1 (relabelTv data row d).2
      obtain ⟨hactive, hsubscriptions₂, hcodes₂⟩ := switchTv_rows hswitch
      rw [hexpiry, hlabel] at hactive hsubscriptions₂
      rw [hlabel, subscriptions_update hsubscriptions₀] at hsubscriptions₁
      constructor
      · exact hsubscriptions₂.trans ((subscriptions_update hsubscriptions₁ row.userId _).trans
          (subscriptions_update_update (f := data.extend) (fun s => ⟨rfl, rfl⟩) d))
      · change Sql.modify TvAccessCode.id row'.id _ d₁.tvAccessCodes = _
        rw [hcodes₂, hcodes₁, hcodes₀, hactive]
        rfl

/-- A sign-in renews the subscription of its code, or leaves everything as it was. -/
theorem loginWithTvAccessCode_rows {sessionId : Uuid} {rawCode : String}
    {result : Except Err Claims × Db}
    (h : loginWithTvAccessCode site.toLetters settings now sessionId rawCode d = result) :
    result.2 = d ∧ result.1.isOk = false ∨
      ∃ row, (d.tvAccessCodes.find? fun row =>
          decide (row.code = lookedUp site.toLetters rawCode)) = some row ∧
        row.isActive = true ∧
        result.2.subscriptions = (d.updateTvSubscription row.userId row.renew).subscriptions ∧
        result.2.tvAccessCodes = d.tvAccessCodes := by
  unfold loginWithTvAccessCode at h
  split at h
  · exact .inl (h ▸ ⟨rfl, rfl⟩)
  · next row hfound =>
      obtain ⟨hrow, hactive⟩ := Option.filter_eq_some_iff.1 hfound
      split at h
      · exact .inl (h ▸ ⟨rfl, rfl⟩)
      · split at h
        · exact .inl (h ▸ ⟨rfl, rfl⟩)
        · next user huser =>
            have hid : user.id = row.userId :=
              key_of_lookup (Option.filter_eq_some_iff.1 huser).1
            refine .inr ⟨row, hrow, hactive, ?_⟩
            simp only [hid] at h
            split at h
            · exact h ▸ ⟨rfl, rfl⟩
            · next d₁ hcreated =>
                rw [← h]
                obtain ⟨-, -, -, hd₁⟩ := createSession_ok hcreated
                subst hd₁
                exact ⟨rfl, rfl⟩

theorem deleteTvAccessCode_rows (hok : deleteTvAccessCode referenced id d = .ok d') :
    ∃ keep, d'.tvAccessCodes = d.tvAccessCodes.filter keep ∧
      d'.subscriptions = d.subscriptions := by
  unfold deleteTvAccessCode at hok
  split at hok
  · simp at hok
  · next row hrow =>
      split at hok
      · cases hok
        exact ⟨_, rfl, rfl⟩
      · next user huser =>
          rw [guarded_ok_iff] at hok
          rw [hok.2]
          exact ⟨_, rfl, rfl⟩

theorem deleteUserAccount_rows {user : User}
    (hok : deleteUserAccount site.toLetters user d = .ok d') :
    ∃ keep, d'.tvAccessCodes = d.tvAccessCodes.filter keep ∧
      d'.subscriptions = d.subscriptions := by
  unfold deleteUserAccount at hok
  split at hok
  · simp at hok
  · rw [guarded_ok_iff] at hok
    rw [hok.2]
    exact ⟨_, rfl, rfl⟩

theorem updateTvAccessCode_onCode {data : TvAccessCodeUpdate} (row old : TvAccessCode) :
    (data.onCode row old).id = old.id ∧ (data.onCode row old).code = old.code ∧
      (data.onCode row old).userId = old.userId :=
  ⟨rfl, rfl, rfl⟩

/-- The subscription of a code follows what an update does to the code. -/
theorem TvAccessCode.Matches.update {subscription : Subscription} (h : row.Matches subscription)
    (data : TvAccessCodeUpdate) (now : Instant) :
    (data.onCode row row).Matches (data.onSubscription now row subscription) := by
  refine ⟨h.userId, h.plan, ?_, ?_⟩
  · change data.expiresAt.getD subscription.currentPeriodEnd = data.expiresAt.getD row.expiresAt
    rw [h.ends]
  · change data.status now (data.expiresAt.getD row.expiresAt) subscription.status = "active" →
      data.isActive.getD row.isActive = true
    unfold TvAccessCodeUpdate.status
    cases data.isActive with
    | none => exact h.active
    | some isActive => cases isActive <;> simp

namespace Db.InStep

theorem update (h : d.InStep) {data : TvAccessCodeUpdate} {read : TvAccessCodeRead}
    (hok : updateTvAccessCode site now id data d = .ok (read, d')) : d'.InStep := by
  obtain ⟨row, hrow, hsubscriptions, hcodes⟩ := updateTvAccessCode_rows hok
  exact h.rewrite (mem_of_lookup hrow) hcodes hsubscriptions (updateTvAccessCode_onCode row)
    (fun _ => rfl) fun _ hmatches => hmatches.update data now

theorem delete (h : d.InStep) (hok : deleteTvAccessCode referenced id d = .ok d') :
    d'.InStep := by
  obtain ⟨keep, hcodes, hsubscriptions⟩ := deleteTvAccessCode_rows hok
  exact h.remove hcodes hsubscriptions

theorem deleteAccount (h : d.InStep) {user : User}
    (hok : deleteUserAccount site.toLetters user d = .ok d') : d'.InStep := by
  obtain ⟨keep, hcodes, hsubscriptions⟩ := deleteUserAccount_rows hok
  exact h.remove hcodes hsubscriptions

theorem login (h : d.InStep) {sessionId : Uuid} {rawCode : String} :
    (loginWithTvAccessCode site.toLetters settings now sessionId rawCode d).2.InStep := by
  rcases loginWithTvAccessCode_rows
    (rfl : loginWithTvAccessCode site.toLetters settings now sessionId rawCode d = _) with ⟨hsame, -⟩ | ⟨row, hrow, hactive, hsubscriptions, hcodes⟩
  · rw [hsame]
    exact h
  · refine h.rewrite (g := fun r => r) (List.mem_of_find?_eq_some hrow) ?_ hsubscriptions
      (fun _ => ⟨rfl, rfl, rfl⟩) (fun _ => rfl) fun s hmatches => ?_
    · rw [hcodes]
      simp [Sql.modify]
    · exact ⟨hmatches.userId, hmatches.plan, rfl, fun _ => hactive⟩

/-- Every request keeps codes and subscriptions in step. -/
theorem serve (h : d.InStep) (now : Instant) (request : TvRequest) :
    (request.serve site settings referenced now d).InStep := by
  cases request with
  | create userId id hashed bodies data =>
      refine committed_cases h fun d' hok => ?_
      obtain ⟨read, hok⟩ := map_snd_ok hok
      obtain ⟨-, code, -, hrows⟩ := createTvAccessCode_ok_iff.1 hok
      exact h.create hrows
  | update id data =>
      refine committed_cases h fun d' hok => ?_
      obtain ⟨read, hok⟩ := map_snd_ok hok
      exact h.update hok
  | delete id => exact committed_cases h fun d' hok => h.delete hok
  | login sessionId rawCode => exact h.login
  | deleteAccount user => exact committed_cases h fun d' hok => h.deleteAccount hok

theorem move (h : d.InStep) {managed : Option Uuid}
    (hmove : TvMove site settings referenced d managed d') : d'.InStep := by
  cases hmove with
  | request now request => exact h.serve now request
  | other hcodes hunique hkept =>
      refine ⟨hunique, ?_, ?_, ?_, ?_⟩
      · rw [hcodes]
        exact h.ids
      · rw [hcodes]
        exact h.codes
      · rw [hcodes]
        exact h.owners
      · intro row hrow
        rw [hcodes] at hrow
        obtain ⟨subscription, hmem, hmatches⟩ := h.matched row hrow
        exact ⟨subscription, (hkept row hrow subscription hmatches.userId).2 hmem, hmatches⟩

/-- Codes and subscriptions stay in step over every run. -/
theorem runs (h : d.InStep) (hrun : TvRuns site settings referenced d d') : d'.InStep := by
  induction hrun with
  | refl => exact h
  | tail _ hstep ih =>
      obtain ⟨managed, hmove⟩ := hstep
      exact ih.move hmove

end Db.InStep

/-! ## Between two updates -/

namespace Db.Unlocked

/-- A change of another code, or one that leaves the subscription active. -/
theorem rewrite (hunlocked : d.Unlocked id) (h : d.InStep) (hrow : row ∈ d.tvAccessCodes)
    {g : TvAccessCode → TvAccessCode}
    (hcodes : d'.tvAccessCodes = Sql.modify TvAccessCode.id row.id g d.tvAccessCodes)
    (hsubscriptions : d'.subscriptions = (d.updateTvSubscription row.userId f).subscriptions)
    (hg : ∀ r, (g r).id = r.id ∧ (g r).code = r.code ∧ (g r).userId = r.userId)
    (hf : ∀ s, (f s).userId = s.userId)
    (hactive : row.id ≠ id ∨ ∀ s, (f s).status = "active") : d'.Unlocked id := by
  intro row' hrow' hid subscription hmem huser
  rw [hcodes, mem_modify] at hrow'
  obtain ⟨old, hold, hrow'⟩ := hrow'
  have hsame : row'.id = old.id ∧ row'.userId = old.userId := by
    rw [hrow']
    split
    · exact ⟨(hg old).1, (hg old).2.2⟩
    · exact ⟨rfl, rfl⟩
  rw [hsubscriptions, mem_updateTvSubscription] at hmem
  obtain ⟨s, hs, rfl⟩ := hmem
  have howner : s.userId = old.userId := by
    rw [← hsame.2, ← huser]
    split
    · exact (hf s).symm
    · rfl
  have hopen := hunlocked old hold (hsame.1.symm.trans hid) s hs howner
  split
  · next htv =>
      rcases hactive with hne | hall
      · have heq := List.inj_on_of_nodup_map h.owners hold hrow (howner.symm.trans htv.1)
        exact absurd ((congrArg TvAccessCode.id heq).symm.trans (hsame.1.symm.trans hid)) hne
      · exact hall s
  · exact hopen

theorem remove (hunlocked : d.Unlocked id) {keep : TvAccessCode → Bool}
    (hcodes : d'.tvAccessCodes = d.tvAccessCodes.filter keep)
    (hsubscriptions : d'.subscriptions = d.subscriptions) : d'.Unlocked id := by
  intro row hrow hid subscription hmem huser
  rw [hcodes] at hrow
  rw [hsubscriptions] at hmem
  exact hunlocked row (List.mem_filter.1 hrow).1 hid subscription hmem huser

theorem login (hunlocked : d.Unlocked id) (h : d.InStep) {sessionId : Uuid} {rawCode : String} :
    (loginWithTvAccessCode site.toLetters settings now sessionId rawCode d).2.Unlocked id := by
  rcases loginWithTvAccessCode_rows
    (rfl : loginWithTvAccessCode site.toLetters settings now sessionId rawCode d = _) with ⟨hsame, -⟩ | ⟨row, hrow, hactive, hsubscriptions, hcodes⟩
  · rw [hsame]
    exact hunlocked
  · refine hunlocked.rewrite (g := fun r => r) h (List.mem_of_find?_eq_some hrow) ?_
      hsubscriptions (fun _ => ⟨rfl, rfl, rfl⟩) (fun _ => rfl) (.inr fun _ => rfl)
    rw [hcodes]
    simp [Sql.modify]

theorem create (hunlocked : d.Unlocked id) (h : d.InStep) {userId other : Uuid}
    {hashed code : String} {data : TvAccessCodeCreate} {read : TvAccessCodeRead}
    (hne : other ≠ id)
    (hok : insertTvRows site now userId other hashed data d code = .ok (read, d')) :
    d'.Unlocked id := by
  obtain ⟨hfree, -, rfl⟩ := insertTvRows_ok_iff.1 hok
  intro row hrow hid subscription hmem huser
  rcases List.mem_append.1 hrow with hold | hnew
  · rcases List.mem_append.1 hmem with hmem | hmem
    · exact hunlocked row hold hid subscription hmem huser
    · obtain ⟨matching, hmatching, hmatches⟩ := h.matched row hold
      rw [List.mem_singleton] at hmem
      subst hmem
      exact absurd (List.mem_map.2 ⟨matching, hmatching, hmatches.userId.trans huser.symm⟩)
        hfree.subscriber
  · rw [List.mem_singleton] at hnew
    subst hnew
    exact absurd hid hne

/-- Only an administrator's update locks a code again. -/
theorem move (hunlocked : d.Unlocked id) (h : d.InStep) {managed : Option Uuid}
    (hne : managed ≠ some id) (hmove : TvMove site settings referenced d managed d') :
    d'.Unlocked id := by
  cases hmove with
  | request now request =>
      cases request with
      | create userId other hashed bodies data =>
          refine committed_cases hunlocked fun d' hok => ?_
          obtain ⟨read, hok⟩ := map_snd_ok hok
          obtain ⟨-, code, -, hrows⟩ := createTvAccessCode_ok_iff.1 hok
          exact hunlocked.create h (fun heq => hne (congrArg some heq)) hrows
      | update other data =>
          refine committed_cases hunlocked fun d' hok => ?_
          obtain ⟨read, hok⟩ := map_snd_ok hok
          obtain ⟨row, hrow, hsubscriptions, hcodes⟩ := updateTvAccessCode_rows hok
          refine hunlocked.rewrite h (mem_of_lookup hrow) hcodes hsubscriptions
            (updateTvAccessCode_onCode row) (fun _ => rfl) (.inl fun hid => ?_)
          exact hne (congrArg some ((key_of_lookup hrow).symm.trans hid))
      | delete other =>
          refine committed_cases hunlocked fun d' hok => ?_
          obtain ⟨keep, hcodes, hsubscriptions⟩ := deleteTvAccessCode_rows hok
          exact hunlocked.remove hcodes hsubscriptions
      | login sessionId rawCode => exact hunlocked.login h
      | deleteAccount user =>
          refine committed_cases hunlocked fun d' hok => ?_
          obtain ⟨keep, hcodes, hsubscriptions⟩ := deleteUserAccount_rows hok
          exact hunlocked.remove hcodes hsubscriptions
  | other hcodes hunique hkept =>
      intro row hrow hid subscription hmem huser
      rw [hcodes] at hrow
      exact hunlocked row hrow hid subscription ((hkept row hrow subscription huser).1 hmem) huser

theorem runs (hunlocked : d.Unlocked id) (h : d.InStep)
    (hrun : TvRunsWithout site settings referenced id d d') : d'.Unlocked id ∧ d'.InStep := by
  induction hrun with
  | refl => exact ⟨hunlocked, h⟩
  | tail _ hstep ih =>
      obtain ⟨managed, hne, hmove⟩ := hstep
      exact ⟨ih.1.move ih.2 hne hmove, ih.2.move hmove⟩

end Db.Unlocked

namespace Db.InStep

/-- The user of a code has one subscription, the one of the code. -/
theorem subscription_unique (h : d.InStep) (hrow : row ∈ d.tvAccessCodes) :
    ∃ subscription ∈ d.subscriptions, row.Matches subscription ∧
      ∀ other ∈ d.subscriptions, other.userId = row.userId → other = subscription := by
  obtain ⟨subscription, hmem, hmatches⟩ := h.matched row hrow
  exact ⟨subscription, hmem, hmatches, fun other hother huser =>
    List.inj_on_of_nodup_map h.subscribers hother hmem (huser.trans hmatches.userId.symm)⟩

theorem userHasActiveSubscription_iff (h : d.InStep) (hrow : row ∈ d.tvAccessCodes)
    (now : Instant) :
    d.userHasActiveSubscription now row.userId = true ↔
      (∃ subscription ∈ d.subscriptions, row.Matches subscription ∧
        subscription.status = "active") ∧ now < row.expiresAt := by
  obtain ⟨subscription, hmem, hmatches, hsole⟩ := h.subscription_unique hrow
  unfold userHasActiveSubscription
  simp only [List.any_eq_true, decide_eq_true_eq]
  constructor
  · rintro ⟨other, hother, huser, hactive, hends⟩
    obtain rfl := hsole other hother huser
    exact ⟨⟨other, hmem, hmatches, hactive⟩, hmatches.ends ▸ hends⟩
  · rintro ⟨⟨other, hother, hmatching, hactive⟩, hends⟩
    exact ⟨other, hother, hmatching.userId, hactive, hmatching.ends ▸ hends⟩

/-- Signing in with a code unlocks it. -/
theorem login_unlocks (h : d.InStep) (hrow : row ∈ d.tvAccessCodes) {sessionId : Uuid}
    {rawCode : String} (hcode : lookedUp site.toLetters rawCode = row.code)
    (hok : (loginWithTvAccessCode site.toLetters settings now sessionId rawCode d).1.isOk = true) :
    (loginWithTvAccessCode site.toLetters settings now sessionId rawCode d).2.Unlocked row.id := by
  rcases loginWithTvAccessCode_rows
    (rfl : loginWithTvAccessCode site.toLetters settings now sessionId rawCode d = _) with ⟨-, hfailed⟩ | ⟨found, hfound, -, hsubscriptions, hcodes⟩
  · exact absurd (hok.symm.trans hfailed) (by decide)
  · have hmem := List.mem_of_find?_eq_some hfound
    have hfoundCode : found.code = lookedUp site.toLetters rawCode := by
      simpa using List.find?_some hfound
    obtain rfl : found = row :=
      List.inj_on_of_nodup_map h.codes hmem hrow (hfoundCode.trans hcode)
    intro row' hrow' hid subscription hsubscription huser
    rw [hcodes] at hrow'
    obtain rfl : row' = found := List.inj_on_of_nodup_map h.ids hrow' hmem hid
    rw [hsubscriptions, mem_updateTvSubscription] at hsubscription
    obtain ⟨s, hs, rfl⟩ := hsubscription
    obtain ⟨own, hown, hmatches, hsole⟩ := h.subscription_unique hrow'
    by_cases htv : s.userId = row'.userId ∧ s.plan = tvPlan
    · rw [if_pos htv]
      rfl
    · rw [if_neg htv] at huser
      obtain rfl := hsole s hs huser
      exact absurd ⟨huser, hmatches.plan⟩ htv

end Db.InStep

def firstTvCode : TvAccessCode := (request "AB-CD" true).row 1 1 "AB-CD"

def signedInTvDb : Db :=
  (loginWithTvAccessCode asciiSite.toLetters Settings.default 10 7 "ab-cd" firstCodeDb).2

theorem firstCodeDb_runs :
    TvRuns asciiSite Settings.default (fun _ => false) emptyDb firstCodeDb := by
  have hserve : (TvRequest.create 1 1 "hash" (fun _ => "") (request "AB-CD" true)).serve asciiSite
      Settings.default (fun _ => false) 0 emptyDb = firstCodeDb := by
    decide +kernel
  exact .single ⟨some 1, hserve ▸
    .request 0 (.create 1 1 "hash" (fun _ => "") (request "AB-CD" true))⟩

end MovieApi.Accounts
