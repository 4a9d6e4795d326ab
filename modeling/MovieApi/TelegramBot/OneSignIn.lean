import MovieApi.TelegramBot.History

/-!
# One sign-in, for the right person

A token is handed out for a code only after the same Telegram user started and
confirmed it, and only once.
-/

namespace MovieApi.TelegramBot

open Sql Accounts

variable {v : Service} {s s' s₀ : State} {e : Entry} {row row' : TelegramBotLogin} {id : Uuid}
  {history before after between : List Entry} {start confirm : Entry} {expiresAt : Instant}
  {user : Int}

/-! ## Approvals -/

/-- From one point of a history to another the code is `user`'s. -/
def Bound (v : Service) (s₀ : State) (first last : List Entry) (id : Uuid) (user : Int) : Prop :=
  ∀ history, first <+: history → history <+: last →
    ∃ row, (v.play s₀ history).login? id = some row ∧ row.telegramId = some (toString user)

/-- `user` started the code while it was pending, and has it since. -/
structure Claimed (v : Service) (s₀ : State) (history before : List Entry) (start : Entry)
    (after : List Entry) (id : Uuid) (expiresAt : Instant) (user : Int) : Prop where
  split : history = before ++ start :: after
  started : ∃ row, (v.play s₀ before).login? id = some row ∧ row.status = .pending ∧
    v.Starts start user row
  inTime : start.now ≤ expiresAt
  bound : Bound v s₀ (before ++ [start]) history id user
  uncancelled : ∀ e ∈ after, v.Chooses e false user id → expiresAt < e.now

/-- `user` started the code while it was pending, confirmed it later, and
nobody else had it in between or since. -/
structure Approved (inTime : Instant → Instant → Prop) (v : Service) (s₀ : State)
    (history before : List Entry) (start : Entry) (between : List Entry) (confirm : Entry)
    (after : List Entry) (id : Uuid) (expiresAt : Instant) (user : Int) : Prop where
  split : history = before ++ start :: (between ++ confirm :: after)
  started : ∃ row, (v.play s₀ before).login? id = some row ∧ row.status = .pending ∧
    v.Starts start user row
  confirmed : v.Chooses confirm true user id
  startInTime : inTime start.now expiresAt
  confirmInTime : inTime confirm.now expiresAt
  bound : Bound v s₀ (before ++ [start]) history id user
  uncancelled : ∀ e ∈ between, v.Chooses e false user id → expiresAt < e.now

theorem Bound.append (h : Bound v s₀ before history id user)
    (hrow : (v.play s₀ (history ++ [e])).login? id = some row)
    (htelegram : row.telegramId = some (toString user)) :
    Bound v s₀ before (history ++ [e]) id user := by
  intro reached hfirst hlast
  rcases List.prefix_concat_iff.1 hlast with rfl | hlast
  · exact ⟨row, hrow, htelegram⟩
  · exact h reached hfirst hlast

theorem Claimed.append (h : Claimed v s₀ history before start after id expiresAt user)
    (hrow : (v.play s₀ (history ++ [e])).login? id = some row)
    (htelegram : row.telegramId = some (toString user))
    (hcancel : v.Chooses e false user id → expiresAt < e.now) :
    Claimed v s₀ (history ++ [e]) before start (after ++ [e]) id expiresAt user where
  split := by simp [h.split]
  started := h.started
  inTime := h.inTime
  bound := h.bound.append hrow htelegram
  uncancelled other hother := by
    rcases List.mem_append.1 hother with hold | hnew
    · exact h.uncancelled other hold
    · obtain rfl := List.mem_singleton.1 hnew
      exact hcancel

theorem Claimed.approve (h : Claimed v s₀ history before start between id expiresAt user)
    (hrow : (v.play s₀ (history ++ [e])).login? id = some row)
    (htelegram : row.telegramId = some (toString user)) (hconfirm : v.Chooses e true user id)
    (htime : e.now ≤ expiresAt) :
    Approved (· ≤ ·) v s₀ (history ++ [e]) before start between e [] id expiresAt user where
  split := by simp [h.split]
  started := h.started
  confirmed := hconfirm
  startInTime := h.inTime
  confirmInTime := htime
  bound := h.bound.append hrow htelegram
  uncancelled := h.uncancelled

theorem Approved.append
    (h : Approved (· ≤ ·) v s₀ history before start between confirm after id expiresAt user)
    (hrow : (v.play s₀ (history ++ [e])).login? id = some row)
    (htelegram : row.telegramId = some (toString user)) :
    Approved (· ≤ ·) v s₀ (history ++ [e]) before start between confirm (after ++ [e]) id expiresAt
      user where
  __ := h
  split := by simp [h.split]
  bound := h.bound.append hrow htelegram

/-! ## What a row says about its history -/

/-- The row of a code after a history, read as an account of it. -/
structure Traced (v : Service) (s₀ : State) (history : List Entry) (row : TelegramBotLogin) :
    Prop where
  pending : row.status = .pending → row.telegramId = none
  started : row.status = .started → ∃ user before start after,
    row.telegramId = some (toString user) ∧
      Claimed v s₀ history before start after row.id row.expiresAt user
  confirmed : row.status = .confirmed → ∃ user before start between confirm after,
    row.telegramId = some (toString user) ∧
      Approved (· ≤ ·) v s₀ history before start between confirm after row.id row.expiresAt user

theorem toString_user_inj {other : Int} (h : some (toString user) = some (toString other)) :
    user = other := by
  simpa [Int.toString_eq_repr, Int.repr_inj] using h

theorem Traced.append (h : Traced v s₀ history row) (hmove : v.RowMove e row row')
    (hbefore : (v.play s₀ history).login? row.id = some row)
    (hafter : (v.play s₀ (history ++ [e])).login? row.id = some row') :
    Traced v s₀ (history ++ [e]) row' := by
  cases hmove with
  | same hcancel =>
      refine ⟨h.pending, fun hstatus => ?_, fun hstatus => ?_⟩
      · obtain ⟨user, before, start, after, htelegram, hclaimed⟩ := h.started hstatus
        refine ⟨user, before, start, _, htelegram, hclaimed.append hafter htelegram fun hchoose => ?_⟩
        simpa [TelegramBotLogin.approvable, hstatus, htelegram] using hcancel user hchoose
      · obtain ⟨user, before, start, between, confirm, after, htelegram, happroved⟩ :=
          h.confirmed hstatus
        exact ⟨user, before, start, between, confirm, _, htelegram,
          happroved.append hafter htelegram⟩
  | @started sender hstart hallowed =>
      refine ⟨by simp [TelegramBotLogin.startedBy], fun _ => ?_,
        by simp [TelegramBotLogin.startedBy]⟩
      simp only [TelegramBotLogin.startable, Bool.and_eq_true, Bool.or_eq_true,
        decide_eq_true_eq] at hallowed
      obtain ⟨htime, hpending | ⟨hstatus, hsender⟩⟩ := hallowed
      · refine ⟨sender.id, history, e, [], rfl, rfl, ⟨row, hbefore, hpending, hstart⟩, htime, ?_,
          by simp⟩
        intro reached hfirst hlast
        obtain rfl := hfirst.eq_of_length_le hlast.length_le
        exact ⟨_, hafter, rfl⟩
      · obtain ⟨user, before, start, after, htelegram, hclaimed⟩ := h.started hstatus
        obtain rfl := toString_user_inj (htelegram.symm.trans hsender)
        refine ⟨_, before, start, _, rfl, hclaimed.append hafter rfl fun hchoose => ?_⟩
        obtain ⟨message, code, hmessage, -⟩ := hstart
        obtain ⟨callback, hcallback, -⟩ := hchoose
        simp [hmessage] at hcallback
  | @chosen approve sender hchoose hallowed =>
      simp only [TelegramBotLogin.approvable, Bool.and_eq_true, decide_eq_true_eq] at hallowed
      obtain ⟨⟨hstatus, htime⟩, hsender⟩ := hallowed
      cases approve with
      | false => exact ⟨by simp, by simp, by simp⟩
      | true =>
          refine ⟨by simp, by simp, fun _ => ?_⟩
          obtain ⟨user, before, start, after, htelegram, hclaimed⟩ := h.started hstatus
          obtain rfl := toString_user_inj (htelegram.symm.trans hsender)
          exact ⟨_, before, start, after, e, [], htelegram,
            hclaimed.approve hafter htelegram hchoose htime⟩
  | used => exact ⟨by simp, by simp, by simp⟩

/-! ## Every row of every history -/

/-- Before the history nobody has started a code. -/
structure Unclaimed (s : State) : Prop extends Keyed s where
  pending : ∀ row ∈ s.logins, row.status = .pending ∧ row.telegramId = none

theorem Unclaimed.keyed (h : Unclaimed s₀) (history : List Entry) :
    Keyed (v.play s₀ history) := by
  induction history using List.reverseRecOn with
  | nil => exact h.toKeyed
  | append_singleton history e ih =>
      rw [Service.play_append]
      exact (apply_moves ih).keyed

theorem Unclaimed.traced (h : Unclaimed s₀) (history : List Entry)
    (hrow : (v.play s₀ history).login? id = some row) : Traced v s₀ history row := by
  induction history using List.reverseRecOn generalizing row with
  | nil =>
      obtain ⟨hpending, htelegram⟩ := h.pending row (mem_of_lookup hrow)
      exact ⟨fun _ => htelegram, by simp [hpending], by simp [hpending]⟩
  | append_singleton history e ih =>
      have hmoves : Moves v e (v.play s₀ history) (v.play s₀ (history ++ [e])) := by
        rw [Service.play_append]
        exact apply_moves (h.keyed history)
      cases hbefore : (v.play s₀ history).login? id with
      | none =>
          obtain ⟨hpending, htelegram⟩ := hmoves.added id row hbefore hrow
          exact ⟨fun _ => htelegram, by simp [hpending], by simp [hpending]⟩
      | some old =>
          obtain rfl : old.id = id := key_of_lookup hbefore
          obtain ⟨new, hnew, hmove⟩ := hmoves.rows _ old hbefore
          obtain rfl := Option.some.inj (hrow.symm.trans hnew)
          exact (ih hbefore).append hmove hbefore hrow

/-- A used code stays used. -/
theorem Service.RowMove.of_used (h : v.RowMove e row row') (hused : row.status = .used) :
    row' = row := by
  cases h with
  | same => rfl
  | started _ hallowed => simp [TelegramBotLogin.startable, hused] at hallowed
  | chosen _ hallowed => simp [TelegramBotLogin.approvable, hused] at hallowed
  | used _ hconfirmed => simp [hused] at hconfirmed

theorem Unclaimed.used (h : Unclaimed s₀) (hrow : (v.play s₀ before).login? id = some row)
    (hused : row.status = .used) (after : List Entry) :
    (v.play s₀ (before ++ after)).login? id = some row := by
  induction after using List.reverseRecOn with
  | nil => simpa using hrow
  | append_singleton after e ih =>
      obtain ⟨row', hrow', hmove⟩ := (apply_moves (e := e) (h.keyed (before ++ after))).rows id row ih
      rw [← List.append_assoc, Service.play_append, hrow', hmove.of_used hused]

/-! ## Tokens -/

/-- The token is for a session of the account of this Telegram user. -/
def OpenedFor (d : Db) (claims : Claims) (user : Int) : Prop :=
  ∃ account ∈ d.users, account.telegramId = some (toString user) ∧ claims.sub = account.id ∧
    ∃ session ∈ d.sessions, session.id = claims.sid ∧ session.userId = account.id

theorem findOrCreateUser_ok {input : LoginInput} {telegramId : String} {name : Option String}
    {d d' : Db} {account : User}
    (h : findOrCreateUser input telegramId name d = .ok (account, d')) :
    account ∈ d'.users ∧ account.telegramId = some telegramId := by
  unfold findOrCreateUser at h
  split at h
  · next found hfound =>
      have hmem := List.mem_of_find?_eq_some hfound
      have htelegram : found.telegramId = some telegramId := by
        simpa using List.find?_some hfound
      obtain ⟨rfl, rfl⟩ := Prod.mk.inj (Except.ok.inj h)
      refine ⟨mem_modify.2 ⟨found, hmem, ?_⟩, ?_⟩
      · split <;> simp
      · split <;> exact htelegram
  · dsimp only at h
    split at h
    · simp at h
    · obtain ⟨rfl, rfl⟩ := Prod.mk.inj (Except.ok.inj h)
      exact ⟨by simp, rfl⟩

theorem createSession_added {settings : Settings} {now : Instant} {sid userId : Uuid} {d d' : Db}
    (h : createSession settings now sid userId d = .ok d') :
    d'.users = d.users ∧ newSession settings now sid userId ∈ d'.sessions := by
  unfold createSession at h
  split at h
  · simp at h
  · split at h
    · simp at h
    · split at h
      · simp at h
      · obtain rfl := Except.ok.inj h
        exact ⟨rfl, by simp⟩

theorem loginTelegramIdentity_ok {settings : Settings} {now : Instant} {input : LoginInput}
    {name : Option String} {d d' : Db} {claims : Claims}
    (h : loginTelegramIdentity settings now input (toString user) name d = .ok (claims, d')) :
    OpenedFor d' claims user := by
  unfold loginTelegramIdentity at h
  split at h
  · simp at h
  · next account d₁ hfound =>
      obtain ⟨hmem, htelegram⟩ := findOrCreateUser_ok hfound
      split at h
      · simp at h
      · split at h
        · simp at h
        · split at h
          · simp at h
          · next d₂ hcreate =>
              obtain ⟨husers, hsession⟩ := createSession_added hcreate
              obtain ⟨rfl, rfl⟩ := Prod.mk.inj (Except.ok.inj h)
              exact ⟨account, husers ▸ hmem, htelegram, rfl, _, hsession, rfl, rfl⟩

theorem token_eq_some {claims : Claims} (h : v.token e s = some (claims, row)) :
    ∃ rawCode input s', e.event = .poll rawCode input ∧
      pollBotLogin v.encoding v.settings e.now rawCode input s = .ok (.confirmed claims, s') ∧
      s.loginByHash? (v.encoding.hashResetToken rawCode) = some row ∧ v.apply e s = s' := by
  unfold Service.token at h
  split at h
  · next rawCode input he =>
      split at h
      · next token s' hpoll =>
          simp only [Option.map_eq_some_iff, Prod.mk.injEq] at h
          obtain ⟨found, hfound, rfl, rfl⟩ := h
          refine ⟨rawCode, input, s', he, hpoll, hfound, ?_⟩
          simp [Service.apply, he, hpoll]
      · simp at h
  · simp at h

/-- A token is for a confirmed row, which it uses up. -/
theorem token_used (hkeyed : Keyed s) {claims : Claims} (h : v.token e s = some (claims, row)) :
    s.login? row.id = some row ∧ row.status = .confirmed ∧ e.now ≤ row.expiresAt ∧
      (v.apply e s).login? row.id = some { row with status := .used } ∧
      ∀ user : Int, row.telegramId = some (toString user) →
        OpenedFor (v.apply e s).accounts claims user := by
  obtain ⟨rawCode, input, s', he, hpoll, hfound, happly⟩ := token_eq_some h
  obtain ⟨hrow, -⟩ := hkeyed.login?_of_hash hfound
  obtain ⟨status, hwaiting, -⟩ | ⟨found, telegramId, claims', d, hfound', hconfirmed, htelegram,
    htime, hlogin, hanswer, hs'⟩ := pollBotLogin_ok hpoll
  · simp at hwaiting
  · obtain rfl := Option.some.inj (hfound.symm.trans hfound')
    obtain rfl := PollAnswer.confirmed.inj hanswer
    rw [happly, hs']
    refine ⟨hrow, hconfirmed, htime, ?_, fun user huser => ?_⟩
    · exact (login?_saveLogin { row with status := .used } hrow rfl row.id).trans (if_pos rfl)
    · obtain rfl := Option.some.inj (htelegram.symm.trans huser)
      exact loginTelegramIdentity_ok hlogin

/-! ## The sign-in -/

/-- What the sign-in promises of a history. -/
structure OneSignIn (inTime : Instant → Instant → Prop) (v : Service) (s₀ : State)
    (history : List Entry) : Prop where
  /-- two tokens are for two codes -/
  once : ∀ before e between e' after claims row claims' row',
    history = before ++ e :: (between ++ e' :: after) →
    v.token e (v.play s₀ before) = some (claims, row) →
    v.token e' (v.play s₀ (before ++ e :: between)) = some (claims', row') →
    row.codeHash ≠ row'.codeHash
  /-- a token goes to the user who started and confirmed the code -/
  approved : ∀ before e after claims row, history = before ++ e :: after →
    v.token e (v.play s₀ before) = some (claims, row) →
    ∃ user first start between confirm last,
      Approved inTime v s₀ before first start between confirm last row.id row.expiresAt user ∧
      (history.Pairwise (fun e e' => e.now ≤ e'.now) →
        ∀ e ∈ between, ¬ v.Chooses e false user row.id) ∧
      inTime e.now row.expiresAt ∧
      OpenedFor (v.play s₀ (before ++ [e])).accounts claims user
  /-- a poll that raises can be tried again -/
  failed : ∀ before e after rawCode input err, history = before ++ e :: after →
    e.event = .poll rawCode input →
    pollBotLogin v.encoding v.settings e.now rawCode input (v.play s₀ before) = .error err →
    v.play s₀ (before ++ [e]) = v.play s₀ before

/-- While the clock does not run backwards, a code confirmed in time was not
cancelled before. -/
theorem Approved.uncancelled_of_sorted
    (h : Approved (· ≤ ·) v s₀ history before start between confirm after id expiresAt user)
    (hsorted : history.Pairwise fun e e' => e.now ≤ e'.now) :
    ∀ e ∈ between, ¬ v.Chooses e false user id := by
  intro e he hchoose
  rw [h.split, List.pairwise_append] at hsorted
  have htail := (List.pairwise_cons.1 hsorted.2.1).2
  have hle : e.now ≤ confirm.now := (List.pairwise_append.1 htail).2.2 e he confirm (by simp)
  exact absurd (hle.trans h.confirmInTime) (not_le.2 (h.uncancelled e he hchoose))

theorem oneSignIn (v : Service) (h : Unclaimed s₀) (history : List Entry) :
    OneSignIn (· ≤ ·) v s₀ history where
  once := by
    rintro before e between e' after claims row claims' row' - htoken htoken' hhash
    obtain ⟨-, -, -, hused, -⟩ := token_used (h.keyed before) htoken
    rw [← Service.play_append] at hused
    have hlater := h.used hused rfl between
    rw [List.append_assoc, List.singleton_append] at hlater
    obtain ⟨hrow', hconfirmed, -⟩ := token_used (h.keyed _) htoken'
    have hsame := List.inj_on_of_nodup_map (h.keyed (v := v) (before ++ e :: between)).hashes
      (mem_of_lookup hlater) (mem_of_lookup hrow') hhash
    simp [← hsame] at hconfirmed
  approved := by
    rintro before e after claims row rfl htoken
    obtain ⟨hrow, hconfirmed, htime, -, hopened⟩ := token_used (h.keyed before) htoken
    obtain ⟨user, first, start, between, confirm, last, htelegram, happroved⟩ :=
      (h.traced before hrow).confirmed hconfirmed
    refine ⟨user, first, start, between, confirm, last, happroved, fun hsorted => ?_, htime, ?_⟩
    · exact happroved.uncancelled_of_sorted (List.pairwise_append.1 hsorted).1
    · rw [Service.play_append]
      exact hopened user htelegram
  failed := by
    rintro before e after rawCode input err - he herr
    simp [Service.play_append, Service.apply, he, herr]

/-! ## A code used at its last moment -/

def oneCodeService : Service where
  encoding := ⟨fun code => code, fun text => if text = "7" then some 7 else none, toString⟩
  settings := Settings.default
  expireMinutes := 10

def noAccounts : Db := { users := [], sessions := [], resetTokens := [] }

/-- Code 7 is cancelled, started and confirmed by user 5, all at one time. -/
def signInAt (now : Instant) : List Entry :=
  [⟨0, .start 7 "abc"⟩,
    ⟨now, .update (.callbackQuery ⟨"c1", 5, some "tglogin:no:7", none⟩)⟩,
    ⟨now, .update (.message ⟨⟨5, false, some "Ann", none, none⟩, 5, true, some "/start login-abc"⟩)⟩,
    ⟨now, .update (.callbackQuery ⟨"c2", 5, some "tglogin:ok:7", none⟩)⟩]

def pollAt (now : Instant) : Entry := ⟨now, .poll "abc" ⟨1, 2, .ok ()⟩⟩

theorem unclaimed_empty : Unclaimed ⟨[], noAccounts⟩ :=
  ⟨⟨List.nodup_nil, List.nodup_nil⟩, by simp⟩

theorem oneSignIn_oneCode :
    OneSignIn (· ≤ ·) oneCodeService ⟨[], noAccounts⟩ (signInAt 1 ++ [pollAt 1]) :=
  oneSignIn oneCodeService unclaimed_empty (signInAt 1 ++ [pollAt 1])

example : (oneCodeService.token (pollAt 1)
    (oneCodeService.play ⟨[], noAccounts⟩ (signInAt 1))).isSome = true := by
  decide +kernel

/-- A code that expires at this very moment still signs in, and a cancellation
before the code was started does not count. -/
theorem signIn_at_expiry :
    (¬ ∀ (v : Service) (s₀ : State) (history : List Entry), Unclaimed s₀ →
      OneSignIn (· < ·) v s₀ history) ∧
    ∃ cancel ∈ signInAt (minutes 10), oneCodeService.Chooses cancel false 5 7 := by
  refine ⟨fun h => ?_, _, List.mem_cons_of_mem _ (List.mem_cons_self ..), _, rfl, rfl,
    by decide +kernel⟩
  have hsignIn := h oneCodeService ⟨[], noAccounts⟩ (signInAt (minutes 10) ++ [pollAt (minutes 10)])
    unclaimed_empty
  have hexpires : (oneCodeService.token (pollAt (minutes 10))
      (oneCodeService.play ⟨[], noAccounts⟩ (signInAt (minutes 10)))).map
        (fun answer => answer.2.expiresAt) = some (minutes 10) := by
    decide +kernel
  obtain ⟨⟨claims, row⟩, htoken, hexpires⟩ := Option.map_eq_some_iff.1 hexpires
  obtain ⟨-, -, -, -, -, -, -, -, htime, -⟩ := hsignIn.approved _ _ [] claims row rfl htoken
  dsimp only at hexpires htime
  rw [hexpires] at htime
  exact lt_irrefl _ htime

end MovieApi.TelegramBot
