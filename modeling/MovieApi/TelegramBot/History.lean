import MovieApi.TelegramBot.BotLogin

/-!
# Histories of the sign-in

A history lists what reached the service, with the time each transaction reads.
Every transaction moves each login row in one of four ways, and adds rows as
pending only.
-/

namespace MovieApi.TelegramBot

open Sql Accounts

/-! ## Histories -/

inductive Event where
  | start (id : Uuid) (rawCode : String)
  | update (update : Update)
  | poll (rawCode : String) (input : LoginInput)
  /-- anything else that happens to accounts and sessions -/
  | accounts (d : Db)

structure Entry where
  now : Instant
  event : Event

/-- What the service is configured with. -/
structure Service where
  encoding : Encoding
  settings : Settings
  expireMinutes : Int

namespace Service

variable (v : Service)

/-- An entry's transaction; one that ends with an error is rolled back. -/
def apply (e : Entry) (s : State) : State :=
  match e.event with
  | .start id rawCode =>
      match startBotLogin v.encoding v.expireMinutes e.now id rawCode s with
      | .ok s => s
      | .error _ => s
  | .update update => (handleUpdate v.encoding e.now update s).1
  | .poll rawCode input =>
      match pollBotLogin v.encoding v.settings e.now rawCode input s with
      | .ok (_, s) => s
      | .error _ => s
  | .accounts d => { s with accounts := d }

/-- The token an entry hands out, and the login row it is for. -/
def token (e : Entry) (s : State) : Option (Claims × TelegramBotLogin) :=
  match e.event with
  | .poll rawCode input =>
      match pollBotLogin v.encoding v.settings e.now rawCode input s with
      | .ok (.confirmed token, _) =>
          (s.loginByHash? (v.encoding.hashResetToken rawCode)).map fun row => (token, row)
      | _ => none
  | _ => none

def play (s : State) (history : List Entry) : State :=
  history.foldl (fun s e => v.apply e s) s

@[simp] theorem play_append (s : State) (history : List Entry) (e : Entry) :
    v.play s (history ++ [e]) = v.apply e (v.play s history) := by
  simp [play]

/-! ## What users do -/

/-- `user` sends `/start` with the code of the row, in a private chat. -/
def Starts (e : Entry) (user : Int) (row : TelegramBotLogin) : Prop :=
  ∃ message code, e.event = .update (.message message) ∧ message.privateChat = true ∧
    message.sender.isBot = false ∧ message.sender.id = user ∧
    parseLoginStart message.text = some code ∧ v.encoding.hashResetToken code = row.codeHash

/-- `user` presses Confirm or Cancel on the row. -/
def Chooses (e : Entry) (approve : Bool) (user : Int) (id : Uuid) : Prop :=
  ∃ callback, e.event = .update (.callbackQuery callback) ∧ callback.senderId = user ∧
    parseChoice v.encoding callback.data = some (approve, id)

/-! ## One row in one transaction -/

/-- What a transaction can do to a login row. -/
inductive RowMove (e : Entry) (row : TelegramBotLogin) : TelegramBotLogin → Prop
  | same (hcancel : ∀ user, v.Chooses e false user row.id → row.approvable e.now user = false) :
      RowMove e row row
  | started {sender : Sender} (hstart : v.Starts e sender.id row)
      (hallowed : row.startable e.now sender = true) : RowMove e row (row.startedBy sender)
  | chosen {approve : Bool} {user : Int} (hchoose : v.Chooses e approve user row.id)
      (hallowed : row.approvable e.now user = true) :
      RowMove e row { row with status := if approve then .confirmed else .expired }
  | used (hpoll : ∃ rawCode input, e.event = .poll rawCode input)
      (hconfirmed : row.status = .confirmed) : RowMove e row { row with status := .used }

end Service

/-- The keys of the table. -/
structure Keyed (s : State) : Prop where
  ids : Unique TelegramBotLogin.id s.logins
  hashes : Unique TelegramBotLogin.codeHash s.logins

variable {v : Service} {s s' s₀ : State} {e : Entry} {row row' : TelegramBotLogin} {id : Uuid}
  {history : List Entry} {user : Int}

theorem login?_saveLogin (row' : TelegramBotLogin) (h : s.login? id = some row)
    (hid : row'.id = row.id) (other : Uuid) : (s.saveLogin row').login? other =
      if other = id then some row' else s.login? other := by
  have hrow : row.id = id := key_of_lookup h
  unfold State.saveLogin State.login?
  rw [lookup_modify (fun _ _ => rfl), hid, hrow]
  split
  · next hother =>
      subst hother
      rw [State.login?] at h
      rw [h]
      rfl
  · rfl

theorem Keyed.login?_of_hash (hkeyed : Keyed s) {codeHash : String}
    (h : s.loginByHash? codeHash = some row) : s.login? row.id = some row ∧ row.codeHash = codeHash :=
  ⟨lookup_of_mem hkeyed.ids (mem_of_lookup h), key_of_lookup h⟩

theorem Keyed.saveLogin (hkeyed : Keyed s) (h : s.login? id = some row) (hid : row'.id = row.id)
    (hhash : row'.codeHash = row.codeHash) : Keyed (s.saveLogin row') := by
  have hrow : row ∈ s.logins := mem_of_lookup h
  refine ⟨hkeyed.ids.modify fun _ _ => rfl, ?_⟩
  unfold Sql.Unique State.saveLogin Sql.modify
  rw [List.map_map]
  have hsame : s.logins.map (TelegramBotLogin.codeHash ∘ fun r => if r.id = row'.id then row' else r) =
      s.logins.map TelegramBotLogin.codeHash := by
    refine List.map_congr_left fun r hr => ?_
    simp only [Function.comp_apply]
    split
    · next heq =>
        have : r = row := List.inj_on_of_nodup_map hkeyed.ids hr hrow (heq.trans hid)
        rw [this, hhash]
    · rfl
  rw [hsame]
  exact hkeyed.hashes

/-! ## One transaction -/

/-- What a transaction does to the table. -/
structure Moves (v : Service) (e : Entry) (s s' : State) : Prop where
  keyed : Keyed s'
  rows : ∀ id row, s.login? id = some row →
    ∃ row', s'.login? id = some row' ∧ v.RowMove e row row'
  added : ∀ id row', s.login? id = none → s'.login? id = some row' →
    row'.status = .pending ∧ row'.telegramId = none

/-- The table stays as it is, and no cancellation was due. -/
theorem Moves.unchanged (hkeyed : Keyed s) (hlogins : s'.logins = s.logins)
    (hcancel : ∀ id row user, s.login? id = some row → v.Chooses e false user id →
      row.approvable e.now user = false) : Moves v e s s' := by
  have hlogin (id : Uuid) : s'.login? id = s.login? id := by
    unfold State.login?
    rw [hlogins]
  refine ⟨⟨hlogins ▸ hkeyed.ids, hlogins ▸ hkeyed.hashes⟩, fun id row h => ?_, fun id row' h h' => ?_⟩
  · have hid : row.id = id := key_of_lookup h
    exact ⟨row, (hlogin id).trans h, .same fun user hchoose => hcancel id row user h (hid ▸ hchoose)⟩
  · rw [hlogin, h] at h'
    simp at h'

/-- One row is replaced. -/
theorem Moves.saved (row' : TelegramBotLogin) (hkeyed : Keyed s) (h : s.login? row.id = some row) (hid : row'.id = row.id)
    (hhash : row'.codeHash = row.codeHash) (hmove : v.RowMove e row row')
    (hcancel : ∀ id user, id ≠ row.id → ¬ v.Chooses e false user id)
    (hlogins : s'.logins = (s.saveLogin row').logins) : Moves v e s s' := by
  have hkeyed' := hkeyed.saveLogin h hid hhash
  have hlogin (id : Uuid) : s'.login? id = if id = row.id then some row' else s.login? id := by
    rw [← login?_saveLogin row' h hid]
    unfold State.login?
    rw [hlogins]
  refine ⟨⟨hlogins ▸ hkeyed'.ids, hlogins ▸ hkeyed'.hashes⟩, fun id other hother => ?_,
    fun id added hnone hadded => ?_⟩
  · have hkey : other.id = id := key_of_lookup hother
    rw [hlogin]
    by_cases hsame : id = row.id
    · subst hsame
      obtain rfl : row = other := Option.some.inj (h.symm.trans hother)
      exact ⟨row', if_pos rfl, hmove⟩
    · exact ⟨other, (if_neg hsame).trans hother,
        .same fun user hchoose => absurd hchoose (hcancel _ user (hkey ▸ hsame))⟩
  · rw [hlogin] at hadded
    by_cases hsame : id = row.id
    · rw [hsame, h] at hnone
      simp at hnone
    · rw [if_neg hsame, hnone] at hadded
      simp at hadded

theorem handleMessage_moves (hkeyed : Keyed s) {message : Message}
    (he : e.event = .update (.message message)) :
    Moves v e s (handleMessage v.encoding e.now message s).1 := by
  have hnone (id : Uuid) (user : Int) : ¬ v.Chooses e false user id := by
    rintro ⟨callback, hcallback, -⟩
    simp [he] at hcallback
  have hsame : Moves v e s s := .unchanged hkeyed rfl fun id _ user _ h => absurd h (hnone id user)
  unfold handleMessage
  split
  · exact hsame
  · next hsender =>
      simp only [not_or, Bool.not_eq_false, Bool.not_eq_true] at hsender
      split
      · split
        · exact hsame
        · exact hsame
      · next code hcode =>
          split
          · exact hsame
          · next row hrow =>
              obtain ⟨hfound, hallowed⟩ := Option.filter_eq_some_iff.1 hrow
              obtain ⟨hlogin, hhash⟩ := hkeyed.login?_of_hash hfound
              refine .saved (row.startedBy message.sender) hkeyed hlogin rfl rfl (.started ?_ hallowed)
                (fun id user _ => hnone id user) rfl
              exact ⟨message, code, he, hsender.1, hsender.2, rfl, hcode, hhash.symm⟩

theorem handleCallback_moves (hkeyed : Keyed s) {callback : Callback}
    (he : e.event = .update (.callbackQuery callback)) :
    Moves v e s (handleCallback v.encoding e.now callback s).1 := by
  have hchoice {approve : Bool} {user : Int} {id : Uuid} (h : v.Chooses e approve user id) :
      callback.senderId = user ∧ parseChoice v.encoding callback.data = some (approve, id) := by
    obtain ⟨callback', hcallback, huser, hparse⟩ := h
    obtain rfl : callback = callback' := by simpa [he] using hcallback
    exact ⟨huser, hparse⟩
  unfold handleCallback
  split
  · next hparse =>
      refine .unchanged hkeyed rfl fun id row user _ h => ?_
      simp [(hchoice h).2] at hparse
  · next approve id hparse =>
      split
      · next hrow =>
          refine .unchanged hkeyed rfl fun id' row user hlogin h => ?_
          obtain ⟨rfl, hparse'⟩ := hchoice h
          obtain ⟨-, rfl⟩ : approve = false ∧ id = id' := by simpa [hparse] using hparse'
          simpa [hlogin, Option.filter] using hrow
      · next row hrow =>
          obtain ⟨hfound, hallowed⟩ := Option.filter_eq_some_iff.1 hrow
          obtain rfl : row.id = id := key_of_lookup hfound
          refine .saved { row with status := if approve then .confirmed else .expired } hkeyed
            hfound rfl rfl (.chosen ⟨callback, he, rfl, hparse⟩ hallowed)
            (fun id' user hne h => hne ?_) rfl
          simpa [hparse, eq_comm] using congrArg (Option.map Prod.snd) (hchoice h).2

/-- An accepted poll uses the row up and opens the session of its user. -/
theorem pollBotLogin_ok {now : Instant} {rawCode : String} {input : LoginInput}
    {answer : PollAnswer}
    (h : pollBotLogin v.encoding v.settings now rawCode input s = .ok (answer, s')) :
    (∃ status, answer = .waiting status ∧ s' = s) ∨
    ∃ row telegramId claims d,
      s.loginByHash? (v.encoding.hashResetToken rawCode) = some row ∧
      row.status = .confirmed ∧ row.telegramId = some telegramId ∧ now ≤ row.expiresAt ∧
      loginTelegramIdentity v.settings now input telegramId
        (identityName row.firstName row.lastName row.username) s.accounts = .ok (claims, d) ∧
      answer = .confirmed claims ∧
      s' = { s.saveLogin { row with status := .used } with accounts := d } := by
  unfold pollBotLogin at h
  cases hrow : (s.loginByHash? (v.encoding.hashResetToken rawCode)).filter
      (fun row => decide (now ≤ row.expiresAt)) with
  | none => simp [hrow] at h
  | some row =>
      obtain ⟨hfound, hlive⟩ := Option.filter_eq_some_iff.1 hrow
      simp only [hrow] at h
      split at h
      · simp at h
      · cases htelegram : (nonempty row.telegramId).filter
            (fun _ => decide (row.status = .confirmed)) with
        | none =>
            simp only [htelegram, Except.ok.injEq, Prod.mk.injEq] at h
            exact .inl ⟨row.status, h.1.symm, h.2.symm⟩
        | some telegramId =>
            obtain ⟨hset, hconfirmed⟩ := Option.filter_eq_some_iff.1 htelegram
            obtain ⟨hset, -⟩ := Option.filter_eq_some_iff.1 hset
            simp only [htelegram] at h
            split at h
            · simp at h
            · next claims d hlogin =>
                simp only [Except.ok.injEq, Prod.mk.injEq] at h
                exact .inr ⟨row, telegramId, claims, d, hfound, by simpa using hconfirmed, hset,
                  by simpa using hlive, hlogin, h.1.symm, h.2.symm⟩

theorem startBotLogin_moves {now : Instant} {rawCode : String} {expireMinutes : Int}
    (hkeyed : Keyed s) (hevent : ∀ update, e.event ≠ .update update)
    (h : startBotLogin v.encoding expireMinutes now id rawCode s = .ok s') : Moves v e s s' := by
  unfold startBotLogin at h
  dsimp only at h
  split at h
  · simp at h
  · next hfresh =>
      simp only [Bool.not_eq_true, List.any_eq_false, decide_eq_true_eq, not_or] at hfresh
      obtain rfl := Except.ok.inj h
      refine ⟨⟨hkeyed.ids.append ?_, hkeyed.hashes.append ?_⟩, fun id' row hrow => ?_,
        fun id' row' hnone hrow' => ?_⟩
      · exact lookup_eq_none.2 fun row hrow => (hfresh row hrow).1
      · exact lookup_eq_none.2 fun row hrow => (hfresh row hrow).2
      · refine ⟨row, ?_, .same fun user ⟨callback, hcallback, _⟩ => absurd hcallback (hevent _)⟩
        unfold State.login? at hrow ⊢
        rw [lookup_append, hrow]
        rfl
      · unfold State.login? at hnone hrow'
        rw [lookup_append, hnone, Option.none_or] at hrow'
        split at hrow'
        · obtain rfl := Option.some.inj hrow'
          exact ⟨rfl, rfl⟩
        · simp at hrow'

theorem apply_moves (hkeyed : Keyed s) : Moves v e s (v.apply e s) := by
  have hsame (hevent : ∀ update, e.event ≠ .update update) {s' : State}
      (hlogins : s'.logins = s.logins) : Moves v e s s' := by
    refine .unchanged hkeyed hlogins fun id row user _ h => ?_
    obtain ⟨callback, hcallback, -⟩ := h
    exact absurd hcallback (hevent _)
  unfold Service.apply
  cases he : e.event with
  | start id rawCode =>
      dsimp only
      cases hstart : startBotLogin v.encoding v.expireMinutes e.now id rawCode s with
      | ok s' => exact startBotLogin_moves hkeyed (fun update => by simp [he]) hstart
      | error err => exact hsame (fun update => by simp [he]) rfl
  | update update =>
      cases update with
      | message message => exact handleMessage_moves hkeyed he
      | callbackQuery callback => exact handleCallback_moves hkeyed he
      | unrelated =>
          refine .unchanged hkeyed rfl fun id row user _ h => ?_
          obtain ⟨callback, hcallback, -⟩ := h
          simp [he] at hcallback
  | poll rawCode input =>
      dsimp only
      split
      · next answer s' h =>
          obtain ⟨status, -, rfl⟩ | ⟨row, telegramId, claims, d, hfound, hconfirmed, -, -, -, -, rfl⟩ :=
            pollBotLogin_ok h
          · exact hsame (by simp [he]) rfl
          · refine .saved { row with status := .used } hkeyed
              (hkeyed.login?_of_hash hfound).1 rfl rfl (.used ⟨rawCode, input, he⟩ hconfirmed) (fun id user _ hchoose => ?_) rfl
            obtain ⟨callback, hcallback, -⟩ := hchoose
            simp [he] at hcallback
      · exact hsame (by simp [he]) rfl
  | accounts d => exact hsame (by simp [he]) rfl

end MovieApi.TelegramBot
