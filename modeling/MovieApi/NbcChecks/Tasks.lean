import MovieApi.Async.Run
import MovieApi.Billing.Settlement
import MovieApi.NbcChecks.Breaker

/-!
# The tasks that check payments

Polls of the app, the settlement before a playback, the test for a stale QR, and
passes of the sweeper, as programs over the check cache and the breaker.  The
rows they read, and whether a fulfilment raises, are inputs.
-/

namespace MovieApi.NbcChecks

open Billing (PaymentIntent ProbeStatus Instant nonempty minutes)
open Async

/-! ## Calls -/

inductive Call where
  /-- `bakong_checks_blocked`; `inPass` between the intents of a pass -/
  | checksBlocked (inPass : Bool)
  /-- the sweeper's own pause -/
  | sweeperPaused
  | wasIntentRecentlyPolled (intentId : String)
  | markIntentPolled (intentId : String)
  /-- `probe_khqr_status`; `inPass` for the probes a pass makes itself -/
  | probe (inPass : Bool) (md5 : String) (intentId : Option String)
  /-- a pass found checks rate-limited -/
  | backOff
deriving DecidableEq, Repr

/-- A probe can raise, which answers nothing. -/
abbrev Call.Answer : Call → Type
  | .checksBlocked _ => Bool
  | .sweeperPaused => Bool
  | .wasIntentRecentlyPolled _ => Bool
  | .markIntentPolled _ => Unit
  | .probe .. => Option ProbeStatus
  | .backOff => Unit

abbrev Prog := Async.Prog Call Call.Answer

def perform (c : Call) : Prog c.Answer := Async.Prog.perform c

def checksBlocked (inPass : Bool) : Prog Bool := perform (.checksBlocked inPass)

def sweeperPaused : Prog Bool := perform .sweeperPaused

def recentlyPolled (intentId : String) : Prog Bool :=
  perform (.wasIntentRecentlyPolled intentId)

def markPolled (intentId : String) : Prog Unit := perform (.markIntentPolled intentId)

def backOff : Prog Unit := perform .backOff

def probeKhqr (inPass : Bool) (md5 : String) (intentId : Option String) : Prog ProbeStatus := do
  match ← perform (.probe inPass md5 intentId) with
  | some status => return status
  | none => .raise

/-! ## Settlement -/

structure Settings where
  nbcSettleEnabled : Bool
deriving DecidableEq, Repr

/-- `bakong_md5s_paid`. -/
def bakongMd5sPaid (cfg : Settings) (intent : PaymentIntent) : Prog Bool := do
  match intent.bakongMd5.bind nonempty with
  | none => return false
  | some md5 =>
      if cfg.nbcSettleEnabled = false then
        return false
      else
        match ← probeKhqr false md5 (some intent.intentId) with
        | .paid => return true
        | .unknown => return false
        | .unpaid =>
            match intent.bakongPrevMd5.bind nonempty with
            | none => return false
            | some prev =>
                if prev = md5 then return false
                else return decide ((← probeKhqr false prev (some intent.intentId)) = .paid)

/-- `settle_bakong_intent_if_paid`; `fulfils` tells whether the fulfilment goes
through or raises. -/
def settleBakongIntentIfPaid (cfg : Settings) (fulfils : PaymentIntent → Bool)
    (intent : PaymentIntent) : Prog Bool := do
  if intent.status = .succeeded then
    return true
  else if intent.method ≠ .bakong ∨ intent.status ≠ .pending then
    return false
  else if cfg.nbcSettleEnabled = false then
    return false
  else if ← bakongMd5sPaid cfg intent then
    if fulfils intent then return true else .raise
  else
    return false

/-- `settle_pending_intent_on_poll`; `owned` when the buyer has the title
already, `sibling` is another pending intent of the buyer for it. -/
def settlePendingIntentOnPoll (cfg : Settings) (fulfils : PaymentIntent → Bool) (owned : Bool)
    (sibling : Option PaymentIntent) (intent : PaymentIntent) : Prog Unit := do
  if intent.method ≠ .bakong ∨ intent.status ≠ .pending then
    return ()
  else if owned then
    return ()
  else if cfg.nbcSettleEnabled = false ∨ (intent.bakongMd5.bind nonempty).isNone then
    return ()
  else if ← checksBlocked false then
    markPolled intent.intentId
  else if ← settleBakongIntentIfPaid cfg fulfils intent then
    markPolled intent.intentId
  else
    match sibling.filter fun _ => intent.contentId.isSome with
    | none => markPolled intent.intentId
    | some sibling =>
        let _ ← settleBakongIntentIfPaid cfg fulfils sibling
        markPolled intent.intentId

def settleFirstPaid (cfg : Settings) (fulfils : PaymentIntent → Bool) :
    List PaymentIntent → Prog Bool
  | [] => return false
  | intent :: intents => do
      if ← settleBakongIntentIfPaid cfg fulfils intent then return true
      else settleFirstPaid cfg fulfils intents

/-- `settle_pending_movie_bakong_for_buyer`, with the intents it selects. -/
def settlePendingMovieBakongForBuyer (cfg : Settings) (fulfils : PaymentIntent → Bool)
    (intents : List PaymentIntent) : Prog Bool := do
  if cfg.nbcSettleEnabled = false then
    return false
  else if ← checksBlocked false then
    return false
  else
    settleFirstPaid cfg fulfils intents

def allUnpaid (intentId : String) : List String → Prog Bool
  | [] => return true
  | md5 :: md5s => do
      if (← probeKhqr false md5 (some intentId)) = .unpaid then allUnpaid intentId md5s
      else return false

/-- `bakong_qr_confirmed_unpaid`. -/
def bakongQrConfirmedUnpaid (cfg : Settings) (intent : PaymentIntent) : Prog Bool :=
  if cfg.nbcSettleEnabled then allUnpaid intent.intentId intent.md5s else return true

/-! ## The sweeper -/

def notRecentlyPolled : List PaymentIntent → Prog (List PaymentIntent)
  | [] => return []
  | intent :: intents => do
      let polled ← recentlyPolled intent.intentId
      let rest ← notRecentlyPolled intents
      return if polled then rest else intent :: rest

/-- What a pass finds out about one intent: whether it is paid, `none` when an
answer was unknown. -/
def sweepStatus (intent : PaymentIntent) (status : ProbeStatus) : Prog (Option Bool) := do
  match status with
  | .unknown => return none
  | .paid => return some true
  | .unpaid =>
      match (intent.bakongPrevMd5.bind nonempty).filter
          (fun _ => intent.bakongPrevMd5 ≠ intent.bakongMd5) with
      | none => return some false
      | some prev =>
          match ← probeKhqr true prev none with
          | .unknown => return none
          | .paid => return some true
          | .unpaid => return some false

/-- The loop of a pass: how many intents it settled, and whether it was cut
short by an unknown answer or a block. -/
def sweepIntents (cfg : Settings) (fulfils : PaymentIntent → Bool) :
    List PaymentIntent → Nat → Prog (Nat × Bool)
  | [], settled => return (settled, false)
  | intent :: intents, settled => do
      if ← checksBlocked true then
        return (settled, true)
      else
        match ← (probeKhqr true (intent.bakongMd5.getD "") none).attempt with
        | none => sweepIntents cfg fulfils intents settled
        | some status =>
            match ← sweepStatus intent status with
            | none => return (settled, true)
            | some false => sweepIntents cfg fulfils intents settled
            | some true =>
                match ← (settleBakongIntentIfPaid cfg fulfils intent).attempt with
                | some true => sweepIntents cfg fulfils intents (settled + 1)
                | _ => sweepIntents cfg fulfils intents settled

/-- `sweep_pending_bakong_intents`, with the batch it selects and whether its
commit goes through. -/
def sweepPendingBakongIntents (cfg : Settings) (fulfils : PaymentIntent → Bool)
    (batch : List PaymentIntent) (commits : Bool) : Prog Nat := do
  if ← sweeperPaused then
    return 0
  else if ← checksBlocked false then
    return 0
  else
    let intents ← notRecentlyPolled batch
    if intents.isEmpty then
      return 0
    else
      let (settled, rateLimited) ← sweepIntents cfg fulfils intents 0
      if settled ≠ 0 ∧ commits = false then
        .raise
      else if rateLimited then
        backOff
        return settled
      else
        return settled

/-- Everything that checks payments. -/
inductive Task where
  | poll (owned : Bool) (sibling : Option PaymentIntent) (intent : PaymentIntent)
  | playback (intents : List PaymentIntent)
  | refreshQr (intent : PaymentIntent)
  | sweep (batch : List PaymentIntent) (commits : Bool)

def Task.prog (cfg : Settings) (fulfils : PaymentIntent → Bool) : Task → Prog Unit
  | .poll owned sibling intent => settlePendingIntentOnPoll cfg fulfils owned sibling intent
  | .playback intents => do let _ ← settlePendingMovieBakongForBuyer cfg fulfils intents
  | .refreshQr intent => do let _ ← bakongQrConfirmedUnpaid cfg intent
  | .sweep batch commits => do let _ ← sweepPendingBakongIntents cfg fulfils batch commits

end MovieApi.NbcChecks
