import MovieApi.Billing.Conduct
import MovieApi.ReadCommitted.Lasting

/-!
# Calls of the checkout code

A call of one of the three `create_or_reuse_…` leaves the intent it returns in
the notes on its session, beside sessions that answer other requests.
-/

namespace MovieApi.Billing

open ReadCommitted ReadCommitted.Prog Sql

/-- Run a call and keep the intent it returns. -/
def answering (p : Prog PaymentIntent) : Prog Unit := do
  let intent ← p
  session fun info => ((), { info with answer := some intent })

inductive Call where
  | movie (contentId : Uuid) (userId : Option Uuid) (guestId : Option String)
  | series (seriesId : Uuid) (userId : Option Uuid) (guestId : Option String)
  | plan (user : Uuid) (planCode : Option String)
  | other (request : Request)

def Call.prog (cfg : Settings) : Call → Prog Unit
  | .movie contentId userId guestId =>
      closing (answering (createOrReuseMovieBakongIntent cfg contentId userId guestId))
  | .series seriesId userId guestId =>
      closing (answering (createOrReuseSeriesBakongIntent cfg seriesId userId guestId))
  | .plan user planCode =>
      closing (answering (createOrReuseSubscriptionBakongIntent cfg user planCode))
  | .other request => request.prog cfg

/-- Any number of sessions over an idle database; session `t` runs call `t`. -/
def startCalls (cfg : Settings) (d : Db) (world : World) (calls : Tid → Call) : Pool where
  store := .idle d .empty world
  progs t := (calls t).prog cfg

/-- The intent that session `t` has returned. -/
def returned (p : Pool) (t : Tid) : Option PaymentIntent :=
  match p.progs t with
  | .ret _ => (p.store.info t).answer
  | _ => none

/-- Does the session create, poll or settle intents? -/
def Call.isCheckout : Call → Bool
  | .other request => request.isCheckout
  | _ => true

/-! ## Live transactions -/

/-- Harmless programs keep the books of a live transaction. -/
theorem Upkeep.everyLive {C : Contract} {t : Tid} {N : Write → Prop} {L : Store → Prop}
    (B : Upkeep C t N L) {α : Type} {p : Prog α} (hp : p.Every (Mild N)) :
    Triple C t (Live t L) p (fun _ => Live t L) fun _ _ => True := by
  refine ((B.every hp).live hp).conseq (fun s hs => ⟨hs.1, .inr hs.2⟩) (fun _ s hs => ?_)
    fun _ _ _ => trivial
  exact ⟨hs.1, hs.2.resolve_left (by simp [hs.1])⟩

/-! ## Answers -/

/-- The session's call has returned an intent that satisfies `φ`. -/
def Answered (t : Tid) (φ : PaymentIntent → Prop) (s : Store) : Prop :=
  ∃ intent, (s.info t).answer = some intent ∧ φ intent

theorem answered_stable {C : Contract} {t : Tid} {φ : PaymentIntent → Prop} :
    Stable C t (Answered t φ) :=
  ⟨fun hb hs => by simpa only [Answered, hb.info] using hs⟩

/-- The intent a session has returned is as its program was to answer. -/
theorem returned_of_meets {C : Contract} {p : Pool} {t : Tid} {φ : PaymentIntent → Prop}
    {R : Err → Store → Prop} (h : Meets C t (p.progs t) (fun _ => Answered t φ) R p.store)
    {intent : PaymentIntent} (hreturned : returned p t = some intent) : φ intent := by
  unfold returned at hreturned
  cases hprog : p.progs t with
  | ret a =>
      rw [hprog] at h hreturned
      obtain ⟨intent', hanswer, hφ⟩ := h
      rw [hanswer, Option.some.injEq] at hreturned
      exact hreturned ▸ hφ
  | raise e => simp [hprog] at hreturned
  | stmt c k => simp [hprog] at hreturned

namespace Ledger

variable {C : Contract} {t : Tid} {N : Write → Prop} {L : Store → Prop}
  (B : Ledger C t N L)
include B

/-- A call that returns an intent satisfying `φ` leaves it in the notes. -/
theorem closeAnswering {p : Prog PaymentIntent} {P : Store → Prop} {φ : PaymentIntent → Prop}
    (h : Triple C t P p (fun intent _ => φ intent) fun _ _ => True) :
    Triple C t P (Billing.closing (answering p)) (fun _ => Answered t φ) fun _ _ => True := by
  refine .bind (Q := fun _ => Answered t φ) ?_ fun _ => ?_
  · refine .tryCatch (M := fun _ _ => True) ?_ fun e => ?_
    · refine .bind (.bind h fun intent => ?_) fun _ => .ret fun _ hs => hs
      exact .session (.pure _) fun s _ hs => ⟨fun _ => B.session _ s, intent, by simp, hs⟩
    · refine .bind (B.rollbackStmt ?_) fun _ => .raise fun _ _ => trivial
      exact .or (.doomed true) (.pure True)
  · exact .rollback answered_stable fun s _ hs => ⟨fun _ => B.rollback s, hs⟩

theorem answering {p : Prog PaymentIntent} {P : Store → Prop}
    (h : Triple C t P p (fun _ => Books t L) fun _ _ => True) :
    Triple C t P (Billing.answering p) (fun _ => Books t L) fun _ _ => True :=
  .bind h fun _ => B.partReads (.perform fun _ => rfl)

end Ledger

theorem Bookkeeping.call {C : Contract} {t : Tid} {N : Write → Prop} {L : Store → Prop}
    (B : Bookkeeping C t N L) (cfg : Settings) (hN : ∀ w, w.ofCheckout → N w) {call : Call}
    (h : call.isCheckout = true) :
    Triple C t (Books t L) (call.prog cfg) (fun _ => Books t L) fun _ _ => True := by
  have hqr : ∀ copy md5 qr merchant at_, N (.replaceQr copy md5 qr merchant at_) :=
    fun _ _ _ _ _ => hN _ trivial
  have hinsert : ∀ row : PaymentIntent, row.status = .pending → N (.insertIntent row) :=
    fun _ hp => hN _ hp
  cases call with
  | movie contentId user guest =>
      exact B.closing (B.answering (B.createOrReuseMovie cfg contentId user guest hqr hinsert))
  | series seriesId user guest =>
      exact B.closing (B.answering (B.createOrReuseSeries cfg seriesId user guest hqr hinsert))
  | plan user planCode =>
      exact B.closing (B.answering (B.createOrReuseSubscription cfg user planCode hqr hinsert))
  | other request =>
      exact B.checkoutRequest cfg (fun w hw _ => hN w hw) h fun _ _ _ _ => hN _ trivial

end MovieApi.Billing
