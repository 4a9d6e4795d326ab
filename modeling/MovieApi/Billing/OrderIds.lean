import MovieApi.Billing.PaidTerms

/-!
# Order ids

The order id of a subscription is `sub-{plan code}-{hex}`. A hex text has no dash, so
the last dash of the id is the one behind the code, whatever the code is.
-/

namespace MovieApi.Billing

open ReadCommitted ReadCommitted.Prog

/-- Only hexadecimal digits. -/
def IsHex (text : String) : Prop := ∀ c ∈ text.toList, c ∈ "0123456789abcdefABCDEF".toList

theorem IsHex.dash_notMem {text : String} (h : IsHex text) : '-' ∉ text.toList := fun hdash =>
  absurd (h '-' hdash) (by decide)

/-! ## The last dash -/

theorem dropWhile_dash_eq_cons {rest code : List Char} {c : Char}
    (h : rest.reverse.dropWhile (· ≠ '-') = c :: code) :
    ∃ tail, rest = code.reverse ++ '-' :: tail ∧ '-' ∉ tail := by
  have hsplit := List.takeWhile_append_dropWhile (p := (· ≠ '-')) (l := rest.reverse)
  have hhead := List.head?_dropWhile_not (· ≠ '-') rest.reverse
  rw [h] at hsplit hhead
  have hc : c = '-' := by simpa using hhead
  refine ⟨(rest.reverse.takeWhile (· ≠ '-')).reverse, ?_, ?_⟩
  · calc
      rest = (rest.reverse.takeWhile (· ≠ '-') ++ c :: code).reverse := by
        rw [hsplit, List.reverse_reverse]
      _ = code.reverse ++ '-' :: (rest.reverse.takeWhile (· ≠ '-')).reverse := by
        rw [hc, List.reverse_append, List.reverse_cons, List.append_assoc]
        rfl
  · intro hdash
    have hne := List.mem_takeWhile_imp (List.mem_reverse.1 hdash)
    simp at hne

theorem dropWhile_dash_of_split {code tail : List Char} (h : '-' ∉ tail) :
    (code ++ '-' :: tail).reverse.dropWhile (· ≠ '-') = '-' :: code.reverse := by
  rw [List.reverse_append, List.reverse_cons, List.append_assoc,
    List.dropWhile_append_of_pos ?_]
  · rfl
  · intro c hc
    have hne : c ≠ '-' := fun heq => h (heq ▸ List.mem_reverse.1 hc)
    simpa using hne

theorem orderId_toList (code tail : String) :
    ("sub-" ++ code ++ "-" ++ tail).toList =
      's' :: 'u' :: 'b' :: '-' :: (code.toList ++ '-' :: tail.toList) := by
  simp [String.toList_append]

theorem nonempty_eq_some {text code : String} (h : nonempty text = some code) :
    text = code ∧ code ≠ "" := by
  unfold nonempty at h
  split at h
  · cases h
  · next hne =>
      obtain rfl := Option.some.inj h
      exact ⟨rfl, hne⟩

/-! ## Reading the code back -/

theorem planCodeFromOrderId_orderId {code tail : String} (hcode : code ≠ "")
    (htail : '-' ∉ tail.toList) :
    planCodeFromOrderId ("sub-" ++ code ++ "-" ++ tail) = some code := by
  have hsplit : (code.toList ++ '-' :: tail.toList).reverse.dropWhile (· ≠ '-') =
      '-' :: code.toList.reverse := dropWhile_dash_of_split htail
  unfold planCodeFromOrderId
  rw [orderId_toList]
  simp only [hsplit, List.reverse_reverse, String.ofList_toList]
  exact if_neg hcode

theorem orderId_of_planCodeFromOrderId {orderId code : String}
    (h : planCodeFromOrderId orderId = some code) :
    ∃ tail, orderId = "sub-" ++ code ++ "-" ++ tail ∧ '-' ∉ tail.toList ∧ code ≠ "" := by
  unfold planCodeFromOrderId at h
  split at h
  · next rest hchars =>
      split at h
      · cases h
      · next c reversed hdrop =>
          obtain ⟨rfl, hne⟩ := nonempty_eq_some h
          obtain ⟨tail, hrest, htail⟩ := dropWhile_dash_eq_cons hdrop
          refine ⟨String.ofList tail, ?_, by simpa using htail, hne⟩
          apply String.toList_inj.1
          rw [orderId_toList, hchars, hrest]
          simp
  · cases h

/-- Every code comes back from its order ids, and no other text has one. -/
theorem order_ids_round_trip :
    (∀ code tail : String, code ≠ "" → IsHex tail →
      planCodeFromOrderId ("sub-" ++ code ++ "-" ++ tail) = some code) ∧
    ∀ orderId code : String, planCodeFromOrderId orderId = some code →
      ∃ tail, orderId = "sub-" ++ code ++ "-" ++ tail ∧ '-' ∉ tail.toList ∧ code ≠ "" :=
  ⟨fun _ _ hcode htail => planCodeFromOrderId_orderId hcode htail.dash_notMem,
    fun _ _ h => orderId_of_planCodeFromOrderId h⟩

example : planCodeFromOrderId "sub-sub-vip-plus-c0de" = some "sub-vip-plus" := by decide

/-- The intent of a checkout tells its plan by its order id alone. -/
theorem newIntent_tells_plan {t : Tid} {d : Db} {e : World} (cfg : Settings)
    {plan : SubscriptionPlan} (hcode : plan.code ≠ "") (hhex : IsHex e.hex) (user : Uuid)
    (amount : Int) :
    (planOrder user plan amount >>= newIntent cfg).Yields t d e fun r _ _ =>
      ∀ row, r = .ok row → planCodeFromOrderId row.orderId = some plan.code := by
  refine Answers.bind (.ret _) (Answers.bind (.sense _) ?_)
  cases h : e.khqr with
  | none =>
      have hraised : generateKhqr.Answers t d e
          (.error (.http 503 "Bakong payment service unreachable")) := by
        refine Answers.bind (.sense _) ?_
        rw [h]
        exact Answers.raise _
      exact hraised.bindError fun row hrow => by simp at hrow
  | some answer =>
      have hissued : generateKhqr.Answers t d e (.ok answer) := by
        refine Answers.bind (.sense _) ?_
        rw [h]
        exact Answers.ret _
      refine hissued.bind (Answers.bind (.sense _) (Answers.bind (.sense _) (.ret ?_)))
      intro row hrow
      obtain rfl := Except.ok.inj hrow
      exact planCodeFromOrderId_orderId hcode hhex.dash_notMem

end MovieApi.Billing
