import MovieApi.Billing.Schema
import MovieApi.Sql.GroupBy

/-!
# The revenue timeline

`get_revenue_timeline` of the admin dashboard: the window of days, the totals
that the database groups by day and by kind, and the loop that puts a point on
every day.  Days are counted from 1970-01-01, prices are in cents, and the
session's time zone is UTC.
-/

namespace MovieApi.Dashboard

open Billing (Instant PaymentIntent Kind Status days)
open Sql (sumOf groupTotals totalAt)

/-! ## Days -/

/-- The UTC date of an instant. -/
def dayOf (t : ℤ) : ℤ := t / days 1

/-- `datetime.combine(day, time.min)`. -/
def dayStart (day : ℤ) : ℤ := day * days 1

/-- `datetime.combine(day, time.max)`. -/
def dayEnd (day : ℤ) : ℤ := dayStart day + (days 1 - 1)

/-- `date.min`. -/
def firstDay : ℤ := -719162

theorem le_dayOf {day t : ℤ} : day ≤ dayOf t ↔ dayStart day ≤ t := by
  simp only [dayOf, dayStart, days]
  omega

theorem dayOf_le {day t : ℤ} : dayOf t ≤ day ↔ t ≤ dayEnd day := by
  simp only [dayOf, dayEnd, dayStart, days]
  omega

/-! ## The request -/

/-- `date.fromisoformat` is a parameter of the model, none where it raises. -/
structure RevenueParams where
  days : ℕ
  dateFrom : Option String
  dateTo : Option String
deriving DecidableEq, Repr

inductive Err where
  | http (status : ℕ) (detail : String)
  /-- a date before `date.min` -/
  | overflow
deriving DecidableEq, Repr

/-- `parse_filter_date`, for a parameter that is given and not empty. -/
def parseFilterDate (fromIsoFormat : String → Option ℤ) (value : Option String) (field : String) :
    Except Err (Option ℤ) :=
  match value.filter fun text => text ≠ "" with
  | none => .ok none
  | some text =>
      match fromIsoFormat text with
      | some day => .ok (some day)
      | none => .error (.http 422 (field ++ " must be YYYY-MM-DD"))

def badRange : Err := .http 422 "date_from must be on or before date_to"

/-- The first and the last day that the parameters ask for, before today cuts them. -/
def askedWindow (today : ℤ) (days : ℕ) (parsedFrom parsedTo : Option ℤ) :
    Except Err (ℤ × ℤ) :=
  let endDate := parsedTo.getD today
  match parsedFrom with
  | some startDate => .ok (startDate, endDate)
  | none =>
      if endDate - (days - 1) < firstDay then .error .overflow
      else .ok (endDate - (days - 1), endDate)

/-- The window of days that a request is answered for. -/
def revenueWindow (fromIsoFormat : String → Option ℤ) (now : Instant) (params : RevenueParams) :
    Except Err (ℤ × ℤ) := do
  let today := dayOf now
  if params.days < 7 ∨ 90 < params.days then .error (.http 422 "days") else
  let parsedFrom ← parseFilterDate fromIsoFormat params.dateFrom "date_from"
  let parsedTo ← parseFilterDate fromIsoFormat params.dateTo "date_to"
  if parsedFrom.any fun first => parsedTo.any fun last => decide (last < first) then
    .error badRange
  else
    let (startDate, asked) ← askedWindow today params.days parsedFrom parsedTo
    let endDate := min asked today
    if endDate < startDate then .error badRange
    else if 366 < endDate - startDate + 1 then
      .error (.http 422 "Date range cannot exceed 366 days")
    else .ok (startDate, endDate)

/-! ## The answer -/

structure RevenueTimelinePoint where
  date : ℤ
  revenueUsd : ℤ
  paymentCount : ℕ
deriving DecidableEq, Repr

structure RevenueKindSlice where
  kind : String
  label : String
  revenueUsd : ℤ
  paymentCount : ℕ
deriving DecidableEq, Repr

structure RevenueTimelineRead where
  days : ℤ
  dateFrom : ℤ
  dateTo : ℤ
  periodRevenueUsd : ℤ
  allTimeRevenueUsd : ℤ
  succeededPayments : ℕ
  points : List RevenueTimelinePoint
  byKind : List RevenueKindSlice
deriving DecidableEq, Repr

/-- `coalesce(resolved_at, created_at)`. -/
def revenueTimestamp (intent : PaymentIntent) : ℤ := intent.resolvedAt.getD intent.createdAt

/-- `sum(amount_usd)` and `count(intent_id)` of one row. -/
def payment (intent : PaymentIntent) : ℤ × ℕ := (intent.amountUsd, 1)

/-- The rows that both grouped queries select. -/
def inPeriod (since till : Instant) (intents : List PaymentIntent) : List PaymentIntent :=
  intents.filter fun intent => decide (intent.status = .succeeded ∧
    since ≤ revenueTimestamp intent ∧ revenueTimestamp intent ≤ till)

/-- What the day loop has collected. -/
structure Collected where
  points : List RevenueTimelinePoint
  periodRevenue : ℤ
  succeededPayments : ℕ
deriving DecidableEq, Repr

/-- `while cursor <= end_date`. -/
def dayLoop (byDate : List (ℤ × ℤ × ℕ)) (endDate cursor : ℤ) (collected : Collected) :
    Collected :=
  if cursor ≤ endDate then
    let (revenue, count) := totalAt byDate cursor
    dayLoop byDate endDate (cursor + 1)
      ⟨collected.points ++ [⟨cursor, revenue, count⟩], collected.periodRevenue + revenue,
        collected.succeededPayments + count⟩
  else collected
termination_by (endDate + 1 - cursor).toNat

/-- `_slice`. -/
def kindSlice (kindTotals : List (Kind × ℤ × ℕ)) (kindKey : String) (dbKind : Kind)
    (label : String) : RevenueKindSlice :=
  ⟨kindKey, label, (totalAt kindTotals dbKind).1, (totalAt kindTotals dbKind).2⟩

/-- What is read and added up for a window. -/
def revenueTimeline (intents : List PaymentIntent) (startDate endDate : ℤ) :
    RevenueTimelineRead :=
  let rows := inPeriod (dayStart startDate) (dayEnd endDate) intents
  let byDate := groupTotals (fun intent => dayOf (revenueTimestamp intent)) payment rows
  let collected := dayLoop byDate endDate startDate ⟨[], 0, 0⟩
  let kindTotals := groupTotals PaymentIntent.kind payment rows
  { days := endDate - startDate + 1
    dateFrom := startDate
    dateTo := endDate
    periodRevenueUsd := collected.periodRevenue
    allTimeRevenueUsd := sumOf PaymentIntent.amountUsd
      (intents.filter fun intent => decide (intent.status = .succeeded))
    succeededPayments := collected.succeededPayments
    points := collected.points
    byKind := [kindSlice kindTotals "movies" .single "Movies",
      kindSlice kindTotals "series" .series "Series",
      kindSlice kindTotals "subscriptions" .sub "Subscriptions"] }

/-- `get_revenue_timeline`. -/
def getRevenueTimeline (fromIsoFormat : String → Option ℤ) (now : Instant)
    (params : RevenueParams) (intents : List PaymentIntent) : Except Err RevenueTimelineRead := do
  let (startDate, endDate) ← revenueWindow fromIsoFormat now params
  .ok (revenueTimeline intents startDate endDate)

/-! ## The day loop -/

/-- The days from one to another, in order. -/
def daysFrom (startDate endDate : ℤ) : List ℤ :=
  (List.range (endDate + 1 - startDate).toNat).map fun i : ℕ => startDate + (i : ℤ)

theorem daysFrom_cons {startDate endDate : ℤ} (h : startDate ≤ endDate) :
    daysFrom startDate endDate = startDate :: daysFrom (startDate + 1) endDate := by
  have hcount : (endDate + 1 - startDate).toNat = (endDate + 1 - (startDate + 1)).toNat + 1 := by
    omega
  rw [daysFrom, hcount, List.range_succ_eq_map, List.map_cons, List.map_map, daysFrom]
  refine congrArg₂ List.cons (by simp) (List.map_congr_left fun i _ => ?_)
  simp only [Function.comp_apply]
  push_cast
  ring

theorem daysFrom_nil {startDate endDate : ℤ} (h : endDate < startDate) :
    daysFrom startDate endDate = [] := by
  have hcount : (endDate + 1 - startDate).toNat = 0 := by omega
  rw [daysFrom, hcount]
  rfl

theorem mem_daysFrom {startDate endDate day : ℤ} :
    day ∈ daysFrom startDate endDate ↔ startDate ≤ day ∧ day ≤ endDate := by
  simp only [daysFrom, List.mem_map, List.mem_range]
  constructor
  · rintro ⟨i, hi, rfl⟩
    omega
  · rintro ⟨hstart, hend⟩
    exact ⟨(day - startDate).toNat, by omega, by omega⟩

theorem nodup_daysFrom (startDate endDate : ℤ) : (daysFrom startDate endDate).Nodup := by
  refine (List.nodup_range).map fun i j hij => ?_
  simpa using hij

/-- The loop adds a point and its total for every day that is left. -/
theorem dayLoop_eq (byDate : List (ℤ × ℤ × ℕ)) (endDate cursor : ℤ) (collected : Collected) :
    dayLoop byDate endDate cursor collected =
      ⟨collected.points ++ (daysFrom cursor endDate).map fun day =>
          ⟨day, (totalAt byDate day).1, (totalAt byDate day).2⟩,
        collected.periodRevenue + ((daysFrom cursor endDate).map (totalAt byDate)).sum.1,
        collected.succeededPayments + ((daysFrom cursor endDate).map (totalAt byDate)).sum.2⟩ := by
  fun_induction dayLoop byDate endDate cursor collected with
  | case1 cursor collected hle revenue count htotal ih =>
      rw [ih, daysFrom_cons hle, List.map_cons, List.map_cons, List.sum_cons, htotal]
      simp [add_assoc]
  | case2 cursor collected hgt =>
      rw [daysFrom_nil (lt_of_not_ge hgt)]
      simp

/-! ## What adds up -/

/-- The succeeded intents whose revenue falls on the days from `first` to `last`. -/
def fallingOn (first last : ℤ) (intents : List PaymentIntent) : List PaymentIntent :=
  intents.filter fun intent => decide (intent.status = .succeeded ∧
    first ≤ dayOf (revenueTimestamp intent) ∧ dayOf (revenueTimestamp intent) ≤ last)

/-- One point a day in order, and the period's totals are those of the points, of
the kinds and of the intents. -/
structure AddsUp (intents : List PaymentIntent) (r : RevenueTimelineRead) : Prop where
  dates : r.points.map RevenueTimelinePoint.date = daysFrom r.dateFrom r.dateTo
  points : r.periodRevenueUsd = (r.points.map RevenueTimelinePoint.revenueUsd).sum
  kinds : r.periodRevenueUsd = (r.byKind.map RevenueKindSlice.revenueUsd).sum
  payments : r.periodRevenueUsd =
    ((fallingOn r.dateFrom r.dateTo intents).map PaymentIntent.amountUsd).sum
  pointCounts : r.succeededPayments = (r.points.map RevenueTimelinePoint.paymentCount).sum
  kindCounts : r.succeededPayments = (r.byKind.map RevenueKindSlice.paymentCount).sum
  paymentCount : r.succeededPayments = (fallingOn r.dateFrom r.dateTo intents).length

/-- The days are those that the parameters ask for, up to today. -/
structure AnswersRange (fromIsoFormat : String → Option ℤ) (now : Instant)
    (params : RevenueParams) (r : RevenueTimelineRead) : Prop where
  ordered : r.dateFrom ≤ r.dateTo
  dateFrom : ∀ text day, params.dateFrom = some text → text ≠ "" →
    fromIsoFormat text = some day → r.dateFrom = day
  dateTo : ∀ text day, params.dateTo = some text → text ≠ "" →
    fromIsoFormat text = some day → r.dateTo = min day (dayOf now)

theorem inPeriod_eq (first last : ℤ) (intents : List PaymentIntent) :
    inPeriod (dayStart first) (dayEnd last) intents = fallingOn first last intents := by
  refine List.filter_congr fun intent _ => ?_
  rw [decide_eq_decide, le_dayOf, dayOf_le]

theorem fst_sum (totals : List (ℤ × ℕ)) : totals.sum.1 = (totals.map Prod.fst).sum := by
  induction totals with
  | nil => rfl
  | cons total totals ih => rw [List.sum_cons, Prod.fst_add, ih, List.map_cons, List.sum_cons]

theorem snd_sum (totals : List (ℤ × ℕ)) : totals.sum.2 = (totals.map Prod.snd).sum := by
  induction totals with
  | nil => rfl
  | cons total totals ih => rw [List.sum_cons, Prod.snd_add, ih, List.map_cons, List.sum_cons]

theorem sumOf_payment (rows : List PaymentIntent) :
    sumOf payment rows = ((rows.map PaymentIntent.amountUsd).sum, rows.length) := by
  induction rows with
  | nil => rfl
  | cons row rows ih =>
      rw [Sql.sumOf_cons, ih, payment, List.map_cons, List.sum_cons, List.length_cons]
      exact Prod.ext rfl (Nat.add_comm 1 rows.length)

/-- The totals by day add up to the rows. -/
theorem sum_byDay (first last : ℤ) (intents : List PaymentIntent) :
    ((daysFrom first last).map (totalAt (groupTotals
      (fun intent => dayOf (revenueTimestamp intent)) payment (fallingOn first last intents)))).sum =
        sumOf payment (fallingOn first last intents) := by
  refine Sql.sum_totalAt (nodup_daysFrom first last) fun row hrow => ?_
  have hin := of_decide_eq_true (List.mem_filter.1 hrow).2
  exact mem_daysFrom.2 hin.2

/-- The totals by kind add up to the rows. -/
theorem sum_byKind (rows : List PaymentIntent) :
    ([Kind.single, Kind.series, Kind.sub].map
      (totalAt (groupTotals PaymentIntent.kind payment rows))).sum = sumOf payment rows := by
  refine Sql.sum_totalAt (by decide) fun row _ => ?_
  cases row.kind <;> simp

theorem addsUp_revenueTimeline (intents : List PaymentIntent) (first last : ℤ) :
    AddsUp intents (revenueTimeline intents first last) := by
  have hdays := sum_byDay first last intents
  have hkinds := sum_byKind (fallingOn first last intents)
  have hrows := sumOf_payment (fallingOn first last intents)
  constructor
  · simp only [revenueTimeline, dayLoop_eq, List.nil_append, List.map_map]
    exact List.map_id' _
  · simp only [revenueTimeline, dayLoop_eq, List.nil_append, List.map_map, zero_add, fst_sum]
    rfl
  · simp only [revenueTimeline, dayLoop_eq, inPeriod_eq, zero_add, hdays, ← hkinds, fst_sum]
    rfl
  · simp only [revenueTimeline, dayLoop_eq, inPeriod_eq, zero_add, hdays, hrows]
  · simp only [revenueTimeline, dayLoop_eq, List.nil_append, List.map_map, zero_add, snd_sum]
    rfl
  · simp only [revenueTimeline, dayLoop_eq, inPeriod_eq, zero_add, hdays, ← hkinds, snd_sum]
    rfl
  · simp only [revenueTimeline, dayLoop_eq, inPeriod_eq, zero_add, hdays, hrows]

/-! ## The window -/

section Window

variable {fromIsoFormat : String → Option ℤ} {now : Instant} {params : RevenueParams}

theorem parseFilterDate_eq_ok {value : Option String} {field : String} {parsed : Option ℤ}
    (h : parseFilterDate fromIsoFormat value field = .ok parsed) {text : String} {day : ℤ}
    (hvalue : value = some text) (htext : text ≠ "") (hday : fromIsoFormat text = some day) :
    parsed = some day := by
  have hgiven : value.filter (fun text => text ≠ "") = some text := by simp [hvalue, htext]
  rw [parseFilterDate, hgiven] at h
  simp only [hday, Except.ok.injEq] at h
  exact h.symm

theorem askedWindow_eq_ok {today startDate endDate : ℤ} {days : ℕ} {parsedFrom parsedTo : Option ℤ}
    (h : askedWindow today days parsedFrom parsedTo = .ok (startDate, endDate)) :
    endDate = parsedTo.getD today ∧ ∀ day, parsedFrom = some day → startDate = day := by
  cases parsedFrom with
  | some first =>
      simp only [askedWindow, Except.ok.injEq, Prod.mk.injEq] at h
      refine ⟨h.2.symm, fun day hday => ?_⟩
      rw [← h.1]
      exact Option.some.inj hday
  | none =>
      simp only [askedWindow] at h
      split at h
      · cases h
      · simp only [Except.ok.injEq, Prod.mk.injEq] at h
        exact ⟨h.2.symm, fun day hday => by cases hday⟩

/-- What an accepted request is answered for. -/
theorem revenueWindow_eq_ok {startDate endDate : ℤ}
    (h : revenueWindow fromIsoFormat now params = .ok (startDate, endDate)) :
    ∃ parsedFrom parsedTo, parseFilterDate fromIsoFormat params.dateFrom "date_from" = .ok parsedFrom ∧
      parseFilterDate fromIsoFormat params.dateTo "date_to" = .ok parsedTo ∧
      startDate ≤ endDate ∧ endDate = min (parsedTo.getD (dayOf now)) (dayOf now) ∧
      ∀ day, parsedFrom = some day → startDate = day := by
  rw [revenueWindow] at h
  split at h
  · cases h
  cases hfrom : parseFilterDate fromIsoFormat params.dateFrom "date_from" with
  | error err =>
      rw [hfrom] at h
      cases h
  | ok parsedFrom =>
      cases hto : parseFilterDate fromIsoFormat params.dateTo "date_to" with
      | error err =>
          rw [hfrom, hto] at h
          cases h
      | ok parsedTo =>
          rw [hfrom, hto] at h
          change (if _ then _ else _) = _ at h
          split at h
          · cases h
          cases hasked : askedWindow (dayOf now) params.days parsedFrom parsedTo with
          | error err =>
              rw [hasked] at h
              cases h
          | ok window =>
              obtain ⟨first, asked⟩ := window
              rw [hasked] at h
              change (if _ then _ else if _ then _ else _) = _ at h
              obtain ⟨hend, hstart⟩ := askedWindow_eq_ok hasked
              split at h
              · cases h
              next hordered =>
              split at h
              · cases h
              simp only [Except.ok.injEq, Prod.mk.injEq] at h
              obtain ⟨rfl, rfl⟩ := h
              exact ⟨parsedFrom, parsedTo, rfl, rfl, not_lt.1 hordered, by rw [hend], hstart⟩

def november : String → Option ℤ
  | "2023-11-14" => some 19675
  | "2023-11-20" => some 19681
  | _ => none

/-- A payment of 2.99 resolved on 2023-11-14. -/
def novemberPayment : PaymentIntent :=
  ⟨"i1", "o1", none, none, .baray, none, none, none, none, none, .single, some 1, none, none, none,
    299, .succeeded, 1699900000000000, some 1700000000000000⟩

end Window

end MovieApi.Dashboard
