import Mathlib
import MovieApi.Text.Delimited

/-!
# Dates

A day of the calendar by its number, counted from the first day of the year 1, and its
date in the ISO format.  Different days have different dates and different texts.
-/

namespace MovieApi.Text

/-! ## The calendar -/

structure Date where
  year : Nat
  month : Nat
  day : Nat
deriving DecidableEq, Repr

def isLeap (year : Nat) : Bool := year % 4 = 0 && (year % 100 ≠ 0 || year % 400 = 0)

def daysBeforeYear (year : Nat) : Nat :=
  (year - 1) * 365 + (year - 1) / 4 - (year - 1) / 100 + (year - 1) / 400

def daysInMonth (leap : Bool) : Nat → Nat
  | 2 => if leap then 29 else 28
  | 4 | 6 | 9 | 11 => 30
  | _ => 31

def daysBeforeMonth (leap : Bool) (month : Nat) : Nat :=
  ((List.range' 1 (month - 1)).map (daysInMonth leap)).sum

def Date.toOrdinal (date : Date) : Nat :=
  daysBeforeYear date.year + daysBeforeMonth (isLeap date.year) date.month + date.day

/-- The last month that begins on or before a day of the year, which counts from 0. -/
def monthOf (leap : Bool) (dayOfYear : Nat) : Nat :=
  ((List.range' 1 12).filter fun month =>
    decide (daysBeforeMonth leap month ≤ dayOfYear)).getLast?.getD 1

/-- `date.fromordinal`: cycles of 400, 100, 4 and 1 years.  The last day of a cycle of 400
or 4 years is not in a fourth cycle of 100 years or a fourth year. -/
def Date.fromOrdinal (n : Nat) : Date :=
  let n400 := (n - 1) / 146097
  let n100 := (n - 1) % 146097 / 36524
  let n4 := (n - 1) % 146097 % 36524 / 1461
  let n1 := (n - 1) % 146097 % 36524 % 1461 / 365
  let year := n400 * 400 + n100 * 100 + n4 * 4 + n1 + 1
  if n1 = 4 ∨ n100 = 4 then ⟨year - 1, 12, 31⟩
  else
    let dayOfYear := (n - 1) % 146097 % 36524 % 1461 % 365
    let month := monthOf (isLeap year) dayOfYear
    ⟨year, month, dayOfYear - daysBeforeMonth (isLeap year) month + 1⟩

theorem daysBeforeMonth_monthOf_le (leap : Bool) (dayOfYear : Nat) :
    daysBeforeMonth leap (monthOf leap dayOfYear) ≤ dayOfYear := by
  unfold monthOf
  cases hlast : ((List.range' 1 12).filter fun month =>
      decide (daysBeforeMonth leap month ≤ dayOfYear)).getLast? with
  | none => exact Nat.zero_le _
  | some month =>
      have hmem := List.mem_of_getLast? hlast
      exact of_decide_eq_true (List.mem_filter.1 hmem).2

theorem daysBeforeYear_of_cycles {n400 n100 n4 n1 : Nat} (h100 : n100 < 4) (h4 : n4 < 25)
    (h1 : n1 < 4) : daysBeforeYear (n400 * 400 + n100 * 100 + n4 * 4 + n1 + 1) =
      n400 * 146097 + n100 * 36524 + n4 * 1461 + n1 * 365 := by
  unfold daysBeforeYear
  omega

/-- The year before the first of a cycle of 400 years. -/
theorem before_cycle_of_400 (n400 : Nat) : isLeap (n400 * 400 + 400) = true ∧
    daysBeforeYear (n400 * 400 + 400) + 366 = n400 * 146097 + 146097 := by
  unfold isLeap daysBeforeYear
  constructor
  · have h4 : (n400 * 400 + 400) % 4 = 0 := by omega
    have h400 : (n400 * 400 + 400) % 400 = 0 := by omega
    simp [h4, h400]
  · omega

/-- The fourth year of a cycle of 4 years, unless the cycle is a century's last. -/
theorem fourth_year (n400 : Nat) {n100 n4 : Nat} (h100 : n100 < 4) (h4 : n4 < 24) :
    isLeap (n400 * 400 + n100 * 100 + n4 * 4 + 4) = true ∧
      daysBeforeYear (n400 * 400 + n100 * 100 + n4 * 4 + 4) + 366 =
        n400 * 146097 + n100 * 36524 + n4 * 1461 + 1461 := by
  unfold isLeap daysBeforeYear
  constructor
  · have hfour : (n400 * 400 + n100 * 100 + n4 * 4 + 4) % 4 = 0 := by omega
    have hcentury : (n400 * 400 + n100 * 100 + n4 * 4 + 4) % 100 ≠ 0 := by omega
    simp [hfour, hcentury]
  · omega

theorem toOrdinal_fromOrdinal {n : Nat} (h : 1 ≤ n) : (Date.fromOrdinal n).toOrdinal = n := by
  unfold Date.fromOrdinal
  generalize h400 : (n - 1) / 146097 = n400
  generalize h100 : (n - 1) % 146097 / 36524 = n100
  generalize h4 : (n - 1) % 146097 % 36524 / 1461 = n4
  generalize h1 : (n - 1) % 146097 % 36524 % 1461 / 365 = n1
  generalize hday : (n - 1) % 146097 % 36524 % 1461 % 365 = dayOfYear
  have hn : n = n400 * 146097 + n100 * 36524 + n4 * 1461 + n1 * 365 + dayOfYear + 1 := by omega
  simp only
  by_cases hlast : n1 = 4 ∨ n100 = 4
  · rw [if_pos hlast]
    have hdecember : daysBeforeMonth true 12 + 31 = 366 := by decide
    rcases hlast with rfl | rfl
    · have hlt : n100 < 4 ∧ n4 < 24 ∧ dayOfYear = 0 := by omega
      obtain ⟨hleap, hyear⟩ := fourth_year n400 hlt.1 hlt.2.1
      rw [Nat.add_sub_cancel, Date.toOrdinal, hleap]
      simp only
      omega
    · have hzero : n4 = 0 ∧ n1 = 0 ∧ dayOfYear = 0 := by omega
      obtain ⟨hleap, hyear⟩ := before_cycle_of_400 n400
      have hsame : n400 * 400 + 4 * 100 + n4 * 4 + n1 + 1 - 1 = n400 * 400 + 400 := by omega
      rw [hsame, Date.toOrdinal, hleap]
      simp only
      omega
  · rw [if_neg hlast]
    have hlt : n100 < 4 ∧ n4 < 25 ∧ n1 < 4 := by omega
    generalize hleap : isLeap (n400 * 400 + n100 * 100 + n4 * 4 + n1 + 1) = leap
    have hmonth := daysBeforeMonth_monthOf_le leap dayOfYear
    rw [Date.toOrdinal, hleap]
    simp only
    rw [daysBeforeYear_of_cycles hlt.1 hlt.2.1 hlt.2.2]
    omega

theorem fromOrdinal_inj {n n' : Nat} (h : 1 ≤ n) (h' : 1 ≤ n')
    (heq : Date.fromOrdinal n = Date.fromOrdinal n') : n = n' := by
  rw [← toOrdinal_fromOrdinal h, heq, toOrdinal_fromOrdinal h']

/-! ## The text -/

/-- A number with leading zeros. -/
def padded (width n : Nat) : List Char := (Nat.toDigits 10 n).leftpad width '0'

/-- `date.isoformat`. -/
def Date.isoformat (date : Date) : String :=
  String.ofList (padded 4 date.year ++ '-' :: (padded 2 date.month ++ '-' :: padded 2 date.day))

theorem padded_inj {width n n' : Nat} (h : padded width n = padded width n') : n = n' := by
  have hvalue (n : Nat) : Nat.ofDigitChars 10 (padded width n) 0 = n := by
    rw [padded, List.leftpad, Nat.ofDigitChars_append, Nat.ofDigitChars_replicate_zero,
      Nat.mul_zero, Nat.ofDigitChars_ten_toDigits]
  rw [← hvalue n, h, hvalue n']

theorem isDigit_of_mem_padded {width n : Nat} {c : Char} (h : c ∈ padded width n) :
    c.isDigit = true := by
  rw [padded, List.leftpad, List.mem_append] at h
  rcases h with h | h
  · rw [List.eq_of_mem_replicate h]
    rfl
  · exact Nat.isDigit_of_mem_toDigits (by decide) (by decide) h

theorem dash_notMem_padded (width n : Nat) : '-' ∉ padded width n :=
  fun h => absurd (isDigit_of_mem_padded h) (by decide)

theorem isoformat_inj {date date' : Date} (h : date.isoformat = date'.isoformat) :
    date = date' := by
  obtain ⟨year, month, day⟩ := date
  obtain ⟨year', month', day'⟩ := date'
  have hlist := String.ofList_injective h
  rw [← List.cons_append, ← List.append_assoc, ← List.cons_append, ← List.append_assoc] at hlist
  obtain ⟨hfront, hday⟩ := append_mark_inj (dash_notMem_padded 2 day)
    (dash_notMem_padded 2 day') hlist
  obtain ⟨hyear, hmonth⟩ := append_mark_inj (dash_notMem_padded 2 month)
    (dash_notMem_padded 2 month') hfront
  rw [Date.mk.injEq]
  exact ⟨padded_inj hyear, padded_inj hmonth, padded_inj hday⟩

theorem mem_isoformat {date : Date} {c : Char} (h : c ∈ date.isoformat.toList) :
    c.isDigit = true ∨ c = '-' := by
  rw [Date.isoformat, String.toList_ofList] at h
  simp only [List.mem_append, List.mem_cons] at h
  rcases h with h | h | h | h | h
  · exact .inl (isDigit_of_mem_padded h)
  · exact .inr h
  · exact .inl (isDigit_of_mem_padded h)
  · exact .inr h
  · exact .inl (isDigit_of_mem_padded h)

theorem isoformat_ne_empty (date : Date) : date.isoformat ≠ "" := by
  intro h
  have hlist := congrArg String.toList h
  rw [Date.isoformat, String.toList_ofList] at hlist
  simp at hlist

/-- The last day of a leap year, and the day after. -/
example : (Date.fromOrdinal 738885).isoformat = "2023-12-31" ∧
    (Date.fromOrdinal 738945).isoformat = "2024-02-29" ∧
    (Date.fromOrdinal 739251).isoformat = "2024-12-31" ∧
    (Date.fromOrdinal 739252).isoformat = "2025-01-01" := by
  decide

end MovieApi.Text
