import Mathlib.Data.List.Basic
import Mathlib.Tactic.NormNum

/-! Proleptic Gregorian dates and the ISO 8601 texts `date.fromisoformat` reads. -/
namespace FinancialOs.Library

def isLeap (year : ℕ) : Bool := year % 4 = 0 ∧ (year % 100 ≠ 0 ∨ year % 400 = 0)

def daysInMonth (year month : ℕ) : ℕ :=
  if month = 2 then (if isLeap year then 29 else 28)
  else if month = 4 ∨ month = 6 ∨ month = 9 ∨ month = 11 then 30 else 31

/-- A date of the years 1 to 9999; an impossible day cannot be built. -/
structure Date where
  year : ℕ
  month : ℕ
  day : ℕ
  year_range : 1 ≤ year ∧ year ≤ 9999
  month_range : 1 ≤ month ∧ month ≤ 12
  day_range : 1 ≤ day ∧ day ≤ daysInMonth year month
  deriving DecidableEq

namespace Date

def ofYmd? (year month day : ℕ) : Option Date :=
  if hy : 1 ≤ year ∧ year ≤ 9999 then
    if hm : 1 ≤ month ∧ month ≤ 12 then
      if hd : 1 ≤ day ∧ day ≤ daysInMonth year month then some ⟨year, month, day, hy, hm, hd⟩
      else none
    else none
  else none

/-- Months counted through the years. -/
def monthNo (d : Date) : ℕ := 12 * d.year + d.month

/-- The date is the other one or a later one. -/
def notBefore (d e : Date) : Bool := e.monthNo < d.monthNo ∨ e.monthNo = d.monthNo ∧ e.day ≤ d.day

theorem monthNo_eq {d e : Date} : d.monthNo = e.monthNo ↔ d.year = e.year ∧ d.month = e.month := by
  have hd := d.month_range
  have he := e.month_range
  unfold monthNo
  omega

theorem monthNo_le_of_notBefore {d e : Date} (h : d.notBefore e = true) : e.monthNo ≤ d.monthNo := by
  have h : e.monthNo < d.monthNo ∨ e.monthNo = d.monthNo ∧ e.day ≤ d.day := of_decide_eq_true h
  omega

theorem ofYmd?_self (d : Date) : ofYmd? d.year d.month d.day = some d := by
  simp [ofYmd?, d.year_range, d.month_range, d.day_range]

def daysBeforeYear (year : ℕ) : ℕ :=
  365 * (year - 1) + (year - 1) / 4 - (year - 1) / 100 + (year - 1) / 400

def daysBeforeMonth (year month : ℕ) : ℕ :=
  ((List.range (month - 1)).map (fun m => daysInMonth year (m + 1))).sum

/-- The month holding the zero-based day `n` of a year, with the day in that month. -/
def monthOf (year : ℕ) : ℕ → ℕ → ℕ → ℕ × ℕ
  | 0, month, n => (month, n + 1)
  | fuel + 1, month, n =>
    if n < daysInMonth year month then (month, n + 1)
    else monthOf year fuel (month + 1) (n - daysInMonth year month)

/-- The date with a given ordinal; day 1 is 1 January of year 1. -/
def ofOrdinal? (ordinal : ℕ) : Option Date :=
  let n := ordinal - 1
  let n400 := n / 146097
  let n := n % 146097
  let n100 := n / 36524
  let n := n % 36524
  let n4 := n / 1461
  let n := n % 1461
  let n1 := n / 365
  let year := 400 * n400 + 100 * n100 + 4 * n4 + n1 + 1
  if ordinal = 0 then none
  else if n1 = 4 ∨ n100 = 4 then ofYmd? (year - 1) 12 31
  else
    let (month, day) := monthOf year 12 1 (n % 365)
    ofYmd? year month day

/-- The ordinal of the Monday that opens the ISO year. -/
def isoYearStart (year : ℕ) : ℕ :=
  let first := daysBeforeYear year + 1
  let weekday := (first + 6) % 7
  if 3 < weekday then first + 7 - weekday else first - weekday

def ofIsoWeek? (year week day : ℕ) : Option Date :=
  if 1 ≤ year ∧ year ≤ 9999 ∧ 1 ≤ week ∧ 1 ≤ day ∧ day ≤ 7 ∧
      (week ≤ 52 ∨ week = 53 ∧ isoYearStart year + 371 ≤ isoYearStart (year + 1)) then
    ofOrdinal? (isoYearStart year + 7 * (week - 1) + (day - 1))
  else none

private def number (cs : List Char) : Option ℕ :=
  if cs ≠ [] ∧ cs.all Char.isDigit then
    some (cs.foldl (fun value c => 10 * value + (c.toNat - 48)) 0)
  else none

/-- The extended and basic calendar forms and the extended and basic week forms. -/
def fromIso? (s : String) : Option Date :=
  match s.toList with
  | [a, b, c, d, '-', 'W', e, f] => do
    ofIsoWeek? (← number [a, b, c, d]) (← number [e, f]) 1
  | [a, b, c, d, '-', 'W', e, f, '-', g] => do
    ofIsoWeek? (← number [a, b, c, d]) (← number [e, f]) (← number [g])
  | [a, b, c, d, 'W', e, f] => do
    ofIsoWeek? (← number [a, b, c, d]) (← number [e, f]) 1
  | [a, b, c, d, 'W', e, f, g] => do
    ofIsoWeek? (← number [a, b, c, d]) (← number [e, f]) (← number [g])
  | [a, b, c, d, '-', e, f, '-', g, h] => do
    ofYmd? (← number [a, b, c, d]) (← number [e, f]) (← number [g, h])
  | [a, b, c, d, e, f, g, h] => do
    ofYmd? (← number [a, b, c, d]) (← number [e, f]) (← number [g, h])
  | _ => none

def padded (width n : ℕ) : String :=
  let digits := toString n
  String.ofList (List.replicate (width - digits.length) '0') ++ digits

def isoformat (d : Date) : String :=
  padded 4 d.year ++ "-" ++ padded 2 d.month ++ "-" ++ padded 2 d.day

example : (fromIso? "2026-W18-5").map isoformat = some "2026-05-01" := by decide +kernel
example : (fromIso? "20260501").map isoformat = some "2026-05-01" := by decide +kernel
example : fromIso? "2026-02-29" = none := by decide +kernel

theorem toList_padded (width n : ℕ) :
    (padded width n).toList = List.replicate (width - (toString n).length) '0' ++ Nat.toDigits 10 n := by
  simp only [padded, String.toList_append, String.toList_ofList, Nat.toString_eq_repr, Nat.toList_repr]

theorem length_padded {width n : ℕ} (hw : 0 < width) (hn : n < 10 ^ width) : (padded width n).toList.length = width := by
  have hlen : (toString n).length = (Nat.toDigits 10 n).length := by
    rw [Nat.toString_eq_repr, ← String.length_toList, Nat.toList_repr]
  have hle : (Nat.toDigits 10 n).length ≤ width := (Nat.length_toDigits_le_iff (by decide) hw).mpr hn
  rw [toList_padded, List.length_append, List.length_replicate, hlen]
  omega

theorem isDigit_padded {width n : ℕ} : ∀ c ∈ (padded width n).toList, c.isDigit = true := by
  intro c hc
  rw [toList_padded] at hc
  rcases List.mem_append.mp hc with hc | hc
  · rw [List.eq_of_mem_replicate hc]
    rfl
  · exact Nat.isDigit_of_mem_toDigits (by decide) (by decide) hc

theorem ofDigitChars_padded (width n : ℕ) : Nat.ofDigitChars 10 (padded width n).toList 0 = n := by
  rw [toList_padded, Nat.ofDigitChars_append, Nat.ofDigitChars_replicate_zero, Nat.mul_zero,
    Nat.ofDigitChars_ten_toDigits]

private theorem number_padded (width n : ℕ) : number (padded width n).toList = some n := by
  have hne : (padded width n).toList ≠ [] := by
    rw [toList_padded]
    exact List.append_ne_nil_of_right_ne_nil _ Nat.toDigits_ne_nil
  have hvalue : (padded width n).toList.foldl (fun value c => 10 * value + (c.toNat - 48)) 0 = n :=
    ofDigitChars_padded width n
  rw [number, if_pos ⟨hne, List.all_eq_true.mpr isDigit_padded⟩, hvalue]

theorem toList_isoformat (d : Date) : d.isoformat.toList =
    (padded 4 d.year).toList ++ '-' :: ((padded 2 d.month).toList ++ '-' :: (padded 2 d.day).toList) := by
  simp [isoformat, String.toList_append]

theorem daysInMonth_le (year month : ℕ) : daysInMonth year month ≤ 31 := by
  unfold daysInMonth
  split_ifs <;> omega

private theorem length_parts (d : Date) : (padded 4 d.year).toList.length = 4 ∧
    (padded 2 d.month).toList.length = 2 ∧ (padded 2 d.day).toList.length = 2 := by
  have hyear := d.year_range
  have hmonth := d.month_range
  have hday := d.day_range
  have hlen := daysInMonth_le d.year d.month
  refine ⟨length_padded (by decide) ?_, length_padded (by decide) ?_, length_padded (by decide) ?_⟩ <;> omega

/-- A date is read back from its own text. -/
theorem fromIso?_isoformat (d : Date) : fromIso? d.isoformat = some d := by
  obtain ⟨hyear, hmonth, hday⟩ := length_parts d
  obtain ⟨a, b, c, e, hy⟩ := List.length_eq_four.mp hyear
  obtain ⟨f, g, hm⟩ := List.length_eq_two.mp hmonth
  obtain ⟨h, i, hd⟩ := List.length_eq_two.mp hday
  have hf : f ≠ 'W' := by
    rintro rfl
    have := isDigit_padded 'W' (hm ▸ List.mem_cons_self)
    cases this
  have hlist : d.isoformat.toList = [a, b, c, e, '-', f, g, '-', h, i] := by
    rw [toList_isoformat, hy, hm, hd]
    rfl
  have hread : fromIso? d.isoformat =
      (number [a, b, c, e]).bind fun y => (number [f, g]).bind fun m => (number [h, i]).bind fun t =>
        ofYmd? y m t := by
    unfold fromIso?
    rw [hlist]
    split
    · next hl => simp at hl
    · next hl =>
      simp only [List.cons.injEq] at hl
      exact absurd hl.2.2.2.2.2.1 hf
    · next hl => simp at hl
    · next hl => simp at hl
    · next hl =>
      simp only [List.cons.injEq, true_and, and_true] at hl
      obtain ⟨rfl, rfl, rfl, rfl, rfl, rfl, rfl, rfl⟩ := hl
      rfl
    · next hl => simp at hl
    · next hl _ => exact absurd rfl (hl a b c e f g h i)
  rw [hread, ← hy, ← hm, ← hd, number_padded, number_padded, number_padded]
  exact ofYmd?_self d

/-- The first seven characters of a date's text name its year and month. -/
theorem take_isoformat (d : Date) :
    7 ≤ d.isoformat.length ∧
      String.ofList (d.isoformat.toList.take 7) = padded 4 d.year ++ "-" ++ padded 2 d.month := by
  obtain ⟨hyear, hmonth, hday⟩ := length_parts d
  have htake : d.isoformat.toList.take 7 = (padded 4 d.year).toList ++ '-' :: (padded 2 d.month).toList := by
    rw [toList_isoformat, List.take_append, hyear, List.take_of_length_le (by omega), List.take_succ_cons,
      List.take_append, hmonth, List.take_of_length_le (by omega)]
    simp
  constructor
  · rw [← String.length_toList, toList_isoformat]
    simp only [List.length_append, List.length_cons, hyear, hmonth, hday]
    omega
  · rw [htake, ← String.toList_inj]
    simp [String.toList_append]

/-- A number that fills its width is not padded. -/
theorem padded_eq_toString {width n : ℕ} (hw : 0 < width) : padded (width + 1) n = toString n ↔ 10 ^ width ≤ n := by
  have hlen : (toString n).length = (Nat.toDigits 10 n).length := by
    rw [Nat.toString_eq_repr, ← String.length_toList, Nat.toList_repr]
  have hle := Nat.length_toDigits_le_iff (b := 10) (n := n) (by decide) hw
  rw [← String.toList_inj, toList_padded, Nat.toString_eq_repr, Nat.toList_repr, ← Nat.toString_eq_repr, hlen,
    List.append_left_eq_self, List.replicate_eq_nil_iff]
  omega

end Date

end FinancialOs.Library
