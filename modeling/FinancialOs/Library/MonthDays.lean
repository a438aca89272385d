import FinancialOs.Library.CalendarDates
import Mathlib.Order.Basic
import Mathlib.Order.Lattice
import Mathlib.Logic.Function.Iterate

/-! Days by the number of their month and the day in it, without a last year: the day after, the
same day of the next month as far as it has one, and the monthly dates that fall into a window. -/
namespace FinancialOs.Library

/-- The length of the month with a number, counted from January of the year 0. -/
def monthLength (month : ℕ) : ℕ := daysInMonth (month / 12) (month % 12 + 1)

theorem monthLength_bounds (month : ℕ) : 28 ≤ monthLength month ∧ monthLength month ≤ 31 := by
  unfold monthLength daysInMonth
  split
  · split
    · omega
    · omega
  · split
    · omega
    · omega

structure MonthDay where
  month : ℕ
  day : ℕ
  day_range : 1 ≤ day ∧ day ≤ monthLength month
  deriving DecidableEq

namespace MonthDay

/-- Days are ordered as these numbers are. -/
def no (d : MonthDay) : ℕ := 32 * d.month + d.day

theorem no_injective : Function.Injective no := by
  intro d e h
  have hd := (monthLength_bounds d.month).2
  have he := (monthLength_bounds e.month).2
  have hdr := d.day_range
  have her := e.day_range
  unfold no at h
  cases d with
  | mk month day range =>
    cases e with
    | mk month' day' range' =>
      obtain rfl : month = month' := by
        simp only at *
        omega
      obtain rfl : day = day' := by
        simp only at *
        omega
      rfl

instance linearOrder : LinearOrder MonthDay := LinearOrder.lift' no no_injective

theorem le_iff {d e : MonthDay} : d ≤ e ↔ d.month < e.month ∨ d.month = e.month ∧ d.day ≤ e.day := by
  have hd := (monthLength_bounds d.month).2
  have he := (monthLength_bounds e.month).2
  have hdr := d.day_range
  have her := e.day_range
  have hno : d ≤ e ↔ d.no ≤ e.no := Iff.rfl
  rw [hno]
  unfold no
  omega

theorem lt_iff {d e : MonthDay} : d < e ↔ d.month < e.month ∨ d.month = e.month ∧ d.day < e.day := by
  rw [← not_le, le_iff]
  omega

theorem month_le_of_le {d e : MonthDay} (h : d ≤ e) : d.month ≤ e.month := by
  rw [le_iff] at h
  omega

/-- The day of a month, or its last one. -/
def clamp (month day : ℕ) (h : 1 ≤ day) : MonthDay where
  month := month
  day := min day (monthLength month)
  day_range := ⟨le_min h ((by omega : 1 ≤ 28).trans (monthLength_bounds month).1), min_le_right _ _⟩

def firstOf (month : ℕ) : MonthDay := clamp month 1 (le_refl 1)

def succ (d : MonthDay) : MonthDay :=
  if h : d.day < monthLength d.month then ⟨d.month, d.day + 1, by omega, h⟩
  else firstOf (d.month + 1)

/-- `date + timedelta(days)`. -/
def addDays (d : MonthDay) (days : ℕ) : MonthDay := succ^[days] d

theorem lt_succ (d : MonthDay) : d < d.succ := by
  unfold succ
  split
  · exact lt_iff.mpr (.inr ⟨rfl, Nat.lt_succ_self _⟩)
  · exact lt_iff.mpr (.inl (Nat.lt_succ_self _))

/-- There is no day between one and the day after it. -/
theorem succ_le_of_lt {d e : MonthDay} (h : d < e) : d.succ ≤ e := by
  have he := e.day_range
  rcases lt_iff.mp h with hmonth | ⟨hmonth, hday⟩
  · unfold succ
    split
    · exact le_iff.mpr (.inl hmonth)
    · rw [le_iff]
      change d.month + 1 < e.month ∨ d.month + 1 = e.month ∧ min 1 (monthLength (d.month + 1)) ≤ e.day
      omega
  · have hlen : d.day < monthLength d.month := by
      rw [hmonth]
      omega
    unfold succ
    rw [dif_pos hlen, le_iff]
    exact .inr ⟨hmonth, hday⟩

theorem lt_iff_succ_le {d e : MonthDay} : d < e ↔ d.succ ≤ e :=
  ⟨succ_le_of_lt, fun h => (lt_succ d).trans_le h⟩

@[simp] theorem addDays_zero (d : MonthDay) : d.addDays 0 = d := rfl

theorem addDays_add (d : MonthDay) (m n : ℕ) : d.addDays (m + n) = (d.addDays m).addDays n := by
  rw [addDays, add_comm, Function.iterate_add_apply]
  rfl

theorem le_addDays (d : MonthDay) (n : ℕ) : d ≤ d.addDays n := by
  induction n with
  | zero => exact le_refl d
  | succ n ih =>
    rw [addDays_add]
    exact ih.trans (lt_succ _).le

/-- The same day of the next month, or its last one. -/
def nextMonth (d : MonthDay) : MonthDay := clamp (d.month + 1) d.day d.day_range.1

theorem lt_nextMonth (d : MonthDay) : d < d.nextMonth := by
  rw [lt_iff]
  exact .inl (Nat.lt_succ_self _)

@[simp] theorem month_iterate_nextMonth (d : MonthDay) (n : ℕ) : (nextMonth^[n] d).month = d.month + n := by
  induction n with
  | zero => rfl
  | succ n ih =>
    rw [Function.iterate_succ_apply']
    change (nextMonth^[n] d).month + 1 = _
    rw [ih]
    rfl

/-- A day number is in reach of the date some months later exactly if all months on the way have it. -/
theorem le_day_iterate_nextMonth_iff {d : MonthDay} {n x : ℕ} :
    x ≤ (nextMonth^[n] d).day ↔ x ≤ d.day ∧ ∀ i ≤ n, x ≤ monthLength (d.month + i) := by
  induction n with
  | zero =>
    constructor
    · intro h
      refine ⟨h, fun i hi => ?_⟩
      rw [Nat.le_zero.mp hi]
      exact h.trans d.day_range.2
    · exact fun h => h.1
  | succ n ih =>
    have hday : (nextMonth^[n + 1] d).day = min (nextMonth^[n] d).day (monthLength (d.month + (n + 1))) := by
      rw [Function.iterate_succ_apply']
      change min (nextMonth^[n] d).day (monthLength ((nextMonth^[n] d).month + 1)) = _
      rw [month_iterate_nextMonth, add_assoc]
    rw [hday, le_min_iff, ih, and_assoc]
    refine and_congr_right fun _ => ⟨fun h i hi => ?_, fun h => ⟨fun i hi => h i (by omega), h (n + 1) (le_refl _)⟩⟩
    rcases Nat.lt_or_ge n i with hlt | hge
    · rw [Nat.le_antisymm hi hlt]
      exact h.2
    · exact h.1 i hge

/-- The day is that of the first date, or the last one of a month on the way. -/
theorem day_iterate_nextMonth (d : MonthDay) (n : ℕ) :
    (nextMonth^[n] d).day = d.day ∨ ∃ i ≤ n, (nextMonth^[n] d).day = monthLength (d.month + i) := by
  by_contra h
  push Not at h
  have hle := le_day_iterate_nextMonth_iff.mp (le_refl (nextMonth^[n] d).day)
  have hlt : (nextMonth^[n] d).day + 1 ≤ (nextMonth^[n] d).day :=
    le_day_iterate_nextMonth_iff.mpr ⟨lt_of_le_of_ne hle.1 h.1, fun i hi => lt_of_le_of_ne (hle.2 i hi) (h.2 i hi)⟩
  omega

theorem le_iterate_nextMonth (d : MonthDay) (n : ℕ) : d ≤ nextMonth^[n] d := by
  induction n with
  | zero => exact le_refl d
  | succ n ih =>
    rw [Function.iterate_succ_apply']
    exact ih.trans (lt_nextMonth _).le

/-- The monthly dates from one on that fall behind a start and up to an end, with the months that
are left to look at. -/
def monthlyDates (start stop : MonthDay) : ℕ → MonthDay → List MonthDay
  | 0, _ => []
  | fuel + 1, cursor =>
    if cursor ≤ stop then
      (if start < cursor then [cursor] else []) ++ monthlyDates start stop fuel cursor.nextMonth
    else []

section Windows
variable {start mid stop cursor : MonthDay} {fuel : ℕ}

/-- A window that ends before the cursor is empty. -/
theorem monthlyDates_eq_nil (h : ¬ cursor ≤ stop) : monthlyDates start stop fuel cursor = [] := by
  cases fuel with
  | zero => rfl
  | succ fuel => exact if_neg h

/-- Looking at more months than up to the end of the window finds no more dates. -/
theorem monthlyDates_fuel (h : stop.month < cursor.month + fuel) (more : ℕ) :
    monthlyDates start stop (fuel + more) cursor = monthlyDates start stop fuel cursor := by
  induction fuel generalizing cursor with
  | zero =>
    have hlt : ¬ cursor ≤ stop := by
      rw [le_iff]
      omega
    rw [monthlyDates_eq_nil hlt, monthlyDates_eq_nil hlt]
  | succ fuel ih =>
    rw [Nat.add_right_comm, monthlyDates, monthlyDates]
    split
    · rw [ih]
      change stop.month < cursor.month + 1 + fuel
      omega
    · rfl

/-- From a date behind the start on, the dates are those up to the end of the window. -/
theorem monthlyDates_eq_map (hstart : start < cursor) (hfuel : stop.month < cursor.month + fuel) :
    ∃ n, monthlyDates start stop fuel cursor = (List.range n).map (fun i => nextMonth^[i] cursor) ∧
      ∀ i, i < n ↔ nextMonth^[i] cursor ≤ stop := by
  induction fuel generalizing cursor with
  | zero =>
    refine ⟨0, rfl, fun i => iff_of_false (Nat.not_lt_zero i) fun h => ?_⟩
    have hle := le_iff.mp ((le_iterate_nextMonth cursor i).trans h)
    omega
  | succ fuel ih =>
    by_cases hle : cursor ≤ stop
    · obtain ⟨n, heq, hn⟩ := ih (hstart.trans (lt_nextMonth cursor)) (by
        change stop.month < cursor.month + 1 + fuel
        omega)
      refine ⟨n + 1, ?_, fun i => ?_⟩
      · rw [monthlyDates, if_pos hle, if_pos hstart, heq, List.range_succ_eq_map, List.map_cons, List.map_map]
        rfl
      · cases i with
        | zero => exact iff_of_true (Nat.succ_pos n) hle
        | succ i =>
          rw [Function.iterate_succ_apply, ← hn i]
          exact Nat.succ_lt_succ_iff
    · refine ⟨0, monthlyDates_eq_nil hle, fun i => iff_of_false (Nat.not_lt_zero i) fun h => ?_⟩
      exact hle ((le_iterate_nextMonth cursor i).trans h)

/-- Every date falls into one of two adjacent windows. -/
theorem monthlyDates_append (hmid : start ≤ mid) (hstop : mid ≤ stop) :
    monthlyDates start stop fuel cursor =
      monthlyDates start mid fuel cursor ++ monthlyDates mid stop fuel cursor := by
  induction fuel generalizing cursor with
  | zero => rfl
  | succ fuel ih =>
    by_cases hcur : cursor ≤ mid
    · rw [monthlyDates, monthlyDates, monthlyDates, if_pos (hcur.trans hstop), if_pos hcur,
        if_pos (hcur.trans hstop), if_neg hcur.not_gt, List.nil_append, ih, List.append_assoc]
    · have hlt : mid < cursor := not_le.mp hcur
      rw [monthlyDates_eq_nil hcur, List.nil_append, monthlyDates, monthlyDates, if_pos (hmid.trans_lt hlt),
        if_pos hlt]
      have hnext : ¬ cursor.nextMonth ≤ mid := (hlt.trans (lt_nextMonth cursor)).not_ge
      rw [ih, monthlyDates_eq_nil hnext, List.nil_append]

end Windows

end MonthDay

/-- A date among the days without a last year. -/
def Date.monthDay (d : Date) : MonthDay where
  month := 12 * d.year + (d.month - 1)
  day := d.day
  day_range := by
    have hm := d.month_range
    have hyear : (12 * d.year + (d.month - 1)) / 12 = d.year := by omega
    have hmonth : (12 * d.year + (d.month - 1)) % 12 + 1 = d.month := by omega
    unfold monthLength
    rw [hyear, hmonth]
    exact d.day_range

theorem Date.monthLength_monthDay (d : Date) : monthLength d.monthDay.month = daysInMonth d.year d.month := by
  have hm := d.month_range
  have hyear : (12 * d.year + (d.month - 1)) / 12 = d.year := by omega
  have hmonth : (12 * d.year + (d.month - 1)) % 12 + 1 = d.month := by omega
  change daysInMonth ((12 * d.year + (d.month - 1)) / 12) ((12 * d.year + (d.month - 1)) % 12 + 1) = _
  rw [hyear, hmonth]

end FinancialOs.Library
