import FinancialOs.Library.CheckedSteps
import FinancialOs.Rules.CashForecast

/-! The monthly dates of a forecast as the calendar has them, which ends with the year 9999. -/
namespace FinancialOs.Rules.DatedForecast
open Library Store

/-- `date(y, m, min(day, monthrange(y, m)[1]))`. -/
def aydakiGun (year month day : ℕ) : Except PyError Date :=
  require .valueError (Date.ofYmd? year month (min day (daysInMonth year month)))

/-- A day of the month after the one of a date. -/
def sonrakiAyda (d : Date) (day : ℕ) : Except PyError Date :=
  aydakiGun (d.year + if d.month = 12 then 1 else 0) (d.month % 12 + 1) day

/-- The loop of `_month_occurrences`: the month after the last one has to exist, too. -/
def tekrarDongusu (start stop : Date) (dayOfMonth : ℕ) : ℕ → Date → Except PyError (List Date)
  | 0, _ => .ok []
  | fuel + 1, cur =>
    if stop.notBefore cur then do
      let candidate ← aydakiGun cur.year cur.month dayOfMonth
      let sonraki ← sonrakiAyda cur 1
      let kalan ← tekrarDongusu start stop dayOfMonth fuel sonraki
      return if candidate.notBefore start ∧ stop.notBefore candidate then candidate :: kalan else kalan
    else .ok []

/-- `_month_occurrences`. -/
def monthOccurrences (start stop : Date) (dayOfMonth : ℕ) : Except PyError (List Date) := do
  let cur ← aydakiGun start.year start.month 1
  tekrarDongusu start stop dayOfMonth (stop.monthNo + 1 - start.monthNo) cur

/-- An instalment of a loan. -/
def taksitOlayi (a : ℕ × Account) (taksit : ℚ) (d : MonthDay) : ForecastEvent :=
  ⟨d, -taksit, a.2.name ++ " taksiti", .loanPayment, a.1⟩

/-- The loop of `_expand_loan_payments`, with the number of instalments so far. -/
def krediDongusu (a : ℕ × Account) (taksit : ℚ) (anchorDay : ℕ) (stop : Date) (remaining : Option ℤ) :
    ℕ → ℕ → Date → Except PyError (List ForecastEvent)
  | 0, _, _ => .ok []
  | fuel + 1, idx, current =>
    if stop.notBefore current ∧ (remaining.all fun r => (idx : ℤ) < r) then do
      let sonraki ← sonrakiAyda current anchorDay
      let kalan ← krediDongusu a taksit anchorDay stop remaining fuel (idx + 1) sonraki
      return taksitOlayi a taksit current.monthDay :: kalan
    else .ok []

/-- `_expand_loan_payments`. -/
def expandLoanPayments (start stop : Date) (ek : HesapEki) (a : ℕ × Account) : Except PyError (List ForecastEvent) :=
  if a.2.accountType ≠ .loan then .ok []
  else match ek.nextPaymentDate with
    | none => .ok []
    | some ilk =>
      let taksit := ek.monthlyPayment.getD 0
      let current := if ilk.notBefore start then ilk else start
      if taksit = 0 ∨ ek.remainingInstallments = some 0 then .ok []
      else krediDongusu a taksit current.day stop ek.remainingInstallments (stop.monthNo + 1 - current.monthNo) 0 current

section Dates
variable {d e : Date}

theorem monthNo_eq (d : Date) : d.monthNo = d.monthDay.month + 1 := by
  have hm := d.month_range
  change 12 * d.year + d.month = 12 * d.year + (d.month - 1) + 1
  omega

theorem notBefore_iff : d.notBefore e = true ↔ e.monthDay ≤ d.monthDay := by
  rw [Date.notBefore, decide_eq_true_iff, monthNo_eq, monthNo_eq, MonthDay.le_iff, Nat.add_lt_add_iff_right,
    Nat.add_right_cancel_iff]
  rfl

theorem monthDay_injective : Function.Injective Date.monthDay := by
  intro d e h
  have hno : d.monthNo = e.monthNo := by rw [monthNo_eq, monthNo_eq, h]
  obtain ⟨hyear, hmonth⟩ := Date.monthNo_eq.mp hno
  have hday : d.day = e.day := congrArg MonthDay.day h
  cases d
  cases e
  simp only at hyear hmonth hday
  subst hyear hmonth hday
  rfl

/-- The month number of the years up to 9999. -/
theorem month_monthDay_lt (d : Date) : d.monthDay.month < 120000 := by
  have hyear := d.year_range
  have hmonth := d.month_range
  change 12 * d.year + (d.month - 1) < 120000
  omega

end Dates

section Days
variable {year month day : ℕ}

theorem aydakiGun_ok (hyear : 1 ≤ year ∧ year ≤ 9999) (hmonth : 1 ≤ month ∧ month ≤ 12) (hday : 1 ≤ day) :
    ∃ d, aydakiGun year month day = .ok d ∧ d.monthDay = vadeGunu (12 * year + (month - 1)) day := by
  have hlen : monthLength (12 * year + (month - 1)) = daysInMonth year month := by
    rw [monthLength, show (12 * year + (month - 1)) / 12 = year by omega,
      show (12 * year + (month - 1)) % 12 + 1 = month by omega]
  have hrange := (monthLength_bounds (12 * year + (month - 1))).1
  rw [hlen] at hrange
  have hclamp : 1 ≤ min day (daysInMonth year month) ∧ min day (daysInMonth year month) ≤ daysInMonth year month := by
    omega
  refine ⟨⟨year, month, min day (daysInMonth year month), hyear, hmonth, hclamp⟩, ?_, ?_⟩
  · rw [aydakiGun, Date.ofYmd?, dif_pos hyear, dif_pos hmonth, dif_pos hclamp]
    rfl
  · apply MonthDay.no_injective
    have hvade : (vadeGunu (12 * year + (month - 1)) day).day = min day (daysInMonth year month) := by
      change min (max 1 day) (monthLength (12 * year + (month - 1))) = _
      rw [max_eq_right hday, hlen]
    rw [MonthDay.no, MonthDay.no, hvade]
    rfl

theorem aydakiGun_error (h : 9999 < year) : aydakiGun year month day = .error .valueError := by
  have hyear : ¬ (1 ≤ year ∧ year ≤ 9999) := by omega
  rw [aydakiGun, Date.ofYmd?, dif_neg hyear]
  rfl

theorem sonrakiAyda_ok {d : Date} (h : d.monthDay.month + 1 < 120000) (hday : 1 ≤ day) :
    ∃ e, sonrakiAyda d day = .ok e ∧ e.monthDay = vadeGunu (d.monthDay.month + 1) day := by
  have hyear := d.year_range
  have hmonth := d.month_range
  change 12 * d.year + (d.month - 1) + 1 < 120000 at h
  change ∃ e : Date, _ ∧ e.monthDay = vadeGunu (12 * d.year + (d.month - 1) + 1) day
  unfold sonrakiAyda
  split_ifs with hdec
  · obtain ⟨e, he, hday⟩ := @aydakiGun_ok (d.year + 1) (d.month % 12 + 1) day (by omega) (by omega) hday
    refine ⟨e, he, hday.trans ?_⟩
    congr 1
    omega
  · obtain ⟨e, he, hday⟩ := @aydakiGun_ok (d.year + 0) (d.month % 12 + 1) day (by omega) (by omega) hday
    refine ⟨e, he, hday.trans ?_⟩
    congr 1
    omega

/-- There is no month after the last one of the calendar. -/
theorem sonrakiAyda_error {d : Date} (h : d.monthDay.month + 1 = 120000) :
    sonrakiAyda d day = .error .valueError := by
  have hyear := d.year_range
  have hmonth := d.month_range
  change 12 * d.year + (d.month - 1) + 1 = 120000 at h
  have hdec : d.month = 12 := by omega
  rw [sonrakiAyda, if_pos hdec, aydakiGun_error (by omega)]

end Days

end FinancialOs.Rules.DatedForecast
