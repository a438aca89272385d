import FinancialOs.Store.Rows

/-! The integrity rules the session checks on every new or changed row before
it is flushed. -/
namespace FinancialOs.Store
open Library

/-- The card columns that are filled, under their column names. -/
def doluKartAlanlari (a : Account) : List String :=
  (if a.creditLimit.isSome then ["credit_limit"] else []) ++
    (if a.statementDay.isSome then ["statement_day"] else []) ++
    (if a.paymentDay.isSome then ["payment_day"] else []) ++
    (if a.statementBalance.isSome then ["statement_balance"] else [])

/-- A row that has not been inserted yet has no id. -/
def idText : Option ℕ → String
  | none => "None"
  | some id => toString id

def denetleHesap (key : Option ℕ) (a : Account) : Except PyError Unit :=
  let id := idText key
  let tip := a.accountType.value
  let dolu := ", ".intercalate (doluKartAlanlari a)
  if a.accountType ≠ .creditCard ∧ doluKartAlanlari a ≠ [] then
    .error (.raised s!"accounts id={id}: <AccountType.{tip}: '{tip}'> hesapta kart alanı dolu: {dolu} (yalnız kredi kartında anlamlı).")
  else .ok ()

def paidDateRepr : Option Date → String
  | none => "None"
  | some d => s!"datetime.date({d.year}, {d.month}, {d.day})"

def denetleBorc (key : Option ℕ) (d : PersonalDebt) : Except PyError Unit :=
  let id := idText key
  let odendi := (PyValue.bool d.isPaid).text
  let tarih := paidDateRepr d.paidDate
  if d.isPaid ≠ d.paidDate.isSome then
    .error (.raised s!"personal_debts id={id}: is_paid={odendi} ile paid_date={tarih} çelişiyor (ödendiyse tarih zorunlu, ödenmediyse tarih boş).")
  else .ok ()

/-- The `YYYY-MM` pattern of the monthly deduplication key. -/
def yilAyMi (ym : String) : Bool :=
  match ym.toList with
  | [a, b, c, d, '-', m, n] =>
    [a, b, c, d, n].all Char.isDigit ∧
      ((m = '0' ∧ n ≠ '0') ∨ (m = '1' ∧ (n = '0' ∨ n = '1' ∨ n = '2')))
  | _ => false

def denetleDuzenli (tableName : String) (key : Option ℕ) (r : Recurring) : Except PyError Unit :=
  let id := idText key
  match r.lastTriggeredYearMonth with
  | none => .ok ()
  | some ym =>
    if yilAyMi ym then .ok ()
    else .error (.raised s!"{tableName} id={id}: last_triggered_year_month='{ym}' 'YYYY-MM' değil (dedup anahtarı bozulur).")

theorem denetleHesap_ok {key : Option ℕ} {a : Account} :
    denetleHesap key a = .ok () ↔ a.accountType = .creditCard ∨ doluKartAlanlari a = [] := by
  unfold denetleHesap
  by_cases h : a.accountType ≠ .creditCard ∧ doluKartAlanlari a ≠ []
  · simp only [if_pos h, reduceCtorEq, false_iff, not_or]
    exact h
  · simp only [if_neg h, true_iff]
    by_contra hn
    exact h (not_or.mp hn)

theorem denetleBorc_ok {key : Option ℕ} {d : PersonalDebt} :
    denetleBorc key d = .ok () ↔ d.isPaid = d.paidDate.isSome := by
  unfold denetleBorc
  by_cases h : d.isPaid = d.paidDate.isSome <;> simp [h]

example : yilAyMi "2026-05" = true ∧ yilAyMi "2026050" = false := by decide +kernel

end FinancialOs.Store
