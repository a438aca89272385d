import FinancialOs.Library.CalendarDates
import FinancialOs.Library.CheckedSteps
import FinancialOs.Library.DecimalRounding
import FinancialOs.Rules.MoneyFormat
import FinancialOs.Rules.QuickEntry
import FinancialOs.Store.Goals
import Mathlib.Data.List.Sort

/-! Which rules a new transaction matches, what they allot to their goals, and the
progress of a goal that follows from its allocations; and the sinking fund of a dated goal, which
is what has to be set aside each month until its day. -/
namespace FinancialOs.Rules
open Library Store

/-- The first check that fails or raises decides. -/
def hepsiUyar : List (Except PyError Bool) → Except PyError Bool
  | [] => .ok true
  | .ok true :: rest => hepsiUyar rest
  | r :: _ => r

def txTypeUyar (tx : Transaction) : Option PyValue → Except PyError Bool
  | none => .ok true
  | some v => .ok (v = .str tx.transactionType.value)

def amountMinUyar (tx : Transaction) : Option PyValue → Except PyError Bool
  | none => .ok true
  | some v => do
    let sinir ← v.toDecimal
    let kucuk ← (PyFloat.finite |tx.amount|).lt sinir
    return !kucuk

def amountMaxUyar (tx : Transaction) : Option PyValue → Except PyError Bool
  | none => .ok true
  | some v => do
    let sinir ← v.toDecimal
    let buyuk ← sinir.lt (.finite |tx.amount|)
    return !buyuk

/-- `tx.account_id == value` for a nullable integer column. -/
def sutunEsit : Option ℕ → PyValue → Bool
  | none, v => v = .none
  | some n, .bool b => n = if b then 1 else 0
  | some n, .int m => (n : ℤ) = m
  | some n, .float (.finite q) => (n : ℚ) = q
  | some _, _ => false

def accountIdUyar (tx : Transaction) : Option PyValue → Except PyError Bool
  | none => .ok true
  | some v => .ok (sutunEsit tx.accountId v)

/-- `acc.account_type.value in allowed`; a text stands for the list of itself. -/
def izinli (tip : AccountType) : IzinliTipler → Except PyError Bool
  | .tek (.str s) => .ok (tip.value = s)
  | .tek _ => .error .typeError
  | .liste vs => .ok (vs.contains (.str tip.value))
  | .sozluk anahtarlar => .ok (anahtarlar.contains tip.value)

def accountTypeUyar (db : Db) (tx : Transaction) : Option IzinliTipler → Except PyError Bool
  | none => .ok true
  | some allowed => match tx.accountId.bind db.accounts.get? with
    | none => .ok false
    | some acc => izinli acc.accountType allowed

def descriptionUyar (tx : Transaction) : Option PyValue → Except PyError Bool
  | none => .ok true
  | some (.str needle) =>
    .ok (icerir (needle.toList.flatMap kucukHarf) ((tx.description.getD "").toList.flatMap kucukHarf))
  | some _ => .error .attributeError

/-- `_matches(tx, criteria, db)`. -/
def ruleMatches (db : Db) (tx : Transaction) (criteria : Criteria) : Except PyError Bool :=
  hepsiUyar [txTypeUyar tx criteria.txType, amountMinUyar tx criteria.amountMin,
    amountMaxUyar tx criteria.amountMax, accountIdUyar tx criteria.accountId,
    accountTypeUyar db tx criteria.accountType, descriptionUyar tx criteria.descriptionContains]

/-- `_compute_allocation_amount(tx, rule)`: an expense draws, everything else contributes. -/
def computeAllocationAmount (tx : Transaction) (rule : GoalRule) : ℚ :=
  let sign : ℚ := if tx.transactionType = .expense then -1 else 1
  match rule.allocationType with
  | .full => sign * tx.amount
  | .percent => match rule.allocationValue with
    | none => 0
    | some v => sign * roundHalfUp (tx.amount * (v / 100)) 2
  | .fixed => match rule.allocationValue with
    | none => 0
    | some v => sign * v
  | .unknown _ => 0

/-- `order_by(priority, id)`. -/
def onceGelir (x y : ℕ × GoalRule) : Prop :=
  x.2.priority < y.2.priority ∨ x.2.priority = y.2.priority ∧ x.1 ≤ y.1

instance : DecidableRel onceGelir := fun x y =>
  inferInstanceAs (Decidable (x.2.priority < y.2.priority ∨ x.2.priority = y.2.priority ∧ x.1 ≤ y.1))

/-- The active rules of the goals in the scope of a transaction. -/
def kapsamKurallari (d : GoalDb) (tx : Transaction) : List (ℕ × GoalRule) :=
  (d.rules.select (fun r => r.isActive &&
      (d.goals.get? r.goalId).any (goalScope tx.userId tx.workspaceId))).insertionSort onceGelir

/-- `refresh_goal` looks at the accounts of the goal's own scope. -/
def hedefKapsami (goal : Goal) (a : Account) : Bool :=
  match goal.workspaceId with
  | some w => a.workspaceId = some w
  | none => goal.userId = some a.userId

/-- `_compute_debt_freedom`: the amount paid off since the baseline, and its percentage. -/
def computeDebtFreedom (db : Db) (goal : Goal) : ℚ × ℚ :=
  match goal.baselineAmount.filter (· ≠ 0) with
  | none => (0, 0)
  | some baseline =>
    let borc := db.accounts.total (fun a =>
      if hedefKapsami goal a ∧ (a.accountType = .loan ∨ a.accountType = .creditCard) ∧ 0 < a.balance then
        a.balance
      else 0)
    let odenen := max (baseline - roundHalfUp borc 2) 0
    (odenen, roundEven (min (odenen / baseline * 100) 100) 2)

/-- `_compute_cash_target`: the sum of the allocations, and its percentage of the target. -/
def computeCashTarget (allocations : Table GoalAllocation) (goalId : ℕ) (goal : Goal) : ℚ × ℚ :=
  let current := roundHalfUp (allocations.total (fun a => if a.goalId = goalId then a.amount else 0)) 2
  let progress := if goal.targetAmount = 0 then 0 else max (min (current / goal.targetAmount * 100) 100) 0
  (max current 0, roundEven progress 2)

def computeProgress (d : GoalDb) (goalId : ℕ) (goal : Goal) : Except PyError (ℚ × ℚ) :=
  match goal.goalType with
  | .debtFreedom => .ok (computeDebtFreedom d.db goal)
  | .cashTarget => .ok (computeCashTarget d.allocations goalId goal)
  | .unknown _ => .error .valueError

/-- The session's check of a goal row before it is flushed. -/
def denetleHedef (goalId : ℕ) (goal : Goal) : Except PyError Unit :=
  let p := sabitNokta goal.progressPercent 2
  if 0 ≤ goal.progressPercent ∧ goal.progressPercent ≤ 100 then .ok ()
  else .error (.raised s!"goals id={goalId}: progress_percent=Decimal('{p}') [0, 100] dışında.")

theorem denetleHedef_ok {goalId : ℕ} {goal : Goal} {u : Unit} (h : denetleHedef goalId goal = .ok u) :
    0 ≤ goal.progressPercent ∧ goal.progressPercent ≤ 100 := by
  unfold denetleHedef at h
  split at h
  · next hrange => exact hrange
  · cases h

/-- `refresh_goal(goal_id, db)`: a goal that reaches its target is achieved. -/
def refreshGoal (d : GoalDb) (goalId : ℕ) : Except PyError GoalDb :=
  match d.goals.get? goalId with
  | none => .error .valueError
  | some goal => do
    let (current, progress) ← computeProgress d goalId goal
    let yeni := { goal with
      currentAmount := current
      progressPercent := progress
      status := if 100 ≤ progress ∧ goal.status = .active then .achieved else goal.status }
    denetleHedef goalId yeni
    return { d with goals := d.goals.modify goalId (fun _ => yeni) }

theorem refreshGoal_ok {d e : GoalDb} {goalId : ℕ} (h : refreshGoal d goalId = .ok e) :
    e.db = d.db ∧ e.rules = d.rules ∧ e.allocations = d.allocations := by
  unfold refreshGoal at h
  cases hg : d.goals.get? goalId with
  | none =>
    rw [hg] at h
    cases h
  | some goal =>
    simp only [hg, bind_eq_ok, pure_eq_ok] at h
    obtain ⟨_, _, _, _, rfl⟩ := h
    exact ⟨rfl, rfl, rfl⟩

/-- A refresh writes the computed progress into its own goal, and nothing else. -/
theorem refreshGoal_goals {d e : GoalDb} {goalId : ℕ} (h : refreshGoal d goalId = .ok e) :
    ∃ goal yeni, d.goals.get? goalId = some goal ∧ yeni.goalType = goal.goalType ∧
      computeProgress d goalId goal = .ok (yeni.currentAmount, yeni.progressPercent) ∧
      0 ≤ yeni.progressPercent ∧ yeni.progressPercent ≤ 100 ∧
      e = { d with goals := d.goals.modify goalId (fun _ => yeni) } := by
  unfold refreshGoal at h
  cases hg : d.goals.get? goalId with
  | none =>
    rw [hg] at h
    cases h
  | some goal =>
    simp only [hg, bind_eq_ok, pure_eq_ok] at h
    obtain ⟨⟨current, progress⟩, hp, _, hden, rfl⟩ := h
    have hrange := denetleHedef_ok hden
    exact ⟨goal, { goal with
      currentAmount := current
      progressPercent := progress
      status := if 100 ≤ progress ∧ goal.status = .active then .achieved else goal.status },
      rfl, rfl, hp, hrange.1, hrange.2, rfl⟩

structure BirikimPlani where
  aylikGereken : ℚ
  kalanAy : ℤ
  gecikmis : Bool
  tamamlandi : Bool
  deriving DecidableEq

/-- The whole months up to the day of the target. -/
def kalanAylar (today targetDate : Date) : ℤ :=
  let months := ((targetDate.year : ℤ) - today.year) * 12 + ((targetDate.month : ℤ) - today.month)
  if targetDate.day < today.day then months - 1 else months

/-- `sinking_fund_plan`; amounts count in whole kuruş. -/
def sinkingFundPlan (targetAmount : ℚ) (targetDate : Option Date) (currentAmount : ℚ) (today : Date) :
    Option BirikimPlani :=
  match targetDate with
  | none => none
  | some targetDate =>
    let target := roundHalfUp targetAmount 2
    let current := roundHalfUp currentAmount 2
    let remaining := target - current
    let months := kalanAylar today targetDate
    some (
      if remaining ≤ 0 then ⟨0, 0, false, true⟩
      else if months ≤ 0 then ⟨roundHalfUp remaining 2, 0, !targetDate.notBefore today, false⟩
      else ⟨roundHalfUp (remaining / months) 2, months, false, false⟩)

end FinancialOs.Rules
