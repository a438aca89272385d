import FinancialOs.Store.Scope

/-! Goals, the rules that allot transactions to them and the allocations themselves,
beside the tables of the ledger. -/
namespace FinancialOs.Store
open Library

inductive GoalType where
  | debtFreedom | cashTarget
  | unknown (name : String)
  deriving DecidableEq, Repr

inductive GoalStatus where
  | active | achieved | paused | abandoned
  deriving DecidableEq, Repr

inductive AllocationType where
  | full | percent | fixed
  | unknown (name : String)
  deriving DecidableEq, Repr

inductive AllocationSource where
  | manual | rule
  deriving DecidableEq, Repr

/-- The owner column is nullable; the API always fills it. -/
structure Goal where
  userId : Option ℕ
  workspaceId : Option ℕ
  goalType : GoalType
  targetAmount : ℚ
  baselineAmount : Option ℚ
  status : GoalStatus
  currentAmount : ℚ
  progressPercent : ℚ
  deriving DecidableEq

/-- What an `account_type` criterion may hold: a scalar, a list, or an object tested by its keys. -/
inductive IzinliTipler where
  | tek (v : PyValue)
  | liste (vs : List PyValue)
  | sozluk (anahtarlar : List String)
  deriving DecidableEq

/-- The criteria a rule's JSON object names; a missing key is no criterion. -/
structure Criteria where
  txType : Option PyValue
  amountMin : Option PyValue
  amountMax : Option PyValue
  accountId : Option PyValue
  accountType : Option IzinliTipler
  descriptionContains : Option PyValue
  deriving DecidableEq

structure GoalRule where
  goalId : ℕ
  priority : ℤ
  criteria : Criteria
  allocationType : AllocationType
  allocationValue : Option ℚ
  isActive : Bool
  deriving DecidableEq

structure GoalAllocation where
  goalId : ℕ
  transactionId : ℕ
  amount : ℚ
  source : AllocationSource
  ruleId : Option ℕ
  deriving DecidableEq

structure GoalDb where
  db : Db
  goals : Table Goal
  rules : Table GoalRule
  allocations : Table GoalAllocation

def GoalDb.empty : GoalDb := ⟨.empty, .empty, .empty, .empty⟩

/-- `scope_filter(Goal, user_id, workspace_id)`; a null owner equals nobody. -/
def goalScope (userId : ℕ) (workspaceId : Option ℕ) (goal : Goal) : Bool :=
  match workspaceId with
  | some w => goal.workspaceId = some w
  | none => goal.userId = some userId

def silinenIslem : Write → Option ℕ
  | .transaction (.delete k) => some k
  | _ => none

/-- A commit of ledger writes; the allocations of a deleted transaction go with it. -/
def GoalDb.yaz (s : GoalDb) (ws : List Write) : Except PyError GoalDb :=
  match commit s.db ws with
  | .ok db => .ok { s with
      db := db
      allocations := s.allocations.keep (fun a => a.transactionId ∉ ws.filterMap silinenIslem) }
  | .error e => .error e

/-- What an allocation takes from a transaction. -/
def bagliTutar (transactionId : ℕ) (a : GoalAllocation) : ℚ :=
  if a.transactionId = transactionId then |a.amount| else 0

theorem bagliTutar_nonneg (k : ℕ) (a : GoalAllocation) : 0 ≤ bagliTutar k a := by
  unfold bagliTutar
  split
  · exact abs_nonneg a.amount
  · exact le_refl 0

theorem GoalDb.yaz_ok {s d : GoalDb} {ws : List Write} (h : s.yaz ws = .ok d) :
    d.db = s.db.writeAll ws ∧ d.goals = s.goals ∧ d.rules = s.rules ∧
      d.allocations = s.allocations.keep (fun a => a.transactionId ∉ ws.filterMap silinenIslem) := by
  unfold GoalDb.yaz at h
  cases hc : commit s.db ws with
  | error e =>
    rw [hc] at h
    cases h
  | ok db =>
    rw [hc] at h
    cases h
    exact ⟨(commit_ok.mp hc).1, rfl, rfl, rfl⟩

end FinancialOs.Store
