import FinancialOs.Library.CalendarDates
import FinancialOs.Library.PythonScalars

/-! The rows of the application's tables, with the columns its account, debt
and approval logic reads. Primary keys are the keys of the tables that hold them. -/
namespace FinancialOs.Store
open Library

inductive AccountType where
  | cash | creditCard | loan | investment
  deriving DecidableEq, Repr

inductive TransactionType where
  | income | expense | transfer
  deriving DecidableEq, Repr

inductive DebtDirection where
  | receivable | payable
  deriving DecidableEq, Repr

inductive CheckpointType where
  | redLine | strategy | rule | context
  deriving DecidableEq, Repr

inductive ActionStatus where
  | pending | approved | rejected | executed | failed
  deriving DecidableEq, Repr

inductive WorkspaceRole where
  | owner | editor | viewer
  deriving DecidableEq, Repr

/-- The `action_type` column is text, so an unregistered name can be stored. -/
inductive ActionType where
  | updateAccountBalance | addTransaction | markDebtPaid | payCreditCard
  | sellInvestment | updateFundPrice | addMasterCheckpoint
  | unknown (name : String)
  deriving DecidableEq, Repr

inductive RuleType where
  | minCashFloor | accountUntouchable | maxSingleExpense
  | unknown (name : String)
  deriving DecidableEq, Repr

inductive RecurringKind where
  | income | expense
  | unknown (name : String)
  deriving DecidableEq, Repr

namespace AccountType

def value : AccountType → String
  | cash => "cash"
  | creditCard => "credit_card"
  | loan => "loan"
  | investment => "investment"

end AccountType

namespace TransactionType

def value : TransactionType → String
  | income => "income"
  | expense => "expense"
  | transfer => "transfer"

def ofValue? (s : String) : Option TransactionType :=
  [income, expense, transfer].find? (fun t => t.value = s)

end TransactionType

namespace CheckpointType

def value : CheckpointType → String
  | redLine => "red_line"
  | strategy => "strategy"
  | rule => "rule"
  | context => "context"

def ofValue? (s : String) : Option CheckpointType :=
  [redLine, strategy, rule, context].find? (fun t => t.value = s)

end CheckpointType

/-- The text of the column, known or not. -/
def RuleType.ofName (name : String) : RuleType :=
  if name = "min_cash_floor" then .minCashFloor
  else if name = "account_untouchable" then .accountUntouchable
  else if name = "max_single_expense" then .maxSingleExpense
  else .unknown name

namespace ActionStatus

def value : ActionStatus → String
  | pending => "pending"
  | approved => "approved"
  | rejected => "rejected"
  | executed => "executed"
  | failed => "failed"

end ActionStatus

/-- The names the application reads from action payloads and rule parameters. -/
inductive PayloadKey where
  | accountId | newBalance | transactionType | amount | category | description
  | transactionDate | isCardExpense | autoUpdateBalance | debtId | paidDate
  | cardAccountId | sourceAccountId | investmentId | lotsToSell | actualPrice
  | creditToAccountId | newPrice | title | checkpointType | priority
  | targetAccountId | creditAccountId | fromAccountId
  | other (name : String)
  deriving DecidableEq, Repr

/-- A decoded JSON object; the first binding of a name is the one that counts. -/
abbrev Payload := List (PayloadKey × PyValue)

def Payload.get (p : Payload) (k : PayloadKey) : PyValue := (p.lookup k).getD .none

def Payload.getD (p : Payload) (k : PayloadKey) (default : PyValue) : PyValue :=
  (p.lookup k).getD default

@[simp] theorem Payload.get_cons (p : Payload) (k j : PayloadKey) (v : PyValue) :
    Payload.get ((j, v) :: p) k = if k = j then v else p.get k := by
  unfold Payload.get
  rw [List.lookup_cons]
  by_cases h : k = j
  · simp [h]
  · have hb : (k == j) = false := by simpa using h
    simp [hb, h]

/-- What `json.loads` makes of a text column. -/
inductive JsonText where
  | broken
  | object (p : Payload)
  | otherValue
  deriving DecidableEq

structure User where
  email : Option String
  deriving DecidableEq

structure Workspace where
  ownerUserId : ℕ
  isPersonal : Bool
  deriving DecidableEq

structure WorkspaceMembership where
  workspaceId : ℕ
  userId : ℕ
  role : WorkspaceRole
  deriving DecidableEq

structure Account where
  userId : ℕ
  workspaceId : Option ℕ
  name : String
  accountType : AccountType
  balance : ℚ
  creditLimit : Option ℚ
  statementDay : Option ℕ
  paymentDay : Option ℕ
  statementBalance : Option ℚ
  lotCount : Option ℚ
  costPerLot : Option ℚ
  currentPrice : Option ℚ
  isEmanet : Bool
  deriving DecidableEq

structure Transaction where
  userId : ℕ
  workspaceId : Option ℕ
  accountId : Option ℕ
  transactionType : TransactionType
  amount : ℚ
  category : Option String
  description : Option String
  transactionDate : Date
  isCardExpense : Bool
  deriving DecidableEq

structure PersonalDebt where
  userId : ℕ
  workspaceId : Option ℕ
  counterparty : String
  direction : DebtDirection
  amount : ℚ
  description : Option String
  dueDate : Option Date
  isPaid : Bool
  paidDate : Option Date
  settlementAccountId : Option ℕ
  deriving DecidableEq

structure MasterCheckpoint where
  userId : ℕ
  workspaceId : Option ℕ
  title : String
  description : String
  checkpointType : CheckpointType
  priority : ℤ
  isActive : Bool
  ruleType : Option RuleType
  ruleParams : Option JsonText
  deriving DecidableEq

structure PendingAction where
  userId : ℕ
  workspaceId : Option ℕ
  actionType : ActionType
  payload : JsonText
  summary : String
  status : ActionStatus
  errorMessage : Option String
  sourceRecurringId : Option ℕ
  sourceRecurringType : Option RecurringKind
  deriving DecidableEq

/-- `RecurringIncome` and `RecurringExpense` as far as their proposals read and write them; an
income has neither an account nor a category. -/
structure Recurring where
  userId : ℕ
  workspaceId : Option ℕ
  name : String
  amount : ℚ
  accountId : Option ℕ
  category : Option String
  dayOfMonth : ℕ
  isActive : Bool
  lastTriggeredYearMonth : Option String
  deriving DecidableEq

end FinancialOs.Store
