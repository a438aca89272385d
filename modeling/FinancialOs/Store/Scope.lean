import FinancialOs.Store.Database

/-! Workspace scoping of queries: a request with an active workspace sees that
workspace's rows, one without sees the user's own rows. -/
namespace FinancialOs.Store
open Library

class Scoped (α : Type) where
  userId : α → ℕ
  workspaceId : α → Option ℕ

instance : Scoped Account := ⟨Account.userId, Account.workspaceId⟩
instance : Scoped Transaction := ⟨Transaction.userId, Transaction.workspaceId⟩
instance : Scoped PersonalDebt := ⟨PersonalDebt.userId, PersonalDebt.workspaceId⟩
instance : Scoped MasterCheckpoint := ⟨MasterCheckpoint.userId, MasterCheckpoint.workspaceId⟩
instance : Scoped PendingAction := ⟨PendingAction.userId, PendingAction.workspaceId⟩
instance : Scoped Recurring := ⟨Recurring.userId, Recurring.workspaceId⟩

def scopeFilter {α : Type} [Scoped α] (userId : ℕ) (workspaceId : Option ℕ) (row : α) : Bool :=
  match workspaceId with
  | some w => Scoped.workspaceId row = some w
  | none => Scoped.userId row = userId

/-- The user is a member of the workspace. -/
def Uye (db : Db) (w u : ℕ) : Prop := ∃ k m, db.memberships.get? k = some m ∧ m.workspaceId = w ∧ m.userId = u

/-- The row key an equality filter on an integer primary key compares with;
a value the driver cannot bind raises. -/
def primaryKey : PyValue → Except PyError (Option ℕ)
  | .none => .ok none
  | .bool b => .ok (some (if b then 1 else 0))
  | .int n =>
    if 2 ^ 63 ≤ n.natAbs then .error .overflowError
    else .ok (if 0 ≤ n then some n.toNat else none)
  | .float (.finite q) => .ok (if q.den = 1 ∧ 0 ≤ q.num then some q.num.toNat else none)
  | .float _ => .ok none
  | .str s => match NumberText.read s with
    | some (.finite q) =>
      .ok (if q.den = 1 ∧ 0 ≤ q.num ∧ ¬ s.contains '_' then some q.num.toNat else none)
    | _ => .ok none
  | .compound _ => .error .databaseError

/-- The row under a key, if the scope contains it. -/
def inScope {α : Type} [Scoped α] (t : Table α) (userId : ℕ) (workspaceId : Option ℕ)
    (id : ℕ) : Option (ℕ × α) :=
  match t.get? id with
  | some a => if scopeFilter userId workspaceId a then some (id, a) else none
  | none => none

/-- `filter(id == value, scope_filter(...)).first()`. -/
def findById {α : Type} [Scoped α] (t : Table α) (userId : ℕ) (workspaceId : Option ℕ)
    (value : PyValue) : Except PyError (Option (ℕ × α)) :=
  match primaryKey value with
  | .ok (some id) => .ok (inScope t userId workspaceId id)
  | .ok none => .ok none
  | .error e => .error e

theorem inScope_eq_some {α : Type} [Scoped α] {t : Table α} {userId : ℕ}
    {workspaceId : Option ℕ} {id k : ℕ} {a : α} :
    inScope t userId workspaceId id = some (k, a) ↔
      k = id ∧ t.get? id = some a ∧ scopeFilter userId workspaceId a = true := by
  unfold inScope
  cases h : t.get? id with
  | none => simp
  | some b =>
    by_cases hs : scopeFilter userId workspaceId b = true
    · simp only [hs, if_true, Option.some.injEq, Prod.mk.injEq]
      constructor
      · rintro ⟨rfl, rfl⟩
        exact ⟨rfl, rfl, hs⟩
      · rintro ⟨rfl, rfl, _⟩
        exact ⟨rfl, rfl⟩
    · simp only [hs, Bool.false_eq_true, if_false, Option.some.injEq]
      constructor
      · intro hn
        cases hn
      · rintro ⟨_, rfl, hs'⟩
        exact absurd hs' hs

theorem findById_eq_some {α : Type} [Scoped α] {t : Table α} {userId : ℕ}
    {workspaceId : Option ℕ} {value : PyValue} {k : ℕ} {a : α} :
    findById t userId workspaceId value = .ok (some (k, a)) ↔
      primaryKey value = .ok (some k) ∧ t.get? k = some a ∧
        scopeFilter userId workspaceId a = true := by
  unfold findById
  rcases h : primaryKey value with e | _ | id
  · simp
  · simp
  · simp only [Except.ok.injEq, inScope_eq_some, Option.some.injEq]
    constructor
    · rintro ⟨rfl, ha, hs⟩
      exact ⟨rfl, ha, hs⟩
    · rintro ⟨rfl, ha, hs⟩
      exact ⟨rfl, ha, hs⟩

def personalWorkspace (db : Db) (userId : ℕ) : Option ℕ :=
  (db.workspaces.first? (fun w => w.ownerUserId = userId ∧ w.isPersonal)).map Prod.fst

/-- The workspace a row is written to: the active scope, else the source's
workspace, else the user's personal one. -/
def yazmaWorkspaceId (db : Db) (aktif : Option ℕ) (userId : ℕ) (kaynak : Option ℕ) : Option ℕ :=
  match aktif with
  | some w => some w
  | none => match kaynak with
    | some w => some w
    | none => personalWorkspace db userId

@[simp] theorem yazmaWorkspaceId_some (db : Db) (w userId : ℕ) (kaynak : Option ℕ) :
    yazmaWorkspaceId db (some w) userId kaynak = some w := rfl

/-- An account with the columns that only the planning side reads: its interest, its instalments and its minimum
payment. -/
structure AccountRow extends Account where
  interestRate : Option ℚ
  minPaymentRatio : Option ℚ
  monthlyPayment : Option ℚ
  remainingInstallments : Option ℤ
  nextPaymentDate : Option Date
  deriving DecidableEq

instance : Scoped AccountRow := ⟨fun a => a.userId, fun a => a.workspaceId⟩

end FinancialOs.Store
