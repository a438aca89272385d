import FinancialOs.Library.ReferentialDeletes
import FinancialOs.Store.Scope

/-! The tables personal data lives in, as their keys see them: whose a row is, which workspace it
belongs to, and which rows it refers to. -/
namespace FinancialOs.Store
open Library

inductive Tablo where
  | accounts | recurringIncomes | recurringExpenses | envelopes | categories | wishlistItems | transactions
  | personalDebts | masterCheckpoints | coachMemories | pendingActions | actionHistory | coachInsights
  | apiCallLog | netWorthSnapshots | decisionJournal | reasoningTraces | goalRules | goals | goalAllocations
  | demoDataMarkers | feedback | auditLog
  deriving DecidableEq

namespace Tablo

def hepsi : List Tablo := [accounts, recurringIncomes, recurringExpenses, envelopes, categories, wishlistItems,
  transactions, personalDebts, masterCheckpoints, coachMemories, pendingActions, actionHistory, coachInsights,
  apiCallLog, netWorthSnapshots, decisionJournal, reasoningTraces, goalRules, goals, goalAllocations,
  demoDataMarkers, feedback, auditLog]

instance : Fintype Tablo := ⟨⟨hepsi, by decide⟩, fun t => by cases t <;> decide⟩

/-- `"user_id" in table.c`. -/
def kullanicili : Tablo → Bool
  | goalRules | goalAllocations => false
  | _ => true

/-- `"workspace_id" in table.c`. -/
def workspaceli : Tablo → Bool
  | coachMemories | actionHistory | coachInsights | apiCallLog | reasoningTraces | goalRules | goalAllocations
  | demoDataMarkers => false
  | _ => true

/-- The foreign keys beyond those to users and workspaces. -/
def anahtarlar : Tablo → List (KeyColumn Tablo)
  | recurringExpenses | transactions | personalDebts => [⟨accounts, .noAction⟩]
  | actionHistory => [⟨pendingActions, .noAction⟩, ⟨actionHistory, .noAction⟩]
  | coachInsights => [⟨coachMemories, .noAction⟩]
  | decisionJournal => [⟨actionHistory, .setNull⟩]
  | reasoningTraces => [⟨reasoningTraces, .noAction⟩, ⟨coachMemories, .noAction⟩]
  | goalRules => [⟨goals, .cascade⟩]
  | goalAllocations => [⟨goals, .cascade⟩, ⟨transactions, .cascade⟩, ⟨goalRules, .setNull⟩]
  | _ => []

theorem leafCascades : Relations.LeafCascades anahtarlar where
  noAction := by
    intro u c d hc hd
    cases u <;> simp only [anahtarlar, List.mem_cons, List.not_mem_nil, or_false] at hc hd <;> grind
  target := by
    intro u v c d hc hcas hd hu
    have hleaf : u = goalRules ∨ u = goalAllocations := by
      cases u <;> simp only [anahtarlar, List.mem_cons, List.not_mem_nil, or_false] at hc <;> grind
    cases v <;> simp only [anahtarlar, List.mem_cons, List.not_mem_nil, or_false] at hd <;> grind

end Tablo

structure KisiSutunlari where
  userId : Option ℕ
  workspaceId : Option ℕ
  deriving DecidableEq

/-- The users, the workspaces with their members, and the rows of all other tables as keys. -/
structure KisiselDb where
  users : Table User
  workspaces : Table Workspace
  memberships : Table WorkspaceMembership
  satirlar : Relations Tablo KisiSutunlari

def KisiselDb.empty : KisiselDb := ⟨.empty, .empty, .empty, fun _ => .empty⟩

/-- The part of the rows that the workspace endpoints read. -/
def KisiselDb.db (v : KisiselDb) : Db :=
  { Db.empty with users := v.users, workspaces := v.workspaces, memberships := v.memberships }

/-- `table.c.user_id == userId`, where there is such a column. -/
def kullanicininSatiri (userId : ℕ) (t : Tablo) (r : KisiSutunlari) : Bool := t.kullanicili ∧ r.userId = some userId

/-- `table.c.workspace_id.in_(wsIds)`, where there is such a column. -/
def workspaceSatiri (wsIds : List ℕ) (t : Tablo) (r : KisiSutunlari) : Bool :=
  t.workspaceli ∧ r.workspaceId.any (· ∈ wsIds)

end FinancialOs.Store
