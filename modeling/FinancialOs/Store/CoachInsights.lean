import FinancialOs.Library.RowCounts

/-! The long-term memory of the coach, and the log of the actions it learns from. Instants count microseconds of
UTC. -/
namespace FinancialOs.Store
open Library

inductive InsightType where
  | actionRejectionPattern | categoryAccountPreference | explicitRedLine | breakthrough | setback
  | mcReferenceFrequency | questionTypology | decisionRhythm | kullaniciBeyani
  deriving DecidableEq

inductive ConfidenceBasis where
  | dataGrounded | mcRule | patternGrounded | userStated
  deriving DecidableEq

inductive ParaCategory where
  | project | area | resource | archive
  deriving DecidableEq

inductive InsightStatus where
  | active | dormant | invalidated | userInvalidated
  deriving DecidableEq

structure CoachInsight where
  userId : ℕ
  insightType : Option InsightType
  title : Option String
  content : String
  confidenceBasis : Option ConfidenceBasis
  sourceRefs : List String
  evidenceCount : ℕ
  counterEvidenceCount : ℕ
  lastEvidenceAt : Option ℤ
  lastCounterAt : Option ℤ
  status : InsightStatus
  activatedAt : Option ℤ
  lastSeenAt : Option ℤ
  paraCategory : Option ParaCategory
  archivedAt : Option ℤ
  archivedReason : Option String
  sortPriority : ℤ
  deriving DecidableEq

structure ActionHistory where
  userId : ℕ
  success : Bool
  appliedAt : ℤ
  deriving DecidableEq

end FinancialOs.Store
