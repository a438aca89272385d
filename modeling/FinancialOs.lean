import FinancialOs.Guarantees.AllocationDurability
import FinancialOs.Guarantees.CashFloor
import FinancialOs.Guarantees.DebtLedger
import FinancialOs.Guarantees.Earmarking
import FinancialOs.Guarantees.EmanetAccounts
import FinancialOs.Guarantees.FailureAtomicity
import FinancialOs.Guarantees.GlobalSignOut
import FinancialOs.Guarantees.InvestmentValue
import FinancialOs.Guarantees.ScopeFrame
import FinancialOs.Guarantees.SingleUse
import FinancialOs.Guarantees.StatusAgreement
import FinancialOs.Guarantees.TransactionUndo
import FinancialOs.Guarantees.UntouchableAccounts
import FinancialOs.Guarantees.WorkspaceLedger
import FinancialOs.Guarantees.WriteAuthorization
import FinancialOs.Guarantees.ProposalIntegrity
import FinancialOs.Guarantees.MonthlyTrigger
import FinancialOs.Guarantees.RuleEnforcement
import FinancialOs.Guarantees.GoalCache
import FinancialOs.Guarantees.ExtraPayments
import FinancialOs.Guarantees.DailySnapshot
import FinancialOs.Rules.Simulation
import FinancialOs.Rules.SimulationSweeps
import FinancialOs.Guarantees.HorizonComposition
import FinancialOs.Store.PanelRows
import FinancialOs.Rules.CashCalendar
import FinancialOs.Rules.CashForecast
import FinancialOs.Library.CsvText
import FinancialOs.Library.MessagePrograms
import FinancialOs.Guarantees.TransactionExport
import FinancialOs.Guarantees.RequestBodies
import FinancialOs.Library.WeightedLists
import FinancialOs.Guarantees.ForecastCalendar
import FinancialOs.Rules.CockpitFigures
import FinancialOs.Guarantees.CustodyInvisible
import FinancialOs.Guarantees.ExpectedOnce
import FinancialOs.Rules.CategoryPatterns
import FinancialOs.Rules.CockpitReport
import FinancialOs.Guarantees.WorkspaceIsolation
import FinancialOs.Guarantees.WorkspaceOwnership
import FinancialOs.Guarantees.Erasure
import FinancialOs.Guarantees.MemberRemoval
import FinancialOs.Guarantees.RevocationRetention
import FinancialOs.Guarantees.QuotaReservations
import FinancialOs.Guarantees.CallLedger
import FinancialOs.Guarantees.BetaInvitations
import FinancialOs.Guarantees.ChatHistory
import FinancialOs.Guarantees.DemoRemoval
import FinancialOs.Library.SlidingWindows
import FinancialOs.Routers.RateLimit
import FinancialOs.Guarantees.LimiterAgreement
import FinancialOs.Store.CoachInsights
import FinancialOs.Rules.DecisionRhythm
import FinancialOs.Guarantees.RhythmMemory
import FinancialOs.Guarantees.ForecastLedger
import FinancialOs.Library.RunningMinimum
import FinancialOs.Guarantees.WorstCaseCash
import FinancialOs.Guarantees.LoanInstalments
import FinancialOs.Guarantees.WealthConserved
import FinancialOs.Guarantees.InstalmentDates
import FinancialOs.Guarantees.SafeToSpend
import FinancialOs.Rules.CockpitAlerts
import FinancialOs.Rules.NextStep
import FinancialOs.Guarantees.FirstStep
import FinancialOs.Library.BacktrackingMatch
import FinancialOs.Library.TextScan
import FinancialOs.Rules.Grounding
import FinancialOs.Guarantees.AmountExtraction
import FinancialOs.Library.PriorityPayments
import FinancialOs.Guarantees.AvalancheInterest
import FinancialOs.Guarantees.NetWorth
import FinancialOs.Guarantees.CardPayment
import FinancialOs.Guarantees.SaleConservation
import FinancialOs.Guarantees.LotConservation
import FinancialOs.Guarantees.RolloverBudget
import FinancialOs.Guarantees.PayoffReport
import FinancialOs.Guarantees.DebtEdits
import FinancialOs.Library.FirstPerKey
import FinancialOs.Guarantees.RuleSelection
import FinancialOs.Library.DecimalText
import FinancialOs.Guarantees.SummaryAgreement
import FinancialOs.Guarantees.TriggerApproval
import FinancialOs.Library.MarkedText
import FinancialOs.Rules.PromptSafety
import FinancialOs.Rules.CockpitScans
import FinancialOs.Rules.CoachText
import FinancialOs.Rules.CoachPanel
import FinancialOs.Rules.CoachContext
import FinancialOs.Guarantees.AlertTexts
import FinancialOs.Guarantees.ContextHeadings
import FinancialOs.Rules.TurkishText
import FinancialOs.Library.Amortisation
import FinancialOs.Rules.Consolidation
import FinancialOs.Guarantees.TextOffsets
import FinancialOs.Guarantees.AnnuityPayment
import FinancialOs.Guarantees.SavingsPlan
import FinancialOs.Guarantees.MonthExpansion
import FinancialOs.Guarantees.RoundingPolicy
import FinancialOs.Guarantees.Subscriptions
import FinancialOs.Guarantees.BackwardBalance
import FinancialOs.Guarantees.NetWorthAttribution
import FinancialOs.Guarantees.MemoryKeys
import FinancialOs.Guarantees.JsonRescue
import FinancialOs.Guarantees.RedLineEvidence
import FinancialOs.Guarantees.MemoryInjection
import FinancialOs.Guarantees.CategoryMerge
import FinancialOs.Guarantees.PromptSanitiser
import FinancialOs.Guarantees.SlowPaths
import FinancialOs.Guarantees.AuditTrail
import FinancialOs.Guarantees.ProviderChain
import FinancialOs.Guarantees.PreviewParity
import FinancialOs.Guarantees.GroundedReplies
import FinancialOs.Guarantees.SchedulerLedger
