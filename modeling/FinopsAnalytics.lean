import FinopsAnalytics.CloudWatchCounts
import FinopsAnalytics.AuditEvents
import FinopsAnalytics.AuditSafety
import FinopsAnalytics.OciCorrelationLaws
import FinopsAnalytics.OciCorrelation
import FinopsAnalytics.StableSelections
import FinopsAnalytics.ObservationShortcut
import FinopsAnalytics.ParallelResults
import FinopsAnalytics.ObservationComparison
import FinopsAnalytics.PythonJson
import FinopsAnalytics.OpportunityEvidence
import FinopsAnalytics.TokenWalks
import FinopsAnalytics.PaginationLoops
import FinopsAnalytics.TlsChains
import FinopsAnalytics.ReachableCompartments
import FinopsAnalytics.BreadthFirst
import FinopsAnalytics.ComparisonPages
import FinopsAnalytics.TieredCosts
import FinopsAnalytics.TieredFunctions
import FinopsAnalytics.FingerprintIdentities
import FinopsAnalytics.CycleTilings
import FinopsAnalytics.Overwrites
import FinopsAnalytics.RdsReservationRepeats
import FinopsAnalytics.BillingProfileSessions
import FinopsAnalytics.LatestObservations
import FinopsAnalytics.InventoryReplays
import FinopsAnalytics.RdsReconciliation
import FinopsAnalytics.Reconciliations
import FinopsAnalytics.OciCreditedVolumes
import FinopsAnalytics.RdsWholeAllocations
import FinopsAnalytics.RdsLegitimateAllocations
import FinopsAnalytics.RdsPoolIndex
import FinopsAnalytics.PricingSnapshots
import FinopsAnalytics.BillingReadPaths
import FinopsAnalytics.AwsBillingResponses
import FinopsAnalytics.CalendarMonths
import FinopsAnalytics.KeyedAccumulations
import FinopsAnalytics.OneTimeProofs
import FinopsAnalytics.AccountSafety
import FinopsAnalytics.AccountRuns
import FinopsAnalytics.AccountTransactions
import FinopsAnalytics.KeyedRows
import FinopsAnalytics.AccountChanges
import FinopsAnalytics.AccountRequests
import FinopsAnalytics.AccountStore
import FinopsAnalytics.EventLogs
import FinopsAnalytics.PricingFailures
import FinopsAnalytics.DeployReleases
import FinopsAnalytics.DeployJournal
import FinopsAnalytics.AutoDeploy
import FinopsAnalytics.InterruptedPrograms
import FinopsAnalytics.RetentionCheckpoints
import FinopsAnalytics.Interleavings
import FinopsAnalytics.MaintenanceClaims
import FinopsAnalytics.StatusChains
import FinopsAnalytics.StatusTransitions
import FinopsAnalytics.RunChangePartition
import FinopsAnalytics.CollectionComparison
import FinopsAnalytics.OpportunityListing
import FinopsAnalytics.TlsRestorations
import FinopsAnalytics.TlsManager
import FinopsAnalytics.BillingFreshness
import FinopsAnalytics.AwsBilling
import FinopsAnalytics.BillingProfiles
import FinopsAnalytics.CostExplorer
import FinopsAnalytics.ExpiringCaches
import FinopsAnalytics.OciPriceFreshness
import FinopsAnalytics.OciPricing
import FinopsAnalytics.CleanupHistories
import FinopsAnalytics.DetailedRuns
import FinopsAnalytics.CleanupSessions
import FinopsAnalytics.CleanupBatches
import FinopsAnalytics.ArchiveHistories
import FinopsAnalytics.ComparisonContexts
import FinopsAnalytics.UrlSafeBase64
import FinopsAnalytics.ClosedPeriods
import FinopsAnalytics.PeriodClosing
import FinopsAnalytics.ScanCompletions
import FinopsAnalytics.ScanWorker
import FinopsAnalytics.ScanExecution
import FinopsAnalytics.FaultySessions
import FinopsAnalytics.AwsCoverage
import FinopsAnalytics.AwsCollections
import FinopsAnalytics.CollectionErrors
import FinopsAnalytics.ScanQueueSessions
import FinopsAnalytics.ScanQueue
import FinopsAnalytics.LifecycleProducers
import FinopsAnalytics.FinopsLedgerSessions
import FinopsAnalytics.FinopsBalances
import FinopsAnalytics.SharedTables
import FinopsAnalytics.FinopsFlowPairs
import FinopsAnalytics.FinopsReversals
import FinopsAnalytics.FinopsFlowAgreement
import FinopsAnalytics.FinopsFlow
import FinopsAnalytics.CycleInstants
import FinopsAnalytics.CloudWatchCostEngine
import FinopsAnalytics.CloudWatchPricing
import FinopsAnalytics.DecimalArithmetic
import FinopsAnalytics.OciAbsences
import FinopsAnalytics.OciCollections
import FinopsAnalytics.OciInventoryAdapter
import FinopsAnalytics.OciUnattachedVolumes
import FinopsAnalytics.OciAttachmentCounts
import FinopsAnalytics.OciResourceUpdates
import FinopsAnalytics.OciAnalyzers
import FinopsAnalytics.OciDiscovery
import FinopsAnalytics.CycleHistories
import FinopsAnalytics.CivilCalendar
import FinopsAnalytics.CycleClosings
import FinopsAnalytics.CycleOperations
import FinopsAnalytics.DelayedReports
import FinopsAnalytics.Fallible
import FinopsAnalytics.FinopsLedger
import FinopsAnalytics.InventoryCurrentState
import FinopsAnalytics.InventoryPersistence
import FinopsAnalytics.ObservationCleanup
import FinopsAnalytics.OpportunityArchiving
import FinopsAnalytics.OpportunityBulkArchiving
import FinopsAnalytics.OpportunityCollection
import FinopsAnalytics.OpportunityFingerprint
import FinopsAnalytics.OpportunityHistoryCycles
import FinopsAnalytics.OpportunityLifecycle
import FinopsAnalytics.OpportunityOperations
import FinopsAnalytics.OpportunityPresence
import FinopsAnalytics.OpportunityReconciliation
import FinopsAnalytics.OpportunityRecords
import FinopsAnalytics.OpportunityRetention
import FinopsAnalytics.OpportunityRunComparison
import FinopsAnalytics.OpportunitySavingRecognition
import FinopsAnalytics.PresenceHistories
import FinopsAnalytics.PricingAdmin
import FinopsAnalytics.PricingCatalog
import FinopsAnalytics.PricingVersions
import FinopsAnalytics.RdsCoverageConservation
import FinopsAnalytics.RdsCoverageExclusivity
import FinopsAnalytics.RdsCoverageExhaustion
import FinopsAnalytics.RdsCoverageTransport
import FinopsAnalytics.RdsRefreshHistories
import FinopsAnalytics.RdsReservationOpportunities
import FinopsAnalytics.RdsReservationPasses
import FinopsAnalytics.RdsReservationVerdicts
import FinopsAnalytics.RdsReservationsPipeline
import FinopsAnalytics.RdsResolutionHistories
import FinopsAnalytics.RejectionHistories
import FinopsAnalytics.RetentionRuns
import FinopsAnalytics.SavingRecognitionHistories
import FinopsAnalytics.TransactionHistories
import FinopsAnalytics.UniqueTables
import FinopsAnalytics.InventoryHistories
