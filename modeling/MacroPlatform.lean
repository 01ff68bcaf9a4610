import MacroPlatform.Lib.Chars
import MacroPlatform.Lib.Transition
import MacroPlatform.Lib.ConditionalUpdate
import MacroPlatform.Contracts.Common
import MacroPlatform.Delivery.Row
import MacroPlatform.Contracts.Text
import MacroPlatform.Delivery.Service
import MacroPlatform.Delivery.AtMostOnce
import MacroPlatform.Delivery.Outcomes
import MacroPlatform.Delivery.Budget
import MacroPlatform.Lib.Json
import MacroPlatform.Contracts.Provider
import MacroPlatform.Ingestion.Run
import MacroPlatform.Ingestion.Runner
import MacroPlatform.Ingestion.Fencing
import MacroPlatform.Ingestion.PageCommit
import MacroPlatform.Ingestion.Zombie
import MacroPlatform.Lib.Trail
import MacroPlatform.Schedule.Checkpoint
import MacroPlatform.Schedule.Task
import MacroPlatform.Schedule.TwelveDataWalk
import MacroPlatform.Schedule.ExactlyOnce
import MacroPlatform.Contracts.Facts
import MacroPlatform.Lib.Query
import MacroPlatform.Store.Tables
import MacroPlatform.Store.Queries
import MacroPlatform.Store.PointInTime
import MacroPlatform.Evidence.Market
import MacroPlatform.Evidence.Freshness
import MacroPlatform.Daily.Store
import MacroPlatform.Lib.Process
import MacroPlatform.Daily.Generation
import MacroPlatform.Daily.Worker
import MacroPlatform.Daily.FailClosed
import MacroPlatform.Daily.Runtime
import MacroPlatform.Daily.Unposted
import MacroPlatform.Lib.History
import MacroPlatform.Store.BarHistory
import MacroPlatform.Store.ReleaseHistory
import MacroPlatform.Evidence.Calendar
import MacroPlatform.Store.Observations
import MacroPlatform.Report.Quality
import MacroPlatform.Report.Contract
import MacroPlatform.Lib.Audit
import MacroPlatform.Report.Validation
import MacroPlatform.Report.Finalize
import MacroPlatform.Report.Card
import MacroPlatform.Report.Fallback
import MacroPlatform.Report.Candidate
import MacroPlatform.Report.FallbackSections
import MacroPlatform.Report.Disclosure
import MacroPlatform.Report.Numbers
import MacroPlatform.Report.Materializer
import MacroPlatform.Report.Snapshot
import MacroPlatform.Report.FallbackContract
import MacroPlatform.Report.FallbackContent
import MacroPlatform.Report.FallbackTyped
import MacroPlatform.Report.FallbackReferences
import MacroPlatform.Report.ValidationComplete
import MacroPlatform.Report.FallbackValidated
import MacroPlatform.Report.Service
import MacroPlatform.Report.Published
import MacroPlatform.Alerts.Idempotency
import MacroPlatform.Schedule.ReportLoop
import MacroPlatform.Delivery.Recovery
import MacroPlatform.Delivery.RecoveryOnce
import MacroPlatform.Delivery.Transport
import MacroPlatform.Store.NewsLinks
import MacroPlatform.Evidence.News
import MacroPlatform.Report.DayPolicy
import MacroPlatform.Report.Confinement
import MacroPlatform.Schedule.RetryAlerts
import MacroPlatform.Schedule.Discipline
import MacroPlatform.Lib.PythonValue
import MacroPlatform.Report.SnapshotRow
import MacroPlatform.Evidence.Soundness
import MacroPlatform.Evidence.LatestVersion
import MacroPlatform.Evidence.NewsFreshness
import MacroPlatform.Delivery.Attribution
import MacroPlatform.Providers.DateOnlyNews
import MacroPlatform.Lib.RowLoop
import MacroPlatform.Providers.Rows
import MacroPlatform.Providers.TwelveData
import MacroPlatform.Providers.BaoStock
import MacroPlatform.Providers.XtQuant
import MacroPlatform.Providers.Conservation
import MacroPlatform.Lib.Paging
import MacroPlatform.Providers.FetchBars
import MacroPlatform.Providers.Resumption
import MacroPlatform.Providers.NbsCalendar
import MacroPlatform.Ingestion.UsTwelveData
import MacroPlatform.Contracts.Unicode
import MacroPlatform.Lib.JsonMask
import MacroPlatform.Alerts.Redaction
import MacroPlatform.Lib.Validity
import MacroPlatform.Contracts.Calendar
import MacroPlatform.Contracts.Civil
import MacroPlatform.Normalization.UsSymbols
import MacroPlatform.Normalization.UsUnits
import MacroPlatform.Providers.DateOnlyWindow
import MacroPlatform.Lib.BoundedWalk
import MacroPlatform.Providers.HkmaSnapshot
import MacroPlatform.Providers.Cursors
import MacroPlatform.Normalization.CnHkSymbols
import MacroPlatform.Lib.GeneralDecimal
