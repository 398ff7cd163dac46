import Dazyflow.EngineRun
import Dazyflow.Erasure
import Dazyflow.DeletedFlows
import Dazyflow.PausedFlows
import Dazyflow.StoresAgree
import Dazyflow.TriggerChains
import Dazyflow.QueuedStarts
import Dazyflow.ModerationCache
import Dazyflow.SessionCache
import Dazyflow.SecretKeys
import Dazyflow.IdempotencyKeys
import Dazyflow.OneTimeCodes
import Dazyflow.ConditionalSaves
import Dazyflow.HalfCreatedRuns
import Dazyflow.SubflowRuns
import Dazyflow.RunnerHandover
import Dazyflow.GrantRotation
import Dazyflow.MonthlyRuns
import Dazyflow.DiskQuota
import Dazyflow.ConcurrencyCap
import Dazyflow.ResumedRuns
import Dazyflow.StripeEvents
import Dazyflow.SchedulerLeader
import Dazyflow.MirrorCache
import Dazyflow.FannedSteps
import Dazyflow.MissedFires
import Dazyflow.DeferredWaits
import Dazyflow.SecretTemplates
import Dazyflow.WireDelivery
import Dazyflow.OAuthRefresh
import Dazyflow.CsvRows
import Dazyflow.SortRows
import Dazyflow.JoinRows
import Dazyflow.GroupAggregate
import Dazyflow.BufferedUsage
import Dazyflow.RunnerNames
import Dazyflow.RequestLimits
import Dazyflow.RelativeOffsets
import Dazyflow.UpstreamRuns
import Dazyflow.ValueSizes
import Dazyflow.NodePlacement
import Dazyflow.RowKeys
import Dazyflow.IdempotencyTable
import Dazyflow.WriteDedupe
import Dazyflow.ColumnPacking
