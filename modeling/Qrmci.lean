import Qrmci.SelectorRouting
import Qrmci.SelectorDelivery
import Qrmci.StandaloneReplies
import Qrmci.Freshness
import Qrmci.SelfExpiry
import Qrmci.DistributedSafety
import Qrmci.DistributedDelivery
import Qrmci.ConfigDurations
import Qrmci.RegistryHistory
import Qrmci.DispatchQueues
import Qrmci.Selection
import Qrmci.Intake
import Qrmci.PublishedStatus
import Qrmci.Runners.SubmitEvents
import Qrmci.Runners.Deadline
import Qrmci.PassRuns
import Qrmci.Pacing
import Qrmci.Runners.CompileCalls
import Qrmci.Runners.Histogram
import Qrmci.QueueDrain
import Qrmci.ConfigErrors
import Qrmci.DeviceMain
import Qrmci.SelectorMain
import Qrmci.StandaloneMain
import Qrmci.WorkerMain
import Qrmci.DistributedCensus
import Qrmci.DistributedOrigin
import Qrmci.Shutdown
import Qrmci.DistributedFormats
import Qrmci.Presence
import Qrmci.SelectionStability
import Qrmci.DistributedContents
import Qrmci.WorkerService
import Qrmci.DistributedAnswers
import Qrmci.DistributedAgreement
