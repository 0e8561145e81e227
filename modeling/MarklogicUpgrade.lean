import MarklogicUpgrade.Api.Types
import MarklogicUpgrade.Handler.Precheck
import MarklogicUpgrade.Handler.PrecheckJson
import MarklogicUpgrade.Json.Scan
import MarklogicUpgrade.Json.TimeParse
import MarklogicUpgrade.Json.Decimal
import MarklogicUpgrade.Json.ReadBack
import MarklogicUpgrade.Json.TimeRoundTrip
import MarklogicUpgrade.Json.TimeFastPath
import MarklogicUpgrade.Handler.PrecheckDecode
import MarklogicUpgrade.Handler.RollingUpgrade
import MarklogicUpgrade.Handler.Client
import MarklogicUpgrade.Handler.Upgrade
import MarklogicUpgrade.Handler.Invocation
import MarklogicUpgrade.Handler.Invariant
import MarklogicUpgrade.Controller.Reconcile
import MarklogicUpgrade.Controller.Frame
import MarklogicUpgrade.Properties.HumanGate
import MarklogicUpgrade.Properties.Signals
import MarklogicUpgrade.Properties.Status
import MarklogicUpgrade.Properties.Lifecycle
import MarklogicUpgrade.Properties.Progress
import MarklogicUpgrade.Properties.Settle
import MarklogicUpgrade.Properties.ReportRoundTrip
import MarklogicUpgrade.Properties.Failure
