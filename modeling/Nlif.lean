import Nlif.Recovery
import Nlif.HashIndependence
import Nlif.ApplyFrame
import Nlif.TransactionRollback
import Nlif.ChangeNotif
import Nlif.LoadEnrolment
import Nlif.SetterSafety
import Nlif.IfaceValidity
import Nlif.StagedStates
import Nlif.TransactionEffect
import Nlif.ConfigSnapshot
import Nlif.OperStatus
import Nlif.AdminStatus
import Nlif.StringOwnership
import Nlif.ObsrvModel
import Nlif.NotifyFold
import Nlif.StagedRefresh
import Nlif.FlagString
import Nlif.IfacePath
import Nlif.StoreWithdraw
import Nlif.StrayObjects
import Nlif.StagedLookup
import Nlif.DaemonConfinement
import Nlif.DaemonRevalidation
import Nlif.TransactionHistory
import Nlif.ObsrvTurns
import Nlif.DaemonRestart
import Nlif.Monitor
import Nlif.LinkStats
import Nlif.IfaceTools
import Nlif.OperFeed
