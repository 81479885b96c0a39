import Nextmini.Controller.AppFlowRows
import Nextmini.Controller.GroupDirectory
import Nextmini.Controller.GroupRouteSync
import Nextmini.Controller.NodeCounts
import Nextmini.Controller.RouteSync
import Nextmini.Controller.StartUpCompletion
import Nextmini.Mettle.FastPath
import Nextmini.Mettle.OvertakenBins
import Nextmini.Mettle.PrefixWindow
import Nextmini.Mettle.RoundTrip
import Nextmini.Node.BatchedWrites
import Nextmini.Node.ConfiguredTraffic
import Nextmini.Node.FlowPorts
import Nextmini.Node.FlowReports
import Nextmini.Node.MaxDelivery
import Nextmini.Node.MetricReports
import Nextmini.Node.OrderSafety
import Nextmini.Node.SchedulerWakeups
import Nextmini.Node.TokenAccrual
import Nextmini.Node.UdpPeers
import Nextmini.Node.UserSpaceServers
import Nextmini.Node.WeightedRounds
import Nextmini.Packets.LinkProbes
import Nextmini.Packets.SessionPackets
import Nextmini.Routing.GroupInstalls
import Nextmini.Session.BlockGeometry
import Nextmini.Session.BlockSymbolFrame
import Nextmini.Session.InboxRoom
import Nextmini.Session.Incarnations
import Nextmini.Session.NoGapHandoff
import Nextmini.Session.OversizeSymbols
import Nextmini.Session.PlainNeed
import Nextmini.Session.RepairAccounts
