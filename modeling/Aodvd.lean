import Aodvd.Library.ChainedTable
import Aodvd.Library.Ledger
import Aodvd.Library.NearlySorted
import Aodvd.Library.Runs
import Aodvd.Library.Ranks
import Aodvd.Library.SlidingWindow
import Aodvd.Library.PythonText
import Aodvd.Library.Rings
import Aodvd.Params
import Aodvd.Messages
import Aodvd.TimerQueue
import Aodvd.State
import Aodvd.RoutingTable
import Aodvd.PacketQueue
import Aodvd.Routes
import Aodvd.Hello
import Aodvd.Rrep
import Aodvd.Rreq
import Aodvd.Timeout
import Aodvd.Daemon
import Aodvd.Frames
import Aodvd.TableMap
import Aodvd.RouteViews
import Aodvd.TimerLinks
import Aodvd.TimerOrder
import Aodvd.TimerPointers
import Aodvd.TimerBatches
import Aodvd.RerrDrafts
import Aodvd.Actions
import Aodvd.Clocks
import Aodvd.Handlers
import Aodvd.ReplyRules
import Aodvd.Reachable
import Aodvd.ActiveCount
import Aodvd.RreqRecords
import Aodvd.Verdicts
import Aodvd.Discoveries
import Aodvd.EntryChanges
import Aodvd.RouteClocks
import Aodvd.Lifetimes
import Aodvd.KernelMirror
import Aodvd.PacketReleases
import Aodvd.Neighbours
import Aodvd.SequenceNumbers
import Aodvd.Datagrams
import Aodvd.Network
import Aodvd.Floods
import Aodvd.SelfRoutes
import Aodvd.NeighborSets
import Aodvd.Interfaces
import Aodvd.RerrNotices
import Aodvd.SendBuffer
import Aodvd.Acknowledgements
import Aodvd.RecvBuffer
import Aodvd.Extensions
import Aodvd.Adverts
import Aodvd.Deletions
import Aodvd.Voices
import Aodvd.Numbers
import Aodvd.Loops
import Aodvd.RateLimits
import Aodvd.Rollover
import Aodvd.Deadlines
import Aodvd.LinkBreaks
import Aodvd.RerrBounds
import Aodvd.ReverseRoutes
import Aodvd.Answers
import Aodvd.ReplyPaths
import Aodvd.Setbacks
import Aodvd.LocalRepairs
import Aodvd.AddressText
import Aodvd.RerrReceipt
import Aodvd.Seeks
import Aodvd.SeekRounds
import Aodvd.SearchRadius
import Aodvd.ExactLifetimes
import Aodvd.HopCounts
import Aodvd.Dashboard
import Aodvd.LinkNames
import Aodvd.TopologyWrites
import Aodvd.Interleavings
import Aodvd.SequentialUse
import Aodvd.LinkAllocation
import Aodvd.SimulatorQueue
import Aodvd.KernelExpl
import Aodvd.KernelRoutes
import Aodvd.Library.Bytes
import Aodvd.Encapsulation
import Aodvd.IntrusiveLists
