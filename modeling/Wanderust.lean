import Wanderust.Interleaving.Program
import Wanderust.Interleaving.RelyGuarantee
import Wanderust.Table
import Wanderust.Common.Message
import Wanderust.Db.Distance
import Wanderust.Db.Schema
import Wanderust.Server.State
import Wanderust.Server.Exec
import Wanderust.Db.Statistics
import Wanderust.Server.Auth
import Wanderust.Server.Trips
import Wanderust.Server.HandleClient
import Wanderust.Server.World
import Wanderust.Session.Invariant
import Wanderust.Session.View
import Wanderust.Session.Rules
import Wanderust.Session.StoreRules
import Wanderust.Session.TripRules
import Wanderust.Session.Transcript
import Wanderust.Session.Handlers
import Wanderust.Session.Dispatch
import Wanderust.Session.Runs
import Wanderust.Properties.SingleSession
import Wanderust.Properties.Cleanup
import Wanderust.Properties.Registries
import Wanderust.Properties.Authorization
import Wanderust.Properties.OpenTrips
import Wanderust.Properties.TripLifecycle
import Wanderust.Interleaving.Pool
import Wanderust.Registration.Calls
import Wanderust.Registration.Exclusive
import Wanderust.Interleaving.Evaluation
import Wanderust.Stats.Seconds
import Wanderust.Stats.Trajectory
import Wanderust.Stats.Observations
import Wanderust.Stats.TripRuns
import Wanderust.Stats.Answers
import Wanderust.Properties.SkippedSamples
import Wanderust.Properties.MovementDecisions
import Wanderust.Properties.CountedSeconds
import Wanderust.Stats.PerTrip
import Wanderust.Properties.TripDecomposition
import Wanderust.Stats.StopRuns
import Wanderust.Properties.StopDetection
import Wanderust.Properties.FailedUpdates
import Wanderust.Sim.Arith
import Wanderust.Sim.Rng
import Wanderust.Sim.Graph
import Wanderust.Sim.Simulator
import Wanderust.Bits.XorShift
import Wanderust.Sim.Draws
import Wanderust.Sim.Checked
import Wanderust.Sim.NextEdge
import Wanderust.Sim.Walk
import Wanderust.Sim.Start
import Wanderust.Sim.Road
import Wanderust.Properties.RoadGraph
import Wanderust.Properties.GraphInput
import Wanderust.Json.Value
import Wanderust.Json.Tokens
import Wanderust.Json.Text
import Wanderust.Common.Wire
import Wanderust.Properties.WireFormat
import Wanderust.Interleaving.Monitor
import Wanderust.Session.Replies
import Wanderust.Properties.Replies
import Wanderust.Common.Bytes
import Wanderust.Properties.Passwords
import Wanderust.Common.Strings
import Wanderust.Chat.Admin
import Wanderust.Chat.Ledger
import Wanderust.Properties.Broadcasts
import Wanderust.Session.Silent
import Wanderust.Session.StatusPhases
import Wanderust.Session.StatusArms
import Wanderust.Session.Movement
import Wanderust.Session.MovementRules
import Wanderust.Session.MovementRuns
import Wanderust.Properties.MovementStatus
import Wanderust.Common.Integers
import Wanderust.Calendar.Gregorian
import Wanderust.Intervals.Fibres
import Wanderust.Client.Calendar
import Wanderust.Client.StatsInterval
import Wanderust.Properties.CalendarDates
import Wanderust.Properties.StatsIntervals
import Wanderust.Geometry.Sphere
import Wanderust.Properties.Distances
import Wanderust.Graphs.Adjacency
import Wanderust.Tools.ExportTurinGraph
import Wanderust.Tools.ExportRules
import Wanderust.Properties.ExportedGraph
import Wanderust.Sim.Timers
import Wanderust.Properties.DrivePause
import Wanderust.Graphs.Travel
import Wanderust.Sim.Travelled
import Wanderust.Properties.DistanceBudget
import Wanderust.Windows.Splitting
import Wanderust.Stats.Splitting
import Wanderust.Properties.SplitStatistics
import Wanderust.Interleaving.Traces
import Wanderust.Registration.Refused
import Wanderust.Properties.RefusedRegistrations
import Wanderust.Server.OwnSteps
import Wanderust.Stats.TripStarts
import Wanderust.Properties.FailedTripStarts
import Wanderust.Session.Serving
import Wanderust.Session.Bystanders
import Wanderust.Session.Issued
import Wanderust.Session.SwitchPhases
import Wanderust.Session.SwitchRuns
import Wanderust.Properties.AccountSwitch
import Wanderust.Properties.RandomGenerator
import Wanderust.Logs.Logged
import Wanderust.Graphs.Routes
import Wanderust.Sim.Route
import Wanderust.Properties.NextEdge
import Wanderust.Logs.Histories
import Wanderust.Interleaving.Loops
import Wanderust.Client.State
import Wanderust.Client.Commands
import Wanderust.Client.Tasks
import Wanderust.Client.Ledger
import Wanderust.Client.Rules
import Wanderust.Client.CommandRules
import Wanderust.Client.Turns
import Wanderust.Properties.ClientRequests
import Wanderust.Session.TripNews
import Wanderust.Client.Network
import Wanderust.Client.Channels
import Wanderust.Properties.NetworkRequests
import Wanderust.Common.Trimmed
import Wanderust.Web.Texts
import Wanderust.Web.Page
import Wanderust.Web.Moves
import Wanderust.Web.Session
import Wanderust.Web.Queue
import Wanderust.Web.Drive
import Wanderust.Web.Chat
import Wanderust.Properties.PageRequests
import Wanderust.Properties.PagePositions
import Wanderust.Properties.Inputs
import Wanderust.Geometry.GreatCircle
import Wanderust.Windows.Paths
import Wanderust.Formats.Patterns
import Wanderust.Formats.Decimals
import Wanderust.Sim.Ticks
import Wanderust.Server.CpuLog
import Wanderust.Web.CpuLog
import Wanderust.Properties.TickRate
import Wanderust.Properties.ReportedSpeed
import Wanderust.Properties.CpuLog
import Wanderust.Properties.StoredRows
