import LogShipping.Backlog.Calls
import LogShipping.Backlog.Threads
import LogShipping.Dispatcher.Outlet
import LogShipping.Dispatcher.Threads
import LogShipping.Device.Scripted
import LogShipping.Json.Reader
import LogShipping.Network.FrameBuffer
import LogShipping.Network.Traffic
import LogShipping.Network.Literal
import LogShipping.Sink.FileSink
import LogShipping.Sink.Threads
import LogShipping.Throttle.Threads
import LogShipping.Uplink.Rehearsal
import LogShipping.Uplink.Settings
import LogShipping.Uplink.Threads
import LogShipping.Worker.Drill
import LogShipping.Proofs.Backlog.Admission
import LogShipping.Proofs.Backlog.Uncounted
import LogShipping.Proofs.Uplink.Account
import LogShipping.Proofs.Uplink.Turns
import LogShipping.Proofs.Uplink.Helm
import LogShipping.Proofs.Uplink.Delivery
import LogShipping.Proofs.Uplink.Barriers
import LogShipping.Proofs.Uplink.FlushSoundness
import LogShipping.Proofs.Uplink.Occupancy
import LogShipping.Proofs.Uplink.BarrierCount
import LogShipping.Proofs.Uplink.Transitions
import LogShipping.Proofs.Uplink.Dialling
import LogShipping.Proofs.Uplink.Release
import LogShipping.Proofs.Uplink.Congestion
import LogShipping.Proofs.Json.NumberToken
import LogShipping.Proofs.Numeric.Spacing
import LogShipping.Proofs.Numeric.Shortest
import LogShipping.Proofs.Numeric.DocumentText
import LogShipping.Proofs.Numeric.Finite
import LogShipping.Proofs.Numeric.Rounding
import LogShipping.Proofs.Json.RoundTrip
import LogShipping.Proofs.Json.Members
import LogShipping.Proofs.Gelf.Faithful
import LogShipping.Proofs.Gelf.Timestamp
import LogShipping.Proofs.Gelf.Overrides
import LogShipping.Proofs.Json.NoControl
import LogShipping.Proofs.Network.Splitting
import LogShipping.Proofs.Network.Conservation
import LogShipping.Proofs.Uplink.Framing
import LogShipping.Proofs.Worker.Steps
import LogShipping.Device.Recorded
import LogShipping.Sink.Service
import LogShipping.Dispatcher.Chronicle
import LogShipping.Dispatcher.Station
import LogShipping.Proofs.Dispatcher.Calls
import LogShipping.Proofs.Dispatcher.Dispatch
import LogShipping.Proofs.Dispatcher.Independence
import LogShipping.Proofs.Dispatcher.Offers
import LogShipping.Proofs.Sink.Lines
import LogShipping.Proofs.Sink.Output
import LogShipping.Proofs.Sink.Barrier
import LogShipping.Proofs.Uplink.Handing
import LogShipping.Proofs.Dispatcher.Targets
import LogShipping.Proofs.Dispatcher.Registration
import LogShipping.Proofs.Dispatcher.Consoles
import LogShipping.Proofs.Dispatcher.Barrier
import LogShipping.Proofs.Dispatcher.Assurance
import LogShipping.Proofs.Dispatcher.FlushCall
import LogShipping.Proofs.Dispatcher.Coverage
import LogShipping.Proofs.Dispatcher.Pledges
import LogShipping.Proofs.Dispatcher.Pipeline
import LogShipping.Proofs.Record.Fields
import LogShipping.Proofs.Dispatcher.Delivered
import LogShipping.Proofs.Sink.Room
import LogShipping.Proofs.Dispatcher.Room
import LogShipping.Worker.Service
import LogShipping.Proofs.Worker.Turns
import LogShipping.Proofs.Worker.Execution
import LogShipping.Proofs.Worker.Drop
import LogShipping.Proofs.Worker.Service
import LogShipping.Proofs.Sink.Closing
import LogShipping.Proofs.Throttle.Account
import LogShipping.Proofs.Throttle.Moves
import LogShipping.Proofs.Throttle.Conservation
import LogShipping.Proofs.Throttle.Spacing
import LogShipping.Proofs.Throttle.Use
import LogShipping.Proofs.Sink.Notices
import LogShipping.Proofs.Sink.Warnings
import LogShipping.Proofs.Uplink.Refusals
import LogShipping.Proofs.Dispatcher.Refusals
import LogShipping.Proofs.Sink.Refusals
import LogShipping.Proofs.Throttle.Users
import LogShipping.Proofs.Throttle.FirstReport
import LogShipping.Proofs.Uplink.Options
import LogShipping.Proofs.Time.Deadlines
import LogShipping.Sink.Sessions
import LogShipping.Proofs.Sink.Outflow
import LogShipping.Proofs.Sink.Sessions
import LogShipping.Proofs.Sink.Archive
