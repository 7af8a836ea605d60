import Memcache.Bytes
import Memcache.Client
import Memcache.Command
import Memcache.Command.Reply
import Memcache.CommandLine
import Memcache.Connection
import Memcache.Connection.Buffer
import Memcache.Digest.Md5
import Memcache.Duration
import Memcache.Endpoint
import Memcache.Endpoint.Socket
import Memcache.Expiration
import Memcache.FailurePolicy
import Memcache.Fleet
import Memcache.Key
import Memcache.Main
import Memcache.Node
import Memcache.Outcome
import Memcache.Pool
import Memcache.Ring
import Memcache.Settings
import Memcache.Sim.Network
import Memcache.Sim.Program
import Memcache.Sim.Server
import Memcache.Sim.Session
import Memcache.Sim.World
import Memcache.Statistics
import Memcache.Status
import Memcache.Table
import Memcache.Task
import Memcache.Text.Blank
import Memcache.Text.Line
import Memcache.Text.Numeral
import Memcache.Text.Quoted
import Memcache.Text.Utf8
import Memcache.Text.Visible
import Memcache.Value
import Memcache.Wire.Decoder
import Memcache.Wire.Packet
import Memcache.Proofs.Batch.Agreement
import Memcache.Proofs.Batch.Answer
import Memcache.Proofs.Batch.Exactness
import Memcache.Proofs.Batch.Shares
import Memcache.Proofs.Batch.Trespass
import Memcache.Proofs.Client.Coherence
import Memcache.Proofs.Client.Conduct
import Memcache.Proofs.Client.Disposal
import Memcache.Proofs.Client.FanOut
import Memcache.Proofs.Client.Flushing
import Memcache.Proofs.Client.Gathering
import Memcache.Proofs.Client.Refusal
import Memcache.Proofs.Client.Routing
import Memcache.Proofs.Connection.Closing
import Memcache.Proofs.Connection.Figures
import Memcache.Proofs.Connection.Isolation
import Memcache.Proofs.Connection.Reading
import Memcache.Proofs.Connection.Stream
import Memcache.Proofs.Expiration.Reading
import Memcache.Proofs.Fleet.Books
import Memcache.Proofs.Fleet.Charts
import Memcache.Proofs.Fleet.Courses
import Memcache.Proofs.Fleet.Deeds
import Memcache.Proofs.Fleet.Dispatch
import Memcache.Proofs.Fleet.Freshness
import Memcache.Proofs.Fleet.Patrol
import Memcache.Proofs.Fleet.Sites
import Memcache.Proofs.Fleet.Sweeping
import Memcache.Proofs.Fleet.Tickets
import Memcache.Proofs.Fleet.Turnover
import Memcache.Proofs.Node.Attempt
import Memcache.Proofs.Node.Course
import Memcache.Proofs.Node.Lifecycle
import Memcache.Proofs.Node.Marking
import Memcache.Proofs.Node.Sockets
import Memcache.Proofs.Node.Turns
import Memcache.Proofs.Pool.Conservation
import Memcache.Proofs.Pool.Ledger
import Memcache.Proofs.Pool.Moves
import Memcache.Proofs.Pool.TaskSteps
import Memcache.Proofs.Pool.Workload
import Memcache.Proofs.Ring.Disruption
import Memcache.Proofs.Ring.Ownership
import Memcache.Proofs.Table.Writes
import Memcache.Proofs.Text.Decimal
import Memcache.Proofs.Text.Lossy
import Memcache.Proofs.Value.Storage
import Memcache.Proofs.Wire.Chunking
import Memcache.Proofs.Wire.Requests
import Memcache.Proofs.Wire.RoundTrip
import Memcache.Proofs.Connection.Cutting
import Memcache.Proofs.FailurePolicy.Chains
import Memcache.Proofs.Ring.Lookup
import Memcache.Proofs.Pool.Lending
import Memcache.Proofs.Pool.Return
import Memcache.Proofs.Wire.Recovery
import Memcache.Proofs.Text.Grammar
import Memcache.Proofs.Value.Counters
import Memcache.Proofs.Batch.Attribution
import Memcache.Proofs.Pool.Flow
import Memcache.Proofs.Pool.Opening
import Memcache.Proofs.Endpoint.Spelling
import Memcache.Proofs.Key.Transformation
import Memcache.Proofs.Client.Seeding
import Memcache.Proofs.Node.Provenance
import Memcache.Proofs.CommandLine.Options
import Memcache.Proofs.CommandLine.Usage
import Memcache.Proofs.Network.Unasked
import Memcache.Proofs.Client.Launching
import Memcache.Proofs.CommandLine.Exits
import Memcache.Proofs.Fleet.Interleaving
import Memcache.Proofs.Fleet.Shutdown
