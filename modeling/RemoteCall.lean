import RemoteCall.Bytes.Fnv
import RemoteCall.Bytes.LittleEndian
import RemoteCall.Bytes.Pieces
import RemoteCall.Call.Future
import RemoteCall.Call.Result
import RemoteCall.Client.Basic
import RemoteCall.Client.Link
import RemoteCall.Client.Pool
import RemoteCall.Codec.Buffer
import RemoteCall.Codec.Primitive
import RemoteCall.Codec.Values
import RemoteCall.Error
import RemoteCall.Frame.Basic
import RemoteCall.Frame.Header
import RemoteCall.Frame.Reassembly
import RemoteCall.Machine
import RemoteCall.Poll
import RemoteCall.Proofs.Bytes.Fnv
import RemoteCall.Proofs.Call.Answering
import RemoteCall.Proofs.Call.Delivery
import RemoteCall.Proofs.Call.Outcome
import RemoteCall.Proofs.Call.Requests
import RemoteCall.Proofs.Call.Slot
import RemoteCall.Proofs.Client.Accounts
import RemoteCall.Proofs.Client.Actions
import RemoteCall.Proofs.Client.Callbacks
import RemoteCall.Proofs.Client.Closed
import RemoteCall.Proofs.Client.Closing
import RemoteCall.Proofs.Client.Correlation
import RemoteCall.Proofs.Client.Hosting
import RemoteCall.Proofs.Client.Issuing
import RemoteCall.Proofs.Client.Joining
import RemoteCall.Proofs.Client.Link
import RemoteCall.Proofs.Client.LinkClosing
import RemoteCall.Proofs.Client.Naturality
import RemoteCall.Proofs.Client.Ordering
import RemoteCall.Proofs.Client.Outstanding
import RemoteCall.Proofs.Client.Pooling
import RemoteCall.Proofs.Client.Queueing
import RemoteCall.Proofs.Client.Reading
import RemoteCall.Proofs.Client.Runners
import RemoteCall.Proofs.Client.Slots
import RemoteCall.Proofs.Client.Stopping
import RemoteCall.Proofs.Client.Threads
import RemoteCall.Proofs.Client.Tickets
import RemoteCall.Proofs.Client.Uninterrupted
import RemoteCall.Proofs.Client.Verdicts
import RemoteCall.Proofs.Client.Views
import RemoteCall.Proofs.Codec.Buffer
import RemoteCall.Proofs.Codec.Canonical
import RemoteCall.Proofs.Codec.Conforming
import RemoteCall.Proofs.Codec.Descent
import RemoteCall.Proofs.Codec.Image
import RemoteCall.Proofs.Codec.Leaves
import RemoteCall.Proofs.Codec.Lookups
import RemoteCall.Proofs.Codec.Places
import RemoteCall.Proofs.Codec.Primitive
import RemoteCall.Proofs.Codec.RoundTrip
import RemoteCall.Proofs.Codec.Structs
import RemoteCall.Proofs.Frame.Header
import RemoteCall.Proofs.Frame.Parse
import RemoteCall.Proofs.Frame.Reassembly
import RemoteCall.Proofs.Frame.Stopping
import RemoteCall.Proofs.Machine
import RemoteCall.Proofs.Schema.Attempts
import RemoteCall.Proofs.Server.Basic
import RemoteCall.Proofs.Server.Bindings
import RemoteCall.Proofs.Server.Changes
import RemoteCall.Proofs.Server.Connection
import RemoteCall.Proofs.Server.Dispatch
import RemoteCall.Proofs.Server.Functions
import RemoteCall.Proofs.Server.Generations
import RemoteCall.Proofs.Server.Ledger
import RemoteCall.Proofs.Server.Order
import RemoteCall.Proofs.Server.Owed
import RemoteCall.Proofs.Server.Racing
import RemoteCall.Proofs.Server.Replies
import RemoteCall.Proofs.Server.Serving
import RemoteCall.Proofs.Server.Silence
import RemoteCall.Proofs.Server.Slots
import RemoteCall.Proofs.Server.Turns
import RemoteCall.Proofs.Service
import RemoteCall.Proofs.Session.Rounds
import RemoteCall.Proofs.Session.Runs
import RemoteCall.Proofs.System.Basic
import RemoteCall.Proofs.System.Breaks
import RemoteCall.Proofs.System.Connection
import RemoteCall.Proofs.System.Envelopes
import RemoteCall.Proofs.System.History
import RemoteCall.Proofs.System.Invariant
import RemoteCall.Proofs.System.Peer
import RemoteCall.Proofs.System.Results
import RemoteCall.Proofs.Text.Utf8
import RemoteCall.Proofs.Writer.Admission
import RemoteCall.Proofs.Writer.Apart
import RemoteCall.Proofs.Writer.Batches
import RemoteCall.Proofs.Writer.Moves
import RemoteCall.Proofs.Writer.Pending
import RemoteCall.Proofs.Writer.Refusals
import RemoteCall.Proofs.Writer.Sends
import RemoteCall.Proofs.Writer.Slices
import RemoteCall.Proofs.Writer.Stream
import RemoteCall.Schema.Registry
import RemoteCall.Schema.Ty
import RemoteCall.Schema.Value
import RemoteCall.Server.Basic
import RemoteCall.Server.Connection
import RemoteCall.Server.Functions
import RemoteCall.Server.Handling
import RemoteCall.Service
import RemoteCall.Session.Address
import RemoteCall.Session.Run
import RemoteCall.Session.Script
import RemoteCall.Session.World
import RemoteCall.Settings.Basic
import RemoteCall.Settings.DoubleRange
import RemoteCall.Settings.Reader
import RemoteCall.Settings.Scan
import RemoteCall.Settings.Skip
import RemoteCall.Status
import RemoteCall.Text.Utf8
import RemoteCall.Writer.Basic
import RemoteCall.Writer.Scripted
import RemoteCall.Proofs.Bytes.Fnv
import RemoteCall.Proofs.Service
