import RemoteCall.Client.Basic
import RemoteCall.Server.Handling
import RemoteCall.Settings.Basic

/-!
# Scripts

A session runs a script: a list of steps over one server, named clients, named raw connections to
the server, listeners that only follow the script, and named futures. This module holds the words of
a script, and those in which a session answers.

Handlers and callbacks of a session are taken from fixed kinds, so that what they do can be written
down. Some of them pass a gate, which holds them up until the script opens it.
-/

namespace RemoteCall

namespace Session

/-! ## Handlers -/

/-- What a scripted handler does. -/
inductive Handler where
  /-- Return the arguments. -/
  | echo
  /-- Return the arguments in reverse order. -/
  | reversed
  /-- Return nothing. -/
  | nothing
  /-- Add two 32-bit integers. -/
  | add
  | const (values : List Value)
  | fail (text : String)
  | panic
  /-- Pass the gate, and return the arguments. -/
  | gate
  deriving Repr

/-- Whether the handler passes the gate. -/
def Handler.passesGate : Handler → Bool
  | gate => true
  | _ => false

/-- The 32-bit integer that an argument stands for in a sum. -/
def addend (value : Value) : Int32 := value.int32?.getD 0

instance : Handles Handler where
  run
    | .echo, args | .gate, args => .returned args
    | .reversed, args => .returned args.reverse
    | .nothing, _ => .returned []
    | .add, a :: b :: _ => .returned [.int32 (addend a + addend b)]
    | .add, _ => .panicked
    | .const values, _ => .returned values
    | .fail text, _ => .failed text
    | .panic, _ => .panicked

/-! ## Callbacks -/

/-- What a scripted callback does before it writes its entry into the log. -/
inductive Callback.Mode where
  | plain
  /-- Pass the gate. -/
  | gate
  /-- Pass the gate, and close the client. -/
  | gateClose
  /-- Issue another call, with a callback of its own. -/
  | call
  /-- Panic, after the entry is written. -/
  | panic
  deriving DecidableEq, Repr

/-- A scripted callback. -/
structure Callback where
  label : String
  mode : Callback.Mode
  deriving DecidableEq, Repr

/-- Whether the callback passes the gate. -/
def Callback.passesGate (callback : Callback) : Bool :=
  match callback.mode with
  | .gate | .gateClose => true
  | _ => false

/-- The call that a callback issues. -/
def followUp : Request := ⟨77, [], [], []⟩

/-- The callback of that call. -/
def Callback.next (callback : Callback) : Callback := ⟨callback.label ++ "/2", .plain⟩

/-- Where a callback ran. -/
inductive Place where
  /-- On the thread that runs the session. -/
  | caller
  /-- On the delivery thread of its client. -/
  | delivery
  | other
  deriving DecidableEq, Repr

/-- An entry of the log of callbacks. -/
structure Entry where
  label : String
  place : Place
  result : CallResult
  deriving Repr

/-! ## Steps -/

/-- What a client connects to. -/
inductive Target where
  /-- The address to which the server was last bound. -/
  | server
  /-- A scripted listener. -/
  | peer (name : String)
  /-- An address at which nobody listens. -/
  | refused
  | address (text : String)
  deriving DecidableEq, Repr

/-- The scripted end of a connection. -/
inductive Wire where
  /-- A raw connection to the server. -/
  | raw (name : String)
  /-- The peer of a client. -/
  | peerOf (client : String)
  deriving DecidableEq, Repr

/-- What the peer of a client does with the request of a call that waits. -/
inductive PeerAnswer where
  | close
  /-- Send frames, each under a given transaction ID or under that of the request, then bytes. -/
  | send (frames : List (Option Int64 × Int32 × Bytes)) (bytes : Bytes) (split : Option Nat)
  deriving Repr

/-- A step of a script. -/
inductive Step where
  | poll (settings : PollSettings)
  | pollShutDown
  | pollIsShutDown
  | server (registry : Registry) (settings : ServerSettings) (services : List (Service Handler))
  | register (registration : Registration Handler)
  | registerService (service : Service Handler)
  | unregister (id : CallId)
  | isRegistered (id : CallId)
  | registeredCount
  | start (address : String)
  | stop
  | dropServer
  | running
  | connectionCount
  | openGate
  | shutGate
  | arrivals
  | openRaw (name : String)
  | send (wire : Wire) (frames : List Frame) (bytes : Bytes) (split : Option Nat)
  | receive (wire : Wire) (count : Nat) (ordered : Bool)
  | receiveAll (wire : Wire)
  | halfClose (wire : Wire)
  | closeWire (wire : Wire)
  | peerGone (name : String)
  | connect (client : String) (target : Target) (registry : Registry) (settings : ClientSettings)
  | call (client : String) (request : Request) (future : Option String)
      (callback : Option Callback)
  | callbacks
  | syncCall (client : String) (request : Request) (answer : Option PeerAnswer)
  | serviceCall (client service method : String) (args : List Value)
  | close (client : String)
  | isConnected (client : String)
  | pending (client : String)
  | wait (future : String)
  | future (future : String)
  | takeReply (future : String)
  | finish (future : String)
  | release (future : String)
  | pool (registry : Registry) (settings : ClientSettings)
  | poolGet (client : String) (target : Target)
  | poolSize
  | poolCloseAll
  deriving Repr

/-! ## Answers -/

/-- The answer to a step. -/
inductive Answer where
  | done
  | failed (e : Error)
  | flag (value : Bool)
  | count (n : Nat)
  | poll (settings : PollSettings)
  /-- Whether the server runs, and whether it has an address. -/
  | running (isRunning hasAddress : Bool)
  | frames (frames : List Frame) (closed : Bool)
  | issued (xid : Int64)
  | entries (entries : List Entry)
  /-- The outcome of a call, with the request if the peer has read it. -/
  | outcome (outcome : Except Error CallResult) (request : Option Frame)
  /-- The number of pending calls and that of pending callbacks. -/
  | pending (calls callbacks : Nat)
  | future (xid : Int64) (ready : Bool) (status : Option Status)
  | reply (payload : Option Bytes)
  /-- The name of the client that the pool had, if it had one. -/
  | pooled (cachedAs : Option String)
  | poolSize (size : Nat) (isEmpty : Bool)
  deriving Repr

/-- The answer that stands for a result without content. -/
def Answer.ofResult : Except Error Unit → Answer
  | .ok () => done
  | .error e => failed e

/-- Why a session does not go on. -/
inductive Halt where
  /-- A name in the script stands for nothing. -/
  | client (name : String)
  | rawConnection (name : String)
  | future (name : String)
  | server
  | pool
  /-- The session closes a client, and joins a delivery thread that stands at the shut gate. Nobody
  is left to open the gate. -/
  | joining
  deriving DecidableEq, Repr

/-- The wording of the reason. -/
def Halt.message : Halt → String
  | client name => s!"no client {name}"
  | rawConnection name => s!"no raw connection {name}"
  | future name => s!"no future {name}"
  | server => "no server"
  | pool => "no pool"
  | joining => "the session waits for a callback at the gate"

end Session

end RemoteCall
