import RemoteCall.Error

/-!
# The client pool

A pool keeps one client for each address. A kept client is handed out as long as it is connected;
one that is not is given up, and closed, when its address is asked for again.

The pool refers to clients of any type `ι`, for instance by number. Connecting is done by its user:
`Pool.find` says whether it is needed, and `Pool.settle` takes the result in.
-/

namespace RemoteCall

/-- The clients that are kept, by address. -/
structure Pool (ι : Type) where
  entries : List (String × ι)
  deriving DecidableEq, Repr

namespace Pool

variable {ι : Type}

/-- A pool without clients. -/
def empty : Pool ι := ⟨[]⟩

/-- The client that is kept for an address. -/
def get? (pool : Pool ι) (address : String) : Option ι := pool.entries.lookup address

/-- The number of kept clients. -/
def size (pool : Pool ι) : Nat := pool.entries.length

/-- Whether no client is kept. -/
def isEmpty (pool : Pool ι) : Bool := pool.entries.isEmpty

/-- What a pool has for an address. -/
inductive Found (ι : Type) where
  /-- A client that is connected. -/
  | connected (client : ι)
  /-- A client that is not connected any more, which a new one is to replace. -/
  | stale (client : ι)
  | nothing
  deriving DecidableEq, Repr

/-- Look for a connected client. -/
def find (pool : Pool ι) (isConnected : ι → Bool) (address : String) : Found ι :=
  match pool.get? address with
  | none => .nothing
  | some client => if isConnected client then .connected client else .stale client

/-- Forget the client of an address. -/
def erase (pool : Pool ι) (address : String) : Pool ι :=
  ⟨pool.entries.filter (·.1 ≠ address)⟩

/-- Take in the result of connecting to an address: a new client is kept in place of an old one, and
after a failure none is kept. -/
def settle (pool : Pool ι) (address : String) : Except Error ι → Pool ι
  | .ok client => ⟨(address, client) :: (pool.erase address).entries⟩
  | .error _ => pool.erase address

/-- Ask for a client: the result, the pool after it, and the clients to be closed. `dial` is the
result of connecting, should that be needed. -/
def get (pool : Pool ι) (isConnected : ι → Bool) (address : String) (dial : Except Error ι) :
    Except Error ι × Pool ι × List ι :=
  match pool.find isConnected address with
  | .connected client => (.ok client, pool, [])
  | .stale client => (dial, pool.settle address dial, [client])
  | .nothing => (dial, pool.settle address dial, [])

/-- Forget all clients, and say which are to be closed. -/
def closeAll (pool : Pool ι) : Pool ι × List ι := (empty, pool.entries.map Prod.snd)

theorem get?_erase_self (pool : Pool ι) (address : String) :
    (pool.erase address).get? address = none := by
  rw [get?, erase, List.lookup_eq_none_iff]
  intro entry h
  simp only [List.mem_filter, decide_eq_true_eq] at h
  simpa using fun e => h.2 e.symm

end Pool

end RemoteCall
