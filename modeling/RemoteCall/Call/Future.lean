import RemoteCall.Call.Result

/-!
# Futures

A future is the slot in which the outcome of one call arrives. Several parties may try to resolve
it — the reader with a reply, a caller that gave up, a disconnect — and the first one wins.

The raw reply can be taken once. Taking it spends the future for its holder, but not for a
callback of the same call, which is given the decoded outcome in any case.
-/

namespace RemoteCall

/-- The status and the payload with which a call was resolved. -/
structure Resolution where
  status : Status
  /-- The payload, unless it is empty. -/
  reply : Option Bytes
  deriving DecidableEq, Repr

/-- The slot of one call. -/
structure Future where
  resultTypes : List Ty
  resolution : Option Resolution
  /-- The raw reply was handed out. -/
  taken : Bool
  deriving DecidableEq, Repr

namespace Future

/-- The slot of a call that has just been issued. -/
def unresolved (resultTypes : List Ty) : Future := ⟨resultTypes, none, false⟩

/-- A payload counts as a reply unless it is empty. -/
def replyOf (payload : Option Bytes) : Option Bytes := payload.filter (!·.isEmpty)

/-- Resolve the call; says whether this was the first resolution. A later one changes nothing. -/
def resolve (future : Future) (status : Status) (payload : Option Bytes) : Bool × Future :=
  match future.resolution with
  | some _ => (false, future)
  | none => (true, { future with resolution := some ⟨status, replyOf payload⟩ })

/-- Whether the call is resolved. -/
def ready (future : Future) : Bool := future.resolution.isSome

/-- The status, once the call is resolved. -/
def status? (future : Future) : Option Status := future.resolution.map Resolution.status

/-- The decoded outcome, once the call is resolved. -/
def result? (registry : Registry) (future : Future) : Option CallResult :=
  future.resolution.map fun r => .ofReply registry future.resultTypes r.status r.reply

/-- Take the raw reply, once the call is resolved. -/
def takeReply? (future : Future) : Option (Except Error (Option Bytes) × Future) :=
  future.resolution.map fun r =>
    if future.taken then (.error .replyTaken, future)
    else (.ok r.reply, { future with taken := true })

/-- End the future with its decoded outcome, once the call is resolved. -/
def finish? (registry : Registry) (future : Future) : Option (Except Error CallResult) :=
  (future.result? registry).map fun result =>
    if future.taken then .error .replyTaken else .ok result

@[simp] theorem ready_unresolved (types : List Ty) : (unresolved types).ready = false := rfl

/-- After any attempt to resolve it a call is resolved. -/
theorem ready_resolve (future : Future) (status : Status) (payload : Option Bytes) :
    (future.resolve status payload).2.ready = true := by
  unfold resolve ready
  cases h : future.resolution <;> simp [h]

/-- The first resolution stays. -/
theorem resolve_of_ready {future : Future} (h : future.ready = true) (status : Status)
    (payload : Option Bytes) : future.resolve status payload = (false, future) := by
  unfold ready at h
  unfold resolve
  cases hr : future.resolution with
  | none => simp [hr] at h
  | some _ => rfl

@[simp] theorem resultTypes_resolve (future : Future) (status : Status)
    (payload : Option Bytes) : (future.resolve status payload).2.resultTypes =
      future.resultTypes := by
  unfold resolve
  split <;> rfl

end Future

end RemoteCall
