import Mathlib.Tactic.Lemma
import RemoteCall.Client.Basic

/-!
# The slots of a client

Apart from issuing a call, whatever a client does leaves its slots where they are, with their types;
it can only resolve some of them.  `Resolves allowed` says so of two states of a client, and with
which resolutions: the failures of a client itself never have the status of success (`failed`), so
the only successes are replies that were received (`receive_resolves`).

A slot is resolved once.  What comes later finds it resolved and leaves it, which is why a lemma
about an action has to give only the resolutions that it attempts, and not the slots that it finds.

`allowed` is told the transaction ID as well as the resolution.  For a reply that is the point: it
resolves calls of its own transaction ID and no others.  The failures do not depend on it, so
`failed` ignores it.  Actions compose (`Resolves.trans`), and the set of allowed resolutions may
grow (`Resolves.mono`); a loop over calls is proved with one set for all of them.

## Main statements

* `receive_resolves` — a reply resolves calls of its own transaction ID only, with its status and
  its payload.
-/

namespace RemoteCall

lemma Future.resolution_resolve (future : Future) (status : Status) (payload : Option Bytes) :
    (future.resolve status payload).2.resolution = future.resolution ∨
      (future.resolve status payload).2.resolution = some ⟨status, replyOf payload⟩ := by
  unfold resolve
  cases before : future.resolution with
  | some resolution => exact Or.inl before
  | none => exact Or.inr rfl

namespace Client

variable {κ : Type}

/-- From one state to another the slots stay, and only allowed resolutions were made. -/
structure Resolves (allowed : Int64 → Resolution → Prop) (client client' : Client κ) : Prop where
  registry : client'.registry = client.registry
  maxPayload : client'.maxPayload = client.maxPayload
  nextXid : client'.nextXid = client.nextXid
  slots : ∀ entry' ∈ client'.futures, ∃ entry ∈ client.futures, entry'.1 = entry.1 ∧
    entry'.2.resultTypes = entry.2.resultTypes ∧
    (entry'.2.resolution = entry.2.resolution ∨
      ∃ resolution, entry'.2.resolution = some resolution ∧ allowed entry.1 resolution)

/-- The resolutions of calls that were not answered. -/
def failed (_ : Int64) (resolution : Resolution) : Prop := resolution.status ≠ Status.ok

section

variable {allowed : Int64 → Resolution → Prop} {client client' client'' : Client κ}

lemma Resolves.of_futures (registry : client'.registry = client.registry)
    (maxPayload : client'.maxPayload = client.maxPayload)
    (nextXid : client'.nextXid = client.nextXid)
    (futures : client'.futures = client.futures) : Resolves allowed client client' := by
  refine ⟨registry, maxPayload, nextXid, ?_⟩
  intro entry present
  rw [futures] at present
  exact ⟨entry, present, rfl, rfl, Or.inl rfl⟩

lemma Resolves.refl (client : Client κ) : Resolves allowed client client :=
  .of_futures rfl rfl rfl rfl

lemma Resolves.trans (first : Resolves allowed client client')
    (second : Resolves allowed client' client'') : Resolves allowed client client'' := by
  refine ⟨second.registry.trans first.registry, second.maxPayload.trans first.maxPayload,
    second.nextXid.trans first.nextXid, ?_⟩
  intro entry'' present''
  obtain ⟨entry', present', key', types', later⟩ := second.slots entry'' present''
  obtain ⟨entry, present, key, types, sooner⟩ := first.slots entry' present'
  refine ⟨entry, present, key'.trans key, types'.trans types, ?_⟩
  rcases later with same' | ⟨resolution, resolved, ok⟩
  · rw [same']
    exact sooner
  · rw [key] at ok
    exact Or.inr ⟨resolution, resolved, ok⟩

lemma Resolves.mono {more : Int64 → Resolution → Prop}
    (resolves : Resolves allowed client client')
    (weaker : ∀ xid resolution, allowed xid resolution → more xid resolution) :
    Resolves more client client' := by
  refine ⟨resolves.registry, resolves.maxPayload, resolves.nextXid, ?_⟩
  intro entry' present'
  obtain ⟨entry, present, key, types, resolution⟩ := resolves.slots entry' present'
  refine ⟨entry, present, key, types, resolution.imp_right ?_⟩
  rintro ⟨resolution, resolved, ok⟩
  exact ⟨resolution, resolved, weaker _ _ ok⟩

end

section

variable {allowed : Int64 → Resolution → Prop} (client : Client κ)

lemma resolve_resolves {xid : Int64} {status : Status} {payload : Option Bytes}
    (ok : allowed xid ⟨status, Future.replyOf payload⟩) :
    Resolves allowed client (client.resolve xid status payload) := by
  refine ⟨rfl, rfl, rfl, ?_⟩
  intro entry' present'
  obtain ⟨entry, present, rfl⟩ := List.mem_map.mp present'
  refine ⟨entry, present, ?_⟩
  by_cases hit : entry.1 = xid
  · rw [if_pos hit]
    refine ⟨rfl, Future.resultTypes_resolve _ _ _, ?_⟩
    rcases entry.2.resolution_resolve status payload with kept | resolved
    · exact Or.inl kept
    · exact Or.inr ⟨_, resolved, hit ▸ ok⟩
  · rw [if_neg hit]
    exact ⟨rfl, rfl, Or.inl rfl⟩

lemma runCallback_resolves (id : UInt64) (xid : Int64) (runner : Runner) :
    Resolves allowed client (client.runCallback id xid runner).1 := by
  unfold runCallback
  split
  · exact .of_futures rfl rfl rfl rfl
  · exact .of_futures rfl rfl rfl rfl

lemma complete_resolves {call : PendingCall} {status : Status} {payload : Option Bytes}
    {runner : Runner} (ok : allowed call.xid ⟨status, Future.replyOf payload⟩) :
    Resolves allowed client (client.complete call status payload runner).1 := by
  have resolved := client.resolve_resolves ok
  unfold complete
  cases call.callback with
  | none => exact resolved
  | some id =>
    dsimp only
    split
    · exact resolved.trans (runCallback_resolves _ _ _ _)
    · exact resolved.trans (.of_futures rfl rfl rfl rfl)

lemma failLocally_resolves {call : PendingCall} {status : Status} (failure : status ≠ Status.ok) :
    Resolves failed client (client.failLocally call status).1 := by
  have resolved : Resolves failed client (client.resolve call.xid status none) :=
    client.resolve_resolves failure
  unfold failLocally
  cases call.callback with
  | none => exact resolved
  | some id => exact resolved.trans (runCallback_resolves _ _ _ _)

lemma removePending_resolves (xid : Int64) : Resolves allowed client (client.removePending xid) :=
  .of_futures rfl rfl rfl rfl

lemma completeAll_resolves {status : Status} (failure : status ≠ Status.ok) (runner : Runner)
    (calls : List PendingCall) :
    Resolves failed client (client.completeAll status runner calls).1 := by
  induction calls generalizing client with
  | nil => exact .refl client
  | cons call rest ih =>
    have first : Resolves failed client (client.complete call status none runner).1 :=
      client.complete_resolves failure
    exact first.trans (ih _)

/-! ## Actions -/

lemma unsentStatus_ne_ok (e : Error) : unsentStatus e ≠ Status.ok := by
  unfold unsentStatus
  split <;> decide

lemma sendFailed_resolves (xid : Int64) (e : Error) :
    Resolves failed client (client.sendFailed xid e).1 := by
  unfold sendFailed
  cases client.pendingCall? xid with
  | none => exact .refl client
  | some call =>
    exact (removePending_resolves client xid).trans
      (failLocally_resolves _ (unsentStatus_ne_ok e))

lemma abandon_resolves (xid : Int64) : Resolves failed client (client.abandon xid).1 := by
  unfold abandon
  cases client.pendingCall? xid with
  | none => exact .refl client
  | some call =>
    have failure : failed call.xid ⟨Status.timedOut, Future.replyOf none⟩ := by
      show Status.timedOut ≠ Status.ok
      decide
    exact (removePending_resolves client xid).trans (complete_resolves _ failure)

/-- A reply resolves calls of its own transaction ID only, with its status and its payload. -/
theorem receive_resolves (frame : Frame) :
    Resolves (fun xid resolution => xid = frame.xid ∧
        resolution = ⟨frame.status, Future.replyOf (some frame.payload)⟩)
      client (client.receive frame).1 := by
  unfold receive
  cases found : client.pendingCall? frame.xid with
  | none => exact .refl client
  | some call =>
    have xid : call.xid = frame.xid := by
      have hit := List.find?_some found
      simpa using hit
    exact (removePending_resolves client frame.xid).trans (complete_resolves _ ⟨xid, rfl⟩)

lemma disconnect_resolves {status : Status} (failure : status ≠ Status.ok) (runner : Runner) :
    Resolves failed client (client.disconnect status runner).1 := by
  have shut : Resolves failed client { client with isOpen := false, pending := [] } :=
    .of_futures rfl rfl rfl rfl
  exact shut.trans (completeAll_resolves _ failure runner _)

lemma deliver_resolves : Resolves allowed client client.deliver.1 := by
  unfold deliver
  split
  · exact .refl client
  · rename_i id xid rest _
    have taken : Resolves allowed client { client with deliveries := rest } :=
      .of_futures rfl rfl rfl rfl
    exact taken.trans (runCallback_resolves _ _ _ _)

lemma failPending_resolves : Resolves failed client client.failPending.1 := by
  have marked : Resolves failed client { client with closing := .callsFailed } :=
    .of_futures rfl rfl rfl rfl
  exact marked.trans (disconnect_resolves _ (by decide) _)

lemma closeNext_resolves : Resolves failed client client.closeNext.1 := by
  unfold closeNext
  split
  · exact .of_futures rfl rfl rfl rfl
  · exact failPending_resolves client
  · exact .of_futures rfl rfl rfl rfl
  · exact .refl client

lemma close_resolves : Resolves failed client client.close.1 := by
  unfold close
  split
  · have stopped : Resolves failed client client.stopDelivery := .of_futures rfl rfl rfl rfl
    exact (stopped.trans (failPending_resolves _)).trans (.of_futures rfl rfl rfl rfl)
  · exact .refl client

end

end Client

end RemoteCall
