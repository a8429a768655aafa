import Rsfu.Bucket
import Mathlib.Data.List.Basic
import Mathlib.Logic.Function.Basic

/-! Requests of a relay peer. A call of `request` suspends at each lock and at
its `select!`, so it is kept as the point it has reached. Calls are named by the
order they were made in, which the code does not see; `none` is a step not ready. -/
namespace Rsfu

inductive RelayError where
  | errRelayRequestTimeout
  | errRelayRequestEmptyRespose
  deriving DecidableEq, Repr

structure Request where
  id : UInt64
  isReply : Bool
  event : String
  payload : Bytes
  deriving DecidableEq, Repr

def seed : List UInt8 :=
  [1, 0, 0, 0, 23, 0, 0, 0, 200, 1, 0, 0, 210, 30, 0, 0, 0, 0, 0, 0, 0, 0, 0, 0, 0, 0, 0, 0, 0, 0, 0, 0]

/-- The random number generator of the `rand` crate: each of its functions is deterministic. -/
structure StdRng where
  State : Type
  fromSeed : List UInt8 → State
  nextU64 : State → UInt64 × State

/-- The first number of a generator made anew in each call. -/
def StdRng.requestId (rng : StdRng) : UInt64 := (rng.nextU64 (rng.fromSeed seed)).1

inductive CallState where
  | sent
  | waiting
  | timedOut
  | received (data : Option Bytes)
  | returned (result : Except RelayError Bytes)

/-- The result of the arm of the `select!` that was taken. -/
def CallState.result : CallState → Option (Except RelayError Bytes)
  | .timedOut => some (.error .errRelayRequestTimeout)
  | .received (some payload) => some (.ok payload)
  | .received none => some (.error .errRelayRequestEmptyRespose)
  | _ => none

/-- One call of `request`, with the messages in its event channel. -/
structure RelayCall where
  request : Request
  state : CallState := .sent
  events : List Bytes := []

/-- The part of a peer that its clones share. A sender in `pending_requests` is
the number of the call that holds the other end. -/
structure RelayPeer where
  calls : List RelayCall := []
  pendingRequests : UInt64 → Option Nat := fun _ => none
  lockHeld : Bool := false

namespace RelayPeer

def setCall (p : RelayPeer) (k : Nat) (c : RelayCall) : RelayPeer :=
  { p with calls := p.calls.set k c }

/-- `request` up to its send on the signaling channel. -/
def request (rng : StdRng) (p : RelayPeer) (event : String) (payload : Bytes) : RelayPeer × Request :=
  let req : Request := { id := rng.requestId, isReply := false, event, payload }
  ({ p with calls := p.calls ++ [{ request := req }] }, req)

/-- The insertion into `pending_requests`; an older sender under the id is dropped. -/
def insertPending (p : RelayPeer) (k : Nat) : Option RelayPeer :=
  match p.lockHeld, p.calls[k]? with
  | false, some ⟨req, .sent, events⟩ =>
      some { p.setCall k ⟨req, .waiting, events⟩ with
        pendingRequests := Function.update p.pendingRequests req.id (some k) }
  | _, _ => none

/-- The timer arm of the `select!`. -/
def timeout (p : RelayPeer) (k : Nat) : Option RelayPeer :=
  match p.calls[k]? with
  | some ⟨req, .waiting, events⟩ => some (p.setCall k ⟨req, .timedOut, events⟩)
  | _ => none

/-- The channel arm: a message, or no message when the sender is gone. -/
def receive (p : RelayPeer) (k : Nat) : Option RelayPeer :=
  match p.calls[k]? with
  | some ⟨req, .waiting, data :: events⟩ => some (p.setCall k ⟨req, .received (some data), events⟩)
  | some ⟨req, .waiting, []⟩ =>
      if p.pendingRequests req.id = some k then none
      else some (p.setCall k ⟨req, .received none, []⟩)
  | _ => none

/-- The removal from `pending_requests` that each arm ends with. -/
def finish (p : RelayPeer) (k : Nat) : Option RelayPeer :=
  match p.lockHeld, p.calls[k]? with
  | false, some ⟨req, state, events⟩ =>
      state.result.map fun result =>
        { p.setCall k ⟨req, .returned result, events⟩ with
          pendingRequests := Function.update p.pendingRequests req.id none }
  | _, _ => none

/-- `Peer::reply` of the remote. -/
def reply (id : UInt64) (event : String) (payload : Bytes) : Request := { id, event, payload, isReply := true }

/-- `handle_request` on a reply. The guard of the lookup lives until the end of its
`if let`, inside which the lock is taken again: after a send the lock is held for good.
A send to a call that has returned fails, and the error drops the guard. -/
def handleReply (p : RelayPeer) (r : Request) : Option RelayPeer :=
  if p.lockHeld then none
  else
    match p.pendingRequests r.id with
    | none => some p
    | some k =>
        match p.calls[k]? with
        | none => some p
        | some ⟨_, .returned _, _⟩ => some p
        | some ⟨req, state, events⟩ =>
            some { p.setCall k ⟨req, state, events ++ [r.payload]⟩ with lockHeld := true }

end RelayPeer

end Rsfu
