import Rsfu.TaskTable

/-! Negotiation of a joined peer, whose offer handler is installed and which is not
closed. Tasks are calls of `negotiate` and of `set_remote_description`; each access to
an atomic flag and each await is one step. Calls of the peer connection succeed. -/
namespace Rsfu

/-- What a task does next. The points from `entering` to `resetting` are those of
`set_remote_description`, which may go on with a call of `negotiate` of its own. -/
inductive NegotiationPoint where
  | waiting
  | checking
  | postponing
  | creating
  | describing
  | arming
  | sending
  | sent
  | entering
  | applying
  | draining
  | clearing
  | reading
  | resetting
  | returned
  deriving DecidableEq, Repr

/-- A call: the offer it brings the answer to, if it is one of `set_remote_description`,
and how many offers there were when its call of `negotiate` began. The latter is not kept
by the code. -/
structure NegotiationTask where
  answer : Option Nat := none
  began : Option Nat := none
  point : NegotiationPoint
  deriving DecidableEq, Repr

/-- The flags and locks of a peer and its subscriber, with the offers created and sent so
far, those the client has answered, and those whose answer was applied. -/
structure PeerNegotiation where
  tasks : List NegotiationTask := []
  remoteAnswerPending : Bool := false
  negotiationPending : Bool := false
  handlerLock : Option Nat := none
  subscriberLock : Option Nat := none
  created : Nat := 0
  sent : Nat := 0
  answered : List Nat := []
  applied : List Nat := []

namespace PeerNegotiation

def moveTo (g : PeerNegotiation) (k : Nat) (t : NegotiationTask) (point : NegotiationPoint) : PeerNegotiation :=
  { g with tasks := g.tasks.set k { t with point } }

/-- The end of `negotiate`, and of the call of `set_remote_description` it is part of. -/
def leave (g : PeerNegotiation) (k : Nat) (t : NegotiationTask) : PeerNegotiation :=
  { g.moveTo k t .returned with
    handlerLock := none
    subscriberLock := if t.answer.isSome then none else g.subscriberLock }

/-- The next step of a task; `none` when it waits for a lock or has returned. -/
def resume (g : PeerNegotiation) (k : Nat) (t : NegotiationTask) : Option PeerNegotiation :=
  match t.point with
  | .waiting => if g.handlerLock = none then some { g.moveTo k t .checking with handlerLock := some k } else none
  | .checking => some (g.moveTo k t (if g.remoteAnswerPending then .postponing else .creating))
  | .postponing => some { g.leave k t with negotiationPending := true }
  | .creating => some { g.moveTo k t .describing with created := g.created + 1 }
  | .describing => some (g.moveTo k t .arming)
  | .arming => some { g.moveTo k t .sending with remoteAnswerPending := true }
  | .sending => some { g.moveTo k t .sent with sent := g.sent + 1 }
  | .sent => some (g.leave k t)
  | .entering =>
      if g.subscriberLock = none then some { g.moveTo k t .applying with subscriberLock := some k } else none
  | .applying => t.answer.map fun offer => { g.moveTo k t .draining with applied := offer :: g.applied }
  | .draining => some (g.moveTo k t .clearing)
  | .clearing => some { g.moveTo k t .reading with remoteAnswerPending := false }
  | .reading =>
      if g.negotiationPending then some (g.moveTo k t .resetting)
      else some { g.moveTo k t .returned with subscriberLock := none }
  | .resetting => some { g.moveTo k { t with began := some g.created } .waiting with negotiationPending := false }
  | .returned => none

/-- A call of `negotiate` starts, the client answers an offer it received, a task goes on. -/
inductive NegotiationStep where
  | negotiate
  | answer (offer : Nat)
  | resume (k : Nat)

/-- The client answers each offer at most once. -/
def step (g : PeerNegotiation) : NegotiationStep → Option PeerNegotiation
  | .negotiate => some { g with tasks := g.tasks ++ [{ began := some g.created, point := .waiting }] }
  | .answer offer =>
      if offer < g.sent ∧ offer ∉ g.answered then
        some { g with
          tasks := g.tasks ++ [{ answer := some offer, point := .entering }]
          answered := offer :: g.answered }
      else none
  | .resume k => g.tasks[k]?.bind (g.resume k)

end PeerNegotiation

end Rsfu
