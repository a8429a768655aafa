import Rsfu.JoinFailures

/-! Who is offered which stream in a session. A receiver new to its router is offered to
every peer of the session (`publish`), and a peer that joins asks every router for its
receivers (`subscribe`). Both are tasks, and others run between their awaits. -/
namespace Rsfu

/-- A receiver: the peer whose router holds it, and the number it was inserted under. -/
structure MeshReceiver where
  router : Nat
  index : Nat
  deriving DecidableEq, Repr

/-- How far `join` has come since its transports were made. -/
inductive MeshJoin where
  | entering
  | subscribing
  | visiting (rest : List Nat)
  | adding (rest : List Nat) (recs : List MeshReceiver)
  | returned
  deriving DecidableEq, Repr

/-- How far `publish` has come since `add_receiver` inserted its receiver. -/
inductive MeshPublish where
  | received
  | offering (rest : List Nat)
  | negotiating (s : Nat) (rest : List Nat)
  | returned
  deriving DecidableEq, Repr

inductive MeshTask where
  | join (p : Nat) (point : MeshJoin)
  | publish (r : MeshReceiver) (point : MeshPublish)
  deriving DecidableEq, Repr

inductive MeshCaller where
  | subscribe
  | publish
  deriving DecidableEq, Repr

/-- The calls the tasks make: `add_down_track` for a subscriber and a receiver, with its
outcome, and `negotiate` of a subscriber. -/
inductive MeshEvent where
  | addDownTrack (caller : MeshCaller) (s : Nat) (r : MeshReceiver) (ok : Bool)
  | negotiate (s : Nat)
  deriving DecidableEq, Repr

/-- What an await answers: the order in which a map is read, and whether a call succeeds. -/
structure MeshAnswer where
  peers : List Nat := []
  receivers : List MeshReceiver := []
  ok : Bool := true

/-- The tasks of a session, its `peers`, the `receivers` of each router and the calls made;
`adding` are the routers whose `receivers` an `add_receiver` has locked. -/
structure Mesh where
  tasks : List MeshTask := []
  peers : List Nat := []
  receivers : Nat → List MeshReceiver := fun _ => []
  adding : List Nat := []
  log : List MeshEvent := []

def MeshTask.returned : MeshTask → Bool
  | .join _ .returned => true
  | .publish _ .returned => true
  | _ => false

/-- What a task was started for. -/
inductive MeshSubject where
  | peer (p : Nat)
  | receiver (r : MeshReceiver)
  deriving DecidableEq, Repr

def MeshTask.subject : MeshTask → MeshSubject
  | .join p _ => .peer p
  | .publish r _ => .receiver r

/-- `subscribe` keeps its guard of `peers` from the loop over them to its end. -/
def MeshTask.holdsPeers : MeshTask → Bool
  | .join _ (.visiting _) => true
  | .join _ (.adding _ _) => true
  | _ => false

/-- `join` keeps its guard of the provider, which all peers share, to its end. -/
def MeshTask.holdsProvider : MeshTask → Bool
  | .join _ .returned => false
  | .join _ _ => true
  | .publish _ _ => false

namespace Mesh
variable (configs : Nat → JoinConfig)

def subjects (g : Mesh) : List MeshSubject := g.tasks.map MeshTask.subject

def peersLocked (g : Mesh) : Bool := g.tasks.any MeshTask.holdsPeers

def providerLocked (g : Mesh) : Bool := g.tasks.any MeshTask.holdsProvider

def note (g : Mesh) (e : MeshEvent) : Mesh := { g with log := g.log ++ [e] }

/-- `add_down_tracks` answers at once for a peer without a subscriber or with one that waits to be asked. -/
def takesAll (p : Nat) : Bool := !(configs p).noSubscribe && !(configs p).noAutoSubscribe

/-- `join` goes on to its next await: `add_peer`, and then `subscribe` unless the peer takes nothing. -/
def resumeJoin (g : Mesh) (p : Nat) (a : MeshAnswer) : MeshJoin → Option (Mesh × MeshJoin)
  | .entering =>
      if g.peersLocked then none
      else some ({ g with peers := g.peers.insert p }, if (configs p).noSubscribe then .returned else .subscribing)
  | .subscribing => if !g.peersLocked && a.peers.isPerm g.peers then some (g, .visiting a.peers) else none
  | .visiting [] => some (g.note (.negotiate p), .returned)
  | .visiting (q :: rest) =>
      if q = p ∨ (configs q).noPublish ∨ (configs p).noAutoSubscribe then some (g, .visiting rest)
      else if q ∈ g.adding then none
      else if a.receivers.isPerm (g.receivers q) then
        some (g, if a.receivers.isEmpty then .visiting rest else .adding rest a.receivers)
      else none
  | .adding rest [] => some (g.note (.negotiate p), .visiting rest)
  | .adding rest (r :: recs) =>
      -- a failed call leaves the router's other receivers out
      some (g.note (.addDownTrack .subscribe p r a.ok), if a.ok then .adding rest recs else .visiting rest)
  | .returned => none

/-- `publish` goes on to its next await. -/
def resumePublish (g : Mesh) (r : MeshReceiver) (a : MeshAnswer) : MeshPublish → Option (Mesh × MeshPublish)
  | .received => if !g.peersLocked && a.peers.isPerm g.peers then some (g, .offering a.peers) else none
  | .offering [] => some (g, .returned)
  | .offering (s :: rest) =>
      if s = r.router ∨ !takesAll configs s then some (g, .offering rest)
      else some (g.note (.addDownTrack .publish s r a.ok), if a.ok then .negotiating s rest else .offering rest)
  | .negotiating s rest => some (g.note (.negotiate s), .offering rest)
  | .returned => none

def resumeTask (g : Mesh) (a : MeshAnswer) : MeshTask → Option (Mesh × MeshTask)
  | .join p point => (resumeJoin configs g p a point).map fun (g', point') => (g', .join p point')
  | .publish r point => (resumePublish configs g r a point).map fun (g', point') => (g', .publish r point')

def resume (g : Mesh) (k : Nat) (a : MeshAnswer) : Option Mesh :=
  (g.tasks[k]?).bind fun task => (resumeTask configs g a task).map fun (g', task') =>
    { g' with tasks := g.tasks.set k task' }

end Mesh

/-- Tasks start and go on, peers leave (`remove_peer`) and receivers close (`delete_receiver`).
`add_receiver` takes its router's `receivers`, and lets go of them with a receiver to publish or
one that was there before; for a simulcast track it never does. -/
inductive MeshStep where
  | join (p : Nat)
  | add (q : Nat)
  | found (q : Nat)
  | publish (r : MeshReceiver)
  | resume (k : Nat) (a : MeshAnswer)
  | leave (p : Nat)
  | close (r : MeshReceiver)

namespace Mesh
variable (configs : Nat → JoinConfig)

/-- A peer joins once, a later `join` finds its session set. The server answers the offer of a
peer only after its `join`, so no track of the peer arrives before. A receiver is inserted while
`add_receiver` has the list: nobody sees it before its end. -/
def step (g : Mesh) : MeshStep → Option Mesh
  | .join p =>
      if g.providerLocked ∨ MeshSubject.peer p ∈ g.subjects then none
      else some { g with tasks := g.tasks ++ [.join p .entering] }
  | .add q => if q ∈ g.adding then none else some { g with adding := q :: g.adding }
  | .found q => if q ∈ g.adding then some { g with adding := g.adding.erase q } else none
  | .publish r =>
      if MeshTask.join r.router .returned ∈ g.tasks ∧ (configs r.router).noPublish = false ∧
          MeshSubject.receiver r ∉ g.subjects ∧ r.router ∈ g.adding then
        some { g with
          tasks := g.tasks ++ [.publish r .received]
          receivers := Function.update g.receivers r.router (g.receivers r.router ++ [r])
          adding := g.adding.erase r.router }
      else none
  | .resume k a => g.resume configs k a
  | .leave p => if g.peersLocked then none else some { g with peers := g.peers.erase p }
  | .close r =>
      if r.router ∈ g.adding then none
      else some { g with
        receivers := Function.update g.receivers r.router ((g.receivers r.router).erase r) }

end Mesh

end Rsfu
