import Rsfu.TaskTable
import Mathlib.Logic.Function.Basic

/-! Sessions by id, and the calls of `join` and `remove_peer`. Between its awaits a
join takes the provider, looks the session up or makes it, enters it into its peer
and adds the peer; a `remove_peer` that leaves nobody closes the session. -/
namespace Rsfu

/-- A `SessionLocal`: its `peers` by id, and the call that keeps their lock across awaits. -/
structure RegisteredSession where
  id : String
  peers : List (String × Nat) := []
  relayPeers : List String := []
  closed : Bool := false
  peersLock : Option Nat := none

/-- A `PeerLocal`: its id, and the session it entered last. -/
structure RegisteredPeer where
  id : String := ""
  session : Option Nat := none

/-- The point a call of `join` has reached. -/
inductive JoinPoint where
  | checked
  | named
  | locked
  | missing
  | found (session : Nat)
  | entered (session : Nat)
  | adding (session : Nat) (id : String)
  | added
  | returned
  deriving DecidableEq, Repr

structure JoinCall where
  peer : Nat
  sid : String
  uuid : String
  point : JoinPoint := .checked

/-- The point a call of `remove_peer` has reached. -/
inductive LeavePoint where
  | called
  | closing
  | unregistering
  | returned
  deriving DecidableEq, Repr

structure LeaveCall where
  peer : Nat
  session : Nat
  id : String
  point : LeavePoint := .called

/-- Sessions and calls are named by the order they were made in; `provider` is the call that
holds the provider. `joined` is a record for the statements: who has joined an id and not left. -/
structure SessionRegistry where
  sessions : String → Option Nat := fun _ => none
  created : List RegisteredSession := []
  peers : Nat → RegisteredPeer := fun _ => {}
  joins : List JoinCall := []
  leaves : List LeaveCall := []
  provider : Option Nat := none
  joined : List (Nat × String) := []

namespace RegisteredSession

def insertPeer (s : RegisteredSession) (id : String) (peer : Nat) : RegisteredSession :=
  { s with peers := s.peers.filter (fun entry => entry.1 ≠ id) ++ [(id, peer)] }

def deletePeer (s : RegisteredSession) (id : String) : RegisteredSession :=
  { s with peers := s.peers.filter fun entry => entry.1 ≠ id }

def peerCount (s : RegisteredSession) : Nat := s.peers.length + s.relayPeers.length

end RegisteredSession

namespace SessionRegistry

def setSession (g : SessionRegistry) (i : Nat) (s : RegisteredSession) : SessionRegistry :=
  { g with created := g.created.set i s }

def setPeer (g : SessionRegistry) (p : Nat) (peer : RegisteredPeer) : SessionRegistry :=
  { g with peers := Function.update g.peers p peer }

def setJoin (g : SessionRegistry) (k : Nat) (c : JoinCall) (point : JoinPoint) : SessionRegistry :=
  { g with joins := g.joins.set k { c with point } }

def setLeave (g : SessionRegistry) (k : Nat) (c : LeaveCall) (point : LeavePoint) : SessionRegistry :=
  { g with leaves := g.leaves.set k { c with point } }

/-- `new_session`; nobody sees the session before it is inserted. -/
def newSession (g : SessionRegistry) (sid : String) : SessionRegistry :=
  { g with
    sessions := Function.update g.sessions sid (some g.created.length)
    created := g.created ++ [{ id := sid }] }

/-- `add_peer` inserts under the id it has read. -/
def addPeer (g : SessionRegistry) (i : Nat) (s : RegisteredSession) (id : String) (peer : Nat) (sid : String) :
    SessionRegistry :=
  { g.setSession i (s.insertPeer id peer) with joined := g.joined ++ [(peer, sid)] }

/-- The peer goes and the others are counted; the call that finds none keeps the lock. -/
def removePeer (g : SessionRegistry) (k : Nat) (c : LeaveCall) (s : RegisteredSession) : SessionRegistry :=
  let g := { g with joined := g.joined.filter fun entry => entry ≠ (c.peer, s.id) }
  let left := s.deletePeer c.id
  if left.peerCount = 0 then (g.setSession c.session { left with peersLock := some k }).setLeave k c .closing
  else (g.setSession c.session { left with peersLock := none }).setLeave k c .returned

/-- The close handler removes whatever is registered under the id of the session. -/
def unregister (g : SessionRegistry) (i : Nat) (s : RegisteredSession) : SessionRegistry :=
  { g.setSession i { s with peersLock := none } with sessions := Function.update g.sessions s.id none }

/-- `join` up to its first await; `newV4` is the id made for a client that gives none. -/
def join (g : SessionRegistry) (peer : Nat) (sid uid newV4 : String) : SessionRegistry :=
  match (g.peers peer).session with
  | some _ => g
  | none => { g with joins := g.joins ++ [{ peer, sid, uuid := if uid = "" then newV4 else uid }] }

/-- A join goes on to its next await. -/
def resumeJoin (g : SessionRegistry) (k : Nat) (c : JoinCall) : Option SessionRegistry :=
  match c.point with
  | .checked => some ((g.setPeer c.peer { g.peers c.peer with id := c.uuid }).setJoin k c .named)
  | .named => if g.provider = none then some ({ g with provider := some k }.setJoin k c .locked) else none
  | .locked =>
      match g.sessions c.sid with
      | some i => some (g.setJoin k c (.found i))
      | none => some (g.setJoin k c .missing)
  | .missing => some ((g.newSession c.sid).setJoin k c (.found g.created.length))
  | .found i => some ((g.setPeer c.peer { g.peers c.peer with session := some i }).setJoin k c (.entered i))
  | .entered i => some (g.setJoin k c (.adding i (g.peers c.peer).id))
  | .adding i id =>
      match g.created[i]? with
      | some s => if s.peersLock = none then some ((g.addPeer i s id c.peer c.sid).setJoin k c .added) else none
      | none => none
  | .added => some ({ g with provider := none }.setJoin k c .returned)
  | .returned => none

/-- A join returns an error: no subscriber, data channel or publisher could be made. -/
def failJoin (g : SessionRegistry) (k : Nat) (c : JoinCall) : Option SessionRegistry :=
  match c.point with
  | .entered _ => some ({ g with provider := none }.setJoin k c .returned)
  | _ => none

/-- `remove_peer` on the session of a peer, up to its first await. -/
def leave (g : SessionRegistry) (peer : Nat) : SessionRegistry :=
  match (g.peers peer).session with
  | some session => { g with leaves := g.leaves ++ [{ peer, session, id := (g.peers peer).id }] }
  | none => g

/-- A `remove_peer` goes on to its next await. -/
def resumeLeave (g : SessionRegistry) (k : Nat) (c : LeaveCall) : Option SessionRegistry :=
  match g.created[c.session]? with
  | none => none
  | some s =>
      match c.point with
      | .called => if s.peersLock = none then some (g.removePeer k c s) else none
      | .closing => some ((g.setSession c.session { s with closed := true }).setLeave k c .unregistering)
      | .unregistering => some ((g.unregister c.session s).setLeave k c .returned)
      | .returned => none

/-- The handlers of a relay peer of a session. -/
def relayReady (g : SessionRegistry) (i : Nat) (s : RegisteredSession) (id : String) : SessionRegistry :=
  g.setSession i { s with relayPeers := s.relayPeers.filter (· ≠ id) ++ [id] }

def relayClosed (g : SessionRegistry) (i : Nat) (s : RegisteredSession) (id : String) : SessionRegistry :=
  g.setSession i { s with relayPeers := s.relayPeers.filter (· ≠ id) }

inductive RegistryStep where
  | join (peer : Nat) (sid uid newV4 : String)
  | resumeJoin (call : Nat)
  | failJoin (call : Nat)
  | leave (peer : Nat)
  | resumeLeave (call : Nat)
  | relayReady (session : Nat) (id : String)
  | relayClosed (session : Nat) (id : String)

def step (g : SessionRegistry) : RegistryStep → Option SessionRegistry
  | .join peer sid uid newV4 => some (g.join peer sid uid newV4)
  | .resumeJoin k => g.joins[k]?.bind (g.resumeJoin k)
  | .failJoin k => g.joins[k]?.bind (g.failJoin k)
  | .leave peer => some (g.leave peer)
  | .resumeLeave k => g.leaves[k]?.bind (g.resumeLeave k)
  | .relayReady i id => g.created[i]?.map fun s => g.relayReady i s id
  | .relayClosed i id => g.created[i]?.map fun s => g.relayClosed i s id

end SessionRegistry

end Rsfu
