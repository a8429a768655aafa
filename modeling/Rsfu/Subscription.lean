import Rsfu.Receiver
import Rsfu.TaskTable

/-! Calls of `add_down_track` of a router. Between its awaits a call looks the
down track up in the subscriber, adds a transceiver, stores the down track in the
subscriber, looks it up in a layer of the receiver and stores it there. -/
namespace Rsfu

/-- What the calls read of a receiver: the ids of its track, and the layer rule. -/
structure StreamReceiver where
  streamId : String
  trackId : String
  isSimulcast : Bool := false
  bestQualityFirst : Bool := false

/-- A down track: the call that made it and the pair it was made for. -/
structure DownTrackRef where
  call : Nat
  subscriber : Nat
  receiver : Nat
  deriving DecidableEq, Repr

/-- The point a call has reached. -/
inductive AddPoint where
  | started
  | missing
  | created
  | stored
  | admitted (layer : Fin 3)
  | returned (existing : Option DownTrackRef)
  deriving DecidableEq, Repr

structure AddCall where
  subscriber : Nat
  receiver : Nat
  point : AddPoint := .started

/-- The receivers and the ids of the subscribers, which do not change. -/
structure Parties where
  receivers : Nat → StreamReceiver
  subscriberIds : Nat → String

/-- The `tracks` and transceivers of each subscriber, and the layers of each receiver. -/
structure Subscriptions where
  calls : List AddCall := []
  tracks : Nat → String → Option (List DownTrackRef) := fun _ _ => none
  transceivers : Nat → List DownTrackRef := fun _ => []
  downTracks : Nat → Fin 3 → List DownTrackRef := fun _ _ => []
  available : Nat → Fin 3 → Bool := fun _ _ => false

namespace Subscriptions
variable (parties : Parties)

/-- `id` of a down track is the track id of its receiver. -/
def trackId (d : DownTrackRef) : String := (parties.receivers d.receiver).trackId

/-- `==` of two down tracks compares peer, stream and id. -/
def sameDownTrack (d e : DownTrackRef) : Bool :=
  parties.subscriberIds d.subscriber = parties.subscriberIds e.subscriber ∧
    (parties.receivers d.receiver).streamId = (parties.receivers e.receiver).streamId ∧
    trackId parties d = trackId parties e

/-- The lookup in the subscriber's down tracks of the stream. -/
def getDowntrack (g : Subscriptions) (s r : Nat) : Option DownTrackRef :=
  ((g.tracks s (parties.receivers r).streamId).getD []).find? fun d =>
    trackId parties d = (parties.receivers r).trackId

def addTransceiver (g : Subscriptions) (d : DownTrackRef) : Subscriptions :=
  { g with transceivers := Function.update g.transceivers d.subscriber (g.transceivers d.subscriber ++ [d]) }

/-- `add_down_track` of the subscriber: a stream seen first gets an empty list. -/
def addDownTrack (g : Subscriptions) (d : DownTrackRef) : Subscriptions :=
  let streamId := (parties.receivers d.receiver).streamId
  let downTracks : List DownTrackRef := match g.tracks d.subscriber streamId with
    | some downTracks => downTracks ++ [d]
    | none => []
  let tracks := Function.update (g.tracks d.subscriber) streamId (some downTracks)
  { g with tracks := Function.update g.tracks d.subscriber tracks }

/-- The layer `add_down_track` of the receiver picks. -/
def pickLayer (g : Subscriptions) (r : Nat) : Fin 3 :=
  if (parties.receivers r).isSimulcast then
    let layers := [0, 1, 2].filter (g.available r)
    if (parties.receivers r).bestQualityFirst then layers.getLastD 0 else layers.headD 0
  else 0

def downTrackSubscribed (g : Subscriptions) (layer : Fin 3) (d : DownTrackRef) : Bool :=
  (g.downTracks d.receiver layer).any fun e => sameDownTrack parties e d

def storeDownTrack (g : Subscriptions) (layer : Fin 3) (d : DownTrackRef) : Subscriptions :=
  let layers := Function.update (g.downTracks d.receiver) layer (g.downTracks d.receiver layer ++ [d])
  { g with downTracks := Function.update g.downTracks d.receiver layers }

def setPoint (g : Subscriptions) (k : Nat) (c : AddCall) (point : AddPoint) : Subscriptions :=
  { g with calls := g.calls.set k { c with point } }

/-- A call goes on to its next await. -/
def resume (g : Subscriptions) (k : Nat) (c : AddCall) : Option Subscriptions :=
  let d : DownTrackRef := ⟨k, c.subscriber, c.receiver⟩
  match c.point with
  | .started =>
      match g.getDowntrack parties c.subscriber c.receiver with
      | some existing => some (g.setPoint k c (.returned (some existing)))
      | none => some (g.setPoint k c .missing)
  | .missing => some ((g.addTransceiver d).setPoint k c .created)
  | .created => some ((g.addDownTrack parties d).setPoint k c .stored)
  | .stored =>
      let layer := g.pickLayer parties c.receiver
      if g.downTrackSubscribed parties layer d then some (g.setPoint k c (.returned none))
      else some (g.setPoint k c (.admitted layer))
  | .admitted layer => some ((g.storeDownTrack layer d).setPoint k c (.returned none))
  | .returned _ => none

end Subscriptions

end Rsfu
