import Mathlib.Algebra.GroupWithZero.Nat
import Mathlib.Data.Fintype.Basic
import Mathlib.Logic.Function.Basic

/-! The layers of a simulcast receiver. Each layer has a list of down tracks, a list
of tracks that wait for its next key frame, and a task that forwards its packets.
Down tracks are named by the order they were added in; `none` is a panic or a step
that is not ready. -/
namespace Rsfu

/-- There are three layers, so each layer has its numeral. -/
instance threeLayers : NeZero 3 := ⟨Nat.succ_ne_zero 2⟩

/-- The layer fields of a down track. `removed` marks a track deleted after its own
write error; the code does not keep it. -/
structure LayerTrack where
  currentSpatialLayer : Fin 3
  targetSpatialLayer : Fin 3
  maxSpatialLayer : Fin 3 := 2
  closed : Bool := false
  removed : Bool := false
  deriving DecidableEq, Repr

/-- A receiver, and where the task of each layer stands: the switches it has still to
complete, and the tracks it has still to delete after write errors. -/
structure SimulcastReceiver where
  trackId : String
  tracks : List LayerTrack := []
  available : Fin 3 → Bool := fun _ => false
  downTracks : Fin 3 → List Nat := fun _ => []
  pending : Fin 3 → Bool := fun _ => false
  pendingTracks : Fin 3 → List Nat := fun _ => []
  switching : Fin 3 → List (Fin 3 × Nat) := fun _ => []
  failed : Fin 3 → List Nat := fun _ => []

namespace SimulcastReceiver

/-- `DownTrackInternal::new` takes the id of every down track from its receiver. -/
def id (g : SimulcastReceiver) (_ : Nat) : String := g.trackId

def modifyTrack (g : SimulcastReceiver) (t : Nat) (f : LayerTrack → LayerTrack) : SimulcastReceiver :=
  { g with tracks := g.tracks.modify t f }

def close (g : SimulcastReceiver) (t : Nat) : SimulcastReceiver :=
  g.modifyTrack t fun track => { track with closed := true }

def setLayer (g : SimulcastReceiver) (layer : Fin 3) (downTracks : List Nat) : SimulcastReceiver :=
  { g with downTracks := Function.update g.downTracks layer downTracks }

def storeDownTrack (g : SimulcastReceiver) (layer : Fin 3) (t : Nat) : SimulcastReceiver :=
  g.setLayer layer (g.downTracks layer ++ [t])

/-- `add_down_track` with the layer it picked. -/
def addDownTrack (g : SimulcastReceiver) (layer : Fin 3) : SimulcastReceiver :=
  let track : LayerTrack := { currentSpatialLayer := layer, targetSpatialLayer := layer }
  let stored := g.storeDownTrack layer g.tracks.length
  { stored with tracks := g.tracks ++ [track] }

/-- `delete_down_track`: the first track of the id is closed and removed; without one,
`remove` is called past the end and panics. -/
def deleteDownTrack (g : SimulcastReceiver) (layer : Fin 3) (id : String) : Option SimulcastReceiver :=
  let idx := (g.downTracks layer).findIdx fun dt => g.id dt = id
  (g.downTracks layer)[idx]?.map fun dt => (g.close dt).setLayer layer ((g.downTracks layer).eraseIdx idx)

inductive SwitchError where
  | busy
  | noReceiverFound
  deriving DecidableEq, Repr

/-- `switch_down_track` queues the track for an available layer and answers an error. -/
def switchDownTrack (g : SimulcastReceiver) (t : Nat) (layer : Fin 3) : SimulcastReceiver × Except SwitchError Unit :=
  let g := if g.available layer then
      { g with
        pending := Function.update g.pending layer true
        pendingTracks := Function.update g.pendingTracks layer (g.pendingTracks layer ++ [t]) }
    else g
  (g, .error .noReceiverFound)

/-- The index of a layer into an array of three. -/
def layer? (target : Int) : Option (Fin 3) :=
  if h : 0 ≤ target ∧ target < 3 then some ⟨target.toNat, by omega⟩ else none

/-- `switch_spatial_layer` of a simulcast track; an error of the receiver is logged. -/
def switchSpatialLayer (g : SimulcastReceiver) (t : Nat) (target : Int) (setAsMax : Bool) :
    Option (SimulcastReceiver × Except SwitchError Unit) :=
  g.tracks[t]?.bind fun track =>
    if track.currentSpatialLayer ≠ track.targetSpatialLayer ∨ (track.currentSpatialLayer : Int) = target then
      some (g, .error .busy)
    else
      (layer? target).map fun layer =>
        match g.switchDownTrack t layer with
        | (g, .ok _) =>
            (g.modifyTrack t fun track =>
              { track with
                targetSpatialLayer := layer
                maxSpatialLayer := if setAsMax then layer else track.maxSpatialLayer }, .ok ())
        | (g, .error _) => (g, .ok ())

def switchSpatialLayerDone (g : SimulcastReceiver) (t : Nat) (layer : Fin 3) : SimulcastReceiver :=
  g.modifyTrack t fun track => { track with currentSpatialLayer := layer }

/-- The queue is cleared when no switch of its copy is left. -/
def clearPending (g : SimulcastReceiver) (layer : Fin 3) : SimulcastReceiver :=
  if g.switching layer = [] then
    { g with
      pending := Function.update g.pending layer false
      pendingTracks := Function.update g.pendingTracks layer [] }
  else g

def setSwitching (g : SimulcastReceiver) (layer : Fin 3) (switches : List (Fin 3 × Nat)) : SimulcastReceiver :=
  { g with switching := Function.update g.switching layer switches }

/-- A key frame on a layer with pending tracks: the loop works on a copy of the queue. -/
def keyFrame (g : SimulcastReceiver) (layer : Fin 3) : Option SimulcastReceiver :=
  if g.pending layer ∧ g.switching layer = [] ∧ g.failed layer = [] then
    let switches := (g.pendingTracks layer).filterMap fun t =>
      g.tracks[t]?.map fun track => (track.currentSpatialLayer, t)
    some ((g.setSwitching layer switches).clearPending layer)
  else none

/-- One round of the loop over the copied queue. -/
def completeSwitch (g : SimulcastReceiver) (layer : Fin 3) : Option SimulcastReceiver :=
  match g.switching layer with
  | [] => none
  | (current, t) :: rest =>
      (g.deleteDownTrack current (g.id t)).map fun g =>
        (((g.storeDownTrack layer t).switchSpatialLayerDone t layer).setSwitching layer rest).clearPending layer

def setFailed (g : SimulcastReceiver) (layer : Fin 3) (tracks : List Nat) : SimulcastReceiver :=
  { g with failed := Function.update g.failed layer tracks }

/-- A packet of the layer: the tracks whose write fails for good are noted. -/
def writeErrors (g : SimulcastReceiver) (layer : Fin 3) (fails : Nat → Bool) : Option SimulcastReceiver :=
  if g.switching layer = [] ∧ g.failed layer = [] then
    some (g.setFailed layer ((g.downTracks layer).filter fails))
  else none

/-- One round of the loop that deletes the noted tracks. -/
def removeFailed (g : SimulcastReceiver) (layer : Fin 3) : Option SimulcastReceiver :=
  match g.failed layer with
  | [] => none
  | t :: rest =>
      (g.deleteDownTrack layer (g.id t)).map fun g =>
        (g.setFailed layer rest).modifyTrack t fun track => { track with removed := true }

/-- The receiver answers only errors, so a request that is not refused just queues. -/
theorem switchSpatialLayer_eq (g : SimulcastReceiver) (t : Nat) (target : Int) (setAsMax : Bool) :
    g.switchSpatialLayer t target setAsMax = g.tracks[t]?.bind fun track =>
      if track.currentSpatialLayer ≠ track.targetSpatialLayer ∨ (track.currentSpatialLayer : Int) = target then
        some (g, .error .busy)
      else (layer? target).map fun layer => ((g.switchDownTrack t layer).1, .ok ()) := rfl

/-- Down tracks are added and asked to switch, layers become available, and the task of
each layer goes on by one round. -/
inductive LayerStep where
  | addDownTrack (layer : Fin 3)
  | available (layers : Fin 3 → Bool)
  | switchSpatialLayer (t : Nat) (target : Int) (setAsMax : Bool)
  | keyFrame (layer : Fin 3)
  | completeSwitch (layer : Fin 3)
  | writeErrors (layer : Fin 3) (fails : Nat → Bool)
  | removeFailed (layer : Fin 3)

def step (g : SimulcastReceiver) : LayerStep → Option SimulcastReceiver
  | .addDownTrack layer => some (g.addDownTrack layer)
  | .available layers => some { g with available := layers }
  | .switchSpatialLayer t target setAsMax =>
      some (((g.switchSpatialLayer t target setAsMax).map Prod.fst).getD g)
  | .keyFrame layer => g.keyFrame layer
  | .completeSwitch layer => g.completeSwitch layer
  | .writeErrors layer fails => g.writeErrors layer fails
  | .removeFailed layer => g.removeFailed layer

end SimulcastReceiver

end Rsfu
