import Rsfu.Buffer
import Rsfu.Receiver
import Rsfu.TurnQueue

/-! The tasks that ask for a receiver's `buffers`. A forwarding task keeps the lock while it waits
for a packet of its layer and while it writes the packet to the down tracks. The lock is granted
in the order it was asked for. A write that panics ends its task; the runs shown have none. -/
namespace Rsfu
open TurnQueue

/-- A task that forwards a layer, an `add_up_track`, or a call that only looks at the buffers.
`switching` is an `add_up_track` that waits for its own guard of `available`. -/
inductive LayerTask where
  | writeRtp (layer : Fin 3)
  | addUpTrack (layer : Fin 3) (buffer : Nat)
  | switching
  | call
  deriving DecidableEq

structure ForwardedPacket where
  task : Nat
  layer : Fin 3
  buffer : Nat
  pkt : ExtPacket

/-- A receiver whose tasks are named by the order they started in. What arrived, what was
forwarded and what each down track was written are histories. -/
structure LayerTurns where
  isSimulcast : Bool
  tasks : List LayerTask := []
  lock : Turns Nat := {}
  buffers : Fin 3 → Option Nat := fun _ => none
  packets : Nat → List ExtPacket := fun _ => []
  downTracks : Fin 3 → List Nat := fun _ => []
  arrived : Nat → List ExtPacket := fun _ => []
  forwarded : List ForwardedPacket := []
  writes : List (Nat × Fin 3 × ExtPacket) := []

inductive LayerEvent where
  | addUpTrack (layer : Fin 3) (buffer : Nat)
  | call
  | ask (k : Nat)
  | arrive (buffer : Nat) (pkt : ExtPacket)
  | turn
  | storeDownTrack (layer : Fin 3) (t : Nat)
  | deleteDownTrack (layer : Fin 3) (t : Nat)

def LayerTask.addsUpTrack : LayerTask → Bool
  | addUpTrack _ _ => true
  | switching => true
  | _ => false

namespace LayerTurns

/-- An `add_up_track` has `up_tracks` from before it asks for `buffers` to its end. -/
def upTracksLocked (g : LayerTurns) : Bool :=
  g.lock.queue.any fun k => g.tasks[k]?.any LayerTask.addsUpTrack

def request (g : LayerTurns) (task : LayerTask) : LayerTurns :=
  { g with tasks := g.tasks ++ [task], lock := g.lock.ask g.tasks.length }

def release (g : LayerTurns) : LayerTurns := { g with lock := g.lock.release }

/-- `write_rtp` of every down track of the layer, in the order they were stored. -/
def forward (g : LayerTurns) (k : Nat) (layer : Fin 3) (buffer : Nat) (pkt : ExtPacket) : LayerTurns :=
  { g with
    forwarded := g.forwarded ++ [⟨k, layer, buffer, pkt⟩]
    writes := g.writes ++ (g.downTracks layer).map fun t => (t, layer, pkt) }

/-- The task that holds the lock goes on. A forwarding task waits for its packet with the lock
held; nobody closes a buffer, so `read_extended` ends with a packet. -/
def turn (g : LayerTurns) : Option LayerTurns :=
  match g.lock.queue with
  | [] => none
  | k :: _ =>
      match g.tasks[k]? with
      | none => none
      | some .call => some g.release
      | some .switching => none
      | some (.addUpTrack layer buffer) =>
          let g' := { g with buffers := Function.update g.buffers layer (some buffer) }
          if g.isSimulcast then some { g' with tasks := g.tasks.set k .switching }
          -- `add_receiver` starts the forwarding task of the layer
          else some { g'.release with tasks := g.tasks ++ [.writeRtp layer] }
      | some (.writeRtp layer) =>
          match g.buffers layer with
          | none => some g.release
          | some buffer =>
              match g.packets buffer with
              | [] => none
              | pkt :: later => some ({ g with
                  packets := Function.update g.packets buffer later }.forward k layer buffer pkt).release

/-- A forwarding task asks for the lock after it was started and after each packet. -/
def step (g : LayerTurns) : LayerEvent → Option LayerTurns
  | .addUpTrack layer buffer => if g.upTracksLocked then none else some (g.request (.addUpTrack layer buffer))
  | .call => some (g.request .call)
  | .ask k =>
      match g.tasks[k]? with
      | some (.writeRtp _) => if k ∈ g.lock.queue then none else some { g with lock := g.lock.ask k }
      | _ => none
  | .arrive buffer pkt => some { g with
      packets := Function.update g.packets buffer (g.packets buffer ++ [pkt])
      arrived := Function.update g.arrived buffer (g.arrived buffer ++ [pkt]) }
  | .turn => g.turn
  | .storeDownTrack layer t => some { g with
      downTracks := Function.update g.downTracks layer (g.downTracks layer ++ [t]) }
  | .deleteDownTrack layer t => some { g with
      downTracks := Function.update g.downTracks layer ((g.downTracks layer).erase t) }

end LayerTurns

end Rsfu
