import Rsfu.Buffer
import Rsfu.TrackRuns

/-! The way of a packet through a receiver with one layer, from the bytes handed to its bound
buffer to the write streams of its down tracks. -/
namespace Rsfu

/-- Down tracks are named by the order they were made in; `downTracks` is the list of the layer.
A round of `write_rtp` has still to write what is in `left`. The bytes the buffer took in, the
packets the rounds took from it and those on the write streams are histories. -/
structure MediaPath where
  buffer : Buffer
  tracks : List DownTrack := []
  downTracks : List Nat := []
  left : List (Nat × ExtPacket) := []
  accepted : List Bytes := []
  forwarded : List ExtPacket := []
  out : List (Nat × Packet) := []

inductive MediaEvent where
  | write (pkt : Bytes) (arrivalTime : Int)
  | readExtended
  | writeRtp
  | newDownTrack (d : DownTrack)
  | storeDownTrack (k : Nat)
  | deleteDownTrack (k : Nat)
  | track (k : Nat) (op : TrackOp Unit)

def Sent.toRtp : Sent → Option Packet
  | .rtp packet => some packet
  | .pictureLossIndication _ _ => none

namespace MediaPath
variable (crates : RtpCrates)

/-- The answers of the channel and of the write stream are nothing to the track. -/
def writeTrack (g : MediaPath) (k : Nat) (pkt : ExtPacket) : Option MediaPath :=
  g.tracks[k]?.bind fun d => (d.writeRtp (ε := Unit) {} pkt 0).map fun w => {
    g with
    tracks := g.tracks.set k w.track
    out := g.out ++ (w.sent.filterMap Sent.toRtp).map fun packet => (k, packet) }

/-- A round keeps the lock of the list, so tracks are stored and deleted between rounds. Other
operations of a track come between its writes. -/
def step (g : MediaPath) : MediaEvent → Option MediaPath
  | .write pkt arrivalTime => (g.buffer.calc crates pkt arrivalTime).map fun c => {
      g with
      buffer := c.buffer
      accepted := g.accepted ++ if c.exit = .complete then [pkt] else [] }
  | .readExtended =>
      match g.left, g.buffer.extPackets with
      | [], pkt :: later => some {
          g with
          buffer := { g.buffer with extPackets := later }
          left := g.downTracks.map fun k => (k, pkt)
          forwarded := g.forwarded ++ [pkt] }
      | _, _ => none
  | .writeRtp =>
      match g.left with
      | [] => none
      | (k, pkt) :: rest => { g with left := rest }.writeTrack k pkt
  | .newDownTrack d => some { g with tracks := g.tracks ++ [d] }
  | .storeDownTrack k => if g.left = [] then some { g with downTracks := g.downTracks ++ [k] } else none
  | .deleteDownTrack k => if g.left = [] then some { g with downTracks := g.downTracks.erase k } else none
  | .track _ (.writeRtp _ _ _) => none
  | .track k op => g.tracks[k]?.bind fun d => (d.apply op).map fun (d', _) => { g with tracks := g.tracks.set k d' }

/-- What went to the write stream of a track. -/
def outOf (g : MediaPath) (k : Nat) : List Packet := (g.out.filter fun one => one.1 = k).map Prod.snd

/-- What the round that goes on has still to write to a track. -/
def pending (g : MediaPath) (k : Nat) : List ExtPacket := (g.left.filter fun one => one.1 = k).map Prod.snd

end MediaPath

end Rsfu
