import Rsfu.GuardedRun
import Rsfu.NackQueue
import Rsfu.TrackRuns

/-! RTCP from the subscriber of a down track. A successful `bind` installs a
handler on the RTCP reader of its ssrc. The handler is a closure: what it knows of
the track, other than the sequencer, is what the track held at that bind. -/
namespace Rsfu
open GuardedRun

structure FirEntry where
  ssrc : UInt32
  sequenceNumber : UInt8
  deriving DecidableEq, Repr

/-- The packets of a compound as far as `handle_rtcp` tells them apart; a bitrate is
its value as `u64`, and a receiver report the losses of its reports. -/
inductive RtcpPacket where
  | pictureLossIndication (senderSsrc mediaSsrc : UInt32)
  | fullIntraRequest (senderSsrc mediaSsrc : UInt32) (fir : List FirEntry)
  | receiverEstimatedMaximumBitrate (bitrate : UInt64)
  | receiverReport (fractionLost : List UInt8)
  | transportLayerNack (nacks : List NackPair)
  | other
  deriving DecidableEq, Repr

def RtcpPacket.isPli : RtcpPacket → Bool
  | .pictureLossIndication _ _ => true
  | _ => false

def RtcpPacket.isFir : RtcpPacket → Bool
  | .fullIntraRequest _ _ _ => true
  | _ => false

/-- The locals of `handle_rtcp`, with the sequencer it locks and the times it read the clock. -/
structure FeedbackScan where
  sequencer : Sequencer
  clockReads : Nat := 0
  fwdPkts : List RtcpPacket := []
  pliOnce : Bool := true
  firOnce : Bool := true
  maxRatePacketLoss : UInt8 := 0
  expectedMinBitrate : UInt64 := 0

namespace FeedbackScan

/-- One pair of a NACK; the entries found are collected and go nowhere. -/
def answer (now : Nat → Nat) (scan : FeedbackScan) (pair : NackPair) : Option FeedbackScan :=
  (scan.sequencer.getSeqNoPairs (now scan.clockReads) pair.packetList).map fun found =>
    { scan with sequencer := found.1, clockReads := scan.clockReads + 1 }

def noteLoss (scan : FeedbackScan) (fractionLost : UInt8) : FeedbackScan :=
  if scan.maxRatePacketLoss = 0 ∨ scan.maxRatePacketLoss < fractionLost then
    { scan with maxRatePacketLoss := fractionLost }
  else scan

/-- One turn of the loop over the packets. -/
def take (lastSsrc ssrc : UInt32) (now : Nat → Nat) (scan : FeedbackScan) : RtcpPacket → Option FeedbackScan
  | .pictureLossIndication _ _ =>
      if scan.pliOnce then
        some { scan with fwdPkts := scan.fwdPkts ++ [.pictureLossIndication ssrc lastSsrc], pliOnce := false }
      else some scan
  | .fullIntraRequest _ _ fir =>
      if scan.firOnce then
        some { scan with fwdPkts := scan.fwdPkts ++ [.fullIntraRequest ssrc lastSsrc fir], firOnce := false }
      else some scan
  | .receiverEstimatedMaximumBitrate bitrate =>
      if scan.expectedMinBitrate = 0 ∨ bitrate < scan.expectedMinBitrate then
        some { scan with expectedMinBitrate := bitrate }
      else some scan
  | .receiverReport fractionLost => some (fractionLost.foldl noteLoss scan)
  | .transportLayerNack nacks => run (answer now) scan nacks
  | .other => some scan

end FeedbackScan

/-- `handle_rtcp` on the packets that `unmarshal` found in the data, if it did: the
sequencer, and what is handed to `send_rtcp`. A NACK that hits an empty slot panics. -/
def handleRtcp (enabled : Bool) (compound : Option (List RtcpPacket)) (lastSsrc ssrc : UInt32) (now : Nat → Nat)
    (sequencer : Sequencer) : Option (Sequencer × List RtcpPacket) :=
  if enabled = false then some (sequencer, [])
  else
    match compound with
    | none => some (sequencer, [])
    | some pkts =>
        if lastSsrc = 0 then some (sequencer, [])
        else (run (FeedbackScan.take lastSsrc ssrc now) { sequencer } pkts).map fun scan =>
          (scan.sequencer, scan.fwdPkts)

/-- What a handler has captured. -/
structure FeedbackHandler where
  enabled : Bool
  lastSsrc : UInt32
  ssrc : UInt32

/-- A down track with the handlers of its RTCP readers; `forwarded` once a media packet
has gone to the write stream. `atBind` is a record that the code does not keep: the track as
it was when the bind began that gave a reader its handler. -/
structure FeedbackTrack where
  track : DownTrack
  handlers : UInt32 → Option FeedbackHandler := fun _ => none
  forwarded : Bool := false
  atBind : UInt32 → Option DownTrack := fun _ => none

inductive FeedbackOp (ε : Type) where
  | track (op : TrackOp ε)
  | rtcp (reader : UInt32) (compound : Option (List RtcpPacket)) (now : Nat → Nat)

namespace FeedbackTrack
variable {ε : Type}

/-- `bind` installs the handler after it has set the track up. -/
def install (g : FeedbackTrack) : TrackOp ε → UInt32 → Option FeedbackHandler
  | .bind t now =>
      match g.track.bind t now with
      | (d, some _) => Function.update g.handlers t.ssrc (some ⟨d.enabled, d.lastSsrc, d.ssrc⟩)
      | (_, none) => g.handlers
  | _ => g.handlers

def recordBind (g : FeedbackTrack) : TrackOp ε → UInt32 → Option DownTrack
  | .bind t _ =>
      match codecParametersFuzzySearch g.track.codec t.codecParameters with
      | some _ => Function.update g.atBind t.ssrc (some g.track)
      | none => g.atBind
  | _ => g.atBind

/-- The handler of a reader runs on a compound; a reader without one takes no notice. -/
def handle (g : FeedbackTrack) (reader : UInt32) (compound : Option (List RtcpPacket)) (now : Nat → Nat) :
    Option (Sequencer × List RtcpPacket) :=
  match g.handlers reader with
  | some h => handleRtcp h.enabled compound h.lastSsrc h.ssrc now g.track.sequencer
  | none => some (g.track.sequencer, [])

/-- What goes upstream; a panic comes before anything is sent. -/
def upstream (g : FeedbackTrack) (reader : UInt32) (compound : Option (List RtcpPacket)) (now : Nat → Nat) :
    List RtcpPacket :=
  match g.handle reader compound now with
  | some handled => handled.2
  | none => []

def step (g : FeedbackTrack) : FeedbackOp ε → Option FeedbackTrack
  | .track op => (g.track.apply op).map fun outcome =>
      { track := outcome.1
        handlers := g.install op
        forwarded := g.forwarded || outcome.2.any Sent.isRtp
        atBind := g.recordBind op }
  | .rtcp reader compound now => (g.handle reader compound now).map fun handled =>
      { g with track := { g.track with sequencer := handled.1 } }

end FeedbackTrack

end Rsfu
