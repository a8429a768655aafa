import Rsfu.SerialNumber
import Rsfu.SortedSlice

/-! The queue of missing sequence numbers and its packing into NACK pairs. -/
namespace Rsfu

def maxNackTimes : UInt8 := 3

structure Nack where
  seqNumber : UInt32
  nackd : UInt8
  deriving DecidableEq, Repr

/-- One entry of a generic NACK message: a first lost number and a bitmap of the
sixteen numbers that follow it. -/
structure NackPair where
  packetId : UInt16
  lostPackets : UInt16
  deriving DecidableEq, Repr

/-- The lost numbers a pair stands for. -/
def NackPair.packetList (np : NackPair) : List UInt16 :=
  np.packetId :: ((List.range 16).filter fun i => np.lostPackets.toNat.testBit i).map
    fun i => np.packetId + 1 + UInt16.ofNat i

structure NackQueue where
  nacks : List Nack := []
  keyFrameSeqNumber : UInt32 := 0
  deriving DecidableEq, Repr

namespace NackQueue

def push (q : NackQueue) (sn : UInt32) : NackQueue :=
  match SortedSlice.binarySearchByKey q.nacks sn Nack.seqNumber with
  | .ok _ => q
  | .error index => { q with nacks := q.nacks.insertIdx index ⟨sn, 0⟩ }

def remove (q : NackQueue) (sn : UInt32) : NackQueue × Option Nack :=
  match SortedSlice.binarySearchByKey q.nacks sn Nack.seqNumber with
  | .ok index => ({ q with nacks := q.nacks.eraseIdx index }, q.nacks[index]?)
  | .error _ => (q, none)

/-- The locals of `pairs` while it walks the queue. -/
structure Packing where
  np : NackPair := ⟨0, 0⟩
  nps : List NackPair := []
  askKeyFrame : Bool := false
  keyFrameSeqNumber : UInt32

/-- The base-and-bitmap arithmetic of one selected number. -/
def Packing.add (p : Packing) (seqNumber : UInt32) : Packing :=
  let low := seqNumber.toUInt16
  if p.np.packetId = 0 ∨ low > p.np.packetId + 16 then
    let nps := if p.np.packetId ≠ 0 then p.nps ++ [p.np] else p.nps
    { p with nps, np := ⟨low, 0⟩ }
  else
    -- a shift amount counts modulo the sixteen bits of its operand
    { p with np := { p.np with
      lostPackets := p.np.lostPackets ||| ((1 : UInt16) <<< (low - p.np.packetId - 1)) } }

/-- The loop of `pairs`: the entries that stay, and the locals at the end. -/
def pairsLoop (headSeqNumber : UInt32) : List Nack → Packing → List Nack × Packing
  | [], p => ([], p)
  | v :: rest, p =>
      if maxNackTimes ≤ v.nackd then
        let p := if p.keyFrameSeqNumber < v.seqNumber then
          { p with keyFrameSeqNumber := v.seqNumber, askKeyFrame := true } else p
        pairsLoop headSeqNumber rest p
      else if headSeqNumber - 2 ≤ v.seqNumber then
        let (kept, p) := pairsLoop headSeqNumber rest p
        (v :: kept, p)
      else
        let (kept, p) := pairsLoop headSeqNumber rest (p.add v.seqNumber)
        ({ v with nackd := v.nackd + 1 } :: kept, p)

def pairs (q : NackQueue) (headSeqNumber : UInt32) : NackQueue × Option (List NackPair) × Bool :=
  if q.nacks.isEmpty then (q, none, false)
  else
    let (kept, p) := pairsLoop headSeqNumber q.nacks { keyFrameSeqNumber := q.keyFrameSeqNumber }
    let nps := if p.np.packetId ≠ 0 then p.nps ++ [p.np] else p.nps
    ({ nacks := kept, keyFrameSeqNumber := p.keyFrameSeqNumber }, some nps, p.askKeyFrame)

end NackQueue

end Rsfu
