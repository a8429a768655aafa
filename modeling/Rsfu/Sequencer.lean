import Rsfu.RingSlots
import Rsfu.SerialNumber
import Mathlib.Logic.Function.Basic

/-! The per-track memory of forwarded packets: a ring of metadata entries that
NACKs from a subscriber are answered from. -/
namespace Rsfu
open RingSlots

def ignoreRetransmission : Nat := 100

structure PacketMeta where
  sourceSeqNo : UInt16
  targetSeqNo : UInt16
  timestamp : UInt32
  lastNack : Nat := 0
  layer : UInt8
  misc : UInt32 := 0
  deriving DecidableEq, Repr

/-- The hash map is its lookup function; `step` indexes the next write. -/
structure Sequencer where
  init : Bool := false
  max : Int
  seq : Int → Option PacketMeta := fun _ => none
  step : Nat := 0
  headSn : UInt16 := 0
  startTime : Nat

/-- Subtraction on `u128` clock readings in milliseconds. -/
def subU128 (a b : Nat) : Nat := (a + 2 ^ 128 - b) % 2 ^ 128

namespace Sequencer

def new (maxTrack : Int) (startTime : Nat) : Sequencer where
  max := maxTrack
  startTime := startTime

def store (s : Sequencer) (entry : PacketMeta) : Sequencer × Option PacketMeta :=
  let seq := Function.update s.seq s.step (some entry)
  let step := bump s.max s.step
  ({ s with seq, step }, seq step)

def push (s : Sequencer) (sn offSn : UInt16) (timestamp : UInt32) (layer : UInt8) (head : Bool) :
    Sequencer × Option PacketMeta :=
  let s := if s.init then s else { s with headSn := offSn, init := true }
  let entry : PacketMeta := { sourceSeqNo := sn, targetSeqNo := offSn, timestamp, layer }
  if head then
    let inc := offSn - s.headSn
    -- the loop over 1..inc
    store { s with step := (bump s.max)^[inc.toNat - 1] s.step, headSn := offSn } entry
  else
    let step : Int := s.step - (s.headSn - offSn).toNat
    if step < 0 ∧ s.max ≤ -step then (s, none) else s.store entry

/-- One turn of the lookup loop; `unwrap` on an empty slot panics. -/
def lookup (s : Sequencer) (refTime : Nat) (sn : UInt16) : Option (Sequencer × List PacketMeta) :=
  let step : Int := s.step - (s.headSn - sn).toNat - 1
  if step < 0 ∧ s.max ≤ -step then some (s, [])
  else do
    let step := if step < 0 then step + s.max else step
    let entry ← s.seq step
    if entry.targetSeqNo = sn ∧
        (entry.lastNack = 0 ∨ ignoreRetransmission < subU128 refTime entry.lastNack) then
      let entry := { entry with lastNack := refTime }
      return ({ s with seq := Function.update s.seq step (some entry) }, [entry])
    else return (s, [])

def lookupAll (s : Sequencer) (refTime : Nat) : List UInt16 → Option (Sequencer × List PacketMeta)
  | [] => some (s, [])
  | sn :: rest => do
      let (s, found) ← s.lookup refTime sn
      let (s, more) ← s.lookupAll refTime rest
      return (s, found ++ more)

def getSeqNoPairs (s : Sequencer) (now : Nat) (seqNos : List UInt16) :
    Option (Sequencer × List PacketMeta) :=
  s.lookupAll (subU128 now s.startTime) seqNos

end Sequencer

end Rsfu
