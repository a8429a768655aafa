import Rsfu.ByteStore
import Rsfu.RingSlots
import Rsfu.SerialNumber

/-! The retransmission store of a buffer: a ring of fixed-size slots, each a
length prefix followed by the packet. `none` is a panic; an error of the source
is a value next to the state it leaves behind. -/
namespace Rsfu
open RingSlots

abbrev Bytes := List UInt8

inductive BufferError where
  | errPacketNotFound
  | errBufferTooSmall
  | errPacketTooOld
  | errRTXPacket
  | errShortPacket
  | errNilPacket
  | errIOEof
  deriving DecidableEq, Repr

def maxPacketSize : Nat := 1500

def distance (new old : UInt16) : UInt16 :=
  if new < old then 65535 - old + new + 1 else new - old

theorem distance_eq_sub (new old : UInt16) : distance new old = new - old := by
  unfold distance
  split
  · rw [← UInt16.toNat_inj]
    simp only [SerialNumber.toNat_add16, SerialNumber.toNat_sub16, UInt16.reduceToNat]
    have := old.toNat_lt
    omega
  · rfl

/-- `step` only ever counts up or returns to zero, so it is a natural number here;
`max_steps` is the `i32` of the source. -/
structure Bucket where
  buf : ByteStore
  init : Bool
  step : Nat
  headSn : UInt16
  maxSteps : Int

namespace Bucket

def new (length : Nat) : Bucket where
  buf := .zeros length
  init := false
  step := 0
  headSn := 0
  maxSteps := (length / maxPacketSize : Nat) - 1

/-- `Vec` capacity is the length: the vector is built by `vec!` and never grows. -/
def push (b : Bucket) (pkt : Bytes) : Option (Bucket × Except BufferError Bytes) := do
  let pktLenIdx := b.step * maxPacketSize
  if b.buf.size < pktLenIdx + pkt.length then
    return (b, .error .errBufferTooSmall)
  let buf ← b.buf.write pktLenIdx (ByteStore.beBytes (UInt16.ofNat pkt.length))
  let off := pktLenIdx + 2
  let buf ← buf.write off pkt
  let step := if b.maxSteps < (b.step : Int) + 1 then 0 else b.step + 1
  let data ← buf.slice off pkt.length
  return ({ b with buf, step }, .ok data)

def get (b : Bucket) (sn : UInt16) : Option (Option Bytes) := do
  let diff := distance b.headSn sn
  let pos : Int := b.step - (diff + 1).toNat
  if pos < 0 ∧ b.maxSteps + 1 < -pos then
    return none
  let pos := if pos < 0 then b.maxSteps + pos + 1 else pos
  let off := pos.toNat * maxPacketSize
  if b.buf.size < off then
    return none
  if (← b.buf.readU16 (off + 4)) != sn then
    return none
  let size ← b.buf.readU16 off
  let data ← b.buf.slice (off + 2) size.toNat
  return some data

def set (b : Bucket) (sn : UInt16) (pkt : Bytes) : Option (Bucket × Except BufferError Bytes) := do
  let diff := distance b.headSn sn
  if UInt16.ofInt b.maxSteps < diff then
    return (b, .error .errPacketTooOld)
  let pos : Int := b.step - (diff + 1).toNat
  let pos := if pos < 0 then b.maxSteps + pos + 1 else pos
  let off := pos * (maxPacketSize : Int)
  if (b.buf.size : Int) < off ∨ off < 0 then
    return (b, .error .errPacketTooOld)
  if (← b.buf.readU16 (off.toNat + 4)) == sn then
    return (b, .error .errRTXPacket)
  let buf ← b.buf.write off.toNat (ByteStore.beBytes (UInt16.ofNat pkt.length))
  let buf ← buf.write (off.toNat + 2) pkt
  return ({ b with buf }, .ok pkt)

def addPacket (b : Bucket) (pkt : Bytes) (sn : UInt16) (latest : Bool) :
    Option (Bucket × Except BufferError Bytes) :=
  let b := if b.init then b else { b with headSn := sn - 1, init := true }
  if latest then
    let diff := distance sn b.headSn
    -- the loop over 1..diff that passes the slots of skipped packets
    push { b with headSn := sn, step := (bump b.maxSteps)^[diff.toNat - 1] b.step } pkt
  else
    b.set sn pkt

def getPacket (b : Bucket) (bufLen : Nat) (sn : UInt16) : Option (Except BufferError Bytes) := do
  match ← b.get sn with
  | none => return .error .errPacketNotFound
  | some data =>
      if bufLen < data.length then return .error .errBufferTooSmall
      -- copy_from_slice panics unless both slices have one length
      if bufLen = data.length then return .ok data else none

end Bucket

end Rsfu
