import Rsfu.Bucket

/-! Payload inspection: the VP8 payload descriptor and the H264 key-frame test.
An index outside the payload panics, which is `none` under the error layer. -/
namespace Rsfu

structure Vp8 where
  temporalSupported : Bool := false
  pictureId : UInt16 := 0
  pictureIdIdx : Int := 0
  mbit : Bool := false
  tl0PictureIdx : UInt8 := 0
  tlzIdx : Int := 0
  tid : UInt8 := 0
  isKeyFrame : Bool := false
  deriving DecidableEq, Repr, Inhabited

def payloadAt (payload : Bytes) (idx : Nat) : ExceptT BufferError Option UInt8 :=
  ExceptT.lift payload[idx]?

def requireIndex (payload : Bytes) (idx : Nat) : ExceptT BufferError Option Unit :=
  if payload.length < idx + 1 then throw .errShortPacket else pure ()

namespace Vp8

/-- The PictureID field at `idx`: one octet, or two when its top bit is set. -/
def readPictureId (v : Vp8) (payload : Bytes) (idx : Nat) : ExceptT BufferError Option (Vp8 × Nat) := do
  requireIndex payload idx
  let v := { v with pictureIdIdx := (idx : Int) }
  let octet ← payloadAt payload idx
  let pid := octet &&& 0x7f
  if 0 < octet &&& 0x80 then
    let idx := idx + 1
    requireIndex payload idx
    let low ← payloadAt payload idx
    return ({ v with mbit := true, pictureId := (pid.toUInt16 <<< 8) ||| low.toUInt16 }, idx)
  else
    return ({ v with pictureId := pid.toUInt16 }, idx)

def readTl0PicIdx (v : Vp8) (payload : Bytes) (idx : Nat) : ExceptT BufferError Option Vp8 := do
  requireIndex payload idx
  let v := { v with tlzIdx := (idx : Int) }
  if payload.length ≤ idx then throw .errShortPacket
  return { v with tl0PictureIdx := ← payloadAt payload idx }

def readTid (v : Vp8) (payload : Bytes) (idx : Nat) : ExceptT BufferError Option Vp8 := do
  requireIndex payload idx
  return { v with tid := ((← payloadAt payload idx) &&& 0xc0) >>> 6 }

/-- The optional fields behind the extension octet, which stands at `idx`; the
answer carries the index of the last octet read. -/
def readExtension (v : Vp8) (payload : Bytes) (idx : Nat) : ExceptT BufferError Option (Vp8 × Nat) := do
  requireIndex payload idx
  let ext ← payloadAt payload idx
  let v := { v with temporalSupported := decide (0 < ext &&& 0x20) }
  let k := 0 < ext &&& 0x10
  let l := 0 < ext &&& 0x40
  let (v, idx) ← if 0 < ext &&& 0x80 then v.readPictureId payload (idx + 1) else pure (v, idx)
  let (v, idx) ← if l then pure (← v.readTl0PicIdx payload (idx + 1), idx + 1) else pure (v, idx)
  let (v, idx) ← if v.temporalSupported ∨ k then pure (← v.readTid payload (idx + 1), idx + 1) else pure (v, idx)
  if payload.length ≤ idx then throw .errShortPacket
  return (v, idx)

/-- On an error the source leaves `self` half written; both callers drop it. -/
def unmarshal (v : Vp8) (payload : Bytes) : ExceptT BufferError Option Vp8 := do
  if payload.length = 0 then throw .errNilPacket
  let first ← payloadAt payload 0
  let s := 0 < first &&& 0x10
  let (v, idx) ← if 0 < first &&& 0x80 then v.readExtension payload 1 else pure (v, 0)
  let idx := idx + 1
  requireIndex payload idx
  let octet ← payloadAt payload idx
  return { v with isKeyFrame := octet &&& 0x01 == 0 && decide s }

end Vp8

/-- The walk over an aggregation packet; each turn moves `i` by two at least, so
the payload length bounds the number of turns. -/
def aggregationWalk (payload : Bytes) (nalu : UInt8) : Nat → Nat → Option Bool
  | 0, _ => some false
  | fuel + 1, i =>
      if payload.length ≤ i then some false
      else if payload.length < i + 2 then some false
      else do
        let hi ← payload[i]?
        let lo ← payload[i + 1]?
        let length := (hi.toUInt16 <<< 8) ||| lo.toUInt16
        let i := i + 2
        if payload.length < i + length.toNat then return false
        let offset : UInt16 := if nalu = 26 then 3 else if nalu = 27 then 4 else 0
        if length ≤ offset then return false
        let n := (← payload[i + offset.toNat]?) &&& 0x1F
        if n = 7 then return true
        aggregationWalk payload nalu fuel (i + length.toNat)

def isH264Keyframe (payload : Bytes) : Option Bool := do
  if payload.isEmpty then return false
  let nalu := (← payload[0]?) &&& 0x1F
  if nalu = 0 then return false
  else if nalu ≤ 23 then return nalu == 5
  else if nalu = 24 ∨ nalu = 25 ∨ nalu = 26 ∨ nalu = 27 then
    let i := if nalu = 25 ∨ nalu = 26 ∨ nalu = 27 then 1 + 2 else 1
    aggregationWalk payload nalu payload.length i
  else if nalu = 28 ∨ nalu = 29 then
    if payload.length < 2 then return false
    let second ← payload[1]?
    if second &&& 0x80 = 0 then return false
    return second &&& 0x1F == 7
  else return false

end Rsfu
