import Rsfu.Buffer
import Rsfu.Sequencer

/-! The forwarding side of one subscription: a down track gates, renumbers and
sends the packets of a receiver. The fields of `DownTrackInternal` are part of
the one flat record, and each operation is one atomic step. -/
namespace Rsfu

inductive DownTrackType where
  | simpleDownTrack
  | simulcastDownTrack
  deriving DecidableEq, Repr

structure SimulcastTrackHelpers where
  temporalSupported : Bool := false
  lTsCalc : Int := 0
  pRefPicId : UInt16 := 0
  refPicId : UInt16 := 0
  lPicId : UInt16 := 0
  pRefTlzIdx : UInt8 := 0
  refTlzIdx : UInt8 := 0
  lTlzIdx : UInt8 := 0
  deriving DecidableEq, Repr

structure CodecParameters where
  capability : CodecCapability
  payloadType : UInt8 := 0
  deriving DecidableEq, Repr

/-- What `bind` reads from the context; the write stream is present or not. -/
structure TrackLocalContext where
  codecParameters : List CodecParameters
  ssrc : UInt32
  writeStream : Bool

/-- `temporalLayer` holds the bits of the `i32`: it is only shifted and cut. -/
structure DownTrack where
  trackType : DownTrackType := .simpleDownTrack
  payload : Bytes := []
  currentSpatialLayer : Int := 0
  targetSpatialLayer : Int := 0
  temporalLayer : UInt32 := 0
  snOffset : UInt16 := 0
  tsOffset : UInt32 := 0
  lastSn : UInt16 := 0
  lastTs : UInt32 := 0
  simulcast : SimulcastTrackHelpers := {}
  maxSpatialLayer : Int := 0
  maxTemporalLayer : Int := 0
  octetCount : UInt32 := 0
  packetCount : UInt32 := 0
  codec : CodecCapability
  bound : Bool := false
  mime : String := ""
  ssrc : UInt32 := 0
  maxTrack : Int
  payloadType : UInt8 := 0
  sequencer : Sequencer := .new 0 0
  enabled : Bool := false
  reSync : Bool := false
  lastSsrc : UInt32 := 0
  writeStream : Bool := false

/-- The packets a down track hands to the receiver and to its write stream. -/
inductive Sent where
  | pictureLossIndication (senderSsrc mediaSsrc : UInt32)
  | rtp (packet : Packet)

def Sent.isRtp : Sent → Bool
  | .rtp _ => true
  | .pictureLossIndication _ _ => false

/-- The answers of the receiver's RTCP channel and of the write stream. -/
structure SendEnv (ε : Type) where
  sendRtcp : Except ε Unit := .ok ()
  writeRtp : Except ε Unit := .ok ()

structure Written (ε : Type) where
  track : DownTrack
  sent : List Sent := []
  result : Except ε Unit := .ok ()

def codecParametersFuzzySearch (needle : CodecCapability) (hayStack : List CodecParameters) :
    Option CodecParameters :=
  match hayStack.find? fun param =>
      param.capability.mimeType == needle.mimeType && param.capability.sdpFmtpLine == needle.sdpFmtpLine with
  | some param => some param
  | none => hayStack.find? fun param => param.capability.mimeType == needle.mimeType

/-- `copy_from_slice` panics unless both slices have one length. -/
def copyFromSlice (dst src : Bytes) : Option Bytes := if dst.length = src.length then some src else none

def sliceTo (bytes : Bytes) (length : Nat) : Option Bytes :=
  if length ≤ bytes.length then some (bytes.take length) else none

def putAt (payload : Bytes) (idx : Nat) (octet : UInt8) : Option Bytes :=
  if idx < payload.length then some (payload.set idx octet) else none

def modifyVp8TemporalPayload (payload : Bytes) (picIdIdx tlz0Idx : Nat) (picId : UInt16) (tlz0Id : UInt8)
    (mBit : Bool) : Option Bytes := do
  let payload ← putAt payload picIdIdx (picId >>> 8).toUInt8
  let payload ←
    if mBit then do
      let payload ← putAt payload picIdIdx ((← payload[picIdIdx]?) ||| 0x80)
      putAt payload (picIdIdx + 1) picId.toUInt8
    else some payload
  putAt payload tlz0Idx tlz0Id

namespace DownTrack
variable {ε : Type}

def kind (d : DownTrack) : CodecType :=
  if RustText.startsWith d.codec.mimeType "audio/" then .audio
  else if RustText.startsWith d.codec.mimeType "video/" then .video
  else .unspecified

/-- A bind that finds no codec fails before it writes anything. -/
def bind (d : DownTrack) (t : TrackLocalContext) (now : Nat) : DownTrack × Option CodecParameters :=
  match codecParametersFuzzySearch d.codec t.codecParameters with
  | none => (d, none)
  | some codec =>
      ({ d with
        ssrc := t.ssrc
        payloadType := codec.payloadType
        writeStream := t.writeStream
        mime := RustText.toLowercase codec.capability.mimeType
        reSync := true
        enabled := true
        sequencer :=
          if RustText.startsWith d.codec.mimeType "video/" then .new d.maxTrack now else d.sequencer
        bound := true }, some codec)

def unbind (d : DownTrack) : DownTrack := { d with bound := false }

def mute (d : DownTrack) (val : Bool) : DownTrack :=
  if d.enabled ≠ val then d
  else { d with enabled := !val, reSync := if val then val else d.reSync }

def setInitialLayers (d : DownTrack) (spatialLayer : Int) (temporalLayer : UInt32) : DownTrack :=
  { d with
    currentSpatialLayer := spatialLayer
    targetSpatialLayer := spatialLayer
    temporalLayer := (temporalLayer <<< 16) ||| temporalLayer }

/-- `queued` is the answer of the receiver's `switch_down_track`. -/
def switchSpatialLayer (d : DownTrack) (targetLayer : Int) (setAsMax queued : Bool) : DownTrack × Bool :=
  match d.trackType with
  | .simulcastDownTrack =>
      if d.currentSpatialLayer ≠ d.targetSpatialLayer ∨ d.currentSpatialLayer = targetLayer then (d, false)
      else if queued then
        ({ d with
          targetSpatialLayer := targetLayer
          maxSpatialLayer := if setAsMax then targetLayer else d.maxSpatialLayer }, true)
      else (d, true)
  | .simpleDownTrack => (d, false)

def switchSpatialLayerDone (d : DownTrack) (layer : Int) : DownTrack := { d with currentSpatialLayer := layer }

def switchTemporalLayer (d : DownTrack) (targetLayer : UInt32) (setAsMax : Bool) : DownTrack :=
  match d.trackType with
  | .simulcastDownTrack =>
      let currentLayer := d.temporalLayer.toUInt16
      if currentLayer ≠ (d.temporalLayer >>> 16).toUInt16 then d
      else
        { d with
          temporalLayer := (targetLayer <<< 16) ||| currentLayer.toUInt32
          maxTemporalLayer := if setAsMax then targetLayer.toInt32.toInt else d.maxTemporalLayer }
  | .simpleDownTrack => d

def updateStats (d : DownTrack) (packetLen : UInt32) : DownTrack :=
  { d with octetCount := packetLen, packetCount := 1 }

/-- The packet goes to the write stream if there is one. -/
def writePacket (d : DownTrack) (env : SendEnv ε) (packet : Packet) : Written ε :=
  if d.writeStream then ⟨d, [.rtp packet], env.writeRtp⟩ else ⟨d, [], .ok ()⟩

/-- The offsets and flags set by the packet that ends a re-sync on a simple track. -/
def endReSync (d : DownTrack) (hdr : Header) : DownTrack :=
  let d :=
    if d.lastSn ≠ 0 then
      { d with
        snOffset := hdr.sequenceNumber - d.lastSn - 1
        tsOffset := hdr.timestamp - d.lastTs - 1 }
    else d
  { d with lastSsrc := hdr.ssrc, reSync := false }

/-- The header of the outgoing packet; the offsets of the track no longer change. -/
def rewriteHeader (d : DownTrack) (hdr : Header) : Header :=
  { hdr with
    payloadType := d.payloadType
    timestamp := hdr.timestamp - d.tsOffset
    sequenceNumber := hdr.sequenceNumber - d.snOffset
    ssrc := d.ssrc }

/-- The head packet is the last one the next re-sync continues from. -/
def noteHead (d : DownTrack) (extPacket : ExtPacket) : DownTrack :=
  if extPacket.head then
    { d with
      lastSn := (d.rewriteHeader extPacket.packet.header).sequenceNumber
      lastTs := (d.rewriteHeader extPacket.packet.header).timestamp }
  else d

/-- The part of `write_simple_rtp` that numbers a packet. -/
def numberSimple (d : DownTrack) (extPacket : ExtPacket) : DownTrack :=
  let hdr := extPacket.packet.header
  let d := if d.reSync then d.endReSync hdr else d
  let d := d.updateStats (UInt32.ofNat extPacket.packet.payload.length)
  let new := d.rewriteHeader hdr
  let d := { d with
    sequencer := (d.sequencer.push hdr.sequenceNumber new.sequenceNumber new.timestamp 0 extPacket.head).1 }
  d.noteHead extPacket

def writeSimpleRtp (d : DownTrack) (env : SendEnv ε) (extPacket : ExtPacket) : Written ε :=
  let hdr := extPacket.packet.header
  if d.reSync ∧ d.kind = .video ∧ ¬ extPacket.keyFrame then
    ⟨d, [.pictureLossIndication d.ssrc hdr.ssrc], env.sendRtcp⟩
  else
    let d := d.numberSimple extPacket
    d.writePacket env { extPacket.packet with header := d.rewriteHeader hdr }

/-- The current temporal layer follows its target once a packet of it arrives. -/
def settleTemporalLayer (d : DownTrack) (tid : UInt8) : DownTrack :=
  let currentLayer := d.temporalLayer.toUInt16
  let currentTargetLayer := (d.temporalLayer >>> 16).toUInt16
  if currentTargetLayer ≠ currentLayer ∧ tid ≤ currentTargetLayer.toUInt8 then
    { d with temporalLayer := (currentTargetLayer.toUInt32 <<< 16) ||| currentTargetLayer.toUInt32 }
  else d

def noteVp8 (d : DownTrack) (extPacket : ExtPacket) (picId : UInt16) (tlz0Idx : UInt8) : DownTrack :=
  if extPacket.head then { d with simulcast := { d.simulcast with lPicId := picId, lTlzIdx := tlz0Idx } }
  else d

def rewriteVp8Payload (d : DownTrack) (extPacket : ExtPacket) :
    Option (DownTrack × Bytes × UInt16 × UInt8 × Bool) := do
  let pkt := extPacket.payload
  -- the new buffer is empty, and copy_from_slice does not grow it
  let rvBuf : Bytes := []
  let head ← sliceTo d.payload extPacket.packet.payload.length
  let rvBuf ← copyFromSlice rvBuf head
  let rvBuf ← copyFromSlice rvBuf extPacket.packet.payload
  let picId := pkt.pictureId - d.simulcast.refPicId + d.simulcast.pRefPicId + 1
  let tlz0Idx := pkt.tl0PictureIdx - d.simulcast.refTlzIdx + d.simulcast.pRefTlzIdx + 1
  let d := d.noteVp8 extPacket picId tlz0Idx
  let rvBuf ← modifyVp8TemporalPayload rvBuf pkt.pictureIdIdx.toNat pkt.tlzIdx.toNat picId tlz0Idx pkt.mbit
  return (d, rvBuf, 0, 0, true)

/-- The four values of the source; the caller ignores them. -/
def setVp8TemporalLayer (d : DownTrack) (extPacket : ExtPacket) :
    Option (DownTrack × Bytes × UInt16 × UInt8 × Bool) :=
  let currentLayer := d.temporalLayer.toUInt16
  let currentTargetLayer := (d.temporalLayer >>> 16).toUInt16
  let d := d.settleTemporalLayer extPacket.payload.tid
  if currentTargetLayer = currentLayer ∧ currentLayer.toUInt8 < extPacket.payload.tid then
    some (d, [], 0, 0, true)
  else d.rewriteVp8Payload extPacket

/-- The 90 kHz ticks between two arrivals; the f64 quotient is exact as far as
the cast to `u32` does not saturate. -/
def elapsedTicks (arrival lTsCalc : Int) : UInt32 :=
  let td := UInt32.ofNat (min ((arrival - lTsCalc) / 1000000).toNat 4294967295) * 90 / 1000
  if td = 0 then 1 else td

/-- The part of `write_simulcast_rtp` that ends a re-sync or meets a new source. -/
def changeSource (d : DownTrack) (extPacket : ExtPacket) : DownTrack :=
  let hdr := extPacket.packet.header
  if d.lastSsrc ≠ hdr.ssrc ∨ d.reSync then
    let simulcast := d.simulcast
    let simulcast :=
      if d.reSync ∧ simulcast.lTsCalc ≠ 0 then { simulcast with lTsCalc := extPacket.arrival } else simulcast
    let simulcast :=
      if simulcast.temporalSupported ∧ d.mime = "video/vp8" then
        { simulcast with
          pRefPicId := simulcast.lPicId
          refPicId := extPacket.payload.pictureId
          pRefTlzIdx := simulcast.lTlzIdx
          refTlzIdx := extPacket.payload.tl0PictureIdx }
      else simulcast
    { d with simulcast, reSync := false }
  else d

/-- The offsets of a packet from a new source, or the start of the outgoing stream. -/
def renumberSource (d : DownTrack) (extPacket : ExtPacket) : DownTrack :=
  let hdr := extPacket.packet.header
  if d.simulcast.lTsCalc ≠ 0 ∧ d.lastSsrc ≠ hdr.ssrc then
    { d with
      lastSsrc := hdr.ssrc
      tsOffset := hdr.timestamp - (d.lastTs + elapsedTicks extPacket.arrival d.simulcast.lTsCalc)
      snOffset := hdr.sequenceNumber - d.lastSn - 1 }
  else if d.simulcast.lTsCalc = 0 then
    { d with
      lastTs := hdr.timestamp
      lastSn := hdr.sequenceNumber
      simulcast :=
        if d.mime = "video/vp8" then
          { d.simulcast with temporalSupported := extPacket.payload.temporalSupported }
        else d.simulcast }
  else d

def layerVp8 (d : DownTrack) (temporalSupported : Bool) (extPacket : ExtPacket) : Option DownTrack :=
  if temporalSupported ∧ d.mime = "video/vp8" then (d.setVp8TemporalLayer extPacket).map Prod.fst else some d

/-- The part of `write_simulcast_rtp` that numbers a packet. -/
def numberSimulcast (d : DownTrack) (extPacket : ExtPacket) : Option DownTrack := do
  let temporalSupported := d.simulcast.temporalSupported
  let d := (d.changeSource extPacket).renumberSource extPacket
  let d ← d.layerVp8 temporalSupported extPacket
  let d :=
    { d with
      octetCount := d.octetCount + UInt32.ofNat extPacket.packet.payload.length
      packetCount := d.packetCount + 1 }
  let d := d.noteHead extPacket
  return { d with simulcast := { d.simulcast with lTsCalc := extPacket.arrival } }

def writeSimulcastRtp (d : DownTrack) (env : SendEnv ε) (extPacket : ExtPacket) (layer : Int) :
    Option (Written ε) := do
  let hdr := extPacket.packet.header
  if d.currentSpatialLayer ≠ layer then return ⟨d, [], .ok ()⟩
  if d.reSync ∧ ¬ extPacket.keyFrame then
    return ⟨d, [.pictureLossIndication d.ssrc hdr.ssrc], env.sendRtcp⟩
  let d ← d.numberSimulcast extPacket
  return d.writePacket env { extPacket.packet with header := d.rewriteHeader hdr }

def writeRtp (d : DownTrack) (env : SendEnv ε) (pkt : ExtPacket) (layer : Nat) : Option (Written ε) :=
  if ¬ d.enabled then some ⟨d, [], .ok ()⟩
  else if ¬ d.bound then some ⟨d, [], .ok ()⟩
  else
    match d.trackType with
    | .simpleDownTrack => some (d.writeSimpleRtp env pkt)
    | .simulcastDownTrack => d.writeSimulcastRtp env pkt layer

end DownTrack

end Rsfu
