import Rsfu.NackQueue
import Rsfu.PayloadHelpers

/-! The receive buffer of one media source. `calc` takes each packet through
sequence tracking, the packet store, payload inspection and feedback. The f64
jitter estimate is left out: nothing the buffer decides depends on it. -/

/-! The string operations of the standard library that mime types go through. -/
namespace RustText

def startsWith (s pat : String) : Bool := pat.toList.isPrefixOf s.toList

/-- Lower case for the ASCII text that mime types are made of. -/
def toLowercase (s : String) : String := String.ofList (s.toList.map Char.toLower)

end RustText

namespace Rsfu

structure Header where
  marker : Bool := false
  payloadType : UInt8 := 0
  sequenceNumber : UInt16 := 0
  timestamp : UInt32 := 0
  ssrc : UInt32 := 0
  getExtension : UInt8 → Option Bytes := fun _ => none

structure Packet where
  header : Header := {}
  payload : Bytes := []

/-- What the crates the buffer is built on provide: packet parsing and constants. -/
structure RtpCrates where
  unmarshal : Bytes → Option Packet
  audioLevel : Bytes → Option UInt8
  transportCcUri : String
  audioLevelUri : String
  fbGoogRemb : String
  fbTransportCc : String
  fbNack : String

structure CodecCapability where
  mimeType : String
  clockRate : UInt32
  sdpFmtpLine : String
  rtcpFeedback : List String
  deriving DecidableEq, Repr

structure RtpParameters where
  headerExtensions : List (String × Int)
  codecs : List CodecCapability

inductive CodecType where
  | unspecified
  | audio
  | video
  deriving DecidableEq, Repr

structure ExtPacket where
  head : Bool
  cycle : UInt32
  arrival : Int
  packet : Packet
  keyFrame : Bool := false
  payload : Vp8 := {}

structure PendingPacket where
  arrivalTime : Int
  packet : Bytes

structure Stats where
  packetCount : UInt32 := 0
  totalByte : UInt64 := 0

inductive Feedback where
  | transportLayerNack (mediaSsrc : UInt32) (nacks : List NackPair)
  | pictureLossIndication (mediaSsrc : UInt32)
  deriving DecidableEq, Repr

/-- The handler calls `calc` makes. -/
inductive BufferEvent where
  | transportWideCc (sn : UInt16) (timeNs : Int) (marker : Bool)
  | audioLevel (level : UInt8)
  | feedback (pkts : List Feedback)
  deriving DecidableEq, Repr

/-- The calls sequence tracking makes on the queue of missing numbers. -/
inductive NackCall where
  | push (sn : UInt32)
  | remove (sn : UInt32)
  deriving DecidableEq, Repr

/-- The path on which `calc` returns. -/
inductive CalcExit where
  | rejected (err : BufferError)
  | malformed
  | badPayload (err : BufferError)
  | complete
  deriving DecidableEq, Repr

def maxSequenceNumber : UInt32 := (1 : UInt32) <<< 16

def reportDelta : Int := 1000000000

structure Buffer where
  bucket : Option Bucket := none
  nacker : Option NackQueue := none
  codecType : CodecType := .unspecified
  extPackets : List ExtPacket := []
  pendingPackets : List PendingPacket := []
  mediaSsrc : UInt32
  clockRate : UInt32 := 0
  maxBitrate : UInt64 := 0
  lastReport : Int := 0
  twccExt : UInt8 := 0
  audioExt : UInt8 := 0
  bound : Bool := false
  mime : String := ""
  remb : Bool := false
  nack : Bool := false
  twcc : Bool := false
  audioLevel : Bool := false
  minPacketProbe : Int := 0
  maxTemporalLayer : Int := 0
  bitrate : UInt64 := 0
  bitrateHelper : UInt64 := 0
  baseSn : UInt16 := 0
  cycles : UInt32 := 0
  maxSeqNo : UInt16 := 0
  stats : Stats := {}
  latestTimestamp : UInt32 := 0
  latestTimestampTime : Int := 0
  videoPoolLen : Nat
  audioPoolLen : Nat
  onTransportWideCc : Bool := false
  onFeedbackCallback : Bool := false
  onAudioLevel : Bool := false

def isTimestampWrapAround (timestamp1 timestamp2 : UInt32) : Bool :=
  timestamp1 &&& 0xC000000 == 0 && timestamp2 &&& 0xC000000 == 0xC000000

def isLaterTimestamp (timestamp1 timestamp2 : UInt32) : Bool :=
  if timestamp2 < timestamp1 then
    if isTimestampWrapAround timestamp2 timestamp1 then false else true
  else isTimestampWrapAround timestamp1 timestamp2

def NackQueue.call (q : NackQueue) : NackCall → NackQueue
  | .push sn => q.push sn
  | .remove sn => (q.remove sn).1

/-- The extended number given to `msn`; the source spells the condition out both
where it pushes a missing number and where it removes a late one. -/
def extSn (cycles : UInt32) (maxSeqNo msn : UInt16) : UInt32 :=
  if msn > maxSeqNo ∧ msn &&& 0x8000 > 0 ∧ maxSeqNo &&& 0x8000 = 0 then
    (cycles - maxSequenceNumber) ||| msn.toUInt32
  else
    cycles ||| msn.toUInt32

/-- The loop over 1..diff that pushes the numbers a forward jump skips. -/
def gapCalls (cycles : UInt32) (maxSeqNo sn : UInt16) : List NackCall :=
  (List.range' 1 ((sn - maxSeqNo).toNat - 1)).map fun i =>
    .push (extSn cycles maxSeqNo (sn - UInt16.ofNat i))

namespace Buffer

def new (ssrc : UInt32) : Buffer where
  mediaSsrc := ssrc
  videoPoolLen := 1500 * 500
  audioPoolLen := 1500 * 25

def bindFeedback (crates : RtpCrates) (b : Buffer) (typ : String) : Buffer :=
  if typ = crates.fbGoogRemb then { b with remb := true }
  else if typ = crates.fbTransportCc then { b with twcc := true }
  else if typ = crates.fbNack then { b with nack := true, nacker := some {} }
  else b

def bindAudioLevel (crates : RtpCrates) (b : Buffer) (ext : String × Int) : Buffer :=
  if ext.1 = crates.audioLevelUri then { b with audioLevel := true, audioExt := UInt8.ofInt ext.2 } else b

/-- The codec type and the store that go with the mime type. -/
def bindStore (b : Buffer) : Buffer :=
  if RustText.startsWith b.mime "audio/" then
    { b with codecType := .audio, bucket := some (.new b.audioPoolLen) }
  else if RustText.startsWith b.mime "video/" then
    { b with codecType := .video, bucket := some (.new b.videoPoolLen) }
  else { b with codecType := .unspecified }

def bindExtension (crates : RtpCrates) (b : Buffer) (params : RtpParameters) : Buffer :=
  match params.headerExtensions.find? fun ext => ext.1 == crates.transportCcUri with
  | some ext => { b with twccExt := UInt8.ofInt ext.2 }
  | none => b

def bindFeatures (crates : RtpCrates) (b : Buffer) (params : RtpParameters) (codec : CodecCapability) :
    Buffer :=
  match b.codecType with
  | .video => codec.rtcpFeedback.foldl (bindFeedback crates) b
  | .audio => params.headerExtensions.foldl (bindAudioLevel crates) b
  | .unspecified => b

/-- `bind` holds the buffer's lock to its end. `calc` takes the same lock, so
with a pending packet the call never returns. -/
def bind (crates : RtpCrates) (b : Buffer) (params : RtpParameters) (maxBitrate : UInt64) :
    Option Buffer := do
  let codec ← params.codecs[0]?
  let mime := RustText.toLowercase codec.mimeType
  let b := { b with clockRate := codec.clockRate, maxBitrate, mime }
  let b := (b.bindStore.bindExtension crates params).bindFeatures crates params codec
  if b.pendingPackets.isEmpty then some { b with bound := true } else none

def callNacker (b : Buffer) (calls : List NackCall) : Buffer :=
  { b with nacker := b.nacker.map fun q => calls.foldl NackQueue.call q }

/-- Sequence tracking, with the calls it makes on the nack queue. -/
def trackSequence (b : Buffer) (sn : UInt16) (arrivalTime : Int) : Buffer × List NackCall :=
  let distance := distance sn b.maxSeqNo
  if b.stats.packetCount = 0 then
    ({ b with baseSn := sn, maxSeqNo := sn, lastReport := arrivalTime }, [])
  else if distance &&& 0x8000 = 0 then
    let cycles := if sn < b.maxSeqNo then b.cycles + maxSequenceNumber else b.cycles
    let calls := if b.nack then gapCalls cycles b.maxSeqNo sn else []
    ({ b.callNacker calls with cycles, maxSeqNo := sn }, calls)
  else if b.nack ∧ 0 < distance &&& 0x8000 then
    let calls := [.remove (extSn b.cycles b.maxSeqNo sn)]
    (b.callNacker calls, calls)
  else (b, [])

def storePacket (crates : RtpCrates) (b : Buffer) (pkt : Bytes) (sn : UInt16) :
    Option (Buffer × Except CalcExit Packet) :=
  match b.bucket with
  | none => some (b, .ok {})
  | some bucket => do
      let (bucket, rv) ← bucket.addPacket pkt sn (sn == b.maxSeqNo)
      let b := { b with bucket := some bucket }
      match rv with
      | .ok data =>
          match crates.unmarshal data with
          | none => return (b, .error .malformed)
          | some packet => return (b, .ok packet)
      | .error err => return (b, .error (.rejected err))

def countPacket (b : Buffer) (len : Nat) : Buffer :=
  { b with
    stats := { totalByte := b.stats.totalByte + UInt64.ofNat len
               packetCount := b.stats.packetCount + 1 }
    bitrateHelper := b.bitrateHelper + UInt64.ofNat len }

/-- The codec-dependent part of the extended packet. -/
def inspectPayload (b : Buffer) (ep : ExtPacket) : ExceptT BufferError Option ExtPacket :=
  if b.mime = "video/vp8" then do
    let vp8 ← Vp8.unmarshal {} ep.packet.payload
    return { ep with keyFrame := vp8.isKeyFrame, payload := vp8 }
  else if b.mime = "video/h264" then do
    return { ep with keyFrame := ← ExceptT.lift (isH264Keyframe ep.packet.payload) }
  else pure ep

def probe (b : Buffer) (sn : UInt16) (ep : ExtPacket) : Buffer :=
  if b.minPacketProbe < 25 then
    { b with
      baseSn := if sn < b.baseSn then sn else b.baseSn
      maxTemporalLayer :=
        if b.mime = "video/vp8" ∧ b.maxTemporalLayer < (ep.payload.tid.toNat : Int) then ep.payload.tid.toNat
        else b.maxTemporalLayer
      minPacketProbe := b.minPacketProbe + 1 }
  else b

def noteTimestamp (b : Buffer) (timestamp : UInt32) (arrivalTime : Int) : Buffer :=
  if b.latestTimestampTime = 0 ∨ isLaterTimestamp timestamp b.latestTimestamp then
    { b with latestTimestamp := timestamp, latestTimestampTime := arrivalTime }
  else b

/-- The header extensions handed to the handlers that are installed. -/
def extensionEvents (crates : RtpCrates) (b : Buffer) (packet : Packet) (arrivalTime : Int) :
    List BufferEvent :=
  let transport :=
    match packet.header.getExtension b.twccExt with
    | some (hi :: lo :: _) =>
        if b.twcc ∧ b.onTransportWideCc then
          [.transportWideCc (ByteStore.beU16 hi lo) arrivalTime packet.header.marker] else []
    | _ => []
  let level :=
    match (packet.header.getExtension b.audioExt).bind crates.audioLevel with
    | some level => if b.audioLevel ∧ b.onAudioLevel then [.audioLevel level] else []
    | none => []
  transport ++ level

def buildNackPacket (b : Buffer) : Buffer × List Feedback :=
  match b.nacker with
  | none => (b, [])
  | some q =>
      let seqNumber := b.cycles ||| b.maxSeqNo.toUInt32
      let (q, nacks, askKeyFrame) := q.pairs seqNumber
      let nackPkts := match nacks with
        | some (np :: nps) => [.transportLayerNack b.mediaSsrc (np :: nps)]
        | _ => []
      let pliPkts := if askKeyFrame then [.pictureLossIndication b.mediaSsrc] else []
      ({ b with nacker := some q }, nackPkts ++ pliPkts)

def reportBitrate (b : Buffer) (arrivalTime diff : Int) : Buffer :=
  if reportDelta ≤ diff then
    { b with
      bitrate := 8 * b.bitrateHelper * 1000000000 / UInt64.ofInt diff
      lastReport := arrivalTime
      bitrateHelper := 0 }
  else b

/-- What `calc` does once the extended packet is complete. -/
def finish (crates : RtpCrates) (b : Buffer) (sn : UInt16) (ep : ExtPacket) (arrivalTime : Int) :
    Buffer × List BufferEvent :=
  let b := b.probe sn ep
  let b := { b with extPackets := b.extPackets ++ [ep] }
  let b := b.noteTimestamp ep.packet.header.timestamp arrivalTime
  let events := b.extensionEvents crates ep.packet arrivalTime
  let diff := arrivalTime - b.lastReport
  let (b, pkts) := b.buildNackPacket
  let feedback := if b.nacker.isSome ∧ b.onFeedbackCallback then [.feedback pkts] else []
  (b.reportBitrate arrivalTime diff, events ++ feedback)

/-- What one call of `calc` leaves behind. -/
structure Calc where
  buffer : Buffer
  calls : List NackCall
  events : List BufferEvent
  exit : CalcExit

end Buffer

def Buffer.calc (crates : RtpCrates) (b : Buffer) (pkt : Bytes) (arrivalTime : Int) :
    Option Buffer.Calc := do
  let sn ← ByteStore.u16At pkt 2
  let (b, calls) := b.trackSequence sn arrivalTime
  let (b, stored) ← b.storePacket crates pkt sn
  match stored with
  | .error exit => return ⟨b, calls, [], exit⟩
  | .ok packet =>
      let b := b.countPacket pkt.length
      let ep := { head := sn == b.maxSeqNo, cycle := b.cycles, arrival := arrivalTime, packet }
      match ← (b.inspectPayload ep).run with
      | .error err => return ⟨b, calls, [], .badPayload err⟩
      | .ok ep =>
          let (b, events) := b.finish crates sn ep arrivalTime
          return ⟨b, calls, events, .complete⟩

end Rsfu
