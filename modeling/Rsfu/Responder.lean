import Rsfu.Buffer
import Mathlib.Data.List.Sort

/-! The transport-wide congestion control responder: arrivals are collected by
`push` and turned into one feedback packet by `build_transport_cc_packet`. -/
namespace Rsfu

structure RtpExtInfo where
  extTsn : UInt32
  timestamp : Int := 0
  deriving DecidableEq, Repr

inductive SymbolTypeTcc where
  | packetNotReceived
  | packetReceivedSmallDelta
  | packetReceivedLargeDelta
  | packetReceivedWithoutDelta
  deriving DecidableEq, Repr

def SymbolTypeTcc.toU16 : SymbolTypeTcc → UInt16
  | .packetNotReceived => 0
  | .packetReceivedSmallDelta => 1
  | .packetReceivedLargeDelta => 2
  | .packetReceivedWithoutDelta => 3

inductive SymbolSizeTypeTcc where
  | oneBit
  | twoBit
  deriving DecidableEq, Repr

def SymbolSizeTypeTcc.toU16 : SymbolSizeTypeTcc → UInt16
  | .oneBit => 0
  | .twoBit => 1

/-- `push` compares elapsed times as f64 in front of an empty block; the
comparison is left out with the block. -/
structure Responder where
  extInfo : List RtpExtInfo := []
  lastReport : Int := 0
  cycles : UInt32 := 0
  lastExtSn : UInt32 := 0
  pktCtn : UInt8 := 0
  lastSn : UInt16 := 0
  mSsrc : UInt32
  sSsrc : UInt32
  len : UInt16 := 0
  deltaLen : Nat := 0
  payload : Bytes := []
  deltas : Bytes := []
  chunk : UInt16 := 0
  deriving DecidableEq, Repr

def setNBitsOfU16 (src size startIndex val : UInt16) : UInt16 :=
  if 16 < startIndex + size then 0
  else
    let val2 := val &&& ((1 <<< size) - 1)
    src ||| (val2 <<< (16 - size - startIndex))

def beBytes32 (v : UInt32) : Bytes :=
  ByteStore.beBytes (v >>> 16).toUInt16 ++ ByteStore.beBytes v.toUInt16

namespace Responder

/-- The random sender ssrc is an argument. -/
def new (ssrc sSsrc : UInt32) : Responder where
  mSsrc := ssrc
  sSsrc := sSsrc

def push (r : Responder) (sn : UInt16) (timeNs : Int) : Responder :=
  let cycles := if sn < 0x0fff ∧ r.lastSn > 0xf000 then r.cycles + (1 : UInt32) <<< 16 else r.cycles
  { r with
    cycles
    extInfo := r.extInfo ++ [⟨cycles ||| sn.toUInt32, timeNs.tdiv 100⟩]
    lastReport := if r.lastReport = 0 then timeNs else r.lastReport
    lastSn := sn }

/-- The order `sort_by` puts the arrivals in. The sort is stable. -/
def sortExtInfos (infos : List RtpExtInfo) : List RtpExtInfo :=
  infos.insertionSort fun a b => b.extTsn ≤ a.extTsn

/-- The range `first..last` of numbers nothing was received for. -/
def gapFill (first last : UInt32) : List RtpExtInfo :=
  (List.range' first.toNat (last.toNat - first.toNat)).map fun idx => ⟨UInt32.ofNat idx, 0⟩

/-- One turn of the collecting loop over `last_ext_sn` and `tcc_pkts`. -/
def collect (acc : UInt32 × List RtpExtInfo) (info : RtpExtInfo) : UInt32 × List RtpExtInfo :=
  if info.extTsn < acc.1 then acc
  else
    let fill := if acc.1 ≠ 0 then gapFill (acc.1 + 1) info.extTsn else []
    (info.extTsn, acc.2 ++ fill ++ [info])

/-- The list `tcc_pkts`, with `last_ext_sn` moved and the arrivals cleared. -/
def tccPkts (r : Responder) : Responder × List RtpExtInfo :=
  let (lastExtSn, pkts) := (sortExtInfos r.extInfo).foldl collect (r.lastExtSn, [])
  ({ r with lastExtSn, extInfo := [] }, pkts)

def writeHeader (r : Responder) (bSn packetCount : UInt16) (refTime : UInt32) : Responder :=
  { r with payload := r.payload ++ beBytes32 r.sSsrc ++ beBytes32 r.mSsrc ++ ByteStore.beBytes bSn ++
      ByteStore.beBytes packetCount ++ beBytes32 ((refTime <<< 8) ||| r.pktCtn.toUInt32) }

def writeRunLengthChunk (r : Responder) (symbol runLength : UInt16) : Responder :=
  { r with payload := r.payload ++ ByteStore.beBytes ((symbol <<< 13) ||| runLength) }

def createStatusSymbolChunk (r : Responder) (symbolSize : SymbolSizeTypeTcc) (symbol i : UInt16) :
    Responder :=
  let numOfBits := symbolSize.toU16 + 1
  { r with chunk := setNBitsOfU16 r.chunk numOfBits (numOfBits * i + 2) symbol }

def writeStatusSymbolChunk (r : Responder) (symbolSize : SymbolSizeTypeTcc) : Responder :=
  let chunk := setNBitsOfU16 (setNBitsOfU16 r.chunk 1 0 1) 1 1 symbolSize.toU16
  { r with payload := r.payload ++ ByteStore.beBytes chunk, chunk := 0, len := r.len + 2 }

def writeDelta (r : Responder) (deltaType : SymbolTypeTcc) (delta : UInt16) : Responder :=
  if deltaType = .packetReceivedSmallDelta then
    { r with deltas := r.deltas ++ [delta.toUInt8], deltaLen := r.deltaLen + 1 }
  else { r with deltas := r.deltas ++ ByteStore.beBytes delta, deltaLen := r.deltaLen + 2 }

/-- The locals of the status loop. -/
structure StatusLoop where
  firstRecv : Bool := false
  same : Bool := true
  timestamp : Int := 0
  lastStatus : SymbolTypeTcc := .packetReceivedWithoutDelta
  maxStatus : SymbolTypeTcc := .packetNotReceived
  statusList : List SymbolTypeTcc := []
  deriving DecidableEq, Repr

/-- `delta as i16`, saturated when the cast loses bits. -/
def saturatedDelta (delta : Int) : UInt16 :=
  let rDelta := Int.bmod delta 65536
  UInt16.ofInt (if rDelta ≠ delta then (if 0 < rDelta then 32767 else -32768) else rDelta)

/-- The first half of a turn: the status of an arrival, with the header at the
first received one and the delta of each received one. -/
def assignStatus (pkts : List RtpExtInfo) (r : Responder) (l : StatusLoop) (stat : RtpExtInfo) :
    Responder × StatusLoop × SymbolTypeTcc :=
  if stat.timestamp = 0 then (r, l, .packetNotReceived)
  else
    let refTime := stat.timestamp.tdiv 64000
    let (r, l) :=
      if l.firstRecv then (r, l)
      else
        let bSn := ((pkts.head?.map RtpExtInfo.extTsn).getD 0).toUInt16
        let r := r.writeHeader bSn (UInt16.ofNat pkts.length) (UInt32.ofInt refTime)
        ({ r with pktCtn := r.pktCtn + 1 }, { l with firstRecv := true, timestamp := refTime * 64000 })
    let delta := (stat.timestamp - l.timestamp).tdiv 250
    let l := { l with timestamp := stat.timestamp }
    if 0 ≤ delta ∧ delta ≤ 255 then
      (r.writeDelta .packetReceivedSmallDelta (UInt16.ofInt delta), l, .packetReceivedSmallDelta)
    else
      (r.writeDelta .packetReceivedLargeDelta (saturatedDelta delta), l, .packetReceivedLargeDelta)

/-- The symbols placed one after the other into the pending chunk. -/
def createChunk (r : Responder) (symbolSize : SymbolSizeTypeTcc) (symbols : List SymbolTypeTcc) :
    Responder :=
  (symbols.zipIdx.foldl (fun r symbol =>
    r.createStatusSymbolChunk symbolSize symbol.1.toU16 (UInt16.ofNat symbol.2)) r).writeStatusSymbolChunk
      symbolSize

def raiseMax (maxStatus status : SymbolTypeTcc) : SymbolTypeTcc :=
  if maxStatus.toU16 < status.toU16 then status else maxStatus

/-- One turn of the loop that summarises what a two-bit flush leaves behind. -/
def resummarise (l : StatusLoop) (status : SymbolTypeTcc) : StatusLoop :=
  { l with
    maxStatus := raiseMax l.maxStatus status
    same := l.same && !(l.lastStatus != .packetReceivedWithoutDelta && status != l.lastStatus)
    lastStatus := status }

/-- The run-length flush in front of a status that ends a run. -/
def endRun (r : Responder) (l : StatusLoop) (status : SymbolTypeTcc) : Responder × StatusLoop :=
  if l.same ∧ status ≠ l.lastStatus ∧ l.lastStatus ≠ .packetReceivedWithoutDelta then
    if 7 < l.statusList.length then
      (r.writeRunLengthChunk l.lastStatus.toU16 (UInt16.ofNat l.statusList.length),
        { l with statusList := [], maxStatus := .packetNotReceived })
    else (r, { l with same := false })
  else (r, l)

def enqueue (l : StatusLoop) (status : SymbolTypeTcc) : StatusLoop :=
  { l with
    statusList := l.statusList ++ [status]
    maxStatus := raiseMax l.maxStatus status
    lastStatus := status }

/-- The vector flushes behind it. -/
def flushVectors (r : Responder) (l : StatusLoop) : Responder × StatusLoop :=
  if ¬ l.same ∧ l.maxStatus = .packetReceivedLargeDelta ∧ 6 < l.statusList.length then
    let rest := l.statusList.drop 7
    (r.createChunk .twoBit (l.statusList.take 7),
      rest.foldl resummarise { l with
        statusList := rest
        lastStatus := .packetReceivedWithoutDelta
        maxStatus := .packetNotReceived
        same := true })
  else if ¬ l.same ∧ 13 < l.statusList.length then
    (r.createChunk .oneBit (l.statusList.take 14),
      { l with
        statusList := l.statusList.drop 14
        lastStatus := .packetReceivedWithoutDelta
        maxStatus := .packetNotReceived
        same := true })
  else (r, l)

/-- The second half of a turn: the status joins the pending list. -/
def encodeStatus (r : Responder) (l : StatusLoop) (status : SymbolTypeTcc) : Responder × StatusLoop :=
  let (r, l) := r.endRun l status
  r.flushVectors (enqueue l status)

/-- The status loop over `tcc_pkts`; it also answers the statuses assigned. -/
def statusLoop (pkts : List RtpExtInfo) :
    List RtpExtInfo → Responder → StatusLoop → Responder × StatusLoop × List SymbolTypeTcc
  | [], r, l => (r, l, [])
  | stat :: rest, r, l =>
      let (r, l, status) := assignStatus pkts r l stat
      let (r, l) := r.encodeStatus l status
      let (r, l, statuses) := statusLoop pkts rest r l
      (r, l, status :: statuses)

def finalFlush (r : Responder) (l : StatusLoop) : Responder :=
  if l.statusList.isEmpty then r
  else if l.same then
    r.writeRunLengthChunk l.lastStatus.toU16 (UInt16.ofNat l.statusList.length)
  else if l.maxStatus = .packetReceivedLargeDelta then r.createChunk .twoBit l.statusList
  else r.createChunk .oneBit l.statusList

/-- The `marshal_to` of the rtcp header: the bytes it puts into a slice of `room` bytes, or an error. -/
structure RtcpCrate where
  marshalHeader : (padding : Bool) → (length : UInt16) → (room : Nat) → Option Bytes

/-- The assembly of the packet behind the status chunks. -/
def assemble (crate : RtcpCrate) (r : Responder) : Responder × Option Bytes :=
  let pLen := r.len.toNat + r.deltaLen + 4
  let padSize := (4 - pLen % 4) % 4
  let pad := pLen ≠ 0
  -- the vector is empty, and so is the slice the header is marshalled into
  match crate.marshalHeader pad (UInt16.ofNat (pLen + padSize) / 4 - 1) 0 with
  | none => (r, none)
  | some header =>
      let raw := header ++ r.payload ++ r.deltas ++ (if pad then [UInt8.ofNat padSize] else [])
      ({ r with deltaLen := 0 }, some raw)

def buildTransportCcPacket (crate : RtcpCrate) (r : Responder) : Responder × Option Bytes :=
  if r.extInfo.isEmpty then (r, none)
  else
    let (r, pkts) := r.tccPkts
    let (r, l, _) := statusLoop pkts pkts r {}
    (r.finalFlush l).assemble crate

end Responder

end Rsfu
