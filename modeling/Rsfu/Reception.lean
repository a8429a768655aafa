import Rsfu.Buffer
import Rsfu.GuardedRun

/-! Runs of `calc`. An arrival carries the true sequence number its packet was
sent under; the run remembers, next to the buffer, what the true numbers say
should have happened. -/
namespace Rsfu
open SerialNumber

/-- The part of a buffer that tracking, the store and the queue read and write. -/
structure BufferCore where
  cycles : UInt32
  maxSeqNo : UInt16
  nack : Bool
  packetCount : UInt32
  bucket : Option Bucket
  nacker : Option NackQueue
  extPackets : List ExtPacket
  mime : String

def CalcExit.stored : CalcExit → Bool
  | .rejected _ => false
  | _ => true

/-- The exits behind the packet counter. -/
def CalcExit.counted : CalcExit → Bool
  | .rejected _ => false
  | .malformed => false
  | _ => true

def CalcExit.emitted : CalcExit → Bool
  | .complete => true
  | _ => false

namespace Buffer

def core (b : Buffer) : BufferCore :=
  ⟨b.cycles, b.maxSeqNo, b.nack, b.stats.packetCount, b.bucket, b.nacker, b.extPackets, b.mime⟩

@[simp] theorem probe_core (b : Buffer) (sn : UInt16) (ep : ExtPacket) : (b.probe sn ep).core = b.core := by
  unfold probe
  split <;> rfl

theorem noteTimestamp_frame (b : Buffer) (timestamp : UInt32) (arrivalTime : Int) :
    ∃ latestTimestamp latestTimestampTime,
      b.noteTimestamp timestamp arrivalTime = { b with latestTimestamp, latestTimestampTime } := by
  unfold noteTimestamp
  split <;> exact ⟨_, _, rfl⟩

theorem buildNackPacket_frame (b : Buffer) : ∃ nacker, b.buildNackPacket.1 = { b with nacker } := by
  unfold buildNackPacket
  split <;> exact ⟨_, rfl⟩

theorem reportBitrate_frame (b : Buffer) (arrivalTime diff : Int) :
    ∃ bitrate lastReport bitrateHelper,
      b.reportBitrate arrivalTime diff = { b with bitrate, lastReport, bitrateHelper } := by
  unfold reportBitrate
  split <;> exact ⟨_, _, _, rfl⟩

@[simp] theorem noteTimestamp_core (b : Buffer) (timestamp : UInt32) (arrivalTime : Int) :
    (b.noteTimestamp timestamp arrivalTime).core = b.core := by
  obtain ⟨latestTimestamp, latestTimestampTime, noted⟩ := b.noteTimestamp_frame timestamp arrivalTime
  rw [noted]
  rfl

@[simp] theorem reportBitrate_core (b : Buffer) (arrivalTime diff : Int) :
    (b.reportBitrate arrivalTime diff).core = b.core := by
  obtain ⟨bitrate, lastReport, bitrateHelper, reported⟩ := b.reportBitrate_frame arrivalTime diff
  rw [reported]
  rfl

/-- The queue a feedback round leaves behind. -/
def nackRound (c : BufferCore) : Option NackQueue :=
  c.nacker.map fun q => (q.pairs (c.cycles ||| c.maxSeqNo.toUInt32)).1

theorem buildNackPacket_core (b : Buffer) :
    b.buildNackPacket.1.core = { b.core with nacker := nackRound b.core } := by
  unfold buildNackPacket nackRound
  cases found : b.nacker with
  | none => simp only [core, found, Option.map_none]
  | some q => simp only [core, found, Option.map_some]

theorem finish_core (crates : RtpCrates) (b : Buffer) (sn : UInt16) (ep : ExtPacket) (arrivalTime : Int) :
    (b.finish crates sn ep arrivalTime).1.core =
      { b.core with extPackets := b.extPackets ++ [ep], nacker := nackRound b.core } := by
  have same : (b.probe sn ep).core = b.core := probe_core b sn ep
  simp only [core, BufferCore.mk.injEq] at same
  obtain ⟨cycles, maxSeqNo, nack, packetCount, bucket, nacker, extPackets, mime⟩ := same
  simp only [finish, reportBitrate_core, buildNackPacket_core, noteTimestamp_core]
  simp only [core, nackRound, cycles, maxSeqNo, nack, packetCount, bucket, nacker, extPackets, mime]

/-- What the end of `calc` writes besides the probe and the list of extended packets. -/
theorem finish_frame (crates : RtpCrates) (b : Buffer) (sn : UInt16) (ep : ExtPacket) (arrivalTime : Int) :
    ∃ extPackets latestTimestamp latestTimestampTime nacker bitrate lastReport bitrateHelper,
      (b.finish crates sn ep arrivalTime).1 =
        { b.probe sn ep with
          extPackets, latestTimestamp, latestTimestampTime, nacker, bitrate, lastReport, bitrateHelper } := by
  unfold finish
  dsimp only
  obtain ⟨latestTimestamp, latestTimestampTime, noted⟩ :=
    { b.probe sn ep with extPackets := (b.probe sn ep).extPackets ++ [ep] }.noteTimestamp_frame
      ep.packet.header.timestamp arrivalTime
  obtain ⟨nacker, built⟩ := buildNackPacket_frame
    { b.probe sn ep with
      extPackets := (b.probe sn ep).extPackets ++ [ep], latestTimestamp, latestTimestampTime }
  rw [noted, built]
  obtain ⟨bitrate, lastReport, bitrateHelper, reported⟩ := reportBitrate_frame
    { b.probe sn ep with
      extPackets := (b.probe sn ep).extPackets ++ [ep], latestTimestamp, latestTimestampTime, nacker }
    arrivalTime (arrivalTime - (b.probe sn ep).lastReport)
  exact ⟨_, _, _, _, _, _, _, reported⟩

theorem inspectPayload_head {b : Buffer} {ep ep' : ExtPacket}
    (h : (b.inspectPayload ep).run = some (.ok ep')) : ep'.head = ep.head := by
  unfold inspectPayload at h
  split at h
  · simp only [ExceptT.run_bind, ExceptT.run_pure, Option.bind_eq_bind, Option.bind_eq_some_iff] at h
    obtain ⟨r, -, h⟩ := h
    cases r with
    | error err => cases h
    | ok vp8 =>
        cases h
        rfl
  · split at h
    · simp only [ExceptT.run_bind, ExceptT.run_pure, ExceptT.run_lift, Option.bind_eq_bind,
        Option.bind_eq_some_iff] at h
      obtain ⟨r, read, h⟩ := h
      cases r with
      | error err => cases h
      | ok key =>
          cases h
          rfl
    · cases h
      rfl

/-- What `storePacket` did: the answer of the store, if there is one. -/
inductive StoreStep (crates : RtpCrates) (before : Option Bucket) (pkt : Bytes) (sn : UInt16) (latest : Bool) :
    Option Bucket → CalcExit → Prop where
  | noStore {exit} (had : before = none) (counted : exit.counted = true) :
      StoreStep crates before pkt sn latest none exit
  | refused {r r' err} (had : before = some r) (add : r.addPacket pkt sn latest = some (r', .error err)) :
      StoreStep crates before pkt sn latest (some r') (.rejected err)
  | malformed {r r' data} (had : before = some r) (add : r.addPacket pkt sn latest = some (r', .ok data))
      (bad : crates.unmarshal data = none) : StoreStep crates before pkt sn latest (some r') .malformed
  | accepted {r r' data packet exit} (had : before = some r)
      (add : r.addPacket pkt sn latest = some (r', .ok data)) (good : crates.unmarshal data = some packet)
      (counted : exit.counted = true) : StoreStep crates before pkt sn latest (some r') exit

theorem StoreStep.of_accepted {crates : RtpCrates} {r r' : Bucket} {pkt : Bytes} {sn : UInt16} {latest : Bool}
    {after : Option Bucket} {exit : CalcExit} (h : StoreStep crates (some r) pkt sn latest after exit)
    (add : r.addPacket pkt sn latest = some (r', .ok pkt)) (parses : (crates.unmarshal pkt).isSome) :
    after = some r' ∧ exit.counted = true := by
  cases h with
  | noStore had counted => cases had
  | refused had answer =>
      cases had
      cases add.symm.trans answer
  | malformed had answer bad =>
      cases had
      cases add.symm.trans answer
      rw [bad] at parses
      cases parses
  | accepted had answer good counted =>
      cases had
      cases add.symm.trans answer
      exact ⟨rfl, counted⟩

theorem StoreStep.of_refused {crates : RtpCrates} {r r' : Bucket} {pkt : Bytes} {sn : UInt16} {latest : Bool}
    {after : Option Bucket} {exit : CalcExit} {err : BufferError}
    (h : StoreStep crates (some r) pkt sn latest after exit)
    (add : r.addPacket pkt sn latest = some (r', .error err)) : after = some r' ∧ exit = .rejected err := by
  cases h with
  | noStore had counted => cases had
  | refused had answer =>
      cases had
      cases add.symm.trans answer
      exact ⟨rfl, rfl⟩
  | malformed had answer bad =>
      cases had
      cases add.symm.trans answer
  | accepted had answer good counted =>
      cases had
      cases add.symm.trans answer

theorem StoreStep.before {crates : RtpCrates} {r' : Bucket} {before : Option Bucket} {pkt : Bytes} {sn : UInt16}
    {latest : Bool} {exit : CalcExit} (h : StoreStep crates before pkt sn latest (some r') exit) :
    ∃ r, before = some r := by
  cases h with
  | refused had answer => exact ⟨_, had⟩
  | malformed had answer bad => exact ⟨_, had⟩
  | accepted had answer good counted => exact ⟨_, had⟩

/-- Everything one call of `calc` can do to the core of a buffer. -/
structure CalcStep (crates : RtpCrates) (b : Buffer) (pkt : Bytes) (arrivalTime : Int) (sn : UInt16)
    (c : Calc) : Prop where
  read : ByteStore.u16At pkt 2 = some sn
  calls : c.calls = (b.trackSequence sn arrivalTime).2
  cycles : c.buffer.cycles = (b.trackSequence sn arrivalTime).1.cycles
  maxSeqNo : c.buffer.maxSeqNo = (b.trackSequence sn arrivalTime).1.maxSeqNo
  nack : c.buffer.nack = b.nack
  mime : c.buffer.mime = b.mime
  packetCount : c.buffer.stats.packetCount =
    if c.exit.counted then b.stats.packetCount + 1 else b.stats.packetCount
  store : StoreStep crates b.bucket pkt sn (sn == c.buffer.maxSeqNo) c.buffer.bucket c.exit
  nacker : c.buffer.nacker = b.nacker.map fun q =>
    let called := c.calls.foldl NackQueue.call q
    if c.exit.emitted then (called.pairs (c.buffer.cycles ||| c.buffer.maxSeqNo.toUInt32)).1 else called
  emits : if c.exit.emitted
    then ∃ ep, c.buffer.extPackets = b.extPackets ++ [ep] ∧ ep.head = (sn == c.buffer.maxSeqNo)
    else c.buffer.extPackets = b.extPackets

theorem trackSequence_first {b : Buffer} (h : b.stats.packetCount = 0) (sn : UInt16) (arrivalTime : Int) :
    b.trackSequence sn arrivalTime = ({ b with baseSn := sn, maxSeqNo := sn, lastReport := arrivalTime }, []) :=
  if_pos h

theorem trackSequence_forward {b : Buffer} {sn : UInt16} (h : b.stats.packetCount ≠ 0)
    (clear : distance sn b.maxSeqNo &&& 0x8000 = 0) (arrivalTime : Int) :
    b.trackSequence sn arrivalTime =
      let cycles := if sn < b.maxSeqNo then b.cycles + maxSequenceNumber else b.cycles
      let calls := if b.nack then gapCalls cycles b.maxSeqNo sn else []
      ({ b.callNacker calls with cycles, maxSeqNo := sn }, calls) := by
  unfold trackSequence
  exact (if_neg h).trans (if_pos clear)

theorem trackSequence_late {b : Buffer} {sn : UInt16} (h : b.stats.packetCount ≠ 0)
    (set : distance sn b.maxSeqNo &&& 0x8000 ≠ 0) (arrivalTime : Int) :
    b.trackSequence sn arrivalTime =
      if b.nack ∧ 0 < distance sn b.maxSeqNo &&& 0x8000 then
        let calls := [.remove (extSn b.cycles b.maxSeqNo sn)]
        (b.callNacker calls, calls)
      else (b, []) := by
  unfold trackSequence
  exact (if_neg h).trans (if_neg set)

theorem trackSequence_frame (b : Buffer) (sn : UInt16) (arrivalTime : Int) :
    (b.trackSequence sn arrivalTime).1.core =
      { b.core with
        cycles := (b.trackSequence sn arrivalTime).1.cycles
        maxSeqNo := (b.trackSequence sn arrivalTime).1.maxSeqNo
        nacker := b.nacker.map fun q => (b.trackSequence sn arrivalTime).2.foldl NackQueue.call q } := by
  by_cases first : b.stats.packetCount = 0
  · simp only [trackSequence_first first, core, List.foldl_nil, Option.map_id']
  · by_cases clear : distance sn b.maxSeqNo &&& 0x8000 = 0
    · simp only [trackSequence_forward first clear, core, callNacker]
    · rw [trackSequence_late first clear]
      split
      · simp only [core, callNacker]
      · simp only [core, List.foldl_nil, Option.map_id']

/-- Besides the head and the queue, tracking writes the base and the report time, on the first packet. -/
theorem trackSequence_writes (b : Buffer) (sn : UInt16) (arrivalTime : Int) :
    ∃ cycles maxSeqNo nacker,
      (b.trackSequence sn arrivalTime).1 =
        { b with
          cycles, maxSeqNo, nacker
          baseSn := if b.stats.packetCount = 0 then sn else b.baseSn
          lastReport := if b.stats.packetCount = 0 then arrivalTime else b.lastReport } := by
  by_cases first : b.stats.packetCount = 0
  · rw [trackSequence_first first, if_pos first, if_pos first]
    exact ⟨_, _, _, rfl⟩
  · rw [if_neg first, if_neg first]
    by_cases clear : distance sn b.maxSeqNo &&& 0x8000 = 0
    · rw [trackSequence_forward first clear]
      exact ⟨_, _, _, rfl⟩
    · rw [trackSequence_late first clear]
      split <;> exact ⟨_, _, _, rfl⟩

theorem storePacket_frame {crates : RtpCrates} {b b' : Buffer} {pkt : Bytes} {sn : UInt16}
    {rv : Except CalcExit Packet} (h : b.storePacket crates pkt sn = some (b', rv)) :
    b'.core = { b.core with bucket := b'.bucket } ∧
      (∀ exit, rv = .error exit → exit.emitted = false ∧ exit.counted = false ∧
        StoreStep crates b.bucket pkt sn (sn == b.maxSeqNo) b'.bucket exit) ∧
      ∀ packet exit, rv = .ok packet → exit.counted = true →
        StoreStep crates b.bucket pkt sn (sn == b.maxSeqNo) b'.bucket exit := by
  unfold storePacket at h
  split at h
  · rename_i absent
    cases h
    refine ⟨rfl, fun exit err => (nomatch err), fun packet exit _ counted => ?_⟩
    rw [absent]
    exact .noStore rfl counted
  · rename_i r had
    simp only [Option.bind_eq_bind, Option.bind_eq_some_iff] at h
    obtain ⟨⟨r', answer⟩, add, h⟩ := h
    rw [had]
    cases answer with
    | error err =>
        cases h
        refine ⟨rfl, ?_, fun packet exit ok => (nomatch ok)⟩
        intro exit eq
        cases eq
        exact ⟨rfl, rfl, .refused rfl add⟩
    | ok data =>
        simp only at h
        split at h
        · rename_i bad
          cases h
          refine ⟨rfl, ?_, fun packet exit ok => (nomatch ok)⟩
          intro exit eq
          cases eq
          exact ⟨rfl, rfl, .malformed rfl add bad⟩
        · rename_i packet good
          cases h
          refine ⟨rfl, fun exit err => (nomatch err), ?_⟩
          intro packet' exit ok counted
          exact .accepted rfl add good counted

/-- The store is all that `storePacket` changes. -/
theorem storePacket_bucket {crates : RtpCrates} {b b' : Buffer} {pkt : Bytes} {sn : UInt16}
    {rv : Except CalcExit Packet} (h : b.storePacket crates pkt sn = some (b', rv)) :
    ∃ bucket, b' = { b with bucket } := by
  unfold storePacket at h
  split at h
  · cases h
    exact ⟨_, rfl⟩
  · simp only [Option.bind_eq_bind, Option.bind_eq_some_iff] at h
    obtain ⟨⟨r', answer⟩, add, h⟩ := h
    cases answer with
    | error err =>
        cases h
        exact ⟨_, rfl⟩
    | ok data =>
        simp only at h
        split at h
        · cases h
          exact ⟨_, rfl⟩
        · cases h
          exact ⟨_, rfl⟩

/-- A buffer once the packet is numbered and handed to the store. -/
structure Stored (b after : Buffer) (arrivalTime : Int) (sn : UInt16) : Prop where
  cycles : after.cycles = (b.trackSequence sn arrivalTime).1.cycles
  maxSeqNo : after.maxSeqNo = (b.trackSequence sn arrivalTime).1.maxSeqNo
  nack : after.nack = b.nack
  packetCount : after.stats.packetCount = b.stats.packetCount
  nacker : after.nacker = b.nacker.map fun q => (b.trackSequence sn arrivalTime).2.foldl NackQueue.call q
  extPackets : after.extPackets = b.extPackets
  mime : after.mime = b.mime

/-- A packet that is not emitted changes at most the counter from here on. -/
theorem Stored.silent {crates : RtpCrates} {b after b' : Buffer} {pkt : Bytes} {arrivalTime : Int} {sn : UInt16}
    {exit : CalcExit} {events : List BufferEvent} (stored : Stored b after arrivalTime sn)
    (read : ByteStore.u16At pkt 2 = some sn) (silent : exit.emitted = false)
    (same : b'.core = { after.core with
      packetCount := if exit.counted then after.stats.packetCount + 1 else after.stats.packetCount })
    (store : StoreStep crates b.bucket pkt sn (sn == after.maxSeqNo) after.bucket exit) :
    CalcStep crates b pkt arrivalTime sn ⟨b', (b.trackSequence sn arrivalTime).2, events, exit⟩ := by
  simp only [core, BufferCore.mk.injEq] at same
  obtain ⟨cycles, maxSeqNo, nack, packetCount, bucket, nacker, extPackets, mime⟩ := same
  refine ⟨read, rfl, cycles.trans stored.cycles, maxSeqNo.trans stored.maxSeqNo, nack.trans stored.nack,
    mime.trans stored.mime, ?_, ?_, ?_, ?_⟩
  · rw [packetCount, stored.packetCount]
  · rw [maxSeqNo, bucket]
    exact store
  · simp only [silent, Bool.false_eq_true, if_false]
    exact nacker.trans stored.nacker
  · simp only [silent, Bool.false_eq_true, if_false]
    exact extPackets.trans stored.extPackets

theorem Stored.complete {crates : RtpCrates} {b after : Buffer} {pkt : Bytes} {arrivalTime : Int} {sn : UInt16}
    {ep : ExtPacket} {events : List BufferEvent} (stored : Stored b after arrivalTime sn)
    (read : ByteStore.u16At pkt 2 = some sn) (headed : ep.head = (sn == after.maxSeqNo))
    (store : StoreStep crates b.bucket pkt sn (sn == after.maxSeqNo) after.bucket .complete) :
    CalcStep crates b pkt arrivalTime sn
      ⟨((after.countPacket pkt.length).finish crates sn ep arrivalTime).1, (b.trackSequence sn arrivalTime).2,
        events, .complete⟩ := by
  have finished := finish_core crates (after.countPacket pkt.length) sn ep arrivalTime
  simp only [core, BufferCore.mk.injEq] at finished
  obtain ⟨cycles, maxSeqNo, nack, packetCount, bucket, nacker, extPackets, mime⟩ := finished
  refine ⟨read, rfl, cycles.trans stored.cycles, maxSeqNo.trans stored.maxSeqNo, nack.trans stored.nack,
    mime.trans stored.mime, ?_, ?_, ?_, ?_⟩
  · refine packetCount.trans ?_
    change after.stats.packetCount + 1 = b.stats.packetCount + 1
    rw [stored.packetCount]
  · simp only [maxSeqNo, bucket]
    exact store
  · refine nacker.trans ?_
    simp only [nackRound, cycles, maxSeqNo]
    change Option.map _ after.nacker = _
    rw [stored.nacker, Option.map_map]
    rfl
  · refine ⟨ep, extPackets.trans ?_, headed.trans ?_⟩
    · change after.extPackets ++ [ep] = _
      rw [stored.extPackets]
    · rw [maxSeqNo]
      rfl

/-- Where one call of `calc` ends: at the store, at the payload, or with the packet taken in. -/
inductive CalcEnds (crates : RtpCrates) (b : Buffer) (pkt : Bytes) (arrivalTime : Int) (sn : UInt16) :
    Calc → Prop where
  | turnedAway {after exit}
      (store : (b.trackSequence sn arrivalTime).1.storePacket crates pkt sn = some (after, .error exit)) :
      CalcEnds crates b pkt arrivalTime sn ⟨after, (b.trackSequence sn arrivalTime).2, [], exit⟩
  | badPayload {after packet err}
      (store : (b.trackSequence sn arrivalTime).1.storePacket crates pkt sn = some (after, .ok packet)) :
      CalcEnds crates b pkt arrivalTime sn
        ⟨after.countPacket pkt.length, (b.trackSequence sn arrivalTime).2, [], .badPayload err⟩
  | takenIn {after packet ep}
      (store : (b.trackSequence sn arrivalTime).1.storePacket crates pkt sn = some (after, .ok packet))
      (headed : ep.head = (sn == after.maxSeqNo)) :
      CalcEnds crates b pkt arrivalTime sn
        ⟨((after.countPacket pkt.length).finish crates sn ep arrivalTime).1, (b.trackSequence sn arrivalTime).2,
          ((after.countPacket pkt.length).finish crates sn ep arrivalTime).2, .complete⟩

theorem calc_ends {crates : RtpCrates} {b : Buffer} {pkt : Bytes} {arrivalTime : Int} {c : Calc}
    (h : b.calc crates pkt arrivalTime = some c) :
    ∃ sn, ByteStore.u16At pkt 2 = some sn ∧ CalcEnds crates b pkt arrivalTime sn c := by
  unfold Buffer.calc at h
  simp only [Option.bind_eq_bind, Option.bind_eq_some_iff] at h
  obtain ⟨sn, read, ⟨after, answer⟩, store, h⟩ := h
  refine ⟨sn, read, ?_⟩
  cases answer with
  | error exit =>
      cases h
      exact .turnedAway store
  | ok packet =>
      simp only [Option.bind_eq_some_iff] at h
      obtain ⟨inspected, inspect, h⟩ := h
      cases inspected with
      | error err =>
          cases h
          exact .badPayload store
      | ok ep =>
          cases h
          exact .takenIn store (inspectPayload_head inspect)

/-- What the store did behind the numbering. -/
theorem stored_step {crates : RtpCrates} {b after : Buffer} {pkt : Bytes} {arrivalTime : Int} {sn : UInt16}
    {answer : Except CalcExit Packet}
    (store : (b.trackSequence sn arrivalTime).1.storePacket crates pkt sn = some (after, answer)) :
    Stored b after arrivalTime sn ∧
      (∀ exit, answer = .error exit → exit.emitted = false ∧ exit.counted = false ∧
        StoreStep crates b.bucket pkt sn (sn == after.maxSeqNo) after.bucket exit) ∧
      (∀ packet exit, answer = .ok packet → exit.counted = true →
        StoreStep crates b.bucket pkt sn (sn == after.maxSeqNo) after.bucket exit) := by
  have tracked := trackSequence_frame b sn arrivalTime
  obtain ⟨same, failed, passed⟩ := storePacket_frame store
  simp only [core, BufferCore.mk.injEq, true_and] at tracked same
  obtain ⟨nack₁, count₁, bucket₁, nacker₁, ext₁, mime₁⟩ := tracked
  obtain ⟨cycles₂, max₂, nack₂, count₂, nacker₂, ext₂, mime₂⟩ := same
  rw [bucket₁, ← max₂] at failed passed
  refine ⟨?_, failed, passed⟩
  exact ⟨cycles₂, max₂, nack₂.trans nack₁, count₂.trans count₁, nacker₂.trans nacker₁, ext₂.trans ext₁,
    mime₂.trans mime₁⟩

theorem calc_step {crates : RtpCrates} {b : Buffer} {pkt : Bytes} {arrivalTime : Int} {c : Calc}
    (h : b.calc crates pkt arrivalTime = some c) : ∃ sn, CalcStep crates b pkt arrivalTime sn c := by
  obtain ⟨sn, read, ends⟩ := calc_ends h
  refine ⟨sn, ?_⟩
  cases ends with
  | @turnedAway after exit store =>
      obtain ⟨stored, failed, -⟩ := stored_step store
      obtain ⟨silent, uncounted, refused⟩ := failed exit rfl
      refine stored.silent read silent ?_ refused
      rw [uncounted]
      rfl
  | @badPayload after packet err store =>
      obtain ⟨stored, -, passed⟩ := stored_step store
      exact stored.silent read rfl rfl (passed packet _ rfl rfl)
  | @takenIn after packet ep store headed =>
      obtain ⟨stored, -, passed⟩ := stored_step store
      exact stored.complete read headed (passed packet _ rfl rfl)

/-- A codec whose payload is not looked into takes every packet the store takes. -/
theorem calc_plain {crates : RtpCrates} {b : Buffer} {pkt : Bytes} {arrivalTime : Int} {sn : UInt16}
    {r r' : Bucket} {data : Bytes} (read : ByteStore.u16At pkt 2 = some sn) (vp8 : b.mime ≠ "video/vp8")
    (h264 : b.mime ≠ "video/h264") (had : b.bucket = some r)
    (add : r.addPacket pkt sn (sn == (b.trackSequence sn arrivalTime).1.maxSeqNo) = some (r', .ok data))
    (parses : (crates.unmarshal data).isSome) :
    ∃ c, b.calc crates pkt arrivalTime = some c ∧ c.exit = .complete := by
  have frame := trackSequence_frame b sn arrivalTime
  simp only [core, BufferCore.mk.injEq, true_and] at frame
  obtain ⟨-, -, bucket, -, -, mime⟩ := frame
  obtain ⟨packet, good⟩ := Option.isSome_iff_exists.mp parses
  have store : (b.trackSequence sn arrivalTime).1.storePacket crates pkt sn =
      some ({ (b.trackSequence sn arrivalTime).1 with bucket := some r' }, .ok packet) := by
    unfold storePacket
    simp only [bucket, had, add, good, Option.bind_eq_bind, Option.bind_some, pure]
  have plain : ∀ (b' : Buffer) (ep : ExtPacket), b'.mime = b.mime →
      (b'.inspectPayload ep).run = some (.ok ep) := by
    intro b' ep same
    unfold inspectPayload
    rw [same, if_neg vp8, if_neg h264]
    rfl
  let counted := countPacket { (b.trackSequence sn arrivalTime).1 with bucket := some r' } pkt.length
  let ep : ExtPacket :=
    { head := sn == counted.maxSeqNo, cycle := counted.cycles, arrival := arrivalTime, packet }
  let done := counted.finish crates sn ep arrivalTime
  refine ⟨⟨done.1, (b.trackSequence sn arrivalTime).2, done.2, .complete⟩, ?_, rfl⟩
  unfold Buffer.calc
  simp only [read, store, Option.bind_eq_bind, Option.bind_some]
  rw [plain counted ep mime]
  rfl

/-- A buffer as `new`, the handler setters and `bind` leave it. -/
def Opened (crates : RtpCrates) (b : Buffer) : Prop :=
  ∃ (ssrc : UInt32) (onTransportWideCc onFeedbackCallback onAudioLevel : Bool) (params : RtpParameters)
    (maxBitrate : UInt64),
    ({ new ssrc with onTransportWideCc, onFeedbackCallback, onAudioLevel }).bind crates params maxBitrate =
      some b

/-- A buffer no packet has been counted in. -/
structure Fresh (b : Buffer) : Prop where
  uncounted : b.stats.packetCount = 0
  noCycle : b.cycles = 0
  noPackets : b.extPackets = []
  pools : b.videoPoolLen = 1500 * 500 ∧ b.audioPoolLen = 1500 * 25
  bucket : ∀ r, b.bucket = some r → ∃ m ≤ 499, r = .new (1500 * (m + 1))
  nacker : ∀ q, b.nacker = some q → q = {}
  nack : b.nack = true → b.nacker.isSome

theorem bindFeedback_fresh {crates : RtpCrates} {b : Buffer} (fresh : b.Fresh) (typ : String) :
    (bindFeedback crates b typ).Fresh := by
  unfold bindFeedback
  split
  · exact { fresh with }
  · split
    · exact { fresh with }
    · split
      · refine { fresh with nacker := ?_, nack := fun _ => rfl }
        intro q found
        exact (Option.some.inj found).symm
      · exact fresh

theorem bindAudioLevel_fresh {crates : RtpCrates} {b : Buffer} (fresh : b.Fresh) (ext : String × Int) :
    (bindAudioLevel crates b ext).Fresh := by
  unfold bindAudioLevel
  split
  · exact { fresh with }
  · exact fresh

theorem bindStore_fresh {b : Buffer} (fresh : b.Fresh) : b.bindStore.Fresh := by
  unfold bindStore
  split
  · refine { fresh with bucket := fun r found => ⟨24, by decide, ?_⟩ }
    rw [← Option.some.inj found, fresh.pools.2]
  · split
    · refine { fresh with bucket := fun r found => ⟨499, by decide, ?_⟩ }
      rw [← Option.some.inj found, fresh.pools.1]
    · exact { fresh with }

theorem bindExtension_fresh {crates : RtpCrates} {b : Buffer} (fresh : b.Fresh) (params : RtpParameters) :
    (b.bindExtension crates params).Fresh := by
  unfold bindExtension
  split
  · exact { fresh with }
  · exact fresh

theorem fold_fresh {α : Type} {f : Buffer → α → Buffer} (keep : ∀ b x, b.Fresh → (f b x).Fresh)
    (xs : List α) {b : Buffer} (fresh : b.Fresh) : (xs.foldl f b).Fresh := by
  induction xs generalizing b with
  | nil => exact fresh
  | cons x xs ih => exact ih (keep b x fresh)

theorem bindFeatures_fresh {crates : RtpCrates} {b : Buffer} (fresh : b.Fresh) (params : RtpParameters)
    (codec : CodecCapability) : (b.bindFeatures crates params codec).Fresh := by
  unfold bindFeatures
  split
  · exact fold_fresh (fun b typ keep => bindFeedback_fresh keep typ) _ fresh
  · exact fold_fresh (fun b ext keep => bindAudioLevel_fresh keep ext) _ fresh
  · exact fresh

theorem bind_fresh {crates : RtpCrates} {b b' : Buffer} {params : RtpParameters} {maxBitrate : UInt64}
    (fresh : b.Fresh) (h : b.bind crates params maxBitrate = some b') : b'.Fresh := by
  unfold Buffer.bind at h
  simp only [Option.bind_eq_bind, Option.bind_eq_some_iff] at h
  obtain ⟨codec, -, h⟩ := h
  split at h
  · cases h
    refine { bindFeatures_fresh (bindExtension_fresh (bindStore_fresh ?_) params) params codec with }
    exact { fresh with }
  · cases h

theorem Opened.fresh {crates : RtpCrates} {b : Buffer} (opened : Opened crates b) : b.Fresh := by
  obtain ⟨ssrc, twcc, feedback, level, params, maxBitrate, bound⟩ := opened
  refine bind_fresh ?_ bound
  exact ⟨rfl, rfl, rfl, ⟨rfl, rfl⟩, fun r found => (nomatch found),
    fun q found => (nomatch found), fun on => (nomatch on)⟩

theorem bindFeedback_frame (crates : RtpCrates) (b : Buffer) (typ : String) :
    ∃ remb twcc nack nacker, bindFeedback crates b typ = { b with remb, twcc, nack, nacker } := by
  unfold bindFeedback
  split
  · exact ⟨_, _, _, _, rfl⟩
  · split
    · exact ⟨_, _, _, _, rfl⟩
    · split <;> exact ⟨_, _, _, _, rfl⟩

theorem bindAudioLevel_frame (crates : RtpCrates) (b : Buffer) (ext : String × Int) :
    ∃ audioLevel audioExt, bindAudioLevel crates b ext = { b with audioLevel, audioExt } := by
  unfold bindAudioLevel
  split <;> exact ⟨_, _, rfl⟩

theorem bindExtension_frame (crates : RtpCrates) (b : Buffer) (params : RtpParameters) :
    ∃ twccExt, b.bindExtension crates params = { b with twccExt } := by
  unfold bindExtension
  split <;> exact ⟨_, rfl⟩

theorem bindStore_frame (b : Buffer) : ∃ codecType bucket, b.bindStore = { b with codecType, bucket } := by
  unfold bindStore
  split
  · exact ⟨_, _, rfl⟩
  · split <;> exact ⟨_, _, rfl⟩

theorem bindFeedbacks_frame (crates : RtpCrates) (b : Buffer) (types : List String) :
    ∃ remb twcc nack nacker, types.foldl (bindFeedback crates) b = { b with remb, twcc, nack, nacker } := by
  induction types generalizing b with
  | nil => exact ⟨_, _, _, _, rfl⟩
  | cons typ rest ih =>
      obtain ⟨remb, twcc, nack, nacker, first⟩ := bindFeedback_frame crates b typ
      obtain ⟨remb', twcc', nack', nacker', later⟩ := ih { b with remb, twcc, nack, nacker }
      rw [List.foldl_cons, first, later]
      exact ⟨_, _, _, _, rfl⟩

theorem bindAudioLevels_frame (crates : RtpCrates) (b : Buffer) (exts : List (String × Int)) :
    ∃ audioLevel audioExt, exts.foldl (bindAudioLevel crates) b = { b with audioLevel, audioExt } := by
  induction exts generalizing b with
  | nil => exact ⟨_, _, rfl⟩
  | cons ext rest ih =>
      obtain ⟨audioLevel, audioExt, first⟩ := bindAudioLevel_frame crates b ext
      obtain ⟨audioLevel', audioExt', later⟩ := ih { b with audioLevel, audioExt }
      rw [List.foldl_cons, first, later]
      exact ⟨_, _, rfl⟩

/-- The fields that the features of a codec set. -/
theorem bindFeatures_frame (crates : RtpCrates) (b : Buffer) (params : RtpParameters) (codec : CodecCapability) :
    ∃ remb twcc nack nacker audioLevel audioExt,
      b.bindFeatures crates params codec = { b with remb, twcc, nack, nacker, audioLevel, audioExt } := by
  unfold bindFeatures
  split
  · obtain ⟨remb, twcc, nack, nacker, video⟩ := bindFeedbacks_frame crates b codec.rtcpFeedback
    exact ⟨_, _, _, _, _, _, video⟩
  · obtain ⟨audioLevel, audioExt, audio⟩ := bindAudioLevels_frame crates b params.headerExtensions
    exact ⟨_, _, _, _, _, _, audio⟩
  · exact ⟨_, _, _, _, _, _, rfl⟩

/-- What `bind` sets between the name of the codec and its last step. -/
theorem bindCodec_frame (crates : RtpCrates) (b : Buffer) (params : RtpParameters) (codec : CodecCapability) :
    ∃ codecType bucket twccExt remb twcc nack nacker audioLevel audioExt,
      (b.bindStore.bindExtension crates params).bindFeatures crates params codec =
        { b with codecType, bucket, twccExt, remb, twcc, nack, nacker, audioLevel, audioExt } := by
  obtain ⟨codecType, bucket, stored⟩ := b.bindStore_frame
  obtain ⟨twccExt, extended⟩ := bindExtension_frame crates { b with codecType, bucket } params
  obtain ⟨remb, twcc, nack, nacker, audioLevel, audioExt, featured⟩ :=
    bindFeatures_frame crates { b with codecType, bucket, twccExt } params codec
  rw [stored, extended, featured]
  exact ⟨_, _, _, _, _, _, _, _, _, rfl⟩

theorem bind_frame {crates : RtpCrates} {b b' : Buffer} {params : RtpParameters} {maxBitrate : UInt64}
    (h : b.bind crates params maxBitrate = some b') :
    ∃ clockRate mime codecType bucket twccExt remb twcc nack nacker audioLevel audioExt,
      b' = { b with
        clockRate, maxBitrate, mime, codecType, bucket, twccExt, remb, twcc, nack, nacker, audioLevel, audioExt
        bound := true } := by
  unfold Buffer.bind at h
  simp only [Option.bind_eq_bind, Option.bind_eq_some_iff] at h
  obtain ⟨codec, -, h⟩ := h
  split at h
  · cases h
    obtain ⟨codecType, bucket, twccExt, remb, twcc, nack, nacker, audioLevel, audioExt, made⟩ := bindCodec_frame
      crates { b with clockRate := codec.clockRate, maxBitrate, mime := RustText.toLowercase codec.mimeType }
      params codec
    rw [made]
    exact ⟨_, _, _, _, _, _, _, _, _, _, _, rfl⟩
  · cases h

/-- What `bind` leaves alone once the store is there. -/
def unread (b : Buffer) : Int × Int × UInt16 × Option Bucket :=
  (b.lastReport, b.minPacketProbe, b.maxSeqNo, b.bucket)

theorem bindFeatures_unread (crates : RtpCrates) (b : Buffer) (params : RtpParameters) (codec : CodecCapability) :
    ((b.bindExtension crates params).bindFeatures crates params codec).unread = b.unread := by
  obtain ⟨twccExt, extended⟩ := bindExtension_frame crates b params
  obtain ⟨remb, twcc, nack, nacker, audioLevel, audioExt, featured⟩ :=
    bindFeatures_frame crates { b with twccExt } params codec
  rw [extended, featured]
  rfl

/-- A bound buffer that has taken no packet in yet. -/
structure Unread (b : Buffer) : Prop where
  bound : b.bound = true
  lastReport : b.lastReport = 0
  minPacketProbe : b.minPacketProbe = 0
  maxSeqNo : b.maxSeqNo = 0
  bucket : ∀ r, b.bucket = some r → ∃ m, 1 ≤ m ∧ r = .new (1500 * (m + 1))

theorem bindStore_unread {b : Buffer} (pools : b.videoPoolLen = 1500 * 500 ∧ b.audioPoolLen = 1500 * 25)
    (unstored : b.bucket = none) :
    b.bindStore.lastReport = b.lastReport ∧ b.bindStore.minPacketProbe = b.minPacketProbe ∧
      b.bindStore.maxSeqNo = b.maxSeqNo ∧
      ∀ r, b.bindStore.bucket = some r → ∃ m, 1 ≤ m ∧ r = .new (1500 * (m + 1)) := by
  unfold bindStore
  split
  · refine ⟨rfl, rfl, rfl, fun r found => ⟨24, by decide, ?_⟩⟩
    rw [← Option.some.inj found, pools.2]
  · split
    · refine ⟨rfl, rfl, rfl, fun r found => ⟨499, by decide, ?_⟩⟩
      rw [← Option.some.inj found, pools.1]
    · refine ⟨rfl, rfl, rfl, fun r found => ?_⟩
      cases unstored.symm.trans found

theorem bind_unread {crates : RtpCrates} {b b' : Buffer} {params : RtpParameters} {maxBitrate : UInt64}
    (pools : b.videoPoolLen = 1500 * 500 ∧ b.audioPoolLen = 1500 * 25) (unstored : b.bucket = none)
    (idle : b.lastReport = 0 ∧ b.minPacketProbe = 0 ∧ b.maxSeqNo = 0)
    (h : b.bind crates params maxBitrate = some b') : b'.Unread := by
  unfold Buffer.bind at h
  simp only [Option.bind_eq_bind, Option.bind_eq_some_iff] at h
  obtain ⟨codec, -, h⟩ := h
  let named := { b with
    clockRate := codec.clockRate
    maxBitrate
    mime := RustText.toLowercase codec.mimeType }
  obtain ⟨lastReport, minPacketProbe, maxSeqNo, bucket⟩ := bindStore_unread (b := named) pools unstored
  split at h
  · cases h
    have same := bindFeatures_unread crates named.bindStore params codec
    simp only [Buffer.unread, Prod.mk.injEq] at same
    obtain ⟨kept_report, kept_probe, kept_number, kept_bucket⟩ := same
    obtain ⟨no_report, no_probe, no_number⟩ := idle
    refine ⟨rfl, kept_report.trans (lastReport.trans no_report), kept_probe.trans (minPacketProbe.trans no_probe),
      kept_number.trans (maxSeqNo.trans no_number), ?_⟩
    intro r found
    exact bucket r (kept_bucket.symm.trans found)
  · cases h

theorem Opened.unread {crates : RtpCrates} {b : Buffer} (opened : Opened crates b) : b.Unread := by
  obtain ⟨ssrc, twcc, feedback, level, params, maxBitrate, bound⟩ := opened
  exact bind_unread ⟨rfl, rfl⟩ rfl ⟨rfl, rfl, rfl⟩ bound

end Buffer

/-- A packet handed to `calc`, with the true sequence number it was sent under. -/
structure Arrival where
  seq : Nat
  pkt : Bytes
  time : Int

/-- The packet carries the low half of its true number. -/
def Arrival.Numbered (a : Arrival) : Prop := ByteStore.u16At a.pkt 2 = some (UInt16.ofNat a.seq)

/-- The first counted true number and the highest since. -/
structure Span where
  first : Nat
  high : Nat
  deriving DecidableEq, Repr

/-- A buffer with the history of its arrivals: the span of true numbers, the
packet last stored under each number, the numbers that arrived since the first
counted one, the numbers dropped by feedback rounds, every call on the queue of missing numbers, and for
each emitted packet its number and the highest number at that moment. -/
structure Reception where
  buffer : Buffer
  span : Option Span := none
  kept : Nat → Option Bytes := fun _ => none
  arrived : List Nat := []
  retired : List UInt32 := []
  calls : List NackCall := []
  moments : List (Nat × Nat) := []

namespace Reception

def spanAfter (span : Option Span) (seq : Nat) (exit : CalcExit) : Option Span :=
  match span with
  | some s => some { s with high := max s.high seq }
  | none => if exit.counted then some ⟨seq, seq⟩ else none

/-- The numbers a feedback round takes off the queue. -/
def retiredBy (before : Option NackQueue) (calls : List NackCall) (after : Option NackQueue) : List UInt32 :=
  match before, after with
  | some q, some q' =>
      ((calls.foldl NackQueue.call q).nacks.map Nack.seqNumber).filter fun n =>
        !(q'.nacks.map Nack.seqNumber).contains n
  | _, _ => []

def record (g : Reception) (a : Arrival) (c : Buffer.Calc) : Reception where
  buffer := c.buffer
  span := spanAfter g.span a.seq c.exit
  kept := if c.exit.stored then Function.update g.kept a.seq (some a.pkt) else g.kept
  arrived := if (spanAfter g.span a.seq c.exit).isSome then a.seq :: g.arrived else g.arrived
  retired := g.retired ++ retiredBy g.buffer.nacker c.calls c.buffer.nacker
  calls := g.calls ++ c.calls
  moments :=
    if c.exit.emitted then
      g.moments ++ [(a.seq, ((spanAfter g.span a.seq c.exit).map Span.high).getD a.seq)]
    else g.moments

/-- One call of `calc`; a panic ends the run. -/
def receive (crates : RtpCrates) (g : Reception) (a : Arrival) : Option Reception :=
  (g.buffer.calc crates a.pkt a.time).map (g.record a)

end Reception

/-- The crates as they answer for packets with a bare header of twelve bytes. -/
def bareCrates : RtpCrates where
  unmarshal
    | 0x80 :: kind :: hi :: lo :: t3 :: t2 :: t1 :: t0 :: s3 :: s2 :: s1 :: s0 :: payload =>
        some {
          payload
          header := {
            marker := kind >>> 7 == 1
            payloadType := kind &&& 0x7f
            sequenceNumber := ByteStore.beU16 hi lo
            timestamp := ((ByteStore.beU16 t3 t2).toUInt32 <<< 16) ||| (ByteStore.beU16 t1 t0).toUInt32
            ssrc := ((ByteStore.beU16 s3 s2).toUInt32 <<< 16) ||| (ByteStore.beU16 s1 s0).toUInt32 } }
    | _ => none
  audioLevel
    | octet :: _ => some (octet &&& 0x7f)
    | [] => none
  transportCcUri := "http://www.ietf.org/id/draft-holmer-rmcat-transport-wide-cc-extensions-01"
  audioLevelUri := "urn:ietf:params:rtp-hdrext:ssrc-audio-level"
  fbGoogRemb := "goog-remb"
  fbTransportCc := "transport-cc"
  fbNack := "nack"

/-- A packet with a bare header and a payload of one byte. -/
def bareArrival (seq : Nat) : Arrival where
  seq
  pkt := [0x80, 111] ++ ByteStore.beBytes (UInt16.ofNat seq) ++ [0, 0, 0, 0, 0, 0, 0, 1, 1]
  time := 0

theorem bareArrival_numbered (seq : Nat) : (bareArrival seq).Numbered := by
  refine congrArg some ?_
  exact ByteStore.beU16_beBytes _

theorem bareArrival_parses (seq : Nat) : (bareCrates.unmarshal (bareArrival seq).pkt).isSome := rfl

def opusBuffer : Buffer :=
  { Buffer.new 1 with
    clockRate := 48000
    mime := "audio/opus"
    codecType := .audio
    bucket := some (.new (1500 * 25))
    bound := true }

theorem opusBuffer_opened : opusBuffer.Opened bareCrates :=
  ⟨1, false, false, false, ⟨[], [⟨"audio/opus", 48000, "", []⟩]⟩, 0, rfl⟩

def vp9Buffer : Buffer :=
  { Buffer.new 1 with
    clockRate := 90000
    mime := "video/vp9"
    codecType := .video
    bucket := some (.new (1500 * 500))
    nack := true
    nacker := some {}
    bound := true }

theorem vp9Buffer_opened : vp9Buffer.Opened bareCrates :=
  ⟨1, false, false, false, ⟨[], [⟨"video/vp9", 90000, "", ["nack"]⟩]⟩, 0, rfl⟩

end Rsfu
