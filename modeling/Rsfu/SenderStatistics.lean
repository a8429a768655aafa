import Rsfu.PacketRetransmission
import Rsfu.TrackRuns

/-! The sender statistics of a down track. Packets of a simple track and retransmitted
ones overwrite the counters, those of a simulcast track are added to them. -/
namespace Rsfu
open GuardedRun
open Retransmission (headerCrates)

def Sent.media : Sent → Option Packet
  | .rtp packet => some packet
  | .pictureLossIndication _ _ => none

/-- The payload sizes of media packets, together. -/
def payloadBytes (packets : List Packet) : Nat := (packets.map fun p => p.payload.length).sum

structure SenderReport where
  ssrc : UInt32
  ntpTime : UInt64
  rtpTime : UInt32
  packetCount : UInt32
  octetCount : UInt32
  deriving DecidableEq, Repr

namespace DownTrack
variable {ε : Type}

def getSrStatus (d : DownTrack) : UInt32 × UInt32 := (d.octetCount, d.packetCount)

/-- `srRtp` is the answer of the receiver for the current layer, `nowNtp` the time of the call. -/
def createSenderReport (d : DownTrack) (srRtp : UInt32) (nowNtp : UInt64) : Option SenderReport :=
  if ¬ d.bound then none
  else if srRtp = 0 then none
  else
    let (octets, packets) := d.getSrStatus
    some { ssrc := d.ssrc, ntpTime := nowNtp, rtpTime := srRtp + 0, packetCount := packets, octetCount := octets }

theorem createSenderReport_counts {d : DownTrack} {srRtp : UInt32} {nowNtp : UInt64} {report : SenderReport}
    (created : d.createSenderReport srRtp nowNtp = some report) :
    (report.octetCount, report.packetCount) = d.getSrStatus := by
  unfold createSenderReport at created
  split at created
  · cases created
  · split at created
    · cases created
    · cases created
      rfl

/-- The counters once a packet of this payload size has passed. -/
def counted (d : DownTrack) (size : UInt32) : UInt32 × UInt32 :=
  match d.trackType with
  | .simpleDownTrack => (size, 1)
  | .simulcastDownTrack => (d.octetCount + size, d.packetCount + 1)

/-- A packet on a simple track is the first, one on a simulcast track finds a write stream. -/
def FirstOrAdded (d : DownTrack) (size : UInt32) : Prop :=
  match d.trackType with
  | .simpleDownTrack => d.getSrStatus = if d.writeStream then (0, 0) else (size, 1)
  | .simulcastDownTrack => d.writeStream = true

/-- A retransmitted packet is the first, its write succeeds, and what was counted with its
payload is the size of the whole packet. -/
def FirstWritten (d : DownTrack) (env : SendEnv ε) (payload size : UInt32) : Prop :=
  if d.writeStream then env.writeRtp.isOk = true ∧ d.octetCount + payload = size ∧ d.packetCount = 0
  else d.getSrStatus = (size, 1)

/-- The counters a packet should leave, if it is handed over. -/
def owed (d : DownTrack) (size : UInt32) : UInt32 × UInt32 :=
  if d.writeStream then (d.octetCount + size, d.packetCount + 1) else d.getSrStatus

theorem counted_owed_iff (d : DownTrack) (size : UInt32) : d.counted size = d.owed size ↔ d.FirstOrAdded size := by
  unfold counted owed FirstOrAdded getSrStatus
  cases d.trackType with
  | simpleDownTrack =>
      dsimp only
      split
      · simp only [Prod.mk.injEq]
        grind
      · exact eq_comm
  | simulcastDownTrack =>
      dsimp only
      split
      · rename_i stream
        exact iff_of_true rfl stream
      · rename_i silent
        simp only [Prod.mk.injEq, silent]
        grind

/-- The write of a stored packet, as far as the statistics go. -/
theorem writeStored_counts (d : DownTrack) (env : SendEnv ε) (pkt : Packet) (size : Nat) :
    (d.writeStored env pkt size).2.filterMap Sent.media = (if d.writeStream then [pkt] else []) ∧
      ((d.writeStored env pkt size).1.getSrStatus = d.owed (UInt32.ofNat pkt.payload.length) ↔
        d.FirstWritten env (UInt32.ofNat pkt.payload.length) (UInt32.ofNat size)) := by
  unfold writeStored writeRawRtp writePacket owed FirstWritten
  by_cases stream : d.writeStream = true
  · simp only [stream, if_true]
    cases env.writeRtp with
    | ok _ =>
        refine ⟨rfl, ?_⟩
        simp only [getSrStatus, updateStats, Prod.mk.injEq, Except.isOk, Except.toBool, true_and]
        grind
    | error _ =>
        refine ⟨rfl, ?_⟩
        simp only [getSrStatus, Prod.mk.injEq, Except.isOk, Except.toBool, Bool.false_eq_true, false_and, iff_false]
        grind
  · simp only [stream, Bool.false_eq_true, if_false]
    exact ⟨rfl, eq_comm⟩

theorem noteHead_counts (d : DownTrack) (pkt : ExtPacket) : (d.noteHead pkt).getSrStatus = d.getSrStatus := by
  rw [noteHead_frame]
  rfl

theorem numberSimple_counts (d : DownTrack) (pkt : ExtPacket) :
    (d.numberSimple pkt).getSrStatus = (UInt32.ofNat pkt.packet.payload.length, 1) := noteHead_counts _ pkt

theorem numberSimulcast_counts {d d' : DownTrack} {pkt : ExtPacket} (simulcast : d.trackType = .simulcastDownTrack)
    (h : d.numberSimulcast pkt = some d') :
    d'.getSrStatus = (d.octetCount + UInt32.ofNat pkt.packet.payload.length, d.packetCount + 1) := by
  obtain ⟨lastSsrc, tsOffset, lastTs, helpers, renumbered⟩ := renumberSource_frame pkt simulcast
  unfold numberSimulcast at h
  simp only [renumbered, Option.bind_eq_bind, Option.bind_eq_some_iff] at h
  obtain ⟨layered, filtered, h⟩ := h
  obtain ⟨temporalLayer, filters, rfl⟩ := layerVp8_frame filtered
  rw [noteHead_frame] at h
  cases h
  rfl

theorem writePacket_media (d : DownTrack) (env : SendEnv ε) (packet : Packet) :
    (d.writePacket env packet).sent.filterMap Sent.media = if d.writeStream then [packet] else [] := by
  rw [writePacket_sent]
  split <;> rfl

/-- What `write_rtp` does to the counters, and what it hands over. -/
def Counts (d : DownTrack) (pkt : ExtPacket) (layer : Nat) (w : Written ε) : Prop :=
  ¬ d.Admits pkt layer ∧ w.track = d ∧ w.sent.filterMap Sent.media = [] ∨
    d.Admits pkt layer ∧ w.track.getSrStatus = d.counted (UInt32.ofNat pkt.packet.payload.length) ∧
      ∃ packet : Packet, packet.payload = pkt.packet.payload ∧
        w.sent.filterMap Sent.media = if d.writeStream then [packet] else []

theorem writeSimpleRtp_counts {d : DownTrack} (env : SendEnv ε) (pkt : ExtPacket) (layer : Nat)
    (simple : d.trackType = .simpleDownTrack) (opened : d.enabled = true ∧ d.bound = true) :
    d.Counts pkt layer (d.writeSimpleRtp env pkt) := by
  have gate : d.Admits pkt layer ↔ ¬ (d.reSync = true ∧ d.kind = .video ∧ ¬ pkt.keyFrame = true) := by
    unfold Admits
    rw [and_iff_right opened.1, and_iff_right opened.2, simple]
    simp only [not_and, not_not]
  unfold writeSimpleRtp
  by_cases waits : d.reSync = true ∧ d.kind = .video ∧ ¬ pkt.keyFrame = true
  · rw [if_pos waits]
    exact Or.inl ⟨fun admits => gate.mp admits waits, rfl, rfl⟩
  · rw [if_neg waits]
    have kept := (numberSimple_forwards pkt simple).writeStream
    refine Or.inr ⟨gate.mpr waits, ?_,
      { pkt.packet with header := (d.numberSimple pkt).rewriteHeader pkt.packet.header }, rfl, ?_⟩
    · rw [writePacket_track, numberSimple_counts, counted, simple]
    · rw [writePacket_media, kept]

theorem writeSimulcastRtp_counts {d : DownTrack} {env : SendEnv ε} {pkt : ExtPacket} {layer : Nat} {w : Written ε}
    (simulcast : d.trackType = .simulcastDownTrack) (opened : d.enabled = true ∧ d.bound = true)
    (h : d.writeSimulcastRtp env pkt layer = some w) : d.Counts pkt layer w := by
  have gate : d.Admits pkt layer ↔
      d.currentSpatialLayer = layer ∧ ¬ (d.reSync = true ∧ ¬ pkt.keyFrame = true) := by
    unfold Admits
    rw [and_iff_right opened.1, and_iff_right opened.2, simulcast]
    simp only [not_and, not_not]
  unfold writeSimulcastRtp at h
  simp only at h
  split at h
  · rename_i other
    cases h
    exact Or.inl ⟨fun admits => other (gate.mp admits).1, rfl, rfl⟩
  · rename_i selected
    split at h
    · rename_i waits
      cases h
      exact Or.inl ⟨fun admits => (gate.mp admits).2 waits, rfl, rfl⟩
    · rename_i ready
      simp only [Option.bind_eq_bind, Option.bind_eq_some_iff] at h
      obtain ⟨d', numbered, h⟩ := h
      cases h
      have kept := (numberSimulcast_forwards simulcast numbered).writeStream
      refine Or.inr ⟨gate.mpr ⟨not_not.mp selected, ready⟩, ?_,
        { pkt.packet with header := d'.rewriteHeader pkt.packet.header }, rfl, ?_⟩
      · rw [writePacket_track, numberSimulcast_counts simulcast numbered, counted, simulcast]
      · rw [writePacket_media, kept]

theorem writeRtp_counts {d : DownTrack} {env : SendEnv ε} {pkt : ExtPacket} {layer : Nat} {w : Written ε}
    (h : d.writeRtp env pkt layer = some w) : d.Counts pkt layer w := by
  unfold writeRtp at h
  split at h
  · rename_i disabled
    cases h
    exact Or.inl ⟨fun admits => disabled admits.1, rfl, rfl⟩
  · split at h
    · rename_i unbound
      cases h
      exact Or.inl ⟨fun admits => unbound admits.2.1, rfl, rfl⟩
    · rename_i enabled bound
      have opened : d.enabled = true ∧ d.bound = true := ⟨not_not.mp enabled, not_not.mp bound⟩
      split at h
      · rename_i simple
        cases h
        exact writeSimpleRtp_counts env pkt layer simple opened
      · rename_i simulcast
        exact writeSimulcastRtp_counts simulcast opened h

end DownTrack

/-- A down track with the media packets handed to its write stream so far. -/
structure SendLedger where
  track : DownTrack
  handed : List Packet := []

/-- A call of `write_rtp`, or one entry of a call of `retransmit_packets`. -/
inductive MediaWrite (ε : Type) where
  | writeRtp (env : SendEnv ε) (pkt : ExtPacket) (layer : Nat)
  | retransmit (buffer : AtomicBuffer) (packet : PacketMeta) (env : SendEnv ε)

namespace SendLedger
variable {ε : Type} {checks : Bool} {crates : RtpCrates}

def step (checks : Bool) (crates : RtpCrates) (g : SendLedger) : MediaWrite ε → Option SendLedger
  | .writeRtp env pkt layer =>
      (g.track.writeRtp env pkt layer).map fun w => ⟨w.track, g.handed ++ w.sent.filterMap Sent.media⟩
  | .retransmit buffer packet env =>
      (Retransmission.retransmit checks crates buffer g.track packet env).map fun turned =>
        ⟨turned.1, g.handed ++ turned.2.filterMap Sent.media⟩

/-- The counters are the sum of the payload sizes handed over and the number of packets. -/
def Accumulates (g : SendLedger) : Prop :=
  g.track.getSrStatus = (UInt32.ofNat (payloadBytes g.handed), UInt32.ofNat g.handed.length)

theorem Accumulates.report {g : SendLedger} (right : g.Accumulates) {srRtp : UInt32} {nowNtp : UInt64}
    {report : SenderReport} (created : g.track.createSenderReport srRtp nowNtp = some report) :
    report.octetCount = UInt32.ofNat (payloadBytes g.handed) ∧
      report.packetCount = UInt32.ofNat g.handed.length :=
  Prod.mk.inj ((DownTrack.createSenderReport_counts created).trans right)

/-- When an operation moves the counters as it should. -/
def CountsOn (checks : Bool) (crates : RtpCrates) (g : SendLedger) : MediaWrite ε → Prop
  | .writeRtp env pkt layer =>
      (g.track.writeRtp env pkt layer).isSome = true → g.track.Admits pkt layer →
        g.track.FirstOrAdded (UInt32.ofNat pkt.packet.payload.length)
  | .retransmit buffer packet env =>
      ∀ data, buffer.getPacket checks 65535 packet.sourceSeqNo = some (.ok data) →
        ∀ p, crates.unmarshal data = some p → ∀ copy, g.track.payloadCopy packet p = some (.ok copy) →
          g.track.FirstWritten env (UInt32.ofNat p.payload.length) (UInt32.ofNat data.length)

theorem payloadBytes_append (handed more : List Packet) :
    payloadBytes (handed ++ more) = payloadBytes handed + payloadBytes more := by
  unfold payloadBytes
  rw [List.map_append, List.sum_append]

/-- The counters are right again exactly when they grew by what was handed over. -/
theorem accumulates_iff {g : SendLedger} (right : g.Accumulates) (d : DownTrack) (more : List Packet) :
    (SendLedger.mk d (g.handed ++ more)).Accumulates ↔
      d.getSrStatus = (g.track.octetCount + UInt32.ofNat (payloadBytes more),
        g.track.packetCount + UInt32.ofNat more.length) := by
  obtain ⟨octets, packets⟩ := Prod.mk.inj right
  unfold Accumulates
  dsimp only
  rw [payloadBytes_append, List.length_append, UInt32.ofNat_add, UInt32.ofNat_add, octets, packets]

theorem accumulates_same {g : SendLedger} (right : g.Accumulates) (d : DownTrack)
    (same : d.getSrStatus = g.track.getSrStatus) : (SendLedger.mk d (g.handed ++ [])).Accumulates := by
  rw [accumulates_iff right, same]
  exact congrArg₂ Prod.mk (UInt32.add_zero _).symm (UInt32.add_zero _).symm

theorem payloadBytes_single (p : Packet) : payloadBytes [p] = p.payload.length := by
  rw [payloadBytes, List.map_singleton, List.sum_singleton]

theorem accumulates_owed {g : SendLedger} (right : g.Accumulates) (d : DownTrack) (packet : Packet) :
    (SendLedger.mk d (g.handed ++ if g.track.writeStream then [packet] else [])).Accumulates ↔
      d.getSrStatus = g.track.owed (UInt32.ofNat packet.payload.length) := by
  rw [accumulates_iff right, DownTrack.owed]
  split
  · rw [payloadBytes_single]
    rfl
  · have zero : UInt32.ofNat 0 = 0 := rfl
    rw [payloadBytes, List.map_nil, List.sum_nil, List.length_nil, zero, UInt32.add_zero, UInt32.add_zero]
    rfl

theorem writeRtp_exact {g : SendLedger} (right : g.Accumulates) (env : SendEnv ε) (pkt : ExtPacket) (layer : Nat) :
    (∀ g', g.step checks crates (.writeRtp env pkt layer) = some g' → g'.Accumulates) ↔
      g.CountsOn checks crates (.writeRtp env pkt layer) := by
  dsimp only [step, CountsOn]
  cases written : g.track.writeRtp env pkt layer with
  | none =>
      rw [Option.map_none]
      exact iff_of_true (fun g' reached => by cases reached) fun done => absurd done Bool.false_ne_true
  | some w =>
      rw [Option.map_some]
      simp only [Option.some.injEq, forall_eq', Option.isSome_some, forall_const]
      rcases DownTrack.writeRtp_counts written with
        ⟨shut, same, none⟩ | ⟨admits, counts, packet, payload, media⟩
      · rw [none, same]
        exact iff_of_true (accumulates_same right _ rfl) fun admits => absurd admits shut
      · rw [media, accumulates_owed right, counts, payload, DownTrack.counted_owed_iff]
        exact (imp_iff_right admits).symm

theorem retransmit_exact {g : SendLedger} (right : g.Accumulates) (buffer : AtomicBuffer) (packet : PacketMeta)
    (env : SendEnv ε) :
    (∀ g', g.step checks crates (.retransmit buffer packet env) = some g' → g'.Accumulates) ↔
      g.CountsOn checks crates (.retransmit buffer packet env) := by
  dsimp only [step, CountsOn]
  have still : (SendLedger.mk g.track (g.handed ++ [])).Accumulates := accumulates_same right _ rfl
  unfold Retransmission.retransmit
  cases buffer.getPacket checks 65535 packet.sourceSeqNo with
  | none => exact iff_of_true (fun g' reached => by cases reached) fun _ read => by cases read
  | some answer =>
      cases answer with
      | error err =>
          refine iff_of_true (fun g' reached => ?_) fun _ read => by cases read
          cases reached
          exact still
      | ok data =>
          simp only [Option.some.injEq, Except.ok.injEq, forall_eq']
          cases crates.unmarshal data with
          | none =>
              refine iff_of_true (fun g' reached => ?_) fun _ parsed => by cases parsed
              cases reached
              exact still
          | some p =>
              simp only [Option.some.injEq, forall_eq']
              cases g.track.payloadCopy packet p with
              | none => exact iff_of_true (fun g' reached => by cases reached) fun _ copied => by cases copied
              | some copied =>
                  cases copied with
                  | error err =>
                      refine iff_of_true (fun g' reached => ?_) fun _ copied => by cases copied
                      cases reached
                      exact still
                  | ok copy =>
                      obtain ⟨media, counts⟩ := g.track.writeStored_counts env (g.track.retransmission packet p)
                        data.length
                      simp only [Option.map_some, Option.some.injEq, Except.ok.injEq, forall_eq']
                      rw [media, accumulates_owed right]
                      exact counts

theorem step_exact {g : SendLedger} (right : g.Accumulates) (op : MediaWrite ε) :
    (∀ g', g.step checks crates op = some g' → g'.Accumulates) ↔ g.CountsOn checks crates op := by
  cases op with
  | writeRtp env pkt layer => exact writeRtp_exact right env pkt layer
  | retransmit buffer packet env => exact retransmit_exact right buffer packet env

end SendLedger

/-- The calls that send media on a down track. -/
inductive SendCall (ε : Type) where
  | writeRtp (env : SendEnv ε) (pkt : ExtPacket) (layer : Nat)
  | retransmitPackets (buffers : Vector (Option AtomicBuffer) 3) (requests : List (PacketMeta × SendEnv ε))

namespace SendCall
variable {ε : Type} {checks : Bool} {crates : RtpCrates}

/-- The entries the loop gets to: a layer without a buffer ends it. -/
def entries (buffers : Vector (Option AtomicBuffer) 3) : List (PacketMeta × SendEnv ε) → List (MediaWrite ε)
  | [] => []
  | (packet, env) :: rest =>
      match buffers[packet.layer.toNat]? with
      | some (some buffer) => .retransmit buffer packet env :: entries buffers rest
      | _ => []

def ops : SendCall ε → List (MediaWrite ε)
  | .writeRtp env pkt layer => [.writeRtp env pkt layer]
  | .retransmitPackets buffers requests => entries buffers requests

def apply (checks : Bool) (crates : RtpCrates) (g : SendLedger) : SendCall ε → Option SendLedger
  | .writeRtp env pkt layer => g.step checks crates (.writeRtp env pkt layer)
  | .retransmitPackets buffers requests =>
      (Retransmission.retransmitPackets checks crates buffers g.track requests).map fun ran =>
        ⟨ran.1, g.handed ++ ran.2.filterMap Sent.media⟩

theorem retransmitPackets_ops {buffers : Vector (Option AtomicBuffer) 3} {requests : List (PacketMeta × SendEnv ε)}
    {g : SendLedger} {d : DownTrack} {sent : List Sent}
    (ran : Retransmission.retransmitPackets checks crates buffers g.track requests = some (d, sent)) :
    run (SendLedger.step checks crates) g (entries buffers requests) =
      some ⟨d, g.handed ++ sent.filterMap Sent.media⟩ := by
  induction requests generalizing g d sent with
  | nil =>
      cases ran
      rw [List.filterMap_nil, List.append_nil]
      rfl
  | cons request rest ih =>
      obtain ⟨packet, env⟩ := request
      unfold entries
      cases here : buffers[packet.layer.toNat]? with
      | none =>
          rw [Retransmission.retransmitPackets, here] at ran
          cases ran
      | some held =>
          cases held with
          | none =>
              rw [Retransmission.retransmitPackets, here] at ran
              cases ran
              rw [List.filterMap_nil, List.append_nil]
              rfl
          | some buffer =>
              obtain ⟨between, first, more, turned, later, rfl⟩ :=
                (Retransmission.retransmitPackets_cons here).mp ran
              refine run_cons_eq_some.mpr ⟨⟨between, g.handed ++ first.filterMap Sent.media⟩, ?_, ?_⟩
              · exact congrArg (Option.map _) turned
              · rw [ih (g := ⟨between, g.handed ++ first.filterMap Sent.media⟩) later, List.filterMap_append,
                  List.append_assoc]

/-- A call that completes is the run of its operations. -/
theorem apply_ops {g g' : SendLedger} {call : SendCall ε} (applied : call.apply checks crates g = some g') :
    run (SendLedger.step checks crates) g call.ops = some g' := by
  cases call with
  | writeRtp env pkt layer => exact run_cons_eq_some.mpr ⟨g', applied, rfl⟩
  | retransmitPackets buffers requests =>
      obtain ⟨ran, done, rfl⟩ := Option.map_eq_some_iff.mp applied
      exact retransmitPackets_ops done

theorem run_ops {g g' : SendLedger} {calls : List (SendCall ε)}
    (reached : run (fun g call => SendCall.apply checks crates g call) g calls = some g') :
    run (SendLedger.step checks crates) g (calls.flatMap ops) = some g' := by
  induction calls generalizing g with
  | nil => exact reached
  | cons call rest ih =>
      obtain ⟨next, first, later⟩ := run_cons_eq_some.mp reached
      rw [List.flatMap_cons, run_append, apply_ops first]
      exact ih later

/-- The statistics are right after every write of the calls. -/
def StatisticsRight (checks : Bool) (crates : RtpCrates) (d : DownTrack) (calls : List (SendCall ε)) : Prop :=
  ∀ before, before <+: calls.flatMap ops →
    ∀ g, run (SendLedger.step checks crates) { track := d } before = some g → g.Accumulates

/-- From a fresh track on, the statistics are right exactly when every write moves them
as it should. -/
theorem statistics_iff {d : DownTrack} (fresh : d.getSrStatus = (0, 0)) (calls : List (SendCall ε)) :
    StatisticsRight checks crates d calls ↔
      Guarded (SendLedger.step checks crates) (SendLedger.CountsOn checks crates) { track := d }
        (calls.flatMap ops) := by
  have start : (SendLedger.mk d []).Accumulates := fresh
  unfold StatisticsRight
  rw [← guarded_reaches_iff SendLedger.Accumulates start]
  exact guarded_iff SendLedger.Accumulates (fun g op right => SendLedger.step_exact right op)
    (fun g op g' right counts reached => (SendLedger.step_exact right op).mpr counts g' reached) start

def speaker : DownTrack where
  codec := ⟨"audio/opus", 48000, "", []⟩
  maxTrack := 0
  enabled := true
  bound := true
  writeStream := true

def speech (sn : UInt16) : SendCall Unit :=
  .writeRtp {} ⟨true, 0, 0, ⟨{ sequenceNumber := sn }, [1, 2, 3]⟩, false, {}⟩ 0

theorem statistics_iff_first : StatisticsRight true headerCrates speaker [speech 5] := by
  refine (statistics_iff rfl [speech 5]).mpr ⟨fun _ _ => ?_, fun _ _ => trivial⟩
  rfl

/-- After two packets of three bytes the counters say one packet of three bytes. -/
theorem second_packet_overwrites :
    speaker.getSrStatus = (0, 0) ∧ ¬ StatisticsRight true headerCrates speaker [speech 5, speech 6] := by
  have counts : (run (SendLedger.step true headerCrates) { track := speaker }
      ([speech 5, speech 6].flatMap ops)).map (fun g => (g.track.packetCount, g.handed.length)) = some (1, 2) := by
    decide +kernel
  refine ⟨rfl, fun all => ?_⟩
  obtain ⟨g, reached, left⟩ := Option.map_eq_some_iff.mp counts
  obtain ⟨packets, handed⟩ := Prod.mk.inj left
  have right := (Prod.mk.inj (all _ List.prefix_rfl g reached)).2
  rw [packets, handed] at right
  exact absurd right (by decide)

end SendCall

end Rsfu
