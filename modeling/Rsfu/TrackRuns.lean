import Rsfu.DownTrack
import Rsfu.GuardedRun

/-! Runs of a down track: the operations a subscription sees, and one description
of everything `write_rtp` can do to the numbering of a track of either type. -/
namespace Rsfu

namespace DownTrack
variable {ε : Type}

/-- A simulcast track that has sent before: `l_ts_calc` is still not 0 when the packet is numbered. -/
def Started (d : DownTrack) (pkt : ExtPacket) : Prop :=
  d.simulcast.lTsCalc ≠ 0 ∧ (d.reSync = true → pkt.arrival ≠ 0)

instance (d : DownTrack) (pkt : ExtPacket) : Decidable (d.Started pkt) :=
  inferInstanceAs (Decidable (_ ∧ _))

/-- The offset is computed anew for this packet. -/
def Recomputes (d : DownTrack) (pkt : ExtPacket) : Prop :=
  match d.trackType with
  | .simpleDownTrack => d.reSync = true ∧ d.lastSn ≠ 0
  | .simulcastDownTrack => d.Started pkt ∧ d.lastSsrc ≠ pkt.packet.header.ssrc

instance (d : DownTrack) (pkt : ExtPacket) : Decidable (d.Recomputes pkt) := by
  unfold Recomputes
  split <;> infer_instance

/-- A simulcast track that takes this packet for the first of its outgoing stream. -/
def Restarts (d : DownTrack) (pkt : ExtPacket) : Prop :=
  d.trackType = .simulcastDownTrack ∧ ¬ d.Started pkt

instance (d : DownTrack) (pkt : ExtPacket) : Decidable (d.Restarts pkt) :=
  inferInstanceAs (Decidable (_ ∧ _))

/-- What a forwarded packet does to the track. -/
structure Forwards (d : DownTrack) (pkt : ExtPacket) (d' : DownTrack) : Prop where
  bound : d'.bound = d.bound
  enabled : d'.enabled = d.enabled
  writeStream : d'.writeStream = d.writeStream
  trackType : d'.trackType = d.trackType
  codec : d'.codec = d.codec
  reSync : d'.reSync = false
  snOffset : d'.snOffset =
    if d.Recomputes pkt then pkt.packet.header.sequenceNumber - d.lastSn - 1 else d.snOffset
  lastSn : d'.lastSn =
    if pkt.head then pkt.packet.header.sequenceNumber - d'.snOffset
    else if d.Restarts pkt then pkt.packet.header.sequenceNumber else d.lastSn
  lTsCalc : d.trackType = .simulcastDownTrack → d'.simulcast.lTsCalc = pkt.arrival

/-- The packet gets past every gate of `write_rtp`. -/
def Admits (d : DownTrack) (pkt : ExtPacket) (layer : Nat) : Prop :=
  d.enabled = true ∧ d.bound = true ∧
    match d.trackType with
    | .simpleDownTrack => d.reSync = true → d.kind = .video → pkt.keyFrame = true
    | .simulcastDownTrack => d.currentSpatialLayer = layer ∧ (d.reSync = true → pkt.keyFrame = true)

instance (d : DownTrack) (pkt : ExtPacket) (layer : Nat) : Decidable (d.Admits pkt layer) := by
  unfold Admits
  split <;> infer_instance

theorem Admits.keyFrame {d : DownTrack} {pkt : ExtPacket} {layer : Nat} (admits : d.Admits pkt layer)
    (waits : d.reSync = true) (video : d.kind = .video) : pkt.keyFrame = true := by
  obtain ⟨-, -, gate⟩ := admits
  split at gate
  · exact gate waits video
  · exact gate.2 waits

/-- The packets sent for one `write_rtp`. -/
inductive WriteOutcome (d : DownTrack) (pkt : ExtPacket) (layer : Nat) : DownTrack → List Sent → Prop where
  | dropped : WriteOutcome d pkt layer d []
  | held (senderSsrc mediaSsrc : UInt32) :
      WriteOutcome d pkt layer d [.pictureLossIndication senderSsrc mediaSsrc]
  | silent {d' : DownTrack} (admits : d.Admits pkt layer) (noStream : d.writeStream = false)
      (forwards : d.Forwards pkt d') : WriteOutcome d pkt layer d' []
  | forwarded {d' : DownTrack} {packet : Packet} (admits : d.Admits pkt layer) (stream : d.writeStream = true)
      (forwards : d.Forwards pkt d')
      (sn : packet.header.sequenceNumber = pkt.packet.header.sequenceNumber - d'.snOffset) :
      WriteOutcome d pkt layer d' [.rtp packet]

theorem writePacket_track (d : DownTrack) (env : SendEnv ε) (packet : Packet) :
    (d.writePacket env packet).track = d := by
  unfold writePacket
  split <;> rfl

theorem writePacket_sent (d : DownTrack) (env : SendEnv ε) (packet : Packet) :
    (d.writePacket env packet).sent = if d.writeStream then [.rtp packet] else [] := by
  unfold writePacket
  split <;> rfl

theorem outcome_of_forwards {d d' : DownTrack} {pkt : ExtPacket} {layer : Nat} {packet : Packet}
    (admits : d.Admits pkt layer) (forwards : d.Forwards pkt d')
    (sn : packet.header.sequenceNumber = pkt.packet.header.sequenceNumber - d'.snOffset) (env : SendEnv ε) :
    WriteOutcome d pkt layer (d'.writePacket env packet).track (d'.writePacket env packet).sent := by
  rw [writePacket_track, writePacket_sent, forwards.writeStream]
  cases stream : d.writeStream with
  | true => exact .forwarded admits stream forwards sn
  | false => exact .silent admits stream forwards

theorem recomputes_simple {d : DownTrack} {pkt : ExtPacket} (simple : d.trackType = .simpleDownTrack) :
    d.Recomputes pkt ↔ d.reSync = true ∧ d.lastSn ≠ 0 := by
  unfold Recomputes
  rw [simple]

theorem changeSource_started (d : DownTrack) (pkt : ExtPacket) :
    (d.changeSource pkt).simulcast.lTsCalc ≠ 0 ↔ d.Started pkt := by
  unfold changeSource Started
  cases synced : d.reSync with
  | false =>
      simp only [Bool.false_eq_true, or_false, false_and, if_false, false_implies, and_true]
      split
      · split <;> rfl
      · rfl
  | true =>
      simp only [or_true, if_true, true_and, forall_const]
      by_cases started : d.simulcast.lTsCalc = 0
      · simp only [started, ne_eq, not_true_eq_false, if_false, false_and, iff_false, not_not]
        split
        · rfl
        · exact started
      · simp only [started, ne_eq, not_false_eq_true, if_true, true_and]
        split <;> rfl

theorem recomputes_simulcast {d : DownTrack} (pkt : ExtPacket) (simulcast : d.trackType = .simulcastDownTrack) :
    d.Recomputes pkt ↔
      (d.changeSource pkt).simulcast.lTsCalc ≠ 0 ∧ d.lastSsrc ≠ pkt.packet.header.ssrc := by
  unfold Recomputes
  rw [simulcast, changeSource_started]

theorem endReSync_frame (d : DownTrack) (hdr : Header) :
    d.endReSync hdr = { d with
      snOffset := if d.lastSn ≠ 0 then hdr.sequenceNumber - d.lastSn - 1 else d.snOffset
      tsOffset := if d.lastSn ≠ 0 then hdr.timestamp - d.lastTs - 1 else d.tsOffset
      lastSsrc := hdr.ssrc
      reSync := false } := by
  unfold endReSync
  split <;> rfl

theorem noteHead_frame (d : DownTrack) (pkt : ExtPacket) :
    d.noteHead pkt = { d with
      lastSn := if pkt.head then pkt.packet.header.sequenceNumber - d.snOffset else d.lastSn
      lastTs := if pkt.head then pkt.packet.header.timestamp - d.tsOffset else d.lastTs } := by
  unfold noteHead
  split <;> rfl

theorem numberSimple_forwards {d : DownTrack} (pkt : ExtPacket) (simple : d.trackType = .simpleDownTrack) :
    d.Forwards pkt (d.numberSimple pkt) := by
  have steady : ¬ d.Restarts pkt := fun restarts => by
    cases simple.symm.trans restarts.1
  have multi : d.trackType ≠ .simulcastDownTrack := fun simulcast => by
    cases simple.symm.trans simulcast
  unfold numberSimple
  cases synced : d.reSync with
  | false =>
      have kept : ¬ d.Recomputes pkt := fun recomputes => by
        have := ((recomputes_simple simple).mp recomputes).1
        cases synced.symm.trans this
      simp only [Bool.false_eq_true, if_false, noteHead_frame, updateStats]
      exact ⟨rfl, rfl, rfl, rfl, rfl, synced, (if_neg kept).symm,
        by rw [if_neg steady], fun simulcast => absurd simulcast multi⟩
  | true =>
      simp only [if_true, noteHead_frame, updateStats, endReSync_frame]
      refine ⟨rfl, rfl, rfl, rfl, rfl, rfl, ?_, by rw [if_neg steady], fun simulcast => absurd simulcast multi⟩
      by_cases unused : d.lastSn = 0
      · have kept : ¬ d.Recomputes pkt := fun recomputes => ((recomputes_simple simple).mp recomputes).2 unused
        rw [if_neg kept, if_neg (not_not_intro unused)]
      · rw [if_pos unused, if_pos ((recomputes_simple simple).mpr ⟨synced, unused⟩)]

theorem writeSimpleRtp_outcome {d : DownTrack} (env : SendEnv ε) (pkt : ExtPacket) (layer : Nat)
    (simple : d.trackType = .simpleDownTrack) (opened : d.enabled = true ∧ d.bound = true) :
    WriteOutcome d pkt layer (d.writeSimpleRtp env pkt).track (d.writeSimpleRtp env pkt).sent := by
  by_cases waits : d.reSync = true ∧ d.kind = .video ∧ ¬ pkt.keyFrame = true
  · have outcome : d.writeSimpleRtp env pkt =
        ⟨d, [.pictureLossIndication d.ssrc pkt.packet.header.ssrc], env.sendRtcp⟩ := if_pos waits
    rw [outcome]
    exact .held _ _
  · have admits : d.Admits pkt layer := by
      refine ⟨opened.1, opened.2, ?_⟩
      rw [simple]
      intro resync video
      exact not_not.mp fun other => waits ⟨resync, video, other⟩
    have outcome : d.writeSimpleRtp env pkt = (d.numberSimple pkt).writePacket env
        { pkt.packet with header := (d.numberSimple pkt).rewriteHeader pkt.packet.header } := if_neg waits
    rw [outcome]
    exact outcome_of_forwards admits (numberSimple_forwards pkt simple) rfl env

theorem settleTemporalLayer_frame (d : DownTrack) (tid : UInt8) :
    ∃ temporalLayer, d.settleTemporalLayer tid = { d with temporalLayer } := by
  unfold settleTemporalLayer
  simp only
  split
  · exact ⟨_, rfl⟩
  · exact ⟨d.temporalLayer, rfl⟩

theorem noteVp8_frame (d : DownTrack) (pkt : ExtPacket) (picId : UInt16) (tlz0Idx : UInt8) :
    ∃ simulcast, d.noteVp8 pkt picId tlz0Idx = { d with simulcast } := by
  unfold noteVp8
  split
  · exact ⟨_, rfl⟩
  · exact ⟨d.simulcast, rfl⟩

theorem setVp8TemporalLayer_frame {d : DownTrack} {pkt : ExtPacket} {r : DownTrack × Bytes × UInt16 × UInt8 × Bool}
    (h : d.setVp8TemporalLayer pkt = some r) :
    ∃ temporalLayer simulcast, r.1 = { d with temporalLayer, simulcast } := by
  obtain ⟨temporalLayer, settled⟩ := settleTemporalLayer_frame d pkt.payload.tid
  unfold setVp8TemporalLayer at h
  simp only [settled] at h
  split at h
  · cases h
    exact ⟨temporalLayer, d.simulcast, rfl⟩
  · simp only [rewriteVp8Payload, Option.bind_eq_bind, Option.bind_eq_some_iff] at h
    obtain ⟨head, -, rvBuf, -, rvBuf', -, rvBuf'', -, h⟩ := h
    cases h
    obtain ⟨simulcast, noted⟩ := noteVp8_frame { d with temporalLayer } pkt
      (pkt.payload.pictureId - d.simulcast.refPicId + d.simulcast.pRefPicId + 1)
      (pkt.payload.tl0PictureIdx - d.simulcast.refTlzIdx + d.simulcast.pRefTlzIdx + 1)
    exact ⟨temporalLayer, simulcast, noted⟩

theorem layerVp8_frame {d d' : DownTrack} {temporalSupported : Bool} {pkt : ExtPacket}
    (h : d.layerVp8 temporalSupported pkt = some d') :
    ∃ temporalLayer simulcast, d' = { d with temporalLayer, simulcast } := by
  unfold layerVp8 at h
  split at h
  · obtain ⟨r, set, rfl⟩ := Option.map_eq_some_iff.mp h
    exact setVp8TemporalLayer_frame set
  · cases h
    exact ⟨d.temporalLayer, d.simulcast, rfl⟩

theorem changeSource_frame (d : DownTrack) (pkt : ExtPacket) :
    ∃ simulcast, d.changeSource pkt = { d with simulcast, reSync := false } := by
  unfold changeSource
  simp only
  split
  · exact ⟨_, rfl⟩
  · rename_i same
    have synced : d.reSync = false := by
      cases found : d.reSync with
      | false => rfl
      | true => exact absurd (Or.inr found) same
    exact ⟨d.simulcast, by rw [← synced]⟩

/-- The two offsets of a packet on a simulcast track that passes. -/
theorem renumberSource_frame {d : DownTrack} (pkt : ExtPacket) (simulcast : d.trackType = .simulcastDownTrack) :
    ∃ lastSsrc tsOffset lastTs helpers, (d.changeSource pkt).renumberSource pkt =
      { d with
        reSync := false
        snOffset := if d.Recomputes pkt then pkt.packet.header.sequenceNumber - d.lastSn - 1 else d.snOffset
        lastSn := if d.Restarts pkt then pkt.packet.header.sequenceNumber else d.lastSn
        lastSsrc, tsOffset, lastTs, simulcast := helpers } := by
  obtain ⟨helpers, changed⟩ := changeSource_frame d pkt
  have recomputes := recomputes_simulcast pkt simulcast
  have restarts : d.Restarts pkt ↔ (d.changeSource pkt).simulcast.lTsCalc = 0 := by
    rw [← not_iff_not, ← ne_eq, changeSource_started]
    exact ⟨fun h => not_not.mp fun other => h ⟨simulcast, other⟩, fun started h => h.2 started⟩
  rw [changed] at recomputes restarts ⊢
  unfold renumberSource
  by_cases started : helpers.lTsCalc = 0
  · have kept : ¬ d.Recomputes pkt := fun again => (recomputes.mp again).1 started
    simp only [started, ne_eq, not_true_eq_false, false_and, if_false, if_true, kept, restarts.mpr started]
    exact ⟨_, _, _, _, rfl⟩
  · have running : ¬ d.Restarts pkt := fun again => started (restarts.mp again)
    by_cases other : d.lastSsrc = pkt.packet.header.ssrc
    · have kept : ¬ d.Recomputes pkt := fun again => (recomputes.mp again).2 other
      simp only [started, ne_eq, not_false_eq_true, other, not_true_eq_false, and_false, if_false, kept, running]
      exact ⟨_, _, _, _, by rw [← other]⟩
    · simp only [started, ne_eq, not_false_eq_true, other, and_self, if_true, recomputes.mpr ⟨started, other⟩,
        running, if_false]
      exact ⟨_, _, _, _, rfl⟩

/-- The track after a packet that passes on a simulcast track. -/
theorem numberSimulcast_frame {d d' : DownTrack} {pkt : ExtPacket} (simulcast : d.trackType = .simulcastDownTrack)
    (h : d.numberSimulcast pkt = some d') :
    ∃ (helpers : SimulcastTrackHelpers) (snOffset : UInt16)
      (tsOffset lastSsrc lastTs temporalLayer octetCount packetCount : UInt32),
      d' = { d with
        reSync := false
        lastSn :=
          if pkt.head then pkt.packet.header.sequenceNumber - snOffset
          else if d.Restarts pkt then pkt.packet.header.sequenceNumber else d.lastSn
        simulcast := { helpers with lTsCalc := pkt.arrival }
        snOffset, tsOffset, lastSsrc, lastTs, temporalLayer, octetCount, packetCount } ∧
      snOffset = (if d.Recomputes pkt then pkt.packet.header.sequenceNumber - d.lastSn - 1 else d.snOffset) ∧
      tsOffset = ((d.changeSource pkt).renumberSource pkt).tsOffset := by
  obtain ⟨lastSsrc, tsOffset, lastTs, helpers, renumbered⟩ := renumberSource_frame pkt simulcast
  unfold numberSimulcast at h
  simp only [renumbered, Option.bind_eq_bind, Option.bind_eq_some_iff] at h
  obtain ⟨d₁, layered, h⟩ := h
  obtain ⟨temporalLayer, filtered, rfl⟩ := layerVp8_frame layered
  rw [noteHead_frame] at h
  cases h
  refine ⟨filtered, _, tsOffset, lastSsrc, _, temporalLayer, _, _, rfl, rfl, ?_⟩
  rw [renumbered]

theorem numberSimulcast_forwards {d d' : DownTrack} {pkt : ExtPacket} (simulcast : d.trackType = .simulcastDownTrack)
    (h : d.numberSimulcast pkt = some d') : d.Forwards pkt d' := by
  obtain ⟨_, _, _, _, _, _, _, _, rfl, snOffset, -⟩ := numberSimulcast_frame simulcast h
  exact ⟨rfl, rfl, rfl, rfl, rfl, rfl, snOffset, rfl, fun _ => rfl⟩

theorem writeSimulcastRtp_outcome {d : DownTrack} {env : SendEnv ε} {pkt : ExtPacket} {layer : Nat}
    {r : Written ε} (simulcast : d.trackType = .simulcastDownTrack) (opened : d.enabled = true ∧ d.bound = true)
    (h : d.writeSimulcastRtp env pkt layer = some r) : WriteOutcome d pkt layer r.track r.sent := by
  unfold writeSimulcastRtp at h
  simp only at h
  split at h
  · cases h
    exact .dropped
  · rename_i selected
    split at h
    · cases h
      exact .held _ _
    · rename_i ready
      simp only [Option.bind_eq_bind, Option.bind_eq_some_iff] at h
      obtain ⟨d', numbered, h⟩ := h
      cases h
      have admits : d.Admits pkt layer := by
        refine ⟨opened.1, opened.2, ?_⟩
        rw [simulcast]
        exact ⟨not_not.mp selected, fun resync => not_not.mp fun other => ready ⟨resync, other⟩⟩
      exact outcome_of_forwards admits (numberSimulcast_forwards simulcast numbered) rfl env

theorem writeRtp_outcome {d : DownTrack} {env : SendEnv ε} {pkt : ExtPacket} {layer : Nat} {r : Written ε}
    (h : d.writeRtp env pkt layer = some r) : WriteOutcome d pkt layer r.track r.sent := by
  unfold writeRtp at h
  split at h
  · cases h
    exact .dropped
  · split at h
    · cases h
      exact .dropped
    · rename_i enabled bound
      have opened : d.enabled = true ∧ d.bound = true := ⟨not_not.mp enabled, not_not.mp bound⟩
      split at h
      · rename_i simple
        cases h
        exact writeSimpleRtp_outcome env pkt layer simple opened
      · rename_i simulcast
        exact writeSimulcastRtp_outcome simulcast opened h

end DownTrack

theorem DownTrack.mute_frame (d : DownTrack) (val : Bool) :
    ∃ enabled reSync, d.mute val = { d with enabled, reSync } := by
  unfold DownTrack.mute
  split
  · exact ⟨d.enabled, d.reSync, rfl⟩
  · exact ⟨!val, _, rfl⟩

theorem DownTrack.switchSpatialLayer_frame (d : DownTrack) (targetLayer : Int) (setAsMax queued : Bool) :
    ∃ targetSpatialLayer maxSpatialLayer, (d.switchSpatialLayer targetLayer setAsMax queued).1 =
      { d with targetSpatialLayer, maxSpatialLayer } := by
  unfold DownTrack.switchSpatialLayer
  split
  · split
    · exact ⟨d.targetSpatialLayer, d.maxSpatialLayer, rfl⟩
    · split
      · exact ⟨targetLayer, _, rfl⟩
      · exact ⟨d.targetSpatialLayer, d.maxSpatialLayer, rfl⟩
  · exact ⟨d.targetSpatialLayer, d.maxSpatialLayer, rfl⟩

theorem DownTrack.switchTemporalLayer_frame (d : DownTrack) (targetLayer : UInt32) (setAsMax : Bool) :
    ∃ temporalLayer maxTemporalLayer, d.switchTemporalLayer targetLayer setAsMax =
      { d with temporalLayer, maxTemporalLayer } := by
  unfold DownTrack.switchTemporalLayer
  simp only
  split
  · split
    · exact ⟨d.temporalLayer, d.maxTemporalLayer, rfl⟩
    · exact ⟨_, _, rfl⟩
  · exact ⟨d.temporalLayer, d.maxTemporalLayer, rfl⟩

/-- The operations of a subscription, each one atomic step. -/
inductive TrackOp (ε : Type) where
  | bind (t : TrackLocalContext) (now : Nat)
  | unbind
  | mute (val : Bool)
  | setInitialLayers (spatialLayer : Int) (temporalLayer : UInt32)
  | switchSpatialLayer (targetLayer : Int) (setAsMax queued : Bool)
  | switchSpatialLayerDone (layer : Int)
  | switchTemporalLayer (targetLayer : UInt32) (setAsMax : Bool)
  | writeRtp (env : SendEnv ε) (pkt : ExtPacket) (layer : Nat)

/-- One operation, with the packets it sends; a panic ends the run. -/
def DownTrack.apply {ε : Type} (d : DownTrack) : TrackOp ε → Option (DownTrack × List Sent)
  | .bind t now => some ((d.bind t now).1, [])
  | .unbind => some (d.unbind, [])
  | .mute val => some (d.mute val, [])
  | .setInitialLayers spatialLayer temporalLayer => some (d.setInitialLayers spatialLayer temporalLayer, [])
  | .switchSpatialLayer targetLayer setAsMax queued => some ((d.switchSpatialLayer targetLayer setAsMax queued).1, [])
  | .switchSpatialLayerDone layer => some (d.switchSpatialLayerDone layer, [])
  | .switchTemporalLayer targetLayer setAsMax => some (d.switchTemporalLayer targetLayer setAsMax, [])
  | .writeRtp env pkt layer => (d.writeRtp env pkt layer).map fun r => (r.track, r.sent)

namespace DownTrack
variable {ε : Type}

/-- A bind that finds its codec, or a mute of an enabled track. -/
def closes (d : DownTrack) : TrackOp ε → Bool
  | .bind t now => (d.bind t now).2.isSome
  | .mute val => val && d.enabled
  | _ => false

/-- What the operations other than `write_rtp` keep: the whole numbering, and the gate
unless they close it. -/
structure Keeps (d d' : DownTrack) (closed : Bool) : Prop where
  codec : d'.codec = d.codec
  trackType : d'.trackType = d.trackType
  numbering : d'.snOffset = d.snOffset ∧ d'.lastSn = d.lastSn ∧ d'.simulcast = d.simulcast
  gate : (closed = true → d'.reSync = true) ∧
    (closed = false → d'.reSync = d.reSync ∧ d'.writeStream = d.writeStream)

/-- An operation that leaves the flag and the stream alone keeps the gate as it was. -/
theorem Keeps.of_open {d d' : DownTrack} (codec : d'.codec = d.codec) (trackType : d'.trackType = d.trackType)
    (numbering : d'.snOffset = d.snOffset ∧ d'.lastSn = d.lastSn ∧ d'.simulcast = d.simulcast)
    (gate : d'.reSync = d.reSync ∧ d'.writeStream = d.writeStream) : Keeps d d' false :=
  ⟨codec, trackType, numbering, fun closed => (nomatch closed), fun _ => gate⟩

theorem bind_keeps (d : DownTrack) (t : TrackLocalContext) (now : Nat) :
    Keeps d (d.bind t now).1 (d.closes (.bind t now : TrackOp ε)) := by
  unfold DownTrack.bind closes
  cases found : codecParametersFuzzySearch d.codec t.codecParameters with
  | none =>
      simp only [DownTrack.bind, found]
      exact .of_open rfl rfl ⟨rfl, rfl, rfl⟩ ⟨rfl, rfl⟩
  | some codec =>
      simp only [DownTrack.bind, found]
      exact ⟨rfl, rfl, ⟨rfl, rfl, rfl⟩, fun _ => rfl, fun kept => (nomatch kept)⟩

theorem mute_keeps (d : DownTrack) (val : Bool) : Keeps d (d.mute val) (d.closes (.mute val : TrackOp ε)) := by
  unfold DownTrack.mute closes
  by_cases same : d.enabled = val
  · rw [if_neg (not_not_intro same), same]
    cases val with
    | true => exact ⟨rfl, rfl, ⟨rfl, rfl, rfl⟩, fun _ => rfl, fun kept => (nomatch kept)⟩
    | false => exact .of_open rfl rfl ⟨rfl, rfl, rfl⟩ ⟨rfl, rfl⟩
  · rw [if_pos same]
    cases val with
    | true =>
        have disabled : d.enabled = false := Bool.eq_false_iff.mpr same
        rw [disabled]
        exact .of_open rfl rfl ⟨rfl, rfl, rfl⟩ ⟨rfl, rfl⟩
    | false => exact .of_open rfl rfl ⟨rfl, rfl, rfl⟩ ⟨rfl, rfl⟩

theorem apply_writeRtp {d d' : DownTrack} {env : SendEnv ε} {pkt : ExtPacket} {layer : Nat} {sent : List Sent}
    (h : d.apply (.writeRtp env pkt layer) = some (d', sent)) : WriteOutcome d pkt layer d' sent := by
  obtain ⟨r, wrote, same⟩ := Option.map_eq_some_iff.mp h
  cases same
  exact writeRtp_outcome wrote

theorem apply_keeps {d d' : DownTrack} {op : TrackOp ε} {sent : List Sent}
    (other : ∀ env pkt layer, op ≠ .writeRtp env pkt layer) (h : d.apply op = some (d', sent)) :
    Keeps d d' (d.closes op) := by
  cases op with
  | bind t now =>
      cases h
      exact bind_keeps d t now
  | unbind =>
      cases h
      exact .of_open rfl rfl ⟨rfl, rfl, rfl⟩ ⟨rfl, rfl⟩
  | mute val =>
      cases h
      exact mute_keeps d val
  | setInitialLayers spatialLayer temporalLayer =>
      cases h
      exact .of_open rfl rfl ⟨rfl, rfl, rfl⟩ ⟨rfl, rfl⟩
  | switchSpatialLayer targetLayer setAsMax queued =>
      cases h
      obtain ⟨targetSpatialLayer, maxSpatialLayer, switched⟩ :=
        d.switchSpatialLayer_frame targetLayer setAsMax queued
      rw [switched]
      exact .of_open rfl rfl ⟨rfl, rfl, rfl⟩ ⟨rfl, rfl⟩
  | switchSpatialLayerDone layer =>
      cases h
      exact .of_open rfl rfl ⟨rfl, rfl, rfl⟩ ⟨rfl, rfl⟩
  | switchTemporalLayer targetLayer setAsMax =>
      cases h
      obtain ⟨temporalLayer, maxTemporalLayer, switched⟩ := d.switchTemporalLayer_frame targetLayer setAsMax
      rw [switched]
      exact .of_open rfl rfl ⟨rfl, rfl, rfl⟩ ⟨rfl, rfl⟩
  | writeRtp env pkt layer => exact absurd rfl (other env pkt layer)

/-- Nor do these operations touch the timestamps or the sequencer, but for a bind that starts a new one. -/
theorem apply_leaves {d d' : DownTrack} {op : TrackOp ε} {sent : List Sent}
    (other : ∀ env pkt layer, op ≠ .writeRtp env pkt layer) (applied : d.apply op = some (d', sent)) :
    d'.tsOffset = d.tsOffset ∧ d'.maxTrack = d.maxTrack ∧
      (d'.sequencer = d.sequencer ∨ ∃ now, d'.sequencer = .new d.maxTrack now) := by
  cases op with
  | bind t now =>
      cases applied
      unfold DownTrack.bind
      split
      · exact ⟨rfl, rfl, Or.inl rfl⟩
      · refine ⟨rfl, rfl, ?_⟩
        dsimp only
        split
        · exact Or.inr ⟨now, rfl⟩
        · exact Or.inl rfl
  | unbind =>
      cases applied
      exact ⟨rfl, rfl, Or.inl rfl⟩
  | mute val =>
      cases applied
      obtain ⟨enabled, reSync, muted⟩ := d.mute_frame val
      rw [muted]
      exact ⟨rfl, rfl, Or.inl rfl⟩
  | setInitialLayers spatialLayer temporalLayer =>
      cases applied
      exact ⟨rfl, rfl, Or.inl rfl⟩
  | switchSpatialLayer targetLayer setAsMax queued =>
      cases applied
      obtain ⟨target, max, switched⟩ := d.switchSpatialLayer_frame targetLayer setAsMax queued
      rw [switched]
      exact ⟨rfl, rfl, Or.inl rfl⟩
  | switchSpatialLayerDone layer =>
      cases applied
      exact ⟨rfl, rfl, Or.inl rfl⟩
  | switchTemporalLayer targetLayer setAsMax =>
      cases applied
      obtain ⟨temporal, max, switched⟩ := d.switchTemporalLayer_frame targetLayer setAsMax
      rw [switched]
      exact ⟨rfl, rfl, Or.inl rfl⟩
  | writeRtp env pkt layer => exact absurd rfl (other env pkt layer)

end DownTrack

/-- A condition on the packets that get past the gates. -/
def DownTrack.OnAdmitted {ε : Type} (d : DownTrack) (cond : ExtPacket → Prop) : TrackOp ε → Prop
  | .writeRtp _ pkt layer => d.Admits pkt layer → cond pkt
  | _ => True

instance {ε : Type} (d : DownTrack) (cond : ExtPacket → Prop) [DecidablePred cond] (op : TrackOp ε) :
    Decidable (d.OnAdmitted cond op) :=
  match op with
  | .writeRtp _ pkt layer => inferInstanceAs (Decidable (d.Admits pkt layer → cond pkt))
  | .bind _ _ | .unbind | .mute _ | .setInitialLayers _ _ | .switchSpatialLayer _ _ _ | .switchSpatialLayerDone _
  | .switchTemporalLayer _ _ => isTrue trivial

def vp8Capability : CodecCapability := ⟨"video/VP8", 90000, "", []⟩

def vp8Track : DownTrack := { codec := vp8Capability, maxTrack := 2 }

def vp8Context : TrackLocalContext := ⟨[⟨vp8Capability, 96⟩], 7, true⟩

def vp8Packet (sn : UInt16) (keyFrame : Bool) : ExtPacket :=
  ⟨true, 0, 1, { header := { sequenceNumber := sn } }, keyFrame, {}⟩

def sourcePacket (ssrc : UInt32) (sn : UInt16) : ExtPacket :=
  ⟨true, 0, 1, { header := { sequenceNumber := sn, ssrc } }, true, {}⟩

end Rsfu
