import Rsfu.TrackRuns
import Rsfu.Vp8Rewriting

/-! The temporal filter of a simulcast VP8 track. It copies into a buffer that
has no room, so it panics on every payload it is to rewrite, and the track ignores
its early answer for a packet above the current layer. -/
namespace Rsfu
open GuardedRun

namespace DownTrack
variable {ε : Type}

/-- The track as the filter finds it, with the source of the packet settled. -/
def atFilter (d : DownTrack) (pkt : ExtPacket) : DownTrack := (d.changeSource pkt).renumberSource pkt

structure TemporalActive (d : DownTrack) : Prop where
  simulcast : d.trackType = .simulcastDownTrack
  supported : d.simulcast.temporalSupported = true
  vp8 : d.mime = "video/vp8"

instance (d : DownTrack) : Decidable d.TemporalActive :=
  decidable_of_iff (d.trackType = .simulcastDownTrack ∧ d.simulcast.temporalSupported = true ∧ d.mime = "video/vp8")
    ⟨fun ⟨simulcast, supported, vp8⟩ => ⟨simulcast, supported, vp8⟩,
      fun active => ⟨active.simulcast, active.supported, active.vp8⟩⟩

/-- The two halves of the layer word. -/
def currentTemporal (d : DownTrack) : UInt16 := d.temporalLayer.toUInt16

def targetTemporal (d : DownTrack) : UInt16 := (d.temporalLayer >>> 16).toUInt16

/-- No switch is pending and the packet is of a higher layer. -/
def AboveLayer (d : DownTrack) (pkt : ExtPacket) : Prop :=
  d.targetTemporal = d.currentTemporal ∧ d.currentTemporal.toUInt8 < pkt.payload.tid

instance (d : DownTrack) (pkt : ExtPacket) : Decidable (d.AboveLayer pkt) := inferInstanceAs (Decidable (_ ∧ _))

/-- The picture number a packet is to carry, in the width of its field. -/
def rebasedPicId (d : DownTrack) (pkt : ExtPacket) : UInt16 :=
  UInt16.ofNat ((pkt.payload.pictureId - d.simulcast.refPicId + d.simulcast.pRefPicId + 1).toNat %
    if pkt.payload.mbit then 2 ^ 15 else 2 ^ 7)

def rebasedTl0 (d : DownTrack) (pkt : ExtPacket) : UInt8 :=
  pkt.payload.tl0PictureIdx - d.simulcast.refTlzIdx + d.simulcast.pRefTlzIdx + 1

/-- What the filter is for, said of one packet on an active track. -/
structure FiltersPacket (d : DownTrack) (env : SendEnv ε) (pkt : ExtPacket) (layer : Nat) : Prop where
  completes : d.Admits pkt layer → ((d.atFilter pkt).setVp8TemporalLayer pkt).isSome = true
  holdsBack : d.AboveLayer pkt → ∀ d' sent, d.apply (.writeRtp env pkt layer) = some (d', sent) →
    ∀ packet, Sent.rtp packet ∉ sent
  commits : d.Admits pkt layer → d.targetTemporal ≠ d.currentTemporal →
    ∀ d' sent, d.apply (.writeRtp env pkt layer) = some (d', sent) → d'.targetTemporal = d.targetTemporal ∧
      d'.currentTemporal = if pkt.payload.tid ≤ d.targetTemporal.toUInt8 then d.targetTemporal else d.currentTemporal
  rewrites : ∀ d' sent, d.apply (.writeRtp env pkt layer) = some (d', sent) → ∀ packet, Sent.rtp packet ∈ sent →
    pkt.payload.Rewritten pkt.packet.payload ((d.atFilter pkt).rebasedPicId pkt) ((d.atFilter pkt).rebasedTl0 pkt)
      packet.payload

/-- The law of the filter, for each operation: no operation but a packet or `set_initial_layers`
touches the current layer, and none but these drops a pending switch. -/
def FilterLaw (d : DownTrack) : TrackOp ε → Prop
  | .writeRtp env pkt layer => d.TemporalActive → d.FiltersPacket env pkt layer
  | .setInitialLayers _ _ => True
  | op => ∀ d' sent, d.apply op = some (d', sent) → d'.currentTemporal = d.currentTemporal ∧
      (d.targetTemporal ≠ d.currentTemporal → d'.targetTemporal = d.targetTemporal)

/-- No packet reaches the active filter, unless it is above the layer of a track that writes nothing. -/
def FilterSpared (d : DownTrack) : TrackOp ε → Prop
  | .writeRtp _ pkt layer => d.TemporalActive → d.Admits pkt layer → d.AboveLayer pkt ∧ d.writeStream = false
  | _ => True

instance (d : DownTrack) (op : TrackOp ε) : Decidable (d.FilterSpared op) :=
  match op with
  | .writeRtp _ pkt layer =>
      inferInstanceAs (Decidable (d.TemporalActive → d.Admits pkt layer → d.AboveLayer pkt ∧ d.writeStream = false))
  | .bind _ _ | .unbind | .mute _ | .setInitialLayers _ _ | .switchSpatialLayer _ _ _ | .switchSpatialLayerDone _
  | .switchTemporalLayer _ _ => isTrue trivial

/-- One operation, without the packets it sends. -/
def step (d : DownTrack) (op : TrackOp ε) : Option DownTrack := (d.apply op).map Prod.fst

/-- The buffer of the rewriting is empty, and no payload fits it. -/
theorem rewriteVp8Payload_panics (d : DownTrack) (pkt : ExtPacket) : d.rewriteVp8Payload pkt = none := by
  cases answer : d.rewriteVp8Payload pkt with
  | none => rfl
  | some r =>
      simp only [rewriteVp8Payload, Option.bind_eq_bind, Option.bind_eq_some_iff] at answer
      obtain ⟨head, -, copied, first, copied', second, written, modified, -⟩ := answer
      unfold copyFromSlice at first second
      split at first
      · rename_i empty
        cases first
        split at second
        · rename_i same
          cases second
          have nothing : pkt.packet.payload = [] :=
            List.length_eq_zero_iff.mp (same.symm.trans empty.symm)
          rw [nothing] at modified
          cases modified
        · cases second
      · cases first

theorem setVp8TemporalLayer_isSome (d : DownTrack) (pkt : ExtPacket) :
    (d.setVp8TemporalLayer pkt).isSome = true ↔ d.AboveLayer pkt := by
  unfold setVp8TemporalLayer
  by_cases above : d.AboveLayer pkt
  · have early : (d.temporalLayer >>> 16).toUInt16 = d.temporalLayer.toUInt16 ∧
        d.temporalLayer.toUInt16.toUInt8 < pkt.payload.tid := above
    simp only [if_pos early, Option.isSome_some, above]
  · have late : ¬ ((d.temporalLayer >>> 16).toUInt16 = d.temporalLayer.toUInt16 ∧
        d.temporalLayer.toUInt16.toUInt8 < pkt.payload.tid) := above
    simp only [if_neg late, rewriteVp8Payload_panics, Option.isSome_none, Bool.false_eq_true, above]

theorem atFilter_frame (d : DownTrack) (pkt : ExtPacket) :
    (d.atFilter pkt).temporalLayer = d.temporalLayer ∧ (d.atFilter pkt).mime = d.mime ∧
      (d.atFilter pkt).writeStream = d.writeStream := by
  obtain ⟨helpers, changed⟩ := changeSource_frame d pkt
  unfold atFilter
  rw [changed]
  unfold renumberSource
  dsimp only
  split
  · exact ⟨rfl, rfl, rfl⟩
  · split
    · exact ⟨rfl, rfl, rfl⟩
    · exact ⟨rfl, rfl, rfl⟩

theorem atFilter_above (d : DownTrack) (pkt : ExtPacket) : (d.atFilter pkt).AboveLayer pkt ↔ d.AboveLayer pkt := by
  unfold AboveLayer targetTemporal currentTemporal
  rw [(d.atFilter_frame pkt).1]

theorem admits_simulcast {d : DownTrack} {pkt : ExtPacket} {layer : Nat}
    (simulcast : d.trackType = .simulcastDownTrack) (admits : d.Admits pkt layer) :
    d.currentSpatialLayer = layer ∧ (d.reSync = true → pkt.keyFrame = true) := by
  have gate := admits.2.2
  rw [simulcast] at gate
  exact gate

/-- A packet that gets past the gates of a simulcast track is numbered and written. -/
theorem apply_admitted {d : DownTrack} {pkt : ExtPacket} {layer : Nat} (env : SendEnv ε)
    (simulcast : d.trackType = .simulcastDownTrack) (admits : d.Admits pkt layer) :
    d.apply (.writeRtp env pkt layer) = (d.numberSimulcast pkt).map fun d' =>
      (d', if d'.writeStream then [.rtp { pkt.packet with header := d'.rewriteHeader pkt.packet.header }]
        else []) := by
  obtain ⟨here, ready⟩ := admits_simulcast simulcast admits
  have selected : ¬ d.currentSpatialLayer ≠ (layer : Int) := not_not_intro here
  have passes : ¬ (d.reSync = true ∧ ¬ pkt.keyFrame = true) := fun waits => waits.2 (ready waits.1)
  simp only [apply, writeRtp, admits.1, admits.2.1, not_true_eq_false, if_false, simulcast, writeSimulcastRtp,
    if_neg selected, if_neg passes, Option.bind_eq_bind]
  cases d.numberSimulcast pkt with
  | none => rfl
  | some d' =>
      simp only [Option.bind_some, Option.map_some, pure, writePacket_track, writePacket_sent]

/-- On an active track a packet is numbered exactly when the filter completes. -/
theorem numberSimulcast_isSome {d : DownTrack} (pkt : ExtPacket) (active : d.TemporalActive) :
    (d.numberSimulcast pkt).isSome = true ↔ ((d.atFilter pkt).setVp8TemporalLayer pkt).isSome = true := by
  have filtered : d.simulcast.temporalSupported = true ∧ (d.atFilter pkt).mime = "video/vp8" :=
    ⟨active.supported, (d.atFilter_frame pkt).2.1.trans active.vp8⟩
  have layered : ((d.changeSource pkt).renumberSource pkt).layerVp8 d.simulcast.temporalSupported pkt =
      ((d.atFilter pkt).setVp8TemporalLayer pkt).map Prod.fst := if_pos filtered
  unfold numberSimulcast
  simp only [layered, Option.bind_eq_bind]
  cases (d.atFilter pkt).setVp8TemporalLayer pkt with
  | none => exact Iff.rfl
  | some r => exact Iff.rfl

theorem filtersPacket_iff {d : DownTrack} (env : SendEnv ε) (pkt : ExtPacket) (layer : Nat)
    (active : d.TemporalActive) :
    d.FiltersPacket env pkt layer ↔ (d.Admits pkt layer → d.AboveLayer pkt ∧ d.writeStream = false) := by
  constructor
  · intro law admits
    have completes := law.completes admits
    have above := (d.atFilter_above pkt).mp ((setVp8TemporalLayer_isSome _ pkt).mp completes)
    refine ⟨above, Bool.eq_false_iff.mpr fun stream => ?_⟩
    obtain ⟨d', numbered⟩ := Option.isSome_iff_exists.mp ((numberSimulcast_isSome pkt active).mpr completes)
    have kept := (numberSimulcast_forwards active.simulcast numbered).writeStream
    have applied := apply_admitted env active.simulcast admits
    rw [numbered, Option.map_some, kept, stream, if_pos rfl] at applied
    exact law.holdsBack above _ _ applied _ (List.mem_singleton_self _)
  · intro spared
    have nothing (d' : DownTrack) (sent : List Sent) (applied : d.apply (.writeRtp env pkt layer) = some (d', sent))
        (packet : Packet) : Sent.rtp packet ∉ sent := by
      intro among
      cases apply_writeRtp applied with
      | dropped => cases among
      | held senderSsrc mediaSsrc =>
          cases List.mem_singleton.mp among
      | silent admits noStream forwards => cases among
      | forwarded admits stream forwards sn => cases stream.symm.trans (spared admits).2
    refine ⟨fun admits => ?_, fun _ d' sent applied => nothing d' sent applied, fun admits pending => ?_, ?_⟩
    · rw [setVp8TemporalLayer_isSome, atFilter_above]
      exact (spared admits).1
    · exact absurd (spared admits).1.1 pending
    · intro d' sent applied packet among
      exact absurd among (nothing d' sent applied packet)

theorem low_half (target : UInt32) (current : UInt16) :
    ((target <<< 16) ||| current.toUInt32).toUInt16 = current := by
  have high : (target <<< 16).toNat % 2 ^ 16 = 0 := by
    rw [UInt32.toNat_shiftLeft, Nat.shiftLeft_eq]
    change target.toNat * 2 ^ 16 % 2 ^ 32 % 2 ^ 16 = 0
    omega
  rw [← UInt16.toNat_inj, UInt32.toNat_toUInt16, UInt32.toNat_or, Nat.or_mod_two_pow, high, Nat.zero_or,
    UInt16.toNat_toUInt32]
  exact Nat.mod_eq_of_lt current.toNat_lt

/-- A switch of the temporal layer leaves the current layer, and a pending one its target. -/
theorem switchTemporalLayer_current (d : DownTrack) (targetLayer : UInt32) (setAsMax : Bool) :
    (d.switchTemporalLayer targetLayer setAsMax).currentTemporal = d.currentTemporal ∧
      (d.targetTemporal ≠ d.currentTemporal →
        (d.switchTemporalLayer targetLayer setAsMax).targetTemporal = d.targetTemporal) := by
  unfold switchTemporalLayer
  cases d.trackType with
  | simpleDownTrack => exact ⟨rfl, fun _ => rfl⟩
  | simulcastDownTrack =>
      by_cases pending : d.temporalLayer.toUInt16 ≠ (d.temporalLayer >>> 16).toUInt16
      · simp only [if_pos pending]
        exact ⟨trivial, fun _ => trivial⟩
      · simp only [if_neg pending]
        exact ⟨low_half targetLayer _, fun other => absurd (Ne.symm other) pending⟩

theorem filterLaw_iff (d : DownTrack) (op : TrackOp ε) : d.FilterLaw op ↔ d.FilterSpared op := by
  cases op with
  | writeRtp env pkt layer => exact forall_congr' fun active => filtersPacket_iff env pkt layer active
  | setInitialLayers spatialLayer temporalLayer => exact Iff.rfl
  | bind t now =>
      refine iff_of_true ?_ trivial
      intro d' sent applied
      cases applied
      unfold DownTrack.bind
      cases codecParametersFuzzySearch d.codec t.codecParameters with
      | none => exact ⟨rfl, fun _ => rfl⟩
      | some codec => exact ⟨rfl, fun _ => rfl⟩
  | unbind =>
      refine iff_of_true ?_ trivial
      intro d' sent applied
      cases applied
      exact ⟨rfl, fun _ => rfl⟩
  | mute val =>
      refine iff_of_true ?_ trivial
      intro d' sent applied
      cases applied
      obtain ⟨enabled, reSync, muted⟩ := d.mute_frame val
      rw [muted]
      exact ⟨rfl, fun _ => rfl⟩
  | switchSpatialLayer targetLayer setAsMax queued =>
      refine iff_of_true ?_ trivial
      intro d' sent applied
      cases applied
      obtain ⟨target, max, switched⟩ := d.switchSpatialLayer_frame targetLayer setAsMax queued
      rw [switched]
      exact ⟨rfl, fun _ => rfl⟩
  | switchSpatialLayerDone layer =>
      refine iff_of_true ?_ trivial
      intro d' sent applied
      cases applied
      exact ⟨rfl, fun _ => rfl⟩
  | switchTemporalLayer targetLayer setAsMax =>
      refine iff_of_true ?_ trivial
      intro d' sent applied
      cases applied
      exact d.switchTemporalLayer_current targetLayer setAsMax

/-- A run keeps the law of the filter exactly when it spares the filter. -/
theorem temporal_filter_iff (d : DownTrack) (ops : List (TrackOp ε)) :
    Guarded step FilterLaw d ops ↔ Guarded step FilterSpared d ops :=
  guarded_iff (fun _ => True) (fun d op _ => d.filterLaw_iff op) (fun _ _ _ _ _ _ => trivial) trivial

/-- A packet of the base layer, with a fifteen-bit number and temporal layers announced. -/
def layeredPacket (sn : UInt16) : ExtPacket :=
  ⟨true, 0, 1, { header := { sequenceNumber := sn }, payload := [0x90, 0xe0, 0x80, 5, 9, 0, 0] }, true,
    { temporalSupported := true, pictureId := 5, pictureIdIdx := 2, mbit := true, tl0PictureIdx := 9, tlzIdx := 4,
      isKeyFrame := true }⟩

def layeredOps : List (TrackOp Unit) := [
  .bind vp8Context 0, .setInitialLayers 0 1, .writeRtp {} (layeredPacket 1) 0, .writeRtp {} (layeredPacket 2) 0]

/-- The first packet turns the filter on and the second one meets it. -/
theorem filter_panics : ¬ Guarded step FilterLaw
    { codec := vp8Capability, maxTrack := 2, trackType := .simulcastDownTrack } layeredOps := by
  intro law
  have spared := (guarded_iff (fun _ => True) (fun d op _ => filterLaw_iff d op) (fun _ _ _ _ _ _ => trivial)
    trivial).mp law
  exact absurd spared (by decide +kernel)

end DownTrack

end Rsfu
