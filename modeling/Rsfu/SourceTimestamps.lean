import Rsfu.TemporalFilter

/-! Outgoing timestamps across the sources of a simulcast track. The elapsed time
is taken for microseconds when it is turned into ticks of the video clock, so a
change of source after a millisecond or more advances the timestamp too little. -/
namespace Rsfu
open GuardedRun

namespace DownTrack

/-- The elapsed time in ticks of 90 kHz, one at least. -/
def clockTicks (arrival lTsCalc : Int) : Int := max 1 (90 * ((arrival - lTsCalc) / 1000000))

theorem elapsedTicks_toNat (arrival lTsCalc : Int) :
    (elapsedTicks arrival lTsCalc).toNat =
      max 1 (min ((arrival - lTsCalc) / 1000000).toNat 4294967295 * 90 % 2 ^ 32 / 1000) := by
  have small : min ((arrival - lTsCalc) / 1000000).toNat 4294967295 < 2 ^ 32 :=
    Nat.lt_of_le_of_lt (Nat.min_le_right _ _) (by decide)
  have ticks : (UInt32.ofNat (min ((arrival - lTsCalc) / 1000000).toNat 4294967295) * 90 / 1000).toNat =
      min ((arrival - lTsCalc) / 1000000).toNat 4294967295 * 90 % 2 ^ 32 / 1000 := by
    rw [UInt32.toNat_div, UInt32.toNat_mul, UInt32.toNat_ofNat', Nat.mod_eq_of_lt small]
    rfl
  unfold elapsedTicks
  rw [← ticks]
  simp only
  split
  · rename_i none
    rw [none]
    rfl
  · rename_i some
    have positive : (UInt32.ofNat (min ((arrival - lTsCalc) / 1000000).toNat 4294967295) * 90 / 1000).toNat ≠ 0 :=
      fun zero => some (UInt32.toNat_inj.mp zero)
    omega

/-- The ticks of the code are those of the clock only below one millisecond: from there on the
clock's are even and more, also when the code's quotient saturates. -/
theorem elapsedTicks_iff (arrival lTsCalc : Int) :
    elapsedTicks arrival lTsCalc = UInt32.ofNat (clockTicks arrival lTsCalc).toNat ↔ arrival - lTsCalc < 1000000 := by
  rw [← UInt32.toNat_inj, elapsedTicks_toNat, UInt32.toNat_ofNat']
  by_cases short : arrival - lTsCalc < 1000000
  · have none : ((arrival - lTsCalc) / 1000000).toNat = 0 := by omega
    have one : (clockTicks arrival lTsCalc).toNat = 1 := by
      unfold clockTicks
      omega
    rw [none, one]
    exact iff_of_true rfl short
  · obtain ⟨millis, elapsed⟩ : ∃ millis : Nat, (arrival - lTsCalc) / 1000000 = (millis : Int) :=
      ⟨((arrival - lTsCalc) / 1000000).toNat, by omega⟩
    have some : 1 ≤ millis := by omega
    have ticks : (clockTicks arrival lTsCalc).toNat = 90 * millis := by
      unfold clockTicks
      omega
    rw [elapsed, Int.toNat_natCast, ticks]
    refine iff_of_false ?_ short
    have even : 90 * millis % 2 ^ 32 % 2 = 0 := by omega
    by_cases fits : millis ≤ 4294967295
    · rw [Nat.min_eq_left fits, Nat.mul_comm millis]
      generalize 90 * millis % 2 ^ 32 = ticks at even
      omega
    · rw [Nat.min_eq_right (by omega)]
      generalize 90 * millis % 2 ^ 32 = ticks at even
      omega

theorem renumberSource_tsOffset (d : DownTrack) (pkt : ExtPacket) :
    (d.renumberSource pkt).tsOffset =
      if d.simulcast.lTsCalc ≠ 0 ∧ d.lastSsrc ≠ pkt.packet.header.ssrc then
        pkt.packet.header.timestamp - (d.lastTs + elapsedTicks pkt.arrival d.simulcast.lTsCalc)
      else d.tsOffset := by
  unfold renumberSource
  dsimp only
  split
  · rfl
  · split
    · rfl
    · rfl

/-- The timestamp offset of a packet on a simulcast track. -/
theorem atFilter_tsOffset {d : DownTrack} {pkt : ExtPacket} (simulcast : d.trackType = .simulcastDownTrack) :
    (d.atFilter pkt).tsOffset =
      if d.Recomputes pkt then
        pkt.packet.header.timestamp - (d.lastTs + elapsedTicks pkt.arrival (d.changeSource pkt).simulcast.lTsCalc)
      else d.tsOffset := by
  have recomputes := recomputes_simulcast pkt simulcast
  rw [atFilter, renumberSource_tsOffset]
  obtain ⟨helpers, changed⟩ := changeSource_frame d pkt
  rw [changed] at recomputes ⊢
  simp only [recomputes]

theorem numberSimulcast_tsOffset {d d' : DownTrack} {pkt : ExtPacket} (simulcast : d.trackType = .simulcastDownTrack)
    (numbered : d.numberSimulcast pkt = some d') : d'.tsOffset = (d.atFilter pkt).tsOffset := by
  obtain ⟨_, _, _, _, _, _, _, _, rfl, -, tsOffset⟩ := numberSimulcast_frame simulcast numbered
  exact tsOffset

/-- A known source gives way to another one: the first packet of the new source. -/
def ChangesSource (d : DownTrack) (pkt : ExtPacket) (layer : Nat) : Prop :=
  d.trackType = .simulcastDownTrack ∧ d.Admits pkt layer ∧ d.simulcast.lTsCalc ≠ 0 ∧ d.reSync = false ∧
    d.lastSsrc ≠ pkt.packet.header.ssrc

instance (d : DownTrack) (pkt : ExtPacket) (layer : Nat) : Decidable (d.ChangesSource pkt layer) :=
  inferInstanceAs (Decidable (_ ∧ _))

theorem ChangesSource.recomputes {d : DownTrack} {pkt : ExtPacket} {layer : Nat}
    (changes : d.ChangesSource pkt layer) :
    d.Recomputes pkt := by
  obtain ⟨simulcast, -, started, synced, other⟩ := changes
  unfold Recomputes
  rw [simulcast]
  refine ⟨⟨started, fun waits => ?_⟩, other⟩
  cases synced.symm.trans waits

theorem ChangesSource.lTsCalc {d : DownTrack} {pkt : ExtPacket} {layer : Nat} (changes : d.ChangesSource pkt layer) :
    (d.changeSource pkt).simulcast.lTsCalc = d.simulcast.lTsCalc := by
  obtain ⟨-, -, -, synced, -⟩ := changes
  unfold changeSource
  simp only [synced, Bool.false_eq_true, or_false, false_and, if_false]
  split
  · split
    · rfl
    · rfl
  · rfl

theorem numberSimulcast_isSome_iff {d : DownTrack} (pkt : ExtPacket) (simulcast : d.trackType = .simulcastDownTrack) :
    (d.numberSimulcast pkt).isSome = true ↔ (d.TemporalActive → d.AboveLayer pkt) := by
  by_cases active : d.TemporalActive
  · rw [numberSimulcast_isSome pkt active, setVp8TemporalLayer_isSome, atFilter_above]
    exact ⟨fun above _ => above, fun above => above active⟩
  · refine iff_of_true ?_ fun also => absurd also active
    have unfiltered : ¬ (d.simulcast.temporalSupported = true ∧ (d.atFilter pkt).mime = "video/vp8") := by
      rw [(d.atFilter_frame pkt).2.1]
      exact fun ⟨supported, vp8⟩ => active ⟨simulcast, supported, vp8⟩
    have layered : ((d.changeSource pkt).renumberSource pkt).layerVp8 d.simulcast.temporalSupported pkt =
        some (d.atFilter pkt) := if_neg unfiltered
    unfold numberSimulcast
    simp only [layered, Option.bind_eq_bind]
    rfl

end DownTrack

/-- A simulcast track with the timestamps, at the source and as sent, of the first packet
since the offset was last computed. -/
structure SourceTimes where
  track : DownTrack
  base : Option (UInt32 × UInt32) := none

namespace SourceTimes
variable {ε : Type}

def noted (g : SourceTimes) (d' : DownTrack) : TrackOp ε → Option (UInt32 × UInt32)
  | .writeRtp _ pkt layer =>
      if g.track.Admits pkt layer ∧ g.track.Recomputes pkt then
        some (pkt.packet.header.timestamp, pkt.packet.header.timestamp - d'.tsOffset)
      else g.base
  | _ => g.base

def step (g : SourceTimes) (op : TrackOp ε) : Option SourceTimes :=
  (g.track.apply op).map fun outcome => ⟨outcome.1, g.noted outcome.1 op⟩

/-- What the timestamp of one packet must be. -/
structure KeepsTime (g : SourceTimes) (env : SendEnv ε) (pkt : ExtPacket) (layer : Nat) : Prop where
  change : g.track.ChangesSource pkt layer → g.track.writeStream = true →
    ∃ d' packet, g.track.apply (.writeRtp env pkt layer) = some (d', [.rtp packet]) ∧
      packet.header.timestamp =
        g.track.lastTs + UInt32.ofNat (DownTrack.clockTicks pkt.arrival g.track.simulcast.lTsCalc).toNat
  steady : ¬ g.track.Recomputes pkt → ∀ d' sent, g.track.apply (.writeRtp env pkt layer) = some (d', sent) →
    ∀ packet, Sent.rtp packet ∈ sent → ∀ source out, g.base = some (source, out) →
      packet.header.timestamp - out = pkt.packet.header.timestamp - source

def TimeLaw (g : SourceTimes) : TrackOp ε → Prop
  | .writeRtp env pkt layer => g.KeepsTime env pkt layer
  | _ => True

/-- A change of source comes within a millisecond of the last packet, and not to a filter that panics. -/
def QuickChange (g : SourceTimes) : TrackOp ε → Prop
  | .writeRtp _ pkt layer => g.track.ChangesSource pkt layer → g.track.writeStream = true →
      pkt.arrival - g.track.simulcast.lTsCalc < 1000000 ∧ (g.track.TemporalActive → g.track.AboveLayer pkt)
  | _ => True

instance (g : SourceTimes) (op : TrackOp ε) : Decidable (g.QuickChange op) :=
  match op with
  | .writeRtp _ pkt layer =>
      inferInstanceAs (Decidable (g.track.ChangesSource pkt layer → g.track.writeStream = true →
        pkt.arrival - g.track.simulcast.lTsCalc < 1000000 ∧ (g.track.TemporalActive → g.track.AboveLayer pkt)))
  | .bind _ _ | .unbind | .mute _ | .setInitialLayers _ _ | .switchSpatialLayer _ _ _ | .switchSpatialLayerDone _
  | .switchTemporalLayer _ _ => isTrue trivial

structure Consistent (g : SourceTimes) : Prop where
  simulcast : g.track.trackType = .simulcastDownTrack
  base : ∀ source out, g.base = some (source, out) → source - out = g.track.tsOffset

/-- What `write_rtp` does to the timestamp offset, whether or not the packet gets through. -/
theorem write_tsOffset {d d' : DownTrack} {env : SendEnv ε} {pkt : ExtPacket} {layer : Nat} {sent : List Sent}
    (simulcast : d.trackType = .simulcastDownTrack) (applied : d.apply (.writeRtp env pkt layer) = some (d', sent))
    (steady : ¬ (d.Admits pkt layer ∧ d.Recomputes pkt)) : d'.tsOffset = d.tsOffset := by
  by_cases admits : d.Admits pkt layer
  · rw [DownTrack.apply_admitted env simulcast admits] at applied
    obtain ⟨_, numbered, same⟩ := Option.map_eq_some_iff.mp applied
    cases same
    rw [DownTrack.numberSimulcast_tsOffset simulcast numbered, DownTrack.atFilter_tsOffset simulcast,
      if_neg fun recomputes => steady ⟨admits, recomputes⟩]
  · cases DownTrack.apply_writeRtp applied with
    | dropped => rfl
    | held senderSsrc mediaSsrc => rfl
    | silent also noStream forwards => exact absurd also admits
    | forwarded also stream forwards sn => exact absurd also admits

theorem step_consistent {g g' : SourceTimes} {op : TrackOp ε} (inv : g.Consistent) (moved : g.step op = some g') :
    g'.Consistent := by
  obtain ⟨⟨d', sent⟩, applied, rfl⟩ := Option.map_eq_some_iff.mp moved
  by_cases other : ∀ env pkt layer, op ≠ .writeRtp env pkt layer
  · have base : g.noted d' op = g.base := by
      cases op with
      | writeRtp env pkt layer => exact absurd rfl (other env pkt layer)
      | _ => rfl
    refine ⟨(DownTrack.apply_keeps other applied).trackType.trans inv.simulcast, ?_⟩
    intro source out noted
    rw [base] at noted
    exact (inv.base source out noted).trans (DownTrack.apply_leaves other applied).1.symm
  · obtain ⟨env, pkt, layer, rfl⟩ : ∃ env pkt layer, op = .writeRtp env pkt layer := by
      simpa only [not_forall, not_not] using other
    constructor
    · cases DownTrack.apply_writeRtp applied with
      | dropped => exact inv.simulcast
      | held senderSsrc mediaSsrc => exact inv.simulcast
      | silent admits noStream forwards => exact forwards.trackType.trans inv.simulcast
      | forwarded admits stream forwards sn => exact forwards.trackType.trans inv.simulcast
    · intro source out recorded
      by_cases again : g.track.Admits pkt layer ∧ g.track.Recomputes pkt
      · have fresh := (if_pos again).symm.trans recorded
        cases fresh
        grind
      · have kept := (if_neg again).symm.trans recorded
        exact (inv.base source out kept).trans (write_tsOffset inv.simulcast applied again).symm

theorem steady_holds {g : SourceTimes} (inv : g.Consistent) {d' : DownTrack} {env : SendEnv ε} {pkt : ExtPacket}
    {layer : Nat} {sent : List Sent} (applied : g.track.apply (.writeRtp env pkt layer) = some (d', sent))
    (steady : ¬ g.track.Recomputes pkt) {packet : Packet} (among : Sent.rtp packet ∈ sent) {source out : UInt32}
    (base : g.base = some (source, out)) : packet.header.timestamp - out = pkt.packet.header.timestamp - source := by
  have offset := write_tsOffset inv.simulcast applied fun both => steady both.2
  have admits : g.track.Admits pkt layer := by
    cases DownTrack.apply_writeRtp applied with
    | dropped => cases among
    | held senderSsrc mediaSsrc => cases List.mem_singleton.mp among
    | silent admits noStream forwards => exact admits
    | forwarded admits stream forwards sn => exact admits
  rw [DownTrack.apply_admitted env inv.simulcast admits] at applied
  obtain ⟨_, numbered, same⟩ := Option.map_eq_some_iff.mp applied
  cases same
  split at among
  · cases List.mem_singleton.mp among
    change pkt.packet.header.timestamp - d'.tsOffset - out = _
    rw [offset, ← inv.base source out base]
    grind
  · cases among

theorem change_iff {d : DownTrack} (env : SendEnv ε) {pkt : ExtPacket} {layer : Nat}
    (changes : d.ChangesSource pkt layer) (stream : d.writeStream = true) :
    (∃ d' packet, d.apply (.writeRtp env pkt layer) = some (d', [.rtp packet]) ∧
      packet.header.timestamp =
        d.lastTs + UInt32.ofNat (DownTrack.clockTicks pkt.arrival d.simulcast.lTsCalc).toNat) ↔
      pkt.arrival - d.simulcast.lTsCalc < 1000000 ∧ (d.TemporalActive → d.AboveLayer pkt) := by
  have simulcast := changes.1
  rw [← DownTrack.elapsedTicks_iff, ← DownTrack.numberSimulcast_isSome_iff pkt simulcast,
    DownTrack.apply_admitted env simulcast changes.2.1]
  have sent (d' : DownTrack) (numbered : d.numberSimulcast pkt = some d') : d'.writeStream = true ∧
      pkt.packet.header.timestamp - d'.tsOffset =
        d.lastTs + DownTrack.elapsedTicks pkt.arrival d.simulcast.lTsCalc := by
    refine ⟨(DownTrack.numberSimulcast_forwards simulcast numbered).writeStream.trans stream, ?_⟩
    rw [DownTrack.numberSimulcast_tsOffset simulcast numbered, DownTrack.atFilter_tsOffset simulcast,
      if_pos changes.recomputes, changes.lTsCalc]
    grind
  cases numbered : d.numberSimulcast pkt with
  | none =>
      refine iff_of_false ?_ fun both => Bool.false_ne_true both.2
      rintro ⟨d', packet, applied, -⟩
      cases applied
  | some d' =>
      obtain ⟨open', stamp⟩ := sent d' numbered
      simp only [Option.map_some, open', if_true, Option.some.injEq, Prod.mk.injEq, List.cons.injEq, and_true,
        Sent.rtp.injEq, Option.isSome_some]
      constructor
      · rintro ⟨_, _, ⟨rfl, rfl⟩, time⟩
        have same := stamp.symm.trans time
        grind
      · intro same
        refine ⟨d', _, ⟨rfl, rfl⟩, ?_⟩
        exact stamp.trans (congrArg (d.lastTs + ·) same)

theorem timeLaw_iff {g : SourceTimes} (inv : g.Consistent) (op : TrackOp ε) : g.TimeLaw op ↔ g.QuickChange op := by
  cases op with
  | writeRtp env pkt layer =>
      constructor
      · intro law changes stream
        exact (change_iff env changes stream).mp (law.change changes stream)
      · intro quick
        refine ⟨fun changes stream => (change_iff env changes stream).mpr (quick changes stream), ?_⟩
        intro steady d' sent applied packet among source out base
        exact steady_holds inv applied steady among base
  | _ => exact Iff.rfl

theorem start_consistent {d : DownTrack} (simulcast : d.trackType = .simulcastDownTrack) :
    Consistent { track := d } := by
  refine ⟨simulcast, ?_⟩
  intro source out recorded
  cases recorded

/-- A packet at a given time, in nanoseconds, from one of several sources. -/
def timedPacket (ssrc : UInt32) (sn : UInt16) (timestamp : UInt32) (arrival : Int) : ExtPacket :=
  ⟨true, 0, arrival, { header := { sequenceNumber := sn, ssrc, timestamp } }, true, {}⟩

def changeOps (elapsed : Int) : List (TrackOp Unit) := [
  .bind vp8Context 0, .writeRtp {} (timedPacket 5 1 3000 1000000000) 0,
  .writeRtp {} (timedPacket 5 2 6000 1000000000) 0,
  .writeRtp {} (timedPacket 6 70 90000 (1000000000 + elapsed)) 0, .writeRtp {} (timedPacket 6 71 93000 2000000000) 0]

end SourceTimes

end Rsfu
