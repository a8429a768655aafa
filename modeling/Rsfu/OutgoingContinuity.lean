import Rsfu.TrackRuns
import Rsfu.SerialNumber

/-! The sequence numbers a down track sends under. A packet resumes the stream
when it is the first one forwarded after a bind, an unmute or a change of the
source SSRC; it should continue from the last head packet, and no other packet
should move the offset. -/
namespace Rsfu
open GuardedRun

structure Forwarded where
  epoch : Nat
  resumes : Bool
  lastHead : Option UInt16
  sourceSn : UInt16
  sn : UInt16
  deriving DecidableEq, Repr

/-- A down track with what it forwarded; `ssrc` and `lastHead` are the source of
the last forwarded packet and the outgoing number of the last head packet. -/
structure Forwarding where
  track : DownTrack
  resynced : Bool := false
  ssrc : Option UInt32 := none
  lastHead : Option UInt16 := none
  epoch : Nat := 0
  forwards : List Forwarded := []

namespace Forwarding
variable {ε : Type}

/-- A bind that finds its codec, or an unmute of a muted track. -/
def resyncs (d : DownTrack) : TrackOp ε → Bool
  | .bind t now => (d.bind t now).2.isSome
  | .mute val => !val && !d.enabled
  | _ => false

def resumes (g : Forwarding) (pkt : ExtPacket) : Bool :=
  match g.ssrc with
  | none => false
  | some ssrc => g.resynced || ssrc != pkt.packet.header.ssrc

def epochOf (g : Forwarding) (pkt : ExtPacket) : Nat := if g.resumes pkt then g.epoch + 1 else g.epoch

def forward (g : Forwarding) (d' : DownTrack) (pkt : ExtPacket) (packet : Packet) : Forwarding where
  track := d'
  resynced := false
  ssrc := some pkt.packet.header.ssrc
  lastHead := if pkt.head then some packet.header.sequenceNumber else g.lastHead
  epoch := g.epochOf pkt
  forwards := g.forwards ++
    [⟨g.epochOf pkt, g.resumes pkt, g.lastHead, pkt.packet.header.sequenceNumber, packet.header.sequenceNumber⟩]

def note (g : Forwarding) (op : TrackOp ε) (d' : DownTrack) (sent : List Sent) : Forwarding :=
  match op, sent with
  | .writeRtp _ pkt _, [.rtp packet] => g.forward d' pkt packet
  | _, _ => { g with track := d', resynced := resyncs g.track op || g.resynced }

def step (g : Forwarding) (op : TrackOp ε) : Option Forwarding :=
  (g.track.apply op).map fun outcome => g.note op outcome.1 outcome.2

/-- Every resuming packet follows the last head packet, and the packets of one
epoch are shifted by one offset. -/
structure Continuous (g : Forwarding) : Prop where
  resumes : ∀ f ∈ g.forwards, f.resumes = true → ∀ head ∈ f.lastHead, f.sn = head + 1
  shift : ∀ f ∈ g.forwards, ∀ f' ∈ g.forwards, f.epoch = f'.epoch → f.sourceSn - f.sn = f'.sourceSn - f'.sn

/-- The packet leaves on a stream and, where it resumes without a new offset or
gets a new offset without resuming, the two offsets agree. -/
structure FitsPacket (g : Forwarding) (pkt : ExtPacket) : Prop where
  stream : g.track.writeStream = true
  arrival : g.track.trackType = .simulcastDownTrack → pkt.arrival ≠ 0
  kept : g.resumes pkt = true → ¬ g.track.Recomputes pkt →
    ∀ head ∈ g.lastHead, pkt.packet.header.sequenceNumber = head + 1 + g.track.snOffset
  moved : g.ssrc.isSome = true → g.resumes pkt = false → g.track.Recomputes pkt →
    pkt.packet.header.sequenceNumber = g.track.lastSn + 1 + g.track.snOffset

instance (g : Forwarding) (pkt : ExtPacket) : Decidable (g.FitsPacket pkt) :=
  have : Decidable (∀ head ∈ g.lastHead, pkt.packet.header.sequenceNumber = head + 1 + g.track.snOffset) :=
    Option.decidableForallMem g.lastHead
  decidable_of_iff (_ ∧ _ ∧ _ ∧ _)
    ⟨fun ⟨stream, arrival, kept, moved⟩ => ⟨stream, arrival, kept, moved⟩,
      fun fits => ⟨fits.stream, fits.arrival, fits.kept, fits.moved⟩⟩

def Fits (g : Forwarding) (op : TrackOp ε) : Prop := g.track.OnAdmitted g.FitsPacket op

instance (g : Forwarding) (op : TrackOp ε) : Decidable (g.Fits op) :=
  inferInstanceAs (Decidable (g.track.OnAdmitted _ op))

structure Carries (g : Forwarding) : Prop where
  continuous : g.Continuous
  fresh : g.ssrc = none → g.forwards = [] ∧ g.lastHead = none
  started : g.ssrc.isSome = true → g.track.trackType = .simulcastDownTrack → g.track.simulcast.lTsCalc ≠ 0
  lastHead : ∀ head ∈ g.lastHead, g.track.lastSn = head
  epochs : ∀ f ∈ g.forwards, f.epoch ≤ g.epoch
  shift : ∀ f ∈ g.forwards, f.epoch = g.epoch → f.sourceSn - f.sn = g.track.snOffset

/-- The state changes by an operation that leaves the numbering alone. -/
theorem keeps_carries {g : Forwarding} {d' : DownTrack} {closed resynced : Bool} (inv : g.Carries)
    (keeps : g.track.Keeps d' closed) : Carries { g with track := d', resynced } := by
  obtain ⟨snOffset, lastSn, simulcast⟩ := keeps.numbering
  constructor
  · exact ⟨inv.continuous.resumes, inv.continuous.shift⟩
  · exact inv.fresh
  · rw [keeps.trackType, simulcast]
    exact inv.started
  · rw [lastSn]
    exact inv.lastHead
  · exact inv.epochs
  · rw [snOffset]
    exact inv.shift

/-- A packet that resumes leaves right after the last head packet. -/
theorem forward_resumes {g : Forwarding} {pkt : ExtPacket} {d' : DownTrack} (inv : g.Carries)
    (fits : g.FitsPacket pkt) (forwards : g.track.Forwards pkt d') (resumes : g.resumes pkt = true)
    {head : UInt16} (last : head ∈ g.lastHead) :
    pkt.packet.header.sequenceNumber - d'.snOffset = head + 1 := by
  rw [forwards.snOffset]
  by_cases anew : g.track.Recomputes pkt
  · rw [if_pos anew, inv.lastHead head last]
    grind
  · rw [if_neg anew, fits.kept resumes anew head last]
    grind

/-- A packet that does not resume keeps the offset. -/
theorem forward_keeps {g : Forwarding} {pkt : ExtPacket} {d' : DownTrack}
    (fits : g.FitsPacket pkt) (forwards : g.track.Forwards pkt d') (before : g.ssrc.isSome = true)
    (resumes : g.resumes pkt = false) : d'.snOffset = g.track.snOffset := by
  rw [forwards.snOffset]
  by_cases anew : g.track.Recomputes pkt
  · rw [if_pos anew, fits.moved before resumes anew]
    grind
  · exact if_neg anew

theorem forward_lastSn {g : Forwarding} {pkt : ExtPacket} {d' : DownTrack} {packet : Packet} (inv : g.Carries)
    (fits : g.FitsPacket pkt) (forwards : g.track.Forwards pkt d')
    (sn : packet.header.sequenceNumber = pkt.packet.header.sequenceNumber - d'.snOffset) :
    ∀ head ∈ (g.forward d' pkt packet).lastHead, d'.lastSn = head := by
  intro head last
  rw [forwards.lastSn]
  unfold forward at last
  cases isHead : pkt.head with
  | true =>
      simp only [isHead, if_true, Option.mem_def, Option.some.injEq] at last ⊢
      rw [← last, sn]
  | false =>
      simp only [isHead, Bool.false_eq_true, if_false] at last ⊢
      have before : g.ssrc.isSome = true := by
        cases found : g.ssrc with
        | some _ => rfl
        | none =>
            rw [(inv.fresh found).2] at last
            cases last
      have running : ¬ g.track.Restarts pkt := by
        intro ⟨simulcast, stopped⟩
        exact stopped ⟨inv.started before simulcast, fun _ => fits.arrival simulcast⟩
      rw [if_neg running]
      exact inv.lastHead head last

theorem forward_epochs {g : Forwarding} (pkt : ExtPacket) : g.epoch ≤ g.epochOf pkt := by
  unfold epochOf
  split <;> omega

/-- All the packets of the epoch of a forwarded packet have the offset it leaves with. -/
theorem forward_shift {g : Forwarding} {pkt : ExtPacket} {d' : DownTrack} {packet : Packet} (inv : g.Carries)
    (fits : g.FitsPacket pkt) (forwards : g.track.Forwards pkt d')
    (sn : packet.header.sequenceNumber = pkt.packet.header.sequenceNumber - d'.snOffset) :
    ∀ f ∈ (g.forward d' pkt packet).forwards, f.epoch = g.epochOf pkt → f.sourceSn - f.sn = d'.snOffset := by
  intro f sent same
  rcases List.mem_append.mp sent with old | new
  · have bound := inv.epochs f old
    cases resumes : g.resumes pkt with
    | true =>
        unfold epochOf at same
        rw [if_pos resumes] at same
        omega
    | false =>
        have before : g.ssrc.isSome = true := by
          cases found : g.ssrc with
          | some _ => rfl
          | none =>
              rw [(inv.fresh found).1] at old
              cases old
        unfold epochOf at same
        rw [resumes] at same
        rw [forward_keeps fits forwards before resumes]
        exact inv.shift f old same
  · obtain rfl := List.mem_singleton.mp new
    change pkt.packet.header.sequenceNumber - packet.header.sequenceNumber = d'.snOffset
    rw [sn]
    grind

theorem forward_carries {g : Forwarding} {pkt : ExtPacket} {d' : DownTrack} {packet : Packet} (inv : g.Carries)
    (fits : g.FitsPacket pkt) (forwards : g.track.Forwards pkt d')
    (sn : packet.header.sequenceNumber = pkt.packet.header.sequenceNumber - d'.snOffset) :
    (g.forward d' pkt packet).Carries := by
  have shift := forward_shift inv fits forwards sn
  constructor
  · constructor
    · intro f sent resumes head last
      rcases List.mem_append.mp sent with old | new
      · exact inv.continuous.resumes f old resumes head last
      · obtain rfl := List.mem_singleton.mp new
        exact sn.trans (forward_resumes inv fits forwards resumes last)
    · intro f sent f' sent' same
      by_cases current : f.epoch = g.epochOf pkt
      · rw [shift f sent current, shift f' sent' (same.symm.trans current)]
      · rcases List.mem_append.mp sent with old | new
        · rcases List.mem_append.mp sent' with old' | new'
          · exact inv.continuous.shift f old f' old' same
          · obtain rfl := List.mem_singleton.mp new'
            exact absurd same current
        · obtain rfl := List.mem_singleton.mp new
          exact absurd rfl current
  · intro none
    cases none
  · intro _ simulcast
    change d'.simulcast.lTsCalc ≠ 0
    rw [forwards.lTsCalc (forwards.trackType.symm.trans simulcast)]
    exact fits.arrival (forwards.trackType.symm.trans simulcast)
  · exact forward_lastSn inv fits forwards sn
  · intro f sent
    rcases List.mem_append.mp sent with old | new
    · exact (inv.epochs f old).trans (forward_epochs pkt)
    · obtain rfl := List.mem_singleton.mp new
      exact le_rfl
  · exact shift

theorem note_other {g : Forwarding} {op : TrackOp ε} (other : ∀ env pkt layer, op ≠ .writeRtp env pkt layer)
    (d' : DownTrack) (sent : List Sent) :
    g.note op d' sent = { g with track := d', resynced := resyncs g.track op || g.resynced } := by
  cases op with
  | writeRtp env pkt layer => exact absurd rfl (other env pkt layer)
  | _ => rfl

theorem step_carries {g g' : Forwarding} {op : TrackOp ε} (inv : g.Carries) (fits : g.Fits op)
    (h : g.step op = some g') : g'.Carries := by
  obtain ⟨⟨d', sent⟩, applied, rfl⟩ := Option.map_eq_some_iff.mp h
  by_cases other : ∀ env pkt layer, op ≠ .writeRtp env pkt layer
  · rw [note_other other]
    exact keeps_carries inv (DownTrack.apply_keeps other applied)
  · obtain ⟨env, pkt, layer, rfl⟩ : ∃ env pkt layer, op = .writeRtp env pkt layer := by
      simpa only [not_forall, not_not] using other
    cases DownTrack.apply_writeRtp applied with
    | dropped => exact inv
    | held senderSsrc mediaSsrc => exact inv
    | silent admits noStream forwards => cases noStream.symm.trans (fits admits).stream
    | forwarded admits stream forwards sn => exact forward_carries inv (fits admits) forwards sn

/-- From any track, a run whose forwarded packets all fit is continuous. -/
theorem run_continuous (d : DownTrack) (ops : List (TrackOp ε)) {g : Forwarding}
    (fits : Guarded step Fits { track := d } ops) (reached : run step { track := d } ops = some g) :
    g.Continuous := by
  have start : Carries { track := d } :=
    ⟨⟨fun f sent => (nomatch sent), fun f sent => (nomatch sent)⟩, fun _ => ⟨rfl, rfl⟩,
      fun before => (nomatch before), fun head last => (nomatch last), fun f sent => (nomatch sent),
      fun f sent => (nomatch sent)⟩
  exact (run_invariant Carries (fun _ _ _ inv fits moved => step_carries inv fits moved) start fits
    reached).continuous

def simulcastTrack : DownTrack := { vp8Track with trackType := .simulcastDownTrack }

/-- A change of source, and a mute in which nothing is missed. -/
def layerOps : List (TrackOp Unit) := [
  .bind vp8Context 0,
  .writeRtp {} (sourcePacket 5 65535) 0, .writeRtp {} (sourcePacket 5 0) 0, .writeRtp {} (sourcePacket 6 500) 0,
  .mute true, .mute false, .writeRtp {} (sourcePacket 6 501) 0]

theorem run_continuous_layers : ∃ g, run step { track := simulcastTrack } layerOps = some g ∧
    g.forwards.map Forwarded.sn = [65535, 0, 1, 2] ∧ g.Continuous := by
  have left : (run step { track := simulcastTrack } layerOps).map (fun g => g.forwards.map Forwarded.sn) =
      some [65535, 0, 1, 2] := by decide +kernel
  obtain ⟨g, reached, left⟩ := Option.map_eq_some_iff.mp left
  exact ⟨g, reached, left, run_continuous simulcastTrack layerOps (by decide +kernel) reached⟩

def zeroOps : List (TrackOp Unit) := [
  .bind vp8Context 0, .writeRtp {} (sourcePacket 5 0) 0,
  .mute true, .mute false, .writeRtp {} (sourcePacket 5 5) 0]

/-- The head packet 0 is taken for no head packet, and after the unmute 5 leaves as 5. -/
theorem zero_head_skips_resync : ∃ g, run step { track := vp8Track } zeroOps = some g ∧ ¬ g.Continuous := by
  have left : (run step { track := vp8Track } zeroOps).map Forwarding.forwards =
      some [⟨0, false, none, 0, 0⟩, ⟨1, true, some 0, 5, 5⟩] := by decide +kernel
  obtain ⟨g, reached, left⟩ := Option.map_eq_some_iff.mp left
  refine ⟨g, reached, fun continuous => ?_⟩
  have sent : (⟨1, true, some 0, 5, 5⟩ : Forwarded) ∈ g.forwards := by
    rw [left]
    exact List.mem_cons_of_mem _ List.mem_cons_self
  exact absurd (continuous.resumes _ sent rfl 0 rfl) (by decide)

end Forwarding

end Rsfu
