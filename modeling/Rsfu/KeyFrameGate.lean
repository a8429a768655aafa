import Rsfu.TrackRuns

/-! Key-frame gating of a video track. From a bind or a mute until a packet has
been written, the re-sync flag is up or there is no write stream. -/
namespace Rsfu
open GuardedRun

theorem video_not_audio {text : String} (video : RustText.startsWith text "video/" = true) :
    RustText.startsWith text "audio/" = false := by
  unfold RustText.startsWith at *
  cases found : text.toList with
  | nil => rfl
  | cons c rest =>
      rw [found] at video
      have first : 'v' = c := by
        have := (Bool.and_eq_true_iff.mp video).1
        exact beq_iff_eq.mp this
      rw [← first]
      rfl

theorem DownTrack.kind_video {d : DownTrack} (video : RustText.startsWith d.codec.mimeType "video/" = true) :
    d.kind = .video := by
  unfold DownTrack.kind
  rw [video_not_audio video, video]
  rfl

/-- One packet on the write stream: whether it is the first since the last bind
or mute, and what the packet and the track were like. -/
structure GateWrite where
  first : Bool
  keyFrame : Bool
  opened : Bool
  deriving DecidableEq, Repr

/-- A down track with its writes; `pending` while nothing was written since the
last bind or effective mute. -/
structure Gated where
  track : DownTrack
  pending : Bool := false
  writes : List GateWrite := []

namespace Gated
variable {ε : Type}

def written (g : Gated) (op : TrackOp ε) (sent : List Sent) : List GateWrite :=
  match op with
  | .writeRtp _ pkt _ =>
      (sent.filter Sent.isRtp).map fun _ => ⟨g.pending, pkt.keyFrame, g.track.enabled && g.track.bound⟩
  | _ => []

def step (g : Gated) (op : TrackOp ε) : Option Gated :=
  (g.track.apply op).map fun outcome => {
    track := outcome.1
    pending := g.track.closes op || (g.pending && (g.written op outcome.2).isEmpty)
    writes := g.writes ++ g.written op outcome.2 }

/-- Every write finds the track open, and the first one after a bind or a mute is a key frame. -/
def KeyFrameFirst (g : Gated) : Prop :=
  ∀ w ∈ g.writes, w.opened = true ∧ (w.first = true → w.keyFrame = true)

structure Waits (g : Gated) : Prop where
  video : RustText.startsWith g.track.codec.mimeType "video/" = true
  pending : g.pending = true → g.track.reSync = true ∨ g.track.writeStream = false
  keyFrameFirst : g.KeyFrameFirst

theorem write_waits {g : Gated} {env : SendEnv ε} {pkt : ExtPacket} {layer : Nat} {d' : DownTrack}
    {sent : List Sent} (inv : g.Waits) (outcome : g.track.WriteOutcome pkt layer d' sent) :
    Waits {
      track := d'
      pending := g.pending && (g.written (.writeRtp env pkt layer) sent).isEmpty
      writes := g.writes ++ g.written (.writeRtp env pkt layer) sent } := by
  have video := g.track.kind_video inv.video
  cases outcome with
  | dropped =>
      simp only [written, List.filter_nil, List.map_nil, List.isEmpty_nil, Bool.and_true, List.append_nil]
      exact inv
  | held senderSsrc mediaSsrc =>
      simp only [written, List.filter_cons, Sent.isRtp]
      simp only [List.filter_nil, Bool.false_eq_true, if_false, List.map_nil, List.isEmpty_nil, Bool.and_true,
        List.append_nil]
      exact inv
  | silent admits noStream forwards =>
      simp only [written, List.filter_nil, List.map_nil, List.isEmpty_nil, Bool.and_true, List.append_nil]
      refine ⟨?_, fun _ => Or.inr ?_, inv.keyFrameFirst⟩
      · rw [forwards.codec]
        exact inv.video
      · rw [forwards.writeStream]
        exact noStream
  | forwarded admits stream forwards sn =>
      refine ⟨?_, fun waits => ?_, fun w written => ?_⟩
      · rw [forwards.codec]
        exact inv.video
      · cases (Bool.and_eq_true_iff.mp waits).2
      · rcases List.mem_append.mp written with old | new
        · exact inv.keyFrameFirst w old
        · obtain rfl := List.mem_singleton.mp new
          refine ⟨Bool.and_eq_true_iff.mpr ⟨admits.1, admits.2.1⟩, fun first => ?_⟩
          have waiting : g.track.reSync = true := by
            rcases inv.pending first with resync | noStream
            · exact resync
            · cases noStream.symm.trans stream
          exact admits.keyFrame waiting video

theorem keeps_waits {g : Gated} {d' : DownTrack} {closed : Bool} (inv : g.Waits)
    (keeps : g.track.Keeps d' closed) : Waits { g with track := d', pending := closed || g.pending } := by
  refine ⟨?_, fun waits => ?_, inv.keyFrameFirst⟩
  · rw [keeps.codec]
    exact inv.video
  · cases closed with
    | true => exact Or.inl (keeps.gate.1 rfl)
    | false =>
        obtain ⟨reSync, writeStream⟩ := keeps.gate.2 rfl
        rw [reSync, writeStream]
        exact inv.pending waits

theorem written_other {g : Gated} {op : TrackOp ε} (other : ∀ env pkt layer, op ≠ .writeRtp env pkt layer)
    (sent : List Sent) : g.written op sent = [] := by
  cases op with
  | writeRtp env pkt layer => exact absurd rfl (other env pkt layer)
  | _ => rfl

theorem step_waits {g g' : Gated} {op : TrackOp ε} (inv : g.Waits) (h : g.step op = some g') : g'.Waits := by
  obtain ⟨⟨d', sent⟩, applied, rfl⟩ := Option.map_eq_some_iff.mp h
  by_cases other : ∀ env pkt layer, op ≠ .writeRtp env pkt layer
  · have kept := keeps_waits inv (DownTrack.apply_keeps other applied)
    simp only [written_other other, List.isEmpty_nil, Bool.and_true, List.append_nil]
    exact kept
  · obtain ⟨env, pkt, layer, rfl⟩ : ∃ env pkt layer, op = .writeRtp env pkt layer := by
      simpa only [not_forall, not_not] using other
    exact write_waits inv (DownTrack.apply_writeRtp applied)

/-- A bind, a mute and its release, each followed by a packet that is not a key frame. -/
def gateOps : List (TrackOp Unit) := [
  .bind vp8Context 0,
  .writeRtp {} (vp8Packet 1 false) 0, .writeRtp {} (vp8Packet 2 true) 0, .writeRtp {} (vp8Packet 3 false) 0,
  .mute true, .writeRtp {} (vp8Packet 4 true) 0, .mute false,
  .writeRtp {} (vp8Packet 5 false) 0, .writeRtp {} (vp8Packet 6 true) 0]

/-- On a video track every written packet finds the track bound and enabled, and the
first one after a bind or an effective mute is a key frame. -/
theorem run_keyFrameFirst {d : DownTrack} (video : RustText.startsWith d.codec.mimeType "video/" = true)
    (ops : List (TrackOp ε)) {g : Gated} (reached : run step { track := d } ops = some g) :
    g.KeyFrameFirst := by
  have start : Waits { track := d } := ⟨video, fun waits => (nomatch waits), fun w written => (nomatch written)⟩
  exact (run_preserves Waits (fun _ _ _ inv moved => step_waits inv moved) start reached).keyFrameFirst

theorem run_keyFrameFirst_vp8 : ∃ g, run step { track := vp8Track } gateOps = some g ∧
    g.writes.map GateWrite.first = [true, false, true] ∧ g.KeyFrameFirst := by
  have left : (run step { track := vp8Track } gateOps).map (fun g => g.writes.map GateWrite.first) =
      some [true, false, true] := by decide +kernel
  obtain ⟨g, reached, left⟩ := Option.map_eq_some_iff.mp left
  exact ⟨g, reached, left, run_keyFrameFirst (by decide +kernel) gateOps reached⟩

end Gated

end Rsfu
