import Rsfu.CheckedSend

/-! Overflow on the send path over runs of a down track and of requests to its
sequencer. The condition on a step is one on the numbers of the packet or request
and of the track before it. -/
namespace Rsfu
open Checked GuardedRun

def Sequencer.getSeqNoPairsChecked (s : Sequencer) (now : Nat) (seqNos : List UInt16) :
    Checked (Sequencer × List PacketMeta) := do
  s.getSeqNoPairsChecks now seqNos
  ofOption (s.getSeqNoPairs now seqNos)

/-- An operation of the subscription, or a request to its sequencer. -/
inductive SendOp (ε : Type) where
  | track (op : TrackOp ε)
  | getSeqNoPairs (now : Nat) (seqNos : List UInt16)

namespace DownTrack
variable {ε : Type}

def writeRtpChecked (d : DownTrack) (env : SendEnv ε) (pkt : ExtPacket) (layer : Nat) : Checked (Written ε) := do
  d.writeRtpChecks pkt layer
  ofOption (d.writeRtp env pkt layer)

/-- One call; an overflow or another panic ends the run. -/
def sendStep (d : DownTrack) : SendOp ε → Option DownTrack
  | .track (.writeRtp env pkt layer) => (d.writeRtpChecked env pkt layer).toOption.map Written.track
  | .track op => d.step op
  | .getSeqNoPairs now seqNos =>
      (d.sequencer.getSeqNoPairsChecked now seqNos).toOption.map fun r => { d with sequencer := r.1 }

def SendsInRange (d : DownTrack) : SendOp ε → Prop
  | .track (.writeRtp env pkt layer) => d.writeRtpChecked env pkt layer ≠ .overflows
  | .track _ => True
  | .getSeqNoPairs now seqNos => d.sequencer.getSeqNoPairsChecked now seqNos ≠ .overflows

/-- The numbers of an admitted packet fit, and those of a request fit the clock and the head. -/
def SendFits (d : DownTrack) : SendOp ε → Prop
  | .track op => d.OnAdmitted d.WriteFits op
  | .getSeqNoPairs now seqNos =>
      d.sequencer.startTime ≤ now ∧ d.sequencer.AsksFit (subU128 now d.sequencer.startTime) seqNos

instance (d : DownTrack) (op : SendOp ε) : Decidable (d.SendFits op) :=
  match op with
  | .track op => inferInstanceAs (Decidable (d.OnAdmitted d.WriteFits op))
  | .getSeqNoPairs _ _ => inferInstanceAs (Decidable (_ ∧ _))

/-- The `i32` fields of a track and of its sequencer. -/
structure SendRanged (d : DownTrack) : Prop where
  maxTrack : -2147483648 ≤ d.maxTrack ∧ d.maxTrack < 2147483648
  sequencer : d.sequencer.Ranged

theorem new_ranged {maxTrack : Int} (range : -2147483648 ≤ maxTrack ∧ maxTrack < 2147483648) (now : Nat) :
    (Sequencer.new maxTrack now).Ranged :=
  ⟨range, Or.inl rfl⟩

theorem SendRanged.inRange_iff {d : DownTrack} (ranged : d.SendRanged) (op : SendOp ε) :
    d.SendsInRange op ↔ d.SendFits op := by
  cases op with
  | track op =>
      cases op with
      | writeRtp env pkt layer =>
          have needs := writeRtpChecks_needs ranged.sequencer pkt layer
          exact (then_ofOption_iff _ _).trans needs.ne_overflows_iff
      | _ => exact Iff.rfl
  | getSeqNoPairs now seqNos =>
      have needs := Sequencer.getSeqNoPairsChecks_needs ranged.sequencer now seqNos
      exact (then_ofOption_iff _ _).trans needs.ne_overflows_iff

theorem numberSimple_ranged {d : DownTrack} (ranged : d.SendRanged) (pkt : ExtPacket) :
    (d.numberSimple pkt).SendRanged := by
  unfold numberSimple
  have resumed : (if d.reSync then d.endReSync pkt.packet.header else d).SendRanged := by
    split
    · rw [endReSync_frame]
      exact ⟨ranged.maxTrack, ranged.sequencer⟩
    · exact ranged
  simp only [noteHead_frame, updateStats]
  exact ⟨resumed.maxTrack, Sequencer.push_ranged resumed.sequencer _ _ _ _ _⟩

theorem numberSimulcast_ranged {d d' : DownTrack} {pkt : ExtPacket} (ranged : d.SendRanged)
    (simulcast : d.trackType = .simulcastDownTrack) (numbered : d.numberSimulcast pkt = some d') :
    d'.SendRanged := by
  obtain ⟨_, _, _, _, _, _, _, _, rfl, -⟩ := numberSimulcast_frame simulcast numbered
  exact ⟨ranged.maxTrack, ranged.sequencer⟩

theorem writeRtp_ranged {d : DownTrack} {env : SendEnv ε} {pkt : ExtPacket} {layer : Nat} {r : Written ε}
    (ranged : d.SendRanged) (wrote : d.writeRtp env pkt layer = some r) : r.track.SendRanged := by
  unfold writeRtp at wrote
  split at wrote
  · cases wrote
    exact ranged
  · split at wrote
    · cases wrote
      exact ranged
    · split at wrote
      · cases wrote
        unfold writeSimpleRtp
        dsimp only
        split
        · exact ranged
        · rw [writePacket_track]
          exact numberSimple_ranged ranged pkt
      · rename_i simulcast
        unfold writeSimulcastRtp at wrote
        simp only at wrote
        split at wrote
        · cases wrote
          exact ranged
        · split at wrote
          · cases wrote
            exact ranged
          · simp only [Option.bind_eq_bind, Option.bind_eq_some_iff] at wrote
            obtain ⟨d', numbered, wrote⟩ := wrote
            cases wrote
            rw [writePacket_track]
            exact numberSimulcast_ranged ranged simulcast numbered

theorem apply_ranged {d d' : DownTrack} {op : TrackOp ε} {sent : List Sent} (ranged : d.SendRanged)
    (other : ∀ env pkt layer, op ≠ .writeRtp env pkt layer) (applied : d.apply op = some (d', sent)) :
    d'.SendRanged := by
  obtain ⟨-, maxTrack, sequencer⟩ := apply_leaves other applied
  constructor
  · rw [maxTrack]
    exact ranged.maxTrack
  · rcases sequencer with same | ⟨now, fresh⟩
    · rw [same]
      exact ranged.sequencer
    · rw [fresh]
      exact new_ranged ranged.maxTrack now

theorem sendStep_ranged {d d' : DownTrack} {op : SendOp ε} (ranged : d.SendRanged) (done : d.sendStep op = some d') :
    d'.SendRanged := by
  cases op with
  | track op =>
      by_cases other : ∀ env pkt layer, op ≠ .writeRtp env pkt layer
      · have stepped : d.step op = some d' := by
          cases op with
          | writeRtp env pkt layer => exact absurd rfl (other env pkt layer)
          | _ => exact done
        obtain ⟨⟨_, sent⟩, applied, rfl⟩ := Option.map_eq_some_iff.mp stepped
        exact apply_ranged ranged other applied
      · obtain ⟨env, pkt, layer, rfl⟩ : ∃ env pkt layer, op = .writeRtp env pkt layer := by
          simpa only [not_forall, not_not] using other
        obtain ⟨r, wrote, rfl⟩ := Option.map_eq_some_iff.mp done
        exact writeRtp_ranged ranged (then_ofOption_eq_some wrote).2
  | getSeqNoPairs now seqNos =>
      obtain ⟨⟨s, found⟩, answered, rfl⟩ := Option.map_eq_some_iff.mp done
      have same := Sequencer.lookupAll_sameSlots (then_ofOption_eq_some answered).2
      exact ⟨ranged.maxTrack, same.max ▸ ranged.sequencer.max, same.step ▸ same.max ▸ ranged.sequencer.step⟩

/-- The exact condition, step by step, over every run of a track of either type. -/
theorem send_in_range_iff {d : DownTrack} (ranged : d.SendRanged) (ops : List (SendOp ε)) :
    Guarded sendStep SendsInRange d ops ↔ Guarded sendStep SendFits d ops :=
  guarded_iff SendRanged (fun _ op ranged => ranged.inRange_iff op)
    (fun _ _ _ ranged _ done => sendStep_ranged ranged done) ranged

theorem vp8Track_ranged : vp8Track.SendRanged := by
  constructor
  · decide
  · exact new_ranged (by decide) 0

/-- A stream from a number on: two packets and a request for them. -/
def streamOps (sn : UInt16) : List (SendOp Unit) := [
  .track (.bind vp8Context 1), .track (.writeRtp {} (vp8Packet sn true) 0),
  .track (.writeRtp {} (vp8Packet (sn + 1) false) 0), .getSeqNoPairs 5 [sn, sn + 1]]

theorem send_in_range_stream : Guarded sendStep SendsInRange vp8Track (streamOps 10) :=
  (send_in_range_iff vp8Track_ranged _).mpr (by decide +kernel)

/-- A stream that comes to the end of the numbers: the sequencer subtracts 65535 from zero. -/
theorem wrapped_number_overflows :
    vp8Track.SendRanged ∧ ¬ Guarded sendStep SendsInRange vp8Track (streamOps 65535) := by
  refine ⟨vp8Track_ranged, fun ranges => ?_⟩
  have fits := (guarded_iff SendRanged (fun _ op ranged => ranged.inRange_iff op)
    (fun _ _ _ ranged _ done => sendStep_ranged ranged done) vp8Track_ranged).mp ranges
  exact absurd fits (by decide +kernel)

end DownTrack

end Rsfu
