import Rsfu.CheckedArith
import Rsfu.FeedbackSource
import Rsfu.SourceTimestamps

/-! The integer operations of the send path as a build with overflow checks runs
them: the ring of forwarded packets, the offsets of a down track and the numbers of
the VP8 filter, each part with its exact condition. -/
namespace Rsfu
open Checked SerialNumber RingSlots

def subU128Checked (a b : Nat) : Checked Nat := exactly (b ≤ a) (subU128 a b)

namespace Sequencer

def storeChecks (step : Nat) : Checked Unit := do
  let _ ← int32 (step + 1)
  pure ()

/-- The operations of `push` on an initialised ring. -/
def placeChecks (s : Sequencer) (offSn : UInt16) (head : Bool) : Checked Unit :=
  if head then do
    let inc ← sub16 offSn s.headSn
    bumps s.max (inc.toNat - 1) s.step
    storeChecks ((bump s.max)^[inc.toNat - 1] s.step)
  else do
    let back ← sub16 s.headSn offSn
    let step ← int32 (s.step - back.toNat)
    if step < 0 then
      let ago ← int32 (-step)
      if s.max ≤ ago then pure () else storeChecks s.step
    else storeChecks s.step

def pushChecks (s : Sequencer) (offSn : UInt16) (head : Bool) : Checked Unit :=
  (if s.init then s else { s with headSn := offSn, init := true }).placeChecks offSn head

/-- The clock against the last request of the entry; `unwrap` panics on an empty slot. -/
def entryChecks (s : Sequencer) (refTime : Nat) (sn : UInt16) (step : Int) : Checked Unit :=
  match s.seq step with
  | some entry =>
      if entry.targetSeqNo = sn ∧ entry.lastNack ≠ 0 then do
        let _ ← subU128Checked refTime entry.lastNack
        pure ()
      else pure ()
  | none => pure ()

def lookupChecks (s : Sequencer) (refTime : Nat) (sn : UInt16) : Checked Unit := do
  let back ← sub16 s.headSn sn
  let written ← int32 (s.step - back.toNat)
  let step ← int32 (written - 1)
  if step < 0 then
    let ago ← int32 (-step)
    if s.max ≤ ago then pure ()
    else
      let step ← int32 (step + s.max)
      s.entryChecks refTime sn step
  else s.entryChecks refTime sn step

def lookupAllChecks (s : Sequencer) (refTime : Nat) : List UInt16 → Checked Unit
  | [] => pure ()
  | sn :: rest => do
      s.lookupChecks refTime sn
      match s.lookup refTime sn with
      | some (s, _) => s.lookupAllChecks refTime rest
      | none => pure ()

def getSeqNoPairsChecks (s : Sequencer) (now : Nat) (seqNos : List UInt16) : Checked Unit := do
  let refTime ← subU128Checked now s.startTime
  s.lookupAllChecks refTime seqNos

/-- The values of the `i32` fields. -/
structure Ranged (s : Sequencer) : Prop where
  max : -2147483648 ≤ s.max ∧ s.max < 2147483648
  step : s.step = 0 ∨ (s.step : Int) < s.max

/-- A head packet is not behind the head, another one not ahead of it. -/
def PushFits (s : Sequencer) (offSn : UInt16) (head : Bool) : Prop :=
  s.init = true → if head then s.headSn ≤ offSn else offSn ≤ s.headSn

instance (s : Sequencer) (offSn : UInt16) (head : Bool) : Decidable (s.PushFits offSn head) :=
  inferInstanceAs (Decidable (s.init = true → if head then s.headSn ≤ offSn else offSn ≤ s.headSn))

theorem bump_ranged {limit : Int} (step : Nat) : bump limit step = 0 ∨ (bump limit step : Int) < limit := by
  unfold bump
  split <;> omega

theorem bumps_ranged {limit : Int} {step : Nat} (small : step = 0 ∨ (step : Int) < limit) (n : Nat) :
    (bump limit)^[n] step = 0 ∨ ((bump limit)^[n] step : Int) < limit := by
  induction n generalizing step with
  | zero => exact small
  | succ n ih => exact ih (bump_ranged step)

theorem storeChecks_value {limit : Int} {step : Nat} (bound : limit < 2147483648)
    (small : step = 0 ∨ (step : Int) < limit) : storeChecks step = .value () := by
  unfold storeChecks
  rw [int32_value (by omega) (by omega)]
  rfl

theorem placeChecks_needs {s : Sequencer} (ranged : s.Ranged) (offSn : UInt16) (head : Bool) :
    (s.placeChecks offSn head).Needs (if head then s.headSn ≤ offSn else offSn ≤ s.headSn) := by
  have bound := ranged.max
  have small := ranged.step
  unfold placeChecks
  cases head with
  | true =>
      simp only [if_true]
      refine (needs_exactly fun _ => ?_).congr (and_iff_left trivial)
      rw [bumps_value bound.2 (by omega), value_bind, storeChecks_value bound.2 (bumps_ranged small _)]
      exact needs_pure
  | false =>
      simp only [Bool.false_eq_true, if_false]
      refine (needs_exactly fun _ => ?_).congr (and_iff_left trivial)
      have back := (s.headSn - offSn).toNat_lt
      rw [int32_value (by omega) (by omega), value_bind, storeChecks_value bound.2 small]
      split
      · rw [int32_value (by omega) (by omega), value_bind]
        split
        · exact needs_pure
        · exact needs_pure
      · exact needs_pure

theorem pushChecks_needs {s : Sequencer} (ranged : s.Ranged) (offSn : UInt16) (head : Bool) :
    (s.pushChecks offSn head).Needs (s.PushFits offSn head) := by
  unfold pushChecks PushFits
  cases init : s.init with
  | true =>
      rw [if_pos rfl]
      exact (placeChecks_needs ranged offSn head).congr ⟨fun met _ => met, fun met => met rfl⟩
  | false =>
      have started : Ranged { s with headSn := offSn, init := true } := ⟨ranged.max, ranged.step⟩
      rw [if_neg Bool.false_ne_true]
      refine (placeChecks_needs started offSn head).congr (iff_of_true ?_ fun fresh => by cases fresh)
      split
      · exact UInt16.le_refl offSn
      · exact UInt16.le_refl offSn

theorem push_ranged {s : Sequencer} (ranged : s.Ranged) (sn offSn : UInt16) (timestamp : UInt32) (layer : UInt8)
    (head : Bool) : (s.push sn offSn timestamp layer head).1.Ranged := by
  have started : (if s.init then s else { s with headSn := offSn, init := true }).Ranged := by
    split
    · exact ranged
    · exact ⟨ranged.max, ranged.step⟩
  unfold push
  generalize (if s.init then s else { s with headSn := offSn, init := true }) = begun at started
  dsimp only
  cases head with
  | true => exact ⟨started.max, bump_ranged _⟩
  | false =>
      rw [if_neg Bool.false_ne_true]
      split
      · exact started
      · exact ⟨started.max, bump_ranged _⟩

/-- The position behind the write position that a number is looked up at. -/
def lookupStep (s : Sequencer) (sn : UInt16) : Int := s.step - (s.headSn - sn).toNat - 1

def entryFor (s : Sequencer) (sn : UInt16) : Option PacketMeta :=
  if s.lookupStep sn < 0 ∧ s.max ≤ -s.lookupStep sn then none
  else s.seq (if s.lookupStep sn < 0 then s.lookupStep sn + s.max else s.lookupStep sn)

/-- The number is not ahead of the head, and its entry was not asked for after this call. -/
def AskFits (s : Sequencer) (refTime : Nat) (sn : UInt16) : Prop :=
  sn ≤ s.headSn ∧ ∀ entry, s.entryFor sn = some entry → entry.targetSeqNo = sn → entry.lastNack ≤ refTime

/-- So it is for each number up to the first empty slot. -/
def AsksFit (s : Sequencer) (refTime : Nat) : List UInt16 → Prop
  | [] => True
  | sn :: rest => s.AskFits refTime sn ∧ (s.Reads sn → s.AsksFit refTime rest)

instance (s : Sequencer) (sn : UInt16) : Decidable (s.Reads sn) := inferInstanceAs (Decidable (_ ∨ _))

instance (s : Sequencer) (refTime : Nat) (sn : UInt16) : Decidable (s.AskFits refTime sn) :=
  inferInstanceAs (Decidable (sn ≤ s.headSn ∧
    ∀ entry ∈ s.entryFor sn, entry.targetSeqNo = sn → entry.lastNack ≤ refTime))

instance AsksFit.decide (s : Sequencer) (refTime : Nat) : ∀ sns, Decidable (s.AsksFit refTime sns)
  | [] => isTrue trivial
  | sn :: rest =>
      have := AsksFit.decide s refTime rest
      inferInstanceAs (Decidable (s.AskFits refTime sn ∧ (s.Reads sn → s.AsksFit refTime rest)))

theorem entryChecks_needs (s : Sequencer) (refTime : Nat) (sn : UInt16) (step : Int) :
    (s.entryChecks refTime sn step).Needs
      (∀ entry, s.seq step = some entry → entry.targetSeqNo = sn → entry.lastNack ≤ refTime) := by
  apply needs_found
  · intro empty
    rw [entryChecks, empty]
  · intro entry held
    have clock : (do
        let _ ← subU128Checked refTime entry.lastNack
        pure () : Checked Unit).Needs (entry.lastNack ≤ refTime ∧ True) := needs_exactly fun _ => needs_pure
    rw [entryChecks, held]
    refine (needs_when fun _ => clock).congr ⟨fun met own => ?_, fun met asked => ⟨met asked.1, trivial⟩⟩
    by_cases never : entry.lastNack = 0
    · rw [never]
      exact Nat.zero_le refTime
    · exact (met ⟨own, never⟩).1

theorem lookupChecks_needs {s : Sequencer} (ranged : s.Ranged) (refTime : Nat) (sn : UInt16) :
    (s.lookupChecks refTime sn).Needs (s.AskFits refTime sn) := by
  have bound := ranged.max
  have small := ranged.step
  have back := (s.headSn - sn).toNat_lt
  unfold lookupChecks AskFits entryFor lookupStep
  refine needs_exactly fun _ => ?_
  rw [int32_value (by omega) (by omega), value_bind, int32_value (by omega) (by omega), value_bind]
  have low : -65536 ≤ (s.step : Int) - (s.headSn - sn).toNat - 1 := by omega
  have high : (s.step : Int) - (s.headSn - sn).toNat - 1 < 2147483647 := by omega
  generalize (s.step : Int) - (s.headSn - sn).toNat - 1 = step at low high
  by_cases before : step < 0
  · simp only [before, if_true, true_and]
    rw [int32_value (by omega) (by omega), value_bind]
    by_cases outside : s.max ≤ -step
    · simp only [if_pos outside]
      exact needs_nothing fun entry found => by cases found
    · simp only [if_neg outside]
      rw [int32_value (by omega) (by omega), value_bind]
      exact entryChecks_needs s refTime sn _
  · simp only [before, false_and, if_false]
    exact entryChecks_needs s refTime sn step

/-- What a lookup leaves at the slot of each number: the entry, or the entry of the
number itself with the time of the call. -/
theorem lookup_entryFor {s s' : Sequencer} {refTime : Nat} {sn : UInt16} {found : List PacketMeta}
    (looked : s.lookup refTime sn = some (s', found)) (other : UInt16) :
    s'.entryFor other = s.entryFor other ∨
      ∃ entry, s.entryFor other = some entry ∧ entry.targetSeqNo = sn ∧
        s'.entryFor other = some { entry with lastNack := refTime } := by
  unfold lookup at looked
  dsimp only at looked
  split at looked
  · cases looked
    exact Or.inl rfl
  · generalize (if (s.step : Int) - (s.headSn - sn).toNat - 1 < 0
      then (s.step : Int) - (s.headSn - sn).toNat - 1 + s.max
      else (s.step : Int) - (s.headSn - sn).toNat - 1) = read at looked
    obtain ⟨entry, held, looked⟩ := Option.bind_eq_some_iff.mp looked
    split at looked
    · rename_i asked
      cases looked
      unfold entryFor lookupStep
      dsimp only
      by_cases outside : (s.step : Int) - (s.headSn - other).toNat - 1 < 0 ∧
          s.max ≤ -((s.step : Int) - (s.headSn - other).toNat - 1)
      · rw [if_pos outside, if_pos outside]
        exact Or.inl rfl
      · rw [if_neg outside, if_neg outside, Function.update_apply]
        generalize (if (s.step : Int) - (s.headSn - other).toNat - 1 < 0
          then (s.step : Int) - (s.headSn - other).toNat - 1 + s.max
          else (s.step : Int) - (s.headSn - other).toNat - 1) = slot
        split
        · rename_i here
          rw [here]
          exact Or.inr ⟨entry, held, asked.1, rfl⟩
        · exact Or.inl rfl
    · cases looked
      exact Or.inl rfl

/-- An entry that is asked for again was asked for now. -/
theorem lookup_askFits {s s' : Sequencer} {refTime : Nat} {sn : UInt16} {found : List PacketMeta}
    (fits : s.AskFits refTime sn) (looked : s.lookup refTime sn = some (s', found)) (other : UInt16) :
    s'.AskFits refTime other ↔ s.AskFits refTime other := by
  unfold AskFits
  rw [(lookup_sameSlots looked).headSn]
  refine and_congr_right fun _ => ?_
  rcases lookup_entryFor looked other with same | ⟨entry, held, own, now⟩
  · rw [same]
  · rw [held, now]
    constructor
    · intro met entry' same target
      cases same
      have again : other = sn := target.symm.trans own
      exact fits.2 entry (again ▸ held) own
    · intro met entry' same target
      cases same
      exact Nat.le_refl refTime

theorem lookup_asksFit {s s' : Sequencer} {refTime : Nat} {sn : UInt16} {found : List PacketMeta}
    (fits : s.AskFits refTime sn) (looked : s.lookup refTime sn = some (s', found)) (sns : List UInt16) :
    s'.AsksFit refTime sns ↔ s.AsksFit refTime sns := by
  induction sns with
  | nil => exact Iff.rfl
  | cons other rest ih =>
      unfold AsksFit
      rw [lookup_askFits fits looked other, (lookup_sameSlots looked).reads other, ih]

theorem lookupAllChecks_needs {s : Sequencer} (ranged : s.Ranged) (refTime : Nat) (sns : List UInt16) :
    (s.lookupAllChecks refTime sns).Needs (s.AsksFit refTime sns) := by
  induction sns generalizing s with
  | nil => exact needs_pure
  | cons sn rest ih =>
      unfold lookupAllChecks AsksFit
      refine (lookupChecks_needs ranged refTime sn).bind fun fits => ?_
      cases looked : s.lookup refTime sn with
      | none =>
          have empty : ¬ s.Reads sn := by
            rw [← lookup_isSome s refTime, looked]
            exact Bool.false_ne_true
          exact needs_nothing fun reads => absurd reads empty
      | some r =>
          obtain ⟨s', found⟩ := r
          have same := lookup_sameSlots looked
          have reads : s.Reads sn := by
            rw [← lookup_isSome s refTime, looked]
            rfl
          refine (ih ⟨same.max ▸ ranged.max, same.step ▸ same.max ▸ ranged.step⟩).congr ?_
          exact (lookup_asksFit fits looked rest).trans ⟨fun met _ => met, fun met => met reads⟩

theorem getSeqNoPairsChecks_needs {s : Sequencer} (ranged : s.Ranged) (now : Nat) (seqNos : List UInt16) :
    (s.getSeqNoPairsChecks now seqNos).Needs
      (s.startTime ≤ now ∧ s.AsksFit (subU128 now s.startTime) seqNos) :=
  needs_exactly fun _ => lookupAllChecks_needs ranged _ seqNos

end Sequencer

namespace DownTrack

/-- The offsets that the end of a re-sync computes anew. -/
def reSyncChecks (d : DownTrack) (hdr : Header) : Checked Unit :=
  if d.reSync ∧ d.lastSn ≠ 0 then do
    let gap ← sub16 hdr.sequenceNumber d.lastSn
    let _ ← sub16 gap 1
    let span ← sub32 hdr.timestamp d.lastTs
    let _ ← sub32 span 1
    pure ()
  else pure ()

def rewriteChecks (d : DownTrack) (hdr : Header) : Checked Unit := do
  let _ ← sub16 hdr.sequenceNumber d.snOffset
  let _ ← sub32 hdr.timestamp d.tsOffset
  pure ()

def numberSimpleChecks (d : DownTrack) (pkt : ExtPacket) : Checked Unit := do
  let hdr := pkt.packet.header
  d.reSyncChecks hdr
  let d := if d.reSync then d.endReSync hdr else d
  d.rewriteChecks hdr
  d.sequencer.pushChecks (hdr.sequenceNumber - d.snOffset) pkt.head

def writeSimpleChecks (d : DownTrack) (pkt : ExtPacket) : Checked Unit :=
  if d.reSync ∧ d.kind = .video ∧ ¬ pkt.keyFrame then pure () else d.numberSimpleChecks pkt

/-- The offsets of a packet from a new source; `d` is past `changeSource`. -/
def renumberChecks (d : DownTrack) (pkt : ExtPacket) : Checked Unit :=
  let hdr := pkt.packet.header
  if d.simulcast.lTsCalc ≠ 0 ∧ d.lastSsrc ≠ hdr.ssrc then do
    let elapsed ← int64 (pkt.arrival - d.simulcast.lTsCalc)
    let ticks ← mul32 (UInt32.ofNat (min (elapsed / 1000000).toNat 4294967295)) 90
    let td := if ticks / 1000 = 0 then 1 else ticks / 1000
    let next ← add32 d.lastTs td
    let _ ← sub32 hdr.timestamp next
    let gap ← sub16 hdr.sequenceNumber d.lastSn
    let _ ← sub16 gap 1
    pure ()
  else pure ()

/-- The numbers of the VP8 filter, behind its two copies. -/
def vp8Checks (d : DownTrack) (pkt : ExtPacket) : Checked Unit :=
  let copied := do
    let head ← sliceTo d.payload pkt.packet.payload.length
    let rvBuf ← copyFromSlice [] head
    copyFromSlice rvBuf pkt.packet.payload
  match copied with
  | some _ => do
      let picId ← sub16 pkt.payload.pictureId d.simulcast.refPicId
      let picId ← add16 picId d.simulcast.pRefPicId
      let _ ← add16 picId 1
      let tlz0Idx ← sub8 pkt.payload.tl0PictureIdx d.simulcast.refTlzIdx
      let tlz0Idx ← add8 tlz0Idx d.simulcast.pRefTlzIdx
      let _ ← add8 tlz0Idx 1
      pure ()
  | none => pure ()

def layerChecks (d : DownTrack) (temporalSupported : Bool) (pkt : ExtPacket) : Checked Unit :=
  if temporalSupported ∧ d.mime = "video/vp8" then
    if d.AboveLayer pkt then pure () else d.vp8Checks pkt
  else pure ()

def numberSimulcastChecks (d : DownTrack) (pkt : ExtPacket) : Checked Unit := do
  (d.changeSource pkt).renumberChecks pkt
  (d.atFilter pkt).rewriteChecks pkt.packet.header
  (d.atFilter pkt).layerChecks d.simulcast.temporalSupported pkt

def writeSimulcastChecks (d : DownTrack) (pkt : ExtPacket) (layer : Int) : Checked Unit :=
  if d.currentSpatialLayer ≠ layer then pure ()
  else if d.reSync ∧ ¬ pkt.keyFrame then pure ()
  else d.numberSimulcastChecks pkt

/-- The operations of `write_rtp`. -/
def writeRtpChecks (d : DownTrack) (pkt : ExtPacket) (layer : Nat) : Checked Unit :=
  if ¬ d.enabled then pure ()
  else if ¬ d.bound then pure ()
  else
    match d.trackType with
    | .simpleDownTrack => d.writeSimpleChecks pkt
    | .simulcastDownTrack => d.writeSimulcastChecks pkt layer

/-- The offsets in use are not above the numbers of the packet. -/
def OffsetsFit (d : DownTrack) (hdr : Header) : Prop :=
  d.snOffset ≤ hdr.sequenceNumber ∧ d.tsOffset ≤ hdr.timestamp

instance (d : DownTrack) (hdr : Header) : Decidable (d.OffsetsFit hdr) := inferInstanceAs (Decidable (_ ∧ _))

/-- The number a packet of a simple track goes out under. -/
def nextSn (d : DownTrack) (hdr : Header) : UInt16 :=
  if d.reSync ∧ d.lastSn ≠ 0 then d.lastSn + 1 else hdr.sequenceNumber - d.snOffset

structure SimpleFits (d : DownTrack) (pkt : ExtPacket) : Prop where
  numbers : if d.reSync ∧ d.lastSn ≠ 0 then
      d.lastSn < pkt.packet.header.sequenceNumber ∧ d.lastTs < pkt.packet.header.timestamp
    else d.OffsetsFit pkt.packet.header
  push : d.sequencer.PushFits (d.nextSn pkt.packet.header) pkt.head

instance (d : DownTrack) (pkt : ExtPacket) : Decidable (d.SimpleFits pkt) :=
  decidable_of_iff (_ ∧ _) ⟨fun ⟨numbers, push⟩ => ⟨numbers, push⟩, fun fits => ⟨fits.numbers, fits.push⟩⟩

theorem lt_iff_gap16 (a b : UInt16) : b < a ↔ b ≤ a ∧ 1 ≤ a - b := by
  have one : (1 : UInt16).toNat = 1 := rfl
  have bound := a.toNat_lt
  have other := b.toNat_lt
  rw [UInt16.lt_iff_toNat_lt, UInt16.le_iff_toNat_le, UInt16.le_iff_toNat_le, toNat_sub16, one]
  omega

theorem lt_iff_gap32 (a b : UInt32) : b < a ↔ b ≤ a ∧ 1 ≤ a - b := by
  have one : (1 : UInt32).toNat = 1 := rfl
  have bound := a.toNat_lt
  have other := b.toNat_lt
  rw [UInt32.lt_iff_toNat_lt, UInt32.le_iff_toNat_le, UInt32.le_iff_toNat_le, UInt32.toNat_sub, one]
  omega

theorem gap_le16 {a b : UInt16} (above : b < a) : a - b - 1 ≤ a := by
  obtain ⟨le, rest⟩ := (lt_iff_gap16 a b).mp above
  rw [UInt16.le_iff_toNat_le, UInt16.toNat_sub_of_le _ _ rest, UInt16.toNat_sub_of_le _ _ le]
  omega

theorem gap_le32 {a b : UInt32} (above : b < a) : a - b - 1 ≤ a := by
  obtain ⟨le, rest⟩ := (lt_iff_gap32 a b).mp above
  rw [UInt32.le_iff_toNat_le, UInt32.toNat_sub_of_le _ _ rest, UInt32.toNat_sub_of_le _ _ le]
  omega

theorem rewriteChecks_needs (d : DownTrack) (hdr : Header) : (d.rewriteChecks hdr).Needs (d.OffsetsFit hdr) := by
  refine Needs.congr (needs_exactly fun _ => needs_exactly fun _ => needs_pure) ?_
  exact and_congr_right fun _ => and_iff_left trivial

theorem reSyncChecks_needs (d : DownTrack) (hdr : Header) :
    (d.reSyncChecks hdr).Needs (d.reSync = true ∧ d.lastSn ≠ 0 →
      d.lastSn < hdr.sequenceNumber ∧ d.lastTs < hdr.timestamp) := by
  apply needs_when
  intro _
  rw [lt_iff_gap16, lt_iff_gap32]
  refine Needs.congr (needs_exactly fun _ => needs_exactly fun _ => needs_exactly fun _ => needs_exactly fun _ =>
    needs_pure) ?_
  rw [and_iff_left trivial, and_assoc]

/-- The offsets once a re-sync is over. -/
theorem endReSync_offsets (d : DownTrack) (hdr : Header) :
    (if d.reSync then d.endReSync hdr else d).sequencer = d.sequencer ∧
      (if d.reSync then d.endReSync hdr else d).snOffset =
        (if d.reSync ∧ d.lastSn ≠ 0 then hdr.sequenceNumber - d.lastSn - 1 else d.snOffset) ∧
      (if d.reSync then d.endReSync hdr else d).tsOffset =
        (if d.reSync ∧ d.lastSn ≠ 0 then hdr.timestamp - d.lastTs - 1 else d.tsOffset) := by
  unfold endReSync
  cases d.reSync with
  | false => exact ⟨rfl, rfl, rfl⟩
  | true =>
      by_cases used : d.lastSn ≠ 0
      · simp only [if_true, if_pos used, true_and]
      · simp only [if_true, if_neg used, true_and]

theorem numberSimpleChecks_needs {d : DownTrack} (ranged : d.sequencer.Ranged) (pkt : ExtPacket) :
    (d.numberSimpleChecks pkt).Needs (d.SimpleFits pkt) := by
  obtain ⟨sequencer, snOffset, tsOffset⟩ := d.endReSync_offsets pkt.packet.header
  unfold numberSimpleChecks
  dsimp only
  have push := Sequencer.pushChecks_needs (sequencer ▸ ranged)
    (pkt.packet.header.sequenceNumber - (if d.reSync then d.endReSync pkt.packet.header else d).snOffset) pkt.head
  refine Needs.congr ((d.reSyncChecks_needs pkt.packet.header).bind fun _ =>
    (rewriteChecks_needs _ pkt.packet.header).bind fun _ => push) ?_
  unfold OffsetsFit
  rw [snOffset, tsOffset, sequencer]
  by_cases resumes : d.reSync = true ∧ d.lastSn ≠ 0
  · have goesOn : pkt.packet.header.sequenceNumber - (pkt.packet.header.sequenceNumber - d.lastSn - 1) =
        d.lastSn + 1 := by grind
    simp only [if_pos resumes, goesOn]
    constructor
    · rintro ⟨above, -, push⟩
      refine ⟨?_, ?_⟩
      · rw [if_pos resumes]
        exact above resumes
      · rw [nextSn, if_pos resumes]
        exact push
    · rintro ⟨numbers, push⟩
      rw [if_pos resumes] at numbers
      rw [nextSn, if_pos resumes] at push
      exact ⟨fun _ => numbers, ⟨gap_le16 numbers.1, gap_le32 numbers.2⟩, push⟩
  · simp only [if_neg resumes]
    constructor
    · rintro ⟨-, offsets, push⟩
      refine ⟨?_, ?_⟩
      · rw [if_neg resumes]
        exact offsets
      · rw [nextSn, if_neg resumes]
        exact push
    · rintro ⟨numbers, push⟩
      rw [if_neg resumes] at numbers
      rw [nextSn, if_neg resumes] at push
      exact ⟨fun again => absurd again resumes, numbers, push⟩

/-- The arrival that the ticks up to a packet are counted from. -/
def countedFrom (d : DownTrack) (pkt : ExtPacket) : Int :=
  if d.reSync ∧ d.simulcast.lTsCalc ≠ 0 then pkt.arrival else d.simulcast.lTsCalc

/-- The ticks since the last packet fit in their type and leave the timestamp
behind the one of the packet. -/
structure ChangeFits (d : DownTrack) (pkt : ExtPacket) : Prop where
  elapsed : -9223372036854775808 ≤ pkt.arrival - d.countedFrom pkt ∧
    pkt.arrival - d.countedFrom pkt < 9223372036854775808
  ticks : ((pkt.arrival - d.countedFrom pkt) / 1000000).toNat * 90 < 4294967296
  timestamp : d.lastTs.toNat + (elapsedTicks pkt.arrival (d.countedFrom pkt)).toNat ≤
    pkt.packet.header.timestamp.toNat
  number : d.lastSn < pkt.packet.header.sequenceNumber

instance (d : DownTrack) (pkt : ExtPacket) : Decidable (d.ChangeFits pkt) :=
  decidable_of_iff (_ ∧ _ ∧ _ ∧ _)
    ⟨fun ⟨elapsed, ticks, timestamp, number⟩ => ⟨elapsed, ticks, timestamp, number⟩,
      fun fits => ⟨fits.elapsed, fits.ticks, fits.timestamp, fits.number⟩⟩

structure Vp8NumbersFit (refPicId pRefPicId picId : UInt16) (refTlzIdx pRefTlzIdx tlzIdx : UInt8) : Prop where
  picId_le : refPicId ≤ picId
  picId_room : picId.toNat - refPicId.toNat + pRefPicId.toNat + 1 < 65536
  tlzIdx_le : refTlzIdx ≤ tlzIdx
  tlzIdx_room : tlzIdx.toNat - refTlzIdx.toNat + pRefTlzIdx.toNat + 1 < 256

instance (refPicId pRefPicId picId : UInt16) (refTlzIdx pRefTlzIdx tlzIdx : UInt8) :
    Decidable (Vp8NumbersFit refPicId pRefPicId picId refTlzIdx pRefTlzIdx tlzIdx) :=
  decidable_of_iff (_ ∧ _ ∧ _ ∧ _)
    ⟨fun ⟨picLe, picRoom, tlzLe, tlzRoom⟩ => ⟨picLe, picRoom, tlzLe, tlzRoom⟩,
      fun fits => ⟨fits.picId_le, fits.picId_room, fits.tlzIdx_le, fits.tlzIdx_room⟩⟩

/-- A packet that ends a re-sync or comes from a new source is its own reference. -/
def Vp8Fits (d : DownTrack) (pkt : ExtPacket) : Prop :=
  let vp8 := pkt.payload
  if d.lastSsrc ≠ pkt.packet.header.ssrc ∨ d.reSync then
    Vp8NumbersFit vp8.pictureId d.simulcast.lPicId vp8.pictureId vp8.tl0PictureIdx d.simulcast.lTlzIdx
      vp8.tl0PictureIdx
  else
    Vp8NumbersFit d.simulcast.refPicId d.simulcast.pRefPicId vp8.pictureId d.simulcast.refTlzIdx
      d.simulcast.pRefTlzIdx vp8.tl0PictureIdx

instance (d : DownTrack) (pkt : ExtPacket) : Decidable (d.Vp8Fits pkt) := by
  unfold Vp8Fits
  infer_instance

structure SimulcastFits (d : DownTrack) (pkt : ExtPacket) : Prop where
  source : if d.Recomputes pkt then d.ChangeFits pkt else d.OffsetsFit pkt.packet.header
  filter : d.TemporalActive → ¬ d.AboveLayer pkt → pkt.packet.payload = [] → d.Vp8Fits pkt

instance (d : DownTrack) (pkt : ExtPacket) : Decidable (d.SimulcastFits pkt) :=
  decidable_of_iff (_ ∧ _) ⟨fun ⟨source, filter⟩ => ⟨source, filter⟩, fun fits => ⟨fits.source, fits.filter⟩⟩

theorem changeSource_lTsCalc (d : DownTrack) (pkt : ExtPacket) :
    (d.changeSource pkt).simulcast.lTsCalc = d.countedFrom pkt := by
  unfold changeSource countedFrom
  by_cases settles : d.lastSsrc ≠ pkt.packet.header.ssrc ∨ d.reSync = true
  · rw [if_pos settles]
    by_cases counted : d.reSync = true ∧ d.simulcast.lTsCalc ≠ 0
    · simp only [if_pos counted]
      split
      · rfl
      · rfl
    · simp only [if_neg counted]
      split
      · rfl
      · rfl
  · rw [if_neg settles, if_neg fun counted => settles (Or.inr counted.1)]

/-- The references a packet is numbered by. -/
theorem changeSource_simulcast {d : DownTrack} (pkt : ExtPacket) (active : d.TemporalActive) :
    (d.changeSource pkt).simulcast = if d.lastSsrc ≠ pkt.packet.header.ssrc ∨ d.reSync then
      { d.simulcast with
        lTsCalc := d.countedFrom pkt
        pRefPicId := d.simulcast.lPicId
        refPicId := pkt.payload.pictureId
        pRefTlzIdx := d.simulcast.lTlzIdx
        refTlzIdx := pkt.payload.tl0PictureIdx }
      else d.simulcast := by
  unfold changeSource countedFrom
  by_cases settles : d.lastSsrc ≠ pkt.packet.header.ssrc ∨ d.reSync = true
  · rw [if_pos settles, if_pos settles]
    by_cases counted : d.reSync = true ∧ d.simulcast.lTsCalc ≠ 0
    · simp only [if_pos counted, active.supported, active.vp8, and_self, if_true]
    · simp only [if_neg counted, active.supported, active.vp8, and_self, if_true]
  · rw [if_neg settles, if_neg settles]

/-- A sum that is not above a value of its type does not overflow. -/
theorem add_le32 (a b c : UInt32) : a.toNat + b.toNat < UInt32.size ∧ a + b ≤ c ↔ a.toNat + b.toNat ≤ c.toNat := by
  have bound := c.toNat_lt
  rw [UInt32.le_iff_toNat_le, UInt32.toNat_add]
  unfold UInt32.size
  omega

theorem renumberChecks_needs {d : DownTrack} (pkt : ExtPacket) (simulcast : d.trackType = .simulcastDownTrack) :
    ((d.changeSource pkt).renumberChecks pkt).Needs (d.Recomputes pkt → d.ChangeFits pkt) := by
  have counted := d.changeSource_lTsCalc pkt
  have recomputes := recomputes_simulcast pkt simulcast
  obtain ⟨helpers, changed⟩ := changeSource_frame d pkt
  rw [changed] at counted recomputes ⊢
  unfold renumberChecks
  simp only at counted recomputes ⊢
  rw [recomputes, counted]
  apply needs_when
  intro _
  refine Needs.congr (needs_exactly fun _ => needs_exactly fun _ => needs_exactly fun _ => needs_exactly fun _ =>
    needs_exactly fun _ => needs_exactly fun _ => needs_pure) ?_
  have millis : (UInt32.ofNat (min ((pkt.arrival - d.countedFrom pkt) / 1000000).toNat 4294967295)).toNat =
      min ((pkt.arrival - d.countedFrom pkt) / 1000000).toNat 4294967295 := by
    rw [UInt32.toNat_ofNat']
    exact Nat.mod_eq_of_lt (Nat.lt_of_le_of_lt (Nat.min_le_right _ _) (by decide))
  have ninety : (90 : UInt32).toNat = 90 := rfl
  have td : (if UInt32.ofNat (min ((pkt.arrival - d.countedFrom pkt) / 1000000).toNat 4294967295) * 90 / 1000 = 0
      then 1
      else UInt32.ofNat (min ((pkt.arrival - d.countedFrom pkt) / 1000000).toNat 4294967295) * 90 / 1000) =
        elapsedTicks pkt.arrival (d.countedFrom pkt) := rfl
  have saturates : min ((pkt.arrival - d.countedFrom pkt) / 1000000).toNat 4294967295 * 90 < UInt32.size ↔
      ((pkt.arrival - d.countedFrom pkt) / 1000000).toNat * 90 < 4294967296 := by
    unfold UInt32.size
    omega
  rw [millis, ninety, td, saturates, and_iff_left trivial, ← lt_iff_gap16,
    ← and_assoc (a := d.lastTs.toNat + _ < _), add_le32]
  constructor
  · rintro ⟨elapsed, ticks, timestamp, number⟩
    exact ⟨elapsed, ticks, timestamp, number⟩
  · rintro ⟨elapsed, ticks, timestamp, number⟩
    exact ⟨elapsed, ticks, timestamp, number⟩

theorem copied_isSome (d : DownTrack) (pkt : ExtPacket) :
    (do
      let head ← sliceTo d.payload pkt.packet.payload.length
      let rvBuf ← copyFromSlice [] head
      copyFromSlice rvBuf pkt.packet.payload).isSome = true ↔ pkt.packet.payload = [] := by
  generalize pkt.packet.payload = payload
  cases payload with
  | nil => exact iff_of_true rfl rfl
  | cons octet rest =>
      refine iff_of_false ?_ (List.cons_ne_nil octet rest)
      unfold sliceTo copyFromSlice
      split
      · rename_i fits
        have some : ([] : Bytes).length ≠ (d.payload.take (octet :: rest).length).length := by
          rw [List.length_take, Nat.min_eq_left fits]
          exact (Nat.succ_ne_zero _).symm
        simp only [Option.bind_eq_bind, Option.bind_some, if_neg some]
        exact Bool.false_ne_true
      · exact Bool.false_ne_true

theorem rebased16 (a b c : UInt16) :
    (b ≤ a ∧ (a - b).toNat + c.toNat < UInt16.size ∧ (a - b + c).toNat + (1 : UInt16).toNat < UInt16.size) ↔
      b ≤ a ∧ a.toNat - b.toNat + c.toNat + 1 < 65536 := by
  have one : (1 : UInt16).toNat = 1 := rfl
  refine and_congr_right fun le => ?_
  rw [UInt16.toNat_add, UInt16.toNat_sub_of_le _ _ le, one]
  unfold UInt16.size
  omega

theorem rebased8 (a b c : UInt8) :
    (b ≤ a ∧ (a - b).toNat + c.toNat < UInt8.size ∧ (a - b + c).toNat + (1 : UInt8).toNat < UInt8.size) ↔
      b ≤ a ∧ a.toNat - b.toNat + c.toNat + 1 < 256 := by
  have one : (1 : UInt8).toNat = 1 := rfl
  refine and_congr_right fun le => ?_
  rw [UInt8.toNat_add, UInt8.toNat_sub_of_le _ _ le, one]
  unfold UInt8.size
  omega

theorem vp8Checks_needs (d : DownTrack) (pkt : ExtPacket) :
    (d.vp8Checks pkt).Needs (pkt.packet.payload = [] →
      Vp8NumbersFit d.simulcast.refPicId d.simulcast.pRefPicId pkt.payload.pictureId d.simulcast.refTlzIdx
        d.simulcast.pRefTlzIdx pkt.payload.tl0PictureIdx) := by
  have copied := d.copied_isSome pkt
  unfold vp8Checks
  dsimp only
  cases answer : (do
    let head ← sliceTo d.payload pkt.packet.payload.length
    let rvBuf ← copyFromSlice [] head
    copyFromSlice rvBuf pkt.packet.payload) with
  | none =>
      rw [answer] at copied
      exact needs_nothing fun empty => absurd (copied.mpr empty) Bool.false_ne_true
  | some rvBuf =>
      rw [answer] at copied
      refine Needs.congr (needs_exactly fun _ => needs_exactly fun _ => needs_exactly fun _ => needs_exactly fun _ =>
        needs_exactly fun _ => needs_exactly fun _ => needs_pure) ?_
      constructor
      · rintro ⟨picLe, picSum, picNext, tlzLe, tlzSum, tlzNext, -⟩ -
        obtain ⟨picId_le, picId_room⟩ := (rebased16 _ _ _).mp ⟨picLe, picSum, picNext⟩
        obtain ⟨tlzIdx_le, tlzIdx_room⟩ := (rebased8 _ _ _).mp ⟨tlzLe, tlzSum, tlzNext⟩
        exact ⟨picId_le, picId_room, tlzIdx_le, tlzIdx_room⟩
      · intro met
        obtain ⟨picId_le, picId_room, tlzIdx_le, tlzIdx_room⟩ := met (copied.mp rfl)
        obtain ⟨picLe, picSum, picNext⟩ := (rebased16 _ _ _).mpr ⟨picId_le, picId_room⟩
        obtain ⟨tlzLe, tlzSum, tlzNext⟩ := (rebased8 _ _ _).mpr ⟨tlzIdx_le, tlzIdx_room⟩
        exact ⟨picLe, picSum, picNext, tlzLe, tlzSum, tlzNext, trivial⟩

theorem renumberSource_simulcast (d : DownTrack) (pkt : ExtPacket) :
    ∃ temporalSupported, (d.renumberSource pkt).simulcast = { d.simulcast with temporalSupported } := by
  unfold renumberSource
  dsimp only
  split
  · exact ⟨d.simulcast.temporalSupported, rfl⟩
  · split
    · split
      · exact ⟨pkt.payload.temporalSupported, rfl⟩
      · exact ⟨d.simulcast.temporalSupported, rfl⟩
    · exact ⟨d.simulcast.temporalSupported, rfl⟩

/-- The references of the filter once the source of a packet is settled. -/
theorem atFilter_numbers {d : DownTrack} (pkt : ExtPacket) (active : d.TemporalActive) :
    Vp8NumbersFit (d.atFilter pkt).simulcast.refPicId (d.atFilter pkt).simulcast.pRefPicId pkt.payload.pictureId
      (d.atFilter pkt).simulcast.refTlzIdx (d.atFilter pkt).simulcast.pRefTlzIdx pkt.payload.tl0PictureIdx ↔
      d.Vp8Fits pkt := by
  obtain ⟨temporalSupported, renumbered⟩ := (d.changeSource pkt).renumberSource_simulcast pkt
  unfold atFilter Vp8Fits
  rw [renumbered, changeSource_simulcast pkt active]
  by_cases settles : d.lastSsrc ≠ pkt.packet.header.ssrc ∨ d.reSync = true
  · simp only [if_pos settles]
  · simp only [if_neg settles]

theorem layerChecks_needs {d : DownTrack} (pkt : ExtPacket) (simulcast : d.trackType = .simulcastDownTrack) :
    ((d.atFilter pkt).layerChecks d.simulcast.temporalSupported pkt).Needs
      (d.TemporalActive → ¬ d.AboveLayer pkt → pkt.packet.payload = [] → d.Vp8Fits pkt) := by
  have mime := (d.atFilter_frame pkt).2.1
  have filtered : d.simulcast.temporalSupported = true ∧ (d.atFilter pkt).mime = "video/vp8" ↔ d.TemporalActive := by
    rw [mime]
    exact ⟨fun ⟨supported, vp8⟩ => ⟨simulcast, supported, vp8⟩, fun active => ⟨active.supported, active.vp8⟩⟩
  rw [← filtered, ← atFilter_above]
  apply needs_when
  intro active
  apply needs_unless
  intro _
  rw [← atFilter_numbers pkt (filtered.mp active)]
  exact vp8Checks_needs _ pkt

/-- The offsets of a packet from a new source are behind its numbers. -/
theorem atFilter_offsetsFit {d : DownTrack} {pkt : ExtPacket} (simulcast : d.trackType = .simulcastDownTrack)
    (change : d.Recomputes pkt → d.ChangeFits pkt) :
    (d.atFilter pkt).OffsetsFit pkt.packet.header ↔ (¬ d.Recomputes pkt → d.OffsetsFit pkt.packet.header) := by
  have tsOffset : (d.atFilter pkt).tsOffset = _ := atFilter_tsOffset simulcast
  obtain ⟨lastSsrc, _, lastTs, helpers, renumbered⟩ := renumberSource_frame pkt simulcast
  have snOffset : (d.atFilter pkt).snOffset =
      if d.Recomputes pkt then pkt.packet.header.sequenceNumber - d.lastSn - 1 else d.snOffset := by
    rw [atFilter, renumbered]
  unfold OffsetsFit
  rw [snOffset, tsOffset, changeSource_lTsCalc]
  by_cases again : d.Recomputes pkt
  · have fits := change again
    have sum := (add_le32 _ _ _).mpr fits.timestamp
    rw [if_pos again, if_pos again]
    refine iff_of_true ⟨gap_le16 fits.number, ?_⟩ fun not => absurd again not
    rw [UInt32.le_iff_toNat_le, UInt32.toNat_sub_of_le _ _ sum.2]
    exact Nat.sub_le _ _
  · rw [if_neg again, if_neg again]
    exact ⟨fun met _ => met, fun met => met again⟩

theorem numberSimulcastChecks_needs {d : DownTrack} (pkt : ExtPacket)
    (simulcast : d.trackType = .simulcastDownTrack) :
    (d.numberSimulcastChecks pkt).Needs (d.SimulcastFits pkt) := by
  unfold numberSimulcastChecks
  refine Needs.congr ((renumberChecks_needs pkt simulcast).bind fun change =>
    ((rewriteChecks_needs _ _).congr (atFilter_offsetsFit simulcast change)).bind fun _ =>
      layerChecks_needs pkt simulcast) ?_
  constructor
  · rintro ⟨change, offsets, filter⟩
    refine ⟨?_, filter⟩
    split
    · exact change ‹_›
    · exact offsets ‹_›
  · rintro ⟨source, filter⟩
    refine ⟨fun again => ?_, fun steady => ?_, filter⟩
    · rwa [if_pos again] at source
    · rwa [if_neg steady] at source

/-- The numbers of an admitted packet fit, each type of track in its own way. -/
def WriteFits (d : DownTrack) (pkt : ExtPacket) : Prop :=
  match d.trackType with
  | .simpleDownTrack => d.SimpleFits pkt
  | .simulcastDownTrack => d.SimulcastFits pkt

instance (d : DownTrack) (pkt : ExtPacket) : Decidable (d.WriteFits pkt) :=
  match type : d.trackType with
  | .simpleDownTrack => decidable_of_iff (d.SimpleFits pkt) (by rw [WriteFits, type])
  | .simulcastDownTrack => decidable_of_iff (d.SimulcastFits pkt) (by rw [WriteFits, type])

theorem writeSimpleChecks_needs {d : DownTrack} (ranged : d.sequencer.Ranged) (pkt : ExtPacket) :
    (d.writeSimpleChecks pkt).Needs
      (¬ (d.reSync = true ∧ d.kind = .video ∧ ¬ pkt.keyFrame = true) → d.SimpleFits pkt) :=
  needs_unless fun _ => numberSimpleChecks_needs ranged pkt

theorem writeSimulcastChecks_needs {d : DownTrack} (pkt : ExtPacket) (layer : Int)
    (simulcast : d.trackType = .simulcastDownTrack) :
    (d.writeSimulcastChecks pkt layer).Needs
      (¬ d.currentSpatialLayer ≠ layer → ¬ (d.reSync = true ∧ ¬ pkt.keyFrame = true) → d.SimulcastFits pkt) :=
  needs_unless fun _ => needs_unless fun _ => numberSimulcastChecks_needs pkt simulcast

theorem writeRtpChecks_needs {d : DownTrack} (ranged : d.sequencer.Ranged) (pkt : ExtPacket) (layer : Nat) :
    (d.writeRtpChecks pkt layer).Needs (d.Admits pkt layer → d.WriteFits pkt) := by
  unfold writeRtpChecks Admits WriteFits
  cases type : d.trackType with
  | simpleDownTrack =>
      refine (needs_unless fun _ => needs_unless fun _ => writeSimpleChecks_needs ranged pkt).congr ?_
      tauto
  | simulcastDownTrack =>
      refine (needs_unless fun _ => needs_unless fun _ => writeSimulcastChecks_needs pkt layer type).congr ?_
      tauto

end DownTrack

end Rsfu
