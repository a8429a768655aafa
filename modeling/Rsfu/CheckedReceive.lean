import Rsfu.CheckedArith
import Rsfu.NackTracking

/-! The integer operations of the receive path as a build with overflow checks runs
them: sequence tracking, the positions in the retransmission store and the packing
of missing numbers. With no wrap behind it, each part has its exact condition. -/
namespace Rsfu
open Checked SerialNumber RingSlots

def distanceChecked (new old : UInt16) : Checked UInt16 :=
  if new < old then do
    let back ← sub16 65535 old
    let sum ← add16 back new
    add16 sum 1
  else sub16 new old

theorem distanceChecked_eq (new old : UInt16) : distanceChecked new old = .value (distance new old) := by
  unfold distanceChecked distance
  have small := new.toNat_lt
  have bound := old.toNat_lt
  have top : (65535 : UInt16).toNat = 65535 := rfl
  by_cases below : new < old
  · have back : (65535 - old).toNat = 65535 - old.toNat := by
      rw [toNat_sub16, top]
      omega
    have less := UInt16.lt_iff_toNat_lt.mp below
    have sum : (65535 - old + new).toNat = 65535 - old.toNat + new.toNat := by
      rw [toNat_add16, back]
      omega
    have first : old ≤ 65535 := by
      rw [UInt16.le_iff_toNat_le, top]
      omega
    have second : (65535 - old).toNat + new.toNat < UInt16.size := by
      rw [back]
      change _ < 65536
      omega
    have third : (65535 - old + new).toNat + (1 : UInt16).toNat < UInt16.size := by
      rw [sum]
      change _ + 1 < 65536
      omega
    rw [if_pos below, if_pos below, sub16, exactly_value first, value_bind, add16, exactly_value second, value_bind,
      add16, exactly_value third]
  · rw [if_neg below, if_neg below, sub16, exactly_value (UInt16.not_lt.mp below)]

def extSnChecked (cycles : UInt32) (maxSeqNo msn : UInt16) : Checked UInt32 :=
  if msn > maxSeqNo ∧ msn &&& 0x8000 > 0 ∧ maxSeqNo &&& 0x8000 = 0 then do
    let before ← sub32 cycles maxSequenceNumber
    return before ||| msn.toUInt32
  else return cycles ||| msn.toUInt32

/-- The number seems to be of the cycle before. -/
def OfCycleBefore (maxSeqNo msn : UInt16) : Prop := maxSeqNo < msn ∧ 32768 ≤ msn.toNat ∧ maxSeqNo.toNat < 32768

theorem ofCycleBefore_iff (maxSeqNo msn : UInt16) :
    (msn > maxSeqNo ∧ msn &&& 0x8000 > 0 ∧ maxSeqNo &&& 0x8000 = 0) ↔ OfCycleBefore maxSeqNo msn := by
  rw [gt_iff_lt, gt_iff_lt, high_bit_set_iff, high_bit_clear_iff]
  rfl

theorem extSnChecked_needs (maxSeqNo msn : UInt16) :
    (extSnChecked 0 maxSeqNo msn >>= fun _ => pure ()).Needs (¬ OfCycleBefore maxSeqNo msn) := by
  unfold extSnChecked
  by_cases before : OfCycleBefore maxSeqNo msn
  · rw [if_pos ((ofCycleBefore_iff maxSeqNo msn).mpr before)]
    exact ⟨fun never => absurd before never, fun _ => rfl⟩
  · rw [if_neg fun seems => before ((ofCycleBefore_iff maxSeqNo msn).mp seems)]
    exact ⟨fun _ => rfl, fun never => absurd before never⟩

namespace Buffer

/-- The operations of the sequence tracking. -/
def trackChecks (b : Buffer) (sn : UInt16) : Checked Unit := do
  let distance ← distanceChecked sn b.maxSeqNo
  if b.stats.packetCount = 0 then pure ()
  else if distance &&& 0x8000 = 0 then
    let cycles ← if sn < b.maxSeqNo then add32 b.cycles maxSequenceNumber else pure b.cycles
    if b.nack then
      let diff ← sub16 sn b.maxSeqNo
      each (fun i => do
        let msn ← sub16 sn (UInt16.ofNat i)
        let _ ← extSnChecked cycles b.maxSeqNo msn
        pure ()) (List.range' 1 (diff.toNat - 1))
    else pure ()
  else if b.nack ∧ 0 < distance &&& 0x8000 then
    let _ ← extSnChecked b.cycles b.maxSeqNo sn
    pure ()
  else pure ()

/-- Forward steps stay within the cycle and skip no number of its second half from
the first; a late packet is not of the cycle before. -/
def TrackFits (b : Buffer) (sn : UInt16) : Prop :=
  b.stats.packetCount ≠ 0 →
    if distance sn b.maxSeqNo &&& 0x8000 = 0 then
      b.maxSeqNo ≤ sn ∧ (b.maxSeqNo.toNat < 32768 → sn.toNat ≤ 32768)
    else sn < b.maxSeqNo

/-- The loop over the skipped numbers. -/
theorem gap_needs {max sn : UInt16} (le : max ≤ sn) :
    (each (fun i => do
        let msn ← sub16 sn (UInt16.ofNat i)
        let _ ← extSnChecked 0 max msn
        pure ()) (List.range' 1 ((sn - max).toNat - 1))).Needs
      (∀ i ∈ List.range' 1 ((sn - max).toNat - 1), ¬ OfCycleBefore max (sn - UInt16.ofNat i)) := by
  refine needs_each fun i among => ?_
  obtain ⟨from_one, below⟩ := List.mem_range'_1.mp among
  have bound := (sn - max).toNat_lt
  have gap : (sn - max).toNat = sn.toNat - max.toNat := UInt16.toNat_sub_of_le _ _ le
  have small : UInt16.ofNat i ≤ sn := by
    rw [UInt16.le_iff_toNat_le, toNat_ofNat16]
    omega
  rw [sub16, exactly_value small, value_bind]
  exact extSnChecked_needs max (sn - UInt16.ofNat i)

/-- Some skipped number is of the second half exactly when the new one is past its first number. -/
theorem skips_half_iff {max sn : UInt16} (le : max ≤ sn) :
    (∀ i ∈ List.range' 1 ((sn - max).toNat - 1), ¬ OfCycleBefore max (sn - UInt16.ofNat i)) ↔
      (max.toNat < 32768 → sn.toNat ≤ 32768) := by
  have gap : (sn - max).toNat = sn.toNat - max.toNat := UInt16.toNat_sub_of_le _ _ le
  have bound := sn.toNat_lt
  have skipped (i : Nat) (small : i ≤ sn.toNat) : (sn - UInt16.ofNat i).toNat = sn.toNat - i := by
    rw [toNat_sub16, toNat_ofNat16]
    omega
  constructor
  · intro clear low
    by_contra high
    refine clear 1 (List.mem_range'_1.mpr (by omega)) ⟨?_, ?_, low⟩
    · rw [UInt16.lt_iff_toNat_lt, skipped 1 (by omega)]
      omega
    · rw [skipped 1 (by omega)]
      omega
  · rintro fits i among ⟨-, high, low⟩
    obtain ⟨from_one, below⟩ := List.mem_range'_1.mp among
    rw [skipped i (by omega)] at high
    have := fits low
    omega

theorem trackChecks_needs {b : Buffer} (nack : b.nack = true) (cycles : b.cycles = 0) (sn : UInt16) :
    (b.trackChecks sn).Needs (b.TrackFits sn) := by
  unfold trackChecks TrackFits
  rw [distanceChecked_eq, value_bind]
  apply needs_unless
  intro first
  by_cases forward : distance sn b.maxSeqNo &&& 0x8000 = 0
  · simp only [if_pos forward, nack, if_true]
    by_cases below : sn < b.maxSeqNo
    · have fits : b.cycles.toNat + maxSequenceNumber.toNat < UInt32.size := by
        rw [cycles]
        decide
      rw [if_pos below, add32, exactly_value fits, value_bind, sub16, exactly_overflows (UInt16.not_le.mpr below)]
      refine ⟨fun met => ?_, fun _ => rfl⟩
      exact absurd met.1 (UInt16.not_le.mpr below)
    · have le := UInt16.not_lt.mp below
      rw [if_neg below, pure_eq, value_bind, sub16, exactly_value le, value_bind, cycles]
      refine (gap_needs le).congr ?_
      rw [skips_half_iff le]
      exact (and_iff_right le).symm
  · have back : 0 < distance sn b.maxSeqNo &&& 0x8000 := by
      rw [high_bit_set_iff]
      have := (high_bit_clear_iff _).not.mp forward
      omega
    rw [if_neg forward, if_neg forward, if_pos ⟨nack, back⟩, cycles]
    refine (extSnChecked_needs b.maxSeqNo sn).congr ?_
    -- half a cycle or more apart, the larger number is of the second half and the other is not
    have apart := (high_bit_set_iff _).mp back
    rw [distance_eq_sub, toNat_sub16] at apart
    have small := sn.toNat_lt
    have bound := b.maxSeqNo.toNat_lt
    unfold OfCycleBefore
    rw [UInt16.lt_iff_toNat_lt, UInt16.lt_iff_toNat_lt]
    omega

/-- The calls on the queue name numbers of the first cycle. -/
theorem trackSequence_calls_small {b : Buffer} (cycles : b.cycles = 0) {sn : UInt16} (fits : b.TrackFits sn)
    (arrivalTime : Int) :
    (b.trackSequence sn arrivalTime).1.cycles = 0 ∧
      ∀ n, .push n ∈ (b.trackSequence sn arrivalTime).2 → n.toNat < 65536 := by
  by_cases first : b.stats.packetCount = 0
  · rw [trackSequence_first first]
    exact ⟨cycles, fun n mem => absurd mem List.not_mem_nil⟩
  have met := fits first
  by_cases forward : distance sn b.maxSeqNo &&& 0x8000 = 0
  · rw [if_pos forward] at met
    obtain ⟨le, half⟩ := met
    rw [trackSequence_forward first forward, if_neg (UInt16.not_lt.mpr le), cycles]
    refine ⟨rfl, fun n mem => ?_⟩
    by_cases nack : b.nack = true
    · simp only [nack, if_true, gapCalls, List.mem_map] at mem
      obtain ⟨i, among, same⟩ := mem
      cases same
      have direct := (skips_half_iff le).mpr half i among
      unfold extSn
      rw [if_neg fun seems => direct ((ofCycleBefore_iff _ _).mp seems), UInt32.zero_or, UInt16.toNat_toUInt32]
      exact UInt16.toNat_lt _
    · simp only [nack] at mem
      cases mem
  · rw [trackSequence_late first forward]
    split
    · exact ⟨cycles, fun n mem => by cases List.mem_singleton.mp mem⟩
    · exact ⟨cycles, fun n mem => absurd mem List.not_mem_nil⟩

end Buffer

namespace Bucket

def pushChecks (b : Bucket) (pkt : Bytes) : Checked Unit := do
  if b.buf.size < b.step * maxPacketSize + pkt.length then pure ()
  else
    let _ ← int32 (b.step + 1)
    pure ()

/-- A position before the first slot counts from the end. -/
def slotChecked (maxSteps pos : Int) : Checked Int :=
  if pos < 0 then do
    let wrapped ← int32 (maxSteps + pos)
    int32 (wrapped + 1)
  else pure pos

/-- What `set` and `get` compute from a position. -/
def positionChecks (b : Bucket) (pos : Int) : Checked Unit := do
  let slot ← slotChecked b.maxSteps pos
  let _ ← int32 (slot * maxPacketSize)
  pure ()

def setChecks (b : Bucket) (sn : UInt16) : Checked Unit := do
  let diff ← distanceChecked b.headSn sn
  if UInt16.ofInt b.maxSteps < diff then pure ()
  else
    let age ← add16 diff 1
    let pos ← int32 (b.step - age.toNat)
    b.positionChecks pos

def getChecks (b : Bucket) (sn : UInt16) : Checked Unit := do
  let diff ← distanceChecked b.headSn sn
  let age ← add16 diff 1
  let pos ← int32 (b.step - age.toNat)
  if pos < 0 then
    let ago ← int32 (-pos)
    let limit ← int32 (b.maxSteps + 1)
    if limit < ago then pure () else b.positionChecks pos
  else b.positionChecks pos

def initChecked (b : Bucket) (sn : UInt16) : Checked Bucket :=
  if b.init then pure b
  else do
    let headSn ← sub16 sn 1
    pure { b with headSn, init := true }

def placeChecks (b : Bucket) (pkt : Bytes) (sn : UInt16) (latest : Bool) : Checked Unit :=
  if latest then do
    let diff ← distanceChecked sn b.headSn
    bumps b.maxSteps (diff.toNat - 1) b.step
    pushChecks { b with headSn := sn, step := (bump b.maxSteps)^[diff.toNat - 1] b.step } pkt
  else b.setChecks sn

def addPacketChecks (b : Bucket) (pkt : Bytes) (sn : UInt16) (latest : Bool) : Checked Unit := do
  let b ← b.initChecked sn
  b.placeChecks pkt sn latest

/-- A ring of five hundred slots at most. -/
structure Small (b : Bucket) : Prop where
  steps : 0 ≤ b.maxSteps ∧ b.maxSteps ≤ 499
  step_le : b.step ≤ b.maxSteps

theorem bump_small {maxSteps : Int} (limit : 0 ≤ maxSteps) (step : Nat) :
    (bump maxSteps step : Int) ≤ maxSteps := by
  unfold bump
  split <;> omega

theorem skips_small {maxSteps : Int} {step : Nat} (limit : 0 ≤ maxSteps) (le : step ≤ maxSteps) (n : Nat) :
    ((bump maxSteps)^[n] step : Int) ≤ maxSteps := by
  induction n generalizing step with
  | zero => exact le
  | succ n ih => exact ih (bump_small limit step)

theorem pushChecks_value {b : Bucket} (small : b.Small) (pkt : Bytes) : b.pushChecks pkt = .value () := by
  have limit := small.steps
  have le := small.step_le
  unfold pushChecks
  split
  · rfl
  · rw [int32_value (by omega) (by omega)]
    rfl

theorem positionChecks_value {b : Bucket} (small : b.Small) {pos : Int} (low : -(b.maxSteps + 1) ≤ pos)
    (high : pos ≤ b.maxSteps) : b.positionChecks pos = .value () := by
  have limit := small.steps
  unfold positionChecks slotChecked maxPacketSize
  split
  · rw [int32_value (by omega) (by omega), value_bind, int32_value (by omega) (by omega), value_bind,
      int32_value (by omega) (by omega)]
    rfl
  · rw [pure_eq, value_bind, int32_value (by omega) (by omega)]
    rfl

theorem setChecks_value {b : Bucket} (small : b.Small) (sn : UInt16) : b.setChecks sn = .value () := by
  have limit := small.steps
  have le := small.step_le
  unfold setChecks
  rw [distanceChecked_eq, value_bind]
  by_cases old : UInt16.ofInt b.maxSteps < distance b.headSn sn
  · rw [if_pos old]
    rfl
  · obtain ⟨m, same⟩ := Int.eq_ofNat_of_zero_le limit.1
    have near : (distance b.headSn sn).toNat ≤ m := by
      have near := UInt16.le_iff_toNat_le.mp (UInt16.not_lt.mp old)
      rw [same, ofInt_natCast16, toNat_ofNat16] at near
      omega
    have one : (1 : UInt16).toNat = 1 := rfl
    have room : (distance b.headSn sn).toNat + (1 : UInt16).toNat < UInt16.size := by
      change _ < 65536
      omega
    have age : (distance b.headSn sn + 1).toNat = (distance b.headSn sn).toNat + 1 := by
      rw [toNat_add16, one]
      omega
    rw [if_neg old, add16, exactly_value room, value_bind, age, int32_value (by omega) (by omega), value_bind]
    exact positionChecks_value small (by omega) (by omega)

theorem placeChecks_value {b : Bucket} (small : b.Small) (pkt : Bytes) (sn : UInt16) (latest : Bool) :
    b.placeChecks pkt sn latest = .value () := by
  unfold placeChecks
  cases latest with
  | true =>
      have limit := small.steps
      have le := small.step_le
      rw [if_pos rfl, distanceChecked_eq, value_bind, bumps_value (by omega) (by omega), value_bind]
      refine pushChecks_value ?_ pkt
      exact ⟨small.steps, skips_small small.steps.1 small.step_le _⟩
  | false => exact setChecks_value small sn

theorem addPacketChecks_needs {b : Bucket} (small : b.Small) (pkt : Bytes) (sn : UInt16) (latest : Bool) :
    (b.addPacketChecks pkt sn latest).Needs (b.init = false → sn ≠ 0) := by
  unfold addPacketChecks initChecked
  cases init : b.init with
  | true =>
      rw [if_pos rfl, pure_eq, value_bind, placeChecks_value small]
      exact needs_nothing fun fresh => by cases fresh
  | false =>
      rw [if_neg Bool.false_ne_true, sub16]
      by_cases zero : sn = 0
      · have below : ¬ (1 : UInt16) ≤ sn := by
          rw [zero]
          decide
        rw [exactly_overflows below]
        exact ⟨fun met => absurd zero (met rfl), fun _ => rfl⟩
      · have above : (1 : UInt16) ≤ sn := by
          rw [UInt16.le_iff_toNat_le]
          have one : (1 : UInt16).toNat = 1 := rfl
          have some : sn.toNat ≠ 0 := fun none => zero (UInt16.toNat_inj.mp none)
          omega
        have started : Small { b with headSn := sn - 1, init := true } := ⟨small.steps, small.step_le⟩
        rw [exactly_value above, value_bind, pure_eq, value_bind, placeChecks_value started]
        exact needs_nothing fun _ => zero

/-- A request for the number after the head is the one that overflows. -/
theorem getChecks_needs {b : Bucket} (small : b.Small) (sn : UInt16) :
    (b.getChecks sn).Needs (sn ≠ b.headSn + 1) := by
  have limit := small.steps
  have le := small.step_le
  have one : (1 : UInt16).toNat = 1 := rfl
  have bound := (distance b.headSn sn).toNat_lt
  unfold getChecks
  rw [distanceChecked_eq, value_bind, add16]
  by_cases next : sn = b.headSn + 1
  · have full : ¬ (distance b.headSn sn).toNat + (1 : UInt16).toNat < UInt16.size := by
      have head := b.headSn.toNat_lt
      rw [distance_eq_sub, next, toNat_sub16, toNat_add16, one]
      change ¬ _ < 65536
      omega
    rw [exactly_overflows full]
    exact ⟨fun other => absurd next other, fun _ => rfl⟩
  · have room : (distance b.headSn sn).toNat + (1 : UInt16).toNat < UInt16.size := by
      by_contra full
      refine next (UInt16.toNat_inj.mp ?_)
      have head := b.headSn.toNat_lt
      have number := sn.toNat_lt
      rw [distance_eq_sub, toNat_sub16, one] at full
      rw [toNat_add16, one]
      change ¬ _ < 65536 at full
      omega
    have age : (distance b.headSn sn + 1).toNat = (distance b.headSn sn).toNat + 1 := by
      rw [toNat_add16, one]
      change _ < 65536 at room
      omega
    rw [exactly_value room, value_bind, age, int32_value (by omega) (by omega), value_bind]
    refine ⟨fun _ => ?_, fun never => absurd next never⟩
    by_cases before : (b.step : Int) - ((distance b.headSn sn).toNat + 1 : Nat) < 0
    · rw [if_pos before, int32_value (by omega) (by omega), value_bind, int32_value (by omega) (by omega),
        value_bind]
      split
      · rfl
      · exact positionChecks_value small (by omega) (by omega)
    · rw [if_neg before]
      exact positionChecks_value small (by omega) (by omega)

end Bucket

namespace NackQueue

def Packing.opensChecked (p : Packing) (low : UInt16) : Checked Bool :=
  if p.np.packetId = 0 then pure true
  else do
    let last ← add16 p.np.packetId 16
    pure (last < low)

/-- The operations on one selected number. -/
def Packing.addChecks (p : Packing) (seqNumber : UInt32) : Checked Unit := do
  let opens ← p.opensChecked seqNumber.toUInt16
  if opens then pure ()
  else
    let offset ← sub16 seqNumber.toUInt16 p.np.packetId
    let bit ← sub16 offset 1
    let _ ← shl16 1 bit
    pure ()

/-- The operations of the loop of `pairs`. -/
def pairsLoopChecks (headSeqNumber : UInt32) : List Nack → Packing → Checked Unit
  | [], _ => pure ()
  | v :: rest, p =>
      if maxNackTimes ≤ v.nackd then pairsLoopChecks headSeqNumber rest p
      else do
        let limit ← sub32 headSeqNumber 2
        if limit ≤ v.seqNumber then pairsLoopChecks headSeqNumber rest p
        else
          let _ ← add8 v.nackd 1
          p.addChecks v.seqNumber
          pairsLoopChecks headSeqNumber rest (p.add v.seqNumber)

def pairsChecks (q : NackQueue) (headSeqNumber : UInt32) : Checked Unit :=
  if q.nacks.isEmpty then pure ()
  else pairsLoopChecks headSeqNumber q.nacks { keyFrameSeqNumber := q.keyFrameSeqNumber }

/-- Groups of seventeen numbers, each from the first number past the last group: one
that starts at 65520 or later is the last and holds one number. -/
def RoomAbove : Nat → List UInt32 → Prop
  | _, [] => True
  | base, sn :: rest =>
      base < 65520 ∧ RoomAbove (if base = 0 ∨ base + 16 < sn.toNat then sn.toNat else base) rest

def PairsFit (q : NackQueue) (head : UInt32) : Prop :=
  (2 ≤ head ∨ ∀ v ∈ q.nacks, maxNackTimes ≤ v.nackd) ∧ RoomAbove 0 (q.selected head)

/-- The open pair starts at `base`, zero for none, and the numbers to come are above. -/
structure Packing.Opened (p : Packing) (base : Nat) (rest : List UInt32) : Prop where
  low : p.np.packetId.toNat = base
  ascending : rest.Pairwise (· < ·)
  above : base ≠ 0 → ∀ sn ∈ rest, base < sn.toNat
  small : ∀ sn ∈ rest, sn.toNat < 65536

theorem Packing.addChecks_needs {p : Packing} {base : Nat} {sn : UInt32} {rest : List UInt32}
    (opened : p.Opened base (sn :: rest)) : (p.addChecks sn).Needs (base < 65520) := by
  have small := opened.small sn List.mem_cons_self
  have number : sn.toUInt16.toNat = sn.toNat := by
    rw [UInt32.toNat_toUInt16]
    omega
  have sixteen : (16 : UInt16).toNat = 16 := rfl
  have one : (1 : UInt16).toNat = 1 := rfl
  have low := opened.low
  unfold addChecks opensChecked
  by_cases none : p.np.packetId = 0
  · have zero : base = 0 := by rw [← opened.low, none]; rfl
    rw [if_pos none, pure_eq, value_bind, if_pos rfl]
    exact needs_nothing (by omega)
  · have some : base ≠ 0 := fun zero => none (UInt16.toNat_inj.mp (opened.low.trans zero))
    have above := opened.above some sn List.mem_cons_self
    rw [if_neg none, add16]
    by_cases room : base < 65520
    · have fits : p.np.packetId.toNat + (16 : UInt16).toNat < UInt16.size := by
        rw [opened.low]
        change _ < 65536
        omega
      have last : (p.np.packetId + 16).toNat = base + 16 := by
        rw [toNat_add16, opened.low, sixteen]
        omega
      rw [exactly_value fits, value_bind, pure_eq, value_bind]
      by_cases opens : p.np.packetId + 16 < sn.toUInt16
      · rw [decide_eq_true opens, if_pos rfl]
        exact needs_nothing room
      · have close := UInt16.lt_iff_toNat_lt.not.mp opens
        have first : p.np.packetId ≤ sn.toUInt16 := by
          rw [UInt16.le_iff_toNat_le]
          omega
        have offset : (sn.toUInt16 - p.np.packetId).toNat = sn.toNat - base := by
          rw [UInt16.toNat_sub_of_le _ _ first, number, opened.low]
        have second : (1 : UInt16) ≤ sn.toUInt16 - p.np.packetId := by
          rw [UInt16.le_iff_toNat_le]
          omega
        have third : sn.toUInt16 - p.np.packetId - 1 < 16 := by
          rw [UInt16.lt_iff_toNat_lt, UInt16.toNat_sub_of_le _ _ second]
          omega
        rw [decide_eq_false opens, if_neg Bool.false_ne_true, sub16, exactly_value first, value_bind, sub16,
          exactly_value second, value_bind, shl16, exactly_value third, value_bind]
        exact needs_nothing room
    · have full : ¬ p.np.packetId.toNat + (16 : UInt16).toNat < UInt16.size := by
        rw [opened.low]
        change ¬ _ < 65536
        omega
      rw [exactly_overflows full]
      exact ⟨fun met => absurd met room, fun _ => rfl⟩

/-- Where the open pair starts after one more number. -/
theorem Packing.Opened.add {p : Packing} {base : Nat} {sn : UInt32} {rest : List UInt32}
    (opened : p.Opened base (sn :: rest)) (room : base < 65520) :
    (p.add sn).Opened (if base = 0 ∨ base + 16 < sn.toNat then sn.toNat else base) rest := by
  obtain ⟨first, ascending⟩ := List.pairwise_cons.mp opened.ascending
  have small := opened.small sn List.mem_cons_self
  have number : sn.toUInt16.toNat = sn.toNat := by
    rw [UInt32.toNat_toUInt16]
    omega
  have same : (p.np.packetId = 0 ∨ sn.toUInt16 > p.np.packetId + 16) ↔ (base = 0 ∨ base + 16 < sn.toNat) := by
    have sixteen : (16 : UInt16).toNat = 16 := rfl
    rw [gt_iff_lt, UInt16.lt_iff_toNat_lt, toNat_add16, opened.low, sixteen, number, ← UInt16.toNat_inj, opened.low]
    change base = 0 ∨ _ ↔ _
    rw [Nat.mod_eq_of_lt (by omega)]
  have later (n : UInt32) (mem : n ∈ rest) : sn.toNat < n.toNat := UInt32.lt_iff_toNat_lt.mp (first n mem)
  refine ⟨?_, ascending, ?_, fun n mem => opened.small n (List.mem_cons_of_mem sn mem)⟩
  · split
    · rw [(add_starts (same.mpr ‹_›)).1, number]
    · rw [(add_stays fun start => absurd (same.mp start) ‹_›).2, opened.low]
  · intro some n mem
    by_cases start : base = 0 ∨ base + 16 < sn.toNat
    · rw [if_pos start]
      exact later n mem
    · rw [if_neg start] at some ⊢
      exact opened.above some n (List.mem_cons_of_mem sn mem)

theorem Packing.Opened.skip {p : Packing} {base : Nat} {sn : UInt32} {rest : List UInt32}
    (opened : p.Opened base (sn :: rest)) : p.Opened base rest where
  low := opened.low
  ascending := (List.pairwise_cons.mp opened.ascending).2
  above some n mem := opened.above some n (List.mem_cons_of_mem sn mem)
  small n mem := opened.small n (List.mem_cons_of_mem sn mem)

/-- An entry still to be asked for needs a head of two at least; one that is asked
for needs room above the group before it. -/
theorem pairsLoopChecks_needs {head : UInt32} {nacks : List Nack} {p : Packing} {base : Nat}
    (opened : p.Opened base (nacks.map Nack.seqNumber)) :
    (pairsLoopChecks head nacks p).Needs ((2 ≤ head ∨ ∀ v ∈ nacks, maxNackTimes ≤ v.nackd) ∧
      RoomAbove base ((nacks.filter fun v => Selects head v).map Nack.seqNumber)) := by
  induction nacks generalizing p base with
  | nil =>
      refine needs_nothing ⟨Or.inr fun v mem => ?_, trivial⟩
      exact absurd mem List.not_mem_nil
  | cons v rest ih =>
      unfold pairsLoopChecks
      by_cases worn : maxNackTimes ≤ v.nackd
      · have out : ¬ Selects head v := fun chosen => absurd chosen.1 (UInt8.not_lt.mpr worn)
        simp only [List.filter_cons, out, decide_false, Bool.false_eq_true, if_false,
          List.forall_mem_cons, worn, true_and]
        exact ih opened.skip
      · have young (all : ∀ w ∈ v :: rest, maxNackTimes ≤ w.nackd) : False := worn (all v List.mem_cons_self)
        rw [if_neg worn, sub32]
        by_cases two : 2 ≤ head
        · rw [exactly_value two, value_bind]
          by_cases ahead : head - 2 ≤ v.seqNumber
          · have out : ¬ Selects head v := fun chosen => absurd chosen.2 (UInt32.not_lt.mpr ahead)
            simp only [if_pos ahead, List.filter_cons, out, decide_false, Bool.false_eq_true, if_false, two, true_or,
              true_and]
            refine (ih opened.skip).congr (and_iff_right (Or.inl two))
          · have chosen : Selects head v := ⟨UInt8.not_le.mp worn, UInt32.not_le.mp ahead⟩
            have few : v.nackd.toNat + (1 : UInt8).toNat < UInt8.size := by
              have less := UInt8.lt_iff_toNat_lt.mp chosen.1
              have three : maxNackTimes.toNat = 3 := rfl
              have one : (1 : UInt8).toNat = 1 := rfl
              change _ < 256
              omega
            simp only [if_neg ahead, List.filter_cons, chosen, decide_true, if_true, List.map_cons, two, true_or,
              true_and, add8, exactly_value few, value_bind]
            refine ((Packing.addChecks_needs opened).bind fun room => ih (opened.add room)).congr ?_
            exact and_congr_right fun _ => and_iff_right (Or.inl two)
        · rw [exactly_overflows two]
          refine ⟨fun met => ?_, fun _ => rfl⟩
          exact (met.1.elim two young).elim

theorem pairsChecks_needs {q : NackQueue} (ordered : q.Ordered) (small : ∀ n ∈ q.numbers, n.toNat < 65536)
    (head : UInt32) : (q.pairsChecks head).Needs (q.PairsFit head) := by
  unfold pairsChecks
  split
  · rename_i empty
    have none : q.nacks = [] := List.isEmpty_iff.mp empty
    refine needs_nothing ?_
    unfold PairsFit selected
    rw [none]
    exact ⟨Or.inr fun v mem => absurd mem List.not_mem_nil, trivial⟩
  · exact pairsLoopChecks_needs ⟨rfl, List.pairwise_map.mpr ordered, fun some => absurd rfl some, small⟩

end NackQueue

end Rsfu
