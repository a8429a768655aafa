import Rsfu.Bucket

/-! The ring behind `Bucket`: what a slot holds, what `push`, `set` and `get` do
to slots, and the invariant that ties positions to true sequence numbers. -/
namespace Rsfu
open RingSlots ByteStore SerialNumber

/-- The slot holds the packet behind its length prefix. -/
structure HoldsAt (buf : ByteStore) (slot : Nat) (pkt : Bytes) : Prop where
  len : buf.readU16 (slot * maxPacketSize) = some (UInt16.ofNat pkt.length)
  seq : buf.readU16 (slot * maxPacketSize + 4) = u16At pkt 2
  data : buf.slice (slot * maxPacketSize + 2) pkt.length = some pkt

/-- A write of one packet into one slot. -/
structure SlotWritten (old new : ByteStore) (slot : Nat) (pkt : Bytes) : Prop where
  size : new.size = old.size
  holds : HoldsAt new slot pkt
  frame : ∀ i, i < slot * maxPacketSize ∨ slot * maxPacketSize + maxPacketSize ≤ i → new.cell i = old.cell i

/-- The packet of a true sequence number, of a length that fits a slot. -/
structure PacketOf (seq : Nat) (pkt : Bytes) : Prop where
  shortest : 4 ≤ pkt.length
  longest : pkt.length ≤ 1498
  sn : u16At pkt 2 = some (UInt16.ofNat seq)

theorem slots_apart {slot other : Nat} (ne : other ≠ slot) :
    other * maxPacketSize + maxPacketSize ≤ slot * maxPacketSize ∨
      slot * maxPacketSize + maxPacketSize ≤ other * maxPacketSize := by
  rcases Nat.lt_or_gt_of_ne ne with before | after
  · left
    rw [← Nat.succ_mul]
    exact Nat.mul_le_mul_right _ before
  · right
    rw [← Nat.succ_mul]
    exact Nat.mul_le_mul_right _ after

theorem HoldsAt.frame {old new : ByteStore} {slot other : Nat} {pkt kept : Bytes}
    (h : HoldsAt old other kept) (w : SlotWritten old new slot pkt) (ne : other ≠ slot)
    (short : kept.length ≤ 1498) : HoldsAt new other kept := by
  have apart := slots_apart ne
  have outside : ∀ i, other * maxPacketSize ≤ i → i < other * maxPacketSize + maxPacketSize →
      new.cell i = old.cell i := by
    intro i low high
    apply w.frame
    omega
  have wide : 1500 ≤ maxPacketSize := le_refl _
  constructor
  · rw [readU16_congr w.size fun i low high => outside i low (by omega)]
    exact h.len
  · rw [readU16_congr w.size fun i low high => outside i (by omega) (by omega)]
    exact h.seq
  · rw [slice_congr w.size fun i low high => outside i (by omega) (by omega)]
    exact h.data

/-- The two writes of `push` and `set`: the length prefix and the packet behind it. -/
theorem write_slot {buf : ByteStore} {slot : Nat} {pkt : Bytes}
    (room : (slot + 1) * maxPacketSize ≤ buf.size) (short : 4 ≤ pkt.length) (long : pkt.length ≤ 1498) :
    ∃ mid new, buf.write (slot * maxPacketSize) (beBytes (UInt16.ofNat pkt.length)) = some mid ∧
      mid.write (slot * maxPacketSize + 2) pkt = some new ∧ SlotWritten buf new slot pkt := by
  have wide : maxPacketSize = 1500 := rfl
  rw [Nat.succ_mul] at room
  have prefix_fits : slot * maxPacketSize + (beBytes (UInt16.ofNat pkt.length)).length ≤ buf.size := by
    rw [beBytes_length]
    omega
  obtain ⟨mid, first⟩ := write_fits buf prefix_fits
  obtain ⟨mid_size, -, -, mid_frame⟩ := write_some first
  rw [beBytes_length] at mid_frame
  have packet_fits : slot * maxPacketSize + 2 + pkt.length ≤ mid.size := by omega
  obtain ⟨new, second⟩ := write_fits mid packet_fits
  obtain ⟨new_size, -, -, new_frame⟩ := write_some second
  refine ⟨mid, new, first, second, ⟨new_size.trans mid_size, ⟨?_, ?_, slice_written second⟩, ?_⟩⟩
  · rw [readU16_congr new_size fun i low high => new_frame i (by omega)]
    have read := readU16_written first 0 (by rw [beBytes_length])
    rwa [Nat.add_zero, u16At_beBytes] at read
  · have read := readU16_written second 2 short
    rwa [Nat.add_assoc] at read
  · intro i outside
    rw [new_frame i (by omega), mid_frame i (by omega)]

namespace Bucket

/-- The ring has `m + 1` slots and the write position is one of them. -/
structure WellFormed (b : Bucket) (m : Nat) : Prop where
  steps : b.maxSteps = m
  step_le : b.step ≤ m
  room : (m + 1) * maxPacketSize ≤ b.buf.size

theorem slots_of_size {n : Nat} (one : 1500 ≤ n) : ∃ m, n / maxPacketSize = m + 1 := by
  have slots : 1 ≤ n / maxPacketSize := (Nat.one_le_div_iff (by decide)).mpr one
  exact ⟨n / maxPacketSize - 1, by omega⟩

theorem new_wellFormed {length m : Nat} (h : length / maxPacketSize = m + 1) : (new length).WellFormed m := by
  refine ⟨?_, Nat.zero_le m, ?_⟩
  · simp only [new, h]
    omega
  · rw [← h]
    exact Nat.div_mul_le_self length maxPacketSize

theorem WellFormed.slot_room {b : Bucket} {m slot : Nat} (wf : b.WellFormed m) (h : slot ≤ m) :
    (slot + 1) * maxPacketSize ≤ b.buf.size :=
  le_trans (Nat.mul_le_mul_right _ (by omega)) wf.room

theorem push_spec {b : Bucket} {m : Nat} {pkt : Bytes} (wf : b.WellFormed m) (short : 4 ≤ pkt.length)
    (long : pkt.length ≤ 1498) :
    ∃ buf, b.push pkt = some ({ b with buf, step := (b.step + 1) % (m + 1) }, .ok pkt) ∧
      SlotWritten b.buf buf b.step pkt := by
  obtain ⟨mid, buf, first, second, written⟩ := write_slot (wf.slot_room wf.step_le) short long
  refine ⟨buf, ?_, written⟩
  have fits : ¬ b.buf.size < b.step * maxPacketSize + pkt.length := by
    have := wf.slot_room wf.step_le
    unfold maxPacketSize at *
    omega
  have advance : (if b.maxSteps < (b.step : Int) + 1 then 0 else b.step + 1) = (b.step + 1) % (m + 1) := by
    rw [wf.steps]
    have := wf.step_le
    split
    · rw [show b.step + 1 = m + 1 by omega, Nat.mod_self]
    · exact (Nat.mod_eq_of_lt (by omega)).symm
  simp only [push, fits, if_false, first, second, slice_written second, advance, Option.bind_eq_bind,
    Option.bind_some, pure]

/-- The slot that `get` and `set` compute for a number. -/
def position (b : Bucket) (sn : UInt16) : Int :=
  let pos : Int := b.step - (distance b.headSn sn + 1).toNat
  if pos < 0 then b.maxSteps + pos + 1 else pos

/-- `get` does not give up on a number before it reads a slot. -/
def Reaches (b : Bucket) (sn : UInt16) : Prop :=
  ¬ ((b.step : Int) - (distance b.headSn sn + 1).toNat < 0 ∧
    b.maxSteps + 1 < -((b.step : Int) - (distance b.headSn sn + 1).toNat))

/-- The sixteen bits `get` and `set` compare with a number. -/
def numberAt (b : Bucket) (slot : Nat) : Option UInt16 := b.buf.readU16 (slot * maxPacketSize + 4)

theorem next_toNat (diff : UInt16) : (diff + 1).toNat = (diff.toNat + 1) % 65536 := by
  rw [toNat_add16]
  rfl

theorem position_inside {b : Bucket} {m : Nat} (wf : b.WellFormed m) {sn : UInt16}
    (reach : b.Reaches sn) : ∃ slot ≤ m, b.position sn = (slot : Nat) := by
  have := wf.step_le
  unfold Reaches at reach
  rw [wf.steps] at reach
  refine ⟨(b.position sn).toNat, ?_, ?_⟩
  · unfold position
    rw [wf.steps]
    dsimp only
    split <;> omega
  · unfold position
    rw [wf.steps]
    dsimp only
    split <;> omega

theorem near_reach {b : Bucket} {m : Nat} (wf : b.WellFormed m) {sn : UInt16}
    (near : (distance b.headSn sn).toNat ≤ m) : b.Reaches sn := by
  have next := next_toNat (distance b.headSn sn)
  rw [Reaches, wf.steps]
  omega

/-- For a number at most `m` behind the head the slot is the one its age leads to. -/
theorem position_back {b : Bucket} {m : Nat} (wf : b.WellFormed m) (small : m < 65536) {sn : UInt16}
    (near : (distance b.headSn sn).toNat ≤ m) :
    b.position sn = slotBack (m + 1) b.step (distance b.headSn sn).toNat := by
  have step_le := wf.step_le
  have next := next_toNat (distance b.headSn sn)
  unfold position
  rw [wf.steps, next]
  by_cases wraps : (distance b.headSn sn).toNat = 65535
  · -- the age plus one wraps to zero: the oldest of 65536 slots is the next one to write
    have full : m = 65535 := by omega
    have oldest : slotBack (m + 1) b.step 65535 = b.step := by
      rw [full, slotBack]
      exact Nat.mod_eq_of_lt (by omega)
    rw [wraps, oldest]
    dsimp only
    rw [if_neg (by omega)]
    omega
  · rw [Nat.mod_eq_of_lt (by omega),
      slotBack_signed (show b.step < m + 1 by omega) (show (distance b.headSn sn).toNat < m + 1 by omega)]
    dsimp only
    split <;> split <;> omega

theorem numberAt_some {b : Bucket} {m slot : Nat} (wf : b.WellFormed m) (le : slot ≤ m) :
    ∃ number, b.numberAt slot = some number := by
  have inside := wf.slot_room le
  refine ⟨_, if_pos ?_⟩
  unfold maxPacketSize at *
  omega

/-- A lookup that reaches a slot reads the number in it first. -/
theorem get_at {b : Bucket} {m slot : Nat} (wf : b.WellFormed m) {sn : UInt16} (reach : b.Reaches sn)
    (le : slot ≤ m) (here : b.position sn = (slot : Nat)) :
    b.get sn = (b.numberAt slot).bind fun number =>
      if number = sn then
        (b.buf.readU16 (slot * maxPacketSize)).bind fun size =>
          (b.buf.slice (slot * maxPacketSize + 2) size.toNat).map some
      else some none := by
  have inside := wf.slot_room le
  have in_store : ¬ b.buf.size < slot * maxPacketSize := by
    unfold maxPacketSize at *
    omega
  unfold Reaches at reach
  unfold position at here
  unfold numberAt
  dsimp only at here
  simp only [get, reach, if_false, here, Int.toNat_natCast, in_store, Option.bind_eq_bind, pure, bne_iff_ne, ne_eq,
    ite_not, Option.map_eq_bind]
  rfl

/-- `get` answers nothing, or reads the packet of one slot that bears the number. -/
theorem get_slot {b : Bucket} {m : Nat} (wf : b.WellFormed m) (sn : UInt16) :
    b.get sn = some none ∨
      b.Reaches sn ∧ ∃ slot ≤ m, b.position sn = (slot : Nat) ∧ b.numberAt slot = some sn := by
  by_cases reach : b.Reaches sn
  · obtain ⟨slot, le, here⟩ := position_inside wf reach
    obtain ⟨number, read⟩ := numberAt_some wf le
    by_cases same : number = sn
    · exact Or.inr ⟨reach, slot, le, here, same ▸ read⟩
    · left
      rw [get_at wf reach le here, read, Option.bind_some, if_neg same]
  · left
    unfold get
    dsimp only
    rw [if_pos (not_not.mp reach)]
    rfl

/-- The packet of the slot `get` reads, behind its length prefix. -/
theorem get_found {b : Bucket} {m slot : Nat} (wf : b.WellFormed m) {sn : UInt16} (reach : b.Reaches sn)
    (le : slot ≤ m) (here : b.position sn = (slot : Nat)) (read : b.numberAt slot = some sn) {len : UInt16}
    {data : Bytes} (length : b.buf.readU16 (slot * maxPacketSize) = some len)
    (bytes : b.buf.slice (slot * maxPacketSize + 2) len.toNat = some data) : b.get sn = some (some data) := by
  rw [get_at wf reach le here, read, Option.bind_some, if_pos rfl, length, Option.bind_some, bytes, Option.map_some]

theorem get_holds {b : Bucket} {m slot : Nat} (wf : b.WellFormed m) {sn : UInt16} (reach : b.Reaches sn)
    (le : slot ≤ m) (here : b.position sn = (slot : Nat)) {pkt : Bytes} (long : pkt.length ≤ 1498)
    (number : u16At pkt 2 = some sn) (holds : HoldsAt b.buf slot pkt) : b.get sn = some (some pkt) := by
  have length : (UInt16.ofNat pkt.length).toNat = pkt.length := by
    rw [toNat_ofNat16]
    exact Nat.mod_eq_of_lt (by omega)
  exact get_found wf reach le here (holds.seq.trans number) holds.len (by rw [length]; exact holds.data)

/-- `set` refuses a packet as too old or as a duplicate of what its slot holds, or writes it there. -/
theorem set_slot {b : Bucket} {m : Nat} {pkt : Bytes} (wf : b.WellFormed m) (short : 4 ≤ pkt.length)
    (long : pkt.length ≤ 1498) {sn : UInt16} (young : ¬ UInt16.ofInt b.maxSteps < distance b.headSn sn) :
    ∃ slot ≤ m, b.position sn = (slot : Nat) ∧
      ((b.numberAt slot = some sn ∧ b.set sn pkt = some (b, .error .errRTXPacket)) ∨
        (b.numberAt slot ≠ some sn ∧ ∃ buf, b.set sn pkt = some ({ b with buf }, .ok pkt) ∧
          SlotWritten b.buf buf slot pkt)) := by
  have near : (distance b.headSn sn).toNat ≤ m := by
    rw [wf.steps, ofInt_natCast16, UInt16.not_lt, UInt16.le_iff_toNat_le, toNat_ofNat16] at young
    exact young.trans (Nat.mod_le m 65536)
  obtain ⟨slot, le, here⟩ := position_inside wf (near_reach wf near)
  obtain ⟨number, read⟩ := numberAt_some wf le
  obtain ⟨mid, buf, first, second, written⟩ := write_slot (wf.slot_room le) short long
  have inside := wf.slot_room le
  have off : ((slot : Int) * (maxPacketSize : Int)).toNat = slot * maxPacketSize := by
    rw [← Int.natCast_mul, Int.toNat_natCast]
  have in_store : ¬ ((b.buf.size : Int) < (slot : Int) * (maxPacketSize : Int) ∨
      (slot : Int) * (maxPacketSize : Int) < 0) := by
    unfold maxPacketSize at *
    omega
  refine ⟨slot, le, here, ?_⟩
  rw [read]
  unfold position at here
  unfold numberAt at read
  dsimp only at here
  simp only [set, young, if_false, here, in_store, off, read, Option.bind_eq_bind, Option.bind_some, pure,
    Option.some.injEq]
  by_cases same : number = sn
  · left
    simp only [same, beq_self_eq_true, if_true, and_self]
  · right
    refine ⟨fun equal => same (Option.some.inj equal), buf, ?_, written⟩
    simp only [beq_eq_false_iff_ne.mpr same, Bool.false_eq_true, if_false, first, second, Option.bind_some]

theorem distance_ofNat {high seq : Nat} (le : seq ≤ high) (close : high < seq + 65536) :
    (distance (UInt16.ofNat high) (UInt16.ofNat seq)).toNat = high - seq := by
  rw [distance_eq_sub, ofNat_sub16 le, toNat_ofNat16]
  exact Nat.mod_eq_of_lt (by omega)

/-- Reading back the slot of a packet that is at most `m` behind the head. -/
theorem get_spec {b : Bucket} {m head seq : Nat} {pkt : Bytes} (wf : b.WellFormed m) (small : m < 65536)
    (at_head : b.headSn = UInt16.ofNat head) (le : seq ≤ head) (near : head ≤ seq + m)
    (of : PacketOf seq pkt) (holds : HoldsAt b.buf (slotBack (m + 1) b.step (head - seq)) pkt) :
    b.get (UInt16.ofNat seq) = some (some pkt) := by
  have age := distance_ofNat le (show head < seq + 65536 by omega)
  rw [← at_head] at age
  have back : (distance b.headSn (UInt16.ofNat seq)).toNat ≤ m := by omega
  have here := position_back wf small back
  rw [age] at here
  have slot_le : slotBack (m + 1) b.step (head - seq) ≤ m := Nat.le_of_lt_succ (slotBack_lt (Nat.succ_pos m))
  exact get_holds wf (near_reach wf back) slot_le here of.longest of.sn holds

/-- A late packet at most `m` behind the head is a duplicate of what its slot
holds, or is written into that slot. -/
theorem set_spec {b : Bucket} {m head seq : Nat} {pkt : Bytes} (wf : b.WellFormed m) (small : m < 65536)
    (at_head : b.headSn = UInt16.ofNat head) (le : seq ≤ head) (near : head ≤ seq + m)
    (of : PacketOf seq pkt) :
    (b.numberAt (slotBack (m + 1) b.step (head - seq)) = some (UInt16.ofNat seq) ∧
      b.set (UInt16.ofNat seq) pkt = some (b, .error .errRTXPacket)) ∨
    (b.numberAt (slotBack (m + 1) b.step (head - seq)) ≠ some (UInt16.ofNat seq) ∧
      ∃ buf, b.set (UInt16.ofNat seq) pkt = some ({ b with buf }, .ok pkt) ∧
        SlotWritten b.buf buf (slotBack (m + 1) b.step (head - seq)) pkt) := by
  have age := distance_ofNat le (show head < seq + 65536 by omega)
  rw [← at_head] at age
  have here := position_back wf small (show (distance b.headSn (UInt16.ofNat seq)).toNat ≤ m by omega)
  have young : ¬ UInt16.ofInt b.maxSteps < distance b.headSn (UInt16.ofNat seq) := by
    rw [wf.steps, ofInt_natCast16, UInt16.lt_iff_toNat_lt, age, toNat_ofNat16]
    omega
  obtain ⟨slot, -, at_slot, outcome⟩ := set_slot wf of.shortest of.longest young
  rw [here, age] at at_slot
  rw [Int.ofNat_inj.mp at_slot]
  exact outcome

/-- A packet further behind than the ring reaches is refused. -/
theorem set_too_old {b : Bucket} {m head seq : Nat} (pkt : Bytes) (wf : b.WellFormed m)
    (at_head : b.headSn = UInt16.ofNat head) (far : seq + m < head) (close : head < seq + 65536) :
    b.set (UInt16.ofNat seq) pkt = some (b, .error .errPacketTooOld) := by
  have old : UInt16.ofInt b.maxSteps < distance b.headSn (UInt16.ofNat seq) := by
    rw [wf.steps, ofInt_natCast16, UInt16.lt_iff_toNat_lt, at_head, distance_ofNat (by omega) close, toNat_ofNat16]
    omega
  simp only [set, old, if_true, pure]

/-- The slots `add_packet` passes before it writes a head packet. -/
def skipped (b : Bucket) (sn : UInt16) : Nat := if b.init then (distance sn b.headSn).toNat - 1 else 0

theorem addPacket_latest {b : Bucket} {m : Nat} {pkt : Bytes} (wf : b.WellFormed m) (short : 4 ≤ pkt.length)
    (long : pkt.length ≤ 1498) (sn : UInt16) :
    let slot := (bump b.maxSteps)^[b.skipped sn] b.step
    slot ≤ m ∧ ∃ buf,
      b.addPacket pkt sn true =
        some (⟨buf, true, (slot + 1) % (m + 1), sn, b.maxSteps⟩, .ok pkt) ∧ SlotWritten b.buf buf slot pkt := by
  have inside : (bump b.maxSteps)^[b.skipped sn] b.step < m + 1 :=
    bump_iterate_lt (by rw [wf.steps]; omega) _ (Nat.lt_succ_of_le wf.step_le)
  refine ⟨Nat.le_of_lt_succ inside, ?_⟩
  have wf' : WellFormed ⟨b.buf, true, (bump b.maxSteps)^[b.skipped sn] b.step, sn, b.maxSteps⟩ m :=
    ⟨wf.steps, Nat.le_of_lt_succ inside, wf.room⟩
  obtain ⟨buf, pushed, written⟩ := push_spec wf' short long
  refine ⟨buf, ?_, written⟩
  rw [← pushed]
  unfold addPacket skipped
  cases started : b.init with
  | true => simp only [if_true, started]
  | false =>
      have fresh : (distance sn (sn - 1)).toNat - 1 = 0 := by
        rw [distance_eq_sub, toNat_sub16, toNat_sub16]
        have := sn.toNat_lt
        simp only [UInt16.reduceToNat]
        omega
      simp only [Bool.false_eq_true, if_false, if_true, fresh]

end Bucket

end Rsfu
