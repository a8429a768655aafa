import Rsfu.CheckedReceive
import Rsfu.StoreContents

/-! Where the bytes of a stored packet go. A slot has room for 1498 of them behind
the length prefix; what a longer packet has beyond these lands on the prefix of
the next slot, or past the end of the store. -/
namespace Rsfu
open RingSlots ByteStore Checked GuardedRun

/-- The two writes of a stored packet: its length and its bytes. -/
def writeAt (buf : ByteStore) (off : Nat) (pkt : Bytes) : Option ByteStore :=
  (buf.write off (beBytes (UInt16.ofNat pkt.length))).bind fun mid => mid.write (off + 2) pkt

theorem writeAt_fits {buf : ByteStore} {off : Nat} {pkt : Bytes} (fits : off + 2 + pkt.length ≤ buf.size) :
    ∃ new, writeAt buf off pkt = some new := by
  have prefix_fits : off + (beBytes (UInt16.ofNat pkt.length)).length ≤ buf.size := by
    rw [beBytes_length]
    omega
  obtain ⟨mid, first⟩ := write_fits buf prefix_fits
  have packet_fits : off + 2 + pkt.length ≤ mid.size := by rwa [(write_some first).1]
  obtain ⟨new, second⟩ := write_fits mid packet_fits
  exact ⟨new, by rw [writeAt, first, Option.bind_some, second]⟩

/-- What two writes leave: the bytes of the packet, and all other bytes as they were. -/
theorem writeAt_some {buf new : ByteStore} {off : Nat} {pkt : Bytes} (h : writeAt buf off pkt = some new) :
    new.size = buf.size ∧ off + 2 + pkt.length ≤ buf.size ∧
      (∀ i < pkt.length, new.cell (off + 2 + i) = pkt.getD i 0) ∧
      ∀ i, i < off ∨ off + 2 + pkt.length ≤ i → new.cell i = buf.cell i := by
  obtain ⟨mid, first, second⟩ := Option.bind_eq_some_iff.mp h
  obtain ⟨mid_size, -, -, mid_frame⟩ := write_some first
  obtain ⟨new_size, fits, inside, new_frame⟩ := write_some second
  rw [beBytes_length] at mid_frame
  refine ⟨new_size.trans mid_size, mid_size ▸ fits, inside, fun i outside => ?_⟩
  rw [new_frame i (by omega), mid_frame i (by omega)]

namespace Bucket

/-- The first call of a bucket gives it a head. -/
def opened (b : Bucket) (sn : UInt16) : Bucket := if b.init then b else { b with headSn := sn - 1, init := true }

/-- The bucket a head packet is pushed to, past the slots of its gap. -/
def advanced (b : Bucket) (sn : UInt16) : Bucket :=
  { b with headSn := sn, step := (bump b.maxSteps)^[(distance sn b.headSn).toNat - 1] b.step }

theorem addPacket_eq (b : Bucket) (a : Addition) :
    b.addPacket a.pkt a.sn a.latest =
      if a.latest then ((b.opened a.sn).advanced a.sn).push a.pkt else (b.opened a.sn).set a.sn a.pkt := rfl

theorem opened_buf (b : Bucket) (sn : UInt16) : (b.opened sn).buf = b.buf := by
  unfold opened
  cases b.init <;> rfl

theorem opened_maxSteps (b : Bucket) (sn : UInt16) : (b.opened sn).maxSteps = b.maxSteps := by
  unfold opened
  cases b.init <;> rfl

theorem push_eq (b : Bucket) (pkt : Bytes) :
    b.push pkt =
      if b.buf.size < b.step * maxPacketSize + pkt.length then some (b, .error .errBufferTooSmall)
      else (writeAt b.buf (b.step * maxPacketSize) pkt).map fun buf =>
        ({ b with buf, step := if b.maxSteps < (b.step : Int) + 1 then 0 else b.step + 1 }, .ok pkt) := by
  unfold push
  by_cases small : b.buf.size < b.step * maxPacketSize + pkt.length
  · simp only [small, if_true, pure]
  · simp only [small, if_false, Option.bind_eq_bind, pure, writeAt]
    cases b.buf.write (b.step * maxPacketSize) (beBytes (UInt16.ofNat pkt.length)) with
    | none => rfl
    | some mid =>
        simp only [Option.bind_some]
        cases second : mid.write (b.step * maxPacketSize + 2) pkt with
        | none => rfl
        | some buf => rw [Option.bind_some, slice_written second, Option.bind_some, Option.map_some]

theorem set_eq (b : Bucket) (sn : UInt16) (pkt : Bytes) :
    b.set sn pkt =
      if UInt16.ofInt b.maxSteps < distance b.headSn sn then some (b, .error .errPacketTooOld)
      else if (b.buf.size : Int) < b.position sn * maxPacketSize ∨ b.position sn * maxPacketSize < 0 then
        some (b, .error .errPacketTooOld)
      else (b.buf.readU16 ((b.position sn * maxPacketSize).toNat + 4)).bind fun number =>
        if number = sn then some (b, .error .errRTXPacket)
        else (writeAt b.buf (b.position sn * maxPacketSize).toNat pkt).map fun buf => ({ b with buf }, .ok pkt) := by
  unfold set
  by_cases old : UInt16.ofInt b.maxSteps < distance b.headSn sn
  · simp only [old, if_true, pure]
  · simp only [old, if_false, Option.bind_eq_bind, pure, writeAt, beq_iff_eq]
    rw [← position]
    by_cases outside : (b.buf.size : Int) < b.position sn * maxPacketSize ∨ b.position sn * maxPacketSize < 0
    · rw [if_pos outside, if_pos outside]
    · rw [if_neg outside, if_neg outside]
      congr 1
      funext number
      by_cases same : number = sn
      · rw [if_pos same, if_pos same]
      · rw [if_neg same, if_neg same]
        cases b.buf.write (b.position sn * maxPacketSize).toNat (beBytes (UInt16.ofNat pkt.length)) with
        | none => rfl
        | some mid =>
            rw [Option.bind_some, Option.bind_some]
            cases mid.write ((b.position sn * maxPacketSize).toNat + 2) pkt <;> rfl

/-- A step that a push of the ring's own limit leads to. -/
theorem push_some {b : Bucket} {pkt : Bytes} {after : Bucket × Except BufferError Bytes}
    (h : b.push pkt = some after) :
    after.1.maxSteps = b.maxSteps ∧ after.1.buf.size = b.buf.size ∧
      (after.1.step = b.step ∨ after.1.step = 0 ∨ after.1.step = b.step + 1 ∧ (b.step : Int) + 1 ≤ b.maxSteps) := by
  rw [push_eq] at h
  split at h
  · cases h
    exact ⟨rfl, rfl, Or.inl rfl⟩
  · obtain ⟨buf, written, rfl⟩ := Option.map_eq_some_iff.mp h
    refine ⟨rfl, (writeAt_some written).1, Or.inr ?_⟩
    by_cases last : b.maxSteps < (b.step : Int) + 1
    · exact Or.inl (if_pos last)
    · exact Or.inr ⟨if_neg last, Int.not_lt.mp last⟩

theorem set_some {b : Bucket} {sn : UInt16} {pkt : Bytes} {after : Bucket × Except BufferError Bytes}
    (h : b.set sn pkt = some after) :
    after.1.maxSteps = b.maxSteps ∧ after.1.buf.size = b.buf.size ∧ after.1.step = b.step := by
  rw [set_eq] at h
  split at h
  · cases h
    exact ⟨rfl, rfl, rfl⟩
  · split at h
    · cases h
      exact ⟨rfl, rfl, rfl⟩
    · obtain ⟨number, -, h⟩ := Option.bind_eq_some_iff.mp h
      split at h
      · cases h
        exact ⟨rfl, rfl, rfl⟩
      · obtain ⟨buf, written, rfl⟩ := Option.map_eq_some_iff.mp h
        exact ⟨rfl, (writeAt_some written).1, rfl⟩

theorem addPacket_maxSteps {b : Bucket} {a : Addition} {after : Bucket × Except BufferError Bytes}
    (h : b.addPacket a.pkt a.sn a.latest = some after) : after.1.maxSteps = b.maxSteps := by
  rw [addPacket_eq] at h
  split at h
  · exact (push_some h).1.trans (opened_maxSteps b a.sn)
  · exact (set_some h).1.trans (opened_maxSteps b a.sn)

theorem WellFormed.opened {b : Bucket} {m : Nat} (wf : b.WellFormed m) (sn : UInt16) :
    (b.opened sn).WellFormed m := by
  unfold Bucket.opened
  cases b.init with
  | true => exact wf
  | false => exact ⟨wf.steps, wf.step_le, wf.room⟩

theorem WellFormed.advanced {b : Bucket} {m : Nat} (wf : b.WellFormed m) (sn : UInt16) :
    (b.advanced sn).WellFormed m := by
  refine ⟨wf.steps, Nat.le_of_lt_succ (bump_iterate_lt ?_ _ (Nat.lt_succ_of_le wf.step_le)), wf.room⟩
  rw [wf.steps]
  omega

/-- Whatever the packets, the write position stays a slot of the ring. -/
theorem addPacket_wellFormed {b : Bucket} {m : Nat} {a : Addition} (wf : b.WellFormed m)
    {after : Bucket × Except BufferError Bytes} (h : b.addPacket a.pkt a.sn a.latest = some after) :
    after.1.WellFormed m := by
  rw [addPacket_eq] at h
  split at h
  · have wf' := (wf.opened a.sn).advanced a.sn
    obtain ⟨steps, size, moved⟩ := push_some h
    refine ⟨steps.trans wf'.steps, ?_, size ▸ wf'.room⟩
    rcases moved with still | first | ⟨next, inside⟩
    · exact still ▸ wf'.step_le
    · exact first ▸ Nat.zero_le m
    · rw [wf'.steps] at inside
      omega
  · have wf' := wf.opened a.sn
    obtain ⟨steps, size, still⟩ := set_some h
    exact ⟨steps.trans wf'.steps, still ▸ wf'.step_le, size ▸ wf'.room⟩

/-- The slot a call is for. -/
def slotFor (b : Bucket) (a : Addition) : Int :=
  if a.latest then ((b.opened a.sn).advanced a.sn).step else (b.opened a.sn).position a.sn

def offsetFor (b : Bucket) (a : Addition) : Nat := (b.slotFor a * maxPacketSize).toNat

/-- The calls answered with an error: a head packet past the end of the store, and
a late one that is too old or whose number its slot bears already. -/
def Refuses (b : Bucket) (a : Addition) : Prop :=
  if a.latest then b.buf.size < b.offsetFor a + a.pkt.length
  else UInt16.ofInt b.maxSteps < distance (b.opened a.sn).headSn a.sn ∨
    ((b.buf.size : Int) < b.slotFor a * maxPacketSize ∨ b.slotFor a * maxPacketSize < 0) ∨
    b.buf.readU16 (b.offsetFor a + 4) = some a.sn

theorem offsetFor_latest {b : Bucket} {a : Addition} (flag : a.latest = true) :
    b.offsetFor a = ((b.opened a.sn).advanced a.sn).step * maxPacketSize := by
  rw [offsetFor, slotFor, if_pos flag, ← Int.natCast_mul, Int.toNat_natCast]

theorem slotFor_late {b : Bucket} {a : Addition} (flag : a.latest = false) :
    b.slotFor a = (b.opened a.sn).position a.sn := by
  rw [slotFor, flag, if_neg Bool.false_ne_true]

theorem addPacket_refuses {b : Bucket} {a : Addition} (refused : b.Refuses a) :
    (b.addPacket a.pkt a.sn a.latest).map (fun after => after.1.buf) = some b.buf := by
  unfold Refuses at refused
  rw [addPacket_eq]
  cases flag : a.latest with
  | true =>
      rw [if_pos flag, offsetFor_latest flag, ← opened_buf b a.sn] at refused
      rw [if_pos rfl, push_eq, if_pos (by exact refused), Option.map_some]
      exact congrArg some (opened_buf b a.sn)
  | false =>
      rw [flag, if_neg Bool.false_ne_true, ← opened_maxSteps b a.sn, ← opened_buf b a.sn, offsetFor,
        slotFor_late flag] at refused
      rw [if_neg Bool.false_ne_true, set_eq]
      rw [← opened_buf b a.sn]
      by_cases old : UInt16.ofInt (b.opened a.sn).maxSteps < distance (b.opened a.sn).headSn a.sn
      · rw [if_pos old, Option.map_some]
      · rw [if_neg old]
        split
        · rfl
        · rename_i inside
          rw [(refused.resolve_left old).resolve_left inside, Option.bind_some, if_pos rfl, Option.map_some]

/-- A call that is not refused writes its packet at the start of its slot. -/
theorem addPacket_stores {b : Bucket} {a : Addition} (taken : ¬ b.Refuses a) (room : 4 ≤ a.pkt.length) :
    (b.addPacket a.pkt a.sn a.latest).map (fun after => after.1.buf) = writeAt b.buf (b.offsetFor a) a.pkt := by
  unfold Refuses at taken
  rw [addPacket_eq]
  cases flag : a.latest with
  | true =>
      rw [if_pos flag, offsetFor_latest flag, ← opened_buf b a.sn] at taken
      rw [if_pos rfl, push_eq, if_neg (by exact taken), Option.map_map, offsetFor_latest flag, ← opened_buf b a.sn]
      exact Option.map_id'
  | false =>
      rw [flag, if_neg Bool.false_ne_true, ← opened_maxSteps b a.sn, ← opened_buf b a.sn, offsetFor,
        slotFor_late flag] at taken
      obtain ⟨young, inside, other⟩ := not_or.mp taken |>.imp_right not_or.mp
      rw [if_neg Bool.false_ne_true, set_eq, if_neg young, if_neg inside, offsetFor, slotFor_late flag,
        ← opened_buf b a.sn]
      cases read : (b.opened a.sn).buf.readU16 (((b.opened a.sn).position a.sn * maxPacketSize).toNat + 4) with
      | none =>
          -- the number is past the end of the store, and so is the packet
          have past : (b.opened a.sn).buf.size <
              ((b.opened a.sn).position a.sn * maxPacketSize).toNat + 4 + 2 := by
            by_contra fits
            rw [readU16, if_pos (Nat.not_lt.mp fits)] at read
            cases read
          rw [Option.bind_none, Option.map_none]
          symm
          rw [Option.eq_none_iff_forall_ne_some]
          intro new written
          have := (writeAt_some written).2.1
          omega
      | some number =>
          have differs : number ≠ a.sn := fun same => other (same ▸ read)
          rw [Option.bind_some, if_neg differs, Option.map_map]
          exact Option.map_id'

/-- The call does not panic, and all bytes outside its slot are as before. -/
def Keeps (b : Bucket) (a : Addition) : Prop :=
  ∃ after, b.addPacket a.pkt a.sn a.latest = some after ∧ after.1.buf.size = b.buf.size ∧
    ∀ i, i < b.offsetFor a ∨ b.offsetFor a + maxPacketSize ≤ i → after.1.buf.cell i = b.buf.cell i

/-- The bytes that run over the slot lie in the store and are there already. -/
def Fits (b : Bucket) (a : Addition) : Prop :=
  b.Refuses a ∨ (b.offsetFor a + 2 + a.pkt.length ≤ b.buf.size ∧
    ∀ i, 1498 ≤ i → i < a.pkt.length → b.buf.cell (b.offsetFor a + 2 + i) = a.pkt.getD i 0)

theorem keeps_iff (b : Bucket) {a : Addition} (room : 4 ≤ a.pkt.length) : b.Keeps a ↔ b.Fits a := by
  unfold Keeps Fits
  by_cases refused : b.Refuses a
  · obtain ⟨after, added, same⟩ := Option.map_eq_some_iff.mp (addPacket_refuses refused)
    exact ⟨fun _ => Or.inl refused, fun _ => ⟨after, added, by rw [same], fun i _ => by rw [same]⟩⟩
  · have stores := addPacket_stores refused room
    have wide : maxPacketSize = 1500 := rfl
    rw [or_iff_right refused]
    constructor
    · rintro ⟨after, added, size, frame⟩
      rw [added, Option.map_some] at stores
      obtain ⟨-, fits, inside, -⟩ := writeAt_some stores.symm
      refine ⟨fits, fun i past short => ?_⟩
      rw [← inside i short, frame _ (by omega)]
    · rintro ⟨fits, there⟩
      obtain ⟨buf, written⟩ := writeAt_fits fits
      rw [written] at stores
      obtain ⟨after, added, rfl⟩ := Option.map_eq_some_iff.mp stores
      obtain ⟨size, -, inside, frame⟩ := writeAt_some written
      refine ⟨after, added, size, fun i outside => ?_⟩
      by_cases beyond : i < b.offsetFor a ∨ b.offsetFor a + 2 + a.pkt.length ≤ i
      · exact frame i beyond
      · obtain ⟨k, rfl⟩ := Nat.exists_eq_add_of_le (show b.offsetFor a + 2 ≤ i by omega)
        rw [inside k (by omega), there k (by omega) (by omega)]

/-- With a slot to write to, a packet of at most 1498 bytes always fits. -/
theorem short_fits {b : Bucket} {m : Nat} (wf : b.WellFormed m) {a : Addition} (long : a.pkt.length ≤ 1498) :
    b.Fits a := by
  by_cases refused : b.Refuses a
  · exact Or.inl refused
  · obtain ⟨slot, le, here⟩ : ∃ slot ≤ m, b.slotFor a = (slot : Nat) := by
      unfold Refuses at refused
      cases flag : a.latest with
      | true => exact ⟨_, ((wf.opened a.sn).advanced a.sn).step_le, if_pos flag⟩
      | false =>
          rw [flag, if_neg Bool.false_ne_true, ← opened_maxSteps b a.sn] at refused
          have young := (not_or.mp refused).1
          rw [(wf.opened a.sn).steps, SerialNumber.ofInt_natCast16, UInt16.not_lt, UInt16.le_iff_toNat_le,
            SerialNumber.toNat_ofNat16] at young
          rw [slotFor_late flag]
          exact position_inside (wf.opened a.sn)
            (near_reach (wf.opened a.sn) (young.trans (Nat.mod_le m 65536)))
    have off : b.offsetFor a = slot * maxPacketSize := by
      rw [offsetFor, here, ← Int.natCast_mul, Int.toNat_natCast]
    have room := wf.slot_room le
    unfold maxPacketSize at *
    refine Or.inr ⟨?_, fun i past short => ?_⟩
    · rw [off]
      omega
    · omega

def store (b : Bucket) (a : Addition) : Option Bucket := (b.addPacket a.pkt a.sn a.latest).map Prod.fst

/-- A packet the read loop can deliver: a whole header, and at most its buffer. -/
def Sized (a : Addition) : Prop := 12 ≤ a.pkt.length ∧ a.pkt.length ≤ 1500

theorem store_wellFormed {b b' : Bucket} {m : Nat} {a : Addition} (wf : b.WellFormed m) (h : b.store a = some b') :
    b'.WellFormed m := by
  obtain ⟨after, added, rfl⟩ := Option.map_eq_some_iff.mp h
  exact addPacket_wellFormed wf added

theorem run_short_fits {n : Nat} (one : 1500 ≤ n) {calls : List Addition} {b : Bucket}
    (reached : run store (.new n) calls = some b) {a : Addition} (long : a.pkt.length ≤ 1498) : b.Fits a := by
  obtain ⟨m, count⟩ := slots_of_size one
  exact short_fits (run_preserves (fun b => b.WellFormed m) (fun _ _ _ => store_wellFormed) (new_wellFormed count)
    reached) long

/-- The same call in a build with overflow checks. -/
def storeChecked (b : Bucket) (a : Addition) : Option Bucket :=
  (b.addPacketChecks a.pkt a.sn a.latest).toOption.bind fun _ => b.store a

def KeepsChecked (b : Bucket) (a : Addition) : Prop :=
  b.addPacketChecks a.pkt a.sn a.latest = .value () ∧ b.Keeps a

/-- The number before the first one is computed, so the first one is not zero. -/
def FitsChecked (b : Bucket) (a : Addition) : Prop := (b.init = false → a.sn ≠ 0) ∧ b.Fits a

theorem keepsChecked_iff {b : Bucket} (small : b.Small) {a : Addition} (room : 4 ≤ a.pkt.length) :
    b.KeepsChecked a ↔ b.FitsChecked a :=
  and_congr (addPacketChecks_needs small a.pkt a.sn a.latest).value_iff (keeps_iff b room)

theorem Sized.room {a : Addition} (sized : Sized a) : 4 ≤ a.pkt.length := Nat.le_trans (by decide) sized.1

/-- The exact condition over every run, with wrapping arithmetic for the sizes whose offsets an
`i32` holds and, for the sizes the pools have, with overflow checks. -/
theorem run_keeps_iff (n : Nat) (calls : List Addition) :
    (n < 2147483648 → (Guarded store (fun b a => Sized a → b.Keeps a) (.new n) calls ↔
      Guarded store (fun b a => Sized a → b.Fits a) (.new n) calls)) ∧
    (1500 ≤ n ∧ n ≤ 750000 →
      (Guarded storeChecked (fun b a => Sized a → b.KeepsChecked a) (.new n) calls ↔
        Guarded storeChecked (fun b a => Sized a → b.FitsChecked a) (.new n) calls)) := by
  constructor
  · intro _
    apply guarded_iff fun _ => True
    · intro b a _
      exact forall_congr' fun sized => keeps_iff b sized.room
    · intros
      trivial
    · trivial
  · rintro ⟨one, most⟩
    obtain ⟨m, count⟩ := slots_of_size one
    apply guarded_iff fun b => b.WellFormed m
    · intro b a wf
      have small : b.Small := by
        unfold maxPacketSize at count
        have steps := wf.steps
        have le := wf.step_le
        exact ⟨by omega, by omega⟩
      exact forall_congr' fun sized => keepsChecked_iff small sized.room
    · intro b a b' wf _ stored
      obtain ⟨-, -, stored⟩ := Option.bind_eq_some_iff.mp stored
      exact store_wellFormed wf stored
    · exact new_wellFormed count

theorem run_keeps_iff_header :
    let calls : List Addition := [⟨[128, 111, 0, 1, 0, 0, 0, 0, 0, 0, 0, 9], 1, true⟩]
    Guarded store (fun b a => Sized a → b.Keeps a) (.new 37500) calls ∧
      Guarded storeChecked (fun b a => Sized a → b.KeepsChecked a) (.new 37500) calls := by
  intro calls
  obtain ⟨wraps, checks⟩ := run_keeps_iff 37500 calls
  have fits : (Bucket.new 37500).Fits ⟨[128, 111, 0, 1, 0, 0, 0, 0, 0, 0, 0, 9], 1, true⟩ := by
    refine short_fits (new_wellFormed (m := 24) (by decide)) ?_
    decide
  have one : (Bucket.new 37500).init = false → (1 : UInt16) ≠ 0 := fun _ => by decide
  exact ⟨(wraps (by decide)).mpr ⟨fun _ => fits, fun _ _ => trivial⟩,
    (checks ⟨by decide, by decide⟩).mpr ⟨fun _ => ⟨one, fits⟩, fun _ _ => trivial⟩⟩

/-- A head packet that fills the read buffer. -/
def fullPacket : Addition := ⟨[128, 111, 0, 1, 0, 0, 0, 0, 0, 0, 0, 9] ++ List.replicate 1488 255, 1, true⟩

theorem full_packet_runs_over : Sized fullPacket ∧ ¬ (Bucket.new 37500).Keeps fullPacket := by
  refine ⟨⟨by decide +kernel, by decide +kernel⟩, ?_⟩
  rintro ⟨after, added, -, frame⟩
  have past : ((Bucket.new 37500).addPacket fullPacket.pkt fullPacket.sn fullPacket.latest).map
      (fun after => after.1.buf.cell 1500) = some 255 := by decide +kernel
  rw [added, Option.map_some, frame 1500 (Or.inr (by decide))] at past
  exact absurd past (by decide)

end Bucket

end Rsfu
