import Rsfu.BucketRing
import Rsfu.GuardedRun

/-! What the slots of the retransmission store hold over whole runs. Gaps skip
slots, laps reuse them and short packets leave bytes of longer ones behind, but a
slot is blank or holds one accepted packet whole. -/
namespace Rsfu
open RingSlots ByteStore SerialNumber GuardedRun

/-- One call of `add_packet`. -/
structure Addition where
  pkt : Bytes
  sn : UInt16
  latest : Bool

/-- A packet that fits a slot, under the number it carries. -/
structure Addition.Formed (a : Addition) : Prop where
  shortest : 4 ≤ a.pkt.length
  longest : a.pkt.length ≤ 1498
  numbered : u16At a.pkt 2 = some a.sn

/-- A store next to the calls it answered with `Ok`. -/
structure Storing where
  bucket : Bucket
  accepted : List Addition := []

namespace Storing

def record (g : Storing) (a : Addition) (after : Bucket × Except BufferError Bytes) : Storing where
  bucket := after.1
  accepted := if after.2.isOk then g.accepted ++ [a] else g.accepted

def add (g : Storing) (a : Addition) : Option Storing :=
  (g.bucket.addPacket a.pkt a.sn a.latest).map (g.record a)

end Storing

/-- A slot as `Bucket::new` leaves it. -/
def BlankAt (buf : ByteStore) (slot : Nat) : Prop :=
  ∀ i, slot * maxPacketSize ≤ i → i < slot * maxPacketSize + maxPacketSize → buf.cell i = 0

theorem BlankAt.read {buf : ByteStore} {slot : Nat} (blank : BlankAt buf slot) (at' : Nat)
    (inside : at' + 2 ≤ maxPacketSize) (room : (slot + 1) * maxPacketSize ≤ buf.size) :
    buf.readU16 (slot * maxPacketSize + at') = some 0 := by
  rw [Nat.succ_mul] at room
  rw [readU16, if_pos (by omega), blank _ (by omega) (by omega), blank _ (by omega) (by omega)]
  rfl

theorem BlankAt.frame {old new : ByteStore} {slot other : Nat} {pkt : Bytes} (blank : BlankAt old other)
    (w : SlotWritten old new slot pkt) (ne : other ≠ slot) : BlankAt new other := by
  intro i low high
  have apart := slots_apart ne
  rw [w.frame i (by omega)]
  exact blank i low high

namespace Bucket

/-- What one call does: nothing to the bytes, or one packet into one slot. -/
theorem addPacket_cases {b : Bucket} {m : Nat} {a : Addition} (wf : b.WellFormed m) (formed : a.Formed) :
    ∃ b' answer, b.addPacket a.pkt a.sn a.latest = some (b', answer) ∧ b'.WellFormed m ∧
      ((b'.buf = b.buf ∧ answer.isOk = false) ∨
        ∃ slot ≤ m, SlotWritten b.buf b'.buf slot a.pkt ∧ answer.isOk = true) := by
  cases flag : a.latest with
  | true =>
      obtain ⟨le, buf, added, written⟩ := addPacket_latest wf formed.shortest formed.longest a.sn
      refine ⟨_, _, added, ⟨wf.steps, ?_, written.size ▸ wf.room⟩, Or.inr ⟨_, le, written, rfl⟩⟩
      exact Nat.le_of_lt_succ (Nat.mod_lt _ (Nat.succ_pos m))
  | false =>
      obtain ⟨c, started, same_buf, wf'⟩ : ∃ c : Bucket, b.addPacket a.pkt a.sn false = c.set a.sn a.pkt ∧
          c.buf = b.buf ∧ c.WellFormed m := by
        unfold addPacket
        cases b.init with
        | true => exact ⟨b, rfl, rfl, wf⟩
        | false => exact ⟨_, rfl, rfl, wf.steps, wf.step_le, wf.room⟩
      rw [started, ← same_buf]
      by_cases old : UInt16.ofInt c.maxSteps < distance c.headSn a.sn
      · have refused : c.set a.sn a.pkt = some (c, .error .errPacketTooOld) := by
          simp only [set, old, if_true, pure]
        exact ⟨c, _, refused, wf', Or.inl ⟨rfl, rfl⟩⟩
      · obtain ⟨slot, le, -, outcome⟩ := set_slot wf' formed.shortest formed.longest old
        rcases outcome with ⟨-, refused⟩ | ⟨-, buf, stored, written⟩
        · exact ⟨c, _, refused, wf', Or.inl ⟨rfl, rfl⟩⟩
        · refine ⟨_, _, stored, ⟨wf'.steps, wf'.step_le, written.size ▸ wf'.room⟩, Or.inr ⟨slot, le, written, rfl⟩⟩

end Bucket

namespace Storing

/-- Every slot is blank or holds an accepted packet. -/
structure Contents (g : Storing) (m : Nat) : Prop where
  wf : g.bucket.WellFormed m
  slots : ∀ slot ≤ m, BlankAt g.bucket.buf slot ∨ ∃ a ∈ g.accepted, a.Formed ∧ HoldsAt g.bucket.buf slot a.pkt

theorem contents_new {n m : Nat} (h : n / maxPacketSize = m + 1) : Contents { bucket := .new n } m :=
  ⟨Bucket.new_wellFormed h, fun _ _ => Or.inl fun _ _ _ => rfl⟩

theorem add_contents {g : Storing} {m : Nat} {a : Addition} (inv : g.Contents m) (formed : a.Formed) :
    ∃ g', g.add a = some g' ∧ g'.Contents m := by
  obtain ⟨b', answer, added, wf, outcome⟩ := Bucket.addPacket_cases inv.wf formed
  refine ⟨g.record a (b', answer), by rw [add, added, Option.map_some], wf, ?_⟩
  intro slot le
  rcases outcome with ⟨same, refused⟩ | ⟨taken, -, written, stored⟩
  · simp only [record, refused, same, Bool.false_eq_true, if_false]
    exact inv.slots slot le
  · simp only [record, stored, if_true]
    by_cases here : slot = taken
    · exact Or.inr ⟨a, List.mem_append_right _ (List.mem_singleton_self a), formed, here ▸ written.holds⟩
    · rcases inv.slots slot le with blank | ⟨old, among, fits, holds⟩
      · exact Or.inl (blank.frame written here)
      · exact Or.inr ⟨old, List.mem_append_left _ among, fits, holds.frame written here fits.longest⟩

theorem run_contents {g : Storing} {m : Nat} {calls : List Addition} (inv : g.Contents m)
    (formed : ∀ a ∈ calls, a.Formed) : ∃ g', run add g calls = some g' ∧ g'.Contents m := by
  induction calls generalizing g with
  | nil => exact ⟨g, rfl, inv⟩
  | cons a rest ih =>
      obtain ⟨next, first, inv'⟩ := add_contents inv (formed a (List.mem_cons_self ..))
      obtain ⟨last, reached, inv''⟩ := ih inv' fun later among => formed later (List.mem_cons_of_mem _ among)
      exact ⟨last, run_cons_eq_some.mpr ⟨next, first, reached⟩, inv''⟩

theorem Contents.get {g : Storing} {m : Nat} (inv : g.Contents m) (sn : UInt16) :
    g.bucket.get sn = some none ∨ g.bucket.get sn = some (some []) ∨
      ∃ a ∈ g.accepted, a.sn = sn ∧ g.bucket.get sn = some (some a.pkt) := by
  rcases Bucket.get_slot inv.wf sn with nothing | ⟨reach, slot, le, here, number⟩
  · exact Or.inl nothing
  · have room := inv.wf.slot_room le
    rcases inv.slots slot le with blank | ⟨a, among, formed, holds⟩
    · -- a blank slot bears the number zero and a packet of no bytes
      have length := blank.read 0 (by decide) room
      rw [Nat.add_zero] at length
      have bytes : g.bucket.buf.slice (slot * maxPacketSize + 2) (0 : UInt16).toNat = some [] := by
        rw [UInt16.toNat_zero, slice, if_pos, List.range_zero, List.map_nil]
        unfold maxPacketSize at *
        omega
      exact Or.inr (Or.inl (Bucket.get_found inv.wf reach le here number length bytes))
    · have same : a.sn = sn := by
        have borne := holds.seq.symm.trans number
        rw [formed.numbered] at borne
        exact Option.some.inj borne
      exact Or.inr (Or.inr ⟨a, among, same,
        Bucket.get_holds inv.wf reach le here formed.longest (same ▸ formed.numbered) holds⟩)

theorem store_returns_accepted (n : Nat) (size : 1500 ≤ n ∧ n < 2147483648) (calls : List Addition)
    (formed : ∀ a ∈ calls, a.Formed) :
    ∃ g, run add { bucket := .new n } calls = some g ∧
      ∀ sn, ∃ answer, g.bucket.get sn = some answer ∧
        ∀ data, answer = some data → data ≠ [] → ∃ a ∈ g.accepted, a.sn = sn ∧ a.pkt = data := by
  obtain ⟨m, slots⟩ := Bucket.slots_of_size size.1
  obtain ⟨g, reached, inv⟩ := run_contents (contents_new slots) formed
  refine ⟨g, reached, fun sn => ?_⟩
  rcases inv.get sn with nothing | empty | ⟨a, among, same, found⟩
  · exact ⟨none, nothing, fun data absent => nomatch absent⟩
  · refine ⟨some [], empty, fun data same filled => ?_⟩
    exact absurd (Option.some.inj same).symm filled
  · refine ⟨some a.pkt, found, fun data equal _ => ⟨a, among, same, Option.some.inj equal⟩⟩

theorem store_returns_accepted_short :
    let long : Addition := ⟨[0, 0, 0, 7, 9], 7, true⟩
    let short : Addition := ⟨[0, 0, 0, 9], 9, true⟩
    (∀ a ∈ [long, short], a.Formed) ∧
      ∃ g, run add { bucket := .new 1500 } [long, short] = some g ∧
        ∀ sn, ∃ answer, g.bucket.get sn = some answer ∧
          ∀ data, answer = some data → data ≠ [] → ∃ a ∈ g.accepted, a.sn = sn ∧ a.pkt = data := by
  intro long short
  have formed : ∀ a ∈ [long, short], a.Formed := by
    intro a among
    simp only [List.mem_cons, List.not_mem_nil, or_false] at among
    rcases among with rfl | rfl <;> exact ⟨by decide, by decide, by decide⟩
  exact ⟨formed, store_returns_accepted 1500 ⟨by decide, by decide⟩ [long, short] formed⟩

end Storing

end Rsfu
