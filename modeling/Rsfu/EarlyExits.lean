import Rsfu.SlotOverrun

/-! What `calc` has changed by the time it turns a packet away. It numbers the packet and
moves the head of the store before the store refuses it, and stores it before it is parsed. -/
namespace Rsfu
open SerialNumber

theorem writeAt_numbered {buf new : ByteStore} {off : Nat} {pkt : Bytes} {sn : UInt16}
    (written : writeAt buf off pkt = some new) (numbered : ByteStore.u16At pkt 2 = some sn) :
    new.readU16 (off + 4) = some sn := by
  have long : 4 ≤ pkt.length := by
    unfold ByteStore.u16At at numbered
    split at numbered
    · rename_i hi lo rest found
      have counted := congrArg List.length found
      rw [List.length_drop, List.length_cons, List.length_cons] at counted
      omega
    · cases numbered
  obtain ⟨mid, -, second⟩ := Option.bind_eq_some_iff.mp written
  exact (ByteStore.readU16_written second 2 long).trans numbered

namespace Bucket

/-- The bytes of a store, and from where its packets are found. -/
def ring (r : Bucket) : ByteStore × Nat × UInt16 := (r.buf, r.step, r.headSn)

instance (r : Bucket) (a : Addition) : Decidable (r.Refuses a) :=
  inferInstanceAs (Decidable
    (if a.latest then r.buf.size < r.offsetFor a + a.pkt.length
    else UInt16.ofInt r.maxSteps < distance (r.opened a.sn).headSn a.sn ∨
      ((r.buf.size : Int) < r.slotFor a * maxPacketSize ∨ r.slotFor a * maxPacketSize < 0) ∨
      r.buf.readU16 (r.offsetFor a + 4) = some a.sn))

theorem addPacket_head {r : Bucket} {a : Addition} {after : Bucket × Except BufferError Bytes}
    (h : r.addPacket a.pkt a.sn a.latest = some after) :
    after.1.init = true ∧ after.1.headSn = if a.latest then a.sn else (r.opened a.sn).headSn := by
  have begun : (r.opened a.sn).init = true := by
    unfold opened
    split
    · assumption
    · rfl
  rw [addPacket_eq] at h
  split at h
  · rename_i latest
    rw [if_pos latest]
    rw [push_eq] at h
    split at h
    · cases h
      exact ⟨begun, rfl⟩
    · obtain ⟨buf, -, rfl⟩ := Option.map_eq_some_iff.mp h
      exact ⟨begun, rfl⟩
  · rename_i late
    rw [if_neg late]
    rw [set_eq] at h
    split at h
    · cases h
      exact ⟨begun, rfl⟩
    · split at h
      · cases h
        exact ⟨begun, rfl⟩
      · obtain ⟨number, -, h⟩ := Option.bind_eq_some_iff.mp h
        split at h
        · cases h
          exact ⟨begun, rfl⟩
        · obtain ⟨buf, -, rfl⟩ := Option.map_eq_some_iff.mp h
          exact ⟨begun, rfl⟩

/-- The write position of a packet that is the head already. -/
theorem advanced_again (r : Bucket) {sn : UInt16} (head : r.headSn = sn) :
    ((r.opened sn).advanced sn).step = r.step ∧ ((r.opened sn).advanced sn).headSn = r.headSn := by
  have still : (distance sn (r.opened sn).headSn).toNat - 1 = 0 := by
    unfold opened
    rw [distance_eq_sub]
    split
    · rw [head, UInt16.sub_self]
      rfl
    · rw [SerialNumber.toNat_sub16, SerialNumber.toNat_sub16]
      have := sn.toNat_lt
      change (65536 + sn.toNat - (65536 + sn.toNat - 1) % 65536) % 65536 - 1 = 0
      omega
  have same : (r.opened sn).step = r.step := by
    unfold opened
    split <;> rfl
  refine ⟨?_, head.symm⟩
  rw [advanced, still]
  exact same

/-- A head packet that comes again leaves the ring as it is only when it is refused. -/
theorem ring_latest_iff {r r' : Bucket} {m : Nat} {pkt : Bytes} {sn : UInt16} {answer : Except BufferError Bytes}
    (wf : r.WellFormed m) (two : 1 ≤ m) (head : r.headSn = sn)
    (h : r.addPacket pkt sn true = some (r', answer)) : r'.ring = r.ring ↔ r.Refuses ⟨pkt, sn, true⟩ := by
  obtain ⟨step, headSn⟩ := advanced_again r head
  have refuses : r.Refuses ⟨pkt, sn, true⟩ ↔
      ((r.opened sn).advanced sn).buf.size < ((r.opened sn).advanced sn).step * maxPacketSize + pkt.length := by
    unfold Refuses
    rw [if_pos rfl, offsetFor_latest rfl, ← opened_buf r sn]
    rfl
  change ((r.opened sn).advanced sn).push pkt = some (r', answer) at h
  rw [push_eq] at h
  rw [refuses]
  split at h
  · rename_i small
    cases h
    refine iff_of_true ?_ small
    unfold ring
    rw [step, headSn]
    exact congrArg (fun buf => (buf, r.step, r.headSn)) (opened_buf r sn)
  · rename_i fits
    refine iff_of_false (fun same => ?_) fits
    obtain ⟨buf, -, made⟩ := Option.map_eq_some_iff.mp h
    obtain ⟨rfl, -⟩ := Prod.mk.inj made
    obtain ⟨-, moved, -⟩ := Prod.mk.inj same |>.imp_right Prod.mk.inj
    have steps := ((wf.opened sn).advanced sn).steps
    have limit := wf.step_le
    dsimp only at moved
    rw [steps, step] at moved
    split at moved <;> omega

theorem ring_late_iff {r r' : Bucket} {pkt : Bytes} {sn : UInt16} {answer : Except BufferError Bytes}
    (begun : r.init = true) (numbered : ByteStore.u16At pkt 2 = some sn)
    (h : r.addPacket pkt sn false = some (r', answer)) : r'.ring = r.ring ↔ r.Refuses ⟨pkt, sn, false⟩ := by
  have opened_same : r.opened sn = r := if_pos begun
  have refuses : r.Refuses ⟨pkt, sn, false⟩ ↔ UInt16.ofInt r.maxSteps < distance r.headSn sn ∨
      ((r.buf.size : Int) < r.position sn * maxPacketSize ∨ r.position sn * maxPacketSize < 0) ∨
      r.buf.readU16 ((r.position sn * maxPacketSize).toNat + 4) = some sn := by
    unfold Refuses
    rw [if_neg Bool.false_ne_true, offsetFor, slotFor_late rfl]
    simp only [opened_same]
  change (r.opened sn).set sn pkt = some (r', answer) at h
  rw [opened_same, set_eq] at h
  rw [refuses]
  split at h
  · rename_i old
    cases h
    exact iff_of_true rfl (Or.inl old)
  · rename_i young
    split at h
    · rename_i outside
      cases h
      exact iff_of_true rfl (Or.inr (Or.inl outside))
    · rename_i inside
      obtain ⟨number, read, h⟩ := Option.bind_eq_some_iff.mp h
      split at h
      · rename_i same
        cases h
        rw [same] at read
        exact iff_of_true rfl (Or.inr (Or.inr read))
      · rename_i differs
        obtain ⟨buf, written, made⟩ := Option.map_eq_some_iff.mp h
        obtain ⟨rfl, -⟩ := Prod.mk.inj made
        refine iff_of_false (fun same => differs ?_) ?_
        · -- the number of the packet is in the slot now
          have bytes : buf = r.buf := (Prod.mk.inj same).1
          have now := writeAt_numbered written numbered
          rw [bytes, read] at now
          exact Option.some.inj now
        · rintro (old | outside | same)
          · exact young old
          · exact inside outside
          · exact differs (Option.some.inj (read.symm.trans same))

end Bucket

namespace Buffer
variable {crates : RtpCrates}

/-- What a packet that is turned away should leave as it was. -/
structure Trace where
  maxSeqNo : UInt16
  cycles : UInt32
  baseSn : UInt16
  nacker : Option NackQueue
  store : Option (ByteStore × Nat × UInt16)
  stats : Stats

def trace (b : Buffer) : Trace := ⟨b.maxSeqNo, b.cycles, b.baseSn, b.nacker, b.bucket.map Bucket.ring, b.stats⟩

/-- The states of a bound buffer: the methods other than `calc` leave the part that it
works on alone, less the packets they take out. -/
inductive Reached (crates : RtpCrates) : Buffer → Prop where
  | opened {b : Buffer} : b.Opened crates → Reached crates b
  | received {b : Buffer} {pkt : Bytes} {arrivalTime : Int} {c : Calc} :
      Reached crates b → b.calc crates pkt arrivalTime = some c → Reached crates c.buffer
  | aside {b b' : Buffer} :
      Reached crates b → b'.core = { b.core with extPackets := b'.extPackets } → Reached crates b'

/-- What holds of a buffer in all its states. -/
structure Tended (b : Buffer) : Prop where
  head : ∀ r, b.bucket = some r → r.headSn = b.maxSeqNo
  begun : ∀ r, b.bucket = some r → b.stats.packetCount ≠ 0 → r.init = true
  slots : ∀ r, b.bucket = some r → ∃ m, 1 ≤ m ∧ r.WellFormed m
  queue : ∀ q, b.nacker = some q → q.Ordered

theorem Opened.tended {b : Buffer} (opened : b.Opened crates) : b.Tended := by
  have fresh := opened.fresh
  refine ⟨fun r found => ?_, fun r _ counted => absurd fresh.uncounted counted, fun r found => ?_, fun q found => ?_⟩
  · obtain ⟨m, -, rfl⟩ := fresh.bucket r found
    exact opened.unread.maxSeqNo.symm
  · obtain ⟨m, one, rfl⟩ := opened.unread.bucket r found
    exact ⟨m, one, Bucket.new_wellFormed (Nat.mul_div_cancel_left (m + 1) (by decide))⟩
  · rw [fresh.nacker q found]
    exact List.Pairwise.nil

/-- A packet that is not handed to the store as its newest has packets before it. -/
theorem late_counted {b : Buffer} {sn : UInt16} {arrivalTime : Int}
    (late : sn ≠ (b.trackSequence sn arrivalTime).1.maxSeqNo) :
    b.stats.packetCount ≠ 0 ∧ (b.trackSequence sn arrivalTime).1.maxSeqNo = b.maxSeqNo := by
  by_cases first : b.stats.packetCount = 0
  · rw [trackSequence_first first] at late
    exact absurd rfl late
  · refine ⟨first, ?_⟩
    by_cases clear : distance sn b.maxSeqNo &&& 0x8000 = 0
    · rw [trackSequence_forward first clear] at late
      exact absurd rfl late
    · rw [trackSequence_late first clear]
      split <;> rfl

theorem StoreStep.added {before : Option Bucket} {r' : Bucket} {pkt : Bytes} {sn : UInt16} {latest : Bool}
    {exit : CalcExit} (h : StoreStep crates before pkt sn latest (some r') exit) :
    ∃ r answer, before = some r ∧ r.addPacket pkt sn latest = some (r', answer) := by
  cases h with
  | refused had add => exact ⟨_, _, had, add⟩
  | malformed had add bad => exact ⟨_, _, had, add⟩
  | accepted had add good counted => exact ⟨_, _, had, add⟩

theorem Tended.calc {b : Buffer} {pkt : Bytes} {arrivalTime : Int} {c : Calc} (tended : b.Tended)
    (h : b.calc crates pkt arrivalTime = some c) : c.buffer.Tended := by
  obtain ⟨sn, step⟩ := calc_step h
  have added (r' : Bucket) (found : c.buffer.bucket = some r') :
      ∃ r answer, b.bucket = some r ∧ r.addPacket pkt sn (sn == c.buffer.maxSeqNo) = some (r', answer) :=
    (found ▸ step.store).added
  refine ⟨fun r' found => ?_, fun r' found _ => ?_, fun r' found => ?_, fun q' found => ?_⟩
  · obtain ⟨r, answer, had, add⟩ := added r' found
    have head := (Bucket.addPacket_head (a := ⟨pkt, sn, sn == c.buffer.maxSeqNo⟩) add).2
    by_cases latest : sn = c.buffer.maxSeqNo
    · rw [if_pos (beq_iff_eq.mpr latest)] at head
      exact head.trans latest
    · rw [if_neg (by rwa [beq_iff_eq])] at head
      rw [step.maxSeqNo] at latest ⊢
      obtain ⟨counted, still⟩ := late_counted latest
      rw [head, Bucket.opened, if_pos (tended.begun r had counted), still]
      exact tended.head r had
  · obtain ⟨r, answer, had, add⟩ := added r' found
    exact (Bucket.addPacket_head (a := ⟨pkt, sn, sn == c.buffer.maxSeqNo⟩) add).1
  · obtain ⟨r, answer, had, add⟩ := added r' found
    obtain ⟨m, one, wf⟩ := tended.slots r had
    exact ⟨m, one, Bucket.addPacket_wellFormed (a := ⟨pkt, sn, sn == c.buffer.maxSeqNo⟩) wf add⟩
  · rw [step.nacker] at found
    obtain ⟨q, had, rfl⟩ := Option.map_eq_some_iff.mp found
    have called := (Reception.calls_numbers (tended.queue q had) c.calls).1
    dsimp only
    split
    · exact NackQueue.pairs_ordered called _
    · exact called

theorem Reached.tended {b : Buffer} (reached : Reached crates b) : b.Tended := by
  induction reached with
  | opened opened => exact opened.tended
  | received reached h tended => exact tended.calc h
  | @aside b b' reached same tended =>
      simp only [core, BufferCore.mk.injEq, true_and] at same
      obtain ⟨-, maxSeqNo, -, packetCount, bucket, nacker, -⟩ := same
      refine ⟨?_, ?_, ?_, ?_⟩
      · rw [bucket, maxSeqNo]
        exact tended.head
      · rw [bucket, packetCount]
        exact tended.begun
      · rw [bucket]
        exact tended.slots
      · rw [nacker]
        exact tended.queue

theorem storePacket_early {b b' : Buffer} {pkt : Bytes} {sn : UInt16} {exit : CalcExit}
    (h : b.storePacket crates pkt sn = some (b', .error exit)) :
    ∃ r r' answer, b.bucket = some r ∧ r.addPacket pkt sn (sn == b.maxSeqNo) = some (r', answer) ∧
      b' = { b with bucket := some r' } := by
  unfold storePacket at h
  split at h
  · cases h
  · rename_i r had
    simp only [Option.bind_eq_bind, Option.bind_eq_some_iff] at h
    obtain ⟨⟨r', answer⟩, add, h⟩ := h
    refine ⟨r, r', answer, had, add, ?_⟩
    cases answer with
    | error err =>
        cases h
        rfl
    | ok data =>
        simp only at h
        split at h
        · cases h
          rfl
        · cases h

/-- A call that ends before the counter has numbered the packet and asked the store. -/
theorem calc_early {b : Buffer} {pkt : Bytes} {arrivalTime : Int} {c : Calc} {sn : UInt16}
    (h : b.calc crates pkt arrivalTime = some c) (early : c.exit.counted = false)
    (numbered : ByteStore.u16At pkt 2 = some sn) :
    ∃ r r' answer, (b.trackSequence sn arrivalTime).1.bucket = some r ∧
      r.addPacket pkt sn (sn == (b.trackSequence sn arrivalTime).1.maxSeqNo) = some (r', answer) ∧
      c.buffer = { (b.trackSequence sn arrivalTime).1 with bucket := some r' } := by
  obtain ⟨number, read, ends⟩ := calc_ends h
  obtain rfl := Option.some.inj (numbered.symm.trans read)
  cases ends with
  | turnedAway store => exact storePacket_early store
  | badPayload store => cases early
  | takenIn store headed => cases early

theorem remove_same_iff {q : NackQueue} (ordered : q.Ordered) (sn : UInt32) :
    (q.remove sn).1 = q ↔ sn ∉ q.numbers := by
  constructor
  · intro same among
    rw [← same, NackQueue.remove_numbers ordered] at among
    exact among.2 rfl
  · intro absent
    have kept : (q.remove sn).1.nacks = q.nacks := by
      rw [NackQueue.remove_nacks]
      apply SortedSlice.erase_absent
      intro v among same
      exact absent (List.mem_map.mpr ⟨v, among, same⟩)
    have marked : (q.remove sn).1.keyFrameSeqNumber = q.keyFrameSeqNumber := by
      unfold NackQueue.remove
      split <;> rfl
    exact congr (congrArg NackQueue.mk kept) marked

/-- The store refuses the packet, and refuses it under the number the buffer is at or,
behind that, under one the queue of missing numbers does not hold. -/
def Traceless (b : Buffer) (pkt : Bytes) (sn : UInt16) : Prop :=
  if b.stats.packetCount = 0 ∨ distance sn b.maxSeqNo &&& 0x8000 = 0 then
    (sn = b.maxSeqNo ∧ (b.stats.packetCount = 0 → sn = b.baseSn)) ∧ ∀ r ∈ b.bucket, r.Refuses ⟨pkt, sn, true⟩
  else
    (b.nack = true → ∀ q ∈ b.nacker, extSn b.cycles b.maxSeqNo sn ∉ q.numbers) ∧
      ∀ r ∈ b.bucket, r.Refuses ⟨pkt, sn, false⟩

instance (b : Buffer) (pkt : Bytes) (sn : UInt16) : Decidable (b.Traceless pkt sn) :=
  inferInstanceAs (Decidable
    (if b.stats.packetCount = 0 ∨ distance sn b.maxSeqNo &&& 0x8000 = 0 then
      (sn = b.maxSeqNo ∧ (b.stats.packetCount = 0 → sn = b.baseSn)) ∧ ∀ r ∈ b.bucket, r.Refuses ⟨pkt, sn, true⟩
    else
      (b.nack = true → ∀ q ∈ b.nacker, extSn b.cycles b.maxSeqNo sn ∉ q.numbers) ∧
        ∀ r ∈ b.bucket, r.Refuses ⟨pkt, sn, false⟩))

section Early
variable {b : Buffer} {pkt : Bytes} {sn : UInt16} {r r' : Bucket} {answer : Except BufferError Bytes}

theorem Tended.latest_iff (tended : b.Tended) (had : b.bucket = some r) (same : sn = b.maxSeqNo)
    (add : r.addPacket pkt sn true = some (r', answer)) :
    some r'.ring = b.bucket.map Bucket.ring ↔ ∀ r ∈ b.bucket, r.Refuses ⟨pkt, sn, true⟩ := by
  obtain ⟨m, two, wf⟩ := tended.slots r had
  have head : r.headSn = sn := (tended.head r had).trans same.symm
  simp only [had, Option.map_some, Option.some.injEq, Option.mem_some_iff, forall_eq']
  exact Bucket.ring_latest_iff wf two head add

theorem Tended.late_iff (tended : b.Tended) (had : b.bucket = some r) (counted : b.stats.packetCount ≠ 0)
    (numbered : ByteStore.u16At pkt 2 = some sn) (add : r.addPacket pkt sn false = some (r', answer)) :
    some r'.ring = b.bucket.map Bucket.ring ↔ ∀ r ∈ b.bucket, r.Refuses ⟨pkt, sn, false⟩ := by
  simp only [had, Option.map_some, Option.some.injEq, Option.mem_some_iff, forall_eq']
  exact Bucket.ring_late_iff (tended.begun r had counted) numbered add

theorem Tended.remove_iff (tended : b.Tended) (ext : UInt32) :
    (b.callNacker [.remove ext]).nacker = b.nacker ↔ ∀ q ∈ b.nacker, ext ∉ q.numbers := by
  unfold callNacker
  cases had : b.nacker with
  | none => exact iff_of_true rfl fun q none => absurd none (Option.not_mem_none q)
  | some q =>
      simp only [Option.map_some, Option.some.injEq, Option.mem_some_iff, forall_eq']
      exact remove_same_iff (tended.queue q had) ext

/-- The first packet starts the numbers, and goes in front of the store. -/
theorem Tended.first_iff {arrivalTime : Int} (tended : b.Tended) (first : b.stats.packetCount = 0)
    (had : (b.trackSequence sn arrivalTime).1.bucket = some r)
    (add : r.addPacket pkt sn (sn == (b.trackSequence sn arrivalTime).1.maxSeqNo) = some (r', answer)) :
    trace { (b.trackSequence sn arrivalTime).1 with bucket := some r' } = b.trace ↔ b.Traceless pkt sn := by
  rw [trackSequence_first first] at had add ⊢
  change r.addPacket pkt sn (sn == sn) = _ at add
  rw [beq_self_eq_true] at add
  rw [Traceless, if_pos (Or.inl first)]
  simp only [trace, Option.map_some, Trace.mk.injEq, true_and, and_true]
  constructor
  · rintro ⟨same, base, ring⟩
    exact ⟨⟨same, fun _ => base⟩, (tended.latest_iff had same add).mp ring⟩
  · rintro ⟨⟨same, base⟩, refused⟩
    exact ⟨same, base first, (tended.latest_iff had same add).mpr refused⟩

/-- A packet that is not behind leaves the highest number alone only when it bears it. -/
theorem Tended.forward_iff {arrivalTime : Int} (tended : b.Tended) (counted : b.stats.packetCount ≠ 0)
    (clear : distance sn b.maxSeqNo &&& 0x8000 = 0) (had : (b.trackSequence sn arrivalTime).1.bucket = some r)
    (add : r.addPacket pkt sn (sn == (b.trackSequence sn arrivalTime).1.maxSeqNo) = some (r', answer)) :
    trace { (b.trackSequence sn arrivalTime).1 with bucket := some r' } = b.trace ↔ b.Traceless pkt sn := by
  rw [trackSequence_forward counted clear] at had add ⊢
  change r.addPacket pkt sn (sn == sn) = _ at add
  rw [beq_self_eq_true] at add
  rw [Traceless, if_pos (Or.inr clear)]
  constructor
  · intro kept
    have same : sn = b.maxSeqNo := congrArg Trace.maxSeqNo kept
    exact ⟨⟨same, fun none => absurd none counted⟩, (tended.latest_iff had same add).mp (congrArg Trace.store kept)⟩
  · rintro ⟨⟨same, -⟩, refused⟩
    have ring := (tended.latest_iff had same add).mpr refused
    have below : ¬ sn < b.maxSeqNo := by
      rw [same]
      exact UInt16.lt_irrefl _
    have no_gap : gapCalls b.cycles b.maxSeqNo sn = [] := by
      rw [gapCalls, same, UInt16.sub_self]
      rfl
    dsimp only
    rw [if_neg below, no_gap, ite_self]
    simp only [trace, callNacker, List.foldl_nil, Option.map_id', Option.map_some, ring, same]

/-- A late packet takes its number off the queue, and goes to its slot. -/
theorem Tended.behind_iff {arrivalTime : Int} (tended : b.Tended) (counted : b.stats.packetCount ≠ 0)
    (numbered : ByteStore.u16At pkt 2 = some sn) (behind : ¬ distance sn b.maxSeqNo &&& 0x8000 = 0)
    (had : (b.trackSequence sn arrivalTime).1.bucket = some r)
    (add : r.addPacket pkt sn (sn == (b.trackSequence sn arrivalTime).1.maxSeqNo) = some (r', answer)) :
    trace { (b.trackSequence sn arrivalTime).1 with bucket := some r' } = b.trace ↔ b.Traceless pkt sn := by
  have differs : sn ≠ b.maxSeqNo := by
    intro same
    rw [same, distance_eq_sub, UInt16.sub_self] at behind
    exact behind rfl
  have late : (sn == b.maxSeqNo) = false := beq_false_of_ne differs
  rw [trackSequence_late counted behind] at had add ⊢
  rw [Traceless, if_neg (not_or.mpr ⟨counted, behind⟩)]
  by_cases nack : b.nack = true
  · have bit : 0 < distance sn b.maxSeqNo &&& 0x8000 := UInt16.pos_iff_ne_zero.mpr behind
    rw [if_pos ⟨nack, bit⟩] at had add ⊢
    change r.addPacket pkt sn (sn == b.maxSeqNo) = _ at add
    rw [late] at add
    rw [← tended.late_iff had counted numbered add, ← tended.remove_iff]
    constructor
    · intro kept
      exact ⟨fun _ => congrArg Trace.nacker kept, congrArg Trace.store kept⟩
    · rintro ⟨queue, ring⟩
      simp only [trace, Option.map_some, ring, queue nack]
      rfl
  · rw [if_neg fun both => nack both.1] at had add ⊢
    rw [late] at add
    rw [← tended.late_iff had counted numbered add, and_iff_right fun on => absurd on nack]
    constructor
    · exact congrArg Trace.store
    · intro ring
      simp only [trace, Option.map_some, ring]

end Early

/-- A packet that is turned away leaves no trace exactly where the store turns it away and
nothing before that has moved. -/
theorem early_exit_traceless_iff {b : Buffer} {pkt : Bytes} {arrivalTime : Int} {c : Calc} {sn : UInt16}
    (reached : Reached crates b) (numbered : ByteStore.u16At pkt 2 = some sn)
    (h : b.calc crates pkt arrivalTime = some c) (early : c.exit.counted = false) :
    c.buffer.trace = b.trace ↔ b.Traceless pkt sn := by
  have tended := reached.tended
  obtain ⟨r, r', answer, had, add, after⟩ := calc_early h early numbered
  rw [after]
  by_cases first : b.stats.packetCount = 0
  · exact tended.first_iff first had add
  · by_cases clear : distance sn b.maxSeqNo &&& 0x8000 = 0
    · exact tended.forward_iff first clear had add
    · exact tended.behind_iff first numbered clear had add

def rejoin : Option (CalcExit × Bool) := do
  let one ← opusBuffer.calc bareCrates (bareArrival 10).pkt 0
  let two ← one.buffer.calc bareCrates (bareArrival 11).pkt 0
  let again ← two.buffer.calc bareCrates (bareArrival 10).pkt 0
  return (again.exit, two.buffer.Traceless (bareArrival 10).pkt 10)

/-- A packet that comes a second time, behind another, where no feedback asks for it. -/
theorem early_exit_traceless_iff_duplicate :
    ∃ b c, Reached bareCrates b ∧ b.calc bareCrates (bareArrival 10).pkt 0 = some c ∧
      c.exit = .rejected .errRTXPacket ∧ c.buffer.trace = b.trace := by
  have states : rejoin = some (.rejected .errRTXPacket, true) := by decide +kernel
  simp only [rejoin, Option.bind_eq_bind, Option.bind_eq_some_iff] at states
  obtain ⟨one, first, two, second, again, third, answers⟩ := states
  obtain ⟨exit, traceless⟩ := Prod.mk.inj (Option.some.inj answers)
  have reached : Reached bareCrates two.buffer := ((Reached.opened opusBuffer_opened).received first).received second
  refine ⟨two.buffer, again, reached, third, exit, ?_⟩
  refine (early_exit_traceless_iff reached (bareArrival_numbered 10) third ?_).mpr (of_decide_eq_true traceless)
  rw [exit]
  rfl

/-- Thirteen bytes that claim fifteen contributing sources. -/
def cutShort : Bytes := [0x8F, 111, 0, 12, 0, 0, 0, 0, 0, 0, 0, 1, 1]

def jumped : Option (CalcExit × (UInt16 × UInt16) × List (List UInt32)) := do
  let one ← vp9Buffer.calc bareCrates (bareArrival 10).pkt 0
  let bad ← one.buffer.calc bareCrates cutShort 0
  return (bad.exit, (one.buffer.maxSeqNo, bad.buffer.maxSeqNo), bad.buffer.nacker.toList.map NackQueue.numbers)

/-- The packet is dropped, but the buffer is at its number and waits for the one before it. -/
theorem malformed_packet_counts :
    jumped = some (.malformed, (10, 12), [[11]]) ∧
      ∃ b c, Reached bareCrates b ∧ b.calc bareCrates cutShort 0 = some c ∧ c.exit = .malformed ∧
        c.buffer.trace ≠ b.trace := by
  have states : jumped = some (.malformed, (10, 12), [[11]]) := by decide +kernel
  refine ⟨states, ?_⟩
  simp only [jumped, Option.bind_eq_bind, Option.bind_eq_some_iff] at states
  obtain ⟨one, first, bad, second, answers⟩ := states
  obtain ⟨exit, numbers, -⟩ := Prod.mk.inj (Option.some.inj answers) |>.imp_right Prod.mk.inj
  obtain ⟨before, after⟩ := Prod.mk.inj numbers
  refine ⟨one.buffer, bad, (Reached.opened vp9Buffer_opened).received first, second, exit, fun same => ?_⟩
  have still : bad.buffer.maxSeqNo = one.buffer.maxSeqNo := congrArg Trace.maxSeqNo same
  rw [before, after] at still
  exact absurd still (by decide)

end Buffer

end Rsfu
