import Rsfu.RetransmissionStore
import Rsfu.SlotOverrun

/-! Late packets against the store. A packet the store has is refused as a
duplicate and one it has not is written, as long as the ring was not disturbed
and the slot is not a blank one: a blank slot bears the number zero. -/
namespace Rsfu
open RingSlots SerialNumber GuardedRun

/-- A call of `add_packet` under the true number of its packet. -/
structure Sequenced where
  seq : Nat
  pkt : Bytes
  latest : Bool

namespace Sequenced

def sn (c : Sequenced) : UInt16 := UInt16.ofNat c.seq

def call (c : Sequenced) : Addition := ⟨c.pkt, c.sn, c.latest⟩

/-- The true numbers of a run lie within one lap of the sixteen bits. -/
structure Formed (base : Nat) (c : Sequenced) : Prop where
  packet : PacketOf c.seq c.pkt
  first : base ≤ c.seq
  last : c.seq < base + 65536

theorem Formed.addition {base : Nat} {c : Sequenced} (h : c.Formed base) : c.call.Formed :=
  ⟨h.packet.shortest, h.packet.longest, h.packet.sn⟩

theorem sn_inj {base : Nat} {m n : Nat} (hm : base ≤ m ∧ m < base + 65536) (hn : base ≤ n ∧ n < base + 65536)
    (same : UInt16.ofNat m = UInt16.ofNat n) : m = n := by
  have equal : m % 65536 = n % 65536 := by
    rw [← toNat_ofNat16, ← toNat_ofNat16, same]
  omega

end Sequenced

/-- A store next to its newest true number and the packets it keeps. -/
structure Filing where
  store : Storing
  high : Option Nat := none
  kept : Nat → Option Bytes := fun _ => none

namespace Filing

def bucket (g : Filing) : Bucket := g.store.bucket

def record (g : Filing) (c : Sequenced) (after : Bucket × Except BufferError Bytes) : Filing where
  store := g.store.record c.call after
  high := if c.latest then some c.seq else g.high
  kept := if after.2.isOk then Function.update g.kept c.seq (some c.pkt) else g.kept

def file (g : Filing) (c : Sequenced) : Option Filing :=
  (g.bucket.addPacket c.pkt c.sn c.latest).map (g.record c)

/-- A late packet near the head is refused as a duplicate when a call for its
number was answered with `Ok`, and otherwise stored and read back. -/
def Answers (g : Filing) (c : Sequenced) : Prop :=
  c.latest = false → ((distance g.bucket.headSn c.sn).toNat : Int) ≤ g.bucket.maxSteps →
    ((∃ a ∈ g.store.accepted, a.sn = c.sn) →
      (g.bucket.addPacket c.pkt c.sn false).map Prod.snd = some (.error .errRTXPacket)) ∧
    ((¬ ∃ a ∈ g.store.accepted, a.sn = c.sn) →
      ∃ b', g.bucket.addPacket c.pkt c.sn false = some (b', .ok c.pkt) ∧ b'.get c.sn = some (some c.pkt))

/-- The calls the ring can follow. A head packet is new, and its gap does not run
over the last slot while part of the window stays; or it repeats the head with
nothing behind it. A late packet is behind a head, its distance fits the sixteen
bits of `max_steps`, and the number zero does not meet a blank slot. -/
def Orderly (g : Filing) (c : Sequenced) : Prop :=
  let m := g.bucket.maxSteps.toNat
  match g.high with
  | none => c.latest = true
  | some high =>
      if c.latest then
        high ≤ c.seq ∧ (c.seq = high → ∀ n, g.kept n ≠ none → n < high → n + m < high) ∧
          (high + 2 ≤ c.seq → c.seq ≤ high + m → g.bucket.step < m → g.bucket.step + (c.seq - high) - 1 < m)
      else
        c.seq ≤ high ∧ (high ≤ c.seq + m → m < 65536 ∧
          (c.sn = 0 → g.kept c.seq = none →
            ¬ BlankAt g.bucket.buf (slotBack (m + 1) g.bucket.step (high - c.seq))))

/-- The ring is aligned with the true numbers, and the accepted calls are those kept. -/
structure Aligned (g : Filing) (m base : Nat) : Prop where
  contents : g.store.Contents m
  named : ∀ a ∈ g.store.accepted, ∃ seq, g.kept seq ≠ none ∧ a.sn = UInt16.ofNat seq
  spanned : ∀ seq, g.kept seq ≠ none → (base ≤ seq ∧ seq < base + 65536) ∧
    ∃ a ∈ g.store.accepted, a.sn = UInt16.ofNat seq
  window : match g.high with
    | none => g.kept = fun _ => none
    | some high => (base ≤ high ∧ high < base + 65536) ∧ g.bucket.Stores m high g.kept

theorem Aligned.accepted_iff {g : Filing} {m base : Nat} (inv : g.Aligned m base) {c : Sequenced}
    (formed : c.Formed base) : (∃ a ∈ g.store.accepted, a.sn = c.sn) ↔ g.kept c.seq ≠ none := by
  constructor
  · rintro ⟨a, among, same⟩
    obtain ⟨seq, kept, number⟩ := inv.named a among
    have equal := Sequenced.sn_inj (inv.spanned seq kept).1 ⟨formed.first, formed.last⟩ (number.symm.trans same)
    rwa [← equal]
  · intro kept
    exact (inv.spanned c.seq kept).2

/-- The slot of a late packet bears its number exactly when the packet is kept. -/
theorem Aligned.number_iff {g : Filing} {m base high : Nat} (inv : g.Aligned m base) (at_high : g.high = some high)
    {c : Sequenced} (formed : c.Formed base) (near : high ≤ c.seq + m)
    (written : c.sn = 0 → g.kept c.seq = none →
      ¬ BlankAt g.bucket.buf (slotBack (m + 1) g.bucket.step (high - c.seq))) :
    g.bucket.numberAt (slotBack (m + 1) g.bucket.step (high - c.seq)) = some c.sn ↔ g.kept c.seq ≠ none := by
  have window := inv.window
  rw [at_high] at window
  obtain ⟨-, stores⟩ := window
  constructor
  · intro number missing
    have slot_le : slotBack (m + 1) g.bucket.step (high - c.seq) ≤ m :=
      Nat.le_of_lt_succ (slotBack_lt (Nat.succ_pos m))
    rcases inv.contents.slots _ slot_le with blank | ⟨a, among, fits, holds⟩
    · have zero := blank.read 4 (by decide) (inv.contents.wf.slot_room slot_le)
      exact written (Option.some.inj (number.symm.trans zero)) missing blank
    · have borne := holds.seq.symm.trans number
      rw [fits.numbered] at borne
      exact (inv.accepted_iff formed).mp ⟨a, among, Option.some.inj borne⟩ missing
  · intro kept
    obtain ⟨pkt, stored⟩ := Option.ne_none_iff_exists'.mp kept
    obtain ⟨of, holds⟩ := stores.holds c.seq pkt stored near
    exact holds.seq.trans of.sn

theorem Aligned.answers {g : Filing} {m base : Nat} (inv : g.Aligned m base) {c : Sequenced}
    (formed : c.Formed base) (orderly : g.Orderly c) : g.Answers c := by
  intro late near
  have window := inv.window
  unfold Orderly at orderly
  have steps : g.bucket.maxSteps = m := inv.contents.wf.steps
  rw [steps, Int.toNat_natCast] at orderly
  cases head : g.high with
  | none =>
      rw [head] at orderly
      exact absurd (late.symm.trans orderly) Bool.false_ne_true
  | some high =>
      rw [head] at window orderly
      simp only [late, Bool.false_eq_true, if_false] at orderly
      obtain ⟨span, stores⟩ := window
      obtain ⟨le, placed⟩ := orderly
      have first := formed.first
      rw [steps, stores.head, Sequenced.sn, Bucket.distance_ofNat le (by omega)] at near
      have inside : high ≤ c.seq + m := by omega
      obtain ⟨small, written⟩ := placed inside
      have number := inv.number_iff head formed inside written
      rw [inv.accepted_iff formed, stores.late_set]
      rcases Bucket.set_spec stores.wf small stores.head le inside formed.packet with
        ⟨borne, refused⟩ | ⟨other, buf, stored, holds⟩
      · refine ⟨fun _ => ?_, fun missing => absurd (number.mp borne) missing⟩
        rw [Sequenced.sn, refused, Option.map_some]
      · refine ⟨fun kept => absurd (number.mpr kept) other, fun _ => ⟨_, stored, ?_⟩⟩
        exact Bucket.get_spec ⟨stores.wf.steps, stores.wf.step_le, holds.size ▸ stores.wf.room⟩ small stores.head le
          inside formed.packet holds.holds

theorem record_named {g : Filing} {m base : Nat} (inv : g.Aligned m base) {c : Sequenced} (formed : c.Formed base)
    (after : Bucket × Except BufferError Bytes) :
    (∀ a ∈ (g.record c after).store.accepted, ∃ seq, (g.record c after).kept seq ≠ none ∧ a.sn = UInt16.ofNat seq) ∧
      ∀ seq, (g.record c after).kept seq ≠ none → (base ≤ seq ∧ seq < base + 65536) ∧
        ∃ a ∈ (g.record c after).store.accepted, a.sn = UInt16.ofNat seq := by
  simp only [record, Storing.record]
  cases after.2.isOk with
  | false => exact ⟨inv.named, inv.spanned⟩
  | true =>
      simp only [if_true]
      constructor
      · intro a among
        rcases List.mem_append.mp among with old | new
        · obtain ⟨seq, kept, same⟩ := inv.named a old
          refine ⟨seq, ?_, same⟩
          by_cases here : seq = c.seq
          · rw [here, Function.update_self]
            exact Option.some_ne_none c.pkt
          · rwa [Function.update_of_ne here]
        · refine ⟨c.seq, ?_, congrArg Addition.sn (List.mem_singleton.mp new)⟩
          rw [Function.update_self]
          exact Option.some_ne_none c.pkt
      · intro seq kept
        by_cases here : seq = c.seq
        · rw [here]
          exact ⟨⟨formed.first, formed.last⟩, c.call, List.mem_append_right _ (List.mem_singleton_self _), rfl⟩
        · rw [Function.update_of_ne here] at kept
          obtain ⟨span, a, among, same⟩ := inv.spanned seq kept
          exact ⟨span, a, List.mem_append_left _ among, same⟩

/-- A head packet of an orderly call moves the window to its number. -/
theorem forward_window {g : Filing} {m high : Nat} {c : Sequenced} {after : Bucket × Except BufferError Bytes}
    (stores : g.bucket.Stores m high g.kept) (packet : PacketOf c.seq c.pkt) (le : high ≤ c.seq)
    (near : c.seq < high + 65536) (alone : c.seq = high → ∀ n, g.kept n ≠ none → n < high → n + m < high)
    (clear : high + 2 ≤ c.seq → c.seq ≤ high + m → g.bucket.step < m → g.bucket.step + (c.seq - high) - 1 < m)
    (added : g.bucket.addPacket c.pkt c.sn true = some after) :
    (g.record c after).bucket.Stores m c.seq (g.record c after).kept := by
  obtain ⟨gap, ahead⟩ := Nat.exists_eq_add_of_le le
  rw [ahead] at packet
  obtain ⟨b', pushed, stores'⟩ := Bucket.addPacket_forward stores (show gap < 65536 by omega) packet
    (fun repeated => alone (by omega)) fun two inside before_last => by
      have := clear (by omega) (by omega) before_last
      omega
  rw [← ahead] at pushed stores'
  cases Option.some.inj (added.symm.trans pushed)
  exact stores'

/-- A late packet leaves the window where it is. -/
theorem late_window {g : Filing} {m high : Nat} {c : Sequenced} {after : Bucket × Except BufferError Bytes}
    (stores : g.bucket.Stores m high g.kept) (packet : PacketOf c.seq c.pkt) (le : c.seq ≤ high)
    (near : high < c.seq + 65536) (small : m < 65536) (added : g.bucket.addPacket c.pkt c.sn false = some after) :
    (g.record c after).bucket.Stores m high (g.record c after).kept := by
  rcases Bucket.addPacket_late stores small le near packet with ⟨err, refused⟩ | ⟨b', stored, stores'⟩
  · cases Option.some.inj (added.symm.trans refused)
    exact stores
  · cases Option.some.inj (added.symm.trans stored)
    exact stores'

theorem file_aligned {g g' : Filing} {m base : Nat} {c : Sequenced} (inv : g.Aligned m base)
    (formed : c.Formed base) (orderly : g.Orderly c) (h : g.file c = some g') : g'.Aligned m base := by
  obtain ⟨after, added, rfl⟩ := Option.map_eq_some_iff.mp h
  obtain ⟨named, spanned⟩ := record_named inv formed after
  have contents : (g.record c after).store.Contents m := by
    obtain ⟨next, stored, contents⟩ := Storing.add_contents inv.contents formed.addition
    obtain ⟨same, one, rfl⟩ := Option.map_eq_some_iff.mp stored
    cases Option.some.inj (added.symm.trans one)
    exact contents
  refine ⟨contents, named, spanned, ?_⟩
  have window := inv.window
  unfold Orderly at orderly
  have steps : g.bucket.maxSteps = m := inv.contents.wf.steps
  rw [steps, Int.toNat_natCast] at orderly
  have first := formed.first
  have last := formed.last
  simp only [record]
  cases head : g.high with
  | none =>
      rw [head] at orderly window
      rw [orderly] at added ⊢
      obtain ⟨b', first_added, stores⟩ := Bucket.addPacket_first inv.contents.wf formed.packet
      cases Option.some.inj (added.symm.trans first_added)
      rw [window]
      exact ⟨⟨first, last⟩, stores⟩
  | some high =>
      rw [head] at orderly window
      obtain ⟨span, stores⟩ := window
      cases flag : c.latest with
      | true =>
          rw [flag] at added
          simp only [flag, if_true] at orderly ⊢
          obtain ⟨le, alone, clear⟩ := orderly
          exact ⟨⟨first, last⟩, forward_window stores formed.packet le (by omega) alone clear added⟩
      | false =>
          rw [flag] at added
          simp only [flag, Bool.false_eq_true, if_false] at orderly ⊢
          obtain ⟨le, placed⟩ := orderly
          have small : m < 65536 := by
            by_cases near : high ≤ c.seq + m
            · exact (placed near).1
            · omega
          exact ⟨span, late_window stores formed.packet le (by omega) small added⟩

theorem filing_answers {g : Filing} {m base : Nat} {calls : List Sequenced} (inv : g.Aligned m base)
    (formed : ∀ c ∈ calls, c.Formed base) (orderly : Guarded file Orderly g calls) :
    Guarded file Answers g calls := by
  induction calls generalizing g with
  | nil => trivial
  | cons c rest ih =>
      have first := formed c (List.mem_cons_self ..)
      refine ⟨inv.answers first orderly.1, fun g' step => ?_⟩
      apply ih (file_aligned inv first orderly.1 step)
      · intro later among
        exact formed later (List.mem_cons_of_mem _ among)
      · exact orderly.2 g' step

/-- A bucket without a slot has no packet near its head. -/
theorem filing_answers_empty {g : Filing} {calls : List Sequenced} (none_near : g.bucket.maxSteps = -1) :
    Guarded file Answers g calls := by
  induction calls generalizing g with
  | nil => trivial
  | cons c rest ih =>
      refine ⟨fun _ near => ?_, fun g' step => ih ?_⟩
      · rw [none_near] at near
        omega
      · obtain ⟨after, added, rfl⟩ := Option.map_eq_some_iff.mp step
        exact (Bucket.addPacket_maxSteps (a := c.call) added).trans none_near

theorem late_answers (n base : Nat) (calls : List Sequenced) (formed : ∀ c ∈ calls, c.Formed base)
    (orderly : Guarded file Orderly { store := { bucket := .new n } } calls) :
    Guarded file Answers { store := { bucket := .new n } } calls := by
  cases slots : n / maxPacketSize with
  | zero =>
      apply filing_answers_empty
      simp only [bucket, Bucket.new, slots]
      rfl
  | succ m =>
      refine filing_answers ⟨Storing.contents_new slots, ?_, ?_, rfl⟩ formed orderly
      · intro a among
        cases among
      · intro seq kept
        exact absurd rfl kept

/-- A header of twelve bytes with a given number and nothing behind it. -/
def barePacket (seq : Nat) (latest : Bool) : Sequenced :=
  ⟨seq, [128, 111] ++ ByteStore.beBytes (UInt16.ofNat seq) ++ List.replicate 8 0, latest⟩

theorem barePacket_formed {base seq : Nat} (latest : Bool) (first : base ≤ seq) (last : seq < base + 65536) :
    (barePacket seq latest).Formed base := by
  refine ⟨⟨?_, ?_, ?_⟩, first, last⟩
  · simp only [barePacket, ByteStore.beBytes, List.length_append, List.length_cons, List.length_nil,
      List.length_replicate]
    omega
  · simp only [barePacket, ByteStore.beBytes, List.length_append, List.length_cons, List.length_nil,
      List.length_replicate]
    omega
  · exact congrArg some (ByteStore.beU16_beBytes _)

def start : Filing := { store := { bucket := .new 37500 } }

/-- A gap, a late packet that fills it in part, and the same packet again. -/
def gapFilled : List Sequenced :=
  [barePacket 5 true, barePacket 8 true, barePacket 6 false, barePacket 6 false]

/-- A late packet with a number that is not zero, near the head of a small store. -/
theorem orderly_late {g : Filing} {high seq : Nat} (state : (g.high, g.bucket.maxSteps) = (some high, 24))
    (behind : seq ≤ high) (number : (barePacket seq false).sn ≠ 0) : g.Orderly (barePacket seq false) := by
  obtain ⟨head, steps⟩ := Prod.mk.inj state
  unfold Orderly
  rw [head, steps]
  exact ⟨behind, fun _ => ⟨by decide, fun zero => absurd zero number⟩⟩

theorem late_answers_gap :
    (∀ c ∈ gapFilled, c.Formed 0) ∧ Guarded file Orderly start gapFilled ∧ Guarded file Answers start gapFilled := by
  have formed : ∀ c ∈ gapFilled, c.Formed 0 := by
    intro c among
    simp only [gapFilled, List.mem_cons, List.not_mem_nil, or_false] at among
    rcases among with rfl | rfl | rfl | rfl
    · exact barePacket_formed true (by decide) (by decide)
    · exact barePacket_formed true (by decide) (by decide)
    · exact barePacket_formed false (by decide) (by decide)
    · exact barePacket_formed false (by decide) (by decide)
  have orderly : Guarded file Orderly start gapFilled := by
    refine ⟨rfl, fun g first => ⟨?_, fun g' second => ⟨?_, fun g'' third => ⟨?_, fun _ _ => trivial⟩⟩⟩⟩
    · have state : (file start (barePacket 5 true)).map (fun g => (g.high, g.bucket.maxSteps, g.bucket.step)) =
          some (some 5, 24, 1) := by decide +kernel
      rw [first, Option.map_some, Option.some.injEq, Prod.mk.injEq, Prod.mk.injEq] at state
      unfold Orderly
      rw [state.1, state.2.1, state.2.2]
      exact ⟨by decide, fun same => absurd same (by decide), fun _ _ _ => by decide⟩
    · have state : (run file start (gapFilled.take 2)).map (fun g => (g.high, g.bucket.maxSteps)) =
          some (some 8, 24) := by decide +kernel
      have reached : run file start (gapFilled.take 2) = some g' :=
        run_cons_eq_some.mpr ⟨g, first, run_cons_eq_some.mpr ⟨g', second, rfl⟩⟩
      rw [reached, Option.map_some, Option.some.injEq] at state
      exact orderly_late state (by decide) (by decide)
    · have state : (run file start (gapFilled.take 3)).map (fun g => (g.high, g.bucket.maxSteps)) =
          some (some 8, 24) := by decide +kernel
      have reached : run file start (gapFilled.take 3) = some g'' := run_cons_eq_some.mpr
        ⟨g, first, run_cons_eq_some.mpr ⟨g', second, run_cons_eq_some.mpr ⟨g'', third, rfl⟩⟩⟩
      rw [reached, Option.map_some, Option.some.injEq] at state
      exact orderly_late state (by decide) (by decide)
  exact ⟨formed, orderly, late_answers 37500 0 gapFilled formed orderly⟩

/-- The number zero, late, against a slot that a gap skipped. -/
def skippedZero : List Sequenced := [barePacket 65535 true, barePacket 65537 true]

theorem skipped_zero_refused :
    (∀ c ∈ skippedZero ++ [barePacket 65536 false], c.Formed 65535) ∧
      ¬ Guarded file Answers start (skippedZero ++ [barePacket 65536 false]) := by
  constructor
  · intro c among
    simp only [skippedZero, List.cons_append, List.nil_append, List.mem_cons, List.not_mem_nil, or_false] at among
    rcases among with rfl | rfl | rfl
    · exact barePacket_formed true (by decide) (by decide)
    · exact barePacket_formed true (by decide) (by decide)
    · exact barePacket_formed false (by decide) (by decide)
  · intro answers
    obtain ⟨g₁, first⟩ : ∃ g, file start (barePacket 65535 true) = some g :=
      Option.isSome_iff_exists.mp (by decide +kernel)
    have reached : (run file start skippedZero).map (fun g => (g.bucket.headSn, g.bucket.maxSteps,
        g.store.accepted.map Addition.sn)) = some (1, 24, [65535, 1]) := by decide +kernel
    have refused : (run file start skippedZero).bind (fun g =>
        (g.bucket.addPacket (barePacket 65536 false).pkt 0 false).map fun after => after.2.isOk) = some false := by
      decide +kernel
    obtain ⟨g₂, both⟩ : ∃ g, run file start skippedZero = some g :=
      Option.isSome_iff_exists.mp (by decide +kernel)
    have second : file g₁ (barePacket 65537 true) = some g₂ := by
      obtain ⟨g, one, two⟩ := run_cons_eq_some.mp both
      cases Option.some.inj (first.symm.trans one)
      obtain ⟨g', two, last⟩ := run_cons_eq_some.mp two
      cases last
      exact two
    rw [both, Option.map_some, Option.some.injEq, Prod.mk.injEq, Prod.mk.injEq] at reached
    rw [both, Option.bind_some] at refused
    obtain ⟨head, steps, numbers⟩ := reached
    have late : g₂.Answers (barePacket 65536 false) := ((answers.2 g₁ first).2 g₂ second).1
    have near : ((distance g₂.bucket.headSn 0).toNat : Int) ≤ g₂.bucket.maxSteps := by
      rw [head, steps]
      decide
    obtain ⟨-, stores⟩ := late rfl near
    obtain ⟨b', stored, -⟩ := stores (by
      rintro ⟨a, among, zero⟩
      have listed := List.mem_map_of_mem (f := Addition.sn) among
      rw [numbers, zero] at listed
      exact absurd listed (by decide))
    have okay : (g₂.bucket.addPacket (barePacket 65536 false).pkt 0 false).map (fun after => after.2.isOk) =
        some true := congrArg (Option.map fun after => after.2.isOk) stored
    exact absurd (refused.symm.trans okay) (by decide)

end Filing

end Rsfu
