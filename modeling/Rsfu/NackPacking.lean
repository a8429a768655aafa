import Rsfu.NackQueue
import Mathlib.Data.List.Nodup
import Mathlib.Order.MinMax

/-! Packing of the missing numbers into NACK pairs. Read back, the pairs stand
for the selected numbers exactly when the first of these has a non-zero low half
and no group of seventeen numbers is left behind by a wrap of the low half. -/
namespace Rsfu
open SerialNumber SortedSlice

namespace NackQueue

def numbers (q : NackQueue) : List UInt32 := q.nacks.map Nack.seqNumber

def Ordered (q : NackQueue) : Prop := SortedBy Nack.seqNumber q.nacks

theorem push_nacks (q : NackQueue) (sn : UInt32) :
    (q.push sn).nacks = insertByKey q.nacks ⟨sn, 0⟩ Nack.seqNumber := by
  unfold push insertByKey
  cases binarySearchByKey q.nacks sn Nack.seqNumber <;> rfl

theorem remove_nacks (q : NackQueue) (sn : UInt32) :
    (q.remove sn).1.nacks = eraseByKey q.nacks sn Nack.seqNumber := by
  unfold remove eraseByKey
  cases binarySearchByKey q.nacks sn Nack.seqNumber <;> rfl

theorem push_ordered {q : NackQueue} (ordered : q.Ordered) (sn : UInt32) : (q.push sn).Ordered := by
  rw [Ordered, push_nacks]
  exact insert_sorted _ ordered

theorem remove_ordered {q : NackQueue} (ordered : q.Ordered) (sn : UInt32) : (q.remove sn).1.Ordered := by
  rw [Ordered, remove_nacks]
  exact erase_sorted sn ordered

theorem push_numbers {q : NackQueue} (ordered : q.Ordered) (sn n : UInt32) :
    n ∈ (q.push sn).numbers ↔ n ∈ q.numbers ∨ n = sn := by
  simp only [numbers, push_nacks, List.mem_map, insert_mem _ _ ordered]
  constructor
  · rintro ⟨v, old | ⟨rfl, -⟩, rfl⟩
    · exact Or.inl ⟨v, old, rfl⟩
    · exact Or.inr rfl
  · rintro (⟨v, old, rfl⟩ | rfl)
    · exact ⟨v, Or.inl old, rfl⟩
    · by_cases known : ∃ v ∈ q.nacks, v.seqNumber = n
      · obtain ⟨v, old, same⟩ := known
        exact ⟨v, Or.inl old, same⟩
      · exact ⟨⟨n, 0⟩, Or.inr ⟨rfl, fun v old same => known ⟨v, old, same⟩⟩, rfl⟩

theorem remove_numbers {q : NackQueue} (ordered : q.Ordered) (sn n : UInt32) :
    n ∈ (q.remove sn).1.numbers ↔ n ∈ q.numbers ∧ n ≠ sn := by
  simp only [numbers, remove_nacks, List.mem_map, erase_mem sn ordered]
  constructor
  · rintro ⟨v, ⟨old, other⟩, rfl⟩
    exact ⟨⟨v, old, rfl⟩, other⟩
  · rintro ⟨⟨v, old, rfl⟩, other⟩
    exact ⟨v, ⟨old, other⟩, rfl⟩

/-- The entries a round of `pairs` asks for. -/
def Selects (head : UInt32) (v : Nack) : Prop := v.nackd < maxNackTimes ∧ v.seqNumber < head - 2

instance (head : UInt32) (v : Nack) : Decidable (Selects head v) :=
  inferInstanceAs (Decidable (_ ∧ _))

def selected (q : NackQueue) (head : UInt32) : List UInt32 :=
  (q.nacks.filter fun v => Selects head v).map Nack.seqNumber

theorem add_with (p : Packing) (ask : Bool) (key sn : UInt32) :
    Packing.add { p with askKeyFrame := ask, keyFrameSeqNumber := key } sn =
      { p.add sn with askKeyFrame := ask, keyFrameSeqNumber := key } := by
  by_cases start : p.np.packetId = 0 ∨ sn.toUInt16 > p.np.packetId + 16
  · simp only [Packing.add, start, if_true]
  · simp only [Packing.add, start, if_false]

theorem foldl_add_with (sns : List UInt32) (p : Packing) (ask : Bool) (key : UInt32) :
    sns.foldl Packing.add { p with askKeyFrame := ask, keyFrameSeqNumber := key } =
      { sns.foldl Packing.add p with askKeyFrame := ask, keyFrameSeqNumber := key } := by
  induction sns generalizing p with
  | nil => rfl
  | cons sn sns ih => rw [List.foldl_cons, List.foldl_cons, add_with, ih]

/-- The loop packs the selected numbers in order. -/
theorem pairsLoop_packing (head : UInt32) (nacks : List Nack) (p : Packing) :
    ∃ ask key, (pairsLoop head nacks p).2 =
      { ((nacks.filter fun v => Selects head v).map Nack.seqNumber).foldl Packing.add p with
        askKeyFrame := ask, keyFrameSeqNumber := key } := by
  induction nacks generalizing p with
  | nil => exact ⟨p.askKeyFrame, p.keyFrameSeqNumber, rfl⟩
  | cons v rest ih =>
      unfold pairsLoop
      by_cases worn : maxNackTimes ≤ v.nackd
      · have out : ¬ Selects head v := fun chosen => absurd chosen.1 (UInt8.not_lt.mpr worn)
        simp only [if_pos worn, List.filter_cons, out, decide_false, Bool.false_eq_true, if_false]
        split
        · obtain ⟨ask, key, packed⟩ := ih { p with keyFrameSeqNumber := v.seqNumber, askKeyFrame := true }
          refine ⟨ask, key, packed.trans ?_⟩
          rw [foldl_add_with]
        · exact ih p
      · by_cases young : head - 2 ≤ v.seqNumber
        · have out : ¬ Selects head v := fun chosen => absurd chosen.2 (UInt32.not_lt.mpr young)
          simp only [if_neg worn, if_pos young, List.filter_cons, out, decide_false, Bool.false_eq_true, if_false]
          exact ih p
        · have chosen : Selects head v := ⟨UInt8.not_le.mp worn, UInt32.not_le.mp young⟩
          simp only [if_neg worn, if_neg young, List.filter_cons, chosen, decide_true, if_true, List.map_cons,
            List.foldl_cons]
          exact ih (p.add v.seqNumber)

theorem pairsLoop_numbers (head : UInt32) (nacks : List Nack) (p : Packing) :
    ((pairsLoop head nacks p).1.map Nack.seqNumber).Sublist (nacks.map Nack.seqNumber) := by
  induction nacks generalizing p with
  | nil => exact List.Sublist.refl _
  | cons v rest ih =>
      unfold pairsLoop
      split
      · exact (ih _).cons _
      · split
        · exact (ih _).cons_cons _
        · exact (ih _).cons_cons _

theorem pairs_numbers (q : NackQueue) (head : UInt32) : (q.pairs head).1.numbers.Sublist q.numbers := by
  unfold pairs
  split
  · exact List.Sublist.refl _
  · exact pairsLoop_numbers head q.nacks _

theorem pairs_ordered {q : NackQueue} (ordered : q.Ordered) (head : UInt32) : (q.pairs head).1.Ordered := by
  have sorted : q.numbers.Pairwise (· < ·) := List.pairwise_map.mpr ordered
  exact List.pairwise_map.mp (sorted.sublist (pairs_numbers q head))

/-- The queues that `push`, `remove` and `pairs` lead to. -/
inductive Reachable : NackQueue → Prop where
  | new : Reachable {}
  | push {q : NackQueue} (sn : UInt32) : Reachable q → Reachable (q.push sn)
  | remove {q : NackQueue} (sn : UInt32) : Reachable q → Reachable (q.remove sn).1
  | pairs {q : NackQueue} (head : UInt32) : Reachable q → Reachable (q.pairs head).1

theorem Reachable.ordered {q : NackQueue} (h : Reachable q) : q.Ordered := by
  induction h with
  | new => exact List.Pairwise.nil
  | push sn _ ih => exact push_ordered ih sn
  | remove sn _ ih => exact remove_ordered ih sn
  | pairs head _ ih => exact pairs_ordered ih head

namespace Packing

/-- The numbers the pairs stand for once the open pair is closed. -/
def denoted (p : Packing) : List UInt16 :=
  (p.nps ++ if p.np.packetId ≠ 0 then [p.np] else []).flatMap NackPair.packetList

/-- The open pair starts at `base` and has room for every number above `last`. -/
structure At (p : Packing) (base last : Nat) : Prop where
  base_low : p.np.packetId = UInt16.ofNat base
  nonzero : p.np.packetId ≠ 0
  le : base ≤ last
  free : ∀ i < 16, last ≤ base + i → p.np.lostPackets.toNat.testBit i = false

theorem toUInt16_eq (sn : UInt32) : sn.toUInt16 = UInt16.ofNat sn.toNat := by
  rw [← UInt16.toNat_inj, UInt32.toNat_toUInt16, toNat_ofNat16]

theorem At.denoted {p : Packing} {base last : Nat} (at_base : p.At base last) :
    p.denoted = p.nps.flatMap NackPair.packetList ++ p.np.packetList := by
  rw [Packing.denoted, if_pos at_base.nonzero, List.flatMap_append, List.flatMap_singleton]

theorem packetList_start (low : UInt16) : NackPair.packetList ⟨low, 0⟩ = [low] := by
  simp [NackPair.packetList]

theorem add_starts {p : Packing} {sn : UInt32} (start : p.np.packetId = 0 ∨ sn.toUInt16 > p.np.packetId + 16) :
    (p.add sn).np = ⟨sn.toUInt16, 0⟩ ∧
      (p.add sn).nps = if p.np.packetId ≠ 0 then p.nps ++ [p.np] else p.nps := by
  simp only [Packing.add, start, if_true, and_self]

/-- A number that opens a pair is denoted by it alone. -/
theorem add_open {p : Packing} {sn : UInt32} (start : p.np.packetId = 0 ∨ sn.toUInt16 > p.np.packetId + 16)
    (nonzero : sn.toUInt16 ≠ 0) :
    (p.add sn).At sn.toNat sn.toNat ∧ (p.add sn).denoted = p.denoted ++ [sn.toUInt16] := by
  obtain ⟨np, nps⟩ := add_starts start
  have at_sn : (p.add sn).At sn.toNat sn.toNat := by
    refine ⟨?_, ?_, le_refl _, ?_⟩
    · rw [np, toUInt16_eq]
    · rw [np]
      exact nonzero
    · intro i _ _
      rw [np]
      exact Nat.zero_testBit i
  refine ⟨at_sn, ?_⟩
  rw [at_sn.denoted, np, nps, packetList_start, denoted]
  split <;> simp

theorem shifted_bit {i : Nat} (small : i < 16) (j : Nat) :
    ((1 : UInt16) <<< UInt16.ofNat i).toNat.testBit j = decide (i = j) := by
  have amount : (UInt16.ofNat i).toNat % 16 = i := by
    rw [toNat_ofNat16]
    omega
  have fits : 2 ^ i < 2 ^ 16 := Nat.pow_lt_pow_right (by decide) small
  rw [UInt16.toNat_shiftLeft, amount, UInt16.toNat_one, Nat.one_shiftLeft, Nat.mod_eq_of_lt fits,
    Nat.testBit_two_pow]

theorem add_stays {p : Packing} {sn : UInt32}
    (stay : ¬(p.np.packetId = 0 ∨ sn.toUInt16 > p.np.packetId + 16)) :
    (p.add sn).nps = p.nps ∧ (p.add sn).np =
      ⟨p.np.packetId, p.np.lostPackets ||| ((1 : UInt16) <<< (sn.toUInt16 - p.np.packetId - 1))⟩ := by
  simp only [Packing.add, stay, if_false, and_self]

/-- Marking a free bit adds one number to a pair. -/
theorem packetList_mark {low lost : UInt16} {i : Nat} (small : i < 16)
    (free : lost.toNat.testBit i = false) :
    (NackPair.packetList ⟨low, lost ||| (1 <<< UInt16.ofNat i)⟩).Perm
      (NackPair.packetList ⟨low, lost⟩ ++ [low + 1 + UInt16.ofNat i]) := by
  have marked : ∀ j, (lost ||| (1 <<< UInt16.ofNat i)).toNat.testBit j =
      (lost.toNat.testBit j || decide (i = j)) := by
    intro j
    rw [UInt16.toNat_or, Nat.testBit_or, shifted_bit small]
  have nodup : (List.range 16).Nodup := List.nodup_range
  have bits : ((List.range 16).filter fun j => lost.toNat.testBit j || decide (i = j)).Perm
      (((List.range 16).filter fun j => lost.toNat.testBit j) ++ [i]) := by
    rw [List.perm_ext_iff_of_nodup (nodup.filter _)]
    · intro j
      simp only [List.mem_filter, List.mem_range, List.mem_append, List.mem_singleton, Bool.or_eq_true,
        decide_eq_true_eq]
      constructor
      · rintro ⟨inside, old | rfl⟩
        · exact Or.inl ⟨inside, old⟩
        · exact Or.inr rfl
      · rintro (⟨inside, old⟩ | rfl)
        · exact ⟨inside, Or.inl old⟩
        · exact ⟨small, Or.inr rfl⟩
    · refine List.nodup_append.mpr ⟨nodup.filter _, List.nodup_singleton i, ?_⟩
      intro a old b new
      rw [List.mem_singleton.mp new]
      rintro rfl
      rw [(List.mem_filter.mp old).2] at free
      cases free
  simp only [NackPair.packetList, marked, List.cons_append]
  refine List.Perm.cons _ ?_
  have mapped := bits.map fun j => low + 1 + UInt16.ofNat j
  rwa [List.map_append, List.map_singleton] at mapped

/-- A number at most sixteen above the base joins the open pair. -/
theorem add_join {p : Packing} {sn : UInt32} {base last : Nat} (at_base : p.At base last)
    (above : last < sn.toNat) (close : sn.toNat ≤ base + 16)
    (stay : ¬ sn.toUInt16 > p.np.packetId + 16) :
    (p.add sn).At base sn.toNat ∧ (p.add sn).denoted.Perm (p.denoted ++ [sn.toUInt16]) := by
  have le := at_base.le
  obtain ⟨i, offset⟩ : ∃ i, sn.toNat = base + 1 + i := Nat.exists_eq_add_of_le (by omega)
  obtain ⟨nps, np⟩ := add_stays (not_or.mpr ⟨at_base.nonzero, stay⟩)
  have low : sn.toUInt16 = p.np.packetId + 1 + UInt16.ofNat i := by
    rw [toUInt16_eq, at_base.base_low, offset, show (1 : UInt16) = UInt16.ofNat 1 from rfl, ofNat_add16,
      ofNat_add16]
  have slot : sn.toUInt16 - p.np.packetId - 1 = UInt16.ofNat i := by
    rw [toUInt16_eq, at_base.base_low, ofNat_sub16 (by omega), show (1 : UInt16) = UInt16.ofNat 1 from rfl,
      ofNat_sub16 (by omega)]
    congr 1
    omega
  rw [slot] at np
  have free := at_base.free i (by omega) (by omega)
  have at_base' : (p.add sn).At base sn.toNat := by
    refine ⟨by rw [np]; exact at_base.base_low, by rw [np]; exact at_base.nonzero, by omega, ?_⟩
    intro j small later
    rw [np, UInt16.toNat_or, Nat.testBit_or, shifted_bit (by omega), at_base.free j small (by omega)]
    simp only [Bool.false_or, decide_eq_false_iff_not]
    omega
  refine ⟨at_base', ?_⟩
  rw [at_base'.denoted, at_base.denoted, nps, np, low, List.append_assoc]
  exact List.Perm.append_left _ (packetList_mark (by omega) free)

/-- The numbers still to come: ascending, above `last`, less than half a cycle above the base. -/
structure Ahead (base last : Nat) (rest : List UInt32) : Prop where
  ascending : rest.Pairwise (· < ·)
  above : ∀ sn ∈ rest, last < sn.toNat
  near : ∀ sn ∈ rest, sn.toNat < base + 32768

theorem Ahead.tail {base last base' : Nat} {sn : UInt32} {rest : List UInt32}
    (ahead : Ahead base last (sn :: rest)) (le : base ≤ base') : Ahead base' sn.toNat rest := by
  obtain ⟨first, ascending⟩ := List.pairwise_cons.mp ahead.ascending
  refine ⟨ascending, fun later among => UInt32.lt_iff_toNat_lt.mp (first later among), fun later among => ?_⟩
  have := ahead.near later (List.mem_cons_of_mem _ among)
  omega

theorem Ahead.head_le {base last : Nat} {sn : UInt32} {rest : List UInt32} (ahead : Ahead base last (sn :: rest)) :
    ∀ later ∈ sn :: rest, sn.toNat ≤ later.toNat := by
  intro later among
  rcases List.mem_cons.mp among with rfl | after
  · exact le_refl _
  · exact ((ahead.tail (le_refl _)).above later after).le

/-- Nothing to come is lost: no wrap lies ahead, or the open pair reaches over it. -/
def Safe (base : Nat) (rest : List UInt32) : Prop :=
  (∀ sn ∈ rest, sn.toNat / 65536 = base / 65536) ∨ 65520 ≤ base % 65536

/-- Groups of seventeen numbers, each starting at the first number past the last
one, meet every wrap of the low half between the numbers they cover. -/
def MeetsWraps : Nat → List UInt32 → Prop
  | _, [] => True
  | base, sn :: rest =>
      (base / 65536 < sn.toNat / 65536 → 65536 * (sn.toNat / 65536) ≤ base + 16) ∧
        MeetsWraps (if base + 16 < sn.toNat then sn.toNat else base) rest

theorem opens_iff {p : Packing} {base last : Nat} (at_base : p.At base last) (sn : UInt32) :
    sn.toUInt16 > p.np.packetId + 16 ↔ (base + 16) % 65536 < sn.toNat % 65536 := by
  rw [toUInt16_eq, at_base.base_low, show (16 : UInt16) = UInt16.ofNat 16 from rfl, ofNat_add16,
    gt_iff_lt, ofNat_lt_ofNat16]

/-- Where the next number goes when the open pair starts at `base`. -/
theorem add_cases {p : Packing} {base last : Nat} {sn : UInt32} (at_base : p.At base last)
    (above : last < sn.toNat) (inside : (base + 16) % 65536 < sn.toNat % 65536 ∨ sn.toNat ≤ base + 16) :
    ∃ base', (base' = base ∧ sn.toNat ≤ base + 16 ∨
        base' = sn.toNat ∧ (base + 16) % 65536 < sn.toNat % 65536) ∧
      (p.add sn).At base' sn.toNat ∧ (p.add sn).denoted.Perm (p.denoted ++ [sn.toUInt16]) := by
  by_cases opens : (base + 16) % 65536 < sn.toNat % 65536
  · have nonzero : sn.toUInt16 ≠ 0 := by
      intro zero
      have low : sn.toUInt16.toNat = 0 := by rw [zero]; rfl
      rw [toUInt16_eq, toNat_ofNat16] at low
      omega
    obtain ⟨at_sn, added⟩ := add_open (Or.inr ((opens_iff at_base sn).mpr opens)) nonzero
    exact ⟨_, Or.inr ⟨rfl, opens⟩, at_sn, added ▸ List.Perm.refl _⟩
  · have close := inside.resolve_left opens
    obtain ⟨at_base', added⟩ := add_join at_base above close fun start => opens ((opens_iff at_base sn).mp start)
    exact ⟨_, Or.inl ⟨rfl, close⟩, at_base', added⟩

theorem Safe.inside {base last : Nat} {sn : UInt32} {rest : List UInt32} (safe : Safe base (sn :: rest))
    (le : base ≤ last) (ahead : Ahead base last (sn :: rest)) :
    (base + 16) % 65536 < sn.toNat % 65536 ∨ sn.toNat ≤ base + 16 := by
  have above := lt_of_le_of_lt le (ahead.above sn (List.mem_cons_self ..))
  have near := ahead.near sn (List.mem_cons_self ..)
  rcases safe with same | reaches
  · have := same sn (List.mem_cons_self ..)
    omega
  · omega

theorem Safe.stay {base : Nat} {sn : UInt32} {rest : List UInt32} (safe : Safe base (sn :: rest)) :
    Safe base rest :=
  safe.imp_left fun same later among => same later (List.mem_cons_of_mem _ among)

theorem Safe.move {base last : Nat} {sn : UInt32} {rest : List UInt32} (safe : Safe base (sn :: rest))
    (le : base ≤ last) (ahead : Ahead base last (sn :: rest)) : Safe sn.toNat rest := by
  have above := ahead.above sn (List.mem_cons_self ..)
  have next := ahead.tail le
  rcases safe with same | reaches
  · left
    intro later among
    rw [same sn (List.mem_cons_self ..), same later (List.mem_cons_of_mem _ among)]
  · by_cases wraps : sn.toNat / 65536 = base / 65536
    · right
      omega
    · left
      intro later among
      have := ahead.near later (List.mem_cons_of_mem _ among)
      have := next.above later among
      have := ahead.near sn (List.mem_cons_self ..)
      omega

theorem foldl_safe {p : Packing} {base last : Nat} {rest : List UInt32} (at_base : p.At base last)
    (ahead : Ahead base last rest) (safe : Safe base rest) :
    (rest.foldl Packing.add p).denoted.Perm (p.denoted ++ rest.map UInt32.toUInt16) := by
  induction rest generalizing p base last with
  | nil => simp
  | cons sn rest ih =>
      have above := ahead.above sn (List.mem_cons_self ..)
      have le := at_base.le
      obtain ⟨base', moved, at_base', added⟩ := add_cases at_base above (safe.inside le ahead)
      have rest_denoted : (rest.foldl Packing.add (p.add sn)).denoted.Perm
          ((p.add sn).denoted ++ rest.map UInt32.toUInt16) := by
        rcases moved with ⟨rfl, -⟩ | ⟨rfl, -⟩
        · exact ih at_base' (ahead.tail (le_refl _)) safe.stay
        · exact ih at_base' (ahead.tail (by omega)) (safe.move le ahead)
      refine rest_denoted.trans ((added.append_right _).trans ?_)
      rw [List.append_assoc, List.singleton_append, List.map_cons]

theorem Safe.meetsWraps {base last : Nat} {rest : List UInt32} (safe : Safe base rest) (le : base ≤ last)
    (ahead : Ahead base last rest) : MeetsWraps base rest := by
  induction rest generalizing base last with
  | nil => trivial
  | cons sn rest ih =>
      have above := ahead.above sn (List.mem_cons_self ..)
      have near := ahead.near sn (List.mem_cons_self ..)
      refine ⟨fun wraps => ?_, ?_⟩
      · rcases safe with same | reaches
        · have := same sn (List.mem_cons_self ..)
          omega
        · omega
      · split
        · exact ih (safe.move le ahead) (le_refl _) (ahead.tail (by omega))
        · exact ih safe.stay (by omega) (ahead.tail (le_refl _))

/-- With room short of the next wrap, the greedy grouping is the one of the code. -/
theorem groups_agree {base sn : Nat} (short : base % 65536 < 65520) (same : sn / 65536 = base / 65536) :
    (base + 16) % 65536 < sn % 65536 ↔ base + 16 < sn := by omega

theorem foldl_meets {p : Packing} {base last : Nat} {rest : List UInt32} (at_base : p.At base last)
    (ahead : Ahead base last rest) (meets : MeetsWraps base rest) :
    (rest.foldl Packing.add p).denoted.Perm (p.denoted ++ rest.map UInt32.toUInt16) := by
  induction rest generalizing p base last with
  | nil => simp
  | cons sn rest ih =>
      by_cases safe : Safe base (sn :: rest)
      · exact foldl_safe at_base ahead safe
      · have short : base % 65536 < 65520 := by
          have := (not_or.mp safe).2
          omega
        have above := ahead.above sn (List.mem_cons_self ..)
        have near := ahead.near sn (List.mem_cons_self ..)
        have le := at_base.le
        obtain ⟨reach, later⟩ := meets
        have same : sn.toNat / 65536 = base / 65536 := by
          by_contra wraps
          have := reach (by omega)
          omega
        have agree := groups_agree short same
        obtain ⟨base', moved, at_base', added⟩ := add_cases at_base above (by omega)
        have rest_denoted : (rest.foldl Packing.add (p.add sn)).denoted.Perm
            ((p.add sn).denoted ++ rest.map UInt32.toUInt16) := by
          rcases moved with ⟨rfl, close⟩ | ⟨rfl, opens⟩
          · rw [if_neg (by omega)] at later
            exact ih at_base' (ahead.tail (le_refl _)) later
          · rw [if_pos (agree.mp opens)] at later
            exact ih at_base' (ahead.tail (by omega)) later
        refine rest_denoted.trans ((added.append_right _).trans ?_)
        rw [List.append_assoc, List.singleton_append, List.map_cons]

/-- Past a wrap that the open pair does not reach over, no number opens a pair again. -/
theorem foldl_stuck {p : Packing} {base : Nat} {rest : List UInt32} (low : p.np.packetId = UInt16.ofNat base)
    (nonzero : p.np.packetId ≠ 0) (short : base % 65536 < 65520)
    (beyond : ∀ sn ∈ rest, sn.toNat / 65536 = base / 65536 + 1 ∧ sn.toNat < base + 32768) :
    (rest.foldl Packing.add p).nps = p.nps ∧ (rest.foldl Packing.add p).np.packetId = p.np.packetId := by
  induction rest generalizing p with
  | nil => exact ⟨rfl, rfl⟩
  | cons sn rest ih =>
      obtain ⟨wraps, near⟩ := beyond sn (List.mem_cons_self ..)
      have stay : ¬ sn.toUInt16 > p.np.packetId + 16 := by
        rw [toUInt16_eq, low, show (16 : UInt16) = UInt16.ofNat 16 from rfl, ofNat_add16, gt_iff_lt,
          ofNat_lt_ofNat16]
        omega
      obtain ⟨nps, np⟩ := add_stays (not_or.mpr ⟨nonzero, stay⟩)
      have same : (p.add sn).np.packetId = p.np.packetId := by rw [np]
      obtain ⟨kept, head⟩ := ih (same.trans low) (by rw [same]; exact nonzero)
        fun later among => beyond later (List.mem_cons_of_mem _ among)
      exact ⟨kept.trans nps, head.trans same⟩

/-- Everything denoted is the low half of a number from `first` to `last`. -/
def Covers (p : Packing) (first last : Nat) : Prop :=
  ∀ low ∈ p.denoted, ∃ n, low = UInt16.ofNat n ∧ first ≤ n ∧ n ≤ last

theorem Covers.add {p : Packing} {first last : Nat} {sn : UInt32} (covers : p.Covers first last)
    (from_first : first ≤ sn.toNat) (above : last < sn.toNat)
    (added : (p.add sn).denoted.Perm (p.denoted ++ [sn.toUInt16])) : (p.add sn).Covers first sn.toNat := by
  intro low among
  rcases List.mem_append.mp (added.mem_iff.mp among) with old | new
  · obtain ⟨n, low_eq, after_first, to_last⟩ := covers low old
    exact ⟨n, low_eq, after_first, by omega⟩
  · exact ⟨sn.toNat, (List.mem_singleton.mp new).trans (toUInt16_eq sn), from_first, le_refl _⟩

theorem mem_packetList {np : NackPair} {low : UInt16} (h : low ∈ np.packetList) :
    low = np.packetId ∨ ∃ i < 16, low = np.packetId + 1 + UInt16.ofNat i := by
  rcases List.mem_cons.mp h with rfl | bit
  · exact Or.inl rfl
  · obtain ⟨i, marked, rfl⟩ := List.mem_map.mp bit
    exact Or.inr ⟨i, List.mem_range.mp (List.mem_filter.mp marked).1, rfl⟩

theorem foldl_stuck_covers {p : Packing} {base last first : Nat} {rest : List UInt32}
    (at_base : p.At base last) (le : first ≤ base) (covers : p.Covers first last)
    (short : base % 65536 < 65520)
    (beyond : ∀ sn ∈ rest, sn.toNat / 65536 = base / 65536 + 1 ∧ sn.toNat < base + 32768) :
    (rest.foldl Packing.add p).Covers first (max last (base + 16)) := by
  obtain ⟨nps, head⟩ := foldl_stuck at_base.base_low at_base.nonzero short beyond
  intro low among
  rw [denoted, if_pos (by rw [head]; exact at_base.nonzero), List.flatMap_append, List.flatMap_singleton, nps,
    List.mem_append] at among
  rcases among with closed | opened
  · obtain ⟨n, same, from_first, to_last⟩ := covers low (by
      rw [at_base.denoted]
      exact List.mem_append_left _ closed)
    exact ⟨n, same, from_first, le_max_of_le_left to_last⟩
  · rcases mem_packetList opened with rfl | ⟨i, small, rfl⟩
    · exact ⟨base, head.trans at_base.base_low, le, le_max_of_le_right (by omega)⟩
    · refine ⟨base + 1 + i, ?_, by omega, le_max_of_le_right (by omega)⟩
      rw [head, at_base.base_low, show (1 : UInt16) = UInt16.ofNat 1 from rfl, ofNat_add16, ofNat_add16]

theorem foldl_misses {p : Packing} {base last first : Nat} {rest : List UInt32} (at_base : p.At base last)
    (from_first : first ≤ base) (covers : p.Covers first last) (ahead : Ahead first last rest)
    (misses : ¬ MeetsWraps base rest) :
    ∃ sn ∈ rest, sn.toUInt16 ∉ (rest.foldl Packing.add p).denoted := by
  induction rest generalizing p base last with
  | nil => exact absurd trivial misses
  | cons sn rest ih =>
      have above := ahead.above sn (List.mem_cons_self ..)
      have near := ahead.near sn (List.mem_cons_self ..)
      have le := at_base.le
      have ahead_base : Ahead base last (sn :: rest) :=
        ⟨ahead.ascending, ahead.above, fun later among => by have := ahead.near later among; omega⟩
      have short : base % 65536 < 65520 := by
        by_contra reaches
        exact misses (Safe.meetsWraps (Or.inr (by omega)) le ahead_base)
      by_cases same : sn.toNat / 65536 = base / 65536
      · have agree := groups_agree short same
        obtain ⟨base', moved, at_base', added⟩ := add_cases at_base above (by omega)
        have covers' := covers.add (by omega) above added
        have misses' : ¬ MeetsWraps base' rest := by
          intro meets
          refine misses ⟨fun wraps => absurd wraps (by omega), ?_⟩
          rcases moved with ⟨rfl, close⟩ | ⟨rfl, opens⟩
          · rwa [if_neg (by omega)]
          · rwa [if_pos (agree.mp opens)]
        obtain ⟨missed, among, absent⟩ := ih at_base' (by omega) covers' (ahead.tail (le_refl _)) misses'
        exact ⟨missed, List.mem_cons_of_mem _ among, absent⟩
      · refine ⟨sn, List.mem_cons_self .., fun denoted => ?_⟩
        have far : base + 16 < sn.toNat := by omega
        have beyond : ∀ later ∈ sn :: rest,
            later.toNat / 65536 = base / 65536 + 1 ∧ later.toNat < base + 32768 := by
          intro later among
          have close := ahead.near later among
          have after := ahead.head_le later among
          omega
        obtain ⟨n, low, after_first, before⟩ :=
          foldl_stuck_covers at_base from_first covers short beyond _ denoted
        rw [toUInt16_eq] at low
        have := ofNat_inj16_of_near (by omega) (by omega) low.symm
        omega

end Packing

/-- The condition on the selected numbers: the first has a non-zero low half, and
its groups meet the wraps between the numbers that follow. -/
def Packable : List UInt32 → Prop
  | [] => True
  | sn :: rest => sn.toUInt16 ≠ 0 ∧ Packing.MeetsWraps sn.toNat rest

/-- With a zero low half the first number is taken for no number at all. -/
theorem packing_drops_zero {p : Packing} {sn : UInt32} {rest : List UInt32} (fresh : p.denoted = [])
    (empty : p.np.packetId = 0) (zero : sn.toUInt16 = 0) (ahead : Packing.Ahead sn.toNat sn.toNat rest) :
    ((sn :: rest).foldl Packing.add p).denoted.length = rest.length := by
  obtain ⟨np, nps⟩ := Packing.add_starts (p := p) (.inl empty : _ ∨ sn.toUInt16 > _)
  rw [zero] at np
  rw [if_neg (not_not_intro empty)] at nps
  have nothing : (p.add sn).denoted = [] := by
    have closed : p.nps.flatMap NackPair.packetList = [] := by
      simpa only [Packing.denoted, empty, ne_eq, not_true_eq_false, if_false, List.append_nil] using fresh
    simp only [Packing.denoted, np, nps, ne_eq, not_true_eq_false, if_false, List.append_nil, closed]
  have low : sn.toNat % 65536 = 0 := by
    have := congrArg UInt16.toNat zero
    rwa [Packing.toUInt16_eq, toNat_ofNat16] at this
  cases rest with
  | nil =>
      rw [List.foldl_cons, List.foldl_nil, nothing]
      rfl
  | cons next rest =>
      have above := ahead.above next (List.mem_cons_self ..)
      have near := ahead.near next (List.mem_cons_self ..)
      have nonzero : next.toUInt16 ≠ 0 := by
        intro also
        have := congrArg UInt16.toNat also
        rw [Packing.toUInt16_eq, toNat_ofNat16] at this
        change next.toNat % 65536 = 0 at this
        omega
      obtain ⟨at_next, opened⟩ := Packing.add_open (Or.inl (congrArg NackPair.packetId np)) nonzero
      have later := ahead.tail (Nat.le_of_lt above)
      have safe : Packing.Safe next.toNat rest := by
        left
        intro after among
        have := later.above after among
        have := ahead.near after (List.mem_cons_of_mem _ among)
        omega
      have kept := (Packing.foldl_safe at_next later safe).length_eq
      rw [List.foldl_cons, List.foldl_cons, kept, opened, nothing, List.nil_append, List.singleton_append,
        List.length_cons, List.length_map, List.length_cons]

theorem packing_lossless_iff {p : Packing} {sns : List UInt32} (fresh : p.denoted = [])
    (empty : p.np.packetId = 0) (ascending : sns.Pairwise (· < ·))
    (near : ∀ a ∈ sns, ∀ b ∈ sns, b.toNat < a.toNat + 32768) :
    (sns.foldl Packing.add p).denoted.Perm (sns.map UInt32.toUInt16) ↔ Packable sns := by
  cases sns with
  | nil => exact ⟨fun _ => trivial, fun _ => fresh ▸ List.Perm.refl _⟩
  | cons sn rest =>
      obtain ⟨first, sorted⟩ := List.pairwise_cons.mp ascending
      have ahead : Packing.Ahead sn.toNat sn.toNat rest :=
        ⟨sorted, fun later among => UInt32.lt_iff_toNat_lt.mp (first later among),
          fun later among => near sn (List.mem_cons_self ..) later (List.mem_cons_of_mem _ among)⟩
      by_cases zero : sn.toUInt16 = 0
      · refine ⟨fun all => ?_, fun packable => absurd zero packable.1⟩
        have short := packing_drops_zero fresh empty zero ahead
        rw [all.length_eq, List.length_map, List.length_cons] at short
        omega
      · obtain ⟨at_sn, opened⟩ := Packing.add_open (Or.inl empty) zero
        rw [fresh, List.nil_append] at opened
        rw [List.foldl_cons, List.map_cons]
        refine ⟨fun all => ⟨zero, ?_⟩, fun packable => ?_⟩
        · by_contra misses
          have covers : (p.add sn).Covers sn.toNat sn.toNat := by
            intro low among
            rw [opened, List.mem_singleton] at among
            exact ⟨sn.toNat, among.trans (Packing.toUInt16_eq sn), le_refl _, le_refl _⟩
          obtain ⟨missed, among, absent⟩ := Packing.foldl_misses at_sn (le_refl _) covers ahead misses
          exact absent (all.mem_iff.mpr (List.mem_cons_of_mem _ (List.mem_map_of_mem among)))
        · have packed := Packing.foldl_meets at_sn ahead packable.2
          rwa [opened] at packed

/-- The numbers that the pairs of one round stand for. -/
def asked (q : NackQueue) (head : UInt32) : List UInt16 :=
  ((q.pairs head).2.1.getD []).flatMap NackPair.packetList

theorem asked_eq (q : NackQueue) (head : UInt32) :
    q.asked head =
      ((q.selected head).foldl Packing.add { keyFrameSeqNumber := q.keyFrameSeqNumber }).denoted := by
  obtain ⟨ask, key, packed⟩ := pairsLoop_packing head q.nacks { keyFrameSeqNumber := q.keyFrameSeqNumber }
  unfold asked pairs
  by_cases none : q.nacks = []
  · simp only [none, List.isEmpty_nil, if_true, Option.getD_none, List.flatMap_nil, selected, List.filter_nil,
      List.map_nil, List.foldl_nil]
    rfl
  · have some : q.nacks.isEmpty = false := List.isEmpty_eq_false_iff.mpr none
    simp only [some, Bool.false_eq_true, if_false, Option.getD_some, packed, selected]
    unfold Packing.denoted
    split
    · rfl
    · rw [List.append_nil]

theorem asked_perm_iff {q : NackQueue} {head : UInt32} (reachable : Reachable q)
    (below : ∀ v ∈ q.nacks, v.seqNumber < head ∧ head.toNat < v.seqNumber.toNat + 2 ^ 15) :
    (q.asked head).Perm ((q.selected head).map UInt32.toUInt16) ↔ Packable (q.selected head) := by
  rw [asked_eq]
  have chosen : ∀ sn ∈ q.selected head, sn.toNat < head.toNat ∧ head.toNat < sn.toNat + 2 ^ 15 := by
    intro sn among
    obtain ⟨v, kept, rfl⟩ := List.mem_map.mp among
    obtain ⟨before, near⟩ := below v (List.mem_filter.mp kept).1
    exact ⟨UInt32.lt_iff_toNat_lt.mp before, near⟩
  refine packing_lossless_iff rfl rfl ?_ ?_
  · have sorted := reachable.ordered.sublist (List.filter_sublist (p := fun v => decide (Selects head v)))
    exact List.pairwise_map.mpr sorted
  · intro a among_a b among_b
    have := chosen a among_a
    have := chosen b among_b
    omega

def wrapQueue : NackQueue := (({} : NackQueue).push 65535).push 65537

theorem asked_perm_iff_wrapQueue :
    (wrapQueue.asked 65545).Perm ((wrapQueue.selected 65545).map UInt32.toUInt16) ↔
      Packable (wrapQueue.selected 65545) :=
  asked_perm_iff (.push _ (.push _ .new)) (by decide +kernel)

/-- A missing number with a zero low half is asked for by no pair. -/
theorem asked_drops_zero :
    let q := ({} : NackQueue).push 65536
    Reachable q ∧ (2 : UInt32) ≤ 65545 ∧
      (∀ v ∈ q.nacks, v.seqNumber < 65545 ∧ (65545 : UInt32).toNat < v.seqNumber.toNat + 2 ^ 15) ∧
      ¬ (q.asked 65545).Perm ((q.selected 65545).map UInt32.toUInt16) := by
  refine ⟨.push _ .new, by decide, by decide +kernel, by decide +kernel⟩

end NackQueue

end Rsfu
