import Rsfu.NackMap
import Mathlib.Order.Bounds.Defs

/-! How often a missing number is asked for, and when the queue gives up on it.
Each stay of a number in the queue sees at most three selections; the round after
the third drops the number, and a dropped number above all earlier ones asks for
a key frame. -/
namespace Rsfu
open SortedSlice

namespace NackQueue

/-- A round of `pairs` selects a number: its count goes up by one. -/
def CountsUp (q : NackQueue) (head sn : UInt32) : Prop :=
  (q.counts sn).isSome ∧ (q.serve (.pairs head)).counts sn = (q.counts sn).map (· + 1)

instance (q : NackQueue) (head sn : UInt32) : Decidable (q.CountsUp head sn) :=
  inferInstanceAs (Decidable (_ ∧ _))

/-- The numbers a round of `pairs` drops. -/
def expired (q : NackQueue) (head : UInt32) : List UInt32 :=
  q.numbers.filter fun sn => sn ∉ (q.serve (.pairs head)).numbers

theorem numbers_counts {q : NackQueue} (sn : UInt32) : sn ∈ q.numbers ↔ (q.counts sn).isSome := by
  rw [counts, Option.isSome_map, ← not_iff_not, Option.not_isSome_iff_eq_none, entry_eq_none_iff, numbers,
    List.mem_map]
  constructor
  · intro absent v among same
    exact absent ⟨v, among, same⟩
  · rintro other ⟨v, among, same⟩
    exact other v among same

theorem counts_of_mem {q : NackQueue} {sn : UInt32} (queued : sn ∈ q.numbers) :
    ∃ count, q.counts sn = some count :=
  Option.isSome_iff_exists.mp ((numbers_counts sn).mp queued)

theorem counts_round {q : NackQueue} (ordered : q.Ordered) {head : UInt32} (two : 2 ≤ head) :
    (q.serve (.pairs head)).counts = q.counts.pairs head := by
  rw [serve, pairsIndexed_eq]
  exact counts_pairs ordered two

theorem countsUp_iff {q : NackQueue} (ordered : q.Ordered) {head : UInt32} (two : 2 ≤ head) (sn : UInt32) :
    q.CountsUp head sn ↔
      ∃ count, q.counts sn = some count ∧ count < maxNackTimes.toNat ∧ sn.toNat < head.toNat - 2 := by
  rw [CountsUp, counts_round ordered two, NackCounts.pairs]
  cases q.counts sn with
  | none => simp only [Option.isSome_none, Bool.false_eq_true, false_and, reduceCtorEq, exists_const]
  | some count =>
      have still : count ≠ count + 1 := by omega
      simp only [Option.isSome_some, true_and, Option.map_some, Option.some.injEq, exists_eq_left']
      split
      · rename_i worn
        simp only [reduceCtorEq, Nat.not_lt.mpr worn, false_and]
      · rename_i fresh
        split
        · rename_i low
          simp only [low, Nat.not_le.mp fresh, and_self]
        · rename_i young
          simp only [Option.some.injEq, still, young, and_false]

/-- A round drops exactly the queued numbers that were selected often enough. -/
theorem expired_iff {q : NackQueue} (ordered : q.Ordered) {head : UInt32} (two : 2 ≤ head) (sn : UInt32) :
    sn ∈ q.expired head ↔ ∃ count, q.counts sn = some count ∧ maxNackTimes.toNat ≤ count := by
  rw [expired, List.mem_filter, decide_eq_true_eq, numbers_counts, numbers_counts, counts_round ordered two,
    NackCounts.pairs]
  cases q.counts sn with
  | none => simp only [Option.isSome_none, Bool.false_eq_true, false_and, reduceCtorEq, exists_const]
  | some count =>
      simp only [Option.isSome_some, true_and, Option.some.injEq, exists_eq_left']
      split
      · rename_i worn
        simp only [Option.isSome_none, Bool.false_eq_true, not_false_eq_true, worn]
      · rename_i fresh
        split <;> simp only [Option.isSome_some, not_true_eq_false, fresh]

theorem expired_nodup {q : NackQueue} (ordered : q.Ordered) (head : UInt32) : (q.expired head).Nodup := by
  have sorted : q.numbers.Pairwise (· < ·) := List.pairwise_map.mpr ordered
  exact (sorted.imp fun below => UInt32.ne_of_lt below).filter _

/-- The key frame fields after the walk, from the entries it drops. -/
structure Escalated (dropped : List UInt32) (before after : Packing) : Prop where
  asks : after.askKeyFrame = true ↔
    before.askKeyFrame = true ∨ ∃ sn ∈ dropped, before.keyFrameSeqNumber < sn
  grows : before.keyFrameSeqNumber ≤ after.keyFrameSeqNumber
  bound : ∀ sn ∈ dropped, sn ≤ after.keyFrameSeqNumber
  reached : after.keyFrameSeqNumber = before.keyFrameSeqNumber ∨ after.keyFrameSeqNumber ∈ dropped

theorem Packing.add_keyFrame (p : Packing) (sn : UInt32) :
    (p.add sn).askKeyFrame = p.askKeyFrame ∧ (p.add sn).keyFrameSeqNumber = p.keyFrameSeqNumber := by
  unfold Packing.add
  by_cases fresh : p.np.packetId = 0 ∨ sn.toUInt16 > p.np.packetId + 16
  · rw [if_pos fresh]
    exact ⟨rfl, rfl⟩
  · rw [if_neg fresh]
    exact ⟨rfl, rfl⟩

theorem pairsLoop_escalated (head : UInt32) (nacks : List Nack) (p : Packing) :
    Escalated ((nacks.filter fun v => maxNackTimes ≤ v.nackd).map Nack.seqNumber) p
      (pairsLoop head nacks p).2 := by
  induction nacks generalizing p with
  | nil => exact ⟨by simp [pairsLoop], UInt32.le_refl _, by simp, Or.inl rfl⟩
  | cons v rest ih =>
      unfold pairsLoop
      by_cases worn : maxNackTimes ≤ v.nackd
      · rw [if_pos worn, List.filter_cons_of_pos (by simpa using worn), List.map_cons]
        by_cases above : p.keyFrameSeqNumber < v.seqNumber
        · rw [if_pos above]
          have later := ih { p with keyFrameSeqNumber := v.seqNumber, askKeyFrame := true }
          refine ⟨?_, UInt32.le_trans (UInt32.le_of_lt above) later.grows, ?_, ?_⟩
          · rw [later.asks]
            exact ⟨fun _ => Or.inr ⟨v.seqNumber, List.mem_cons_self .., above⟩, fun _ => Or.inl rfl⟩
          · intro sn among
            rcases List.mem_cons.mp among with rfl | among
            · exact later.grows
            · exact later.bound sn among
          · rcases later.reached with same | among
            · exact Or.inr (same ▸ List.mem_cons_self ..)
            · exact Or.inr (List.mem_cons_of_mem _ among)
        · rw [if_neg above]
          have later := ih p
          refine ⟨?_, later.grows, ?_, later.reached.imp_right (List.mem_cons_of_mem _)⟩
          · rw [later.asks, List.exists_mem_cons_iff, or_iff_right above]
          · intro sn among
            rcases List.mem_cons.mp among with rfl | among
            · exact UInt32.le_trans (UInt32.not_lt.mp above) later.grows
            · exact later.bound sn among
      · rw [if_neg worn, List.filter_cons_of_neg (by simpa using worn)]
        by_cases young : head - 2 ≤ v.seqNumber
        · rw [if_pos young]
          exact ih p
        · rw [if_neg young]
          obtain ⟨asks, grows, bound, reached⟩ := ih (p.add v.seqNumber)
          rw [(p.add_keyFrame v.seqNumber).1, (p.add_keyFrame v.seqNumber).2] at asks
          rw [(p.add_keyFrame v.seqNumber).2] at grows reached
          exact ⟨asks, grows, bound, reached⟩

theorem worn_numbers {q : NackQueue} (ordered : q.Ordered) {head : UInt32} (two : 2 ≤ head) (sn : UInt32) :
    sn ∈ (q.nacks.filter fun v => maxNackTimes ≤ v.nackd).map Nack.seqNumber ↔ sn ∈ q.expired head := by
  rw [expired_iff ordered two, List.mem_map]
  simp only [counts, Option.map_eq_some_iff, entry_eq_some_iff ordered, List.mem_filter, decide_eq_true_eq]
  constructor
  · rintro ⟨v, ⟨among, worn⟩, same⟩
    exact ⟨_, ⟨v, ⟨among, same⟩, rfl⟩, UInt8.le_iff_toNat_le.mp worn⟩
  · rintro ⟨_, ⟨v, ⟨among, same⟩, rfl⟩, worn⟩
    exact ⟨v, ⟨among, UInt8.le_iff_toNat_le.mpr worn⟩, same⟩

/-- What a round of `pairs` does to the key frame number, and when it asks for one. -/
structure Watermark (q : NackQueue) (head : UInt32) : Prop where
  asks : (q.pairsIndexed head).2.2 = true ↔ ∃ sn ∈ q.expired head, q.keyFrameSeqNumber < sn
  grows : q.keyFrameSeqNumber ≤ (q.serve (.pairs head)).keyFrameSeqNumber
  bound : ∀ sn ∈ q.expired head, sn ≤ (q.serve (.pairs head)).keyFrameSeqNumber
  reached : (q.serve (.pairs head)).keyFrameSeqNumber = q.keyFrameSeqNumber ∨
    (q.serve (.pairs head)).keyFrameSeqNumber ∈ q.expired head

theorem watermark {q : NackQueue} (ordered : q.Ordered) {head : UInt32} (two : 2 ≤ head) :
    q.Watermark head := by
  have worn := worn_numbers ordered two
  by_cases empty : q.nacks.isEmpty
  · have none_left : q.expired head = [] := by
      have nothing : q.numbers = [] := by rw [numbers, List.isEmpty_iff.mp empty, List.map_nil]
      rw [expired, nothing, List.filter_nil]
    have same : q.pairsIndexed head = (q, none, false) := by rw [pairsIndexed, if_pos empty]
    constructor
    · simp only [same, none_left, Bool.false_eq_true, List.not_mem_nil, false_and, exists_false]
    · rw [serve, same]
      exact UInt32.le_refl _
    · simp only [none_left, List.not_mem_nil, false_implies, implies_true]
    · rw [serve, same]
      exact Or.inl rfl
  · have walked := pairsLoop_escalated head q.nacks { keyFrameSeqNumber := q.keyFrameSeqNumber }
    have asked : (q.pairsIndexed head).2.2 =
        (pairsLoop head q.nacks { keyFrameSeqNumber := q.keyFrameSeqNumber }).2.askKeyFrame := by
      rw [pairsIndexed_eq, pairs, if_neg empty]
    have moved : (q.serve (.pairs head)).keyFrameSeqNumber =
        (pairsLoop head q.nacks { keyFrameSeqNumber := q.keyFrameSeqNumber }).2.keyFrameSeqNumber := by
      rw [serve, pairsIndexed_eq, pairs, if_neg empty]
    constructor
    · rw [asked, walked.asks, or_iff_right Bool.false_ne_true]
      simp only [worn]
    · rw [moved]
      exact walked.grows
    · intro sn among
      rw [moved]
      exact walked.bound sn ((worn sn).mpr among)
    · rw [moved]
      exact walked.reached.imp_right (worn _).mp

theorem push_keyFrame (q : NackQueue) (sn : UInt32) : (q.push sn).keyFrameSeqNumber = q.keyFrameSeqNumber := by
  unfold push
  cases binarySearchByKey q.nacks sn Nack.seqNumber <;> rfl

theorem remove_keyFrame (q : NackQueue) (sn : UInt32) :
    (q.remove sn).1.keyFrameSeqNumber = q.keyFrameSeqNumber := by
  unfold remove
  cases binarySearchByKey q.nacks sn Nack.seqNumber <;> rfl

end NackQueue

/-- A queue next to a record of its past. -/
structure Retries where
  queue : NackQueue := {}
  /-- How many rounds selected a number during its latest stay. -/
  selections : UInt32 → Nat := fun _ => 0
  /-- Every number a round dropped. -/
  dropped : List UInt32 := []
  /-- The dropped numbers that asked for a key frame. -/
  triggers : List UInt32 := []

namespace Retries

def serve (r : Retries) : QueueCall → Retries
  | .push sn =>
      { r with
        queue := r.queue.serve (.push sn)
        -- a number that is not queued begins a new stay
        selections := if sn ∈ r.queue.numbers then r.selections else Function.update r.selections sn 0 }
  | .remove sn => { r with queue := r.queue.serve (.remove sn) }
  | .pairs head =>
      { queue := r.queue.serve (.pairs head)
        selections := fun sn => r.selections sn + if r.queue.CountsUp head sn then 1 else 0
        dropped := r.dropped ++ r.queue.expired head
        triggers := r.triggers ++ (r.queue.expired head).filter (r.queue.keyFrameSeqNumber < ·) }

theorem serve_queue (r : Retries) (c : QueueCall) : (r.serve c).queue = r.queue.serve c := by
  cases c <;> rfl

/-- The record agrees with the counters the queue keeps. -/
structure Faithful (r : Retries) : Prop where
  ordered : r.queue.Ordered
  counted : ∀ sn count, r.queue.counts sn = some count → r.selections sn = count
  few : ∀ sn, r.selections sn ≤ maxNackTimes.toNat
  bound : ∀ sn ∈ r.dropped, sn ≤ r.queue.keyFrameSeqNumber
  reached : r.queue.keyFrameSeqNumber = 0 ∨ r.queue.keyFrameSeqNumber ∈ r.dropped
  passed : ∀ sn ∈ r.triggers, sn ≤ r.queue.keyFrameSeqNumber
  once : r.triggers.Nodup

theorem faithful_new : Faithful {} where
  ordered := List.Pairwise.nil
  counted := by
    intro sn count known
    cases known
  few := fun _ => Nat.zero_le _
  bound := by
    intro sn among
    cases among
  reached := Or.inl rfl
  passed := by
    intro sn among
    cases among
  once := List.nodup_nil

/-- Only a round moves the key frame number, and only it drops numbers. -/
theorem Faithful.marked {r r' : Retries} (f : r.Faithful)
    (kept : r'.queue.keyFrameSeqNumber = r.queue.keyFrameSeqNumber) (dropped : r'.dropped = r.dropped)
    (triggers : r'.triggers = r.triggers) (ordered : r'.queue.Ordered)
    (counted : ∀ sn count, r'.queue.counts sn = some count → r'.selections sn = count)
    (few : ∀ sn, r'.selections sn ≤ maxNackTimes.toNat) : r'.Faithful := by
  refine ⟨ordered, counted, few, ?_, ?_, ?_, ?_⟩
  · rw [kept, dropped]
    exact f.bound
  · rw [kept, dropped]
    exact f.reached
  · rw [kept, triggers]
    exact f.passed
  · rw [triggers]
    exact f.once

theorem push_faithful {r : Retries} (f : r.Faithful) (sn : UInt32) : (r.serve (.push sn)).Faithful := by
  have known (k : UInt32) : (r.serve (.push sn)).queue.counts k = r.queue.counts.push sn k :=
    congrFun (NackQueue.counts_push f.ordered sn) k
  refine f.marked (NackQueue.push_keyFrame r.queue sn) rfl rfl ?_ ?_ ?_
  · exact NackQueue.push_ordered f.ordered sn
  · intro k count counted
    rw [known, NackCounts.push] at counted
    by_cases queued : sn ∈ r.queue.numbers
    · obtain ⟨before, at_sn⟩ := NackQueue.counts_of_mem queued
      rw [at_sn, Option.getD_some, ← at_sn, Function.update_eq_self] at counted
      simpa only [serve, if_pos queued] using f.counted k count counted
    · have absent : r.queue.counts sn = none := by
        rw [NackQueue.numbers_counts, Option.not_isSome_iff_eq_none] at queued
        exact queued
      simp only [serve, if_neg queued]
      by_cases same : k = sn
      · subst same
        rw [Function.update_self, absent, Option.getD_none, Option.some.injEq] at counted
        rw [Function.update_self, counted]
      · rw [Function.update_of_ne same] at counted
        rw [Function.update_of_ne same]
        exact f.counted k count counted
  · intro k
    simp only [serve]
    split
    · exact f.few k
    · by_cases same : k = sn
      · rw [same, Function.update_self]
        exact Nat.zero_le _
      · rw [Function.update_of_ne same]
        exact f.few k

theorem remove_faithful {r : Retries} (f : r.Faithful) (sn : UInt32) : (r.serve (.remove sn)).Faithful := by
  refine f.marked (NackQueue.remove_keyFrame r.queue sn) rfl rfl ?_ ?_ ?_
  · exact NackQueue.remove_ordered f.ordered sn
  · intro k count counted
    have known : (r.serve (.remove sn)).queue.counts k = r.queue.counts.remove sn k :=
      congrFun (NackQueue.counts_remove f.ordered sn) k
    rw [known, NackCounts.remove] at counted
    by_cases same : k = sn
    · rw [same, Function.update_self] at counted
      cases counted
    · rw [Function.update_of_ne same] at counted
      exact f.counted k count counted
  · exact f.few

theorem pairs_faithful {r : Retries} (f : r.Faithful) {head : UInt32} (two : 2 ≤ head) :
    (r.serve (.pairs head)).Faithful := by
  have mark := NackQueue.watermark f.ordered two
  have up (k : UInt32) := NackQueue.countsUp_iff f.ordered two k
  constructor
  · rw [serve_queue, NackQueue.serve, NackQueue.pairsIndexed_eq]
    exact NackQueue.pairs_ordered f.ordered head
  · intro k count counted
    rw [serve_queue, NackQueue.counts_round f.ordered two, NackCounts.pairs] at counted
    simp only [serve, up]
    cases known : r.queue.counts k with
    | none =>
        rw [known] at counted
        cases counted
    | some before =>
        rw [known] at counted
        simp only [Option.some.injEq, exists_eq_left', f.counted k before known] at counted ⊢
        split at counted
        · cases counted
        · rename_i fresh
          split at counted
          · rename_i low
            rw [if_pos ⟨Nat.not_le.mp fresh, low⟩]
            exact Option.some.inj counted
          · rename_i young
            rw [if_neg fun both => young both.2]
            exact Option.some.inj counted
  · intro k
    simp only [serve, up]
    split
    · rename_i selected
      obtain ⟨count, known, below, -⟩ := selected
      rw [f.counted k count known]
      exact below
    · exact f.few k
  · intro k among
    rcases List.mem_append.mp among with old | new
    · exact UInt32.le_trans (f.bound k old) mark.grows
    · exact mark.bound k new
  · rcases mark.reached with same | among
    · rcases f.reached with zero | old
      · exact Or.inl (same.trans zero)
      · exact Or.inr (List.mem_append_left _ (same ▸ old))
    · exact Or.inr (List.mem_append_right _ among)
  · intro k among
    rcases List.mem_append.mp among with old | new
    · exact UInt32.le_trans (f.passed k old) mark.grows
    · exact mark.bound k (List.mem_filter.mp new).1
  · have fresh := (NackQueue.expired_nodup f.ordered head).filter (r.queue.keyFrameSeqNumber < ·)
    refine List.nodup_append.mpr ⟨f.once, fresh, ?_⟩
    rintro k old _ new rfl
    have above := of_decide_eq_true (List.mem_filter.mp new).2
    exact UInt32.not_le.mpr above (f.passed k old)

theorem serve_faithful {r : Retries} (f : r.Faithful) {c : QueueCall} (proper : c.Proper) :
    (r.serve c).Faithful := by
  cases c with
  | push sn => exact push_faithful f sn
  | remove sn => exact remove_faithful f sn
  | pairs head => exact pairs_faithful f proper

theorem run_faithful {r : Retries} (f : r.Faithful) {calls : List QueueCall} (proper : ∀ c ∈ calls, c.Proper) :
    (calls.foldl serve r).Faithful := by
  induction calls generalizing r with
  | nil => exact f
  | cons c rest ih =>
      rw [List.foldl_cons]
      apply ih (serve_faithful f (proper c (List.mem_cons_self ..)))
      intro later among
      exact proper later (List.mem_cons_of_mem _ among)

theorem serve_grows {r : Retries} (f : r.Faithful) {c : QueueCall} (proper : c.Proper) :
    r.queue.keyFrameSeqNumber ≤ (r.queue.serve c).keyFrameSeqNumber := by
  cases c with
  | push sn => exact UInt32.le_of_eq (NackQueue.push_keyFrame r.queue sn).symm
  | remove sn => exact UInt32.le_of_eq (NackQueue.remove_keyFrame r.queue sn).symm
  | pairs head => exact (NackQueue.watermark f.ordered proper).grows

theorem nack_escalation (calls : List QueueCall) (proper : ∀ c ∈ calls, c.Proper) :
    let r : Retries := calls.foldl serve {}
    let kf := r.queue.keyFrameSeqNumber
    r.queue = calls.foldl NackQueue.serve {} ∧
    (∀ sn, r.selections sn ≤ maxNackTimes.toNat) ∧
    (∀ head, 2 ≤ head → ∀ sn ∈ r.queue.numbers,
      (sn ∈ r.queue.expired head ↔ r.selections sn = maxNackTimes.toNat)) ∧
    (∀ head, 2 ≤ head → ((r.queue.pairsIndexed head).2.2 = true ↔ ∃ sn ∈ r.queue.expired head, kf < sn)) ∧
    (∀ c : QueueCall, c.Proper → kf ≤ (r.queue.serve c).keyFrameSeqNumber) ∧
    IsGreatest {n | n = 0 ∨ n ∈ r.dropped} kf ∧ r.triggers.Nodup := by
  intro r kf
  have f : r.Faithful := run_faithful faithful_new proper
  refine ⟨?_, f.few, ?_, fun head two => (NackQueue.watermark f.ordered two).asks,
    fun c ok => serve_grows f ok, ⟨f.reached, ?_⟩, f.once⟩
  · exact (List.foldl_hom Retries.queue fun before c => (serve_queue before c).symm).symm
  · intro head two sn queued
    obtain ⟨count, known⟩ := NackQueue.counts_of_mem queued
    have most := f.few sn
    rw [NackQueue.expired_iff f.ordered two, known, f.counted sn count known]
    rw [f.counted sn count known] at most
    simp only [Option.some.injEq, exists_eq_left']
    exact ⟨Nat.le_antisymm most, Nat.le_of_eq ∘ Eq.symm⟩
  · rintro n (rfl | among)
    · exact UInt32.le_iff_toNat_le.mpr (Nat.zero_le _)
    · exact f.bound n among

theorem nack_escalation_round :
    let calls : List QueueCall := [.push 2, .pairs 9, .pairs 9, .pairs 9, .pairs 9, .push 2]
    (∀ c ∈ calls, c.Proper) ∧ (calls.foldl serve {}).triggers.Nodup := by
  intro calls
  have proper : ∀ c ∈ calls, c.Proper := by
    intro c among
    simp only [calls, List.mem_cons, List.not_mem_nil, or_false] at among
    rcases among with rfl | rfl | rfl | rfl | rfl | rfl
    · trivial
    all_goals first | trivial | exact (by decide : (2 : UInt32) ≤ 9)
  exact ⟨proper, (nack_escalation calls proper).2.2.2.2.2.2⟩

end Retries

end Rsfu
