import Rsfu.NackPacking
import Rsfu.SortedMap

/-! The queue of missing numbers as a finite map. The walk of `pairs` removes
entries under its own index; it visits each entry once, so on a sorted queue every
operation is one on the map from a number to how often it was asked for. -/
namespace Rsfu
open SortedSlice

namespace NackQueue

/-- The walk as the code writes it: an index into a vector that shrinks under it. -/
def pairsFrom (headSeqNumber : UInt32) (nacks : List Nack) (idx : Nat) (p : Packing) :
    List Nack × Packing :=
  match here : nacks[idx]? with
  | none => (nacks, p)
  | some v =>
      if maxNackTimes ≤ v.nackd then
        let p := if p.keyFrameSeqNumber < v.seqNumber then
          { p with keyFrameSeqNumber := v.seqNumber, askKeyFrame := true } else p
        -- the next entry has moved to this index
        pairsFrom headSeqNumber (nacks.eraseIdx idx) idx p
      else if headSeqNumber - 2 ≤ v.seqNumber then
        pairsFrom headSeqNumber nacks (idx + 1) p
      else
        pairsFrom headSeqNumber (nacks.set idx { v with nackd := v.nackd + 1 }) (idx + 1) (p.add v.seqNumber)
termination_by nacks.length - idx
decreasing_by
  all_goals have inside : idx < nacks.length := (List.getElem?_eq_some_iff.mp here).1
  · rw [List.length_eraseIdx_of_lt inside]
    omega
  · omega
  · rw [List.length_set]
    omega

/-- The entries before the index are done with, the ones from it on are those still to visit. -/
theorem pairsFrom_eq (head : UInt32) (visited rest : List Nack) (p : Packing) :
    pairsFrom head (visited ++ rest) visited.length p =
      (visited ++ (pairsLoop head rest p).1, (pairsLoop head rest p).2) := by
  induction rest generalizing visited p with
  | nil =>
      rw [pairsFrom, pairsLoop]
      split
      · rfl
      · rename_i v here
        rw [List.append_nil, List.getElem?_length] at here
        cases here
  | cons v rest ih =>
      have step (w : Nack) (p : Packing) := ih (visited ++ [w]) p
      simp only [List.append_assoc, List.singleton_append, List.length_append, List.length_cons,
        List.length_nil, Nat.zero_add] at step
      rw [pairsFrom]
      split
      · rename_i here
        rw [List.getElem?_append_right (Nat.le_refl _), Nat.sub_self] at here
        cases here
      · rename_i w here
        rw [List.getElem?_append_right (Nat.le_refl _), Nat.sub_self, List.getElem?_cons_zero,
          Option.some.injEq] at here
        subst here
        rw [List.eraseIdx_append_of_length_le (Nat.le_refl _), Nat.sub_self, List.eraseIdx_zero, List.tail_cons,
          List.set_append_right _ _ (Nat.le_refl _), Nat.sub_self, List.set_cons_zero]
        unfold pairsLoop
        split
        · exact ih visited _
        · split
          · exact step v p
          · exact step _ _

/-- `pairs` with the indexed walk. -/
def pairsIndexed (q : NackQueue) (headSeqNumber : UInt32) : NackQueue × Option (List NackPair) × Bool :=
  if q.nacks.isEmpty then (q, none, false)
  else
    let (kept, p) := pairsFrom headSeqNumber q.nacks 0 { keyFrameSeqNumber := q.keyFrameSeqNumber }
    let nps := if p.np.packetId ≠ 0 then p.nps ++ [p.np] else p.nps
    ({ nacks := kept, keyFrameSeqNumber := p.keyFrameSeqNumber }, some nps, p.askKeyFrame)

theorem pairsIndexed_eq (q : NackQueue) (head : UInt32) : q.pairsIndexed head = q.pairs head := by
  have walk := pairsFrom_eq head [] q.nacks { keyFrameSeqNumber := q.keyFrameSeqNumber }
  rw [List.nil_append, List.nil_append, List.length_nil] at walk
  simp only [pairsIndexed, pairs, walk]

/-- What a round of `pairs` does to one entry. -/
def age (head : UInt32) (v : Nack) : Option Nack :=
  if maxNackTimes ≤ v.nackd then none
  else if head - 2 ≤ v.seqNumber then some v
  else some { v with nackd := v.nackd + 1 }

theorem age_seqNumber {head : UInt32} {v w : Nack} (aged : age head v = some w) :
    w.seqNumber = v.seqNumber := by
  unfold age at aged
  split at aged
  · cases aged
  · split at aged
    · cases aged
      rfl
    · cases aged
      rfl

theorem pairsLoop_nacks (head : UInt32) (nacks : List Nack) (p : Packing) :
    (pairsLoop head nacks p).1 = nacks.filterMap (age head) := by
  induction nacks generalizing p with
  | nil => rfl
  | cons v rest ih =>
      unfold pairsLoop
      rw [List.filterMap_cons]
      unfold age
      by_cases worn : maxNackTimes ≤ v.nackd
      · rw [if_pos worn, if_pos worn]
        exact ih _
      · rw [if_neg worn, if_neg worn]
        by_cases young : head - 2 ≤ v.seqNumber
        · rw [if_pos young, if_pos young]
          exact congrArg (v :: ·) (ih p)
        · rw [if_neg young, if_neg young]
          exact congrArg (_ :: ·) (ih (p.add v.seqNumber))

theorem pairs_nacks (q : NackQueue) (head : UInt32) : (q.pairs head).1.nacks = q.nacks.filterMap (age head) := by
  unfold pairs
  split
  · rename_i empty
    rw [List.isEmpty_iff.mp empty]
    rfl
  · exact pairsLoop_nacks head q.nacks _

end NackQueue

/-- How often each missing number was asked for. -/
abbrev NackCounts := UInt32 → Option Nat

namespace NackCounts

def push (m : NackCounts) (sn : UInt32) : NackCounts := Function.update m sn (some ((m sn).getD 0))

def remove (m : NackCounts) (sn : UInt32) : NackCounts := Function.update m sn none

def pairs (m : NackCounts) (head : UInt32) : NackCounts := fun sn =>
  match m sn with
  | none => none
  | some count =>
      if maxNackTimes.toNat ≤ count then none
      else if sn.toNat < head.toNat - 2 then some (count + 1)
      else some count

end NackCounts

inductive QueueCall where
  | push (sn : UInt32)
  | remove (sn : UInt32)
  | pairs (head : UInt32)

/-- A round of `pairs` comes with a head of at least two. -/
def QueueCall.Proper : QueueCall → Prop
  | .pairs head => 2 ≤ head
  | _ => True

def NackQueue.serve (q : NackQueue) : QueueCall → NackQueue
  | .push sn => q.push sn
  | .remove sn => (q.remove sn).1
  | .pairs head => (q.pairsIndexed head).1

def NackCounts.serve (m : NackCounts) : QueueCall → NackCounts
  | .push sn => m.push sn
  | .remove sn => m.remove sn
  | .pairs head => m.pairs head

namespace NackQueue

/-- The map a queue stands for. -/
def counts (q : NackQueue) : NackCounts := fun sn =>
  (entry q.nacks sn Nack.seqNumber).map fun v => v.nackd.toNat

theorem counts_push {q : NackQueue} (ordered : q.Ordered) (sn : UInt32) : (q.push sn).counts = q.counts.push sn := by
  funext k
  rw [counts, push_nacks, entry_insert ordered, NackCounts.push]
  by_cases same : k = sn
  · subst same
    rw [if_pos rfl, Function.update_self, counts]
    cases entry q.nacks k Nack.seqNumber <;> rfl
  · rw [if_neg (Ne.symm same), Function.update_of_ne same, counts]

theorem counts_remove {q : NackQueue} (ordered : q.Ordered) (sn : UInt32) :
    (q.remove sn).1.counts = q.counts.remove sn := by
  funext k
  rw [counts, remove_nacks, entry_erase ordered, NackCounts.remove]
  by_cases same : k = sn
  · subst same
    rw [if_pos rfl, Function.update_self]
    rfl
  · rw [if_neg same, Function.update_of_ne same, counts]

/-- `remove` answers the entry of the number. -/
theorem remove_answer {q : NackQueue} (ordered : q.Ordered) (sn : UInt32) :
    (q.remove sn).2.map (fun v => (v.seqNumber, v.nackd.toNat)) = (q.counts sn).map fun count => (sn, count) := by
  have found : (q.remove sn).2 = entry q.nacks sn Nack.seqNumber := by
    rw [search_entry ordered, remove]
    cases binarySearchByKey q.nacks sn Nack.seqNumber <;> rfl
  rw [found, counts]
  cases known : entry q.nacks sn Nack.seqNumber with
  | none => rfl
  | some v =>
      obtain ⟨-, same⟩ := (entry_eq_some_iff ordered sn v).mp known
      rw [Option.map_some, Option.map_some, Option.map_some, same]

theorem counts_pairs {q : NackQueue} (ordered : q.Ordered) {head : UInt32} (two : 2 ≤ head) :
    (q.pairs head).1.counts = q.counts.pairs head := by
  funext k
  have keeps (v w : Nack) (aged : age head v = some w) : w.seqNumber = v.seqNumber := age_seqNumber aged
  rw [counts, pairs_nacks, entry_filterMap (age head) keeps ordered, NackCounts.pairs, counts]
  cases known : entry q.nacks k Nack.seqNumber with
  | none => rfl
  | some v =>
      obtain ⟨-, rfl⟩ := (entry_eq_some_iff ordered k v).mp known
      have low : (head - 2).toNat = head.toNat - 2 := UInt32.toNat_sub_of_le head 2 two
      simp only [Option.bind_some, Option.map_some, age]
      by_cases worn : maxNackTimes ≤ v.nackd
      · rw [if_pos worn, if_pos (UInt8.le_iff_toNat_le.mp worn)]
        rfl
      · rw [if_neg worn, if_neg (mt UInt8.le_iff_toNat_le.mpr worn)]
        by_cases young : head - 2 ≤ v.seqNumber
        · have above := UInt32.le_iff_toNat_le.mp young
          rw [if_pos young, if_neg (by omega)]
          rfl
        · have below := UInt32.lt_iff_toNat_lt.mp (UInt32.not_le.mp young)
          rw [if_neg young, if_pos (by omega), Option.map_some]
          have few : v.nackd.toNat < 3 := UInt8.lt_iff_toNat_lt.mp (UInt8.not_le.mp worn)
          have more : (v.nackd + 1).toNat = v.nackd.toNat + 1 := by
            rw [UInt8.toNat_add]
            exact Nat.mod_eq_of_lt (by change v.nackd.toNat + 1 < 256; omega)
          rw [more]

theorem serve_refines {q : NackQueue} {c : QueueCall} (ordered : q.Ordered) (proper : c.Proper) :
    (q.serve c).Ordered ∧ (q.serve c).counts = q.counts.serve c := by
  cases c with
  | push sn => exact ⟨push_ordered ordered sn, counts_push ordered sn⟩
  | remove sn => exact ⟨remove_ordered ordered sn, counts_remove ordered sn⟩
  | pairs head =>
      simp only [serve, pairsIndexed_eq]
      exact ⟨pairs_ordered ordered head, counts_pairs ordered proper⟩

theorem calls_refine {q : NackQueue} {calls : List QueueCall} (ordered : q.Ordered)
    (proper : ∀ c ∈ calls, c.Proper) :
    (calls.foldl serve q).Ordered ∧ (calls.foldl serve q).counts = calls.foldl NackCounts.serve q.counts := by
  induction calls generalizing q with
  | nil => exact ⟨ordered, rfl⟩
  | cons c rest ih =>
      obtain ⟨still, same⟩ := serve_refines ordered (proper c (List.mem_cons_self ..))
      rw [List.foldl_cons, List.foldl_cons, ← same]
      exact ih still fun later among => proper later (List.mem_cons_of_mem _ among)

theorem queue_refines_map (calls : List QueueCall) (proper : ∀ c ∈ calls, c.Proper) :
    let q := calls.foldl serve {}
    let m := calls.foldl NackCounts.serve fun _ => none
    q.nacks.Pairwise (fun v w => v.seqNumber < w.seqNumber) ∧ q.counts = m ∧
      ∀ sn, (q.remove sn).2.map (fun v => (v.seqNumber, v.nackd.toNat)) = (m sn).map fun count => (sn, count) := by
  intro q m
  have empty : NackQueue.Ordered {} := List.Pairwise.nil
  obtain ⟨ordered, same⟩ := calls_refine empty proper
  refine ⟨ordered, same, fun sn => ?_⟩
  rw [remove_answer ordered sn]
  exact congrArg (fun m : NackCounts => (m sn).map fun count => (sn, count)) same

theorem queue_refines_map_round :
    let calls : List QueueCall := [.push 3, .push 2, .pairs 9, .remove 3]
    (∀ c ∈ calls, c.Proper) ∧ (calls.foldl serve {}).counts = calls.foldl NackCounts.serve fun _ => none := by
  intro calls
  have proper : ∀ c ∈ calls, c.Proper := by
    intro c among
    simp only [calls, List.mem_cons, List.not_mem_nil, or_false] at among
    rcases among with rfl | rfl | rfl | rfl
    · trivial
    · trivial
    · exact (by decide : (2 : UInt32) ≤ 9)
    · trivial
  exact ⟨proper, (queue_refines_map calls proper).2.1⟩

end NackQueue

end Rsfu
