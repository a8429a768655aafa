import Rsfu.ArrivalReport

/-! The true numbers behind the transport sequence numbers of a responder. `push` tells
a new cycle by the number before it alone, and never goes back to an earlier one. -/
namespace Rsfu
open SerialNumber

namespace Responder

/-- Each number is within 2048 of the highest before it, `top` at first. -/
def Reordered : Nat → List Nat → Prop
  | _, [] => True
  | top, e :: rest => (top ≤ e + 2048 ∧ e ≤ top + 2048) ∧ Reordered (max top e) rest

instance Reordered.decide : ∀ top numbers, Decidable (Reordered top numbers)
  | _, [] => isTrue trivial
  | top, e :: rest =>
      have := Reordered.decide (max top e) rest
      inferInstanceAs (Decidable ((top ≤ e + 2048 ∧ e ≤ top + 2048) ∧ Reordered (max top e) rest))

/-- The packets of these true numbers, with the times they arrive at. -/
def transportPackets (numbers : List (Nat × Int)) : List (UInt16 × Int) :=
  numbers.map fun n => (UInt16.ofNat n.1, n.2)

/-- The numbers recorded for the arrivals. -/
def recorded (r : Responder) : List Nat := r.extInfo.map fun info => info.extTsn.toNat

/-- From one packet to the next the cycle does not fall, and the step is not the one from
4096 below a cycle to its first number. -/
def StepsOn (before e : Nat) : Prop := before / 65536 ≤ e / 65536 ∧ ¬ (e % 65536 = 0 ∧ before + 4096 = e)

instance (before e : Nat) : Decidable (StepsOn before e) := inferInstanceAs (Decidable (_ ∧ _))

/-- The responder has counted up to this number. -/
structure CountedTo (r : Responder) (before : Nat) : Prop where
  cycles : r.cycles.toNat = 65536 * (before / 65536)
  lastSn : r.lastSn = UInt16.ofNat before

/-- The cycle of the next packet. -/
def nextCycle (before e : Nat) : Nat :=
  if e % 65536 < 4095 ∧ 61440 < before % 65536 then before / 65536 + 1 else before / 65536

theorem push_cycles {r : Responder} {before e : Nat} (counted : r.CountedTo before) (small : before < 4294967296)
    (timeNs : Int) :
    (r.push (UInt16.ofNat e) timeNs).cycles.toNat = 65536 * (nextCycle before e % 65536) := by
  have wraps : UInt16.ofNat e < 0x0fff ∧ r.lastSn > 0xf000 ↔ e % 65536 < 4095 ∧ 61440 < before % 65536 := by
    rw [counted.lastSn, gt_iff_lt, UInt16.lt_iff_toNat_lt, UInt16.lt_iff_toNat_lt, toNat_ofNat16, toNat_ofNat16]
    rfl
  have cycle := counted.cycles
  change (if UInt16.ofNat e < 0x0fff ∧ r.lastSn > 0xf000 then r.cycles + 65536 else r.cycles).toNat = _
  rw [nextCycle]
  by_cases wrap : e % 65536 < 4095 ∧ 61440 < before % 65536
  · rw [if_pos (wraps.mpr wrap), if_pos wrap, UInt32.toNat_add, cycle]
    change (65536 * (before / 65536) + 65536) % 4294967296 = _
    omega
  · rw [if_neg fun met => wrap (wraps.mp met), if_neg wrap, cycle]
    omega

/-- The number recorded for one packet. -/
theorem push_records {r : Responder} {before e : Nat} (counted : r.CountedTo before) (small : before < 4294967296)
    (timeNs : Int) :
    recorded (r.push (UInt16.ofNat e) timeNs) =
      recorded r ++ [65536 * (nextCycle before e % 65536) + e % 65536] := by
  have joined := toNat_join (push_cycles (e := e) counted small timeNs) (UInt16.ofNat e)
  rw [toNat_ofNat16] at joined
  exact List.map_append.trans (congrArg (recorded r ++ [·]) joined)

/-- What the numbers so far say about the last one and the highest of them. -/
structure Under (before top : Nat) : Prop where
  cycle : top / 65536 = before / 65536
  le : before ≤ top
  close : top ≤ before + 2048

theorem nextCycle_iff {before top e : Nat} (under : Under before top) (near : top ≤ e + 2048 ∧ e ≤ top + 2048) :
    nextCycle before e = e / 65536 ↔ StepsOn before e := by
  obtain ⟨cycle, le, close⟩ := under
  unfold nextCycle StepsOn
  split <;> omega

theorem Under.next {before top e : Nat} (under : Under before top) (near : top ≤ e + 2048 ∧ e ≤ top + 2048)
    (steps : StepsOn before e) : Under e (max top e) := by
  obtain ⟨cycle, le, close⟩ := under
  obtain ⟨forward, -⟩ := steps
  rcases Nat.le_total top e with below | above
  · rw [Nat.max_eq_right below]
    exact ⟨rfl, Nat.le_refl e, Nat.le_add_right e 2048⟩
  · rw [Nat.max_eq_left above]
    exact ⟨by omega, above, near.1⟩

theorem recorded_prefix (r : Responder) (batch : List (UInt16 × Int)) :
    recorded r <+: recorded (r.pushAll batch) := by
  induction batch generalizing r with
  | nil => exact List.prefix_refl _
  | cons arrival rest ih =>
      have pushed : recorded r <+: recorded (r.push arrival.1 arrival.2) := by
        unfold recorded push
        rw [List.map_append]
        exact List.prefix_append _ _
      exact pushed.trans (ih _)

/-- From one number on, all others are recorded as they are exactly when each steps on from the one before. -/
theorem recorded_iff {r : Responder} {before top : Nat} {numbers : List (Nat × Int)} (counted : r.CountedTo before)
    (under : Under before top) (small : before < 4294967296) (bound : ∀ n ∈ numbers, n.1 < 4294967296)
    (near : Reordered top (numbers.map Prod.fst)) :
    recorded (r.pushAll (transportPackets numbers)) = recorded r ++ numbers.map Prod.fst ↔
      (before :: numbers.map Prod.fst).IsChain StepsOn := by
  induction numbers generalizing r before top with
  | nil => exact iff_of_true (List.append_nil _).symm (List.isChain_singleton _)
  | cons n rest ih =>
      obtain ⟨e, timeNs⟩ := n
      have single := push_records (e := e) counted small timeNs
      have fits := bound (e, timeNs) List.mem_cons_self
      have close := near.1
      change recorded ((r.push (UInt16.ofNat e) timeNs).pushAll (transportPackets rest)) = _ ↔ _
      rw [List.map_cons, List.isChain_cons_cons, ← nextCycle_iff under close]
      by_cases cycle : nextCycle before e = e / 65536
      · have number : 65536 * (nextCycle before e % 65536) + e % 65536 = e := by omega
        have next : (r.push (UInt16.ofNat e) timeNs).CountedTo e :=
          ⟨(push_cycles counted small timeNs).trans (by omega), rfl⟩
        have later := ih next (under.next close ((nextCycle_iff under close).mp cycle)) fits
          (fun n among => bound n (List.mem_cons_of_mem _ among)) near.2
        rw [single, number, List.append_assoc] at later
        rw [and_iff_right cycle]
        exact later
      · refine iff_of_false (fun same => cycle ?_) fun met => cycle met.1
        have first := recorded_prefix (r.push (UInt16.ofNat e) timeNs) (transportPackets rest)
        rw [same, single, List.prefix_append_right_inj, List.cons_prefix_cons] at first
        have bounded : nextCycle before e ≤ before / 65536 + 1 := by
          unfold nextCycle
          split <;> omega
        obtain ⟨cycles, le, lag⟩ := under
        omega

/-- In order within 2048 of the highest before, the numbers are recorded as they are exactly
when no packet of an earlier cycle follows one of a later and none steps from 4096 below a
cycle to its first number. -/
theorem unwrapped_iff (ssrc sSsrc : UInt32) (first : Nat × Int) (rest : List (Nat × Int)) (start : first.1 < 65536)
    (bound : ∀ n ∈ rest, n.1 < 4294967296) (near : Reordered first.1 (rest.map Prod.fst)) :
    recorded ((Responder.new ssrc sSsrc).pushAll (transportPackets (first :: rest))) =
        (first :: rest).map Prod.fst ↔ ((first :: rest).map Prod.fst).IsChain StepsOn := by
  obtain ⟨e, timeNs⟩ := first
  change e < 65536 at start
  have fresh : (Responder.new ssrc sSsrc).CountedTo 0 := ⟨rfl, rfl⟩
  have cycle : nextCycle 0 e = 0 := if_neg fun wraps => absurd wraps.2 (by decide)
  have counted : ((Responder.new ssrc sSsrc).push (UInt16.ofNat e) timeNs).CountedTo e := by
    refine ⟨(push_cycles fresh (by decide) timeNs).trans ?_, rfl⟩
    rw [cycle]
    omega
  have single : recorded ((Responder.new ssrc sSsrc).push (UInt16.ofNat e) timeNs) = [e] := by
    rw [push_records fresh (by decide), cycle, Nat.mod_eq_of_lt start]
    exact congrArg (fun n => [n]) (Nat.zero_add e)
  have chain := recorded_iff counted ⟨rfl, Nat.le_refl e, Nat.le_add_right e 2048⟩ (by omega) bound near
  rw [single] at chain
  exact chain

/-- Around the first wrap, with a late packet on either side of it. -/
def wrappedNumbers : List (Nat × Int) := [(65535, 2000), (65540, 3000), (65538, 4000)]

theorem unwrapped_iff_wrap :
    recorded ((Responder.new 1 2).pushAll (transportPackets ((65534, 1000) :: wrappedNumbers))) =
      [65534, 65535, 65540, 65538] :=
  (unwrapped_iff 1 2 (65534, 1000) wrappedNumbers (by decide) (by decide) (by decide)).mpr (by decide)

/-- A packet from before the wrap that arrives behind one from after it is recorded a cycle too high. -/
theorem late_packet_next_cycle :
    let late : List (Nat × Int) := [(65536, 2000), (65535, 3000)]
    (∀ n ∈ late, n.1 < 4294967296) ∧ Reordered 65534 (late.map Prod.fst) ∧
      recorded ((Responder.new 1 2).pushAll (transportPackets ((65534, 1000) :: late))) ≠
        ((65534, 1000) :: late).map Prod.fst := by
  decide +kernel

end Responder

end Rsfu
