import Rsfu.SendOverflow
import Rsfu.SequencerLookup

/-! What a NACK does to the sequencer. A lookup touches one slot at most; it
returns unless that slot is inside the window and was never written. With overflow
checks it also needs a number that is not ahead of the head. -/
namespace Rsfu
open Checked GuardedRun

namespace Sequencer

/-- The slot a lookup of a number reads. -/
def askedSlot (s : Sequencer) (sn : UInt16) : Int :=
  let step : Int := s.step - (s.headSn - sn).toNat - 1
  if step < 0 then step + s.max else step

/-- A lookup returns nothing and changes nothing, or returns the entry of its slot
and notes the time there. -/
theorem lookup_cases {s s' : Sequencer} {refTime : Nat} {sn : UInt16} {found : List PacketMeta}
    (h : s.lookup refTime sn = some (s', found)) :
    (s' = s ∧ found = []) ∨ ∃ e, s.seq (s.askedSlot sn) = some e ∧ e.targetSeqNo = sn ∧
      (e.lastNack = 0 ∨ ignoreRetransmission < subU128 refTime e.lastNack) ∧
      s' = { s with seq := Function.update s.seq (s.askedSlot sn) (some { e with lastNack := refTime }) } ∧
      found = [{ e with lastNack := refTime }] := by
  unfold lookup at h
  dsimp only at h
  by_cases outside : (s.step : Int) - (s.headSn - sn).toNat - 1 < 0 ∧
      s.max ≤ -((s.step : Int) - (s.headSn - sn).toNat - 1)
  · rw [if_pos outside] at h
    cases h
    exact Or.inl ⟨rfl, rfl⟩
  · rw [if_neg outside] at h
    obtain ⟨e, filled, h⟩ := Option.bind_eq_some_iff.mp h
    by_cases due : e.targetSeqNo = sn ∧
        (e.lastNack = 0 ∨ ignoreRetransmission < subU128 refTime e.lastNack)
    · rw [if_pos due] at h
      cases h
      exact Or.inr ⟨e, filled, due.1, due.2, rfl, rfl⟩
    · rw [if_neg due] at h
      cases h
      exact Or.inl ⟨rfl, rfl⟩

/-- What a whole request changes: slots of returned entries, by the time of the request. -/
structure Touches (refTime : Nat) (sns : List UInt16) (s s' : Sequencer) (found : List PacketMeta) : Prop where
  frame : s' = { s with seq := s'.seq }
  seq : ∀ k, s'.seq k = s.seq k ∨ ∃ e, s.seq k = some e ∧ { e with lastNack := refTime } ∈ found ∧
    s'.seq k = some { e with lastNack := refTime }
  asked : ∀ e ∈ found, e.targetSeqNo ∈ sns

theorem lookup_touches {s s' : Sequencer} {refTime : Nat} {sn : UInt16} {found : List PacketMeta}
    (h : s.lookup refTime sn = some (s', found)) : Touches refTime [sn] s s' found := by
  rcases lookup_cases h with ⟨rfl, rfl⟩ | ⟨e, filled, target, -, rfl, rfl⟩
  · exact ⟨rfl, fun k => Or.inl rfl, fun e among => nomatch among⟩
  · refine ⟨rfl, fun k => ?_, fun r among => ?_⟩
    · by_cases here : k = s.askedSlot sn
      · subst here
        exact Or.inr ⟨e, filled, List.mem_singleton_self _, Function.update_self ..⟩
      · exact Or.inl (Function.update_of_ne here _ _)
    · rw [List.mem_singleton.mp among]
      exact List.mem_singleton.mpr target

theorem lookupAll_touches {s s' : Sequencer} {refTime : Nat} {sns : List UInt16} {found : List PacketMeta}
    (h : s.lookupAll refTime sns = some (s', found)) : Touches refTime sns s s' found := by
  induction sns generalizing s found with
  | nil =>
      cases h
      exact ⟨rfl, fun k => Or.inl rfl, fun e among => nomatch among⟩
  | cons sn rest ih =>
      obtain ⟨⟨next, one⟩, first, h⟩ := Option.bind_eq_some_iff.mp h
      obtain ⟨⟨last, more⟩, later, h⟩ := Option.bind_eq_some_iff.mp h
      cases h
      have before := lookup_touches first
      have after := ih later
      constructor
      · rw [after.frame, before.frame]
      · intro k
        rcases after.seq k with same | ⟨e, filled, among, noted⟩
        · rcases before.seq k with unchanged | ⟨e, filled, among, noted⟩
          · exact Or.inl (same.trans unchanged)
          · exact Or.inr ⟨e, filled, List.mem_append_left _ among, same.trans noted⟩
        · rcases before.seq k with unchanged | ⟨e₀, filled₀, -, noted₀⟩
          · exact Or.inr ⟨e, unchanged ▸ filled, List.mem_append_right _ among, noted⟩
          · -- asked for twice: the second time wins, and it is the same time
            cases Option.some.inj (filled.symm.trans noted₀)
            exact Or.inr ⟨e₀, filled₀, List.mem_append_right _ among, noted⟩
      · intro e among
        rcases List.mem_append.mp among with here | there
        · exact List.mem_cons.mpr (Or.inl (List.mem_singleton.mp (before.asked e here)))
        · exact List.mem_cons_of_mem _ (after.asked e there)

/-- Pushes and requests; a lookup that panics has no next state. -/
def serve (s : Sequencer) : SequencerOp → Option Sequencer
  | .push p => some (s.push p.source (UInt16.ofNat p.target) p.timestamp p.layer p.head).1
  | .nack now sns => (s.getSeqNoPairs now sns).map Prod.fst

/-- A request returns, changes nothing but the times of what it returns, and
returns only what was asked for. -/
def Survives (s : Sequencer) : SequencerOp → Prop
  | .push _ => True
  | .nack now sns => ∃ s' found, s.getSeqNoPairs now sns = some (s', found) ∧
      Touches (subU128 now s.startTime) sns s s' found

/-- Every number asked for is outside the window, or its slot was written. -/
def Filled (s : Sequencer) : SequencerOp → Prop
  | .push _ => True
  | .nack _ sns => ∀ sn ∈ sns, s.Reads sn

theorem survives_iff (s : Sequencer) (op : SequencerOp) : s.Survives op ↔ s.Filled op := by
  cases op with
  | push p => exact Iff.rfl
  | nack now sns =>
      have returns := lookupAll_isSome s (subU128 now s.startTime) sns
      refine Iff.trans ?_ returns
      rw [Option.isSome_iff_exists]
      constructor
      · rintro ⟨s', found, looked, -⟩
        exact ⟨(s', found), looked⟩
      · rintro ⟨⟨s', found⟩, looked⟩
        exact ⟨s', found, looked, lookupAll_touches looked⟩

/-- The same calls in a build with overflow checks. -/
def serveChecked (s : Sequencer) : SequencerOp → Option Sequencer
  | .push p =>
      (s.pushChecks (UInt16.ofNat p.target) p.head).toOption.map fun _ =>
        (s.push p.source (UInt16.ofNat p.target) p.timestamp p.layer p.head).1
  | .nack now sns => (s.getSeqNoPairsChecked now sns).toOption.map Prod.fst

def SurvivesChecked (s : Sequencer) : SequencerOp → Prop
  | .push _ => True
  | .nack now sns => ∃ s' found, s.getSeqNoPairsChecked now sns = .value (s', found) ∧
      Touches (subU128 now s.startTime) sns s s' found

/-- The clock did not go back, and no number asked for is ahead of the head. -/
def FilledChecked (s : Sequencer) : SequencerOp → Prop
  | .push _ => True
  | .nack now sns => s.startTime ≤ now ∧ ∀ sn ∈ sns, s.AskFits (subU128 now s.startTime) sn ∧ s.Reads sn

instance (s : Sequencer) (op : SequencerOp) : Decidable (s.Filled op) :=
  match op with
  | .push _ => isTrue trivial
  | .nack _ sns => List.decidableBAll s.Reads sns

instance (s : Sequencer) (op : SequencerOp) : Decidable (s.FilledChecked op) :=
  match op with
  | .push _ => isTrue trivial
  | .nack now sns =>
      have := List.decidableBAll (fun sn => s.AskFits (subU128 now s.startTime) sn ∧ s.Reads sn) sns
      inferInstanceAs (Decidable (_ ∧ _))

theorem asksFit_filled_iff (s : Sequencer) (refTime : Nat) (sns : List UInt16) :
    (s.AsksFit refTime sns ∧ ∀ sn ∈ sns, s.Reads sn) ↔ ∀ sn ∈ sns, s.AskFits refTime sn ∧ s.Reads sn := by
  induction sns with
  | nil => exact iff_of_true ⟨trivial, fun sn among => (nomatch among)⟩ fun sn among => (nomatch among)
  | cons sn rest ih =>
      rw [List.forall_mem_cons, List.forall_mem_cons, ← ih, AsksFit]
      constructor
      · rintro ⟨⟨fits, later⟩, reads, others⟩
        exact ⟨⟨fits, reads⟩, later reads, others⟩
      · rintro ⟨⟨fits, reads⟩, later, others⟩
        exact ⟨⟨fits, fun _ => later⟩, reads, others⟩

theorem survivesChecked_iff {s : Sequencer} (ranged : s.Ranged) (op : SequencerOp) :
    s.SurvivesChecked op ↔ s.FilledChecked op := by
  cases op with
  | push p => exact Iff.rfl
  | nack now sns =>
      have needs := getSeqNoPairsChecks_needs ranged now sns
      have returns := lookupAll_isSome s (subU128 now s.startTime) sns
      unfold SurvivesChecked FilledChecked getSeqNoPairsChecked
      dsimp only
      rw [← asksFit_filled_iff, ← and_assoc, ← returns, Option.isSome_iff_exists]
      constructor
      · rintro ⟨s', found, looked, -⟩
        obtain ⟨passes, answered⟩ := then_ofOption_eq_some (a := (s', found)) (by rw [looked]; rfl)
        exact ⟨needs.value_iff.mp passes, (s', found), answered⟩
      · rintro ⟨fits, ⟨s', found⟩, looked⟩
        have answered : s.getSeqNoPairs now sns = some (s', found) := looked
        rw [needs.passes fits, value_bind, answered]
        exact ⟨s', found, rfl, lookupAll_touches looked⟩

theorem serveChecked_ranged {s s' : Sequencer} {op : SequencerOp} (ranged : s.Ranged)
    (served : s.serveChecked op = some s') : s'.Ranged := by
  cases op with
  | push p =>
      obtain ⟨-, -, rfl⟩ := Option.map_eq_some_iff.mp served
      exact push_ranged ranged _ _ _ _ _
  | nack now sns =>
      obtain ⟨⟨after, found⟩, looked, rfl⟩ := Option.map_eq_some_iff.mp served
      have same := lookupAll_sameSlots (then_ofOption_eq_some looked).2
      exact ⟨same.max ▸ ranged.max, same.step ▸ same.max ▸ ranged.step⟩

/-- The exact condition over every run, with wrapping arithmetic and with overflow checks. -/
theorem requests_survive_iff (max : Int) (range : -2147483648 ≤ max ∧ max < 2147483648) (startTime : Nat)
    (ops : List SequencerOp) :
    (Guarded serve Survives (new max startTime) ops ↔ Guarded serve Filled (new max startTime) ops) ∧
      (Guarded serveChecked SurvivesChecked (new max startTime) ops ↔
        Guarded serveChecked FilledChecked (new max startTime) ops) := by
  constructor
  · apply guarded_iff fun _ => True
    · intro s op _
      exact survives_iff s op
    · intros
      trivial
    · trivial
  · apply guarded_iff Ranged
    · intro s op ranged
      exact survivesChecked_iff ranged op
    · intro s op s' ranged _ served
      exact serveChecked_ranged ranged served
    · exact DownTrack.new_ranged range startTime

theorem requests_survive_iff_sent :
    let ops : List SequencerOp := [.push ⟨9, 5, 0, 0, true⟩, .nack 2 [9], .nack 3 [9, 9]]
    Guarded serve Survives (new 4 1) ops ∧ Guarded serveChecked SurvivesChecked (new 4 1) ops := by
  intro ops
  have both := requests_survive_iff 4 ⟨by decide, by decide⟩ 1 ops
  exact ⟨both.1.mpr (by decide +kernel), both.2.mpr (by decide +kernel)⟩

/-- A request before any push reads a slot that was never written. -/
theorem request_before_push_panics :
    ¬ Guarded serve Survives (new 2 0) [.nack 5 [0]] ∧
      ¬ Guarded serveChecked SurvivesChecked (new 2 0) [.nack 5 [0]] := by
  constructor
  · rintro ⟨⟨s', found, looked, -⟩, -⟩
    have panics : (new 2 0).getSeqNoPairs 5 [0] = none := by decide +kernel
    rw [panics] at looked
    cases looked
  · rintro ⟨⟨s', found, looked, -⟩, -⟩
    have panics : ((new 2 0).getSeqNoPairsChecked 5 [0]).toOption.isNone = true := by decide +kernel
    rw [looked] at panics
    cases panics

end Sequencer

end Rsfu
