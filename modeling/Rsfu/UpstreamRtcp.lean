import Rsfu.GuardedRun
import Rsfu.RouterRtcp

/-! Whether RTCP reaches its handlers. Every future is dropped, so nothing is
delivered, however the producers, the loop and the stop signal interleave. -/
namespace Rsfu
open GuardedRun LazyFuture

/-- Steps of the producers, of the two branches of the loop, and of a reader. -/
inductive RtcpStep (V : Type) where
  | send (val : V)
  | stop
  | recvData
  | recvStop
  | readerWrite (p : Bytes)
  | readerClose

/-- A router and one RTCP reader, with what each of them took and what was run on it. -/
structure Upstream (V : Type) where
  router : RouterRtcp V := {}
  reader : RtcpReader := {}
  received : List V := []
  accepted : List Bytes := []
  handled : List Bytes := []

namespace Upstream
variable {V : Type}

/-- A writer and a packet handler are installed. -/
def start (answer : Except Unit Unit) (outcome : Except RtcpIoError Unit) : Upstream V where
  router := RouterRtcp.setRtcpWriter {} (pcWriter answer)
  reader := RtcpReader.onPacket {} (recording outcome)

def step (g : Upstream V) : RtcpStep V → Option (Upstream V)
  | .send val => some { g with router := { g.router with rtcpChannel := g.router.rtcpChannel ++ [val] } }
  | .stop => some { g with router := { g.router with stopChannel := g.router.stopChannel + 1 } }
  | .recvData => g.router.recvData.map fun r => { g with router := r.1, received := g.received ++ [r.2] }
  | .recvStop => g.router.recvStop.map fun router => { g with router }
  | .readerWrite p => some { g with
      handled := (g.reader.write p g.handled).1
      accepted := if g.reader.closed then g.accepted else g.accepted ++ [p] }
  | .readerClose => some { g with reader := { g.reader with closed := true } }

/-- What was written and handled is the effect of the installed handlers' futures, one
for each received vector and each packet a reader took, in order. -/
def Delivered (answer : Except Unit Unit) (outcome : Except RtcpIoError Unit) (g : Upstream V) : Prop :=
  g.router.written = awaitAll (pcWriter answer) g.received [] ∧
    g.handled = awaitAll (recording outcome) g.accepted []

/-- No future has run. -/
def Silent (g : Upstream V) : Prop := g.router.written = [] ∧ g.handled = []

theorem handleData_written (r : RouterRtcp V) (val : V) : (r.handleData val).written = r.written := by
  unfold RouterRtcp.handleData
  split <;> rfl

theorem recvData_written {r r' : RouterRtcp V} {val : V} (h : r.recvData = some (r', val)) :
    r'.written = r.written := by
  unfold RouterRtcp.recvData at h
  split at h
  · cases h
    exact handleData_written _ _
  · cases h

theorem recvStop_written {r r' : RouterRtcp V} (h : r.recvStop = some r') : r'.written = r.written := by
  unfold RouterRtcp.recvStop at h
  split at h <;> cases h
  rfl

theorem reader_write_handled (r : RtcpReader) (p : Bytes) (handled : List Bytes) :
    (r.write p handled).1 = handled := by
  unfold RtcpReader.write
  split
  · rfl
  · split <;> rfl

theorem step_silent {g g' : Upstream V} {s : RtcpStep V} (inv : g.Silent) (h : g.step s = some g') : g'.Silent := by
  obtain ⟨written, handled⟩ := inv
  cases s with
  | send val => cases h; exact ⟨written, handled⟩
  | stop => cases h; exact ⟨written, handled⟩
  | recvData =>
      obtain ⟨⟨r', val⟩, took, rfl⟩ := Option.map_eq_some_iff.mp h
      exact ⟨(recvData_written took).trans written, handled⟩
  | recvStop =>
      obtain ⟨r', took, rfl⟩ := Option.map_eq_some_iff.mp h
      exact ⟨(recvStop_written took).trans written, handled⟩
  | readerWrite p =>
      cases h
      exact ⟨written, (reader_write_handled _ _ _).trans handled⟩
  | readerClose => cases h; exact ⟨written, handled⟩

/-- A vector or a packet is handed over in this step. -/
def HandsOver (g : Upstream V) : RtcpStep V → Prop
  | .recvData => True
  | .readerWrite _ => g.reader.closed = false
  | _ => False

/-- Nothing was handed over so far. -/
def Untouched (g : Upstream V) : Prop := g.received = [] ∧ g.accepted = []

theorem step_untouched {g g' : Upstream V} {s : RtcpStep V} (h : g.step s = some g') :
    g'.Untouched ↔ g.Untouched ∧ ¬ g.HandsOver s := by
  cases s with
  | send val => cases h; exact (and_iff_left id).symm
  | stop => cases h; exact (and_iff_left id).symm
  | recvData =>
      obtain ⟨⟨r', val⟩, -, rfl⟩ := Option.map_eq_some_iff.mp h
      refine ⟨fun untouched => ?_, fun kept => absurd trivial kept.2⟩
      exact absurd untouched.1 (List.append_ne_nil_of_right_ne_nil _ (List.cons_ne_nil _ _))
  | recvStop =>
      obtain ⟨r', -, rfl⟩ := Option.map_eq_some_iff.mp h
      exact (and_iff_left id).symm
  | readerWrite p =>
      cases h
      unfold Untouched HandsOver
      cases g.reader.closed with
      | true => simp only [if_true, Bool.true_eq_false, not_false_eq_true, and_true]
      | false =>
          simp only [Bool.false_eq_true, if_false, not_true_eq_false, and_false, iff_false]
          exact fun untouched => absurd untouched.2 (List.append_ne_nil_of_right_ne_nil _ (List.cons_ne_nil _ _))
  | readerClose => cases h; exact (and_iff_left id).symm

theorem run_untouched {g g' : Upstream V} {steps : List (RtcpStep V)} (reached : run step g steps = some g') :
    g'.Untouched ↔ g.Untouched ∧ Guarded step (fun g s => ¬ g.HandsOver s) g steps := by
  induction steps generalizing g with
  | nil =>
      cases reached
      exact (and_iff_left trivial).symm
  | cons s rest ih =>
      obtain ⟨next, first, later⟩ := run_cons_eq_some.mp reached
      rw [ih later, step_untouched first, and_assoc]
      refine and_congr_right fun _ => and_congr_right fun _ => ⟨fun guarded s' h => ?_,
        fun guarded => guarded next first⟩
      cases first.symm.trans h
      exact guarded

theorem Silent.delivered_iff {g : Upstream V} {answer : Except Unit Unit} {outcome : Except RtcpIoError Unit}
    (silent : g.Silent) : g.Delivered answer outcome ↔ g.Untouched := by
  unfold Delivered Untouched pcWriter
  rw [silent.1, silent.2, awaitAll_recording, awaitAll_recording, List.nil_append, List.nil_append, eq_comm,
    @eq_comm _ [] g.accepted]

/-- A run delivers what it hands over exactly when it hands nothing over. -/
theorem run_delivered_iff {answer : Except Unit Unit} {outcome : Except RtcpIoError Unit} {steps : List (RtcpStep V)}
    {g : Upstream V} (reached : run step (start answer outcome) steps = some g) :
    g.Delivered answer outcome ↔ Guarded step (fun g s => ¬ g.HandsOver s) (start answer outcome) steps := by
  have silent : g.Silent := run_preserves Silent (fun _ _ _ inv moved => step_silent inv moved) ⟨rfl, rfl⟩ reached
  rw [silent.delivered_iff, run_untouched reached]
  exact and_iff_right ⟨rfl, rfl⟩

def deliverySteps : List (RtcpStep Nat) := [.send 7, .readerWrite [1], .recvData, .stop, .recvStop]

theorem run_delivered_iff_sent :
    ∃ g, run step (start (.ok ()) (.ok ())) deliverySteps = some g ∧
      (g.Delivered (.ok ()) (.ok ()) ↔
        Guarded step (fun g s => ¬ g.HandsOver s) (start (.ok ()) (.ok ())) deliverySteps) :=
  ⟨_, rfl, run_delivered_iff rfl⟩

/-- The vector is received and the packet taken; neither future runs. -/
theorem sent_vector_never_written :
    ∃ g, run step (start (.ok ()) (.ok ())) deliverySteps = some g ∧ g.received = [7] ∧ g.accepted = [[1]] ∧
      g.router.written = [] ∧ g.handled = [] ∧ ¬ g.Delivered (.ok ()) (.ok ()) := by
  refine ⟨_, rfl, rfl, rfl, rfl, rfl, fun delivered => ?_⟩
  exact absurd delivered.1.symm (List.cons_ne_nil 7 [])

end Upstream

end Rsfu
