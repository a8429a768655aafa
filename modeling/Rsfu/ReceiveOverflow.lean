import Rsfu.CheckedReceive

/-! Overflow on the receive path over runs of `calc` and of requests to the store. Up
to the first overflow no wrap has been counted, and the missing numbers are of the
first cycle. -/
namespace Rsfu
open Checked GuardedRun SerialNumber

namespace Buffer

def storeChecks (b : Buffer) (pkt : Bytes) (sn : UInt16) : Checked Unit :=
  match b.bucket with
  | some r => r.addPacketChecks pkt sn (sn == b.maxSeqNo)
  | none => pure ()

/-- The buffer when the packet is stored and parsed and its payload is taken. -/
def accepted (crates : RtpCrates) (b : Buffer) (pkt : Bytes) (sn : UInt16) (arrivalTime : Int) : Option Buffer :=
  match b.storePacket crates pkt sn with
  | some (b, .ok packet) =>
      let b := b.countPacket pkt.length
      let ep := { head := sn == b.maxSeqNo, cycle := b.cycles, arrival := arrivalTime, packet }
      match (b.inspectPayload ep).run with
      | some (.ok _) => some b
      | _ => none
  | _ => none

def nackChecks (b : Buffer) : Checked Unit :=
  match b.nacker with
  | some q => q.pairsChecks (b.cycles ||| b.maxSeqNo.toUInt32)
  | none => pure ()

def feedbackChecks (crates : RtpCrates) (b : Buffer) (pkt : Bytes) (sn : UInt16) (arrivalTime : Int) :
    Checked Unit :=
  match b.accepted crates pkt sn arrivalTime with
  | some b => b.nackChecks
  | none => pure ()

/-- The operations of `calc`, in their order. -/
def calcChecks (crates : RtpCrates) (b : Buffer) (pkt : Bytes) (arrivalTime : Int) : Checked Unit :=
  match ByteStore.u16At pkt 2 with
  | none => pure ()
  | some sn => do
      b.trackChecks sn
      let b := (b.trackSequence sn arrivalTime).1
      b.storeChecks pkt sn
      b.feedbackChecks crates pkt sn arrivalTime

def calcChecked (crates : RtpCrates) (b : Buffer) (pkt : Bytes) (arrivalTime : Int) : Checked Calc := do
  b.calcChecks crates pkt arrivalTime
  ofOption (b.calc crates pkt arrivalTime)

end Buffer

def Bucket.getChecked (b : Bucket) (sn : UInt16) : Checked (Option Bytes) := do
  b.getChecks sn
  ofOption (b.get sn)

inductive ReceiveOp where
  | packet (pkt : Bytes) (arrivalTime : Int)
  | request (sn : UInt16)

namespace Buffer

/-- One call; an overflow or another panic ends the run. -/
def receiveStep (crates : RtpCrates) (b : Buffer) : ReceiveOp → Option Buffer
  | .packet pkt arrivalTime => (b.calcChecked crates pkt arrivalTime).toOption.map Calc.buffer
  | .request sn =>
      match b.bucket with
      | some r => (r.getChecked sn).toOption.map fun _ => b
      | none => some b

def ReceivesInRange (crates : RtpCrates) (b : Buffer) : ReceiveOp → Prop
  | .packet pkt arrivalTime => b.calcChecked crates pkt arrivalTime ≠ .overflows
  | .request sn => ∀ r, b.bucket = some r → r.getChecked sn ≠ .overflows

def NacksFit (b : Buffer) : Prop :=
  ∀ q, b.nacker = some q → q.PairsFit (b.cycles ||| b.maxSeqNo.toUInt32)

structure CalcFits (crates : RtpCrates) (b : Buffer) (pkt : Bytes) (arrivalTime : Int) (sn : UInt16) : Prop where
  track : b.TrackFits sn
  first : ∀ r, b.bucket = some r → r.init = false → sn ≠ 0
  nacks : ∀ b', (b.trackSequence sn arrivalTime).1.accepted crates pkt sn arrivalTime = some b' → b'.NacksFit

/-- A number one after the head of the store is not asked for. -/
def ReceiveFits (crates : RtpCrates) (b : Buffer) : ReceiveOp → Prop
  | .packet pkt arrivalTime => ∀ sn, ByteStore.u16At pkt 2 = some sn → b.CalcFits crates pkt arrivalTime sn
  | .request sn => ∀ r, b.bucket = some r → sn ≠ r.headSn + 1

def FirstCycle (q : NackQueue) : Prop := q.Ordered ∧ ∀ n ∈ q.numbers, n.toNat < 65536

/-- What holds up to the first overflow. -/
structure Early (b : Buffer) : Prop where
  nack : b.nack = true
  cycles : b.cycles = 0
  bucket : ∀ r, b.bucket = some r → r.Small
  nacker : ∀ q, b.nacker = some q → FirstCycle q

theorem calls_firstCycle {q : NackQueue} {calls : List NackCall} (held : FirstCycle q)
    (small : ∀ n, .push n ∈ calls → n.toNat < 65536) : FirstCycle (calls.foldl NackQueue.call q) := by
  induction calls generalizing q with
  | nil => exact held
  | cons call calls ih =>
      refine ih ⟨Reception.call_ordered held.1 call, fun n among => ?_⟩ fun n mem => small n
        (List.mem_cons_of_mem call mem)
      cases call with
      | push sn =>
          rcases (NackQueue.push_numbers held.1 sn n).mp among with old | rfl
          · exact held.2 n old
          · exact small n List.mem_cons_self
      | remove sn => exact held.2 n ((NackQueue.remove_numbers held.1 sn n).mp among).1

theorem Early.tracked {b : Buffer} (early : b.Early) {sn : UInt16} (fits : b.TrackFits sn) (arrivalTime : Int) :
    (b.trackSequence sn arrivalTime).1.Early := by
  obtain ⟨cycles, small⟩ := trackSequence_calls_small early.cycles fits arrivalTime
  have frame := trackSequence_frame b sn arrivalTime
  simp only [core, BufferCore.mk.injEq, true_and] at frame
  obtain ⟨nack, -, bucket, nacker, -, -⟩ := frame
  refine ⟨nack.trans early.nack, cycles, fun r found => early.bucket r (bucket ▸ found), fun q found => ?_⟩
  rw [nacker] at found
  obtain ⟨held, had, rfl⟩ := Option.map_eq_some_iff.mp found
  exact calls_firstCycle (early.nacker held had) small

theorem accepted_nacker {crates : RtpCrates} {b b' : Buffer} {pkt : Bytes} {sn : UInt16} {arrivalTime : Int}
    (taken : b.accepted crates pkt sn arrivalTime = some b') : b'.nacker = b.nacker := by
  unfold accepted at taken
  split at taken
  · rename_i stored packet store
    have frame := (storePacket_frame store).1
    simp only [core, BufferCore.mk.injEq, true_and] at frame
    simp only at taken
    split at taken
    · cases taken
      exact frame.2.2.2.2.1
    · cases taken
  · cases taken

theorem storeChecks_needs {b : Buffer} (small : ∀ r, b.bucket = some r → r.Small) (pkt : Bytes) (sn : UInt16) :
    (b.storeChecks pkt sn).Needs (∀ r, b.bucket = some r → r.init = false → sn ≠ 0) := by
  apply needs_found
  · intro none
    rw [storeChecks, none]
  · intro r held
    rw [storeChecks, held]
    exact Bucket.addPacketChecks_needs (small r held) pkt sn _

theorem nackChecks_needs {b : Buffer} (first : ∀ q, b.nacker = some q → FirstCycle q) :
    b.nackChecks.Needs b.NacksFit := by
  apply needs_found
  · intro none
    rw [nackChecks, none]
  · intro q held
    obtain ⟨ordered, small⟩ := first q held
    rw [nackChecks, held]
    exact NackQueue.pairsChecks_needs ordered small _

theorem feedbackChecks_needs {b : Buffer} (first : ∀ q, b.nacker = some q → FirstCycle q) (crates : RtpCrates)
    (pkt : Bytes) (sn : UInt16) (arrivalTime : Int) :
    (b.feedbackChecks crates pkt sn arrivalTime).Needs
      (∀ b', b.accepted crates pkt sn arrivalTime = some b' → b'.NacksFit) := by
  apply needs_found
  · intro refused
    rw [feedbackChecks, refused]
  · intro b' taken
    rw [feedbackChecks, taken]
    exact nackChecks_needs (accepted_nacker taken ▸ first)

theorem calcChecks_needs {b : Buffer} (early : b.Early) (crates : RtpCrates) (pkt : Bytes) (arrivalTime : Int) :
    (b.calcChecks crates pkt arrivalTime).Needs (b.ReceiveFits crates (.packet pkt arrivalTime)) := by
  apply needs_found
  · intro short
    rw [calcChecks, short]
  · intro sn read
    have frame := trackSequence_frame b sn arrivalTime
    simp only [core, BufferCore.mk.injEq, true_and] at frame
    obtain ⟨-, -, bucket, -, -, -⟩ := frame
    have all := (trackChecks_needs early.nack early.cycles sn).bind fun fits =>
      (storeChecks_needs (early.tracked fits arrivalTime).bucket pkt sn).bind fun _ =>
        feedbackChecks_needs (early.tracked fits arrivalTime).nacker crates pkt sn arrivalTime
    rw [calcChecks, read]
    rw [bucket] at all
    refine all.congr ?_
    constructor
    · rintro ⟨track, first, nacks⟩
      exact ⟨track, first, nacks⟩
    · intro fits
      exact ⟨fits.track, fits.first, fits.nacks⟩

theorem Early.inRange_iff {b : Buffer} (early : b.Early) (crates : RtpCrates) (op : ReceiveOp) :
    b.ReceivesInRange crates op ↔ b.ReceiveFits crates op := by
  cases op with
  | packet pkt arrivalTime =>
      rw [← (calcChecks_needs early crates pkt arrivalTime).ne_overflows_iff]
      exact then_ofOption_iff _ _
  | request sn =>
      refine forall_congr' fun r => forall_congr' fun found => ?_
      rw [← (Bucket.getChecks_needs (early.bucket r found) sn).ne_overflows_iff]
      exact then_ofOption_iff _ _

end Buffer

namespace Bucket

theorem push_small {b b' : Bucket} {pkt : Bytes} {rv : Except BufferError Bytes} (small : b.Small)
    (pushed : b.push pkt = some (b', rv)) : b'.Small := by
  have limit := small.steps
  have le := small.step_le
  unfold push at pushed
  by_cases full : b.buf.size < b.step * maxPacketSize + pkt.length
  · rw [if_pos full] at pushed
    cases pushed
    exact small
  · simp only [if_neg full, Option.bind_eq_bind, Option.bind_eq_some_iff] at pushed
    obtain ⟨first, -, second, -, data, -, done⟩ := pushed
    cases done
    refine ⟨limit, ?_⟩
    simp only
    split <;> omega

/-- `set` writes into the ring and moves nothing. -/
theorem set_small {b b' : Bucket} {pkt : Bytes} {sn : UInt16} {rv : Except BufferError Bytes} (small : b.Small)
    (written : b.set sn pkt = some (b', rv)) : b'.Small := by
  have same : b'.maxSteps = b.maxSteps ∧ b'.step = b.step := by
    unfold set at written
    dsimp only at written
    by_cases old : UInt16.ofInt b.maxSteps < distance b.headSn sn
    · rw [if_pos old] at written
      cases written
      exact ⟨rfl, rfl⟩
    rw [if_neg old] at written
    generalize (if (b.step : Int) - (distance b.headSn sn + 1).toNat < 0 then _ else _) * (maxPacketSize : Int)
      = off at written
    by_cases outside : (b.buf.size : Int) < off ∨ off < 0
    · rw [if_pos outside] at written
      cases written
      exact ⟨rfl, rfl⟩
    rw [if_neg outside] at written
    simp only [Option.bind_eq_bind, Option.bind_eq_some_iff] at written
    obtain ⟨word, -, written⟩ := written
    by_cases again : word = sn
    · rw [if_pos (beq_iff_eq.mpr again)] at written
      cases written
      exact ⟨rfl, rfl⟩
    · simp only [if_neg (beq_iff_eq.not.mpr again), Option.bind_eq_some_iff] at written
      obtain ⟨first, -, second, -, done⟩ := written
      cases done
      exact ⟨rfl, rfl⟩
  refine ⟨same.1 ▸ small.steps, ?_⟩
  rw [same.1, same.2]
  exact small.step_le

theorem addPacket_small {b b' : Bucket} {pkt : Bytes} {sn : UInt16} {latest : Bool}
    {rv : Except BufferError Bytes} (small : b.Small) (added : b.addPacket pkt sn latest = some (b', rv)) :
    b'.Small := by
  have started : (if b.init then b else { b with headSn := sn - 1, init := true }).Small := by
    split
    · exact small
    · exact ⟨small.steps, small.step_le⟩
  unfold addPacket at added
  generalize (if b.init then b else { b with headSn := sn - 1, init := true }) = begun at added started
  cases latest with
  | true =>
      refine push_small ?_ added
      exact ⟨started.steps, skips_small started.steps.1 started.step_le _⟩
  | false => exact set_small started added

theorem new_small {m : Nat} (le : m ≤ 499) : (Bucket.new (1500 * (m + 1))).Small := by
  have wf : (Bucket.new (1500 * (m + 1))).WellFormed m := new_wellFormed (by unfold maxPacketSize; omega)
  refine ⟨?_, ?_⟩
  · rw [wf.steps]
    omega
  · rw [wf.steps]
    exact Int.ofNat_le.mpr wf.step_le

end Bucket

namespace Buffer

theorem Early.received {crates : RtpCrates} {b : Buffer} (early : b.Early) {pkt : Bytes} {arrivalTime : Int}
    (fits : b.ReceiveFits crates (.packet pkt arrivalTime)) {c : Calc}
    (done : b.calc crates pkt arrivalTime = some c) : c.buffer.Early := by
  obtain ⟨sn, step⟩ := calc_step done
  have tracked := early.tracked (fits sn step.read).track arrivalTime
  have frame := trackSequence_frame b sn arrivalTime
  simp only [core, BufferCore.mk.injEq, true_and] at frame
  refine ⟨step.nack.trans early.nack, step.cycles.trans tracked.cycles, fun r found => ?_, fun q found => ?_⟩
  · have store := step.store
    rw [found] at store
    generalize c.exit = exit at store
    cases store with
    | refused had add => exact Bucket.addPacket_small (early.bucket _ had) add
    | malformed had add bad => exact Bucket.addPacket_small (early.bucket _ had) add
    | accepted had add good counted => exact Bucket.addPacket_small (early.bucket _ had) add
  · have nacker := step.nacker
    rw [found] at nacker
    obtain ⟨held, had, after⟩ := Option.map_eq_some_iff.mp nacker.symm
    have called : FirstCycle (c.calls.foldl NackQueue.call held) := by
      refine tracked.nacker _ ?_
      rw [frame.2.2.2.1, had, step.calls]
      rfl
    rw [← after]
    simp only
    split
    · exact ⟨NackQueue.pairs_ordered called.1 _, fun n among =>
        called.2 n ((NackQueue.pairs_numbers _ _).subset among)⟩
    · exact called

theorem receiveStep_early {crates : RtpCrates} {b b' : Buffer} {op : ReceiveOp} (early : b.Early)
    (fits : b.ReceiveFits crates op) (done : b.receiveStep crates op = some b') : b'.Early := by
  cases op with
  | packet pkt arrivalTime =>
      obtain ⟨c, answer, rfl⟩ := Option.map_eq_some_iff.mp done
      exact early.received fits (then_ofOption_eq_some answer).2
  | request sn =>
      simp only [receiveStep] at done
      split at done
      · obtain ⟨-, -, rfl⟩ := Option.map_eq_some_iff.mp done
        exact early
      · cases done
        exact early

theorem Opened.early {crates : RtpCrates} {b : Buffer} (opened : b.Opened crates) (nack : b.nack = true) :
    b.Early := by
  have fresh := opened.fresh
  refine ⟨nack, fresh.noCycle, fun r found => ?_, fun q found => ?_⟩
  · obtain ⟨m, le, rfl⟩ := fresh.bucket r found
    exact Bucket.new_small le
  · cases fresh.nacker q found
    exact ⟨List.Pairwise.nil, fun n mem => absurd mem List.not_mem_nil⟩

/-- The exact condition, step by step, over every run of packets and requests. -/
theorem receive_in_range_iff {crates : RtpCrates} {b : Buffer} (opened : b.Opened crates) (nack : b.nack = true)
    (ops : List ReceiveOp) :
    Guarded (receiveStep crates) (ReceivesInRange crates) b ops ↔
      Guarded (receiveStep crates) (ReceiveFits crates) b ops :=
  guarded_iff Early (fun _ op early => early.inRange_iff crates op)
    (fun _ _ _ early fits done => receiveStep_early early fits done) (opened.early nack)

/-- Two packets, of which the second asks for two of the numbers between, and a request to the store. -/
def gapRequest : List ReceiveOp :=
  [.packet (bareArrival 5).pkt 0, .packet (bareArrival 10).pkt 0, .request 6]

theorem receive_in_range_gap :
    Guarded (receiveStep bareCrates) (ReceivesInRange bareCrates) vp9Buffer gapRequest := by
  refine (receive_in_range_iff vp9Buffer_opened rfl _).mpr ⟨fun sn read => ?_, fun b₁ first => ⟨fun sn read => ?_,
    fun b₂ second => ⟨fun r held => ?_, fun _ _ => trivial⟩⟩⟩
  · cases (bareArrival_numbered 5).symm.trans read
    refine ⟨fun counted => absurd rfl counted, fun r _ _ => by decide, fun b' taken q held => ?_⟩
    rw [accepted_nacker taken] at held
    cases held
    exact ⟨Or.inr fun v mem => absurd mem List.not_mem_nil, trivial⟩
  · cases (bareArrival_numbered 10).symm.trans read
    have after : (receiveStep bareCrates vp9Buffer (.packet (bareArrival 5).pkt 0)).map
        (fun b => (b.maxSeqNo, b.bucket.map Bucket.init)) = some (5, some true) := by decide +kernel
    have queued : (receiveStep bareCrates vp9Buffer (.packet (bareArrival 5).pkt 0)).bind (fun b =>
        ((b.trackSequence 10 0).1.accepted bareCrates (bareArrival 10).pkt 10 0).map fun b' =>
          (b'.nacker, b'.cycles ||| b'.maxSeqNo.toUInt32)) = some (some ⟨[6, 7, 8, 9].map (Nack.mk · 0), 0⟩, 10) := by
      decide +kernel
    rw [first] at after queued
    simp only [Option.map_some, Option.some.injEq, Prod.mk.injEq] at after
    refine ⟨fun _ => ?_, fun r found fresh => ?_, fun b' taken q held => ?_⟩
    · rw [after.1]
      decide
    · rw [found, Option.map_some, fresh] at after
      cases after.2
    · have taken : (b₁.trackSequence 10 0).1.accepted bareCrates (bareArrival 10).pkt 10 0 = some b' := taken
      rw [Option.bind_some, taken, Option.map_some, held] at queued
      simp only [Option.some.injEq, Prod.mk.injEq] at queued
      rw [queued.1, queued.2]
      exact ⟨Or.inl (by decide), by decide, by decide, trivial⟩
  · have after : ((receiveStep bareCrates vp9Buffer (.packet (bareArrival 5).pkt 0)).bind fun b =>
        (receiveStep bareCrates b (.packet (bareArrival 10).pkt 0)).map fun b => b.bucket.map Bucket.headSn) =
          some (some 10) := by decide +kernel
    rw [first, Option.bind_some, second, Option.map_some, held, Option.map_some] at after
    simp only [Option.some.injEq] at after
    rw [after]
    decide

/-- A stream that starts at number zero: the store subtracts one from it. -/
theorem first_number_zero_overflows :
    vp9Buffer.Opened bareCrates ∧ vp9Buffer.nack = true ∧
      ¬ Guarded (receiveStep bareCrates) (ReceivesInRange bareCrates) vp9Buffer [.packet (bareArrival 0).pkt 0] := by
  refine ⟨vp9Buffer_opened, rfl, fun ranges => ?_⟩
  have early := Opened.early vp9Buffer_opened rfl
  have fits := (early.inRange_iff bareCrates _).mp ranges.1
  exact (fits 0 (bareArrival_numbered 0)).first _ rfl rfl rfl

end Buffer

end Rsfu
