import Rsfu.BucketRing
import Rsfu.Reception
import Mathlib.Data.List.Forall2

/-! The extended highest sequence number. `cycles` and `max_seq_no` follow the
highest true number for as long as the packet counter, whose zero marks the
first packet, does not return to zero. -/
namespace Rsfu
open SerialNumber GuardedRun

namespace Buffer

theorem extend_cycles (k : Nat) :
    UInt32.ofNat (65536 * k) + maxSequenceNumber = UInt32.ofNat (65536 * (k + 1)) := by
  rw [show maxSequenceNumber = UInt32.ofNat 65536 from rfl, ← UInt32.ofNat_add]
  rfl

theorem forward_iff {b : Buffer} {high seq : Nat} (at_high : b.maxSeqNo = UInt16.ofNat high)
    (above : seq < high + 32768) (below : high ≤ seq + 32768) :
    distance (UInt16.ofNat seq) b.maxSeqNo &&& 0x8000 = 0 ↔ high ≤ seq := by
  rw [distance_eq_sub, at_high]
  exact half_range_iff above below

/-- One packet moves the head to the higher of the two numbers. -/
theorem trackSequence_max {b : Buffer} {high seq : Nat} (counted : b.stats.packetCount ≠ 0)
    (at_high : b.maxSeqNo = UInt16.ofNat high) (above : seq < high + 32768) (below : high ≤ seq + 32768)
    (arrivalTime : Int) :
    (b.trackSequence (UInt16.ofNat seq) arrivalTime).1.maxSeqNo = UInt16.ofNat (max high seq) := by
  have forward := forward_iff at_high above below
  by_cases le : high ≤ seq
  · rw [trackSequence_forward counted (forward.mpr le), max_eq_right le]
  · rw [trackSequence_late counted (fun clear => le (forward.mp clear)), max_eq_left (by omega), ← at_high]
    split <;> rfl

/-- It counts one more cycle exactly when the higher number lies in the next one. -/
theorem trackSequence_cycles {b : Buffer} {high seq first : Nat} (counted : b.stats.packetCount ≠ 0)
    (at_high : b.maxSeqNo = UInt16.ofNat high) (above : seq < high + 32768) (below : high ≤ seq + 32768)
    (le_high : first ≤ high)
    (at_cycle : b.cycles = UInt32.ofNat (65536 * (high / 65536 - first / 65536))) (arrivalTime : Int) :
    (b.trackSequence (UInt16.ofNat seq) arrivalTime).1.cycles =
      UInt32.ofNat (65536 * (max high seq / 65536 - first / 65536)) := by
  have forward := forward_iff at_high above below
  by_cases le : high ≤ seq
  · rw [trackSequence_forward counted (forward.mpr le), max_eq_right le, at_high]
    simp only
    by_cases wraps : UInt16.ofNat seq < UInt16.ofNat high
    · have next := (wraps_iff le above).mp wraps
      have later : first / 65536 ≤ high / 65536 := Nat.div_le_div_right le_high
      rw [if_pos wraps, at_cycle, extend_cycles, next, Nat.sub_add_comm later]
    · rw [if_neg wraps, at_cycle, (same_cycle_iff le above).mp wraps]
  · rw [trackSequence_late counted (fun clear => le (forward.mp clear)), max_eq_left (by omega), ← at_cycle]
    split <;> rfl

end Buffer

namespace Reception

/-- Less than half a cycle above the highest number and at most half a cycle below it. -/
def Near (g : Reception) (a : Arrival) : Prop :=
  ∀ s, g.span = some s → a.seq < s.high + 32768 ∧ s.high ≤ a.seq + 32768

/-- The packet counter has not returned to zero since the first counted packet. -/
def Counting (g : Reception) : Prop := g.span.isSome → g.buffer.stats.packetCount ≠ 0

/-- The buffer's counters in terms of the true numbers. -/
def Tracks (g : Reception) : Prop :=
  match g.span with
  | none => g.buffer.stats.packetCount = 0 ∧ g.buffer.cycles = 0
  | some s =>
      s.first ≤ s.high ∧ g.buffer.maxSeqNo = UInt16.ofNat s.high ∧
        g.buffer.cycles = UInt32.ofNat (65536 * (s.high / 65536 - s.first / 65536))

theorem receive_cases {crates : RtpCrates} {g g' : Reception} {a : Arrival} (numbered : a.Numbered)
    (h : g.receive crates a = some g') :
    ∃ c, Buffer.CalcStep crates g.buffer a.pkt a.time (UInt16.ofNat a.seq) c ∧ g' = g.record a c := by
  obtain ⟨c, called, recorded⟩ := Option.map_eq_some_iff.mp h
  obtain ⟨sn, step⟩ := Buffer.calc_step called
  have same : sn = UInt16.ofNat a.seq := Option.some.inj (step.read.symm.trans numbered)
  rw [same] at step
  exact ⟨c, step, recorded.symm⟩

theorem record_span_some {g : Reception} {s : Span} (before : g.span = some s) (a : Arrival)
    (c : Buffer.Calc) : (g.record a c).span = some ⟨s.first, max s.high a.seq⟩ := by
  simp only [record, spanAfter, before]

theorem record_span_none {g : Reception} (before : g.span = none) (a : Arrival) {c : Buffer.Calc}
    (counted : c.exit.counted = true) : (g.record a c).span = some ⟨a.seq, a.seq⟩ := by
  simp only [record, spanAfter, before, counted, if_true]

theorem receive_span {crates : RtpCrates} {g g' : Reception} {a : Arrival} (h : g.receive crates a = some g') :
    ∃ exit, g'.span = spanAfter g.span a.seq exit := by
  obtain ⟨c, -, recorded⟩ := Option.map_eq_some_iff.mp h
  exact ⟨c.exit, recorded ▸ rfl⟩

/-- Numbers from half a cycle are near one another in whatever order they arrive. -/
theorem guarded_near_of_band {crates : RtpCrates} {P : Arrival → Prop} (low : Nat) {arrivals : List Arrival}
    (band : ∀ a ∈ arrivals, P a ∧ low ≤ a.seq ∧ a.seq < low + 32768) {g : Reception}
    (start : ∀ s, g.span = some s → low ≤ s.high ∧ s.high < low + 32768) :
    Guarded (receive crates) (fun g a => P a ∧ g.Near a) g arrivals := by
  induction arrivals generalizing g with
  | nil => trivial
  | cons a rest ih =>
      obtain ⟨holds, above, below⟩ := band a (List.mem_cons_self ..)
      refine ⟨⟨holds, fun s found => ?_⟩, fun g' h => ?_⟩
      · have := start s found
        omega
      · refine ih (fun b later => band b (List.mem_cons_of_mem _ later)) fun s found => ?_
        obtain ⟨exit, span⟩ := receive_span h
        rw [span] at found
        unfold spanAfter at found
        split at found
        · rename_i s₀ before
          have := start s₀ before
          cases found
          simp only
          omega
        · split at found
          · cases found
            exact ⟨above, below⟩
          · cases found

theorem receive_tracks {crates : RtpCrates} {g g' : Reception} {a : Arrival} (numbered : a.Numbered)
    (near : g.Near a) (counting : g.Counting) (inv : g.Tracks) (h : g.receive crates a = some g') :
    g'.Tracks := by
  obtain ⟨c, step, rfl⟩ := receive_cases numbered h
  unfold Tracks at inv ⊢
  cases before : g.span with
  | none =>
      rw [before] at inv
      obtain ⟨uncounted, no_cycle⟩ := inv
      have max_seq := step.maxSeqNo
      have cycles := step.cycles
      have count := step.packetCount
      rw [Buffer.trackSequence_first uncounted] at max_seq cycles
      simp only [record, spanAfter, before]
      cases counted : c.exit.counted with
      | false =>
          rw [counted] at count
          exact ⟨count.trans uncounted, cycles.trans no_cycle⟩
      | true =>
          refine ⟨le_refl _, max_seq, ?_⟩
          rw [cycles, no_cycle, Nat.sub_self]
          rfl
  | some s =>
      rw [before] at inv
      obtain ⟨le, at_high, at_cycle⟩ := inv
      obtain ⟨above, below⟩ := near s before
      have counted := counting (by rw [before]; rfl)
      rw [record_span_some before]
      refine ⟨le_trans le (le_max_left _ _), ?_, ?_⟩
      · exact step.maxSeqNo.trans (Buffer.trackSequence_max counted at_high above below a.time)
      · exact step.cycles.trans (Buffer.trackSequence_cycles counted at_high above below le at_cycle a.time)

/-- Every emitted packet is marked as head exactly when its number was the highest. -/
def HeadsMarked (g : Reception) : Prop :=
  List.Forall₂ (fun (ep : ExtPacket) (m : Nat × Nat) => ep.head = true ↔ m.1 = m.2)
    g.buffer.extPackets g.moments

theorem emitted_counted {exit : CalcExit} (h : exit.emitted = true) : exit.counted = true := by
  cases exit with
  | rejected err => cases h
  | malformed => cases h
  | badPayload err => cases h
  | complete => rfl

/-- The span after a counted packet reaches its number and stays near it. -/
theorem record_high {g : Reception} {a : Arrival} {c : Buffer.Calc} (near : g.Near a)
    (counted : c.exit.counted = true) :
    ∃ s, (g.record a c).span = some s ∧ a.seq ≤ s.high ∧ s.high ≤ a.seq + 32768 := by
  cases before : g.span with
  | none => exact ⟨_, record_span_none before a counted, le_refl _, Nat.le_add_right _ _⟩
  | some s =>
      obtain ⟨above, below⟩ := near s before
      exact ⟨_, record_span_some before a c, le_max_right _ _, max_le below (Nat.le_add_right _ _)⟩

theorem receive_heads {crates : RtpCrates} {g g' : Reception} {a : Arrival} (numbered : a.Numbered)
    (near : g.Near a) (counting : g.Counting) (inv : g.Tracks) (heads : g.HeadsMarked)
    (h : g.receive crates a = some g') : g'.HeadsMarked := by
  have after := receive_tracks numbered near counting inv h
  obtain ⟨c, step, rfl⟩ := receive_cases numbered h
  have emits := step.emits
  unfold HeadsMarked at heads ⊢
  simp only [record] at emits ⊢
  cases emitted : c.exit.emitted with
  | false =>
      rw [emitted] at emits
      simp only [Bool.false_eq_true, if_false] at emits ⊢
      rwa [emits]
  | true =>
      rw [emitted] at emits
      simp only [if_true] at emits ⊢
      obtain ⟨ep, appended, marked⟩ := emits
      obtain ⟨s, reached, le, close⟩ := record_high (c := c) near (emitted_counted emitted)
      rw [Tracks, reached] at after
      have moment : spanAfter g.span a.seq c.exit = some s := reached
      rw [appended, moment]
      refine List.rel_append heads (.cons ?_ .nil)
      have max_seq : c.buffer.maxSeqNo = UInt16.ofNat s.high := after.2.1
      rw [marked, max_seq, beq_iff_eq]
      constructor
      · exact ofNat_inj16_of_near le (by omega)
      · intro same
        exact congrArg UInt16.ofNat same

/-- Every arrival carries its number, is near the highest one, and finds the counter running. -/
def Followed (g : Reception) (a : Arrival) : Prop := a.Numbered ∧ g.Near a ∧ g.Counting

theorem run_tracks {crates : RtpCrates} {g g' : Reception} {arrivals : List Arrival} (start : g.Tracks)
    (heads : g.HeadsMarked) (guarded : Guarded (receive crates) Followed g arrivals)
    (reached : run (receive crates) g arrivals = some g') : g'.Tracks ∧ g'.HeadsMarked := by
  refine run_invariant (fun g => g.Tracks ∧ g.HeadsMarked) ?_ ⟨start, heads⟩ guarded reached
  intro g a g' inv followed h
  obtain ⟨numbered, near, counting⟩ := followed
  exact ⟨receive_tracks numbered near counting inv.1 h,
    receive_heads numbered near counting inv.1 inv.2 h⟩

theorem start_tracks {crates : RtpCrates} {b : Buffer} (opened : b.Opened crates) :
    Tracks { buffer := b } := ⟨opened.fresh.uncounted, opened.fresh.noCycle⟩

theorem start_heads {crates : RtpCrates} {b : Buffer} (opened : b.Opened crates) :
    HeadsMarked { buffer := b } := by
  unfold HeadsMarked
  rw [opened.fresh.noPackets]
  exact .nil

/-- The extended number `calc` would report is the highest true number. -/
def HighestKnown (g : Reception) : Prop :=
  ∀ s, g.span = some s → s.first < 65536 → s.high < 2 ^ 32 →
    (g.buffer.cycles ||| g.buffer.maxSeqNo.toUInt32).toNat = s.high

theorem Tracks.highestKnown {g : Reception} (tracks : g.Tracks) : g.HighestKnown := by
  intro s span first bound
  rw [Tracks, span] at tracks
  obtain ⟨-, at_high, at_cycle⟩ := tracks
  rw [at_high]
  apply join_ofNat
  rw [at_cycle, UInt32.toNat_ofNat']
  omega

theorem run_highestKnown {crates : RtpCrates} {b : Buffer} {arrivals : List Arrival} {g : Reception}
    (opened : b.Opened crates) (guarded : Guarded (receive crates) Followed { buffer := b } arrivals)
    (reached : run (receive crates) { buffer := b } arrivals = some g) : g.HighestKnown ∧ g.HeadsMarked := by
  obtain ⟨tracks, heads⟩ := run_tracks (start_tracks opened) (start_heads opened) guarded reached
  exact ⟨tracks.highestKnown, heads⟩

theorem run_highestKnown_two :
    ∃ g, run (receive bareCrates) { buffer := opusBuffer } [bareArrival 65535, bareArrival 65536] = some g ∧
      g.HighestKnown ∧ g.HeadsMarked := by
  obtain ⟨g, reached⟩ :
      ∃ g, run (receive bareCrates) { buffer := opusBuffer } [bareArrival 65535, bareArrival 65536] = some g :=
    Option.isSome_iff_exists.mp (by decide +kernel)
  refine ⟨g, reached, run_highestKnown opusBuffer_opened ?_ reached⟩
  refine ⟨⟨bareArrival_numbered _, fun s none => (nomatch none), fun some => (nomatch some)⟩, fun g₁ first => ?_⟩
  have after : (receive bareCrates { buffer := opusBuffer } (bareArrival 65535)).map
      (fun g => (g.span, g.buffer.stats.packetCount)) = some (some ⟨65535, 65535⟩, 1) := by decide +kernel
  rw [first] at after
  simp only [Option.map_some, Option.some.injEq, Prod.mk.injEq] at after
  refine ⟨⟨bareArrival_numbered _, fun s found => ?_, fun counted => ?_⟩, fun g₂ second => trivial⟩
  · cases found.symm.trans after.1
    decide
  · rw [after.2]
    decide

/-- An audio buffer after `n` copies of packet number five. -/
structure Copied (n : Nat) (g : Reception) : Prop where
  mime : g.buffer.mime = "audio/opus"
  bucket : ∃ r, g.buffer.bucket = some r ∧ r.WellFormed 24
  count : g.buffer.stats.packetCount = UInt32.ofNat n
  cycles : g.buffer.cycles = 0
  span : n ≠ 0 → g.span = some ⟨5, 5⟩ ∧ g.buffer.maxSeqNo = 5
  start : n = 0 → g.span = none

/-- A packet that becomes or repeats the head of an audio buffer is counted. -/
theorem receive_audio_head (seq : Nat) {g : Reception} (mime : g.buffer.mime = "audio/opus")
    (bucket : ∃ r, g.buffer.bucket = some r ∧ r.WellFormed 24)
    (head : (g.buffer.trackSequence (UInt16.ofNat seq) 0).1.maxSeqNo = UInt16.ofNat seq) :
    ∃ c r, Buffer.CalcStep bareCrates g.buffer (bareArrival seq).pkt 0 (UInt16.ofNat seq) c ∧
      g.receive bareCrates (bareArrival seq) = some (g.record (bareArrival seq) c) ∧ c.exit = .complete ∧
      c.buffer.bucket = some r ∧ r.WellFormed 24 := by
  obtain ⟨r, had, wf⟩ := bucket
  have sized : 4 ≤ (bareArrival seq).pkt.length ∧ (bareArrival seq).pkt.length ≤ 1498 := by
    change 4 ≤ 13 ∧ 13 ≤ 1498
    decide
  obtain ⟨inside, buf, added, written⟩ := Bucket.addPacket_latest wf sized.1 sized.2 (UInt16.ofNat seq)
  have latest : (UInt16.ofNat seq == (g.buffer.trackSequence (UInt16.ofNat seq) 0).1.maxSeqNo) = true := by
    rw [head, beq_self_eq_true]
  rw [← latest] at added
  obtain ⟨c, called, complete⟩ := Buffer.calc_plain (bareArrival_numbered seq)
    (by rw [mime]; decide) (by rw [mime]; decide) had added (bareArrival_parses seq)
  obtain ⟨sn, step⟩ := Buffer.calc_step called
  cases Option.some.inj (step.read.symm.trans (bareArrival_numbered seq))
  have store := step.store
  rw [had, step.maxSeqNo] at store
  obtain ⟨found, -⟩ := store.of_accepted added (bareArrival_parses seq)
  refine ⟨c, _, step, congrArg (Option.map _) called, complete, found, wf.steps, ?_, written.size ▸ wf.room⟩
  exact Nat.le_of_lt_succ (Nat.mod_lt _ (Nat.succ_pos 24))

/-- Every further copy is counted and leaves the head where it is. -/
theorem receive_copy {n : Nat} {g : Reception} (copied : g.Copied n) :
    ∃ g', g.receive bareCrates (bareArrival 5) = some g' ∧ g'.Copied (n + 1) := by
  have outcome : (g.buffer.trackSequence 5 0).1.maxSeqNo = 5 ∧ (g.buffer.trackSequence 5 0).1.cycles = 0 := by
    by_cases first : g.buffer.stats.packetCount = 0
    · rw [Buffer.trackSequence_first first]
      exact ⟨rfl, copied.cycles⟩
    · have some_copy : n ≠ 0 := fun none => first (by rw [copied.count, none]; rfl)
      have head := (copied.span some_copy).2
      rw [Buffer.trackSequence_forward first (by rw [head]; decide), head]
      exact ⟨rfl, copied.cycles⟩
  obtain ⟨c, r, step, received, complete, found, wf⟩ :=
    receive_audio_head 5 copied.mime copied.bucket outcome.1
  have counted : c.exit.counted = true := by rw [complete]; rfl
  refine ⟨_, received, step.mime.trans copied.mime, ⟨r, found, wf⟩, ?_, step.cycles.trans outcome.2, ?_,
    fun none => (nomatch none)⟩
  · change c.buffer.stats.packetCount = _
    rw [step.packetCount, counted, if_pos rfl, copied.count, UInt32.ofNat_add]
    rfl
  · refine fun _ => ⟨?_, step.maxSeqNo.trans outcome.1⟩
    by_cases none : n = 0
    · exact record_span_none (copied.start none) _ counted
    · exact record_span_some (copied.span none).1 _ c

theorem run_copies (n : Nat) {m : Nat} {g : Reception} (copied : g.Copied m) :
    ∃ g', run (receive bareCrates) g (List.replicate n (bareArrival 5)) = some g' ∧ g'.Copied (m + n) := by
  induction n generalizing m g with
  | zero => exact ⟨g, rfl, copied⟩
  | succ n ih =>
      obtain ⟨g₁, first, copied₁⟩ := receive_copy copied
      obtain ⟨g', rest, done⟩ := ih copied₁
      refine ⟨g', run_cons_eq_some.mpr ⟨g₁, first, rest⟩, ?_⟩
      rwa [Nat.add_assoc, Nat.add_comm 1] at done

/-- As many copies of one packet as the packet counter has values, and then the packet before it. -/
def wrappedCount : List Arrival := List.replicate (2 ^ 32) (bareArrival 5) ++ [bareArrival 4]

/-- After 2^32 counted packets the next one is taken for the first, and a late
packet becomes the highest. -/
theorem wrapped_count_restarts_tracking :
    opusBuffer.Opened bareCrates ∧
    Guarded (receive bareCrates) (fun g a => a.Numbered ∧ g.Near a) { buffer := opusBuffer } wrappedCount ∧
    ∃ g, run (receive bareCrates) { buffer := opusBuffer } wrappedCount = some g ∧ ¬ g.HighestKnown := by
  refine ⟨opusBuffer_opened, ?_, ?_⟩
  · refine guarded_near_of_band 0 (fun a among => ?_) fun s none => (nomatch none)
    rcases List.mem_append.mp among with copy | late
    · rw [List.eq_of_mem_replicate copy]
      exact ⟨bareArrival_numbered 5, by decide, by decide⟩
    · rw [List.mem_singleton.mp late]
      exact ⟨bareArrival_numbered 4, by decide, by decide⟩
  · have start : Copied 0 { buffer := opusBuffer } :=
      ⟨rfl, ⟨_, rfl, Bucket.new_wellFormed rfl⟩, rfl, rfl, fun some_copy => absurd rfl some_copy, fun _ => rfl⟩
    obtain ⟨g, copies, copied⟩ := run_copies (2 ^ 32) start
    have wrapped : g.buffer.stats.packetCount = 0 := by
      rw [copied.count]
      rfl
    have restart := Buffer.trackSequence_first wrapped (UInt16.ofNat 4) 0
    obtain ⟨c, r, step, received, complete, -, -⟩ :=
      receive_audio_head 4 copied.mime copied.bucket (by rw [restart])
    refine ⟨_, run_snoc_eq_some.mpr ⟨g, copies, received⟩, fun known => ?_⟩
    have high := record_span_some (copied.span (by decide)).1 (bareArrival 4) c
    have reported := known _ high (by decide) (by decide)
    have max_seq : c.buffer.maxSeqNo = 4 := by
      rw [step.maxSeqNo, restart]
      rfl
    have cycles : c.buffer.cycles = 0 := by
      rw [step.cycles, restart]
      exact copied.cycles
    change (c.buffer.cycles ||| c.buffer.maxSeqNo.toUInt32).toNat = 5 at reported
    rw [max_seq, cycles] at reported
    exact absurd reported (by decide)

end Reception

end Rsfu
