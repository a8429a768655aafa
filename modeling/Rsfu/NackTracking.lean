import Rsfu.NackPacking
import Rsfu.SequenceTracking
import Mathlib.Data.Set.Insert
import Mathlib.Order.BooleanAlgebra.Set

/-! The queue of missing numbers over whole runs of `calc`. A skipped number is
pushed, and its late arrival removed, under its true extended number, as long
as no gap skips a number just before a half or a whole cycle is full. -/
namespace Rsfu
open SerialNumber GuardedRun

theorem extSn_join {cycles : UInt32} {maxSeqNo : UInt16} {n : Nat} (bound : n < 2 ^ 32)
    (at_cycle : cycles = UInt32.ofNat (65536 * (n / 65536)))
    (direct : ¬(UInt16.ofNat n > maxSeqNo ∧ UInt16.ofNat n &&& 0x8000 > 0 ∧ maxSeqNo &&& 0x8000 = 0)) :
    extSn cycles maxSeqNo (UInt16.ofNat n) = UInt32.ofNat n := by
  unfold extSn
  rw [if_neg direct, ← UInt32.toNat_inj, UInt32.toNat_ofNat', Nat.mod_eq_of_lt bound]
  apply join_ofNat
  rw [at_cycle, UInt32.toNat_ofNat']
  omega

/-- A skipped number gets its true extended number when the gap meets neither
the last number of a cycle nor the first of its second half. -/
theorem extSn_skipped {cycles : UInt32} {high seq n : Nat} (after : high < n) (before : n < seq)
    (near : seq < high + 32768) (bound : seq < 2 ^ 32) (at_cycle : cycles = UInt32.ofNat (65536 * (seq / 65536)))
    (clean : ∀ k, high < k → k < seq → k % 65536 ≠ 32768 ∧ k % 65536 ≠ 65535) :
    extSn cycles (UInt16.ofNat high) (UInt16.ofNat n) = UInt32.ofNat n := by
  have half := clean (high / 65536 * 65536 + 32768)
  have last := clean (high / 65536 * 65536 + 65535)
  refine extSn_join (by omega) ?_ ?_
  · rw [at_cycle]
    congr 2
    omega
  · rintro ⟨larger, set, clear⟩
    rw [gt_iff_lt, ofNat_lt_ofNat16] at larger
    rw [gt_iff_lt, high_bit_set_iff, toNat_ofNat16] at set
    rw [high_bit_clear_iff, toNat_ofNat16] at clear
    omega

/-- A late number gets its true extended number. -/
theorem extSn_late {cycles : UInt32} {high seq : Nat} (late : seq < high) (near : high ≤ seq + 32768)
    (bound : high < 2 ^ 32) (at_cycle : cycles = UInt32.ofNat (65536 * (high / 65536))) :
    extSn cycles (UInt16.ofNat high) (UInt16.ofNat seq) = UInt32.ofNat seq := by
  by_cases same : seq / 65536 = high / 65536
  · refine extSn_join (by omega) (same ▸ at_cycle) ?_
    rintro ⟨larger, -, -⟩
    rw [gt_iff_lt, ofNat_lt_ofNat16] at larger
    omega
  · have larger : UInt16.ofNat seq > UInt16.ofNat high := by
      rw [gt_iff_lt, ofNat_lt_ofNat16]
      omega
    have set : UInt16.ofNat seq &&& 0x8000 > 0 := by
      rw [gt_iff_lt, high_bit_set_iff, toNat_ofNat16]
      omega
    have clear : UInt16.ofNat high &&& 0x8000 = 0 := by
      rw [high_bit_clear_iff, toNat_ofNat16]
      omega
    have next : high / 65536 = seq / 65536 + 1 := by omega
    unfold extSn
    rw [if_pos ⟨larger, set, clear⟩, at_cycle, next, ← Buffer.extend_cycles, UInt32.add_sub_cancel,
      ← UInt32.toNat_inj, UInt32.toNat_ofNat', Nat.mod_eq_of_lt (by omega)]
    apply join_ofNat
    rw [UInt32.toNat_ofNat']
    omega

theorem gapCalls_eq {cycles : UInt32} {high seq : Nat} (le : high ≤ seq) (near : seq < high + 32768)
    (bound : seq < 2 ^ 32) (at_cycle : cycles = UInt32.ofNat (65536 * (seq / 65536)))
    (clean : ∀ k, high < k → k < seq → k % 65536 ≠ 32768 ∧ k % 65536 ≠ 65535) :
    gapCalls cycles (UInt16.ofNat high) (UInt16.ofNat seq) =
      (List.range' 1 (seq - high - 1)).map fun i => .push (UInt32.ofNat (seq - i)) := by
  have gap : (UInt16.ofNat seq - UInt16.ofNat high).toNat = seq - high := by
    rw [ofNat_sub16 le, toNat_ofNat16]
    omega
  unfold gapCalls
  rw [gap]
  refine List.map_congr_left fun i among => ?_
  obtain ⟨from_one, below⟩ := List.mem_range'_1.mp among
  rw [ofNat_sub16 (by omega), extSn_skipped (by omega) (by omega) near bound at_cycle clean]

/-- What a sequence of calls has pushed and not removed again. -/
def applyCall (missing : Set UInt32) : NackCall → Set UInt32
  | .push sn => insert sn missing
  | .remove sn => missing \ {sn}

def outstanding (calls : List NackCall) : Set UInt32 := calls.foldl applyCall ∅

theorem outstanding_append (calls more : List NackCall) :
    outstanding (calls ++ more) = more.foldl applyCall (outstanding calls) := List.foldl_append

theorem foldl_pushes (sns : List UInt32) (missing : Set UInt32) (n : UInt32) :
    n ∈ (sns.map NackCall.push).foldl applyCall missing ↔ n ∈ missing ∨ n ∈ sns := by
  induction sns generalizing missing with
  | nil => simp
  | cons sn sns ih =>
      rw [List.map_cons, List.foldl_cons, ih, List.mem_cons, applyCall, Set.mem_insert_iff]
      tauto

namespace Buffer

theorem trackSequence_pushes {b : Buffer} {high seq : Nat} (counted : b.stats.packetCount ≠ 0)
    (nack : b.nack = true) (at_high : b.maxSeqNo = UInt16.ofNat high) (above : seq < high + 32768)
    (le : high ≤ seq) (arrivalTime : Int) :
    (b.trackSequence (UInt16.ofNat seq) arrivalTime).2 =
      gapCalls (b.trackSequence (UInt16.ofNat seq) arrivalTime).1.cycles (UInt16.ofNat high)
        (UInt16.ofNat seq) := by
  have forward := (forward_iff at_high above (by omega)).mpr le
  rw [trackSequence_forward counted forward, ← at_high]
  simp only [nack, if_true]

theorem trackSequence_removes {b : Buffer} {high seq : Nat} (counted : b.stats.packetCount ≠ 0)
    (nack : b.nack = true) (at_high : b.maxSeqNo = UInt16.ofNat high) (late : seq < high)
    (below : high ≤ seq + 32768) (arrivalTime : Int) :
    (b.trackSequence (UInt16.ofNat seq) arrivalTime).2 =
      [.remove (extSn b.cycles (UInt16.ofNat high) (UInt16.ofNat seq))] := by
  have back : distance (UInt16.ofNat seq) b.maxSeqNo &&& 0x8000 ≠ 0 := by
    intro clear
    have := (forward_iff at_high (by omega) below).mp clear
    omega
  have set : 0 < distance (UInt16.ofNat seq) b.maxSeqNo &&& 0x8000 := by
    rw [high_bit_set_iff]
    have := (high_bit_clear_iff _).not.mp back
    omega
  rw [trackSequence_late counted back, if_pos ⟨nack, set⟩, at_high]

end Buffer

namespace Reception

/-- The true numbers between the first and the highest that have not arrived. -/
def missingFrom (first high : Nat) (arrived : List Nat) : Set UInt32 :=
  {n | ∃ k, first < k ∧ k < high ∧ k ∉ arrived ∧ n = UInt32.ofNat k}

def missing (g : Reception) (s : Span) : Set UInt32 := missingFrom s.first s.high g.arrived

theorem missing_forward {first high seq : Nat} {arrived : List Nat} (le_high : first ≤ high) (le : high ≤ seq)
    (high_arrived : high ∈ arrived) (to_high : ∀ k ∈ arrived, k ≤ high) (n : UInt32) :
    n ∈ missingFrom first seq (seq :: arrived) ↔
      n ∈ missingFrom first high arrived ∨
        n ∈ (List.range' 1 (seq - high - 1)).map fun i => UInt32.ofNat (seq - i) := by
  constructor
  · rintro ⟨k, above, below, absent, rfl⟩
    have absent_before : k ∉ arrived := fun among => absent (List.mem_cons_of_mem _ among)
    rcases Nat.lt_trichotomy k high with before | rfl | skipped
    · exact Or.inl ⟨k, above, before, absent_before, rfl⟩
    · exact absurd high_arrived absent_before
    · refine Or.inr (List.mem_map.mpr ⟨seq - k, List.mem_range'_1.mpr ⟨by omega, by omega⟩, ?_⟩)
      rw [Nat.sub_sub_self below.le]
  · rintro (⟨k, above, below, absent, rfl⟩ | skipped)
    · refine ⟨k, above, by omega, ?_, rfl⟩
      rintro among
      rcases List.mem_cons.mp among with rfl | old
      · omega
      · exact absent old
    · obtain ⟨i, among, rfl⟩ := List.mem_map.mp skipped
      obtain ⟨from_one, below⟩ := List.mem_range'_1.mp among
      refine ⟨seq - i, by omega, by omega, ?_, rfl⟩
      rintro arrived_already
      rcases List.mem_cons.mp arrived_already with same | old
      · omega
      · have := to_high _ old
        omega

theorem missing_late {first high seq : Nat} {arrived : List Nat} (late : seq < high) (bound : high < 2 ^ 32)
    (n : UInt32) :
    n ∈ missingFrom first high (seq :: arrived) ↔
      n ∈ missingFrom first high arrived \ {UInt32.ofNat seq} := by
  constructor
  · rintro ⟨k, above, below, absent, rfl⟩
    refine ⟨⟨k, above, below, fun among => absent (List.mem_cons_of_mem _ among), rfl⟩, fun same => ?_⟩
    have equal := (ofNat_inj32 (by omega) (by omega)).mp (Set.mem_singleton_iff.mp same)
    exact absent (List.mem_cons.mpr (Or.inl equal))
  · rintro ⟨⟨k, above, below, absent, rfl⟩, other⟩
    refine ⟨k, above, below, fun among => ?_, rfl⟩
    rcases List.mem_cons.mp among with rfl | old
    · exact other rfl
    · exact absent old

/-- The gap in front of a packet skips neither the last number of a cycle nor
the first of its second half. -/
def CleanGap (g : Reception) (a : Arrival) : Prop :=
  ∀ s, g.span = some s → ∀ k, s.high < k → k < a.seq → k % 65536 ≠ 32768 ∧ k % 65536 ≠ 65535

def NacksTrack (g : Reception) : Prop :=
  g.buffer.nack = true ∧
    match g.span with
    | none => g.calls = [] ∧ g.arrived = []
    | some s =>
        s.high ∈ g.arrived ∧ (∀ k ∈ g.arrived, k ≤ s.high) ∧
          (s.first < 65536 → s.high < 2 ^ 32 → outstanding g.calls = g.missing s)

/-- The calls made for one packet turn the numbers missing before it into those
missing after it. -/
theorem calls_missing {b : Buffer} {first high seq : Nat} {arrived : List Nat} (counted : b.stats.packetCount ≠ 0)
    (nack : b.nack = true) (at_high : b.maxSeqNo = UInt16.ofNat high)
    (at_cycle : b.cycles = UInt32.ofNat (65536 * (high / 65536 - first / 65536))) (low_first : first < 65536)
    (above : seq < high + 32768) (below : high ≤ seq + 32768) (bound : max high seq < 2 ^ 32)
    (clean : ∀ k, high < k → k < seq → k % 65536 ≠ 32768 ∧ k % 65536 ≠ 65535) (le_high : first ≤ high)
    (high_arrived : high ∈ arrived) (to_high : ∀ k ∈ arrived, k ≤ high) (arrivalTime : Int) :
    (b.trackSequence (UInt16.ofNat seq) arrivalTime).2.foldl applyCall (missingFrom first high arrived) =
      missingFrom first (max high seq) (seq :: arrived) := by
  have bound_high : high < 2 ^ 32 := lt_of_le_of_lt (le_max_left _ _) bound
  have bound_seq : seq < 2 ^ 32 := lt_of_le_of_lt (le_max_right _ _) bound
  have no_first : first / 65536 = 0 := Nat.div_eq_of_lt low_first
  ext n
  by_cases le : high ≤ seq
  · have next := Buffer.trackSequence_cycles counted at_high above below le_high at_cycle arrivalTime
    rw [max_eq_right le, no_first, Nat.sub_zero] at next
    have pushes : (fun i => NackCall.push (UInt32.ofNat (seq - i))) =
        NackCall.push ∘ fun i => UInt32.ofNat (seq - i) := rfl
    rw [Buffer.trackSequence_pushes counted nack at_high above le arrivalTime,
      gapCalls_eq le above bound_seq next clean, max_eq_right le,
      missing_forward le_high le high_arrived to_high, pushes, ← List.map_map, foldl_pushes]
  · have late : seq < high := Nat.lt_of_not_le le
    rw [no_first, Nat.sub_zero] at at_cycle
    rw [Buffer.trackSequence_removes counted nack at_high late below arrivalTime,
      extSn_late late below bound_high at_cycle, max_eq_left late.le, missing_late late bound_high]
    rfl

/-- Nothing is missing between a number and itself. -/
theorem missing_none (first : Nat) (arrived : List Nat) : missingFrom first first arrived = ∅ := by
  apply Set.eq_empty_of_forall_notMem
  rintro n ⟨k, above, below, -, -⟩
  exact absurd above (Nat.lt_asymm below)

/-- Up to the first counted packet no call is made. -/
theorem receive_nacks_first {crates : RtpCrates} {g : Reception} {a : Arrival} {c : Buffer.Calc}
    (step : Buffer.CalcStep crates g.buffer a.pkt a.time (UInt16.ofNat a.seq) c)
    (before : g.span = none) (tracks : g.Tracks) (inv : g.NacksTrack) : (g.record a c).NacksTrack := by
  obtain ⟨nack, inv⟩ := inv
  refine ⟨step.nack.trans nack, ?_⟩
  unfold Tracks at tracks
  rw [before] at inv tracks
  have silent : c.calls = [] := by rw [step.calls, Buffer.trackSequence_first tracks.1]
  have quiet : (g.record a c).calls = [] := by
    change g.calls ++ c.calls = []
    rw [inv.1, silent]
    rfl
  cases counted : c.exit.counted with
  | false =>
      have after : spanAfter g.span a.seq c.exit = none := by
        simp only [spanAfter, before, counted, Bool.false_eq_true, if_false]
      have still : (g.record a c).span = none := after
      rw [still]
      refine ⟨quiet, ?_⟩
      simp only [record, after, Option.isSome_none, Bool.false_eq_true, if_false, inv.2]
  | true =>
      have after : spanAfter g.span a.seq c.exit = some ⟨a.seq, a.seq⟩ := record_span_none before a counted
      have arrived : (g.record a c).arrived = [a.seq] := by
        simp only [record, after, Option.isSome_some, if_true, inv.2]
      rw [record_span_none before a counted, arrived, quiet]
      refine ⟨List.mem_singleton.mpr rfl, fun k among => (List.mem_singleton.mp among).le, fun _ _ => ?_⟩
      exact (missing_none _ _).symm

theorem receive_nacks {crates : RtpCrates} {g g' : Reception} {a : Arrival} (numbered : a.Numbered)
    (near : g.Near a) (counting : g.Counting) (clean : g.CleanGap a) (tracks : g.Tracks) (inv : g.NacksTrack)
    (h : g.receive crates a = some g') : g'.NacksTrack := by
  obtain ⟨c, step, rfl⟩ := receive_cases numbered h
  cases before : g.span with
  | none => exact receive_nacks_first step before tracks inv
  | some s =>
      obtain ⟨nack, inv⟩ := inv
      refine ⟨step.nack.trans nack, ?_⟩
      unfold Tracks at tracks
      rw [before] at inv tracks
      obtain ⟨arrived_high, to_high, known⟩ := inv
      obtain ⟨le_high, at_high, at_cycle⟩ := tracks
      obtain ⟨above, below⟩ := near s before
      have counted := counting (by rw [before]; rfl)
      have after : spanAfter g.span a.seq c.exit = some ⟨s.first, max s.high a.seq⟩ := record_span_some before a c
      have arrived : (g.record a c).arrived = a.seq :: g.arrived := by
        simp only [record, after, Option.isSome_some, if_true]
      rw [record_span_some before, arrived]
      refine ⟨?_, ?_, fun low_first bound => ?_⟩
      · rcases max_choice s.high a.seq with same | same <;> rw [same]
        · exact List.mem_cons_of_mem _ arrived_high
        · exact List.mem_cons_self ..
      · intro k among
        rcases List.mem_cons.mp among with rfl | old
        · exact le_max_right _ _
        · exact le_max_of_le_left (to_high k old)
      · have bound_high : s.high < 2 ^ 32 := lt_of_le_of_lt (le_max_left _ _) bound
        have calls : (g.record a c).calls = g.calls ++ c.calls := rfl
        rw [calls, outstanding_append, known low_first bound_high, step.calls, missing, missing, arrived]
        exact calls_missing counted nack at_high at_cycle low_first above below bound (clean s before) le_high
          arrived_high to_high a.time

/-- The queue holds what is outstanding, less what feedback rounds took off it. -/
def QueueTracks (g : Reception) : Prop :=
  ∀ q, g.buffer.nacker = some q →
    q.Ordered ∧ (∀ n ∈ q.numbers, n ∈ outstanding g.calls) ∧
      ∀ n ∈ outstanding g.calls, n ∈ q.numbers ∨ n ∈ g.retired

theorem call_ordered {q : NackQueue} (ordered : q.Ordered) (call : NackCall) : (q.call call).Ordered := by
  cases call with
  | push sn => exact NackQueue.push_ordered ordered sn
  | remove sn => exact NackQueue.remove_ordered ordered sn

theorem call_numbers {q : NackQueue} (ordered : q.Ordered) (call : NackCall) :
    {n | n ∈ (q.call call).numbers} = applyCall {n | n ∈ q.numbers} call := by
  ext n
  cases call with
  | push sn => exact (NackQueue.push_numbers ordered sn n).trans or_comm
  | remove sn => exact NackQueue.remove_numbers ordered sn n

theorem calls_numbers {q : NackQueue} (ordered : q.Ordered) (calls : List NackCall) :
    (calls.foldl NackQueue.call q).Ordered ∧
      {n | n ∈ (calls.foldl NackQueue.call q).numbers} = calls.foldl applyCall {n | n ∈ q.numbers} := by
  induction calls generalizing q with
  | nil => exact ⟨ordered, rfl⟩
  | cons call calls ih =>
      rw [List.foldl_cons, List.foldl_cons, ← call_numbers ordered]
      exact ih (call_ordered ordered call)

/-- Two sets that differ by retired numbers still do after the same calls. -/
theorem applyCalls_retired {held known retired : Set UInt32} (sub : held ⊆ known) (cover : known ⊆ held ∪ retired)
    (calls : List NackCall) :
    calls.foldl applyCall held ⊆ calls.foldl applyCall known ∧
      calls.foldl applyCall known ⊆ calls.foldl applyCall held ∪ retired := by
  induction calls generalizing held known with
  | nil => exact ⟨sub, cover⟩
  | cons call calls ih =>
      refine ih ?_ ?_
      · cases call with
        | push sn => exact Set.insert_subset_insert sub
        | remove sn => exact Set.sdiff_subset_sdiff_left sub
      · cases call with
        | push sn =>
            rintro n (rfl | old)
            · exact Or.inl (Set.mem_insert _ _)
            · exact (cover old).imp_left (Set.mem_insert_of_mem _)
        | remove sn =>
            rintro n ⟨old, other⟩
            exact (cover old).imp_left fun held => ⟨held, other⟩

theorem mem_retiredBy {q q' : NackQueue} {calls : List NackCall} {n : UInt32}
    (held : n ∈ (calls.foldl NackQueue.call q).numbers) (gone : n ∉ q'.numbers) :
    n ∈ retiredBy (some q) calls (some q') := by
  refine List.mem_filter.mpr ⟨held, ?_⟩
  rw [Bool.not_eq_true', ← Bool.not_eq_true, List.contains_iff_mem]
  exact gone

theorem receive_queue {crates : RtpCrates} {g g' : Reception} {a : Arrival} (numbered : a.Numbered)
    (inv : g.QueueTracks) (h : g.receive crates a = some g') : g'.QueueTracks := by
  obtain ⟨c, step, rfl⟩ := receive_cases numbered h
  intro q' found
  have nacker := step.nacker
  change c.buffer.nacker = some q' at found
  rw [found] at nacker
  obtain ⟨q, had, after⟩ := Option.map_eq_some_iff.mp nacker.symm
  obtain ⟨ordered, sub, cover⟩ := inv q had
  have held_sub : {n | n ∈ q.numbers} ⊆ outstanding g.calls := sub
  have held_cover : outstanding g.calls ⊆ {n | n ∈ q.numbers} ∪ {n | n ∈ g.retired} := cover
  obtain ⟨called_ordered, called_numbers⟩ := calls_numbers ordered c.calls
  obtain ⟨called_sub, called_cover⟩ := applyCalls_retired held_sub held_cover c.calls
  rw [← called_numbers, ← outstanding_append] at called_sub called_cover
  have taken : (g.record a c).retired = g.retired ++ retiredBy (some q) c.calls (some q') := by
    rw [← had, ← found]
    rfl
  have kept : q'.Ordered ∧ ∀ n ∈ q'.numbers, n ∈ (c.calls.foldl NackQueue.call q).numbers := by
    rw [← after]
    simp only
    split
    · exact ⟨NackQueue.pairs_ordered called_ordered _, fun n among => (NackQueue.pairs_numbers _ _).subset among⟩
    · exact ⟨called_ordered, fun n among => among⟩
  refine ⟨kept.1, fun n among => called_sub (kept.2 n among), fun n known => ?_⟩
  rw [taken, List.mem_append]
  rcases called_cover known with held | old
  · by_cases still : n ∈ q'.numbers
    · exact Or.inl still
    · exact Or.inr (Or.inr (mem_retiredBy held still))
  · exact Or.inr (Or.inl old)

/-- The numbers asked for are the true missing ones, in the calls and in the queue. -/
def NacksExact (g : Reception) : Prop :=
  ∀ s, g.span = some s → s.first < 65536 → s.high < 2 ^ 32 →
    outstanding g.calls = g.missing s ∧
      ∀ q, g.buffer.nacker = some q →
        (∀ n ∈ q.numbers, n ∈ g.missing s) ∧ ∀ n ∈ g.missing s, n ∈ q.numbers ∨ n ∈ g.retired

def KeepsNacks (g : Reception) (a : Arrival) : Prop := (a.Numbered ∧ g.Near a) ∧ g.Counting ∧ g.CleanGap a

theorem run_nacksExact {crates : RtpCrates} {b : Buffer} {arrivals : List Arrival} {g : Reception}
    (opened : b.Opened crates) (nack : b.nack = true)
    (guarded : Guarded (receive crates) KeepsNacks { buffer := b } arrivals)
    (reached : run (receive crates) { buffer := b } arrivals = some g) : g.NacksExact := by
  have inv : g.Tracks ∧ g.NacksTrack ∧ g.QueueTracks := by
    refine run_invariant (fun g => g.Tracks ∧ g.NacksTrack ∧ g.QueueTracks) ?_ ?_ guarded reached
    · intro g a g' inv guard h
      obtain ⟨tracks, nacks, queue⟩ := inv
      obtain ⟨⟨numbered, near⟩, counting, clean⟩ := guard
      exact ⟨receive_tracks numbered near counting tracks h,
        receive_nacks numbered near counting clean tracks nacks h, receive_queue numbered queue h⟩
    · refine ⟨start_tracks opened, ⟨nack, rfl, rfl⟩, fun q found => ?_⟩
      rw [opened.fresh.nacker q found]
      exact ⟨List.Pairwise.nil, fun n among => (nomatch among), fun n known => absurd known (Set.notMem_empty n)⟩
  obtain ⟨-, nacks, queue⟩ := inv
  intro s span low_first bound
  have known := nacks.2
  rw [span] at known
  have exact_calls := known.2.2 low_first bound
  refine ⟨exact_calls, fun q found => ?_⟩
  obtain ⟨-, sub, cover⟩ := queue q found
  rw [exact_calls] at sub cover
  exact ⟨sub, cover⟩

theorem run_nacksExact_gap :
    ∃ g, run (receive bareCrates) { buffer := vp9Buffer } [bareArrival 1, bareArrival 4] = some g ∧
      g.NacksExact := by
  obtain ⟨g, reached⟩ :
      ∃ g, run (receive bareCrates) { buffer := vp9Buffer } [bareArrival 1, bareArrival 4] = some g :=
    Option.isSome_iff_exists.mp (by decide +kernel)
  refine ⟨g, reached, run_nacksExact vp9Buffer_opened rfl ?_ reached⟩
  refine ⟨⟨⟨bareArrival_numbered _, fun s none => (nomatch none)⟩, fun some => (nomatch some),
    fun s none => (nomatch none)⟩, fun g₁ first => ?_⟩
  have after : (receive bareCrates { buffer := vp9Buffer } (bareArrival 1)).map
      (fun g => (g.span, g.buffer.stats.packetCount)) = some (some ⟨1, 1⟩, 1) := by decide +kernel
  rw [first] at after
  simp only [Option.map_some, Option.some.injEq, Prod.mk.injEq] at after
  refine ⟨⟨⟨bareArrival_numbered _, fun s found => ?_⟩, fun counted => ?_, fun s found k above below => ?_⟩,
    fun g₂ second => trivial⟩
  · cases found.symm.trans after.1
    decide
  · rw [after.2]
    decide
  · cases found.symm.trans after.1
    change 1 < k at above
    change k < 4 at below
    omega

def halfCrossing : List Arrival := [bareArrival 32766, bareArrival 32771]

/-- A gap over the first number of the second half of a cycle is pushed a whole
cycle too low. -/
theorem half_crossing_pushes_wrong_cycle :
    vp9Buffer.Opened bareCrates ∧ vp9Buffer.nack = true ∧
    Guarded (receive bareCrates) (fun g a => a.Numbered ∧ g.Near a) { buffer := vp9Buffer } halfCrossing ∧
    ∃ g, run (receive bareCrates) { buffer := vp9Buffer } halfCrossing = some g ∧ ¬ g.NacksExact := by
  refine ⟨vp9Buffer_opened, rfl, ?_, ?_⟩
  · refine guarded_near_of_band 32000 (fun a among => ?_) fun s none => (nomatch none)
    simp only [halfCrossing, List.mem_cons, List.not_mem_nil, or_false] at among
    rcases among with rfl | rfl <;> exact ⟨bareArrival_numbered _, by decide, by decide⟩
  · obtain ⟨g, reached⟩ : ∃ g, run (receive bareCrates) { buffer := vp9Buffer } halfCrossing = some g :=
      Option.isSome_iff_exists.mp (by decide +kernel)
    refine ⟨g, reached, fun tracked => ?_⟩
    have left : (run (receive bareCrates) { buffer := vp9Buffer } halfCrossing).map
        (fun g => (g.span, g.arrived, g.calls)) =
        some (some ⟨32766, 32771⟩, [32771, 32766], [4294934530, 4294934529, 4294934528, 32767].map .push) := by
      decide +kernel
    rw [reached] at left
    simp only [Option.map_some, Option.some.injEq, Prod.mk.injEq] at left
    obtain ⟨span, arrived, calls⟩ := left
    obtain ⟨known, -⟩ := tracked _ span (by decide) (by decide)
    have absent : (32768 : UInt32) ∈ g.missing ⟨32766, 32771⟩ :=
      ⟨32768, by decide, by decide, by rw [arrived]; decide, rfl⟩
    rw [← known, calls, outstanding, foldl_pushes] at absent
    rcases absent with none | pushed
    · exact none
    · exact absurd pushed (by decide)

end Reception

end Rsfu
