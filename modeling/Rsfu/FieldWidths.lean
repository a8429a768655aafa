import Rsfu.ChunkCuts
import Rsfu.GuardedRun
import Rsfu.PacketLength

/-! The widths of what the feedback builder counts. A gap in the transport numbers becomes as
many statuses, and a run of equal statuses one chunk, however long it is. -/
namespace Rsfu
open GuardedRun

inductive ResponderOp where
  | push (sn : UInt16) (timeNs : Int)
  | build
  deriving DecidableEq, Repr

namespace Responder

/-- Every call goes through; a build may end with an error. -/
def step (crate : RtcpCrate) (r : Responder) : ResponderOp → Option Responder
  | .push sn timeNs => some (r.push sn timeNs)
  | .build => some (r.buildTransportCcPacket crate).1

/-- No gap is filled from behind the last number there is. -/
def FillsFit : UInt32 → List RtpExtInfo → Prop
  | _, [] => True
  | last, info :: rest =>
      (last ≤ info.extTsn → last.toNat + 1 < 4294967296) ∧ FillsFit (collect (last, []) info).1 rest

/-- What a build counts stays within the type or field it is counted in. `delta_len` counts
bytes that are there, and `p_len` is little more. -/
structure BuildFits (r : Responder) : Prop where
  packetCount : r.tccPkts.2.length < 65536
  nextNumber : FillsFit r.lastExtSn (sortExtInfos r.extInfo)
  runLength : ∀ count, .runLength count ∈ r.reportWrites → count < 8192
  pktCtn : r.pktCtn.toNat + headers {} r.tccPkts.2 < 256
  len : r.len.toNat + 2 * r.reportWrites.count .vector < 65536
  deltaLen : r.encoded.deltaLen ≤ r.encoded.deltas.length
  pLen : r.encoded.pLen + r.encoded.padSize ≤ r.encoded.deltas.length + 65542

def CountsFit (r : Responder) : ResponderOp → Prop
  | .push sn _ => sn < 0x0fff ∧ r.lastSn > 0xf000 → r.cycles.toNat + 65536 < 4294967296
  | .build => BuildFits r

/-- The arrivals a gap could be filled behind 2^32-1 for, with the last report. -/
def lastMarks (last : UInt32) (infos : List RtpExtInfo) : Nat :=
  infos.countP (fun info => info.extTsn = 4294967295) + if last = 4294967295 then 1 else 0

/-- No report lists more than 65535 entries or is cut into a run of more than 8191 statuses;
it is not the 256th with a header, and there is room for its vector chunks in `len`. -/
structure Spacious (r : Responder) : Prop where
  listed : r.entries.length ≤ 65535
  marks : lastMarks r.lastExtSn r.extInfo ≤ 1
  runs : ∀ count, .runLength count ∈ r.chunks → count ≤ 8191
  reports : (∃ info ∈ r.entries, info.timestamp ≠ 0) → r.pktCtn ≠ 255
  vectors : r.len.toNat + 2 * r.chunks.count .vector ≤ 65535

def WithinWidths (r : Responder) : ResponderOp → Prop
  | .push sn _ => sn < 0x0fff ∧ r.lastSn > 0xf000 → r.cycles ≠ 0xffff0000
  | .build => Spacious r

theorem lastMarks_sorted (last : UInt32) (infos : List RtpExtInfo) :
    lastMarks last (sortExtInfos infos) = lastMarks last infos :=
  congrArg (· + _) ((sortExtInfos_perm infos).countP_eq _)

/-- An arrival that is not below the last report is the only one of both with the last number. -/
theorem marks_taken {last : UInt32} {top : RtpExtInfo} {rest : List RtpExtInfo}
    (marks : lastMarks last (top :: rest) ≤ 1) (taken : ¬ top.extTsn < last) :
    last ≠ 4294967295 ∧ (top.extTsn = 4294967295 → ∀ info ∈ rest, info.extTsn ≠ top.extTsn) := by
  unfold lastMarks at marks
  rw [List.countP_cons] at marks
  simp only [decide_eq_true_eq] at marks
  constructor
  · intro full
    have order := UInt32.le_iff_toNat_le.mp (UInt32.not_lt.mp taken)
    have width := top.extTsn.toNat_lt
    rw [full] at order
    have topFull : top.extTsn = 4294967295 :=
      UInt32.toNat_inj.mp (Nat.le_antisymm (Nat.le_of_lt_succ width) order)
    rw [if_pos full, if_pos topFull] at marks
    omega
  · intro full info member same
    have some : 0 < rest.countP fun info => info.extTsn = 4294967295 :=
      List.countP_pos_iff.mpr ⟨info, member, decide_eq_true (same.trans full)⟩
    rw [if_pos full] at marks
    omega

theorem fillsFit_of_marks {infos : List RtpExtInfo} {last : UInt32} (marks : lastMarks last infos ≤ 1) :
    FillsFit last infos := by
  induction infos generalizing last with
  | nil => trivial
  | cons info rest ih =>
      refine ⟨?_, ih ?_⟩
      · intro above
        have inside : last.toNat ≠ 4294967295 :=
          fun full => (marks_taken marks (UInt32.not_lt.mpr above)).1 (UInt32.toNat_inj.mp full)
        have width := last.toNat_lt
        omega
      · unfold lastMarks at marks ⊢
        rw [List.countP_cons] at marks
        simp only [decide_eq_true_eq] at marks
        unfold collect
        split
        · dsimp only
          omega
        · dsimp only
          omega

theorem marks_of_fillsFit {infos : List RtpExtInfo} {last : UInt32} (fills : FillsFit last infos) :
    lastMarks last infos ≤ 1 := by
  induction infos generalizing last with
  | nil =>
      unfold lastMarks
      rw [List.countP_nil]
      split <;> decide
  | cons info rest ih =>
      obtain ⟨room, later⟩ := fills
      have marks := ih later
      unfold lastMarks at marks ⊢
      rw [List.countP_cons]
      simp only [decide_eq_true_eq]
      by_cases lower : info.extTsn < last
      · have inside : info.extTsn ≠ 4294967295 := by
          intro full
          have order := UInt32.lt_iff_toNat_lt.mp lower
          rw [full] at order
          exact absurd last.toNat_lt (Nat.not_lt.mpr order)
        rw [collect, if_pos lower] at marks
        rw [if_neg inside]
        exact marks
      · have order := room (UInt32.not_lt.mp lower)
        have inside : last ≠ 4294967295 := by
          rintro rfl
          exact absurd order (by decide)
        rw [collect, if_neg lower] at marks
        rw [if_neg inside]
        exact marks

theorem gapFill_length (first last : UInt32) : (gapFill first last).length = last.toNat - first.toNat := by
  unfold gapFill
  rw [List.length_map, List.length_range']

/-- Behind the highest arrival the ones with its number are listed again. -/
theorem foldl_collect_alike {rest : List RtpExtInfo} {top : UInt32} (pkts : List RtpExtInfo)
    (below : ∀ info ∈ rest, info.extTsn ≤ top) (single : top = 4294967295 → ∀ info ∈ rest, info.extTsn ≠ top) :
    (rest.foldl collect (top, pkts)).2 = pkts ++ rest.filter fun info => info.extTsn = top := by
  induction rest generalizing pkts with
  | nil => exact (List.append_nil pkts).symm
  | cons info rest ih =>
      have later (pkts : List RtpExtInfo) := ih pkts (fun other member => below other (List.mem_cons_of_mem _ member))
        (fun full other member => single full other (List.mem_cons_of_mem _ member))
      rw [List.foldl_cons, List.filter_cons]
      simp only [decide_eq_true_eq]
      by_cases lower : info.extTsn < top
      · rw [collect, if_pos lower, later, if_neg (UInt32.ne_of_lt lower)]
      · have same : info.extTsn = top :=
          UInt32.le_antisymm (below info List.mem_cons_self) (UInt32.not_lt.mp lower)
        have inside : top ≠ 4294967295 := fun full => single full info List.mem_cons_self same
        rw [collect_taken lower, same, later, if_pos rfl, reported_eq inside, same, between_self, ite_self,
          List.nil_append, List.append_assoc]
        rfl

theorem foldl_collect_low {infos : List RtpExtInfo} {acc : UInt32 × List RtpExtInfo}
    (low : ∀ info ∈ infos, info.extTsn < acc.1) : infos.foldl collect acc = acc := by
  induction infos with
  | nil => rfl
  | cons info rest ih =>
      rw [List.foldl_cons, collect, if_pos (low info List.mem_cons_self)]
      exact ih fun other member => low other (List.mem_cons_of_mem _ member)

/-- The collecting loop lists the entries of the report. -/
theorem tccPkts_entries {r : Responder} (marks : lastMarks r.lastExtSn r.extInfo ≤ 1) : r.tccPkts.2 = r.entries := by
  have sorted := sortExtInfos_sorted r.extInfo
  rw [← lastMarks_sorted] at marks
  rw [tccPkts_eq]
  unfold entries
  cases order : sortExtInfos r.extInfo with
  | nil =>
      have none : r.extInfo = [] := (order ▸ sortExtInfos_perm r.extInfo).nil_eq.symm
      rw [none]
      rfl
  | cons top rest =>
      rw [order] at sorted marks
      have below := (List.pairwise_cons.mp sorted).1
      rw [sorted_highest order]
      dsimp only
      split
      · rename_i low
        rw [foldl_collect_low]
        intro info member
        rcases List.mem_cons.mp member with rfl | later
        · exact low
        · exact UInt32.lt_of_le_of_lt (below info later) low
      · rename_i taken
        obtain ⟨inside, single⟩ := marks_taken marks taken
        rw [List.foldl_cons, collect_taken taken, foldl_collect_alike _ below single, List.nil_append,
          reported_eq inside, List.append_assoc]
        rfl

/-- Missing packets in front of the first received one wait in the pending list. -/
theorem loopWrites_waiting (pkts rest : List RtpExtInfo) {gap : List RtpExtInfo}
    (missing : ∀ stat ∈ gap, stat.timestamp = 0) (r : Responder) {l : StatusLoop} (waiting : Waiting l) :
    loopWrites pkts (gap ++ rest) r l =
      loopWrites pkts rest r (gap.foldl (fun l _ => enqueue l .packetNotReceived) l) := by
  induction gap generalizing l with
  | nil => rfl
  | cons stat gap ih =>
      have skipped := assignStatus_missing pkts r l (missing stat List.mem_cons_self)
      obtain ⟨-, next, -⟩ := encodeStatus_waiting (r := r) waiting
      have silent : turnWrites r l .packetNotReceived = [] := by
        have written := (encodeStatus_writes r l .packetNotReceived).payload
        rw [encodeStatus_joins waiting] at written
        dsimp only at written
        apply List.eq_nil_of_length_eq_zero
        omega
      rw [encodeStatus_joins waiting] at next
      rw [List.cons_append, loopWrites_cons pkts stat _ r l skipped, silent, encodeStatus_joins waiting]
      exact ih (fun other member => missing other (List.mem_cons_of_mem _ member)) next

theorem waiting_list (gap : List RtpExtInfo) (l : StatusLoop) :
    let l' := gap.foldl (fun l _ => enqueue l .packetNotReceived) l
    l'.same = l.same ∧ l'.statusList.length = l.statusList.length + gap.length ∧
      (gap ≠ [] → l'.lastStatus = .packetNotReceived) := by
  induction gap generalizing l with
  | nil => exact ⟨rfl, rfl, fun some => absurd rfl some⟩
  | cons stat gap ih =>
      obtain ⟨same, count, last⟩ := ih (enqueue l .packetNotReceived)
      refine ⟨same, ?_, fun _ => ?_⟩
      · rw [List.foldl_cons, count, List.length_cons, enqueue, List.length_append, List.length_singleton]
        omega
      · cases gap with
        | nil => rfl
        | cons _ _ => exact last (List.cons_ne_nil _ _)

/-- A report after the first starts with the numbers missing below the highest arrival. -/
theorem tccPkts_gap {r : Responder} {top : RtpExtInfo} {rest : List RtpExtInfo}
    (sorted : sortExtInfos r.extInfo = top :: rest) (started : r.lastExtSn ≠ 0) (taken : ¬ top.extTsn < r.lastExtSn) :
    ∃ more, r.tccPkts.2 = gapFill (r.lastExtSn + 1) top.extTsn ++ (top :: more) := by
  have below := sortExtInfos_sorted r.extInfo
  rw [sorted] at below
  obtain ⟨more, folded, -⟩ := foldl_collect_top (reported r.lastExtSn top) (List.pairwise_cons.mp below).1
  refine ⟨more, ?_⟩
  rw [tccPkts_eq, sorted, List.foldl_cons, collect_taken taken, List.nil_append, folded, reported, if_pos started,
    List.append_assoc]
  rfl

/-- The numbers missing in front of a received arrival are one run, counted by one chunk. -/
theorem gap_one_run {r : Responder} {top : RtpExtInfo} {rest : List RtpExtInfo}
    (sorted : sortExtInfos r.extInfo = top :: rest) (arrived : top.timestamp ≠ 0) (started : r.lastExtSn ≠ 0)
    (far : r.lastExtSn.toNat + 8 < top.extTsn.toNat) :
    .runLength (top.extTsn.toNat - r.lastExtSn.toNat - 1) ∈ r.reportWrites := by
  have taken : ¬ top.extTsn < r.lastExtSn := by
    intro lower
    have := UInt32.lt_iff_toNat_lt.mp lower
    omega
  obtain ⟨more, pkts⟩ := tccPkts_gap sorted started taken
  have count : (gapFill (r.lastExtSn + 1) top.extTsn).length = top.extTsn.toNat - r.lastExtSn.toNat - 1 := by
    have width := top.extTsn.toNat_lt
    rw [gapFill_length, UInt32.toNat_add]
    change top.extTsn.toNat - (r.lastExtSn.toNat + 1) % 4294967296 = _
    omega
  obtain ⟨same, length, last⟩ := waiting_list (gapFill (r.lastExtSn + 1) top.extTsn) {}
  unfold reportWrites
  rw [pkts, loopWrites_waiting _ _ (fun stat member => (mem_gapFill.mp member).1) _ waiting_start]
  generalize (gapFill (r.lastExtSn + 1) top.extTsn).foldl (fun l _ => enqueue l .packetNotReceived) {} = l at *
  have pending : l.statusList.length = top.extTsn.toNat - r.lastExtSn.toNat - 1 := by
    rw [length, count]
    exact Nat.zero_add _
  have lastMissing : l.lastStatus = .packetNotReceived := last (List.length_pos_iff.mp (by omega))
  have assigned := assignStatus_arrived (gapFill (r.lastExtSn + 1) top.extTsn ++ (top :: more)) r.tccPkts.1 l arrived
  dsimp only at assigned
  rw [loopWrites_cons _ top more _ l assigned]
  refine List.mem_append_left _ (List.mem_append_left _ ?_)
  unfold endRunWrites
  dsimp only
  rw [if_pos, if_pos]
  · exact List.mem_singleton.mpr (congrArg ChunkWrite.runLength pending.symm)
  · omega
  · refine ⟨same, ?_, ?_⟩
    · rw [lastMissing]
      unfold deltaStatus
      split <;> exact fun none => (nomatch none)
    · rw [lastMissing]
      exact fun none => (nomatch none)

/-- The cycles are whole, also behind the last one. -/
theorem Reachable.cycles {crate : RtcpCrate} {r : Responder} (reachable : Reachable crate r) :
    r.cycles.toNat % 65536 = 0 := by
  induction reachable with
  | new ssrc sSsrc => rfl
  | @push r sn timeNs _ ih =>
      unfold Responder.push
      dsimp only
      split
      · rw [UInt32.toNat_add]
        change (r.cycles.toNat + 65536) % 4294967296 % 65536 = 0
        omega
      · exact ih
  | @build r _ ih =>
      by_cases arrivals : r.extInfo = []
      · rw [build_idle crate arrivals]
        exact ih
      · rw [build_eq crate arrivals]
        rw [← r.encoded_appends.cycles] at ih
        unfold assemble
        dsimp only
        split
        · exact ih
        · exact ih

theorem Reachable.step {crate : RtcpCrate} {r r' : Responder} {op : ResponderOp} (reachable : Reachable crate r)
    (h : step crate r op = some r') : Reachable crate r' := by
  cases op with
  | push sn timeNs =>
      cases h
      exact reachable.push sn timeNs
  | build =>
      cases h
      exact reachable.build

/-- A build counts right exactly when it has the room for it. -/
theorem buildFits_iff {crate : RtcpCrate} {r : Responder} (reachable : Reachable crate r) :
    BuildFits r ↔ Spacious r := by
  have counter := r.pktCtn.toNat_lt
  obtain ⟨-, deltas⟩ := reachable.counted.encoded
  have header (pkts : List RtpExtInfo) :
      r.pktCtn.toNat + headers {} pkts < 256 ↔ ((∃ info ∈ pkts, info.timestamp ≠ 0) → r.pktCtn ≠ 255) := by
    have full : r.pktCtn = 255 ↔ r.pktCtn.toNat = 255 := UInt8.toNat_inj.symm
    unfold headers
    by_cases received : ∃ info ∈ pkts, info.timestamp ≠ 0
    · rw [if_pos ⟨rfl, received⟩, ne_eq, full]
      refine ⟨fun below _ => ?_, fun other => ?_⟩
      · omega
      · have := other received
        omega
    · rw [if_neg fun both => received both.2]
      exact iff_of_true counter fun some => absurd some received
  constructor
  · intro fits
    have marks : lastMarks r.lastExtSn r.extInfo ≤ 1 := by
      rw [← lastMarks_sorted]
      exact marks_of_fillsFit fits.nextNumber
    have listed := tccPkts_entries marks
    have written := reportWrites_chunks listed
    refine ⟨?_, marks, fun count => ?_, ?_, ?_⟩
    · rw [← listed]
      exact Nat.le_of_lt_succ fits.packetCount
    · rw [← written]
      exact fun chunk => Nat.le_of_lt_succ (fits.runLength count chunk)
    · rw [← listed]
      exact (header _).mp fits.pktCtn
    · rw [← written]
      exact Nat.le_of_lt_succ fits.len
  · intro room
    have listed := tccPkts_entries room.marks
    have written := reportWrites_chunks listed
    refine ⟨?_, ?_, fun count => ?_, ?_, ?_, deltas, ?_⟩
    · rw [listed]
      exact Nat.lt_succ_of_le room.listed
    · apply fillsFit_of_marks
      rw [lastMarks_sorted]
      exact room.marks
    · rw [written]
      exact fun chunk => Nat.lt_succ_of_le (room.runs count chunk)
    · rw [listed]
      exact (header _).mpr room.reports
    · rw [written]
      exact Nat.lt_succ_of_le room.vectors
    · have wrapped := r.encoded.len.toNat_lt
      unfold padSize pLen
      omega

/-- The cycles have room for another one unless they are at the last. -/
theorem cycles_room_iff {cycles : UInt32} (whole : cycles.toNat % 65536 = 0) :
    cycles.toNat + 65536 < 4294967296 ↔ cycles ≠ 0xffff0000 := by
  have last : cycles = 0xffff0000 ↔ cycles.toNat = 4294901760 := UInt32.toNat_inj.symm
  have width := cycles.toNat_lt
  rw [ne_eq, last]
  omega

/-- In a run of pushes and builds every call counts right exactly when every call stays within
the widths. -/
theorem guarded_countsFit_iff (crate : RtcpCrate) (ssrc sSsrc : UInt32) (ops : List ResponderOp) :
    Guarded (step crate) CountsFit (.new ssrc sSsrc) ops ↔
      Guarded (step crate) WithinWidths (.new ssrc sSsrc) ops := by
  refine guarded_iff (Reachable crate) ?_ (fun r op r' reachable _ h => reachable.step h) (.new ssrc sSsrc)
  intro r op reachable
  cases op with
  | push sn timeNs => exact forall_congr' fun _ => cycles_room_iff reachable.cycles
  | build => exact buildFits_iff reachable

/-- A gap of 8996 numbers is one run, whose length reaches into the symbol of the chunk: the
word reads as 804 packets received. -/
theorem long_gap_overflows_run :
    let ops : List ResponderOp := [.push 3 1000, .build, .push 9000 2000]
    (∃ r, run (step rtcpCrate) (.new 1 2) ops = some r ∧ .runLength 8996 ∈ r.reportWrites) ∧
      ¬ Guarded (step rtcpCrate) CountsFit (.new 1 2) (ops ++ [.build]) ∧
      (SymbolTypeTcc.packetNotReceived.toU16 <<< 13 ||| UInt16.ofNat 8996) =
        (SymbolTypeTcc.packetReceivedSmallDelta.toU16 <<< 13 ||| 804) := by
  intro ops
  obtain ⟨r, reached, written⟩ :
      ∃ r, run (step rtcpCrate) (.new 1 2) ops = some r ∧ .runLength 8996 ∈ r.reportWrites := by
    refine ⟨_, rfl, ?_⟩
    exact @gap_one_run _ ⟨9000, 20⟩ [] (by decide +kernel) (by decide) (by decide +kernel) (by decide +kernel)
  refine ⟨⟨r, reached, written⟩, fun fits => ?_, by decide⟩
  exact absurd ((fits.last reached).runLength 8996 written) (by decide)

end Responder

end Rsfu
