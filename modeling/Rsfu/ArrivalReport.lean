import Rsfu.ResponderRuns
import Mathlib.Data.List.Nodup
import Mathlib.Data.List.Range

/-! The arrivals a feedback packet reports. The arrivals are sorted with the
highest number first and the collecting loop drops every number below the one it
took last, so only the highest arrival of a batch is reported as received. -/
namespace Rsfu

namespace Responder

/-- Consecutive numbers, every arrived number once with its time, and every other number
between the last report (the lowest arrival before any report) and the highest once as missing. -/
structure Reports (last : UInt32) (arrivals pkts : List RtpExtInfo) : Prop where
  consecutive : pkts.IsChain fun a b => b.extTsn.toNat = a.extTsn.toNat + 1
  received : ∀ info ∈ arrivals, (pkts.map RtpExtInfo.extTsn).count info.extTsn = 1 ∧
    ∃ found ∈ arrivals, found.extTsn = info.extTsn ∧ found.timestamp ≠ 0 ∧ found ∈ pkts
  missing : ∀ n, (if last ≠ 0 then last < n else ∃ info ∈ arrivals, info.extTsn ≤ n) →
    (∃ info ∈ arrivals, n ≤ info.extTsn) → n ∉ arrivals.map RtpExtInfo.extTsn →
    ⟨n, 0⟩ ∈ pkts ∧ (pkts.map RtpExtInfo.extTsn).count n = 1

def pushAll (r : Responder) (batch : List (UInt16 × Int)) : Responder :=
  batch.foldl (fun r arrival => r.push arrival.1 arrival.2) r

/-- Nothing was pushed since the last build. -/
inductive Rested (crate : RtcpCrate) : Responder → Prop where
  | new (ssrc sSsrc : UInt32) : Rested crate (.new ssrc sSsrc)
  | built {r : Responder} : Reachable crate r → Rested crate (r.buildTransportCcPacket crate).1

theorem Rested.extInfo {crate : RtcpCrate} {r : Responder} (rested : Rested crate r) : r.extInfo = [] := by
  cases rested with
  | new ssrc sSsrc => rfl
  | built reachable => exact (build_settles crate _).1

theorem pushAll_length (r : Responder) (batch : List (UInt16 × Int)) :
    (r.pushAll batch).extInfo.length = r.extInfo.length + batch.length := by
  induction batch generalizing r with
  | nil => rfl
  | cons arrival rest ih =>
      have pushed : (r.push arrival.1 arrival.2).extInfo.length = r.extInfo.length + 1 := List.length_append
      exact (ih _).trans (by rw [pushed, List.length_cons]; omega)

theorem pushAll_lastExtSn (r : Responder) (batch : List (UInt16 × Int)) :
    (r.pushAll batch).lastExtSn = r.lastExtSn := by
  induction batch generalizing r with
  | nil => rfl
  | cons arrival rest ih => exact ih _

/-- Arrivals of at least 100 ns have a time that is not 0. -/
theorem pushAll_times {r : Responder} {batch : List (UInt16 × Int)} (late : ∀ arrival ∈ batch, 100 ≤ arrival.2)
    (before : ∀ info ∈ r.extInfo, info.timestamp ≠ 0) : ∀ info ∈ (r.pushAll batch).extInfo, info.timestamp ≠ 0 := by
  induction batch generalizing r with
  | nil => exact before
  | cons arrival rest ih =>
      apply ih (fun later member => late later (List.mem_cons_of_mem _ member))
      intro info member
      rcases List.mem_append.mp member with old | new
      · exact before info old
      · obtain rfl := List.mem_singleton.mp new
        have enough := late arrival List.mem_cons_self
        change arrival.2.tdiv 100 ≠ 0
        rw [Int.tdiv_eq_ediv_of_nonneg (by omega)]
        omega

theorem sortExtInfos_perm (infos : List RtpExtInfo) : (sortExtInfos infos).Perm infos :=
  List.perm_insertionSort _ infos

theorem sortExtInfos_sorted (infos : List RtpExtInfo) :
    (sortExtInfos infos).Pairwise fun a b => b.extTsn ≤ a.extTsn := by
  have : Std.Total fun a b : RtpExtInfo => b.extTsn ≤ a.extTsn := ⟨fun a b => UInt32.le_total b.extTsn a.extTsn⟩
  have : IsTrans RtpExtInfo fun a b => b.extTsn ≤ a.extTsn := ⟨fun _ _ _ h h' => UInt32.le_trans h' h⟩
  exact List.pairwise_insertionSort _ infos

theorem mem_gapFill {first last : UInt32} {info : RtpExtInfo} :
    info ∈ gapFill first last ↔
      info.timestamp = 0 ∧ first.toNat ≤ info.extTsn.toNat ∧ info.extTsn.toNat < last.toNat := by
  unfold gapFill
  have width := last.toNat_lt
  simp only [List.mem_map, List.mem_range'_1]
  constructor
  · rintro ⟨idx, ⟨from_first, below⟩, rfl⟩
    have number : (UInt32.ofNat idx).toNat = idx := UInt32.toNat_ofNat_of_lt' (by change idx < 4294967296; omega)
    simp only [number, true_and]
    omega
  · rintro ⟨zero, from_first, below⟩
    refine ⟨info.extTsn.toNat, by omega, ?_⟩
    rw [UInt32.ofNat_toNat, ← zero]

theorem gapFill_numbers (first last : UInt32) :
    (gapFill first last).map (fun info => info.extTsn.toNat) =
      List.range' first.toNat (last.toNat - first.toNat) := by
  unfold gapFill
  have width := last.toNat_lt
  rw [List.map_map]
  conv_rhs => rw [← List.map_id (List.range' first.toNat (last.toNat - first.toNat))]
  apply List.map_congr_left
  intro idx member
  have bounds := List.mem_range'_1.mp member
  exact UInt32.toNat_ofNat_of_lt' (by change idx < 4294967296; omega)

/-- A list whose numbers run through a range is consecutive and repeats none. -/
theorem range_consecutive {pkts : List RtpExtInfo} {first count : Nat}
    (numbers : pkts.map (fun info => info.extTsn.toNat) = List.range' first count) :
    (pkts.IsChain fun a b => b.extTsn.toNat = a.extTsn.toNat + 1) ∧ (pkts.map RtpExtInfo.extTsn).Nodup := by
  constructor
  · have chain := List.isChain_range' first count 1
    rw [← numbers, List.isChain_map] at chain
    exact chain
  · apply List.Nodup.of_map UInt32.toNat
    rw [List.map_map]
    change (pkts.map fun info => info.extTsn.toNat).Nodup
    rw [numbers]
    exact List.nodup_range'

/-- What the fill and the arrival behind it report. -/
def reported (last : UInt32) (info : RtpExtInfo) : List RtpExtInfo :=
  (if last ≠ 0 then gapFill (last + 1) info.extTsn else []) ++ [info]

theorem collect_taken {last : UInt32} {info : RtpExtInfo} (taken : ¬ info.extTsn < last) (pkts : List RtpExtInfo) :
    collect (last, pkts) info = (info.extTsn, pkts ++ reported last info) := by
  unfold collect reported
  rw [if_neg taken]
  simp only [List.append_assoc]

theorem reported_numbers {last : UInt32} {info : RtpExtInfo} (above : last < info.extTsn) :
    ∃ first count, (reported last info).map (fun info => info.extTsn.toNat) = List.range' first count := by
  have order := UInt32.lt_iff_toNat_lt.mp above
  have width := info.extTsn.toNat_lt
  unfold reported
  rw [List.map_append]
  split
  · have next : (last + 1).toNat = last.toNat + 1 := by
      rw [UInt32.toNat_add]
      change (last.toNat + 1) % 4294967296 = _
      omega
    refine ⟨last.toNat + 1, info.extTsn.toNat - (last.toNat + 1) + 1, ?_⟩
    rw [gapFill_numbers, next, List.range'_1_concat]
    congr 1
    change [info.extTsn.toNat] = _
    congr 1
    omega
  · exact ⟨info.extTsn.toNat, 1, rfl⟩

theorem mem_reported {last : UInt32} {info found : RtpExtInfo} (member : found ∈ reported last info) :
    found.timestamp = 0 ∨ found = info := by
  rcases List.mem_append.mp member with gap | self
  · left
    split at gap
    · exact (mem_gapFill.mp gap).1
    · cases gap
  · exact Or.inr (List.mem_singleton.mp self)

/-- A single arrival above the last report is reported as it should be. -/
theorem reported_reports {last : UInt32} {info : RtpExtInfo} (above : last < info.extTsn)
    (time : info.timestamp ≠ 0) : Reports last [info] (reported last info) := by
  obtain ⟨first, count, numbers⟩ := reported_numbers above
  obtain ⟨consecutive, nodup⟩ := range_consecutive numbers
  have once : ∀ found ∈ reported last info,
      ((reported last info).map RtpExtInfo.extTsn).count found.extTsn = 1 := by
    intro found member
    exact List.count_eq_one_of_mem nodup (List.mem_map_of_mem member)
  refine ⟨consecutive, ?_, ?_⟩
  · intro found member
    obtain rfl := List.mem_singleton.mp member
    have last : found ∈ reported last found := List.mem_append_right _ List.mem_cons_self
    exact ⟨once found last, found, member, rfl, time, last⟩
  · intro n from_first upto other
    obtain ⟨found, member, le⟩ := upto
    obtain rfl := List.mem_singleton.mp member
    have apart : n ≠ found.extTsn := by
      intro same
      exact other (same ▸ List.mem_cons_self)
    have below : n.toNat < found.extTsn.toNat := by
      have := UInt32.le_iff_toNat_le.mp le
      have : n.toNat ≠ found.extTsn.toNat := fun same => apart (UInt32.toNat_inj.mp same)
      omega
    suffices missing : (⟨n, 0⟩ : RtpExtInfo) ∈ reported last found from ⟨missing, once _ missing⟩
    unfold reported
    by_cases started : last ≠ 0
    · rw [if_pos started] at from_first ⊢
      have order := UInt32.lt_iff_toNat_lt.mp from_first
      apply List.mem_append_left
      refine mem_gapFill.mpr ⟨rfl, ?_, below⟩
      rw [UInt32.toNat_add]
      change (last.toNat + 1) % 4294967296 ≤ n.toNat
      have := n.toNat_lt
      omega
    · rw [if_neg started] at from_first
      obtain ⟨low, member, from_low⟩ := from_first
      obtain rfl := List.mem_singleton.mp member
      have := UInt32.le_iff_toNat_le.mp from_low
      omega

/-- Behind the highest arrival nothing lower is taken as received. -/
theorem foldl_collect_top {rest : List RtpExtInfo} {top : UInt32} (pkts : List RtpExtInfo)
    (below : ∀ info ∈ rest, info.extTsn ≤ top) :
    ∃ more, rest.foldl collect (top, pkts) = (top, pkts ++ more) ∧
      ∀ info ∈ more, info.timestamp = 0 ∨ info.extTsn = top := by
  induction rest generalizing pkts with
  | nil => exact ⟨[], by rw [List.append_nil]; rfl, fun info member => (nomatch member)⟩
  | cons info rest ih =>
      have later : ∀ info ∈ rest, info.extTsn ≤ top := fun other member => below other (List.mem_cons_of_mem _ member)
      by_cases lower : info.extTsn < top
      · obtain ⟨more, folded, known⟩ := ih pkts later
        refine ⟨more, ?_, known⟩
        rw [List.foldl_cons, collect, if_pos lower]
        exact folded
      · have same : info.extTsn = top :=
          UInt32.le_antisymm (below info List.mem_cons_self) (UInt32.not_lt.mp lower)
        obtain ⟨more, folded, known⟩ := ih (pkts ++ reported top info) later
        refine ⟨reported top info ++ more, ?_, ?_⟩
        · rw [List.foldl_cons, collect_taken lower, same, folded, List.append_assoc]
        · intro found member
          rcases List.mem_append.mp member with fill | old
          · rcases mem_reported fill with gap | self
            · exact Or.inl gap
            · exact Or.inr (by rw [self, same])
          · exact known found old

theorem tccPkts_eq (r : Responder) :
    r.tccPkts.2 = ((sortExtInfos r.extInfo).foldl collect (r.lastExtSn, [])).2 := rfl

/-- With two arrivals one of them is dropped, or taken twice. -/
theorem several_unreported {last : UInt32} {high next : RtpExtInfo} {rest arrivals : List RtpExtInfo}
    (above : last < high.extTsn) (sorted : (high :: next :: rest).Pairwise fun a b => b.extTsn ≤ a.extTsn)
    (same : (high :: next :: rest).Perm arrivals) :
    ¬ Reports last arrivals ((high :: next :: rest).foldl collect (last, [])).2 := by
  intro reports
  have below : ∀ info ∈ next :: rest, info.extTsn ≤ high.extTsn := (List.pairwise_cons.mp sorted).1
  have taken : ¬ high.extTsn < last := UInt32.not_lt.mpr (UInt32.le_of_lt above)
  obtain ⟨-, info, -, number, time, found⟩ :=
    reports.received next (same.mem_iff.mp (List.mem_cons_of_mem _ List.mem_cons_self))
  rw [List.foldl_cons, collect_taken taken, List.nil_append] at found reports
  by_cases lower : next.extTsn < high.extTsn
  · obtain ⟨more, folded, known⟩ := foldl_collect_top (reported last high) below
    rw [folded] at found
    rw [← number] at lower
    rcases List.mem_append.mp found with first | later
    · rcases mem_reported first with missing | itself
      · exact time missing
      · rw [itself] at lower
        exact UInt32.lt_irrefl _ lower
    · rcases known info later with missing | level
      · exact time missing
      · rw [level] at lower
        exact UInt32.lt_irrefl _ lower
  · have level : next.extTsn = high.extTsn :=
      UInt32.le_antisymm (below next List.mem_cons_self) (UInt32.not_lt.mp lower)
    have remaining : ∀ info ∈ rest, info.extTsn ≤ high.extTsn :=
      fun info member => below info (List.mem_cons_of_mem _ member)
    obtain ⟨once, -⟩ := reports.received high (same.mem_iff.mp List.mem_cons_self)
    obtain ⟨more, folded, -⟩ := foldl_collect_top (reported last high ++ reported high.extTsn next) remaining
    rw [List.foldl_cons, collect_taken lower, level, folded] at once
    unfold reported at once
    simp only [List.map_append, List.count_append, List.map_cons, List.map_nil, level,
      List.count_singleton_self] at once
    omega

/-- A batch is reported exactly when it is a single arrival. -/
theorem build_reports_iff {crate : RtcpCrate} {r : Responder} (rested : Rested crate r)
    {batch : List (UInt16 × Int)} (some : batch ≠ []) (late : ∀ arrival ∈ batch, 100 ≤ arrival.2)
    (above : ∀ info ∈ (r.pushAll batch).extInfo, r.lastExtSn < info.extTsn) :
    Reports r.lastExtSn (r.pushAll batch).extInfo (r.pushAll batch).tccPkts.2 ↔ batch.length = 1 := by
  have count := pushAll_length r batch
  have times := pushAll_times (r := r) late (by rw [rested.extInfo]; intro info member; cases member)
  have same := sortExtInfos_perm (r.pushAll batch).extInfo
  have sorted := sortExtInfos_sorted (r.pushAll batch).extInfo
  rw [rested.extInfo, List.length_nil, Nat.zero_add] at count
  rw [tccPkts_eq, pushAll_lastExtSn]
  cases arrivals : sortExtInfos (r.pushAll batch).extInfo with
  | nil =>
      rw [arrivals] at same
      have := same.length_eq.trans count
      exact absurd (List.length_eq_zero_iff.mp this.symm) some
  | cons high lower =>
      rw [arrivals] at same sorted
      have highAbove := above high (same.mem_iff.mp List.mem_cons_self)
      cases lower with
      | nil =>
          have one := same.length_eq.trans count
          have single := List.singleton_perm.mp same
          have highTime := times high (same.mem_iff.mp List.mem_cons_self)
          rw [← single]
          refine iff_of_true ?_ one.symm
          change Reports r.lastExtSn [high] (collect (r.lastExtSn, []) high).2
          rw [collect_taken (UInt32.not_lt.mpr (UInt32.le_of_lt highAbove))]
          exact reported_reports highAbove highTime
      | cons next rest =>
          have several := same.length_eq.trans count
          refine iff_of_false (several_unreported highAbove sorted same) ?_
          rw [← several]
          simp only [List.length_cons]
          omega

def reportedUpToThree : Responder :=
  ((Responder.new 1 2).push 3 1000).buildTransportCcPacket rtcpCrate |>.1

theorem build_reports_iff_gap :
    (reportedUpToThree.pushAll [(6, 2000)]).tccPkts.2 = [⟨4, 0⟩, ⟨5, 0⟩, ⟨6, 20⟩] ∧
    Reports reportedUpToThree.lastExtSn (reportedUpToThree.pushAll [(6, 2000)]).extInfo
      (reportedUpToThree.pushAll [(6, 2000)]).tccPkts.2 := by
  have rested : Rested rtcpCrate reportedUpToThree := .built (.push 3 1000 (.new 1 2))
  exact ⟨by decide +kernel, (build_reports_iff rested (by decide) (by decide) (by decide +kernel)).mpr rfl⟩

/-- Of the arrivals 1 and 2 only 2 is reported. -/
theorem lower_arrival_dropped :
    (∀ info ∈ ((Responder.new 1 2).pushAll [(1, 1000), (2, 2000)]).extInfo,
      (Responder.new 1 2).lastExtSn < info.extTsn) ∧
    ¬ Reports (Responder.new 1 2).lastExtSn ((Responder.new 1 2).pushAll [(1, 1000), (2, 2000)]).extInfo
      ((Responder.new 1 2).pushAll [(1, 1000), (2, 2000)]).tccPkts.2 := by
  refine ⟨by decide +kernel, fun reports => ?_⟩
  have arrived : (⟨1, 10⟩ : RtpExtInfo) ∈ ((Responder.new 1 2).pushAll [(1, 1000), (2, 2000)]).extInfo := by
    decide +kernel
  have once := (reports.received _ arrived).1
  exact absurd once (by decide +kernel)

end Responder

end Rsfu
