import Rsfu.ChunkWrites

/-! How the entries of a report are cut into chunks, read off the entries as a whole: which
numbers a report lists, which status each of them has, and where one chunk ends. The builder
keeps a pending list instead, and comes to the same chunks. -/
namespace Rsfu

namespace Responder

/-- Eight equal statuses, or equal ones to the end, are one run. Otherwise a chunk holds seven
when one of its next fourteen is a large delta, and else fourteen. -/
def cut : List SymbolTypeTcc → List ChunkWrite
  | [] => []
  | status :: rest =>
      if ∀ s ∈ rest.take 7, s = status then
        .runLength ((rest.takeWhile fun s => s = status).length + 1) :: cut (rest.dropWhile fun s => s = status)
      else if 6 ≤ rest.length ∧ .packetReceivedLargeDelta ∈ (status :: rest).take 14 then .vector :: cut (rest.drop 6)
      else .vector :: cut (rest.drop 13)
termination_by statuses => statuses.length
decreasing_by
  · exact Nat.lt_succ_of_le (List.dropWhile_sublist _).length_le
  · exact Nat.lt_succ_of_le (List.drop_sublist _ _).length_le
  · exact Nat.lt_succ_of_le (List.drop_sublist _ _).length_le

@[simp] theorem cut_nil : cut [] = [] := by
  rw [cut]

/-- Two of the first eight differ. -/
def Mixed (statuses : List SymbolTypeTcc) : Prop :=
  ∃ status rest, statuses = status :: rest ∧ ∃ s ∈ rest.take 7, s ≠ status

theorem Mixed.append {statuses : List SymbolTypeTcc} (mixed : Mixed statuses) (more : List SymbolTypeTcc) :
    Mixed (statuses ++ more) := by
  obtain ⟨status, rest, rfl, s, member, other⟩ := mixed
  exact ⟨status, rest ++ more, rfl, s, ((List.prefix_append rest more).take 7).subset member, other⟩

theorem cut_run {count : Nat} (status : SymbolTypeTcc) {more : List SymbolTypeTcc}
    (ends : ∀ s ∈ more.head?, s ≠ status) (long : 7 ≤ count ∨ more = []) :
    cut (List.replicate (count + 1) status ++ more) = .runLength (count + 1) :: cut more := by
  have next : more.takeWhile (fun s => s = status) = [] ∧ more.dropWhile (fun s => s = status) = more := by
    cases more with
    | nil => exact ⟨rfl, rfl⟩
    | cons s rest =>
        have other : decide (s = status) = false := decide_eq_false (ends s rfl)
        rw [List.takeWhile_cons, List.dropWhile_cons, other]
        exact ⟨rfl, rfl⟩
  rw [List.replicate_succ, List.cons_append, cut, if_pos]
  · rw [List.takeWhile_append_of_pos, List.dropWhile_append_of_pos, next.1, next.2, List.append_nil,
      List.length_replicate]
    · exact fun s member => decide_eq_true (List.eq_of_mem_replicate member)
    · exact fun s member => decide_eq_true (List.eq_of_mem_replicate member)
  · intro s member
    rcases long with enough | rfl
    · rw [List.take_append_of_le_length (by rwa [List.length_replicate])] at member
      exact List.eq_of_mem_replicate (List.mem_of_mem_take member)
    · rw [List.append_nil] at member
      exact List.eq_of_mem_replicate (List.mem_of_mem_take member)

theorem cut_wide {statuses : List SymbolTypeTcc} (mixed : Mixed statuses) (enough : 6 < statuses.length)
    (large : .packetReceivedLargeDelta ∈ statuses.take 14) : cut statuses = .vector :: cut (statuses.drop 7) := by
  obtain ⟨status, rest, rfl, s, member, other⟩ := mixed
  rw [cut, if_neg fun equal => other (equal s member), if_pos ⟨Nat.le_of_lt_succ enough, large⟩]
  rfl

theorem cut_narrow {statuses : List SymbolTypeTcc} (mixed : Mixed statuses)
    (small : 6 < statuses.length → .packetReceivedLargeDelta ∉ statuses.take 14) :
    cut statuses = .vector :: cut (statuses.drop 14) := by
  obtain ⟨status, rest, rfl, s, member, other⟩ := mixed
  rw [cut, if_neg fun equal => other (equal s member),
    if_neg fun wide => small (Nat.lt_succ_of_le wide.1) wide.2]
  rfl

/-- Between two turns the summaries say what the pending list is. -/
structure Summed (l : StatusLoop) : Prop where
  pending : Pending l
  started : l.statusList = [] ∧ l.same = true ∧ l.lastStatus = .packetReceivedWithoutDelta ∨
    l.statusList ≠ [] ∧ l.lastStatus ≠ .packetReceivedWithoutDelta
  uneven : l.same = false → Mixed l.statusList
  large : l.maxStatus = .packetReceivedLargeDelta → .packetReceivedLargeDelta ∈ l.statusList

/-- Within a turn, once the status has joined. -/
structure Turned (l : StatusLoop) : Prop where
  joined : Joined l
  started : l.statusList ≠ [] ∧ l.lastStatus ≠ .packetReceivedWithoutDelta
  uneven : l.same = false → Mixed l.statusList
  large : l.maxStatus = .packetReceivedLargeDelta → .packetReceivedLargeDelta ∈ l.statusList

theorem summed_start : Summed {} :=
  ⟨pending_start, Or.inl ⟨rfl, rfl, rfl⟩, fun uneven => (nomatch uneven), fun large => (nomatch large)⟩

theorem enqueue_large {l : StatusLoop} {status : SymbolTypeTcc} (known : status ≠ .packetReceivedWithoutDelta)
    (maxKnown : l.maxStatus ≠ .packetReceivedWithoutDelta)
    (large : l.maxStatus = .packetReceivedLargeDelta → .packetReceivedLargeDelta ∈ l.statusList)
    (max : (enqueue l status).maxStatus = .packetReceivedLargeDelta) :
    .packetReceivedLargeDelta ∈ (enqueue l status).statusList := by
  rcases (raiseMax_large maxKnown known).mp max with before | now
  · exact List.mem_append_left _ (large before)
  · exact List.mem_append_right _ (List.mem_singleton.mpr now.symm)

/-- Another status behind up to seven equal ones. -/
theorem mixed_of_few {status last : SymbolTypeTcc} {l : List SymbolTypeTcc} (some : l ≠ [])
    (equal : ∀ s ∈ l, s = last) (few : l.length ≤ 7) (other : status ≠ last) : Mixed (l ++ [status]) := by
  obtain ⟨first, rest, rfl⟩ := List.exists_cons_of_ne_nil some
  refine ⟨first, rest ++ [status], rfl, status, ?_, fun same => other (same.trans (equal first List.mem_cons_self))⟩
  rw [List.take_of_length_le]
  · exact List.mem_append_right _ List.mem_cons_self
  · rw [List.length_append]
    exact few

/-- A run that the next status ends is cut off when it is longer than seven. -/
theorem endRun_cut {l : StatusLoop} {status : SymbolTypeTcc} (r : Responder) (summed : Summed l)
    (known : status ≠ .packetReceivedWithoutDelta) (more : List SymbolTypeTcc) :
    cut (l.statusList ++ status :: more) =
        endRunWrites l status ++ cut ((enqueue (r.endRun l status).2 status).statusList ++ more) ∧
      Turned (enqueue (r.endRun l status).2 status) := by
  have joined := enqueue_joined known (endRun_fits r status summed.pending)
  have started (l : StatusLoop) : (enqueue l status).statusList ≠ [] ∧
      (enqueue l status).lastStatus ≠ .packetReceivedWithoutDelta :=
    ⟨List.append_ne_nil_of_right_ne_nil _ (List.cons_ne_nil _ _), known⟩
  unfold endRun at joined ⊢
  unfold endRunWrites
  by_cases ends : l.same = true ∧ status ≠ l.lastStatus ∧ l.lastStatus ≠ .packetReceivedWithoutDelta
  · obtain ⟨same, other, fresh⟩ := id ends
    have equal := summed.pending.even same
    rw [if_pos ends] at joined ⊢
    rw [if_pos ends]
    by_cases long : 7 < l.statusList.length
    · rw [if_pos long] at joined ⊢
      rw [if_pos long]
      obtain ⟨count, total⟩ := Nat.exists_eq_succ_of_ne_zero (Nat.ne_of_gt (Nat.zero_lt_of_lt long))
      refine ⟨?_, joined, started _, fun uneven => ?_, enqueue_large known ?_ ?_⟩
      · have next : ∀ s ∈ (status :: more).head?, s ≠ l.lastStatus := by
          intro s first
          cases first
          exact other
        conv_lhs => rw [summed.pending.run same, total]
        rw [total]
        exact cut_run l.lastStatus next (Or.inl (by omega))
      · cases same.symm.trans uneven
      · exact fun none => (nomatch none)
      · exact fun none => (nomatch none)
    · rw [if_neg long] at joined ⊢
      rw [if_neg long]
      have some : l.statusList ≠ [] := by
        rcases summed.started with ⟨-, -, none⟩ | ⟨some, -⟩
        · exact absurd none fresh
        · exact some
      refine ⟨congrArg cut (List.append_cons ..), joined, started _, fun _ => ?_, ?_⟩
      · exact mixed_of_few some equal (Nat.le_of_not_lt long) other
      · exact enqueue_large known summed.pending.maxKnown summed.large
  · rw [if_neg ends] at joined ⊢
    rw [if_neg ends]
    refine ⟨congrArg cut (List.append_cons ..), joined, started _, fun uneven => ?_, ?_⟩
    · exact (summed.uneven uneven).append _
    · exact enqueue_large known summed.pending.maxKnown summed.large

/-- Equal statuses keep `same`, and a large delta among the summarised ones raises the maximum. -/
theorem resummarise_equal {rest : List SymbolTypeTcc} {status : SymbolTypeTcc} (equal : ∀ s ∈ rest, s = status)
    {l : StatusLoop} (same : l.same = true)
    (last : l.lastStatus = .packetReceivedWithoutDelta ∨ l.lastStatus = status) :
    (rest.foldl resummarise l).same = true := by
  induction rest generalizing l with
  | nil => exact same
  | cons s rest ih =>
      have first : s = status := equal s List.mem_cons_self
      refine ih (fun other member => equal other (List.mem_cons_of_mem _ member)) ?_ (Or.inr first)
      change (l.same && !(l.lastStatus != .packetReceivedWithoutDelta && s != l.lastStatus)) = true
      rw [same, first]
      rcases last with fresh | same'
      · rw [fresh]
        rfl
      · rw [same', bne_self_eq_false, Bool.and_false]
        rfl

theorem resummarise_large {rest : List SymbolTypeTcc} (known : ∀ s ∈ rest, s ≠ .packetReceivedWithoutDelta)
    {l : StatusLoop} (maxKnown : l.maxStatus ≠ .packetReceivedWithoutDelta)
    (max : (rest.foldl resummarise l).maxStatus = .packetReceivedLargeDelta) :
    l.maxStatus = .packetReceivedLargeDelta ∨ .packetReceivedLargeDelta ∈ rest := by
  induction rest generalizing l with
  | nil => exact Or.inl max
  | cons s rest ih =>
      have first := known s List.mem_cons_self
      rcases ih (fun other member => known other (List.mem_cons_of_mem _ member))
        (raiseMax_known maxKnown first) max with before | later
      · refine ((raiseMax_large maxKnown first).mp before).imp_right fun now => ?_
        rw [now]
        exact List.mem_cons_self
      · exact Or.inr (List.mem_cons_of_mem _ later)

theorem resummarise_last {rest : List SymbolTypeTcc} (some : rest ≠ []) (l : StatusLoop) :
    (rest.foldl resummarise l).lastStatus ∈ rest := by
  induction rest generalizing l with
  | nil => exact absurd rfl some
  | cons s rest ih =>
      cases rest with
      | nil => exact List.mem_cons_self
      | cons _ _ => exact List.mem_cons_of_mem _ (ih (List.cons_ne_nil _ _) _)

/-- Up to eight statuses that are not summarised as equal are mixed. -/
theorem resummarise_uneven {rest : List SymbolTypeTcc} (few : rest.length ≤ 8) {l : StatusLoop} (same : l.same = true)
    (fresh : l.lastStatus = .packetReceivedWithoutDelta) (uneven : (rest.foldl resummarise l).same = false) :
    Mixed rest := by
  cases rest with
  | nil => cases same.symm.trans uneven
  | cons first rest =>
      refine ⟨first, rest, rfl, ?_⟩
      rw [List.take_of_length_le (Nat.le_of_succ_le_succ few)]
      by_contra equal
      push Not at equal
      have all : ∀ s ∈ first :: rest, s = first := List.forall_mem_cons.mpr ⟨rfl, equal⟩
      cases uneven.symm.trans (resummarise_equal all same (Or.inl fresh))

/-- A full list is cut as the whole list is. -/
theorem flushVectors_cut {l : StatusLoop} (r : Responder) (turned : Turned l) (more : List SymbolTypeTcc) :
    cut (l.statusList ++ more) = flushWrites l ++ cut ((r.flushVectors l).2.statusList ++ more) ∧
      Summed (r.flushVectors l).2 := by
  have pending := flushVectors_pending r turned.joined
  unfold flushVectors at pending ⊢
  unfold flushWrites
  by_cases wide : ¬ l.same = true ∧ l.maxStatus = .packetReceivedLargeDelta ∧ 6 < l.statusList.length
  · rw [if_pos wide] at pending ⊢
    rw [if_pos wide]
    obtain ⟨uneven, max, enough⟩ := id wide
    have mixed := turned.uneven (Bool.eq_false_iff.mpr uneven)
    have bound := turned.joined.full (Bool.eq_false_iff.mpr uneven)
    have known (s : SymbolTypeTcc) (member : s ∈ l.statusList.drop 7) : s ≠ .packetReceivedWithoutDelta :=
      turned.joined.known s (List.mem_of_mem_drop member)
    dsimp only at pending ⊢
    refine ⟨?_, pending, ?_, ?_, ?_⟩
    · have large : .packetReceivedLargeDelta ∈ (l.statusList ++ more).take 14 := by
        rw [List.take_append, List.take_of_length_le bound]
        exact List.mem_append_left _ (turned.large max)
      rw [resummarise_statusList, cut_wide (mixed.append more) (by rw [List.length_append]; omega) large,
        List.drop_append_of_le_length enough]
      rfl
    · rw [resummarise_statusList]
      by_cases none : l.statusList.drop 7 = []
      · rw [none]
        exact Or.inl ⟨rfl, rfl, rfl⟩
      · exact Or.inr ⟨none, known _ (resummarise_last none _)⟩
    · intro uneven'
      rw [resummarise_statusList]
      refine resummarise_uneven ?_ rfl rfl uneven'
      rw [List.length_drop]
      omega
    · intro max'
      rw [resummarise_statusList]
      refine (resummarise_large known ?_ max').resolve_left ?_
      · exact fun none => (nomatch none)
      · exact fun none => (nomatch none)
  · rw [if_neg wide] at pending ⊢
    rw [if_neg wide]
    by_cases narrow : ¬ l.same = true ∧ 13 < l.statusList.length
    · rw [if_pos narrow] at pending ⊢
      rw [if_pos narrow]
      obtain ⟨uneven, enough⟩ := narrow
      have mixed := turned.uneven (Bool.eq_false_iff.mpr uneven)
      have bound := turned.joined.full (Bool.eq_false_iff.mpr uneven)
      have all : l.statusList.length = 14 := by omega
      have none : l.statusList.drop 14 = [] := List.drop_of_length_le bound
      dsimp only at pending ⊢
      refine ⟨?_, pending, Or.inl ⟨none, ?_, rfl⟩, ?_, ?_⟩
      · have small : .packetReceivedLargeDelta ∉ (l.statusList ++ more).take 14 := by
          rw [List.take_left' all]
          exact fun member => wide ⟨uneven, turned.joined.large member, by omega⟩
        rw [cut_narrow (mixed.append more) fun _ => small, List.drop_left' all, none]
        rfl
      · rfl
      · exact fun uneven' => (nomatch uneven')
      · exact fun max => (nomatch max)
    · rw [if_neg narrow] at pending ⊢
      rw [if_neg narrow]
      exact ⟨rfl, pending, Or.inr turned.started, turned.uneven, turned.large⟩

theorem encodeStatus_cut {l : StatusLoop} {status : SymbolTypeTcc} (r : Responder) (summed : Summed l)
    (known : status ≠ .packetReceivedWithoutDelta) (more : List SymbolTypeTcc) :
    cut (l.statusList ++ status :: more) =
        turnWrites r l status ++ cut ((r.encodeStatus l status).2.statusList ++ more) ∧
      Summed (r.encodeStatus l status).2 := by
  obtain ⟨ended, turned⟩ := endRun_cut r summed known more
  obtain ⟨flushed, summed'⟩ := flushVectors_cut (r.endRun l status).1 turned more
  refine ⟨?_, summed'⟩
  rw [ended, flushed, turnWrites, List.append_assoc]
  rfl

/-- What is still pending is the rest of the list. -/
theorem finalWrites_cut {l : StatusLoop} (summed : Summed l) : finalWrites l = cut l.statusList := by
  unfold finalWrites
  cases list : l.statusList with
  | nil => exact cut_nil.symm
  | cons first rest =>
      rw [← list, if_neg (by rw [list]; exact Bool.false_ne_true)]
      have total : l.statusList.length = rest.length + 1 := congrArg List.length list
      cases same : l.same with
      | true =>
          have one := @cut_run rest.length l.lastStatus [] nofun (Or.inr rfl)
          rw [List.append_nil, ← total, ← summed.pending.run same, cut_nil] at one
          exact one.symm
      | false =>
          have mixed := summed.uneven same
          have bound := summed.pending.narrow same
          rw [if_neg Bool.false_ne_true]
          by_cases wide : 6 < l.statusList.length ∧ .packetReceivedLargeDelta ∈ l.statusList.take 14
          · have few := summed.pending.wide same (summed.pending.large (List.mem_of_mem_take wide.2))
            rw [cut_wide mixed wide.1 wide.2, List.drop_of_length_le few, cut_nil]
          · rw [cut_narrow mixed fun enough large => wide ⟨enough, large⟩,
              List.drop_of_length_le (bound.trans (by decide)), cut_nil]

/-- The loop and the flush behind it cut what is pending and what is to come. -/
theorem loopWrites_cut (pkts rest : List RtpExtInfo) (r : Responder) {l : StatusLoop} (summed : Summed l) :
    loopWrites pkts rest r l = cut (l.statusList ++ (statusLoop pkts rest r l).2.2) := by
  induction rest generalizing r l with
  | nil =>
      change finalWrites l = cut (l.statusList ++ [])
      rw [List.append_nil]
      exact finalWrites_cut summed
  | cons stat rest ih =>
      obtain ⟨r', l', status, assigned⟩ : ∃ r' l' status, assignStatus pkts r l stat = (r', l', status) :=
        ⟨_, _, _, rfl⟩
      have known := assignStatus_known pkts r l stat
      obtain ⟨pktCtn, deltas, deltaLen, timestamp, -, locals⟩ := assignStatus_frame pkts r l stat
      rw [assigned] at known locals
      dsimp only at locals
      have summed' : Summed l' := by
        obtain ⟨⟨knownAll, even, maxKnown, largeMax, narrow, wide⟩, started, uneven, large⟩ := summed
        rw [locals]
        exact ⟨⟨knownAll, even, maxKnown, largeMax, narrow, wide⟩, started, uneven, large⟩
      have list : l'.statusList = l.statusList := by rw [locals]
      obtain ⟨turn, next⟩ := encodeStatus_cut r' summed' known
        (statusLoop pkts rest (r'.encodeStatus l' status).1 (r'.encodeStatus l' status).2).2.2
      rw [loopWrites_cons pkts stat rest r l assigned, statusLoop_cons pkts stat rest r l assigned,
        ih (r'.encodeStatus l' status).1 next, ← turn, list]

/-- The statuses of the entries of a report, `before` being the time of the last one received. -/
def entryStatuses : Option Int → List RtpExtInfo → List SymbolTypeTcc
  | _, [] => []
  | before, info :: rest =>
      if info.timestamp = 0 then .packetNotReceived :: entryStatuses before rest
      else
        deltaStatus ((info.timestamp - before.getD (info.timestamp.tdiv 64000 * 64000)).tdiv 250) ::
          entryStatuses (some info.timestamp) rest

theorem statusLoop_statuses (pkts rest : List RtpExtInfo) (r : Responder) (l : StatusLoop) :
    (statusLoop pkts rest r l).2.2 = entryStatuses (if l.firstRecv then some l.timestamp else none) rest := by
  induction rest generalizing r l with
  | nil => rfl
  | cons stat rest ih =>
      by_cases missing : stat.timestamp = 0
      · have kept := encodeStatus_locals r l .packetNotReceived
        rw [statusLoop_cons pkts stat rest r l (assignStatus_missing pkts r l missing), entryStatuses, if_pos missing]
        dsimp only
        rw [ih, kept.1, kept.2]
      · have assigned := assignStatus_arrived pkts r l missing
        dsimp only at assigned
        rw [statusLoop_cons pkts stat rest r l assigned, entryStatuses, if_neg missing]
        dsimp only
        rw [ih, (encodeStatus_locals _ _ _).1, (encodeStatus_locals _ _ _).2]
        unfold deltaBase
        cases l.firstRecv <;> rfl

/-- The arrivals with the highest number. -/
def highest (infos : List RtpExtInfo) : List RtpExtInfo :=
  infos.filter fun info => ∀ other ∈ infos, other.extTsn ≤ info.extTsn

/-- The numbers between two others. -/
def between (last top : UInt32) : List RtpExtInfo :=
  (List.range' (last.toNat + 1) (top.toNat - (last.toNat + 1))).map fun n => ⟨UInt32.ofNat n, 0⟩

/-- The entries of a report: the numbers that are missing between the last one reported and
the highest arrival, and every arrival with that number. -/
def entries (r : Responder) : List RtpExtInfo :=
  match highest r.extInfo with
  | [] => []
  | top :: more =>
      if top.extTsn < r.lastExtSn then []
      else (if r.lastExtSn = 0 then [] else between r.lastExtSn top.extTsn) ++ top :: more

/-- The chunks of a report. -/
def chunks (r : Responder) : List ChunkWrite := cut (entryStatuses none r.entries)

theorem gapFill_between {last : UInt32} (inside : last ≠ 4294967295) (top : UInt32) :
    gapFill (last + 1) top = between last top := by
  have next : (last + 1).toNat = last.toNat + 1 := by
    have : last.toNat ≠ 4294967295 := fun full => inside (UInt32.toNat_inj.mp full)
    have width := last.toNat_lt
    rw [UInt32.toNat_add]
    change (last.toNat + 1) % 4294967296 = _
    omega
  rw [gapFill, between, next]

theorem between_self (top : UInt32) : between top top = [] := by
  unfold between
  rw [Nat.sub_eq_zero_of_le (Nat.le_succ _)]
  rfl

theorem reported_eq {last : UInt32} (inside : last ≠ 4294967295) (info : RtpExtInfo) :
    reported last info = (if last = 0 then [] else between last info.extTsn) ++ [info] := by
  unfold reported
  rw [gapFill_between inside, ite_not]

/-- The sort leaves arrivals with the highest number in their order, in front of all others. -/
theorem sorted_highest {infos rest : List RtpExtInfo} {top : RtpExtInfo} (sorted : sortExtInfos infos = top :: rest) :
    highest infos = top :: rest.filter fun info => info.extTsn = top.extTsn := by
  have below := sortExtInfos_sorted infos
  rw [sorted] at below
  have bound : ∀ info ∈ infos, info.extTsn ≤ top.extTsn := by
    intro info member
    rcases List.mem_cons.mp (sorted ▸ (sortExtInfos_perm infos).mem_iff.mpr member) with rfl | later
    · exact UInt32.le_refl _
    · exact (List.pairwise_cons.mp below).1 info later
  have among : top ∈ infos := (sortExtInfos_perm infos).mem_iff.mp (sorted ▸ List.mem_cons_self)
  have alike : highest infos = infos.filter fun info => info.extTsn = top.extTsn := by
    refine List.filter_congr fun info member => decide_eq_decide.mpr ?_
    constructor
    · exact fun above => UInt32.le_antisymm (bound info member) (above top among)
    · exact fun same => same ▸ bound
  have kept : (infos.filter fun info => info.extTsn = top.extTsn).Sublist (sortExtInfos infos) := by
    refine List.sublist_insertionSort (List.pairwise_iff_forall_sublist.mpr fun {a b} pair => ?_) List.filter_sublist
    have first := (List.mem_filter.mp (pair.subset List.mem_cons_self)).2
    have second := (List.mem_filter.mp (pair.subset (List.mem_cons_of_mem _ List.mem_cons_self))).2
    rw [of_decide_eq_true first, of_decide_eq_true second]
    exact UInt32.le_refl _
  have filtered := kept.filter fun info => info.extTsn = top.extTsn
  rw [List.filter_filter, sorted] at filtered
  simp only [Bool.and_self] at filtered
  have same := filtered.eq_of_length (by rw [← sorted]; exact ((sortExtInfos_perm infos).filter _).length_eq.symm)
  rw [alike, same]
  exact List.filter_cons_of_pos (decide_eq_true rfl)

theorem reportWrites_chunks {r : Responder} (listed : r.tccPkts.2 = r.entries) : r.reportWrites = r.chunks := by
  have cuts := loopWrites_cut r.tccPkts.2 r.tccPkts.2 r.tccPkts.1 summed_start
  rw [statusLoop_statuses, listed] at cuts
  rw [reportWrites, listed]
  exact cuts

end Responder

end Rsfu
