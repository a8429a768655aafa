import Rsfu.ChunkWords
import Mathlib.Data.List.Infix

/-! The status loop of the feedback builder. The chunks it appends, followed by
the pending statuses, are the statuses assigned so far; the summaries of the
pending list bound it to what the next chunk can hold. -/
namespace Rsfu

/-- No run of one status is longer than the run-length field can count. -/
def ShortRuns (statuses : List SymbolTypeTcc) : Prop :=
  ∀ count status, List.replicate count status <:+: statuses → count ≤ 8191

theorem ShortRuns.part {statuses part : List SymbolTypeTcc} (short : ShortRuns statuses)
    (within : part <:+: statuses) :
    ShortRuns part :=
  fun count status run => short count status (run.trans within)

theorem ShortRuns.of_length {statuses : List SymbolTypeTcc} (few : statuses.length ≤ 8191) : ShortRuns statuses := by
  intro count status run
  have := run.length_le
  rw [List.length_replicate] at this
  omega

namespace Responder

/-- What the pending statuses and their summaries satisfy, `status` being the last one. -/
structure Fits (l : StatusLoop) (status : SymbolTypeTcc) : Prop where
  known : ∀ s ∈ l.statusList, s ≠ .packetReceivedWithoutDelta
  even : l.same = true → ∀ s ∈ l.statusList, s = status
  maxKnown : l.maxStatus ≠ .packetReceivedWithoutDelta
  large : .packetReceivedLargeDelta ∈ l.statusList → l.maxStatus = .packetReceivedLargeDelta
  narrow : l.same = false → l.statusList.length ≤ 13
  wide : l.same = false → l.maxStatus = .packetReceivedLargeDelta → l.statusList.length ≤ 7

def Pending (l : StatusLoop) : Prop := Fits l l.lastStatus

/-- While `same` holds the pending statuses are one run. -/
theorem Pending.run {l : StatusLoop} (pending : Pending l) (same : l.same = true) :
    l.statusList = List.replicate l.statusList.length l.lastStatus :=
  List.eq_replicate_of_mem (pending.even same)

theorem Pending.run_length {l : StatusLoop} (pending : Pending l) (same : l.same = true)
    (short : ShortRuns l.statusList) : l.statusList.length ≤ 8191 := by
  apply short _ l.lastStatus
  rw [← pending.run same]

theorem raiseMax_known {maxStatus status : SymbolTypeTcc} (maxKnown : maxStatus ≠ .packetReceivedWithoutDelta)
    (known : status ≠ .packetReceivedWithoutDelta) : raiseMax maxStatus status ≠ .packetReceivedWithoutDelta := by
  unfold raiseMax
  split
  · exact known
  · exact maxKnown

theorem raiseMax_large {maxStatus status : SymbolTypeTcc} (maxKnown : maxStatus ≠ .packetReceivedWithoutDelta)
    (known : status ≠ .packetReceivedWithoutDelta) :
    raiseMax maxStatus status = .packetReceivedLargeDelta ↔
      maxStatus = .packetReceivedLargeDelta ∨ status = .packetReceivedLargeDelta := by
  cases maxStatus <;> cases status <;> simp_all [raiseMax, SymbolTypeTcc.toU16]

theorem code_lt_two {statuses : List SymbolTypeTcc} (known : ∀ s ∈ statuses, s ≠ .packetReceivedWithoutDelta)
    (small : .packetReceivedLargeDelta ∉ statuses) : ∀ s ∈ statuses, s.code < 2 := by
  intro s member
  cases s with
  | packetNotReceived => decide
  | packetReceivedSmallDelta => decide
  | packetReceivedLargeDelta => exact absurd member small
  | packetReceivedWithoutDelta => exact absurd rfl (known _ member)

theorem code_lt_four (s : SymbolTypeTcc) : s.code < 4 := by
  cases s <;> decide

/-- The run-length flush leaves a list that the next status can join. -/
theorem endRun_fits {l : StatusLoop} (r : Responder) (status : SymbolTypeTcc) (pending : Pending l) :
    Fits (r.endRun l status).2 status := by
  unfold endRun
  split
  · split
    · exact ⟨fun s member => (nomatch member), fun _ s member => (nomatch member),
        fun same => (nomatch same), fun member => (nomatch member), fun _ => Nat.zero_le _,
        fun _ _ => Nat.zero_le _⟩
    · rename_i few
      exact ⟨pending.known, fun same => (nomatch same), pending.maxKnown, pending.large,
        fun _ => by simp only; omega, fun _ _ => by simp only; omega⟩
  · rename_i stays
    refine { pending with even := ?_ }
    intro same s member
    have last := pending.even same s member
    by_cases other : status = l.lastStatus
    · rw [last, other]
    · exact absurd ⟨same, other, last ▸ pending.known s member⟩ stays

theorem endRun_emits {r : Responder} {l : StatusLoop} (status : SymbolTypeTcc) (zero : r.chunk = 0)
    (pending : Pending l) (short : ShortRuns l.statusList) :
    ∃ added, Emits r (r.endRun l status).1 added ∧
      added ++ (r.endRun l status).2.statusList = l.statusList := by
  unfold endRun
  split
  · rename_i ends
    split
    · refine ⟨_, writeRunLengthChunk_emits zero l.lastStatus (pending.run_length ends.1 short), ?_⟩
      rw [List.append_nil]
      exact (pending.run ends.1).symm
    · exact ⟨[], .refl zero, rfl⟩
  · exact ⟨[], .refl zero, rfl⟩

theorem resummarise_statusList (rest : List SymbolTypeTcc) (l : StatusLoop) :
    (rest.foldl resummarise l).statusList = l.statusList := by
  induction rest generalizing l with
  | nil => rfl
  | cons status rest ih => exact ih _

theorem resummarise_max {rest : List SymbolTypeTcc} (known : ∀ s ∈ rest, s ≠ .packetReceivedWithoutDelta)
    {l : StatusLoop} (maxKnown : l.maxStatus ≠ .packetReceivedWithoutDelta) :
    (rest.foldl resummarise l).maxStatus ≠ .packetReceivedWithoutDelta ∧
      (l.maxStatus = .packetReceivedLargeDelta ∨ .packetReceivedLargeDelta ∈ rest →
        (rest.foldl resummarise l).maxStatus = .packetReceivedLargeDelta) := by
  induction rest generalizing l with
  | nil => exact ⟨maxKnown, fun large => large.elim id fun member => (nomatch member)⟩
  | cons status rest ih =>
      have knownFirst := known status List.mem_cons_self
      obtain ⟨still, larger⟩ := ih (fun s member => known s (List.mem_cons_of_mem _ member))
        (l := resummarise l status) (raiseMax_known maxKnown knownFirst)
      refine ⟨still, fun large => larger ?_⟩
      rcases large with before | member
      · exact Or.inl ((raiseMax_large maxKnown knownFirst).mpr (Or.inl before))
      · rcases List.mem_cons.mp member with first | later
        · exact Or.inl ((raiseMax_large maxKnown knownFirst).mpr (Or.inr first.symm))
        · exact Or.inr later

/-- `same` survives only on a list of equal statuses, the last of which is kept. -/
theorem resummarise_even {rest : List SymbolTypeTcc} (known : ∀ s ∈ rest, s ≠ .packetReceivedWithoutDelta)
    {l : StatusLoop} (same : (rest.foldl resummarise l).same = true) :
    l.same = true ∧ (∀ s ∈ rest, s = (rest.foldl resummarise l).lastStatus) ∧
      (l.lastStatus ≠ .packetReceivedWithoutDelta → (rest.foldl resummarise l).lastStatus = l.lastStatus) := by
  induction rest generalizing l with
  | nil => exact ⟨same, fun s member => (nomatch member), fun _ => rfl⟩
  | cons status rest ih =>
      obtain ⟨sameFirst, even, last⟩ := ih (fun s member => known s (List.mem_cons_of_mem _ member)) same
      obtain ⟨sameBefore, joins⟩ := Bool.and_eq_true_iff.mp sameFirst
      have lastFirst := last (known status List.mem_cons_self)
      refine ⟨sameBefore, ?_, ?_⟩
      · intro s member
        rcases List.mem_cons.mp member with rfl | later
        · exact lastFirst.symm
        · exact even s later
      · intro started
        refine lastFirst.trans ?_
        simp only [Bool.not_eq_true', Bool.and_eq_false_iff, bne_eq_false_iff_eq] at joins
        rcases joins with fresh | equal
        · exact absurd fresh started
        · exact equal

/-- The summaries of what a two-bit flush leaves behind. -/
theorem resummarise_pending {rest : List SymbolTypeTcc} (known : ∀ s ∈ rest, s ≠ .packetReceivedWithoutDelta)
    (few : rest.length ≤ 7) (l : StatusLoop) :
    Pending (rest.foldl resummarise { l with
      statusList := rest
      lastStatus := .packetReceivedWithoutDelta
      maxStatus := .packetNotReceived
      same := true }) := by
  have list := resummarise_statusList rest { l with
    statusList := rest
    lastStatus := .packetReceivedWithoutDelta
    maxStatus := .packetNotReceived
    same := true }
  obtain ⟨maxKnown, large⟩ := resummarise_max known (l := { l with
    statusList := rest
    lastStatus := .packetReceivedWithoutDelta
    maxStatus := .packetNotReceived
    same := true }) (fun none => (nomatch none))
  constructor
  · rw [list]
    exact known
  · intro same
    rw [list]
    exact (resummarise_even known same).2.1
  · exact maxKnown
  · rw [list]
    exact fun member => large (Or.inr member)
  · rw [list]
    exact fun _ => few.trans (by decide)
  · rw [list]
    exact fun _ _ => few

/-- The summaries once a status joined the list, which may now be full. -/
structure Joined (l : StatusLoop) : Prop where
  known : ∀ s ∈ l.statusList, s ≠ .packetReceivedWithoutDelta
  even : l.same = true → ∀ s ∈ l.statusList, s = l.lastStatus
  maxKnown : l.maxStatus ≠ .packetReceivedWithoutDelta
  large : .packetReceivedLargeDelta ∈ l.statusList → l.maxStatus = .packetReceivedLargeDelta
  full : l.same = false → l.statusList.length ≤ 14

theorem enqueue_joined {l : StatusLoop} {status : SymbolTypeTcc} (known : status ≠ .packetReceivedWithoutDelta)
    (fits : Fits l status) : Joined (enqueue l status) := by
  constructor
  · intro s member
    rcases List.mem_append.mp member with old | new
    · exact fits.known s old
    · rw [List.mem_singleton.mp new]
      exact known
  · intro same s member
    rcases List.mem_append.mp member with old | new
    · exact fits.even same s old
    · exact List.mem_singleton.mp new
  · exact raiseMax_known fits.maxKnown known
  · intro member
    apply (raiseMax_large fits.maxKnown known).mpr
    rcases List.mem_append.mp member with old | new
    · exact Or.inl (fits.large old)
    · exact Or.inr (List.mem_singleton.mp new).symm
  · intro uneven
    have count : (enqueue l status).statusList.length = l.statusList.length + 1 := List.length_append
    have bound := fits.narrow uneven
    omega

/-- Seven pending statuses go out as a two-bit chunk. -/
theorem wide_emits {r : Responder} {l : StatusLoop} (zero : r.chunk = 0) (enough : 6 < l.statusList.length) :
    Emits r (r.createChunk .twoBit (l.statusList.take 7)) (l.statusList.take 7) := by
  have taken : (l.statusList.take 7).length = 7 := by
    rw [List.length_take]
    omega
  have chunk := createChunk_emits zero .twoBit (l.statusList.take 7) (fun s _ => code_lt_four s) (le_of_eq taken)
  rw [taken] at chunk
  change Emits r _ (l.statusList.take 7 ++ []) at chunk
  rw [List.append_nil] at chunk
  exact chunk

/-- Fourteen pending statuses, none of them of a large delta, go out as a one-bit chunk. -/
theorem narrow_emits {r : Responder} {l : StatusLoop} (zero : r.chunk = 0) (joined : Joined l)
    (small : l.maxStatus ≠ .packetReceivedLargeDelta) (all : l.statusList.length = 14) :
    Emits r (r.createChunk .oneBit l.statusList) l.statusList := by
  have codes := code_lt_two joined.known fun member => small (joined.large member)
  have chunk := createChunk_emits zero .oneBit l.statusList codes (le_of_eq all)
  rw [all] at chunk
  change Emits r _ (l.statusList ++ []) at chunk
  rw [List.append_nil] at chunk
  exact chunk

theorem flushVectors_pending {l : StatusLoop} (r : Responder) (joined : Joined l) :
    Pending (r.flushVectors l).2 := by
  unfold flushVectors
  split
  · rename_i wide
    have bound := joined.full (Bool.eq_false_iff.mpr wide.1)
    refine resummarise_pending (fun s member => joined.known s (List.mem_of_mem_drop member)) ?_ _
    rw [List.length_drop]
    omega
  · rename_i notWide
    split
    · rename_i narrow
      have bound := joined.full (Bool.eq_false_iff.mpr narrow.1)
      have none : l.statusList.drop 14 = [] := List.drop_of_length_le bound
      rw [none]
      exact ⟨fun s member => (nomatch member), fun _ s member => (nomatch member), fun none => (nomatch none),
        fun member => (nomatch member), fun same => (nomatch same), fun same => (nomatch same)⟩
    · rename_i below
      refine ⟨joined.known, joined.even, joined.maxKnown, joined.large, ?_, ?_⟩
      · intro uneven
        apply Nat.le_of_not_lt
        exact fun enough => below ⟨ne_true_of_eq_false uneven, enough⟩
      · intro uneven largeMax
        have few : ¬ 6 < l.statusList.length :=
          fun enough => notWide ⟨ne_true_of_eq_false uneven, largeMax, enough⟩
        change l.statusList.length ≤ 7
        omega

/-- A full list goes out as a vector chunk without empty slots. -/
theorem flushVectors_emits {r : Responder} {l : StatusLoop} (zero : r.chunk = 0) (joined : Joined l) :
    ∃ added, Emits r (r.flushVectors l).1 added ∧
      added ++ (r.flushVectors l).2.statusList = l.statusList := by
  unfold flushVectors
  split
  · rename_i wide
    refine ⟨_, wide_emits zero wide.2.2, ?_⟩
    rw [resummarise_statusList]
    exact List.take_append_drop _ _
  · rename_i notWide
    split
    · rename_i narrow
      obtain ⟨uneven, enough⟩ := narrow
      have bound := joined.full (Bool.eq_false_iff.mpr uneven)
      have small : l.maxStatus ≠ .packetReceivedLargeDelta :=
        fun largeMax => notWide ⟨uneven, largeMax, by omega⟩
      have all : l.statusList.length = 14 := by omega
      rw [List.take_of_length_le (le_of_eq all), List.drop_of_length_le (le_of_eq all)]
      exact ⟨_, narrow_emits zero joined small all, List.append_nil _⟩
    · exact ⟨[], .refl zero, rfl⟩

/-- One turn: the chunks and the pending list together gain the status. -/
theorem encodeStatus_emits {r : Responder} {l : StatusLoop} {status : SymbolTypeTcc} (zero : r.chunk = 0)
    (known : status ≠ .packetReceivedWithoutDelta) (pending : Pending l) (short : ShortRuns l.statusList) :
    ∃ added, Emits r (r.encodeStatus l status).1 added ∧
      added ++ (r.encodeStatus l status).2.statusList = l.statusList ++ [status] ∧
      Pending (r.encodeStatus l status).2 := by
  have turned := enqueue_joined known (endRun_fits r status pending)
  obtain ⟨run, emits, joined⟩ := endRun_emits status zero pending short
  obtain ⟨vector, emits', joined'⟩ := flushVectors_emits emits.chunk turned
  refine ⟨run ++ vector, emits.trans emits', ?_, flushVectors_pending _ turned⟩
  rw [← joined, List.append_assoc, List.append_assoc]
  exact congrArg (run ++ ·) joined'

/-- What the encoding of a status leaves to the handling of the arrivals. -/
theorem encodeStatus_locals (r : Responder) (l : StatusLoop) (status : SymbolTypeTcc) :
    (r.encodeStatus l status).2.firstRecv = l.firstRecv ∧
      (r.encodeStatus l status).2.timestamp = l.timestamp := by
  have resummarised : ∀ (rest : List SymbolTypeTcc) (l : StatusLoop),
      (rest.foldl resummarise l).firstRecv = l.firstRecv ∧ (rest.foldl resummarise l).timestamp = l.timestamp := by
    intro rest
    induction rest with
    | nil => exact fun l => ⟨rfl, rfl⟩
    | cons status rest ih => exact fun l => ih _
  have ended : (r.endRun l status).2.firstRecv = l.firstRecv ∧ (r.endRun l status).2.timestamp = l.timestamp := by
    unfold endRun
    split
    · split <;> exact ⟨rfl, rfl⟩
    · exact ⟨rfl, rfl⟩
  have flushed (l : StatusLoop) (r : Responder) :
      (r.flushVectors l).2.firstRecv = l.firstRecv ∧ (r.flushVectors l).2.timestamp = l.timestamp := by
    unfold flushVectors
    split
    · exact resummarised _ _
    · split <;> exact ⟨rfl, rfl⟩
  have joined := flushed (enqueue (r.endRun l status).2 status) (r.endRun l status).1
  exact ⟨joined.1.trans ended.1, joined.2.trans ended.2⟩

/-- As long as nothing was received, nothing is written. -/
structure Waiting (l : StatusLoop) : Prop where
  same : l.same = true
  missing : ∀ s ∈ l.statusList, s = .packetNotReceived
  last : l.lastStatus = .packetNotReceived ∨ l.lastStatus = .packetReceivedWithoutDelta

theorem encodeStatus_joins {l : StatusLoop} (waiting : Waiting l) (r : Responder) :
    r.encodeStatus l .packetNotReceived = (r, enqueue l .packetNotReceived) := by
  have joins : r.endRun l .packetNotReceived = (r, l) := by
    unfold endRun
    rw [if_neg]
    rintro ⟨-, other, started⟩
    rcases waiting.last with missing | fresh
    · exact other missing.symm
    · exact started fresh
  have even : (enqueue l .packetNotReceived).same = true := waiting.same
  have kept : r.flushVectors (enqueue l .packetNotReceived) = (r, enqueue l .packetNotReceived) := by
    unfold flushVectors
    rw [if_neg (fun full => full.1 even), if_neg (fun full => full.1 even)]
  unfold encodeStatus
  rw [joins]
  exact kept

theorem encodeStatus_waiting {r : Responder} {l : StatusLoop} (waiting : Waiting l) :
    (r.encodeStatus l .packetNotReceived).1 = r ∧ Waiting (r.encodeStatus l .packetNotReceived).2 ∧
      (r.encodeStatus l .packetNotReceived).2.statusList = l.statusList ++ [.packetNotReceived] := by
  rw [encodeStatus_joins waiting]
  refine ⟨rfl, ⟨waiting.same, ?_, Or.inl rfl⟩, rfl⟩
  intro s member
  rcases List.mem_append.mp member with old | new
  · exact waiting.missing s old
  · exact List.mem_singleton.mp new

/-- The header written while the arrivals are handled: the one of the first received. -/
def headerOf (pkts : List RtpExtInfo) (r : Responder) (l : StatusLoop) (rest : List RtpExtInfo) : Bytes :=
  match rest.find? fun stat => stat.timestamp ≠ 0 with
  | none => []
  | some stat => headerPart pkts r l stat

theorem headerOf_received (pkts : List RtpExtInfo) (r : Responder) {l : StatusLoop} (received : l.firstRecv = true)
    (rest : List RtpExtInfo) : headerOf pkts r l rest = [] := by
  unfold headerOf headerPart
  split
  · rfl
  · rw [if_pos (Or.inr received)]

theorem headerOf_cons {pkts : List RtpExtInfo} {r : Responder} {l : StatusLoop} {stat : RtpExtInfo}
    (written : l.firstRecv = true ∨ stat.timestamp ≠ 0) (rest : List RtpExtInfo) :
    headerOf pkts r l (stat :: rest) = headerPart pkts r l stat := by
  rcases written with received | arrived
  · rw [headerOf_received pkts r received]
    unfold headerPart
    rw [if_pos (Or.inr received)]
  · unfold headerOf
    rw [List.find?_cons_of_pos (by simpa only [decide_eq_true_eq] using arrived)]

theorem assignStatus_known (pkts : List RtpExtInfo) (r : Responder) (l : StatusLoop) (stat : RtpExtInfo) :
    (assignStatus pkts r l stat).2.2 ≠ .packetReceivedWithoutDelta := by
  unfold assignStatus
  split
  · exact fun none => (nomatch none)
  · simp only
    split
    · split <;> exact fun none => (nomatch none)
    · split <;> exact fun none => (nomatch none)

theorem statusLoop_cons (pkts : List RtpExtInfo) (stat : RtpExtInfo) (rest : List RtpExtInfo) (r : Responder)
    (l : StatusLoop) {r' : Responder} {l' : StatusLoop} {status : SymbolTypeTcc}
    (assigned : assignStatus pkts r l stat = (r', l', status)) :
    statusLoop pkts (stat :: rest) r l =
      ((statusLoop pkts rest (r'.encodeStatus l' status).1 (r'.encodeStatus l' status).2).1,
        (statusLoop pkts rest (r'.encodeStatus l' status).1 (r'.encodeStatus l' status).2).2.1,
        status :: (statusLoop pkts rest (r'.encodeStatus l' status).1 (r'.encodeStatus l' status).2).2.2) := by
  conv_lhs => unfold statusLoop
  rw [assigned]

/-- The handling of an arrival leaves the pending statuses and the chunk. -/
theorem assigned_pending {pkts : List RtpExtInfo} {r r' : Responder} {l l' : StatusLoop} {stat : RtpExtInfo}
    {status : SymbolTypeTcc} (assigned : assignStatus pkts r l stat = (r', l', status)) (zero : r.chunk = 0)
    (pending : Pending l) : r'.chunk = 0 ∧ Pending l' ∧ l'.statusList = l.statusList := by
  obtain ⟨pktCtn, deltas, deltaLen, timestamp, responder, locals⟩ := assignStatus_frame pkts r l stat
  rw [assigned] at responder locals
  simp only at responder locals
  rw [responder, locals]
  exact ⟨zero, ⟨pending.known, pending.even, pending.maxKnown, pending.large, pending.narrow, pending.wide⟩, rfl⟩

/-- A turn that finds the header written, or writes it. -/
theorem received_turn {pkts : List RtpExtInfo} {r r' : Responder} {l l' : StatusLoop} {stat : RtpExtInfo}
    {status : SymbolTypeTcc} (assigned : assignStatus pkts r l stat = (r', l', status)) (zero : r.chunk = 0)
    (pending : Pending l) (written : l.firstRecv = true ∨ stat.timestamp ≠ 0) (short : ShortRuns l.statusList) :
    (r'.encodeStatus l' status).2.firstRecv = true ∧
    ∃ added,
      Emits { r with payload := r.payload ++ headerPart pkts r l stat } (r'.encodeStatus l' status).1 added ∧
      added ++ (r'.encodeStatus l' status).2.statusList = l.statusList ++ [status] ∧
      Pending (r'.encodeStatus l' status).2 := by
  have known := assignStatus_known pkts r l stat
  obtain ⟨zero', pending', list⟩ := assigned_pending assigned zero pending
  obtain ⟨pktCtn, deltas, deltaLen, timestamp, responder, locals⟩ := assignStatus_frame pkts r l stat
  rw [assigned] at known responder locals
  simp only at responder locals
  have received : l'.firstRecv = true := by
    rw [locals]
    simp only [Bool.or_eq_true, decide_eq_true_eq]
    exact written
  obtain ⟨added, emits, joined, stillPending⟩ := encodeStatus_emits zero' known pending' (list ▸ short)
  rw [list] at joined
  refine ⟨(encodeStatus_locals r' l' status).1.trans received, added, ?_, joined, stillPending⟩
  rw [responder] at emits ⊢
  exact ⟨emits.chunk, emits.payload⟩

theorem headerOf_missing (pkts : List RtpExtInfo) (r : Responder) {l l' : StatusLoop} {stat : RtpExtInfo}
    (missing : stat.timestamp = 0) (same : l'.firstRecv = l.firstRecv) (rest : List RtpExtInfo) :
    headerOf pkts r l (stat :: rest) = headerOf pkts r l' rest := by
  unfold headerOf headerPart
  rw [List.find?_cons_of_neg (by simpa only [decide_eq_true_eq, not_not] using missing), same]

/-- The loop appends the header and then chunks that, with the statuses still
pending, are the statuses it assigned. -/
theorem statusLoop_emits {pkts rest : List RtpExtInfo} {r : Responder} {l : StatusLoop} (zero : r.chunk = 0)
    (pending : Pending l) (waits : l.firstRecv = false → Waiting l)
    (short : ShortRuns (l.statusList ++ (statusLoop pkts rest r l).2.2)) :
    ∃ added, Emits { r with payload := r.payload ++ headerOf pkts r l rest } (statusLoop pkts rest r l).1 added ∧
      added ++ (statusLoop pkts rest r l).2.1.statusList = l.statusList ++ (statusLoop pkts rest r l).2.2 ∧
      Pending (statusLoop pkts rest r l).2.1 := by
  induction rest generalizing r l with
  | nil =>
      refine ⟨[], ⟨zero, [], ?_, rfl⟩, (List.append_nil _).symm, pending⟩
      change r.payload = r.payload ++ [] ++ []
      rw [List.append_nil, List.append_nil]
  | cons stat rest ih =>
      have shortList : ShortRuns l.statusList := short.part (List.prefix_append _ _).isInfix
      by_cases written : l.firstRecv = true ∨ stat.timestamp ≠ 0
      · obtain ⟨r', l', status, assigned⟩ : ∃ r' l' status, assignStatus pkts r l stat = (r', l', status) :=
          ⟨_, _, _, rfl⟩
        rw [statusLoop_cons pkts stat rest r l assigned] at short ⊢
        obtain ⟨received, added, emits, joined, stillPending⟩ :=
          received_turn assigned zero pending written shortList
        obtain ⟨later, emitsLater, joinedLater, pendingLater⟩ :=
          ih emits.chunk stillPending (fun unreceived => by cases unreceived.symm.trans received) (by
            refine short.part (List.IsSuffix.isInfix ⟨added, ?_⟩)
            rw [← List.append_assoc, joined, List.append_assoc]
            rfl)
        rw [headerOf_received pkts _ received, List.append_nil] at emitsLater
        refine ⟨added ++ later, ?_, ?_, pendingLater⟩
        · rw [headerOf_cons written]
          exact emits.trans emitsLater
        · rw [List.append_assoc, joinedLater, ← List.append_assoc, joined, List.append_assoc]
          rfl
      · obtain ⟨unreceived, arrived⟩ := not_or.mp written
        have missing : stat.timestamp = 0 := not_not.mp arrived
        have waiting := waits (Bool.eq_false_iff.mpr unreceived)
        have skipped : assignStatus pkts r l stat = (r, l, .packetNotReceived) := if_pos missing
        rw [statusLoop_cons pkts stat rest r l skipped] at short ⊢
        obtain ⟨same, waitingNext, joined⟩ := encodeStatus_waiting (r := r) waiting
        have known : SymbolTypeTcc.packetNotReceived ≠ .packetReceivedWithoutDelta := by decide
        obtain ⟨-, -, -, stillPending⟩ := encodeStatus_emits zero known pending shortList
        rw [same] at short ⊢
        obtain ⟨later, emitsLater, joinedLater, pendingLater⟩ := ih zero stillPending (fun _ => waitingNext) (by
          rw [joined, List.append_assoc]
          exact short)
        refine ⟨later, ?_, ?_, pendingLater⟩
        · rw [headerOf_missing pkts r missing (encodeStatus_locals r l .packetNotReceived).1]
          exact emitsLater
        · rw [joinedLater, joined, List.append_assoc]
          rfl

/-- The last chunk holds the pending statuses; fewer than fourteen slots stay empty. -/
theorem finalFlush_emits {r : Responder} {l : StatusLoop} (zero : r.chunk = 0) (pending : Pending l)
    (short : ShortRuns l.statusList) :
    ∃ padding, padding < 14 ∧
      Emits r (r.finalFlush l) (l.statusList ++ List.replicate padding .packetNotReceived) := by
  unfold finalFlush
  split
  · rename_i empty
    refine ⟨0, by decide, ?_⟩
    rw [List.isEmpty_iff.mp empty]
    exact .refl zero
  · rename_i waiting
    have some : 0 < l.statusList.length := by
      rw [List.isEmpty_iff] at waiting
      exact List.length_pos_iff.mpr waiting
    split
    · rename_i same
      have chunk := writeRunLengthChunk_emits zero l.lastStatus (pending.run_length same short)
      rw [← pending.run same] at chunk
      refine ⟨0, by decide, ?_⟩
      rw [List.replicate_zero, List.append_nil]
      exact chunk
    · rename_i uneven
      split
      · rename_i largeMax
        have few := pending.wide (Bool.eq_false_iff.mpr uneven) largeMax
        refine ⟨7 - l.statusList.length, by omega, ?_⟩
        exact createChunk_emits zero .twoBit _ (fun s _ => code_lt_four s) few
      · rename_i smallMax
        have few := pending.narrow (Bool.eq_false_iff.mpr uneven)
        refine ⟨14 - l.statusList.length, by omega, ?_⟩
        exact createChunk_emits zero .oneBit _
          (code_lt_two pending.known fun member => smallMax (pending.large member)) (few.trans (by decide))

theorem pending_start : Pending {} :=
  ⟨fun _ member => (nomatch member), fun _ _ member => (nomatch member), fun none => (nomatch none),
    fun member => (nomatch member), fun same => (nomatch same), fun same => (nomatch same)⟩

theorem waiting_start : Waiting {} :=
  ⟨rfl, fun _ member => (nomatch member), Or.inr rfl⟩

/-- The chunks behind the header decode to the statuses assigned, and padding. -/
theorem build_chunks_decode {crate : RtcpCrate} {r : Responder} (reachable : Reachable crate r)
    (pkts : List RtpExtInfo) (short : ShortRuns (statusLoop pkts pkts r.tccPkts.1 {}).2.2) :
    ∃ chunks padding,
      ((statusLoop pkts pkts r.tccPkts.1 {}).1.finalFlush (statusLoop pkts pkts r.tccPkts.1 {}).2.1).payload =
        r.payload ++ headerOf pkts r.tccPkts.1 {} pkts ++ chunks ∧
      padding < 14 ∧
      decodeChunks chunks =
        some ((statusLoop pkts pkts r.tccPkts.1 {}).2.2 ++ List.replicate padding .packetNotReceived) := by
  have zero : r.tccPkts.1.chunk = 0 := reachable.chunk
  obtain ⟨added, emits, joined, pending⟩ :=
    statusLoop_emits zero pending_start (fun _ => waiting_start) short
  have total : added ++ (statusLoop pkts pkts r.tccPkts.1 {}).2.1.statusList =
      (statusLoop pkts pkts r.tccPkts.1 {}).2.2 := joined
  have remaining : ShortRuns (statusLoop pkts pkts r.tccPkts.1 {}).2.1.statusList :=
    short.part (List.IsSuffix.isInfix ⟨added, total⟩)
  obtain ⟨padding, few, emitsLast⟩ := finalFlush_emits emits.chunk pending remaining
  obtain ⟨chunks, payload, decoded⟩ := (emits.trans emitsLast).payload
  rw [← List.append_assoc, total] at decoded
  exact ⟨chunks, padding, payload, few, decoded⟩

def mixedPkts : List RtpExtInfo := [⟨7, 1000⟩, ⟨8, 0⟩, ⟨9, 1001⟩, ⟨10, 500000⟩]

theorem build_chunks_decode_mixed :
    (statusLoop mixedPkts mixedPkts (Responder.new 1 2).tccPkts.1 {}).2.2 =
      [.packetReceivedSmallDelta, .packetNotReceived, .packetReceivedSmallDelta, .packetReceivedLargeDelta] ∧
    ∃ chunks padding,
      ((statusLoop mixedPkts mixedPkts (Responder.new 1 2).tccPkts.1 {}).1.finalFlush
        (statusLoop mixedPkts mixedPkts (Responder.new 1 2).tccPkts.1 {}).2.1).payload =
        (Responder.new 1 2).payload ++ headerOf mixedPkts (Responder.new 1 2).tccPkts.1 {} mixedPkts ++ chunks ∧
      padding < 14 ∧
      decodeChunks chunks = some ((statusLoop mixedPkts mixedPkts (Responder.new 1 2).tccPkts.1 {}).2.2 ++
        List.replicate padding .packetNotReceived) :=
  ⟨by decide +kernel, build_chunks_decode (Reachable.new 1 2 : Reachable rtcpCrate _) mixedPkts
    (ShortRuns.of_length (by decide +kernel))⟩

end Responder

end Rsfu
