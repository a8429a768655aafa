import Rsfu.ArrivalTimes

/-! The chunks a build writes, call by call, and what they do to the counters that the
builder keeps beside its bytes. -/
namespace Rsfu

/-- A call of `write_run_length_chunk`, with the number it is given, or of `write_status_symbol_chunk`. -/
inductive ChunkWrite where
  | runLength (count : Nat)
  | vector
  deriving DecidableEq, Repr

/-- The bytes of a delta with this symbol. -/
def SymbolTypeTcc.deltaSize : SymbolTypeTcc → Nat
  | .packetNotReceived => 0
  | .packetReceivedSmallDelta => 1
  | _ => 2

namespace Responder

def endRunWrites (l : StatusLoop) (status : SymbolTypeTcc) : List ChunkWrite :=
  if l.same ∧ status ≠ l.lastStatus ∧ l.lastStatus ≠ .packetReceivedWithoutDelta then
    if 7 < l.statusList.length then [.runLength l.statusList.length] else []
  else []

def flushWrites (l : StatusLoop) : List ChunkWrite :=
  if ¬ l.same ∧ l.maxStatus = .packetReceivedLargeDelta ∧ 6 < l.statusList.length then [.vector]
  else if ¬ l.same ∧ 13 < l.statusList.length then [.vector]
  else []

def finalWrites (l : StatusLoop) : List ChunkWrite :=
  if l.statusList.isEmpty then [] else if l.same then [.runLength l.statusList.length] else [.vector]

/-- The chunks of one turn of the status loop, from the status it assigned. -/
def turnWrites (r : Responder) (l : StatusLoop) (status : SymbolTypeTcc) : List ChunkWrite :=
  endRunWrites l status ++ flushWrites (enqueue (r.endRun l status).2 status)

/-- The chunks of the status loop and of the flush behind it. -/
def loopWrites (pkts : List RtpExtInfo) : List RtpExtInfo → Responder → StatusLoop → List ChunkWrite
  | [], _, l => finalWrites l
  | stat :: rest, r, l =>
      let (r, l, status) := assignStatus pkts r l stat
      turnWrites r l status ++ loopWrites pkts rest (r.encodeStatus l status).1 (r.encodeStatus l status).2

theorem loopWrites_cons (pkts : List RtpExtInfo) (stat : RtpExtInfo) (rest : List RtpExtInfo) (r : Responder)
    (l : StatusLoop) {r' : Responder} {l' : StatusLoop} {status : SymbolTypeTcc}
    (assigned : assignStatus pkts r l stat = (r', l', status)) :
    loopWrites pkts (stat :: rest) r l = turnWrites r' l' status ++
      loopWrites pkts rest (r'.encodeStatus l' status).1 (r'.encodeStatus l' status).2 := by
  conv_lhs => unfold loopWrites
  rw [assigned]

/-- The headers still to be written: one, at the first received arrival. -/
def headers (l : StatusLoop) (rest : List RtpExtInfo) : Nat :=
  if l.firstRecv = false ∧ ∃ stat ∈ rest, stat.timestamp ≠ 0 then 1 else 0

/-- What a part of a build appends: headers of sixteen bytes, delta bytes and chunks. Only the
vector chunks are counted in `len`. -/
structure Appends (r r' : Responder) (headers deltaSize : Nat) (writes : List ChunkWrite) : Prop where
  payload : r'.payload.length = r.payload.length + 16 * headers + 2 * writes.length
  deltas : r'.deltas.length = r.deltas.length + deltaSize
  len : r'.len = r.len + UInt16.ofNat (2 * writes.count .vector)
  deltaLen : r'.deltaLen = r.deltaLen + deltaSize
  pktCtn : r'.pktCtn = r.pktCtn + UInt8.ofNat headers
  cycles : r'.cycles = r.cycles

theorem Appends.refl (r : Responder) : Appends r r 0 0 [] :=
  ⟨rfl, rfl, (UInt16.add_zero _).symm, rfl, (UInt8.add_zero _).symm, rfl⟩

theorem Appends.trans {r r' r'' : Responder} {headers headers' size size' : Nat} {writes writes' : List ChunkWrite}
    (h : Appends r r' headers size writes) (h' : Appends r' r'' headers' size' writes') :
    Appends r r'' (headers + headers') (size + size') (writes ++ writes') := by
  constructor
  · rw [h'.payload, h.payload, List.length_append]
    omega
  · rw [h'.deltas, h.deltas, Nat.add_assoc]
  · rw [h'.len, h.len, List.count_append, Nat.mul_add, UInt16.ofNat_add, UInt16.add_assoc]
  · rw [h'.deltaLen, h.deltaLen, Nat.add_assoc]
  · rw [h'.pktCtn, h.pktCtn, UInt8.ofNat_add, UInt8.add_assoc]
  · exact h'.cycles.trans h.cycles

theorem writeRunLengthChunk_writes (r : Responder) (symbol runLength : UInt16) (count : Nat) :
    Appends r (r.writeRunLengthChunk symbol runLength) 0 0 [.runLength count] := by
  refine ⟨?_, rfl, (UInt16.add_zero _).symm, rfl, (UInt8.add_zero _).symm, rfl⟩
  exact List.length_append

theorem createChunk_writes (r : Responder) (symbolSize : SymbolSizeTypeTcc) (symbols : List SymbolTypeTcc) :
    Appends r (r.createChunk symbolSize symbols) 0 0 [.vector] := by
  obtain ⟨chunk, created⟩ := createSymbols_frame symbolSize symbols.zipIdx r
  unfold createChunk
  rw [created]
  refine ⟨?_, rfl, rfl, rfl, (UInt8.add_zero _).symm, rfl⟩
  exact List.length_append

theorem endRun_writes (r : Responder) (l : StatusLoop) (status : SymbolTypeTcc) :
    Appends r (r.endRun l status).1 0 0 (endRunWrites l status) := by
  unfold endRun endRunWrites
  split
  · split
    · apply writeRunLengthChunk_writes
    · apply Appends.refl
  · apply Appends.refl

theorem flushVectors_writes (r : Responder) (l : StatusLoop) :
    Appends r (r.flushVectors l).1 0 0 (flushWrites l) := by
  unfold flushVectors flushWrites
  split
  · apply createChunk_writes
  · split
    · apply createChunk_writes
    · apply Appends.refl

theorem finalFlush_writes (r : Responder) (l : StatusLoop) :
    Appends r (r.finalFlush l) 0 0 (finalWrites l) := by
  unfold finalFlush finalWrites
  split
  · apply Appends.refl
  · split
    · apply writeRunLengthChunk_writes
    · split <;> apply createChunk_writes

theorem encodeStatus_writes (r : Responder) (l : StatusLoop) (status : SymbolTypeTcc) :
    Appends r (r.encodeStatus l status).1 0 0 (turnWrites r l status) :=
  (endRun_writes r l status).trans (flushVectors_writes _ _)

theorem writeDelta_writes (r : Responder) (delta : Int) :
    Appends r (r.writeDelta (deltaStatus delta) (deltaWord delta)) 0 (deltaStatus delta).deltaSize [] := by
  unfold deltaStatus deltaWord writeDelta
  split
  · exact ⟨rfl, List.length_append, (UInt16.add_zero _).symm, rfl, (UInt8.add_zero _).symm, rfl⟩
  · exact ⟨rfl, List.length_append, (UInt16.add_zero _).symm, rfl, (UInt8.add_zero _).symm, rfl⟩

theorem headed_writes (pkts : List RtpExtInfo) (r : Responder) (l : StatusLoop) (stat : RtpExtInfo) :
    Appends r (headed pkts r l stat) (if l.firstRecv = false then 1 else 0) 0 [] := by
  unfold headed
  cases l.firstRecv with
  | true => exact .refl r
  | false =>
      refine ⟨?_, rfl, (UInt16.add_zero _).symm, rfl, rfl, rfl⟩
      simp only [writeHeader, beBytes32, ByteStore.beBytes, Bool.false_eq_true, if_false, if_true,
        List.length_append, List.length_cons, List.length_nil]

/-- The header of an arrival, if it is the first received one, and its delta. -/
theorem assignStatus_writes (pkts rest : List RtpExtInfo) {r r' : Responder} {l l' : StatusLoop} {stat : RtpExtInfo}
    {status : SymbolTypeTcc} (assigned : assignStatus pkts r l stat = (r', l', status)) :
    ∃ written, Appends r r' written status.deltaSize [] ∧
      written + headers l' rest = headers l (stat :: rest) := by
  by_cases missing : stat.timestamp = 0
  · rw [assignStatus_missing pkts r l missing] at assigned
    cases assigned
    refine ⟨0, .refl r, ?_⟩
    simp only [headers, List.exists_mem_cons_iff, missing, ne_eq, not_true_eq_false, false_or, Nat.zero_add]
  · have found := assignStatus_arrived pkts r l missing
    dsimp only at found
    rw [found] at assigned
    cases assigned
    have both := (headed_writes pkts r l stat).trans
      (writeDelta_writes _ ((stat.timestamp - deltaBase l stat).tdiv 250))
    rw [Nat.zero_add] at both
    refine ⟨_, both, ?_⟩
    simp only [headers, List.exists_mem_cons_iff, missing, ne_eq, not_false_eq_true, true_or, and_true,
      Bool.true_eq_false, false_and, if_false, Nat.add_zero]

/-- The status loop with the flush behind it. -/
theorem statusLoop_writes (pkts rest : List RtpExtInfo) (r : Responder) (l : StatusLoop) :
    Appends r ((statusLoop pkts rest r l).1.finalFlush (statusLoop pkts rest r l).2.1) (headers l rest)
      ((statusLoop pkts rest r l).2.2.map SymbolTypeTcc.deltaSize).sum (loopWrites pkts rest r l) := by
  induction rest generalizing r l with
  | nil =>
      have none : headers l [] = 0 := by
        simp only [headers, List.not_mem_nil, false_and, exists_false, and_false, if_false]
      rw [none]
      exact finalFlush_writes r l
  | cons stat rest ih =>
      obtain ⟨r', l', status, assigned⟩ : ∃ r' l' status, assignStatus pkts r l stat = (r', l', status) :=
        ⟨_, _, _, rfl⟩
      obtain ⟨written, appended, total⟩ := assignStatus_writes pkts rest assigned
      have encoded := encodeStatus_writes r' l' status
      have received := (encodeStatus_locals r' l' status).1
      have later := ih (r'.encodeStatus l' status).1 (r'.encodeStatus l' status).2
      have same : headers (r'.encodeStatus l' status).2 rest = headers l' rest := by
        unfold headers
        rw [received]
      rw [same] at later
      rw [statusLoop_cons pkts stat rest r l assigned, loopWrites_cons pkts stat rest r l assigned, ← total,
        List.map_cons, List.sum_cons]
      have turn := (appended.trans encoded).trans later
      rw [Nat.add_zero, Nat.add_zero, List.nil_append] at turn
      exact turn

/-- The statuses of a build, one for each entry of `tcc_pkts`. -/
def statuses (r : Responder) : List SymbolTypeTcc := (statusLoop r.tccPkts.2 r.tccPkts.2 r.tccPkts.1 {}).2.2

/-- The bytes of the deltas of a build. -/
def deltaSize (r : Responder) : Nat := (r.statuses.map SymbolTypeTcc.deltaSize).sum

def reportWrites (r : Responder) : List ChunkWrite := loopWrites r.tccPkts.2 r.tccPkts.2 r.tccPkts.1 {}

/-- The responder as a build has it in front of the assembly of the packet. -/
def encoded (r : Responder) : Responder :=
  (statusLoop r.tccPkts.2 r.tccPkts.2 r.tccPkts.1 {}).1.finalFlush
    (statusLoop r.tccPkts.2 r.tccPkts.2 r.tccPkts.1 {}).2.1

theorem encoded_appends (r : Responder) :
    Appends r r.encoded (headers {} r.tccPkts.2) r.deltaSize r.reportWrites := by
  have all := statusLoop_writes r.tccPkts.2 r.tccPkts.2 r.tccPkts.1 {}
  exact ⟨all.payload, all.deltas, all.len, all.deltaLen, all.pktCtn, all.cycles⟩

theorem build_eq (crate : RtcpCrate) {r : Responder} (arrivals : r.extInfo ≠ []) :
    r.buildTransportCcPacket crate = r.encoded.assemble crate := by
  have some : r.extInfo.isEmpty = false := List.isEmpty_eq_false_iff.mpr arrivals
  unfold buildTransportCcPacket
  rw [some, if_neg Bool.false_ne_true]
  rfl

/-- A build without arrivals leaves the responder as it is. -/
theorem build_idle (crate : RtcpCrate) {r : Responder} (none : r.extInfo = []) :
    r.buildTransportCcPacket crate = (r, Option.none) := by
  unfold buildTransportCcPacket
  rw [none]
  rfl

end Responder

end Rsfu
