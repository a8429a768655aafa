import Rsfu.ArrivalReport
import Rsfu.StatusChunks

/-! What one feedback report leaves for the next. The encoder appends to the bytes
of all reports before it, and the arrivals are consumed before the header is
marshalled into an empty slice. -/
namespace Rsfu

namespace Responder

/-- The symbol of a delta, and the word it is written from. -/
def deltaStatus (delta : Int) : SymbolTypeTcc :=
  if 0 ≤ delta ∧ delta ≤ 255 then .packetReceivedSmallDelta else .packetReceivedLargeDelta

def deltaWord (delta : Int) : UInt16 :=
  if 0 ≤ delta ∧ delta ≤ 255 then UInt16.ofInt delta else saturatedDelta delta

/-- The responder once the header of the first received arrival is written. -/
def headed (pkts : List RtpExtInfo) (r : Responder) (l : StatusLoop) (stat : RtpExtInfo) : Responder :=
  if l.firstRecv then r
  else
    { r.writeHeader ((pkts.head?.map RtpExtInfo.extTsn).getD 0).toUInt16 (UInt16.ofNat pkts.length)
        (UInt32.ofInt (stat.timestamp.tdiv 64000)) with pktCtn := r.pktCtn + 1 }

/-- The time a delta is taken from: the arrival before it, or the reference time of the header. -/
def deltaBase (l : StatusLoop) (stat : RtpExtInfo) : Int :=
  if l.firstRecv then l.timestamp else stat.timestamp.tdiv 64000 * 64000

theorem assignStatus_missing (pkts : List RtpExtInfo) (r : Responder) (l : StatusLoop) {stat : RtpExtInfo}
    (missing : stat.timestamp = 0) : assignStatus pkts r l stat = (r, l, .packetNotReceived) := by
  unfold assignStatus
  rw [if_pos missing]

theorem assignStatus_arrived (pkts : List RtpExtInfo) (r : Responder) (l : StatusLoop) {stat : RtpExtInfo}
    (arrived : stat.timestamp ≠ 0) :
    let delta := (stat.timestamp - deltaBase l stat).tdiv 250
    assignStatus pkts r l stat =
      ((headed pkts r l stat).writeDelta (deltaStatus delta) (deltaWord delta),
        { l with firstRecv := true, timestamp := stat.timestamp }, deltaStatus delta) := by
  unfold assignStatus headed deltaBase deltaStatus deltaWord
  rw [if_neg arrived]
  cases received : l.firstRecv with
  | true =>
      dsimp only
      simp only [if_true]
      split
      · rw [← received]
      · rw [← received]
  | false =>
      dsimp only
      simp only [Bool.false_eq_true, if_false]
      split <;> rfl

/-- The second responder has other bytes in front of its own, and other lengths. -/
def Continues (payload deltas : Bytes) (r r' : Responder) : Prop :=
  ∃ len deltaLen lastReport,
    r' = { r with payload := payload ++ r.payload, deltas := deltas ++ r.deltas, len, deltaLen, lastReport }

section Continuing

variable {payload deltas : Bytes} {r r' : Responder}

theorem Continues.push (h : Continues payload deltas r r') (sn : UInt16) (timeNs : Int) :
    Continues payload deltas (r.push sn timeNs) (r'.push sn timeNs) := by
  obtain ⟨len, deltaLen, lastReport, rfl⟩ := h
  exact ⟨len, deltaLen, _, rfl⟩

theorem Continues.pushAll (h : Continues payload deltas r r') (batch : List (UInt16 × Int)) :
    Continues payload deltas (r.pushAll batch) (r'.pushAll batch) := by
  induction batch generalizing r r' with
  | nil => exact h
  | cons arrival rest ih => exact ih (h.push arrival.1 arrival.2)

theorem Continues.tccPkts (h : Continues payload deltas r r') :
    Continues payload deltas r.tccPkts.1 r'.tccPkts.1 ∧ r'.tccPkts.2 = r.tccPkts.2 := by
  obtain ⟨len, deltaLen, lastReport, rfl⟩ := h
  exact ⟨⟨len, deltaLen, lastReport, rfl⟩, rfl⟩

theorem Continues.writeRunLengthChunk (h : Continues payload deltas r r') (symbol runLength : UInt16) :
    Continues payload deltas (r.writeRunLengthChunk symbol runLength) (r'.writeRunLengthChunk symbol runLength) := by
  obtain ⟨len, deltaLen, lastReport, rfl⟩ := h
  exact ⟨len, deltaLen, lastReport, by simp only [Responder.writeRunLengthChunk, List.append_assoc]⟩

theorem Continues.writeDelta (h : Continues payload deltas r r') (deltaType : SymbolTypeTcc) (delta : UInt16) :
    Continues payload deltas (r.writeDelta deltaType delta) (r'.writeDelta deltaType delta) := by
  obtain ⟨len, deltaLen, lastReport, rfl⟩ := h
  unfold Responder.writeDelta
  split
  · exact ⟨len, _, lastReport, by simp only [List.append_assoc]; rfl⟩
  · exact ⟨len, _, lastReport, by simp only [List.append_assoc]; rfl⟩

theorem Continues.createSymbols (h : Continues payload deltas r r') (symbolSize : SymbolSizeTypeTcc)
    (symbols : List (SymbolTypeTcc × Nat)) :
    let create (r : Responder) (symbol : SymbolTypeTcc × Nat) :=
      r.createStatusSymbolChunk symbolSize symbol.1.toU16 (UInt16.ofNat symbol.2)
    Continues payload deltas (symbols.foldl create r) (symbols.foldl create r') := by
  intro create
  induction symbols generalizing r r' with
  | nil => exact h
  | cons symbol rest ih =>
      apply ih
      obtain ⟨len, deltaLen, lastReport, rfl⟩ := h
      exact ⟨len, deltaLen, lastReport, rfl⟩

theorem Continues.createChunk (h : Continues payload deltas r r') (symbolSize : SymbolSizeTypeTcc)
    (symbols : List SymbolTypeTcc) :
    Continues payload deltas (r.createChunk symbolSize symbols) (r'.createChunk symbolSize symbols) := by
  obtain ⟨len, deltaLen, lastReport, created⟩ := h.createSymbols symbolSize symbols.zipIdx
  unfold Responder.createChunk
  rw [created]
  exact ⟨len + 2, deltaLen, lastReport, by simp only [writeStatusSymbolChunk, List.append_assoc]⟩

theorem Continues.headed (h : Continues payload deltas r r') (pkts : List RtpExtInfo) (l : StatusLoop)
    (stat : RtpExtInfo) : Continues payload deltas (headed pkts r l stat) (headed pkts r' l stat) := by
  unfold Responder.headed
  split
  · exact h
  · obtain ⟨len, deltaLen, lastReport, rfl⟩ := h
    exact ⟨len, deltaLen, lastReport, by simp only [Responder.writeHeader, List.append_assoc]⟩

theorem Continues.assignStatus (h : Continues payload deltas r r') (pkts : List RtpExtInfo) (l : StatusLoop)
    (stat : RtpExtInfo) :
    Continues payload deltas (assignStatus pkts r l stat).1 (assignStatus pkts r' l stat).1 ∧
      (Responder.assignStatus pkts r' l stat).2 = (Responder.assignStatus pkts r l stat).2 := by
  by_cases missing : stat.timestamp = 0
  · rw [assignStatus_missing pkts r l missing, assignStatus_missing pkts r' l missing]
    exact ⟨h, rfl⟩
  · rw [assignStatus_arrived pkts r l missing, assignStatus_arrived pkts r' l missing]
    exact ⟨(h.headed pkts l stat).writeDelta _ _, rfl⟩

theorem Continues.endRun (h : Continues payload deltas r r') (l : StatusLoop) (status : SymbolTypeTcc) :
    Continues payload deltas (r.endRun l status).1 (r'.endRun l status).1 ∧
      (r'.endRun l status).2 = (r.endRun l status).2 := by
  unfold Responder.endRun
  split
  · split
    · exact ⟨h.writeRunLengthChunk _ _, rfl⟩
    · exact ⟨h, rfl⟩
  · exact ⟨h, rfl⟩

theorem Continues.flushVectors (h : Continues payload deltas r r') (l : StatusLoop) :
    Continues payload deltas (r.flushVectors l).1 (r'.flushVectors l).1 ∧
      (r'.flushVectors l).2 = (r.flushVectors l).2 := by
  unfold Responder.flushVectors
  split
  · exact ⟨h.createChunk _ _, rfl⟩
  · split
    · exact ⟨h.createChunk _ _, rfl⟩
    · exact ⟨h, rfl⟩

theorem Continues.encodeStatus (h : Continues payload deltas r r') (l : StatusLoop) (status : SymbolTypeTcc) :
    Continues payload deltas (r.encodeStatus l status).1 (r'.encodeStatus l status).1 ∧
      (r'.encodeStatus l status).2 = (r.encodeStatus l status).2 := by
  obtain ⟨ended, locals⟩ := h.endRun l status
  unfold Responder.encodeStatus
  dsimp only
  rw [locals]
  exact ended.flushVectors _

theorem Continues.statusLoop (h : Continues payload deltas r r') (pkts rest : List RtpExtInfo) (l : StatusLoop) :
    Continues payload deltas (statusLoop pkts rest r l).1 (statusLoop pkts rest r' l).1 ∧
      (Responder.statusLoop pkts rest r' l).2 = (Responder.statusLoop pkts rest r l).2 := by
  induction rest generalizing r r' l with
  | nil => exact ⟨h, rfl⟩
  | cons stat rest ih =>
      obtain ⟨assigned, same⟩ := h.assignStatus pkts l stat
      cases first : Responder.assignStatus pkts r l stat with
      | mk r₁ found =>
          cases second : Responder.assignStatus pkts r' l stat with
          | mk r₁' found' =>
              rw [first, second] at same
              rw [first, second] at assigned
              obtain rfl : found' = found := same
              obtain ⟨encoded, locals⟩ := assigned.encodeStatus found'.1 found'.2
              rw [statusLoop_cons pkts stat rest r l first, statusLoop_cons pkts stat rest r' l second, locals]
              obtain ⟨looped, answers⟩ := ih encoded (r₁.encodeStatus found'.1 found'.2).2
              rw [answers]
              exact ⟨looped, rfl⟩

theorem Continues.finalFlush (h : Continues payload deltas r r') (l : StatusLoop) :
    Continues payload deltas (r.finalFlush l) (r'.finalFlush l) := by
  unfold Responder.finalFlush
  split
  · exact h
  · split
    · exact h.writeRunLengthChunk _ _
    · split
      · exact h.createChunk _ _
      · exact h.createChunk _ _

end Continuing

/-- The chunks with their header, and the deltas, as a build has them when it
assembles the packet; there are none without an arrival. -/
def body (r : Responder) : Option (Bytes × Bytes) :=
  if r.extInfo.isEmpty then none
  else
    let looped := statusLoop r.tccPkts.2 r.tccPkts.2 r.tccPkts.1 {}
    let flushed := looped.1.finalFlush looped.2.1
    some (flushed.payload, flushed.deltas)

/-- A packet is its header, these bytes and the padding. -/
theorem packet_body {crate : RtcpCrate} {r : Responder} {raw : Bytes}
    (built : (r.buildTransportCcPacket crate).2 = some raw) :
    ∃ header payload deltas pad, r.body = some (payload, deltas) ∧ raw = header ++ payload ++ deltas ++ pad := by
  unfold buildTransportCcPacket at built
  unfold body
  cases empty : r.extInfo.isEmpty with
  | true =>
      rw [empty, if_pos rfl] at built
      cases built
  | false =>
      rw [empty, if_neg Bool.false_ne_true] at built
      rw [if_neg Bool.false_ne_true]
      unfold assemble at built
      dsimp only at built
      split at built
      · cases built
      · rename_i header _
        exact ⟨header, _, _, _, rfl, (Option.some.inj built).symm⟩

/-- A new responder with the counters of another. -/
def fresh (r : Responder) : Responder :=
  { Responder.new r.mSsrc r.sSsrc with
    cycles := r.cycles
    lastSn := r.lastSn
    lastExtSn := r.lastExtSn
    pktCtn := r.pktCtn }

theorem fresh_continues {r : Responder} (cleared : r.extInfo = []) (zero : r.chunk = 0) :
    Continues r.payload r.deltas r.fresh r := by
  refine ⟨r.len, r.deltaLen, r.lastReport, ?_⟩
  simp only [fresh, new, List.append_nil, ← cleared, ← zero]

theorem Continues.body {payload deltas : Bytes} {r r' : Responder} (h : Continues payload deltas r r') :
    r'.body = r.body.map fun own => (payload ++ own.1, deltas ++ own.2) := by
  obtain ⟨collected, pkts⟩ := h.tccPkts
  obtain ⟨looped, locals⟩ := collected.statusLoop r.tccPkts.2 r.tccPkts.2 {}
  obtain ⟨len, deltaLen, lastReport, flushed⟩ := looped.finalFlush
    (Responder.statusLoop r.tccPkts.2 r.tccPkts.2 r.tccPkts.1 {}).2.1
  have arrivals : r'.extInfo = r.extInfo := by
    obtain ⟨len, deltaLen, lastReport, rfl⟩ := h
    rfl
  unfold Responder.body
  rw [arrivals, pkts]
  cases r.extInfo.isEmpty with
  | true => rfl
  | false =>
      rw [if_neg Bool.false_ne_true, if_neg Bool.false_ne_true]
      dsimp only
      rw [locals, flushed]
      rfl

theorem Rested.chunk {crate : RtcpCrate} {r : Responder} (rested : Rested crate r) : r.chunk = 0 := by
  cases rested with
  | new ssrc sSsrc => rfl
  | built reachable => exact reachable.build.chunk

/-- A report is the one a fresh responder would make exactly when nothing is left of earlier ones. -/
theorem report_independent_iff {crate : RtcpCrate} {r : Responder} (rested : Rested crate r)
    (batch : List (UInt16 × Int)) :
    (r.pushAll batch).body = (r.fresh.pushAll batch).body ↔ batch = [] ∨ (r.payload = [] ∧ r.deltas = []) := by
  have continues := (fresh_continues rested.extInfo rested.chunk).pushAll batch
  have count := pushAll_length r.fresh batch
  rw [continues.body]
  cases batch with
  | nil => exact iff_of_true rfl (Or.inl rfl)
  | cons arrival rest =>
      obtain ⟨own, written⟩ : ∃ own, (r.fresh.pushAll (arrival :: rest)).body = some own := by
        unfold Responder.body
        rw [if_neg]
        · exact ⟨_, rfl⟩
        · rw [List.isEmpty_iff_length_eq_zero, count, List.length_cons]
          omega
      rw [written, Option.map_some, Option.some.injEq, Prod.mk.injEq, List.append_left_eq_self,
        List.append_left_eq_self, or_iff_right (List.cons_ne_nil arrival rest)]

theorem report_independent_iff_second :
    (reportedUpToThree.pushAll [(6, 2000)]).body = (reportedUpToThree.fresh.pushAll [(6, 2000)]).body ↔
      [((6 : UInt16), (2000 : Int))] = [] ∨ (reportedUpToThree.payload = [] ∧ reportedUpToThree.deltas = []) :=
  report_independent_iff (.built (.push 3 1000 (.new 1 2)) : Rested rtcpCrate reportedUpToThree) [(6, 2000)]

/-- The chunks and deltas of the first report are written again with the second. -/
theorem second_report_repeats_first :
    Rested rtcpCrate reportedUpToThree ∧
      (reportedUpToThree.pushAll [(6, 2000)]).body ≠ (reportedUpToThree.fresh.pushAll [(6, 2000)]).body := by
  refine ⟨.built (.push 3 1000 (.new 1 2)), ?_⟩
  decide +kernel

/-- A build that fails leaves everything for the next one, and fails only without an arrival. -/
def LosesNothing (crate : RtcpCrate) (r : Responder) : Prop :=
  (r.buildTransportCcPacket crate).2 = none →
    r.extInfo = [] ∧
      (let after := (r.buildTransportCcPacket crate).1
       after.extInfo = r.extInfo ∧ after.lastExtSn = r.lastExtSn ∧ after.pktCtn = r.pktCtn ∧
         after.payload = r.payload ∧ after.deltas = r.deltas ∧ after.len = r.len ∧ after.deltaLen = r.deltaLen)

/-- The header does not fit the empty slice it is marshalled into. -/
theorem build_fails {crate : RtcpCrate}
    (short : ∀ padding length room, room < 4 → crate.marshalHeader padding length room = none) (r : Responder) :
    (r.buildTransportCcPacket crate).2 = none := by
  unfold buildTransportCcPacket
  cases r.extInfo.isEmpty with
  | true => rfl
  | false =>
      rw [if_neg Bool.false_ne_true]
      unfold assemble
      dsimp only
      rw [short _ _ 0 (by decide)]

theorem failed_build_loses_nothing_iff {crate : RtcpCrate}
    (short : ∀ padding length room, room < 4 → crate.marshalHeader padding length room = none) (r : Responder) :
    LosesNothing crate r ↔ r.extInfo = [] := by
  constructor
  · intro keeps
    exact (keeps (build_fails short r)).1
  · intro empty _
    have unchanged : (r.buildTransportCcPacket crate).1 = r := by
      unfold buildTransportCcPacket
      rw [empty]
      rfl
    refine ⟨empty, ?_⟩
    rw [unchanged]
    exact ⟨rfl, rfl, rfl, rfl, rfl, rfl, rfl⟩

theorem rtcpCrate_short : ∀ padding length room, room < 4 → rtcpCrate.marshalHeader padding length room = none :=
  fun _ _ _ _ => rfl

theorem failed_build_loses_nothing_iff_arrival :
    (∀ padding length room, room < 4 → rtcpCrate.marshalHeader padding length room = none) ∧
      (LosesNothing rtcpCrate ((Responder.new 1 2).pushAll [(3, 1000), (5, 2000)]) ↔
        ((Responder.new 1 2).pushAll [(3, 1000), (5, 2000)]).extInfo = []) :=
  ⟨rtcpCrate_short, failed_build_loses_nothing_iff rtcpCrate_short _⟩

/-- The one arrival is gone, its number is taken as reported and its delta stays behind. -/
theorem failed_build_drops_arrival : ¬ LosesNothing rtcpCrate ((Responder.new 1 2).push 3 1000) := by
  intro keeps
  have failed : (((Responder.new 1 2).push 3 1000).buildTransportCcPacket rtcpCrate).2 = none := by decide +kernel
  have empty := (keeps failed).1
  exact absurd empty (by decide)

end Responder

end Rsfu
