import Rsfu.Responder

/-! What building a feedback packet leaves alone, and the responders that pushes
and builds lead to. -/
namespace Rsfu

namespace Responder

/-- A part of a build: the collected arrivals stay, and no chunk is left half written. -/
structure Settles (r r' : Responder) : Prop where
  extInfo : r'.extInfo = r.extInfo
  chunk : r.chunk = 0 → r'.chunk = 0

theorem Settles.refl (r : Responder) : Settles r r := ⟨rfl, id⟩

theorem Settles.trans {r r' r'' : Responder} (h : Settles r r') (h' : Settles r' r'') : Settles r r'' :=
  ⟨h'.extInfo.trans h.extInfo, fun zero => h'.chunk (h.chunk zero)⟩

theorem writeDelta_frame (r : Responder) (deltaType : SymbolTypeTcc) (delta : UInt16) :
    ∃ deltas deltaLen, r.writeDelta deltaType delta = { r with deltas, deltaLen } := by
  unfold writeDelta
  split
  · exact ⟨_, _, rfl⟩
  · exact ⟨_, _, rfl⟩

/-- The header an arrival writes: only the first received one writes it. -/
def headerPart (pkts : List RtpExtInfo) (r : Responder) (l : StatusLoop) (stat : RtpExtInfo) : Bytes :=
  if stat.timestamp = 0 ∨ l.firstRecv = true then []
  else
    ({ r with payload := [] }.writeHeader ((pkts.head?.map RtpExtInfo.extTsn).getD 0).toUInt16
      (UInt16.ofNat pkts.length) (UInt32.ofInt (stat.timestamp.tdiv 64000))).payload

theorem writeHeader_payload (r : Responder) (bSn packetCount : UInt16) (refTime : UInt32) :
    r.writeHeader bSn packetCount refTime =
      { r with payload := r.payload ++ ({ r with payload := [] }.writeHeader bSn packetCount refTime).payload } := by
  simp only [writeHeader, List.nil_append, List.append_assoc]

theorem assignStatus_frame (pkts : List RtpExtInfo) (r : Responder) (l : StatusLoop) (stat : RtpExtInfo) :
    ∃ pktCtn deltas deltaLen timestamp,
      (assignStatus pkts r l stat).1 =
        { r with payload := r.payload ++ headerPart pkts r l stat, pktCtn, deltas, deltaLen } ∧
      (assignStatus pkts r l stat).2.1 =
        { l with firstRecv := l.firstRecv || decide (stat.timestamp ≠ 0), timestamp } := by
  unfold assignStatus headerPart
  by_cases missing : stat.timestamp = 0
  · refine ⟨r.pktCtn, r.deltas, r.deltaLen, l.timestamp, ?_, ?_⟩
    · simp only [missing, if_true, true_or, List.append_nil]
    · simp only [missing, if_true, ne_eq, not_true_eq_false, decide_false, Bool.or_false]
  · cases received : l.firstRecv with
    | true =>
        simp only [missing, received, if_false, if_true, or_true, Bool.true_or, List.append_nil]
        split
        · obtain ⟨deltas, deltaLen, written⟩ := writeDelta_frame r .packetReceivedSmallDelta
            (UInt16.ofInt ((stat.timestamp - l.timestamp).tdiv 250))
          exact ⟨r.pktCtn, deltas, deltaLen, stat.timestamp, written, by rw [← received]⟩
        · obtain ⟨deltas, deltaLen, written⟩ := writeDelta_frame r .packetReceivedLargeDelta
            (saturatedDelta ((stat.timestamp - l.timestamp).tdiv 250))
          exact ⟨r.pktCtn, deltas, deltaLen, stat.timestamp, written, by rw [← received]⟩
    | false =>
        simp only [missing, if_false, Bool.false_eq_true, or_self, ne_eq, not_false_eq_true, decide_true,
          Bool.or_true]
        rw [writeHeader_payload]
        split
        · obtain ⟨deltas, deltaLen, written⟩ := writeDelta_frame _ .packetReceivedSmallDelta _
          exact ⟨_, deltas, deltaLen, stat.timestamp, written, rfl⟩
        · obtain ⟨deltas, deltaLen, written⟩ := writeDelta_frame _ .packetReceivedLargeDelta _
          exact ⟨_, deltas, deltaLen, stat.timestamp, written, rfl⟩

theorem assignStatus_settles (pkts : List RtpExtInfo) (r : Responder) (l : StatusLoop) (stat : RtpExtInfo) :
    Settles r (assignStatus pkts r l stat).1 := by
  obtain ⟨pktCtn, deltas, deltaLen, timestamp, assigned, -⟩ := assignStatus_frame pkts r l stat
  rw [assigned]
  exact ⟨rfl, id⟩

theorem createSymbols_frame (symbolSize : SymbolSizeTypeTcc) (symbols : List (SymbolTypeTcc × Nat)) (r : Responder) :
    ∃ chunk, symbols.foldl (fun r symbol =>
      r.createStatusSymbolChunk symbolSize symbol.1.toU16 (UInt16.ofNat symbol.2)) r = { r with chunk } := by
  induction symbols generalizing r with
  | nil => exact ⟨r.chunk, rfl⟩
  | cons symbol rest ih =>
      obtain ⟨chunk, created⟩ := ih (r.createStatusSymbolChunk symbolSize symbol.1.toU16 (UInt16.ofNat symbol.2))
      exact ⟨chunk, created⟩

theorem createChunk_settles (r : Responder) (symbolSize : SymbolSizeTypeTcc) (symbols : List SymbolTypeTcc) :
    Settles r (r.createChunk symbolSize symbols) := by
  obtain ⟨chunk, created⟩ := createSymbols_frame symbolSize symbols.zipIdx r
  unfold createChunk
  rw [created]
  exact ⟨rfl, fun _ => rfl⟩

theorem endRun_settles (r : Responder) (l : StatusLoop) (status : SymbolTypeTcc) :
    Settles r (r.endRun l status).1 := by
  unfold endRun
  split
  · split
    · exact ⟨rfl, id⟩
    · exact .refl r
  · exact .refl r

theorem flushVectors_settles (r : Responder) (l : StatusLoop) : Settles r (r.flushVectors l).1 := by
  unfold flushVectors
  split
  · exact createChunk_settles r _ _
  · split
    · exact createChunk_settles r _ _
    · exact .refl r

theorem encodeStatus_settles (r : Responder) (l : StatusLoop) (status : SymbolTypeTcc) :
    Settles r (r.encodeStatus l status).1 :=
  (endRun_settles r l status).trans (flushVectors_settles _ _)

theorem statusLoop_settles (pkts rest : List RtpExtInfo) (r : Responder) (l : StatusLoop) :
    Settles r (statusLoop pkts rest r l).1 := by
  induction rest generalizing r l with
  | nil => exact .refl r
  | cons stat rest ih =>
      exact (assignStatus_settles pkts r l stat).trans
        ((encodeStatus_settles _ _ _).trans (ih _ _))

theorem finalFlush_settles (r : Responder) (l : StatusLoop) : Settles r (r.finalFlush l) := by
  unfold finalFlush
  split
  · exact .refl r
  · split
    · exact ⟨rfl, id⟩
    · split
      · exact createChunk_settles r _ _
      · exact createChunk_settles r _ _

theorem assemble_settles (crate : RtcpCrate) (r : Responder) : Settles r (r.assemble crate).1 := by
  unfold assemble
  simp only
  split
  · exact .refl r
  · exact ⟨rfl, id⟩

/-- The responders that pushes and builds lead to from a new one. -/
inductive Reachable (crate : RtcpCrate) : Responder → Prop where
  | new (ssrc sSsrc : UInt32) : Reachable crate (.new ssrc sSsrc)
  | push {r : Responder} (sn : UInt16) (timeNs : Int) : Reachable crate r → Reachable crate (r.push sn timeNs)
  | build {r : Responder} : Reachable crate r → Reachable crate (r.buildTransportCcPacket crate).1

theorem build_settles (crate : RtcpCrate) (r : Responder) :
    (r.buildTransportCcPacket crate).1.extInfo = [] ∧
      (r.chunk = 0 → (r.buildTransportCcPacket crate).1.chunk = 0) := by
  unfold buildTransportCcPacket
  cases arrivals : r.extInfo with
  | nil => exact ⟨arrivals, id⟩
  | cons info rest =>
      have settles := (statusLoop_settles r.tccPkts.2 r.tccPkts.2 r.tccPkts.1 {}).trans
        ((finalFlush_settles _ (statusLoop r.tccPkts.2 r.tccPkts.2 r.tccPkts.1 {}).2.1).trans
          (assemble_settles crate _))
      exact ⟨settles.extInfo, fun zero => settles.chunk zero⟩

theorem Reachable.chunk {crate : RtcpCrate} {r : Responder} (reachable : Reachable crate r) : r.chunk = 0 := by
  induction reachable with
  | new ssrc sSsrc => rfl
  | push sn timeNs _ ih => exact ih
  | build _ ih => exact (build_settles crate _).2 ih

/-- The header does not fit the empty slice it is marshalled into. -/
def rtcpCrate : RtcpCrate := ⟨fun _ _ _ => none⟩

end Responder

end Rsfu
