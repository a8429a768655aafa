import Mathlib.Data.Set.List
import Rsfu.DeltaCoding
import Rsfu.FeedbackReports

/-! The arrival times a reader gets back from a feedback packet. The header counts
in 64 ms and the deltas in 250 µs, but an arrival is kept in units of 100 ns and
encoded as if these were microseconds. -/
namespace Rsfu
open DeltaCoding

/-- An entry of `tcc_pkts` with the time passed to `push`, if it was received. -/
structure Timed where
  extTsn : UInt32
  timeNs : Option Int

def Timed.info (e : Timed) : RtpExtInfo := ⟨e.extTsn, (e.timeNs.map fun t => t.tdiv 100).getD 0⟩

/-- A word read as a signed number. -/
def signed16 (w : UInt16) : Int := if w.toNat < 32768 then w.toNat else w.toNat - 65536

/-- The times in nanoseconds that a reader of statuses and delta bytes adds up from a first one. -/
def readTimes : Int → List SymbolTypeTcc → Bytes → List Int
  | time, .packetReceivedSmallDelta :: rest, delta :: bytes =>
      (time + 250000 * delta.toNat) :: readTimes (time + 250000 * delta.toNat) rest bytes
  | time, .packetReceivedLargeDelta :: rest, hi :: lo :: bytes =>
      (time + 250000 * signed16 (ByteStore.beU16 hi lo)) ::
        readTimes (time + 250000 * signed16 (ByteStore.beU16 hi lo)) rest bytes
  | time, .packetNotReceived :: rest, bytes => readTimes time rest bytes
  | _, _, _ => []

/-- The 24 bits of the reference time in a header. -/
def referenceTime (header : Bytes) : Nat :=
  65536 * (header.getD 12 0).toNat + 256 * (header.getD 13 0).toNat + (header.getD 14 0).toNat

def Near (bound a b : Int) : Prop := -bound ≤ a - b ∧ a - b ≤ bound

instance (bound a b : Int) : Decidable (Near bound a b) := inferInstanceAs (Decidable (_ ∧ _))

namespace Responder

/-- The times a reader gets from what a build appends for the entries. -/
def readBack (r : Responder) (entries : List Timed) : List Int :=
  let pkts := entries.map Timed.info
  let looped := statusLoop pkts pkts r {}
  let flushed := looped.1.finalFlush looped.2.1
  readTimes (64000000 * referenceTime (flushed.payload.drop r.payload.length)) looped.2.2
    (flushed.deltas.drop r.deltas.length)

/-- Every received packet is read back within 250 µs of the time passed to `push`. -/
def Recoverable (r : Responder) (entries : List Timed) : Prop :=
  List.Forall₂ (fun pushed read => Near 250000 read pushed) (entries.filterMap Timed.timeNs) (r.readBack entries)

/-- What a reader makes of the bytes of a delta. -/
def readDelta (delta : Int) : Int :=
  if 0 ≤ delta ∧ delta ≤ 255 then delta else signed16 (saturatedDelta delta)

theorem toNat_ofInt16 (x : Int) : ((UInt16.ofInt x).toNat : Int) = x % 65536 := by
  rw [UInt16.ofInt, SerialNumber.toNat_ofNat16]
  omega

theorem signed16_ofInt {x : Int} (low : -32768 ≤ x) (high : x ≤ 32767) : signed16 (UInt16.ofInt x) = x := by
  have residue := toNat_ofInt16 x
  unfold signed16
  split <;> omega

theorem saturatedDelta_signed (delta : Int) :
    signed16 (saturatedDelta delta) = delta ∧ -32768 ≤ delta ∧ delta ≤ 32767 ∨
      (delta < -32768 ∨ 32767 < delta) ∧
        (signed16 (saturatedDelta delta) = 32767 ∨ signed16 (saturatedDelta delta) = -32768) := by
  have wrapped : -32768 ≤ Int.bmod delta 65536 ∧ Int.bmod delta 65536 ≤ 32767 ∧
      (-32768 ≤ delta → delta ≤ 32767 → Int.bmod delta 65536 = delta) := by
    unfold Int.bmod
    dsimp only
    split <;> omega
  obtain ⟨low, high, exactly⟩ := wrapped
  unfold saturatedDelta
  dsimp only
  by_cases cut : Int.bmod delta 65536 ≠ delta
  · rw [if_pos cut]
    have far : delta < -32768 ∨ 32767 < delta := by
      by_contra inside
      exact cut (exactly (by omega) (by omega))
    right
    refine ⟨far, ?_⟩
    split
    · exact Or.inl (signed16_ofInt (by decide) (by decide))
    · exact Or.inr (signed16_ofInt (by decide) (by decide))
  · rw [if_neg cut]
    left
    rw [signed16_ofInt low high]
    omega

theorem readDelta_cases (delta : Int) :
    readDelta delta = delta ∧ -32768 ≤ delta ∧ delta ≤ 32767 ∨
      (delta < -32768 ∨ 32767 < delta) ∧ (readDelta delta = 32767 ∨ readDelta delta = -32768) := by
  unfold readDelta
  by_cases small : 0 ≤ delta ∧ delta ≤ 255
  · rw [if_pos small]
    omega
  · rw [if_neg small]
    exact saturatedDelta_signed delta

def deltaBytes (delta : Int) : Bytes :=
  if 0 ≤ delta ∧ delta ≤ 255 then [(UInt16.ofInt delta).toUInt8] else ByteStore.beBytes (saturatedDelta delta)

theorem writeDelta_bytes (r : Responder) (delta : Int) :
    (r.writeDelta (deltaStatus delta) (deltaWord delta)).deltas = r.deltas ++ deltaBytes delta ∧
      (r.writeDelta (deltaStatus delta) (deltaWord delta)).payload = r.payload := by
  unfold deltaStatus deltaWord deltaBytes writeDelta
  by_cases small : 0 ≤ delta ∧ delta ≤ 255
  · simp only [if_pos small, if_true, and_self]
  · simp only [if_neg small, reduceCtorEq, if_false, and_self]

/-- The bytes of a delta with its symbol, read back. -/
theorem readTimes_delta (time delta : Int) (statuses : List SymbolTypeTcc) (bytes : Bytes) :
    readTimes time (deltaStatus delta :: statuses) (deltaBytes delta ++ bytes) =
      (time + 250000 * readDelta delta) :: readTimes (time + 250000 * readDelta delta) statuses bytes := by
  unfold deltaStatus deltaBytes readDelta
  by_cases small : 0 ≤ delta ∧ delta ≤ 255
  · have byte : ((UInt16.ofInt delta).toUInt8.toNat : Int) = delta := by
      have residue := toNat_ofInt16 delta
      rw [UInt16.toNat_toUInt8]
      omega
    simp only [if_pos small, List.singleton_append, readTimes, byte]
  · simp only [if_neg small, ByteStore.beBytes, List.cons_append, List.nil_append, readTimes,
      ByteStore.beU16_beBytes]

/-- An encoder step that appends to the chunks and leaves the deltas. -/
def AppendsChunks (r r' : Responder) : Prop :=
  ∃ chunks chunk len, r' = { r with payload := r.payload ++ chunks, chunk, len }

theorem AppendsChunks.refl (r : Responder) : AppendsChunks r r := ⟨[], r.chunk, r.len, by rw [List.append_nil]⟩

theorem AppendsChunks.trans {r r' r'' : Responder} (h : AppendsChunks r r') (h' : AppendsChunks r' r'') :
    AppendsChunks r r'' := by
  obtain ⟨first, _, _, rfl⟩ := h
  obtain ⟨later, chunk, len, rfl⟩ := h'
  exact ⟨first ++ later, chunk, len, by rw [List.append_assoc]⟩

theorem createChunk_appends (r : Responder) (symbolSize : SymbolSizeTypeTcc) (symbols : List SymbolTypeTcc) :
    AppendsChunks r (r.createChunk symbolSize symbols) := by
  obtain ⟨chunk, created⟩ := createSymbols_frame symbolSize symbols.zipIdx r
  unfold createChunk
  rw [created]
  exact ⟨_, _, _, rfl⟩

theorem encodeStatus_appends (r : Responder) (l : StatusLoop) (status : SymbolTypeTcc) :
    AppendsChunks r (r.encodeStatus l status).1 := by
  have ended : AppendsChunks r (r.endRun l status).1 := by
    unfold endRun
    split
    · split
      · exact ⟨_, _, _, rfl⟩
      · exact .refl r
    · exact .refl r
  refine ended.trans ?_
  unfold encodeStatus flushVectors
  dsimp only
  split
  · exact createChunk_appends _ _ _
  · split
    · exact createChunk_appends _ _ _
    · exact .refl _

theorem finalFlush_appends (r : Responder) (l : StatusLoop) : AppendsChunks r (r.finalFlush l) := by
  unfold finalFlush
  split
  · exact .refl r
  · split
    · exact ⟨_, _, _, rfl⟩
    · split <;> exact createChunk_appends r _ _

/-- The times of the received entries, as the builder keeps them. -/
def arrivedTimes (rest : List RtpExtInfo) : List Int := (rest.map RtpExtInfo.timestamp).filter fun t => t ≠ 0

/-- The time the next delta is taken from. -/
def nextBase (l : StatusLoop) (rest : List RtpExtInfo) : Int :=
  if l.firstRecv then l.timestamp else ((arrivedTimes rest).headD 0).tdiv 64000 * 64000

theorem arrivedTimes_missing {stat : RtpExtInfo} (missing : stat.timestamp = 0) (rest : List RtpExtInfo) :
    arrivedTimes (stat :: rest) = arrivedTimes rest := by
  rw [arrivedTimes, List.map_cons, List.filter_cons_of_neg (by simp only [missing]; decide)]
  rfl

theorem arrivedTimes_arrived {stat : RtpExtInfo} (arrived : stat.timestamp ≠ 0) (rest : List RtpExtInfo) :
    arrivedTimes (stat :: rest) = stat.timestamp :: arrivedTimes rest := by
  rw [arrivedTimes, List.map_cons, List.filter_cons_of_pos (by simpa only [decide_eq_true_eq] using arrived)]
  rfl

/-- A missing packet leaves the deltas and what the next one is taken from. -/
theorem turn_missing (r : Responder) (l : StatusLoop) :
    (r.encodeStatus l .packetNotReceived).1.deltas = r.deltas ∧
      ∀ rest, nextBase (r.encodeStatus l .packetNotReceived).2 rest = nextBase l rest := by
  have encoded := encodeStatus_locals r l .packetNotReceived
  obtain ⟨chunks, chunk, len, appended⟩ := encodeStatus_appends r l .packetNotReceived
  refine ⟨by rw [appended], fun rest => ?_⟩
  rw [nextBase, nextBase, encoded.1, encoded.2]

/-- An arrival appends its delta, and the next one is taken from its time. -/
theorem turn_arrived (pkts : List RtpExtInfo) (r : Responder) (l : StatusLoop) (stat : RtpExtInfo) (delta : Int) :
    let written := (headed pkts r l stat).writeDelta (deltaStatus delta) (deltaWord delta)
    let turn := written.encodeStatus { l with firstRecv := true, timestamp := stat.timestamp } (deltaStatus delta)
    turn.1.deltas = r.deltas ++ deltaBytes delta ∧ ∀ rest, nextBase turn.2 rest = stat.timestamp := by
  intro written turn
  have encoded := encodeStatus_locals written { l with firstRecv := true, timestamp := stat.timestamp }
    (deltaStatus delta)
  obtain ⟨chunks, chunk, len, appended⟩ := encodeStatus_appends written
    { l with firstRecv := true, timestamp := stat.timestamp } (deltaStatus delta)
  have before : (headed pkts r l stat).deltas = r.deltas := by
    unfold headed
    split <;> rfl
  constructor
  · rw [appended, ← before]
    exact (writeDelta_bytes (headed pkts r l stat) delta).1
  · intro rest
    rw [nextBase, encoded.1, encoded.2]
    rfl

/-- Statuses and delta bytes of the loop, read back, are the sums of the deltas. -/
theorem statusLoop_read (pkts rest : List RtpExtInfo) (r : Responder) (l : StatusLoop) :
    ∃ bytes, (statusLoop pkts rest r l).1.deltas = r.deltas ++ bytes ∧
      ∀ time, readTimes time (statusLoop pkts rest r l).2.2 bytes =
        sums 250000 time ((DeltaCoding.deltas 250 (nextBase l rest) (arrivedTimes rest)).map readDelta) := by
  induction rest generalizing r l with
  | nil => exact ⟨[], (List.append_nil _).symm, fun time => rfl⟩
  | cons stat rest ih =>
      by_cases missing : stat.timestamp = 0
      · obtain ⟨still, next⟩ := turn_missing r l
        obtain ⟨bytes, written, read⟩ := ih (r.encodeStatus l .packetNotReceived).1
          (r.encodeStatus l .packetNotReceived).2
        rw [statusLoop_cons pkts stat rest r l (assignStatus_missing pkts r l missing)]
        refine ⟨bytes, written.trans (by rw [still]), fun time => (read time).trans ?_⟩
        rw [next, arrivedTimes_missing missing, nextBase, nextBase, arrivedTimes_missing missing]
      · have base : nextBase l (stat :: rest) = deltaBase l stat := by
          rw [nextBase, deltaBase, arrivedTimes_arrived missing, List.headD_cons]
        have assigned := assignStatus_arrived pkts r l missing
        dsimp only at assigned
        rw [arrivedTimes_arrived missing, base, DeltaCoding.deltas, List.map_cons,
          statusLoop_cons pkts stat rest r l assigned]
        generalize (stat.timestamp - deltaBase l stat).tdiv 250 = delta
        obtain ⟨appended, next⟩ := turn_arrived pkts r l stat delta
        obtain ⟨bytes, written, read⟩ := ih _ _
        refine ⟨deltaBytes delta ++ bytes, written.trans ?_, fun time => ?_⟩
        · rw [appended, List.append_assoc]
        · rw [readTimes_delta, read, next]
          rfl

/-- The header comes before the chunks. -/
theorem statusLoop_header (pkts rest : List RtpExtInfo) (r : Responder) {l : StatusLoop}
    (waits : l.firstRecv = false → Waiting l) :
    ∃ chunks, (statusLoop pkts rest r l).1.payload = r.payload ++ headerOf pkts r l rest ++ chunks := by
  induction rest generalizing r l with
  | nil => exact ⟨[], by rw [List.append_nil, headerOf, List.find?_nil, List.append_nil]; rfl⟩
  | cons stat rest ih =>
      by_cases missing : stat.timestamp = 0
      · have encoded := encodeStatus_locals r l .packetNotReceived
        rw [statusLoop_cons pkts stat rest r l (assignStatus_missing pkts r l missing)]
        cases received : l.firstRecv with
        | false =>
            obtain ⟨same, waiting, -⟩ := encodeStatus_waiting (r := r) (waits received)
            obtain ⟨chunks, written⟩ := ih r fun _ => waiting
            rw [same]
            exact ⟨chunks, by rw [written, headerOf_missing pkts r missing encoded.1]⟩
        | true =>
            have still : (r.encodeStatus l .packetNotReceived).2.firstRecv = true := encoded.1.trans received
            obtain ⟨first, chunk, len, appended⟩ := encodeStatus_appends r l .packetNotReceived
            obtain ⟨chunks, written⟩ := ih (r.encodeStatus l .packetNotReceived).1
              (l := (r.encodeStatus l .packetNotReceived).2) fun none => absurd (still.symm.trans none) (by decide)
            refine ⟨first ++ chunks, ?_⟩
            rw [written, headerOf_received pkts _ still, headerOf_received pkts r received, appended]
            simp only [List.append_nil, List.append_assoc]
      · obtain ⟨pktCtn, deltas, deltaLen, timestamp, responder, locals⟩ := assignStatus_frame pkts r l stat
        cases assigned : assignStatus pkts r l stat with
        | mk r₁ found =>
            rw [assigned] at responder locals
            dsimp only at responder locals
            have still : (r₁.encodeStatus found.1 found.2).2.firstRecv = true := by
              rw [(encodeStatus_locals r₁ found.1 found.2).1, locals]
              simp only [ne_eq, missing, not_false_eq_true, decide_true, Bool.or_true]
            obtain ⟨first, chunk, len, appended⟩ := encodeStatus_appends r₁ found.1 found.2
            obtain ⟨chunks, written⟩ := ih (r₁.encodeStatus found.1 found.2).1
              (l := (r₁.encodeStatus found.1 found.2).2) fun none => absurd (still.symm.trans none) (by decide)
            refine ⟨first ++ chunks, ?_⟩
            rw [statusLoop_cons pkts stat rest r l assigned, headerOf_cons (Or.inr missing)]
            dsimp only
            rw [written, headerOf_received pkts _ still, appended, responder]
            simp only [List.append_nil, List.append_assoc]

theorem word_top (v : UInt32) :
    65536 * ((v >>> 16).toUInt16 >>> 8).toUInt8.toNat + 256 * (v >>> 16).toUInt16.toUInt8.toNat +
      (v.toUInt16 >>> 8).toUInt8.toNat = v.toNat / 256 := by
  have := v.toNat_lt
  simp only [UInt16.toNat_toUInt8, UInt16.toNat_shiftRight, UInt32.toNat_toUInt16, UInt32.toNat_shiftRight,
    Nat.shiftRight_eq_div_pow, UInt16.reduceToNat, UInt32.reduceToNat, Nat.reduceMod]
  omega

theorem shifted_top (ref : UInt32) (count : UInt8) :
    ((ref <<< 8) ||| count.toUInt32).toNat / 256 = ref.toNat % 16777216 := by
  have shift : (ref <<< 8).toNat = 2 ^ 8 * (ref.toNat % 16777216) := by
    rw [UInt32.toNat_shiftLeft, Nat.shiftLeft_eq]
    simp only [UInt32.reduceToNat, Nat.reduceMod]
    omega
  have low := count.toNat_lt
  rw [UInt32.toNat_or, shift, UInt8.toNat_toUInt32, ← Nat.two_pow_add_eq_or_of_lt low]
  omega

/-- The header keeps the low 24 bits of the reference time. -/
theorem referenceTime_header (pkts : List RtpExtInfo) (r : Responder) {l : StatusLoop} {stat : RtpExtInfo}
    (first : l.firstRecv = false) (arrived : stat.timestamp ≠ 0) (more : Bytes) :
    (referenceTime (headerPart pkts r l stat ++ more) : Int) = stat.timestamp.tdiv 64000 % 16777216 := by
  unfold headerPart
  rw [if_neg (by simp only [arrived, first, Bool.false_eq_true, or_self, not_false_eq_true])]
  refine (congrArg Int.ofNat (word_top _)).trans ?_
  rw [shifted_top, UInt32.ofInt, UInt32.toNat_ofNat']
  change (((stat.timestamp.tdiv 64000 % 4294967296).toNat % 4294967296 % 16777216 : Nat) : Int) = _
  omega

/-- The received times of the entries in the units the builder keeps them in. -/
def keptTimes (received : List Int) : List Int := received.map fun t => t.tdiv 100

/-- The time the first delta is taken from. -/
def firstBase (received : List Int) : Int := ((keptTimes received).headD 0).tdiv 64000 * 64000

/-- What the 24 bits of the header leave out of it. -/
def headerLoss (received : List Int) : Int :=
  firstBase received - ((keptTimes received).headD 0).tdiv 64000 % 16777216 * 64000

/-- Ten times each pushed time, less what the header and the truncated deltas have
lost up to it, is within 250 µs of it. -/
def MadeUp (received : List Int) : Prop :=
  List.Forall₂ (fun pushed units => Near 250000 (1000 * (units - headerLoss received)) pushed) received
    (kept 250 0 (firstBase received) (keptTimes received))

/-- Consecutive received packets are less than eight seconds apart. -/
def Close (a b : Int) : Prop := Near 7999999999 b a

theorem keptTime_pos {t : Int} (late : 64000000 ≤ t) : 640000 ≤ t.tdiv 100 := by
  rw [Int.tdiv_eq_ediv_of_nonneg (by omega)]
  omega

theorem arrivedTimes_entries {entries : List Timed} (late : ∀ t ∈ entries.filterMap Timed.timeNs, 64000000 ≤ t) :
    arrivedTimes (entries.map Timed.info) = keptTimes (entries.filterMap Timed.timeNs) := by
  induction entries with
  | nil => rfl
  | cons e rest ih =>
      cases time : e.timeNs with
      | none =>
          rw [List.filterMap_cons_none time] at late ⊢
          have zero : e.info.timestamp = 0 := by
            rw [Timed.info, time]
            rfl
          rw [List.map_cons, arrivedTimes_missing zero]
          exact ih late
      | some t =>
          rw [List.filterMap_cons_some time] at late ⊢
          have enough := keptTime_pos (late t List.mem_cons_self)
          have kept : e.info.timestamp = t.tdiv 100 := by
            rw [Timed.info, time]
            rfl
          rw [List.map_cons, arrivedTimes_arrived (by omega), kept,
            ih fun later among => late later (List.mem_cons_of_mem t among)]
          rfl

/-- The header is that of the first received arrival. -/
theorem headerOf_first {pkts : List RtpExtInfo} (r : Responder) {l : StatusLoop} {time : Int} {later : List Int}
    (times : arrivedTimes pkts = time :: later) :
    ∃ stat, stat.timestamp = time ∧ stat.timestamp ≠ 0 ∧ headerOf pkts r l pkts = headerPart pkts r l stat := by
  have first : (pkts.find? fun stat => stat.timestamp ≠ 0).map RtpExtInfo.timestamp = some time := by
    have head : (arrivedTimes pkts).head? = some time := by rw [times, List.head?_cons]
    rwa [arrivedTimes, List.head?_filter, List.find?_map] at head
  obtain ⟨stat, found, same⟩ := Option.map_eq_some_iff.mp first
  refine ⟨stat, same, ?_, ?_⟩
  · simpa only [decide_eq_true_eq] using List.find?_some found
  · rw [headerOf, found]

/-- A delta that does not fit its bytes is read too far off to meet the next time. -/
theorem readDelta_agrees {a b total delta : Int} (met : Near 250000 total a) (near : Close a b) :
    (Near 250000 (total + 250000 * readDelta delta) b ↔ Near 250000 (total + 250000 * delta) b) ∧
      (Near 250000 (total + 250000 * delta) b → readDelta delta = delta) := by
  unfold Near Close at *
  unfold Near at near
  rcases readDelta_cases delta with ⟨same, -⟩ | ⟨far, read⟩
  · rw [same]
    exact ⟨Iff.rfl, fun _ => rfl⟩
  · have missed : ¬ (-250000 ≤ total + 250000 * delta - b ∧ total + 250000 * delta - b ≤ 250000) := by omega
    refine ⟨iff_of_false ?_ missed, fun here => absurd here missed⟩
    rcases read with high | low
    · rw [high]
      omega
    · rw [low]
      omega

/-- Reading the deltas from their bytes makes no difference to whether all times are met. -/
theorem readDelta_iff {t start : Int} {rest ds : List Int} (late : 64000000 ≤ t) (close : (t :: rest).IsChain Close)
    (encoded : ds = DeltaCoding.deltas 250 (firstBase (t :: rest)) (keptTimes (t :: rest))) :
    List.Forall₂ (fun pushed read => Near 250000 read pushed) (t :: rest) (sums 250000 start (ds.map readDelta)) ↔
      List.Forall₂ (fun pushed read => Near 250000 read pushed) (t :: rest) (sums 250000 start ds) := by
  have enough := keptTime_pos late
  -- the first delta is taken from a multiple of the header's unit below the time itself
  have small : 0 ≤ (t.tdiv 100 - firstBase (t :: rest)).tdiv 250 ∧
      (t.tdiv 100 - firstBase (t :: rest)).tdiv 250 ≤ 255 := by
    change 0 ≤ (t.tdiv 100 - (t.tdiv 100).tdiv 64000 * 64000).tdiv 250 ∧
      (t.tdiv 100 - (t.tdiv 100).tdiv 64000 * 64000).tdiv 250 ≤ 255
    rw [Int.tdiv_eq_ediv_of_nonneg (show 0 ≤ t.tdiv 100 by omega)]
    rw [Int.tdiv_eq_ediv_of_nonneg (by omega)]
    omega
  have first : readDelta ((t.tdiv 100 - firstBase (t :: rest)).tdiv 250) =
      (t.tdiv 100 - firstBase (t :: rest)).tdiv 250 := if_pos small
  have split : ds = (t.tdiv 100 - firstBase (t :: rest)).tdiv 250 ::
      DeltaCoding.deltas 250 (t.tdiv 100) (keptTimes rest) := encoded
  rw [split, List.map_cons, first]
  unfold sums
  rw [List.forall₂_cons, List.forall₂_cons]
  refine and_congr_right fun met => ?_
  exact sums_map_iff (fun pushed read => Near 250000 read pushed) Close 250000 readDelta
    (fun a b total delta => readDelta_agrees) met close _

/-- What a reader adds up, in terms of what is kept. -/
theorem sums_kept (start base : Int) (times : List Int) :
    sums 250000 (1000 * start) (DeltaCoding.deltas 250 base times) =
      (kept 250 0 base times).map fun units => 1000 * (units - (base - start)) := by
  have scaled := sums_scale 1000 250 start (DeltaCoding.deltas 250 base times)
  have shift : (fun units : Int => 1000 * (units - (base - start))) =
      (1000 * ·) ∘ (· + (start - (base - 0))) := by
    funext units
    change 1000 * (units - (base - start)) = 1000 * (units + (start - (base - 0)))
    omega
  rw [shift, ← List.map_map, ← sums_deltas]
  exact scaled

theorem recoverable_iff {r : Responder} {entries : List Timed}
    (late : ∀ t ∈ entries.filterMap Timed.timeNs, 64000000 ≤ t)
    (close : (entries.filterMap Timed.timeNs).IsChain Close) :
    r.Recoverable entries ↔ MadeUp (entries.filterMap Timed.timeNs) := by
  have times := arrivedTimes_entries late
  unfold Recoverable readBack
  dsimp only
  generalize entries.map Timed.info = pkts at times ⊢
  generalize entries.filterMap Timed.timeNs = received at times late close ⊢
  obtain ⟨bytes, written, read⟩ := statusLoop_read pkts pkts r {}
  obtain ⟨chunks, header⟩ := statusLoop_header pkts pkts r (l := {}) fun _ =>
    ⟨rfl, fun s among => (nomatch among), Or.inr rfl⟩
  obtain ⟨more, chunk, len, flushed⟩ :=
    finalFlush_appends (statusLoop pkts pkts r {}).1 (statusLoop pkts pkts r {}).2.1
  have base : nextBase {} pkts = firstBase received := by
    rw [nextBase, firstBase, times]
    rfl
  rw [flushed]
  dsimp only
  rw [written, header, List.drop_left, List.append_assoc, List.append_assoc, List.drop_left, read, times, base]
  cases received with
  | nil => exact iff_of_true .nil .nil
  | cons t rest =>
      obtain ⟨stat, same, nonzero, first⟩ := headerOf_first r (l := {}) times
      rw [first, referenceTime_header pkts r rfl nonzero, same]
      have start : (64000000 : Int) * ((t.tdiv 100).tdiv 64000 % 16777216) =
          1000 * (firstBase (t :: rest) - headerLoss (t :: rest)) := by
        change _ = 1000 * (firstBase (t :: rest) -
          (firstBase (t :: rest) - (t.tdiv 100).tdiv 64000 % 16777216 * 64000))
        omega
      have lost : firstBase (t :: rest) - (firstBase (t :: rest) - headerLoss (t :: rest)) =
          headerLoss (t :: rest) := by omega
      rw [start, readDelta_iff (late t List.mem_cons_self) close rfl, sums_kept, List.forall₂_map_right_iff, lost]
      exact Iff.rfl

/-- Before the reference time outgrows its 24 bits no received packet is read back. -/
theorem recoverable_early_iff {r : Responder} {entries : List Timed}
    (late : ∀ t ∈ entries.filterMap Timed.timeNs, 64000000 ≤ t)
    (early : ∀ t ∈ entries.filterMap Timed.timeNs, t < 107374182400000)
    (close : (entries.filterMap Timed.timeNs).IsChain Close) :
    r.Recoverable entries ↔ entries.filterMap Timed.timeNs = [] := by
  rw [recoverable_iff late close]
  generalize entries.filterMap Timed.timeNs = received at late early
  cases received with
  | nil => exact iff_of_true .nil rfl
  | cons t rest =>
      refine iff_of_false ?_ (List.cons_ne_nil t rest)
      intro made
      have first : Near 250000 (1000 * (t.tdiv 100 - (0 + (t.tdiv 100 - firstBase (t :: rest)).tmod 250) -
          headerLoss (t :: rest))) t := (List.forall₂_cons.mp made).1
      have above := late t List.mem_cons_self
      have below := early t List.mem_cons_self
      have units := keptTime_pos above
      have ten : t.tdiv 100 = t / 100 := Int.tdiv_eq_ediv_of_nonneg (by omega)
      have reference : (t.tdiv 100).tdiv 64000 = t.tdiv 100 / 64000 := Int.tdiv_eq_ediv_of_nonneg (by omega)
      have whole : headerLoss (t :: rest) = 0 := by
        change (t.tdiv 100).tdiv 64000 * 64000 - (t.tdiv 100).tdiv 64000 % 16777216 * 64000 = 0
        omega
      have cut : (t.tdiv 100 - firstBase (t :: rest)).tmod 250 < 250 := Int.tmod_lt_of_pos _ (by decide)
      rw [whole] at first
      unfold Near at first
      omega

theorem pushAll_infos {r : Responder} {batch : List (UInt16 × Int)} {info : RtpExtInfo}
    (member : info ∈ (r.pushAll batch).extInfo) :
    info ∈ r.extInfo ∨ ∃ arrival ∈ batch, info.timestamp = arrival.2.tdiv 100 := by
  induction batch generalizing r with
  | nil => exact Or.inl member
  | cons arrival rest ih =>
      rcases ih member with pushed | ⟨later, among, same⟩
      · rcases List.mem_append.mp pushed with old | new
        · exact Or.inl old
        · right
          exact ⟨arrival, List.mem_cons_self, congrArg RtpExtInfo.timestamp (List.mem_singleton.mp new)⟩
      · exact Or.inr ⟨later, List.mem_cons_of_mem arrival among, same⟩

theorem foldl_collect_infos {infos pkts : List RtpExtInfo} {last : UInt32} {found : RtpExtInfo}
    (member : found ∈ (infos.foldl collect (last, pkts)).2) :
    found ∈ pkts ∨ found.timestamp = 0 ∨ found ∈ infos := by
  induction infos generalizing last pkts with
  | nil => exact Or.inl member
  | cons info rest ih =>
      rw [List.foldl_cons] at member
      by_cases lower : info.extTsn < last
      · rw [collect, if_pos lower] at member
        exact (ih member).imp_right (Or.imp_right (List.mem_cons_of_mem info))
      · rw [collect_taken lower] at member
        rcases ih member with before | zero | later
        · rcases List.mem_append.mp before with old | new
          · exact Or.inl old
          · rcases mem_reported new with zero | rfl
            · exact Or.inr (Or.inl zero)
            · exact Or.inr (Or.inr List.mem_cons_self)
        · exact Or.inr (Or.inl zero)
        · exact Or.inr (Or.inr (List.mem_cons_of_mem info later))

/-- Every list built from pushes is one of entries with times passed to `push`. -/
theorem tccPkts_timed {crate : RtcpCrate} {r : Responder} (rested : Rested crate r) (batch : List (UInt16 × Int)) :
    ∃ entries : List Timed, (r.pushAll batch).tccPkts.2 = entries.map Timed.info ∧
      ∀ t ∈ entries.filterMap Timed.timeNs, ∃ arrival ∈ batch, arrival.2 = t := by
  let Pushed := {e : Timed // ∀ t, e.timeNs = some t → ∃ arrival ∈ batch, arrival.2 = t}
  have each : ∀ info ∈ (r.pushAll batch).tccPkts.2, info ∈ Set.range fun e : Pushed => e.val.info := by
    intro info member
    rw [tccPkts_eq] at member
    have missing : info.timestamp = 0 → info ∈ Set.range fun e : Pushed => e.val.info := by
      intro zero
      refine ⟨⟨⟨info.extTsn, none⟩, fun t none => (nomatch none)⟩, ?_⟩
      exact congrArg (RtpExtInfo.mk info.extTsn) zero.symm
    rcases foldl_collect_infos member with none | zero | arrived
    · cases none
    · exact missing zero
    · rcases pushAll_infos ((sortExtInfos_perm _).mem_iff.mp arrived) with old | ⟨arrival, among, same⟩
      · rw [rested.extInfo] at old
        cases old
      · refine ⟨⟨⟨info.extTsn, some arrival.2⟩, fun t pushed => ⟨arrival, among, Option.some.inj pushed⟩⟩, ?_⟩
        exact congrArg (RtpExtInfo.mk info.extTsn) same.symm
  have listed : (r.pushAll batch).tccPkts.2 ∈ Set.range (List.map fun e : Pushed => e.val.info) := by
    rw [Set.range_list_map]
    exact each
  obtain ⟨entries, built⟩ := listed
  refine ⟨entries.map Subtype.val, ?_, ?_⟩
  · rw [← built, List.map_map]
    rfl
  · intro t among
    obtain ⟨e, member, time⟩ := List.mem_filterMap.mp among
    obtain ⟨e, -, rfl⟩ := List.mem_map.mp member
    exact e.property t time

theorem recoverable_iff_gap :
    let entries : List Timed := [⟨4, none⟩, ⟨5, some 64000000⟩]
    (∀ t ∈ entries.filterMap Timed.timeNs, 64000000 ≤ t) ∧
      ((Responder.new 1 2).Recoverable entries ↔ MadeUp (entries.filterMap Timed.timeNs)) := by
  intro entries
  have late : ∀ t ∈ entries.filterMap Timed.timeNs, 64000000 ≤ t := by decide
  exact ⟨late, recoverable_iff late (List.isChain_singleton _)⟩

/-- A packet that arrives at 64 ms is read back at 640 ms. -/
theorem arrival_read_tenfold :
    let r := (Responder.new 1 2).push 5 64000000
    let entries : List Timed := [⟨5, some 64000000⟩]
    r.tccPkts.2 = entries.map Timed.info ∧ (∀ t ∈ entries.filterMap Timed.timeNs, 64000000 ≤ t) ∧
      (entries.filterMap Timed.timeNs).IsChain Close ∧ ¬ r.tccPkts.1.Recoverable entries := by
  intro r entries
  refine ⟨by decide +kernel, by decide, List.isChain_singleton _, ?_⟩
  intro met
  have read : r.tccPkts.1.readBack entries = [640000000] := by decide +kernel
  unfold Recoverable at met
  rw [read] at met
  have near : Near 250000 640000000 64000000 := (List.forall₂_cons.mp met).1
  exact absurd near (by decide)

end Responder

end Rsfu
