import Rsfu.SequenceTracking

/-! Reception reports. What was expected is counted from `base_sn`, the least of the first
numbers as sixteen-bit words, to the extended highest number; what was received, by a
counter that duplicates and late packets move as well. -/
namespace Rsfu
open SerialNumber GuardedRun

structure ReceptionReport where
  ssrc : UInt32
  fractionLost : UInt8
  totalLost : UInt32
  lastSequenceNumber : UInt32
  lastSenderReport : UInt32
  delay : UInt32
  deriving DecidableEq, Repr

/-- A buffer with what its reports keep: the counts of the last one, the loss rate as the
two numbers that are divided for it, and the last sender report. -/
structure Reporter where
  buffer : Buffer
  lastExpected : UInt32 := 0
  lastReceived : UInt32 := 0
  lostRate : UInt32 × UInt32 := (0, 1)
  lastSrrtpTime : UInt32 := 0
  lastSrRecv : Int := 0

namespace Reporter

def extMaxSeq (r : Reporter) : UInt32 := r.buffer.cycles ||| r.buffer.maxSeqNo.toUInt32

def expected (r : Reporter) : UInt32 := r.extMaxSeq - r.buffer.baseSn.toUInt32 + 1

def lost (r : Reporter) : UInt32 :=
  if r.buffer.stats.packetCount < r.expected ∧ r.buffer.stats.packetCount ≠ 0 then
    r.expected - r.buffer.stats.packetCount
  else 0

def expectedInterval (r : Reporter) : UInt32 := r.expected - r.lastExpected

def receivedInterval (r : Reporter) : UInt32 := r.buffer.stats.packetCount - r.lastReceived

def lostInterval (r : Reporter) : UInt32 := r.expectedInterval - r.receivedInterval

def fracLost (r : Reporter) : UInt8 :=
  if r.expectedInterval ≠ 0 ∧ 0 < r.lostInterval then ((r.lostInterval <<< 8) / r.expectedInterval).toUInt8 else 0

/-- The delay since the last sender report; `nanos` is what the clock gives for it. -/
def dlsr (r : Reporter) (nanos : UInt32) : UInt32 :=
  if r.lastSrRecv ≠ 0 then
    let delayMs := (nanos - UInt32.ofInt r.lastSrRecv) / 1000000
    ((delayMs / 1000) <<< 16) ||| (delayMs % 1000 * 65536 / 1000)
  else 0

def buildReceptionReport (r : Reporter) (nanos : UInt32) : Reporter × ReceptionReport :=
  ({ r with
      lastExpected := r.expected
      lastReceived := r.buffer.stats.packetCount
      lostRate := (r.lostInterval, r.expectedInterval) },
    { ssrc := r.buffer.mediaSsrc
      fractionLost := r.fracLost
      totalLost := r.lost
      lastSequenceNumber := r.extMaxSeq
      lastSenderReport := r.lastSrrtpTime >>> 16
      delay := r.dlsr nanos })

end Reporter

namespace Buffer
variable {crates : RtpCrates} {b : Buffer}

/-- The lowest number and the packets that may still lower it. -/
def probed (b : Buffer) : UInt16 × Int := (b.baseSn, b.minPacketProbe)

theorem trackSequence_probed (sn : UInt16) (arrivalTime : Int) :
    (b.trackSequence sn arrivalTime).1.probed =
      (if b.stats.packetCount = 0 then sn else b.baseSn, b.minPacketProbe) := by
  obtain ⟨cycles, maxSeqNo, nacker, tracked⟩ := trackSequence_writes b sn arrivalTime
  rw [tracked]
  rfl

theorem storePacket_probed {b' : Buffer} {pkt : Bytes} {sn : UInt16} {rv : Except CalcExit Packet}
    (h : b.storePacket crates pkt sn = some (b', rv)) : b'.probed = b.probed := by
  obtain ⟨bucket, rfl⟩ := storePacket_bucket h
  rfl

theorem finish_probed (crates : RtpCrates) (b : Buffer) (sn : UInt16) (ep : ExtPacket) (arrivalTime : Int) :
    (b.finish crates sn ep arrivalTime).1.probed = (b.probe sn ep).probed := by
  obtain ⟨extPackets, latestTimestamp, latestTimestampTime, nacker, bitrate, lastReport, bitrateHelper, finished⟩ :=
    finish_frame crates b sn ep arrivalTime
  rw [finished]
  rfl

theorem probe_base (b : Buffer) (sn : UInt16) (ep : ExtPacket) :
    (b.probe sn ep).baseSn = if b.minPacketProbe < 25 ∧ sn < b.baseSn then sn else b.baseSn := by
  unfold probe
  by_cases early : b.minPacketProbe < 25
  · simp only [early, if_true, true_and]
  · simp only [early, if_false, false_and]

/-- `base_sn` after a packet that `calc` takes in to the end. -/
theorem calc_base {pkt : Bytes} {arrivalTime : Int} {c : Calc} {sn : UInt16}
    (h : b.calc crates pkt arrivalTime = some c) (complete : c.exit = .complete)
    (numbered : ByteStore.u16At pkt 2 = some sn) :
    c.buffer.baseSn =
      let base := if b.stats.packetCount = 0 then sn else b.baseSn
      if b.minPacketProbe < 25 ∧ sn < base then sn else base := by
  obtain ⟨number, read, ends⟩ := calc_ends h
  obtain rfl := Option.some.inj (numbered.symm.trans read)
  cases ends with
  | @turnedAway after exit store =>
      obtain rfl : exit = .complete := complete
      cases ((storePacket_frame store).2.1 .complete rfl).1
  | badPayload store => cases complete
  | @takenIn after packet ep store headed =>
      obtain ⟨base, probes⟩ := Prod.mk.inj ((storePacket_probed store).trans (trackSequence_probed sn arrivalTime))
      refine (Prod.mk.inj (finish_probed crates _ sn ep arrivalTime)).1.trans ?_
      rw [probe_base, ← base, ← probes]
      rfl

end Buffer

/-- The lowest and the highest extended number received. -/
structure Extent where
  low : Int
  high : Nat
  deriving DecidableEq, Repr

/-- The numbers from the lowest to the highest. -/
def Extent.width (e : Extent) : Int := e.high - e.low + 1

/-- A reporter with the extent of the numbers received, and what they were at the last report:
how many numbers wide, and how many packets ago. -/
structure Reporting where
  reporter : Reporter
  extent : Option Extent := none
  reported : Int := 0
  received : Nat := 0

inductive ReportOp where
  | packet (pkt : Bytes) (arrivalTime : Int)
  | report (nanos : UInt32)

namespace Reporting
variable {crates : RtpCrates}

def buffer (g : Reporting) : Buffer := g.reporter.buffer

/-- The extended number of a packet: less than half a cycle above the highest, or at most
half a cycle below it. -/
def extended (extent : Option Extent) (sn : UInt16) : Int :=
  match extent with
  | none => sn.toNat
  | some e =>
      let ahead := (sn - UInt16.ofNat e.high).toNat
      if ahead < 32768 then e.high + ahead else e.high + ahead - 65536

def reach (extent : Option Extent) (sn : UInt16) : Extent :=
  match extent with
  | none => ⟨sn.toNat, sn.toNat⟩
  | some e => ⟨min e.low (extended extent sn), max e.high (extended extent sn).toNat⟩

/-- A packet that `calc` takes in to the end. -/
def receive (crates : RtpCrates) (g : Reporting) (pkt : Bytes) (arrivalTime : Int) : Option Reporting := do
  let sn ← ByteStore.u16At pkt 2
  let c ← g.buffer.calc crates pkt arrivalTime
  if c.exit = .complete then
    some { g with
      reporter := { g.reporter with buffer := c.buffer }
      extent := some (reach g.extent sn)
      received := g.received + 1 }
  else none

def report (g : Reporting) (nanos : UInt32) : Reporting :=
  { g with
    reporter := (g.reporter.buildReceptionReport nanos).1
    reported := (g.extent.map Extent.width).getD 0
    received := 0 }

def step (crates : RtpCrates) (g : Reporting) : ReportOp → Option Reporting
  | .packet pkt arrivalTime => g.receive crates pkt arrivalTime
  | .report nanos => some (g.report nanos)

/-- A report of the numbers received: no subtraction goes below zero, nothing is divided by
zero, and its counts are those of the numbers. -/
structure Exact (r : Reporter) (nanos : UInt32) (e : Extent) (reported : Int) (received : Nat) : Prop where
  base : r.buffer.baseSn.toUInt32 ≤ r.extMaxSeq
  grown : r.lastExpected ≤ r.expected
  counted : r.lastReceived ≤ r.buffer.stats.packetCount
  fewer : r.receivedInterval ≤ r.expectedInterval
  delay : r.lastSrRecv ≠ 0 → UInt32.ofInt r.lastSrRecv ≤ nanos
  divisor : (r.buildReceptionReport nanos).1.lostRate.2 ≠ 0
  expected : ((r.buildReceptionReport nanos).1.lastExpected.toNat : Int) = e.width
  totalLost : ((r.buildReceptionReport nanos).2.totalLost.toNat : Int) =
    max 0 (e.width - r.buffer.stats.packetCount.toNat)
  fractionLost : ((r.buildReceptionReport nanos).2.fractionLost.toNat : Int) =
    min 255 (256 * max 0 (e.width - reported - received) / (e.width - reported))

def ReportsExactly (g : Reporting) : ReportOp → Prop
  | .packet _ _ => True
  | .report nanos => ∃ e, g.extent = some e ∧ Exact g.reporter nanos e g.reported g.received

/-- The packet leaves `base_sn` at the lowest number: one of the first 25 is not below zero
and, past the first cycle, not below `base_sn` as a word; a later one is not the lowest. -/
structure Follows (b : Buffer) (e : Extent) (sn : UInt16) : Prop where
  counter : b.stats.packetCount ≠ 4294967295
  small : extended (some e) sn < 4294967296
  low : if b.minPacketProbe < 25 then 0 ≤ extended (some e) sn ∧ (65536 ≤ extended (some e) sn → b.baseSn ≤ sn)
    else e.low ≤ extended (some e) sn

/-- The numbers have spread since the last report, by as much as packets came and less than
2^24 more. -/
structure Spread (e : Extent) (reported : Int) (received : Nat) : Prop where
  fits : e.width < 4294967296
  moved : reported < e.width
  fewer : received ≤ e.width - reported
  shifts : e.width - reported - received < 16777216

instance (b : Buffer) (e : Extent) (sn : UInt16) : Decidable (Follows b e sn) :=
  decidable_of_iff (b.stats.packetCount ≠ 4294967295 ∧ extended (some e) sn < 4294967296 ∧
      if b.minPacketProbe < 25 then 0 ≤ extended (some e) sn ∧ (65536 ≤ extended (some e) sn → b.baseSn ≤ sn)
      else e.low ≤ extended (some e) sn)
    ⟨fun all => ⟨all.1, all.2.1, all.2.2⟩, fun follows => ⟨follows.counter, follows.small, follows.low⟩⟩

instance (e : Extent) (reported : Int) (received : Nat) : Decidable (Spread e reported received) :=
  decidable_of_iff (e.width < 4294967296 ∧ reported < e.width ∧ received ≤ e.width - reported ∧
      e.width - reported - received < 16777216)
    ⟨fun all => ⟨all.1, all.2.1, all.2.2.1, all.2.2.2⟩,
      fun spread => ⟨spread.fits, spread.moved, spread.fewer, spread.shifts⟩⟩

def Regular (g : Reporting) : ReportOp → Prop
  | .packet pkt _ => ∀ sn ∈ ByteStore.u16At pkt 2, ∀ e ∈ g.extent, Follows g.buffer e sn
  | .report _ => ∃ e ∈ g.extent, Spread e g.reported g.received

instance (g : Reporting) : ∀ op, Decidable (g.Regular op)
  | .packet pkt _ =>
      have : ∀ sn, Decidable (∀ e ∈ g.extent, Follows g.buffer e sn) := fun _ => Option.decidableForallMem g.extent
      Option.decidableForallMem (ByteStore.u16At pkt 2)
  | .report _ => inferInstanceAs (Decidable (∃ e ∈ g.extent, Spread e g.reported g.received))

/-- The counters in terms of the numbers received. -/
structure Counts (g : Reporting) (e : Extent) : Prop where
  cycles : g.buffer.cycles.toNat = 65536 * (e.high / 65536)
  maxSeqNo : g.buffer.maxSeqNo = UInt16.ofNat e.high
  base : (g.buffer.baseSn.toNat : Int) = e.low
  ordered : e.low ≤ e.high
  small : e.high < 4294967296
  counting : g.buffer.stats.packetCount ≠ 0
  received : g.buffer.stats.packetCount.toNat = g.reporter.lastReceived.toNat + g.received
  expected : (g.reporter.lastExpected.toNat : Int) = g.reported
  reported : g.reported ≤ e.width
  unmoved : g.received = 0 → g.reported = e.width

/-- No packet and no report so far. -/
structure Unused (g : Reporting) : Prop where
  uncounted : g.buffer.stats.packetCount = 0
  cycles : g.buffer.cycles = 0
  received : g.received = 0 ∧ g.reporter.lastReceived = 0
  reported : g.reported = 0 ∧ g.reporter.lastExpected = 0

def Counted (g : Reporting) : Prop :=
  g.reporter.lastSrRecv = 0 ∧ match g.extent with
    | none => g.Unused
    | some e => g.Counts e

theorem toNat_ahead (sn : UInt16) (high : Nat) :
    (sn - UInt16.ofNat high).toNat = (65536 + sn.toNat - high % 65536) % 65536 := by
  rw [toNat_sub16, toNat_ofNat16]

theorem extended_congr (e : Extent) (sn : UInt16) : ∃ k : Int, extended (some e) sn = sn.toNat + 65536 * k := by
  have ahead := toNat_ahead sn e.high
  have bound := sn.toNat_lt
  unfold extended
  dsimp only
  split
  · exact ⟨(e.high + (sn - UInt16.ofNat e.high).toNat - sn.toNat : Int) / 65536, by omega⟩
  · exact ⟨(e.high + (sn - UInt16.ofNat e.high).toNat - 65536 - sn.toNat : Int) / 65536, by omega⟩

/-- A step forward to the residue `s` completes a cycle when `s` is below the residue before it. -/
theorem forward_cycles (high : Nat) {s : Nat} (bound : s < 65536) :
    (high + (65536 + s - high % 65536) % 65536) / 65536 = high / 65536 + if s < high % 65536 then 1 else 0 := by
  split <;> omega

section Packet
variable {g : Reporting} {e : Extent} {sn : UInt16}

/-- The head moves to the higher of the two numbers. -/
theorem Counts.track (counts : g.Counts e) (small : extended (some e) sn < 4294967296) (arrivalTime : Int) :
    (g.buffer.trackSequence sn arrivalTime).1.cycles.toNat = 65536 * ((reach (some e) sn).high / 65536) ∧
      (g.buffer.trackSequence sn arrivalTime).1.maxSeqNo = UInt16.ofNat (reach (some e) sn).high ∧
      (reach (some e) sn).high < 4294967296 := by
  have ahead := toNat_ahead sn e.high
  have bound := sn.toNat_lt
  have high_small := counts.small
  have cycles := counts.cycles
  have head : g.buffer.maxSeqNo.toNat = e.high % 65536 := by rw [counts.maxSeqNo, toNat_ofNat16]
  by_cases clear : distance sn g.buffer.maxSeqNo &&& 0x8000 = 0
  · rw [Buffer.trackSequence_forward counts.counting clear]
    rw [distance_eq_sub, counts.maxSeqNo, high_bit_clear_iff] at clear
    have number : extended (some e) sn = (e.high + (sn - UInt16.ofNat e.high).toNat : Nat) := by
      unfold extended
      dsimp only
      rw [if_pos clear]
      exact (Int.natCast_add _ _).symm
    have high : (reach (some e) sn).high = e.high + (sn - UInt16.ofNat e.high).toNat := by
      change max e.high (extended (some e) sn).toNat = _
      rw [number, Int.toNat_natCast]
      omega
    rw [number] at small
    have next := Int.ofNat_lt.mp small
    have completed := forward_cycles e.high bound
    rw [← ahead, ← head] at completed
    dsimp only
    rw [high]
    refine ⟨?_, ?_, next⟩
    · rw [completed]
      by_cases wraps : sn < g.buffer.maxSeqNo
      · rw [if_pos wraps, if_pos (UInt16.lt_iff_toNat_lt.mp wraps), UInt32.toNat_add]
        rw [if_pos (UInt16.lt_iff_toNat_lt.mp wraps)] at completed
        change (g.buffer.cycles.toNat + 65536) % 4294967296 = _
        omega
      · rw [if_neg wraps, if_neg fun below => wraps (UInt16.lt_iff_toNat_lt.mpr below)]
        exact cycles
    · rw [← UInt16.toNat_inj, toNat_ofNat16]
      omega
  · have late := clear
    rw [distance_eq_sub, counts.maxSeqNo, high_bit_clear_iff] at late
    have high : (reach (some e) sn).high = e.high := by
      change max e.high (extended (some e) sn).toNat = _
      unfold extended
      dsimp only
      rw [if_neg late]
      omega
    rw [Buffer.trackSequence_late counts.counting clear, high]
    split
    · exact ⟨cycles, counts.maxSeqNo, high_small⟩
    · exact ⟨cycles, counts.maxSeqNo, high_small⟩

theorem Counts.lowest (counts : g.Counts e) (follows : Follows g.buffer e sn) :
    (((if g.buffer.minPacketProbe < 25 ∧ sn < g.buffer.baseSn then sn else g.buffer.baseSn).toNat : Nat) : Int) =
      (reach (some e) sn).low := by
  obtain ⟨k, number⟩ := extended_congr e sn
  have base := counts.base
  have limit := g.buffer.baseSn.toNat_lt
  have bound := sn.toNat_lt
  have low := follows.low
  change _ = min e.low (extended (some e) sn)
  by_cases early : g.buffer.minPacketProbe < 25
  · rw [if_pos early] at low
    obtain ⟨above, wrapped⟩ := low
    rw [UInt16.le_iff_toNat_le] at wrapped
    simp only [early, true_and, UInt16.lt_iff_toNat_lt]
    by_cases first : extended (some e) sn < 65536
    · split <;> omega
    · have kept := wrapped (by omega)
      rw [if_neg (by omega)]
      omega
  · rw [if_neg early] at low
    simp only [early, false_and, if_false]
    omega

end Packet

theorem receive_some {g g' : Reporting} {pkt : Bytes} {arrivalTime : Int}
    (h : g.receive crates pkt arrivalTime = some g') :
    ∃ sn c, ByteStore.u16At pkt 2 = some sn ∧ g.buffer.calc crates pkt arrivalTime = some c ∧ c.exit = .complete ∧
      g' = { g with
        reporter := { g.reporter with buffer := c.buffer }
        extent := some (reach g.extent sn)
        received := g.received + 1 } := by
  unfold receive at h
  simp only [Option.bind_eq_bind, Option.bind_eq_some_iff] at h
  obtain ⟨sn, numbered, c, called, h⟩ := h
  split at h
  · rename_i complete
    cases h
    exact ⟨sn, c, numbered, called, complete, rfl⟩
  · cases h

section Received
variable {g : Reporting} {e : Extent} {sn : UInt16} {pkt : Bytes} {arrivalTime : Int} {c : Buffer.Calc}

/-- What a packet that `calc` takes in does to the counter and to `base_sn`. -/
theorem complete_counts (called : g.buffer.calc crates pkt arrivalTime = some c) (complete : c.exit = .complete)
    (numbered : ByteStore.u16At pkt 2 = some sn) :
    c.buffer.stats.packetCount = g.buffer.stats.packetCount + 1 ∧
      c.buffer.cycles = (g.buffer.trackSequence sn arrivalTime).1.cycles ∧
      c.buffer.maxSeqNo = (g.buffer.trackSequence sn arrivalTime).1.maxSeqNo := by
  obtain ⟨number, step⟩ := Buffer.calc_step called
  obtain rfl : sn = number := Option.some.inj (numbered.symm.trans step.read)
  have count := step.packetCount
  rw [complete] at count
  exact ⟨count, step.cycles, step.maxSeqNo⟩

/-- The first packet is the lowest and the highest. -/
theorem Unused.counts (unused : g.Unused) (called : g.buffer.calc crates pkt arrivalTime = some c)
    (complete : c.exit = .complete) (numbered : ByteStore.u16At pkt 2 = some sn) (extent : Option Extent) :
    Counts { g with reporter := { g.reporter with buffer := c.buffer }, extent, received := g.received + 1 }
      (reach none sn) := by
  obtain ⟨uncounted, cycles, ⟨received, lastReceived⟩, reported, lastExpected⟩ := unused
  obtain ⟨count, no_cycle, max_seq⟩ := complete_counts called complete numbered
  have base := Buffer.calc_base called complete numbered
  rw [Buffer.trackSequence_first uncounted] at max_seq no_cycle
  have least : c.buffer.baseSn = sn := by
    rw [base, if_pos uncounted]
    exact ite_self sn
  have limit := sn.toNat_lt
  have one : c.buffer.stats.packetCount.toNat = 1 := by
    rw [count, uncounted]
    rfl
  refine ⟨?_, ?_, ?_, ?_, ?_, ?_, ?_, ?_, ?_, ?_⟩
  · change c.buffer.cycles.toNat = 65536 * (sn.toNat / 65536)
    rw [no_cycle, cycles, Nat.div_eq_of_lt limit]
    rfl
  · exact max_seq.trans (UInt16.ofNat_toNat).symm
  · exact congrArg (fun base : UInt16 => (base.toNat : Int)) least
  · exact Int.le_refl _
  · change sn.toNat < 4294967296
    omega
  · intro none
    change c.buffer.stats.packetCount = 0 at none
    rw [none] at one
    cases one
  · change c.buffer.stats.packetCount.toNat = g.reporter.lastReceived.toNat + (g.received + 1)
    rw [one, received, lastReceived]
    rfl
  · change (g.reporter.lastExpected.toNat : Int) = g.reported
    rw [lastExpected, reported]
    rfl
  · change g.reported ≤ (sn.toNat : Int) - sn.toNat + 1
    omega
  · exact fun none => absurd none (Nat.succ_ne_zero _)

theorem width_le_reach (e : Extent) (sn : UInt16) : e.width ≤ (reach (some e) sn).width := by
  change (e.high : Int) - e.low + 1 ≤
    ((max e.high (extended (some e) sn).toNat : Nat) : Int) - min e.low (extended (some e) sn) + 1
  omega

/-- A later packet that leaves `base_sn` at the lowest number. -/
theorem Counts.receive (counts : g.Counts e) (follows : Follows g.buffer e sn)
    (called : g.buffer.calc crates pkt arrivalTime = some c) (complete : c.exit = .complete)
    (numbered : ByteStore.u16At pkt 2 = some sn) (extent : Option Extent) :
    Counts { g with reporter := { g.reporter with buffer := c.buffer }, extent, received := g.received + 1 }
      (reach (some e) sn) := by
  obtain ⟨count, same_cycles, same_max⟩ := complete_counts called complete numbered
  obtain ⟨cycles, max_seq, small⟩ := counts.track follows.small arrivalTime
  have base := Buffer.calc_base called complete numbered
  rw [if_neg counts.counting] at base
  have counter := follows.counter
  have limit := g.buffer.stats.packetCount.toNat_lt
  have next : c.buffer.stats.packetCount.toNat = g.buffer.stats.packetCount.toNat + 1 := by
    have top : g.buffer.stats.packetCount.toNat ≠ 4294967295 := fun top => counter (UInt32.toNat_inj.mp top)
    rw [count, UInt32.toNat_add]
    change (g.buffer.stats.packetCount.toNat + 1) % 4294967296 = _
    omega
  refine ⟨?_, ?_, ?_, ?_, small, ?_, ?_, counts.expected, ?_, ?_⟩
  · exact (congrArg UInt32.toNat same_cycles).trans cycles
  · exact same_max.trans max_seq
  · rw [← counts.lowest follows]
    exact congrArg (fun base : UInt16 => (base.toNat : Int)) base
  · have ordered := counts.ordered
    change min e.low (extended (some e) sn) ≤ ((max e.high (extended (some e) sn).toNat : Nat) : Int)
    omega
  · intro none
    change c.buffer.stats.packetCount = 0 at none
    rw [none] at next
    exact absurd next.symm (Nat.succ_ne_zero _)
  · change c.buffer.stats.packetCount.toNat = g.reporter.lastReceived.toNat + (g.received + 1)
    have received := counts.received
    omega
  · exact Int.le_trans counts.reported (width_le_reach e sn)
  · exact fun none => absurd none (Nat.succ_ne_zero _)

end Received

theorem packet_counted {g g' : Reporting} {pkt : Bytes} {arrivalTime : Int} (counted : g.Counted)
    (regular : g.Regular (.packet pkt arrivalTime)) (h : g.receive crates pkt arrivalTime = some g') :
    g'.Counted := by
  obtain ⟨sn, c, numbered, called, complete, rfl⟩ := receive_some h
  obtain ⟨unasked, state⟩ := counted
  refine ⟨unasked, ?_⟩
  dsimp only
  cases known : g.extent with
  | none =>
      rw [known] at state
      exact Unused.counts state called complete numbered _
  | some e =>
      rw [known] at state
      exact Counts.receive state (regular sn numbered e known) called complete numbered _

section Report
variable {g : Reporting} {e : Extent}

theorem Counts.ext (counts : g.Counts e) : g.reporter.extMaxSeq.toNat = e.high := by
  have head := counts.maxSeqNo
  unfold buffer at head
  rw [Reporter.extMaxSeq, head]
  exact join_ofNat counts.cycles

theorem Counts.base_le (counts : g.Counts e) :
    g.buffer.baseSn.toUInt32 ≤ g.reporter.extMaxSeq ∧ g.buffer.baseSn.toUInt32.toNat = g.buffer.baseSn.toNat := by
  have word := UInt16.toNat_toUInt32 g.buffer.baseSn
  refine ⟨?_, word⟩
  rw [UInt32.le_iff_toNat_le, word, counts.ext]
  have base := counts.base
  have ordered := counts.ordered
  omega

theorem Counts.width (counts : g.Counts e) (fits : e.width < 4294967296) :
    (g.reporter.expected.toNat : Int) = e.width := by
  obtain ⟨below, word⟩ := counts.base_le
  have base := counts.base
  have ordered := counts.ordered
  change (e.high : Int) - e.low + 1 < 4294967296 at fits
  change (g.reporter.expected.toNat : Int) = e.high - e.low + 1
  have difference : (g.reporter.extMaxSeq - g.buffer.baseSn.toUInt32).toNat = e.high - g.buffer.baseSn.toNat := by
    rw [UInt32.toNat_sub_of_le _ _ below, word, counts.ext]
  have sum : g.reporter.expected.toNat =
      ((g.reporter.extMaxSeq - g.buffer.baseSn.toUInt32).toNat + 1) % 4294967296 := UInt32.toNat_add ..
  rw [sum, difference]
  omega

/-- The differences to the last report. -/
theorem Counts.intervals (counts : g.Counts e) (spread : Spread e g.reported g.received) :
    (g.reporter.lastExpected ≤ g.reporter.expected ∧ g.reporter.lastReceived ≤ g.buffer.stats.packetCount ∧
        g.reporter.receivedInterval ≤ g.reporter.expectedInterval) ∧
      (g.reporter.expectedInterval.toNat : Int) = e.width - g.reported ∧
      (g.reporter.lostInterval.toNat : Int) = e.width - g.reported - g.received := by
  have width := counts.width spread.fits
  have last := counts.expected
  have received := counts.received
  have moved := spread.moved
  have fewer := spread.fewer
  have grown : g.reporter.lastExpected ≤ g.reporter.expected := by
    rw [UInt32.le_iff_toNat_le]
    omega
  have counted : g.reporter.lastReceived ≤ g.buffer.stats.packetCount := by
    rw [UInt32.le_iff_toNat_le]
    omega
  have expected_interval : g.reporter.expectedInterval.toNat =
      g.reporter.expected.toNat - g.reporter.lastExpected.toNat := UInt32.toNat_sub_of_le _ _ grown
  have received_interval : g.reporter.receivedInterval.toNat = g.received := by
    refine (UInt32.toNat_sub_of_le _ _ counted).trans ?_
    omega
  have less : g.reporter.receivedInterval ≤ g.reporter.expectedInterval := by
    rw [UInt32.le_iff_toNat_le]
    omega
  have lost_interval : g.reporter.lostInterval.toNat =
      g.reporter.expectedInterval.toNat - g.reporter.receivedInterval.toNat := UInt32.toNat_sub_of_le _ _ less
  refine ⟨⟨grown, counted, less⟩, ?_, ?_⟩
  · omega
  · omega

/-- Packets came since the last report, so less than all were lost and the fraction is below one. -/
theorem Counts.fraction (counts : g.Counts e) (spread : Spread e g.reported g.received) :
    (g.reporter.fracLost.toNat : Int) =
      min 255 (256 * max 0 (e.width - g.reported - g.received) / (e.width - g.reported)) := by
  obtain ⟨-, expected, lost⟩ := counts.intervals spread
  have moved := spread.moved
  have fewer := spread.fewer
  have shifts := spread.shifts
  have some_came : g.received ≠ 0 := by
    intro none
    have unmoved := counts.unmoved none
    omega
  have nonzero : g.reporter.expectedInterval ≠ 0 := by
    intro zero
    rw [zero] at expected
    change (0 : Int) = _ at expected
    omega
  have fewer_lost : g.reporter.lostInterval.toNat < g.reporter.expectedInterval.toNat := by omega
  have below : 256 * g.reporter.lostInterval.toNat / g.reporter.expectedInterval.toNat < 256 :=
    Nat.div_lt_of_lt_mul (by omega)
  have quotient : (256 * g.reporter.lostInterval.toNat / g.reporter.expectedInterval.toNat : Nat) =
      (256 * (e.width - g.reported - g.received) / (e.width - g.reported) : Int) := by
    rw [Int.natCast_ediv, Int.natCast_mul, expected, lost]
    rfl
  rw [Int.max_eq_right (by omega), ← quotient]
  unfold Reporter.fracLost
  by_cases any : 0 < g.reporter.lostInterval
  · have shifted : (g.reporter.lostInterval <<< 8).toNat = 256 * g.reporter.lostInterval.toNat := by
      rw [UInt32.toNat_shiftLeft]
      change g.reporter.lostInterval.toNat <<< 8 % 4294967296 = _
      rw [Nat.shiftLeft_eq]
      omega
    rw [if_pos ⟨nonzero, any⟩, UInt32.toNat_toUInt8, UInt32.toNat_div, shifted, Nat.mod_eq_of_lt below]
    generalize 256 * g.reporter.lostInterval.toNat / g.reporter.expectedInterval.toNat = fraction at below ⊢
    omega
  · have none : g.reporter.lostInterval.toNat = 0 := by
      rw [UInt32.lt_iff_toNat_lt] at any
      exact Nat.eq_zero_of_not_pos any
    rw [if_neg fun both => any both.2, none, Nat.mul_zero, Nat.zero_div]
    rfl

theorem Counts.exact (counts : g.Counts e) (unasked : g.reporter.lastSrRecv = 0)
    (spread : Spread e g.reported g.received) (nanos : UInt32) :
    Exact g.reporter nanos e g.reported g.received := by
  obtain ⟨⟨grown, counted, less⟩, expected, -⟩ := counts.intervals spread
  have width := counts.width spread.fits
  have moved := spread.moved
  refine ⟨counts.base_le.1, grown, counted, less, fun asked => absurd unasked asked, ?_, width, ?_,
    counts.fraction spread⟩
  · intro zero
    change g.reporter.expectedInterval = 0 at zero
    rw [zero] at expected
    change (0 : Int) = _ at expected
    omega
  · change (g.reporter.lost.toNat : Int) = _
    have counting := counts.counting
    unfold buffer at counting
    unfold Reporter.lost
    by_cases missing : g.reporter.buffer.stats.packetCount < g.reporter.expected
    · rw [if_pos ⟨missing, counting⟩, UInt32.toNat_sub_of_le _ _ (UInt32.le_of_lt missing)]
      rw [UInt32.lt_iff_toNat_lt] at missing
      omega
    · rw [if_neg fun both => missing both.1]
      rw [UInt32.lt_iff_toNat_lt] at missing
      change (0 : Int) = _
      omega

end Report

theorem step_counted {g g' : Reporting} {op : ReportOp} (counted : g.Counted) (regular : g.Regular op)
    (h : g.step crates op = some g') : g'.Counted := by
  cases op with
  | packet pkt arrivalTime => exact packet_counted counted regular h
  | report nanos =>
      cases h
      obtain ⟨e, known, spread⟩ := regular
      obtain ⟨unasked, state⟩ := counted
      rw [Option.mem_def] at known
      rw [known] at state
      refine ⟨unasked, ?_⟩
      change match g.extent with
        | none => (g.report nanos).Unused
        | some e => (g.report nanos).Counts e
      rw [known]
      have width : (g.extent.map Extent.width).getD 0 = e.width := by
        rw [known]
        rfl
      refine ⟨state.cycles, state.maxSeqNo, state.base, state.ordered, state.small, state.counting, rfl, ?_, ?_, ?_⟩
      · exact (state.width spread.fits).trans width.symm
      · exact Int.le_of_eq width
      · exact fun _ => width

/-- In a run of packets that leave `base_sn` at the lowest number and reports behind a
spread of numbers, every report is exact. -/
theorem reports_exact {b : Buffer} (opened : b.Opened crates) {ops : List ReportOp}
    (regular : Guarded (step crates) Regular { reporter := { buffer := b } } ops) :
    Guarded (step crates) ReportsExactly { reporter := { buffer := b } } ops := by
  have fresh := opened.fresh
  have start : Counted { reporter := { buffer := b } } :=
    ⟨rfl, fresh.uncounted, fresh.noCycle, ⟨rfl, rfl⟩, ⟨rfl, rfl⟩⟩
  refine guarded_imp Counted ?_ (fun g op g' counted met h => step_counted counted met h) start regular
  intro g op counted met
  cases op with
  | packet pkt arrivalTime => trivial
  | report nanos =>
      obtain ⟨e, known, spread⟩ := met
      obtain ⟨unasked, state⟩ := counted
      rw [Option.mem_def] at known
      rw [known] at state
      exact ⟨e, known, state.exact unasked spread nanos⟩

def bareOp (seq : Nat) : ReportOp := .packet (bareArrival seq).pkt 0

theorem reports_exact_gap :
    Guarded (step bareCrates) ReportsExactly { reporter := { buffer := opusBuffer } }
      [bareOp 7, bareOp 5, bareOp 9, .report 40, bareOp 10, bareOp 12, .report 60] :=
  reports_exact opusBuffer_opened (by decide +kernel)

/-- The wrap among the first packets makes `base_sn` zero, and a cycle of packets lost; the
packet that a report missed makes the next one underflow. -/
theorem early_wrap_loses_cycle :
    let wrapped := [bareOp 65534, bareOp 65535, bareOp 65536, bareOp 65537]
    let late := [bareOp 5, bareOp 7, .report 0, bareOp 6]
    let start : Reporting := { reporter := { buffer := opusBuffer } }
    ((run (step bareCrates) start wrapped).map fun g => (g.extent, (g.reporter.buildReceptionReport 0).2.totalLost)) =
        some (some ⟨65534, 65537⟩, 65534) ∧
      ¬ Guarded (step bareCrates) ReportsExactly start (wrapped ++ [.report 0]) ∧
      ((run (step bareCrates) start late).map fun g => (g.reporter.lostInterval, g.reporter.expectedInterval)) =
        some (4294967295, 0) := by
  intro wrapped late start
  have counts : ((run (step bareCrates) start wrapped).map fun g =>
      (g.extent, (g.reporter.buildReceptionReport 0).2.totalLost, g.buffer.stats.packetCount)) =
        some (some ⟨65534, 65537⟩, 65534, 4) := by
    decide +kernel
  refine ⟨by decide +kernel, fun all => ?_, by decide +kernel⟩
  obtain ⟨g, reached, state⟩ := Option.map_eq_some_iff.mp counts
  obtain ⟨extent, totalLost, count⟩ := Prod.mk.inj state |>.imp_right Prod.mk.inj
  obtain ⟨e, known, exact⟩ := all.last reached
  obtain rfl := Option.some.inj (extent.symm.trans known)
  have right := exact.totalLost
  unfold buffer at count
  rw [totalLost, count] at right
  exact absurd right (by decide)

end Reporting

end Rsfu
