import Rsfu.Reception

/-! The bitrate windows of the receive buffer. `write` takes an instant and asks it at once
for the time since, so `calc` is handed the nanoseconds between two readings of the clock
and no window is ever a second long. -/
namespace Rsfu
open GuardedRun

/-- The two readings of the clock in `Instant::now().elapsed()`. -/
structure ClockReads where
  taken : Nat
  read : Nat
  ordered : taken ≤ read

namespace ClockReads

def elapsed (clock : ClockReads) : Nat := clock.read - clock.taken

def subsecNanos (clock : ClockReads) : Nat := clock.elapsed % 1000000000

theorem subsecNanos_lt (clock : ClockReads) : clock.subsecNanos < 1000000000 := Nat.mod_lt _ (by decide)

end ClockReads

namespace Buffer
variable {crates : RtpCrates} {b : Buffer}

/-- A packet for a buffer that is not bound waits; no call of `calc` comes of it. -/
def write (crates : RtpCrates) (b : Buffer) (clock : ClockReads) (pkt : Bytes) : Option (Buffer × Option Calc) :=
  if b.bound then (b.calc crates pkt clock.subsecNanos).map fun c => (c.buffer, some c)
  else some ({ b with pendingPackets := b.pendingPackets ++ [⟨clock.subsecNanos, pkt⟩] }, none)

/-- What the bitrate depends on besides the bytes. -/
def reported (b : Buffer) : Bool × Int := (b.bound, b.lastReport)

/-- The buffer is bound and its last report less than a second from zero. -/
structure Within (b : Buffer) : Prop where
  bound : b.bound = true
  start : 0 ≤ b.lastReport
  stop : b.lastReport < reportDelta

theorem Within.same {b' : Buffer} (within : b.Within) (same : b'.reported = b.reported) : b'.Within := by
  obtain ⟨bound, lastReport⟩ := Prod.mk.inj same
  exact ⟨bound.trans within.bound, lastReport ▸ within.start, lastReport ▸ within.stop⟩

theorem trackSequence_within (within : b.Within) (sn : UInt16) {arrivalTime : Int} (start : 0 ≤ arrivalTime)
    (stop : arrivalTime < reportDelta) : (b.trackSequence sn arrivalTime).1.Within := by
  obtain ⟨cycles, maxSeqNo, nacker, tracked⟩ := trackSequence_writes b sn arrivalTime
  rw [tracked]
  by_cases first : b.stats.packetCount = 0
  · rw [if_pos first, if_pos first]
    exact ⟨within.bound, start, stop⟩
  · rw [if_neg first, if_neg first]
    exact within.same rfl

theorem probe_reported (b : Buffer) (sn : UInt16) (ep : ExtPacket) : (b.probe sn ep).reported = b.reported := by
  unfold probe
  split <;> rfl

theorem noteTimestamp_reported (b : Buffer) (timestamp : UInt32) (arrivalTime : Int) :
    (b.noteTimestamp timestamp arrivalTime).reported = b.reported := by
  obtain ⟨latestTimestamp, latestTimestampTime, noted⟩ := b.noteTimestamp_frame timestamp arrivalTime
  rw [noted]
  rfl

theorem buildNackPacket_reported (b : Buffer) : b.buildNackPacket.1.reported = b.reported := by
  obtain ⟨nacker, built⟩ := b.buildNackPacket_frame
  rw [built]
  rfl

/-- The difference of two arrivals within a second closes no window. -/
theorem finish_within (crates : RtpCrates) (within : b.Within) (sn : UInt16) (ep : ExtPacket) {arrivalTime : Int}
    (stop : arrivalTime < reportDelta) : (b.finish crates sn ep arrivalTime).1.Within := by
  let probed : Buffer := { b.probe sn ep with extPackets := (b.probe sn ep).extPackets ++ [ep] }
  let noted := probed.noteTimestamp ep.packet.header.timestamp arrivalTime
  have before : noted.Within := by
    refine within.same ((noteTimestamp_reported probed _ _).trans ?_)
    exact probe_reported b sn ep
  have after : noted.buildNackPacket.1.Within := before.same (buildNackPacket_reported noted)
  have short : ¬ reportDelta ≤ arrivalTime - noted.lastReport := by
    have start := before.start
    omega
  change (noted.buildNackPacket.1.reportBitrate arrivalTime (arrivalTime - noted.lastReport)).Within
  rw [reportBitrate, if_neg short]
  exact after

theorem calc_within {pkt : Bytes} {arrivalTime : Int} {c : Calc} (within : b.Within) (start : 0 ≤ arrivalTime)
    (stop : arrivalTime < reportDelta) (h : b.calc crates pkt arrivalTime = some c) : c.buffer.Within := by
  obtain ⟨sn, read, ends⟩ := calc_ends h
  have tracked := trackSequence_within within sn start stop
  cases ends with
  | turnedAway store =>
      obtain ⟨bucket, rfl⟩ := storePacket_bucket store
      exact tracked.same rfl
  | badPayload store =>
      obtain ⟨bucket, rfl⟩ := storePacket_bucket store
      exact tracked.same rfl
  | @takenIn after packet ep store headed =>
      obtain ⟨bucket, rfl⟩ := storePacket_bucket store
      have counted : (countPacket { (b.trackSequence sn arrivalTime).1 with bucket } pkt.length).Within :=
        tracked.same rfl
      exact finish_within crates counted sn ep stop

theorem Opened.within (opened : b.Opened crates) : b.Within := by
  obtain ⟨bound, lastReport, -, -, -⟩ := opened.unread
  refine ⟨bound, ?_, ?_⟩
  · rw [lastReport]
  · rw [lastReport]
    decide

end Buffer

/-- A buffer with the time of its last bitrate update, or of its first packet, and the
bytes accepted since. -/
structure Windows where
  buffer : Buffer
  since : Option Nat := none
  bytes : Nat := 0

structure TimedWrite where
  clock : ClockReads
  pkt : Bytes

namespace Windows
variable {crates : RtpCrates}

/-- A second has passed. -/
def due (g : Windows) (now : Nat) : Bool := g.since.any fun start => start + 1000000000 ≤ now

/-- One call of `write`; a packet that is not accepted ends the run. -/
def accept (crates : RtpCrates) (g : Windows) (w : TimedWrite) : Option Windows :=
  match g.buffer.write crates w.clock w.pkt with
  | some (b, some c) =>
      if c.exit.counted then
        if g.due w.clock.taken then some ⟨b, some w.clock.taken, 0⟩
        else some ⟨b, some (g.since.getD w.clock.taken), g.bytes + w.pkt.length⟩
      else none
  | _ => none

/-- The window is closed: its bitrate is reported and the next one starts now. -/
structure Closes (g : Windows) (w : TimedWrite) (after : Buffer) : Prop where
  bitrate : ∀ start ∈ g.since,
    after.bitrate.toNat = 8 * (g.bytes + w.pkt.length) * 1000000000 / (w.clock.taken - start)
  helper : after.bitrateHelper = 0
  lastReport : (w.clock.taken : Int) ≤ after.lastReport ∧ after.lastReport ≤ (w.clock.read : Int)

/-- A packet a second or more into the window closes it. -/
def FollowsClock (crates : RtpCrates) (g : Windows) (w : TimedWrite) : Prop :=
  g.due w.clock.taken = true → ∀ next, g.accept crates w = some next → Closes g w next.buffer

theorem accept_within {g next : Windows} {w : TimedWrite} (within : g.buffer.Within)
    (accepted : g.accept crates w = some next) : next.buffer.Within := by
  have early := w.clock.subsecNanos_lt
  unfold accept Buffer.write at accepted
  rw [if_pos within.bound] at accepted
  cases called : g.buffer.calc crates w.pkt w.clock.subsecNanos with
  | none =>
      rw [called] at accepted
      cases accepted
  | some c =>
      have after : c.buffer.Within := by
        apply Buffer.calc_within within (Int.natCast_nonneg _) _ called
        exact Int.ofNat_lt.mpr early
      rw [called] at accepted
      simp only [Option.map_some] at accepted
      split at accepted
      · split at accepted
        · cases accepted
          exact after
        · cases accepted
          exact after
      · cases accepted

theorem accept_since {g next : Windows} {w : TimedWrite} (early : g.due w.clock.taken = false)
    (accepted : g.accept crates w = some next) : next.since = some (g.since.getD w.clock.taken) := by
  unfold accept at accepted
  split at accepted
  · split at accepted
    · rw [if_neg (Bool.eq_false_iff.mp early)] at accepted
      cases accepted
      rfl
    · cases accepted
  · cases accepted

/-- A write before the window is a second old leaves the question to the later ones. -/
theorem follows_cons {g next : Windows} {w : TimedWrite} {rest : List TimedWrite}
    (early : g.due w.clock.taken = false) (accepted : g.accept crates w = some next) :
    Guarded (accept crates) (FollowsClock crates) g (w :: rest) ↔
      Guarded (accept crates) (FollowsClock crates) next rest := by
  constructor
  · intro met
    exact met.2 next accepted
  · intro later
    refine ⟨fun late => absurd (early.symm.trans late) Bool.false_ne_true, fun other reached => ?_⟩
    obtain rfl := Option.some.inj (accepted.symm.trans reached)
    exact later

theorem follows_iff {g t : Windows} {start : Nat} {writes : List TimedWrite} (within : g.buffer.Within)
    (since : g.since = some start) (accepted : run (accept crates) g writes = some t) :
    Guarded (accept crates) (FollowsClock crates) g writes ↔
      ∀ w ∈ writes, w.clock.taken < start + 1000000000 := by
  induction writes generalizing g with
  | nil => exact iff_of_true trivial fun w among => absurd among List.not_mem_nil
  | cons w rest ih =>
      obtain ⟨next, one, later⟩ := run_cons_eq_some.mp accepted
      have still := accept_within within one
      have second : g.due w.clock.taken = true ↔ start + 1000000000 ≤ w.clock.taken := by
        rw [due, since, Option.any_some, decide_eq_true_iff]
      rw [List.forall_mem_cons]
      by_cases early : w.clock.taken < start + 1000000000
      · have waits : g.due w.clock.taken = false := by
          apply Bool.eq_false_iff.mpr
          intro late
          exact Nat.not_le.mpr early (second.mp late)
        have kept := accept_since waits one
        rw [since] at kept
        rw [and_iff_right early, follows_cons waits one]
        exact ih still kept later
      · -- the report of the buffer stays below a second, where the clock no longer is
        refine iff_of_false (fun met => ?_) fun all => early all.1
        have closes := met.1 (second.mpr (Nat.not_lt.mp early)) next one
        have moved := closes.lastReport.1
        have stop := still.stop
        simp only [reportDelta] at stop
        omega

/-- The windows follow the clock in just those runs that end within a second of their first packet. -/
theorem windows_follow_clock_iff {b : Buffer} (opened : b.Opened crates) {writes : List TimedWrite} {t : Windows}
    (accepted : run (accept crates) { buffer := b } writes = some t) :
    Guarded (accept crates) (FollowsClock crates) { buffer := b } writes ↔
      ∀ first ∈ writes.head?, ∀ w ∈ writes, w.clock.taken < first.clock.taken + 1000000000 := by
  cases writes with
  | nil => exact iff_of_true trivial fun first none => absurd none (Option.not_mem_none first)
  | cons first rest =>
      obtain ⟨next, one, later⟩ := run_cons_eq_some.mp accepted
      rw [follows_cons rfl one, follows_iff (accept_within opened.within one) (accept_since rfl one) later]
      change (∀ w ∈ rest, w.clock.taken < first.clock.taken + 1000000000) ↔ _
      constructor
      · intro early head same w among
        obtain rfl := Option.some.inj same
        rcases List.mem_cons.mp among with rfl | after
        · exact Nat.lt_add_of_pos_right (by decide)
        · exact early w after
      · intro early w among
        exact early first rfl w (List.mem_cons_of_mem first among)

def bareWrite (seq taken : Nat) : TimedWrite :=
  ⟨⟨taken, taken + 40, Nat.le_add_right taken 40⟩, (bareArrival seq).pkt⟩

theorem windows_follow_clock_iff_early :
    Guarded (accept bareCrates) (FollowsClock bareCrates) { buffer := opusBuffer }
      [bareWrite 1 5000, bareWrite 2 20005000] :=
  (windows_follow_clock_iff opusBuffer_opened (Option.eq_some_of_isSome (by decide +kernel))).mpr (by decide)

/-- Two seconds later the bytes of the first packet are still waiting for their window to end. -/
theorem window_never_closes :
    ((run (accept bareCrates) { buffer := opusBuffer } [bareWrite 1 5000, bareWrite 2 2000005000]).map
        fun g => (g.buffer.bitrate, g.buffer.bitrateHelper)) = some (0, 26) ∧
      ¬ Guarded (accept bareCrates) (FollowsClock bareCrates) { buffer := opusBuffer }
        [bareWrite 1 5000, bareWrite 2 2000005000] := by
  have late : (run (accept bareCrates) { buffer := opusBuffer } [bareWrite 1 5000]).map
      (fun g => (g.due 2000005000, (g.accept bareCrates (bareWrite 2 2000005000)).map
        fun next => next.buffer.bitrateHelper)) = some (true, some 26) := by
    decide +kernel
  refine ⟨by decide +kernel, fun met => ?_⟩
  obtain ⟨g, reached, state⟩ := Option.map_eq_some_iff.mp late
  obtain ⟨due, accepted⟩ := Prod.mk.inj state
  obtain ⟨next, one, helper⟩ := Option.map_eq_some_iff.mp accepted
  obtain ⟨first, step, same⟩ := run_cons_eq_some.mp reached
  obtain rfl : first = g := Option.some.inj same
  have closed := ((met.2 first step).1 due next one).helper
  rw [helper] at closed
  exact absurd closed (by decide)

end Windows

end Rsfu
