import Rsfu.Reception

/-! The latest RTP timestamp of a buffer. A wrap is told from bits 26 and 27 of the two
timestamps, which follow neither their order nor their distance. -/
namespace Rsfu
open SerialNumber GuardedRun

/-- The first timestamp is ahead of the second by less than half a cycle. -/
def Ahead (timestamp1 timestamp2 : UInt32) : Prop :=
  0 < (timestamp1 - timestamp2).toNat ∧ (timestamp1 - timestamp2).toNat < 2147483648

/-- The two timestamps are less than a quarter of a cycle apart. -/
def Close (timestamp1 timestamp2 : UInt32) : Prop :=
  (timestamp1 - timestamp2).toNat < 1073741824 ∨ (timestamp2 - timestamp1).toNat < 1073741824

/-- The bits show a wrap between a lower and a higher word exactly when there is one. -/
def ShowsWrap (low high : UInt32) : Prop :=
  isTimestampWrapAround low high = true ↔ 2147483648 ≤ high.toNat - low.toNat

def Told (timestamp1 timestamp2 : UInt32) : Prop :=
  if timestamp2 < timestamp1 then ShowsWrap timestamp2 timestamp1 else ShowsWrap timestamp1 timestamp2

instance (a b : UInt32) : Decidable (Ahead a b) :=
  inferInstanceAs (Decidable (0 < (a - b).toNat ∧ (a - b).toNat < 2147483648))

instance (a b : UInt32) : Decidable (Close a b) :=
  inferInstanceAs (Decidable ((a - b).toNat < 1073741824 ∨ (b - a).toNat < 1073741824))

instance (low high : UInt32) : Decidable (ShowsWrap low high) :=
  inferInstanceAs (Decidable (isTimestampWrapAround low high = true ↔ 2147483648 ≤ high.toNat - low.toNat))

instance (a b : UInt32) : Decidable (Told a b) :=
  inferInstanceAs (Decidable (if b < a then ShowsWrap b a else ShowsWrap a b))

theorem isTimestampWrapAround_self (a : UInt32) : isTimestampWrapAround a a = false := by
  apply Bool.eq_false_iff.mpr
  intro wrap
  unfold isTimestampWrapAround at wrap
  rw [Bool.and_eq_true, beq_iff_eq, beq_iff_eq] at wrap
  cases wrap.1.symm.trans wrap.2

theorem isLaterTimestamp_self (a : UInt32) : isLaterTimestamp a a = false := by
  unfold isLaterTimestamp
  rw [if_neg (UInt32.lt_irrefl a)]
  exact isTimestampWrapAround_self a

/-- Less than half a cycle apart, the verdict is right exactly when the bits tell the wrap. -/
theorem isLaterTimestamp_iff {a b : UInt32}
    (apart : (a - b).toNat < 2147483648 ∨ (b - a).toNat < 2147483648) :
    (isLaterTimestamp a b = true ↔ Ahead a b) ↔ Told a b := by
  have bound := a.toNat_lt
  have bound' := b.toNat_lt
  unfold Ahead Told
  rw [toNat_sub32, toNat_sub32] at apart
  rw [toNat_sub32]
  unfold isLaterTimestamp
  by_cases above : b < a
  · have larger := UInt32.lt_iff_toNat_lt.mp above
    rw [if_pos above, if_pos above]
    unfold ShowsWrap
    cases isTimestampWrapAround b a
    · simp only [Bool.false_eq_true, if_false, true_iff, false_iff]
      omega
    · simp only [if_true, Bool.false_eq_true, false_iff, true_iff]
      omega
  · have smaller := Nat.not_lt.mp (fun larger => above (UInt32.lt_iff_toNat_lt.mpr larger))
    rw [if_neg above, if_neg above]
    refine iff_congr Iff.rfl ?_
    omega

namespace Buffer
variable {crates : RtpCrates} {b : Buffer}

/-- The latest timestamp and the time it was noted at. -/
def latest (b : Buffer) : UInt32 × Int := (b.latestTimestamp, b.latestTimestampTime)

theorem noteTimestamp_latest (b : Buffer) (timestamp : UInt32) (arrivalTime : Int) :
    (b.noteTimestamp timestamp arrivalTime).latest =
      if b.latestTimestampTime = 0 ∨ isLaterTimestamp timestamp b.latestTimestamp then (timestamp, arrivalTime)
      else b.latest := by
  unfold noteTimestamp
  split <;> rfl

theorem noteTimestamp_congr {b b' : Buffer} (same : b.latest = b'.latest) (timestamp : UInt32) (arrivalTime : Int) :
    (b.noteTimestamp timestamp arrivalTime).latest = (b'.noteTimestamp timestamp arrivalTime).latest := by
  obtain ⟨last, time⟩ := Prod.mk.inj same
  rw [noteTimestamp_latest, noteTimestamp_latest, last, time, same]

theorem trackSequence_latest (sn : UInt16) (arrivalTime : Int) :
    (b.trackSequence sn arrivalTime).1.latest = b.latest := by
  obtain ⟨cycles, maxSeqNo, nacker, tracked⟩ := trackSequence_writes b sn arrivalTime
  rw [tracked]
  rfl

theorem storePacket_latest {b' : Buffer} {pkt : Bytes} {sn : UInt16} {rv : Except CalcExit Packet}
    (h : b.storePacket crates pkt sn = some (b', rv)) : b'.latest = b.latest := by
  obtain ⟨bucket, rfl⟩ := storePacket_bucket h
  rfl

theorem probe_latest (b : Buffer) (sn : UInt16) (ep : ExtPacket) : (b.probe sn ep).latest = b.latest := by
  unfold probe
  split <;> rfl

theorem finish_latest (crates : RtpCrates) (b : Buffer) (sn : UInt16) (ep : ExtPacket) (arrivalTime : Int) :
    (b.finish crates sn ep arrivalTime).1.latest =
      (b.noteTimestamp ep.packet.header.timestamp arrivalTime).latest := by
  let probed : Buffer := { b.probe sn ep with extPackets := (b.probe sn ep).extPackets ++ [ep] }
  let noted := probed.noteTimestamp ep.packet.header.timestamp arrivalTime
  obtain ⟨nacker, built⟩ := noted.buildNackPacket_frame
  obtain ⟨bitrate, lastReport, bitrateHelper, reported⟩ :=
    noted.buildNackPacket.1.reportBitrate_frame arrivalTime (arrivalTime - noted.lastReport)
  have after : (b.finish crates sn ep arrivalTime).1.latest = noted.latest := by
    change (noted.buildNackPacket.1.reportBitrate arrivalTime (arrivalTime - noted.lastReport)).latest = _
    rw [reported, built]
    rfl
  have unmoved : probed.latest = b.latest := probe_latest b sn ep
  rw [after]
  exact noteTimestamp_congr unmoved _ _

/-- A packet taken in is the last one queued, and its timestamp is noted; any other leaves
the latest timestamp alone. -/
theorem calc_latest {pkt : Bytes} {arrivalTime : Int} {c : Calc} (h : b.calc crates pkt arrivalTime = some c) :
    (c.exit ≠ .complete → c.buffer.latest = b.latest) ∧
      (c.exit = .complete → ∃ ep, c.buffer.extPackets.getLast? = some ep ∧
        c.buffer.latest = (b.noteTimestamp ep.packet.header.timestamp arrivalTime).latest) := by
  obtain ⟨sn, read, ends⟩ := calc_ends h
  cases ends with
  | @turnedAway after exit store =>
      have same := (storePacket_latest store).trans (trackSequence_latest sn arrivalTime)
      refine ⟨fun _ => same, fun complete => ?_⟩
      cases ((storePacket_frame store).2.1 exit rfl).1.symm.trans (congrArg CalcExit.emitted complete)
  | badPayload store =>
      have same := (storePacket_latest store).trans (trackSequence_latest sn arrivalTime)
      exact ⟨fun _ => same, nofun⟩
  | @takenIn after packet ep store headed =>
      have same : (after.countPacket pkt.length).latest = b.latest :=
        (storePacket_latest store).trans (trackSequence_latest sn arrivalTime)
      refine ⟨fun refused => absurd rfl refused, fun _ => ⟨ep, ?_, ?_⟩⟩
      · have queued := congrArg BufferCore.extPackets
          (finish_core crates (after.countPacket pkt.length) sn ep arrivalTime)
        exact (congrArg List.getLast? queued).trans List.getLast?_concat
      · rw [finish_latest]
        exact noteTimestamp_congr same _ _

/-- No packet is taken in before `bind` is through. -/
theorem Opened.latest (opened : b.Opened crates) : b.latest = (0, 0) := by
  obtain ⟨ssrc, twcc, feedback, level, params, maxBitrate, bound⟩ := opened
  obtain ⟨_, _, _, _, _, _, _, _, _, _, _, rfl⟩ := bind_frame bound
  rfl

end Buffer

/-- A packet handed to `calc`, with the true timestamp it was sent under. -/
structure TimedPacket where
  timestamp : Nat
  pkt : Bytes
  arrivalTime : Int

/-- A buffer with the highest true timestamp of the packets it took in. -/
structure TimestampRun where
  buffer : Buffer
  maximum : Option Nat := none

namespace TimestampRun
variable {crates : RtpCrates}

/-- The packet taken in carries the residue of its true timestamp, which is within a quarter of
a cycle of the highest, and came at a time other than zero. -/
structure Expected (g : TimestampRun) (p : TimedPacket) (c : Buffer.Calc) : Prop where
  arrived : p.arrivalTime ≠ 0
  stamped : ∃ ep ∈ c.buffer.extPackets.getLast?, ep.packet.header.timestamp = UInt32.ofNat p.timestamp
  near : ∀ m ∈ g.maximum, p.timestamp ≤ m + 1073741824 ∧ m ≤ p.timestamp + 1073741824

instance (g : TimestampRun) (p : TimedPacket) (c : Buffer.Calc) : Decidable (g.Expected p c) :=
  decidable_of_iff (p.arrivalTime ≠ 0 ∧
      (∃ ep ∈ c.buffer.extPackets.getLast?, ep.packet.header.timestamp = UInt32.ofNat p.timestamp) ∧
      ∀ m ∈ g.maximum, p.timestamp ≤ m + 1073741824 ∧ m ≤ p.timestamp + 1073741824)
    ⟨fun all => ⟨all.1, all.2.1, all.2.2⟩, fun expected => ⟨expected.arrived, expected.stamped, expected.near⟩⟩

def highest (maximum : Option Nat) (timestamp : Nat) : Nat := max (maximum.getD timestamp) timestamp

/-- A packet that is turned away changes no maximum; one taken in unexpectedly ends the run. -/
def receive (crates : RtpCrates) (g : TimestampRun) (p : TimedPacket) : Option TimestampRun := do
  let c ← g.buffer.calc crates p.pkt p.arrivalTime
  if c.exit = .complete then
    if g.Expected p c then some ⟨c.buffer, some (highest g.maximum p.timestamp)⟩ else none
  else some { g with buffer := c.buffer }

def Latest (g : TimestampRun) : Prop := ∀ m ∈ g.maximum, g.buffer.latestTimestamp = UInt32.ofNat m

/-- The bits tell whether there is a wrap between a packet taken in and the highest before it. -/
def TellsWrap (crates : RtpCrates) (g : TimestampRun) (p : TimedPacket) : Prop :=
  ∀ c ∈ g.buffer.calc crates p.pkt p.arrivalTime, c.exit = .complete → g.Expected p c →
    ∀ m ∈ g.maximum, Told (UInt32.ofNat p.timestamp) (UInt32.ofNat m)

instance (crates : RtpCrates) (g : TimestampRun) (p : TimedPacket) : Decidable (g.TellsWrap crates p) :=
  have : ∀ t, Decidable (∀ m ∈ g.maximum, Told t (UInt32.ofNat m)) := fun _ => Option.decidableForallMem g.maximum
  have : ∀ c : Buffer.Calc, Decidable (c.exit = .complete → g.Expected p c →
      ∀ m ∈ g.maximum, Told (UInt32.ofNat p.timestamp) (UInt32.ofNat m)) := fun _ => inferInstance
  Option.decidableForallMem (g.buffer.calc crates p.pkt p.arrivalTime)

/-- The latest timestamp is the maximum's, and its time says whether there is one. -/
structure Tracks (g : TimestampRun) : Prop where
  latest : g.Latest
  started : g.maximum = none ↔ g.buffer.latestTimestampTime = 0

theorem receive_cases {g next : TimestampRun} {p : TimedPacket} (h : g.receive crates p = some next) :
    ∃ c, g.buffer.calc crates p.pkt p.arrivalTime = some c ∧
      (c.exit ≠ .complete ∧ next = { g with buffer := c.buffer } ∨
        c.exit = .complete ∧ g.Expected p c ∧ next = ⟨c.buffer, some (highest g.maximum p.timestamp)⟩) := by
  obtain ⟨c, called, h⟩ := Option.bind_eq_some_iff.mp h
  refine ⟨c, called, ?_⟩
  split at h
  · rename_i complete
    split at h
    · rename_i expected
      cases h
      exact Or.inr ⟨complete, expected, rfl⟩
    · cases h
  · rename_i refused
    cases h
    exact Or.inl ⟨refused, rfl⟩

/-- True timestamps within a quarter of a cycle are ordered as their residues are. -/
theorem ahead_ofNat {t m : Nat} (near : t ≤ m + 1073741824 ∧ m ≤ t + 1073741824) :
    Ahead (UInt32.ofNat t) (UInt32.ofNat m) ↔ m < t := by
  unfold Ahead
  rw [toNat_sub32, UInt32.toNat_ofNat', UInt32.toNat_ofNat']
  omega

theorem told_ofNat_iff {t m : Nat} (near : t ≤ m + 1073741824 ∧ m ≤ t + 1073741824) :
    Told (UInt32.ofNat t) (UInt32.ofNat m) ↔ (isLaterTimestamp (UInt32.ofNat t) (UInt32.ofNat m) = true ↔ m < t) := by
  rw [← ahead_ofNat near]
  refine (isLaterTimestamp_iff ?_).symm
  rw [toNat_sub32, toNat_sub32, UInt32.toNat_ofNat', UInt32.toNat_ofNat']
  omega

/-- The timestamp the verdict picks is the higher one exactly when the verdict is right. -/
theorem picked_iff {t m : Nat} (near : t ≤ m + 1073741824 ∧ m ≤ t + 1073741824) :
    (if isLaterTimestamp (UInt32.ofNat t) (UInt32.ofNat m) then UInt32.ofNat t else UInt32.ofNat m) =
        UInt32.ofNat (max m t) ↔
      (isLaterTimestamp (UInt32.ofNat t) (UInt32.ofNat m) = true ↔ m < t) := by
  have apart : t ≠ m → UInt32.ofNat t ≠ UInt32.ofNat m := by
    intro differ same
    have residues := congrArg UInt32.toNat same
    rw [UInt32.toNat_ofNat', UInt32.toNat_ofNat'] at residues
    omega
  rcases Nat.lt_trichotomy m t with above | same | below
  · rw [Nat.max_eq_right (Nat.le_of_lt above)]
    by_cases later : isLaterTimestamp (UInt32.ofNat t) (UInt32.ofNat m) = true
    · rw [if_pos later]
      exact iff_of_true rfl (iff_of_true later above)
    · rw [if_neg later]
      exact iff_of_false (apart (Nat.ne_of_gt above)).symm fun right => later (right.mpr above)
  · subst same
    rw [ite_self, Nat.max_self, isLaterTimestamp_self]
    exact iff_of_true rfl (iff_of_false Bool.false_ne_true (Nat.lt_irrefl m))
  · rw [Nat.max_eq_left (Nat.le_of_lt below)]
    have lower := Nat.lt_asymm below
    by_cases later : isLaterTimestamp (UInt32.ofNat t) (UInt32.ofNat m) = true
    · rw [if_pos later]
      exact iff_of_false (apart (Nat.ne_of_lt below)) fun right => lower (right.mp later)
    · rw [if_neg later]
      exact iff_of_true rfl (iff_of_false later lower)

section Taken
variable {g : TimestampRun} {p : TimedPacket} {c : Buffer.Calc}

theorem Tracks.noted (tracks : g.Tracks) (called : g.buffer.calc crates p.pkt p.arrivalTime = some c)
    (complete : c.exit = .complete) (expected : g.Expected p c) :
    c.buffer.latest =
      if g.maximum = none ∨ isLaterTimestamp (UInt32.ofNat p.timestamp) g.buffer.latestTimestamp then
        (UInt32.ofNat p.timestamp, p.arrivalTime)
      else g.buffer.latest := by
  obtain ⟨ep, queued, noted⟩ := (Buffer.calc_latest called).2 complete
  obtain ⟨ep', queued', stamp⟩ := expected.stamped
  obtain rfl := Option.some.inj (queued.symm.trans queued')
  rw [noted, Buffer.noteTimestamp_latest, stamp]
  simp only [tracks.started]

theorem Tracks.taken (tracks : g.Tracks) (called : g.buffer.calc crates p.pkt p.arrivalTime = some c)
    (complete : c.exit = .complete) (expected : g.Expected p c) :
    Latest ⟨c.buffer, some (highest g.maximum p.timestamp)⟩ ↔
      ∀ m ∈ g.maximum, Told (UInt32.ofNat p.timestamp) (UInt32.ofNat m) := by
  have noted := congrArg Prod.fst (tracks.noted called complete expected)
  have reads : Latest ⟨c.buffer, some (highest g.maximum p.timestamp)⟩ ↔
      c.buffer.latest.1 = UInt32.ofNat (highest g.maximum p.timestamp) := by
    constructor
    · intro latest
      exact latest _ rfl
    · intro equal m most
      cases most
      exact equal
  rw [reads, noted, apply_ite Prod.fst]
  have near := expected.near
  have latest := tracks.latest
  unfold Latest at latest
  cases known : g.maximum with
  | none =>
      rw [if_pos (Or.inl rfl)]
      unfold highest
      rw [Option.getD_none, Nat.max_self]
      exact iff_of_true rfl nofun
  | some m =>
      rw [known] at near latest
      have close := near m rfl
      have last : g.buffer.latest.1 = UInt32.ofNat m := latest m rfl
      have pick := (picked_iff close).trans (told_ofNat_iff close).symm
      rw [last, latest m rfl]
      simp only [reduceCtorEq, false_or, highest, Option.getD_some]
      rw [pick]
      constructor
      · intro told m' same
        cases same
        exact told
      · intro told
        exact told m rfl

theorem Tracks.started_taken (tracks : g.Tracks) (called : g.buffer.calc crates p.pkt p.arrivalTime = some c)
    (complete : c.exit = .complete) (expected : g.Expected p c) : c.buffer.latestTimestampTime ≠ 0 := by
  have noted := congrArg Prod.snd (tracks.noted called complete expected)
  change c.buffer.latestTimestampTime = _ at noted
  rw [noted]
  split
  · exact expected.arrived
  · rename_i kept
    exact fun untimed => kept (Or.inl (tracks.started.mpr untimed))

end Taken

/-- One step: the latest timestamp stays the maximum's exactly when the bits tell the wrap. -/
theorem latest_iff {g : TimestampRun} (tracks : g.Tracks) (p : TimedPacket) :
    (∀ next, g.receive crates p = some next → next.Latest) ↔ g.TellsWrap crates p := by
  constructor
  · intro right c called complete expected
    have received : g.receive crates p = some ⟨c.buffer, some (highest g.maximum p.timestamp)⟩ := by
      unfold receive
      rw [Option.mem_def.mp called]
      exact (if_pos complete).trans (if_pos expected)
    exact (tracks.taken called complete expected).mp (right _ received)
  · intro tells next received
    obtain ⟨c, called, ⟨refused, rfl⟩ | ⟨complete, expected, rfl⟩⟩ := receive_cases received
    · intro m most
      exact (congrArg Prod.fst ((Buffer.calc_latest called).1 refused)).trans (tracks.latest m most)
    · exact (tracks.taken called complete expected).mpr (tells c called complete expected)

theorem receive_tracks {g next : TimestampRun} {p : TimedPacket} (tracks : g.Tracks) (tells : g.TellsWrap crates p)
    (received : g.receive crates p = some next) : next.Tracks := by
  refine ⟨(latest_iff tracks p).mpr tells next received, ?_⟩
  obtain ⟨c, called, ⟨refused, rfl⟩ | ⟨complete, expected, rfl⟩⟩ := receive_cases received
  · have time : c.buffer.latestTimestampTime = g.buffer.latestTimestampTime :=
      congrArg Prod.snd ((Buffer.calc_latest called).1 refused)
    dsimp only
    rw [time]
    exact tracks.started
  · exact iff_of_false nofun (tracks.started_taken called complete expected)

/-- Two timestamps less than a quarter of a cycle apart are ordered right exactly when the bits
tell the wrap between them, and in a run the latest timestamp is the maximum's in every state
exactly when they tell it of each packet taken in and the maximum before it. -/
theorem run_latest_iff {b : Buffer} (opened : b.Opened crates) (packets : List TimedPacket) :
    (∀ a b, Close a b → ((isLaterTimestamp a b = true ↔ Ahead a b) ↔ Told a b)) ∧
      ((∀ before, before <+: packets → ∀ g, run (receive crates) { buffer := b } before = some g → g.Latest) ↔
        Guarded (receive crates) (TellsWrap crates) { buffer := b } packets) := by
  constructor
  · intro a b close
    refine isLaterTimestamp_iff (close.imp ?_ ?_)
    · intro near
      omega
    · intro near
      omega
  · have start : Tracks { buffer := b } :=
      ⟨nofun, iff_of_true rfl (congrArg Prod.snd opened.latest)⟩
    rw [← guarded_reaches_iff Latest start.latest]
    exact guarded_iff Tracks (fun g p tracks => latest_iff tracks p)
      (fun g p next tracks tells received => receive_tracks tracks tells received) start

/-- An opus packet with a true timestamp. -/
def stampedPacket (seq : UInt16) (timestamp : Nat) : TimedPacket where
  timestamp
  pkt := [0x80, 111] ++ ByteStore.beBytes seq ++ ByteStore.beBytes (UInt16.ofNat (timestamp / 65536)) ++
    ByteStore.beBytes (UInt16.ofNat timestamp) ++ [0, 0, 0, 1, 1]
  arrivalTime := seq.toNat

theorem run_latest_iff_wrap :
    let packets := [stampedPacket 1 4294967040, stampedPacket 2 4294967340, stampedPacket 3 4294967140]
    (∀ before, before <+: packets →
        ∀ g, run (receive bareCrates) { buffer := opusBuffer } before = some g → g.Latest) ∧
      (run (receive bareCrates) { buffer := opusBuffer } packets).map (fun g => g.buffer.latestTimestamp) = some 44 :=
  ⟨(run_latest_iff opusBuffer_opened _).2.mpr (by decide +kernel), by decide +kernel⟩

/-- Two bits that differ are taken for a wrap, and a wrap that leaves them alone is missed;
the timestamp that is refused for it stays refused. -/
theorem later_timestamp_refused :
    let packets := [stampedPacket 1 0, stampedPacket 2 201326592]
    Close 201326592 0 ∧ Ahead 201326592 0 ∧ isLaterTimestamp 201326592 0 = false ∧
      Close 0 4026531840 ∧ Ahead 0 4026531840 ∧ isLaterTimestamp 0 4026531840 = false ∧
      (run (receive bareCrates) { buffer := opusBuffer } packets).map
          (fun g => (g.maximum, g.buffer.latestTimestamp)) = some (some 201326592, 0) ∧
      ¬ ∀ before, before <+: packets →
        ∀ g, run (receive bareCrates) { buffer := opusBuffer } before = some g → g.Latest := by
  intro packets
  have state : (run (receive bareCrates) { buffer := opusBuffer } packets).map
      (fun g => (g.maximum, g.buffer.latestTimestamp)) = some (some 201326592, 0) := by
    decide +kernel
  refine ⟨by decide, by decide, by decide, by decide, by decide, by decide, state, fun latest => ?_⟩
  obtain ⟨g, reached, values⟩ := Option.map_eq_some_iff.mp state
  obtain ⟨maximum, last⟩ := Prod.mk.inj values
  have right := latest packets (List.prefix_refl packets) g reached 201326592 maximum
  rw [last] at right
  exact absurd right (by decide)

end TimestampRun

end Rsfu
