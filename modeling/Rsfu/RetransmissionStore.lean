import Rsfu.SequenceTracking

/-! The retransmission store over whole runs of `calc`. The invariant puts every
stored packet of the window at its distance from the head; a gap that runs over
the last slot, or a second copy of the newest packet, breaks it. -/
namespace Rsfu
open RingSlots SerialNumber GuardedRun

/-- Every stored packet at most `m` behind the head `high` is in its slot. -/
structure Bucket.Stores (b : Bucket) (m high : Nat) (kept : Nat → Option Bytes) : Prop where
  wf : b.WellFormed m
  started : b.init = true
  head : b.headSn = UInt16.ofNat high
  below : ∀ seq pkt, kept seq = some pkt → seq ≤ high
  holds : ∀ seq pkt, kept seq = some pkt → high ≤ seq + m →
    PacketOf seq pkt ∧ HoldsAt b.buf (slotBack (m + 1) b.step (high - seq)) pkt

namespace Bucket

theorem Stores.get {b : Bucket} {m high seq : Nat} {kept : Nat → Option Bytes} {pkt : Bytes}
    (inv : b.Stores m high kept) (small : m < 65536) (stored : kept seq = some pkt)
    (near : high ≤ seq + m) : b.get (UInt16.ofNat seq) = some (some pkt) := by
  obtain ⟨of, holds⟩ := inv.holds seq pkt stored near
  exact get_spec inv.wf small inv.head (inv.below seq pkt stored) near of holds

/-- A store after a write: the packet is in its slot, and so is what was there before. -/
theorem Stores.of_written {b : Bucket} {m high seq : Nat} {kept : Nat → Option Bytes} {pkt : Bytes}
    (wf : b.WellFormed m) (started : b.init = true) (head : b.headSn = UInt16.ofNat high) (le : seq ≤ high)
    (of : PacketOf seq pkt) (holds : HoldsAt b.buf (slotBack (m + 1) b.step (high - seq)) pkt)
    (below : ∀ n p, kept n = some p → n ≤ high)
    (others : ∀ n p, n ≠ seq → kept n = some p → high ≤ n + m →
      PacketOf n p ∧ HoldsAt b.buf (slotBack (m + 1) b.step (high - n)) p) :
    b.Stores m high (Function.update kept seq (some pkt)) := by
  refine ⟨wf, started, head, ?_, ?_⟩
  · intro n p stored
    by_cases same : n = seq
    · rw [same]
      exact le
    · rw [Function.update_of_ne same] at stored
      exact below n p stored
  · intro n p stored near
    by_cases same : n = seq
    · subst same
      rw [Function.update_self] at stored
      cases stored
      exact ⟨of, holds⟩
    · rw [Function.update_of_ne same] at stored
      exact others n p same stored near

/-- The first packet of an empty store. -/
theorem addPacket_first {b : Bucket} {m seq : Nat} {pkt : Bytes} (wf : b.WellFormed m)
    (of : PacketOf seq pkt) :
    ∃ b', b.addPacket pkt (UInt16.ofNat seq) true = some (b', .ok pkt) ∧
      b'.Stores m seq (Function.update (fun _ => none) seq (some pkt)) := by
  obtain ⟨inside, buf, added, written⟩ := addPacket_latest wf of.shortest of.longest (UInt16.ofNat seq)
  refine ⟨_, added, .of_written ⟨wf.steps, ?_, written.size ▸ wf.room⟩ rfl rfl le_rfl of ?_
    (fun n p stored => (nomatch stored)) fun n p _ stored => (nomatch stored)⟩
  · exact Nat.le_of_lt_succ (Nat.mod_lt _ (Nat.succ_pos m))
  · rw [Nat.sub_self, slotBack_newest (Nat.lt_succ_of_le inside)]
    exact written.holds

/-- Where the gap loop agrees with the ring, the slots of the old window keep their
places and are not the one written. -/
theorem slot_kept {step m gap : Nat} (back : Nat) (step_le : step ≤ m) (moved : 0 < gap) (inside : gap + back ≤ m)
    (clear : 2 ≤ gap → gap ≤ m → step < m → step + gap - 1 < m) :
    slotBack (m + 1) (((bump m)^[gap - 1] step + 1) % (m + 1)) (back + gap) = slotBack (m + 1) step back ∧
      slotBack (m + 1) step back ≠ (bump m)^[gap - 1] step := by
  have agree : (bump m)^[gap - 1] step = (step + (gap - 1)) % (m + 1) := bump_skip step_le (by omega) (by omega)
  rw [agree]
  exact slotBack_ahead step back moved (by omega)

/-- A forward packet keeps the window when the gap loop agrees with the ring, or
when nothing of the old window is left, and a repeated head has nothing behind it. -/
theorem addPacket_forward {b : Bucket} {m high gap : Nat} {kept : Nat → Option Bytes} {pkt : Bytes}
    (inv : b.Stores m high kept) (small : gap < 65536) (of : PacketOf (high + gap) pkt)
    (alone : gap = 0 → ∀ seq, kept seq ≠ none → seq < high → seq + m < high)
    (clear : 2 ≤ gap → gap ≤ m → b.step < m → b.step + gap - 1 < m) :
    ∃ b', b.addPacket pkt (UInt16.ofNat (high + gap)) true = some (b', .ok pkt) ∧
      b'.Stores m (high + gap) (Function.update kept (high + gap) (some pkt)) := by
  have wf := inv.wf
  obtain ⟨inside, buf, added, written⟩ :=
    addPacket_latest wf of.shortest of.longest (UInt16.ofNat (high + gap))
  have passed : b.skipped (UInt16.ofNat (high + gap)) = gap - 1 := by
    rw [skipped, inv.started, if_pos rfl, distance_eq_sub, inv.head, ofNat_sub16 (Nat.le_add_right _ _),
      toNat_ofNat16, Nat.add_sub_cancel_left, Nat.mod_eq_of_lt small]
  rw [passed] at inside added written
  refine ⟨_, added, .of_written ⟨wf.steps, ?_, written.size ▸ wf.room⟩ rfl rfl le_rfl of ?_ ?_ ?_⟩
  · exact Nat.le_of_lt_succ (Nat.mod_lt _ (Nat.succ_pos m))
  · rw [Nat.sub_self, slotBack_newest (Nat.lt_succ_of_le inside)]
    exact written.holds
  · exact fun n p stored => (inv.below n p stored).trans (Nat.le_add_right _ _)
  · intro n p other stored near
    have le := inv.below n p stored
    obtain ⟨of_old, held⟩ := inv.holds n p stored (by omega)
    have moved : 0 < gap := by
      refine Nat.pos_of_ne_zero fun repeated => ?_
      have far := alone repeated n (by rw [stored]; exact Option.some_ne_none p) (by omega)
      omega
    obtain ⟨back, apart⟩ := slot_kept (high - n) wf.step_le moved (by omega) clear
    rw [← wf.steps] at back apart
    have age : high + gap - n = high - n + gap := by omega
    simp only [age, back]
    exact ⟨of_old, held.frame written apart of_old.longest⟩

theorem Stores.late_set {b : Bucket} {m high : Nat} {kept : Nat → Option Bytes} (inv : b.Stores m high kept)
    (pkt : Bytes) (sn : UInt16) : b.addPacket pkt sn false = b.set sn pkt := by
  simp only [addPacket, inv.started, if_true, Bool.false_eq_true, if_false]

/-- A late packet is refused, or takes its own slot. -/
theorem addPacket_late {b : Bucket} {m high seq : Nat} {kept : Nat → Option Bytes} {pkt : Bytes}
    (inv : b.Stores m high kept) (small : m < 65536) (late : seq ≤ high) (close : high < seq + 65536)
    (of : PacketOf seq pkt) :
    (∃ err, b.addPacket pkt (UInt16.ofNat seq) false = some (b, .error err)) ∨
    ∃ b', b.addPacket pkt (UInt16.ofNat seq) false = some (b', .ok pkt) ∧
      b'.Stores m high (Function.update kept seq (some pkt)) := by
  have wf := inv.wf
  rw [inv.late_set]
  by_cases near : high ≤ seq + m
  · rcases set_spec wf small inv.head late near of with ⟨-, refused⟩ | ⟨-, buf, stored, written⟩
    · exact .inl ⟨_, refused⟩
    · refine .inr ⟨_, stored, .of_written ⟨wf.steps, wf.step_le, written.size ▸ wf.room⟩ inv.started inv.head
        late of written.holds inv.below ?_⟩
      intro n p other keep inside
      have le := inv.below n p keep
      obtain ⟨of_old, held⟩ := inv.holds n p keep inside
      refine ⟨of_old, held.frame written ?_ of_old.longest⟩
      intro collide
      have := slotBack_inj (by omega) (by omega) collide
      omega
  · exact .inl ⟨_, set_too_old pkt wf inv.head (by omega) close⟩

/-- What one packet near the highest number does to the store: a refused one is
late, an accepted one joins the window. -/
theorem addPacket_near {b : Bucket} {m high seq : Nat} {kept : Nat → Option Bytes} {pkt : Bytes}
    (inv : b.Stores m high kept) (small : m < 65536) (above : seq < high + 32768) (below : high ≤ seq + 32768)
    (of : PacketOf seq pkt) (alone : seq = high → ∀ n, kept n ≠ none → n < high → n + m < high)
    (clear : high + 2 ≤ seq → seq ≤ high + m → b.step < m → b.step + (seq - high) - 1 < m) :
    (max high seq = high ∧ ∃ err, b.addPacket pkt (UInt16.ofNat seq)
      (UInt16.ofNat seq == UInt16.ofNat (max high seq)) = some (b, .error err)) ∨
    ∃ b', b.addPacket pkt (UInt16.ofNat seq) (UInt16.ofNat seq == UInt16.ofNat (max high seq)) =
        some (b', .ok pkt) ∧
      b'.Stores m (max high seq) (Function.update kept seq (some pkt)) := by
  by_cases le : high ≤ seq
  · obtain ⟨gap, rfl⟩ := Nat.exists_eq_add_of_le le
    rw [max_eq_right le, beq_self_eq_true]
    refine .inr (addPacket_forward inv (by omega) of (fun repeated => alone (by omega)) ?_)
    intro two inside before_last
    have := clear (by omega) (by omega) before_last
    omega
  · have late : seq < high := Nat.lt_of_not_le le
    have other : (UInt16.ofNat seq == UInt16.ofNat high) = false := by
      rw [beq_eq_false_iff_ne]
      intro same
      have := ofNat_inj16_of_near (by omega) (by omega) same
      omega
    rw [max_eq_left late.le, other]
    exact (addPacket_late inv small late.le (by omega) of).imp_left fun refused => ⟨rfl, refused⟩

end Bucket

/-- An RTP packet of 12 to 1498 bytes under its true number. -/
structure Arrival.WellFormed (crates : RtpCrates) (a : Arrival) : Prop where
  numbered : a.Numbered
  shortest : 12 ≤ a.pkt.length
  longest : a.pkt.length ≤ 1498
  parses : (crates.unmarshal a.pkt).isSome

theorem Arrival.WellFormed.packetOf {crates : RtpCrates} {a : Arrival} (h : a.WellFormed crates) :
    PacketOf a.seq a.pkt := ⟨by have := h.shortest; omega, h.longest, h.numbered⟩

namespace Reception

/-- A repeat of the newest number finds nothing else in the window, and a gap
that leaves part of the window does not run over the last slot. -/
def Undisturbed (g : Reception) (a : Arrival) : Prop :=
  ∀ s r, g.span = some s → g.buffer.bucket = some r →
    (a.seq = s.high → ∀ seq, g.kept seq ≠ none → seq < s.high → seq + r.maxSteps.toNat < s.high) ∧
    (s.high + 2 ≤ a.seq → a.seq ≤ s.high + r.maxSteps.toNat → r.step < r.maxSteps.toNat →
      r.step + (a.seq - s.high) - 1 < r.maxSteps.toNat)

/-- The store of the buffer holds the window below the highest number. -/
def StoreHolds (g : Reception) : Prop :=
  ∀ r, g.buffer.bucket = some r → ∃ m ≤ 499,
    match g.span with
    | none => r.WellFormed m ∧ g.kept = fun _ => none
    | some s => r.Stores m s.high g.kept

theorem record_kept {g : Reception} {a : Arrival} {c : Buffer.Calc} (counted : c.exit.counted = true) :
    (g.record a c).kept = Function.update g.kept a.seq (some a.pkt) := by
  have stored : c.exit.stored = true := by
    cases exit : c.exit with
    | rejected err => simp only [exit, CalcExit.counted, Bool.false_eq_true] at counted
    | malformed => rfl
    | badPayload err => rfl
    | complete => rfl
  simp only [record, stored, if_true]

theorem receive_store {crates : RtpCrates} {g g' : Reception} {a : Arrival} (formed : a.WellFormed crates)
    (near : g.Near a) (counting : g.Counting) (undisturbed : g.Undisturbed a) (tracks : g.Tracks)
    (inv : g.StoreHolds) (h : g.receive crates a = some g') : g'.StoreHolds := by
  have of := formed.packetOf
  obtain ⟨c, step, rfl⟩ := receive_cases formed.numbered h
  have store := step.store
  have max_seq := step.maxSeqNo
  intro r found
  change c.buffer.bucket = some r at found
  rw [found] at store
  obtain ⟨r₀, had⟩ := store.before
  rw [had] at store
  obtain ⟨m, small, held⟩ := inv r₀ had
  refine ⟨m, small, ?_⟩
  unfold Tracks at tracks
  cases before : g.span with
  | none =>
      rw [before] at held tracks
      obtain ⟨wf, nothing⟩ := held
      rw [Buffer.trackSequence_first tracks.1] at max_seq
      rw [max_seq, beq_self_eq_true] at store
      obtain ⟨b', added, stores⟩ := Bucket.addPacket_first wf of
      obtain ⟨same, counted⟩ := store.of_accepted added formed.parses
      cases same
      rw [record_span_none before a counted, record_kept counted, nothing]
      exact stores
  | some s =>
      rw [before] at held tracks
      obtain ⟨above, below⟩ := near s before
      have running := counting (by rw [before]; rfl)
      rw [Buffer.trackSequence_max running tracks.2.1 above below] at max_seq
      rw [record_span_some before]
      have steps : r₀.maxSteps.toNat = m := by
        rw [held.wf.steps]
        rfl
      obtain ⟨alone, clear⟩ := undisturbed s r₀ before had
      rw [steps] at alone clear
      rw [max_seq] at store
      rcases Bucket.addPacket_near held (by omega) above below of alone clear with
        ⟨latest, err, refused⟩ | ⟨b', added, stores⟩
      · obtain ⟨same, rejected⟩ := store.of_refused refused
        cases same
        simp only [record, rejected, CalcExit.stored, Bool.false_eq_true, if_false, latest]
        exact held
      · obtain ⟨same, counted⟩ := store.of_accepted added formed.parses
        cases same
        rw [record_kept counted]
        exact stores

theorem start_store {crates : RtpCrates} {b : Buffer} (opened : b.Opened crates) :
    StoreHolds { buffer := b } := by
  intro r found
  obtain ⟨m, small, new⟩ := opened.fresh.bucket r found
  refine ⟨m, small, ?_, rfl⟩
  rw [new]
  exact Bucket.new_wellFormed (Nat.mul_div_cancel_left _ (by decide))

/-- Every packet of the window is read back as it was last stored. -/
def StoreIntact (g : Reception) : Prop :=
  ∀ s r, g.span = some s → g.buffer.bucket = some r →
    r.headSn = UInt16.ofNat s.high ∧
    ∀ seq pkt, g.kept seq = some pkt → s.high ≤ seq + r.maxSteps.toNat →
      r.get (UInt16.ofNat seq) = some (some pkt)

def KeepsStore (crates : RtpCrates) (g : Reception) (a : Arrival) : Prop :=
  (a.WellFormed crates ∧ g.Near a) ∧ g.Counting ∧ g.Undisturbed a

theorem run_storeIntact {crates : RtpCrates} {b : Buffer} {arrivals : List Arrival} {g : Reception}
    (opened : b.Opened crates)
    (guarded : Guarded (receive crates) (KeepsStore crates) { buffer := b } arrivals)
    (reached : run (receive crates) { buffer := b } arrivals = some g) : g.StoreIntact := by
  have inv : g.Tracks ∧ g.StoreHolds := by
    refine run_invariant (fun g => g.Tracks ∧ g.StoreHolds) ?_ ⟨start_tracks opened, start_store opened⟩
      guarded reached
    intro g a g' inv guard h
    obtain ⟨⟨formed, near⟩, counting, undisturbed⟩ := guard
    exact ⟨receive_tracks formed.numbered near counting inv.1 h,
      receive_store formed near counting undisturbed inv.1 inv.2 h⟩
  intro s r span found
  obtain ⟨m, small, stores⟩ := inv.2 r found
  rw [span] at stores
  refine ⟨stores.head, fun seq pkt stored near => ?_⟩
  rw [stores.wf.steps] at near
  exact stores.get (by omega) stored near

theorem bareArrival_wellFormed (seq : Nat) : (bareArrival seq).WellFormed bareCrates :=
  ⟨bareArrival_numbered seq, by simp [bareArrival], by simp [bareArrival], bareArrival_parses seq⟩

theorem run_storeIntact_two :
    ∃ g, run (receive bareCrates) { buffer := opusBuffer } [bareArrival 1, bareArrival 2] = some g ∧
      g.StoreIntact := by
  obtain ⟨g, reached⟩ :
      ∃ g, run (receive bareCrates) { buffer := opusBuffer } [bareArrival 1, bareArrival 2] = some g :=
    Option.isSome_iff_exists.mp (by decide +kernel)
  refine ⟨g, reached, run_storeIntact opusBuffer_opened ?_ reached⟩
  refine ⟨⟨⟨bareArrival_wellFormed 1, ?_⟩, ?_, ?_⟩, fun g₁ first => ⟨⟨⟨bareArrival_wellFormed 2, ?_⟩, ?_, ?_⟩, ?_⟩⟩
  · exact fun s none => (nomatch none)
  · exact fun some => (nomatch some)
  · exact fun s r none => (nomatch none)
  all_goals
    have after : (receive bareCrates { buffer := opusBuffer } (bareArrival 1)).map
        (fun g => (g.span, g.buffer.stats.packetCount)) = some (some ⟨1, 1⟩, 1) := by decide +kernel
    rw [first] at after
    simp only [Option.map_some, Option.some.injEq, Prod.mk.injEq] at after
  · intro s found
    cases found.symm.trans after.1
    decide
  · intro counted
    rw [after.2]
    decide
  · intro s r found _
    cases found.symm.trans after.1
    exact ⟨fun repeated => (nomatch repeated), fun skips => absurd skips (by decide)⟩
  · exact fun g₂ second => trivial

def repeatedHead : List Arrival := [bareArrival 1, bareArrival 2, bareArrival 2]

/-- A second copy of the newest packet moves the write position, and the packet
before it is no longer found. -/
theorem repeated_head_hides_packet :
    opusBuffer.Opened bareCrates ∧
    Guarded (receive bareCrates) (fun g a => a.WellFormed bareCrates ∧ g.Near a) { buffer := opusBuffer }
      repeatedHead ∧
    ∃ g, run (receive bareCrates) { buffer := opusBuffer } repeatedHead = some g ∧ ¬ g.StoreIntact := by
  refine ⟨opusBuffer_opened, ?_, ?_⟩
  · refine guarded_near_of_band 0 (fun a among => ?_) fun s none => (nomatch none)
    simp only [repeatedHead, List.mem_cons, List.not_mem_nil, or_false] at among
    rcases among with rfl | rfl | rfl <;> exact ⟨bareArrival_wellFormed _, by decide, by decide⟩
  · obtain ⟨g, reached⟩ : ∃ g, run (receive bareCrates) { buffer := opusBuffer } repeatedHead = some g :=
      Option.isSome_iff_exists.mp (by decide +kernel)
    refine ⟨g, reached, fun intact => ?_⟩
    have left : (run (receive bareCrates) { buffer := opusBuffer } repeatedHead).map
        (fun g => (g.span, g.kept 1)) = some (some ⟨1, 2⟩, some (bareArrival 1).pkt) := by decide +kernel
    have store : (run (receive bareCrates) { buffer := opusBuffer } repeatedHead).bind
        (fun g => g.buffer.bucket.map fun r => (r.maxSteps.toNat, r.get 1)) = some (24, some none) := by
      decide +kernel
    rw [reached] at left store
    simp only [Option.map_some, Option.bind_some, Option.some.injEq, Prod.mk.injEq, Option.map_eq_some_iff]
      at left store
    obtain ⟨span, stored⟩ := left
    obtain ⟨r, found, steps, lost⟩ := store
    obtain ⟨-, reads⟩ := intact _ r span found
    have kept := reads 1 _ stored (by rw [steps]; decide)
    exact nomatch (Option.some.inj (lost.symm.trans kept))

end Reception

end Rsfu
