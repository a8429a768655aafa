import Rsfu.NackLookups

/-! How soon a stored entry is returned again. The time noted in an entry is zero
until it is first returned and the time of its last return from then on, so two
returns of it are more than a tenth of a second apart. -/
namespace Rsfu
open GuardedRun RingSlots

theorem subU128_of_le {a b : Nat} (le : b ≤ a) (fits : a < 340282366920938463463374607431768211456) :
    subU128 a b = a - b := by
  unfold subU128
  omega

namespace Sequencer

/-- The first push gives the sequencer a head. -/
def opened (s : Sequencer) (offSn : UInt16) : Sequencer :=
  if s.init then s else { s with headSn := offSn, init := true }

theorem opened_keeps (s : Sequencer) (offSn : UInt16) :
    (s.opened offSn).seq = s.seq ∧ (s.opened offSn).startTime = s.startTime := by
  unfold opened
  cases s.init <;> exact ⟨rfl, rfl⟩

/-- The slot a push writes, if it writes one. -/
def pushedSlot (s : Sequencer) (offSn : UInt16) (head : Bool) : Option Nat :=
  let s := s.opened offSn
  if head then some ((bump s.max)^[(offSn - s.headSn).toNat - 1] s.step)
  else if (s.step : Int) - (s.headSn - offSn).toNat < 0 ∧ s.max ≤ -((s.step : Int) - (s.headSn - offSn).toNat)
    then none
  else some s.step

theorem push_writes (s : Sequencer) (sn offSn : UInt16) (timestamp : UInt32) (layer : UInt8) (head : Bool) :
    (s.push sn offSn timestamp layer head).1.startTime = s.startTime ∧
      (s.push sn offSn timestamp layer head).1.seq =
        match s.pushedSlot offSn head with
        | none => s.seq
        | some slot => Function.update s.seq slot (some (entryOf sn offSn timestamp layer)) := by
  obtain ⟨same_seq, same_start⟩ := s.opened_keeps offSn
  unfold push pushedSlot
  rw [← opened, ← same_seq, ← same_start]
  cases head with
  | true => exact ⟨rfl, rfl⟩
  | false =>
      dsimp only
      rw [if_neg Bool.false_ne_true, if_neg Bool.false_ne_true]
      by_cases old : ((s.opened offSn).step : Int) - ((s.opened offSn).headSn - offSn).toNat < 0 ∧
          (s.opened offSn).max ≤ -(((s.opened offSn).step : Int) - ((s.opened offSn).headSn - offSn).toNat)
      · rw [if_pos old, if_pos old]
        exact ⟨rfl, rfl⟩
      · rw [if_neg old, if_neg old]
        exact ⟨rfl, rfl⟩

end Sequencer

/-- A sequencer next to the times at which the entry of each slot was returned
since it was written, and the last time the clock was read. -/
structure Spacing where
  sequencer : Sequencer
  clock : Nat := 0
  returned : Int → List Nat := fun _ => []

namespace Spacing

def note (g : Spacing) (refTime : Nat) (sn : UInt16) (outcome : Sequencer × List PacketMeta) : Spacing :=
  { g with
    sequencer := outcome.1
    returned := Function.update g.returned (g.sequencer.askedSlot sn)
      (g.returned (g.sequencer.askedSlot sn) ++ outcome.2.map fun _ => refTime) }

/-- One number of a request. -/
def ask (refTime : Nat) (g : Spacing) (sn : UInt16) : Option Spacing :=
  (g.sequencer.lookup refTime sn).map (g.note refTime sn)

def step (g : Spacing) : SequencerOp → Option Spacing
  | .push p => some {
      g with
      sequencer := (g.sequencer.push p.source (UInt16.ofNat p.target) p.timestamp p.layer p.head).1
      returned := match g.sequencer.pushedSlot (UInt16.ofNat p.target) p.head with
        | none => g.returned
        | some slot => Function.update g.returned slot [] }
  | .nack now sns => run (ask (subU128 now g.sequencer.startTime)) { g with clock := now } sns

/-- The numbers of a request one after the other are the request. -/
theorem asks_lookupAll {refTime : Nat} {g g' : Spacing} {sns : List UInt16}
    (reached : run (ask refTime) g sns = some g') :
    g'.clock = g.clock ∧ ∃ found, g.sequencer.lookupAll refTime sns = some (g'.sequencer, found) := by
  induction sns generalizing g with
  | nil =>
      cases reached
      exact ⟨rfl, [], rfl⟩
  | cons sn rest ih =>
      obtain ⟨next, first, later⟩ := run_cons_eq_some.mp reached
      obtain ⟨⟨s, one⟩, looked, rfl⟩ := Option.map_eq_some_iff.mp first
      obtain ⟨clock, more, looked_more⟩ := ih later
      refine ⟨clock, one ++ more, ?_⟩
      unfold Sequencer.lookupAll
      rw [looked, Option.bind_eq_bind, Option.bind_some]
      exact congrArg (fun r => r.bind fun x => some (x.1, one ++ x.2)) looked_more

theorem step_serves {g g' : Spacing} {op : SequencerOp} (h : g.step op = some g') :
    g.sequencer.serve op = some g'.sequencer := by
  cases op with
  | push p =>
      cases h
      rfl
  | nack now sns =>
      obtain ⟨-, found, looked⟩ := asks_lookupAll h
      exact congrArg (Option.map Prod.fst) looked

theorem run_serves {g g' : Spacing} {ops : List SequencerOp} (reached : run step g ops = some g') :
    run Sequencer.serve g.sequencer ops = some g'.sequencer := by
  induction ops generalizing g with
  | nil => exact congrArg (Option.map sequencer) reached
  | cons op rest ih =>
      obtain ⟨next, first, later⟩ := run_cons_eq_some.mp reached
      exact run_cons_eq_some.mpr ⟨next.sequencer, step_serves first, ih later⟩

/-- The clock does not go back, and a request comes at least a millisecond after the start. -/
def Ticks (g : Spacing) : SequencerOp → Prop
  | .push _ => True
  | .nack now _ => g.clock ≤ now ∧ g.sequencer.startTime + 1 ≤ now ∧ now < 340282366920938463463374607431768211456

instance (g : Spacing) : ∀ op, Decidable (g.Ticks op)
  | .push _ => isTrue trivial
  | .nack _ _ => inferInstanceAs (Decidable (_ ∧ _ ∧ _))

/-- The times of one slot, against a time none of them is after. -/
structure Spaced (refTime : Nat) (entry : Option PacketMeta) (times : List Nat) : Prop where
  apart : times.Pairwise fun earlier later => earlier + ignoreRetransmission < later
  positive : ∀ t ∈ times, 1 ≤ t
  noted : ∀ e, entry = some e → e.lastNack ≤ refTime ∧ ∀ t ∈ times, t ≤ e.lastNack

theorem Spaced.returns {refTime : Nat} {e : PacketMeta} {times : List Nat}
    (inv : Spaced refTime (some e) times) (due : e.lastNack = 0 ∨ ignoreRetransmission < subU128 refTime e.lastNack)
    (positive : 1 ≤ refTime) (fits : refTime < 340282366920938463463374607431768211456) :
    Spaced refTime (some { e with lastNack := refTime }) (times ++ [refTime]) := by
  obtain ⟨past, latest⟩ := inv.noted e rfl
  constructor
  · rw [List.pairwise_append]
    refine ⟨inv.apart, List.pairwise_singleton _ _, fun t among r last => ?_⟩
    rw [List.mem_singleton.mp last]
    have at_most := latest t among
    rcases due with zero | late
    · have := inv.positive t among
      omega
    · rw [subU128_of_le past fits] at late
      omega
  · intro t among
    rcases List.mem_append.mp among with old | new
    · exact inv.positive t old
    · rw [List.mem_singleton.mp new]
      exact positive
  · intro r same
    cases same
    refine ⟨le_rfl, fun t among => ?_⟩
    rcases List.mem_append.mp among with old | new
    · exact (latest t old).trans past
    · exact (List.mem_singleton.mp new).le

theorem Spaced.later {refTime later : Nat} {entry : Option PacketMeta} {times : List Nat}
    (inv : Spaced refTime entry times) (le : refTime ≤ later) : Spaced later entry times :=
  ⟨inv.apart, inv.positive, fun e here => ⟨(inv.noted e here).1.trans le, (inv.noted e here).2⟩⟩

/-- A slot as a push leaves it. -/
theorem Spaced.fresh (refTime : Nat) {entry : Option PacketMeta}
    (unreturned : ∀ e, entry = some e → e.lastNack = 0) : Spaced refTime entry [] where
  apart := List.Pairwise.nil
  positive := fun t among => nomatch among
  noted := by
    intro e here
    rw [unreturned e here]
    exact ⟨Nat.zero_le refTime, fun t among => nomatch among⟩

/-- Every slot keeps its returns apart. -/
def AllSpaced (refTime : Nat) (g : Spacing) : Prop :=
  ∀ k, Spaced refTime (g.sequencer.seq k) (g.returned k)

theorem ask_spaced {refTime : Nat} {g g' : Spacing} {sn : UInt16} (positive : 1 ≤ refTime)
    (fits : refTime < 340282366920938463463374607431768211456) (inv : g.AllSpaced refTime)
    (h : ask refTime g sn = some g') :
    g'.AllSpaced refTime ∧ g'.sequencer.startTime = g.sequencer.startTime ∧ g'.clock = g.clock := by
  obtain ⟨⟨s, found⟩, looked, rfl⟩ := Option.map_eq_some_iff.mp h
  rcases Sequencer.lookup_cases looked with ⟨rfl, rfl⟩ | ⟨e, filled, -, due, rfl, rfl⟩
  · refine ⟨fun k => ?_, rfl, rfl⟩
    simp only [note, List.map_nil, List.append_nil, Function.update_eq_self]
    exact inv k
  · refine ⟨fun k => ?_, rfl, rfl⟩
    simp only [note, List.map_cons, List.map_nil]
    by_cases here : k = g.sequencer.askedSlot sn
    · have before := inv k
      subst here
      rw [filled] at before
      rw [Function.update_self, Function.update_self]
      exact before.returns due positive fits
    · rw [Function.update_of_ne here, Function.update_of_ne here]
      exact inv k

theorem asks_spaced {refTime : Nat} {g g' : Spacing} {sns : List UInt16} (positive : 1 ≤ refTime)
    (fits : refTime < 340282366920938463463374607431768211456) (inv : g.AllSpaced refTime)
    (reached : run (ask refTime) g sns = some g') :
    g'.AllSpaced refTime ∧ g'.sequencer.startTime = g.sequencer.startTime ∧ g'.clock = g.clock := by
  refine run_preserves (fun t => t.AllSpaced refTime ∧ t.sequencer.startTime = g.sequencer.startTime ∧
    t.clock = g.clock) ?_ ⟨inv, rfl, rfl⟩ reached
  rintro t sn t' ⟨spaced, start, clock⟩ h
  obtain ⟨spaced', start', clock'⟩ := ask_spaced positive fits spaced h
  exact ⟨spaced', start'.trans start, clock'.trans clock⟩

/-- The times returned so far lie before the clock. -/
def KeepsApart (startTime : Nat) (g : Spacing) : Prop :=
  g.sequencer.startTime = startTime ∧ g.AllSpaced (g.clock - startTime)

theorem step_keepsApart {startTime : Nat} {g g' : Spacing} {op : SequencerOp} (inv : g.KeepsApart startTime)
    (ticks : g.Ticks op) (h : g.step op = some g') : g'.KeepsApart startTime := by
  obtain ⟨start, spaced⟩ := inv
  cases op with
  | push p =>
      cases h
      obtain ⟨same_start, seq⟩ := g.sequencer.push_writes p.source (UInt16.ofNat p.target) p.timestamp p.layer p.head
      refine ⟨same_start.trans start, fun k => ?_⟩
      dsimp only
      rw [seq]
      cases g.sequencer.pushedSlot (UInt16.ofNat p.target) p.head with
      | none => exact spaced k
      | some slot =>
          dsimp only
          by_cases here : k = slot
          · rw [here, Function.update_self, Function.update_self]
            apply Spaced.fresh
            rintro e ⟨⟩
            rfl
          · rw [Function.update_of_ne here, Function.update_of_ne here]
            exact spaced k
  | nack now sns =>
      obtain ⟨forward, started, fits⟩ := ticks
      rw [start] at started
      have asks : run (ask (subU128 now g.sequencer.startTime)) { g with clock := now } sns = some g' := h
      rw [start, subU128_of_le (by omega) fits] at asks
      have before : AllSpaced (now - startTime) { g with clock := now } := by
        intro k
        exact (spaced k).later (Nat.sub_le_sub_right forward startTime)
      obtain ⟨after, same_start, clock⟩ := asks_spaced (by omega) (by omega) before asks
      refine ⟨same_start.trans start, ?_⟩
      rw [clock]
      exact after

theorem returns_spaced (max : Int) (startTime : Nat) {ops : List SequencerOp} {g : Spacing}
    (ticks : Guarded step Ticks { sequencer := .new max startTime } ops)
    (reached : run step { sequencer := .new max startTime } ops = some g) :
    run Sequencer.serve (.new max startTime) ops = some g.sequencer ∧
      ∀ slot, (g.returned slot).Pairwise fun earlier later => earlier + ignoreRetransmission < later := by
  have inv : g.KeepsApart startTime := by
    refine run_invariant (KeepsApart startTime) ?_ ⟨rfl, fun k => ?_⟩ ticks reached
    · intro g op g' inv ticks h
      exact step_keepsApart inv ticks h
    · apply Spaced.fresh
      rintro e ⟨⟩
  exact ⟨run_serves reached, fun slot => (inv.2 slot).apart⟩

def askedTwice : List SequencerOp :=
  [.push ⟨7, 7, 0, 0, true⟩, .nack 1001 [7, 7], .nack 1050 [7], .nack 1102 [7]]

theorem returns_spaced_twice :
    ∃ g, run step { sequencer := .new 4 1000 } askedTwice = some g ∧
      (g.returned 0).Pairwise fun earlier later => earlier + ignoreRetransmission < later := by
  obtain ⟨g, reached⟩ : ∃ g, run step { sequencer := .new 4 1000 } askedTwice = some g :=
    Option.isSome_iff_exists.mp (by decide +kernel)
  have ticks : Guarded step Ticks { sequencer := .new 4 1000 } askedTwice := by decide +kernel
  exact ⟨g, reached, (returns_spaced 4 1000 ticks reached).2 0⟩

end Spacing

end Rsfu
