import Rsfu.GuardedRun
import Rsfu.Sequencer

/-! Lookups in the sequencer over whole runs of pushes and NACKs. As long as every
packet after the first is a head packet, an entry of the window is found at its
distance from the head, except in the last slot just after the ring has come round. -/
namespace Rsfu
open RingSlots SerialNumber GuardedRun

/-- An entry as it was pushed. -/
def PacketMeta.clear (e : PacketMeta) : PacketMeta := { e with lastNack := 0 }

namespace Sequencer

theorem lookup_frame {s s' : Sequencer} {refTime : Nat} {sn : UInt16} {found : List PacketMeta}
    (h : s.lookup refTime sn = some (s', found)) :
    (s'.init = s.init ∧ s'.max = s.max ∧ s'.step = s.step ∧ s'.headSn = s.headSn) ∧
      ∀ k e, s.seq k = some e → ∃ e', s'.seq k = some e' ∧ e'.clear = e.clear ∧ (e.targetSeqNo ≠ sn → e' = e) := by
  unfold lookup at h
  simp only at h
  split at h
  · cases h
    exact ⟨⟨rfl, rfl, rfl, rfl⟩, fun k e held => ⟨e, held, rfl, fun _ => rfl⟩⟩
  · simp only [Option.bind_eq_bind, Option.bind_eq_some_iff] at h
    obtain ⟨entry, at_slot, h⟩ := h
    split at h
    · rename_i matched
      cases h
      refine ⟨⟨rfl, rfl, rfl, rfl⟩, fun k e held => ?_⟩
      by_cases same : k = (if (s.step : Int) - (s.headSn - sn).toNat - 1 < 0
          then (s.step : Int) - (s.headSn - sn).toNat - 1 + s.max
          else (s.step : Int) - (s.headSn - sn).toNat - 1)
      · have entry_eq : entry = e := by
          rw [← same, held] at at_slot
          exact (Option.some.inj at_slot).symm
        refine ⟨{ entry with lastNack := refTime }, ?_, ?_, fun other => ?_⟩
        · simp only [same, Function.update_self]
        · rw [entry_eq]
          rfl
        · exact absurd (entry_eq ▸ matched.1) other
      · refine ⟨e, ?_, rfl, fun _ => rfl⟩
        simp only [Function.update_of_ne same, held]
    · cases h
      exact ⟨⟨rfl, rfl, rfl, rfl⟩, fun k e held => ⟨e, held, rfl, fun _ => rfl⟩⟩

theorem lookupAll_frame {s s' : Sequencer} {refTime : Nat} {sns : List UInt16} {found : List PacketMeta}
    (h : s.lookupAll refTime sns = some (s', found)) :
    (s'.init = s.init ∧ s'.max = s.max ∧ s'.step = s.step ∧ s'.headSn = s.headSn) ∧
      ∀ k e, s.seq k = some e → ∃ e', s'.seq k = some e' ∧ e'.clear = e.clear ∧ (e.targetSeqNo ∉ sns → e' = e) := by
  induction sns generalizing s found with
  | nil =>
      cases h
      exact ⟨⟨rfl, rfl, rfl, rfl⟩, fun k e held => ⟨e, held, rfl, fun _ => rfl⟩⟩
  | cons sn sns ih =>
      simp only [lookupAll, Option.bind_eq_bind, Option.bind_eq_some_iff] at h
      obtain ⟨⟨s₁, found₁⟩, first, ⟨s₂, found₂⟩, rest, h⟩ := h
      cases h
      obtain ⟨⟨init₁, max₁, step₁, head₁⟩, keep₁⟩ := lookup_frame first
      obtain ⟨⟨init₂, max₂, step₂, head₂⟩, keep₂⟩ := ih rest
      refine ⟨⟨init₂.trans init₁, max₂.trans max₁, step₂.trans step₁, head₂.trans head₁⟩, fun k e held => ?_⟩
      obtain ⟨e₁, held₁, clear₁, same₁⟩ := keep₁ k e held
      obtain ⟨e₂, held₂, clear₂, same₂⟩ := keep₂ k e₁ held₁
      refine ⟨e₂, held₂, clear₂.trans clear₁, fun absent => ?_⟩
      have e₁_eq := same₁ fun same => absent (List.mem_cons.mpr (Or.inl same))
      rw [e₁_eq] at same₂
      exact same₂ fun among => absent (List.mem_cons_of_mem _ among)

/-- The entries of the last `m` true numbers up to the head are in their slots;
an entry that was not asked for has not been answered. -/
structure Holds (s : Sequencer) (m high : Nat) (pushed : Nat → Option PacketMeta) (nacked : List UInt16) :
    Prop where
  max : s.max = m
  step_lt : s.step < m
  started : s.init = true
  head : s.headSn = UInt16.ofNat high
  target : ∀ t e, pushed t = some e → e.targetSeqNo = UInt16.ofNat t ∧ e.lastNack = 0
  below : ∀ t e, pushed t = some e → t ≤ high
  holds : ∀ t e, pushed t = some e → high < t + m →
    ∃ e', s.seq (slotBack m s.step (high - t) : Nat) = some e' ∧ e'.clear = e ∧
      (UInt16.ofNat t ∉ nacked → e'.lastNack = 0)

theorem Holds.lookup {s : Sequencer} {m high t : Nat} {pushed : Nat → Option PacketMeta} {nacked : List UInt16}
    {e : PacketMeta} (inv : s.Holds m high pushed nacked) (known : pushed t = some e) (near : high < t + m)
    (cycle : high < t + 65536) (fresh : UInt16.ofNat t ∉ nacked) (clear : s.step ≠ 0 ∨ high + 1 ≠ t + m)
    (refTime : Nat) :
    ∃ s', s.lookup refTime (UInt16.ofNat t) = some (s', [{ e with lastNack := refTime }]) := by
  obtain ⟨e', held, same, unanswered⟩ := inv.holds t e known near
  have le := inv.below t e known
  have step_lt := inv.step_lt
  have back : (s.headSn - UInt16.ofNat t).toNat = high - t := by
    rw [inv.head, ofNat_sub16 le, toNat_ofNat16]
    omega
  have slot := slotBack_signed inv.step_lt (show high - t < m by omega)
  have inside : ¬ ((s.step : Int) - ((high - t : Nat) : Int) - 1 < 0 ∧
      (m : Int) ≤ -((s.step : Int) - ((high - t : Nat) : Int) - 1)) := by omega
  have position : (if (s.step : Int) - ((high - t : Nat) : Int) - 1 < 0
      then (s.step : Int) - ((high - t : Nat) : Int) - 1 + m
      else (s.step : Int) - ((high - t : Nat) : Int) - 1) = (slotBack m s.step (high - t) : Nat) := by
    rw [slot]
    split <;> split <;> omega
  obtain ⟨target, -⟩ := inv.target t e known
  have untouched : e' = e := by
    rw [← same, PacketMeta.clear, ← unanswered fresh]
  rw [untouched] at held
  have zero : e.lastNack = 0 := untouched ▸ unanswered fresh
  have answers : e.targetSeqNo = UInt16.ofNat t ∧
      (e.lastNack = 0 ∨ ignoreRetransmission < subU128 refTime e.lastNack) := ⟨target, Or.inl zero⟩
  refine ⟨{ s with seq := Function.update s.seq (slotBack m s.step (high - t) : Nat)
                           (some { e with lastNack := refTime }) }, ?_⟩
  unfold Sequencer.lookup
  simp only [back, inv.max, inside, if_false, position, held, Option.bind_eq_bind, Option.bind_some]
  exact if_pos answers

theorem store_eq {s : Sequencer} {m : Nat} (max : s.max = m) (lt : s.step < m) (entry : PacketMeta) :
    s.store entry =
      ({ s with seq := Function.update s.seq s.step (some entry), step := (s.step + 1) % m },
        Function.update s.seq s.step (some entry) ((s.step + 1) % m : Nat)) := by
  unfold store
  rw [max, bump_natCast lt]

/-- The slot a head packet is written to. -/
def slotFor (s : Sequencer) (offSn : UInt16) : Nat :=
  if s.init then (bump s.max)^[(offSn - s.headSn).toNat - 1] s.step else s.step

def entryOf (sn offSn : UInt16) (timestamp : UInt32) (layer : UInt8) : PacketMeta where
  sourceSeqNo := sn
  targetSeqNo := offSn
  timestamp := timestamp
  layer := layer

/-- The first packet, and every head packet, is stored in its slot. -/
theorem push_stores {s : Sequencer} {m : Nat} {head : Bool} {offSn : UInt16} (max : s.max = m)
    (lt : s.slotFor offSn < m) (inOrder : s.init = false ∨ head = true) (sn : UInt16) (timestamp : UInt32)
    (layer : UInt8) :
    let seq := Function.update s.seq (s.slotFor offSn) (some (entryOf sn offSn timestamp layer))
    let step := (s.slotFor offSn + 1) % m
    s.push sn offSn timestamp layer head = ({ s with init := true, headSn := offSn, seq, step }, seq step) := by
  have zero : (offSn - offSn).toNat = 0 := by
    rw [toNat_sub16]
    omega
  have stored := store_eq (s := { s with init := true, headSn := offSn, step := s.slotFor offSn })
    (m := m) max lt (entryOf sn offSn timestamp layer)
  refine Eq.trans ?_ stored
  unfold push slotFor
  cases started : s.init with
  | false =>
      cases head with
      | true =>
          simp only [Bool.false_eq_true, if_false, if_true, zero]
          rfl
      | false =>
          have inside : ¬ ((s.step : Int) - ((0 : Nat) : Int) < 0 ∧
              s.max ≤ -((s.step : Int) - ((0 : Nat) : Int))) := by
            omega
          simp only [Bool.false_eq_true, if_false, zero, inside]
          rfl
  | true =>
      rcases inOrder with unstarted | rfl
      · cases started.symm.trans unstarted
      · simp only [if_true, started]
        rfl

theorem slotFor_gap {s : Sequencer} {m high gap : Nat} (max : s.max = m) (lt : s.step < m)
    (started : s.init = true) (head : s.headSn = UInt16.ofNat high) (small : gap < 65536) :
    s.slotFor (UInt16.ofNat (high + gap)) = (s.step + (gap - 1)) % m := by
  rw [slotFor, if_pos started, head, ofNat_sub16 (Nat.le_add_right _ _), Nat.add_sub_cancel_left, toNat_ofNat16,
    Nat.mod_eq_of_lt small, max, bump_iterate _ lt]

variable {m : Nat}

theorem push_first (nacked : List UInt16) {s : Sequencer} (max : s.max = m) (lt : s.step < m)
    (unstarted : s.init = false) (t : Nat) (sn : UInt16) (timestamp : UInt32) (layer : UInt8) (head : Bool) :
    (s.push sn (UInt16.ofNat t) timestamp layer head).1.Holds m t
      (Function.update (fun _ => none) t (some (entryOf sn (UInt16.ofNat t) timestamp layer))) nacked := by
  have slot : s.slotFor (UInt16.ofNat t) = s.step := by rw [slotFor, unstarted]; rfl
  rw [push_stores (m := m) max (by rw [slot]; exact lt) (Or.inl unstarted), slot]
  have only : ∀ {t' : Nat} {e : PacketMeta},
      Function.update (fun _ => none) t (some (entryOf sn (UInt16.ofNat t) timestamp layer)) t' = some e →
        t' = t ∧ e = entryOf sn (UInt16.ofNat t) timestamp layer := by
    intro t' e known
    by_cases same : t' = t
    · rw [same, Function.update_self] at known
      exact ⟨same, (Option.some.inj known).symm⟩
    · rw [Function.update_of_ne same] at known
      cases known
  refine ⟨max, Nat.mod_lt _ (by omega), rfl, rfl, fun t' e known => ?_, fun t' e known => ?_, fun t' e known _ => ?_⟩
  · obtain ⟨rfl, rfl⟩ := only known
    exact ⟨rfl, rfl⟩
  · exact (only known).1.le
  · obtain ⟨rfl, rfl⟩ := only known
    refine ⟨entryOf sn (UInt16.ofNat t') timestamp layer, ?_, rfl, fun _ => rfl⟩
    rw [Nat.sub_self, slotBack_newest lt]
    exact Function.update_self ..

theorem push_head {s : Sequencer} {high : Nat} {pushed : Nat → Option PacketMeta} {nacked : List UInt16}
    (gap : Nat) (inv : s.Holds m high pushed nacked) (forward : 0 < gap) (small : gap < 65536) (sn : UInt16)
    (timestamp : UInt32) (layer : UInt8) :
    (s.push sn (UInt16.ofNat (high + gap)) timestamp layer true).1.Holds m (high + gap)
      (Function.update pushed (high + gap)
        (some (entryOf sn (UInt16.ofNat (high + gap)) timestamp layer))) nacked := by
  have lt := inv.step_lt
  have slot := slotFor_gap inv.max lt inv.started inv.head small
  have slot_lt : (s.step + (gap - 1)) % m < m := Nat.mod_lt _ (by omega)
  rw [push_stores (m := m) inv.max (by rw [slot]; exact slot_lt) (Or.inr rfl), slot]
  refine ⟨inv.max, Nat.mod_lt _ (by omega), rfl, rfl, fun t e known => ?_, fun t e known => ?_,
    fun t e known near => ?_⟩
  all_goals by_cases same : t = high + gap
  · rw [same, Function.update_self] at known
    cases known
    exact ⟨same ▸ rfl, rfl⟩
  · rw [Function.update_of_ne same] at known
    exact inv.target t e known
  · exact same.le
  · rw [Function.update_of_ne same] at known
    exact le_trans (inv.below t e known) (Nat.le_add_right _ _)
  · subst same
    rw [Function.update_self] at known
    cases known
    refine ⟨entryOf sn (UInt16.ofNat (high + gap)) timestamp layer, ?_, rfl, fun _ => rfl⟩
    rw [Nat.sub_self, slotBack_newest slot_lt]
    exact Function.update_self ..
  · rw [Function.update_of_ne same] at known
    have le := inv.below t e known
    obtain ⟨e', held, clear, unanswered⟩ := inv.holds t e known (by omega)
    obtain ⟨back, apart⟩ := slotBack_ahead s.step (high - t) forward (by omega : high - t + gap < m)
    have age : high + gap - t = high - t + gap := by omega
    refine ⟨e', ?_, clear, unanswered⟩
    rw [age, back]
    exact (Function.update_of_ne (Int.natCast_inj.not.mpr apart) _ _).trans held

/-- The answer of a push is the entry it stored when the slot behind it is still empty. -/
theorem push_answers {s : Sequencer} {head : Bool} {sn offSn : UInt16} {timestamp : UInt32} {layer : UInt8}
    {r : PacketMeta} (max : s.max = m) (lt : s.slotFor offSn < m) (inOrder : s.init = false ∨ head = true)
    (free : m = 1 ∨ s.seq ((s.slotFor offSn + 1) % m : Nat) = none)
    (answer : (s.push sn offSn timestamp layer head).2 = some r) : r = entryOf sn offSn timestamp layer := by
  rw [push_stores max lt inOrder] at answer
  simp only at answer
  by_cases same : (s.slotFor offSn + 1) % m = s.slotFor offSn
  · rw [same, Function.update_self] at answer
    exact (Option.some.inj answer).symm
  · rw [Function.update_of_ne (by exact_mod_cast same)] at answer
    rcases free with rfl | empty
    · omega
    · cases answer.symm.trans empty

end Sequencer

/-- One packet handed to the sequencer under the true number it leaves with. -/
structure Pushed where
  target : Nat
  source : UInt16
  timestamp : UInt32
  layer : UInt8
  head : Bool

def Pushed.entry (p : Pushed) : PacketMeta :=
  Sequencer.entryOf p.source (UInt16.ofNat p.target) p.timestamp p.layer

inductive SequencerOp where
  | push (p : Pushed)
  | nack (now : Nat) (sns : List UInt16)

/-- What a push answered, the entry it stored, and whether the slot behind that
entry was still empty. -/
structure Answer where
  returned : Option PacketMeta
  stored : PacketMeta
  free : Prop

/-- A sequencer with the history of its pushes and NACKs. -/
structure Sequencing where
  sequencer : Sequencer
  high : Option Nat := none
  pushed : Nat → Option PacketMeta := fun _ => none
  nacked : List UInt16 := []
  answers : List Answer := []

namespace Sequencing

/-- The ring has one slot, or has not come round to the slot behind the one written next. -/
def Free (s : Sequencer) (offSn : UInt16) : Prop := s.max = 1 ∨ s.seq (bump s.max (s.slotFor offSn)) = none

def step (g : Sequencing) : SequencerOp → Option Sequencing
  | .push p =>
      let outcome := g.sequencer.push p.source (UInt16.ofNat p.target) p.timestamp p.layer p.head
      some {
        sequencer := outcome.1
        high := if p.head ∨ g.high = none then some p.target else g.high
        pushed := Function.update g.pushed p.target (some p.entry)
        nacked := g.nacked
        answers := g.answers ++ [⟨outcome.2, p.entry, Free g.sequencer (UInt16.ofNat p.target)⟩] }
  | .nack now sns =>
      (g.sequencer.getSeqNoPairs now sns).map fun outcome =>
        { g with sequencer := outcome.1, nacked := g.nacked ++ sns }

/-- Head packets move forward by less than half a cycle; late ones are less than
`max` behind the head. -/
def Valid (g : Sequencing) : SequencerOp → Prop
  | .push p => ∀ high, g.high = some high →
      if p.head then high < p.target ∧ p.target < high + 32768
      else p.target < high ∧ high < p.target + g.sequencer.max.toNat ∧ high < p.target + 65536
  | .nack _ _ => True

/-- Only the first packet may be other than a head packet. -/
def HeadsOnly (g : Sequencing) : SequencerOp → Prop
  | .push p => g.high = none ∨ p.head = true
  | .nack _ _ => True

/-- A number of the window that was pushed and not asked for since. -/
structure Answerable (g : Sequencing) (t : Nat) (e : PacketMeta) (high : Nat) : Prop where
  known : g.pushed t = some e
  head : g.high = some high
  window : high < t + g.sequencer.max.toNat
  cycle : high < t + 65536
  fresh : UInt16.ofNat t ∉ g.nacked

/-- The lookup answers with the one entry of that number. -/
def Answers (g : Sequencing) (t : Nat) (e : PacketMeta) : Prop :=
  ∀ now, ∃ s refTime, g.sequencer.getSeqNoPairs now [UInt16.ofNat t] = some (s, [{ e with lastNack := refTime }])

def Tracks (m : Nat) (g : Sequencing) : Prop :=
  g.sequencer.max = m ∧ g.sequencer.step < m ∧
    match g.high with
    | none => g.sequencer.init = false ∧ g.pushed = fun _ => none
    | some high => g.sequencer.Holds m high g.pushed g.nacked

theorem getSeqNoPairs_tracks {m high now : Nat} {s s' : Sequencer} {pushed : Nat → Option PacketMeta}
    {nacked sns : List UInt16} {found : List PacketMeta} (inv : s.Holds m high pushed nacked)
    (h : s.getSeqNoPairs now sns = some (s', found)) : s'.Holds m high pushed (nacked ++ sns) := by
  obtain ⟨⟨init, max, step, head⟩, keep⟩ := Sequencer.lookupAll_frame h
  refine ⟨max.trans inv.max, by rw [step]; exact inv.step_lt, init.trans inv.started, head.trans inv.head,
    inv.target, inv.below, fun t e known near => ?_⟩
  obtain ⟨e₁, held₁, clear₁, unanswered⟩ := inv.holds t e known near
  obtain ⟨e₂, held₂, clear₂, same⟩ := keep _ e₁ held₁
  rw [step]
  refine ⟨e₂, held₂, clear₂.trans clear₁, fun fresh => ?_⟩
  obtain ⟨before, now⟩ := not_or.mp (List.mem_append.not.mp fresh)
  have target : e₁.targetSeqNo = UInt16.ofNat t := by
    rw [← (inv.target t e known).1, ← clear₁]
    rfl
  rw [same (target ▸ now)]
  exact unanswered before

theorem step_tracks {m : Nat} {g g' : Sequencing} {op : SequencerOp} (valid : g.Valid op)
    (inOrder : g.HeadsOnly op) (inv : g.Tracks m) (h : g.step op = some g') : g'.Tracks m := by
  obtain ⟨max, lt, inv⟩ := inv
  cases op with
  | push p =>
      cases h
      unfold Tracks
      cases before : g.high with
      | none =>
          rw [before] at inv
          obtain ⟨unstarted, nothing⟩ := inv
          have holds := Sequencer.push_first g.nacked max lt unstarted p.target p.source p.timestamp
            p.layer p.head
          simp only [or_true, if_true, nothing]
          exact ⟨holds.max, holds.step_lt, holds⟩
      | some high =>
          rw [before] at inv
          have head : p.head = true := inOrder.resolve_left (by rw [before]; exact Option.some_ne_none high)
          have forward := valid high before
          rw [if_pos head] at forward
          obtain ⟨gap, target⟩ := Nat.exists_eq_add_of_lt forward.1
          have holds := Sequencer.push_head (gap + 1) inv (by omega) (by omega) p.source p.timestamp p.layer
          rw [← Nat.add_assoc, ← target] at holds
          simp only [head, true_or, if_true]
          exact ⟨holds.max, holds.step_lt, holds⟩
  | nack now sns =>
      obtain ⟨⟨s', found⟩, looked, rfl⟩ := Option.map_eq_some_iff.mp h
      obtain ⟨⟨init, max', step, -⟩, -⟩ := Sequencer.lookupAll_frame looked
      refine ⟨max'.trans max, by rw [step]; exact lt, ?_⟩
      cases before : g.high with
      | none =>
          rw [before] at inv
          exact ⟨init.trans inv.1, inv.2⟩
      | some high =>
          rw [before] at inv
          exact getSeqNoPairs_tracks inv looked

/-- Every push that found the slot behind it empty answered with the entry it stored. -/
def AnswersOwn (g : Sequencing) : Prop :=
  ∀ a ∈ g.answers, a.free → ∀ r, a.returned = some r → r = a.stored

theorem step_answers {m : Nat} {g g' : Sequencing} {op : SequencerOp} (inOrder : g.HeadsOnly op)
    (tracks : g.Tracks m) (inv : g.AnswersOwn) (h : g.step op = some g') : g'.AnswersOwn := by
  obtain ⟨max, lt, state⟩ := tracks
  cases op with
  | nack now sns =>
      obtain ⟨outcome, -, rfl⟩ := Option.map_eq_some_iff.mp h
      exact inv
  | push p =>
      cases h
      intro a among free r returned
      rcases List.mem_append.mp among with old | new
      · exact inv a old free r returned
      · rw [List.mem_singleton.mp new] at free returned ⊢
        have slot_lt : g.sequencer.slotFor (UInt16.ofNat p.target) < m := by
          unfold Sequencer.slotFor
          split
          · exact bump_iterate_lt (by rw [max]) _ lt
          · exact lt
        have started : g.sequencer.init = false ∨ p.head = true := by
          refine inOrder.imp_left fun none => ?_
          rw [none] at state
          exact state.1
        refine Sequencer.push_answers max slot_lt started ?_ returned
        rcases free with one | empty
        · exact Or.inl (by omega)
        · rw [max, bump_natCast slot_lt] at empty
          exact Or.inr empty

/-- A new sequencer of `max` slots. -/
def start (max startTime : Nat) : Sequencing where
  sequencer := .new max startTime

def Orderly (g : Sequencing) (op : SequencerOp) : Prop := g.Valid op ∧ g.HeadsOnly op

theorem run_answers {max startTime : Nat} {ops : List SequencerOp} {g : Sequencing} (pos : 1 ≤ max)
    (guarded : Guarded step Orderly (start max startTime) ops)
    (reached : run step (start max startTime) ops = some g) :
    (∀ t e high, g.Answerable t e high → g.sequencer.step ≠ 0 ∨ high + 1 ≠ t + g.sequencer.max.toNat →
      g.Answers t e) ∧ g.AnswersOwn := by
  have inv : g.Tracks max ∧ g.AnswersOwn := by
    refine run_invariant (fun g => g.Tracks max ∧ g.AnswersOwn) ?_ ?_ guarded reached
    · intro g op g' inv orderly h
      exact ⟨step_tracks orderly.1 orderly.2 inv.1 h, step_answers orderly.2 inv.1 inv.2 h⟩
    · exact ⟨⟨rfl, pos, rfl, rfl⟩, fun a among => (nomatch among)⟩
  refine ⟨fun t e high asked clear now => ?_, inv.2⟩
  obtain ⟨steps, -, holds⟩ := inv.1
  rw [asked.head] at holds
  have window := asked.window
  rw [steps, Int.toNat_natCast] at window clear
  obtain ⟨s', found⟩ := holds.lookup asked.known window asked.cycle asked.fresh clear
    (subU128 now g.sequencer.startTime)
  refine ⟨s', subU128 now g.sequencer.startTime, ?_⟩
  simp only [Sequencer.getSeqNoPairs, Sequencer.lookupAll, found, Option.bind_eq_bind, Option.bind_some,
    List.append_nil, pure]

def headPush (target : Nat) : SequencerOp := .push ⟨target, UInt16.ofNat target, 0, 0, true⟩

def latePush (target : Nat) : SequencerOp := .push ⟨target, UInt16.ofNat target, 0, 0, false⟩

theorem run_answers_two :
    ∃ g, run step (start 4 0) [headPush 10, headPush 12] = some g ∧
      (∀ t e high, g.Answerable t e high → g.sequencer.step ≠ 0 ∨ high + 1 ≠ t + g.sequencer.max.toNat →
        g.Answers t e) ∧ g.AnswersOwn := by
  obtain ⟨g, reached⟩ : ∃ g, run step (start 4 0) [headPush 10, headPush 12] = some g := ⟨_, rfl⟩
  refine ⟨g, reached, run_answers (by decide) ?_ reached⟩
  refine ⟨⟨fun high none => (nomatch none), Or.inr rfl⟩, fun g₁ first => ?_⟩
  cases first
  refine ⟨⟨fun high found => ?_, Or.inr rfl⟩, fun g₂ second => trivial⟩
  cases found
  decide

/-- The lookup answers for every number of the window, and each push with its own entry. -/
def AnswersExactly (g : Sequencing) : Prop :=
  (∀ t e high, g.Answerable t e high → g.Answers t e) ∧
    ∀ a ∈ g.answers, ∀ r, a.returned = some r → r = a.stored

def lateOps : List SequencerOp := [headPush 10, headPush 12, latePush 11]

/-- A late packet is stored in the slot of the next head packet, and a lookup of
its number finds nothing. -/
theorem late_push_misplaced :
    Guarded step Valid (start 4 0) lateOps ∧
    ∃ g, run step (start 4 0) lateOps = some g ∧ ¬ g.AnswersExactly := by
  refine ⟨?_, _, rfl, fun exactly => ?_⟩
  · refine ⟨fun high none => (nomatch none), fun g₁ first => ?_⟩
    cases first
    refine ⟨fun high found => ?_, fun g₂ second => ?_⟩
    · cases found
      decide
    · cases second
      refine ⟨fun high found => ?_, fun g₃ third => trivial⟩
      cases found
      decide
  · obtain ⟨s, refTime, found⟩ := exactly.1 11 _ 12 ⟨rfl, rfl, by decide, by decide, by decide⟩ 0
    have nothing : ((run step (start 4 0) lateOps).bind fun g =>
        (g.sequencer.getSeqNoPairs 0 [UInt16.ofNat 11]).map Prod.snd) = some [] := by decide +kernel
    have one := nothing.symm.trans (congrArg (Option.map Prod.snd) found)
    exact nomatch Option.some.inj one

end Sequencing

end Rsfu
