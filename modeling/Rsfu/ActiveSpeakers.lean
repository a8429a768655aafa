import Rsfu.AudioObserver
import Rsfu.GuardedRun
import Mathlib.Data.List.Pairwise
import Mathlib.Algebra.GroupWithZero.Nat

/-! Runs of an audio observer, against the levels observed in them. A client is told of every
change of the list of active speakers; among streams with as many levels the quieter
comes first. -/
namespace Rsfu
open GuardedRun

inductive ObserverOp where
  | addStream (streamId : String)
  | removeStream (streamId : String)
  | observe (streamId : String) (dBov : UInt8)
  | calcLevels
  deriving DecidableEq

/-! What a run has done so far, latest operation first. -/
namespace ObserverOp

def present (id : String) : List ObserverOp → Bool
  | [] => false
  | .addStream streamId :: rest => streamId = id || present id rest
  | .removeStream streamId :: rest => streamId ≠ id && present id rest
  | _ :: rest => present id rest

/-- The levels of a stream at or below the threshold, since the stream was added or the last `calc`. -/
def levels (threshold : UInt8) (id : String) : List ObserverOp → List Nat
  | [] => []
  | .calcLevels :: _ => []
  | .addStream streamId :: rest => if streamId = id then [] else levels threshold id rest
  | .removeStream _ :: rest => levels threshold id rest
  | .observe streamId dBov :: rest =>
      if streamId = id ∧ dBov ≤ threshold then dBov.toNat :: levels threshold id rest else levels threshold id rest

/-- The observations since the last `calc`, of any stream. -/
def observed : List ObserverOp → Nat
  | [] => 0
  | .calcLevels :: _ => 0
  | .observe _ _ :: rest => observed rest + 1
  | _ :: rest => observed rest

theorem levels_length_le (threshold : UInt8) (id : String) (history : List ObserverOp) :
    (levels threshold id history).length ≤ observed history := by
  induction history with
  | nil => exact Nat.le_refl 0
  | cons op rest ih =>
      cases op with
      | addStream streamId =>
          unfold levels
          split
          · exact Nat.zero_le _
          · exact ih
      | removeStream streamId => exact ih
      | observe streamId dBov =>
          unfold levels observed
          split
          · exact Nat.succ_le_succ ih
          · exact Nat.le_succ_of_le ih
      | calcLevels => exact Nat.le_refl 0

theorem levels_sum_le (threshold : UInt8) (id : String) (history : List ObserverOp) :
    (levels threshold id history).sum ≤ threshold.toNat * (levels threshold id history).length := by
  induction history with
  | nil => exact Nat.zero_le _
  | cons op rest ih =>
      cases op with
      | addStream streamId =>
          unfold levels
          split
          · exact Nat.zero_le _
          · exact ih
      | removeStream streamId => exact ih
      | observe streamId dBov =>
          unfold levels
          split
          next counts =>
              have level := UInt8.le_iff_toNat_le.mp counts.2
              rw [List.sum_cons, List.length_cons, Nat.mul_succ]
              omega
          · exact ih
      | calcLevels => exact Nat.zero_le _

end ObserverOp

open ObserverOp

/-- An observer with the operations so far, the list of the last `calc`, and the last list
that a client was told of. -/
structure ObserverRun where
  observer : AudioObserver
  history : List ObserverOp := []
  latest : List String := []
  client : List String := []
  deriving DecidableEq

namespace ObserverRun

def start (thresholdParameter : UInt8) (intervalParameter filterParameter : Int) : ObserverRun :=
  { observer := .new thresholdParameter intervalParameter filterParameter }

/-- A stream is added while none of its id is there. -/
def step (checks : Bool) (g : ObserverRun) (op : ObserverOp) : Option ObserverRun :=
  match op with
  | .addStream id =>
      if present id g.history then none
      else some { g with observer := g.observer.addStream id, history := op :: g.history }
  | .removeStream id => some { g with observer := g.observer.removeStream id, history := op :: g.history }
  | .observe id dBov => (g.observer.observe checks id dBov).map fun observer =>
      { g with observer, history := op :: g.history }
  | .calcLevels => some {
      observer := g.observer.calcLevels.1
      history := op :: g.history
      latest := g.observer.streamIds
      client := g.observer.calcLevels.2.getD g.client }

def levels (g : ObserverRun) (id : String) : List Nat := ObserverOp.levels g.observer.threshold id g.history

/-- What a `calc` in this state does. -/
structure Notifies (g : ObserverRun) : Prop where
  lists : ∀ id, id ∈ g.observer.streamIds ↔
    present id g.history = true ∧ g.observer.expected ≤ (g.levels id).length
  distinct : g.observer.streamIds.Nodup
  ordered : g.observer.streamIds.Sublist (g.observer.calcLevels.1.streams.map AudioStream.id)
  answer : g.observer.calcLevels.2 = if g.observer.streamIds = g.latest then none else some g.observer.streamIds
  reset : ∀ stream ∈ g.observer.calcLevels.1.streams, stream.total = 0 ∧ stream.sum = 0
  client : g.observer.calcLevels.2.getD g.client = g.observer.streamIds

/-- An observation returns, and a `calc` does what it is to. -/
def Right (checks : Bool) (g : ObserverRun) : ObserverOp → Prop
  | .observe id dBov => (g.observer.observe checks id dBov).isSome = true
  | .calcLevels => g.Notifies
  | _ => True

/-- There are fewer than 2^24 observations between two calls of `calc`. -/
def Few (g : ObserverRun) : ObserverOp → Prop
  | .observe _ _ => observed g.history + 1 < 16777216
  | _ => True

/-- The counters of a stream hold its levels, up to overflow, and exactly in a build with overflow checks. -/
def Tracks (checks : Bool) (levels : List Nat) (stream : AudioStream) : Prop :=
  (stream.total = wrapI32 levels.length ∧ stream.sum = wrapI32 levels.sum) ∧
    (checks = true → levels.length < 2147483648 ∧ levels.sum < 2147483648)

structure Counted (checks : Bool) (g : ObserverRun) : Prop where
  nodup : (g.observer.streams.map AudioStream.id).Nodup
  present : ∀ id, id ∈ g.observer.streams.map AudioStream.id ↔ present id g.history = true
  tracks : ∀ stream ∈ g.observer.streams, Tracks checks (g.levels stream.id) stream
  threshold : g.observer.threshold.toNat ≤ 127
  previous : g.observer.previous = g.latest
  client : g.client = g.latest

theorem tracks_none {checks : Bool} {stream : AudioStream} (total : stream.total = 0) (sum : stream.sum = 0) :
    Tracks checks [] stream :=
  ⟨⟨total, sum⟩, fun _ => ⟨Nat.zero_lt_succ _, Nat.zero_lt_succ _⟩⟩

theorem Tracks.note {checks : Bool} {levels : List Nat} {stream stream' : AudioStream} {dBov : UInt8}
    (tracks : Tracks checks levels stream) (h : stream.note checks dBov = some stream') :
    stream'.id = stream.id ∧ Tracks checks (dBov.toNat :: levels) stream' := by
  obtain ⟨⟨total_eq, sum_eq⟩, fits⟩ := tracks
  obtain ⟨sum, summed, h⟩ := Option.bind_eq_some_iff.mp h
  obtain ⟨total, counted, rfl⟩ := Option.map_eq_some_iff.mp h
  obtain ⟨sum_is, sum_fits⟩ := addI32_eq_some summed
  obtain ⟨total_is, total_fits⟩ := addI32_eq_some counted
  refine ⟨rfl, ⟨?_, ?_⟩, fun checked => ?_⟩
  · rw [List.length_cons, Int.natCast_add, ← wrapI32_add, ← total_eq]
    exact total_is
  · rw [List.sum_cons, Nat.add_comm, Int.natCast_add, ← wrapI32_add, ← sum_eq]
    exact sum_is
  · obtain ⟨length, sum⟩ := fits checked
    have sum_range := sum_fits checked
    have total_range := total_fits checked
    rw [sum_eq, wrapI32_of_lt (by omega) (by omega)] at sum_range
    rw [total_eq, wrapI32_of_lt (by omega) (by omega)] at total_range
    rw [List.length_cons, List.sum_cons]
    omega

theorem observeStreams_spec {checks : Bool} {threshold dBov : UInt8} {id : String}
    {streams streams' : List AudioStream} (nodup : (streams.map AudioStream.id).Nodup)
    (h : AudioObserver.observeStreams checks threshold id dBov streams = some streams') :
    streams'.map AudioStream.id = streams.map AudioStream.id ∧
      ∀ s' ∈ streams', ∃ s ∈ streams, s.id = s'.id ∧
        if id = s.id ∧ dBov ≤ threshold then s.note checks dBov = some s' else s' = s := by
  induction streams generalizing streams' with
  | nil =>
      cases h
      exact ⟨rfl, nofun⟩
  | cons stream rest ih =>
      obtain ⟨fresh, later⟩ := List.nodup_cons.mp nodup
      -- behind the first stream of the id there is none
      have others (here : stream.id = id) : ∀ s' ∈ rest, ∃ s ∈ stream :: rest, s.id = s'.id ∧
          if id = s.id ∧ dBov ≤ threshold then s.note checks dBov = some s' else s' = s := by
        intro s' mem
        refine ⟨s', List.mem_cons_of_mem stream mem, rfl, ?_⟩
        rw [if_neg]
        rintro ⟨same, -⟩
        exact fresh (here.trans same ▸ List.mem_map_of_mem mem)
      unfold AudioObserver.observeStreams at h
      split at h
      next here =>
          split at h
          next quiet =>
              obtain ⟨noted, note, rfl⟩ := Option.map_eq_some_iff.mp h
              have same : noted.id = stream.id := by
                obtain ⟨sum, -, h⟩ := Option.bind_eq_some_iff.mp note
                obtain ⟨total, -, rfl⟩ := Option.map_eq_some_iff.mp h
                rfl
              refine ⟨by rw [List.map_cons, List.map_cons, same], fun s' mem => ?_⟩
              rcases List.mem_cons.mp mem with rfl | behind
              · exact ⟨stream, List.mem_cons_self, same.symm, by rwa [if_pos ⟨here.symm, quiet⟩]⟩
              · exact others here s' behind
          next loud =>
              cases h
              refine ⟨rfl, fun s' mem => ?_⟩
              rcases List.mem_cons.mp mem with rfl | behind
              · exact ⟨s', List.mem_cons_self, rfl, by rw [if_neg fun both => loud both.2]⟩
              · exact others here s' behind
      next elsewhere =>
          obtain ⟨rest', observed, rfl⟩ := Option.map_eq_some_iff.mp h
          obtain ⟨ids, each⟩ := ih later observed
          refine ⟨by rw [List.map_cons, List.map_cons, ids], fun s' mem => ?_⟩
          rcases List.mem_cons.mp mem with rfl | behind
          · exact ⟨s', List.mem_cons_self, rfl, by rw [if_neg fun both => elsewhere both.1.symm]⟩
          · obtain ⟨s, mem', rest⟩ := each s' behind
            exact ⟨s, List.mem_cons_of_mem stream mem', rest⟩

variable {checks : Bool} {g g' : ObserverRun}

theorem counted_start (thresholdParameter : UInt8) (intervalParameter filterParameter : Int) :
    Counted checks (start thresholdParameter intervalParameter filterParameter) := by
  refine ⟨List.nodup_nil, fun _ => iff_of_false List.not_mem_nil Bool.false_ne_true, nofun, ?_, rfl, rfl⟩
  change (if thresholdParameter > 127 then (127 : UInt8) else thresholdParameter).toNat ≤ 127
  split
  · decide
  next small =>
      have le := UInt8.le_iff_toNat_le.mp (UInt8.not_lt.mp small)
      exact le

theorem Counted.addStream {id : String} (counted : Counted checks g)
    (h : g.step checks (.addStream id) = some g') : Counted checks g' := by
  dsimp only [step] at h
  split at h
  · cases h
  next absent =>
      cases h
      have new : id ∉ g.observer.streams.map AudioStream.id := fun mem => absent ((counted.present id).mp mem)
      refine ⟨?_, fun id' => ?_, fun stream mem => ?_, counted.threshold, counted.previous, counted.client⟩
      · unfold AudioObserver.addStream
        rw [List.map_append]
        refine List.nodup_append.mpr ⟨counted.nodup, List.pairwise_singleton _ _, ?_⟩
        rintro a mem _ single rfl
        have same : a = id := List.mem_singleton.mp single
        exact new (same ▸ mem)
      · unfold AudioObserver.addStream ObserverOp.present
        rw [List.map_append, List.mem_append, counted.present id', Bool.or_eq_true, decide_eq_true_eq, or_comm]
        exact or_congr_left (List.mem_singleton.trans eq_comm)
      · unfold levels ObserverOp.levels
        rcases List.mem_append.mp mem with old | single
        · have differ : id ≠ stream.id := by
            rintro rfl
            exact new (List.mem_map_of_mem old)
          rw [if_neg differ]
          exact counted.tracks stream old
        · rw [List.mem_singleton.mp single, if_pos rfl]
          exact tracks_none rfl rfl

theorem Counted.removeStream {id : String} (counted : Counted checks g)
    (h : g.step checks (.removeStream id) = some g') : Counted checks g' := by
  cases h
  refine ⟨?_, fun id' => ?_, fun stream mem => counted.tracks stream (List.mem_filter.mp mem).1, counted.threshold,
    counted.previous, counted.client⟩
  · exact counted.nodup.sublist (List.filter_sublist.map AudioStream.id)
  · unfold AudioObserver.removeStream ObserverOp.present
    rw [Bool.and_eq_true, decide_eq_true_eq, ← counted.present id', List.mem_map, List.mem_map]
    constructor
    · rintro ⟨stream, mem, rfl⟩
      obtain ⟨old, kept⟩ := List.mem_filter.mp mem
      exact ⟨Ne.symm (of_decide_eq_true kept), stream, old, rfl⟩
    · rintro ⟨differ, stream, old, rfl⟩
      exact ⟨stream, List.mem_filter.mpr ⟨old, decide_eq_true (Ne.symm differ)⟩, rfl⟩

theorem Counted.observe {id : String} {dBov : UInt8} (counted : Counted checks g)
    (h : g.step checks (.observe id dBov) = some g') : Counted checks g' := by
  obtain ⟨observer, observed, rfl⟩ := Option.map_eq_some_iff.mp h
  obtain ⟨streams, each, rfl⟩ := Option.map_eq_some_iff.mp observed
  obtain ⟨ids, origin⟩ := observeStreams_spec counted.nodup each
  refine ⟨ids ▸ counted.nodup, fun id' => ?_, fun stream mem => ?_, counted.threshold, counted.previous,
    counted.client⟩
  · dsimp only
    rw [ids]
    exact counted.present id'
  · obtain ⟨old, mem', same, moved⟩ := origin stream mem
    have tracks := counted.tracks old mem'
    unfold levels ObserverOp.levels
    rw [← same]
    split at moved
    next counts =>
        rw [if_pos counts]
        exact (tracks.note moved).2
    next other =>
        rw [if_neg other, moved]
        exact tracks

theorem Counted.calcLevels (counted : Counted checks g) (h : g.step checks .calcLevels = some g') :
    Counted checks g' := by
  cases h
  rw [AudioObserver.calcLevels_eq]
  have ids : (g.observer.sorted.map AudioStream.reset).map AudioStream.id = g.observer.sorted.map AudioStream.id :=
    List.map_map
  have perm := g.observer.sorted_perm.map AudioStream.id
  refine ⟨?_, fun id => ?_, fun stream mem => ?_, counted.threshold, rfl, ?_⟩
  · dsimp only
    rw [ids]
    exact perm.nodup_iff.mpr counted.nodup
  · dsimp only
    rw [ids]
    exact perm.mem_iff.trans (counted.present id)
  · obtain ⟨old, -, rfl⟩ := List.mem_map.mp mem
    exact tracks_none rfl rfl
  · dsimp only
    split
    next same => exact counted.client.trans (counted.previous.symm.trans same)
    · rfl

theorem step_counted {op : ObserverOp} (counted : Counted checks g) (h : g.step checks op = some g') :
    Counted checks g' := by
  cases op with
  | addStream id => exact counted.addStream h
  | removeStream id => exact counted.removeStream h
  | observe id dBov => exact counted.observe h
  | calcLevels => exact counted.calcLevels h

/-- No counter of a stream has left its range. -/
def InRange (g : ObserverRun) : Prop :=
  ∀ id, present id g.history = true → (g.levels id).length < 2147483648 ∧ (g.levels id).sum < 2147483648

theorem Counted.inRange (counted : Counted checks g) (few : observed g.history < 16777216) : g.InRange := by
  intro id _
  have length := levels_length_le g.observer.threshold id g.history
  have sum := levels_sum_le g.observer.threshold id g.history
  have product : g.observer.threshold.toNat * (g.levels id).length ≤ 127 * (g.levels id).length :=
    Nat.mul_le_mul_right _ counted.threshold
  unfold levels at product ⊢
  omega

/-- In range, and in a build with overflow checks, the counters are exact. -/
theorem Counted.exact (counted : Counted checks g) (fits : checks = true ∨ g.InRange) {stream : AudioStream}
    (mem : stream ∈ g.observer.streams) :
    stream.total = (g.levels stream.id).length ∧ stream.sum = (g.levels stream.id).sum := by
  obtain ⟨⟨total, sum⟩, checked⟩ := counted.tracks stream mem
  have there := (counted.present stream.id).mp (List.mem_map_of_mem mem)
  have range := fits.elim checked fun inRange => inRange stream.id there
  rw [total, sum, wrapI32_of_lt (by omega) (by omega), wrapI32_of_lt (by omega) (by omega)]
  exact ⟨rfl, rfl⟩

/-- The streams the next `calc` lists. -/
def Listed (g : ObserverRun) (id : String) : Prop :=
  present id g.history = true ∧ g.observer.expected ≤ (g.levels id).length

theorem Counted.mem_streamIds (counted : Counted checks g) (fits : checks = true ∨ g.InRange) (id : String) :
    id ∈ g.observer.streamIds ↔ g.Listed id := by
  unfold AudioObserver.streamIds Listed
  rw [List.mem_map, ← counted.present id, List.mem_map]
  constructor
  · rintro ⟨stream, mem, rfl⟩
    obtain ⟨there, enough⟩ := List.mem_filter.mp mem
    have mem' := g.observer.sorted_perm.mem_iff.mp there
    exact ⟨⟨stream, mem', rfl⟩, (counted.exact fits mem').1 ▸ of_decide_eq_true enough⟩
  · rintro ⟨⟨stream, mem, rfl⟩, enough⟩
    refine ⟨stream, List.mem_filter.mpr ⟨g.observer.sorted_perm.mem_iff.mpr mem, decide_eq_true ?_⟩, rfl⟩
    rw [(counted.exact fits mem).1]
    exact enough

theorem streamIds_sublist (g : ObserverRun) :
    g.observer.streamIds.Sublist (g.observer.sorted.map AudioStream.id) :=
  List.filter_sublist.map AudioStream.id

theorem Counted.notifies (counted : Counted checks g) (few : observed g.history < 16777216) : g.Notifies := by
  have eq := g.observer.calcLevels_eq
  refine ⟨fun id => counted.mem_streamIds (Or.inr (counted.inRange few)) id, ?_, ?_, ?_, ?_, ?_⟩
  · refine List.Nodup.sublist g.streamIds_sublist ?_
    exact (g.observer.sorted_perm.map AudioStream.id).nodup_iff.mpr counted.nodup
  · rw [eq]
    dsimp only
    rw [List.map_map]
    exact g.streamIds_sublist
  · rw [eq, counted.previous]
    exact if_congr eq_comm rfl rfl
  · rw [eq]
    intro stream mem
    obtain ⟨old, -, rfl⟩ := List.mem_map.mp mem
    exact ⟨rfl, rfl⟩
  · rw [eq, counted.previous, counted.client]
    dsimp only
    split
    next same => exact same
    · rfl

theorem observeStreams_isSome {threshold dBov : UInt8} {id : String} {streams : List AudioStream}
    (notes : ∀ stream ∈ streams, dBov ≤ threshold → (stream.note checks dBov).isSome = true) :
    (AudioObserver.observeStreams checks threshold id dBov streams).isSome = true := by
  induction streams with
  | nil => rfl
  | cons stream rest ih =>
      obtain ⟨first, later⟩ := List.forall_mem_cons.mp notes
      unfold AudioObserver.observeStreams
      split
      · split
        next quiet =>
            rw [Option.isSome_map]
            exact first quiet
        · rfl
      · rw [Option.isSome_map]
        exact ih later

theorem Counted.observe_isSome (counted : Counted checks g) {id : String} {dBov : UInt8}
    (few : observed g.history + 1 < 16777216) : (g.observer.observe checks id dBov).isSome = true := by
  unfold AudioObserver.observe
  rw [Option.isSome_map]
  refine observeStreams_isSome fun stream mem quiet => ?_
  obtain ⟨total, sum⟩ := counted.exact (Or.inr (counted.inRange (by omega))) mem
  have length := levels_length_le g.observer.threshold stream.id g.history
  have bound := levels_sum_le g.observer.threshold stream.id g.history
  have product : g.observer.threshold.toNat * (g.levels stream.id).length ≤ 127 * (g.levels stream.id).length :=
    Nat.mul_le_mul_right _ counted.threshold
  have level := UInt8.le_iff_toNat_le.mp quiet
  have threshold := counted.threshold
  unfold levels at total sum product
  unfold AudioStream.note
  rw [addI32_of_lt (by omega) (by omega), addI32_of_lt (by omega) (by omega)]
  rfl

/-- With fewer than 2^24 observations between two calls of `calc`, each `calc` of a run lists exactly the
present streams that were loud enough and tells of the list when it is not the last one; and a client
that keeps what it is told has the last list. -/
theorem run_notifies {thresholdParameter : UInt8} {intervalParameter filterParameter : Int} {ops : List ObserverOp}
    (few : Guarded (step checks) Few (start thresholdParameter intervalParameter filterParameter) ops) :
    Guarded (step checks) (Right checks) (start thresholdParameter intervalParameter filterParameter) ops ∧
      ∀ g, run (step checks) (start thresholdParameter intervalParameter filterParameter) ops = some g →
        g.client = g.latest := by
  have begins : Counted checks (start thresholdParameter intervalParameter filterParameter) := counted_start ..
  constructor
  · refine guarded_imp (fun g => Counted checks g ∧ observed g.history < 16777216) ?_ ?_
      ⟨begins, Nat.zero_lt_succ _⟩ few
    · rintro g op ⟨counted, small⟩ allowed
      cases op with
      | addStream id => trivial
      | removeStream id => trivial
      | observe id dBov => exact counted.observe_isSome allowed
      | calcLevels => exact counted.notifies small
    · rintro g op g' ⟨counted, small⟩ allowed h
      refine ⟨step_counted counted h, ?_⟩
      cases op with
      | addStream id =>
          dsimp only [step] at h
          split at h <;> cases h
          exact small
      | removeStream id =>
          cases h
          exact small
      | observe id dBov =>
          obtain ⟨observer, -, rfl⟩ := Option.map_eq_some_iff.mp h
          exact allowed
      | calcLevels =>
          cases h
          exact Nat.zero_lt_succ _
  · intro g reached
    exact (run_preserves (Counted checks) (fun _ _ _ inv h => step_counted inv h) begins reached).client

def speakerOps : List ObserverOp :=
  [.addStream "ann", .addStream "bob", .observe "ann" 5, .observe "bob" 90, .calcLevels]

instance (g : ObserverRun) : ∀ op, Decidable (g.Few op)
  | .addStream _ => isTrue trivial
  | .removeStream _ => isTrue trivial
  | .observe _ _ => inferInstanceAs (Decidable (_ < _))
  | .calcLevels => isTrue trivial

theorem run_notifies_two :
    Guarded (step false) Few (start 40 100 20) speakerOps ∧
      Guarded (step false) (Right false) (start 40 100 20) speakerOps := by
  have few : Guarded (step false) Few (start 40 100 20) speakerOps := by decide
  exact ⟨few, (run_notifies few).1⟩

/-- A stream with more levels comes before one with fewer, and of two with as many the louder one. -/
def Ranked (g : ObserverRun) : Prop :=
  g.observer.streamIds.Pairwise fun a b =>
    (g.levels b).length < (g.levels a).length ∨
      ((g.levels a).length = (g.levels b).length ∧ (g.levels a).sum ≤ (g.levels b).sum)

/-- The order of `calc`: a larger sum comes first. -/
theorem Counted.streamIds_pairwise (counted : Counted checks g) (fits : checks = true ∨ g.InRange) :
    g.observer.streamIds.Pairwise fun a b =>
      (g.levels b).length < (g.levels a).length ∨
        ((g.levels b).length = (g.levels a).length ∧ (g.levels b).sum ≤ (g.levels a).sum) := by
  unfold AudioObserver.streamIds
  rw [List.pairwise_map]
  refine (g.observer.sorted_pairwise.filter _).imp_of_mem fun {a b} left right order => ?_
  obtain ⟨total_a, sum_a⟩ := counted.exact fits (g.observer.sorted_perm.mem_iff.mp (List.mem_filter.mp left).1)
  obtain ⟨total_b, sum_b⟩ := counted.exact fits (g.observer.sorted_perm.mem_iff.mp (List.mem_filter.mp right).1)
  rw [AudioStream.before_iff, total_a, total_b, sum_a, sum_b] at order
  omega

theorem Counted.ranked_iff (counted : Counted checks g) (fits : checks = true ∨ g.InRange) :
    g.Ranked ↔ ∀ a b, g.Listed a → g.Listed b → (g.levels a).length = (g.levels b).length →
      (g.levels a).sum = (g.levels b).sum := by
  have order := counted.streamIds_pairwise fits
  have listed := counted.mem_streamIds fits
  constructor
  · intro ranked a b mem_a mem_b
    let Agree (a b : String) : Prop := (g.levels a).length = (g.levels b).length → (g.levels a).sum = (g.levels b).sum
    have symm : Std.Symm Agree := ⟨fun a b agree same => (agree same.symm).symm⟩
    have agree : g.observer.streamIds.Pairwise Agree := by
      refine (ranked.and order).imp fun {a b} both same => ?_
      omega
    exact agree.forall_of_forall (fun _ _ _ => rfl) ((listed a).mpr mem_a) ((listed b).mpr mem_b)
  · intro agree
    refine order.imp_of_mem fun {a b} mem_a mem_b before => ?_
    have same := agree a b ((listed a).mp mem_a) ((listed b).mp mem_b)
    omega

/-- The list of the next `calc` puts louder streams first exactly when no two streams in it have as many
levels and different sums. -/
theorem run_ranked_iff {thresholdParameter : UInt8} {intervalParameter filterParameter : Int}
    {ops : List ObserverOp}
    (reached : run (step checks) (start thresholdParameter intervalParameter filterParameter) ops = some g)
    (fits : checks = true ∨ g.InRange) :
    g.Ranked ↔ ∀ a b, g.Listed a → g.Listed b → (g.levels a).length = (g.levels b).length →
      (g.levels a).sum = (g.levels b).sum := by
  have counted : Counted checks g :=
    run_preserves (Counted checks) (fun _ _ _ inv h => step_counted inv h) (counted_start ..) reached
  exact counted.ranked_iff fits

def rankedOps : List ObserverOp :=
  [.addStream "loud", .addStream "quiet", .observe "loud" 5, .observe "quiet" 30]

def rankedRun : ObserverRun where
  observer := { streams := [⟨"loud", 5, 1⟩, ⟨"quiet", 30, 1⟩], expected := 1, threshold := 40 }
  history := rankedOps.reverse

theorem run_rankedOps : run (step true) (start 40 100 20) rankedOps = some rankedRun := by
  decide +kernel

theorem run_ranked_iff_two :
    run (step true) (start 40 100 20) rankedOps = some rankedRun ∧
      (rankedRun.Ranked ↔ ∀ a b, rankedRun.Listed a → rankedRun.Listed b →
        (rankedRun.levels a).length = (rankedRun.levels b).length →
        (rankedRun.levels a).sum = (rankedRun.levels b).sum) :=
  ⟨run_rankedOps, run_ranked_iff run_rankedOps (Or.inl rfl)⟩

/-- Each of two streams has one level: the quieter is listed first. -/
theorem quieter_stream_first :
    run (step true) (start 40 100 20) rankedOps = some rankedRun ∧ rankedRun.observer.streamIds = ["quiet", "loud"] ∧
      rankedRun.levels "loud" = [5] ∧ rankedRun.levels "quiet" = [30] ∧ ¬ rankedRun.Ranked := by
  have quieter : AudioStream.before ⟨"loud", 5, 1⟩ ⟨"quiet", 30, 1⟩ = false := by decide
  have ids : rankedRun.observer.streamIds = ["quiet", "loud"] := by
    simp [AudioObserver.streamIds, AudioObserver.sorted, List.mergeSort, rankedRun, quieter]
  refine ⟨run_rankedOps, ids, rfl, rfl, fun ranked => ?_⟩
  unfold Ranked at ranked
  rw [ids] at ranked
  have both := List.rel_of_pairwise_cons ranked List.mem_cons_self
  revert both
  decide

end ObserverRun

end Rsfu
