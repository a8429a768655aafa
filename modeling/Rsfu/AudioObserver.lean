import Mathlib.Data.List.Basic

/-! The active speakers of a session. Each stream counts the audio levels at or below the
threshold and sums them up; `calc` sorts the streams, lists those with enough of them, and
tells when the list has changed. -/
namespace Rsfu

/-- `n` as an `i32`. -/
def wrapI32 (n : Int) : Int := (n + 2147483648) % 4294967296 - 2147483648

/-- `a + b` of type `i32`; with overflow checks a result out of range panics. -/
def addI32 (checks : Bool) (a b : Int) : Option Int :=
  if checks ∧ ¬ (-2147483648 ≤ a + b ∧ a + b < 2147483648) then none else some (wrapI32 (a + b))

structure AudioStream where
  id : String
  sum : Int := 0
  total : Int := 0
  deriving DecidableEq

structure AudioObserver where
  streams : List AudioStream := []
  expected : Int := 0
  threshold : UInt8 := 0
  previous : List String := []
  deriving DecidableEq

namespace AudioStream

/-- One observation at or below the threshold. -/
def note (checks : Bool) (stream : AudioStream) (dBov : UInt8) : Option AudioStream :=
  (addI32 checks stream.sum dBov.toNat).bind fun sum =>
    (addI32 checks stream.total 1).map fun total => { stream with sum, total }

/-- The closure of `sort_by`. -/
def compareStreams (a b : AudioStream) : Ordering :=
  if b.total ≠ a.total then compare b.total a.total else compare b.sum a.sum

/-- `a` may stand before `b`. -/
def before (a b : AudioStream) : Bool := compareStreams a b ≠ .gt

def reset (stream : AudioStream) : AudioStream := { stream with total := 0, sum := 0 }

end AudioStream

namespace AudioObserver

def new (thresholdParameter : UInt8) (intervalParameter filterParameter : Int) : AudioObserver :=
  let filter := if filterParameter < 0 then 0 else filterParameter
  let filter := if filter > 100 then 100 else filter
  { threshold := if thresholdParameter > 127 then 127 else thresholdParameter
    expected := (wrapI32 (intervalParameter * filter)).tdiv 2000 }

def addStream (g : AudioObserver) (streamId : String) : AudioObserver :=
  { g with streams := g.streams ++ [{ id := streamId }] }

/-- The loop removes every stream of the id. -/
def removeStream (g : AudioObserver) (streamId : String) : AudioObserver :=
  { g with streams := g.streams.filter fun stream => stream.id ≠ streamId }

/-- The loop of `observe`, which ends at the first stream of the id. -/
def observeStreams (checks : Bool) (threshold : UInt8) (streamId : String) (dBov : UInt8) :
    List AudioStream → Option (List AudioStream)
  | [] => some []
  | stream :: rest =>
      if stream.id = streamId then
        if dBov ≤ threshold then (stream.note checks dBov).map fun noted => noted :: rest
        else some (stream :: rest)
      else (observeStreams checks threshold streamId dBov rest).map fun rest => stream :: rest

def observe (checks : Bool) (g : AudioObserver) (streamId : String) (dBov : UInt8) : Option AudioObserver :=
  (observeStreams checks g.threshold streamId dBov g.streams).map fun streams => { g with streams }

/-- The streams as `calc` sorts them. `sort_by` is stable. -/
def sorted (g : AudioObserver) : List AudioStream := g.streams.mergeSort AudioStream.before

/-- The ids `calc` collects. -/
def streamIds (g : AudioObserver) : List String :=
  (g.sorted.filter fun stream => g.expected ≤ stream.total).map AudioStream.id

/-- The loop that compares two lists of one length. -/
def differs : List String → List String → Bool
  | a :: previous, b :: streamIds => if a ≠ b then true else differs previous streamIds
  | _, _ => false

/-- `calc`. -/
def calcLevels (g : AudioObserver) : AudioObserver × Option (List String) :=
  let done := { g with streams := g.sorted.map AudioStream.reset }
  if g.previous.length = g.streamIds.length then
    if differs g.previous g.streamIds then ({ done with previous := g.streamIds }, some g.streamIds)
    else (done, none)
  else ({ done with previous := g.streamIds }, some g.streamIds)

end AudioObserver

theorem wrapI32_of_lt {n : Int} (low : -2147483648 ≤ n) (high : n < 2147483648) : wrapI32 n = n := by
  unfold wrapI32
  omega

/-- Sums wrap around once or at every step. -/
theorem wrapI32_add (a b : Int) : wrapI32 (wrapI32 a + b) = wrapI32 (a + b) := by
  unfold wrapI32
  omega

theorem addI32_eq_some {checks : Bool} {a b c : Int} (h : addI32 checks a b = some c) :
    c = wrapI32 (a + b) ∧ (checks = true → -2147483648 ≤ a + b ∧ a + b < 2147483648) := by
  unfold addI32 at h
  split at h
  · cases h
  next fits =>
      cases h
      exact ⟨rfl, fun checked => by_contra fun outside => fits ⟨checked, outside⟩⟩

theorem addI32_of_lt {checks : Bool} {a b : Int} (low : -2147483648 ≤ a + b) (high : a + b < 2147483648) :
    addI32 checks a b = some (a + b) := by
  unfold addI32
  rw [if_neg fun both => both.2 ⟨low, high⟩, wrapI32_of_lt low high]

namespace AudioStream

theorem before_iff (a b : AudioStream) :
    a.before b = true ↔ b.total < a.total ∨ (b.total = a.total ∧ b.sum ≤ a.sum) := by
  unfold before compareStreams
  rw [decide_eq_true_eq]
  by_cases same : b.total = a.total
  · rw [if_neg (not_not_intro same), Int.compare_ne_gt]
    omega
  · rw [if_pos same, Int.compare_ne_gt]
    omega

theorem before_trans (a b c : AudioStream) (left : a.before b = true) (right : b.before c = true) :
    a.before c = true := by
  rw [before_iff] at left right ⊢
  omega

theorem before_total (a b : AudioStream) : (a.before b || b.before a) = true := by
  rw [Bool.or_eq_true, before_iff, before_iff]
  omega

end AudioStream

namespace AudioObserver

theorem sorted_perm (g : AudioObserver) : g.sorted.Perm g.streams := List.mergeSort_perm g.streams _

theorem sorted_pairwise (g : AudioObserver) : g.sorted.Pairwise fun a b => a.before b = true :=
  List.pairwise_mergeSort AudioStream.before_trans AudioStream.before_total g.streams

theorem differs_iff {previous streamIds : List String} (length : previous.length = streamIds.length) :
    differs previous streamIds = true ↔ previous ≠ streamIds := by
  induction previous generalizing streamIds with
  | nil =>
      rw [List.eq_nil_of_length_eq_zero length.symm]
      exact iff_of_false Bool.false_ne_true (absurd rfl)
  | cons a previous ih =>
      cases streamIds with
      | nil => cases length
      | cons b streamIds =>
          unfold differs
          by_cases same : a = b
          · subst same
            rw [if_neg (not_not_intro rfl), ih (Nat.succ.inj length), Ne, Ne, List.cons.injEq]
            exact not_congr (and_iff_right rfl).symm
          · rw [if_pos same]
            exact iff_of_true rfl fun both => same (List.cons.inj both).1

/-- `calc` tells of a list exactly when it is not the one it kept, and keeps it. -/
theorem calcLevels_eq (g : AudioObserver) :
    g.calcLevels = ({ g with streams := g.sorted.map AudioStream.reset, previous := g.streamIds },
      if g.previous = g.streamIds then none else some g.streamIds) := by
  unfold calcLevels
  by_cases length : g.previous.length = g.streamIds.length
  · by_cases same : g.previous = g.streamIds
    · have quiet : differs g.previous g.streamIds = false :=
        Bool.eq_false_iff.mpr fun differ => (differs_iff length).mp differ same
      rw [if_pos length, quiet, if_pos same, ← same]
      rfl
    · rw [if_pos length, if_pos ((differs_iff length).mpr same), if_neg same]
  · rw [if_neg length, if_neg fun same => length (congrArg List.length same)]

end AudioObserver

end Rsfu
