import Mathlib.Data.List.Basic

/-! Values sent as truncated differences. A reader that adds up whole quanta gets
each value less everything the truncations took away up to it. -/
namespace DeltaCoding

/-- The differences of consecutive values in whole quanta. -/
def deltas (quantum : Int) : Int → List Int → List Int
  | _, [] => []
  | before, value :: rest => (value - before).tdiv quantum :: deltas quantum value rest

/-- The values a reader adds up. -/
def sums (quantum : Int) : Int → List Int → List Int
  | _, [] => []
  | total, delta :: rest => (total + quantum * delta) :: sums quantum (total + quantum * delta) rest

/-- The values less what the truncations took from them so far. -/
def kept (quantum : Int) : Int → Int → List Int → List Int
  | _, _, [] => []
  | lost, before, value :: rest =>
      (value - (lost + (value - before).tmod quantum)) ::
        kept quantum (lost + (value - before).tmod quantum) value rest

theorem sums_deltas (quantum total before lost : Int) (values : List Int) :
    sums quantum total (deltas quantum before values) =
      (kept quantum lost before values).map (· + (total - (before - lost))) := by
  induction values generalizing total before lost with
  | nil => rfl
  | cons value rest ih =>
      have split := Int.mul_tdiv_add_tmod (value - before) quantum
      have here : total + quantum * (value - before).tdiv quantum =
          value - (lost + (value - before).tmod quantum) + (total - (before - lost)) := by omega
      have shift : total + quantum * (value - before).tdiv quantum -
          (value - (lost + (value - before).tmod quantum)) = total - (before - lost) := by omega
      unfold deltas sums kept
      rw [List.map_cons, ih _ value (lost + (value - before).tmod quantum), shift, here]

theorem sums_scale (factor quantum total : Int) (ds : List Int) :
    sums (factor * quantum) (factor * total) ds = (sums quantum total ds).map (factor * ·) := by
  induction ds generalizing total with
  | nil => rfl
  | cons delta rest ih =>
      have next : factor * total + factor * quantum * delta = factor * (total + quantum * delta) := by
        rw [Int.mul_add, Int.mul_assoc]
      unfold sums
      rw [next, ih, List.map_cons]

/-- Readers of two codings agree that all values are met, if the codings agree
wherever both the value before and this one may be met. -/
theorem sums_map_iff {α : Type*} (meets : α → Int → Prop) (apart : α → α → Prop) (quantum : Int)
    (recode : Int → Int)
    (agree : ∀ a b total delta, meets a total → apart a b →
      (meets b (total + quantum * recode delta) ↔ meets b (total + quantum * delta)) ∧
        (meets b (total + quantum * delta) → recode delta = delta))
    {a : α} {total : Int} (met : meets a total) {wanted : List α} (chain : (a :: wanted).IsChain apart)
    (ds : List Int) :
    List.Forall₂ meets wanted (sums quantum total (ds.map recode)) ↔
      List.Forall₂ meets wanted (sums quantum total ds) := by
  induction wanted generalizing a total ds with
  | nil =>
      cases ds with
      | nil => exact Iff.rfl
      | cons delta ds => exact iff_of_false (fun none => nomatch none) (fun none => nomatch none)
  | cons b rest ih =>
      cases ds with
      | nil => exact Iff.rfl
      | cons delta ds =>
          obtain ⟨near, later⟩ := List.isChain_cons_cons.mp chain
          obtain ⟨same, exact_here⟩ := agree a b total delta met near
          rw [List.map_cons]
          unfold sums
          rw [List.forall₂_cons, List.forall₂_cons, same]
          refine and_congr_right fun here => ?_
          rw [exact_here here]
          exact ih here later ds

end DeltaCoding
