import Mathlib.Data.List.Basic

/-! Middlewares of a data channel. A middleware makes a message processor of a message
processor; `chain` is to put all of them around the last one, the first outermost. -/
namespace Rsfu

/-- `a - b` of type `usize`. Without overflow checks it wraps around. -/
def usizeSub (checks : Bool) (a b : Nat) : Option Nat :=
  if b ≤ a then some (a - b)
  else if checks then none
  else some (a + 18446744073709551616 - b)

variable {P : Type}

/-- The processor built so far. The code keeps no record of the positions it applied. -/
structure Chained (P : Type) where
  processor : P
  applied : List Nat := []

namespace Chained

/-- `mws_value[i](h)`; an index out of bounds panics. -/
def wrap (mws : List (P → P)) (h : Chained P) (i : Nat) : Option (Chained P) :=
  mws[i]?.map fun m => ⟨m h.processor, h.applied ++ [i]⟩

/-- The loop over `(0..n).rev()`. -/
def wrapDown (mws : List (P → P)) : Nat → Chained P → Option (Chained P)
  | 0, h => some h
  | i + 1, h => (h.wrap mws i).bind (wrapDown mws i)

/-- Every middleware around `last`, in order, each applied once. -/
def Composed (mws : List (P → P)) (last : P) (h : Chained P) : Prop :=
  h.processor = mws.foldr (fun m p => m p) last ∧ ∀ i < mws.length, h.applied.count i = 1

end Chained

open Chained

def chain (checks : Bool) (mws : List (P → P)) (last : P) : Option (Chained P) :=
  if mws.length = 0 then some ⟨last, []⟩
  else
    (usizeSub checks mws.length 1).bind fun i =>
      (wrap mws ⟨last, []⟩ i).bind fun h =>
        (usizeSub checks mws.length 2).bind fun n => wrapDown mws n h

theorem usizeSub_of_le {a b : Nat} (checks : Bool) (bound : b ≤ a) : usizeSub checks a b = some (a - b) :=
  if_pos bound

/-- The loop from `n` down applies the first `n` middlewares, the first outermost. -/
theorem wrapDown_eq {mws : List (P → P)} {n : Nat} (bound : n ≤ mws.length) (h : Chained P) :
    wrapDown mws n h =
      some ⟨(mws.take n).foldr (fun m p => m p) h.processor, h.applied ++ (List.range n).reverse⟩ := by
  induction n generalizing h with
  | zero =>
      rw [List.range_zero, List.reverse_nil, List.append_nil]
      rfl
  | succ i ih =>
      have found : mws[i]? = some mws[i] := List.getElem?_eq_getElem bound
      simp only [wrapDown, wrap, found, Option.map_some, Option.bind_some]
      rw [ih (Nat.le_of_lt bound), List.take_add_one, found, Option.toList_some, List.foldr_append, List.range_succ,
        List.reverse_append, List.append_assoc]
      rfl

/-- A single middleware: the upper end of the loop is below zero. Where it wraps around
instead, the first index of the loop is out of bounds. -/
theorem chain_singleton (checks : Bool) (m : P → P) (last : P) : chain checks [m] last = none := by
  cases checks with
  | true => rfl
  | false => rfl

/-- Of two or more middlewares, the last but one is passed by. -/
theorem chain_eq (checks : Bool) {mws : List (P → P)} {last : P} (two : 2 ≤ mws.length) :
    chain checks mws last = some
      ⟨(mws.take (mws.length - 2)).foldr (fun m p => m p) (mws[mws.length - 1] last),
        (mws.length - 1) :: (List.range (mws.length - 2)).reverse⟩ := by
  have found : mws[mws.length - 1]? = some mws[mws.length - 1] := List.getElem?_eq_getElem (by omega)
  unfold chain
  rw [if_neg (by omega), usizeSub_of_le checks (by omega), usizeSub_of_le checks two]
  simp only [Option.bind_some, wrap, found, Option.map_some]
  rw [wrapDown_eq (by omega)]
  rfl

theorem chain_passes_by (checks : Bool) {mws : List (P → P)} {last : P} (two : 2 ≤ mws.length) :
    ∃ h, chain checks mws last = some h ∧ h.applied.count (mws.length - 2) = 0 := by
  refine ⟨_, chain_eq checks two, List.count_eq_zero.mpr fun mem => ?_⟩
  rw [List.mem_cons, List.mem_reverse, List.mem_range] at mem
  omega

/-- `chain` returns every middleware around the last processor, each applied once, for no list but the empty one. -/
theorem chain_composed_iff (checks : Bool) (mws : List (P → P)) (last : P) :
    (∃ h, chain checks mws last = some h ∧ h.Composed mws last) ↔ mws = [] := by
  constructor
  · rintro ⟨h, returned, composed⟩
    match mws with
    | [] => rfl
    | [m] =>
        rw [chain_singleton] at returned
        cases returned
    | m :: m' :: rest =>
        have two : 2 ≤ (m :: m' :: rest).length := Nat.le_add_left 2 rest.length
        obtain ⟨h', same, missing⟩ := @chain_passes_by P checks _ last two
        cases returned.symm.trans same
        have once := composed.2 ((m :: m' :: rest).length - 2) (by omega)
        rw [missing] at once
        cases once
  · rintro rfl
    exact ⟨⟨last, []⟩, rfl, rfl, fun i bound => absurd bound (Nat.not_lt_zero i)⟩

/-- Two middlewares, of which only the second is applied. -/
theorem first_of_two_passed_by :
    chain true [fun log => "outer" :: log, fun log => "inner" :: log] [] = some ⟨["inner"], [1]⟩ ∧
      ¬ ∃ h, chain true [fun log => "outer" :: log, fun log => "inner" :: log] [] = some h ∧
        h.Composed [fun log => "outer" :: log, fun log => "inner" :: log] [] := by
  refine ⟨rfl, ?_⟩
  rintro ⟨h, returned, composed⟩
  cases returned
  exact absurd composed.1 (by decide)

end Rsfu
