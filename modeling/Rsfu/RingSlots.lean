import Mathlib.Data.Nat.ModEq
import Mathlib.Logic.Function.Iterate

/-! Positions in a ring of slots. A writer moves one slot forward with each
entry; a reader goes back from the next write position by the age of an entry. -/
namespace RingSlots

/-- The slot written `back` entries before the newest one, when the next write goes to `step`. -/
def slotBack (size step back : Nat) : Nat := (step + (size - 1 - back)) % size

variable {size step back : Nat}

theorem slotBack_lt (pos : 0 < size) : slotBack size step back < size := Nat.mod_lt _ pos

/-- The newest entry sits just behind the write position. -/
theorem slotBack_newest (h : step < size) : slotBack size ((step + 1) % size) 0 = step := by
  unfold slotBack
  by_cases last : step + 1 = size
  · rw [last, Nat.mod_self, Nat.mod_eq_of_lt] <;> omega
  · have wrap : step + 1 + (size - 1 - 0) = step + size := by omega
    rw [Nat.mod_eq_of_lt (show step + 1 < size by omega), wrap, Nat.add_mod_right, Nat.mod_eq_of_lt h]

theorem slotBack_advance {n : Nat} (h : back + n < size) :
    slotBack size ((step + n) % size) (back + n) = slotBack size step back := by
  unfold slotBack
  rw [Nat.mod_add_mod]
  congr 1
  omega

theorem slotBack_inj {older : Nat} (hb : back < size) (ho : older < size)
    (same : slotBack size step back = slotBack size step older) : back = older := by
  have congruent : size - 1 - back ≡ size - 1 - older [MOD size] :=
    Nat.ModEq.add_left_cancel' step same
  have equal : size - 1 - back = size - 1 - older := by
    rw [← Nat.mod_eq_of_lt (show size - 1 - back < size by omega),
      ← Nat.mod_eq_of_lt (show size - 1 - older < size by omega)]
    exact congruent
  omega

/-- A write `gap` slots ahead leaves the slots still in the ring at their places and
takes none of them. -/
theorem slotBack_ahead (step back : Nat) {gap : Nat} (moved : 0 < gap) (inside : back + gap < size) :
    slotBack size (((step + (gap - 1)) % size + 1) % size) (back + gap) = slotBack size step back ∧
      slotBack size step back ≠ (step + (gap - 1)) % size := by
  have next : ((step + (gap - 1)) % size + 1) % size = (step + gap) % size := by
    rw [Nat.mod_add_mod, Nat.add_assoc, Nat.sub_add_cancel moved]
  have old : slotBack size ((step + gap) % size) (back + gap) = slotBack size step back :=
    slotBack_advance inside
  have newest : slotBack size ((step + gap) % size) 0 = (step + (gap - 1)) % size := by
    rw [← next]
    exact slotBack_newest (Nat.mod_lt _ (by omega))
  rw [next]
  refine ⟨old, fun collide => ?_⟩
  rw [← old, ← newest] at collide
  have := slotBack_inj inside (by omega) collide
  omega

/-- The slot as a signed subtraction with one wrap: the reader's arithmetic. -/
theorem slotBack_signed (hs : step < size) (hb : back < size) :
    (slotBack size step back : Int) =
      if (step : Int) - (back + 1) < 0 then (size : Int) + (step - (back + 1)) else step - (back + 1) := by
  unfold slotBack
  split
  · rw [Nat.mod_eq_of_lt (by omega)]
    omega
  · have wrap : step + (size - 1 - back) = step - (back + 1) + size := by omega
    rw [wrap, Nat.add_mod_right, Nat.mod_eq_of_lt (by omega)]
    omega

/-- One forward move that returns to zero once `limit` is reached. -/
def bump (limit : Int) (step : Nat) : Nat := if limit ≤ (step : Int) + 1 then 0 else step + 1

theorem bump_natCast {limit : Nat} (h : step < limit) : bump (limit : Int) step = (step + 1) % limit := by
  unfold bump
  by_cases last : step + 1 = limit
  · rw [if_pos (by omega), last, Nat.mod_self]
  · rw [if_neg (by omega), Nat.mod_eq_of_lt (by omega)]

theorem bump_iterate {limit : Nat} (n : Nat) (h : step < limit) :
    (bump (limit : Int))^[n] step = (step + n) % limit := by
  induction n with
  | zero => exact (Nat.mod_eq_of_lt h).symm
  | succ n ih =>
      rw [Function.iterate_succ_apply', ih, bump_natCast (Nat.mod_lt _ (by omega)), Nat.mod_add_mod]
      rfl

theorem bump_iterate_lt {limit : Int} {bound : Nat} (hl : limit ≤ bound) (n : Nat) (h : step < bound) :
    (bump limit)^[n] step < bound := by
  induction n with
  | zero => exact h
  | succ n ih =>
      rw [Function.iterate_succ_apply']
      unfold bump
      split <;> omega

/-- Moves that stay below the limit just add up. -/
theorem bump_iterate_below {limit : Int} (n : Nat) (h : (step : Int) + n < limit) :
    (bump limit)^[n] step = step + n := by
  induction n with
  | zero => rfl
  | succ n ih =>
      rw [Function.iterate_succ_apply', ih (by omega), bump, if_neg (by omega)]
      rfl

/-- Moves with one slot less than the ring agree with the ring's own as long as
they start in the last slot or end before it. -/
theorem bump_skip {limit n : Nat} (hs : step ≤ limit) (hn : n < limit)
    (clear : n = 0 ∨ step = limit ∨ step + n < limit) :
    (bump (limit : Int))^[n] step = (step + n) % (limit + 1) := by
  rcases clear with rfl | rfl | below
  · exact (Nat.mod_eq_of_lt (Nat.lt_succ_of_le hs)).symm
  · cases n with
    | zero => exact (Nat.mod_eq_of_lt (Nat.lt_succ_self _)).symm
    | succ n =>
        have first : bump (step : Int) step = 0 := if_pos (by omega)
        rw [Function.iterate_succ_apply, first, bump_iterate_below n (by omega), Nat.zero_add,
          show step + (n + 1) = n + (step + 1) by omega, Nat.add_mod_right, Nat.mod_eq_of_lt (by omega)]
  · rw [bump_iterate_below n (by omega), Nat.mod_eq_of_lt (by omega)]

end RingSlots
