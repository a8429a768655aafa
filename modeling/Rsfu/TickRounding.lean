import Mathlib.Algebra.Order.Round
import Mathlib.Data.Int.ConditionallyCompleteOrder
import Mathlib.Data.Rat.Floor
import Mathlib.Tactic.Linarith

/-! A count of fine units told in ticks, to the nearest one, and read back in coarse units
by truncation. `k` is the length of a fine unit in ticks; no two counts share a tick from
one tick on, and more than half a tick keeps the reading within one coarse unit. -/
namespace TickRounding

variable {α : Type*} [Field α] [LinearOrder α] [IsStrictOrderedRing α] [FloorRing α] {k : α}

def ticks (k : α) (n : ℕ) : ℤ := round ((n : α) * k)

/-- A quotient of naturals is rounded by its remainder. -/
theorem round_natCast_div {a b : ℕ} (pos : 0 < b) :
    round ((a : α) / b) = ((a / b + if b ≤ 2 * (a % b) then 1 else 0 : ℕ) : ℤ) := by
  have whole : (b : α) * (a / b : ℕ) + (a % b : ℕ) = a := by exact_mod_cast Nat.div_add_mod a b
  have below : ((a % b : ℕ) : α) < b := by exact_mod_cast Nat.mod_lt a pos
  have nonneg : (0 : α) ≤ (a % b : ℕ) := Nat.cast_nonneg _
  have divisor : (0 : α) < b := by exact_mod_cast pos
  rw [round_eq_iff, Set.mem_Ico, le_div_iff₀ divisor, div_lt_iff₀ divisor, ← whole]
  generalize a / b = q
  generalize a % b = r at below nonneg ⊢
  by_cases up : b ≤ 2 * r
  · have half : (b : α) ≤ 2 * r := by exact_mod_cast up
    rw [if_pos up, Int.cast_natCast, Nat.cast_succ]
    constructor
    · linarith
    · linarith
  · have half : 2 * (r : α) < b := by exact_mod_cast Nat.lt_of_not_le up
    rw [if_neg up, Int.cast_natCast, Nat.add_zero]
    constructor
    · linarith
    · linarith

theorem round_lt_round {x y : α} (apart : x + 1 ≤ y) : round x < round y := by
  have low := round_le_add_half x
  have high := sub_half_lt_round y
  have less : (round x : α) < round y := by linarith
  exact_mod_cast less

theorem ticks_strictMono (one : 1 ≤ k) : StrictMono (ticks k) := by
  apply strictMono_nat_of_lt_succ
  intro n
  apply round_lt_round
  rw [Nat.cast_succ, add_mul, one_mul]
  linarith

/-- What is short of a whole number of ticks is not rounded up to it. -/
theorem ticks_lt (half : 1 / 2 < k) {n limit : ℕ} (short : n < limit) {m : ℤ} (whole : (limit : α) * k = m) :
    ticks k n < m := by
  have next : (n : α) + 1 ≤ limit := by exact_mod_cast short
  have scaled : ((n : α) + 1) * k ≤ limit * k := mul_le_mul_of_nonneg_right next (by linarith)
  have high := round_le_add_half ((n : α) * k)
  have less : (ticks k n : α) < m := by
    unfold ticks
    rw [← whole]
    linarith
  exact_mod_cast less

/-- The coarse units read from the ticks of a count: one is missing exactly when the count is
a whole number of them and was rounded down. -/
theorem floor_ticks (half : 1 / 2 < k) {c : ℕ} (pos : 0 < c) (n : ℕ) :
    ⌊(ticks k n : α) / (c * k)⌋ = ((n / c : ℕ) : ℤ) - if n % c = 0 ∧ (ticks k n : α) < n * k then 1 else 0 := by
  have unit : 0 < (c : α) * k := mul_pos (by exact_mod_cast pos) (by linarith)
  have low : (n : α) * k - 1 / 2 < ticks k n := sub_half_lt_round _
  have high : (ticks k n : α) ≤ n * k + 1 / 2 := round_le_add_half _
  have counted : (n : α) = c * (n / c : ℕ) + (n % c : ℕ) := by exact_mod_cast (Nat.div_add_mod n c).symm
  have scaled : (n : α) * k = (n / c : ℕ) * (c * k) + (n % c : ℕ) * k := by
    rw [counted]
    ring
  have short : ((n % c : ℕ) : α) + 1 ≤ c := by exact_mod_cast Nat.mod_lt n pos
  have short_scaled : (((n % c : ℕ) : α) + 1) * k ≤ c * k := mul_le_mul_of_nonneg_right short (by linarith)
  have whole_unit : 1 * k ≤ c * k := mul_le_mul_of_nonneg_right (by exact_mod_cast pos) (by linarith)
  rw [Int.floor_eq_iff, le_div_iff₀ unit, div_lt_iff₀ unit]
  rw [scaled] at low high ⊢
  generalize n / c = q at low high ⊢
  by_cases rest : n % c = 0
  · rw [rest, Nat.cast_zero, zero_mul, add_zero] at low high ⊢
    by_cases down : (ticks k n : α) < q * (c * k)
    · rw [if_pos ⟨rfl, down⟩]
      push_cast
      constructor
      · linarith
      · linarith
    · rw [if_neg fun both => down both.2]
      push_cast
      constructor
      · linarith
      · linarith
  · have some_rest : 1 * k ≤ (n % c : ℕ) * k :=
      mul_le_mul_of_nonneg_right (by exact_mod_cast Nat.pos_of_ne_zero rest) (by linarith)
    rw [if_neg fun both => rest both.1]
    push_cast
    constructor
    · linarith
    · linarith

end TickRounding
