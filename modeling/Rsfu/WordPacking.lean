import Mathlib.Data.List.Basic
import Mathlib.Data.Nat.Bitwise
import Mathlib.Tactic.Ring

/-! Fixed-width digits in a machine word, the most significant first. -/
namespace WordPacking

/-- The value of a field of `n` digits of `w` bits, filled from the top. -/
def pack (w : Nat) : Nat → List Nat → Nat
  | 0, _ => 0
  | _, [] => 0
  | n + 1, d :: rest => d * 2 ^ (w * n) + pack w n rest

/-- The lowest `n` digits of a value. -/
def digits (w : Nat) : Nat → Nat → List Nat
  | 0, _ => []
  | n + 1, v => v / 2 ^ (w * n) % 2 ^ w :: digits w n v

theorem pack_nil (w n : Nat) : pack w n [] = 0 := by
  cases n <;> rfl

theorem pack_lt {w n : Nat} {ds : List Nat} (small : ∀ d ∈ ds, d < 2 ^ w) : pack w n ds < 2 ^ (w * n) := by
  induction n generalizing ds with
  | zero => exact Nat.two_pow_pos _
  | succ n ih =>
      cases ds with
      | nil => exact Nat.two_pow_pos _
      | cons d rest =>
          have top : d + 1 ≤ 2 ^ w := small d List.mem_cons_self
          have below := ih fun e member => small e (List.mem_cons_of_mem _ member)
          calc d * 2 ^ (w * n) + pack w n rest
              < d * 2 ^ (w * n) + 2 ^ (w * n) := by omega
            _ = (d + 1) * 2 ^ (w * n) := by ring
            _ ≤ 2 ^ w * 2 ^ (w * n) := Nat.mul_le_mul_right _ top
            _ = 2 ^ (w * (n + 1)) := by ring

/-- Bits above the field do not matter. -/
theorem digits_above (w n a v : Nat) : digits w n (a * 2 ^ (w * n) + v) = digits w n v := by
  induction n generalizing a with
  | zero => rfl
  | succ n ih =>
      have shift : a * 2 ^ (w * (n + 1)) = a * 2 ^ w * 2 ^ (w * n) := by ring
      unfold digits
      rw [shift, ih]
      congr 1
      rw [Nat.add_comm, Nat.add_mul_div_right _ _ (Nat.two_pow_pos _), Nat.add_mul_mod_self_right]

theorem digits_zero (w n : Nat) : digits w n 0 = List.replicate n 0 := by
  induction n with
  | zero => rfl
  | succ n ih =>
      unfold digits
      rw [ih, Nat.zero_div, Nat.zero_mod, List.replicate_succ]

/-- A packed field reads back its digits, and zeros behind them. -/
theorem digits_pack {w n : Nat} {ds : List Nat} (small : ∀ d ∈ ds, d < 2 ^ w) (fits : ds.length ≤ n) :
    digits w n (pack w n ds) = ds ++ List.replicate (n - ds.length) 0 := by
  induction n generalizing ds with
  | zero =>
      obtain rfl := List.length_eq_zero_iff.mp (Nat.le_zero.mp fits)
      rfl
  | succ n ih =>
      cases ds with
      | nil => exact digits_zero w (n + 1)
      | cons d rest =>
          have smaller : ∀ e ∈ rest, e < 2 ^ w := fun e member => small e (List.mem_cons_of_mem _ member)
          have fewer : rest.length ≤ n := Nat.le_of_succ_le_succ fits
          have top : (d * 2 ^ (w * n) + pack w n rest) / 2 ^ (w * n) % 2 ^ w = d := by
            rw [Nat.add_comm, Nat.add_mul_div_right _ _ (Nat.two_pow_pos _), Nat.div_eq_of_lt (pack_lt smaller),
              Nat.zero_add, Nat.mod_eq_of_lt (small d List.mem_cons_self)]
          change (d * 2 ^ (w * n) + pack w n rest) / 2 ^ (w * n) % 2 ^ w ::
            digits w n (d * 2 ^ (w * n) + pack w n rest) = _
          rw [top, digits_above, ih smaller fewer, List.length_cons, Nat.add_sub_add_right]
          rfl

/-- Setting digits in clear bits adds them. -/
theorem or_digit {k word low : Nat} (clear : word % 2 ^ k = 0) (fits : low < 2 ^ k) : word ||| low = word + low := by
  have whole : word = 2 ^ k * (word / 2 ^ k) := by
    have := Nat.div_add_mod word (2 ^ k)
    omega
  rw [whole]
  exact (Nat.two_pow_add_eq_or_of_lt fits _).symm

end WordPacking
