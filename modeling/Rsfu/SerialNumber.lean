import Mathlib.Data.Nat.Bitwise

/-! Serial numbers: residues of unbounded counters in fixed-width words, the
half-range test that orders two residues, and the extended number rebuilt from
a cycle count and a residue. -/
namespace SerialNumber

theorem toNat_ofNat16 (n : Nat) : (UInt16.ofNat n).toNat = n % 65536 := UInt16.toNat_ofNat'

theorem toNat_sub16 (a b : UInt16) : (a - b).toNat = (65536 + a.toNat - b.toNat) % 65536 := by
  rw [UInt16.toNat_sub]
  have := b.toNat_lt
  omega

theorem toNat_sub32 (a b : UInt32) : (a - b).toNat = (4294967296 + a.toNat - b.toNat) % 4294967296 := by
  rw [UInt32.toNat_sub]
  have := b.toNat_lt
  omega

theorem toNat_add16 (a b : UInt16) : (a + b).toNat = (a.toNat + b.toNat) % 65536 := UInt16.toNat_add a b

theorem ofNat_eq_ofNat16 {m n : Nat} : UInt16.ofNat m = UInt16.ofNat n ↔ m % 65536 = n % 65536 := by
  rw [← UInt16.toNat_inj, toNat_ofNat16, toNat_ofNat16]

theorem ofNat_lt_ofNat16 {m n : Nat} : UInt16.ofNat m < UInt16.ofNat n ↔ m % 65536 < n % 65536 := by
  rw [UInt16.lt_iff_toNat_lt, toNat_ofNat16, toNat_ofNat16]

theorem ofNat_sub16 {m n : Nat} (h : m ≤ n) : UInt16.ofNat n - UInt16.ofNat m = UInt16.ofNat (n - m) := by
  rw [← UInt16.toNat_inj, toNat_sub16, toNat_ofNat16, toNat_ofNat16, toNat_ofNat16]
  omega

theorem ofNat_add16 (m n : Nat) : UInt16.ofNat m + UInt16.ofNat n = UInt16.ofNat (m + n) := by
  rw [← UInt16.toNat_inj, toNat_add16, toNat_ofNat16, toNat_ofNat16, toNat_ofNat16]
  omega

theorem ofInt_natCast16 (n : Nat) : UInt16.ofInt (n : Int) = UInt16.ofNat n := by
  rw [← UInt16.toNat_inj, UInt16.ofInt, toNat_ofNat16, toNat_ofNat16]
  omega

theorem ofNat_toNat16 (d : UInt16) : UInt16.ofNat d.toNat = d := UInt16.ofNat_toNat

/-- Residues decide equality of counters less than one cycle apart. -/
theorem ofNat_inj16_of_near {m n : Nat} (le : m ≤ n) (near : n < m + 65536)
    (same : UInt16.ofNat m = UInt16.ofNat n) : m = n := by
  have := ofNat_eq_ofNat16.mp same
  omega

theorem ofNat_inj32 {m n : Nat} (hm : m < 2 ^ 32) (hn : n < 2 ^ 32) : UInt32.ofNat m = UInt32.ofNat n ↔ m = n := by
  rw [← UInt32.toNat_inj, UInt32.toNat_ofNat', UInt32.toNat_ofNat', Nat.mod_eq_of_lt hm, Nat.mod_eq_of_lt hn]

theorem high_bit16 (d : UInt16) : (d &&& 0x8000).toNat = if d.toNat < 32768 then 0 else 32768 := by
  have small := d.toNat_lt
  rw [UInt16.toNat_and]
  change d.toNat &&& 2 ^ 15 = _
  rw [Nat.and_two_pow]
  by_cases low : d.toNat < 32768
  · rw [if_pos low, Nat.testBit_lt_two_pow low]
    rfl
  · have bit : d.toNat.testBit 15 = true := by
      rw [Nat.testBit_eq_decide_div_mod_eq]
      simp only [decide_eq_true_eq]
      omega
    rw [if_neg low, bit]
    rfl

theorem high_bit_clear_iff (d : UInt16) : d &&& 0x8000 = 0 ↔ d.toNat < 32768 := by
  rw [← UInt16.toNat_inj, high_bit16]
  split <;> simp_all

theorem high_bit_set_iff (d : UInt16) : 0 < d &&& 0x8000 ↔ 32768 ≤ d.toNat := by
  rw [UInt16.lt_iff_toNat_lt, high_bit16]
  split <;> simp_all

/-- The half-range test on the difference of two residues orders the counters
behind them, as long as these are less than half a cycle apart upwards and at
most half a cycle apart downwards. -/
theorem half_range_iff {m n : Nat} (above : n < m + 32768) (below : m ≤ n + 32768) :
    (UInt16.ofNat n - UInt16.ofNat m) &&& 0x8000 = 0 ↔ m ≤ n := by
  rw [high_bit_clear_iff, toNat_sub16, toNat_ofNat16, toNat_ofNat16]
  omega

/-- A forward step of less than half a cycle wraps exactly when the residue falls. -/
theorem wraps_iff {m n : Nat} (le : m ≤ n) (above : n < m + 32768) :
    UInt16.ofNat n < UInt16.ofNat m ↔ n / 65536 = m / 65536 + 1 := by
  rw [ofNat_lt_ofNat16]
  omega

theorem same_cycle_iff {m n : Nat} (le : m ≤ n) (above : n < m + 32768) :
    ¬ UInt16.ofNat n < UInt16.ofNat m ↔ n / 65536 = m / 65536 := by
  rw [wraps_iff le above]
  omega

/-- A cycle count with clear low half, joined with a residue. -/
theorem toNat_join {cycles : UInt32} {k : Nat} (aligned : cycles.toNat = 65536 * k) (s : UInt16) :
    (cycles ||| s.toUInt32).toNat = 65536 * k + s.toNat := by
  rw [UInt32.toNat_or, UInt16.toNat_toUInt32, aligned]
  exact (Nat.two_pow_add_eq_or_of_lt s.toNat_lt k).symm

theorem join_ofNat {cycles : UInt32} {n : Nat} (aligned : cycles.toNat = 65536 * (n / 65536)) :
    (cycles ||| (UInt16.ofNat n).toUInt32).toNat = n := by
  rw [toNat_join aligned, toNat_ofNat16]
  omega

/-- How far one residue lies above another. -/
def rank (base sn : UInt16) : Nat := (sn - base).toNat

theorem rank_lt (base sn : UInt16) : rank base sn < 65536 := (sn - base).toNat_lt

theorem rank_self (base : UInt16) : rank base base = 0 := by
  rw [rank, UInt16.sub_self]
  rfl

theorem rank_add {base : UInt16} {n : Nat} (h : n < 65536) : rank base (base + UInt16.ofNat n) = n := by
  rw [rank, toNat_sub16, toNat_add16, toNat_ofNat16]
  have := base.toNat_lt
  omega

theorem add_rank (base sn : UInt16) : base + UInt16.ofNat (rank base sn) = sn := by
  rw [rank, ofNat_toNat16]
  grind

theorem rank_inj {base a b : UInt16} (same : rank base a = rank base b) : a = b := by
  rw [← add_rank base a, same, add_rank]

end SerialNumber
