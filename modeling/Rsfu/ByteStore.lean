import Mathlib.Data.List.Basic
import Mathlib.Data.List.GetD

/-! A byte array of fixed size with bounds-checked access. An access past the
end answers `none`. Sixteen-bit words are big-endian. -/

/-- The bytes of a fixed-size allocation; `cell` is only read below `size`. -/
structure ByteStore where
  size : Nat
  cell : Nat → UInt8

namespace ByteStore

def beU16 (hi lo : UInt8) : UInt16 := (hi.toUInt16 <<< 8) ||| lo.toUInt16

def beBytes (v : UInt16) : List UInt8 := [(v >>> 8).toUInt8, v.toUInt8]

/-- The word at `off` in a byte string. -/
def u16At (bytes : List UInt8) (off : Nat) : Option UInt16 :=
  match bytes.drop off with
  | hi :: lo :: _ => some (beU16 hi lo)
  | _ => none

def zeros (size : Nat) : ByteStore := ⟨size, fun _ => 0⟩

def readU16 (m : ByteStore) (off : Nat) : Option UInt16 :=
  if off + 2 ≤ m.size then some (beU16 (m.cell off) (m.cell (off + 1))) else none

def slice (m : ByteStore) (off len : Nat) : Option (List UInt8) :=
  if off + len ≤ m.size then some ((List.range len).map fun i => m.cell (off + i)) else none

def write (m : ByteStore) (off : Nat) (bytes : List UInt8) : Option ByteStore :=
  if off + bytes.length ≤ m.size then
    some { m with
      cell := fun i => if off ≤ i ∧ i < off + bytes.length then bytes.getD (i - off) 0 else m.cell i }
  else none

theorem toNat_beU16 (hi lo : UInt8) : (beU16 hi lo).toNat = 256 * hi.toNat + lo.toNat := by
  have shift : (hi.toUInt16 <<< 8).toNat = 2 ^ 8 * hi.toNat := by
    rw [UInt16.toNat_shiftLeft, UInt8.toNat_toUInt16, Nat.shiftLeft_eq]
    have := hi.toNat_lt
    simp only [UInt16.reduceToNat, Nat.reduceMod]
    omega
  rw [beU16, UInt16.toNat_or, shift, UInt8.toNat_toUInt16,
    ← Nat.two_pow_add_eq_or_of_lt lo.toNat_lt]

@[simp] theorem beBytes_length (v : UInt16) : (beBytes v).length = 2 := rfl

theorem beU16_beBytes (v : UInt16) : beU16 (v >>> 8).toUInt8 v.toUInt8 = v := by
  rw [← UInt16.toNat_inj, toNat_beU16]
  have := v.toNat_lt
  simp only [UInt16.toNat_toUInt8, UInt16.toNat_shiftRight, Nat.shiftRight_eq_div_pow,
    UInt16.reduceToNat, Nat.reduceMod]
  omega

theorem u16At_eq_some {bytes : List UInt8} {off : Nat} (h : off + 2 ≤ bytes.length) :
    u16At bytes off = some (beU16 (bytes.getD off 0) (bytes.getD (off + 1) 0)) := by
  have first : off < bytes.length := by omega
  have second : off + 1 < bytes.length := by omega
  rw [u16At, List.drop_eq_getElem_cons first, List.drop_eq_getElem_cons second,
    List.getD_eq_getElem _ _ first, List.getD_eq_getElem _ _ second]

theorem write_some {m m' : ByteStore} {off : Nat} {bytes : List UInt8} (h : m.write off bytes = some m') :
    m'.size = m.size ∧ off + bytes.length ≤ m.size ∧
      (∀ i < bytes.length, m'.cell (off + i) = bytes.getD i 0) ∧
      ∀ i, i < off ∨ off + bytes.length ≤ i → m'.cell i = m.cell i := by
  unfold write at h
  split at h
  · rename_i fits
    cases h
    refine ⟨rfl, fits, fun i inside => ?_, fun i outside => ?_⟩
    · simp only [Nat.le_add_right, Nat.add_lt_add_left inside, and_self, if_true, Nat.add_sub_cancel_left]
    · exact if_neg (by omega)
  · cases h

theorem write_fits (m : ByteStore) {off : Nat} {bytes : List UInt8} (h : off + bytes.length ≤ m.size) :
    ∃ m', m.write off bytes = some m' := ⟨_, if_pos h⟩

theorem readU16_congr {m m' : ByteStore} {off : Nat} (size : m'.size = m.size)
    (same : ∀ i, off ≤ i → i < off + 2 → m'.cell i = m.cell i) : m'.readU16 off = m.readU16 off := by
  unfold readU16
  rw [size, same off (by omega) (by omega), same (off + 1) (by omega) (by omega)]

theorem slice_congr {m m' : ByteStore} {off len : Nat} (size : m'.size = m.size)
    (same : ∀ i, off ≤ i → i < off + len → m'.cell i = m.cell i) : m'.slice off len = m.slice off len := by
  unfold slice
  rw [size]
  congr 2
  apply List.map_congr_left
  intro i hi
  exact same (off + i) (by omega) (by have := List.mem_range.mp hi; omega)

/-- What was written is what a slice of the same extent reads. -/
theorem slice_written {m m' : ByteStore} {off : Nat} {bytes : List UInt8}
    (h : m.write off bytes = some m') : m'.slice off bytes.length = some bytes := by
  obtain ⟨size, fits, inside, -⟩ := write_some h
  rw [slice, if_pos (by omega)]
  congr 1
  apply List.ext_getElem
  · simp only [List.length_map, List.length_range]
  · intro i hl hr
    simp only [List.getElem_map, List.getElem_range]
    rw [inside i hr, List.getD_eq_getElem _ _ hr]

theorem readU16_written {m m' : ByteStore} {off : Nat} {bytes : List UInt8} (h : m.write off bytes = some m')
    (at' : Nat) (fits : at' + 2 ≤ bytes.length) :
    m'.readU16 (off + at') = u16At bytes at' := by
  obtain ⟨size, bound, inside, -⟩ := write_some h
  rw [readU16, if_pos (by omega), u16At_eq_some fits, inside at' (by omega), Nat.add_assoc,
    inside (at' + 1) (by omega)]

theorem u16At_beBytes (v : UInt16) : u16At (beBytes v) 0 = some v := by
  change some (beU16 (v >>> 8).toUInt8 v.toUInt8) = some v
  rw [beU16_beBytes]

end ByteStore
