import Rsfu.ByteStore

/-! Byte strings made of units, each behind its length in sixteen bits. -/
namespace LengthPrefixed

/-- A unit with its length in front. -/
def frame (unit : List UInt8) : List UInt8 := ByteStore.beBytes (UInt16.ofNat unit.length) ++ unit

/-- The first unit and what follows it, unless it is cut short. -/
def takeUnit : List UInt8 → Option (List UInt8 × List UInt8)
  | hi :: lo :: rest =>
      let length := (ByteStore.beU16 hi lo).toNat
      if length ≤ rest.length then some (rest.take length, rest.drop length) else none
  | _ => none

theorem takeUnit_frame {unit : List UInt8} (short : unit.length < 65536) (rest : List UInt8) :
    takeUnit (frame unit ++ rest) = some (unit, rest) := by
  have length : (UInt16.ofNat unit.length).toNat = unit.length := UInt16.toNat_ofNat_of_lt' short
  have fits : unit.length ≤ (unit ++ rest).length := by
    rw [List.length_append]
    exact Nat.le_add_right _ _
  simp only [frame, ByteStore.beBytes, List.cons_append, List.nil_append, takeUnit, ByteStore.beU16_beBytes, length]
  rw [if_pos fits, List.take_left, List.drop_left]

/-- What follows a unit is shorter by the unit and its length field. -/
theorem takeUnit_length {bytes unit rest : List UInt8} (taken : takeUnit bytes = some (unit, rest)) :
    bytes.length = 2 + unit.length + rest.length := by
  unfold takeUnit at taken
  split at taken
  · rename_i hi lo tail
    dsimp only at taken
    split at taken
    · rename_i fits
      obtain ⟨rfl, rfl⟩ := Prod.mk.inj (Option.some.inj taken)
      rw [List.length_take, List.length_drop, List.length_cons, List.length_cons]
      omega
    · cases taken
  · cases taken

/-- Whether a unit with `hit` is met before the first one that is cut short or has no `key`. -/
def meets {κ : Type} (key : List UInt8 → Option κ) (hit : κ → Bool) (bytes : List UInt8) : Bool :=
  match _taken : takeUnit bytes with
  | none => false
  | some (unit, rest) =>
      match key unit with
      | none => false
      | some k => hit k || meets key hit rest
termination_by bytes.length
decreasing_by
  have := takeUnit_length ‹_›
  omega

section Meets
variable {κ : Type} {key : List UInt8 → Option κ} {hit : κ → Bool} {bytes unit rest : List UInt8} {k : κ}

theorem meets_stopped (cut : takeUnit bytes = none) : meets key hit bytes = false := by
  rw [meets]
  split
  · rfl
  · rename_i taken
    cases cut.symm.trans taken

theorem meets_taken (taken : takeUnit bytes = some (unit, rest)) :
    meets key hit bytes = match key unit with
      | none => false
      | some k => hit k || meets key hit rest := by
  conv_lhs => rw [meets]
  split
  · rename_i cut
    cases taken.symm.trans cut
  · rename_i found
    cases taken.symm.trans found
    rfl

/-- In a string of whole units, each with a key, a unit is met exactly when it is there. -/
theorem meets_frames {units : List (List UInt8)} (short : ∀ unit ∈ units, unit.length < 65536)
    (keyed : ∀ unit ∈ units, (key unit).isSome = true) :
    meets key hit (units.flatMap frame) = true ↔ ∃ unit ∈ units, ∃ k, key unit = some k ∧ hit k = true := by
  induction units with
  | nil =>
      rw [List.flatMap_nil, meets_stopped rfl]
      exact iff_of_false Bool.false_ne_true fun ⟨unit, among, _⟩ => absurd among List.not_mem_nil
  | cons unit units ih =>
      obtain ⟨k, found⟩ := Option.isSome_iff_exists.mp (keyed unit List.mem_cons_self)
      have later := ih (fun unit among => short unit (List.mem_cons_of_mem _ among))
        (fun unit among => keyed unit (List.mem_cons_of_mem _ among))
      rw [List.flatMap_cons, meets_taken (takeUnit_frame (short unit List.mem_cons_self) _), found,
        List.exists_mem_cons_iff]
      dsimp only
      rw [Bool.or_eq_true, later, found]
      simp only [Option.some.injEq, exists_eq_left']

end Meets

end LengthPrefixed
