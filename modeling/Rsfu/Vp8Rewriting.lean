import Rsfu.DownTrack
import Rsfu.Vp8Grammar

/-! Rewriting the two numbers of a VP8 descriptor. The writer is handed offsets and
one flag, so it puts the high octet of the picture number where a seven-bit number
or the first octet of the payload stands; the rewriting parses back exactly outside
these cases. -/
namespace Rsfu

namespace Vp8

/-- The octets of the two fields, which are there when their offsets are not zero. -/
def Rewritable (v : Vp8) (j : Nat) : Prop :=
  (v.pictureIdIdx ≠ 0 ∧ (j = v.pictureIdIdx.toNat ∨ v.mbit = true ∧ j = v.pictureIdIdx.toNat + 1)) ∨
    (v.tlzIdx ≠ 0 ∧ j = v.tlzIdx.toNat)

/-- The descriptor with new numbers in the fields that are there. -/
def renumber (v : Vp8) (picId : UInt16) (tl0 : UInt8) : Vp8 :=
  { v with
    pictureId := if v.pictureIdIdx ≠ 0 then picId else v.pictureId
    tl0PictureIdx := if v.tlzIdx ≠ 0 then tl0 else v.tl0PictureIdx }

/-- A rewriting with the arguments that both callers pass. -/
def rewrite (v : Vp8) (payload : Bytes) (picId : UInt16) (tl0 : UInt8) : Option Bytes :=
  modifyVp8TemporalPayload payload v.pictureIdIdx.toNat v.tlzIdx.toNat picId tl0 v.mbit

/-- The rewritten payload parses to the new numbers and keeps every other octet. -/
structure Rewritten (v : Vp8) (payload : Bytes) (picId : UInt16) (tl0 : UInt8) (payload' : Bytes) : Prop where
  parses : (unmarshal {} payload').run = some (.ok (v.renumber picId tl0))
  length : payload'.length = payload.length
  outside : ∀ j, ¬ v.Rewritable j → payload'[j]? = payload[j]?

/-- When a rewriting is the inverse of parsing: the picture number is one of fifteen bits or zero,
and each number without a field is the octet that stands at its offset zero already. -/
def RewritesBack (v : Vp8) (payload : Bytes) (picId : UInt16) (tl0 : UInt8) : Prop :=
  ((v.pictureIdIdx ≠ 0 ∧ (v.mbit = true ∨ picId = 0)) ∨ (v.pictureIdIdx = 0 ∧ v.tlzIdx = 0)) ∧
    (v.tlzIdx ≠ 0 ∨ payload.head? = some tl0)

end Vp8

section Writes
variable {payload : Bytes} {i j : Nat} {picId : UInt16} {tl0 : UInt8}

theorem putAt_some {octet : UInt8} (inside : i < payload.length) :
    putAt payload i octet = some (payload.set i octet) :=
  if_pos inside

theorem modify_short (first : i < payload.length) (second : j < payload.length) :
    modifyVp8TemporalPayload payload i j picId tl0 false =
      some ((payload.set i (picId >>> 8).toUInt8).set j tl0) := by
  have also : j < (payload.set i (picId >>> 8).toUInt8).length := by rwa [List.length_set]
  simp only [modifyVp8TemporalPayload, putAt_some first, Option.bind_eq_bind, Option.bind_some,
    Bool.false_eq_true, if_false, putAt_some also]

theorem modify_long (first : i + 1 < payload.length) (second : j < payload.length) :
    modifyVp8TemporalPayload payload i j picId tl0 true =
      some (((payload.set i ((picId >>> 8).toUInt8 ||| 0x80)).set (i + 1) picId.toUInt8).set j tl0) := by
  have here : i < payload.length := by omega
  have read : (payload.set i (picId >>> 8).toUInt8)[i]? = some (picId >>> 8).toUInt8 :=
    List.getElem?_set_self here
  simp only [modifyVp8TemporalPayload, putAt_some here, Option.bind_eq_bind, Option.bind_some, if_true, read]
  rw [putAt_some (by rwa [List.length_set]), Option.bind_some, List.set_set,
    putAt_some (by rwa [List.length_set]), Option.bind_some,
    putAt_some (by rwa [List.length_set, List.length_set])]

end Writes

namespace PictureIdField

theorem marked (octet : UInt8) : (octet ||| 0x80) &&& 0x80 ≠ 0 := by
  have every : ∀ b : BitVec 8, (b ||| 0x80#8) &&& 0x80#8 ≠ 0#8 := by decide
  intro clear
  exact every octet.toBitVec (congrArg UInt8.toBitVec clear)

theorem marked_low (octet : UInt8) : (octet ||| 0x80).toNat % 2 ^ 7 = octet.toNat % 2 ^ 7 := by
  have every : ∀ b : BitVec 8, (b ||| 0x80#8).toNat % 2 ^ 7 = b.toNat % 2 ^ 7 := by decide
  exact every octet.toBitVec

/-- The field as the writer leaves it: a short one loses its number. -/
def renumber (picId : UInt16) : PictureIdField → PictureIdField
  | .short _ _ => .short 0 rfl
  | .long _ _ _ => .long ((picId >>> 8).toUInt8 ||| 0x80) picId.toUInt8 (marked _)

@[simp] theorem renumber_isLong (picId : UInt16) (field : PictureIdField) :
    (field.renumber picId).isLong = field.isLong := by
  cases field <;> rfl

@[simp] theorem renumber_length (picId : UInt16) (field : PictureIdField) :
    (field.renumber picId).octets.length = field.octets.length := by
  cases field <;> rfl

theorem renumber_number {picId : UInt16} (field : PictureIdField)
    (range : picId.toNat < if field.isLong then 2 ^ 15 else 2 ^ 7) :
    UInt16.ofNat (field.renumber picId).number = picId ↔ field.isLong = true ∨ picId = 0 := by
  cases field with
  | short octet m => exact ⟨fun same => Or.inr same.symm, fun zero => (zero.resolve_left Bool.false_ne_true).symm⟩
  | long octet low m =>
      refine ⟨fun _ => Or.inl rfl, fun _ => ?_⟩
      have high : (picId >>> 8).toUInt8.toNat = picId.toNat / 2 ^ 8 % 2 ^ 8 := by
        rw [UInt16.toNat_toUInt8, UInt16.toNat_shiftRight, Nat.shiftRight_eq_div_pow]
        rfl
      have number : (PictureIdField.renumber picId (.long octet low m)).number = picId.toNat := by
        change ((picId >>> 8).toUInt8 ||| 0x80).toNat % 2 ^ 7 * 2 ^ 8 + picId.toUInt8.toNat = _
        rw [marked_low, high, UInt16.toNat_toUInt8]
        change picId.toNat < 2 ^ 15 at range
        omega
      rw [number]
      exact UInt16.ofNat_toNat

end PictureIdField

/-- The fields as the writer leaves them. -/
def Vp8Extension.renumber (picId : UInt16) (tl0 : UInt8) (e : Vp8Extension) : Vp8Extension :=
  { e with
    pictureId := e.pictureId.map (PictureIdField.renumber picId)
    tl0PicIdx := e.tl0PicIdx.map fun _ => tl0
    i := by
      rw [Option.isSome_map]
      exact e.i
    l := by
      rw [Option.isSome_map]
      exact e.l }

def Vp8Descriptor.renumber (picId : UInt16) (tl0 : UInt8) (d : Vp8Descriptor) : Vp8Descriptor :=
  { d with
    extension := d.extension.map (Vp8Extension.renumber picId tl0)
    x := by
      rw [Option.isSome_map]
      exact d.x }

namespace Vp8Descriptor
variable {d : Vp8Descriptor} {e : Vp8Extension} {field : PictureIdField}

theorem renumber_value (there : d.extension = some e) (numbered : e.pictureId = some field) (picId : UInt16)
    (tl0 octet : UInt8) :
    (d.renumber picId tl0).value octet =
      (d.value octet).renumber (UInt16.ofNat (field.renumber picId).number) tl0 := by
  simp only [value, Vp8.renumber, renumber, Vp8Extension.renumber, pictureId, tl0PicIdx, tidYKeyIdx, there,
    numbered, Option.map_some, Option.bind_some, Option.isSome_some, if_true, Option.any_some,
    PictureIdField.renumber_isLong, Option.getD_some, Vp8Extension.pictureIdOctets, PictureIdField.renumber_length]
  obtain ⟨ext, _, old, tid, _, _, _⟩ := e
  cases old with
  | none => rfl
  | some old =>
      have position : (2 : Int) + (field.octets.length : Int) ≠ 0 := by omega
      simp [position]

theorem high_of_short {picId : UInt16} (range : picId.toNat < 2 ^ 7) : (picId >>> 8).toUInt8 = 0 := by
  rw [← UInt8.toNat_inj, UInt16.toNat_toUInt8, UInt16.toNat_shiftRight, Nat.shiftRight_eq_div_pow]
  change picId.toNat / 2 ^ 8 % 2 ^ 8 = 0
  omega

/-- With a picture number the writer fills the fields, and puts the other number at offset zero
when its field is missing. -/
theorem rewrite_numbered (there : d.extension = some e) (numbered : e.pictureId = some field) {picId : UInt16}
    (range : picId.toNat < if field.isLong then 2 ^ 15 else 2 ^ 7) (tl0 octet : UInt8) (rest : Bytes) :
    (d.value octet).rewrite (d.octets ++ octet :: rest) picId tl0 =
      some (if e.tl0PicIdx.isSome then (d.renumber picId tl0).octets ++ octet :: rest
        else ((d.renumber picId tl0).octets ++ octet :: rest).set 0 tl0) := by
  obtain ⟨first, extension, x⟩ := d
  obtain ⟨ext, pictureId, old, tid, i, l, tk⟩ := e
  cases there
  cases numbered
  cases field with
  | short number m =>
      have high := high_of_short range
      cases old with
      | none =>
          refine (modify_short (Nat.lt_of_sub_pos ?_) (Nat.succ_pos _)).trans ?_
          · exact Nat.succ_pos _
          · rw [high]
            rfl
      | some old =>
          refine (modify_short (Nat.lt_of_sub_pos ?_) (Nat.lt_of_sub_pos ?_)).trans ?_
          · exact Nat.succ_pos _
          · exact Nat.succ_pos _
          · rw [high]
            rfl
  | long number low m =>
      cases old with
      | none =>
          refine (modify_long (Nat.lt_of_sub_pos ?_) (Nat.succ_pos _)).trans ?_
          · exact Nat.succ_pos _
          · rfl
      | some old =>
          refine (modify_long (Nat.lt_of_sub_pos ?_) (Nat.lt_of_sub_pos ?_)).trans ?_
          · exact Nat.succ_pos _
          · exact Nat.succ_pos _
          · rfl

theorem renumber_outside (there : d.extension = some e) (numbered : e.pictureId = some field) (picId : UInt16)
    (tl0 octet : UInt8) (rest : Bytes) {j : Nat} (outside : ¬ (d.value octet).Rewritable j) :
    ((d.renumber picId tl0).octets ++ octet :: rest)[j]? = (d.octets ++ octet :: rest)[j]? := by
  obtain ⟨first, extension, x⟩ := d
  obtain ⟨ext, pictureId, old, tid, i, l, tk⟩ := e
  cases there
  cases numbered
  obtain ⟨notNumber, notTl0⟩ := not_or.mp outside
  have number_idx : (2 : Int) ≠ 0 := by decide
  have idx : j ≠ 2 := fun same => notNumber ⟨number_idx, Or.inl same⟩
  cases field with
  | short number m =>
      cases old with
      | none =>
          rcases j with _ | _ | _ | j
          · rfl
          · rfl
          · exact absurd rfl idx
          · rfl
      | some old =>
          have tlz_idx : (3 : Int) ≠ 0 := by decide
          have tlz : j ≠ 3 := fun same => notTl0 ⟨tlz_idx, same⟩
          rcases j with _ | _ | _ | _ | j
          · rfl
          · rfl
          · exact absurd rfl idx
          · exact absurd rfl tlz
          · rfl
  | long number low m =>
      have second : j ≠ 3 := fun same => notNumber ⟨number_idx, Or.inr ⟨rfl, same⟩⟩
      cases old with
      | none =>
          rcases j with _ | _ | _ | _ | j
          · rfl
          · rfl
          · exact absurd rfl idx
          · exact absurd rfl second
          · rfl
      | some old =>
          have tlz_idx : (4 : Int) ≠ 0 := by decide
          have tlz : j ≠ 4 := fun same => notTl0 ⟨tlz_idx, same⟩
          rcases j with _ | _ | _ | _ | _ | j
          · rfl
          · rfl
          · exact absurd rfl idx
          · exact absurd rfl second
          · exact absurd rfl tlz
          · rfl

theorem renumber_length (there : d.extension = some e) (numbered : e.pictureId = some field) (picId : UInt16)
    (tl0 octet : UInt8) (rest : Bytes) :
    ((d.renumber picId tl0).octets ++ octet :: rest).length = (d.octets ++ octet :: rest).length := by
  simp only [octets, renumber, there, Option.map_some, Vp8Extension.octets, Vp8Extension.renumber, numbered,
    Vp8Extension.pictureIdOctets, List.length_append, List.length_cons, PictureIdField.renumber_length,
    Option.length_toList, Option.isSome_map]

/-- A descriptor without a picture number gets its high half over the first octet, which is the first octet of
the descriptor itself. -/
theorem rewrite_unnumbered (missing : d.pictureId = none) {picId : UInt16} (range : picId.toNat < 2 ^ 7)
    (tl0 octet : UInt8) (rest : Bytes) :
    (d.value octet).rewrite (d.octets ++ octet :: rest) picId tl0 =
      some (((d.octets ++ octet :: rest).set 0 0).set (d.value octet).tlzIdx.toNat tl0) := by
  have idx : (d.value octet).pictureIdIdx = 0 := by
    simp only [value, missing, Option.isSome_none, Bool.false_eq_true, if_false]
  have mbit : (d.value octet).mbit = false := by
    simp only [value, missing, Option.any_none]
  have start : 0 < (d.octets ++ octet :: rest).length := Nat.succ_pos _
  have inside : (d.value octet).tlzIdx.toNat < (d.octets ++ octet :: rest).length := by
    obtain ⟨first, extension, x⟩ := d
    cases extension with
    | none => exact start
    | some e =>
        obtain ⟨ext, number, old, tid, i, l, tk⟩ := e
        cases missing
        cases old with
        | none => exact start
        | some old => exact Nat.lt_of_sub_pos (Nat.succ_pos _)
  rw [Vp8.rewrite, idx, mbit, Int.toNat_zero, modify_short start inside, high_of_short range]

/-- The first octet is outside both fields. -/
theorem first_outside (d : Vp8Descriptor) (octet : UInt8) : ¬ (d.value octet).Rewritable 0 := by
  have two (there : Bool) : (if there then (2 : Int) else 0) ≠ 0 → 0 ≠ (if there then (2 : Int) else 0).toNat := by
    cases there <;> decide
  rintro (⟨present, same | ⟨-, same⟩⟩ | ⟨present, same⟩)
  · exact two _ present same
  · exact Nat.succ_ne_zero _ same.symm
  · simp only [value] at present same
    split at present
    · rename_i there
      rw [if_pos there] at same
      omega
    · exact present rfl

end Vp8Descriptor

namespace Vp8
variable {d : Vp8Descriptor} {octet : UInt8} {rest : Bytes} {picId : UInt16} {tl0 : UInt8}

/-- Without a picture number the payload must come out as it went in. -/
theorem unnumbered_iff (missing : d.pictureId = none) (range : picId.toNat < 2 ^ 7) :
    (∃ payload', (d.value octet).rewrite (d.octets ++ octet :: rest) picId tl0 = some payload' ∧
      (d.value octet).Rewritten (d.octets ++ octet :: rest) picId tl0 payload') ↔
      (d.value octet).RewritesBack (d.octets ++ octet :: rest) picId tl0 := by
  have unchanged := d.first_outside octet
  have idx : (d.value octet).pictureIdIdx = 0 := by
    simp only [Vp8Descriptor.value, missing, Option.isSome_none, Bool.false_eq_true, if_false]
  rw [Vp8Descriptor.rewrite_unnumbered missing range]
  by_cases tlz : (d.value octet).tlzIdx = 0
  · rw [tlz, Int.toNat_zero, List.set_set]
    constructor
    · rintro ⟨_, ⟨⟩, rewritten⟩
      have same : some tl0 = some d.first := rewritten.outside 0 unchanged
      exact ⟨Or.inr ⟨idx, tlz⟩, Or.inr same.symm⟩
    · rintro ⟨-, present | same⟩
      · exact absurd tlz present
      · obtain rfl : d.first = tl0 := Option.some.inj same
        refine ⟨_, rfl, ?_, List.length_set, fun _ _ => rfl⟩
        have back : (d.value octet).renumber picId d.first = d.value octet := by
          rw [renumber, if_neg (not_not_intro idx), if_neg (not_not_intro tlz)]
        rw [back]
        exact congrArg ExceptT.run (unmarshal_field d octet rest)
  · have announced : d.extension.isSome = true := by
      by_contra none
      rw [Option.not_isSome_iff_eq_none] at none
      refine tlz ?_
      simp only [Vp8Descriptor.value, Vp8Descriptor.tl0PicIdx, none, Option.bind_none, Option.isSome_none,
        Bool.false_eq_true, if_false]
    have behind : (d.value octet).tlzIdx.toNat ≠ 0 := fun zero => unchanged (Or.inr ⟨tlz, zero.symm⟩)
    constructor
    · rintro ⟨_, ⟨⟩, rewritten⟩
      have same := rewritten.outside 0 unchanged
      rw [List.getElem?_set_ne behind] at same
      have zero : some 0 = some d.first := same
      refine absurd ?_ (d.x.mp announced)
      rw [← Option.some.inj zero]
      rfl
    · rintro ⟨⟨present, -⟩ | ⟨-, zero⟩, -⟩
      · exact absurd idx present
      · exact absurd zero tlz

variable {e : Vp8Extension} {field : PictureIdField}

theorem renumbered_iff (there : d.extension = some e) (numbered : e.pictureId = some field)
    (range : picId.toNat < if field.isLong then 2 ^ 15 else 2 ^ 7) :
    (d.value octet).Rewritten (d.octets ++ octet :: rest) picId tl0
      ((d.renumber picId tl0).octets ++ octet :: rest) ↔ field.isLong = true ∨ picId = 0 := by
  rw [← PictureIdField.renumber_number field range]
  have idx : (d.value octet).pictureIdIdx ≠ 0 := by
    simp only [Vp8Descriptor.value, Vp8Descriptor.pictureId, there, numbered, Option.bind_some, Option.isSome_some,
      if_true]
    decide
  have parsed : (unmarshal {} ((d.renumber picId tl0).octets ++ octet :: rest)).run =
      some (.ok ((d.value octet).renumber (UInt16.ofNat (field.renumber picId).number) tl0)) := by
    rw [unmarshal_field, Vp8Descriptor.renumber_value there numbered]
    rfl
  constructor
  · rintro ⟨parses, -, -⟩
    rw [parsed, Option.some.injEq, Except.ok.injEq] at parses
    have same := congrArg pictureId parses
    simpa only [renumber, if_pos idx] using same
  · intro same
    rw [same] at parsed
    exact ⟨parsed, d.renumber_length there numbered picId tl0 octet rest, fun _ outside =>
      d.renumber_outside there numbered picId tl0 octet rest outside⟩

theorem numbered_iff (there : d.extension = some e) (numbered : e.pictureId = some field)
    (range : picId.toNat < if field.isLong then 2 ^ 15 else 2 ^ 7) :
    (∃ payload', (d.value octet).rewrite (d.octets ++ octet :: rest) picId tl0 = some payload' ∧
      (d.value octet).Rewritten (d.octets ++ octet :: rest) picId tl0 payload') ↔
      (d.value octet).RewritesBack (d.octets ++ octet :: rest) picId tl0 := by
  have exact : (d.value octet).Rewritten (d.octets ++ octet :: rest) picId tl0
      ((d.renumber picId tl0).octets ++ octet :: rest) ↔ field.isLong = true ∨ picId = 0 :=
    renumbered_iff there numbered range
  have idx : (d.value octet).pictureIdIdx ≠ 0 := by
    simp only [Vp8Descriptor.value, Vp8Descriptor.pictureId, there, numbered, Option.bind_some, Option.isSome_some,
      if_true]
    decide
  have mbit : (d.value octet).mbit = field.isLong := by
    simp only [Vp8Descriptor.value, Vp8Descriptor.pictureId, there, numbered, Option.bind_some, Option.any_some]
  have tlz : (d.value octet).tlzIdx ≠ 0 ↔ e.tl0PicIdx.isSome = true := by
    simp only [Vp8Descriptor.value, Vp8Descriptor.tl0PicIdx, there, Option.bind_some]
    split
    · rename_i present
      exact ⟨fun _ => present, fun _ => by omega⟩
    · rename_i absent
      exact ⟨fun same => absurd rfl same, fun present => absurd present absent⟩
  rw [Vp8Descriptor.rewrite_numbered there numbered range]
  unfold RewritesBack
  rw [mbit, tlz]
  by_cases present : e.tl0PicIdx.isSome = true
  · rw [if_pos present]
    constructor
    · rintro ⟨_, ⟨⟩, rewritten⟩
      exact ⟨Or.inl ⟨idx, exact.mp rewritten⟩, Or.inl present⟩
    · rintro ⟨⟨-, long⟩ | ⟨zero, -⟩, -⟩
      · exact ⟨_, rfl, exact.mpr long⟩
      · exact absurd zero idx
  · rw [if_neg present]
    constructor
    · rintro ⟨_, ⟨⟩, rewritten⟩
      have same : some tl0 = some d.first := rewritten.outside 0 (d.first_outside octet)
      obtain rfl := Option.some.inj same
      exact ⟨Or.inl ⟨idx, exact.mp rewritten⟩, Or.inr rfl⟩
    · rintro ⟨⟨-, long⟩ | ⟨zero, -⟩, there | same⟩
      · exact absurd there present
      · obtain rfl : d.first = tl0 := Option.some.inj same
        exact ⟨_, rfl, exact.mpr long⟩
      · exact absurd zero idx
      · exact absurd zero idx

/-- A rewriting of an accepted payload is the inverse of parsing exactly when it fills a number of fifteen bits
or clears one of seven, and meets the octets it writes for the fields that are missing. -/
theorem rewrite_inverse_iff {payload : Bytes} {v : Vp8} {picId : UInt16} {tl0 : UInt8}
    (accepted : (unmarshal {} payload).run = some (.ok v))
    (range : picId.toNat < if v.mbit then 2 ^ 15 else 2 ^ 7) :
    (∃ payload', v.rewrite payload picId tl0 = some payload' ∧ v.Rewritten payload picId tl0 payload') ↔
      v.RewritesBack payload picId tl0 := by
  obtain ⟨d, octet, rest, rfl, rfl⟩ := (unmarshal_answer_iff payload).mp accepted
  cases numbered : d.pictureId with
  | none =>
      have mbit : (d.value octet).mbit = false := by
        simp only [Vp8Descriptor.value, numbered, Option.any_none]
      rw [mbit] at range
      exact unnumbered_iff numbered range
  | some field =>
      obtain ⟨e, there, numbered⟩ := Option.bind_eq_some_iff.mp numbered
      have mbit : (d.value octet).mbit = field.isLong := by
        simp only [Vp8Descriptor.value, Vp8Descriptor.pictureId, there, numbered, Option.bind_some, Option.any_some]
      rw [mbit] at range
      exact numbered_iff there numbered range

/-- A seven-bit number is lost: the writer puts its high octet into the field. -/
theorem rewrite_loses_number :
    let payload : Bytes := [0x80, 0x80, 5, 0]
    let v : Vp8 := { pictureId := 5, pictureIdIdx := 2 }
    (unmarshal {} payload).run = some (.ok v) ∧ (6 : UInt16).toNat < (if v.mbit then 2 ^ 15 else 2 ^ 7) ∧
      ¬ ∃ payload', v.rewrite payload 6 0x80 = some payload' ∧ v.Rewritten payload 6 0x80 payload' := by
  intro payload v
  refine ⟨by decide, by decide, ?_⟩
  rintro ⟨_, ⟨⟩, parses, -, -⟩
  exact absurd parses (by decide)

theorem rewrite_inverse_iff_long :
    let payload : Bytes := [0x90, 0xc0, 0x80, 5, 9, 0]
    let v : Vp8 :=
      { pictureId := 5, pictureIdIdx := 2, mbit := true, tl0PictureIdx := 9, tlzIdx := 4, isKeyFrame := true }
    (∃ payload', v.rewrite payload 300 7 = some payload' ∧ v.Rewritten payload 300 7 payload') ↔
      v.RewritesBack payload 300 7 :=
  rewrite_inverse_iff (by decide) (by decide)

end Vp8

end Rsfu
