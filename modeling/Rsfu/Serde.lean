import Mathlib.Data.List.Basic

/-! Values as JSON trees, the way derived encoders and decoders treat the fields of
a struct: a field is found by its name, an optional one may be missing, and one
that is skipped is neither written nor read. -/
namespace Serde

inductive Json where
  | null
  | bool (b : Bool)
  | number (n : Nat)
  | string (s : String)
  | array (items : List Json)
  | object (fields : List (String × Json))

class Codec (α : Type) where
  encode : α → Json
  decode : Json → Option α

export Codec (encode decode)

/-- A value reads back, and is not mistaken for a missing one. -/
class RoundTrips (α : Type) [Codec α] : Prop where
  decode_encode : ∀ a : α, decode (encode a) = some a
  encode_ne_null : ∀ a : α, encode a ≠ .null

section Fields
variable {α : Type} [Codec α]

def readRequired (fields : List (String × Json)) (name : String) : Option α := (fields.lookup name).bind decode

/-- A field of an optional type: missing and null both read as none. -/
def readOptional (fields : List (String × Json)) (name : String) : Option (Option α) :=
  match fields.lookup name with
  | none => some none
  | some .null => some none
  | some value => (decode value).map some

/-- An optional field that is left out when it is none. -/
def writeOptional (name : String) (a : Option α) : List (String × Json) := a.toList.map fun a => (name, encode a)

theorem lookup_cons_ne {name other : String} (value : Json) (rest : List (String × Json)) (ne : name ≠ other) :
    ((other, value) :: rest).lookup name = rest.lookup name := by
  rw [List.lookup_cons, beq_eq_false_iff_ne.mpr ne]

theorem lookup_writeOptional_ne {name other : String} (a : Option α) (rest : List (String × Json))
    (ne : name ≠ other) : (writeOptional other a ++ rest).lookup name = rest.lookup name := by
  cases a with
  | none => rfl
  | some a => exact lookup_cons_ne _ rest ne

theorem lookup_writeOptional_self (name : String) (a : Option α) (rest : List (String × Json)) :
    (writeOptional name a ++ rest).lookup name = (a.map encode).or (rest.lookup name) := by
  cases a with
  | none => rfl
  | some a => exact List.lookup_cons_self

theorem readRequired_of_lookup [RoundTrips α] {fields : List (String × Json)} {name : String} {a : α}
    (found : fields.lookup name = some (encode a)) : readRequired fields name = some a := by
  rw [readRequired, found, Option.bind_some, RoundTrips.decode_encode]

/-- An optional field reads as what its decoder makes of the value. -/
theorem readOptional_of_lookup {fields : List (String × Json)} {name : String} {a : Option α} (reading : α → α)
    (reads : ∀ a : α, decode (encode a) = some (reading a)) (filled : ∀ a : α, encode a ≠ .null)
    (found : fields.lookup name = a.map encode) : readOptional fields name = some (a.map reading) := by
  unfold readOptional
  rw [found]
  cases a with
  | none => rfl
  | some a =>
      rw [Option.map_some]
      split
      · rename_i missing
        cases missing
      · rename_i null
        exact absurd (Option.some.inj null) (filled a)
      · rename_i read
        cases read
        rw [reads, Option.map_some, Option.map_some]

theorem readOptional_reads [RoundTrips α] {fields : List (String × Json)} {name : String} {a : Option α}
    (found : fields.lookup name = a.map encode) : readOptional fields name = some a := by
  rw [readOptional_of_lookup id RoundTrips.decode_encode RoundTrips.encode_ne_null found, Option.map_id, id]

end Fields

instance : Codec Bool where
  encode := .bool
  decode
    | .bool b => some b
    | _ => none

instance : Codec String where
  encode := .string
  decode
    | .string s => some s
    | _ => none

instance : Codec UInt64 where
  encode n := .number n.toNat
  decode
    | .number n => if n < UInt64.size then some (UInt64.ofNat n) else none
    | _ => none

instance : Codec UInt8 where
  encode n := .number n.toNat
  decode
    | .number n => if n < UInt8.size then some (UInt8.ofNat n) else none
    | _ => none

instance {α : Type} [Codec α] : Codec (List α) where
  encode items := .array (items.map encode)
  decode
    | .array items => items.mapM decode
    | _ => none

instance : RoundTrips Bool := ⟨fun _ => rfl, fun _ => nofun⟩

instance : RoundTrips String := ⟨fun _ => rfl, fun _ => nofun⟩

instance : RoundTrips UInt64 where
  decode_encode n := by
    change (if n.toNat < UInt64.size then some (UInt64.ofNat n.toNat) else none) = some n
    rw [if_pos n.toNat_lt_size, UInt64.ofNat_toNat]
  encode_ne_null _ := nofun

instance : RoundTrips UInt8 where
  decode_encode n := by
    change (if n.toNat < UInt8.size then some (UInt8.ofNat n.toNat) else none) = some n
    rw [if_pos n.toNat_lt_size, UInt8.ofNat_toNat]
  encode_ne_null _ := nofun

theorem mapM_decode_encode {α : Type} [Codec α] [RoundTrips α] (items : List α) :
    (items.map encode).mapM decode = some items := by
  induction items with
  | nil => rfl
  | cons a rest ih => simp only [List.map_cons, List.mapM_cons, RoundTrips.decode_encode, ih, Option.bind_eq_bind,
      Option.bind_some, Option.pure_def]

instance {α : Type} [Codec α] [RoundTrips α] : RoundTrips (List α) where
  decode_encode := mapM_decode_encode
  encode_ne_null _ := nofun

end Serde
