import Rsfu.PayloadHelpers

/-! The VP8 payload descriptor as a grammar, and the parser against it. Each
optional field is there exactly when its bit is set, so a descriptor is fixed by
its octets; the parser accepts the descriptors with a payload octet behind them. -/
namespace Rsfu

/-- `I`: a picture number of seven bits, or of fifteen when `M` is set. -/
inductive PictureIdField where
  | short (octet : UInt8) (m : octet &&& 0x80 = 0)
  | long (octet low : UInt8) (m : octet &&& 0x80 ≠ 0)

namespace PictureIdField

def octets : PictureIdField → Bytes
  | .short octet _ => [octet]
  | .long octet low _ => [octet, low]

def number : PictureIdField → Nat
  | .short octet _ => octet.toNat % 2 ^ 7
  | .long octet low _ => octet.toNat % 2 ^ 7 * 2 ^ 8 + low.toNat

def isLong : PictureIdField → Bool
  | .short .. => false
  | .long .. => true

end PictureIdField

/-- The octet behind `X` and the fields its bits `I`, `L`, `T` and `K` announce. -/
structure Vp8Extension where
  octet : UInt8
  pictureId : Option PictureIdField
  tl0PicIdx : Option UInt8
  tidYKeyIdx : Option UInt8
  i : pictureId.isSome = true ↔ octet &&& 0x80 ≠ 0
  l : tl0PicIdx.isSome = true ↔ octet &&& 0x40 ≠ 0
  tk : tidYKeyIdx.isSome = true ↔ octet &&& 0x20 ≠ 0 ∨ octet &&& 0x10 ≠ 0

namespace Vp8Extension

def pictureIdOctets : Option PictureIdField → Bytes
  | none => []
  | some field => field.octets

def octets (e : Vp8Extension) : Bytes :=
  e.octet :: (pictureIdOctets e.pictureId ++ (e.tl0PicIdx.toList ++ e.tidYKeyIdx.toList))

end Vp8Extension

structure Vp8Descriptor where
  first : UInt8
  extension : Option Vp8Extension
  x : extension.isSome = true ↔ first &&& 0x80 ≠ 0

namespace Vp8Descriptor

def octets (d : Vp8Descriptor) : Bytes :=
  d.first :: match d.extension with
    | none => []
    | some e => e.octets

def pictureId (d : Vp8Descriptor) : Option PictureIdField := d.extension.bind Vp8Extension.pictureId

def tl0PicIdx (d : Vp8Descriptor) : Option UInt8 := d.extension.bind Vp8Extension.tl0PicIdx

def tidYKeyIdx (d : Vp8Descriptor) : Option UInt8 := d.extension.bind Vp8Extension.tidYKeyIdx

/-- The values of the fields, in front of the payload octet `octet`. -/
def value (d : Vp8Descriptor) (octet : UInt8) : Vp8 where
  temporalSupported := d.extension.any fun e => decide (e.octet &&& 0x20 ≠ 0)
  pictureId := UInt16.ofNat ((d.pictureId.map PictureIdField.number).getD 0)
  pictureIdIdx := if d.pictureId.isSome then 2 else 0
  mbit := d.pictureId.any PictureIdField.isLong
  tl0PictureIdx := d.tl0PicIdx.getD 0
  tlzIdx := if d.tl0PicIdx.isSome then 2 + (Vp8Extension.pictureIdOctets d.pictureId).length else 0
  tid := (d.tidYKeyIdx.map fun octet => UInt8.ofNat (octet.toNat / 2 ^ 6)).getD 0
  isKeyFrame := decide (d.first &&& 0x10 ≠ 0 ∧ octet &&& 0x01 = 0)

end Vp8Descriptor

section Reads
variable {payload rest : Bytes} {idx : Nat} {octet : UInt8}

theorem requireIndex_cons (here : payload.drop idx = octet :: rest) : requireIndex payload idx = pure () := by
  have inside : idx < payload.length := by
    have := congrArg List.length here
    rw [List.length_drop, List.length_cons] at this
    omega
  rw [requireIndex, if_neg (by omega)]

theorem requireIndex_nil (out : payload.drop idx = []) : requireIndex payload idx = throw .errShortPacket := by
  have outside := List.drop_eq_nil_iff.mp out
  rw [requireIndex, if_pos (by omega)]

theorem payloadAt_cons (here : payload.drop idx = octet :: rest) : payloadAt payload idx = pure octet := by
  have read : payload[idx]? = some octet := by
    rw [← List.head?_drop, here, List.head?_cons]
  rw [payloadAt, read]
  rfl

theorem drop_succ (here : payload.drop idx = octet :: rest) : payload.drop (idx + 1) = rest := by
  rw [← List.tail_drop, here, List.tail_cons]

end Reads

namespace Vp8

/-- The fields that `readPictureId` sets. -/
def withPictureId (v : Vp8) (idx : Nat) : PictureIdField → Vp8
  | .short octet m =>
      { v with pictureIdIdx := idx, pictureId := UInt16.ofNat (PictureIdField.short octet m).number }
  | .long octet low m =>
      { v with pictureIdIdx := idx, mbit := true, pictureId := UInt16.ofNat (PictureIdField.long octet low m).number }

theorem low_bits (octet : UInt8) : (octet &&& 0x7f).toNat = octet.toNat % 2 ^ 7 := by
  rw [UInt8.toNat_and]
  exact Nat.and_two_pow_sub_one_eq_mod _ 7

theorem short_number (octet : UInt8) : (octet &&& 0x7f).toUInt16 = UInt16.ofNat (octet.toNat % 2 ^ 7) := by
  rw [← UInt16.toNat_inj, UInt8.toNat_toUInt16, low_bits, UInt16.toNat_ofNat']
  omega

theorem long_number (octet low : UInt8) :
    ((octet &&& 0x7f).toUInt16 <<< 8) ||| low.toUInt16 = UInt16.ofNat (octet.toNat % 2 ^ 7 * 2 ^ 8 + low.toNat) := by
  have joined := ByteStore.toNat_beU16 (octet &&& 0x7f) low
  rw [ByteStore.beU16, low_bits] at joined
  rw [← UInt16.toNat_inj, joined, UInt16.toNat_ofNat']
  have := low.toNat_lt
  omega

theorem readPictureId_field (v : Vp8) {payload rest : Bytes} {idx : Nat} (field : PictureIdField)
    (here : payload.drop idx = field.octets ++ rest) :
    v.readPictureId payload idx = pure (v.withPictureId idx field, idx + field.octets.length - 1) := by
  cases field with
  | short octet m =>
      have clear : ¬ 0 < octet &&& 0x80 := by rw [m]; decide
      simp only [readPictureId, requireIndex_cons here, payloadAt_cons here, pure_bind, if_neg clear,
        short_number]
      rfl
  | long octet low m =>
      have set : 0 < octet &&& 0x80 := UInt8.pos_iff_ne_zero.mpr m
      have second := drop_succ here
      simp only [readPictureId, requireIndex_cons here, payloadAt_cons here, pure_bind, if_pos set,
        requireIndex_cons second, payloadAt_cons second, long_number]
      rfl

theorem readPictureId_total (v : Vp8) (payload : Bytes) (idx : Nat) :
    (∃ field : PictureIdField, ∃ rest, payload.drop idx = field.octets ++ rest) ∨
      v.readPictureId payload idx = throw .errShortPacket := by
  cases here : payload.drop idx with
  | nil =>
      right
      rw [readPictureId, requireIndex_nil here]
      rfl
  | cons octet rest =>
      by_cases m : octet &&& 0x80 = 0
      · exact Or.inl ⟨.short octet m, rest, rfl⟩
      · cases rest with
        | cons low rest => exact Or.inl ⟨.long octet low m, rest, rfl⟩
        | nil =>
            right
            have set : 0 < octet &&& 0x80 := UInt8.pos_iff_ne_zero.mpr m
            have out : payload.drop (idx + 1) = [] := drop_succ here
            simp only [readPictureId, requireIndex_cons here, payloadAt_cons here, pure_bind, if_pos set,
              requireIndex_nil out]
            rfl

theorem readTl0PicIdx_cons (v : Vp8) {payload rest : Bytes} {idx : Nat} {octet : UInt8}
    (here : payload.drop idx = octet :: rest) :
    v.readTl0PicIdx payload idx = pure { v with tlzIdx := (idx : Int), tl0PictureIdx := octet } := by
  have inside : ¬ payload.length ≤ idx := by
    intro out
    rw [List.drop_eq_nil_of_le out] at here
    cases here
  simp only [readTl0PicIdx, requireIndex_cons here, payloadAt_cons here, pure_bind, if_neg inside]

theorem top_bits (octet : UInt8) : (octet &&& 0xc0) >>> 6 = UInt8.ofNat (octet.toNat / 2 ^ 6) := by
  have every : ∀ b : BitVec 8, (b &&& 0xc0#8) >>> 6 = BitVec.ofNat 8 (b.toNat / 2 ^ 6) := by decide
  exact UInt8.toBitVec_inj.mp (every octet.toBitVec)

theorem readTid_cons (v : Vp8) {payload rest : Bytes} {idx : Nat} {octet : UInt8}
    (here : payload.drop idx = octet :: rest) :
    v.readTid payload idx = pure { v with tid := UInt8.ofNat (octet.toNat / 2 ^ 6) } := by
  simp only [readTid, requireIndex_cons here, payloadAt_cons here, pure_bind, top_bits]

section Stages
variable (v : Vp8) (payload : Bytes) (idx : Nat) (present : Prop) [Decidable present]

/-- The three optional fields, one after the other; each answers the index of the last octet read. -/
def pictureIdStage : ExceptT BufferError Option (Vp8 × Nat) :=
  if present then v.readPictureId payload (idx + 1) else pure (v, idx)

def tl0PicIdxStage : ExceptT BufferError Option (Vp8 × Nat) :=
  if present then (fun v => (v, idx + 1)) <$> v.readTl0PicIdx payload (idx + 1) else pure (v, idx)

def tidStage : ExceptT BufferError Option (Vp8 × Nat) :=
  if present then (fun v => (v, idx + 1)) <$> v.readTid payload (idx + 1) else pure (v, idx)

def withPictureId? (idx : Nat) : Option PictureIdField → Vp8
  | none => v
  | some field => v.withPictureId idx field

def withTl0PicIdx? (idx : Nat) : Option UInt8 → Vp8
  | none => v
  | some octet => { v with tlzIdx := (idx : Int), tl0PictureIdx := octet }

def withTid? : Option UInt8 → Vp8
  | none => v
  | some octet => { v with tid := UInt8.ofNat (octet.toNat / 2 ^ 6) }

variable {payload idx present}

theorem pictureIdStage_field {rest : Bytes} (field : Option PictureIdField)
    (exact : field.isSome = true ↔ present)
    (here : payload.drop (idx + 1) = Vp8Extension.pictureIdOctets field ++ rest) :
    v.pictureIdStage payload idx present =
      pure (v.withPictureId? (idx + 1) field, idx + (Vp8Extension.pictureIdOctets field).length) := by
  cases field with
  | none =>
      have absent : ¬ present := fun there => Bool.false_ne_true (exact.mpr there)
      rw [pictureIdStage, if_neg absent]
      rfl
  | some field =>
      rw [pictureIdStage, if_pos (exact.mp rfl), readPictureId_field v field here]
      congr 2
      have : Vp8Extension.pictureIdOctets (some field) = field.octets := rfl
      rw [this]
      omega

theorem tl0PicIdxStage_field {rest : Bytes} (octet : Option UInt8) (exact : octet.isSome = true ↔ present)
    (here : payload.drop (idx + 1) = octet.toList ++ rest) :
    v.tl0PicIdxStage payload idx present =
      pure (v.withTl0PicIdx? (idx + 1) octet, idx + octet.toList.length) := by
  cases octet with
  | none =>
      have absent : ¬ present := fun there => Bool.false_ne_true (exact.mpr there)
      rw [tl0PicIdxStage, if_neg absent]
      rfl
  | some octet =>
      rw [tl0PicIdxStage, if_pos (exact.mp rfl), readTl0PicIdx_cons v here, map_pure]
      rfl

theorem tidStage_field {rest : Bytes} (octet : Option UInt8) (exact : octet.isSome = true ↔ present)
    (here : payload.drop (idx + 1) = octet.toList ++ rest) :
    v.tidStage payload idx present = pure (v.withTid? octet, idx + octet.toList.length) := by
  cases octet with
  | none =>
      have absent : ¬ present := fun there => Bool.false_ne_true (exact.mpr there)
      rw [tidStage, if_neg absent]
      rfl
  | some octet =>
      rw [tidStage, if_pos (exact.mp rfl), readTid_cons v here, map_pure]
      rfl

variable (payload idx present)

theorem pictureIdStage_total :
    (∃ field : Option PictureIdField, ∃ rest, (field.isSome = true ↔ present) ∧
      payload.drop (idx + 1) = Vp8Extension.pictureIdOctets field ++ rest) ∨
      v.pictureIdStage payload idx present = throw .errShortPacket := by
  by_cases there : present
  · rcases readPictureId_total v payload (idx + 1) with ⟨field, rest, here⟩ | short
    · exact Or.inl ⟨some field, rest, ⟨fun _ => there, fun _ => rfl⟩, here⟩
    · exact Or.inr ((if_pos there).trans short)
  · exact Or.inl ⟨none, _, ⟨fun some => absurd some Bool.false_ne_true, fun yes => absurd yes there⟩, rfl⟩

theorem tl0PicIdxStage_total :
    (∃ octet : Option UInt8, ∃ rest, (octet.isSome = true ↔ present) ∧
      payload.drop (idx + 1) = octet.toList ++ rest) ∨
      v.tl0PicIdxStage payload idx present = throw .errShortPacket := by
  by_cases there : present
  · cases here : payload.drop (idx + 1) with
    | cons octet rest => exact Or.inl ⟨some octet, rest, ⟨fun _ => there, fun _ => rfl⟩, rfl⟩
    | nil =>
        right
        rw [tl0PicIdxStage, if_pos there, readTl0PicIdx, requireIndex_nil here]
        rfl
  · exact Or.inl ⟨none, _, ⟨fun some => absurd some Bool.false_ne_true, fun yes => absurd yes there⟩, rfl⟩

theorem tidStage_total :
    (∃ octet : Option UInt8, ∃ rest, (octet.isSome = true ↔ present) ∧
      payload.drop (idx + 1) = octet.toList ++ rest) ∨
      v.tidStage payload idx present = throw .errShortPacket := by
  by_cases there : present
  · cases here : payload.drop (idx + 1) with
    | cons octet rest => exact Or.inl ⟨some octet, rest, ⟨fun _ => there, fun _ => rfl⟩, rfl⟩
    | nil =>
        right
        rw [tidStage, if_pos there, readTid, requireIndex_nil here]
        rfl
  · exact Or.inl ⟨none, _, ⟨fun some => absurd some Bool.false_ne_true, fun yes => absurd yes there⟩, rfl⟩

end Stages

theorem ite_bind {α β : Type} (c : Prop) [Decidable c] (x y : ExceptT BufferError Option α)
    (f : α → ExceptT BufferError Option β) :
    (if c then x else y) >>= f = if c then x >>= f else y >>= f := by
  split
  · rfl
  · rfl

theorem readExtension_stages (v : Vp8) {payload rest : Bytes} {idx : Nat} {ext : UInt8}
    (here : payload.drop idx = ext :: rest) :
    v.readExtension payload idx = (do
      let r ← { v with temporalSupported := decide (ext &&& 0x20 ≠ 0) }.pictureIdStage payload idx (ext &&& 0x80 ≠ 0)
      let r ← r.1.tl0PicIdxStage payload r.2 (ext &&& 0x40 ≠ 0)
      let r ← r.1.tidStage payload r.2 (r.1.temporalSupported = true ∨ ext &&& 0x10 ≠ 0)
      if payload.length ≤ r.2 then throw .errShortPacket else pure r) := by
  simp only [Vp8.readExtension, requireIndex_cons here, payloadAt_cons here, UInt8.pos_iff_ne_zero,
    pictureIdStage, tl0PicIdxStage, tidStage, map_eq_pure_bind, ite_bind, bind_assoc, pure_bind]
  rfl

@[simp] theorem withPictureId?_temporalSupported (v : Vp8) (idx : Nat) (field : Option PictureIdField) :
    (v.withPictureId? idx field).temporalSupported = v.temporalSupported := by
  rcases field with _ | _ | _
  · rfl
  · rfl
  · rfl

@[simp] theorem withTl0PicIdx?_temporalSupported (v : Vp8) (idx : Nat) (octet : Option UInt8) :
    (v.withTl0PicIdx? idx octet).temporalSupported = v.temporalSupported := by
  cases octet <;> rfl

/-- What `readExtension` makes of the fields of an extension at `idx`. -/
def withExtension (v : Vp8) (idx : Nat) (e : Vp8Extension) : Vp8 :=
  (({ v with temporalSupported := decide (e.octet &&& 0x20 ≠ 0) }.withPictureId? (idx + 1) e.pictureId).withTl0PicIdx?
    (idx + (Vp8Extension.pictureIdOctets e.pictureId).length + 1) e.tl0PicIdx).withTid? e.tidYKeyIdx

theorem drop_field {payload front rest : Bytes} {idx : Nat} (here : payload.drop (idx + 1) = front ++ rest) :
    payload.drop (idx + front.length + 1) = rest := by
  rw [Nat.add_right_comm, ← List.drop_drop, here, List.drop_left]

theorem readExtension_field (v : Vp8) {payload rest : Bytes} {idx : Nat} (e : Vp8Extension)
    (here : payload.drop idx = e.octets ++ rest) :
    v.readExtension payload idx = pure (v.withExtension idx e, idx + e.octets.length - 1) := by
  have first : payload.drop idx = e.octet :: (Vp8Extension.pictureIdOctets e.pictureId ++
      (e.tl0PicIdx.toList ++ (e.tidYKeyIdx.toList ++ rest))) := by
    simpa only [Vp8Extension.octets, List.cons_append, List.append_assoc] using here
  have second := drop_succ first
  have third := drop_field second
  have fourth := drop_field third
  have inside : ¬ payload.length ≤ idx + (Vp8Extension.pictureIdOctets e.pictureId).length +
      e.tl0PicIdx.toList.length + e.tidYKeyIdx.toList.length := by
    have count := congrArg List.length first
    simp only [List.length_drop, List.length_cons, List.length_append] at count
    omega
  have tk : e.tidYKeyIdx.isSome = true ↔ decide (e.octet &&& 0x20 ≠ 0) = true ∨ e.octet &&& 0x10 ≠ 0 := by
    rw [e.tk, decide_eq_true_eq]
  rw [readExtension_stages v first, pictureIdStage_field _ e.pictureId e.i second, pure_bind,
    tl0PicIdxStage_field _ e.tl0PicIdx e.l third, pure_bind]
  simp only [withTl0PicIdx?_temporalSupported, withPictureId?_temporalSupported]
  rw [tidStage_field _ e.tidYKeyIdx tk fourth, pure_bind, if_neg inside]
  simp only [Vp8Extension.octets, List.length_cons, List.length_append]
  congr 2
  omega

theorem readExtension_total (v : Vp8) (payload : Bytes) (idx : Nat) :
    (∃ e : Vp8Extension, ∃ rest, payload.drop idx = e.octets ++ rest) ∨
      v.readExtension payload idx = throw .errShortPacket := by
  cases first : payload.drop idx with
  | nil =>
      right
      rw [readExtension, requireIndex_nil first]
      rfl
  | cons ext rest =>
      rw [readExtension_stages v first]
      rcases pictureIdStage_total { v with temporalSupported := decide (ext &&& 0x20 ≠ 0) } payload idx
        (ext &&& 0x80 ≠ 0) with ⟨field, rest2, i, second⟩ | short
      · rw [pictureIdStage_field _ field i second, pure_bind]
        have third := drop_field second
        rcases tl0PicIdxStage_total ({ v with temporalSupported := decide (ext &&& 0x20 ≠ 0) }.withPictureId?
          (idx + 1) field) payload (idx + (Vp8Extension.pictureIdOctets field).length)
          (ext &&& 0x40 ≠ 0) with ⟨tl0, rest3, l, third'⟩ | short
        · rw [tl0PicIdxStage_field _ tl0 l third', pure_bind]
          simp only [withTl0PicIdx?_temporalSupported, withPictureId?_temporalSupported]
          rcases tidStage_total (({ v with temporalSupported := decide (ext &&& 0x20 ≠ 0) }.withPictureId?
            (idx + 1) field).withTl0PicIdx? (idx + (Vp8Extension.pictureIdOctets field).length + 1) tl0) payload
            (idx + (Vp8Extension.pictureIdOctets field).length + tl0.toList.length)
            (decide (ext &&& 0x20 ≠ 0) = true ∨ ext &&& 0x10 ≠ 0) with ⟨tid, rest4, tk, fourth⟩ | short
          · rw [decide_eq_true_eq] at tk
            refine Or.inl ⟨⟨ext, field, tl0, tid, i, l, tk⟩, rest4, ?_⟩
            have behind := drop_succ first
            rw [← behind, second, ← third, third', ← drop_field third', fourth]
            simp only [Vp8Extension.octets, List.cons_append, List.append_assoc]
          · exact Or.inr ((congrArg (· >>= _) short).trans (ExceptT.bind_throw _))
        · exact Or.inr ((congrArg (· >>= _) short).trans (ExceptT.bind_throw _))
      · exact Or.inr ((congrArg (· >>= _) short).trans (ExceptT.bind_throw _))

theorem withExtension_value (d : Vp8Descriptor) {e : Vp8Extension} (there : d.extension = some e) (octet : UInt8) :
    { ({} : Vp8).withExtension 1 e with isKeyFrame := decide (d.first &&& 0x10 ≠ 0 ∧ octet &&& 0x01 = 0) } =
      d.value octet := by
  simp only [Vp8Descriptor.value, Vp8Descriptor.pictureId, Vp8Descriptor.tl0PicIdx, Vp8Descriptor.tidYKeyIdx, there,
    Option.bind_some, Option.any_some, withExtension]
  cases e.pictureId with
  | none => cases e.tl0PicIdx <;> cases e.tidYKeyIdx <;> rfl
  | some field =>
      cases field with
      | short octet m => cases e.tl0PicIdx <;> cases e.tidYKeyIdx <;> rfl
      | long octet low m => cases e.tl0PicIdx <;> cases e.tidYKeyIdx <;> rfl

/-- The test of the last octet, as the parser writes it. -/
theorem keyFrame_bits (first octet : UInt8) :
    (octet &&& 0x01 == 0 && decide (0 < first &&& 0x10)) = decide (first &&& 0x10 ≠ 0 ∧ octet &&& 0x01 = 0) := by
  rw [Bool.eq_iff_iff, Bool.and_eq_true, beq_iff_eq, decide_eq_true_eq, decide_eq_true_eq, UInt8.pos_iff_ne_zero,
    and_comm]

theorem unmarshal_field (d : Vp8Descriptor) (octet : UInt8) (rest : Bytes) :
    unmarshal {} (d.octets ++ octet :: rest) = pure (d.value octet) := by
  obtain ⟨first, extension, x⟩ := d
  cases extension with
  | none =>
      have clear : ¬ 0 < first &&& 0x80 := by
        rw [UInt8.pos_iff_ne_zero]
        intro set
        exact Bool.false_ne_true (x.mpr set)
      have start : List.drop 0 (first :: octet :: rest) = first :: octet :: rest := rfl
      have next : List.drop (0 + 1) (first :: octet :: rest) = octet :: rest := rfl
      simp only [unmarshal, Vp8Descriptor.octets, List.singleton_append, payloadAt_cons start, pure_bind,
        if_neg clear, requireIndex_cons next, payloadAt_cons next, keyFrame_bits]
      have full : ¬ (first :: octet :: rest).length = 0 := Nat.succ_ne_zero _
      rw [if_neg full]
      rfl
  | some e =>
      have set : 0 < first &&& 0x80 := UInt8.pos_iff_ne_zero.mpr (x.mp rfl)
      have start : List.drop 0 (first :: (e.octets ++ octet :: rest)) = first :: (e.octets ++ octet :: rest) := rfl
      have fields : List.drop 1 (first :: (e.octets ++ octet :: rest)) = e.octets ++ octet :: rest := rfl
      have next : List.drop (1 + e.octets.length - 1 + 1) (first :: (e.octets ++ octet :: rest)) = octet :: rest := by
        rw [Nat.add_sub_cancel_left, List.drop_succ_cons, List.drop_left]
      simp only [unmarshal, Vp8Descriptor.octets, List.cons_append, payloadAt_cons start, pure_bind, if_pos set,
        readExtension_field _ e fields, requireIndex_cons next, payloadAt_cons next, keyFrame_bits]
      rw [← withExtension_value ⟨first, some e, x⟩ rfl]
      rfl

theorem unmarshal_total (p : Bytes) :
    (∃ d : Vp8Descriptor, ∃ octet rest, p = d.octets ++ octet :: rest) ∨ ∃ e, unmarshal {} p = throw e := by
  cases p with
  | nil => exact Or.inr ⟨.errNilPacket, rfl⟩
  | cons first tail =>
      have start : List.drop 0 (first :: tail) = first :: tail := rfl
      by_cases x : first &&& 0x80 = 0
      · cases tail with
        | cons octet rest =>
            exact Or.inl ⟨⟨first, none, fun there => absurd there Bool.false_ne_true, fun set => absurd x set⟩, octet,
              rest, rfl⟩
        | nil =>
            refine Or.inr ⟨.errShortPacket, ?_⟩
            have clear : ¬ 0 < first &&& 0x80 := fun set => UInt8.pos_iff_ne_zero.mp set x
            simp only [unmarshal, payloadAt_cons start, pure_bind, if_neg clear]
            rfl
      · have set : 0 < first &&& 0x80 := UInt8.pos_iff_ne_zero.mpr x
        rcases readExtension_total {} (first :: tail) 1 with ⟨e, rest, here⟩ | short
        · have fields : tail = e.octets ++ rest := here
          cases rest with
          | cons octet rest =>
              exact Or.inl ⟨⟨first, some e, fun _ => x, fun _ => rfl⟩, octet, rest, congrArg (first :: ·) fields⟩
          | nil =>
              refine Or.inr ⟨.errShortPacket, ?_⟩
              have out : List.drop (1 + e.octets.length - 1 + 1) (first :: tail) = [] := by
                rw [Nat.add_sub_cancel_left, List.drop_succ_cons, fields, List.drop_left]
              simp only [unmarshal, payloadAt_cons start, pure_bind, if_pos set, readExtension_field _ e here,
                requireIndex_nil out]
              rfl
        · refine Or.inr ⟨.errShortPacket, ?_⟩
          simp only [unmarshal, payloadAt_cons start, pure_bind, if_pos set, short]
          rfl

theorem unmarshal_answer_iff (p : Bytes) {v : Vp8} :
    (unmarshal {} p).run = some (.ok v) ↔
      ∃ d : Vp8Descriptor, ∃ octet rest, p = d.octets ++ octet :: rest ∧ v = d.value octet := by
  constructor
  · intro answer
    rcases unmarshal_total p with ⟨d, octet, rest, rfl⟩ | ⟨e, short⟩
    · rw [unmarshal_field] at answer
      cases answer
      exact ⟨d, octet, rest, rfl, rfl⟩
    · rw [short] at answer
      cases answer
  · rintro ⟨d, octet, rest, rfl, rfl⟩
    rw [unmarshal_field]
    rfl

/-- The parser never reads outside its input, accepts the descriptors in front of a payload octet and
no other input, and answers the values of their fields. -/
theorem unmarshal_exact (p : Bytes) :
    (unmarshal {} p).run ≠ none ∧
      ∀ v, (unmarshal {} p).run = some (.ok v) ↔
        ∃ d : Vp8Descriptor, ∃ octet rest, p = d.octets ++ octet :: rest ∧ v = d.value octet := by
  refine ⟨?_, fun v => unmarshal_answer_iff p⟩
  rcases unmarshal_total p with ⟨d, octet, rest, rfl⟩ | ⟨e, short⟩
  · rw [unmarshal_field]
    exact Option.some_ne_none _
  · rw [short]
    exact Option.some_ne_none _

end Vp8

end Rsfu
