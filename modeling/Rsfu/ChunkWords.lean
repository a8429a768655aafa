import Rsfu.ResponderRuns
import Rsfu.WordPacking
import Rsfu.SerialNumber

/-! Packet status chunks: how a receiver of the feedback reads them, and what the
three writers of the responder append. -/
namespace Rsfu
open WordPacking SerialNumber

def statusOf : Nat → SymbolTypeTcc
  | 0 => .packetNotReceived
  | 1 => .packetReceivedSmallDelta
  | 2 => .packetReceivedLargeDelta
  | _ => .packetReceivedWithoutDelta

/-- A run-length chunk, fourteen symbols of one bit or seven of two bits. -/
def decodeChunk (word : UInt16) : List SymbolTypeTcc :=
  if word.toNat < 32768 then List.replicate (word.toNat % 8192) (statusOf (word.toNat / 8192))
  else if word.toNat < 49152 then (digits 1 14 word.toNat).map statusOf
  else (digits 2 7 word.toNat).map statusOf

def decodeChunks : Bytes → Option (List SymbolTypeTcc)
  | [] => some []
  | hi :: lo :: rest => (decodeChunks rest).map (decodeChunk (ByteStore.beU16 hi lo) ++ ·)
  | [_] => none

def SymbolSizeTypeTcc.bits : SymbolSizeTypeTcc → Nat
  | .oneBit => 1
  | .twoBit => 2

def SymbolSizeTypeTcc.slots : SymbolSizeTypeTcc → Nat
  | .oneBit => 14
  | .twoBit => 7

def SymbolTypeTcc.code (status : SymbolTypeTcc) : Nat := status.toU16.toNat

theorem statusOf_code (status : SymbolTypeTcc) : statusOf status.code = status := by
  cases status <;> rfl

theorem decodeChunks_append {chunks : Bytes} {statuses : List SymbolTypeTcc} (more : Bytes)
    (h : decodeChunks chunks = some statuses) :
    decodeChunks (chunks ++ more) = (decodeChunks more).map (statuses ++ ·) := by
  induction chunks using decodeChunks.induct generalizing statuses with
  | case1 =>
      cases h
      exact Option.map_id'.symm
  | case2 hi lo rest ih =>
      obtain ⟨later, decoded, rfl⟩ := Option.map_eq_some_iff.mp h
      change (decodeChunks (rest ++ more)).map _ = _
      rw [ih decoded, Option.map_map]
      congr 1
      funext added
      exact (List.append_assoc _ _ _).symm
  | case3 => cases h

theorem decodeChunks_word (word : UInt16) : decodeChunks (ByteStore.beBytes word) = some (decodeChunk word) := by
  change some (decodeChunk (ByteStore.beU16 _ _) ++ []) = _
  rw [List.append_nil, ByteStore.beU16_beBytes]

theorem toNat_setNBits {src size start val : UInt16} (some : 1 ≤ size.toNat)
    (fits : start.toNat + size.toNat ≤ 16) (below : size.toNat < 16) :
    (setNBitsOfU16 src size start val).toNat =
      src.toNat ||| val.toNat % 2 ^ size.toNat * 2 ^ (16 - size.toNat - start.toNat) := by
  have room : ¬ 16 < start + size := by
    rw [UInt16.lt_iff_toNat_lt, toNat_add16]
    change ¬ 16 < _
    omega
  have power : (2 : Nat) ^ size.toNat ≤ 2 ^ 15 := Nat.pow_le_pow_right (by decide) (by omega)
  have positive : 1 ≤ (2 : Nat) ^ size.toNat := Nat.one_le_two_pow
  have mask : ((1 : UInt16) <<< size - 1).toNat = 2 ^ size.toNat - 1 := by
    have one : ((1 : UInt16) <<< size).toNat = 2 ^ size.toNat := by
      rw [UInt16.toNat_shiftLeft, Nat.mod_eq_of_lt below, UInt16.toNat_one, Nat.one_shiftLeft]
      exact Nat.mod_eq_of_lt (by omega)
    rw [toNat_sub16, one, UInt16.toNat_one]
    omega
  have shift : (16 - size - start).toNat = 16 - size.toNat - start.toNat := by
    rw [toNat_sub16, toNat_sub16]
    change (65536 + (65536 + 16 - size.toNat) % 65536 - start.toNat) % 65536 = _
    omega
  unfold setNBitsOfU16
  rw [if_neg room]
  simp only
  rw [UInt16.toNat_or, UInt16.toNat_shiftLeft, UInt16.toNat_and, mask, Nat.and_two_pow_sub_one_eq_mod, shift,
    Nat.shiftLeft_eq, Nat.mod_eq_of_lt (a := 16 - size.toNat - start.toNat) (by omega)]
  congr 1
  apply Nat.mod_eq_of_lt
  calc val.toNat % 2 ^ size.toNat * 2 ^ (16 - size.toNat - start.toNat)
      < 2 ^ size.toNat * 2 ^ (16 - size.toNat - start.toNat) :=
        Nat.mul_lt_mul_of_pos_right (Nat.mod_lt _ (Nat.two_pow_pos _)) (Nat.two_pow_pos _)
    _ = 2 ^ (16 - start.toNat) := by
        rw [← Nat.pow_add]
        congr 1
        omega
    _ ≤ 2 ^ 16 := Nat.pow_le_pow_right (by decide) (by omega)

namespace Responder

/-- A symbol goes into the clear slot `i`, counted from the top of the chunk. -/
theorem createStatusSymbolChunk_chunk {r : Responder} (size : SymbolSizeTypeTcc) {status : SymbolTypeTcc} {i : Nat}
    (inside : i < size.slots) (clear : r.chunk.toNat % 2 ^ (size.bits * (size.slots - i)) = 0)
    (small : status.code < 2 ^ size.bits) :
    (r.createStatusSymbolChunk size status.toU16 (UInt16.ofNat i)).chunk.toNat =
      r.chunk.toNat + status.code * 2 ^ (size.bits * (size.slots - 1 - i)) := by
  have width : (size.toU16 + 1).toNat = size.bits := by cases size <;> rfl
  have whole : size.bits * size.slots = 14 := by cases size <;> rfl
  have positive : 1 ≤ size.bits := by cases size <;> decide
  have few : size.bits ≤ 2 := by cases size <;> decide
  have places : size.bits * (size.slots - 1 - i) + size.bits + size.bits * i = 14 := by
    rw [← Nat.mul_succ, ← Nat.mul_add, ← whole]
    congr 1
    omega
  have start : ((size.toU16 + 1) * UInt16.ofNat i + 2).toNat = size.bits * i + 2 := by
    rw [toNat_add16, UInt16.toNat_mul, width, toNat_ofNat16]
    change (size.bits * (i % 65536) % 65536 + 2) % 65536 = _
    have : i ≤ size.bits * i := Nat.le_mul_of_pos_left i positive
    rw [Nat.mod_eq_of_lt (a := i) (by omega), Nat.mod_eq_of_lt (a := size.bits * i) (by omega)]
    omega
  have shift : 16 - size.bits - (size.bits * i + 2) = size.bits * (size.slots - 1 - i) := by omega
  have top : size.bits * (size.slots - i) = size.bits + size.bits * (size.slots - 1 - i) := by
    rw [Nat.add_comm, ← Nat.mul_succ]
    congr 1
    omega
  unfold createStatusSymbolChunk
  change (setNBitsOfU16 r.chunk (size.toU16 + 1) ((size.toU16 + 1) * UInt16.ofNat i + 2) status.toU16).toNat = _
  rw [toNat_setNBits (by omega) (by omega) (by omega), width, start, shift]
  change r.chunk.toNat ||| status.code % 2 ^ size.bits * _ = _
  rw [Nat.mod_eq_of_lt small]
  apply or_digit clear
  rw [top, Nat.pow_add]
  exact Nat.mul_lt_mul_of_pos_right small (Nat.two_pow_pos _)

theorem createSymbols_chunk (size : SymbolSizeTypeTcc) {symbols : List SymbolTypeTcc}
    (small : ∀ status ∈ symbols, status.code < 2 ^ size.bits) {i : Nat} {r : Responder}
    (fits : i + symbols.length ≤ size.slots) (clear : r.chunk.toNat % 2 ^ (size.bits * (size.slots - i)) = 0) :
    ((symbols.zipIdx i).foldl (fun r symbol =>
      r.createStatusSymbolChunk size symbol.1.toU16 (UInt16.ofNat symbol.2)) r).chunk.toNat =
      r.chunk.toNat + pack size.bits (size.slots - i) (symbols.map SymbolTypeTcc.code) := by
  induction symbols generalizing i r with
  | nil => exact (congrArg (r.chunk.toNat + ·) (pack_nil _ _)).symm
  | cons status rest ih =>
      rw [List.length_cons] at fits
      have placed := createStatusSymbolChunk_chunk size (by omega) clear (small status List.mem_cons_self)
      have next : size.slots - i = size.slots - (i + 1) + 1 := by omega
      have remaining : size.slots - 1 - i = size.slots - (i + 1) := by omega
      have stillClear : (r.createStatusSymbolChunk size status.toU16 (UInt16.ofNat i)).chunk.toNat %
          2 ^ (size.bits * (size.slots - (i + 1))) = 0 := by
        rw [placed, remaining, Nat.add_mul_mod_self_right]
        rw [next, Nat.mul_succ, Nat.pow_add] at clear
        exact Nat.mod_eq_zero_of_dvd (dvd_of_mul_right_dvd (Nat.dvd_of_mod_eq_zero clear))
      rw [List.zipIdx_cons, List.foldl_cons,
        ih (fun later member => small later (List.mem_cons_of_mem _ member)) (by omega) stillClear, placed,
        List.map_cons, next, remaining]
      exact Nat.add_assoc _ _ _

/-- The two leading bits of a vector chunk. -/
theorem vector_bits {chunk : UInt16} (size : SymbolSizeTypeTcc) (below : chunk.toNat < 16384) :
    (setNBitsOfU16 (setNBitsOfU16 chunk 1 0 1) 1 1 size.toU16).toNat =
      (2 + size.toU16.toNat) * 16384 + chunk.toNat := by
  rw [toNat_setNBits (by decide) (by decide) (by decide), toNat_setNBits (by decide) (by decide) (by decide)]
  cases size with
  | oneBit =>
      change chunk.toNat ||| 32768 ||| 0 = 2 * 16384 + chunk.toNat
      rw [Nat.or_zero, Nat.or_comm]
      exact or_digit (k := 14) rfl below
  | twoBit =>
      change chunk.toNat ||| 32768 ||| 16384 = 3 * 16384 + chunk.toNat
      rw [Nat.or_assoc, Nat.or_comm]
      exact or_digit (k := 14) rfl below

theorem decodeChunk_vector {word : UInt16} {size : SymbolSizeTypeTcc} {field : Nat} (below : field < 16384)
    (value : word.toNat = (2 + size.toU16.toNat) * 16384 + field) :
    decodeChunk word = (digits size.bits size.slots field).map statusOf := by
  unfold decodeChunk
  cases size with
  | oneBit =>
      change word.toNat = 2 * 16384 + field at value
      rw [if_neg (by omega), if_pos (by omega), value]
      exact congrArg (List.map statusOf) (digits_above 1 14 2 field)
  | twoBit =>
      change word.toNat = 3 * 16384 + field at value
      rw [if_neg (by omega), if_neg (by omega), value]
      exact congrArg (List.map statusOf) (digits_above 2 7 3 field)

/-- What a build appends to the payload, as a receiver reads it. -/
structure Emits (r r' : Responder) (statuses : List SymbolTypeTcc) : Prop where
  chunk : r'.chunk = 0
  payload : ∃ bytes, r'.payload = r.payload ++ bytes ∧ decodeChunks bytes = some statuses

theorem Emits.refl {r : Responder} (zero : r.chunk = 0) : Emits r r [] :=
  ⟨zero, [], (List.append_nil _).symm, rfl⟩

theorem Emits.trans {r r' r'' : Responder} {first later : List SymbolTypeTcc} (h : Emits r r' first)
    (h' : Emits r' r'' later) : Emits r r'' (first ++ later) := by
  obtain ⟨bytes, grown, decoded⟩ := h.payload
  obtain ⟨bytes', grown', decoded'⟩ := h'.payload
  refine ⟨h'.chunk, bytes ++ bytes', ?_, ?_⟩
  · rw [grown', grown, List.append_assoc]
  · rw [decodeChunks_append _ decoded, decoded', Option.map_some]

/-- A vector chunk reads back its symbols, and not received for the empty slots. -/
theorem createChunk_emits {r : Responder} (zero : r.chunk = 0) (size : SymbolSizeTypeTcc)
    (symbols : List SymbolTypeTcc) (small : ∀ status ∈ symbols, status.code < 2 ^ size.bits)
    (fits : symbols.length ≤ size.slots) :
    Emits r (r.createChunk size symbols)
      (symbols ++ List.replicate (size.slots - symbols.length) .packetNotReceived) := by
  have codes : ∀ d ∈ symbols.map SymbolTypeTcc.code, d < 2 ^ size.bits := by
    intro d member
    obtain ⟨status, inside, rfl⟩ := List.mem_map.mp member
    exact small status inside
  have whole : size.bits * size.slots = 14 := by cases size <;> rfl
  have below := pack_lt (n := size.slots) codes
  rw [whole] at below
  obtain ⟨chunk, created⟩ := createSymbols_frame size symbols.zipIdx r
  have word : chunk.toNat = pack size.bits size.slots (symbols.map SymbolTypeTcc.code) := by
    have packed := createSymbols_chunk size small (i := 0) (r := r) (by omega) (by rw [zero]; exact Nat.zero_mod _)
    rw [created, zero] at packed
    exact packed.trans (Nat.zero_add _)
  unfold createChunk
  rw [created]
  refine ⟨rfl, _, rfl, ?_⟩
  rw [decodeChunks_word, decodeChunk_vector below (word ▸ vector_bits size (word ▸ below)),
    digits_pack codes (by rw [List.length_map]; exact fits), List.length_map, List.map_append, List.map_map,
    List.map_replicate]
  congr 2
  conv_rhs => rw [← List.map_id symbols]
  exact List.map_congr_left fun status _ => statusOf_code status

theorem writeRunLengthChunk_emits {r : Responder} (zero : r.chunk = 0) (status : SymbolTypeTcc) {count : Nat}
    (short : count ≤ 8191) :
    Emits r (r.writeRunLengthChunk status.toU16 (UInt16.ofNat count)) (List.replicate count status) := by
  have few : status.code < 4 := by cases status <;> decide
  have high : (status.toU16 <<< 13).toNat = 2 ^ 13 * status.code := by
    rw [UInt16.toNat_shiftLeft]
    change status.code <<< 13 % 65536 = _
    rw [Nat.shiftLeft_eq]
    omega
  have word : (status.toU16 <<< 13 ||| UInt16.ofNat count).toNat = 8192 * status.code + count := by
    rw [UInt16.toNat_or, high, toNat_ofNat16, Nat.mod_eq_of_lt (by omega)]
    exact (Nat.two_pow_add_eq_or_of_lt (by omega) _).symm
  refine ⟨zero, _, rfl, ?_⟩
  rw [decodeChunks_word, decodeChunk, word, if_pos (by omega)]
  have run : (8192 * status.code + count) % 8192 = count := by omega
  have symbol : (8192 * status.code + count) / 8192 = status.code := by omega
  rw [run, symbol, statusOf_code]

end Responder

end Rsfu
