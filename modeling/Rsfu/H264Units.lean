import Rsfu.LengthPrefixed
import Rsfu.PayloadHelpers

/-! The H264 key-frame test against the payload formats. An aggregation packet is a
string of units behind their lengths; the walk of the test ends on every payload,
stays inside it, and looks for a parameter set. -/
namespace Rsfu
open LengthPrefixed

/-- The type of the unit that starts with this octet. -/
def nalType (header : UInt8) : UInt8 := header &&& 0x1F

/-- Where the header of a unit stands in it. -/
def unitOffset (nalu : UInt8) : Nat := if nalu = 26 then 3 else if nalu = 27 then 4 else 0

/-- Where the first unit of an aggregation packet starts. -/
def firstUnit (nalu : UInt8) : Nat := if nalu = 24 then 1 else 3

/-- A unit of type 7 is reached before the first that is cut short or too short for its offset. -/
def reachesSps (offset : Nat) (bytes : Bytes) : Bool :=
  meets (fun unit => unit[offset]?) (fun header => nalType header == 7) bytes

/-- The body of the loop: it answers, or goes on from another index. -/
def walkTurn (payload : Bytes) (nalu : UInt8) (i : Nat) : Option (Bool ⊕ Nat) :=
  if payload.length ≤ i then some (.inl false)
  else if payload.length < i + 2 then some (.inl false)
  else do
    let hi ← payload[i]?
    let lo ← payload[i + 1]?
    let length := (hi.toUInt16 <<< 8) ||| lo.toUInt16
    let i := i + 2
    if payload.length < i + length.toNat then return .inl false
    let offset : UInt16 := if nalu = 26 then 3 else if nalu = 27 then 4 else 0
    if length ≤ offset then return .inl false
    let n := (← payload[i + offset.toNat]?) &&& 0x1F
    if n = 7 then return .inl true
    return .inr (i + length.toNat)

/-- The loop, from an index on, ends with an answer and without a panic. -/
inductive WalkEnds (payload : Bytes) (nalu : UInt8) : Nat → Bool → Prop where
  | answer {i : Nat} {answer : Bool} (done : walkTurn payload nalu i = some (.inl answer)) :
      WalkEnds payload nalu i answer
  | turn {i j : Nat} {answer : Bool} (goes : walkTurn payload nalu i = some (.inr j))
      (ends : WalkEnds payload nalu j answer) : WalkEnds payload nalu i answer

theorem aggregationWalk_turn (payload : Bytes) (nalu : UInt8) (fuel i : Nat) :
    aggregationWalk payload nalu (fuel + 1) i =
      (walkTurn payload nalu i).bind fun
        | .inl answer => some answer
        | .inr j => aggregationWalk payload nalu fuel j := by
  conv_lhs => unfold aggregationWalk
  unfold walkTurn
  generalize (if nalu = 26 then (3 : UInt16) else if nalu = 27 then 4 else 0) = offset
  split
  · rfl
  · split
    · rfl
    · simp only [Option.bind_eq_bind, Option.bind_assoc]
      congr 1
      funext hi
      congr 1
      funext lo
      split
      · rfl
      · split
        · rfl
        · simp only [Option.bind_assoc]
          congr 1
          funext header
          split <;> rfl

theorem unitOffset_word (nalu : UInt8) :
    (if nalu = 26 then (3 : UInt16) else if nalu = 27 then 4 else 0).toNat = unitOffset nalu := by
  unfold unitOffset
  split
  · rfl
  · split <;> rfl

section Turn
variable {payload unit rest : Bytes} {nalu : UInt8} {i : Nat}

theorem walkTurn_cut (cut : takeUnit (payload.drop i) = none) : walkTurn payload nalu i = some (.inl false) := by
  have length : (payload.drop i).length = payload.length - i := List.length_drop
  unfold walkTurn
  by_cases past : payload.length ≤ i
  · rw [if_pos past]
  · rw [if_neg past]
    by_cases few : payload.length < i + 2
    · rw [if_pos few]
    · rw [if_neg few]
      obtain ⟨hi, lo, rest, dropped⟩ : ∃ hi lo rest, payload.drop i = hi :: lo :: rest := by
        cases first : payload.drop i with
        | nil =>
            rw [first, List.length_nil] at length
            omega
        | cons hi tail =>
            cases tail with
            | nil =>
                rw [first, List.length_singleton] at length
                omega
            | cons lo rest => exact ⟨hi, lo, rest, rfl⟩
      have octet (j : Nat) : payload[i + j]? = (hi :: lo :: rest)[j]? := by rw [← dropped, List.getElem?_drop]
      have first : payload[i]? = some hi := octet 0
      have second : payload[i + 1]? = some lo := octet 1
      rw [dropped] at cut length
      have long : rest.length < ((hi.toUInt16 <<< 8) ||| lo.toUInt16).toNat := by
        by_contra fits
        have taken : takeUnit (hi :: lo :: rest) = some _ := if_pos (Nat.not_lt.mp fits)
        cases cut.symm.trans taken
      rw [List.length_cons, List.length_cons] at length
      rw [first, second]
      dsimp only [Option.bind_eq_bind, Option.bind_some]
      rw [if_pos (by omega)]
      rfl

theorem walkTurn_taken (taken : takeUnit (payload.drop i) = some (unit, rest)) :
    walkTurn payload nalu i = match unit[unitOffset nalu]? with
      | none => some (.inl false)
      | some header => if nalType header = 7 then some (.inl true) else some (.inr (i + 2 + unit.length)) := by
  have length : (payload.drop i).length = payload.length - i := List.length_drop
  unfold takeUnit ByteStore.beU16 at taken
  split at taken
  · rename_i hi lo tail dropped
    have octet (j : Nat) : payload[i + j]? = (hi :: lo :: tail)[j]? := by rw [← dropped, List.getElem?_drop]
    have first : payload[i]? = some hi := octet 0
    have second : payload[i + 1]? = some lo := octet 1
    rw [dropped, List.length_cons, List.length_cons] at length
    dsimp only at taken
    split at taken
    · rename_i fits
      obtain ⟨rfl, rfl⟩ := Prod.mk.inj (Option.some.inj taken)
      unfold walkTurn
      rw [if_neg (by omega), if_neg (by omega), first, second]
      dsimp only [Option.bind_eq_bind, Option.bind_some]
      rw [if_neg (by omega), unitOffset_word]
      rw [List.length_take_of_le fits]
      by_cases short : ((hi.toUInt16 <<< 8) ||| lo.toUInt16).toNat ≤ unitOffset nalu
      · rw [if_pos (by rw [UInt16.le_iff_toNat_le, unitOffset_word]; exact short),
          List.getElem?_eq_none (by rw [List.length_take_of_le fits]; exact short)]
        rfl
      · have inside : unitOffset nalu < tail.length := by omega
        have header : payload[i + 2 + unitOffset nalu]? = some tail[unitOffset nalu] := by
          rw [Nat.add_assoc, octet, Nat.add_comm, List.getElem?_cons_succ, List.getElem?_cons_succ,
            List.getElem?_eq_getElem inside]
        rw [if_neg (by rw [UInt16.le_iff_toNat_le, unitOffset_word]; exact short), header,
          List.getElem?_take_of_lt (by omega), List.getElem?_eq_getElem inside]
        rfl
    · cases taken
  · cases taken

/-- A turn that goes on has a whole unit behind it. -/
theorem drop_taken (taken : takeUnit (payload.drop i) = some (unit, rest)) :
    payload.drop (i + 2 + unit.length) = rest := by
  have length := takeUnit_length taken
  unfold takeUnit at taken
  split at taken
  · rename_i hi lo tail dropped
    dsimp only at taken
    split at taken
    · rename_i fits
      obtain ⟨rfl, rfl⟩ := Prod.mk.inj (Option.some.inj taken)
      rw [Nat.add_assoc, ← List.drop_drop, dropped, List.length_take_of_le fits, Nat.add_comm 2]
      rfl
    · cases taken
  · cases taken

end Turn

/-- The loop ends, with the answer of the recursion over the units. -/
theorem walk_ends (payload : Bytes) (nalu : UInt8) (i : Nat) :
    WalkEnds payload nalu i (reachesSps (unitOffset nalu) (payload.drop i)) := by
  induction length : (payload.drop i).length using Nat.strong_induction_on generalizing i with
  | _ length ih =>
      unfold reachesSps
      cases taken : takeUnit (payload.drop i) with
      | none =>
          rw [meets_stopped taken]
          exact .answer (walkTurn_cut taken)
      | some found =>
          have turn := @walkTurn_taken payload found.1 found.2 nalu i taken
          have shorter := takeUnit_length taken
          rw [meets_taken taken]
          cases header : found.1[unitOffset nalu]? with
          | none =>
              rw [header] at turn
              exact .answer turn
          | some octet =>
              rw [header] at turn
              dsimp only at turn ⊢
              by_cases sps : nalType octet = 7
              · rw [if_pos sps] at turn
                rw [sps]
                exact .answer turn
              · rw [if_neg sps] at turn
                rw [beq_false_of_ne sps, Bool.false_or]
                have rest := drop_taken taken
                have later := ih _ (by rw [rest]; omega) (i + 2 + found.1.length) rfl
                rw [rest] at later
                exact .turn turn later

theorem walkTurn_past {payload : Bytes} {nalu : UInt8} {i : Nat} (past : payload.length ≤ i) :
    walkTurn payload nalu i = some (.inl false) := if_pos past

theorem walkTurn_advances {payload : Bytes} {nalu : UInt8} {i j : Nat}
    (goes : walkTurn payload nalu i = some (.inr j)) : i < j := by
  cases taken : takeUnit (payload.drop i) with
  | none => cases (walkTurn_cut taken).symm.trans goes
  | some found =>
      rw [walkTurn_taken taken] at goes
      split at goes
      · cases goes
      · split at goes
        · cases goes
        · obtain rfl := Sum.inr.inj (Option.some.inj goes)
          omega

/-- The fuel of the walk is enough. -/
theorem WalkEnds.walk {payload : Bytes} {nalu : UInt8} {i : Nat} {answer : Bool}
    (ends : WalkEnds payload nalu i answer) {fuel : Nat} (enough : payload.length ≤ i + fuel) :
    aggregationWalk payload nalu fuel i = some answer := by
  induction ends generalizing fuel with
  | answer done =>
      cases fuel with
      | zero =>
          cases (walkTurn_past enough).symm.trans done
          rfl
      | succ fuel =>
          rw [aggregationWalk_turn, done]
          rfl
  | turn goes _ ih =>
      cases fuel with
      | zero => cases (walkTurn_past enough).symm.trans goes
      | succ fuel =>
          have further := walkTurn_advances goes
          rw [aggregationWalk_turn, goes]
          exact ih (by omega)

theorem aggregate_kinds {nalu : UInt8} (above : 23 < nalu.toNat) :
    nalu ≤ 27 ↔ nalu = 24 ∨ nalu = 25 ∨ nalu = 26 ∨ nalu = 27 := by
  simp only [UInt8.le_iff_toNat_le, ← UInt8.toNat_inj, UInt8.reduceToNat]
  omega

theorem fragment_kinds {nalu : UInt8} (above : 27 < nalu.toNat) : nalu ≤ 29 ↔ nalu = 28 ∨ nalu = 29 := by
  simp only [UInt8.le_iff_toNat_le, ← UInt8.toNat_inj, UInt8.reduceToNat]
  omega

/-- What the test answers on a payload that starts with this octet. -/
theorem isH264Keyframe_cons (first : UInt8) (rest : Bytes) :
    isH264Keyframe (first :: rest) = some (
      if nalType first = 0 then false
      else if nalType first ≤ 23 then nalType first == 5
      else if nalType first ≤ 27 then
        reachesSps (unitOffset (nalType first)) ((first :: rest).drop (firstUnit (nalType first)))
      else if nalType first ≤ 29 then
        rest.head?.any fun second => second &&& 0x80 != 0 && nalType second == 7
      else false) := by
  unfold isH264Keyframe
  rw [List.isEmpty_cons, if_neg Bool.false_ne_true, List.getElem?_cons_zero]
  change (if nalType first = 0 then _ else _) = _
  by_cases zero : nalType first = 0
  · rw [if_pos zero, if_pos zero]
    rfl
  · rw [if_neg zero, if_neg zero]
    change (if nalType first ≤ 23 then _ else _) = _
    by_cases single : nalType first ≤ 23
    · rw [if_pos single, if_pos single]
      rfl
    · rw [if_neg single, if_neg single]
      have above : 23 < (nalType first).toNat := Nat.lt_of_not_le fun le => single (UInt8.le_iff_toNat_le.mpr le)
      change (if nalType first = 24 ∨ nalType first = 25 ∨ nalType first = 26 ∨ nalType first = 27 then _
        else _) = _
      by_cases aggregate : nalType first ≤ 27
      · have kinds := (aggregate_kinds above).mp aggregate
        rw [if_pos kinds, if_pos aggregate]
        have start : (if nalType first = 25 ∨ nalType first = 26 ∨ nalType first = 27 then 1 + 2 else 1) =
            firstUnit (nalType first) := by
          unfold firstUnit
          rcases kinds with same | same | same | same <;> rw [same] <;> rfl
        change aggregationWalk _ (nalType first) _
          (if nalType first = 25 ∨ nalType first = 26 ∨ nalType first = 27 then 1 + 2 else 1) = _
        rw [start]
        exact (walk_ends (first :: rest) _ _).walk (Nat.le_add_left _ _)
      · rw [if_neg fun kinds => aggregate ((aggregate_kinds above).mpr kinds), if_neg aggregate]
        have beyond : 27 < (nalType first).toNat :=
          Nat.lt_of_not_le fun le => aggregate (UInt8.le_iff_toNat_le.mpr le)
        change (if nalType first = 28 ∨ nalType first = 29 then _ else _) = _
        by_cases fragment : nalType first ≤ 29
        · rw [if_pos ((fragment_kinds beyond).mp fragment), if_pos fragment]
          cases rest with
          | nil => rfl
          | cons second body =>
              rw [if_neg (by rw [List.length_cons, List.length_cons]; omega), List.getElem?_cons_succ]
              change (if second &&& 0x80 = 0 then some false else some (nalType second == 7)) =
                some (second &&& 0x80 != 0 && nalType second == 7)
              by_cases start : second &&& 0x80 = 0
              · rw [if_pos start, start]
                rfl
              · rw [if_neg start, bne_iff_ne.mpr start, Bool.true_and]
        · rw [if_neg fun kinds => fragment ((fragment_kinds beyond).mpr kinds), if_neg fragment]
          rfl

/-- The test answers on every payload, and the walk over an aggregation packet ends with
the answer of the recursion over its units. -/
theorem h264_walk_exact (payload : Bytes) :
    (∃ answer, isH264Keyframe payload = some answer) ∧
      ∀ first rest, payload = first :: rest → 24 ≤ nalType first → nalType first ≤ 27 →
        let units := payload.drop (firstUnit (nalType first))
        WalkEnds payload (nalType first) (firstUnit (nalType first)) (reachesSps (unitOffset (nalType first)) units) ∧
          (isH264Keyframe payload = some true ↔ reachesSps (unitOffset (nalType first)) units = true) := by
  cases payload with
  | nil => exact ⟨⟨false, rfl⟩, fun first rest same => (nomatch same)⟩
  | cons first rest =>
      have answers := isH264Keyframe_cons first rest
      refine ⟨⟨_, answers⟩, fun _ _ same low high => ?_⟩
      obtain ⟨rfl, rfl⟩ := List.cons.inj same
      have from24 := UInt8.le_iff_toNat_le.mp low
      have nonzero : nalType first ≠ 0 := by
        intro zero
        rw [zero] at from24
        exact absurd from24 (by decide)
      have above : ¬ nalType first ≤ 23 := by
        intro le
        have := UInt8.le_iff_toNat_le.mp le
        exact absurd (from24.trans this) (by decide)
      rw [if_neg nonzero, if_neg above, if_pos high] at answers
      rw [answers, Option.some.injEq]
      exact ⟨walk_ends _ _ _, Iff.rfl⟩

/-- A picture parameter set in front of a sequence parameter set. -/
def parameterSets : Bytes := [0x78, 0, 2, 0x68, 1, 0, 1, 0x67]

theorem h264_walk_exact_sets :
    isH264Keyframe parameterSets = some true ∧ reachesSps (unitOffset 24) (parameterSets.drop 1) = true := by
  have sps : isH264Keyframe parameterSets = some true := by decide
  exact ⟨sps, ((h264_walk_exact parameterSets).2 0x78 _ rfl (by decide) (by decide)).2.mp sps⟩

/-- A unit that can be sent alone and in an aggregation packet. -/
structure NalUnit where
  header : UInt8
  body : Bytes
  single : 1 ≤ nalType header ∧ nalType header ≤ 23
  short : body.length < 65535

namespace NalUnit

def type (u : NalUnit) : UInt8 := nalType u.header

def bytes (u : NalUnit) : Bytes := u.header :: u.body

/-- The first fragment: the indicator, the header with the start bit, and a part of the body. -/
def firstFragment (u : NalUnit) (cut : Nat) : Bytes :=
  ((u.header &&& 0xE0) ||| 28) :: (0x80 ||| nalType u.header) :: u.body.take cut

end NalUnit

def stapA (nri : UInt8) (units : List NalUnit) : Bytes :=
  ((nri &&& 0xE0) ||| 24) :: (units.map NalUnit.bytes).flatMap frame

theorem masked_or (a b mask : UInt8) : (a ||| b) &&& mask = (a &&& mask) ||| (b &&& mask) :=
  UInt8.toBitVec_inj.mp BitVec.and_or_distrib_right

theorem nalType_indicator (nri kind : UInt8) : nalType ((nri &&& 0xE0) ||| kind) = nalType kind := by
  have apart : (0xE0 : UInt8) &&& 0x1F = 0 := rfl
  unfold nalType
  rw [masked_or, UInt8.and_assoc, apart, UInt8.and_zero, UInt8.zero_or]

theorem nalType_start (header : UInt8) : nalType (0x80 ||| nalType header) = nalType header := by
  unfold nalType
  rw [masked_or, UInt8.and_assoc]
  exact UInt8.zero_or

theorem start_bit (header : UInt8) : (0x80 ||| nalType header) &&& 0x80 = 0x80 := by
  have apart : (0x1F : UInt8) &&& 0x80 = 0 := rfl
  unfold nalType
  rw [masked_or, UInt8.and_assoc, apart, UInt8.and_zero, UInt8.or_zero, UInt8.and_self]

section Packetised
variable (u : NalUnit)

theorem single_answer : isH264Keyframe u.bytes = some (u.type == 5) := by
  have nonzero : nalType u.header ≠ 0 := by
    intro zero
    exact absurd (zero ▸ u.single.1) (by decide)
  rw [NalUnit.bytes, isH264Keyframe_cons, if_neg nonzero, if_pos u.single.2]
  rfl

theorem fragment_answer (cut : Nat) : isH264Keyframe (u.firstFragment cut) = some (u.type == 7) := by
  have kind : nalType ((u.header &&& 0xE0) ||| 28) = 28 := nalType_indicator u.header 28
  rw [NalUnit.firstFragment, isH264Keyframe_cons, kind, List.head?_cons]
  change some ((0x80 ||| nalType u.header) &&& 0x80 != 0 && nalType (0x80 ||| nalType u.header) == 7) = _
  rw [start_bit, nalType_start]
  rfl

theorem stapA_answer (nri : UInt8) (units : List NalUnit) :
    isH264Keyframe (stapA nri units) = some true ↔ ∃ u ∈ units, u.type = 7 := by
  have kind : nalType ((nri &&& 0xE0) ||| 24) = 24 := nalType_indicator nri 24
  have short : ∀ unit ∈ units.map NalUnit.bytes, unit.length < 65536 := by
    intro unit among
    obtain ⟨u, -, rfl⟩ := List.mem_map.mp among
    exact Nat.succ_lt_succ u.short
  have keyed : ∀ unit ∈ units.map NalUnit.bytes, (unit[0]?).isSome = true := by
    intro unit among
    obtain ⟨u, -, rfl⟩ := List.mem_map.mp among
    rfl
  rw [stapA, isH264Keyframe_cons, kind, Option.some.injEq]
  change reachesSps 0 ((units.map NalUnit.bytes).flatMap frame) = true ↔ _
  rw [reachesSps, meets_frames short keyed]
  constructor
  · rintro ⟨unit, among, header, found, sps⟩
    obtain ⟨u, member, rfl⟩ := List.mem_map.mp among
    obtain rfl : u.header = header := Option.some.inj found
    exact ⟨u, member, beq_iff_eq.mp sps⟩
  · rintro ⟨u, member, sps⟩
    exact ⟨u.bytes, List.mem_map_of_mem member, u.header, rfl, beq_iff_eq.mpr sps⟩

end Packetised

/-- The answer for an aggregation packet is the one for its units where these hold both or
neither of the types 5 and 7, the one for a first fragment that of its unit at other types. -/
theorem packetisation_iff (nri : UInt8) (units : List NalUnit) (u : NalUnit) (cut : Nat) :
    ((isH264Keyframe (stapA nri units) = some true ↔ ∃ u ∈ units, isH264Keyframe u.bytes = some true) ↔
        ((∃ u ∈ units, u.type = 7) ↔ ∃ u ∈ units, u.type = 5)) ∧
      (isH264Keyframe (u.firstFragment cut) = isH264Keyframe u.bytes ↔ u.type ≠ 5 ∧ u.type ≠ 7) := by
  constructor
  · rw [stapA_answer]
    simp only [single_answer, Option.some.injEq, beq_iff_eq]
  · rw [fragment_answer, single_answer, Option.some.injEq]
    by_cases slice : u.type = 5
    · rw [slice]
      exact iff_of_false (by decide) fun other => other.1 rfl
    · rw [beq_false_of_ne slice, beq_eq_false_iff_ne]
      exact (and_iff_right slice).symm

/-- An IDR slice alone is a key frame, aggregated or fragmented it is none. -/
theorem idr_lost_in_packets :
    let idr : NalUnit := ⟨0x65, [0x88], by decide, by decide⟩
    isH264Keyframe idr.bytes = some true ∧ isH264Keyframe (stapA 0x60 [idr]) = some false ∧
      isH264Keyframe (idr.firstFragment 1) = some false := by
  decide

end Rsfu
