import Rsfu.ChunkWrites

/-! The length a feedback packet declares. It is computed from `len` and `delta_len`, but
`len` counts the vector chunks alone, and the padding is one byte whatever it says. -/
namespace Rsfu

/-- What a build puts together: the two fields of the header it computes, and the bytes behind it. -/
structure Assembly where
  padding : Bool
  length : UInt16
  payload : Bytes
  deltas : Bytes
  pad : Bytes
  deriving DecidableEq, Repr

namespace Assembly

def bytes (a : Assembly) (header : Bytes) : Bytes := header ++ a.payload ++ a.deltas ++ a.pad

/-- The length in words, the padding flag and the last byte agree with the bytes. -/
structure WellFormed (a : Assembly) (raw : Bytes) : Prop where
  words : raw.length % 4 = 0
  declared : raw.length = 4 * (a.length.toNat + 1)
  flag : a.padding = true ↔ a.pad ≠ []
  last : a.padding = true →
    raw.getLast? = some (UInt8.ofNat a.pad.length) ∧ 1 ≤ a.pad.length ∧ a.pad.length ≤ 3

instance (a : Assembly) (raw : Bytes) : Decidable (a.WellFormed raw) :=
  decidable_of_iff (raw.length % 4 = 0 ∧ raw.length = 4 * (a.length.toNat + 1) ∧ (a.padding = true ↔ a.pad ≠ []) ∧
      (a.padding = true → raw.getLast? = some (UInt8.ofNat a.pad.length) ∧ 1 ≤ a.pad.length ∧ a.pad.length ≤ 3))
    ⟨fun all => ⟨all.1, all.2.1, all.2.2.1, all.2.2.2⟩,
      fun formed => ⟨formed.words, formed.declared, formed.flag, formed.last⟩⟩

end Assembly

namespace Responder

/-- The length of the packet as `assemble` counts it. -/
def pLen (r : Responder) : Nat := r.len.toNat + r.deltaLen + 4

def padSize (r : Responder) : Nat := (4 - r.pLen % 4) % 4

def assembly (r : Responder) : Assembly where
  padding := decide (r.pLen ≠ 0)
  length := UInt16.ofNat (r.pLen + r.padSize) / 4 - 1
  payload := r.payload
  deltas := r.deltas
  pad := if r.pLen ≠ 0 then [UInt8.ofNat r.padSize] else []

theorem assemble_bytes (crate : RtcpCrate) (r : Responder) :
    (r.assemble crate).2 = (crate.marshalHeader r.assembly.padding r.assembly.length 0).map r.assembly.bytes := by
  unfold assemble
  dsimp only
  split
  · rename_i failed
    exact (congrArg (Option.map r.assembly.bytes) failed).symm
  · rename_i header marshalled
    exact (congrArg (Option.map r.assembly.bytes) marshalled).symm

/-- The packet of a build is the header it asks for and the bytes it assembles behind it. -/
theorem build_bytes (crate : RtcpCrate) {r : Responder} (arrivals : r.extInfo ≠ []) :
    (r.buildTransportCcPacket crate).2 =
      (crate.marshalHeader r.encoded.assembly.padding r.encoded.assembly.length 0).map r.encoded.assembly.bytes := by
  rw [build_eq crate arrivals]
  exact assemble_bytes crate r.encoded

/-- The counters do not run ahead of the bytes they count. -/
structure Counted (r : Responder) : Prop where
  len : r.len.toNat ≤ r.payload.length
  deltaLen : r.deltaLen ≤ r.deltas.length

theorem toNat_len (r : Responder) :
    r.encoded.len.toNat = (r.len.toNat + 2 * r.reportWrites.count .vector) % 65536 := by
  rw [r.encoded_appends.len, SerialNumber.toNat_add16, SerialNumber.toNat_ofNat16]
  omega

/-- The chunks and deltas of a build are counted with their bytes; the header is not. -/
theorem Counted.encoded {r : Responder} (counted : Counted r) :
    r.encoded.len.toNat + 16 * headers {} r.tccPkts.2 ≤ r.encoded.payload.length ∧
      r.encoded.deltaLen ≤ r.encoded.deltas.length := by
  have appended := r.encoded_appends
  have vectors : r.reportWrites.count .vector ≤ r.reportWrites.length := List.count_le_length
  have wrapped := r.toNat_len
  have bound := counted.len
  have deltas := counted.deltaLen
  rw [appended.payload, appended.deltas, appended.deltaLen]
  omega

theorem Reachable.counted {crate : RtcpCrate} {r : Responder} (reachable : Reachable crate r) : Counted r := by
  induction reachable with
  | new ssrc sSsrc => exact ⟨Nat.le_refl 0, Nat.le_refl 0⟩
  | push sn timeNs _ ih => exact ⟨ih.len, ih.deltaLen⟩
  | @build r _ ih =>
      by_cases arrivals : r.extInfo = []
      · rw [build_idle crate arrivals]
        exact ih
      · obtain ⟨len, deltaLen⟩ := ih.encoded
        rw [build_eq crate arrivals]
        unfold assemble
        dsimp only
        split
        · exact ⟨Nat.le_trans (Nat.le_add_right _ _) len, deltaLen⟩
        · exact ⟨Nat.le_trans (Nat.le_add_right _ _) len, Nat.zero_le _⟩

/-- The packet has 262144 bytes and its counted length is a multiple of 65536, so that
`p_len as u16 / 4 - 1` wraps to 65535. -/
def LengthWraps (r : Responder) : Prop :=
  r.payload.length + 16 + 2 * r.reportWrites.length + r.deltas.length + r.deltaSize = 262139 ∧
    (r.len.toNat + 2 * r.reportWrites.count .vector + r.deltaLen + r.deltaSize) % 65536 = 65531

instance (r : Responder) : Decidable r.LengthWraps := inferInstanceAs (Decidable (_ ∧ _))

/-- The header length as a number. -/
theorem toNat_length (r : Responder) :
    r.assembly.length.toNat = (65535 + (r.pLen + r.padSize) % 65536 / 4) % 65536 := by
  change (UInt16.ofNat (r.pLen + r.padSize) / 4 - 1).toNat = _
  rw [SerialNumber.toNat_sub16, UInt16.toNat_div, SerialNumber.toNat_ofNat16]
  change (65536 + (r.pLen + r.padSize) % 65536 / 4 - 1) % 65536 = _
  omega

/-- With the padding byte that is always there, the bytes are well formed when it says one. -/
theorem wellFormed_iff {r : Responder} {header : Bytes} (four : header.length = 4) :
    r.assembly.WellFormed (r.assembly.bytes header) ↔
      r.padSize = 1 ∧ r.payload.length + r.deltas.length + 5 = 4 * (r.assembly.length.toNat + 1) := by
  have counts : r.pLen ≠ 0 := Nat.succ_ne_zero _
  have flag : r.assembly.padding = true := decide_eq_true counts
  have pad : r.assembly.pad = [UInt8.ofNat r.padSize] := by
    unfold assembly
    rw [if_pos counts]
  have total : (r.assembly.bytes header).length = r.payload.length + r.deltas.length + 5 := by
    unfold Assembly.bytes
    rw [List.length_append, List.length_append, List.length_append, pad, four, List.length_singleton]
    change 4 + r.payload.length + r.deltas.length + 1 = _
    omega
  have last : (r.assembly.bytes header).getLast? = some (UInt8.ofNat r.padSize) := by
    unfold Assembly.bytes
    rw [pad, List.getLast?_append, List.getLast?_singleton, Option.some_or]
  have small : r.padSize < 4 := Nat.mod_lt _ (by decide)
  have byte : UInt8.ofNat r.padSize = UInt8.ofNat 1 ↔ r.padSize = 1 := by
    rw [← UInt8.toNat_inj, UInt8.toNat_ofNat', UInt8.toNat_ofNat']
    omega
  constructor
  · intro formed
    obtain ⟨told, -, -⟩ := formed.last flag
    rw [last, pad, Option.some_inj] at told
    exact ⟨byte.mp told, total ▸ formed.declared⟩
  · rintro ⟨one, declared⟩
    refine ⟨by omega, total.trans declared, ?_, fun _ => ?_⟩
    · rw [flag, pad]
      exact ⟨fun _ => List.cons_ne_nil _ _, fun _ => rfl⟩
    · rw [last, pad, one]
      exact ⟨rfl, Nat.le_refl 1, by decide⟩

theorem headers_received {pkts : List RtpExtInfo} (received : ∃ stat ∈ pkts, stat.timestamp ≠ 0) :
    headers {} pkts = 1 := by
  unfold headers
  rw [if_pos ⟨rfl, received⟩]

/-- What is counted misses 16 bytes at least, so the length in words is right only once it has wrapped. -/
theorem declares_iff {bytes counted : Nat} (short : counted + 16 ≤ bytes) :
    (4 - (counted + 4) % 4) % 4 = 1 ∧
        bytes + 5 = 4 * ((65535 + (counted + 4 + (4 - (counted + 4) % 4) % 4) % 65536 / 4) % 65536 + 1) ↔
      bytes = 262139 ∧ counted % 65536 = 65531 := by
  by_cases one : (4 - (counted + 4) % 4) % 4 = 1
  · rw [one, and_iff_right rfl]
    by_cases full : (counted + 4 + 1) % 65536 = 0
    · have wrapped : counted % 65536 = 65531 := by omega
      rw [full, and_iff_left wrapped]
      omega
    · have exact : 4 * ((65535 + (counted + 4 + 1) % 65536 / 4) % 65536 + 1) = (counted + 4 + 1) % 65536 := by omega
      have least : (counted + 4 + 1) % 65536 ≤ counted + 4 + 1 := Nat.mod_le _ _
      rw [exact]
      constructor
      · intro declared
        omega
      · rintro ⟨-, wrapped⟩
        omega
  · refine iff_of_false (fun both => one both.1) ?_
    rintro ⟨-, wrapped⟩
    omega

theorem packet_wellFormed_iff {crate : RtcpCrate} {r : Responder} {header : Bytes} (reachable : Reachable crate r)
    (received : ∃ stat ∈ r.tccPkts.2, stat.timestamp ≠ 0) (four : header.length = 4) :
    r.encoded.assembly.WellFormed (r.encoded.assembly.bytes header) ↔ r.LengthWraps := by
  have appended := r.encoded_appends
  obtain ⟨shortLen, shortDeltas⟩ := reachable.counted.encoded
  have wrapped := r.toNat_len
  have payload := appended.payload
  have deltas := appended.deltas
  have deltaLen := appended.deltaLen
  rw [headers_received received] at shortLen payload
  rw [wellFormed_iff four, toNat_length, padSize, pLen, declares_iff (by omega), LengthWraps]
  refine and_congr ?_ ?_
  · omega
  · omega

/-- A single arrival: the run-length chunk and the header are not counted, and the one
padding byte says three. -/
theorem packet_wellFormed_iff_single :
    (((Responder.new 1 2).push 3 1000).encoded.assembly.WellFormed
      (((Responder.new 1 2).push 3 1000).encoded.assembly.bytes [0xaf, 205, 0, 1]) ↔
        ((Responder.new 1 2).push 3 1000).LengthWraps) :=
  packet_wellFormed_iff (.push 3 1000 (.new 1 2) : Reachable rtcpCrate _) (by decide +kernel) rfl

theorem single_arrival_misdeclared :
    let a := ((Responder.new 1 2).push 3 1000).encoded.assembly
    a.length = 1 ∧ (a.bytes [0xaf, 205, 0, 1]).length = 24 ∧ a.pad = [3] ∧
      ¬ a.WellFormed (a.bytes [0xaf, 205, 0, 1]) := by
  decide +kernel

end Responder

end Rsfu
