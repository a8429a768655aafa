import Rsfu.CheckedReceive
import Rsfu.Vp8Rewriting

/-! Retransmission of stored packets. The receiver reads each packet through a
buffer of 65535 bytes, and the copy out of the store panics unless the packet has
exactly that length. The rewritten payload is a copy that goes nowhere. -/
namespace Rsfu

def PacketMeta.getVp8PayloadMeta (packet : PacketMeta) : UInt8 × UInt16 :=
  ((packet.misc >>> 16).toUInt8, packet.misc.toUInt16)

/-- Whether the arithmetic of a lookup goes through in a build with overflow checks or without. -/
def Bucket.lookupPasses (b : Bucket) (checks : Bool) (sn : UInt16) : Option Unit :=
  if checks then (b.getChecks sn).toOption else some ()

/-- The buffer of a layer, which can be closed. -/
structure AtomicBuffer where
  buffer : Buffer
  closed : Bool := false

namespace AtomicBuffer

def getPacket (b : AtomicBuffer) (checks : Bool) (bufLen : Nat) (sn : UInt16) : Option (Except BufferError Bytes) :=
  if b.closed then some (.error .errIOEof)
  else
    match b.buffer.bucket with
    | some bucket => (bucket.lookupPasses checks sn).bind fun _ => bucket.getPacket bufLen sn
    | none => some (.ok [])

/-- The packet stored for a number; the lookup itself can panic. -/
def stored (b : AtomicBuffer) (checks : Bool) (sn : UInt16) : Option (Option Bytes) :=
  if b.closed then some none
  else
    match b.buffer.bucket with
    | some bucket => (bucket.lookupPasses checks sn).bind fun _ => bucket.get sn
    | none => some none

end AtomicBuffer

namespace DownTrack
variable {ε : Type}

/-- The stored packet with the header fields of the entry and the track. -/
def retransmission (d : DownTrack) (packet : PacketMeta) (p : Packet) : Packet :=
  { p with header := { p.header with
      sequenceNumber := packet.targetSeqNo
      timestamp := packet.timestamp
      ssrc := d.ssrc
      payloadType := d.payloadType } }

/-- The copy of the payload, rewritten on a VP8 track with temporal layers. -/
def payloadCopy (d : DownTrack) (packet : PacketMeta) (p : Packet) : Option (Except BufferError Bytes) :=
  if d.simulcast.temporalSupported ∧ d.mime = "video/vp8" then
    match (Vp8.unmarshal {} p.payload).run with
    | none => none
    | some (.error err) => some (.error err)
    | some (.ok vp8) =>
        (vp8.rewrite p.payload packet.getVp8PayloadMeta.2 packet.getVp8PayloadMeta.1).map .ok
  else some (.ok p.payload)

def writeRawRtp (d : DownTrack) (env : SendEnv ε) (pkt : Packet) : Written ε := d.writePacket env pkt

/-- The write of a stored packet; its size goes into the statistics if it succeeds. -/
def writeStored (d : DownTrack) (env : SendEnv ε) (pkt : Packet) (size : Nat) : DownTrack × List Sent :=
  match d.writeRawRtp env pkt with
  | ⟨d, sent, .ok ()⟩ => (d.updateStats (UInt32.ofNat size), sent)
  | ⟨d, sent, .error _⟩ => (d, sent)

end DownTrack

namespace Retransmission
variable {ε : Type}

/-- One turn of the loop, for an entry whose layer has a buffer. -/
def retransmit (checks : Bool) (crates : RtpCrates) (buffer : AtomicBuffer) (track : DownTrack) (packet : PacketMeta)
    (env : SendEnv ε) : Option (DownTrack × List Sent) :=
  match buffer.getPacket checks 65535 packet.sourceSeqNo with
  | none => none
  | some (.error _) => some (track, [])
  | some (.ok data) =>
      match crates.unmarshal data with
      | none => some (track, [])
      | some p =>
          match track.payloadCopy packet p with
          | none => none
          | some (.error _) => some (track, [])
          -- the copy is dropped, the packet keeps its payload
          | some (.ok _) => some (track.writeStored env (track.retransmission packet p) data.length)

/-- The loop over the entries, each with the answers its write meets. An index past
the three layers panics, and a layer without a buffer ends the loop. -/
def retransmitPackets (checks : Bool) (crates : RtpCrates) (buffers : Vector (Option AtomicBuffer) 3) :
    DownTrack → List (PacketMeta × SendEnv ε) → Option (DownTrack × List Sent)
  | track, [] => some (track, [])
  | track, (packet, env) :: rest =>
      match buffers[packet.layer.toNat]? with
      | none => none
      | some none => some (track, [])
      | some (some buffer) => do
          let (track, sent) ← retransmit checks crates buffer track packet env
          let (track, more) ← retransmitPackets checks crates buffers track rest
          return (track, sent ++ more)

/-- The payload owed for a stored one. -/
def OwedPayload (track : DownTrack) (packet : PacketMeta) (payload owed : Bytes) : Prop :=
  if track.simulcast.temporalSupported ∧ track.mime = "video/vp8" then
    ∃ v, (Vp8.unmarshal {} payload).run = some (.ok v) ∧
      v.Rewritten payload packet.getVp8PayloadMeta.2 packet.getVp8PayloadMeta.1 owed
  else owed = payload

/-- What an entry should lead to: one packet for a stored number, nothing for another. -/
def Answers (checks : Bool) (crates : RtpCrates) (buffer : AtomicBuffer) (track : DownTrack) (packet : PacketMeta)
    (sent : List Sent) : Prop :=
  match buffer.stored checks packet.sourceSeqNo with
  | none => False
  | some none => sent = []
  | some (some data) =>
      ∃ p owed, crates.unmarshal data = some p ∧ OwedPayload track packet p.payload owed ∧
        sent = [.rtp { track.retransmission packet p with payload := owed }]

/-- The call completes, and what it writes is what the entries should lead to, in order. -/
def Retransmits (checks : Bool) (crates : RtpCrates) (buffers : Vector (Option AtomicBuffer) 3) (track : DownTrack)
    (requests : List (PacketMeta × SendEnv ε)) : Prop :=
  ∃ track' parts, retransmitPackets checks crates buffers track requests = some (track', parts.flatten) ∧
    List.Forall₂ (fun request part => ∃ buffer, buffers[request.1.layer.toNat]? = some (some buffer) ∧
      Answers checks crates buffer track request.1 part) requests parts

/-- A payload that needs no rewriting. -/
def CarriesMeta (track : DownTrack) (packet : PacketMeta) (payload : Bytes) : Prop :=
  if track.simulcast.temporalSupported ∧ track.mime = "video/vp8" then
    ∃ v, (Vp8.unmarshal {} payload).run = some (.ok v) ∧
      v.renumber packet.getVp8PayloadMeta.2 packet.getVp8PayloadMeta.1 = v
  else True

/-- When an entry gets what it should: its number is not stored, or the track has a
write stream and the stored packet fills the buffer, parses and needs no rewriting. -/
def Served (checks : Bool) (crates : RtpCrates) (buffer : AtomicBuffer) (track : DownTrack)
    (packet : PacketMeta) : Prop :=
  match buffer.stored checks packet.sourceSeqNo with
  | none => False
  | some none => True
  | some (some data) =>
      data.length = 65535 ∧ track.writeStream = true ∧
        ∃ p, crates.unmarshal data = some p ∧ CarriesMeta track packet p.payload

section Copy
variable {payload : Bytes} {v : Vp8}

/-- The two fields of an accepted payload lie inside it. -/
theorem fields_inside (accepted : (Vp8.unmarshal {} payload).run = some (.ok v)) :
    v.pictureIdIdx.toNat < payload.length ∧ (v.mbit = true → v.pictureIdIdx.toNat + 1 < payload.length) ∧
      v.tlzIdx.toNat < payload.length := by
  obtain ⟨⟨first, extension, x⟩, octet, rest, rfl, rfl⟩ := (Vp8.unmarshal_answer_iff payload).mp accepted
  have room : 0 < (octet :: rest).length := Nat.succ_pos _
  cases extension with
  | none => exact ⟨Nat.succ_pos _, (nomatch ·), Nat.succ_pos _⟩
  | some e =>
      have long : (Vp8Descriptor.octets ⟨first, some e, x⟩ ++ octet :: rest).length =
          3 + (Vp8Extension.pictureIdOctets e.pictureId).length + e.tl0PicIdx.toList.length +
            e.tidYKeyIdx.toList.length + rest.length := by
        simp only [Vp8Descriptor.octets, Vp8Extension.octets, List.cons_append, List.length_cons, List.length_append]
        omega
      rw [long]
      clear long
      obtain ⟨ext, number, old, tid, i, l, tk⟩ := e
      dsimp only
      have tl0 : (Vp8Descriptor.value ⟨first, some ⟨ext, number, old, tid, i, l, tk⟩, x⟩ octet).tlzIdx.toNat ≤
          2 + (Vp8Extension.pictureIdOctets number).length := by
        cases old with
        | none => exact Nat.zero_le _
        | some old => exact Nat.le_refl _
      refine ⟨?_, ?_, by omega⟩
      · cases number with
        | none => exact Nat.lt_of_lt_of_le (Nat.succ_pos 2) (by omega)
        | some field => exact Nat.lt_of_lt_of_le (Nat.lt_succ_self 2) (by omega)
      · intro mbit
        cases number with
        | none => exact absurd mbit Bool.false_ne_true
        | some field =>
            cases field with
            | short number m => exact absurd mbit Bool.false_ne_true
            | long number low m =>
                change 2 + 1 < 3 + 2 + old.toList.length + tid.toList.length + rest.length
                omega

theorem rewrite_accepted (accepted : (Vp8.unmarshal {} payload).run = some (.ok v)) (picId : UInt16) (tl0 : UInt8) :
    ∃ copy, v.rewrite payload picId tl0 = some copy := by
  obtain ⟨first, second, third⟩ := fields_inside accepted
  unfold Vp8.rewrite
  cases mbit : v.mbit with
  | false => exact ⟨_, modify_short first third⟩
  | true => exact ⟨_, modify_long (second mbit) third⟩

end Copy

section Turns
variable {checks : Bool} {crates : RtpCrates} {buffer : AtomicBuffer} {track track' : DownTrack} {packet : PacketMeta}
  {env : SendEnv ε} {data : Bytes} {sent part : List Sent}

theorem writeStored_eq (track : DownTrack) (env : SendEnv ε) (pkt : Packet) (size : Nat) :
    ∃ octetCount packetCount, track.writeStored env pkt size =
      ({ track with octetCount, packetCount }, if track.writeStream then [.rtp pkt] else []) := by
  unfold DownTrack.writeStored DownTrack.writeRawRtp DownTrack.writePacket
  by_cases bound : track.writeStream = true
  · rw [if_pos bound, if_pos bound]
    cases env.writeRtp with
    | ok _ => exact ⟨UInt32.ofNat size, 1, rfl⟩
    | error _ => exact ⟨track.octetCount, track.packetCount, rfl⟩
  · rw [if_neg bound, if_neg bound]
    exact ⟨UInt32.ofNat size, 1, rfl⟩

theorem get_length {b : Bucket} {sn : UInt16} (found : b.get sn = some (some data)) : data.length < 65536 := by
  unfold Bucket.get at found
  dsimp only at found
  generalize (if (b.step : Int) - (distance b.headSn sn + 1).toNat < 0 then _ else _) = pos at found
  split at found
  · cases found
  · split at found
    · cases found
    · obtain ⟨number, -, found⟩ := Option.bind_eq_some_iff.mp found
      split at found
      · cases found
      · obtain ⟨size, -, found⟩ := Option.bind_eq_some_iff.mp found
        obtain ⟨bytes, sliced, same⟩ := Option.bind_eq_some_iff.mp found
        obtain rfl : bytes = data := Option.some.inj (Option.some.inj same)
        unfold ByteStore.slice at sliced
        split at sliced
        · obtain rfl := Option.some.inj sliced
          rw [List.length_map, List.length_range]
          exact size.toNat_lt
        · cases sliced

/-- The read into the buffer of the loop, against what is stored. -/
theorem getPacket_stored (checks : Bool) (buffer : AtomicBuffer) (sn : UInt16) :
    match buffer.stored checks sn with
    | none => buffer.getPacket checks 65535 sn = none
    | some none => (∃ err, buffer.getPacket checks 65535 sn = some (.error err)) ∨
        buffer.getPacket checks 65535 sn = some (.ok [])
    | some (some data) =>
        buffer.getPacket checks 65535 sn = if data.length = 65535 then some (.ok data) else none := by
  obtain ⟨inner, closed⟩ := buffer
  cases closed with
  | true => exact Or.inl ⟨.errIOEof, rfl⟩
  | false =>
      unfold AtomicBuffer.stored AtomicBuffer.getPacket
      simp only [Bool.false_eq_true, if_false]
      cases inner.bucket with
      | none => exact Or.inr rfl
      | some bucket =>
          dsimp only
          cases bucket.lookupPasses checks sn with
          | none => rfl
          | some _ =>
              rw [Option.bind_some, Option.bind_some]
              unfold Bucket.getPacket
              cases found : bucket.get sn with
              | none => rfl
              | some held =>
                  cases held with
                  | none => exact Or.inl ⟨.errPacketNotFound, rfl⟩
                  | some data =>
                      have width := get_length found
                      change (if 65535 < data.length then _ else if 65535 = data.length then _ else _) = _
                      rw [if_neg (by omega)]
                      simp only [eq_comm]
                      rfl

theorem getPacket_found (found : buffer.stored checks packet.sourceSeqNo = some (some data)) :
    buffer.getPacket checks 65535 packet.sourceSeqNo = if data.length = 65535 then some (.ok data) else none := by
  have read := getPacket_stored checks buffer packet.sourceSeqNo
  rw [found] at read
  exact read

/-- What a turn that completes did. -/
theorem retransmit_cases (turned : retransmit checks crates buffer track packet env = some (track', sent)) :
    track' = track ∧ sent = [] ∨
      ∃ data p, buffer.getPacket checks 65535 packet.sourceSeqNo = some (.ok data) ∧ crates.unmarshal data = some p ∧
        track.writeStored env (track.retransmission packet p) data.length = (track', sent) := by
  unfold retransmit at turned
  split at turned
  · cases turned
  · obtain ⟨rfl, rfl⟩ := turned
    exact Or.inl ⟨rfl, rfl⟩
  · rename_i data read
    split at turned
    · obtain ⟨rfl, rfl⟩ := turned
      exact Or.inl ⟨rfl, rfl⟩
    · rename_i p parsed
      split at turned
      · cases turned
      · obtain ⟨rfl, rfl⟩ := turned
        exact Or.inl ⟨rfl, rfl⟩
      · exact Or.inr ⟨data, p, read, parsed, Option.some.inj turned⟩

theorem retransmit_frame (turned : retransmit checks crates buffer track packet env = some (track', sent)) :
    ∃ octetCount packetCount, track' = { track with octetCount, packetCount } := by
  rcases retransmit_cases turned with ⟨rfl, -⟩ | ⟨data, p, -, -, written⟩
  · exact ⟨track'.octetCount, track'.packetCount, rfl⟩
  · obtain ⟨octetCount, packetCount, wrote⟩ := writeStored_eq track env (track.retransmission packet p) data.length
    rw [wrote, Prod.mk.injEq] at written
    exact ⟨octetCount, packetCount, written.1.symm⟩

/-- Without a write stream nothing is written. -/
theorem retransmit_unbound (unbound : track.writeStream = false)
    (turned : retransmit checks crates buffer track packet env = some (track', sent)) : sent = [] := by
  rcases retransmit_cases turned with ⟨-, none⟩ | ⟨data, p, -, -, written⟩
  · exact none
  · obtain ⟨octetCount, packetCount, wrote⟩ := writeStored_eq track env (track.retransmission packet p) data.length
    rw [wrote, unbound, Prod.mk.injEq] at written
    exact written.2.symm

theorem retransmit_absent (short : ∀ data, data.length < 12 → crates.unmarshal data = none)
    (absent : buffer.stored checks packet.sourceSeqNo = some none) :
    retransmit checks crates buffer track packet env = some (track, []) := by
  have read := getPacket_stored checks buffer packet.sourceSeqNo
  rw [absent] at read
  rcases read with ⟨err, refused⟩ | empty
  · rw [retransmit, refused]
  · rw [retransmit, empty]
    dsimp only
    rw [short [] (Nat.succ_pos 11)]

/-- A stored packet of any other length panics. -/
theorem retransmit_panics (found : buffer.stored checks packet.sourceSeqNo = some (some data))
    (other : data.length ≠ 65535) : retransmit checks crates buffer track packet env = none := by
  rw [retransmit, getPacket_found found, if_neg other]

theorem payloadCopy_owed {p : Packet} {owed : Bytes} (owes : OwedPayload track packet p.payload owed) :
    ∃ copy, track.payloadCopy packet p = some (.ok copy) := by
  unfold OwedPayload at owes
  unfold DownTrack.payloadCopy
  split
  · rename_i filters
    rw [if_pos filters] at owes
    obtain ⟨v, accepted, -⟩ := owes
    obtain ⟨copy, rewritten⟩ := rewrite_accepted accepted packet.getVp8PayloadMeta.2 packet.getVp8PayloadMeta.1
    rw [accepted]
    exact ⟨copy, congrArg (Option.map Except.ok) rewritten⟩
  · exact ⟨p.payload, rfl⟩

/-- A packet that fills the buffer goes to the write stream with its own payload. -/
theorem retransmit_full (env : SendEnv ε) (found : buffer.stored checks packet.sourceSeqNo = some (some data))
    (full : data.length = 65535) {p : Packet} (parsed : crates.unmarshal data = some p) {owed : Bytes}
    (owes : OwedPayload track packet p.payload owed) :
    ∃ track', retransmit checks crates buffer track packet env =
      some (track', if track.writeStream then [.rtp (track.retransmission packet p)] else []) := by
  have read := getPacket_found found
  rw [if_pos full] at read
  obtain ⟨copy, copied⟩ := payloadCopy_owed owes
  obtain ⟨octetCount, packetCount, wrote⟩ := writeStored_eq track env (track.retransmission packet p) data.length
  refine ⟨{ track with octetCount, packetCount }, ?_⟩
  rw [retransmit, read]
  simp only [parsed, copied, wrote]

/-- A payload is owed as it is exactly when it carries the numbers of the entry. -/
theorem owed_self_iff (payload : Bytes) :
    OwedPayload track packet payload payload ↔ CarriesMeta track packet payload := by
  unfold OwedPayload CarriesMeta
  split
  · apply exists_congr
    intro v
    apply and_congr_right
    intro accepted
    constructor
    · rintro ⟨parses, -, -⟩
      rw [accepted, Option.some.injEq, Except.ok.injEq] at parses
      exact parses.symm
    · intro same
      exact ⟨by rw [same, accepted], rfl, fun _ _ => rfl⟩
  · exact iff_of_true rfl trivial

/-- One turn: the entry gets what it should exactly when it is served. -/
theorem turn_iff (env : SendEnv ε) (short : ∀ data, data.length < 12 → crates.unmarshal data = none) :
    (∃ track' sent, retransmit checks crates buffer track packet env = some (track', sent) ∧
      Answers checks crates buffer track packet sent) ↔ Served checks crates buffer track packet := by
  unfold Answers Served
  cases found : buffer.stored checks packet.sourceSeqNo with
  | none => exact iff_of_false (fun ⟨_, _, _, never⟩ => never) id
  | some held =>
      cases held with
      | none => exact iff_of_true ⟨track, [], retransmit_absent short found, rfl⟩ trivial
      | some data =>
          constructor
          · rintro ⟨track', sent, turned, p, owed, parsed, owes, rfl⟩
            by_cases full : data.length = 65535
            · obtain ⟨after, sends⟩ := retransmit_full env found full parsed owes
              rw [sends, Option.some.injEq, Prod.mk.injEq] at turned
              by_cases bound : track.writeStream = true
              · rw [if_pos bound] at turned
                have one := (List.cons.inj turned.2).1
                have same : p.payload = owed := congrArg Packet.payload (Sent.rtp.inj one)
                rw [← same, owed_self_iff] at owes
                exact ⟨full, bound, p, parsed, owes⟩
              · rw [if_neg bound] at turned
                cases turned.2
            · rw [retransmit_panics found full] at turned
              cases turned
          · rintro ⟨full, bound, p, parsed, carries⟩
            have owes := (owed_self_iff p.payload).mpr carries
            obtain ⟨after, sends⟩ := retransmit_full env found full parsed owes
            rw [if_pos bound] at sends
            exact ⟨after, _, sends, p, p.payload, parsed, owes, rfl⟩

/-- Of shorter stored packets none is served. -/
theorem served_short_iff
    (short : ∀ data, buffer.stored checks packet.sourceSeqNo = some (some data) → data.length < 65535) :
    Served checks crates buffer track packet ↔ buffer.stored checks packet.sourceSeqNo = some none := by
  unfold Served
  cases found : buffer.stored checks packet.sourceSeqNo with
  | none => exact iff_of_false id (fun none => nomatch none)
  | some held =>
      cases held with
      | none => exact iff_of_true trivial rfl
      | some data =>
          have less := short data found
          refine iff_of_false ?_ (fun none => nomatch none)
          rintro ⟨full, -, -⟩
          omega

/-- A turn on a track with a write stream writes as many packets as its entry should lead to. -/
theorem turn_length (short : ∀ data, data.length < 12 → crates.unmarshal data = none)
    (bound : track.writeStream = true)
    (turned : retransmit checks crates buffer track packet env = some (track', sent))
    (answers : Answers checks crates buffer track packet part) : sent.length = part.length := by
  unfold Answers at answers
  cases found : buffer.stored checks packet.sourceSeqNo with
  | none =>
      rw [found] at answers
      exact answers.elim
  | some held =>
      rw [found] at answers
      cases held with
      | none =>
          rw [retransmit_absent short found, Option.some.injEq, Prod.mk.injEq] at turned
          rw [← turned.2, show part = [] from answers]
      | some data =>
          obtain ⟨p, owed, parsed, owes, rfl⟩ := answers
          by_cases full : data.length = 65535
          · obtain ⟨after, sends⟩ := retransmit_full env found full parsed owes
            rw [sends, if_pos bound, Option.some.injEq, Prod.mk.injEq] at turned
            rw [← turned.2]
            rfl
          · rw [retransmit_panics found full] at turned
            cases turned

end Turns

section Runs
variable {checks : Bool} {crates : RtpCrates} {buffers : Vector (Option AtomicBuffer) 3} {track track' : DownTrack}

theorem retransmitPackets_cons {packet : PacketMeta} {env : SendEnv ε} {rest : List (PacketMeta × SendEnv ε)}
    {buffer : AtomicBuffer} (here : buffers[packet.layer.toNat]? = some (some buffer)) {sent : List Sent} :
    retransmitPackets checks crates buffers track ((packet, env) :: rest) = some (track', sent) ↔
      ∃ between first more, retransmit checks crates buffer track packet env = some (between, first) ∧
        retransmitPackets checks crates buffers between rest = some (track', more) ∧ first ++ more = sent := by
  rw [retransmitPackets, here]
  constructor
  · intro ran
    obtain ⟨⟨between, first⟩, turned, ran⟩ := Option.bind_eq_some_iff.mp ran
    obtain ⟨⟨after, more⟩, later, same⟩ := Option.bind_eq_some_iff.mp ran
    obtain ⟨rfl, rfl⟩ := Prod.mk.inj (Option.some.inj same)
    exact ⟨between, first, more, turned, later, rfl⟩
  · rintro ⟨between, first, more, turned, later, rfl⟩
    exact Option.bind_eq_some_iff.mpr ⟨_, turned, Option.bind_eq_some_iff.mpr ⟨_, later, rfl⟩⟩

/-- Without a write stream the whole call writes nothing. -/
theorem retransmitPackets_unbound {requests : List (PacketMeta × SendEnv ε)} {sent : List Sent}
    (present : ∀ request ∈ requests, ∃ buffer, buffers[request.1.layer.toNat]? = some (some buffer))
    (unbound : track.writeStream = false)
    (ran : retransmitPackets checks crates buffers track requests = some (track', sent)) : sent = [] := by
  induction requests generalizing track track' sent with
  | nil =>
      obtain ⟨rfl, rfl⟩ := Prod.mk.inj (Option.some.inj ran)
      rfl
  | cons request rest ih =>
      obtain ⟨buffer, here⟩ := present request List.mem_cons_self
      obtain ⟨between, first, more, turned, later, rfl⟩ := (retransmitPackets_cons here).mp ran
      obtain ⟨octetCount, packetCount, frame⟩ := retransmit_frame turned
      have still : between.writeStream = false := by rw [frame, unbound]
      have nothing := ih (fun other among => present other (List.mem_cons_of_mem request among)) still later
      rw [retransmit_unbound unbound turned, nothing, List.append_nil]

/-- What the first turn wrote is the part of its entry. -/
theorem turn_aligned {packet : PacketMeta} {env : SendEnv ε} {rest : List (PacketMeta × SendEnv ε)}
    {buffer : AtomicBuffer} {between : DownTrack} {first more part others : List Sent}
    (short : ∀ data, data.length < 12 → crates.unmarshal data = none)
    (present : ∀ request ∈ rest, ∃ buffer, buffers[request.1.layer.toNat]? = some (some buffer))
    (turned : retransmit checks crates buffer track packet env = some (between, first))
    (later : retransmitPackets checks crates buffers between rest = some (track', more))
    (answers : Answers checks crates buffer track packet part) (joined : first ++ more = part ++ others) :
    first = part ∧ more = others := by
  by_cases bound : track.writeStream = true
  · exact List.append_inj joined (turn_length short bound turned answers)
  · have unbound := Bool.eq_false_iff.mpr bound
    obtain ⟨octetCount, packetCount, frame⟩ := retransmit_frame turned
    have still : between.writeStream = false := by rw [frame, unbound]
    rw [retransmit_unbound unbound turned, retransmitPackets_unbound present still later] at joined ⊢
    obtain ⟨mine, theirs⟩ := List.append_eq_nil_iff.mp joined.symm
    exact ⟨mine.symm, theirs.symm⟩

theorem retransmits_iff (short : ∀ data, data.length < 12 → crates.unmarshal data = none)
    {requests : List (PacketMeta × SendEnv ε)}
    (present : ∀ request ∈ requests, ∃ buffer, buffers[request.1.layer.toNat]? = some (some buffer)) :
    Retransmits checks crates buffers track requests ↔
      ∀ request ∈ requests, ∀ buffer, buffers[request.1.layer.toNat]? = some (some buffer) →
        Served checks crates buffer track request.1 := by
  induction requests generalizing track with
  | nil => exact iff_of_true ⟨track, [], rfl, .nil⟩ fun request among => (nomatch among)
  | cons request rest ih =>
      obtain ⟨buffer, here⟩ := present request List.mem_cons_self
      have later_present : ∀ other ∈ rest, ∃ buffer, buffers[other.1.layer.toNat]? = some (some buffer) :=
        fun other among => present other (List.mem_cons_of_mem request among)
      constructor
      · rintro ⟨track', parts, ran, answered⟩
        obtain ⟨between, first, more, turned, later, joined⟩ := (retransmitPackets_cons here).mp ran
        cases answered with
        | @cons _ part _ parts answers rest_answered =>
            obtain ⟨buffer', here', answers⟩ := answers
            obtain rfl : buffer = buffer' := Option.some.inj (Option.some.inj (here.symm.trans here'))
            rw [List.flatten_cons] at joined
            obtain ⟨rfl, rfl⟩ := turn_aligned short later_present turned later answers joined
            have head := (turn_iff request.2 short).mp ⟨_, first, turned, answers⟩
            obtain ⟨octetCount, packetCount, rfl⟩ := retransmit_frame turned
            have tail := (ih later_present).mp ⟨track', parts, later, rest_answered⟩
            intro other among held there
            rcases List.mem_cons.mp among with rfl | among
            · obtain rfl : buffer = held := Option.some.inj (Option.some.inj (here.symm.trans there))
              exact head
            · exact tail other among held there
      · intro served
        obtain ⟨between, first, turned, answers⟩ :=
          (turn_iff request.2 short).mpr (served request List.mem_cons_self buffer here)
        obtain ⟨octetCount, packetCount, frame⟩ := retransmit_frame turned
        have still : ∀ other ∈ rest, ∀ buffer, buffers[other.1.layer.toNat]? = some (some buffer) →
            Served checks crates buffer between other.1 := by
          rw [frame]
          exact fun other among => served other (List.mem_cons_of_mem request among)
        obtain ⟨track', parts, later, answered⟩ := (ih later_present).mpr still
        rw [frame] at answered
        refine ⟨track', first :: parts, ?_, .cons ⟨buffer, here, answers⟩ answered⟩
        exact (retransmitPackets_cons here).mpr ⟨_, first, _, turned, later, rfl⟩

end Runs

/-- A store that holds one packet of twelve bytes, and no other layers. -/
def storedPacket : Bytes := [128, 96, 0, 7, 0, 0, 0, 0, 0, 0, 0, 9]

def storedBuffers : Vector (Option AtomicBuffer) 3 :=
  let bucket := ((Bucket.new 37500).addPacket storedPacket 7 true).map Prod.fst
  #v[some ⟨{ bucket, mediaSsrc := 9, videoPoolLen := 750000, audioPoolLen := 37500 }, false⟩, none, none]

def headerCrates : RtpCrates where
  unmarshal data := if data.length < 12 then none else some { payload := data.drop 12 }
  audioLevel _ := none
  transportCcUri := ""
  audioLevelUri := ""
  fbGoogRemb := ""
  fbTransportCc := ""
  fbNack := ""

def subscriber : DownTrack where
  codec := ⟨"audio/opus", 48000, "", []⟩
  maxTrack := 0
  writeStream := true

def request (sourceSeqNo : UInt16) : PacketMeta × SendEnv Unit :=
  ({ sourceSeqNo, targetSeqNo := 1, timestamp := 0, layer := 0 }, {})

theorem retransmits_iff_unstored :
    Retransmits true headerCrates storedBuffers subscriber [request 5, request 6] ↔
      ∀ r ∈ [request 5, request 6], ∀ buffer, storedBuffers[r.1.layer.toNat]? = some (some buffer) →
        Served true headerCrates buffer subscriber r.1 := by
  apply retransmits_iff
  · intro data short
    exact if_pos short
  · intro r among
    have layer : r.1.layer = 0 := by
      rcases List.mem_cons.mp among with rfl | last
      · rfl
      · obtain rfl := List.mem_singleton.mp last
        rfl
    rw [layer]
    exact ⟨_, rfl⟩

/-- The one packet that is stored is never sent again, with overflow checks or without. -/
theorem stored_packet_panics :
    (∃ buffer, storedBuffers[0]? = some (some buffer) ∧ buffer.stored true 7 = some (some storedPacket)) ∧
      ¬ Retransmits true headerCrates storedBuffers subscriber [request 7] ∧
      ¬ Retransmits false headerCrates storedBuffers subscriber [request 7] := by
  refine ⟨⟨_, rfl, by decide +kernel⟩, ?_, ?_⟩
  · rintro ⟨track', parts, ran, -⟩
    have panics : (retransmitPackets true headerCrates storedBuffers subscriber [request 7]).isNone = true := by
      decide +kernel
    rw [ran] at panics
    cases panics
  · rintro ⟨track', parts, ran, -⟩
    have panics : (retransmitPackets false headerCrates storedBuffers subscriber [request 7]).isNone = true := by
      decide +kernel
    rw [ran] at panics
    cases panics

end Retransmission

end Rsfu
