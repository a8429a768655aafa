import Rsfu.TrackRuns
import Rsfu.SerialNumber

/-! Outgoing numbers of a simple track that hears one source. Between two moves
of the offset the outgoing number follows the source number; a move places the
packet that ends the re-sync right after the last head packet. -/
namespace Rsfu
open GuardedRun SerialNumber

structure Renumbered where
  sourceSn : UInt16
  sn : UInt16
  head : Bool
  deriving DecidableEq, Repr

/-- A down track with the source numbers handed to it and the packets it forwarded;
`anchor` is the source number of the last packet that moved the offset. -/
structure Renumbering where
  track : DownTrack
  seen : List UInt16 := []
  sent : List Renumbered := []
  anchor : Option UInt16 := none

namespace Renumbering
variable {ε : Type}

def note (g : Renumbering) (op : TrackOp ε) (d' : DownTrack) (sent : List Sent) : Renumbering :=
  match op, sent with
  | .writeRtp _ pkt _, [.rtp packet] => {
      track := d'
      seen := g.seen ++ [pkt.packet.header.sequenceNumber]
      sent := g.sent ++ [⟨pkt.packet.header.sequenceNumber, packet.header.sequenceNumber, pkt.head⟩]
      anchor := if g.track.Recomputes pkt then some pkt.packet.header.sequenceNumber else g.anchor }
  | .writeRtp _ pkt _, _ => { g with track := d', seen := g.seen ++ [pkt.packet.header.sequenceNumber] }
  | _, _ => { g with track := d' }

def step (g : Renumbering) (op : TrackOp ε) : Option Renumbering :=
  (g.track.apply op).map fun outcome => g.note op outcome.1 outcome.2

/-- No outgoing number is used twice. -/
def Distinct (g : Renumbering) : Prop := (g.sent.map Renumbered.sn).Nodup

/-- Mutes, and packets of pairwise distinct numbers less than half a cycle above
`base`; a head packet is newer than all before it. -/
def OneSource (base : UInt16) (g : Renumbering) : TrackOp ε → Prop
  | .mute _ => True
  | .writeRtp _ pkt _ =>
      pkt.packet.header.sequenceNumber ∉ g.seen ∧ rank base pkt.packet.header.sequenceNumber < 32768 ∧
        (pkt.head = true → ∀ sn ∈ g.seen, rank base sn < rank base pkt.packet.header.sequenceNumber)
  | _ => False

/-- A packet that moves the offset is the first one forwarded or newer than all forwarded
ones, the newest of which is a head packet; any other packet is not older than the last
one that moved it. -/
def Ahead (base : UInt16) (g : Renumbering) (pkt : ExtPacket) : Prop :=
  if g.track.Recomputes pkt then
    g.sent = [] ∨ ∃ f ∈ g.sent, f.head = true ∧ rank base f.sourceSn < rank base pkt.packet.header.sequenceNumber ∧
      ∀ f' ∈ g.sent, rank base f'.sourceSn ≤ rank base f.sourceSn
  else ∀ sn ∈ g.anchor, rank base sn ≤ rank base pkt.packet.header.sequenceNumber

instance (base : UInt16) (g : Renumbering) (pkt : ExtPacket) : Decidable (g.Ahead base pkt) := by
  have : Decidable (∀ sn ∈ g.anchor, rank base sn ≤ rank base pkt.packet.header.sequenceNumber) :=
    Option.decidableForallMem g.anchor
  unfold Ahead
  infer_instance

instance (base : UInt16) (g : Renumbering) (op : TrackOp ε) : Decidable (g.OneSource base op) :=
  match op with
  | .writeRtp _ pkt _ =>
      have : Decidable (∀ sn ∈ g.seen, rank base sn < rank base pkt.packet.header.sequenceNumber) :=
        List.decidableBAll _ g.seen
      inferInstanceAs (Decidable (_ ∧ _ ∧ (_ → _)))
  | .mute _ => isTrue trivial
  | .bind _ _ | .unbind | .setInitialLayers _ _ | .switchSpatialLayer _ _ _ | .switchSpatialLayerDone _
  | .switchTemporalLayer _ _ => isFalse id

def StaysAhead (base : UInt16) (g : Renumbering) (op : TrackOp ε) : Prop := g.track.OnAdmitted (g.Ahead base) op

instance (base : UInt16) (g : Renumbering) (op : TrackOp ε) : Decidable (g.StaysAhead base op) :=
  inferInstanceAs (Decidable (g.track.OnAdmitted _ op))

def floor (base : UInt16) (g : Renumbering) : Nat := g.anchor.elim 0 (rank base)

/-- Packets from the anchor on are shifted by the offset, older ones went out below it. -/
def Placed (base initial : UInt16) (floor : Nat) (snOffset : UInt16) (f : Renumbered) : Prop :=
  floor ≤ rank base f.sourceSn ∧ rank (base - initial) f.sn = rank base f.sourceSn - rank initial snOffset ∨
    rank base f.sourceSn < floor ∧ rank (base - initial) f.sn < floor - rank initial snOffset

structure Places (base initial : UInt16) (g : Renumbering) : Prop where
  simple : g.track.trackType = .simpleDownTrack
  stream : g.track.writeStream = true
  seen : ∀ f ∈ g.sent, f.sourceSn ∈ g.seen
  anchored : ∀ sn ∈ g.anchor, ∃ f ∈ g.sent, f.sourceSn = sn
  shift : rank initial g.track.snOffset ≤ g.floor base
  placed : ∀ f ∈ g.sent, Placed base initial (g.floor base) g.track.snOffset f
  lastHead : (∃ f ∈ g.sent, f.head = true) → ∃ f ∈ g.sent, f.head = true ∧ f.sn = g.track.lastSn ∧
    ∀ f' ∈ g.sent, f'.head = true → rank base f'.sourceSn ≤ rank base f.sourceSn
  distinct : g.Distinct

variable {base initial : UInt16} {g : Renumbering} {pkt : ExtPacket} {d' : DownTrack}

/-- The outgoing number of a packet that lies at least the shift above the base. -/
theorem rank_shifted (base initial sn snOffset : UInt16) (le : rank initial snOffset ≤ rank base sn) :
    rank (base - initial) (sn - snOffset) = rank base sn - rank initial snOffset := by
  have split : sn - snOffset = base - initial + UInt16.ofNat (rank base sn - rank initial snOffset) := by
    rw [← ofNat_sub16 le, rank, rank, ofNat_toNat16, ofNat_toNat16]
    grind
  rw [split]
  apply rank_add
  have := rank_lt base sn
  omega

/-- The offset that takes one number to another. -/
theorem rank_sub (base initial sn out : UInt16) (le : rank (base - initial) out ≤ rank base sn) :
    rank initial (sn - out) = rank base sn - rank (base - initial) out := by
  have back : base - (base - initial) = initial := by grind
  have shifted := rank_shifted base (base - initial) sn out le
  rwa [back] at shifted

theorem floor_le {f : Renumbered} (inv : g.Places base initial)
    (newest : ∀ f' ∈ g.sent, rank base f'.sourceSn ≤ rank base f.sourceSn) :
    g.floor base ≤ rank base f.sourceSn := by
  unfold floor
  cases found : g.anchor with
  | none => exact Nat.zero_le _
  | some sn =>
      obtain ⟨f', sent, rfl⟩ := inv.anchored sn found
      exact newest f' sent

/-- The packet that moves the offset goes out right after the newest one. -/
theorem moved_placed {f : Renumbered} (inv : g.Places base initial) (recomputes : g.track.Recomputes pkt)
    (forwards : g.track.Forwards pkt d') (sent : f ∈ g.sent) (head : f.head = true)
    (newer : rank base f.sourceSn < rank base pkt.packet.header.sequenceNumber)
    (newest : ∀ f' ∈ g.sent, rank base f'.sourceSn ≤ rank base f.sourceSn) :
    rank initial d'.snOffset ≤ rank base pkt.packet.header.sequenceNumber ∧
      ∀ f ∈ g.sent, Placed base initial (rank base pkt.packet.header.sequenceNumber) d'.snOffset f := by
  obtain ⟨last, sentLast, headLast, lastSn, newestHead⟩ := inv.lastHead ⟨f, sent, head⟩
  have floor := floor_le inv newest
  have shift := inv.shift
  have width := rank_lt base pkt.packet.header.sequenceNumber
  have same : rank base last.sourceSn = rank base f.sourceSn :=
    Nat.le_antisymm (newest last sentLast) (newestHead f sent head)
  have lastRank : rank (base - initial) g.track.lastSn = rank base f.sourceSn - rank initial g.track.snOffset := by
    rw [← lastSn]
    rcases inv.placed last sentLast with ⟨-, out⟩ | ⟨below, -⟩
    · rw [out, same]
    · omega
  have next : rank (base - initial) (g.track.lastSn + 1) =
      rank base f.sourceSn - rank initial g.track.snOffset + 1 := by
    have split : g.track.lastSn + 1 =
        base - initial + UInt16.ofNat (rank (base - initial) g.track.lastSn + 1) := by
      rw [← ofNat_add16, rank, ofNat_toNat16]
      grind
    rw [split, rank_add (by omega), lastRank]
  have moved : rank initial d'.snOffset = rank base pkt.packet.header.sequenceNumber -
      (rank base f.sourceSn - rank initial g.track.snOffset + 1) := by
    have offset : d'.snOffset = pkt.packet.header.sequenceNumber - (g.track.lastSn + 1) := by
      rw [forwards.snOffset, if_pos recomputes]
      grind
    rw [offset, rank_sub base initial _ _ (by omega), next]
  refine ⟨by omega, ?_⟩
  intro f' sent'
  have older := newest f' sent'
  right
  rw [moved]
  rcases inv.placed f' sent' with ⟨above, out⟩ | ⟨below, out⟩
  · omega
  · omega

/-- The floor after a forwarded packet. -/
def nextFloor (base : UInt16) (g : Renumbering) (pkt : ExtPacket) : Nat :=
  if g.track.Recomputes pkt then rank base pkt.packet.header.sequenceNumber else g.floor base

theorem ahead_floor (ahead : g.Ahead base pkt) :
    g.nextFloor base pkt ≤ rank base pkt.packet.header.sequenceNumber := by
  unfold nextFloor
  unfold Ahead at ahead
  by_cases recomputes : g.track.Recomputes pkt
  · rw [if_pos recomputes]
  · rw [if_neg recomputes] at ahead ⊢
    unfold floor
    cases found : g.anchor with
    | none => exact Nat.zero_le _
    | some sn => exact ahead sn found

/-- As long as nothing was sent, the places can be counted from any offset. -/
theorem forward_placed (inv : g.Places base initial) (ahead : g.Ahead base pkt)
    (forwards : g.track.Forwards pkt d') :
    ∃ initial, rank initial d'.snOffset ≤ g.nextFloor base pkt ∧
      ∀ f ∈ g.sent, Placed base initial (g.nextFloor base pkt) d'.snOffset f := by
  unfold Ahead at ahead
  unfold nextFloor
  by_cases recomputes : g.track.Recomputes pkt
  · rw [if_pos recomputes] at ahead ⊢
    rcases ahead with unsent | ⟨f, sent, head, newer, newest⟩
    · refine ⟨d'.snOffset, ?_, ?_⟩
      · rw [rank_self]
        exact Nat.zero_le _
      · rw [unsent]
        intro f sent
        cases sent
    · exact ⟨initial, moved_placed inv recomputes forwards sent head newer newest⟩
  · have kept : d'.snOffset = g.track.snOffset := forwards.snOffset.trans (if_neg recomputes)
    rw [if_neg recomputes, kept]
    exact ⟨initial, inv.shift, inv.placed⟩

/-- A packet from the floor on goes out under a number that no placed packet has. -/
theorem fresh_number {floor : Nat} {snOffset sn : UInt16} {f : Renumbered}
    (placed : Placed base initial floor snOffset f) (shift : rank initial snOffset ≤ floor)
    (above : floor ≤ rank base sn) (other : f.sourceSn ≠ sn) : f.sn ≠ sn - snOffset := by
  intro same
  have out := rank_shifted base initial sn snOffset (shift.trans above)
  have apart : rank base f.sourceSn ≠ rank base sn := fun same => other (rank_inj same)
  rw [← same] at out
  rcases placed with ⟨within, placed⟩ | ⟨below, placed⟩
  · omega
  · omega

theorem forward_lastHead (inv : g.Places base initial) (forwards : g.track.Forwards pkt d') {next : Renumbered}
    (source : next.sourceSn = pkt.packet.header.sequenceNumber) (marked : next.head = pkt.head)
    (same : next.sn = pkt.packet.header.sequenceNumber - d'.snOffset)
    (newest : pkt.head = true → ∀ sn ∈ g.seen, rank base sn < rank base pkt.packet.header.sequenceNumber)
    (used : ∃ f ∈ g.sent ++ [next], f.head = true) :
    ∃ f ∈ g.sent ++ [next], f.head = true ∧ f.sn = d'.lastSn ∧
      ∀ f' ∈ g.sent ++ [next], f'.head = true → rank base f'.sourceSn ≤ rank base f.sourceSn := by
  have lastSn := forwards.lastSn
  cases head : pkt.head with
  | true =>
      rw [if_pos head] at lastSn
      refine ⟨next, List.mem_append_right _ List.mem_cons_self, marked.trans head, same.trans lastSn.symm, ?_⟩
      intro f' sent _
      rcases List.mem_append.mp sent with old | new
      · rw [source]
        exact le_of_lt (newest head f'.sourceSn (inv.seen f' old))
      · obtain rfl := List.mem_singleton.mp new
        exact le_rfl
  | false =>
      have tail : next.head ≠ true := by
        rw [marked, head]
        exact Bool.false_ne_true
      have running : ¬ g.track.Restarts pkt := by
        intro restarts
        cases inv.simple.symm.trans restarts.1
      rw [head, if_neg Bool.false_ne_true, if_neg running] at lastSn
      rw [lastSn]
      have before : ∃ f ∈ g.sent, f.head = true := by
        obtain ⟨f, sent, isHead⟩ := used
        rcases List.mem_append.mp sent with old | new
        · exact ⟨f, old, isHead⟩
        · obtain rfl := List.mem_singleton.mp new
          exact absurd isHead tail
      obtain ⟨f, sent, isHead, out, newestHead⟩ := inv.lastHead before
      refine ⟨f, List.mem_append_left _ sent, isHead, out, ?_⟩
      intro f' sent' isHead'
      rcases List.mem_append.mp sent' with old | new
      · exact newestHead f' old isHead'
      · obtain rfl := List.mem_singleton.mp new
        exact absurd isHead' tail

theorem Distinct.forward {env : SendEnv ε} {layer : Nat} {packet : Packet} (distinct : g.Distinct)
    (fresh : ∀ f ∈ g.sent, f.sn ≠ packet.header.sequenceNumber) :
    (g.note (.writeRtp env pkt layer) d' [.rtp packet]).Distinct := by
  unfold Distinct note
  rw [List.map_append, List.nodup_append]
  refine ⟨distinct, List.pairwise_singleton _ _, ?_⟩
  intro out used out' new
  obtain ⟨f, sent, rfl⟩ := List.mem_map.mp used
  obtain rfl := List.mem_singleton.mp new
  exact fresh f sent

theorem forward_places {env : SendEnv ε} {layer : Nat} {packet : Packet} (inv : g.Places base initial)
    (source : g.OneSource base (.writeRtp env pkt layer)) (ahead : g.Ahead base pkt)
    (forwards : g.track.Forwards pkt d')
    (sn : packet.header.sequenceNumber = pkt.packet.header.sequenceNumber - d'.snOffset) :
    ∃ initial, (g.note (.writeRtp env pkt layer) d' [.rtp packet]).Places base initial := by
  obtain ⟨unseen, -, newest⟩ := source
  have above := ahead_floor ahead
  obtain ⟨initial', shift, placed⟩ := forward_placed inv ahead forwards
  have floored : (g.note (.writeRtp env pkt layer) d' [.rtp packet]).floor base = g.nextFloor base pkt := by
    change Option.elim (if g.track.Recomputes pkt then some pkt.packet.header.sequenceNumber else g.anchor) 0
      (rank base) = _
    unfold nextFloor floor
    split <;> rfl
  refine ⟨initial', ?_⟩
  constructor
  · exact forwards.trackType.trans inv.simple
  · exact forwards.writeStream.trans inv.stream
  · intro f sent
    rcases List.mem_append.mp sent with old | new
    · exact List.mem_append_left _ (inv.seen f old)
    · obtain rfl := List.mem_singleton.mp new
      exact List.mem_append_right _ List.mem_cons_self
  · intro anchor found
    by_cases recomputes : g.track.Recomputes pkt
    · have same : pkt.packet.header.sequenceNumber = anchor :=
        Option.some.inj ((if_pos recomputes).symm.trans found)
      exact ⟨_, List.mem_append_right _ List.mem_cons_self, same⟩
    · obtain ⟨f, sent, same⟩ := inv.anchored anchor ((if_neg recomputes).symm.trans found)
      exact ⟨f, List.mem_append_left _ sent, same⟩
  · rw [floored]
    exact shift
  · rw [floored]
    intro f sent
    rcases List.mem_append.mp sent with old | new
    · exact placed f old
    · obtain rfl := List.mem_singleton.mp new
      refine Or.inl ⟨above, ?_⟩
      change rank (base - initial') packet.header.sequenceNumber = _
      rw [sn]
      exact rank_shifted base initial' _ _ (shift.trans above)
  · exact forward_lastHead inv forwards rfl rfl sn newest
  · refine inv.distinct.forward fun f sent => ?_
    have other : f.sourceSn ≠ pkt.packet.header.sequenceNumber := fun same => unseen (same ▸ inv.seen f sent)
    rw [sn]
    exact fresh_number (placed f sent) shift above other

theorem hold_places (inv : g.Places base initial) (sn : UInt16) :
    Places base initial { g with seen := g.seen ++ [sn] } :=
  ⟨inv.simple, inv.stream, fun f sent => List.mem_append_left _ (inv.seen f sent), inv.anchored,
    inv.shift, inv.placed, inv.lastHead, inv.distinct⟩

theorem mute_places (inv : g.Places base initial) (val : Bool) :
    Places base initial { g with track := g.track.mute val } := by
  obtain ⟨enabled, reSync, muted⟩ := g.track.mute_frame val
  rw [muted]
  exact ⟨inv.simple, inv.stream, inv.seen, inv.anchored, inv.shift, inv.placed, inv.lastHead, inv.distinct⟩

theorem step_places {g' : Renumbering} {op : TrackOp ε} (inv : g.Places base initial)
    (source : g.OneSource base op) (ahead : g.StaysAhead base op) (h : g.step op = some g') :
    ∃ initial, g'.Places base initial := by
  obtain ⟨⟨d', sent⟩, applied, rfl⟩ := Option.map_eq_some_iff.mp h
  cases op with
  | mute val =>
      cases applied
      exact ⟨initial, mute_places inv val⟩
  | writeRtp env pkt layer =>
      cases DownTrack.apply_writeRtp applied with
      | dropped => exact ⟨initial, hold_places inv _⟩
      | held senderSsrc mediaSsrc => exact ⟨initial, hold_places inv _⟩
      | silent admits noStream forwards => cases noStream.symm.trans inv.stream
      | forwarded admits stream forwards sn => exact forward_places inv source (ahead admits) forwards sn
  | _ => exact source.elim

/-- Without a write stream nothing is forwarded. -/
theorem step_streamless {g' : Renumbering} {op : TrackOp ε}
    (inv : g.track.writeStream = false ∧ g.sent = []) (source : g.OneSource base op)
    (h : g.step op = some g') : g'.track.writeStream = false ∧ g'.sent = [] := by
  obtain ⟨⟨d', sent⟩, applied, rfl⟩ := Option.map_eq_some_iff.mp h
  cases op with
  | mute val =>
      cases applied
      obtain ⟨enabled, reSync, muted⟩ := g.track.mute_frame val
      change (g.track.mute val).writeStream = false ∧ g.sent = []
      rw [muted]
      exact inv
  | writeRtp env pkt layer =>
      cases DownTrack.apply_writeRtp applied with
      | dropped => exact inv
      | held senderSsrc mediaSsrc => exact inv
      | silent admits noStream forwards => exact ⟨forwards.writeStream.trans inv.1, inv.2⟩
      | forwarded admits stream forwards sn => cases stream.symm.trans inv.1
  | _ => exact source.elim

/-- From any simple track, a run on one source whose packets all stay ahead never uses
an outgoing number twice. -/
theorem run_distinct (base : UInt16) {d : DownTrack} (simple : d.trackType = .simpleDownTrack)
    (ops : List (TrackOp ε)) {g : Renumbering}
    (guarded : Guarded step (fun g op => g.OneSource base op ∧ g.StaysAhead base op) { track := d } ops)
    (reached : run step { track := d } ops = some g) : g.Distinct := by
  cases stream : d.writeStream with
  | true =>
      have start : Places base d.snOffset { track := d } := {
        simple, stream
        seen := fun f sent => (nomatch sent)
        anchored := fun sn found => (nomatch found)
        shift := le_of_eq (rank_self d.snOffset)
        placed := fun f sent => (nomatch sent)
        lastHead := fun ⟨f, sent, _⟩ => (nomatch sent)
        distinct := List.Pairwise.nil }
      obtain ⟨initial, places⟩ := run_invariant (fun g => ∃ initial, g.Places base initial)
        (fun _ _ _ ⟨_, inv⟩ guard moved => step_places inv guard.1 guard.2 moved) ⟨_, start⟩ guarded reached
      exact places.distinct
  | false =>
      have none : g.sent = [] :=
        (run_invariant (fun g => g.track.writeStream = false ∧ g.sent = [])
          (fun _ _ _ inv guard moved => step_streamless inv guard.1 moved) ⟨stream, rfl⟩ guarded reached).2
      unfold Distinct
      rw [none]
      exact List.Pairwise.nil

def lateWrite (sn : UInt16) : TrackOp Unit :=
  .writeRtp {} { sourcePacket 5 sn with head := false } 0

def headWrite (sn : UInt16) : TrackOp Unit := .writeRtp {} (sourcePacket 5 sn) 0

def boundTrack : DownTrack := (vp8Track.bind vp8Context 0).1

def reorderedOps : List (TrackOp Unit) :=
  [headWrite 10, headWrite 12, lateWrite 11, .mute true, headWrite 13, .mute false,
    headWrite 15, headWrite 17, lateWrite 16]

theorem run_distinct_reordered : ∃ g, run step { track := boundTrack } reorderedOps = some g ∧
    g.sent.map Renumbered.sn = [10, 12, 11, 13, 15, 14] ∧ g.Distinct := by
  have left : (run step { track := boundTrack } reorderedOps).map (fun g => g.sent.map Renumbered.sn) =
      some [10, 12, 11, 13, 15, 14] := by decide +kernel
  obtain ⟨g, reached, left⟩ := Option.map_eq_some_iff.mp left
  exact ⟨g, reached, left,
    run_distinct 10 (by decide +kernel) reorderedOps (by decide +kernel) reached⟩

def overtakenOps : List (TrackOp Unit) :=
  [headWrite 10, headWrite 11, .mute true, .mute false, headWrite 13, lateWrite 12]

/-- 13 ends the re-sync and leaves as 12; the late 12 leaves as 11, which was used before. -/
theorem late_packet_reuses_number :
    Guarded step (OneSource 10) { track := boundTrack } overtakenOps ∧
    ∃ g, run step { track := boundTrack } overtakenOps = some g ∧ ¬ g.Distinct := by
  refine ⟨by decide +kernel, ?_⟩
  have left : (run step { track := boundTrack } overtakenOps).map (fun g => g.sent.map Renumbered.sn) =
      some [10, 11, 12, 11] := by decide +kernel
  obtain ⟨g, reached, left⟩ := Option.map_eq_some_iff.mp left
  refine ⟨g, reached, fun distinct => ?_⟩
  unfold Distinct at distinct
  rw [left] at distinct
  exact absurd distinct (by decide)

end Renumbering

end Rsfu
