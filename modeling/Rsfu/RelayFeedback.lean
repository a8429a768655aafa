import Rsfu.RtcpFeedback

/-! RTCP from the far side of a relayed track. The handler of its reader collects the
picture loss indications under the ssrc of the relayed track, and then writes the
compound they came from. -/
namespace Rsfu

/-- One turn of the handler's loop over the packets. -/
def collectPli (mediaSsrc : UInt32) (rpkts : List RtcpPacket) : RtcpPacket → List RtcpPacket
  | .pictureLossIndication senderSsrc _ => rpkts ++ [.pictureLossIndication senderSsrc mediaSsrc]
  | _ => rpkts

/-- The handler of `crate_relay_track`, run on a packet: the vector it hands to `write_rtcp`
of the publisher's peer connection, if it does. Whether that write fails is only logged. -/
def crateRelayTrackOnPacket (unmarshal : Bytes → Option (List RtcpPacket)) (mediaSsrc : UInt32) (bytes : Bytes) :
    Option (List RtcpPacket) :=
  match unmarshal bytes with
  | none => none
  | some pkts =>
      let rpkts := pkts.foldl (collectPli mediaSsrc) []
      -- `pkts` is written here, `rpkts` only decides whether
      if rpkts.isEmpty then none else some pkts

/-- The packet as a request for the relayed track. -/
def RtcpPacket.relayed (mediaSsrc : UInt32) : RtcpPacket → Option RtcpPacket
  | .pictureLossIndication senderSsrc _ => some (.pictureLossIndication senderSsrc mediaSsrc)
  | _ => none

/-- What a compound asks of the publisher: nothing when it holds no picture loss indication. -/
def relayedPlis (mediaSsrc : UInt32) (pkts : List RtcpPacket) : Option (List RtcpPacket) :=
  match pkts.filterMap (RtcpPacket.relayed mediaSsrc) with
  | [] => none
  | plis => some plis

theorem foldl_collectPli (mediaSsrc : UInt32) (pkts rpkts : List RtcpPacket) :
    pkts.foldl (collectPli mediaSsrc) rpkts = rpkts ++ pkts.filterMap (RtcpPacket.relayed mediaSsrc) := by
  induction pkts generalizing rpkts with
  | nil => exact (List.append_nil rpkts).symm
  | cons pkt rest ih =>
      rw [List.foldl_cons, ih, List.filterMap_cons]
      cases pkt with
      | pictureLossIndication senderSsrc _ => exact List.append_assoc _ _ _
      | _ => rfl

theorem relayed_eq_none_iff (mediaSsrc : UInt32) (pkt : RtcpPacket) :
    pkt.relayed mediaSsrc = none ↔ pkt.isPli = false := by
  cases pkt with
  | pictureLossIndication _ _ => exact iff_of_false nofun nofun
  | _ => exact iff_of_true rfl rfl

theorem relayed_eq_self_iff (mediaSsrc : UInt32) (pkt : RtcpPacket) :
    pkt.relayed mediaSsrc = some pkt ↔ ∃ senderSsrc, pkt = .pictureLossIndication senderSsrc mediaSsrc := by
  constructor
  · intro same
    cases pkt with
    | pictureLossIndication senderSsrc _ => exact ⟨senderSsrc, (Option.some.inj same).symm⟩
    | _ => cases same
  · rintro ⟨senderSsrc, rfl⟩
    rfl

/-- A filter that rewrites gives its list back only when it keeps every element as it is. -/
theorem filterMap_eq_self_iff {α : Type*} {f : α → Option α} {l : List α} :
    l.filterMap f = l ↔ ∀ a ∈ l, f a = some a := by
  induction l with
  | nil => exact iff_of_true rfl fun _ mem => absurd mem List.not_mem_nil
  | cons a rest ih =>
      rw [List.forall_mem_cons, List.filterMap_cons, ← ih]
      cases image : f a with
      | none =>
          refine iff_of_false (fun same => ?_) (fun both => nomatch both.1)
          change rest.filterMap f = a :: rest at same
          have short := List.length_filterMap_le f rest
          rw [same, List.length_cons] at short
          omega
      | some b => rw [List.cons.injEq, Option.some.injEq]

/-- The handler writes what the compound asks of the publisher exactly when the compound has no
picture loss indication, or nothing but those that already name the relayed track. -/
theorem crateRelayTrack_forwards_iff (unmarshal : Bytes → Option (List RtcpPacket)) (mediaSsrc : UInt32)
    (bytes : Bytes) :
    crateRelayTrackOnPacket unmarshal mediaSsrc bytes = (unmarshal bytes).bind (relayedPlis mediaSsrc) ↔
      ∀ pkts, unmarshal bytes = some pkts →
        (∀ pkt ∈ pkts, pkt.isPli = false) ∨
          ∀ pkt ∈ pkts, ∃ senderSsrc, pkt = .pictureLossIndication senderSsrc mediaSsrc := by
  unfold crateRelayTrackOnPacket
  cases unmarshal bytes with
  | none => exact iff_of_true rfl nofun
  | some pkts =>
      simp only [Option.bind_some, Option.some.injEq, forall_eq', foldl_collectPli, List.nil_append]
      have nonePli : pkts.filterMap (RtcpPacket.relayed mediaSsrc) = [] ↔ ∀ pkt ∈ pkts, pkt.isPli = false := by
        rw [List.filterMap_eq_nil_iff]
        exact forall₂_congr fun pkt _ => relayed_eq_none_iff mediaSsrc pkt
      have onlyOwn : pkts.filterMap (RtcpPacket.relayed mediaSsrc) = pkts ↔
          ∀ pkt ∈ pkts, ∃ senderSsrc, pkt = .pictureLossIndication senderSsrc mediaSsrc := by
        rw [filterMap_eq_self_iff]
        exact forall₂_congr fun pkt _ => relayed_eq_self_iff mediaSsrc pkt
      rw [← nonePli, ← onlyOwn]
      unfold relayedPlis
      cases pkts.filterMap (RtcpPacket.relayed mediaSsrc) with
      | nil => exact iff_of_true rfl (Or.inl rfl)
      | cons pli plis =>
          constructor
          · intro same
            exact Or.inr (Option.some.inj same).symm
          · rintro (none | same)
            · cases none
            · exact congrArg some same.symm

/-- Of a receiver report and a request for ssrc 5, both are written as they came. -/
theorem compound_written_unchanged :
    crateRelayTrackOnPacket (fun _ => some [.receiverReport [0], .pictureLossIndication 1 5]) 9 [] =
        some [.receiverReport [0], .pictureLossIndication 1 5] ∧
      relayedPlis 9 [.receiverReport [0], .pictureLossIndication 1 5] = some [.pictureLossIndication 1 9] ∧
      crateRelayTrackOnPacket (fun _ => some [.receiverReport [0], .pictureLossIndication 1 5]) 9 [] ≠
        relayedPlis 9 [.receiverReport [0], .pictureLossIndication 1 5] := by
  refine ⟨rfl, rfl, ?_⟩
  decide

end Rsfu
