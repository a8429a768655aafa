import Rsfu.RtcpFeedback

/-! Which source the feedback of a subscriber reaches. The handler of a reader
forwards requests to the source that the track had when it was bound. -/
namespace Rsfu
open GuardedRun

namespace Sequencer

/-- A number is outside the window, or the slot a lookup of it reads is not empty. -/
def Reads (s : Sequencer) (sn : UInt16) : Prop :=
  let step : Int := s.step - (s.headSn - sn).toNat - 1
  (step < 0 ∧ s.max ≤ -step) ∨ (s.seq (if step < 0 then step + s.max else step)).isSome = true

/-- The same slots are filled, and a number is looked up in the same one. -/
structure SameSlots (s s' : Sequencer) : Prop where
  max : s'.max = s.max
  step : s'.step = s.step
  headSn : s'.headSn = s.headSn
  seq : ∀ k, (s'.seq k).isSome = (s.seq k).isSome

theorem SameSlots.refl (s : Sequencer) : SameSlots s s := ⟨rfl, rfl, rfl, fun _ => rfl⟩

theorem SameSlots.trans {s s' s'' : Sequencer} (first : SameSlots s s') (second : SameSlots s' s'') :
    SameSlots s s'' :=
  ⟨second.max.trans first.max, second.step.trans first.step, second.headSn.trans first.headSn,
    fun k => (second.seq k).trans (first.seq k)⟩

theorem SameSlots.reads {s s' : Sequencer} (same : SameSlots s s') (sn : UInt16) : s'.Reads sn ↔ s.Reads sn := by
  unfold Reads
  dsimp only
  rw [same.max, same.step, same.headSn, same.seq]

theorem lookup_isSome (s : Sequencer) (refTime : Nat) (sn : UInt16) :
    (s.lookup refTime sn).isSome = true ↔ s.Reads sn := by
  unfold lookup Reads
  dsimp only
  split
  next outside => exact iff_of_true rfl (Or.inl outside)
  next inside =>
      rw [or_iff_right inside]
      cases s.seq _ with
      | none => exact Iff.rfl
      | some entry =>
          simp only [Option.bind_eq_bind, Option.bind_some]
          split <;> exact iff_of_true rfl rfl

theorem lookup_sameSlots {s s' : Sequencer} {refTime : Nat} {sn : UInt16} {found : List PacketMeta}
    (h : s.lookup refTime sn = some (s', found)) : SameSlots s s' := by
  unfold lookup at h
  dsimp only at h
  split at h
  · cases h
    exact .refl s
  · generalize (if (s.step : Int) - (s.headSn - sn).toNat - 1 < 0
      then (s.step : Int) - (s.headSn - sn).toNat - 1 + s.max
      else (s.step : Int) - (s.headSn - sn).toNat - 1) = slot at h
    obtain ⟨entry, filled, h⟩ := Option.bind_eq_some_iff.mp h
    split at h <;> cases h
    · refine ⟨rfl, rfl, rfl, fun k => ?_⟩
      dsimp only
      rw [Function.update_apply]
      split
      next here => rw [here, filled]; rfl
      · rfl
    · exact .refl s

theorem lookupAll_sameSlots {s s' : Sequencer} {refTime : Nat} {sns : List UInt16} {found : List PacketMeta}
    (h : s.lookupAll refTime sns = some (s', found)) : SameSlots s s' := by
  induction sns generalizing s found with
  | nil =>
      cases h
      exact .refl _
  | cons sn rest ih =>
      obtain ⟨⟨next, one⟩, first, h⟩ := Option.bind_eq_some_iff.mp h
      obtain ⟨⟨last, more⟩, later, h⟩ := Option.bind_eq_some_iff.mp h
      cases h
      exact (lookup_sameSlots first).trans (ih later)

theorem lookupAll_isSome (s : Sequencer) (refTime : Nat) (sns : List UInt16) :
    (s.lookupAll refTime sns).isSome = true ↔ ∀ sn ∈ sns, s.Reads sn := by
  induction sns generalizing s with
  | nil => exact iff_of_true rfl fun sn mem => absurd mem List.not_mem_nil
  | cons sn rest ih =>
      rw [List.forall_mem_cons, ← lookup_isSome s refTime]
      unfold lookupAll
      cases first : s.lookup refTime sn with
      | none => exact iff_of_false Bool.false_ne_true fun both => Bool.false_ne_true both.1
      | some r =>
          obtain ⟨next, one⟩ := r
          have same := lookup_sameSlots first
          simp only [Option.bind_eq_bind, Option.bind_some, Option.isSome_some, true_and]
          rw [← forall₂_congr fun sn' _ => same.reads sn', ← ih next]
          cases next.lookupAll refTime rest <;> exact Iff.rfl

end Sequencer

/-- The numbers a packet asks for again. -/
def RtcpPacket.nacked : RtcpPacket → List UInt16
  | .transportLayerNack nacks => nacks.flatMap NackPair.packetList
  | _ => []

/-- A request under new addresses. -/
def RtcpPacket.address (lastSsrc ssrc : UInt32) : RtcpPacket → RtcpPacket
  | .pictureLossIndication _ _ => .pictureLossIndication ssrc lastSsrc
  | .fullIntraRequest _ _ fir => .fullIntraRequest ssrc lastSsrc fir
  | pkt => pkt

/-- The sender and the source of a request. -/
def RtcpPacket.addresses : RtcpPacket → Option (UInt32 × UInt32)
  | .pictureLossIndication sender media | .fullIntraRequest sender media _ => some (sender, media)
  | _ => none

/-- The first PLI and the first FIR of a compound, each if there is one. -/
def firstRequests (pkts : List RtcpPacket) : List RtcpPacket :=
  (pkts.find? RtcpPacket.isPli).toList ++ (pkts.find? RtcpPacket.isFir).toList

namespace FeedbackScan

/-- A step of the loop that forwards nothing. -/
structure Passes (scan scan' : FeedbackScan) : Prop where
  fwdPkts : scan'.fwdPkts = scan.fwdPkts
  pliOnce : scan'.pliOnce = scan.pliOnce
  firOnce : scan'.firOnce = scan.firOnce
  slots : scan.sequencer.SameSlots scan'.sequencer

theorem Passes.refl (scan : FeedbackScan) : Passes scan scan := ⟨rfl, rfl, rfl, .refl _⟩

theorem Passes.trans {scan scan' scan'' : FeedbackScan} (first : Passes scan scan') (second : Passes scan' scan'') :
    Passes scan scan'' :=
  ⟨second.fwdPkts.trans first.fwdPkts, second.pliOnce.trans first.pliOnce, second.firOnce.trans first.firOnce,
    first.slots.trans second.slots⟩

theorem answer_passes {now : Nat → Nat} {scan scan' : FeedbackScan} {pair : NackPair}
    (h : scan.answer now pair = some scan') : Passes scan scan' := by
  obtain ⟨⟨s, found⟩, looked, rfl⟩ := Option.map_eq_some_iff.mp h
  exact ⟨rfl, rfl, rfl, Sequencer.lookupAll_sameSlots looked⟩

theorem answerAll_passes {now : Nat → Nat} {scan scan' : FeedbackScan} {nacks : List NackPair}
    (h : run (answer now) scan nacks = some scan') : Passes scan scan' :=
  run_preserves (Passes scan) (fun _ _ _ before one => before.trans (answer_passes one)) (.refl scan) h

theorem answerAll_isSome {now : Nat → Nat} {scan : FeedbackScan} {nacks : List NackPair} :
    (run (answer now) scan nacks).isSome = true ↔
      ∀ sn ∈ nacks.flatMap NackPair.packetList, scan.sequencer.Reads sn := by
  rw [List.forall_mem_flatMap]
  refine run_isSome_iff (fun (s : FeedbackScan) pair => ∀ sn ∈ NackPair.packetList pair, s.sequencer.Reads sn) ?_ ?_
  · intro s pair
    rw [answer, Option.isSome_map]
    exact Sequencer.lookupAll_isSome _ _ _
  · intro s pair s' next h
    exact forall₂_congr fun sn _ => (answer_passes h).slots.reads sn

theorem noteLoss_passes (scan : FeedbackScan) (fractionLost : UInt8) : Passes scan (scan.noteLoss fractionLost) := by
  unfold noteLoss
  split
  · exact ⟨rfl, rfl, rfl, .refl _⟩
  · exact .refl scan

theorem noteLosses_passes (scan : FeedbackScan) (losses : List UInt8) : Passes scan (losses.foldl noteLoss scan) := by
  induction losses generalizing scan with
  | nil => exact .refl scan
  | cons loss rest ih => exact (noteLoss_passes scan loss).trans (ih _)

variable {lastSsrc ssrc : UInt32} {now : Nat → Nat}

theorem take_passes {scan scan' : FeedbackScan} {pkt : RtcpPacket} (noPli : pkt.isPli = false)
    (noFir : pkt.isFir = false) (h : scan.take lastSsrc ssrc now pkt = some scan') : Passes scan scan' := by
  cases pkt with
  | pictureLossIndication sender media => cases noPli
  | fullIntraRequest sender media fir => cases noFir
  | receiverEstimatedMaximumBitrate bitrate =>
      simp only [take] at h
      split at h <;> cases h
      · exact ⟨rfl, rfl, rfl, .refl _⟩
      · exact .refl scan
  | receiverReport losses =>
      cases h
      exact noteLosses_passes scan losses
  | transportLayerNack nacks => exact answerAll_passes h
  | other =>
      cases h
      exact .refl scan

theorem take_sameSlots {scan scan' : FeedbackScan} {pkt : RtcpPacket}
    (h : scan.take lastSsrc ssrc now pkt = some scan') :
    scan.sequencer.SameSlots scan'.sequencer := by
  cases pkt with
  | pictureLossIndication sender media =>
      simp only [take] at h
      split at h <;> cases h <;> exact .refl _
  | fullIntraRequest sender media fir =>
      simp only [take] at h
      split at h <;> cases h <;> exact .refl _
  | receiverEstimatedMaximumBitrate bitrate => exact (take_passes rfl rfl h).slots
  | receiverReport losses => exact (take_passes rfl rfl h).slots
  | transportLayerNack nacks => exact (take_passes rfl rfl h).slots
  | other => exact (take_passes rfl rfl h).slots

theorem take_isSome (scan : FeedbackScan) (pkt : RtcpPacket) :
    (scan.take lastSsrc ssrc now pkt).isSome = true ↔ ∀ sn ∈ pkt.nacked, scan.sequencer.Reads sn := by
  cases pkt with
  | transportLayerNack nacks => exact answerAll_isSome
  | receiverReport losses => exact iff_of_true rfl nofun
  | other => exact iff_of_true rfl nofun
  | pictureLossIndication sender media => exact iff_of_true (by simp only [take]; split <;> rfl) nofun
  | fullIntraRequest sender media fir => exact iff_of_true (by simp only [take]; split <;> rfl) nofun
  | receiverEstimatedMaximumBitrate bitrate => exact iff_of_true (by simp only [take]; split <;> rfl) nofun

theorem takeAll_isSome {scan : FeedbackScan} {pkts : List RtcpPacket} :
    (run (take lastSsrc ssrc now) scan pkts).isSome = true ↔
      ∀ sn ∈ pkts.flatMap RtcpPacket.nacked, scan.sequencer.Reads sn := by
  rw [List.forall_mem_flatMap]
  refine run_isSome_iff
    (fun (s : FeedbackScan) pkt => ∀ sn ∈ RtcpPacket.nacked pkt, s.sequencer.Reads sn) take_isSome ?_
  intro s pkt s' next h
  exact forall₂_congr fun sn _ => (take_sameSlots h).reads sn

/-- What the loop still forwards: the first PLI and the first FIR, unless it had one before. -/
def pending (scan : FeedbackScan) (pkts : List RtcpPacket) : List RtcpPacket :=
  (if scan.pliOnce then (pkts.find? RtcpPacket.isPli).toList else []) ++
    (if scan.firOnce then (pkts.find? RtcpPacket.isFir).toList else [])

theorem Passes.pending {scan scan' : FeedbackScan} (passes : Passes scan scan') (pkts : List RtcpPacket) :
    scan'.pending pkts = scan.pending pkts := by
  unfold FeedbackScan.pending
  rw [passes.pliOnce, passes.firOnce]

theorem pending_other (scan : FeedbackScan) {pkt : RtcpPacket} (noPli : pkt.isPli = false) (noFir : pkt.isFir = false)
    (rest : List RtcpPacket) : scan.pending (pkt :: rest) = scan.pending rest := by
  unfold pending
  rw [List.find?_cons_of_neg (by rw [noPli]; exact Bool.false_ne_true),
    List.find?_cons_of_neg (by rw [noFir]; exact Bool.false_ne_true)]

/-- One packet and the rest of the loop forward what the loop still had to. -/
theorem take_pending {scan next : FeedbackScan} {pkt : RtcpPacket} (h : scan.take lastSsrc ssrc now pkt = some next)
    (rest : List RtcpPacket) :
    (next.fwdPkts ++ (next.pending rest).map (RtcpPacket.address lastSsrc ssrc)).Perm
      (scan.fwdPkts ++ (scan.pending (pkt :: rest)).map (RtcpPacket.address lastSsrc ssrc)) := by
  have passed (noPli : pkt.isPli = false) (noFir : pkt.isFir = false) :
      (next.fwdPkts ++ (next.pending rest).map (RtcpPacket.address lastSsrc ssrc)).Perm
        (scan.fwdPkts ++ (scan.pending (pkt :: rest)).map (RtcpPacket.address lastSsrc ssrc)) := by
    have passes := take_passes noPli noFir h
    rw [passes.fwdPkts, passes.pending, pending_other scan noPli noFir]
  cases pkt with
  | pictureLossIndication sender media =>
      have whole : scan.pending (.pictureLossIndication sender media :: rest) =
          (if scan.pliOnce then [.pictureLossIndication sender media] else []) ++
            (if scan.firOnce then (rest.find? RtcpPacket.isFir).toList else []) := rfl
      rw [whole]
      simp only [take] at h
      split at h
      next once =>
          cases h
          simp only [pending, once, Bool.false_eq_true, if_false, if_true, List.nil_append, List.map_append,
            List.append_assoc]
          exact .refl _
      next had =>
          cases h
          rw [pending, if_neg had, if_neg had]
  | fullIntraRequest sender media fir =>
      have whole : scan.pending (.fullIntraRequest sender media fir :: rest) =
          (if scan.pliOnce then (rest.find? RtcpPacket.isPli).toList else []) ++
            (if scan.firOnce then [.fullIntraRequest sender media fir] else []) := rfl
      rw [whole]
      simp only [take] at h
      split at h
      next once =>
          cases h
          simp only [pending, once, Bool.false_eq_true, if_false, if_true, List.append_nil, List.map_append,
            List.append_assoc]
          exact List.perm_append_comm.append_left _
      next had =>
          cases h
          rw [pending, if_neg had, if_neg had]
  | receiverEstimatedMaximumBitrate bitrate => exact passed rfl rfl
  | receiverReport losses => exact passed rfl rfl
  | transportLayerNack nacks => exact passed rfl rfl
  | other => exact passed rfl rfl

theorem takeAll_forwards {scan scan' : FeedbackScan} {pkts : List RtcpPacket}
    (h : run (take lastSsrc ssrc now) scan pkts = some scan') :
    scan'.fwdPkts.Perm (scan.fwdPkts ++ (scan.pending pkts).map (RtcpPacket.address lastSsrc ssrc)) := by
  induction pkts generalizing scan with
  | nil =>
      cases h
      simp only [pending, List.find?_nil, Option.toList_none, ite_self, List.append_nil, List.map_nil]
      exact .refl _
  | cons pkt rest ih =>
      obtain ⟨next, first, later⟩ := run_cons_eq_some.mp h
      exact (ih later).trans (take_pending first rest)

end FeedbackScan

/-- The handler of a track with a source answers every lookup and forwards the first
requests, or panics at a lookup. -/
theorem handleRtcp_spec {lastSsrc : UInt32} (ssrc : UInt32) (pkts : List RtcpPacket) (now : Nat → Nat) (s : Sequencer)
    (source : lastSsrc ≠ 0) :
    ((handleRtcp true (some pkts) lastSsrc ssrc now s).isSome = true ↔
      ∀ sn ∈ pkts.flatMap RtcpPacket.nacked, s.Reads sn) ∧
      ∀ r, handleRtcp true (some pkts) lastSsrc ssrc now s = some r →
        r.2.Perm ((firstRequests pkts).map (RtcpPacket.address lastSsrc ssrc)) := by
  have whole : handleRtcp true (some pkts) lastSsrc ssrc now s =
      (run (FeedbackScan.take lastSsrc ssrc now) { sequencer := s } pkts).map
        fun scan => (scan.sequencer, scan.fwdPkts) :=
    if_neg source
  rw [whole, Option.isSome_map]
  refine ⟨FeedbackScan.takeAll_isSome, fun r h => ?_⟩
  obtain ⟨scan, scanned, rfl⟩ := Option.map_eq_some_iff.mp h
  exact FeedbackScan.takeAll_forwards scanned

namespace FeedbackTrack
variable {ε : Type}

/-- Every lookup that the compound asks for finds a filled slot. -/
def Answers (g : FeedbackTrack) (pkts : List RtcpPacket) : Prop :=
  ∀ sn ∈ pkts.flatMap RtcpPacket.nacked, g.track.sequencer.Reads sn

/-- A compound has its first requests, and nothing else, sent to the current source while
the track is enabled and has forwarded, and nothing sent while it is disabled. -/
def Feeds (g : FeedbackTrack) : FeedbackOp ε → Prop
  | .rtcp reader (some pkts) now =>
      (g.track.enabled = true → g.forwarded = true → (g.upstream reader (some pkts) now).Perm
        ((firstRequests pkts).map (RtcpPacket.address g.track.lastSsrc g.track.ssrc))) ∧
      (g.track.enabled = false → g.upstream reader (some pkts) now = [])
  | _ => True

/-- When there is a request: an enabled track had the source that it has now when it was bound
to the reader, and is still bound to it; a disabled one had no source at that bind; and NACKs
decide whether the handler gets to an end. -/
def Current (g : FeedbackTrack) : FeedbackOp ε → Prop
  | .rtcp reader (some pkts) _ => firstRequests pkts ≠ [] →
      (g.track.enabled = true → g.forwarded = true →
        (∃ d ∈ g.atBind reader, d.lastSsrc = g.track.lastSsrc) ∧ g.track.ssrc = reader ∧ g.track.lastSsrc ≠ 0 ∧
          g.Answers pkts) ∧
      (g.track.enabled = false → ∀ d ∈ g.atBind reader, d.lastSsrc = 0 ∨ ¬g.Answers pkts)
  | _ => True

/-- Each handler is installed enabled, with the source that the track had at that bind and the
ssrc of the reader. -/
def Installed (g : FeedbackTrack) : Prop :=
  ∀ reader, g.handlers reader = (g.atBind reader).map fun d => ⟨true, d.lastSsrc, reader⟩

theorem step_installed {g g' : FeedbackTrack} {op : FeedbackOp ε} (inv : g.Installed) (h : g.step op = some g') :
    g'.Installed := by
  cases op with
  | rtcp reader compound now =>
      obtain ⟨handled, -, rfl⟩ := Option.map_eq_some_iff.mp h
      exact inv
  | track op =>
      obtain ⟨outcome, -, rfl⟩ := Option.map_eq_some_iff.mp h
      intro reader
      cases op with
      | bind t now =>
          simp only [install, recordBind, DownTrack.bind]
          cases codecParametersFuzzySearch g.track.codec t.codecParameters with
          | none => exact inv reader
          | some codec =>
              dsimp only
              rw [Function.update_apply, Function.update_apply]
              split
              next same =>
                  rw [same]
                  rfl
              · exact inv reader
      | unbind => exact inv reader
      | mute val => exact inv reader
      | setInitialLayers spatialLayer temporalLayer => exact inv reader
      | switchSpatialLayer targetLayer setAsMax queued => exact inv reader
      | switchSpatialLayerDone layer => exact inv reader
      | switchTemporalLayer targetLayer setAsMax => exact inv reader
      | writeRtp env pkt layer => exact inv reader

/-- What goes upstream: the first requests for the source of the handler, or nothing. -/
theorem Installed.upstream_cases {g : FeedbackTrack} (inv : g.Installed) (reader : UInt32) (pkts : List RtcpPacket)
    (now : Nat → Nat) :
    (∃ d, g.atBind reader = some d ∧ d.lastSsrc ≠ 0 ∧ g.Answers pkts ∧ (g.upstream reader (some pkts) now).Perm
      ((firstRequests pkts).map (RtcpPacket.address d.lastSsrc reader))) ∨
    ((∀ d ∈ g.atBind reader, d.lastSsrc = 0 ∨ ¬g.Answers pkts) ∧ g.upstream reader (some pkts) now = []) := by
  unfold upstream handle
  rw [inv reader]
  cases found : g.atBind reader with
  | none => exact Or.inr ⟨fun d mem => absurd mem (Option.not_mem_none d), rfl⟩
  | some d =>
      dsimp only [Option.map_some]
      by_cases source : d.lastSsrc = 0
      · rw [source]
        refine Or.inr ⟨fun d' same => Or.inl ?_, rfl⟩
        rw [← Option.some.inj same, source]
      · obtain ⟨answers, forwards⟩ := handleRtcp_spec reader pkts now g.track.sequencer source
        cases handled : handleRtcp true (some pkts) d.lastSsrc reader now g.track.sequencer with
        | none =>
            rw [handled] at answers
            exact Or.inr ⟨fun _ _ => Or.inr fun all => Bool.false_ne_true (answers.mpr all), rfl⟩
        | some r =>
            rw [handled] at answers
            exact Or.inl ⟨d, rfl, source, answers.mp rfl, forwards r handled⟩

end FeedbackTrack

theorem firstRequests_request {pkts : List RtcpPacket} {pkt : RtcpPacket} (mem : pkt ∈ firstRequests pkts) :
    pkt.isPli = true ∨ pkt.isFir = true := by
  rcases List.mem_append.mp mem with pli | fir
  · exact Or.inl (List.find?_some (Option.mem_toList.mp pli))
  · exact Or.inr (List.find?_some (Option.mem_toList.mp fir))

theorem addresses_address {pkt : RtcpPacket} (request : pkt.isPli = true ∨ pkt.isFir = true)
    (lastSsrc ssrc : UInt32) :
    (pkt.address lastSsrc ssrc).addresses = some (ssrc, lastSsrc) := by
  cases pkt with
  | pictureLossIndication sender media => rfl
  | fullIntraRequest sender media fir => rfl
  | receiverEstimatedMaximumBitrate bitrate => rcases request with pli | fir <;> contradiction
  | receiverReport losses => rcases request with pli | fir <;> contradiction
  | transportLayerNack nacks => rcases request with pli | fir <;> contradiction
  | other => rcases request with pli | fir <;> contradiction

/-- Requests that are sent say where they are sent. -/
theorem address_inj {pkts : List RtcpPacket} {lastSsrc lastSsrc' ssrc ssrc' : UInt32}
    (some_request : firstRequests pkts ≠ [])
    (same : ((firstRequests pkts).map (RtcpPacket.address lastSsrc ssrc)).Perm
      ((firstRequests pkts).map (RtcpPacket.address lastSsrc' ssrc'))) : lastSsrc = lastSsrc' ∧ ssrc = ssrc' := by
  obtain ⟨pkt, mem⟩ := List.exists_mem_of_ne_nil _ some_request
  obtain ⟨pkt', mem', sent⟩ := List.mem_map.mp (same.subset (List.mem_map_of_mem mem))
  have both := congrArg RtcpPacket.addresses sent
  rw [addresses_address (firstRequests_request mem'), addresses_address (firstRequests_request mem)] at both
  cases both
  exact ⟨rfl, rfl⟩

namespace FeedbackTrack
variable {ε : Type}

/-- The requests go to a source exactly when the track had it at the bind to the reader. -/
theorem Installed.reaches_iff {g : FeedbackTrack} (inv : g.Installed) {reader : UInt32} {pkts : List RtcpPacket}
    {now : Nat → Nat} (some_request : firstRequests pkts ≠ []) (lastSsrc ssrc : UInt32) :
    (g.upstream reader (some pkts) now).Perm ((firstRequests pkts).map (RtcpPacket.address lastSsrc ssrc)) ↔
      (∃ d ∈ g.atBind reader, d.lastSsrc = lastSsrc) ∧ ssrc = reader ∧ lastSsrc ≠ 0 ∧ g.Answers pkts := by
  rcases inv.upstream_cases reader pkts now with ⟨d, found, source, answers, sent⟩ | ⟨idle, silent⟩
  · constructor
    · intro perm
      obtain ⟨rfl, rfl⟩ := address_inj some_request (sent.symm.trans perm)
      exact ⟨⟨d, found, rfl⟩, rfl, source, answers⟩
    · rintro ⟨⟨d', same, rfl⟩, rfl, -, -⟩
      cases found.symm.trans same
      exact sent
  · rw [silent]
    constructor
    · intro perm
      exact absurd (List.map_eq_nil_iff.mp perm.symm.eq_nil) some_request
    · rintro ⟨⟨d, found, rfl⟩, -, source, answers⟩
      rcases idle d found with sourceless | unanswered
      · exact absurd sourceless source
      · exact absurd answers unanswered

theorem Installed.silent_iff {g : FeedbackTrack} (inv : g.Installed) {reader : UInt32} {pkts : List RtcpPacket}
    {now : Nat → Nat} (some_request : firstRequests pkts ≠ []) :
    g.upstream reader (some pkts) now = [] ↔ ∀ d ∈ g.atBind reader, d.lastSsrc = 0 ∨ ¬g.Answers pkts := by
  rcases inv.upstream_cases reader pkts now with ⟨d, found, source, answers, sent⟩ | ⟨idle, silent⟩
  · constructor
    · intro silent
      rw [silent] at sent
      exact absurd (List.map_eq_nil_iff.mp sent.symm.eq_nil) some_request
    · intro idle
      rcases idle d found with sourceless | unanswered
      · exact absurd sourceless source
      · exact absurd answers unanswered
  · exact iff_of_true silent idle

theorem Installed.feeds_iff {g : FeedbackTrack} (inv : g.Installed) (op : FeedbackOp ε) :
    g.Feeds op ↔ g.Current op := by
  cases op with
  | track op => exact Iff.rfl
  | rtcp reader compound now =>
      cases compound with
      | none => exact Iff.rfl
      | some pkts =>
          simp only [Feeds, Current]
          by_cases quiet : firstRequests pkts = []
          · have silent : g.upstream reader (some pkts) now = [] := by
              rcases inv.upstream_cases reader pkts now with ⟨h, -, -, -, sent⟩ | ⟨-, silent⟩
              · rw [quiet, List.map_nil] at sent
                exact sent.eq_nil
              · exact silent
            rw [silent, quiet]
            exact iff_of_true ⟨fun _ _ => .refl _, fun _ => rfl⟩ fun request => absurd rfl request
          · rw [inv.reaches_iff quiet, inv.silent_iff quiet]
            exact ⟨fun both _ => both, fun both => both quiet⟩

/-- Along a run every compound reaches the current source as it should exactly when, at each
request, the track still has the source it had at the bind to that reader. -/
theorem guarded_feeds_iff (d : DownTrack) (ops : List (FeedbackOp ε)) :
    Guarded step Feeds { track := d } ops ↔ Guarded step Current { track := d } ops :=
  guarded_iff Installed (fun _ op inv => inv.feeds_iff op) (fun _ _ _ inv _ h => step_installed inv h) fun _ => rfl

/-- A bind, and the first packet of a source. -/
def firstSource : List (FeedbackOp Unit) :=
  [.track (.bind vp8Context 0), .track (.writeRtp {} (sourcePacket 1 10) 0)]

/-- The first source of a track is not the one its handler knows, so a PLI goes nowhere. -/
theorem first_source_not_reached : ∃ g, run step { track := vp8Track } firstSource = some g ∧
    ¬g.Feeds (.rtcp 7 (some [.pictureLossIndication 9 7]) fun _ => 0 : FeedbackOp Unit) := by
  have reached : ∃ g, run step { track := vp8Track } firstSource = some g ∧
      g.track.enabled = true ∧ g.forwarded = true ∧
      g.upstream 7 (some [.pictureLossIndication 9 7]) (fun _ => 0) = [] := ⟨_, rfl, rfl, rfl, rfl⟩
  obtain ⟨g, reached, enabled, forwarded, silent⟩ := reached
  refine ⟨g, reached, fun feeds => ?_⟩
  have sent := feeds.1 enabled forwarded
  rw [silent] at sent
  exact nomatch sent.symm.eq_nil

end FeedbackTrack

end Rsfu
