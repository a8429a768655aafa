import Rsfu.KeyFrameGate
import Rsfu.PliThrottling
import Rsfu.TaskTable

/-! Asking for key frames. The down tracks of a receiver share its RTCP channel: a track that
waits for a key frame sends an indication for each packet it holds back, and the channel lets
one through in 500 ms. -/
namespace Rsfu
open GuardedRun TaskTable RtcpChannel

/-- What one sent packet does to the channel of the receiver at a time in milliseconds. -/
def Sent.put (r : RtcpChannel) (now : UInt64) : Sent → RtcpChannel
  | .pictureLossIndication senderSsrc mediaSsrc =>
      (r.sendRtcp now [.pictureLossIndication senderSsrc mediaSsrc]).1
  | .rtp _ => r

/-- The channel, the down tracks by the order they were added in, and the time of the last call. -/
structure KeyFrameRequests where
  channel : RtcpChannel := {}
  tracks : List DownTrack := []
  clock : UInt64 := 0

/-- `sendRtcp` is any other call of it: the indication of a switch that waits, and the feedback
that `handle_rtcp` passes on. -/
inductive RequestEvent where
  | addDownTrack (d : DownTrack)
  | track (k : Nat) (now : UInt64) (op : TrackOp ReceiverError)
  | sendRtcp (now : UInt64) (packets : List RtcpPacket)

/-- The packet is held back by a track that is bound, enabled and waits for a key frame. -/
def DownTrack.HoldsBack (d : DownTrack) (pkt : ExtPacket) (layer : Nat) : Prop :=
  d.enabled = true ∧ d.bound = true ∧ d.reSync = true ∧ pkt.keyFrame = false ∧
    (d.trackType = .simpleDownTrack → d.kind = .video) ∧
    (d.trackType = .simulcastDownTrack → d.currentSpatialLayer = layer)

instance (d : DownTrack) (pkt : ExtPacket) (layer : Nat) : Decidable (d.HoldsBack pkt layer) :=
  inferInstanceAs (Decidable (_ ∧ _))

namespace KeyFrameRequests

def step (g : KeyFrameRequests) : RequestEvent → Option KeyFrameRequests
  | .addDownTrack d => some { g with tracks := g.tracks ++ [d] }
  | .track k now op => g.tracks[k]?.bind fun d => (d.apply op).map fun (d', sent) =>
      { channel := sent.foldl (fun r s => s.put r now) g.channel, tracks := g.tracks.set k d', clock := now }
  | .sendRtcp now packets => some { g with channel := (g.channel.sendRtcp now packets).1, clock := now }

/-- The clock does not go back. -/
def OnTime (g : KeyFrameRequests) : RequestEvent → Prop
  | .addDownTrack _ => True
  | .track _ now _ => g.clock ≤ now
  | .sendRtcp now _ => g.clock ≤ now

instance (g : KeyFrameRequests) : ∀ e, Decidable (g.OnTime e)
  | .addDownTrack _ => isTrue trivial
  | .track _ now _ => inferInstanceAs (Decidable (g.clock ≤ now))
  | .sendRtcp now _ => inferInstanceAs (Decidable (g.clock ≤ now))

/-- The vectors on the channel that begin with an indication. -/
def asked (r : RtcpChannel) : List (UInt64 × List RtcpPacket) := r.sent.filter fun v => BeginsWithPli v.2

/-- The indications are 500 ms apart, and the last one is remembered. -/
structure Spaced (r : RtcpChannel) (now : UInt64) : Prop where
  timely : r.Timely now
  noted : r.lastPli = 0 ∨ ∃ v ∈ asked r, v.1 = r.lastPli
  apart : (asked r).Pairwise Apart

theorem Spaced.later {r : RtcpChannel} {now later : UInt64} (spaced : Spaced r now) (le : now ≤ later) :
    Spaced r later := ⟨spaced.timely.later le, spaced.noted, spaced.apart⟩

theorem Spaced.send {r : RtcpChannel} {now : UInt64} (spaced : Spaced r now) (packets : List RtcpPacket) :
    Spaced (r.sendRtcp now packets).1 now := by
  let call : RtcpCall := ⟨now, packets⟩
  have before : r.Timely call.now := spaced.timely
  change Spaced (r.sendRtcp call.now call.packets).1 now
  by_cases held : r.Held call
  · rw [sendRtcp_held held]
    exact spaced
  · have goes := sendRtcp_goes spaced.timely.opened held
    have timely : (r.sendRtcp call.now call.packets).1.Timely now := before.send
    rw [goes] at timely ⊢
    by_cases begins : BeginsWithPli call.packets
    · have one : asked { r with sent := r.sent ++ [(call.now, call.packets)] } = asked r ++ [(now, packets)] := by
        unfold asked
        rw [List.filter_append]
        exact congrArg _ (List.filter_cons_of_pos (decide_eq_true begins))
      rw [if_pos begins] at timely ⊢
      refine ⟨timely, Or.inr ⟨(now, packets), ?_, rfl⟩, ?_⟩
      · exact one ▸ List.mem_append_right _ (List.mem_singleton_self _)
      · refine (congrArg _ one).mpr ?_
        rw [List.pairwise_append, and_iff_right spaced.apart, and_iff_right (List.pairwise_singleton _ _)]
        intro v mem other last
        obtain rfl := List.mem_singleton.mp last
        obtain ⟨mem, old⟩ := List.mem_filter.mp mem
        exact before.apart held begins mem (of_decide_eq_true old)
    · have none : asked { r with sent := r.sent ++ [(call.now, call.packets)] } = asked r := by
        unfold asked
        rw [List.filter_append, List.filter_cons_of_neg (by simpa using begins), List.filter_nil, List.append_nil]
      rw [if_neg begins] at timely ⊢
      refine ⟨timely, ?_, ?_⟩
      · exact (congrArg (fun vs => r.lastPli = 0 ∨ ∃ v ∈ vs, v.1 = r.lastPli) none).mpr spaced.noted
      · exact (congrArg _ none).mpr spaced.apart

/-- Once somebody has asked, an indication less than 500 ms old is on the channel. -/
theorem Spaced.fresh {r : RtcpChannel} {now : UInt64} (spaced : Spaced r now) (epoch : 500 ≤ now)
    (senderSsrc mediaSsrc : UInt32) :
    ∃ v ∈ asked (r.sendRtcp now [.pictureLossIndication senderSsrc mediaSsrc]).1,
      v.1 ≤ now ∧ now.toNat < v.1.toNat + 500 := by
  let call : RtcpCall := ⟨now, [.pictureLossIndication senderSsrc mediaSsrc]⟩
  have begins : BeginsWithPli call.packets := rfl
  change ∃ v ∈ asked (r.sendRtcp call.now call.packets).1, _
  by_cases held : r.Held call
  · rw [sendRtcp_held held]
    have le := spaced.timely.noted
    have recent : (now - r.lastPli).toNat < 500 := UInt64.lt_iff_toNat_lt.mp held.2
    rw [UInt64.toNat_sub_of_le _ _ le] at recent
    rcases spaced.noted with never | ⟨v, mem, time⟩
    · have late : 500 ≤ now.toNat := UInt64.le_iff_toNat_le.mp epoch
      rw [never] at recent
      exact absurd recent (Nat.not_lt.mpr late)
    · refine ⟨v, mem, ?_, ?_⟩
      · rw [time]
        exact le
      · rw [time]
        omega
  · rw [sendRtcp_goes spaced.timely.opened held]
    refine ⟨(now, call.packets), ?_, UInt64.le_refl _, Nat.lt_add_of_pos_right (by decide)⟩
    exact List.mem_filter.mpr ⟨List.mem_append_right _ (List.mem_singleton_self _), decide_eq_true begins⟩

/-- What an operation of a track sends leaves the indications spaced. -/
theorem Spaced.apply {r : RtcpChannel} {now : UInt64} (spaced : Spaced r now) {d d' : DownTrack}
    {op : TrackOp ReceiverError} {sent : List Sent} (applied : d.apply op = some (d', sent)) :
    Spaced (sent.foldl (fun r s => s.put r now) r) now := by
  cases op with
  | writeRtp env pkt layer =>
      cases DownTrack.apply_writeRtp applied with
      | dropped => exact spaced
      | held senderSsrc mediaSsrc => exact spaced.send [.pictureLossIndication senderSsrc mediaSsrc]
      | silent _ _ _ => exact spaced
      | forwarded _ _ _ _ => exact spaced
  | _ =>
      cases applied
      exact spaced

theorem step_spaced {g g' : KeyFrameRequests} {e : RequestEvent} (spaced : Spaced g.channel g.clock)
    (onTime : g.OnTime e) (h : g.step e = some g') : Spaced g'.channel g'.clock := by
  cases e with
  | addDownTrack d =>
      cases h
      exact spaced
  | track k now op =>
      obtain ⟨d, found, h⟩ := Option.bind_eq_some_iff.mp h
      obtain ⟨⟨d', sent⟩, applied, rfl⟩ := Option.map_eq_some_iff.mp h
      exact (spaced.later onTime).apply applied
  | sendRtcp now packets =>
      cases h
      exact (spaced.later onTime).send packets

theorem apply_holdsBack {d : DownTrack} {env : SendEnv ReceiverError} {pkt : ExtPacket} {layer : Nat}
    (holds : d.HoldsBack pkt layer) :
    d.apply (.writeRtp env pkt layer) = some (d, [.pictureLossIndication d.ssrc pkt.packet.header.ssrc]) := by
  obtain ⟨enabled, bound, waits, other, video, current⟩ := holds
  have open1 : ¬ ¬ d.enabled = true := not_not_intro enabled
  have open2 : ¬ ¬ d.bound = true := not_not_intro bound
  have plain : ¬ pkt.keyFrame = true := by simp [other]
  unfold DownTrack.apply
  dsimp only
  unfold DownTrack.writeRtp
  rw [if_neg open1, if_neg open2]
  cases kind : d.trackType with
  | simpleDownTrack => simp [DownTrack.writeSimpleRtp, waits, video kind, plain]
  | simulcastDownTrack => simp [DownTrack.writeSimulcastRtp, waits, current kind, plain]

/-- However many tracks wait for a key frame: whenever one of them holds a packet back, an
indication less than 500 ms old is on the channel, and indications are 500 ms apart. -/
theorem run_asks {events : List RequestEvent} {g : KeyFrameRequests} (onTime : Guarded step OnTime {} events)
    (reached : run step {} events = some g) {k : Nat} {now : UInt64} {d : DownTrack} {env : SendEnv ReceiverError}
    {pkt : ExtPacket} {layer : Nat} (found : g.tracks[k]? = some d) (holds : d.HoldsBack pkt layer)
    (late : g.clock ≤ now) (epoch : 500 ≤ now) :
    ∃ g', g.step (.track k now (.writeRtp env pkt layer)) = some g' ∧ g'.tracks[k]? = some d ∧
      (∃ v ∈ asked g'.channel, v.1 ≤ now ∧ now.toNat < v.1.toNat + 500) ∧ (asked g'.channel).Pairwise Apart := by
  have start : Spaced ({} : RtcpChannel) 0 := ⟨⟨rfl, UInt64.le_refl _, nofun⟩, Or.inl rfl, List.Pairwise.nil⟩
  have spaced : Spaced g.channel g.clock :=
    run_invariant (fun g : KeyFrameRequests => Spaced g.channel g.clock)
      (fun _ _ _ inv met h => step_spaced inv met h) start onTime reached
  have before := spaced.later late
  refine ⟨{
    channel := (g.channel.sendRtcp now [.pictureLossIndication d.ssrc pkt.packet.header.ssrc]).1
    tracks := g.tracks.set k d
    clock := now }, ?_, ?_, before.fresh epoch _ _, (before.send _).apart⟩
  · rw [step, found, Option.bind_some, apply_holdsBack holds]
    rfl
  · rw [lookup_set found, if_pos rfl]

/-- Two VP8 tracks that are bound. The first asks, and the second holds the same packet back. -/
def twoWaiting : List RequestEvent := [.addDownTrack vp8Track, .addDownTrack vp8Track,
  .track 0 1000 (.bind vp8Context 0), .track 1 1000 (.bind vp8Context 0),
  .track 0 1700 (.writeRtp {} (vp8Packet 1 false) 0)]

theorem run_asks_two : ∃ g g' d, run step {} twoWaiting = some g ∧ g.tracks[1]? = some d ∧
    g.step (.track 1 1701 (.writeRtp {} (vp8Packet 1 false) 0)) = some g' ∧ g'.tracks[1]? = some d ∧
    (∃ v ∈ asked g'.channel, v.1 ≤ 1701 ∧ (1701 : UInt64).toNat < v.1.toNat + 500) ∧
    (asked g'.channel).Pairwise Apart := by
  have onTime : Guarded step OnTime {} twoWaiting := by decide +kernel
  have ends : ∃ g d, run step {} twoWaiting = some g ∧ g.tracks[1]? = some d ∧ d.HoldsBack (vp8Packet 1 false) 0 ∧
      g.clock ≤ 1701 :=
    ⟨_, (vp8Track.bind vp8Context 0).1, rfl, rfl, by decide +kernel, by decide⟩
  obtain ⟨g, d, reached, found, holds, late⟩ := ends
  obtain ⟨g', moved, kept, fresh, apart⟩ := run_asks onTime reached found holds late (by decide)
  exact ⟨g, g', d, reached, found, moved, kept, fresh, apart⟩

end KeyFrameRequests

end Rsfu
