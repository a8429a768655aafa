import Rsfu.SfuLocks

/-! The server's calls take their locks in one order, so no interleaving of them ends in a
deadlock, as long as no track is simulcast. What a forwarding round holds while no packet
comes, it holds, and those who ask for it wait for the packet too. -/
namespace Rsfu
open GuardedRun LockScopes Scopes

/-- A lock is only asked for by holders of locks of lower rank. -/
@[simp] def SfuLock.rank : SfuLock → Nat
  | provider => 0
  | peerSession _ => 1
  | fanoutDataChannels _ => 2
  | peers _ => 3
  | relayPeers _ => 4
  | sessionOnClose _ => 5
  | sessions => 6
  | dataChannels => 7
  | subscriber _ => 8
  | publisher _ => 9
  | peerId _ => 10
  | publisherRelayPeers _ => 11
  | stopSender _ => 12
  | rtcpReceiver _ => 13
  | stopReceiver _ => 14
  | rtcpWriter _ => 15
  | receivers _ => 16
  | receiverOnClose _ => 17
  | onAddReceiverTrack _ => 17
  | upTracks _ => 18
  | buffers _ => 19
  | downTracks _ _ => 20
  | downTrackOnClose _ => 21
  | tracks _ => 22
  | onNegotiate _ => 23
  | onOffer _ => 24
  | trackType _ => 25
  | simulcast _ => 26
  | snOffset _ => 26
  | tsOffset _ => 27
  | sequencer _ => 28
  | lastSn _ => 29
  | lastTs _ => 30
  | ssrc _ => 31
  | payloadType _ => 32
  | writeStream _ => 33
  | mime _ => 34
  | available _ => 27
  | pendingTracks _ _ => 28
  | channels _ => 29
  | candidates _ => 29
  | mediaEngine _ => 29
  | onIceCandidate _ => 29
  | publisherTracks _ => 29
  | publisherCandidates _ => 29
  | onIceConnectionStateChange _ => 29
  | stats _ => 29
  | factory _ => 29
  | onBind _ => 35
  | buffer _ => 30
  | onTransportWideCc _ => 31
  | onAudioLevel _ => 31
  | onFeedbackCallback _ => 31
  | twcc _ => 32
  | extInfo _ => 33
  | rtcpReader _ => 34
  | onPacket _ => 35

theorem SfuLock.rank_lt (lock : SfuLock) : lock.rank < 36 := by
  cases lock <;> exact Nat.le_of_ble_eq_true rfl

namespace SfuLocks

theorem ranked_maybe {floor : Nat} {p : Scopes SfuLock} :
    Ranked SfuLock.rank floor (maybe p) ↔ Ranked SfuLock.rank floor p := and_iff_left trivial

theorem ranked_hold {floor : Nat} {lock : SfuLock} {body : Scopes SfuLock} :
    Ranked SfuLock.rank floor (.hold lock body) ↔ floor ≤ lock.rank ∧ Ranked SfuLock.rank (lock.rank + 1) body :=
  Iff.rfl

theorem ranked_each {floor : Nat} {body : Nat → Scopes SfuLock} :
    Ranked SfuLock.rank floor (.each body) ↔ ∀ i, Ranked SfuLock.rank floor (body i) := Iff.rfl

theorem ranked_either {floor : Nat} {left right : Scopes SfuLock} :
    Ranked SfuLock.rank floor (.either left right) ↔
      Ranked SfuLock.rank floor left ∧ Ranked SfuLock.rank floor right := Iff.rfl

theorem negotiate_ranked (p : Nat) : Ranked SfuLock.rank 23 (negotiate p) := by
  simp [negotiate, ranked_hold, ranked_touch]

theorem addDataChannel2_ranked (p : Nat) : Ranked SfuLock.rank 29 (addDataChannel2 p) := by
  simp [addDataChannel2, ranked_block, ranked_touch]

theorem getDataChannels_ranked (s : Nat) : Ranked SfuLock.rank 3 (getDataChannels s) := by
  simp [getDataChannels, ranked_hold, ranked_each, ranked_block, ranked_touch]

theorem addDownTrack_ranked (p r : Nat) : Ranked SfuLock.rank 18 (addDownTrack p r) := by
  simp [addDownTrack, storeDownTrack, ranked_maybe, ranked_each, ranked_block, ranked_touch]

theorem addDownTracks_ranked (q p : Nat) : Ranked SfuLock.rank 16 (addDownTracks q p) := by
  have one (r : Nat) : Ranked SfuLock.rank 16 (addDownTrack p r) := (addDownTrack_ranked p r).mono (by decide)
  have after : Ranked SfuLock.rank 16 (negotiate p) := (negotiate_ranked p).mono (by decide)
  simp [addDownTracks, ranked_maybe, ranked_each, ranked_block, ranked_touch, one, after]

theorem subscribe_ranked (s p : Nat) : Ranked SfuLock.rank 2 (subscribe s p) := by
  have channel : Ranked SfuLock.rank 3 (addDataChannel2 p) := (addDataChannel2_ranked p).mono (by decide)
  have streams (c : Nat) : Ranked SfuLock.rank 4 (addDownTracks c p) := (addDownTracks_ranked c p).mono (by decide)
  have after : Ranked SfuLock.rank 4 (negotiate p) := (negotiate_ranked p).mono (by decide)
  simp [subscribe, ranked_hold, ranked_each, ranked_block, ranked_touch, channel,
    getDataChannels_ranked, streams, after]

theorem join_ranked (s p : Nat) : Ranked SfuLock.rank 0 (join s p) := by
  have last : Ranked SfuLock.rank 1 (subscribe s p) := (subscribe_ranked s p).mono (by decide)
  simp [join, getSession, ranked_hold, ranked_maybe, ranked_each, ranked_block, ranked_touch, last]

theorem addReceiver_ranked (q b r : Nat) : Ranked SfuLock.rank 16 (addReceiver false q b r) := by
  simp [addReceiver, addUpTrack, Ranked, ranked_maybe, ranked_block, ranked_touch]

theorem publish_ranked (s r : Nat) : Ranked SfuLock.rank 0 (publish s r) := by
  have track (v : Nat) : Ranked SfuLock.rank 0 (addDownTrack v r) := (addDownTrack_ranked v r).mono (by decide)
  have after (v : Nat) : Ranked SfuLock.rank 0 (negotiate v) := (negotiate_ranked v).mono (by decide)
  simp [publish, ranked_each, ranked_block, ranked_touch, track, after]

theorem onTrack_ranked (s q b r : Nat) : Ranked SfuLock.rank 0 (onTrack false s q b r) := by
  have receiver : Ranked SfuLock.rank 0 (addReceiver false q b r) := (addReceiver_ranked q b r).mono (by decide)
  simp [onTrack, ranked_maybe, ranked_block, ranked_touch, receiver, publish_ranked]

theorem addDataChannel_ranked (s p : Nat) : Ranked SfuLock.rank 0 (addDataChannel s p) := by
  have peers : Ranked SfuLock.rank 0 (getDataChannels s) := (getDataChannels_ranked s).mono (by decide)
  have channel (v : Nat) : Ranked SfuLock.rank 0 (addDataChannel2 v) := (addDataChannel2_ranked v).mono (by decide)
  have after (v : Nat) : Ranked SfuLock.rank 0 (negotiate v) := (negotiate_ranked v).mono (by decide)
  simp [addDataChannel, ranked_maybe, ranked_each, ranked_block, ranked_touch, peers, channel, after]

theorem closePublisher_ranked (q : Nat) : Ranked SfuLock.rank 11 (closePublisher q) := by
  simp [closePublisher, ranked_hold, ranked_touch]

theorem close_ranked (s p : Nat) : Ranked SfuLock.rank 0 (close s p) := by
  have publisher : Ranked SfuLock.rank 10 (closePublisher p) := (closePublisher_ranked p).mono (by decide)
  simp [close, removePeer, ranked_hold, ranked_block, ranked_touch, publisher]

theorem closeDownTrack_ranked (d : Nat) : Ranked SfuLock.rank 21 (closeDownTrack d) := by
  have after (p : Nat) : Ranked SfuLock.rank 22 (negotiate p) := (negotiate_ranked p).mono (by decide)
  simp [closeDownTrack, ranked_hold, ranked_each, ranked_block, ranked_touch, after]

theorem writeDownTrack_ranked (d : Nat) : Ranked SfuLock.rank 25 (writeDownTrack false d) := by
  simp [writeDownTrack, writeSimpleRtp, ranked_hold, ranked_maybe, ranked_block, ranked_touch]

theorem readExtended_ranked (b : Nat) : Ranked SfuLock.rank 30 (readExtended b) := by
  simp [readExtended, Ranked, ranked_block, ranked_touch]

theorem writeRtp_ranked (r layer : Nat) : Ranked SfuLock.rank 19 (writeRtp false r layer) := by
  have write (d : Nat) : Ranked SfuLock.rank 21 (writeDownTrack false d) := (writeDownTrack_ranked d).mono (by decide)
  have read (b : Nat) : Ranked SfuLock.rank 20 (readExtended b) := (readExtended_ranked b).mono (by decide)
  simp [writeRtp, Ranked, ranked_hold, ranked_block, read, write, closeDownTrack_ranked]

theorem switchSpatialLayer_ranked (d : Nat) : Ranked SfuLock.rank 25 (switchSpatialLayer d) := by
  simp [switchSpatialLayer, ranked_hold, ranked_maybe, ranked_each, ranked_block, ranked_touch]

theorem processMessage_ranked (p : Nat) : Ranked SfuLock.rank 22 (processMessage p) := by
  have layer (d : Nat) : Ranked SfuLock.rank 23 (switchSpatialLayer d) :=
    (switchSpatialLayer_ranked d).mono (by decide)
  simp [processMessage, ranked_hold, ranked_maybe, ranked_each, ranked_block, ranked_touch, layer]

end SfuLocks

/-- Every call that has nothing to do with simulcast keeps to the order. -/
theorem SfuCall.locks_ranked {call : SfuCall} (single : call.simulcast = false) :
    Ranked SfuLock.rank 0 call.locks := by
  cases call with
  | onTrack simulcast s q b r =>
      cases single
      exact SfuLocks.onTrack_ranked s q b r
  | writeRtp simulcast r layer =>
      cases single
      exact (SfuLocks.writeRtp_ranked r layer).mono (Nat.zero_le _)
  | join s p => exact SfuLocks.join_ranked s p
  | close s p => exact SfuLocks.close_ranked s p
  | closePublisher q => exact (SfuLocks.closePublisher_ranked q).mono (Nat.zero_le _)
  | addDataChannel s p => exact SfuLocks.addDataChannel_ranked s p
  | fanoutMessage s => exact (SfuLocks.getDataChannels_ranked s).mono (Nat.zero_le _)
  | processMessage p => exact (SfuLocks.processMessage_ranked p).mono (Nat.zero_le _)
  | setRemoteDescription p =>
      have after : Ranked SfuLock.rank 9 (SfuLocks.negotiate p) := (SfuLocks.negotiate_ranked p).mono (by decide)
      simp [locks, SfuLocks.setRemoteDescription, SfuLocks.flushCandidates, SfuLocks.ranked_hold, ranked_block,
        ranked_touch, after]
  | installHandlers p => simp [locks, SfuLocks.installHandlers, ranked_block, ranked_touch]
  | iceCandidate p => simp [locks, ranked_touch]
  | answer p => simp [locks, SfuLocks.answer, SfuLocks.ranked_hold, ranked_block, ranked_touch]
  | trickle p =>
      simp [locks, SfuLocks.trickle, SfuLocks.ranked_hold, SfuLocks.ranked_either, ranked_block, ranked_touch,
        SfuLock.rank]
  | writeBuffer q b =>
      simp [locks, SfuLocks.writeBuffer, SfuLocks.ranked_hold, SfuLocks.ranked_maybe, ranked_block, ranked_touch,
        SfuLock.rank]
  | bind d => simp [locks, SfuLocks.bind, SfuLocks.ranked_hold, ranked_touch]
  | sendRtcp q => simp [locks, SfuLocks.sendRtcp, SfuLocks.ranked_hold, ranked_block, ranked_touch, Ranked]
  | sendStreamDownTrackReports p =>
      simp [locks, SfuLocks.sendStreamDownTrackReports, SfuLocks.ranked_hold, SfuLocks.ranked_each, ranked_touch,
        SfuLock.rank]

open SfuLock SfuLocks

/-- Whatever calls were made and however far they are, if none of them is about simulcast there
is an end to it, in any order in which they go on. A call that has not returned can go on, waits for
a packet, or waits, guard behind guard, for one that does. -/
theorem calls_return {steps later : List (LockStep SfuLock)} {tasks tasks' : List (LockTask SfuLock)}
    (single : Guarded step (Runs fun p => ∃ call : SfuCall, call.simulcast = false ∧ p = call.locks) [] steps)
    (reached : run step [] steps = some tasks) (goes : ∀ e ∈ later, e.starts = false)
    (went : run step tasks later = some tasks') :
    later.length + remaining tasks' ≤ remaining tasks ∧ ∀ task ∈ tasks', task.rest ≠ [] → task.Live tasks' := by
  have all : AllOrdered SfuLock.rank tasks := by
    refine run_invariant (AllOrdered SfuLock.rank) ?_ (fun k task found => by cases found) single reached
    intro s e s' all runs h
    refine step_ordered ?_ all runs h
    rintro p ⟨call, single, rfl⟩
    exact call.locks_ranked single
  exact goings_end SfuLock.rank_lt all goes went

def forwardEvents : List (LockEvent SfuLock) :=
  [.acquire (buffers 1), .acquire (buffer 0), .release (buffer 0), .await, .acquire (buffer 0), .release (buffer 0),
    .acquire (downTracks 1 0), .release (downTracks 1 0), .release (buffers 1)]

/-- Two rounds of one receiver, of which the second waits for the first, and the first for a packet. -/
theorem calls_return_forward : ∃ tasks tasks' : List (LockTask SfuLock),
    run step [] [.start forwardEvents, .start forwardEvents, .resume 0, .resume 0, .resume 0] = some tasks ∧
    (∀ k, step tasks (.resume k) = none) ∧ run step tasks [.answer 0, .resume 0] = some tasks' ∧
    2 + remaining tasks' ≤ remaining tasks ∧ ∀ task ∈ tasks', task.rest ≠ [] → task.Live tasks' := by
  have read : (readExtended 0).Trace _ := .seq (.hold _ .skip) (.seq .done (.seq .await (.stop (.hold _ .skip))))
  have forward : (SfuCall.writeRtp false 1 0).locks.Trace forwardEvents :=
    .hold _ (.seq (.round 0 read .done) (.seq .skip (.stop (.hold _ .done))))
  have single : Guarded step (Runs fun p => ∃ call : SfuCall, call.simulcast = false ∧ p = call.locks) []
      [.start forwardEvents, .start forwardEvents, .resume 0, .resume 0, .resume 0] := by
    refine ⟨⟨_, ⟨.writeRtp false 1 0, rfl, rfl⟩, forward⟩, fun _ _ => ?_⟩
    refine ⟨⟨_, ⟨.writeRtp false 1 0, rfl, rfl⟩, forward⟩, fun _ _ => ?_⟩
    exact ⟨trivial, fun _ _ => ⟨trivial, fun _ _ => ⟨trivial, fun _ _ => trivial⟩⟩⟩
  have goes : ∀ e ∈ [.answer 0, .resume 0], (e : LockStep SfuLock).starts = false := by simp [LockStep.starts]
  refine ⟨_, _, rfl, fun k => ?_, rfl, calls_return single rfl goes rfl⟩
  match k with
  | 0 => rfl
  | 1 => rfl
  | _ + 2 => rfl

/-- A task within `add_up_track` that has the availability asks for it. -/
theorem addUpTrack_asks {r : Nat} {held now : List SfuLock} {e : LockEvent SfuLock}
    (point : Point (addUpTrack true r) held now e) (new : available r ∉ held) (mem : available r ∈ now) :
    e = .acquire (available r) := by
  have second := point.body (by simp) new mem
  have third := second.body (by simp) (by simpa using new) mem
  exact third.asks

/-- A task within `add_receiver` that has the list of receivers and the availability asks for it. -/
theorem addReceiver_asks {q b r : Nat} {now : List SfuLock} {e : LockEvent SfuLock}
    (point : Point (addReceiver true q b r) [] now e) (list : receivers q ∈ now) (mem : available r ∈ now) :
    e = .acquire (available r) := by
  have only {part : Scopes SfuLock} (foreign : ¬ Mentions (receivers q) part) : ¬ Point part [] now e :=
    fun point => List.not_mem_nil (point.held_of_not_mentions foreign list)
  have inside : Point (.hold (receivers q) (block [maybe (block [touch (receiverOnClose r),
      touch (onAddReceiverTrack q)]), addUpTrack true r, touch (buffer b)])) [] now e := by
    obtain ⟨part, part_mem, point⟩ := point.of_block
    simp only [List.mem_cons, List.not_mem_nil, or_false] at part_mem
    rcases part_mem with rfl | rfl | rfl | rfl | rfl | rfl | rfl | rfl | rfl
    case inr.inr.inr.inr.inr.inr.inr.inr => exact point
    all_goals exact absurd point (only (by simp [maybe, touch, block, Mentions]))
  obtain ⟨part, part_mem, point⟩ := (inside.body (by simp) List.not_mem_nil mem).of_block
  have other {part : Scopes SfuLock} (foreign : ¬ Mentions (available r) part) :
      ¬ Point part [receivers q] now e := by
    intro point
    have held := point.held_of_not_mentions foreign mem
    simp at held
  simp only [List.mem_cons, List.not_mem_nil, or_false] at part_mem
  rcases part_mem with rfl | rfl | rfl
  · exact absurd point (other (by simp [maybe, touch, block, Mentions]))
  · exact addUpTrack_asks point (by simp) mem
  · exact absurd point (other (by simp [touch, Mentions]))

/-- A join keeps the provider until it returns. -/
theorem join_keeps_provider {s p q : Nat} {task : LockTask SfuLock} (joining : task.Within (join s p))
    (visits : .acquire (receivers q) ∈ task.rest) : ∃ before after,
      task.rest = before ++ .acquire (receivers q) :: after ∧ .release provider ∉ before := by
  obtain ⟨done, trace, -⟩ := joining
  obtain ⟨before, after, shape⟩ := List.append_of_mem visits
  refine ⟨before, after, shape, fun mem => ?_⟩
  obtain ⟨left, right, rfl⟩ := List.append_of_mem mem
  have foreign : ∀ part ∈ [touch (peerSession p), touch (peerId p)], ¬ Mentions provider part := by
    simp [touch, Mentions]
  have split : done ++ task.rest =
      (done ++ left) ++ .release provider :: (right ++ .acquire (receivers q) :: after) := by
    rw [shape]
    simp only [List.append_assoc, List.cons_append]
  have last := Trace.release_last foreign
    (fun mentions => Nat.not_succ_le_zero 0 ((join_ranked s p).2.2.1.2.floor_le mentions)) trace split
  simp at last

/-- A simulcast track of a publisher that some join still visits: its `add_receiver` waits for
ever for its own guard, the join for the list of receivers, and every other join for the provider. -/
theorem simulcast_blocks_joins {tasks tasks' : List (LockTask SfuLock)} {steps : List (LockStep SfuLock)}
    {k j s s' p q b r : Nat} {adder joiner : LockTask SfuLock} (adds : tasks[k]? = some adder)
    (adding : adder.Within (SfuCall.onTrack true s q b r).locks) (list : receivers q ∈ adder.held)
    (availability : available r ∈ adder.held) (joins : tasks[j]? = some joiner)
    (joining : joiner.Within (SfuCall.join s' p).locks) (holds : provider ∈ joiner.held)
    (visits : .acquire (receivers q) ∈ joiner.rest) (reached : run step tasks steps = some tasks') :
    tasks'[k]? = some adder ∧ adder.rest ≠ [] ∧ ∀ i task rest, tasks'[i]? = some task →
      task.rest = .acquire provider :: rest → step tasks' (.resume i) = none := by
  obtain ⟨e, rest, events, point⟩ := adding.point list
  have asks : adder.rest = .acquire (available r) :: rest := by
    obtain ⟨part, mem, point⟩ := point.of_block
    have only {part : Scopes SfuLock} (foreign : ¬ Mentions (receivers q) part) : ¬ Point part [] adder.held e :=
      fun point => List.not_mem_nil (point.held_of_not_mentions foreign list)
    simp only [List.mem_cons, List.not_mem_nil, or_false] at mem
    rcases mem with rfl | rfl | rfl | rfl
    · rw [events, addReceiver_asks point list availability]
    · refine absurd point (only ?_)
      simp [maybe, publish, addDownTrack, storeDownTrack, negotiate, touch, block, Mentions]
    · exact absurd point (only (by simp [touch, Mentions]))
    · exact absurd point (only (by simp [touch, Mentions]))
  have stuck := stuck_self adds asks availability
  have stays : tasks'[k]? = some adder := (run_stuck stuck reached k rfl).trans adds
  refine ⟨stays, by simp [asks], fun i task later found waits => ?_⟩
  obtain ⟨before, after, shape, keeps⟩ := join_keeps_provider joining visits
  obtain ⟨joiner', found', holds'⟩ := run_keeps stuck rfl adds list joins holds shape keeps reached
  have taken : ¬ Free tasks' provider := fun free => free joiner' (List.mem_of_getElem? found') holds'
  rw [step, found, Option.bind_some, advance, waits]
  simp only [if_neg taken, Option.map_none]

def touchEvents (lock : SfuLock) : List (LockEvent SfuLock) := [.acquire lock, .release lock]

/-- Peer 0 publishes a simulcast track; what it still does once it has all its locks. -/
def adderBefore : List (LockEvent SfuLock) :=
  touchEvents (factory 0) ++ .acquire (buffer 0) :: touchEvents (onFeedbackCallback 0) ++ .release (buffer 0) ::
    touchEvents (factory 0) ++ .acquire (rtcpReader 0) :: touchEvents (onPacket 0) ++ .release (rtcpReader 0) ::
    [.acquire (receivers 0), .acquire (upTracks 0), .acquire (buffers 0), .acquire (available 0)]

def adderRest : List (LockEvent SfuLock) :=
  [.acquire (available 0), .release (available 0), .release (available 0), .release (buffers 0),
    .release (upTracks 0), .release (receivers 0)]

/-- Peer 1 joins the session; what it still does once it looks for the tracks of peer 0. -/
def joinerBefore : List (LockEvent SfuLock) :=
  touchEvents (peerSession 1) ++ touchEvents (peerId 1) ++ .acquire provider :: touchEvents sessions ++
    touchEvents (peerSession 1) ++ touchEvents (peerId 1) ++ touchEvents (peers 0) ++
    .acquire (fanoutDataChannels 0) :: .acquire (peers 0) :: touchEvents (peerId 0) ++ touchEvents (peerId 1) ++
    touchEvents (publisher 0) ++ touchEvents (peerId 0) ++ touchEvents (peerId 1) ++ touchEvents (publisher 0) ++
    touchEvents (subscriber 1)

def joinerRest : List (LockEvent SfuLock) :=
  touchEvents (receivers 0) ++ [.release (peers 0), .release (fanoutDataChannels 0), .release provider]

theorem simulcast_blocks_joins_both : ∃ tasks : List (LockTask SfuLock),
    run step [] (.start (adderBefore ++ adderRest) :: .start (joinerBefore ++ joinerRest) ::
      List.replicate 16 (.resume 0) ++ List.replicate 29 (.resume 1)) = some tasks ∧
    ∃ adder, ∀ steps tasks', run step tasks steps = some tasks' → tasks'[0]? = some adder ∧ adder.rest ≠ [] ∧
      ∀ i task rest, tasks'[i]? = some task → task.rest = .acquire provider :: rest →
        step tasks' (.resume i) = none := by
  have upTrack : (addUpTrack true 0).Trace _ := .hold _ (.hold _ (.hold _ (.hold _ .skip)))
  have receiver : (addReceiver true 0 0 0).Trace _ := .seq (.hold _ .skip) (.seq (.hold _ (.hold _ .skip))
    (.seq (.right .skip) (.seq (.right .skip) (.seq (.right .skip) (.seq (.right .skip) (.seq (.hold _ .skip)
      (.seq (.hold _ (.hold _ .skip)) (.stop (.hold _ (.seq (.right .skip) (.stop upTrack)))))))))))
  have adding : (SfuCall.onTrack true 0 0 0 0).locks.Trace (adderBefore ++ adderRest) := .stop receiver
  have streams : (addDownTracks 0 1).Trace _ := .stop (.left (.hold _ .skip))
  have others : (subscribe 0 1).Trace _ := .hold _ (.seq .done (.stop (.hold _ (.stop (.round 0 (.seq (.hold _ .skip)
    (.seq (.hold _ .skip) (.seq (.hold _ .skip) (.seq (.hold _ .skip) (.seq (.hold _ .skip) (.seq (.hold _ .skip)
      (.seq (.hold _ .skip) (.stop streams)))))))) .done)))))
  have joins : (join 0 1).Trace _ := .seq (.hold _ .skip) (.seq (.hold _ .skip) (.stop (.hold _ (.seq
    (.stop (.hold _ .skip)) (.seq (.hold _ .skip) (.seq (.right .skip) (.seq (.right .skip) (.seq (.hold _ .skip)
      (.seq (.hold _ .skip) (.stop others))))))))))
  have joining : (SfuCall.join 0 1).locks.Trace (joinerBefore ++ joinerRest) := joins
  refine ⟨[⟨[available 0, buffers 0, upTracks 0, receivers 0], adderRest⟩,
    ⟨[peers 0, fanoutDataChannels 0, provider], joinerRest⟩], rfl,
    ⟨[available 0, buffers 0, upTracks 0, receivers 0], adderRest⟩, fun steps tasks' reached => ?_⟩
  exact simulcast_blocks_joins rfl ⟨adderBefore, adding, rfl⟩ (by decide) (by decide) (j := 1) rfl
    ⟨joinerBefore, joining, rfl⟩ (by decide) (by decide) reached

end Rsfu
