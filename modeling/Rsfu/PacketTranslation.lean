import Rsfu.MediaPath
import Rsfu.Reception
import Rsfu.SlotOverrun
import Rsfu.TaskTable

/-! What a subscriber gets. Between two re-syncs the packets on its write stream are those the
buffer took in, each once and in order, with four fields of the header written over. -/
namespace Rsfu
open GuardedRun TaskTable

namespace Bucket

theorem push_data {b b' : Bucket} {pkt data : Bytes} (pushed : b.push pkt = some (b', .ok data)) : data = pkt := by
  rw [push_eq] at pushed
  split at pushed
  · cases pushed
  · obtain ⟨buf, -, same⟩ := Option.map_eq_some_iff.mp pushed
    cases same
    rfl

theorem set_data {b b' : Bucket} {sn : UInt16} {pkt data : Bytes} (put : b.set sn pkt = some (b', .ok data)) :
    data = pkt := by
  rw [set_eq] at put
  split at put
  · cases put
  · split at put
    · cases put
    · obtain ⟨number, -, put⟩ := Option.bind_eq_some_iff.mp put
      split at put
      · cases put
      · obtain ⟨buf, -, same⟩ := Option.map_eq_some_iff.mp put
        cases same
        rfl

theorem addPacket_data {r r' : Bucket} {pkt data : Bytes} {sn : UInt16} {latest : Bool}
    (add : r.addPacket pkt sn latest = some (r', .ok data)) : data = pkt := by
  cases latest with
  | true => exact push_data add
  | false => exact set_data add

end Bucket

namespace Buffer

theorem inspectPayload_packet {b : Buffer} {ep ep' : ExtPacket}
    (h : (b.inspectPayload ep).run = some (.ok ep')) : ep'.packet = ep.packet := by
  unfold inspectPayload at h
  split at h
  · simp only [ExceptT.run_bind, ExceptT.run_pure, Option.bind_eq_bind, Option.bind_eq_some_iff] at h
    obtain ⟨r, -, h⟩ := h
    cases r with
    | error err => cases h
    | ok vp8 =>
        cases h
        rfl
  · split at h
    · simp only [ExceptT.run_bind, ExceptT.run_pure, ExceptT.run_lift, Option.bind_eq_bind,
        Option.bind_eq_some_iff] at h
      obtain ⟨r, read, h⟩ := h
      cases r with
      | error err => cases h
      | ok key =>
          cases h
          rfl
    · cases h
      rfl

theorem storePacket_parses {crates : RtpCrates} {b b' : Buffer} {pkt : Bytes} {sn : UInt16}
    {answer : Except CalcExit Packet} (store : b.bucket.isSome)
    (h : b.storePacket crates pkt sn = some (b', answer)) :
    b'.bucket.isSome ∧ ∀ packet, answer = .ok packet → crates.unmarshal pkt = some packet := by
  obtain ⟨r, had⟩ := Option.isSome_iff_exists.mp store
  unfold storePacket at h
  simp only [had, Option.bind_eq_bind, Option.bind_eq_some_iff] at h
  obtain ⟨⟨r', rv⟩, add, h⟩ := h
  cases rv with
  | error err =>
      cases h
      exact ⟨rfl, fun packet ok => nomatch ok⟩
  | ok data =>
      obtain rfl := Bucket.addPacket_data add
      simp only at h
      split at h
      · cases h
        exact ⟨rfl, fun packet ok => nomatch ok⟩
      · rename_i parsed good
        cases h
        refine ⟨rfl, fun packet ok => ?_⟩
        cases ok
        exact good

theorem stored_bucket {crates : RtpCrates} {b after : Buffer} {pkt : Bytes} {arrivalTime : Int} {sn : UInt16}
    {answer : Except CalcExit Packet} (store : b.bucket.isSome)
    (h : (b.trackSequence sn arrivalTime).1.storePacket crates pkt sn = some (after, answer)) :
    after.bucket.isSome ∧ ∀ packet, answer = .ok packet → crates.unmarshal pkt = some packet := by
  refine storePacket_parses ?_ h
  obtain ⟨cycles, maxSeqNo, nacker, tracked⟩ := b.trackSequence_writes sn arrivalTime
  rw [tracked]
  exact store

/-- A packet that is taken in is queued as it was read from its own bytes; any other leaves the queue. -/
theorem calc_queues {crates : RtpCrates} {b : Buffer} {pkt : Bytes} {arrivalTime : Int} {c : Calc}
    (store : b.bucket.isSome) (h : b.calc crates pkt arrivalTime = some c) :
    c.buffer.bucket.isSome ∧
      if c.exit = .complete then ∃ ep, c.buffer.extPackets = b.extPackets ++ [ep] ∧
        crates.unmarshal pkt = some ep.packet
      else c.buffer.extPackets = b.extPackets := by
  unfold Buffer.calc at h
  simp only [Option.bind_eq_bind, Option.bind_eq_some_iff] at h
  obtain ⟨sn, -, ⟨after, answer⟩, put, h⟩ := h
  obtain ⟨still, parses⟩ := stored_bucket store put
  have queue : after.extPackets = b.extPackets := (stored_step put).1.extPackets
  cases answer with
  | error exit =>
      cases h
      have early : exit ≠ .complete := by
        intro complete
        have quiet := ((stored_step put).2.1 exit rfl).1
        rw [complete] at quiet
        cases quiet
      exact ⟨still, by rwa [if_neg early]⟩
  | ok packet =>
      simp only [Option.bind_eq_some_iff] at h
      obtain ⟨inspected, inspect, h⟩ := h
      cases inspected with
      | error err =>
          cases h
          exact ⟨still, by rwa [if_neg (by simp)]⟩
      | ok ep =>
          cases h
          have finished := finish_core crates (after.countPacket pkt.length) sn ep arrivalTime
          simp only [core, BufferCore.mk.injEq] at finished
          obtain ⟨-, -, -, -, bucket, -, queued, -⟩ := finished
          refine ⟨?_, ?_⟩
          · rw [bucket]
            exact still
          · rw [if_pos rfl]
            refine ⟨ep, queued.trans ?_, (parses packet rfl).trans ?_⟩
            · exact congrArg (· ++ [ep]) queue
            · rw [inspectPayload_packet inspect]

end Buffer

namespace DownTrack

/-- The packet a track makes of another while its offsets stand. -/
def translate (d : DownTrack) (packet : Packet) : Packet := { packet with header := d.rewriteHeader packet.header }

/-- A simple track that forwards whatever it is given. -/
structure Flows (d : DownTrack) : Prop where
  simple : d.trackType = .simpleDownTrack
  enabled : d.enabled = true
  bound : d.bound = true
  writeStream : d.writeStream = true
  reSync : d.reSync = false

theorem numberSimple_flows {d : DownTrack} (flows : d.Flows) (pkt : ExtPacket) :
    (d.numberSimple pkt).Flows ∧ (d.numberSimple pkt).translate = d.translate := by
  unfold numberSimple
  simp only [flows.reSync, Bool.false_eq_true, if_false, noteHead_frame, updateStats]
  exact ⟨⟨flows.simple, flows.enabled, flows.bound, flows.writeStream, rfl⟩, rfl⟩

theorem Flows.write {ε : Type} {d : DownTrack} (flows : d.Flows) {env : SendEnv ε} {pkt : ExtPacket} {layer : Nat}
    {w : Written ε} (h : d.writeRtp env pkt layer = some w) :
    w.sent = [.rtp (d.translate pkt.packet)] ∧ w.track.Flows ∧ w.track.translate = d.translate := by
  obtain ⟨still, same⟩ := numberSimple_flows flows pkt
  unfold writeRtp at h
  rw [if_neg (not_not_intro flows.enabled), if_neg (not_not_intro flows.bound), flows.simple] at h
  have synced : ¬ (d.reSync = true ∧ d.kind = .video ∧ ¬ pkt.keyFrame = true) := by
    intro waits
    rw [flows.reSync] at waits
    exact Bool.false_ne_true waits.1
  have wrote : d.writeSimpleRtp env pkt =
      (d.numberSimple pkt).writePacket env ((d.numberSimple pkt).translate pkt.packet) := if_neg synced
  dsimp only at h
  rw [wrote, same] at h
  cases h
  rw [writePacket_track, writePacket_sent, if_pos still.writeStream]
  exact ⟨rfl, still, same⟩

end DownTrack

def MediaEvent.Quiet (k : Nat) : MediaEvent → Prop
  | .storeDownTrack j | .deleteDownTrack j | .track j _ => j ≠ k
  | _ => True

namespace MediaPath
variable {crates : RtpCrates}

/-- The packets taken in that a track has still to be written. -/
def awaited (g : MediaPath) (k : Nat) : List Packet := (g.pending k ++ g.buffer.extPackets).map ExtPacket.packet

/-- One place of the layer is a track's, and the track makes `f` of what it is given. -/
structure Serves (g : MediaPath) (k : Nat) (f : Packet → Packet) : Prop where
  track : ∃ d, g.tracks[k]? = some d ∧ d.Flows ∧ d.translate = f
  once : g.downTracks.count k = 1
  store : g.buffer.bucket.isSome

/-- What was taken in between two states goes in behind what a track awaited, and what the track was
written comes out in front. -/
def Carries (crates : RtpCrates) (k : Nat) (f : Packet → Packet) (g g' : MediaPath) : Prop :=
  ∃ taken packets, g'.accepted = g.accepted ++ taken ∧ taken.map crates.unmarshal = packets.map some ∧
    g'.outOf k ++ (g'.awaited k).map f = g.outOf k ++ (g.awaited k ++ packets).map f

theorem Carries.trans {k : Nat} {f : Packet → Packet} {g g' g'' : MediaPath} (first : Carries crates k f g g')
    (later : Carries crates k f g' g'') : Carries crates k f g g'' := by
  obtain ⟨taken, packets, accepted, read, out⟩ := first
  obtain ⟨taken', packets', accepted', read', out'⟩ := later
  refine ⟨taken ++ taken', packets ++ packets', ?_, ?_, ?_⟩
  · rw [accepted', accepted, List.append_assoc]
  · rw [List.map_append, List.map_append, read, read']
  · rw [out', List.map_append, ← List.append_assoc, out, List.append_assoc, ← List.map_append, List.append_assoc]

/-- A step that takes nothing in. -/
theorem Carries.of_moved {k : Nat} {f : Packet → Packet} {g g' : MediaPath} (accepted : g'.accepted = g.accepted)
    (moved : g'.outOf k ++ (g'.awaited k).map f = g.outOf k ++ (g.awaited k).map f) : Carries crates k f g g' := by
  refine ⟨[], [], ?_, rfl, ?_⟩
  · rw [accepted, List.append_nil]
  · rw [moved, List.append_nil]

theorem pending_round {k : Nat} {downTracks : List Nat} (once : downTracks.count k = 1) (pkt : ExtPacket) :
    (((downTracks.map fun j => (j, pkt)).filter fun one => one.1 = k).map Prod.snd) = [pkt] := by
  rw [List.filter_map, List.map_map]
  have turns : downTracks.filter (fun j => j = k) = List.replicate 1 k := by
    rw [← once]
    exact List.filter_eq k
  exact congrArg (List.map fun _ => pkt) turns

theorem written_elsewhere {j k : Nat} (other : j ≠ k) (packets : List Packet) :
    (packets.map fun packet => (j, packet)).filter (fun one => one.1 = k) = [] := by
  rw [List.filter_eq_nil_iff]
  intro one mem
  obtain ⟨packet, -, rfl⟩ := List.mem_map.mp mem
  simpa using other

theorem write_carries {g g' : MediaPath} {k : Nat} {f : Packet → Packet} (serves : g.Serves k f) {pkt : Bytes}
    {arrivalTime : Int} (h : g.step crates (.write pkt arrivalTime) = some g') :
    g'.Serves k f ∧ Carries crates k f g g' := by
  obtain ⟨c, called, rfl⟩ := Option.map_eq_some_iff.mp h
  obtain ⟨still, queued⟩ := Buffer.calc_queues serves.store called
  refine ⟨⟨serves.track, serves.once, still⟩, ?_⟩
  by_cases complete : c.exit = .complete
  · rw [if_pos complete] at queued
    obtain ⟨ep, queued, read⟩ := queued
    refine ⟨[pkt], [ep.packet], ?_, ?_, ?_⟩
    · simp only [complete, if_true]
    · rw [List.map_singleton, List.map_singleton, read]
    · simp only [awaited, pending, outOf, queued, List.map_append, List.map_singleton, List.append_assoc]
  · rw [if_neg complete] at queued
    apply Carries.of_moved
    · simp only [complete, if_false, List.append_nil]
    · simp only [awaited, pending, outOf, queued]

theorem readExtended_carries {g g' : MediaPath} {k : Nat} {f : Packet → Packet} (serves : g.Serves k f)
    (h : g.step crates .readExtended = some g') : g'.Serves k f ∧ Carries crates k f g g' := by
  dsimp only [step] at h
  split at h
  · rename_i pkt later idle queue
    cases h
    refine ⟨⟨serves.track, serves.once, serves.store⟩, Carries.of_moved rfl ?_⟩
    simp only [awaited, pending, outOf, pending_round serves.once, idle, queue]
    rfl
  · cases h

theorem writeRtp_carries {g g' : MediaPath} {k : Nat} {f : Packet → Packet} (serves : g.Serves k f)
    (h : g.step crates .writeRtp = some g') : g'.Serves k f ∧ Carries crates k f g g' := by
  dsimp only [step] at h
  split at h
  · cases h
  · rename_i j pkt rest turns
    obtain ⟨d, found, wrote⟩ := Option.bind_eq_some_iff.mp h
    obtain ⟨w, written, rfl⟩ := Option.map_eq_some_iff.mp wrote
    obtain ⟨mine, at_k, flows, same⟩ := serves.track
    by_cases here : j = k
    · subst here
      obtain rfl := Option.some.inj (found.symm.trans at_k)
      obtain ⟨sent, still, kept⟩ := flows.write written
      refine ⟨⟨⟨w.track, ?_, still, kept.trans same⟩, serves.once, serves.store⟩, Carries.of_moved rfl ?_⟩
      · exact (lookup_set found j).trans (if_pos rfl)
      · simp only [awaited, pending, outOf, turns, sent, same]
        simp [Sent.toRtp]
    · refine ⟨⟨⟨mine, ?_, flows, same⟩, serves.once, serves.store⟩, Carries.of_moved rfl ?_⟩
      · exact (lookup_set found k).trans ((if_neg here).trans at_k)
      · simp only [awaited, pending, outOf, turns, List.filter_append, written_elsewhere here, List.append_nil,
          List.filter_cons, here, decide_false, Bool.false_eq_true, if_false]

theorem step_carries {g g' : MediaPath} {k : Nat} {f : Packet → Packet} {e : MediaEvent} (serves : g.Serves k f)
    (quiet : e.Quiet k) (h : g.step crates e = some g') : g'.Serves k f ∧ Carries crates k f g g' := by
  obtain ⟨d, at_k, flows, same⟩ := serves.track
  cases e with
  | write pkt arrivalTime => exact write_carries serves h
  | readExtended => exact readExtended_carries serves h
  | writeRtp => exact writeRtp_carries serves h
  | newDownTrack new =>
      cases h
      exact ⟨⟨⟨d, lookup_append_old at_k, flows, same⟩, serves.once, serves.store⟩, Carries.of_moved rfl rfl⟩
  | storeDownTrack j =>
      obtain ⟨-, stored⟩ := Option.ite_none_right_eq_some.mp h
      cases stored
      refine ⟨⟨serves.track, ?_, serves.store⟩, Carries.of_moved rfl rfl⟩
      rw [List.count_append, serves.once, List.count_singleton, beq_false_of_ne quiet]
      rfl
  | deleteDownTrack j =>
      obtain ⟨-, deleted⟩ := Option.ite_none_right_eq_some.mp h
      cases deleted
      refine ⟨⟨serves.track, ?_, serves.store⟩, Carries.of_moved rfl rfl⟩
      rw [List.count_erase_of_ne (Ne.symm quiet), serves.once]
  | track j op =>
      cases op with
      | writeRtp env pkt layer => cases h
      | _ =>
          obtain ⟨other, found, applied⟩ := Option.bind_eq_some_iff.mp h
          obtain ⟨after, -, rfl⟩ := Option.map_eq_some_iff.mp applied
          refine ⟨⟨⟨d, ?_, flows, same⟩, serves.once, serves.store⟩, Carries.of_moved rfl rfl⟩
          exact (lookup_set found k).trans ((if_neg quiet).trans at_k)

/-- Between two re-syncs of a simple track, nothing that was taken in is lost, doubled or overtaken on the
way to it: each packet is read from its own bytes, and goes out with four fields of its header written over. -/
theorem run_translates {g g' : MediaPath} {k : Nat} {d : DownTrack} {events : List MediaEvent}
    (found : g.tracks[k]? = some d) (flows : d.Flows) (once : g.downTracks.count k = 1)
    (store : g.buffer.bucket.isSome) (quiet : ∀ e ∈ events, e.Quiet k)
    (reached : run (step crates) g events = some g') :
    ∃ taken packets, g'.accepted = g.accepted ++ taken ∧ taken.map crates.unmarshal = packets.map some ∧
      g'.outOf k ++ (g'.awaited k).map d.translate = g.outOf k ++ (g.awaited k ++ packets).map d.translate := by
  have serves : g.Serves k d.translate := ⟨⟨d, found, flows, rfl⟩, once, store⟩
  suffices g'.Serves k d.translate ∧ Carries crates k d.translate g g' from this.2
  clear found once store
  generalize d.translate = f at *
  induction events generalizing g with
  | nil =>
      cases reached
      exact ⟨serves, Carries.of_moved rfl rfl⟩
  | cons e rest ih =>
      obtain ⟨next, one, later⟩ := run_cons_eq_some.mp reached
      obtain ⟨still, first⟩ := step_carries serves (quiet e List.mem_cons_self) one
      obtain ⟨served, carried⟩ := ih (fun e mem => quiet e (List.mem_cons_of_mem _ mem)) later still
      exact ⟨served, first.trans carried⟩

/-- A receiver of opus with one subscriber, whose numbers stand four behind. -/
def opusPath : MediaPath where
  buffer := opusBuffer
  tracks := [{
    codec := ⟨"audio/opus", 48000, "", []⟩
    maxTrack := 500
    enabled := true
    bound := true
    writeStream := true
    payloadType := 111
    ssrc := 7
    snOffset := 4 }]
  downTracks := [0]

/-- Three packets come in, the last of them late, and the track has two of them. -/
def opusEvents : List MediaEvent := [.write (bareArrival 10).pkt 5, .write (bareArrival 12).pkt 6, .readExtended,
  .writeRtp, .readExtended, .write (bareArrival 11).pkt 7, .writeRtp]

theorem run_translates_opus : ∃ g d taken packets, run (step bareCrates) opusPath opusEvents = some g ∧
    opusPath.tracks[0]? = some d ∧
    (g.outOf 0).map (fun packet => (packet.header.sequenceNumber, packet.header.ssrc)) = [(6, 7), (8, 7)] ∧
    g.accepted = opusPath.accepted ++ taken ∧ taken.map bareCrates.unmarshal = packets.map some ∧
    g.outOf 0 ++ (g.awaited 0).map d.translate =
      opusPath.outOf 0 ++ (opusPath.awaited 0 ++ packets).map d.translate := by
  have ends : (run (step bareCrates) opusPath opusEvents).map (fun g =>
      (g.outOf 0).map fun packet => (packet.header.sequenceNumber, packet.header.ssrc)) = some [(6, 7), (8, 7)] := by
    decide +kernel
  obtain ⟨g, reached, written⟩ := Option.map_eq_some_iff.mp ends
  obtain ⟨taken, packets, accepted, read, out⟩ := run_translates (k := 0) rfl ⟨rfl, rfl, rfl, rfl, rfl⟩ rfl rfl
    (by simp [opusEvents, MediaEvent.Quiet]) reached
  exact ⟨g, _, taken, packets, reached, rfl, written, accepted, read, out⟩

end MediaPath

end Rsfu
