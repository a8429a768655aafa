import Rsfu.RouterReceivers

/-! What the buffer of a track takes in. As long as no other track has its ssrc, a track's buffer
is set up by one call of `add_receiver` only, and takes in what is read from the track, all of it
and nothing else. The forwarding tasks read on what it has taken in, first in, first out. -/
namespace Rsfu
open GuardedRun TaskTable Interning

namespace Buffer
variable {crates : RtpCrates} {b b' : Buffer}

/-- What packets do not change. -/
def settings (b : Buffer) : UInt32 × Bool × Bool := (b.mediaSsrc, b.bound, b.onTransportWideCc)

theorem probe_settings (b : Buffer) (sn : UInt16) (ep : ExtPacket) : (b.probe sn ep).settings = b.settings := by
  unfold probe
  split <;> rfl

theorem noteTimestamp_settings (b : Buffer) (timestamp : UInt32) (arrivalTime : Int) :
    (b.noteTimestamp timestamp arrivalTime).settings = b.settings := by
  obtain ⟨latestTimestamp, latestTimestampTime, noted⟩ := b.noteTimestamp_frame timestamp arrivalTime
  rw [noted]
  rfl

theorem finish_settings (crates : RtpCrates) (b : Buffer) (sn : UInt16) (ep : ExtPacket) (arrivalTime : Int) :
    (b.finish crates sn ep arrivalTime).1.settings = b.settings := by
  obtain ⟨extPackets, latestTimestamp, latestTimestampTime, nacker, bitrate, lastReport, bitrateHelper, finished⟩ :=
    finish_frame crates b sn ep arrivalTime
  rw [finished]
  exact probe_settings b sn ep

theorem countPacket_settings (b : Buffer) (len : Nat) : (b.countPacket len).settings = b.settings := rfl

theorem stored_settings {after : Buffer} {pkt : Bytes} {sn : UInt16} {arrivalTime : Int}
    {answer : Except CalcExit Packet}
    (store : (b.trackSequence sn arrivalTime).1.storePacket crates pkt sn = some (after, answer)) :
    after.settings = b.settings := by
  obtain ⟨cycles, maxSeqNo, nacker, tracked⟩ := trackSequence_writes b sn arrivalTime
  obtain ⟨bucket, rfl⟩ := storePacket_bucket store
  rw [tracked]
  rfl

theorem calc_settings {pkt : Bytes} {arrivalTime : Int} {c : Calc} (h : b.calc crates pkt arrivalTime = some c) :
    c.buffer.settings = b.settings := by
  obtain ⟨sn, -, ends⟩ := calc_ends h
  cases ends with
  | turnedAway store => exact stored_settings store
  | badPayload store => exact (countPacket_settings ..).trans (stored_settings store)
  | takenIn store headed =>
      exact (finish_settings crates _ _ _ _).trans ((countPacket_settings ..).trans (stored_settings store))

theorem write_settings {clock : ClockReads} {pkt : Bytes} {recorded : Option Calc}
    (h : b.write crates clock pkt = some (b', recorded)) : b'.settings = b.settings := by
  unfold write at h
  split at h
  · obtain ⟨c, calculated, same⟩ := Option.map_eq_some_iff.mp h
    cases same
    exact calc_settings calculated
  · cases h
    rfl

theorem bind_settings {params : RtpParameters} {maxBitrate : UInt64} (h : b.bind crates params maxBitrate = some b') :
    b'.settings = (b.mediaSsrc, true, b.onTransportWideCc) := by
  obtain ⟨clockRate, mime, codecType, bucket, twccExt, remb, twcc, nack, nacker, audioLevel, audioExt, rfl⟩ :=
    bind_frame h
  rfl

/-- The buffer with packets in front of those it has ready. -/
def prepend (given : List ExtPacket) (b : Buffer) : Buffer := { b with extPackets := given ++ b.extPackets }

theorem trackSequence_prepend (given : List ExtPacket) (b : Buffer) (sn : UInt16) (arrivalTime : Int) :
    (b.prepend given).trackSequence sn arrivalTime =
      ((b.trackSequence sn arrivalTime).1.prepend given, (b.trackSequence sn arrivalTime).2) := by
  by_cases first : b.stats.packetCount = 0
  · rw [trackSequence_first first]
    exact trackSequence_first (b := b.prepend given) first sn arrivalTime
  · by_cases clear : distance sn b.maxSeqNo &&& 0x8000 = 0
    · rw [trackSequence_forward first clear]
      exact trackSequence_forward (b := b.prepend given) first clear arrivalTime
    · rw [trackSequence_late first clear]
      refine (trackSequence_late (b := b.prepend given) first clear arrivalTime).trans ?_
      by_cases late : b.nack ∧ 0 < distance sn b.maxSeqNo &&& 0x8000
      · rw [if_pos late]
        exact if_pos late
      · rw [if_neg late]
        exact if_neg late

theorem storePacket_prepend (given : List ExtPacket) (b : Buffer) (pkt : Bytes) (sn : UInt16) :
    (b.prepend given).storePacket crates pkt sn =
      (b.storePacket crates pkt sn).map fun done => (done.1.prepend given, done.2) := by
  unfold storePacket
  cases had : b.bucket with
  | none => simp only [prepend, had, Option.map_some]
  | some bucket =>
      cases added : bucket.addPacket pkt sn (sn == b.maxSeqNo) with
      | none => simp [prepend, had, added]
      | some one =>
          obtain ⟨bucket', answer⟩ := one
          cases answer with
          | error err => simp [prepend, had, added]
          | ok data => cases parsed : crates.unmarshal data <;> simp [prepend, had, added, parsed]

theorem noteTimestamp_prepend (given : List ExtPacket) (b : Buffer) (timestamp : UInt32) (arrivalTime : Int) :
    (b.prepend given).noteTimestamp timestamp arrivalTime =
      (b.noteTimestamp timestamp arrivalTime).prepend given := by
  unfold noteTimestamp
  rw [apply_ite (prepend given)]
  rfl

theorem probe_prepend (given : List ExtPacket) (b : Buffer) (sn : UInt16) (ep : ExtPacket) :
    (b.prepend given).probe sn ep = (b.probe sn ep).prepend given := by
  unfold probe
  rw [apply_ite (prepend given)]
  rfl

theorem buildNackPacket_prepend (given : List ExtPacket) (b : Buffer) :
    (b.prepend given).buildNackPacket = (b.buildNackPacket.1.prepend given, b.buildNackPacket.2) := by
  unfold buildNackPacket
  cases had : b.nacker <;> simp only [prepend, had]

theorem reportBitrate_prepend (given : List ExtPacket) (b : Buffer) (arrivalTime diff : Int) :
    (b.prepend given).reportBitrate arrivalTime diff = (b.reportBitrate arrivalTime diff).prepend given := by
  unfold reportBitrate
  rw [apply_ite (prepend given)]
  rfl

theorem finish_prepend (given : List ExtPacket) (b : Buffer) (sn : UInt16) (ep : ExtPacket) (arrivalTime : Int) :
    (b.prepend given).finish crates sn ep arrivalTime =
      ((b.finish crates sn ep arrivalTime).1.prepend given, (b.finish crates sn ep arrivalTime).2) := by
  unfold finish
  simp only [probe_prepend]
  have listed (probed : Buffer) :
      { probed.prepend given with extPackets := (probed.prepend given).extPackets ++ [ep] } =
        ({ probed with extPackets := probed.extPackets ++ [ep] } : Buffer).prepend given := by
    simp only [prepend, List.append_assoc]
  simp only [listed, noteTimestamp_prepend, buildNackPacket_prepend, reportBitrate_prepend]
  rfl

theorem countPacket_prepend (given : List ExtPacket) (b : Buffer) (len : Nat) :
    (b.prepend given).countPacket len = (b.countPacket len).prepend given := rfl

theorem inspectPayload_prepend (given : List ExtPacket) (b : Buffer) (ep : ExtPacket) :
    (b.prepend given).inspectPayload ep = b.inspectPayload ep := rfl

theorem calc_prepend (given : List ExtPacket) (b : Buffer) (pkt : Bytes) (arrivalTime : Int) :
    (b.prepend given).calc crates pkt arrivalTime =
      (b.calc crates pkt arrivalTime).map fun c => { c with buffer := c.buffer.prepend given } := by
  unfold Buffer.calc
  cases read : ByteStore.u16At pkt 2 with
  | none => rfl
  | some sn =>
      simp only [Option.bind_eq_bind, Option.bind_some, trackSequence_prepend, storePacket_prepend]
      cases stored : (b.trackSequence sn arrivalTime).1.storePacket crates pkt sn with
      | none => rfl
      | some done =>
          obtain ⟨after, answer⟩ := done
          cases answer with
          | error exit => rfl
          | ok packet =>
              simp only [Option.map_some, Option.bind_some, countPacket_prepend, inspectPayload_prepend]
              rw [Option.map_bind]
              congr 1
              funext inspected
              cases inspected with
              | error err => rfl
              | ok ep => simp [finish_prepend]
/-- One packet taken in, with the time it is taken in at. -/
def takeIn (crates : RtpCrates) (b : Buffer) (one : Bytes × Int) : Option Buffer :=
  (b.calc crates one.1 one.2).map Calc.buffer

/-- What was read on does not matter to what is taken in. -/
theorem takeIn_prepend {one : Bytes × Int} (h : b.takeIn crates one = some b') (given : List ExtPacket) :
    (b.prepend given).takeIn crates one = some (b'.prepend given) := by
  obtain ⟨c, calculated, rfl⟩ := Option.map_eq_some_iff.mp h
  refine Option.map_eq_some_iff.mpr ⟨{ c with buffer := c.buffer.prepend given }, ?_, rfl⟩
  rw [calc_prepend, calculated]
  rfl

theorem run_takeIn_settings {packets : List (Bytes × Int)} (h : run (takeIn crates) b packets = some b') :
    b'.settings = b.settings := by
  refine run_preserves (fun s => s.settings = b.settings) ?_ rfl h
  intro s one s' same taken
  obtain ⟨c, calculated, rfl⟩ := Option.map_eq_some_iff.mp taken
  exact (calc_settings calculated).trans same

end Buffer

def AddReceiverPoint.buffer : AddReceiverPoint → Option Nat
  | .entered => none
  | .feedback b | .audioLevel b | .responder b | .newResponder b | .transportWideCc b => some b
  | .rtcpReader b | .receivers b => some b
  | .upTrack b _ _ | .switching b _ _ | .binding b _ _ | .returned b _ _ | .panicked b _ _ => some b

/-- The buffer of the track before it is bound. -/
def UpTrack.prepared (t : UpTrack) (callback handlers : Bool) : Buffer :=
  { Buffer.new t.ssrc with
    onFeedbackCallback := callback
    onTransportWideCc := handlers && decide (t.kind = .video)
    onAudioLevel := handlers && decide (t.kind = .audio) }

namespace RouterReceivers
variable {crates : RtpCrates} {maxBandwidth : UInt64} {g g' : RouterReceivers} {t : UpTrack}
  {point point' : AddReceiverPoint} {b k : Nat}

def ssrcs (g : RouterReceivers) : List UInt32 := g.buffers.map Buffer.mediaSsrc

theorem Resumes.interns_ssrc (h : Resumes crates maxBandwidth g t point g' point') :
    ∃ made, Interns g.ssrcs t.ssrc point.buffer g'.ssrcs point'.buffer made := by
  have still (place : point'.buffer = point.buffer) (ssrcs : g'.ssrcs = g.ssrcs) :
      ∃ made, Interns g.ssrcs t.ssrc point.buffer g'.ssrcs point'.buffer made := by
    rw [ssrcs, place]
    exact ⟨false, .still _⟩
  cases h with
  | entered =>
      have named : (Buffer.new t.ssrc).mediaSsrc = t.ssrc := rfl
      exact ⟨_, intern_interns Buffer.mediaSsrc named g.buffers⟩
  | feedback found =>
      refine still ?_ (map_set_same found rfl)
      cases t.kind <;> rfl
  | audioLevel found => exact still rfl (map_set_same found rfl)
  | shared => exact still rfl rfl
  | missing => exact still rfl rfl
  | newResponder => exact still rfl rfl
  | transportWideCc found => exact still rfl (map_set_same found rfl)
  | rtcpReader => exact still rfl rfl
  | receivers => exact still rfl rfl
  | simulcast => exact still rfl rfl
  | upTrack => exact still rfl rfl
  | noCodec => exact still rfl rfl
  | binding found binds => exact still rfl (map_set_same found (congrArg Prod.fst (Buffer.bind_settings binds)))

/-- Nothing about buffer `b` is different. -/
structure SameAt (g g' : RouterReceivers) (b : Nat) : Prop where
  buffer : g'.buffers[b]? = g.buffers[b]?
  loops : g'.readLoops.count b = g.readLoops.count b
  reads : g'.readsOf b = g.readsOf b
  forwarded : g'.forwardedOf b = g.forwardedOf b

/-- A call leaves the buffers alone that are not its own. -/
theorem Resumes.elsewhere (h : Resumes crates maxBandwidth g t point g' point') (other : point'.buffer ≠ some b)
    (there : b < g.buffers.length) : SameAt g g' b := by
  have set {i : Nat} {buffer changed : Buffer} (found : g.buffers[i]? = some buffer) (differ : some i ≠ some b) :
      (g.buffers.set i changed)[b]? = g.buffers[b]? := by
    rw [lookup_set found, if_neg (fun same => differ (congrArg some same))]
  cases h with
  | entered =>
      refine ⟨?_, rfl, rfl, rfl⟩
      have old := List.getElem?_eq_getElem there
      exact (intern_lookup_old old).trans old.symm
  | feedback found =>
      refine ⟨set found ?_, rfl, rfl, rfl⟩
      cases kind : t.kind <;> rw [kind] at other <;> exact other
  | audioLevel found => exact ⟨set found other, rfl, rfl, rfl⟩
  | transportWideCc found => exact ⟨set found other, rfl, rfl, rfl⟩
  | @binding i r publish buffer bound found binds =>
      refine ⟨set found other, ?_, rfl, rfl⟩
      have differ : i ≠ b := fun same => other (congrArg some same)
      simp only [List.count_append, List.count_cons_of_ne differ, List.count_nil, Nat.add_zero]
  | _ => exact ⟨rfl, rfl, rfl, rfl⟩

/-- A buffer that nothing is read for. -/
structure Idle (g : RouterReceivers) (b : Nat) (buffer : Buffer) : Prop where
  buffer : g.buffers[b]? = some buffer
  loops : g.readLoops.count b = 0
  reads : g.readsOf b = []
  forwarded : g.forwardedOf b = []

/-- A buffer that has taken in all that was read for it since it was bound, and has ready what of
it was not read on. -/
structure Receives (crates : RtpCrates) (maxBandwidth : UInt64) (g : RouterReceivers) (t : UpTrack) (b : Nat) :
    Prop where
  buffer : ∃ opened buffer, (t.prepared true true).bind crates t.parameters maxBandwidth = some opened ∧
    g.buffers[b]? = some buffer ∧
    run (Buffer.takeIn crates) opened (g.readsOf b) = some (buffer.prepend (g.forwardedOf b))
  loops : g.readLoops.count b = 1

/-- What the call for the track has made of its buffer. -/
def Life (crates : RtpCrates) (maxBandwidth : UInt64) (g : RouterReceivers) (t : UpTrack) : AddReceiverPoint → Prop
  | .entered => True
  | .feedback b => Idle g b (t.prepared false false)
  | .audioLevel b => t.kind = .audio ∧ Idle g b (t.prepared true false)
  | .responder b | .newResponder b | .transportWideCc b => t.kind = .video ∧ Idle g b (t.prepared true false)
  | .rtcpReader b | .receivers b | .upTrack b _ _ | .switching b _ _ | .binding b _ _ | .panicked b _ _ =>
      Idle g b (t.prepared true true)
  | .returned b _ _ => Receives crates maxBandwidth g t b

theorem Idle.same {buffer : Buffer} (idle : Idle g b buffer) (same : SameAt g g' b) : Idle g' b buffer :=
  ⟨same.buffer.trans idle.buffer, same.loops.trans idle.loops, same.reads.trans idle.reads,
    same.forwarded.trans idle.forwarded⟩

theorem Receives.same (receives : Receives crates maxBandwidth g t b) (same : SameAt g g' b) :
    Receives crates maxBandwidth g' t b := by
  obtain ⟨⟨opened, buffer, bound, there, taken⟩, loops⟩ := receives
  rw [← same.buffer] at there
  rw [← same.reads, ← same.forwarded] at taken
  exact ⟨⟨opened, buffer, bound, there, taken⟩, same.loops.trans loops⟩

theorem Life.same (life : Life crates maxBandwidth g t point) (same : ∀ b, point.buffer = some b → SameAt g g' b) :
    Life crates maxBandwidth g' t point := by
  cases point with
  | entered => trivial
  | feedback b => exact Idle.same life (same b rfl)
  | audioLevel b => exact ⟨life.1, life.2.same (same b rfl)⟩
  | responder b => exact ⟨life.1, life.2.same (same b rfl)⟩
  | newResponder b => exact ⟨life.1, life.2.same (same b rfl)⟩
  | transportWideCc b => exact ⟨life.1, life.2.same (same b rfl)⟩
  | rtcpReader b => exact Idle.same life (same b rfl)
  | receivers b => exact Idle.same life (same b rfl)
  | upTrack b r publish => exact Idle.same life (same b rfl)
  | switching b r publish => exact Idle.same life (same b rfl)
  | binding b r publish => exact Idle.same life (same b rfl)
  | panicked b r publish => exact Idle.same life (same b rfl)
  | returned b r publish => exact Receives.same life (same b rfl)

theorem Idle.set {buffer changed : Buffer} (idle : Idle g b buffer) :
    Idle { g with buffers := g.buffers.set b changed } b changed :=
  ⟨(lookup_set idle.buffer b).trans (if_pos rfl), idle.loops, idle.reads, idle.forwarded⟩

/-- What is read for a buffer is read by a loop of it, which a call has started. -/
structure Looped (g : RouterReceivers) : Prop where
  loops : ∀ b ∈ g.readLoops, ∃ (k : Nat) (t : UpTrack) (r : Nat) (publish : Bool),
    g.calls[k]? = some ⟨t, .returned b r publish⟩
  reads : ∀ one ∈ g.reads, one.1 ∈ g.readLoops

theorem Looped.readsOf_eq_nil (looped : g.Looped) (absent : b ∉ g.readLoops) : g.readsOf b = [] := by
  have none : (g.reads.filter fun one => decide (one.1 = b)) = [] := by
    refine List.filter_eq_nil_iff.mpr ?_
    intro one mem same
    exact absent (of_decide_eq_true same ▸ looped.reads one mem)
  unfold readsOf
  rw [none]
  rfl

theorem Life.resumes (life : Life crates maxBandwidth g t point) (fresh : point = .entered → t.ssrc ∉ g.ssrcs)
    (looped : g.Looped) (inside : ∀ b ∈ g.readLoops, b < g.buffers.length)
    (given : ∀ one ∈ g.forwarded, one.1 < g.buffers.length)
    (h : Resumes crates maxBandwidth g t point g' point') : Life crates maxBandwidth g' t point' := by
  cases h with
  | entered =>
      have made := intern_absent (fresh rfl) (.new t.ssrc)
      rw [made]
      have absent : g.buffers.length ∉ g.readLoops := fun mem => Nat.lt_irrefl _ (inside _ mem)
      have none : (g.forwarded.filter fun one => decide (one.1 = g.buffers.length)) = [] := by
        refine List.filter_eq_nil_iff.mpr ?_
        intro one mem same
        exact Nat.ne_of_lt (given one mem) (of_decide_eq_true same)
      exact ⟨List.getElem?_concat_length, List.count_eq_zero_of_not_mem absent, looped.readsOf_eq_nil absent,
        congrArg (List.map Prod.snd) none⟩
  | feedback found =>
      have idle : Idle g _ (t.prepared false false) := life
      cases idle.buffer.symm.trans found
      cases kind : t.kind with
      | audio => exact ⟨kind, idle.set⟩
      | video => exact ⟨kind, idle.set⟩
      | unspecified =>
          have done : t.prepared true true = { t.prepared false false with onFeedbackCallback := true } := by
            simp [UpTrack.prepared, kind]
          change Idle _ _ _
          rw [done]
          exact idle.set
  | audioLevel found =>
      obtain ⟨kind, idle⟩ := life
      cases idle.buffer.symm.trans found
      have done : t.prepared true true = { t.prepared true false with onAudioLevel := true } := by
        simp [UpTrack.prepared, kind]
      change Idle _ _ _
      rw [done]
      exact idle.set
  | shared => exact life
  | missing => exact life
  | newResponder => exact ⟨life.1, life.2.same ⟨rfl, rfl, rfl, rfl⟩⟩
  | transportWideCc found =>
      obtain ⟨kind, idle⟩ := life
      cases idle.buffer.symm.trans found
      have done : t.prepared true true = { t.prepared true false with onTransportWideCc := true } := by
        simp [UpTrack.prepared, kind]
      change Idle _ _ _
      rw [done]
      exact idle.set
  | rtcpReader => exact Idle.same life ⟨rfl, rfl, rfl, rfl⟩
  | receivers => exact Idle.same life ⟨rfl, rfl, rfl, rfl⟩
  | simulcast => exact Idle.same life ⟨rfl, rfl, rfl, rfl⟩
  | upTrack => exact Idle.same life ⟨rfl, rfl, rfl, rfl⟩
  | noCodec => exact life
  | @binding b r publish buffer bound found binds =>
      have idle : Idle g b (t.prepared true true) := life
      cases idle.buffer.symm.trans found
      refine ⟨⟨bound, bound, binds, (lookup_set found b).trans (if_pos rfl), ?_⟩, ?_⟩
      · change run _ bound (g.readsOf b) = some (bound.prepend (g.forwardedOf b))
        rw [idle.reads, idle.forwarded]
        rfl
      · simp only [List.count_append, List.count_singleton_self, idle.loops]

/-- No other call is for a track of this ssrc. -/
def Alone (calls : List AddReceiver) (k : Nat) (ssrc : UInt32) : Prop :=
  ∀ (j : Nat) (c : AddReceiver), calls[j]? = some c → c.track.ssrc = ssrc → j = k

structure Lives (crates : RtpCrates) (maxBandwidth : UInt64) (g : RouterReceivers) : Prop where
  interned : Interned (fun c : AddReceiver => c.track.ssrc) (fun c => c.point.buffer) g.ssrcs g.calls
  looped : g.Looped
  given : ∀ one ∈ g.forwarded, one.1 < g.buffers.length
  lives : ∀ (k : Nat) (c : AddReceiver), g.calls[k]? = some c → Alone g.calls k c.track.ssrc →
    Life crates maxBandwidth g c.track c.point

theorem Lives.start : Lives crates maxBandwidth {} where
  interned := Interned.start
  looped := by
    constructor
    · intro b mem
      cases mem
    · intro one mem
      cases mem
  given := by
    intro one mem
    cases mem
  lives := by
    intro k c found
    cases found

/-- The buffer of a call has the ssrc of its track. -/
theorem Lives.own (inv : Lives crates maxBandwidth g) {c : AddReceiver} (found : g.calls[k]? = some c)
    (has : c.point.buffer = some b) : b < g.buffers.length ∧ g.ssrcs[b]? = some c.track.ssrc := by
  have there := inv.interned.own k c found b has
  have inside := (List.getElem?_eq_some_iff.mp there).1
  rw [ssrcs, List.length_map] at inside
  exact ⟨inside, there⟩

theorem Lives.inside (inv : Lives crates maxBandwidth g) : ∀ b ∈ g.readLoops, b < g.buffers.length := by
  intro b mem
  obtain ⟨k, t, r, publish, found⟩ := inv.looped.loops b mem
  exact (inv.own found rfl).1

/-- A call that has just begun finds no buffer, unless another track has its ssrc. -/
theorem Lives.fresh (inv : Lives crates maxBandwidth g) (found : g.calls[k]? = some ⟨t, .entered⟩)
    (alone : Alone g.calls k t.ssrc) : t.ssrc ∉ g.ssrcs := by
  intro mem
  obtain ⟨b, there⟩ := List.mem_iff_getElem?.mp mem
  obtain ⟨j, c, other, has⟩ := inv.interned.placed b (List.getElem?_eq_some_iff.mp there).1
  have same := (inv.own other has).2.symm.trans there
  have here := alone j c other (Option.some.inj same)
  subst here
  cases found.symm.trans other
  cases has

theorem Alone.of_set {calls : List AddReceiver} {before : AddReceiverPoint} {j : Nat} {ssrc : UInt32}
    (found : calls[k]? = some ⟨t, before⟩) (alone : Alone (calls.set k ⟨t, point⟩) j ssrc) : Alone calls j ssrc := by
  intro i c there same
  by_cases own : k = i
  · subst own
    cases found.symm.trans there
    exact alone k ⟨t, point⟩ ((lookup_set found k).trans (if_pos rfl)) same
  · exact alone i c (((lookup_set found i).trans (if_neg own)).trans there) same

theorem Looped.resumed {before : AddReceiverPoint} (looped : g.Looped) (found : g.calls[k]? = some ⟨t, before⟩)
    (h : Resumes crates maxBandwidth g t before g' point) : Looped { g' with calls := g.calls.set k ⟨t, point⟩ } := by
  have kept : ∀ b ∈ g.readLoops, ∃ (j : Nat) (t' : UpTrack) (r : Nat) (publish : Bool),
      (g.calls.set k ⟨t, point⟩)[j]? = some ⟨t', .returned b r publish⟩ := by
    intro b mem
    obtain ⟨j, t', r, publish, there⟩ := looped.loops b mem
    refine ⟨j, t', r, publish, (lookup_set found j).trans ?_⟩
    rw [if_neg, there]
    rintro rfl
    cases found.symm.trans there
    cases h
  cases h with
  | @binding b r publish buffer bound there binds =>
      constructor
      · intro b' mem
        rcases List.mem_append.mp mem with old | new
        · exact kept b' old
        · cases List.mem_singleton.mp new
          exact ⟨k, t, r, publish, (lookup_set found k).trans (if_pos rfl)⟩
      · intro one mem
        exact List.mem_append_left _ (looped.reads one mem)
  | _ => exact ⟨kept, looped.reads⟩

theorem Resumes.forwarded (h : Resumes crates maxBandwidth g t point g' point') : g'.forwarded = g.forwarded := by
  cases h <;> rfl

theorem Lives.resumed {before : AddReceiverPoint} (inv : Lives crates maxBandwidth g)
    (found : g.calls[k]? = some ⟨t, before⟩) (h : Resumes crates maxBandwidth g t before g' point) :
    Lives crates maxBandwidth { g' with calls := g.calls.set k ⟨t, point⟩ } := by
  obtain ⟨made, interns⟩ := h.interns_ssrc
  have interned : Interned (fun c : AddReceiver => c.track.ssrc) (fun c => c.point.buffer) g'.ssrcs
      (g.calls.set k ⟨t, point⟩) := inv.interned.set found rfl interns
  have grown : g.buffers.length ≤ g'.buffers.length := by
    have lengths := interns.length_le
    rw [ssrcs, ssrcs, List.length_map, List.length_map] at lengths
    exact lengths
  refine ⟨interned, inv.looped.resumed found h, ?_, ?_⟩
  · intro one mem
    change one ∈ g'.forwarded at mem
    rw [h.forwarded] at mem
    exact Nat.lt_of_lt_of_le (inv.given one mem) grown
  intro j c there alone
  have before_alone : Alone g.calls j c.track.ssrc := Alone.of_set found alone
  rcases lookup_set_cases there with ⟨rfl, rfl⟩ | ⟨other, old⟩
  · have life := inv.lives j ⟨t, before⟩ found before_alone
    have fresh : before = .entered → t.ssrc ∉ g.ssrcs := by
      rintro rfl
      exact inv.fresh found before_alone
    have now : Life crates maxBandwidth g' t point := Life.resumes life fresh inv.looped inv.inside inv.given h
    exact now.same fun b _ => ⟨rfl, rfl, rfl, rfl⟩
  · refine Life.same (inv.lives j c old before_alone) ?_
    intro b has
    obtain ⟨inside, ssrc⟩ := inv.own old has
    have differ : point.buffer ≠ some b := by
      intro same
      have mine := interned.own k ⟨t, point⟩ ((lookup_set found k).trans (if_pos rfl)) b same
      have kept := interns.lookup ssrc
      have ssrc' := Option.some.inj (mine.symm.trans kept)
      exact other (alone k ⟨t, point⟩ ((lookup_set found k).trans (if_pos rfl)) ssrc').symm
    obtain ⟨buffer, loops, reads, forwarded⟩ := h.elsewhere differ inside
    exact ⟨buffer, loops, reads, forwarded⟩

/-- A buffer that was bound and took packets in takes in the next one. -/
theorem Receives.read {clock : ClockReads} {pkt : Bytes} {buffer written : Buffer} {recorded : Option Buffer.Calc}
    (receives : Receives crates maxBandwidth g t b) (found : g.buffers[b]? = some buffer)
    (writes : buffer.write crates clock pkt = some (written, recorded))
    (buffers : g'.buffers = g.buffers.set b written)
    (reads : g'.reads = g.reads ++ [(b, pkt, (clock.subsecNanos : Int))]) (loops : g'.readLoops = g.readLoops)
    (forwarded : g'.forwarded = g.forwarded) : Receives crates maxBandwidth g' t b := by
  obtain ⟨⟨opened, buffer', bound, there, taken⟩, once⟩ := receives
  cases found.symm.trans there
  have is_bound : buffer.bound = true := by
    have kept := congrArg (fun s : UInt32 × Bool × Bool => s.2.1) (Buffer.run_takeIn_settings taken)
    have opens : opened.Opened crates := ⟨_, _, _, _, _, _, bound⟩
    exact kept.trans opens.unread.bound
  unfold Buffer.write at writes
  rw [if_pos is_bound] at writes
  obtain ⟨c, calculated, same⟩ := Option.map_eq_some_iff.mp writes
  cases same
  refine ⟨⟨opened, c.buffer, bound, ?_, ?_⟩, (congrArg (List.count b) loops).trans once⟩
  · rw [buffers, lookup_set found, if_pos rfl]
  · have more : g'.readsOf b = g.readsOf b ++ [(pkt, (clock.subsecNanos : Int))] := by
      simp [readsOf, reads]
    have same : g'.forwardedOf b = g.forwardedOf b := by
      unfold forwardedOf
      rw [forwarded]
    rw [more, same]
    refine run_snoc_eq_some.mpr ⟨_, taken, ?_⟩
    exact Buffer.takeIn_prepend (Option.map_eq_some_iff.mpr ⟨c, calculated, rfl⟩) _

theorem Lives.read {clock : ClockReads} {pkt : Bytes} {buffer written : Buffer} {recorded : Option Buffer.Calc}
    (inv : Lives crates maxBandwidth g) (loop : b ∈ g.readLoops) (found : g.buffers[b]? = some buffer)
    (writes : buffer.write crates clock pkt = some (written, recorded)) (calls : g'.calls = g.calls)
    (buffers : g'.buffers = g.buffers.set b written)
    (reads : g'.reads = g.reads ++ [(b, pkt, (clock.subsecNanos : Int))]) (loops : g'.readLoops = g.readLoops)
    (forwarded : g'.forwarded = g.forwarded) : Lives crates maxBandwidth g' := by
  have ssrcs : g'.ssrcs = g.ssrcs := by
    unfold RouterReceivers.ssrcs
    rw [buffers]
    exact map_set_same found (congrArg Prod.fst (Buffer.write_settings writes))
  constructor
  · rw [ssrcs, calls]
    exact inv.interned
  · constructor
    · rw [loops, calls]
      exact inv.looped.loops
    · rw [loops, reads]
      intro one mem
      rcases List.mem_append.mp mem with old | new
      · exact inv.looped.reads one old
      · cases List.mem_singleton.mp new
        exact loop
  · rw [forwarded, buffers, List.length_set]
    exact inv.given
  · rw [calls]
    intro k c there alone
    have life := inv.lives k c there alone
    by_cases own : c.point.buffer = some b
    · -- only the call that started the loop has this buffer
      obtain ⟨j, t, r, publish, starts⟩ := inv.looped.loops b loop
      have ssrc := (inv.own starts rfl).2.symm.trans (inv.own there own).2
      have same := alone j _ starts (Option.some.inj ssrc)
      subst same
      cases starts.symm.trans there
      exact Receives.read life found writes buffers reads loops forwarded
    · refine life.same ?_
      intro b' has
      have differ : b ≠ b' := fun same => own (same ▸ has)
      refine ⟨?_, congrArg (List.count b') loops, ?_, ?_⟩
      · rw [buffers, lookup_set found, if_neg differ]
      · simp [readsOf, reads, differ]
      · rw [forwardedOf, forwarded, forwardedOf]

/-- A buffer that gives a packet away had taken it in, and gives the one it has had longest. -/
theorem Receives.readExtended {buffer : Buffer} {ep : ExtPacket} {rest : List ExtPacket}
    (receives : Receives crates maxBandwidth g t b) (found : g.buffers[b]? = some buffer)
    (queue : buffer.extPackets = ep :: rest) : Receives crates maxBandwidth
      { g with
        buffers := g.buffers.set b { buffer with extPackets := rest }
        forwarded := g.forwarded ++ [(b, ep)] } t b := by
  obtain ⟨⟨opened, buffer', bound, there, taken⟩, once⟩ := receives
  cases found.symm.trans there
  refine ⟨⟨opened, _, bound, (lookup_set found b).trans (if_pos rfl), ?_⟩, once⟩
  refine taken.trans (congrArg some ?_)
  simp [Buffer.prepend, forwardedOf, queue]

theorem Life.readExtended {buffer : Buffer} {ep : ExtPacket} {rest : List ExtPacket}
    (life : Life crates maxBandwidth g t point) (found : g.buffers[b]? = some buffer)
    (queue : buffer.extPackets = ep :: rest) : Life crates maxBandwidth
      { g with
        buffers := g.buffers.set b { buffer with extPackets := rest }
        forwarded := g.forwarded ++ [(b, ep)] } t point := by
  by_cases own : point.buffer = some b
  · -- a buffer that is not bound yet has no packets
    have idle {callback handlers : Bool} (idle : Idle g b (t.prepared callback handlers)) : False := by
      cases found.symm.trans idle.buffer
      cases queue
    cases point with
    | entered => trivial
    | returned b r publish =>
        cases own
        exact Receives.readExtended life found queue
    | audioLevel b =>
        cases own
        exact (idle life.2).elim
    | responder b =>
        cases own
        exact (idle life.2).elim
    | newResponder b =>
        cases own
        exact (idle life.2).elim
    | transportWideCc b =>
        cases own
        exact (idle life.2).elim
    | _ =>
        cases own
        exact (idle life).elim
  · refine life.same ?_
    intro b' has
    have differ : b ≠ b' := fun same => own (same ▸ has)
    refine ⟨?_, rfl, rfl, ?_⟩
    · exact (lookup_set found b').trans (if_neg differ)
    · simp [forwardedOf, differ]

theorem Lives.readExtended {buffer : Buffer} {ep : ExtPacket} {rest : List ExtPacket}
    (inv : Lives crates maxBandwidth g) (found : g.buffers[b]? = some buffer)
    (queue : buffer.extPackets = ep :: rest) : Lives crates maxBandwidth
      { g with
        buffers := g.buffers.set b { buffer with extPackets := rest }
        forwarded := g.forwarded ++ [(b, ep)] } := by
  have ssrcs : (g.buffers.set b { buffer with extPackets := rest }).map Buffer.mediaSsrc = g.ssrcs :=
    map_set_same found rfl
  refine ⟨?_, ⟨inv.looped.loops, inv.looped.reads⟩, ?_, ?_⟩
  · change Interned _ _ ((g.buffers.set b _).map Buffer.mediaSsrc) _
    rw [ssrcs]
    exact inv.interned
  · intro one mem
    change one.1 < (g.buffers.set b _).length
    rw [List.length_set]
    rcases List.mem_append.mp mem with old | new
    · exact inv.given one old
    · cases List.mem_singleton.mp new
      exact (List.getElem?_eq_some_iff.mp found).1
  · intro k c there alone
    exact (inv.lives k c there alone).readExtended found queue

theorem Lives.step {e : RouterEvent} (inv : Lives crates maxBandwidth g)
    (h : g.step crates maxBandwidth e = some g') : Lives crates maxBandwidth g' := by
  rcases step_cases h with ⟨t, rfl, rfl⟩ | ⟨k, sSsrc, t, before, next, point, rfl, found, resumed, rfl⟩ |
    ⟨i, clock, pkt, b, buffer, written, recorded, rfl, loop, found, writes, rfl⟩ |
    ⟨i, b, buffer, ep, rest, rfl, found, queue, rfl⟩
  · refine ⟨inv.interned.append rfl, ⟨?_, inv.looped.reads⟩, inv.given, ?_⟩
    · intro b mem
      obtain ⟨k, t, r, publish, there⟩ := inv.looped.loops b mem
      exact ⟨k, t, r, publish, lookup_append_old there⟩
    · intro k c there alone
      rcases lookup_append there with old | ⟨-, rfl⟩
      · have life := inv.lives k c old fun j d at_j same => alone j d (lookup_append_old at_j) same
        exact life.same fun b _ => ⟨rfl, rfl, rfl, rfl⟩
      · trivial
  · exact inv.resumed found resumed
  · have same := handle_kept (f := fun g => (g.calls, g.readLoops, g.forwarded)) (fun g e => by cases e <;> rfl) g
      (recorded.elim [] Buffer.Calc.events)
    simp only [Prod.mk.injEq] at same
    obtain ⟨calls, loops, forwarded⟩ := same
    exact inv.read (List.mem_of_getElem? loop) found writes calls rfl rfl loops forwarded
  · exact inv.readExtended found queue

/-- Whatever else comes into the router, the buffer of a track whose ssrc no other track has was
bound for it once, with its handlers set, and has taken in just what was read from the track. What
it accepted was read on from it, or is still there. -/
theorem run_receives {events : List RouterEvent} {r : Nat} {publish : Bool}
    (reached : run (RouterReceivers.step crates maxBandwidth) {} events = some g)
    (found : g.calls[k]? = some ⟨t, .returned b r publish⟩) (alone : Alone g.calls k t.ssrc) :
    g.readLoops.count b = 1 ∧ ∃ opened whole queued, opened.Opened crates ∧
      (t.prepared true true).bind crates t.parameters maxBandwidth = some opened ∧
      run (Buffer.takeIn crates) opened (g.readsOf b) = some whole ∧
      whole.extPackets = g.forwardedOf b ++ queued ∧
      g.buffers[b]? = some { whole with extPackets := queued } := by
  have inv := run_preserves (Lives crates maxBandwidth) (fun g e g' inv h => inv.step h) Lives.start reached
  obtain ⟨⟨opened, buffer, bound, there, taken⟩, once⟩ := inv.lives k _ found alone
  exact ⟨once, opened, _, buffer.extPackets, ⟨_, _, _, _, _, _, bound⟩, bound, taken, rfl, there⟩

def nextTick : ClockReads where
  taken := 5
  read := 12
  ordered := by decide

/-- A microphone read and read on while the call for a camera is under way. -/
def microphoneRead : List RouterEvent :=
  [.addReceiver (sentTrack 7 "microphone" "" .audio "audio/opus"),
    .addReceiver (sentTrack 9 "camera" "" .video "video/VP9")] ++
    List.replicate 7 (.resume 0 0) ++ [.read 0 nextTick (bareArrival 10).pkt] ++ List.replicate 5 (.resume 1 0) ++
      [.read 0 nextTick (bareArrival 11).pkt, .readExtended 0]

theorem run_receives_microphone : ∃ g, run (RouterReceivers.step bareCrates 0) {} microphoneRead = some g ∧
    g.readsOf 0 = [((bareArrival 10).pkt, 7), ((bareArrival 11).pkt, 7)] ∧ (g.forwardedOf 0).length = 1 ∧
    g.readLoops.count 0 = 1 ∧ ∃ opened whole queued, opened.Opened bareCrates ∧
      run (Buffer.takeIn bareCrates) opened (g.readsOf 0) = some whole ∧
      whole.extPackets = g.forwardedOf 0 ++ queued ∧ g.buffers[0]? = some { whole with extPackets := queued } := by
  have computed : (run (RouterReceivers.step bareCrates 0) {} microphoneRead).map
      (fun g => (g.readsOf 0, (g.forwardedOf 0).length, g.calls.map fun c => (c.track.ssrc, c.point))) =
        some ([((bareArrival 10).pkt, 7), ((bareArrival 11).pkt, 7)], 1,
          [(7, .returned 0 0 true), (9, .rtcpReader 1)]) := by decide +kernel
  obtain ⟨g, reached, same⟩ := Option.map_eq_some_iff.mp computed
  simp only [Prod.mk.injEq] at same
  obtain ⟨reads, forwarded, calls⟩ := same
  obtain ⟨c, others, shape, first, rest⟩ := List.map_eq_cons_iff.mp calls
  obtain ⟨ssrc, point⟩ := Prod.mk.inj first
  obtain ⟨t, _⟩ := c
  cases point
  have found : g.calls[0]? = some ⟨t, .returned 0 0 true⟩ := by rw [shape]; rfl
  have alone : Alone g.calls 0 t.ssrc := by
    intro j d at_j same
    have listed := congrArg (fun calls => (calls[j]?).map Prod.fst) calls
    simp only [List.getElem?_map, at_j, Option.map_some] at listed
    match j with
    | 0 => rfl
    | 1 => cases listed.symm.trans (congrArg some (same.trans ssrc))
    | j + 2 => cases listed
  obtain ⟨once, opened, whole, queued, opens, -, taken, split, there⟩ := run_receives reached found alone
  exact ⟨g, reached, reads, forwarded, once, opened, whole, queued, opens, taken, split, there⟩

end RouterReceivers

end Rsfu
