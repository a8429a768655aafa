import Rsfu.TrackReception

/-! The responder of a router. All its video tracks share one, which is pushed each transport-wide
number a buffer announces and never gives one away. Two calls that both find it missing make
one each, and the second replaces the first with all it was pushed. -/
namespace Rsfu
open GuardedRun TaskTable

/-- The transport-wide number an event announces, with its time. -/
def BufferEvent.number : BufferEvent → Option (UInt16 × Int)
  | .transportWideCc sn timeNs _ => some (sn, timeNs)
  | _ => none

namespace Buffer
variable {crates : RtpCrates} {b : Buffer}

theorem extensionEvents_armed {packet : Packet} {arrivalTime : Int} {e : BufferEvent}
    (announced : e ∈ b.extensionEvents crates packet arrivalTime) (numbered : e.number.isSome = true) :
    b.onTransportWideCc = true := by
  unfold extensionEvents at announced
  rcases List.mem_append.mp announced with transport | level
  · split at transport
    · split at transport
      · rename_i armed
        exact armed.2
      · cases transport
    · cases transport
  · split at level
    · split at level
      · cases List.mem_singleton.mp level
        cases numbered
      · cases level
    · cases level

theorem finish_armed {sn : UInt16} {ep : ExtPacket} {arrivalTime : Int} {e : BufferEvent}
    (announced : e ∈ (b.finish crates sn ep arrivalTime).2) (numbered : e.number.isSome = true) :
    b.onTransportWideCc = true := by
  unfold finish at announced
  rcases List.mem_append.mp announced with extension | feedback
  · have armed := extensionEvents_armed extension numbered
    let listed := { b.probe sn ep with extPackets := (b.probe sn ep).extPackets ++ [ep] }
    have kept := (listed.noteTimestamp_settings ep.packet.header.timestamp arrivalTime).trans (probe_settings b sn ep)
    exact (congrArg (fun s : UInt32 × Bool × Bool => s.2.2) kept).symm.trans armed
  · split at feedback
    · cases List.mem_singleton.mp feedback
      cases numbered
    · cases feedback

/-- Only a buffer with the handler announces transport-wide numbers. -/
theorem calc_armed {pkt : Bytes} {arrivalTime : Int} {c : Calc} {e : BufferEvent}
    (h : b.calc crates pkt arrivalTime = some c) (announced : e ∈ c.events) (numbered : e.number.isSome = true) :
    b.onTransportWideCc = true := by
  obtain ⟨sn, -, ends⟩ := calc_ends h
  cases ends with
  | turnedAway store => cases announced
  | badPayload store => cases announced
  | takenIn store headed =>
      have armed := finish_armed announced numbered
      exact (congrArg (fun s : UInt32 × Bool × Bool => s.2.2) (stored_settings store)).symm.trans armed

theorem write_armed {clock : ClockReads} {pkt : Bytes} {written : Buffer} {recorded : Option Calc} {e : BufferEvent}
    (h : b.write crates clock pkt = some (written, recorded)) (announced : e ∈ recorded.elim [] Calc.events)
    (numbered : e.number.isSome = true) : b.onTransportWideCc = true := by
  unfold write at h
  split at h
  · obtain ⟨c, calculated, same⟩ := Option.map_eq_some_iff.mp h
    cases same
    exact calc_armed calculated announced numbered
  · cases h
    cases announced

end Buffer

/-- The call is on its way to make a responder, because it found none. -/
def AddReceiverPoint.makesResponder : AddReceiverPoint → Bool
  | .newResponder _ => true
  | _ => false

def AddReceiverPoint.asksResponder : AddReceiverPoint → Bool
  | .responder _ => true
  | _ => false

def AddReceiverPoint.hasResponder : AddReceiverPoint → Bool
  | .transportWideCc _ => true
  | _ => false

/-- The call is one of a video track, between the two kinds of handlers. -/
def AddReceiverPoint.video : AddReceiverPoint → Bool
  | .responder _ | .newResponder _ | .transportWideCc _ => true
  | _ => false

namespace RouterReceivers
variable {crates : RtpCrates} {maxBandwidth : UInt64} {g g' : RouterReceivers} {t : UpTrack}
  {point point' : AddReceiverPoint} {k : Nat}

/-- What the handlers make of the events of one packet. -/
theorem foldl_handle (g : RouterReceivers) (events : List BufferEvent) :
    (events.foldl handle g).twcc = g.twcc.map (fun r => r.pushAll (events.filterMap BufferEvent.number)) ∧
      (events.foldl handle g).numbers = g.numbers ++ events.filterMap BufferEvent.number ∧
        (events.foldl handle g).lost = g.lost := by
  induction events generalizing g with
  | nil => exact ⟨Option.map_id'.symm, (List.append_nil _).symm, rfl⟩
  | cons e rest ih =>
      obtain ⟨twcc, numbers, lost⟩ := ih (g.handle e)
      rw [List.foldl_cons, twcc, numbers, lost]
      cases e with
      | transportWideCc sn timeNs marker =>
          refine ⟨?_, List.append_assoc .., rfl⟩
          exact Option.map_map ..
      | audioLevel level => exact ⟨rfl, rfl, rfl⟩
      | feedback pkts => exact ⟨rfl, rfl, rfl⟩

/-- The responder was pushed all numbers behind those announced before it was made. -/
def Pushed (g : RouterReceivers) : Prop :=
  ∀ r, g.twcc = some r → ∃ (kept : List (UInt16 × Int)) (k : Nat) (c : AddReceiver) (sSsrc : UInt32),
    g.calls[k]? = some c ∧ c.track.kind = .video ∧ g.numbers = g.lost ++ kept ∧
      r = (Responder.new c.track.ssrc sSsrc).pushAll kept

structure Announces (g : RouterReceivers) : Prop where
  armed : ∀ buffer ∈ g.buffers, buffer.onTransportWideCc = true → g.twcc.isSome = true
  calling : ∀ (k : Nat) (c : AddReceiver), g.calls[k]? = some c → c.point.hasResponder = true → g.twcc.isSome = true
  video : ∀ (k : Nat) (c : AddReceiver), g.calls[k]? = some c → c.point.video = true → c.track.kind = .video
  silent : g.twcc = none → g.numbers = []

theorem Announces.start : Announces {} where
  armed := by
    intro buffer mem
    cases mem
  calling := by
    intro k c found
    cases found
  video := by
    intro k c found
    cases found
  silent := fun _ => rfl

/-- A call is among those of video tracks because it was, or because of its track's kind. -/
theorem Resumes.video (h : Resumes crates maxBandwidth g t point g' point') (now : point'.video = true) :
    point.video = true ∨ t.kind = .video := by
  cases h with
  | feedback found =>
      cases kind : t.kind with
      | video => exact Or.inr rfl
      | audio =>
          rw [kind] at now
          cases now
      | unspecified =>
          rw [kind] at now
          cases now
  | shared => exact Or.inl rfl
  | missing => exact Or.inl rfl
  | newResponder => exact Or.inl rfl
  | _ => cases now

theorem Resumes.hasResponder (h : Resumes crates maxBandwidth g t point g' point')
    (now : point'.hasResponder = true) : g'.twcc.isSome = true := by
  cases h with
  | feedback found =>
      cases kind : t.kind <;> rw [kind] at now <;> cases now
  | shared there => exact there
  | newResponder => rfl
  | _ => cases now

/-- A responder stays, or a call has made one. -/
theorem Resumes.twcc (h : Resumes crates maxBandwidth g t point g' point') :
    g'.numbers = g.numbers ∧
      (g'.twcc = g.twcc ∧ g'.lost = g.lost ∨
        ∃ b sSsrc, point = .newResponder b ∧ g'.twcc = some (.new t.ssrc sSsrc) ∧ g'.lost = g.numbers) := by
  cases h with
  | newResponder sSsrc => exact ⟨rfl, Or.inr ⟨_, sSsrc, rfl, rfl, rfl⟩⟩
  | _ => exact ⟨rfl, Or.inl ⟨rfl, rfl⟩⟩

/-- The handler is there that was, or the call had come past the responder. -/
theorem Resumes.armed {buffer : Buffer} (h : Resumes crates maxBandwidth g t point g' point')
    (mem : buffer ∈ g'.buffers) (on : buffer.onTransportWideCc = true) :
    (∃ old ∈ g.buffers, old.onTransportWideCc = true) ∨ point.hasResponder = true := by
  have set {i : Nat} {old changed : Buffer} (found : g.buffers[i]? = some old)
      (mem : buffer ∈ g.buffers.set i changed) (same : changed.onTransportWideCc = old.onTransportWideCc) :
      ∃ old ∈ g.buffers, old.onTransportWideCc = true := by
    rcases List.mem_or_eq_of_mem_set mem with mem | rfl
    · exact ⟨buffer, mem, on⟩
    · exact ⟨old, List.mem_of_getElem? found, same.symm.trans on⟩
  cases h with
  | entered =>
      obtain ⟨p, at_p⟩ := List.mem_iff_getElem?.mp mem
      rcases Interning.intern_lookup at_p with old | ⟨-, rfl⟩
      · exact Or.inl ⟨buffer, List.mem_of_getElem? old, on⟩
      · cases on
  | feedback found => exact Or.inl (set found mem rfl)
  | audioLevel found => exact Or.inl (set found mem rfl)
  | transportWideCc found => exact Or.inr rfl
  | binding found binds =>
      have kept := congrArg (fun s : UInt32 × Bool × Bool => s.2.2) (Buffer.bind_settings binds)
      exact Or.inl (set found mem kept)
  | _ => exact Or.inl ⟨buffer, mem, on⟩

theorem Announces.resumed {before : AddReceiverPoint} (inv : g.Announces) (found : g.calls[k]? = some ⟨t, before⟩)
    (h : Resumes crates maxBandwidth g t before g' point) :
    Announces { g' with calls := g.calls.set k ⟨t, point⟩ } := by
  obtain ⟨numbers, twcc⟩ := h.twcc
  have stays (there : g.twcc.isSome = true) : g'.twcc.isSome = true := by
    rcases twcc with ⟨same, -⟩ | ⟨b, sSsrc, -, made, -⟩
    · rw [same]
      exact there
    · rw [made]
      rfl
  constructor
  · intro buffer mem on
    rcases h.armed mem on with ⟨old, among, on⟩ | has
    · exact stays (inv.armed old among on)
    · exact stays (inv.calling k _ found has)
  · exact forall_set inv.calling h.hasResponder fun j c _ old has => stays (old has)
  · refine forall_set inv.video ?_ fun j c _ old => old
    intro now
    rcases h.video now with had | kind
    · have old := inv.video k _ found had
      exact old
    · exact kind
  · intro missing
    rcases twcc with ⟨same, -⟩ | ⟨b, sSsrc, -, made, -⟩
    · exact numbers.trans (inv.silent (same.symm.trans missing))
    · cases made.symm.trans missing

/-- What is pushed is announced by a buffer with the handler, so there is a responder for it. -/
theorem Announces.read {b : Nat} {clock : ClockReads} {pkt : Bytes} {buffer written : Buffer}
    {recorded : Option Buffer.Calc} (inv : g.Announces) (found : g.buffers[b]? = some buffer)
    (writes : buffer.write crates clock pkt = some (written, recorded))
    (buffers : g'.buffers = g.buffers.set b written) (calls : g'.calls = g.calls)
    (rest : ∃ numbers, g'.numbers = g.numbers ++ numbers ∧
      g'.twcc = g.twcc.map (fun r => r.pushAll numbers) ∧ (numbers ≠ [] → buffer.onTransportWideCc = true)) :
    g'.Announces := by
  obtain ⟨numbers, now, twcc, announced⟩ := rest
  have among := List.mem_of_getElem? found
  have same : g'.twcc.isSome = g.twcc.isSome := by rw [twcc, Option.isSome_map]
  constructor
  · rw [buffers, same]
    intro other mem on
    rcases List.mem_or_eq_of_mem_set mem with mem | rfl
    · exact inv.armed other mem on
    · have kept := congrArg (fun s : UInt32 × Bool × Bool => s.2.2) (Buffer.write_settings writes)
      exact inv.armed buffer among (kept.symm.trans on)
  · rw [calls, same]
    exact inv.calling
  · rw [calls]
    exact inv.video
  · intro missing
    have absent : g.twcc = none := by
      rw [twcc, Option.map_eq_none_iff] at missing
      exact missing
    have empty : numbers = [] := by
      by_contra several
      have there := inv.armed buffer among (announced several)
      rw [absent] at there
      cases there
    rw [now, empty, inv.silent absent]
    rfl

theorem recorded_numbers {clock : ClockReads} {pkt : Bytes} {buffer written : Buffer}
    {recorded : Option Buffer.Calc} (writes : buffer.write crates clock pkt = some (written, recorded))
    (several : (recorded.elim [] Buffer.Calc.events).filterMap BufferEvent.number ≠ []) :
    buffer.onTransportWideCc = true := by
  obtain ⟨one, mem⟩ := List.exists_mem_of_ne_nil _ several
  obtain ⟨e, announced, numbered⟩ := List.mem_filterMap.mp mem
  exact Buffer.write_armed writes announced (Option.isSome_iff_exists.mpr ⟨one, numbered⟩)

theorem Announces.step {e : RouterEvent} (inv : g.Announces) (h : g.step crates maxBandwidth e = some g') :
    g'.Announces := by
  rcases step_cases h with ⟨t, rfl, rfl⟩ | ⟨k, sSsrc, t, before, next, point, rfl, found, resumed, rfl⟩ |
    ⟨i, clock, pkt, b, buffer, written, recorded, rfl, loop, found, writes, rfl⟩ |
    ⟨i, b, buffer, ep, rest, rfl, found, queue, rfl⟩
  · refine ⟨inv.armed, ?_, ?_, inv.silent⟩
    · exact forall_append inv.calling Bool.noConfusion
    · exact forall_append inv.video Bool.noConfusion
  · exact inv.resumed found resumed
  · obtain ⟨twcc, numbers, -⟩ := foldl_handle g (recorded.elim [] Buffer.Calc.events)
    have calls := handle_kept (f := fun g => g.calls) (fun g e => by cases e <;> rfl) g
      (recorded.elim [] Buffer.Calc.events)
    exact inv.read found writes rfl calls ⟨_, numbers, twcc, recorded_numbers writes⟩
  · refine ⟨?_, inv.calling, inv.video, inv.silent⟩
    intro other mem on
    rcases List.mem_or_eq_of_mem_set mem with old | rfl
    · exact inv.armed other old on
    · exact inv.armed buffer (List.mem_of_getElem? found) on

/-- A step pushes the responder what is announced, or replaces it. -/
theorem Pushed.step {e : RouterEvent} (inv : g.Announces) (pushed : g.Pushed)
    (h : g.step crates maxBandwidth e = some g') :
    g'.Pushed ∧ (g'.lost = g.lost ∨ g'.lost = g.numbers ∧ ∃ c ∈ g.calls, c.point.makesResponder = true) := by
  rcases step_cases h with ⟨t, rfl, rfl⟩ | ⟨k, sSsrc, t, before, next, point, rfl, found, resumed, rfl⟩ |
    ⟨i, clock, pkt, b, buffer, written, recorded, rfl, loop, found, writes, rfl⟩ |
    ⟨i, b, buffer, ep, rest, rfl, found, queue, rfl⟩
  · refine ⟨fun r there => ?_, Or.inl rfl⟩
    obtain ⟨kept, k, c, sSsrc, found, rest⟩ := pushed r there
    exact ⟨kept, k, c, sSsrc, lookup_append_old found, rest⟩
  · obtain ⟨numbers, ⟨same, lost⟩ | ⟨b, sSsrc, rfl, made, lost⟩⟩ := resumed.twcc
    · refine ⟨fun r there => ?_, Or.inl lost⟩
      obtain ⟨kept, j, c, sSsrc, at_j, kind, shape, becomes⟩ := pushed r (same.symm.trans there)
      have shape' : next.numbers = next.lost ++ kept := by rw [numbers, lost, shape]
      by_cases own : k = j
      · subst own
        cases found.symm.trans at_j
        exact ⟨kept, k, ⟨t, point⟩, sSsrc, (lookup_set found k).trans (if_pos rfl), kind, shape', becomes⟩
      · exact ⟨kept, j, c, sSsrc, ((lookup_set found j).trans (if_neg own)).trans at_j, kind, shape', becomes⟩
    · refine ⟨fun r there => ?_, Or.inr ⟨lost, ⟨t, .newResponder b⟩, List.mem_of_getElem? found, rfl⟩⟩
      cases made.symm.trans there
      have kind := inv.video k _ found rfl
      refine ⟨[], k, ⟨t, point⟩, sSsrc, (lookup_set found k).trans (if_pos rfl), kind, ?_, rfl⟩
      rw [List.append_nil]
      exact numbers.trans lost.symm
  · obtain ⟨twcc, numbers, lost⟩ := foldl_handle g (recorded.elim [] Buffer.Calc.events)
    have calls := handle_kept (f := fun g => g.calls) (fun g e => by cases e <;> rfl) g
      (recorded.elim [] Buffer.Calc.events)
    refine ⟨fun r there => ?_, Or.inl lost⟩
    obtain ⟨before, had, rfl⟩ := Option.map_eq_some_iff.mp (twcc.symm.trans there)
    obtain ⟨kept, k, c, sSsrc, at_k, kind, shape, rfl⟩ := pushed before had
    refine ⟨kept ++ (recorded.elim [] Buffer.Calc.events).filterMap BufferEvent.number, k, c, sSsrc,
      (congrArg (fun calls : List AddReceiver => calls[k]?) calls).trans at_k, kind, ?_, ?_⟩
    · dsimp only
      rw [lost, ← List.append_assoc, ← shape]
      exact numbers
    · exact (List.foldl_append ..).symm
  · exact ⟨pushed, Or.inl rfl⟩

/-- No call asks whether there is a responder while another is on its way to make one. -/
def Apart (g : RouterReceivers) : RouterEvent → Prop
  | .resume k _ => (g.calls[k]?.any fun c => c.point.asksResponder) = true →
      (g.calls.any fun c => c.point.makesResponder) = false
  | _ => True

instance : DecidableRel Apart
  | _, .addReceiver _ => isTrue trivial
  | _, .resume _ _ => inferInstanceAs (Decidable (_ → _))
  | _, .read _ _ _ => isTrue trivial
  | _, .readExtended _ => isTrue trivial

theorem Resumes.makesResponder (h : Resumes crates maxBandwidth g t point g' point')
    (now : point'.makesResponder = true) : point.asksResponder = true ∧ g'.twcc = none := by
  cases h with
  | feedback found =>
      cases kind : t.kind <;> rw [kind] at now <;> cases now
  | missing absent => exact ⟨rfl, absent⟩
  | _ => cases now

structure MadeFirst (g : RouterReceivers) : Prop where
  announces : g.Announces
  single : Exclusive (fun c : AddReceiver => c.point.makesResponder) g.calls
  absent : ∀ (k : Nat) (c : AddReceiver), g.calls[k]? = some c → c.point.makesResponder = true → g.twcc = none
  nothing : g.lost = []

theorem MadeFirst.start : MadeFirst {} where
  announces := .start
  single := by
    intro i j t u found
    cases found
  absent := by
    intro k c found
    cases found
  nothing := rfl

theorem MadeFirst.step {e : RouterEvent} (inv : g.MadeFirst) (pushed : g.Pushed) (apart : g.Apart e)
    (h : g.step crates maxBandwidth e = some g') : g'.MadeFirst := by
  have nothing : g'.lost = [] := by
    rcases (pushed.step inv.announces h).2 with same | ⟨all, c, among, makes⟩
    · exact same.trans inv.nothing
    · obtain ⟨k, at_k⟩ := List.mem_iff_getElem?.mp among
      exact all.trans (inv.announces.silent (inv.absent k c at_k makes))
  have announces := inv.announces.step h
  rcases step_cases h with ⟨t, rfl, rfl⟩ | ⟨k, sSsrc, t, before, next, point, rfl, found, resumed, rfl⟩ |
    ⟨i, clock, pkt, b, buffer, written, recorded, rfl, loop, found, writes, rfl⟩ |
    ⟨i, b, buffer, ep, rest, rfl, found, queue, rfl⟩
  · exact ⟨announces, inv.single.append rfl, forall_append inv.absent Bool.noConfusion, nothing⟩
  · refine ⟨announces, inv.single.set found ?_, ?_, nothing⟩
    · intro makes
      have asks := (resumed.makesResponder makes).1
      have nobody := apart (by rw [found]; exact asks)
      refine Or.inr fun c among => ?_
      rw [← Bool.not_eq_true]
      exact List.any_eq_false.mp nobody c among
    · intro j c at_j makes
      rcases lookup_set_cases at_j with ⟨rfl, rfl⟩ | ⟨other, old⟩
      · exact (resumed.makesResponder makes).2
      · rcases resumed.twcc.2 with ⟨same, -⟩ | ⟨b, sSsrc, rfl, -⟩
        · exact same.trans (inv.absent j c old makes)
        · exact absurd (inv.single j k c _ old found makes rfl) other
  · have calls := handle_kept (f := fun g => g.calls) (fun g e => by cases e <;> rfl) g
      (recorded.elim [] Buffer.Calc.events)
    obtain ⟨twcc, -⟩ := foldl_handle g (recorded.elim [] Buffer.Calc.events)
    refine ⟨announces, ?_, ?_, nothing⟩
    · exact calls ▸ inv.single
    · intro k c at_k makes
      have old := (congrArg (fun calls : List AddReceiver => calls[k]?) calls).symm.trans at_k
      exact twcc.trans (by rw [inv.absent k c old makes]; rfl)
  · exact ⟨announces, inv.single, inv.absent, nothing⟩

theorem pushed_start : Pushed {} := by
  intro r there
  cases there

theorem run_pushed {events : List RouterEvent}
    (reached : run (RouterReceivers.step crates maxBandwidth) {} events = some g) : g.Announces ∧ g.Pushed :=
  run_preserves (fun g : RouterReceivers => g.Announces ∧ g.Pushed)
    (fun _ _ _ inv h => ⟨inv.1.step h, (inv.2.step inv.1 h).1⟩) ⟨.start, pushed_start⟩ reached

/-- The responder of a router was pushed every number announced since it was made, in order, and
has them all still. No number is lost in a run in which no two calls make one side by side. -/
theorem run_hoards {events : List RouterEvent}
    (reached : run (RouterReceivers.step crates maxBandwidth) {} events = some g) :
    (g.twcc = none → g.numbers = []) ∧ g.Pushed ∧
      (∀ r, g.twcc = some r → g.lost.length + r.extInfo.length = g.numbers.length) ∧
      (Guarded (RouterReceivers.step crates maxBandwidth) Apart {} events → g.lost = []) := by
  obtain ⟨announces, pushed⟩ := run_pushed reached
  refine ⟨announces.silent, pushed, ?_, fun apart => ?_⟩
  · intro r there
    obtain ⟨kept, k, c, sSsrc, -, -, shape, rfl⟩ := pushed r there
    rw [Responder.pushAll_length, shape, List.length_append]
    exact congrArg _ (Nat.zero_add _)
  · have first := run_invariant (fun g : RouterReceivers => g.MadeFirst ∧ g.Pushed)
      (fun g e g' inv apart h => ⟨inv.1.step inv.2 apart h, (inv.2.step inv.1.announces h).1⟩)
      ⟨.start, pushed_start⟩ apart reached
    exact first.1.nothing

/-- The crates as they answer for packets whose transport-wide number is their own. -/
def numberedCrates : RtpCrates :=
  { bareCrates with
    unmarshal := fun pkt => (bareCrates.unmarshal pkt).map fun packet =>
      let numbered id := if id = 3 then some (ByteStore.beBytes packet.header.sequenceNumber) else none
      { packet with header := { packet.header with getExtension := numbered } } }

def camera (ssrc : UInt32) (id : String) : UpTrack :=
  { sentTrack ssrc id "" .video "video/VP9" with
    parameters := ⟨[(bareCrates.transportCcUri, 3)], [⟨"video/VP9", 90000, "", ["transport-cc"]⟩]⟩ }

/-- Two cameras, the second of which finds the responder of the first. -/
def twoCameras : List RouterEvent :=
  [.addReceiver (camera 7 "front"), .addReceiver (camera 9 "back")] ++ List.replicate 9 (.resume 0 5) ++
    [.read 0 nextTick (bareArrival 10).pkt] ++ List.replicate 8 (.resume 1 6) ++
      [.read 1 nextTick (bareArrival 11).pkt, .read 0 nextTick (bareArrival 12).pkt]

theorem run_hoards_cameras : ∃ g r, run (RouterReceivers.step numberedCrates 0) {} twoCameras = some g ∧
    g.twcc = some r ∧ g.numbers = [(10, 7), (11, 7), (12, 7)] ∧ r.extInfo.length = 3 := by
  have computed : (run (RouterReceivers.step numberedCrates 0) {} twoCameras).map
      (fun g => (g.numbers, g.twcc.isSome)) = some ([(10, 7), (11, 7), (12, 7)], true) := by decide +kernel
  obtain ⟨g, reached, same⟩ := Option.map_eq_some_iff.mp computed
  obtain ⟨numbers, there⟩ := Prod.mk.inj same
  obtain ⟨r, at_r⟩ := Option.isSome_iff_exists.mp there
  have apart : Guarded (RouterReceivers.step numberedCrates 0) Apart {} twoCameras := by decide +kernel
  obtain ⟨-, -, counts, none⟩ := run_hoards reached
  have all := counts r at_r
  rw [none apart, numbers] at all
  exact ⟨g, r, reached, at_r, numbers, by simpa using all⟩

end RouterReceivers

end Rsfu
