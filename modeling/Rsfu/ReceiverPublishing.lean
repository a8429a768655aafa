import Rsfu.RouterReceivers

/-! Receivers are published once. Every call that comes to the list of receivers finds the
receiver of its track's id or makes it, and the one that makes it is told to publish it. A
simulcast track keeps the list for itself. -/
namespace Rsfu
open GuardedRun TaskTable Interning

def AddReceiverPoint.receiver : AddReceiverPoint → Option Nat
  | .upTrack _ r _ | .switching _ r _ | .binding _ r _ | .returned _ r _ | .panicked _ r _ => some r
  | _ => none

def AddReceiverPoint.publish : AddReceiverPoint → Bool
  | .upTrack _ _ publish | .switching _ _ publish | .binding _ _ publish => publish
  | .returned _ _ publish | .panicked _ _ publish => publish
  | _ => false

theorem AddReceiverPoint.publish_receiver {point : AddReceiverPoint} (none : point.receiver = none) :
    point.publish = false := by
  cases point <;> first | rfl | cases none

namespace RouterReceivers
variable {crates : RtpCrates} {maxBandwidth : UInt64} {g g' : RouterReceivers}

def ids (g : RouterReceivers) : List String := g.receivers.map RouterReceiver.trackId

/-- A call comes to its receiver at one step, and learns there whether it has to publish it. -/
theorem Resumes.interns {t : UpTrack} {point point' : AddReceiverPoint}
    (h : Resumes crates maxBandwidth g t point g' point') :
    ∃ made, Interns g.ids t.id point.receiver g'.ids point'.receiver made ∧
      point'.publish = (point.publish || made) := by
  have still (receiver : point'.receiver = point.receiver) (publish : point'.publish = point.publish)
      (ids : g'.ids = g.ids) : ∃ made, Interns g.ids t.id point.receiver g'.ids point'.receiver made ∧
        point'.publish = (point.publish || made) := by
    rw [ids, receiver, publish]
    exact ⟨false, .still _, (Bool.or_false _).symm⟩
  cases h with
  | entered => exact still rfl rfl rfl
  | feedback =>
      refine still ?_ ?_ rfl
      · cases t.kind <;> rfl
      · cases t.kind <;> rfl
  | audioLevel => exact still rfl rfl rfl
  | shared => exact still rfl rfl rfl
  | missing => exact still rfl rfl rfl
  | newResponder => exact still rfl rfl rfl
  | transportWideCc => exact still rfl rfl rfl
  | rtcpReader => exact still rfl rfl rfl
  | receivers free =>
      have named : (RouterReceiver.new t).trackId = t.id := rfl
      exact ⟨_, intern_interns RouterReceiver.trackId named g.receivers, (Bool.false_or _).symm⟩
  | simulcast there => exact still rfl rfl (map_set_same there rfl)
  | upTrack there => exact still rfl rfl (map_set_same there rfl)
  | noCodec => exact still rfl rfl rfl
  | binding => exact still rfl rfl rfl

/-- The call has the receiver and was told to publish it. -/
def Publishes (g : RouterReceivers) (k r : Nat) : Prop :=
  Makes (fun c : AddReceiver => c.point.receiver) (fun c => c.point.publish) g.calls k r

structure Registered (g : RouterReceivers) : Prop where
  interned : Interned (fun c : AddReceiver => c.track.id) (fun c => c.point.receiver) g.ids g.calls
  once : MadeOnce (fun c : AddReceiver => c.point.receiver) (fun c => c.point.publish) g.ids.length g.calls

theorem Registered.step {e : RouterEvent} (inv : g.Registered) (h : g.step crates maxBandwidth e = some g') :
    g'.Registered := by
  rcases step_cases h with ⟨t, rfl, rfl⟩ | ⟨k, sSsrc, t, before, next, point, rfl, found, resumed, rfl⟩ |
    ⟨i, clock, pkt, b, buffer, written, recorded, rfl, -, -, -, rfl⟩ | ⟨i, b, buffer, ep, rest, rfl, -, -, rfl⟩
  · exact ⟨inv.interned.append rfl, inv.once.append rfl⟩
  · obtain ⟨made, interns, told⟩ := resumed.interns
    refine ⟨inv.interned.set found rfl interns, inv.once.set inv.interned found interns told ?_⟩
    exact AddReceiverPoint.publish_receiver
  · have same := handle_kept (f := fun g => (g.ids, g.calls)) (fun g e => by cases e <;> rfl) g
      (recorded.elim [] Buffer.Calc.events)
    obtain ⟨ids, calls⟩ := Prod.mk.inj same
    have interned := inv.interned
    have once := inv.once
    rw [← ids, ← calls] at interned once
    exact ⟨interned, once⟩
  · exact ⟨inv.interned, inv.once⟩

/-- However the calls interleave, tracks of one id get one receiver, and one call publishes it. -/
theorem run_publishes {events : List RouterEvent}
    (reached : run (RouterReceivers.step crates maxBandwidth) {} events = some g) :
    g.ids.Nodup ∧
      (∀ (k : Nat) (c : AddReceiver) (r : Nat), g.calls[k]? = some c → c.point.receiver = some r →
        g.ids[r]? = some c.track.id) ∧
      ∀ r < g.ids.length, ∃ k, g.Publishes k r ∧ ∀ j, g.Publishes j r → j = k := by
  have start : Registered {} := by
    refine ⟨Interned.start, ?_⟩
    intro r among
    cases among
  have inv := run_preserves Registered (fun g e g' inv h => inv.step h) start reached
  exact ⟨inv.interned.nodup, fun k c r found has => inv.interned.own k c found r has, inv.once⟩

/-- Two tracks of one id, the second on its way to the list while the first holds it. -/
def twoTracks : List RouterEvent :=
  [.addReceiver (sentTrack 7 "screen" "" .video "video/VP9"),
    .addReceiver (sentTrack 9 "screen" "" .audio "audio/opus")] ++
    List.replicate 7 (.resume 0 0) ++ List.replicate 4 (.resume 1 0) ++ List.replicate 2 (.resume 0 0) ++
      List.replicate 3 (.resume 1 0)

theorem run_publishes_two : ∃ g, run (step bareCrates 0) {} twoTracks = some g ∧ g.ids = ["screen"] ∧
    g.readLoops.length = 2 ∧ ∀ r < g.ids.length, ∃ k, g.Publishes k r ∧ ∀ j, g.Publishes j r → j = k := by
  have computed : (run (step bareCrates 0) {} twoTracks).map (fun g => (g.ids, g.readLoops)) =
      some (["screen"], [0, 1]) := by decide +kernel
  obtain ⟨g, reached, same⟩ := Option.map_eq_some_iff.mp computed
  obtain ⟨ids, loops⟩ := Prod.mk.inj same
  exact ⟨g, reached, ids, by rw [loops]; rfl, (run_publishes reached).2.2⟩

/-- The call has the list in its hands, and its track a simulcast receiver: it will wait for ever. -/
def Waits (g : RouterReceivers) (k r : Nat) : Prop :=
  ∃ c b publish receiver, g.calls[k]? = some c ∧
    (c.point = .upTrack b r publish ∨ c.point = .switching b r publish) ∧
    g.receivers[r]? = some receiver ∧ receiver.isSimulcast = true

structure Halting (g : RouterReceivers) : Prop where
  single : Exclusive (fun c : AddReceiver => c.point.holdsReceivers) g.calls
  waits : ∀ (r : Nat) (receiver : RouterReceiver), g.receivers[r]? = some receiver → receiver.isSimulcast = true →
    ∃ k, g.Waits k r

/-- A receiver keeps its kind. -/
theorem Resumes.receiver {t : UpTrack} {point point' : AddReceiverPoint} {r : Nat} {receiver : RouterReceiver}
    (h : Resumes crates maxBandwidth g t point g' point') (there : g.receivers[r]? = some receiver) :
    ∃ receiver', g'.receivers[r]? = some receiver' ∧ receiver'.isSimulcast = receiver.isSimulcast := by
  have set {r' : Nat} {old changed : RouterReceiver} (at_r' : g.receivers[r']? = some old)
      (kind : changed.isSimulcast = old.isSimulcast) :
      ∃ receiver', (g.receivers.set r' changed)[r]? = some receiver' ∧
        receiver'.isSimulcast = receiver.isSimulcast := by
    rw [lookup_set at_r']
    by_cases own : r' = r
    · subst own
      cases there.symm.trans at_r'
      exact ⟨changed, if_pos rfl, kind⟩
    · exact ⟨receiver, (if_neg own).trans there, rfl⟩
  cases h with
  | receivers free => exact ⟨receiver, intern_lookup_old there, rfl⟩
  | simulcast at_r' kind => exact set at_r' rfl
  | upTrack at_r' kind => exact set at_r' rfl
  | _ => exact ⟨receiver, there, rfl⟩

/-- A receiver that is there was there before, of the same kind, or the call has just come to it. -/
theorem Resumes.receiver_before {t : UpTrack} {point point' : AddReceiverPoint} {r : Nat} {receiver : RouterReceiver}
    (h : Resumes crates maxBandwidth g t point g' point') (there : g'.receivers[r]? = some receiver) :
    (∃ before, g.receivers[r]? = some before ∧ before.isSimulcast = receiver.isSimulcast) ∨
      ∃ b publish, point' = .upTrack b r publish := by
  have set {r' : Nat} {old changed : RouterReceiver} (at_r' : g.receivers[r']? = some old)
      (there : (g.receivers.set r' changed)[r]? = some receiver) (kind : old.isSimulcast = changed.isSimulcast) :
      ∃ before, g.receivers[r]? = some before ∧ before.isSimulcast = receiver.isSimulcast := by
    rcases lookup_set_cases there with ⟨rfl, rfl⟩ | ⟨-, before⟩
    · exact ⟨old, at_r', kind⟩
    · exact ⟨receiver, before, rfl⟩
  cases h with
  | receivers free =>
      rcases intern_lookup there with old | ⟨rfl, rfl⟩
      · exact Or.inl ⟨receiver, old, rfl⟩
      · exact Or.inr ⟨_, _, rfl⟩
  | simulcast at_r' kind => exact Or.inl (set at_r' there rfl)
  | upTrack at_r' kind => exact Or.inl (set at_r' there rfl)
  | _ => exact Or.inl ⟨receiver, there, rfl⟩

/-- Whoever goes on, the call that waits goes on waiting. -/
theorem Waits.resumed {j k r : Nat} {t : UpTrack} {before point : AddReceiverPoint} (waits : g.Waits k r)
    (found : g.calls[j]? = some ⟨t, before⟩) (h : Resumes crates maxBandwidth g t before g' point) :
    Waits { g' with calls := g.calls.set j ⟨t, point⟩ } k r := by
  obtain ⟨c, b, publish, receiver, at_k, here, there, simulcast⟩ := waits
  obtain ⟨receiver', there', kind⟩ := h.receiver there
  rw [← kind] at simulcast
  by_cases own : j = k
  · subst own
    cases found.symm.trans at_k
    have call : (g.calls.set j ⟨t, point⟩)[j]? = some ⟨t, point⟩ := (lookup_set found j).trans (if_pos rfl)
    rcases here with rfl | rfl
    · cases h with
      | simulcast => exact ⟨_, b, publish, receiver', call, Or.inr rfl, there', simulcast⟩
      | upTrack at_r single =>
          cases there.symm.trans at_r
          cases single.symm.trans (kind.symm.trans simulcast)
    · cases h
  · refine ⟨c, b, publish, receiver', ?_, here, there', simulcast⟩
    exact ((lookup_set found k).trans (if_neg own)).trans at_k

/-- A call that takes the list finds it free. -/
theorem Resumes.takes {t : UpTrack} {point point' : AddReceiverPoint}
    (h : Resumes crates maxBandwidth g t point g' point') (holds : point'.holdsReceivers = true) :
    point.holdsReceivers = true ∨ g.receiversLocked = false := by
  cases h with
  | receivers free => exact Or.inr free
  | simulcast => exact Or.inl rfl
  | upTrack => exact Or.inl rfl
  | feedback => cases kind : t.kind <;> rw [kind] at holds <;> cases holds
  | _ => cases holds

theorem locked_of_holds {k : Nat} {c : AddReceiver} (found : g.calls[k]? = some c)
    (holds : c.point.holdsReceivers = true) : g.receiversLocked = true :=
  List.any_eq_true.mpr ⟨c, List.mem_of_getElem? found, holds⟩

theorem Halting.start : Halting {} where
  single := by
    intro j k c d found
    cases found
  waits := by
    intro r receiver found
    cases found

theorem Halting.step {e : RouterEvent} (inv : g.Halting) (h : g.step crates maxBandwidth e = some g') :
    g'.Halting := by
  rcases step_cases h with ⟨t, rfl, rfl⟩ | ⟨k, sSsrc, t, before, next, point, rfl, found, resumed, rfl⟩ |
    ⟨i, clock, pkt, b, buffer, written, recorded, rfl, -, -, -, rfl⟩ | ⟨i, b, buffer, ep, rest, rfl, -, -, rfl⟩
  · constructor
    · exact inv.single.append rfl
    · intro r receiver there simulcast
      obtain ⟨k, waits⟩ := inv.waits r receiver there simulcast
      obtain ⟨c, b, publish, receiver, found, rest⟩ := waits
      exact ⟨k, c, b, publish, receiver, lookup_append_old found, rest⟩
  · constructor
    · refine inv.single.set found ?_
      intro takes
      rcases resumed.takes takes with held | free
      · exact Or.inl held
      · refine Or.inr ?_
        intro c among
        rw [← Bool.not_eq_true]
        exact List.any_eq_false.mp free c among
    · intro r receiver there simulcast
      rcases resumed.receiver_before there with ⟨old, was, kind⟩ | ⟨b, publish, here⟩
      · obtain ⟨k', waits⟩ := inv.waits r old was (kind.trans simulcast)
        exact ⟨k', waits.resumed found resumed⟩
      · exact ⟨k, _, b, publish, receiver, (lookup_set found k).trans (if_pos rfl), Or.inl here, there, simulcast⟩
  · have same := handle_kept (f := fun g => (g.receivers, g.calls)) (fun g e => by cases e <;> rfl) g
      (recorded.elim [] Buffer.Calc.events)
    obtain ⟨receivers, calls⟩ := Prod.mk.inj same
    constructor
    · have single := inv.single
      rw [← calls] at single
      exact single
    · have waits := inv.waits
      unfold Waits at waits
      rw [← calls, ← receivers] at waits
      exact waits
  · exact ⟨inv.single, inv.waits⟩

/-- While a call has the list, nobody else adds a receiver, a reader or a forwarding task. -/
theorem Halting.still {e : RouterEvent} {k : Nat} {c : AddReceiver} (inv : g.Halting) (there : g.calls[k]? = some c)
    (holds : c.point.holdsReceivers = true) (h : g.step crates maxBandwidth e = some g') :
    (g'.calls[k]? = some c ∧ g'.receivers = g.receivers ∧ g'.readLoops = g.readLoops ∧
        g'.writeLoops = g.writeLoops) ∨
      ∃ next point, Resumes crates maxBandwidth g c.track c.point next point ∧
        g' = { next with calls := g.calls.set k ⟨c.track, point⟩ } := by
  rcases step_cases h with ⟨t, rfl, rfl⟩ | ⟨j, sSsrc, t, before, next, point, rfl, found, resumed, rfl⟩ |
    ⟨i, clock, pkt, b, buffer, written, recorded, rfl, -, -, -, rfl⟩ | ⟨i, b, buffer, ep, rest, rfl, -, -, rfl⟩
  · exact Or.inl ⟨lookup_append_old there, rfl, rfl, rfl⟩
  · by_cases own : j = k
    · subst own
      cases found.symm.trans there
      exact Or.inr ⟨next, point, resumed, rfl⟩
    · have outside : before.holdsReceivers = false := by
        rw [← Bool.not_eq_true]
        intro held
        exact own (inv.single j k _ c found there held holds)
      refine Or.inl ⟨((lookup_set found k).trans (if_neg own)).trans there, ?_⟩
      cases resumed with
      | receivers free => cases free.symm.trans (locked_of_holds there holds)
      | simulcast => cases outside
      | upTrack => cases outside
      | noCodec => cases outside
      | binding => cases outside
      | _ => exact ⟨rfl, rfl, rfl⟩
  · have same := handle_kept (f := fun g => (g.calls, g.receivers, g.readLoops, g.writeLoops))
      (fun g e => by cases e <;> rfl) g (recorded.elim [] Buffer.Calc.events)
    simp only [Prod.mk.injEq] at same
    obtain ⟨calls, receivers, readLoops, writeLoops⟩ := same
    exact Or.inl ⟨(congrArg (fun list : List AddReceiver => list[k]?) calls).trans there, receivers, readLoops,
      writeLoops⟩
  · exact Or.inl ⟨there, rfl, rfl, rfl⟩

/-- The call has still to write its layer, or it has written it. -/
def Ends (g s : RouterReceivers) (k r : Nat) (c : AddReceiver) (receiver : RouterReceiver) : Prop :=
  s.calls[k]? = some c ∧ s.receivers = g.receivers ∨
    ∃ b publish, c.point = .upTrack b r publish ∧ s.calls[k]? = some ⟨c.track, .switching b r publish⟩ ∧
      s.receivers = g.receivers.set r (receiver.addUpTrack c.track b)

theorem Ends.step {s s' : RouterReceivers} {e : RouterEvent} {k r b : Nat} {publish : Bool} {c : AddReceiver}
    {receiver : RouterReceiver} (ends : Ends g s k r c receiver) (halting : s.Halting)
    (here : c.point = .upTrack b r publish ∨ c.point = .switching b r publish)
    (there : g.receivers[r]? = some receiver) (simulcast : receiver.isSimulcast = true)
    (h : s.step crates maxBandwidth e = some s') :
    Ends g s' k r c receiver ∧ s'.readLoops = s.readLoops ∧ s'.writeLoops = s.writeLoops := by
  rcases ends with ⟨at_k, same⟩ | ⟨b', publish', was, at_k, written⟩
  · have holds : c.point.holdsReceivers = true := by
      rcases here with here | here <;> rw [here] <;> rfl
    rcases halting.still at_k holds h with ⟨kept, receivers, loops⟩ | ⟨next, point, resumed, rfl⟩
    · exact ⟨Or.inl ⟨kept, receivers.trans same⟩, loops⟩
    · rcases here with here | here
      · rw [here] at resumed
        rw [← same] at there
        cases resumed with
        | simulcast at_r kind =>
            cases at_r.symm.trans there
            refine ⟨Or.inr ⟨b, publish, here, (lookup_set at_k k).trans (if_pos rfl), ?_⟩, rfl, rfl⟩
            exact congrArg (fun list : List RouterReceiver => list.set r (receiver.addUpTrack c.track b)) same
        | upTrack at_r single =>
            cases at_r.symm.trans there
            cases single.symm.trans simulcast
      · rw [here] at resumed
        cases resumed
  · rcases halting.still at_k rfl h with ⟨kept, receivers, loops⟩ | ⟨next, point, resumed, -⟩
    · exact ⟨Or.inr ⟨b', publish', was, kept, receivers.trans written⟩, loops⟩
    · cases resumed

/-- A simulcast track is the last that gets anywhere: from when its receiver is there, whatever else
comes, the track's layer of that receiver is all that is still written of any receiver, and no track
that is not read yet is read or forwarded. -/
theorem simulcast_ends_publishing {events later : List RouterEvent} {receiver : RouterReceiver} {r : Nat}
    (reached : run (RouterReceivers.step crates maxBandwidth) {} events = some g)
    (there : g.receivers[r]? = some receiver) (simulcast : receiver.isSimulcast = true)
    (goes : run (RouterReceivers.step crates maxBandwidth) g later = some g') :
    (g'.receivers = g.receivers ∨ ∃ c ∈ g.calls, ∃ b publish, c.point = .upTrack b r publish ∧
        g'.receivers = g.receivers.set r (receiver.addUpTrack c.track b)) ∧
      g'.readLoops = g.readLoops ∧ g'.writeLoops = g.writeLoops := by
  have halting := run_preserves Halting (fun g e g' inv h => inv.step h) Halting.start reached
  obtain ⟨k, c, b, publish, receiver', at_k, here, at_r, -⟩ := halting.waits r receiver there simulcast
  cases there.symm.trans at_r
  have inv := run_preserves
    (fun s : RouterReceivers => s.Halting ∧ Ends g s k r c receiver ∧ s.readLoops = g.readLoops ∧
      s.writeLoops = g.writeLoops) ?_ ⟨halting, Or.inl ⟨at_k, rfl⟩, rfl, rfl⟩ goes
  · obtain ⟨-, ends, loops⟩ := inv
    refine ⟨ends.imp And.right ?_, loops⟩
    rintro ⟨b', publish', was, -, written⟩
    exact ⟨c, List.mem_of_getElem? at_k, b', publish', was, written⟩
  · rintro s e s' ⟨halting, ends, readLoops, writeLoops⟩ h
    obtain ⟨ends', readLoops', writeLoops'⟩ := ends.step halting here there simulcast h
    exact ⟨halting.step h, ends', readLoops'.trans readLoops, writeLoops'.trans writeLoops⟩

/-- A microphone that is read, and a camera with a layer behind it. -/
def simulcastBehind : List RouterEvent :=
  [.addReceiver (sentTrack 7 "microphone" "" .audio "audio/opus"),
    .addReceiver (sentTrack 9 "camera" "h" .video "video/VP8")] ++
    List.replicate 7 (.resume 0 0) ++ List.replicate 7 (.resume 1 0)

theorem simulcast_ends_publishing_behind : ∃ g, run (step bareCrates 0) {} simulcastBehind = some g ∧
    g.ids = ["microphone", "camera"] ∧
    ∀ later g', run (step bareCrates 0) g later = some g' → g'.readLoops = [0] := by
  have computed : (run (step bareCrates 0) {} simulcastBehind).map
      (fun g => (g.ids, g.readLoops, g.receivers.map RouterReceiver.isSimulcast)) =
        some (["microphone", "camera"], [0], [false, true]) := by decide +kernel
  obtain ⟨g, reached, same⟩ := Option.map_eq_some_iff.mp computed
  simp only [Prod.mk.injEq] at same
  obtain ⟨ids, loops, kinds⟩ := same
  refine ⟨g, reached, ids, ?_⟩
  intro later g' goes
  have simulcast : true ∈ g.receivers.map RouterReceiver.isSimulcast := by simp [kinds]
  obtain ⟨receiver, there, kind⟩ := List.mem_map.mp simulcast
  obtain ⟨r, at_r⟩ := List.mem_iff_getElem?.mp there
  exact (simulcast_ends_publishing reached at_r kind goes).2.1.trans loops

end RouterReceivers

end Rsfu
