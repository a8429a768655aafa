import Rsfu.GuardedRun
import Rsfu.LayerTurns
import Rsfu.TaskTable

/-! Who gets at the buffers of a receiver. A task that waits for a packet keeps everybody out who
asked for the buffers after it, so a silent track stops the tasks and the calls behind it. What a
layer forwards goes to its down tracks once and in order. -/
namespace Rsfu
open GuardedRun TaskTable TurnQueue

namespace LayerTurns
variable {g g' : LayerTurns} {e : LayerEvent} {k : Nat} {layer : Fin 3}

def Forwards (g : LayerTurns) (k : Nat) (layer : Fin 3) : Prop := g.tasks[k]? = some (.writeRtp layer)

/-- The packets a task has forwarded. -/
def count (g : LayerTurns) (k : Nat) : Nat := g.forwarded.countP fun one => one.task = k

/-- What the task that holds the lock did. -/
inductive Turned (g : LayerTurns) (k : Nat) : LayerTurns → Prop where
  | call (found : g.tasks[k]? = some .call) : Turned g k g.release
  | switching {layer : Fin 3} {buffer : Nat} (found : g.tasks[k]? = some (.addUpTrack layer buffer)) :
      Turned g k { g with
        buffers := Function.update g.buffers layer (some buffer)
        tasks := g.tasks.set k .switching }
  | upTrack {layer : Fin 3} {buffer : Nat} (found : g.tasks[k]? = some (.addUpTrack layer buffer)) :
      Turned g k { g.release with
        buffers := Function.update g.buffers layer (some buffer)
        tasks := g.tasks ++ [.writeRtp layer] }
  | idle {layer : Fin 3} (forwards : g.Forwards k layer) (none : g.buffers layer = none) : Turned g k g.release
  | packet {layer : Fin 3} {buffer : Nat} {pkt : ExtPacket} {later : List ExtPacket} (forwards : g.Forwards k layer)
      (set : g.buffers layer = some buffer) (waiting : g.packets buffer = pkt :: later) :
      Turned g k ({ g with packets := Function.update g.packets buffer later }.forward k layer buffer pkt).release

theorem turn_cases (h : g.turn = some g') : ∃ k rest, g.lock.queue = k :: rest ∧ g.Turned k g' := by
  unfold turn at h
  split at h
  · cases h
  next k rest queue =>
      refine ⟨k, rest, queue, ?_⟩
      split at h
      · cases h
      next found =>
          cases h
          exact .call found
      · cases h
      next layer buffer found =>
          dsimp only at h
          split at h
          · cases h
            exact .switching found
          · cases h
            exact .upTrack found
      next layer found =>
          split at h
          next none =>
              cases h
              exact .idle found none
          next buffer set =>
              split at h
              · cases h
              next pkt later waiting =>
                  cases h
                  exact .packet found set waiting

theorem released {rest : List Nat} (queue : g.lock.queue = k :: rest) :
    g.release.lock = { queue := rest, served := g.lock.served ++ [k] } := by
  unfold release Turns.release
  dsimp only
  rw [queue]

/-- What a step did. -/
inductive Moves (g : LayerTurns) : LayerEvent → LayerTurns → Prop where
  | addUpTrack (layer : Fin 3) (buffer : Nat) :
      Moves g (.addUpTrack layer buffer) (g.request (.addUpTrack layer buffer))
  | call : Moves g .call (g.request .call)
  | ask {k : Nat} {layer : Fin 3} (forwards : g.Forwards k layer) : Moves g (.ask k) { g with lock := g.lock.ask k }
  | arrive (buffer : Nat) (pkt : ExtPacket) : Moves g (.arrive buffer pkt) { g with
      packets := Function.update g.packets buffer (g.packets buffer ++ [pkt])
      arrived := Function.update g.arrived buffer (g.arrived buffer ++ [pkt]) }
  | turn {k : Nat} {rest : List Nat} {g' : LayerTurns} (queue : g.lock.queue = k :: rest) (turned : g.Turned k g') :
      Moves g .turn g'
  | storeDownTrack (layer : Fin 3) (t : Nat) : Moves g (.storeDownTrack layer t) { g with
      downTracks := Function.update g.downTracks layer (g.downTracks layer ++ [t]) }
  | deleteDownTrack (layer : Fin 3) (t : Nat) : Moves g (.deleteDownTrack layer t) { g with
      downTracks := Function.update g.downTracks layer ((g.downTracks layer).erase t) }

theorem step_moves (h : g.step e = some g') : g.Moves e g' := by
  cases e with
  | addUpTrack layer buffer =>
      dsimp only [step] at h
      split at h
      · cases h
      · cases h
        exact .addUpTrack layer buffer
  | call => cases h; exact .call
  | ask k =>
      dsimp only [step] at h
      split at h
      next found =>
          split at h
          · cases h
          · cases h
            exact .ask found
      · cases h
  | arrive buffer pkt => cases h; exact .arrive buffer pkt
  | turn =>
      obtain ⟨k, rest, queue, turned⟩ := turn_cases h
      exact .turn queue turned
  | storeDownTrack layer t => cases h; exact .storeDownTrack layer t
  | deleteDownTrack layer t => cases h; exact .deleteDownTrack layer t

/-- The step asks for the lock, lets go of it or leaves it alone. -/
theorem step_lock (h : g.step e = some g') :
    g'.lock = g.lock ∨ (∃ j, g'.lock = g.lock.ask j) ∨ g'.lock = g.lock.release := by
  cases step_moves h with
  | addUpTrack => exact Or.inr (Or.inl ⟨_, rfl⟩)
  | call => exact Or.inr (Or.inl ⟨_, rfl⟩)
  | ask => exact Or.inr (Or.inl ⟨_, rfl⟩)
  | turn queue turned =>
      cases turned with
      | switching => exact Or.inl rfl
      | _ => exact Or.inr (Or.inr rfl)
  | _ => exact Or.inl rfl

/-- In a run the lock is granted in the order it was asked for. -/
theorem run_follows {events : List LayerEvent} (reached : run step g events = some g') : Follows g.lock g'.lock := by
  refine run_preserves (fun s => Follows g.lock s.lock) ?_ (Follows.refl _) reached
  intro s e s' follows h
  rcases step_lock h with same | ⟨j, asked⟩ | gone
  · exact same ▸ follows
  · exact asked ▸ follows.ask j
  · exact gone ▸ follows.release

/-- A forwarding task is one from its start on. -/
theorem step_forwards (forwards : g.Forwards k layer) (h : g.step e = some g') : g'.Forwards k layer := by
  cases step_moves h with
  | addUpTrack => exact lookup_append_old forwards
  | call => exact lookup_append_old forwards
  | turn queue turned =>
      cases turned with
      | switching found =>
          refine (lookup_set found k).trans ((if_neg ?_).trans forwards)
          rintro rfl
          cases found.symm.trans forwards
      | upTrack => exact lookup_append_old forwards
      | _ => exact forwards
  | _ => exact forwards

theorem run_forwards {events : List LayerEvent} (forwards : g.Forwards k layer)
    (reached : run step g events = some g') : g'.Forwards k layer :=
  run_preserves (fun s => s.Forwards k layer) (fun _ _ _ => step_forwards) forwards reached

/-- Each turn of a forwarding task is a packet: its layer was given a buffer before it started. -/
structure Placed (g : LayerTurns) : Prop where
  users : ∀ k ∈ g.lock.queue ++ g.lock.served, k < g.tasks.length
  forwarders : ∀ one ∈ g.forwarded, one.task < g.tasks.length
  given : ∀ k layer, g.Forwards k layer → (g.buffers layer).isSome = true
  counted : ∀ k layer, g.Forwards k layer → g.lock.served.count k = g.count k

theorem Placed.request (placed : g.Placed) {task : LayerTask} (looks : ∀ layer, task ≠ .writeRtp layer) :
    (g.request task).Placed := by
  have longer : (g.request task).tasks.length = g.tasks.length + 1 := List.length_append
  have old {k : Nat} {layer : Fin 3} (forwards : (g.request task).Forwards k layer) : g.Forwards k layer := by
    rcases lookup_append forwards with found | ⟨-, same⟩
    · exact found
    · exact absurd same.symm (looks layer)
  constructor
  · intro k mem
    rw [longer]
    have mem : k ∈ (g.lock.queue ++ [g.tasks.length]) ++ g.lock.served := mem
    simp only [List.mem_append, List.mem_singleton] at mem
    rcases mem with (waits | rfl) | gone
    · exact Nat.lt_succ_of_lt (placed.users k (List.mem_append_left _ waits))
    · exact Nat.lt_succ_self _
    · exact Nat.lt_succ_of_lt (placed.users k (List.mem_append_right _ gone))
  · intro one mem
    rw [longer]
    exact Nat.lt_succ_of_lt (placed.forwarders one mem)
  · exact fun k layer forwards => placed.given k layer (old forwards)
  · exact fun k layer forwards => placed.counted k layer (old forwards)

theorem Placed.released (placed : g.Placed) {rest : List Nat} (queue : g.lock.queue = k :: rest) {j : Nat}
    (mem : j ∈ g.release.lock.queue ++ g.release.lock.served) : j < g.tasks.length := by
  refine placed.users j ?_
  rw [LayerTurns.released queue] at mem
  rw [queue]
  simp only [List.mem_append, List.mem_cons, List.not_mem_nil, or_false] at mem ⊢
  tauto

theorem served_count {rest : List Nat} (queue : g.lock.queue = k :: rest) {j : Nat} (other : j ≠ k) :
    g.release.lock.served.count j = g.lock.served.count j := by
  rw [LayerTurns.released queue, List.count_append, List.count_singleton, if_neg (by simpa using Ne.symm other),
    Nat.add_zero]

theorem update_given {buffers : Fin 3 → Option Nat} {l : Fin 3} (buffer : Nat)
    (given : l = layer ∨ (buffers l).isSome = true) :
    (Function.update buffers layer (some buffer) l).isSome = true := by
  by_cases own : l = layer
  · subst own
    rw [Function.update_self]
    rfl
  · rw [Function.update_of_ne own]
    exact given.resolve_left own

theorem Placed.turned (placed : g.Placed) {rest : List Nat} (queue : g.lock.queue = k :: rest)
    (turned : g.Turned k g') : g'.Placed := by
  -- a task that does not forward has a turn that is not counted
  have looks {j : Nat} {l : Fin 3} (foreign : ∀ l, ¬ g.Forwards k l) (forwards : g.Forwards j l) :
      g.release.lock.served.count j = g.count j := by
    have other : j ≠ k := by
      rintro rfl
      exact foreign l forwards
    rw [served_count queue other]
    exact placed.counted j l forwards
  cases turned with
  | call found =>
      refine ⟨fun j => placed.released queue, placed.forwarders, placed.given, fun j l forwards => ?_⟩
      exact looks (fun l same => by cases found.symm.trans same) forwards
  | @switching layer buffer found =>
      have old {j : Nat} {l : Fin 3} (forwards : (g.tasks.set k .switching)[j]? = some (.writeRtp l)) :
          g.Forwards j l := by
        rcases lookup_set_cases forwards with ⟨-, same⟩ | ⟨-, found⟩
        · cases same
        · exact found
      have length : (g.tasks.set k .switching).length = g.tasks.length := List.length_set
      refine ⟨fun j mem => ?_, fun one mem => ?_, fun j l forwards => ?_, fun j l forwards => ?_⟩
      · exact Nat.lt_of_lt_of_eq (placed.users j mem) length.symm
      · exact Nat.lt_of_lt_of_eq (placed.forwarders one mem) length.symm
      · exact update_given buffer (Or.inr (placed.given j l (old forwards)))
      · exact placed.counted j l (old forwards)
  | @upTrack layer buffer found =>
      have length : (g.tasks ++ [LayerTask.writeRtp layer]).length = g.tasks.length + 1 := List.length_append
      refine ⟨fun j mem => ?_, fun one mem => ?_, fun j l forwards => ?_, fun j l forwards => ?_⟩
      · exact Nat.lt_of_lt_of_eq (Nat.lt_succ_of_lt (placed.released queue mem)) length.symm
      · exact Nat.lt_of_lt_of_eq (Nat.lt_succ_of_lt (placed.forwarders one mem)) length.symm
      · refine update_given buffer ?_
        rcases lookup_append forwards with old | ⟨-, same⟩
        · exact Or.inr (placed.given j l old)
        · cases same
          exact Or.inl rfl
      · rcases lookup_append forwards with old | ⟨rfl, -⟩
        · exact looks (fun l same => by cases found.symm.trans same) old
        · have unserved : g.tasks.length ∉ g.release.lock.served := by
            intro mem
            exact Nat.lt_irrefl _ (placed.released queue (List.mem_append_right _ mem))
          have unforwarded : g.count g.tasks.length = 0 := by
            refine List.countP_eq_zero.mpr fun one mem same => ?_
            exact Nat.ne_of_lt (placed.forwarders one mem) (of_decide_eq_true same)
          exact (List.count_eq_zero.mpr unserved).trans unforwarded.symm
  | idle forwards none =>
      have given := placed.given _ _ forwards
      rw [none] at given
      cases given
  | @packet layer buffer pkt later forwards set waiting =>
      have fewer : k < g.tasks.length := (List.getElem?_eq_some_iff.mp forwards).1
      refine ⟨fun j => placed.released queue, fun one mem => ?_, placed.given, fun j l there => ?_⟩
      · rcases List.mem_append.mp mem with old | new
        · exact placed.forwarders one old
        · cases List.mem_singleton.mp new
          exact fewer
      · change g.release.lock.served.count j =
          (g.forwarded ++ [ForwardedPacket.mk k layer buffer pkt]).countP fun one => one.task = j
        rw [List.countP_append, List.countP_singleton]
        have before := placed.counted j l there
        unfold LayerTurns.count at before
        by_cases own : j = k
        · subst own
          rw [LayerTurns.released queue, List.count_append, List.count_singleton, before]
          simp
        · rw [served_count queue own, before, if_neg (by simpa using Ne.symm own), Nat.add_zero]

theorem step_placed (placed : g.Placed) (h : g.step e = some g') : g'.Placed := by
  cases step_moves h with
  | addUpTrack => exact placed.request nofun
  | call => exact placed.request nofun
  | ask forwards =>
      refine { placed with users := fun i mem => ?_ }
      rw [Turns.ask] at mem
      simp only [List.mem_append, List.mem_singleton] at mem
      rcases mem with (waits | rfl) | gone
      · exact placed.users i (List.mem_append_left _ waits)
      · exact (List.getElem?_eq_some_iff.mp forwards).1
      · exact placed.users i (List.mem_append_right _ gone)
  | turn queue turned => exact placed.turned queue turned
  | _ => exact { placed with }

theorem reached_placed {isSimulcast : Bool} {events : List LayerEvent}
    (reached : run step { isSimulcast } events = some g) : g.Placed := by
  refine run_preserves Placed (fun _ _ _ => step_placed) ?_ reached
  exact ⟨fun _ => nofun, fun _ => nofun, fun _ _ => nofun, fun _ _ => nofun⟩

/-- A call that waits for the lock behind a forwarding task is served after a packet of that task. -/
theorem call_waits {isSimulcast : Bool} {before events : List LayerEvent}
    (start : run step { isSimulcast } before = some g) (reached : run step g events = some g') {k c : Nat}
    {layer : Fin 3} (forwards : g.Forwards k layer) (waits : Before g.lock.queue k c) (served : c ∉ g'.lock.queue) :
    g.count k < g'.count k := by
  have placed := reached_placed start
  have placed' : g'.Placed := run_preserves Placed (fun _ _ _ => step_placed) placed reached
  obtain ⟨turns, history, mem⟩ := (run_follows reached).overtakes waits served
  rw [← placed.counted k layer forwards, ← placed'.counted k layer (run_forwards forwards reached), history,
    List.count_append]
  exact Nat.lt_add_of_pos_right (List.count_pos_iff.mpr mem)

/-- Without arrivals for its buffer, which is empty, a task forwards nothing. -/
theorem step_silent {buffer : Nat} (forwards : g.Forwards k layer) (set : g.buffers layer = some buffer)
    (empty : g.packets buffer = []) (silent : ∀ pkt, e ≠ .arrive buffer pkt) (h : g.step e = some g') :
    g'.packets buffer = [] ∧ g'.count k = g.count k := by
  cases step_moves h with
  | @turn j rest _ queue turned =>
      cases turned with
      | @packet l other pkt later there set' waiting =>
          have differ : buffer ≠ other := by
            rintro rfl
            cases empty.symm.trans waiting
          have task : j ≠ k := by
            rintro rfl
            cases there.symm.trans forwards
            cases set'.symm.trans set
            exact differ rfl
          refine ⟨(Function.update_of_ne differ _ _).trans empty, ?_⟩
          change (g.forwarded ++ [_]).countP _ = g.forwarded.countP _
          rw [List.countP_append, List.countP_singleton, if_neg (by simpa using task), Nat.add_zero]
      | _ => exact ⟨empty, rfl⟩
  | arrive other pkt =>
      have differ : buffer ≠ other := by
        rintro rfl
        exact silent pkt rfl
      exact ⟨(Function.update_of_ne differ _ _).trans empty, rfl⟩
  | _ => exact ⟨empty, rfl⟩

/-- The layer keeps its buffer, and nothing arrives in it. -/
def Silent (layer : Fin 3) (buffer : Nat) (g : LayerTurns) (e : LayerEvent) : Prop :=
  g.buffers layer = some buffer ∧ ∀ pkt, e ≠ .arrive buffer pkt

theorem run_silent {buffer : Nat} {events : List LayerEvent} (forwards : g.Forwards k layer)
    (empty : g.packets buffer = []) (silent : Guarded step (Silent layer buffer) g events)
    (reached : run step g events = some g') : g'.count k = g.count k := by
  have kept := run_invariant (fun s => s.Forwards k layer ∧ s.packets buffer = [] ∧ s.count k = g.count k) ?_
    ⟨forwards, empty, rfl⟩ silent reached
  · exact kept.2.2
  rintro s e s' ⟨forwards, empty, same⟩ ⟨set, silent⟩ h
  obtain ⟨still, count⟩ := step_silent forwards set empty silent h
  exact ⟨step_forwards forwards h, still, count.trans same⟩

/-- The packets of a layer among those forwarded, in order. -/
def ofLayer (layer : Fin 3) (forwarded : List ForwardedPacket) : List ExtPacket :=
  (forwarded.filter fun one => one.layer = layer).map ForwardedPacket.pkt

/-- The packets of a buffer that were forwarded, in order. -/
def forwardedFrom (g : LayerTurns) (buffer : Nat) : List ExtPacket :=
  (g.forwarded.filter fun one => one.buffer = buffer).map ForwardedPacket.pkt

/-- The packets of a layer that a down track was written, in order. -/
def writesTo (g : LayerTurns) (t : Nat) (layer : Fin 3) : List ExtPacket :=
  (g.writes.filter fun one => one.1 = t ∧ one.2.1 = layer).map fun one => one.2.2

theorem ofLayer_append (layer : Fin 3) (left right : List ForwardedPacket) :
    ofLayer layer (left ++ right) = ofLayer layer left ++ ofLayer layer right := by
  unfold ofLayer
  rw [List.filter_append, List.map_append]

theorem writesTo_forward (g : LayerTurns) (k : Nat) (l : Fin 3) (buffer : Nat) (pkt : ExtPacket) (t : Nat)
    (layer : Fin 3) : (g.forward k l buffer pkt).writesTo t layer =
      g.writesTo t layer ++ if l = layer then List.replicate ((g.downTracks l).count t) pkt else [] := by
  unfold writesTo forward
  rw [List.filter_append, List.map_append, List.filter_map, List.map_map]
  congr 1
  by_cases own : l = layer
  · subst own
    rw [if_pos rfl]
    induction g.downTracks l with
    | nil => rfl
    | cons u rest ih =>
        by_cases here : u = t
        · subst here
          rw [List.filter_cons_of_pos (by simp), List.map_cons, ih, List.count_cons_self]
          rfl
        · rw [List.filter_cons_of_neg (by simpa using here), ih, List.count_cons_of_ne here]
  · rw [if_neg own, List.filter_eq_nil_iff.mpr (fun u _ => by simp [own])]
    rfl

/-- Every packet of a buffer is forwarded once, in the order of arrival, or is still in it. -/
theorem step_in_order (kept : ∀ buffer, g.arrived buffer = g.forwardedFrom buffer ++ g.packets buffer)
    (h : g.step e = some g') (buffer : Nat) :
    g'.arrived buffer = g'.forwardedFrom buffer ++ g'.packets buffer := by
  cases step_moves h with
  | @turn k rest _ queue turned =>
      cases turned with
      | @packet l other pkt later forwards set waiting =>
          change g.arrived buffer = ((g.forwarded ++ [ForwardedPacket.mk k l other pkt]).filter _).map _ ++
            Function.update g.packets other later buffer
          rw [List.filter_append, List.map_append, List.append_assoc, kept buffer]
          refine congrArg (g.forwardedFrom buffer ++ ·) ?_
          by_cases own : buffer = other
          · subst own
            rw [Function.update_self, waiting, List.filter_cons_of_pos (by simp)]
            rfl
          · rw [Function.update_of_ne own, List.filter_cons_of_neg (by simpa using Ne.symm own)]
            rfl
      | _ => exact kept buffer
  | arrive other pkt =>
      change Function.update g.arrived other _ buffer =
        g.forwardedFrom buffer ++ Function.update g.packets other _ buffer
      by_cases own : buffer = other
      · subst own
        rw [Function.update_self, Function.update_self, kept buffer, List.append_assoc]
      · rw [Function.update_of_ne own, Function.update_of_ne own]
        exact kept buffer
  | _ => exact kept buffer

/-- A down track that its layer holds once is written what the layer forwards. -/
theorem step_follows {t : Nat} (once : (g.downTracks layer).count t = 1) (h : g.step e = some g') :
    ∃ new, g'.forwarded = g.forwarded ++ new ∧
      g'.writesTo t layer = g.writesTo t layer ++ ofLayer layer new := by
  have none : ∃ new, g.forwarded = g.forwarded ++ new ∧
      g.writesTo t layer = g.writesTo t layer ++ ofLayer layer new :=
    ⟨[], (List.append_nil _).symm, (List.append_nil _).symm⟩
  cases step_moves h with
  | @turn k rest _ queue turned =>
      cases turned with
      | @packet l buffer pkt later forwards set waiting =>
          refine ⟨[⟨k, l, buffer, pkt⟩], rfl, ?_⟩
          refine (writesTo_forward _ k l buffer pkt t layer).trans (congrArg (g.writesTo t layer ++ ·) ?_)
          by_cases own : l = layer
          · subst own
            rw [if_pos rfl, ofLayer, List.filter_cons_of_pos (by simp)]
            exact congrArg (List.replicate · pkt) once
          · rw [if_neg own, ofLayer, List.filter_cons_of_neg (by simpa using own)]
            rfl
      | _ => exact none
  | _ => exact none

/-- What a layer forwards goes to each of its down tracks, each packet once and in order; what came
into a buffer and was not forwarded is still in it. -/
theorem down_track_follows {isSimulcast : Bool} {before events : List LayerEvent} {t : Nat}
    (start : run step { isSimulcast } before = some g)
    (stored : Guarded step (fun s _ => (s.downTracks layer).count t = 1) g events)
    (reached : run step g events = some g') :
    (∃ new, g'.forwarded = g.forwarded ++ new ∧
        g'.writesTo t layer = g.writesTo t layer ++ ofLayer layer new) ∧
      ∀ buffer, g'.arrived buffer = g'.forwardedFrom buffer ++ g'.packets buffer := by
  constructor
  · refine run_invariant (fun s => ∃ new, s.forwarded = g.forwarded ++ new ∧
      s.writesTo t layer = g.writesTo t layer ++ ofLayer layer new) ?_ ?_ stored reached
    · rintro s e s' ⟨new, forwarded, written⟩ once h
      obtain ⟨more, forwarded', written'⟩ := step_follows once h
      refine ⟨new ++ more, ?_, ?_⟩
      · rw [forwarded', forwarded, List.append_assoc]
      · rw [written', written, ofLayer_append, List.append_assoc]
    · exact ⟨[], (List.append_nil _).symm, (List.append_nil _).symm⟩
  · have kept : ∀ buffer, g.arrived buffer = g.forwardedFrom buffer ++ g.packets buffer :=
      run_preserves (fun s => ∀ buffer, s.arrived buffer = s.forwardedFrom buffer ++ s.packets buffer)
        (fun _ _ _ => step_in_order) (fun _ => rfl) start
    exact run_preserves (fun s => ∀ buffer, s.arrived buffer = s.forwardedFrom buffer ++ s.packets buffer)
      (fun _ _ _ => step_in_order) kept reached

/-- No layer has the buffer, and no `add_up_track` that waits for the lock has it in its hands. -/
structure Replaced (g : LayerTurns) (buffer : Nat) : Prop where
  gone : ∀ layer, g.buffers layer ≠ some buffer
  unasked : ∀ k ∈ g.lock.queue, ∀ layer, g.tasks[k]? ≠ some (.addUpTrack layer buffer)

theorem Replaced.request {buffer : Nat} (replaced : g.Replaced buffer) {task : LayerTask}
    (other : ∀ layer, task ≠ .addUpTrack layer buffer) : (g.request task).Replaced buffer where
  gone := replaced.gone
  unasked k mem layer found := by
    rcases lookup_append found with old | ⟨-, same⟩
    · rcases List.mem_append.mp mem with waits | new
      · exact replaced.unasked k waits layer old
      · rw [List.mem_singleton.mp new] at old
        exact Nat.lt_irrefl _ (List.getElem?_eq_some_iff.mp old).1
    · exact other layer same.symm

theorem mem_queue_of_released {rest : List Nat} (queue : g.lock.queue = k :: rest) {j : Nat}
    (mem : j ∈ g.release.lock.queue) : j ∈ g.lock.queue := by
  rw [LayerTurns.released queue] at mem
  rw [queue]
  exact List.mem_cons_of_mem k mem

/-- Nothing is forwarded from a buffer that was replaced. -/
theorem Replaced.turned {buffer : Nat} (replaced : g.Replaced buffer) {rest : List Nat}
    (queue : g.lock.queue = k :: rest) (turned : g.Turned k g') :
    g'.Replaced buffer ∧ g'.forwardedFrom buffer = g.forwardedFrom buffer := by
  have released : g.release.Replaced buffer :=
    ⟨replaced.gone, fun j mem => replaced.unasked j (mem_queue_of_released queue mem)⟩
  have head : k ∈ g.lock.queue := by
    rw [queue]
    exact List.mem_cons_self
  have update {l : Fin 3} {b : Nat} (found : g.tasks[k]? = some (.addUpTrack l b)) (layer : Fin 3) :
      Function.update g.buffers l (some b) layer ≠ some buffer := by
    by_cases own : layer = l
    · subst own
      rw [Function.update_self]
      rintro same
      cases same
      exact replaced.unasked k head layer found
    · rw [Function.update_of_ne own]
      exact replaced.gone layer
  cases turned with
  | call => exact ⟨released, rfl⟩
  | idle => exact ⟨released, rfl⟩
  | switching found =>
      refine ⟨⟨update found, fun j mem layer there => ?_⟩, rfl⟩
      rcases lookup_set_cases there with ⟨-, same⟩ | ⟨-, old⟩
      · cases same
      · exact replaced.unasked j mem layer old
  | upTrack found =>
      refine ⟨⟨update found, fun j mem layer there => ?_⟩, rfl⟩
      rcases lookup_append there with old | ⟨-, same⟩
      · exact released.unasked j mem layer old
      · cases same
  | @packet l other pkt later forwards set waiting =>
      have differ : other ≠ buffer := by
        rintro rfl
        exact replaced.gone l set
      refine ⟨⟨replaced.gone, released.unasked⟩, ?_⟩
      change ((g.forwarded ++ [ForwardedPacket.mk k l other pkt]).filter _).map _ = _
      rw [List.filter_append, List.map_append, List.filter_cons_of_neg (by simpa using differ)]
      exact List.append_nil _

theorem Replaced.step {buffer : Nat} (replaced : g.Replaced buffer) (other : ∀ l, e ≠ .addUpTrack l buffer)
    (h : g.step e = some g') : g'.Replaced buffer ∧ g'.forwardedFrom buffer = g.forwardedFrom buffer := by
  cases step_moves h with
  | addUpTrack l b =>
      refine ⟨replaced.request ?_, rfl⟩
      rintro l' same
      cases same
      exact other l rfl
  | call => exact ⟨replaced.request nofun, rfl⟩
  | ask forwards =>
      refine ⟨⟨replaced.gone, fun i mem layer there => ?_⟩, rfl⟩
      rcases List.mem_append.mp mem with waits | new
      · exact replaced.unasked i waits layer there
      · rw [List.mem_singleton.mp new] at there
        cases forwards.symm.trans there
  | turn queue turned => exact replaced.turned queue turned
  | _ => exact ⟨⟨replaced.gone, replaced.unasked⟩, rfl⟩

def headPacket : ExtPacket where
  head := true
  cycle := 0
  arrival := 0
  packet := {}

/-- A track with buffer 7 and a down track, its forwarding task, a call and a second track behind. -/
def oneTrack : List LayerEvent := [.addUpTrack 0 7, .turn, .storeDownTrack 0 5, .ask 1, .call, .addUpTrack 0 8]

/-- A packet comes, the task forwards it, and the call has the lock. -/
def onePacket : List LayerEvent := [.arrive 7 headPacket, .turn, .turn]

theorem call_waits_packet : ∃ g g', run step { isSimulcast := false } oneTrack = some g ∧
    run step g onePacket = some g' ∧ 2 ∉ g'.lock.queue ∧ g.count 1 < g'.count 1 := by
  have ends : ∃ g g', run step { isSimulcast := false } oneTrack = some g ∧ run step g onePacket = some g' ∧
      g.Forwards 1 0 ∧ g.lock.queue = [1, 2, 3] ∧ g'.lock.queue = [3] := ⟨_, _, rfl, rfl, rfl, rfl, rfl⟩
  obtain ⟨g, g', start, reached, forwards, waiting, left⟩ := ends
  have waits : Before g.lock.queue 1 2 := ⟨[1], [2, 3], waiting, by decide, by decide⟩
  have served : 2 ∉ g'.lock.queue := by
    rw [left]
    decide
  exact ⟨g, g', start, reached, served, call_waits start reached forwards waits served⟩

/-- The second track's buffer gets a packet, and nobody its turn. -/
def otherPackets : List LayerEvent := [.arrive 8 headPacket, .call]

theorem down_track_follows_packet : ∃ g g', run step { isSimulcast := false } oneTrack = some g ∧
    run step g onePacket = some g' ∧ g'.writesTo 5 0 ≠ [] ∧
    (∃ new, g'.forwarded = g.forwarded ++ new ∧ g'.writesTo 5 0 = g.writesTo 5 0 ++ ofLayer 0 new) ∧
      ∀ buffer, g'.arrived buffer = g'.forwardedFrom buffer ++ g'.packets buffer := by
  have ends : ∃ g g', run step { isSimulcast := false } oneTrack = some g ∧ run step g onePacket = some g' ∧
      Guarded step (fun s _ => (s.downTracks 0).count 5 = 1) g onePacket ∧ g'.writesTo 5 0 ≠ [] := by
    refine ⟨_, _, rfl, rfl, of_decide_eq_true rfl, ?_⟩
    exact List.cons_ne_nil _ _
  obtain ⟨g, g', start, reached, stored, written⟩ := ends
  exact ⟨g, g', start, reached, written, down_track_follows start stored reached⟩

/-- The second track has its turn after a packet of the first. -/
def secondTrack : List LayerEvent := oneTrack ++ [.arrive 7 headPacket, .turn, .turn, .turn]

/-- Both tracks get a packet, and the first task forwards the one of the second. -/
def bothArrive : List LayerEvent := [.arrive 7 headPacket, .arrive 8 headPacket, .ask 1, .turn]

end LayerTurns

end Rsfu
