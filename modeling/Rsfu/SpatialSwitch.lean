import Rsfu.LayerLists

/-! The spatial switch of a down track. The receiver answers an error also after it has
queued the track, so the target layer is never changed and the track is never busy:
the switch behaves only in runs that queue nothing. -/
namespace Rsfu
open GuardedRun

namespace SimulcastReceiver

def target (g : SimulcastReceiver) (t : Nat) : Option (Fin 3) := g.tracks[t]?.map LayerTrack.targetSpatialLayer

/-- The step queues the track for the layer. -/
def Queues (g g' : SimulcastReceiver) (t : Nat) (layer : Fin 3) : Prop :=
  g'.pendingTracks layer = g.pendingTracks layer ++ [t]

/-- The step changes the target of the track to the layer. -/
def Retargets (g g' : SimulcastReceiver) (t : Nat) (layer : Fin 3) : Prop :=
  g.target t ≠ some layer ∧ g'.target t = some layer

/-- No track is queued twice. -/
def QueuedOnce (g : SimulcastReceiver) : Prop := (g.pendingTracks 0 ++ g.pendingTracks 1 ++ g.pendingTracks 2).Nodup

/-- A request changes the target exactly when it queues the track, and nothing while the
track is queued; a completion finds what it deletes. -/
def Consistent (g : SimulcastReceiver) : LayerStep → SimulcastReceiver → Prop
  | .switchSpatialLayer t target _, g' =>
      (∀ layer, layer? target = some layer → (Queues g g' t layer ↔ Retargets g g' t layer)) ∧
        ((∃ layer, t ∈ g.pendingTracks layer) → g' = g)
  | _, _ => True

def Switches (g : SimulcastReceiver) (s : LayerStep) : Prop :=
  (∀ g', g.step s = some g' → g.Consistent s g' ∧ g'.QueuedOnce) ∧
    ∀ layer, s = .completeSwitch layer → g.switching layer ≠ [] → (g.step s).isSome

/-- The request is not refused: the track is on its target layer and asked for another. -/
def Accepts (g : SimulcastReceiver) (t : Nat) (target : Int) : Prop :=
  ∃ track, g.tracks[t]? = some track ∧ track.currentSpatialLayer = track.targetSpatialLayer ∧
    (track.currentSpatialLayer : Int) ≠ target

/-- A request that is not refused names a layer that is not available. -/
def QueuesNothing (g : SimulcastReceiver) : LayerStep → Prop
  | .switchSpatialLayer t target _ =>
      g.Accepts t target → ∀ layer, layer? target = some layer → g.available layer = false
  | _ => True

/-- Nothing is queued and no switch is under way. -/
structure Quiet (g : SimulcastReceiver) : Prop where
  pending : ∀ layer, g.pending layer = false
  queued : ∀ layer, g.pendingTracks layer = []
  switching : ∀ layer, g.switching layer = []

theorem Quiet.queuedOnce {g : SimulcastReceiver} (quiet : g.Quiet) : g.QueuedOnce := by
  unfold QueuedOnce
  rw [quiet.queued, quiet.queued, quiet.queued]
  exact List.nodup_nil

/-- A request changes nothing, or queues the track for the available layer it names. -/
theorem switchSpatialLayer_cases (g : SimulcastReceiver) (t : Nat) (target : Int) (setAsMax : Bool) :
    let g' := ((g.switchSpatialLayer t target setAsMax).map Prod.fst).getD g
    (g' = g ∧ (g.Accepts t target → ∀ layer, layer? target = some layer → g.available layer = false)) ∨
      ∃ layer, g.Accepts t target ∧ layer? target = some layer ∧ g.available layer = true ∧
        g' = (g.switchDownTrack t layer).1 := by
  rw [switchSpatialLayer_eq]
  cases found : g.tracks[t]? with
  | none =>
      refine Or.inl ⟨rfl, fun accepted => ?_⟩
      obtain ⟨track, present, -⟩ := accepted
      cases found.symm.trans present
  | some track =>
      rw [Option.bind_some]
      split
      next busy =>
          refine Or.inl ⟨rfl, fun accepted => ?_⟩
          obtain ⟨track', present, settled, other⟩ := accepted
          cases found.symm.trans present
          exact (busy.elim (absurd settled) fun same => absurd same other)
      next free =>
          rw [not_or, not_not] at free
          have accepted : g.Accepts t target := ⟨track, found, free⟩
          cases named : layer? target with
          | none => exact Or.inl ⟨rfl, fun _ _ => nofun⟩
          | some layer =>
              cases open_layer : g.available layer with
              | false =>
                  refine Or.inl ⟨?_, fun _ l same => by cases same; exact open_layer⟩
                  simp [switchDownTrack, open_layer]
              | true => exact Or.inr ⟨layer, accepted, rfl, open_layer, rfl⟩

theorem Quiet.unqueued {g : SimulcastReceiver} (quiet : g.Quiet) (t : Nat) (layer : Fin 3) :
    ¬ Queues g g t layer ∧ ¬ Retargets g g t layer ∧ ¬ t ∈ g.pendingTracks layer := by
  refine ⟨fun queues => ?_, fun retargets => retargets.1 retargets.2, fun mem => ?_⟩
  · exact List.cons_ne_nil t [] (List.self_eq_append_right.mp queues)
  · rw [quiet.queued] at mem
    cases mem

/-- A request that queues its track does not change the target. -/
theorem queues_without_retarget {g : SimulcastReceiver} {t : Nat} {layer : Fin 3}
    (available : g.available layer = true) :
    Queues g (g.switchDownTrack t layer).1 t layer ∧ ¬ Retargets g (g.switchDownTrack t layer).1 t layer := by
  constructor
  · simp [Queues, switchDownTrack, available]
  · intro retargets
    have same : (g.switchDownTrack t layer).1.target t = g.target t :=
      congrArg (fun tracks : List LayerTrack => tracks[t]?.map LayerTrack.targetSpatialLayer)
        (switchDownTrack_frame g t layer).2
    exact retargets.1 (same.symm.trans retargets.2)

theorem step_quiet {g g' : SimulcastReceiver} {s : LayerStep} (quiet : g.Quiet) (nothing : g.QueuesNothing s)
    (h : g.step s = some g') : g'.Quiet := by
  cases s with
  | addDownTrack layer => cases h; exact ⟨quiet.pending, quiet.queued, quiet.switching⟩
  | available layers => cases h; exact ⟨quiet.pending, quiet.queued, quiet.switching⟩
  | switchSpatialLayer t target setAsMax =>
      cases h
      rcases switchSpatialLayer_cases g t target setAsMax with ⟨same, -⟩ | ⟨layer, accepted, named, available, -⟩
      · rw [same]
        exact quiet
      · have unavailable := nothing accepted layer named
        rw [available] at unavailable
        cases unavailable
  | keyFrame layer =>
      obtain ⟨⟨waiting, -⟩, -⟩ := Option.ite_none_right_eq_some.mp h
      rw [quiet.pending layer] at waiting
      cases waiting
  | completeSwitch layer => simp [step, completeSwitch, quiet.switching layer] at h
  | writeErrors layer fails =>
      obtain ⟨-, noted⟩ := Option.ite_none_right_eq_some.mp h
      cases noted
      exact ⟨quiet.pending, quiet.queued, quiet.switching⟩
  | removeFailed layer =>
      unfold step removeFailed at h
      dsimp only at h
      split at h
      · cases h
      next t rest work =>
          obtain ⟨after, deleted, rfl⟩ := Option.map_eq_some_iff.mp h
          obtain ⟨dt, -, rfl⟩ := Option.map_eq_some_iff.mp deleted
          exact ⟨quiet.pending, quiet.queued, quiet.switching⟩

theorem switches_iff_queuesNothing {g : SimulcastReceiver} {s : LayerStep} (quiet : g.Quiet) :
    g.Switches s ↔ g.QueuesNothing s := by
  constructor
  · intro switches
    cases s with
    | switchSpatialLayer t target setAsMax =>
        have consistent := (switches.1 _ rfl).1
        rcases switchSpatialLayer_cases g t target setAsMax with ⟨-, nothing⟩ | ⟨layer, -, named, available, queued⟩
        · exact nothing
        · have exact_change := consistent.1 layer named
          rw [queued] at exact_change
          obtain ⟨queues, kept⟩ := queues_without_retarget (t := t) available
          exact absurd (exact_change.mp queues) kept
    | _ => trivial
  · intro nothing
    refine ⟨fun g' moved => ⟨?_, (step_quiet quiet nothing moved).queuedOnce⟩, fun layer _ busy => ?_⟩
    · cases s with
      | switchSpatialLayer t target setAsMax =>
          cases moved
          rcases switchSpatialLayer_cases g t target setAsMax with ⟨same, -⟩ | ⟨layer, accepted, named, available, -⟩
          · rw [Consistent, same]
            refine ⟨fun layer _ => ?_, fun _ => rfl⟩
            obtain ⟨unqueued, kept, -⟩ := quiet.unqueued t layer
            exact iff_of_false unqueued kept
          · have unavailable := nothing accepted layer named
            rw [available] at unavailable
            cases unavailable
      | _ => trivial
    · exact absurd (quiet.switching layer) busy

/-- In a run the switch behaves exactly when no request queues a track. -/
theorem guarded_switches_iff (trackId : String) (steps : List LayerStep) :
    Guarded step Switches { trackId } steps ↔ Guarded step QueuesNothing { trackId } steps :=
  guarded_iff Quiet (fun _ _ => switches_iff_queuesNothing)
    (fun _ _ _ quiet nothing moved => step_quiet quiet nothing moved)
    ⟨fun _ => rfl, fun _ => rfl, fun _ => rfl⟩

/-- A client asks twice for layer 1 before its key frame. -/
def askTwiceSteps : List LayerStep :=
  [.addDownTrack 0, .available fun _ => true, .switchSpatialLayer 0 1 false, .switchSpatialLayer 0 1 false]

/-- The track is queued twice with its target unchanged, and completing the second
switch calls `remove` on an empty list. -/
theorem asked_twice_panics :
    ∃ g g', run step { trackId := "camera" } askTwiceSteps = some g ∧ g.pendingTracks 1 = [0, 0] ∧
      g.target 0 = some 0 ∧ ¬ g.QueuedOnce ∧ run step g [.keyFrame 1, .completeSwitch 1] = some g' ∧
      g'.switching 1 = [(0, 0)] ∧ g'.downTracks 0 = [] ∧ g'.step (.completeSwitch 1) = none ∧
      ¬ g'.Switches (.completeSwitch 1) := by
  refine ⟨_, _, rfl, rfl, rfl, ?_, rfl, rfl, rfl, rfl, fun switches => ?_⟩
  · unfold QueuedOnce
    decide
  · exact absurd (switches.2 1 rfl (List.cons_ne_nil _ _)) (by decide)

end SimulcastReceiver

end Rsfu
