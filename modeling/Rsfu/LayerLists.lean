import Rsfu.GuardedRun
import Rsfu.Receiver
import Rsfu.TaskTable
import Mathlib.Data.List.Count

/-! Removals from the layer lists of a receiver. All its down tracks share one id, so a
removal takes the first track of the list: the other tracks keep their places exactly
when the track to remove is that first one. -/
namespace Rsfu
open GuardedRun

namespace SimulcastReceiver

theorem deleteDownTrack_nil {g : SimulcastReceiver} {layer : Fin 3} (empty : g.downTracks layer = []) (t : Nat) :
    g.deleteDownTrack layer (g.id t) = none := by
  simp [deleteDownTrack, empty]

theorem deleteDownTrack_cons {g : SimulcastReceiver} {layer : Fin 3} {first : Nat} {rest : List Nat}
    (list : g.downTracks layer = first :: rest) (t : Nat) :
    g.deleteDownTrack layer (g.id t) = some ((g.close first).setLayer layer rest) := by
  simp [deleteDownTrack, list, id, List.findIdx_cons]

/-- The track a step removes, and the layer it removes it from. -/
def removal (g : SimulcastReceiver) : LayerStep → Option (Fin 3 × Nat)
  | .completeSwitch layer => (g.switching layer).head?
  | .removeFailed layer => (g.failed layer).head?.map fun t => (layer, t)
  | _ => none

/-- Every track but `t` keeps its places, and none of them is closed. -/
def Isolated (t : Nat) (g g' : SimulcastReceiver) : Prop :=
  ∀ u, u ≠ t → (∀ layer, (g'.downTracks layer).count u = (g.downTracks layer).count u) ∧
    g'.tracks[u]?.map LayerTrack.closed = g.tracks[u]?.map LayerTrack.closed

/-- Each track that was not removed is in one list, that of its current layer. -/
def Placed (g : SimulcastReceiver) : Prop :=
  ∀ (t : Nat) (track : LayerTrack), g.tracks[t]? = some track → track.removed = false →
    ∀ layer, (g.downTracks layer).count t = if track.currentSpatialLayer = layer then 1 else 0

/-- A removal goes through and leaves the other tracks alone, and tracks stay placed. -/
def Keeps (g : SimulcastReceiver) (s : LayerStep) : Prop :=
  (∀ layer t, g.removal s = some (layer, t) → ∃ g', g.step s = some g' ∧ Isolated t g g') ∧
    ∀ g', g.step s = some g' → g'.Placed

/-- The track to remove is the first of its list. -/
def Leads (g : SimulcastReceiver) (s : LayerStep) : Prop :=
  ∀ layer t, g.removal s = some (layer, t) → (g.downTracks layer).head? = some t

structure Sorted (g : SimulcastReceiver) : Prop where
  placed : g.Placed
  known : ∀ layer, ∀ t ∈ g.downTracks layer, t < g.tracks.length

theorem count_setLayer (g : SimulcastReceiver) (layer l : Fin 3) (list : List Nat) (u : Nat) :
    ((g.setLayer layer list).downTracks l).count u =
      if l = layer then list.count u else (g.downTracks l).count u := by
  change (Function.update g.downTracks layer list l).count u = _
  rw [Function.update_apply]
  split <;> rfl

theorem count_storeDownTrack (g : SimulcastReceiver) (layer l : Fin 3) (t u : Nat) :
    ((g.storeDownTrack layer t).downTracks l).count u =
      (g.downTracks l).count u + if l = layer ∧ t = u then 1 else 0 := by
  unfold storeDownTrack
  rw [count_setLayer]
  by_cases here : l = layer
  · subst here
    simp [List.count_singleton]
  · simp [here]

theorem tracks_modifyTrack (g : SimulcastReceiver) (t u : Nat) (f : LayerTrack → LayerTrack) :
    (g.modifyTrack t f).tracks[u]? = g.tracks[u]?.map fun track => if t = u then f track else track :=
  List.getElem?_modify f t g.tracks u

@[simp] theorem downTracks_clearPending (g : SimulcastReceiver) (layer : Fin 3) :
    (g.clearPending layer).downTracks = g.downTracks := by
  unfold clearPending
  split <;> rfl

@[simp] theorem tracks_clearPending (g : SimulcastReceiver) (layer : Fin 3) :
    (g.clearPending layer).tracks = g.tracks := by
  unfold clearPending
  split <;> rfl

/-- What a removal of `t` from a list with another or the same first track changes. -/
structure Removes (g g' : SimulcastReceiver) (layer : Fin 3) (first t : Nat) (into : Option (Fin 3)) : Prop where
  count : ∀ l u, (g'.downTracks l).count u + (if l = layer ∧ first = u then 1 else 0) =
    (g.downTracks l).count u + if into = some l ∧ t = u then 1 else 0
  tracks : ∀ u, g'.tracks[u]? = g.tracks[u]?.map fun track : LayerTrack =>
    { track with
      closed := track.closed || first = u
      currentSpatialLayer := if t = u then into.getD track.currentSpatialLayer else track.currentSpatialLayer
      removed := track.removed || (into = none && t = u) }

theorem count_rest {g : SimulcastReceiver} {layer : Fin 3} {first : Nat} {rest : List Nat}
    (list : g.downTracks layer = first :: rest) (l : Fin 3) (u : Nat) :
    ((g.setLayer layer rest).downTracks l).count u + (if l = layer ∧ first = u then 1 else 0) =
      (g.downTracks l).count u := by
  rw [count_setLayer]
  by_cases here : l = layer
  · subst here
    rw [if_pos rfl, list, List.count_cons]
    simp
  · simp [here]

theorem completeSwitch_removes {g : SimulcastReceiver} {layer current : Fin 3} {t first : Nat}
    {switches : List (Fin 3 × Nat)} {rest : List Nat} (work : g.switching layer = (current, t) :: switches)
    (list : g.downTracks current = first :: rest) :
    ∃ g', g.completeSwitch layer = some g' ∧ g.Removes g' current first t (some layer) := by
  refine ⟨_, by simp only [completeSwitch, work, deleteDownTrack_cons list]; rfl, fun l u => ?_, fun u => ?_⟩
  · rw [downTracks_clearPending]
    have stored := count_storeDownTrack ((g.close first).setLayer current rest) layer l t u
    have removed := count_rest (g := g.close first) list l u
    change List.count u ((((g.close first).setLayer current rest).storeDownTrack layer t).downTracks l) + _ = _
    simp only [stored, Option.some.injEq, eq_comm (a := layer)]
    change _ = ((g.close first).downTracks l).count u + _
    omega
  · rw [tracks_clearPending]
    have closed := tracks_modifyTrack g first u fun track => { track with closed := true }
    have done := tracks_modifyTrack (((g.close first).setLayer current rest).storeDownTrack layer t) t u
      fun track => { track with currentSpatialLayer := layer }
    refine done.trans ?_
    change Option.map _ ((g.close first).tracks[u]?) = _
    rw [close, closed, Option.map_map]
    congr 1
    funext track
    by_cases isFirst : first = u <;> by_cases moved : t = u <;> simp [isFirst, moved]

theorem removeFailed_removes {g : SimulcastReceiver} {layer : Fin 3} {t first : Nat} {failures rest : List Nat}
    (work : g.failed layer = t :: failures) (list : g.downTracks layer = first :: rest) :
    ∃ g', g.removeFailed layer = some g' ∧ g.Removes g' layer first t none := by
  refine ⟨_, by simp only [removeFailed, work, deleteDownTrack_cons list]; rfl, fun l u => ?_, fun u => ?_⟩
  · have removed := count_rest (g := g.close first) list l u
    simp only [reduceCtorEq, false_and, if_false, Nat.add_zero]
    exact removed
  · have closed := tracks_modifyTrack g first u fun track => { track with closed := true }
    have marked := tracks_modifyTrack (((g.close first).setLayer layer rest).setFailed layer failures) t u
      fun track => { track with removed := true }
    refine marked.trans ?_
    change Option.map _ ((g.close first).tracks[u]?) = _
    rw [close, closed, Option.map_map]
    congr 1
    funext track
    by_cases isFirst : first = u <;> by_cases gone : t = u <;> simp [isFirst, gone]

/-- A removal step takes the first track of the list, or panics on an empty one. -/
theorem step_removes {g : SimulcastReceiver} {s : LayerStep} {layer : Fin 3} {t : Nat}
    (removal : g.removal s = some (layer, t)) :
    (g.downTracks layer = [] ∧ g.step s = none) ∨ ∃ first rest g' into, g.downTracks layer = first :: rest ∧
      g.step s = some g' ∧ g.Removes g' layer first t into := by
  cases s with
  | completeSwitch onto =>
      cases work : g.switching onto with
      | nil => simp [SimulcastReceiver.removal, work] at removal
      | cons item switches =>
          have same : item = (layer, t) := by simpa [SimulcastReceiver.removal, work] using removal
          subst same
          cases list : g.downTracks layer with
          | nil =>
              refine Or.inl ⟨rfl, ?_⟩
              simp [step, completeSwitch, work, deleteDownTrack_nil list]
          | cons first rest =>
              obtain ⟨g', moved, removes⟩ := completeSwitch_removes work list
              exact Or.inr ⟨first, rest, g', some onto, rfl, moved, removes⟩
  | removeFailed onto =>
      cases work : g.failed onto with
      | nil => simp [SimulcastReceiver.removal, work] at removal
      | cons failure failures =>
          have same : onto = layer ∧ failure = t := by simpa [SimulcastReceiver.removal, work] using removal
          obtain ⟨rfl, rfl⟩ := same
          cases list : g.downTracks onto with
          | nil =>
              refine Or.inl ⟨rfl, ?_⟩
              simp [step, removeFailed, work, deleteDownTrack_nil list]
          | cons first rest =>
              obtain ⟨g', moved, removes⟩ := removeFailed_removes work list
              exact Or.inr ⟨first, rest, g', none, rfl, moved, removes⟩
  | _ => simp [SimulcastReceiver.removal] at removal

/-- A removal of the track itself leaves the others alone; any other removal does not. -/
theorem Removes.isolated_iff {g g' : SimulcastReceiver} {layer : Fin 3} {first t : Nat} {into : Option (Fin 3)}
    (removes : g.Removes g' layer first t into) : Isolated t g g' ↔ first = t := by
  constructor
  · intro isolated
    by_contra other
    have kept := (isolated first other).1 layer
    have counted := removes.count layer first
    rw [if_pos ⟨rfl, rfl⟩, if_neg fun here => other here.2.symm] at counted
    omega
  · rintro rfl u other
    constructor
    · intro l
      have counted := removes.count l u
      simpa [other.symm] using counted
    · rw [removes.tracks u, Option.map_map]
      congr 1
      funext track
      simp [other.symm]

theorem Removes.placed {g g' : SimulcastReceiver} {layer : Fin 3} {t : Nat} {rest : List Nat} {into : Option (Fin 3)}
    (placed : g.Placed) (list : g.downTracks layer = t :: rest) (removes : g.Removes g' layer t t into) :
    g'.Placed := by
  intro u track found live l
  have counted := removes.count l u
  rw [removes.tracks u] at found
  obtain ⟨before, old, rfl⟩ := Option.map_eq_some_iff.mp found
  simp only [Bool.or_eq_false_iff] at live
  have was := placed u before old live.1
  by_cases moved : t = u
  · subst moved
    have here : before.currentSpatialLayer = layer := by
      by_contra away
      have none_here := was layer
      rw [if_neg away, list] at none_here
      simp at none_here
    cases into with
    | none => simp at live
    | some onto =>
        rw [was l, here] at counted
        simp only [and_true, Option.some.injEq] at counted
        simp only [if_true, Option.getD_some]
        by_cases from_here : layer = l
        · subst from_here
          rw [if_pos rfl] at counted
          omega
        · rw [if_neg fun h => from_here h.symm, if_neg from_here] at counted
          simpa using counted
  · simpa [moved, was l] using counted

theorem Removes.known {g g' : SimulcastReceiver} {layer : Fin 3} {t : Nat} {rest : List Nat} {into : Option (Fin 3)}
    (sorted : g.Sorted) (list : g.downTracks layer = t :: rest) (removes : g.Removes g' layer t t into) :
    ∀ l, ∀ u ∈ g'.downTracks l, u < g'.tracks.length := by
  intro l u mem
  have within : u < g.tracks.length := by
    by_cases moved : t = u
    · subst moved
      exact sorted.known layer t (list ▸ List.mem_cons_self)
    · have counted := removes.count l u
      rw [if_neg fun h => moved h.2, if_neg fun h => moved h.2] at counted
      have counted' := List.count_pos_iff.mpr mem
      exact sorted.known l u (List.count_pos_iff.mp (by omega))
  have found := removes.tracks u
  rw [List.getElem?_eq_getElem within] at found
  exact (List.getElem?_eq_some_iff.mp found).1

theorem Sorted.congr {g g' : SimulcastReceiver} (sorted : g.Sorted) (lists : g'.downTracks = g.downTracks)
    (tracks : g'.tracks = g.tracks) : g'.Sorted where
  placed := by
    unfold Placed
    rw [lists, tracks]
    exact sorted.placed
  known := by
    rw [lists, tracks]
    exact sorted.known

theorem Sorted.addDownTrack {g : SimulcastReceiver} (sorted : g.Sorted) (layer : Fin 3) :
    (g.addDownTrack layer).Sorted where
  placed t track found live l := by
    have counted := count_storeDownTrack g layer l g.tracks.length t
    refine counted.trans ?_
    rcases TaskTable.lookup_append found with old | ⟨rfl, rfl⟩
    · have within := (List.getElem?_eq_some_iff.mp old).1
      have other : ¬ (l = layer ∧ g.tracks.length = t) := fun new => absurd new.2 within.ne'
      rw [if_neg other, Nat.add_zero]
      exact sorted.placed t track old live l
    · have unlisted : (g.downTracks l).count g.tracks.length = 0 :=
        List.count_eq_zero.mpr fun mem => Nat.lt_irrefl _ (sorted.known l _ mem)
      rw [unlisted, Nat.zero_add]
      simp only [and_true, eq_comm (a := l)]
  known l t mem := by
    have counted := count_storeDownTrack g layer l g.tracks.length t
    have listed : 0 < ((g.addDownTrack layer).downTracks l).count t := List.count_pos_iff.mpr mem
    change t < (g.tracks ++ [_]).length
    rw [List.length_append, List.length_singleton]
    by_cases new : g.tracks.length = t
    · omega
    · rw [if_neg fun h => new h.2] at counted
      change 0 < ((g.storeDownTrack layer g.tracks.length).downTracks l).count t at listed
      have before := sorted.known l t (List.count_pos_iff.mp (by omega))
      omega

theorem switchDownTrack_frame (g : SimulcastReceiver) (t : Nat) (layer : Fin 3) :
    (g.switchDownTrack t layer).1.downTracks = g.downTracks ∧ (g.switchDownTrack t layer).1.tracks = g.tracks := by
  unfold switchDownTrack
  dsimp only
  split <;> exact ⟨rfl, rfl⟩

theorem switchSpatialLayer_frame (g : SimulcastReceiver) (t : Nat) (target : Int) (setAsMax : Bool) :
    let g' := ((g.switchSpatialLayer t target setAsMax).map Prod.fst).getD g
    g'.downTracks = g.downTracks ∧ g'.tracks = g.tracks := by
  rw [switchSpatialLayer_eq]
  cases g.tracks[t]? with
  | none => exact ⟨rfl, rfl⟩
  | some track =>
      rw [Option.bind_some]
      split
      · exact ⟨rfl, rfl⟩
      · cases layer? target with
        | none => exact ⟨rfl, rfl⟩
        | some layer => exact switchDownTrack_frame g t layer

/-- Steps that remove nothing keep the places of all tracks. -/
theorem Sorted.unremoved {g g' : SimulcastReceiver} {s : LayerStep} (sorted : g.Sorted) (nothing : g.removal s = none)
    (h : g.step s = some g') : g'.Sorted := by
  cases s with
  | addDownTrack layer => cases h; exact sorted.addDownTrack layer
  | available layers => cases h; exact sorted.congr rfl rfl
  | switchSpatialLayer t target setAsMax =>
      cases h
      obtain ⟨lists, tracks⟩ := switchSpatialLayer_frame g t target setAsMax
      exact sorted.congr lists tracks
  | keyFrame layer =>
      obtain ⟨-, copied⟩ := Option.ite_none_right_eq_some.mp h
      cases copied
      exact sorted.congr (downTracks_clearPending _ layer) (tracks_clearPending _ layer)
  | completeSwitch layer =>
      have idle : g.switching layer = [] := List.head?_eq_none_iff.mp nothing
      simp [step, completeSwitch, idle] at h
  | writeErrors layer fails =>
      obtain ⟨-, noted⟩ := Option.ite_none_right_eq_some.mp h
      cases noted
      exact sorted.congr rfl rfl
  | removeFailed layer =>
      have idle : g.failed layer = [] := List.head?_eq_none_iff.mp (Option.map_eq_none_iff.mp nothing)
      simp [step, removeFailed, idle] at h

theorem Sorted.removed {g g' : SimulcastReceiver} {s : LayerStep} (sorted : g.Sorted) (leads : g.Leads s)
    (h : g.step s = some g') : g'.Sorted := by
  cases removal : g.removal s with
  | none => exact sorted.unremoved removal h
  | some what =>
      obtain ⟨layer, t⟩ := what
      rcases step_removes removal with ⟨-, panics⟩ | ⟨first, rest, after, into, list, moved, removes⟩
      · rw [panics] at h
        cases h
      · have same := leads layer t removal
        rw [list] at same
        cases same
        cases moved.symm.trans h
        exact ⟨removes.placed sorted.placed list, removes.known sorted list⟩

/-- A removal keeps the others in place exactly when its track is the first of the list. -/
theorem keeps_iff_leads {g : SimulcastReceiver} {s : LayerStep} (sorted : g.Sorted) : g.Keeps s ↔ g.Leads s := by
  constructor
  · intro keeps layer t removal
    obtain ⟨g', moved, isolated⟩ := keeps.1 layer t removal
    rcases step_removes removal with ⟨-, panics⟩ | ⟨first, rest, after, into, list, moved', removes⟩
    · rw [panics] at moved
      cases moved
    · cases moved.symm.trans moved'
      rw [list, ← removes.isolated_iff.mp isolated]
      rfl
  · intro leads
    refine ⟨fun layer t removal => ?_, fun g' moved => (sorted.removed leads moved).placed⟩
    have first_is_own := leads layer t removal
    rcases step_removes removal with ⟨empty, -⟩ | ⟨first, rest, g', into, list, moved, removes⟩
    · rw [empty] at first_is_own
      cases first_is_own
    · rw [list] at first_is_own
      cases first_is_own
      exact ⟨g', moved, removes.isolated_iff.mpr rfl⟩

/-- In a run every removal leaves the other tracks alone, and all tracks stay placed,
exactly when each track to remove is the first of its list. -/
theorem guarded_keeps_iff (trackId : String) (steps : List LayerStep) :
    Guarded step Keeps { trackId } steps ↔ Guarded step Leads { trackId } steps := by
  refine guarded_iff Sorted (fun _ _ => keeps_iff_leads)
    (fun _ _ _ sorted leads moved => sorted.removed leads moved) ?_
  exact ⟨fun t track found => by simp at found, fun layer t mem => by simp at mem⟩

/-- Two peers receive layer 0, and the second asks for layer 1. -/
def secondSwitchesSteps : List LayerStep :=
  [.addDownTrack 0, .addDownTrack 0, .available fun _ => true, .switchSpatialLayer 1 1 false, .keyFrame 1]

/-- Completing the switch closes the track of the first peer and drops it from its list. -/
theorem switch_removes_other_track :
    ∃ g g', run step { trackId := "camera" } secondSwitchesSteps = some g ∧ g.downTracks 0 = [0, 1] ∧
      g.step (.completeSwitch 1) = some g' ∧ g'.downTracks 0 = [1] ∧ g'.downTracks 1 = [1] ∧
      g'.tracks[0]?.map LayerTrack.closed = some true ∧ ¬ g.Keeps (.completeSwitch 1) := by
  refine ⟨_, _, rfl, rfl, rfl, rfl, rfl, rfl, fun keeps => ?_⟩
  have placed := keeps.2 _ rfl 0 ⟨0, 0, 2, true, false⟩ rfl rfl 0
  exact absurd placed (by decide)

end SimulcastReceiver

end Rsfu
