import Rsfu.SourceReports

/-! What reports write. Each writes the chunks of tracks that were bound when it came to them, all of
them listed under its stream behind the first, seven times or not at all. -/
namespace Rsfu
open GuardedRun TaskTable

namespace SourceReports
variable {g g' : SourceReports} {r r' : SourceReport} {wrote : List (List SourceDescriptionChunk)}

/-- A track as a report has described it. -/
structure Description where
  track : Nat
  ssrc : UInt32
  mid : String
  deriving DecidableEq

def Description.chunks (streamId : String) (d : Description) : List SourceDescriptionChunk :=
  sourceDescriptionChunks d.ssrc streamId d.mid

/-- A bind that has ended gave the track the ssrc. -/
def Description.Bound (g : SourceReports) (d : Description) : Prop :=
  ∃ c ∈ g.binds, c.track = d.track ∧ c.ssrc = d.ssrc ∧ c.point = .returned

/-- The track a report has asked for its mid and has still to describe. -/
def naming (r : SourceReport) : List (Nat × String) :=
  match r.point with
  | .describing k mid _ => [(k, mid)]
  | _ => []

/-- The tracks a report has yet to visit or is visiting. -/
def ahead (r : SourceReport) : List Nat :=
  match r.point with
  | .visiting todo => todo
  | .asking k todo | .describing k _ todo => k :: todo
  | _ => []

/-- How often a report has written. -/
def turns (r : SourceReport) : Nat :=
  match r.point with
  | .writing i => i
  | .returned => if r.sds = [] then 0 else 7
  | _ => 0

structure Describes (g : SourceReports) (r : SourceReport) (found : List Description) : Prop where
  sds : r.sds = found.flatMap (Description.chunks r.stream)
  fresh : r.point = .spawned → found = []
  order : (found.map Description.track ++ ahead r).Sublist (g.under r.stream).tail
  bound : ∀ d ∈ found, d.Bound g
  named : (found.map fun d => (d.track, d.mid)) ++ naming r = r.named
  describing : ∀ k mid todo, r.point = .describing k mid todo → ∃ c ∈ g.binds, c.track = k ∧ c.point = .returned

/-- What a description rests on stays. -/
structure Grows (g g' : SourceReports) : Prop where
  binds : ∀ c ∈ g.binds, c.point = .returned → c ∈ g'.binds
  under : ∀ s, (g.under s).tail.Sublist (g'.under s).tail

theorem Describes.mono {found : List Description} (describes : Describes g r found) (grows : Grows g g') :
    Describes g' r found := by
  refine ⟨describes.sds, describes.fresh, describes.order.trans (grows.under _), fun d mem => ?_, describes.named,
    fun k mid todo here => ?_⟩
  · obtain ⟨c, among, own, same, ended⟩ := describes.bound d mem
    exact ⟨c, grows.binds c among ended, own, same, ended⟩
  · obtain ⟨c, among, own, ended⟩ := describes.describing k mid todo here
    exact ⟨c, grows.binds c among ended, own, ended⟩

theorem under_tail_sublist (grown : ∃ more, g'.listings = g.listings ++ more) (s : String) :
    (g.under s).tail.Sublist (g'.under s).tail := by
  obtain ⟨more, grown⟩ := grown
  unfold under
  rw [grown, List.filter_append, List.map_append]
  exact (List.sublist_append_left _ _).tail

theorem Moves.grows {e : ReportEvent} (h : g.Moves e g') : Grows g g' := by
  have binds {i : Nat} {c c' : BindCall} (calling : g.binds[i]? = some c) (before : c.point ≠ .returned) :
      ∀ other ∈ g.binds, other.point = .returned → other ∈ g.binds.set i c' := by
    intro other mem ended
    refine mem_set_other calling mem ?_
    rintro rfl
    exact before ended
  cases h with
  | made id streamId => exact ⟨fun c mem _ => mem, fun s => .refl _⟩
  | marked found marks kept => exact ⟨fun c mem _ => mem, fun s => .refl _⟩
  | @listed k t found armed free => exact ⟨fun c mem _ => mem, under_tail_sublist ⟨[(t.streamId, k)], rfl⟩⟩
  | removed found => exact ⟨fun c mem _ => mem, fun s => .refl _⟩
  | called ssrc found => exact ⟨fun c mem _ => List.mem_append_left _ mem, fun s => .refl _⟩
  | wrote calling found here free => exact ⟨binds calling (by rw [here]; nofun), fun s => .refl _⟩
  | handled calling found here => exact ⟨binds calling (by rw [here]; nofun), fun s => .refl _⟩
  | stored calling found here => exact ⟨binds calling (by rw [here]; nofun), fun s => .refl _⟩
  | visits reporting visits => exact ⟨fun c mem _ => mem, fun s => .refl _⟩

/-- With the guard free, the ssrc of a track that was bound is that of a bind which has ended. -/
theorem Binds.current {k : Nat} {t : ReportedTrack} (inv : g.Binds) (found : g.tracks[k]? = some t)
    (free : g.ssrcLocked k = false) (once : ∃ c ∈ g.binds, c.track = k ∧ c.point = .returned) :
    ∃ c ∈ g.binds, c.track = k ∧ c.ssrc = t.ssrc ∧ c.point = .returned := by
  obtain ⟨c, mem, own, ended⟩ := once
  rcases (inv.by_calls k t found).ssrc with waiting | ⟨other, among, own', same, inside⟩
  · cases (waiting c mem own).symm.trans ended
  · refine ⟨other, among, own', same, ?_⟩
    have outside := List.any_eq_false.mp free other among
    simp only [BindCall.holdsSsrc, own', true_and, decide_eq_true_eq, not_or] at outside
    cases point : other.point with
    | entered => exact absurd point inside
    | written => exact absurd point outside.1
    | handled => exact absurd point outside.2
    | returned => rfl

theorem Describes.visits {found : List Description} (listings : g.Listings) (binds : g.Binds)
    (describes : Describes g r found) (h : g.Visits r r' wrote) : ∃ found', Describes g r' found' := by
  have order := describes.order
  unfold ahead at order
  have fewer {k : Nat} {todo : List Nat}
      (rest : (found.map Description.track ++ k :: todo).Sublist (g.under r.stream).tail) :
      (found.map Description.track ++ todo).Sublist (g.under r.stream).tail :=
    ((List.sublist_cons_self k todo).append_left _).trans rest
  have streamId {k : Nat} {todo : List Nat} {t : ReportedTrack} (at_k : g.tracks[k]? = some t)
      (rest : (found.map Description.track ++ k :: todo).Sublist (g.under r.stream).tail) :
      t.streamId = r.stream := by
    have among := List.mem_of_mem_tail (rest.subset (List.mem_append_right _ List.mem_cons_self))
    obtain ⟨e, listed, rfl⟩ := List.mem_map.mp among
    obtain ⟨mem, own⟩ := List.mem_filter.mp listed
    obtain ⟨u, at_e, same, -⟩ := listings.known e mem
    cases at_k.symm.trans at_e
    exact same.trans (of_decide_eq_true own)
  have named := describes.named
  unfold naming at named
  have writes {point : ReportPoint} (last : point = .returned ∨ ∃ i, point = .writing i)
      (done : (found.map Description.track ++ []).Sublist (g.under r.stream).tail)
      (all : (found.map fun d => (d.track, d.mid)) ++ [] = r.named) : Describes g { r with point } found := by
    rcases last with rfl | ⟨i, rfl⟩
    all_goals exact ⟨describes.sds, nofun, done, describes.bound, all, nofun⟩
  cases h with
  | entered here free =>
      rw [here] at named
      cases describes.fresh here
      exact ⟨[], describes.sds, nofun, listings.behind r.stream, describes.bound, named, nofun⟩
  | visited here =>
      rw [here] at order named
      refine ⟨found, writes ?_ order named⟩
      split
      · exact Or.inl rfl
      · exact Or.inr ⟨0, rfl⟩
  | passed here unbound =>
      rw [here] at order named
      exact ⟨found, describes.sds, nofun, fewer order, describes.bound, named, nofun⟩
  | asked here bound =>
      rw [here] at order named
      exact ⟨found, describes.sds, nofun, order, describes.bound, named, nofun⟩
  | dropped here at_k unbound =>
      rw [here] at order named
      exact ⟨found, describes.sds, nofun, fewer order, describes.bound, named, nofun⟩
  | named here at_k bound =>
      rw [here, List.append_nil] at named
      rw [here] at order
      refine ⟨found, describes.sds, nofun, order, describes.bound, congrArg (· ++ _) named, ?_⟩
      intro k mid todo now
      cases now
      exact (binds.by_calls _ _ at_k).bound bound
  | @described k mid todo t here free at_k =>
      rw [here] at order named
      obtain ⟨c, mem, own, same, ended⟩ := binds.current at_k free (describes.describing k mid todo here)
      refine ⟨found ++ [⟨k, t.ssrc, mid⟩], ?_, nofun, ?_, ?_, ?_, nofun⟩
      · rw [List.flatMap_append, ← describes.sds, streamId at_k order]
        rfl
      · rw [List.map_append, List.append_assoc]
        exact order
      · intro d among
        rcases List.mem_append.mp among with old | single
        · exact describes.bound d old
        · cases List.mem_singleton.mp single
          exact ⟨c, mem, own, same, ended⟩
      · rw [List.map_append, List.append_assoc]
        exact named
  | @wrote i here =>
      rw [here] at order named
      refine ⟨found, writes ?_ order named⟩
      split
      · exact Or.inl rfl
      · exact Or.inr ⟨i + 1, rfl⟩

/-- Each report has written its chunks as often as its loop has turned. -/
structure Writes (g : SourceReports) : Prop where
  turned : ∀ (j : Nat) (r : SourceReport), g.reports[j]? = some r →
    g.writesOf j = List.replicate (turns r) r.sds ∧ ∀ i, r.point = .writing i → i ≤ 6 ∧ r.sds ≠ []
  among : ∀ e ∈ g.written, e.1 < g.reports.length

theorem Writes.start : Writes {} where
  turned := nofun
  among := nofun

/-- A visit turns the loop once for each write. -/
theorem Visits.turns (h : g.Visits r r' wrote) (writing : ∀ i, r.point = .writing i → i ≤ 6 ∧ r.sds ≠ []) :
    List.replicate (turns r) r.sds ++ wrote = List.replicate (SourceReports.turns r') r'.sds ∧
      ∀ i, r'.point = .writing i → i ≤ 6 ∧ r'.sds ≠ [] := by
  unfold SourceReports.turns
  cases h with
  | visited here =>
      rw [here]
      by_cases empty : r.sds = []
      · simp [empty]
      · refine ⟨by simp [empty], fun i now => ?_⟩
        rw [if_neg empty] at now
        cases now
        exact ⟨Nat.zero_le 6, empty⟩
  | @wrote i here =>
      obtain ⟨small, some⟩ := writing i here
      rw [here]
      by_cases last : 5 < i
      · have six : i = 6 := Nat.le_antisymm small last
        subst six
        refine ⟨?_, fun i now => ?_⟩
        · simp only [last, if_true, some, if_false]
          exact List.replicate_succ'.symm
        · rw [if_pos last] at now
          cases now
      · refine ⟨?_, fun j now => ?_⟩
        · simp only [last, if_false]
          exact List.replicate_succ'.symm
        · rw [if_neg last] at now
          cases now
          exact ⟨by omega, some⟩
  | entered here free => exact ⟨by rw [here]; rfl, nofun⟩
  | passed here unbound => exact ⟨by rw [here]; rfl, nofun⟩
  | asked here bound => exact ⟨by rw [here]; rfl, nofun⟩
  | dropped here at_k unbound => exact ⟨by rw [here]; rfl, nofun⟩
  | named here at_k bound => exact ⟨by rw [here]; rfl, nofun⟩
  | described here free at_k => exact ⟨by rw [here]; rfl, nofun⟩

theorem writesOf_append {j : Nat} (same : g'.written = g.written ++ wrote.map fun w => (j, w)) (i : Nat) :
    g'.writesOf i = if i = j then g.writesOf i ++ wrote else g.writesOf i := by
  unfold writesOf
  rw [same, List.filter_append, List.map_append]
  have mine : (wrote.map fun w => (j, w)).filter (fun e => e.1 = i) =
      if i = j then wrote.map fun w => (j, w) else [] := by
    rw [List.filter_map]
    by_cases own : i = j <;> simp [own, Function.comp_def, eq_comm]
  rw [mine]
  split
  · rw [List.map_map]
    exact congrArg _ (List.map_id' wrote)
  · rw [List.map_nil, List.append_nil]

theorem Writes.step {e : ReportEvent} (inv : g.Writes) (h : g.Moves e g') : g'.Writes := by
  cases h with
  | handled calling found here =>
      split
      · exact ⟨inv.turned, inv.among⟩
      · constructor
        · refine forall_append inv.turned ⟨?_, nofun⟩
          unfold writesOf
          rw [List.filter_eq_nil_iff.mpr]
          · rfl
          · intro e mem own
            exact Nat.lt_irrefl _ ((of_decide_eq_true own) ▸ inv.among e mem)
        · intro e mem
          rw [List.length_append]
          exact Nat.lt_add_right 1 (inv.among e mem)
  | @visits j r r' wrote reporting visits =>
      have here := inv.turned j r reporting
      constructor
      · refine forall_set inv.turned ?_ fun i u other old => ?_
        · obtain ⟨turned, writing⟩ := visits.turns here.2
          refine ⟨?_, writing⟩
          rw [writesOf_append (g := g) (j := j) rfl, if_pos rfl, here.1]
          exact turned
        · refine ⟨?_, old.2⟩
          rw [writesOf_append (g := g) (j := j) rfl, if_neg other]
          exact old.1
      · intro e mem
        rw [List.length_set]
        rcases List.mem_append.mp mem with old | new
        · exact inv.among e old
        · obtain ⟨w, -, rfl⟩ := List.mem_map.mp new
          exact (List.getElem?_eq_some_iff.mp reporting).1
  | _ => exact ⟨inv.turned, inv.among⟩

structure Reporting (g : SourceReports) : Prop where
  listings : g.Listings
  binds : g.Binds
  writes : g.Writes
  describes : ∀ (j : Nat) (r : SourceReport), g.reports[j]? = some r → ∃ found, Describes g r found

theorem Reporting.start : Reporting {} where
  listings := .start
  binds := .start
  writes := .start
  describes := nofun

theorem Reporting.step {e : ReportEvent} (inv : g.Reporting) (h : g.Moves e g') : g'.Reporting := by
  refine ⟨inv.listings.step h, inv.binds.step h, inv.writes.step h, ?_⟩
  have grows := h.grows
  have old (j : Nat) (r : SourceReport) (at_j : g.reports[j]? = some r) : ∃ found, Describes g' r found := by
    obtain ⟨found, describes⟩ := inv.describes j r at_j
    exact ⟨found, describes.mono grows⟩
  cases h with
  | handled calling at_k here =>
      intro j r at_j
      dsimp only at at_j
      split at at_j
      · exact old j r at_j
      · rcases lookup_append at_j with at_j | ⟨-, rfl⟩
        · exact old j r at_j
        · exact ⟨[], rfl, fun _ => rfl, List.nil_sublist _, nofun, rfl, nofun⟩
  | visits reporting visits =>
      refine forall_set old ?_ fun j r _ same => same
      obtain ⟨found, describes⟩ := inv.describes _ _ reporting
      obtain ⟨found', describes⟩ := describes.visits inv.listings inv.binds visits
      exact ⟨found', describes.mono grows⟩
  | _ => exact old

theorem run_reporting {events : List ReportEvent} (reached : run step {} events = some g) : g.Reporting :=
  run_preserves Reporting (fun _ _ _ inv h => inv.step (step_moves h)) .start reached

/-- A report writes one list of chunks seven times, or never when it is empty. The list describes
tracks of its stream in the order they were listed in, each by the ssrc a bind that has ended gave
it and the mid it had when it was found bound. The first of them is never among them, so of a stream
with one track nothing is ever written. -/
theorem run_describes {events : List ReportEvent} (reached : run step {} events = some g) {j : Nat}
    (reporting : g.reports[j]? = some r) :
    (g.under r.stream).Nodup ∧
      (∃ found : List Description, r.sds = found.flatMap (Description.chunks r.stream) ∧
        (found.map Description.track).Sublist (g.under r.stream).tail ∧ (∀ d ∈ found, d.Bound g) ∧
          (found.map fun d => (d.track, d.mid)) ++ naming r = r.named) ∧
      (∃ n ≤ 7, g.writesOf j = List.replicate n r.sds ∧
        (r.point = .returned → n = if r.sds = [] then 0 else 7)) ∧
      ((g.under r.stream).length ≤ 1 → g.writesOf j = []) := by
  have inv := run_reporting reached
  obtain ⟨found, describes⟩ := inv.describes j r reporting
  obtain ⟨turned, writing⟩ := inv.writes.turned j r reporting
  have ordered := (List.sublist_append_left _ _).trans describes.order
  have bounded : turns r ≤ 7 ∧ (r.sds = [] → turns r = 0) := by
    unfold turns
    cases point : r.point with
    | writing i =>
        obtain ⟨small, some⟩ := writing i point
        exact ⟨Nat.le_succ_of_le small, fun empty => absurd empty some⟩
    | returned =>
        dsimp only
        split
        · exact ⟨Nat.zero_le 7, fun _ => rfl⟩
        · rename_i some
          exact ⟨Nat.le_refl 7, fun empty => absurd empty some⟩
    | _ => exact ⟨Nat.zero_le 7, fun _ => rfl⟩
  refine ⟨?_, ⟨found, describes.sds, ordered, describes.bound, describes.named⟩, ⟨turns r, bounded.1, turned, ?_⟩,
    fun single => ?_⟩
  · exact (List.filter_sublist.map Prod.snd).nodup inv.listings.nodup
  · intro done
    unfold turns
    rw [done]
  · have short := ordered.length_le
    rw [List.length_tail, List.length_map] at short
    have none : found = [] := List.eq_nil_of_length_eq_zero (by omega)
    rw [turned, bounded.2 (by rw [describes.sds, none]; rfl)]
    rfl

/-- A microphone and a camera of one stream, of which the camera is described. -/
def twoReported : List ReportEvent :=
  [.addTransceiver "microphone" "desk", .addTransceiver "camera" "desk", .onBind 0, .addDownTrack 0, .onBind 1,
    .addDownTrack 1, .setMid 0 "0", .setMid 1 "1", .bind 0 7, .bind 1 9] ++ List.replicate 3 (.resumeBind 1) ++
      List.replicate 3 (.resumeBind 0) ++ List.replicate 12 (.resumeReport 0)

theorem run_describes_camera : ∃ g r, run step {} twoReported = some g ∧ g.reports[0]? = some r ∧
    r.sds = sourceDescriptionChunks 9 "desk" "1" ∧ g.writesOf 0 = List.replicate 7 r.sds := by
  have computed : (run step {} twoReported).map (fun g => (g.reports[0]?, g.under "desk")) =
      some (some ⟨"desk", .returned, sourceDescriptionChunks 9 "desk" "1", [(1, "1")]⟩, [0, 1]) := by decide +kernel
  obtain ⟨g, reached, same⟩ := Option.map_eq_some_iff.mp computed
  obtain ⟨reporting, -⟩ := Prod.mk.inj same
  obtain ⟨-, -, ⟨n, -, wrote, returned⟩, -⟩ := run_describes reached reporting
  refine ⟨g, _, reached, reporting, rfl, ?_⟩
  rw [wrote, returned rfl]
  rfl

end SourceReports
end Rsfu
