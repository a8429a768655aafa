import Rsfu.SourceDescriptions

/-! Which tracks come to be described. A report that comes to a track before its bind has said so
passes it by, and no other follows; when none does, every track of the store is described as it is. -/
namespace Rsfu
open GuardedRun TaskTable

namespace SourceReports
variable {g g' : SourceReports} {t t' : ReportedTrack} {c : BindCall} {r r' : SourceReport}
  {wrote : List (List SourceDescriptionChunk)} {k j : Nat}

/-- The track a report comes to next. -/
def next (r : SourceReport) : Option Nat :=
  match r.point with
  | .visiting (k :: _) => some k
  | _ => none

/-- A bind of the track has called its handler and not said yet that it is bound. -/
def handling (g : SourceReports) (k : Nat) : Bool := g.binds.any fun c => c.track = k ∧ c.point = .handled

/-- No track is unbound, a bind calls its handler when its track is listed, and no report comes to a
track that is not yet bound while a bind is on its way to say so. -/
def InOrder (g : SourceReports) : ReportEvent → Prop
  | .unbind _ => False
  | .resumeBind i => (g.binds[i]?).all (fun c => c.point ≠ .written ∨
      (g.tracks[c.track]?).all (fun t => t.point = .listed) = true) = true
  | .resumeReport j => (g.reports[j]?).all (fun r => (next r).all fun k => g.bound k || !g.handling k) = true
  | _ => True

instance : DecidableRel InOrder
  | _, .addTransceiver _ _ => isTrue trivial
  | _, .onBind _ => isTrue trivial
  | _, .addDownTrack _ => isTrue trivial
  | _, .removeDownTrack _ => isTrue trivial
  | _, .setMid _ _ => isTrue trivial
  | _, .bind _ _ => isTrue trivial
  | _, .unbind _ => isFalse id
  | _, .resumeBind _ => inferInstanceAs (Decidable (_ = _))
  | _, .resumeReport _ => inferInstanceAs (Decidable (_ = _))

/-- No bind and no report can go on. -/
def Rested (g : SourceReports) : Prop :=
  (∀ i, g.step (.resumeBind i) = none) ∧ ∀ j, g.step (.resumeReport j) = none

theorem bound_iff : g.bound k = true ↔ ∃ t : ReportedTrack, g.tracks[k]? = some t ∧ t.bound = true := by
  unfold bound
  exact Option.any_eq_true ..

theorem rested_returned (inv : g.Reporting) (rested : g.Rested) :
    (∀ c ∈ g.binds, c.point = .returned) ∧ ∀ r ∈ g.reports, r.point = .returned := by
  have binds : ∀ c ∈ g.binds, c.point = .entered ∨ c.point = .returned := by
    intro c mem
    obtain ⟨i, calling⟩ := List.mem_iff_getElem?.mp mem
    have found := List.getElem?_eq_getElem (inv.binds.valid c mem)
    have stuck := rested.1 i
    simp only [step, calling, found, Option.bind_some, resumeBind] at stuck
    cases point : c.point with
    | entered => exact Or.inl rfl
    | returned => exact Or.inr rfl
    | written => simp [point] at stuck
    | handled => simp [point] at stuck
  have free (k : Nat) : g.ssrcLocked k = false := by
    refine List.any_eq_false.mpr fun c mem holds => ?_
    have inside := (of_decide_eq_true holds).2
    rcases binds c mem with here | here <;> simp [here] at inside
  have reports : ∀ r ∈ g.reports, r.point = .spawned ∨ r.point = .returned := by
    intro r mem
    obtain ⟨j, reporting⟩ := List.mem_iff_getElem?.mp mem
    have there {k : Nat} (visiting : k ∈ ahead r) : ∃ t : ReportedTrack, g.tracks[k]? = some t := by
      obtain ⟨found, describes⟩ := inv.describes j r reporting
      have among := List.mem_of_mem_tail (describes.order.subset (List.mem_append_right _ visiting))
      obtain ⟨e, listed, rfl⟩ := List.mem_map.mp among
      obtain ⟨t, at_e, -⟩ := inv.listings.known e (List.mem_filter.mp listed).1
      exact ⟨t, at_e⟩
    have stuck := rested.2 j
    simp only [step, reporting, Option.bind_some, resumeReport] at stuck
    cases point : r.point with
    | spawned => exact Or.inl rfl
    | returned => exact Or.inr rfl
    | visiting todo => cases todo <;> simp [point] at stuck
    | asking k todo =>
        obtain ⟨t, found⟩ := there (k := k) (by simp [ahead, point])
        simp [point, found] at stuck
    | describing k mid todo =>
        obtain ⟨t, found⟩ := there (k := k) (by simp [ahead, point])
        simp [point, found, free] at stuck
    | writing i => simp [point] at stuck
  have unlocked : g.tracksLocked = false := by
    refine List.any_eq_false.mpr fun r mem holds => ?_
    unfold SourceReport.holdsTracks at holds
    rcases reports r mem with here | here <;> simp [here] at holds
  constructor
  · intro c mem
    refine (binds c mem).resolve_left fun here => ?_
    obtain ⟨i, calling⟩ := List.mem_iff_getElem?.mp mem
    have stuck := rested.1 i
    simp [step, calling, List.getElem?_eq_getElem (inv.binds.valid c mem), resumeBind, here, free] at stuck
  · intro r mem
    refine (reports r mem).resolve_left fun here => ?_
    obtain ⟨j, reporting⟩ := List.mem_iff_getElem?.mp mem
    have stuck := rested.2 j
    simp [step, reporting, resumeReport, here, unlocked] at stuck

/-- A track is bound that was, unless it is unbound. -/
theorem Moves.stays_bound {e : ReportEvent} (h : g.Moves e g') (bound : ∀ k, e ≠ .unbind k)
    (before : g.bound k = true) : g'.bound k = true := by
  obtain ⟨t, found, there⟩ := bound_iff.mp before
  have set {j : Nat} {u u' : ReportedTrack} (at_j : g.tracks[j]? = some u)
      (keeps : u.bound = true → u'.bound = true) :
      ∃ t : ReportedTrack, (g.tracks.set j u')[k]? = some t ∧ t.bound = true := by
    rw [lookup_set at_j]
    by_cases own : j = k
    · subst own
      cases found.symm.trans at_j
      exact ⟨u', if_pos rfl, keeps there⟩
    · exact ⟨t, (if_neg own).trans found, there⟩
  refine bound_iff.mpr ?_
  cases h with
  | made id streamId => exact ⟨t, lookup_append_old found, there⟩
  | marked at_j marks kept =>
      refine set at_j fun was => ?_
      rw [kept bound]
      exact was
  | listed at_j armed free => exact set at_j id
  | wrote calling at_j here free => exact set at_j id
  | stored calling at_j here => exact set at_j fun _ => rfl
  | _ => exact ⟨t, found, there⟩

/-- What is owed to a track that is in the store. -/
inductive Owed (g : SourceReports) (k : Nat) (t : ReportedTrack) : Prop where
  | waits (waiting : ∀ c ∈ g.binds, c.track = k → c.point = .entered)
  | binds {c : BindCall} (mem : c ∈ g.binds) (own : c.track = k) (here : c.point = .written)
  | awaits {r : SourceReport} (mem : r ∈ g.reports) (stream : r.stream = t.streamId)
      (comes : r.point = .spawned ∨ k ∈ ahead r)
  | introduced {r : SourceReport} {mid : String} (mem : r ∈ g.reports) (stream : r.stream = t.streamId)
      (described : sourceDescriptionChunks t.ssrc t.streamId mid ⊆ r.sds)

/-- What is owed stays owed, as long as binds that wait and those that have written are found again. -/
theorem Owed.mono (owed : Owed g k t)
    (waits : (∀ c ∈ g.binds, c.track = k → c.point = .entered) → ∀ c ∈ g'.binds, c.track = k → c.point = .entered)
    (binds : ∀ c ∈ g.binds, c.track = k → c.point = .written → c ∈ g'.binds) (reports : g.reports ⊆ g'.reports)
    (streamId : t'.streamId = t.streamId) (ssrc : t'.ssrc = t.ssrc) : Owed g' k t' := by
  cases owed with
  | waits waiting => exact .waits (waits waiting)
  | binds mem own here => exact .binds (binds _ mem own here) own here
  | awaits mem stream comes => exact .awaits (reports mem) (stream.trans streamId.symm) comes
  | @introduced r mid mem stream described =>
      have now : sourceDescriptionChunks t'.ssrc t'.streamId mid ⊆ r.sds := by
        rw [ssrc, streamId]
        exact described
      exact .introduced (reports mem) (stream.trans streamId.symm) now

/-- A bind goes on that is of another track, or had called its handler. -/
theorem Owed.resumed {i : Nat} {point : BindPoint} (owed : Owed g k t) (calling : g.binds[i]? = some c)
    (apart : c.track ≠ k ∨ c.point = .handled) (binds : g'.binds = g.binds.set i { c with point })
    (reports : g.reports ⊆ g'.reports) (streamId : t'.streamId = t.streamId) (ssrc : t'.ssrc = t.ssrc) :
    Owed g' k t' := by
  refine owed.mono (fun waiting other mem own => ?_) (fun other mem own here => ?_) reports streamId ssrc
  · rw [binds] at mem
    rcases List.mem_or_eq_of_mem_set mem with old | rfl
    · exact waiting other old own
    · have here := waiting c (List.mem_of_getElem? calling) own
      rcases apart with other | handled
      · exact absurd own other
      · cases here.symm.trans handled
  · refine binds ▸ mem_set_other calling mem ?_
    rintro rfl
    rcases apart with other | handled
    · exact other own
    · cases here.symm.trans handled

structure Introduces (g : SourceReports) : Prop where
  reporting : g.Reporting
  bound : ∀ c ∈ g.binds, c.point = .returned → g.bound c.track = true
  listed : ∀ c ∈ g.binds, c.point = .handled ∨ c.point = .returned →
    ∀ t, g.tracks[c.track]? = some t → t.point = .listed
  asked : ∀ r ∈ g.reports, ∀ k todo, r.point = .asking k todo → g.bound k = true
  owed : ∀ (k : Nat) (t : ReportedTrack), g.tracks[k]? = some t → k ∈ g.listed t.streamId → Owed g k t

theorem Introduces.start : Introduces {} where
  reporting := .start
  bound := nofun
  listed := nofun
  asked := nofun
  owed := nofun

/-- A report visits the tracks it has ahead, and describes those that are bound as they are. -/
theorem Owed.visits (inv : g.Introduces) (reporting : g.reports[j]? = some r) (visits : g.Visits r r' wrote)
    (inOrder : ∀ k, next r = some k → g.bound k = true ∨ g.handling k = false) (found : g.tracks[k]? = some t)
    (stored : k ∈ g.listed t.streamId) (owed : Owed g k t) (binds : g'.binds = g.binds)
    (reports : g'.reports = g.reports.set j r') : Owed g' k t := by
  have own : r' ∈ g'.reports := reports ▸ mem_set_self reporting
  have other {r₀ : SourceReport} (mem : r₀ ∈ g.reports) (differ : r ≠ r₀) : r₀ ∈ g'.reports :=
    reports ▸ mem_set_other reporting mem differ
  cases owed with
  | waits waiting => exact .waits (binds ▸ waiting)
  | binds mem own here => exact .binds (binds ▸ mem) own here
  | @introduced r₀ mid mem stream described =>
      by_cases it : r = r₀
      · subst it
        cases visits with
        | described here free at_k =>
            exact .introduced own stream fun chunk among => List.mem_append_left _ (described among)
        | _ => exact .introduced own stream described
      · exact .introduced (other mem it) stream described
  | @awaits r₀ mem stream comes =>
      by_cases it : r = r₀
      · subst it
        unfold ahead at comes
        cases visits with
        | entered here free =>
            refine .awaits own stream (Or.inr ?_)
            unfold ahead
            dsimp only
            rw [stream]
            exact stored
        | visited here => simp [here] at comes
        | @passed k' todo here unbound =>
            simp only [here, List.mem_cons, reduceCtorEq, false_or] at comes
            rcases comes with rfl | later
            · have unhandled := (inOrder k (by simp [next, here])).resolve_left (by simp [unbound])
              by_cases written : ∃ c ∈ g.binds, c.track = k ∧ c.point = .written
              · obtain ⟨c, among, of_k, at_c⟩ := written
                exact .binds (binds ▸ among) of_k at_c
              · refine .waits fun c among of_k => ?_
                rw [binds] at among
                cases point : c.point with
                | entered => rfl
                | written => exact absurd ⟨c, among, of_k, point⟩ written
                | handled => exact absurd (decide_eq_true ⟨of_k, point⟩) (List.any_eq_false.mp unhandled c among)
                | returned =>
                    have there := inv.bound c among point
                    rw [of_k, unbound] at there
                    cases there
            · exact .awaits own stream (Or.inr later)
        | asked here bound =>
            simp only [here, reduceCtorEq, false_or] at comes
            exact .awaits own stream (Or.inr comes)
        | dropped here at_k unbound =>
            have there := inv.asked r mem _ _ here
            obtain ⟨u, at_u, bound⟩ := bound_iff.mp there
            cases at_k.symm.trans at_u
            cases unbound.symm.trans bound
        | named here at_k bound =>
            simp only [here, reduceCtorEq, false_or] at comes
            exact .awaits own stream (Or.inr comes)
        | @described k' mid todo u here free at_k =>
            simp only [here, List.mem_cons, reduceCtorEq, false_or] at comes
            rcases comes with rfl | later
            · cases found.symm.trans at_k
              exact .introduced own stream fun chunk among => List.mem_append_right _ among
            · exact .awaits own stream (Or.inr later)
        | wrote here => simp [here] at comes
      · exact .awaits (other mem it) stream comes

theorem listed_added {s : String} (mem : k ∈ ((g.store.addDownTrack t.streamId j).getDowntracks s).getD []) :
    k = j ∨ k ∈ g.listed s := by
  unfold TrackStore.getDowntracks at mem
  unfold listed TrackStore.getDowntracks
  by_cases own : s = t.streamId
  · subst own
    rw [TrackStore.addDownTrack_self] at mem
    cases there : g.store.tracks t.streamId with
    | none =>
        rw [there] at mem
        cases mem
    | some dts =>
        rw [there] at mem
        rcases List.mem_append.mp mem with old | single
        · exact Or.inr old
        · exact Or.inl (List.mem_singleton.mp single)
  · rw [TrackStore.addDownTrack_other _ _ own] at mem
    exact Or.inr mem

/-- A track stays listed. -/
theorem Moves.stays_listed {e : ReportEvent} (h : g.Moves e g') :
    ∀ (k : Nat) (t' : ReportedTrack), g'.tracks[k]? = some t' → k < g.tracks.length →
      ∃ t : ReportedTrack, g.tracks[k]? = some t ∧ (t.point = .listed → t'.point = .listed) := by
  have set {j : Nat} {u u' : ReportedTrack} (at_j : g.tracks[j]? = some u)
      (keeps : u.point = .listed → u'.point = .listed) (k : Nat) (t' : ReportedTrack)
      (at_k : (g.tracks.set j u')[k]? = some t') (_ : k < g.tracks.length) :
      ∃ t : ReportedTrack, g.tracks[k]? = some t ∧ (t.point = .listed → t'.point = .listed) := by
    rcases lookup_set_cases at_k with ⟨rfl, rfl⟩ | ⟨-, old⟩
    · exact ⟨u, at_j, keeps⟩
    · exact ⟨t', old, id⟩
  cases h with
  | made id streamId =>
      intro k t' at_k short
      rcases lookup_append at_k with old | ⟨rfl, -⟩
      · exact ⟨t', old, fun here => here⟩
      · exact absurd short (Nat.lt_irrefl _)
  | marked at_j marks kept => exact set at_j marks.listed.mpr
  | listed at_j armed free => exact set at_j fun _ => rfl
  | wrote calling at_j here free => exact set at_j id
  | stored calling at_j here => exact set at_j id
  | _ => exact fun k t' at_k _ => ⟨t', at_k, id⟩

theorem InOrder.not_unbind {e : ReportEvent} (inOrder : g.InOrder e) (k : Nat) : e ≠ .unbind k := by
  rintro rfl
  exact inOrder

theorem Introduces.bound_step {e : ReportEvent} (inv : g.Introduces) (inOrder : g.InOrder e) (h : g.Moves e g') :
    ∀ c ∈ g'.binds, c.point = .returned → g'.bound c.track = true := by
  have old (c : BindCall) (mem : c ∈ g.binds) (ended : c.point = .returned) : g'.bound c.track = true :=
    h.stays_bound inOrder.not_unbind (inv.bound c mem ended)
  cases h with
  | called ssrc found => exact List.forall_mem_append.mpr ⟨old, List.forall_mem_singleton.mpr nofun⟩
  | wrote calling found here free =>
      refine forall_mem_set old ?_ _
      nofun
  | handled calling found here =>
      refine forall_mem_set old ?_ _
      nofun
  | @stored i c t calling found here =>
      refine forall_mem_set old (fun _ => ?_) i
      exact bound_iff.mpr ⟨{ t with bound := true }, (lookup_set found c.track).trans (if_pos rfl), rfl⟩
  | _ => exact old

/-- In order, a bind calls its handler when its track is listed. -/
theorem InOrder.handles_listed {i : Nat} (inOrder : g.InOrder (.resumeBind i)) (calling : g.binds[i]? = some c)
    (found : g.tracks[c.track]? = some t) (here : c.point = .written) : t.point = .listed := by
  simp only [InOrder, calling, found, here, Option.all_some] at inOrder
  simpa using inOrder

theorem Introduces.listed_step {e : ReportEvent} (inv : g.Introduces) (inOrder : g.InOrder e) (h : g.Moves e g') :
    ∀ c ∈ g'.binds, c.point = .handled ∨ c.point = .returned →
      ∀ t, g'.tracks[c.track]? = some t → t.point = .listed := by
  have old (c : BindCall) (mem : c ∈ g.binds) (past : c.point = .handled ∨ c.point = .returned)
      (t' : ReportedTrack) (found : g'.tracks[c.track]? = some t') : t'.point = .listed := by
    obtain ⟨t, before, keeps⟩ := h.stays_listed c.track t' found (inv.reporting.binds.valid c mem)
    exact keeps (inv.listed c mem past t before)
  cases h with
  | called ssrc found =>
      refine List.forall_mem_append.mpr ⟨old, List.forall_mem_singleton.mpr ?_⟩
      rintro (past | past) <;> cases past
  | wrote calling found here free =>
      refine forall_mem_set old ?_ _
      rintro (past | past) <;> cases past
  | handled calling found here =>
      refine forall_mem_set old (fun _ t at_c => ?_) _
      cases found.symm.trans at_c
      exact inOrder.handles_listed calling found here
  | @stored i c t calling found here =>
      refine forall_mem_set old (fun _ => ?_) i
      exact old c (List.mem_of_getElem? calling) (Or.inl here)
  | _ => exact old

/-- A report asks a second time only about a track that it has found bound. -/
theorem Introduces.asked_step {e : ReportEvent} (inv : g.Introduces) (inOrder : g.InOrder e) (h : g.Moves e g') :
    ∀ r ∈ g'.reports, ∀ k todo, r.point = .asking k todo → g'.bound k = true := by
  have old (r : SourceReport) (mem : r ∈ g.reports) (k : Nat) (todo : List Nat) (here : r.point = .asking k todo) :
      g'.bound k = true :=
    h.stays_bound inOrder.not_unbind (inv.asked r mem k todo here)
  cases h with
  | handled calling found here =>
      intro r mem
      dsimp only at mem
      split at mem
      · exact old r mem
      · rcases List.mem_append.mp mem with among | single
        · exact old r among
        · rw [List.mem_singleton.mp single]
          nofun
  | visits reporting visits =>
      refine forall_mem_set old (fun k todo now => ?_) _
      cases visits with
      | asked here there =>
          cases now
          exact there
      | visited here =>
          dsimp only at now
          split at now <;> cases now
      | wrote here =>
          dsimp only at now
          split at now <;> cases now
      | _ => cases now
  | _ => exact old

/-- A track that comes to be listed has had no bind past its handler. -/
theorem Introduces.unhandled (inv : g.Introduces) (found : g.tracks[k]? = some t) (unlisted : t.point ≠ .listed)
    (mem : c ∈ g.binds) (own : c.track = k) : c.point = .entered ∨ c.point = .written := by
  have early (past : c.point = .handled ∨ c.point = .returned) : False :=
    unlisted (inv.listed c mem past t (own ▸ found))
  cases point : c.point with
  | entered => exact Or.inl rfl
  | written => exact Or.inr rfl
  | handled => exact (early (Or.inl point)).elim
  | returned => exact (early (Or.inr point)).elim

theorem Introduces.owed_step {e : ReportEvent} (inv : g.Introduces) (inOrder : g.InOrder e) (h : g.Moves e g') :
    ∀ (k : Nat) (t : ReportedTrack), g'.tracks[k]? = some t → k ∈ g'.listed t.streamId → Owed g' k t := by
  have same {k : Nat} {t t' : ReportedTrack} (owed : Owed g k t) (binds : g'.binds = g.binds)
      (reports : g'.reports = g.reports) (streamId : t'.streamId = t.streamId) (ssrc : t'.ssrc = t.ssrc) :
      Owed g' k t' :=
    owed.mono (fun waiting => binds ▸ waiting) (fun c mem _ _ => binds ▸ mem) (fun r mem => reports ▸ mem) streamId
      ssrc
  cases h with
  | made id streamId =>
      refine forall_append (fun k t at_k stored => same (inv.owed k t at_k stored) rfl rfl rfl rfl) fun _ => ?_
      exact .waits fun c mem own => absurd (inv.reporting.binds.valid c mem) (own ▸ Nat.lt_irrefl _)
  | marked found marks kept =>
      refine forall_set inv.owed (fun stored => ?_) fun k t _ old stored => same (old stored) rfl rfl rfl rfl
      rw [marks.streamId] at stored
      exact same (inv.owed _ _ found stored) rfl rfl marks.streamId marks.ssrc
  | @listed j t found armed free =>
      refine forall_set inv.owed (fun _ => ?_) fun k u other old stored => ?_
      · have early {c : BindCall} := inv.unhandled (c := c) found (by rw [armed]; nofun)
        by_cases written : ∃ c ∈ g.binds, c.track = j ∧ c.point = .written
        · obtain ⟨c, mem, own, here⟩ := written
          exact .binds mem own here
        · exact .waits fun c mem own => (early mem own).resolve_right fun here => written ⟨c, mem, own, here⟩
      · have before := (listed_added stored).resolve_left other
        exact same (old before) rfl rfl rfl rfl
  | removed found =>
      intro k t at_k stored
      exact same (inv.owed k t at_k ((listed_removed t.streamId).subset stored)) rfl rfl rfl rfl
  | called ssrc found =>
      intro k t at_k stored
      refine (inv.owed k t at_k stored).mono (fun waiting => ?_) (fun c mem _ _ => List.mem_append_left _ mem)
        (fun r mem => mem) rfl rfl
      exact List.forall_mem_append.mpr ⟨waiting, List.forall_mem_singleton.mpr fun _ => rfl⟩
  | @wrote i c t calling found here free =>
      refine forall_set inv.owed (fun _ => .binds (mem_set_self calling) rfl rfl) fun k u other old stored => ?_
      exact (old stored).resumed calling (Or.inl (Ne.symm other)) rfl (fun r mem => mem) rfl rfl
  | @handled i c t calling found here =>
      have spawned : (if t.point = .transceiver then g.reports else g.reports ++ [{ stream := t.streamId }]) =
          g.reports ++ [{ stream := t.streamId }] := by
        rw [inOrder.handles_listed calling found here]
        rfl
      intro k u at_k stored
      by_cases own : c.track = k
      · subst own
        cases found.symm.trans at_k
        refine .awaits (r := { stream := t.streamId }) ?_ rfl (Or.inl rfl)
        dsimp only
        rw [spawned]
        exact List.mem_append_right _ List.mem_cons_self
      · refine (inv.owed k u at_k stored).resumed calling (Or.inl own) rfl (fun r mem => ?_) rfl rfl
        dsimp only
        rw [spawned]
        exact List.mem_append_left _ mem
  | stored calling found here =>
      refine forall_set inv.owed (fun stored => ?_) fun k u _ old stored => ?_
      · exact (inv.owed _ _ found stored).resumed calling (Or.inr here) rfl (fun r mem => mem) rfl rfl
      · exact (old stored).resumed calling (Or.inr here) rfl (fun r mem => mem) rfl rfl
  | visits reporting visits =>
      intro k t at_k stored
      refine (inv.owed k t at_k stored).visits inv reporting visits (fun k coming => ?_) at_k stored rfl rfl
      simp only [InOrder, reporting, coming, Option.all_some] at inOrder
      simpa using inOrder

theorem Introduces.step {e : ReportEvent} (inv : g.Introduces) (inOrder : g.InOrder e) (h : g.Moves e g') :
    g'.Introduces where
  reporting := inv.reporting.step h
  bound := inv.bound_step inOrder h
  listed := inv.listed_step inOrder h
  asked := inv.asked_step inOrder h
  owed := inv.owed_step inOrder h

/-- In a run in which no report comes to a track too early, when no bind and no report can go on any
more, each track that was bound and is in the store has been described by its ssrc seven times. -/
theorem run_introduces {events : List ReportEvent} (inOrder : Guarded step InOrder {} events)
    (reached : run step {} events = some g) (rested : g.Rested) (mem : c ∈ g.binds)
    (found : g.tracks[c.track]? = some t) (stored : c.track ∈ g.listed t.streamId) :
    ∃ (j : Nat) (r : SourceReport) (mid : String), g.reports[j]? = some r ∧ r.stream = t.streamId ∧
      sourceDescriptionChunks t.ssrc t.streamId mid ⊆ r.sds ∧ g.writesOf j = List.replicate 7 r.sds := by
  have inv := run_invariant Introduces (fun _ _ _ inv met h => inv.step met (step_moves h)) .start inOrder reached
  obtain ⟨bindsDone, reportsDone⟩ := rested_returned inv.reporting rested
  have ended := bindsDone c mem
  cases inv.owed c.track t found stored with
  | waits waiting => cases (waiting c mem rfl).symm.trans ended
  | binds other own here => cases here.symm.trans (bindsDone _ other)
  | awaits among stream comes =>
      have done := reportsDone _ among
      simp [ahead, done] at comes
  | @introduced r mid among stream described =>
      have done := reportsDone r among
      obtain ⟨j, at_j⟩ := List.mem_iff_getElem?.mp among
      have turned := (inv.reporting.writes.turned j r at_j).1
      have some : r.sds ≠ [] := List.ne_nil_of_mem (described List.mem_cons_self)
      refine ⟨j, r, mid, at_j, stream, described, ?_⟩
      rw [turned]
      simp only [turns, done, some, if_false]

theorem returned_rested (binds : ∀ c ∈ g.binds, c.point = .returned)
    (reports : ∀ r ∈ g.reports, r.point = .returned) : g.Rested := by
  constructor
  · intro i
    cases calling : g.binds[i]? with
    | none => simp [step, calling]
    | some c =>
        have done := binds c (List.mem_of_getElem? calling)
        cases found : g.tracks[c.track]? <;> simp [step, calling, found, resumeBind, done]
  · intro j
    cases reporting : g.reports[j]? with
    | none => simp [step, reporting]
    | some r => simp [step, reporting, resumeReport, reports r (List.mem_of_getElem? reporting)]

theorem run_introduces_camera : ∃ g j r mid,
    run step {} (twoReported ++ List.replicate 12 (.resumeReport 1)) = some g ∧ g.Rested ∧
    g.reports[j]? = some r ∧ sourceDescriptionChunks 9 "desk" mid ⊆ r.sds ∧
    g.writesOf j = List.replicate 7 r.sds := by
  have inOrder : Guarded step InOrder {} (twoReported ++ List.replicate 12 (.resumeReport 1)) := by decide +kernel
  have computed : (run step {} (twoReported ++ List.replicate 12 (.resumeReport 1))).map
      (fun g => (g.binds, g.tracks[1]?, g.listed "desk", g.reports.map SourceReport.point)) =
      some ([⟨0, 7, .returned⟩, ⟨1, 9, .returned⟩], some ⟨"camera", "desk", "1", 9, true, .listed⟩, [1],
        [.returned, .returned]) := by decide +kernel
  obtain ⟨g, reached, same⟩ := Option.map_eq_some_iff.mp computed
  obtain ⟨binds, same⟩ := Prod.mk.inj same
  obtain ⟨found, same⟩ := Prod.mk.inj same
  obtain ⟨stored, points⟩ := Prod.mk.inj same
  have rested : g.Rested := by
    refine returned_rested ?_ fun r mem => ?_
    · rw [binds]
      decide
    · have among := List.mem_map_of_mem (f := SourceReport.point) mem
      rw [points] at among
      simpa using among
  have bound : (⟨1, 9, .returned⟩ : BindCall) ∈ g.binds := by
    rw [binds]
    decide
  have listed : 1 ∈ g.listed "desk" := by
    rw [stored]
    decide
  obtain ⟨j, r, mid, at_j, -, described, wrote⟩ := run_introduces inOrder reached rested bound found listed
  exact ⟨g, j, r, mid, reached, rested, at_j, described, wrote⟩

/-- A report that comes to the camera before its bind has said that it is bound finds nothing to write. -/
example : (run step {} ([.addTransceiver "microphone" "desk", .addTransceiver "camera" "desk", .onBind 0,
      .addDownTrack 0, .onBind 1, .addDownTrack 1, .bind 1 9, .resumeBind 0, .resumeBind 0] ++
      List.replicate 3 (.resumeReport 0) ++ [.resumeBind 0])).map
    (fun g => (g.bound 1, g.reports.map SourceReport.point, g.written)) = some (true, [.returned], []) := by
  decide +kernel

end SourceReports
end Rsfu
