import Rsfu.DownTrack
import Rsfu.TaskTable
import Rsfu.TrackStore

/-! Source descriptions of a subscriber's down tracks. A bind has a report spawned on the stream of
its track, which visits the tracks listed under the stream and writes what it found seven times. -/
namespace Rsfu
open GuardedRun TaskTable

inductive SdesType where
  | sdesCname
  deriving DecidableEq

/-- The text is kept as the string it is the bytes of. -/
structure SourceDescriptionItem where
  sdesType : SdesType
  text : String
  deriving DecidableEq

structure SourceDescriptionChunk where
  source : UInt32
  items : List SourceDescriptionItem
  deriving DecidableEq

def sourceDescriptionChunks (ssrc : UInt32) (streamId mid : String) : List SourceDescriptionChunk :=
  [⟨ssrc, [⟨.sdesCname, streamId⟩]⟩, ⟨ssrc, [⟨.sdesCname, mid⟩]⟩]

/-- How far the router's `add_down_track` has come with its track. -/
inductive ListingPoint where
  | transceiver
  | onBind
  | listed
  deriving DecidableEq

structure ReportedTrack where
  id : String
  streamId : String
  mid : String := ""
  ssrc : UInt32 := 0
  bound : Bool := false
  point : ListingPoint := .transceiver
  deriving DecidableEq

/-- A bind holds the guard of the track's ssrc from `written` to its end. -/
inductive BindPoint where
  | entered
  | written
  | handled
  | returned
  deriving DecidableEq

structure BindCall where
  track : Nat
  ssrc : UInt32
  point : BindPoint := .entered
  deriving DecidableEq

def BindCall.holdsSsrc (k : Nat) (c : BindCall) : Bool :=
  c.track = k ∧ (c.point = .written ∨ c.point = .handled)

/-- A report holds `tracks` until it has visited them all. -/
inductive ReportPoint where
  | spawned
  | visiting (todo : List Nat)
  | asking (k : Nat) (todo : List Nat)
  | describing (k : Nat) (mid : String) (todo : List Nat)
  | writing (i : Nat)
  | returned
  deriving DecidableEq

/-- `named` are the tracks it has found bound when it asked for their mid, each with the mid its
transceiver had then, a record that the code does not keep. -/
structure SourceReport where
  stream : String
  point : ReportPoint := .spawned
  sds : List SourceDescriptionChunk := []
  named : List (Nat × String) := []
  deriving DecidableEq

def SourceReport.holdsTracks (r : SourceReport) : Bool :=
  match r.point with
  | .visiting _ | .asking _ _ | .describing _ _ _ => true
  | _ => false

/-- A subscriber's down tracks with the binds and reports under way. `written` is what reports have
written, each under its report; `listings` are the tracks in the order they were listed in, a record
that the code does not keep. -/
structure SourceReports where
  tracks : List ReportedTrack := []
  store : TrackStore Nat := {}
  binds : List BindCall := []
  reports : List SourceReport := []
  written : List (Nat × List SourceDescriptionChunk) := []
  listings : List (String × Nat) := []

inductive ReportEvent where
  | addTransceiver (id streamId : String)
  | onBind (k : Nat)
  | addDownTrack (k : Nat)
  | removeDownTrack (k : Nat)
  | setMid (k : Nat) (mid : String)
  | bind (k : Nat) (ssrc : UInt32)
  | unbind (k : Nat)
  | resumeBind (i : Nat)
  | resumeReport (j : Nat)

namespace SourceReports

def trackId (g : SourceReports) (k : Nat) : String := (g.tracks[k]?).elim "" ReportedTrack.id

def bound (g : SourceReports) (k : Nat) : Bool := (g.tracks[k]?).any ReportedTrack.bound

def tracksLocked (g : SourceReports) : Bool := g.reports.any SourceReport.holdsTracks

def ssrcLocked (g : SourceReports) (k : Nat) : Bool := g.binds.any (BindCall.holdsSsrc k)

def listed (g : SourceReports) (s : String) : List Nat := (g.store.getDowntracks s).getD []

/-- The tracks listed under a stream since the start, with those that the store has lost or removed. -/
def under (g : SourceReports) (s : String) : List Nat := (g.listings.filter fun e => e.1 = s).map Prod.snd

def writesOf (g : SourceReports) (j : Nat) : List (List SourceDescriptionChunk) :=
  (g.written.filter fun e => e.1 = j).map Prod.snd

/-- A bind writes the ssrc, calls its handler and only then says that the track is bound. -/
def resumeBind (g : SourceReports) (i : Nat) (c : BindCall) (t : ReportedTrack) : Option SourceReports :=
  match c.point with
  | .entered =>
      if g.ssrcLocked c.track then none
      else some { g with
        binds := g.binds.set i { c with point := .written }
        tracks := g.tracks.set c.track { t with ssrc := c.ssrc } }
  | .written => some { g with
      binds := g.binds.set i { c with point := .handled }
      reports := if t.point = .transceiver then g.reports else g.reports ++ [{ stream := t.streamId }] }
  | .handled => some { g with
      binds := g.binds.set i { c with point := .returned }
      tracks := g.tracks.set c.track { t with bound := true } }
  | .returned => none

/-- `bound` is asked before a track is described and again when its chunks are created. -/
def resumeReport (g : SourceReports) (j : Nat) (r : SourceReport) : Option SourceReports :=
  match r.point with
  | .spawned =>
      if g.tracksLocked then none
      else some { g with reports := g.reports.set j { r with point := .visiting (g.listed r.stream) } }
  | .visiting [] =>
      some { g with reports := g.reports.set j { r with point := if r.sds = [] then .returned else .writing 0 } }
  | .visiting (k :: todo) => some { g with
      reports := g.reports.set j { r with point := if g.bound k then .asking k todo else .visiting todo } }
  | .asking k todo => (g.tracks[k]?).map fun t => { g with
      reports := g.reports.set j { r with
        point := if t.bound then .describing k t.mid todo else .visiting todo
        named := if t.bound then r.named ++ [(k, t.mid)] else r.named } }
  | .describing k mid todo =>
      if g.ssrcLocked k then none
      else (g.tracks[k]?).map fun t => { g with
        reports := g.reports.set j
          { r with point := .visiting todo, sds := r.sds ++ sourceDescriptionChunks t.ssrc t.streamId mid } }
  | .writing i => some { g with
      reports := g.reports.set j { r with point := if 5 < i then .returned else .writing (i + 1) }
      written := g.written ++ [(j, r.sds)] }
  | .returned => none

/-- A transceiver is given its mid once; a bind that finds no codec fails before it does anything. -/
def step (g : SourceReports) : ReportEvent → Option SourceReports
  | .addTransceiver id streamId => some { g with tracks := g.tracks ++ [{ id, streamId }] }
  | .onBind k => (g.tracks[k]?).bind fun t =>
      if t.point = .transceiver then some { g with tracks := g.tracks.set k { t with point := .onBind } } else none
  | .addDownTrack k => (g.tracks[k]?).bind fun t =>
      if t.point = .onBind ∧ g.tracksLocked = false then
        some { g with
          tracks := g.tracks.set k { t with point := .listed }
          store := g.store.addDownTrack t.streamId k
          listings := g.listings ++ [(t.streamId, k)] }
      else none
  | .removeDownTrack k => (g.tracks[k]?).bind fun t =>
      if g.tracksLocked then none else some { g with store := g.store.removeDownTrack g.trackId t.streamId k }
  | .setMid k mid => (g.tracks[k]?).bind fun t =>
      if t.mid = "" then some { g with tracks := g.tracks.set k { t with mid } } else none
  | .bind k ssrc => (g.tracks[k]?).map fun _ => { g with binds := g.binds ++ [{ track := k, ssrc }] }
  | .unbind k => (g.tracks[k]?).map fun t => { g with tracks := g.tracks.set k { t with bound := false } }
  | .resumeBind i => (g.binds[i]?).bind fun c => (g.tracks[c.track]?).bind (g.resumeBind i c)
  | .resumeReport j => (g.reports[j]?).bind (g.resumeReport j)

/-- What a report does next, and what it writes. -/
inductive Visits (g : SourceReports) (r : SourceReport) :
    SourceReport → List (List SourceDescriptionChunk) → Prop where
  | entered (here : r.point = .spawned) (free : g.tracksLocked = false) :
      Visits g r { r with point := .visiting (g.listed r.stream) } []
  | visited (here : r.point = .visiting []) :
      Visits g r { r with point := if r.sds = [] then .returned else .writing 0 } []
  | passed {k todo} (here : r.point = .visiting (k :: todo)) (unbound : g.bound k = false) :
      Visits g r { r with point := .visiting todo } []
  | asked {k todo} (here : r.point = .visiting (k :: todo)) (bound : g.bound k = true) :
      Visits g r { r with point := .asking k todo } []
  | dropped {k todo t} (here : r.point = .asking k todo) (found : g.tracks[k]? = some t) (unbound : t.bound = false) :
      Visits g r { r with point := .visiting todo } []
  | named {k todo t} (here : r.point = .asking k todo) (found : g.tracks[k]? = some t) (bound : t.bound = true) :
      Visits g r { r with point := .describing k t.mid todo, named := r.named ++ [(k, t.mid)] } []
  | described {k mid todo t} (here : r.point = .describing k mid todo) (free : g.ssrcLocked k = false)
      (found : g.tracks[k]? = some t) :
      Visits g r { r with
        point := .visiting todo, sds := r.sds ++ sourceDescriptionChunks t.ssrc t.streamId mid } []
  | wrote {i} (here : r.point = .writing i) :
      Visits g r { r with point := if 5 < i then .returned else .writing (i + 1) } [r.sds]

/-- The track as a call has changed it that neither lists nor binds it. -/
structure Marks (t t' : ReportedTrack) : Prop where
  streamId : t'.streamId = t.streamId
  ssrc : t'.ssrc = t.ssrc
  bound : t'.bound = true → t.bound = true
  listed : t'.point = .listed ↔ t.point = .listed

inductive Moves (g : SourceReports) : ReportEvent → SourceReports → Prop where
  | made (id streamId : String) :
      Moves g (.addTransceiver id streamId) { g with tracks := g.tracks ++ [{ id, streamId }] }
  | marked {e k t t'} (found : g.tracks[k]? = some t) (marks : Marks t t')
      (kept : (∀ k, e ≠ .unbind k) → t'.bound = t.bound) : Moves g e { g with tracks := g.tracks.set k t' }
  | listed {k t} (found : g.tracks[k]? = some t) (armed : t.point = .onBind) (free : g.tracksLocked = false) :
      Moves g (.addDownTrack k) { g with
        tracks := g.tracks.set k { t with point := .listed }
        store := g.store.addDownTrack t.streamId k
        listings := g.listings ++ [(t.streamId, k)] }
  | removed {k t} (found : g.tracks[k]? = some t) :
      Moves g (.removeDownTrack k) { g with store := g.store.removeDownTrack g.trackId t.streamId k }
  | called {k t} (ssrc : UInt32) (found : g.tracks[k]? = some t) :
      Moves g (.bind k ssrc) { g with binds := g.binds ++ [{ track := k, ssrc }] }
  | wrote {i c t} (calling : g.binds[i]? = some c) (found : g.tracks[c.track]? = some t) (here : c.point = .entered)
      (free : g.ssrcLocked c.track = false) :
      Moves g (.resumeBind i) { g with
        binds := g.binds.set i { c with point := .written }
        tracks := g.tracks.set c.track { t with ssrc := c.ssrc } }
  | handled {i c t} (calling : g.binds[i]? = some c) (found : g.tracks[c.track]? = some t)
      (here : c.point = .written) :
      Moves g (.resumeBind i) { g with
        binds := g.binds.set i { c with point := .handled }
        reports := if t.point = .transceiver then g.reports else g.reports ++ [{ stream := t.streamId }] }
  | stored {i c t} (calling : g.binds[i]? = some c) (found : g.tracks[c.track]? = some t)
      (here : c.point = .handled) :
      Moves g (.resumeBind i) { g with
        binds := g.binds.set i { c with point := .returned }
        tracks := g.tracks.set c.track { t with bound := true } }
  | visits {j r r' wrote} (reporting : g.reports[j]? = some r) (visits : g.Visits r r' wrote) :
      Moves g (.resumeReport j) { g with
        reports := g.reports.set j r', written := g.written ++ wrote.map fun w => (j, w) }

variable {g g' : SourceReports} {t t' : ReportedTrack} {c : BindCall} {r r' : SourceReport} {k : Nat}

theorem resumeReport_visits {j : Nat} (h : g.resumeReport j r = some g') :
    ∃ r' wrote, g.Visits r r' wrote ∧
      g' = { g with reports := g.reports.set j r', written := g.written ++ wrote.map fun w => (j, w) } := by
  unfold resumeReport at h
  split at h
  next here =>
      split at h
      · cases h
      · rename_i free
        cases h
        exact ⟨_, [], .entered here (Bool.eq_false_of_not_eq_true free), by rw [List.map_nil, List.append_nil]⟩
  next here =>
      cases h
      exact ⟨_, [], .visited here, by rw [List.map_nil, List.append_nil]⟩
  next k todo here =>
      cases h
      cases bound : g.bound k with
      | false => exact ⟨_, [], .passed here bound, by rw [List.map_nil, List.append_nil]; rfl⟩
      | true => exact ⟨_, [], .asked here bound, by rw [List.map_nil, List.append_nil]; rfl⟩
  next k todo here =>
      obtain ⟨t, found, rfl⟩ := Option.map_eq_some_iff.mp h
      cases bound : t.bound with
      | false => exact ⟨_, [], .dropped here found bound, by rw [List.map_nil, List.append_nil]; rfl⟩
      | true => exact ⟨_, [], .named here found bound, by rw [List.map_nil, List.append_nil]; rfl⟩
  next k mid todo here =>
      split at h
      · cases h
      · rename_i free
        obtain ⟨t, found, rfl⟩ := Option.map_eq_some_iff.mp h
        refine ⟨_, [], .described here (Bool.eq_false_of_not_eq_true free) found, ?_⟩
        rw [List.map_nil, List.append_nil]
  next i here =>
      cases h
      exact ⟨_, [r.sds], .wrote here, rfl⟩
  next => cases h

theorem step_moves {e : ReportEvent} (h : g.step e = some g') : g.Moves e g' := by
  cases e with
  | addTransceiver id streamId =>
      cases h
      exact .made id streamId
  | onBind k =>
      obtain ⟨t, found, h⟩ := Option.bind_eq_some_iff.mp h
      split at h
      · rename_i bare
        cases h
        refine .marked found ⟨rfl, rfl, id, ?_⟩ fun _ => rfl
        rw [bare]
        exact iff_of_false nofun nofun
      · cases h
  | addDownTrack k =>
      obtain ⟨t, found, h⟩ := Option.bind_eq_some_iff.mp h
      split at h
      · rename_i both
        cases h
        exact .listed found both.1 both.2
      · cases h
  | removeDownTrack k =>
      obtain ⟨t, found, h⟩ := Option.bind_eq_some_iff.mp h
      split at h
      · cases h
      · cases h
        exact .removed found
  | setMid k mid =>
      obtain ⟨t, found, h⟩ := Option.bind_eq_some_iff.mp h
      split at h
      · cases h
        exact .marked found ⟨rfl, rfl, id, Iff.rfl⟩ fun _ => rfl
      · cases h
  | bind k ssrc =>
      obtain ⟨t, found, rfl⟩ := Option.map_eq_some_iff.mp h
      exact .called ssrc found
  | unbind k =>
      obtain ⟨t, found, rfl⟩ := Option.map_eq_some_iff.mp h
      exact .marked found ⟨rfl, rfl, Bool.noConfusion, Iff.rfl⟩ fun other => absurd rfl (other k)
  | resumeBind i =>
      obtain ⟨c, calling, h⟩ := Option.bind_eq_some_iff.mp h
      obtain ⟨t, found, h⟩ := Option.bind_eq_some_iff.mp h
      unfold resumeBind at h
      split at h
      next here =>
          split at h
          · cases h
          · rename_i free
            cases h
            exact .wrote calling found here (Bool.eq_false_of_not_eq_true free)
      next here =>
          cases h
          exact .handled calling found here
      next here =>
          cases h
          exact .stored calling found here
      next => cases h
  | resumeReport j =>
      obtain ⟨r, reporting, h⟩ := Option.bind_eq_some_iff.mp h
      obtain ⟨r', wrote, visits, rfl⟩ := resumeReport_visits h
      exact .visits reporting visits

/-- A bind that nobody interrupts leaves the ssrc and the mark that the down track's own bind leaves. -/
theorem bind_alone {d d' : DownTrack} {context : TrackLocalContext} {now : Nat} {codec : CodecParameters}
    (h : d.bind context now = (d', some codec)) (found : g.tracks[k]? = some t) (free : g.ssrcLocked k = false) :
    (run step g (.bind k context.ssrc :: List.replicate 3 (.resumeBind g.binds.length))).map
      (fun g' => g'.tracks[k]?) = some (some { t with ssrc := d'.ssrc, bound := d'.bound }) := by
  have binds : d'.ssrc = context.ssrc ∧ d'.bound = true := by
    unfold DownTrack.bind at h
    split at h
    · cases h
    · cases h
      exact ⟨rfl, rfl⟩
  rw [binds.1, binds.2]
  obtain ⟨short, same⟩ := List.getElem?_eq_some_iff.mp found
  have unheld : (g.binds ++ [({ track := k, ssrc := context.ssrc } : BindCall)]).any (BindCall.holdsSsrc k) =
      false := by
    rw [List.any_append]
    unfold ssrcLocked at free
    simp [free, BindCall.holdsSsrc]
  simp [List.replicate, run, step, resumeBind, ssrcLocked, unheld, short, same]

/-- The store holds, of the tracks listed under a stream, some behind the first. -/
structure Listings (g : SourceReports) : Prop where
  known : ∀ e ∈ g.listings, ∃ t : ReportedTrack, g.tracks[e.2]? = some t ∧ t.streamId = e.1 ∧ t.point = .listed
  nodup : (g.listings.map Prod.snd).Nodup
  first : ∀ s, (g.store.tracks s).isSome = true → g.under s ≠ []
  behind : ∀ s, (g.listed s).Sublist (g.under s).tail

theorem Listings.start : Listings {} where
  known := nofun
  nodup := List.nodup_nil
  first := nofun
  behind := fun _ => List.Sublist.refl _

theorem under_append {streamId : String} (same : g'.listings = g.listings ++ [(streamId, k)]) (s : String) :
    g'.under s = if streamId = s then g.under s ++ [k] else g.under s := by
  unfold under
  rw [same, List.filter_append, List.map_append]
  by_cases own : streamId = s <;> simp [own]

/-- What is listed under a stream stays there. -/
theorem Listings.retracked (inv : g.Listings) (listings : g'.listings = g.listings) (store : g'.store = g.store)
    (tracks : ∀ (k : Nat) (t : ReportedTrack), g.tracks[k]? = some t →
      ∃ t' : ReportedTrack, g'.tracks[k]? = some t' ∧ t'.streamId = t.streamId ∧
      (t.point = .listed → t'.point = .listed)) : g'.Listings := by
  have under (s : String) : g'.under s = g.under s := by unfold SourceReports.under; rw [listings]
  constructor
  · rw [listings]
    intro e mem
    obtain ⟨t, found, stream, here⟩ := inv.known e mem
    obtain ⟨t', found', same, stays⟩ := tracks e.2 t found
    exact ⟨t', found', same.trans stream, stays here⟩
  · rw [listings]
    exact inv.nodup
  · intro s there
    rw [under]
    exact inv.first s (store ▸ there)
  · intro s
    unfold listed
    rw [under, store]
    exact inv.behind s

theorem tracks_set (found : g.tracks[k]? = some t) (streamId : t'.streamId = t.streamId)
    (stays : t.point = .listed → t'.point = .listed) :
    ∀ (j : Nat) (u : ReportedTrack), g.tracks[j]? = some u →
      ∃ u' : ReportedTrack, (g.tracks.set k t')[j]? = some u' ∧ u'.streamId = u.streamId ∧
      (u.point = .listed → u'.point = .listed) := by
  intro j u at_j
  rw [lookup_set found]
  by_cases own : k = j
  · subst own
    cases found.symm.trans at_j
    exact ⟨t', if_pos rfl, streamId, stays⟩
  · exact ⟨u, (if_neg own).trans at_j, rfl, id⟩

theorem Listings.add (inv : g.Listings) (found : g.tracks[k]? = some t) (armed : t.point = .onBind) :
    Listings { g with
      tracks := g.tracks.set k { t with point := .listed }
      store := g.store.addDownTrack t.streamId k
      listings := g.listings ++ [(t.streamId, k)] } := by
  have fresh : k ∉ g.listings.map Prod.snd := by
    intro mem
    obtain ⟨e, among, rfl⟩ := List.mem_map.mp mem
    obtain ⟨u, at_k, -, here⟩ := inv.known e among
    cases found.symm.trans at_k
    cases armed.symm.trans here
  have moved (j : Nat) (u : ReportedTrack) (at_j : g.tracks[j]? = some u) :
      ∃ u' : ReportedTrack, (g.tracks.set k { t with point := .listed })[j]? = some u' ∧
        u'.streamId = u.streamId ∧ (u.point = .listed → u'.point = .listed) := by
    refine tracks_set found ?_ ?_ j u at_j
    · rfl
    · exact fun _ => rfl
  constructor
  · intro e mem
    rcases List.mem_append.mp mem with old | single
    · obtain ⟨u, at_e, stream, here⟩ := inv.known e old
      obtain ⟨u', at_e', same, stays⟩ := moved e.2 u at_e
      exact ⟨u', at_e', same.trans stream, stays here⟩
    · cases List.mem_singleton.mp single
      exact ⟨{ t with point := .listed }, (lookup_set found k).trans (if_pos rfl), rfl, rfl⟩
  · rw [List.map_append, List.nodup_append]
    refine ⟨inv.nodup, List.nodup_singleton _, ?_⟩
    rintro a mem b single rfl
    cases List.mem_singleton.mp single
    exact fresh mem
  · intro s there
    rw [under_append (g := g) rfl s]
    split
    · exact List.append_ne_nil_of_right_ne_nil _ (List.cons_ne_nil _ _)
    · rename_i other
      rw [TrackStore.addDownTrack_other _ _ (Ne.symm other)] at there
      exact inv.first s there
  · intro s
    have old := inv.behind s
    rw [under_append (g := g) rfl s]
    unfold listed TrackStore.getDowntracks at old ⊢
    split
    · rename_i own
      subst own
      rw [TrackStore.addDownTrack_self]
      cases there : g.store.tracks t.streamId with
      | none => exact List.nil_sublist _
      | some dts =>
          have several := inv.first t.streamId (by rw [there]; rfl)
          rw [there] at old
          rw [List.tail_append_of_ne_nil several]
          exact List.Sublist.append old (List.Sublist.refl _)
    · rename_i other
      rw [TrackStore.addDownTrack_other _ _ (Ne.symm other)]
      exact old

theorem listed_removed (s : String) :
    ((g.store.removeDownTrack g.trackId t.streamId k).getDowntracks s).getD [] |>.Sublist (g.listed s) := by
  by_cases own : s = t.streamId
  · subst own
    rw [TrackStore.removeDownTrack_listed]
    split
    · exact List.eraseIdx_sublist ..
    · exact List.Sublist.refl _
  · unfold TrackStore.getDowntracks listed
    rw [TrackStore.removeDownTrack_other _ _ own]
    exact List.Sublist.refl _

theorem Listings.step {e : ReportEvent} (inv : g.Listings) (h : g.Moves e g') : g'.Listings := by
  cases h with
  | made id streamId =>
      exact inv.retracked rfl rfl fun k t found => ⟨t, lookup_append_old found, rfl, fun here => here⟩
  | marked found marks kept => exact inv.retracked rfl rfl (tracks_set found marks.streamId marks.listed.mpr)
  | listed found armed free => exact inv.add found armed
  | removed found =>
      refine ⟨inv.known, inv.nodup, fun s there => ?_, fun s => (listed_removed s).trans (inv.behind s)⟩
      rw [TrackStore.removeDownTrack_isSome] at there
      exact inv.first s there
  | called ssrc found => exact inv.retracked rfl rfl fun k t found => ⟨t, found, rfl, fun here => here⟩
  | wrote calling found here free => exact inv.retracked rfl rfl (tracks_set found rfl fun here => here)
  | handled calling found here => exact inv.retracked rfl rfl fun k t found => ⟨t, found, rfl, fun here => here⟩
  | stored calling found here => exact inv.retracked rfl rfl (tracks_set found rfl fun here => here)
  | visits reporting visits => exact inv.retracked rfl rfl fun k t found => ⟨t, found, rfl, fun here => here⟩

/-- A bound track was bound by a call that has ended, and its ssrc is that of a call past the guard. -/
structure BoundBy (binds : List BindCall) (k : Nat) (t : ReportedTrack) : Prop where
  bound : t.bound = true → ∃ c ∈ binds, c.track = k ∧ c.point = .returned
  ssrc : (∀ c ∈ binds, c.track = k → c.point = .entered) ∨
    ∃ c ∈ binds, c.track = k ∧ c.ssrc = t.ssrc ∧ c.point ≠ .entered

theorem BoundBy.called {binds : List BindCall} {ssrc : UInt32} {j : Nat} (by_calls : BoundBy binds k t) :
    BoundBy (binds ++ [{ track := j, ssrc }]) k t := by
  constructor
  · intro bound
    obtain ⟨c, mem, rest⟩ := by_calls.bound bound
    exact ⟨c, List.mem_append_left _ mem, rest⟩
  · rcases by_calls.ssrc with waiting | ⟨c, mem, rest⟩
    · refine Or.inl fun c mem own => ?_
      rcases List.mem_append.mp mem with old | single
      · exact waiting c old own
      · rw [List.mem_singleton.mp single]
    · exact Or.inr ⟨c, List.mem_append_left _ mem, rest⟩

/-- A call goes on that has not ended; one that takes the guard is of another track. -/
theorem BoundBy.resumed {binds : List BindCall} {i : Nat} {point : BindPoint} (by_calls : BoundBy binds k t)
    (calling : binds[i]? = some c) (before : c.point ≠ .returned) (after : point ≠ .entered)
    (past : c.track = k → c.point ≠ .entered) : BoundBy (binds.set i { c with point }) k t := by
  constructor
  · intro bound
    obtain ⟨other, mem, own, ended⟩ := by_calls.bound bound
    refine ⟨other, mem_set_other calling mem ?_, own, ended⟩
    rintro rfl
    exact before ended
  · rcases by_calls.ssrc with waiting | ⟨other, mem, own, same, inside⟩
    · refine Or.inl fun other mem own => ?_
      rcases List.mem_or_eq_of_mem_set mem with old | rfl
      · exact waiting other old own
      · exact absurd (waiting c (List.mem_of_getElem? calling) own) (past own)
    · by_cases it : c = other
      · subst it
        exact Or.inr ⟨{ c with point }, mem_set_self calling, own, same, after⟩
      · exact Or.inr ⟨other, mem_set_other calling mem it, own, same, inside⟩

structure Binds (g : SourceReports) : Prop where
  valid : ∀ c ∈ g.binds, c.track < g.tracks.length
  by_calls : ∀ (k : Nat) (t : ReportedTrack), g.tracks[k]? = some t → BoundBy g.binds k t

theorem Binds.start : Binds {} where
  valid := nofun
  by_calls := nofun

theorem Binds.step {e : ReportEvent} (inv : g.Binds) (h : g.Moves e g') : g'.Binds := by
  have resumed {i : Nat} {c : BindCall} (point : BindPoint) (calling : g.binds[i]? = some c) :
      ∀ other ∈ g.binds.set i { c with point }, other.track < g.tracks.length := by
    refine forall_mem_set inv.valid ?_ i
    exact inv.valid c (List.mem_of_getElem? calling)
  have passes {i : Nat} {c : BindCall} (point : BindPoint) (calling : g.binds[i]? = some c)
      (inside : c.point = .written ∨ c.point = .handled) (after : point ≠ .entered) {k : Nat} {t : ReportedTrack}
      (old : BoundBy g.binds k t) : BoundBy (g.binds.set i { c with point }) k t := by
    refine old.resumed calling ?_ after fun _ => ?_
    all_goals
      intro here
      rw [here] at inside
      simp at inside
  cases h with
  | made id streamId =>
      constructor
      · intro c mem
        rw [List.length_append]
        exact Nat.lt_add_right 1 (inv.valid c mem)
      · refine forall_append inv.by_calls ⟨Bool.noConfusion, Or.inl fun c mem own => ?_⟩
        exact absurd (inv.valid c mem) (own ▸ Nat.lt_irrefl _)
  | marked found marks kept =>
      refine ⟨by rw [List.length_set]; exact inv.valid, forall_set inv.by_calls ?_ fun j t _ old => old⟩
      have old := inv.by_calls _ _ found
      exact ⟨fun now => old.bound (marks.bound now), marks.ssrc ▸ old.ssrc⟩
  | listed found armed free =>
      refine ⟨by rw [List.length_set]; exact inv.valid, forall_set inv.by_calls ?_ fun j t _ old => old⟩
      exact ⟨(inv.by_calls _ _ found).bound, (inv.by_calls _ _ found).ssrc⟩
  | removed found => exact ⟨inv.valid, inv.by_calls⟩
  | called ssrc found =>
      refine ⟨fun c mem => ?_, fun k t at_k => (inv.by_calls k t at_k).called⟩
      rcases List.mem_append.mp mem with old | single
      · exact inv.valid c old
      · rw [List.mem_singleton.mp single]
        exact (List.getElem?_eq_some_iff.mp found).1
  | @wrote i c t calling found here free =>
      refine ⟨by rw [List.length_set]; exact resumed _ calling, forall_set inv.by_calls ?_ ?_⟩
      · refine ⟨fun bound => ?_, Or.inr ⟨_, mem_set_self calling, rfl, rfl, nofun⟩⟩
        obtain ⟨other, mem, own, ended⟩ := (inv.by_calls _ _ found).bound bound
        refine ⟨other, mem_set_other calling mem ?_, own, ended⟩
        rintro rfl
        cases here.symm.trans ended
      · intro j u other old
        refine old.resumed calling ?_ nofun fun own => absurd own.symm other
        rw [here]
        nofun
  | handled calling found here =>
      refine ⟨resumed .handled calling, fun k t at_k => ?_⟩
      exact passes .handled calling (.inl here) nofun (inv.by_calls k t at_k)
  | @stored i c t calling found here =>
      refine ⟨by rw [List.length_set]; exact resumed _ calling, forall_set inv.by_calls ?_ ?_⟩
      · refine ⟨fun _ => ⟨_, mem_set_self calling, rfl, rfl⟩, ?_⟩
        exact (passes .returned calling (.inr here) nofun (inv.by_calls _ _ found)).ssrc
      · exact fun j u _ old => passes .returned calling (.inr here) nofun old
  | visits reporting visits => exact ⟨inv.valid, inv.by_calls⟩

end SourceReports
end Rsfu
