import Rsfu.GuardedRun
import Rsfu.Subscription

/-! One down track for a subscriber and a receiver. The calls of the pair agree
on it when the stream is already known to the subscriber, no two of them are
between lookup and store at once, and neither lookup meets a foreign down track. -/
namespace Rsfu
open GuardedRun TaskTable

def DownTrackRef.MadeFor (s r : Nat) (d : DownTrackRef) : Prop := d.subscriber = s ∧ d.receiver = r

instance (s r : Nat) (d : DownTrackRef) : Decidable (d.MadeFor s r) := inferInstanceAs (Decidable (_ ∧ _))

def AddCall.IsFor (s r : Nat) (c : AddCall) : Prop := c.subscriber = s ∧ c.receiver = r

instance (s r : Nat) (c : AddCall) : Decidable (c.IsFor s r) := inferInstanceAs (Decidable (_ ∧ _))

/-- Where the down tracks made for a pair are listed. -/
@[ext] structure Listing where
  tracks : List DownTrackRef := []
  transceivers : List DownTrackRef := []
  layers : Fin 3 → List DownTrackRef := fun _ => []

namespace Subscriptions
variable {parties : Parties} {s r : Nat}

def listing (parties : Parties) (s r : Nat) (g : Subscriptions) : Listing where
  tracks := ((g.tracks s (parties.receivers r).streamId).getD []).filter fun d => d.MadeFor s r
  transceivers := (g.transceivers s).filter fun d => d.MadeFor s r
  layers layer := (g.downTracks r layer).filter fun d => d.MadeFor s r

/-- The listing of a down track stored in a subscriber and in one layer of a receiver. -/
def Listing.single (d : DownTrackRef) (layer : Fin 3) : Listing :=
  { tracks := [d], transceivers := [d], layers := Function.update (fun _ => []) layer [d] }

/-- What one more down track adds to the listing of a pair. -/
def mark (s r : Nat) (d : DownTrackRef) : List DownTrackRef := if d.MadeFor s r then [d] else []

theorem mark_made {d : DownTrackRef} (made : d.MadeFor s r) : mark s r d = [d] := if_pos made

theorem mark_foreign {d : DownTrackRef} (foreign : ¬ d.MadeFor s r) : mark s r d = [] := if_neg foreign

theorem filter_append_mark (l : List DownTrackRef) (d : DownTrackRef) :
    (l ++ [d]).filter (fun d => d.MadeFor s r) = l.filter (fun d => d.MadeFor s r) ++ mark s r d := by
  rw [List.filter_append, mark]
  by_cases made : d.MadeFor s r
  · simp [made]
  · simp [made]

@[simp] theorem listing_setPoint (g : Subscriptions) (k : Nat) (c : AddCall) (point : AddPoint) :
    listing parties s r (g.setPoint k c point) = listing parties s r g := rfl

theorem listing_addTransceiver (g : Subscriptions) (d : DownTrackRef) :
    listing parties s r (g.addTransceiver d) = { listing parties s r g with
      transceivers := (listing parties s r g).transceivers ++ mark s r d } := by
  simp only [listing, addTransceiver, Listing.mk.injEq, true_and, and_true]
  by_cases own : s = d.subscriber
  · subst own
    rw [Function.update_self]
    exact filter_append_mark _ d
  · rw [Function.update_of_ne own, mark_foreign fun made => own made.1.symm, List.append_nil]

theorem listing_storeDownTrack (g : Subscriptions) (layer : Fin 3) (d : DownTrackRef) :
    listing parties s r (g.storeDownTrack layer d) = { listing parties s r g with
      layers := fun l => (listing parties s r g).layers l ++ if l = layer then mark s r d else [] } := by
  simp only [listing, storeDownTrack, Listing.mk.injEq, true_and]
  funext l
  by_cases own : r = d.receiver
  · subst own
    rw [Function.update_self]
    by_cases here : l = layer
    · subst here
      rw [Function.update_self, if_pos rfl]
      exact filter_append_mark _ d
    · rw [Function.update_of_ne here, if_neg here, List.append_nil]
  · rw [Function.update_of_ne own, mark_foreign fun made => own made.2.symm, ite_self, List.append_nil]

/-- A stream that is new to the subscriber loses the down track. -/
theorem listing_addDownTrack (g : Subscriptions) (d : DownTrackRef)
    (known : d.MadeFor s r → (g.tracks s (parties.receivers r).streamId).isSome) :
    listing parties s r (g.addDownTrack parties d) = { listing parties s r g with
      tracks := (listing parties s r g).tracks ++ mark s r d } := by
  simp only [listing, addDownTrack, Listing.mk.injEq, and_true]
  by_cases own : s = d.subscriber
  · subst own
    rw [Function.update_self]
    by_cases stream : (parties.receivers r).streamId = (parties.receivers d.receiver).streamId
    · rw [← stream, Function.update_self, Option.getD_some]
      split
      next l found =>
          rw [found]
          exact filter_append_mark l d
      next absent =>
          rw [absent, mark_foreign fun made => by simpa [absent] using known made]
          rfl
    · rw [Function.update_of_ne stream, mark_foreign fun made => stream (made.2 ▸ rfl), List.append_nil]
  · rw [Function.update_of_ne own, mark_foreign fun made => own made.1.symm, List.append_nil]

/-- Calls start, go on to their next await, and receivers gain and lose layers. -/
inductive SubscribeStep where
  | call (subscriber receiver : Nat)
  | resume (k : Nat)
  | available (receiver : Nat) (layers : Fin 3 → Bool)

def step (parties : Parties) (g : Subscriptions) : SubscribeStep → Option Subscriptions
  | .call subscriber receiver => some { g with calls := g.calls ++ [{ subscriber, receiver }] }
  | .resume k => g.calls[k]?.bind (g.resume parties k)
  | .available receiver layers => some { g with available := Function.update g.available receiver layers }

/-- What a call of the pair has to meet: no foreign down track passes for its own in a
lookup, no other call of the pair is between lookup and store, and the stream is known. -/
def Ready (parties : Parties) (s r : Nat) (g : Subscriptions) (k : Nat) : AddPoint → Prop
  | .started => (∀ d ∈ g.getDowntrack parties s r, d.MadeFor s r) ∧
      ∀ c ∈ g.calls, c.IsFor s r → c.point ≠ .missing ∧ c.point ≠ .created
  | .created => (g.tracks s (parties.receivers r).streamId).isSome
  | .stored => ∀ e ∈ g.downTracks r (g.pickLayer parties r), sameDownTrack parties e ⟨k, s, r⟩ → e.MadeFor s r
  | _ => True

instance Ready.decide (parties : Parties) (s r : Nat) (g : Subscriptions) (k : Nat) :
    ∀ point, Decidable (Ready parties s r g k point)
  | .started => inferInstanceAs (Decidable (_ ∧ _))
  | .missing => isTrue trivial
  | .created => inferInstanceAs (Decidable (_ = true))
  | .stored => inferInstanceAs (Decidable (∀ e ∈ _, _))
  | .admitted _ => isTrue trivial
  | .returned _ => isTrue trivial

def Proper (parties : Parties) (s r : Nat) (g : Subscriptions) : SubscribeStep → Prop
  | .resume k => ∀ c ∈ g.calls[k]?, c.IsFor s r → Ready parties s r g k c.point
  | _ => True

instance Proper.decide (parties : Parties) (s r : Nat) (g : Subscriptions) :
    ∀ e, Decidable (Proper parties s r g e)
  | .call _ _ => isTrue trivial
  | .resume k => inferInstanceAs (Decidable (∀ c ∈ g.calls[k]?, _))
  | .available _ _ => isTrue trivial

/-- The one down track of the pair: where it is listed, and what each call returned. -/
def Once (parties : Parties) (s r : Nat) (g : Subscriptions) : Prop :=
  ∃ m layer, listing parties s r g = Listing.single ⟨m, s, r⟩ layer ∧
    ∀ (k : Nat) (c : AddCall), g.calls[k]? = some c → c.IsFor s r →
    c.point = .returned (if k = m then none else some ⟨m, s, r⟩)

/-- How far the call that makes the down track has listed it. -/
def Stage (parties : Parties) (s r : Nat) (g : Subscriptions) (d : DownTrackRef) : AddPoint → Prop
  | .missing => listing parties s r g = {}
  | .created => listing parties s r g = { transceivers := [d] }
  | .stored => listing parties s r g = { tracks := [d], transceivers := [d] }
  | .admitted _ => listing parties s r g = { tracks := [d], transceivers := [d] }
  | .returned none => ∃ layer, listing parties s r g = Listing.single d layer
  | _ => False

/-- Call `m` makes the down track of the pair; the others wait or have returned it. -/
structure Maker (parties : Parties) (s r : Nat) (g : Subscriptions) (m : Nat) (c : AddCall) : Prop where
  found : g.calls[m]? = some c
  isFor : c.IsFor s r
  stage : Stage parties s r g ⟨m, s, r⟩ c.point
  others : ∀ (j : Nat) (c' : AddCall), g.calls[j]? = some c' → c'.IsFor s r → j ≠ m →
    c'.point = .started ∨ c'.point = .returned (some ⟨m, s, r⟩)

def Unmade (parties : Parties) (s r : Nat) (g : Subscriptions) : Prop :=
  listing parties s r g = {} ∧ ∀ (j : Nat) (c : AddCall), g.calls[j]? = some c → c.IsFor s r → c.point = .started

def Agreed (parties : Parties) (s r : Nat) (g : Subscriptions) : Prop :=
  Unmade parties s r g ∨ ∃ m c, Maker parties s r g m c

theorem Stage.congr {g g' : Subscriptions} {d : DownTrackRef} {point : AddPoint}
    (same : listing parties s r g' = listing parties s r g) (stage : Stage parties s r g d point) :
    Stage parties s r g' d point := by
  unfold Stage at stage ⊢
  rw [same]
  exact stage

/-- A step that touches neither the listing nor a call of the pair. -/
theorem Agreed.untouched {g g' : Subscriptions} (agreed : Agreed parties s r g)
    (same : listing parties s r g' = listing parties s r g)
    (kept : ∀ (j : Nat) (c : AddCall), g.calls[j]? = some c → c.IsFor s r → g'.calls[j]? = some c)
    (old : ∀ (j : Nat) (c : AddCall), g'.calls[j]? = some c → c.IsFor s r →
      c.point = .started ∨ g.calls[j]? = some c) :
    Agreed parties s r g' := by
  rcases agreed with ⟨empty, waiting⟩ | ⟨m, c, maker⟩
  · refine Or.inl ⟨same.trans empty, fun j c found own => ?_⟩
    exact (old j c found own).elim id fun before => waiting j c before own
  · refine Or.inr ⟨m, c, kept m c maker.found maker.isFor, maker.isFor, maker.stage.congr same, ?_⟩
    intro j c' found own other
    exact (old j c' found own).elim Or.inl fun before => maker.others j c' before own other

theorem resume_foreign {g g' : Subscriptions} {k : Nat} {c : AddCall} (foreign : ¬ c.IsFor s r)
    (h : g.resume parties k c = some g') :
    listing parties s r g' = listing parties s r g ∧ ∃ point, g'.calls = g.calls.set k { c with point } := by
  have other : ¬ DownTrackRef.MadeFor s r ⟨k, c.subscriber, c.receiver⟩ := foreign
  have unmarked : mark s r ⟨k, c.subscriber, c.receiver⟩ = [] := mark_foreign other
  unfold resume at h
  dsimp only at h
  split at h
  · split at h <;> cases h <;> exact ⟨rfl, _, rfl⟩
  · cases h
    refine ⟨?_, _, rfl⟩
    rw [listing_setPoint, listing_addTransceiver, unmarked, List.append_nil]
  · cases h
    refine ⟨?_, _, rfl⟩
    rw [listing_setPoint, listing_addDownTrack _ _ fun made => absurd made other, unmarked, List.append_nil]
  · split at h <;> cases h <;> exact ⟨rfl, _, rfl⟩
  · cases h
    refine ⟨?_, _, rfl⟩
    simp only [listing_setPoint, listing_storeDownTrack, unmarked, ite_self, List.append_nil]
  · cases h

theorem getDowntrack_mem {g : Subscriptions} {d : DownTrackRef} (found : g.getDowntrack parties s r = some d)
    (made : d.MadeFor s r) : d ∈ (listing parties s r g).tracks :=
  List.mem_filter.mpr ⟨List.mem_of_find?_eq_some found, decide_eq_true made⟩

theorem getDowntrack_none {g : Subscriptions} (missing : g.getDowntrack parties s r = none) :
    (listing parties s r g).tracks = [] := by
  refine List.filter_eq_nil_iff.mpr fun d mem made => ?_
  have differs := List.find?_eq_none.mp missing d mem
  have same : d.receiver = r := (of_decide_eq_true made).2
  simp [trackId, same] at differs

/-- Once stored, the down track is what the subscriber lists for the pair. -/
theorem Stage.tracks {g : Subscriptions} {d : DownTrackRef} {point : AddPoint} (stage : Stage parties s r g d point)
    (stored : point ≠ .missing ∧ point ≠ .created) : (listing parties s r g).tracks = [d] := by
  unfold Stage at stage
  split at stage
  · exact absurd rfl stored.1
  · exact absurd rfl stored.2
  · rw [stage]
  · rw [stage]
  · obtain ⟨layer, same⟩ := stage
    rw [same, Listing.single]
  · cases stage

theorem Maker.advance {g g' : Subscriptions} {m : Nat} {c : AddCall} {point : AddPoint}
    (maker : Maker parties s r g m c)
    (calls : g'.calls = g.calls.set m { c with point }) (stage : Stage parties s r g' ⟨m, s, r⟩ point) :
    Maker parties s r g' m { c with point } where
  found := by rw [calls, lookup_set maker.found, if_pos rfl]
  isFor := maker.isFor
  stage := stage
  others j c' found own other := by
    rw [calls, lookup_set maker.found, if_neg other.symm] at found
    exact maker.others j c' found own other

/-- A call that finds the down track of the pair returns it. -/
theorem Maker.finds {g : Subscriptions} {m k : Nat} {c waiting : AddCall} (maker : Maker parties s r g m c)
    (found : g.calls[k]? = some waiting) (other : k ≠ m) :
    Maker parties s r (g.setPoint k waiting (.returned (some ⟨m, s, r⟩))) m c where
  found := (lookup_set found m).trans (by rw [if_neg other, maker.found])
  isFor := maker.isFor
  stage := maker.stage.congr (listing_setPoint g _ _ _)
  others j c' found' own other' := by
    rcases lookup_set_cases found' with ⟨rfl, rfl⟩ | ⟨-, old⟩
    · exact Or.inr rfl
    · exact maker.others j c' old own other'

theorem Unmade.creates {g : Subscriptions} {k : Nat} {c : AddCall} (unmade : Unmade parties s r g)
    (found : g.calls[k]? = some c) (own : c.IsFor s r) :
    Maker parties s r (g.setPoint k c .missing) k { c with point := .missing } where
  found := (lookup_set found k).trans (if_pos rfl)
  isFor := own
  stage := unmade.1
  others j c' found' own' other := by
    have old := (lookup_set_cases found').resolve_left fun same => other same.1
    exact Or.inl (unmade.2 j c' old.2 own')

theorem Agreed.started {g g' : Subscriptions} {k : Nat} {c : AddCall} (agreed : Agreed parties s r g)
    (found : g.calls[k]? = some c) (own : c.IsFor s r) (start : c.point = .started)
    (ready : Ready parties s r g k .started) (h : g.resume parties k c = some g') : Agreed parties s r g' := by
  obtain ⟨familiar, apart⟩ := ready
  unfold resume at h
  simp only [start, own.1, own.2] at h
  split at h
  next d looked =>
      cases h
      have listed := getDowntrack_mem looked (familiar d looked)
      rcases agreed with ⟨empty, -⟩ | ⟨m, maker_call, maker⟩
      · rw [empty] at listed
        cases listed
      · have stored := apart maker_call (List.mem_of_getElem? maker.found) maker.isFor
        rw [maker.stage.tracks stored] at listed
        cases List.mem_singleton.mp listed
        have other : k ≠ m := by
          rintro rfl
          cases found.symm.trans maker.found
          have impossible := maker.stage
          rw [start] at impossible
          exact impossible
        exact Or.inr ⟨m, maker_call, maker.finds found other⟩
  next looked =>
      cases h
      rcases agreed with unmade | ⟨m, maker_call, maker⟩
      · exact Or.inr ⟨k, _, unmade.creates found own⟩
      · have stored := apart maker_call (List.mem_of_getElem? maker.found) maker.isFor
        have listed := maker.stage.tracks stored
        rw [getDowntrack_none looked] at listed
        cases listed

/-- A call of the pair that is past its lookup and has not returned is the maker. -/
theorem Agreed.maker {g : Subscriptions} {k : Nat} {c : AddCall} (agreed : Agreed parties s r g)
    (found : g.calls[k]? = some c) (own : c.IsFor s r) (past : c.point ≠ .started)
    (running : ∀ d, c.point ≠ .returned d) : Maker parties s r g k c := by
  rcases agreed with ⟨-, waiting⟩ | ⟨m, maker_call, maker⟩
  · exact absurd (waiting k c found own) past
  · by_cases same : k = m
    · subst same
      cases found.symm.trans maker.found
      exact maker
    · exact ((maker.others k c found own same).elim past fun returned => running _ returned).elim

theorem Agreed.own {g g' : Subscriptions} {k : Nat} {c : AddCall} (agreed : Agreed parties s r g)
    (found : g.calls[k]? = some c) (own : c.IsFor s r) (ready : Ready parties s r g k c.point)
    (h : g.resume parties k c = some g') : Agreed parties s r g' := by
  obtain ⟨rfl, rfl⟩ := own
  have marked : mark c.subscriber c.receiver ⟨k, c.subscriber, c.receiver⟩ = [⟨k, c.subscriber, c.receiver⟩] :=
    mark_made ⟨rfl, rfl⟩
  have here := agreed.maker found ⟨rfl, rfl⟩
  cases point : c.point with
  | started => exact agreed.started found ⟨rfl, rfl⟩ point (point ▸ ready) h
  | missing =>
      have maker := here (by simp [point]) (by simp [point])
      have empty : listing parties c.subscriber c.receiver g = {} := by simpa [Stage, point] using maker.stage
      simp only [resume, point, Option.some.injEq] at h
      subst h
      refine Or.inr ⟨k, _, maker.advance rfl ?_⟩
      change listing parties c.subscriber c.receiver (g.addTransceiver ⟨k, c.subscriber, c.receiver⟩) = _
      rw [listing_addTransceiver, empty, marked]
      rfl
  | created =>
      have maker := here (by simp [point]) (by simp [point])
      have before : listing parties c.subscriber c.receiver g =
          { transceivers := [⟨k, c.subscriber, c.receiver⟩] } := by
        simpa [Stage, point] using maker.stage
      rw [point] at ready
      simp only [resume, point, Option.some.injEq] at h
      subst h
      refine Or.inr ⟨k, _, maker.advance rfl ?_⟩
      change listing parties c.subscriber c.receiver (g.addDownTrack parties ⟨k, c.subscriber, c.receiver⟩) = _
      rw [listing_addDownTrack _ _ fun _ => ready, before, marked]
      rfl
  | stored =>
      have maker := here (by simp [point]) (by simp [point])
      have before : listing parties c.subscriber c.receiver g =
          { tracks := [⟨k, c.subscriber, c.receiver⟩], transceivers := [⟨k, c.subscriber, c.receiver⟩] } := by
        simpa [Stage, point] using maker.stage
      rw [point] at ready
      simp only [resume, point] at h
      split at h
      next subscribed =>
          obtain ⟨e, mem, same⟩ := List.any_eq_true.mp subscribed
          have listed : e ∈ (listing parties c.subscriber c.receiver g).layers (g.pickLayer parties c.receiver) :=
            List.mem_filter.mpr ⟨mem, decide_eq_true (ready e mem same)⟩
          rw [before] at listed
          cases listed
      next free =>
          simp only [Option.some.injEq] at h
          subst h
          exact Or.inr ⟨k, _, maker.advance rfl before⟩
  | admitted layer =>
      have maker := here (by simp [point]) (by simp [point])
      have before : listing parties c.subscriber c.receiver g =
          { tracks := [⟨k, c.subscriber, c.receiver⟩], transceivers := [⟨k, c.subscriber, c.receiver⟩] } := by
        simpa [Stage, point] using maker.stage
      simp only [resume, point, Option.some.injEq] at h
      subst h
      refine Or.inr ⟨k, _, maker.advance rfl ⟨layer, ?_⟩⟩
      change listing parties c.subscriber c.receiver (g.storeDownTrack layer ⟨k, c.subscriber, c.receiver⟩) = _
      rw [listing_storeDownTrack, before, marked]
      refine Listing.ext rfl rfl (funext fun l => ?_)
      by_cases at_layer : l = layer
      · simp [Listing.single, at_layer]
      · simp [Listing.single, at_layer]
  | returned existing =>
      simp only [resume, point, reduceCtorEq] at h

theorem step_agreed {g g' : Subscriptions} {e : SubscribeStep} (agreed : Agreed parties s r g)
    (proper : Proper parties s r g e) (h : g.step parties e = some g') : Agreed parties s r g' := by
  cases e with
  | call subscriber receiver =>
      cases h
      refine agreed.untouched rfl (fun j c found _ => lookup_append_old found) fun j c found _ => ?_
      rcases lookup_append found with old | ⟨-, rfl⟩
      · exact Or.inr old
      · exact Or.inl rfl
  | resume k =>
      obtain ⟨c, found, resumed⟩ := Option.bind_eq_some_iff.mp h
      by_cases own : c.IsFor s r
      · exact agreed.own found own (proper c found own) resumed
      · obtain ⟨same, point, calls⟩ := resume_foreign own resumed
        refine agreed.untouched same (fun j c' found' own' => ?_) fun j c' found' own' => Or.inr ?_
        · rw [calls, lookup_set found, if_neg, found']
          rintro rfl
          cases found.symm.trans found'
          exact own own'
        · rw [calls] at found'
          rcases lookup_set_cases found' with ⟨rfl, rfl⟩ | ⟨-, old⟩
          · exact absurd own' own
          · exact old
  | available receiver layers =>
      cases h
      exact agreed.untouched rfl (fun _ _ found _ => found) fun _ _ found _ => Or.inr found

/-- When all calls of the pair have returned, it has one down track. -/
theorem Agreed.once {g : Subscriptions} (agreed : Agreed parties s r g)
    (called : ∃ (k : Nat) (c : AddCall), g.calls[k]? = some c ∧ c.IsFor s r)
    (returned : ∀ (k : Nat) (c : AddCall), g.calls[k]? = some c → c.IsFor s r → ∃ d, c.point = .returned d) :
    Once parties s r g := by
  rcases agreed with ⟨-, waiting⟩ | ⟨m, c, maker⟩
  · obtain ⟨k, c, found, own⟩ := called
    obtain ⟨d, done⟩ := returned k c found own
    cases (waiting k c found own).symm.trans done
  · have stage := maker.stage
    obtain ⟨d, done⟩ := returned m c maker.found maker.isFor
    rw [done] at stage
    cases d with
    | some existing => cases stage
    | none =>
        obtain ⟨layer, same⟩ := stage
        refine ⟨m, layer, same, fun k c' found own => ?_⟩
        by_cases here : k = m
        · subst here
          cases found.symm.trans maker.found
          rw [done, if_pos rfl]
        · rw [if_neg here]
          refine (maker.others k c' found own here).resolve_left fun waiting => ?_
          obtain ⟨d, done'⟩ := returned k c' found own
          cases waiting.symm.trans done'

/-- A pair whose calls meet the condition ends with one down track, one transceiver and
one entry in one layer, and every other call has returned that down track. -/
theorem run_once {steps : List SubscribeStep} {g : Subscriptions} (reached : run (step parties) {} steps = some g)
    (proper : Guarded (step parties) (Proper parties s r) {} steps)
    (called : ∃ (k : Nat) (c : AddCall), g.calls[k]? = some c ∧ c.IsFor s r)
    (returned : ∀ (k : Nat) (c : AddCall), g.calls[k]? = some c → c.IsFor s r → ∃ d, c.point = .returned d) :
    Once parties s r g := by
  refine (run_invariant (Agreed parties s r) ?_ ?_ proper reached).once called returned
  · exact fun _ _ _ agreed ready moved => step_agreed agreed ready moved
  · exact Or.inl ⟨rfl, fun j c found => by cases found⟩

/-- An audio and a video receiver of one stream. -/
def audioVideo : Parties where
  receivers n := { streamId := "camera", trackId := if n = 0 then "audio" else "video" }
  subscriberIds _ := "bob"

/-- Both receivers are added, and the second of them once more. -/
def addBothSteps : List SubscribeStep :=
  [.call 0 0, .resume 0, .resume 0, .resume 0, .resume 0, .resume 0,
    .call 0 1, .resume 1, .resume 1, .resume 1, .resume 1, .resume 1, .call 0 1, .resume 2]

theorem run_once_video : ∃ g, run (step audioVideo) {} addBothSteps = some g ∧ Once audioVideo 0 1 g := by
  have ends : ∃ g, run (step audioVideo) {} addBothSteps = some g ∧
      g.calls = [⟨0, 0, .returned none⟩, ⟨0, 1, .returned none⟩, ⟨0, 1, .returned (some ⟨1, 0, 1⟩)⟩] := ⟨_, rfl, rfl⟩
  have proper : Guarded (step audioVideo) (Proper audioVideo 0 1) {} addBothSteps := by decide
  obtain ⟨g, reached, calls⟩ := ends
  refine ⟨g, reached, run_once reached proper ⟨1, ⟨0, 1, .returned none⟩, by rw [calls]; rfl, rfl, rfl⟩ ?_⟩
  intro k c found own
  have mem := List.mem_of_getElem? found
  rw [calls] at mem
  rcases mem with _ | ⟨_, _ | ⟨_, _ | ⟨_, none⟩⟩⟩
  · exact ⟨_, rfl⟩
  · exact ⟨_, rfl⟩
  · exact ⟨_, rfl⟩
  · cases none

/-- The first receiver of the stream ends with a transceiver and an entry in its layer,
but the subscriber lists no down track for it. -/
theorem first_down_track_lost :
    ∃ g, run (step audioVideo) {} (addBothSteps.take 6) = some g ∧
      g.calls[0]?.map AddCall.point = some (.returned none) ∧ g.tracks 0 "camera" = some [] ∧
      g.transceivers 0 = [⟨0, 0, 0⟩] ∧ g.downTracks 0 0 = [⟨0, 0, 0⟩] ∧ ¬ Once audioVideo 0 0 g := by
  refine ⟨_, rfl, rfl, rfl, rfl, rfl, fun once => ?_⟩
  obtain ⟨m, layer, same, -⟩ := once
  exact absurd (congrArg Listing.tracks same).symm (List.cons_ne_nil _ _)

end Subscriptions

end Rsfu
