import Rsfu.GuardedRun
import Mathlib.Data.List.Nodup
import Mathlib.Data.List.Perm.Basic
import Mathlib.Logic.Function.Basic

/-! The down tracks of a subscriber by stream, against the tracks added and not removed.
The store drops the first track of a stream, and all tracks when they are queried at once. -/
namespace Rsfu
open GuardedRun

/-- `i as i16`. -/
def asI16 (i : Nat) : Int := if i % 65536 < 32768 then (i % 65536 : Nat) else (i % 65536 : Nat) - 65536

/-- The `tracks` of a subscriber, and the keys that this map has. -/
structure TrackStore (τ : Type) where
  tracks : String → Option (List τ) := fun _ => none
  streams : List String := []

namespace TrackStore
variable {τ : Type} (idOf : τ → String)

/-- A stream seen first gets an empty list. -/
def addDownTrack (g : TrackStore τ) (streamId : String) (downTrack : τ) : TrackStore τ :=
  match g.tracks streamId with
  | some dt => { g with tracks := Function.update g.tracks streamId (some (dt ++ [downTrack])) }
  | none => { tracks := Function.update g.tracks streamId (some []), streams := g.streams ++ [streamId] }

/-- The loop of `remove_down_track` from position `i` on: the last index of the id, in an `i16`. -/
def lastIndex (id : String) : List τ → Nat → Int → Int
  | [], _, idx => idx
  | val :: rest, i, idx => lastIndex id rest (i + 1) (if idOf val = id then asI16 i else idx)

def removeDownTrack (g : TrackStore τ) (streamId : String) (downTrack : τ) : TrackStore τ :=
  match g.tracks streamId with
  | some dts =>
      let idx := lastIndex idOf (idOf downTrack) dts 0 (-1)
      if 0 ≤ idx then { g with tracks := Function.update g.tracks streamId (some (dts.eraseIdx idx.toNat)) } else g
  | none => g

def getDowntracks (g : TrackStore τ) (streamId : String) : Option (List τ) := g.tracks streamId

/-- `downtracks`: the lists are appended to the result one after the other, in the order the map
gives them, and `append` leaves each of them empty. -/
def downtracks (g : TrackStore τ) (order : List String) : TrackStore τ × List τ :=
  ({ g with tracks := fun s => (g.tracks s).map fun _ => [] }, order.flatMap fun s => (g.tracks s).getD [])

end TrackStore

/-- A track that was added and not removed; `dropped` when the store has lost it. -/
structure AddedTrack (τ : Type) where
  stream : String
  track : τ
  dropped : Bool

/-- A store with a record, which the code does not keep, of what it should hold. -/
structure TrackRecord (τ : Type) where
  store : TrackStore τ := {}
  added : List (AddedTrack τ) := []

inductive StoreOp (τ : Type) where
  | add (streamId : String) (downTrack : τ)
  | remove (streamId : String) (downTrack : τ)
  | get (streamId : String)
  | downtracks (order : List String)

namespace TrackRecord
variable {τ : Type} (idOf : τ → String)

def isTrack (streamId : String) (downTrack : τ) (e : AddedTrack τ) : Bool :=
  e.stream = streamId ∧ idOf e.track = idOf downTrack

/-- A track is added under a stream that has none of its id. -/
def step (g : TrackRecord τ) : StoreOp τ → Option (TrackRecord τ)
  | .add s t =>
      if g.added.any (isTrack idOf s t) then none
      else some {
        store := g.store.addDownTrack s t
        added := g.added ++ [⟨s, t, (g.store.tracks s).isNone⟩] }
  | .remove s t => some {
      store := g.store.removeDownTrack idOf s t
      added := g.added.filter fun e => !isTrack idOf s t e }
  | .get _ => some g
  | .downtracks order =>
      if order.Perm g.store.streams then some {
        store := (g.store.downtracks order).1
        added := g.added.map fun e => { e with dropped := true } }
      else none

/-- The tracks under a stream, in the order they were added in. -/
def present (g : TrackRecord τ) (s : String) : List τ := (g.added.filter fun e => e.stream = s).map AddedTrack.track

/-- The list of a stream, empty when it has none. -/
def listed (g : TrackRecord τ) (s : String) : List τ := (g.store.getDowntracks s).getD []

/-- A query answers with what was added, and leaves the store; a removal takes away the track and no other. -/
def Right (g : TrackRecord τ) : StoreOp τ → Prop
  | .add _ _ => True
  | .remove s t =>
      ((g.store.removeDownTrack idOf s t).getDowntracks s).getD [] = (g.listed s).filter fun u => idOf u ≠ idOf t
  | .get s => g.listed s = g.present s
  | .downtracks order =>
      (g.store.downtracks order).2.Perm (g.added.map AddedTrack.track) ∧ (g.store.downtracks order).1 = g.store

/-- No track of the stream was dropped; none is there at all when they are queried at once; and a
track is removed from one of the first 32768 places. -/
def Unharmed (g : TrackRecord τ) : StoreOp τ → Prop
  | .add _ _ => True
  | .remove s t => ∀ i u, (g.listed s)[i]? = some u → idOf u = idOf t → i < 32768
  | .get s => ∀ e ∈ g.added, e.stream = s → e.dropped = false
  | .downtracks _ => g.added = []

/-- The store holds what was added and not dropped. -/
structure Represents (g : TrackRecord τ) : Prop where
  lists : ∀ s, g.listed s = (g.added.filter fun e => e.stream = s ∧ e.dropped = false).map AddedTrack.track
  streams : ∀ s, s ∈ g.store.streams ↔ (g.store.tracks s).isSome = true
  known : ∀ e ∈ g.added, e.stream ∈ g.store.streams
  nodup : g.store.streams.Nodup
  distinct : g.added.Pairwise fun e f => e.stream = f.stream → idOf e.track ≠ idOf f.track

end TrackRecord

theorem map_filter_eq_iff {α β : Type} {q : α → Bool} {f : α → β} {l : List α} :
    (l.filter q).map f = l.map f ↔ ∀ a ∈ l, q a = true := by
  constructor
  · intro same
    have length := congrArg List.length same
    rw [List.length_map, List.length_map] at length
    exact List.length_filter_eq_length_iff.mp length
  · intro all
    rw [List.filter_eq_self.mpr all]

namespace TrackStore
variable {τ : Type} {idOf : τ → String} {id : String} {l : List τ}

theorem filter_ne_eq_self (absent : ∀ u ∈ l, idOf u ≠ id) : l.filter (fun u => idOf u ≠ id) = l :=
  List.filter_eq_self.mpr fun u mem => decide_eq_true (absent u mem)

theorem filter_ne_eq_eraseIdx (distinct : (l.map idOf).Nodup) {i : Nat} {u : τ} (found : l[i]? = some u) :
    l.filter (fun v => idOf v ≠ idOf u) = l.eraseIdx i := by
  induction l generalizing i with
  | nil => cases found
  | cons v rest ih =>
      obtain ⟨fresh, later⟩ := List.nodup_cons.mp distinct
      cases i with
      | zero =>
          cases found
          rw [List.filter_cons_of_neg (by simp), List.eraseIdx_cons_zero]
          exact filter_ne_eq_self fun w mem same => fresh (same ▸ List.mem_map_of_mem mem)
      | succ i =>
          have differ : idOf v ≠ idOf u := fun same =>
            fresh (same ▸ List.mem_map_of_mem (List.mem_of_getElem? found))
          have kept := List.filter_cons_of_pos (p := fun w => idOf w ≠ idOf u) (l := rest) (decide_eq_true differ)
          rw [kept, List.eraseIdx_cons_succ, ih later found]

theorem lastIndex_absent (absent : ∀ u ∈ l, idOf u ≠ id) (start : Nat) (idx : Int) :
    lastIndex idOf id l start idx = idx := by
  induction l generalizing start with
  | nil => rfl
  | cons v rest ih =>
      rw [lastIndex, if_neg (absent v List.mem_cons_self)]
      exact ih (fun u mem => absent u (List.mem_cons_of_mem v mem)) _

theorem lastIndex_found (distinct : (l.map idOf).Nodup) {i : Nat} {u : τ} (found : l[i]? = some u) (start : Nat)
    (idx : Int) : lastIndex idOf (idOf u) l start idx = asI16 (start + i) := by
  induction l generalizing i start idx with
  | nil => cases found
  | cons v rest ih =>
      obtain ⟨fresh, later⟩ := List.nodup_cons.mp distinct
      rw [lastIndex]
      cases i with
      | zero =>
          cases found
          rw [if_pos rfl]
          refine lastIndex_absent (fun w mem same => fresh ?_) _ _
          rw [← same]
          exact List.mem_map_of_mem mem
      | succ i =>
          rw [ih later found, Nat.add_right_comm, Nat.add_assoc]

/-- Of distinct entries, each position leaves another list. -/
theorem eraseIdx_eq_iff (distinct : l.Nodup) {i j : Nat} (bound : i < l.length) (le : j ≤ i) :
    l.eraseIdx j = l.eraseIdx i ↔ j = i := by
  constructor
  · intro same
    by_contra differ
    have less : j < i := Nat.lt_of_le_of_ne le differ
    have at_j := congrArg (fun l' : List τ => l'[j]?) same
    rw [List.getElem?_eraseIdx_of_ge (Nat.le_refl j), List.getElem?_eraseIdx_of_lt less] at at_j
    have next := (List.getElem?_inj (by omega) distinct).mp at_j
    omega
  · rintro rfl
    rfl

theorem asI16_of_lt {i : Nat} (small : i < 32768) : asI16 i = i := by
  unfold asI16
  omega

theorem asI16_nonneg {i : Nat} (nonneg : 0 ≤ asI16 i) : (asI16 i).toNat = i % 65536 ∧ i % 65536 < 32768 := by
  unfold asI16 at nonneg ⊢
  split at nonneg
  next less => exact ⟨by rw [if_pos less, Int.toNat_natCast], less⟩
  · omega

variable (g : TrackStore τ) (s : String) (t : τ)

theorem addDownTrack_self :
    (g.addDownTrack s t).tracks s = some (match g.tracks s with | some dt => dt ++ [t] | none => []) := by
  unfold addDownTrack
  split <;> simp only [Function.update_self]

theorem addDownTrack_other {s s' : String} (other : s' ≠ s) : (g.addDownTrack s t).tracks s' = g.tracks s' := by
  unfold addDownTrack
  split <;> exact Function.update_of_ne other _ _

theorem mem_addDownTrack_streams {g : TrackStore τ} {s : String} {t : τ}
    (keys : ∀ s, s ∈ g.streams ↔ (g.tracks s).isSome = true) {s' : String} :
    s' ∈ (g.addDownTrack s t).streams ↔ s' ∈ g.streams ∨ s' = s := by
  unfold addDownTrack
  split
  next found =>
      refine (or_iff_left_of_imp ?_).symm
      rintro rfl
      exact (keys s').mpr (by rw [found]; rfl)
  · rw [List.mem_append, List.mem_singleton]

theorem removeDownTrack_listed :
    ((g.removeDownTrack idOf s t).getDowntracks s).getD [] =
      if 0 ≤ lastIndex idOf (idOf t) ((g.getDowntracks s).getD []) 0 (-1) then
        ((g.getDowntracks s).getD []).eraseIdx (lastIndex idOf (idOf t) ((g.getDowntracks s).getD []) 0 (-1)).toNat
      else (g.getDowntracks s).getD [] := by
  unfold removeDownTrack getDowntracks
  cases found : g.tracks s with
  | none =>
      dsimp only
      rw [found]
      rfl
  | some dts =>
      simp only [Option.getD_some]
      split
      · simp only [Function.update_self, Option.getD_some]
      · rw [found, Option.getD_some]

/-- Of distinct tracks, the right one goes exactly when its place is small enough. -/
theorem removeDownTrack_right_iff (distinct : (((g.getDowntracks s).getD []).map idOf).Nodup) :
    ((g.removeDownTrack idOf s t).getDowntracks s).getD [] =
        ((g.getDowntracks s).getD []).filter (fun u => idOf u ≠ idOf t) ↔
      ∀ i u, ((g.getDowntracks s).getD [])[i]? = some u → idOf u = idOf t → i < 32768 := by
  rw [removeDownTrack_listed]
  by_cases absent : ∀ u ∈ (g.getDowntracks s).getD [], idOf u ≠ idOf t
  · rw [lastIndex_absent absent, if_neg (by decide), filter_ne_eq_self absent]
    exact iff_of_true rfl fun i u found same => absurd same (absent u (List.mem_of_getElem? found))
  · push Not at absent
    obtain ⟨u, mem, same⟩ := absent
    obtain ⟨i, found⟩ := List.mem_iff_getElem?.mp mem
    have only (small : i < 32768) (j : Nat) (v : τ) (at_j : ((g.getDowntracks s).getD [])[j]? = some v)
        (same' : idOf v = idOf t) : j < 32768 := by
      have ids : (((g.getDowntracks s).getD []).map idOf)[j]? = (((g.getDowntracks s).getD []).map idOf)[i]? := by
        rw [List.getElem?_map, List.getElem?_map, at_j, found, Option.map_some, Option.map_some, same, same']
      have bound := (List.getElem?_eq_some_iff.mp at_j).1
      rw [(List.getElem?_inj (by rwa [List.length_map]) distinct).mp ids]
      exact small
    have bound := (List.getElem?_eq_some_iff.mp found).1
    rw [← same, lastIndex_found distinct found, Nat.zero_add, filter_ne_eq_eraseIdx distinct found]
    constructor
    · intro right
      rw [same]
      refine only ?_
      split at right
      next nonneg =>
          obtain ⟨place, less⟩ := asI16_nonneg nonneg
          rw [place, eraseIdx_eq_iff (List.Nodup.of_map idOf distinct) bound (Nat.mod_le i 65536)] at right
          omega
      · have short := List.length_eraseIdx_of_lt bound
        rw [← right] at short
        omega
    · intro small
      have here := small i u found rfl
      rw [asI16_of_lt here, if_pos (Int.natCast_nonneg i), Int.toNat_natCast]

theorem removeDownTrack_other {s s' : String} (other : s' ≠ s) :
    (g.removeDownTrack idOf s t).tracks s' = g.tracks s' := by
  unfold removeDownTrack
  split
  · dsimp only
    split
    · exact Function.update_of_ne other _ _
    · rfl
  · rfl

theorem removeDownTrack_streams : (g.removeDownTrack idOf s t).streams = g.streams := by
  unfold removeDownTrack
  split
  · dsimp only
    split <;> rfl
  · rfl

theorem removeDownTrack_isSome (s' : String) :
    ((g.removeDownTrack idOf s t).tracks s').isSome = (g.tracks s').isSome := by
  by_cases same : s' = s
  · subst same
    unfold removeDownTrack
    split
    next found =>
        dsimp only
        split
        · simp only [Function.update_self, found, Option.isSome_some]
        · rfl
    · rfl
  · rw [removeDownTrack_other g t same]

end TrackStore

namespace TrackRecord
variable {τ : Type} {idOf : τ → String} {g g' : TrackRecord τ}

theorem Represents.start : Represents idOf ({} : TrackRecord τ) :=
  ⟨fun _ => rfl, fun _ => iff_of_false List.not_mem_nil Bool.false_ne_true, nofun, List.nodup_nil, List.Pairwise.nil⟩

theorem Represents.listed_distinct (represents : g.Represents idOf) (s : String) :
    ((g.listed s).map idOf).Nodup := by
  rw [represents.lists s, List.map_map, List.Nodup, List.pairwise_map]
  refine (represents.distinct.filter _).imp_of_mem ?_
  intro e f left right apart
  have at_e := of_decide_eq_true (List.mem_filter.mp left).2
  have at_f := of_decide_eq_true (List.mem_filter.mp right).2
  exact apart (at_e.1.trans at_f.1.symm)

theorem Represents.get_right_iff (represents : g.Represents idOf) (s : String) :
    g.Right idOf (.get s) ↔ g.Unharmed idOf (.get s) := by
  unfold Right Unharmed present
  dsimp only
  have split_filter : (g.added.filter fun e => e.stream = s ∧ e.dropped = false) =
      (g.added.filter fun e => e.stream = s).filter fun e => e.dropped = false := by
    rw [List.filter_filter]
    congr 1
    funext e
    rw [Bool.decide_and, Bool.and_comm]
  rw [represents.lists s, split_filter, map_filter_eq_iff]
  simp only [List.mem_filter, decide_eq_true_eq, and_imp]

theorem Represents.downtracks_right_iff (represents : g.Represents idOf) (order : List String) :
    g.Right idOf (.downtracks order) ↔ g.Unharmed idOf (.downtracks order) := by
  unfold Right Unharmed
  dsimp only
  constructor
  · rintro ⟨union, same⟩
    have empty (s : String) : g.listed s = [] := by
      unfold listed TrackStore.getDowntracks
      rw [← same]
      unfold TrackStore.downtracks
      dsimp only
      cases g.store.tracks s <;> rfl
    have nothing : (g.store.downtracks order).2 = [] := List.flatMap_eq_nil_iff.mpr fun s _ => empty s
    rw [nothing] at union
    exact List.map_eq_nil_iff.mp union.symm.eq_nil
  · intro none_added
    have empty (s : String) : g.listed s = [] := by
      rw [represents.lists s, none_added]
      rfl
    constructor
    · rw [none_added]
      exact List.Perm.of_eq (List.flatMap_eq_nil_iff.mpr fun s _ => empty s)
    · have kept : (fun s => (g.store.tracks s).map fun _ => ([] : List τ)) = g.store.tracks := by
        funext s
        have at_s := empty s
        unfold listed TrackStore.getDowntracks at at_s
        cases found : g.store.tracks s with
        | none => rfl
        | some dts =>
            rw [found, Option.getD_some] at at_s
            rw [at_s]
            rfl
      unfold TrackStore.downtracks
      rw [kept]

theorem Represents.right_iff (represents : g.Represents idOf) (op : StoreOp τ) :
    g.Right idOf op ↔ g.Unharmed idOf op := by
  cases op with
  | add s t => exact Iff.rfl
  | remove s t => exact TrackStore.removeDownTrack_right_iff g.store s t (represents.listed_distinct s)
  | get s => exact represents.get_right_iff s
  | downtracks order => exact represents.downtracks_right_iff order

theorem Represents.add {s : String} {t : τ} (represents : g.Represents idOf) (h : g.step idOf (.add s t) = some g') :
    g'.Represents idOf := by
  dsimp only [step] at h
  split at h
  · cases h
  next fresh =>
      cases h
      have apart : ∀ e ∈ g.added, e.stream = s → idOf e.track ≠ idOf t := fun e mem at_s same =>
        fresh (List.any_eq_true.mpr ⟨e, mem, decide_eq_true ⟨at_s, same⟩⟩)
      refine ⟨fun s' => ?_, fun s' => ?_, fun e mem => ?_, ?_, ?_⟩
      · have old := represents.lists s'
        unfold listed TrackStore.getDowntracks at old ⊢
        rw [List.filter_append, List.map_append, ← old]
        by_cases same : s' = s
        · subst same
          rw [TrackStore.addDownTrack_self]
          cases found : g.store.tracks s' <;> simp
        · rw [TrackStore.addDownTrack_other g.store t same]
          simp [Ne.symm same]
      · rw [TrackStore.mem_addDownTrack_streams represents.streams]
        by_cases same : s' = s
        · subst same
          rw [TrackStore.addDownTrack_self]
          exact iff_of_true (Or.inr rfl) rfl
        · rw [TrackStore.addDownTrack_other g.store t same, or_iff_left same]
          exact represents.streams s'
      · rw [TrackStore.mem_addDownTrack_streams represents.streams]
        rcases List.mem_append.mp mem with earlier | single
        · exact Or.inl (represents.known e earlier)
        · rw [List.mem_singleton.mp single]
          exact Or.inr rfl
      · unfold TrackStore.addDownTrack
        split
        · exact represents.nodup
        next unknown =>
            refine List.nodup_append.mpr ⟨represents.nodup, List.nodup_singleton s, ?_⟩
            rintro k mem _ single rfl
            have known := (represents.streams k).mp mem
            rw [List.mem_singleton.mp single, unknown] at known
            cases known
      · refine List.pairwise_append.mpr ⟨represents.distinct, List.pairwise_singleton _ _, ?_⟩
        intro e mem f single
        rw [List.mem_singleton.mp single]
        exact apart e mem

theorem Represents.remove {s : String} {t : τ} (represents : g.Represents idOf)
    (unharmed : g.Unharmed idOf (.remove s t)) (h : g.step idOf (.remove s t) = some g') : g'.Represents idOf := by
  cases h
  have right := (represents.right_iff (.remove s t)).mpr unharmed
  refine ⟨fun s' => ?_, fun s' => ?_, fun e mem => ?_, ?_, represents.distinct.filter _⟩
  · by_cases same : s' = s
    · subst same
      refine Eq.trans right ?_
      rw [represents.lists s', List.filter_map, List.filter_filter, List.filter_filter]
      congr 2
      funext e
      simp only [isTrack, Function.comp_apply]
      by_cases at_s : e.stream = s' <;> simp [at_s, Bool.and_comm]
    · have kept := @TrackStore.removeDownTrack_other τ idOf g.store t s s' same
      refine (congrArg (fun l : Option (List τ) => l.getD []) kept).trans ((represents.lists s').trans ?_)
      rw [List.filter_filter]
      congr 2
      funext e
      by_cases at_s : e.stream = s'
      · simp [isTrack, at_s, same]
      · simp [at_s]
  · rw [TrackStore.removeDownTrack_streams, TrackStore.removeDownTrack_isSome]
    exact represents.streams s'
  · rw [TrackStore.removeDownTrack_streams]
    exact represents.known e (List.mem_filter.mp mem).1
  · rw [TrackStore.removeDownTrack_streams]
    exact represents.nodup

theorem Represents.downtracks {order : List String} (represents : g.Represents idOf)
    (h : g.step idOf (.downtracks order) = some g') : g'.Represents idOf := by
  dsimp only [step] at h
  split at h
  · cases h
    refine ⟨fun s => ?_, fun s => ?_, fun e mem => ?_, represents.nodup, ?_⟩
    · rw [List.filter_map, List.filter_eq_nil_iff.mpr (by simp)]
      unfold listed TrackStore.getDowntracks TrackStore.downtracks
      dsimp only
      cases g.store.tracks s <;> rfl
    · refine (represents.streams s).trans ?_
      unfold TrackStore.downtracks
      rw [Option.isSome_map]
    · obtain ⟨e', old, rfl⟩ := List.mem_map.mp mem
      exact represents.known e' old
    · exact List.pairwise_map.mpr represents.distinct
  · cases h

theorem step_represents {op : StoreOp τ} (represents : g.Represents idOf) (unharmed : g.Unharmed idOf op)
    (h : g.step idOf op = some g') : g'.Represents idOf := by
  cases op with
  | add s t => exact represents.add h
  | remove s t => exact represents.remove unharmed h
  | get s =>
      cases h
      exact represents
  | downtracks order => exact represents.downtracks h

/-- In a run every operation does what it is for exactly when none meets a dropped track, all tracks
are queried at once only while there are none, and removals are from the first 32768 places. -/
theorem run_right_iff (idOf : τ → String) (ops : List (StoreOp τ)) :
    Guarded (step idOf) (Right idOf) {} ops ↔ Guarded (step idOf) (Unharmed idOf) {} ops :=
  guarded_iff (Represents idOf) (fun _ op represents => represents.right_iff op)
    (fun _ _ _ represents unharmed h => step_represents represents unharmed h) Represents.start

/-- The first track of a stream is added and cannot be found. -/
theorem first_track_dropped :
    ∃ g, run (step fun t : String => t) {} [.add "camera" "audio"] = some g ∧ g.present "camera" = ["audio"] ∧
      g.store.getDowntracks "camera" = some [] ∧
      ¬ Guarded (step fun t : String => t) (Right fun t => t) {} [.add "camera" "audio", .get "camera"] := by
  refine ⟨_, rfl, rfl, rfl, fun right => ?_⟩
  have found : [] = ["audio"] := (right.2 _ rfl).1
  cases found

end TrackRecord

end Rsfu
