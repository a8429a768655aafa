import Mathlib.Data.List.Basic
import Mathlib.Data.List.Nodup
import Rsfu.TaskTable

/-! Items found by a key or made for it. An item that was made is last, and an item keeps
its place, so no two items ever share a key. Tasks of one key come to one place, whatever
the order they come in, and one of them is told it made the item. -/
namespace Interning
open TaskTable

variable {α κ τ : Type*}

/-- The items, the place of the one with the key, and whether it was made. -/
def intern [DecidableEq κ] (key : α → κ) (items : List α) (k : κ) (new : α) : List α × Nat × Bool :=
  match items.findIdx? fun a => decide (key a = k) with
  | some i => (items, i, false)
  | none => (items ++ [new], items.length, true)

/-- What a step of a task does to the keys and to its own place, and whether it makes an item. -/
inductive Interns (keys : List κ) (k : κ) : Option Nat → List κ → Option Nat → Bool → Prop where
  | still (place : Option Nat) : Interns keys k place keys place false
  | found {i : Nat} (there : keys[i]? = some k) : Interns keys k none keys (some i) false
  | made (absent : k ∉ keys) : Interns keys k none (keys ++ [k]) (some keys.length) true

theorem intern_absent [DecidableEq κ] {key : α → κ} {items : List α} {k : κ} (absent : k ∉ items.map key) (new : α) :
    intern key items k new = (items ++ [new], items.length, true) := by
  unfold intern
  have none : (items.findIdx? fun a => decide (key a = k)) = none := by
    refine List.findIdx?_eq_none_iff.mpr ?_
    intro a among
    rw [decide_eq_false_iff_not]
    rintro rfl
    exact absent (List.mem_map_of_mem among)
  rw [none]

theorem intern_interns [DecidableEq κ] (key : α → κ) {k : κ} {new : α} (named : key new = k) (items : List α) :
    Interns (items.map key) k none ((intern key items k new).1.map key) (some (intern key items k new).2.1)
      (intern key items k new).2.2 := by
  unfold intern
  cases found : items.findIdx? fun a => decide (key a = k) with
  | some i =>
      refine .found ?_
      have holds := List.of_findIdx?_eq_some found
      rw [List.getElem?_map]
      cases at_i : items[i]? with
      | none =>
          rw [at_i] at holds
          cases holds
      | some a =>
          rw [at_i] at holds
          rw [Option.map_some, of_decide_eq_true holds]
  | none =>
      have absent : k ∉ items.map key := by
        intro mem
        obtain ⟨a, among, same⟩ := List.mem_map.mp mem
        have other := List.findIdx?_eq_none_iff.mp found a among
        exact of_decide_eq_false other same
      have new := Interns.made absent
      rw [List.length_map] at new
      simpa only [List.map_append, List.map_singleton, named] using new

theorem intern_lookup [DecidableEq κ] {key : α → κ} {items : List α} {k : κ} {new a : α} {p : Nat}
    (h : (intern key items k new).1[p]? = some a) :
    items[p]? = some a ∨ (p = (intern key items k new).2.1 ∧ a = new) := by
  unfold intern at h ⊢
  cases found : items.findIdx? fun a => decide (key a = k) with
  | some i =>
      rw [found] at h
      exact Or.inl h
  | none =>
      rw [found] at h
      exact lookup_append h

theorem intern_lookup_old [DecidableEq κ] {key : α → κ} {items : List α} {k : κ} {new a : α} {p : Nat}
    (there : items[p]? = some a) : (intern key items k new).1[p]? = some a := by
  unfold intern
  split
  · exact there
  · exact lookup_append_old there

section
variable {keys keys' : List κ} {k name : κ} {place place' : Option Nat} {made : Bool} {p : Nat}

theorem Interns.nodup (h : Interns keys k place keys' place' made) (nodup : keys.Nodup) : keys'.Nodup := by
  cases h with
  | still => exact nodup
  | found => exact nodup
  | made absent =>
      rw [← List.concat_eq_append]
      exact nodup.concat absent

/-- Items keep their places. -/
theorem Interns.lookup (h : Interns keys k place keys' place' made) (there : keys[p]? = some name) :
    keys'[p]? = some name := by
  cases h with
  | still => exact there
  | found => exact there
  | made => exact lookup_append_old there

theorem Interns.length_le (h : Interns keys k place keys' place' made) : keys.length ≤ keys'.length := by
  cases h with
  | still => exact Nat.le_refl _
  | found => exact Nat.le_refl _
  | made =>
      rw [List.length_append]
      exact Nat.le_add_right _ _

/-- A place that is come to is one of the task's own key. -/
theorem Interns.own (h : Interns keys k place keys' place' made)
    (old : ∀ p, place = some p → keys[p]? = some k) (has : place' = some p) : keys'[p]? = some k := by
  cases h with
  | still => exact old p has
  | found there =>
      cases has
      exact there
  | made =>
      cases has
      exact List.getElem?_concat_length

theorem Interns.keeps (h : Interns keys k place keys' place' made) (has : place = some p) : place' = some p := by
  cases h with
  | still => exact has
  | found => cases has
  | made => cases has

/-- A new place is the one the task has come to and made. -/
theorem Interns.new (h : Interns keys k place keys' place' made) (among : p < keys'.length) :
    p < keys.length ∨ place' = some p ∧ made = true ∧ p = keys.length := by
  cases h with
  | still => exact Or.inl among
  | found => exact Or.inl among
  | made =>
      rw [List.length_append, List.length_singleton] at among
      rcases Nat.lt_succ_iff_lt_or_eq.mp among with before | rfl
      · exact Or.inl before
      · exact Or.inr ⟨rfl, rfl, rfl⟩

theorem Interns.unmade (h : Interns keys k place keys' place' made) (before : p < keys.length)
    (has : place' = some p) : made = false := by
  cases h with
  | still => rfl
  | found => rfl
  | made =>
      cases has
      exact absurd before (Nat.lt_irrefl _)

end

section
variable {name : τ → κ} {place : τ → Option Nat} {maker : τ → Bool} {keys keys' : List κ} {tasks : List τ}
  {t t' : τ} {made : Bool} {i p : Nat}

/-- Each task that has a place has the one of its key, and every place is some task's. -/
structure Interned (name : τ → κ) (place : τ → Option Nat) (keys : List κ) (tasks : List τ) : Prop where
  nodup : keys.Nodup
  own : ∀ (i : Nat) (t : τ), tasks[i]? = some t → ∀ p, place t = some p → keys[p]? = some (name t)
  placed : ∀ p < keys.length, ∃ (i : Nat) (t : τ), tasks[i]? = some t ∧ place t = some p

theorem Interned.start : Interned name place [] [] where
  nodup := List.nodup_nil
  own := by
    intro i t found
    cases found
  placed := fun p among => absurd among (Nat.not_lt_zero p)

theorem Interned.append (inv : Interned name place keys tasks) (fresh : place t = none) :
    Interned name place keys (tasks ++ [t]) where
  nodup := inv.nodup
  own := by
    refine forall_append inv.own ?_
    intro p has
    cases fresh.symm.trans has
  placed := by
    intro p among
    obtain ⟨i, t, found, has⟩ := inv.placed p among
    exact ⟨i, t, lookup_append_old found, has⟩

theorem Interned.set (inv : Interned name place keys tasks) (found : tasks[i]? = some t) (same : name t' = name t)
    (interns : Interns keys (name t) (place t) keys' (place t') made) :
    Interned name place keys' (tasks.set i t') where
  nodup := interns.nodup inv.nodup
  own := by
    refine forall_set inv.own ?_ ?_
    · intro p has
      rw [same]
      exact interns.own (inv.own i t found) has
    · intro j other _ old p has
      exact interns.lookup (old p has)
  placed := by
    intro p among
    rcases interns.new among with before | ⟨has, -, -⟩
    · obtain ⟨j, other, there, has⟩ := inv.placed p before
      by_cases own : i = j
      · subst own
        cases found.symm.trans there
        exact ⟨i, t', by rw [lookup_set found, if_pos rfl], interns.keeps has⟩
      · exact ⟨j, other, by rw [lookup_set found, if_neg own, there], has⟩
    · exact ⟨i, t', by rw [lookup_set found, if_pos rfl], has⟩

/-- The task has come to the place and was told that it made the item. -/
def Makes (place : τ → Option Nat) (maker : τ → Bool) (tasks : List τ) (i p : Nat) : Prop :=
  ∃ t : τ, tasks[i]? = some t ∧ place t = some p ∧ maker t = true

/-- Every item was made by one task. -/
def MadeOnce (place : τ → Option Nat) (maker : τ → Bool) (count : Nat) (tasks : List τ) : Prop :=
  ∀ p < count, ∃ i, Makes place maker tasks i p ∧ ∀ j, Makes place maker tasks j p → j = i

theorem makes_iff (found : tasks[i]? = some t) : Makes place maker tasks i p ↔ place t = some p ∧ maker t = true := by
  unfold Makes
  rw [found]
  constructor
  · rintro ⟨_, same, made⟩
    cases same
    exact made
  · intro made
    exact ⟨t, rfl, made⟩

theorem makes_set (found : tasks[i]? = some t) (j : Nat) :
    Makes place maker (tasks.set i t') j p ↔
      if i = j then place t' = some p ∧ maker t' = true else Makes place maker tasks j p := by
  by_cases same : i = j
  · subst same
    rw [if_pos rfl]
    exact makes_iff (by rw [lookup_set found, if_pos rfl])
  · unfold Makes
    rw [if_neg same, lookup_set found, if_neg same]

theorem MadeOnce.append {count : Nat} (once : MadeOnce place maker count tasks) (fresh : place t = none) :
    MadeOnce place maker count (tasks ++ [t]) := by
  have same (j p : Nat) : Makes place maker (tasks ++ [t]) j p ↔ Makes place maker tasks j p := by
    constructor
    · rintro ⟨other, found, has, made⟩
      rcases lookup_append found with found | ⟨-, rfl⟩
      · exact ⟨other, found, has, made⟩
      · cases fresh.symm.trans has
    · rintro ⟨other, found, made⟩
      exact ⟨other, lookup_append_old found, made⟩
  intro p among
  obtain ⟨i, makes, only⟩ := once p among
  exact ⟨i, (same i p).mpr makes, fun j h => only j ((same j p).mp h)⟩

theorem MadeOnce.set (once : MadeOnce place maker keys.length tasks) (inv : Interned name place keys tasks)
    (found : tasks[i]? = some t) (interns : Interns keys (name t) (place t) keys' (place t') made)
    (told : maker t' = (maker t || made)) (unplaced : place t = none → maker t = false) :
    MadeOnce place maker keys'.length (tasks.set i t') := by
  intro p among
  rcases interns.new among with before | ⟨has, now, last⟩
  · -- the task that made it still counts as its maker
    have kept (j : Nat) : Makes place maker (tasks.set i t') j p ↔ Makes place maker tasks j p := by
      rw [makes_set found]
      by_cases own : i = j
      · subst own
        rw [if_pos rfl, makes_iff found]
        constructor
        · rintro ⟨has, made⟩
          rw [told, interns.unmade before has, Bool.or_false] at made
          cases placed : place t with
          | none => cases (unplaced placed).symm.trans made
          | some q => exact ⟨(interns.keeps placed).symm.trans has, made⟩
        · rintro ⟨has, made⟩
          exact ⟨interns.keeps has, by rw [told, made, Bool.true_or]⟩
      · rw [if_neg own]
    obtain ⟨j, makes, only⟩ := once p before
    exact ⟨j, (kept j).mpr makes, fun j' h => only j' ((kept j').mp h)⟩
  · refine ⟨i, (makes_set found i).mpr ?_, ?_⟩
    · rw [if_pos rfl]
      exact ⟨has, by rw [told, now, Bool.or_true]⟩
    · intro j h
      by_contra other
      rw [makes_set found, if_neg (Ne.symm other)] at h
      obtain ⟨before, there, has, -⟩ := h
      have inside := (List.getElem?_eq_some_iff.mp (inv.own j before there p has)).1
      exact absurd inside (by omega)

end

end Interning
