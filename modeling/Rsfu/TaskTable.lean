import Mathlib.Data.List.Basic
import Mathlib.Algebra.GroupWithZero.Nat

/-! Tasks named by the order they started in: a new task is appended, and a step
of a task replaces its entry. -/
namespace TaskTable

variable {α : Type*} {tasks : List α} {task task' other : α} {k : Nat}

theorem lookup_append (h : (tasks ++ [task])[k]? = some other) :
    tasks[k]? = some other ∨ (k = tasks.length ∧ other = task) := by
  rcases Nat.lt_trichotomy k tasks.length with less | rfl | more
  · rw [List.getElem?_append_left less] at h
    exact Or.inl h
  · rw [List.getElem?_concat_length] at h
    exact Or.inr ⟨rfl, (Option.some.inj h).symm⟩
  · rw [List.getElem?_eq_none (by rw [List.length_append]; exact more)] at h
    cases h

theorem lookup_append_old (found : tasks[k]? = some task) : (tasks ++ [other])[k]? = some task :=
  (List.getElem?_append_left (List.getElem?_eq_some_iff.mp found).1).trans found

theorem lookup_set (found : tasks[k]? = some task) (j : Nat) :
    (tasks.set k task')[j]? = if k = j then some task' else tasks[j]? := by
  rw [List.getElem?_set, if_pos (List.getElem?_eq_some_iff.mp found).1]

/-- An entry found after a replacement is the new one, or is of another task and was there. -/
theorem lookup_set_cases {j : Nat} (h : (tasks.set k task')[j]? = some other) :
    (j = k ∧ other = task') ∨ (j ≠ k ∧ tasks[j]? = some other) := by
  by_cases same : j = k
  · subst same
    rw [List.getElem?_set_self'] at h
    obtain ⟨before, -, rfl⟩ := Option.map_eq_some_iff.mp h
    exact Or.inl ⟨rfl, rfl⟩
  · rw [List.getElem?_set_ne (Ne.symm same)] at h
    exact Or.inr ⟨same, h⟩

theorem mem_set_other (found : tasks[k]? = some task) (mem : other ∈ tasks) (differ : task ≠ other) :
    other ∈ tasks.set k task' := by
  obtain ⟨j, at_j⟩ := List.mem_iff_getElem?.mp mem
  refine List.mem_iff_getElem?.mpr ⟨j, ?_⟩
  rw [lookup_set found]
  by_cases same : k = j
  · subst same
    exact absurd (Option.some.inj (found.symm.trans at_j)) differ
  · rw [if_neg same, at_j]

theorem mem_set_self (found : tasks[k]? = some task) : task' ∈ tasks.set k task' :=
  List.mem_set (List.getElem?_eq_some_iff.mp found).1 _

/-- What a replacement does not change of its entry, it does not change of the table. -/
theorem map_set_same {β : Type*} {f : α → β} (found : tasks[k]? = some task) (same : f task' = f task) :
    (tasks.set k task').map f = tasks.map f := by
  apply List.ext_getElem?
  intro j
  rw [List.getElem?_map, List.getElem?_map, lookup_set found]
  by_cases here : k = j
  · subst here
    rw [if_pos rfl, found, Option.map_some, Option.map_some, same]
  · rw [if_neg here]

theorem sum_set (f : α → Nat) (task' : α) (found : tasks[k]? = some task) :
    ((tasks.set k task').map f).sum + f task = (tasks.map f).sum + f task' := by
  induction tasks generalizing k with
  | nil => cases found
  | cons first rest ih =>
      cases k with
      | zero =>
          cases found
          simp only [List.set_cons_zero, List.map_cons, List.sum_cons]
          omega
      | succ j =>
          have later := ih (k := j) found
          simp only [List.set_cons_succ, List.map_cons, List.sum_cons]
          omega

theorem forall_mem_set {P : α → Prop} (old : ∀ t ∈ tasks, P t) (new : P task') (k : Nat) :
    ∀ t ∈ tasks.set k task', P t := by
  intro t mem
  rcases List.mem_or_eq_of_mem_set mem with among | rfl
  · exact old t among
  · exact new

/-- What is shown of every task when one of them has been replaced. -/
theorem forall_set {P Q : Nat → α → Prop} (old : ∀ j t, tasks[j]? = some t → P j t)
    (new : Q k task') (others : ∀ j t, j ≠ k → P j t → Q j t) : ∀ j t, (tasks.set k task')[j]? = some t → Q j t := by
  intro j t h
  rcases lookup_set_cases h with ⟨rfl, rfl⟩ | ⟨other, found⟩
  · exact new
  · exact others j t other (old j t found)

theorem forall_append {P : Nat → α → Prop} (old : ∀ j t, tasks[j]? = some t → P j t) (new : P tasks.length task) :
    ∀ j t, (tasks ++ [task])[j]? = some t → P j t := by
  intro j t h
  rcases lookup_append h with found | ⟨rfl, rfl⟩
  · exact old j t found
  · exact new

/-- At most one task is in the section. -/
def Exclusive (inside : α → Bool) (tasks : List α) : Prop :=
  ∀ (i j : Nat) (t u : α), tasks[i]? = some t → tasks[j]? = some u → inside t = true → inside u = true → i = j

theorem Exclusive.append {inside : α → Bool} (exclusive : Exclusive inside tasks) (outside : inside task = false) :
    Exclusive inside (tasks ++ [task]) := by
  have old {i : Nat} {t : α} (found : (tasks ++ [task])[i]? = some t) (held : inside t = true) :
      tasks[i]? = some t := by
    rcases lookup_append found with found | ⟨-, rfl⟩
    · exact found
    · cases outside.symm.trans held
  intro i j t u at_i at_j held held'
  exact exclusive i j t u (old at_i held) (old at_j held') held held'

/-- A task is in the section that was in it, or that finds nobody there. -/
theorem Exclusive.set {inside : α → Bool} (exclusive : Exclusive inside tasks) (found : tasks[k]? = some task)
    (enters : inside task' = true → inside task = true ∨ ∀ t ∈ tasks, inside t = false) :
    Exclusive inside (tasks.set k task') := by
  have alone {i : Nat} {t : α} (differ : i ≠ k) (at_i : tasks[i]? = some t) (held : inside t = true) :
      inside task' = false := by
    rw [← Bool.not_eq_true]
    intro taken
    rcases enters taken with before | free
    · exact differ (exclusive i k t task at_i found held before)
    · cases (free t (List.mem_of_getElem? at_i)).symm.trans held
  intro i j t u at_i at_j held held'
  rcases lookup_set_cases at_i with ⟨rfl, rfl⟩ | ⟨differ, old⟩
  · rcases lookup_set_cases at_j with ⟨rfl, -⟩ | ⟨differ, old⟩
    · rfl
    · cases (alone differ old held').symm.trans held
  · rcases lookup_set_cases at_j with ⟨rfl, rfl⟩ | ⟨-, old'⟩
    · cases (alone differ old held).symm.trans held'
    · exact exclusive i j t u old old' held held'

end TaskTable
