import Rsfu.GuardedRun
import Rsfu.TaskTable
import Mathlib.Algebra.BigOperators.Group.List.Basic
import Mathlib.Algebra.GroupWithZero.Nat

/-! Tasks with nested lock guards. A program says in which scopes it may hold which locks, its
traces what one call takes, gives back and waits for. If every lock is asked for inside locks of
lower rank only, each task can go on, or a task it waits for can or waits for something from outside;
a set of tasks that wait for each other's locks never does. -/
namespace LockScopes
open GuardedRun TaskTable

inductive LockEvent (L : Type) where
  | acquire (lock : L)
  | release (lock : L)
  | await
  deriving DecidableEq

/-- The guards of a program: `hold` keeps one for a scope, `each` is a loop over any indices,
`await` waits for something that no lock of the program stands for. -/
inductive Scopes (L : Type) where
  | skip
  | await
  | hold (lock : L) (body : Scopes L)
  | seq (first next : Scopes L)
  | either (left right : Scopes L)
  | each (body : Nat → Scopes L)

variable {L : Type}

namespace Scopes

/-- A guard that is given back at once. -/
def touch (lock : L) : Scopes L := .hold lock .skip

/-- The parts of a function one after another. -/
def block : List (Scopes L) → Scopes L
  | [] => .skip
  | first :: rest => .seq first (block rest)

/-- What one call may do. It may return after any part of a sequence, and gives its guards back. -/
inductive Trace : Scopes L → List (LockEvent L) → Prop where
  | skip : Trace .skip []
  | await : Trace .await [.await]
  | hold (lock : L) {body : Scopes L} {events : List (LockEvent L)} (inside : Trace body events) :
      Trace (.hold lock body) (.acquire lock :: events ++ [.release lock])
  | seq {first next : Scopes L} {left right : List (LockEvent L)} (one : Trace first left) (two : Trace next right) :
      Trace (.seq first next) (left ++ right)
  | stop {first next : Scopes L} {events : List (LockEvent L)} (one : Trace first events) :
      Trace (.seq first next) events
  | left {left right : Scopes L} {events : List (LockEvent L)} (one : Trace left events) :
      Trace (.either left right) events
  | right {left right : Scopes L} {events : List (LockEvent L)} (one : Trace right events) :
      Trace (.either left right) events
  | done {body : Nat → Scopes L} : Trace (.each body) []
  | round (i : Nat) {body : Nat → Scopes L} {left right : List (LockEvent L)} (one : Trace (body i) left)
      (more : Trace (.each body) right) : Trace (.each body) (left ++ right)

/-- Every lock is asked for inside locks of lower rank, and none of a rank below `floor`. -/
def Ranked (rank : L → Nat) : Nat → Scopes L → Prop
  | _, .skip => True
  | _, .await => True
  | floor, .hold lock body => floor ≤ rank lock ∧ Ranked rank (rank lock + 1) body
  | floor, .seq first next => Ranked rank floor first ∧ Ranked rank floor next
  | floor, .either left right => Ranked rank floor left ∧ Ranked rank floor right
  | floor, .each body => ∀ i, Ranked rank floor (body i)

theorem Ranked.mono {rank : L → Nat} {floor lower : Nat} {p : Scopes L} (ranked : Ranked rank floor p)
    (less : lower ≤ floor) : Ranked rank lower p := by
  induction p generalizing floor lower with
  | skip => trivial
  | await => trivial
  | hold lock body ih => exact ⟨Nat.le_trans less ranked.1, ranked.2⟩
  | seq first next ih₁ ih₂ => exact ⟨ih₁ ranked.1 less, ih₂ ranked.2 less⟩
  | either left right ih₁ ih₂ => exact ⟨ih₁ ranked.1 less, ih₂ ranked.2 less⟩
  | each body ih => exact fun i => ih i (ranked i) less

def Mentions (lock : L) : Scopes L → Prop
  | .skip => False
  | .await => False
  | .hold other body => other = lock ∨ Mentions lock body
  | .seq first next => Mentions lock first ∨ Mentions lock next
  | .either left right => Mentions lock left ∨ Mentions lock right
  | .each body => ∃ i, Mentions lock (body i)

/-- A ranked program mentions no lock below its floor. -/
theorem Ranked.floor_le {rank : L → Nat} {floor : Nat} {lock : L} {p : Scopes L} (ranked : Ranked rank floor p)
    (mentions : Mentions lock p) : floor ≤ rank lock := by
  induction p generalizing floor with
  | skip => exact mentions.elim
  | await => exact mentions.elim
  | hold other body ih =>
      rcases mentions with rfl | mentions
      · exact ranked.1
      · exact Nat.le_trans ranked.1 (Nat.le_of_lt (ih ranked.2 mentions))
  | seq first next ih₁ ih₂ => exact mentions.elim (ih₁ ranked.1) (ih₂ ranked.2)
  | either left right ih₁ ih₂ => exact mentions.elim (ih₁ ranked.1) (ih₂ ranked.2)
  | each body ih =>
      obtain ⟨i, mentions⟩ := mentions
      exact ih i (ranked i) mentions

theorem Trace.mentions {lock : L} {p : Scopes L} {events : List (LockEvent L)} (trace : p.Trace events)
    (mem : .acquire lock ∈ events ∨ .release lock ∈ events) : Mentions lock p := by
  induction trace with
  | skip => simp at mem
  | await => simp at mem
  | hold other inside ih =>
      by_cases same : other = lock
      · exact Or.inl same
      · refine Or.inr (ih ?_)
        simpa [Ne.symm same] using mem
  | seq one two ih₁ ih₂ =>
      simp only [List.mem_append] at mem
      rcases mem with (mem | mem) | (mem | mem)
      · exact Or.inl (ih₁ (Or.inl mem))
      · exact Or.inr (ih₂ (Or.inl mem))
      · exact Or.inl (ih₁ (Or.inr mem))
      · exact Or.inr (ih₂ (Or.inr mem))
  | stop one ih => exact Or.inl (ih mem)
  | left one ih => exact Or.inl (ih mem)
  | right one ih => exact Or.inr (ih mem)
  | done => simp at mem
  | round i one more ih₁ ih₂ =>
      simp only [List.mem_append] at mem
      rcases mem with (mem | mem) | (mem | mem)
      · exact ⟨i, ih₁ (Or.inl mem)⟩
      · exact ih₂ (Or.inl mem)
      · exact ⟨i, ih₁ (Or.inr mem)⟩
      · exact ih₂ (Or.inr mem)

/-- A function that takes a lock in its last part gives it back last. -/
theorem Trace.release_last {lock : L} {body : Scopes L} {parts : List (Scopes L)}
    (foreign : ∀ p ∈ parts, ¬ Mentions lock p) (own : ¬ Mentions lock body) {events left right : List (LockEvent L)}
    (trace : (block (parts ++ [.hold lock body])).Trace events) (split : events = left ++ .release lock :: right) :
    right = [] := by
  induction parts generalizing events left with
  | nil =>
      have whole {events : List (LockEvent L)} (trace : (Scopes.hold lock body).Trace events)
          (split : events = left ++ .release lock :: right) : right = [] := by
        cases trace with
        | @hold _ _ inside inner =>
            have none : .release lock ∉ LockEvent.acquire lock :: inside := by
              intro mem
              refine own (inner.mentions (Or.inr ?_))
              simpa using mem
            rcases List.append_eq_append_iff.mp split with ⟨more, rfl, last⟩ | ⟨more, shape, last⟩
            · cases more with
              | nil =>
                  cases last
                  rfl
              | cons _ more => cases more <;> cases last
            · cases more with
              | nil =>
                  cases last
                  rfl
              | cons e more =>
                  obtain ⟨rfl, -⟩ := List.cons.inj last
                  rw [shape] at none
                  exact absurd (List.mem_append_right _ List.mem_cons_self) none
      cases trace with
      | seq one two =>
          cases two
          rw [List.append_nil] at split
          exact whole one split
      | stop one => exact whole one split
  | cons first rest ih =>
      have none {events : List (LockEvent L)} (trace : first.Trace events) : .release lock ∉ events :=
        fun mem => foreign first List.mem_cons_self (trace.mentions (Or.inr mem))
      cases trace with
      | seq one two =>
          rcases List.append_eq_append_iff.mp split with ⟨more, rfl, last⟩ | ⟨more, rfl, last⟩
          · exact ih (fun p mem => foreign p (List.mem_cons_of_mem _ mem)) two last
          · cases more with
            | nil =>
                have later : _ = [] ++ .release lock :: right := last.symm
                exact ih (fun p mem => foreign p (List.mem_cons_of_mem _ mem)) two later
            | cons e more =>
                obtain ⟨rfl, -⟩ := List.cons.inj last
                exact absurd (List.mem_append_right _ List.mem_cons_self) (none one)
      | stop one =>
          rw [split] at one
          exact absurd (List.mem_append_right _ List.mem_cons_self) (none one)

theorem ranked_touch {rank : L → Nat} {floor : Nat} {lock : L} :
    Ranked rank floor (touch lock) ↔ floor ≤ rank lock := and_iff_left trivial

theorem ranked_block {rank : L → Nat} {floor : Nat} {parts : List (Scopes L)} :
    Ranked rank floor (block parts) ↔ ∀ p ∈ parts, Ranked rank floor p := by
  induction parts with
  | nil => exact ⟨fun _ p mem => absurd mem List.not_mem_nil, fun _ => trivial⟩
  | cons first rest ih =>
      rw [List.forall_mem_cons, ← ih]
      exact Iff.rfl

end Scopes

/-- A task with the locks it holds, the last one first, and what it has still to do. -/
structure LockTask (L : Type) where
  held : List L := []
  rest : List (LockEvent L)

/-- A task is started or goes on by itself, or what it waits for has come. -/
inductive LockStep (L : Type) where
  | start (events : List (LockEvent L))
  | resume (k : Nat)
  | answer (k : Nat)

def LockStep.starts : LockStep L → Bool
  | start _ => true
  | _ => false

def LockTask.awaits (task : LockTask L) : Prop := task.rest.head? = some .await

/-- Each task of the set waits for a lock that a task of the set holds. -/
def Stuck (tasks : List (LockTask L)) (set : Nat → Prop) : Prop :=
  ∀ k, set k → ∃ task lock rest, tasks[k]? = some task ∧ task.rest = .acquire lock :: rest ∧
    ∃ j other, set j ∧ tasks[j]? = some other ∧ lock ∈ other.held

theorem Stuck.insert {tasks : List (LockTask L)} {set : Nat → Prop} (stuck : Stuck tasks set) {k j : Nat}
    {task other : LockTask L} {lock : L} {rest : List (LockEvent L)} (found : tasks[k]? = some task)
    (asks : task.rest = .acquire lock :: rest) (mem : set j) (holder : tasks[j]? = some other)
    (held : lock ∈ other.held) : Stuck tasks fun i => i = k ∨ set i := by
  rintro i (rfl | old)
  · exact ⟨task, lock, rest, found, asks, j, other, Or.inr mem, holder, held⟩
  · obtain ⟨task, lock, rest, found, asks, j, other, mem, holder, held⟩ := stuck i old
    exact ⟨task, lock, rest, found, asks, j, other, Or.inr mem, holder, held⟩

theorem Stuck.congr {tasks tasks' : List (LockTask L)} {set : Nat → Prop} (stuck : Stuck tasks set)
    (same : ∀ k, set k → tasks'[k]? = tasks[k]?) : Stuck tasks' set := by
  intro k mem
  obtain ⟨task, lock, rest, found, asks, j, other, mem', holder, held⟩ := stuck k mem
  exact ⟨task, lock, rest, (same k mem).trans found, asks, j, other, mem', (same j mem').trans holder, held⟩

section System
variable [DecidableEq L]

def Free (tasks : List (LockTask L)) (lock : L) : Prop := ∀ task ∈ tasks, lock ∉ task.held

instance (tasks : List (LockTask L)) (lock : L) : Decidable (Free tasks lock) :=
  inferInstanceAs (Decidable (∀ task ∈ tasks, lock ∉ task.held))

/-- A task takes a lock nobody holds, its own guards included, or gives one back. -/
def advance (tasks : List (LockTask L)) (task : LockTask L) : Option (LockTask L) :=
  match task.rest with
  | [] => none
  | .acquire lock :: rest => if Free tasks lock then some ⟨lock :: task.held, rest⟩ else none
  | .release lock :: rest => some ⟨task.held.erase lock, rest⟩
  | .await :: _ => none

def LockTask.answered (task : LockTask L) : Option (LockTask L) :=
  match task.rest with
  | .await :: rest => some { task with rest }
  | _ => none

def step (tasks : List (LockTask L)) : LockStep L → Option (List (LockTask L))
  | .start events => some (tasks ++ [{ rest := events }])
  | .resume k => tasks[k]?.bind fun task => (advance tasks task).map fun task' => tasks.set k task'
  | .answer k => tasks[k]?.bind fun task => task.answered.map fun task' => tasks.set k task'

/-- The order in which a task still asks for locks, given those it holds. -/
def Ordered (rank : L → Nat) : List L → List (LockEvent L) → Prop
  | held, [] => held = []
  | held, .acquire lock :: rest => (∀ h ∈ held, rank h < rank lock) ∧ Ordered rank (lock :: held) rest
  | held, .release lock :: rest => Ordered rank (held.erase lock) rest
  | held, .await :: rest => Ordered rank held rest

/-- A trace of a ranked program, and what follows it. -/
theorem Scopes.Trace.ordered {rank : L → Nat} {floor : Nat} {p : Scopes L} {events rest : List (LockEvent L)}
    {held : List L} (trace : p.Trace events) (ranked : p.Ranked rank floor) (below : ∀ h ∈ held, rank h < floor)
    (after : Ordered rank held rest) : Ordered rank held (events ++ rest) := by
  induction trace generalizing floor held rest with
  | skip => exact after
  | await => exact after
  | hold lock inside ih =>
      have bound (h : L) (mem : h ∈ held) : rank h < rank lock := Nat.lt_of_lt_of_le (below h mem) ranked.1
      rw [List.cons_append, List.cons_append, List.append_assoc]
      refine ⟨bound, ih ranked.2 (fun h mem => ?_) ?_⟩
      · rcases List.mem_cons.mp mem with rfl | mem
        · exact Nat.lt_succ_self _
        · exact Nat.lt_succ_of_lt (bound h mem)
      · change Ordered rank ((lock :: held).erase lock) rest
        rwa [List.erase_cons_head]
  | seq one two ih₁ ih₂ =>
      rw [List.append_assoc]
      exact ih₁ ranked.1 below (ih₂ ranked.2 below after)
  | stop one ih => exact ih ranked.1 below after
  | left one ih => exact ih ranked.1 below after
  | right one ih => exact ih ranked.2 below after
  | done => exact after
  | round i one more ih₁ ih₂ =>
      rw [List.append_assoc]
      exact ih₁ (ranked i) below (ih₂ ranked below after)

/-- Tasks are started with traces of the programs. -/
def Runs (programs : Scopes L → Prop) (_ : List (LockTask L)) : LockStep L → Prop
  | .start events => ∃ p, programs p ∧ p.Trace events
  | _ => True

def AllOrdered (rank : L → Nat) (tasks : List (LockTask L)) : Prop :=
  ∀ (k : Nat) (task : LockTask L), tasks[k]? = some task → Ordered rank task.held task.rest

variable {programs : Scopes L → Prop} {rank : L → Nat}

/-- What a task that goes on did. -/
inductive LockTask.Goes (tasks : List (LockTask L)) : LockTask L → LockTask L → Prop where
  | acquire {held : List L} {lock : L} {rest : List (LockEvent L)} (free : Free tasks lock) :
      Goes tasks ⟨held, .acquire lock :: rest⟩ ⟨lock :: held, rest⟩
  | release {held : List L} {lock : L} {rest : List (LockEvent L)} :
      Goes tasks ⟨held, .release lock :: rest⟩ ⟨held.erase lock, rest⟩
  | await {held : List L} {rest : List (LockEvent L)} : Goes tasks ⟨held, .await :: rest⟩ ⟨held, rest⟩

theorem advance_goes {tasks : List (LockTask L)} {task task' : LockTask L} (h : advance tasks task = some task') :
    task.Goes tasks task' := by
  obtain ⟨held, rest⟩ := task
  unfold advance at h
  split at h
  · cases h
  next events =>
      cases events
      split at h
      next free =>
          cases h
          exact .acquire free
      · cases h
  next events =>
      cases events
      cases h
      exact .release
  · cases h

theorem LockTask.answered_goes {tasks : List (LockTask L)} {task task' : LockTask L}
    (h : task.answered = some task') : task.Goes tasks task' := by
  obtain ⟨held, rest⟩ := task
  unfold LockTask.answered at h
  split at h
  next events =>
      cases events
      cases h
      exact .await
  · cases h

/-- A step starts a task or takes one further. -/
theorem step_cases {tasks tasks' : List (LockTask L)} {e : LockStep L} (h : step tasks e = some tasks') :
    (∃ events, e = .start events ∧ tasks' = tasks ++ [{ rest := events }]) ∨
      ∃ k task task', tasks[k]? = some task ∧ task.Goes tasks task' ∧ tasks' = tasks.set k task' := by
  cases e with
  | start events =>
      cases h
      exact Or.inl ⟨events, rfl, rfl⟩
  | resume k =>
      obtain ⟨task, found, h⟩ := Option.bind_eq_some_iff.mp h
      obtain ⟨task', moved, rfl⟩ := Option.map_eq_some_iff.mp h
      exact Or.inr ⟨k, task, task', found, advance_goes moved, rfl⟩
  | answer k =>
      obtain ⟨task, found, h⟩ := Option.bind_eq_some_iff.mp h
      obtain ⟨task', moved, rfl⟩ := Option.map_eq_some_iff.mp h
      exact Or.inr ⟨k, task, task', found, task.answered_goes moved, rfl⟩

theorem step_ordered (ranked : ∀ p, programs p → p.Ranked rank 0) {tasks tasks' : List (LockTask L)}
    {e : LockStep L} (all : AllOrdered rank tasks) (runs : Runs programs tasks e) (h : step tasks e = some tasks') :
    AllOrdered rank tasks' := by
  rcases step_cases h with ⟨events, rfl, rfl⟩ | ⟨k, task, task', found, goes, rfl⟩
  · obtain ⟨p, known, trace⟩ := runs
    refine forall_append all ?_
    have whole : Ordered rank [] (events ++ []) :=
      trace.ordered (ranked p known) (fun h mem => absurd mem List.not_mem_nil) rfl
    rwa [List.append_nil] at whole
  · refine forall_set all ?_ fun _ _ _ same => same
    have before := all k task found
    cases goes with
    | acquire => exact before.2
    | release => exact before
    | await => exact before

/-- The task can go on by itself, waits for something from outside, or asks for a lock of a task
that is live in its turn. -/
inductive LockTask.Live (tasks : List (LockTask L)) : LockTask L → Prop where
  | goes {task task' : LockTask L} (moved : advance tasks task = some task') : Live tasks task
  | awaits {task : LockTask L} (outside : task.awaits) : Live tasks task
  | behind {task holder : LockTask L} {lock : L} {rest : List (LockEvent L)}
      (asks : task.rest = .acquire lock :: rest) (holds : holder ∈ tasks) (held : lock ∈ holder.held)
      (live : Live tasks holder) : Live tasks task

/-- Only a task that asks for a lock has to look at others. -/
theorem LockTask.live_of_asks {tasks : List (LockTask L)} {task : LockTask L} (more : task.rest ≠ [])
    (waits : ∀ lock rest, task.rest = .acquire lock :: rest → task.Live tasks) : task.Live tasks := by
  cases events : task.rest with
  | nil => exact absurd events more
  | cons e rest =>
      cases e with
      | acquire lock => exact waits lock rest events
      | release lock =>
          refine .goes (?_ : _ = some ⟨task.held.erase lock, rest⟩)
          simp only [advance, events]
      | await => exact .awaits (congrArg List.head? events)

/-- The holder of a lock that is asked for goes on, or asks for a lock of higher rank. -/
theorem asks_live {tasks : List (LockTask L)} {bound : Nat} (bounded : ∀ lock, rank lock < bound)
    (all : AllOrdered rank tasks) (n : Nat) {task : LockTask L} {lock : L} {rest : List (LockEvent L)}
    (asks : task.rest = .acquire lock :: rest) (near : bound - rank lock ≤ n) : task.Live tasks := by
  induction n generalizing task lock rest with
  | zero =>
      have less := bounded lock
      omega
  | succ n ih =>
      by_cases free : Free tasks lock
      · refine .goes (?_ : _ = some ⟨lock :: task.held, rest⟩)
        simp only [advance, asks, if_pos free]
      · unfold Free at free
        push Not at free
        obtain ⟨holder, holds, held⟩ := free
        obtain ⟨j, found⟩ := List.mem_iff_getElem?.mp holds
        have ordered := all j holder found
        refine .behind asks holds held (LockTask.live_of_asks ?_ fun other later events => ih events ?_)
        · intro ended
          rw [ended] at ordered
          rw [show holder.held = [] from ordered] at held
          cases held
        · rw [events] at ordered
          have above : rank lock < rank other := ordered.1 lock held
          omega

theorem LockTask.live {tasks : List (LockTask L)} {bound : Nat} (bounded : ∀ lock, rank lock < bound)
    (all : AllOrdered rank tasks) {task : LockTask L} (more : task.rest ≠ []) : task.Live tasks :=
  LockTask.live_of_asks more fun lock _ asks => asks_live bounded all (bound - rank lock) asks (Nat.le_refl _)

/-- What the tasks have still to do. -/
def remaining (tasks : List (LockTask L)) : Nat := (tasks.map fun task => task.rest.length).sum

theorem goes_lessens {tasks : List (LockTask L)} {k : Nat} {task task' : LockTask L}
    (found : tasks[k]? = some task) (goes : task.Goes tasks task') :
    remaining (tasks.set k task') < remaining tasks := by
  have total := sum_set (fun task => task.rest.length) task' found
  have less : task'.rest.length < task.rest.length := by cases goes <;> exact Nat.lt_succ_self _
  unfold remaining
  omega

/-- In ranked programs no tasks wait for each other: whoever goes on next, and whatever comes from
outside, there is an end to it, and a task that has not ended is live. -/
theorem goings_end {tasks tasks' : List (LockTask L)} {bound : Nat} (bounded : ∀ lock, rank lock < bound)
    (all : AllOrdered rank tasks) {steps : List (LockStep L)} (goes : ∀ e ∈ steps, e.starts = false)
    (reached : run step tasks steps = some tasks') :
    steps.length + remaining tasks' ≤ remaining tasks ∧ ∀ task ∈ tasks', task.rest ≠ [] → task.Live tasks' := by
  induction steps generalizing tasks with
  | nil =>
      cases reached
      exact ⟨Nat.le_of_eq (Nat.zero_add _), fun task _ more => task.live bounded all more⟩
  | cons e steps ih =>
      obtain ⟨next, first, later⟩ := run_cons_eq_some.mp reached
      obtain ⟨still, rest⟩ := List.forall_mem_cons.mp goes
      have none : Runs (fun _ => False) tasks e := by
        cases e with
        | start => cases still
        | _ => trivial
      have ordered := step_ordered (fun _ known => known.elim) all none first
      obtain ⟨bound, ends⟩ := ih ordered rest later
      rcases step_cases first with ⟨events, rfl, -⟩ | ⟨k, task, task', found, moves, rfl⟩
      · cases still
      · have less := goes_lessens found moves
        refine ⟨?_, ends⟩
        rw [List.length_cons]
        omega

/-- Tasks that wait for each other stay where they are. -/
theorem step_stuck {tasks tasks' : List (LockTask L)} {e : LockStep L} {set : Nat → Prop} (stuck : Stuck tasks set)
    (h : step tasks e = some tasks') : ∀ k, set k → tasks'[k]? = tasks[k]? := by
  intro k mem
  obtain ⟨task, lock, rest, found, asks, j, other, -, holder, held⟩ := stuck k mem
  rcases step_cases h with ⟨events, rfl, rfl⟩ | ⟨i, moving, task', found', goes, rfl⟩
  · exact (lookup_append_old found).trans found.symm
  · rw [lookup_set found', if_neg]
    rintro rfl
    cases found.symm.trans found'
    cases goes with
    | acquire free =>
        cases asks
        exact free other (List.mem_of_getElem? holder) held
    | release => cases asks
    | await => cases asks

theorem run_stuck {tasks tasks' : List (LockTask L)} {steps : List (LockStep L)} {set : Nat → Prop}
    (stuck : Stuck tasks set) (reached : run step tasks steps = some tasks') :
    ∀ k, set k → tasks'[k]? = tasks[k]? := by
  have kept : Stuck tasks' set ∧ ∀ k, set k → tasks'[k]? = tasks[k]? := by
    refine run_preserves (fun s => Stuck s set ∧ ∀ k, set k → s[k]? = tasks[k]?) ?_ ⟨stuck, fun _ _ => rfl⟩ reached
    rintro s e s' ⟨stuck, same⟩ h
    have still := step_stuck stuck h
    exact ⟨stuck.congr still, fun k mem => (still k mem).trans (same k mem)⟩
  exact kept.2

/-- The locks held after some events, none of which is asked for while it is held. -/
def heldAfter : List L → List (LockEvent L) → Option (List L)
  | held, [] => some held
  | held, .acquire lock :: rest => if lock ∈ held then none else heldAfter (lock :: held) rest
  | held, .release lock :: rest => heldAfter (held.erase lock) rest
  | held, .await :: rest => heldAfter held rest

theorem heldAfter_append {held : List L} (left right : List (LockEvent L)) :
    heldAfter held (left ++ right) = (heldAfter held left).bind fun now => heldAfter now right := by
  induction left generalizing held with
  | nil => rfl
  | cons e rest ih =>
      cases e with
      | acquire lock =>
          simp only [List.cons_append, heldAfter]
          split
          · rfl
          · exact ih
      | release lock => exact ih
      | await => exact ih

/-- The task has done a part of a call of `p`, and its guards are those of that part. -/
def LockTask.Within (p : Scopes L) (task : LockTask L) : Prop :=
  ∃ before, p.Trace (before ++ task.rest) ∧ heldAfter [] before = some task.held

open Scopes

/-- What a task within `p` holds and does next, if it held `held` before `p`. -/
inductive Point : Scopes L → List L → List L → LockEvent L → Prop where
  | await {held : List L} : Point .await held held .await
  | enter {lock : L} {body : Scopes L} {held : List L} : Point (.hold lock body) held held (.acquire lock)
  | inside {lock : L} {body : Scopes L} {held now : List L} {e : LockEvent L} (new : lock ∉ held)
      (point : Point body (lock :: held) now e) : Point (.hold lock body) held now e
  | leave {lock : L} {body : Scopes L} {held now : List L} {events : List (LockEvent L)} (new : lock ∉ held)
      (trace : body.Trace events) (after : heldAfter (lock :: held) events = some now) :
      Point (.hold lock body) held now (.release lock)
  | first {first next : Scopes L} {held now : List L} {e : LockEvent L} (point : Point first held now e) :
      Point (.seq first next) held now e
  | next {first next : Scopes L} {held now : List L} {e : LockEvent L} (point : Point next held now e) :
      Point (.seq first next) held now e
  | left {left right : Scopes L} {held now : List L} {e : LockEvent L} (point : Point left held now e) :
      Point (.either left right) held now e
  | right {left right : Scopes L} {held now : List L} {e : LockEvent L} (point : Point right held now e) :
      Point (.either left right) held now e
  | round (i : Nat) {body : Nat → Scopes L} {held now : List L} {e : LockEvent L}
      (point : Point (body i) held now e) : Point (.each body) held now e

/-- A call gives its guards back. -/
theorem Scopes.Trace.heldAfter_eq {p : Scopes L} {events : List (LockEvent L)} (trace : p.Trace events)
    {held now : List L} (after : heldAfter held events = some now) : now = held := by
  induction trace generalizing held now with
  | skip => exact (Option.some.inj after).symm
  | await => exact (Option.some.inj after).symm
  | hold lock inside ih =>
      rw [List.cons_append, heldAfter] at after
      split at after
      · cases after
      rw [heldAfter_append] at after
      obtain ⟨middle, body, last⟩ := Option.bind_eq_some_iff.mp after
      rw [ih body, heldAfter, List.erase_cons_head] at last
      exact (Option.some.inj last).symm
  | seq one two ih₁ ih₂ =>
      rw [heldAfter_append] at after
      obtain ⟨middle, left, right⟩ := Option.bind_eq_some_iff.mp after
      exact (ih₂ right).trans (ih₁ left)
  | stop one ih => exact ih after
  | left one ih => exact ih after
  | right one ih => exact ih after
  | done => exact (Option.some.inj after).symm
  | round i one more ih₁ ih₂ =>
      rw [heldAfter_append] at after
      obtain ⟨middle, left, right⟩ := Option.bind_eq_some_iff.mp after
      exact (ih₂ right).trans (ih₁ left)

/-- Where a task within a call stands. -/
theorem Scopes.Trace.point {p : Scopes L} {events before rest : List (LockEvent L)} {e : LockEvent L}
    (trace : p.Trace events) (split : events = before ++ e :: rest) {held now : List L}
    (after : heldAfter held before = some now) : Point p held now e := by
  induction trace generalizing before rest held now with
  | skip => cases before <;> cases split
  | await =>
      cases before with
      | nil =>
          cases split
          cases after
          exact .await
      | cons _ before => cases before <;> cases split
  | @hold lock body events inside ih =>
      cases before with
      | nil =>
          cases split
          cases after
          exact .enter
      | cons b before =>
          obtain ⟨rfl, tail⟩ := List.cons.inj split
          rw [heldAfter] at after
          split at after
          · cases after
          next new =>
              rcases List.append_eq_append_iff.mp tail with ⟨more, rfl, last⟩ | ⟨more, rfl, last⟩
              · cases more with
                | nil =>
                    cases last
                    rw [List.append_nil] at after
                    exact .leave new inside after
                | cons _ more => cases more <;> cases last
              · cases more with
                | nil =>
                    cases last
                    rw [List.append_nil] at inside
                    exact .leave new inside after
                | cons _ more =>
                    obtain ⟨rfl, rest⟩ := List.cons.inj last
                    exact .inside new (ih rfl after)
  | @seq first next left right one two ih₁ ih₂ =>
      rcases List.append_eq_append_iff.mp split with ⟨more, rfl, last⟩ | ⟨more, rfl, last⟩
      · rw [heldAfter_append] at after
        obtain ⟨middle, before, after⟩ := Option.bind_eq_some_iff.mp after
        rw [one.heldAfter_eq before] at after
        exact .next (ih₂ last after)
      · cases more with
        | nil =>
            rw [List.append_nil] at one
            rw [one.heldAfter_eq after]
            have later : right = [] ++ e :: rest := last.symm
            exact .next (ih₂ later rfl)
        | cons _ more =>
            obtain ⟨rfl, rest⟩ := List.cons.inj last
            exact .first (ih₁ rfl after)
  | stop one ih => exact .first (ih split after)
  | left one ih => exact .left (ih split after)
  | right one ih => exact .right (ih split after)
  | done => cases before <;> cases split
  | @round i body left right one more ih₁ ih₂ =>
      rcases List.append_eq_append_iff.mp split with ⟨part, rfl, last⟩ | ⟨part, rfl, last⟩
      · rw [heldAfter_append] at after
        obtain ⟨middle, before, after⟩ := Option.bind_eq_some_iff.mp after
        rw [one.heldAfter_eq before] at after
        exact ih₂ last after
      · cases part with
        | nil =>
            rw [List.append_nil] at one
            rw [one.heldAfter_eq after]
            have later : right = [] ++ e :: rest := last.symm
            exact ih₂ later rfl
        | cons _ part =>
            obtain ⟨rfl, rest⟩ := List.cons.inj last
            exact .round i (ih₁ rfl after)

theorem Point.body {lock other : L} {body : Scopes L} {held now : List L} {e : LockEvent L}
    (point : Point (.hold lock body) held now e) (differ : other ≠ lock) (new : other ∉ held) (mem : other ∈ now) :
    Point body (lock :: held) now e := by
  cases point with
  | enter => exact absurd mem new
  | inside _ point => exact point
  | leave _ trace after =>
      rw [trace.heldAfter_eq after] at mem
      exact absurd (List.mem_of_ne_of_mem differ mem) new

/-- Within its own guard a lock is only asked for. -/
theorem Point.asks {lock : L} {held now : List L} {e : LockEvent L}
    (point : Point (.hold lock (touch lock)) held now e) : e = .acquire lock := by
  cases point with
  | enter => rfl
  | inside _ point =>
      cases point with
      | enter => rfl
      | inside new _ => exact absurd List.mem_cons_self new
      | leave new _ _ => exact absurd List.mem_cons_self new
  | leave _ trace after =>
      cases trace
      rw [List.cons_append, heldAfter, if_pos List.mem_cons_self] at after
      cases after

theorem Point.of_block {parts : List (Scopes L)} {held now : List L} {e : LockEvent L}
    (point : Point (block parts) held now e) : ∃ p ∈ parts, Point p held now e := by
  induction parts with
  | nil => cases point
  | cons first rest ih =>
      cases point with
      | first point => exact ⟨first, List.mem_cons_self, point⟩
      | next point =>
          obtain ⟨p, mem, point⟩ := ih point
          exact ⟨p, List.mem_cons_of_mem _ mem, point⟩

/-- A part that does not mention a lock holds it only if it was held before. -/
theorem Point.held_of_not_mentions {lock : L} {p : Scopes L} {held now : List L} {e : LockEvent L}
    (point : Point p held now e) (foreign : ¬ Mentions lock p) (mem : lock ∈ now) : lock ∈ held := by
  induction point with
  | await => exact mem
  | enter => exact mem
  | inside new point ih =>
      rcases List.mem_cons.mp (ih (foreign ∘ Or.inr) mem) with rfl | old
      · exact absurd (Or.inl rfl) foreign
      · exact old
  | leave new trace after =>
      rw [trace.heldAfter_eq after] at mem
      rcases List.mem_cons.mp mem with rfl | old
      · exact absurd (Or.inl rfl) foreign
      · exact old
  | first point ih => exact ih (foreign ∘ Or.inl) mem
  | next point ih => exact ih (foreign ∘ Or.inr) mem
  | left point ih => exact ih (foreign ∘ Or.inl) mem
  | right point ih => exact ih (foreign ∘ Or.inr) mem
  | round i point ih => exact ih (fun mentions => foreign ⟨i, mentions⟩) mem

/-- A task that holds a lock has still to give it back. -/
theorem LockTask.Within.point {p : Scopes L} {task : LockTask L} (within : task.Within p) {lock : L}
    (mem : lock ∈ task.held) : ∃ e rest, task.rest = e :: rest ∧ Point p [] task.held e := by
  obtain ⟨before, trace, held⟩ := within
  cases events : task.rest with
  | nil =>
      rw [events, List.append_nil] at trace
      rw [trace.heldAfter_eq held] at mem
      cases mem
  | cons e rest => exact ⟨e, rest, rfl, trace.point (by rw [events]) held⟩

omit [DecidableEq L] in
/-- A task that asks for a lock again within its own guard never goes on. -/
theorem stuck_self {tasks : List (LockTask L)} {k : Nat} {task : LockTask L} {lock : L} {rest : List (LockEvent L)}
    (found : tasks[k]? = some task) (asks : task.rest = .acquire lock :: rest) (held : lock ∈ task.held) :
    Stuck tasks (· = k) := by
  rintro i rfl
  exact ⟨task, lock, rest, found, asks, i, task, rfl, found, held⟩

/-- A task that asks for a lock of a stuck task, and gives `kept` back only after that, keeps it. -/
theorem run_keeps {tasks tasks' : List (LockTask L)} {steps : List (LockStep L)} {set : Nat → Prop}
    {k j : Nat} {holder task : LockTask L} {lock kept : L} {before after : List (LockEvent L)}
    (stuck : Stuck tasks set) (mem : set k) (holds : tasks[k]? = some holder) (held : lock ∈ holder.held)
    (found : tasks[j]? = some task) (has : kept ∈ task.held) (asks : task.rest = before ++ .acquire lock :: after)
    (keeps : .release kept ∉ before) (reached : run step tasks steps = some tasks') :
    ∃ task', tasks'[j]? = some task' ∧ kept ∈ task'.held := by
  have all : Stuck tasks' set ∧ tasks'[k]? = some holder ∧ ∃ task' before, tasks'[j]? = some task' ∧
      kept ∈ task'.held ∧ task'.rest = before ++ .acquire lock :: after ∧ .release kept ∉ before := by
    refine run_preserves (fun s => Stuck s set ∧ s[k]? = some holder ∧ ∃ task' before, s[j]? = some task' ∧
      kept ∈ task'.held ∧ task'.rest = before ++ .acquire lock :: after ∧ .release kept ∉ before) ?_
      ⟨stuck, holds, task, before, found, has, asks, keeps⟩ reached
    rintro s e s' ⟨stuck, holds, task, before, found, has, asks, keeps⟩ h
    have still := step_stuck stuck h
    refine ⟨stuck.congr still, (still k mem).trans holds, ?_⟩
    rcases step_cases h with ⟨events, rfl, rfl⟩ | ⟨i, other, next, found', goes, rfl⟩
    · exact ⟨task, before, lookup_append_old found, has, asks, keeps⟩
    · rw [lookup_set found']
      by_cases same : i = j
      · subst same
        cases found.symm.trans found'
        have taken : ¬ Free s lock := fun free => free holder (List.mem_of_getElem? holds) held
        -- its next event is the one it waits with, or one before it
        cases before with
        | nil =>
            cases goes with
            | acquire free =>
                cases asks
                exact absurd free taken
            | release => cases asks
            | await => cases asks
        | cons e before =>
            have later : .release kept ∉ before := fun mem => keeps (List.mem_cons_of_mem _ mem)
            cases goes with
            | acquire free =>
                cases asks
                exact ⟨_, before, if_pos rfl, List.mem_cons_of_mem _ has, rfl, later⟩
            | @release held other =>
                cases asks
                have differ : kept ≠ other := by
                  rintro rfl
                  exact keeps List.mem_cons_self
                exact ⟨_, before, if_pos rfl, (List.mem_erase_of_ne differ).mpr has, rfl, later⟩
            | await =>
                cases asks
                exact ⟨_, before, if_pos rfl, has, rfl, later⟩
      · exact ⟨task, before, (if_neg same).trans found, has, asks, keeps⟩
  obtain ⟨-, -, task', -, found', has', -⟩ := all
  exact ⟨task', found', has'⟩

end System

end LockScopes
