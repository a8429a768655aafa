import Rsfu.StreamOffers
import Mathlib.Algebra.GroupWithZero.Nat

/-! What the tasks of a session call: each of the two paths calls `add_down_track` at most
once for a pair, and only for a pair it is meant for; every down track that was added is
negotiated afterwards; and no task goes on for ever. -/
namespace Rsfu
open GuardedRun TaskTable

namespace Mesh
variable {configs : Nat → JoinConfig}

def MeshEvent.call (caller : MeshCaller) (s : Nat) : MeshEvent → Option MeshReceiver
  | .addDownTrack c p r _ => if c = caller ∧ p = s then some r else none
  | .negotiate _ => none

/-- The receivers a caller has called `add_down_track` with for a subscriber, in order. -/
def calls (caller : MeshCaller) (s : Nat) (g : Mesh) : List MeshReceiver :=
  g.log.filterMap (MeshEvent.call caller s)

/-- The peer takes all streams and the receiver is published by another peer. -/
structure Meant (configs : Nat → JoinConfig) (s : Nat) (r : MeshReceiver) : Prop where
  other : s ≠ r.router
  takes : takesAll configs s = true
  published : (configs r.router).noPublish = false

/-- What a task has still to visit is listed once, and is there to be visited. -/
def Shaped (configs : Nat → JoinConfig) : MeshTask → Prop
  | .join p .subscribing => (configs p).noSubscribe = false
  | .join p (.visiting rest) => (configs p).noSubscribe = false ∧ rest.Nodup
  | .join p (.adding rest recs) => (configs p).noSubscribe = false ∧ rest.Nodup ∧ recs.Nodup ∧
      ∀ r ∈ recs, r.router ∉ rest ∧ Meant configs p r
  | .join _ _ => True
  | .publish r (.offering rest) => (configs r.router).noPublish = false ∧ rest.Nodup
  | .publish r (.negotiating _ rest) => (configs r.router).noPublish = false ∧ rest.Nodup
  | .publish r _ => (configs r.router).noPublish = false

/-- The task a pair was called from, past it. -/
def Passed (caller : MeshCaller) (s : Nat) (r : MeshReceiver) : MeshTask → Prop
  | .join p (.visiting rest) => caller = .subscribe ∧ p = s ∧ r.router ∉ rest
  | .join p (.adding rest recs) => caller = .subscribe ∧ p = s ∧ r.router ∉ rest ∧ r ∉ recs
  | .join p .returned => caller = .subscribe ∧ p = s
  | .publish r' (.offering rest) => caller = .publish ∧ r' = r ∧ s ∉ rest
  | .publish r' (.negotiating _ rest) => caller = .publish ∧ r' = r ∧ s ∉ rest
  | .publish r' .returned => caller = .publish ∧ r' = r
  | _ => False

/-- The task that calls for a pair. -/
def callerSubject (s : Nat) (r : MeshReceiver) : MeshCaller → MeshSubject
  | .subscribe => .peer s
  | .publish => .receiver r

theorem Passed.subject {caller : MeshCaller} {s : Nat} {r : MeshReceiver} {task : MeshTask}
    (past : Passed caller s r task) : task.subject = callerSubject s r caller := by
  unfold Passed at past
  split at past
  · obtain ⟨rfl, rfl, -⟩ := past
    rfl
  · obtain ⟨rfl, rfl, -⟩ := past
    rfl
  · obtain ⟨rfl, rfl⟩ := past
    rfl
  · obtain ⟨rfl, rfl, -⟩ := past
    rfl
  · obtain ⟨rfl, rfl, -⟩ := past
    rfl
  · obtain ⟨rfl, rfl⟩ := past
    rfl
  · exact absurd past id

/-- What the calls keep. -/
structure Calls (configs : Nat → JoinConfig) (g : Mesh) : Prop where
  single : g.subjects.Nodup
  peers : g.peers.Nodup
  receivers : ∀ q, (g.receivers q).Nodup
  listed : ∀ q, ∀ r ∈ g.receivers q, r.router = q ∧ (configs q).noPublish = false ∧ .receiver r ∈ g.subjects
  shaped : ∀ task ∈ g.tasks, Shaped configs task
  passed : ∀ caller s, ∀ r ∈ calls caller s g, ∃ task ∈ g.tasks, Passed caller s r task
  once : ∀ caller s, (calls caller s g).Nodup
  meant : ∀ caller s, ∀ r ∈ calls caller s g, Meant configs s r

theorem takes_of {p : Nat} (subscribes : (configs p).noSubscribe = false)
    (auto : (configs p).noAutoSubscribe = false) : takesAll configs p = true := by
  unfold takesAll
  rw [subscribes, auto]
  rfl

/-- A move leaves its task in shape. -/
theorem Move.shaped {g : Mesh} {task task' : MeshTask} {peers : List Nat} {events : List MeshEvent}
    (calls : Calls configs g) (shape : Shaped configs task) (move : Move configs g task task' peers events) :
    Shaped configs task' := by
  cases move with
  | enter p free =>
      cases subscribes : (configs p).noSubscribe with
      | true => trivial
      | false => exact subscribes
  | list p order free same => exact ⟨shape, same.nodup_iff.mpr calls.peers⟩
  | skip p q rest none => exact ⟨shape.1, (List.nodup_cons.mp shape.2).2⟩
  | ask p q rest order same other takes =>
      obtain ⟨fresh, nodup⟩ := List.nodup_cons.mp shape.2
      refine ⟨shape.1, nodup, same.nodup_iff.mpr (calls.receivers q), fun r mem => ?_⟩
      obtain ⟨rfl, published, -⟩ := calls.listed q r (same.mem_iff.mp mem)
      exact ⟨fresh, other.symm, takes_of shape.1 takes, published⟩
  | add p rest first recs ok =>
      obtain ⟨subscribes, rests, nodup, each⟩ := shape
      cases ok with
      | true =>
          exact ⟨subscribes, rests, (List.nodup_cons.mp nodup).2, fun r mem => each r (List.mem_cons_of_mem _ mem)⟩
      | false => exact ⟨subscribes, rests⟩
  | added p rest => exact ⟨shape.1, shape.2.1⟩
  | subscribed p => trivial
  | copy r order free same => exact ⟨shape, same.nodup_iff.mpr calls.peers⟩
  | pass r s rest none => exact ⟨shape.1, (List.nodup_cons.mp shape.2).2⟩
  | offer r s rest ok other takes =>
      cases ok with
      | true => exact ⟨shape.1, (List.nodup_cons.mp shape.2).2⟩
      | false => exact ⟨shape.1, (List.nodup_cons.mp shape.2).2⟩
  | negotiated r s rest => exact shape
  | published r => exact shape.1

/-- A task past a pair stays past it. -/
theorem Move.passed {g : Mesh} {task task' : MeshTask} {peers : List Nat} {events : List MeshEvent}
    {caller : MeshCaller} {s : Nat} {r : MeshReceiver} (calls : Calls configs g)
    (move : Move configs g task task' peers events) (past : Passed caller s r task) : Passed caller s r task' := by
  cases move with
  | enter => exact absurd past id
  | list => exact absurd past id
  | copy => exact absurd past id
  | skip p q rest none => exact ⟨past.1, past.2.1, List.not_mem_of_not_mem_cons past.2.2⟩
  | ask p q rest order same other takes =>
      obtain ⟨own, rfl, unvisited⟩ := past
      obtain ⟨differ, later⟩ := List.ne_and_not_mem_of_not_mem_cons unvisited
      refine ⟨own, rfl, later, fun mem => differ ?_⟩
      exact (calls.listed q r (same.mem_iff.mp mem)).1
  | add p rest first recs ok =>
      obtain ⟨own, rfl, unvisited, unadded⟩ := past
      cases ok with
      | true => exact ⟨own, rfl, unvisited, List.not_mem_of_not_mem_cons unadded⟩
      | false => exact ⟨own, rfl, unvisited⟩
  | added p rest => exact ⟨past.1, past.2.1, past.2.2.1⟩
  | subscribed p => exact ⟨past.1, past.2.1⟩
  | pass r' s' rest none => exact ⟨past.1, past.2.1, List.not_mem_of_not_mem_cons past.2.2⟩
  | offer r' s' rest ok other takes =>
      have later := List.not_mem_of_not_mem_cons past.2.2
      cases ok with
      | true => exact ⟨past.1, past.2.1, later⟩
      | false => exact ⟨past.1, past.2.1, later⟩
  | negotiated r' s' rest => exact past
  | published r' => exact ⟨past.1, past.2.1⟩

/-- A move calls for a pair that is meant, that its task was not past, and that it is past then. -/
theorem Move.call {g : Mesh} {task task' : MeshTask} {peers : List Nat} {events : List MeshEvent}
    (shape : Shaped configs task) (move : Move configs g task task' peers events) (caller : MeshCaller) (s : Nat) :
    events.filterMap (MeshEvent.call caller s) = [] ∨
      ∃ r, events.filterMap (MeshEvent.call caller s) = [r] ∧ Meant configs s r ∧ ¬ Passed caller s r task ∧
        Passed caller s r task' ∧ task.subject = callerSubject s r caller := by
  cases move with
  | add p rest first recs ok =>
      by_cases own : MeshCaller.subscribe = caller ∧ p = s
      · obtain ⟨rfl, rfl⟩ := own
        obtain ⟨-, -, nodup, each⟩ := shape
        obtain ⟨unvisited, meant⟩ := each first List.mem_cons_self
        refine Or.inr ⟨first, ?_, meant, fun past => past.2.2.2 List.mem_cons_self, ?_, rfl⟩
        · simp [MeshEvent.call]
        · cases ok with
          | true => exact ⟨rfl, rfl, unvisited, (List.nodup_cons.mp nodup).1⟩
          | false => exact ⟨rfl, rfl, unvisited⟩
      · exact Or.inl (by simp [MeshEvent.call, own])
  | offer r s' rest ok other takes =>
      by_cases own : MeshCaller.publish = caller ∧ s' = s
      · obtain ⟨rfl, rfl⟩ := own
        obtain ⟨published, nodup⟩ := shape
        refine Or.inr ⟨r, ?_, ⟨other, takes, published⟩, fun past => past.2.2 List.mem_cons_self, ?_, rfl⟩
        · simp [MeshEvent.call]
        · cases ok with
          | true => exact ⟨rfl, rfl, (List.nodup_cons.mp nodup).1⟩
          | false => exact ⟨rfl, rfl, (List.nodup_cons.mp nodup).1⟩
      · exact Or.inl (by simp [MeshEvent.call, own])
  | _ => exact Or.inl rfl

theorem calls_moved {g : Mesh} {k : Nat} {task : MeshTask} {peers : List Nat} {events : List MeshEvent}
    (caller : MeshCaller) (s : Nat) : calls caller s (g.moved k task peers events) =
      calls caller s g ++ events.filterMap (MeshEvent.call caller s) :=
  List.filterMap_append

theorem Calls.moved {g : Mesh} {k : Nat} {task task' : MeshTask} {peers : List Nat} {events : List MeshEvent}
    (kept : Calls configs g) (found : g.tasks[k]? = some task) (move : Move configs g task task' peers events) :
    Calls configs (g.moved k task' peers events) := by
  have mem := List.mem_of_getElem? found
  have subjects : (g.moved k task' peers events).subjects = g.subjects := by
    unfold Mesh.subjects Mesh.moved
    exact map_set_same found move.subject
  have past (caller : MeshCaller) (s : Nat) (r : MeshReceiver) (called : r ∈ calls caller s g) :
      ∃ task ∈ (g.moved k task' peers events).tasks, Passed caller s r task := by
    obtain ⟨other, mem_other, passed⟩ := kept.passed caller s r called
    by_cases same : task = other
    · subst same
      exact ⟨task', mem_set_self found, move.passed kept passed⟩
    · exact ⟨other, mem_set_other found mem_other same, passed⟩
  constructor
  · rw [subjects]
    exact kept.single
  · rcases move.peers with same | ⟨p, -, same, -⟩
    · exact same ▸ kept.peers
    · exact same ▸ kept.peers.insert
  · exact kept.receivers
  · intro q r listed
    rw [subjects]
    exact kept.listed q r listed
  · intro other mem_other
    rcases List.mem_or_eq_of_mem_set mem_other with old | rfl
    · exact kept.shaped other old
    · exact move.shaped kept (kept.shaped task mem)
  · intro caller s r called
    rw [calls_moved, List.mem_append] at called
    rcases called with old | new
    · exact past caller s r old
    · rcases move.call (kept.shaped task mem) caller s with none | ⟨r', one, -, -, passed, -⟩
      · rw [none] at new
        cases new
      · rw [one, List.mem_singleton] at new
        subst new
        exact ⟨task', mem_set_self found, passed⟩
  · intro caller s
    rw [calls_moved]
    rcases move.call (kept.shaped task mem) caller s with none | ⟨r, one, -, before, -, subject⟩
    · rw [none, List.append_nil]
      exact kept.once caller s
    · rw [one]
      refine (kept.once caller s).append (List.nodup_singleton r) (List.disjoint_singleton.mpr fun called => ?_)
      -- a task past the pair is this one, which was not
      obtain ⟨other, mem_other, passed⟩ := kept.passed caller s r called
      have same : other = task :=
        List.inj_on_of_nodup_map kept.single mem_other mem (passed.subject.trans subject.symm)
      exact before (same ▸ passed)
  · intro caller s r called
    rw [calls_moved, List.mem_append] at called
    rcases called with old | new
    · exact kept.meant caller s r old
    · rcases move.call (kept.shaped task mem) caller s with none | ⟨r', one, meant, -⟩
      · rw [none] at new
        cases new
      · rw [one, List.mem_singleton] at new
        exact new ▸ meant

theorem Calls.started {g : Mesh} (task : MeshTask) (kept : Calls configs g) (fresh : task.subject ∉ g.subjects)
    (shape : Shaped configs task) : Calls configs { g with tasks := g.tasks ++ [task] } := by
  have subjects : ({ g with tasks := g.tasks ++ [task] } : Mesh).subjects = g.subjects ++ [task.subject] :=
    List.map_append
  refine { kept with single := ?_, listed := fun q r listed => ?_, shaped := ?_, passed := ?_ }
  · rw [subjects]
    exact kept.single.append (List.nodup_singleton _) (List.disjoint_singleton.mpr fresh)
  · obtain ⟨router, published, inserted⟩ := kept.listed q r listed
    rw [subjects]
    exact ⟨router, published, List.mem_append_left _ inserted⟩
  · intro other mem
    rcases List.mem_append.mp mem with old | new
    · exact kept.shaped other old
    · exact List.mem_singleton.mp new ▸ shape
  · intro caller s r called
    obtain ⟨other, mem, passed⟩ := kept.passed caller s r called
    exact ⟨other, List.mem_append_left _ mem, passed⟩

theorem Calls.inserted {g : Mesh} {r : MeshReceiver} (kept : Calls configs g) (fresh : r ∉ g.receivers r.router)
    (published : (configs r.router).noPublish = false) (started : .receiver r ∈ g.subjects) :
    Calls configs { g with
      receivers := Function.update g.receivers r.router (g.receivers r.router ++ [r]) } := by
  refine { kept with receivers := fun q => ?_, listed := fun q r' mem => ?_ }
  · dsimp only
    by_cases own : q = r.router
    · subst own
      rw [Function.update_self]
      exact (kept.receivers _).append (List.nodup_singleton _) (List.disjoint_singleton.mpr fresh)
    · rw [Function.update_of_ne own]
      exact kept.receivers q
  · dsimp only at mem
    by_cases own : q = r.router
    · subst own
      rw [Function.update_self, List.mem_append, List.mem_singleton] at mem
      rcases mem with old | rfl
      · exact kept.listed _ r' old
      · exact ⟨rfl, published, started⟩
    · rw [Function.update_of_ne own] at mem
      exact kept.listed q r' mem

theorem Calls.closed {g : Mesh} (r : MeshReceiver) (kept : Calls configs g) :
    Calls configs { g with
      receivers := Function.update g.receivers r.router ((g.receivers r.router).erase r) } := by
  refine { kept with receivers := fun q => ?_, listed := fun q r' mem => kept.listed q r' ?_ }
  · dsimp only
    by_cases own : q = r.router
    · subst own
      rw [Function.update_self]
      exact (kept.receivers _).erase r
    · rw [Function.update_of_ne own]
      exact kept.receivers q
  · dsimp only at mem
    by_cases own : q = r.router
    · subst own
      rw [Function.update_self] at mem
      exact List.mem_of_mem_erase mem
    · rwa [Function.update_of_ne own] at mem

theorem step_calls {g g' : Mesh} {e : MeshStep} (kept : Calls configs g) (h : g.step configs e = some g') :
    Calls configs g' := by
  cases e with
  | join p =>
      dsimp only [step] at h
      split at h
      · cases h
      next fresh =>
          cases h
          exact kept.started (.join p .entering) (not_or.mp fresh).2 trivial
  | add q =>
      dsimp only [step] at h
      split at h
      · cases h
      · cases h
        exact { kept with }
  | found q =>
      dsimp only [step] at h
      split at h
      · cases h
        exact { kept with }
      · cases h
  | publish r =>
      dsimp only [step] at h
      split at h
      next ready =>
          cases h
          obtain ⟨-, published, fresh, -⟩ := ready
          have started := kept.started (.publish r .received) fresh published
          refine { started.inserted (fun listed => fresh (kept.listed _ r listed).2.2) published ?_ with }
          exact List.mem_map.mpr ⟨_, List.mem_append_right _ List.mem_cons_self, rfl⟩
      · cases h
  | resume k a =>
      obtain ⟨task, task', peers, events, found, move, rfl⟩ := resume_moves h
      exact kept.moved found move
  | leave p =>
      dsimp only [step] at h
      split at h
      · cases h
      · cases h
        exact { kept with peers := kept.peers.erase p }
  | close r =>
      dsimp only [step] at h
      split at h
      · cases h
      · cases h
        exact kept.closed r

/-- Each of the two paths calls for a pair at most once, and only for one that is meant. -/
theorem run_calls {steps : List MeshStep} {g : Mesh} (reached : run (step configs) {} steps = some g)
    (caller : MeshCaller) (s : Nat) :
    (calls caller s g).Nodup ∧ ∀ r ∈ calls caller s g, Meant configs s r := by
  have kept : Calls configs g := by
    refine run_preserves (Calls configs) (fun _ _ _ => step_calls) ?_ reached
    exact ⟨List.nodup_nil, List.nodup_nil, fun _ => List.nodup_nil, fun _ _ => nofun, fun _ => nofun,
      fun _ _ _ => nofun, fun _ _ => List.nodup_nil, fun _ _ _ => nofun⟩
  exact ⟨kept.once caller s, kept.meant caller s⟩

/-- The first peer's track is offered and found as in `lateJoin`: one call, by the second peer. -/
theorem run_calls_lateJoin : ∃ g, run (step fun _ => {}) {} lateJoin = some g ∧
    (calls .subscribe 1 g).Nodup ∧ calls .subscribe 1 g = [⟨0, 7⟩] := by
  have ends : ∃ g, run (step fun _ => {}) {} lateJoin = some g ∧ calls .subscribe 1 g = [⟨0, 7⟩] := ⟨_, rfl, rfl⟩
  obtain ⟨g, reached, called⟩ := ends
  exact ⟨g, reached, (run_calls reached .subscribe 1).1, called⟩

/-- The task will negotiate the subscriber before it ends. -/
def Renegotiates (s : Nat) : MeshTask → Prop
  | .join p (.visiting _) => p = s
  | .join p (.adding _ _) => p = s
  | .publish _ (.negotiating p _) => p = s
  | _ => False

theorem Move.renegotiates {g : Mesh} {task task' : MeshTask} {peers : List Nat} {events : List MeshEvent} {s : Nat}
    (move : Move configs g task task' peers events) (due : Renegotiates s task) :
    Renegotiates s task' ∨ .negotiate s ∈ events := by
  cases move with
  | add p rest first recs ok =>
      cases ok with
      | true => exact Or.inl due
      | false => exact Or.inl due
  | added p rest => exact Or.inl due
  | subscribed p =>
      cases due
      exact Or.inr List.mem_cons_self
  | skip => exact Or.inl due
  | ask => exact Or.inl due
  | negotiated r s' rest =>
      cases due
      exact Or.inr List.mem_cons_self
  | _ => exact absurd due id

theorem Move.added_renegotiates {g : Mesh} {task task' : MeshTask} {peers : List Nat} {events : List MeshEvent}
    {caller : MeshCaller} {s : Nat} {r : MeshReceiver} (move : Move configs g task task' peers events)
    (added : .addDownTrack caller s r true ∈ events) : Renegotiates s task' := by
  cases move with
  | add p rest first recs ok =>
      cases List.mem_singleton.mp added
      rfl
  | offer r' s' rest ok other takes =>
      cases List.mem_singleton.mp added
      rfl
  | added p rest => cases List.mem_singleton.mp added
  | subscribed p => cases List.mem_singleton.mp added
  | negotiated r' s' rest => cases List.mem_singleton.mp added
  | _ => cases added

/-- The call at place `i` of the log is followed by a negotiation, or a task will see to it. -/
def Followed (g : Mesh) (i s : Nat) : Prop :=
  (∃ j, i < j ∧ g.log[j]? = some (.negotiate s)) ∨ ∃ task ∈ g.tasks, Renegotiates s task

def AllFollowed (g : Mesh) : Prop :=
  ∀ i caller s r, g.log[i]? = some (.addDownTrack caller s r true) → Followed g i s

theorem AllFollowed.moved {g : Mesh} {k : Nat} {task task' : MeshTask} {peers : List Nat} {events : List MeshEvent}
    (all : AllFollowed g) (found : g.tasks[k]? = some task) (move : Move configs g task task' peers events) :
    AllFollowed (g.moved k task' peers events) := by
  intro i caller s r called
  have called : (g.log ++ events)[i]? = some (.addDownTrack caller s r true) := called
  by_cases old : i < g.log.length
  · rw [List.getElem?_append_left old] at called
    rcases all i caller s r called with ⟨j, after, negotiated⟩ | ⟨other, mem, due⟩
    · refine Or.inl ⟨j, after, ?_⟩
      exact (List.getElem?_append_left (List.getElem?_eq_some_iff.mp negotiated).1).trans negotiated
    · by_cases same : task = other
      · subst same
        rcases move.renegotiates due with later | now
        · exact Or.inr ⟨task', mem_set_self found, later⟩
        · obtain ⟨m, at_m⟩ := List.mem_iff_getElem?.mp now
          refine Or.inl ⟨g.log.length + m, by omega, ?_⟩
          exact (List.getElem?_append_right (Nat.le_add_right _ _)).trans
            (by rw [Nat.add_sub_cancel_left, at_m])
      · exact Or.inr ⟨other, mem_set_other found mem same, due⟩
  · rw [List.getElem?_append_right (Nat.le_of_not_lt old)] at called
    exact Or.inr ⟨task', mem_set_self found, move.added_renegotiates (List.mem_of_getElem? called)⟩

theorem AllFollowed.grown {g g' : Mesh} (all : AllFollowed g) (log : g'.log = g.log)
    (tasks : ∀ task ∈ g.tasks, task ∈ g'.tasks) : AllFollowed g' := by
  intro i caller s r called
  rw [log] at called
  rcases all i caller s r called with negotiated | ⟨task, mem, due⟩
  · exact Or.inl (log ▸ negotiated)
  · exact Or.inr ⟨task, tasks task mem, due⟩

theorem step_followed {g g' : Mesh} {e : MeshStep} (all : AllFollowed g) (h : g.step configs e = some g') :
    AllFollowed g' := by
  cases e with
  | join p =>
      dsimp only [step] at h
      split at h
      · cases h
      · cases h
        exact all.grown rfl fun _ => List.mem_append_left _
  | add q =>
      dsimp only [step] at h
      split at h
      · cases h
      · cases h
        exact all.grown rfl fun _ => id
  | found q =>
      dsimp only [step] at h
      split at h
      · cases h
        exact all.grown rfl fun _ => id
      · cases h
  | publish r =>
      dsimp only [step] at h
      split at h
      · cases h
        exact all.grown rfl fun _ => List.mem_append_left _
      · cases h
  | resume k a =>
      obtain ⟨task, task', peers, events, found, move, rfl⟩ := resume_moves h
      exact all.moved found move
  | leave p =>
      dsimp only [step] at h
      split at h
      · cases h
      · cases h
        exact all.grown rfl fun _ => id
  | close r =>
      dsimp only [step] at h
      split at h
      · cases h
      · cases h
        exact all.grown rfl fun _ => id

theorem renegotiates_awake {s : Nat} {task : MeshTask} (due : Renegotiates s task) : task.returned = false := by
  unfold Renegotiates at due
  split at due <;> first | rfl | exact absurd due id

/-- When every task has returned, each down track that was added has been negotiated since. -/
theorem run_negotiates {steps : List MeshStep} {g : Mesh} (reached : run (step configs) {} steps = some g)
    (ended : ∀ task ∈ g.tasks, task.returned = true) {i s : Nat} {caller : MeshCaller} {r : MeshReceiver}
    (added : g.log[i]? = some (.addDownTrack caller s r true)) : ∃ j, i < j ∧ g.log[j]? = some (.negotiate s) := by
  have all : AllFollowed g := by
    refine run_preserves AllFollowed (fun _ _ _ => step_followed) ?_ reached
    intro i caller s r added
    cases added
  rcases all i caller s r added with negotiated | ⟨task, mem, due⟩
  · exact negotiated
  · have awake := renegotiates_awake due
    rw [ended task mem] at awake
    cases awake

theorem run_negotiates_lateJoin : ∃ g, run (step fun _ => {}) {} lateJoin = some g ∧
    ∃ j, 0 < j ∧ g.log[j]? = some (.negotiate 1) := by
  have ends : ∃ g, run (step fun _ => {}) {} lateJoin = some g ∧
      g.tasks = [.join 0 .returned, .publish ⟨0, 7⟩ .returned, .join 1 .returned] ∧
      g.log[1]? = some (.addDownTrack .subscribe 1 ⟨0, 7⟩ true) := ⟨_, rfl, rfl, rfl⟩
  obtain ⟨g, reached, tasks, added⟩ := ends
  have ended : ∀ task ∈ g.tasks, task.returned = true := by
    rw [tasks]
    decide
  obtain ⟨j, after, negotiated⟩ := run_negotiates reached ended added
  exact ⟨g, reached, j, Nat.lt_trans Nat.zero_lt_one after, negotiated⟩

/-- The locks of `peers` a task still has to wait for. -/
def waits : MeshTask → Nat
  | .join _ .entering => 2
  | .join _ .subscribing => 1
  | .publish _ .received => 1
  | _ => 0

/-- The peers a task still has to visit. -/
def ahead : MeshTask → Nat
  | .join _ (.visiting rest) => rest.length
  | .join _ (.adding rest _) => rest.length
  | .publish _ (.offering rest) => rest.length
  | .publish _ (.negotiating _ rest) => rest.length
  | _ => 0

/-- The awaits before a task comes to its next peer or to its end. -/
def before : MeshTask → Nat
  | .join _ (.visiting _) => 1
  | .join _ (.adding _ recs) => recs.length + 2
  | .publish _ (.offering _) => 1
  | .publish _ (.negotiating _ _) => 2
  | _ => 0

theorem Move.lessens {g : Mesh} {task task' : MeshTask} {peers : List Nat} {events : List MeshEvent}
    (move : Move configs g task task' peers events) :
    waits task' < waits task ∨ waits task' = waits task ∧
      (ahead task' < ahead task ∨ ahead task' = ahead task ∧ before task' < before task) := by
  cases move with
  | enter p free =>
      left
      cases (configs p).noSubscribe with
      | true => exact Nat.zero_lt_two
      | false => exact Nat.one_lt_two
  | list => exact Or.inl Nat.zero_lt_one
  | skip => exact Or.inr ⟨rfl, Or.inl (Nat.lt_succ_self _)⟩
  | ask => exact Or.inr ⟨rfl, Or.inl (Nat.lt_succ_self _)⟩
  | add p rest first recs ok =>
      refine Or.inr ⟨?_, Or.inr ⟨?_, ?_⟩⟩
      · cases ok <;> rfl
      · cases ok <;> rfl
      · cases ok with
        | true => exact Nat.lt_succ_self _
        | false => exact Nat.succ_lt_succ (Nat.zero_lt_succ _)
  | added => exact Or.inr ⟨rfl, Or.inr ⟨rfl, Nat.one_lt_two⟩⟩
  | subscribed => exact Or.inr ⟨rfl, Or.inr ⟨rfl, Nat.zero_lt_one⟩⟩
  | copy => exact Or.inl Nat.zero_lt_one
  | pass => exact Or.inr ⟨rfl, Or.inl (Nat.lt_succ_self _)⟩
  | offer r s rest ok other takes =>
      refine Or.inr ⟨?_, Or.inl ?_⟩
      · cases ok <;> rfl
      · cases ok <;> exact Nat.lt_succ_self _
  | negotiated => exact Or.inr ⟨rfl, Or.inr ⟨rfl, Nat.one_lt_two⟩⟩
  | published => exact Or.inr ⟨rfl, Or.inr ⟨rfl, Nat.zero_lt_one⟩⟩

/-- What is left to do in the session, by tasks that wait, peers ahead, and awaits before the next. -/
def left (g : Mesh) : Nat × Nat × Nat :=
  ((g.tasks.map waits).sum, (g.tasks.map ahead).sum, (g.tasks.map before).sum)

theorem resume_lessens {g g' : Mesh} {k : Nat} {a : MeshAnswer} (h : g.resume configs k a = some g') :
    Prod.Lex (· < ·) (Prod.Lex (· < ·) (· < ·)) (left g') (left g) := by
  obtain ⟨task, task', peers, events, found, move, rfl⟩ := resume_moves h
  have waiting := sum_set waits task' found
  have visits := sum_set ahead task' found
  have steps := sum_set before task' found
  unfold left moved
  dsimp only
  rcases move.lessens with fewer | ⟨same, fewer | ⟨same', fewer⟩⟩
  · exact Prod.Lex.left _ _ (by omega)
  · rw [same, Nat.add_right_cancel_iff] at waiting
    rw [waiting]
    exact Prod.Lex.right _ (Prod.Lex.left _ _ (by omega))
  · rw [same, Nat.add_right_cancel_iff] at waiting
    rw [same', Nat.add_right_cancel_iff] at visits
    rw [waiting, visits]
    exact Prod.Lex.right _ (Prod.Lex.right _ (by omega))

/-- The join is to ask a router for its `receivers`, and an `add_receiver` has them. -/
def WaitsForReceivers (configs : Nat → JoinConfig) (g : Mesh) (task : MeshTask) : Prop :=
  ∃ p q rest, task = .join p (.visiting (q :: rest)) ∧ q ∈ g.adding ∧
    ¬ (q = p ∨ (configs q).noPublish ∨ (configs p).noAutoSubscribe)

theorem resumeJoin_ready {g : Mesh} {p : Nat} {point : MeshJoin} (awake : point ≠ .returned)
    (free : g.peersLocked = false ∨ (MeshTask.join p point).holdsPeers = true)
    (unhindered : ¬ WaitsForReceivers configs g (.join p point)) :
    ∃ a next, resumeJoin configs g p a point = some next := by
  cases point with
  | entering =>
      have unlocked := free.resolve_right Bool.false_ne_true
      exact ⟨{}, _, if_neg (Bool.eq_false_iff.mp unlocked)⟩
  | subscribing =>
      have unlocked := free.resolve_right Bool.false_ne_true
      refine ⟨{ peers := g.peers }, (g, .visiting g.peers), if_pos ?_⟩
      rw [unlocked, List.isPerm_iff.mpr (List.Perm.refl _)]
      rfl
  | visiting rest =>
      cases rest with
      | nil => exact ⟨{}, _, rfl⟩
      | cons q rest =>
          by_cases none : q = p ∨ (configs q).noPublish ∨ (configs p).noAutoSubscribe
          · exact ⟨{}, _, if_pos none⟩
          · have listed : q ∉ g.adding := fun taken => unhindered ⟨p, q, rest, rfl, taken, none⟩
            exact ⟨{ receivers := g.receivers q }, _,
              (if_neg none).trans ((if_neg listed).trans (if_pos (List.isPerm_iff.mpr (List.Perm.refl _))))⟩
  | adding rest recs =>
      cases recs with
      | nil => exact ⟨{}, _, rfl⟩
      | cons r recs => exact ⟨{}, _, rfl⟩
  | returned => exact absurd rfl awake

theorem resumePublish_ready {g : Mesh} {r : MeshReceiver} {point : MeshPublish} (awake : point ≠ .returned)
    (free : g.peersLocked = false) : ∃ a next, resumePublish configs g r a point = some next := by
  cases point with
  | received =>
      refine ⟨{ peers := g.peers }, (g, .offering g.peers), if_pos ?_⟩
      rw [free, List.isPerm_iff.mpr (List.Perm.refl _)]
      rfl
  | offering rest =>
      cases rest with
      | nil => exact ⟨{}, _, rfl⟩
      | cons s rest =>
          by_cases none : s = r.router ∨ !takesAll configs s
          · exact ⟨{}, _, if_pos none⟩
          · exact ⟨{}, _, if_neg none⟩
  | negotiating s rest => exact ⟨{}, _, rfl⟩
  | returned => exact absurd rfl awake

/-- The task is one that can go on, or one that waits for an `add_receiver`. -/
def GoesOrWaits (configs : Nat → JoinConfig) (g : Mesh) (task : MeshTask) : Prop :=
  (∃ k a g', g.tasks[k]? = some task ∧ g.resume configs k a = some g') ∨ WaitsForReceivers configs g task

theorem goesOrWaits_of_resume {g : Mesh} {task : MeshTask} {a : MeshAnswer} {next : Mesh × MeshTask}
    (mem : task ∈ g.tasks) (goes : resumeTask configs g a task = some next) : GoesOrWaits configs g task := by
  obtain ⟨k, found⟩ := List.mem_iff_getElem?.mp mem
  refine Or.inl ⟨k, a, { next.1 with tasks := g.tasks.set k next.2 }, found, ?_⟩
  unfold resume
  rw [found, Option.bind_some, goes]
  rfl

/-- Only `peers` keeps a task that has not returned from going on, or an `add_receiver`. -/
theorem goesOrWaits_of_free {g : Mesh} {task : MeshTask} (mem : task ∈ g.tasks) (awake : task.returned = false)
    (free : g.peersLocked = false ∨ task.holdsPeers = true) : GoesOrWaits configs g task := by
  by_cases hindered : WaitsForReceivers configs g task
  · exact Or.inr hindered
  cases task with
  | join p point =>
      have still : point ≠ .returned := by
        rintro rfl
        cases awake
      obtain ⟨a, next, goes⟩ := resumeJoin_ready still free hindered
      exact goesOrWaits_of_resume mem (Option.map_eq_some_iff.mpr ⟨next, goes, rfl⟩)
  | publish r point =>
      have still : point ≠ .returned := by
        rintro rfl
        cases awake
      obtain ⟨a, next, goes⟩ := resumePublish_ready still (free.resolve_right Bool.false_ne_true)
      exact goesOrWaits_of_resume mem (Option.map_eq_some_iff.mpr ⟨next, goes, rfl⟩)

/-- No sequence of resumptions is infinite. -/
theorem resume_wellFounded (configs : Nat → JoinConfig) :
    WellFounded fun g' g : Mesh => ∃ k a, g.resume configs k a = some g' := by
  refine Subrelation.wf ?_ (InvImage.wf left (Prod.lex Nat.lt_wfRel (Prod.lex Nat.lt_wfRel Nat.lt_wfRel)).wf)
  rintro g' g ⟨k, a, resumed⟩
  exact resume_lessens resumed

/-- Tasks do not wait for each other in a circle and do not go on for ever: one that has not
returned goes on or waits for an `add_receiver`, or it waits for the join that holds `peers` and that
does one of the two; and no sequence of resumptions is infinite. -/
theorem session_tasks_end (configs : Nat → JoinConfig) :
    WellFounded (fun g' g : Mesh => ∃ k a, g.resume configs k a = some g') ∧
      ∀ g : Mesh, ∀ task ∈ g.tasks, task.returned = false → GoesOrWaits configs g task ∨
        ∃ holder ∈ g.tasks, holder.holdsPeers = true ∧ GoesOrWaits configs g holder := by
  refine ⟨resume_wellFounded configs, fun g task mem awake => ?_⟩
  cases locked : g.peersLocked with
  | false => exact Or.inl (goesOrWaits_of_free mem awake (Or.inl locked))
  | true =>
      obtain ⟨holder, held, holds⟩ := List.any_eq_true.mp locked
      have still : holder.returned = false := by
        unfold MeshTask.holdsPeers at holds
        split at holds <;> first | rfl | cases holds
      exact Or.inr ⟨holder, held, holds, goesOrWaits_of_free held still (Or.inr holds)⟩

/-- The second peer joins while a track of the first is added. -/
def addingJoin : List MeshStep :=
  [.join 0, .resume 0 {}, .resume 0 { peers := [0] }, .resume 0 {}, .resume 0 {}, .add 0, .join 1, .resume 1 {},
    .resume 1 { peers := [1, 0] }, .resume 1 {}]

theorem session_tasks_end_adding : ∃ g, run (step fun _ => {}) {} addingJoin = some g ∧
    (∀ a, g.resume (fun _ => {}) 1 a = none) ∧ (GoesOrWaits (fun _ => {}) g (.join 1 (.visiting [0])) ∨
      ∃ holder ∈ g.tasks, holder.holdsPeers = true ∧ GoesOrWaits (fun _ => {}) g holder) := by
  have ends : ∃ g, run (step fun _ => {}) {} addingJoin = some g ∧ (∀ a, g.resume (fun _ => {}) 1 a = none) ∧
      g.tasks = [.join 0 .returned, .join 1 (.visiting [0])] := ⟨_, rfl, fun a => rfl, rfl⟩
  obtain ⟨g, reached, stays, tasks⟩ := ends
  refine ⟨g, reached, stays, (session_tasks_end _).2 g _ ?_ rfl⟩
  rw [tasks]
  exact List.mem_cons_of_mem _ List.mem_cons_self

end Mesh

end Rsfu
