import Rsfu.GuardedRun
import Rsfu.StreamMesh
import Mathlib.Data.List.Nodup

/-! No subscription is lost: when every task of the session has returned, each peer that
takes all streams has been offered each receiver of the others, whatever the order of
joins, new tracks, departures and closes. -/
namespace Rsfu
open GuardedRun TaskTable

namespace Mesh
variable {configs : Nat → JoinConfig}

/-- What one resumption does: the task before and after, the `peers` after and the calls made. -/
inductive Move (configs : Nat → JoinConfig) (g : Mesh) :
    MeshTask → MeshTask → List Nat → List MeshEvent → Prop where
  | enter (p : Nat) (free : g.peersLocked = false) : Move configs g (.join p .entering)
      (.join p (if (configs p).noSubscribe then .returned else .subscribing)) (g.peers.insert p) []
  | list (p : Nat) (order : List Nat) (free : g.peersLocked = false) (same : order.Perm g.peers) :
      Move configs g (.join p .subscribing) (.join p (.visiting order)) g.peers []
  | skip (p q : Nat) (rest : List Nat)
      (none : q = p ∨ (configs q).noPublish ∨ (configs p).noAutoSubscribe ∨ g.receivers q = []) :
      Move configs g (.join p (.visiting (q :: rest))) (.join p (.visiting rest)) g.peers []
  | ask (p q : Nat) (rest : List Nat) (order : List MeshReceiver) (same : order.Perm (g.receivers q))
      (other : q ≠ p) (takes : (configs p).noAutoSubscribe = false) :
      Move configs g (.join p (.visiting (q :: rest))) (.join p (.adding rest order)) g.peers []
  | add (p : Nat) (rest : List Nat) (r : MeshReceiver) (recs : List MeshReceiver) (ok : Bool) :
      Move configs g (.join p (.adding rest (r :: recs)))
        (.join p (if ok then .adding rest recs else .visiting rest)) g.peers [.addDownTrack .subscribe p r ok]
  | added (p : Nat) (rest : List Nat) : Move configs g (.join p (.adding rest [])) (.join p (.visiting rest))
      g.peers [.negotiate p]
  | subscribed (p : Nat) : Move configs g (.join p (.visiting [])) (.join p .returned) g.peers [.negotiate p]
  | copy (r : MeshReceiver) (order : List Nat) (free : g.peersLocked = false) (same : order.Perm g.peers) :
      Move configs g (.publish r .received) (.publish r (.offering order)) g.peers []
  | pass (r : MeshReceiver) (s : Nat) (rest : List Nat) (none : s = r.router ∨ takesAll configs s = false) :
      Move configs g (.publish r (.offering (s :: rest))) (.publish r (.offering rest)) g.peers []
  | offer (r : MeshReceiver) (s : Nat) (rest : List Nat) (ok : Bool) (other : s ≠ r.router)
      (takes : takesAll configs s = true) :
      Move configs g (.publish r (.offering (s :: rest)))
        (.publish r (if ok then .negotiating s rest else .offering rest)) g.peers [.addDownTrack .publish s r ok]
  | negotiated (r : MeshReceiver) (s : Nat) (rest : List Nat) : Move configs g (.publish r (.negotiating s rest))
      (.publish r (.offering rest)) g.peers [.negotiate s]
  | published (r : MeshReceiver) :
      Move configs g (.publish r (.offering [])) (.publish r .returned) g.peers []

/-- The state after a move of task `k`. -/
def moved (g : Mesh) (k : Nat) (task : MeshTask) (peers : List Nat) (events : List MeshEvent) : Mesh :=
  { g with tasks := g.tasks.set k task, peers := peers, log := g.log ++ events }

theorem resumeJoin_moves {g g' : Mesh} {p k : Nat} {a : MeshAnswer} {point point' : MeshJoin}
    (h : resumeJoin configs g p a point = some (g', point')) :
    ∃ peers events, Move configs g (.join p point) (.join p point') peers events ∧
      { g' with tasks := g.tasks.set k (.join p point') } = g.moved k (.join p point') peers events := by
  unfold resumeJoin at h
  split at h
  · split at h
    · cases h
    next free =>
        cases h
        refine ⟨_, _, .enter p (Bool.eq_false_iff.mpr free), ?_⟩
        rw [moved, List.append_nil]
  · split at h
    next open_same =>
        cases h
        rw [Bool.and_eq_true, Bool.not_eq_true', List.isPerm_iff] at open_same
        refine ⟨_, _, .list p a.peers open_same.1 open_same.2, ?_⟩
        rw [moved, List.append_nil]
    · cases h
  · cases h
    exact ⟨_, _, .subscribed p, rfl⟩
  next q rest =>
      split at h
      next none =>
          cases h
          refine ⟨_, _, .skip p q rest (none.imp_right fun rest => rest.imp_right Or.inl), ?_⟩
          rw [moved, List.append_nil]
      next some =>
          push Not at some
          split at h
          · cases h
          split at h
          next same =>
              rw [List.isPerm_iff] at same
              cases h
              split
              next empty =>
                  rw [List.isEmpty_iff.mp empty] at same
                  refine ⟨_, _, .skip p q rest (.inr (.inr (.inr (List.nil_perm.mp same)))), ?_⟩
                  rw [moved, List.append_nil]
              · refine ⟨_, _, .ask p q rest a.receivers same some.1 (Bool.eq_false_iff.mpr some.2.2), ?_⟩
                rw [moved, List.append_nil]
          · cases h
  · cases h
    exact ⟨_, _, .added p _, rfl⟩
  · cases h
    exact ⟨_, _, .add p _ _ _ a.ok, rfl⟩
  · cases h

theorem resumePublish_moves {g g' : Mesh} {r : MeshReceiver} {k : Nat} {a : MeshAnswer} {point point' : MeshPublish}
    (h : resumePublish configs g r a point = some (g', point')) :
    ∃ peers events, Move configs g (.publish r point) (.publish r point') peers events ∧
      { g' with tasks := g.tasks.set k (.publish r point') } = g.moved k (.publish r point') peers events := by
  unfold resumePublish at h
  split at h
  · split at h
    next open_same =>
        cases h
        rw [Bool.and_eq_true, Bool.not_eq_true', List.isPerm_iff] at open_same
        refine ⟨_, _, .copy r a.peers open_same.1 open_same.2, ?_⟩
        rw [moved, List.append_nil]
    · cases h
  · cases h
    refine ⟨_, _, .published r, ?_⟩
    rw [moved, List.append_nil]
  · split at h
    next none =>
        cases h
        refine ⟨_, _, .pass r _ _ (none.imp_right fun takes => by simpa using takes), ?_⟩
        rw [moved, List.append_nil]
    next some =>
        cases h
        rw [not_or, Bool.not_eq_true, Bool.not_eq_false'] at some
        exact ⟨_, _, .offer r _ _ a.ok some.1 some.2, rfl⟩
  · cases h
    exact ⟨_, _, .negotiated r _ _, rfl⟩
  · cases h

theorem resume_moves {g g' : Mesh} {k : Nat} {a : MeshAnswer} (h : g.resume configs k a = some g') :
    ∃ task task' peers events, g.tasks[k]? = some task ∧ Move configs g task task' peers events ∧
      g' = g.moved k task' peers events := by
  unfold resume at h
  obtain ⟨task, found, h⟩ := Option.bind_eq_some_iff.mp h
  obtain ⟨⟨g₁, task'⟩, went, rfl⟩ := Option.map_eq_some_iff.mp h
  unfold resumeTask at went
  split at went
  · obtain ⟨⟨g₂, point'⟩, joined, same⟩ := Option.map_eq_some_iff.mp went
    cases same
    obtain ⟨peers, events, move, eq⟩ := resumeJoin_moves (k := k) joined
    exact ⟨_, _, _, _, found, move, eq⟩
  · obtain ⟨⟨g₂, point'⟩, offered, same⟩ := Option.map_eq_some_iff.mp went
    cases same
    obtain ⟨peers, events, move, eq⟩ := resumePublish_moves (k := k) offered
    exact ⟨_, _, _, _, found, move, eq⟩

theorem Move.subject {g : Mesh} {task task' : MeshTask} {peers : List Nat} {events : List MeshEvent}
    (move : Move configs g task task' peers events) : task'.subject = task.subject := by
  cases move <;> rfl

theorem Move.awake {g : Mesh} {task task' : MeshTask} {peers : List Nat} {events : List MeshEvent}
    (move : Move configs g task task' peers events) : task.returned = false := by
  cases move <;> rfl

/-- The peer takes all streams and the receiver is one of another peer of the session. -/
structure Owed (configs : Nat → JoinConfig) (g : Mesh) (s : Nat) (r : MeshReceiver) : Prop where
  member : s ∈ g.peers
  owner : r.router ∈ g.peers
  listed : r ∈ g.receivers r.router
  other : s ≠ r.router
  takes : takesAll configs s = true

/-- The receiver was added for the peer, or a call for it or for one of the same router has failed. -/
def Settled (g : Mesh) (s : Nat) (r : MeshReceiver) : Prop :=
  (∃ caller, .addDownTrack caller s r true ∈ g.log) ∨
    ∃ caller r', r'.router = r.router ∧ .addDownTrack caller s r' false ∈ g.log

/-- The task has still to come to the pair. -/
def Covers (s : Nat) (r : MeshReceiver) : MeshTask → Prop
  | .join p .subscribing => p = s
  | .join p (.visiting rest) => p = s ∧ r.router ∈ rest
  | .join p (.adding rest recs) => p = s ∧ (r.router ∈ rest ∨ r ∈ recs)
  | .publish r' .received => r' = r
  | .publish r' (.offering rest) => r' = r ∧ s ∈ rest
  | .publish r' (.negotiating _ rest) => r' = r ∧ s ∈ rest
  | _ => False

theorem Settled.mono {g g' : Mesh} {s : Nat} {r : MeshReceiver} {events : List MeshEvent}
    (log : g'.log = g.log ++ events) (settled : Settled g s r) : Settled g' s r := by
  unfold Settled
  rw [log]
  rcases settled with ⟨caller, added⟩ | ⟨caller, r', same, failed⟩
  · exact Or.inl ⟨caller, List.mem_append_left _ added⟩
  · exact Or.inr ⟨caller, r', same, List.mem_append_left _ failed⟩

theorem settled_of_asked {g : Mesh} {caller : MeshCaller} {s : Nat} {r r' : MeshReceiver} {ok : Bool}
    (asked : .addDownTrack caller s r' ok ∈ g.log) (same : r'.router = r.router) (ends : ok = false ∨ r' = r) :
    Settled g s r := by
  cases ok with
  | true =>
      rcases ends with failed | rfl
      · cases failed
      · exact Or.inl ⟨caller, asked⟩
  | false => exact Or.inr ⟨caller, r', same, asked⟩

/-- What the tasks keep. -/
structure Offers (configs : Nat → JoinConfig) (g : Mesh) : Prop where
  single : g.subjects.Nodup
  routed : ∀ q, ∀ r ∈ g.receivers q, r.router = q ∧ (configs q).noPublish = false ∧ .join q .returned ∈ g.tasks
  asked : ∀ p rest recs, .join p (.adding rest recs) ∈ g.tasks → ∃ q, ∀ r ∈ recs, r.router = q
  owed : ∀ s r, Owed configs g s r → Settled g s r ∨ ∃ task ∈ g.tasks, Covers s r task

theorem Offers.unique {g : Mesh} (offers : Offers configs g) {task task' : MeshTask} (mem : task ∈ g.tasks)
    (mem' : task' ∈ g.tasks) (same : task.subject = task'.subject) : task = task' :=
  List.inj_on_of_nodup_map offers.single mem mem' same

/-- A task that has to come to a pair either calls `add_down_track` for it, or fails on the
router of the receiver, or still has to come to the pair. -/
theorem Move.covers {g : Mesh} {task task' : MeshTask} {peers : List Nat} {events : List MeshEvent} {s : Nat}
    {r : MeshReceiver} (move : Move configs g task task' peers events) (owed : Owed configs g s r)
    (published : (configs r.router).noPublish = false)
    (asked : ∀ p rest recs, task = .join p (.adding rest recs) → ∃ q, ∀ r ∈ recs, r.router = q)
    (covers : Covers s r task) :
    (∃ caller r' ok, .addDownTrack caller s r' ok ∈ events ∧ r'.router = r.router ∧ (ok = false ∨ r' = r)) ∨
      Covers s r task' := by
  have auto : (configs s).noAutoSubscribe = false := by
    have takes := owed.takes
    unfold takesAll at takes
    rw [Bool.and_eq_true, Bool.not_eq_true', Bool.not_eq_true'] at takes
    exact takes.2
  cases move with
  | enter p free => exact absurd covers id
  | list p order free same => exact Or.inr ⟨covers, same.mem_iff.mpr owed.owner⟩
  | skip p q rest none =>
      obtain ⟨rfl, visits⟩ := covers
      rcases List.mem_cons.mp visits with rfl | later
      · rcases none with self | unpublished | waits | empty
        · exact absurd self.symm owed.other
        · rw [published] at unpublished
          cases unpublished
        · rw [auto] at waits
          cases waits
        · have listed := owed.listed
          rw [empty] at listed
          cases listed
      · exact Or.inr ⟨rfl, later⟩
  | ask p q rest order same other takes =>
      obtain ⟨rfl, visits⟩ := covers
      rcases List.mem_cons.mp visits with rfl | later
      · exact Or.inr ⟨rfl, Or.inr (same.mem_iff.mpr owed.listed)⟩
      · exact Or.inr ⟨rfl, Or.inl later⟩
  | add p rest first recs ok =>
      obtain ⟨rfl, visits | adds⟩ := covers
      · cases ok with
        | true => exact Or.inr ⟨rfl, Or.inl visits⟩
        | false => exact Or.inr ⟨rfl, visits⟩
      · obtain ⟨q, routed⟩ := asked p rest _ rfl
        have same : first.router = r.router :=
          (routed first List.mem_cons_self).trans (routed r adds).symm
        cases ok with
        | false => exact Or.inl ⟨_, first, false, List.mem_cons_self, same, Or.inl rfl⟩
        | true =>
            rcases List.mem_cons.mp adds with rfl | later
            · exact Or.inl ⟨_, r, true, List.mem_cons_self, rfl, Or.inr rfl⟩
            · exact Or.inr ⟨rfl, Or.inr later⟩
  | added p rest =>
      obtain ⟨rfl, visits | adds⟩ := covers
      · exact Or.inr ⟨rfl, visits⟩
      · cases adds
  | subscribed p => exact absurd covers.2 List.not_mem_nil
  | copy r' order free same => exact Or.inr ⟨covers, same.mem_iff.mpr owed.member⟩
  | pass r' s' rest none =>
      obtain ⟨rfl, offers⟩ := covers
      rcases List.mem_cons.mp offers with rfl | later
      · rcases none with self | takes
        · exact absurd self owed.other
        · rw [owed.takes] at takes
          cases takes
      · exact Or.inr ⟨rfl, later⟩
  | offer r' s' rest ok other takes =>
      obtain ⟨rfl, offers⟩ := covers
      rcases List.mem_cons.mp offers with rfl | later
      · exact Or.inl ⟨_, r', ok, List.mem_cons_self, rfl, Or.inr rfl⟩
      · cases ok with
        | true => exact Or.inr ⟨rfl, later⟩
        | false => exact Or.inr ⟨rfl, later⟩
  | negotiated r' s' rest => exact Or.inr covers
  | published r' => exact absurd covers.2 List.not_mem_nil

/-- A move other than `enter` leaves `peers` alone; `enter` adds its own peer and goes on to subscribe. -/
theorem Move.peers {g : Mesh} {task task' : MeshTask} {peers : List Nat} {events : List MeshEvent}
    (move : Move configs g task task' peers events) :
    peers = g.peers ∨ ∃ p, task = .join p .entering ∧ peers = g.peers.insert p ∧
      ((configs p).noSubscribe = false → task' = .join p .subscribing) := by
  cases move with
  | enter p free =>
      refine Or.inr ⟨p, rfl, rfl, fun subscribes => ?_⟩
      rw [subscribes]
      rfl
  | _ => exact Or.inl rfl

/-- The receivers a join still has to add are all of one router. -/
theorem Move.asked {g : Mesh} {task task' : MeshTask} {peers : List Nat} {events : List MeshEvent}
    (move : Move configs g task task' peers events) (routed : ∀ q, ∀ r ∈ g.receivers q, r.router = q)
    (asked : ∀ p rest recs, task = .join p (.adding rest recs) → ∃ q, ∀ r ∈ recs, r.router = q)
    {p : Nat} {rest : List Nat} {recs : List MeshReceiver} (adds : task' = .join p (.adding rest recs)) :
    ∃ q, ∀ r ∈ recs, r.router = q := by
  cases move with
  | enter =>
      split at adds
      · cases adds
      · cases adds
  | ask p q rest order same other takes =>
      cases adds
      exact ⟨q, fun r mem => routed q r (same.mem_iff.mp mem)⟩
  | add p rest first recs ok =>
      obtain ⟨q, all⟩ := asked p rest _ rfl
      cases ok with
      | true =>
          cases adds
          exact ⟨q, fun r mem => all r (List.mem_cons_of_mem _ mem)⟩
      | false => cases adds
  | _ => cases adds

theorem Offers.moved {g : Mesh} {k : Nat} {task task' : MeshTask} {peers : List Nat} {events : List MeshEvent}
    (offers : Offers configs g) (found : g.tasks[k]? = some task) (move : Move configs g task task' peers events) :
    Offers configs (g.moved k task' peers events) := by
  have mem := List.mem_of_getElem? found
  have awake (p : Nat) : task ≠ .join p .returned := by
    rintro rfl
    cases move.awake
  have asked (p : Nat) (rest : List Nat) (recs : List MeshReceiver) (own : task = .join p (.adding rest recs)) :
      ∃ q, ∀ r ∈ recs, r.router = q := offers.asked p rest recs (own ▸ mem)
  constructor
  · unfold subjects Mesh.moved
    rw [map_set_same found move.subject]
    exact offers.single
  · intro q r listed
    obtain ⟨routed, publishes, joined⟩ := offers.routed q r listed
    exact ⟨routed, publishes, mem_set_other found joined (awake q)⟩
  · intro p rest recs adds
    rcases List.mem_or_eq_of_mem_set adds with old | new
    · exact offers.asked p rest recs old
    · exact move.asked (fun q r listed => (offers.routed q r listed).1) asked new.symm
  · intro s r owed
    have listed := offers.routed r.router r owed.listed
    -- what the pair was owed before the move, the other tasks or this one cover
    have kept (before : Owed configs g s r) : Settled (g.moved k task' peers events) s r ∨
        ∃ task ∈ (g.moved k task' peers events).tasks, Covers s r task := by
      rcases offers.owed s r before with settled | ⟨other, mem_other, covers⟩
      · exact Or.inl (settled.mono rfl)
      · by_cases same : task = other
        · subst same
          rcases move.covers before listed.2.1 asked covers with ⟨caller, r', ok, called, router, ends⟩ | later
          · exact Or.inl (settled_of_asked (List.mem_append_right _ called) router ends)
          · exact Or.inr ⟨task', mem_set_self found, later⟩
        · exact Or.inr ⟨other, mem_set_other found mem_other same, covers⟩
    rcases move.peers with same | ⟨p, rfl, same, subscribes⟩
    · exact kept { owed with member := same ▸ owed.member, owner := same ▸ owed.owner }
    · have member : s = p ∨ s ∈ g.peers := List.mem_insert_iff.mp (same ▸ owed.member)
      have owner : r.router = p ∨ r.router ∈ g.peers := List.mem_insert_iff.mp (same ▸ owed.owner)
      rcases member with rfl | member
      · have takes := owed.takes
        unfold takesAll at takes
        rw [Bool.and_eq_true, Bool.not_eq_true'] at takes
        rw [subscribes takes.1]
        exact Or.inr ⟨_, mem_set_self found, rfl⟩
      · rcases owner with rfl | owner
        · -- its tracks come after its join has returned
          cases offers.unique mem listed.2.2 rfl
        · exact kept { owed with member := member, owner := owner }

/-- A step that makes no call and ends no task. -/
theorem Offers.grown {g g' : Mesh} (offers : Offers configs g) (log : g'.log = g.log)
    (tasks : ∀ task ∈ g.tasks, task ∈ g'.tasks)
    (owed : ∀ s r, Owed configs g' s r → Owed configs g s r ∨ ∃ task ∈ g'.tasks, Covers s r task) (s : Nat)
    (r : MeshReceiver) (now : Owed configs g' s r) : Settled g' s r ∨ ∃ task ∈ g'.tasks, Covers s r task := by
  rcases owed s r now with before | covered
  · rcases offers.owed s r before with settled | ⟨task, mem, covers⟩
    · have same : g'.log = g.log ++ [] := by rw [log, List.append_nil]
      exact Or.inl (settled.mono same)
    · exact Or.inr ⟨task, tasks task mem, covers⟩
  · exact Or.inr covered

theorem Offers.joins {g : Mesh} {p : Nat} (offers : Offers configs g) (fresh : MeshSubject.peer p ∉ g.subjects) :
    Offers configs { g with tasks := g.tasks ++ [.join p .entering] } where
  single := by
    unfold subjects
    rw [List.map_append]
    exact offers.single.append (List.nodup_singleton _) (List.disjoint_singleton.mpr fresh)
  routed q r listed := (offers.routed q r listed).imp_right fun more => more.imp_right (List.mem_append_left _)
  asked p rest recs adds := by
    rcases List.mem_append.mp adds with old | new
    · exact offers.asked p rest recs old
    · cases List.mem_singleton.mp new
  owed := by
    refine offers.grown rfl (fun _ => List.mem_append_left _) fun s r owed => Or.inl ?_
    exact { owed with }

theorem Offers.publishes {g : Mesh} {r : MeshReceiver} (offers : Offers configs g)
    (joined : .join r.router .returned ∈ g.tasks) (publisher : (configs r.router).noPublish = false)
    (fresh : MeshSubject.receiver r ∉ g.subjects) :
    Offers configs { g with
      tasks := g.tasks ++ [.publish r .received]
      receivers := Function.update g.receivers r.router (g.receivers r.router ++ [r])
      adding := g.adding.erase r.router } := by
  have listed (q : Nat) (r' : MeshReceiver)
      (mem : r' ∈ Function.update g.receivers r.router (g.receivers r.router ++ [r]) q) :
      r' ∈ g.receivers q ∨ q = r.router ∧ r' = r := by
    by_cases own : q = r.router
    · subst own
      rw [Function.update_self, List.mem_append, List.mem_singleton] at mem
      exact mem.imp_right fun same => ⟨rfl, same⟩
    · rw [Function.update_of_ne own] at mem
      exact Or.inl mem
  constructor
  · unfold subjects
    rw [List.map_append]
    exact offers.single.append (List.nodup_singleton _) (List.disjoint_singleton.mpr fresh)
  · intro q r' mem
    rcases listed q r' mem with old | ⟨rfl, rfl⟩
    · exact (offers.routed q r' old).imp_right fun more => more.imp_right (List.mem_append_left _)
    · exact ⟨rfl, publisher, List.mem_append_left _ joined⟩
  · intro p rest recs adds
    rcases List.mem_append.mp adds with old | new
    · exact offers.asked p rest recs old
    · cases List.mem_singleton.mp new
  · refine offers.grown rfl (fun _ => List.mem_append_left _) fun s r' owed => ?_
    rcases listed r'.router r' owed.listed with old | ⟨-, rfl⟩
    · exact Or.inl { owed with listed := old }
    · exact Or.inr ⟨_, List.mem_append_right _ List.mem_cons_self, rfl⟩

theorem step_offers {g g' : Mesh} {e : MeshStep} (offers : Offers configs g) (h : g.step configs e = some g') :
    Offers configs g' := by
  cases e with
  | join p =>
      dsimp only [step] at h
      split at h
      · cases h
      next fresh =>
          cases h
          exact offers.joins (not_or.mp fresh).2
  | add q =>
      dsimp only [step] at h
      split at h
      · cases h
      · cases h
        exact { offers with owed := offers.grown rfl (fun _ => id) fun s r owed => Or.inl { owed with } }
  | found q =>
      dsimp only [step] at h
      split at h
      · cases h
        exact { offers with owed := offers.grown rfl (fun _ => id) fun s r owed => Or.inl { owed with } }
      · cases h
  | publish r =>
      dsimp only [step] at h
      split at h
      next ready =>
          cases h
          exact offers.publishes ready.1 ready.2.1 ready.2.2.1
      · cases h
  | resume k a =>
      obtain ⟨task, task', peers, events, found, move, rfl⟩ := resume_moves h
      exact offers.moved found move
  | leave p =>
      dsimp only [step] at h
      split at h
      · cases h
      · cases h
        refine { offers with owed := offers.grown rfl (fun _ => id) fun s r owed => Or.inl ?_ }
        exact { owed with member := List.mem_of_mem_erase owed.member, owner := List.mem_of_mem_erase owed.owner }
  | close r =>
      dsimp only [step] at h
      split at h
      · cases h
      cases h
      have listed (q : Nat) (r' : MeshReceiver)
          (mem : r' ∈ Function.update g.receivers r.router ((g.receivers r.router).erase r) q) :
          r' ∈ g.receivers q := by
        by_cases own : q = r.router
        · subst own
          rw [Function.update_self] at mem
          exact List.mem_of_mem_erase mem
        · rwa [Function.update_of_ne own] at mem
      refine { offers with routed := fun q r' mem => offers.routed q r' (listed q r' mem), owed := ?_ }
      refine offers.grown rfl (fun _ => id) fun s r' owed => Or.inl ?_
      exact { owed with listed := listed _ _ owed.listed }

theorem covers_awake {s : Nat} {r : MeshReceiver} {task : MeshTask} (covers : Covers s r task) :
    task.returned = false := by
  unfold Covers at covers
  split at covers <;> first | rfl | exact absurd covers id

/-- When every task has returned, nobody who takes all streams has been left out. -/
theorem run_settles {steps : List MeshStep} {g : Mesh} (reached : run (step configs) {} steps = some g)
    (ended : ∀ task ∈ g.tasks, task.returned = true) {s : Nat} {r : MeshReceiver} (owed : Owed configs g s r) :
    Settled g s r := by
  have offers : Offers configs g := by
    refine run_preserves (Offers configs) (fun _ _ _ => step_offers) ?_ reached
    exact ⟨List.nodup_nil, fun _ _ => nofun, fun _ _ _ => nofun, fun _ _ owed => absurd owed.member nofun⟩
  rcases offers.owed s r owed with settled | ⟨task, mem, covers⟩
  · exact settled
  · have awake := covers_awake covers
    rw [ended task mem] at awake
    cases awake

/-- A track of the first peer arrives while the second joins: it is offered to the peers
before the second is one of them, and the second finds it at its router. -/
def lateJoin : List MeshStep :=
  [.join 0, .resume 0 {}, .resume 0 { peers := [0] }, .resume 0 {}, .resume 0 {},
    .add 0, .publish ⟨0, 7⟩, .join 1, .resume 1 { peers := [0] }, .resume 2 {}, .resume 1 {}, .resume 1 {},
    .resume 2 { peers := [1, 0] }, .resume 2 {}, .resume 2 { receivers := [⟨0, 7⟩] }, .resume 2 {},
    .resume 2 {}, .resume 2 {}]

theorem run_settles_lateJoin :
    ∃ g, run (step fun _ => {}) {} lateJoin = some g ∧ Settled g 1 ⟨0, 7⟩ := by
  have ends : ∃ g, run (step fun _ => {}) {} lateJoin = some g ∧
      g.tasks = [.join 0 .returned, .publish ⟨0, 7⟩ .returned, .join 1 .returned] ∧ g.peers = [1, 0] ∧
      g.receivers 0 = [⟨0, 7⟩] := ⟨_, rfl, rfl, rfl, rfl⟩
  obtain ⟨g, reached, tasks, peers, receivers⟩ := ends
  refine ⟨g, reached, run_settles reached ?_ ⟨?_, ?_, ?_, ?_, rfl⟩⟩
  · rw [tasks]
    decide
  · rw [peers]
    decide
  · rw [peers]
    decide
  · rw [receivers]
    decide
  · decide

end Mesh

end Rsfu
