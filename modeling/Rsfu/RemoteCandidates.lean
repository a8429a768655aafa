import Rsfu.GuardedRun
import Rsfu.HandOver
import Rsfu.TaskTable

/-! The remote candidates of a publisher and of a subscriber, between each `await` of
the calls that bring one and of those that set a remote description. A candidate is
named by the number of the call that brought it. -/
namespace Rsfu
open GuardedRun

inductive CandidateSide where
  | publisher
  | subscriber
  deriving DecidableEq, Repr

/-- The next `await` of a call. -/
inductive CandidatePoint where
  | looking
  | passing
  | pushing
  | added
  | describing
  | described
  | flushing
  | clearing
  | settled
  deriving DecidableEq, Repr

/-- `Publisher::add_ice_candidata` goes on to its push, `Subscriber::add_ice_candidate` returns. -/
def CandidateSide.afterPass : CandidateSide → CandidatePoint
  | .publisher => .pushing
  | .subscriber => .added

/-- `Publisher::answer` leaves the candidates, `Subscriber::set_remote_description` clears them. -/
def CandidateSide.afterFlush : CandidateSide → CandidatePoint
  | .publisher => .settled
  | .subscriber => .clearing

/-- `passed` of the hand over are the calls of `pc.add_ice_candidate`, `queue` is `candidates`. -/
structure RemoteCandidates where
  calls : List CandidatePoint := []
  described : Bool := false
  candidates : HandOver Nat Nat := {}

namespace RemoteCandidates

def moveTo (k : Nat) (point : CandidatePoint) (g : RemoteCandidates) : RemoteCandidates :=
  { g with calls := g.calls.set k point }

def onCandidates (f : HandOver Nat Nat → HandOver Nat Nat) (g : RemoteCandidates) : RemoteCandidates :=
  { g with candidates := f g.candidates }

/-- A call goes on to its next `await`; a call that waits for the candidates' lock stays. -/
def resume (side : CandidateSide) (g : RemoteCandidates) (k : Nat) : Option RemoteCandidates :=
  match g.calls[k]? with
  | some .looking => some (g.moveTo k (if g.described then .passing else .pushing))
  | some .passing => some ((g.onCandidates (.pass k)).moveTo k side.afterPass)
  | some .pushing =>
      match g.candidates.flush with
      | none => some ((g.onCandidates (.push k)).moveTo k .added)
      | some _ => none
  | some .describing => some ({ g with described := true }.moveTo k .described)
  | some .described =>
      match g.candidates.flush with
      | none => some ((g.onCandidates (.begin k)).moveTo k .flushing)
      | some _ => none
  | some .flushing =>
      match g.candidates.flush with
      | some (holder, []) =>
          if holder = k then some ((g.onCandidates .release).moveTo k side.afterFlush) else none
      | some (holder, c :: rest) => if holder = k then some (g.onCandidates (.passNext k c rest)) else none
      | none => none
  | some .clearing =>
      match g.candidates.flush with
      | none => some ((g.onCandidates .clear).moveTo k .settled)
      | some _ => none
  | some .added | some .settled | none => none

inductive CandidateStep where
  | add
  | describe
  | resume (k : Nat)
  deriving DecidableEq, Repr

def step (side : CandidateSide) (g : RemoteCandidates) : CandidateStep → Option RemoteCandidates
  | .add => some { g with calls := g.calls ++ [.looking] }
  | .describe => some { g with calls := g.calls ++ [.describing] }
  | .resume k => g.resume side k

def AtRest (g : RemoteCandidates) : Prop := ∀ point ∈ g.calls, point = .added ∨ point = .settled

/-- A remote description that is set or will be, whose flush has not begun. -/
def FlushToCome (g : RemoteCandidates) : Prop := .describing ∈ g.calls ∨ .described ∈ g.calls

instance (g : RemoteCandidates) : Decidable g.FlushToCome := inferInstanceAs (Decidable (_ ∨ _))

/-- Each candidate goes to the peer connection once, in the order of the queue if it was
in it, after a remote description; with no call under way none is left behind. -/
structure AppliedOnce (g : RemoteCandidates) : Prop where
  once : g.candidates.passed.Nodup
  order : g.candidates.flushed.Sublist g.candidates.pushed
  described : g.candidates.passed ≠ [] → g.described = true
  all : g.AtRest → g.described = true → ∀ k, g.calls[k]? = some .added → k ∈ g.candidates.passed

def TimelyAt (g : RemoteCandidates) (k : Nat) : CandidatePoint → Prop
  | .pushing => k ∈ g.candidates.passed ∨ g.described = false ∨ g.FlushToCome
  | .described => ∀ c ∈ g.candidates.queue, c ∉ g.candidates.passed
  | .clearing => ∀ c ∈ g.candidates.queue, c ∈ g.candidates.passed
  | _ => True

/-- A push comes before a flush, a flush takes candidates that were not passed, and
the candidates that are cleared were. -/
def Timely (g : RemoteCandidates) : CandidateStep → Prop
  | .resume k => ∀ point ∈ g.calls[k]?, g.TimelyAt k point
  | _ => True

instance (g : RemoteCandidates) (k : Nat) (point : CandidatePoint) : Decidable (g.TimelyAt k point) :=
  match point with
  | .pushing => inferInstanceAs (Decidable (_ ∨ _ ∨ _))
  | .described | .clearing => inferInstanceAs (Decidable (∀ c ∈ g.candidates.queue, _))
  | .looking | .passing | .added | .describing | .flushing | .settled => isTrue trivial

instance (g : RemoteCandidates) (s : CandidateStep) : Decidable (g.Timely s) :=
  match s with
  | .resume k => inferInstanceAs (Decidable (∀ point ∈ g.calls[k]?, g.TimelyAt k point))
  | .add | .describe => isTrue trivial

/-- The candidate was passed, or some flush will reach it, once there is a description. -/
def Awaited (g : RemoteCandidates) (k : Nat) : Prop :=
  k ∈ g.candidates.passed ∨ k ∈ g.candidates.remaining ∨
    (k ∈ g.candidates.queue ∧ (g.described = false ∨ g.FlushToCome))

def PointFits (g : RemoteCandidates) (k : Nat) : CandidatePoint → Prop
  | .looking => k ∉ g.candidates.passed ∧ k ∉ g.candidates.pushed
  | .passing => k ∉ g.candidates.passed ∧ k ∉ g.candidates.pushed ∧ g.described = true
  | .pushing => k ∉ g.candidates.pushed
  | .added => g.Awaited k
  | .described => g.described = true
  | _ => True

structure Consistent (g : RemoteCandidates) : Prop where
  sound : g.candidates.Sound
  described : g.candidates.passed ≠ [] → g.described = true
  holds : ∀ holder rest, g.candidates.flush = some (holder, rest) →
    g.calls[holder]? = some .flushing ∧ g.described = true
  known : ∀ c, c ∈ g.candidates.passed ∨ c ∈ g.candidates.pushed → c < g.calls.length
  fits : ∀ k point, g.calls[k]? = some point → g.PointFits k point

variable {g g' : RemoteCandidates} {side : CandidateSide} {k c : Nat} {point point' : CandidatePoint}
variable {f : HandOver Nat Nat → HandOver Nat Nat}

@[simp] theorem moveTo_calls : (g.moveTo k point).calls = g.calls.set k point := rfl

@[simp] theorem moveTo_described : (g.moveTo k point).described = g.described := rfl

@[simp] theorem moveTo_candidates : (g.moveTo k point).candidates = g.candidates := rfl

@[simp] theorem onCandidates_calls : (g.onCandidates f).calls = g.calls := rfl

@[simp] theorem onCandidates_described : (g.onCandidates f).described = g.described := rfl

@[simp] theorem onCandidates_candidates : (g.onCandidates f).candidates = f g.candidates := rfl

theorem PointFits.keep (fits : g.PointFits k point)
    (passed : k ∈ g'.candidates.passed → k ∈ g.candidates.passed ∨ k ∈ g.candidates.pushed)
    (pushed : k ∈ g'.candidates.pushed → k ∈ g.candidates.pushed)
    (described : g.described = true → g'.described = true) (awaited : g.Awaited k → g'.Awaited k) :
    g'.PointFits k point := by
  cases point with
  | looking => exact ⟨fun mem => (passed mem).elim fits.1 fits.2, fun mem => fits.2 (pushed mem)⟩
  | passing =>
      exact ⟨fun mem => (passed mem).elim fits.1 fits.2.1, fun mem => fits.2.1 (pushed mem), described fits.2.2⟩
  | pushing => exact fun mem => fits (pushed mem)
  | added => exact awaited fits
  | described => exact described fits
  | _ => trivial

/-- What a step of call `k` may change. -/
structure Moves (g g' : RemoteCandidates) (k : Nat) (point' : CandidatePoint) : Prop where
  calls : g'.calls = g.calls.set k point'
  sound : g'.candidates.Sound
  passed : ∀ c ∈ g'.candidates.passed, c = k ∨ c ∈ g.candidates.passed ∨ c ∈ g.candidates.pushed
  pushed : ∀ c ∈ g'.candidates.pushed, c = k ∨ c ∈ g.candidates.pushed
  describes : g.described = true → g'.described = true
  described : g'.candidates.passed ≠ [] → g'.described = true
  awaited : ∀ c, g.Awaited c → g'.Awaited c
  holds : ∀ holder rest, g'.candidates.flush = some (holder, rest) →
    g'.calls[holder]? = some .flushing ∧ g'.described = true
  own : g'.PointFits k point'

theorem Consistent.moves (consistent : g.Consistent) (found : g.calls[k]? = some point)
    (moves : Moves g g' k point') : g'.Consistent where
  sound := moves.sound
  described := moves.described
  holds := moves.holds
  known c mem := by
    rw [moves.calls, List.length_set]
    have small : k < g.calls.length := (List.getElem?_eq_some_iff.mp found).1
    rcases mem with passed | pushed
    · rcases moves.passed c passed with rfl | before
      · exact small
      · exact consistent.known c before
    · rcases moves.pushed c pushed with rfl | before
      · exact small
      · exact consistent.known c (Or.inr before)
  fits := by
    rw [moves.calls]
    refine TaskTable.forall_set consistent.fits moves.own fun j t other fits => ?_
    refine fits.keep (fun mem => ?_) (fun mem => ?_) moves.describes (moves.awaited j)
    · exact (moves.passed j mem).resolve_left other
    · exact (moves.pushed j mem).resolve_left other

/-- A holder of the guard is at its flush, so a call at another point does not end its hold. -/
theorem Consistent.holds_other (consistent : g.Consistent) (found : g.calls[k]? = some point)
    (other : point ≠ .flushing) {holder : Nat} {rest : List Nat}
    (held : g.candidates.flush = some (holder, rest)) :
    (g.calls.set k point')[holder]? = some .flushing ∧ g.described = true := by
  obtain ⟨at_flush, described⟩ := consistent.holds holder rest held
  refine ⟨?_, described⟩
  rw [TaskTable.lookup_set found]
  by_cases same : k = holder
  · subst same
    exact absurd (Option.some.inj (found.symm.trans at_flush)) other
  · rw [if_neg same, at_flush]

theorem FlushToCome.moves (toCome : g.FlushToCome) (found : g.calls[k]? = some point)
    (calls : g'.calls = g.calls.set k point') (first : point ≠ .describing) (second : point ≠ .described) :
    g'.FlushToCome := by
  unfold FlushToCome
  rw [calls]
  exact toCome.imp (fun mem => TaskTable.mem_set_other found mem first)
    (fun mem => TaskTable.mem_set_other found mem second)

/-- Steps that leave the queue and the flush leave what is awaited. -/
theorem Awaited.keep (awaited : g.Awaited c) (passed : c ∈ g.candidates.passed → c ∈ g'.candidates.passed)
    (remaining : c ∈ g.candidates.remaining → c ∈ g'.candidates.passed ∨ c ∈ g'.candidates.remaining)
    (queue : c ∈ g.candidates.queue → c ∈ g'.candidates.queue)
    (toCome : g.described = false ∨ g.FlushToCome → g'.described = false ∨ g'.FlushToCome) :
    g'.Awaited c := by
  rcases awaited with before | left | ⟨queued, reach⟩
  · exact Or.inl (passed before)
  · exact (remaining left).imp_right Or.inl
  · exact Or.inr (Or.inr ⟨queue queued, toCome reach⟩)

section Points
variable (consistent : g.Consistent)
include consistent

theorem Consistent.look (found : g.calls[k]? = some .looking) :
    Moves g (g.moveTo k (if g.described then .passing else .pushing)) k
      (if g.described then .passing else .pushing) where
  calls := rfl
  sound := consistent.sound
  passed _ mem := Or.inr (Or.inl mem)
  pushed _ mem := Or.inr mem
  describes := id
  described := consistent.described
  awaited c awaited := by
    refine awaited.keep id Or.inr id fun reach => reach.imp_right fun toCome => ?_
    exact toCome.moves found rfl (by decide) (by decide)
  holds _ _ held := consistent.holds_other found (by decide) held
  own := by
    obtain ⟨unpassed, unpushed⟩ := consistent.fits k .looking found
    cases described : g.described with
    | true => exact ⟨unpassed, unpushed, described⟩
    | false => exact unpushed

theorem Consistent.pass (found : g.calls[k]? = some .passing) :
    Moves g ((g.onCandidates (.pass k)).moveTo k side.afterPass) k side.afterPass where
  calls := rfl
  sound := by
    obtain ⟨unpassed, unpushed, -⟩ := consistent.fits k .passing found
    exact consistent.sound.pass unpassed unpushed
  passed c mem := by
    rcases List.mem_append.mp mem with before | last
    · exact Or.inr (Or.inl before)
    · exact Or.inl (List.mem_singleton.mp last)
  pushed _ mem := Or.inr mem
  describes := id
  described _ := (consistent.fits k .passing found).2.2
  awaited c awaited := by
    refine awaited.keep (List.mem_append_left _) Or.inr id fun reach => reach.imp_right fun toCome => ?_
    exact toCome.moves found rfl (by decide) (by decide)
  holds _ _ held := consistent.holds_other found (by decide) held
  own := by
    obtain ⟨-, unpushed, -⟩ := consistent.fits k .passing found
    cases side with
    | publisher => exact unpushed
    | subscriber => exact Or.inl (List.mem_append_right _ (List.mem_singleton_self k))

theorem Consistent.push (found : g.calls[k]? = some .pushing) (open' : g.candidates.flush = none)
    (timely : k ∈ g.candidates.passed ∨ g.described = false ∨ g.FlushToCome) :
    Moves g ((g.onCandidates (.push k)).moveTo k .added) k .added where
  calls := rfl
  sound := consistent.sound.push open' (consistent.fits k .pushing found)
  passed _ mem := Or.inr (Or.inl mem)
  pushed c mem := by
    rcases List.mem_append.mp mem with before | last
    · exact Or.inr before
    · exact Or.inl (List.mem_singleton.mp last)
  describes := id
  described := consistent.described
  awaited c awaited := by
    refine awaited.keep id Or.inr (List.mem_append_left _) fun reach => reach.imp_right fun toCome => ?_
    exact toCome.moves found rfl (by decide) (by decide)
  holds _ _ held := consistent.holds_other found (by decide) held
  own := by
    refine timely.imp_right fun reach => Or.inr ⟨List.mem_append_right _ (List.mem_singleton_self k), ?_⟩
    refine reach.imp_right fun toCome => ?_
    exact toCome.moves found rfl (by decide) (by decide)

theorem Consistent.describe (found : g.calls[k]? = some .describing) :
    Moves g ({ g with described := true }.moveTo k .described) k .described where
  calls := rfl
  sound := consistent.sound
  passed _ mem := Or.inr (Or.inl mem)
  pushed _ mem := Or.inr mem
  describes _ := rfl
  described _ := rfl
  awaited c awaited := awaited.keep id Or.inr id fun _ => Or.inr (Or.inr (TaskTable.mem_set_self found))
  holds _ _ held := ⟨(consistent.holds_other found (by decide) held).1, rfl⟩
  own := rfl

theorem Consistent.begin (found : g.calls[k]? = some .described) (open' : g.candidates.flush = none)
    (timely : ∀ c ∈ g.candidates.queue, c ∉ g.candidates.passed) :
    Moves g ((g.onCandidates (.begin k)).moveTo k .flushing) k .flushing where
  calls := rfl
  sound := consistent.sound.begin k timely
  passed _ mem := Or.inr (Or.inl mem)
  pushed _ mem := Or.inr mem
  describes := id
  described := consistent.described
  awaited c awaited := by
    rcases awaited with passed | left | ⟨queued, -⟩
    · exact Or.inl passed
    · rw [HandOver.remaining_none open'] at left
      cases left
    · exact Or.inr (Or.inl queued)
  holds holder rest held := by
    cases held
    refine ⟨?_, consistent.fits k .described found⟩
    exact (TaskTable.lookup_set found k).trans (if_pos rfl)
  own := trivial

theorem Consistent.passNext {rest : List Nat} (found : g.calls[k]? = some .flushing)
    (held : g.candidates.flush = some (k, c :: rest)) :
    Moves g (g.onCandidates (.passNext k c rest)) k .flushing where
  calls := by
    obtain ⟨small, at_k⟩ := List.getElem?_eq_some_iff.mp found
    rw [onCandidates_calls, ← at_k, List.set_getElem_self]
  sound := consistent.sound.passNext held
  passed d mem := by
    rcases List.mem_append.mp mem with before | last
    · exact Or.inr (Or.inl before)
    · refine Or.inr (Or.inr (consistent.sound.remaining_pushed ?_))
      rw [HandOver.remaining_some held, List.mem_singleton.mp last]
      exact List.mem_cons_self
  pushed _ mem := Or.inr mem
  describes := id
  described _ := (consistent.holds k _ held).2
  awaited d awaited := by
    refine awaited.keep (List.mem_append_left _) (fun left => ?_) id id
    rw [HandOver.remaining_some held] at left
    rcases List.mem_cons.mp left with rfl | later
    · exact Or.inl (List.mem_append_right _ (List.mem_singleton_self d))
    · exact Or.inr later
  holds holder rest' now := by
    cases now
    exact consistent.holds k _ held
  own := trivial

theorem Consistent.release (found : g.calls[k]? = some .flushing) (held : g.candidates.flush = some (k, [])) :
    Moves g ((g.onCandidates .release).moveTo k side.afterFlush) k side.afterFlush where
  calls := rfl
  sound := consistent.sound.release
  passed _ mem := Or.inr (Or.inl mem)
  pushed _ mem := Or.inr mem
  describes := id
  described := consistent.described
  awaited c awaited := by
    refine awaited.keep id (fun left => ?_) id fun reach => reach.imp_right fun toCome => ?_
    · rw [HandOver.remaining_some held] at left
      cases left
    · exact toCome.moves found rfl (by decide) (by decide)
  holds holder rest now := by cases now
  own := by
    cases side with
    | publisher => trivial
    | subscriber => trivial

theorem Consistent.clear (found : g.calls[k]? = some .clearing)
    (timely : ∀ c ∈ g.candidates.queue, c ∈ g.candidates.passed) :
    Moves g ((g.onCandidates .clear).moveTo k .settled) k .settled where
  calls := rfl
  sound := consistent.sound.clear
  passed _ mem := Or.inr (Or.inl mem)
  pushed _ mem := Or.inr mem
  describes := id
  described := consistent.described
  awaited c awaited := by
    rcases awaited with passed | left | ⟨queued, -⟩
    · exact Or.inl passed
    · exact Or.inr (Or.inl left)
    · exact Or.inl (timely c queued)
  holds _ _ held := consistent.holds_other found (by decide) held
  own := trivial

/-- What each point of a call does, with its lock and its condition. -/
theorem resume_consistent (timely : g.Timely (.resume k)) (moved : g.resume side k = some g') :
    g'.Consistent := by
  unfold resume at moved
  cases found : g.calls[k]? with
  | none =>
      rw [found] at moved
      cases moved
  | some point =>
      have timely := timely point found
      rw [found] at moved
      cases point with
      | looking =>
          cases moved
          exact consistent.moves found (consistent.look found)
      | passing =>
          cases moved
          exact consistent.moves found (consistent.pass found)
      | pushing =>
          cases open' : g.candidates.flush with
          | none =>
              simp only [open', Option.some.injEq] at moved
              subst moved
              exact consistent.moves found (consistent.push found open' timely)
          | some _ =>
              simp only [open'] at moved
              cases moved
      | describing =>
          cases moved
          exact consistent.moves found (consistent.describe found)
      | described =>
          cases open' : g.candidates.flush with
          | none =>
              simp only [open', Option.some.injEq] at moved
              subst moved
              exact consistent.moves found (consistent.begin found open' timely)
          | some _ =>
              simp only [open'] at moved
              cases moved
      | flushing =>
          cases held : g.candidates.flush with
          | none =>
              simp only [held] at moved
              cases moved
          | some guard =>
              obtain ⟨holder, rest⟩ := guard
              cases rest with
              | nil =>
                  simp only [held, Option.ite_none_right_eq_some, Option.some.injEq] at moved
                  obtain ⟨rfl, rfl⟩ := moved
                  exact consistent.moves found (consistent.release found held)
              | cons c rest =>
                  simp only [held, Option.ite_none_right_eq_some, Option.some.injEq] at moved
                  obtain ⟨rfl, rfl⟩ := moved
                  exact consistent.moves found (consistent.passNext found held)
      | clearing =>
          cases open' : g.candidates.flush with
          | none =>
              simp only [open', Option.some.injEq] at moved
              subst moved
              exact consistent.moves found (consistent.clear found timely)
          | some _ =>
              simp only [open'] at moved
              cases moved
      | added => cases moved
      | settled => cases moved

end Points

/-- A new call leaves the others where they are. -/
theorem Consistent.start (consistent : g.Consistent) (point : CandidatePoint)
    (own : point = .looking ∨ point = .describing) : Consistent { g with calls := g.calls ++ [point] } where
  sound := consistent.sound
  described := consistent.described
  holds holder rest held := by
    obtain ⟨at_flush, described⟩ := consistent.holds holder rest held
    exact ⟨TaskTable.lookup_append_old at_flush, described⟩
  known c mem := by
    rw [List.length_append]
    exact Nat.lt_add_right 1 (consistent.known c mem)
  fits := by
    refine TaskTable.forall_append (fun j t found => ?_) ?_
    · refine (consistent.fits j t found).keep Or.inl id id fun awaited => ?_
      refine awaited.keep id Or.inr id fun reach => reach.imp_right fun toCome => ?_
      exact toCome.imp (List.mem_append_left _) (List.mem_append_left _)
    · rcases own with rfl | rfl
      · have new (c : Nat) (mem : c ∈ g.candidates.passed ∨ c ∈ g.candidates.pushed) : c ≠ g.calls.length :=
          Nat.ne_of_lt (consistent.known c mem)
        exact ⟨fun mem => new _ (Or.inl mem) rfl, fun mem => new _ (Or.inr mem) rfl⟩
      · trivial

theorem step_consistent {s : CandidateStep} (consistent : g.Consistent) (timely : g.Timely s)
    (moved : g.step side s = some g') : g'.Consistent := by
  cases s with
  | add =>
      cases moved
      exact consistent.start .looking (Or.inl rfl)
  | describe =>
      cases moved
      exact consistent.start .describing (Or.inr rfl)
  | resume k => exact resume_consistent consistent timely moved

theorem start_consistent : Consistent {} where
  sound := HandOver.start
  described some := absurd rfl some
  holds _ _ held := by cases held
  known _ mem := by rcases mem with mem | mem <;> cases mem
  fits _ _ found := by cases found

/-- At rest no flush is to come, so what is awaited was passed. -/
theorem Consistent.appliedOnce (consistent : g.Consistent) : g.AppliedOnce where
  once := consistent.sound.once
  order := consistent.sound.flushed_order
  described := consistent.described
  all := by
    intro rest described k added
    rcases consistent.fits k .added added with passed | left | ⟨-, undescribed | toCome⟩
    · exact passed
    · cases held : g.candidates.flush with
      | none =>
          rw [HandOver.remaining_none held] at left
          cases left
      | some guard =>
          have at_flush := (consistent.holds guard.1 guard.2 held).1
          rcases rest .flushing (List.mem_of_getElem? at_flush) with other | other <;> cases other
    · rw [described] at undescribed
      cases undescribed
    · rcases toCome with mem | mem
      · rcases rest _ mem with other | other <;> cases other
      · rcases rest _ mem with other | other <;> cases other

/-- The one law of both sides, over every interleaving of their calls. -/
theorem run_appliedOnce (side : CandidateSide) {steps : List CandidateStep}
    (timely : Guarded (step side) Timely {} steps) (reached : run (step side) {} steps = some g) :
    g.AppliedOnce :=
  (run_invariant Consistent (fun _ _ _ consistent guard moved => step_consistent consistent guard moved)
    start_consistent timely reached).appliedOnce

/-- A candidate that waits for the first description, then one that does not wait. -/
def candidateSteps : List CandidateStep :=
  [.add, .resume 0, .resume 0, .describe, .resume 1, .resume 1, .resume 1, .resume 1, .resume 1, .add,
    .resume 2, .resume 2]

theorem run_appliedOnce_subscriber :
    ∃ g, run (step .subscriber) {} candidateSteps = some g ∧ g.AppliedOnce := by
  have timely : Guarded (step .subscriber) Timely {} candidateSteps := by decide
  exact ⟨_, rfl, run_appliedOnce .subscriber timely rfl⟩

/-- The second answer passes what the first one passed. -/
def answerTwice : List CandidateStep :=
  [.add, .resume 0, .resume 0, .describe, .resume 1, .resume 1, .resume 1, .resume 1, .describe, .resume 2,
    .resume 2, .resume 2, .resume 2]

theorem second_answer_passes_again :
    ∃ g, run (step .publisher) {} answerTwice = some g ∧ g.candidates.passed = [0, 0] ∧ ¬ g.AppliedOnce :=
  ⟨_, rfl, rfl, fun law => absurd law.once (by decide)⟩

end RemoteCandidates

end Rsfu
