import Rsfu.GuardedRun
import Rsfu.Negotiation

/-! Negotiation with a peer connection whose calls may fail. A failed call ends the call of
`negotiate` or `set_remote_description` it is part of, and the flags stay as they are: after
an applied answer, that is where a failed candidate leaves them. -/
namespace Rsfu
open GuardedRun TaskTable

/-- A call: whether it is one of `set_remote_description`, and how many of the queued
candidates it has still to add. -/
structure FallibleCall where
  answers : Bool
  left : Nat := 0
  point : NegotiationPoint
  deriving DecidableEq, Repr

/-- The flags and locks of a joined peer, its queued candidates, and whether its peer
connection has a local offer that no answer was applied to. -/
structure FallibleNegotiation where
  tasks : List FallibleCall := []
  remoteAnswerPending : Bool := false
  negotiationPending : Bool := false
  handlerLock : Option Nat := none
  subscriberLock : Option Nat := none
  candidates : Nat := 0
  localOffer : Bool := false

/-- Calls start, a candidate is queued, and a task goes on. `ok` is what the peer connection
answers where the task waits for it. -/
inductive FallibleStep where
  | negotiate
  | setRemoteDescription
  | queue
  | resume (k : Nat) (ok : Bool)

/-- The answer has been applied, and the flag that waits for it is still to be cleared. -/
def NegotiationPoint.clears : NegotiationPoint → Bool
  | .draining | .clearing => true
  | _ => false

/-- From here a task still clears the flag of a request when it is set now. -/
def NegotiationPoint.takesUp : NegotiationPoint → Bool
  | .draining | .clearing | .reading | .resetting => true
  | _ => false

namespace FallibleNegotiation

def moveTo (g : FallibleNegotiation) (k : Nat) (t : FallibleCall) (point : NegotiationPoint) : FallibleNegotiation :=
  { g with tasks := g.tasks.set k { t with point } }

/-- The end of `negotiate`, and of the call of `set_remote_description` it is part of. -/
def leave (g : FallibleNegotiation) (k : Nat) (t : FallibleCall) : FallibleNegotiation :=
  { g.moveTo k t .returned with
    handlerLock := none
    subscriberLock := if t.answers then none else g.subscriberLock }

/-- The end of `set_remote_description` outside `negotiate`. -/
def finish (g : FallibleNegotiation) (k : Nat) (t : FallibleCall) : FallibleNegotiation :=
  { g.moveTo k t .returned with subscriberLock := none }

/-- The next step of a task; `none` when it waits for a lock or has returned. -/
def resume (g : FallibleNegotiation) (k : Nat) (ok : Bool) (t : FallibleCall) : Option FallibleNegotiation :=
  match t.point with
  | .waiting => if g.handlerLock = none then some { g.moveTo k t .checking with handlerLock := some k } else none
  | .checking => some (g.moveTo k t (if g.remoteAnswerPending then .postponing else .creating))
  | .postponing => some { g.leave k t with negotiationPending := true }
  | .creating => some (if ok then g.moveTo k t .describing else g.leave k t)
  | .describing => some (if ok then { g.moveTo k t .arming with localOffer := true } else g.leave k t)
  | .arming => some { g.moveTo k t .sending with remoteAnswerPending := true }
  | .sending => some (g.moveTo k t .sent)
  | .sent => some (g.leave k t)
  | .entering =>
      if g.subscriberLock = none then some { g.moveTo k t .applying with subscriberLock := some k } else none
  | .applying =>
      some (if ok then { g.moveTo k { t with left := g.candidates } .draining with localOffer := false }
        else g.finish k t)
  | .draining =>
      match t.left with
      | 0 => some { g.moveTo k t .clearing with candidates := 0 }
      | left + 1 => some (if ok then g.moveTo k { t with left } .draining else g.finish k t)
  | .clearing => some { g.moveTo k t .reading with remoteAnswerPending := false }
  | .reading => some (if g.negotiationPending then g.moveTo k t .resetting else g.finish k t)
  | .resetting => some { g.moveTo k t .waiting with negotiationPending := false }
  | .returned => none

def step (g : FallibleNegotiation) : FallibleStep → Option FallibleNegotiation
  | .negotiate => some { g with tasks := g.tasks ++ [{ answers := false, point := .waiting }] }
  | .setRemoteDescription => some { g with tasks := g.tasks ++ [{ answers := true, point := .entering }] }
  | .queue => some { g with candidates := g.candidates + 1 }
  | .resume k ok => g.tasks[k]?.bind (g.resume k ok)

def Quiet (g : FallibleNegotiation) : Prop := ∀ t ∈ g.tasks, t.point = .returned

/-- Each flag has its reason. -/
def Justified (g : FallibleNegotiation) : Prop :=
  (g.remoteAnswerPending = true → g.localOffer = true) ∧ (g.negotiationPending = true → g.remoteAnswerPending = true)

/-- A task at a point where it still does something. -/
def At (g : FallibleNegotiation) (P : NegotiationPoint → Bool) : Prop := ∃ t ∈ g.tasks, P t.point = true

/-- What a task meets when it goes on. A candidate does not fail while a flag is set; a request
is not left behind a task that has read that flag; and an answer is not applied between a
local offer and the flag that waits for its answer. -/
def Steady (g : FallibleNegotiation) : FallibleStep → Prop
  | .resume k ok => ∀ t ∈ g.tasks[k]?,
      (t.point = .draining → 0 < t.left → ok = false →
        g.remoteAnswerPending = false ∧ g.negotiationPending = false) ∧
        (t.point = .postponing → g.remoteAnswerPending = true ∨ g.At NegotiationPoint.takesUp) ∧
        (t.point = .arming → g.localOffer = true ∨ g.At NegotiationPoint.clears)
  | _ => True

instance (g : FallibleNegotiation) : Decidable g.Justified := inferInstanceAs (Decidable (_ ∧ _))

instance (g : FallibleNegotiation) (P : NegotiationPoint → Bool) : Decidable (g.At P) :=
  inferInstanceAs (Decidable (∃ t ∈ g.tasks, _))

instance (g : FallibleNegotiation) : ∀ s, Decidable (g.Steady s)
  | .negotiate => isTrue trivial
  | .setRemoteDescription => isTrue trivial
  | .queue => isTrue trivial
  | .resume k _ => inferInstanceAs (Decidable (∀ t ∈ g.tasks[k]?, _))

/-- While calls are in progress, a flag may also be one that a task is about to clear. -/
structure Accounted (g : FallibleNegotiation) : Prop where
  answer : g.remoteAnswerPending = true → g.localOffer = true ∨ g.At NegotiationPoint.clears
  request : g.negotiationPending = true → g.remoteAnswerPending = true ∨ g.At NegotiationPoint.takesUp

theorem Accounted.justified {g : FallibleNegotiation} (accounted : g.Accounted) (quiet : g.Quiet) : g.Justified := by
  have nobody {P : NegotiationPoint → Bool} (idle : P .returned = false) : ¬ g.At P := by
    rintro ⟨t, mem, here⟩
    rw [quiet t mem, idle] at here
    cases here
  constructor
  · intro pending
    exact (accounted.answer pending).resolve_right (nobody rfl)
  · intro pending
    exact (accounted.request pending).resolve_right (nobody rfl)

theorem At.start {g g' : FallibleNegotiation} {P : NegotiationPoint → Bool} {t : FallibleCall}
    (tasks : g'.tasks = g.tasks ++ [t]) (before : g.At P) : g'.At P := by
  obtain ⟨u, mem, here⟩ := before
  refine ⟨u, ?_, here⟩
  rw [tasks]
  exact List.mem_append_left _ mem

/-- A task's step changes which points are taken by that task alone. -/
theorem At.move {g g' : FallibleNegotiation} {P : NegotiationPoint → Bool} {k : Nat} {t t' : FallibleCall}
    (found : g.tasks[k]? = some t) (tasks : g'.tasks = g.tasks.set k t')
    (stays : P t.point = true → P t'.point = true) (before : g.At P) : g'.At P := by
  obtain ⟨u, mem, here⟩ := before
  by_cases same : t = u
  · subst same
    exact ⟨t', tasks ▸ mem_set_self found, stays here⟩
  · exact ⟨u, tasks ▸ mem_set_other found mem same, here⟩

/-- A step after which each flag that is set was set before, or has its reason now. -/
theorem Accounted.move {g g' : FallibleNegotiation} {k : Nat} {t t' : FallibleCall} (accounted : g.Accounted)
    (found : g.tasks[k]? = some t) (tasks : g'.tasks = g.tasks.set k t')
    (answer : g'.remoteAnswerPending = true →
      (g.remoteAnswerPending = true ∧ (g.localOffer = true → g'.localOffer = true)) ∧
          (t.point.clears = true → t'.point.clears = true) ∨
        g'.localOffer = true ∨ g'.At NegotiationPoint.clears)
    (request : g'.negotiationPending = true →
      (g.negotiationPending = true ∧ (g.remoteAnswerPending = true → g'.remoteAnswerPending = true)) ∧
          (t.point.takesUp = true → t'.point.takesUp = true) ∨
        g'.remoteAnswerPending = true ∨ g'.At NegotiationPoint.takesUp) : g'.Accounted := by
  constructor
  · intro pending
    rcases answer pending with ⟨⟨before, offer⟩, stays⟩ | now
    · exact (accounted.answer before).imp offer (At.move found tasks stays)
    · exact now
  · intro pending
    rcases request pending with ⟨⟨before, flag⟩, stays⟩ | now
    · exact (accounted.request before).imp flag (At.move found tasks stays)
    · exact now

/-- A step that sets no flag and takes back no offer, by a task that goes on clearing what it would. -/
theorem Accounted.pass {g g' : FallibleNegotiation} {k : Nat} {t t' : FallibleCall} (accounted : g.Accounted)
    (found : g.tasks[k]? = some t) (tasks : g'.tasks = g.tasks.set k t')
    (same : g'.remoteAnswerPending = g.remoteAnswerPending ∧ g'.negotiationPending = g.negotiationPending ∧
      (g.localOffer = true → g'.localOffer = true))
    (clears : t.point.clears = true → t'.point.clears = true)
    (takesUp : t.point.takesUp = true → t'.point.takesUp = true) : g'.Accounted := by
  obtain ⟨answer, request, offer⟩ := same
  refine accounted.move found tasks (fun pending => Or.inl ⟨⟨answer ▸ pending, offer⟩, clears⟩) fun pending => ?_
  exact Or.inl ⟨⟨request ▸ pending, fun flag => answer ▸ flag⟩, takesUp⟩

/-- The same of a task that has nothing to clear. -/
theorem Accounted.pass_by {g g' : FallibleNegotiation} {k : Nat} {t t' : FallibleCall} {p : NegotiationPoint}
    (accounted : g.Accounted) (found : g.tasks[k]? = some t) (at_p : t.point = p) (idle : p.takesUp = false)
    (tasks : g'.tasks = g.tasks.set k t')
    (same : g'.remoteAnswerPending = g.remoteAnswerPending ∧ g'.negotiationPending = g.negotiationPending ∧
      (g.localOffer = true → g'.localOffer = true)) : g'.Accounted := by
  subst at_p
  have neither : t.point.clears = false := by
    revert idle
    cases t.point <;> simp [NegotiationPoint.takesUp, NegotiationPoint.clears]
  refine accounted.pass found tasks same (fun clears => ?_) fun takesUp => ?_
  · rw [neither] at clears
    cases clears
  · rw [idle] at takesUp
    cases takesUp

theorem at_moved {g g' : FallibleNegotiation} {P : NegotiationPoint → Bool} {k : Nat} {t t' : FallibleCall}
    (found : g.tasks[k]? = some t) (tasks : g'.tasks = g.tasks.set k t') (here : P t'.point = true) : g'.At P :=
  ⟨t', tasks ▸ mem_set_self found, here⟩

theorem resume_accounted {g g' : FallibleNegotiation} {k : Nat} {ok : Bool} {t : FallibleCall}
    (accounted : g.Accounted) (steady : g.Steady (.resume k ok)) (found : g.tasks[k]? = some t)
    (h : g.resume k ok t = some g') : g'.Accounted := by
  obtain ⟨candidate, postpone, arm⟩ := steady t found
  unfold resume at h
  cases at_p : t.point with
  | waiting =>
      simp only [at_p] at h
      split at h <;> cases h
      exact accounted.pass_by found at_p rfl rfl ⟨rfl, rfl, id⟩
  | checking =>
      simp only [at_p] at h
      cases h
      exact accounted.pass_by found at_p rfl rfl ⟨rfl, rfl, id⟩
  | postponing =>
      simp only [at_p] at h
      cases h
      refine accounted.move found rfl (fun pending => Or.inl ⟨⟨pending, id⟩, ?_⟩) fun _ => Or.inr ?_
      · rw [at_p]
        exact nofun
      · refine (postpone at_p).imp_right fun takes => takes.move found rfl ?_
        rw [at_p]
        exact nofun
  | creating =>
      simp only [at_p] at h
      cases ok <;> cases h <;> exact accounted.pass_by found at_p rfl rfl ⟨rfl, rfl, id⟩
  | describing =>
      simp only [at_p] at h
      cases ok with
      | false =>
          cases h
          exact accounted.pass_by found at_p rfl rfl ⟨rfl, rfl, id⟩
      | true =>
          cases h
          exact accounted.pass_by found at_p rfl rfl ⟨rfl, rfl, fun _ => rfl⟩
  | arming =>
      simp only [at_p] at h
      cases h
      refine accounted.move found rfl (fun _ => Or.inr ?_) fun _ => Or.inr (Or.inl rfl)
      refine (arm at_p).imp_right fun clears => clears.move found rfl ?_
      rw [at_p]
      exact nofun
  | sending =>
      simp only [at_p] at h
      cases h
      exact accounted.pass_by found at_p rfl rfl ⟨rfl, rfl, id⟩
  | sent =>
      simp only [at_p] at h
      cases h
      exact accounted.pass_by found at_p rfl rfl ⟨rfl, rfl, id⟩
  | entering =>
      simp only [at_p] at h
      split at h <;> cases h
      exact accounted.pass_by found at_p rfl rfl ⟨rfl, rfl, id⟩
  | applying =>
      simp only [at_p] at h
      cases ok with
      | false =>
          cases h
          exact accounted.pass_by found at_p rfl rfl ⟨rfl, rfl, id⟩
      | true =>
          -- the offer is gone; the task that applied the answer is the reason now
          cases h
          exact accounted.move found rfl (fun _ => Or.inr (Or.inr (at_moved found rfl rfl)))
            fun _ => Or.inr (Or.inr (at_moved found rfl rfl))
  | draining =>
      simp only [at_p] at h
      split at h
      · cases h
        exact accounted.pass found rfl ⟨rfl, rfl, id⟩ (fun _ => rfl) fun _ => rfl
      next left more =>
          cases ok with
          | true =>
              cases h
              exact accounted.pass found rfl ⟨rfl, rfl, id⟩ (fun _ => rfl) fun _ => rfl
          | false =>
              -- nobody clears a flag that is set now
              cases h
              obtain ⟨noAnswer, noRequest⟩ := candidate at_p (by omega) rfl
              constructor <;> intro pending
              · cases noAnswer.symm.trans pending
              · cases noRequest.symm.trans pending
  | clearing =>
      simp only [at_p] at h
      cases h
      exact accounted.move found rfl nofun fun _ => Or.inr (Or.inr (at_moved found rfl rfl))
  | reading =>
      simp only [at_p] at h
      cases unset : g.negotiationPending with
      | true =>
          rw [unset] at h
          cases h
          exact accounted.pass found rfl ⟨rfl, rfl, id⟩ (by rw [at_p]; exact nofun) fun _ => rfl
      | false =>
          rw [unset] at h
          cases h
          refine accounted.move found rfl (fun pending => Or.inl ⟨⟨pending, id⟩, ?_⟩) fun pending => ?_
          · rw [at_p]
            exact nofun
          · cases unset.symm.trans pending
  | resetting =>
      simp only [at_p] at h
      cases h
      refine accounted.move found rfl (fun pending => Or.inl ⟨⟨pending, id⟩, ?_⟩) nofun
      rw [at_p]
      exact nofun
  | returned =>
      simp only [at_p] at h
      cases h

theorem step_accounted {g g' : FallibleNegotiation} {s : FallibleStep} (accounted : g.Accounted) (steady : g.Steady s)
    (h : g.step s = some g') : g'.Accounted := by
  cases s with
  | negotiate =>
      cases h
      exact ⟨fun pending => (accounted.answer pending).imp_right (At.start rfl),
        fun pending => (accounted.request pending).imp_right (At.start rfl)⟩
  | setRemoteDescription =>
      cases h
      exact ⟨fun pending => (accounted.answer pending).imp_right (At.start rfl),
        fun pending => (accounted.request pending).imp_right (At.start rfl)⟩
  | queue =>
      cases h
      exact ⟨accounted.answer, accounted.request⟩
  | resume k ok =>
      obtain ⟨t, found, moved⟩ := Option.bind_eq_some_iff.mp h
      exact resume_accounted accounted steady found moved

theorem accounted_start : Accounted {} := ⟨nofun, nofun⟩

/-- In a steady run of any calls, whichever of them fail, each flag that is set while no call
is in progress has its reason. -/
theorem run_justified {steps : List FallibleStep} {g : FallibleNegotiation}
    (steady : Guarded step Steady {} steps) (reached : run step {} steps = some g) (quiet : g.Quiet) :
    g.Justified := by
  have accounted : g.Accounted :=
    run_invariant Accounted (fun _ _ _ inv met moved => step_accounted inv met moved) accounted_start steady reached
  exact accounted.justified quiet

theorem quiet_returned {g g' : FallibleNegotiation} {k : Nat} {t : FallibleCall}
    (alone : ∀ j u, j ≠ k → g.tasks[j]? = some u → u.point = .returned)
    (tasks : g'.tasks = g.tasks.set k { t with point := .returned }) : g'.Quiet := by
  intro u mem
  rw [tasks] at mem
  obtain ⟨j, at_j⟩ := List.mem_iff_getElem?.mp mem
  rcases lookup_set_cases at_j with ⟨rfl, rfl⟩ | ⟨other, found⟩
  · rfl
  · exact alone j u other found

/-- The flag of an offer that has its answer already stays set. -/
theorem late_arming_wedges {g : FallibleNegotiation} {k : Nat} {t : FallibleCall} (found : g.tasks[k]? = some t)
    (at_p : t.point = .arming) (answered : g.localOffer ≠ true)
    (alone : ∀ j u, j ≠ k → g.tasks[j]? = some u → u.point = .returned) (ok : Bool) :
    ∃ g', run step g (.resume k ok :: List.replicate 2 (.resume k ok)) = some g' ∧ g'.Quiet ∧ ¬ g'.Justified := by
  let armed : FallibleNegotiation := { g.moveTo k t .sending with remoteAnswerPending := true }
  let out : FallibleNegotiation := armed.moveTo k { t with point := .sending } .sent
  have arms : g.step (.resume k ok) = some armed := by
    simp only [step, found, Option.bind_some, resume, at_p]
    rfl
  have at_sending : armed.tasks[k]? = some { t with point := .sending } := by
    rw [show armed.tasks = g.tasks.set k { t with point := .sending } from rfl, lookup_set found, if_pos rfl]
  have at_sent : out.tasks[k]? = some { t with point := .sent } := by
    rw [show out.tasks = armed.tasks.set k { t with point := .sent } from rfl, lookup_set at_sending, if_pos rfl]
  have sends : armed.step (.resume k ok) = some out := by
    simp only [step, at_sending, Option.bind_some, resume]
    rfl
  have leaves : out.step (.resume k ok) = some (out.leave k { t with point := .sent }) := by
    simp only [step, at_sent, Option.bind_some, resume]
  have tasks : (out.leave k { t with point := .sent }).tasks = g.tasks.set k { t with point := .returned } := by
    change ((g.tasks.set k _).set k _).set k _ = g.tasks.set k _
    rw [List.set_set, List.set_set]
  refine ⟨out.leave k { t with point := .sent }, ?_, quiet_returned alone tasks, fun justified => ?_⟩
  · refine run_cons_eq_some.mpr ⟨armed, arms, run_cons_eq_some.mpr ⟨out, sends, ?_⟩⟩
    exact run_cons_eq_some.mpr ⟨_, leaves, rfl⟩
  · exact answered (justified.1 rfl)

/-- A step that is not steady, of the only call in progress and without an open offer, leads
to a flag without a reason. -/
theorem unsteady_wedges {g : FallibleNegotiation} {k : Nat} {ok : Bool} (unsteady : ¬ g.Steady (.resume k ok))
    (closed : g.localOffer = false) (alone : ∀ j u, j ≠ k → g.tasks[j]? = some u → u.point = .returned) :
    ∃ more g', run step g (.resume k ok :: more) = some g' ∧ g'.Quiet ∧ ¬ g'.Justified := by
  unfold Steady at unsteady
  push Not at unsteady
  obtain ⟨t, found, against⟩ := unsteady
  by_cases candidate : t.point = .draining → 0 < t.left → ok = false →
      g.remoteAnswerPending = false ∧ g.negotiationPending = false
  · by_cases postpone : t.point = .postponing → g.remoteAnswerPending = true ∨ g.At NegotiationPoint.takesUp
    · obtain ⟨at_p, reason⟩ := against candidate postpone
      exact ⟨_, late_arming_wedges found at_p reason.1 alone ok⟩
    · obtain ⟨at_p, reason⟩ := Classical.not_imp.mp postpone
      have moved : g.step (.resume k ok) = some { g.leave k t with negotiationPending := true } := by
        simp only [step, Option.mem_def.mp found, Option.bind_some, resume, at_p]
      refine ⟨[], _, run_cons_eq_some.mpr ⟨_, moved, rfl⟩, quiet_returned alone rfl, fun justified => ?_⟩
      exact reason (Or.inl (justified.2 rfl))
  · simp only [Classical.not_imp] at candidate
    obtain ⟨at_p, some_left, failed, flagged⟩ := candidate
    have unjustified : ¬ g.Justified := by
      rintro ⟨answer, request⟩
      have noAnswer : g.remoteAnswerPending = false := by
        refine Bool.eq_false_iff.mpr fun pending => ?_
        cases closed.symm.trans (answer pending)
      refine flagged ⟨noAnswer, Bool.eq_false_iff.mpr fun pending => ?_⟩
      cases noAnswer.symm.trans (request pending)
    obtain ⟨left, more⟩ := Nat.exists_eq_succ_of_ne_zero (Nat.ne_of_gt some_left)
    have moved : g.step (.resume k ok) = some (g.finish k t) := by
      simp only [step, Option.mem_def.mp found, Option.bind_some, resume, at_p, more, failed]
      rfl
    exact ⟨[], _, run_cons_eq_some.mpr ⟨_, moved, rfl⟩, quiet_returned alone rfl, unjustified⟩

def answeredSteps (ok : Bool) : List FallibleStep :=
  .negotiate :: List.replicate 7 (.resume 0 true) ++
    [.queue, .setRemoteDescription, .resume 1 true, .resume 1 true, .resume 1 ok]

theorem run_justified_answered :
    ∃ g, run step {} (answeredSteps true ++ List.replicate 3 (.resume 1 true)) = some g ∧
      Guarded step Steady {} (answeredSteps true ++ List.replicate 3 (.resume 1 true)) ∧ g.Quiet ∧ g.Justified := by
  have steady : Guarded step Steady {} (answeredSteps true ++ List.replicate 3 (.resume 1 true)) := by decide
  refine ⟨_, rfl, steady, ?_, run_justified steady rfl ?_⟩ <;> (unfold Quiet; decide)

/-- The answer is applied, the queued candidate fails: the flag waits for an answer to no offer. -/
theorem failed_candidate_keeps_flag :
    ∃ g, run step {} (answeredSteps false) = some g ∧ g.Quiet ∧ g.remoteAnswerPending = true ∧
      g.localOffer = false ∧ ¬ g.Justified := by
  refine ⟨_, rfl, ?_, rfl, rfl, fun justified => ?_⟩
  · unfold Quiet
    decide
  · cases justified.1 rfl

end FallibleNegotiation

end Rsfu
