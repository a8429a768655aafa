import Rsfu.GuardedRun
import Rsfu.Negotiation

/-! Offers and answers take turns. The turn is with nobody, with the task that makes or
sends an offer, with the client, or with the task that has applied the answer, and the
flag is set exactly while an offer is armed, out or just answered. -/
namespace Rsfu
open GuardedRun TaskTable

/-- Who has the turn. -/
inductive NegotiationPhase where
  | idle
  | making (k : Nat)
  | armed (k : Nat)
  | out (offer : Nat)
  | applied (k : Nat)
  deriving DecidableEq, Repr

namespace NegotiationPhase

def owner : NegotiationPhase → Option Nat
  | .making k | .armed k | .applied k => some k
  | .idle | .out _ => none

def pending : NegotiationPhase → Bool
  | .idle | .making _ => false
  | .armed _ | .out _ | .applied _ => true

end NegotiationPhase

/-- The turn a task has at a point. -/
def NegotiationPoint.claim (k : Nat) : NegotiationPoint → Option NegotiationPhase
  | .creating | .describing | .arming => some (.making k)
  | .sending => some (.armed k)
  | .draining | .clearing => some (.applied k)
  | _ => none

def NegotiationPoint.holdsHandler : NegotiationPoint → Bool
  | .checking | .postponing | .creating | .describing | .arming | .sending | .sent => true
  | _ => false

/-- The answer of the task has not been applied yet. -/
def NegotiationPoint.brings : NegotiationPoint → Bool
  | .entering | .applying => true
  | _ => false

theorem NegotiationPoint.claim_owner {k : Nat} {point : NegotiationPoint} {phase : NegotiationPhase}
    (h : point.claim k = some phase) : phase.owner = some k := by
  unfold claim at h
  split at h <;> cases h <;> rfl

namespace PeerNegotiation

/-- An offer was sent and its answer is not applied. -/
def Outstanding (g : PeerNegotiation) (offer : Nat) : Prop := offer < g.sent ∧ offer ∉ g.applied

/-- Offers and answers alternate. -/
structure Alternates (g : PeerNegotiation) : Prop where
  one : ∀ o o', g.Outstanding o → g.Outstanding o' → o = o'
  creates : ∀ (k : Nat) (t : NegotiationTask), g.tasks[k]? = some t → t.point = .creating → ∀ o, ¬ g.Outstanding o
  flagged : ∀ o, g.Outstanding o → g.remoteAnswerPending = true

structure TaskFits (g : PeerNegotiation) (phase : NegotiationPhase) (k : Nat) (t : NegotiationTask) : Prop where
  claims : ∀ p, t.point.claim k = some p → phase = p
  handler : t.point.holdsHandler = true → g.handlerLock = some k
  answered : ∀ o, t.answer = some o → o ∈ g.answered
  unapplied : ∀ o, t.answer = some o → t.point.brings = true → o ∉ g.applied

structure Turns (g : PeerNegotiation) (phase : NegotiationPhase) : Prop where
  flag : g.remoteAnswerPending = phase.pending
  fits : ∀ (k : Nat) (t : NegotiationTask), g.tasks[k]? = some t → TaskFits g phase k t
  owner : ∀ k, phase.owner = some k → ∃ t, g.tasks[k]? = some t ∧ t.point.claim k = some phase
  outstanding : ∀ o, g.Outstanding o ↔ phase = .out o
  distinct : ∀ (j k : Nat) (t u : NegotiationTask) (o : Nat), g.tasks[j]? = some t → g.tasks[k]? = some u →
    t.answer = some o → u.answer = some o → j = k
  answered : ∀ o ∈ g.answered, o < g.sent
  applied : ∀ o ∈ g.applied, o ∈ g.answered

theorem Turns.alternates {g : PeerNegotiation} {phase : NegotiationPhase} (turns : g.Turns phase) : g.Alternates where
  one o o' left right := by
    have same := ((turns.outstanding o).mp left).symm.trans ((turns.outstanding o').mp right)
    exact NegotiationPhase.out.inj same
  creates k t found creating o out := by
    have mine : phase = .making k := (turns.fits k t found).claims _ (by rw [creating]; rfl)
    cases mine.symm.trans ((turns.outstanding o).mp out)
  flagged o out := by rw [turns.flag, (turns.outstanding o).mp out]; rfl

/-- A step of one task: the others keep what they hold, and no other brings its answer. -/
structure Advances (g g' : PeerNegotiation) (phase phase' : NegotiationPhase) (k : Nat)
    (t t' : NegotiationTask) : Prop where
  found : g.tasks[k]? = some t
  tasks : g'.tasks = g.tasks.set k t'
  answer : t'.answer = t.answer
  flag : g'.remoteAnswerPending = phase'.pending
  claims : ∀ p, t'.point.claim k = some p → phase' = p
  handler : t'.point.holdsHandler = true → g'.handlerLock = some k
  brings : t'.point.brings = true → t.point.brings = true ∧ g'.applied = g.applied
  kept : ∀ j, j ≠ k → g.handlerLock = some j → g'.handlerLock = some j
  turn : phase' = phase ∨ phase.owner = none ∨ phase.owner = some k
  owner : ∀ j, phase'.owner = some j → (j = k ∧ t'.point.claim k = some phase') ∨ (j ≠ k ∧ phase' = phase)
  outstanding : ∀ o, g'.Outstanding o ↔ phase' = .out o
  answered : g'.answered = g.answered
  sent : g.sent ≤ g'.sent
  applied : ∀ o ∈ g'.applied, o ∈ g.applied ∨ t.answer = some o

theorem Turns.advance {g g' : PeerNegotiation} {phase phase' : NegotiationPhase} {k : Nat} {t t' : NegotiationTask}
    (turns : g.Turns phase) (advances : Advances g g' phase phase' k t t') : g'.Turns phase' := by
  have mine := turns.fits k t advances.found
  have same_answer {j : Nat} {u : NegotiationTask} (found : g'.tasks[j]? = some u) :
      ∃ before, g.tasks[j]? = some before ∧ before.answer = u.answer := by
    rw [advances.tasks] at found
    rcases lookup_set_cases found with ⟨rfl, rfl⟩ | ⟨-, old⟩
    · exact ⟨t, advances.found, advances.answer.symm⟩
    · exact ⟨u, old, rfl⟩
  refine ⟨advances.flag, fun j u found => ?_, fun j owns => ?_, advances.outstanding, ?_, ?_, ?_⟩
  · rw [advances.tasks] at found
    rcases lookup_set_cases found with ⟨rfl, rfl⟩ | ⟨other, old⟩
    · refine ⟨advances.claims, advances.handler, fun o own => ?_, fun o own brings => ?_⟩
      · rw [advances.answered]
        exact mine.answered o (advances.answer ▸ own)
      · obtain ⟨before, same⟩ := advances.brings brings
        rw [same]
        exact mine.unapplied o (advances.answer ▸ own) before
    · have fits := turns.fits j u old
      refine ⟨fun p claimed => ?_, fun holds => ?_, fun o own => ?_, fun o own brings => ?_⟩
      · have held := fits.claims p claimed
        have owned := NegotiationPoint.claim_owner claimed
        rw [← held] at owned
        rcases advances.turn with same | free | own
        · exact same.trans held
        · rw [free] at owned
          cases owned
        · exact absurd (Option.some.inj (owned.symm.trans own)) other
      · exact advances.kept j other (fits.handler holds)
      · rw [advances.answered]
        exact fits.answered o own
      · intro gone
        rcases advances.applied o gone with before | shared
        · exact fits.unapplied o own brings before
        · exact other (turns.distinct j k u t o old advances.found own shared)
  · rw [advances.tasks, lookup_set advances.found]
    rcases advances.owner j owns with ⟨rfl, claimed⟩ | ⟨other, same⟩
    · exact ⟨t', if_pos rfl, claimed⟩
    · rw [if_neg (Ne.symm other), same]
      exact turns.owner j (same ▸ owns)
  · intro i j u v o left right own own'
    obtain ⟨u', found, same⟩ := same_answer left
    obtain ⟨v', found', same'⟩ := same_answer right
    exact turns.distinct i j u' v' o found found' (same.trans own) (same'.trans own')
  · intro o mem
    rw [advances.answered] at mem
    exact Nat.lt_of_lt_of_le (turns.answered o mem) advances.sent
  · intro o mem
    rw [advances.answered]
    exact (advances.applied o mem).elim (turns.applied o) (mine.answered o)

/-- A step that leaves the turn and the offers as they are. -/
theorem Turns.quiet {g g' : PeerNegotiation} {phase : NegotiationPhase} {k : Nat} {t t' : NegotiationTask}
    (turns : g.Turns phase) (found : g.tasks[k]? = some t) (tasks : g'.tasks = g.tasks.set k t')
    (answer : t'.answer = t.answer) (claim : t'.point.claim k = t.point.claim k)
    (handler : t'.point.holdsHandler = true → g'.handlerLock = some k)
    (kept : ∀ j, j ≠ k → g.handlerLock = some j → g'.handlerLock = some j)
    (brings : t'.point.brings = true → t.point.brings = true)
    (same : g'.remoteAnswerPending = g.remoteAnswerPending ∧ g'.answered = g.answered ∧ g'.sent = g.sent ∧
      g'.applied = g.applied) : g'.Turns phase := by
  obtain ⟨flag, answered, sent, applied⟩ := same
  refine turns.advance ⟨found, tasks, answer, flag.trans turns.flag, fun p claimed => ?_, handler,
    fun b => ⟨brings b, applied⟩, kept, Or.inl rfl, fun j owns => ?_, fun o => ?_, answered,
    Nat.le_of_eq sent.symm, fun o mem => ?_⟩
  · exact (turns.fits k t found).claims p (claim ▸ claimed)
  · by_cases here : j = k
    · subst here
      obtain ⟨u, found', claimed⟩ := turns.owner j owns
      cases found.symm.trans found'
      exact Or.inl ⟨rfl, claim.trans claimed⟩
    · exact Or.inr ⟨here, rfl⟩
  · unfold Outstanding
    rw [sent, applied]
    exact turns.outstanding o
  · exact Or.inl (applied ▸ mem)

/-- The turn changes hands while no offer is out. -/
theorem Turns.none_out {g : PeerNegotiation} {phase phase' : NegotiationPhase} (turns : g.Turns phase)
    (before : ∀ o, phase ≠ .out o) (after : ∀ o, phase' ≠ .out o) (o : Nat) : g.Outstanding o ↔ phase' = .out o :=
  (turns.outstanding o).trans (iff_of_false (before o) (after o))

/-- The task that holds the handler lock is the only one between lock and return. -/
theorem Turns.alone {g : PeerNegotiation} {phase : NegotiationPhase} {j k : Nat} {t u : NegotiationTask}
    (turns : g.Turns phase) (left : g.tasks[j]? = some t) (right : g.tasks[k]? = some u)
    (holds : t.point.holdsHandler = true) (holds' : u.point.holdsHandler = true) : j = k :=
  Option.some.inj (((turns.fits j t left).handler holds).symm.trans ((turns.fits k u right).handler holds'))

/-- A task that finds the flag clear takes the turn: no other task makes an offer. -/
theorem Turns.idle {g : PeerNegotiation} {phase : NegotiationPhase} {k : Nat} {t : NegotiationTask}
    (turns : g.Turns phase) (found : g.tasks[k]? = some t) (checking : t.point = .checking)
    (clear : g.remoteAnswerPending = false) : phase = .idle := by
  have flag := turns.flag
  rw [clear] at flag
  cases phase with
  | idle => rfl
  | making j =>
      obtain ⟨u, found', claimed⟩ := turns.owner j rfl
      have holds : u.point.holdsHandler = true := by
        revert claimed
        cases u.point <;> simp [NegotiationPoint.claim, NegotiationPoint.holdsHandler]
      have same := turns.alone found found' (by rw [checking]; rfl) holds
      subst same
      cases found.symm.trans found'
      rw [checking] at claimed
      cases claimed
  | armed j => cases flag
  | out o => cases flag
  | applied j => cases flag

theorem Turns.checking {g : PeerNegotiation} {phase : NegotiationPhase} {k : Nat} {t : NegotiationTask}
    (turns : g.Turns phase) (found : g.tasks[k]? = some t) (checking : t.point = .checking) :
    ∃ phase', (g.moveTo k t (if g.remoteAnswerPending then .postponing else .creating)).Turns phase' := by
  have holds := (turns.fits k t found).handler (by rw [checking]; rfl)
  cases pending : g.remoteAnswerPending with
  | true =>
      exact ⟨phase, turns.quiet found rfl rfl (by rw [checking]; rfl) (fun _ => holds) (fun _ _ => id) nofun
        ⟨rfl, rfl, rfl, rfl⟩⟩
  | false =>
      cases turns.idle found checking pending
      refine ⟨.making k, turns.advance ⟨found, rfl, rfl, pending, ?_, fun _ => holds, nofun, fun _ _ => id,
        Or.inr (Or.inl rfl), ?_, turns.none_out nofun nofun, rfl, Nat.le_refl _, fun _ => Or.inl⟩⟩
      · rintro p ⟨⟩
        rfl
      · rintro j ⟨⟩
        exact Or.inl ⟨rfl, rfl⟩

theorem Turns.arming {g : PeerNegotiation} {phase : NegotiationPhase} {k : Nat} {t : NegotiationTask}
    (turns : g.Turns phase) (found : g.tasks[k]? = some t) (arming : t.point = .arming) :
    Turns { g.moveTo k t .sending with remoteAnswerPending := true } (.armed k) := by
  have fits := turns.fits k t found
  have holds := fits.handler (by rw [arming]; rfl)
  have mine : phase = .making k := fits.claims _ (by rw [arming]; rfl)
  subst mine
  refine turns.advance ⟨found, rfl, rfl, rfl, ?_, fun _ => holds, nofun, fun _ _ => id, Or.inr (Or.inr rfl), ?_,
    turns.none_out nofun nofun, rfl, Nat.le_refl _, fun _ => Or.inl⟩
  · rintro p ⟨⟩
    rfl
  · rintro j ⟨⟩
    exact Or.inl ⟨rfl, rfl⟩

/-- The offer that is sent is the only one out. -/
theorem Turns.sending {g : PeerNegotiation} {phase : NegotiationPhase} {k : Nat} {t : NegotiationTask}
    (turns : g.Turns phase) (found : g.tasks[k]? = some t) (sending : t.point = .sending) :
    Turns { g.moveTo k t .sent with sent := g.sent + 1 } (.out g.sent) := by
  have fits := turns.fits k t found
  have holds := fits.handler (by rw [sending]; rfl)
  have mine : phase = .armed k := fits.claims _ (by rw [sending]; rfl)
  subst mine
  refine turns.advance ⟨found, rfl, rfl, turns.flag, nofun, fun _ => holds, nofun, fun _ _ => id, Or.inr (Or.inr rfl),
    nofun, fun o => ?_, rfl, Nat.le_succ _, fun _ => Or.inl⟩
  have nothing := turns.outstanding o
  have fresh : g.sent ∉ g.applied := fun mem => Nat.lt_irrefl _ (turns.answered _ (turns.applied _ mem))
  simp only [reduceCtorEq, iff_false, Outstanding, not_and, not_not] at nothing
  simp only [Outstanding, moveTo, NegotiationPhase.out.injEq]
  constructor
  · rintro ⟨less, unapplied⟩
    by_contra other
    exact unapplied (nothing (by omega))
  · rintro rfl
    exact ⟨Nat.lt_succ_self _, fresh⟩

theorem Turns.applying {g : PeerNegotiation} {phase : NegotiationPhase} {k offer : Nat} {t : NegotiationTask}
    (turns : g.Turns phase) (found : g.tasks[k]? = some t) (applying : t.point = .applying)
    (brought : t.answer = some offer) :
    Turns { g.moveTo k t .draining with applied := offer :: g.applied } (.applied k) := by
  have fits := turns.fits k t found
  have out : g.Outstanding offer :=
    ⟨turns.answered offer (fits.answered offer brought), fits.unapplied offer brought (by rw [applying]; rfl)⟩
  have mine := (turns.outstanding offer).mp out
  subst mine
  refine turns.advance ⟨found, rfl, rfl, turns.flag, ?_, nofun, nofun, fun _ _ => id, Or.inr (Or.inl rfl), ?_,
    fun o => ?_, rfl, Nat.le_refl _, fun o mem => ?_⟩
  · rintro p ⟨⟩
    rfl
  · rintro j ⟨⟩
    exact Or.inl ⟨rfl, rfl⟩
  · have only := turns.outstanding o
    simp only [Outstanding, NegotiationPhase.out.injEq] at only
    simp only [Outstanding, moveTo, List.mem_cons, not_or, reduceCtorEq, iff_false]
    rintro ⟨less, other, unapplied⟩
    exact other (only.mp ⟨less, unapplied⟩).symm
  · rcases List.mem_cons.mp mem with rfl | old
    · exact Or.inr brought
    · exact Or.inl old

theorem Turns.clearing {g : PeerNegotiation} {phase : NegotiationPhase} {k : Nat} {t : NegotiationTask}
    (turns : g.Turns phase) (found : g.tasks[k]? = some t) (clearing : t.point = .clearing) :
    Turns { g.moveTo k t .reading with remoteAnswerPending := false } .idle := by
  have mine : phase = .applied k := (turns.fits k t found).claims _ (by rw [clearing]; rfl)
  subst mine
  exact turns.advance ⟨found, rfl, rfl, rfl, nofun, nofun, nofun, fun _ _ => id, Or.inr (Or.inr rfl), nofun,
    turns.none_out nofun nofun, rfl, Nat.le_refl _, fun _ => Or.inl⟩

theorem Turns.leave {g : PeerNegotiation} {phase : NegotiationPhase} {k : Nat} {t : NegotiationTask} {pending : Bool}
    (turns : g.Turns phase) (found : g.tasks[k]? = some t) (holds : t.point.holdsHandler = true)
    (claim : t.point.claim k = none) : Turns { g.leave k t with negotiationPending := pending } phase := by
  have mine := (turns.fits k t found).handler holds
  refine turns.quiet found rfl rfl (by rw [claim]; rfl) nofun (fun j other held => ?_) nofun ⟨rfl, rfl, rfl, rfl⟩
  exact absurd (Option.some.inj (held.symm.trans mine)) other

theorem resume_turns {g g' : PeerNegotiation} {phase : NegotiationPhase} {k : Nat} {t : NegotiationTask}
    (turns : g.Turns phase) (found : g.tasks[k]? = some t) (h : g.resume k t = some g') :
    ∃ phase', g'.Turns phase' := by
  have handler := (turns.fits k t found).handler
  cases point : t.point with
  | waiting =>
      simp only [resume, point] at h
      obtain ⟨free, taken⟩ := Option.ite_none_right_eq_some.mp h
      cases taken
      refine ⟨phase, turns.quiet found rfl rfl (by rw [point]; rfl) (fun _ => rfl) (fun j _ held => ?_) nofun
        ⟨rfl, rfl, rfl, rfl⟩⟩
      rw [free] at held
      cases held
  | checking =>
      simp only [resume, point, Option.some.injEq] at h
      exact h ▸ turns.checking found point
  | postponing =>
      simp only [resume, point, Option.some.injEq] at h
      exact ⟨phase, h ▸ turns.leave found (by rw [point]; rfl) (by rw [point]; rfl)⟩
  | creating =>
      simp only [resume, point, Option.some.injEq] at h
      subst h
      exact ⟨phase, turns.quiet found rfl rfl (by rw [point]; rfl) (fun _ => handler (by rw [point]; rfl))
        (fun _ _ => id) nofun
        ⟨rfl, rfl, rfl, rfl⟩⟩
  | describing =>
      simp only [resume, point, Option.some.injEq] at h
      subst h
      exact ⟨phase, turns.quiet found rfl rfl (by rw [point]; rfl) (fun _ => handler (by rw [point]; rfl))
        (fun _ _ => id) nofun
        ⟨rfl, rfl, rfl, rfl⟩⟩
  | arming =>
      simp only [resume, point, Option.some.injEq] at h
      exact ⟨.armed k, h ▸ turns.arming found point⟩
  | sending =>
      simp only [resume, point, Option.some.injEq] at h
      exact ⟨.out g.sent, h ▸ turns.sending found point⟩
  | sent =>
      simp only [resume, point, Option.some.injEq] at h
      exact ⟨phase, h ▸ turns.leave found (by rw [point]; rfl) (by rw [point]; rfl)⟩
  | entering =>
      simp only [resume, point] at h
      obtain ⟨free, taken⟩ := Option.ite_none_right_eq_some.mp h
      cases taken
      exact ⟨phase, turns.quiet found rfl rfl (by rw [point]; rfl) nofun (fun _ _ => id) (fun _ => by rw [point]; rfl)
        ⟨rfl, rfl, rfl, rfl⟩⟩
  | applying =>
      simp only [resume, point] at h
      obtain ⟨offer, brought, rfl⟩ := Option.map_eq_some_iff.mp h
      exact ⟨.applied k, turns.applying found point brought⟩
  | draining =>
      simp only [resume, point, Option.some.injEq] at h
      subst h
      exact ⟨phase, turns.quiet found rfl rfl (by rw [point]; rfl) nofun (fun _ _ => id) nofun ⟨rfl, rfl, rfl, rfl⟩⟩
  | clearing =>
      simp only [resume, point, Option.some.injEq] at h
      exact ⟨.idle, h ▸ turns.clearing found point⟩
  | reading =>
      simp only [resume, point] at h
      refine ⟨phase, ?_⟩
      split at h <;> cases h
      · exact turns.quiet found rfl rfl (by rw [point]; rfl) nofun (fun _ _ => id) nofun ⟨rfl, rfl, rfl, rfl⟩
      · exact turns.quiet found rfl rfl (by rw [point]; rfl) nofun (fun _ _ => id) nofun ⟨rfl, rfl, rfl, rfl⟩
  | resetting =>
      simp only [resume, point, Option.some.injEq] at h
      subst h
      exact ⟨phase, turns.quiet found rfl rfl (by rw [point]; rfl) nofun (fun _ _ => id) nofun ⟨rfl, rfl, rfl, rfl⟩⟩
  | returned => simp only [resume, point, reduceCtorEq] at h

/-- A new task waits for a lock and holds nothing. -/
theorem Turns.start {g : PeerNegotiation} {phase : NegotiationPhase} {t : NegotiationTask} {answered : List Nat}
    (turns : g.Turns phase) (claim : t.point.claim g.tasks.length = none) (waits : t.point.holdsHandler = false)
    (grown : ∀ o ∈ g.answered, o ∈ answered) (sent : ∀ o ∈ answered, o < g.sent)
    (own : ∀ o, t.answer = some o → o ∈ answered ∧ o ∉ g.answered) :
    Turns { g with tasks := g.tasks ++ [t], answered } phase where
  flag := turns.flag
  fits k u found := by
    rcases lookup_append found with old | ⟨rfl, rfl⟩
    · have fits := turns.fits k u old
      exact ⟨fits.claims, fits.handler, fun o brought => grown o (fits.answered o brought), fits.unapplied⟩
    · refine ⟨fun p claimed => ?_, fun holds => ?_, fun o brought => (own o brought).1, fun o brought _ gone => ?_⟩
      · rw [claim] at claimed
        cases claimed
      · rw [waits] at holds
        cases holds
      · exact (own o brought).2 (turns.applied o gone)
  owner k owns := by
    obtain ⟨u, found, claimed⟩ := turns.owner k owns
    exact ⟨u, lookup_append_old found, claimed⟩
  outstanding := turns.outstanding
  distinct j k u v o left right brought brought' := by
    have before {i : Nat} {w : NegotiationTask} (old : g.tasks[i]? = some w) (shared : w.answer = some o) :
        o ∈ g.answered :=
      (turns.fits i w old).answered o shared
    rcases lookup_append left with old | ⟨rfl, rfl⟩
    · rcases lookup_append right with old' | ⟨rfl, rfl⟩
      · exact turns.distinct j k u v o old old' brought brought'
      · exact absurd (before old brought) (own o brought').2
    · rcases lookup_append right with old' | ⟨rfl, rfl⟩
      · exact absurd (before old' brought') (own o brought).2
      · rfl
  answered := sent
  applied o gone := grown o (turns.applied o gone)

theorem step_turns {g g' : PeerNegotiation} {s : NegotiationStep} (turns : ∃ phase, g.Turns phase)
    (h : g.step s = some g') : ∃ phase, g'.Turns phase := by
  obtain ⟨phase, turns⟩ := turns
  cases s with
  | negotiate =>
      cases h
      exact ⟨phase, turns.start rfl rfl (fun _ => id) turns.answered nofun⟩
  | answer offer =>
      obtain ⟨⟨received, unanswered⟩, started⟩ := Option.ite_none_right_eq_some.mp h
      cases started
      refine ⟨phase, turns.start rfl rfl (fun _ => List.mem_cons_of_mem _) (fun o mem => ?_) fun o brought => ?_⟩
      · rcases List.mem_cons.mp mem with rfl | old
        · exact received
        · exact turns.answered o old
      · cases brought
        exact ⟨List.mem_cons_self, unanswered⟩
  | resume k =>
      obtain ⟨t, found, resumed⟩ := Option.bind_eq_some_iff.mp h
      exact resume_turns turns found resumed

theorem start_turns : Turns {} .idle where
  flag := rfl
  fits _ _ found := by cases found
  owner _ owns := by cases owns
  outstanding o := iff_of_false (fun out => Nat.not_lt_zero _ out.1) nofun
  distinct _ _ _ _ _ found := by cases found
  answered _ mem := by cases mem
  applied _ mem := by cases mem

/-- Offers and answers alternate in every reachable state. -/
theorem run_alternates {steps : List NegotiationStep} {g : PeerNegotiation} (reached : run step {} steps = some g) :
    g.Alternates := by
  obtain ⟨phase, turns⟩ :=
    run_preserves (fun g => ∃ phase, Turns g phase) (fun _ _ _ turns moved => step_turns turns moved)
      ⟨.idle, start_turns⟩ reached
  exact turns.alternates

/-- A second call waits while the first sends its offer; the answer starts the second offer. -/
def renegotiateSteps : List NegotiationStep :=
  [.negotiate, .negotiate, .resume 0, .resume 0, .resume 0, .resume 0, .resume 0, .resume 0, .resume 0,
    .resume 1, .resume 1, .resume 1, .answer 0, .resume 2, .resume 2, .resume 2, .resume 2, .resume 2, .resume 2,
    .resume 2, .resume 2, .resume 2, .resume 2, .resume 2, .resume 2, .resume 2]

theorem run_alternates_renegotiated :
    ∃ g, run step {} renegotiateSteps = some g ∧ g.created = 2 ∧ g.sent = 2 ∧ g.applied = [0] ∧ g.Alternates := by
  have ends : ∃ g, run step {} renegotiateSteps = some g ∧ g.created = 2 ∧ g.sent = 2 ∧ g.applied = [0] :=
    ⟨_, rfl, rfl, rfl, rfl⟩
  obtain ⟨g, reached, created, sent, applied⟩ := ends
  exact ⟨g, reached, created, sent, applied, run_alternates reached⟩

end PeerNegotiation

end Rsfu
