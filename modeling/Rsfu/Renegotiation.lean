import Rsfu.OfferAnswer

/-! Requests for negotiation that come while an offer is out. A call that finds the flag
set leaves its request in the other flag; the task that has applied the answer takes the
request up when it reads that flag afterwards, and loses it when it reads in between. -/
namespace Rsfu
open GuardedRun TaskTable

/-- The points of `set_remote_description`. -/
def NegotiationPoint.answers : NegotiationPoint → Bool
  | .entering | .applying | .draining | .clearing | .reading | .resetting => true
  | _ => false

/-- The call of `negotiate` has created its offer. -/
def NegotiationPoint.made : NegotiationPoint → Bool
  | .describing | .arming | .sending | .sent => true
  | _ => false

/-- From here a task that handles an answer will still create an offer or leave a request. -/
def NegotiationPoint.renews : NegotiationPoint → Bool
  | .resetting | .waiting | .checking | .creating | .postponing => true
  | _ => false

/-- From here a task that handles an answer will still see a request that is left now. -/
def NegotiationPoint.sees : NegotiationPoint → Bool
  | .reading | .resetting | .waiting => true
  | _ => false

def NegotiationTask.holdsSubscriber (t : NegotiationTask) : Bool :=
  t.answer.isSome && (t.point ≠ .entering && t.point ≠ .returned)

namespace PeerNegotiation

/-- When all calls have returned, each call of `negotiate` was followed by a new offer, or
an offer is out whose answer will start one. -/
def Kept (g : PeerNegotiation) : Prop :=
  (∀ t ∈ g.tasks, t.point = .returned) → ∀ t ∈ g.tasks, ∀ b, t.began = some b →
    b < g.created ∨ ((∃ o, g.Outstanding o) ∧ g.negotiationPending = true)

/-- A task does not find both flags clear while a call that found the first one set is
about to set the second. -/
def Unhurried (g : PeerNegotiation) : NegotiationStep → Prop
  | .resume k =>
      ∀ t ∈ g.tasks[k]?, t.point = .reading → g.negotiationPending = false → g.remoteAnswerPending = false →
        ∀ u ∈ g.tasks, u.point ≠ .postponing
  | _ => True

instance Unhurried.decide (g : PeerNegotiation) : ∀ s, Decidable (g.Unhurried s)
  | .negotiate => isTrue trivial
  | .answer _ => isTrue trivial
  | .resume k => inferInstanceAs (Decidable (∀ t ∈ g.tasks[k]?, _))

/-- Where the task that handles an answer stands. -/
def answering (g : PeerNegotiation) : Option NegotiationPoint :=
  g.subscriberLock.bind fun m => g.tasks[m]?.map NegotiationTask.point

/-- A request left so far will be taken up. -/
def Promised (g : PeerNegotiation) : Prop :=
  (g.negotiationPending = true ∧ (g.remoteAnswerPending = true ∨ g.answering = some .reading)) ∨
    ∃ p, g.answering = some p ∧ p.renews = true

/-- A request left now will be taken up. -/
def Seen (g : PeerNegotiation) : Prop := g.remoteAnswerPending = true ∨ ∃ p, g.answering = some p ∧ p.sees = true

structure Owes (g : PeerNegotiation) : Prop where
  holder : ∀ m, g.subscriberLock = some m → ∃ t, g.tasks[m]? = some t ∧ t.holdsSubscriber = true
  holds : ∀ (k : Nat) (t : NegotiationTask), g.tasks[k]? = some t → t.holdsSubscriber = true →
    g.subscriberLock = some k
  kind : ∀ (k : Nat) (t : NegotiationTask), g.tasks[k]? = some t → t.point.answers = true →
    t.answer.isSome = true ∧ t.began = none
  began : ∀ (k : Nat) (t : NegotiationTask) (b : Nat), g.tasks[k]? = some t → t.began = some b →
    b ≤ g.created ∧ (t.point.made = true → b < g.created)
  returned : ∀ (k : Nat) (t : NegotiationTask) (b : Nat), g.tasks[k]? = some t → t.point = .returned →
    t.began = some b → b < g.created ∨ g.Promised
  postponing : ∀ (k : Nat) (t : NegotiationTask), g.tasks[k]? = some t → t.point = .postponing → g.Seen

theorem Owes.kept {g : PeerNegotiation} {phase : NegotiationPhase} (owes : g.Owes) (turns : g.Turns phase) :
    g.Kept := by
  intro quiet t mem b start
  obtain ⟨k, found⟩ := List.mem_iff_getElem?.mp mem
  have unlocked : g.answering = none := by
    unfold answering
    cases lock : g.subscriberLock with
    | none => rfl
    | some m =>
        obtain ⟨u, found', holds⟩ := owes.holder m lock
        simp [NegotiationTask.holdsSubscriber, quiet u (List.mem_of_getElem? found')] at holds
  refine (owes.returned k t b found (quiet t mem) start).imp_right fun promised => ?_
  simp only [Promised, unlocked, reduceCtorEq, or_false, false_and, exists_false] at promised
  refine ⟨?_, promised.1⟩
  have idle (m : Nat) : phase.owner ≠ some m := by
    intro owns
    obtain ⟨u, found', claimed⟩ := turns.owner m owns
    rw [quiet u (List.mem_of_getElem? found')] at claimed
    cases claimed
  have flag := turns.flag
  rw [promised.2] at flag
  cases phase with
  | idle => cases flag
  | making m => cases flag
  | armed m => exact absurd rfl (idle m)
  | out o => exact ⟨o, (turns.outstanding o).mpr rfl⟩
  | applied m => exact absurd rfl (idle m)

/-- A step of one task, with what it does to the requests of the others and to its own. -/
structure Settles (g g' : PeerNegotiation) (k : Nat) (t t' : NegotiationTask) : Prop where
  found : g.tasks[k]? = some t
  tasks : g'.tasks = g.tasks.set k t'
  holds : t'.holdsSubscriber = true ↔ g'.subscriberLock = some k
  others : ∀ j, j ≠ k → (g'.subscriberLock = some j ↔ g.subscriberLock = some j)
  kind : t'.point.answers = true → t'.answer.isSome = true ∧ t'.began = none
  began : ∀ b, t'.began = some b → b ≤ g'.created ∧ (t'.point.made = true → b < g'.created)
  created : g.created ≤ g'.created
  debts : g.created < g'.created ∨ (g.Promised → g'.Promised)
  returned : t'.point = .returned → ∀ b, t'.began = some b → b < g'.created ∨ g'.Promised
  seen : ∀ (j : Nat) (u : NegotiationTask), j ≠ k → g.tasks[j]? = some u → u.point = .postponing → g.Seen → g'.Seen
  postpones : t'.point = .postponing → g'.Seen

theorem Owes.settle {g g' : PeerNegotiation} {k : Nat} {t t' : NegotiationTask} (owes : g.Owes)
    (settles : Settles g g' k t t') : g'.Owes := by
  have lookup (j : Nat) : g'.tasks[j]? = if k = j then some t' else g.tasks[j]? := by
    rw [settles.tasks, lookup_set settles.found]
  have split_task {j : Nat} {u : NegotiationTask} (found : g'.tasks[j]? = some u) :
      (j = k ∧ u = t') ∨ (j ≠ k ∧ g.tasks[j]? = some u) := lookup_set_cases (settles.tasks ▸ found)
  refine ⟨fun m lock => ?_, fun j u found holds => ?_, fun j u found answers => ?_, fun j u b found start => ?_,
    fun j u b found done start => ?_, fun j u found postponing => ?_⟩
  · by_cases here : m = k
    · subst here
      exact ⟨t', (lookup m).trans (if_pos rfl), settles.holds.mpr lock⟩
    · obtain ⟨u, found, holds⟩ := owes.holder m ((settles.others m here).mp lock)
      exact ⟨u, by rw [lookup, if_neg (Ne.symm here), found], holds⟩
  · rcases split_task found with ⟨rfl, rfl⟩ | ⟨other, old⟩
    · exact settles.holds.mp holds
    · exact (settles.others j other).mpr (owes.holds j u old holds)
  · rcases split_task found with ⟨rfl, rfl⟩ | ⟨-, old⟩
    · exact settles.kind answers
    · exact owes.kind j u old answers
  · rcases split_task found with ⟨rfl, rfl⟩ | ⟨-, old⟩
    · exact settles.began b start
    · obtain ⟨le, made⟩ := owes.began j u b old start
      exact ⟨Nat.le_trans le settles.created, fun done => Nat.lt_of_lt_of_le (made done) settles.created⟩
  · rcases split_task found with ⟨rfl, rfl⟩ | ⟨-, old⟩
    · exact settles.returned done b start
    · rcases settles.debts with more | promised
      · exact Or.inl (Nat.lt_of_le_of_lt (owes.began j u b old start).1 more)
      · exact (owes.returned j u b old done start).imp (fun less => Nat.lt_of_lt_of_le less settles.created) promised
  · rcases split_task found with ⟨rfl, rfl⟩ | ⟨other, old⟩
    · exact settles.postpones postponing
    · exact settles.seen j u other old postponing (owes.postponing j u old postponing)

theorem Promised.mono {g g' : PeerNegotiation} (promised : g.Promised)
    (requested : g.negotiationPending = true → g'.negotiationPending = true)
    (flag : g.remoteAnswerPending = true → g'.remoteAnswerPending = true ∨ g'.answering = some .reading)
    (reading : g.answering = some .reading → g'.answering = some .reading)
    (renews : ∀ p, g.answering = some p → p.renews = true → ∃ p', g'.answering = some p' ∧ p'.renews = true) :
    g'.Promised := by
  rcases promised with ⟨left, pending | read⟩ | ⟨p, at_p, will⟩
  · exact Or.inl ⟨requested left, flag pending⟩
  · exact Or.inl ⟨requested left, Or.inr (reading read)⟩
  · exact Or.inr (renews p at_p will)

theorem Seen.mono {g g' : PeerNegotiation} (seen : g.Seen)
    (flag : g.remoteAnswerPending = true → g'.Seen)
    (sees : ∀ p, g.answering = some p → p.sees = true → ∃ p', g'.answering = some p' ∧ p'.sees = true) : g'.Seen := by
  rcases seen with pending | ⟨p, at_p, will⟩
  · exact flag pending
  · exact Or.inr (sees p at_p will)

/-- The task of the subscriber lock is the one that handles an answer. -/
theorem answering_mine {g : PeerNegotiation} {k : Nat} {t : NegotiationTask} (found : g.tasks[k]? = some t)
    (lock : g.subscriberLock = some k) : g.answering = some t.point := by
  simp [answering, lock, found]

theorem answering_at {g g' : PeerNegotiation} {k : Nat} {t t' : NegotiationTask} (found : g.tasks[k]? = some t)
    (tasks : g'.tasks = g.tasks.set k t') (lock : g'.subscriberLock = some k) : g'.answering = some t'.point :=
  answering_mine (by rw [tasks, lookup_set found, if_pos rfl]) lock

theorem answering_other {g g' : PeerNegotiation} {k : Nat} {t t' : NegotiationTask} (found : g.tasks[k]? = some t)
    (tasks : g'.tasks = g.tasks.set k t') (lock : g'.subscriberLock = g.subscriberLock)
    (other : g.subscriberLock ≠ some k) : g'.answering = g.answering := by
  unfold answering
  rw [lock, tasks]
  cases held : g.subscriberLock with
  | none => rfl
  | some m =>
      have differ : k ≠ m := fun same => other (same ▸ held)
      simp [lookup_set found, differ]

/-- Under the same lock the handling task is where it was, or has made this step. -/
theorem answering_move {g g' : PeerNegotiation} {k : Nat} {t t' : NegotiationTask} (found : g.tasks[k]? = some t)
    (tasks : g'.tasks = g.tasks.set k t') (lock : g'.subscriberLock = g.subscriberLock) {p : NegotiationPoint}
    (at_p : g.answering = some p) : (p = t.point ∧ g'.answering = some t'.point) ∨ g'.answering = some p := by
  by_cases mine : g.subscriberLock = some k
  · refine Or.inl ⟨Option.some.inj (at_p.symm.trans (answering_mine found mine)), ?_⟩
    exact answering_at found tasks (lock.trans mine)
  · exact Or.inr ((answering_other found tasks lock mine).trans at_p)

theorem Owes.holds_iff {g : PeerNegotiation} {k : Nat} {t : NegotiationTask} (owes : g.Owes)
    (found : g.tasks[k]? = some t) :
    t.holdsSubscriber = true ↔ g.subscriberLock = some k := by
  refine ⟨owes.holds k t found, fun lock => ?_⟩
  obtain ⟨u, found', holds⟩ := owes.holder k lock
  cases found.symm.trans found'
  exact holds

/-- A step inside a call that keeps the locks and what others have requested. -/
theorem Owes.inside {g g' : PeerNegotiation} {k : Nat} {t : NegotiationTask} {p point : NegotiationPoint}
    (owes : g.Owes)
    (found : g.tasks[k]? = some t) (at_p : t.point = p) (tasks : g'.tasks = g.tasks.set k { t with point })
    (lock : g'.subscriberLock = g.subscriberLock) (requested : g'.negotiationPending = g.negotiationPending)
    (flag : g.remoteAnswerPending = true → g'.remoteAnswerPending = true)
    (holds : (point ≠ .entering && point ≠ .returned) = (p ≠ .entering && p ≠ .returned))
    (inner : p ≠ .reading ∧ point ≠ .returned) (kind : point.answers = true → p.answers = true)
    (created : g.created ≤ g'.created) (made : (point.made = true → p.made = true) ∨ g.created < g'.created)
    (renews : (p.renews = true → point.renews = true) ∨ g.created < g'.created)
    (sees : (∀ (j : Nat) (u : NegotiationTask), j ≠ k → g.tasks[j]? = some u → u.point ≠ .postponing) ∨
      (p.sees = true → point.sees = true))
    (postpones : point ≠ .postponing ∨ g'.Seen) : g'.Owes := by
  subst at_p
  refine owes.settle ⟨found, tasks, ?_, fun j _ => by rw [lock], fun answers => owes.kind k t found (kind answers),
    fun b start => ?_, created, ?_, fun done => absurd done inner.2, fun j u other at_j postponing seen => ?_,
    fun waits => postpones.resolve_left fun other => other waits⟩
  · rw [lock, ← owes.holds_iff found, NegotiationTask.holdsSubscriber, NegotiationTask.holdsSubscriber, holds]
  · obtain ⟨le, before⟩ := owes.began k t b found start
    refine ⟨Nat.le_trans le created, fun done => ?_⟩
    rcases made with old | more
    · exact Nat.lt_of_lt_of_le (before (old done)) created
    · exact Nat.lt_of_le_of_lt le more
  · refine renews.symm.imp_right fun still promised => ?_
    refine promised.mono (requested ▸ id) (fun pending => Or.inl (flag pending)) (fun read => ?_)
      fun p at_p will => ?_
    · exact (answering_move found tasks lock read).resolve_left fun moved => inner.1 moved.1.symm
    · rcases answering_move found tasks lock at_p with ⟨rfl, moved⟩ | same
      · exact ⟨point, moved, still will⟩
      · exact ⟨p, same, will⟩
  · rcases sees with nobody | still
    · exact absurd postponing (nobody j u other at_j)
    · refine seen.mono (fun pending => Or.inl (flag pending)) fun p at_p will => ?_
      rcases answering_move found tasks lock at_p with ⟨rfl, moved⟩ | same
      · exact ⟨point, moved, still will⟩
      · exact ⟨p, same, will⟩

/-- No other task is about to leave a request while one holds the handler. -/
theorem Turns.nobody {g : PeerNegotiation} {phase : NegotiationPhase} {k : Nat} {t : NegotiationTask}
    (turns : g.Turns phase) (found : g.tasks[k]? = some t) (holds : t.point.holdsHandler = true) (j : Nat)
    (u : NegotiationTask) (other : j ≠ k) (at_j : g.tasks[j]? = some u) : u.point ≠ .postponing := by
  intro postponing
  exact other (turns.alone at_j found (by rw [postponing]; rfl) holds)

/-- A call that leaves gives back the subscriber lock when it holds it. -/
theorem Owes.leave_lock {g : PeerNegotiation} {k : Nat} {t : NegotiationTask} (owes : g.Owes)
    (found : g.tasks[k]? = some t) (holds : t.point.holdsHandler = true) :
    (g.leave k t).subscriberLock ≠ some k ∧
      (∀ j, j ≠ k → ((g.leave k t).subscriberLock = some j ↔ g.subscriberLock = some j)) ∧
      ((g.subscriberLock = some k ∧ g.answering = some t.point ∧ (g.leave k t).answering = none) ∨
        (g.leave k t).answering = g.answering) := by
  have inner : (t.point ≠ .entering && t.point ≠ .returned) = true := by
    revert holds
    cases t.point <;> simp [NegotiationPoint.holdsHandler]
  have mine := owes.holds_iff found
  simp only [NegotiationTask.holdsSubscriber, inner, Bool.and_true] at mine
  unfold leave
  cases answer : t.answer with
  | none =>
      have other : g.subscriberLock ≠ some k := fun lock => by simpa [answer] using mine.mpr lock
      exact ⟨other, fun j _ => Iff.rfl, Or.inr (answering_other found rfl rfl other)⟩
  | some o =>
      have lock := mine.mp (by rw [answer]; rfl)
      refine ⟨(Option.some_ne_none k).symm, fun j differ => ?_, Or.inl ⟨lock, answering_mine found lock, rfl⟩⟩
      rw [lock]
      exact iff_of_false (Option.some_ne_none j).symm fun same => differ (Option.some.inj same).symm

theorem Owes.postpone {g : PeerNegotiation} {phase : NegotiationPhase} {k : Nat} {t : NegotiationTask} (owes : g.Owes)
    (turns : g.Turns phase) (found : g.tasks[k]? = some t) (postponing : t.point = .postponing) :
    Owes { g.leave k t with negotiationPending := true } := by
  have holds : t.point.holdsHandler = true := by rw [postponing]; rfl
  obtain ⟨unlocked, others, moved⟩ := owes.leave_lock found holds
  have promised : Promised { g.leave k t with negotiationPending := true } := by
    rcases owes.postponing k t found postponing with pending | ⟨p, at_p, sees⟩
    · exact Or.inl ⟨rfl, Or.inl pending⟩
    · rcases moved with ⟨-, mine, -⟩ | same
      · cases at_p.symm.trans mine
        rw [postponing] at sees
        cases sees
      · have at_p' := same.trans at_p
        cases p with
        | reading => exact Or.inl ⟨rfl, Or.inr at_p'⟩
        | resetting => exact Or.inr ⟨_, at_p', rfl⟩
        | waiting => exact Or.inr ⟨_, at_p', rfl⟩
        | _ => cases sees
  refine owes.settle ⟨found, rfl, iff_of_false (by simp [NegotiationTask.holdsSubscriber]) unlocked, others, nofun,
    fun b start => ?_, Nat.le_refl _, Or.inr fun _ => promised, fun _ _ _ => Or.inr promised,
    fun j u other at_j waits => ?_, nofun⟩
  · exact ⟨(owes.began k t b found start).1, nofun⟩
  · exact absurd waits (turns.nobody found holds j u other at_j)

theorem Owes.finish {g : PeerNegotiation} {phase : NegotiationPhase} {k : Nat} {t : NegotiationTask} (owes : g.Owes)
    (turns : g.Turns phase) (found : g.tasks[k]? = some t) (sent : t.point = .sent) : (g.leave k t).Owes := by
  have holds : t.point.holdsHandler = true := by rw [sent]; rfl
  obtain ⟨unlocked, others, moved⟩ := owes.leave_lock found holds
  refine owes.settle ⟨found, rfl, iff_of_false (by simp [NegotiationTask.holdsSubscriber]) unlocked, others, nofun,
    fun b start => ?_, Nat.le_refl _, Or.inr fun promised => ?_, fun _ b start => ?_,
    fun j u other at_j waits => ?_, nofun⟩
  · exact ⟨(owes.began k t b found start).1, nofun⟩
  · have kept (p : NegotiationPoint) (at_p : g.answering = some p) (not_sent : p ≠ .sent) :
        (g.leave k t).answering = some p := by
      rcases moved with ⟨-, mine, -⟩ | same
      · cases at_p.symm.trans mine
        exact absurd sent not_sent
      · exact same.trans at_p
    refine promised.mono id (fun pending => Or.inl pending) (fun read => kept _ read nofun)
      fun p at_p will => ⟨p, kept p at_p ?_, will⟩
    rintro rfl
    cases will
  · exact Or.inl ((owes.began k t b found start).2 (by rw [sent]; rfl))
  · exact absurd waits (turns.nobody found holds j u other at_j)

theorem Owes.enter {g : PeerNegotiation} {k : Nat} {t : NegotiationTask} (owes : g.Owes)
    (found : g.tasks[k]? = some t) (entering : t.point = .entering) (free : g.subscriberLock = none) :
    Owes { g.moveTo k t .applying with subscriberLock := some k } := by
  obtain ⟨answers, unbegun⟩ := owes.kind k t found (by rw [entering]; rfl)
  have nowhere : g.answering = none := by simp [answering, free]
  refine owes.settle ⟨found, rfl, iff_of_true (by simp [NegotiationTask.holdsSubscriber, answers]) rfl,
    fun j other => ?_,
    fun _ => ⟨answers, unbegun⟩, fun b start => ?_, Nat.le_refl _, Or.inr fun promised => ?_, nofun,
    fun _ _ _ _ _ seen => ?_, nofun⟩
  · rw [free]
    exact iff_of_false (fun same => other (Option.some.inj same).symm) nofun
  · cases unbegun.symm.trans start
  · refine promised.mono id Or.inl (fun read => ?_) fun p at_p _ => ?_
    · cases nowhere.symm.trans read
    · cases nowhere.symm.trans at_p
  · refine seen.mono Or.inl fun p at_p _ => ?_
    cases nowhere.symm.trans at_p

/-- A task that handles an answer holds the subscriber lock. -/
theorem Owes.mine {g : PeerNegotiation} {k : Nat} {t : NegotiationTask} (owes : g.Owes) (found : g.tasks[k]? = some t)
    (answers : t.point.answers = true) (entered : t.point ≠ .entering) :
    g.subscriberLock = some k ∧ t.answer.isSome = true ∧ t.began = none ∧ g.answering = some t.point := by
  obtain ⟨answer, unbegun⟩ := owes.kind k t found answers
  have holds : t.holdsSubscriber = true := by
    have running : t.point ≠ .returned := by
      intro done
      rw [done] at answers
      cases answers
    simp [NegotiationTask.holdsSubscriber, answer, entered, running]
  have lock := owes.holds k t found holds
  exact ⟨lock, answer, unbegun, answering_mine found lock⟩

theorem Owes.clear {g : PeerNegotiation} {k : Nat} {t : NegotiationTask} (owes : g.Owes)
    (found : g.tasks[k]? = some t)
    (clearing : t.point = .clearing) : Owes { g.moveTo k t .reading with remoteAnswerPending := false } := by
  obtain ⟨lock, answer, unbegun, at_point⟩ := owes.mine found (by rw [clearing]; rfl) (by rw [clearing]; nofun)
  have reads : ({ g.moveTo k t .reading with
      remoteAnswerPending := false } : PeerNegotiation).answering = some .reading :=
    @answering_at g _ k t { t with point := .reading } found rfl lock
  refine owes.settle ⟨found, rfl, iff_of_true (by simp [NegotiationTask.holdsSubscriber, answer]) lock,
    fun _ _ => Iff.rfl,
    fun _ => ⟨answer, unbegun⟩, fun b start => ?_, Nat.le_refl _, Or.inr fun promised => ?_, nofun,
    fun _ _ _ _ _ _ => ?_, nofun⟩
  · cases unbegun.symm.trans start
  · refine promised.mono id (fun _ => Or.inr reads) (fun _ => reads) fun p at_p will => ?_
    cases at_p.symm.trans at_point
    rw [clearing] at will
    cases will
  · exact Or.inr ⟨_, reads, rfl⟩

theorem Owes.read_set {g : PeerNegotiation} {k : Nat} {t : NegotiationTask} (owes : g.Owes)
    (found : g.tasks[k]? = some t) (reading : t.point = .reading) : (g.moveTo k t .resetting).Owes := by
  obtain ⟨lock, answer, unbegun, -⟩ := owes.mine found (by rw [reading]; rfl) (by rw [reading]; nofun)
  have resets : (g.moveTo k t .resetting).answering = some .resetting :=
    @answering_at g _ k t { t with point := .resetting } found rfl lock
  refine owes.settle ⟨found, rfl, iff_of_true (by simp [NegotiationTask.holdsSubscriber, answer]) lock,
    fun _ _ => Iff.rfl,
    fun _ => ⟨answer, unbegun⟩, fun b start => ?_, Nat.le_refl _, Or.inr fun _ => Or.inr ⟨_, resets, rfl⟩, nofun,
    fun _ _ _ _ _ _ => Or.inr ⟨_, resets, rfl⟩, nofun⟩
  cases unbegun.symm.trans start

/-- A task that reads a clear flag ends; nothing was promised any more, and by the
condition nobody relies on it. -/
theorem Owes.read_clear {g : PeerNegotiation} {k : Nat} {t : NegotiationTask} (owes : g.Owes)
    (found : g.tasks[k]? = some t) (reading : t.point = .reading) (clear : g.negotiationPending = false)
    (unhurried : g.remoteAnswerPending = false → ∀ u ∈ g.tasks, u.point ≠ .postponing) :
    Owes { g.moveTo k t .returned with subscriberLock := none } := by
  obtain ⟨lock, answer, unbegun, at_point⟩ := owes.mine found (by rw [reading]; rfl) (by rw [reading]; nofun)
  refine owes.settle ⟨found, rfl, iff_of_false (by simp [NegotiationTask.holdsSubscriber]) nofun,
    fun j other => ?_, nofun,
    fun b start => ?_, Nat.le_refl _, Or.inr fun promised => ?_, fun _ b start => ?_,
    fun j u _ at_j postponing _ => ?_, nofun⟩
  · rw [lock]
    exact iff_of_false nofun fun same => other (Option.some.inj same).symm
  · cases unbegun.symm.trans start
  · rcases promised with ⟨requested, -⟩ | ⟨p, at_p, will⟩
    · rw [clear] at requested
      cases requested
    · cases at_p.symm.trans at_point
      rw [reading] at will
      cases will
  · cases unbegun.symm.trans start
  · cases flag : g.remoteAnswerPending with
    | true => exact Or.inl flag
    | false => exact absurd postponing (unhurried flag u (List.mem_of_getElem? at_j))

theorem Owes.reset {g : PeerNegotiation} {k : Nat} {t : NegotiationTask} (owes : g.Owes)
    (found : g.tasks[k]? = some t) (resetting : t.point = .resetting) :
    Owes { g.moveTo k { t with began := some g.created } .waiting with negotiationPending := false } := by
  obtain ⟨lock, answer, -, -⟩ := owes.mine found (by rw [resetting]; rfl) (by rw [resetting]; nofun)
  have waits : ({ g.moveTo k { t with began := some g.created } .waiting with
      negotiationPending := false } : PeerNegotiation).answering = some .waiting :=
    @answering_at g _ k t { t with began := some g.created, point := .waiting } found rfl lock
  refine owes.settle ⟨found, rfl, iff_of_true (by simp [NegotiationTask.holdsSubscriber, answer]) lock,
    fun _ _ => Iff.rfl, nofun, fun b start => ?_, Nat.le_refl _, Or.inr fun _ => Or.inr ⟨_, waits, rfl⟩, nofun,
    fun _ _ _ _ _ _ => Or.inr ⟨_, waits, rfl⟩, nofun⟩
  cases start
  exact ⟨Nat.le_refl _, nofun⟩

theorem resume_owes {g g' : PeerNegotiation} {phase : NegotiationPhase} {k : Nat} {t : NegotiationTask}
    (owes : g.Owes) (turns : g.Turns phase) (found : g.tasks[k]? = some t) (unhurried : g.Unhurried (.resume k))
    (h : g.resume k t = some g') : g'.Owes := by
  have alone := turns.nobody found
  cases point : t.point with
  | waiting =>
      simp only [resume, point] at h
      obtain ⟨free, taken⟩ := Option.ite_none_right_eq_some.mp h
      cases taken
      refine owes.inside found point rfl rfl rfl id (by decide) (by decide) (by decide) (Nat.le_refl _)
        (Or.inl (by decide)) (Or.inl (by decide)) (Or.inl fun j u _ at_j postponing => ?_) (Or.inl (by decide))
      have held := (turns.fits j u at_j).handler (by rw [postponing]; rfl)
      rw [free] at held
      cases held
  | checking =>
      simp only [resume, point, Option.some.injEq] at h
      subst h
      cases flag : g.remoteAnswerPending with
      | true =>
          exact owes.inside found point rfl rfl rfl id (by decide) (by decide) (by decide) (Nat.le_refl _)
            (Or.inl (by decide)) (Or.inl (by decide)) (Or.inl (alone (by rw [point]; rfl))) (Or.inr (Or.inl flag))
      | false =>
          exact owes.inside found point rfl rfl rfl id (by decide) (by decide) (by decide) (Nat.le_refl _)
            (Or.inl (by decide)) (Or.inl (by decide)) (Or.inl (alone (by rw [point]; rfl))) (Or.inl (by decide))
  | postponing =>
      simp only [resume, point, Option.some.injEq] at h
      exact h ▸ owes.postpone turns found point
  | creating =>
      simp only [resume, point, Option.some.injEq] at h
      subst h
      exact owes.inside found point rfl rfl rfl id (by decide) (by decide) (by decide) (Nat.le_succ _)
        (Or.inr (Nat.lt_succ_self _)) (Or.inr (Nat.lt_succ_self _)) (Or.inl (alone (by rw [point]; rfl)))
        (Or.inl (by decide))
  | describing =>
      simp only [resume, point, Option.some.injEq] at h
      subst h
      exact owes.inside found point rfl rfl rfl id (by decide) (by decide) (by decide) (Nat.le_refl _)
        (Or.inl (by decide)) (Or.inl (by decide)) (Or.inl (alone (by rw [point]; rfl))) (Or.inl (by decide))
  | arming =>
      simp only [resume, point, Option.some.injEq] at h
      subst h
      exact owes.inside found point rfl rfl rfl (fun _ => rfl) (by decide) (by decide) (by decide) (Nat.le_refl _)
        (Or.inl (by decide)) (Or.inl (by decide)) (Or.inl (alone (by rw [point]; rfl))) (Or.inl (by decide))
  | sending =>
      simp only [resume, point, Option.some.injEq] at h
      subst h
      exact owes.inside found point rfl rfl rfl id (by decide) (by decide) (by decide) (Nat.le_refl _)
        (Or.inl (by decide)) (Or.inl (by decide)) (Or.inl (alone (by rw [point]; rfl))) (Or.inl (by decide))
  | sent =>
      simp only [resume, point, Option.some.injEq] at h
      exact h ▸ owes.finish turns found point
  | entering =>
      simp only [resume, point] at h
      obtain ⟨free, taken⟩ := Option.ite_none_right_eq_some.mp h
      cases taken
      exact owes.enter found point free
  | applying =>
      simp only [resume, point] at h
      obtain ⟨offer, -, rfl⟩ := Option.map_eq_some_iff.mp h
      exact owes.inside found point rfl rfl rfl id (by decide) (by decide) (by decide) (Nat.le_refl _)
        (Or.inl (by decide)) (Or.inl (by decide)) (Or.inr (by decide)) (Or.inl (by decide))
  | draining =>
      simp only [resume, point, Option.some.injEq] at h
      subst h
      exact owes.inside found point rfl rfl rfl id (by decide) (by decide) (by decide) (Nat.le_refl _)
        (Or.inl (by decide)) (Or.inl (by decide)) (Or.inr (by decide)) (Or.inl (by decide))
  | clearing =>
      simp only [resume, point, Option.some.injEq] at h
      exact h ▸ owes.clear found point
  | reading =>
      simp only [resume, point] at h
      split at h
      · cases h
        exact owes.read_set found point
      next clear =>
          cases h
          have clear' : g.negotiationPending = false := Bool.not_eq_true _ ▸ clear
          exact owes.read_clear found point clear' (unhurried t found point clear')
  | resetting =>
      simp only [resume, point, Option.some.injEq] at h
      exact h ▸ owes.reset found point
  | returned => simp only [resume, point, reduceCtorEq] at h

/-- A call that starts changes nothing for the others. -/
theorem Owes.start {g : PeerNegotiation} (owes : g.Owes) (t : NegotiationTask) (waits : t.holdsSubscriber = false)
    (kind : t.point.answers = true → t.answer.isSome = true ∧ t.began = none)
    (began : ∀ b, t.began = some b → b ≤ g.created ∧ t.point.made = false)
    (fresh : t.point ≠ .returned ∧ t.point ≠ .postponing) (answered : List Nat) :
    Owes { g with tasks := g.tasks ++ [t], answered } := by
  have same : ({ g with tasks := g.tasks ++ [t], answered } : PeerNegotiation).answering = g.answering := by
    unfold answering
    cases lock : g.subscriberLock with
    | none => rfl
    | some m =>
        obtain ⟨u, found, -⟩ := owes.holder m lock
        simp [lookup_append_old found, found]
  refine ⟨fun m lock => ?_, fun k u found holds => ?_, fun k u found answers => ?_, fun k u b found start => ?_,
    fun k u b found done start => ?_, fun k u found postponing => ?_⟩
  · obtain ⟨u, found, holds⟩ := owes.holder m lock
    exact ⟨u, lookup_append_old found, holds⟩
  · rcases lookup_append found with old | ⟨-, rfl⟩
    · exact owes.holds k u old holds
    · rw [waits] at holds
      cases holds
  · rcases lookup_append found with old | ⟨-, rfl⟩
    · exact owes.kind k u old answers
    · exact kind answers
  · rcases lookup_append found with old | ⟨-, rfl⟩
    · exact owes.began k u b old start
    · obtain ⟨le, unmade⟩ := began b start
      refine ⟨le, fun made => ?_⟩
      rw [unmade] at made
      cases made
  · rcases lookup_append found with old | ⟨-, rfl⟩
    · refine (owes.returned k u b old done start).imp_right fun promised => ?_
      unfold Promised at promised ⊢
      rw [same]
      exact promised
    · exact absurd done fresh.1
  · rcases lookup_append found with old | ⟨-, rfl⟩
    · have seen := owes.postponing k u old postponing
      unfold Seen at seen ⊢
      rw [same]
      exact seen
    · exact absurd postponing fresh.2

theorem step_owes {g g' : PeerNegotiation} {s : NegotiationStep} {phase : NegotiationPhase} (owes : g.Owes)
    (turns : g.Turns phase) (unhurried : g.Unhurried s) (h : g.step s = some g') : g'.Owes := by
  cases s with
  | negotiate =>
      cases h
      refine owes.start { began := some g.created, point := .waiting } rfl nofun (fun b start => ?_)
        ⟨nofun, nofun⟩ g.answered
      cases start
      exact ⟨Nat.le_refl _, rfl⟩
  | answer offer =>
      obtain ⟨-, started⟩ := Option.ite_none_right_eq_some.mp h
      cases started
      exact owes.start { answer := some offer, point := .entering } rfl (fun _ => ⟨rfl, rfl⟩) nofun ⟨nofun, nofun⟩ _
  | resume k =>
      obtain ⟨t, found, resumed⟩ := Option.bind_eq_some_iff.mp h
      exact resume_owes owes turns found unhurried resumed

theorem start_owes : Owes {} where
  holder _ lock := by cases lock
  holds _ _ found := by cases found
  kind _ _ found := by cases found
  began _ _ _ found := by cases found
  returned _ _ _ found := by cases found
  postponing _ _ found := by cases found

/-- In a run that meets the condition no request is lost. -/
theorem run_kept {steps : List NegotiationStep} {g : PeerNegotiation} (reached : run step {} steps = some g)
    (unhurried : Guarded step Unhurried {} steps) : g.Kept := by
  have inv : g.Owes ∧ ∃ phase, g.Turns phase := by
    refine run_invariant (fun g => Owes g ∧ ∃ phase, Turns g phase) ?_ ⟨?_, .idle, start_turns⟩ unhurried reached
    · rintro g s g' ⟨owes, phase, turns⟩ met moved
      exact ⟨step_owes owes turns met moved, step_turns ⟨phase, turns⟩ moved⟩
    · exact start_owes
  obtain ⟨owes, phase, turns⟩ := inv
  exact owes.kept turns

theorem run_kept_renegotiated :
    ∃ g, run step {} renegotiateSteps = some g ∧ g.created = 2 ∧ g.Kept := by
  have ends : ∃ g, run step {} renegotiateSteps = some g ∧ g.created = 2 := ⟨_, rfl, rfl⟩
  obtain ⟨g, reached, created⟩ := ends
  exact ⟨g, reached, created, run_kept reached (by decide)⟩

/-- The second call finds the first flag set; the answer is handled before it sets the other. -/
def lostSteps : List NegotiationStep :=
  [.negotiate, .resume 0, .resume 0, .resume 0, .resume 0, .resume 0, .resume 0, .resume 0,
    .negotiate, .resume 1, .resume 1, .answer 0, .resume 2, .resume 2, .resume 2, .resume 2, .resume 2, .resume 1]

/-- All calls have returned, no offer is out, and none was created for the second call. -/
theorem request_lost :
    ∃ g, run step {} lostSteps = some g ∧
      g.tasks = [⟨none, some 0, .returned⟩, ⟨none, some 1, .returned⟩, ⟨some 0, none, .returned⟩] ∧
      g.created = 1 ∧ g.remoteAnswerPending = false ∧ g.negotiationPending = true ∧ ¬ g.Kept := by
  have ends : ∃ g, run step {} lostSteps = some g ∧
      g.tasks = [⟨none, some 0, .returned⟩, ⟨none, some 1, .returned⟩, ⟨some 0, none, .returned⟩] ∧
      g.created = 1 ∧ g.remoteAnswerPending = false ∧ g.negotiationPending = true ∧ g.sent = 1 ∧ g.applied = [0] :=
    ⟨_, rfl, rfl, rfl, rfl, rfl, rfl, rfl⟩
  obtain ⟨g, reached, tasks, created, flag, requested, sent, applied⟩ := ends
  refine ⟨g, reached, tasks, created, flag, requested, fun kept => ?_⟩
  have quiet : ∀ t ∈ g.tasks, t.point = .returned := by
    rw [tasks]
    decide
  rcases kept quiet ⟨none, some 1, .returned⟩ (by rw [tasks]; decide) 1 rfl with less | ⟨⟨o, less, unapplied⟩, -⟩
  · rw [created] at less
    exact Nat.lt_irrefl _ less
  · rw [sent] at less
    rw [applied] at unapplied
    exact unapplied (by simp; omega)

end PeerNegotiation

end Rsfu
