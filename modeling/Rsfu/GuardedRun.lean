import Mathlib.Data.List.Basic

/-! Runs of a partial step function. A step that answers `none` has no next
state, so a run over a list of inputs either reaches a state or stops. -/
namespace GuardedRun

variable {σ α : Type*}

def run (step : σ → α → Option σ) : σ → List α → Option σ
  | s, [] => some s
  | s, a :: rest => (step s a).bind fun s' => run step s' rest

/-- Every step the run takes meets `guard` in the state before it. -/
def Guarded (step : σ → α → Option σ) (guard : σ → α → Prop) : σ → List α → Prop
  | _, [] => True
  | s, a :: rest => guard s a ∧ ∀ s', step s a = some s' → Guarded step guard s' rest

instance Guarded.decide (step : σ → α → Option σ) (guard : σ → α → Prop) [∀ s a, Decidable (guard s a)] :
    ∀ (s : σ) (inputs : List α), Decidable (Guarded step guard s inputs)
  | _, [] => isTrue trivial
  | s, a :: rest =>
      match h : step s a with
      | none => decidable_of_iff (guard s a) ⟨fun met => ⟨met, fun s' hs => by rw [h] at hs; cases hs⟩, And.left⟩
      | some s' =>
          have := Guarded.decide step guard s' rest
          decidable_of_iff (guard s a ∧ Guarded step guard s' rest)
            ⟨fun met => ⟨met.1, fun t ht => by rw [h] at ht; cases ht; exact met.2⟩,
              fun met => ⟨met.1, met.2 s' h⟩⟩

@[simp] theorem run_nil (step : σ → α → Option σ) (s : σ) : run step s [] = some s := rfl

theorem run_cons_eq_some {step : σ → α → Option σ} {s t : σ} {a : α} {rest : List α} :
    run step s (a :: rest) = some t ↔ ∃ s', step s a = some s' ∧ run step s' rest = some t := by
  simp only [run, Option.bind_eq_some_iff]

theorem run_append {step : σ → α → Option σ} {s : σ} (left right : List α) :
    run step s (left ++ right) = (run step s left).bind fun s' => run step s' right := by
  induction left generalizing s with
  | nil => rfl
  | cons a rest ih =>
      simp only [List.cons_append, run, Option.bind_assoc]
      congr 1
      funext s'
      exact ih

theorem run_snoc_eq_some {step : σ → α → Option σ} {s t : σ} {rest : List α} {a : α} :
    run step s (rest ++ [a]) = some t ↔ ∃ s', run step s rest = some s' ∧ step s' a = some t := by
  simp only [run_append, Option.bind_eq_some_iff, run_cons_eq_some, run_nil, Option.some.injEq,
    exists_eq_right]

theorem Guarded.last {step : σ → α → Option σ} {guard : σ → α → Prop} {s t : σ} {inputs : List α} {a : α}
    (guarded : Guarded step guard s (inputs ++ [a])) (reached : run step s inputs = some t) : guard t a := by
  induction inputs generalizing s with
  | nil =>
      cases reached
      exact guarded.1
  | cons first rest ih =>
      obtain ⟨next, one, later⟩ := run_cons_eq_some.mp reached
      exact ih (guarded.2 next one) later

/-- What one guarded step keeps, a guarded run keeps. -/
theorem run_invariant {step : σ → α → Option σ} {guard : σ → α → Prop} (Inv : σ → Prop)
    (keep : ∀ s a s', Inv s → guard s a → step s a = some s' → Inv s')
    {s t : σ} {inputs : List α} (start : Inv s) (guarded : Guarded step guard s inputs)
    (reached : run step s inputs = some t) : Inv t := by
  induction inputs generalizing s with
  | nil =>
      cases reached
      exact start
  | cons a rest ih =>
      obtain ⟨next, first, later⟩ := run_cons_eq_some.mp reached
      exact ih (keep s a next start guarded.1 first) (guarded.2 next first) later

/-- What the guard gives at each step of a run, by the invariant it keeps. -/
theorem guarded_imp {step : σ → α → Option σ} {guard holds : σ → α → Prop} (Inv : σ → Prop)
    (gives : ∀ s a, Inv s → guard s a → holds s a)
    (keep : ∀ s a s', Inv s → guard s a → step s a = some s' → Inv s') {s : σ} {inputs : List α} (start : Inv s)
    (guarded : Guarded step guard s inputs) : Guarded step holds s inputs := by
  induction inputs generalizing s with
  | nil => trivial
  | cons a rest ih =>
      refine ⟨gives s a start guarded.1, fun s' first => ?_⟩
      exact ih (keep s a s' start guarded.1 first) (guarded.2 s' first)

/-- Two guards that agree wherever the invariant of one of them holds have the same runs. -/
theorem guarded_iff {step : σ → α → Option σ} {holds guard : σ → α → Prop} (Inv : σ → Prop)
    (exact : ∀ s a, Inv s → (holds s a ↔ guard s a))
    (keep : ∀ s a s', Inv s → guard s a → step s a = some s' → Inv s') {s : σ} {inputs : List α} (start : Inv s) :
    Guarded step holds s inputs ↔ Guarded step guard s inputs := by
  induction inputs generalizing s with
  | nil => exact Iff.rfl
  | cons a rest ih =>
      unfold Guarded
      rw [exact s a start]
      refine and_congr_right fun met => forall_congr' fun s' => forall_congr' fun first => ?_
      exact ih (keep s a s' start met first)

/-- A property of the states after each step is one of every state a part of the run reaches. -/
theorem guarded_reaches_iff {step : σ → α → Option σ} (P : σ → Prop) {s : σ} {inputs : List α} (start : P s) :
    Guarded step (fun s a => ∀ s', step s a = some s' → P s') s inputs ↔
      ∀ before, before <+: inputs → ∀ t, run step s before = some t → P t := by
  induction inputs generalizing s with
  | nil =>
      constructor
      · intro _ before first t reached
        rw [List.prefix_nil.mp first] at reached
        cases reached
        exact start
      · intro _
        trivial
  | cons a rest ih =>
      constructor
      · intro holds before first t reached
        cases before with
        | nil =>
            cases reached
            exact start
        | cons b before =>
            obtain ⟨rfl, part⟩ := List.cons_prefix_cons.mp first
            obtain ⟨next, one, later⟩ := run_cons_eq_some.mp reached
            exact (ih (holds.1 next one)).mp (holds.2 next one) before part t later
      · intro reaches
        have one (next : σ) (h : step s a = some next) : P next :=
          reaches [a] ⟨rest, rfl⟩ next (run_cons_eq_some.mpr ⟨next, h, rfl⟩)
        refine ⟨one, fun next h => (ih (one next h)).mpr ?_⟩
        intro before first t reached
        exact reaches (a :: before) (List.cons_prefix_cons.mpr ⟨rfl, first⟩) t
          (run_cons_eq_some.mpr ⟨next, h, reached⟩)

/-- A run goes through when each of its inputs is ready at the start and no step changes what is ready. -/
theorem run_isSome_iff {step : σ → α → Option σ} (ready : σ → α → Prop)
    (exact : ∀ s a, (step s a).isSome = true ↔ ready s a)
    (keep : ∀ s a s' b, step s a = some s' → (ready s' b ↔ ready s b)) {s : σ} {inputs : List α} :
    (run step s inputs).isSome = true ↔ ∀ a ∈ inputs, ready s a := by
  induction inputs generalizing s with
  | nil => exact ⟨fun _ a mem => absurd mem List.not_mem_nil, fun _ => rfl⟩
  | cons a rest ih =>
      rw [List.forall_mem_cons, ← exact s a]
      unfold run
      cases first : step s a with
      | none => exact ⟨fun none => absurd none Bool.false_ne_true, fun both => absurd both.1 Bool.false_ne_true⟩
      | some s' =>
          rw [Option.bind_some, ih]
          refine ⟨fun later => ⟨rfl, fun b mem => (keep s a s' b first).mp (later b mem)⟩, fun both b mem => ?_⟩
          exact (keep s a s' b first).mpr (both.2 b mem)

/-- What every step keeps, a run keeps. -/
theorem run_preserves {step : σ → α → Option σ} (Inv : σ → Prop)
    (keep : ∀ s a s', Inv s → step s a = some s' → Inv s') {s t : σ} {inputs : List α} (start : Inv s)
    (reached : run step s inputs = some t) : Inv t := by
  induction inputs generalizing s with
  | nil =>
      cases reached
      exact start
  | cons a rest ih =>
      obtain ⟨next, first, later⟩ := run_cons_eq_some.mp reached
      exact ih (keep s a next start first) later

end GuardedRun
