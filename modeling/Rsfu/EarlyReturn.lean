import Mathlib.Data.List.Basic

/-! Computations on a state that may return early with an error. The state is what had
been done by then; nothing is taken back. -/
namespace EarlyReturn

structure Outcome (σ ε : Type*) where
  state : σ
  error : Option ε := none

variable {σ ε α : Type*}

namespace Outcome

def andThen (r : Outcome σ ε) (f : σ → Outcome σ ε) : Outcome σ ε :=
  match r.error with
  | none => f r.state
  | some _ => r

theorem andThen_error_iff (r : Outcome σ ε) (f : σ → Outcome σ ε) :
    (r.andThen f).error = none ↔ r.error = none ∧ (f r.state).error = none := by
  unfold andThen
  cases failed : r.error with
  | none => exact (and_iff_right rfl).symm
  | some e => exact iff_of_false (fun clear => nomatch failed.symm.trans clear) fun both => nomatch both.1

theorem andThen_keeps {Inv : σ → Prop} {r : Outcome σ ε} {f : σ → Outcome σ ε} (before : Inv r.state)
    (keeps : ∀ s, Inv s → Inv (f s).state) : Inv (r.andThen f).state := by
  unfold andThen
  cases r.error with
  | none => exact keeps r.state before
  | some e => exact before

end Outcome

/-- `f` on a condition. -/
def whenever (c : Bool) (f : σ → Outcome σ ε) (s : σ) : Outcome σ ε := if c then f s else { state := s }

/-- `f` on each element, with its position, up to the first error. -/
def each (f : Nat → α → σ → Outcome σ ε) : Nat → List α → σ → Outcome σ ε
  | _, [], s => { state := s }
  | i, a :: rest, s => (f i a s).andThen (each f (i + 1) rest)

theorem whenever_error_iff (c : Bool) (f : σ → Outcome σ ε) (s : σ) :
    (whenever c f s).error = none ↔ (c = true → (f s).error = none) := by
  unfold whenever
  cases c with
  | true => exact ⟨fun clear _ => clear, fun clear => clear rfl⟩
  | false => exact iff_of_true rfl nofun

theorem whenever_keeps {Inv : σ → Prop} {c : Bool} {f : σ → Outcome σ ε} {s : σ} (before : Inv s)
    (keeps : Inv s → Inv (f s).state) : Inv (whenever c f s).state := by
  unfold whenever
  cases c with
  | true => exact keeps before
  | false => exact before

theorem each_keeps {Inv : σ → Prop} {f : Nat → α → σ → Outcome σ ε}
    (keeps : ∀ i a s, Inv s → Inv (f i a s).state) (l : List α) {i : Nat} {s : σ} (before : Inv s) :
    Inv (each f i l s).state := by
  induction l generalizing i s with
  | nil => exact before
  | cons a rest ih => exact Outcome.andThen_keeps (keeps i a s before) fun _ held => ih held

/-- A loop whose turns go well under a condition of their own goes well when all of them do. -/
theorem each_error_iff (Inv : σ → Prop) (ok : Nat → α → Prop) {f : Nat → α → σ → Outcome σ ε}
    (keeps : ∀ i a s, Inv s → Inv (f i a s).state) (exact : ∀ i a s, Inv s → ((f i a s).error = none ↔ ok i a))
    (l : List α) {i : Nat} {s : σ} (before : Inv s) :
    (each f i l s).error = none ↔ ∀ j a, l[j]? = some a → ok (i + j) a := by
  induction l generalizing i s with
  | nil => exact iff_of_true rfl nofun
  | cons a rest ih =>
      rw [each, Outcome.andThen_error_iff, exact i a s before, ih (keeps i a s before)]
      constructor
      · rintro ⟨first, later⟩ j b found
        cases j with
        | zero =>
            cases found
            exact first
        | succ j => exact Nat.add_right_comm i j 1 ▸ later j b found
      · intro all
        refine ⟨all 0 a rfl, fun j b found => ?_⟩
        exact Nat.add_right_comm i j 1 ▸ all (j + 1) b found

end EarlyReturn
