import Mathlib.Data.List.Basic

/-! A task with locks that are not reentrant. The guard of a lock is held for a part
of the task, its scope; inside the scope the task that asks for the lock again waits
for itself. Locks held by other tasks are granted in time and do not appear. -/
namespace HeldLocks

inductive Outcome (L σ α : Type) where
  | done (s : σ) (a : α)
  | panics
  | waits (lock : L)

/-- A part of a task, run with the locks whose guards are alive around it. -/
def Locked (L σ α : Type) := List L → σ → Outcome L σ α

variable {L σ α β : Type} {held : List L} {s : σ}

namespace Locked

def andThen (t : Locked L σ α) (next : α → Locked L σ β) : Locked L σ β := fun held s =>
  match t held s with
  | .done s a => next a held s
  | .panics => .panics
  | .waits lock => .waits lock

instance : Monad (Locked L σ) where
  pure a := fun _ s => .done s a
  bind := andThen

def get : Locked L σ σ := fun _ s => .done s s

def modify (f : σ → σ) : Locked L σ Unit := fun _ s => .done (f s) ()

/-- The state of a step that panics on `none`. -/
def attempt (f : σ → Option σ) : Locked L σ Unit := fun _ s =>
  match f s with
  | some s => .done s ()
  | none => .panics

/-- `body` under the guard of `lock`. -/
def guarded [DecidableEq L] (lock : L) (body : Locked L σ α) : Locked L σ α := fun held s =>
  if lock ∈ held then .waits lock else body (lock :: held) s

def forEach : List β → (β → Locked L σ Unit) → Locked L σ Unit
  | [], _ => pure ()
  | b :: rest, body => body b >>= fun _ => forEach rest body

@[simp] theorem pure_run (a : α) : (pure a : Locked L σ α) held s = .done s a := rfl

theorem bind_run (t : Locked L σ α) (next : α → Locked L σ β) :
    (t >>= next) held s =
      match t held s with
      | .done s a => next a held s
      | .panics => .panics
      | .waits lock => .waits lock := rfl

@[simp] theorem get_bind (next : σ → Locked L σ β) : (get >>= next) held s = next s held s := rfl

@[simp] theorem modify_bind (f : σ → σ) (next : Unit → Locked L σ β) :
    (modify f >>= next) held s = next () held (f s) := rfl

section Guards
variable [DecidableEq L] {lock : L} {body : Locked L σ α}

theorem guarded_held (mine : lock ∈ held) : guarded lock body held s = .waits lock := if_pos mine

theorem guarded_free (free : lock ∉ held) : guarded lock body held s = body (lock :: held) s := if_neg free

theorem guarded_bind_held (mine : lock ∈ held) (next : α → Locked L σ β) :
    (guarded lock body >>= next) held s = .waits lock := by
  rw [bind_run, guarded_held mine]

end Guards

end Locked

end HeldLocks
