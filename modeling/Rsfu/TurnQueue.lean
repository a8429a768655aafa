import Mathlib.Data.List.Infix

/-! A lock that is granted in the order it was asked for. Users ask again as often as they like,
and nobody has a turn before those who asked earlier have had theirs. -/
namespace TurnQueue

/-- The users in the order of their requests, the holder first, and those who have had their turn. -/
structure Turns (α : Type*) where
  queue : List α := []
  served : List α := []
  deriving DecidableEq

variable {α : Type*} {t t' : Turns α} {a b : α}

def Turns.ask (t : Turns α) (a : α) : Turns α := { t with queue := t.queue ++ [a] }

/-- The holder lets go. -/
def Turns.release (t : Turns α) : Turns α :=
  match t.queue with
  | [] => t
  | a :: rest => { queue := rest, served := t.served ++ [a] }

/-- The first user stands before the second. -/
def Before (queue : List α) (a b : α) : Prop := ∃ front back, queue = front ++ back ∧ a ∈ front ∧ b ∈ back

/-- The turns since then were those of the queue and of what was asked for later, in this order. -/
def Follows (t t' : Turns α) : Prop :=
  ∃ turns later, t'.served = t.served ++ turns ∧ turns ++ t'.queue = t.queue ++ later

theorem Follows.refl (t : Turns α) : Follows t t := ⟨[], [], (List.append_nil _).symm, (List.append_nil _).symm⟩

theorem Follows.ask (follows : Follows t t') (a : α) : Follows t (t'.ask a) := by
  obtain ⟨turns, later, served, order⟩ := follows
  refine ⟨turns, later ++ [a], served, ?_⟩
  rw [Turns.ask, ← List.append_assoc, order, List.append_assoc]

theorem Follows.release (follows : Follows t t') : Follows t t'.release := by
  obtain ⟨turns, later, served, order⟩ := follows
  unfold Turns.release
  split
  · exact ⟨turns, later, served, order⟩
  next a rest queue =>
      rw [queue] at order
      refine ⟨turns ++ [a], later, ?_, ?_⟩
      · rw [served, List.append_assoc]
      · rw [List.append_assoc]
        exact order

/-- A user is not gone before the one in front of it has had a turn. -/
theorem Follows.overtakes (follows : Follows t t') (before : Before t.queue a b) (gone : b ∉ t'.queue) :
    ∃ turns, t'.served = t.served ++ turns ∧ a ∈ turns := by
  obtain ⟨turns, later, served, order⟩ := follows
  obtain ⟨front, back, queue, ahead, behind⟩ := before
  refine ⟨turns, served, ?_⟩
  rw [queue, List.append_assoc] at order
  rcases List.append_eq_append_iff.mp order with ⟨more, rfl, rest⟩ | ⟨more, rfl, -⟩
  · refine absurd ?_ gone
    rw [rest]
    exact List.mem_append_right more (List.mem_append_left later behind)
  · exact List.mem_append_left more ahead

/-- The turns before a user's own are those of the users in front of it. -/
theorem Follows.ahead (follows : Follows t t') {front back : List α} (queue : t.queue = front ++ a :: back) :
    ∃ turns, t'.served = t.served ++ turns ∧ (turns <+: front ∨ a ∈ turns) := by
  obtain ⟨turns, later, served, order⟩ := follows
  refine ⟨turns, served, ?_⟩
  rw [queue, List.append_assoc] at order
  rcases List.append_eq_append_iff.mp order with ⟨more, rfl, -⟩ | ⟨more, rfl, rest⟩
  · exact Or.inl ⟨more, rfl⟩
  · cases more with
    | nil => exact Or.inl ⟨[], by simp⟩
    | cons first more =>
        obtain ⟨rfl, -⟩ := List.cons.inj rest
        exact Or.inr (List.mem_append_right front List.mem_cons_self)

end TurnQueue
