import Rsfu.RingSlots
import Mathlib.Data.List.Basic

/-! Integer arithmetic compiled with overflow checks: an operation whose result is
outside the range of its type ends the computation. -/

inductive Checked (α : Type) where
  | value (a : α)
  | panics
  | overflows

namespace Checked

variable {α β : Type} {c : Checked α} {f : α → Checked β} {a : α}

def andThen (c : Checked α) (f : α → Checked β) : Checked β :=
  match c with
  | .value a => f a
  | .panics => .panics
  | .overflows => .overflows

instance : Monad Checked where
  pure := .value
  bind := andThen

def ofOption : Option α → Checked α
  | some a => .value a
  | none => .panics

def toOption : Checked α → Option α
  | .value a => some a
  | _ => none

@[simp] theorem pure_eq (a : α) : (pure a : Checked α) = .value a := rfl

@[simp] theorem value_bind (a : α) (f : α → Checked β) : (.value a >>= f) = f a := rfl

@[simp] theorem overflows_bind (f : α → Checked β) : (.overflows >>= f) = .overflows := rfl

@[simp] theorem toOption_ofOption (o : Option α) : (ofOption o).toOption = o := by
  cases o with
  | none => rfl
  | some a => rfl

theorem ofOption_ne_overflows (o : Option α) : ofOption o ≠ .overflows := by
  cases o with
  | none => exact nofun
  | some a => exact nofun

/-- The result `a`, if it is the exact one. -/
def exactly (inRange : Prop) [Decidable inRange] (a : α) : Checked α := if inRange then .value a else .overflows

theorem exactly_value {p : Prop} [Decidable p] (inRange : p) : exactly p a = .value a := if_pos inRange

theorem exactly_overflows {p : Prop} [Decidable p] (outside : ¬ p) : exactly p a = .overflows := if_neg outside

def add8 (a b : UInt8) : Checked UInt8 := exactly (a.toNat + b.toNat < UInt8.size) (a + b)

def sub8 (a b : UInt8) : Checked UInt8 := exactly (b ≤ a) (a - b)

def add16 (a b : UInt16) : Checked UInt16 := exactly (a.toNat + b.toNat < UInt16.size) (a + b)

def sub16 (a b : UInt16) : Checked UInt16 := exactly (b ≤ a) (a - b)

def shl16 (a b : UInt16) : Checked UInt16 := exactly (b < 16) (a <<< b)

def add32 (a b : UInt32) : Checked UInt32 := exactly (a.toNat + b.toNat < UInt32.size) (a + b)

def sub32 (a b : UInt32) : Checked UInt32 := exactly (b ≤ a) (a - b)

def mul32 (a b : UInt32) : Checked UInt32 := exactly (a.toNat * b.toNat < UInt32.size) (a * b)

def add64 (a b : UInt64) : Checked UInt64 := exactly (a.toNat + b.toNat < UInt64.size) (a + b)

def sub64 (a b : UInt64) : Checked UInt64 := exactly (b ≤ a) (a - b)

def mul64 (a b : UInt64) : Checked UInt64 := exactly (a.toNat * b.toNat < UInt64.size) (a * b)

/-- A shift that moves no bit out; what is checked of a shift is only its distance. -/
def scale64 (a b : UInt64) : Checked UInt64 := exactly (a.toNat * 2 ^ b.toNat < UInt64.size) (a <<< b)

/-- A cast that keeps the number; the language cuts it off instead. -/
def cast64 (n : Nat) : Checked UInt64 := exactly (n < UInt64.size) (UInt64.ofNat n)

/-- A result of type `i32`. -/
def int32 (n : Int) : Checked Int := exactly (-2147483648 ≤ n ∧ n < 2147483648) n

/-- A result of type `i64`. -/
def int64 (n : Int) : Checked Int := exactly (-9223372036854775808 ≤ n ∧ n < 9223372036854775808) n

theorem int32_value {n : Int} (low : -2147483648 ≤ n) (high : n < 2147483648) : int32 n = .value n :=
  exactly_value ⟨low, high⟩

/-- The checks of `n` steps forward in a ring, counted in an `i32`. -/
def bumps (limit : Int) : Nat → Nat → Checked Unit
  | 0, _ => pure ()
  | n + 1, step => do
      let _ ← int32 (step + 1)
      bumps limit n (RingSlots.bump limit step)

theorem bumps_value {limit : Int} {step : Nat} (bound : limit < 2147483648) (small : step < 2147483647) (n : Nat) :
    bumps limit n step = .value () := by
  induction n generalizing step with
  | zero => rfl
  | succ n ih =>
      have next : RingSlots.bump limit step < 2147483647 := by
        unfold RingSlots.bump
        split <;> omega
      rw [bumps, int32_value (by omega) (by omega), value_bind, ih next]

/-- The checks of a loop over a list, up to its first overflow. -/
def each (f : β → Checked Unit) : List β → Checked Unit
  | [] => pure ()
  | b :: rest => do
      f b
      each f rest

/-- The checks pass under `p`, and one of them overflows without it. -/
structure Needs (c : Checked Unit) (p : Prop) : Prop where
  passes : p → c = .value ()
  overflows : ¬ p → c = .overflows

section Needs
variable {c d : Checked Unit} {p q : Prop}

theorem needs_nothing (met : p) : Needs (pure ()) p := ⟨fun _ => rfl, fun unmet => absurd met unmet⟩

theorem needs_pure : Needs (pure ()) True := needs_nothing trivial

theorem Needs.congr (needs : c.Needs p) (same : p ↔ q) : c.Needs q :=
  ⟨fun met => needs.passes (same.mpr met), fun unmet => needs.overflows fun met => unmet (same.mp met)⟩

theorem Needs.bind (first : c.Needs p) (next : p → d.Needs q) : (c >>= fun _ => d).Needs (p ∧ q) := by
  by_cases met : p
  · rw [first.passes met, value_bind]
    exact (next met).congr (and_iff_right met).symm
  · rw [first.overflows met, overflows_bind]
    exact ⟨fun both => absurd both.1 met, fun _ => rfl⟩

theorem needs_exactly {f : α → Checked Unit} [Decidable p] (next : p → (f a).Needs q) :
    (exactly p a >>= f).Needs (p ∧ q) := by
  by_cases met : p
  · rw [exactly_value met, value_bind]
    exact (next met).congr (and_iff_right met).symm
  · rw [exactly_overflows met, overflows_bind]
    exact ⟨fun both => absurd both.1 met, fun _ => rfl⟩

/-- Checks that run on a condition. -/
theorem needs_when {r : Prop} [Decidable r] (next : r → c.Needs p) : (if r then c else pure ()).Needs (r → p) := by
  by_cases met : r
  · rw [if_pos met]
    exact (next met).congr ⟨fun holds _ => holds, fun holds => holds met⟩
  · rw [if_neg met]
    exact needs_nothing fun also => absurd also met

theorem needs_unless {r : Prop} [Decidable r] (next : ¬ r → c.Needs p) :
    (if r then pure () else c).Needs (¬ r → p) := by
  by_cases met : r
  · rw [if_pos met]
    exact needs_nothing fun unmet => absurd met unmet
  · rw [if_neg met]
    exact (next met).congr ⟨fun holds _ => holds, fun holds => holds met⟩

/-- Checks on what an option holds, if anything. -/
theorem needs_found {o : Option β} {P : β → Prop} (missing : o = none → c = pure ())
    (found : ∀ b, o = some b → c.Needs (P b)) : c.Needs (∀ b, o = some b → P b) := by
  cases o with
  | none =>
      rw [missing rfl]
      exact needs_nothing fun b held => by cases held
  | some b =>
      refine (found b rfl).congr ⟨fun met b' same => ?_, fun met => met b rfl⟩
      exact Option.some.inj same ▸ met

theorem needs_each {f : β → Checked Unit} {P : β → Prop} {l : List β} (needs : ∀ b ∈ l, (f b).Needs (P b)) :
    (each f l).Needs (∀ b ∈ l, P b) := by
  induction l with
  | nil => exact needs_nothing fun _ mem => absurd mem List.not_mem_nil
  | cons b rest ih =>
      have later := ih fun c mem => needs c (List.mem_cons_of_mem b mem)
      refine ((needs b List.mem_cons_self).bind fun _ => later).congr ?_
      exact List.forall_mem_cons.symm

theorem Needs.value_iff (needs : c.Needs p) : c = .value () ↔ p := by
  constructor
  · intro passed
    by_contra unmet
    cases passed.symm.trans (needs.overflows unmet)
  · exact needs.passes

theorem Needs.ne_overflows_iff (needs : c.Needs p) : c ≠ .overflows ↔ p := by
  constructor
  · intro clear
    by_contra unmet
    exact clear (needs.overflows unmet)
  · intro met outside
    cases (needs.passes met).symm.trans outside

end Needs

/-- An answer that has no arithmetic of its own overflows where the checks before it do. -/
theorem then_ofOption_iff (c : Checked Unit) (o : Option α) :
    (c >>= fun _ => ofOption o) ≠ .overflows ↔ c ≠ .overflows := by
  cases c with
  | value _ => exact iff_of_true (ofOption_ne_overflows o) nofun
  | panics => exact iff_of_true nofun nofun
  | overflows => exact iff_of_false (fun clear => clear rfl) (fun clear => clear rfl)

theorem then_ofOption_eq_some {c : Checked Unit} {o : Option α} {a : α}
    (done : (c >>= fun _ => ofOption o).toOption = some a) : c = .value () ∧ o = some a := by
  cases c with
  | value _ => exact ⟨rfl, (toOption_ofOption o).symm.trans done⟩
  | panics => cases done
  | overflows => cases done

end Checked
