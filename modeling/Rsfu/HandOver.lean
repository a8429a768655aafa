import Mathlib.Data.List.Nodup

/-! Items handed over once: directly, or from a queue that some call flushes under
its guard. What was handed over, what went into the queue and what came out of it
in a flush are kept in their order. -/

structure HandOver (ι α : Type) where
  queue : List α := []
  /-- The holder of the guard, with what it has still to hand over. -/
  flush : Option (ι × List α) := none
  passed : List α := []
  pushed : List α := []
  flushed : List α := []

namespace HandOver

variable {ι α : Type} {h : HandOver ι α} {a b : α} {i : ι} {rest : List α}

def pass (a : α) (h : HandOver ι α) : HandOver ι α := { h with passed := h.passed ++ [a] }

def push (a : α) (h : HandOver ι α) : HandOver ι α := { h with queue := h.queue ++ [a], pushed := h.pushed ++ [a] }

def begin (i : ι) (h : HandOver ι α) : HandOver ι α := { h with flush := some (i, h.queue) }

def passNext (i : ι) (a : α) (rest : List α) (h : HandOver ι α) : HandOver ι α :=
  { h with flush := some (i, rest), passed := h.passed ++ [a], flushed := h.flushed ++ [a] }

def release (h : HandOver ι α) : HandOver ι α := { h with flush := none }

def clear (h : HandOver ι α) : HandOver ι α := { h with queue := [] }

/-- What the flush in progress has still to hand over. -/
def remaining (h : HandOver ι α) : List α := (h.flush.map Prod.snd).getD []

@[simp] theorem remaining_none (open' : h.flush = none) : h.remaining = [] := by
  rw [remaining, open']
  rfl

@[simp] theorem remaining_some (held : h.flush = some (i, rest)) : h.remaining = rest := by
  rw [remaining, held]
  rfl

/-- Each item was handed over once at most, and a flush keeps the order of the queue. -/
structure Sound (h : HandOver ι α) : Prop where
  once : h.passed.Nodup
  suffix : h.queue <:+ h.pushed
  pushedOnce : h.pushed.Nodup
  order : (h.flushed ++ h.remaining).Sublist h.pushed
  flushedPassed : ∀ a ∈ h.flushed, a ∈ h.passed
  fresh : ∀ a ∈ h.remaining, a ∉ h.passed

theorem start : Sound ({} : HandOver ι α) where
  once := List.nodup_nil
  suffix := List.suffix_rfl
  pushedOnce := List.nodup_nil
  order := List.Sublist.refl []
  flushedPassed _ mem := mem
  fresh _ mem := by cases mem

theorem nodup_snoc {l : List α} (nodup : l.Nodup) (new : a ∉ l) : (l ++ [a]).Nodup := by
  rw [← List.concat_eq_append]
  exact List.Nodup.concat new nodup

namespace Sound

theorem remaining_pushed (sound : h.Sound) (mem : a ∈ h.remaining) : a ∈ h.pushed :=
  sound.order.mem (List.mem_append_right _ mem)

theorem flushed_order (sound : h.Sound) : h.flushed.Sublist h.pushed :=
  (List.sublist_append_left _ _).trans sound.order

theorem pass (sound : h.Sound) (new : a ∉ h.passed) (unpushed : a ∉ h.pushed) : (h.pass a).Sound where
  once := nodup_snoc sound.once new
  suffix := sound.suffix
  pushedOnce := sound.pushedOnce
  order := sound.order
  flushedPassed x mem := List.mem_append_left _ (sound.flushedPassed x mem)
  fresh x mem := by
    intro passed
    rcases List.mem_append.mp passed with before | last
    · exact sound.fresh x mem before
    · exact unpushed (List.mem_singleton.mp last ▸ sound.remaining_pushed mem)

theorem push (sound : h.Sound) (open' : h.flush = none) (unpushed : a ∉ h.pushed) : (h.push a).Sound where
  once := sound.once
  suffix := by
    obtain ⟨before, all⟩ := sound.suffix
    refine ⟨before, ?_⟩
    rw [HandOver.push, ← all, List.append_assoc]
  pushedOnce := nodup_snoc sound.pushedOnce unpushed
  order := by
    rw [remaining_none (h := h.push a) open', List.append_nil]
    exact sound.flushed_order.trans (List.sublist_append_left _ _)
  flushedPassed := sound.flushedPassed
  fresh x mem := by
    rw [remaining_none (h := h.push a) open'] at mem
    cases mem

/-- A flush begins with a queue of which nothing was handed over. -/
theorem begin (sound : h.Sound) (i : ι) (fresh : ∀ a ∈ h.queue, a ∉ h.passed) : (h.begin i).Sound where
  once := sound.once
  suffix := sound.suffix
  pushedOnce := sound.pushedOnce
  order := by
    obtain ⟨before, all⟩ := sound.suffix
    have flushed : h.flushed.Sublist (before ++ h.queue) := all ▸ sound.flushed_order
    have apart (a : α) (mem : a ∈ h.flushed) : a ∉ h.queue := fun queued =>
      fresh a queued (sound.flushedPassed a mem)
    change (h.flushed ++ h.queue).Sublist h.pushed
    rw [← all]
    exact (List.Sublist.of_sublist_append_left apart flushed).append_right _
  flushedPassed := sound.flushedPassed
  fresh := fresh

theorem passNext (sound : h.Sound) (held : h.flush = some (i, a :: rest)) : (h.passNext i a rest).Sound := by
  have order := sound.order
  have fresh := sound.fresh
  rw [remaining_some held] at order fresh
  have new := fresh a List.mem_cons_self
  have apart : a ∉ rest := (List.nodup_cons.mp ((order.nodup sound.pushedOnce).of_append_right)).1
  refine ⟨?_, sound.suffix, sound.pushedOnce, ?_, ?_, ?_⟩
  · exact nodup_snoc sound.once new
  · change ((h.flushed ++ [a]) ++ rest).Sublist h.pushed
    rw [List.append_assoc]
    exact order
  · intro x mem
    rcases List.mem_append.mp mem with before | last
    · exact List.mem_append_left _ (sound.flushedPassed x before)
    · exact List.mem_append_right _ last
  · intro x mem passed
    rcases List.mem_append.mp passed with before | last
    · exact fresh x (List.mem_cons_of_mem a mem) before
    · exact apart (List.mem_singleton.mp last ▸ mem)

theorem release (sound : h.Sound) : h.release.Sound where
  once := sound.once
  suffix := sound.suffix
  pushedOnce := sound.pushedOnce
  order := by
    rw [remaining_none (h := h.release) rfl, List.append_nil]
    exact sound.flushed_order
  flushedPassed := sound.flushedPassed
  fresh x mem := by cases mem

theorem clear (sound : h.Sound) : h.clear.Sound where
  once := sound.once
  suffix := List.nil_suffix
  pushedOnce := sound.pushedOnce
  order := sound.order
  flushedPassed := sound.flushedPassed
  fresh := sound.fresh

end Sound

end HandOver
