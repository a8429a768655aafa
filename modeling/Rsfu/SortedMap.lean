import Rsfu.SortedSlice

/-! A slice sorted by a key, read as a finite map: each key has at most one
entry, and the operations on the slice are those of the map. -/
namespace SortedSlice

variable {α κ : Type*} [DecidableEq κ] {key : α → κ} {xs : List α}

def entry (xs : List α) (k : κ) (key : α → κ) : Option α := xs.find? fun x => decide (key x = k)

theorem entry_cons (x : α) (xs : List α) (k : κ) :
    entry (x :: xs) k key = if key x = k then some x else entry xs k key := by
  unfold entry
  by_cases same : key x = k
  · rw [List.find?_cons_of_pos (by simpa using same), if_pos same]
  · rw [List.find?_cons_of_neg (by simpa using same), if_neg same]

theorem entry_eq_none_iff (k : κ) : entry xs k key = none ↔ ∀ x ∈ xs, key x ≠ k := by
  simp only [entry, List.find?_eq_none, decide_eq_true_eq, ne_eq]

variable [LT κ]

theorem entry_eq_some_iff [Std.Irrefl (α := κ) (· < ·)] (sorted : SortedBy key xs) (k : κ) (x : α) :
    entry xs k key = some x ↔ x ∈ xs ∧ key x = k := by
  induction xs with
  | nil => simp only [entry, List.find?_nil, reduceCtorEq, List.not_mem_nil, false_and]
  | cons y ys ih =>
      obtain ⟨first, rest⟩ := List.pairwise_cons.mp sorted
      rw [entry_cons, List.mem_cons]
      by_cases same : key y = k
      · have alone : ∀ z ∈ ys, key z ≠ k := by
          intro z among equal
          have above := first z among
          rw [same, equal] at above
          exact Std.Irrefl.irrefl k above
        rw [if_pos same, Option.some.injEq]
        constructor
        · rintro rfl
          exact ⟨Or.inl rfl, same⟩
        · rintro ⟨rfl | later, equal⟩
          · rfl
          · exact absurd equal (alone x later)
      · rw [if_neg same, ih rest]
        constructor
        · rintro ⟨later, equal⟩
          exact ⟨Or.inr later, equal⟩
        · rintro ⟨rfl | later, equal⟩
          · exact absurd equal same
          · exact ⟨later, equal⟩

/-- A pass that drops or changes entries and keeps their keys acts on each entry alone. -/
theorem entry_filterMap [Std.Irrefl (α := κ) (· < ·)] (f : α → Option α)
    (keeps : ∀ x y, f x = some y → key y = key x) (sorted : SortedBy key xs) (k : κ) :
    entry (xs.filterMap f) k key = (entry xs k key).bind f := by
  induction xs with
  | nil => rfl
  | cons x xs ih =>
      obtain ⟨first, rest⟩ := List.pairwise_cons.mp sorted
      rw [entry_cons]
      by_cases same : key x = k
      · rw [if_pos same, Option.bind_some]
        cases out : f x with
        | some y => rw [List.filterMap_cons_some out, entry_cons, if_pos ((keeps x y out).trans same)]
        | none =>
            rw [List.filterMap_cons_none out, ih rest]
            have alone : entry xs k key = none := by
              rw [entry_eq_none_iff]
              intro z among equal
              have above := first z among
              rw [same, equal] at above
              exact Std.Irrefl.irrefl k above
            rw [alone, Option.bind_none]
      · rw [if_neg same, ← ih rest]
        cases out : f x with
        | none => rw [List.filterMap_cons_none out]
        | some y =>
            have other : key y ≠ k := (keeps x y out).symm ▸ same
            rw [List.filterMap_cons_some out, entry_cons, if_neg other]

variable [DecidableLT κ] [LE κ] [Std.IsLinearOrder κ] [Std.LawfulOrderLT κ]

theorem entry_insert (sorted : SortedBy key xs) (y : α) (k : κ) :
    entry (insertByKey xs y key) k key =
      if key y = k then (entry xs k key).or (some y) else entry xs k key := by
  ext z
  rw [entry_eq_some_iff (insert_sorted y sorted), insert_mem xs y sorted]
  by_cases same : key y = k
  · rw [if_pos same]
    cases known : entry xs k key with
    | none =>
        have fresh := (entry_eq_none_iff k).mp known
        rw [Option.none_or, Option.some.injEq]
        constructor
        · rintro ⟨old | ⟨rfl, -⟩, equal⟩
          · exact absurd equal (fresh z old)
          · rfl
        · rintro rfl
          exact ⟨Or.inr ⟨rfl, fun x among equal => fresh x among (equal.trans same)⟩, same⟩
    | some w =>
        obtain ⟨among, equal⟩ := (entry_eq_some_iff sorted k w).mp known
        rw [Option.some_or, ← known, entry_eq_some_iff sorted]
        constructor
        · rintro ⟨old | ⟨-, fresh⟩, here⟩
          · exact ⟨old, here⟩
          · exact absurd (equal.trans same.symm) (fresh w among)
        · rintro ⟨old, here⟩
          exact ⟨Or.inl old, here⟩
  · rw [if_neg same, entry_eq_some_iff sorted]
    constructor
    · rintro ⟨old | ⟨rfl, -⟩, equal⟩
      · exact ⟨old, equal⟩
      · exact absurd equal same
    · rintro ⟨old, equal⟩
      exact ⟨Or.inl old, equal⟩

omit [Std.IsLinearOrder κ] in
theorem entry_erase (sorted : SortedBy key xs) (gone k : κ) :
    entry (eraseByKey xs gone key) k key = if k = gone then none else entry xs k key := by
  ext z
  rw [entry_eq_some_iff (erase_sorted gone sorted), erase_mem gone sorted]
  by_cases same : k = gone
  · rw [if_pos same]
    constructor
    · rintro ⟨⟨-, other⟩, equal⟩
      exact absurd (equal.trans same) other
    · intro impossible
      cases impossible
  · rw [if_neg same, entry_eq_some_iff sorted]
    constructor
    · rintro ⟨⟨old, -⟩, equal⟩
      exact ⟨old, equal⟩
    · rintro ⟨old, equal⟩
      exact ⟨⟨old, fun also => same (equal.symm.trans also)⟩, equal⟩

/-- What a search finds on a sorted slice is the entry of the key. -/
theorem search_entry (sorted : SortedBy key xs) (k : κ) :
    entry xs k key =
      match binarySearchByKey xs k key with
      | .ok index => xs[index]?
      | .error _ => none := by
  induction xs with
  | nil => rfl
  | cons x xs ih =>
      obtain ⟨first, rest⟩ := List.pairwise_cons.mp sorted
      rw [entry_cons]
      by_cases below : key x < k
      · have differs : key x ≠ k := fun same => Std.lt_irrefl (same ▸ below)
        rw [if_neg differs, search_cons_below below, ih rest]
        cases binarySearchByKey xs k key <;> rfl
      · rw [search_cons_above below]
        by_cases same : key x = k
        · rw [if_pos same, if_pos same]
          rfl
        · rw [if_neg same, if_neg same]
          have above : k < key x := Std.lt_of_le_of_ne (Std.not_lt.mp below) (Ne.symm same)
          rw [entry_eq_none_iff]
          intro z among equal
          exact Std.lt_irrefl (equal ▸ Std.lt_trans above (first z among))

end SortedSlice
