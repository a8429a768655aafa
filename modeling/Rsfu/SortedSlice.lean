import Mathlib.Data.List.Basic

/-! Binary search on a slice sorted by a key, with insertion and removal at the
position found. On sorted input a search answers the position of the key, or
the position where inserting it keeps the order. -/
namespace SortedSlice

variable {α κ : Type*} [LT κ] [DecidableLT κ] [DecidableEq κ]

/-- The number of leading elements whose key is below `k`. -/
def lowerBound (xs : List α) (k : κ) (key : α → κ) : Nat :=
  (xs.takeWhile fun x => decide (key x < k)).length

def binarySearchByKey (xs : List α) (k : κ) (key : α → κ) : Except Nat Nat :=
  let index := lowerBound xs k key
  match xs[index]? with
  | some x => if key x = k then .ok index else .error index
  | none => .error index

def SortedBy (key : α → κ) (xs : List α) : Prop := xs.Pairwise fun x y => key x < key y

/-- Insert unless the key is present: the outcome of a search followed by an insertion. -/
def insertByKey (xs : List α) (x : α) (key : α → κ) : List α :=
  match binarySearchByKey xs (key x) key with
  | .ok _ => xs
  | .error index => xs.insertIdx index x

def eraseByKey (xs : List α) (k : κ) (key : α → κ) : List α :=
  match binarySearchByKey xs k key with
  | .ok index => xs.eraseIdx index
  | .error _ => xs

/-- A key that no element has takes nothing away. -/
theorem erase_absent {key : α → κ} {xs : List α} {k : κ} (absent : ∀ x ∈ xs, key x ≠ k) :
    eraseByKey xs k key = xs := by
  simp only [eraseByKey, binarySearchByKey]
  cases found : xs[lowerBound xs k key]? with
  | none => rfl
  | some x => simp only [absent x (List.mem_of_getElem? found), if_false]

section Step
variable {k : κ} {key : α → κ} {x : α} {xs : List α}

theorem search_cons_below (below : key x < k) :
    binarySearchByKey (x :: xs) k key =
      match binarySearchByKey xs k key with
      | .ok index => .ok (index + 1)
      | .error index => .error (index + 1) := by
  have bound : lowerBound (x :: xs) k key = lowerBound xs k key + 1 := by
    simp only [lowerBound, List.takeWhile_cons, below, decide_true, if_true, List.length_cons]
  simp only [binarySearchByKey, bound, List.getElem?_cons_succ]
  cases xs[lowerBound xs k key]? with
  | none => rfl
  | some y => by_cases same : key y = k <;> simp [same]

theorem search_cons_above (above : ¬ key x < k) :
    binarySearchByKey (x :: xs) k key = if key x = k then .ok 0 else .error 0 := by
  have bound : lowerBound (x :: xs) k key = 0 := by
    simp only [lowerBound, List.takeWhile_cons, above, decide_false, Bool.false_eq_true, if_false,
      List.length_nil]
  simp only [binarySearchByKey, bound, List.getElem?_cons_zero]

theorem insert_cons_below {y : α} (below : key x < key y) :
    insertByKey (x :: xs) y key = x :: insertByKey xs y key := by
  simp only [insertByKey, search_cons_below below]
  cases binarySearchByKey xs (key y) key <;> rfl

theorem erase_cons_below (below : key x < k) : eraseByKey (x :: xs) k key = x :: eraseByKey xs k key := by
  simp only [eraseByKey, search_cons_below below]
  cases binarySearchByKey xs k key <;> rfl

theorem erase_sorted (k : κ) (sorted : SortedBy key xs) : SortedBy key (eraseByKey xs k key) := by
  unfold eraseByKey
  cases binarySearchByKey xs k key with
  | ok index => exact List.Pairwise.sublist (List.eraseIdx_sublist xs index) sorted
  | error index => exact sorted

end Step

section Order
variable [LE κ] [Std.IsLinearOrder κ] [Std.LawfulOrderLT κ] {key : α → κ}

theorem insert_mem (xs : List α) (y : α) (sorted : SortedBy key xs) (z : α) :
    z ∈ insertByKey xs y key ↔ z ∈ xs ∨ z = y ∧ ∀ x ∈ xs, key x ≠ key y := by
  induction xs with
  | nil => simp [insertByKey, binarySearchByKey, lowerBound]
  | cons x xs ih =>
      obtain ⟨first, rest⟩ := List.pairwise_cons.mp sorted
      by_cases below : key x < key y
      · have differs : key x ≠ key y := fun same => Std.lt_irrefl (same ▸ below)
        rw [insert_cons_below below, List.mem_cons, ih rest, List.mem_cons, List.forall_mem_cons, or_assoc]
        simp only [differs, ne_eq, not_false_eq_true, true_and]
      · simp only [insertByKey, search_cons_above below]
        by_cases same : key x = key y
        · simp [same]
        · have fresh : ∀ w ∈ x :: xs, key w ≠ key y := by
            have above : key y < key x :=
              Std.lt_of_le_of_ne (Std.not_lt.mp below) (Ne.symm same)
            intro w hw
            rcases List.mem_cons.mp hw with rfl | later
            · exact same
            · intro equal
              exact Std.lt_irrefl (equal ▸ Std.lt_trans above (first w later))
          simp only [same, if_false, List.insertIdx_zero, List.mem_cons]
          constructor
          · rintro (rfl | old)
            · exact Or.inr ⟨rfl, fun w hw => fresh w (List.mem_cons.mpr hw)⟩
            · exact Or.inl old
          · rintro (old | ⟨rfl, -⟩)
            · exact Or.inr old
            · exact Or.inl rfl

theorem insert_sorted {xs : List α} (y : α) (sorted : SortedBy key xs) :
    SortedBy key (insertByKey xs y key) := by
  induction xs with
  | nil => simp [insertByKey, binarySearchByKey, lowerBound, SortedBy]
  | cons x xs ih =>
      obtain ⟨first, rest⟩ := List.pairwise_cons.mp sorted
      by_cases below : key x < key y
      · rw [insert_cons_below below]
        refine List.pairwise_cons.mpr ⟨fun z hz => ?_, ih rest⟩
        rcases (insert_mem xs y rest z).mp hz with old | ⟨rfl, -⟩
        · exact first z old
        · exact below
      · simp only [insertByKey, search_cons_above below]
        by_cases same : key x = key y
        · simpa only [same, if_true] using sorted
        · have above : key y < key x := Std.lt_of_le_of_ne (Std.not_lt.mp below) (Ne.symm same)
          simp only [same, if_false, List.insertIdx_zero]
          refine List.pairwise_cons.mpr ⟨fun z hz => ?_, sorted⟩
          rcases List.mem_cons.mp hz with rfl | later
          · exact above
          · exact Std.lt_trans above (first z later)

omit [Std.IsLinearOrder κ] in
theorem erase_mem {xs : List α} (k : κ) (sorted : SortedBy key xs) (z : α) :
    z ∈ eraseByKey xs k key ↔ z ∈ xs ∧ key z ≠ k := by
  induction xs with
  | nil => simp [eraseByKey, binarySearchByKey, lowerBound]
  | cons x xs ih =>
      obtain ⟨first, rest⟩ := List.pairwise_cons.mp sorted
      by_cases below : key x < k
      · have differs : key x ≠ k := fun same => Std.lt_irrefl (same ▸ below)
        rw [erase_cons_below below, List.mem_cons, ih rest, List.mem_cons]
        constructor
        · rintro (rfl | ⟨old, other⟩)
          · exact ⟨Or.inl rfl, differs⟩
          · exact ⟨Or.inr old, other⟩
        · rintro ⟨rfl | old, other⟩
          · exact Or.inl rfl
          · exact Or.inr ⟨old, other⟩
      · have above : ∀ w ∈ xs, key w ≠ k := by
          intro w hw equal
          have larger := first w hw
          exact below (equal ▸ larger)
        simp only [eraseByKey, search_cons_above below]
        by_cases same : key x = k
        · simp only [same, if_true, List.eraseIdx_zero, List.tail_cons, List.mem_cons]
          constructor
          · intro old
            exact ⟨Or.inr old, above z old⟩
          · rintro ⟨rfl | old, other⟩
            · exact absurd same other
            · exact old
        · simp only [same, if_false, List.mem_cons]
          constructor
          · rintro (rfl | old)
            · exact ⟨Or.inl rfl, same⟩
            · exact ⟨Or.inr old, above z old⟩
          · exact And.left

end Order

end SortedSlice
