/-
  Sorted lists cut after a number of elements.

  A sorted list is determined by its elements, so sorting commutes with filtering, and sorting two
  parts together is merging the sorted parts.  The first `n` of a merge need only the first `n` of
  each part (`take_merge`): this is what lets a query limit each of its sources.
-/
import Mathlib.Data.List.Sort

namespace Aurora

variable {α β : Type} (r : α → α → Prop) [DecidableRel r]

section Sorted

variable [Std.Total r] [IsTrans α r]

/-- A sorted rearrangement of a list is the sorted list, where no two elements are tied. -/
theorem insertionSort_eq_of_perm {xs ys : List α}
    (hanti : ∀ a ∈ xs, ∀ b ∈ xs, r a b → r b a → a = b) (hys : ys.Pairwise r) (h : ys.Perm xs) :
    xs.insertionSort r = ys := by
  have hsort := List.perm_insertionSort r xs
  exact (hsort.trans h.symm).eq_of_pairwise
    (fun a b ha hb => hanti a (hsort.subset ha) b (h.subset hb))
    (List.pairwise_insertionSort r xs) hys

theorem insertionSort_filter {xs : List α} (hanti : ∀ a ∈ xs, ∀ b ∈ xs, r a b → r b a → a = b)
    (p : α → Bool) : (xs.filter p).insertionSort r = (xs.insertionSort r).filter p :=
  insertionSort_eq_of_perm r
    (fun a ha b hb => hanti a (List.mem_of_mem_filter ha) b (List.mem_of_mem_filter hb))
    ((List.pairwise_insertionSort r xs).filter p) ((List.perm_insertionSort r xs).filter p)

theorem insertionSort_append [Std.Antisymm r] (xs ys : List α) : (xs ++ ys).insertionSort r =
    (xs.insertionSort r).merge (ys.insertionSort r) (r · ·) :=
  insertionSort_eq_of_perm r (fun _ _ _ _ => antisymm)
    ((List.pairwise_insertionSort r xs).merge (List.pairwise_insertionSort r ys))
    ((List.merge_perm_append (r · ·)).trans
      ((List.perm_insertionSort r xs).append (List.perm_insertionSort r ys)))

end Sorted

/-- The first of a merge need only the first of each part. -/
theorem take_merge (le : α → α → Bool) (n : Nat) : ∀ xs ys : List α,
    ((xs.take n).merge (ys.take n) le).take n = (xs.merge ys le).take n := by
  -- the part that does not give its head is cut once more, at `n` instead of `n + 1`
  have hcut : ∀ (n : Nat) (x : α) (xs : List α), (x :: xs.take n).take n = (x :: xs).take n := by
    intro n x xs
    cases n with
    | zero => rfl
    | succ n =>
      rw [List.take_succ_cons, List.take_succ_cons, List.take_take, Nat.min_eq_left (by omega)]
  induction n with
  | zero => intro xs ys; rfl
  | succ n ih =>
    intro xs ys
    cases xs with
    | nil => rw [List.take_nil, List.nil_merge, List.nil_merge, List.take_take, Nat.min_self]
    | cons x xs =>
      cases ys with
      | nil => rw [List.take_nil, List.merge_right, List.merge_right, List.take_take, Nat.min_self]
      | cons y ys =>
        rw [List.take_succ_cons, List.take_succ_cons, List.cons_merge_cons, List.cons_merge_cons]
        by_cases h : le x y = true
        · rw [if_pos h, if_pos h, List.take_succ_cons, List.take_succ_cons, ← ih xs (y :: ys),
            ← ih (xs.take n), List.take_take, Nat.min_self, hcut]
        · rw [if_neg h, if_neg h, List.take_succ_cons, List.take_succ_cons, ← ih (x :: xs) ys,
            ← ih _ (ys.take n), List.take_take, Nat.min_self, hcut]

/-- Two limited sources give the same first elements as the whole sources. -/
theorem take_insertionSort_append [Std.Total r] [IsTrans α r] [Std.Antisymm r] (xs ys : List α)
    (n : Nat) :
    (((xs.insertionSort r).take n ++ (ys.insertionSort r).take n).insertionSort r).take n =
      ((xs ++ ys).insertionSort r).take n := by
  have hsorted : ∀ zs : List α, ((zs.insertionSort r).take n).insertionSort r =
      (zs.insertionSort r).take n := fun zs =>
    ((List.pairwise_insertionSort r zs).sublist (List.take_sublist n _)).insertionSort_eq
  rw [insertionSort_append, insertionSort_append, hsorted, hsorted, take_merge]

/-- As many elements of a concatenation as there are parts need no further part. -/
theorem take_flatMap_take {f : α → List β} (hf : ∀ a, f a ≠ []) (n : Nat) (xs : List α) :
    ((xs.take n).flatMap f).take n = (xs.flatMap f).take n := by
  induction n generalizing xs with
  | zero => rfl
  | succ n ih =>
    cases xs with
    | nil => rfl
    | cons x xs =>
      have hlength : 1 ≤ (f x).length := List.length_pos_iff.mpr (hf x)
      have hcut : ∀ zs : List β, zs.take (n + 1 - (f x).length) =
          (zs.take n).take (n + 1 - (f x).length) := by
        intro zs
        rw [List.take_take, Nat.min_eq_left (by omega)]
      rw [List.take_succ_cons, List.flatMap_cons, List.flatMap_cons, List.take_append,
        List.take_append, hcut, hcut (xs.flatMap f), ih]

end Aurora
