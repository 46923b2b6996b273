/-
  Cutting a list at a separator.

  `List.splitOn` gives the pieces between the separators.  `splitOn_eq_iff` says which list of
  pieces that is, `length_splitOn` how many there are, and `cut_first` that the first separator cuts
  a list in one way only.
-/
import Mathlib.Data.List.Basic

namespace Aurora

variable {α : Type} [BEq α] {sep : α}

/-- Splitting a longer list: a separator starts a piece, another element joins the first one. -/
theorem splitOn_cons (a : α) (l : List α) :
    ∃ first rest, l.splitOn sep = first :: rest ∧
      (a :: l).splitOn sep =
        if a == sep then [] :: first :: rest else (a :: first) :: rest := by
  obtain ⟨first, rest, h⟩ := List.exists_cons_of_ne_nil (List.splitOn_ne_nil sep l)
  refine ⟨first, rest, h, ?_⟩
  rw [List.splitOn_cons_eq_if_modifyHead, h]
  rfl

/-- There is one piece more than there are separators. -/
theorem length_splitOn (l : List α) : (l.splitOn sep).length = 1 + l.count sep := by
  induction l with
  | nil => simp [List.splitOn_nil]
  | cons a l ih =>
    obtain ⟨first, rest, hl, hcons⟩ := @splitOn_cons α _ sep a l
    rw [hl] at ih
    rw [hcons, List.count_cons]
    split
    case isTrue => simp only [List.length_cons] at ih ⊢; omega
    case isFalse => simpa using ih

variable [LawfulBEq α]

/-- No piece holds the separator. -/
theorem not_mem_of_splitOn {l : List α} : ∀ piece ∈ l.splitOn sep, sep ∉ piece := by
  induction l with
  | nil => simp [List.splitOn_nil]
  | cons a l ih =>
    obtain ⟨first, rest, hl, hcons⟩ := @splitOn_cons α _ sep a l
    rw [hl, List.forall_mem_cons] at ih
    rw [hcons]
    split
    case isTrue =>
      intro piece hpiece
      rcases List.mem_cons.mp hpiece with rfl | hpiece
      · exact List.not_mem_nil
      · rcases List.mem_cons.mp hpiece with rfl | hpiece
        · exact ih.1
        · exact ih.2 piece hpiece
    case isFalse hne =>
      intro piece hpiece
      rcases List.mem_cons.mp hpiece with rfl | hpiece
      · intro h
        rcases List.mem_cons.mp h with rfl | h
        · exact hne (beq_self_eq_true _)
        · exact ih.1 h
      · exact ih.2 piece hpiece

/-- The pieces of a list: without the separator inside, and the list with it between them. -/
theorem splitOn_eq_iff {l : List α} {pieces : List (List α)} :
    l.splitOn sep = pieces ↔
      pieces ≠ [] ∧ l = [sep].intercalate pieces ∧ ∀ piece ∈ pieces, sep ∉ piece := by
  constructor
  · rintro rfl
    exact ⟨List.splitOn_ne_nil sep l, (List.intercalate_splitOn sep).symm, not_mem_of_splitOn⟩
  · rintro ⟨hsome, rfl, hnone⟩
    exact List.splitOn_intercalate sep hnone hsome

omit [BEq α] [LawfulBEq α] in
/-- A list is cut at the first separator in one way only. -/
theorem cut_first : ∀ {l l' r r' : List α}, sep ∉ l → sep ∉ l' → l ++ sep :: r = l' ++ sep :: r' →
    l = l' ∧ r = r'
  | [], [], _, _, _, _, h => ⟨rfl, (List.cons.inj h).2⟩
  | [], a :: l', _, _, _, hl', h =>
    absurd (List.mem_cons.mpr (.inl (List.cons.inj h).1)) hl'
  | a :: l, [], _, _, hl, _, h =>
    absurd (List.mem_cons.mpr (.inl (List.cons.inj h).1.symm)) hl
  | a :: l, b :: l', r, r', hl, hl', h => by
    rw [List.cons_append, List.cons_append, List.cons.injEq] at h
    obtain ⟨rfl, h⟩ := h
    obtain ⟨rfl, hr⟩ := cut_first (fun hmem => hl (List.mem_cons_of_mem _ hmem))
      (fun hmem => hl' (List.mem_cons_of_mem _ hmem)) h
    exact ⟨rfl, hr⟩

end Aurora
