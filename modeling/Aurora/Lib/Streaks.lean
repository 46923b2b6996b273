/-
  Runs at the end of a list.

  `streak p l` is the length of the longest end of `l` on which `p` holds throughout.  A counter
  that goes up on `p` and falls back to zero otherwise is the streak of what it has read.
-/
import Mathlib.Data.List.DropRight
import Mathlib.Algebra.Ring.Parity

namespace Aurora

variable {α : Type} {p : α → Bool}

/-- How many elements at the end of the list satisfy `p`, without a break. -/
def streak (p : α → Bool) (l : List α) : Nat :=
  (l.rtakeWhile p).length

@[simp] theorem streak_nil : streak p [] = 0 := by
  simp [streak]

theorem streak_concat_pos {l : List α} {x : α} (h : p x = true) :
    streak p (l ++ [x]) = streak p l + 1 := by
  rw [streak, List.rtakeWhile_concat_pos _ _ _ h, List.length_append, List.length_singleton, streak]

theorem streak_concat_neg {l : List α} {x : α} (h : p x = false) : streak p (l ++ [x]) = 0 := by
  rw [streak, List.rtakeWhile_concat_neg _ _ _ (by simp [h]), List.length_nil]

/-- The last `k` elements exist and all satisfy `p`. -/
def EndsIn (k : Nat) (p : α → Bool) (l : List α) : Prop :=
  ∃ earlier last, l = earlier ++ last ∧ last.length = k ∧ ∀ x ∈ last, p x = true

/-- An end on which `p` holds is no longer than the streak. -/
theorem EndsIn.le_streak {k : Nat} {l : List α} (h : EndsIn k p l) : k ≤ streak p l := by
  obtain ⟨earlier, last, rfl, rfl, hp⟩ := h
  induction last using List.reverseRecOn with
  | nil => exact Nat.zero_le _
  | append_singleton last x ih =>
    have hx : p x = true := hp x (by simp)
    have hlast := ih (fun y hy => hp y (by simp [hy]))
    rw [← List.append_assoc, streak_concat_pos hx]
    simp only [List.length_append, List.length_singleton]
    omega

/-- A streak of at least `k` is an end of length `k`. -/
theorem endsIn_iff {k : Nat} {l : List α} : EndsIn k p l ↔ k ≤ streak p l := by
  refine ⟨EndsIn.le_streak, fun hk => ?_⟩
  obtain ⟨earlier, hl⟩ : l.rtakeWhile p <:+ l := List.rtakeWhile_suffix _ _
  have hrun : ∀ x ∈ l.rtakeWhile p, p x = true := fun x hx => List.mem_rtakeWhile_imp hx
  refine ⟨earlier ++ (l.rtakeWhile p).take (streak p l - k),
    (l.rtakeWhile p).drop (streak p l - k), ?_, ?_, ?_⟩
  · rw [List.append_assoc, List.take_append_drop, hl]
  · have : (l.rtakeWhile p).length = streak p l := rfl
    rw [List.length_drop]
    omega
  · exact fun x hx => hrun x (List.mem_of_mem_drop hx)

/-- `run` is the maximal run of `p` that ends the list. -/
structure MaximalRun (p : α → Bool) (l run : List α) : Prop where
  ends : ∃ earlier, l = earlier ++ run ∧ ∀ x, earlier.getLast? = some x → p x = false
  nonempty : run ≠ []
  all : ∀ x ∈ run, p x = true

theorem MaximalRun.length_eq {l run : List α} (h : MaximalRun p l run) :
    run.length = streak p l := by
  obtain ⟨earlier, rfl, hlast⟩ := h.ends
  have hall := h.all
  clear h
  induction run using List.reverseRecOn with
  | nil =>
    rw [List.append_nil, List.length_nil]
    cases earlier using List.reverseRecOn with
    | nil => rw [streak_nil]
    | append_singleton earlier x => rw [streak_concat_neg (hlast x (by simp))]
  | append_singleton run x ih =>
    have hx : p x = true := hall x (by simp)
    have hrun := ih (fun y hy => hall y (by simp [hy]))
    rw [← List.append_assoc, streak_concat_pos hx, ← hrun, List.length_append,
      List.length_singleton]

/-- A list that ends in `p` has a maximal run of it. -/
theorem exists_maximalRun {l : List α} (h : 0 < streak p l) : ∃ run, MaximalRun p l run := by
  refine ⟨l.rtakeWhile p, ⟨l.rdropWhile p, (List.rdropWhile_append_rtakeWhile ..).symm, ?_⟩, ?_, ?_⟩
  · intro x hx
    have hne : l.rdropWhile p ≠ [] := by
      intro he
      rw [he] at hx
      cases hx
    have hnot := List.rdropWhile_last_not p l hne
    rw [List.getLast?_eq_getLast_of_ne_nil hne] at hx
    cases hx
    simpa using hnot
  · intro he
    rw [streak, he] at h
    exact absurd h (by simp)
  · exact fun x hx => List.mem_rtakeWhile_imp hx

/-- Whether the maximal run has a given kind of length is a question about the streak. -/
theorem maximalRun_iff {P : Nat → Prop} {l : List α} :
    (∃ run, MaximalRun p l run ∧ P run.length) ↔ 0 < streak p l ∧ P (streak p l) := by
  constructor
  · rintro ⟨run, hrun, hP⟩
    have hlen := hrun.length_eq
    have hpos : 0 < run.length := List.length_pos_iff.mpr hrun.nonempty
    exact ⟨by omega, hlen ▸ hP⟩
  · rintro ⟨hpos, hP⟩
    obtain ⟨run, hrun⟩ := exists_maximalRun hpos
    exact ⟨run, hrun, hrun.length_eq ▸ hP⟩

end Aurora
