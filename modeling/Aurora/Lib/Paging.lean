/-
  Walks through a sorted collection, page by page.

  Every page starts behind a cursor, the key of the last element of the page before.  The collection
  may be another one at every visit.  `IsPage.split` is the accounting of one page: what is behind the
  cursor is the page and what is behind the next cursor.  From it, a walk through one collection gives
  exactly its elements, and a walk through changing ones misses no key that is always there and gives
  none twice.
-/
import Mathlib.Data.List.Sort

namespace Aurora

variable {τ κ : Type} (before : κ → κ → Prop) [DecidableRel before] (key : τ → κ)

/-- The elements behind a cursor; without one, all of them. -/
def behindCursor (cursor : Option κ) (l : List τ) : List τ :=
  l.filter fun x => ∀ c ∈ cursor, before c (key x)

/-- A page of at most `n` elements behind the cursor, with the next cursor if there are more. -/
structure IsPage (cursor : Option κ) (visit : List τ × Nat) (items : List τ) (next : Option κ) :
    Prop where
  shown : items = (behindCursor before key cursor visit.1).take visit.2
  pointer : next = if visit.2 < (behindCursor before key cursor visit.1).length then
    items.getLast?.map key else none

/-- Pages until there is no next cursor, each visit with the collection and the page size of its
    time. -/
inductive Walk : Option κ → List (List τ × Nat) → List τ → Prop
  | last {cursor : Option κ} {visit : List τ × Nat} {items : List τ}
      (page : IsPage before key cursor visit items none) : Walk cursor [visit] items
  | next {cursor : Option κ} {visit : List τ × Nat} {items rest : List τ} {c : κ}
      {visits : List (List τ × Nat)} (page : IsPage before key cursor visit items (some c))
      (walk : Walk (some c) visits rest) : Walk cursor (visit :: visits) (items ++ rest)

section

variable {before} {key}

theorem mem_behindCursor {cursor : Option κ} {l : List τ} {x : τ} :
    x ∈ behindCursor before key cursor l ↔ x ∈ l ∧ ∀ c ∈ cursor, before c (key x) := by
  unfold behindCursor
  rw [List.mem_filter, decide_eq_true_eq]

theorem behindCursor_none (l : List τ) : behindCursor before key none l = l :=
  List.filter_eq_self.mpr fun _ _ => decide_eq_true fun _ h => nomatch h

theorem behindCursor_sorted {l : List τ} (hl : (l.map key).Pairwise before) (cursor : Option κ) :
    ((behindCursor before key cursor l).map key).Pairwise before := by
  rw [List.pairwise_map] at hl ⊢
  exact hl.filter _

theorem IsPage.sublist {cursor next : Option κ} {visit : List τ × Nat} {items : List τ}
    (h : IsPage before key cursor visit items next) :
    items.Sublist (behindCursor before key cursor visit.1) := by
  rw [h.shown]
  exact List.take_sublist _ _

/-- A page is determined by its cursor, its collection and its size. -/
theorem IsPage.unique {cursor next next' : Option κ} {visit : List τ × Nat} {items items' : List τ}
    (h : IsPage before key cursor visit items next)
    (h' : IsPage before key cursor visit items' next') : items = items' ∧ next = next' := by
  have hitems : items = items' := h.shown.trans h'.shown.symm
  refine ⟨hitems, ?_⟩
  rw [h.pointer, h'.pointer, hitems]

/-- A page without a next cursor is everything behind its cursor. -/
theorem IsPage.last_eq {cursor : Option κ} {visit : List τ × Nat} {items : List τ}
    (h : IsPage before key cursor visit items none) (hn : 1 ≤ visit.2) :
    items = behindCursor before key cursor visit.1 := by
  have hnext := h.pointer
  rw [h.shown] at hnext ⊢
  split at hnext
  · rename_i hlt
    have hlast := Option.map_eq_none_iff.mp hnext.symm
    rw [List.getLast?_eq_none_iff, List.take_eq_nil_iff] at hlast
    rcases hlast with hzero | hnil
    · omega
    · rw [hnil] at hlt
      exact absurd hlt (Nat.not_lt_zero _)
  · exact List.take_of_length_le (by omega)

variable [IsTrans κ before] [Std.Irrefl before]

/-- What is behind the cursor is the page, and what is behind the next cursor. -/
theorem IsPage.split {cursor : Option κ} {visit : List τ × Nat} {items : List τ} {c : κ}
    (h : IsPage before key cursor visit items (some c)) (hl : (visit.1.map key).Pairwise before) :
    behindCursor before key cursor visit.1 = items ++ behindCursor before key (some c) visit.1 ∧
      items ≠ [] := by
  have hnext := h.pointer
  split at hnext
  case isFalse => cases hnext
  obtain ⟨y, hy, rfl⟩ := Option.map_eq_some_iff.mp hnext.symm
  obtain ⟨init, hinit⟩ := List.getLast?_eq_some_iff.mp hy
  have hsplit : behindCursor before key cursor visit.1 =
      init ++ [y] ++ (behindCursor before key cursor visit.1).drop visit.2 := by
    conv_lhs => rw [← List.take_append_drop visit.2 (behindCursor before key cursor visit.1)]
    rw [← h.shown, hinit]
  generalize hrest : (behindCursor before key cursor visit.1).drop visit.2 = rest at hsplit
  have hsorted := behindCursor_sorted hl cursor
  rw [hsplit, List.map_append, List.map_append, List.pairwise_append, List.pairwise_append] at hsorted
  obtain ⟨⟨-, -, hinitial⟩, -, hcross⟩ := hsorted
  have hmem : y ∈ behindCursor before key cursor visit.1 := by
    rw [hsplit]
    simp
  -- being behind the page's last element includes being behind the cursor
  have hinner : behindCursor before key (some (key y)) visit.1 =
      behindCursor before key (some (key y)) (behindCursor before key cursor visit.1) := by
    unfold behindCursor
    rw [List.filter_filter]
    refine List.filter_congr fun x _ => ?_
    have himp : before (key y) (key x) → ∀ c ∈ cursor, before c (key x) := fun hyx c hc =>
      IsTrans.trans _ _ _ ((mem_behindCursor.mp hmem).2 c hc) hyx
    by_cases hyx : before (key y) (key x)
    · simpa [hyx] using himp hyx
    · simp [hyx]
  have hbefore : ∀ x ∈ init ++ [y], ¬before (key y) (key x) := by
    intro x hx hyx
    rcases List.mem_append.mp hx with hx | hx
    · have hxy := hinitial (key x) (List.mem_map_of_mem hx) (key y) (by simp)
      exact irrefl _ (IsTrans.trans _ _ _ hxy hyx)
    · rw [List.mem_singleton.mp hx] at hyx
      exact irrefl _ hyx
  refine ⟨?_, by rw [hinit]; simp⟩
  rw [hinner, hsplit, hinit]
  congr 1
  unfold behindCursor
  rw [List.filter_append, List.filter_eq_nil_iff.mpr fun x hx => ?_, List.nil_append,
    List.filter_eq_self.mpr fun x hx => ?_]
  · simpa using hcross (key y) (by simp) (key x) (List.mem_map_of_mem hx)
  · simpa using hbefore x hx

omit [Std.Irrefl before] in
/-- A walk gives its elements in order, all of them behind its cursor. -/
theorem Walk.sorted {cursor : Option κ} {visits : List (List τ × Nat)} {items : List τ}
    (h : Walk before key cursor visits items)
    (hvisits : ∀ v ∈ visits, (v.1.map key).Pairwise before) :
    (items.map key).Pairwise before ∧ ∀ x ∈ items, ∀ c ∈ cursor, before c (key x) := by
  have hbehind : ∀ {cursor next : Option κ} {visit : List τ × Nat} {items : List τ},
      IsPage before key cursor visit items next → ∀ x ∈ items, ∀ c ∈ cursor, before c (key x) :=
    fun page x hx => (mem_behindCursor.mp (page.sublist.subset hx)).2
  induction h with
  | @last cursor visit items page =>
    refine ⟨?_, hbehind page⟩
    exact (behindCursor_sorted (hvisits visit List.mem_cons_self) cursor).sublist
      (page.sublist.map key)
  | @next cursor visit items rest c visits page walk ih =>
    obtain ⟨hvisit, hvisits⟩ := List.forall_mem_cons.mp hvisits
    obtain ⟨hsorted, hrest⟩ := ih hvisits
    have hpage := (behindCursor_sorted hvisit cursor).sublist (page.sublist.map key)
    -- the next cursor is the key of the last element of the page
    have hpointer := page.pointer
    split at hpointer
    case isFalse => cases hpointer
    obtain ⟨y, hy, hkey⟩ := Option.map_eq_some_iff.mp hpointer.symm
    obtain ⟨init, rfl⟩ := List.getLast?_eq_some_iff.mp hy
    have hle : ∀ x ∈ init ++ [y], key x = c ∨ before (key x) c := by
      intro x hx
      rcases List.mem_append.mp hx with hx | hx
      · rw [List.map_append, List.pairwise_append] at hpage
        exact .inr (hkey ▸ hpage.2.2 (key x) (List.mem_map_of_mem hx) (key y) (by simp))
      · exact .inl (by rw [List.mem_singleton.mp hx, hkey])
    have hcross : ∀ x ∈ init ++ [y], ∀ z ∈ rest, before (key x) (key z) := by
      intro x hx z hz
      have hcz := hrest z hz c rfl
      rcases hle x hx with hxc | hxc
      · rwa [hxc]
      · exact IsTrans.trans _ _ _ hxc hcz
    constructor
    · rw [List.map_append, List.pairwise_append]
      refine ⟨hpage, hsorted, fun a ha b hb => ?_⟩
      obtain ⟨x, hx, rfl⟩ := List.mem_map.mp ha
      obtain ⟨z, hz, rfl⟩ := List.mem_map.mp hb
      exact hcross x hx z hz
    · intro x hx c' hc'
      rcases List.mem_append.mp hx with hx | hx
      · exact hbehind page x hx c' hc'
      · exact IsTrans.trans _ _ _ (hbehind page y (by simp) c' hc') (hcross y (by simp) x hx)

/-- A key behind the cursor that every visited collection has is met. -/
theorem Walk.meets {cursor : Option κ} {visits : List (List τ × Nat)} {items : List τ}
    (h : Walk before key cursor visits items)
    (hvisits : ∀ v ∈ visits, (v.1.map key).Pairwise before ∧ 1 ≤ v.2) {k : κ}
    (hcursor : ∀ c ∈ cursor, before c k) (hk : ∀ v ∈ visits, k ∈ v.1.map key) :
    k ∈ items.map key := by
  induction h with
  | @last cursor visit items page =>
    obtain ⟨x, hx, rfl⟩ := List.mem_map.mp (hk visit List.mem_cons_self)
    rw [page.last_eq (hvisits visit List.mem_cons_self).2]
    exact List.mem_map_of_mem (mem_behindCursor.mpr ⟨hx, hcursor⟩)
  | @next cursor visit items rest c visits page walk ih =>
    obtain ⟨hvisit, hvisits⟩ := List.forall_mem_cons.mp hvisits
    obtain ⟨hk, hks⟩ := List.forall_mem_cons.mp hk
    obtain ⟨x, hx, rfl⟩ := List.mem_map.mp hk
    have hmem := mem_behindCursor.mpr ⟨hx, hcursor⟩
    rw [(page.split hvisit.1).1] at hmem
    rw [List.map_append]
    rcases List.mem_append.mp hmem with hmem | hmem
    · exact List.mem_append_left _ (List.mem_map_of_mem hmem)
    · exact List.mem_append_right _ (ih hvisits (mem_behindCursor.mp hmem).2 hks)

/-- A key that every visited collection has is met once. -/
theorem Walk.count [BEq κ] [LawfulBEq κ] {visits : List (List τ × Nat)} {items : List τ}
    (h : Walk before key none visits items)
    (hvisits : ∀ v ∈ visits, (v.1.map key).Pairwise before ∧ 1 ≤ v.2) {k : κ}
    (hk : ∀ v ∈ visits, k ∈ v.1.map key) : (items.map key).count k = 1 := by
  have hnodup : (items.map key).Nodup :=
    (h.sorted fun v hv => (hvisits v hv).1).1.imp fun hb => ne_of_irrefl hb
  exact List.count_eq_one_of_mem hnodup (h.meets hvisits (fun _ hc => nomatch hc) hk)

/-- A walk through one collection gives what is behind its cursor. -/
theorem Walk.constant {cursor : Option κ} {visits : List (List τ × Nat)} {items l : List τ}
    (h : Walk before key cursor visits items) (hl : (l.map key).Pairwise before)
    (hvisits : ∀ v ∈ visits, v.1 = l ∧ 1 ≤ v.2) : items = behindCursor before key cursor l := by
  induction h with
  | @last cursor visit items page =>
    obtain ⟨hv, hn⟩ := hvisits visit List.mem_cons_self
    rw [page.last_eq hn, hv]
  | @next cursor visit items rest c visits page walk ih =>
    obtain ⟨⟨hv, hn⟩, hvisits⟩ := List.forall_mem_cons.mp hvisits
    have hsplit := (page.split (hv ▸ hl)).1
    rw [hv] at hsplit
    rw [ih hvisits, hsplit]

/-- A walk through one collection ends after as many visits as it has elements, or earlier. -/
theorem exists_walk {l : List τ} (hl : (l.map key).Pairwise before) {cursor : Option κ}
    {sizes : List Nat} (hsizes : ∀ n ∈ sizes, 1 ≤ n)
    (hlength : (behindCursor before key cursor l).length < sizes.length) :
    ∃ k, Walk before key cursor ((sizes.take k).map fun n => (l, n))
      (behindCursor before key cursor l) := by
  induction sizes generalizing cursor with
  | nil => exact absurd hlength (Nat.not_lt_zero _)
  | cons n sizes ih =>
    obtain ⟨hn, hsizes⟩ := List.forall_mem_cons.mp hsizes
    have hpage : IsPage before key cursor (l, n) ((behindCursor before key cursor l).take n)
        (if n < (behindCursor before key cursor l).length then
          ((behindCursor before key cursor l).take n).getLast?.map key else none) := ⟨rfl, rfl⟩
    generalize hitems : (behindCursor before key cursor l).take n = items at hpage
    generalize hnext : (if n < (behindCursor before key cursor l).length then
      items.getLast?.map key else none) = next at hpage
    cases next with
    | none => exact ⟨1, hpage.last_eq hn ▸ .last hpage⟩
    | some c =>
      obtain ⟨hsplit, hnonempty⟩ := hpage.split hl
      dsimp only at hsplit
      have hpositive := List.length_pos_iff.mpr hnonempty
      rw [hsplit, List.length_append, List.length_cons] at hlength
      obtain ⟨k, hk⟩ := ih hsizes (show (behindCursor before key (some c) l).length < sizes.length by
        omega)
      exact ⟨k + 1, hsplit ▸ .next hpage hk⟩

end

end Aurora
