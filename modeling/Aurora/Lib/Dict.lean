/-
  Dictionaries that keep the order of insertion.

  A `Dict` is a list of entries whose keys are distinct.  Setting a key that is there replaces its
  value in place, setting a new one appends an entry, and no operation reorders what it keeps.  The
  lemmas say what each operation does to `get?` and to `size`.
-/
import Mathlib.Data.List.Nodup
import Mathlib.Data.List.MinMax

namespace Aurora

/-- Entries with distinct keys, in insertion order. -/
@[ext] structure Dict (κ ν : Type) where
  entries : List (κ × ν)
  distinct : (entries.map Prod.fst).Nodup

namespace Dict

variable {κ ν : Type}

/-- The dictionary without keys. -/
def empty : Dict κ ν := ⟨[], List.nodup_nil⟩

/-- The keys, in the order they were set. -/
def keys (d : Dict κ ν) : List κ := d.entries.map Prod.fst

/-- How many keys there are. -/
def size (d : Dict κ ν) : Nat := d.entries.length

@[simp] theorem size_empty : (empty : Dict κ ν).size = 0 := rfl

theorem length_keys (d : Dict κ ν) : d.keys.length = d.size :=
  List.length_map ..

/-- Keep the entries whose value passes through, with the value it becomes. -/
def collect (f : ν → Option ν) (d : Dict κ ν) : Dict κ ν where
  entries := d.entries.filterMap fun e => (f e.2).map (e.1, ·)
  distinct := by
    have hsub : ∀ l : List (κ × ν),
        ((l.filterMap fun e => (f e.2).map (e.1, ·)).map Prod.fst).Sublist (l.map Prod.fst) := by
      intro l
      induction l with
      | nil => exact List.Sublist.slnil
      | cons e l ih =>
        cases hf : f e.2 with
        | none => simpa [hf] using ih.cons e.1
        | some v => simpa [hf] using ih.cons_cons e.1
    exact (hsub d.entries).nodup d.distinct

theorem size_collect_le (f : ν → Option ν) (d : Dict κ ν) : (d.collect f).size ≤ d.size :=
  List.length_filterMap_le ..

/-! ## The first of the least -/

section Least

variable {μ : Type} [LinearOrder μ]

/-- The first key whose value is least, as a scan of the entries finds it. -/
def least? (measure : ν → μ) (d : Dict κ ν) : Option κ :=
  (d.entries.argmin (fun e => measure e.2)).map Prod.fst

theorem least?_mem {measure : ν → μ} {d : Dict κ ν} {k : κ} (h : d.least? measure = some k) :
    k ∈ d.keys := by
  obtain ⟨e, he, rfl⟩ := Option.map_eq_some_iff.mp h
  exact List.mem_map_of_mem (List.argmin_mem he)

/-- No entry has a smaller measure than the first of the least. -/
theorem least?_le {measure : ν → μ} {d : Dict κ ν} {k : κ} (h : d.least? measure = some k) :
    ∃ v, (k, v) ∈ d.entries ∧ ∀ e ∈ d.entries, measure v ≤ measure e.2 := by
  obtain ⟨e, he, rfl⟩ := Option.map_eq_some_iff.mp h
  refine ⟨e.2, List.argmin_mem he, fun other hother => ?_⟩
  exact List.le_of_mem_argmin (f := fun e : κ × ν => measure e.2) hother he

/-- There is a least key unless the dictionary is empty. -/
theorem least?_eq_none {measure : ν → μ} {d : Dict κ ν} (h : d.least? measure = none) :
    d.size = 0 := by
  have hnil := List.argmin_eq_none.mp (Option.map_eq_none_iff.mp h)
  unfold size
  rw [hnil, List.length_nil]

end Least

/-! ## Looking up -/

variable [DecidableEq κ]

/-- The value of a key. -/
def get? (d : Dict κ ν) (k : κ) : Option ν :=
  (d.entries.find? fun e => e.1 = k).map Prod.snd

@[simp] theorem get?_empty (k : κ) : (empty : Dict κ ν).get? k = none := rfl

theorem get?_eq_some {d : Dict κ ν} {k : κ} {v : ν} :
    d.get? k = some v ↔ (k, v) ∈ d.entries := by
  obtain ⟨l, hl⟩ := d
  unfold get?
  induction l with
  | nil => simp
  | cons e l ih =>
    obtain ⟨hnot, hl⟩ := List.nodup_cons.mp hl
    by_cases he : e.1 = k
    · rw [List.find?_cons_of_pos (by simpa using he)]
      constructor
      · intro h
        obtain rfl : e.2 = v := Option.some.inj h
        exact List.mem_cons.mpr (.inl (by rw [← he]))
      · intro h
        rcases List.mem_cons.mp h with h | h
        · rw [← h]
          rfl
        · exact absurd (he ▸ List.mem_map_of_mem (f := Prod.fst) h) hnot
    · rw [List.find?_cons_of_neg (by simpa using he)]
      refine (ih hl).trans ⟨fun h => List.mem_cons_of_mem _ h, fun h => ?_⟩
      rcases List.mem_cons.mp h with h | h
      · exact absurd (congrArg Prod.fst h).symm he
      · exact h

theorem get?_eq_none {d : Dict κ ν} {k : κ} : d.get? k = none ↔ k ∉ d.keys := by
  unfold get? keys
  rw [Option.map_eq_none_iff, List.find?_eq_none, List.mem_map]
  constructor
  · rintro h ⟨e, he, hk⟩
    exact h e he (decide_eq_true hk)
  · intro h e he hk
    exact h ⟨e, he, of_decide_eq_true hk⟩

theorem mem_keys_iff {d : Dict κ ν} {k : κ} : k ∈ d.keys ↔ ∃ v, d.get? k = some v := by
  unfold keys
  rw [List.mem_map]
  constructor
  · rintro ⟨e, he, rfl⟩
    exact ⟨e.2, get?_eq_some.mpr he⟩
  · rintro ⟨v, hv⟩
    exact ⟨(k, v), get?_eq_some.mp hv, rfl⟩

/-! ## Removing -/

/-- The dictionary without a key. -/
def erase (d : Dict κ ν) (k : κ) : Dict κ ν where
  entries := d.entries.filter fun e => e.1 ≠ k
  distinct := (List.filter_sublist.map Prod.fst).nodup d.distinct

theorem get?_erase (d : Dict κ ν) (k j : κ) :
    (d.erase k).get? j = if j = k then none else d.get? j := by
  apply Option.ext
  intro v
  rw [get?_eq_some]
  show (j, v) ∈ d.entries.filter (fun e => e.1 ≠ k) ↔ _
  rw [List.mem_filter, ← get?_eq_some]
  by_cases h : j = k
  · rw [if_pos h]
    simp [h]
  · rw [if_neg h]
    simp [h]

@[simp] theorem get?_erase_self (d : Dict κ ν) (k : κ) : (d.erase k).get? k = none := by
  rw [get?_erase, if_pos rfl]

/-- Removing a key that is there makes the dictionary smaller. -/
theorem size_erase_lt {d : Dict κ ν} {k : κ} (h : k ∈ d.keys) : (d.erase k).size < d.size := by
  obtain ⟨e, he, rfl⟩ := List.mem_map.mp h
  exact List.length_filter_lt_length_iff_exists.mpr ⟨e, he, by simp⟩

theorem size_erase_le (d : Dict κ ν) (k : κ) : (d.erase k).size ≤ d.size :=
  List.length_filter_le ..

/-! ## Setting -/

/-- Replace the value of a key in place, or append the entry. -/
def set (d : Dict κ ν) (k : κ) (v : ν) : Dict κ ν :=
  if h : k ∈ d.keys then
    { entries := d.entries.map fun e => if e.1 = k then (k, v) else e
      distinct := by
        have : (d.entries.map fun e => if e.1 = k then (k, v) else e).map Prod.fst =
            d.entries.map Prod.fst := by
          rw [List.map_map]
          refine List.map_congr_left fun e _ => ?_
          show (if e.1 = k then (k, v) else e).1 = e.1
          split
          · rename_i he
            exact he.symm
          · rfl
        rw [this]
        exact d.distinct }
  else
    { entries := d.entries ++ [(k, v)]
      distinct := by
        rw [List.map_append]
        refine d.distinct.append (List.nodup_singleton _) ?_
        intro j hj hk
        obtain rfl : j = k := by simpa using hk
        exact h hj }

theorem get?_set (d : Dict κ ν) (k j : κ) (v : ν) :
    (d.set k v).get? j = if j = k then some v else d.get? j := by
  apply Option.ext
  intro w
  rw [get?_eq_some]
  unfold set
  split
  · rename_i h
    show (j, w) ∈ d.entries.map (fun e => if e.1 = k then (k, v) else e) ↔ _
    rw [List.mem_map]
    by_cases hj : j = k
    · subst hj
      rw [if_pos rfl]
      constructor
      · rintro ⟨e, _, he⟩
        split at he
        · exact congrArg some (congrArg Prod.snd he)
        · rename_i hne
          exact absurd (congrArg Prod.fst he) hne
      · intro hw
        obtain ⟨e, he, hek⟩ := List.mem_map.mp h
        exact ⟨e, he, by rw [if_pos hek, Option.some.inj hw]⟩
    · rw [if_neg hj, get?_eq_some]
      constructor
      · rintro ⟨e, he, heq⟩
        split at heq
        · exact absurd (congrArg Prod.fst heq).symm hj
        · exact heq ▸ he
      · intro hmem
        exact ⟨(j, w), hmem, if_neg hj⟩
  · rename_i h
    show (j, w) ∈ d.entries ++ [(k, v)] ↔ _
    rw [List.mem_append, List.mem_singleton, Prod.mk.injEq]
    by_cases hj : j = k
    · subst hj
      rw [if_pos rfl]
      constructor
      · rintro (hmem | ⟨-, rfl⟩)
        · exact absurd (mem_keys_iff.mpr ⟨w, get?_eq_some.mpr hmem⟩) h
        · rfl
      · intro hw
        exact .inr ⟨rfl, (Option.some.inj hw).symm⟩
    · rw [if_neg hj, get?_eq_some]
      exact ⟨fun hmem => hmem.resolve_right (fun he => hj he.1), .inl⟩

@[simp] theorem get?_set_self (d : Dict κ ν) (k : κ) (v : ν) : (d.set k v).get? k = some v := by
  rw [get?_set, if_pos rfl]

theorem mem_keys_set {d : Dict κ ν} {k j : κ} {v : ν} :
    j ∈ (d.set k v).keys ↔ j = k ∨ j ∈ d.keys := by
  simp only [mem_keys_iff, get?_set]
  by_cases h : j = k
  · simp [h]
  · simp [h]

/-- The later of two values of a key stands, in the place of the first. -/
theorem set_set (d : Dict κ ν) (k : κ) (v w : ν) : (d.set k v).set k w = d.set k w := by
  have hmem : k ∈ (d.set k v).keys := mem_keys_set.mpr (.inl rfl)
  have hself : ∀ e : κ × ν, (if (if e.1 = k then (k, v) else e).1 = k then (k, w)
      else if e.1 = k then (k, v) else e) = if e.1 = k then (k, w) else e := by
    intro e
    by_cases he : e.1 = k
    · simp [he]
    · simp [he]
  rw [set, dif_pos hmem]
  unfold set
  split
  · congr 1
    rw [List.map_map]
    exact List.map_congr_left fun e _ => hself e
  · rename_i hnot
    congr 1
    rw [List.map_append]
    congr 1
    · refine (List.map_congr_left fun e he => ?_).trans (List.map_id _)
      exact if_neg fun (hk : e.1 = k) => hnot (hk ▸ List.mem_map_of_mem he)
    · simp

/-- A new key goes to the end, as in the source's dictionaries. -/
theorem set_of_not_mem_entries {d : Dict κ ν} {k : κ} (h : k ∉ d.keys) (v : ν) :
    (d.set k v).entries = d.entries ++ [(k, v)] := by
  unfold set
  rw [dif_neg h]

theorem size_set_of_mem {d : Dict κ ν} {k : κ} (h : k ∈ d.keys) (v : ν) :
    (d.set k v).size = d.size := by
  unfold set
  rw [dif_pos h]
  exact List.length_map ..

theorem size_set_of_not_mem {d : Dict κ ν} {k : κ} (h : k ∉ d.keys) (v : ν) :
    (d.set k v).size = d.size + 1 := by
  unfold set
  rw [dif_neg h]
  exact List.length_append

/-! ## Collecting -/

/-- Collecting works on each value by itself. -/
theorem get?_collect (f : ν → Option ν) (d : Dict κ ν) (k : κ) :
    (d.collect f).get? k = (d.get? k).bind f := by
  apply Option.ext
  intro w
  rw [get?_eq_some, Option.bind_eq_some_iff]
  show (k, w) ∈ d.entries.filterMap (fun e => (f e.2).map (e.1, ·)) ↔ _
  rw [List.mem_filterMap]
  constructor
  · rintro ⟨⟨j, v⟩, he, hf⟩
    obtain ⟨u, hu, hj⟩ := Option.map_eq_some_iff.mp hf
    obtain ⟨rfl, rfl⟩ := Prod.mk.inj hj
    exact ⟨v, get?_eq_some.mpr he, hu⟩
  · rintro ⟨v, hv, hf⟩
    exact ⟨(k, v), get?_eq_some.mp hv, by rw [hf]; rfl⟩

end Dict

end Aurora
