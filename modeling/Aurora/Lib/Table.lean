/-
  Keyed tables: the rows of a relation held in the order of a unique key.

  A `Table key` is a list of rows whose keys strictly increase, which is what a b-tree on a
  primary key stores: no two rows share a key, and a scan meets them in key order.  The
  invariant is a field, so a table with a duplicate key cannot be built and no statement has to
  re-prove it.

  The operations are the ones a row store offers: `insert` (refused on a taken key), `append`
  (a key above all others), `insertNext` (the next integer key, below a limit), `update` of the
  rows a test selects by a map that keeps the key, and `delete`.  The lemmas say what each one
  does to `rows`; `mem_unique` is the one fact about keys the proofs above this file need.
-/
import Mathlib.Data.List.Basic
import Mathlib.Data.List.DropRight
import Mathlib.Data.List.Pairwise
import Mathlib.Order.Basic
import Mathlib.Order.Lattice
import Mathlib.Order.Defs.LinearOrder
import Mathlib.Data.Int.Order.Basic

namespace Aurora

/-- Rows in strictly increasing key order. -/
@[ext] structure Table {ρ κ : Type} [LinearOrder κ] (key : ρ → κ) where
  rows : List ρ
  sorted : rows.Pairwise fun a b => key a < key b

namespace Table

variable {ρ κ : Type} [LinearOrder κ] {key : ρ → κ}

instance [DecidableEq ρ] : DecidableEq (Table key) := fun a b =>
  decidable_of_iff (a.rows = b.rows) ⟨Table.ext, congrArg Table.rows⟩

/-- The table without rows. -/
def empty (key : ρ → κ) : Table key := ⟨[], List.Pairwise.nil⟩

@[simp] theorem empty_rows : (empty key).rows = [] := rfl

/-! ## Keys are unique -/

/-- Two rows of one list with strictly increasing keys are the same row once their keys agree. -/
theorem unique_of_pairwise {l : List ρ} (h : l.Pairwise fun a b => key a < key b) {a b : ρ}
    (ha : a ∈ l) (hb : b ∈ l) (hk : key a = key b) : a = b := by
  induction l with
  | nil => exact absurd ha List.not_mem_nil
  | cons c l ih =>
    obtain ⟨hc, hl⟩ := List.pairwise_cons.mp h
    rcases List.mem_cons.mp ha with hac | hal
    · rcases List.mem_cons.mp hb with hbc | hbl
      · rw [hac, hbc]
      · rw [hac] at hk
        exact absurd hk (hc b hbl).ne
    · rcases List.mem_cons.mp hb with hbc | hbl
      · rw [hbc] at hk
        exact absurd hk.symm (hc a hal).ne
      · exact ih hl hal hbl

theorem mem_unique (t : Table key) {a b : ρ} (ha : a ∈ t.rows) (hb : b ∈ t.rows)
    (hk : key a = key b) : a = b :=
  unique_of_pairwise t.sorted ha hb hk

theorem nodup (t : Table key) : t.rows.Nodup :=
  t.sorted.imp fun h hab => absurd (congrArg key hab) h.ne

/-! ## Lookup -/

/-- The row stored under a key. -/
def find? (t : Table key) (k : κ) : Option ρ := t.rows.find? fun r => key r = k

/-- What is found under a key is its row. -/
theorem find?_eq_some {t : Table key} {k : κ} {r : ρ} :
    t.find? k = some r ↔ r ∈ t.rows ∧ key r = k := by
  constructor
  · intro h
    exact ⟨List.mem_of_find?_eq_some h, by simpa using List.find?_some h⟩
  · rintro ⟨hr, rfl⟩
    cases hf : t.find? (key r) with
    | none =>
      have := List.find?_eq_none.mp hf r hr
      simp at this
    | some r' =>
      have hr' := List.mem_of_find?_eq_some hf
      have hk : key r' = key r := by simpa using List.find?_some hf
      rw [t.mem_unique hr' hr hk]

/-- Nothing is found under a key without a row. -/
theorem find?_eq_none {t : Table key} {k : κ} :
    t.find? k = none ↔ ∀ r ∈ t.rows, key r ≠ k := by
  unfold find?
  rw [List.find?_eq_none]
  simp

/-- Selecting by key meets at most the one row that `find?` returns. -/
theorem filter_key (t : Table key) (k : κ) :
    t.rows.filter (fun r => key r = k) = (t.find? k).toList := by
  obtain ⟨l, hl⟩ := t
  unfold find?
  induction l with
  | nil => rfl
  | cons c l ih =>
    obtain ⟨hc, hl'⟩ := List.pairwise_cons.mp hl
    by_cases h : key c = k
    · have hrest : l.filter (fun r => key r = k) = [] := by
        rw [List.filter_eq_nil_iff]
        intro r hr hrk
        have hlt := hc r hr
        have hrk' : key r = k := by simpa using hrk
        rw [hrk', h] at hlt
        exact lt_irrefl _ hlt
      simp [h, hrest]
    · simpa [h] using ih hl'

/-- A row with this key exists. -/
def Has (t : Table key) (k : κ) : Prop := ∃ r ∈ t.rows, key r = k

instance (t : Table key) (k : κ) : Decidable (t.Has k) :=
  inferInstanceAs (Decidable (∃ r ∈ t.rows, key r = k))

/-- A key is there if something is found under it. -/
theorem has_iff {t : Table key} {k : κ} : t.Has k ↔ ∃ r, t.find? k = some r := by
  constructor
  · rintro ⟨r, hr, hk⟩
    exact ⟨r, find?_eq_some.mpr ⟨hr, hk⟩⟩
  · rintro ⟨r, hr⟩
    exact ⟨r, find?_eq_some.mp hr⟩

/-! ## Insertion -/

/-- Insertion in key order; refused when the key is taken. -/
def insertRows (key : ρ → κ) (r : ρ) : List ρ → Option (List ρ)
  | [] => some [r]
  | a :: l =>
    if key r < key a then some (r :: a :: l)
    else if key a < key r then (insertRows key r l).map (a :: ·)
    else none

theorem mem_insertRows {r : ρ} : ∀ {l l' : List ρ}, insertRows key r l = some l' →
    ∀ x, x ∈ l' ↔ x = r ∨ x ∈ l
  | [], l', h, x => by
    obtain rfl : [r] = l' := Option.some.inj h
    simp
  | a :: l, l', h, x => by
    unfold insertRows at h
    split at h
    · obtain rfl := Option.some.inj h
      simp
    · split at h
      · obtain ⟨m, hm, rfl⟩ := Option.map_eq_some_iff.mp h
        rw [List.mem_cons, mem_insertRows hm x, List.mem_cons]
        tauto
      · cases h

/-- By induction on the rows: they stay sorted. -/
theorem sorted_insertRows {r : ρ} : ∀ {l l' : List ρ}, insertRows key r l = some l' →
    l.Pairwise (fun a b => key a < key b) → l'.Pairwise fun a b => key a < key b
  | [], l', h, _ => by
    obtain rfl : [r] = l' := Option.some.inj h
    exact List.pairwise_singleton _ _
  | a :: l, l', h, hs => by
    obtain ⟨ha, hl⟩ := List.pairwise_cons.mp hs
    unfold insertRows at h
    split at h
    · rename_i hlt
      obtain rfl := Option.some.inj h
      refine List.pairwise_cons.mpr ⟨fun x hx => ?_, hs⟩
      rcases List.mem_cons.mp hx with rfl | hx
      · exact hlt
      · exact hlt.trans (ha x hx)
    · split at h
      · rename_i hlt
        obtain ⟨m, hm, rfl⟩ := Option.map_eq_some_iff.mp h
        refine List.pairwise_cons.mpr ⟨fun x hx => ?_, sorted_insertRows hm hl⟩
        rcases (mem_insertRows hm x).mp hx with rfl | hx
        · exact hlt
        · exact ha x hx
      · cases h

/-- `INSERT` with an explicit key. -/
def insert (t : Table key) (r : ρ) : Option (Table key) :=
  match h : insertRows key r t.rows with
  | some l => some ⟨l, sorted_insertRows h t.sorted⟩
  | none => none

/-- A row with a greater key goes to the end. -/
theorem insertRows_of_lt {r : ρ} : ∀ {l : List ρ}, (∀ a ∈ l, key a < key r) →
    insertRows key r l = some (l ++ [r])
  | [], _ => rfl
  | a :: l, h => by
    have ha : key a < key r := h a List.mem_cons_self
    have hl := insertRows_of_lt (l := l) fun b hb => h b (List.mem_cons_of_mem a hb)
    unfold insertRows
    rw [if_neg ha.asymm, if_pos ha, hl]
    rfl

/-- A row whose key is above all others goes to the end. -/
def append (t : Table key) (r : ρ) (h : ∀ a ∈ t.rows, key a < key r) : Table key where
  rows := t.rows ++ [r]
  sorted := List.pairwise_append.mpr
    ⟨t.sorted, List.pairwise_singleton _ _, fun a ha b hb => by
      rw [List.mem_singleton.mp hb]; exact h a ha⟩

@[simp] theorem append_rows (t : Table key) (r : ρ) (h : ∀ a ∈ t.rows, key a < key r) :
    (t.append r h).rows = t.rows ++ [r] := rfl

theorem append_has {t : Table key} {r : ρ} (h : ∀ a ∈ t.rows, key a < key r) {k : κ} :
    (t.append r h).Has k ↔ t.Has k ∨ key r = k := by
  unfold Has
  simp only [append_rows, List.mem_append, List.mem_singleton]
  constructor
  · rintro ⟨x, hx | rfl, hk⟩
    · exact .inl ⟨x, hx, hk⟩
    · exact .inr hk
  · rintro (⟨x, hx, hk⟩ | hk)
    · exact ⟨x, .inl hx, hk⟩
    · exact ⟨r, .inr rfl, hk⟩

/-- What holds of the old rows and the new one holds of all. -/
theorem forall_mem_append {t : Table key} {r : ρ} (h : ∀ a ∈ t.rows, key a < key r)
    {P : ρ → Prop} (hold : ∀ a ∈ t.rows, P a) (hnew : P r) : ∀ a ∈ (t.append r h).rows, P a := by
  intro a ha
  rcases List.mem_append.mp ha with ha | ha
  · exact hold a ha
  · rw [List.mem_singleton.mp ha]
    exact hnew

/-- Inserting a row with a greater key is appending it. -/
theorem insert_of_lt {t : Table key} {r : ρ} (h : ∀ a ∈ t.rows, key a < key r) :
    t.insert r = some (t.append r h) := by
  unfold insert
  split
  · rename_i l hl
    rw [insertRows_of_lt h] at hl
    obtain rfl := Option.some.inj hl
    rfl
  · rename_i hl
    rw [insertRows_of_lt h] at hl
    cases hl

/-! ## Update and delete -/

/-- `UPDATE … SET … WHERE`: the selected rows are mapped, the others stay. -/
def update (t : Table key) (p : ρ → Bool) (f : ρ → ρ) (hf : ∀ r, key (f r) = key r) :
    Table key where
  rows := t.rows.map fun r => if p r then f r else r
  sorted := by
    rw [List.pairwise_map]
    refine t.sorted.imp fun {a b} h => ?_
    split <;> split <;> simpa only [hf] using h

@[simp] theorem update_rows (t : Table key) (p : ρ → Bool) (f : ρ → ρ)
    (hf : ∀ r, key (f r) = key r) :
    (t.update p f hf).rows = t.rows.map fun r => if p r then f r else r := rfl

/-- An update keeps the keys. -/
theorem update_has {t : Table key} {p : ρ → Bool} {f : ρ → ρ} (hf : ∀ r, key (f r) = key r)
    {k : κ} : (t.update p f hf).Has k ↔ t.Has k := by
  unfold Has
  simp only [update_rows, List.mem_map]
  constructor
  · rintro ⟨_, ⟨r, hr, rfl⟩, hk⟩
    refine ⟨r, hr, ?_⟩
    split at hk
    · rwa [hf] at hk
    · exact hk
  · rintro ⟨r, hr, hk⟩
    refine ⟨_, ⟨r, hr, rfl⟩, ?_⟩
    split
    · rwa [hf]
    · exact hk

/-- Every row of an updated table is an old one or the image of a selected one. -/
theorem forall_mem_update {t : Table key} {p : ρ → Bool} {f : ρ → ρ}
    (hf : ∀ r, key (f r) = key r) {P : ρ → Prop} (hold : ∀ r ∈ t.rows, P r)
    (hnew : ∀ r ∈ t.rows, p r = true → P (f r)) : ∀ r ∈ (t.update p f hf).rows, P r := by
  intro r hr
  obtain ⟨a, ha, rfl⟩ := List.mem_map.mp hr
  split
  · exact hnew a ha (by assumption)
  · exact hold a ha

/-- `DELETE … WHERE`. -/
def delete (t : Table key) (p : ρ → Bool) : Table key where
  rows := t.rows.filter fun r => !p r
  sorted := t.sorted.sublist List.filter_sublist

@[simp] theorem delete_rows (t : Table key) (p : ρ → Bool) :
    (t.delete p).rows = t.rows.filter fun r => !p r := rfl

/-- Deleting everything below the `i`-th key drops the first `i` rows. -/
theorem delete_lt_rows (t : Table key) {i : Nat} {r : ρ} (h : t.rows[i]? = some r) :
    (t.delete fun a => key a < key r).rows = t.rows.drop i := by
  obtain ⟨hi, hr⟩ := List.getElem?_eq_some_iff.mp h
  have hdrop : t.rows.drop i = r :: t.rows.drop (i + 1) := by
    rw [← hr]
    exact List.drop_eq_getElem_cons hi
  have hsplit := List.take_append_drop i t.rows
  have hsorted := t.sorted
  rw [← hsplit, List.pairwise_append, hdrop] at hsorted
  obtain ⟨-, habove, hbelow⟩ := hsorted
  rw [delete_rows, ← hsplit, List.filter_append, List.filter_eq_nil_iff.mpr fun a ha => ?_,
    List.filter_eq_self.mpr fun a ha => ?_, List.nil_append, hsplit]
  · rw [hdrop] at ha
    rcases List.mem_cons.mp ha with rfl | ha
    · simp
    · simpa using ((List.pairwise_cons.mp habove).1 a ha).le
  · simpa using hbelow a ha r List.mem_cons_self

end Table

/-! ## Integer keys assigned by the table -/

namespace Table

variable {ρ : Type} {key : ρ → Int}

/-- The key the next row takes: one above the largest, or `1` in an empty table; none when the
    largest key already sits at `limit`. -/
def nextKey (t : Table key) (limit : Int) : Option Int :=
  match t.rows.getLast? with
  | none => some 1
  | some r => if key r < limit then some (key r + 1) else none

theorem le_getLast {t : Table key} {r : ρ} (h : t.rows.getLast? = some r) :
    ∀ a ∈ t.rows, key a ≤ key r := by
  obtain ⟨l, hl⟩ := List.getLast?_eq_some_iff.mp h
  intro a ha
  have hs := t.sorted
  rw [hl] at ha hs
  rcases List.mem_append.mp ha with ha | ha
  · exact ((List.pairwise_append.mp hs).2.2 a ha r List.mem_cons_self).le
  · rw [List.mem_singleton.mp ha]

theorem lt_nextKey {t : Table key} {limit k : Int} (h : t.nextKey limit = some k) :
    ∀ a ∈ t.rows, key a < k := by
  intro a ha
  unfold nextKey at h
  split at h
  · rename_i hnone
    rw [List.getLast?_eq_none_iff.mp hnone] at ha
    exact absurd ha List.not_mem_nil
  · rename_i r hr
    split at h
    · have := le_getLast hr a ha
      have hk := Option.some.inj h
      omega
    · cases h

/-- `INSERT` that lets the table assign the key. -/
def insertNext (t : Table key) (limit : Int) (make : Int → ρ) (hmake : ∀ k, key (make k) = k) :
    Option (Int × Table key) :=
  match h : t.nextKey limit with
  | some k => some (k, t.append (make k) fun a ha => by rw [hmake]; exact lt_nextKey h a ha)
  | none => none

/-- A row is appended under the next key. -/
theorem insertNext_eq_some {t t' : Table key} {limit k : Int} {make : Int → ρ}
    {hmake : ∀ k, key (make k) = k} :
    t.insertNext limit make hmake = some (k, t') ↔
      t.nextKey limit = some k ∧ t'.rows = t.rows ++ [make k] := by
  unfold insertNext
  constructor
  · intro h
    split at h
    · rename_i k' hk'
      obtain ⟨rfl, rfl⟩ := Prod.mk.inj (Option.some.inj h)
      exact ⟨hk', rfl⟩
    · cases h
  · rintro ⟨hk, hrows⟩
    split
    · rename_i k' hk'
      obtain rfl : k' = k := Option.some.inj (hk'.symm.trans hk)
      exact congrArg some (Prod.ext rfl (Table.ext hrows.symm))
    · rename_i hnone
      rw [hnone] at hk
      cases hk

/-- No row is inserted only where no key is left. -/
theorem insertNext_eq_none {t : Table key} {limit : Int} {make : Int → ρ}
    {hmake : ∀ k, key (make k) = k} :
    t.insertNext limit make hmake = none ↔ t.nextKey limit = none := by
  unfold insertNext
  split <;> rename_i h <;> simp [h]

/-- An insertion finds no key, or appends the row under the next one. -/
theorem insertNext_cases (t : Table key) (limit : Int) (make : Int → ρ)
    (hmake : ∀ k, key (make k) = k) :
    t.insertNext limit make hmake = none ∨
      ∃ k h, t.nextKey limit = some k ∧
        t.insertNext limit make hmake = some (k, t.append (make k) h) := by
  cases hi : t.insertNext limit make hmake with
  | none => exact .inl rfl
  | some r =>
    obtain ⟨k, t'⟩ := r
    obtain ⟨hk, hrows⟩ := insertNext_eq_some.mp hi
    have hlt : ∀ a ∈ t.rows, key a < key (make k) := fun a ha => by
      rw [hmake]
      exact lt_nextKey hk a ha
    refine .inr ⟨k, hlt, hk, congrArg some (Prod.ext rfl (Table.ext ?_))⟩
    rw [hrows, append_rows]

/-- Keys above `1` stay above `1`. -/
theorem one_le_nextKey {t : Table key} {limit k : Int} (hpos : ∀ a ∈ t.rows, 1 ≤ key a)
    (h : t.nextKey limit = some k) : 1 ≤ k := by
  unfold nextKey at h
  split at h
  · exact (Option.some.inj h).le
  · rename_i r hr
    have hr1 := hpos r (List.mem_of_getLast? hr)
    split at h
    · have := Option.some.inj h
      omega
    · cases h

/-- An assigned key never passes the limit. -/
theorem nextKey_le {t : Table key} {limit k : Int} (hlimit : 1 ≤ limit)
    (h : t.nextKey limit = some k) : k ≤ limit := by
  unfold nextKey at h
  split at h
  · have := Option.some.inj h
    omega
  · split at h
    · have := Option.some.inj h
      omega
    · cases h

end Table

/-! ## Bounded logs -/

/-- The last entries of a list, after one more entry: the last ones of the last ones. -/
theorem rtake_append_rtake {α : Type} (l m : List α) {n : Nat} :
    (l.rtake n ++ m).rtake n = (l ++ m).rtake n := by
  simp only [List.rtake_eq_reverse_take_reverse, List.reverse_append, List.reverse_reverse,
    List.take_append, List.take_take, List.length_reverse]
  congr 3
  omega

end Aurora
