/-
  `deep_merge` of configuration mappings.

  A mapping is a list of entries with distinct keys, in the order of insertion; a value that is no
  mapping is a leaf, whatever it is.  `mergeEntries` is the loop of the source over the entries of
  the override: each key is set to the merge of two mappings, or to the value of the override.

  1. **Trees** — values, paths, distinct keys.
  2. **Merging** — the program.
  3. **One level** — what the merge holds under a key.
  4. **Paths** — the lookup law, by induction on the path.
  5. **Units and repetition** — the empty mapping, and the same override again.
  6. **Mappings** — the merge of mappings with distinct keys is one.
-/
import Mathlib.Data.List.Nodup

namespace Aurora.Config

/-! ## Trees -/

/-- A document: a value, or a mapping of documents. -/
inductive Tree (κ α : Type)
  | leaf (a : α)
  | mapping (entries : List (κ × Tree κ α))

/-- The entries of a mapping. -/
abbrev Entries (κ α : Type) : Type := List (κ × Tree κ α)

variable {κ α : Type}

mutual
/-- No mapping in the tree binds a key twice. -/
def Tree.Distinct : Tree κ α → Prop
  | .leaf _ => True
  | .mapping entries => (entries.map Prod.fst).Nodup ∧ DistinctBelow entries
/-- No mapping below has a key twice. -/
def DistinctBelow : Entries κ α → Prop
  | [] => True
  | (_, value) :: rest => value.Distinct ∧ DistinctBelow rest
end

theorem distinctBelow_iff {entries : Entries κ α} :
    DistinctBelow entries ↔ ∀ entry ∈ entries, entry.2.Distinct := by
  induction entries with
  | nil => exact iff_of_true True.intro (List.forall_mem_nil _)
  | cons entry rest ih =>
    unfold DistinctBelow
    rw [ih, List.forall_mem_cons]

variable [DecidableEq κ]

/-- `result[key] = value` -/
def setKey {ν : Type} (key : κ) (value : ν) : List (κ × ν) → List (κ × ν)
  | [] => [(key, value)]
  | entry :: rest =>
    if key = entry.1 then (key, value) :: rest else entry :: setKey key value rest

/-- The value at a path. -/
def Tree.get? : Tree κ α → List κ → Option (Tree κ α)
  | tree, [] => some tree
  | .leaf _, _ :: _ => none
  | .mapping entries, key :: rest => (entries.lookup key).bind fun value => value.get? rest

/-- There is a leaf above the path. -/
def Tree.blocks : Tree κ α → List κ → Bool
  | _, [] => false
  | .leaf _, _ :: _ => true
  | .mapping entries, key :: rest => (entries.lookup key).any fun value => value.blocks rest

/-! ## Merging -/

mutual
/-- The loop of `deep_merge` over the entries of the override. -/
def mergeEntries (result : Entries κ α) : Entries κ α → Entries κ α
  | [] => result
  | (key, value) :: rest =>
    mergeEntries (setKey key (mergeValue (result.lookup key) value) result) rest
/-- What is set under a key: two mappings are merged. -/
def mergeValue (old : Option (Tree κ α)) : Tree κ α → Tree κ α
  | .leaf a => .leaf a
  | .mapping new =>
    match old with
    | some (.mapping old) => .mapping (mergeEntries old new)
    | _ => .mapping new
end

/-! ## One level -/

variable {key other : κ} {value : Tree κ α} {entries base override : Entries κ α}

theorem lookup_setKey_self {ν : Type} {value : ν} {entries : List (κ × ν)} :
    (setKey key value entries).lookup key = some value := by
  induction entries with
  | nil =>
    unfold setKey
    rw [List.lookup_cons_self]
  | cons entry rest ih =>
    unfold setKey
    split
    case isTrue => rw [List.lookup_cons_self]
    case isFalse hkey =>
      rw [List.lookup_cons, beq_false_of_ne hkey]
      exact ih

theorem lookup_setKey_of_ne {ν : Type} {value : ν} {entries : List (κ × ν)} (h : other ≠ key) :
    (setKey key value entries).lookup other = entries.lookup other := by
  induction entries with
  | nil =>
    unfold setKey
    rw [List.lookup_cons, beq_false_of_ne h]
  | cons entry rest ih =>
    unfold setKey
    split
    case isTrue hkey =>
      rw [List.lookup_cons, List.lookup_cons, beq_false_of_ne h, ← hkey, beq_false_of_ne h]
    case isFalse =>
      rw [List.lookup_cons, List.lookup_cons, ih]

theorem lookup_eq_none_iff : entries.lookup key = none ↔ key ∉ entries.map Prod.fst := by
  induction entries with
  | nil => exact iff_of_true rfl List.not_mem_nil
  | cons entry rest ih =>
    rw [List.lookup_cons, List.map_cons, List.mem_cons, not_or]
    by_cases hkey : key = entry.1
    · rw [hkey, beq_self_eq_true]
      exact iff_of_false (fun h => nomatch h) fun h => h.1 rfl
    · rw [beq_false_of_ne hkey, ih]
      exact (and_iff_right hkey).symm

/-- Without repeated keys an entry is found under its key. -/
theorem lookup_of_mem (h : (entries.map Prod.fst).Nodup) {entry : κ × Tree κ α}
    (hentry : entry ∈ entries) : entries.lookup entry.1 = some entry.2 := by
  obtain ⟨before, after, rfl⟩ := List.append_of_mem hentry
  refine List.lookup_eq_some_iff.mpr ⟨before, after, rfl, fun other hother => ?_⟩
  rw [List.map_append, List.nodup_append] at h
  rw [bne_iff_ne]
  exact (h.2.2 other.1 (List.mem_map_of_mem hother) entry.1 List.mem_cons_self).symm

theorem mem_of_lookup (h : entries.lookup key = some value) : (key, value) ∈ entries := by
  obtain ⟨before, after, rfl, -⟩ := List.lookup_eq_some_iff.mp h
  exact List.mem_append_right _ List.mem_cons_self

/-- Under a key of the override the merge holds what was set there, and under any other key what
    the base holds. -/
theorem lookup_mergeEntries (h : (override.map Prod.fst).Nodup) (key : κ) :
    (mergeEntries base override).lookup key =
      match override.lookup key with
      | none => base.lookup key
      | some value => some (mergeValue (base.lookup key) value) := by
  induction override generalizing base with
  | nil =>
    unfold mergeEntries
    rfl
  | cons entry rest ih =>
    obtain ⟨first, value⟩ := entry
    rw [List.map_cons, List.nodup_cons] at h
    unfold mergeEntries
    rw [ih h.2, List.lookup_cons]
    by_cases hkey : key = first
    · subst hkey
      rw [lookup_eq_none_iff.mpr h.1, beq_self_eq_true]
      exact lookup_setKey_self
    · rw [beq_false_of_ne hkey]
      dsimp only
      rw [lookup_setKey_of_ne hkey]

/-! ## Paths -/

variable {tree : Tree κ α} {path : List κ}

theorem leaf_get? {a : α} (h : path ≠ []) : (Tree.leaf a : Tree κ α).get? path = none := by
  cases path with
  | nil => exact absurd rfl h
  | cons key rest => rfl

/-- A path goes through the value of its first key. -/
theorem Tree.get?_mapping_cons (rest : List κ) :
    (Tree.mapping entries).get? (key :: rest) =
      (entries.lookup key).bind fun value => value.get? rest := rfl

theorem Tree.blocks_mapping_cons (rest : List κ) :
    (Tree.mapping entries).blocks (key :: rest) =
      (entries.lookup key).any fun value => value.blocks rest := rfl

/-- A path is blocked by a scalar above its end. -/
theorem Tree.blocks_iff : tree.blocks path = true ↔
    ∃ above below a, path = above ++ below ∧ below ≠ [] ∧ tree.get? above = some (.leaf a) := by
  induction path generalizing tree with
  | nil =>
    refine iff_of_false (by cases tree <;> exact Bool.false_ne_true) ?_
    rintro ⟨above, below, a, hpath, hbelow, -⟩
    exact hbelow (List.append_eq_nil_iff.mp hpath.symm).2
  | cons key rest ih =>
    cases tree with
    | leaf a => exact iff_of_true rfl ⟨[], key :: rest, a, rfl, List.cons_ne_nil _ _, rfl⟩
    | mapping entries =>
      rw [Tree.blocks_mapping_cons, Option.any_eq_true]
      constructor
      · rintro ⟨value, hlookup, hblocks⟩
        obtain ⟨above, below, a, rfl, hbelow, hleaf⟩ := ih.mp hblocks
        refine ⟨key :: above, below, a, rfl, hbelow, ?_⟩
        rw [Tree.get?_mapping_cons, hlookup]
        exact hleaf
      · rintro ⟨above, below, a, hpath, hbelow, hleaf⟩
        cases above with
        | nil => cases hleaf
        | cons first above =>
          obtain ⟨rfl, rfl⟩ := List.cons.inj hpath
          obtain ⟨value, hlookup, hvalue⟩ := Option.bind_eq_some_iff.mp hleaf
          exact ⟨value, hlookup, ih.mpr ⟨above, below, a, rfl, hbelow, hvalue⟩⟩

/-- Nothing is at a path with a leaf above it. -/
theorem Tree.get?_of_blocks (h : tree.blocks path = true) : tree.get? path = none := by
  induction path generalizing tree with
  | nil => cases tree <;> cases h
  | cons key rest ih =>
    cases tree with
    | leaf a => rfl
    | mapping entries =>
      obtain ⟨value, hlookup, hblocks⟩ := (Option.any_eq_true _ _).mp h
      rw [Tree.get?_mapping_cons, hlookup]
      exact ih hblocks

/-- The values of a distinct mapping are distinct. -/
theorem Tree.Distinct.of_lookup (h : (Tree.mapping entries).Distinct)
    (hlookup : entries.lookup key = some value) : value.Distinct :=
  distinctBelow_iff.mp h.2 _ (mem_of_lookup hlookup)

/-- What a merge holds at a path, from what its sides hold there and whether a leaf of the override
    is above it. -/
structure Overlays (base override merged : Option (Tree κ α)) (blocked : Bool) : Prop where
  /-- A leaf of the override wins. -/
  leaf : ∀ a, override = some (.leaf a) → merged = some (.leaf a)
  /-- Two mappings are merged. -/
  both : ∀ old new, override = some (.mapping new) → base = some (.mapping old) →
    merged = some (.mapping (mergeEntries old new))
  /-- A mapping of the override replaces what is no mapping. -/
  mapping : ∀ new, override = some (.mapping new) → (∀ old, base ≠ some (.mapping old)) →
    merged = some (.mapping new)
  /-- Nothing survives below a leaf of the override. -/
  below : blocked = true → merged = none
  /-- Where the override holds nothing, the base stays as it is. -/
  base : override = none → blocked = false → merged = base

/-- Without an override the base stays. -/
theorem overlays_none (base : Option (Tree κ α)) : Overlays base none base false where
  leaf _ h := nomatch h
  both _ _ h := nomatch h
  mapping _ h := nomatch h
  below h := nomatch h
  base _ _ := rfl

/-- A leaf of the override replaces what is there, and hides what is below. -/
theorem overlays_leaf (base : Option (Tree κ α)) (a : α) (path : List κ) :
    Overlays base ((Tree.leaf a : Tree κ α).get? path) ((Tree.leaf a : Tree κ α).get? path)
      ((Tree.leaf a : Tree κ α).blocks path) := by
  cases path with
  | nil =>
    constructor
    case leaf => exact fun _ h => h
    case both => exact fun _ _ h => nomatch h
    case mapping => exact fun _ h => nomatch h
    case below => exact fun h => nomatch h
    case base => exact fun h => nomatch h
  | cons key rest =>
    constructor
    case leaf => exact fun _ h => h
    case both => exact fun _ _ h => nomatch h
    case mapping => exact fun _ h => nomatch h
    case below => exact fun _ => rfl
    case base => exact fun _ h => nomatch h

/-- A mapping of the override replaces what is no mapping. -/
theorem overlays_mapping {old : Option (Tree κ α)} (hold : ∀ entries, old ≠ some (.mapping entries))
    (new : Entries κ α) (path : List κ) :
    Overlays (old.bind fun value => value.get? path) ((Tree.mapping new).get? path)
      ((Tree.mapping new).get? path) ((Tree.mapping new).blocks path) := by
  have hbase : path ≠ [] → (old.bind fun value => value.get? path) = none := by
    intro hpath
    match old, hold with
    | none, _ => rfl
    | some (.leaf a), _ => exact (leaf_get? hpath)
    | some (.mapping entries), hold => exact absurd rfl (hold entries)
  constructor
  case leaf => exact fun _ h => h
  case both =>
    intro entries new' _ hentries
    by_cases hpath : path = []
    · subst hpath
      obtain ⟨value, hvalue, hget⟩ := Option.bind_eq_some_iff.mp hentries
      cases value <;> cases hget
      exact absurd hvalue (hold _)
    · rw [hbase hpath] at hentries
      cases hentries
  case mapping => exact fun _ h _ => h
  case below => exact Tree.get?_of_blocks
  case base =>
    intro hnone _
    rw [hnone, hbase]
    rintro rfl
    cases hnone

/-- The lookup law, key by key along the path. -/
theorem overlays_mergeEntries (h : (Tree.mapping override).Distinct) (path : List κ) :
    Overlays ((Tree.mapping base).get? path) ((Tree.mapping override).get? path)
      ((Tree.mapping (mergeEntries base override)).get? path)
      ((Tree.mapping override).blocks path) := by
  induction path generalizing base override with
  | nil =>
    constructor
    case leaf => exact fun _ h => nomatch h
    case both =>
      rintro old new ⟨⟩ ⟨⟩
      rfl
    case mapping => exact fun _ _ hold => absurd rfl (hold base)
    case below => exact fun h => nomatch h
    case base => exact fun h => nomatch h
  | cons key rest ih =>
    rw [Tree.get?_mapping_cons, Tree.get?_mapping_cons, Tree.get?_mapping_cons,
      Tree.blocks_mapping_cons, lookup_mergeEntries h.1]
    cases hvalue : override.lookup key with
    | none => exact overlays_none _
    | some value =>
      cases value with
      | leaf a =>
        unfold mergeValue
        exact overlays_leaf _ a rest
      | mapping new =>
        show Overlays _ ((Tree.mapping new).get? rest)
          ((mergeValue (base.lookup key) (.mapping new)).get? rest) ((Tree.mapping new).blocks rest)
        unfold mergeValue
        split
        · rename_i old hold
          rw [hold]
          exact ih (h.of_lookup hvalue)
        · rename_i hold
          exact overlays_mapping (fun entries => hold entries) new rest

/-! ## Units and repetition -/

/-- Setting a key to its value changes nothing. -/
theorem setKey_lookup (h : entries.lookup key = some value) : setKey key value entries = entries := by
  induction entries with
  | nil => cases h
  | cons entry rest ih =>
    obtain ⟨first, current⟩ := entry
    unfold setKey
    rw [List.lookup_cons] at h
    split
    case isTrue hkey =>
      obtain rfl : key = first := hkey
      rw [beq_self_eq_true] at h
      rw [Option.some.inj h]
    case isFalse hkey =>
      rw [beq_false_of_ne hkey] at h
      rw [ih h]

/-- An override changes nothing when every key already holds what it sets. -/
theorem mergeEntries_eq_self (h : ∀ entry ∈ override, ∃ value,
    base.lookup entry.1 = some value ∧ mergeValue (some value) entry.2 = value) :
    mergeEntries base override = base := by
  induction override with
  | nil =>
    unfold mergeEntries
    rfl
  | cons entry rest ih =>
    obtain ⟨key, new⟩ := entry
    rw [List.forall_mem_cons] at h
    obtain ⟨⟨value, hlookup, hvalue⟩, hrest⟩ := h
    unfold mergeEntries
    rw [hlookup, hvalue, setKey_lookup hlookup]
    exact ih hrest

/-- A key that is not there is appended. -/
theorem setKey_append (h : key ∉ entries.map Prod.fst) :
    setKey key value entries = entries ++ [(key, value)] := by
  induction entries with
  | nil =>
    unfold setKey
    rfl
  | cons entry rest ih =>
    rw [List.map_cons, List.mem_cons, not_or] at h
    unfold setKey
    rw [if_neg h.1, ih h.2]
    rfl

/-- Keys that are not there are appended in the order of the override. -/
theorem mergeEntries_append (h : ((base ++ override).map Prod.fst).Nodup) :
    mergeEntries base override = base ++ override := by
  induction override generalizing base with
  | nil =>
    unfold mergeEntries
    exact (List.append_nil _).symm
  | cons entry rest ih =>
    obtain ⟨key, value⟩ := entry
    have hkey : key ∉ base.map Prod.fst := by
      rw [List.map_append, List.nodup_append] at h
      intro hmem
      exact h.2.2 key hmem key List.mem_cons_self rfl
    have hvalue : mergeValue (base.lookup key) value = value := by
      rw [lookup_eq_none_iff.mpr hkey]
      cases value <;> (unfold mergeValue; rfl)
    unfold mergeEntries
    rw [hvalue, setKey_append hkey, ih (by rwa [List.append_assoc]), List.append_assoc]
    rfl

theorem mergeEntries_nil_left (h : (entries.map Prod.fst).Nodup) :
    mergeEntries [] entries = entries :=
  mergeEntries_append h

theorem mergeEntries_nil_right (entries : Entries κ α) : mergeEntries entries [] = entries := by
  unfold mergeEntries
  rfl

/-- Merging again changes nothing, when setting each value again changes nothing. -/
theorem mergeEntries_again (h : (override.map Prod.fst).Nodup)
    (hvalues : ∀ entry ∈ override, ∀ old,
      mergeValue (some (mergeValue old entry.2)) entry.2 = mergeValue old entry.2) :
    mergeEntries (mergeEntries base override) override = mergeEntries base override := by
  refine mergeEntries_eq_self fun entry hentry =>
    ⟨_, ?_, hvalues entry hentry (base.lookup entry.1)⟩
  rw [lookup_mergeEntries h, lookup_of_mem h hentry]

mutual
/-- Setting a value again on what it left changes nothing. -/
theorem mergeValue_again : ∀ (value : Tree κ α), value.Distinct → ∀ old,
    mergeValue (some (mergeValue old value)) value = mergeValue old value
  | .leaf a, _, old => by
    unfold mergeValue
    rfl
  | .mapping new, h, old => by
    have hvalues := mergeValue_again_below new h.2
    have hreplaced : mergeValue (some (.mapping new)) (.mapping new) = .mapping new := by
      show Tree.mapping (mergeEntries new new) = _
      have hnew : mergeEntries (mergeEntries [] new) new = _ := mergeEntries_again h.1 hvalues
      rw [mergeEntries_nil_left h.1] at hnew
      rw [hnew]
    match old with
    | none => exact hreplaced
    | some (.leaf a) => exact hreplaced
    | some (.mapping entries) =>
      show Tree.mapping (mergeEntries (mergeEntries entries new) new) =
        .mapping (mergeEntries entries new)
      rw [mergeEntries_again h.1 hvalues]
/-- By induction on the entries: merging a value again changes nothing. -/
theorem mergeValue_again_below : ∀ (entries : Entries κ α), DistinctBelow entries →
    ∀ entry ∈ entries, ∀ old,
      mergeValue (some (mergeValue old entry.2)) entry.2 = mergeValue old entry.2
  | [], _, entry, hentry, _ => nomatch hentry
  | (key, value) :: rest, h, entry, hentry, old => by
    rcases List.mem_cons.mp hentry with rfl | hrest
    · exact mergeValue_again value h.1 old
    · exact mergeValue_again_below rest h.2 entry hrest old
end

/-! ## Distinct keys -/

/-- Setting a key changes no other one. -/
theorem keys_setKey (key : κ) (value : Tree κ α) (entries : Entries κ α) :
    (setKey key value entries).map Prod.fst =
      if key ∈ entries.map Prod.fst then entries.map Prod.fst
      else entries.map Prod.fst ++ [key] := by
  induction entries with
  | nil => rfl
  | cons entry rest ih =>
    unfold setKey
    rw [List.map_cons]
    by_cases hkey : key = entry.1
    · rw [if_pos hkey, if_pos (List.mem_cons.mpr (.inl hkey)), List.map_cons, hkey]
    · rw [if_neg hkey, List.map_cons, ih]
      by_cases hrest : key ∈ rest.map Prod.fst
      · rw [if_pos hrest, if_pos (List.mem_cons_of_mem _ hrest)]
      · rw [if_neg hrest, if_neg (List.not_mem_cons_of_ne_of_not_mem hkey hrest)]
        rfl

theorem mem_setKey {entry : κ × Tree κ α} (h : entry ∈ setKey key value entries) :
    entry = (key, value) ∨ entry ∈ entries := by
  induction entries with
  | nil => exact .inl (List.mem_singleton.mp h)
  | cons first rest ih =>
    unfold setKey at h
    split at h
    case isTrue =>
      rcases List.mem_cons.mp h with rfl | hrest
      · exact .inl rfl
      · exact .inr (List.mem_cons_of_mem _ hrest)
    case isFalse =>
      rcases List.mem_cons.mp h with rfl | hrest
      · exact .inr List.mem_cons_self
      · exact (ih hrest).imp_right (List.mem_cons_of_mem _)

theorem Tree.Distinct.setKey (h : (Tree.mapping entries).Distinct) (hvalue : value.Distinct)
    (key : κ) : (Tree.mapping (setKey key value entries)).Distinct := by
  constructor
  · rw [keys_setKey]
    split
    case isTrue => exact h.1
    case isFalse hkey =>
      refine List.nodup_append.mpr ⟨h.1, List.nodup_singleton _, ?_⟩
      rintro other hother _ hlast rfl
      obtain rfl := List.mem_singleton.mp hlast
      exact hkey hother
  · refine distinctBelow_iff.mpr fun entry hentry => ?_
    rcases mem_setKey hentry with rfl | hentry
    · exact hvalue
    · exact distinctBelow_iff.mp h.2 entry hentry

mutual
/-- A merge binds no key twice. -/
theorem mergeEntries_distinct : ∀ (override : Entries κ α) {base : Entries κ α},
    (Tree.mapping base).Distinct → DistinctBelow override →
    (Tree.mapping (mergeEntries base override)).Distinct
  | [], _, hbase, _ => by
    unfold mergeEntries
    exact hbase
  | (key, value) :: rest, base, hbase, h => by
    unfold mergeEntries
    have hvalue : (mergeValue (base.lookup key) value).Distinct :=
      mergeValue_distinct value h.1 fun old hold => hbase.of_lookup hold
    exact mergeEntries_distinct rest (hbase.setKey hvalue key) h.2
/-- By induction on the value: merging keeps the keys distinct. -/
theorem mergeValue_distinct : ∀ (value : Tree κ α) {old : Option (Tree κ α)}, value.Distinct →
    (∀ tree, old = some tree → tree.Distinct) → (mergeValue old value).Distinct
  | .leaf a, _, h, _ => by
    unfold mergeValue
    exact h
  | .mapping new, old, h, hold => by
    match old with
    | none => exact h
    | some (.leaf a) => exact h
    | some (.mapping entries) => exact mergeEntries_distinct new (hold _ rfl) h.2
end

/-! ## Mappings -/

/-- A configuration mapping: no key is bound twice, at any depth. -/
@[ext] structure ConfigMapping (κ α : Type) where
  entries : Entries κ α
  distinct : (Tree.mapping entries).Distinct

namespace ConfigMapping

omit [DecidableEq κ] in
theorem distinct_nil : (Tree.mapping ([] : Entries κ α)).Distinct := ⟨List.nodup_nil, True.intro⟩

/-- The mapping without keys. -/
def empty : ConfigMapping κ α := ⟨[], distinct_nil⟩

/-- A mapping as a document. -/
def asTree (m : ConfigMapping κ α) : Tree κ α := .mapping m.entries

end ConfigMapping

/-- `deep_merge` -/
def deepMerge (base override : ConfigMapping κ α) : ConfigMapping κ α :=
  ⟨mergeEntries base.entries override.entries,
    mergeEntries_distinct override.entries base.distinct override.distinct.2⟩

theorem deepMerge_empty_left (m : ConfigMapping κ α) : deepMerge .empty m = m :=
  ConfigMapping.ext (mergeEntries_nil_left m.distinct.1)

/-- An empty override changes nothing. -/
theorem deepMerge_empty_right (m : ConfigMapping κ α) : deepMerge m .empty = m :=
  ConfigMapping.ext (mergeEntries_nil_right m.entries)

/-- The same override twice is the override once. -/
theorem deepMerge_again (base override : ConfigMapping κ α) :
    deepMerge (deepMerge base override) override = deepMerge base override :=
  ConfigMapping.ext (mergeEntries_again override.distinct.1
    (mergeValue_again_below override.entries override.distinct.2))

/-- The merge overlays its base at every path. -/
theorem overlays_deepMerge (base override : ConfigMapping κ α) (path : List κ) :
    Overlays (base.asTree.get? path) (override.asTree.get? path)
      ((deepMerge base override).asTree.get? path) (override.asTree.blocks path) :=
  overlays_mergeEntries override.distinct path

end Aurora.Config
