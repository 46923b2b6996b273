/-
  `deep_merge` on objects.

  The mappings of Python are objects that other objects refer to, and an assignment changes an object
  for everyone who holds it.  Here dictionaries lie in a heap, `deepcopy` and the recursive call
  return references, and `result[key] = value` writes to a cell.  `MergeRuns.spec` connects this to
  the merge of trees: every object that was there is unchanged, the result holds the merge, and it
  shares no object with the arguments.  `exists_mergeRuns` adds that there is a run.

  1. **Heaps** — dictionaries, and the tree a reference stands for.
  2. **Runs** — the program.
  3. **Writing** — what a write to the result's cell leaves alone.
  4. **Refinement** — by induction on the run.
  5. **Existence** — by induction on the override.
-/
import Aurora.Config.Merging

namespace Aurora.Config

/-! ## Heaps -/

/-- A value that is no mapping, or a dictionary. -/
inductive Ref (α : Type)
  | value (a : α)
  | object (address : Nat)

/-- The dictionaries by address. -/
abbrev Heap (κ α : Type) : Type := List (List (κ × Ref α))

variable {κ α : Type}

mutual
/-- A reference stands for a tree, and the addresses of its objects satisfy `P`. -/
inductive Denotes (P : Nat → Prop) (heap : Heap κ α) : Ref α → Tree κ α → Prop
  | value (a : α) : Denotes P heap (.value a) (.leaf a)
  | object {address : Nat} {items : List (κ × Ref α)} {entries : Entries κ α} (h : P address)
      (read : heap[address]? = some items) (below : DenotesItems P heap items entries) :
      Denotes P heap (.object address) (.mapping entries)
/-- The items of a mapping object denote these entries. -/
inductive DenotesItems (P : Nat → Prop) (heap : Heap κ α) :
    List (κ × Ref α) → Entries κ α → Prop
  | nil : DenotesItems P heap [] []
  | cons {key : κ} {ref : Ref α} {tree : Tree κ α} {items : List (κ × Ref α)}
      {entries : Entries κ α} (head : Denotes P heap ref tree)
      (rest : DenotesItems P heap items entries) :
      DenotesItems P heap ((key, ref) :: items) ((key, tree) :: entries)
end

/-- The tree, wherever its objects lie. -/
abbrev Holds (heap : Heap κ α) (ref : Ref α) (tree : Tree κ α) : Prop :=
  Denotes (fun _ => True) heap ref tree

variable {P Q : Nat → Prop} {heap heap' : Heap κ α}

mutual
/-- A reference keeps its tree in a heap that agrees on its objects. -/
theorem Denotes.transport (hheap : ∀ address items, P address → heap[address]? = some items →
    heap'[address]? = some items ∧ Q address) : ∀ {ref : Ref α} {tree : Tree κ α},
    Denotes P heap ref tree → Denotes Q heap' ref tree
  | _, _, .value a => .value a
  | _, _, .object h read below =>
    .object (hheap _ _ h read).2 (hheap _ _ h read).1 (below.transport hheap)
/-- A change of the heap outside the objects. -/
theorem DenotesItems.transport (hheap : ∀ address items, P address →
    heap[address]? = some items → heap'[address]? = some items ∧ Q address) :
    ∀ {items : List (κ × Ref α)} {entries : Entries κ α},
    DenotesItems P heap items entries → DenotesItems Q heap' items entries
  | _, _, .nil => .nil
  | _, _, .cons head rest => .cons (head.transport hheap) (rest.transport hheap)
end

mutual
/-- A reference stands for one tree. -/
theorem Denotes.unique : ∀ {ref : Ref α} {tree other : Tree κ α},
    Denotes P heap ref tree → Denotes Q heap ref other → tree = other
  | _, _, _, .value _, .value _ => rfl
  | _, _, _, .object _ read below, .object _ read' below' => by
    obtain rfl := Option.some.inj (read.symm.trans read')
    rw [below.unique below']
theorem DenotesItems.unique : ∀ {items : List (κ × Ref α)} {entries others : Entries κ α},
    DenotesItems P heap items entries → DenotesItems Q heap items others → entries = others
  | _, _, _, .nil, .nil => rfl
  | _, _, _, .cons head rest, .cons head' rest' => by
    rw [head.unique head', rest.unique rest']
end

mutual
/-- What is smaller than the tree of an object does not contain that object. -/
theorem Denotes.avoid {address : Nat} {whole : Tree κ α}
    (hwhole : Denotes Q heap (.object address) whole) : ∀ {ref : Ref α} {tree : Tree κ α},
    Denotes P heap ref tree → sizeOf tree < sizeOf whole →
    Denotes (fun a => P a ∧ a ≠ address) heap ref tree
  | _, _, .value a, _ => .value a
  | _, _, .object h read below, hsize => by
    refine .object ⟨h, ?_⟩ read (DenotesItems.avoid hwhole below ?_)
    · rintro rfl
      rw [hwhole.unique (Denotes.object h read below)] at hsize
      exact Nat.lt_irrefl _ hsize
    · rw [Tree.mapping.sizeOf_spec] at hsize
      omega
/-- A smaller value does not reach the object. -/
theorem DenotesItems.avoid {address : Nat} {whole : Tree κ α}
    (hwhole : Denotes Q heap (.object address) whole) :
    ∀ {items : List (κ × Ref α)} {entries : Entries κ α},
    DenotesItems P heap items entries → sizeOf entries < sizeOf whole →
    DenotesItems (fun a => P a ∧ a ≠ address) heap items entries
  | _, _, .nil, _ => .nil
  | _, _, .cons head rest, hsize => by
    simp only [List.cons.sizeOf_spec, Prod.mk.sizeOf_spec] at hsize
    exact .cons (Denotes.avoid hwhole head (by omega)) (DenotesItems.avoid hwhole rest (by omega))
end

/-- A heap with more objects holds those that were there. -/
theorem read_extended {address : Nat} {items : List (κ × Ref α)} (hheap : heap <+: heap')
    (hread : heap[address]? = some items) : heap'[address]? = some items := by
  obtain ⟨new, rfl⟩ := hheap
  obtain ⟨hlt, -⟩ := List.getElem?_eq_some_iff.mp hread
  rw [List.getElem?_append_left hlt]
  exact hread

theorem Denotes.mono {ref : Ref α} {tree : Tree κ α} (h : Denotes P heap ref tree)
    (hheap : heap <+: heap') (hPQ : ∀ a, P a → Q a) : Denotes Q heap' ref tree :=
  h.transport fun _ _ hP hread => ⟨read_extended hheap hread, hPQ _ hP⟩

theorem DenotesItems.mono {items : List (κ × Ref α)} {entries : Entries κ α}
    (h : DenotesItems P heap items entries) (hheap : heap <+: heap') (hPQ : ∀ a, P a → Q a) :
    DenotesItems Q heap' items entries :=
  h.transport fun _ _ hP hread => ⟨read_extended hheap hread, hPQ _ hP⟩

/-! ## Runs -/

variable [DecidableEq κ]

/-- `copy.deepcopy`: a new value like the old one, of new objects. -/
structure DeepCopied (heap : Heap κ α) (ref : Ref α) (heap' : Heap κ α) (copy : Ref α) : Prop where
  kept : heap <+: heap'
  like : ∀ tree, Holds heap ref tree → Denotes (heap.length ≤ ·) heap' copy tree

mutual
/-- `deep_merge` of two dictionaries, from a heap to a heap. -/
inductive MergeRuns : Heap κ α → Nat → Nat → Heap κ α → Nat → Prop
  | run {heap h h' : Heap κ α} {base override result : Nat} {items overrides : List (κ × Ref α)}
      (hbase : heap[base]? = some items)
      (hcopy : DeepCopied (heap ++ [items]) (.object heap.length) h (.object result))
      (hoverride : h[override]? = some overrides) (loop : LoopRuns h result overrides h') :
      MergeRuns heap base override h' result
/-- Its loop over the items of the override. -/
inductive LoopRuns : Heap κ α → Nat → List (κ × Ref α) → Heap κ α → Prop
  | done {heap : Heap κ α} {result : Nat} : LoopRuns heap result [] heap
  | merge {heap h h' : Heap κ α} {result old new merged : Nat} {key : κ}
      {items items' rest : List (κ × Ref α)} (hresult : heap[result]? = some items)
      (hold : items.lookup key = some (.object old)) (hmerge : MergeRuns heap old new h merged)
      (hcell : h[result]? = some items')
      (next : LoopRuns (h.set result (setKey key (.object merged) items')) result rest h') :
      LoopRuns heap result ((key, .object new) :: rest) h'
  | replace {heap h h' : Heap κ α} {result : Nat} {key : κ} {ref copy : Ref α}
      {items items' rest : List (κ × Ref α)} (hresult : heap[result]? = some items)
      (hother : ¬∃ old new, items.lookup key = some (.object old) ∧ ref = .object new)
      (hcopy : DeepCopied heap ref h copy) (hcell : h[result]? = some items')
      (next : LoopRuns (h.set result (setKey key copy items')) result rest h') :
      LoopRuns heap result ((key, ref) :: rest) h'
end

/-! ## Writing -/

/-- A key is found in the items when it is found in the entries they stand for. -/
theorem DenotesItems.lookup {items : List (κ × Ref α)} {entries : Entries κ α}
    (h : DenotesItems P heap items entries) (key : κ) :
    (items.lookup key = none ∧ entries.lookup key = none) ∨
      ∃ ref tree, items.lookup key = some ref ∧ entries.lookup key = some tree ∧
        Denotes P heap ref tree := by
  induction items generalizing entries with
  | nil =>
    cases h
    exact .inl ⟨rfl, rfl⟩
  | cons item rest ih =>
    cases h with
    | @cons first ref tree _ entries head below =>
      rw [List.lookup_cons, List.lookup_cons]
      by_cases hkey : key = first
      · rw [hkey, beq_self_eq_true]
        exact .inr ⟨ref, tree, rfl, rfl, head⟩
      · rw [beq_false_of_ne hkey]
        exact ih below

theorem DenotesItems.setKey {items : List (κ × Ref α)} {entries : Entries κ α}
    (h : DenotesItems P heap items entries) {ref : Ref α} {tree : Tree κ α}
    (href : Denotes P heap ref tree) (key : κ) :
    DenotesItems P heap (Config.setKey key ref items) (Config.setKey key tree entries) := by
  induction items generalizing entries with
  | nil =>
    cases h
    exact .cons href .nil
  | cons item rest ih =>
    cases h with
    | @cons first current tree' _ entries head below =>
      unfold Config.setKey
      dsimp only
      by_cases hkey : key = first
      · rw [if_pos hkey, if_pos hkey]
        exact .cons href below
      · rw [if_neg hkey, if_neg hkey]
        exact .cons head (ih below)

omit [DecidableEq κ] in
/-- A write above a prefix of the heap leaves it alone. -/
theorem prefix_set {address : Nat} {items : List (κ × Ref α)} (h : heap <+: heap')
    (haddress : heap.length ≤ address) : heap <+: heap'.set address items := by
  obtain ⟨new, rfl⟩ := h
  rw [List.set_append_right _ _ haddress]
  exact List.prefix_append _ _

/-- The loop's invariant: since `start`, where the arguments lay, objects were only added, and the
    result is made of added ones. -/
structure Merging (start heap : Heap κ α) (result : Nat) (entries : Entries κ α) : Prop where
  kept : start <+: heap
  denotes : Denotes (start.length ≤ ·) heap (.object result) (.mapping entries)

/-- One assignment to the result. -/
theorem Merging.write {start h : Heap κ α} {result : Nat} {entries : Entries κ α} {key : κ}
    {ref : Ref α} {tree : Tree κ α} {items : List (κ × Ref α)}
    (hm : Merging start heap result entries) (hheap : heap <+: h)
    (href : Denotes (heap.length ≤ ·) h ref tree) (hcell : h[result]? = some items) :
    Merging start (h.set result (setKey key ref items)) result (setKey key tree entries) := by
  cases hm.denotes with
  | @object _ items' _ hstart hread below =>
    obtain rfl := Option.some.inj (hcell.symm.trans (read_extended hheap hread))
    obtain ⟨hlt, -⟩ := List.getElem?_eq_some_iff.mp hread
    obtain ⟨hlt', -⟩ := List.getElem?_eq_some_iff.mp hcell
    have hlength : start.length ≤ heap.length := hm.kept.length_le
    -- the cell's items do not contain the cell, nor does the new value
    have hitems : DenotesItems (start.length ≤ ·) (h.set result (setKey key ref items)) items
        entries := by
      have havoid := below.avoid hm.denotes (by rw [Tree.mapping.sizeOf_spec]; omega)
      refine havoid.transport fun address cell haddress hcell' => ⟨?_, haddress.1⟩
      rw [List.getElem?_set_ne haddress.2.symm]
      exact read_extended hheap hcell'
    have hvalue : Denotes (start.length ≤ ·) (h.set result (setKey key ref items)) ref tree := by
      refine href.transport fun address cell haddress hcell' => ⟨?_, by omega⟩
      rw [List.getElem?_set_ne (by omega)]
      exact hcell'
    refine ⟨prefix_set (hm.kept.trans hheap) hstart, .object hstart ?_ (hitems.setKey hvalue key)⟩
    exact List.getElem?_set_self hlt'

/-! ## Refinement -/

/-- What the result holds under a key, when the loop merges. -/
theorem Merging.lookup_object {start : Heap κ α} {result old : Nat} {entries : Entries κ α}
    {key : κ} {items : List (κ × Ref α)} (hm : Merging start heap result entries)
    (hresult : heap[result]? = some items) (hold : items.lookup key = some (.object old)) :
    ∃ below, entries.lookup key = some (.mapping below) ∧
      Holds heap (.object old) (.mapping below) := by
  cases hm.denotes with
  | object _ hread hitems =>
    obtain rfl := Option.some.inj (hresult.symm.trans hread)
    rcases hitems.lookup key with ⟨hnone, -⟩ | ⟨ref, tree, href, htree, hdenotes⟩
    · rw [hold] at hnone
      cases hnone
    · obtain rfl := Option.some.inj (hold.symm.trans href)
      replace hdenotes := hdenotes.mono (List.prefix_refl heap) fun _ _ => True.intro
      cases hdenotes with
      | object h read below => exact ⟨_, htree, .object h read below⟩

/-- What is set under a key, when the loop does not merge. -/
theorem Merging.mergeValue_eq {start : Heap κ α} {result : Nat} {entries : Entries κ α} {key : κ}
    {items : List (κ × Ref α)} {ref : Ref α} {tree : Tree κ α}
    (hm : Merging start heap result entries) (hresult : heap[result]? = some items)
    (hother : ¬∃ old new, items.lookup key = some (.object old) ∧ ref = .object new)
    (href : Holds start ref tree) : mergeValue (entries.lookup key) tree = tree := by
  cases href with
  | value a =>
    unfold mergeValue
    rfl
  | @object new _ below _ _ _ =>
    cases hm.denotes with
    | object _ hread hitems =>
      obtain rfl := Option.some.inj (hresult.symm.trans hread)
      rcases hitems.lookup key with ⟨-, hnone⟩ | ⟨ref, tree, href, htree, hdenotes⟩
      · rw [hnone]
        rfl
      · rw [htree]
        cases hdenotes with
        | value a => rfl
        | object _ _ _ => exact absurd ⟨_, new, href, rfl⟩ hother

mutual
/-- A run returns the merge of the two trees, made of new objects, and changes no other one. -/
theorem MergeRuns.spec : ∀ {heap h' : Heap κ α} {base override result : Nat},
    MergeRuns heap base override h' result → ∀ {old new : Entries κ α},
    Holds heap (.object base) (.mapping old) → Holds heap (.object override) (.mapping new) →
    Merging heap h' result (mergeEntries old new)
  | heap, _, _, _, _, .run hbase hcopy hoverride loop, old, _, hold, hnew => by
    cases hold with
    | @object _ items _ _ hread below =>
      obtain rfl := Option.some.inj (hread.symm.trans hbase)
      have hshallow : Holds (heap ++ [items]) (.object heap.length) (.mapping old) :=
        .object True.intro List.getElem?_concat_length
          (below.mono (List.prefix_append _ _) fun _ _ => True.intro)
      have hcopied := hcopy.like _ hshallow
      have hkept := (List.prefix_append heap [items]).trans hcopy.kept
      cases hnew with
      | object _ hread' below' =>
        obtain rfl := Option.some.inj (hoverride.symm.trans (read_extended hkept hread'))
        refine loop.spec ⟨hkept, hcopied.mono (List.prefix_refl _) fun a ha => ?_⟩ below'
        rw [List.length_append] at ha
        omega
/-- By induction on the loop: it merges the entries. -/
theorem LoopRuns.spec : ∀ {heap h' : Heap κ α} {result : Nat} {items : List (κ × Ref α)},
    LoopRuns heap result items h' → ∀ {start : Heap κ α} {entries new : Entries κ α},
    Merging start heap result entries → DenotesItems (fun _ => True) start items new →
    Merging start h' result (mergeEntries entries new)
  | _, _, _, _, .done, _, _, _, hm, .nil => by
    unfold mergeEntries
    exact hm
  | _, _, _, _, .merge hresult hold hmerge hcell next, _, entries, _, hm, .cons head rest => by
    obtain ⟨below, hlookup, hbelow⟩ := hm.lookup_object hresult hold
    replace head := head.mono hm.kept fun _ _ => True.intro
    cases head with
    | object h read items =>
      have hmerged := hmerge.spec hbelow (.object h read items)
      have hnext := next.spec (hm.write hmerged.kept hmerged.denotes hcell) rest
      unfold mergeEntries
      rw [hlookup]
      unfold mergeValue
      exact hnext
  | _, _, _, _, .replace hresult hother hcopy hcell next, _, entries, _, hm, .cons head rest => by
    have hvalue := hm.mergeValue_eq hresult hother head
    have hcopied := hcopy.like _ (head.mono hm.kept fun _ _ => True.intro)
    have hnext := next.spec (hm.write hcopy.kept hcopied hcell) rest
    unfold mergeEntries
    rw [hvalue]
    exact hnext
end

/-! ## Existence -/

omit [DecidableEq κ] in
mutual
/-- A tree can be laid out in new objects. -/
theorem exists_denotes : ∀ (tree : Tree κ α) (heap : Heap κ α), ∃ heap' ref,
    heap <+: heap' ∧ Denotes (heap.length ≤ ·) heap' ref tree
  | .leaf a, heap => ⟨heap, .value a, List.prefix_refl _, .value a⟩
  | .mapping entries, heap => by
    obtain ⟨h, items, hkept, hitems⟩ := exists_denotesItems entries heap
    refine ⟨h ++ [items], .object h.length, hkept.trans (List.prefix_append _ _), ?_⟩
    exact .object hkept.length_le List.getElem?_concat_length
      (hitems.mono (List.prefix_append _ _) fun _ ha => ha)
/-- By induction on the entries: every value has an object. -/
theorem exists_denotesItems : ∀ (entries : Entries κ α) (heap : Heap κ α), ∃ heap' items,
    heap <+: heap' ∧ DenotesItems (heap.length ≤ ·) heap' items entries
  | [], heap => ⟨heap, [], List.prefix_refl _, .nil⟩
  | (key, tree) :: rest, heap => by
    obtain ⟨h, ref, hkept, href⟩ := exists_denotes tree heap
    obtain ⟨h', items, hkept', hitems⟩ := exists_denotesItems rest h
    refine ⟨h', (key, ref) :: items, hkept.trans hkept', .cons (href.mono hkept' fun _ ha => ha) ?_⟩
    exact hitems.mono (List.prefix_refl _) fun _ ha => Nat.le_trans hkept.length_le ha
end

omit [DecidableEq κ] in
theorem exists_deepCopied {ref : Ref α} {tree : Tree κ α} (h : Holds heap ref tree) :
    ∃ heap' copy, DeepCopied heap ref heap' copy := by
  obtain ⟨heap', copy, hkept, hcopy⟩ := exists_denotes tree heap
  refine ⟨heap', copy, hkept, fun other hother => ?_⟩
  rw [hother.unique h]
  exact hcopy

omit [DecidableEq κ] in
/-- The result is a dictionary. -/
theorem Merging.read {start : Heap κ α} {result : Nat} {entries : Entries κ α}
    (hm : Merging start heap result entries) : ∃ items, heap[result]? = some items := by
  cases hm.denotes with
  | object _ hread _ => exact ⟨_, hread⟩

mutual
/-- The loop over the items of a mapping runs to its end. -/
theorem exists_loopRuns : ∀ (new : Entries κ α) {start heap : Heap κ α} {result : Nat}
    {entries : Entries κ α} {items : List (κ × Ref α)}, Merging start heap result entries →
    DenotesItems (fun _ => True) start items new → ∃ heap', LoopRuns heap result items heap'
  | [], _, heap, _, _, _, _, .nil => ⟨heap, .done⟩
  | (key, tree) :: rest, start, heap, result, entries, _, hm, .cons head below => by
    rename_i ref _
    obtain ⟨items, hresult⟩ := hm.read
    have hhead := head.mono hm.kept fun _ _ => True.intro
    -- two objects are merged, anything else is copied over
    by_cases hboth : ∃ old new, items.lookup key = some (.object old) ∧ ref = .object new
    · obtain ⟨old, new, hlookup, rfl⟩ := hboth
      obtain ⟨_, -, hold⟩ := hm.lookup_object hresult hlookup
      obtain ⟨h, merged, hmerge⟩ := exists_mergeRuns_value tree hold hhead
      cases hhead with
      | object haddress read items =>
        have hmerged := hmerge.spec hold (.object haddress read items)
        have hcell := read_extended hmerged.kept hresult
        obtain ⟨heap', hnext⟩ :=
          exists_loopRuns rest (hm.write hmerged.kept hmerged.denotes hcell) below
        exact ⟨heap', .merge hresult hlookup hmerge hcell hnext⟩
    · obtain ⟨h, copy, hcopy⟩ := exists_deepCopied hhead
      have hcell := read_extended hcopy.kept hresult
      obtain ⟨heap', hnext⟩ :=
        exists_loopRuns rest (hm.write hcopy.kept (hcopy.like _ hhead) hcell) below
      exact ⟨heap', .replace hresult hboth hcopy hcell hnext⟩
/-- A merge with a mapping runs to its end. -/
theorem exists_mergeRuns_value : ∀ (tree : Tree κ α) {heap : Heap κ α} {base override : Nat}
    {old : Entries κ α}, Holds heap (.object base) (.mapping old) →
    Holds heap (.object override) tree → ∃ heap' result, MergeRuns heap base override heap' result
  | .leaf _, _, _, _, _, _, hnew => nomatch hnew
  | .mapping new, heap, base, override, old, hold, hnew => by
    cases hold with
    | @object _ items _ _ hread below =>
      have hshallow : Holds (heap ++ [items]) (.object heap.length) (.mapping old) :=
        .object True.intro List.getElem?_concat_length
          (below.mono (List.prefix_append _ _) fun _ _ => True.intro)
      obtain ⟨h, copy, hcopy⟩ := exists_deepCopied hshallow
      have hcopied := hcopy.like _ hshallow
      have hkept := (List.prefix_append heap [items]).trans hcopy.kept
      cases copy with
      | value a => cases hcopied
      | object result =>
        cases hnew with
        | object _ hread' below' =>
          have hm : Merging heap h result old :=
            ⟨hkept, hcopied.mono (List.prefix_refl _) fun a ha => by
              rw [List.length_append] at ha
              omega⟩
          obtain ⟨heap', hloop⟩ := exists_loopRuns new hm below'
          exact ⟨heap', result, .run hread hcopy (read_extended hkept hread') hloop⟩
end

/-- Two mappings can be merged. -/
theorem exists_mergeRuns {base override : Nat} {old new : Entries κ α}
    (hold : Holds heap (.object base) (.mapping old))
    (hnew : Holds heap (.object override) (.mapping new)) :
    ∃ heap' result, MergeRuns heap base override heap' result :=
  exists_mergeRuns_value (.mapping new) hold hnew

end Aurora.Config
