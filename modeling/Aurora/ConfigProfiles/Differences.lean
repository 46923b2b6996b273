/-
  Where two documents differ.

  A location is a chain of keys and indices.  `DiffersAt` says what it is for two documents to
  differ at a location in one of the three ways, all containers above it being of one kind in both;
  `differences` lists these locations.  Nothing here speaks of paths, maxima or the plan.
-/
import Aurora.Lib.Sorting
import Aurora.ConfigProfiles.Planner

namespace Aurora.ConfigProfiles

/-! ## Locations -/

/-- One step into a document. -/
inductive Step
  | key (name : String)
  | index (i : Nat)
deriving DecidableEq

/-- The way to a part of a document. -/
abbrev Location := List Step

/-- The node at a location. -/
def Node.at? : Node → Location → Option Node
  | node, [] => some node
  | .mapping entries, .key name :: rest => (entries.lookup name).bind fun node => node.at? rest
  | .list items, .index i :: rest => (items[i]?).bind fun node => node.at? rest
  | _, _ :: _ => none

/-- Two containers of one kind. -/
def Node.comparable : Node → Node → Bool
  | .mapping _, .mapping _ => true
  | .list _, .list _ => true
  | _, _ => false

/-- Equality of typed trees: equal scalars of one type, sequences item by item, mappings key by
key in whatever order. -/
inductive Same : Node → Node → Prop
  | scalar {left right : Scalar} (htype : left.typeName = right.typeName)
      (hequal : left.equal right = true) : Same (.scalar left) (.scalar right)
  | list {left right : List Node} (hlength : left.length = right.length)
      (hitems : ∀ (i : Nat) (l r : Node), left[i]? = some l → right[i]? = some r → Same l r) :
      Same (.list left) (.list right)
  | mapping {left right : List (String × Node)}
      (hkeys : ∀ name, name ∈ keys left ↔ name ∈ keys right)
      (hentries : ∀ (name : String) (l r : Node), left.lookup name = some l →
        right.lookup name = some r → Same l r) : Same (.mapping left) (.mapping right)

/-- How two optional nodes differ. -/
def DiffersHow (left right : Option Node) : ChangeType → Prop
  | .added => left = none ∧ right.isSome = true
  | .removed => left.isSome = true ∧ right = none
  | .changed => ∃ l r, left = some l ∧ right = some r ∧ l.comparable r = false ∧ ¬Same l r

/-- The documents differ at a location in a way, and have containers of one kind above it. -/
structure DiffersAt (left right : Node) (location : Location) (how : ChangeType) : Prop where
  inside : ∀ above step rest, location = above ++ step :: rest →
    ∃ l r, left.at? above = some l ∧ right.at? above = some r ∧ l.comparable r = true
  differs : DiffersHow (left.at? location) (right.at? location) how

/-- A location and how the documents differ there. -/
abbrev Difference := Location × ChangeType

/-- The difference one step further down. -/
def Difference.under (step : Step) (d : Difference) : Difference := (step :: d.1, d.2)

/-- The differences under a key, given those of the nodes that both mappings have. -/
def keyDifferences (left right : List (String × Node)) (children : List (String × List Difference))
    (name : String) : List Difference :=
  if name ∉ keys left then [([.key name], .added)]
  else if name ∉ keys right then [([.key name], .removed)]
  else ((children.lookup name).getD []).map (Difference.under (.key name))

mutual

/-- The differences of two nodes, in the order of the walk. -/
def differences : Node → Node → List Difference
  | .mapping left, right =>
    match right with
    | .mapping right =>
      (sortedKeys left right).flatMap (keyDifferences left right (entryDifferences left right))
    | _ => [([], .changed)]
  | .list left, right =>
    match right with
    | .list right => itemDifferences left right 0
    | _ => [([], .changed)]
  | .scalar left, right => if Node.differs (.scalar left) right then [([], .changed)] else []

/-- The differences of two mappings, key by key. -/
def entryDifferences : List (String × Node) → List (String × Node) →
    List (String × List Difference)
  | [], _ => []
  | (name, left) :: rest, right =>
    match right.lookup name with
    | some other => (name, differences left other) :: entryDifferences rest right
    | none => entryDifferences rest right

/-- The differences of two lists, index by index. -/
def itemDifferences : List Node → List Node → Nat → List Difference
  | [], right, index => (List.range right.length).map fun i => ([.index (index + i)], .added)
  | left :: rest, right, index =>
    match right with
    | [] => (List.range (rest.length + 1)).map fun i => ([.index (index + i)], .removed)
    | other :: others =>
      (differences left other).map (Difference.under (.index index)) ++
        itemDifferences rest others (index + 1)

end

/-! ## Looking up -/

variable {left right : List (String × Node)} {name : String} {l r : Node} {d : Difference}

theorem mem_keys_iff : name ∈ keys left ↔ ∃ l, left.lookup name = some l := by
  induction left with
  | nil => simp [keys]
  | cons entry rest ih =>
    obtain ⟨other, node⟩ := entry
    have hstep : name ∈ keys ((other, node) :: rest) ↔ name = other ∨ name ∈ keys rest := by
      simp [keys]
    rw [hstep, ih]
    by_cases hname : name = other
    · subst hname
      simp
    · have hbeq : (name == other) = false := by simpa using hname
      simp [List.lookup_cons, hbeq, hname]

theorem not_mem_keys_iff : name ∉ keys left ↔ left.lookup name = none := by
  rw [mem_keys_iff]
  cases h : left.lookup name with
  | none => simp
  | some l => simp

theorem mem_of_lookup (h : left.lookup name = some l) : (name, l) ∈ left := by
  obtain ⟨before, after, rfl, -⟩ := List.lookup_eq_some_iff.mp h
  exact List.mem_append_right _ List.mem_cons_self

/-- The sorted keys are those of either side. -/
theorem mem_sortedKeys : name ∈ sortedKeys left right ↔ name ∈ keys left ∨ name ∈ keys right := by
  rw [sortedKeys, (List.perm_insertionSort _ _).mem_iff, List.mem_dedup, List.mem_union_iff]

theorem sortedKeys_nodup : (sortedKeys left right).Nodup :=
  (List.perm_insertionSort _ _).nodup_iff.mpr (List.nodup_dedup _)

/-- The differences of the two nodes under a key that both mappings have. -/
theorem lookup_entryDifferences (hl : left.lookup name = some l) (hr : right.lookup name = some r) :
    (entryDifferences left right).lookup name = some (differences l r) := by
  induction left with
  | nil => cases hl
  | cons entry rest ih =>
    obtain ⟨other, node⟩ := entry
    by_cases hname : name = other
    · subst hname
      obtain rfl : node = l := by simpa [List.lookup_cons] using hl
      unfold entryDifferences
      rw [hr]
      simp
    · have hbeq : (name == other) = false := by simpa using hname
      rw [List.lookup_cons, hbeq] at hl
      have hrest := ih hl
      unfold entryDifferences
      cases right.lookup other with
      | none => exact hrest
      | some found =>
        dsimp only
        rw [List.lookup_cons, hbeq]
        exact hrest

/-! ## One step down -/

/-- The node one step below a container. -/
def Node.child? : Node → Step → Option Node
  | .mapping entries, .key name => entries.lookup name
  | .list items, .index i => items[i]?
  | _, _ => none

theorem Node.at?_nil (node : Node) : node.at? [] = some node := by
  cases node <;> rfl

/-- A location goes through the child of its first step. -/
theorem Node.at?_cons (node : Node) (step : Step) (rest : Location) :
    node.at? (step :: rest) = (node.child? step).bind fun child => child.at? rest := by
  cases node <;> cases step <;> rfl

/-- Induction over documents. -/
theorem Node.induction {P : Node → Prop} (hscalar : ∀ value, P (.scalar value))
    (hlist : ∀ items : List Node, (∀ node ∈ items, P node) → P (.list items))
    (hmapping : ∀ entries : List (String × Node), (∀ entry ∈ entries, P entry.2) →
      P (.mapping entries)) (node : Node) : P node :=
  @Node.rec P (fun items => ∀ node ∈ items, P node) (fun entries => ∀ entry ∈ entries, P entry.2)
    (fun entry => P entry.2) hscalar (fun items ih => hlist items ih)
    (fun entries ih => hmapping entries ih) (by simp)
    (fun _ _ hhead htail => List.forall_mem_cons.mpr ⟨hhead, htail⟩) (by simp)
    (fun _ _ hhead htail => List.forall_mem_cons.mpr ⟨hhead, htail⟩) (fun _ _ h => h) node

/-- Induction over documents, from what is one step below. -/
theorem Node.below_induction {P : Node → Prop}
    (h : ∀ node : Node, (∀ step child, node.child? step = some child → P child) → P node)
    (node : Node) : P node := by
  induction node using Node.induction with
  | hscalar value =>
    refine h _ (fun step child hchild => ?_)
    cases step <;> cases hchild
  | hlist items ih =>
    refine h _ (fun step child hchild => ?_)
    cases step with
    | key name => cases hchild
    | index i => exact ih child (List.mem_of_getElem? hchild)
  | hmapping entries ih =>
    refine h _ (fun step child hchild => ?_)
    cases step with
    | key name => exact ih (name, child) (mem_of_lookup hchild)
    | index i => cases hchild

/-- A difference seen from the container one step above it. -/
inductive StepDiffers : Option Node → Option Node → Location → ChangeType → Prop
  | added {r : Node} : StepDiffers none (some r) [] .added
  | removed {l : Node} : StepDiffers (some l) none [] .removed
  | below {l r : Node} {rest : Location} {how : ChangeType} (h : DiffersAt l r rest how) :
      StepDiffers (some l) (some r) rest how

variable {location : Location} {how : ChangeType}

/-- Containers of one kind differ one step further down. -/
theorem differsAt_container (hcomparable : l.comparable r = true) :
    DiffersAt l r location how ↔
      ∃ step rest, location = step :: rest ∧ StepDiffers (l.child? step) (r.child? step) rest how := by
  constructor
  · intro h
    have hdiffers := h.differs
    cases location with
    | nil =>
      rw [Node.at?_nil, Node.at?_nil] at hdiffers
      cases how with
      | added => cases hdiffers.1
      | removed => cases hdiffers.2
      | changed =>
        obtain ⟨_, _, hl, hr, hnot, -⟩ := hdiffers
        obtain rfl := Option.some.inj hl
        obtain rfl := Option.some.inj hr
        rw [hcomparable] at hnot
        cases hnot
    | cons step rest =>
      refine ⟨step, rest, rfl, ?_⟩
      -- a node that is missing on one side has nothing below it on either
      have hend : (l.child? step = none ∨ r.child? step = none) → rest = [] := by
        intro hmissing
        cases rest with
        | nil => rfl
        | cons next rest =>
          obtain ⟨_, _, hl, hr, -⟩ := h.inside [step] next rest rfl
          rw [Node.at?_cons] at hl hr
          rcases hmissing with hnone | hnone
          · rw [hnone] at hl
            cases hl
          · rw [hnone] at hr
            cases hr
      rw [Node.at?_cons, Node.at?_cons] at hdiffers
      cases hl : l.child? step with
      | none =>
        obtain rfl := hend (.inl hl)
        rw [hl] at hdiffers
        cases hr : r.child? step with
        | none =>
          rw [hr] at hdiffers
          cases how with
          | added => cases hdiffers.2
          | removed => cases hdiffers.1
          | changed =>
            obtain ⟨_, _, hnone, -⟩ := hdiffers
            cases hnone
        | some r' =>
          cases how with
          | added => exact .added
          | removed => cases hdiffers.1
          | changed =>
            obtain ⟨_, _, hnone, -⟩ := hdiffers
            cases hnone
      | some l' =>
        rw [hl] at hdiffers
        cases hr : r.child? step with
        | none =>
          obtain rfl := hend (.inr hr)
          rw [hr] at hdiffers
          cases how with
          | added => cases hdiffers.2
          | removed => exact .removed
          | changed =>
            obtain ⟨_, _, -, hnone, -⟩ := hdiffers
            cases hnone
        | some r' =>
          rw [hr] at hdiffers
          refine .below ⟨?_, hdiffers⟩
          rintro above next below rfl
          have habove := h.inside (step :: above) next below rfl
          rw [Node.at?_cons, Node.at?_cons, hl, hr] at habove
          exact habove
  · rintro ⟨step, rest, rfl, hstep⟩
    have hinside : ∀ l' r', l.child? step = some l' → r.child? step = some r' →
        DiffersAt l' r' rest how → DiffersAt l r (step :: rest) how := by
      intro l' r' hl hr h
      refine ⟨?_, ?_⟩
      · rintro above next below heq
        cases above with
        | nil => exact ⟨l, r, l.at?_nil, r.at?_nil, hcomparable⟩
        | cons first above =>
          obtain ⟨rfl, hrest⟩ := List.cons.inj heq
          rw [Node.at?_cons, Node.at?_cons, hl, hr]
          exact h.inside above next below hrest
      · rw [Node.at?_cons, Node.at?_cons, hl, hr]
        exact h.differs
    have hshort : ∀ above next below, [step] = above ++ next :: below →
        ∃ l' r', l.at? above = some l' ∧ r.at? above = some r' ∧ l'.comparable r' = true := by
      intro above next below heq
      cases above with
      | nil => exact ⟨l, r, l.at?_nil, r.at?_nil, hcomparable⟩
      | cons first above =>
        have hlength := congrArg List.length heq
        simp at hlength
    generalize hl : l.child? step = left at hstep
    generalize hr : r.child? step = right at hstep
    cases hstep with
    | added =>
      refine ⟨hshort, ?_, ?_⟩
      · rw [Node.at?_cons, hl]
        rfl
      · rw [Node.at?_cons, hr, Option.bind_some, Node.at?_nil]
        rfl
    | removed =>
      refine ⟨hshort, ?_, ?_⟩
      · rw [Node.at?_cons, hl, Option.bind_some, Node.at?_nil]
        rfl
      · rw [Node.at?_cons, hr]
        rfl
    | below h => exact hinside _ _ hl hr h

/-- Nodes that are no containers of one kind differ as they stand, or not at all. -/
theorem differsAt_leaf (hleaf : l.comparable r = false) :
    DiffersAt l r location how ↔ location = [] ∧ how = .changed ∧ ¬Same l r := by
  constructor
  · intro h
    cases location with
    | cons step rest =>
      obtain ⟨_, _, hl, hr, hcomparable⟩ := h.inside [] step rest rfl
      rw [Node.at?_nil] at hl hr
      obtain rfl := Option.some.inj hl
      obtain rfl := Option.some.inj hr
      rw [hleaf] at hcomparable
      cases hcomparable
    | nil =>
      have hdiffers := h.differs
      rw [Node.at?_nil, Node.at?_nil] at hdiffers
      cases how with
      | added => cases hdiffers.1
      | removed => cases hdiffers.2
      | changed =>
        obtain ⟨_, _, hl, hr, -, hnot⟩ := hdiffers
        obtain rfl := Option.some.inj hl
        obtain rfl := Option.some.inj hr
        exact ⟨rfl, rfl, hnot⟩
  · rintro ⟨rfl, rfl, hnot⟩
    refine ⟨?_, l, r, l.at?_nil, r.at?_nil, hleaf, hnot⟩
    intro above step rest heq
    have hlength := congrArg List.length heq
    simp at hlength

/-! ## The list of differences -/

/-- Two scalars are the same exactly if they do not differ. -/
theorem same_scalar_iff {a b : Scalar} :
    Same (.scalar a) (.scalar b) ↔ Node.differs (.scalar a) (.scalar b) = false := by
  constructor
  · intro h
    cases h with
    | scalar htype hequal => simp [Node.differs, htype, hequal]
  · intro h
    simp only [Node.differs, Bool.or_eq_false_iff, decide_eq_false_iff_not, not_not,
      Bool.not_eq_false'] at h
    exact .scalar h.1 h.2

/-- The differences below a step start with it. -/
theorem mem_under {step : Step} {ds : List Difference} :
    (location, how) ∈ ds.map (Difference.under step) ↔
      ∃ rest, location = step :: rest ∧ (rest, how) ∈ ds := by
  rw [List.mem_map]
  constructor
  · rintro ⟨⟨rest, _⟩, hmem, heq⟩
    obtain ⟨rfl, rfl⟩ := Prod.mk.inj heq
    exact ⟨rest, rfl, hmem⟩
  · rintro ⟨rest, rfl, hmem⟩
    exact ⟨(rest, how), hmem, rfl⟩

/-- The differences of two sequences, item by item. -/
theorem mem_itemDifferences {items others : List Node}
    (ih : ∀ l ∈ items, ∀ (r : Node) (location : Location) (how : ChangeType),
      (location, how) ∈ differences l r ↔ DiffersAt l r location how) (index : Nat) :
    (location, how) ∈ itemDifferences items others index ↔
      ∃ i rest, location = .index (index + i) :: rest ∧
        StepDiffers (items[i]?) (others[i]?) rest how := by
  induction items generalizing others index with
  -- what is left of the other sequence was added
  | nil =>
    unfold itemDifferences
    rw [List.mem_map]
    constructor
    · rintro ⟨i, hi, heq⟩
      obtain ⟨rfl, rfl⟩ := Prod.mk.inj heq
      refine ⟨i, [], rfl, ?_⟩
      rw [List.getElem?_nil, List.getElem?_eq_getElem (List.mem_range.mp hi)]
      exact .added
    · rintro ⟨i, rest, rfl, hstep⟩
      rw [List.getElem?_nil] at hstep
      generalize hr : others[i]? = right at hstep
      cases hstep with
      | added => exact ⟨i, List.mem_range.mpr (List.getElem?_eq_some_iff.mp hr).1, rfl⟩
  | cons l items hitems =>
    cases others with
    | nil =>
      unfold itemDifferences
      rw [List.mem_map]
      constructor
      · rintro ⟨i, hi, heq⟩
        obtain ⟨rfl, rfl⟩ := Prod.mk.inj heq
        refine ⟨i, [], rfl, ?_⟩
        rw [List.getElem?_nil, List.getElem?_eq_getElem (List.mem_range.mp hi)]
        exact .removed
      · rintro ⟨i, rest, rfl, hstep⟩
        rw [List.getElem?_nil] at hstep
        generalize hl : (l :: items)[i]? = left at hstep
        cases hstep with
        | removed => exact ⟨i, List.mem_range.mpr (List.getElem?_eq_some_iff.mp hl).1, rfl⟩
    -- the first items are compared, the others are one index further
    | cons r others =>
      unfold itemDifferences
      rw [List.mem_append, mem_under,
        hitems (fun l' hl' => ih l' (List.mem_cons_of_mem _ hl')) (index + 1)]
      constructor
      · rintro (⟨rest, rfl, hmem⟩ | ⟨i, rest, rfl, hstep⟩)
        · exact ⟨0, rest, rfl, .below ((ih l (by simp) r rest how).mp hmem)⟩
        · exact ⟨i + 1, rest, by rw [Nat.add_assoc, Nat.add_comm 1], hstep⟩
      · rintro ⟨i, rest, rfl, hstep⟩
        cases i with
        | zero =>
          cases hstep with
          | below h => exact .inl ⟨rest, rfl, (ih l (by simp) r rest how).mpr h⟩
        | succ i => exact .inr ⟨i, rest, by rw [Nat.add_assoc, Nat.add_comm 1], hstep⟩

/-- What the differences under a key are, as the key is in one mapping or in both. -/
theorem keyDifferences_eq {left right : List (String × Node)}
    (hname : name ∈ sortedKeys left right) :
    (∃ r, left.lookup name = none ∧ right.lookup name = some r ∧
        keyDifferences left right (entryDifferences left right) name =
          [([.key name], .added)]) ∨
      (∃ l, left.lookup name = some l ∧ right.lookup name = none ∧
        keyDifferences left right (entryDifferences left right) name =
          [([.key name], .removed)]) ∨
      ∃ l r, left.lookup name = some l ∧ right.lookup name = some r ∧
        keyDifferences left right (entryDifferences left right) name =
          (differences l r).map (Difference.under (.key name)) := by
  unfold keyDifferences
  by_cases hleft : name ∈ keys left
  · obtain ⟨l, hl⟩ := mem_keys_iff.mp hleft
    rw [if_neg (not_not.mpr hleft)]
    by_cases hright : name ∈ keys right
    · obtain ⟨r, hr⟩ := mem_keys_iff.mp hright
      rw [if_neg (not_not.mpr hright), lookup_entryDifferences hl hr]
      exact .inr (.inr ⟨l, r, hl, hr, rfl⟩)
    · rw [if_pos hright]
      exact .inr (.inl ⟨l, hl, not_mem_keys_iff.mp hright, rfl⟩)
  · obtain ⟨r, hr⟩ := mem_keys_iff.mp ((mem_sortedKeys.mp hname).resolve_left hleft)
    rw [if_pos hleft]
    exact .inl ⟨r, not_mem_keys_iff.mp hleft, hr, rfl⟩

/-- The differences of two mappings, key by key. -/
theorem mem_mappingDifferences {left right : List (String × Node)}
    (ih : ∀ entry ∈ left, ∀ (r : Node) (location : Location) (how : ChangeType),
      (location, how) ∈ differences entry.2 r ↔ DiffersAt entry.2 r location how) :
    (location, how) ∈ differences (.mapping left) (.mapping right) ↔
      ∃ name rest, location = .key name :: rest ∧
        StepDiffers (left.lookup name) (right.lookup name) rest how := by
  -- a key of either mapping contributes what differs under it
  have hkey : ∀ name ∈ sortedKeys left right,
      ((location, how) ∈ keyDifferences left right (entryDifferences left right) name ↔
        ∃ rest, location = .key name :: rest ∧
          StepDiffers (left.lookup name) (right.lookup name) rest how) := by
    intro name hname
    rcases keyDifferences_eq hname with ⟨r, hl, hr, heq⟩ | ⟨l, hl, hr, heq⟩ | ⟨l, r, hl, hr, heq⟩
    · rw [heq, hl, hr, List.mem_singleton, Prod.mk.injEq]
      constructor
      · rintro ⟨rfl, rfl⟩
        exact ⟨[], rfl, .added⟩
      · rintro ⟨rest, rfl, hstep⟩
        cases hstep
        exact ⟨rfl, rfl⟩
    · rw [heq, hl, hr, List.mem_singleton, Prod.mk.injEq]
      constructor
      · rintro ⟨rfl, rfl⟩
        exact ⟨[], rfl, .removed⟩
      · rintro ⟨rest, rfl, hstep⟩
        cases hstep
        exact ⟨rfl, rfl⟩
    · have hbelow := ih (name, l) (mem_of_lookup hl) r
      rw [heq, hl, hr, mem_under]
      constructor
      · rintro ⟨rest, rfl, hmem⟩
        exact ⟨rest, rfl, .below ((hbelow rest how).mp hmem)⟩
      · rintro ⟨rest, rfl, hstep⟩
        cases hstep with
        | below h => exact ⟨rest, rfl, (hbelow rest how).mpr h⟩
  unfold differences
  dsimp only
  rw [List.mem_flatMap]
  constructor
  · rintro ⟨name, hname, hmem⟩
    exact ⟨name, (hkey name hname).mp hmem⟩
  · rintro ⟨name, rest, rfl, hstep⟩
    have hname : name ∈ sortedKeys left right := by
      rw [mem_sortedKeys, mem_keys_iff, mem_keys_iff]
      generalize left.lookup name = left' at hstep
      generalize right.lookup name = right' at hstep
      cases hstep with
      | added => exact .inr ⟨_, rfl⟩
      | removed => exact .inl ⟨_, rfl⟩
      | below _ => exact .inl ⟨_, rfl⟩
    exact ⟨name, hname, (hkey name hname).mpr ⟨rest, rfl, hstep⟩⟩

/-- Nodes that are no containers of one kind are compared as they stand. -/
theorem differences_leaf (hleaf : l.comparable r = false) :
    differences l r = if Node.differs l r then [([], .changed)] else [] := by
  cases l with
  | scalar value =>
    unfold differences
    rfl
  | list items =>
    unfold differences
    cases r with
    | list others => cases hleaf
    | scalar value => rfl
    | mapping entries => rfl
  | mapping entries =>
    unfold differences
    cases r with
    | mapping others => cases hleaf
    | scalar value => rfl
    | list items => rfl

/-- Of nodes that are not compared inside, the difference is their own. -/
theorem differs_iff (hleaf : l.comparable r = false) :
    Node.differs l r = true ↔ ¬Same l r := by
  constructor
  · intro hdiffers hsame
    cases hsame with
    | scalar htype hequal =>
      rw [same_scalar_iff.mp (.scalar htype hequal)] at hdiffers
      cases hdiffers
    | list _ _ => cases hleaf
    | mapping _ _ => cases hleaf
  · intro hnot
    by_contra hequal
    rw [Bool.not_eq_true] at hequal
    cases l with
    | scalar a =>
      cases r with
      | scalar b => exact hnot (same_scalar_iff.mpr hequal)
      | list items => cases hequal
      | mapping entries => cases hequal
    | list items => cases hequal
    | mapping entries => cases hequal

/-- Such nodes differ at their root or nowhere. -/
theorem mem_differences_leaf (hleaf : l.comparable r = false) :
    (location, how) ∈ differences l r ↔ DiffersAt l r location how := by
  rw [differsAt_leaf hleaf, differences_leaf hleaf, ← differs_iff hleaf]
  by_cases hdiffers : Node.differs l r = true
  · rw [if_pos hdiffers, List.mem_singleton, Prod.mk.injEq]
    exact ⟨fun h => ⟨h.1, h.2, hdiffers⟩, fun h => ⟨h.1, h.2.1⟩⟩
  · rw [if_neg hdiffers]
    exact iff_of_false (by simp) (fun h => hdiffers h.2.2)

/-- The list holds exactly the differences. -/
theorem mem_differences (l r : Node) (location : Location) (how : ChangeType) :
    (location, how) ∈ differences l r ↔ DiffersAt l r location how := by
  induction l using Node.induction generalizing r location how with
  | hscalar value =>
    have hleaf : (Node.scalar value).comparable r = false := by cases r <;> rfl
    exact mem_differences_leaf hleaf
  | hlist items ih =>
    cases r with
    | list others =>
      rw [differsAt_container rfl]
      unfold differences
      dsimp only
      rw [mem_itemDifferences (fun l hl r location how => ih l hl r location how) 0]
      constructor
      · rintro ⟨i, rest, rfl, hstep⟩
        exact ⟨.index (0 + i), rest, rfl, by rw [Nat.zero_add]; exact hstep⟩
      · rintro ⟨step, rest, rfl, hstep⟩
        cases step with
        | key name => cases hstep
        | index i => exact ⟨i, rest, by rw [Nat.zero_add], hstep⟩
    | scalar value => exact mem_differences_leaf rfl
    | mapping entries => exact mem_differences_leaf rfl
  | hmapping entries ih =>
    cases r with
    | mapping others =>
      rw [differsAt_container rfl,
        mem_mappingDifferences (fun entry he r location how => ih entry he r location how)]
      constructor
      · rintro ⟨name, rest, rfl, hstep⟩
        exact ⟨.key name, rest, rfl, hstep⟩
      · rintro ⟨step, rest, rfl, hstep⟩
        cases step with
        | key name => exact ⟨name, rest, rfl, hstep⟩
        | index i => cases hstep
    | scalar value => exact mem_differences_leaf rfl
    | list items => exact mem_differences_leaf rfl

/-! ## Equal documents -/

/-- Containers of one kind are equal as their parts are. -/
theorem same_container {l r : Node} (hcomparable : l.comparable r = true) :
    Same l r ↔ (∀ step, l.child? step = none ↔ r.child? step = none) ∧
      ∀ step l' r', l.child? step = some l' → r.child? step = some r' → Same l' r' := by
  -- comparable nodes are two lists or two mappings
  cases l with
  | scalar value => cases r <;> cases hcomparable
  | list items =>
    cases r with
    | scalar value => cases hcomparable
    | mapping entries => cases hcomparable
    | list others =>
      constructor
      · intro h
        cases h with
        | list hlength hitems =>
          constructor
          · intro step
            cases step with
            | key name => exact Iff.rfl
            | index i =>
              show items[i]? = none ↔ others[i]? = none
              rw [List.getElem?_eq_none_iff, List.getElem?_eq_none_iff, hlength]
          · intro step l' r' hl hr
            cases step with
            | key name => cases hl
            | index i => exact hitems i l' r' hl hr
      -- neither list has an entry behind the end of the other
      · rintro ⟨hnone, hsome⟩
        refine .list (Nat.le_antisymm ?_ ?_) (fun i l' r' hl hr => hsome (.index i) l' r' hl hr)
        · exact List.getElem?_eq_none_iff.mp
            ((hnone (.index others.length)).mpr (List.getElem?_eq_none_iff.mpr (Nat.le_refl _)))
        · exact List.getElem?_eq_none_iff.mp
            ((hnone (.index items.length)).mp (List.getElem?_eq_none_iff.mpr (Nat.le_refl _)))
  | mapping entries =>
    cases r with
    | scalar value => cases hcomparable
    | list items => cases hcomparable
    | mapping others =>
      constructor
      · intro h
        cases h with
        | mapping hkeys hentries =>
          constructor
          · intro step
            cases step with
            | key name =>
              show entries.lookup name = none ↔ others.lookup name = none
              rw [← not_mem_keys_iff, ← not_mem_keys_iff, hkeys]
            | index i => exact Iff.rfl
          · intro step l' r' hl hr
            cases step with
            | key name => exact hentries name l' r' hl hr
            | index i => cases hl
      -- the keys are those under which something is found
      · rintro ⟨hnone, hsome⟩
        refine .mapping (fun name => ?_) (fun name l' r' hl hr => hsome (.key name) l' r' hl hr)
        have hlookup : entries.lookup name = none ↔ others.lookup name = none := hnone (.key name)
        rw [← not_iff_not, not_mem_keys_iff, not_mem_keys_iff, hlookup]

/-- Documents are equal exactly when they differ nowhere. -/
theorem same_iff (l r : Node) : Same l r ↔ ∀ location how, ¬DiffersAt l r location how := by
  induction l using Node.below_induction generalizing r with
  | h l ih =>
    cases hcomparable : l.comparable r with
    | false =>
      constructor
      · intro hsame location how h
        exact ((differsAt_leaf hcomparable).mp h).2.2 hsame
      · intro hnone
        by_contra hnot
        exact hnone [] .changed ((differsAt_leaf hcomparable).mpr ⟨rfl, rfl, hnot⟩)
    | true =>
      rw [same_container hcomparable]
      constructor
      · rintro ⟨hnone, hsome⟩ location how h
        obtain ⟨step, rest, rfl, hstep⟩ := (differsAt_container hcomparable).mp h
        generalize hl : l.child? step = left at hstep
        generalize hr : r.child? step = right at hstep
        cases hstep with
        | added =>
          rw [(hnone step).mp hl] at hr
          cases hr
        | removed =>
          rw [(hnone step).mpr hr] at hl
          cases hl
        | below hbelow => exact (ih step _ hl _).mp (hsome step _ _ hl hr) _ _ hbelow
      · intro hno
        -- a part that only one side has, or that differs below, is a difference
        have hstep : ∀ step rest how, ¬StepDiffers (l.child? step) (r.child? step) rest how :=
          fun step rest how hs =>
            hno (step :: rest) how ((differsAt_container hcomparable).mpr ⟨step, rest, rfl, hs⟩)
        constructor
        · intro step
          have hs := hstep step []
          cases hl : l.child? step with
          | none =>
            cases hr : r.child? step with
            | none => exact Iff.rfl
            | some r' =>
              rw [hl, hr] at hs
              exact absurd .added (hs .added)
          | some l' =>
            cases hr : r.child? step with
            | none =>
              rw [hl, hr] at hs
              exact absurd .removed (hs .removed)
            | some r' => exact iff_of_false nofun nofun
        · intro step l' r' hl hr
          refine (ih step l' hl r').mpr (fun rest how hbelow => ?_)
          have hs := hstep step rest how
          rw [hl, hr] at hs
          exact hs (.below hbelow)

/-! ## No difference twice -/

/-- The differences of a list are at its indices. -/
theorem itemDifferences_index {items others : List Node} {index : Nat}
    (h : d ∈ itemDifferences items others index) :
    ∃ i rest, index ≤ i ∧ d.1 = .index i :: rest := by
  obtain ⟨location, how⟩ := d
  obtain ⟨i, rest, heq, -⟩ :=
    (mem_itemDifferences (fun l _ => mem_differences l) index).mp h
  exact ⟨index + i, rest, Nat.le_add_right _ _, heq⟩

/-- Below one step the differences stay apart. -/
theorem nodup_under (step : Step) {ds : List Difference} (h : ds.Nodup) :
    (ds.map (Difference.under step)).Nodup := by
  refine h.map (fun a b hab => ?_)
  obtain ⟨hlocation, hhow⟩ := Prod.mk.inj hab
  exact Prod.ext (List.cons.inj hlocation).2 hhow

/-- Added and removed items are at different indices. -/
theorem nodup_rangeDifferences (how : ChangeType) (index n : Nat) :
    ((List.range n).map fun i => (([Step.index (index + i)], how) : Difference)).Nodup := by
  refine List.nodup_range.map (fun i j hij => ?_)
  have hindex : Step.index (index + i) = .index (index + j) :=
    (List.cons.inj (Prod.mk.inj hij).1).1
  have := Step.index.inj hindex
  omega

/-- By induction on the items: no difference is listed twice. -/
theorem nodup_itemDifferences {items others : List Node}
    (ih : ∀ l ∈ items, ∀ r, (differences l r).Nodup) (index : Nat) :
    (itemDifferences items others index).Nodup := by
  induction items generalizing others index with
  | nil =>
    unfold itemDifferences
    exact nodup_rangeDifferences _ _ _
  | cons l items hitems =>
    unfold itemDifferences
    cases others with
    | nil => exact nodup_rangeDifferences _ _ _
    | cons r others =>
      refine List.Nodup.append (nodup_under _ (ih l (by simp) r))
        (hitems (fun l' hl' => ih l' (List.mem_cons_of_mem _ hl')) (index + 1)) ?_
      -- what is below an item starts with its index, and the later items have larger ones
      rintro ⟨location, how⟩ hbelow hlater
      obtain ⟨rest, rfl, -⟩ := mem_under.mp hbelow
      obtain ⟨i, rest', hi, heq⟩ := itemDifferences_index hlater
      have := Step.index.inj (List.cons.inj heq).1
      omega

/-- Everything under a key starts with it. -/
theorem keyDifferences_key {children : List (String × List Difference)}
    (h : d ∈ keyDifferences left right children name) : ∃ rest, d.1 = .key name :: rest := by
  unfold keyDifferences at h
  split at h
  · obtain rfl := List.mem_singleton.mp h
    exact ⟨[], rfl⟩
  split at h
  · obtain rfl := List.mem_singleton.mp h
    exact ⟨[], rfl⟩
  · obtain ⟨below, -, rfl⟩ := List.mem_map.mp h
    exact ⟨below.1, rfl⟩

/-- No difference of two mappings is listed twice. -/
theorem nodup_mappingDifferences {left right : List (String × Node)}
    (ih : ∀ entry ∈ left, ∀ r, (differences entry.2 r).Nodup) :
    (differences (.mapping left) (.mapping right)).Nodup := by
  unfold differences
  refine List.nodup_flatMap.mpr ⟨fun name hname => ?_, sortedKeys_nodup.imp ?_⟩
  · rcases keyDifferences_eq hname with ⟨r, -, -, heq⟩ | ⟨l, -, -, heq⟩ | ⟨l, r, hl, -, heq⟩
    · rw [heq]
      exact List.nodup_singleton _
    · rw [heq]
      exact List.nodup_singleton _
    · rw [heq]
      exact nodup_under _ (ih (name, l) (mem_of_lookup hl) r)
  · intro a b hne d ha hb
    obtain ⟨rest, hrest⟩ := keyDifferences_key ha
    obtain ⟨rest', hrest'⟩ := keyDifferences_key hb
    rw [hrest] at hrest'
    exact hne (Step.key.inj (List.cons.inj hrest').1)

/-- No difference is listed twice. -/
theorem nodup_differences (l r : Node) : (differences l r).Nodup := by
  have hleaf : ∀ {l r : Node}, l.comparable r = false → (differences l r).Nodup := by
    intro l r hleaf
    rw [differences_leaf hleaf]
    split <;> simp
  induction l using Node.induction generalizing r with
  | hscalar value => exact hleaf (by cases r <;> rfl)
  | hlist items ih =>
    cases r with
    | list others =>
      unfold differences
      exact nodup_itemDifferences ih 0
    | scalar value => exact hleaf rfl
    | mapping entries => exact hleaf rfl
  | hmapping entries ih =>
    cases r with
    | mapping others => exact nodup_mappingDifferences ih
    | scalar value => exact hleaf rfl
    | list items => exact hleaf rfl

/-! ## The other way round -/

/-- The same difference with the documents exchanged. -/
def ChangeType.swap : ChangeType → ChangeType
  | added => removed
  | removed => added
  | changed => changed

/-- The difference the other way round. -/
def Difference.swap (d : Difference) : Difference := (d.1, d.2.swap)

/-- Swapping the sides commutes with a step. -/
theorem map_under_swap (step : Step) (ds : List Difference) :
    (ds.map (Difference.under step)).map Difference.swap =
      (ds.map Difference.swap).map (Difference.under step) := by
  rw [List.map_map, List.map_map]
  rfl

/-- Equality of scalars is symmetric, numbers of different types included. -/
theorem Scalar.equal_comm (a b : Scalar) : a.equal b = b.equal a := by
  unfold Scalar.equal
  cases ha : a.number? with
  | some x =>
    cases hb : b.number? with
    | some y => simp [eq_comm]
    | none =>
      have hne : a ≠ b := by
        rintro rfl
        rw [ha] at hb
        cases hb
      simp [hne, hne.symm]
  | none =>
    by_cases hab : a = b
    · subst hab
      rw [ha]
    · cases hb : b.number? with
      | some y => simp [hab, Ne.symm hab]
      | none => simp [hab, Ne.symm hab]

theorem Node.differs_comm (l r : Node) : Node.differs l r = Node.differs r l := by
  cases l with
  | scalar a =>
    cases r with
    | scalar b =>
      show (decide (a.typeName ≠ b.typeName) || !a.equal b) =
        (decide (b.typeName ≠ a.typeName) || !b.equal a)
      rw [Scalar.equal_comm a b]
      by_cases htype : a.typeName = b.typeName
      · rw [htype]
      · simp [htype, Ne.symm htype]
    | list items => rfl
    | mapping entries => rfl
  | list items => cases r <;> rfl
  | mapping entries => cases r <;> rfl

theorem Node.comparable_comm (l r : Node) : l.comparable r = r.comparable l := by
  cases l <;> cases r <;> rfl

/-- The keys are visited in the same order from either side. -/
theorem sortedKeys_comm (left right : List (String × Node)) :
    sortedKeys left right = sortedKeys right left := by
  have hmem : ∀ name, name ∈ (keys right ∪ keys left).dedup ↔
      name ∈ (keys left ∪ keys right).dedup := by
    intro name
    rw [List.mem_dedup, List.mem_dedup, List.mem_union_iff, List.mem_union_iff, or_comm]
  have hperm := (List.perm_ext_iff_of_nodup (List.nodup_dedup _) (List.nodup_dedup _)).mpr hmem
  exact insertionSort_eq_of_perm (· ≤ ·) (fun a _ b _ => le_antisymm)
    (List.pairwise_insertionSort _ _) ((List.perm_insertionSort _ _).trans hperm)

/-- By induction on the items: the sides may be swapped. -/
theorem itemDifferences_swap {items others : List Node}
    (ih : ∀ l ∈ items, ∀ r, differences r l = (differences l r).map Difference.swap)
    (index : Nat) :
    itemDifferences others items index =
      (itemDifferences items others index).map Difference.swap := by
  induction items generalizing others index with
  | nil =>
    cases others with
    | nil => rfl
    | cons r others =>
      unfold itemDifferences
      rw [List.map_map]
      rfl
  | cons l items hitems =>
    cases others with
    | nil =>
      unfold itemDifferences
      rw [List.map_map]
      rfl
    | cons r others =>
      unfold itemDifferences
      rw [List.map_append, map_under_swap, ← ih l (by simp) r,
        ← hitems (fun l' hl' => ih l' (List.mem_cons_of_mem _ hl'))]

theorem mappingDifferences_swap {left right : List (String × Node)}
    (ih : ∀ entry ∈ left, ∀ r, differences r entry.2 =
      (differences entry.2 r).map Difference.swap) :
    differences (.mapping right) (.mapping left) =
      (differences (.mapping left) (.mapping right)).map Difference.swap := by
  unfold differences
  dsimp only
  rw [sortedKeys_comm right left, List.map_flatMap]
  refine List.flatMap_congr (fun name hname => ?_)
  have hname' : name ∈ sortedKeys right left := sortedKeys_comm left right ▸ hname
  rcases keyDifferences_eq hname with ⟨r, hl, hr, heq⟩ | ⟨l, hl, hr, heq⟩ | ⟨l, r, hl, hr, heq⟩ <;>
    rcases keyDifferences_eq hname' with ⟨l', hr', hl', heq'⟩ | ⟨r', hr', hl', heq'⟩ |
      ⟨r', l', hr', hl', heq'⟩
  all_goals
    rw [hl] at hl'
    rw [hr] at hr'
  · cases hr'
  · rw [heq, heq']
    rfl
  · cases hl'
  · rw [heq, heq']
    rfl
  · cases hl'
  · cases hr'
  · cases hr'
  · cases hl'
  · obtain rfl := Option.some.inj hl'
    obtain rfl := Option.some.inj hr'
    rw [heq, heq', ih (name, l) (mem_of_lookup hl) r, map_under_swap]

/-- Exchanging the documents exchanges additions and removals. -/
theorem differences_swap (l r : Node) :
    differences r l = (differences l r).map Difference.swap := by
  have hleaf : ∀ {l r : Node}, l.comparable r = false →
      differences r l = (differences l r).map Difference.swap := by
    intro l r hleaf
    rw [differences_leaf hleaf, differences_leaf (r.comparable_comm l ▸ hleaf),
      Node.differs_comm r l]
    split <;> rfl
  induction l using Node.induction generalizing r with
  | hscalar value => exact hleaf (by cases r <;> rfl)
  | hlist items ih =>
    cases r with
    | list others =>
      unfold differences
      exact itemDifferences_swap ih 0
    | scalar value => exact hleaf rfl
    | mapping entries => exact hleaf rfl
  | hmapping entries ih =>
    cases r with
    | mapping others => exact mappingDifferences_swap ih
    | scalar value => exact hleaf rfl
    | list items => exact hleaf rfl

end Aurora.ConfigProfiles
