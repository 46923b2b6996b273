/-
  The plan lists the differences of two documents.

  The walk adds the differences in order, each under the text of its location.  Keys without dots
  and brackets make that text readable back, so paths are as different as the locations they stand
  for; the plan is the first differences up to the maximum, sorted by path.
-/
import Aurora.Lib.Json
import Aurora.ConfigProfiles.Differences

namespace Aurora.ConfigProfiles

/-! ## Paths -/

/-- The path one step below a path. -/
def stepPath (path : String) : Step → String
  | .key name => childPath path name
  | .index i => itemPath path i

/-- The path of a location below a path. -/
def pathBelow (path : String) (location : Location) : String := location.foldl stepPath path

/-- The path a plan shows for a location. -/
def Location.path (location : Location) : String := pathBelow "" location

/-- The change that reports a difference. -/
def changeAt (path : String) (d : Difference) : PlanChange := ⟨pathBelow path d.1, d.2⟩

/-- A key that a path can be read back from. -/
def PlainKey (name : String) : Prop := name ≠ "" ∧ ∀ c ∈ name.toList, c ≠ '.' ∧ c ≠ '['

/-- Every key at every depth is plain. -/
def Node.Plain (node : Node) : Prop :=
  ∀ location entries, node.at? location = some (.mapping entries) →
    ∀ name ∈ keys entries, PlainKey name

/-- A configuration document. -/
structure Document where
  entries : List (String × Node)
  plain : (Node.mapping entries).Plain

/-- The document as a mapping. -/
def Document.root (document : Document) : Node := .mapping document.entries

/-! ## The walk -/

variable {left right : List (String × Node)} {name path : String} {l r : Node}

/-- The paths below a step extend its path. -/
theorem map_under (path : String) (step : Step) (ds : List Difference) :
    (ds.map (Difference.under step)).map (changeAt path) = ds.map (changeAt (stepPath path step)) := by
  rw [List.map_map]
  rfl

/-- The walk of a common key is that of its two values. -/
theorem lookup_walkEntries (hl : left.lookup name = some l) (hr : right.lookup name = some r) :
    (walkEntries left right path).lookup name = some (walk l r (childPath path name)) := by
  induction left with
  | nil => cases hl
  | cons entry rest ih =>
    obtain ⟨other, node⟩ := entry
    by_cases hname : name = other
    · subst hname
      obtain rfl : node = l := by simpa [List.lookup_cons] using hl
      unfold walkEntries
      rw [hr]
      simp
    · have hbeq : (name == other) = false := by simpa using hname
      rw [List.lookup_cons, hbeq] at hl
      have hrest := ih hl
      unfold walkEntries
      cases right.lookup other with
      | none => exact hrest
      | some found =>
        dsimp only
        rw [List.lookup_cons, hbeq]
        exact hrest

/-- Nodes that are not compared inside give their own change. -/
theorem walk_leaf (hleaf : l.comparable r = false) :
    walk l r path = (differences l r).map (changeAt path) := by
  rw [differences_leaf hleaf]
  cases l with
  | scalar value =>
    unfold walk
    split <;> rfl
  | list items =>
    unfold walk
    cases r with
    | list others => cases hleaf
    | scalar value => rfl
    | mapping entries => rfl
  | mapping entries =>
    unfold walk
    cases r with
    | mapping others => cases hleaf
    | scalar value => rfl
    | list items => rfl

/-- By induction on the items: the walk of a list gives its differences. -/
theorem walkItems_eq {items others : List Node}
    (ih : ∀ l ∈ items, ∀ r path, walk l r path = (differences l r).map (changeAt path))
    (index : Nat) :
    walkItems items others path index = (itemDifferences items others index).map (changeAt path) := by
  induction items generalizing others index with
  | nil =>
    unfold walkItems itemDifferences
    rw [List.map_map]
    rfl
  | cons l items hitems =>
    unfold walkItems itemDifferences
    cases others with
    | nil =>
      rw [List.map_map]
      rfl
    | cons r others =>
      dsimp only
      rw [List.map_append, map_under, ih l (by simp),
        hitems (fun l' hl' => ih l' (List.mem_cons_of_mem _ hl'))]
      rfl

/-- The walk adds the differences in order. -/
theorem walk_eq (l r : Node) (path : String) :
    walk l r path = (differences l r).map (changeAt path) := by
  induction l using Node.induction generalizing r path with
  | hscalar value => exact walk_leaf (by cases r <;> rfl)
  | hlist items ih =>
    cases r with
    | list others =>
      unfold walk differences
      exact walkItems_eq ih 0
    | scalar value => exact walk_leaf rfl
    | mapping entries => exact walk_leaf rfl
  | hmapping entries ih =>
    cases r with
    | mapping others =>
      unfold walk differences
      dsimp only
      rw [List.map_flatMap]
      refine List.flatMap_congr (fun name _ => ?_)
      unfold keyDifferences
      by_cases hleft : name ∈ keys entries
      · rw [if_neg (not_not.mpr hleft), if_neg (not_not.mpr hleft)]
        by_cases hright : name ∈ keys others
        · obtain ⟨l, hl⟩ := mem_keys_iff.mp hleft
          obtain ⟨r, hr⟩ := mem_keys_iff.mp hright
          rw [if_neg (not_not.mpr hright), if_neg (not_not.mpr hright), lookup_walkEntries hl hr,
            lookup_entryDifferences hl hr, Option.getD_some, Option.getD_some, map_under]
          exact ih (name, l) (mem_of_lookup hl) r _
        · rw [if_pos hright, if_pos hright]
          rfl
      · rw [if_pos hleft, if_pos hleft]
        rfl
    | scalar value => exact walk_leaf rfl
    | list items => exact walk_leaf rfl

/-! ## Reading a path back -/

/-- The text a step adds to a path. -/
def Step.text : Step → List Char
  | .key name => '.' :: name.toList
  | .index i => '[' :: (Nat.toDigits 10 i ++ [']'])

/-- The path, character by character. -/
def Location.text (location : Location) : List Char := location.flatMap Step.text

/-- Every key of the location is plain. -/
def Location.Plain (location : Location) : Prop := ∀ name, .key name ∈ location → PlainKey name

/-- What follows a step starts with a dot or a bracket. -/
theorem Step.text_head (location : Location) :
    ∀ c ∈ location.text.head?, c = '.' ∨ c = '[' := by
  intro c hc
  cases location with
  | nil => cases hc
  | cons step rest =>
    cases step with
    | key name => exact .inl (Option.some.inj hc).symm
    | index i => exact .inr (Option.some.inj hc).symm

theorem toDigits_plain {i : Nat} {c : Char} (h : c ∈ Nat.toDigits 10 i) : ¬c = ']' := by
  rintro rfl
  exact absurd (Nat.isDigit_of_mem_toDigits (by decide) (by decide) h) (by decide)

/-- A location can be read back from its text. -/
theorem Location.text_injective : ∀ {a b : Location}, a.Plain → b.Plain → a.text = b.text → a = b
  | [], [], _, _, _ => rfl
  | [], step :: b, _, _, h => by cases step <;> cases h
  | step :: a, [], _, _, h => by cases step <;> cases h
  | .key m :: a, .index i :: b, _, _, h => absurd (List.cons.inj h).1 (by decide)
  | .index i :: a, .key m :: b, _, _, h => absurd (List.cons.inj h).1 (by decide)
  | .key m :: a, .key n :: b, ha, hb, h => by
    have htext : m.toList ++ text a = n.toList ++ text b := (List.cons.inj h).2
    obtain ⟨hname, hrest⟩ := Json.cut_at
      (fun c hc => not_or.mpr ((ha m List.mem_cons_self).2 c hc))
      (fun c hc => not_or.mpr ((hb n List.mem_cons_self).2 c hc))
      (Step.text_head a) (Step.text_head b) htext
    rw [String.toList_injective hname, text_injective
      (fun name hmem => ha name (List.mem_cons_of_mem _ hmem))
      (fun name hmem => hb name (List.mem_cons_of_mem _ hmem)) hrest]
  | .index i :: a, .index j :: b, ha, hb, h => by
    have htext : Nat.toDigits 10 i ++ ']' :: text a = Nat.toDigits 10 j ++ ']' :: text b := by
      have hcons : Nat.toDigits 10 i ++ [']'] ++ text a = Nat.toDigits 10 j ++ [']'] ++ text b :=
        (List.cons.inj h).2
      rwa [List.append_assoc, List.append_assoc] at hcons
    obtain ⟨hindex, hrest⟩ := Json.cut_at (fun c hc => toDigits_plain hc)
      (fun c hc => toDigits_plain hc) (by simp) (by simp) htext
    rw [Json.toDigits_injective hindex, text_injective
      (fun name hmem => ha name (List.mem_cons_of_mem _ hmem))
      (fun name hmem => hb name (List.mem_cons_of_mem _ hmem)) (List.cons.inj hrest).2]

theorem stepPath_toList (hpath : path ≠ "") (step : Step) :
    (stepPath path step).toList = path.toList ++ step.text := by
  cases step with
  | key name =>
    show (childPath path name).toList = _
    unfold childPath
    rw [if_neg hpath, String.toList_append, String.toList_append, List.append_assoc]
    rfl
  | index i =>
    show (itemPath path i).toList = _
    unfold itemPath
    rw [String.toList_append, String.toList_append, String.toList_append, List.append_assoc,
      List.append_assoc]
    show path.toList ++ ('[' :: ((Nat.repr i).toList ++ [']'])) = _
    rw [Nat.toList_repr]
    rfl

theorem stepPath_ne (hpath : path ≠ "") (step : Step) : stepPath path step ≠ "" := by
  intro hempty
  have htext := stepPath_toList hpath step
  rw [hempty] at htext
  exact hpath (String.toList_injective (List.append_eq_nil_iff.mp htext.symm).1)

/-- A location extends a path by its text. -/
theorem pathBelow_toList (hpath : path ≠ "") (location : Location) :
    (pathBelow path location).toList = path.toList ++ location.text := by
  induction location generalizing path with
  | nil => exact (List.append_nil _).symm
  | cons step rest ih =>
    show (pathBelow (stepPath path step) rest).toList = _
    rw [ih (stepPath_ne hpath step), stepPath_toList hpath, List.append_assoc]
    rfl

/-- The path of a location that starts with a key is its text without the first dot. -/
theorem Location.path_toList {rest : Location} (hname : name ≠ "") :
    '.' :: (Location.path (.key name :: rest)).toList = Location.text (.key name :: rest) := by
  show '.' :: (pathBelow name rest).toList = _
  rw [pathBelow_toList hname]
  rfl

/-- Different locations of plain keys have different paths. -/
theorem Location.path_injective {m n : String} {a b : Location}
    (ha : Location.Plain (.key m :: a)) (hb : Location.Plain (.key n :: b))
    (h : Location.path (.key m :: a) = Location.path (.key n :: b)) :
    (.key m :: a : Location) = .key n :: b := by
  refine Location.text_injective ha hb ?_
  rw [← Location.path_toList (ha m List.mem_cons_self).1,
    ← Location.path_toList (hb n List.mem_cons_self).1, h]

/-! ## The locations of differences -/

/-- What lies in a plain document is plain. -/
theorem Node.Plain.child {step : Step} (h : l.Plain) (hchild : l.child? step = some r) : r.Plain := by
  intro location entries hat
  refine h (step :: location) entries ?_
  rw [Node.at?_cons, hchild]
  exact hat

theorem Node.Plain.key (h : l.Plain) (hchild : l.child? (.key name) = some r) : PlainKey name := by
  cases l with
  | mapping entries => exact h [] entries rfl name (mem_keys_iff.mpr ⟨r, hchild⟩)
  | scalar value => cases hchild
  | list items => cases hchild

/-- Differences of plain documents are at plain locations. -/
theorem DiffersAt.plain {location : Location} {how : ChangeType} (h : DiffersAt l r location how)
    (hl : l.Plain) (hr : r.Plain) : location.Plain := by
  induction location generalizing l r with
  | nil =>
    intro name hname
    cases hname
  | cons step rest ih =>
    cases hcomparable : l.comparable r with
    | false => cases ((differsAt_leaf hcomparable).mp h).1
    | true =>
      obtain ⟨step', rest', heq, hstep⟩ := (differsAt_container hcomparable).mp h
      obtain ⟨rfl, rfl⟩ := List.cons.inj heq
      intro name hname
      generalize hl' : l.child? step = left at hstep
      generalize hr' : r.child? step = right at hstep
      rcases List.mem_cons.mp hname with rfl | hname
      · cases hstep with
        | added => exact hr.key hr'
        | removed => exact hl.key hl'
        | below _ => exact hl.key hl'
      · cases hstep with
        | added => cases hname
        | removed => cases hname
        | below hbelow => exact ih hbelow (hl.child hl') (hr.child hr') name hname

/-- The differences of two documents are at locations that start with a key. -/
theorem Document.differsAt_key {active candidate : Document} {location : Location}
    {how : ChangeType} (h : DiffersAt active.root candidate.root location how) :
    ∃ name rest, location = .key name :: rest := by
  obtain ⟨step, rest, rfl, hstep⟩ := (differsAt_container rfl).mp h
  cases step with
  | key name => exact ⟨name, rest, rfl⟩
  | index i => cases hstep

/-- Different differences of two documents have different paths. -/
theorem Document.path_injective {active candidate : Document} {d d' : Difference}
    (h : DiffersAt active.root candidate.root d.1 d.2)
    (h' : DiffersAt active.root candidate.root d'.1 d'.2) (hpath : d.1.path = d'.1.path) :
    d.1 = d'.1 := by
  obtain ⟨m, a, ha⟩ := Document.differsAt_key h
  obtain ⟨n, b, hb⟩ := Document.differsAt_key h'
  have hplain := h.plain active.plain candidate.plain
  have hplain' := h'.plain active.plain candidate.plain
  rw [ha] at hpath hplain ⊢
  rw [hb] at hpath hplain' ⊢
  exact Location.path_injective hplain hplain' hpath

/-- At one location two documents differ in one way. -/
theorem DiffersAt.unique {location : Location} {how how' : ChangeType}
    (h : DiffersAt l r location how) (h' : DiffersAt l r location how') : how = how' := by
  have hd := h.differs
  have hd' := h'.differs
  cases hl : l.at? location <;> cases hr : r.at? location <;> rw [hl, hr] at hd hd' <;>
    cases how <;> cases how' <;> simp_all [DiffersHow]

/-! ## Keeping the first changes -/

/-- Adding changes keeps the first ones up to the maximum. -/
theorem foldl_add (maximum : Int) (changes : List PlanChange) (a : Additions) :
    changes.foldl (Additions.add maximum) a =
      ⟨a.changes ++ changes.take (maximum - a.changes.length).toNat,
        a.truncated || decide ((maximum - a.changes.length).toNat < changes.length)⟩ := by
  induction changes generalizing a with
  | nil => simp
  | cons change rest ih =>
    rw [List.foldl_cons, ih]
    unfold Additions.add
    by_cases hfull : (a.changes.length : Int) ≥ maximum
    · have hzero : (maximum - a.changes.length).toNat = 0 := by omega
      rw [if_pos hfull]
      simp [hzero]
    · have hroom : (maximum - a.changes.length).toNat =
          (maximum - (a.changes.length + 1 : Int)).toNat + 1 := by omega
      rw [if_neg hfull]
      simp [hroom]

/-- The reported changes: the first of the differences, sorted by path. -/
theorem planChanges_eq (active candidate : List (String × Node)) (maximum : Int) :
    planChanges active candidate maximum =
      ((((differences (.mapping active) (.mapping candidate)).map (changeAt "")).take
          maximum.toNat).insertionSort (fun a b => a.path ≤ b.path),
        decide (maximum.toNat <
          (differences (.mapping active) (.mapping candidate)).length)) := by
  unfold planChanges
  rw [walk_eq, foldl_add]
  simp

/-! ## The plan -/

/-- The change the other way round. -/
def PlanChange.swap (change : PlanChange) : PlanChange := ⟨change.path, change.changeType.swap⟩

instance : Std.Total (fun a b : PlanChange => a.path ≤ b.path) :=
  ⟨fun a b => le_total a.path b.path⟩

instance : IsTrans PlanChange (fun a b => a.path ≤ b.path) :=
  ⟨fun _ _ _ => le_trans⟩

/-- The changes of two documents have distinct paths. -/
theorem nodup_paths (active candidate : Document) :
    (((differences active.root candidate.root).map (changeAt "")).map PlanChange.path).Nodup := by
  rw [List.map_map]
  refine List.Nodup.map_on ?_ (nodup_differences _ _)
  intro d hd d' hd' hpath
  have h := (mem_differences _ _ _ _).mp hd
  have h' := (mem_differences _ _ _ _).mp hd'
  have hlocation := Document.path_injective h h' hpath
  rw [hlocation] at h
  exact Prod.ext hlocation (h.unique h')

/-- The reported changes are sorted, no path twice. -/
theorem planChanges_sorted (active candidate : Document) (maximum : Int) :
    (planChanges active.entries candidate.entries maximum).1.Pairwise
      (fun a b => a.path < b.path) := by
  rw [planChanges_eq]
  dsimp only
  generalize hkept : ((differences (.mapping active.entries) (.mapping candidate.entries)).map
    (changeAt "")).take maximum.toNat = kept
  have hdistinct : (kept.map PlanChange.path).Nodup := by
    rw [← hkept]
    exact (nodup_paths active candidate).sublist ((List.take_sublist _ _).map _)
  have hsort := List.perm_insertionSort (fun a b : PlanChange => a.path ≤ b.path) kept
  have hnodup : ((kept.insertionSort fun a b => a.path ≤ b.path).map PlanChange.path).Nodup :=
    (hsort.map _).nodup_iff.mpr hdistinct
  have hle := List.pairwise_insertionSort (fun a b : PlanChange => a.path ≤ b.path) kept
  exact hle.imp₂ (fun _ _ hle hne => lt_of_le_of_ne hle hne) (List.pairwise_map.mp hnodup)

/-- Every reported change is a difference of the two documents. -/
theorem mem_planChanges {active candidate : List (String × Node)} {maximum : Int}
    {change : PlanChange} (h : change ∈ (planChanges active candidate maximum).1) :
    ∃ d : Difference, DiffersAt (.mapping active) (.mapping candidate) d.1 d.2 ∧
      change = ⟨d.1.path, d.2⟩ := by
  rw [planChanges_eq, (List.perm_insertionSort _ _).mem_iff] at h
  obtain ⟨d, hd, rfl⟩ := List.mem_map.mp (List.mem_of_mem_take h)
  exact ⟨d, (mem_differences _ _ _ _).mp hd, rfl⟩

/-- A plan that is not truncated holds every change. -/
theorem planChanges_complete {active candidate : List (String × Node)} {maximum : Int}
    (h : (planChanges active candidate maximum).2 = false) :
    (planChanges active candidate maximum).1.Perm
      ((differences (.mapping active) (.mapping candidate)).map (changeAt "")) := by
  rw [planChanges_eq] at h ⊢
  have hall : ((differences (.mapping active) (.mapping candidate)).map (changeAt "")).length ≤
      maximum.toNat := by
    rw [List.length_map]
    exact not_lt.mp (of_decide_eq_false h)
  dsimp only
  rw [List.take_of_length_le hall]
  exact List.perm_insertionSort _ _

/-- Exchanging the documents exchanges additions and removals, truncated or not. -/
theorem planChanges_swap (active candidate : List (String × Node)) (maximum : Int) :
    planChanges candidate active maximum =
      ((planChanges active candidate maximum).1.map PlanChange.swap,
        (planChanges active candidate maximum).2) := by
  rw [planChanges_eq, planChanges_eq, differences_swap (.mapping active) (.mapping candidate),
    List.length_map]
  dsimp only
  rw [List.map_insertionSort (fun a b : PlanChange => a.path ≤ b.path)
    (fun a b : PlanChange => a.path ≤ b.path) PlanChange.swap _ (fun _ _ _ _ => Iff.rfl),
    List.map_take, List.map_map, List.map_map]
  rfl

/-- The plan of two documents, for every maximum.

There is one list of the differences, each once.  The plan is truncated exactly when it has more
than the maximum, a negative one counting as none.  The paths of the plan increase strictly, and
each is the path of one difference, reported as what it is.  A plan that is not truncated reports
every difference, and nothing exactly for equal documents.  Exchanging the documents exchanges
additions and removals. -/
theorem plan_changes_law (active candidate : Document) (maximum : Int) :
    (∃ all : List Difference, all.Nodup ∧
      (∀ d, d ∈ all ↔ DiffersAt active.root candidate.root d.1 d.2) ∧
      ((planChanges active.entries candidate.entries maximum).2 = true ↔
        max maximum 0 < all.length)) ∧
    (planChanges active.entries candidate.entries maximum).1.Pairwise
      (fun a b => a.path < b.path) ∧
    (∀ change ∈ (planChanges active.entries candidate.entries maximum).1,
      ∃! location : Location, change.path = location.path ∧
        DiffersAt active.root candidate.root location change.changeType) ∧
    ((planChanges active.entries candidate.entries maximum).2 = false →
      (∀ location how, DiffersAt active.root candidate.root location how →
        ⟨location.path, how⟩ ∈ (planChanges active.entries candidate.entries maximum).1) ∧
      ((planChanges active.entries candidate.entries maximum).1 = [] ↔
        Same active.root candidate.root)) ∧
    planChanges candidate.entries active.entries maximum =
      ((planChanges active.entries candidate.entries maximum).1.map PlanChange.swap,
        (planChanges active.entries candidate.entries maximum).2) := by
  refine ⟨⟨differences active.root candidate.root, nodup_differences _ _,
    fun d => mem_differences _ _ d.1 d.2, ?_⟩, planChanges_sorted _ _ _, ?_, ?_,
    planChanges_swap _ _ _⟩
  · rw [planChanges_eq, decide_eq_true_eq]
    show maximum.toNat < (differences active.root candidate.root).length ↔ _
    omega
  · intro change hchange
    obtain ⟨d, hd, rfl⟩ := mem_planChanges hchange
    refine ⟨d.1, ⟨rfl, hd⟩, ?_⟩
    rintro location ⟨hpath, hlocation⟩
    exact Document.path_injective (d := (location, d.2)) hlocation hd hpath.symm
  · intro hall
    have hperm := planChanges_complete hall
    constructor
    · intro location how h
      exact hperm.mem_iff.mpr (List.mem_map.mpr ⟨(location, how), (mem_differences _ _ _ _).mpr h,
        rfl⟩)
    · rw [same_iff, ← List.length_eq_zero_iff, hperm.length_eq, List.length_map,
        List.length_eq_zero_iff, List.eq_nil_iff_forall_not_mem]
      constructor
      · intro hnone location how h
        exact hnone (location, how) ((mem_differences _ _ _ _).mpr h)
      · rintro hnone ⟨location, how⟩ hmem
        exact hnone location how ((mem_differences _ _ _ _).mp hmem)

/-- Two empty documents have no difference, which is more than a negative maximum, and the plan is
not truncated. -/
theorem negative_maximum_not_truncated :
    (planChanges [] [] (-1)).2 = false ∧
      ∃ all : List Difference, all.Nodup ∧
        (∀ d, d ∈ all ↔ DiffersAt (.mapping []) (.mapping []) d.1 d.2) ∧
        (-1 : Int) < all.length := by
  refine ⟨rfl, [], List.nodup_nil, fun d => ?_, by decide⟩
  have hnone := mem_differences (.mapping []) (.mapping []) d.1 d.2
  exact hnone

end Aurora.ConfigProfiles
