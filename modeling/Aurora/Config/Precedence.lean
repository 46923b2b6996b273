/-
  The command line over the environment over YAML.

  What is shown of one merge at a path composes: the value of the highest source that says anything
  about a path is the one that is loaded (`loadSettings_precedence`).  The environment says something
  about the paths of its variables only, since none of these paths continues another one.

  1. **Assignments** — the leaves after `setPath`.
  2. **Variables** — the leaves of the environment.
  3. **Sources** — the leaves of one merge, and of the three.
  4. **Law** — merging, on trees and on objects, and loading.
-/
import Aurora.Config.Loader
import Aurora.Config.MergingObjects
import Aurora.Lib.Checks

namespace Aurora.Config

/-! ## Assignments -/

/-- Neither path continues the other one. -/
def Apart {β : Type} (p q : List β) : Prop := ¬p <+: q ∧ ¬q <+: p

instance {β : Type} [DecidableEq β] (p q : List β) : Decidable (Apart p q) :=
  inferInstanceAs (Decidable (_ ∧ _))

theorem Apart.symm {β : Type} {p q : List β} (h : Apart p q) : Apart q p := ⟨h.2, h.1⟩

section Assignments

variable {κ α : Type} [DecidableEq κ] {value : Tree κ α} {path : List κ}
  {entries result : Entries κ α} {a : α}

/-- The leaves below a key that is set, and those below other keys. -/
theorem get?_setKey (key first : κ) (rest : List κ) :
    (Tree.mapping (setKey key value entries)).get? (first :: rest) =
      if first = key then value.get? rest else (Tree.mapping entries).get? (first :: rest) := by
  rw [Tree.get?_mapping_cons, Tree.get?_mapping_cons]
  split
  case isTrue hkey =>
    rw [hkey, lookup_setKey_self]
    rfl
  case isFalse hkey => rw [lookup_setKey_of_ne hkey]

/-- The leaves after an assignment below a key, given those of what is set under the key. -/
theorem get?_setKey_leaf {key : κ} {rest : List κ} {inner : Tree κ α}
    (hinner : ∀ q, inner.get? q = some (.leaf a) ↔
      (∃ below, q = rest ++ below ∧ value.get? below = some (.leaf a)) ∨
        ¬rest <+: q ∧ (Tree.mapping entries).get? (key :: q) = some (.leaf a)) (q : List κ) :
    (Tree.mapping (setKey key inner entries)).get? q = some (.leaf a) ↔
      (∃ below, q = key :: rest ++ below ∧ value.get? below = some (.leaf a)) ∨
        ¬key :: rest <+: q ∧ (Tree.mapping entries).get? q = some (.leaf a) := by
  cases q with
  | nil =>
    refine iff_of_false (fun h => nomatch h) ?_
    rintro (⟨below, hq, -⟩ | ⟨-, hleaf⟩)
    · cases hq
    · cases hleaf
  | cons first q =>
    rw [get?_setKey, List.cons_prefix_cons]
    split
    case isTrue hkey =>
      subst hkey
      rw [hinner]
      simp only [List.cons_append, List.cons.injEq, true_and]
    case isFalse hkey =>
      have hother : ¬key = first := fun h => hkey h.symm
      simp only [List.cons_append, List.cons.injEq, hkey, hother, false_and, exists_false,
        false_or, not_false_eq_true, true_and]

omit [DecidableEq κ] in
/-- The leaves of a value that stands at the root. -/
theorem leaf_root_iff {q : List κ} {P : List κ → Prop} {Q : Prop} :
    P q ↔ (∃ below, q = [] ++ below ∧ P below) ∨ ¬[] <+: q ∧ Q := by
  simp only [List.nil_append, exists_eq_left', List.nil_prefix, not_true_eq_false, false_and,
    or_false]

/-- Nothing is below the empty mapping. -/
theorem get?_nil_ne_leaf (q : List κ) : (Tree.mapping ([] : Entries κ α)).get? q ≠ some (.leaf a) := by
  cases q <;> exact fun h => nomatch h

/-- After an assignment the leaves are those of the value, and those that are not below the path. -/
theorem get?_setPath (h : setPath value path entries = some result) (q : List κ) :
    (Tree.mapping result).get? q = some (.leaf a) ↔
      (∃ below, q = path ++ below ∧ value.get? below = some (.leaf a)) ∨
        ¬path <+: q ∧ (Tree.mapping entries).get? q = some (.leaf a) := by
  fun_induction setPath value path entries generalizing result q with
  | case1 => cases h
  | case2 key entries =>
    obtain rfl := Option.some.inj h
    exact get?_setKey_leaf (fun q => leaf_root_iff (P := fun q => value.get? q = some (.leaf a))) q
  | case3 key rest entries _ hlookup ih =>
    obtain ⟨below, hbelow, rfl⟩ := Option.map_eq_some_iff.mp h
    refine get?_setKey_leaf (fun q => ?_) q
    rw [ih hbelow, Tree.get?_mapping_cons, hlookup]
    refine or_congr_right (and_congr_right fun _ => iff_of_false (get?_nil_ne_leaf q) ?_)
    intro h
    cases h
  | case4 key rest entries _ below hlookup ih =>
    obtain ⟨below', hbelow, rfl⟩ := Option.map_eq_some_iff.mp h
    refine get?_setKey_leaf (fun q => ?_) q
    rw [ih hbelow, Tree.get?_mapping_cons, hlookup]
    rfl
  | case5 => cases h

/-- Without a leaf above its last key, the assignment to a path does not fail. -/
theorem exists_setPath (hpath : path ≠ []) (h : (Tree.mapping entries).blocks path = false) :
    ∃ result, setPath value path entries = some result := by
  fun_induction setPath value path entries with
  | case1 => exact absurd rfl hpath
  | case2 key entries => exact ⟨_, rfl⟩
  | case3 key rest entries hrest _ ih =>
    obtain ⟨below, hbelow⟩ := ih (fun h => hrest h) (by cases rest <;> rfl)
    rw [hbelow]
    exact ⟨_, rfl⟩
  | case4 key rest entries hrest below hlookup ih =>
    rw [Tree.blocks_mapping_cons, hlookup] at h
    obtain ⟨below', hbelow⟩ := ih (fun h => hrest h) h
    rw [hbelow]
    exact ⟨_, rfl⟩
  | case5 key rest entries hrest a hlookup =>
    rw [Tree.blocks_mapping_cons, hlookup] at h
    cases rest with
    | nil => exact absurd rfl hrest
    | cons => cases h

/-- An assignment to a path with no leaf at it, above it or below it adds one leaf. -/
theorem ConfigMapping.setPath_leaf {m : ConfigMapping κ α} (hpath : path ≠ [])
    (hapart : ∀ q a, m.asTree.get? q = some (.leaf a) → Apart path q) (b : α) :
    ∃ result, m.setPath path b = some result ∧
      ∀ q a, result.asTree.get? q = some (.leaf a) ↔
        (q = path ∧ a = b) ∨ m.asTree.get? q = some (.leaf a) := by
  have hblocks : m.asTree.blocks path = false := by
    refine Bool.eq_false_iff.mpr fun hblocks => ?_
    obtain ⟨above, below, a, hpath, -, hleaf⟩ := Tree.blocks_iff.mp hblocks
    exact (hapart above a hleaf).2 (hpath ▸ List.prefix_append above below)
  obtain ⟨entries, hset⟩ := @exists_setPath κ α _ (.leaf b) path _ hpath hblocks
  have hresult := m.setPath_entries path b
  rw [hset] at hresult
  obtain ⟨result, hresult, hentries⟩ := Option.map_eq_some_iff.mp hresult
  refine ⟨result, hresult, fun q a => ?_⟩
  show (Tree.mapping result.entries).get? q = _ ↔ _
  rw [hentries, get?_setPath hset]
  constructor
  · rintro (⟨below, rfl, hbelow⟩ | ⟨-, hleaf⟩)
    · cases below with
      | nil =>
        cases hbelow
        exact .inl ⟨List.append_nil path, rfl⟩
      | cons => cases hbelow
    · exact .inr hleaf
  · rintro (⟨rfl, rfl⟩ | hleaf)
    · exact .inl ⟨[], (List.append_nil q).symm, rfl⟩
    · exact .inr ⟨(hapart q a hleaf).1, hleaf⟩

end Assignments

/-! ## Variables -/

section Variables

variable {ι α : Type} [DecidableEq ι] {readers : TextReaders} {ofEnvironment : EnvironmentValue → α}
  {source : String → Option String}

/-- A variable of the fields is set, and its text stands for the value at the path. -/
def SetBy (readers : TextReaders) (ofEnvironment : EnvironmentValue → α)
    (source : String → Option String) (fields : List (List String × EnvironmentType))
    (path : List (ConfigKey ι)) (a : α) : Prop :=
  ∃ field ∈ fields, path = field.1.map .text ∧
    ∃ raw value, source (environmentVariable field.1) = some raw ∧
      parseEnvironmentValue readers (environmentVariable field.1) raw field.2 = .ok value ∧
      a = ofEnvironment value

omit [DecidableEq ι] in
/-- A path is set by the first field or by the others. -/
theorem setBy_cons {field : List String × EnvironmentType}
    {fields : List (List String × EnvironmentType)} {path : List (ConfigKey ι)} {a : α} :
    SetBy readers ofEnvironment source (field :: fields) path a ↔
      SetBy readers ofEnvironment source [field] path a ∨
        SetBy readers ofEnvironment source fields path a := by
  unfold SetBy
  simp only [List.exists_mem_cons_iff, List.not_mem_nil, false_and, exists_false, or_false]

omit [DecidableEq ι] in
/-- Paths of names that lie apart do so as keys. -/
theorem Apart.keys {p q : List String} (h : Apart p q) :
    Apart (p.map (ConfigKey.text (ι := ι))) (q.map .text) := by
  have hinj : Function.Injective (ConfigKey.text (ι := ι)) := fun _ _ h => ConfigKey.text.inj h
  exact ⟨fun hpq => h.1 ((List.prefix_map_iff_of_injective hinj).mp hpq),
    fun hqp => h.2 ((List.prefix_map_iff_of_injective hinj).mp hqp)⟩

/-- The loop over fields whose paths are apart adds a leaf for each variable that is set, or stops at
    the first text that is not of its type. -/
theorem overridesFrom_leaves : ∀ {fields : List (List String × EnvironmentType)}
    {overrides : ConfigMapping (ConfigKey ι) α}, fields.Pairwise (fun f g => Apart f.1 g.1) →
    (∀ f ∈ fields, f.1 ≠ []) →
    (∀ q a, overrides.asTree.get? q = some (.leaf a) → ∀ f ∈ fields, Apart (f.1.map .text) q) →
    match overridesFrom readers ofEnvironment source fields overrides with
    | .ok result => ∀ q a, result.asTree.get? q = some (.leaf a) ↔
        SetBy readers ofEnvironment source fields q a ∨ overrides.asTree.get? q = some (.leaf a)
    | .error e => ∃ f ∈ fields, ∃ raw, source (environmentVariable f.1) = some raw ∧
        parseEnvironmentValue readers (environmentVariable f.1) raw f.2 = .error e := by
  intro fields
  induction fields with
  | nil =>
    intro overrides _ _ _ q a
    refine (or_iff_right ?_).symm
    rintro ⟨f, hf, -⟩
    exact absurd hf List.not_mem_nil
  | cons field rest ih =>
    intro overrides hapart hne hleaves
    obtain ⟨hfirst, hrest⟩ := List.pairwise_cons.mp hapart
    -- what is left to show once the first field has added its leaf, or none
    have hnext : ∀ next : ConfigMapping (ConfigKey ι) α,
        (∀ q a, next.asTree.get? q = some (.leaf a) ↔
          SetBy readers ofEnvironment source [field] q a ∨
            overrides.asTree.get? q = some (.leaf a)) →
        match overridesFrom readers ofEnvironment source rest next with
        | .ok result => ∀ q a, result.asTree.get? q = some (.leaf a) ↔
            SetBy readers ofEnvironment source (field :: rest) q a ∨
              overrides.asTree.get? q = some (.leaf a)
        | .error e => ∃ f ∈ field :: rest, ∃ raw, source (environmentVariable f.1) = some raw ∧
            parseEnvironmentValue readers (environmentVariable f.1) raw f.2 = .error e := by
      intro next hleaf
      have hrun := @ih next hrest (fun f hf => hne f (List.mem_cons_of_mem _ hf)) ?_
      · split
        · rename_i result hresult
          rw [hresult] at hrun
          intro q a
          rw [hrun q a, hleaf q a, ← or_assoc]
          exact or_congr_left (or_comm.trans setBy_cons.symm)
        · rename_i e hresult
          rw [hresult] at hrun
          obtain ⟨f, hf, hraw⟩ := hrun
          exact ⟨f, List.mem_cons_of_mem _ hf, hraw⟩
      · intro q a h f hf
        rcases (hleaf q a).mp h with ⟨f', hf', rfl, -⟩ | h
        · obtain rfl := List.mem_singleton.mp hf'
          exact (hfirst f hf).symm.keys
        · exact hleaves q a h f (List.mem_cons_of_mem _ hf)
    obtain ⟨path, target⟩ := field
    unfold overridesFrom
    cases hraw : source (environmentVariable path) with
    | none =>
      refine hnext overrides fun q a => (or_iff_right ?_).symm
      rintro ⟨f, hf, -, raw, value, hset, -⟩
      obtain rfl := List.mem_singleton.mp hf
      rw [hraw] at hset
      cases hset
    | some raw =>
      dsimp only
      cases hvalue : parseEnvironmentValue readers (environmentVariable path) raw target with
      | error e => exact ⟨_, List.mem_cons_self, raw, hraw, hvalue⟩
      | ok value =>
        have hnil : path.map (ConfigKey.text (ι := ι)) ≠ [] :=
          fun h => hne _ List.mem_cons_self (List.map_eq_nil_iff.mp h)
        obtain ⟨next, hset, hleaf⟩ := ConfigMapping.setPath_leaf hnil
          (fun q a h => hleaves q a h _ List.mem_cons_self) (ofEnvironment value)
        dsimp only
        rw [hset]
        refine hnext next fun q a => (hleaf q a).trans (or_congr_left ?_)
        constructor
        · rintro ⟨rfl, rfl⟩
          exact ⟨_, List.mem_cons_self, rfl, raw, value, hraw, hvalue, rfl⟩
        · rintro ⟨f, hf, hpath, raw', value', hraw', hvalue', rfl⟩
          obtain rfl := List.mem_singleton.mp hf
          obtain rfl := Option.some.inj (hraw.symm.trans hraw')
          obtain rfl := Except.ok.inj (hvalue.symm.trans hvalue')
          exact ⟨hpath, rfl⟩

/-- No path of a variable continues another one. -/
theorem environmentFields_apart : environmentFields.Pairwise fun f g => Apart f.1 g.1 := by
  decide +kernel

theorem environmentFields_ne_nil : ∀ f ∈ environmentFields, f.1 ≠ [] := by
  decide

/-- The environment holds a leaf for each variable that is set; it is refused only for a text that is
    not of the type of its variable. -/
theorem environmentOverrides_leaves :
    match environmentOverrides (ι := ι) readers ofEnvironment source with
    | .ok environment => ∀ q a, environment.asTree.get? q = some (.leaf a) ↔
        SetBy readers ofEnvironment source environmentFields q a
    | .error e => ∃ f ∈ environmentFields, ∃ raw, source (environmentVariable f.1) = some raw ∧
        parseEnvironmentValue readers (environmentVariable f.1) raw f.2 = .error e := by
  have h := @overridesFrom_leaves ι α _ readers ofEnvironment source _ .empty
    environmentFields_apart environmentFields_ne_nil fun q a h => absurd h (get?_nil_ne_leaf q)
  unfold environmentOverrides
  split at h
  · intro q a
    rw [h q a]
    exact or_iff_left (get?_nil_ne_leaf q)
  · exact h

end Variables

/-! ## Sources -/

section Sources

variable {κ α : Type} [DecidableEq κ]

/-- A source says nothing about a path: it holds nothing there, and no leaf above it. -/
def ConfigMapping.Silent (m : ConfigMapping κ α) (path : List κ) : Prop :=
  m.asTree.get? path = none ∧ m.asTree.blocks path = false

/-- A value that is no mapping; none for a mapping. -/
def Tree.top : Tree κ α → Option α
  | .leaf a => some a
  | .mapping _ => none

/-- The mapping holds a leaf at the path, or a mapping. -/
def ConfigMapping.At (m : ConfigMapping κ α) (path : List κ) (top : Option α) : Prop :=
  ∃ value, m.asTree.get? path = some value ∧ value.top = top

/-- Where the override speaks the merge holds what it holds, and elsewhere what the base holds. -/
theorem deepMerge_at {base override : ConfigMapping κ α} {path : List κ} {top : Option α} :
    (deepMerge base override).At path top ↔
      override.At path top ∨ override.Silent path ∧ base.At path top := by
  have hlaw := overlays_deepMerge base override path
  unfold ConfigMapping.At ConfigMapping.Silent
  cases hoverride : override.asTree.get? path with
  | none =>
    refine Iff.trans ?_ (or_iff_right fun h => nomatch h).symm
    cases hblocks : override.asTree.blocks path with
    | true =>
      rw [hlaw.below hblocks]
      exact iff_of_false (fun h => nomatch h) fun h => nomatch h.1.2
    | false =>
      rw [hlaw.base hoverride hblocks]
      exact (and_iff_right ⟨rfl, rfl⟩).symm
  | some value =>
    refine Iff.trans ?_ (or_iff_left fun h => nomatch h.1.1).symm
    cases value with
    | leaf a => rw [hlaw.leaf a hoverride]
    | mapping new =>
      -- both a merge of mappings and a mapping that replaces a leaf are mappings
      by_cases hold : ∃ old, base.asTree.get? path = some (.mapping old)
      · obtain ⟨old, hold⟩ := hold
        rw [hlaw.both old new hoverride hold]
        simp only [Option.some.injEq, exists_eq_left', Tree.top]
      · rw [hlaw.mapping new hoverride fun old heq => hold ⟨old, heq⟩]

/-- Over a base that holds nothing at a path, the merge holds what the override does. -/
theorem deepMerge_get?_of_none {base override : ConfigMapping κ α} {path : List κ}
    (h : base.asTree.get? path = none) :
    (deepMerge base override).asTree.get? path = override.asTree.get? path := by
  have hlaw := overlays_deepMerge base override path
  cases hoverride : override.asTree.get? path with
  | none =>
    cases hblocks : override.asTree.blocks path with
    | true => exact hlaw.below hblocks
    | false => rw [hlaw.base hoverride hblocks, h]
  | some value =>
    cases value with
    | leaf a => exact hlaw.leaf a hoverride
    | mapping new =>
      refine hlaw.mapping new hoverride fun old hold => ?_
      rw [h] at hold
      cases hold

/-- The settings that are loaded, from the three sources. -/
structure Precedence (yaml environment cli settings : ConfigMapping κ α) : Prop where
  /-- The value at a path is that of the highest source that says anything about it. -/
  highest : ∀ path top, settings.At path top ↔
    cli.At path top ∨ cli.Silent path ∧ (environment.At path top ∨
      environment.Silent path ∧ yaml.At path top)
  /-- Nothing survives below a value of the command line. -/
  belowCli : ∀ path, cli.asTree.blocks path = true → settings.asTree.get? path = none
  /-- Below a value of the environment stands what the command line sets there. -/
  belowEnvironment : ∀ path, environment.asTree.blocks path = true →
    settings.asTree.get? path = cli.asTree.get? path

/-- The merge of the three sources has the precedence. -/
theorem precedence_deepMerge (yaml environment cli : ConfigMapping κ α) :
    Precedence yaml environment cli (deepMerge (deepMerge yaml environment) cli) where
  highest path top := by rw [deepMerge_at, deepMerge_at]
  belowCli path h := (overlays_deepMerge _ cli path).below h
  belowEnvironment path h :=
    deepMerge_get?_of_none ((overlays_deepMerge yaml environment path).below h)

end Sources

/-! ## Law -/

/-- `deep_merge` of two dictionaries returns; what was there is unchanged, and the result is the merge
    of the two, made of new objects. -/
def MergesAside {κ α : Type} [DecidableEq κ] (base override : ConfigMapping κ α) : Prop :=
  ∀ (heap : Heap κ α) (a b : Nat), Holds heap (.object a) base.asTree →
    Holds heap (.object b) override.asTree →
    (∃ heap' result, MergeRuns heap a b heap' result) ∧
    ∀ heap' result, MergeRuns heap a b heap' result → heap <+: heap' ∧
      Denotes (heap.length ≤ ·) heap' (.object result) (deepMerge base override).asTree

/-- A merge changes neither of its operands. -/
theorem mergesAside {κ α : Type} [DecidableEq κ] (base override : ConfigMapping κ α) :
    MergesAside base override := by
  intro heap a b hbase hoverride
  refine ⟨exists_mergeRuns hbase hoverride, fun heap' result hrun => ?_⟩
  have hmerging := hrun.spec hbase hoverride
  exact ⟨hmerging.kept, hmerging.denotes⟩

/-- What merging does, key by key. -/
structure MergeLaw (κ α : Type) [DecidableEq κ] : Prop where
  aside : ∀ base override : ConfigMapping κ α, MergesAside base override
  again : ∀ base override : ConfigMapping κ α,
    deepMerge (deepMerge base override) override = deepMerge base override
  emptyLeft : ∀ m : ConfigMapping κ α, deepMerge .empty m = m
  emptyRight : ∀ m : ConfigMapping κ α, deepMerge m .empty = m
  lookup : ∀ (base override : ConfigMapping κ α) path,
    Overlays (base.asTree.get? path) (override.asTree.get? path)
      ((deepMerge base override).asTree.get? path) (override.asTree.blocks path)

section Law

variable {ι α σ : Type} [DecidableEq ι] (readers : TextReaders) (ofEnvironment : EnvironmentValue → α)
  (validate : ConfigMapping (ConfigKey ι) α → Except String σ)

/-- The settings that are loaded are those of one mapping, in which the three sources take
    precedence in turn. -/
structure Loads (sources : SettingsSources ι α) (settings : σ)
    (yaml environment merged : ConfigMapping (ConfigKey ι) α) : Prop where
  lowest : yamlSettings sources = .ok yaml
  overriding : environmentOverrides readers ofEnvironment sources.environment = .ok environment
  setBy : ∀ path a, environment.asTree.get? path = some (.leaf a) ↔
    SetBy readers ofEnvironment sources.environment environmentFields path a
  precedence : Precedence yaml environment (sources.cliOverrides.getD .empty) merged
  validated : validate merged = .ok settings

/-- Settings that were loaded were loaded from the three sources. -/
theorem loadSettings_loads {sources : SettingsSources ι α} {settings : σ}
    (h : loadSettings readers ofEnvironment validate sources = .ok settings) :
    ∃ yaml environment merged,
      Loads readers ofEnvironment validate sources settings yaml environment merged := by
  obtain ⟨yaml, hyaml, h⟩ := bind_eq_ok.mp h
  obtain ⟨environment, henvironment, h⟩ := bind_eq_ok.mp h
  have hsetBy := @environmentOverrides_leaves ι α _ readers ofEnvironment sources.environment
  rw [henvironment] at hsetBy
  refine ⟨yaml, environment, _, hyaml, henvironment, hsetBy, precedence_deepMerge _ _ _, ?_⟩
  dsimp only at h
  split at h
  case h_2 => cases h
  case h_1 hvalid =>
    obtain rfl := Except.ok.inj h
    cases hcli : sources.cliOverrides with
    | none =>
      rw [hcli] at hvalid
      rw [Option.getD_none, deepMerge_empty_right]
      exact hvalid
    | some overrides =>
      rw [hcli] at hvalid
      exact hvalid

/-- Merging configuration mappings, and what it means for the settings that are loaded. -/
theorem configuration_law (κ β : Type) [DecidableEq κ] : MergeLaw κ β ∧
    ∀ (sources : SettingsSources ι α) (settings : σ),
      loadSettings readers ofEnvironment validate sources = .ok settings →
      ∃ yaml environment merged,
        Loads readers ofEnvironment validate sources settings yaml environment merged := by
  refine ⟨?_, fun _ _ => loadSettings_loads readers ofEnvironment validate⟩
  constructor
  case aside => exact mergesAside
  case again => exact deepMerge_again
  case emptyLeft => exact deepMerge_empty_left
  case emptyRight => exact deepMerge_empty_right
  case lookup => exact overlays_deepMerge

end Law

/-! ### Three sources in conflict -/

/-- A source with these leaves. -/
def sourceOf (leaves : List (List String × Int)) : ConfigMapping (ConfigKey Empty) Int :=
  leaves.foldl (fun m leaf => (ConfigMapping.setPath (leaf.1.map .text) leaf.2 m).getD m) .empty

/-- Digits are read as a number, and every other text is left alone. -/
def plainReaders : TextReaders where
  int? text := text.toList.foldlM (fun (n : Int) c =>
    if c.isDigit then some (10 * n + (c.toNat - '0'.toNat)) else none) 0
  float? _ := none
  strip := id
  lower := id

/-- Numbers stand for themselves. -/
def numberOf : EnvironmentValue → Int
  | .int n => n
  | _ => 0

/-- YAML, two variables and the command line, which all set the port of WLED; the command line puts
    a number in the place of the HyperHDR mapping of the other two. -/
def conflicting : SettingsSources Empty Int where
  configPath := some ("aurora.yaml", .mapping (sourceOf
    [(["wled", "port"], 1), (["wled", "expected_led_count"], 144), (["hyperhdr", "port"], 2),
      (["mqtt", "port"], 3)]))
  configData := none
  environment := fun name =>
    ([("AURORA_WLED__PORT", "80"), ("AURORA_HYPERHDR__PORT", "8090"),
      ("AURORA_MQTT__PORT", "1883")] : List (String × String)).lookup name
  cliOverrides := some (sourceOf [(["wled", "port"], 443), (["hyperhdr"], 0)])

/-- The port of the command line wins over that of the variable, a variable over YAML, YAML where
    nothing else speaks; and nothing is left below the number. -/
theorem configuration_law_conflicting : ∃ settings yaml environment merged,
    Loads plainReaders numberOf .ok conflicting settings yaml environment merged ∧
    settings.At [.text "wled", .text "port"] (some 443) ∧
    settings.At [.text "mqtt", .text "port"] (some 1883) ∧
    settings.At [.text "wled", .text "expected_led_count"] (some 144) ∧
    settings.asTree.get? [.text "hyperhdr", .text "port"] = none := by
  have hloads : ((loadSettings plainReaders numberOf .ok conflicting).toOption.any fun settings =>
      decide ((settings.asTree.get? [.text "wled", .text "port"]).map Tree.top = some (some 443) ∧
        (settings.asTree.get? [.text "mqtt", .text "port"]).map Tree.top = some (some 1883) ∧
        (settings.asTree.get? [.text "wled", .text "expected_led_count"]).map Tree.top =
          some (some 144) ∧
        (settings.asTree.get? [.text "hyperhdr", .text "port"]).map Tree.top = none)) = true := by
    decide +kernel
  obtain ⟨settings, hsettings, hloads⟩ := (Option.any_eq_true ..).mp hloads
  obtain ⟨hwled, hmqtt, hcount, hhyperhdr⟩ := of_decide_eq_true hloads
  obtain ⟨yaml, environment, merged, hlaw⟩ := (configuration_law plainReaders numberOf .ok Unit Unit).2
    conflicting settings (toOption_eq_some.mp hsettings)
  exact ⟨settings, yaml, environment, merged, hlaw, Option.map_eq_some_iff.mp hwled,
    Option.map_eq_some_iff.mp hmqtt, Option.map_eq_some_iff.mp hcount,
    Option.map_eq_none_iff.mp hhyperhdr⟩

end Aurora.Config
