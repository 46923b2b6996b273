/-
  What the loop over HyperHDR's component list has collected at its end, as facts about the list.

  The loop keeps three collections whose updates depend on earlier entries of the same name.  The
  invariant `Collected` says what they hold after a part of the list, in terms of the entries of
  each name alone; membership of the entries does not depend on their order, so neither does what
  is parsed.

  1. **Entries** — the `enabled` values listed under a name, and what makes them ambiguous.
  2. **Loop** — one element keeps the invariant, and so does the whole list.
  3. **Document** — what an accepted document is parsed to.
-/
import Aurora.Hardware.HyperhdrResponses

namespace Aurora.Hardware

open HealthHistory

/-! ## Entries -/

/-- The name and the state of an element that is an entry. -/
def componentEntry (upper : PyText → PyText) : JsonDocument → Option (PyText × JsonDocument)
  | .object component =>
    match JsonDocument.get component "name" with
    | .text name => some (upper name, JsonDocument.get component "enabled")
    | _ => none
  | _ => none

/-- A state is listed under a name. -/
def Listed (upper : PyText → PyText) (components : List JsonDocument) (name : PyText)
    (state : JsonDocument) : Prop :=
  ∃ component ∈ components, componentEntry upper component = some (name, state)

/-- The entries of a name hold a state that is no Boolean, or two different ones. -/
def Ambiguous (upper : PyText → PyText) (components : List JsonDocument) (name : PyText) : Prop :=
  (∃ state, Listed upper components name state ∧ state.bool? = none) ∨
    (Listed upper components name (.bool true) ∧ Listed upper components name (.bool false))

/-- A name has entries, and each of them is this Boolean. -/
def Definite (upper : PyText → PyText) (components : List JsonDocument) (name : PyText)
    (enabled : Bool) : Prop :=
  (∃ state, Listed upper components name state) ∧
    ∀ state, Listed upper components name state → state = .bool enabled

variable {upper : PyText → PyText} {components : List JsonDocument} {name : PyText}

theorem not_listed_nil {state : JsonDocument} : ¬Listed upper [] name state := by
  rintro ⟨_, hmem, _⟩
  exact List.not_mem_nil hmem

theorem listed_append {component state : JsonDocument} :
    Listed upper (components ++ [component]) name state ↔
      Listed upper components name state ∨
        componentEntry upper component = some (name, state) := by
  unfold Listed
  constructor
  · rintro ⟨c, hmem, hentry⟩
    rcases List.mem_append.mp hmem with hearlier | hlast
    · exact Or.inl ⟨c, hearlier, hentry⟩
    · obtain rfl := List.mem_singleton.mp hlast
      exact Or.inr hentry
  · rintro (⟨c, hmem, hentry⟩ | hentry)
    · exact ⟨c, List.mem_append_left _ hmem, hentry⟩
    · exact ⟨component, List.mem_append_right _ List.mem_cons_self, hentry⟩

/-- Order does not matter to what is listed. -/
theorem listed_perm {others : List JsonDocument} (h : components.Perm others)
    {state : JsonDocument} :
    Listed upper components name state ↔ Listed upper others name state := by
  unfold Listed
  constructor
  · rintro ⟨c, hmem, hentry⟩
    exact ⟨c, h.mem_iff.mp hmem, hentry⟩
  · rintro ⟨c, hmem, hentry⟩
    exact ⟨c, h.mem_iff.mpr hmem, hentry⟩

/-- Ambiguous entries have no common state. -/
theorem Ambiguous.not_definite (h : Ambiguous upper components name) (enabled : Bool) :
    ¬Definite upper components name enabled := by
  rintro ⟨-, hall⟩
  rcases h with ⟨state, hlisted, hnone⟩ | ⟨htrue, hfalse⟩
  · rw [hall state hlisted] at hnone
    cases hnone
  · have h := (hall _ htrue).trans (hall _ hfalse).symm
    cases h

/-- Entries that are not ambiguous are all equal to one of them. -/
theorem definite_of_not_ambiguous (h : ¬Ambiguous upper components name)
    {state : JsonDocument} (hlisted : Listed upper components name state) :
    ∃ enabled, Definite upper components name enabled := by
  have hbool : ∀ s, Listed upper components name s → ∃ b, s = .bool b := by
    intro s hs
    cases s with
    | bool b => exact ⟨b, rfl⟩
    | _ => exact absurd (Or.inl ⟨_, hs, rfl⟩) h
  obtain ⟨enabled, rfl⟩ := hbool state hlisted
  refine ⟨enabled, ⟨_, hlisted⟩, fun s hs => ?_⟩
  obtain ⟨other, rfl⟩ := hbool s hs
  -- a different Boolean beside this one would be a conflict
  cases enabled <;> cases other
  · rfl
  · exact absurd (Or.inr ⟨hs, hlisted⟩) h
  · exact absurd (Or.inr ⟨hlisted, hs⟩) h
  · rfl

/-! ## The loop -/

/-- What the three collections hold after a part of the list. -/
structure Collected (upper : PyText → PyText) (components : List JsonDocument)
    (c : ComponentStates) : Prop where
  names : ∀ name, name ∈ c.names ↔ ∃ state, Listed upper components name state
  ambiguous : ∀ name, name ∈ c.ambiguous ↔ Ambiguous upper components name
  states : ∀ name enabled,
    c.states.get? name = some enabled ↔ Definite upper components name enabled

theorem Collected.empty : Collected upper [] ComponentStates.empty where
  names _ := iff_of_false (Finset.notMem_empty _) fun ⟨_, h⟩ => not_listed_nil h
  ambiguous _ := by
    refine iff_of_false (Finset.notMem_empty _) ?_
    rintro (⟨_, h, _⟩ | ⟨h, _⟩) <;> exact not_listed_nil h
  states _ _ := iff_of_false nofun fun ⟨⟨_, h⟩, _⟩ => not_listed_nil h

/-- An element that is no entry lists nothing. -/
theorem Collected.skip {c : ComponentStates} (h : Collected upper components c)
    {component : JsonDocument} (hentry : componentEntry upper component = none) :
    Collected upper (components ++ [component]) c := by
  have hlisted : ∀ name state, Listed upper (components ++ [component]) name state ↔
      Listed upper components name state := by
    intro name state
    rw [listed_append, hentry, or_iff_left (nofun)]
  constructor
  · intro name
    simp only [hlisted, h.names]
  · intro name
    rw [h.ambiguous]
    unfold Ambiguous
    simp only [hlisted]
  · intro name enabled
    rw [h.states]
    unfold Definite
    simp only [hlisted]

section Entry

variable {c : ComponentStates} {component state : JsonDocument}

/-- What an entry leaves of the entries of other names. -/
theorem listed_other (hentry : componentEntry upper component = some (name, state))
    {other : PyText} (hne : other ≠ name) (s : JsonDocument) :
    Listed upper (components ++ [component]) other s ↔ Listed upper components other s := by
  rw [listed_append, hentry, or_iff_left]
  intro h
  exact hne (congrArg Prod.fst (Option.some.inj h)).symm

/-- An item of the name adds its own state. -/
theorem listed_same (hentry : componentEntry upper component = some (name, state))
    (s : JsonDocument) :
    Listed upper (components ++ [component]) name s ↔
      Listed upper components name s ∨ state = s := by
  rw [listed_append, hentry, Option.some.injEq, Prod.mk.injEq, and_iff_right rfl]

/-- An item leaves the other names as they were. -/
theorem ambiguous_other (hentry : componentEntry upper component = some (name, state))
    {other : PyText} (hne : other ≠ name) :
    Ambiguous upper (components ++ [component]) other ↔ Ambiguous upper components other := by
  unfold Ambiguous
  simp only [listed_other hentry hne]

theorem definite_other (hentry : componentEntry upper component = some (name, state))
    {other : PyText} (hne : other ≠ name) (enabled : Bool) :
    Definite upper (components ++ [component]) other enabled ↔
      Definite upper components other enabled := by
  unfold Definite
  simp only [listed_other hentry hne]

/-- An entry adds its name. -/
theorem Collected.insert_name (h : Collected upper components c)
    (hentry : componentEntry upper component = some (name, state)) (other : PyText) :
    other ∈ insert name c.names ↔
      ∃ s, Listed upper (components ++ [component]) other s := by
  rw [Finset.mem_insert, h.names]
  by_cases hname : other = name
  · subst hname
    exact iff_of_true (Or.inl rfl) ⟨state, (listed_same hentry state).mpr (Or.inr rfl)⟩
  · rw [or_iff_right hname]
    simp only [listed_other hentry hname]

/-- An entry that makes its name ambiguous, or finds it so, leaves the name without a state. -/
theorem Collected.mark (h : Collected upper components c)
    (hentry : componentEntry upper component = some (name, state))
    (hambiguous : Ambiguous upper (components ++ [component]) name) :
    Collected upper (components ++ [component])
      ({ c with names := insert name c.names : ComponentStates }.markAmbiguous name) where
  names := h.insert_name hentry
  ambiguous other := by
    show other ∈ insert name c.ambiguous ↔ _
    rw [Finset.mem_insert]
    by_cases hname : other = name
    · exact iff_of_true (Or.inl hname) (hname ▸ hambiguous)
    · rw [or_iff_right hname, h.ambiguous, ambiguous_other hentry hname]
  states other enabled := by
    show (c.states.erase name).get? other = some enabled ↔ _
    by_cases hname : other = name
    · subst hname
      rw [Dict.get?_erase_self]
      exact iff_of_false nofun (hambiguous.not_definite enabled)
    · rw [Dict.get?_erase, if_neg hname, h.states, definite_other hentry hname]

/-- An entry after ambiguous ones changes nothing but the set of names. -/
theorem Collected.keep (h : Collected upper components c)
    (hentry : componentEntry upper component = some (name, state))
    (hambiguous : Ambiguous upper components name) :
    Collected upper (components ++ [component]) { c with names := insert name c.names } := by
  have hstill : Ambiguous upper (components ++ [component]) name := by
    rcases hambiguous with ⟨s, hs, hnone⟩ | ⟨htrue, hfalse⟩
    · exact Or.inl ⟨s, (listed_same hentry s).mpr (Or.inl hs), hnone⟩
    · exact Or.inr ⟨(listed_same hentry _).mpr (Or.inl htrue),
        (listed_same hentry _).mpr (Or.inl hfalse)⟩
  constructor
  · exact h.insert_name hentry
  · intro other
    rw [h.ambiguous]
    by_cases hname : other = name
    · subst hname
      exact iff_of_true hambiguous hstill
    · exact (ambiguous_other hentry hname).symm
  · intro other enabled
    rw [h.states]
    by_cases hname : other = name
    · subst hname
      exact iff_of_false (hambiguous.not_definite enabled) (hstill.not_definite enabled)
    · exact (definite_other hentry hname enabled).symm

/-- A Boolean that meets no conflict becomes the state of its name. -/
theorem Collected.set {enabled : Bool} (h : Collected upper components c)
    (hentry : componentEntry upper component = some (name, .bool enabled))
    (hsame : ∀ s, Listed upper components name s → s = .bool enabled) :
    Collected upper (components ++ [component])
      { c with names := insert name c.names, states := c.states.set name enabled } := by
  have hdefinite : Definite upper (components ++ [component]) name enabled := by
    refine ⟨⟨_, (listed_same hentry _).mpr (Or.inr rfl)⟩, fun s hs => ?_⟩
    rcases (listed_same hentry s).mp hs with hearlier | rfl
    · exact hsame s hearlier
    · rfl
  have hunambiguous : ∀ {cs : List JsonDocument},
      (∀ s, Listed upper cs name s → s = .bool enabled) → ¬Ambiguous upper cs name := by
    rintro cs hall (⟨s, hs, hnone⟩ | ⟨htrue, hfalse⟩)
    · rw [hall s hs] at hnone
      cases hnone
    · have hboth := (hall _ htrue).trans (hall _ hfalse).symm
      cases hboth
  constructor
  · exact h.insert_name hentry
  · intro other
    rw [h.ambiguous]
    by_cases hname : other = name
    · subst hname
      exact iff_of_false (hunambiguous hsame) (hunambiguous hdefinite.2)
    · exact (ambiguous_other hentry hname).symm
  · intro other b
    show (c.states.set name enabled).get? other = some b ↔ _
    by_cases hname : other = name
    · subst hname
      rw [Dict.get?_set_self, Option.some.injEq]
      constructor
      · rintro rfl
        exact hdefinite
      · rintro ⟨⟨s, hs⟩, hall⟩
        have h := (hdefinite.2 s hs).symm.trans (hall s hs)
        exact JsonDocument.bool.inj h
    · rw [Dict.get?_set, if_neg hname, h.states, definite_other hentry hname]

end Entry

/-- One element: the cases are those of the loop. -/
theorem Collected.add {c : ComponentStates} (h : Collected upper components c)
    (component : JsonDocument) :
    Collected upper (components ++ [component]) (c.add upper component) := by
  unfold ComponentStates.add
  split
  · rename_i fields
    split
    · rename_i text hname
      -- an object with a text for its name is an entry, its state a Boolean or none
      have hentry : componentEntry upper (.object fields) =
          some (upper text, JsonDocument.get fields "enabled") := by
        unfold componentEntry
        dsimp only
        rw [hname]
      dsimp only
      split
      · rename_i enabled henabled
        rw [henabled] at hentry
        have hlast : Listed upper (components ++ [.object fields]) _ _ :=
          (listed_same hentry _).mpr (Or.inr rfl)
        split
        · -- an earlier state of the name is the other Boolean
          rename_i hconflict
          obtain ⟨previous, hprevious, hne⟩ := (Option.any_eq_true _ _).mp hconflict
          obtain ⟨⟨s, hs⟩, hall⟩ := (h.states _ _).mp hprevious
          obtain rfl := hall s hs
          have hfirst := (listed_same hentry _).mpr (Or.inl hs)
          refine h.mark hentry (Or.inr ?_)
          cases previous <;> cases enabled
          · exact absurd hne (by decide)
          · exact ⟨hlast, hfirst⟩
          · exact ⟨hfirst, hlast⟩
          · exact absurd hne (by decide)
        · rename_i hagrees
          split
          · -- no conflict so far: what is listed, if anything, is this Boolean
            rename_i hunambiguous
            refine h.set hentry fun s hs => ?_
            obtain ⟨previous, hdefinite⟩ :=
              definite_of_not_ambiguous (fun hamb => hunambiguous ((h.ambiguous _).mpr hamb)) hs
            have hprevious := (h.states _ _).mpr hdefinite
            rw [hprevious, Option.any_some, decide_eq_true_eq, not_not] at hagrees
            rw [hdefinite.2 s hs, hagrees]
          · rename_i hambiguous
            exact h.keep hentry ((h.ambiguous _).mp (not_not.mp hambiguous))
      · rename_i hnonbool
        refine h.mark hentry (Or.inl ⟨_, (listed_same hentry _).mpr (Or.inr rfl), ?_⟩)
        unfold JsonDocument.bool?
        split
        · rename_i b hb
          exact absurd hb (hnonbool b)
        · rfl
    · rename_i hnontext
      refine h.skip ?_
      unfold componentEntry
      dsimp only
      split
      · rename_i text htext
        exact absurd htext (hnontext text)
      · rfl
  · rename_i hnonobject
    refine h.skip ?_
    unfold componentEntry
    split
    · rename_i fields
      exact absurd rfl (hnonobject fields)
    · rfl

/-- The whole list, element by element. -/
theorem collected_componentStates (upper : PyText → PyText) (components : List JsonDocument) :
    Collected upper components (componentStates upper (.array components)) := by
  unfold componentStates
  dsimp only
  induction components using List.reverseRecOn with
  | nil => exact Collected.empty
  | append_singleton earlier component ih =>
    rw [List.foldl_append]
    exact ih.add component

/-- The elements of a component list; a value that is no list has none. -/
def listedComponents : JsonDocument → List JsonDocument
  | .array components => components
  | _ => []

/-- By induction on the items, from the end. -/
theorem collected_listed (upper : PyText → PyText) (components : JsonDocument) :
    Collected upper (listedComponents components) (componentStates upper components) := by
  cases components with
  | array items => exact collected_componentStates upper items
  | _ => exact Collected.empty

/-! ## Documents -/

/-- A document reports success for the expected command and holds server information. -/
structure Serves (payload info : List (PyText × JsonDocument)) : Prop where
  success : (JsonDocument.get payload "success").bool? = some true
  command : (JsonDocument.get payload "command").isNull = true ∨
    (JsonDocument.get payload "command").isText "serverinfo" = true
  info : JsonDocument.get payload "info" = .object info

/-- What server information is parsed to. -/
structure ParsedFrom (upper : PyText → PyText) (info : List (PyText × JsonDocument))
    (parsed : HyperHDRServerInfo) : Prop where
  received : parsed.serverInfoReceived = true
  hdr : parsed.hdrModeEnabled = hdrMode (JsonDocument.get info "videomodehdr")
  running : parsed.instanceRunning = Hardware.instanceRunning (instancesOf info)
  grabber : parsed.grabberActive =
    ((componentStates upper (JsonDocument.get info "components")).states.get?
      (PyText.of "VIDEOGRABBER")).or
    ((componentStates upper (JsonDocument.get info "components")).states.get?
      (PyText.of "GRABBER"))
  led : parsed.ledOutputActive =
    (componentStates upper (JsonDocument.get info "components")).states.get?
      (PyText.of "LEDDEVICE")
  names : parsed.componentStateNames =
    (componentStates upper (JsonDocument.get info "components")).names
  ambiguous : parsed.ambiguousComponentStates =
    (componentStates upper (JsonDocument.get info "components")).ambiguous

/-- A document is parsed exactly when it serves information. -/
theorem readHyperhdrServerInfo_ok {payload : List (PyText × JsonDocument)}
    {parsed : HyperHDRServerInfo} (h : readHyperhdrServerInfo upper payload = .ok parsed) :
    ∃ info, Serves payload info ∧ ParsedFrom upper info parsed := by
  unfold readHyperhdrServerInfo at h
  split at h
  · cases h
  · cases h
  · rename_i hsuccess
    dsimp only at h
    split at h
    · rename_i info hinfo
      split at h
      · cases h
      · rename_i hcommand
        obtain rfl := Except.ok.inj h
        rw [Bool.and_eq_true, Bool.not_eq_true', Bool.not_eq_true', not_and_or,
          Bool.not_eq_false, Bool.not_eq_false] at hcommand
        exact ⟨info, ⟨hsuccess, hcommand, hinfo⟩, ⟨rfl, rfl, rfl, rfl, rfl, rfl, rfl⟩⟩
    · cases h

/-- A document that serves an info is read as one. -/
theorem Serves.read {payload info : List (PyText × JsonDocument)} (h : Serves payload info)
    (upper : PyText → PyText) :
    ∃ parsed, readHyperhdrServerInfo upper payload = .ok parsed ∧ ParsedFrom upper info parsed := by
  obtain ⟨hsuccess, hcommand, hinfo⟩ := h
  have hguard : ¬((!(JsonDocument.get payload "command").isNull &&
      !(JsonDocument.get payload "command").isText "serverinfo") = true) := by
    rw [Bool.and_eq_true, Bool.not_eq_true', Bool.not_eq_true', not_and_or,
      Bool.not_eq_false, Bool.not_eq_false]
    exact hcommand
  unfold readHyperhdrServerInfo
  rw [hsuccess]
  dsimp only
  rw [hinfo]
  dsimp only
  rw [if_neg hguard]
  exact ⟨_, rfl, ⟨rfl, rfl, rfl, rfl, rfl, rfl, rfl⟩⟩

/-! ## Order -/

/-- One object is the other with its component list in another order. -/
structure Reordered (info other : List (PyText × JsonDocument)) : Prop where
  rest : ∀ key ∈ ["videomodehdr", "instance", "instances"],
    JsonDocument.get info key = JsonDocument.get other key
  components : (listedComponents (JsonDocument.get info "components")).Perm
    (listedComponents (JsonDocument.get other "components"))

/-- What was collected is determined by what is listed. -/
theorem Collected.unique {others : List JsonDocument} {c d : ComponentStates}
    (hc : Collected upper components c) (hd : Collected upper others d)
    (hlisted : ∀ name state, Listed upper components name state ↔ Listed upper others name state) :
    c.names = d.names ∧ c.ambiguous = d.ambiguous ∧
      ∀ name, c.states.get? name = d.states.get? name := by
  refine ⟨?_, ?_, ?_⟩
  · ext name
    rw [hc.names, hd.names]
    simp only [hlisted]
  · ext name
    rw [hc.ambiguous, hd.ambiguous]
    unfold Ambiguous
    simp only [hlisted]
  · intro name
    ext enabled
    rw [hc.states, hd.states]
    unfold Definite
    simp only [hlisted]

/-- The order of the component list changes nothing that is parsed. -/
theorem ParsedFrom.reordered {info other : List (PyText × JsonDocument)}
    {parsed parsed' : HyperHDRServerInfo} (h : ParsedFrom upper info parsed)
    (h' : ParsedFrom upper other parsed') (hreordered : Reordered info other) :
    parsed = parsed' := by
  obtain ⟨hnames, hambiguous, hstates⟩ :=
    (collected_listed upper (JsonDocument.get info "components")).unique
      (collected_listed upper (JsonDocument.get other "components"))
      fun name state => listed_perm hreordered.components
  have hinstances : instancesOf info = instancesOf other := by
    unfold instancesOf
    rw [hreordered.rest "instance" (by decide), hreordered.rest "instances" (by decide)]
  obtain ⟨received, hdr, running, grabber, led, names, ambiguous⟩ := parsed
  obtain ⟨_, _, _, _, _, _, _⟩ := parsed'
  obtain ⟨rfl, rfl, rfl, rfl, rfl, rfl, rfl⟩ := h
  obtain ⟨rfl, rfl, rfl, rfl, rfl, rfl, rfl⟩ := h'
  rw [hnames, hambiguous, hstates, hstates, hstates, hinstances,
    hreordered.rest "videomodehdr" (by decide)]

end Aurora.Hardware
