/-
  The component states of HyperHDR, from the document to the verified operation.

  `ComponentLaw` says what a document's parsed facts are expected to satisfy.  All of it holds but
  for one case: when the entries of `VIDEOGRABBER` contradict each other their state is dropped,
  and the fallback to `GRABBER` takes a dropped state for a missing one.  `componentLaw_iff` is the
  exact condition.  The adapter looks at the ambiguous names first, so it is not misled.
-/
import Aurora.Hardware.ComponentEntries
import Aurora.ControlPlane.HyperhdrAdapter

namespace Aurora.ControlPlane

open HealthHistory Hardware

/-! ## The law -/

/-- The component list of server information. -/
def componentsOf (info : List (PyText × JsonDocument)) : List JsonDocument :=
  listedComponents (JsonDocument.get info "components")

/-- Two documents that differ at most in the order of their component lists. -/
structure SameDocument (payload other : List (PyText × JsonDocument)) : Prop where
  success : JsonDocument.get payload "success" = JsonDocument.get other "success"
  command : JsonDocument.get payload "command" = JsonDocument.get other "command"
  info : JsonDocument.get payload "info" = JsonDocument.get other "info" ∨
    ∃ info info', JsonDocument.get payload "info" = .object info ∧
      JsonDocument.get other "info" = .object info' ∧ Reordered info info'

/-- What is expected of the facts parsed from a document. -/
structure ComponentLaw (upper : PyText → PyText) (payload : List (PyText × JsonDocument)) :
    Prop where
  /-- The order of the component list does not matter. -/
  order : ∀ other, SameDocument payload other →
    readHyperhdrServerInfo upper payload = readHyperhdrServerInfo upper other
  /-- A name is ambiguous for a state that is no Boolean or for two different ones. -/
  ambiguous : ∀ info parsed, JsonDocument.get payload "info" = .object info →
    readHyperhdrServerInfo upper payload = .ok parsed →
      ∀ name, name ∈ parsed.ambiguousComponentStates ↔ Ambiguous upper (componentsOf info) name
  /-- An ambiguous grabber has no activity. -/
  indefinite : ∀ info parsed, JsonDocument.get payload "info" = .object info →
    readHyperhdrServerInfo upper payload = .ok parsed →
      Ambiguous upper (componentsOf info) (PyText.of "VIDEOGRABBER") →
        parsed.grabberActive = none
  /-- An operation is verified by entries that all say what was requested. -/
  verified : ∀ (loads : Loads) (adapter : HyperHDRMutationAdapter) (operation : HyperHDROperation)
    body info, adapter.fetchServerInfo adapter.host adapter.port adapter.timeoutSeconds = .ok body →
      loads body = .ok (.object payload) → JsonDocument.get payload "info" = .object info →
      (adapter.verifyComponent loads upper operation.componentState.1
        operation.componentState.2).verified = true →
        Definite upper (componentsOf info) (PyText.of operation.componentState.1)
          operation.componentState.2

/-- The entries of `VIDEOGRABBER` are ambiguous while those of `GRABBER` agree on a Boolean. -/
def MaskedConflict (upper : PyText → PyText) (payload : List (PyText × JsonDocument)) : Prop :=
  ∃ info, Serves payload info ∧
    Ambiguous upper (componentsOf info) (PyText.of "VIDEOGRABBER") ∧
    ∃ enabled, Definite upper (componentsOf info) (PyText.of "GRABBER") enabled

/-! ## Parsed facts -/

variable {upper : PyText → PyText} {payload : List (PyText × JsonDocument)}

/-- The order of the members of a document does not matter. -/
theorem readHyperhdrServerInfo_sameDocument {other : List (PyText × JsonDocument)}
    (h : SameDocument payload other) :
    readHyperhdrServerInfo upper payload = readHyperhdrServerInfo upper other := by
  obtain ⟨hsuccess, hcommand, hinfo⟩ := h
  rcases hinfo with hinfo | ⟨info, info', hinfo, hinfo', hreordered⟩
  · unfold readHyperhdrServerInfo
    rw [hsuccess, hcommand, hinfo]
  · by_cases hserves : Serves payload info
    · have hserves' : Serves other info' :=
        ⟨hsuccess ▸ hserves.success, hcommand ▸ hserves.command, hinfo'⟩
      obtain ⟨parsed, hread, hparsed⟩ := hserves.read upper
      obtain ⟨parsed', hread', hparsed'⟩ := hserves'.read upper
      rw [hread, hread', hparsed.reordered hparsed' hreordered]
    · -- both are refused, for the same reason
      unfold readHyperhdrServerInfo
      rw [← hsuccess, ← hcommand, hinfo, hinfo']
      split
      · rfl
      · rfl
      · rename_i hbool
        dsimp only
        split
        · rfl
        · rename_i hguard
          refine absurd ⟨hbool, ?_, hinfo⟩ hserves
          rw [Bool.and_eq_true, Bool.not_eq_true', Bool.not_eq_true', not_and_or,
            Bool.not_eq_false, Bool.not_eq_false] at hguard
          exact hguard

section Parsed

variable {info : List (PyText × JsonDocument)} {parsed : HyperHDRServerInfo}

/-- What a document is parsed from is the information it holds. -/
theorem parsedFrom_of_read (hinfo : JsonDocument.get payload "info" = .object info)
    (hread : readHyperhdrServerInfo upper payload = .ok parsed) :
    Serves payload info ∧ ParsedFrom upper info parsed := by
  obtain ⟨served, hserves, hparsed⟩ := readHyperhdrServerInfo_ok hread
  have h := hserves.info.symm.trans hinfo
  obtain rfl := JsonDocument.object.inj h
  exact ⟨hserves, hparsed⟩

/-- The ambiguous names are those with both states. -/
theorem mem_ambiguous_iff (h : ParsedFrom upper info parsed) (name : PyText) :
    name ∈ parsed.ambiguousComponentStates ↔ Ambiguous upper (componentsOf info) name := by
  rw [h.ambiguous]
  exact (collected_listed upper _).ambiguous name

theorem mem_names_iff (h : ParsedFrom upper info parsed) (name : PyText) :
    name ∈ parsed.componentStateNames ↔ ∃ state, Listed upper (componentsOf info) name state := by
  rw [h.names]
  exact (collected_listed upper _).names name

/-- The state of a name that is ambiguous or has no entry is missing. -/
theorem state_eq_none {components : JsonDocument} {name : PyText}
    (h : ∀ enabled, ¬Definite upper (listedComponents components) name enabled) :
    (componentStates upper components).states.get? name = none := by
  cases hstate : (componentStates upper components).states.get? name with
  | none => rfl
  | some enabled =>
    exact absurd (((collected_listed upper components).states name enabled).mp hstate) (h enabled)

/-- With an ambiguous `VIDEOGRABBER` the activity is that of `GRABBER`. -/
theorem grabberActive_of_ambiguous (h : ParsedFrom upper info parsed)
    (hambiguous : Ambiguous upper (componentsOf info) (PyText.of "VIDEOGRABBER"))
    (enabled : Bool) :
    parsed.grabberActive = some enabled ↔
      Definite upper (componentsOf info) (PyText.of "GRABBER") enabled := by
  rw [h.grabber, state_eq_none fun b => hambiguous.not_definite b, Option.none_or]
  exact (collected_listed upper _).states _ enabled

theorem operation_component (operation : HyperHDROperation) :
    operation.componentState.1 = "VIDEOGRABBER" ∨ operation.componentState.1 = "LEDDEVICE" := by
  cases operation with
  | videoGrabberEnable => exact Or.inl rfl
  | videoGrabberDisable => exact Or.inl rfl
  | ledOutputEnable => exact Or.inr rfl
  | ledOutputDisable => exact Or.inr rfl

/-- The activity a component is verified by is the common state of its entries. -/
theorem definite_of_actual (h : ParsedFrom upper info parsed) {component : String}
    (hcomponent : component = "VIDEOGRABBER" ∨ component = "LEDDEVICE")
    (hunambiguous : ¬Ambiguous upper (componentsOf info) (PyText.of component))
    {state : JsonDocument} (hlisted : Listed upper (componentsOf info) (PyText.of component) state)
    {actual : Bool}
    (hactual : (if component = "VIDEOGRABBER" then parsed.grabberActive
      else parsed.ledOutputActive) = some actual) :
    Definite upper (componentsOf info) (PyText.of component) actual := by
  obtain ⟨enabled, hdefinite⟩ := definite_of_not_ambiguous hunambiguous hlisted
  have hstate := ((collected_listed upper _).states _ enabled).mpr hdefinite
  rcases hcomponent with rfl | rfl
  · rw [if_pos rfl, h.grabber, hstate, Option.some_or] at hactual
    exact Option.some.inj hactual ▸ hdefinite
  · rw [if_neg (by decide), h.led, hstate] at hactual
    exact Option.some.inj hactual ▸ hdefinite

end Parsed

/-! ## Verification -/

/-- What the adapter needs to call an operation verified. -/
theorem verifyComponent_verified {loads : Loads} {adapter : HyperHDRMutationAdapter}
    {component : String} {requestedState : Bool}
    (h : (adapter.verifyComponent loads upper component requestedState).verified = true) :
    ∃ body parsed,
      adapter.fetchServerInfo adapter.host adapter.port adapter.timeoutSeconds = .ok body ∧
        parseHyperhdrServerInfo loads upper body = .ok parsed ∧
        PyText.of component ∉ parsed.ambiguousComponentStates ∧
        PyText.of component ∈ parsed.componentStateNames ∧
        (if component = "VIDEOGRABBER" then parsed.grabberActive
          else parsed.ledOutputActive) = some requestedState := by
  unfold HyperHDRMutationAdapter.verifyComponent at h
  split at h
  · cases h
  · cases h
  · rename_i parsed hparsed
    obtain ⟨body, hfetch, hparse⟩ := parseFetched_ok hparsed
    split at h
    · cases h
    · rename_i hunambiguous
      split at h
      · cases h
      · rename_i hpresent
        split at h
        · cases h
        · rename_i actual hactual
          split at h
          · cases h
          · rename_i hequal
            exact ⟨body, parsed, hfetch, hparse, hunambiguous, not_not.mp hpresent,
              (not_not.mp hequal) ▸ hactual⟩

/-- A verified operation has entries, all of which say what was requested. -/
theorem definite_of_verified {loads : Loads} {adapter : HyperHDRMutationAdapter}
    {operation : HyperHDROperation} {body : List UInt8} {info : List (PyText × JsonDocument)}
    (hfetch : adapter.fetchServerInfo adapter.host adapter.port adapter.timeoutSeconds = .ok body)
    (hloads : loads body = .ok (.object payload))
    (hinfo : JsonDocument.get payload "info" = .object info)
    (h : (adapter.verifyComponent loads upper operation.componentState.1
      operation.componentState.2).verified = true) :
    Definite upper (componentsOf info) (PyText.of operation.componentState.1)
      operation.componentState.2 := by
  obtain ⟨fetched, parsed, hfetched, hparse, hunambiguous, hpresent, hactual⟩ :=
    verifyComponent_verified h
  obtain rfl := Except.ok.inj (hfetch.symm.trans hfetched)
  have hread : readHyperhdrServerInfo upper payload = .ok parsed := by
    unfold parseHyperhdrServerInfo loadMapping at hparse
    rw [hloads] at hparse
    exact hparse
  obtain ⟨-, hparsed⟩ := parsedFrom_of_read hinfo hread
  rw [mem_ambiguous_iff hparsed] at hunambiguous
  obtain ⟨state, hlisted⟩ := (mem_names_iff hparsed _).mp hpresent
  exact definite_of_actual hparsed (operation_component operation) hunambiguous hlisted hactual

/-- The law holds of exactly the documents in which no conflict is masked. -/
theorem componentLaw_iff (upper : PyText → PyText) (payload : List (PyText × JsonDocument)) :
    ComponentLaw upper payload ↔ ¬MaskedConflict upper payload := by
  constructor
  · rintro hlaw ⟨info, hserves, hambiguous, enabled, hdefinite⟩
    obtain ⟨parsed, hread, hparsed⟩ := hserves.read upper
    have hnone := hlaw.indefinite info parsed hserves.info hread hambiguous
    rw [(grabberActive_of_ambiguous hparsed hambiguous enabled).mpr hdefinite] at hnone
    cases hnone
  · intro hunmasked
    constructor
    · intro other hsame
      exact readHyperhdrServerInfo_sameDocument hsame
    · intro info parsed hinfo hread name
      exact mem_ambiguous_iff (parsedFrom_of_read hinfo hread).2 name
    · intro info parsed hinfo hread hambiguous
      obtain ⟨hserves, hparsed⟩ := parsedFrom_of_read hinfo hread
      cases hactive : parsed.grabberActive with
      | none => rfl
      | some enabled =>
        have hdefinite := (grabberActive_of_ambiguous hparsed hambiguous enabled).mp hactive
        exact absurd ⟨info, hserves, hambiguous, enabled, hdefinite⟩ hunmasked
    · intro loads adapter operation body info hfetch hloads hinfo hverified
      exact definite_of_verified hfetch hloads hinfo hverified

/-- One entry of a component list. -/
def componentItem (name : String) (enabled : Bool) : JsonDocument :=
  .object [(PyText.of "name", .text (PyText.of name)), (PyText.of "enabled", .bool enabled)]

/-- An item that is written is read back. -/
theorem componentItem_entry (name : String) (enabled : Bool) :
    componentEntry id (componentItem name enabled) = some (PyText.of name, .bool enabled) := by
  have hname : JsonDocument.get [(PyText.of "name", .text (PyText.of name)),
      (PyText.of "enabled", .bool enabled)] "name" = .text (PyText.of name) := by
    unfold JsonDocument.get
    rw [List.lookup_cons_self]
    rfl
  have henabled : JsonDocument.get [(PyText.of "name", .text (PyText.of name)),
      (PyText.of "enabled", .bool enabled)] "enabled" = .bool enabled := by
    unfold JsonDocument.get
    rw [List.lookup_cons, beq_false_of_ne (by decide), List.lookup_cons_self]
    rfl
  unfold componentEntry componentItem
  dsimp only
  rw [hname, henabled]
  rfl

/-- Two entries of `VIDEOGRABBER` contradict each other beside one of `GRABBER`. -/
def conflictComponents : List JsonDocument :=
  [componentItem "VIDEOGRABBER" true, componentItem "VIDEOGRABBER" false,
    componentItem "GRABBER" true]

/-- A response with two states of one component. -/
def conflictDocument : List (PyText × JsonDocument) :=
  [(PyText.of "success", .bool true),
    (PyText.of "info", .object [(PyText.of "components", .array conflictComponents)])]

/-- The contradicting entries come out as a grabber that is active. -/
theorem conflict_masked :
    (∃ parsed, readHyperhdrServerInfo id conflictDocument = .ok parsed ∧
      PyText.of "VIDEOGRABBER" ∈ parsed.ambiguousComponentStates ∧
      parsed.grabberActive = some true) ∧
    ¬ComponentLaw id conflictDocument := by
  have hserves : Serves conflictDocument [(PyText.of "components", .array conflictComponents)] :=
    ⟨rfl, Or.inl rfl, rfl⟩
  have hcomponents : componentsOf [(PyText.of "components", .array conflictComponents)] =
      conflictComponents := rfl
  have hambiguous : Ambiguous id conflictComponents (PyText.of "VIDEOGRABBER") :=
    Or.inr ⟨⟨componentItem "VIDEOGRABBER" true, List.mem_cons_self, componentItem_entry _ _⟩,
      ⟨componentItem "VIDEOGRABBER" false, List.mem_cons_of_mem _ List.mem_cons_self,
        componentItem_entry _ _⟩⟩
  have hdefinite : Definite id conflictComponents (PyText.of "GRABBER") true := by
    refine ⟨⟨_, componentItem "GRABBER" true, by simp [conflictComponents],
      componentItem_entry _ _⟩, ?_⟩
    rintro state ⟨component, hmem, hentry⟩
    have hname : PyText.of "VIDEOGRABBER" ≠ PyText.of "GRABBER" := by decide
    simp only [conflictComponents, List.mem_cons, List.not_mem_nil, or_false] at hmem
    rcases hmem with rfl | rfl | rfl <;> rw [componentItem_entry] at hentry
    · exact absurd (congrArg Prod.fst (Option.some.inj hentry)) hname
    · exact absurd (congrArg Prod.fst (Option.some.inj hentry)) hname
    · exact (congrArg Prod.snd (Option.some.inj hentry)).symm
  obtain ⟨parsed, hread, hparsed⟩ := hserves.read id
  have hactive : parsed.grabberActive = some true :=
    (grabberActive_of_ambiguous hparsed hambiguous true).mpr hdefinite
  refine ⟨⟨parsed, hread, (mem_ambiguous_iff hparsed _).mpr hambiguous, hactive⟩, fun hlaw => ?_⟩
  have hnone := hlaw.indefinite _ parsed hserves.info hread hambiguous
  rw [hactive] at hnone
  cases hnone

end Aurora.ControlPlane
