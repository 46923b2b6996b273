/-
  The order of a composite's steps, and what it reports of them.

  A run of a composite is what its gates exchange, then the runs of its children one after the other,
  and an ending (`Composite`).  A child is attempted only after the steps it requires were verified;
  the result lists the children that ran and those that were verified; and it says completed if and
  only if all three were.
-/
import Aurora.ControlPlane.Executions

namespace Aurora.ControlPlane

open Program

variable {t : List (Exchange ControlInterface)}

/-! ## Steps -/

/-- The steps of an operation, in order. -/
def AuroraOperation.steps : AuroraOperation → List AmbientControlStep
  | .ambientOn => [.videoGrabberEnable, .wledPowerOn, .ledOutputEnable]
  | .ambientOff => [.ledOutputDisable, .videoGrabberDisable, .wledPowerOff]

namespace AmbientControlStep

/-- What must have been verified before a step is attempted. -/
def requires : AmbientControlStep → List AmbientControlStep
  | .videoGrabberEnable => []
  | .wledPowerOn => [.videoGrabberEnable]
  | .ledOutputEnable => [.videoGrabberEnable, .wledPowerOn]
  | .ledOutputDisable => []
  | .videoGrabberDisable => [.ledOutputDisable]
  | .wledPowerOff => [.ledOutputDisable]

/-- The execution that a step comes to. -/
def command : AmbientControlStep → Command
  | .videoGrabberEnable => .hyperhdr .videoGrabberEnable
  | .wledPowerOn => .wled .powerOn .noOperationInput
  | .ledOutputEnable => .hyperhdr .ledOutputEnable
  | .ledOutputDisable => .hyperhdr .ledOutputDisable
  | .videoGrabberDisable => .hyperhdr .videoGrabberDisable
  | .wledPowerOff => .wled .powerOff .noOperationInput

end AmbientControlStep

/-! ## Children -/

/-- A child that ran: its step, its calls, and how it ended. -/
structure ChildRun (call : AmbientControlStep → ControlProgram ControlResult) where
  step : AmbientControlStep
  calls : List (Exchange ControlInterface)
  result : Except Thrown ControlResult
  runs : Runs (call step) calls result

variable {call : AmbientControlStep → ControlProgram ControlResult} {operation : AuroraOperation}

/-- The child returned, and said verified. -/
def ChildRun.verified (child : ChildRun call) : Bool :=
  AmbientControlService.childVerified child.result.toOption

/-- The calls of children that ran one after the other. -/
def childCalls (children : List (ChildRun call)) : List (Exchange ControlInterface) :=
  children.flatMap (·.calls)

/-- The children that were verified. -/
def verifiedChildren (children : List (ChildRun call)) : List (ChildRun call) :=
  children.filter (·.verified)

/-- A child runs once, and its exception counts as no result. -/
theorem runs_safeChildCall {step : AmbientControlStep} {r : Except Thrown (Option ControlResult)}
    (h : Runs (AmbientControlService.safeChildCall (call step)) t r) :
    ∃ child : ChildRun call, child.step = step ∧ child.calls = t ∧
      (r = .ok child.result.toOption ∨ r = .error .interrupt ∧ child.result = .error .interrupt) := by
  obtain ⟨r', hmap, rfl⟩ := runs_exceptException.mp h
  obtain ⟨thrown, hraised, rfl⟩ | ⟨result, t₁, t₂, rfl, hcall, hrest⟩ := runs_bind.mp hmap
  · refine ⟨⟨step, t, .error thrown, hraised⟩, rfl, rfl, ?_⟩
    cases thrown with
    | exception => exact .inl rfl
    | interrupt => exact .inr ⟨rfl, rfl⟩
  · obtain ⟨rfl, rfl⟩ := runs_pure.mp hrest
    exact ⟨⟨step, t₁, .ok result, hcall⟩, rfl, (List.append_nil t₁).symm, .inl rfl⟩

/-- The result of a child that was verified or not is never read as completion. -/
theorem aggregateChildStatus_ne {result : Option ControlResult} {any : Bool}
    {status : AmbientControlStatus}
    (h : AmbientControlService.aggregateChildStatus result any = .ok status) :
    status ≠ .completed := by
  unfold AmbientControlService.aggregateChildStatus at h
  split at h
  · obtain rfl := Except.ok.inj h
    simp
  · split at h
    · obtain rfl := Except.ok.inj h
      simp
    · split at h <;> cases h <;> simp

theorem runs_finish {status : AmbientControlStatus} {reason : AuditReason}
    {attempted verified : List AmbientControlStep} {r : Except Thrown AmbientControlResult}
    (h : Runs (AmbientControlService.finish operation status reason attempted verified) t r) :
    Idle t ∧ (r = .ok ⟨status, attempted, verified⟩ ∨ ∃ thrown, r = .error thrown ∧
      ⟨.emitOperation (parentAuditEvent status) reason (.aurora operation), .error thrown⟩ ∈ t) := by
  refine ⟨idle_of_quiet AmbientControlService.makes_finish h, ?_⟩
  obtain ⟨answer, t, rfl, ⟨_, -, hrest⟩ | ⟨thrown, hanswer, -, rfl⟩⟩ := runs_invoke_bind.mp h
  · obtain ⟨-, rfl⟩ := runs_pure.mp hrest
    exact .inl rfl
  · obtain rfl : answer = .error thrown := hanswer
    exact .inr ⟨thrown, rfl, List.mem_cons_self⟩

/-! ## Composites -/

/-- A run of a composite, told by its children. -/
structure Composite (operation : AuroraOperation)
    (call : AmbientControlStep → ControlProgram ControlResult) (children : List (ChildRun call))
    (gates ending : List (Exchange ControlInterface)) (r : Except Thrown AmbientControlResult) :
    Prop where
  gates_idle : Idle gates
  ending_idle : Idle ending
  /-- The steps are attempted in their order. -/
  ordered : children.map (·.step) <+: operation.steps
  /-- What a step requires was verified before it was attempted. -/
  required : ∀ before child after, children = before ++ child :: after →
    ∀ step ∈ child.step.requires, ∃ earlier ∈ before, earlier.step = step ∧ earlier.verified = true
  reported : ∀ result, r = .ok result → result.attemptedSteps = children.map (·.step) ∧
    result.verifiedSteps = (verifiedChildren children).map (·.step) ∧
    (result.status = .completed ↔
      children.map (·.step) = operation.steps ∧ ∀ child ∈ children, child.verified = true)
  /-- Three verified steps are reported completed, unless the audit of that raises. -/
  completes : children.map (·.step) = operation.steps → (∀ child ∈ children, child.verified = true) →
    r = .ok ⟨.completed, operation.steps, operation.steps⟩ ∨ ∃ thrown, r = .error thrown ∧
      ⟨.emitOperation .auroraOperationSucceeded .verified (.aurora operation), .error thrown⟩ ∈ ending

namespace Composite

variable {children : List (ChildRun call)} {gates ending : List (Exchange ControlInterface)}
  {r : Except Thrown AmbientControlResult}

/-- A run that comes to no child. -/
theorem empty (hidle : Idle t) (hr : ∀ result, r = .ok result → result.attemptedSteps = [] ∧
    result.verifiedSteps = [] ∧ result.status ≠ .completed) :
    Composite operation call [] t [] r where
  gates_idle := hidle
  ending_idle := idle_nil
  ordered := List.nil_prefix
  required := by
    intro before child after h
    cases before <;> cases h
  reported := by
    intro result hresult
    obtain ⟨hattempted, hverified, hstatus⟩ := hr result hresult
    refine ⟨hattempted, hverified, iff_of_false hstatus fun ⟨hsteps, _⟩ => ?_⟩
    cases operation <;> cases hsteps
  completes := by
    intro hsteps
    cases operation <;> cases hsteps

/-- More calls around it that execute nothing. -/
theorem frame (h : Composite operation call children gates ending r)
    {first last : List (Exchange ControlInterface)} (hfirst : Idle first) (hlast : Idle last) :
    Composite operation call children (first ++ gates) (ending ++ last) r where
  gates_idle := idle_append.mpr ⟨hfirst, h.gates_idle⟩
  ending_idle := idle_append.mpr ⟨h.ending_idle, hlast⟩
  ordered := h.ordered
  required := h.required
  reported := h.reported
  completes := by
    intro hsteps hverified
    refine (h.completes hsteps hverified).imp id fun ⟨thrown, hr, hmem⟩ => ?_
    exact ⟨thrown, hr, List.mem_append_left _ hmem⟩

end Composite

/-! ## Ambient On -/

/-- What the loop leaves behind, after steps that were all verified. -/
structure LoopEnd (operation : AuroraOperation) (done steps : List AmbientControlStep)
    (children : List (ChildRun call)) (ending : List (Exchange ControlInterface))
    (r : Except Thrown AmbientControlResult) : Prop where
  ending_idle : Idle ending
  ordered : children.map (·.step) <+: steps
  /-- Only the last child may be unverified. -/
  verified : ∀ before child after, children = before ++ child :: after → after ≠ [] →
    child.verified = true
  reported : ∀ result, r = .ok result → result.attemptedSteps = done ++ children.map (·.step) ∧
    result.verifiedSteps = done ++ (verifiedChildren children).map (·.step) ∧
    (result.status = .completed ↔
      children.map (·.step) = steps ∧ ∀ child ∈ children, child.verified = true)
  completes : children.map (·.step) = steps → (∀ child ∈ children, child.verified = true) →
    r = .ok ⟨.completed, done ++ steps, done ++ steps⟩ ∨ ∃ thrown, r = .error thrown ∧
      ⟨.emitOperation .auroraOperationSucceeded .verified (.aurora operation), .error thrown⟩ ∈ ending

/-- A child that ends the loop. -/
theorem LoopEnd.last {child : ChildRun call} {steps done : List AmbientControlStep}
    {ending : List (Exchange ControlInterface)} {r : Except Thrown AmbientControlResult}
    (hidle : Idle ending) (hchild : child.verified = false)
    (hr : ∀ result, r = .ok result → result.attemptedSteps = done ++ [child.step] ∧
      result.verifiedSteps = done ∧ result.status ≠ .completed) :
    LoopEnd operation done (child.step :: steps) [child] ending r where
  ending_idle := hidle
  ordered := ⟨steps, rfl⟩
  verified := by
    intro before child' after h hafter
    cases before with
    | nil => exact absurd (List.cons.inj h).2.symm hafter
    | cons c before =>
      have hlength := congrArg List.length (List.cons.inj h).2
      simp at hlength
  reported := by
    intro result hresult
    obtain ⟨hattempted, hverified, hstatus⟩ := hr result hresult
    have hnone : verifiedChildren [child] = [] := by simp [verifiedChildren, hchild]
    refine ⟨hattempted, ?_, iff_of_false hstatus fun ⟨_, hall⟩ => ?_⟩
    · rw [hnone, hverified]
      exact (List.append_nil done).symm
    · rw [hall child List.mem_cons_self] at hchild
      cases hchild
  completes := by
    intro _ hall
    rw [hall child List.mem_cons_self] at hchild
    cases hchild

/-- A verified child, and the rest of the loop. -/
theorem LoopEnd.cons {child : ChildRun call} {children : List (ChildRun call)}
    {steps done : List AmbientControlStep} {ending : List (Exchange ControlInterface)}
    {r : Except Thrown AmbientControlResult}
    (h : LoopEnd operation (done ++ [child.step]) steps children ending r)
    (hchild : child.verified = true) :
    LoopEnd operation done (child.step :: steps) (child :: children) ending r := by
  have hlist : ∀ l : List AmbientControlStep, done ++ [child.step] ++ l = done ++ child.step :: l :=
    fun l => by simp
  have hfilter : verifiedChildren (child :: children) = child :: verifiedChildren children := by
    simp [verifiedChildren, hchild]
  have hsteps : (child :: children).map (·.step) = child.step :: steps ↔
      children.map (·.step) = steps := by simp
  have hall : (∀ c ∈ child :: children, c.verified = true) ↔ ∀ c ∈ children, c.verified = true := by
    simp [hchild]
  refine ⟨h.ending_idle, ?_, ?_, ?_, ?_⟩
  · obtain ⟨rest, hrest⟩ := h.ordered
    exact ⟨rest, by rw [List.map_cons, List.cons_append, hrest]⟩
  · intro before child' after hcut hafter
    cases before with
    | nil =>
      obtain ⟨rfl, -⟩ := List.cons.inj hcut
      exact hchild
    | cons c before => exact h.verified before child' after (List.cons.inj hcut).2 hafter
  · intro result hresult
    obtain ⟨hattempted, hverified, hstatus⟩ := h.reported result hresult
    rw [hfilter, hsteps, hall]
    rw [hlist] at hattempted hverified
    exact ⟨hattempted, hverified, hstatus⟩
  · intro hmap hverified
    have hcompletes := h.completes (hsteps.mp hmap) (hall.mp hverified)
    rwa [hlist] at hcompletes

/-- By induction on the steps: the children run in order until one fails. -/
theorem runs_runSteps {steps done : List AmbientControlStep}
    {r : Except Thrown AmbientControlResult}
    (h : Runs (AmbientControlService.runSteps operation call done done steps) t r) :
    ∃ (children : List (ChildRun call)) (ending : List (Exchange ControlInterface)),
      t = childCalls children ++ ending ∧ LoopEnd operation done steps children ending r := by
  induction steps generalizing t done with
  | nil =>
    obtain ⟨hidle, hr⟩ := runs_finish h
    refine ⟨[], t, rfl, hidle, List.nil_prefix, ?_, ?_, ?_⟩
    · intro before child after hcut
      cases before <;> cases hcut
    · rintro result rfl
      rcases hr with hr | ⟨thrown, hr, -⟩
      · obtain rfl := Except.ok.inj hr
        simp [verifiedChildren]
      · cases hr
    · intro _ _
      rw [List.append_nil]
      exact hr
  | cons step steps ih =>
    unfold AmbientControlService.runSteps at h
    obtain ⟨thrown, hraised, rfl⟩ | ⟨result, t₁, t₂, rfl, hsafe, h⟩ := runs_bind.mp h
    · obtain ⟨child, rfl, rfl, hok | ⟨-, hinterrupt⟩⟩ := runs_safeChildCall hraised
      · cases hok
      · have hunverified : child.verified = false := by
          unfold ChildRun.verified
          rw [hinterrupt]
          rfl
        refine ⟨[child], [], by simp [childCalls], ?_⟩
        exact .last idle_nil hunverified fun _ hr => by cases hr
    obtain ⟨child, rfl, rfl, hok | ⟨hraised, -⟩⟩ := runs_safeChildCall hsafe
    swap
    · cases hraised
    obtain rfl := Except.ok.inj hok
    -- a child that was not verified is the last one
    split at h
    case isTrue hverified =>
      obtain ⟨children, ending, rfl, hend⟩ := ih h
      exact ⟨child :: children, ending, by simp [childCalls], hend.cons hverified⟩
    case isFalse hunverified =>
      have hunverified : child.verified = false := by simpa [ChildRun.verified] using hunverified
      refine ⟨[child], t₂, by simp [childCalls], ?_⟩
      obtain ⟨thrown, hraised, rfl⟩ | ⟨status, t₃, t₄, rfl, hstatus, hfinish⟩ := runs_bind.mp h
      · obtain ⟨rfl, -⟩ := runs_ofExcept.mp hraised
        exact .last idle_nil hunverified fun _ hr => by cases hr
      · obtain ⟨rfl, hgiven⟩ := runs_ofExcept.mp hstatus
        obtain ⟨hidle, hr⟩ := runs_finish hfinish
        refine .last hidle hunverified fun result hresult => ?_
        rcases hr with hr | ⟨thrown, hr, -⟩
        · obtain rfl := Except.ok.inj (hresult.symm.trans hr)
          exact ⟨rfl, rfl, aggregateChildStatus_ne hgiven.symm⟩
        · rw [hr] at hresult
          cases hresult

/-- The children before a child took the steps before its step. -/
theorem steps_before {children before after : List (ChildRun call)} {child : ChildRun call}
    {steps : List AmbientControlStep} (h : children.map (·.step) <+: steps)
    (hcut : children = before ++ child :: after) :
    before.map (·.step) ++ [child.step] <+: steps := by
  refine List.IsPrefix.trans ?_ h
  rw [hcut, List.map_append, List.map_cons]
  exact ⟨after.map (·.step), by simp⟩

/-- A step of the children is the step of one of them. -/
theorem exists_child {children : List (ChildRun call)} {step : AmbientControlStep}
    (h : step ∈ children.map (·.step)) : ∃ child ∈ children, child.step = step :=
  List.mem_map.mp h

theorem composite_runAmbientOn {r : Except Thrown AmbientControlResult}
    (h : Runs (AmbientControlService.runAmbientOn .ambientOn call) t r) :
    ∃ (children : List (ChildRun call)) (ending : List (Exchange ControlInterface)),
      t = childCalls children ++ ending ∧ Composite .ambientOn call children [] ending r := by
  obtain ⟨children, ending, rfl, hend⟩ := runs_runSteps h
  refine ⟨children, ending, rfl, idle_nil, hend.ending_idle, hend.ordered, ?_, hend.reported,
    hend.completes⟩
  intro before child after hcut step hstep
  have hmem : step ∈ before.map (·.step) := by
    have hprefix := steps_before hend.ordered hcut
    generalize hchild : child.step = last at hprefix hstep
    generalize before.map (·.step) = earlier at hprefix ⊢
    -- the steps before a step of Ambient On are the ones it requires
    match earlier with
    | [] =>
      obtain ⟨rest, hrest⟩ := hprefix
      obtain ⟨rfl, -⟩ := List.cons.inj hrest
      cases hstep
    | [a] =>
      obtain ⟨rest, hrest⟩ := hprefix
      obtain ⟨rfl, htail⟩ := List.cons.inj hrest
      obtain ⟨rfl, -⟩ := List.cons.inj htail
      exact hstep
    | [a, b] =>
      obtain ⟨rest, hrest⟩ := hprefix
      obtain ⟨rfl, htail⟩ := List.cons.inj hrest
      obtain ⟨rfl, hlast⟩ := List.cons.inj htail
      obtain ⟨rfl, -⟩ := List.cons.inj hlast
      exact hstep
    | a :: b :: c :: earlier =>
      have hlength := hprefix.length_le
      simp only [List.length_append, List.length_cons, List.length_nil] at hlength
      omega
  obtain ⟨earlier, hearlier, hsame⟩ := exists_child hmem
  refine ⟨earlier, hearlier, hsame, ?_⟩
  obtain ⟨first, second, rfl⟩ := List.append_of_mem hearlier
  refine hend.verified first earlier (second ++ child :: after) ?_ (by simp)
  rw [hcut]
  simp

/-! ## Ambient Off -/

/-- An isolation that was not verified is the only child. -/
theorem composite_unisolated {child : ChildRun call} {ending : List (Exchange ControlInterface)}
    {r : Except Thrown AmbientControlResult} (hidle : Idle ending)
    (hstep : child.step = .ledOutputDisable)
    (hr : ∀ result, r = .ok result → result.attemptedSteps = [child.step] ∧
      result.verifiedSteps = (verifiedChildren [child]).map (·.step) ∧
      result.status ≠ .completed) :
    Composite .ambientOff call [child] [] ending r where
  gates_idle := idle_nil
  ending_idle := hidle
  ordered := ⟨[.videoGrabberDisable, .wledPowerOff], by simp [hstep, AuroraOperation.steps]⟩
  required := by
    intro before child' after hcut step hrequired
    cases before with
    | nil =>
      obtain ⟨rfl, -⟩ := List.cons.inj hcut
      rw [hstep] at hrequired
      cases hrequired
    | cons c before =>
      have hlength := congrArg List.length (List.cons.inj hcut).2
      simp at hlength
  reported := by
    intro result hresult
    obtain ⟨hattempted, hverified, hstatus⟩ := hr result hresult
    refine ⟨hattempted, hverified, iff_of_false hstatus fun ⟨hsteps, _⟩ => ?_⟩
    exact absurd (congrArg List.length hsteps) (by simp [AuroraOperation.steps])
  completes := by
    intro hsteps
    exact absurd (congrArg List.length hsteps) (by simp [AuroraOperation.steps])

/-- After a verified isolation the other steps were tried, as far as no interrupt came. -/
theorem composite_isolated {led grabber : ChildRun call} {rest : List (ChildRun call)}
    {ending : List (Exchange ControlInterface)} {r : Except Thrown AmbientControlResult}
    (hidle : Idle ending) (hled : led.step = .ledOutputDisable) (hverified : led.verified = true)
    (hgrabber : grabber.step = .videoGrabberDisable)
    (hrest : rest = [] ∨ ∃ wled, rest = [wled] ∧ wled.step = .wledPowerOff)
    (hreported : ∀ result, r = .ok result →
      result.attemptedSteps = (led :: grabber :: rest).map (·.step) ∧
      result.verifiedSteps = (verifiedChildren (led :: grabber :: rest)).map (·.step) ∧
      (result.status = .completed ↔
        (led :: grabber :: rest).map (·.step) = AuroraOperation.ambientOff.steps ∧
          ∀ child ∈ led :: grabber :: rest, child.verified = true))
    (hcompletes : (led :: grabber :: rest).map (·.step) = AuroraOperation.ambientOff.steps →
      (∀ child ∈ led :: grabber :: rest, child.verified = true) →
        r = .ok ⟨.completed, AuroraOperation.ambientOff.steps, AuroraOperation.ambientOff.steps⟩ ∨
          ∃ thrown, r = .error thrown ∧ ⟨.emitOperation .auroraOperationSucceeded .verified
            (.aurora .ambientOff), .error thrown⟩ ∈ ending) :
    Composite .ambientOff call (led :: grabber :: rest) [] ending r where
  gates_idle := idle_nil
  ending_idle := hidle
  ordered := by
    rcases hrest with rfl | ⟨wled, rfl, hwled⟩
    · exact ⟨[.wledPowerOff], by simp [hled, hgrabber, AuroraOperation.steps]⟩
    · exact ⟨[], by simp [hled, hgrabber, hwled, AuroraOperation.steps]⟩
  required := by
    intro before child after hcut step hrequired
    cases before with
    | nil =>
      obtain ⟨rfl, -⟩ := List.cons.inj hcut
      rw [hled] at hrequired
      cases hrequired
    | cons c before =>
      -- every later step requires the isolation, which came first
      obtain ⟨rfl, htail⟩ := List.cons.inj hcut
      have hmem : child ∈ grabber :: rest := htail ▸ List.mem_append_right _ List.mem_cons_self
      have hchild : child.step.requires = [.ledOutputDisable] := by
        rcases List.mem_cons.mp hmem with rfl | hmem
        · rw [hgrabber]
          rfl
        · rcases hrest with rfl | ⟨wled, rfl, hwled⟩
          · cases hmem
          · rw [List.mem_singleton.mp hmem, hwled]
            rfl
      rw [hchild] at hrequired
      exact ⟨led, List.mem_cons_self, hled.trans (List.mem_singleton.mp hrequired).symm, hverified⟩
  reported := hreported
  completes := hcompletes

/-- An interrupted child was not verified. -/
theorem ChildRun.unverified {child : ChildRun call} (h : child.result = .error .interrupt) :
    child.verified = false := by
  unfold ChildRun.verified
  rw [h]
  rfl

theorem composite_runAmbientOff {r : Except Thrown AmbientControlResult}
    (h : Runs (AmbientControlService.runAmbientOff .ambientOff call) t r) :
    ∃ (children : List (ChildRun call)) (ending : List (Exchange ControlInterface)),
      t = childCalls children ++ ending ∧ Composite .ambientOff call children [] ending r := by
  unfold AmbientControlService.runAmbientOff at h
  -- the isolation
  obtain ⟨thrown, hraised, rfl⟩ | ⟨ledResult, t₁, t₂, rfl, hsafe, h⟩ := runs_bind.mp h
  · obtain ⟨led, hled, rfl, hok | ⟨-, -⟩⟩ := runs_safeChildCall hraised
    · cases hok
    · refine ⟨[led], [], by simp [childCalls], composite_unisolated idle_nil hled ?_⟩
      exact fun _ hr => by cases hr
  obtain ⟨led, hled, rfl, hok | ⟨hraised, -⟩⟩ := runs_safeChildCall hsafe
  swap
  · cases hraised
  obtain rfl := Except.ok.inj hok
  split at h
  case isTrue hunverified =>
    have hunverified : led.verified = false := by simpa [ChildRun.verified] using hunverified
    have hnone : verifiedChildren [led] = [] := by simp [verifiedChildren, hunverified]
    obtain ⟨thrown, hraised, rfl⟩ | ⟨status, t₃, t₄, rfl, hstatus, hfinish⟩ := runs_bind.mp h
    · obtain ⟨rfl, -⟩ := runs_ofExcept.mp hraised
      refine ⟨[led], [], by simp [childCalls], composite_unisolated idle_nil hled ?_⟩
      exact fun _ hr => by cases hr
    · obtain ⟨rfl, hgiven⟩ := runs_ofExcept.mp hstatus
      obtain ⟨hidle, hr⟩ := runs_finish hfinish
      refine ⟨[led], t₄, by simp [childCalls], composite_unisolated hidle hled ?_⟩
      intro result hresult
      rcases hr with hr | ⟨thrown, hr, -⟩
      · obtain rfl := Except.ok.inj (hresult.symm.trans hr)
        exact ⟨by rw [hled], by rw [hnone]; rfl, aggregateChildStatus_ne hgiven.symm⟩
      · rw [hr] at hresult
        cases hresult
  case isFalse hverified =>
  have hverified : led.verified = true := by simpa [ChildRun.verified] using hverified
  -- the grabber
  obtain ⟨thrown, hraised, rfl⟩ | ⟨grabberResult, t₃, t₄, rfl, hsafe, h⟩ := runs_bind.mp h
  · obtain ⟨grabber, hgrabber, rfl, hok | ⟨-, hinterrupt⟩⟩ := runs_safeChildCall hraised
    · cases hok
    · refine ⟨[led, grabber], [], by simp [childCalls],
        composite_isolated idle_nil hled hverified hgrabber (.inl rfl) (fun _ hr => by cases hr) ?_⟩
      intro hsteps
      exact absurd (congrArg List.length hsteps) (by simp [AuroraOperation.steps])
  obtain ⟨grabber, hgrabber, rfl, hok | ⟨hraised, -⟩⟩ := runs_safeChildCall hsafe
  swap
  · cases hraised
  obtain rfl := Except.ok.inj hok
  -- the lights
  obtain ⟨thrown, hraised, rfl⟩ | ⟨wledResult, t₅, t₆, rfl, hsafe, h⟩ := runs_bind.mp h
  · obtain ⟨wled, hwled, rfl, hok | ⟨-, hinterrupt⟩⟩ := runs_safeChildCall hraised
    · cases hok
    · refine ⟨[led, grabber, wled], [], by simp [childCalls], composite_isolated idle_nil hled
        hverified hgrabber (.inr ⟨wled, rfl, hwled⟩) (fun _ hr => by cases hr) ?_⟩
      intro _ hall
      have hlast := hall wled (by simp)
      rw [wled.unverified hinterrupt] at hlast
      cases hlast
  obtain ⟨wled, hwled, rfl, hok | ⟨hraised, -⟩⟩ := runs_safeChildCall hsafe
  swap
  · cases hraised
  obtain rfl := Except.ok.inj hok
  -- the report
  change Runs (AmbientControlService.finish .ambientOff
    (if !grabber.verified || !wled.verified then .partiallyCompleted else .completed)
    (if !grabber.verified || !wled.verified then .partialCompletion else .verified)
    [.ledOutputDisable, .videoGrabberDisable, .wledPowerOff]
    ([.ledOutputDisable] ++ (if grabber.verified then [.videoGrabberDisable] else []) ++
      (if wled.verified then [.wledPowerOff] else []))) t₆ r at h
  obtain ⟨hidle, hr⟩ := runs_finish h
  refine ⟨[led, grabber, wled], t₆, by simp [childCalls],
    composite_isolated hidle hled hverified hgrabber (.inr ⟨wled, rfl, hwled⟩) ?_ ?_⟩
  · intro result hresult
    rcases hr with hr | ⟨thrown, hr, -⟩
    · obtain rfl := Except.ok.inj (hresult.symm.trans hr)
      cases hg : grabber.verified <;> cases hw : wled.verified <;>
        simp [verifiedChildren, hverified, hled, hgrabber, hwled, hg, hw, AuroraOperation.steps]
    · rw [hr] at hresult
      cases hresult
  · intro _ hall
    have hg := hall grabber (by simp)
    have hw := hall wled (by simp)
    rw [hg, hw] at hr
    exact hr

/-! ## Requests -/

/-- A run of a composite, with its children somewhere in it. -/
def Composes (operation : AuroraOperation)
    (call : AmbientControlStep → ControlProgram ControlResult)
    (t : List (Exchange ControlInterface)) (r : Except Thrown AmbientControlResult) : Prop :=
  ∃ (children : List (ChildRun call)) (gates ending : List (Exchange ControlInterface)),
    t = gates ++ childCalls children ++ ending ∧ Composite operation call children gates ending r

/-- What executes nothing may stand around a composite. -/
theorem Composes.frame {r : Except Thrown AmbientControlResult}
    {first last : List (Exchange ControlInterface)} (h : Composes operation call t r)
    (hfirst : Idle first) (hlast : Idle last) :
    Composes operation call (first ++ t ++ last) r := by
  obtain ⟨children, gates, ending, rfl, hcomposite⟩ := h
  exact ⟨children, first ++ gates, ending ++ last, by simp only [List.append_assoc],
    hcomposite.frame hfirst hlast⟩

/-- A run without a child, which reports no step. -/
def Declined (t : List (Exchange ControlInterface)) (r : Except Thrown AmbientControlResult) :
    Prop :=
  Idle t ∧ ∀ result, r = .ok result → result.attemptedSteps = [] ∧ result.verifiedSteps = [] ∧
    result.status ≠ .completed

/-- A composite that was declined has no children. -/
theorem Declined.composes {r : Except Thrown AmbientControlResult} (h : Declined t r) :
    Composes operation call t r :=
  ⟨[], t, [], by simp [childCalls], .empty h.1 h.2⟩

theorem declined_error {thrown : Thrown} (hidle : Idle t) : Declined t (.error thrown) :=
  ⟨hidle, fun _ hr => by cases hr⟩

/-- A composite that is over before a child was called. -/
theorem declined_finish {status : AmbientControlStatus} {reason : AuditReason}
    {r : Except Thrown AmbientControlResult} (hstatus : status ≠ .completed)
    (h : Runs (AmbientControlService.finish operation status reason [] []) t r) : Declined t r := by
  obtain ⟨hidle, hr⟩ := runs_finish h
  refine ⟨hidle, fun result hresult => ?_⟩
  rcases hr with hr | ⟨thrown, hr, -⟩
  · obtain rfl := Except.ok.inj (hresult.symm.trans hr)
    exact ⟨rfl, rfl, hstatus⟩
  · rw [hr] at hresult
    cases hresult

theorem composes_run {r : Except Thrown AmbientControlResult}
    (h : Runs (AmbientControlService.run operation call) t r) : Composes operation call t r := by
  cases operation with
  | ambientOn =>
    obtain ⟨children, ending, rfl, hcomposite⟩ := composite_runAmbientOn h
    exact ⟨children, [], ending, rfl, hcomposite⟩
  | ambientOff =>
    obtain ⟨children, ending, rfl, hcomposite⟩ := composite_runAmbientOff h
    exact ⟨children, [], ending, rfl, hcomposite⟩

theorem composes_serialized {clientIdentifier : String} {r : Except Thrown AmbientControlResult}
    (h : Runs (AmbientControlService.serialized operation call clientIdentifier) t r) :
    Composes operation call t r := by
  unfold AmbientControlService.serialized at h
  replace h := runs_invoke_bind.mp h
  obtain ⟨granted, t, rfl, ⟨granted', -, h⟩ | ⟨thrown, -, rfl, rfl⟩⟩ := h
  swap
  · exact (declined_error (idle_cons.mpr ⟨rfl, idle_nil⟩)).composes
  have hgrant : Idle [⟨.beginAttempt .ambient clientIdentifier, granted⟩] :=
    idle_cons.mpr ⟨rfl, idle_nil⟩
  have hlast : ∀ {t}, Composes operation call t r →
      Composes operation call (⟨.beginAttempt .ambient clientIdentifier, granted⟩ :: t) r := by
    intro t h
    have hframed := h.frame hgrant idle_nil
    rwa [List.append_nil] at hframed
  apply hlast
  split at h
  swap
  · exact (declined_finish (by simp) h).composes
  replace h := runs_ask_bind.mp h
  obtain ⟨acquired, t, rfl, h⟩ := h
  have hgate : Idle [⟨.acquireGate, acquired⟩] := idle_cons.mpr ⟨rfl, idle_nil⟩
  split at h
  · obtain ⟨t, answer, rfl, hrun⟩ := runs_finallyDo runs_releaseGate h
    exact (composes_run hrun).frame hgate (idle_cons.mpr ⟨rfl, idle_nil⟩)
  · have hbusy : Composes operation call t r := (declined_finish (by simp) h).composes
    have hframed := hbusy.frame hgate idle_nil
    rwa [List.append_nil] at hframed

/-- Every gate of a composite that is decided before its limiter. -/
structure AmbientControlService.Passed (service : AmbientControlService)
    (operation : AuroraOperation) (session : Option SessionContext)
    (submittedCsrf confirmation : Option String) (context : SessionContext) (token : String) :
    Prop where
  session_eq : session = some context
  token_eq : submittedCsrf = some token
  csrf : csrfIsValid context token = true
  available : operation ∈ service.availableOperations
  confirmed : confirmationFailure (expectedConfirmation operation) confirmation = none

/-- A composite is declined, or it calls its children for the session and with its token. -/
theorem runs_ambient {service : AmbientControlService} {session : Option SessionContext}
    {submittedCsrf confirmation : Option String} {clientIdentifier : String}
    {r : Except Thrown AmbientControlResult}
    (h : Runs (service.execute operation session submittedCsrf clientIdentifier confirmation) t r) :
    Declined t r ∨ ∃ context token,
      service.Passed operation session submittedCsrf confirmation context token ∧
        Composes operation (service.childCall context token clientIdentifier) t r := by
  unfold AmbientControlService.execute at h
  dsimp only at h
  have hquiet : (authenticationFailure service.authenticationEnabled session submittedCsrf
      fun reason => AmbientControlService.finish operation .denied reason [] []).Makes
        ControlCall.quiet := makes_authenticationFailure fun _ => AmbientControlService.makes_finish
  obtain ⟨thrown, hraised, rfl⟩ | ⟨denied, t₁, t₂, rfl, hauthentication, h⟩ := runs_bind.mp h
  · exact .inl (declined_error (idle_of_quiet hquiet hraised))
  have hidle := idle_of_quiet hquiet hauthentication
  rcases runs_authenticationFailure hauthentication with
    ⟨rfl, hnone, -, context, token, rfl, rfl, hcsrf⟩ | ⟨thrown, hr⟩ | ⟨result, reason, t', hr, hdeny⟩
  · obtain rfl := Except.ok.inj hnone
    have hdenied : AmbientControlStatus.denied ≠ .completed := by simp
    dsimp only at h
    rw [List.nil_append]
    split at h
    case isTrue => exact .inl (declined_finish hdenied h)
    case isFalse =>
      split at h
      case isTrue => exact .inl (declined_finish hdenied h)
      case isFalse =>
        split at h
        case isTrue => exact .inl (declined_finish hdenied h)
        case isFalse havailable =>
          split at h
          case h_1 => exact .inl (declined_finish hdenied h)
          case h_2 hconfirmed =>
            exact .inr ⟨context, token, ⟨rfl, rfl, hcsrf, not_not.mp havailable, hconfirmed⟩,
              composes_serialized h⟩
  · cases hr
  · obtain rfl := Except.ok.inj hr
    obtain ⟨rfl, rfl⟩ := runs_pure.mp h
    refine .inl ⟨idle_append.mpr ⟨hidle, idle_nil⟩, fun result' hr' => ?_⟩
    obtain rfl := Except.ok.inj hr'
    obtain ⟨-, hok | ⟨thrown, hraised, -⟩⟩ := runs_finish hdeny
    · obtain rfl := Except.ok.inj hok
      exact ⟨rfl, rfl, by simp⟩
    · cases hraised

/-- The children of a composite are called for a session and with its token. -/
theorem composes_execute {service : AmbientControlService} {session : Option SessionContext}
    {submittedCsrf confirmation : Option String} {clientIdentifier : String}
    {r : Except Thrown AmbientControlResult}
    (h : Runs (service.execute operation session submittedCsrf clientIdentifier confirmation) t r) :
    ∃ context token, Composes operation (service.childCall context token clientIdentifier) t r := by
  rcases runs_ambient h with hdeclined | ⟨context, token, -, hcomposes⟩
  · exact ⟨⟨"", "", 0⟩, "", hdeclined.composes⟩
  · exact ⟨context, token, hcomposes⟩

/-- What a handler exchanges: a refusal, or the session it found and the call of its service. -/
theorem runs_postOperation {services : ControlServices} {denied : AuditEvent}
    {operation : ControlOperation} {cookie : CookieLookup} {form : SubmittedForm ControlForm}
    {call : SessionContext → ControlForm → ControlProgram ControlAnswer}
    {r : Except Thrown ControlAnswer}
    (h : Runs (services.postOperation denied operation cookie form call) t r) :
    (Idle t ∧ ((∃ thrown, r = .error thrown) ∨ r = .ok .refused)) ∨
      ∃ token session fields t₁ t₂, t = t₁ ++ t₂ ∧ form = .ok fields ∧
        Runs (services.requestSession cookie) t₁ (.ok (token, some session)) ∧
        Runs (call session fields) t₂ r := by
  have hrefused : ∀ {event reason t}, Runs (do
      emitOperation event reason operation
      return .refused) t r → Idle t ∧ ((∃ thrown, r = .error thrown) ∨ r = .ok .refused) := by
    intro event reason t h
    refine ⟨idle_of_quiet (makes_emitOperation.bind fun _ => makes_pure _) h, ?_⟩
    obtain ⟨thrown, -, rfl⟩ | ⟨_, t₁, t₂, -, -, hrest⟩ := runs_bind.mp h
    · exact .inl ⟨thrown, rfl⟩
    · exact .inr (runs_pure.mp hrest).2
  unfold ControlServices.postOperation at h
  split at h
  · exact .inl (hrefused h)
  obtain ⟨thrown, hraised, rfl⟩ | ⟨⟨token, session⟩, t₁, t₂, rfl, hsession, h⟩ := runs_bind.mp h
  · exact .inl ⟨idle_of_quiet makes_requestSession hraised, .inl ⟨thrown, rfl⟩⟩
  have hidle := idle_of_quiet makes_requestSession hsession
  cases session with
  | none =>
    obtain ⟨hrest, hr⟩ := hrefused h
    exact .inl ⟨idle_append.mpr ⟨hidle, hrest⟩, hr⟩
  | some session =>
    cases form with
    | error reason =>
      obtain ⟨hrest, hr⟩ := hrefused h
      exact .inl ⟨idle_append.mpr ⟨hidle, hrest⟩, hr⟩
    | ok fields => exact .inr ⟨token, session, fields, t₁, t₂, rfl, rfl, hsession, h⟩

theorem composes_request {services : ControlServices} {cookie : CookieLookup}
    {form : SubmittedForm ControlForm} {clientIdentifier : String} {r : Except Thrown ControlAnswer}
    (h : Runs (ControlRequest.program services (.ambient operation cookie form clientIdentifier))
      t r) :
    ∃ context token outcome,
      Composes operation (services.ambient.childCall context token clientIdentifier) t outcome ∧
        ∀ result, r = .ok (.ambient result) ↔ outcome = .ok result := by
  rcases runs_postOperation h with
    ⟨hidle, hr⟩ | ⟨token, session, fields, t₁, t₂, rfl, rfl, hsession, hcall⟩
  · refine ⟨⟨"", "", 0⟩, "", .error .exception, (declined_error hidle).composes, ?_⟩
    intro result
    rcases hr with ⟨thrown, rfl⟩ | rfl <;> exact iff_of_false (by simp) (by simp)
  have hidle := idle_of_quiet makes_requestSession hsession
  have hframe : ∀ {confirmation t₂}, Runs (services.ambient.execute operation (some session)
      fields.csrfToken clientIdentifier confirmation >>= fun result =>
        pure (ControlAnswer.ambient result)) t₂ r → ∃ context token outcome,
      Composes operation (services.ambient.childCall context token clientIdentifier) (t₁ ++ t₂)
        outcome ∧ ∀ result, r = .ok (.ambient result) ↔ outcome = .ok result := by
    intro confirmation t₂ h
    have hlast : ∀ {context token outcome t},
        Composes operation (services.ambient.childCall context token clientIdentifier) t outcome →
        Composes operation (services.ambient.childCall context token clientIdentifier) (t₁ ++ t)
          outcome := by
      intro context token outcome t h
      have hframed := h.frame hidle idle_nil
      rwa [List.append_nil] at hframed
    obtain ⟨thrown, hraised, rfl⟩ | ⟨result, t₃, t₄, rfl, hexecute, hrest⟩ := runs_bind.mp h
    · obtain ⟨context, token, hcomposes⟩ := composes_execute hraised
      exact ⟨context, token, .error thrown, hlast hcomposes,
        fun _ => iff_of_false (by simp) (by simp)⟩
    · obtain ⟨rfl, rfl⟩ := runs_pure.mp hrest
      obtain ⟨context, token, hcomposes⟩ := composes_execute hexecute
      rw [List.append_nil]
      exact ⟨context, token, .ok result, hlast hcomposes, fun result' => by simp⟩
  cases operation with
  | ambientOn => exact hframe hcall
  | ambientOff => exact hframe hcall

end Aurora.ControlPlane
