/-
  The law of the shared gate, over every interleaving of any number of threads.

  Executions do not overlap and those of one composite stay together, by the section that every
  request keeps to; the gate is free again when its requests are over.  What one composite does is
  read off its own calls, which are a run of its program whatever the other threads do.
-/
import Aurora.ControlPlane.AmbientOrder

namespace Aurora.ControlPlane

open Program

variable {t : List (Exchange ControlInterface)}

/-! ## Executions of a composite -/

/-- A child is the request of its step to a device service, with the confirmation it expects. -/
theorem childCall_cases (service : AmbientControlService) (context : SessionContext)
    (token clientIdentifier : String) (step : AmbientControlStep) :
    (∃ operation, step.command = .hyperhdr operation ∧
        service.childCall context token clientIdentifier step =
          service.hyperhdr.execute operation context token clientIdentifier
            (HyperHDRControlService.expectedConfirmation operation)) ∨
      ∃ operation, step.command = .wled operation .noOperationInput ∧
        service.childCall context token clientIdentifier step =
          service.wled.execute operation .noOperationInput context token clientIdentifier
            (service.wled.gates operation .noOperationInput).expectedConfirmation := by
  cases step with
  | videoGrabberEnable => exact .inl ⟨_, rfl, rfl⟩
  | ledOutputEnable => exact .inl ⟨_, rfl, rfl⟩
  | videoGrabberDisable => exact .inl ⟨_, rfl, rfl⟩
  | ledOutputDisable => exact .inl ⟨_, rfl, rfl⟩
  | wledPowerOn => exact .inr ⟨_, rfl, rfl⟩
  | wledPowerOff => exact .inr ⟨_, rfl, rfl⟩

/-- A child executes the command of its step, or nothing. -/
theorem ChildRun.executes {service : AmbientControlService} {context : SessionContext}
    {token clientIdentifier : String}
    (child : ChildRun (service.childCall context token clientIdentifier)) :
    Gates.Refused child.calls child.result ∨
      ExecutesOnce clientIdentifier child.step.command child.calls child.result := by
  have hruns := child.runs
  rcases childCall_cases service context token clientIdentifier child.step with
    ⟨operation, hcommand, hcall⟩ | ⟨operation, hcommand, hcall⟩
  · rw [hcall] at hruns
    rw [hcommand]
    exact (runs_hyperhdr hruns).imp id And.right
  · rw [hcall] at hruns
    rw [hcommand]
    exact (runs_wled hruns).imp id And.right

/-- A verified child ended a verified execution of its step. -/
theorem ChildRun.verifies {service : AmbientControlService} {context : SessionContext}
    {token clientIdentifier : String}
    {child : ChildRun (service.childCall context token clientIdentifier)}
    (h : child.verified = true) : ∃ y ∈ child.calls, verifies y = some child.step.command := by
  obtain ⟨result, hresult, hstatus⟩ : ∃ result, child.result = .ok result ∧
      result.status = .verified := by
    unfold ChildRun.verified at h
    cases hresult : child.result with
    | ok result =>
      rw [hresult] at h
      exact ⟨result, rfl, of_decide_eq_true h⟩
    | error thrown =>
      rw [hresult] at h
      cases h
  rcases child.executes with ⟨-, hnot⟩ |
    ⟨before, start, finish, after, hcalls, -, -, -, -, -, hfinish⟩
  · exact absurd hstatus (hnot result hresult)
  · exact ⟨finish, by rw [hcalls]; simp, hfinish result hresult hstatus⟩

theorem finishes_of_starts {c : ControlCall} {command : Command} (h : c.starts = some command) :
    c.finishes = none := by
  cases c <;> first | rfl | cases h

/-- What is not in the first part comes after it. -/
theorem cut_after {E : Type} {first rest a b : List E} {x : E} (hx : x ∉ first)
    (h : first ++ rest = a ++ x :: b) : ∃ a', a = first ++ a' ∧ rest = a' ++ x :: b := by
  rcases List.append_eq_append_iff.mp h with ⟨a', rfl, hrest⟩ | ⟨c, rfl, hcut⟩
  · exact ⟨a', rfl, hrest⟩
  · cases c with
    | nil => exact ⟨[], by simp, by simpa using hcut.symm⟩
    | cons y c =>
      obtain ⟨rfl, -⟩ := List.cons.inj hcut
      exact absurd (by simp) hx

/-- What is not in the last part comes before it. -/
theorem cut_before {E : Type} {rest last a b : List E} {x : E} (hx : x ∉ last)
    (h : rest ++ last = a ++ x :: b) : ∃ b', rest = a ++ x :: b' := by
  rcases List.append_eq_append_iff.mp h with ⟨a', rfl, hrest⟩ | ⟨c, rfl, hcut⟩
  · exact absurd (by rw [hrest]; simp) hx
  · cases c with
    | nil =>
      refine absurd ?_ hx
      rw [show last = x :: b from hcut.symm]
      exact List.mem_cons_self
    | cons y c =>
      obtain ⟨rfl, -⟩ := List.cons.inj hcut
      exact ⟨c, rfl⟩

theorem Idle.not_mem {x : Exchange ControlInterface} (h : Idle t) (hx : x.1.executes = true) :
    x ∉ t := by
  intro hmem
  rw [h x hmem] at hx
  cases hx

/-- An exchange of the children belongs to one of them, and comes after all before that one. -/
theorem cut_childCalls {call : AmbientControlStep → ControlProgram ControlResult}
    {children : List (ChildRun call)} {a b : List (Exchange ControlInterface)}
    {x : Exchange ControlInterface} (h : childCalls children = a ++ x :: b) :
    ∃ (before : List (ChildRun call)) (child : ChildRun call) (after : List (ChildRun call))
      (first last : List (Exchange ControlInterface)), children = before ++ child :: after ∧
      child.calls = first ++ x :: last ∧ a = childCalls before ++ first := by
  induction children generalizing a with
  | nil => exact absurd h.symm (by simp [childCalls])
  | cons child children ih =>
    have hcons : child.calls ++ childCalls children = a ++ x :: b := h
    have hlater : ∀ {a'}, childCalls children = a' ++ x :: b →
        ∃ (before : List (ChildRun call)) (child' : ChildRun call) (after : List (ChildRun call))
          (first last : List (Exchange ControlInterface)),
          child :: children = before ++ child' :: after ∧ child'.calls = first ++ x :: last ∧
          child.calls ++ a' = childCalls before ++ first := by
      intro a' hrest
      obtain ⟨before, child', after, first, last, rfl, hcalls, rfl⟩ := ih hrest
      refine ⟨child :: before, child', after, first, last, rfl, hcalls, ?_⟩
      simp [childCalls]
    rcases List.append_eq_append_iff.mp hcons with ⟨a', rfl, hrest⟩ | ⟨c, hcalls, hcut⟩
    · exact hlater hrest
    · cases c with
      | nil =>
        obtain ⟨before, child', after, first, last, hchildren, hchild, ha⟩ := @hlater [] hcut.symm
        rw [hcalls, List.append_nil, List.append_nil] at ha
        exact ⟨before, child', after, first, last, hchildren, hchild, ha⟩
      | cons y c =>
        obtain ⟨rfl, -⟩ := List.cons.inj hcut
        exact ⟨[], child, children, a, c, rfl, hcalls, rfl⟩

/-- The start of the one execution of a run: what it executes, after the limiter granted it. -/
theorem ExecutesOnce.start_cut {clientIdentifier : String} {command command' : Command}
    {r : Except Thrown ControlResult} {a b : List (Exchange ControlInterface)}
    {x : Exchange ControlInterface} (h : ExecutesOnce clientIdentifier command t r)
    (ht : t = a ++ x :: b) (hstarts : x.1.starts = some command') :
    command' = command ∧
      ⟨.beginAttempt (.device command.device) clientIdentifier, .ok true⟩ ∈ a := by
  obtain ⟨before, start, finish, after, rfl, hbefore, hafter, hgranted, hstart, hfinish, -⟩ := h
  have hx : x.1.executes = true := by simp [ControlCall.executes, hstarts]
  obtain ⟨a, rfl, hrest⟩ := cut_after (hbefore.not_mem hx) ht
  cases a with
  | nil =>
    obtain ⟨rfl, -⟩ := List.cons.inj hrest
    exact ⟨Option.some.inj (hstarts.symm.trans hstart), List.mem_append_left _ hgranted⟩
  | cons y a =>
    obtain ⟨-, hrest⟩ := List.cons.inj hrest
    have hmem : x ∈ finish :: after := hrest ▸ by simp
    rcases List.mem_cons.mp hmem with rfl | hmem
    · rw [finishes_of_starts hstarts] at hfinish
      cases hfinish
    · exact absurd hmem (hafter.not_mem hx)

/-- An execution is of a step of the operation, after what the step requires was verified. -/
def StepsInOrder (operation : AuroraOperation) (t : List (Exchange ControlInterface)) : Prop :=
  ∀ a x b, t = a ++ x :: b → ∀ command, x.1.starts = some command →
    ∃ step ∈ operation.steps, step.command = command ∧
      ∀ required ∈ step.requires, ∃ y ∈ a, verifies y = some required.command

/-- The executions of a composite are in the order of its steps. -/
theorem Composes.inOrder {operation : AuroraOperation} {service : AmbientControlService}
    {context : SessionContext} {token clientIdentifier : String}
    {r : Except Thrown AmbientControlResult}
    (h : Composes operation (service.childCall context token clientIdentifier) t r) :
    StepsInOrder operation t := by
  obtain ⟨children, gates, ending, rfl, hcomposite⟩ := h
  intro a x b hcut command hstarts
  have hx : x.1.executes = true := by simp [ControlCall.executes, hstarts]
  obtain ⟨b', hstart⟩ := cut_before (hcomposite.ending_idle.not_mem hx) hcut
  obtain ⟨a, rfl, hchildren⟩ := cut_after (hcomposite.gates_idle.not_mem hx) hstart
  obtain ⟨before, child, after, first, last, rfl, hcalls, rfl⟩ := cut_childCalls hchildren
  refine ⟨child.step, ?_, ?_, fun required hrequired => ?_⟩
  · exact hcomposite.ordered.subset (by simp)
  · rcases child.executes with ⟨hidle, -⟩ | hexecutes
    · exact absurd (by rw [hcalls]; simp) (hidle.not_mem hx)
    · exact (hexecutes.start_cut hcalls hstarts).1.symm
  · obtain ⟨earlier, hearlier, rfl, hverified⟩ :=
      hcomposite.required before child after rfl required hrequired
    obtain ⟨y, hy, hverifies⟩ := earlier.verifies hverified
    have hchild : y ∈ childCalls before := List.mem_flatMap.mpr ⟨earlier, hearlier, hy⟩
    exact ⟨y, List.mem_append_right _ (List.mem_append_left _ hchild), hverifies⟩

/-! ## Reports -/

/-- What a result says: how far the steps came, and completion for all of them alone. -/
structure Truthful (operation : AuroraOperation) (result : AmbientControlResult) : Prop where
  subset : result.verifiedSteps ⊆ result.attemptedSteps
  attempted : result.attemptedSteps <+: operation.steps
  completed : result.status = .completed ↔ result.verifiedSteps = operation.steps

/-- A composite reports what its children did. -/
theorem Composes.truthful {operation : AuroraOperation}
    {call : AmbientControlStep → ControlProgram ControlResult} {result : AmbientControlResult}
    (h : Composes operation call t (.ok result)) : Truthful operation result := by
  obtain ⟨children, gates, ending, -, hcomposite⟩ := h
  obtain ⟨hattempted, hverified, hstatus⟩ := hcomposite.reported result rfl
  have hsublist : List.Sublist ((verifiedChildren children).map (·.step))
      (children.map (·.step)) :=
    List.filter_sublist.map _
  refine ⟨?_, hattempted ▸ hcomposite.ordered, ?_⟩
  · rw [hattempted, hverified]
    exact hsublist.subset
  rw [hstatus, hverified]
  constructor
  · rintro ⟨hsteps, hall⟩
    rw [← hsteps, verifiedChildren, List.filter_eq_self.mpr hall]
  · intro hsteps
    -- as many were verified as there are steps, so all that ran were
    have hle := hcomposite.ordered.length_le
    rw [← hsteps] at hle
    have hsame := hsublist.eq_of_length_le hle
    refine ⟨hsame.symm.trans hsteps, fun child hchild => ?_⟩
    have hlength : (children.filter (·.verified)).length = children.length := by
      have hmap := congrArg List.length hsame
      simpa [verifiedChildren] using hmap
    exact List.length_filter_eq_length_iff.mp hlength child hchild

/-! ## The law -/

variable {Tid σ : Type}

/-- A move of a thread of the control plane. -/
abbrev ControlMove (Tid : Type) := Move Tid ControlRequest ControlInterface Thrown ControlAnswer

/-- What no run of the services does otherwise. -/
structure SharedGate [DecidableEq Tid] (services : ControlServices) (moves : List (ControlMove Tid))
    (p : Pool Tid ControlRequest ControlInterface Thrown ControlAnswer (ControlState Tid σ)) :
    Prop where
  /-- While an execution goes on, nothing else executes. -/
  exclusive : ∀ before mid after t r x, moves = before ++ .calls t r x :: (mid ++ after) →
    x.1.starts.isSome = true → (∀ r y, .calls t r y ∈ mid → y.1.finishes = none) →
      ∀ u r' z, .calls u r' z ∈ mid → z.1.executes = false
  /-- Between two executions of one request, no other request executes. -/
  contiguous : ∀ before mid after t u r r' r'' x y z,
    moves = before ++ .calls t r x :: (mid ++ .calls t r' y :: after) → x.1.executes = true →
      y.1.executes = true → (∀ r result, .ends t r result ∉ mid) → .calls u r'' z ∈ mid →
        z.1.executes = true → u = t
  /-- A thread whose request is over does not hold the gate, however it ended. -/
  released : ∀ t, p.task t = none → ∀ n, p.shared.gate ≠ some (t, n)
  free : (∀ t, p.task t = none) → p.shared.gate = none
  /-- A composite executes its steps in order, after what they require was verified. -/
  ordered : ∀ before mid t operation cookie form client,
    moves = before ++ .begins t (.ambient operation cookie form client) :: mid →
      (∀ r result, .ends t r result ∉ mid) → StepsInOrder operation (callsOf t mid)
  /-- A composite that is over attempted its children in order and reports them as they ended. -/
  reported : ∀ before mid after t operation cookie form client r outcome,
    moves = before ++ .begins t (.ambient operation cookie form client) ::
      (mid ++ .ends t r outcome :: after) → (∀ r result, .ends t r result ∉ mid) →
        ∃ context token outcome',
          Composes operation (services.ambient.childCall context token client) (callsOf t mid)
            outcome' ∧
          (∀ result, outcome = .ok (.ambient result) ↔ outcome' = .ok result) ∧
          ∀ result, outcome = .ok (.ambient result) → Truthful operation result

/-- The start of an execution leads into it. -/
theorem executing_of_starts {place place' : Place} {x : Exchange ControlInterface}
    (h : place.next x = some place') (hstarts : x.1.starts.isSome = true) :
    ∃ n, place' = .executing n := by
  cases place with
  | idle ph =>
    simp only [Place.next, hstarts, if_true] at h
    cases ph <;> cases h
    exact ⟨_, rfl⟩
  | executing n =>
    obtain ⟨command, hcommand⟩ := Option.isSome_iff_exists.mp hstarts
    simp only [Place.next, finishes_of_starts hcommand] at h
    cases h

/-- A request in an execution makes no move but to end it. -/
theorem quiet_of_executing [DecidableEq Tid] {services : ControlServices}
    {env : ControlState Tid σ → Tid → Exchange ControlInterface → ControlState Tid σ → Prop}
    {s s' : Watched Tid ControlRequest (ControlState Tid σ) Place} {moves : List (ControlMove Tid)}
    {t : Tid} {r : ControlRequest} {n : Nat}
    (h : Trail (Watch.Step (placeWatch services) env) s moves s')
    (hseen : s.seen t = some (r, .executing n))
    (hgoing : ∀ r y, .calls t r y ∈ moves → y.1.finishes = none) :
    ∀ move ∈ moves, move.thread ≠ t := by
  induction h with
  | nil => exact fun move hmove => absurd hmove List.not_mem_nil
  | @cons s m s' e es hstep _ ih =>
    have hother : e.thread ≠ t := by
      rintro rfl
      cases hstep with
      | begins hidle =>
        rw [Move.thread, hidle] at hseen
        cases hseen
      | @calls u r' place place' x shared hu hm he =>
        rw [Move.thread, hu] at hseen
        obtain ⟨rfl, rfl⟩ := Prod.mk.inj (Option.some.inj hseen)
        replace hm : (if x.1.finishes.isSome = true then some (Place.idle (.holding n)) else none) =
            some place' := hm
        rw [hgoing _ x List.mem_cons_self] at hm
        cases hm
      | @ends u r' place result hu hm =>
        rw [Move.thread, hu] at hseen
        obtain ⟨rfl, rfl⟩ := Prod.mk.inj (Option.some.inj hseen)
        rcases hm with hm | ⟨-, hm⟩ <;> cases hm
    intro move hmove
    rcases List.mem_cons.mp hmove with rfl | hmove
    · exact hother
    · exact ih ((hstep.seen_other hother).trans hseen)
        (fun r y hy => hgoing r y (List.mem_cons_of_mem _ hy)) move hmove

/-- Mutual exclusion, contiguity, release and truthful reports, over every interleaving. -/
theorem shared_gate [DecidableEq Tid] (services : ControlServices)
    (outside : σ → Tid → Exchange ControlInterface → σ → Prop) {start : σ}
    {moves : List (ControlMove Tid)}
    {p : Pool Tid ControlRequest ControlInterface Thrown ControlAnswer (ControlState Tid σ)}
    (h : Trail (Pool.Step (ControlRequest.program services) (ControlState.Step outside))
      (Pool.idle (.fresh start)) moves p) : SharedGate services moves p where
  exclusive := by
    rintro before mid after t r x rfl hstarts hgoing u r' z hz
    -- starting a device operation happens inside the gate
    have hx : gateEffect x = .inside :=
      gateEffect_inside.mpr (by simp [ControlCall.executes, hstarts])
    rw [← List.cons_append, ← List.append_assoc] at h
    obtain ⟨p', h, -⟩ := trail_append.mp h
    -- the place of the thread says which generation it holds
    obtain ⟨s, hs, -⟩ := (placeWatch services).follows h
    obtain ⟨s₁, -, hs⟩ := trail_append.mp hs
    obtain ⟨s₂, hcall, hmid⟩ := trail_cons.mp hs
    have hquiet : ∀ move ∈ mid, move.thread ≠ t := by
      cases hcall with
      | @calls _ _ place place' _ shared hseen hm he =>
        obtain ⟨n, rfl⟩ : ∃ n, place' = .executing n := executing_of_starts hm hstarts
        exact quiet_of_executing hmid (Function.update_self ..) hgoing
    have hnot := Aurora.exclusive (phaseOf_place services).inSections step_gateEffect rfl h hx hquiet
      hz
    rwa [Ne, gateEffect_inside, Bool.not_eq_true] at hnot
  contiguous := by
    rintro before mid after t u r r' r'' x y z rfl hx hy hmid hz hexecutes
    exact Aurora.contiguous (phaseOf_place services).inSections step_gateEffect rfl h
      (gateEffect_inside.mpr hx) (gateEffect_inside.mpr hy) hmid hz (gateEffect_inside.mpr hexecutes)
  released := fun t hidle n =>
    Aurora.released (phaseOf_place services).inSections step_gateEffect rfl h hidle n
  free := by
    intro hidle
    cases hgate : p.shared.gate with
    | none => rfl
    | some owner =>
      exact absurd hgate (Aurora.released (phaseOf_place services).inSections step_gateEffect rfl h
        (hidle owner.1) owner.2)
  ordered := by
    rintro before mid t operation cookie form client rfl hmid
    -- an operation that is still running has begun as a composite does
    have hbegins := Pool.request_begins h hmid
    obtain ⟨rest, r, hruns⟩ := hbegins.extends
    obtain ⟨context, token, outcome, hcomposes, -⟩ := composes_request hruns
    intro a x b hcut
    exact hcomposes.inOrder a x (b ++ rest) (by rw [hcut]; simp)
  reported := by
    rintro before mid after t operation cookie form client r outcome rfl hmid
    obtain ⟨context, token, outcome', hcomposes, hiff⟩ :=
      composes_request (Pool.request_runs h hmid)
    refine ⟨context, token, outcome', hcomposes, hiff, fun result hresult => ?_⟩
    obtain rfl := (hiff result).mp hresult
    exact hcomposes.truthful

/-- Services with every control enabled. -/
def openServices : ControlServices where
  control := ⟨true, "admin", fun _ => .ok true⟩
  ambient := ⟨true, ambientOperationRegistry, true,
    ⟨true, true, some "wled", true, operationRegistry, 255, true⟩,
    ⟨true, true, some "hyperhdr", some 8090, true, hyperhdrOperationRegistry, true⟩⟩

/-- A token, -/
def sampleToken : String := "aaaaaaaaaaaaaaaaaaaaaaaaaaaaaaaa"

/-- and its session. -/
def sampleSession : SessionContext := ⟨"admin", sampleToken, 60⟩

theorem sampleSession_valid : csrfIsValid sampleSession sampleToken = true := by decide +kernel

/-- Switch the lights on. -/
def switchOn : ControlRequest :=
  .wled .powerOn (.token (some sampleToken)) (.ok ⟨some sampleToken, none, none⟩) "client"

/-- The calls of a request that switches the lights on. -/
def switchOnCalls : List (Exchange ControlInterface) :=
  [⟨.resolveSession sampleToken, ((0 : ℚ), SessionLookup.valid sampleSession)⟩,
    ⟨.beginAttempt (.device .wled) "client", (Except.ok true : Except Thrown Bool)⟩,
    ⟨.acquireGate, true⟩, ⟨.acquireLock .wled, true⟩, ⟨.startWled .powerOn .noOperationInput, ()⟩,
    ⟨.finishWled .powerOn .noOperationInput,
      (Except.ok ⟨true, .verified⟩ : Except Thrown AdapterResult)⟩,
    ⟨.releaseLock .wled, ()⟩, ⟨.releaseGate, ()⟩,
    ⟨.emitOperation .wledOperationSucceeded .verified (.wled .powerOn),
      (Except.ok () : Except Thrown Unit)⟩,
    ⟨.invalidateCache .wled, (Except.ok () : Except Thrown Unit)⟩]

/-- The sample session passes the check of its token. -/
theorem authenticationFailure_sample {α : Type} (deny : AuditReason → ControlProgram α) :
    authenticationFailure true (some sampleSession) (some sampleToken) deny = pure none := by
  unfold authenticationFailure
  exact if_pos sampleSession_valid

/-- A request that turns the light on, granted by everything. -/
theorem switchOn_runs : Runs (switchOn.program openServices) switchOnCalls
    (.ok (.device ⟨.verified, .verified⟩)) := by
  refine .call _ ?_
  have hdevice : Runs (openServices.wled.powerOn (some sampleSession) (some sampleToken) "client")
      switchOnCalls.tail (.ok ⟨.verified, .verified⟩) := by
    show Runs (authenticationFailure true (some sampleSession) (some sampleToken) _ >>= _) _ _
    rw [authenticationFailure_sample]
    exact .call _ (.call _ (.call _ (.call _ (.call _
      (.call _ (.call _ (.call _ (.call _ (.done _)))))))))
  exact hdevice.bind (.done _)

/-! ### A composite, and a request that finds the gate taken -/

/-- The calls of a device service whose execution is verified. -/
def verifiedCalls (device : Device) (operation : ControlOperation)
    (execution : List (Exchange ControlInterface)) : List (Exchange ControlInterface) :=
  [⟨.beginAttempt (.device device) "client", (Except.ok true : Except Thrown Bool)⟩,
    ⟨.acquireGate, true⟩, ⟨.acquireLock device, true⟩] ++ execution ++
  [⟨.releaseLock device, ()⟩, ⟨.releaseGate, ()⟩,
    ⟨.emitOperation device.succeededEvent .verified operation,
      (Except.ok () : Except Thrown Unit)⟩,
    ⟨.invalidateCache device, (Except.ok () : Except Thrown Unit)⟩]

/-- The calls of a verified operation on the lights, -/
def wledCalls (operation : WLEDOperation) : List (Exchange ControlInterface) :=
  verifiedCalls .wled (.wled operation) [⟨.startWled operation .noOperationInput, ()⟩,
    ⟨.finishWled operation .noOperationInput,
      (Except.ok ⟨true, .verified⟩ : Except Thrown AdapterResult)⟩]

/-- and of one on HyperHDR. -/
def hyperhdrCalls (operation : HyperHDROperation) : List (Exchange ControlInterface) :=
  verifiedCalls .hyperhdr (.hyperhdr operation) [⟨.startHyperhdr operation, ()⟩,
    ⟨.finishHyperhdr operation,
      (Except.ok ⟨true, true, .verified⟩ : Except Thrown HyperHDRAdapterResult)⟩]

/-- The calls of a child that is verified. -/
def stepCalls : AmbientControlStep → List (Exchange ControlInterface)
  | .videoGrabberEnable => hyperhdrCalls .videoGrabberEnable
  | .wledPowerOn => wledCalls .powerOn
  | .ledOutputEnable => hyperhdrCalls .ledOutputEnable
  | .ledOutputDisable => hyperhdrCalls .ledOutputDisable
  | .videoGrabberDisable => hyperhdrCalls .videoGrabberDisable
  | .wledPowerOff => wledCalls .powerOff

/-- A step of the composite, granted by everything. -/
theorem childCall_runs (step : AmbientControlStep) :
    Runs (openServices.ambient.childCall sampleSession sampleToken "client" step) (stepCalls step)
      (.ok ⟨.verified, .verified⟩) := by
  cases step with
  | videoGrabberEnable | wledPowerOn | ledOutputEnable | ledOutputDisable | videoGrabberDisable
    | wledPowerOff =>
    show Runs (authenticationFailure true (some sampleSession) (some sampleToken) _ >>= _) _ _
    rw [authenticationFailure_sample]
    exact .call _ (.call _ (.call _ (.call _ (.call _ (.call _ (.call _ (.call _ (.call _
      (.done _)))))))))

/-- A child that returned is reported as it returned. -/
theorem AmbientControlService.safeChildCall_runs {call : ControlProgram ControlResult}
    {t : List (Exchange ControlInterface)} {result : ControlResult} (h : Runs call t (.ok result)) :
    Runs (AmbientControlService.safeChildCall call) t (.ok (some result)) := by
  have hsome : Runs (some <$> call) (t ++ []) (.ok (some result)) := h.bind (.done _)
  rw [List.append_nil] at hsome
  exact runs_exceptException.mpr ⟨_, hsome, rfl⟩

/-- Steps whose children are all verified complete the operation. -/
theorem AmbientControlService.runSteps_runs {operation : AuroraOperation}
    {call : AmbientControlStep → ControlProgram ControlResult}
    {calls : AmbientControlStep → List (Exchange ControlInterface)} {reason : AuditReason}
    (hcall : ∀ step, Runs (call step) (calls step) (.ok ⟨.verified, reason⟩))
    (steps : List AmbientControlStep) : ∀ attempted verified,
      Runs (AmbientControlService.runSteps operation call attempted verified steps)
        (steps.flatMap calls ++ [⟨.emitOperation .auroraOperationSucceeded .verified
          (.aurora operation), (Except.ok () : Except Thrown Unit)⟩])
        (.ok ⟨.completed, attempted ++ steps, verified ++ steps⟩) := by
  induction steps with
  | nil =>
    intro attempted verified
    rw [List.append_nil, List.append_nil]
    exact .call _ (.done _)
  | cons step steps ih =>
    intro attempted verified
    have hrest := ih (attempted ++ [step]) (verified ++ [step])
    rw [List.append_assoc, List.append_assoc] at hrest
    rw [List.flatMap_cons, List.append_assoc]
    exact (AmbientControlService.safeChildCall_runs (hcall step)).bind hrest

/-- Switch everything on. -/
def ambientOn : ControlRequest :=
  .ambient .ambientOn (.token (some sampleToken)) (.ok ⟨some sampleToken, none, none⟩) "client"

/-- The calls of a request that switches everything on: up to the execution of the lights, -/
def ambientOnStart : List (Exchange ControlInterface) :=
  ⟨.resolveSession sampleToken, ((0 : ℚ), SessionLookup.valid sampleSession)⟩ ::
    ⟨.beginAttempt .ambient "client", (Except.ok true : Except Thrown Bool)⟩ ::
    ⟨.acquireGate, true⟩ :: (hyperhdrCalls .videoGrabberEnable ++ (wledCalls .powerOn).take 4)

/-- and from its end on. -/
def ambientOnEnd : List (Exchange ControlInterface) :=
  (wledCalls .powerOn).drop 4 ++ (hyperhdrCalls .ledOutputEnable ++
    [⟨.emitOperation .auroraOperationSucceeded .verified (.aurora .ambientOn),
        (Except.ok () : Except Thrown Unit)⟩, ⟨.releaseGate, ()⟩])

/-- Every step was verified. -/
def ambientOnResult : AmbientControlResult :=
  ⟨.completed, AuroraOperation.ambientOn.steps, AuroraOperation.ambientOn.steps⟩

theorem ambientOn_runs : Runs (ambientOn.program openServices) (ambientOnStart ++ ambientOnEnd)
    (.ok (.ambient ambientOnResult)) := by
  have hsteps := @AmbientControlService.runSteps_runs .ambientOn _ stepCalls .verified childCall_runs
    AuroraOperation.ambientOn.steps [] []
  have hgate : Runs (finallyDo (AmbientControlService.run .ambientOn
      (openServices.ambient.childCall sampleSession sampleToken "client")) releaseGate) _
      (.ok ambientOnResult) :=
    (runs_catching.mpr ⟨_, rfl, hsteps⟩).bind (.call (() : Unit) (.done _))
  have hambient : Runs (openServices.ambient.ambientOn (some sampleSession) (some sampleToken)
      "client") (ambientOnStart ++ ambientOnEnd).tail (.ok ambientOnResult) := by
    show Runs (authenticationFailure true (some sampleSession) (some sampleToken) _ >>= _) _ _
    rw [authenticationFailure_sample]
    refine .call _ (.call _ ?_)
    exact hgate
  exact .call _ (hambient.bind (.done _))

/-- The calls of a request that finds the gate taken. -/
def busyCalls : List (Exchange ControlInterface) :=
  [⟨.resolveSession sampleToken, ((0 : ℚ), SessionLookup.valid sampleSession)⟩,
    ⟨.beginAttempt (.device .wled) "client", (Except.ok true : Except Thrown Bool)⟩,
    ⟨.acquireGate, false⟩,
    ⟨.emitOperation .wledOperationBusy .operationInProgress (.wled .powerOn),
      (Except.ok () : Except Thrown Unit)⟩]

theorem switchOn_busy : Runs (switchOn.program openServices) busyCalls
    (.ok (.device ⟨.busy, .operationInProgress⟩)) := by
  refine .call _ ?_
  show Runs (openServices.wled.powerOn (some sampleSession) (some sampleToken) "client" >>= _) _ _
  have hbusy : Runs (openServices.wled.powerOn (some sampleSession) (some sampleToken) "client")
      (busyCalls.drop 1) (.ok ⟨.busy, .operationInProgress⟩) := by
    show Runs (authenticationFailure true (some sampleSession) (some sampleToken) _ >>= _) _ _
    rw [authenticationFailure_sample]
    exact .call _ (.call _ (.call _ (.done _)))
  exact hbusy.bind (.done _)

/-- The states while the lights are executed, -/
def switching : ControlState Nat Unit :=
  ⟨some (0, 1), Function.update (Function.update (Function.update (fun _ => false) .hyperhdr true)
    .hyperhdr false) .wled true, ()⟩

/-- after everything was switched on, -/
def composed : ControlState Nat Unit :=
  ⟨none, Function.update (Function.update (Function.update switching.locked .wled false)
    .hyperhdr true) .hyperhdr false, ()⟩

/-- and after the lights were switched on once more. -/
def switchedOn : ControlState Nat Unit :=
  ⟨none, Function.update (Function.update composed.locked .wled true) .wled false, ()⟩

/-- One thread switches everything on, and another one the lights: in the middle of the first it finds
the gate taken, and afterwards it executes. -/
theorem shared_gate_contended : SharedGate openServices
    ((.begins 0 ambientOn :: (ambientOnStart.map (.calls 0 ambientOn ·) ++
        ((.begins 1 switchOn :: (busyCalls.map (.calls 1 switchOn ·) ++
          [.ends 1 switchOn (.ok (.device ⟨.busy, .operationInProgress⟩))])) ++
        (ambientOnEnd.map (.calls 0 ambientOn ·) ++
          [.ends 0 ambientOn (.ok (.ambient ambientOnResult))])))) ++
      (.begins 1 switchOn :: (switchOnCalls.map (.calls 1 switchOn ·) ++
        [.ends 1 switchOn (.ok (.device ⟨.verified, .verified⟩))])) : List (ControlMove Nat))
    (⟨switchedOn, fun _ => none⟩ :
      Pool Nat ControlRequest ControlInterface Thrown ControlAnswer (ControlState Nat Unit)) := by
  have hstart : Follows (fun s x s' => ControlState.Step (fun _ _ _ s' => s' = ()) s (0 : Nat) x s')
      (.fresh ()) ambientOnStart switching :=
    .cons (.other rfl rfl) (.cons (.other rfl rfl) (.cons (.acquireGate rfl)
      (.cons (.other rfl rfl) (.cons (.acquireAgain rfl) (.cons (.acquireLock rfl)
        (.cons (.other rfl rfl) (.cons (.other rfl rfl) (.cons (.releaseLock rfl)
          (.cons (.releaseOnce rfl) (.cons (.other rfl rfl) (.cons (.other rfl rfl)
            (.cons (.other rfl rfl) (.cons (.acquireAgain rfl) (.cons (.acquireLock rfl)
              (.cons (.other rfl rfl) (.nil _))))))))))))))))
  have hbusy : Follows (fun s x s' => ControlState.Step (fun _ _ _ s' => s' = ()) s (1 : Nat) x s')
      switching busyCalls switching :=
    .cons (.other rfl rfl) (.cons (.other rfl rfl) (.cons (.contended rfl (by decide))
      (.cons (.other rfl rfl) (.nil _))))
  have hend : Follows (fun s x s' => ControlState.Step (fun _ _ _ s' => s' = ()) s (0 : Nat) x s')
      switching ambientOnEnd composed :=
    .cons (.other rfl rfl) (.cons (.releaseLock rfl) (.cons (.releaseOnce rfl)
      (.cons (.other rfl rfl) (.cons (.other rfl rfl) (.cons (.other rfl rfl)
        (.cons (.acquireAgain rfl) (.cons (.acquireLock rfl) (.cons (.other rfl rfl)
          (.cons (.other rfl rfl) (.cons (.releaseLock rfl) (.cons (.releaseOnce rfl)
            (.cons (.other rfl rfl) (.cons (.other rfl rfl) (.cons (.other rfl rfl)
              (.cons (.releaseGate rfl) (.nil _))))))))))))))))
  have hafter : Follows (fun s x s' => ControlState.Step (fun _ _ _ s' => s' = ()) s (1 : Nat) x s')
      composed switchOnCalls switchedOn :=
    .cons (.other rfl rfl) (.cons (.other rfl rfl) (.cons (.acquireGate rfl)
      (.cons (.acquireLock rfl) (.cons (.other rfl rfl) (.cons (.other rfl rfl)
        (.cons (.releaseLock rfl) (.cons (.releaseGate rfl) (.cons (.other rfl rfl)
          (.cons (.other rfl rfl) (.nil _))))))))))
  exact shared_gate openServices (fun _ _ _ s' => s' = ())
    (trail_append.mpr ⟨_, Pool.trail_around ambientOn_runs hstart
        (fun _ => Pool.trail_alone switchOn_busy hbusy rfl) hend rfl,
      Pool.trail_alone switchOn_runs hafter rfl⟩)

end Aurora.ControlPlane
