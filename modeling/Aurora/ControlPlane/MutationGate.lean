/-
  The mutation gate under many threads.

  The gate and the operation locks are the state that the services share here; all else that answers
  a call is left to a relation `outside`, so what is shown holds whatever limiters, sessions, audits,
  caches and devices do.  Every request keeps to one section of the gate (`program_sections`): a
  child of a composite takes the gate again and drops it again.  From that the library gives mutual
  exclusion, and that the executions of one composite stay together.
-/
import Aurora.ControlPlane.ServiceCalls

namespace Aurora.ControlPlane

open Program

/-! ## The shared state -/

/-- The gate, the locks, and whatever else there is. -/
structure ControlState (Tid σ : Type) where
  gate : GateOwner Tid
  locked : Device → Bool
  outside : σ

/-- The calls that the gate and the operation locks answer. -/
def ControlCall.serial : ControlCall → Bool
  | acquireGate => true
  | releaseGate => true
  | acquireLock _ => true
  | releaseLock _ => true
  | _ => false

namespace ControlState

variable {Tid σ : Type}

/-- Nothing is held. -/
def fresh (outside : σ) : ControlState Tid σ := ⟨none, fun _ => false, outside⟩

/-- One call of a thread, with its answer. -/
inductive Step (outside : σ → Tid → Exchange ControlInterface → σ → Prop) :
    ControlState Tid σ → Tid → Exchange ControlInterface → ControlState Tid σ → Prop
  | acquireGate {s : ControlState Tid σ} {t : Tid} (h : s.gate = none) :
    Step outside s t ⟨.acquireGate, true⟩ { s with gate := some (t, 0) }
  | acquireAgain {s : ControlState Tid σ} {t : Tid} {n : Nat} (h : s.gate = some (t, n)) :
    Step outside s t ⟨.acquireGate, true⟩ { s with gate := some (t, n + 1) }
  | contended {s : ControlState Tid σ} {t u : Tid} {n : Nat} (h : s.gate = some (u, n))
      (hu : u ≠ t) : Step outside s t ⟨.acquireGate, false⟩ s
  | releaseGate {s : ControlState Tid σ} {t : Tid} (h : s.gate = some (t, 0)) :
    Step outside s t ⟨.releaseGate, ()⟩ { s with gate := none }
  | releaseOnce {s : ControlState Tid σ} {t : Tid} {n : Nat} (h : s.gate = some (t, n + 1)) :
    Step outside s t ⟨.releaseGate, ()⟩ { s with gate := some (t, n) }
  | acquireLock {s : ControlState Tid σ} {t : Tid} {device : Device}
      (h : s.locked device = false) :
    Step outside s t ⟨.acquireLock device, true⟩
      { s with locked := Function.update s.locked device true }
  | locked {s : ControlState Tid σ} {t : Tid} {device : Device} (h : s.locked device = true) :
    Step outside s t ⟨.acquireLock device, false⟩ s
  | releaseLock {s : ControlState Tid σ} {t : Tid} {device : Device}
      (h : s.locked device = true) :
    Step outside s t ⟨.releaseLock device, ()⟩
      { s with locked := Function.update s.locked device false }
  | other {s : ControlState Tid σ} {t : Tid} {x : Exchange ControlInterface} {after : σ}
      (h : x.1.serial = false) (hx : outside s.outside t x after) :
    Step outside s t x { s with outside := after }

end ControlState

/-! ## Executions -/

/-- An execution of an adapter. -/
inductive Command
  | wled (operation : WLEDOperation) (input : OperationInput)
  | hyperhdr (operation : HyperHDROperation)

/-- The execution that a call starts. -/
def ControlCall.starts : ControlCall → Option Command
  | startWled operation input => some (.wled operation input)
  | startHyperhdr operation => some (.hyperhdr operation)
  | _ => none

/-- The execution that a call ends. -/
def ControlCall.finishes : ControlCall → Option Command
  | finishWled operation input => some (.wled operation input)
  | finishHyperhdr operation => some (.hyperhdr operation)
  | _ => none

/-- The call is a part of an execution. -/
def ControlCall.executes (c : ControlCall) : Bool := c.starts.isSome || c.finishes.isSome

/-- What an exchange does to the gate. -/
def gateEffect : Exchange ControlInterface → GateEffect
  | ⟨.acquireGate, true⟩ => .takes
  | ⟨.acquireGate, false⟩ => .outside
  | ⟨.releaseGate, _⟩ => .drops
  | ⟨c, _⟩ => if c.executes then .inside else .outside

/-- The gate counts exactly the calls that execute a device. -/
theorem gateEffect_inside {x : Exchange ControlInterface} :
    gateEffect x = .inside ↔ x.1.executes = true := by
  obtain ⟨c, answer⟩ := x
  cases c <;> try simp [gateEffect, ControlCall.executes, ControlCall.starts, ControlCall.finishes]
  -- the answer says whether the gate was taken
  cases answer <;> simp

/-- A step of the control plane is a step of the gate, by what its call means there. -/
theorem step_gateEffect {Tid σ : Type} {outside : σ → Tid → Exchange ControlInterface → σ → Prop}
    (s : ControlState Tid σ) (t : Tid) (x : Exchange ControlInterface) (s' : ControlState Tid σ)
    (h : s.Step outside t x s') : GateStep t (gateEffect x) s.gate s'.gate := by
  cases h with
  | acquireGate h =>
    rw [h]
    exact .takesFree
  | acquireAgain h =>
    rw [h]
    exact .takesAgain _
  | contended => exact .outside _
  | releaseGate h =>
    rw [h]
    exact .dropsLast
  | releaseOnce h =>
    rw [h]
    exact .drops _
  | acquireLock => exact .outside _
  | locked => exact .outside _
  | releaseLock => exact .outside _
  | other h =>
    obtain ⟨c, answer⟩ := x
    cases c <;> first | exact .outside _ | exact .inside _ | cases h

/-! ## Sections -/

/-- Where a request is: between its executions, or in one. -/
inductive Place
  | idle (ph : Phase)
  | executing (n : Nat)

namespace Place

/-- An execution is entered while the gate is held, and left by its end alone. -/
def next : Place → Exchange ControlInterface → Option Place
  | idle ph, x =>
    if x.1.starts.isSome then
      match ph with
      | .holding n => some (executing n)
      | _ => none
    else if x.1.finishes.isSome then none
    else (ph.next (gateEffect x)).map idle
  | executing n, x => if x.1.finishes.isSome then some (idle (.holding n)) else none

/-- The place in the section of the gate. -/
def phase : Place → Phase
  | idle ph => ph
  | executing n => .holding n

/-- The place in the code determines the thread's phase at the gate. -/
theorem next_phase {place place' : Place} {x : Exchange ControlInterface}
    (h : place.next x = some place') : place.phase.next (gateEffect x) = some place'.phase := by
  cases place with
  | idle ph =>
    simp only [next] at h
    split at h
    · rename_i hstarts
      have hinside : gateEffect x = .inside :=
        gateEffect_inside.mpr (by simp [ControlCall.executes, hstarts])
      cases ph <;> cases h
      rw [hinside]
      rfl
    · split at h
      · cases h
      · obtain ⟨ph', hph, rfl⟩ := Option.map_eq_some_iff.mp h
        exact hph
  | executing n =>
    simp only [next] at h
    split at h
    · rename_i hfinishes
      have hinside : gateEffect x = .inside :=
        gateEffect_inside.mpr (by simp [ControlCall.executes, hfinishes])
      obtain rfl := Option.some.inj h
      rw [hinside]
      rfl
    · cases h

end Place

/-- The call has nothing to do with the gate, whatever its answer. -/
def ControlCall.quiet (c : ControlCall) : Prop :=
  ∀ answer : c.Answer, gateEffect ⟨c, answer⟩ = .outside

instance : Ordinary ControlCall.quiet where
  emit := fun _ _ _ => rfl
  emitOperation := fun _ _ _ _ => rfl
  beginAttempt := fun _ _ _ => rfl
  invalidateCache := fun _ _ => rfl
  resolveSession := fun _ _ => rfl
  invalidateSession := fun _ _ => rfl

/-- A call that does not concern the gate leaves an idle place idle. -/
theorem Place.next_quiet {ph : Phase} {x : Exchange ControlInterface}
    (h : gateEffect x = .outside) : (Place.idle ph).next x = some (.idle ph) := by
  have hexecutes : x.1.executes = false := by
    rw [← Bool.not_eq_true, ← gateEffect_inside, h]
    simp
  obtain ⟨hstarts, hfinishes⟩ := Bool.or_eq_false_iff.mp hexecutes
  simp only [Place.next, hstarts, hfinishes, h]
  cases ph <;> rfl

variable {α β : Type} {ph : Phase} {n : Nat}

/-- Every run of the program ends in the phase it started in. -/
abbrev Stays (ph : Phase) (p : ControlProgram α) : Prop :=
  p.Passes Place.next (.idle ph) fun _ place => place = .idle ph

/-- A program without the gate stays where it is. -/
theorem stays_of_quiet {p : ControlProgram α} (h : p.Makes ControlCall.quiet) : Stays ph p := by
  induction p with
  | done a => rfl
  | raise e => rfl
  | call c next ih =>
    exact fun answer => ⟨.idle ph, Place.next_quiet (h.1 answer), ih answer (h.2 answer)⟩

/-- Programs that leave the phase alone, in sequence. -/
theorem Stays.bind {x : ControlProgram α} {f : α → ControlProgram β} (hx : Stays ph x)
    (hf : ∀ a, Stays ph (f a)) : Stays ph (x >>= f) := by
  refine Passes.bind hx (fun a ph' hph => ?_) fun _ _ hph => hph
  subst hph
  exact hf a

theorem Stays.finallyDo {body : ControlProgram α} {cleanup : ControlProgram Unit}
    (hbody : Stays ph body) (hcleanup : Stays ph cleanup) : Stays ph (finallyDo body cleanup) := by
  refine Passes.finallyDo hbody fun r ph' hph => ?_
  subst hph
  exact hcleanup.mono fun r _ h => by cases r <;> exact h

theorem Stays.exceptException {body : ControlProgram α} {handled : α} (h : Stays ph body) :
    Stays ph (exceptException body handled) := by
  refine Passes.catching_bind h fun r ph' hph => ?_
  cases r with
  | ok a => exact hph
  | error thrown => cases thrown <;> exact hph

/-- An adapter's execution happens inside the gate. -/
theorem stays_executeWled {operation : WLEDOperation} {input : OperationInput} :
    Stays (.holding n) (executeWled operation input) := by
  refine passes_ask_bind.mpr fun _ => ⟨.executing n, rfl, ?_⟩
  exact fun answer => ⟨.idle (.holding n), rfl, passes_ofExcept.mpr rfl⟩

theorem stays_executeHyperhdr {operation : HyperHDROperation} :
    Stays (.holding n) (executeHyperhdr operation) := by
  refine passes_ask_bind.mpr fun _ => ⟨.executing n, rfl, ?_⟩
  exact fun answer => ⟨.idle (.holding n), rfl, passes_ofExcept.mpr rfl⟩

/-! ### A device service -/

namespace Gates

variable {gates : Gates} {adapter : ControlProgram β} {failure : β}
  {reported : β → ControlProgram ControlResult} {clientIdentifier : String}

/-- Under the gate the adapter's calls are inside the section. -/
theorem stays_underGate (hadapter : Stays (.holding n) adapter) :
    Stays (.holding n) (gates.underGate adapter failure) := by
  have hlock : (acquireLock gates.device).Makes ControlCall.quiet := makes_ask fun _ => rfl
  have hunlock : (releaseLock gates.device).Makes ControlCall.quiet := makes_ask fun _ => rfl
  refine (stays_of_quiet hlock).bind fun acquired => ?_
  split
  · refine Stays.finallyDo ?_ (stays_of_quiet hunlock)
    unfold underLock
    split
    · exact hadapter.exceptException.bind fun _ => rfl
    · exact stays_of_quiet (makes_deny.bind fun _ => makes_pure _)
  · exact stays_of_quiet (makes_busy.bind fun _ => makes_pure _)

end Gates

/-- Where a request to a device service is after it, by where it was before. -/
def Settles (ph : Phase) (place : Place) : Prop :=
  place = .idle ph ∨ ph = .before ∧ place = .idle .after

/-- A section of its own, or a part of the one the request is in. -/
abbrev Sectioned (ph : Phase) (p : ControlProgram α) : Prop :=
  p.Passes Place.next (.idle ph) fun _ place => Settles ph place

/-- A program that leaves the phase alone is a section that was not entered. -/
theorem Stays.sectioned {p : ControlProgram α} (h : Stays ph p) : Sectioned ph p :=
  h.mono fun _ _ hph => .inl hph

/-- A section may be preceded by what leaves the phase alone. -/
theorem Stays.sectioned_bind {x : ControlProgram α} {f : α → ControlProgram β} (hx : Stays ph x)
    (hf : ∀ a, Sectioned ph (f a)) : Sectioned ph (x >>= f) := by
  refine Passes.bind hx (fun a ph' hph => ?_) fun _ _ hph => .inl hph
  subst hph
  exact hf a

/-- What a program under the gate makes of a section. -/
theorem sectioned_finallyDo {body : ControlProgram α} {f : α → ControlProgram β}
    (hph : ph ≠ .after) (hbody : ∀ n, Stays (.holding n) body) (hf : ∀ a ph', Stays ph' (f a)) :
    ∃ place, (Place.idle ph).next ⟨.acquireGate, true⟩ = some place ∧
      (finallyDo body releaseGate >>= f).Passes Place.next place fun _ place => Settles ph place := by
  cases ph with
  | after => exact absurd rfl hph
  | before =>
    refine ⟨.idle (.holding 0), rfl, ?_⟩
    refine Passes.bind (P := fun _ place => place = .idle .after) ?_ ?_ ?_
    · refine Passes.finallyDo (hbody 0) fun r place hplace => ?_
      subst hplace
      exact fun _ => ⟨.idle .after, rfl, rfl⟩
    · rintro a place rfl
      exact (hf a _).mono fun _ _ h => .inr ⟨rfl, h⟩
    · rintro e place rfl
      exact .inr ⟨rfl, rfl⟩
  | holding n =>
    refine ⟨.idle (.holding (n + 1)), rfl, ?_⟩
    refine Passes.bind (P := fun _ place => place = .idle (.holding n)) ?_ ?_ ?_
    · refine Passes.finallyDo (hbody (n + 1)) fun r place hplace => ?_
      subst hplace
      exact fun _ => ⟨.idle (.holding n), rfl, rfl⟩
    · rintro a place rfl
      exact (hf a _).mono fun _ _ h => .inl h
    · rintro e place rfl
      exact .inl rfl

namespace Gates

variable {gates : Gates} {adapter : ControlProgram β} {failure : β}
  {reported : β → ControlProgram ControlResult} {clientIdentifier : String}
  {session : Option SessionContext} {submittedCsrf confirmation : Option String}

/-- The serialized part of the gates is one section around the adapter. -/
theorem sectioned_serialized (hph : ph ≠ .after) (hadapter : ∀ n, Stays (.holding n) adapter)
    (hreported : ∀ b, (reported b).Makes ControlCall.quiet) :
    Sectioned ph (gates.serialized clientIdentifier adapter failure reported) := by
  refine (stays_of_quiet makes_beginAttempt).sectioned_bind fun granted => ?_
  split
  · refine passes_ask_bind.mpr fun acquired => ?_
    cases acquired with
    | true =>
      refine sectioned_finallyDo hph (fun n => stays_underGate (hadapter n)) fun result ph' => ?_
      cases result with
      | error result => rfl
      | ok adapterResult => exact stays_of_quiet (hreported adapterResult)
    | false =>
      refine ⟨.idle ph, Place.next_quiet rfl, ?_⟩
      exact (stays_of_quiet makes_busy).sectioned
  · exact (stays_of_quiet makes_rateLimited).sectioned

/-- All of a mutation's gates and its report have one section. -/
theorem sectioned_execute (hph : ph ≠ .after) (hadapter : ∀ n, Stays (.holding n) adapter)
    (hreported : ∀ b, (reported b).Makes ControlCall.quiet) :
    Sectioned ph (gates.execute session submittedCsrf confirmation clientIdentifier adapter failure
      reported) := by
  refine (stays_of_quiet (makes_authenticationFailure fun _ => makes_deny)).sectioned_bind
    fun denied => ?_
  split
  · exact Stays.sectioned rfl
  · split
    · exact (stays_of_quiet makes_deny).sectioned
    · split
      · exact (stays_of_quiet makes_deny).sectioned
      · split
        · exact (stays_of_quiet makes_confirmationDenied).sectioned
        · split
          · exact (stays_of_quiet makes_deny).sectioned
          · exact sectioned_serialized hph hadapter hreported

end Gates

section Services

variable {session : Option SessionContext} {submittedCsrf confirmation : Option String}
  {clientIdentifier : String}

theorem sectioned_wled {service : WLEDControlService} {operation : WLEDOperation}
    {input : OperationInput} (hph : ph ≠ .after) :
    Sectioned ph (service.execute operation input session submittedCsrf clientIdentifier
      confirmation) :=
  Gates.sectioned_execute hph (fun _ => stays_executeWled) fun _ => Gates.makes_report

/-- A HyperHDR operation has one section. -/
theorem sectioned_hyperhdr {service : HyperHDRControlService} {operation : HyperHDROperation}
    (hph : ph ≠ .after) :
    Sectioned ph (service.execute operation session submittedCsrf clientIdentifier confirmation) :=
  Gates.sectioned_execute hph (fun _ => stays_executeHyperhdr) fun _ => Gates.makes_report

theorem sectioned_setBrightness {service : WLEDControlService} {brightness : Int}
    (hph : ph ≠ .after) :
    Sectioned ph (service.setBrightness session submittedCsrf brightness clientIdentifier) := by
  refine (stays_of_quiet makes_requestSecurityFailure).sectioned_bind fun denied => ?_
  split
  · exact Stays.sectioned rfl
  · split
    · exact (stays_of_quiet Gates.makes_deny).sectioned
    · exact sectioned_wled hph

end Services

/-! ### The composite -/

namespace AmbientControlService

variable {operation : AuroraOperation} {call : AmbientControlStep → ControlProgram ControlResult}

/-- A child takes the gate again, and drops it as often. -/
theorem stays_childCall {service : AmbientControlService} {session : SessionContext}
    {submittedCsrf clientIdentifier : String} (step : AmbientControlStep) :
    Stays (.holding n) (service.childCall session submittedCsrf clientIdentifier step) := by
  have hsettled : ∀ {p : ControlProgram ControlResult}, Sectioned (.holding n) p →
      Stays (.holding n) p := by
    intro p hp
    refine hp.mono fun _ ph' h => ?_
    rcases h with h | ⟨h, -⟩
    · exact h
    · cases h
  have hph : Phase.holding n ≠ .after := by simp
  apply hsettled
  cases step with
  | wledPowerOn => exact @sectioned_wled _ _ _ none _ _ _ _ hph
  | wledPowerOff => exact @sectioned_wled _ _ _ (some powerOffConfirmationValue) _ _ _ _ hph
  | videoGrabberEnable => exact @sectioned_hyperhdr _ _ _ none _ _ _ hph
  | ledOutputEnable => exact @sectioned_hyperhdr _ _ _ none _ _ _ hph
  | ledOutputDisable =>
    exact @sectioned_hyperhdr _ _ _ (some ledOutputDisableConfirmationValue) _ _ _ hph
  | videoGrabberDisable =>
    exact @sectioned_hyperhdr _ _ _ (some videoGrabberDisableConfirmationValue) _ _ _ hph

theorem stays_safeChildCall {step : AmbientControlStep} (h : Stays ph (call step)) :
    Stays ph (safeChildCall (call step)) :=
  Stays.exceptException (h.bind fun _ => rfl)

/-- By induction on the steps: a composite's children run where it runs. -/
theorem stays_runSteps (hcall : ∀ step, Stays ph (call step)) (steps : List AmbientControlStep) :
    ∀ attempted verified, Stays ph (runSteps operation call attempted verified steps) := by
  induction steps with
  | nil => exact fun _ _ => stays_of_quiet makes_finish
  | cons step steps ih =>
    intro attempted verified
    refine (stays_safeChildCall (hcall step)).bind fun result => ?_
    split
    · exact ih _ _
    · exact stays_of_quiet ((makes_ofExcept _).bind fun _ => makes_finish)

/-- Both devices are asked, under the section that is already held. -/
theorem stays_runAmbientOff (hcall : ∀ step, Stays ph (call step)) :
    Stays ph (runAmbientOff operation call) := by
  refine (stays_safeChildCall (hcall _)).bind fun ledResult => ?_
  split
  · exact stays_of_quiet ((makes_ofExcept _).bind fun _ => makes_finish)
  · refine (stays_safeChildCall (hcall _)).bind fun grabberResult => ?_
    refine (stays_safeChildCall (hcall _)).bind fun wledResult => ?_
    exact stays_of_quiet makes_finish

theorem stays_run (hcall : ∀ step, Stays ph (call step)) : Stays ph (run operation call) := by
  unfold run
  split
  · exact stays_runSteps hcall _ _ _
  · exact stays_runAmbientOff hcall

theorem sectioned_serialized {clientIdentifier : String}
    (hcall : ∀ n step, Stays (.holding n) (call step)) :
    Sectioned .before (serialized operation call clientIdentifier) := by
  refine (stays_of_quiet makes_beginAttempt).sectioned_bind fun granted => ?_
  split
  · refine passes_ask_bind.mpr fun acquired => ?_
    cases acquired with
    | true =>
      refine ⟨.idle (.holding 0), rfl, ?_⟩
      refine Passes.finallyDo (stays_run (hcall 0)) fun r place hplace => ?_
      subst hplace
      exact fun _ => ⟨.idle .after, rfl, .inr ⟨rfl, rfl⟩⟩
    | false => exact ⟨.idle .before, rfl, (stays_of_quiet makes_finish).sectioned⟩
  · exact (stays_of_quiet makes_finish).sectioned

theorem sectioned_execute {service : AmbientControlService} {session : Option SessionContext}
    {submittedCsrf confirmation : Option String} {clientIdentifier : String} :
    Sectioned .before
      (service.execute operation session submittedCsrf clientIdentifier confirmation) := by
  refine (stays_of_quiet (makes_authenticationFailure fun _ => makes_finish)).sectioned_bind
    fun denied => ?_
  split
  · exact Stays.sectioned rfl
  · split
    · split
      · exact (stays_of_quiet makes_finish).sectioned
      · split
        · exact (stays_of_quiet makes_finish).sectioned
        · split
          · exact (stays_of_quiet makes_finish).sectioned
          · split
            · exact (stays_of_quiet makes_finish).sectioned
            · exact sectioned_serialized fun _ => stays_childCall
    · exact Stays.sectioned rfl

end AmbientControlService

/-! ### Requests -/

/-- Repackaging the answer makes no call. -/
theorem Sectioned.map {p : ControlProgram α} {f : α → β} (h : Sectioned ph p) :
    Sectioned ph (do return f (← p) : ControlProgram β) :=
  Passes.bind h (fun _ _ hph => hph) fun _ _ hph => hph

theorem quiet_authenticate {control : ControlPlaneService}
    {username password clientIdentifier : String} {priorSessionToken : Option String} :
    (control.authenticate username password clientIdentifier priorSessionToken).Makes
      ControlCall.quiet := by
  have hlast : ∀ username, (do
      let created ← createSession username
      emit .loginSucceeded .authenticated
      return (⟨.success, some created⟩ : LoginResult) : ControlProgram LoginResult).Makes
        ControlCall.quiet := fun username =>
    Makes.bind (makes_invoke fun _ => rfl) fun _ => makes_emit.bind fun _ => makes_pure _
  unfold ControlPlaneService.authenticate
  split
  · exact makes_pure _
  · refine makes_beginAttempt.bind fun granted => ?_
    split
    · refine (makes_ofExcept _).bind fun passwordMatches => ?_
      split
      · refine Makes.bind (makes_ask fun _ => rfl) fun _ => ?_
        cases priorSessionToken with
        | none => exact hlast _
        | some token => exact makes_invalidateSession.bind fun _ => hlast _
      · exact makes_emit.bind fun _ => makes_pure _
    · exact makes_emit.bind fun _ => makes_pure _

theorem quiet_postLogin {services : ControlServices} {cookie : CookieLookup}
    {form : SubmittedForm (String × String)} {clientIdentifier : String} :
    (services.postLogin cookie form clientIdentifier).Makes ControlCall.quiet := by
  unfold ControlServices.postLogin
  split
  · exact makes_pure _
  · split
    · exact makes_emit.bind fun _ => makes_pure _
    · split
      · exact makes_emit.bind fun _ => makes_pure _
      · exact makes_requestSession.bind fun _ => quiet_authenticate.bind fun _ => makes_pure _

section Handlers

variable {services : ControlServices} {clientIdentifier : String} {session : SessionContext}
  {fields : ControlForm}

theorem sectioned_callWled {operation : WLEDOperation} (hph : ph ≠ .after) :
    Sectioned ph (services.callWled operation clientIdentifier session fields) := by
  unfold ControlServices.callWled
  cases operation with
  | powerOn => exact (@sectioned_wled _ _ _ none _ _ _ _ hph).map
  | powerOff => exact (@sectioned_wled _ _ _ fields.confirmation _ _ _ _ hph).map
  | brightnessSet =>
    dsimp only
    split
    · refine stays_of_quiet (makes_requestSecurityFailure.bind fun denied => ?_) |>.sectioned
      split
      · exact makes_pure _
      · exact makes_emitOperation.bind fun _ => makes_pure _
    · exact (sectioned_setBrightness hph).map

theorem sectioned_callHyperhdr {operation : HyperHDROperation} (hph : ph ≠ .after) :
    Sectioned ph (services.callHyperhdr operation clientIdentifier session fields) := by
  unfold ControlServices.callHyperhdr
  cases operation with
  | videoGrabberEnable => exact (@sectioned_hyperhdr _ _ _ none _ _ _ hph).map
  | ledOutputEnable => exact (@sectioned_hyperhdr _ _ _ none _ _ _ hph).map
  | videoGrabberDisable => exact (@sectioned_hyperhdr _ _ _ fields.confirmation _ _ _ hph).map
  | ledOutputDisable => exact (@sectioned_hyperhdr _ _ _ fields.confirmation _ _ _ hph).map

/-- A composite called from the boundary enters one section. -/
theorem sectioned_callAmbient {operation : AuroraOperation} :
    Sectioned .before (services.callAmbient operation clientIdentifier session fields) := by
  unfold ControlServices.callAmbient
  cases operation with
  | ambientOn => exact (@AmbientControlService.sectioned_execute .ambientOn _ _ _ none _).map
  | ambientOff =>
    exact (@AmbientControlService.sectioned_execute .ambientOff _ _ _ fields.confirmation _).map

theorem sectioned_postOperation {denied : AuditEvent} {operation : ControlOperation}
    {cookie : CookieLookup} {form : SubmittedForm ControlForm}
    {call : SessionContext → ControlForm → ControlProgram ControlAnswer}
    (hcall : ∀ session fields, Sectioned .before (call session fields)) :
    Sectioned .before (services.postOperation denied operation cookie form call) := by
  unfold ControlServices.postOperation
  split
  · exact (stays_of_quiet (makes_emitOperation.bind fun _ => makes_pure _)).sectioned
  · refine (stays_of_quiet makes_requestSession).sectioned_bind fun resolved => ?_
    split
    · exact (stays_of_quiet (makes_emitOperation.bind fun _ => makes_pure _)).sectioned
    · split
      · exact (stays_of_quiet (makes_emitOperation.bind fun _ => makes_pure _)).sectioned
      · exact hcall _ _

end Handlers

/-- Every request keeps to one section of the gate, and ends its executions. -/
theorem sectioned_program (services : ControlServices) (request : ControlRequest) :
    Sectioned .before (request.program services) := by
  have hbefore : Phase.before ≠ .after := by simp
  cases request with
  | login => exact (stays_of_quiet quiet_postLogin).sectioned
  | logout => exact (stays_of_quiet makes_postLogout).sectioned
  | visit => exact (stays_of_quiet makes_visit).sectioned
  | wled => exact sectioned_postOperation fun _ _ => sectioned_callWled hbefore
  | hyperhdr => exact sectioned_postOperation fun _ _ => sectioned_callHyperhdr hbefore
  | ambient => exact sectioned_postOperation fun _ _ => sectioned_callAmbient

/-- The watch of the places. -/
def placeWatch (services : ControlServices) : Watch (ControlRequest.program services) Place where
  next := Place.next
  init := fun _ => .idle .before
  final := fun _ _ place => Settles .before place
  passes := sectioned_program services

/-- The watcher of places gives every thread its phase at the gate. -/
theorem phaseOf_place (services : ControlServices) :
    PhaseOf (placeWatch services) gateEffect Place.phase where
  init := fun _ => rfl
  next := fun _ _ _ h => Place.next_phase h
  final := by
    intro request result place h
    rcases h with rfl | ⟨-, rfl⟩ <;> trivial

end Aurora.ControlPlane
