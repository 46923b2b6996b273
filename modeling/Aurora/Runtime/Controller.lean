/-
  The runtime controller: it starts the enabled components of a plan in order and stops the started
  ones in reverse.

  Components are injected, and each call of one may raise any exception that `except Exception`
  catches; what it does not catch, such as a keyboard interrupt, is left out.  The controller keeps the
  started components on a stack that `start` fills and `stop` and the rollback empty; what is on it
  outlives an exception, so every operation returns the controller beside its result.

  Component identities are of any type: the plan and the registry are all that is known of them.
-/
import Aurora.Lib.Dict
import Aurora.Lib.Interaction

namespace Aurora.Runtime

open Program

/-! ## Plans -/

/-- The stages of a component. -/
inductive ComponentLifecycleState
  | created
  | starting
  | running
  | stopping
  | stopped
  | failed
deriving DecidableEq, Repr

/-- What the controller needs to know of a component. -/
structure ComponentPlan (κ : Type) where
  componentId : κ
  enabled : Bool
  initialLifecycle : ComponentLifecycleState

/-! ## Calls -/

/-- What the controller calls. -/
inductive RuntimeCall (κ : Type)
  | start (componentId : κ)
  | stop (componentId : κ)

/-- A component returns, or raises an exception of type `χ`. -/
def RuntimeInterface (κ χ : Type) : Interface := ⟨RuntimeCall κ, fun _ => Except χ Unit⟩

/-- A program of the controller catches what components raise. -/
abbrev RuntimeProgram (κ χ α : Type) : Type := Program (RuntimeInterface κ χ) Empty α

/-- One call of a component and how it ended. -/
abbrev RuntimeExchange (κ χ : Type) : Type := Exchange (RuntimeInterface κ χ)

/-- The safe errors, with the exception they are raised from. -/
inductive AuroraRuntimeError (κ χ : Type)
  | componentRegistry (componentId : κ)
  | missingComponent (componentId : κ)
  | componentStartup (componentId : κ) (cause : χ)
  | componentShutdown (componentId : κ) (cause : χ)

variable {κ χ : Type} [DecidableEq κ]

/-- One call of a component, with what it raised as a value. -/
def callComponent (call : RuntimeCall κ) : RuntimeProgram κ χ (Except χ Unit) :=
  ask (I := RuntimeInterface κ χ) call

/-! ## The controller -/

/-- `RuntimeController`, with its plan and the lifecycle of its components. -/
structure RuntimeController (κ : Type) [DecidableEq κ] where
  plan : List (ComponentPlan κ)
  components : List κ
  lifecycle : Dict κ ComponentLifecycleState
  /-- The last one started comes first. -/
  started : List κ

namespace RuntimeController

/-- The registry of the injected components; a second one of an identity is an error. -/
def register : List κ → List κ → Except (AuroraRuntimeError κ χ) (List κ)
  | [], registered => .ok registered
  | component :: rest, registered =>
    if component ∈ registered then .error (.componentRegistry component)
    else register rest (registered ++ [component])

/-- `__init__` -/
def create (plan : List (ComponentPlan κ)) (components : List κ) :
    Except (AuroraRuntimeError κ χ) (RuntimeController κ) :=
  (register components []).map fun registered =>
    { plan := plan
      components := registered
      lifecycle := plan.foldl (fun d item => d.set item.componentId item.initialLifecycle)
        Dict.empty
      started := [] }

/-- The component is in this stage. -/
def setLifecycle (c : RuntimeController κ) (componentId : κ) (state : ComponentLifecycleState) :
    RuntimeController κ :=
  { c with lifecycle := c.lifecycle.set componentId state }

/-- The loop of `_stop_started`, with the first failure so far. -/
def stopEach : List κ → Dict κ ComponentLifecycleState → Option (κ × χ) →
    RuntimeProgram κ χ (Dict κ ComponentLifecycleState × Option (κ × χ))
  | [], lifecycle, failure => pure (lifecycle, failure)
  | componentId :: rest, lifecycle, failure => do
    match ← callComponent (.stop componentId) with
    | .ok _ => stopEach rest ((lifecycle.set componentId .stopping).set componentId .stopped) failure
    | .error error =>
      stopEach rest ((lifecycle.set componentId .stopping).set componentId .failed)
        (failure.or (some (componentId, error)))

/-- `_stop_started`: every started component is asked to stop, and the stack is empty after it. -/
def stopStarted (c : RuntimeController κ) (raiseOnFailure : Bool) :
    RuntimeProgram κ χ (RuntimeController κ × Except (AuroraRuntimeError κ χ) Unit) := do
  let (lifecycle, failure) ← stopEach c.started c.lifecycle none
  let stopped : RuntimeController κ := { c with lifecycle := lifecycle, started := [] }
  match failure with
  | some (componentId, cause) =>
    if raiseOnFailure then pure (stopped, .error (.componentShutdown componentId cause))
    else pure (stopped, .ok ())
  | none => pure (stopped, .ok ())

/-- The loop of `start` over the plan. -/
def startEach : List (ComponentPlan κ) → RuntimeController κ →
    RuntimeProgram κ χ (RuntimeController κ × Except (AuroraRuntimeError κ χ) Unit)
  | [], c => pure (c, .ok ())
  | item :: rest, c =>
    if item.enabled then
      if item.componentId ∈ c.components then do
        match ← callComponent (.start item.componentId) with
        | .ok _ =>
          let c := (c.setLifecycle item.componentId .starting).setLifecycle item.componentId
            .running
          startEach rest { c with started := item.componentId :: c.started }
        | .error cause =>
          let (rolledBack, _) ← ((c.setLifecycle item.componentId .starting).setLifecycle
            item.componentId .failed).stopStarted false
          pure (rolledBack, .error (.componentStartup item.componentId cause))
      else do
        let (rolledBack, _) ← (c.setLifecycle item.componentId .failed).stopStarted false
        pure (rolledBack, .error (.missingComponent item.componentId))
    else startEach rest c

/-- `start` -/
def start (c : RuntimeController κ) :
    RuntimeProgram κ χ (RuntimeController κ × Except (AuroraRuntimeError κ χ) Unit) :=
  if c.started = [] then startEach c.plan c else pure (c, .ok ())

/-- `stop` -/
def stop (c : RuntimeController κ) :
    RuntimeProgram κ χ (RuntimeController κ × Except (AuroraRuntimeError κ χ) Unit) :=
  c.stopStarted true

end RuntimeController

/-! ## Sequences of calls -/

/-- What a session asks of a controller. -/
inductive Operation
  | start
  | stop
deriving DecidableEq, Repr

/-- The program of an operation. -/
def RuntimeController.perform (c : RuntimeController κ) :
    Operation → RuntimeProgram κ χ (RuntimeController κ × Except (AuroraRuntimeError κ χ) Unit)
  | .start => c.start
  | .stop => c.stop

/-- One call of the controller: what it was, what it did, and how it ended. -/
structure Round (κ χ : Type) where
  operation : Operation
  exchanges : List (RuntimeExchange κ χ)
  result : Except (AuroraRuntimeError κ χ) Unit

/-- Calls made one after the other of a new controller, with components that may fail at any
    point. -/
inductive Session (plan : List (ComponentPlan κ)) (components : List κ) :
    List (Round κ χ) → RuntimeController κ → Prop
  | created {c : RuntimeController κ}
      (h : RuntimeController.create (χ := χ) plan components = .ok c) :
      Session plan components [] c
  | call {rounds : List (Round κ χ)} {c c' : RuntimeController κ} (operation : Operation)
      {t : List (RuntimeExchange κ χ)} {result : Except (AuroraRuntimeError κ χ) Unit}
      (earlier : Session plan components rounds c)
      (run : Runs (c.perform operation) t (.ok (c', result))) :
      Session plan components (rounds ++ [⟨operation, t, result⟩]) c'

/-- The calls of components in a session. -/
def exchangesOf (rounds : List (Round κ χ)) : List (RuntimeExchange κ χ) :=
  rounds.flatMap (·.exchanges)

end Aurora.Runtime
