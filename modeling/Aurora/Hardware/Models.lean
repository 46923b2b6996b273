/-
  What every hardware validation report names: the component it is about and the state it finds.
-/

namespace Aurora.Hardware

/-- The runtime components, in their operational order. -/
inductive ComponentId
  | captureDevice
  | hyperhdr
  | wled
  | ddp
  | mqtt
  deriving DecidableEq

/-- The states of a component. -/
inductive ComponentHealthState
  | disabled
  | healthy
  | degraded
  | unhealthy
deriving DecidableEq, Repr

end Aurora.Hardware
