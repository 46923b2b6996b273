/-
  The attempt limiter of the control plane: one window per client, one for all of them together,
  and a bounded table of clients.

  A client is known by the digest of its identifier alone.  Every operation first drops the stamps
  that left the window and the clients without stamps.  A client without a record may push the
  client seen least recently out of a full table.

  Readings of the monotonic clock are exact rationals.
-/
import Mathlib.Data.Rat.Defs
import Mathlib.Algebra.Order.Ring.Rat
import Aurora.Lib.Dict

namespace Aurora.ControlPlane

/-- The most clients that are tracked. -/
def maxTrackedClients : Nat := 256
/-- The attempts of all clients, in attempts of one. -/
def globalAttemptMultiplier : Nat := 16

/-- The attempts of one client. -/
structure AttemptRecord where
  attempts : List ℚ
  lastSeen : ℚ

/-- The bounds the constructor accepts. -/
structure LimiterBounds where
  attemptLimit : Nat
  windowSeconds : ℚ
  maximumClients : Nat
  limitPositive : 0 < attemptLimit
  windowPositive : 0 < windowSeconds
  clientsPositive : 0 < maximumClients

namespace LimiterBounds

/-- The constructor's check. -/
def new? (attemptLimit : Nat) (windowSeconds : ℚ) (maximumClients : Nat) :
    Except String LimiterBounds :=
  if h : 0 < attemptLimit ∧ 0 < windowSeconds ∧ 0 < maximumClients then
    .ok ⟨attemptLimit, windowSeconds, maximumClients, h.1, h.2.1, h.2.2⟩
  else .error "attempt-limiter bounds must be positive"

/-- The attempts all clients have together. -/
def globalAttemptLimit (bounds : LimiterBounds) : Nat :=
  bounds.attemptLimit * globalAttemptMultiplier

end LimiterBounds

/-- What a limiter holds between two calls. -/
structure LoginAttemptLimiter (Digest : Type) where
  records : Dict Digest AttemptRecord
  globalAttempts : List ℚ

namespace LoginAttemptLimiter

variable {Client Digest : Type} [DecidableEq Digest]

/-- A limiter nobody has asked. -/
def fresh : LoginAttemptLimiter Digest where
  records := .empty
  globalAttempts := []

/-- The stamps still in the window. -/
def live (bounds : LimiterBounds) (now : ℚ) (stamps : List ℚ) : List ℚ :=
  stamps.filter fun stamp => now - bounds.windowSeconds < stamp

/-- A record after the stale stamps are dropped; a record without stamps goes. -/
def refreshed (bounds : LimiterBounds) (now : ℚ) (record : AttemptRecord) : Option AttemptRecord :=
  if live bounds now record.attempts = [] then none
  else some { record with attempts := live bounds now record.attempts }

/-- `_cleanup`: drop what left the window. -/
def cleanup (bounds : LimiterBounds) (now : ℚ) (limiter : LoginAttemptLimiter Digest) :
    LoginAttemptLimiter Digest where
  records := limiter.records.collect (refreshed bounds now)
  globalAttempts := live bounds now limiter.globalAttempts

/-- Make room for a client without a record: the client seen least recently goes. -/
def evict (bounds : LimiterBounds) (records : Dict Digest AttemptRecord) :
    Dict Digest AttemptRecord :=
  if records.size ≥ bounds.maximumClients then
    match records.least? AttemptRecord.lastSeen with
    | some oldest => records.erase oldest
    | none => records
  else records

/-- The client's record, with a fresh one for a client that has none. -/
def recordFor (bounds : LimiterBounds) (now : ℚ) (digest : Digest)
    (records : Dict Digest AttemptRecord) : AttemptRecord × Dict Digest AttemptRecord :=
  match records.get? digest with
  | some record => (record, records)
  | none => (⟨[], now⟩, (evict bounds records).set digest ⟨[], now⟩)

/-- The digest's attempt, after the cleanup and below the global limit. -/
def reserve (bounds : LimiterBounds) (now : ℚ) (digest : Digest)
    (limiter : LoginAttemptLimiter Digest) : Bool × LoginAttemptLimiter Digest :=
  let (record, records) := recordFor bounds now digest limiter.records
  let attempts := live bounds now record.attempts
  if attempts.length ≥ bounds.attemptLimit then
    (false, { limiter with records := records.set digest ⟨attempts, now⟩ })
  else
    (true,
      { records := records.set digest ⟨attempts ++ [now], now⟩
        globalAttempts := limiter.globalAttempts ++ [now] })

/-- `begin_attempt`: reserve one attempt, or reject a client that is limited. -/
def beginAttempt (bounds : LimiterBounds) (now : ℚ) (digest : Digest)
    (limiter : LoginAttemptLimiter Digest) : Bool × LoginAttemptLimiter Digest :=
  let limiter := limiter.cleanup bounds now
  if limiter.globalAttempts.length ≥ bounds.globalAttemptLimit then (false, limiter)
  else limiter.reserve bounds now digest

/-- `clear`: forget a client. -/
def clear (digest : Digest) (limiter : LoginAttemptLimiter Digest) : LoginAttemptLimiter Digest :=
  { limiter with records := limiter.records.erase digest }

/-- `tracked_client_count`: the clients left after a cleanup. -/
def trackedClientCount (bounds : LimiterBounds) (now : ℚ) (limiter : LoginAttemptLimiter Digest) :
    Nat × LoginAttemptLimiter Digest :=
  ((limiter.cleanup bounds now).records.size, limiter.cleanup bounds now)

/-- `attempt_count`: the stamps of a client left after a cleanup. -/
def attemptCount (bounds : LimiterBounds) (now : ℚ) (digest : Digest)
    (limiter : LoginAttemptLimiter Digest) : Nat × LoginAttemptLimiter Digest :=
  match (limiter.cleanup bounds now).records.get? digest with
  | none => (0, limiter.cleanup bounds now)
  | some record => (record.attempts.length, limiter.cleanup bounds now)

end LoginAttemptLimiter

end Aurora.ControlPlane
