/-
  The session store of the control plane: bounded, in memory, by digest of the token.

  Every operation runs under one lock, so a call is a function of the store and of the reading of
  the clock it takes.  Expired sessions go whenever an operation meets them, creating a session at
  the cap drops the oldest one, and a token source that gives a malformed token makes `create`
  raise after that.

  Readings of the monotonic clock are exact rationals.
-/
import Mathlib.Data.Rat.Defs
import Mathlib.Algebra.Order.Ring.Rat
import Aurora.Lib.Dict
import Aurora.Lib.Sha256

namespace Aurora.ControlPlane

/-! ## Tokens -/

/-- A character of the wire grammar. -/
def tokenChar (c : Char) : Bool := c.isAlphanum || c = '_' || c = '-'

/-- Whether a session or CSRF token uses the bounded wire grammar. -/
def opaqueTokenIsValid (token : String) : Bool :=
  decide (32 ≤ token.length ∧ token.length ≤ 256) && token.toList.all tokenChar

/-- `_new_token`, of what the token source gave. -/
def newToken (drawn : String) : Except String String :=
  if opaqueTokenIsValid drawn then .ok drawn
  else .error "token source returned an invalid token"

/-- `_digest`, of a token of the wire grammar: its characters are ASCII. -/
def tokenDigest (token : String) : Bytes :=
  sha256 (token.toList.map fun c => UInt8.ofNat c.toNat)

/-- Tokens of which no two share a digest. -/
def CollisionFree {Digest : Type} (digest : String → Digest) (tokens : List String) : Prop :=
  ∀ a ∈ tokens, ∀ b ∈ tokens, digest a = digest b → a = b

instance {Digest : Type} [DecidableEq Digest] (digest : String → Digest) (tokens : List String) :
    Decidable (CollisionFree digest tokens) :=
  inferInstanceAs (Decidable (∀ a ∈ tokens, ∀ b ∈ tokens, digest a = digest b → a = b))

theorem CollisionFree.mono {Digest : Type} {digest : String → Digest} {tokens more : List String}
    (h : CollisionFree digest more) (hsubset : tokens ⊆ more) : CollisionFree digest tokens :=
  fun a ha b hb => h a (hsubset ha) b (hsubset hb)

/-! ## Sessions -/

/-- Safe session state for the renderers and the CSRF check. -/
structure SessionContext where
  username : String
  csrfToken : String
  expiresInSeconds : ℚ
deriving DecidableEq

/-- What a token resolves to. -/
inductive SessionLookup
  | valid (session : SessionContext)
  | invalid
  | expired
deriving DecidableEq

/-- What the browser gets of a new session. -/
structure CreatedSession where
  token : String
  session : SessionContext

/-- What the store keeps of a session. -/
structure SessionRecord where
  username : String
  csrfToken : String
  createdAt : ℚ
  expiresAt : ℚ
  sequence : Nat

/-- The bounds the constructor accepts. -/
structure SessionBounds where
  ttlSeconds : ℚ
  maximumSessions : Nat
  ttlPositive : 0 < ttlSeconds
  sessionsPositive : 0 < maximumSessions

/-- The constructor's check. -/
def SessionBounds.new? (ttlSeconds : ℚ) (maximumSessions : Nat) : Except String SessionBounds :=
  if h : 0 < ttlSeconds ∧ 0 < maximumSessions then .ok ⟨ttlSeconds, maximumSessions, h.1, h.2⟩
  else .error "session bounds must be positive"

/-- `_context` -/
def SessionRecord.context (record : SessionRecord) (now : ℚ) : SessionContext :=
  ⟨record.username, record.csrfToken, max 0 (record.expiresAt - now)⟩

/-- Compare a CSRF token with the session's. -/
def csrfIsValid (session : SessionContext) (submittedToken : String) : Bool :=
  opaqueTokenIsValid submittedToken && decide (session.csrfToken = submittedToken)

/-- What the store holds between two calls. -/
structure SessionStore (Digest : Type) where
  sessions : Dict Digest SessionRecord
  sequence : Nat

namespace SessionStore

variable {Digest : Type}

/-- A store without sessions. -/
def fresh : SessionStore Digest := ⟨.empty, 0⟩

/-- A record that has not expired. -/
def unexpired (now : ℚ) (record : SessionRecord) : Option SessionRecord :=
  if now ≥ record.expiresAt then none else some record

/-- `_purge_expired` -/
def purgeExpired (now : ℚ) (store : SessionStore Digest) : SessionStore Digest :=
  { store with sessions := store.sessions.collect (unexpired now) }

variable [DecidableEq Digest]

/-- The eviction loop of `create`, for at most a number of rounds: as long as the cap is reached, the
oldest session goes. -/
def evictRounds (bounds : SessionBounds) :
    Nat → Dict Digest SessionRecord → Dict Digest SessionRecord
  | 0, sessions => sessions
  | rounds + 1, sessions =>
    if sessions.size ≥ bounds.maximumSessions then
      match sessions.least? SessionRecord.sequence with
      | some oldest => evictRounds bounds rounds (sessions.erase oldest)
      | none => sessions
    else sessions

/-- The eviction loop: every round removes a session. -/
def evict (bounds : SessionBounds) (sessions : Dict Digest SessionRecord) :
    Dict Digest SessionRecord :=
  evictRounds bounds sessions.size sessions

/-- `_unique_token`: up to a number of draws from an index on, with the index after the last one. -/
def uniqueToken (digest : String → Digest) (sessions : Dict Digest SessionRecord)
    (draws : Nat → String) : Nat → Nat → Except String (String × Nat)
  | 0, _ => .error "could not allocate a unique session token"
  | left + 1, index => do
    let token ← newToken (draws index)
    if digest token ∉ sessions.keys then return (token, index + 1)
    else uniqueToken digest sessions draws left (index + 1)

/-- The sessions that `create` works on: the expired and the evicted ones are gone. -/
def makeRoom (bounds : SessionBounds) (now : ℚ) (store : SessionStore Digest) :
    SessionStore Digest :=
  let purged := store.purgeExpired now
  { purged with sessions := evict bounds purged.sessions }

/-- The tokens of a new session, from the draws of the token source. -/
def newTokens (digest : String → Digest) (sessions : Dict Digest SessionRecord)
    (draws : Nat → String) : Except String (String × String) := do
  let (token, index) ← uniqueToken digest sessions draws 8 0
  let csrfToken ← newToken (draws index)
  return (token, csrfToken)

/-- Create a session, dropping the oldest if the cap is reached. -/
def create (bounds : SessionBounds) (digest : String → Digest) (now : ℚ) (username : String)
    (draws : Nat → String) (store : SessionStore Digest) :
    Except String CreatedSession × SessionStore Digest :=
  let store := store.makeRoom bounds now
  match newTokens digest store.sessions draws with
  | .error e => (.error e, store)
  | .ok (token, csrfToken) =>
    let record : SessionRecord :=
      ⟨username, csrfToken, now, now + bounds.ttlSeconds, store.sequence + 1⟩
    (.ok ⟨token, record.context now⟩,
      { sessions := store.sessions.set (digest token) record, sequence := store.sequence + 1 })

/-- Resolve a token. -/
def resolve (digest : String → Digest) (now : ℚ) (token : String) (store : SessionStore Digest) :
    SessionLookup × SessionStore Digest :=
  if !opaqueTokenIsValid token then (.invalid, store)
  else
    match store.sessions.get? (digest token) with
    | none => (.invalid, store.purgeExpired now)
    | some record =>
      if now ≥ record.expiresAt then
        (.expired, purgeExpired now { store with sessions := store.sessions.erase (digest token) })
      else (.valid (record.context now), store.purgeExpired now)

/-- Forget a session. -/
def invalidate (digest : String → Digest) (token : String) (store : SessionStore Digest) :
    Bool × SessionStore Digest :=
  if !opaqueTokenIsValid token then (false, store)
  else
    ((store.sessions.get? (digest token)).isSome,
      { store with sessions := store.sessions.erase (digest token) })

/-- `active_count` -/
def activeCount (now : ℚ) (store : SessionStore Digest) : Nat × SessionStore Digest :=
  ((store.purgeExpired now).sessions.size, store.purgeExpired now)

end SessionStore

end Aurora.ControlPlane
