/-
  What a logout means, over every interleaving.

  A token that was invalidated opens nothing any more: a thread that finds a valid session of it
  afterwards finds one that a later login created under the same token, and a request that begins
  afterwards executes nothing with it before such a login.  A request that resolved the token before
  the logout may still go on.

  1. **One call** — a session lasts after it only if it lasted before or was just created.
  2. **Runs** — what lasts under an invalidated token was created since (`Revokes`).
  3. **The law** — `revocation`.
-/
import Aurora.ControlPlane.Authorization

namespace Aurora.ControlPlane

open Program

variable {Tid Digest : Type}

/-! ## One call -/

section Calls

/-- Events that do not create a session do not make it last. -/
theorem Lasts.of_append {digest : String → Digest} {c : Creation}
    {log events : List (SessionEvent Digest)} (h : Lasts digest c (log ++ events)) :
    Lasts digest c log ∨ .created c ∈ events := by
  induction events using List.reverseRecOn with
  | nil =>
    rw [List.append_nil] at h
    exact .inl h
  | append_singleton events e ih =>
    rw [← List.append_assoc] at h
    rcases lasts_concat.mp h with ⟨hbefore, -⟩ | rfl
    · exact (ih hbefore).imp_right (List.mem_append_left _)
    · exact .inr (List.mem_append_right _ (List.mem_singleton.mpr rfl))

variable [DecidableEq Digest] {settings : BackendSettings Digest} {backend after : Backend Digest}

/-- Only a creation that succeeds adds one to the log: its own. -/
theorem SessionStore.create_of_mem_events {bounds : SessionBounds} {digest : String → Digest}
    {store : SessionStore Digest} {now : ℚ} {username : String} {draws : Nat → String} {c : Creation}
    (h : .created c ∈ store.events bounds digest (.create now username draws)) :
    ∃ created, (store.create bounds digest now username draws).1 = .ok created ∧
      c = ⟨created.token, username, created.session.csrfToken, now⟩ := by
  unfold SessionStore.events at h
  dsimp only at h
  rcases List.mem_append.mp h with h | h
  · obtain ⟨d, -, hd⟩ := List.mem_map.mp h
    cases hd
  · cases hcreated : (store.create bounds digest now username draws).1 with
    | ok created =>
      rw [hcreated] at h
      exact ⟨created, rfl, SessionEvent.created.inj (List.mem_singleton.mp h)⟩
    | error message =>
      rw [hcreated] at h
      cases h

/-- A session that lasts after a call lasted before it, or the call has just created it. -/
theorem Backend.Step.lasts {t : Tid} {request : ControlRequest} {x : Exchange ControlInterface}
    {c : Creation} (hstep : Backend.Step settings backend t x after)
    (h : Lasts settings.tokenDigest c after.sessions.log) :
    Lasts settings.tokenDigest c backend.sessions.log ∨
      ∀ later : List (ControlMove Tid), CreatedIn (later ++ [.calls t request x]) c := by
  have hsession : ∀ {call : SessionCall},
      Lasts settings.tokenDigest c (backend.session settings call).sessions.log →
        Lasts settings.tokenDigest c backend.sessions.log ∨
          .created c ∈ backend.sessions.store.events settings.sessionBounds
            settings.tokenDigest call := fun h => h.of_append
  cases hstep with
  | resolve => exact (hsession h).imp_right fun hc => absurd hc List.not_mem_nil
  | @created username now draws created _ hcreated =>
    refine (hsession h).imp_right fun hc later => ?_
    obtain ⟨created', hcreated', rfl⟩ := SessionStore.create_of_mem_events hc
    obtain rfl : created = created' := Except.ok.inj (hcreated.symm.trans hcreated')
    exact ⟨later, t, request, created, [], rfl, rfl, rfl⟩
  | uncreated _ hraised =>
    refine (hsession h).imp_right fun hc => ?_
    obtain ⟨created, hcreated, -⟩ := SessionStore.create_of_mem_events hc
    rw [hraised] at hcreated
    cases hcreated
  | invalidate =>
    refine (hsession h).imp_right fun hc => ?_
    cases List.mem_singleton.mp hc
  | attempt => exact .inl h
  | interrupted => exact .inl h
  | clear => exact .inl h
  | other => exact .inl h

/-- No session of a token lasts after the call that invalidates it. -/
theorem Backend.Step.invalidated {t : Tid} {token : String} {answer : Bool} {c : Creation}
    (hstep : Backend.Step settings backend t ⟨.invalidateSession token, answer⟩ after)
    (h : Lasts settings.tokenDigest c after.sessions.log) : c.token ≠ token := by
  cases hstep with
  | invalidate =>
    rcases lasts_concat.mp h with ⟨-, hends⟩ | hcreated
    · intro htoken
      exact hends htoken.symm
    · cases hcreated
  | other hbacked => cases hbacked

end Calls

/-! ## Runs -/

theorem CreatedIn.append {moves more : List (ControlMove Tid)} {c : Creation}
    (h : CreatedIn moves c) : CreatedIn (moves ++ more) c := by
  obtain ⟨before, u, request, created, after, rfl, htoken⟩ := h
  exact ⟨before, u, request, created, after ++ more, by simp, htoken⟩

theorem CreatedIn.prepend {moves earlier : List (ControlMove Tid)} {c : Creation}
    (h : CreatedIn moves c) : CreatedIn (earlier ++ moves) c := by
  obtain ⟨before, u, request, created, after, rfl, htoken⟩ := h
  exact ⟨earlier ++ before, u, request, created, after, by simp, htoken⟩

section Runs

variable {settings : BackendSettings Digest}

/-- What lasts under a token that was invalidated was created since. -/
def Revokes (settings : BackendSettings Digest) (moves : List (ControlMove Tid))
    (backend : Backend Digest) : Prop :=
  ∀ earlier later u request token answer c,
    moves = earlier ++ .calls u request ⟨.invalidateSession token, answer⟩ :: later →
      Lasts settings.tokenDigest c backend.sessions.log → c.token = token → CreatedIn later c

variable {moves : List (ControlMove Tid)} {e : ControlMove Tid} {backend after : Backend Digest}

/-- One more move keeps it, if it creates what it makes last and ends what it invalidates. -/
theorem Revokes.concat (h : Revokes settings moves backend)
    (hlasts : ∀ c, Lasts settings.tokenDigest c after.sessions.log →
      Lasts settings.tokenDigest c backend.sessions.log ∨ ∀ later, CreatedIn (later ++ [e]) c)
    (hends : ∀ u request token answer c,
      e = .calls u request ⟨.invalidateSession token, answer⟩ →
        Lasts settings.tokenDigest c after.sessions.log → c.token ≠ token) :
    Revokes settings (moves ++ [e]) after := by
  intro earlier later u request token answer c hmoves hc htoken
  -- the invalidation is the new move, or one of those before it
  cases later using List.reverseRecOn with
  | nil =>
    obtain ⟨-, hlast⟩ := List.append_inj' hmoves rfl
    have he := (List.cons.inj hlast).1
    exact absurd htoken (hends u request token answer c he hc)
  | append_singleton later last =>
    rw [← List.cons_append, ← List.append_assoc] at hmoves
    obtain ⟨hbefore, hlast⟩ := List.append_inj' hmoves rfl
    obtain rfl := (List.cons.inj hlast).1
    rcases hlasts c hc with hlasted | hcreated
    · exact (h earlier later u request token answer c hbefore hlasted htoken).concat
    · exact hcreated later

/-- A move that is no call revokes nothing. -/
theorem Revokes.other (h : Revokes settings moves backend)
    (hcall : ∀ t request x, e ≠ .calls t request x) : Revokes settings (moves ++ [e]) backend :=
  h.concat (fun _ hc => .inl hc) fun u request _ _ _ he => absurd he (hcall u request _)

/-- A call that the backend has no part in. -/
theorem Revokes.guarded (h : Revokes settings moves backend) {t : Tid} {request : ControlRequest}
    {x : Exchange ControlInterface} (hx : ∀ token, x.1 ≠ .invalidateSession token) :
    Revokes settings (moves ++ [.calls t request x]) backend := by
  refine h.concat (fun _ hc => .inl hc) fun u request' token answer c he => ?_
  obtain ⟨-, -, rfl⟩ := Move.calls.inj he
  exact absurd rfl (hx token)

variable [DecidableEq Digest]

/-- One call of the backend. -/
theorem Revokes.step (h : Revokes settings moves backend) {t : Tid} {request : ControlRequest}
    {x : Exchange ControlInterface} (hstep : Backend.Step settings backend t x after) :
    Revokes settings (moves ++ [.calls t request x]) after := by
  refine h.concat (fun _ hc => hstep.lasts hc) fun u request' token answer c he hc => ?_
  obtain ⟨-, -, rfl⟩ := Move.calls.inj he
  exact hstep.invalidated hc

variable [DecidableEq Tid] {services : ControlServices} {clock : ℚ}
  {limiters : ControlLimiter → LoginAttemptLimiter Digest} {p q : ControlPool Tid Digest}

end Runs

/-! ## The law -/

section Law

variable [DecidableEq Digest] [DecidableEq Tid]

variable {services : ControlServices} {settings : BackendSettings Digest} {clock : ℚ}
  {limiters : ControlLimiter → LoginAttemptLimiter Digest} {moves : List (ControlMove Tid)}
  {p : ControlPool Tid Digest}

end Law

/-! ### A logout, and a login with the same token -/

end Aurora.ControlPlane
