/-
  What the attempt limiter grants over a run of requests.

  The grants of a run are kept beside the limiter.  The global stamps are the grants of the window,
  and every tracked client has a grant in it (`Accounts`), so the table is never larger than the
  window is full.  As long as no request evicts a client, a client's stamps are exactly its grants
  of the window (`Faithful`), and the window of any client stays within its limit.

  Where the global limit leaves room beyond a full table, a client can be evicted and come back: then
  some run grants it more than its limit (`attempts_unbounded`).
-/
import Mathlib.Data.List.Perm.Subperm
import Mathlib.Tactic.Linarith
import Aurora.ControlPlane.Limiter

namespace Aurora.ControlPlane

open LoginAttemptLimiter

/-! ## Runs of requests -/

/-- A request to the limiter. -/
inductive LimiterRequest (Client : Type)
  | attempt (client : Client)
  | count (client : Client)
  | tracked

/-- A limiter with the attempts it granted so far. -/
structure LimiterRun (Client Digest : Type) where
  limiter : LoginAttemptLimiter Digest
  grants : List (Client × ℚ)

variable {Client Digest : Type} [DecidableEq Digest]

namespace LimiterRun

/-- A run that has not begun. -/
def start : LimiterRun Client Digest := ⟨.fresh, []⟩

/-- One request at one reading of the clock. -/
def step (bounds : LimiterBounds) (digest : Client → Digest) (run : LimiterRun Client Digest) :
    ℚ × LimiterRequest Client → LimiterRun Client Digest
  | (now, .attempt client) =>
    let (granted, limiter) := run.limiter.beginAttempt bounds now (digest client)
    ⟨limiter, if granted then run.grants ++ [(client, now)] else run.grants⟩
  | (now, .count client) => ⟨(run.limiter.attemptCount bounds now (digest client)).2, run.grants⟩
  | (now, .tracked) => ⟨(run.limiter.trackedClientCount bounds now).2, run.grants⟩

/-- The requests of a list, in order. -/
def after (bounds : LimiterBounds) (digest : Client → Digest) (run : LimiterRun Client Digest)
    (requests : List (ℚ × LimiterRequest Client)) : LimiterRun Client Digest :=
  requests.foldl (step bounds digest) run

/-- The request makes the limiter drop a client to take in another one. -/
def Evicts (bounds : LimiterBounds) (digest : Client → Digest) (run : LimiterRun Client Digest) :
    ℚ × LimiterRequest Client → Prop
  | (now, .attempt client) =>
    let cleaned := run.limiter.cleanup bounds now
    cleaned.globalAttempts.length < bounds.globalAttemptLimit ∧
      cleaned.records.get? (digest client) = none ∧ bounds.maximumClients ≤ cleaned.records.size
  | _ => False

/-- No request of the list evicts a client. -/
def NeverEvicts (bounds : LimiterBounds) (digest : Client → Digest) :
    LimiterRun Client Digest → List (ℚ × LimiterRequest Client) → Prop
  | _, [] => True
  | run, request :: requests =>
    ¬run.Evicts bounds digest request ∧ NeverEvicts bounds digest (run.step bounds digest request)
      requests

/-- How often a client was granted an attempt between two readings, both included. -/
def granted [DecidableEq Client] (run : LimiterRun Client Digest) (client : Client)
    (first last : ℚ) : Nat :=
  (run.grants.filter fun g => g.1 = client ∧ first ≤ g.2 ∧ g.2 ≤ last).length

end LimiterRun

/-- The readings of the clock never fall. -/
def ClockNondecreasing (requests : List (ℚ × LimiterRequest Client)) : Prop :=
  requests.Pairwise fun a b => a.1 ≤ b.1

/-! ## Stamps in the window -/

variable {bounds : LimiterBounds} {now later : ℚ}

/-- The stamps that are kept are those inside the window. -/
theorem mem_live {stamps : List ℚ} {a : ℚ} :
    a ∈ live bounds now stamps ↔ a ∈ stamps ∧ now - bounds.windowSeconds < a := by
  simp [live]

/-- A later window drops all that an earlier one dropped. -/
theorem live_live (h : now ≤ later) (stamps : List ℚ) :
    live bounds later (live bounds now stamps) = live bounds later stamps := by
  unfold live
  rw [List.filter_filter]
  refine List.filter_congr fun a _ => ?_
  by_cases ha : later - bounds.windowSeconds < a
  · have hnow : now - bounds.windowSeconds < a := by linarith
    simp [ha, hnow]
  · simp [ha]

theorem live_self (stamps : List ℚ) :
    live bounds now (live bounds now stamps) = live bounds now stamps :=
  live_live (le_refl now) stamps

/-- A stamp of this moment is in the window. -/
theorem live_append_now (stamps : List ℚ) :
    live bounds now (stamps ++ [now]) = live bounds now stamps ++ [now] := by
  have hnow : now - bounds.windowSeconds < now := by
    have := bounds.windowPositive
    linarith
  unfold live
  rw [List.filter_append]
  simp [hnow]

/-- The stamps of the grants to one digest. -/
def stampsOf (digest : Client → Digest) (d : Digest) (grants : List (Client × ℚ)) : List ℚ :=
  (grants.filter fun g => digest g.1 = d).map Prod.snd

/-- A grant adds its stamp to its own client. -/
theorem stampsOf_append_self (digest : Client → Digest) (client : Client)
    (grants : List (Client × ℚ)) :
    stampsOf digest (digest client) (grants ++ [(client, now)]) =
      stampsOf digest (digest client) grants ++ [now] := by
  simp [stampsOf]

theorem stampsOf_append_other (digest : Client → Digest) {client : Client} {d : Digest}
    (h : digest client ≠ d) (grants : List (Client × ℚ)) :
    stampsOf digest d (grants ++ [(client, now)]) = stampsOf digest d grants := by
  simp [stampsOf, h]

/-! ## The table of clients -/

/-- What a refreshed record was, and what it is now. -/
theorem refreshed_eq_some {record r : AttemptRecord} (h : refreshed bounds now record = some r) :
    r.attempts = live bounds now record.attempts ∧ r.attempts ≠ [] := by
  unfold refreshed at h
  split at h
  · cases h
  · rename_i hne
    cases h
    exact ⟨rfl, hne⟩

/-- The stamps a limiter holds for a digest. -/
def heldFor (limiter : LoginAttemptLimiter Digest) (d : Digest) : List ℚ :=
  match limiter.records.get? d with
  | some record => record.attempts
  | none => []

/-- The cleanup takes from every client what left the window. -/
theorem heldFor_cleanup (limiter : LoginAttemptLimiter Digest) (d : Digest) :
    heldFor (limiter.cleanup bounds now) d = live bounds now (heldFor limiter d) := by
  unfold heldFor
  show (match (limiter.records.collect (refreshed bounds now)).get? d with
    | some record => record.attempts
    | none => []) = _
  rw [Dict.get?_collect]
  cases limiter.records.get? d with
  | none => rfl
  | some record =>
    show (match refreshed bounds now record with
      | some r => r.attempts
      | none => []) = _
    cases hr : refreshed bounds now record with
    | none =>
      unfold refreshed at hr
      split at hr
      · rename_i he
        exact he.symm
      · cases hr
    | some r => exact (refreshed_eq_some hr).1

/-- An eviction changes no record it keeps. -/
theorem evict_get? {records : Dict Digest AttemptRecord} {d : Digest} {r : AttemptRecord}
    (h : (evict bounds records).get? d = some r) : records.get? d = some r := by
  unfold evict at h
  split at h
  · split at h
    · rw [Dict.get?_erase] at h
      split at h
      · cases h
      · exact h
    · exact h
  · exact h

/-- After an eviction a full table has room for one more client. -/
theorem evict_size (records : Dict Digest AttemptRecord)
    (h : records.size ≤ bounds.maximumClients) :
    (evict bounds records).size + 1 ≤ bounds.maximumClients := by
  have hpos := bounds.clientsPositive
  unfold evict
  split
  · split
    · rename_i oldest hl
      have := Dict.size_erase_lt (Dict.least?_mem hl)
      omega
    · rename_i hl
      have := Dict.least?_eq_none hl
      omega
  · omega

/-- Where there is room nothing is evicted. -/
theorem evict_of_room {records : Dict Digest AttemptRecord}
    (h : records.size < bounds.maximumClients) : evict bounds records = records := by
  unfold evict
  rw [if_neg (by omega)]

variable {limiter : LoginAttemptLimiter Digest} {d j : Digest}

/-- The client's own stamps, before its attempt. -/
theorem recordFor_attempts :
    (recordFor bounds now d limiter.records).1.attempts = heldFor limiter d := by
  unfold recordFor heldFor
  split <;> simp_all

/-- The other clients' records are from before. -/
theorem recordFor_get?_other {r : AttemptRecord} (hj : j ≠ d)
    (h : (recordFor bounds now d limiter.records).2.get? j = some r) :
    limiter.records.get? j = some r := by
  unfold recordFor at h
  split at h
  · exact h
  · rw [Dict.get?_set, if_neg hj] at h
    exact evict_get? h

/-- Without an eviction all of them stay. -/
theorem recordFor_get?_kept (hj : j ≠ d)
    (h : limiter.records.get? d = none → limiter.records.size < bounds.maximumClients) :
    (recordFor bounds now d limiter.records).2.get? j = limiter.records.get? j := by
  unfold recordFor
  split
  · rfl
  · rename_i hnone
    rw [Dict.get?_set, if_neg hj, evict_of_room (h hnone)]

theorem recordFor_mem : d ∈ (recordFor bounds now d limiter.records).2.keys := by
  rw [Dict.mem_keys_iff]
  unfold recordFor
  split
  · rename_i record h
    exact ⟨record, h⟩
  · exact ⟨_, Dict.get?_set_self ..⟩

/-- A record is found or made within the bound. -/
theorem recordFor_size (h : limiter.records.size ≤ bounds.maximumClients) :
    (recordFor bounds now d limiter.records).2.size ≤ bounds.maximumClients := by
  unfold recordFor
  split
  · exact h
  · rename_i hnone
    have hnot : d ∉ (evict bounds limiter.records).keys := by
      rw [← Dict.get?_eq_none]
      cases hr : (evict bounds limiter.records).get? d with
      | none => rfl
      | some r =>
        rw [evict_get? hr] at hnone
        cases hnone
    show ((evict bounds limiter.records).set d ⟨[], now⟩).size ≤ _
    rw [Dict.size_set_of_not_mem hnot]
    exact evict_size _ h

/-! ## What a limiter accounts for -/

variable {digest : Client → Digest} {grants : List (Client × ℚ)} {client : Client}

/-- The limiter after a request at `now`, against the grants so far. -/
structure Accounts (bounds : LimiterBounds) (digest : Client → Digest) (now : ℚ)
    (limiter : LoginAttemptLimiter Digest) (grants : List (Client × ℚ)) : Prop where
  past : ∀ g ∈ grants, g.2 ≤ now
  global : limiter.globalAttempts = live bounds now (grants.map Prod.snd)
  tracked : ∀ d record, limiter.records.get? d = some record → record.attempts ≠ []
  held : ∀ d, ∀ a ∈ heldFor limiter d, a ∈ live bounds now (stampsOf digest d grants)
  size : limiter.records.size ≤ bounds.maximumClients

theorem accounts_fresh : Accounts bounds digest now .fresh [] where
  past := fun g hg => absurd hg List.not_mem_nil
  global := rfl
  tracked := by
    intro d record h
    cases h
  held := fun d a ha => absurd ha List.not_mem_nil
  size := Nat.zero_le _

/-- The cleanup brings the accounts to a later moment. -/
theorem Accounts.cleanup (h : Accounts bounds digest now limiter grants) (hle : now ≤ later) :
    Accounts bounds digest later (limiter.cleanup bounds later) grants where
  past := fun g hg => (h.past g hg).trans hle
  global := by
    show live bounds later limiter.globalAttempts = _
    rw [h.global, live_live hle]
  tracked := by
    intro d record hr
    have hc : (limiter.records.collect (refreshed bounds later)).get? d = some record := hr
    rw [Dict.get?_collect] at hc
    obtain ⟨before, -, hb⟩ := Option.bind_eq_some_iff.mp hc
    exact (refreshed_eq_some hb).2
  held := by
    intro d a ha
    rw [heldFor_cleanup] at ha
    obtain ⟨ha, hlater⟩ := mem_live.mp ha
    exact mem_live.mpr ⟨(mem_live.mp (h.held d a ha)).1, hlater⟩
  size := (Dict.size_collect_le _ _).trans h.size

/-- Every tracked client has a grant in the window: the table is no larger than the window. -/
theorem Accounts.size_le_global (h : Accounts bounds digest now limiter grants) :
    limiter.records.size ≤ limiter.globalAttempts.length := by
  have hsub : limiter.records.keys ⊆
      (grants.filter fun g => now - bounds.windowSeconds < g.2).map (fun g => digest g.1) := by
    intro d hd
    obtain ⟨record, hr⟩ := Dict.mem_keys_iff.mp hd
    obtain ⟨a, ha⟩ := List.exists_mem_of_ne_nil _ (h.tracked d record hr)
    have hheld : a ∈ heldFor limiter d := by
      unfold heldFor
      rw [hr]
      exact ha
    obtain ⟨hstamp, hlive⟩ := mem_live.mp (h.held d a hheld)
    obtain ⟨g, hg, rfl⟩ := List.mem_map.mp hstamp
    obtain ⟨hmem, hdigest⟩ := List.mem_filter.mp hg
    exact List.mem_map.mpr ⟨g, List.mem_filter.mpr ⟨hmem, decide_eq_true hlive⟩,
      of_decide_eq_true hdigest⟩
  have hlength := (List.subperm_of_subset limiter.records.distinct hsub).length_le
  have hglobal : limiter.globalAttempts.length =
      (grants.filter fun g => now - bounds.windowSeconds < g.2).length := by
    rw [h.global]
    unfold live
    rw [List.filter_map, List.length_map]
    rfl
  rw [hglobal, ← Dict.length_keys]
  exact hlength.trans_eq (List.length_map ..)

/-- One more grant: the stamps of the window, and those of the other digests. -/
theorem mem_stampsOf_append {a : ℚ} (h : a ∈ live bounds now (stampsOf digest d grants)) :
    a ∈ live bounds now (stampsOf digest d (grants ++ [(client, now)])) := by
  obtain ⟨ha, hlive⟩ := mem_live.mp h
  refine mem_live.mpr ⟨?_, hlive⟩
  obtain ⟨g, hg, rfl⟩ := List.mem_map.mp ha
  obtain ⟨hmem, hdigest⟩ := List.mem_filter.mp hg
  exact List.mem_map_of_mem (List.mem_filter.mpr ⟨List.mem_append_left _ hmem, hdigest⟩)

theorem heldFor_set (records : Dict Digest AttemptRecord) (record : AttemptRecord)
    (stamps : List ℚ) : heldFor ⟨records.set d record, stamps⟩ j =
      if j = d then record.attempts else heldFor ⟨records, stamps⟩ j := by
  unfold heldFor
  dsimp only
  rw [Dict.get?_set]
  by_cases h : j = d
  · rw [if_pos h, if_pos h]
  · rw [if_neg h, if_neg h]

/-- The stamps another client holds after an admission were its stamps before. -/
theorem heldFor_recordFor {a : ℚ} {stamps : List ℚ} (hj : j ≠ d)
    (h : a ∈ heldFor ⟨(recordFor bounds now d limiter.records).2, stamps⟩ j) :
    a ∈ heldFor limiter j := by
  unfold heldFor at h
  split at h
  · rename_i record hr
    have hbefore := recordFor_get?_other hj hr
    unfold heldFor
    rw [hbefore]
    exact h
  · exact absurd h List.not_mem_nil

theorem recordFor_set_size (h : limiter.records.size ≤ bounds.maximumClients)
    (record : AttemptRecord) :
    ((recordFor bounds now d limiter.records).2.set d record).size ≤ bounds.maximumClients := by
  rw [Dict.size_set_of_mem recordFor_mem]
  exact recordFor_size h

/-- An attempt keeps the accounts, granted or not. -/
theorem Accounts.reserve (h : Accounts bounds digest now limiter grants) :
    Accounts bounds digest now (limiter.reserve bounds now (digest client)).2
      (if (limiter.reserve bounds now (digest client)).1 then grants ++ [(client, now)]
        else grants) := by
  have hmine : ∀ a ∈ live bounds now (recordFor bounds now (digest client) limiter.records).1.attempts,
      a ∈ live bounds now (stampsOf digest (digest client) grants) := by
    intro a ha
    rw [recordFor_attempts] at ha
    exact h.held _ a (mem_live.mp ha).1
  unfold LoginAttemptLimiter.reserve
  dsimp only
  split
  -- refused: the record is stored, and it is not empty since the limit is positive
  · rename_i hfull
    refine ⟨h.past, h.global, ?_, ?_, recordFor_set_size h.size _⟩
    · intro d record hr
      rw [Dict.get?_set] at hr
      split at hr
      · obtain rfl := Option.some.inj hr
        intro hnil
        have hpos := bounds.limitPositive
        have hzero := congrArg List.length hnil
        dsimp only [List.length_nil] at hzero
        omega
      · rename_i hj
        exact h.tracked d record (recordFor_get?_other hj hr)
    · intro j a ha
      rw [heldFor_set] at ha
      split at ha
      · rename_i hj
        exact hj ▸ hmine a ha
      · rename_i hj
        exact h.held j a (heldFor_recordFor hj ha)
  -- granted: one stamp more, for the client and for all
  · refine ⟨?_, ?_, ?_, ?_, recordFor_set_size h.size _⟩
    · intro g hg
      rcases List.mem_append.mp hg with hg | hg
      · exact h.past g hg
      · rw [List.mem_singleton.mp hg]
    · rw [if_pos rfl, List.map_append, List.map_singleton, live_append_now, ← h.global]
    · intro d record hr
      rw [Dict.get?_set] at hr
      split at hr
      · obtain rfl := Option.some.inj hr
        exact List.append_ne_nil_of_right_ne_nil _ (List.cons_ne_nil _ _)
      · rename_i hj
        exact h.tracked d record (recordFor_get?_other hj hr)
    · intro j a ha
      rw [if_pos rfl]
      rw [heldFor_set] at ha
      split at ha
      · rename_i hj
        subst hj
        rcases List.mem_append.mp ha with ha | ha
        · exact mem_stampsOf_append (hmine a ha)
        · rw [stampsOf_append_self, live_append_now]
          exact List.mem_append_right _ ha
      · rename_i hj
        exact mem_stampsOf_append (h.held j a (heldFor_recordFor hj ha))

/-! ## Runs without an eviction -/

/-- The limiter holds exactly the stamps of the window, and no window was overfull. -/
structure Faithful (bounds : LimiterBounds) (digest : Client → Digest) (now : ℚ)
    (limiter : LoginAttemptLimiter Digest) (grants : List (Client × ℚ)) : Prop where
  exact : ∀ d, heldFor limiter d = live bounds now (stampsOf digest d grants)
  windows : ∀ d first last, last - first < bounds.windowSeconds →
    ((stampsOf digest d grants).filter fun a => first ≤ a ∧ a ≤ last).length ≤ bounds.attemptLimit

theorem faithful_fresh : Faithful bounds digest now .fresh [] where
  exact := fun _ => rfl
  windows := fun _ _ _ _ => Nat.zero_le _

/-- A cleanup keeps the account faithful. -/
theorem Faithful.cleanup (h : Faithful bounds digest now limiter grants) (hle : now ≤ later) :
    Faithful bounds digest later (limiter.cleanup bounds later) grants where
  exact := by
    intro d
    rw [heldFor_cleanup, h.exact, live_live hle]
  windows := h.windows

/-- The stamps of a window that ends now are in the limiter's window. -/
theorem length_window_le (stamps : List ℚ) {first last : ℚ}
    (hlast : now ≤ last) (hwidth : last - first < bounds.windowSeconds) :
    (stamps.filter fun a => first ≤ a ∧ a ≤ last).length ≤ (live bounds now stamps).length := by
  unfold live
  refine (List.monotone_filter_right stamps fun a ha => ?_).length_le
  obtain ⟨hfirst, -⟩ := of_decide_eq_true ha
  exact decide_eq_true (by linarith)

/-- A grant keeps every window within the limit. -/
theorem Faithful.windows_append (h : Faithful bounds digest now limiter grants)
    (hroom : (live bounds now (stampsOf digest (digest client) grants)).length <
      bounds.attemptLimit) :
    ∀ d first last, last - first < bounds.windowSeconds →
      ((stampsOf digest d (grants ++ [(client, now)])).filter
        fun a => first ≤ a ∧ a ≤ last).length ≤ bounds.attemptLimit := by
  intro d first last hwidth
  by_cases hd : digest client = d
  · subst hd
    rw [stampsOf_append_self, List.filter_append, List.length_append]
    by_cases hin : first ≤ now ∧ now ≤ last
    · -- the new stamp is the last of its window, so the others are still in the limiter's
      have hbefore := length_window_le (stampsOf digest (digest client) grants) hin.2 hwidth
      have hone : ([now].filter fun a => first ≤ a ∧ a ≤ last).length ≤ 1 :=
        List.length_filter_le _ _
      omega
    · have hnone : [now].filter (fun a => first ≤ a ∧ a ≤ last) = [] := by
        simpa using hin
      rw [hnone, List.length_nil, Nat.add_zero]
      exact h.windows _ _ _ hwidth
  · rw [stampsOf_append_other digest hd]
    exact h.windows _ _ _ hwidth

/-- An attempt that evicts nobody keeps the limiter faithful. -/
theorem Faithful.reserve (h : Faithful bounds digest now limiter grants)
    (hroom : limiter.records.get? (digest client) = none →
      limiter.records.size < bounds.maximumClients) :
    Faithful bounds digest now (limiter.reserve bounds now (digest client)).2
      (if (limiter.reserve bounds now (digest client)).1 then grants ++ [(client, now)]
        else grants) := by
  have hmine : live bounds now (recordFor bounds now (digest client) limiter.records).1.attempts =
      live bounds now (stampsOf digest (digest client) grants) := by
    rw [recordFor_attempts, h.exact, live_self]
  have hothers : ∀ j stamps, j ≠ digest client →
      heldFor ⟨(recordFor bounds now (digest client) limiter.records).2, stamps⟩ j =
        live bounds now (stampsOf digest j grants) := by
    intro j stamps hj
    rw [← h.exact j]
    unfold heldFor
    dsimp only
    rw [recordFor_get?_kept hj hroom]
  unfold LoginAttemptLimiter.reserve
  dsimp only
  split
  · refine ⟨?_, h.windows⟩
    intro j
    rw [heldFor_set]
    split
    · rename_i hj
      rw [hj]
      exact hmine
    · rename_i hj
      exact hothers j _ hj
  · rename_i hbelow
    rw [hmine] at hbelow
    refine ⟨?_, ?_⟩
    · intro j
      rw [if_pos rfl, heldFor_set]
      split
      · rename_i hj
        rw [hj, stampsOf_append_self, live_append_now]
        exact congrArg (· ++ [now]) hmine
      · rename_i hj
        rw [stampsOf_append_other digest (Ne.symm hj)]
        exact hothers j _ hj
    · rw [if_pos rfl]
      exact h.windows_append (by omega)

/-! ## Steps and runs -/

namespace LimiterRun

variable {run : LimiterRun Client Digest} {request : ℚ × LimiterRequest Client}
  {requests : List (ℚ × LimiterRequest Client)}

/-- A limiter that refused or counted is the cleaned one. -/
theorem step_accounts (h : Accounts bounds digest now run.limiter run.grants)
    (hle : now ≤ request.1) : Accounts bounds digest request.1
      (run.step bounds digest request).limiter (run.step bounds digest request).grants := by
  obtain ⟨later, request⟩ := request
  replace hle : now ≤ later := hle
  have hclean := h.cleanup hle
  cases request with
  | attempt client =>
    show Accounts bounds digest later (run.limiter.beginAttempt bounds later (digest client)).2
      (if (run.limiter.beginAttempt bounds later (digest client)).1 then _ else _)
    unfold beginAttempt
    dsimp only
    split
    · exact hclean
    · exact hclean.reserve
  | count client =>
    show Accounts bounds digest later (run.limiter.attemptCount bounds later (digest client)).2 _
    unfold attemptCount
    split <;> exact hclean
  | tracked => exact hclean

/-- An attempt that evicts nobody keeps it faithful. -/
theorem step_faithful (h : Faithful bounds digest now run.limiter run.grants)
    (hle : now ≤ request.1) (hroom : ¬run.Evicts bounds digest request) :
    Faithful bounds digest request.1 (run.step bounds digest request).limiter
      (run.step bounds digest request).grants := by
  obtain ⟨later, request⟩ := request
  replace hle : now ≤ later := hle
  have hclean := h.cleanup hle
  cases request with
  | attempt client =>
    show Faithful bounds digest later (run.limiter.beginAttempt bounds later (digest client)).2
      (if (run.limiter.beginAttempt bounds later (digest client)).1 then _ else _)
    unfold beginAttempt
    dsimp only
    split
    · exact hclean
    · rename_i hglobal
      refine hclean.reserve fun hnone => ?_
      have hnot : ¬bounds.maximumClients ≤ (run.limiter.cleanup bounds later).records.size :=
        fun hfull => hroom ⟨by omega, hnone, hfull⟩
      omega
  | count client =>
    show Faithful bounds digest later (run.limiter.attemptCount bounds later (digest client)).2 _
    unfold attemptCount
    split <;> exact hclean
  | tracked => exact hclean

/-- The table never holds a client without a grant, so a small enough limit never fills it. -/
theorem step_roomy (h : Accounts bounds digest now run.limiter run.grants) (hle : now ≤ request.1)
    (hsmall : bounds.globalAttemptLimit ≤ bounds.maximumClients) :
    ¬run.Evicts bounds digest request := by
  obtain ⟨later, request⟩ := request
  replace hle : now ≤ later := hle
  cases request with
  | attempt client =>
    rintro ⟨hglobal, -, hfull⟩
    have hsize := (h.cleanup hle).size_le_global
    omega
  | count client => exact id
  | tracked => exact id

/-- Accounts along a run: there is a last reading they hold at. -/
theorem after_accounts (h : Accounts bounds digest now run.limiter run.grants)
    (hclock : ClockNondecreasing requests) (hlater : ∀ r ∈ requests, now ≤ r.1) :
    ∃ last, Accounts bounds digest last (after bounds digest run requests).limiter
      (after bounds digest run requests).grants := by
  induction requests generalizing run now with
  | nil => exact ⟨now, h⟩
  | cons request requests ih =>
    obtain ⟨hfirst, hrest⟩ := List.pairwise_cons.mp hclock
    have hstep := step_accounts h (hlater request List.mem_cons_self)
    exact ih hstep hrest hfirst

theorem after_faithful (h : Faithful bounds digest now run.limiter run.grants)
    (hclock : ClockNondecreasing requests) (hlater : ∀ r ∈ requests, now ≤ r.1)
    (hroom : NeverEvicts bounds digest run requests) :
    ∃ last, Faithful bounds digest last (after bounds digest run requests).limiter
      (after bounds digest run requests).grants := by
  induction requests generalizing run now with
  | nil => exact ⟨now, h⟩
  | cons request requests ih =>
    obtain ⟨hfirst, hrest⟩ := List.pairwise_cons.mp hclock
    have hstep := step_faithful h (hlater request List.mem_cons_self) hroom.1
    exact ih hstep hrest hfirst hroom.2

/-- With a global limit below the table's size no run evicts a client. -/
theorem neverEvicts (h : Accounts bounds digest now run.limiter run.grants)
    (hclock : ClockNondecreasing requests) (hlater : ∀ r ∈ requests, now ≤ r.1)
    (hsmall : bounds.globalAttemptLimit ≤ bounds.maximumClients) :
    NeverEvicts bounds digest run requests := by
  induction requests generalizing run now with
  | nil => trivial
  | cons request requests ih =>
    obtain ⟨hfirst, hrest⟩ := List.pairwise_cons.mp hclock
    have hle := hlater request List.mem_cons_self
    exact ⟨step_roomy h hle hsmall, ih (step_accounts h hle) hrest hfirst⟩

/-- The grants to a client are grants to its digest. -/
theorem granted_le [DecidableEq Client] (client : Client) (first last : ℚ) :
    run.granted client first last ≤
      ((stampsOf digest (digest client) run.grants).filter
        fun a => first ≤ a ∧ a ≤ last).length := by
  unfold granted stampsOf
  rw [List.filter_map, List.length_map, List.filter_filter]
  refine (List.monotone_filter_right run.grants fun g hg => ?_).length_le
  obtain ⟨rfl, hwindow⟩ := of_decide_eq_true hg
  simpa using hwindow

/-- The first reading of a run is a lower bound of all of them. -/
theorem exists_start (hclock : ClockNondecreasing requests) :
    ∃ now, ∀ r ∈ requests, now ≤ r.1 := by
  cases requests with
  | nil => exact ⟨0, fun r hr => absurd hr List.not_mem_nil⟩
  | cons request requests =>
    obtain ⟨hfirst, -⟩ := List.pairwise_cons.mp hclock
    refine ⟨request.1, fun r hr => ?_⟩
    rcases List.mem_cons.mp hr with rfl | hr
    · exact le_refl _
    · exact hfirst r hr

end LimiterRun

open LimiterRun

/-- The bounds of the attempt limiter over every run with a nondecreasing clock.

The table of clients stays within its size.  In a run whose requests evict no client, no client is
granted more than the limit in a window.  Where the global limit is at most the size of the table,
no run evicts a client. -/
theorem attempts_bounded [DecidableEq Client] (bounds : LimiterBounds) (digest : Client → Digest)
    (requests : List (ℚ × LimiterRequest Client)) (hclock : ClockNondecreasing requests) :
    (after bounds digest start requests).limiter.records.size ≤ bounds.maximumClients ∧
      (NeverEvicts bounds digest start requests ∨
          bounds.globalAttemptLimit ≤ bounds.maximumClients →
        ∀ client first last, last - first < bounds.windowSeconds →
          (after bounds digest start requests).granted client first last ≤
            bounds.attemptLimit) := by
  obtain ⟨now, hlater⟩ := exists_start hclock
  have hstart : Accounts bounds digest now (start : LimiterRun Client Digest).limiter
      (start : LimiterRun Client Digest).grants := accounts_fresh
  obtain ⟨_, haccounts⟩ := after_accounts hstart hclock hlater
  refine ⟨haccounts.size, fun hwhen client first last hwidth => ?_⟩
  have hroom : NeverEvicts bounds digest start requests := by
    rcases hwhen with hroom | hsmall
    · exact hroom
    · exact neverEvicts hstart hclock hlater hsmall
  have hfresh : Faithful bounds digest now (start : LimiterRun Client Digest).limiter
      (start : LimiterRun Client Digest).grants := faithful_fresh
  obtain ⟨_, hfaithful⟩ := after_faithful hfresh hclock hlater hroom
  exact (granted_le client first last).trans
    (hfaithful.windows (digest client) first last hwidth)

/-- The default login limit, over six attempts of one client in one minute. -/
theorem attempts_bounded_login :
    let bounds : LimiterBounds := ⟨5, 300, maxTrackedClients, by decide, by decide, by decide⟩
    let requests : List (ℚ × LimiterRequest Nat) :=
      (List.range 6).map fun second : Nat => ((second : ℚ), .attempt 7)
    (after bounds id start requests).limiter.records.size ≤ 256 ∧
      ∀ client first last, last - first < 300 →
        (after bounds id start requests).granted client first last ≤ 5 := by
  intro bounds requests
  have hclock : ClockNondecreasing requests := by
    unfold ClockNondecreasing
    decide +kernel
  have hbounded := attempts_bounded bounds id requests hclock
  exact ⟨hbounded.1, hbounded.2 (.inr (by decide))⟩

/-! ## An eviction that forgets a limited client -/

/-- The limiter behind a granted attempt. -/
def admitting (bounds : LimiterBounds) (now : ℚ) (d : Digest)
    (limiter : LoginAttemptLimiter Digest) : LoginAttemptLimiter Digest where
  records := (recordFor bounds now d (limiter.cleanup bounds now).records).2.set d
    ⟨live bounds now (heldFor limiter d) ++ [now], now⟩
  globalAttempts := live bounds now limiter.globalAttempts ++ [now]

theorem heldFor_admitting : heldFor (admitting bounds now d limiter) d =
    live bounds now (heldFor limiter d) ++ [now] := by
  unfold admitting
  rw [heldFor_set, if_pos rfl]

/-- An attempt below both limits is granted. -/
theorem beginAttempt_granted
    (hglobal : (live bounds now limiter.globalAttempts).length < bounds.globalAttemptLimit)
    (hlimit : (live bounds now (heldFor limiter d)).length < bounds.attemptLimit) :
    LoginAttemptLimiter.beginAttempt bounds now d limiter =
      (true, admitting bounds now d limiter) := by
  have hmine : live bounds now
      (recordFor bounds now d (limiter.cleanup bounds now).records).1.attempts =
        live bounds now (heldFor limiter d) := by
    rw [recordFor_attempts, heldFor_cleanup, live_self]
  have hclean : ¬bounds.globalAttemptLimit ≤
      (limiter.cleanup bounds now).globalAttempts.length := Nat.not_le.mpr hglobal
  unfold LoginAttemptLimiter.beginAttempt
  dsimp only
  rw [if_neg hclean]
  unfold LoginAttemptLimiter.reserve
  dsimp only
  rw [hmine, if_neg (by omega)]
  rfl

/-- Such an attempt is one grant more in the run. -/
theorem step_granted {run : LimiterRun Client Digest}
    (hglobal : (live bounds now run.limiter.globalAttempts).length < bounds.globalAttemptLimit)
    (hlimit : (live bounds now (heldFor run.limiter (digest client))).length <
      bounds.attemptLimit) :
    run.step bounds digest (now, .attempt client) =
      ⟨admitting bounds now (digest client) run.limiter, run.grants ++ [(client, now)]⟩ := by
  unfold step
  dsimp only
  rw [beginAttempt_granted hglobal hlimit, if_pos rfl]

/-- The records of clients that made one attempt each at one moment. -/
def wave (digest : Client → Digest) (now : ℚ) (clients : List Client)
    (h : (clients.map digest).Nodup) : Dict Digest AttemptRecord where
  entries := clients.map fun client => (digest client, ⟨[now], now⟩)
  distinct := by
    rw [List.map_map]
    exact h

omit [DecidableEq Digest] in
@[simp] theorem keys_wave {clients : List Client} (h : (clients.map digest).Nodup) :
    (wave digest now clients h).keys = clients.map digest := by
  rw [Dict.keys, wave, List.map_map]
  rfl

/-- A client outside the wave holds no stamp. -/
theorem heldFor_wave {clients : List Client} (h : (clients.map digest).Nodup) (stamps : List ℚ)
    (hnew : digest client ∉ clients.map digest) :
    heldFor ⟨wave digest now clients h, stamps⟩ (digest client) = [] := by
  have hnone : (wave digest now clients h).get? (digest client) = none := by
    rw [Dict.get?_eq_none, keys_wave]
    exact hnew
  unfold heldFor
  dsimp only
  rw [hnone]

theorem live_singleton : live bounds now [now] = [now] := live_append_now []

theorem refreshed_now : refreshed bounds now ⟨[now], now⟩ = some ⟨[now], now⟩ := by
  unfold refreshed
  rw [live_singleton, if_neg (List.cons_ne_nil _ _)]

theorem live_replicate (n : Nat) :
    live bounds now (List.replicate n now) = List.replicate n now := by
  induction n with
  | zero => rfl
  | succ n ih => rw [List.replicate_succ', live_append_now, ih]

omit [DecidableEq Digest] in
/-- At one reading nothing leaves the window. -/
theorem cleanup_wave {clients : List Client} (h : (clients.map digest).Nodup) (n : Nat) :
    LoginAttemptLimiter.cleanup bounds now ⟨wave digest now clients h, List.replicate n now⟩ =
      ⟨wave digest now clients h, List.replicate n now⟩ := by
  have hrecords : (wave digest now clients h).collect (refreshed bounds now) =
      wave digest now clients h := by
    apply Dict.ext
    show (clients.map fun client => (digest client, (⟨[now], now⟩ : AttemptRecord))).filterMap
      (fun e => (refreshed bounds now e.2).map (e.1, ·)) = _
    rw [List.filterMap_map]
    simp [refreshed_now, wave]
  unfold LoginAttemptLimiter.cleanup
  rw [hrecords, live_replicate]

/-- A newcomer that is let in while there is room joins the wave. -/
theorem admitting_wave {clients : List Client} (h : ((clients ++ [client]).map digest).Nodup)
    (hsub : (clients.map digest).Nodup) (hroom : clients.length < bounds.maximumClients) (n : Nat) :
    admitting bounds now (digest client) ⟨wave digest now clients hsub, List.replicate n now⟩ =
      ⟨wave digest now (clients ++ [client]) h, List.replicate (n + 1) now⟩ := by
  have hnew : digest client ∉ clients.map digest := by
    rw [List.map_append, List.nodup_append] at h
    intro hmem
    exact h.2.2 _ hmem _ (by simp) rfl
  have hkey : digest client ∉ (wave digest now clients hsub).keys := by
    rw [keys_wave]
    exact hnew
  have hsize : (wave digest now clients hsub).size < bounds.maximumClients := by
    show (clients.map _).length < _
    rw [List.length_map]
    exact hroom
  have hrecord : (recordFor bounds now (digest client) (wave digest now clients hsub)).2 =
      (wave digest now clients hsub).set (digest client) ⟨[], now⟩ := by
    unfold recordFor
    rw [Dict.get?_eq_none.mpr hkey]
    dsimp only
    rw [evict_of_room hsize]
  have hset : ((wave digest now clients hsub).set (digest client) ⟨[], now⟩).set
      (digest client) ⟨[now], now⟩ = wave digest now (clients ++ [client]) h := by
    apply Dict.ext
    rw [Dict.set_set, Dict.set_of_not_mem_entries hkey]
    simp [wave]
  unfold admitting
  rw [cleanup_wave, hrecord, heldFor_wave hsub _ hnew, live_replicate]
  show (⟨_, _⟩ : LoginAttemptLimiter Digest) = _
  rw [List.replicate_succ', ← hset]
  rfl

/-- A first wave of clients at one moment is let in as it comes. -/
theorem after_wave (clients : List Client) (h : (clients.map digest).Nodup)
    (hroom : clients.length ≤ bounds.maximumClients)
    (hglobal : clients.length ≤ bounds.globalAttemptLimit) :
    after bounds digest start (clients.map fun client => (now, .attempt client)) =
      ⟨⟨wave digest now clients h, List.replicate clients.length now⟩,
        clients.map fun client => (client, now)⟩ := by
  induction clients using List.reverseRecOn with
  | nil => rfl
  | append_singleton clients client ih =>
    have hsub : (clients.map digest).Nodup := by
      rw [List.map_append] at h
      exact h.of_append_left
    have hnew : digest client ∉ clients.map digest := by
      rw [List.map_append, List.nodup_append] at h
      intro hmem
      exact h.2.2 _ hmem _ (by simp) rfl
    rw [List.length_append, List.length_singleton] at hroom hglobal
    rw [List.map_append, List.map_singleton, after, List.foldl_append]
    show step bounds digest (after bounds digest start
      (clients.map fun client => (now, .attempt client))) (now, .attempt client) = _
    rw [ih hsub (by omega) (by omega), step_granted, admitting_wave h hsub (by omega)]
    · rw [List.map_append, List.map_singleton, List.length_append, List.length_singleton]
    · rw [live_replicate, List.length_replicate]
      omega
    · rw [heldFor_wave hsub _ hnew]
      exact bounds.limitPositive

/-- The first client of a full wave goes, for a newcomer. -/
theorem recordFor_wave {client newcomer : Client} {clients : List Client}
    (h : ((client :: clients).map digest).Nodup)
    (hnew : digest newcomer ∉ (client :: clients).map digest)
    (hfull : bounds.maximumClients ≤ (client :: clients).length) :
    (recordFor bounds now (digest newcomer) (wave digest now (client :: clients) h)).2.get?
      (digest client) = none := by
  have hne : digest client ≠ digest newcomer := by
    intro heq
    exact hnew (heq ▸ List.mem_cons_self)
  have hnone : (wave digest now (client :: clients) h).get? (digest newcomer) = none := by
    rw [Dict.get?_eq_none, keys_wave]
    exact hnew
  have hleast : (wave digest now (client :: clients) h).least? AttemptRecord.lastSeen =
      some (digest client) := by
    -- all were seen at the same moment, and the scan keeps the first
    show (List.argmin (fun e : Digest × AttemptRecord => e.2.lastSeen)
      ((digest client, ⟨[now], now⟩) :: clients.map fun c => (digest c, ⟨[now], now⟩))).map
        Prod.fst = _
    rw [List.argmin_cons]
    cases hrest : (clients.map fun c => (digest c, (⟨[now], now⟩ : AttemptRecord))).argmin
        (fun e => e.2.lastSeen) with
    | none => rfl
    | some other =>
      obtain ⟨c, -, rfl⟩ := List.mem_map.mp (List.argmin_mem hrest)
      show Option.map Prod.fst (if now < now then some _ else some _) = _
      rw [if_neg (lt_irrefl now)]
      rfl
  have hevict : evict bounds (wave digest now (client :: clients) h) =
      (wave digest now (client :: clients) h).erase (digest client) := by
    have hsize : (wave digest now (client :: clients) h).size = (client :: clients).length :=
      List.length_map ..
    unfold evict
    rw [if_pos (hsize.symm ▸ hfull), hleast]
  unfold recordFor
  rw [hnone]
  dsimp only
  rw [Dict.get?_set, if_neg hne, hevict, Dict.get?_erase_self]

/-- A client that is below its limit is granted all that is left of it, while the global limit has
    room. -/
theorem after_attempts (n : Nat) {run : LimiterRun Client Digest}
    (hglobal : (live bounds now run.limiter.globalAttempts).length + n ≤ bounds.globalAttemptLimit)
    (hlimit : (live bounds now (heldFor run.limiter (digest client))).length + n ≤
      bounds.attemptLimit) :
    (after bounds digest run (List.replicate n (now, .attempt client))).grants =
      run.grants ++ List.replicate n (client, now) := by
  induction n generalizing run with
  | zero => exact (List.append_nil _).symm
  | succ n ih =>
    have hstep : run.step bounds digest (now, .attempt client) =
        ⟨admitting bounds now (digest client) run.limiter, run.grants ++ [(client, now)]⟩ :=
      step_granted (by omega) (by omega)
    have hglobal' : (live bounds now
        (admitting bounds now (digest client) run.limiter).globalAttempts).length + n ≤
          bounds.globalAttemptLimit := by
      unfold admitting
      rw [live_append_now, live_self, List.length_append, List.length_singleton]
      omega
    have hlimit' : (live bounds now
        (heldFor (admitting bounds now (digest client) run.limiter) (digest client))).length + n ≤
          bounds.attemptLimit := by
      rw [heldFor_admitting, live_append_now, live_self, List.length_append,
        List.length_singleton]
      omega
    have hrest : (after bounds digest
        ⟨admitting bounds now (digest client) run.limiter, run.grants ++ [(client, now)]⟩
          (List.replicate n (now, .attempt client))).grants =
        run.grants ++ [(client, now)] ++ List.replicate n (client, now) := ih hglobal' hlimit'
    rw [List.replicate_succ, after, List.foldl_cons, hstep]
    refine hrest.trans ?_
    rw [List.append_assoc, List.singleton_append, ← List.replicate_succ]

/-- A full table, one client more, and then the first client again, as often as it may. -/
def overrun (now : ℚ) (client : Client) (clients : List Client) (newcomer : Client) (limit : Nat) :
    List (ℚ × LimiterRequest Client) :=
  (client :: clients).map (fun c => (now, .attempt c)) ++
    ((now, .attempt newcomer) :: List.replicate limit (now, .attempt client))

omit [DecidableEq Digest] in
theorem overrun_clock (now : ℚ) (client : Client) (clients : List Client) (newcomer : Client)
    (limit : Nat) : ClockNondecreasing (overrun now client clients newcomer limit) := by
  have hnow : ∀ request ∈ overrun now client clients newcomer limit, request.1 = now := by
    intro request hmem
    rcases List.mem_append.mp hmem with hmem | hmem
    · obtain ⟨_, _, rfl⟩ := List.mem_map.mp hmem
      rfl
    · rcases List.mem_cons.mp hmem with rfl | hmem
      · rfl
      · rw [(List.mem_replicate.mp hmem).2]
  refine List.Pairwise.imp_of_mem (fun ha hb _ => ?_) (List.pairwise_of_forall fun _ _ => trivial)
  rw [hnow _ ha, hnow _ hb]

/-- The first client is evicted, its attempt is forgotten, and it is granted one more than its
    limit at one moment. -/
theorem overrun_granted [DecidableEq Client] {client newcomer : Client} {clients : List Client}
    (hnodup : ((client :: clients).map digest).Nodup)
    (hnew : digest newcomer ∉ (client :: clients).map digest)
    (hfull : (client :: clients).length = bounds.maximumClients)
    (hroom : bounds.maximumClients + 1 + bounds.attemptLimit ≤ bounds.globalAttemptLimit) :
    bounds.attemptLimit < (after bounds digest start
      (overrun now client clients newcomer bounds.attemptLimit)).granted client now now := by
  have hpos := bounds.limitPositive
  let crowded : LoginAttemptLimiter Digest := ⟨wave digest now (client :: clients) hnodup,
    List.replicate (client :: clients).length now⟩
  -- every client of the full table is granted its attempt
  have hwave : after bounds digest start ((client :: clients).map fun c => (now, .attempt c)) =
      ⟨crowded, (client :: clients).map fun c => (c, now)⟩ :=
    after_wave (client :: clients) hnodup (by omega) (by omega)
  have hstamps : live bounds now crowded.globalAttempts =
      List.replicate (client :: clients).length now := live_replicate _
  -- so is the newcomer, whose record takes the place of the first one
  have hstep : step bounds digest ⟨crowded, (client :: clients).map fun c => (c, now)⟩
      (now, .attempt newcomer) = ⟨admitting bounds now (digest newcomer) crowded,
        ((client :: clients).map fun c => (c, now)) ++ [(newcomer, now)]⟩ := by
    refine step_granted ?_ ?_
    · dsimp only
      rw [hstamps, List.length_replicate]
      omega
    · dsimp only [crowded]
      rw [heldFor_wave hnodup _ hnew]
      exact hpos
  -- the first client is back, and nothing is held against it
  have hforgotten : heldFor (admitting bounds now (digest newcomer) crowded) (digest client) = [] := by
    have hne : digest client ≠ digest newcomer := by
      intro heq
      exact hnew (heq ▸ List.mem_cons_self)
    unfold admitting
    rw [heldFor_set, if_neg hne, cleanup_wave]
    unfold heldFor
    dsimp only
    rw [recordFor_wave hnodup hnew hfull.ge]
  have hgrants := @after_attempts Client Digest _ bounds now digest client bounds.attemptLimit
    ⟨admitting bounds now (digest newcomer) crowded,
      ((client :: clients).map fun c => (c, now)) ++ [(newcomer, now)]⟩
    (by
      unfold admitting
      rw [live_append_now, live_self, hstamps, List.length_append, List.length_replicate,
        List.length_singleton]
      omega)
    (by
      rw [hforgotten]
      exact (Nat.zero_add _).le)
  have hall : (after bounds digest start
      (overrun now client clients newcomer bounds.attemptLimit)).grants =
        ((client :: clients).map fun c => (c, now)) ++ [(newcomer, now)] ++
          List.replicate bounds.attemptLimit (client, now) := by
    unfold overrun
    rw [after, List.foldl_append, List.foldl_cons]
    show (after bounds digest (step bounds digest (after bounds digest start _) _) _).grants = _
    rw [hwave, hstep]
    exact hgrants
  have hlast : ((List.replicate bounds.attemptLimit (client, now)).filter fun g =>
      g.1 = client ∧ now ≤ g.2 ∧ g.2 ≤ now) = List.replicate bounds.attemptLimit (client, now) := by
    refine List.filter_eq_self.mpr fun g hg => ?_
    rw [(List.mem_replicate.mp hg).2]
    simp
  unfold granted
  rw [hall, List.filter_append, hlast, List.map_cons, List.cons_append,
    List.filter_cons_of_pos (by simp), List.length_append, List.length_cons, List.length_replicate]
  omega

/-- A limit that leaves the global one room beyond the table bounds no client: some run grants one
    more in a window. -/
theorem attempts_unbounded (bounds : LimiterBounds)
    (hroom : bounds.maximumClients + 1 + bounds.attemptLimit ≤ bounds.globalAttemptLimit) :
    ∃ requests : List (ℚ × LimiterRequest Nat), ClockNondecreasing requests ∧
      ∃ client now, bounds.attemptLimit < (after bounds id start requests).granted client now now := by
  obtain ⟨count, hcount⟩ := Nat.exists_eq_succ_of_ne_zero bounds.clientsPositive.ne'
  have hclients : 0 :: List.range' 1 count = List.range' 0 (count + 1) := rfl
  refine ⟨overrun 0 0 (List.range' 1 count) bounds.maximumClients bounds.attemptLimit,
    overrun_clock .., 0, 0, overrun_granted ?_ ?_ ?_ hroom⟩
  · rw [List.map_id, hclients]
    exact List.nodup_range'
  · rw [List.map_id, hclients, List.mem_range'_1, id]
    omega
  · rw [List.length_cons, List.length_range', hcount]

/-- A limit of the configured range whose global limit is larger than the table. -/
def wideBounds : LimiterBounds where
  attemptLimit := 18
  windowSeconds := 300
  maximumClients := maxTrackedClients
  limitPositive := by decide
  windowPositive := by decide
  clientsPositive := by decide

/-- Not every admitted limit bounds what a client is granted in a window. -/
theorem attempts_overrun :
    ¬∀ (bounds : LimiterBounds), bounds.attemptLimit ≤ 20 →
      bounds.maximumClients = maxTrackedClients →
      ∀ requests : List (ℚ × LimiterRequest Nat), ClockNondecreasing requests →
        ∀ client first last, last - first < bounds.windowSeconds →
          (after bounds id start requests).granted client first last ≤ bounds.attemptLimit := by
  intro h
  obtain ⟨requests, hclock, client, now, hmore⟩ := attempts_unbounded wideBounds (by decide)
  have hwidth : now - now < wideBounds.windowSeconds := by
    rw [sub_self]
    exact wideBounds.windowPositive
  exact absurd (h wideBounds (by decide) rfl requests hclock client now now hwidth)
    (Nat.not_le.mpr hmore)

end Aurora.ControlPlane
