/-
  Closing the database lifecycle is safe however often it is called and whatever fails.

  `LifecycleCoherent` ties the flags of the lifecycle to what was called so far and how it ended.
  A close is at most two calls, the store's and then the leadership's, and each keeps the tie
  (`LifecycleCoherent.append_store`, `LifecycleCoherent.append_leadership`); the law of a whole
  series of closes is read off it.
-/
import Mathlib.Data.List.Infix
import Aurora.HealthHistory.DatabaseLifecycle

namespace Aurora.HealthHistory

open Program HealthHistoryDatabaseLifecycle

variable {Store Leadership : Type}

/-- Exchanges of a lifecycle. -/
abbrev LifecycleExchange (Store Leadership : Type) : Type :=
  Exchange (LifecycleInterface Store Leadership)

/-- The store was closed, with this answer. -/
def closesStore (store : Store) (answer : Outcome String Unit) :
    LifecycleExchange Store Leadership := ⟨.closeStore store, answer⟩

/-- The leadership was given up, with this answer. -/
def closesLeadership (leadership : Leadership) (answer : Outcome LeadershipRejection Unit) :
    LifecycleExchange Store Leadership := ⟨.closeLeadership leadership, answer⟩

/-- The call gives the leadership up. -/
def isRelease : LifecycleExchange Store Leadership → Bool
  | ⟨.closeLeadership _, _⟩ => true
  | _ => false

/-- It was interrupted. -/
def isInterruptedRelease : LifecycleExchange Store Leadership → Bool
  | ⟨.closeLeadership _, .interrupted⟩ => true
  | _ => false

/-- How often the leadership was asked to release. -/
def releases (t : List (LifecycleExchange Store Leadership)) : Nat := t.countP isRelease

/-- How often giving up was interrupted. -/
def interruptedReleases (t : List (LifecycleExchange Store Leadership)) : Nat :=
  t.countP isInterruptedRelease

/-- The store was closed. -/
def StoreClosed (t : List (LifecycleExchange Store Leadership)) : Prop :=
  ∃ store, closesStore store (.returned ()) ∈ t

/-- The leadership was given up. -/
def Released (t : List (LifecycleExchange Store Leadership)) : Prop :=
  ∃ leadership, closesLeadership leadership (.returned ()) ∈ t

/-- Giving the leadership up failed. -/
def ReleaseFailed (t : List (LifecycleExchange Store Leadership)) : Prop :=
  ∃ leadership answer, closesLeadership leadership answer ∈ t ∧ answer.Failed

/-- Closing the store or giving the leadership up failed. -/
def CleanupFailed (t : List (LifecycleExchange Store Leadership)) : Prop :=
  (∃ store answer, closesStore store answer ∈ t ∧ answer.Failed) ∨ ReleaseFailed t

/-! ## One close -/

variable {l l' : HealthHistoryDatabaseLifecycle Store Leadership}
  {t t' : List (LifecycleExchange Store Leadership)} {r : Except LifecycleFailure Unit}

/-- The flags say what was called so far, and how it ended. -/
structure LifecycleCoherent (t : List (LifecycleExchange Store Leadership))
    (l : HealthHistoryDatabaseLifecycle Store Leadership) : Prop where
  store : l.ownedStore = none ↔ StoreClosed t
  leadership : l.leadership = none ↔ Released t
  closed : l.closed = true ↔ Released t
  uncertain : l.leadershipReleaseUncertain = true ↔ ReleaseFailed t
  exclusive : ReleaseFailed t → ¬ Released t
  cleanup : CleanupFailed t → l.closed = true ∨ l.cleanupFailed = true
  afterStore : ∀ p x, p ++ [x] <+: t → isRelease x = true → StoreClosed p
  once : releases t ≤ interruptedReleases t + 1
  unsettled : l.closed = false → l.leadershipReleaseUncertain = false →
    releases t = interruptedReleases t

/-- A new lifecycle owns both resources and no call has been made. -/
theorem lifecycleCoherent_new (store : Store) (leadership : Leadership) :
    LifecycleCoherent [] (new store leadership) where
  store := by simp [new, StoreClosed]
  leadership := by simp [new, Released]
  closed := by simp [new, Released]
  uncertain := by simp [new, ReleaseFailed]
  exclusive := by simp [ReleaseFailed]
  cleanup := by simp [CleanupFailed, ReleaseFailed]
  afterStore := by simp
  once := by simp [releases]
  unsettled := fun _ _ => rfl

section Exchanges

variable {store store' : Store} {leadership leadership' : Leadership}
  {a a' : Outcome String Unit} {b b' : Outcome LeadershipRejection Unit}

/-- Two closes of the store are equal exactly if store and answer are. -/
@[simp] theorem closesStore_inj :
    (closesStore store a : LifecycleExchange Store Leadership) = closesStore store' a' ↔
      store = store' ∧ a = a' := by
  constructor
  · intro h
    injection h with hcall hanswer
    injection hcall with hstore
    exact ⟨hstore, hanswer⟩
  · rintro ⟨rfl, rfl⟩
    rfl

@[simp] theorem closesLeadership_inj :
    (closesLeadership leadership b : LifecycleExchange Store Leadership) =
      closesLeadership leadership' b' ↔ leadership = leadership' ∧ b = b' := by
  constructor
  · intro h
    injection h with hcall hanswer
    injection hcall with hleadership
    exact ⟨hleadership, hanswer⟩
  · rintro ⟨rfl, rfl⟩
    rfl

@[simp] theorem closesStore_ne :
    (closesStore store a : LifecycleExchange Store Leadership) ≠ closesLeadership leadership b := by
  intro h
  injection h with hcall
  cases hcall

@[simp] theorem closesLeadership_ne :
    (closesLeadership leadership b : LifecycleExchange Store Leadership) ≠ closesStore store a :=
  closesStore_ne.symm

/-- The store is closed once a close of it returns. -/
theorem storeClosed_closesStore :
    StoreClosed (t ++ [closesStore store a]) ↔ StoreClosed t ∨ a = .returned () := by
  simp [StoreClosed, exists_or, eq_comm]

theorem storeClosed_closesLeadership :
    StoreClosed (t ++ [closesLeadership leadership b]) ↔ StoreClosed t := by
  simp [StoreClosed]

theorem released_closesStore : Released (t ++ [closesStore store a]) ↔ Released t := by
  simp [Released]

/-- The leadership is released once a release of it returns. -/
theorem released_closesLeadership :
    Released (t ++ [closesLeadership leadership b]) ↔ Released t ∨ b = .returned () := by
  simp [Released, exists_or, eq_comm]

theorem releaseFailed_closesStore :
    ReleaseFailed (t ++ [closesStore store a]) ↔ ReleaseFailed t := by
  simp [ReleaseFailed]

/-- A release that fails counts as failed. -/
theorem releaseFailed_closesLeadership :
    ReleaseFailed (t ++ [closesLeadership leadership b]) ↔ ReleaseFailed t ∨ b.Failed := by
  simp [ReleaseFailed, or_and_right, exists_or]

/-- A close that fails counts as a failed cleanup. -/
theorem cleanupFailed_closesStore :
    CleanupFailed (t ++ [closesStore store a]) ↔ CleanupFailed t ∨ a.Failed := by
  rw [CleanupFailed, releaseFailed_closesStore, CleanupFailed]
  simp only [List.mem_append, List.mem_singleton, closesStore_inj, or_and_right, exists_or]
  simp only [and_assoc, exists_and_left, exists_eq_left]
  exact or_right_comm

theorem cleanupFailed_closesLeadership :
    CleanupFailed (t ++ [closesLeadership leadership b]) ↔ CleanupFailed t ∨ b.Failed := by
  rw [CleanupFailed, releaseFailed_closesLeadership, CleanupFailed]
  simp only [List.mem_append, List.mem_singleton, closesStore_ne, or_false]
  exact or_assoc.symm

/-- Closing the store releases no leadership. -/
@[simp] theorem releases_closesStore : releases (t ++ [closesStore store a]) = releases t := by
  rw [releases, List.countP_append]
  rfl

@[simp] theorem interruptedReleases_closesStore :
    interruptedReleases (t ++ [closesStore store a]) = interruptedReleases t := by
  rw [interruptedReleases, List.countP_append]
  rfl

/-- A release is counted whether it fails or not. -/
@[simp] theorem releases_closesLeadership :
    releases (t ++ [closesLeadership leadership b]) = releases t + 1 := by
  rw [releases, List.countP_append]
  rfl

/-- An interrupt in a release is counted by itself. -/
theorem interruptedReleases_interrupted :
    interruptedReleases (t ++ [closesLeadership leadership .interrupted]) =
      interruptedReleases t + 1 := by
  rw [interruptedReleases, List.countP_append]
  rfl

end Exchanges

/-- A close of the store keeps the tie, given what it does to the flags. -/
theorem LifecycleCoherent.append_store {store : Store} {a : Outcome String Unit}
    (h : LifecycleCoherent t l) (hstore : l.ownedStore = some store) (hclosed : l.closed = false)
    (hnone : l'.ownedStore = none ↔ a = .returned ()) (hleadership : l'.leadership = l.leadership)
    (hclosed' : l'.closed = l.closed)
    (huncertain' : l'.leadershipReleaseUncertain = l.leadershipReleaseUncertain)
    (hcleanup : l.cleanupFailed = true ∨ a.Failed → l'.cleanupFailed = true) :
    LifecycleCoherent (t ++ [closesStore store a]) l' := by
  have hopen : ¬ StoreClosed t := by
    rw [← h.store, hstore]
    exact Option.some_ne_none store
  refine ⟨?_, ?_, ?_, ?_, ?_, ?_, ?_, ?_, ?_⟩
  · rw [storeClosed_closesStore, hnone]
    exact (or_iff_right hopen).symm
  · rw [released_closesStore, hleadership, h.leadership]
  · rw [released_closesStore, hclosed', h.closed]
  · rw [releaseFailed_closesStore, huncertain', h.uncertain]
  · rw [releaseFailed_closesStore, released_closesStore]
    exact h.exclusive
  · intro hfailed
    right
    rcases cleanupFailed_closesStore.mp hfailed with hfailed | ha
    · rcases h.cleanup hfailed with hc | hc
      · rw [hclosed] at hc
        cases hc
      · exact hcleanup (.inl hc)
    · exact hcleanup (.inr ha)
  · intro p x hp hx
    rcases List.prefix_concat_iff.mp hp with heq | hp
    · obtain ⟨-, rfl⟩ := List.append_singleton_inj.mp heq
      cases hx
    · exact h.afterStore p x hp hx
  · rw [releases_closesStore, interruptedReleases_closesStore]
    exact h.once
  · intro hc hu
    rw [releases_closesStore, interruptedReleases_closesStore]
    exact h.unsettled (hclosed' ▸ hc) (huncertain' ▸ hu)

/-- A release keeps the tie, given what it does to the flags. -/
theorem LifecycleCoherent.append_leadership {leadership : Leadership}
    {b : Outcome LeadershipRejection Unit} (h : LifecycleCoherent t l)
    (hnone : l.ownedStore = none) (hclosed : l.closed = false)
    (huncertain : l.leadershipReleaseUncertain = false) (hstore : l'.ownedStore = none)
    (hleadership : l'.leadership = none ↔ b = .returned ())
    (hclosed' : l'.closed = true ↔ b = .returned ())
    (huncertain' : l'.leadershipReleaseUncertain = true ↔ b.Failed)
    (hcleanup : l.cleanupFailed = true ∨ b.Failed → l'.closed = true ∨ l'.cleanupFailed = true) :
    LifecycleCoherent (t ++ [closesLeadership leadership b]) l' := by
  -- before the call the leadership was neither released nor uncertain
  have hheld : ¬ Released t := by
    rw [← h.closed, hclosed]
    exact Bool.false_ne_true
  have hcertain : ¬ ReleaseFailed t := by
    rw [← h.uncertain, huncertain]
    exact Bool.false_ne_true
  have hcount := h.unsettled hclosed huncertain
  refine ⟨?_, ?_, ?_, ?_, ?_, ?_, ?_, ?_, ?_⟩
  · rw [storeClosed_closesLeadership, ← h.store, hnone, hstore]
  · rw [released_closesLeadership, hleadership]
    exact (or_iff_right hheld).symm
  · rw [released_closesLeadership, hclosed']
    exact (or_iff_right hheld).symm
  · rw [releaseFailed_closesLeadership, huncertain']
    exact (or_iff_right hcertain).symm
  · rw [releaseFailed_closesLeadership, released_closesLeadership, or_iff_right hcertain,
      or_iff_right hheld]
    rintro hb rfl
    exact hb
  · intro hfailed
    rcases cleanupFailed_closesLeadership.mp hfailed with hfailed | hb
    · rcases h.cleanup hfailed with hc | hc
      · rw [hclosed] at hc
        cases hc
      · exact hcleanup (.inl hc)
    · exact hcleanup (.inr hb)
  · intro p x hp hx
    rcases List.prefix_concat_iff.mp hp with heq | hp
    · obtain ⟨rfl, -⟩ := List.append_singleton_inj.mp heq
      exact h.store.mp hnone
    · exact h.afterStore p x hp hx
  · rw [releases_closesLeadership, hcount]
    have hmono : interruptedReleases t ≤
        interruptedReleases (t ++ [closesLeadership leadership b]) :=
      (List.sublist_append_left t _).countP_le
    omega
  · -- neither closed nor uncertain afterwards: the release was interrupted
    intro hc hu
    have hb : b = .interrupted := by
      cases b with
      | returned => simp [hclosed'.mpr rfl] at hc
      | rejected reason => simp [huncertain'.mpr trivial] at hu
      | failed => simp [huncertain'.mpr trivial] at hu
      | interrupted => rfl
    rw [hb, releases_closesLeadership, interruptedReleases_interrupted, hcount]

/-- The release of the leadership, once the store is closed. -/
theorem LifecycleCoherent.release {x : Except Empty (Closed Store Leadership)}
    (h : LifecycleCoherent t l) (hnone : l.ownedStore = none) (hclosed : l.closed = false)
    (huncertain : l.leadershipReleaseUncertain = false) (hr : Runs l.release t' x) :
    ∃ r l', x = .ok (r, l') ∧ LifecycleCoherent (t ++ t') l' := by
  cases hleadership : l.leadership with
  | none =>
    -- a released leadership is a closed lifecycle
    rw [h.leadership, ← h.closed, hclosed] at hleadership
    cases hleadership
  | some leadership =>
    simp only [HealthHistoryDatabaseLifecycle.release, hleadership] at hr
    obtain ⟨b, t₁, rfl, hrest⟩ := runs_ask_bind.mp hr
    cases b with
    | returned a =>
      obtain ⟨rfl, rfl⟩ := runs_pure.mp hrest
      exact ⟨_, _, rfl, h.append_leadership hnone hclosed huncertain hnone (by simp) (by simp)
        (by simp [Outcome.Failed]) (by simp)⟩
    | interrupted =>
      obtain ⟨rfl, rfl⟩ := runs_pure.mp hrest
      exact ⟨_, _, rfl, h.append_leadership hnone hclosed huncertain hnone (by simp [hleadership])
        (by simp [hclosed]) (by simp [huncertain, Outcome.Failed])
        (by simp +contextual [Outcome.Failed])⟩
    | rejected reason =>
      obtain ⟨rfl, rfl⟩ := runs_pure.mp hrest
      exact ⟨_, _, rfl, h.append_leadership hnone hclosed huncertain hnone (by simp)
        (by simp [hclosed]) (by simp [Outcome.Failed]) (by simp)⟩
    | failed =>
      obtain ⟨rfl, rfl⟩ := runs_pure.mp hrest
      exact ⟨_, _, rfl, h.append_leadership hnone hclosed huncertain hnone (by simp)
        (by simp [hclosed]) (by simp [Outcome.Failed]) (by simp)⟩

/-- A close keeps the tie. -/
theorem LifecycleCoherent.close {x : Except Empty (Closed Store Leadership)}
    (h : LifecycleCoherent t l) (hr : Runs l.close t' x) :
    ∃ r l', x = .ok (r, l') ∧ LifecycleCoherent (t ++ t') l' := by
  unfold HealthHistoryDatabaseLifecycle.close at hr
  split at hr
  · obtain ⟨rfl, rfl⟩ := runs_pure.mp hr
    exact ⟨_, _, rfl, (List.append_nil t).symm ▸ h⟩
  next hclosed =>
  split at hr
  · obtain ⟨rfl, rfl⟩ := runs_pure.mp hr
    exact ⟨_, _, rfl, (List.append_nil t).symm ▸ h⟩
  next huncertain =>
  rw [Bool.not_eq_true] at hclosed huncertain
  cases hstore : l.ownedStore with
  | none =>
    simp only [hstore] at hr
    exact h.release hstore hclosed huncertain hr
  | some store =>
    simp only [hstore] at hr
    obtain ⟨a, t₁, rfl, hrest⟩ := runs_ask_bind.mp hr
    cases a with
    | returned a =>
      have h₁ : LifecycleCoherent (t ++ [closesStore store (.returned ())])
          { l with ownedStore := none } :=
        h.append_store hstore hclosed (by simp) rfl rfl rfl (by simp [Outcome.Failed])
      obtain ⟨r, l', rfl, h₂⟩ := h₁.release rfl hclosed huncertain hrest
      exact ⟨r, l', rfl, by rwa [List.append_assoc] at h₂⟩
    | interrupted =>
      obtain ⟨rfl, rfl⟩ := runs_pure.mp hrest
      exact ⟨_, _, rfl, h.append_store hstore hclosed (by simp [hstore]) rfl rfl rfl
        (by simp [Outcome.Failed])⟩
    | rejected reason =>
      obtain ⟨rfl, rfl⟩ := runs_pure.mp hrest
      exact ⟨_, _, rfl, h.append_store hstore hclosed (by simp) rfl rfl rfl (by simp)⟩
    | failed =>
      obtain ⟨rfl, rfl⟩ := runs_pure.mp hrest
      exact ⟨_, _, rfl, h.append_store hstore hclosed (by simp) rfl rfl rfl (by simp)⟩

/-! ## Any number of closes -/

/-- One close in a series: what it called, and how it ended. -/
def Closing (l : HealthHistoryDatabaseLifecycle Store Leadership)
    (call : List (LifecycleExchange Store Leadership) × Except LifecycleFailure Unit)
    (l' : HealthHistoryDatabaseLifecycle Store Leadership) : Prop :=
  Runs l.close call.1 (.ok (call.2, l'))

/-- What a series of closes called, in order. -/
def called {ρ : Type} (calls : List (List (LifecycleExchange Store Leadership) × ρ)) :
    List (LifecycleExchange Store Leadership) := calls.flatMap Prod.fst

theorem lifecycleCoherent_of_closings {store : Store} {leadership : Leadership}
    {calls : List (List (LifecycleExchange Store Leadership) × Except LifecycleFailure Unit)}
    (h : Trail Closing (new store leadership) calls l) : LifecycleCoherent (called calls) l := by
  refine @Trail.invariant _ _ Closing _ _ (fun calls l => LifecycleCoherent (called calls) l) [] _
    ?_ (lifecycleCoherent_new store leadership) h
  intro calls l call l' hl hcall
  obtain ⟨r, l'', heq, hl'⟩ := hl.close hcall
  obtain ⟨-, rfl⟩ := Prod.mk.inj (Except.ok.inj heq)
  simpa [called] using hl'

/-- The law of a series of closes. -/
structure ClosesSafely (t : List (LifecycleExchange Store Leadership))
    (l : HealthHistoryDatabaseLifecycle Store Leadership) : Prop where
  /-- Only an interrupted release is called again. -/
  once : releases t ≤ interruptedReleases t + 1
  afterStore : ∀ p x, p ++ [x] <+: t → isRelease x = true → StoreClosed p
  closed : l.closed = true ↔ StoreClosed t ∧ Released t
  terminal : ReleaseFailed t → ∀ t' x, Runs l.close t' x →
    t' = [] ∧ x = .ok (.error (.rejected .cleanupFailed), l)
  unreachable : CleanupFailed t → ∃ reason, l.store = .error reason

/-- A released leadership followed a closed store. -/
theorem LifecycleCoherent.storeClosed_of_released (h : LifecycleCoherent t l) (hr : Released t) :
    StoreClosed t := by
  obtain ⟨leadership, hmem⟩ := hr
  obtain ⟨p, s, rfl⟩ := List.append_of_mem hmem
  obtain ⟨store, hstore⟩ := h.afterStore p (closesLeadership leadership (.returned ())) ⟨s, by simp⟩
    rfl
  exact ⟨store, List.mem_append_left _ hstore⟩

/-- A coherent lifecycle has closed safely. -/
theorem LifecycleCoherent.closesSafely (h : LifecycleCoherent t l) : ClosesSafely t l where
  once := h.once
  afterStore := h.afterStore
  closed := by
    rw [h.closed]
    exact ⟨fun hr => ⟨h.storeClosed_of_released hr, hr⟩, And.right⟩
  terminal := by
    intro hfailed t' x hx
    have hopen : ¬ l.closed = true := fun hc => h.exclusive hfailed (h.closed.mp hc)
    rw [HealthHistoryDatabaseLifecycle.close, if_neg hopen, if_pos (h.uncertain.mpr hfailed)] at hx
    exact runs_pure.mp hx
  unreachable := by
    intro hfailed
    unfold HealthHistoryDatabaseLifecycle.store
    rcases h.cleanup hfailed with hc | hc
    · exact ⟨_, if_pos hc⟩
    · rw [if_pos hc]
      split
      · exact ⟨_, rfl⟩
      · exact ⟨_, rfl⟩

/-! ## Bootstrapping -/

/-- The call acquired leadership. -/
def acquires : LifecycleExchange Store Leadership → Bool
  | ⟨.acquireLeadership _, .returned _⟩ => true
  | _ => false

/-- Neither the leadership's acquisition nor its release. -/
def onStore : LifecycleCall Store Leadership → Prop
  | .createStore _ _ | .openExisting _ => True
  | _ => False

/-- Bootstrapping the store leaves the leadership alone. -/
theorem openExistingStore_makes (path : String) :
    (openExistingStore path : Program (LifecycleInterface Store Leadership) _ Store).Makes
      onStore := by
  refine ⟨trivial, fun answer => ?_⟩
  cases answer <;> trivial

/-- The bootstrap of the store makes calls on the store only. -/
theorem bootstrapStore_makes (mode : HealthHistoryDatabaseMode) (path : String)
    (createdAtUtcUs : Int) :
    (bootstrapStore mode path createdAtUtcUs :
      Program (LifecycleInterface Store Leadership) _ Store).Makes onStore := by
  cases mode with
  | openExisting => exact openExistingStore_makes path
  | createIfMissing =>
    refine ⟨trivial, fun answer => ?_⟩
    cases answer with
    | returned store => trivial
    | rejected reason =>
      show (if reason = "already_exists" then openExistingStore path
        else raise (.rejected (storeRejection reason))).Makes onStore
      split
      · exact openExistingStore_makes path
      · trivial
    | failed => trivial
    | interrupted => trivial

/-- So none of its calls releases the leadership. -/
theorem releases_eq_zero (h : ∀ x ∈ t, onStore x.1) : releases t = 0 := by
  rw [releases, List.countP_eq_zero]
  intro x hx
  have hstore := h x hx
  obtain ⟨c, answer⟩ := x
  cases c <;> first | exact Bool.false_ne_true | exact hstore.elim

/-- How a bootstrap ends and how often it released the leadership. -/
structure BootstrapReleases (t : List (LifecycleExchange Store Leadership))
    (x : Except LifecycleFailure
      (Option (HealthHistoryDatabaseLifecycle Store Leadership))) : Prop where
  failed : ∀ reason, x = .error (.rejected reason) → (∃ y ∈ t, acquires y = true) →
    releases t = 1
  opened : ∀ l, x = .ok l → releases t = 0

/-- A bootstrap that made no call has released nothing. -/
theorem bootstrapReleases_nil {x : Except LifecycleFailure
    (Option (HealthHistoryDatabaseLifecycle Store Leadership))} : BootstrapReleases [] x where
  failed := by simp
  opened := fun _ _ => rfl

/-- An acquisition that raised has acquired nothing. -/
theorem acquireLeadership_runs {directory : String} {y : Except LifecycleFailure Leadership}
    (h : Runs (acquireLeadership directory) t y) : releases t = 0 ∧
      ∀ e, y = .error e → ∀ z ∈ t, acquires z = false := by
  obtain ⟨answer, t', rfl, hrest⟩ := runs_ask_bind.mp h
  cases answer with
  | returned leadership =>
    obtain ⟨rfl, rfl⟩ := runs_pure.mp hrest
    exact ⟨rfl, fun e he => by cases he⟩
  | rejected reason =>
    obtain ⟨rfl, rfl⟩ := runs_raise.mp hrest
    exact ⟨rfl, fun e _ z hz => by rw [List.mem_singleton.mp hz]; rfl⟩
  | failed =>
    obtain ⟨rfl, rfl⟩ := runs_raise.mp hrest
    exact ⟨rfl, fun e _ z hz => by rw [List.mem_singleton.mp hz]; rfl⟩
  | interrupted =>
    obtain ⟨rfl, rfl⟩ := runs_raise.mp hrest
    exact ⟨rfl, fun e _ z hz => by rw [List.mem_singleton.mp hz]; rfl⟩

/-- After a failed bootstrap the leadership is released exactly once. -/
theorem releaseAfterBootstrapFailure_runs {α : Type} {leadership : Leadership}
    {reason : DatabaseLifecycleRejection} {y : Except LifecycleFailure α}
    (h : Runs (releaseAfterBootstrapFailure leadership reason) t y) :
    releases t = 1 ∧ ∃ e, y = .error e := by
  obtain ⟨answer, t', rfl, hrest⟩ := runs_ask_bind.mp h
  cases answer with
  | returned a =>
    obtain ⟨rfl, rfl⟩ := runs_raise.mp hrest
    exact ⟨rfl, _, rfl⟩
  | rejected reason =>
    obtain ⟨rfl, rfl⟩ := runs_raise.mp hrest
    exact ⟨rfl, _, rfl⟩
  | failed =>
    obtain ⟨rfl, rfl⟩ := runs_raise.mp hrest
    exact ⟨rfl, _, rfl⟩
  | interrupted =>
    obtain ⟨rfl, rfl⟩ := runs_raise.mp hrest
    exact ⟨rfl, _, rfl⟩

/-- A bootstrap releases what it acquired exactly if it does not return it. -/
theorem bootstrap_releases {request : BootstrapRequest}
    {x : Except LifecycleFailure (Option (HealthHistoryDatabaseLifecycle Store Leadership))}
    (h : Runs (bootstrapHealthHistoryDatabase request) t x) : BootstrapReleases t x := by
  cases hsnapshot : request.snapshot with
  | none =>
    rw [bootstrapHealthHistoryDatabase, hsnapshot] at h
    obtain ⟨rfl, -⟩ := runs_raise.mp h
    exact bootstrapReleases_nil
  | some settings =>
  rw [bootstrapHealthHistoryDatabase, hsnapshot] at h
  dsimp only at h
  split at h
  · obtain ⟨rfl, -⟩ := runs_pure.mp h
    exact bootstrapReleases_nil
  split at h
  · obtain ⟨rfl, -⟩ := runs_raise.mp h
    exact bootstrapReleases_nil
  split at h
  · obtain ⟨rfl, -⟩ := runs_raise.mp h
    exact bootstrapReleases_nil
  split at h
  · obtain ⟨rfl, -⟩ := runs_raise.mp h
    exact bootstrapReleases_nil
  split at h
  · obtain ⟨rfl, -⟩ := runs_raise.mp h
    exact bootstrapReleases_nil
  -- the leadership is asked for, and the store only once it is held
  rcases runs_bind.mp h with ⟨e, hacquire, rfl⟩ | ⟨leadership, t₁, t₂, rfl, hacquire, h⟩
  · obtain ⟨-, hnone⟩ := acquireLeadership_runs hacquire
    refine ⟨fun reason _ hsome => ?_, fun l hl => by cases hl⟩
    obtain ⟨y, hy, hacquires⟩ := hsome
    rw [hnone e rfl y hy] at hacquires
    cases hacquires
  obtain ⟨hzero, -⟩ := acquireLeadership_runs hacquire
  obtain ⟨stored, t₃, t₄, rfl, hstore, h⟩ := runs_catching_bind.mp h
  have hstored := releases_eq_zero ((bootstrapStore_makes _ _ _).runs hstore)
  have hsum : releases (t₁ ++ (t₃ ++ t₄)) = releases t₄ := by
    simp only [releases, List.countP_append] at hzero hstored ⊢
    omega
  cases stored with
  | ok store =>
    obtain ⟨rfl, rfl⟩ := runs_pure.mp h
    exact ⟨fun reason he => by (cases he), fun l _ => hsum⟩
  | error e =>
    cases e with
    | rejected reason =>
      obtain ⟨hone, e, rfl⟩ := releaseAfterBootstrapFailure_runs h
      exact ⟨fun _ _ _ => hsum.trans hone, fun l hl => by (cases hl)⟩
    | interrupted =>
      obtain ⟨rfl, rfl⟩ := runs_raise.mp h
      exact ⟨fun reason he => by (cases he), fun l hl => by (cases hl)⟩

/-- Closing is safe over any series of closes, and a failed bootstrap gives the leadership back. -/
theorem database_lifecycle_safe :
    (∀ (store : Store) (leadership : Leadership) calls l,
      Trail Closing (new store leadership) calls l → ClosesSafely (called calls) l) ∧
    (∀ (request : BootstrapRequest) (t : List (LifecycleExchange Store Leadership)) x,
      Runs (bootstrapHealthHistoryDatabase request) t x → BootstrapReleases t x) :=
  ⟨fun _ _ _ _ h => (lifecycleCoherent_of_closings h).closesSafely,
    fun _ _ _ h => bootstrap_releases h⟩

/-- A failed store close, a release that fails after the next one, and a third close. -/
def failingCloses : List (List (LifecycleExchange Nat Nat) × Except LifecycleFailure Unit) :=
  [([closesStore 0 .failed], .error (.rejected .cleanupFailed)),
    ([closesStore 0 (.returned ()), closesLeadership 1 (.rejected .releaseFailed)],
      .error (.rejected .cleanupFailed)),
    ([], .error (.rejected .cleanupFailed))]

/-- A path of the database, -/
def historyPath : String := "/var/lib/aurora/history.db"

/-- An `open_existing` bootstrap whose store does not open. -/
def failingBootstrap : BootstrapRequest :=
  ⟨some ⟨true, some historyPath, .openExisting⟩, none, true⟩

/-- and a bootstrap that cannot open it. -/
def failingBootstrapCalls : List (LifecycleExchange Nat Nat) :=
  [⟨.acquireLeadership (pathParent historyPath), .returned 1⟩,
    ⟨.openExisting historyPath, .rejected "unsupported_runtime"⟩,
    closesLeadership 1 (.returned ())]

theorem database_lifecycle_safe_failures :
    ClosesSafely (called failingCloses) ⟨none, some 1, true, false, true⟩ ∧
      BootstrapReleases failingBootstrapCalls (.error (.rejected .unsupportedRuntime)) := by
  have hcloses : Trail Closing (new 0 1) failingCloses ⟨none, some 1, true, false, true⟩ := by
    refine .cons (m := ⟨some 0, some 1, true, false, false⟩) ?_
      (.cons (m := ⟨none, some 1, true, false, true⟩) ?_ (.cons ?_ (.nil _)))
    · exact Runs.call (I := LifecycleInterface Nat Nat) (c := .closeStore 0) _ (.done _)
    · refine Runs.call (I := LifecycleInterface Nat Nat) (c := .closeStore 0) _ ?_
      exact Runs.call (I := LifecycleInterface Nat Nat) (c := .closeLeadership 1) _ (.done _)
    · exact .done _
  have hbootstrap : Runs (bootstrapHealthHistoryDatabase failingBootstrap) failingBootstrapCalls
      (.error (.rejected .unsupportedRuntime)) := by
    have hname : pathName historyPath ≠ leadershipLockFilename.toList := by decide +kernel
    simp only [bootstrapHealthHistoryDatabase, failingBootstrap, createdAtOf, if_neg hname,
      Bool.not_true, Bool.false_eq_true, if_false]
    refine Runs.call (I := LifecycleInterface Nat Nat) (c := .acquireLeadership _) _ ?_
    refine Runs.call (I := LifecycleInterface Nat Nat) (c := .openExisting _) _ ?_
    exact Runs.call (I := LifecycleInterface Nat Nat) (c := .closeLeadership 1) _ (.raise _)
  exact ⟨database_lifecycle_safe.1 0 1 _ _ hcloses, database_lifecycle_safe.2 _ _ _ hbootstrap⟩

/-! ## The handle behind the lifecycle -/

/-- The handle answers the releases; the calls on its descriptor are kept. -/
inductive HandleStep : Option Nat × List (Exchange DescriptorInterface) →
    LifecycleExchange Store Leadership → Option Nat × List (Exchange DescriptorInterface) → Prop
  | release {d d' : Option Nat} {log log' : List (Exchange DescriptorInterface)}
      {leadership : Leadership} {answer : Outcome LeadershipRejection Unit}
      (h : Runs (closeHandle d) log' (.ok (answer, d'))) :
      HandleStep (d, log) (closesLeadership leadership answer) (d', log ++ log')
  | other {s : Option Nat × List (Exchange DescriptorInterface)}
      {x : LifecycleExchange Store Leadership} (h : isRelease x = false) : HandleStep s x s

/-- The handle still holds its descriptor, or made the calls of one release. -/
def AtMostOneRelease (descriptor : Nat)
    (s : Option Nat × List (Exchange DescriptorInterface)) : Prop :=
  s = (some descriptor, []) ∨
    s.1 = none ∧ ∃ answer, Runs (closeHandle (some descriptor)) s.2 (.ok (answer, none))

/-- A handle is forgotten by the close, whatever it answers. -/
theorem closeHandle_forgets {d d' : Option Nat} {log : List (Exchange DescriptorInterface)}
    {answer : Outcome LeadershipRejection Unit}
    (h : Runs (closeHandle d) log (.ok (answer, d'))) : d' = none := by
  cases d with
  | none => exact (Prod.mk.inj (Except.ok.inj (runs_pure.mp h).2)).2
  | some descriptor =>
    obtain ⟨unlocked, log', rfl, hrest⟩ := runs_ask_bind.mp h
    cases unlocked with
    | interrupted => exact (Prod.mk.inj (Except.ok.inj (runs_pure.mp hrest).2)).2
    | _ =>
      obtain ⟨closed, log'', rfl, hend⟩ := runs_ask_bind.mp hrest
      exact (Prod.mk.inj (Except.ok.inj (runs_pure.mp hend).2)).2

/-- However often the lifecycle asks, the descriptor is unlocked and closed once. -/
theorem descriptor_released_once {descriptor : Nat}
    {s : Option Nat × List (Exchange DescriptorInterface)}
    (h : Follows HandleStep (some descriptor, []) t s) : AtMostOneRelease descriptor s := by
  refine h.invariant ?_ (.inl rfl)
  intro s x s' _ hstep hs
  cases hstep with
  | other => exact hs
  | @release d d' log log' leadership answer hclose =>
    obtain rfl := closeHandle_forgets hclose
    rcases hs with hs | ⟨hd, answer', hs⟩
    · obtain ⟨rfl, rfl⟩ := Prod.mk.inj hs
      exact .inr ⟨rfl, answer, hclose⟩
    · -- a handle without a descriptor makes no call
      obtain rfl : d = none := hd
      obtain ⟨rfl, -⟩ := runs_pure.mp hclose
      exact .inr ⟨rfl, answer', by rwa [List.append_nil]⟩

end Aurora.HealthHistory
