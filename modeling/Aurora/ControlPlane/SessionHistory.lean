/-
  Which tokens the session store honours, told by its history.

  A run keeps a log beside the store: which sessions were created, and which were invalidated or
  evicted.  A creation lasts while nothing after it in the log ends it.  The store holds records of
  lasting creations only, and of every one that no reading of the clock has found expired (`Kept`);
  the order of the record numbers is the order of the creations.
-/
import Mathlib.Algebra.Order.Ring.Star
import Mathlib.Data.Rat.Star
import Mathlib.Tactic.Linarith
import Aurora.ControlPlane.Sessions

namespace Aurora.ControlPlane

open SessionStore

/-! ## Calls and their log -/

/-- The calls of the store. -/
inductive SessionCall
  | create (now : ℚ) (username : String) (draws : Nat → String)
  | resolve (now : ℚ) (token : String)
  | invalidate (token : String)
  | activeCount (now : ℚ)

/-- Their answers. -/
inductive SessionAnswer
  | created (result : Except String CreatedSession)
  | lookup (result : SessionLookup)
  | invalidated (found : Bool)
  | count (sessions : Nat)

/-- A session that was created. -/
structure Creation where
  token : String
  username : String
  csrfToken : String
  createdAt : ℚ

/-- What happens to sessions. -/
inductive SessionEvent (Digest : Type)
  | created (c : Creation)
  | invalidated (token : String)
  | evicted (digest : Digest)

namespace SessionCall

/-- The reading of the clock that a call takes. -/
def reading : SessionCall → Option ℚ
  | create now _ _ => some now
  | resolve now _ => some now
  | invalidate _ => none
  | activeCount now => some now

/-- The token that a call names. -/
def token? : SessionCall → Option String
  | create _ _ _ => none
  | resolve _ token => some token
  | invalidate token => some token
  | activeCount _ => none

end SessionCall

variable {Digest : Type} [DecidableEq Digest] {bounds : SessionBounds} {digest : String → Digest}
  {store : SessionStore Digest} {log : List (SessionEvent Digest)} {seen : List ℚ}
  {c c' : Creation} {e : SessionEvent Digest} {now : ℚ} {token : String}

namespace SessionStore

/-- One call: its answer, and the store it leaves. -/
def perform (bounds : SessionBounds) (digest : String → Digest) (store : SessionStore Digest) :
    SessionCall → SessionAnswer × SessionStore Digest
  | .create now username draws =>
    (.created (store.create bounds digest now username draws).1,
      (store.create bounds digest now username draws).2)
  | .resolve now token => (.lookup (store.resolve digest now token).1,
      (store.resolve digest now token).2)
  | .invalidate token => (.invalidated (store.invalidate digest token).1,
      (store.invalidate digest token).2)
  | .activeCount now => (.count (store.activeCount now).1, (store.activeCount now).2)

/-- The sessions that the eviction loop removes, in order. -/
def evictions (bounds : SessionBounds) : Nat → Dict Digest SessionRecord → List Digest
  | 0, _ => []
  | rounds + 1, sessions =>
    if sessions.size ≥ bounds.maximumSessions then
      match sessions.least? SessionRecord.sequence with
      | some oldest => oldest :: evictions bounds rounds (sessions.erase oldest)
      | none => []
    else []

/-- What a call adds to the log. -/
def events (bounds : SessionBounds) (digest : String → Digest) (store : SessionStore Digest) :
    SessionCall → List (SessionEvent Digest)
  | .create now username draws =>
    let purged := (store.purgeExpired now).sessions
    (evictions bounds purged.size purged).map .evicted ++
      match (store.create bounds digest now username draws).1 with
      | .ok created => [.created ⟨created.token, username, created.session.csrfToken, now⟩]
      | .error _ => []
  | .invalidate token => [.invalidated token]
  | .resolve _ _ => []
  | .activeCount _ => []

end SessionStore

/-- A store with the log of the calls that led to it. -/
structure SessionHistory (Digest : Type) where
  store : SessionStore Digest
  log : List (SessionEvent Digest)

namespace SessionHistory

/-- A store without a history. -/
def start : SessionHistory Digest := ⟨.fresh, []⟩

/-- One call, and what it adds to the history. -/
def step (bounds : SessionBounds) (digest : String → Digest) (history : SessionHistory Digest)
    (call : SessionCall) : SessionHistory Digest :=
  ⟨(history.store.perform bounds digest call).2,
    history.log ++ history.store.events bounds digest call⟩

/-- The history of a sequence of calls on a fresh store. -/
def after (bounds : SessionBounds) (digest : String → Digest) (calls : List SessionCall) :
    SessionHistory Digest :=
  calls.foldl (step bounds digest) start

/-- The tokens created, in order. -/
def tokens (history : SessionHistory Digest) : List String :=
  history.log.filterMap fun e =>
    match e with
    | .created c => some c.token
    | _ => none

/-- The tokens of a run: those that its calls name, and those that it creates. -/
def mentioned (bounds : SessionBounds) (digest : String → Digest) (calls : List SessionCall) :
    List String :=
  calls.filterMap SessionCall.token? ++ (after bounds digest calls).tokens

end SessionHistory

/-! ## What lasts -/

/-- The event ends the session of a creation. -/
def SessionEvent.Ends (digest : String → Digest) (c : Creation) : SessionEvent Digest → Prop
  | .created _ => False
  | .invalidated token => token = c.token
  | .evicted d => d = digest c.token

/-- The session was created and neither invalidated nor evicted since. -/
def Lasts (digest : String → Digest) (c : Creation) (log : List (SessionEvent Digest)) : Prop :=
  ∃ before after, log = before ++ .created c :: after ∧ ∀ e ∈ after, ¬e.Ends digest c

/-- No other token created has the digest of this one. -/
def ToldApart (digest : String → Digest) (log : List (SessionEvent Digest)) (token : String) :
    Prop :=
  ∀ c, .created c ∈ log → digest c.token = digest token → c.token = token

/-- One session was created before another. -/
def Precedes (c c' : Creation) (log : List (SessionEvent Digest)) : Prop :=
  ∃ before between after, log = before ++ .created c :: between ++ .created c' :: after

omit [DecidableEq Digest] in
theorem Lasts.mem (h : Lasts digest c log) : .created c ∈ log := by
  obtain ⟨before, after, rfl, -⟩ := h
  simp

omit [DecidableEq Digest] in
theorem lasts_concat :
    Lasts digest c (log ++ [e]) ↔ Lasts digest c log ∧ ¬e.Ends digest c ∨ e = .created c := by
  constructor
  · rintro ⟨before, after, heq, hafter⟩
    cases after using List.reverseRecOn with
    | nil =>
      have hlast := List.append_inj_right' heq rfl
      exact .inr (List.cons.inj hlast).1
    | append_singleton after last =>
      rw [← List.cons_append, ← List.append_assoc] at heq
      obtain ⟨rfl, hlast⟩ := List.append_inj' heq rfl
      obtain rfl := (List.cons.inj hlast).1
      exact .inl ⟨⟨before, after, rfl, fun x hx => hafter x (by simp [hx])⟩, hafter e (by simp)⟩
  · rintro (⟨⟨before, after, rfl, hafter⟩, hends⟩ | rfl)
    · refine ⟨before, after ++ [e], by simp, fun x hx => ?_⟩
      rcases List.mem_append.mp hx with hx | hx
      · exact hafter x hx
      · obtain rfl := List.mem_singleton.mp hx
        exact hends
    · exact ⟨log, [], rfl, by simp⟩

omit [DecidableEq Digest] in
theorem Precedes.concat (h : Precedes c c' log) : Precedes c c' (log ++ [e]) := by
  obtain ⟨before, between, after, rfl⟩ := h
  exact ⟨before, between, after ++ [e], by simp⟩

omit [DecidableEq Digest] in
/-- What was created before precedes what is created now. -/
theorem precedes_new (h : .created c ∈ log) : Precedes c c' (log ++ [.created c']) := by
  obtain ⟨before, after, rfl⟩ := List.append_of_mem h
  exact ⟨before, after, [], rfl⟩

/-! ## The eviction loop -/

/-- Where there is room nothing is evicted. -/
theorem evictRounds_of_lt {sessions : Dict Digest SessionRecord}
    (h : sessions.size < bounds.maximumSessions) (rounds : Nat) :
    evictRounds bounds rounds sessions = sessions ∧ evictions bounds rounds sessions = [] := by
  cases rounds with
  | zero => exact ⟨rfl, rfl⟩
  | succ rounds =>
    unfold evictRounds evictions
    rw [if_neg (by omega), if_neg (by omega)]
    exact ⟨rfl, rfl⟩

/-- A full store loses its oldest session and no other. -/
theorem evict_full {sessions : Dict Digest SessionRecord}
    (h : sessions.size = bounds.maximumSessions) :
    ∃ oldest, sessions.least? SessionRecord.sequence = some oldest ∧
      evict bounds sessions = sessions.erase oldest ∧
      evictions bounds sessions.size sessions = [oldest] := by
  have hpositive := bounds.sessionsPositive
  obtain ⟨rounds, hrounds⟩ : ∃ rounds, sessions.size = rounds + 1 := ⟨sessions.size - 1, by omega⟩
  cases hleast : sessions.least? SessionRecord.sequence with
  | none =>
    have hzero := Dict.least?_eq_none hleast
    omega
  | some oldest =>
    have hsmaller := Dict.size_erase_lt (Dict.least?_mem hleast)
    obtain ⟨hrest, hnone⟩ :=
      @evictRounds_of_lt _ _ bounds (sessions.erase oldest) (by omega) rounds
    refine ⟨oldest, rfl, ?_, ?_⟩
    · unfold evict
      rw [hrounds, evictRounds, if_pos (by omega), hleast]
      exact hrest
    · rw [hrounds, evictions, if_pos (by omega), hleast]
      dsimp only
      rw [hnone]

/-! ## The invariant -/

/-- The record is that of a creation. -/
structure Creation.Matches (bounds : SessionBounds) (c : Creation) (record : SessionRecord) :
    Prop where
  username : record.username = c.username
  csrfToken : record.csrfToken = c.csrfToken
  expiresAt : record.expiresAt = c.createdAt + bounds.ttlSeconds

/-- No reading has found the session expired. -/
def Creation.Unexpired (bounds : SessionBounds) (c : Creation) (seen : List ℚ) : Prop :=
  ∀ r ∈ seen, r < c.createdAt + bounds.ttlSeconds

/-- What has not expired had not expired before. -/
theorem Creation.Unexpired.before {more : List ℚ} (h : c.Unexpired bounds (seen ++ more)) :
    c.Unexpired bounds seen := fun r hr => h r (List.mem_append_left _ hr)

/-- What the store holds of the log, the readings of the clock so far being `seen`. -/
structure Kept (bounds : SessionBounds) (digest : String → Digest) (store : SessionStore Digest)
    (log : List (SessionEvent Digest)) (seen : List ℚ) : Prop where
  small : store.sessions.size ≤ bounds.maximumSessions
  /-- Created tokens use the wire grammar. -/
  wellFormed : ∀ c, .created c ∈ log → opaqueTokenIsValid c.token = true
  /-- A record is that of a lasting creation. -/
  stored : ∀ d record, store.sessions.get? d = some record → record.sequence ≤ store.sequence ∧
    ∃ c, Lasts digest c log ∧ digest c.token = d ∧ c.Matches bounds record
  /-- A lasting creation has its record until a reading finds it expired. -/
  lasting : ∀ c, Lasts digest c log → c.Unexpired bounds seen →
    ∃ record, store.sessions.get? (digest c.token) = some record ∧ c.Matches bounds record
  /-- Records are numbered in the order of their creations. -/
  ordered : ∀ c c' record record', Lasts digest c log → c.Unexpired bounds seen →
    Lasts digest c' log → c'.Unexpired bounds seen →
    store.sessions.get? (digest c.token) = some record →
    store.sessions.get? (digest c'.token) = some record' →
    c = c' ∨ Precedes c c' log ∧ record.sequence < record'.sequence ∨
      Precedes c' c log ∧ record'.sequence < record.sequence

omit [DecidableEq Digest] in
theorem not_lasts_nil : ¬Lasts digest c ([] : List (SessionEvent Digest)) := by
  rintro ⟨before, after, heq, -⟩
  simp at heq

theorem kept_fresh : Kept bounds digest .fresh [] [] where
  small := Nat.zero_le _
  wellFormed := by simp
  stored := by
    intro d record h
    cases h
  lasting := fun c hc => absurd hc not_lasts_nil
  ordered := fun c _ _ _ hc => absurd hc not_lasts_nil

/-- Losing records that a reading finds expired keeps the invariant. -/
theorem Kept.shrink (h : Kept bounds digest store log seen) {smaller : SessionStore Digest}
    {more : List ℚ} (hsequence : smaller.sequence = store.sequence)
    (hsize : smaller.sessions.size ≤ store.sessions.size)
    (hget : ∀ d, smaller.sessions.get? d = store.sessions.get? d ∨
      smaller.sessions.get? d = none ∧ ∀ record, store.sessions.get? d = some record →
        ∃ r ∈ seen ++ more, record.expiresAt ≤ r) :
    Kept bounds digest smaller log (seen ++ more) := by
  have hback : ∀ {d record}, smaller.sessions.get? d = some record →
      store.sessions.get? d = some record := by
    intro d record hd
    rcases hget d with heq | ⟨hnone, -⟩
    · rwa [← heq]
    · rw [hnone] at hd
      cases hd
  refine ⟨hsize.trans h.small, h.wellFormed, ?_, ?_, ?_⟩
  · intro d record hd
    rw [hsequence]
    exact h.stored d record (hback hd)
  · intro c hc hunexpired
    obtain ⟨record, hrecord, hmatches⟩ := h.lasting c hc hunexpired.before
    rcases hget (digest c.token) with heq | ⟨-, hexpired⟩
    · exact ⟨record, heq.trans hrecord, hmatches⟩
    · obtain ⟨r, hr, hle⟩ := hexpired record hrecord
      have hlater := hunexpired r hr
      rw [hmatches.expiresAt] at hle
      exact absurd hlater (not_lt.mpr hle)
  · intro c c' record record' hc hunexpired hc' hunexpired' hd hd'
    exact h.ordered c c' record record' hc hunexpired.before hc' hunexpired'.before (hback hd)
      (hback hd')

/-- An event that ends the sessions of a digest takes its record away. -/
theorem Kept.ended (h : Kept bounds digest store log seen) {smaller : SessionStore Digest}
    {d : Digest} (hsequence : smaller.sequence = store.sequence)
    (hsize : smaller.sessions.size ≤ store.sessions.size)
    (herased : ∀ d', smaller.sessions.get? d' = if d' = d then none else store.sessions.get? d')
    (hcreated : ∀ c, e ≠ .created c)
    (hends : ∀ c, .created c ∈ log → (e.Ends digest c ↔ digest c.token = d)) :
    Kept bounds digest smaller (log ++ [e]) seen := by
  have hlasts : ∀ {c}, Lasts digest c (log ++ [e]) ↔ Lasts digest c log ∧ digest c.token ≠ d := by
    intro c
    rw [lasts_concat]
    constructor
    · rintro (⟨hc, hnot⟩ | hc)
      · exact ⟨hc, fun hd => hnot ((hends c hc.mem).mpr hd)⟩
      · exact absurd hc (hcreated c)
    · rintro ⟨hc, hd⟩
      exact .inl ⟨hc, fun hend => hd ((hends c hc.mem).mp hend)⟩
  have hget : ∀ {d' record}, smaller.sessions.get? d' = some record ↔
      d' ≠ d ∧ store.sessions.get? d' = some record := by
    intro d' record
    rw [herased]
    by_cases hd : d' = d
    · simp [hd]
    · simp [hd]
  refine ⟨hsize.trans h.small, ?_, ?_, ?_, ?_⟩
  · intro c hc
    rcases List.mem_append.mp hc with hc | hc
    · exact h.wellFormed c hc
    · exact absurd (List.mem_singleton.mp hc).symm (hcreated c)
  · intro d' record hrecord
    obtain ⟨hne, hrecord⟩ := hget.mp hrecord
    obtain ⟨hnumber, c, hc, rfl, hmatches⟩ := h.stored d' record hrecord
    exact ⟨hnumber.trans hsequence.ge, c, hlasts.mpr ⟨hc, hne⟩, rfl, hmatches⟩
  · intro c hc hunexpired
    obtain ⟨hc, hne⟩ := hlasts.mp hc
    obtain ⟨record, hrecord, hmatches⟩ := h.lasting c hc hunexpired
    exact ⟨record, hget.mpr ⟨hne, hrecord⟩, hmatches⟩
  · intro c c' record record' hc hunexpired hc' hunexpired' hd hd'
    rcases h.ordered c c' record record' (hlasts.mp hc).1 hunexpired (hlasts.mp hc').1 hunexpired'
      (hget.mp hd).2 (hget.mp hd').2 with heq | ⟨hbefore, hless⟩ | ⟨hafter, hless⟩
    · exact .inl heq
    · exact .inr (.inl ⟨hbefore.concat, hless⟩)
    · exact .inr (.inr ⟨hafter.concat, hless⟩)

/-- A new session with a free digest and room for it keeps the invariant. -/
theorem Kept.created (h : Kept bounds digest store log seen)
    (hroom : store.sessions.size < bounds.maximumSessions)
    (hfree : digest c.token ∉ store.sessions.keys) (hvalid : opaqueTokenIsValid c.token = true)
    {record : SessionRecord} (hmatches : c.Matches bounds record)
    (hsequence : record.sequence = store.sequence + 1) :
    Kept bounds digest
      { sessions := store.sessions.set (digest c.token) record, sequence := store.sequence + 1 }
      (log ++ [.created c]) seen := by
  have hlasts : ∀ {c'}, Lasts digest c' (log ++ [.created c]) ↔ Lasts digest c' log ∨ c' = c := by
    intro c'
    rw [lasts_concat]
    constructor
    · rintro (⟨hc', -⟩ | hc')
      · exact .inl hc'
      · exact .inr (SessionEvent.created.inj hc').symm
    · rintro (hc' | rfl)
      · exact .inl ⟨hc', not_false⟩
      · exact .inr rfl
  have hnone := Dict.get?_eq_none.mpr hfree
  -- what is stored under another digest was stored before
  have hother : ∀ {d}, d ≠ digest c.token →
      (store.sessions.set (digest c.token) record).get? d = store.sessions.get? d := by
    intro d hd
    rw [Dict.get?_set, if_neg hd]
  have hold : ∀ {c'}, Lasts digest c' log → c'.Unexpired bounds seen →
      digest c'.token ≠ digest c.token := by
    intro c' hc' hunexpired heq
    obtain ⟨record', hrecord', -⟩ := h.lasting c' hc' hunexpired
    rw [heq, hnone] at hrecord'
    cases hrecord'
  refine ⟨?_, ?_, ?_, ?_, ?_⟩
  · rw [Dict.size_set_of_not_mem hfree]
    exact hroom
  · intro c' hc'
    rcases List.mem_append.mp hc' with hc' | hc'
    · exact h.wellFormed c' hc'
    · obtain rfl := SessionEvent.created.inj (List.mem_singleton.mp hc')
      exact hvalid
  · intro d record' hrecord'
    by_cases hd : d = digest c.token
    · subst hd
      rw [Dict.get?_set_self] at hrecord'
      obtain rfl := Option.some.inj hrecord'
      exact ⟨hsequence.le, c, hlasts.mpr (.inr rfl), rfl, hmatches⟩
    · rw [hother hd] at hrecord'
      obtain ⟨hle, c', hc', rfl, hmatches'⟩ := h.stored d record' hrecord'
      exact ⟨Nat.le_succ_of_le hle, c', hlasts.mpr (.inl hc'), rfl, hmatches'⟩
  · intro c' hc' hunexpired
    rcases hlasts.mp hc' with hc' | rfl
    · obtain ⟨record', hrecord', hmatches'⟩ := h.lasting c' hc' hunexpired
      exact ⟨record', by rw [hother (hold hc' hunexpired), hrecord'], hmatches'⟩
    · exact ⟨record, Dict.get?_set_self _ _ _, hmatches⟩
  · intro c₁ c₂ record₁ record₂ hc₁ hunexpired₁ hc₂ hunexpired₂ hd₁ hd₂
    rcases hlasts.mp hc₁ with hold₁ | rfl
    · rw [hother (hold hold₁ hunexpired₁)] at hd₁
      have hle₁ := (h.stored _ _ hd₁).1
      rcases hlasts.mp hc₂ with hold₂ | rfl
      · rw [hother (hold hold₂ hunexpired₂)] at hd₂
        rcases h.ordered c₁ c₂ record₁ record₂ hold₁ hunexpired₁ hold₂ hunexpired₂ hd₁ hd₂ with
          heq | ⟨hbefore, hless⟩ | ⟨hafter, hless⟩
        · exact .inl heq
        · exact .inr (.inl ⟨hbefore.concat, hless⟩)
        · exact .inr (.inr ⟨hafter.concat, hless⟩)
      · rw [Dict.get?_set_self] at hd₂
        obtain rfl := Option.some.inj hd₂
        exact .inr (.inl ⟨precedes_new hold₁.mem, by omega⟩)
    · rw [Dict.get?_set_self] at hd₁
      obtain rfl := Option.some.inj hd₁
      rcases hlasts.mp hc₂ with hold₂ | rfl
      · rw [hother (hold hold₂ hunexpired₂)] at hd₂
        have hle₂ := (h.stored _ _ hd₂).1
        exact .inr (.inr ⟨precedes_new hold₂.mem, by omega⟩)
      · exact .inl rfl

/-! ## What each operation keeps -/

/-- The purge takes the expired sessions one by one. -/
theorem get?_purgeExpired (now : ℚ) (store : SessionStore Digest) (d : Digest) :
    (store.purgeExpired now).sessions.get? d =
      (store.sessions.get? d).bind (unexpired now) :=
  Dict.get?_collect _ _ _

theorem purged_or_expired (now : ℚ) (store : SessionStore Digest) (d : Digest) :
    (store.purgeExpired now).sessions.get? d = store.sessions.get? d ∨
      (store.purgeExpired now).sessions.get? d = none ∧
        ∀ record, store.sessions.get? d = some record → record.expiresAt ≤ now := by
  rw [get?_purgeExpired]
  cases hd : store.sessions.get? d with
  | none => exact .inl rfl
  | some record =>
    rw [Option.bind_some]
    unfold unexpired
    by_cases hexpired : now ≥ record.expiresAt
    · rw [if_pos hexpired]
      refine .inr ⟨rfl, fun record' h => ?_⟩
      obtain rfl := Option.some.inj h
      exact hexpired
    · rw [if_neg hexpired]
      exact .inl rfl

theorem Kept.purge (h : Kept bounds digest store log seen) (now : ℚ) :
    Kept bounds digest (store.purgeExpired now) log (seen ++ [now]) := by
  refine h.shrink rfl (Dict.size_collect_le _ _) (fun d => ?_)
  rcases purged_or_expired now store d with hsame | ⟨hnone, hexpired⟩
  · exact .inl hsame
  · exact .inr ⟨hnone, fun record hrecord => ⟨now, by simp, hexpired record hrecord⟩⟩

/-- Looking a token up keeps the invariant. -/
theorem Kept.resolve (h : Kept bounds digest store log seen) (now : ℚ) (token : String) :
    Kept bounds digest (store.resolve digest now token).2 log (seen ++ [now]) := by
  unfold SessionStore.resolve
  split
  · exact h.shrink rfl (Nat.le_refl _) (fun d => .inl rfl)
  split
  · exact h.purge now
  · rename_i record hrecord
    split
    · rename_i hexpired
      refine h.shrink rfl ((Dict.size_collect_le _ _).trans (Dict.size_erase_le _ _)) (fun d => ?_)
      by_cases hd : d = digest token
      · subst hd
        refine .inr ⟨?_, fun record' hrecord' => ?_⟩
        · rw [get?_purgeExpired, Dict.get?_erase_self, Option.bind_none]
        · rw [hrecord] at hrecord'
          obtain rfl := Option.some.inj hrecord'
          exact ⟨now, by simp, hexpired⟩
      · have herased : (store.sessions.erase (digest token)).get? d = store.sessions.get? d := by
          rw [Dict.get?_erase, if_neg hd]
        rcases purged_or_expired now
          { store with sessions := store.sessions.erase (digest token) } d with
          hsame | ⟨hnone, hgone⟩
        · exact .inl (hsame.trans herased)
        · refine .inr ⟨hnone, fun record' hrecord' => ⟨now, by simp, hgone record' ?_⟩⟩
          exact herased.trans hrecord'
    · exact h.purge now

theorem Kept.evicted (h : Kept bounds digest store log seen) (d : Digest) :
    Kept bounds digest { store with sessions := store.sessions.erase d } (log ++ [.evicted d])
      seen :=
  h.ended rfl (Dict.size_erase_le _ _) (fun _ => Dict.get?_erase _ _ _) (fun _ => nofun)
    (fun _ _ => eq_comm)

/-- Invalidating a token that is told apart from those created keeps the invariant. -/
theorem Kept.invalidate (h : Kept bounds digest store log seen)
    (hapart : ToldApart digest log token) :
    Kept bounds digest (store.invalidate digest token).2 (log ++ [.invalidated token]) seen := by
  have hends : ∀ c : Creation, .created c ∈ log →
      ((SessionEvent.invalidated token).Ends digest c ↔ digest c.token = digest token) :=
    fun c hc => ⟨fun htoken => congrArg digest (Eq.symm htoken),
      fun heq => (hapart c hc heq).symm⟩
  unfold SessionStore.invalidate
  split
  · -- a malformed token names no session
    rename_i hmalformed
    refine h.ended rfl (Nat.le_refl _) (fun d' => ?_) (fun c heq => by cases heq) hends
    split
    · rename_i hd
      rw [hd]
      by_contra hsome
      obtain ⟨record, hrecord⟩ := Option.ne_none_iff_exists'.mp hsome
      obtain ⟨-, c, hc, heq, -⟩ := h.stored _ _ hrecord
      have hvalid := h.wellFormed c hc.mem
      rw [hapart c hc.mem heq] at hvalid
      rw [hvalid] at hmalformed
      cases hmalformed
    · rfl
  · exact h.ended rfl (Dict.size_erase_le _ _) (fun _ => Dict.get?_erase _ _ _)
      (fun c heq => by cases heq) hends

/-- Making room keeps the invariant, and leaves room. -/
theorem Kept.makeRoom (h : Kept bounds digest store log seen) (now : ℚ) :
    Kept bounds digest (store.makeRoom bounds now)
        (log ++ (evictions bounds (store.purgeExpired now).sessions.size
          (store.purgeExpired now).sessions).map .evicted) (seen ++ [now]) ∧
      (store.makeRoom bounds now).sessions.size < bounds.maximumSessions := by
  have hpurged := h.purge now
  rcases Nat.lt_or_ge (store.purgeExpired now).sessions.size bounds.maximumSessions with
    hlt | hfull
  · obtain ⟨hevict, hnone⟩ := evictRounds_of_lt hlt (store.purgeExpired now).sessions.size
    have hroom : store.makeRoom bounds now = store.purgeExpired now := by
      unfold SessionStore.makeRoom SessionStore.evict
      dsimp only
      rw [hevict]
    rw [hnone, hroom, List.map_nil, List.append_nil]
    exact ⟨hpurged, hlt⟩
  · obtain ⟨oldest, hleast, hevict, hevictions⟩ :=
      evict_full (Nat.le_antisymm hpurged.small hfull)
    have hroom : store.makeRoom bounds now =
        { store.purgeExpired now with
          sessions := (store.purgeExpired now).sessions.erase oldest } := by
      unfold SessionStore.makeRoom
      dsimp only
      rw [hevict]
    have hsmaller := Dict.size_erase_lt (Dict.least?_mem hleast)
    rw [hevictions, hroom]
    exact ⟨hpurged.evicted oldest, lt_of_lt_of_le hsmaller hpurged.small⟩

/-- By induction on the draws left: the token is valid and new. -/
theorem uniqueToken_free {sessions : Dict Digest SessionRecord} {draws : Nat → String} :
    ∀ {left index : Nat} {next : Nat},
      uniqueToken digest sessions draws left index = .ok (token, next) →
        opaqueTokenIsValid token = true ∧ digest token ∉ sessions.keys
  | 0, _, _, h => nomatch h
  | left + 1, index, next, h => by
    unfold uniqueToken newToken at h
    by_cases hvalid : opaqueTokenIsValid (draws index) = true
    · rw [if_pos hvalid] at h
      by_cases hfree : digest (draws index) ∉ sessions.keys
      · replace h : (if digest (draws index) ∉ sessions.keys then
          (.ok (draws index, index + 1) : Except String (String × Nat))
          else uniqueToken digest sessions draws left (index + 1)) = .ok (token, next) := h
        rw [if_pos hfree] at h
        obtain ⟨rfl, -⟩ := Prod.mk.inj (Except.ok.inj h)
        exact ⟨hvalid, hfree⟩
      · replace h : (if digest (draws index) ∉ sessions.keys then
          (.ok (draws index, index + 1) : Except String (String × Nat))
          else uniqueToken digest sessions draws left (index + 1)) = .ok (token, next) := h
        rw [if_neg hfree] at h
        exact uniqueToken_free h
    · rw [if_neg hvalid] at h
      cases h

/-- Both tokens are drawn, and the session's is new. -/
theorem newTokens_free {sessions : Dict Digest SessionRecord} {draws : Nat → String}
    {csrfToken : String} (h : newTokens digest sessions draws = .ok (token, csrfToken)) :
    opaqueTokenIsValid token = true ∧ digest token ∉ sessions.keys := by
  unfold newTokens at h
  cases hunique : uniqueToken digest sessions draws 8 0 with
  | error e =>
    rw [hunique] at h
    cases h
  | ok drawn =>
    obtain ⟨first, index⟩ := drawn
    rw [hunique] at h
    change (newToken (draws index) >>= fun csrf => pure (first, csrf)) = _ at h
    cases hcsrf : newToken (draws index) with
    | error e =>
      rw [hcsrf] at h
      cases h
    | ok csrf =>
      rw [hcsrf] at h
      obtain ⟨rfl, -⟩ := Prod.mk.inj (Except.ok.inj h)
      exact uniqueToken_free hunique

/-- Creating a session keeps the invariant, also where the token source makes it raise. -/
theorem Kept.create (h : Kept bounds digest store log seen) (now : ℚ) (username : String)
    (draws : Nat → String) :
    Kept bounds digest (store.create bounds digest now username draws).2
      (log ++ store.events bounds digest (.create now username draws)) (seen ++ [now]) := by
  obtain ⟨hroom, hless⟩ := h.makeRoom now
  unfold SessionStore.events
  dsimp only
  unfold SessionStore.create
  dsimp only
  cases htokens : newTokens digest (store.makeRoom bounds now).sessions draws with
  | error e =>
    dsimp only
    rw [List.append_nil]
    exact hroom
  | ok tokens =>
    obtain ⟨token, csrfToken⟩ := tokens
    obtain ⟨hvalid, hfree⟩ := newTokens_free htokens
    have hmatches : (Creation.mk token username csrfToken now).Matches bounds
        ⟨username, csrfToken, now, now + bounds.ttlSeconds,
          (store.makeRoom bounds now).sequence + 1⟩ := ⟨rfl, rfl, rfl⟩
    have hcreated := hroom.created (c := ⟨token, username, csrfToken, now⟩) hless hfree hvalid
      hmatches rfl
    rw [List.append_assoc] at hcreated
    exact hcreated

/-- Every call keeps the invariant, with its events and its reading added. -/
theorem Kept.perform (h : Kept bounds digest store log seen) {call : SessionCall}
    (hapart : ∀ token ∈ call.token?, ToldApart digest log token) :
    Kept bounds digest (store.perform bounds digest call).2
      (log ++ store.events bounds digest call) (seen ++ call.reading.toList) := by
  cases call with
  | create now username draws => exact h.create now username draws
  | resolve now token =>
    show Kept bounds digest (store.resolve digest now token).2 (log ++ []) (seen ++ [now])
    rw [List.append_nil]
    exact h.resolve now token
  | invalidate token =>
    show Kept bounds digest (store.invalidate digest token).2 (log ++ [.invalidated token])
      (seen ++ [])
    rw [List.append_nil]
    exact h.invalidate (hapart token rfl)
  | activeCount now =>
    show Kept bounds digest (store.purgeExpired now) (log ++ []) (seen ++ [now])
    rw [List.append_nil]
    exact h.purge now

omit [DecidableEq Digest] in
/-- The tokens of a history are those of its creations. -/
theorem SessionHistory.mem_tokens {history : SessionHistory Digest} :
    token ∈ history.tokens ↔ ∃ c, .created c ∈ history.log ∧ c.token = token := by
  unfold SessionHistory.tokens
  rw [List.mem_filterMap]
  constructor
  · rintro ⟨e, he, htoken⟩
    cases e with
    | created c => exact ⟨c, he, Option.some.inj htoken⟩
    | invalidated => cases htoken
    | evicted => cases htoken
  · rintro ⟨c, hc, rfl⟩
    exact ⟨.created c, hc, rfl⟩

theorem SessionHistory.after_concat (calls : List SessionCall) (call : SessionCall) :
    SessionHistory.after bounds digest (calls ++ [call]) =
      (SessionHistory.after bounds digest calls).step bounds digest call := by
  simp [SessionHistory.after]

/-- A run creates what its beginning created. -/
theorem SessionHistory.mentioned_concat (calls : List SessionCall) (call : SessionCall) :
    mentioned bounds digest calls ⊆ mentioned bounds digest (calls ++ [call]) ∧
      ∀ token ∈ call.token?, token ∈ mentioned bounds digest (calls ++ [call]) := by
  have hnamed : (calls ++ [call]).filterMap SessionCall.token? =
      calls.filterMap SessionCall.token? ++ call.token?.toList := by
    rw [List.filterMap_append]
    cases h : call.token? <;> simp [h]
  have hcreated : (after bounds digest calls).tokens ⊆
      (after bounds digest (calls ++ [call])).tokens := by
    intro token htoken
    obtain ⟨c, hc, rfl⟩ := mem_tokens.mp htoken
    rw [mem_tokens, after_concat]
    exact ⟨c, List.mem_append_left _ hc, rfl⟩
  unfold mentioned
  rw [hnamed]
  constructor
  · intro token htoken
    rcases List.mem_append.mp htoken with hcalls | hlog
    · exact List.mem_append_left _ (List.mem_append_left _ hcalls)
    · exact List.mem_append_right _ (hcreated hlog)
  · intro token htoken
    exact List.mem_append_left _ (List.mem_append_right _ (Option.mem_toList.mpr htoken))

/-- A token of a collision-free run is told apart from those that the run created. -/
theorem toldApart_of_mentioned {calls : List SessionCall} {tokens : List String}
    (hdigest : CollisionFree digest tokens)
    (hmentioned : SessionHistory.mentioned bounds digest calls ⊆ tokens) (htoken : token ∈ tokens) :
    ToldApart digest (SessionHistory.after bounds digest calls).log token := by
  intro c hc heq
  have hmem : c.token ∈ (SessionHistory.after bounds digest calls).tokens :=
    SessionHistory.mem_tokens.mpr ⟨c, hc, rfl⟩
  exact hdigest c.token (hmentioned (List.mem_append_right _ hmem)) token htoken heq

/-- The invariant holds after every sequence of calls whose tokens do not collide. -/
theorem kept_after (calls : List SessionCall)
    (hdigest : CollisionFree digest (SessionHistory.mentioned bounds digest calls)) :
    Kept bounds digest (SessionHistory.after bounds digest calls).store
      (SessionHistory.after bounds digest calls).log (calls.filterMap SessionCall.reading) := by
  induction calls using List.reverseRecOn with
  | nil => exact kept_fresh
  | append_singleton calls call ih =>
    have hreadings : (calls ++ [call]).filterMap SessionCall.reading =
        calls.filterMap SessionCall.reading ++ call.reading.toList := by
      rw [List.filterMap_append]
      cases h : call.reading <;> simp [h]
    obtain ⟨hearlier, hcall⟩ := @SessionHistory.mentioned_concat _ _ bounds digest calls call
    rw [SessionHistory.after_concat, hreadings]
    refine (ih (hdigest.mono hearlier)).perform fun token htoken => ?_
    exact toldApart_of_mentioned hdigest hearlier (hcall token htoken)

/-! ## Answers -/

/-- The context of a valid answer. -/
def SessionLookup.session? : SessionLookup → Option SessionContext
  | valid session => some session
  | invalid => none
  | expired => none

/-- The answer that a record gives, or the lack of one. -/
def SessionLookup.about (now : ℚ) : Option SessionRecord → SessionLookup
  | none => invalid
  | some record => if now ≥ record.expiresAt then expired else valid (record.context now)

/-- The answer to a token is that of its record. -/
theorem resolve_answer (store : SessionStore Digest) (now : ℚ) (token : String) :
    (store.resolve digest now token).1 =
      if opaqueTokenIsValid token then .about now (store.sessions.get? (digest token))
      else .invalid := by
  unfold SessionStore.resolve
  cases opaqueTokenIsValid token with
  | false => rfl
  | true =>
    rw [if_neg (by decide), if_pos rfl]
    cases hrecord : store.sessions.get? (digest token) with
    | none => rfl
    | some record =>
      dsimp only [SessionLookup.about]
      split
      · rfl
      · rfl

/-- The valid answer to a token is the record's, unless that has expired. -/
theorem resolve_session (store : SessionStore Digest) (now : ℚ) (token : String) :
    (store.resolve digest now token).1.session? =
      if opaqueTokenIsValid token then
        ((store.sessions.get? (digest token)).bind (unexpired now)).map (·.context now)
      else none := by
  rw [resolve_answer]
  cases opaqueTokenIsValid token with
  | false => rfl
  | true =>
    rw [if_pos rfl, if_pos rfl]
    cases store.sessions.get? (digest token) with
    | none => rfl
    | some record =>
      rw [Option.bind_some]
      unfold SessionLookup.about unexpired
      dsimp only
      split
      · rfl
      · rfl

/-- A reading before the deadline expires nothing. -/
theorem Creation.Unexpired.concat (h : c.Unexpired bounds seen)
    (hnow : now < c.createdAt + bounds.ttlSeconds) : c.Unexpired bounds (seen ++ [now]) := by
  intro r hr
  rcases List.mem_append.mp hr with hr | hr
  · exact h r hr
  · obtain rfl := List.mem_singleton.mp hr
    exact hnow

/-- On a clock that has not gone back, what has not expired was never found expired. -/
theorem unexpired_of_lt (hnow : ∀ r ∈ seen, r ≤ now)
    (h : now < c.createdAt + bounds.ttlSeconds) : c.Unexpired bounds seen :=
  fun r hr => lt_of_le_of_lt (hnow r hr) h

/-- A token is honoured exactly while its creation lasts and its lifetime runs. -/
theorem Kept.resolve_iff (h : Kept bounds digest store log seen)
    (hapart : ToldApart digest log token) (hnow : ∀ r ∈ seen, r ≤ now) {context : SessionContext} :
    (store.resolve digest now token).1.session? = some context ↔
      ∃ c, Lasts digest c log ∧ c.token = token ∧ now < c.createdAt + bounds.ttlSeconds ∧
        context = ⟨c.username, c.csrfToken, c.createdAt + bounds.ttlSeconds - now⟩ := by
  have hcontext : ∀ {c : Creation} {record : SessionRecord}, c.Matches bounds record →
      now < c.createdAt + bounds.ttlSeconds → record.context now =
        ⟨c.username, c.csrfToken, c.createdAt + bounds.ttlSeconds - now⟩ := by
    intro c record hmatches hlt
    unfold SessionRecord.context
    rw [hmatches.username, hmatches.csrfToken, hmatches.expiresAt, max_eq_right (by linarith)]
  rw [resolve_session]
  constructor
  · intro hvalid
    split at hvalid
    · obtain ⟨record, hrecord, rfl⟩ := Option.map_eq_some_iff.mp hvalid
      obtain ⟨record', hget, hlive⟩ := Option.bind_eq_some_iff.mp hrecord
      obtain ⟨-, c, hc, htoken, hmatches⟩ := h.stored _ _ hget
      unfold unexpired at hlive
      split at hlive
      · cases hlive
      · rename_i hexpired
        obtain rfl := Option.some.inj hlive
        rw [hmatches.expiresAt] at hexpired
        have hlt := not_le.mp hexpired
        exact ⟨c, hc, hapart c hc.mem htoken, hlt, hcontext hmatches hlt⟩
    · cases hvalid
  · rintro ⟨c, hc, rfl, hlt, rfl⟩
    obtain ⟨record, hget, hmatches⟩ := h.lasting c hc (unexpired_of_lt hnow hlt)
    have hlive : unexpired now record = some record := by
      unfold unexpired
      rw [hmatches.expiresAt]
      exact if_neg (not_le.mpr hlt)
    rw [if_pos (h.wellFormed c hc.mem), hget, Option.bind_some, hlive, Option.map_some,
      hcontext hmatches hlt]

/-- A session that a creation evicts is the earliest created one of a full store. -/
theorem Kept.evicts (h : Kept bounds digest store log seen) (hnow : ∀ r ∈ seen, r ≤ now)
    {username : String} {draws : Nat → String} (hlive : now < c.createdAt + bounds.ttlSeconds)
    (hc : Lasts digest c log)
    (hevicted : .evicted (digest c.token) ∈
      store.events bounds digest (.create now username draws)) :
    (store.activeCount now).1 = bounds.maximumSessions ∧
      ∀ c', Lasts digest c' log → now < c'.createdAt + bounds.ttlSeconds →
        c = c' ∨ Precedes c c' log := by
  have hpurged := h.purge now
  have hmem : digest c.token ∈ evictions bounds (store.purgeExpired now).sessions.size
      (store.purgeExpired now).sessions := by
    unfold SessionStore.events at hevicted
    dsimp only at hevicted
    rcases List.mem_append.mp hevicted with hmem | hmem
    · obtain ⟨d, hd, heq⟩ := List.mem_map.mp hmem
      rwa [← SessionEvent.evicted.inj heq]
    · split at hmem
      · exact nomatch List.mem_singleton.mp hmem
      · cases hmem
  rcases Nat.lt_or_ge (store.purgeExpired now).sessions.size bounds.maximumSessions with
    hroom | hfull
  · rw [(evictRounds_of_lt hroom _).2] at hmem
    cases hmem
  have hsize := Nat.le_antisymm hpurged.small hfull
  obtain ⟨oldest, hleast, -, hevictions⟩ := evict_full hsize
  rw [hevictions, List.mem_singleton] at hmem
  refine ⟨hsize, fun c' hc' hlive' => ?_⟩
  obtain ⟨record, hrecord, hminimal⟩ := Dict.least?_le hleast
  rw [← hmem, ← Dict.get?_eq_some] at hrecord
  have hunexpired := (unexpired_of_lt hnow hlive).concat hlive
  have hunexpired' := (unexpired_of_lt hnow hlive').concat hlive'
  obtain ⟨record', hrecord', -⟩ := hpurged.lasting c' hc' hunexpired'
  have hle : record.sequence ≤ record'.sequence := hminimal _ (Dict.get?_eq_some.mp hrecord')
  rcases hpurged.ordered c c' record record' hc hunexpired hc' hunexpired' hrecord hrecord' with
    heq | ⟨hbefore, -⟩ | ⟨-, hless⟩
  · exact .inl heq
  · exact .inr hbefore
  · omega

/-- A later answer is the earlier one, but that an expired session may have been forgotten. -/
def SessionLookup.KeptBy (before after : SessionLookup) : Prop :=
  after = before ∨ before = expired ∧ after = invalid

/-- A purge keeps every answer of its time and later. -/
theorem keptBy_purge {later : ℚ} (hlater : now ≤ later) (store : SessionStore Digest)
    (token : String) :
    (store.resolve digest later token).1.KeptBy
      ((store.purgeExpired now).resolve digest later token).1 := by
  rw [resolve_answer, resolve_answer, get?_purgeExpired]
  cases opaqueTokenIsValid token with
  | false => exact .inl rfl
  | true =>
    rw [if_pos rfl, if_pos rfl]
    cases store.sessions.get? (digest token) with
    | none => exact .inl rfl
    | some record =>
      rw [Option.bind_some]
      unfold unexpired
      by_cases hexpired : now ≥ record.expiresAt
      · have hgone : SessionLookup.about later (some record) = .expired :=
          if_pos (le_trans hexpired hlater)
        rw [if_pos hexpired]
        exact .inr ⟨hgone, rfl⟩
      · rw [if_neg hexpired]
        exact .inl rfl

/-- Removing a digest changes no answer for a token with another one. -/
theorem resolve_erase {other : String} {d : Digest} (hother : digest other ≠ d)
    (store : SessionStore Digest) (later : ℚ) :
    ({ store with sessions := store.sessions.erase d }.resolve digest later other).1 =
      (store.resolve digest later other).1 := by
  rw [resolve_answer, resolve_answer, Dict.get?_erase, if_neg hother]

/-- Looking a token up, with the purge it brings, keeps the answers for the others. -/
theorem keptBy_resolve {other : String} {later : ℚ} (hother : digest other ≠ digest token)
    (hlater : now ≤ later) (store : SessionStore Digest) :
    (store.resolve digest later other).1.KeptBy
      ((store.resolve digest now token).2.resolve digest later other).1 := by
  have hstore : (store.resolve digest now token).2 = store ∨
      (store.resolve digest now token).2 = store.purgeExpired now ∨
      (store.resolve digest now token).2 =
        purgeExpired now { store with sessions := store.sessions.erase (digest token) } := by
    unfold SessionStore.resolve
    split
    · exact .inl rfl
    split
    · exact .inr (.inl rfl)
    split
    · exact .inr (.inr rfl)
    · exact .inr (.inl rfl)
  rcases hstore with hsame | hpurged | herased
  · rw [hsame]
    exact .inl rfl
  · rw [hpurged]
    exact keptBy_purge hlater store other
  · rw [herased, ← resolve_erase hother store later]
    exact keptBy_purge hlater _ other

/-- Invalidating a token changes no answer for the others. -/
theorem resolve_invalidate {other : String} {later : ℚ} (hother : digest other ≠ digest token)
    (store : SessionStore Digest) :
    ((store.invalidate digest token).2.resolve digest later other).1 =
      (store.resolve digest later other).1 := by
  unfold SessionStore.invalidate
  split
  · rfl
  · exact resolve_erase hother store later

/-- The CSRF check accepts exactly the token of the session. -/
theorem csrfIsValid_iff {session : SessionContext} {submitted : String} :
    csrfIsValid session submitted = true ↔
      submitted = session.csrfToken ∧ opaqueTokenIsValid submitted = true := by
  unfold csrfIsValid
  rw [Bool.and_eq_true, decide_eq_true_eq]
  exact ⟨fun h => ⟨h.2.symm, h.1⟩, fun h => ⟨h.2, h.1.symm⟩⟩

/-! ## The law of the store -/

/-- The law of the session store, after any sequence of calls whose tokens do not collide.

The cap holds.  A reading that is not before an earlier one finds a token valid exactly if it was
created less than the lifetime ago and neither invalidated nor evicted since, and answers with the
user and the CSRF token of that creation.  Creating a session evicts a live one only in a full
store, and then the one created first.  Looking up, counting and invalidating changes no answer for
another token, but that an expired session may be forgotten. -/
theorem session_store_law (bounds : SessionBounds) (calls : List SessionCall) {tokens : List String}
    (hdigest : CollisionFree digest tokens)
    (hmentioned : SessionHistory.mentioned bounds digest calls ⊆ tokens) :
    (SessionHistory.after bounds digest calls).store.sessions.size ≤ bounds.maximumSessions ∧
    (∀ now token context, token ∈ tokens →
      (∀ r ∈ calls.filterMap SessionCall.reading, r ≤ now) →
      (((SessionHistory.after bounds digest calls).store.resolve digest now token).1 =
          .valid context ↔
        ∃ c, Lasts digest c (SessionHistory.after bounds digest calls).log ∧ c.token = token ∧
          now < c.createdAt + bounds.ttlSeconds ∧
          context = ⟨c.username, c.csrfToken, c.createdAt + bounds.ttlSeconds - now⟩)) ∧
    (∀ now username draws c, (∀ r ∈ calls.filterMap SessionCall.reading, r ≤ now) →
      Lasts digest c (SessionHistory.after bounds digest calls).log →
      now < c.createdAt + bounds.ttlSeconds →
      .evicted (digest c.token) ∈ (SessionHistory.after bounds digest calls).store.events bounds
        digest (.create now username draws) →
      ((SessionHistory.after bounds digest calls).store.activeCount now).1 =
          bounds.maximumSessions ∧
        ∀ c', Lasts digest c' (SessionHistory.after bounds digest calls).log →
          now < c'.createdAt + bounds.ttlSeconds →
          c = c' ∨ Precedes c c' (SessionHistory.after bounds digest calls).log) ∧
    (∀ call later other, call.reading.all (· ≤ later) = true →
      (∀ now username draws, call ≠ .create now username draws) →
      (∀ token ∈ call.token?, token ∈ tokens ∧ other ≠ token) → other ∈ tokens →
      ((SessionHistory.after bounds digest calls).store.resolve digest later other).1.KeptBy
        (((SessionHistory.after bounds digest calls).store.perform bounds digest call).2.resolve
          digest later other).1) := by
  have hkept := kept_after calls (hdigest.mono hmentioned)
  have hvalid : ∀ {lookup : SessionLookup} {context : SessionContext},
      lookup = .valid context ↔ lookup.session? = some context := by
    intro lookup context
    cases lookup with
    | valid session => simp [SessionLookup.session?]
    | invalid => exact iff_of_false nofun nofun
    | expired => exact iff_of_false nofun nofun
  refine ⟨hkept.small, ?_, ?_, ?_⟩
  · intro now token context htoken hnow
    rw [hvalid]
    exact hkept.resolve_iff (toldApart_of_mentioned hdigest hmentioned htoken) hnow
  · intro now username draws c hnow hc hlive hevicted
    exact hkept.evicts hnow hlive hc hevicted
  · intro call later other hlater hcreate htokens hother
    -- another token has another digest, as both are among the tokens of the run
    have hapart : ∀ token ∈ call.token?, digest other ≠ digest token := fun token htoken heq =>
      (htokens token htoken).2 (hdigest other hother token (htokens token htoken).1 heq)
    cases call with
    | create now username draws => exact absurd rfl (hcreate now username draws)
    | resolve now token =>
      have hle : now ≤ later := by simpa [SessionCall.reading] using hlater
      exact keptBy_resolve (hapart token rfl) hle _
    | invalidate token =>
      exact .inl (resolve_invalidate (hapart token rfl) _)
    | activeCount now =>
      have hle : now ≤ later := by simpa [SessionCall.reading] using hlater
      exact keptBy_purge hle _ other

/-- Three sessions in a store for two, one of them invalidated. -/
def threeSessions : List SessionCall :=
  [.create 0 "admin" fun _ => "aaaaaaaaaaaaaaaaaaaaaaaaaaaaaaaa",
    .create 1 "admin" fun _ => "bbbbbbbbbbbbbbbbbbbbbbbbbbbbbbbb",
    .create 2 "admin" fun _ => "cccccccccccccccccccccccccccccccc",
    .resolve 3 "aaaaaaaaaaaaaaaaaaaaaaaaaaaaaaaa",
    .invalidate "cccccccccccccccccccccccccccccccc"]

/-- The session between the evicted one and the invalidated one is found, and stays so when the
evicted token is looked up. -/
theorem session_store_law_three :
    let history := SessionHistory.after ⟨10, 2, by norm_num, by norm_num⟩ tokenDigest threeSessions
    (∃ c, Lasts tokenDigest c history.log ∧ c.token = "bbbbbbbbbbbbbbbbbbbbbbbbbbbbbbbb" ∧
      4 < c.createdAt + 10 ∧
      (⟨"admin", "bbbbbbbbbbbbbbbbbbbbbbbbbbbbbbbb", 7⟩ : SessionContext) =
        ⟨c.username, c.csrfToken, c.createdAt + 10 - 4⟩) ∧
    (history.store.resolve tokenDigest 4 "bbbbbbbbbbbbbbbbbbbbbbbbbbbbbbbb").1.KeptBy
      ((history.store.resolve tokenDigest 4 "aaaaaaaaaaaaaaaaaaaaaaaaaaaaaaaa").2.resolve tokenDigest
        4 "bbbbbbbbbbbbbbbbbbbbbbbbbbbbbbbb").1 := by
  intro history
  have hfree : CollisionFree tokenDigest ["aaaaaaaaaaaaaaaaaaaaaaaaaaaaaaaa",
      "bbbbbbbbbbbbbbbbbbbbbbbbbbbbbbbb", "cccccccccccccccccccccccccccccccc"] := by
    decide +kernel
  have hlaw := session_store_law ⟨10, 2, by norm_num, by norm_num⟩ threeSessions hfree
    (by decide +kernel)
  have hvalid : (history.store.resolve tokenDigest 4 "bbbbbbbbbbbbbbbbbbbbbbbbbbbbbbbb").1 =
      .valid ⟨"admin", "bbbbbbbbbbbbbbbbbbbbbbbbbbbbbbbb", 7⟩ := by decide +kernel
  refine ⟨(hlaw.2.1 4 _ _ (by decide) (by decide +kernel)).mp hvalid, ?_⟩
  refine hlaw.2.2.2 (.resolve 4 "aaaaaaaaaaaaaaaaaaaaaaaaaaaaaaaa") 4 _ (by decide +kernel) ?_ ?_
    (by decide)
  · intro now username draws heq
    cases heq
  · intro token htoken
    obtain rfl := Option.some.inj htoken
    decide

/-- Looking up another token changes the answer to an expired one: its record goes unseen. -/
theorem expired_turns_invalid :
    let store := (SessionHistory.after ⟨10, 1, by norm_num, by norm_num⟩ tokenDigest
      [.create 0 "admin" fun _ => "aaaaaaaaaaaaaaaaaaaaaaaaaaaaaaaa"]).store
    (store.resolve tokenDigest 20 "aaaaaaaaaaaaaaaaaaaaaaaaaaaaaaaa").1 = .expired ∧
      ((store.resolve tokenDigest 20 "bbbbbbbbbbbbbbbbbbbbbbbbbbbbbbbb").2.resolve tokenDigest 20
        "aaaaaaaaaaaaaaaaaaaaaaaaaaaaaaaa").1 = .invalid := by
  decide +kernel

end Aurora.ControlPlane
