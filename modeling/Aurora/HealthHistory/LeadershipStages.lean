/-
  The stages of a leadership session.

  1. A session opens the directory, opens the lock file through it, locks it, and then looks whether
     the lock file that it locked is the one in the directory.  Only after that does it lead, and it
     unlocks before it closes.  `Stage.next` refuses everything else.

  2. A `Sight` is a stage together with the ledger of open descriptors.  It gives up when a descriptor
     is handed out that is open already.

  3. `sees_session`: no session is refused, whatever it is answered, and it ends without a lock and
     with every descriptor closed.
-/
import Aurora.HealthHistory.LeadershipLock
import Aurora.HealthHistory.OwnRemovals

namespace Aurora.HealthHistory.LeadershipLock

open Program Filesystem

/-! ## Stages -/

/-- Device and inode. -/
abbrev Node := Nat × Nat

/-- The file a `stat` shows. -/
def nodeOf (metadata : Metadata) : Node := (metadata.device, metadata.inode)

/-- How far a session has come. -/
inductive Stage
  /-- With the descriptors of the directory that are open. -/
  | searching (roots : List Descriptor)
  | found (directory lock : Descriptor)
  /-- With the lock file that is locked and the one in the directory, as last seen. -/
  | locked (directory lock : Descriptor) (lockNode entryNode : Option Node)
  | sure (lock : Descriptor)
  | ended
  deriving DecidableEq

/-- A lock file is opened through a descriptor of the directory, once. -/
def Stage.opened (path : Path) (stage : Stage) (target : Opening) (d : Descriptor) : Option Stage :=
  match target, stage with
  | .fileAt parent name _, .searching roots =>
    if parent ∈ roots ∧ name = leadershipLockFilename then some (.found parent d) else none
  | .fileAt _ _ _, _ => none
  | .new _, _ => none
  | .directory opened, .searching roots =>
    some (.searching (if opened = path then d :: roots else roots))
  | _, stage => some stage

/-- A locked lock file is not closed, and the directory only after the file was seen in it. -/
def Stage.closed (stage : Stage) (d : Descriptor) : Option Stage :=
  match stage with
  | .searching roots => some (.searching (roots.filter (· ≠ d)))
  | .found directory lock => if d = directory ∨ d = lock then some .ended else some stage
  | .locked directory lock lockNode entryNode =>
    if d = lock then none
    else if d = directory then
      if lockNode = entryNode ∧ lockNode ≠ none then some (.sure lock) else none
    else some stage
  | .sure lock => if d = lock then none else some stage
  | .ended => some .ended

/-- The stage behind a lock that was granted. -/
def Stage.taken (stage : Stage) (d : Descriptor) : Option Stage :=
  match stage with
  | .found directory lock => if d = lock then some (.locked directory lock none none) else none
  | _ => none

/-- The stage behind a lock that was given back. -/
def Stage.freed (stage : Stage) (d : Descriptor) : Option Stage :=
  match stage with
  | .locked _ lock _ _ => if d = lock then some .ended else none
  | .sure lock => if d = lock then some .ended else none
  | _ => none

/-- The stage once the descriptor was looked at, -/
def Stage.lockSeen (stage : Stage) (d : Descriptor) (metadata : Metadata) : Stage :=
  match stage with
  | .locked directory lock _ entryNode =>
    if d = lock then .locked directory lock (some (nodeOf metadata)) entryNode else stage
  | _ => stage

/-- and once the directory was. -/
def Stage.entrySeen (stage : Stage) (parent : Descriptor) (name : String) (metadata : Metadata) :
    Stage :=
  match stage with
  | .locked directory lock lockNode _ =>
    if parent = directory ∧ name = leadershipLockFilename then
      .locked directory lock lockNode (some (nodeOf metadata))
    else stage
  | _ => stage

/-- The session leads. -/
def Stage.leads : Stage → Bool
  | .sure _ => true
  | _ => false

/-- The stage after an exchange, unless the exchange is out of order. -/
def Stage.next (path : Path) (stage : Stage) : FileExchange → Option Stage
  | ⟨.opening target, .ok (d : Descriptor)⟩ => stage.opened path target d
  | ⟨.close d, _⟩ => stage.closed d
  | ⟨.lock d, .ok _⟩ => stage.taken d
  | ⟨.unlock d, _⟩ => stage.freed d
  | ⟨.fstat d, .ok (metadata : Metadata)⟩ => some (stage.lockSeen d metadata)
  | ⟨.statAt parent name, .ok (metadata : Metadata)⟩ => some (stage.entrySeen parent name metadata)
  | ⟨.lead, _⟩ => if stage.leads then some stage else none
  | ⟨.unlink _, _⟩ => none
  | _ => some stage

/-- No lock is held. -/
def Stage.Idle : Stage → Prop
  | .locked _ _ _ _ | .sure _ => False
  | _ => True

/-! ## Sights -/

/-- The descriptors a session holds, and how far it has come. -/
structure Sight where
  held : List Descriptor
  stage : Stage

/-- What a call makes of it; a call that must not happen makes nothing of it. -/
def Sight.next (path : Path) (sight : Sight) (x : FileExchange) : Option (Option Sight) :=
  match ledgerNext sight.held x with
  | none => none
  | some none => some none
  | some (some held) => (sight.stage.next path x).map fun stage => some ⟨held, stage⟩

/-- Every run from this sight ends as `Q` says. -/
abbrev Sees {ε α : Type} (path : Path) (p : Program FileInterface ε α) (sight : Sight)
    (Q : Except ε α → Sight → Prop) : Prop := p.Tracks (Sight.next path) sight Q

/-- Where ledger and stage both allow a call, the sight does. -/
theorem Sight.next_eq {path : Path} {held held' : List Descriptor} {stage stage' : Stage}
    {x : FileExchange} (hledger : ledgerNext held x = some (some held'))
    (hstage : stage.next path x = some stage') :
    Sight.next path ⟨held, stage⟩ x = some (some ⟨held', stage'⟩) := by
  unfold Sight.next
  rw [hledger]
  show (stage.next path x).map _ = _
  rw [hstage]
  rfl

/-- A call the sight allows is one the ledger and the stage allow. -/
theorem Sight.next_inv {path : Path} {sight sight' : Sight} {x : FileExchange}
    (h : sight.next path x = some (some sight')) :
    ledgerNext sight.held x = some (some sight'.held) ∧
      sight.stage.next path x = some sight'.stage := by
  unfold Sight.next at h
  split at h
  · cases h
  · cases h
  · rename_i held hledger
    cases hstage : sight.stage.next path x with
    | none =>
      rw [hstage] at h
      cases h
    | some stage =>
      rw [hstage] at h
      obtain rfl := Option.some.inj (Option.some.inj h)
      exact ⟨hledger, rfl⟩

/-! ## Rules -/

section Rules

variable {ε α β : Type} {path : Path} {sight : Sight} {held : List Descriptor} {stage : Stage}

/-- However it ends, the program leaves this sight. -/
def Reaches {ε α : Type} (sight : Sight) : Except ε α → Sight → Prop := fun _ later => later = sight

/-- A call that neither opens nor closes, and leaves the stage. -/
theorem sees_still {c : FileCall} {value : FileInterface.Answer c → Except ε α}
    {Q : Except ε α → Sight → Prop} (hplain : c.Plain) (huses : ∀ d ∈ c.uses, d ∈ held)
    (hstill : ∀ answer, stage.next path ⟨c, answer⟩ = some stage) (hQ : ∀ r, Q r ⟨held, stage⟩) :
    Sees path (invoke (I := FileInterface) c value) ⟨held, stage⟩ Q := by
  refine tracks_call fun answer => .inr ⟨⟨held, stage⟩, ?_, tracks_ofExcept (hQ _)⟩
  exact Sight.next_eq (ledgerNext_plain hplain huses answer) (hstill answer)

/-- A call that opens and closes nothing and tells nothing about the lock. -/
theorem sees_still_bind {c : FileCall} {value : FileInterface.Answer c → Except ε β}
    {rest : β → Program FileInterface ε α} {Q : Except ε α → Sight → Prop} (hplain : c.Plain)
    (huses : ∀ d ∈ c.uses, d ∈ held)
    (hstill : ∀ answer, stage.next path ⟨c, answer⟩ = some stage)
    (herror : ∀ e, Q (.error e) ⟨held, stage⟩) (h : ∀ b, Sees path (rest b) ⟨held, stage⟩ Q) :
    Sees path (invoke (I := FileInterface) c value >>= rest) ⟨held, stage⟩ Q := by
  refine Tracks.bind (sees_still hplain huses hstill (Q := Reaches _) fun _ => rfl) ?_ ?_
  · rintro b later rfl
    exact h b
  · rintro e later rfl
    exact herror e

/-- A call that raises its `OSError`. -/
theorem sees_ask_bind {c : FileCall} {rest : FileValue c → Locks α}
    {Q : Except LockException α → Sight → Prop} (hplain : c.Plain) (huses : ∀ d ∈ c.uses, d ∈ held)
    (hok : ∀ value, ∃ stage', stage.next path ⟨c, .ok value⟩ = some stage' ∧
      Sees path (rest value) ⟨held, stage'⟩ Q)
    (herror : ∀ e, ∃ stage', stage.next path ⟨c, .error e⟩ = some stage' ∧
      Q (.error (.file (.os e))) ⟨held, stage'⟩) :
    Sees path (ask c >>= rest) ⟨held, stage⟩ Q := by
  refine tracks_call fun answer => .inr ?_
  match answer with
  | .ok value =>
    obtain ⟨stage', hstage, hrest⟩ := hok value
    exact ⟨_, Sight.next_eq (ledgerNext_plain hplain huses _) hstage, hrest⟩
  | .error e =>
    obtain ⟨stage', hstage, hQ⟩ := herror e
    exact ⟨_, Sight.next_eq (ledgerNext_plain hplain huses _) hstage, tracks_raise hQ⟩

/-- A check of what was read makes no call. -/
theorem sees_check {check : Except ε β} {rest : β → Program FileInterface ε α}
    {Q : Except ε α → Sight → Prop} (herror : ∀ e, Q (.error e) sight)
    (h : ∀ b, check = .ok b → Sees path (rest b) sight Q) :
    Sees path (ofExcept check >>= rest) sight Q := by
  cases check with
  | ok b => exact h b rfl
  | error e => exact tracks_raise (herror e)

/-- Look at how a close ends. -/
theorem sees_close_bind {d : Descriptor} {stage' : Stage} {f : Except OsError Unit →
    Program FileInterface ε α} {Q : Except ε α → Sight → Prop} (hd : d ∈ held)
    (hstage : stage.closed d = some stage')
    (h : ∀ r, Sees path (f r) ⟨held.erase d, stage'⟩ Q) :
    Sees path (Filesystem.attempt (.close d) >>= f) ⟨held, stage⟩ Q :=
  tracks_call fun answer =>
    .inr ⟨_, Sight.next_eq (ledgerNext_close hd answer) hstage, h answer⟩

/-- Look at how a call ends that neither opens nor closes. -/
theorem sees_attempt_bind {c : FileCall} {stage' : Stage} {f : Except OsError (FileValue c) →
    Program FileInterface ε α} {Q : Except ε α → Sight → Prop} (hplain : c.Plain)
    (huses : ∀ d ∈ c.uses, d ∈ held)
    (hstage : ∀ answer, stage.next path ⟨c, answer⟩ = some stage')
    (h : ∀ r, Sees path (f r) ⟨held, stage'⟩ Q) :
    Sees path (Filesystem.attempt c >>= f) ⟨held, stage⟩ Q :=
  tracks_call fun answer =>
    .inr ⟨_, Sight.next_eq (ledgerNext_plain hplain huses answer) (hstage answer), h answer⟩

/-- A close whose error is swallowed still takes the descriptor out of the ledger. -/
theorem sees_bestEffortClose_bind {d : Descriptor} {stage' : Stage} {f : Unit → Locks α}
    {Q : Except LockException α → Sight → Prop} (hd : d ∈ held)
    (hstage : stage.closed d = some stage') (h : Sees path (f ()) ⟨held.erase d, stage'⟩ Q) :
    Sees path (bestEffortClose d >>= f) ⟨held, stage⟩ Q :=
  sees_close_bind hd hstage fun _ => h

/-- An unlock whose error is swallowed still counts as the unlock. -/
theorem sees_bestEffortUnlock_bind {d : Descriptor} {stage' : Stage} {f : Unit → Locks α}
    {Q : Except LockException α → Sight → Prop} (hd : d ∈ held)
    (hstage : stage.freed d = some stage') (h : Sees path (f ()) ⟨held, stage'⟩ Q) :
    Sees path (bestEffortUnlock d >>= f) ⟨held, stage⟩ Q :=
  sees_attempt_bind (c := .unlock d) trivial (uses_mem hd) (fun _ => hstage) fun _ => h

/-- An opening: the descriptor is a new one. -/
theorem sees_opening {target : Opening} {f : Except OsError Descriptor → Program FileInterface ε α}
    {Q : Except ε α → Sight → Prop} (huses : ∀ d ∈ (FileCall.opening target).uses, d ∈ held)
    (hok : ∀ d, d ∉ held → ∃ stage', stage.opened path target d = some stage' ∧
      Sees path (f (.ok d)) ⟨d :: held, stage'⟩ Q)
    (herror : ∀ e, Sees path (f (.error e)) ⟨held, stage⟩ Q) :
    Sees path (Filesystem.attempt (.opening target) >>= f) ⟨held, stage⟩ Q := by
  refine tracks_call fun answer => ?_
  match answer with
  | .error e =>
    have hledger : ledgerNext held ⟨.opening target, .error e⟩ = some (some held) :=
      ledgerNext_used huses
    exact .inr ⟨_, Sight.next_eq hledger rfl, herror e⟩
  | .ok (d : Descriptor) =>
    have hledger : ledgerNext held ⟨.opening target, .ok d⟩ =
        some (if d ∈ held then none else some (d :: held)) := ledgerNext_used huses
    by_cases hd : d ∈ held
    · rw [if_pos hd] at hledger
      refine .inl ?_
      unfold Sight.next
      rw [hledger]
    · rw [if_neg hd] at hledger
      obtain ⟨stage', hstage, hrest⟩ := hok d hd
      exact .inr ⟨_, Sight.next_eq hledger hstage, hrest⟩

/-- A status that shows nothing new leaves the stage as it is. -/
theorem next_fstat {d : Descriptor} (h : ∀ metadata, stage.lockSeen d metadata = stage)
    (answer : Except OsError Metadata) : stage.next path ⟨.fstat d, answer⟩ = some stage := by
  match answer with
  | .ok (metadata : Metadata) => exact congrArg some (h metadata)
  | .error e => rfl

/-- An entry that shows nothing new leaves the stage as it is. -/
theorem next_statAt {parent : Descriptor} {name : String}
    (h : ∀ metadata, stage.entrySeen parent name metadata = stage)
    (answer : Except OsError Metadata) :
    stage.next path ⟨.statAt parent name, answer⟩ = some stage := by
  match answer with
  | .ok (metadata : Metadata) => exact congrArg some (h metadata)
  | .error e => rfl

/-- A stage of `acquire` ends as its program does. -/
theorem sees_during {held : Held} {translate : ε → LockException}
    {p : Program FileInterface ε α} {P : Except ε α → Sight → Prop}
    {Q : Except (LockException × Held) α → Sight → Prop} (h : Sees path p sight P)
    (hok : ∀ a later, P (.ok a) later → Q (.ok a) later)
    (herror : ∀ e later, P (.error e) later → Q (.error (translate e, held)) later) :
    Sees path (during held translate p) sight Q := by
  refine h.catching_bind fun r later hr => ?_
  cases r with
  | ok a => exact tracks_pure (hok a later hr)
  | error e => exact tracks_raise (herror e later hr)

end Rules

/-! ## Walks -/

section Walks

variable {host : Host} {path walked : Path}

/-- Where a stage can be while a walk with these descriptors goes on. -/
def Around (own : List Descriptor) : Stage → Stage → Prop
  | .searching _, stage => ∃ roots, stage = .searching roots ∧ ∀ d ∈ roots, d ∈ own
  | before, stage => stage = before

/-- The descriptors that a stage is about. -/
def Stage.keeps : Stage → List Descriptor
  | .searching _ => []
  | .found directory lock => [directory, lock]
  | .locked directory lock _ _ => [directory, lock]
  | .sure lock => [lock]
  | .ended => []

/-- Closing a descriptor the stage does not rest on leaves the stage as it is. -/
theorem keeps_closed {before : Stage} {d : Descriptor} (hd : d ∉ before.keeps)
    (hbefore : ∀ roots, before ≠ .searching roots) : before.closed d = some before := by
  cases before with
  | searching roots => exact absurd rfl (hbefore roots)
  | found directory lock =>
    refine if_neg fun h => hd ?_
    rcases h with rfl | rfl
    · exact List.mem_cons_self
    · exact List.mem_cons_of_mem _ List.mem_cons_self
  | locked directory lock lockNode entryNode =>
    have hlock : d ≠ lock := fun h => hd (h ▸ List.mem_cons_of_mem _ List.mem_cons_self)
    have hdirectory : d ≠ directory := fun h => hd (h ▸ List.mem_cons_self)
    show (if d = lock then none else if d = directory then _ else _) = _
    rw [if_neg hlock, if_neg hdirectory]
  | sure lock =>
    have hlock : d ≠ lock := fun h => hd (h ▸ List.mem_cons_self)
    exact if_neg hlock
  | ended => rfl

/-- The status of another descriptor shows nothing of the lock. -/
theorem keeps_lockSeen {before : Stage} {d : Descriptor} (hd : d ∉ before.keeps)
    (metadata : Metadata) : before.lockSeen d metadata = before := by
  cases before with
  | locked directory lock lockNode entryNode =>
    have hlock : d ≠ lock := fun h => hd (h ▸ List.mem_cons_of_mem _ List.mem_cons_self)
    exact if_neg hlock
  | _ => rfl

/-- An entry of another directory shows nothing of the lock. -/
theorem keeps_entrySeen {before : Stage} {parent : Descriptor} {name : String}
    (hparent : parent ∉ before.keeps) (metadata : Metadata) :
    before.entrySeen parent name metadata = before := by
  cases before with
  | locked directory lock lockNode entryNode =>
    have hdirectory : parent ≠ directory := fun h => hparent (h ▸ List.mem_cons_self)
    exact if_neg fun h => hdirectory h.1
  | _ => rfl

/-- A quiet call on descriptors of its own leaves the stage, but for the descriptors of the
    directory while nothing is found. -/
theorem around_step {own : List Descriptor} {before stage : Stage} {x : FileExchange}
    (hquiet : x.1.Quiet) (huses : ∀ d ∈ x.1.uses, d ∉ before.keeps) (h : Around own before stage) :
    ∃ stage', stage.next path x = some stage' ∧ Around (heldAfter own x) before stage' := by
  obtain ⟨c, answer⟩ := x
  -- while the lock is searched for, an opened directory may become its root
  by_cases hsearching : ∃ roots, before = .searching roots
  · obtain ⟨before, rfl⟩ := hsearching
    obtain ⟨roots, rfl, hroots⟩ := h
    cases c with
    | unlink | lock | unlock | lead => exact hquiet.elim
    | lstat | fchmod | fsync => exact ⟨_, rfl, roots, rfl, hroots⟩
    | fstat d => exact ⟨_, next_fstat (fun _ => rfl) answer, roots, rfl, hroots⟩
    | statAt parent name => exact ⟨_, next_statAt (fun _ => rfl) answer, roots, rfl, hroots⟩
    | close d =>
      refine ⟨_, rfl, _, rfl, fun d' hd' => ?_⟩
      obtain ⟨hd', hne⟩ := List.mem_filter.mp hd'
      exact (List.mem_erase_of_ne (of_decide_eq_true hne)).mpr (hroots d' hd')
    | opening target =>
      match answer with
      | .error e => exact ⟨_, rfl, roots, rfl, hroots⟩
      | .ok (d : Descriptor) =>
        have hmore : ∀ d' ∈ roots, d' ∈ d :: own := fun d' hd' => List.mem_cons_of_mem _ (hroots d' hd')
        cases target with
        | new | fileAt => exact hquiet.elim
        | directoryAt | read => exact ⟨_, rfl, roots, rfl, hmore⟩
        | directory opened =>
          refine ⟨_, rfl, _, rfl, fun d' hd' => ?_⟩
          split at hd'
          · rcases List.mem_cons.mp hd' with rfl | hd'
            · exact List.mem_cons_self
            · exact hmore d' hd'
          · exact hmore d' hd'
  -- in any other stage a quiet call on other descriptors shows nothing
  · have hbefore : ∀ roots, before ≠ .searching roots := fun roots hroots => hsearching ⟨roots, hroots⟩
    have haround : ∀ own, Around own before before := by
      intro own
      cases before with
      | searching roots => exact absurd rfl (hbefore roots)
      | _ => rfl
    obtain rfl : stage = before := by
      cases before with
      | searching roots => exact absurd rfl (hbefore roots)
      | _ => exact h
    refine ⟨stage, ?_, haround _⟩
    cases c with
    | unlink | lock | unlock | lead => exact hquiet.elim
    | lstat | fchmod | fsync => rfl
    | fstat d => exact next_fstat (keeps_lockSeen (huses d rfl)) answer
    | statAt parent name => exact next_statAt (keeps_entrySeen (huses parent rfl)) answer
    | close d => exact keeps_closed (huses d rfl) hbefore
    | opening target =>
      match answer with
      | .error e => rfl
      | .ok (d : Descriptor) =>
        cases target with
        | new | fileAt => exact hquiet.elim
        | directoryAt | read => rfl
        | directory opened =>
          cases stage with
          | searching roots => exact absurd rfl (hbefore roots)
          | _ => rfl

/-- A call the ledger allows uses open descriptors only. -/
theorem ledgerNext_inv {held : List Descriptor} {x : FileExchange}
    {after : Option (List Descriptor)} (h : ledgerNext held x = some after) :
    (∀ d ∈ x.1.uses, d ∈ held) ∧ after = ledgerAfter held (effect x) := by
  unfold ledgerNext at h
  split_ifs at h with huses
  refine ⟨fun d hd => ?_, (Option.some.inj h).symm⟩
  rw [Option.mem_def.mp hd] at huses
  simpa using huses

theorem uses_of_closes {x : FileExchange} {d : Descriptor} (h : effect x = .closes d) :
    x.1.uses = some d := by
  obtain ⟨c, answer⟩ := x
  cases c with
  | close d' =>
    obtain rfl := LedgerEffect.closes.inj h
    rfl
  | opening target =>
    match answer with
    | .ok (_ : Descriptor) => cases h
    | .error _ => cases h
  | _ => cases h

/-- A walk's own descriptors, and the sight of a session that walks. -/
def Walks (base : List Descriptor) (before : Stage) (own : Option (List Descriptor))
    (seen : Option Sight) : Prop :=
  seen = none ∨ ∃ ds stage, own = some ds ∧ seen = some ⟨ds ++ base, stage⟩ ∧
    (∀ d ∈ ds, d ∉ base) ∧ Around ds before stage

/-- One quiet call of a directory check leaves the stage behind it alone. -/
theorem walks_step {base : List Descriptor} {before : Stage} {own own' : Option (List Descriptor)}
    {seen : Option Sight} {x : FileExchange} (hkeeps : ∀ d ∈ before.keeps, d ∈ base)
    (hquiet : x.1.Quiet) (hown : stopping ledgerNext own x = some own')
    (h : Walks base before own seen) :
    ∃ seen', stopping (Sight.next path) seen x = some seen' ∧ Walks base before own' seen' := by
  obtain rfl | ⟨ds, stage, rfl, rfl, hapart, haround⟩ := h
  · exact ⟨none, rfl, .inl rfl⟩
  obtain ⟨huses, rfl⟩ := ledgerNext_inv hown
  have hquietly : ∃ stage', stage.next path x = some stage' ∧
      Around (heldAfter ds x) before stage' :=
    around_step hquiet (fun d hd hkept => hapart d (huses d hd) (hkeeps d hkept)) haround
  obtain ⟨stage', hstage, haround'⟩ := hquietly
  have hledger : ledgerNext (ds ++ base) x = some (ledgerAfter (ds ++ base) (effect x)) :=
    ledgerNext_used fun d hd => List.mem_append_left _ (huses d hd)
  unfold heldAfter at haround'
  cases heffect : effect x with
  | nothing =>
    rw [heffect] at hledger haround'
    exact ⟨_, Sight.next_eq hledger hstage, .inr ⟨ds, stage', rfl, rfl, hapart, haround'⟩⟩
  | closes d =>
    rw [heffect] at hledger haround'
    have hd : d ∈ ds := huses d (uses_of_closes heffect)
    have herase : (ds ++ base).erase d = ds.erase d ++ base := List.erase_append_left _ hd
    refine ⟨_, Sight.next_eq hledger hstage, .inr ⟨ds.erase d, stage', rfl, by rw [herase], ?_, haround'⟩⟩
    exact fun d' hd' => hapart d' (List.mem_of_mem_erase hd')
  | opens d =>
    rw [heffect] at hledger haround'
    have hopens : ledgerNext (ds ++ base) x =
        some (if d ∈ ds ++ base then none else some (d :: (ds ++ base))) := hledger
    by_cases hd : d ∈ ds ++ base
    · rw [if_pos hd] at hopens
      refine ⟨none, ?_, .inl rfl⟩
      show Sight.next path ⟨ds ++ base, stage⟩ x = some none
      unfold Sight.next
      rw [hopens]
    · rw [if_neg hd] at hopens
      have hds : d ∉ ds := fun h => hd (List.mem_append_left _ h)
      refine ⟨_, Sight.next_eq hopens hstage, .inr ⟨d :: ds, stage', if_neg hds, rfl, ?_, haround'⟩⟩
      intro d' hd'
      rcases List.mem_cons.mp hd' with rfl | hd'
      · exact fun h => hd (List.mem_append_right _ h)
      · exact hapart d' hd'

/-- A validation of a directory leaves the session where it was. -/
theorem sees_walk {base : List Descriptor} {before : Stage}
    (hbefore : before = .searching [] ∨ ∃ directory lock lockNode entryNode,
      before = .locked directory lock lockNode entryNode ∧ directory ∈ base ∧ lock ∈ base) :
    Sees path (validateProtectedDirectory host walked) ⟨base, before⟩ (Reaches ⟨base, before⟩) := by
  have hkeeps : ∀ d ∈ before.keeps, d ∈ base := by
    rcases hbefore with rfl | ⟨directory, lock, lockNode, entryNode, rfl, hdirectory, hlock⟩
    · exact fun d hd => absurd hd List.not_mem_nil
    · intro d hd
      rcases List.mem_cons.mp hd with rfl | hd
      · exact hdirectory
      · exact List.mem_singleton.mp hd ▸ hlock
  have hstart : Walks base before (some []) (some ⟨base, before⟩) := by
    refine .inr ⟨[], before, rfl, rfl, fun d hd => absurd hd List.not_mem_nil, ?_⟩
    rcases hbefore with rfl | ⟨directory, lock, lockNode, entryNode, rfl, -, -⟩
    · exact ⟨[], rfl, fun d hd => hd⟩
    · rfl
  have hwalk : Tallies (validateProtectedDirectory host walked) [] (Leaves []) :=
    tallies_validateProtectedDirectory
  refine (Passes.simulate (fun own x own' seen hquiet => walks_step hkeeps hquiet)
    quiet_validateProtectedDirectory hwalk hstart).mono ?_
  rintro r last ⟨own, hwalks, hleaves⟩ sight rfl
  obtain hnone | ⟨ds, stage, rfl, hsight, -, haround⟩ := hwalks
  · cases hnone
  obtain rfl := Option.some.inj hsight
  obtain rfl : ds = [] := hleaves ds rfl
  -- Nothing of the walk is open any more, so no descriptor of the directory is.
  rcases hbefore with rfl | ⟨directory, lock, lockNode, entryNode, rfl, -, -⟩
  · obtain ⟨roots, rfl, hroots⟩ := haround
    obtain rfl : roots = [] := List.eq_nil_iff_forall_not_mem.mpr fun d hd =>
      List.not_mem_nil (hroots d hd)
    rfl
  · obtain rfl : stage = .locked directory lock lockNode entryNode := haround
    rfl

end Walks

/-! ## The lock file -/

section LockFile

variable {α : Type} {host : Host} {path : Path} {uid : Nat} {directory lock : Descriptor}
  {before : Metadata}

/-- An open lock file, or what is left after a failure. -/
def OpenedLock (directory : Descriptor) : Except LockException Descriptor → Sight → Prop
  | .ok lock, sight => lock ≠ directory ∧ sight = ⟨[lock, directory], .found directory lock⟩
  | .error _, sight => sight = ⟨[directory], .searching [directory]⟩ ∨ sight = ⟨[directory], .ended⟩

/-- The opened lock file is kept if the checks pass and closed if they do not. -/
theorem sees_keepIfSound {checks : Locks Unit} (hne : lock ≠ directory)
    (hchecks : Sees path checks ⟨[lock, directory], .found directory lock⟩
      (Reaches ⟨[lock, directory], .found directory lock⟩)) :
    Sees path (keepIfSound lock checks) ⟨[lock, directory], .found directory lock⟩
      (OpenedLock directory) := by
  refine hchecks.catching_bind fun r later hlater => ?_
  obtain rfl : later = ⟨[lock, directory], .found directory lock⟩ := hlater
  cases r with
  | ok _ => exact tracks_pure ⟨hne, rfl⟩
  | error e =>
    have hclosed : Stage.closed (.found directory lock) lock = some .ended := if_pos (.inr rfl)
    refine sees_bestEffortClose_bind List.mem_cons_self hclosed ?_
    rw [List.erase_cons_head]
    exact tracks_raise (.inr rfl)

/-- A look at an open lock file or at its entry, and a check of what it shows. -/
theorem sees_fstat_found {rest : Metadata → Locks α} {Q : Except LockException α → Sight → Prop}
    (herror : ∀ e, Q (.error e) ⟨[lock, directory], .found directory lock⟩)
    (h : ∀ m, Sees path (rest m) ⟨[lock, directory], .found directory lock⟩ Q) :
    Sees path (ask (.fstat lock) >>= rest) ⟨[lock, directory], .found directory lock⟩ Q :=
  sees_still_bind trivial (uses_mem List.mem_cons_self) (next_fstat fun _ => rfl) herror h

/-- Looking up the lock's entry with the lock file open. -/
theorem sees_statEntry_found {rest : Metadata → Locks α}
    {Q : Except LockException α → Sight → Prop}
    (herror : ∀ e, Q (.error e) ⟨[lock, directory], .found directory lock⟩)
    (h : ∀ m, Sees path (rest m) ⟨[lock, directory], .found directory lock⟩ Q) :
    Sees path (statLockEntry directory >>= rest) ⟨[lock, directory], .found directory lock⟩ Q :=
  sees_still_bind trivial (uses_mem (List.mem_cons_of_mem _ List.mem_cons_self))
    (next_statAt fun _ => rfl) herror h

/-- Opening the lock's name under the directory finds the lock. -/
theorem opened_fileAt {name : String} {exclusive : Bool} (h : name = leadershipLockFilename) :
    Stage.opened path (.searching [directory]) (.fileAt directory name exclusive) lock =
      some (.found directory lock) := if_pos ⟨List.mem_cons_self, h⟩

/-- The lock file that was seen is opened, or the directory alone stays open. -/
theorem sees_openSeenLock :
    Sees path (openSeenLock uid directory before) ⟨[directory], .searching [directory]⟩
      (OpenedLock directory) := by
  refine sees_check (fun e => .inl rfl) fun _ _ => ?_
  refine sees_opening (uses_mem List.mem_cons_self) (fun d hd => ?_) fun e => tracks_raise (.inl rfl)
  have hne : d ≠ directory := fun h => hd (h ▸ List.mem_cons_self)
  refine ⟨_, opened_fileAt rfl, sees_keepIfSound hne ?_⟩
  refine sees_fstat_found (fun e => rfl) fun opened => ?_
  refine sees_check (fun e => rfl) fun _ _ => sees_check (fun e => rfl) fun _ _ => ?_
  refine sees_statEntry_found (fun e => rfl) fun after => ?_
  exact sees_check (fun e => rfl) fun _ _ => tracks_ofExcept rfl

/-- Looking up the lock's entry before the lock file is open. -/
theorem sees_statEntry_searching {rest : Metadata → Locks α}
    {Q : Except LockException α → Sight → Prop}
    (herror : ∀ e, Q (.error e) ⟨[directory], .searching [directory]⟩)
    (h : ∀ m, Sees path (rest m) ⟨[directory], .searching [directory]⟩ Q) :
    Sees path (statLockEntry directory >>= rest) ⟨[directory], .searching [directory]⟩ Q :=
  sees_still_bind trivial (uses_mem List.mem_cons_self) (next_statAt fun _ => rfl) herror h

/-- The lock file is created, or the one a racing instance created is opened. -/
theorem sees_createOrOpenRacedLock :
    Sees path (createOrOpenRacedLock uid directory) ⟨[directory], .searching [directory]⟩
      (OpenedLock directory) := by
  refine sees_opening (uses_mem List.mem_cons_self) (fun d hd => ?_) fun e => ?_
  · have hne : d ≠ directory := fun h => hd (h ▸ List.mem_cons_self)
    refine ⟨_, opened_fileAt rfl, sees_keepIfSound hne ?_⟩
    refine sees_still_bind trivial (uses_mem List.mem_cons_self) (fun answer => ?_) (fun e => rfl)
      fun _ => ?_
    · cases answer <;> rfl
    refine sees_fstat_found (fun e => rfl) fun opened => sees_check (fun e => rfl) fun _ _ => ?_
    refine sees_statEntry_found (fun e => rfl) fun after => ?_
    exact sees_check (fun e => rfl) fun _ _ => tracks_ofExcept rfl
  · cases e with
    | fileExists =>
      exact sees_statEntry_searching (fun e => .inl rfl) fun before => sees_openSeenLock
    | _ => exact tracks_raise (.inl rfl)

/-- Either way of opening ends with the lock open below its directory, or with the directory
    alone. -/
theorem sees_openLockFile :
    Sees path (openLockFile uid directory) ⟨[directory], .searching [directory]⟩
      (OpenedLock directory) := by
  refine sees_attempt_bind trivial (uses_mem List.mem_cons_self) (next_statAt fun _ => rfl) fun r => ?_
  match r with
  | .ok (before : Metadata) => exact sees_openSeenLock
  | .error .fileNotFound => exact sees_createOrOpenRacedLock
  | .error .fileExists => exact tracks_raise (.inl rfl)
  | .error .wouldBlock => exact tracks_raise (.inl rfl)
  | .error .other => exact tracks_raise (.inl rfl)

end LockFile

/-! ## Acquiring -/

section Acquiring

variable {α : Type} {host : Host} {path : Path} {uid : Nat} {directory lock : Descriptor}

/-- The lock is held, whatever was seen. -/
def LockedSight (directory lock : Descriptor) (sight : Sight) : Prop :=
  ∃ lockNode entryNode, sight = ⟨[lock, directory], .locked directory lock lockNode entryNode⟩

/-- The lock is granted once, or the stage is as it was. -/
theorem sees_acquireNonblocking :
    Sees path (acquireNonblocking lock) ⟨[lock, directory], .found directory lock⟩ fun
      | .ok _, sight => LockedSight directory lock sight
      | .error _, sight => sight = ⟨[lock, directory], .found directory lock⟩ := by
  refine tracks_call fun answer => .inr ?_
  have hledger : ∀ answer, ledgerNext [lock, directory] ⟨.lock lock, answer⟩ =
      some (some [lock, directory]) := ledgerNext_plain trivial (uses_mem List.mem_cons_self)
  match answer with
  | .ok (_ : Unit) =>
    have htaken : Stage.taken (.found directory lock) lock =
        some (.locked directory lock none none) := if_pos rfl
    exact ⟨_, Sight.next_eq (hledger _) htaken, tracks_pure ⟨none, none, rfl⟩⟩
  | .error e =>
    refine ⟨_, Sight.next_eq (hledger _) rfl, ?_⟩
    cases e <;> exact tracks_raise rfl

/-- The lock file that is locked was seen in the directory. -/
def SeenInPlace (directory lock : Descriptor) (sight : Sight) : Prop :=
  ∃ node, sight = ⟨[lock, directory], .locked directory lock (some node) (some node)⟩

/-- A lock seen in its place is a lock that was granted. -/
theorem SeenInPlace.locked {sight : Sight} (h : SeenInPlace directory lock sight) :
    LockedSight directory lock sight := by
  obtain ⟨node, rfl⟩ := h
  exact ⟨_, _, rfl⟩

/-- The comparison that passes is one of the two nodes. -/
theorem nodeOf_requireSameLock {left right : Metadata} (h : requireSameLock left right = .ok ()) :
    nodeOf left = nodeOf right := by
  have heq : lockIdentity left = lockIdentity right := by
    by_contra hne
    have hfail : requireSameLock left right = distrust := if_pos hne
    rw [hfail] at h
    cases h
  unfold lockIdentity at heq
  simp only [Prod.mk.injEq] at heq
  exact Prod.ext heq.1 heq.2.1

/-- A check that succeeds saw the lock file in its place. -/
def ChecksPlace (directory lock : Descriptor) : Except LockException Unit → Sight → Prop
  | .ok _, sight => SeenInPlace directory lock sight
  | .error _, sight => LockedSight directory lock sight

/-- Both looks show what was expected, so the lock file that is locked is in the directory. -/
theorem sees_requireStableLock {expected : Metadata} {sight : Sight}
    (h : LockedSight directory lock sight) :
    Sees path (requireStableLock uid directory lock expected) sight
      (ChecksPlace directory lock) := by
  obtain ⟨lockNode, entryNode, rfl⟩ := h
  refine sees_ask_bind trivial (uses_mem List.mem_cons_self) (fun opened => ?_) fun e =>
    ⟨_, rfl, _, _, rfl⟩
  have hlock : Stage.lockSeen (.locked directory lock lockNode entryNode) lock opened =
      .locked directory lock (some (nodeOf opened)) entryNode := if_pos rfl
  refine ⟨_, congrArg some hlock, ?_⟩
  refine sees_check (fun e => ⟨_, _, rfl⟩) fun _ _ => ?_
  refine sees_check (fun e => ⟨_, _, rfl⟩) fun _ hopened => ?_
  refine sees_ask_bind trivial (uses_mem (List.mem_cons_of_mem _ List.mem_cons_self))
    (fun entry => ?_) fun e => ⟨_, rfl, _, _, rfl⟩
  have hentry : Stage.entrySeen (.locked directory lock (some (nodeOf opened)) entryNode) directory
      leadershipLockFilename entry =
        .locked directory lock (some (nodeOf opened)) (some (nodeOf entry)) := if_pos ⟨rfl, rfl⟩
  refine ⟨_, congrArg some hentry, ?_⟩
  refine sees_check (fun e => ⟨_, _, rfl⟩) fun _ _ => tracks_ofExcept ?_
  cases hsame : requireSameLock entry expected with
  | error e => exact ⟨_, _, rfl⟩
  | ok _ =>
    refine ⟨nodeOf entry, ?_⟩
    rw [nodeOf_requireSameLock hopened, nodeOf_requireSameLock hsame]

/-- What the `finally` is told fits what is held. -/
inductive Fits : Held → Sight → Prop
  | nothing : Fits ⟨none, none, false⟩ ⟨[], .searching []⟩
  | directory {directory : Descriptor} {stage : Stage}
      (h : stage = .searching [directory] ∨ stage = .ended) :
    Fits ⟨some directory, none, false⟩ ⟨[directory], stage⟩
  | found {directory lock : Descriptor} (h : lock ≠ directory) :
    Fits ⟨some directory, some lock, false⟩ ⟨[lock, directory], .found directory lock⟩
  | locked {directory lock : Descriptor} {sight : Sight} (hne : lock ≠ directory)
      (h : LockedSight directory lock sight) : Fits ⟨some directory, some lock, true⟩ sight

/-- The lock is held and in place, or what is held is told. -/
def Acquired : Except (LockException × Held) (Descriptor × Descriptor) → Sight → Prop
  | .ok (lock, directory), sight => lock ≠ directory ∧ SeenInPlace directory lock sight
  | .error (_, held), sight => Fits held sight

/-- A stage of `acquire` that is told what it holds. -/
theorem sees_stage_bind {ε : Type} {held : Held} {translate : ε → LockException}
    {p : Program FileInterface ε α}
    {rest : α → Program FileInterface (LockException × Held) (Descriptor × Descriptor)}
    {sight : Sight} {P : Except ε α → Sight → Prop} (h : Sees path p sight P)
    (herror : ∀ e later, P (.error e) later → Fits held later)
    (hok : ∀ a later, P (.ok a) later → Sees path (rest a) later Acquired) :
    Sees path (during held translate p >>= rest) sight Acquired := by
  refine Tracks.bind (P := fun r later => match r with
    | .ok a => P (.ok a) later
    | .error (_, told) => Fits told later) ?_ hok fun e later hfits => hfits
  exact sees_during h (fun a later hlater => hlater) herror

/-- The status of the directory shows nothing of the lock. -/
theorem sees_fstat_directory {held : List Descriptor} {stage : Stage} {rest : Metadata → Locks α}
    {Q : Except LockException α → Sight → Prop} (hdirectory : directory ∈ held)
    (hstill : ∀ metadata, stage.lockSeen directory metadata = stage)
    (herror : ∀ e, Q (.error e) ⟨held, stage⟩)
    (hrest : ∀ m, Sees path (rest m) ⟨held, stage⟩ Q) :
    Sees path (ask (.fstat directory) >>= rest) ⟨held, stage⟩ Q :=
  sees_still_bind trivial (uses_mem hdirectory) (next_fstat hstill) herror hrest

/-- What is held before and after the lock is taken. -/
def Locking (directory lock : Descriptor) {ε α : Type} : Except ε α → Sight → Prop
  | .ok _, sight => LockedSight directory lock sight
  | .error _, sight => sight = ⟨[lock, directory], .found directory lock⟩

/-- What is held before and after the directory is opened. -/
def OpenedDirectory : Except LockException Descriptor → Sight → Prop
  | .ok directory, sight => sight = ⟨[directory], .searching [directory]⟩
  | .error _, sight => sight = ⟨[], .searching []⟩

/-- The acquisition ends with the lock held and its place verified, or with nothing. -/
theorem sees_acquireHeld : Sees path (acquireHeld host path) ⟨[], .searching []⟩ Acquired := by
  have hmem : ∀ directory lock : Descriptor, directory ∈ [lock, directory] :=
    fun directory lock => List.mem_cons_of_mem _ List.mem_cons_self
  refine sees_stage_bind (sees_walk (.inl rfl)) (fun e later h => h ▸ .nothing) ?_
  rintro expectedDirectory sight rfl
  -- the directory
  refine sees_stage_bind (P := OpenedDirectory) ?_ (fun e later h => h ▸ .nothing) ?_
  · refine sees_opening uses_none (fun d _ => ⟨.searching [d], ?_, tracks_pure rfl⟩) fun e =>
      tracks_raise rfl
    exact congrArg some (congrArg Stage.searching (if_pos rfl))
  rintro (directory : Descriptor) sight rfl
  -- the lock file in it
  refine sees_stage_bind (P := OpenedLock directory) ?_ ?_ ?_
  · refine sees_fstat_directory List.mem_cons_self (fun _ => rfl) (fun e => .inl rfl) fun opened => ?_
    exact sees_check (fun e => .inl rfl) fun _ _ => sees_openLockFile
  · rintro e later (rfl | rfl)
    · exact .directory (.inl rfl)
    · exact .directory (.inr rfl)
  rintro (lock : Descriptor) sight ⟨hne, rfl⟩
  -- the lock
  refine sees_stage_bind (P := Locking directory lock) ?_ (fun e later h => h ▸ .found hne) ?_
  · refine sees_fstat_found (fun e => rfl) fun expectedLock => ?_
    exact sees_acquireNonblocking.bind (fun _ later hlocked => tracks_pure hlocked) fun e later h => h
  intro expectedLock sight hlocked
  -- nothing was replaced
  refine sees_stage_bind (P := fun _ => LockedSight directory lock) ?_
    (fun e later h => .locked hne h) ?_
  · refine (sees_requireStableLock hlocked).bind (fun _ later hseen => ?_) fun e later h => h
    obtain ⟨node, rfl⟩ := hseen
    refine sees_fstat_directory (hmem directory lock) (fun _ => if_neg (Ne.symm hne))
      (fun e => ⟨_, _, rfl⟩) fun current => ?_
    exact sees_check (fun e => ⟨_, _, rfl⟩) fun _ _ => tracks_pure ⟨_, _, rfl⟩
  intro currentDirectory sight hlocked
  refine sees_stage_bind (P := fun _ => LockedSight directory lock) ?_
    (fun e later h => .locked hne h) ?_
  · obtain ⟨lockNode, entryNode, rfl⟩ := hlocked
    refine Tracks.mono (sees_walk (.inr ⟨_, _, _, _, rfl, hmem directory lock,
      List.mem_cons_self⟩)) fun r later hlater => ?_
    exact ⟨_, _, hlater⟩
  intro revalidated sight hlocked
  refine sees_stage_bind (P := ChecksPlace directory lock) ?_ (fun e later h => .locked hne h) ?_
  · refine sees_check (fun e => hlocked) fun _ _ => sees_check (fun e => hlocked) fun _ _ => ?_
    exact sees_requireStableLock hlocked
  intro _ sight hseen
  exact tracks_pure ⟨hne, hseen⟩

/-- Everything is closed, and no lock is held. -/
def GivenUp (sight : Sight) : Prop := sight.held = [] ∧ sight.stage.Idle

/-- Whatever is held, giving it back leaves nothing open. -/
theorem sees_giveBack {held : Held} {sight : Sight} (h : Fits held sight) :
    Sees path (giveBack held) sight fun _ => GivenUp := by
  have hdirectory : ∀ {directory : Descriptor} {stage stage' : Stage},
      stage.closed directory = some stage' → stage'.Idle →
        Sees path (bestEffortClose directory) ⟨[directory], stage⟩ fun _ => GivenUp := by
    intro directory stage stage' hclosed hidle
    refine sees_close_bind List.mem_cons_self hclosed fun _ => ?_
    rw [List.erase_cons_head]
    exact tracks_pure ⟨rfl, hidle⟩
  cases h with
  | nothing => exact tracks_pure ⟨rfl, trivial⟩
  | directory h =>
    rcases h with rfl | rfl
    · exact hdirectory rfl trivial
    · exact hdirectory rfl trivial
  | @found directory lock hne =>
    have hclosed : Stage.closed (.found directory lock) lock = some .ended := if_pos (.inr rfl)
    refine sees_bestEffortClose_bind List.mem_cons_self hclosed ?_
    rw [List.erase_cons_head]
    exact hdirectory rfl trivial
  | @locked directory lock sight hne h =>
    obtain ⟨lockNode, entryNode, rfl⟩ := h
    have hfreed : Stage.freed (.locked directory lock lockNode entryNode) lock = some .ended :=
      if_pos rfl
    refine sees_bestEffortUnlock_bind List.mem_cons_self hfreed ?_
    refine sees_bestEffortClose_bind List.mem_cons_self rfl ?_
    rw [List.erase_cons_head]
    exact hdirectory rfl trivial

/-- The lock is held, in place, and all that is open; or nothing is. -/
def Leading : Except LockException Descriptor → Sight → Prop
  | .ok lock, sight => sight = ⟨[lock], .sure lock⟩
  | .error _, sight => GivenUp sight

/-- What an acquisition leaves, on every outcome. -/
theorem sees_acquire {supportedRuntime : Bool} :
    Sees path (acquire host supportedRuntime path) ⟨[], .searching []⟩ Leading := by
  unfold acquire
  cases supportedRuntime with
  | false => exact tracks_raise ⟨rfl, trivial⟩
  | true =>
    refine sees_acquireHeld.catching_bind fun r later hacquired => ?_
    match r with
    | .error (e, held) =>
      exact (sees_giveBack hacquired).bind (fun _ _ h => tracks_raise h) fun _ _ h => h
    | .ok (lock, directory) =>
      obtain ⟨hne, node, rfl⟩ := hacquired
      have hclosed : Stage.closed (.locked directory lock (some node) (some node)) directory =
          some (.sure lock) := by
        show (if directory = lock then none else if directory = directory then _ else _) = _
        rw [if_neg (Ne.symm hne), if_pos rfl]
        exact if_pos ⟨rfl, Option.some_ne_none node⟩
      have hmem : directory ∈ [lock, directory] := List.mem_cons_of_mem _ List.mem_cons_self
      have hleft : [lock, directory].erase directory = [lock] := by
        rw [List.erase_cons_tail (by simpa using hne), List.erase_cons_head]
      refine Tracks.bind (P := fun r later => r = .ok () ∧ later = ⟨[lock], .sure lock⟩) ?_ ?_ ?_
      · refine sees_close_bind hmem hclosed fun _ => ?_
        rw [hleft]
        exact tracks_pure ⟨rfl, rfl⟩
      · rintro _ later ⟨-, rfl⟩
        exact tracks_pure rfl
      · rintro e later ⟨hok, -⟩
        cases hok

end Acquiring

/-! ## Sessions -/

section Sessions

variable {host : Host} {path : Path} {lock : Descriptor}

/-- The checks while leading keep the lock sure. -/
theorem sees_leadTimes_bind {count : Nat} {α : Type} {rest : Locks α}
    {Q : Except LockException α → Sight → Prop} (h : Sees path rest ⟨[lock], .sure lock⟩ Q) :
    Sees path (leadTimes count >>= fun _ => rest) ⟨[lock], .sure lock⟩ Q := by
  induction count with
  | zero => exact h
  | succ count ih => exact sees_attempt_bind (c := .lead) trivial uses_none (fun _ => rfl) fun _ => ih

/-- The handle unlocks, and closes what it unlocked. -/
theorem sees_closeHandle :
    Sees path ((closeHandle (some lock)).through serveDescriptor) ⟨[lock], .sure lock⟩
      fun _ => GivenUp := by
  have hfreed : Stage.freed (.sure lock) lock = some .ended := if_pos rfl
  refine sees_attempt_bind (c := .unlock lock) trivial (uses_mem List.mem_cons_self)
    (fun _ => hfreed) fun unlocked => ?_
  have hclose : ∀ f : Except OsError Unit → Locks (Outcome LeadershipRejection Unit × Option Nat),
      (∀ r, ∃ a, f r = pure a) →
        Sees path (Filesystem.attempt (.close lock) >>= f) ⟨[lock], .ended⟩ fun _ => GivenUp := by
    intro f hf
    refine sees_close_bind List.mem_cons_self rfl fun r => ?_
    obtain ⟨a, hr⟩ := hf r
    rw [hr, List.erase_cons_head]
    exact tracks_pure ⟨rfl, trivial⟩
  cases unlocked with
  | ok _ => exact hclose _ fun r => ⟨_, rfl⟩
  | error e => exact hclose _ fun r => ⟨_, rfl⟩

/-- A session starts with nothing and gives everything up. -/
theorem sees_session {session : Session} :
    Sees session.directory session.program ⟨[], .searching []⟩ fun _ => GivenUp := by
  refine sees_acquire.bind (fun (lock : Descriptor) later h => ?_) fun e later h => h
  obtain rfl : later = ⟨[lock], .sure lock⟩ := h
  refine sees_leadTimes_bind ?_
  exact sees_closeHandle.bind (fun outcome later h => tracks_pure h) fun e later h => h

end Sessions

/-! ## What an exchange does to a stage -/

section Steps

variable {path : Path} {stage stage' : Stage} {lock : Descriptor} {x : FileExchange}
  {t : List FileExchange}

/-- The descriptor is the one of the lock. -/
def Stage.Holds (lock : Descriptor) : Stage → Prop
  | .locked _ l _ _ => l = lock
  | .sure l => l = lock
  | _ => False

/-- The directory is still being looked for. -/
def Stage.Searches : Stage → Prop
  | .searching _ => True
  | _ => False

/-- The steps of a session through its stages. -/
inductive Stage.Step (path : Path) : Stage → FileExchange → Stage → Prop
  | stays {stage : Stage} {x : FileExchange}
      (hclose : ∀ d, x.1 = .close d → d ∉ stage.keeps ∧ ¬stage.Searches)
      (hunlock : ∀ d, x.1 ≠ .unlock d) (hlock : ∀ d value, x ≠ ⟨.lock d, .ok value⟩) :
    Step path stage x stage
  | enters {roots : List Descriptor} {d : Descriptor} :
    Step path (.searching roots) ⟨.opening (.directory path), .ok d⟩ (.searching (d :: roots))
  | leaves {roots : List Descriptor} {d : Descriptor} {answer : Except OsError Unit} :
    Step path (.searching roots) ⟨.close d, answer⟩ (.searching (roots.filter (· ≠ d)))
  | finds {roots : List Descriptor} {directory lock : Descriptor} {exclusive : Bool}
      (h : directory ∈ roots) :
    Step path (.searching roots)
      ⟨.opening (.fileAt directory leadershipLockFilename exclusive), .ok lock⟩
      (.found directory lock)
  | quits {directory lock d : Descriptor} {answer : Except OsError Unit} :
    Step path (.found directory lock) ⟨.close d, answer⟩ .ended
  | takes {directory lock : Descriptor} {value : Unit} :
    Step path (.found directory lock) ⟨.lock lock, .ok value⟩ (.locked directory lock none none)
  | seesLock {directory lock : Descriptor} {lockNode entryNode : Option Node} {m : Metadata} :
    Step path (.locked directory lock lockNode entryNode) ⟨.fstat lock, .ok m⟩
      (.locked directory lock (some (nodeOf m)) entryNode)
  | seesEntry {directory lock : Descriptor} {lockNode entryNode : Option Node} {m : Metadata} :
    Step path (.locked directory lock lockNode entryNode)
      ⟨.statAt directory leadershipLockFilename, .ok m⟩
      (.locked directory lock lockNode (some (nodeOf m)))
  | settles {directory lock : Descriptor} {node : Node} {answer : Except OsError Unit}
      (hne : directory ≠ lock) :
    Step path (.locked directory lock (some node) (some node)) ⟨.close directory, answer⟩
      (.sure lock)
  | frees {stage : Stage} {lock : Descriptor} {answer : Except OsError Unit}
      (h : stage.Holds lock) : Step path stage ⟨.unlock lock, answer⟩ .ended

/-- A call that is none of the lock's own leaves the stage where it is. -/
theorem stays_of (hclose : ∀ d, x.1 ≠ .close d) (hunlock : ∀ d, x.1 ≠ .unlock d)
    (hlock : ∀ d value, x ≠ ⟨.lock d, .ok value⟩) (h : some stage = some stage') :
    Stage.Step path stage x stage' := by
  obtain rfl := Option.some.inj h
  exact .stays (fun d hd => absurd hd (hclose d)) hunlock hlock

theorem step_opened {target : Opening} {d : Descriptor}
    (h : stage.opened path target d = some stage') :
    Stage.Step path stage ⟨.opening target, .ok d⟩ stage' := by
  have hstays : some stage = some stage' → Stage.Step path stage ⟨.opening target, .ok d⟩ stage' :=
    stays_of (fun _ h => by cases h) (fun _ h => by cases h) fun _ _ h => by cases h
  cases target with
  | new => cases h
  | directoryAt parent name => exact hstays h
  | read opened => exact hstays h
  | fileAt parent name exclusive =>
    cases stage with
    | searching roots =>
      obtain ⟨⟨hparent, rfl⟩, hfound⟩ := Option.ite_none_right_eq_some.mp h
      obtain rfl := Option.some.inj hfound
      exact .finds hparent
    | found | locked | sure | ended => cases h
  | directory opened =>
    cases stage with
    | searching roots =>
      obtain rfl := Option.some.inj h
      by_cases hopened : opened = path
      · rw [if_pos hopened, hopened]
        exact .enters
      · rw [if_neg hopened]
        exact stays_of (fun _ h => by cases h) (fun _ h => by cases h) (fun _ _ h => by cases h) rfl
    | found | locked | sure | ended => exact hstays h

theorem step_closed {d : Descriptor} {answer : Except OsError Unit}
    (h : stage.closed d = some stage') : Stage.Step path stage ⟨.close d, answer⟩ stage' := by
  have hstays : d ∉ stage.keeps → ¬stage.Searches → some stage = some stage' →
      Stage.Step path stage ⟨.close d, answer⟩ stage' := by
    intro hd hsearches h
    obtain rfl := Option.some.inj h
    refine .stays (fun d' hd' => ?_) (fun _ h => by cases h) fun _ _ h => by cases h
    obtain rfl := FileCall.close.inj hd'
    exact ⟨hd, hsearches⟩
  cases stage with
  | searching roots =>
    obtain rfl := Option.some.inj h
    exact .leaves
  | ended => exact hstays List.not_mem_nil id h
  | found directory lock =>
    by_cases hd : d = directory ∨ d = lock
    · obtain rfl : Stage.ended = stage' := Option.some.inj ((if_pos hd).symm.trans h)
      exact .quits
    · have hkeeps : d ∉ Stage.keeps (.found directory lock) := by
        intro hmem
        rcases List.mem_cons.mp hmem with hmem | hmem
        · exact hd (.inl hmem)
        · exact hd (.inr (List.mem_singleton.mp hmem))
      exact hstays hkeeps id ((if_neg hd).symm.trans h)
  | sure lock =>
    obtain ⟨hd, h⟩ := Option.ite_none_left_eq_some.mp h
    exact hstays (fun hmem => hd (List.mem_singleton.mp hmem)) id h
  | locked directory lock lockNode entryNode =>
    obtain ⟨hd, h⟩ := Option.ite_none_left_eq_some.mp h
    by_cases hdirectory : d = directory
    · subst hdirectory
      rw [if_pos rfl] at h
      obtain ⟨⟨rfl, hsome⟩, hsure⟩ := Option.ite_none_right_eq_some.mp h
      obtain ⟨node, rfl⟩ := Option.ne_none_iff_exists'.mp hsome
      obtain rfl := Option.some.inj hsure
      exact .settles hd
    · rw [if_neg hdirectory] at h
      refine hstays (fun hmem => ?_) id h
      rcases List.mem_cons.mp hmem with hmem | hmem
      · exact hdirectory hmem
      · exact hd (List.mem_singleton.mp hmem)

theorem step_taken {d : Descriptor} {value : Unit} (h : stage.taken d = some stage') :
    Stage.Step path stage ⟨.lock d, .ok value⟩ stage' := by
  cases stage with
  | found directory lock =>
    obtain ⟨rfl, hlocked⟩ := Option.ite_none_right_eq_some.mp h
    obtain rfl := Option.some.inj hlocked
    exact .takes
  | searching | locked | sure | ended => cases h

theorem step_freed {d : Descriptor} {answer : Except OsError Unit}
    (h : stage.freed d = some stage') : Stage.Step path stage ⟨.unlock d, answer⟩ stage' := by
  cases stage with
  | locked directory lock lockNode entryNode =>
    obtain ⟨rfl, hover⟩ := Option.ite_none_right_eq_some.mp h
    obtain rfl := Option.some.inj hover
    exact .frees rfl
  | sure lock =>
    obtain ⟨rfl, hover⟩ := Option.ite_none_right_eq_some.mp h
    obtain rfl := Option.some.inj hover
    exact .frees rfl
  | searching | found | ended => cases h

theorem step_lockSeen {d : Descriptor} {m : Metadata} :
    Stage.Step path stage ⟨.fstat d, .ok m⟩ (stage.lockSeen d m) := by
  have hstays : Stage.Step path stage ⟨.fstat d, .ok m⟩ stage :=
    stays_of (fun _ h => by cases h) (fun _ h => by cases h) (fun _ _ h => by cases h) rfl
  cases stage with
  | locked directory lock lockNode entryNode =>
    by_cases hd : d = lock
    · subst hd
      have hseen : Stage.lockSeen (.locked directory d lockNode entryNode) d m =
          .locked directory d (some (nodeOf m)) entryNode := if_pos rfl
      exact hseen ▸ .seesLock
    · have hseen : Stage.lockSeen (.locked directory lock lockNode entryNode) d m =
          .locked directory lock lockNode entryNode := if_neg hd
      exact hseen.symm ▸ hstays
  | searching | found | sure | ended => exact hstays

/-- The step of a look at the lock's entry. -/
theorem step_entrySeen {parent : Descriptor} {name : String} {m : Metadata} :
    Stage.Step path stage ⟨.statAt parent name, .ok m⟩ (stage.entrySeen parent name m) := by
  have hstays : Stage.Step path stage ⟨.statAt parent name, .ok m⟩ stage :=
    stays_of (fun _ h => by cases h) (fun _ h => by cases h) (fun _ _ h => by cases h) rfl
  cases stage with
  | locked directory lock lockNode entryNode =>
    by_cases h : parent = directory ∧ name = leadershipLockFilename
    · have hseen : Stage.entrySeen (.locked directory lock lockNode entryNode) parent name m =
          .locked directory lock lockNode (some (nodeOf m)) := if_pos h
      obtain ⟨rfl, rfl⟩ := h
      exact hseen ▸ .seesEntry
    · have hseen : Stage.entrySeen (.locked directory lock lockNode entryNode) parent name m =
          .locked directory lock lockNode entryNode := if_neg h
      exact hseen.symm ▸ hstays
  | searching | found | sure | ended => exact hstays

/-- Everything an exchange can do to a stage. -/
theorem step_of_next (h : stage.next path x = some stage') : Stage.Step path stage x stage' := by
  have hstays : (∀ d, x.1 ≠ .close d) → (∀ d, x.1 ≠ .unlock d) →
      (∀ d value, x ≠ ⟨.lock d, .ok value⟩) → some stage = some stage' →
        Stage.Step path stage x stage' := stays_of
  obtain ⟨c, answer⟩ := x
  cases c with
  | lstat | fchmod | fsync =>
    exact hstays (fun _ h => by cases h) (fun _ h => by cases h) (fun _ _ h => by cases h) h
  | unlink => cases h
  | unlock d => exact step_freed h
  | close d => exact step_closed h
  | lead =>
    obtain ⟨-, h⟩ := Option.ite_none_right_eq_some.mp h
    exact hstays (fun _ h => by cases h) (fun _ h => by cases h) (fun _ _ h => by cases h) h
  | opening target =>
    match answer with
    | .ok (d : Descriptor) => exact step_opened h
    | .error e =>
      exact hstays (fun _ h => by cases h) (fun _ h => by cases h) (fun _ _ h => by cases h) h
  | lock d =>
    match answer with
    | .ok (value : Unit) => exact step_taken h
    | .error e =>
      exact hstays (fun _ h => by cases h) (fun _ h => by cases h) (fun _ _ h => by cases h) h
  | fstat d =>
    match answer with
    | .ok (m : Metadata) =>
      obtain rfl := Option.some.inj h
      exact step_lockSeen
    | .error e =>
      exact hstays (fun _ h => by cases h) (fun _ h => by cases h) (fun _ _ h => by cases h) h
  | statAt parent name =>
    match answer with
    | .ok (m : Metadata) =>
      obtain rfl := Option.some.inj h
      exact step_entrySeen
    | .error e =>
      exact hstays (fun _ h => by cases h) (fun _ h => by cases h) (fun _ _ h => by cases h) h

/-! ## Holding a lock -/

theorem Stage.Idle.not_holds (h : stage.Idle) : ¬stage.Holds lock := by
  intro hholds
  cases stage with
  | locked => exact h
  | sure => exact h
  | searching | found | ended => exact hholds

/-- A lock that is held stays held until it is unlocked. -/
theorem Stage.Step.holds (h : Stage.Step path stage x stage') (hholds : stage.Holds lock) :
    stage'.Holds lock ∨ ∃ answer, x = ⟨.unlock lock, answer⟩ := by
  cases h with
  | stays => exact .inl hholds
  | seesLock => exact .inl hholds
  | seesEntry => exact .inl hholds
  | settles => exact .inl hholds
  | frees h =>
    cases stage with
    | locked =>
      obtain rfl := h.symm.trans hholds
      exact .inr ⟨_, rfl⟩
    | sure =>
      obtain rfl := h.symm.trans hholds
      exact .inr ⟨_, rfl⟩
    | searching | found | ended => exact h.elim
  | enters | leaves | finds | quits | takes => exact hholds.elim

/-- A lock is held because it was, or because it was just taken. -/
theorem Stage.Step.taken (h : Stage.Step path stage x stage') (hholds : stage'.Holds lock) :
    stage.Holds lock ∨ ∃ value, x = ⟨.lock lock, .ok value⟩ := by
  cases h with
  | stays => exact .inl hholds
  | seesLock => exact .inl hholds
  | seesEntry => exact .inl hholds
  | settles => exact .inl hholds
  | takes =>
    obtain rfl : _ = lock := hholds
    exact .inr ⟨_, rfl⟩
  | enters | leaves | finds | quits | frees => exact hholds.elim

/-- A session that is sure of its lock stays so until it unlocks. -/
theorem Stage.Step.sure (h : Stage.Step path (.sure lock) x stage') :
    stage' = .sure lock ∨ ∃ d answer, x = ⟨.unlock d, answer⟩ := by
  cases h with
  | stays => exact .inl rfl
  | frees => exact .inr ⟨_, _, rfl⟩

/-- Once unlocked, a session is over. -/
theorem Stage.Step.freed {d : Descriptor} {answer : Except OsError Unit}
    (h : Stage.Step path stage ⟨.unlock d, answer⟩ stage') : stage' = .ended := by
  cases h with
  | stays hclose hunlock => exact absurd rfl (hunlock d)
  | frees => rfl

/-- After the end nothing of the session follows. -/
theorem Stage.Step.ended (h : Stage.Step path .ended x stage') : stage' = .ended := by
  cases h with
  | stays => rfl
  | frees => rfl

/-! ## Whole runs -/

/-- The exchanges lead from one stage to another. -/
abbrev Staged (path : Path) (stage : Stage) (t : List FileExchange) (stage' : Stage) : Prop :=
  monitored (Stage.next path) stage t = some stage'

theorem staged_cons (h : Staged path stage (x :: t) stage') :
    ∃ m, Stage.Step path stage x m ∧ Staged path m t stage' := by
  obtain ⟨m, hnext, hrest⟩ := Option.bind_eq_some_iff.mp h
  exact ⟨m, step_of_next hnext, hrest⟩

theorem staged_append {t' : List FileExchange} (h : Staged path stage (t ++ t') stage') :
    ∃ m, Staged path stage t m ∧ Staged path m t' stage' := by
  rw [Staged, monitored_append] at h
  exact Option.bind_eq_some_iff.mp h

/-- What is held and not unlocked is still held. -/
theorem staged_holds (h : Staged path stage t stage') (hholds : stage.Holds lock) :
    stage'.Holds lock ∨ ∃ answer, (⟨.unlock lock, answer⟩ : FileExchange) ∈ t := by
  induction t generalizing stage with
  | nil =>
    obtain rfl := Option.some.inj h
    exact .inl hholds
  | cons x t ih =>
    obtain ⟨m, hstep, hrest⟩ := staged_cons h
    rcases hstep.holds hholds with hm | ⟨answer, rfl⟩
    · rcases ih hrest hm with hlast | ⟨answer, hmem⟩
      · exact .inl hlast
      · exact .inr ⟨answer, List.mem_cons_of_mem _ hmem⟩
    · exact .inr ⟨answer, List.mem_cons_self⟩

/-- Nothing was unlocked by a session that still holds a lock. -/
theorem staged_unlocks {d : Descriptor} {answer : Except OsError Unit}
    (h : Staged path stage t stage') (hholds : stage'.Holds lock) :
    (⟨.unlock d, answer⟩ : FileExchange) ∉ t := by
  have hover : ∀ t stage', Staged path .ended t stage' → stage' = .ended := by
    intro t
    induction t with
    | nil => exact fun stage' h => (Option.some.inj h).symm
    | cons x t ih =>
      intro stage' h
      obtain ⟨m, hstep, hrest⟩ := staged_cons h
      obtain rfl := hstep.ended
      exact ih stage' hrest
  intro hmem
  obtain ⟨a, b, rfl⟩ := List.append_of_mem hmem
  obtain ⟨m, -, hrest⟩ := staged_append h
  obtain ⟨m', hstep, hlast⟩ := staged_cons hrest
  obtain rfl := hstep.freed
  obtain rfl := hover b stage' hlast
  exact hholds

/-- What is held was held before, or taken on the way and not unlocked since. -/
theorem staged_taken (h : Staged path stage t stage') (hholds : stage'.Holds lock) :
    stage.Holds lock ∨ ∃ a value b, t = a ++ (⟨.lock lock, .ok value⟩ : FileExchange) :: b := by
  induction t generalizing stage with
  | nil =>
    obtain rfl := Option.some.inj h
    exact .inl hholds
  | cons x t ih =>
    obtain ⟨m, hstep, hrest⟩ := staged_cons h
    rcases ih hrest with hm | ⟨a, value, b, rfl⟩
    · rcases hstep.taken hm with hstage | ⟨value, rfl⟩
      · exact .inl hstage
      · exact .inr ⟨[], value, t, rfl⟩
    · exact .inr ⟨x :: a, value, b, rfl⟩

/-- As long as descriptors are handed out fresh, a sight keeps its ledger and its stage. -/
theorem monitored_sight {sight : Sight} {last : Option Sight}
    (h : monitored (stopping (Sight.next path)) (some sight) t = some last)
    (hfresh : freshFrom sight.held t = true) : ∃ later, last = some later ∧
      monitored (stopping ledgerNext) (some sight.held) t = some (some later.held) ∧
        Staged path sight.stage t later.stage := by
  induction t generalizing sight with
  | nil =>
    obtain rfl := Option.some.inj h
    exact ⟨sight, rfl, rfl, rfl⟩
  | cons x t ih =>
    obtain ⟨hx, hrest⟩ := Bool.and_eq_true_iff.mp hfresh
    have hopens : ∀ d, effect x = .opens d → d ∉ sight.held := by
      intro d hd
      rw [hd] at hx
      exact of_decide_eq_true hx
    obtain ⟨m, hnext, hlast⟩ := Option.bind_eq_some_iff.mp h
    cases m with
    | none =>
      -- it gives up when the ledger does, and the ledger does not
      change Sight.next path sight x = some none at hnext
      unfold Sight.next at hnext
      split at hnext
      · cases hnext
      · rename_i hledger
        obtain ⟨-, hafter⟩ := ledgerNext_inv hledger
        rw [ledgerAfter_fresh hopens] at hafter
        cases hafter
      · rename_i held hledger
        cases hstage : sight.stage.next path x with
        | none =>
          rw [hstage] at hnext
          cases hnext
        | some stage =>
          rw [hstage] at hnext
          cases hnext
    | some middle =>
      obtain ⟨hledger, hstage⟩ := Sight.next_inv hnext
      obtain ⟨-, hafter⟩ := ledgerNext_inv hledger
      rw [ledgerAfter_fresh hopens] at hafter
      have hheld : middle.held = heldAfter sight.held x := Option.some.inj hafter
      obtain ⟨later, rfl, hmonitored, hstaged⟩ := ih hlast (hheld ▸ hrest)
      refine ⟨later, rfl, ?_, ?_⟩
      · rw [monitored_cons]
        show (ledgerNext sight.held x).bind _ = _
        rw [hledger]
        exact hmonitored
      · rw [Staged, monitored_cons, hstage]
        exact hstaged

/-- From a program to a run of it: the ledger and the stage it ends with. -/
theorem sees_accounts {ε α : Type} {p : Program FileInterface ε α} {sight : Sight}
    {Q : Except ε α → Sight → Prop} {r : Except ε α} (h : Sees path p sight Q)
    (hruns : Runs p t r) (hfresh : freshFrom sight.held t = true) :
    ∃ later, Accounted sight.held t later.held ∧ Staged path sight.stage t later.stage ∧
      Q r later := by
  obtain ⟨last, hmonitored, hQ⟩ := Passes.runs h hruns
  obtain ⟨later, rfl, hledger, hstaged⟩ := monitored_sight hmonitored hfresh
  obtain ⟨hlast, haccounted⟩ := monitored_accounts hledger hfresh
  rw [← Option.some.inj hlast] at haccounted
  exact ⟨later, haccounted, hstaged, hQ later rfl⟩

/-- What an acquisition keeps: the lock it took and never gave back, and no other descriptor. -/
structure Kept (t : List FileExchange) (lock : Descriptor) : Prop where
  accounted : Accounted [] t [lock]
  locked : ∃ a b value, t = a ++ (⟨.lock lock, .ok value⟩ : FileExchange) :: b
  never_unlocked : ∀ d answer, (⟨.unlock d, answer⟩ : FileExchange) ∉ t

/-- What a failed acquisition leaves: nothing open, and no lock that it did not unlock again. -/
structure GivenBack (t : List FileExchange) : Prop where
  accounted : Accounted [] t []
  unlocked : ∀ a d value b, t = a ++ (⟨.lock d, .ok value⟩ : FileExchange) :: b →
    ∃ answer, (⟨.unlock d, answer⟩ : FileExchange) ∈ b

/-- Whatever it is answered, an acquisition works on descriptors that are open and closes each of
    them once: it keeps the lock file that it locked when it succeeds, and nothing when it fails,
    where a lock that it took is unlocked again. -/
theorem acquire_accounts {host : Host} {supportedRuntime : Bool} {path : Path}
    {t : List FileExchange} {r : Except LockException Descriptor}
    (hruns : Runs (acquire host supportedRuntime path) t r) (hfresh : freshFrom [] t = true) :
    (∃ lock, r = .ok lock ∧ Kept t lock) ∨ (∃ e, r = .error e) ∧ GivenBack t := by
  obtain ⟨later, haccounted, hstaged, hleading⟩ := sees_accounts sees_acquire hruns hfresh
  cases r with
  | ok lock =>
    obtain rfl : later = ⟨[lock], .sure lock⟩ := hleading
    refine .inl ⟨lock, rfl, haccounted, ?_, fun d answer => staged_unlocks hstaged rfl⟩
    rcases staged_taken hstaged rfl with hnothing | ⟨a, value, b, ht⟩
    · exact hnothing.elim
    · exact ⟨a, b, value, ht⟩
  | error e =>
    obtain ⟨hheld, hidle⟩ := hleading
    refine .inr ⟨⟨e, rfl⟩, hheld ▸ haccounted, ?_⟩
    rintro a d value b rfl
    obtain ⟨m, -, hrest⟩ := staged_append hstaged
    obtain ⟨m', hstep, hlast⟩ := staged_cons hrest
    have hholds : m'.Holds d := by
      cases hstep with
      | takes => rfl
      | stays _ _ hlock => exact absurd rfl (hlock d value)
    rcases staged_holds hlast hholds with h | h
    · exact absurd h hidle.not_holds
    · exact h

/-- The lock file is there and free, and every call succeeds. -/
def grantingLock : Nat × List Descriptor → (c : FileCall) →
    Except OsError (FileValue c) × (Nat × List Descriptor)
  | s, .lstat _ => (.ok rootMetadata, s)
  | s, .statAt _ _ => (.ok ⟨1, 9, .regular, 0o600, 0, 1, 0⟩, s)
  | s, .fstat d => (.ok (if d ∈ s.2 then ⟨1, 9, .regular, 0o600, 0, 1, 0⟩ else rootMetadata), s)
  | s, .opening (.fileAt _ _ _) => (.ok s.1, (s.1 + 1, s.1 :: s.2))
  | s, .opening (.directory _) | s, .opening (.directoryAt _ _) | s, .opening (.read _)
  | s, .opening (.new _) => (.ok s.1, (s.1 + 1, s.2))
  | s, .fchmod _ | s, .fsync _ | s, .close _ | s, .unlink _ | s, .lock _ | s, .unlock _
  | s, .lead => (.ok (), s)

/-- The calls of a session that gets the lock. -/
def grantedCalls : List FileExchange :=
  (acquire ⟨0, true⟩ true []).trace (I := FileInterface) grantingLock (0, [])

/-- An acquisition of the root directory. -/
theorem granted_accounts : Kept grantedCalls 3 := by
  have hruns : Runs (acquire ⟨0, true⟩ true []) grantedCalls (.ok 3) :=
    runs_trace (I := FileInterface) grantingLock (acquire ⟨0, true⟩ true []) (0, [])
  rcases acquire_accounts hruns (by decide +kernel) with ⟨lock, hlock, hkept⟩ | ⟨⟨e, he⟩, -⟩
  · obtain rfl := Except.ok.inj hlock
    exact hkept
  · cases he

end Steps

end Aurora.HealthHistory.LeadershipLock
