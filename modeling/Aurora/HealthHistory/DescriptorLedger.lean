/-
  What the filesystem boundary does with its descriptors.

  A ledger holds the descriptors a program opened and has not closed.  Its monitor refuses a call on
  any other descriptor, a close of one among them; an environment that hands out a descriptor which
  is open already ends the account.  `Tallies` is what composes: from one ledger, every run ends as a
  postcondition says of the result and the ledger.
-/
import Aurora.Lib.Monitor
import Aurora.HealthHistory.Filesystem

namespace Aurora.HealthHistory.Filesystem

open Program

/-! ## Ledgers -/

/-- The descriptor a call works on. -/
def FileCall.uses : FileCall → Option Descriptor
  | .statAt d _ | .fstat d | .fchmod d | .fsync d | .close d | .lock d | .unlock d => some d
  | .opening (.directoryAt d _) | .opening (.fileAt d _ _) => some d
  | .lstat _ | .opening (.directory _) | .opening (.read _) | .opening (.new _) | .unlink _
  | .lead => none

/-- What an exchange does to the open descriptors. -/
inductive LedgerEffect
  | opens (d : Descriptor)
  | closes (d : Descriptor)
  | nothing

/-- A descriptor counts as closed once its close was attempted. -/
def effect : FileExchange → LedgerEffect
  | ⟨.opening _, .ok (d : Descriptor)⟩ => .opens d
  | ⟨.close d, _⟩ => .closes d
  | _ => .nothing

/-- The descriptors that are open afterwards, unless one was handed out twice. -/
def ledgerAfter (held : List Descriptor) : LedgerEffect → Option (List Descriptor)
  | .opens d => if d ∈ held then none else some (d :: held)
  | .closes d => some (held.erase d)
  | .nothing => some held

/-- The open descriptors behind a call, which uses no other ones. -/
def ledgerNext (held : List Descriptor) (x : FileExchange) : Option (Option (List Descriptor)) :=
  if x.1.uses.all (· ∈ held) then some (ledgerAfter held (effect x)) else none

/-- Every run from these open descriptors ends as `Q` says. -/
abbrev Tallies {ε α : Type} (p : Program FileInterface ε α) (held : List Descriptor)
    (Q : Except ε α → List Descriptor → Prop) : Prop := p.Tracks ledgerNext held Q

variable {ε φ α β : Type} {held : List Descriptor}

/-! ## One call -/

/-- A call on open descriptors is always allowed. -/
theorem ledgerNext_used {x : FileExchange} (h : ∀ d ∈ x.1.uses, d ∈ held) :
    ledgerNext held x = some (ledgerAfter held (effect x)) := by
  have hall : x.1.uses.all (· ∈ held) = true := by
    cases huses : x.1.uses with
    | none => rfl
    | some d => simpa using h d huses
  show (if _ then _ else _) = _
  rw [if_pos hall]

/-- A call that neither opens nor closes. -/
def FileCall.Plain : FileCall → Prop
  | .opening _ | .close _ => False
  | _ => True

theorem effect_plain {c : FileCall} (h : c.Plain) (answer : FileInterface.Answer c) :
    effect ⟨c, answer⟩ = .nothing := by
  cases c <;> first | rfl | exact h.elim

theorem ledgerNext_plain {c : FileCall} (hplain : c.Plain) (huses : ∀ d ∈ c.uses, d ∈ held)
    (answer : FileInterface.Answer c) : ledgerNext held ⟨c, answer⟩ = some (some held) := by
  rw [ledgerNext_used huses, effect_plain hplain]
  rfl

/-- Closing takes the descriptor out, whether the close reports an error or not. -/
theorem ledgerNext_close {d : Descriptor} (hd : d ∈ held) (answer : Except OsError Unit) :
    ledgerNext held ⟨.close d, answer⟩ = some (some (held.erase d)) :=
  ledgerNext_used fun _ hd' => Option.some.inj hd' ▸ hd

theorem tallies_plain {c : FileCall} {value : FileInterface.Answer c → Except ε α}
    {Q : Except ε α → List Descriptor → Prop} (hplain : c.Plain) (huses : ∀ d ∈ c.uses, d ∈ held)
    (hQ : ∀ r, Q r held) : Tallies (invoke (I := FileInterface) c value) held Q :=
  tracks_call fun answer =>
    .inr ⟨held, ledgerNext_plain hplain huses answer, tracks_ofExcept (hQ _)⟩

/-- The program of one opening: a new descriptor, or none. -/
theorem tallies_opening {target : Opening} {value : Except OsError Descriptor → Except ε α}
    {Q : Except ε α → List Descriptor → Prop}
    (huses : ∀ d ∈ (FileCall.opening target).uses, d ∈ held)
    (hok : ∀ d, d ∉ held → Q (value (.ok d)) (d :: held)) (herror : ∀ e, Q (value (.error e)) held) :
    Tallies (invoke (I := FileInterface) (.opening target) value) held Q := by
  refine tracks_call fun answer => ?_
  rw [ledgerNext_used huses]
  match answer with
  | .error e => exact .inr ⟨held, rfl, tracks_ofExcept (herror e)⟩
  | .ok (d : Descriptor) =>
    show some (if d ∈ held then none else some (d :: held)) = _ ∨ _
    by_cases hd : d ∈ held
    · exact .inl (by rw [if_pos hd])
    · refine .inr ⟨d :: held, ?_, tracks_ofExcept (hok d hd)⟩
      show some (if d ∈ held then none else some (d :: held)) = _
      rw [if_neg hd]

theorem tallies_close {d : Descriptor} {value : Except OsError Unit → Except ε α}
    {Q : Except ε α → List Descriptor → Prop} (hd : d ∈ held) (hQ : ∀ r, Q r (held.erase d)) :
    Tallies (invoke (I := FileInterface) (.close d) value) held Q :=
  tracks_call fun answer => .inr ⟨_, ledgerNext_close hd answer, tracks_ofExcept (hQ _)⟩

/-- Look at how a plain call ends. -/
theorem tallies_attempt_bind {c : FileCall} {f : Except OsError (FileValue c) →
    Program FileInterface ε α} {Q : Except ε α → List Descriptor → Prop} (hplain : c.Plain)
    (huses : ∀ d ∈ c.uses, d ∈ held) (h : ∀ r, Tallies (f r) held Q) :
    Tallies (attempt c >>= f) held Q :=
  tracks_call fun answer => .inr ⟨held, ledgerNext_plain hplain huses answer, h answer⟩

/-- Look at how a close ends. -/
theorem tallies_attempt_close_bind {d : Descriptor} {f : Except OsError Unit →
    Program FileInterface ε α} {Q : Except ε α → List Descriptor → Prop} (hd : d ∈ held)
    (h : ∀ r, Tallies (f r) (held.erase d) Q) : Tallies (attempt (.close d) >>= f) held Q :=
  tracks_call fun answer => .inr ⟨_, ledgerNext_close hd answer, h answer⟩

/-! ## Compositions -/

/-- However it ends, the program leaves these descriptors open. -/
def Leaves {ε α : Type} (held : List Descriptor) : Except ε α → List Descriptor → Prop :=
  fun _ held' => held' = held

/-- A reason for the failure changes no descriptor. -/
theorem tallies_refusing {reason : FilesystemRejection} {body : Files α}
    {held' : List Descriptor} (h : Tallies body held (Leaves held')) :
    Tallies (refusing reason body) held (Leaves held') :=
  h.catching_bind fun _ _ hleaves => tracks_ofExcept hleaves

/-- The cleanup starts from what the body left, on either outcome. -/
theorem tallies_finallyDo {body : Files α} {cleanup : Files Unit} {held' held'' : List Descriptor}
    (hbody : Tallies body held (Leaves held')) (hcleanup : Tallies cleanup held' (Leaves held'')) :
    Tallies (Program.finallyDo body cleanup) held (Leaves held'') := by
  refine hbody.catching_bind fun r o ho => ?_
  obtain rfl : o = held' := ho
  refine hcleanup.bind (fun _ o ho => ?_) fun _ _ ho => ho
  exact tracks_ofExcept ho

/-- What is opened and closed again leaves nothing behind. -/
theorem tallies_bracketed {target : Opening} {body : Descriptor → Files α}
    (huses : ∀ d ∈ (FileCall.opening target).uses, d ∈ held)
    (hbody : ∀ d, d ∉ held → Tallies (body d) (d :: held) (Leaves (d :: held))) :
    Tallies (bracketed (sys (.opening target)) body) held (Leaves held) := by
  have hopen : Tallies (sys (.opening target)) held fun
      | .ok (d : Descriptor), held' => d ∉ held ∧ held' = d :: held
      | .error _, held' => held' = held :=
    tallies_opening huses (fun d hd => ⟨hd, rfl⟩) fun _ => rfl
  refine hopen.bind (fun (d : Descriptor) held' hd => ?_) fun _ _ herror => herror
  obtain ⟨hfresh, rfl⟩ := hd
  refine tallies_finallyDo (hbody d hfresh) (tallies_close List.mem_cons_self fun _ => ?_)
  exact List.erase_cons_head ..

/-- A check goes on with the same descriptors. -/
theorem tallies_check {check : Except FileException β} {rest : β → Files α}
    {Q : Except FileException α → List Descriptor → Prop} (herror : ∀ e, Q (.error e) held)
    (h : ∀ b, Tallies (rest b) held Q) : Tallies (ofExcept check >>= rest) held Q := by
  refine Tracks.bind (P := fun _ held' => held' = held) (tracks_ofExcept rfl) ?_ ?_
  · rintro b held' rfl
    exact h b
  · rintro e held' rfl
    exact herror e

/-- A plain call goes on with the same descriptors. -/
theorem tallies_plain_bind {c : FileCall} {value : FileInterface.Answer c → Except FileException β}
    {rest : β → Files α} {Q : Except FileException α → List Descriptor → Prop} (hplain : c.Plain)
    (huses : ∀ d ∈ c.uses, d ∈ held) (herror : ∀ e, Q (.error e) held)
    (h : ∀ b, Tallies (rest b) held Q) :
    Tallies (invoke (I := FileInterface) c value >>= rest) held Q := by
  refine (tallies_plain hplain huses (Q := fun _ held' => held' = held) fun _ => rfl).bind ?_ ?_
  · rintro b held' rfl
    exact h b
  · rintro e held' rfl
    exact herror e

/-! ## Directories -/

section Walks

variable {host : Host} {expected : Option (List DirectorySnapshot)}

theorem uses_mem {d : Descriptor} (h : d ∈ held) : ∀ d' ∈ some d, d' ∈ held :=
  fun _ hd' => Option.some.inj hd' ▸ h

theorem uses_none : ∀ d' ∈ (none : Option Descriptor), d' ∈ held := fun _ h => by cases h

/-- The check of the root leaves its descriptor open. -/
theorem tallies_enterRoot {before : Metadata} {d : Descriptor} {final : Bool} (hd : d ∈ held) :
    Tallies (enterRoot host before d final expected) held (Leaves held) := by
  unfold enterRoot
  refine tallies_plain_bind trivial (uses_mem hd) (fun _ => rfl) fun opened => ?_
  refine tallies_check (fun _ => rfl) fun _ => tallies_check (fun _ => rfl) fun _ => ?_
  refine tallies_plain_bind trivial uses_none (fun _ => rfl) fun after => ?_
  refine tallies_check (fun _ => rfl) fun _ => tallies_check (fun _ => rfl) fun _ => ?_
  exact tallies_check (fun _ => rfl) fun _ => tracks_pure rfl

/-- A check of a component leaves parent and child open. -/
theorem tallies_checkDirectory {before : Metadata} {parent child : Descriptor} {component : String}
    {final : Bool} {index : Nat} (hparent : parent ∈ held) (hchild : child ∈ held) :
    Tallies (checkDirectory host before parent child component final expected index) held
      (Leaves held) := by
  unfold checkDirectory statDirectoryEntry
  refine tallies_plain_bind trivial (uses_mem hchild) (fun _ => rfl) fun opened => ?_
  refine tallies_check (fun _ => rfl) fun _ => tallies_check (fun _ => rfl) fun _ => ?_
  refine tallies_plain_bind trivial (uses_mem hparent) (fun _ => rfl) fun after => ?_
  refine tallies_check (fun _ => rfl) fun _ => tallies_check (fun _ => rfl) fun _ => ?_
  exact tallies_check (fun _ => rfl) fun _ => tracks_pure rfl

/-- A component that was entered is open beside its parent; one that failed is closed. -/
def Entered (held : List Descriptor) :
    Except FileException (Descriptor × Metadata) → List Descriptor → Prop
  | .ok (child, _), held' => child ∉ held ∧ held' = child :: held
  | .error _, held' => held' = held

/-- Close a descriptor, then raise what was caught. -/
theorem tallies_close_raise {d : Descriptor} {e : FileException}
    {Q : Except FileException α → List Descriptor → Prop} (hd : d ∈ held)
    (hQ : ∀ e, Q (.error e) (held.erase d)) :
    Tallies (do sys (.close d); raise e : Files α) held Q := by
  have hclose : Tallies (sys (.close d)) held (Leaves (held.erase d)) :=
    tallies_close hd fun _ => rfl
  refine hclose.bind ?_ ?_
  · rintro _ held' rfl
    exact tracks_raise (hQ e)
  · rintro e' held' rfl
    exact hQ e'

/-- Entering a component opens the child, or leaves nothing new open. -/
theorem tallies_enterDirectory {parent : Descriptor} {component : String} {final : Bool}
    {index : Nat} (hparent : parent ∈ held) :
    Tallies (enterDirectory host parent component final expected index) held (Entered held) := by
  unfold enterDirectory statDirectoryEntry
  refine tallies_plain_bind trivial (uses_mem hparent) (fun _ => rfl) fun before => ?_
  refine tallies_check (fun _ => rfl) fun _ => ?_
  have hopen : Tallies (expecting (fun _ => .identityChanged)
      (.opening (.directoryAt parent component))) held fun
        | .ok (d : Descriptor), held' => d ∉ held ∧ held' = d :: held
        | .error _, held' => held' = held :=
    tallies_opening (uses_mem hparent) (fun d hd => ⟨hd, rfl⟩) fun _ => rfl
  refine hopen.bind (fun (child : Descriptor) held' hchild => ?_) fun _ _ herror => herror
  obtain ⟨hfresh, rfl⟩ := hchild
  have hmem : child ∈ child :: held := List.mem_cons_self
  have hchecked : Tallies (checkDirectory host before parent child component final expected index)
      (child :: held) (Leaves (child :: held)) :=
    tallies_checkDirectory (List.mem_cons_of_mem _ hparent) hmem
  refine hchecked.catching_bind fun r held' hheld => ?_
  obtain rfl : held' = child :: held := hheld
  cases r with
  | ok after => exact tracks_pure ⟨hfresh, rfl⟩
  | error e => exact tallies_close_raise hmem fun _ => List.erase_cons_head ..

/-- The loop closes what it stands in; nothing but that and its own descriptors is closed. -/
theorem tallies_walkFrom {components : List String} :
    ∀ {d : Descriptor} {index : Nat} {snapshots : List DirectorySnapshot} {last : Metadata},
      d ∉ held → Tallies (walkFrom host expected d index components snapshots last) (d :: held)
        (Leaves held) := by
  induction components with
  | nil =>
    intro d index snapshots last _
    unfold walkFrom
    have hclose : Tallies (sys (.close d)) (d :: held) (Leaves held) :=
      tallies_close List.mem_cons_self fun _ => List.erase_cons_head ..
    exact hclose.bind (fun _ _ hleft => tracks_pure hleft) fun _ _ hleft => hleft
  | cons component rest ih =>
    intro d index snapshots last hd
    unfold walkFrom
    have hmem : d ∈ d :: held := List.mem_cons_self
    refine (tallies_enterDirectory hmem).catching_bind fun r held' hr => ?_
    match r, hr with
    | .error e, hr =>
      obtain rfl : held' = d :: held := hr
      exact tallies_close_raise hmem fun _ => List.erase_cons_head ..
    | .ok (child, after), hr =>
      obtain ⟨hfresh, rfl⟩ : child ∉ d :: held ∧ held' = child :: d :: held := hr
      have hne : child ≠ d := List.ne_of_not_mem_cons hfresh
      have hchild : child ∉ held := List.not_mem_of_not_mem_cons hfresh
      -- the parent is given up, so that only the child is left
      have herase : (child :: d :: held).erase d = child :: held := by
        rw [List.erase_cons_tail (by simpa using hne), List.erase_cons_head]
      refine tallies_attempt_close_bind (List.mem_cons_of_mem _ hmem) fun closed => ?_
      rw [herase]
      match closed with
      | .ok _ => exact ih hchild
      | .error e => exact tallies_close_raise List.mem_cons_self fun _ => List.erase_cons_head ..

/-- A walk closes every directory it opened. -/
theorem tallies_walkDirectoryChain {components : List String} :
    Tallies (walkDirectoryChain host components expected) held (Leaves held) := by
  unfold walkDirectoryChain
  split
  · exact tracks_raise rfl
  · refine tallies_plain_bind trivial uses_none (fun _ => rfl) fun before => ?_
    refine tallies_check (fun _ => rfl) fun _ => ?_
    have hopen : Tallies (expecting (fun _ => .identityChanged) (.opening (.directory []))) held fun
        | .ok (d : Descriptor), held' => d ∉ held ∧ held' = d :: held
        | .error _, held' => held' = held :=
      tallies_opening uses_none (fun d hd => ⟨hd, rfl⟩) fun _ => rfl
    refine hopen.bind (fun (d : Descriptor) held' hd => ?_) fun _ _ herror => herror
    obtain ⟨hfresh, rfl⟩ := hd
    have hroot : Tallies (enterRoot host before d components.isEmpty expected) (d :: held)
        (Leaves (d :: held)) := tallies_enterRoot List.mem_cons_self
    refine hroot.catching_bind fun r held' hheld => ?_
    obtain rfl : held' = d :: held := hheld
    match r with
    | .error e => exact tallies_close_raise List.mem_cons_self fun _ => List.erase_cons_head ..
    | .ok after =>
      refine (tallies_walkFrom hfresh).bind (fun walked held' hleft => ?_) fun _ _ hleft => hleft
      obtain rfl : held' = held := hleft
      dsimp only
      split
      · exact tracks_raise rfl
      · exact tracks_pure rfl

end Walks

section Functions

variable {host : Host} {path : Path}

/-- The validation of the protected directory closes what it opens. -/
theorem tallies_validateProtectedDirectory :
    Tallies (validateProtectedDirectory host path) held (Leaves held) := by
  unfold validateProtectedDirectory
  refine tallies_refusing (tallies_check (fun _ => rfl) fun components => ?_)
  refine tallies_walkDirectoryChain.bind (fun first held' hleft => ?_) fun _ _ hleft => hleft
  obtain rfl : held' = held := hleft
  refine tallies_walkDirectoryChain.bind (fun second held'' hleft => ?_) fun _ _ hleft => hleft
  obtain rfl : held'' = held' := hleft
  split
  · exact tracks_raise rfl
  · exact tracks_pure rfl

/-- What goes on after a program that leaves the descriptors as they were. -/
theorem tallies_then {x : Files β} {f : β → Files α} (hx : Tallies x held (Leaves held))
    (hf : ∀ b, Tallies (f b) held (Leaves held)) : Tallies (x >>= f) held (Leaves held) := by
  refine hx.bind (fun b held' hleft => ?_) fun _ _ hleft => hleft
  obtain rfl : held' = held := hleft
  exact hf b

theorem tallies_fsyncDirectory : Tallies (fsyncDirectory host path) held (Leaves held) := by
  unfold fsyncDirectory
  refine tallies_then tallies_validateProtectedDirectory fun _ => ?_
  exact tallies_bracketed uses_none fun d _ =>
    tallies_plain trivial (uses_mem List.mem_cons_self) fun _ => rfl

/-- The validation of the database file closes what it opens. -/
theorem tallies_validateDatabaseFile {expected : Option PathIdentity} {maximumBytes : Int} :
    Tallies (validateDatabaseFile host path expected maximumBytes) held (Leaves held) := by
  unfold validateDatabaseFile
  refine tallies_check (fun _ => rfl) fun _ => tallies_then tallies_validateProtectedDirectory fun _ => ?_
  refine tallies_plain_bind trivial uses_none (fun _ => rfl) fun before => ?_
  refine tallies_check (fun _ => rfl) fun _ => ?_
  refine tallies_then (tallies_bracketed uses_none fun d _ => tallies_refusing ?_) fun _ => ?_
  · refine tallies_plain_bind trivial (uses_mem List.mem_cons_self) (fun _ => rfl) fun opened => ?_
    exact tallies_check (fun _ => rfl) fun _ => tracks_ofExcept rfl
  · refine tallies_plain_bind trivial uses_none (fun _ => rfl) fun after => ?_
    refine tallies_check (fun _ => rfl) fun _ => tallies_check (fun _ => rfl) fun _ => ?_
    split
    · exact tracks_raise rfl
    · exact tracks_pure rfl

theorem tallies_unlinkCreatedFile {identity : PathIdentity} :
    Tallies (unlinkCreatedFile path identity) held (Leaves held) := by
  unfold unlinkCreatedFile
  refine tallies_attempt_bind trivial uses_none fun found => ?_
  match found with
  | .error _ => exact tracks_pure rfl
  | .ok (metadata : Metadata) =>
    dsimp only
    split
    · exact tracks_pure rfl
    · exact tallies_attempt_bind trivial uses_none fun _ => tracks_pure rfl

/-- The validation of a sidecar closes what it opens. -/
theorem tallies_validateSidecar {sidecar : Sidecar} {maximumBytes : Int} :
    Tallies (validateSidecar host path sidecar maximumBytes) held (Leaves held) := by
  unfold validateSidecar
  refine tallies_attempt_bind trivial uses_none fun found => ?_
  match found with
  | .error .fileNotFound => exact tracks_pure rfl
  | .error .fileExists | .error .wouldBlock | .error .other => exact tracks_raise rfl
  | .ok _ => exact tallies_then tallies_validateDatabaseFile fun _ => tracks_pure rfl

/-- The flush of the database file closes what it opens. -/
theorem tallies_fsyncDatabaseFile : Tallies (fsyncDatabaseFile host path) held (Leaves held) := by
  unfold fsyncDatabaseFile
  refine tallies_attempt_bind trivial uses_none fun found => ?_
  match found with
  | .error .fileNotFound => exact tracks_pure rfl
  | .error .fileExists | .error .wouldBlock | .error .other => exact tracks_raise rfl
  | .ok _ =>
    refine tallies_then tallies_validateDatabaseFile fun _ => tallies_bracketed uses_none fun d _ => ?_
    exact tallies_plain trivial (uses_mem List.mem_cons_self) fun _ => rfl

theorem tallies_unlinkCapturedSidecar {sidecars : Sidecars} {sidecar : Sidecar} :
    Tallies (unlinkCapturedSidecar path sidecars sidecar) held (Leaves held) := by
  unfold unlinkCapturedSidecar
  split
  · exact tracks_pure rfl
  · exact tallies_unlinkCreatedFile

theorem tallies_requireAbsent {paths : List Path} :
    Tallies (requireAbsent paths) held (Leaves held) := by
  induction paths with
  | nil => exact tracks_pure rfl
  | cons candidate rest ih =>
    unfold requireAbsent
    refine tallies_attempt_bind trivial uses_none fun found => ?_
    match found with
    | .error .fileNotFound => exact ih
    | .error .fileExists | .error .wouldBlock | .error .other | .ok _ => exact tracks_raise rfl

/-- Creating the file opens one descriptor. -/
theorem tallies_openCreatedFile : Tallies (openCreatedFile host path) held fun
    | .ok d, held' => d ∉ held ∧ held' = d :: held
    | .error _, held' => held' = held := by
  unfold openCreatedFile
  refine tallies_check (fun _ => rfl) fun _ => ?_
  refine tallies_validateProtectedDirectory.bind (fun _ held' hleft => ?_) fun _ _ hleft => hleft
  obtain rfl : held' = held := hleft
  refine tallies_requireAbsent.bind (fun _ held'' hleft => ?_) fun _ _ hleft => hleft
  obtain rfl : held'' = held' := hleft
  exact tallies_opening uses_none (fun d hd => ⟨hd, rfl⟩) fun _ => rfl

/-- The preparation keeps the created file open. -/
theorem tallies_prepareCreatedFile {d : Descriptor} (hd : d ∈ held) :
    Tallies (prepareCreatedFile host d) held (Leaves held) := by
  unfold prepareCreatedFile
  refine tallies_plain_bind trivial (uses_mem hd) (fun _ => rfl) fun _ => ?_
  refine tallies_plain_bind trivial (uses_mem hd) (fun _ => rfl) fun metadata => ?_
  refine tallies_check (fun _ => rfl) fun _ => ?_
  split
  · exact tracks_raise rfl
  · exact tallies_plain_bind trivial (uses_mem hd) (fun _ => rfl) fun _ => tracks_pure rfl

/-- The end of a creation closes the created file. -/
theorem tallies_finishCreatedFile {d : Descriptor} {createdIdentity : PathIdentity} :
    Tallies (finishCreatedFile host path d createdIdentity) (d :: held) (Leaves held) := by
  unfold finishCreatedFile
  have hclose : Tallies (sys (.close d)) (d :: held) (Leaves held) :=
    tallies_close List.mem_cons_self fun _ => List.erase_cons_head ..
  refine (tallies_prepareCreatedFile List.mem_cons_self).catching_bind fun r held' hleft => ?_
  obtain rfl : held' = d :: held := hleft
  match r with
  | .error e =>
    refine hclose.bind (fun _ held' hleft => ?_) fun _ _ hleft => hleft
    obtain rfl : held' = held := hleft
    exact tallies_then tallies_unlinkCreatedFile fun _ => tracks_raise rfl
  | .ok identity =>
    refine hclose.bind (fun _ held' hleft => ?_) fun _ _ hleft => hleft
    obtain rfl : held' = held := hleft
    exact tallies_then tallies_validateDatabaseFile fun _ =>
      tallies_then tallies_fsyncDirectory fun _ => tracks_pure rfl

end Functions

/-! ## Whole runs -/

/-- The open descriptors behind a call. -/
def heldAfter (held : List Descriptor) (x : FileExchange) : List Descriptor :=
  match effect x with
  | .opens d => d :: held
  | .closes d => held.erase d
  | .nothing => held

/-- No descriptor is handed out while it is open. -/
def freshFrom (held : List Descriptor) : List FileExchange → Bool
  | [] => true
  | x :: t =>
    (match effect x with
      | .opens d => d ∉ held
      | _ => true) && freshFrom (heldAfter held x) t

/-- From these open descriptors, every call works on one that is open then, and others are left. -/
structure Accounted (before : List Descriptor) (t : List FileExchange) (left : List Descriptor) :
    Prop where
  used : ∀ a x b, t = a ++ x :: b → ∀ d ∈ x.1.uses, d ∈ a.foldl heldAfter before
  left : t.foldl heldAfter before = left

theorem Accounted.append {before mid left : List Descriptor} {t t' : List FileExchange}
    (h : Accounted before t mid) (h' : Accounted mid t' left) : Accounted before (t ++ t') left where
  left := by rw [List.foldl_append, h.left, h'.left]
  used := by
    intro a x b hab d hd
    rcases List.append_eq_append_iff.mp hab with ⟨c, rfl, hc⟩ | ⟨c, rfl, hc⟩
    · rw [List.foldl_append, h.left]
      exact h'.used c x b hc d hd
    · cases c with
      | nil =>
        rw [List.append_nil] at h
        rw [h.left]
        exact h'.used [] x b hc.symm d hd
      | cons y c =>
        obtain ⟨rfl, -⟩ := List.cons.inj hc
        exact h.used a x c rfl d hd

/-- A plain call on open descriptors is an account by itself. -/
theorem Accounted.single {x : FileExchange} (hplain : x.1.Plain) (huses : ∀ d ∈ x.1.uses, d ∈ held) :
    Accounted held [x] held where
  left := by
    show heldAfter held x = held
    unfold heldAfter
    rw [effect_plain hplain]
  used := by
    intro a y b hab d hd
    cases a with
    | nil =>
      obtain ⟨rfl, -⟩ := List.cons.inj hab
      exact huses d hd
    | cons z a => exact absurd (List.cons.inj hab).2.symm (by simp)

/-- Freshness of a run is that of its two parts. -/
theorem freshFrom_append {t t' : List FileExchange} (h : freshFrom held (t ++ t') = true) :
    freshFrom held t = true ∧ freshFrom (t.foldl heldAfter held) t' = true := by
  induction t generalizing held with
  | nil => exact ⟨rfl, h⟩
  | cons x t ih =>
    obtain ⟨hx, hrest⟩ := Bool.and_eq_true_iff.mp h
    obtain ⟨ht, ht'⟩ := ih hrest
    exact ⟨Bool.and_eq_true_iff.mpr ⟨hx, ht⟩, ht'⟩

/-- With fresh descriptors the ledger is the list of the open ones. -/
theorem ledgerAfter_fresh {x : FileExchange} (h : ∀ d, effect x = .opens d → d ∉ held) :
    ledgerAfter held (effect x) = some (heldAfter held x) := by
  unfold heldAfter
  cases heffect : effect x with
  | opens d => exact if_neg (h d heffect)
  | closes d => rfl
  | nothing => rfl

/-- What the monitor followed is accounted for, as long as descriptors are handed out fresh. -/
theorem monitored_accounts {t : List FileExchange} {last : Option (List Descriptor)}
    (h : monitored (stopping ledgerNext) (some held) t = some last)
    (hfresh : freshFrom held t = true) :
    last = some (t.foldl heldAfter held) ∧ Accounted held t (t.foldl heldAfter held) := by
  induction t generalizing held with
  | nil =>
    obtain rfl : some held = last := Option.some.inj h
    exact ⟨rfl, fun a x b hab => absurd hab.symm (by simp), rfl⟩
  | cons x t ih =>
    obtain ⟨hx, hrest⟩ := Bool.and_eq_true_iff.mp hfresh
    have hopens : ∀ d, effect x = .opens d → d ∉ held := by
      intro d hd
      rw [hd] at hx
      exact of_decide_eq_true hx
    rw [monitored_cons] at h
    by_cases huses : ∀ d ∈ x.1.uses, d ∈ held
    · rw [show stopping ledgerNext (some held) x = ledgerNext held x from rfl,
        ledgerNext_used huses, ledgerAfter_fresh hopens] at h
      obtain ⟨hlast, haccounted⟩ := ih h hrest
      refine ⟨hlast, fun a y b hab => ?_, rfl⟩
      cases a with
      | nil =>
        obtain ⟨rfl, -⟩ := List.cons.inj hab
        exact huses
      | cons z a =>
        obtain ⟨rfl, htail⟩ := List.cons.inj hab
        exact haccounted.used a y b htail
    · -- the monitor refuses a call on another descriptor
      have hall : x.1.uses.all (· ∈ held) = false := by
        rw [← Bool.not_eq_true]
        intro hall
        refine huses fun d hd => ?_
        rw [Option.mem_def.mp hd] at hall
        simpa using hall
      have hnone : stopping ledgerNext (some held) x = none := by
        show (if _ then _ else _) = _
        rw [if_neg (by rw [hall]; simp)]
      rw [hnone] at h
      cases h

/-- From a program to a run of it: what is open at the end is accounted for. -/
theorem tallies_accounts {p : Program FileInterface ε α}
    {Q : Except ε α → List Descriptor → Prop} {t : List FileExchange} {r : Except ε α}
    (h : Tallies p held Q) (hruns : Runs p t r) (hfresh : freshFrom held t = true) :
    ∃ left, Accounted held t left ∧ Q r left := by
  obtain ⟨last, hmonitored, hQ⟩ := Passes.runs h hruns
  obtain ⟨rfl, haccounted⟩ := monitored_accounts hmonitored hfresh
  exact ⟨_, haccounted, hQ _ rfl⟩

/-- What the health history asks of its filesystem boundary. -/
inductive Operation
  | validateDirectory (path : Path)
  | fsyncDirectory (path : Path)
  | validateFile (path : Path) (expected : Option PathIdentity) (maximumBytes : Int)
  | validateSidecars (path : Path) (maximumWalBytes : Int)
  | fsyncFiles (path : Path)
  | createFile (path : Path)
  | removeArtifacts (path : Path) (identity : PathIdentity) (sidecars : Sidecars)

/-- The program of an operation. -/
def Operation.program (host : Host) : Operation → Files Unit
  | .validateDirectory path => do let _ ← validateProtectedDirectory host path
  | .fsyncDirectory path => Filesystem.fsyncDirectory host path
  | .validateFile path expected maximumBytes => do
    let _ ← validateDatabaseFile host path expected maximumBytes
  | .validateSidecars path maximumWalBytes => do
    let _ ← Filesystem.validateSidecars host path maximumWalBytes
  | .fsyncFiles path => fsyncDatabaseFiles host path
  | .createFile path => do let _ ← createDatabaseFile host path
  | .removeArtifacts path identity sidecars => removeCreatedArtifacts host path identity sidecars

/-- The one operation that may leave a descriptor open. -/
def Operation.IsCreation : Operation → Prop
  | .createFile _ => True
  | _ => False

/-- Every operation but a creation leaves nothing open. -/
theorem tallies_operation {host : Host} {operation : Operation} (h : ¬operation.IsCreation) :
    Tallies (operation.program host) [] (Leaves []) := by
  cases operation with
  | validateDirectory path =>
    exact tallies_then tallies_validateProtectedDirectory fun _ => tracks_pure rfl
  | fsyncDirectory path => exact tallies_fsyncDirectory
  | validateFile path expected maximumBytes =>
    exact tallies_then tallies_validateDatabaseFile fun _ => tracks_pure rfl
  | validateSidecars path maximumWalBytes =>
    refine tallies_then ?_ fun _ => tracks_pure rfl
    unfold Filesystem.validateSidecars
    exact tallies_then tallies_validateSidecar fun _ =>
      tallies_then tallies_validateSidecar fun _ => tracks_pure rfl
  | fsyncFiles path =>
    exact tallies_then tallies_fsyncDatabaseFile fun _ =>
      tallies_then tallies_fsyncDatabaseFile fun _ =>
        tallies_then tallies_fsyncDatabaseFile fun _ => tallies_fsyncDirectory
  | createFile path => exact absurd trivial h
  | removeArtifacts path identity sidecars =>
    exact tallies_then tallies_unlinkCapturedSidecar fun _ =>
      tallies_then tallies_unlinkCapturedSidecar fun _ =>
        tallies_then tallies_unlinkCreatedFile fun _ => tallies_fsyncDirectory

/-- The first look at a file that was just created failed. -/
def LooksInVain (t : List FileExchange) (r : Except FileException α) (d : Descriptor) : Prop :=
  ∃ before e, t = before ++ [⟨.fstat d, .error e⟩] ∧ r = .error (.os e)

/-- A creation leaves nothing open, or the file it looked for in vain. -/
theorem createDatabaseFile_accounts {host : Host} {path : Path} {t : List FileExchange}
    {r : Except FileException PathIdentity} (hruns : Runs (createDatabaseFile host path) t r)
    (hfresh : freshFrom [] t = true) : ∃ left, Accounted [] t left ∧
      (left = [] ∨ ∃ d, left = [d] ∧ LooksInVain t r d) := by
  rcases runs_bind.mp hruns with ⟨e, hopen, rfl⟩ | ⟨d, t₁, t₂, rfl, hopen, hrest⟩
  · obtain ⟨left, haccounted, hleft⟩ := tallies_accounts tallies_openCreatedFile hopen hfresh
    exact ⟨left, haccounted, .inl hleft⟩
  obtain ⟨hfresh₁, hfresh₂⟩ := freshFrom_append hfresh
  obtain ⟨held, haccounted, -, rfl⟩ := tallies_accounts tallies_openCreatedFile hopen hfresh₁
  rw [haccounted.left] at hfresh₂
  obtain ⟨answer, t₃, rfl, hends⟩ := runs_invoke_bind.mp hrest
  have hlook : Accounted [d] [(⟨.fstat d, answer⟩ : FileExchange)] [d] :=
    .single trivial (uses_mem List.mem_cons_self)
  rcases hends with ⟨created, hanswer, hfinish⟩ | ⟨e, hanswer, rfl, rfl⟩
  · -- from here on every end closes the file
    obtain ⟨left, hfinished, hleft⟩ := tallies_accounts tallies_finishCreatedFile hfinish
      (freshFrom_append (t := [(⟨.fstat d, answer⟩ : FileExchange)]) hfresh₂).2
    exact ⟨left, haccounted.append (hlook.append hfinished), .inl hleft⟩
  · refine ⟨[d], haccounted.append hlook, .inr ⟨d, rfl, ?_⟩⟩
    match answer, hanswer with
    | .error e', hanswer =>
      obtain rfl : .os e' = e := Except.error.inj hanswer
      exact ⟨t₁, e', rfl, rfl⟩

/-- A program whose value is discarded raises what it raised. -/
theorem runs_discarded {p : Files α} {t : List FileExchange} {r : Except FileException Unit}
    (h : Runs (do let _ ← p) t r) : ∃ r', Runs p t r' ∧ ∀ e, r' = .error e → r = .error e := by
  rcases runs_bind.mp h with ⟨e, hp, rfl⟩ | ⟨a, t₁, t₂, rfl, hp, hrest⟩
  · exact ⟨_, hp, fun e' he => congrArg Except.error (Except.error.inj he)⟩
  · obtain ⟨rfl, rfl⟩ := runs_pure.mp hrest
    exact ⟨.ok a, (List.append_nil t₁).symm ▸ hp, fun e he => by cases he⟩

/-- Whatever the filesystem answers, an operation of the boundary works on descriptors that are
    open, and closes each one it opened once.  One descriptor is left open by a creation whose first
    look at the new file fails, and by nothing else. -/
theorem operation_accounts {host : Host} {operation : Operation} {t : List FileExchange}
    {r : Except FileException Unit} (hruns : Runs (operation.program host) t r)
    (hfresh : freshFrom [] t = true) : ∃ left, Accounted [] t left ∧
      (left = [] ∨ operation.IsCreation ∧ ∃ d, left = [d] ∧ LooksInVain t r d) := by
  by_cases hcreation : operation.IsCreation
  · cases operation with
    | createFile path =>
      obtain ⟨r', hcreate, hr⟩ := runs_discarded hruns
      obtain ⟨left, haccounted, hleft | ⟨d, hd, before, e, ht, he⟩⟩ :=
        createDatabaseFile_accounts hcreate hfresh
      · exact ⟨left, haccounted, .inl hleft⟩
      · exact ⟨left, haccounted, .inr ⟨trivial, d, hd, before, e, ht, hr _ he⟩⟩
    | _ => exact hcreation.elim
  · obtain ⟨left, haccounted, hleft⟩ := tallies_accounts (tallies_operation hcreation) hruns hfresh
    exact ⟨left, haccounted, .inl hleft⟩

/-- The root directory, -/
def rootMetadata : Metadata := ⟨1, 2, .directory, 0o700, 0, 3, 4096⟩
/-- and a new file in it. -/
def createdMetadata : Metadata := ⟨1, 7, .regular, 0o600, 0, 1, 0⟩

/-- A root directory of its own user, in which a file can be created but gets no mode.  The state is
    the number of descriptors, and whether the file is there. -/
def denyingMode : Nat × Bool → (c : FileCall) → Except OsError (FileValue c) × (Nat × Bool)
  | s, .lstat [] => (.ok rootMetadata, s)
  | (n, created), .lstat _ =>
    (if created then .ok createdMetadata else .error .fileNotFound, (n, created))
  | s, .statAt _ _ => (.error .fileNotFound, s)
  | (n, created), .fstat _ => (.ok (if created then createdMetadata else rootMetadata), (n, created))
  | (n, _), .opening (.new _) => (.ok n, (n + 1, true))
  | (n, created), .opening _ => (.ok n, (n + 1, created))
  | s, .fchmod _ => (.error .other, s)
  | s, .fsync _ | s, .close _ | s, .unlink _ | s, .lock _ | s, .unlock _ | s, .lead => (.ok (), s)

/-- The creation of a database, -/
def failedCreation : Files Unit := (Operation.createFile ["history.db"]).program ⟨0, true⟩

/-- and its calls when the mode cannot be set. -/
def failedCreationCalls : List FileExchange :=
  failedCreation.trace (I := FileInterface) denyingMode (0, false)

theorem failed_creation_accounts : ∃ left, Accounted [] failedCreationCalls left ∧
    (left = [] ∨ (Operation.createFile ["history.db"]).IsCreation ∧ ∃ d, left = [d] ∧
      LooksInVain failedCreationCalls
        (failedCreation.play (I := FileInterface) denyingMode (0, false)).1 d) :=
  operation_accounts (runs_trace (I := FileInterface) denyingMode failedCreation (0, false))
    (by decide +kernel)

end Aurora.HealthHistory.Filesystem
