/-
  What the filesystem boundary removes.

  Only `_unlink_created_file` unlinks anything, right after it looked at the file.  So a removal in a
  run is of a file that was just seen to be regular, with the identity that its creation captured;
  a creation captures it from the descriptor of the exclusive open.
-/
import Aurora.HealthHistory.DescriptorLedger

namespace Aurora.HealthHistory.Filesystem

open Program

/-! ## Calls that touch no name -/

/-- Calls that look, open what is there, or work on an open file, and take no lock. -/
def FileCall.Quiet : FileCall → Prop
  | .unlink _ | .lock _ | .unlock _ | .lead => False
  | .opening (.new _) | .opening (.fileAt _ _ _) => False
  | _ => True

section Quiet

variable {α β : Type} {host : Host} {path : Path} {expected : Option (List DirectorySnapshot)}

/-- Every call of the program is quiet. -/
abbrev IsQuiet (p : Files α) : Prop := p.Makes FileCall.Quiet

theorem quiet_check {check : Except FileException β} {rest : β → Files α}
    (h : ∀ b, IsQuiet (rest b)) : IsQuiet (ofExcept check >>= rest) :=
  (makes_ofExcept check).bind h

theorem quiet_invoke {c : FileCall} {value : FileInterface.Answer c → Except FileException β}
    {rest : β → Files α} (hc : c.Quiet) (h : ∀ b, IsQuiet (rest b)) :
    IsQuiet (invoke (I := FileInterface) c value >>= rest) :=
  (makes_invoke hc).bind h

theorem quiet_refusing {reason : FilesystemRejection} {body : Files α} (h : IsQuiet body) :
    IsQuiet (refusing reason body) :=
  h.catching.bind fun _ => makes_ofExcept _

/-- A close before an exception is raised again. -/
theorem quiet_close_raise {d : Descriptor} {e : FileException} :
    IsQuiet (do sys (.close d); raise e : Files α) :=
  quiet_invoke trivial fun _ => makes_raise e

/-- Opening, body and close, none of which unlinks. -/
theorem quiet_bracketed {target : Opening} {body : Descriptor → Files α}
    (htarget : (FileCall.opening target).Quiet) (hbody : ∀ d, IsQuiet (body d)) :
    IsQuiet (bracketed (sys (.opening target)) body) := by
  refine quiet_invoke htarget fun d => ?_
  refine (hbody d).catching.bind fun result => ?_
  exact quiet_invoke trivial fun _ => makes_ofExcept result

theorem quiet_enterRoot {before : Metadata} {d : Descriptor} {final : Bool} :
    IsQuiet (enterRoot host before d final expected) :=
  quiet_invoke trivial fun _ => quiet_check fun _ => quiet_check fun _ =>
    quiet_invoke trivial fun _ => quiet_check fun _ => quiet_check fun _ =>
      quiet_check fun _ => makes_pure _

theorem quiet_checkDirectory {before : Metadata} {parent child : Descriptor} {component : String}
    {final : Bool} {index : Nat} :
    IsQuiet (checkDirectory host before parent child component final expected index) :=
  quiet_invoke trivial fun _ => quiet_check fun _ => quiet_check fun _ =>
    quiet_invoke trivial fun _ => quiet_check fun _ => quiet_check fun _ =>
      quiet_check fun _ => makes_pure _

theorem quiet_enterDirectory {parent : Descriptor} {component : String} {final : Bool}
    {index : Nat} : IsQuiet (enterDirectory host parent component final expected index) := by
  unfold enterDirectory
  refine quiet_invoke trivial fun before => quiet_check fun _ => quiet_invoke trivial fun child => ?_
  refine quiet_checkDirectory.catching.bind fun r => ?_
  cases r with
  | ok after => exact makes_pure _
  | error e => exact quiet_close_raise

theorem quiet_walkFrom {components : List String} :
    ∀ {d : Descriptor} {index : Nat} {snapshots : List DirectorySnapshot} {last : Metadata},
      IsQuiet (walkFrom host expected d index components snapshots last) := by
  induction components with
  | nil =>
    intro d index snapshots last
    exact quiet_invoke trivial fun _ => makes_pure _
  | cons component rest ih =>
    intro d index snapshots last
    unfold walkFrom
    refine quiet_enterDirectory.catching.bind fun r => ?_
    cases r with
    | error e => exact quiet_close_raise
    | ok entered =>
      obtain ⟨child, after⟩ := entered
      refine (makes_ask trivial).bind fun closed => ?_
      cases closed with
      | ok _ => exact ih
      | error e => exact quiet_close_raise

/-- The walk down to a directory unlinks nothing. -/
theorem quiet_walkDirectoryChain {components : List String} :
    IsQuiet (walkDirectoryChain host components expected) := by
  unfold walkDirectoryChain
  split
  · exact makes_raise _
  · refine quiet_invoke trivial fun before => quiet_check fun _ => quiet_invoke trivial fun d => ?_
    refine quiet_enterRoot.catching.bind fun r => ?_
    match r with
    | .error e => exact quiet_close_raise
    | .ok after =>
      refine quiet_walkFrom.bind fun walked => ?_
      dsimp only
      split
      · exact makes_raise _
      · exact makes_pure _

/-- The validation of the protected directory unlinks nothing. -/
theorem quiet_validateProtectedDirectory : IsQuiet (validateProtectedDirectory host path) := by
  unfold validateProtectedDirectory
  refine quiet_refusing (quiet_check fun components => ?_)
  refine quiet_walkDirectoryChain.bind fun first => quiet_walkDirectoryChain.bind fun second => ?_
  split
  · exact makes_raise _
  · exact makes_pure _

theorem quiet_fsyncDirectory : IsQuiet (fsyncDirectory host path) :=
  quiet_validateProtectedDirectory.bind fun _ =>
    quiet_bracketed trivial fun _ => makes_invoke trivial

/-- The validation of the database file unlinks nothing. -/
theorem quiet_validateDatabaseFile {expected : Option PathIdentity} {maximumBytes : Int} :
    IsQuiet (validateDatabaseFile host path expected maximumBytes) := by
  unfold validateDatabaseFile
  refine quiet_check fun _ => quiet_validateProtectedDirectory.bind fun _ => ?_
  refine quiet_invoke trivial fun before => quiet_check fun _ => ?_
  have hopened : IsQuiet (bracketed (sys (.opening (.read path))) fun descriptor =>
      refusing .identityChanged do
        let opened ← sys (.fstat descriptor)
        ofExcept (validateFileMetadata host.uid opened maximumBytes)
        ofExcept (requireUnchanged before opened)) :=
    quiet_bracketed trivial fun _ => quiet_refusing <| quiet_invoke trivial fun _ =>
      quiet_check fun _ => makes_ofExcept _
  refine hopened.bind fun _ => quiet_invoke trivial fun after => ?_
  refine quiet_check fun _ => quiet_check fun _ => ?_
  split
  · exact makes_raise _
  · exact makes_pure _

/-- The validation of a sidecar unlinks nothing. -/
theorem quiet_validateSidecar {sidecar : Sidecar} {maximumBytes : Int} :
    IsQuiet (validateSidecar host path sidecar maximumBytes) := by
  unfold validateSidecar
  refine (makes_ask trivial).bind fun found => ?_
  match found with
  | .error .fileNotFound => exact makes_pure _
  | .error .fileExists | .error .wouldBlock | .error .other => exact makes_raise _
  | .ok _ => exact quiet_validateDatabaseFile.bind fun _ => makes_pure _

/-- The flush of the database file unlinks nothing. -/
theorem quiet_fsyncDatabaseFile : IsQuiet (fsyncDatabaseFile host path) := by
  unfold fsyncDatabaseFile
  refine (makes_ask trivial).bind fun found => ?_
  match found with
  | .error .fileNotFound => exact makes_pure _
  | .error .fileExists | .error .wouldBlock | .error .other => exact makes_raise _
  | .ok _ => exact quiet_validateDatabaseFile.bind fun _ =>
      quiet_bracketed trivial fun _ => makes_invoke trivial

theorem quiet_requireAbsent {paths : List Path} : IsQuiet (requireAbsent paths) := by
  induction paths with
  | nil => exact makes_pure _
  | cons candidate rest ih =>
    unfold requireAbsent
    refine (makes_ask trivial).bind fun found => ?_
    cases found with
    | ok metadata => exact makes_raise _
    | error e =>
      cases e with
      | fileNotFound => exact ih
      | fileExists | wouldBlock | other => exact makes_raise _

/-- The preparation of a created file unlinks nothing. -/
theorem quiet_prepareCreatedFile {d : Descriptor} : IsQuiet (prepareCreatedFile host d) := by
  unfold prepareCreatedFile
  refine quiet_invoke trivial fun _ => quiet_invoke trivial fun metadata => quiet_check fun _ => ?_
  split
  · exact makes_raise _
  · exact quiet_invoke trivial fun _ => makes_pure _

end Quiet

/-! ## Removals -/

/-- The last exchange showed a regular file with this identity at the path. -/
def SeenLast (path : Path) (identity : PathIdentity) (before : List FileExchange) : Prop :=
  ∃ earlier metadata, before = earlier ++ [(⟨.lstat path, .ok metadata⟩ : FileExchange)] ∧
    metadata.fileType = .regular ∧ sameManagedIdentity metadata.identity identity = true

/-- Every removal is of a file that was captured, and that was seen just before. -/
def RemovesOnly (Captured : Path → PathIdentity → Prop) (t : List FileExchange) : Prop :=
  ∀ a p answer b, t = a ++ (⟨.unlink p, answer⟩ : FileExchange) :: b →
    ∃ identity, Captured p identity ∧ SeenLast p identity a

section Removals

variable {ε α β : Type} {Captured : Path → PathIdentity → Prop} {host : Host} {path : Path}

/-- The last look at a path stays the last one, whatever went before. -/
theorem SeenLast.prepend {p : Path} {identity : PathIdentity} {a : List FileExchange}
    (h : SeenLast p identity a) (before : List FileExchange) : SeenLast p identity (before ++ a) := by
  obtain ⟨earlier, metadata, rfl, hregular, hsame⟩ := h
  exact ⟨before ++ earlier, metadata, (List.append_assoc ..).symm, hregular, hsame⟩

/-- A run in two parts, each of which removes captured files only. -/
theorem RemovesOnly.append {t t' : List FileExchange} (h : RemovesOnly Captured t)
    (h' : RemovesOnly Captured t') : RemovesOnly Captured (t ++ t') := by
  intro a p answer b hab
  rcases List.append_eq_append_iff.mp hab with ⟨c, rfl, hc⟩ | ⟨c, rfl, hc⟩
  · obtain ⟨identity, hcaptured, hseen⟩ := h' c p answer b hc
    exact ⟨identity, hcaptured, hseen.prepend t⟩
  · cases c with
    | nil =>
      obtain ⟨identity, hcaptured, hseen⟩ := h' [] p answer b hc.symm
      exact ⟨identity, hcaptured, by simpa using hseen.prepend a⟩
    | cons y c =>
      obtain ⟨rfl, -⟩ := List.cons.inj hc
      exact h a p answer c rfl

/-- No run of a quiet program has an unlink. -/
theorem IsQuiet.never_unlinks {x : Files α} {a b : List FileExchange} {p : Path}
    {answer : Except OsError Unit} {r : Except FileException α} (h : IsQuiet x)
    (hruns : Runs x (a ++ (⟨.unlink p, answer⟩ : FileExchange) :: b) r) : False :=
  (h.runs hruns ⟨.unlink p, answer⟩ (by simp)).elim

theorem IsQuiet.removesOnly {p : Files α} {t : List FileExchange} {r : Except FileException α}
    (h : IsQuiet p) (hruns : Runs p t r) : RemovesOnly Captured t := by
  rintro a path answer b rfl
  exact (h.never_unlinks hruns).elim

/-- Every run of the program removes captured files only. -/
def Removing (Captured : Path → PathIdentity → Prop) (p : Program FileInterface ε α) : Prop :=
  ∀ t r, Runs p t r → RemovesOnly Captured t

theorem Removing.bind {x : Program FileInterface ε α} {f : α → Program FileInterface ε β}
    (hx : Removing Captured x) (hf : ∀ a, Removing Captured (f a)) :
    Removing Captured (x >>= f) := by
  intro t r hruns
  rcases runs_bind.mp hruns with ⟨e, hruns, -⟩ | ⟨a, t₁, t₂, rfl, hruns, hrest⟩
  · exact hx t _ hruns
  · exact (hx t₁ _ hruns).append (hf a t₂ r hrest)

theorem removing_quiet {p : Files α} (h : IsQuiet p) : Removing Captured p :=
  fun _ _ => h.removesOnly

/-- The unlink follows the look that found the captured identity. -/
theorem removing_unlinkCreatedFile {identity : PathIdentity} (h : Captured path identity) :
    Removing Captured (unlinkCreatedFile path identity) := by
  intro t r hruns
  obtain ⟨found, t', rfl, hrest⟩ := runs_ask_bind.mp hruns
  have hlook : RemovesOnly Captured [(⟨.lstat path, found⟩ : FileExchange)] := by
    intro a p answer b hab
    cases a with
    | nil => cases (List.cons.inj hab).1
    | cons y a => exact absurd (List.cons.inj hab).2.symm (by simp)
  match found, hlook, hrest with
  | .error e, hlook, hrest =>
    obtain ⟨rfl, -⟩ := runs_pure.mp hrest
    exact hlook
  | .ok (metadata : Metadata), hlook, hrest =>
    dsimp only at hrest
    split at hrest
    · obtain ⟨rfl, -⟩ := runs_pure.mp hrest
      exact hlook
    · rename_i hsound
      obtain ⟨hregular, hsame⟩ := not_or.mp hsound
      obtain ⟨removed, t'', rfl, hdone⟩ := runs_ask_bind.mp hrest
      obtain ⟨rfl, -⟩ := runs_pure.mp hdone
      intro a p answer b hab
      match a, hab with
      | [], hab => cases (List.cons.inj hab).1
      | [y], hab =>
        obtain ⟨rfl, htail⟩ := List.cons.inj hab
        obtain ⟨hunlink, -⟩ := List.cons.inj htail
        cases hunlink
        exact ⟨identity, h, [], metadata, rfl, not_not.mp hregular, not_not.mp hsame⟩
      | y :: z :: a, hab =>
        exact absurd (List.cons.inj (List.cons.inj hab).2).2.symm (by simp)

/-- The end of a creation removes the created file only. -/
theorem removing_finishCreatedFile {d : Descriptor} {identity : PathIdentity}
    (h : Captured path identity) : Removing Captured (finishCreatedFile host path d identity) := by
  unfold finishCreatedFile
  intro t r hruns
  obtain ⟨prepared, t₁, t₂, rfl, hprepare, hrest⟩ := runs_catching_bind.mp hruns
  refine (quiet_prepareCreatedFile.removesOnly hprepare).append ?_
  have hclose : Removing Captured (sys (.close d)) := removing_quiet (makes_invoke trivial)
  match prepared with
  | .error e =>
    exact (hclose.bind fun _ => (removing_unlinkCreatedFile h).bind fun _ =>
      removing_quiet (makes_raise e)) t₂ r hrest
  | .ok identity =>
    exact (hclose.bind fun _ => (removing_quiet quiet_validateDatabaseFile).bind fun _ =>
      (removing_quiet quiet_fsyncDirectory).bind fun _ => removing_quiet (makes_pure _)) t₂ r hrest

theorem removing_invoke {c : FileCall} {value : FileInterface.Answer c → Except ε α}
    (hc : ∀ p, c ≠ .unlink p) : Removing Captured (invoke (I := FileInterface) c value) := by
  intro t r hruns
  obtain ⟨answer, rfl, -⟩ := runs_invoke.mp hruns
  intro a p answer' b hab
  cases a with
  | nil => exact absurd (congrArg Sigma.fst (List.cons.inj hab).1) (hc p)
  | cons y a => exact absurd (List.cons.inj hab).2.symm (by simp)

/-- The opening of a created file removes it only after its identity was captured. -/
theorem removing_openCreatedFile : Removing Captured (openCreatedFile host path) :=
  (removing_quiet (makes_ofExcept _)).bind fun _ =>
    (removing_quiet quiet_validateProtectedDirectory).bind fun _ =>
      (removing_quiet quiet_requireAbsent).bind fun _ => removing_invoke fun _ h => by cases h

/-- The exclusive open comes last. -/
theorem openCreatedFile_last {d : Descriptor} {t : List FileExchange}
    (hruns : Runs (openCreatedFile host path) t (.ok d)) :
    ∃ before, t = before ++ [(⟨.opening (.new path), .ok d⟩ : FileExchange)] := by
  unfold openCreatedFile at hruns
  rcases runs_bind.mp hruns with ⟨e, -, he⟩ | ⟨_, t₁, t', rfl, hcheck, hrest⟩
  · cases he
  obtain ⟨rfl, -⟩ := runs_ofExcept.mp hcheck
  rcases runs_bind.mp hrest with ⟨e, -, he⟩ | ⟨_, t₂, t'', rfl, hvalidate, hrest⟩
  · cases he
  rcases runs_bind.mp hrest with ⟨e, -, he⟩ | ⟨_, t₃, t₄, rfl, habsent, hopen⟩
  · cases he
  obtain ⟨answer, rfl, hanswer⟩ := runs_invoke.mp hopen
  match answer, hanswer with
  | .ok (d' : Descriptor), hanswer =>
    obtain rfl : d = d' := Except.ok.inj hanswer
    exact ⟨t₂ ++ t₃, by simp⟩

end Removals

/-- The files an operation may remove, after what it exchanged before: a creation, the file that it
    created itself; a removal, what it was told to remove. -/
def Operation.Owns (before : List FileExchange) (p : Path) (identity : PathIdentity) :
    Operation → Prop
  | .createFile path => p = path ∧ ∃ earlier d created later,
      before = earlier ++ (⟨.opening (.new path), .ok d⟩ : FileExchange) ::
        (⟨.fstat d, .ok created⟩ : FileExchange) :: later ∧ identity = created.identity
  | .removeArtifacts path own sidecars =>
    p = path ∧ identity = own ∨
      ∃ sidecar, p = sidecarPath path sidecar ∧ sidecars.get sidecar = some identity
  | _ => False

section Operations

variable {host : Host} {path p : Path} {a b : List FileExchange} {answer : Except OsError Unit}

/-- What a creation unlinks is what it opened, seen right before. -/
theorem creation_removes {r : Except FileException PathIdentity}
    (hruns : Runs (createDatabaseFile host path) (a ++ (⟨.unlink p, answer⟩ : FileExchange) :: b) r) :
    ∃ identity, (Operation.createFile path).Owns a p identity ∧ SeenLast p identity a := by
  have hnothing : Removing (fun _ _ => False) (openCreatedFile host path) :=
    removing_openCreatedFile
  rcases runs_bind.mp hruns with ⟨e, hopen, rfl⟩ | ⟨d, t₁, t₂, ht, hopen, hrest⟩
  · obtain ⟨_, himpossible, -⟩ := hnothing _ _ hopen a p answer b rfl
    exact himpossible.elim
  obtain ⟨before, rfl⟩ := openCreatedFile_last hopen
  obtain ⟨looked, t₃, rfl, hends⟩ := runs_invoke_bind.mp hrest
  have hearly : RemovesOnly (fun _ _ => False)
      (before ++ [(⟨.opening (.new path), .ok d⟩ : FileExchange)] ++ [⟨.fstat d, looked⟩]) := by
    refine (hnothing _ _ hopen).append ?_
    have hlook : Removing (fun _ _ => False) (sys (.fstat d)) :=
      removing_invoke fun _ h => by cases h
    exact hlook _ _ (runs_invoke.mpr ⟨looked, rfl, rfl⟩)
  -- the file is removed after its first identity is known
  have hlater : ∃ later, a = before ++ [(⟨.opening (.new path), .ok d⟩ : FileExchange)] ++
      [⟨.fstat d, looked⟩] ++ later ∧ t₃ = later ++ (⟨.unlink p, answer⟩ : FileExchange) :: b := by
    have ht' : before ++ [(⟨.opening (.new path), .ok d⟩ : FileExchange)] ++ [⟨.fstat d, looked⟩] ++
        t₃ = a ++ (⟨.unlink p, answer⟩ : FileExchange) :: b := by
      rw [ht, List.append_assoc _ [_] t₃]
      rfl
    rcases List.append_eq_append_iff.mp ht' with ⟨later, rfl, hlater⟩ | ⟨c, hc, hrest⟩
    · exact ⟨later, rfl, hlater⟩
    · cases c with
      | nil => exact ⟨[], by rw [hc, List.append_nil, List.append_nil], hrest.symm⟩
      | cons x c =>
        obtain ⟨rfl, -⟩ := List.cons.inj hrest
        obtain ⟨_, himpossible, -⟩ := hearly a p answer c hc
        exact himpossible.elim
  obtain ⟨later, rfl, rfl⟩ := hlater
  rcases hends with ⟨created, hcreated, hfinish⟩ | ⟨e, -, hnil, -⟩
  · match looked, hcreated with
    | .ok (created' : Metadata), hcreated =>
      obtain rfl : created' = created := Except.ok.inj hcreated
      have hfinishing : Removing (fun q own => q = path ∧ own = created'.identity)
          (finishCreatedFile host path d created'.identity) :=
        removing_finishCreatedFile ⟨rfl, rfl⟩
      obtain ⟨identity, ⟨rfl, rfl⟩, hseen⟩ := hfinishing _ r hfinish later p answer b rfl
      exact ⟨_, ⟨rfl, before, d, created', later, by simp, rfl⟩, hseen.prepend _⟩
  · exact absurd hnil (by simp)

/-- A sidecar is removed under the identity captured for it. -/
theorem removing_unlinkCapturedSidecar {sidecars : Sidecars} {sidecar : Sidecar}
    {Captured : Path → PathIdentity → Prop}
    (h : ∀ identity, sidecars.get sidecar = some identity →
      Captured (sidecarPath path sidecar) identity) :
    Removing Captured (unlinkCapturedSidecar path sidecars sidecar) := by
  unfold unlinkCapturedSidecar
  split
  · exact removing_quiet (makes_pure _)
  · rename_i identity hidentity
    exact removing_unlinkCreatedFile (h identity hidentity)

/-- The removal of artifacts removes the captured ones only. -/
theorem removal_removes {own : PathIdentity} {sidecars : Sidecars} {before : List FileExchange} :
    Removing (fun p identity => (Operation.removeArtifacts path own sidecars).Owns before p identity)
      (removeCreatedArtifacts host path own sidecars) := by
  have hsidecar : ∀ sidecar, Removing
      (fun p identity => (Operation.removeArtifacts path own sidecars).Owns before p identity)
      (unlinkCapturedSidecar path sidecars sidecar) :=
    fun sidecar => removing_unlinkCapturedSidecar fun _ hidentity => .inr ⟨sidecar, rfl, hidentity⟩
  exact (hsidecar .wal).bind fun _ => (hsidecar .shm).bind fun _ =>
    (removing_unlinkCreatedFile (.inl ⟨rfl, rfl⟩)).bind fun _ => removing_quiet quiet_fsyncDirectory

/-- Whatever the filesystem answers, an operation of the boundary unlinks nothing but its own: right
    before, the file was seen to be a regular one, with the device, inode, mode, owner and links that
    the creation captured. -/
theorem operation_removes_own {operation : Operation} {r : Except FileException Unit}
    (hruns : Runs (operation.program host) (a ++ (⟨.unlink p, answer⟩ : FileExchange) :: b) r) :
    ∃ identity, operation.Owns a p identity ∧ SeenLast p identity a := by
  cases operation with
  | createFile path =>
    obtain ⟨r', hcreate, -⟩ := runs_discarded hruns
    exact creation_removes hcreate
  | removeArtifacts path own sidecars => exact removal_removes _ _ hruns a p answer b rfl
  | validateDirectory path =>
    obtain ⟨r', hvalidate, -⟩ := runs_discarded hruns
    exact (quiet_validateProtectedDirectory.never_unlinks hvalidate).elim
  | fsyncDirectory path => exact (quiet_fsyncDirectory.never_unlinks hruns).elim
  | validateFile path expected maximumBytes =>
    obtain ⟨r', hvalidate, -⟩ := runs_discarded hruns
    exact (quiet_validateDatabaseFile.never_unlinks hvalidate).elim
  | validateSidecars path maximumWalBytes =>
    obtain ⟨r', hvalidate, -⟩ := runs_discarded hruns
    have hquiet : IsQuiet (Filesystem.validateSidecars host path maximumWalBytes) :=
      quiet_validateSidecar.bind fun _ => quiet_validateSidecar.bind fun _ => makes_pure _
    exact (hquiet.never_unlinks hvalidate).elim
  | fsyncFiles path =>
    have hquiet : IsQuiet (fsyncDatabaseFiles host path) :=
      quiet_fsyncDatabaseFile.bind fun _ => quiet_fsyncDatabaseFile.bind fun _ =>
        quiet_fsyncDatabaseFile.bind fun _ => quiet_fsyncDirectory
    exact (hquiet.never_unlinks hruns).elim

/-- A creation that cannot set the mode removes the file again. -/
theorem failed_creation_removes_own : ∃ identity,
    (Operation.createFile ["history.db"]).Owns (failedCreationCalls.take 18) ["history.db"] identity ∧
      SeenLast ["history.db"] identity (failedCreationCalls.take 18) := by
  have hruns : Runs ((Operation.createFile ["history.db"]).program ⟨0, true⟩)
      (failedCreationCalls.take 18 ++ [(⟨.unlink ["history.db"], .ok ()⟩ : FileExchange)]) _ :=
    runs_trace (I := FileInterface) denyingMode failedCreation (0, false)
  exact operation_removes_own hruns

end Operations

end Aurora.HealthHistory.Filesystem
