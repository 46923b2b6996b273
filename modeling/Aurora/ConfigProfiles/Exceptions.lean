/-
  Which exceptions leave the functions of a mutation.

  A busy lock and a failed replacement have exceptions of their own, and the service tells them apart
  by them.  The functions here raise neither, so what the service concludes from one of them is right.
-/
import Aurora.ConfigProfiles.Backups
import Aurora.ConfigProfiles.Service

namespace Aurora.ConfigProfiles

open Program

variable {α β : Type}

/-- Neither the exception of a busy lock nor that of a failed replacement. -/
def FsException.Plain : FsException → Prop
  | busy => False
  | atomicWrite _ => False
  | _ => True

/-- A program that raises only such exceptions. -/
def Plain (p : Fs α) : Prop :=
  ∀ w, p.Ensures FsStep w fun r _ => ∀ e, r = .error e → e.Plain

/-! ## Rules -/

theorem plain_pure (a : α) : Plain (pure a : Fs α) := fun _ => ensures_pure.mpr nofun

theorem plain_raise {e : FsException} (h : e.Plain) : Plain (raise e : Fs α) := by
  refine fun w => ensures_raise.mpr fun e' he' => ?_
  cases he'
  exact h

theorem plain_ofExcept {x : Except FsException α} (h : ∀ e, x = .error e → e.Plain) :
    Plain (ofExcept x : Fs α) := fun _ => ensures_ofExcept.mpr h

theorem plain_attempt (c : FsCall) : Plain (attempt c) := fun _ => ensures_ask.mpr fun _ _ _ => nofun

/-- A call that fails raises an operating system error. -/
theorem plain_sys (c : FsCall) : Plain (sys c) := by
  refine fun w => ensures_invoke.mpr fun answer w' _ e he => ?_
  cases answer with
  | error e' =>
    cases he
    exact True.intro
  | ok value => cases he

theorem Plain.bind {x : Fs α} {f : α → Fs β} (hx : Plain x) (hf : ∀ a, Plain (f a)) :
    Plain (x >>= f) := by
  intro w
  refine (hx w).bind (fun a w' _ => hf a w') fun e w' h e' he' => ?_
  cases he'
  exact h e rfl

/-- What follows a caught program may use that what it raised is plain. -/
theorem Plain.catching_bind {x : Fs α} {f : Except FsException α → Fs β} (hx : Plain x)
    (hok : ∀ a, Plain (f (.ok a))) (herror : ∀ e, e.Plain → Plain (f (.error e))) :
    Plain ((x.catching : Fs (Except FsException α)) >>= f) := by
  intro w
  refine (hx w).catching_bind fun r w' hr => ?_
  cases r with
  | ok a => exact hok a w'
  | error e => exact herror e (hr e rfl) w'

theorem plain_ite {c : Prop} [Decidable c] {p q : Fs α} (hp : Plain p) (hq : Plain q) :
    Plain (if c then p else q) := by
  split
  · exact hp
  · exact hq

/-- Naming a reason for a failure keeps it plain. -/
theorem Plain.refusing {reason : ProfileReason} {body : Fs α} (h : Plain body) :
    Plain (refusing reason body) := by
  refine Plain.catching_bind h (fun a => plain_ofExcept nofun) fun e he => ?_
  cases e with
  | os e => exact plain_raise trivial
  | profile reason => exact plain_ofExcept fun _ h => (Except.error.inj h) ▸ he
  | busy => exact he.elim
  | atomicWrite published => exact he.elim
  | valueError => exact plain_ofExcept fun _ h => (Except.error.inj h) ▸ he

/-- The exception that leaves is the body's or the cleanup's. -/
theorem Plain.finallyDo {body : Fs α} {cleanup : Fs Unit} (hbody : Plain body)
    (hcleanup : Plain cleanup) : Plain (finallyDo body cleanup) :=
  Plain.catching_bind hbody (fun _ => hcleanup.bind fun _ => plain_ofExcept nofun) fun _ he =>
    hcleanup.bind fun _ => plain_ofExcept fun _ h => (Except.error.inj h) ▸ he

/-- The exception that leaves is that of the opening, the body or the close. -/
theorem Plain.bracketed {opening : Fs Descriptor} {body : Descriptor → Fs α}
    (hopening : Plain opening) (hbody : ∀ d, Plain (body d)) : Plain (bracketed opening body) :=
  hopening.bind fun d => (hbody d).finallyDo (plain_sys _)

/-! ## Checks -/

/-- A check that can only give a reason. -/
def Reasoned (x : Except FsException α) : Prop := ∀ e, x = .error e → ∃ reason, e = .profile reason

/-- An exception that carries a reason is plain. -/
theorem Reasoned.plain {x : Except FsException α} (h : Reasoned x) : Plain (ofExcept x : Fs α) := by
  refine plain_ofExcept fun e he => ?_
  obtain ⟨reason, rfl⟩ := h e he
  exact True.intro

theorem reasoned_ok (a : α) : Reasoned (.ok a) := nofun

theorem reasoned_error (reason : ProfileReason) : Reasoned (.error (.profile reason) : Except _ α) := by
  rintro e ⟨⟩
  exact ⟨reason, rfl⟩

theorem reasoned_ite {c : Prop} [Decidable c] {x y : Except FsException α} (hx : Reasoned x)
    (hy : Reasoned y) : Reasoned (if c then x else y) := by
  split
  · exact hx
  · exact hy

/-- The check of a directory's status only ever refuses with a reason. -/
theorem reasoned_validateDirectoryStat (uid : Nat) (metadata : Stat) (restrictive : Bool) :
    Reasoned (validateDirectoryStat uid metadata restrictive) :=
  reasoned_ite (reasoned_error _) <| reasoned_ite (reasoned_error _) <|
    reasoned_ite (reasoned_error _) (reasoned_ok ())

/-- The check of a file's status only ever refuses with a reason. -/
theorem reasoned_validateFileStat (uid : Nat) (metadata : Stat) (maximumBytes : Nat) :
    Reasoned (validateFileStat uid metadata maximumBytes) :=
  reasoned_ite (reasoned_error _) <| reasoned_ite (reasoned_error _) (reasoned_ok ())

theorem reasoned_requireSameObject (left right : Stat) : Reasoned (requireSameObject left right) :=
  reasoned_ite (reasoned_error _) (reasoned_ok ())

theorem reasoned_requireUnchanged (left right : Stat) : Reasoned (requireUnchanged left right) := by
  have hidentity : Reasoned (if left.identity ≠ right.identity then boundary else .ok ()) :=
    reasoned_ite (reasoned_error _) (reasoned_ok ())
  unfold requireUnchanged
  cases h : requireSameObject left right with
  | error e =>
    obtain ⟨reason, rfl⟩ := reasoned_requireSameObject left right e h
    exact reasoned_error reason
  | ok _ => exact hidentity

theorem reasoned_requireSimpleName (name : String) : Reasoned (requireSimpleName name) :=
  reasoned_ite (reasoned_error _) (reasoned_ok ())

/-- A changed snapshot is refused with the reason it was asked for. -/
theorem reasoned_requireSnapshotUnchanged (expected actual : SecureFileSnapshot)
    (reason : ProfileReason) : Reasoned (requireSnapshotUnchanged expected actual reason) :=
  reasoned_ite (reasoned_error _) (reasoned_ok ())

theorem reasoned_serializeManifest (m : BackupManifest) : Reasoned (serializeManifest m) := by
  unfold serializeManifest
  exact reasoned_ite (reasoned_error _) (reasoned_ok _)

/-! ## Looking at files and directories -/

/-- By induction on the components that are left. -/
theorem plain_rejectSymlinkComponents (rest : List String) : ∀ current : Path,
    Plain (rejectSymlinkComponents current rest) := by
  induction rest with
  | nil => exact fun _ => plain_pure ()
  | cons part rest ih =>
    intro current
    refine (plain_attempt _).bind fun r => ?_
    split
    · exact plain_raise trivial
    · exact plain_raise trivial
    · exact plain_ite (plain_raise trivial) (ih _)

/-- The validation of a directory raises neither special exception. -/
theorem plain_validateDirectory (uid : Nat) (path : Path) (restrictive : Bool) :
    Plain (validateDirectory uid path restrictive) := by
  have hstat := fun metadata => (reasoned_validateDirectoryStat uid metadata restrictive).plain
  have hobject := fun left right => (reasoned_requireSameObject left right).plain
  refine Plain.refusing ?_
  refine (plain_rejectSymlinkComponents path []).bind fun _ => ?_
  refine (plain_sys _).bind fun before => ?_
  refine (hstat before).bind fun _ => ?_
  refine Plain.bind (Plain.bracketed (plain_sys _) fun d => ?_) fun _ => ?_
  · exact (plain_sys _).bind fun opened => (hstat opened).bind fun _ => hobject before opened
  · exact (plain_sys _).bind fun after => (hobject before after).bind fun _ => hstat after

/-- By induction on what is left to read. -/
theorem plain_readAll (d : Descriptor) (maximumBytes : Nat) (data : Bytes) :
    Plain (readAll d maximumBytes data) := by
  fun_induction readAll d maximumBytes data with
  | case1 data ih =>
    intro w answer w' _
    cases answer with
    | error e => exact ensures_raise.mpr fun e' he' => by cases he'; exact True.intro
    | ok chunk =>
      dsimp only
      split
      case isTrue => exact plain_pure data w'
      case isFalse hsome =>
        split
        case isTrue => exact plain_raise (α := Bytes) (e := .profile .fileTooLarge) trivial w'
        case isFalse hfits => exact ih chunk hsome hfits w'

/-- A secure read raises neither special exception. -/
theorem plain_readSecureFile (uid : Nat) (path : Path) (maximumBytes : Nat) :
    Plain (readSecureFile uid path maximumBytes) := by
  have hstat := fun metadata => (reasoned_validateFileStat uid metadata maximumBytes).plain
  have hobject := fun left right => (reasoned_requireSameObject left right).plain
  have hunchanged := fun left right => (reasoned_requireUnchanged left right).plain
  have hopened : ∀ (before : Stat) (d : Descriptor),
      Plain (readOpened uid before maximumBytes d) := by
    intro before d
    refine (plain_sys _).bind fun opened => ?_
    refine (hstat opened).bind fun _ => (hobject before opened).bind fun _ => ?_
    refine (plain_readAll d maximumBytes []).bind fun data => ?_
    refine (plain_sys _).bind fun completed => ?_
    refine (hstat completed).bind fun _ => (hunchanged opened completed).bind fun _ => ?_
    exact plain_ite (plain_raise trivial) (plain_pure data)
  refine Plain.refusing ?_
  refine (plain_rejectSymlinkComponents path []).bind fun _ => ?_
  refine (plain_sys _).bind fun before => (hstat before).bind fun _ => ?_
  refine Plain.bind (Plain.bracketed (plain_sys _) (hopened before)) fun data => ?_
  refine (plain_sys _).bind fun after => (hstat after).bind fun _ => ?_
  exact (hunchanged before after).bind fun _ => plain_pure _

/-- A listing raises neither special exception. -/
theorem plain_enumerateDirectory (uid : Nat) (path : Path) (limit : Nat) :
    Plain (enumerateDirectory uid path limit) := by
  refine (plain_validateDirectory uid path true).bind fun _ => ?_
  refine Plain.bracketed (plain_sys _) fun d => Plain.refusing ?_
  refine (plain_sys _).bind fun names => (plain_sys _).bind fun opened => ?_
  exact (reasoned_validateDirectoryStat uid opened true).plain.bind fun _ => plain_pure _

/-- The flush of a directory raises neither special exception. -/
theorem plain_fsyncDirectory (uid : Nat) (path : Path) (restrictive : Bool) :
    Plain (fsyncDirectory uid path restrictive) :=
  (plain_validateDirectory uid path restrictive).bind fun _ =>
    Plain.bracketed (plain_sys _) fun _ => (plain_sys _).refusing

/-! ## Writing a backup -/

/-- By induction on what is left to write. -/
theorem plain_writeAll (d : Descriptor) (view : Bytes) : Plain (writeAll d view) := by
  fun_induction writeAll d view with
  | case1 => exact plain_pure ()
  | case2 view hview ih =>
    intro w answer w' _
    cases answer with
    | error e => exact ensures_raise.mpr fun e' he' => by cases he'; exact True.intro
    | ok count =>
      dsimp only
      split
      case isTrue => exact plain_raise (α := Unit) (e := .os .other) trivial w'
      case isFalse hcount => exact ih count hcount w'

theorem plain_fillNewFile (uid : Nat) (file : Descriptor) (data : Bytes) :
    Plain (fillNewFile uid file data) := by
  refine (plain_sys _).bind fun _ => (plain_writeAll file data).bind fun _ => ?_
  refine (plain_sys _).bind fun _ => (plain_sys _).bind fun completed => ?_
  refine (reasoned_validateFileStat uid completed data.length).plain.bind fun _ => ?_
  exact plain_ite (plain_raise trivial) (plain_pure ())

/-- What a new file was filled with is plain, and what its creation raised. -/
def NewFile.Plain : NewFile → Prop
  | refused e => e.Plain
  | opened _ result => ∀ e, result = .error e → e.Plain

/-- A plain exception becomes a plain failure of the write. -/
theorem FsException.Plain.writeFailure {e : FsException} (h : e.Plain) : (writeFailure e).Plain := by
  cases e with
  | os e => exact True.intro
  | profile reason => exact h
  | busy => exact h
  | atomicWrite published => exact h
  | valueError => exact h

/-- The handler raises nothing; the result it leaves is plain. -/
theorem writeHandler_plain (path : Path) {progress : NewFile} (h : progress.Plain) (w : FsWorld) :
    (writeHandler path progress).Ensures FsStep w fun r _ =>
      ∃ p, r = .ok p ∧ ∀ e, p.1 = .error e → e.Plain := by
  have hfailed : ∀ {e : FsException} {d : Option Descriptor}, e.Plain →
      ∃ p : Except FsException Unit × Option Descriptor,
        (.ok (.error e, d) : Except FsException _) = .ok p ∧ ∀ e', p.1 = .error e' → e'.Plain := by
    intro e d he
    exact ⟨_, rfl, fun e' he' => (Except.error.inj he') ▸ he⟩
  cases progress with
  | refused e => exact ensures_pure.mpr (hfailed h.writeFailure)
  | opened file result =>
    cases result with
    | ok _ => exact ensures_pure.mpr ⟨_, rfl, nofun⟩
    | error e =>
      refine (plain_sys (.close file) w).catching_bind fun r w' hclose => ?_
      cases r with
      | error closing => exact ensures_pure.mpr (hfailed (hclose closing rfl))
      | ok _ =>
        refine ensures_ask_bind.mpr fun answer w'' _ => ?_
        exact ensures_pure.mpr (hfailed (FsException.Plain.writeFailure (h e rfl)))

/-- The end of a new file's write raises what its progress recorded, or a failure of its own
    cleanup. -/
theorem plain_finishNewFile (path : Path) (descriptor : Descriptor) {progress : NewFile}
    (h : progress.Plain) : Plain (finishNewFile path descriptor progress) := by
  have hclose : ∀ d : Option Descriptor, Plain (closeIfSome d) := by
    intro d
    cases d with
    | none => exact plain_pure ()
    | some d => exact plain_sys _
  intro w
  refine (writeHandler_plain path h w).bind ?_ ?_
  · rintro ⟨result, d⟩ w' ⟨p, ⟨⟩, hresult⟩
    have hend : Plain (do
        closeIfSome d
        sys (.close descriptor)
        ofExcept result : Fs Unit) :=
      (hclose d).bind fun _ => (plain_sys _).bind fun _ => plain_ofExcept hresult
    exact hend w'
  · rintro e w' ⟨p, ⟨⟩, -⟩

/-- A new file's progress records plain exceptions only. -/
theorem openAndFill_plain (uid : Nat) (path : Path) (data : Bytes) (w : FsWorld) :
    (openAndFill uid path data).Ensures FsStep w fun r _ =>
      ∃ progress, r = .ok progress ∧ progress.Plain := by
  refine (plain_sys (.openNew path) w).catching_bind fun r w' hnew => ?_
  cases r with
  | error e => exact ensures_pure.mpr ⟨_, rfl, hnew e rfl⟩
  | ok file =>
    refine (plain_fillNewFile uid file data w').catching_bind fun r w'' hfill => ?_
    exact ensures_pure.mpr ⟨_, rfl, hfill⟩

/-- The write of a new file raises neither special exception. -/
theorem plain_writeNewFile (uid : Nat) (directory : Path) (name : String) (data : Bytes) :
    Plain (writeNewFile uid directory name data) := by
  have hrest : ∀ descriptor : Descriptor, Plain (do
      let progress ← openAndFill uid (directory ++ [name]) data
      finishNewFile (directory ++ [name]) descriptor progress : Fs Unit) := by
    intro descriptor w
    refine (openAndFill_plain uid (directory ++ [name]) data w).bind ?_ ?_
    · rintro progress w' ⟨_, ⟨⟩, h⟩
      exact plain_finishNewFile _ descriptor h w'
    · rintro e w' ⟨_, ⟨⟩, -⟩
  have heq : writeNewFile uid directory name data = (do
      validateDirectory uid directory true
      ofExcept (requireSimpleName name)
      let descriptor ← sys (.openDirectory directory)
      let progress ← openAndFill uid (directory ++ [name]) data
      finishNewFile (directory ++ [name]) descriptor progress : Fs Unit) := by
    unfold writeNewFile openNewFile
    simp only [bind_bind]
    rfl
  rw [heq]
  refine (plain_validateDirectory uid directory true).bind fun _ => ?_
  refine (reasoned_requireSimpleName name).plain.bind fun _ => ?_
  exact (plain_sys _).bind hrest

theorem plain_entryExists (path : Path) : Plain (entryExists path) := by
  refine (plain_attempt _).bind fun r => ?_
  split
  · exact plain_pure true
  · exact plain_pure false
  · exact plain_raise trivial

theorem plain_availableIdentifier (directory : Path) (now : Moment) (attempts : Nat) :
    Plain (availableIdentifier directory now attempts) := by
  induction attempts with
  | zero => exact plain_raise trivial
  | succ attempts ih =>
    have htake : ∀ candidate, Plain (takeIdentifier directory now attempts candidate) := by
      intro candidate
      unfold takeIdentifier
      refine plain_ite ?_ (plain_raise trivial)
      refine (plain_entryExists _).bind fun present => plain_ite ih ?_
      exact (plain_entryExists _).bind fun present' => plain_ite ih (plain_pure _)
    rw [availableIdentifier_succ]
    exact (plain_sys _).bind fun suffix => htake _

theorem plain_construct (m : BackupManifest) : Plain (ofExcept m.construct) := by
  refine plain_ofExcept fun e he => ?_
  unfold BackupManifest.construct at he
  split at he
  case isTrue => cases he
  case isFalse =>
    obtain rfl := Except.error.inj he
    exact True.intro

section

-- elaboration would evaluate the texts of the manifest
attribute [local irreducible] BackupManifest.construct serializeManifest

/-- The preparation of a backup raises neither special exception. -/
theorem plain_prepareBackup (uid : Nat) (directory : Path) (request : BackupRequest)
    (clock : Option Moment) : Plain (prepareBackup uid directory request clock) := by
  have hcapacity : Plain (ensureCapacity uid directory request.maximumBackups) := by
    refine (plain_enumerateDirectory uid directory maxBackupEntries).bind fun entries => ?_
    exact plain_ite (plain_raise trivial) (plain_ite (plain_raise trivial) (plain_pure ()))
  refine hcapacity.bind fun _ => ?_
  cases clock with
  | none => exact plain_raise trivial
  | some now =>
    refine (plain_availableIdentifier directory now 8).bind fun backupId => ?_
    refine (plain_construct _).bind fun manifest => ?_
    exact (reasoned_serializeManifest manifest).plain.bind fun _ => plain_pure _

end

/-- The exception that caused the flush is raised again, or that of the flush. -/
theorem plain_syncAndRaise (uid : Nat) (directory : Path) {e : FsException} (he : e.Plain) :
    Plain (syncAndRaise uid directory e : Fs α) := by
  refine plain_ite ?_ (plain_raise he)
  refine Plain.catching_bind (plain_fsyncDirectory uid directory true) (fun _ => plain_raise he) ?_
  exact fun again hagain => plain_ite (plain_raise he) (plain_raise hagain)

/-- A backup raises neither special exception. -/
theorem plain_createBackup (uid : Nat) (directory : Path) (request : BackupRequest)
    (clock : Option Moment) : Plain (createBackup uid directory request clock) := by
  refine (plain_prepareBackup uid directory request clock).bind fun prepared => ?_
  have hpair : Plain (writePair uid directory prepared.1.backupId request.source.data prepared.2) :=
    (plain_writeNewFile uid directory _ _).bind fun _ =>
      (plain_writeNewFile uid directory _ _).bind fun _ => plain_fsyncDirectory uid directory true
  exact Plain.catching_bind hpair (fun _ => plain_pure _) fun e he => plain_syncAndRaise uid directory he

/-! ## Validating and loading -/

variable (libraries : ConfigurationLibraries) (uid : Nat)

/-- A library's error becomes a refusal with a reason. -/
theorem LibraryError.raised_plain (reason : ProfileReason) (e : LibraryError) :
    (e.raised reason).Plain := by
  cases e <;> exact True.intro

/-- The exceptions of a computation are plain. -/
def PlainResult (x : Except FsException α) : Prop := ∀ e, x = .error e → e.Plain

theorem PlainResult.bind {x : Except FsException α} {f : α → Except FsException β}
    (hx : PlainResult x) (hf : ∀ a, PlainResult (f a)) : PlainResult (x >>= f) := by
  cases x with
  | ok a => exact hf a
  | error e =>
    rintro _ ⟨⟩
    exact hx e rfl

theorem plainResult_raised (reason : ProfileReason) (e : LibraryError) :
    PlainResult (.error (e.raised reason) : Except FsException α) := by
  rintro _ ⟨⟩
  exact e.raised_plain reason

/-- The validation of a document raises neither special exception. -/
theorem plainResult_validateYaml (data : Bytes) (expectedProfileId : Option String) :
    PlainResult (validateYaml libraries data expectedProfileId) := by
  have hparse : PlainResult (parseRawYaml libraries data) := by
    unfold parseRawYaml
    split
    · exact plainResult_raised _ _
    · rintro _ ⟨⟩
      exact True.intro
    · exact nofun
  refine PlainResult.bind (hparse.bind fun document => ?_) fun document =>
    PlainResult.bind ?_ fun _ => nofun
  · split
    · exact plainResult_raised _ _
    · split
      · exact nofun
      · rintro _ ⟨⟩
        exact True.intro
  · unfold validateEffectiveYaml
    cases libraries.loadSettings document with
    | error e => exact plainResult_raised _ _
    | ok _ => exact nofun

/-- So an active file that cannot be loaded is not taken for a failed replacement. -/
theorem plain_loadActive (config : FilePath) : Plain (loadActive libraries uid config) := by
  refine (plain_validateDirectory uid config.parent false).bind fun _ => ?_
  refine (plain_readSecureFile uid config.path maxYamlBytes).bind fun snapshot => ?_
  exact (plain_ofExcept (plainResult_validateYaml libraries _ _)).bind fun _ => plain_pure _

/-- So a profile that cannot be loaded is not taken for a busy lock. -/
theorem plain_loadProfile (directory : Path) (profileId : String) :
    Plain (loadProfile libraries uid directory profileId) := by
  refine (plain_validateDirectory uid directory true).bind fun _ => ?_
  refine (plain_readSecureFile uid (profilePath directory profileId) maxYamlBytes).bind fun snapshot => ?_
  exact (plain_ofExcept (plainResult_validateYaml libraries _ _)).bind fun _ => plain_pure _

/-- A pair that cannot be loaded is refused with a reason. -/
theorem plain_loadPair (directory : Path) (backupId : String) (requireIntegrity : Bool) :
    Plain (loadPair libraries uid directory backupId requireIntegrity) := by
  have hparse : ∀ data, PlainResult (parseManifest libraries.manifests data) := by
    intro data e he
    rw [parseManifest_eq_error he]
    exact True.intro
  have hread : Plain (readPair libraries uid directory backupId) := by
    refine (plain_readSecureFile uid _ maxManifestBytes).bind fun manifest => ?_
    refine (plain_readSecureFile uid _ maxYamlBytes).bind fun source => ?_
    exact (plain_ofExcept (hparse _)).bind fun _ => plain_pure _
  refine hread.catching_bind (fun selected => ?_) fun e he => ?_
  · exact plain_ite (plain_raise trivial) (plain_ite (plain_raise trivial) (plain_pure _))
  · exact plain_ite (plain_raise trivial) (plain_raise he)

/-- A backup that is not intact is refused with a reason. -/
theorem plain_loadBackup (directory : Path) (backupId : String) :
    Plain (loadBackup libraries uid directory backupId) := by
  refine Plain.bind (plain_ofExcept ?_) fun _ => plain_loadPair libraries uid directory backupId true
  unfold requireBackupId
  split
  · exact nofun
  · rintro _ ⟨⟩
    exact True.intro

/-- A publication that does not verify is not taken for a failed replacement. -/
theorem plain_verifyPublished (config : FilePath) (expected : Bytes)
    (expectedProfileId : Option String) :
    Plain (verifyPublished libraries uid config expected expectedProfileId) := by
  refine (plain_readSecureFile uid config.path maxYamlBytes).bind fun snapshot => ?_
  have hvalid : Plain (do
      let _ ← ofExcept (validateYaml libraries snapshot.data expectedProfileId) : Fs Unit) :=
    (plain_ofExcept (plainResult_validateYaml libraries _ _)).bind fun _ => plain_pure ()
  exact plain_ite (plain_raise trivial) hvalid

end Aurora.ConfigProfiles
