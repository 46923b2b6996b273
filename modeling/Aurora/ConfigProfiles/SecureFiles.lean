/-
  Reading managed files, listing a managed directory, and the lock around a mutation.

  A file is read through one descriptor until the end, between two looks at its metadata.  What is
  returned is what the file held: the proofs follow the position of the descriptor.
-/
import Aurora.ConfigProfiles.FilesystemRules

namespace Aurora.ConfigProfiles

open Program

variable {w w' : FsWorld} {α : Type}

/-! ## Reading -/

/-- `_WRITE_CHUNK` -/
def writeChunk : Nat := 64 * 1024

/-- `_read_all`, with what was read so far. -/
def readAll (d : Descriptor) (maximumBytes : Nat) (data : Bytes) : Fs Bytes :=
  call (I := FsInterface) (.read d (min writeChunk (maximumBytes + 1 - data.length))) fun
    | .error e => raise (.os e)
    | .ok (chunk : Bytes) =>
      if chunk = [] then pure data
      else if maximumBytes < (data ++ chunk).length then raise (.profile .fileTooLarge)
      else readAll d maximumBytes (data ++ chunk)
termination_by maximumBytes + 1 - data.length
decreasing_by
  have : chunk.length ≠ 0 := by simpa using ‹¬chunk = []›
  rw [List.length_append] at *
  omega

/-- The digest of a file, in hexadecimal. -/
def hexdigest (data : Bytes) : String :=
  String.ofList ((sha256 data).flatMap fun byte =>
    [Nat.digitChar (byte.toNat / 16), Nat.digitChar (byte.toNat % 16)])

/-- A file as it was read: its bytes, their digest and the identity of the file. -/
structure SecureFileSnapshot where
  data : Bytes
  sha256 : String
  identity : FileIdentity

/-- `inspect_secure_file` -/
def inspectSecureFile (uid : Nat) (path : Path) (maximumBytes : Nat) : Fs FileIdentity :=
  refusing .filesystemBoundary do
    rejectSymlinkComponents [] path
    let before ← sys (.lstat path)
    ofExcept (validateFileStat uid before maximumBytes)
    bracketed (sys (.openRead path)) fun descriptor => do
      let opened ← sys (.fstat descriptor)
      ofExcept (validateFileStat uid opened maximumBytes)
      ofExcept (requireSameObject before opened)
    let after ← sys (.lstat path)
    ofExcept (validateFileStat uid after maximumBytes)
    ofExcept (requireUnchanged before after)
    return after.identity

/-- What `read_secure_file` does with the open descriptor. -/
def readOpened (uid : Nat) (before : Stat) (maximumBytes : Nat) (descriptor : Descriptor) :
    Fs Bytes := do
  let opened ← sys (.fstat descriptor)
  ofExcept (validateFileStat uid opened maximumBytes)
  ofExcept (requireSameObject before opened)
  let data ← readAll descriptor maximumBytes []
  let completed ← sys (.fstat descriptor)
  ofExcept (validateFileStat uid completed maximumBytes)
  ofExcept (requireUnchanged opened completed)
  if data.length ≠ completed.size then raise (.profile .filesystemBoundary)
  return data

/-- `read_secure_file` -/
def readSecureFile (uid : Nat) (path : Path) (maximumBytes : Nat) : Fs SecureFileSnapshot :=
  refusing .filesystemBoundary do
    rejectSymlinkComponents [] path
    let before ← sys (.lstat path)
    ofExcept (validateFileStat uid before maximumBytes)
    let data ← bracketed (sys (.openRead path)) (readOpened uid before maximumBytes)
    let after ← sys (.lstat path)
    ofExcept (validateFileStat uid after maximumBytes)
    ofExcept (requireUnchanged before after)
    return ⟨data, hexdigest data, after.identity⟩

/-! ## Listing -/

/-- The names of a directory, as far as they were read. -/
structure DirectoryEntries where
  names : List String
  limitReached : Bool

/-- `enumerate_directory` -/
def enumerateDirectory (uid : Nat) (path : Path) (limit : Nat) : Fs DirectoryEntries := do
  validateDirectory uid path true
  bracketed (sys (.openDirectory path)) fun descriptor =>
    refusing .filesystemBoundary do
      let names ← sys (.scandir descriptor)
      let opened ← sys (.fstat descriptor)
      ofExcept (validateDirectoryStat uid opened true)
      return ⟨((names : List String).take limit).mergeSort (· ≤ ·), decide (limit < names.length)⟩

/-! ## The lock -/

/-- `LOCK_FILENAME` -/
def lockFilename : String := ".aurora-config.lock"

/-- Open the lock file, or create it; a created one has no metadata yet. -/
def openLockFile (uid : Nat) (lock : Path) : Fs (Descriptor × Option Stat) := do
  let openExisting (before : Stat) : Fs (Descriptor × Option Stat) := do
    ofExcept (validateFileStat uid before 0)
    let descriptor ← sys (.openLock lock false)
    return (descriptor, some before)
  match ← attempt (.stat lock) with
  | .ok before => openExisting before
  | .error .fileNotFound =>
    match ← attempt (.openLock lock true) with
    | .ok descriptor => return (descriptor, none)
    | .error .fileExists => do
      let before ← sys (.stat lock)
      openExisting before
    | .error e => raise (.os e)
  | .error e => raise (.os e)

/-- The checks on the open lock file, and the lock itself. -/
def takeLock (uid : Nat) (lock : Path) (descriptor : Descriptor) (known : Option Stat) :
    Fs Unit := do
  let before ← match known with
    | some before => pure before
    | none => do
      sys (.fchmod descriptor)
      sys (.fstat descriptor)
  let lockStat ← sys (.fstat descriptor)
  ofExcept (validateFileStat uid lockStat 0)
  ofExcept (requireSameObject before lockStat)
  let entryStat ← sys (.stat lock)
  ofExcept (requireSameObject lockStat entryStat)
  match ← attempt (.flock descriptor) with
  | .ok () => pure ()
  | .error .blocking => raise .busy
  | .error e => raise (.os e)

/-- An `OSError` under the lock is refused. -/
def lockFailure : FsException → FsException
  | .os _ => .profile .filesystemBoundary
  | e => e

/-- The `try` statement of `mutation_lock` around its body, and the variable `lock_descriptor`. -/
def lockedAttempt (uid : Nat) (lock : Path) (body : Fs α) :
    Fs (Except FsException α × Option Descriptor) := do
  match ← (openLockFile uid lock).catching with
  | .error e => return (.error e, none)
  | .ok (descriptor, known) =>
    let result ← (do
      takeLock uid lock descriptor known
      body : Fs α).catching
    return (result, some descriptor)

/-- Unlock and close the lock file, if it was opened. -/
def releaseLock : Option Descriptor → Fs Unit
  | none => pure ()
  | some descriptor => do
    let _ ← attempt (.unlock descriptor)
    sys (.close descriptor)

/-- `mutation_lock` as a context manager around its body. -/
def mutationLock (uid : Nat) (backupsDirectory : Path) (body : Fs α) : Fs α := do
  validateDirectory uid backupsDirectory true
  let directory ← sys (.openDirectory backupsDirectory)
  let (result, lock) ← lockedAttempt uid (backupsDirectory ++ [lockFilename]) body
  releaseLock lock
  sys (.close directory)
  ofExcept (result.mapError lockFailure)

/-! ## What is read -/

/-- Only an existing file is opened for reading. -/
theorem sys_openRead {path : Path} {Q : Except FsException Descriptor → FsWorld → Prop}
    (hok : w.files path ≠ none → Q (.ok w.opened) (w.opening path false))
    (herror : ∀ e, Q (.error (.os e)) w) : (sys (.openRead path)).Ensures FsStep w Q := by
  refine ensures_invoke.mpr fun answer w' hstep => ?_
  cases hstep with
  | passive h => exact h.elim
  | refused _ e => exact herror e
  | openRead h => exact hok h

theorem FsWorld.advancing_self (w : FsWorld) (d : Descriptor) (n : Nat) :
    (w.advancing d n).records d =
      { w.records d with position := (w.records d).position + n } := Function.update_self ..

theorem reads_advancing (w : FsWorld) (d : Descriptor) (n : Nat) : Reads d w (w.advancing d n) where
  files := rfl
  failedUnlinks := rfl
  opened := rfl
  others _ he := Function.update_of_ne he ..
  path := (congrArg DescriptorRecord.path (w.advancing_self d n)).trans rfl
  created := (congrArg DescriptorRecord.created (w.advancing_self d n)).trans rfl
  closes := (congrArg DescriptorRecord.closes (w.advancing_self d n)).trans rfl

/-- What is read so far is the part of the file before the position. -/
theorem readAll_reads (d : Descriptor) (maximumBytes : Nat) (data : Bytes) :
    ∀ {w : FsWorld}, data.length ≤ maximumBytes → (w.records d).position = data.length →
      data <+: w.content d → (readAll d maximumBytes data).Ensures FsStep w fun r w' =>
        Reads d w w' ∧ ∀ all, r = .ok all → all = w.content d := by
  fun_induction readAll d maximumBytes data with
  | case1 data ih =>
    intro w hbound hposition hprefix answer w' hstep
    obtain ⟨rest, hrest⟩ := hprefix
    cases hstep with
    | passive h => exact h.elim
    | refused _ e => exact ⟨Reads.refl d w, nofun⟩
    | @read _ _ chunk hchunk hlimit hend =>
      have hdrop : (w.content d).drop (w.records d).position = rest := by
        rw [hposition, ← hrest, List.drop_left]
      rw [hdrop] at hchunk hend
      have hreads := reads_advancing w d chunk.length
      dsimp only
      split
      case isTrue hempty =>
        refine ensures_pure.mpr ⟨hreads, fun all hall => ?_⟩
        have hpositive : 0 < min writeChunk (maximumBytes + 1 - data.length) := by
          unfold writeChunk
          omega
        have hnone : rest = [] := hend hempty hpositive
        rw [← Except.ok.inj hall, ← hrest, hnone, List.append_nil]
      case isFalse hsome =>
        split
        case isTrue => exact ensures_raise.mpr ⟨hreads, nofun⟩
        case isFalse hfits =>
          have hcontent : (w.advancing d chunk.length).content d = w.content d := by
            unfold FsWorld.content
            rw [hreads.path]
            rfl
          have hadvanced : ((w.advancing d chunk.length).records d).position =
              (data ++ chunk).length := by
            rw [List.length_append, ← hposition, FsWorld.advancing_self]
          have hlonger : data ++ chunk <+: (w.advancing d chunk.length).content d := by
            rw [hcontent, ← hrest]
            exact (List.prefix_append_right_inj data).mpr hchunk
          refine (ih chunk hsome hfits (Nat.le_of_not_lt hfits) hadvanced hlonger).mono ?_
          rintro r w'' ⟨hmore, hall⟩
          exact ⟨Reads.trans d _ _ _ hreads hmore, fun all h => (hall all h).trans hcontent⟩

/-- The program is quiet, and what it returns is as `P` says. -/
def Returns (P : α → Prop) (w : FsWorld) (r : Except FsException α) (w' : FsWorld) : Prop :=
  Quiet w w' ∧ ∀ a, r = .ok a → P a

variable {P : α → Prop}

theorem Returns.error (h : Quiet w w') (e : FsException) : Returns P w (.error e) w' := ⟨h, nofun⟩

/-- A bracketed program that only reads from the descriptor it opens. -/
theorem bracketed_returns {opening : Fs Descriptor} {body : Descriptor → Fs α} {path : Path}
    (hopening : ∀ Q : Except FsException Descriptor → FsWorld → Prop,
      (w.files path ≠ none → Q (.ok w.opened) (w.opening path false)) →
        (∀ e, Q (.error (.os e)) w) → opening.Ensures FsStep w Q)
    (hbody : w.files path ≠ none → (body w.opened).Ensures FsStep (w.opening path false)
      fun r w' => Reads w.opened (w.opening path false) w' ∧ ∀ a, r = .ok a → P a) :
    (bracketed opening body).Ensures FsStep w (Returns P w) := by
  refine ensures_bind.mpr (hopening _ (fun hexists => ?_) fun e => .error (Quiet.refl w) _)
  refine (hbody hexists).finallyDo fun r w' hread => ?_
  refine sys_close ⟨quiet_of_reads hread.1 true, hread.2⟩ fun e => ?_
  exact .error (quiet_of_reads hread.1 false) _

/-- Computations that change no file, in sequence. -/
theorem Returns.bind {β : Type} {Q : β → Prop} {x : Fs α} {f : α → Fs β}
    (hx : x.Ensures FsStep w (Returns P w))
    (hf : ∀ a w', P a → Quiet w w' → (f a).Ensures FsStep w' (Returns Q w')) :
    (x >>= f).Ensures FsStep w (Returns Q w) := by
  refine hx.bind (fun a w' h => ?_) fun e w' h => .error h.1 e
  refine (hf a w' (h.2 a rfl) h.1).mono fun r w'' h' => ?_
  exact ⟨Quiet.trans _ _ _ h.1 h'.1, h'.2⟩

theorem Returns.of_keeps {x : Fs α} (h : x.Keeps FsStep Quiet) (w : FsWorld) :
    x.Ensures FsStep w (Returns (fun _ => True) w) :=
  (h w).mono fun _ _ hquiet => ⟨hquiet, fun _ _ => trivial⟩

/-- Naming a reason for a failure changes no file. -/
theorem Returns.refusing {reason : ProfileReason} {body : Fs α}
    (h : body.Ensures FsStep w (Returns P w)) :
    (refusing reason body).Ensures FsStep w (Returns P w) := by
  refine h.catching_bind fun r w' hr => ?_
  split
  · exact .error hr.1 _
  · exact ensures_ofExcept.mpr hr

theorem returns_pure {a : α} (h : P a) : (pure a : Fs α).Ensures FsStep w (Returns P w) :=
  ensures_pure.mpr ⟨Quiet.refl w, fun _ ha => Except.ok.inj ha ▸ h⟩

/-- Reading an open file from its start gives its bytes. -/
theorem readOpened_reads {path : Path} {data : Bytes} (uid : Nat) (before : Stat)
    (maximumBytes : Nat) (hfile : w.files path = some data) :
    (readOpened uid before maximumBytes w.opened).Ensures FsStep (w.opening path false)
      fun r w' => Reads w.opened (w.opening path false) w' ∧ ∀ a, r = .ok a → a = data := by
  have hrecord : (w.opening path false).records w.opened = ⟨path, false, 0, []⟩ :=
    Function.update_self ..
  have hcontent : (w.opening path false).content w.opened = data := by
    unfold FsWorld.content
    rw [hrecord]
    show (w.files path).getD [] = data
    rw [hfile]
    rfl
  have hstart := Reads.refl w.opened (w.opening path false)
  refine ensures_bind.mpr (sys_passive (by trivial) fun r => ?_)
  cases r with
  | error e => exact ⟨hstart, nofun⟩
  | ok opened =>
    refine ensures_bind.mpr (ensures_ofExcept.mpr ?_)
    cases validateFileStat uid opened maximumBytes with
    | error e => exact ⟨hstart, nofun⟩
    | ok _ =>
      refine ensures_bind.mpr (ensures_ofExcept.mpr ?_)
      cases requireSameObject before opened with
      | error e => exact ⟨hstart, nofun⟩
      | ok _ =>
        -- the two checks before it move no position, so the whole file is read
        refine (readAll_reads w.opened maximumBytes [] (Nat.zero_le _)
          (congrArg DescriptorRecord.position hrecord) List.nil_prefix).bind ?_ ?_
        · rintro all w' ⟨hreads, hall⟩
          have hdata : all = data := (hall all rfl).trans hcontent
          refine ensures_bind.mpr (sys_passive (by trivial) fun r => ?_)
          cases r with
          | error e => exact ⟨hreads, nofun⟩
          | ok completed =>
            refine ensures_bind.mpr (ensures_ofExcept.mpr ?_)
            cases validateFileStat uid completed maximumBytes with
            | error e => exact ⟨hreads, nofun⟩
            | ok _ =>
              refine ensures_bind.mpr (ensures_ofExcept.mpr ?_)
              cases requireUnchanged opened completed with
              | error e => exact ⟨hreads, nofun⟩
              | ok _ =>
                dsimp only
                split
                · exact ensures_raise.mpr ⟨hreads, nofun⟩
                · exact ensures_pure.mpr ⟨hreads, fun a ha => (Except.ok.inj ha) ▸ hdata⟩
        · rintro e w' ⟨hreads, -⟩
          exact ⟨hreads, nofun⟩

/-- Behind the checks of its path a file is as it was. -/
theorem returns_checked {uid maximumBytes : Nat} {path : Path} {α : Type} {P : α → Prop}
    {rest : Stat → Fs α}
    (h : ∀ before w', w'.files = w.files → (rest before).Ensures FsStep w' (Returns P w')) :
    (do
      rejectSymlinkComponents [] path
      let before ← sys (.lstat path)
      ofExcept (validateFileStat uid before maximumBytes)
      rest before : Fs α).Ensures FsStep w (Returns P w) := by
  refine Returns.bind (Returns.of_keeps (keeps_rejectSymlinkComponents path []) w) fun _ w₁ _ h₁ => ?_
  refine Returns.bind (Returns.of_keeps (keeps_lstat Quiet.refl path) w₁) fun before w₂ _ h₂ => ?_
  refine Returns.bind (Returns.of_keeps (keeps_ofExcept Quiet.refl _) w₂) fun _ w₃ _ h₃ => ?_
  exact h before w₃ ((h₃.files.trans h₂.files).trans h₁.files)

/-- A snapshot holds what the file holds, and its digest. -/
theorem readSecureFile_returns (uid : Nat) (path : Path) (maximumBytes : Nat) (w : FsWorld) :
    (readSecureFile uid path maximumBytes).Ensures FsStep w
      (Returns (fun s => w.files path = some s.data ∧ s.sha256 = hexdigest s.data) w) := by
  refine Returns.refusing (returns_checked fun before w₃ hfiles => ?_)
  refine Returns.bind (P := fun data => w.files path = some data)
    (bracketed_returns (fun _ hok herror => sys_openRead hok herror) fun hexists => ?_) ?_
  · obtain ⟨data, hdata⟩ := Option.ne_none_iff_exists'.mp hexists
    refine (readOpened_reads uid before maximumBytes hdata).mono ?_
    rintro r w' ⟨hreads, hr⟩
    refine ⟨hreads, fun a ha => ?_⟩
    rw [← hfiles, hdata, hr a ha]
  · intro data w₄ hdata h₄
    refine Returns.bind (Returns.of_keeps (keeps_lstat Quiet.refl path) w₄) fun after w₅ _ _ => ?_
    refine Returns.bind (Returns.of_keeps (keeps_ofExcept Quiet.refl _) w₅) fun _ w₆ _ _ => ?_
    refine Returns.bind (Returns.of_keeps (keeps_ofExcept Quiet.refl _) w₆) fun _ w₇ _ _ => ?_
    exact returns_pure ⟨hdata, rfl⟩

/-- Some call of the transcript scanned the directory, and got these names. -/
structure Scans (w : FsWorld) (t : List FsExchange) (directory : Path) (names : List String) :
    Prop where
  scanned : ∃ d, (⟨.scandir d, .ok names⟩ : FsExchange) ∈ t
  distinct : names.Nodup
  complete : ∀ name, w.files (directory ++ [name]) ≠ none → name ∈ names

theorem Scans.later {t t' : List FsExchange} {directory : Path} {names : List String}
    (h : Scans w t directory names) (ht : t <+: t') : Scans w t' directory names :=
  { h with scanned := h.scanned.imp fun _ hmem => ht.subset hmem }

/-- What a listing makes of a scan. -/
def listed (names : List String) (limit : Nat) : DirectoryEntries :=
  ⟨(names.take limit).mergeSort (· ≤ ·), decide (limit < names.length)⟩

/-- The listing is of the first names, in some order. -/
theorem listed_perm (names : List String) (limit : Nat) :
    (listed names limit).names.Perm (names.take limit) :=
  List.mergeSort_perm _ _

/-- A call, while the transcript is kept. -/
theorem sys_recording {c : FsCall} {t : List FsExchange}
    {Q : Except FsException (FsValue c) → FsWorld × List FsExchange → Prop}
    (h : ∀ (answer : Except OsError (FsValue c)) (w' : FsWorld), FsStep w ⟨c, answer⟩ w' →
      Q (answer.mapError .os) (w', t ++ [⟨c, answer⟩])) :
    (sys c).Ensures (Recording FsStep) (w, t) Q := by
  refine ensures_invoke.mpr ?_
  rintro answer ⟨w', t'⟩ ⟨hstep, rfl⟩
  exact h answer w' hstep

/-- The entries of a listing are those that the scan of the directory gave, up to the limit. -/
theorem enumerateDirectory_scans (uid : Nat) (path : Path) (limit : Nat) (w : FsWorld)
    (t : List FsExchange) :
    (enumerateDirectory uid path limit).Ensures (Recording FsStep) (w, t) fun r s =>
      Returns (fun entries => ∃ names, Scans w s.2 path names ∧ entries = listed names limit) w r
        s.1 := by
  refine ((keeps_validateDirectory uid path true w).recording t).bind ?_ fun e s h => .error h.1 e
  rintro _ ⟨w₁, t₁⟩ ⟨h₁, -⟩
  refine ensures_bind.mpr (sys_recording fun answer v hstep => ?_)
  cases hstep with
  | passive hc => exact hc.elim
  | refused _ e => exact .error h₁ _
  | openDirectory =>
    have hrecord : (w₁.opening path false).records w₁.opened = ⟨path, false, 0, []⟩ :=
      Function.update_self ..
    have hstart := Reads.refl w₁.opened (w₁.opening path false)
    -- the body reads from the descriptor, and returns what it scanned
    let Body (r : Except FsException DirectoryEntries) (s : FsWorld × List FsExchange) : Prop :=
      Reads w₁.opened (w₁.opening path false) s.1 ∧ ∀ entries, r = .ok entries →
        ∃ names, Scans w s.2 path names ∧ entries = listed names limit
    refine Ensures.finallyDo (P := Body) (Ensures.catching_bind (P := Body) ?_ fun r s hr => ?_) ?_
    · refine ensures_bind.mpr (sys_recording fun answer v hstep => ?_)
      cases hstep with
      | passive hc => exact hc.elim
      | refused _ e => exact ⟨hstart, nofun⟩
      | @scandir _ names hall hdistinct =>
        rw [hrecord] at hall
        refine ensures_bind.mpr (sys_recording fun answer v hstep => ?_)
        cases hstep with
        | refused hc => exact hc.elim
        | passive hc answer =>
          cases answer with
          | error e => exact ⟨hstart, nofun⟩
          | ok opened =>
            refine ensures_bind.mpr (ensures_ofExcept.mpr ?_)
            cases validateDirectoryStat uid opened true with
            | error e => exact ⟨hstart, nofun⟩
            | ok _ =>
              refine ensures_pure.mpr ⟨hstart, fun entries hentries => ⟨names, ⟨⟨w₁.opened, ?_⟩,
                hdistinct, fun name hname => hall name (h₁.files ▸ hname)⟩,
                (Except.ok.inj hentries).symm⟩⟩
              exact List.mem_append_left _ (List.mem_append_right _ (List.mem_singleton.mpr rfl))
    · split
      · exact ensures_raise.mpr ⟨hr.1, nofun⟩
      · exact ensures_ofExcept.mpr hr
    · rintro r ⟨v, t₂⟩ ⟨hread, hreturned⟩
      refine sys_recording fun answer v' hstep => ?_
      have hquiet := fun success => Quiet.trans _ _ _ h₁ (quiet_of_reads hread success)
      cases hstep with
      | passive hc => exact hc.elim
      | refused hc => exact hc.elim
      | close =>
        refine ⟨hquiet true, fun entries hentries => ?_⟩
        obtain ⟨names, hscans, heq⟩ := hreturned entries hentries
        exact ⟨names, hscans.later (List.prefix_append _ _), heq⟩
      | closeFailed _ e => exact .error (hquiet false) _

/-- A listing that did not reach the limit names every file of the directory. -/
theorem enumerateDirectory_returns (uid : Nat) (path : Path) (limit : Nat) (w : FsWorld) :
    (enumerateDirectory uid path limit).Ensures FsStep w (Returns (fun entries =>
      entries.limitReached = false →
        ∀ name, w.files (path ++ [name]) ≠ none → name ∈ entries.names) w) := by
  refine Ensures.of_recording (t := []) ?_
  refine (enumerateDirectory_scans uid path limit w []).mono fun r s hr => ?_
  refine ⟨hr.1, fun entries hentries hlimit name hname => ?_⟩
  obtain ⟨names, hscans, rfl⟩ := hr.2 entries hentries
  have hshort : names.take limit = names :=
    List.take_of_length_le (Nat.le_of_not_lt (of_decide_eq_false hlimit))
  rw [(listed_perm names limit).mem_iff, hshort]
  exact hscans.complete name hname

end Aurora.ConfigProfiles
