/-
  What the steps of a mutation leave alone: the lock around it, the backup before it, and the
  replacement itself.

  A step is described by the files it may touch.  Everything else stays, whatever calls fail.  An
  attempt to close is never forgotten, so a failed one can be told at the end of a mutation.
-/
import Mathlib.Data.Set.Card
import Aurora.ConfigProfiles.Backups

namespace Aurora.ConfigProfiles

open Program

variable {w w' w'' : FsWorld} {α : Type} {uid : Nat}

/-! ## Attempts to close -/

/-- Descriptors are only added, and so are attempts to close them. -/
structure Advances (w w' : FsWorld) : Prop where
  opened : w.opened ≤ w'.opened
  closes : ∀ d < w.opened, (w.records d).closes <+: (w'.records d).closes

theorem Advances.refl (w : FsWorld) : Advances w w :=
  ⟨Nat.le_refl _, fun _ _ => List.prefix_refl _⟩

theorem Advances.trans (w w' w'' : FsWorld) (h : Advances w w') (h' : Advances w' w'') :
    Advances w w'' where
  opened := Nat.le_trans h.opened h'.opened
  closes d hd := (h.closes d hd).trans (h'.closes d (Nat.lt_of_lt_of_le hd h.opened))

theorem advances_opening (w : FsWorld) (path : Path) (created : Bool) :
    Advances w (w.opening path created) where
  opened := Nat.le_succ _
  closes d hd := by
    have hrecord : (w.opening path created).records d = w.records d :=
      Function.update_of_ne (Nat.ne_of_lt hd) ..
    rw [hrecord]

theorem advances_closing (w : FsWorld) (d : Descriptor) (success : Bool) :
    Advances w (w.closing d success) where
  opened := Nat.le_refl _
  closes e he := by
    by_cases hsame : e = d
    · subst hsame
      have hrecord : (w.closing e success).records e =
          { w.records e with closes := (w.records e).closes ++ [success] } :=
        Function.update_self ..
      rw [hrecord]
      exact List.prefix_append _ _
    · have hrecord : (w.closing d success).records e = w.records e :=
        Function.update_of_ne hsame ..
      rw [hrecord]

/-- A step that opens and closes nothing. -/
theorem advances_of_records (hopened : w'.opened = w.opened) (hrecords : w'.records = w.records) :
    Advances w w' := by
  refine ⟨Nat.le_of_eq hopened.symm, fun d _ => ?_⟩
  rw [hrecords]

theorem advances_of_step {x : FsExchange} (h : FsStep w x w') : Advances w w' := by
  cases h with
  | passive hc answer => exact .refl w
  | lstat path answer hmissing => exact .refl w
  | refused hc e => exact .refl w
  | openDirectory path => exact advances_opening w path false
  | openRead hexists => exact advances_opening w _ false
  -- the record of a new file is the one of its descriptor
  | openNew hnew => exact ⟨Nat.le_succ _, (advances_opening w _ true).closes⟩
  | createLock hnew => exact ⟨Nat.le_succ _, (advances_opening w _ false).closes⟩
  | openLock hexists => exact advances_opening w _ false
  | @read d limit chunk hchunk hlimit hend =>
    refine ⟨Nat.le_refl _, fun e he => ?_⟩
    by_cases hsame : e = d
    · subst hsame
      rw [w.advancing_self e chunk.length]
    · have hrecord : (w.advancing d chunk.length).records e = w.records e :=
        Function.update_of_ne hsame ..
      rw [hrecord]
  | write d data count => exact advances_of_records rfl rfl
  | writeFailed d data e count => exact advances_of_records rfl rfl
  | close d => exact advances_closing w d true
  | closeFailed d e => exact advances_closing w d false
  | unlink path => exact advances_of_records rfl rfl
  | unlinkFailed path e => exact advances_of_records rfl rfl
  | replace source destination => exact advances_of_records rfl rfl
  | scandir hall hdistinct => exact .refl w

theorem keeps_advances (p : Fs α) : p.Keeps FsStep Advances :=
  keeps_of_step Advances.refl Advances.trans (fun _ _ _ => advances_of_step) p

/-- A close of a descriptor that was opened meanwhile failed. -/
def CloseFails (w w' : FsWorld) : Prop :=
  ∃ d, w.opened ≤ d ∧ d < w'.opened ∧ false ∈ (w'.records d).closes

theorem CloseFails.later (h : CloseFails w w') (h' : Advances w' w'') : CloseFails w w'' := by
  obtain ⟨d, hd, hd', hfails⟩ := h
  exact ⟨d, hd, Nat.lt_of_lt_of_le hd' h'.opened, (h'.closes d hd').subset hfails⟩

theorem CloseFails.earlier (h : Advances w w') (h' : CloseFails w' w'') : CloseFails w w'' := by
  obtain ⟨d, hd, hd', hfails⟩ := h'
  exact ⟨d, Nat.le_trans h.opened hd, hd', hfails⟩

/-- A failed close of a descriptor opened since the start. -/
theorem closeFails_closing {d : Descriptor} (hd : w.opened ≤ d) (hd' : d < w'.opened) :
    CloseFails w (w'.closing d false) := by
  have hrecord : (w'.closing d false).records d =
      { w'.records d with closes := (w'.records d).closes ++ [false] } := Function.update_self ..
  refine ⟨d, hd, hd', ?_⟩
  rw [hrecord]
  exact List.mem_append_right _ (List.mem_singleton.mpr rfl)

/-! ## Names that are not managed -/

/-- An identifier starts with a digit. -/
theorem isBackupId_head {identifier : String} (h : isBackupId identifier = true) :
    ∃ c rest, identifier.toList = c :: rest ∧ isAsciiDigit c = true := by
  unfold isBackupId isCompactTime at h
  simp only [Bool.and_eq_true] at h
  obtain ⟨⟨⟨⟨hruns, -⟩, -⟩, -⟩, -⟩ := h
  unfold digitRuns at hruns
  simp only [Bool.and_eq_true, decide_eq_true_eq] at hruns
  obtain ⟨⟨⟨hlength, hall⟩, -⟩, -⟩ := hruns
  cases hlist : identifier.toList with
  | nil =>
    rw [hlist] at hlength
    exact absurd hlength (by decide)
  | cons c rest =>
    rw [hlist] at hall
    exact ⟨c, rest, rfl, List.all_eq_true.mp hall c List.mem_cons_self⟩

/-- A name that starts with a dot is the name of no managed file. -/
theorem managedFile_ne_dotted {identifier name : String} (h : isBackupId identifier = true)
    (extension : Extension) (hname : name.toList.head? = some '.') :
    managedFile identifier extension ≠ name := by
  rintro rfl
  obtain ⟨c, rest, hlist, hdigit⟩ := isBackupId_head h
  unfold managedFile at hname
  rw [String.toList_append, hlist] at hname
  obtain rfl : c = '.' := Option.some.inj hname
  exact absurd hdigit (by decide)

theorem temporaryName_head (token : String) : (temporaryName token).toList.head? = some '.' := by
  unfold temporaryName
  rw [String.toList_append]
  rfl

/-- The managed files of a directory. -/
def IsManaged (directory path : Path) : Prop :=
  ∃ identifier extension, isBackupId identifier = true ∧
    path = directory ++ [managedFile identifier extension]

/-- A dotted name is nobody's backup file. -/
theorem not_isManaged_dotted {directory parent : Path} {name : String}
    (hname : name.toList.head? = some '.') : ¬IsManaged directory (parent ++ [name]) := by
  rintro ⟨identifier, extension, hid, heq⟩
  have hlast := (List.append_inj' heq rfl).2
  exact managedFile_ne_dotted hid extension hname (List.cons.inj hlast).1.symm

/-! ## What a replacement touches -/

/-- Only these files have changed. -/
def Touches (S : Path → Prop) (w w' : FsWorld) : Prop := ∀ path, ¬S path → w'.files path = w.files path

variable {S : Path → Prop}

theorem Touches.refl (w : FsWorld) : Touches S w w := fun _ _ => rfl

theorem Touches.trans (w w' w'' : FsWorld) (h : Touches S w w') (h' : Touches S w' w'') :
    Touches S w w'' := fun path hpath => (h' path hpath).trans (h path hpath)

theorem Touches.mono {S' : Path → Prop} (h : Touches S w w') (hS : ∀ path, S path → S' path) :
    Touches S' w w' := fun path hpath => h path fun hmem => hpath (hS path hmem)

/-- Where no file changed no path was touched. -/
theorem touches_of_files (h : w'.files = w.files) : Touches S w w' :=
  fun path _ => congrFun h path

/-- One change, on a path that may be touched. -/
theorem Touches.update {path : Path} {content : Option Bytes} (hpath : S path)
    (h : w'.files = Function.update w.files path content) : Touches S w w' := by
  intro other hother
  have hne : other ≠ path := fun heq => hother (heq ▸ hpath)
  rw [h, Function.update_of_ne hne]

theorem keeps_close (d : Descriptor) : (sys (.close d)).Keeps FsStep (Touches S) :=
  fun _ => sys_close (touches_of_files rfl) fun _ => touches_of_files rfl

theorem keeps_closeIfSome (d : Option Descriptor) :
    (closeIfSome d).Keeps FsStep (Touches S) := by
  cases d with
  | none => exact keeps_pure Touches.refl _
  | some d => exact keeps_close d

/-- The cleanup unlinks at most the path it was given. -/
theorem keeps_unlinkIfSome {path : Option Path} (h : ∀ p, path = some p → S p) :
    (unlinkIfSome path).Keeps FsStep (Touches S) := by
  cases path with
  | none => exact keeps_pure Touches.refl _
  | some path =>
    intro w
    refine ensures_bind.mpr (attempt_unlink ?_ fun _ => touches_of_files rfl)
    exact ensures_pure.mpr (Touches.update (h path rfl) rfl)

/-- The target of a replacement, and the temporary names beside it. -/
def Replaced (parent destination path : Path) : Prop :=
  path = destination ∨ ∃ token, path = parent ++ [temporaryName token]

/-- The temporary file is one of the paths a replacement may touch. -/
theorem FreshTemporary.replaced {parent destination path : Path}
    (h : FreshTemporary w parent path) : Replaced parent destination path := .inr h.1

/-- An attempt touches its destination and its temporary file. -/
theorem ReplaceAttemptEnd.touches {parent destination : Path} {data : Bytes}
    {p : Except FsException Unit × ReplaceLocals}
    (h : ReplaceAttemptEnd w parent destination data p w') :
    Touches (Replaced parent destination) w w' ∧
      ∀ path, p.2.temporaryPath = some path → Replaced parent destination path := by
  have hcreating : ∀ {path : Path} (content : Bytes), FreshTemporary w parent path →
      Touches (Replaced parent destination) w (w.creating path content) :=
    fun content hfresh => Touches.update hfresh.replaced rfl
  have hsome : ∀ {path : Path}, FreshTemporary w parent path →
      ∀ other, some path = some other → Replaced parent destination other :=
    fun hfresh other heq => Option.some.inj heq ▸ hfresh.replaced
  cases h with
  | refused e => exact ⟨Touches.refl w, nofun⟩
  | unfilled e content hfresh => exact ⟨hcreating content hfresh, hsome hfresh⟩
  | unclosed e hfresh => exact ⟨hcreating data hfresh, hsome hfresh⟩
  | unpublished e hfresh => exact ⟨hcreating data hfresh, hsome hfresh⟩
  | @published r path hfresh =>
    refine ⟨?_, nofun⟩
    refine Touches.trans w _ _ (hcreating data hfresh) ?_
    refine Touches.trans _ (((w.creating path data).closing w.opened true).put path none) _ ?_ ?_
    · exact Touches.update hfresh.replaced rfl
    · exact Touches.update (.inl rfl) rfl

theorem atomicReplace_touches (uid : Nat) (parent : Path) (name : String) (data : Bytes)
    (expected : Option FileIdentity) : (atomicReplace uid parent name data expected).Keeps FsStep
      (Touches (Replaced parent (parent ++ [name]))) := by
  refine Keeps.bind Touches.trans ?_ fun _ => ?_
  · exact (keeps_validateDirectory uid parent false).weaken fun _ _ h => touches_of_files h.files
  refine Keeps.bind Touches.trans (keeps_ofExcept Touches.refl _) fun _ => ?_
  refine Keeps.bind Touches.trans ?_ fun directory => ?_
  · exact fun w => sys_openDirectory (touches_of_files rfl) fun _ => Touches.refl w
  intro w
  refine (replaceAttempt_ends uid parent name data expected directory).bind ?_ ?_
  · rintro p w₁ ⟨_, ⟨⟩, hend⟩
    obtain ⟨hattempt, htemporary⟩ := hend.touches
    have hcleanup : (do
        closeIfSome p.2.temporaryDescriptor
        unlinkIfSome p.2.temporaryPath
        sys (.close directory)
        ofExcept (p.1.mapError (replaceFailure p.2.published)) : Fs Unit).Keeps FsStep
          (Touches (Replaced parent (parent ++ [name]))) := by
      refine Keeps.bind Touches.trans (keeps_closeIfSome _) fun _ => ?_
      refine Keeps.bind Touches.trans (keeps_unlinkIfSome htemporary) fun _ => ?_
      refine Keeps.bind Touches.trans (keeps_close directory) fun _ => ?_
      exact keeps_ofExcept Touches.refl _
    exact (hcleanup w₁).mono fun _ w₂ h => Touches.trans w w₁ w₂ hattempt h
  · rintro e w₁ ⟨_, ⟨⟩, -⟩

/-! ## The lock -/

/-- The lock file is there, or was created. -/
def LockMade (backups : Path) (w w' : FsWorld) : Prop :=
  w'.files = w.files ∨ w.files (backups ++ [lockFilename]) = none ∧
    w'.files = Function.update w.files (backups ++ [lockFilename]) (some [])

variable {backups : Path}

theorem LockMade.keeps (h : LockMade backups w w') {path : Path} (hpath : w.files path ≠ none) :
    w'.files path = w.files path := by
  rcases h with hsame | ⟨hnew, hfiles⟩
  · rw [hsame]
  · rw [hfiles, Function.update_of_ne]
    rintro rfl
    exact hpath hnew

theorem LockMade.managed (h : LockMade backups w w') {directory path : Path}
    (hpath : IsManaged directory path) : w'.files path = w.files path := by
  rcases h with hsame | ⟨-, hfiles⟩
  · rw [hsame]
  · rw [hfiles, Function.update_of_ne]
    rintro rfl
    exact not_isManaged_dotted rfl hpath

/-- The lock file is opened, and created if it was missing. -/
theorem openLockFile_ends (uid : Nat) (w : FsWorld) :
    (openLockFile uid (backups ++ [lockFilename])).Ensures FsStep w fun r w' =>
      LockMade backups w w' ∧ ∀ p, r = .ok p → p.1 = w.opened ∧ w'.opened = w.opened + 1 := by
  have hsame : LockMade backups w w := .inl rfl
  -- the lock file is there and is opened after a look at its metadata
  have hexisting : ∀ before : Stat, (do
      ofExcept (validateFileStat uid before 0)
      let descriptor ← sys (.openLock (backups ++ [lockFilename]) false)
      return (descriptor, some before) : Fs (Descriptor × Option Stat)).Ensures FsStep w
        fun r w' => LockMade backups w w' ∧
          ∀ p, r = .ok p → p.1 = w.opened ∧ w'.opened = w.opened + 1 := by
    intro before
    refine ensures_bind.mpr (ensures_ofExcept.mpr ?_)
    cases validateFileStat uid before 0 with
    | error e => exact ⟨hsame, nofun⟩
    | ok _ =>
      refine ensures_bind.mpr (ensures_invoke.mpr fun answer w' hstep => ?_)
      cases hstep with
      | passive hc => exact hc.elim
      | refused _ e => exact ⟨hsame, nofun⟩
      | openLock hexists =>
        refine ensures_pure.mpr ⟨.inl rfl, fun p hp => ?_⟩
        cases hp
        exact ⟨rfl, rfl⟩
  refine ensures_bind.mpr (attempt_passive (by trivial) fun r => ?_)
  dsimp only
  split
  · exact hexisting _
  · refine ensures_bind.mpr (ensures_ask.mpr fun answer w' hstep => ?_)
    cases hstep with
    | passive hc => exact hc.elim
    | refused _ e =>
      cases e with
      | fileExists =>
        refine ensures_bind.mpr (sys_passive (by trivial) fun r => ?_)
        cases r with
        | error e => exact ⟨hsame, nofun⟩
        | ok before => exact hexisting before
      | fileNotFound => exact ⟨hsame, nofun⟩
      | blocking => exact ⟨hsame, nofun⟩
      | other => exact ⟨hsame, nofun⟩
    | createLock hnew =>
      refine ensures_pure.mpr ⟨.inr ⟨hnew, rfl⟩, fun p hp => ?_⟩
      cases hp
      exact ⟨rfl, rfl⟩
  · exact ensures_raise.mpr ⟨hsame, nofun⟩

/-- Taking the lock changes nothing on the disk. -/
theorem keeps_takeLock (uid : Nat) (lock : Path) (descriptor : Descriptor) (known : Option Stat) :
    (takeLock uid lock descriptor known).Keeps FsStep Eq := by
  have hrefl : ∀ w : FsWorld, w = w := fun _ => rfl
  have htrans : ∀ a b c : FsWorld, a = b → b = c → a = c := fun _ _ _ => Eq.trans
  -- the checks, in the order the source makes them, and then the lock
  have hchecks : ∀ (before : Stat) (taken : Except OsError Unit → Fs Unit),
      (∀ r, (taken r).Keeps FsStep Eq) → (do
        let lockStat ← sys (.fstat descriptor)
        ofExcept (validateFileStat uid lockStat 0)
        ofExcept (requireSameObject before lockStat)
        let entryStat ← sys (.stat lock)
        ofExcept (requireSameObject lockStat entryStat)
        let r ← attempt (.flock descriptor)
        taken r : Fs Unit).Keeps FsStep Eq := by
    intro before taken htaken
    refine Keeps.bind htrans (keeps_sys hrefl (by trivial)) fun lockStat => ?_
    refine Keeps.bind htrans (keeps_ofExcept hrefl _) fun _ => ?_
    refine Keeps.bind htrans (keeps_ofExcept hrefl _) fun _ => ?_
    refine Keeps.bind htrans (keeps_sys hrefl (by trivial)) fun entryStat => ?_
    refine Keeps.bind htrans (keeps_ofExcept hrefl _) fun _ => ?_
    exact fun w => ensures_bind.mpr (attempt_passive (by trivial) fun r => htaken r w)
  cases known with
  | some before =>
    refine Keeps.bind htrans (keeps_pure hrefl before) fun before => hchecks before _ fun r w => ?_
    split <;> first | exact ensures_pure.mpr rfl | exact ensures_raise.mpr rfl
  | none =>
    refine Keeps.bind htrans (keeps_sys hrefl (by trivial)) fun _ => ?_
    refine Keeps.bind htrans (keeps_sys hrefl (by trivial)) fun before =>
      hchecks before _ fun r w => ?_
    split <;> first | exact ensures_pure.mpr rfl | exact ensures_raise.mpr rfl

/-- How a locked body ends: it did not run, or it did, and a failed release hides its result. -/
inductive LockEnd (backups : Path) (Q : FsWorld → Except FsException α → FsWorld → Prop)
    (w : FsWorld) : Except FsException α → FsWorld → Prop
  | refused {w' : FsWorld} (e : FsException) (made : LockMade backups w w') :
      LockEnd backups Q w (.error e) w'
  | ran {v v' w' : FsWorld} {r result : Except FsException α} (made : LockMade backups w v)
      (advances : Advances w v) (body : Q v r v') (files : w'.files = v'.files)
      (hides : Advances v' w' ∧ result = r.mapError lockFailure ∨
        (∃ e, result = .error (.os e)) ∧ CloseFails w w') : LockEnd backups Q w result w'

variable {Q : FsWorld → Except FsException α → FsWorld → Prop} {body : Fs α}

/-- The body starts once the lock is held. -/
theorem lockedAttempt_ends (hbody : ∀ v, LockMade backups w v → (body).Ensures FsStep v (Q v)) :
    (lockedAttempt uid (backups ++ [lockFilename]) body).Ensures FsStep w fun r w' =>
      ∃ p, r = .ok p ∧ ((∃ e d, p = (.error e, d) ∧ LockMade backups w w' ∧
          ∀ descriptor, d = some descriptor → descriptor = w.opened ∧ w.opened < w'.opened) ∨
        ∃ v result, p = (result, some w.opened) ∧ LockMade backups w v ∧ Advances w v ∧
          w.opened < v.opened ∧ Q v result w' ∧ Advances v w') := by
  refine (openLockFile_ends uid w |>.and (keeps_advances _ w)).catching_bind ?_
  rintro r v ⟨⟨hmade, hopened⟩, hadvances⟩
  cases r with
  | error e => exact ensures_pure.mpr ⟨_, rfl, .inl ⟨e, none, rfl, hmade, nofun⟩⟩
  | ok p =>
    obtain ⟨hfirst, hnext⟩ := hopened p rfl
    obtain ⟨descriptor, known⟩ := p
    obtain rfl : descriptor = w.opened := hfirst
    have hlater : w.opened < v.opened := by omega
    dsimp only
    -- how the lock is taken, and then the body
    have hinner : (do
        takeLock uid (backups ++ [lockFilename]) w.opened known
        body : Fs α).Ensures FsStep v fun r v' =>
          (∃ e, r = .error e ∧ v' = v) ∨ Q v r v' ∧ Advances v v' := by
      refine (keeps_takeLock uid _ w.opened known v).bind ?_ fun e v' hsame => ?_
      · rintro _ v' rfl
        refine ((hbody v hmade).and (keeps_advances body v)).mono fun r v' h => .inr h
      · exact .inl ⟨e, rfl, hsame.symm⟩
    refine hinner.catching_bind ?_
    rintro r v' (⟨e, rfl, rfl⟩ | ⟨hQ, hadvances'⟩)
    · refine ensures_pure.mpr ⟨_, rfl, .inl ⟨e, some w.opened, rfl, hmade, ?_⟩⟩
      rintro _ ⟨⟩
      exact ⟨rfl, hlater⟩
    · refine ensures_pure.mpr ⟨_, rfl, .inr ⟨v, r, rfl, hmade, hadvances, hlater, hQ, hadvances'⟩⟩

/-- The release changes no file, and fails only when a close fails. -/
theorem release_ends {start : FsWorld} {directory : Descriptor} {lock : Option Descriptor}
    (hdirectory : start.opened ≤ directory ∧ directory < w.opened)
    (hlock : ∀ d, lock = some d → start.opened ≤ d ∧ d < w.opened)
    (result : Except FsException α) :
    (do
      releaseLock lock
      sys (.close directory)
      ofExcept result : Fs α).Ensures FsStep w fun r w' =>
        w'.files = w.files ∧ (Advances w w' ∧ r = result ∨
          (∃ e, r = .error (.os e)) ∧ CloseFails start w') := by
  have hlast : ∀ v, v.files = w.files → Advances w v → (do
      sys (.close directory)
      ofExcept result : Fs α).Ensures FsStep v fun r w' => w'.files = w.files ∧
        (Advances w w' ∧ r = result ∨ (∃ e, r = .error (.os e)) ∧ CloseFails start w') := by
    intro v hfiles hadvances
    have hopen : directory < v.opened := Nat.lt_of_lt_of_le hdirectory.2 hadvances.opened
    refine ensures_bind.mpr (ensures_invoke.mpr fun answer v' hstep => ?_)
    cases hstep with
    | passive hc => exact hc.elim
    | refused hc => exact hc.elim
    | close =>
      have hclosed := hadvances.trans _ _ _ (advances_closing v directory true)
      exact ensures_ofExcept.mpr ⟨hfiles, .inl ⟨hclosed, rfl⟩⟩
    | closeFailed _ e => exact ⟨hfiles, .inr ⟨⟨e, rfl⟩, closeFails_closing hdirectory.1 hopen⟩⟩
  cases lock with
  | none => exact hlast w rfl (.refl w)
  | some d =>
    obtain ⟨hd, hd'⟩ := hlock d rfl
    refine ensures_bind.mpr (ensures_bind.mpr (attempt_passive (by trivial) fun _ => ?_))
    refine ensures_invoke.mpr fun answer v hstep => ?_
    cases hstep with
    | passive hc => exact hc.elim
    | refused hc => exact hc.elim
    | close => exact hlast _ rfl (advances_closing w d true)
    | closeFailed _ e => exact ⟨rfl, .inr ⟨⟨e, rfl⟩, closeFails_closing hd hd'⟩⟩

/-- The body runs after the lock was made, or not at all. -/
theorem mutationLock_ends (hbody : ∀ v, LockMade backups w v → body.Ensures FsStep v (Q v)) :
    (mutationLock uid backups body).Ensures FsStep w (LockEnd backups Q w) := by
  refine (keeps_validateDirectory uid backups true w).and (keeps_advances _ w) |>.bind
    (fun _ w₁ hstart => ?_) fun e w₁ hstart => .refused e (.inl hstart.1.files)
  obtain ⟨hquiet, hadvances⟩ := hstart
  refine ensures_bind.mpr (sys_openDirectory ?_ fun e => .refused _ (.inl hquiet.files))
  have hfiles : (w₁.opening backups false).files = w.files := hquiet.files
  have hopening := hadvances.trans _ _ _ (advances_opening w₁ backups false)
  have hmade : ∀ {v}, LockMade backups (w₁.opening backups false) v → LockMade backups w v := by
    intro v h
    unfold LockMade at *
    rwa [hfiles] at h
  have hdirectory : ∀ {v : FsWorld}, (w₁.opening backups false).opened < v.opened →
      w.opened ≤ w₁.opened ∧ w₁.opened < v.opened := fun h =>
    ⟨hadvances.opened, Nat.lt_of_succ_lt h⟩
  refine (lockedAttempt_ends fun v h => hbody v (hmade h)).and (keeps_advances _ _) |>.bind ?_ ?_
  · rintro p v' ⟨⟨p, ⟨⟩, hend⟩, hlater⟩
    rcases hend with ⟨e, d, rfl, hrefused, hd⟩ | ⟨v, r, rfl, hlocked, hlockedAdvances, hnext, hQ, hran⟩
    · -- the lock was not taken
      have hopen : w₁.opened < v'.opened := Nat.lt_of_succ_le hlater.opened
      refine (release_ends ⟨hadvances.opened, hopen⟩ ?_ _).mono ?_
      · intro descriptor heq
        obtain ⟨rfl, hbelow⟩ := hd descriptor heq
        exact ⟨Nat.le_succ_of_le hadvances.opened, hbelow⟩
      · rintro result w' ⟨hsame, hresult⟩
        have hcreated : LockMade backups w w' := by
          have h := hmade hrefused
          unfold LockMade at *
          rwa [hsame]
        rcases hresult with ⟨-, rfl⟩ | ⟨⟨e', rfl⟩, -⟩
        · exact .refused _ hcreated
        · exact .refused _ hcreated
    · have hopen : (w₁.opening backups false).opened < v'.opened :=
        Nat.lt_of_lt_of_le hnext hran.opened
      refine (release_ends (hdirectory hopen) ?_ _).mono ?_
      · rintro _ ⟨⟩
        exact ⟨Nat.le_succ_of_le hadvances.opened, hopen⟩
      · rintro result w' ⟨hsame, hresult⟩
        exact .ran (hmade hlocked) (hopening.trans _ _ _ hlockedAdvances) hQ hsame hresult
  · rintro e v' ⟨⟨p, ⟨⟩, -⟩, -⟩

/-! ## Creating a backup -/

/-- There is room for one more identifier. -/
def HasRoom (w : FsWorld) (directory : Path) (maximumBackups : Int) : Prop :=
  ∃ n : Nat, (managedIds w directory).encard ≤ n ∧ (n : Int) < maximumBackups

/-- The room for another backup depends on the files alone. -/
theorem HasRoom.congr {directory : Path} {maximumBackups : Int}
    (h : HasRoom w' directory maximumBackups) (hfiles : w'.files = w.files) :
    HasRoom w directory maximumBackups := by
  unfold HasRoom at *
  rwa [managedIds_congr hfiles] at h

/-- A complete listing counts every managed identifier. -/
theorem encard_managedIds_le {directory : Path} {names : List String}
    (h : ∀ name, w.files (directory ++ [name]) ≠ none → name ∈ names) :
    (managedIds w directory).encard ≤ (countedIdentifiers names).length := by
  have hsubset : managedIds w directory ⊆ ((countedIdentifiers names).toFinset : Set String) := by
    rintro identifier ⟨name, hfile, hname⟩
    have hmem : identifier ∈ names.filterMap managedIdentifier :=
      List.mem_filterMap.mpr ⟨name, h name hfile, hname⟩
    exact List.mem_toFinset.mpr (List.mem_dedup.mpr hmem)
  calc (managedIds w directory).encard
      ≤ ((countedIdentifiers names).toFinset : Set String).encard := Set.encard_le_encard hsubset
    _ = (countedIdentifiers names).toFinset.card := Set.encard_coe_eq_coe_finsetCard _
    _ ≤ (countedIdentifiers names).length := by exact_mod_cast List.toFinset_card_le _

/-- Past the check there is room for another backup. -/
theorem ensureCapacity_returns (uid : Nat) (directory : Path) (maximumBackups : Int)
    (w : FsWorld) : (ensureCapacity uid directory maximumBackups).Ensures FsStep w
      (Returns (fun _ => HasRoom w directory maximumBackups) w) := by
  refine Returns.bind (enumerateDirectory_returns uid directory maxBackupEntries w)
    fun entries w₁ hentries h₁ => ?_
  refine ensures_ite (fun _ => ensures_raise.mpr (.error (Quiet.refl w₁) _)) fun hlimit => ?_
  refine ensures_ite (fun _ => ensures_raise.mpr (.error (Quiet.refl w₁) _)) fun hroom => ?_
  have hall := hentries (Bool.eq_false_of_not_eq_true hlimit)
  exact returns_pure ⟨_, encard_managedIds_le hall, Int.not_le.mp hroom⟩

/-- The manifest is the one that a request makes. -/
structure Documents (m : BackupManifest) (request : BackupRequest) : Prop where
  accepted : m.accepted = true
  sourceSha256 : m.sourceSha256 = request.source.sha256
  sourceByteCount : m.sourceByteCount = request.source.data.length
  operation : m.operation = request.operation
  targetProfileId : m.targetProfileId = request.targetProfileId
  targetBackupId : m.targetBackupId = request.targetBackupId

/-- What is known before the first write. -/
structure Prepared (w : FsWorld) (directory : Path) (request : BackupRequest)
    (m : BackupManifest) : Prop where
  documents : Documents m request
  unused : Unused w directory m.backupId
  room : HasRoom w directory request.maximumBackups

/-- A manifest that was constructed passed its checks. -/
theorem BackupManifest.accepted_of_construct {m made : BackupManifest}
    (h : m.construct = .ok made) : m.accepted = true := by
  unfold construct at h
  split at h
  case isTrue haccepted => exact haccepted
  case isFalse => cases h

section

-- elaboration would evaluate the texts of the manifest
attribute [local irreducible] BackupManifest.construct serializeManifest

/-- What the preparation found out before any file is written. -/
theorem prepareBackup_prepares (uid : Nat) (directory : Path) (request : BackupRequest)
    (clock : Option Moment) (w : FsWorld) :
    (prepareBackup uid directory request clock).Ensures FsStep w (Returns (fun prepared =>
      Prepared w directory request prepared.1 ∧ serializeManifest prepared.1 = .ok prepared.2) w) := by
  refine Returns.bind (ensureCapacity_returns uid directory _ w) fun _ w₁ hroom h₁ => ?_
  cases clock with
  | none => exact ensures_raise.mpr (.error (Quiet.refl w₁) _)
  | some now =>
    refine Returns.bind (availableIdentifier_returns directory now 8 w₁)
      fun identifier w₂ hunused h₂ => ?_
    refine Returns.bind (returns_ofExcept fun manifest h =>
      And.intro (BackupManifest.eq_of_construct h) (BackupManifest.accepted_of_construct h))
      fun manifest w₃ hmanifest h₃ => ?_
    obtain ⟨rfl, haccepted⟩ := hmanifest
    refine Returns.bind (returns_ofExcept fun data h => h) fun data w₄ hdata _ => ?_
    exact returns_pure
      ⟨⟨⟨haccepted, rfl, rfl, rfl, rfl, rfl⟩, hunused.congr h₁.files, hroom⟩, hdata⟩

end

/-- Only files of this identifier have changed. -/
def TouchesId (directory : Path) (identifier : String) : FsWorld → FsWorld → Prop :=
  Touches fun path => ∃ extension, path = directory ++ [managedFile identifier extension]

/-- How the two writes end. -/
theorem writePair_ends (uid : Nat) (directory : Path) (identifier : String)
    (payload manifest : Bytes) :
    (writePair uid directory identifier payload manifest).Ensures FsStep w fun r w' =>
      TouchesId directory identifier w w' ∧
        (r = .ok () → w'.files (directory ++ [managedFile identifier .yaml]) = some payload ∧
          w'.files (directory ++ [managedFile identifier .json]) = some manifest) := by
  have htouches : ∀ {v v' : FsWorld} {extension : Extension} {data : Bytes} {filled : Bool}
      {r : Except FsException Unit},
      WriteEnd v (directory ++ [managedFile identifier extension]) data filled r v' →
        TouchesId directory identifier v v' := by
    intro v v' extension data filled r h path hpath
    exact h.other fun heq => hpath ⟨extension, heq⟩
  refine (writeNewFile_ends uid directory _ payload).bind ?_ fun e w₁ h => ⟨htouches h.choose_spec, nofun⟩
  rintro _ w₁ ⟨_, hpayload⟩
  refine (writeNewFile_ends uid directory _ manifest).bind ?_ ?_
  · rintro _ w₂ ⟨_, hmanifest⟩
    refine (keeps_fsyncDirectory uid directory true w₂).mono fun r w₃ hquiet => ?_
    obtain ⟨-, hyaml, -⟩ := hpayload.of_ok
    obtain ⟨-, hjson, -⟩ := hmanifest.of_ok
    refine ⟨?_, fun _ => ?_⟩
    · refine Touches.trans w w₂ w₃ ?_ (touches_of_files hquiet.files)
      exact Touches.trans w w₁ w₂ (htouches hpayload) (htouches hmanifest)
    · rw [hquiet.files, hmanifest.other (json_ne_yaml directory identifier), hyaml, hjson,
        Function.update_self, Function.update_self]
      exact ⟨rfl, rfl⟩
  · rintro e w₂ ⟨_, hmanifest⟩
    exact ⟨Touches.trans w w₁ w₂ (htouches hpayload) (htouches hmanifest), nofun⟩

/-- The payload and the manifest of a backup are in their files. -/
structure Saved (w : FsWorld) (directory : Path) (m : BackupManifest) (source : Bytes) : Prop where
  accepted : m.accepted = true
  payload : w.files (directory ++ [managedFile m.backupId .yaml]) = some source
  manifest : ∃ data, serializeManifest m = .ok data ∧
    w.files (directory ++ [managedFile m.backupId .json]) = some data

/-- How `create` ends: nothing changed, or an identifier that was free got its files, or a part of
them. -/
inductive SaveEnd (w : FsWorld) (directory : Path) (request : BackupRequest) :
    Except FsException BackupManifest → FsWorld → Prop
  | refused {w' : FsWorld} (e : FsException) (files : w'.files = w.files) :
      SaveEnd w directory request (.error e) w'
  | failed {w' : FsWorld} {m : BackupManifest} (e : FsException)
      (prepared : Prepared w directory request m)
      (touches : TouchesId directory m.backupId w w') : SaveEnd w directory request (.error e) w'
  | saved {w' : FsWorld} {m : BackupManifest} (prepared : Prepared w directory request m)
      (touches : TouchesId directory m.backupId w w')
      (saved : Saved w' directory m request.source.data) : SaveEnd w directory request (.ok m) w'

theorem createBackup_saves (uid : Nat) (directory : Path) (request : BackupRequest)
    (clock : Option Moment) (w : FsWorld) :
    (createBackup uid directory request clock).Ensures FsStep w (SaveEnd w directory request) := by
  refine (prepareBackup_prepares uid directory request clock w).bind (fun prepared w₁ h => ?_)
    fun e w₁ h => .refused e h.1.files
  obtain ⟨hquiet, hreturned⟩ := h
  obtain ⟨hprepared, hdata⟩ := hreturned prepared rfl
  obtain ⟨m, data⟩ := prepared
  refine (writePair_ends uid directory m.backupId request.source.data data).catching_bind ?_
  rintro r w₂ ⟨hwritten, hfiles⟩
  have htouches : TouchesId directory m.backupId w w₂ :=
    Touches.trans w w₁ w₂ (touches_of_files hquiet.files) hwritten
  cases r with
  | ok _ =>
    obtain ⟨hyaml, hjson⟩ := hfiles rfl
    have haccepted := hprepared.documents.accepted
    exact ensures_pure.mpr (.saved hprepared htouches ⟨haccepted, hyaml, data, hdata, hjson⟩)
  | error e =>
    refine (conclude_ends uid directory m (.error e) w₂).mono ?_
    rintro r w₃ ⟨hquiet', -, herror⟩
    obtain ⟨e', rfl⟩ := herror e rfl
    exact .failed e' hprepared (Touches.trans w w₂ w₃ htouches (touches_of_files hquiet'.files))

end Aurora.ConfigProfiles
