/-
  What the managed writes leave behind, whatever calls fail.

  `WriteEnd` and `ReplaceEnd` list every way the two writing functions can end.  From them follows
  when the cleanup is complete: always, unless closing the descriptor of the file that was created
  fails.  Then the handlers close it again, or leave out the cleanup that follows.
-/
import Aurora.ConfigProfiles.FilesystemRules

namespace Aurora.ConfigProfiles

open Program

variable {w w' w'' : FsWorld} {α β : Type}

/-! ## How a new file ends -/

/-- Every descriptor the program opened got exactly one close attempt. -/
def Tidy (w w' : FsWorld) : Prop :=
  ∀ d, w.opened ≤ d → d < w'.opened → (w'.records d).closes.length = 1

/-- A close of the descriptor of a file that the program created failed. -/
def CreatedCloseFails (w w' : FsWorld) : Prop :=
  ∃ d, w.opened ≤ d ∧ d < w'.opened ∧ (w'.records d).created = true ∧
    false ∈ (w'.records d).closes

/-- Descriptors are only added. -/
structure Grows (w w' : FsWorld) : Prop where
  opened : w.opened ≤ w'.opened
  old : ∀ d < w.opened, w'.records d = w.records d

/-- Beside quiet steps, a directory was opened and a file created in it, with these attempts to
close the two descriptors. -/
structure Pair (w w' : FsWorld) (d : Nat) (directoryCloses fileCloses : List Bool) :
    Prop where
  start : w.opened ≤ d
  opened : w'.opened = d + 2
  old : ∀ e : Nat, e < w.opened → w'.records e = w.records e
  fresh : ∀ e : Nat, w.opened ≤ e → e < d →
    (w'.records e).created = false ∧ (w'.records e).closes.length = 1
  directory : (w'.records d).created = false ∧ (w'.records d).closes = directoryCloses
  file : (w'.records (d + 1)).created = true ∧ (w'.records (d + 1)).closes = fileCloses

theorem Quiet.tidy (h : Quiet w w') : Tidy w w' := fun d hd hd' => (h.fresh d hd hd').2

/-- Quiet parts close nothing that was created. -/
theorem Quiet.created (h : Quiet w w') : ¬CreatedCloseFails w w' := by
  rintro ⟨d, hd, hd', hcreated, -⟩
  rw [(h.fresh d hd hd').1] at hcreated
  cases hcreated

theorem Quiet.grows (h : Quiet w w') : Grows w w' := ⟨h.opened, h.old⟩

namespace FsWorld

/-- The world after a file was created and got some bytes. -/
def creating (w : FsWorld) (path : Path) (content : Bytes) : FsWorld :=
  (w.opening path true).put path (some content)

/-- Opening, then filling a new file is creating it with that content. -/
theorem creating_eq (w : FsWorld) (path : Path) (content : Bytes) :
    ((w.opening path true).put path (some [])).put path (some content) =
      w.creating path content := put_put ..

end FsWorld

variable {d : Nat} {directoryCloses fileCloses : List Bool}

namespace Pair

theorem grows (h : Pair w w' d directoryCloses fileCloses) : Grows w w' where
  opened := by
    rw [h.opened]
    exact Nat.le_trans h.start (Nat.le_add_right d 2)
  old := h.old

/-- Every descriptor got its one attempt when these two did. -/
theorem tidy_iff (h : Pair w w' d directoryCloses fileCloses) :
    Tidy w w' ↔ directoryCloses.length = 1 ∧ fileCloses.length = 1 := by
  have hstart := h.start
  have hopened := h.opened
  constructor
  · intro htidy
    have hfirst := htidy d hstart (by omega)
    have hsecond := htidy (d + 1) (by omega) (by omega)
    rw [h.directory.2] at hfirst
    rw [h.file.2] at hsecond
    exact ⟨hfirst, hsecond⟩
  · rintro ⟨hfirst, hsecond⟩ e he he'
    have hcases : e < d ∨ e = d ∨ e = d + 1 := by omega
    rcases hcases with hearly | rfl | rfl
    · exact (h.fresh e he hearly).2
    · rw [h.directory.2]
      exact hfirst
    · rw [h.file.2]
      exact hsecond

/-- A close of the created file fails exactly if one of its closes did. -/
theorem created_iff (h : Pair w w' d directoryCloses fileCloses) :
    CreatedCloseFails w w' ↔ false ∈ fileCloses := by
  have hstart := h.start
  have hopened := h.opened
  constructor
  · rintro ⟨e, he, he', hnew, hfails⟩
    have hcases : e < d ∨ e = d ∨ e = d + 1 := by omega
    rcases hcases with hearly | rfl | rfl
    · rw [(h.fresh e he hearly).1] at hnew
      cases hnew
    · rw [h.directory.1] at hnew
      cases hnew
    · rwa [h.file.2] at hfails
  · intro hfails
    exact ⟨d + 1, by omega, by omega, h.file.1, by rwa [h.file.2]⟩

/-- Files and failed removals do not matter for it. -/
theorem of_records {v : FsWorld} (h : Pair w w' d directoryCloses fileCloses)
    (hopened : v.opened = w'.opened) (hrecords : v.records = w'.records) :
    Pair w v d directoryCloses fileCloses := by
  refine ⟨h.start, hopened.trans h.opened, ?_, ?_, ?_, ?_⟩
  · exact hrecords ▸ h.old
  · exact hrecords ▸ h.fresh
  · exact hrecords ▸ h.directory
  · exact hrecords ▸ h.file

/-- The start: both were opened after quiet steps. -/
theorem of_quiet (h : Quiet w w') (directory path : Path) (content : Bytes) :
    Pair w ((w'.opening directory false).creating path content) w'.opened [] [] := by
  have hdirectory : ∀ e : Nat, e ≠ w'.opened + 1 →
      ((w'.opening directory false).creating path content).records e =
        (w'.opening directory false).records e := fun e he => Function.update_of_ne he ..
  have hold : ∀ e : Nat, e < w'.opened → ((w'.opening directory false).creating path content).records e =
      w'.records e := by
    intro e he
    rw [hdirectory e (by omega)]
    exact Function.update_of_ne (Nat.ne_of_lt he) ..
  have hrecord : ((w'.opening directory false).creating path content).records w'.opened =
      ⟨directory, false, 0, []⟩ := by
    rw [hdirectory _ (by omega)]
    exact Function.update_self ..
  have hfile : ((w'.opening directory false).creating path content).records (w'.opened + 1) =
      ⟨path, true, 0, []⟩ := Function.update_self ..
  refine ⟨h.opened, rfl, ?_, ?_, ?_, ?_⟩
  · intro e he
    rw [hold e (Nat.lt_of_lt_of_le he h.opened)]
    exact h.old e he
  · intro e he he'
    rw [hold e he']
    exact h.fresh e he he'
  · rw [hrecord]
    exact ⟨rfl, rfl⟩
  · rw [hfile]
    exact ⟨rfl, rfl⟩

/-- The close of the directory counts for the directory. -/
theorem closeDirectory (h : Pair w w' d directoryCloses fileCloses) (success : Bool) :
    Pair w (w'.closing d success) d (directoryCloses ++ [success]) fileCloses := by
  have hstart := h.start
  have hother : ∀ e : Nat, e ≠ d → (w'.closing d success).records e = w'.records e :=
    fun e he => Function.update_of_ne he ..
  have hself : (w'.closing d success).records d =
      { w'.records d with closes := (w'.records d).closes ++ [success] } := Function.update_self ..
  refine ⟨h.start, h.opened, ?_, ?_, ?_, ?_⟩
  · intro e he
    rw [hother e (by omega)]
    exact h.old e he
  · intro e he he'
    rw [hother e (by omega)]
    exact h.fresh e he he'
  · rw [hself, h.directory.2]
    exact ⟨h.directory.1, rfl⟩
  · rw [hother (d + 1) (by omega)]
    exact h.file

/-- The close of the file counts for the file. -/
theorem closeFile (h : Pair w w' d directoryCloses fileCloses) (success : Bool) :
    Pair w (w'.closing (d + 1) success) d directoryCloses (fileCloses ++ [success]) := by
  have hstart := h.start
  have hother : ∀ e : Nat, e ≠ d + 1 → (w'.closing (d + 1) success).records e = w'.records e :=
    fun e he => Function.update_of_ne he ..
  have hself : (w'.closing (d + 1) success).records (d + 1) =
      { w'.records (d + 1) with closes := (w'.records (d + 1)).closes ++ [success] } :=
    Function.update_self ..
  refine ⟨h.start, h.opened, ?_, ?_, ?_, ?_⟩
  · intro e he
    rw [hother e (by omega)]
    exact h.old e he
  · intro e he he'
    rw [hother e (by omega)]
    exact h.fresh e he he'
  · rw [hother d (by omega)]
    exact h.directory
  · rw [hself, h.file.2]
    exact ⟨h.file.1, rfl⟩

end Pair

/-- How opening and filling a new file ends: the world around a file that was created. -/
inductive OpenEnd (w : FsWorld) (directory path : Path) (data : Bytes) :
    Descriptor × NewFile → FsWorld → Prop
  | refused {w₁ : FsWorld} (e : FsException) (quiet : Quiet w w₁) :
      OpenEnd w directory path data (w₁.opened, .refused e) (w₁.opening directory false)
  | opened {w₁ : FsWorld} (result : Except FsException Unit) (content : Bytes)
      (quiet : Quiet w w₁) (hnew : w.files path = none) (hall : result = .ok () → content = data) :
      OpenEnd w directory path data (w₁.opened, .opened (w₁.opened + 1) result)
        ((w₁.opening directory false).creating path content)

/-- The file was not created, or it was and its filling went well or failed. -/
theorem openAndFill_ends (uid : Nat) (path : Path) (data : Bytes) :
    (openAndFill uid path data).Ensures FsStep w fun r w' =>
      (∃ e, r = .ok (.refused e) ∧ w' = w) ∨
        ∃ result content, r = .ok (.opened w.opened result) ∧ w.files path = none ∧
          w' = w.creating path content ∧ (result = .ok () → content = data) := by
  refine (sys_openNew (Q := fun r w' => (∃ e, r = .error e ∧ w' = w) ∨
    r = .ok w.opened ∧ w.files path = none ∧ w' = (w.opening path true).put path (some []))
    (fun hnew => .inr ⟨rfl, hnew, rfl⟩) fun e => .inl ⟨e, rfl, rfl⟩).catching_bind ?_
  rintro r w' (⟨e, rfl, rfl⟩ | ⟨rfl, hnew, rfl⟩)
  · exact ensures_pure.mpr (.inl ⟨e, rfl, rfl⟩)
  · dsimp only
    have hrecord : ((w.opening path true).put path (some [])).records w.opened =
        ⟨path, true, 0, []⟩ := Function.update_self ..
    have hempty : ((w.opening path true).put path (some [])).files
        (((w.opening path true).put path (some [])).records w.opened).path = some [] := by
      rw [hrecord]
      exact FsWorld.put_files_self ..
    refine (fillNewFile_fills uid w.opened data hempty).catching_bind ?_
    rintro r w' ⟨content, rfl, hall⟩
    rw [hrecord, FsWorld.creating_eq]
    exact ensures_pure.mpr (.inr ⟨r, content, rfl, hnew, rfl, hall⟩)

/-- The state after the file was opened, below its checked directory. -/
theorem openNewFile_ends (uid : Nat) (directory : Path) (name : String) (data : Bytes) :
    (openNewFile uid directory name data).Ensures FsStep w fun
      | .ok p, w' => OpenEnd w directory (directory ++ [name]) data p w'
      | .error _, w' => Quiet w w' := by
  refine (keeps_validateDirectory uid directory true w).bind (fun _ w₁ hquiet => ?_)
    fun e w₁ hquiet => hquiet
  refine ensures_bind.mpr (ensures_ofExcept.mpr ?_)
  cases requireSimpleName name with
  | error e => exact hquiet
  | ok _ =>
    refine ensures_bind.mpr (sys_openDirectory ?_ fun e => hquiet)
    refine (openAndFill_ends uid (directory ++ [name]) data).bind ?_ ?_
    · rintro p w₂ (⟨e, hp, rfl⟩ | ⟨result, content, hp, hnew, rfl, hall⟩)
      · cases hp
        exact ensures_pure.mpr (.refused e hquiet)
      · cases hp
        exact ensures_pure.mpr (.opened result content hquiet (hquiet.files ▸ hnew) hall)
    · rintro e w₂ (⟨e, hp, -⟩ | ⟨result, content, hp, -⟩) <;> cases hp

/-- How `write_new_file` ends, for a file that was filled or not. -/
inductive WriteEnd (w : FsWorld) (path : Path) (data : Bytes) (filled : Bool) :
    Except FsException Unit → FsWorld → Prop
  /-- Nothing was created. -/
  | refused {w' : FsWorld} (e : FsException) (hfilled : filled = false) (quiet : Quiet w w') :
      WriteEnd w path data filled (.error e) w'
  | removed {w' : FsWorld} {d : Nat} {b : Bool} (e : FsException) (hfilled : filled = false)
      (hnew : w.files path = none) (pair : Pair w w' d [b] [true]) (files : w'.files = w.files)
      (failedUnlinks : w'.failedUnlinks = w.failedUnlinks) : WriteEnd w path data filled (.error e) w'
  | kept {w' : FsWorld} {d : Nat} {b : Bool} (e : FsException) (content : Bytes)
      (hfilled : filled = false) (hnew : w.files path = none) (pair : Pair w w' d [b] [true])
      (files : w'.files = Function.update w.files path (some content))
      (failedUnlinks : w'.failedUnlinks = path :: w.failedUnlinks) :
      WriteEnd w path data filled (.error e) w'
  /-- The file is complete; only the close of the directory may have failed. -/
  | written {w' : FsWorld} {d : Nat} {b : Bool} (r : Except FsException Unit)
      (hfilled : filled = true) (hnew : w.files path = none) (pair : Pair w w' d [b] [true])
      (hr : r = .ok () ↔ b = true)
      (files : w'.files = Function.update w.files path (some data))
      (failedUnlinks : w'.failedUnlinks = w.failedUnlinks) : WriteEnd w path data filled r w'
  /-- A close of the file failed. -/
  | leaked {w' : FsWorld} {d : Nat} {directoryCloses fileCloses : List Bool} (e : FsException)
      (content : Bytes) (hnew : w.files path = none)
      (pair : Pair w w' d directoryCloses fileCloses) (hfails : false ∈ fileCloses)
      (huntidy : ¬(directoryCloses.length = 1 ∧ fileCloses.length = 1))
      (files : w'.files = Function.update w.files path (some content))
      (failedUnlinks : w'.failedUnlinks = w.failedUnlinks) :
      WriteEnd w path data filled (.error e) w'

/-- The close, and the removal of a file that was not filled. -/
theorem finishNewFile_ends {directory path : Path} {data : Bytes} {p : Descriptor × NewFile}
    (h : OpenEnd w directory path data p w') :
    (finishNewFile path p.1 p.2).Ensures FsStep w' (WriteEnd w path data p.2.filled) := by
  cases h with
  | @refused w₁ e hquiet =>
    have hclosed := fun b => Quiet.trans _ _ _ hquiet
      (quiet_of_reads (Reads.refl _ (w₁.opening directory false)) b)
    refine ensures_bind.mpr (ensures_pure.mpr ?_)
    refine ensures_bind.mpr (ensures_pure.mpr ?_)
    refine ensures_bind.mpr (sys_close ?_ fun e => .refused _ rfl (hclosed false))
    exact ensures_ofExcept.mpr (.refused _ rfl (hclosed true))
  | @opened w₁ result content hquiet hnew hall =>
    have hcreated : ((w₁.opening directory false).creating path content).files =
        Function.update w.files path (some content) := by
      show Function.update w₁.files _ _ = _
      rw [hquiet.files]
    have hpair := Pair.of_quiet hquiet directory path content
    have hunlinks := hquiet.failedUnlinks
    -- a filled file is closed and stays, one that was not filled is closed and unlinked
    cases result with
    | ok _ =>
      obtain rfl := hall rfl
      refine ensures_bind.mpr (ensures_pure.mpr ?_)
      refine ensures_bind.mpr (sys_close ?_ fun e => ?_)
      · have hfile := hpair.closeFile true
        refine ensures_bind.mpr (sys_close ?_ fun e => ?_)
        · exact .written _ rfl hnew (hfile.closeDirectory true) (iff_of_true rfl rfl) hcreated
            hunlinks
        · exact .written _ rfl hnew (hfile.closeDirectory false) (iff_of_false nofun nofun)
            hcreated hunlinks
      · exact .leaked e content hnew (hpair.closeFile false) (by simp) (by simp) hcreated hunlinks
    | error e =>
      refine ensures_bind.mpr (ensures_bind.mpr (ensures_catching.mpr (sys_close ?_ fun e => ?_)))
      -- the close failed and is tried once more, which closes the descriptor twice
      · have hfile := hpair.closeFile true
        refine ensures_bind.mpr (attempt_unlink ?_ fun _ => ?_)
        · have hsame : ((((w₁.opening directory false).creating path content).closing
              (w₁.opened + 1) true).put path none).files = w.files := by
            show Function.update ((w₁.opening directory false).creating path content).files _ none = _
            rw [hcreated, Function.update_idem, ← hnew, Function.update_eq_self]
          have hput := hfile.of_records (v := (((w₁.opening directory false).creating path
            content).closing (w₁.opened + 1) true).put path none) rfl rfl
          refine ensures_bind.mpr (ensures_pure.mpr ?_)
          refine ensures_bind.mpr (sys_close ?_ fun e => ?_)
          · exact .removed _ rfl hnew (hput.closeDirectory true) hsame hunlinks
          · exact .removed _ rfl hnew (hput.closeDirectory false) hsame hunlinks
        · have hkept := hfile.of_records (v := (((w₁.opening directory false).creating path
            content).closing (w₁.opened + 1) true).keeping path) rfl rfl
          have hkeeps := congrArg (path :: ·) hunlinks
          refine ensures_bind.mpr (ensures_pure.mpr ?_)
          refine ensures_bind.mpr (sys_close ?_ fun e => ?_)
          · exact .kept _ content rfl hnew (hkept.closeDirectory true) hcreated hkeeps
          · exact .kept _ content rfl hnew (hkept.closeDirectory false) hcreated hkeeps
      · have hfile := hpair.closeFile false
        refine ensures_bind.mpr (sys_close ?_ fun e => ?_)
        · have hagain := hfile.closeFile true
          refine ensures_bind.mpr (sys_close ?_ fun e => ?_)
          · exact .leaked _ content hnew (hagain.closeDirectory true) (by simp) (by simp) hcreated
              hunlinks
          · exact .leaked _ content hnew (hagain.closeDirectory false) (by simp) (by simp) hcreated
              hunlinks
        · exact .leaked e content hnew (hfile.closeFile false) (by simp) (by simp) hcreated hunlinks

theorem writeNewFile_ends (uid : Nat) (directory : Path) (name : String) (data : Bytes) :
    (writeNewFile uid directory name data).Ensures FsStep w fun r w' =>
      ∃ filled, WriteEnd w (directory ++ [name]) data filled r w' := by
  refine (openNewFile_ends uid directory name data).bind (fun p w' hopen => ?_)
    fun e w' hquiet => ⟨false, .refused e rfl hquiet⟩
  exact (finishNewFile_ends hopen).mono fun r w'' hend => ⟨p.2.filled, hend⟩

/-! ## How a replacement ends -/

/-- The check of an identity changes nothing. -/
theorem keeps_requireIdentity (destination : Path) (expected : Option FileIdentity)
    (check : Stat → Except FsException Unit) :
    (requireIdentity destination expected check).Keeps FsStep Eq := by
  intro w
  cases expected with
  | none => exact ensures_pure.mpr rfl
  | some identity =>
    refine ensures_bind.mpr (sys_passive (by trivial) fun r => ?_)
    cases r with
    | error e => exact rfl
    | ok current =>
      refine ensures_bind.mpr (ensures_ofExcept.mpr ?_)
      cases check current with
      | error e => exact rfl
      | ok _ =>
        dsimp only
        split
        · exact ensures_raise.mpr rfl
        · exact ensures_pure.mpr rfl

/-- The name of a temporary file that was free. -/
def FreshTemporary (w : FsWorld) (parent path : Path) : Prop :=
  (∃ token, path = parent ++ [temporaryName token]) ∧ w.files path = none

/-- An attempt that finds its name taken leaves everything to the next one. -/
theorem createTemporary_ends (parent : Path) (attempts : Nat) :
    (createTemporary parent attempts).Ensures FsStep w fun r w' =>
      (∃ e, r = .error e ∧ w' = w) ∨
        ∃ path, r = .ok (w.opened, path) ∧ FreshTemporary w parent path ∧
          w' = w.creating path [] := by
  induction attempts with
  | zero => exact ensures_raise.mpr (.inl ⟨_, rfl, rfl⟩)
  | succ attempts ih =>
    refine ensures_bind.mpr (sys_token (fun token => ?_) fun e => Or.inl ⟨_, rfl, rfl⟩)
    dsimp only
    split
    case isFalse => exact ensures_raise.mpr (.inl ⟨_, rfl, rfl⟩)
    case isTrue =>
      refine ensures_bind.mpr (attempt_openNew (fun hnew => ?_) fun e => ?_)
      · exact ensures_pure.mpr (.inr ⟨_, rfl, ⟨⟨token, rfl⟩, hnew⟩, rfl⟩)
      · cases e with
        | fileExists => exact ih
        | fileNotFound => exact Or.inl ⟨_, rfl, rfl⟩
        | blocking => exact Or.inl ⟨_, rfl, rfl⟩
        | other => exact Or.inl ⟨_, rfl, rfl⟩

/-- How the attempt to replace a file ends. -/
inductive ReplaceAttemptEnd (w : FsWorld) (parent destination : Path) (data : Bytes) :
    Except FsException Unit × ReplaceLocals → FsWorld → Prop
  | refused (e : FsException) :
      ReplaceAttemptEnd w parent destination data (.error e, ⟨none, none, false⟩) w
  | unfilled (e : FsException) {path : Path} (content : Bytes)
      (hfresh : FreshTemporary w parent path) :
      ReplaceAttemptEnd w parent destination data (.error e, ⟨some w.opened, some path, false⟩)
        (w.creating path content)
  | unclosed (e : FsException) {path : Path} (hfresh : FreshTemporary w parent path) :
      ReplaceAttemptEnd w parent destination data (.error e, ⟨some w.opened, some path, false⟩)
        ((w.creating path data).closing w.opened false)
  | unpublished (e : FsException) {path : Path} (hfresh : FreshTemporary w parent path) :
      ReplaceAttemptEnd w parent destination data (.error e, ⟨none, some path, false⟩)
        ((w.creating path data).closing w.opened true)
  | published (r : Except OsError Unit) {path : Path} (hfresh : FreshTemporary w parent path) :
      ReplaceAttemptEnd w parent destination data (r.mapError .os, ⟨none, none, true⟩)
        ((((w.creating path data).closing w.opened true).put path none).put destination (some data))

/-- How one attempt at a replacement ends, its locals included. -/
theorem replaceAttempt_ends (uid : Nat) (parent : Path) (name : String) (data : Bytes)
    (expected : Option FileIdentity) (directory : Descriptor) :
    (replaceAttempt uid parent name data expected directory).Ensures FsStep w fun r w' =>
      ∃ p, r = .ok p ∧ ReplaceAttemptEnd w parent (parent ++ [name]) data p w' := by
  -- up to the temporary file, which is new
  have hstart : (do
      requireIdentity (parent ++ [name]) expected fun current =>
        validateFileStat uid current (max data.length current.size)
      createTemporary parent collisionAttempts : Fs _).Ensures FsStep w fun r w' =>
        (∃ e, r = .error e ∧ w' = w) ∨
          ∃ path, r = .ok (w.opened, path) ∧ FreshTemporary w parent path ∧
            w' = w.creating path [] := by
    refine (keeps_requireIdentity _ expected _ w).bind ?_ ?_
    · rintro _ w' rfl
      exact createTemporary_ends parent collisionAttempts
    · rintro e w' rfl
      exact .inl ⟨e, rfl, rfl⟩
  refine hstart.catching_bind ?_
  rintro r w' (⟨e, rfl, rfl⟩ | ⟨path, rfl, hfresh, rfl⟩)
  · exact ensures_pure.mpr ⟨_, rfl, .refused e⟩
  have hrecord : (w.creating path []).records w.opened = ⟨path, true, 0, []⟩ :=
    Function.update_self ..
  have hempty : (w.creating path []).files ((w.creating path []).records w.opened).path =
      some [] := by
    rw [hrecord]
    exact FsWorld.put_files_self ..
  -- the file is filled and closed; only then may it be published
  have hfill : (do
      fillNewFile uid w.opened data
      sys (.close w.opened) : Fs _).Ensures FsStep (w.creating path []) fun r w' =>
        (∃ e content, r = .error e ∧ w' = w.creating path content) ∨
        (∃ e, r = .error e ∧ w' = (w.creating path data).closing w.opened false) ∨
          r = .ok () ∧ w' = (w.creating path data).closing w.opened true := by
    refine (fillNewFile_fills uid w.opened data hempty).bind ?_ ?_
    · rintro _ w' ⟨content, rfl, hall⟩
      rw [hrecord, hall rfl]
      rw [show (w.creating path []).put path (some data) = w.creating path data from
        FsWorld.put_put ..]
      exact sys_close (.inr (.inr ⟨rfl, rfl⟩)) fun e => .inr (.inl ⟨e, rfl, rfl⟩)
    · rintro e w' ⟨content, rfl, -⟩
      rw [hrecord]
      exact .inl ⟨e, content, rfl, FsWorld.put_put ..⟩
  dsimp only
  refine hfill.catching_bind ?_
  rintro r w' (⟨e, content, rfl, rfl⟩ | ⟨e, rfl, rfl⟩ | ⟨rfl, rfl⟩)
  · exact ensures_pure.mpr ⟨_, rfl, .unfilled e content hfresh⟩
  · exact ensures_pure.mpr ⟨_, rfl, .unclosed e hfresh⟩
  -- the rename is the one step that touches the destination
  have hpublish : (do
      requireIdentity (parent ++ [name]) expected fun _ => .ok ()
      sys (.replace path (parent ++ [name])) : Fs _).Ensures FsStep
        ((w.creating path data).closing w.opened true) fun r w' =>
          (∃ e, r = .error e ∧ w' = (w.creating path data).closing w.opened true) ∨
          r = .ok () ∧ w' = (((w.creating path data).closing w.opened true).put path none).put
            (parent ++ [name]) (some data) := by
    refine (keeps_requireIdentity _ expected _ _).bind ?_ ?_
    · rintro _ w' rfl
      refine sys_replace (.inr ⟨rfl, ?_⟩) fun e => .inl ⟨e, rfl, rfl⟩
      rw [show ((w.creating path data).closing w.opened true).files path = some data from
        FsWorld.put_files_self ..]
    · rintro e w' rfl
      exact .inl ⟨e, rfl, rfl⟩
  dsimp only
  refine hpublish.catching_bind ?_
  rintro r w' (⟨e, rfl, rfl⟩ | ⟨rfl, rfl⟩)
  · exact ensures_pure.mpr ⟨_, rfl, .unpublished e hfresh⟩
  · dsimp only
    refine ensures_bind.mpr (ensures_catching.mpr (sys_passive (by trivial) fun r => ?_))
    exact ensures_pure.mpr ⟨_, rfl, .published r hfresh⟩

/-- The created file is gone, or is still there because its removal failed. -/
def Removed (w : FsWorld) (path : Path) (content : Bytes) (w' : FsWorld) : Prop :=
  w'.files = w.files ∧ w'.failedUnlinks = w.failedUnlinks ∨
    w'.files = Function.update w.files path (some content) ∧
      w'.failedUnlinks = path :: w.failedUnlinks

/-- Removing the file that was created overwrites no other. -/
theorem Removed.keeps {path : Path} {content : Bytes} (h : Removed w path content w')
    (hfree : w.files path = none) {p : Path} (hp : w.files p ≠ none) :
    w'.files p = w.files p := by
  rcases h with ⟨hfiles, -⟩ | ⟨hfiles, -⟩
  · rw [hfiles]
  · rw [hfiles, Function.update_of_ne]
    rintro rfl
    exact hp hfree

/-- The cleanup of a temporary file whose descriptor was dealt with. -/
theorem removal_ends {d : Nat} {fileCloses : List Bool} {path : Path} {content : Bytes}
    {e : FsException} (hpair : Pair w w' d [] fileCloses) (hfree : w.files path = none)
    (hfiles : w'.files = Function.update w.files path (some content))
    (hunlinks : w'.failedUnlinks = w.failedUnlinks) :
    (do
      unlinkIfSome (some path)
      sys (.close d)
      ofExcept (.error e) : Fs Unit).Ensures FsStep w' fun r w'' =>
        ∃ e b, r = .error e ∧ Pair w w'' d [b] fileCloses ∧ Removed w path content w'' := by
  have hclose : ∀ w'', Pair w w'' d [] fileCloses →
      (∀ b, Removed w path content (w''.closing d b)) →
      (do
        sys (.close d)
        ofExcept (.error e) : Fs Unit).Ensures FsStep w'' fun r w'' =>
          ∃ e b, r = .error e ∧ Pair w w'' d [b] fileCloses ∧ Removed w path content w'' := by
    intro w'' hpair'' hremoved
    refine ensures_bind.mpr (sys_close ?_ fun e => ?_)
    · exact ⟨e, true, rfl, hpair''.closeDirectory true, hremoved true⟩
    · exact ⟨_, false, rfl, hpair''.closeDirectory false, hremoved false⟩
  refine ensures_bind.mpr (ensures_bind.mpr (attempt_unlink ?_ fun _ => ?_))
  · refine hclose _ (hpair.of_records rfl rfl) fun _ => .inl ⟨?_, hunlinks⟩
    show Function.update w'.files path none = w.files
    rw [hfiles, Function.update_idem, ← hfree, Function.update_eq_self]
  · refine hclose _ (hpair.of_records rfl rfl) fun _ => .inr ⟨hfiles, ?_⟩
    show path :: w'.failedUnlinks = _
    rw [hunlinks]

/-- How `atomic_replace` ends. -/
inductive ReplaceEnd (w : FsWorld) (parent destination : Path) (data : Bytes) :
    Except FsException Unit → FsWorld → Prop
  /-- Nothing was created. -/
  | refused {w' : FsWorld} (e : FsException) (quiet : Quiet w w') :
      ReplaceEnd w parent destination data (.error e) w'
  | removed {w' : FsWorld} {d : Nat} {b : Bool} {path : Path} (e : FsException) (content : Bytes)
      (hfresh : FreshTemporary w parent path) (pair : Pair w w' d [b] [true])
      (hremoved : Removed w path content w') : ReplaceEnd w parent destination data (.error e) w'
  /-- The target holds the bytes.  Only a failed close of the directory hides it. -/
  | published {w' : FsWorld} {d : Nat} {b : Bool} (r : Except FsException Unit)
      (pair : Pair w w' d [b] [true])
      (hr : b = true → r = .ok () ∨ r = .error (.atomicWrite true))
      (files : w'.files = Function.update w.files destination (some data))
      (failedUnlinks : w'.failedUnlinks = w.failedUnlinks) :
      ReplaceEnd w parent destination data r w'
  /-- A close of the temporary file failed. -/
  | leaked {w' : FsWorld} {d : Nat} {directoryCloses fileCloses : List Bool} (e : FsException)
      (pair : Pair w w' d directoryCloses fileCloses) (hfails : false ∈ fileCloses)
      (huntidy : ¬(directoryCloses.length = 1 ∧ fileCloses.length = 1))
      (hkeeps : ∀ p, w.files p ≠ none → w'.files p = w.files p) :
      ReplaceEnd w parent destination data (.error e) w'

theorem atomicReplace_ends (uid : Nat) (parent : Path) (name : String) (data : Bytes)
    (expected : Option FileIdentity) :
    (atomicReplace uid parent name data expected).Ensures FsStep w
      (ReplaceEnd w parent (parent ++ [name]) data) := by
  refine (keeps_validateDirectory uid parent false w).bind (fun _ w₁ hquiet => ?_)
    fun e w₁ hquiet => .refused e hquiet
  refine ensures_bind.mpr (ensures_ofExcept.mpr ?_)
  cases requireSimpleName name with
  | error e => exact .refused e hquiet
  | ok _ =>
    refine ensures_bind.mpr (sys_openDirectory ?_ fun e => .refused _ hquiet)
    refine (replaceAttempt_ends uid parent name data expected w₁.opened).bind ?_ ?_
    · rintro p w₂ ⟨_, ⟨⟩, hend⟩
      have hcreated : ∀ path content,
          ((w₁.opening parent false).creating path content).files =
            Function.update w.files path (some content) := by
        intro path content
        show Function.update w₁.files _ _ = _
        rw [hquiet.files]
      have hpair := fun path content => Pair.of_quiet hquiet parent path content
      have hkeeps : ∀ path content p, w.files path = none → w.files p ≠ none →
          ((w₁.opening parent false).creating path content).files p = w.files p := by
        intro path content p hnone hp
        rw [hcreated path content, Function.update_of_ne]
        rintro rfl
        exact hp hnone
      have hfree : ∀ {path}, FreshTemporary (w₁.opening parent false) parent path →
          FreshTemporary w parent path := fun h => ⟨h.1, hquiet.files ▸ h.2⟩
      -- one case for each point the attempt may have reached, then the close of the directory
      cases hend with
      | refused e =>
        have hclosed := fun b => Quiet.trans _ _ _ hquiet
          (quiet_of_reads (Reads.refl _ (w₁.opening parent false)) b)
        refine ensures_bind.mpr (ensures_pure.mpr ?_)
        refine ensures_bind.mpr (ensures_pure.mpr ?_)
        refine ensures_bind.mpr (sys_close ?_ fun e => .refused _ (hclosed false))
        exact ensures_ofExcept.mpr (.refused _ (hclosed true))
      | unfilled e content hfresh =>
        refine ensures_bind.mpr (sys_close ?_ fun e => ?_)
        · refine (removal_ends ((hpair _ content).closeFile true) (hfree hfresh).2
            (hcreated _ content) hquiet.failedUnlinks).mono ?_
          rintro r w'' ⟨e, b, rfl, hend, hremoved⟩
          exact .removed e content (hfree hfresh) hend hremoved
        · exact .leaked _ ((hpair _ content).closeFile false) (by simp) (by simp)
            fun p => hkeeps _ content p (hfree hfresh).2
      | @unclosed e path hfresh =>
        have hfile := (hpair path data).closeFile false
        refine ensures_bind.mpr (sys_close ?_ fun e => ?_)
        · refine (removal_ends (hfile.closeFile true) (hfree hfresh).2 (hcreated _ data)
            hquiet.failedUnlinks).mono ?_
          rintro r w'' ⟨e, b, rfl, hend, hremoved⟩
          exact .leaked e hend (by simp) (by simp) fun p => hremoved.keeps (hfree hfresh).2
        · exact .leaked _ (hfile.closeFile false) (by simp) (by simp)
            fun p => hkeeps path data p (hfree hfresh).2
      | unpublished e hfresh =>
        refine ensures_bind.mpr (ensures_pure.mpr ?_)
        refine (removal_ends ((hpair _ data).closeFile true) (hfree hfresh).2 (hcreated _ data)
          hquiet.failedUnlinks).mono ?_
        rintro r w'' ⟨e, b, rfl, hend, hremoved⟩
        exact .removed e data (hfree hfresh) hend hremoved
      | @published r path hfresh =>
        have hfile := (hpair path data).closeFile true
        have hfiles : (((((w₁.opening parent false).creating path data).closing
            (w₁.opened + 1) true).put path none).put (parent ++ [name]) (some data)).files =
              Function.update w.files (parent ++ [name]) (some data) := by
          show Function.update (Function.update ((w₁.opening parent false).creating path
            data).files path none) _ _ = _
          rw [hcreated path data, Function.update_idem, ← (hfree hfresh).2,
            Function.update_eq_self]
        have hput := hfile.of_records (v := ((((w₁.opening parent false).creating path
          data).closing (w₁.opened + 1) true).put path none).put (parent ++ [name]) (some data))
            rfl rfl
        refine ensures_bind.mpr (ensures_pure.mpr ?_)
        refine ensures_bind.mpr (ensures_pure.mpr ?_)
        refine ensures_bind.mpr (sys_close ?_ fun e => ?_)
        · refine ensures_ofExcept.mpr
            (.published _ (hput.closeDirectory true) (fun _ => ?_) hfiles hquiet.failedUnlinks)
          cases r with
          | ok _ => exact .inl rfl
          | error e => exact .inr rfl
        · exact .published _ (hput.closeDirectory false) nofun hfiles hquiet.failedUnlinks
    · rintro e w₂ ⟨_, ⟨⟩, -⟩

/-! ## Cleaning up -/

/-- An attempt to remove the file failed meanwhile. -/
def UnlinkFails (w w' : FsWorld) (path : Path) : Prop :=
  ∃ failed, w'.failedUnlinks = failed ++ w.failedUnlinks ∧ path ∈ failed

/-- Every file is as it was, but the target may hold all the bytes, and one of the files that the
program makes on the way may be left when its removal failed. -/
def Leaves (w w' : FsWorld) (Made : Path → Prop) (target : Path) (data : Bytes) : Prop :=
  ∀ path, w'.files path = w.files path ∨ path = target ∧ w'.files path = some data ∨
    Made path ∧ w.files path = none ∧ UnlinkFails w w' path

/-- Every descriptor was closed once and no part of a file remains that could be removed. -/
def CleansUp (w w' : FsWorld) (Made : Path → Prop) (target : Path) (data : Bytes) : Prop :=
  Tidy w w' ∧ Leaves w w' Made target data

/-- A write that never created its file has nothing to clean up. -/
theorem Quiet.cleansUp (h : Quiet w w') (Made : Path → Prop) (target : Path) (data : Bytes) :
    CleansUp w w' Made target data :=
  ⟨h.tidy, fun path => .inl (congrFun h.files path)⟩

/-- One file changed, and either it is the complete target or its removal failed. -/
theorem leaves_of_update {Made : Path → Prop} {target path : Path} {data content : Bytes}
    (hfiles : w'.files = Function.update w.files path (some content))
    (h : path = target ∧ content = data ∨
      Made path ∧ w.files path = none ∧ UnlinkFails w w' path) :
    Leaves w w' Made target data := by
  intro other
  by_cases hother : other = path
  · subst hother
    rcases h with ⟨rfl, rfl⟩ | hkept
    · exact .inr (.inl ⟨rfl, by rw [hfiles, Function.update_self]⟩)
    · exact .inr (.inr hkept)
  · exact .inl (by rw [hfiles, Function.update_of_ne hother])

/-- A created file that was removed again is not left. -/
theorem Removed.leaves {Made : Path → Prop} {target path : Path} {data content : Bytes}
    (h : Removed w path content w') (hmade : Made path) (hfree : w.files path = none) :
    Leaves w w' Made target data := by
  rcases h with ⟨hfiles, -⟩ | ⟨hfiles, hunlinks⟩
  · exact fun other => .inl (congrFun hfiles other)
  · exact leaves_of_update hfiles (.inr ⟨hmade, hfree, [path], hunlinks, by simp⟩)

variable {path parent destination : Path} {data : Bytes} {filled : Bool}
  {r : Except FsException Unit}

/-- A write cleans up exactly if no close of its file failed. -/
theorem WriteEnd.cleansUp_iff (h : WriteEnd w path data filled r w') :
    CleansUp w w' (· = path) path data ↔ ¬CreatedCloseFails w w' := by
  cases h with
  | refused e hfilled quiet => exact iff_of_true (quiet.cleansUp _ _ _) quiet.created
  | removed e hfilled hnew pair files failedUnlinks =>
    refine iff_of_true ⟨pair.tidy_iff.mpr ⟨rfl, rfl⟩, ?_⟩ (by simp [pair.created_iff])
    have hremoved : Removed w path [] w' := .inl ⟨files, failedUnlinks⟩
    exact hremoved.leaves rfl hnew
  | kept e content hfilled hnew pair files failedUnlinks =>
    refine iff_of_true ⟨pair.tidy_iff.mpr ⟨rfl, rfl⟩, ?_⟩ (by simp [pair.created_iff])
    exact Removed.leaves (.inr ⟨files, failedUnlinks⟩) rfl hnew
  | written r hfilled hnew pair hr files failedUnlinks =>
    refine iff_of_true ⟨pair.tidy_iff.mpr ⟨rfl, rfl⟩, ?_⟩ (by simp [pair.created_iff])
    exact leaves_of_update files (.inl ⟨rfl, rfl⟩)
  | leaked e content hnew pair hfails huntidy files failedUnlinks =>
    refine iff_of_false (fun hclean => huntidy (pair.tidy_iff.mp hclean.1)) ?_
    exact not_not_intro (pair.created_iff.mpr hfails)

/-- So does a replacement, for its temporary file. -/
theorem ReplaceEnd.cleansUp_iff (h : ReplaceEnd w parent destination data r w') :
    CleansUp w w' (FreshTemporary w parent) destination data ↔ ¬CreatedCloseFails w w' := by
  cases h with
  | refused e quiet => exact iff_of_true (quiet.cleansUp _ _ _) quiet.created
  | removed e content hfresh pair hremoved =>
    refine iff_of_true ⟨pair.tidy_iff.mpr ⟨rfl, rfl⟩, ?_⟩ (by simp [pair.created_iff])
    exact hremoved.leaves hfresh hfresh.2
  | published r pair hr files failedUnlinks =>
    refine iff_of_true ⟨pair.tidy_iff.mpr ⟨rfl, rfl⟩, ?_⟩ (by simp [pair.created_iff])
    exact leaves_of_update files (.inl ⟨rfl, rfl⟩)
  | leaked e pair hfails huntidy hkeeps =>
    refine iff_of_false (fun hclean => huntidy (pair.tidy_iff.mp hclean.1)) ?_
    exact not_not_intro (pair.created_iff.mpr hfails)

/-- The cleanup is complete exactly when no close of the created file's descriptor fails. -/
theorem managed_writes_clean_up_iff (w : FsWorld) (uid : Nat) (directory : Path) (name : String)
    (data : Bytes) :
    (∀ x : Execution FsStep (writeNewFile uid directory name data) w,
      CleansUp w x.final (· = directory ++ [name]) (directory ++ [name]) data ↔
        ¬CreatedCloseFails w x.final) ∧
    ∀ (expected : Option FileIdentity)
      (x : Execution FsStep (atomicReplace uid directory name data expected) w),
      CleansUp w x.final (FreshTemporary w directory) (directory ++ [name]) data ↔
        ¬CreatedCloseFails w x.final :=
  ⟨fun x => ((writeNewFile_ends uid directory name data).execution x).elim fun _ h => h.cleansUp_iff,
    fun expected x =>
      ((atomicReplace_ends uid directory name data expected).execution x).cleansUp_iff⟩

/-! The mode of the new file cannot be set and its descriptor cannot be closed: the handler gives
up, and the cleanup closes the descriptor once more. -/

/-- A world without files. -/
def emptyWorld : FsWorld := ⟨fun _ => none, 0, fun _ => ⟨[], false, 0, []⟩, []⟩

/-- The directory of the backups. -/
def backupsStat : Stat := ⟨.directory, directoryMode, 2, 0, 1, 1, 0, 0⟩

/-- The directory cannot be closed. -/
def closeFailure : List FsExchange :=
  [⟨.lstat ["backups"], .ok backupsStat⟩, ⟨.lstat ["backups"], .ok backupsStat⟩,
    ⟨.openDirectory ["backups"], .ok (0 : Nat)⟩, ⟨.fstat (0 : Nat), .ok backupsStat⟩,
    ⟨.close (0 : Nat), .ok ()⟩, ⟨.lstat ["backups"], .ok backupsStat⟩,
    ⟨.openDirectory ["backups"], .ok (1 : Nat)⟩, ⟨.openNew ["backups", "new.yaml"], .ok (2 : Nat)⟩,
    ⟨.fchmod (2 : Nat), .error .other⟩, ⟨.close (2 : Nat), .error .other⟩,
    ⟨.close (2 : Nat), .ok ()⟩, ⟨.close (1 : Nat), .ok ()⟩]

/-- The calls of a write whose file closes with an error. -/
theorem closeFailure_runs :
    Runs (writeNewFile 0 ["backups"] "new.yaml" [1]) closeFailure (.error (.os .other)) :=
  .call _ <| .call _ <| .call _ <| .call _ <| .call _ <| .call _ <| .call _ <| .call _ <|
    .call _ <| .call _ <| .call _ <| .call _ <| .raise _

theorem failing_close_closes_twice :
    ∃ x : Execution FsStep (writeNewFile 0 ["backups"] "new.yaml" [1]) emptyWorld,
      x.transcript = closeFailure ∧
        ¬CleansUp emptyWorld x.final (· = ["backups", "new.yaml"]) ["backups", "new.yaml"] [1] := by
  refine ⟨⟨closeFailure, _, _, closeFailure_runs, .cons (.lstat _ _ nofun) <|
    .cons (.lstat _ _ nofun) <| .cons (.openDirectory _) <|
    .cons (.passive (by trivial) _) <| .cons (.close _) <| .cons (.lstat _ _ nofun) <|
    .cons (.openDirectory _) <| .cons (.openNew rfl) <| .cons (.passive (by trivial) _) <|
    .cons (.closeFailed _ _) <| .cons (.close _) <| .cons (.close _) <| .nil _⟩, rfl, ?_⟩
  rintro ⟨htidy, -⟩
  have htwice : 2 = 1 := htidy 2 (Nat.zero_le 2) (by decide)
  cases htwice

end Aurora.ConfigProfiles
