/-
  Rules for the calls of the filesystem boundary, and the programs that leave nothing behind.

  The functions that only look at the filesystem are quiet: they change no file and close what they
  open.  The ones that fill a new file change that file and nothing else.
-/
import Aurora.ConfigProfiles.Filesystem

namespace Aurora.ConfigProfiles

open Program

variable {w w' w'' : FsWorld} {α β : Type}

/-! ## One call -/

/-- A passive call leaves the world alone, whatever it answers. -/
theorem sys_passive {c : FsCall} (hc : c.Passive)
    {Q : Except FsException (FsValue c) → FsWorld → Prop}
    (h : ∀ r : Except OsError (FsValue c), Q (r.mapError .os) w) :
    (sys c).Ensures FsStep w Q := by
  refine ensures_invoke.mpr fun answer w' hstep => ?_
  cases hstep with
  | passive => exact h _
  | refused => exact h _
  | _ => exact hc.elim

theorem sys_lstat {path : Path} {Q : Except FsException Stat → FsWorld → Prop}
    (h : ∀ r : Except OsError Stat, Q (r.mapError .os) w) :
    (sys (.lstat path)).Ensures FsStep w Q := by
  refine ensures_invoke.mpr fun answer w' hstep => ?_
  cases hstep with
  | passive hc => exact hc.elim
  | refused hc => exact hc.elim
  | lstat => exact h _

/-- An entry reported missing is missing. -/
theorem attempt_lstat {path : Path} {Q : Except FsException (Except OsError Stat) → FsWorld → Prop}
    (h : ∀ r, (r = .error .fileNotFound → w.files path = none) → Q (.ok r) w) :
    (attempt (.lstat path)).Ensures FsStep w Q := by
  refine ensures_ask.mpr fun answer w' hstep => ?_
  cases hstep with
  | passive hc => exact hc.elim
  | refused hc => exact hc.elim
  | lstat _ _ hmissing => exact h _ hmissing

theorem attempt_passive {c : FsCall} (hc : c.Passive)
    {Q : Except FsException (Except OsError (FsValue c)) → FsWorld → Prop}
    (h : ∀ r, Q (.ok r) w) : (attempt c).Ensures FsStep w Q := by
  refine ensures_ask.mpr fun answer w' hstep => ?_
  cases hstep with
  | passive => exact h _
  | refused => exact h _
  | _ => exact hc.elim

theorem sys_token {n : Nat} {Q : Except FsException String → FsWorld → Prop}
    (hok : ∀ token, Q (.ok token) w) (herror : ∀ e, Q (.error (.os e)) w) :
    (sys (.token n)).Ensures FsStep w Q := by
  refine sys_passive (by trivial) fun r => ?_
  cases r with
  | error e => exact herror e
  | ok token => exact hok token

/-- An opened directory is recorded and no file changes. -/
theorem sys_openDirectory {path : Path} {Q : Except FsException Descriptor → FsWorld → Prop}
    (hok : Q (.ok w.opened) (w.opening path false)) (herror : ∀ e, Q (.error e) w) :
    (sys (.openDirectory path)).Ensures FsStep w Q := by
  refine ensures_invoke.mpr fun answer w' hstep => ?_
  cases hstep with
  | passive h => exact h.elim
  | refused _ e => exact herror _
  | openDirectory => exact hok

/-- A file is created empty, and only where there was none. -/
theorem attempt_openNew {path : Path}
    {Q : Except FsException (Except OsError Descriptor) → FsWorld → Prop}
    (hok : w.files path = none →
      Q (.ok (.ok w.opened)) ((w.opening path true).put path (some [])))
    (herror : ∀ e, Q (.ok (.error e)) w) : (attempt (.openNew path)).Ensures FsStep w Q := by
  refine ensures_ask.mpr fun answer w' hstep => ?_
  cases hstep with
  | passive h => exact h.elim
  | refused _ e => exact herror e
  | openNew hnew => exact hok hnew

theorem sys_openNew {path : Path} {Q : Except FsException Descriptor → FsWorld → Prop}
    (hok : w.files path = none → Q (.ok w.opened) ((w.opening path true).put path (some [])))
    (herror : ∀ e, Q (.error e) w) : (sys (.openNew path)).Ensures FsStep w Q := by
  refine ensures_invoke.mpr fun answer w' hstep => ?_
  cases hstep with
  | passive h => exact h.elim
  | refused _ e => exact herror _
  | openNew hnew => exact hok hnew

theorem sys_close {d : Descriptor} {Q : Except FsException Unit → FsWorld → Prop}
    (hok : Q (.ok ()) (w.closing d true)) (herror : ∀ e, Q (.error e) (w.closing d false)) :
    (sys (.close d)).Ensures FsStep w Q := by
  refine ensures_invoke.mpr fun answer w' hstep => ?_
  cases hstep with
  | passive h => exact h.elim
  | refused h => exact h.elim
  | close => exact hok
  | closeFailed _ e => exact herror _

theorem attempt_unlink {path : Path}
    {Q : Except FsException (Except OsError Unit) → FsWorld → Prop}
    (hok : Q (.ok (.ok ())) (w.put path none)) (herror : ∀ e, Q (.ok (.error e)) (w.keeping path)) :
    (attempt (.unlink path)).Ensures FsStep w Q := by
  refine ensures_ask.mpr fun answer w' hstep => ?_
  cases hstep with
  | passive h => exact h.elim
  | refused h => exact h.elim
  | unlink => exact hok
  | unlinkFailed _ e => exact herror e

/-- A rename moves the content, or nothing happens. -/
theorem sys_replace {source destination : Path} {Q : Except FsException Unit → FsWorld → Prop}
    (hok : Q (.ok ()) ((w.put source none).put destination (w.files source)))
    (herror : ∀ e, Q (.error e) w) :
    (sys (.replace source destination)).Ensures FsStep w Q := by
  refine ensures_invoke.mpr fun answer w' hstep => ?_
  cases hstep with
  | passive h => exact h.elim
  | refused _ e => exact herror _
  | replace => exact hok

/-! ## Quiet programs -/

/-- The files are the same, every descriptor opened meanwhile was closed once, and none of them
belongs to a file that was created. -/
structure Quiet (w w' : FsWorld) : Prop where
  files : w'.files = w.files
  failedUnlinks : w'.failedUnlinks = w.failedUnlinks
  opened : w.opened ≤ w'.opened
  old : ∀ d < w.opened, w'.records d = w.records d
  fresh : ∀ d, w.opened ≤ d → d < w'.opened →
    (w'.records d).created = false ∧ (w'.records d).closes.length = 1

theorem Quiet.refl (w : FsWorld) : Quiet w w :=
  ⟨rfl, rfl, Nat.le_refl _, fun _ _ => rfl, fun _ h h' => absurd h' (Nat.not_lt_of_le h)⟩

theorem Quiet.trans (w w' w'' : FsWorld) (h : Quiet w w') (h' : Quiet w' w'') : Quiet w w'' where
  files := h'.files.trans h.files
  failedUnlinks := h'.failedUnlinks.trans h.failedUnlinks
  opened := Nat.le_trans h.opened h'.opened
  old d hd := (h'.old d (Nat.lt_of_lt_of_le hd h.opened)).trans (h.old d hd)
  fresh := by
    intro d hd hd'
    by_cases hearly : d < w'.opened
    · rw [h'.old d hearly]
      exact h.fresh d hd hearly
    · exact h'.fresh d (Nat.le_of_not_lt hearly) hd'

/-- Nothing but the position of one descriptor has changed. -/
structure Reads (d : Descriptor) (w w' : FsWorld) : Prop where
  files : w'.files = w.files
  failedUnlinks : w'.failedUnlinks = w.failedUnlinks
  opened : w'.opened = w.opened
  others : ∀ e, e ≠ d → w'.records e = w.records e
  path : (w'.records d).path = (w.records d).path
  created : (w'.records d).created = (w.records d).created
  closes : (w'.records d).closes = (w.records d).closes

theorem Reads.refl (d : Descriptor) (w : FsWorld) : Reads d w w :=
  ⟨rfl, rfl, rfl, fun _ _ => rfl, rfl, rfl, rfl⟩

/-- Two parts that only read through one descriptor. -/
theorem Reads.trans (d : Descriptor) (w w' w'' : FsWorld) (h : Reads d w w')
    (h' : Reads d w' w'') : Reads d w w'' where
  files := h'.files.trans h.files
  failedUnlinks := h'.failedUnlinks.trans h.failedUnlinks
  opened := h'.opened.trans h.opened
  others e he := (h'.others e he).trans (h.others e he)
  path := h'.path.trans h.path
  created := h'.created.trans h.created
  closes := h'.closes.trans h.closes

/-- A descriptor that is only read from is closed once, and nothing else happens to it. -/
theorem quiet_of_reads {path : Path} (h : Reads w.opened (w.opening path false) w')
    (success : Bool) : Quiet w (w'.closing w.opened success) where
  files := h.files
  failedUnlinks := h.failedUnlinks
  opened := by
    show w.opened ≤ w'.opened
    rw [h.opened]
    exact Nat.le_succ _
  old d hd := by
    show Function.update w'.records w.opened _ d = _
    have hne : d ≠ w.opened := Nat.ne_of_lt hd
    rw [Function.update_of_ne hne, h.others d hne]
    exact Function.update_of_ne hne ..
  fresh := by
    intro d hd hd'
    have hopened : w'.opened = w.opened + 1 := h.opened
    obtain rfl : d = w.opened := by
      have : d < w'.opened := hd'
      omega
    have hrecord : (w.opening path false).records w.opened = ⟨path, false, 0, []⟩ :=
      Function.update_self ..
    have hcreated := h.created
    have hcloses := h.closes
    rw [hrecord] at hcreated hcloses
    show (Function.update w'.records w.opened _ w.opened).created = false ∧
      (Function.update w'.records w.opened _ w.opened).closes.length = 1
    rw [Function.update_self]
    refine ⟨hcreated, ?_⟩
    show ((w'.records w.opened).closes ++ [success]).length = 1
    rw [hcloses]
    rfl

/-- A program that opens a descriptor that is not of a new file, or raises and does nothing. -/
def Opens (opening : Fs Descriptor) : Prop :=
  ∀ (w : FsWorld) (Q : Except FsException Descriptor → FsWorld → Prop),
    (∀ path, Q (.ok w.opened) (w.opening path false)) → (∀ e, Q (.error e) w) →
    opening.Ensures FsStep w Q

theorem opens_openDirectory (path : Path) : Opens (sys (.openDirectory path)) :=
  fun _ _ hok herror => sys_openDirectory (hok path) herror

/-- What a bracket opened it closes, so that outside nothing is left of it. -/
theorem keeps_bracketed {opening : Fs Descriptor} {body : Descriptor → Fs α}
    (hopening : Opens opening) (hbody : ∀ d, (body d).Keeps FsStep (Reads d)) :
    (bracketed opening body).Keeps FsStep Quiet := by
  intro w
  refine ensures_bind.mpr (hopening w _ (fun path => ?_) fun _ => Quiet.refl w)
  refine (hbody w.opened _).finallyDo fun r w' hread => ?_
  exact sys_close (quiet_of_reads hread true) fun _ => quiet_of_reads hread false

/-- A passive call keeps every reflexive relation. -/
theorem keeps_sys {R : FsWorld → FsWorld → Prop} (hrefl : ∀ w, R w w) {c : FsCall}
    (hc : c.Passive) : (sys c).Keeps FsStep R :=
  fun w => sys_passive hc fun _ => hrefl w

theorem keeps_lstat {R : FsWorld → FsWorld → Prop} (hrefl : ∀ w, R w w) (path : Path) :
    (sys (.lstat path)).Keeps FsStep R :=
  fun w => sys_lstat fun _ => hrefl w

/-- Naming a reason for a failure changes no file. -/
theorem Keeps.refusing {R : FsWorld → FsWorld → Prop} {reason : ProfileReason} {body : Fs α}
    (h : body.Keeps FsStep R) : (refusing reason body).Keeps FsStep R := by
  intro w
  refine (h w).catching_bind fun r w' hR => ?_
  split
  · exact ensures_raise.mpr hR
  · exact ensures_ofExcept.mpr hR

/-- By induction on the components that are left. -/
theorem keeps_rejectSymlinkComponents (rest : List String) : ∀ current : Path,
    (rejectSymlinkComponents current rest).Keeps FsStep Quiet := by
  induction rest with
  | nil => exact fun _ => keeps_pure Quiet.refl _
  | cons part rest ih =>
    intro current w
    refine ensures_bind.mpr (attempt_lstat fun r _ => ?_)
    dsimp only
    split
    · exact ensures_raise.mpr (Quiet.refl w)
    · exact ensures_raise.mpr (Quiet.refl w)
    · split
      · exact ensures_raise.mpr (Quiet.refl w)
      · exact ih _ w

/-- Looking at what was opened reads nothing of it. -/
theorem keeps_opened (validate : Stat → Except FsException Unit) (before : Stat) (d : Descriptor) :
    (do
      let opened ← sys (.fstat d)
      ofExcept (validate opened)
      ofExcept (requireSameObject before opened) : Fs Unit).Keeps FsStep (Reads d) := by
  refine (keeps_sys (Reads.refl d) (by trivial)).bind (Reads.trans d) fun opened => ?_
  refine (keeps_ofExcept (Reads.refl d) _).bind (Reads.trans d) fun _ => ?_
  exact keeps_ofExcept (Reads.refl d) _

/-- The validation of a directory is quiet. -/
theorem keeps_validateDirectory (uid : Nat) (path : Path) (restrictive : Bool) :
    (validateDirectory uid path restrictive).Keeps FsStep Quiet := by
  refine Keeps.refusing ?_
  refine (keeps_rejectSymlinkComponents path []).bind Quiet.trans fun _ => ?_
  refine (keeps_lstat Quiet.refl path).bind Quiet.trans fun before => ?_
  refine (keeps_ofExcept Quiet.refl _).bind Quiet.trans fun _ => ?_
  have hopened := keeps_opened (validateDirectoryStat uid · restrictive) before
  refine (keeps_bracketed (opens_openDirectory path) hopened).bind Quiet.trans fun _ => ?_
  refine (keeps_lstat Quiet.refl path).bind Quiet.trans fun after => ?_
  refine (keeps_ofExcept Quiet.refl _).bind Quiet.trans fun _ => ?_
  exact keeps_ofExcept Quiet.refl _

theorem keeps_fsyncDirectory (uid : Nat) (path : Path) (restrictive : Bool) :
    (fsyncDirectory uid path restrictive).Keeps FsStep Quiet := by
  refine (keeps_validateDirectory uid path restrictive).bind Quiet.trans fun _ => ?_
  exact keeps_bracketed (opens_openDirectory path) fun d =>
    Keeps.refusing (keeps_sys (Reads.refl d) (by trivial))

/-! ## Filling a new file -/

@[simp] theorem FsWorld.put_put (w : FsWorld) (path : Path) (a b : Option Bytes) :
    (w.put path a).put path b = w.put path b := by
  unfold FsWorld.put
  rw [Function.update_idem]

theorem FsWorld.put_self {path : Path} {content : Option Bytes} (h : w.files path = content) :
    w.put path content = w := by
  unfold FsWorld.put
  rw [← h, Function.update_eq_self]

@[simp] theorem FsWorld.put_files_self (w : FsWorld) (path : Path) (content : Option Bytes) :
    (w.put path content).files path = content := Function.update_self ..

/-- Only one file has changed, and it holds all the bytes when the program succeeds. -/
def Fills (w : FsWorld) (path : Path) (all : Bytes) (r : Except FsException Unit)
    (w' : FsWorld) : Prop :=
  ∃ content, w' = w.put path (some content) ∧ (r = .ok () → content = all)

/-- The loop appends what it is given, or a part of it. -/
theorem writeAll_fills (d : Descriptor) (view : Bytes) : ∀ {w : FsWorld} {old : Bytes},
    w.files (w.records d).path = some old →
    (writeAll d view).Ensures FsStep w (Fills w (w.records d).path (old ++ view)) := by
  fun_induction writeAll d view with
  | case1 =>
    intro w old hold
    refine ensures_pure.mpr ⟨old, (FsWorld.put_self hold).symm, fun _ => ?_⟩
    exact (List.append_nil old).symm
  | case2 view hview ih =>
    intro w old hold
    have happend : ∀ n, w.appending d (view.take n) =
        w.put (w.records d).path (some (old ++ view.take n)) := by
      intro n
      unfold FsWorld.appending FsWorld.content
      rw [hold]
      rfl
    intro answer w' hstep
    cases hstep with
    | passive h => exact h.elim
    | refused h => exact h.elim
    | writeFailed _ _ e n =>
      rw [happend]
      exact ⟨_, rfl, nofun⟩
    | write _ _ count =>
      rw [happend]
      dsimp only
      split
      case isTrue => exact ⟨_, rfl, nofun⟩
      case isFalse hcount =>
        have hrest := @ih count hcount (w.put (w.records d).path (some (old ++ view.take count.toNat)))
          (old ++ view.take count.toNat) (FsWorld.put_files_self ..)
        refine hrest.mono fun r w'' hfills => ?_
        obtain ⟨content, rfl, hall⟩ := hfills
        refine ⟨content, FsWorld.put_put .., fun hr => ?_⟩
        rw [hall hr, List.append_assoc, List.take_append_drop]

/-- A created file gets its bytes, or a part of them when a call or a check fails. -/
theorem fillNewFile_fills (uid : Nat) (d : Descriptor) (data : Bytes)
    (hnew : w.files (w.records d).path = some []) :
    (fillNewFile uid d data).Ensures FsStep w (Fills w (w.records d).path data) := by
  have hself : w.put (w.records d).path (some []) = w := FsWorld.put_self hnew
  refine ensures_bind.mpr (sys_passive (by trivial) fun r => ?_)
  cases r with
  | error e => exact ⟨[], hself.symm, nofun⟩
  | ok _ =>
    refine (writeAll_fills d data hnew).bind (fun _ w' hfills => ?_) fun e w' hfills => ?_
    · obtain ⟨content, rfl, hall⟩ := hfills
      have hall : content = data := hall rfl
      refine ensures_bind.mpr (sys_passive (by trivial) fun r => ?_)
      cases r with
      | error e => exact ⟨content, rfl, nofun⟩
      | ok _ =>
        refine ensures_bind.mpr (sys_passive (by trivial) fun r => ?_)
        cases r with
        | error e => exact ⟨content, rfl, nofun⟩
        | ok completed =>
          refine ensures_bind.mpr (ensures_ofExcept.mpr ?_)
          cases validateFileStat uid completed data.length with
          | error e => exact ⟨content, rfl, nofun⟩
          | ok _ =>
            dsimp only
            split
            · exact ensures_raise.mpr ⟨content, rfl, nofun⟩
            · exact ensures_pure.mpr ⟨content, rfl, fun _ => hall⟩
    · obtain ⟨content, rfl, -⟩ := hfills
      exact ⟨content, rfl, nofun⟩

end Aurora.ConfigProfiles
