/-
  Creating a backup: what is in the directory afterwards, whatever calls fail.

  The two files are written one after the other, and nothing removes the payload once it is there.
  So a later failure leaves half a pair, or a whole one, under an identifier that counts.
-/
import Aurora.ConfigProfiles.ManagedWrites
import Aurora.ConfigProfiles.ManifestRoundTrip

namespace Aurora.ConfigProfiles

open Program

variable {w w' w'' : FsWorld} {directory : Path}

/-! ## Managed names -/

/-- A suffix comes off exactly the names that end in it. -/
theorem stripSuffix_eq_some {name suffix identifier : String} :
    stripSuffix name suffix = some identifier ↔ name = identifier ++ suffix := by
  unfold stripSuffix
  constructor
  · intro h
    split at h
    case isFalse => cases h
    case isTrue hsuffix =>
      obtain ⟨front, hfront⟩ := hsuffix
      obtain rfl := Option.some.inj h
      apply String.toList_injective
      rw [String.toList_append, String.toList_ofList, ← hfront, List.length_append,
        Nat.add_sub_cancel, List.take_left]
  · rintro rfl
    have hsuffix : suffix.toList <:+ (identifier ++ suffix).toList := by
      rw [String.toList_append]
      exact List.suffix_append ..
    rw [if_pos hsuffix, String.toList_append, List.length_append, Nat.add_sub_cancel,
      List.take_left, String.ofList_toList]

theorem suffix_yaml : Extension.yaml.suffix.toList = ['.', 'y', 'a', 'm', 'l'] :=
  String.toList_ofList (l := ['.', 'y', 'a', 'm', 'l'])

theorem suffix_json : Extension.json.suffix.toList = ['.', 'j', 's', 'o', 'n'] :=
  String.toList_ofList (l := ['.', 'j', 's', 'o', 'n'])

/-- No name has both suffixes. -/
theorem managedFile_inj {a b : String} {e f : Extension} (h : managedFile a e = managedFile b f) :
    a = b ∧ e = f := by
  have hlist := congrArg String.toList h
  unfold managedFile at hlist
  rw [String.toList_append, String.toList_append] at hlist
  have hlength : e.suffix.toList.length = f.suffix.toList.length := by
    cases e <;> cases f <;> simp [suffix_yaml, suffix_json]
  obtain ⟨hname, hsuffix⟩ := List.append_inj' hlist hlength
  refine ⟨String.toList_injective hname, ?_⟩
  cases e <;> cases f <;> simp_all [suffix_yaml, suffix_json]

/-- A name is managed under one extension exactly if it is that identifier's file. -/
theorem managedAs_eq_some {name identifier : String} {e extension : Extension} :
    managedAs name e = some (identifier, extension) ↔
      e = extension ∧ name = managedFile identifier e ∧ isBackupId identifier = true := by
  unfold managedAs
  constructor
  · intro h
    split at h
    case h_1 found hfound =>
      split at h
      case isTrue hid =>
        obtain ⟨rfl, rfl⟩ := Prod.mk.inj (Option.some.inj h)
        exact ⟨rfl, stripSuffix_eq_some.mp hfound, hid⟩
      case isFalse => cases h
    case h_2 => cases h
  · rintro ⟨rfl, hname, hid⟩
    rw [stripSuffix_eq_some.mpr hname]
    exact if_pos hid

/-- A name is managed exactly if it is some valid identifier's file. -/
theorem managedName_eq_some {name identifier : String} {extension : Extension} :
    managedName name = some (identifier, extension) ↔
      name = managedFile identifier extension ∧ isBackupId identifier = true := by
  unfold managedName
  rw [List.findSome?_cons]
  constructor
  · intro h
    split at h
    case h_1 found hfound =>
      obtain rfl := Option.some.inj h
      obtain ⟨rfl, hname⟩ := managedAs_eq_some.mp hfound
      exact hname
    case h_2 =>
      obtain ⟨rfl, hname⟩ := managedAs_eq_some.mp (List.findSome?_singleton.symm.trans h)
      exact hname
  · rintro ⟨hname, hid⟩
    cases extension with
    | yaml => rw [managedAs_eq_some.mpr ⟨rfl, hname, hid⟩]
    | json =>
      have hyaml : managedAs name .yaml = none := by
        refine Option.eq_none_iff_forall_ne_some.mpr fun ⟨other, e⟩ hfound => ?_
        obtain ⟨rfl, hother, -⟩ := managedAs_eq_some.mp hfound
        exact nomatch (managedFile_inj (hother.symm.trans hname)).2
      rw [hyaml, List.findSome?_singleton]
      exact managedAs_eq_some.mpr ⟨rfl, hname, hid⟩

/-- The managed identifiers of a directory. -/
def managedIds (w : FsWorld) (directory : Path) : Set String :=
  { identifier | ∃ name, w.files (directory ++ [name]) ≠ none ∧
    managedIdentifier name = some identifier }

/-- An identifier is in use once either of its files exists. -/
theorem mem_managedIds {identifier : String} : identifier ∈ managedIds w directory ↔
    isBackupId identifier = true ∧
      ∃ extension, w.files (directory ++ [managedFile identifier extension]) ≠ none := by
  constructor
  · rintro ⟨name, hfile, hname⟩
    obtain ⟨⟨found, extension⟩, hfound, hid⟩ := Option.map_eq_some_iff.mp hname
    obtain rfl : found = identifier := hid
    obtain ⟨rfl, hid⟩ := managedName_eq_some.mp hfound
    exact ⟨hid, extension, hfile⟩
  · rintro ⟨hid, extension, hfile⟩
    refine ⟨_, hfile, Option.map_eq_some_iff.mpr ⟨(identifier, extension), ?_, rfl⟩⟩
    exact managedName_eq_some.mpr ⟨rfl, hid⟩

/-- The identifiers in use depend on the files alone. -/
theorem managedIds_congr (h : w'.files = w.files) (directory : Path) :
    managedIds w' directory = managedIds w directory := by
  unfold managedIds
  rw [h]

/-- The identifier belongs to no file of the directory. -/
def Unused (w : FsWorld) (directory : Path) (identifier : String) : Prop :=
  isBackupId identifier = true ∧
    ∀ extension, w.files (directory ++ [managedFile identifier extension]) = none

/-- An unused identifier is none of the managed ones. -/
theorem Unused.not_mem {identifier : String} (h : Unused w directory identifier) :
    identifier ∉ managedIds w directory := by
  intro hmem
  obtain ⟨-, extension, hfile⟩ := mem_managedIds.mp hmem
  exact hfile (h.2 extension)

/-- Being unused depends on the files alone. -/
theorem Unused.congr {identifier : String} (h : Unused w' directory identifier)
    (hfiles : w'.files = w.files) : Unused w directory identifier := by
  unfold Unused
  rw [← hfiles]
  exact h

/-! ## Before the first write -/

theorem returns_ofExcept {α : Type} {P : α → Prop} {x : Except FsException α}
    (h : ∀ a, x = .ok a → P a) : (ofExcept x : Fs α).Ensures FsStep w (Returns P w) :=
  ensures_ofExcept.mpr ⟨Quiet.refl w, h⟩

/-- What one attempt does with its candidate. -/
def takeIdentifier (directory : Path) (now : Moment) (attempts : Nat) (candidate : String) :
    Fs String :=
  if isBackupId candidate then do
    if ← entryExists (directory ++ [managedFile candidate .yaml]) then
      availableIdentifier directory now attempts
    else if ← entryExists (directory ++ [managedFile candidate .json]) then
      availableIdentifier directory now attempts
    else return candidate
  else raise (.profile .backupWriteFailed)

/-- One attempt draws a token and tries the identifier made of it. -/
theorem availableIdentifier_succ (directory : Path) (now : Moment) (attempts : Nat) :
    availableIdentifier directory now (attempts + 1) = (do
      let suffix : String ← sys (.token 6)
      takeIdentifier directory now attempts (String.ofList now.compact ++ "-" ++ suffix)) := rfl

/-- An entry that is reported absent is absent. -/
theorem entryExists_returns (path : Path) (w : FsWorld) :
    (entryExists path).Ensures FsStep w
      (Returns (fun present => present = false → w.files path = none) w) := by
  refine ensures_bind.mpr (attempt_lstat fun r hmissing => ?_)
  dsimp only
  split
  · exact returns_pure fun h => Bool.noConfusion h
  · exact returns_pure fun _ => hmissing rfl
  · exact ensures_raise.mpr (.error (Quiet.refl w) _)

/-- Only an identifier with neither of its files is returned. -/
theorem availableIdentifier_returns (directory : Path) (now : Moment) (attempts : Nat) :
    ∀ w : FsWorld, (availableIdentifier directory now attempts).Ensures FsStep w
      (Returns (Unused w directory) w) := by
  induction attempts with
  | zero => exact fun w => ensures_raise.mpr (.error (Quiet.refl w) _)
  | succ attempts ih =>
    intro w
    -- a name that is taken leads to the next attempt
    have hnext : ∀ w' : FsWorld, w'.files = w.files →
        (availableIdentifier directory now attempts).Ensures FsStep w'
          (Returns (Unused w directory) w') := by
      intro w' hfiles
      refine (ih w').mono fun r w'' hr => ⟨hr.1, fun identifier h => ?_⟩
      exact (hr.2 identifier h).congr hfiles
    rw [availableIdentifier_succ]
    refine Returns.bind (Returns.of_keeps (keeps_sys Quiet.refl (by trivial)) w)
      fun suffix w₁ _ h₁ => ?_
    generalize String.ofList now.compact ++ "-" ++ suffix = candidate
    unfold takeIdentifier
    refine ensures_ite (fun hid => ?_) fun _ => ensures_raise.mpr (.error (Quiet.refl w₁) _)
    refine Returns.bind (entryExists_returns _ w₁) fun present w₂ hyaml h₂ => ?_
    have hfiles₂ : w₂.files = w.files := h₂.files.trans h₁.files
    refine ensures_ite (fun _ => hnext w₂ hfiles₂) fun hnone => ?_
    refine Returns.bind (entryExists_returns _ w₂) fun present' w₃ hjson h₃ => ?_
    refine ensures_ite (fun _ => hnext w₃ (h₃.files.trans hfiles₂)) fun hnone' => ?_
    refine returns_pure ⟨hid, fun extension => ?_⟩
    cases extension with
    | yaml => exact h₁.files ▸ hyaml (Bool.eq_false_of_not_eq_true hnone)
    | json => exact hfiles₂ ▸ hjson (Bool.eq_false_of_not_eq_true hnone')

/-- The capacity check changes no file and loses no close. -/
theorem keeps_ensureCapacity (uid : Nat) (directory : Path) (maximumBackups : Int) :
    (ensureCapacity uid directory maximumBackups).Keeps FsStep Quiet := by
  have hentries : (enumerateDirectory uid directory maxBackupEntries).Keeps FsStep Quiet :=
    fun w => (enumerateDirectory_returns uid directory maxBackupEntries w).mono fun _ _ h => h.1
  refine hentries.bind Quiet.trans fun entries => ?_
  split
  · exact keeps_raise Quiet.refl _
  · split
    · exact keeps_raise Quiet.refl _
    · exact keeps_pure Quiet.refl _

/-- The construction checks a manifest and changes nothing in it. -/
theorem BackupManifest.eq_of_construct {m made : BackupManifest} (h : m.construct = .ok made) :
    made = m := by
  unfold construct at h
  split at h
  case isTrue => exact (Except.ok.inj h).symm
  case isFalse => cases h

section

-- elaboration would evaluate the texts of the manifest
attribute [local irreducible] BackupManifest.construct serializeManifest

/-- Nothing has changed when the identifier is chosen, and it is free. -/
theorem prepareBackup_returns (uid : Nat) (directory : Path) (request : BackupRequest)
    (clock : Option Moment) (w : FsWorld) :
    (prepareBackup uid directory request clock).Ensures FsStep w (Returns (fun prepared =>
      Unused w directory prepared.1.backupId ∧ serializeManifest prepared.1 = .ok prepared.2) w) := by
  refine Returns.bind (Returns.of_keeps (keeps_ensureCapacity uid directory _) w) fun _ w₁ _ h₁ => ?_
  cases clock with
  | none => exact ensures_raise.mpr (.error (Quiet.refl w₁) _)
  | some now =>
    refine Returns.bind (availableIdentifier_returns directory now 8 w₁)
      fun identifier w₂ hunused h₂ => ?_
    refine Returns.bind (returns_ofExcept fun manifest h => BackupManifest.eq_of_construct h)
      fun manifest w₃ hmanifest h₃ => ?_
    refine Returns.bind (returns_ofExcept fun data h => h) fun data w₄ hdata _ => ?_
    refine returns_pure ⟨?_, hdata⟩
    rw [congrArg BackupManifest.backupId hmanifest]
    exact hunused.congr h₁.files

end

/-! ## The two files -/

/-- A close of a created file fails in a whole run exactly if it does in one of its parts. -/
theorem createdCloseFails_trans (h : Grows w w') (h' : Grows w' w'') :
    CreatedCloseFails w w'' ↔ CreatedCloseFails w w' ∨ CreatedCloseFails w' w'' := by
  constructor
  · rintro ⟨d, hd, hd', hfails⟩
    by_cases hearly : d < w'.opened
    · rw [h'.old d hearly] at hfails
      exact .inl ⟨d, hd, hearly, hfails⟩
    · exact .inr ⟨d, Nat.le_of_not_lt hearly, hd', hfails⟩
  · rintro (⟨d, hd, hd', hfails⟩ | ⟨d, hd, hd', hfails⟩)
    · refine ⟨d, hd, Nat.lt_of_lt_of_le hd' h'.opened, ?_⟩
      rwa [h'.old d hd']
    · exact ⟨d, Nat.le_trans h.opened hd, hd', hfails⟩

theorem Grows.trans (h : Grows w w') (h' : Grows w' w'') : Grows w w'' where
  opened := Nat.le_trans h.opened h'.opened
  old d hd := by rw [h'.old d (Nat.lt_of_lt_of_le hd h.opened), h.old d hd]

/-- Quiet steps around it do not matter. -/
theorem createdCloseFails_around {v v' : FsWorld} (hbefore : Quiet w v) (h : Grows v v')
    (hafter : Quiet v' w') : CreatedCloseFails w w' ↔ CreatedCloseFails v v' := by
  rw [createdCloseFails_trans (hbefore.grows.trans h) hafter.grows,
    createdCloseFails_trans hbefore.grows h]
  constructor
  · rintro ((hfails | hfails) | hfails)
    · exact absurd hfails hbefore.created
    · exact hfails
    · exact absurd hfails hafter.created
  · exact fun hfails => .inl (.inr hfails)

section WriteEnd

variable {path : Path} {data : Bytes} {filled : Bool} {r : Except FsException Unit}

/-- A write of a new file only ever adds to the world. -/
theorem WriteEnd.grows (h : WriteEnd w path data filled r w') : Grows w w' := by
  cases h with
  | refused e hfilled quiet => exact quiet.grows
  | removed e hfilled hnew pair => exact pair.grows
  | kept e content hfilled hnew pair => exact pair.grows
  | written r hfilled hnew pair => exact pair.grows
  | leaked e content hnew pair => exact pair.grows

/-- Other files do not change. -/
theorem WriteEnd.other (h : WriteEnd w path data filled r w') {other : Path}
    (hother : other ≠ path) : w'.files other = w.files other := by
  cases h with
  | refused e hfilled quiet => rw [quiet.files]
  | removed e hfilled hnew pair files => rw [files]
  | kept e content hfilled hnew pair files => rw [files, Function.update_of_ne hother]
  | written r hfilled hnew pair hr files => rw [files, Function.update_of_ne hother]
  | leaked e content hnew pair hfails huntidy files => rw [files, Function.update_of_ne hother]

/-- A write that reported success created the file with all its bytes. -/
theorem WriteEnd.of_ok (h : WriteEnd w path data filled (.ok ()) w') :
    w.files path = none ∧ w'.files = Function.update w.files path (some data) ∧
      ¬CreatedCloseFails w w' := by
  cases h with
  | written _ hfilled hnew pair hr files => exact ⟨hnew, files, by simp [pair.created_iff]⟩

/-- A file that was filled is there, whatever failed after it. -/
theorem WriteEnd.of_filled (h : WriteEnd w path data true r w') : w'.files path ≠ none := by
  cases h with
  | refused e hfilled => cases hfilled
  | removed e hfilled => cases hfilled
  | kept e content hfilled => cases hfilled
  | written r hfilled hnew pair hr files =>
    rw [files, Function.update_self]
    exact Option.some_ne_none data
  | leaked e content hnew pair hfails huntidy files =>
    rw [files, Function.update_self]
    exact Option.some_ne_none content

/-- A file that was not filled is gone, or its removal failed, or closing it did. -/
theorem WriteEnd.of_unfilled (h : WriteEnd w path data false r w') : (∃ e, r = .error e) ∧
    (w'.files = w.files ∧ ¬CreatedCloseFails w w' ∨ w'.failedUnlinks = path :: w.failedUnlinks ∨
      w'.files path ≠ none ∧ w'.failedUnlinks = w.failedUnlinks ∧ CreatedCloseFails w w') := by
  cases h with
  | refused e hfilled quiet => exact ⟨⟨e, rfl⟩, .inl ⟨quiet.files, quiet.created⟩⟩
  | removed e hfilled hnew pair files =>
    exact ⟨⟨e, rfl⟩, .inl ⟨files, by simp [pair.created_iff]⟩⟩
  | kept e content hfilled hnew pair files failedUnlinks =>
    exact ⟨⟨e, rfl⟩, .inr (.inl failedUnlinks)⟩
  | written r hfilled => cases hfilled
  | leaked e content hnew pair hfails huntidy files failedUnlinks =>
    refine ⟨⟨e, rfl⟩, .inr (.inr ⟨?_, failedUnlinks, pair.created_iff.mpr hfails⟩)⟩
    rw [files, Function.update_self]
    exact Option.some_ne_none content

end WriteEnd

/-! ## The steps of `create` -/

variable {uid : Nat} {request : BackupRequest} {clock : Option Moment}

/-- `create` until the payload is filled, or until that fails. -/
def fillPayload (uid : Nat) (directory : Path) (request : BackupRequest) (clock : Option Moment) :
    Fs ((BackupManifest × Bytes) × Descriptor × NewFile) := do
  let prepared ← prepareBackup uid directory request clock
  let progress ← openNewFile uid directory (managedFile prepared.1.backupId .yaml) request.source.data
  return (prepared, progress)

/-- The rest of the `try` statement: close the payload, write the manifest, and sync. -/
def finishPair (uid : Nat) (directory : Path) (prepared : BackupManifest × Bytes)
    (progress : Descriptor × NewFile) : Fs Unit := do
  finishNewFile (directory ++ [managedFile prepared.1.backupId .yaml]) progress.1 progress.2
  writeNewFile uid directory (managedFile prepared.1.backupId .json) prepared.2
  fsyncDirectory uid directory true

/-- What `create` makes of the end of its `try` statement. -/
def conclude (uid : Nat) (directory : Path) (manifest : BackupManifest) :
    Except FsException Unit → Fs BackupManifest
  | .ok () => return manifest
  | .error e => syncAndRaise uid directory e

/-- The function cut at the point where its handler stands. -/
theorem createBackup_eq : createBackup uid directory request clock = (do
    let prepared ← prepareBackup uid directory request clock
    let result ← (do
      let progress ← openNewFile uid directory (managedFile prepared.1.backupId .yaml)
        request.source.data
      finishPair uid directory prepared progress : Fs Unit).catching
    conclude uid directory prepared.1 result) := by
  refine congrArg _ (funext fun prepared => ?_)
  have hpair : writePair uid directory prepared.1.backupId request.source.data prepared.2 = (do
      let progress ← openNewFile uid directory (managedFile prepared.1.backupId .yaml)
        request.source.data
      finishPair uid directory prepared progress : Fs Unit) := bind_bind ..
  rw [← hpair]
  obtain ⟨manifest, manifestBytes⟩ := prepared
  refine congrArg (Bind.bind _) (funext fun result => ?_)
  cases result <;> rfl

/-- The conclusion flushes the directory after a failure and keeps the outcome. -/
theorem conclude_ends (uid : Nat) (directory : Path) (manifest : BackupManifest)
    (result : Except FsException Unit) (w : FsWorld) :
    (conclude uid directory manifest result).Ensures FsStep w fun r w' => Quiet w w' ∧
      (result = .ok () → r = .ok manifest) ∧ ∀ e, result = .error e → ∃ e', r = .error e' := by
  cases result with
  | ok _ => exact ensures_pure.mpr ⟨Quiet.refl w, fun _ => rfl, nofun⟩
  | error e =>
    refine ensures_ite (fun _ => ?_) fun _ => ensures_raise.mpr ⟨Quiet.refl w, nofun, fun _ _ => ⟨e, rfl⟩⟩
    refine (keeps_fsyncDirectory uid directory true w).catching_bind fun again w' hquiet => ?_
    split
    · exact ensures_raise.mpr ⟨hquiet, nofun, fun _ _ => ⟨e, rfl⟩⟩
    · refine ensures_ite (fun _ => ?_) fun _ => ?_
      · exact ensures_raise.mpr ⟨hquiet, nofun, fun _ _ => ⟨e, rfl⟩⟩
      · exact ensures_raise.mpr ⟨hquiet, nofun, fun _ _ => ⟨_, rfl⟩⟩

/-- How the `try` statement ends after a payload that was filled or not. -/
inductive PairEnd (w : FsWorld) (directory : Path) (identifier : String) (data manifest : Bytes) :
    Bool → Except FsException Unit → FsWorld → Prop
  | unfilled {w' : FsWorld} (e : FsException)
      (payload : WriteEnd w (directory ++ [managedFile identifier .yaml]) data false (.error e) w') :
      PairEnd w directory identifier data manifest false (.error e) w'
  /-- The payload stays. -/
  | failed {w' : FsWorld} (e : FsException)
      (payload : w'.files (directory ++ [managedFile identifier .yaml]) ≠ none) :
      PairEnd w directory identifier data manifest true (.error e) w'
  | complete {w' : FsWorld}
      (files : w'.files = Function.update
        (Function.update w.files (directory ++ [managedFile identifier .yaml]) (some data))
        (directory ++ [managedFile identifier .json]) (some manifest))
      (grows : Grows w w') (closed : ¬CreatedCloseFails w w') :
      PairEnd w directory identifier data manifest true (.ok ()) w'

/-- A payload and its manifest are different files. -/
theorem json_ne_yaml (directory : Path) (identifier : String) :
    directory ++ [managedFile identifier .yaml] ≠ directory ++ [managedFile identifier .json] := by
  intro h
  have hname := List.append_cancel_left h
  exact nomatch (managedFile_inj (List.cons.inj hname).1).2

/-- From a written payload on, the manifest is all that is missing. -/
theorem finishPair_ends {prepared : BackupManifest × Bytes} {progress : Descriptor × NewFile}
    {data : Bytes} (uid : Nat) (h : OpenEnd w directory
      (directory ++ [managedFile prepared.1.backupId .yaml]) data progress w') :
    (finishPair uid directory prepared progress).Ensures FsStep w'
      (PairEnd w directory prepared.1.backupId data prepared.2 progress.2.filled) := by
  refine (finishNewFile_ends h).bind (fun _ w₁ hpayload => ?_) fun e w₁ hpayload => ?_
  · obtain ⟨hnew, hfiles, hclosed⟩ := hpayload.of_ok
    cases hfilled : progress.2.filled with
    | false =>
      rw [hfilled] at hpayload
      obtain ⟨⟨e, he⟩, -⟩ := hpayload.of_unfilled
      cases he
    | true =>
      have hother := json_ne_yaml directory prepared.1.backupId
      have hstays : w₁.files (directory ++ [managedFile prepared.1.backupId .yaml]) ≠ none := by
        rw [hfilled] at hpayload
        exact hpayload.of_filled
      refine (writeNewFile_ends uid directory _ prepared.2).bind ?_ ?_
      · rintro _ w₂ ⟨filled, hmanifest⟩
        obtain ⟨-, hfiles', hclosed'⟩ := hmanifest.of_ok
        refine (keeps_fsyncDirectory uid directory true w₂).mono fun r w₃ hquiet => ?_
        cases r with
        | error e =>
          refine .failed e ?_
          rw [hquiet.files, hmanifest.other hother]
          exact hstays
        | ok _ =>
          have hgrows := hpayload.grows.trans hmanifest.grows
          refine .complete (by rw [hquiet.files, hfiles', hfiles]) (hgrows.trans hquiet.grows) ?_
          rw [createdCloseFails_trans hgrows hquiet.grows,
            createdCloseFails_trans hpayload.grows hmanifest.grows]
          rintro ((hfails | hfails) | hfails)
          · exact hclosed hfails
          · exact hclosed' hfails
          · exact hquiet.created hfails
      · rintro e w₂ ⟨filled, hmanifest⟩
        refine .failed e ?_
        rw [hmanifest.other hother]
        exact hstays
  · cases hfilled : progress.2.filled with
    | false => exact .unfilled e (hfilled ▸ hpayload)
    | true =>
      rw [hfilled] at hpayload
      exact .failed e hpayload.of_filled

/-! ## All or nothing -/

/-- One identifier was added with both its files, and the files that were there are the same. -/
structure Adds (w w' : FsWorld) (directory : Path) (source : Bytes) (m : BackupManifest) : Prop where
  new : m.backupId ∉ managedIds w directory
  identifiers : managedIds w' directory = insert m.backupId (managedIds w directory)
  payload : w'.files (directory ++ [managedFile m.backupId .yaml]) = some source
  manifest : ∃ data, serializeManifest m = .ok data ∧
    w'.files (directory ++ [managedFile m.backupId .json]) = some data
  others : ∀ path, w.files path ≠ none → w'.files path = w.files path

/-- What `create` should leave: the same identifiers when it raises, unless it failed to remove a
file that it had created, and one more when it returns. -/
def AllOrNothing (w w' : FsWorld) (directory : Path) (source : Bytes) :
    Except FsException BackupManifest → Prop
  | .error _ => managedIds w' directory = managedIds w directory ∨ ∃ path, UnlinkFails w w' path
  | .ok m => Adds w w' directory source m

/-- A step fails once the payload is completely written. -/
def LaterStepFails (uid : Nat) (directory : Path) (request : BackupRequest) (clock : Option Moment)
    (t : List FsExchange) : Prop :=
  ∃ t₁ t₂ t₃ prepared progress e, t = t₁ ++ (t₂ ++ t₃) ∧
    Runs (fillPayload uid directory request clock) t₁ (.ok (prepared, progress)) ∧
    progress.2.filled = true ∧ Runs (finishPair uid directory prepared progress) t₂ (.error e)

section LaterStepFails

variable {t u : List FsExchange}

/-- Where the payload was not written no later step can have failed. -/
theorem laterStepFails_of_error {e : FsException}
    (h : Runs (fillPayload uid directory request clock) t (.error e)) :
    ¬LaterStepFails uid directory request clock (t ++ u) := by
  rintro ⟨t₁, t₂, t₃, prepared, progress, again, heq, hfill, -⟩
  obtain ⟨-, hr⟩ := h.unique hfill heq
  cases hr

/-- Past the payload, a later step failed exactly if finishing the pair raised. -/
theorem laterStepFails_of_ok {prepared : BackupManifest × Bytes} {progress : Descriptor × NewFile}
    {r : Except FsException Unit} {v : List FsExchange}
    (h : Runs (fillPayload uid directory request clock) t (.ok (prepared, progress)))
    (hfinish : Runs (finishPair uid directory prepared progress) u r) :
    LaterStepFails uid directory request clock (t ++ (u ++ v)) ↔
      progress.2.filled = true ∧ ∃ e, r = .error e := by
  constructor
  · rintro ⟨u₁, u₂, u₃, prepared', progress', e, heq, hfill, hfilled, hfails⟩
    obtain ⟨rfl, hr⟩ := h.unique hfill heq
    cases hr
    obtain ⟨-, rfl⟩ := hfinish.unique hfails (List.append_cancel_left heq)
    exact ⟨hfilled, e, rfl⟩
  · rintro ⟨hfilled, e, rfl⟩
    exact ⟨t, u, v, prepared, progress, e, rfl, h, hfilled, hfinish⟩

end LaterStepFails

/-- Nothing was removed in vain when the record of failed removals is the same. -/
theorem not_unlinkFails (h : w'.failedUnlinks = w.failedUnlinks) (path : Path) :
    ¬UnlinkFails w w' path := by
  rintro ⟨failed, heq, hmem⟩
  have hlength := congrArg List.length (h.symm.trans heq)
  rw [List.length_append] at hlength
  have hnone : failed = [] := List.eq_nil_of_length_eq_zero (by omega)
  rw [hnone] at hmem
  cases hmem

/-- The identifiers change when a file of an unused one stays. -/
theorem managedIds_ne_of_stays {identifier : String} (h : Unused w directory identifier)
    (hstays : w'.files (directory ++ [managedFile identifier .yaml]) ≠ none) :
    managedIds w' directory ≠ managedIds w directory := by
  intro hsame
  refine h.not_mem ?_
  rw [← hsame]
  exact mem_managedIds.mpr ⟨h.1, .yaml, hstays⟩

/-- The two files together are a saved pair. -/
theorem adds_of_files {m : BackupManifest} {source data : Bytes}
    (h : Unused w directory m.backupId) (hdata : serializeManifest m = .ok data)
    (hfiles : w'.files = Function.update
      (Function.update w.files (directory ++ [managedFile m.backupId .yaml]) (some source))
      (directory ++ [managedFile m.backupId .json]) (some data)) : Adds w w' directory source m := by
  have hother : ∀ path, (∀ extension, path ≠ directory ++ [managedFile m.backupId extension]) →
      w'.files path = w.files path := by
    intro path hpath
    rw [hfiles, Function.update_of_ne (hpath .json), Function.update_of_ne (hpath .yaml)]
  have hyaml : w'.files (directory ++ [managedFile m.backupId .yaml]) = some source := by
    rw [hfiles, Function.update_of_ne (json_ne_yaml directory m.backupId), Function.update_self]
  refine ⟨h.not_mem, ?_, hyaml, ⟨data, hdata, by rw [hfiles, Function.update_self]⟩, ?_⟩
  · ext identifier
    rw [Set.mem_insert_iff]
    by_cases hidentifier : identifier = m.backupId
    · refine iff_of_true (mem_managedIds.mpr ?_) (.inl hidentifier)
      rw [hidentifier]
      exact ⟨h.1, .yaml, by rw [hyaml]; exact Option.some_ne_none source⟩
    · have hsame : ∀ extension, w'.files (directory ++ [managedFile identifier extension]) =
          w.files (directory ++ [managedFile identifier extension]) := by
        refine fun extension => hother _ fun extension' heq => hidentifier ?_
        exact (managedFile_inj (List.cons.inj (List.append_cancel_left heq)).1).1
      rw [mem_managedIds, mem_managedIds, or_iff_right hidentifier]
      simp only [hsame]
  · intro path hpath
    refine hother path fun extension => ?_
    rintro rfl
    exact hpath (h.2 extension)

/-- Between quiet steps, a pair that was not completed leaves its identifier behind when the payload
was filled, or when its file could not be closed. -/
theorem PairEnd.allOrNothing_iff {v v' : FsWorld} {m : BackupManifest} {source data : Bytes}
    {filled : Bool} {result : Except FsException Unit} {r : Except FsException BackupManifest}
    (h : PairEnd v directory m.backupId source data filled result v')
    (hunused : Unused w directory m.backupId) (hdata : serializeManifest m = .ok data)
    (hbefore : Quiet w v) (hafter : Quiet v' w') (hok : result = .ok () → r = .ok m)
    (herror : ∀ e, result = .error e → ∃ e', r = .error e') :
    AllOrNothing w w' directory source r ↔ (∃ path, UnlinkFails w w' path) ∨
      ¬((filled = true ∧ ∃ e, result = .error e) ∨ CreatedCloseFails w w') := by
  cases h with
  | unfilled e hpayload =>
    obtain ⟨e', rfl⟩ := herror e rfl
    rw [createdCloseFails_around hbefore hpayload.grows hafter]
    obtain ⟨-, ⟨hfiles, hclosed⟩ | hkept | ⟨hstays, hunlinks, hfails⟩⟩ := hpayload.of_unfilled
    · have hsame : w'.files = w.files := hafter.files.trans (hfiles.trans hbefore.files)
      exact iff_of_true (.inl (managedIds_congr hsame directory)) (.inr (by simp [hclosed]))
    · have hunlink : ∃ path, UnlinkFails w w' path := by
        have heq := hafter.failedUnlinks.trans (hkept.trans (congrArg _ hbefore.failedUnlinks))
        exact ⟨_, [_], heq, List.mem_singleton.mpr rfl⟩
      exact iff_of_true (.inr hunlink) (.inl hunlink)
    · have hnone : ¬∃ path, UnlinkFails w w' path := fun ⟨path, hunlink⟩ => not_unlinkFails
        (hafter.failedUnlinks.trans (hunlinks.trans hbefore.failedUnlinks)) path hunlink
      have hids := managedIds_ne_of_stays hunused (hafter.files ▸ hstays)
      exact iff_of_false (not_or.mpr ⟨hids, hnone⟩)
        (not_or.mpr ⟨hnone, not_not_intro (.inr hfails)⟩)
  | failed e hpayload =>
    obtain ⟨e', rfl⟩ := herror e rfl
    have hids := managedIds_ne_of_stays hunused (hafter.files ▸ hpayload)
    refine (or_iff_right hids).trans (or_iff_left ?_).symm
    exact not_not_intro (.inl ⟨rfl, e, rfl⟩)
  | complete hfiles hgrows hclosed =>
    obtain rfl := hok rfl
    rw [createdCloseFails_around hbefore hgrows hafter]
    refine iff_of_true (adds_of_files hunused hdata ?_) (.inr ?_)
    · rw [hafter.files, hfiles, hbefore.files]
    · rintro (⟨-, e, he⟩ | hfails)
      · cases he
      · exact hclosed hfails

/-- A creation is all or nothing when a removal fails, which is excepted, and otherwise exactly
when no step fails after the payload was written and the created files can be closed. -/
theorem create_all_or_nothing_iff (uid : Nat) (directory : Path) (request : BackupRequest)
    (clock : Option Moment) (w : FsWorld)
    (x : Execution FsStep (createBackup uid directory request clock) w) :
    AllOrNothing w x.final directory request.source.data x.result ↔
      (∃ path, UnlinkFails w x.final path) ∨
        ¬(LaterStepFails uid directory request clock x.transcript ∨
          CreatedCloseFails w x.final) := by
  obtain ⟨t, r, w', hruns, hfollows⟩ := x
  dsimp only
  rw [createBackup_eq] at hruns
  rcases runs_bind.mp hruns with ⟨e, hprepare, rfl⟩ | ⟨prepared, t₁, t', rfl, hprepare, hruns⟩
  · -- nothing was written
    have hquiet := ((prepareBackup_returns uid directory request clock w).execution
      ⟨t, _, w', hprepare, hfollows⟩).1
    have hfill : Runs (fillPayload uid directory request clock) t (.error e) :=
      runs_bind.mpr (.inl ⟨e, hprepare, rfl⟩)
    have hlater := laterStepFails_of_error (u := []) hfill
    rw [List.append_nil] at hlater
    exact iff_of_true (.inl (managedIds_congr hquiet.files directory))
      (.inr (not_or.mpr ⟨hlater, hquiet.created⟩))
  · obtain ⟨result, t₂, t₃, rfl, htry, hconclude⟩ := runs_catching_bind.mp hruns
    -- prepared: the run is cut at the opening of the payload and at the conclusion
    obtain ⟨w₁, hfollows₁, hfollows⟩ := follows_append.mp hfollows
    obtain ⟨w₃, hfollows₂, hfollows₃⟩ := follows_append.mp hfollows
    obtain ⟨hquiet₁, hreturned⟩ := (prepareBackup_returns uid directory request clock w).execution
      ⟨t₁, _, w₁, hprepare, hfollows₁⟩
    obtain ⟨hunused, hdata⟩ := hreturned prepared rfl
    obtain ⟨hquiet₃, hok, herror⟩ := (conclude_ends uid directory prepared.1 result w₃).execution
      ⟨t₃, r, w', hconclude, hfollows₃⟩
    rcases runs_bind.mp htry with ⟨e, hopen, rfl⟩ | ⟨progress, t₂, t₂', rfl, hopen, hfinish⟩
    -- the directory check of the second write failed behind its file
    · have hquiet₂ := (openNewFile_ends uid directory _ request.source.data).execution
        ⟨t₂, _, w₃, hopen, hfollows₂⟩
      have hquiet : Quiet w w' :=
        Quiet.trans _ _ _ hquiet₁ (Quiet.trans _ _ _ hquiet₂ hquiet₃)
      have hfill : Runs (fillPayload uid directory request clock) (t₁ ++ t₂) (.error e) :=
        runs_bind.mpr (.inr ⟨prepared, t₁, t₂, rfl, hprepare, runs_bind.mpr (.inl ⟨e, hopen, rfl⟩)⟩)
      have hlater := laterStepFails_of_error (u := t₃) hfill
      obtain ⟨e', rfl⟩ := herror e rfl
      rw [List.append_assoc] at hlater
      exact iff_of_true (.inl (managedIds_congr hquiet.files directory))
        (.inr (not_or.mpr ⟨hlater, hquiet.created⟩))
    -- it was opened, and what is left is to finish the pair
    · obtain ⟨w₂, hfollows₂, hfollows₂'⟩ := follows_append.mp hfollows₂
      have hopened := (openNewFile_ends uid directory _ request.source.data).execution
        ⟨t₂, _, w₂, hopen, hfollows₂⟩
      have hend := (finishPair_ends uid hopened).execution ⟨t₂', result, w₃, hfinish, hfollows₂'⟩
      have hfill : Runs (fillPayload uid directory request clock) (t₁ ++ t₂)
          (.ok (prepared, progress)) :=
        runs_bind.mpr (.inr ⟨prepared, t₁, t₂, rfl, hprepare,
          runs_bind.mpr (.inr ⟨progress, t₂, [], (List.append_nil t₂).symm, hopen,
            runs_pure.mpr ⟨rfl, rfl⟩⟩)⟩)
      have hlater := laterStepFails_of_ok (v := t₃) hfill hfinish
      have hparts : t₁ ++ t₂ ++ (t₂' ++ t₃) = t₁ ++ (t₂ ++ t₂' ++ t₃) := by
        simp only [List.append_assoc]
      rw [hparts] at hlater
      rw [hlater]
      exact hend.allOrNothing_iff hunused hdata hquiet₁ hquiet₃ hok herror

/-! The payload is written, and the directory cannot be read when the manifest is due. -/

/-- When the backup is taken, -/
def savedAt : Moment := ⟨2026, 7, 18, 12, 0, 0, 1⟩

/-- and its identifier. -/
def savedId : String := String.ofList savedAt.compact ++ "-" ++ "0123456789ab"

/-- A backup of an empty configuration. -/
def emptyBackup : BackupRequest where
  source := ⟨[], "e3b0c44298fc1c149afbf4c8996fb92427ae41e4649b934ca495991b7852b855", ⟨1, 2, 0, 0⟩⟩
  operation := .apply
  maximumBackups := 5
  targetProfileId := some "evening"
  targetBackupId := none

/-- Its manifest. -/
def savedManifest : BackupManifest where
  backupId := savedId
  createdAtUtc := String.ofList savedAt.canonical
  sourceSha256 := emptyBackup.source.sha256
  sourceByteCount := 0
  operation := .apply
  targetProfileId := some "evening"
  targetBackupId := none

/-- The manifest of the rehearsed backup passes its own checks. -/
theorem savedManifest_accepted : savedManifest.accepted = true := by decide +kernel

theorem isBackupId_savedId : isBackupId savedId = true := by decide +kernel

/-- The empty file. -/
def emptyFileStat : Stat := ⟨.regular, fileMode, 1, 0, 1, 2, 0, 0⟩

/-- The calls of a directory check, around a descriptor. -/
def directoryCheck (d : Nat) : List FsExchange :=
  [⟨.lstat ["backups"], .ok backupsStat⟩, ⟨.lstat ["backups"], .ok backupsStat⟩,
    ⟨.openDirectory ["backups"], .ok d⟩, ⟨.fstat d, .ok backupsStat⟩, ⟨.close d, .ok ()⟩,
    ⟨.lstat ["backups"], .ok backupsStat⟩]

theorem directoryCheck_runs (d : Nat) :
    Runs (validateDirectory 0 ["backups"] true) (directoryCheck d) (.ok ()) :=
  .call _ <| .call _ <| .call _ <| .call _ <| .call _ <| .call _ <| .done _

/-- The calls of a directory check fit a world where the directory is usable. -/
theorem directoryCheck_follows {w : FsWorld} :
    Follows FsStep w (directoryCheck w.opened)
      ((w.opening ["backups"] false).closing w.opened true) :=
  .cons (.lstat _ _ nofun) <| .cons (.lstat _ _ nofun) <| .cons (.openDirectory _) <|
    .cons (.passive (by trivial) _) <| .cons (.close _) <| .cons (.lstat _ _ nofun) <| .nil _

/-- The directory is listed, -/
def capacityCalls : List FsExchange :=
  directoryCheck 0 ++ [⟨.openDirectory ["backups"], .ok (1 : Nat)⟩, ⟨.scandir (1 : Nat), .ok []⟩,
    ⟨.fstat (1 : Nat), .ok backupsStat⟩, ⟨.close (1 : Nat), .ok ()⟩]

theorem capacity_runs : Runs (ensureCapacity 0 ["backups"] 5) capacityCalls (.ok ()) := by
  have hsorted : ([] : List String).mergeSort (· ≤ ·) = [] := List.mergeSort_nil
  refine runs_bind.mpr (.inr ⟨⟨([] : List String).mergeSort (· ≤ ·), false⟩, capacityCalls, [],
    (List.append_nil _).symm, ?_, ?_⟩)
  · refine runs_bind.mpr (.inr ⟨(), _, _, rfl, directoryCheck_runs 0, ?_⟩)
    exact .call _ <| .call _ <| .call _ <| .call _ <| .done _
  · rw [hsorted]
    exact .done _

/-- an identifier is found free, -/
def identifierCalls : List FsExchange :=
  [⟨.token 6, .ok "0123456789ab"⟩,
    ⟨.lstat ["backups", managedFile savedId .yaml], .error .fileNotFound⟩,
    ⟨.lstat ["backups", managedFile savedId .json], .error .fileNotFound⟩]

theorem identifier_runs :
    Runs (availableIdentifier ["backups"] savedAt 8) identifierCalls (.ok savedId) := by
  rw [availableIdentifier_succ]
  refine runs_bind.mpr (.inr ⟨"0123456789ab", [_], _, rfl, .call _ (.done _), ?_⟩)
  show Runs (takeIdentifier ["backups"] savedAt 7 savedId) _ _
  unfold takeIdentifier
  rw [if_pos isBackupId_savedId]
  exact .call _ <| .call _ <| .done _

/-- A new file of no bytes. -/
def payloadCalls (name : String) : List FsExchange :=
  directoryCheck 2 ++ [⟨.openDirectory ["backups"], .ok (3 : Nat)⟩,
    ⟨.openNew ["backups", name], .ok (4 : Nat)⟩, ⟨.fchmod (4 : Nat), .ok ()⟩,
    ⟨.fsync (4 : Nat), .ok ()⟩, ⟨.fstat (4 : Nat), .ok emptyFileStat⟩]

theorem fill_runs : Runs (fillNewFile 0 4 []) [⟨.fchmod (4 : Nat), .ok ()⟩,
    ⟨.fsync (4 : Nat), .ok ()⟩, ⟨.fstat (4 : Nat), .ok emptyFileStat⟩] (.ok ()) := by
  unfold fillNewFile writeAll
  exact .call _ <| .call _ <| .call _ <| .done _

/-- The calls that write a payload, up to its close. -/
theorem payload_runs {name : String} (hname : requireSimpleName name = .ok ()) :
    Runs (openNewFile 0 ["backups"] name []) (payloadCalls name)
      (.ok ((3 : Nat), .opened (4 : Nat) (.ok ()))) := by
  refine runs_bind.mpr (.inr ⟨(), _, _, rfl, directoryCheck_runs 2, ?_⟩)
  rw [hname]
  refine runs_bind.mpr (.inr ⟨(), [], _, rfl, .done _, ?_⟩)
  refine runs_bind.mpr (.inr ⟨(3 : Nat), [_], _, rfl, .call _ (.done _), ?_⟩)
  refine runs_bind.mpr (.inr ⟨_, _, [], (List.append_nil _).symm, ?_, .done _⟩)
  refine runs_catching_bind.mpr ⟨.ok (4 : Nat), [_], _, rfl, .call _ (.done _), ?_⟩
  exact runs_catching_bind.mpr ⟨.ok (), _, [], (List.append_nil _).symm, fill_runs, .done _⟩

/-- and the directory cannot be looked at again. -/
def manifestFailure : List FsExchange :=
  [⟨.close (4 : Nat), .ok ()⟩, ⟨.close (3 : Nat), .ok ()⟩, ⟨.lstat ["backups"], .error .other⟩]

theorem record_runs {m : BackupManifest} {data : Bytes} (hmade : m.construct = .ok m)
    (hdata : serializeManifest m = .ok data) : Runs (do
      let manifest ← ofExcept m.construct
      let manifestBytes ← ofExcept (serializeManifest manifest)
      return (manifest, manifestBytes) : Fs (BackupManifest × Bytes)) [] (.ok (m, data)) := by
  rw [hmade]
  refine runs_bind.mpr (.inr ⟨m, [], [], rfl, .done m, ?_⟩)
  rw [hdata]
  exact runs_bind.mpr (.inr ⟨data, [], [], rfl, .done data, .done _⟩)

/-- The manifest as it would be written. -/
def savedBytes : Bytes := savedManifest.dump.toList.map fun c => UInt8.ofNat c.toNat

/-- The calls of the preparation: the capacity, then one attempt at an identifier. -/
theorem prepare_runs : Runs (prepareBackup 0 ["backups"] emptyBackup (some savedAt))
    (capacityCalls ++ identifierCalls) (.ok (savedManifest, savedBytes)) := by
  refine runs_bind.mpr (.inr ⟨(), _, _, rfl, capacity_runs, ?_⟩)
  refine runs_bind.mpr (.inr ⟨savedId, identifierCalls, [], (List.append_nil _).symm,
    identifier_runs, ?_⟩)
  exact record_runs (if_pos savedManifest_accepted)
    (serializeManifest_of_accepted savedManifest_accepted)

/-- The world once the directory was listed, -/
def listedWorld : FsWorld :=
  ((((emptyWorld.opening ["backups"] false).closing 0 true).opening ["backups"] false).closing 1 true)

/-- and once the payload was written. -/
def filledWorld : FsWorld :=
  ((((listedWorld.opening ["backups"] false).closing 2 true).opening ["backups"] false).opening
    ["backups", managedFile savedId .yaml] true).put ["backups", managedFile savedId .yaml] (some [])

/-- The payload is there, and no descriptor is open. -/
def leftWorld : FsWorld := (filledWorld.closing 4 true).closing 3 true

/-- The world after the failed manifest write still holds the payload. -/
theorem failure_follows : Follows FsStep emptyWorld
    (capacityCalls ++ identifierCalls ++ (payloadCalls (managedFile savedId .yaml) ++
      manifestFailure ++ [⟨.lstat ["backups"], .error .other⟩])) leftWorld := by
  refine follows_append.mpr ⟨listedWorld, follows_append.mpr ⟨listedWorld, ?_, ?_⟩,
    follows_append.mpr ⟨leftWorld, follows_append.mpr ⟨filledWorld, follows_append.mpr
      ⟨_, directoryCheck_follows, ?_⟩, ?_⟩, ?_⟩⟩
  · refine follows_append.mpr ⟨_, directoryCheck_follows, ?_⟩
    exact .cons (.openDirectory _) <| .cons (.scandir (fun _ h => absurd rfl h) List.nodup_nil) <|
      .cons (.passive (by trivial) _) <| .cons (.close _) <| .nil _
  · exact .cons (.passive (by trivial) _) <| .cons (.lstat _ _ fun _ => rfl) <|
      .cons (.lstat _ _ fun _ => rfl) <| .nil _
  · exact .cons (.openDirectory _) <| .cons (.openNew rfl) <| .cons (.passive (by trivial) _) <|
      .cons (.passive (by trivial) _) <| .cons (.passive (by trivial) _) <| .nil _
  · exact .cons (.close _) <| .cons (.close _) <| .cons (.lstat _ _ nofun) <| .nil _
  · exact .cons (.lstat _ _ nofun) <| .nil _

/-- The raised call leaves the payload, and its identifier counts. -/
theorem failed_manifest_leaves_payload :
    ∃ x : Execution FsStep (createBackup 0 ["backups"] emptyBackup (some savedAt)) emptyWorld,
      ¬AllOrNothing emptyWorld x.final ["backups"] emptyBackup.source.data x.result := by
  have hname : requireSimpleName (managedFile savedId .yaml) = .ok () := by decide +kernel
  have hruns : Runs (createBackup 0 ["backups"] emptyBackup (some savedAt))
      (capacityCalls ++ identifierCalls ++ (payloadCalls (managedFile savedId .yaml) ++
        manifestFailure ++ [⟨.lstat ["backups"], .error .other⟩]))
      (.error (.profile .filesystemBoundary)) := by
    rw [createBackup_eq]
    refine runs_bind.mpr (.inr ⟨_, _, _, rfl, prepare_runs, ?_⟩)
    refine runs_catching_bind.mpr ⟨.error (.profile .filesystemBoundary), _, _, rfl, ?_, ?_⟩
    · refine runs_bind.mpr (.inr ⟨_, _, _, rfl, payload_runs hname, ?_⟩)
      exact .call _ <| .call _ <| .call _ <| .raise _
    · exact .call _ <| .raise _
  refine ⟨⟨_, _, _, hruns, failure_follows⟩, ?_⟩
  have hunused : Unused emptyWorld ["backups"] savedId := ⟨isBackupId_savedId, fun _ => rfl⟩
  have hsome : filledWorld.files ["backups", managedFile savedId .yaml] = some [] :=
    FsWorld.put_files_self _ _ _
  have hstays : leftWorld.files (["backups"] ++ [managedFile savedId .yaml]) ≠ none := by
    show filledWorld.files ["backups", managedFile savedId .yaml] ≠ none
    rw [hsome]
    exact Option.some_ne_none []
  rintro (hsame | ⟨path, hunlink⟩)
  · exact managedIds_ne_of_stays hunused hstays hsame
  · have hremoved : leftWorld.failedUnlinks = emptyWorld.failedUnlinks := rfl
    exact not_unlinkFails hremoved path hunlink

end Aurora.ConfigProfiles
