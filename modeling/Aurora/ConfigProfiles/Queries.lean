/-
  The queries of the profile service: they change nothing, and what they show is there.

  A listing of backups accounts for every entry that the scan of the directory gave, up to the limit:
  a record stands for two files, and everything else but the lock is counted as skipped.
-/
import Mathlib.Algebra.BigOperators.Group.List.Lemmas
import Aurora.ConfigProfiles.Undoing

namespace Aurora.ConfigProfiles

open Program

variable {w w' : FsWorld} {α : Type}

/-! ## Counting entries -/

/-- The extensions of an identifier, among distinct names. -/
theorem length_extensionsOf {names : List String} (hnames : names.Nodup) (backupId : String) :
    (extensionsOf names backupId).length = (names.filterMap managedIdentifier).count backupId := by
  have hpairs : (names.filterMap managedName).Nodup := by
    refine List.Nodup.filterMap ?_ hnames
    rintro a b ⟨identifier, extension⟩ ha hb
    rw [(managedName_eq_some.mp ha).1, (managedName_eq_some.mp hb).1]
  have hids : names.filterMap managedIdentifier = (names.filterMap managedName).map (·.1) := by
    rw [List.map_filterMap]
    rfl
  unfold extensionsOf
  rw [hids, List.count, List.countP_map, List.countP_eq_length_filter]
  generalize names.filterMap managedName = pairs at hpairs
  -- both lists hold the pairs of the identifier
  have hperm : (([Extension.yaml, Extension.json].filter fun extension =>
      decide ((backupId, extension) ∈ pairs)).map (Prod.mk backupId)).Perm
        (pairs.filter ((· == backupId) ∘ (·.1))) := by
    refine (List.perm_ext_iff_of_nodup ?_ (hpairs.filter _)).mpr fun ⟨identifier, extension⟩ => ?_
    · refine List.Nodup.map (fun a b h => (Prod.mk.inj h).2) (List.Nodup.filter _ ?_)
      decide
    · simp only [List.mem_map, List.mem_filter, Function.comp_apply, beq_iff_eq, decide_eq_true_eq,
        Prod.mk.injEq]
      constructor
      · rintro ⟨e, ⟨-, hmem⟩, rfl, rfl⟩
        exact ⟨hmem, rfl⟩
      · rintro ⟨hmem, rfl⟩
        refine ⟨extension, ⟨?_, hmem⟩, rfl, rfl⟩
        cases extension
        · exact List.mem_cons_self
        · exact List.mem_cons_of_mem _ List.mem_cons_self
  have hlength := hperm.length_eq
  rwa [List.length_map] at hlength

/-- Every name is a stranger, the lock, or managed. -/
theorem length_names (names : List String) : names.length = (strangers names).length +
    names.count lockFilename + (names.filterMap managedIdentifier).length := by
  have hlock : managedName lockFilename = none := by
    refine Option.eq_none_iff_forall_ne_some.mpr fun ⟨identifier, extension⟩ h => ?_
    obtain ⟨hname, hid⟩ := managedName_eq_some.mp h
    exact managedFile_ne_dotted hid extension rfl hname.symm
  induction names with
  | nil => rfl
  | cons name names ih =>
    rw [List.length_cons, ih]
    unfold strangers managedIdentifier at *
    cases hname : managedName name with
    | some pair =>
      have hne : name ≠ lockFilename := by
        rintro rfl
        rw [hlock] at hname
        cases hname
      rw [List.filterMap_cons_some (b := pair.1) (by rw [hname]; rfl), List.count_cons_of_ne hne,
        List.filter_cons_of_neg (by simp [hname]), List.length_cons]
      omega
    | none =>
      rw [List.filterMap_cons_none (by rw [hname]; rfl)]
      by_cases hsame : name = lockFilename
      · rw [hsame, List.count_cons_self, List.filter_cons_of_neg (by simp)]
        omega
      · rw [List.count_cons_of_ne hsame, List.filter_cons_of_pos (by simp [hname, hsame]),
          List.length_cons]
        omega

/-- The identifiers in the order of a listing. -/
def listedIdentifiers (names : List String) : List String :=
  (countedIdentifiers names).mergeSort (· ≥ ·)

/-- Every managed identifier is listed once. -/
theorem listedIdentifiers_perm (names : List String) :
    (listedIdentifiers names).Perm (names.filterMap managedIdentifier).dedup :=
  List.mergeSort_perm _ _

/-- The newest identifier comes first. -/
theorem listedIdentifiers_sorted (names : List String) :
    (listedIdentifiers names).Pairwise (· > ·) := by
  have hnodup : (listedIdentifiers names).Nodup :=
    (listedIdentifiers_perm names).nodup_iff.mpr (List.nodup_dedup _)
  have hsorted : (listedIdentifiers names).Pairwise fun a b => decide (a ≥ b) = true := by
    refine List.pairwise_mergeSort ?_ ?_ _
    · intro a b c hab hbc
      exact decide_eq_true (le_trans (of_decide_eq_true hbc) (of_decide_eq_true hab))
    · intro a b
      rcases le_total b a with h | h <;> simp [h]
  refine (hsorted.and hnodup).imp fun h => ?_
  exact lt_of_le_of_ne (of_decide_eq_true h.1) (Ne.symm h.2)

/-- The files of all identifiers are the managed files. -/
theorem sum_extensionsOf {names : List String} (hnames : names.Nodup) :
    ((listedIdentifiers names).map fun backupId => (extensionsOf names backupId).length).sum =
      (names.filterMap managedIdentifier).length := by
  have hcounts : (listedIdentifiers names).map (fun backupId => (extensionsOf names backupId).length) =
      (listedIdentifiers names).map fun backupId => (names.filterMap managedIdentifier).count backupId :=
    List.map_congr_left fun backupId _ => length_extensionsOf hnames backupId
  rw [hcounts, ((listedIdentifiers_perm names).map _).sum_eq]
  exact List.sum_map_count_dedup_eq_length _

/-! ## Listing backups -/

variable (libraries : ConfigurationLibraries) (uid : Nat)

/-- A record shows a pair of files, and whether they fit. -/
def Recorded (w : FsWorld) (directory : Path) (record : BackupRecord) : Prop :=
  ∃ selected, Loaded libraries w directory record.backupId selected ∧
    record = ⟨selected.manifest, selected.intact⟩

/-- What the loop adds to a listing for these identifiers. -/
structure Listed (w : FsWorld) (directory : Path) (names identifiers : List String)
    (before after : BackupListing) (added : List BackupRecord) : Prop where
  records : after.records = before.records ++ added
  limit : after.entryLimitReached = before.entryLimitReached
  order : (added.map (·.backupId)).Sublist identifiers
  recorded : ∀ record ∈ added, Recorded libraries w directory record
  counted : after.skippedEntries + 2 * added.length = before.skippedEntries +
    (identifiers.map fun backupId => (extensionsOf names backupId).length).sum

theorem listRecords_returns (directory : Path) (names identifiers : List String) :
    ∀ (listing : BackupListing) {v : FsWorld}, v.files = w.files →
      (listRecords libraries uid directory names identifiers listing).Ensures FsStep v
        (Returns (fun after => ∃ added,
          Listed libraries w directory names identifiers listing after added) v) := by
  induction identifiers with
  | nil =>
    intro listing v hv
    exact returns_pure ⟨[], (List.append_nil _).symm, rfl, List.nil_sublist _, nofun, rfl⟩
  | cons backupId rest ih =>
    intro listing v hv
    -- the identifier is skipped, with all its files
    have hskip : ∀ {u : FsWorld}, Quiet v u →
        (listRecords libraries uid directory names rest
          (listing.skipping (extensionsOf names backupId).length)).Ensures FsStep u
            (Returns (fun after => ∃ added, Listed libraries w directory names (backupId :: rest)
              listing after added) v) := by
      intro u hquiet
      refine (ih _ (hquiet.files.trans hv)).mono fun r u' hr => ?_
      refine ⟨Quiet.trans _ _ _ hquiet hr.1, fun after hafter => ?_⟩
      obtain ⟨added, hrecords, hlimit, horder, hrecorded, hcounted⟩ := hr.2 after hafter
      refine ⟨added, hrecords, hlimit, horder.cons _, hrecorded, ?_⟩
      rw [hcounted, List.map_cons, List.sum_cons]
      exact Nat.add_assoc _ _ _
    unfold listRecords
    refine ensures_ite (fun _ => hskip (Quiet.refl v)) fun hboth => ?_
    have hfiles : (extensionsOf names backupId).length = 2 := by
      rw [Decidable.not_not.mp hboth]
      rfl
    refine (loadPair_returns libraries uid directory backupId false v).catching_bind fun r u hr => ?_
    cases r with
    | error e =>
      refine ensures_ite (fun _ => ?_) fun _ => ensures_raise.mpr (.error hr.1 _)
      have h := hskip hr.1
      rwa [hfiles] at h
    | ok selected =>
      obtain ⟨hloaded, -⟩ := hr.2 selected rfl
      refine (ih _ (hr.1.files.trans hv)).mono fun r u' hr' => ?_
      refine ⟨Quiet.trans _ _ _ hr.1 hr'.1, fun after hafter => ?_⟩
      obtain ⟨added, hrecords, hlimit, horder, hrecorded, hcounted⟩ := hr'.2 after hafter
      have hnamed : selected.manifest.backupId = backupId := hloaded.named
      have hthis : Recorded libraries w directory ⟨selected.manifest, selected.intact⟩ := by
        refine ⟨selected, ?_, rfl⟩
        show Loaded libraries w directory selected.manifest.backupId selected
        rw [hnamed]
        exact ⟨⟨hv ▸ hloaded.payload.1, hloaded.payload.2⟩, hv ▸ hloaded.manifest, hnamed⟩
      refine ⟨⟨selected.manifest, selected.intact⟩ :: added, ?_, hlimit, ?_, ?_, ?_⟩
      · rw [hrecords, List.append_assoc]
        rfl
      · show (selected.manifest.backupId :: added.map (·.backupId)).Sublist (backupId :: rest)
        rw [hnamed]
        exact horder.cons_cons backupId
      · intro record hrecord
        rcases List.mem_cons.mp hrecord with rfl | hrecord
        · exact hthis
        · exact hrecorded record hrecord
      · rw [List.map_cons, List.sum_cons, hfiles, List.length_cons]
        have h : after.skippedEntries + 2 * added.length = listing.skippedEntries +
          (rest.map fun backupId => (extensionsOf names backupId).length).sum := hcounted
        omega

/-- What a listing says about a directory, with the calls that were made. -/
structure ListsDirectory (w : FsWorld) (t : List FsExchange) (directory : Path)
    (listing : BackupListing) : Prop where
  newestFirst : (listing.records.map (·.backupId)).Pairwise (· > ·)
  recorded : ∀ record ∈ listing.records, Recorded libraries w directory record
  /-- Every entry of the scan is accounted for, up to the limit: two in a record, one as the lock,
  the others skipped. -/
  accounted : ∃ names, Scans w t directory names ∧
    listing.entryLimitReached = decide (maxBackupEntries < names.length) ∧
    listing.skippedEntries + 2 * listing.records.length +
      (names.take maxBackupEntries).count lockFilename = (names.take maxBackupEntries).length

/-- The listing shows the managed pairs and counts the rest as skipped. -/
theorem listManaged_lists (directory : Path) (w : FsWorld) (t : List FsExchange) :
    (listManaged libraries uid directory).Ensures (Recording FsStep) (w, t) fun r s =>
      Returns (ListsDirectory libraries w s.2 directory) w r s.1 := by
  refine (enumerateDirectory_scans uid directory maxBackupEntries w t).bind ?_ fun e s h =>
    .error h.1 e
  rintro entries ⟨w₁, t₁⟩ ⟨h₁, hentries⟩
  obtain ⟨names, hscans, heq⟩ := hentries entries rfl
  have hperm : entries.names.Perm (names.take maxBackupEntries) :=
    heq ▸ listed_perm names maxBackupEntries
  refine ((listRecords_returns libraries uid directory entries.names
    (listedIdentifiers entries.names) ⟨[], (strangers entries.names).length, entries.limitReached⟩
    h₁.files).recording t₁).mono ?_
  rintro r ⟨w₂, t₂⟩ ⟨⟨hquiet, hreturned⟩, ht⟩
  refine ⟨Quiet.trans _ _ _ h₁ hquiet, fun listing hlisting => ?_⟩
  obtain ⟨added, hrecords, hlimit, horder, hrecorded, hcounted⟩ := hreturned listing hlisting
  rw [List.nil_append] at hrecords
  refine ⟨?_, ?_, names, hscans.later ht, ?_, ?_⟩
  · rw [hrecords]
    exact (listedIdentifiers_sorted entries.names).sublist horder
  · rwa [hrecords]
  · rw [hlimit, heq]
    rfl
  · -- the strangers, the lock and the managed files are all the entries
    have hnodup : entries.names.Nodup :=
      hperm.nodup_iff.mpr (hscans.distinct.sublist (List.take_sublist _ _))
    have htotal := length_names entries.names
    have hsum := sum_extensionsOf hnodup
    have hcounted' : listing.skippedEntries + 2 * added.length =
        (strangers entries.names).length + (entries.names.filterMap managedIdentifier).length :=
      hsum ▸ hcounted
    rw [hrecords, ← hperm.count_eq, ← hperm.length_eq]
    omega

/-- A backup that was saved is shown as what it is. -/
theorem Recorded.of_saved {directory : Path} {record : BackupRecord} {m : BackupManifest}
    {source : Bytes} (h : Recorded libraries w directory record) (hsaved : Saved w directory m source)
    (hsha : m.sourceSha256 = hexdigest source) (hcount : m.sourceByteCount = source.length)
    (hloads : ReadsBack libraries.manifests m) (hid : record.backupId = m.backupId) :
    record = ⟨m, true⟩ := by
  obtain ⟨selected, ⟨⟨hpayload, hdigest⟩, ⟨raw, hraw, hparse⟩, -⟩, rfl⟩ := h
  obtain ⟨data, hdata, hjson⟩ := hsaved.manifest
  rw [hid, hjson] at hraw
  obtain rfl := Option.some.inj hraw
  have hmanifest : selected.manifest = m := Except.ok.inj
    (hparse.symm.trans (parseManifest_serializeManifest hsaved.accepted hdata hloads))
  rw [hid, hsaved.payload] at hpayload
  have hsource : selected.snapshot.data = source := (Option.some.inj hpayload).symm
  have hintact : selected.intact = true := by
    refine decide_eq_true ⟨?_, ?_⟩
    · rw [hmanifest, hsha, hdigest, hsource]
    · rw [hmanifest, hcount, hsource]
  rw [hmanifest, hintact]

/-! ## Commands that only read -/

/-- Only a body that returned is reported as a success. -/
theorem reported_success {onValueError : ProfileReason}
    {r : Except FsException ProfileCommandResult}
    (h : (reported onValueError r).exitCode = .success) : r = .ok (reported onValueError r) := by
  cases r with
  | ok result => rfl
  | error e => cases e <;> cases h

/-- A query changes nothing, and what it reports as a success was read. -/
structure Answers (P : ProfileCommandResult → Prop) (w w' : FsWorld) (result : ProfileCommandResult) :
    Prop where
  quiet : Quiet w w'
  success : result.exitCode = .success → P result

/-- A query always returns a result and changes no file. -/
theorem query_answers {onValueError : ProfileReason} {body : Fs ProfileCommandResult}
    {P : List FsExchange → ProfileCommandResult → Prop}
    (h : body.Ensures (Recording FsStep) (w, []) fun r s => Returns (P s.2) w r s.1)
    (x : Execution FsStep (handling (reported onValueError) body) w) :
    ∃ result, x.result = .ok result ∧ Answers (P x.transcript) w x.final result := by
  obtain ⟨inner, hresult, hquiet, hreturned⟩ := (handling_ends h).transcript x
  exact ⟨_, hresult, hquiet, fun hsuccess => hreturned _ (reported_success hsuccess)⟩

/-- A query whose answer says nothing of the calls. -/
theorem query_returns {onValueError : ProfileReason} {body : Fs ProfileCommandResult}
    {P : ProfileCommandResult → Prop} (h : body.Ensures FsStep w (Returns P w))
    (x : Execution FsStep (handling (reported onValueError) body) w) :
    ∃ result, x.result = .ok result ∧ Answers P w x.final result :=
  query_answers (P := fun _ => P) ((h.recording []).mono fun _ _ h => h.1) x

/-- The result shows what is in the directory, and a saved backup as what it is. -/
structure ShowsBackups (w : FsWorld) (t : List FsExchange) (directory : Path)
    (result : ProfileCommandResult) : Prop where
  lists : ListsDirectory libraries w t directory
    ⟨result.backups, result.skippedEntries, result.entryLimitReached⟩
  saved : ∀ m source, Saved w directory m source → m.sourceSha256 = hexdigest source →
    m.sourceByteCount = source.length → ReadsBack libraries.manifests m →
      ∀ record ∈ result.backups, record.backupId = m.backupId → record = ⟨m, true⟩

/-- The listing of backups answers with what the directory shows. -/
theorem list_backups_answers (directory : Path) (w : FsWorld)
    (x : Execution FsStep (listBackups libraries uid directory) w) :
    ∃ result, x.result = .ok result ∧
      Answers (ShowsBackups libraries w x.transcript directory) w x.final result := by
  refine query_answers (P := fun t => ShowsBackups libraries w t directory) ?_ x
  refine ((keeps_validateDirectory uid directory true w).recording []).bind ?_ fun e s h =>
    .error h.1 e
  rintro _ ⟨w₁, t₁⟩ ⟨h₁, -⟩
  have hrecorded : ∀ record, Recorded libraries w₁ directory record →
      Recorded libraries w directory record := by
    rintro record ⟨selected, ⟨⟨hpayload, hdigest⟩, hmanifest, hnamed⟩, heq⟩
    exact ⟨selected, ⟨⟨h₁.files ▸ hpayload, hdigest⟩, h₁.files ▸ hmanifest, hnamed⟩, heq⟩
  refine (listManaged_lists libraries uid directory w₁ t₁).bind ?_ fun e s h =>
    .error (Quiet.trans _ _ _ h₁ h.1) e
  rintro listing ⟨w₂, t₂⟩ ⟨h₂, hreturned⟩
  have hlists := hreturned listing rfl
  refine ensures_pure.mpr ⟨Quiet.trans _ _ _ h₁ h₂, fun result hresult => ?_⟩
  obtain rfl := Except.ok.inj hresult
  refine ⟨⟨hlists.newestFirst, ?_, ?_⟩, ?_⟩
  · exact fun record hrecord => hrecorded record (hlists.recorded record hrecord)
  · obtain ⟨names, ⟨hscanned, hdistinct, hcomplete⟩, hcounts⟩ := hlists.accounted
    exact ⟨names, ⟨hscanned, hdistinct, fun name hname => hcomplete name (h₁.files ▸ hname)⟩, hcounts⟩
  · intro m source hsaved hsha hcount hloads record hrecord hid
    exact (hrecorded record (hlists.recorded record hrecord)).of_saved libraries hsaved hsha hcount
      hloads hid

/-- The files hold these documents, which passed every validation. -/
structure Planned (w : FsWorld) (config : FilePath) (directory : Path) (profileId : String)
    (result : ProfileCommandResult) : Prop where
  planned : ∃ active candidate activeDocument candidateDocument,
    w.files config.path = some active ∧
    w.files (profilePath directory profileId) = some candidate ∧
    validateYaml libraries active none = .ok activeDocument ∧
    validateYaml libraries candidate (some profileId) = .ok candidateDocument ∧
    result.plan = some ⟨profileId, hexdigest active, hexdigest candidate, active = candidate,
      (planChanges activeDocument candidateDocument maxPlanChanges).1,
      (planChanges activeDocument candidateDocument maxPlanChanges).2⟩

/-- A plan answers with the changes between the two documents. -/
theorem plan_answers (config : FilePath) (directory : Path) (profileId : String) (w : FsWorld)
    (x : Execution FsStep (planProfile libraries uid config directory profileId) w) :
    ∃ result, x.result = .ok result ∧
      Answers (Planned libraries w config directory profileId) w x.final result := by
  refine query_returns ?_ x
  refine Returns.bind (Returns.of_keeps (keeps_ofExcept Quiet.refl _) w) fun _ w₁ _ h₁ => ?_
  refine Returns.bind (loadActive_returns libraries uid config w₁)
    fun ⟨active, activeDocument⟩ w₂ hactive h₂ => ?_
  refine Returns.bind (loadProfile_returns libraries uid directory profileId w₂)
    fun ⟨candidate, candidateDocument⟩ w₃ hcandidate _ => ?_
  refine Returns.bind (Returns.of_keeps (fun v => (readSecureFile_returns uid _ _ v).mono
    fun _ _ h => h.1) w₃) fun again w₄ _ _ => ?_
  refine Returns.bind (Returns.of_keeps (keeps_ofExcept Quiet.refl _) w₄) fun _ w₅ _ _ => ?_
  obtain ⟨⟨hactive, hdigest⟩, hvalid⟩ := hactive
  obtain ⟨⟨hcandidate, hdigest'⟩, hvalid'⟩ := hcandidate
  refine returns_pure ⟨active.data, candidate.data, activeDocument, candidateDocument,
    h₁.files ▸ hactive, h₁.files ▸ h₂.files ▸ hcandidate, hvalid, hvalid', ?_⟩
  rw [← hdigest, ← hdigest']
  rfl

/-- A validation succeeds only for a profile that passes its checks. -/
theorem validate_answers (directory : Path) (profileId : String) (w : FsWorld)
    (x : Execution FsStep (validateProfile libraries uid directory profileId) w) :
    ∃ result, x.result = .ok result ∧ Answers (fun _ => isProfileId profileId = true ∧
      ∃ data document, w.files (profilePath directory profileId) = some data ∧
        validateYaml libraries data (some profileId) = .ok document) w x.final result := by
  refine query_returns ?_ x
  refine Returns.bind (returns_ofExcept (P := fun _ => isProfileId profileId = true)
    fun _ h => ?_) fun _ w₁ hid h₁ => ?_
  · unfold requireProfileId at h
    split at h
    case isTrue hid => exact hid
    case isFalse => cases h
  refine Returns.bind (loadProfile_returns libraries uid directory profileId w₁)
    fun ⟨snapshot, document⟩ w₂ hprofile _ => ?_
  refine Returns.bind (Returns.of_keeps (fun v => (readSecureFile_returns uid _ _ v).mono
    fun _ _ h => h.1) w₂) fun again w₃ _ _ => ?_
  refine Returns.bind (Returns.of_keeps (keeps_ofExcept Quiet.refl _) w₃) fun _ w₄ _ _ => ?_
  exact returns_pure ⟨hid, snapshot.data, document, h₁.files ▸ hprofile.1.1, hprofile.2⟩

/-! ## Listing profiles -/

/-- The loop finds valid identifiers whose files are there, and skips the other names. -/
structure Found (w : FsWorld) (directory : Path) (total : Nat) (found : List String × Nat) : Prop where
  profiles : ∀ profileId ∈ found.1, isProfileId profileId = true ∧
    w.files (profilePath directory profileId) ≠ none
  counted : found.1.length + found.2 = total

theorem listNames_returns (directory : Path) (names : List String) :
    ∀ {found : List String × Nat} {total : Nat} {v : FsWorld}, v.files = w.files →
      Found w directory total found → (listNames uid directory names found).Ensures FsStep v
        (Returns (Found w directory (total + names.length)) v) := by
  induction names with
  | nil => exact fun _ hfound => returns_pure hfound
  | cons name rest ih =>
    rintro ⟨profiles, skipped⟩ total v hv hfound
    have hnext : total + 1 + rest.length = total + (name :: rest).length := by
      rw [List.length_cons]
      omega
    -- the name is skipped
    have hskip : ∀ {u : FsWorld}, Quiet v u →
        (listNames uid directory rest (profiles, skipped + 1)).Ensures FsStep u
          (Returns (Found w directory (total + (name :: rest).length)) v) := by
      intro u hquiet
      have hmore : Found w directory (total + 1) (profiles, skipped + 1) :=
        ⟨hfound.profiles, congrArg (· + 1) hfound.counted⟩
      refine (ih (hquiet.files.trans hv) hmore).mono fun r u' hr => ?_
      exact ⟨Quiet.trans _ _ _ hquiet hr.1, hnext ▸ hr.2⟩
    unfold listNames
    split
    case h_1 => exact hskip (Quiet.refl v)
    case h_2 profileId hstripped =>
      refine ensures_ite (fun hid => ?_) fun _ => hskip (Quiet.refl v)
      refine (inspectSecureFile_returns uid (directory ++ [name]) maxYamlBytes v).catching_bind
        fun r u hr => ?_
      cases r with
      | error e =>
        exact ensures_ite (fun _ => hskip hr.1) fun _ => ensures_raise.mpr (.error hr.1 _)
      | ok identity =>
        have hpath : profilePath directory profileId = directory ++ [name] := by
          unfold profilePath
          rw [stripSuffix_eq_some.mp hstripped]
        have hmore : Found w directory (total + 1) (profiles ++ [profileId], skipped) := by
          refine ⟨fun other hother => ?_, ?_⟩
          · rcases List.mem_append.mp hother with hold | hnew
            · exact hfound.profiles other hold
            · rw [List.mem_singleton.mp hnew, hpath]
              exact ⟨hid, hv ▸ hr.2 identity rfl⟩
          · have hcounted : profiles.length + skipped = total := hfound.counted
            show (profiles ++ [profileId]).length + skipped = total + 1
            rw [List.length_append, List.length_singleton]
            omega
        refine (ih (hr.1.files.trans hv) hmore).mono fun r u' hr' => ?_
        exact ⟨Quiet.trans _ _ _ hr.1 hr'.1, hnext ▸ hr'.2⟩

/-- What a listing of profiles says, with the calls that were made. -/
structure ShowsProfiles (w : FsWorld) (t : List FsExchange) (directory : Path)
    (result : ProfileCommandResult) : Prop where
  sorted : result.profiles.Pairwise (· ≤ ·)
  profiles : ∀ profileId ∈ result.profiles, isProfileId profileId = true ∧
    w.files (profilePath directory profileId) ≠ none
  /-- Every entry of the scan is accounted for, up to the limit. -/
  accounted : ∃ names, Scans w t directory names ∧
    result.entryLimitReached = decide (maxProfileEntries < names.length) ∧
    result.profiles.length + result.skippedEntries = (names.take maxProfileEntries).length

/-- The listing of profiles answers with what the directory shows. -/
theorem list_profiles_answers (directory : Path) (w : FsWorld)
    (x : Execution FsStep (listProfiles uid directory) w) :
    ∃ result, x.result = .ok result ∧
      Answers (ShowsProfiles w x.transcript directory) w x.final result := by
  refine query_answers (P := fun t => ShowsProfiles w t directory) ?_ x
  refine (enumerateDirectory_scans uid directory maxProfileEntries w []).bind ?_ fun e s h =>
    .error h.1 e
  rintro entries ⟨w₁, t₁⟩ ⟨h₁, hentries⟩
  obtain ⟨names, hscans, heq⟩ := hentries entries rfl
  have hlength : entries.names.length = (names.take maxProfileEntries).length := by
    rw [heq]
    exact (listed_perm names maxProfileEntries).length_eq
  have hnone : Found w directory 0 ([], 0) := ⟨nofun, rfl⟩
  refine ((listNames_returns uid directory entries.names h₁.files hnone).recording t₁).bind ?_
    fun e s h => .error (Quiet.trans _ _ _ h₁ h.1.1) e
  rintro ⟨profiles, skipped⟩ ⟨w₂, t₂⟩ ⟨⟨h₂, hreturned⟩, ht⟩
  have hfound := hreturned (profiles, skipped) rfl
  have hperm := List.mergeSort_perm profiles (· ≤ ·)
  refine ensures_pure.mpr ⟨Quiet.trans _ _ _ h₁ h₂, fun result hresult => ?_⟩
  obtain rfl := Except.ok.inj hresult
  refine ⟨?_, fun profileId h => ?_, names, hscans.later ht, ?_, ?_⟩
  · have hsorted : (profiles.mergeSort (· ≤ ·)).Pairwise fun a b => decide (a ≤ b) = true := by
      refine List.pairwise_mergeSort ?_ ?_ _
      · intro a b c hab hbc
        exact decide_eq_true (le_trans (of_decide_eq_true hab) (of_decide_eq_true hbc))
      · intro a b
        rcases le_total a b with h | h <;> simp [h]
    exact hsorted.imp fun h => of_decide_eq_true h
  · exact hfound.profiles profileId (hperm.mem_iff.mp h)
  · show entries.limitReached = _
    rw [heq]
    rfl
  · have hcounted : profiles.length + skipped = 0 + entries.names.length := hfound.counted
    show (profiles.mergeSort (· ≤ ·)).length + skipped = _
    rw [hperm.length_eq, hcounted, Nat.zero_add, hlength]

end Aurora.ConfigProfiles
