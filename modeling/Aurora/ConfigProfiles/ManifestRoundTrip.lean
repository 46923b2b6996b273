/-
  Manifests written and read back.

  What `parse_manifest` accepts is an object whose pairs are the fields of the manifest it returns
  (`ofFields_eq_some`), so the object the encoder writes is read as the manifest it was written
  from.  The creation time of an accepted manifest is the text of a moment, and its identifier
  begins with the same moment (`timestampCanonical_eq`).

  1. **Times** — a text of digits is the padded text of its number.
  2. **Sizes** — an accepted manifest fits the bound.
  3. **Fields** — the object of a manifest.
  4. **Law** — writing and reading.
-/
import Aurora.ConfigProfiles.Manifests

namespace Aurora.ConfigProfiles

/-! ## Times -/

theorem isAsciiDigit_iff {c : Char} : isAsciiDigit c = true ↔ 48 ≤ c.toNat ∧ c.toNat ≤ 57 := by
  unfold isAsciiDigit
  rw [Bool.and_eq_true, decide_eq_true_eq, decide_eq_true_eq]
  exact Iff.rfl

/-- The digit of its value is the character itself. -/
theorem digitChar_value {c : Char} (h : isAsciiDigit c = true) :
    Nat.digitChar (c.toNat - '0'.toNat) = c := by
  obtain ⟨hlow, hhigh⟩ := isAsciiDigit_iff.mp h
  have hzero : '0'.toNat = 48 := rfl
  apply Char.toNat_inj.mp
  rw [Nat.toNat_digitChar_of_lt_ten (by omega)]
  omega

/-- One more digit is worth one, the others ten times as much. -/
theorem digits_concat (l : List Char) (c : Char) :
    digits (l ++ [c]) = 10 * digits l + (c.toNat - '0'.toNat) := by
  unfold digits
  rw [List.foldl_append]
  rfl

/-- One more digit at the end. -/
theorem padded_concat {width k d : Nat} (hwidth : 1 ≤ width) (hd : d < 10) :
    padded (width + 1) (10 * k + d) = padded width k ++ [Nat.digitChar d] := by
  unfold padded
  rcases Nat.eq_zero_or_pos k with rfl | hk
  · rw [Nat.mul_zero, Nat.zero_add, Nat.toDigits_of_lt_base hd, Nat.toDigits_zero,
      List.length_singleton, List.length_singleton, Nat.add_sub_cancel]
    obtain ⟨w, rfl⟩ := Nat.exists_eq_add_of_le' hwidth
    rw [Nat.add_sub_cancel, ← List.replicate_succ']
  · have hdigits : Nat.toDigits 10 (10 * k + d) = Nat.toDigits 10 k ++ [Nat.digitChar d] := by
      rw [Nat.toDigits_of_base_le (by decide) (by omega)]
      rw [show (10 * k + d) / 10 = k from by omega, show (10 * k + d) % 10 = d from by omega]
    rw [hdigits, List.length_append, List.length_singleton, Nat.add_sub_add_right,
      List.append_assoc]

/-- A text of digits is the padded text of the number it is read as. -/
theorem padded_digits {l : List Char} (hl : l ≠ []) (h : l.all isAsciiDigit = true) :
    padded l.length (digits l) = l := by
  induction l using List.reverseRecOn with
  | nil => exact absurd rfl hl
  | append_singleton l c ih =>
    rw [List.all_append, Bool.and_eq_true] at h
    obtain ⟨hall, hc⟩ := h
    rw [List.all_cons, List.all_nil, Bool.and_true] at hc
    have hvalue : c.toNat - '0'.toNat < 10 := by
      have := isAsciiDigit_iff.mp hc
      have hzero : '0'.toNat = 48 := rfl
      omega
    rw [digits_concat, List.length_append, List.length_singleton]
    rcases List.eq_nil_or_concat l with rfl | ⟨l', c', hconcat⟩
    · unfold padded digits
      rw [List.foldl_nil, Nat.mul_zero, Nat.zero_add, Nat.toDigits_of_lt_base hvalue,
        digitChar_value hc]
      rfl
    · have hne : l ≠ [] := by
        rw [hconcat, List.concat_eq_append]
        exact List.concat_ne_nil _ _
      rw [padded_concat (List.length_pos_of_ne_nil hne) hvalue, ih hne hall, digitChar_value hc]

/-- The first run of a text of runs. -/
theorem digitRuns_cons {n : Nat} {separator : Char} {runs : List (Nat × Char)} {text : List Char}
    (h : digitRuns ((n, separator) :: runs) text = true) :
    ∃ run rest, text = run ++ separator :: rest ∧ run.length = n ∧ run.all isAsciiDigit = true ∧
      digitRuns runs rest = true := by
  unfold digitRuns at h
  simp only [Bool.and_eq_true, decide_eq_true_eq, beq_iff_eq] at h
  obtain ⟨⟨⟨hlength, hdigits⟩, hhead⟩, hrest⟩ := h
  refine ⟨text.take n, text.drop (n + 1), ?_, hlength, hdigits, hrest⟩
  have hdrop : text.drop n = separator :: text.drop (n + 1) := by
    rw [← List.tail_drop]
    cases hcut : text.drop n with
    | nil =>
      rw [hcut] at hhead
      cases hhead
    | cons c rest =>
      rw [hcut] at hhead
      rw [Option.some.inj hhead]
      rfl
  rw [← hdrop, List.take_append_drop]

/-- A run keeps all its characters where digits are picked, a separator is dropped. -/
theorem filter_run {run rest : List Char} {separator : Char} (hrun : run.all isAsciiDigit = true)
    (hseparator : isAsciiDigit separator = false) :
    (run ++ separator :: rest).filter isAsciiDigit = run ++ rest.filter isAsciiDigit := by
  rw [List.filter_append, List.filter_eq_self.mpr (List.all_eq_true.mp hrun),
    List.filter_cons_of_neg (by rw [hseparator]; exact Bool.false_ne_true)]

/-- The moment of seven runs of digits. -/
theorem momentOf_runs {year month day hour minute second microsecond : List Char}
    (hyear : year.length = 4) (hmonth : month.length = 2) (hday : day.length = 2)
    (hhour : hour.length = 2) (hminute : minute.length = 2) (hsecond : second.length = 2) :
    momentOf (year ++ (month ++ (day ++ (hour ++ (minute ++ (second ++ microsecond)))))) =
      ⟨digits year, digits month, digits day, digits hour, digits minute, digits second,
        digits microsecond⟩ := by
  have hdrop : ∀ {text run rest : List Char} {n k : Nat}, text.drop n = run ++ rest →
      run.length = k → text.drop (n + k) = rest := by
    intro text run rest n k htext hk
    rw [← List.drop_drop, htext]
    exact List.drop_left' hk
  generalize htext : year ++ (month ++ (day ++ (hour ++ (minute ++ (second ++ microsecond))))) =
    text
  have h4 : text.drop (0 + 4) = _ := hdrop (n := 0) htext.symm hyear
  have h6 : text.drop (4 + 2) = _ := hdrop h4 hmonth
  have h8 : text.drop (6 + 2) = _ := hdrop h6 hday
  have h10 : text.drop (8 + 2) = _ := hdrop h8 hhour
  have h12 : text.drop (10 + 2) = _ := hdrop h10 hminute
  have h14 : text.drop (12 + 2) = _ := hdrop h12 hsecond
  unfold momentOf
  rw [h4, h6, h8, h10, h12, h14, List.take_left' hmonth, List.take_left' hday,
    List.take_left' hhour, List.take_left' hminute, List.take_left' hsecond, ← htext,
    List.take_left' hyear]

/-- The moment that a canonical text names. -/
def momentIn (value : String) : Moment := momentOf (value.toList.filter isAsciiDigit)

/-- A canonical text is the text of the moment it names. -/
theorem timestampCanonical_eq {value : String}
    (h : BackupManifest.timestampCanonical value = true) :
    (momentIn value).Valid ∧ value.toList = (momentIn value).canonical := by
  unfold BackupManifest.timestampCanonical namesMoment at h
  rw [Bool.and_eq_true, decide_eq_true_eq] at h
  obtain ⟨hruns, hvalid⟩ := h
  refine ⟨hvalid, ?_⟩
  obtain ⟨year, rest, htext, hyear, hyears, hruns⟩ := digitRuns_cons hruns
  obtain ⟨month, rest, rfl, hmonth, hmonths, hruns⟩ := digitRuns_cons hruns
  obtain ⟨day, rest, rfl, hday, hdays, hruns⟩ := digitRuns_cons hruns
  obtain ⟨hour, rest, rfl, hhour, hhours, hruns⟩ := digitRuns_cons hruns
  obtain ⟨minute, rest, rfl, hminute, hminutes, hruns⟩ := digitRuns_cons hruns
  obtain ⟨second, rest, rfl, hsecond, hseconds, hruns⟩ := digitRuns_cons hruns
  obtain ⟨microsecond, rest, rfl, hmicro, hmicros, hruns⟩ := digitRuns_cons hruns
  obtain rfl := List.isEmpty_iff.mp hruns
  have hfilter : value.toList.filter isAsciiDigit =
      year ++ (month ++ (day ++ (hour ++ (minute ++ (second ++ microsecond))))) := by
    rw [htext, filter_run hyears (by decide), filter_run hmonths (by decide),
      filter_run hdays (by decide), filter_run hhours (by decide), filter_run hminutes (by decide),
      filter_run hseconds (by decide), filter_run hmicros (by decide), List.filter_nil,
      List.append_nil]
  have hmoment := @momentOf_runs _ _ _ _ _ _ microsecond hyear hmonth hday hhour hminute hsecond
  rw [← hfilter] at hmoment
  have hpadded : ∀ {run : List Char} {n : Nat}, run.length = n + 1 → run.all isAsciiDigit = true →
      padded (n + 1) (digits run) = run := by
    intro run n hlength hrun
    rw [← hlength]
    exact padded_digits (List.ne_nil_of_length_pos (by omega)) hrun
  unfold momentIn
  rw [hmoment, htext]
  unfold Moment.canonical
  dsimp only
  rw [hpadded hyear hyears, hpadded hmonth hmonths, hpadded hday hdays, hpadded hhour hhours,
    hpadded hminute hminutes, hpadded hsecond hseconds, hpadded hmicro hmicros]
  simp only [List.append_assoc, List.cons_append]

/-! ## Sizes -/

/-- The length of a text of runs. -/
theorem length_of_digitRuns {runs : List (Nat × Char)} {text : List Char}
    (h : digitRuns runs text = true) : text.length = (runs.map fun run => run.1 + 1).sum := by
  induction runs generalizing text with
  | nil =>
    obtain rfl := List.isEmpty_iff.mp h
    rfl
  | cons run runs ih =>
    obtain ⟨text, rest, rfl, hlength, -, hrest⟩ := digitRuns_cons (n := run.1) h
    rw [List.length_append, List.length_cons, ih hrest, hlength, List.map_cons, List.sum_cons]
    omega

theorem length_of_isBackupId {value : String} (h : isBackupId value = true) :
    value.toList.length = 35 := by
  unfold isBackupId at h
  simp only [Bool.and_eq_true, decide_eq_true_eq, List.length_drop] at h
  omega

theorem length_of_isProfileId {value : String} (h : isProfileId value = true) :
    value.toList.length ≤ 40 := by
  unfold isProfileId at h
  split at h
  · cases h
  · rename_i htext
    simp only [Bool.and_eq_true, decide_eq_true_eq] at h
    rw [htext, List.length_cons]
    omega

namespace BackupManifest

/-- What an accepted manifest satisfies, one validator after the other. -/
theorem accepted_iff {m : BackupManifest} : m.accepted = true ↔
    isBackupId m.backupId = true ∧ timestampCanonical m.createdAtUtc = true ∧
      digestIsSha256 m.sourceSha256 = true ∧ m.sourceByteCount ≤ maxYamlBytes ∧
      m.targetProfileId.all isProfileId = true ∧ m.targetBackupId.all isBackupId = true ∧
      m.targetMatches = true ∧
      (momentIn m.createdAtUtc).compact ++ ['-'] <+: m.backupId.toList := by
  unfold accepted momentIn
  simp only [Bool.and_eq_true, decide_eq_true_eq, List.isPrefixOf_iff_prefix, and_assoc]

/-- An optional field is bounded by its text and two quotes. -/
theorem length_quotedOrNull {value : Option String} {bound : Nat} (hbound : 4 ≤ bound + 2)
    (h : ∀ text ∈ value, text.toList.length ≤ bound) :
    (quotedOrNull value).toList.length ≤ bound + 2 := by
  cases value with
  | none => exact hbound
  | some text =>
    have htext := h text rfl
    show ("\"" ++ text ++ "\"").toList.length ≤ bound + 2
    simp only [String.toList_append, List.length_append]
    show 1 + _ + 1 ≤ _
    omega

/-- The characters of a text in quotes. -/
def quotedChars (text : List Char) : List Char := '"' :: (text ++ ['"'])

theorem quoted_toList (text : String) : (quoted text).toList = quotedChars text.toList := by
  unfold quoted quotedChars
  simp only [String.toList_append, String.reduceToList, List.cons_append, List.nil_append]

/-- The characters of a text, or of `null`. -/
def quotedOrNullChars : Option String → List Char
  | none => "null".toList
  | some text => quotedChars text.toList

theorem quotedOrNull_toList (value : Option String) :
    (quotedOrNull value).toList = quotedOrNullChars value := by
  cases value with
  | none => rfl
  | some text => exact quoted_toList text

/-- The text of a manifest, by its characters. -/
theorem dump_toList (m : BackupManifest) : m.dump.toList =
    '\x7b' :: (List.intercalate [','] [
      quotedChars "backup_id".toList ++ ':' :: quotedChars m.backupId.toList,
      quotedChars "created_at_utc".toList ++ ':' :: quotedChars m.createdAtUtc.toList,
      quotedChars "operation".toList ++ ':' :: quotedChars m.operation.value.toList,
      quotedChars "schema_version".toList ++ [':', '1'],
      quotedChars "source_byte_count".toList ++ ':' :: Nat.toDigits 10 m.sourceByteCount,
      quotedChars "source_sha256".toList ++ ':' :: quotedChars m.sourceSha256.toList,
      quotedChars "target_backup_id".toList ++ ':' :: quotedOrNullChars m.targetBackupId,
      quotedChars "target_profile_id".toList ++ ':' :: quotedOrNullChars m.targetProfileId] ++
        ['\x7d']) := by
  unfold dump
  simp only [String.toList_append, String.toList_intercalate, List.map_cons, List.map_nil,
    quoted_toList, quotedOrNull_toList, String.toList_ofList, String.reduceToList, List.cons_append,
    List.nil_append, List.append_assoc]

/-- The text of an accepted manifest is far below the bound. -/
theorem length_dump {m : BackupManifest} (h : m.accepted = true) :
    m.dump.toList.length ≤ maxManifestBytes := by
  obtain ⟨hid, hcreated, hdigest, hcount, hprofile, hbackup, -, -⟩ := accepted_iff.mp h
  have hid := length_of_isBackupId hid
  have hcreated : m.createdAtUtc.toList.length = 27 := by
    unfold timestampCanonical at hcreated
    rw [Bool.and_eq_true] at hcreated
    exact length_of_digitRuns hcreated.1
  have hdigest : m.sourceSha256.toList.length = 64 := by
    unfold digestIsSha256 at hdigest
    rw [Bool.and_eq_true, decide_eq_true_eq] at hdigest
    exact hdigest.1
  have hcount : (Nat.toDigits 10 m.sourceByteCount).length ≤ 6 :=
    (Nat.length_toDigits_le_iff (by decide) (by decide)).mpr (Nat.lt_of_le_of_lt hcount (by decide))
  have hprofile : (quotedOrNull m.targetProfileId).toList.length ≤ 40 + 2 := by
    refine length_quotedOrNull (by decide) fun text htext => length_of_isProfileId ?_
    rw [htext] at hprofile
    exact hprofile
  have hbackup : (quotedOrNull m.targetBackupId).toList.length ≤ 35 + 2 := by
    refine length_quotedOrNull (by decide) fun text htext => (length_of_isBackupId ?_).le
    rw [htext] at hbackup
    exact hbackup
  have hoperation : m.operation.value.toList.length ≤ 8 := by
    cases m.operation <;> decide
  unfold dump quoted
  simp only [String.toList_append, String.toList_intercalate, String.toList_ofList, List.map_cons,
    List.map_nil, List.intercalate, List.intersperse, List.flatten_cons, List.flatten_nil,
    List.length_append, List.length_nil, hid, hcreated, hdigest]
  unfold maxManifestBytes
  simp only [String.reduceToList, List.length_cons, List.length_nil]
  omega

end BackupManifest

/-- A manifest that passes its checks is serialized, within the bound. -/
theorem serializeManifest_of_accepted {m : BackupManifest} (h : m.accepted = true) :
    serializeManifest m = .ok (m.dump.toList.map fun c => UInt8.ofNat c.toNat) := by
  have hlength := m.length_dump h
  unfold serializeManifest
  dsimp only
  rw [List.length_map]
  exact if_neg (Nat.not_lt.mpr hlength)

/-! ## Fields -/

namespace BackupManifest

/-- The value of a `str | None`. -/
def optionalText : Option String → JsonDocument
  | none => .null
  | some text => .text (PyText.of text)

/-- The fields that the encoder writes, in its order. -/
def fields (m : BackupManifest) : List (PyText × JsonDocument) :=
  [(PyText.of "backup_id", .text (PyText.of m.backupId)),
    (PyText.of "created_at_utc", .text (PyText.of m.createdAtUtc)),
    (PyText.of "operation", .text (PyText.of m.operation.value)),
    (PyText.of "schema_version", .int 1),
    (PyText.of "source_byte_count", .int m.sourceByteCount),
    (PyText.of "source_sha256", .text (PyText.of m.sourceSha256)),
    (PyText.of "target_backup_id", optionalText m.targetBackupId),
    (PyText.of "target_profile_id", optionalText m.targetProfileId)]

/-- The names of the fields, in the order of the encoder. -/
def writtenNames : List String :=
  ["backup_id", "created_at_utc", "operation", "schema_version", "source_byte_count",
    "source_sha256", "target_backup_id", "target_profile_id"]

/-- The fields are written under the fixed names. -/
theorem keys_fields (m : BackupManifest) : m.fields.map (·.1) = writtenNames.map PyText.of := rfl

/-- The document that the text of a manifest stands for. -/
def document (m : BackupManifest) : JsonDocument := .object m.fields

end BackupManifest

theorem str?_eq_some {document : JsonDocument} {text : String} :
    str? document = some text ↔ document = .text (PyText.of text) := by
  cases document with
  | text s => exact PyText.string?_eq_some.trans (by rw [JsonDocument.text.injEq])
  | _ => exact iff_of_false (fun h => nomatch h) fun h => nomatch h

/-- An optional text is read from a text or null only. -/
theorem optionalStr?_eq_some {document : JsonDocument} {value : Option String} :
    optionalStr? document = some value ↔ document = BackupManifest.optionalText value := by
  cases document with
  | null =>
    cases value with
    | none => exact iff_of_true rfl rfl
    | some text => exact iff_of_false (fun h => nomatch h) fun h => nomatch h
  | text s =>
    cases value with
    | none =>
      refine iff_of_false (fun h => ?_) fun h => nomatch h
      obtain ⟨_, -, heq⟩ := Option.map_eq_some_iff.mp h
      cases heq
    | some text =>
      show s.string?.map some = some (some text) ↔ JsonDocument.text s = .text (PyText.of text)
      rw [JsonDocument.text.injEq, ← PyText.string?_eq_some, Option.map_eq_some_iff]
      simp only [Option.some.injEq, exists_eq_right]
  | _ => cases value <;> exact iff_of_false (fun h => nomatch h) fun h => nomatch h

/-- A number is read from an integer only, never from a boolean. -/
theorem strictNat?_eq_some {document : JsonDocument} {n : Nat} :
    strictNat? document = some n ↔ document = .int n := by
  cases document with
  | int k =>
    show (if 0 ≤ k then some k.toNat else none) = some n ↔ _
    rw [JsonDocument.int.injEq]
    split
    case isTrue hk =>
      rw [Option.some.injEq]
      omega
    case isFalse hk => exact iff_of_false (fun h => nomatch h) fun h => hk (by omega)
  | _ => exact iff_of_false (fun h => nomatch h) fun h => nomatch h

/-- An operation is read from its own text. -/
theorem ofValue?_eq_some {value : String} {operation : BackupOperation} :
    BackupOperation.ofValue? value = some operation ↔ value = operation.value := by
  unfold BackupOperation.ofValue?
  rw [List.find?_eq_some_iff_append]
  constructor
  · rintro ⟨hvalue, -⟩
    exact (beq_iff_eq.mp hvalue).symm
  · rintro rfl
    refine ⟨beq_self_eq_true _, ?_⟩
    cases operation with
    | apply => exact ⟨[], [.rollback], rfl, List.forall_mem_nil _⟩
    | rollback => exact ⟨[.apply], [], rfl, List.forall_mem_singleton.mpr (by decide)⟩

/-- A field is read as a value when it holds what is written for that value. -/
theorem field_eq_some {α : Type} {read : JsonDocument → Option α} {write : α → JsonDocument}
    (hread : ∀ {document a}, read document = some a ↔ document = write a)
    {pairs : List (PyText × JsonDocument)} {key : PyText} {a : α} :
    (pairs.lookup key).bind read = some a ↔ pairs.lookup key = some (write a) := by
  rw [Option.bind_eq_some_iff]
  constructor
  · rintro ⟨document, hlookup, hdocument⟩
    rw [hlookup, hread.mp hdocument]
  · intro hlookup
    exact ⟨write a, hlookup, hread.mpr rfl⟩

namespace BackupManifest

/-- The pairs of a document are the fields of a manifest. -/
structure Describes (libraries : ManifestLibraries) (pairs : List (PyText × JsonDocument))
    (m : BackupManifest) : Prop where
  known : ∀ pair ∈ pairs, pair.1 ∈ fieldNames.map PyText.of
  version : ∀ value ∈ pairs.lookup (PyText.of "schema_version"), libraries.isLiteralOne value = true
  fields : ∀ field ∈ m.fields, field.1 ≠ PyText.of "schema_version" →
    pairs.lookup field.1 = some field.2

theorem of_ne {a b : String} (h : a ≠ b) : PyText.of a ≠ PyText.of b := fun heq =>
  h (PyText.of_injective heq)

/-- A statement about every field, spelled out. -/
theorem forall_fields {m : BackupManifest} {p : PyText → JsonDocument → Prop} :
    (∀ field ∈ m.fields, field.1 ≠ PyText.of "schema_version" → p field.1 field.2) ↔
      p (PyText.of "backup_id") (.text (PyText.of m.backupId)) ∧
      p (PyText.of "created_at_utc") (.text (PyText.of m.createdAtUtc)) ∧
      p (PyText.of "operation") (.text (PyText.of m.operation.value)) ∧
      p (PyText.of "source_byte_count") (.int m.sourceByteCount) ∧
      p (PyText.of "source_sha256") (.text (PyText.of m.sourceSha256)) ∧
      p (PyText.of "target_backup_id") (optionalText m.targetBackupId) ∧
      p (PyText.of "target_profile_id") (optionalText m.targetProfileId) := by
  unfold BackupManifest.fields
  simp only [List.forall_mem_cons, ne_eq, not_true_eq_false, false_implies, true_and]
  rw [forall_prop_of_true (of_ne (by decide)), forall_prop_of_true (of_ne (by decide)),
    forall_prop_of_true (of_ne (by decide)), forall_prop_of_true (of_ne (by decide)),
    forall_prop_of_true (of_ne (by decide)), forall_prop_of_true (of_ne (by decide)),
    forall_prop_of_true (of_ne (by decide))]
  simp only [List.not_mem_nil, false_implies, implies_true, and_true]

/-- The operation of a document is the one its text names. -/
theorem operation_eq_some {pairs : List (PyText × JsonDocument)} {key : PyText}
    {operation : BackupOperation} :
    ((pairs.lookup key).bind str?).bind BackupOperation.ofValue? = some operation ↔
      pairs.lookup key = some (.text (PyText.of operation.value)) := by
  rw [Option.bind_eq_some_iff]
  constructor
  · rintro ⟨value, hvalue, hoperation⟩
    rw [field_eq_some str?_eq_some] at hvalue
    rw [hvalue, ofValue?_eq_some.mp hoperation]
  · intro hlookup
    exact ⟨_, (field_eq_some str?_eq_some).mpr hlookup, ofValue?_eq_some.mpr rfl⟩

/-- A manifest is read exactly from the fields that describe it. -/
theorem ofFields_eq_some {libraries : ManifestLibraries} {pairs : List (PyText × JsonDocument)}
    {m : BackupManifest} : ofFields libraries pairs = some m ↔ Describes libraries pairs m := by
  have hguard : (pairs.all (fun pair => pair.1 ∈ fieldNames.map PyText.of) &&
      (pairs.lookup (PyText.of "schema_version")).all libraries.isLiteralOne) = true ↔
      (∀ pair ∈ pairs, pair.1 ∈ fieldNames.map PyText.of) ∧
        ∀ value ∈ pairs.lookup (PyText.of "schema_version"), libraries.isLiteralOne value = true := by
    rw [Bool.and_eq_true, List.all_eq_true, Option.all_eq_true]
    simp only [decide_eq_true_eq]
    exact Iff.rfl
  constructor
  · intro h
    unfold ofFields at h
    dsimp only at h
    split at h
    case isFalse => cases h
    case isTrue hknown =>
      obtain ⟨known, version⟩ := hguard.mp hknown
      obtain ⟨backupId, hid, h⟩ := Option.bind_eq_some_iff.mp h
      obtain ⟨createdAtUtc, hcreated, h⟩ := Option.bind_eq_some_iff.mp h
      obtain ⟨sourceSha256, hdigest, h⟩ := Option.bind_eq_some_iff.mp h
      obtain ⟨sourceByteCount, hcount, h⟩ := Option.bind_eq_some_iff.mp h
      obtain ⟨operation, hoperation, h⟩ := Option.bind_eq_some_iff.mp h
      obtain ⟨targetProfileId, hprofile, h⟩ := Option.bind_eq_some_iff.mp h
      obtain ⟨targetBackupId, hbackup, h⟩ := Option.bind_eq_some_iff.mp h
      obtain rfl := Option.some.inj h
      refine ⟨known, version, (forall_fields (p := fun k v => pairs.lookup k = some v)).mpr ?_⟩
      exact ⟨(field_eq_some str?_eq_some).mp hid, (field_eq_some str?_eq_some).mp hcreated,
        operation_eq_some.mp hoperation, (field_eq_some strictNat?_eq_some).mp hcount,
        (field_eq_some str?_eq_some).mp hdigest, (field_eq_some optionalStr?_eq_some).mp hbackup,
        (field_eq_some optionalStr?_eq_some).mp hprofile⟩
  · rintro ⟨known, version, hfields⟩
    obtain ⟨hid, hcreated, hoperation, hcount, hdigest, hbackup, hprofile⟩ :=
      (forall_fields (p := fun k v => pairs.lookup k = some v)).mp hfields
    unfold ofFields
    dsimp only
    rw [if_pos (hguard.mpr ⟨known, version⟩), (field_eq_some str?_eq_some).mpr hid,
      (field_eq_some str?_eq_some).mpr hcreated, (field_eq_some str?_eq_some).mpr hdigest,
      (field_eq_some strictNat?_eq_some).mpr hcount, operation_eq_some.mpr hoperation,
      (field_eq_some optionalStr?_eq_some).mpr hprofile,
      (field_eq_some optionalStr?_eq_some).mpr hbackup]
    rfl

/-- No field is written twice. -/
theorem nodup_fields (m : BackupManifest) : (m.fields.map (·.1)).Nodup := by
  have hnames : writtenNames.Nodup := by decide
  rw [keys_fields]
  exact hnames.map fun _ _ => PyText.of_injective

/-- Without repeated keys a pair is found under its key. -/
theorem lookup_of_mem {pairs : List (PyText × JsonDocument)} (h : (pairs.map (·.1)).Nodup)
    {pair : PyText × JsonDocument} (hpair : pair ∈ pairs) : pairs.lookup pair.1 = some pair.2 := by
  obtain ⟨before, after, rfl⟩ := List.append_of_mem hpair
  refine List.lookup_eq_some_iff.mpr ⟨before, after, rfl, fun other hother => ?_⟩
  rw [List.map_append, List.nodup_append] at h
  rw [bne_iff_ne]
  exact (h.2.2 other.1 (List.mem_map_of_mem hother) pair.1 List.mem_cons_self).symm

/-- The object that is written holds the fields of the manifest, each once. -/
theorem describes_fields (libraries : ManifestLibraries) (m : BackupManifest) :
    Describes libraries m.fields m := by
  refine ⟨?_, ?_, fun field hfield _ => lookup_of_mem m.nodup_fields hfield⟩
  · intro pair hpair
    have hname : ∀ name ∈ writtenNames, name ∈ fieldNames := by decide
    have hkey : pair.1 ∈ m.fields.map (·.1) := List.mem_map_of_mem hpair
    rw [keys_fields] at hkey
    obtain ⟨name, hmem, hpair⟩ := List.mem_map.mp hkey
    rw [← hpair]
    exact List.mem_map_of_mem (hname name hmem)
  · intro value hvalue
    have hversion : (PyText.of "schema_version", JsonDocument.int 1) ∈ m.fields := by
      unfold BackupManifest.fields
      simp only [List.mem_cons, true_or, or_true]
    rw [lookup_of_mem m.nodup_fields hversion] at hvalue
    rw [← Option.some.inj hvalue]
    exact libraries.isLiteralOne_one

/-- So the written document passes the check of duplicates. -/
theorem uniqueObjects_document (m : BackupManifest) : uniqueObjects m.document = true := by
  have hscalar : ∀ value : Option String, uniqueObjects (optionalText value) = true := by
    intro value
    cases value <;> simp only [optionalText, uniqueObjects]
  have hfields : uniquePairs m.fields = true := by
    simp only [BackupManifest.fields, uniquePairs, uniqueObjects, hscalar, Bool.and_self]
  unfold document uniqueObjects
  rw [hfields, Bool.and_true, decide_eq_true_eq]
  exact m.nodup_fields

end BackupManifest

/-! ## Law -/

/-- What reading accepts: an object without repeated keys, whose pairs are those of an accepted
    manifest. -/
theorem parseManifest_eq_ok {libraries : ManifestLibraries} {data : Bytes} {m : BackupManifest} :
    parseManifest libraries data = .ok m ↔ data.length ≤ maxManifestBytes ∧
      ∃ pairs, libraries.loads data = .ok (.object pairs) ∧
        uniqueObjects (.object pairs) = true ∧ BackupManifest.Describes libraries pairs m ∧
        m.accepted = true := by
  unfold parseManifest
  constructor
  · intro h
    split at h
    case isTrue => cases h
    case isFalse hlength =>
      split at h
      · cases h
      · rename_i document hloads
        split at h
        case isFalse => cases h
        case isTrue hunique =>
          split at h
          · rename_i m' hvalidate
            obtain rfl := Except.ok.inj h
            unfold BackupManifest.modelValidate at hvalidate
            split at hvalidate
            · rename_i pairs
              split at hvalidate
              · rename_i m'' hfields
                unfold BackupManifest.construct at hvalidate
                split at hvalidate
                case isFalse => cases hvalidate
                case isTrue haccepted =>
                  obtain rfl := Except.ok.inj hvalidate
                  exact ⟨Nat.not_lt.mp hlength, pairs, hloads, hunique,
                    BackupManifest.ofFields_eq_some.mp hfields, haccepted⟩
              · cases hvalidate
            · cases hvalidate
          · cases h
  · rintro ⟨hlength, pairs, hloads, hunique, hdescribes, haccepted⟩
    rw [if_neg (Nat.not_lt.mpr hlength), hloads]
    dsimp only
    rw [if_pos hunique]
    unfold BackupManifest.modelValidate
    dsimp only
    rw [BackupManifest.ofFields_eq_some.mpr hdescribes]
    dsimp only
    unfold BackupManifest.construct
    rw [if_pos haccepted]

/-- Everything else is rejected for one reason. -/
theorem parseManifest_eq_error {libraries : ManifestLibraries} {data : Bytes} {e : FsException}
    (h : parseManifest libraries data = .error e) : e = .profile .backupInvalid := by
  unfold parseManifest at h
  split at h
  · exact (Except.error.inj h).symm
  · split at h
    · exact (Except.error.inj h).symm
    · split at h
      · split at h
        · cases h
        · exact (Except.error.inj h).symm
      · exact (Except.error.inj h).symm

/-- `json.loads` reads back what `json.dumps` wrote of a manifest. -/
def ReadsBack (libraries : ManifestLibraries) (m : BackupManifest) : Prop :=
  libraries.loads (m.dump.toList.map fun c => UInt8.ofNat c.toNat) = .ok m.document

/-- What was written is read back. -/
theorem parseManifest_serializeManifest {libraries : ManifestLibraries} {m : BackupManifest}
    {data : Bytes} (h : m.accepted = true) (hdata : serializeManifest m = .ok data)
    (hloads : ReadsBack libraries m) : parseManifest libraries data = .ok m := by
  have hlength := m.length_dump h
  rw [serializeManifest_of_accepted h] at hdata
  obtain rfl := Except.ok.inj hdata
  rw [← List.length_map (fun c : Char => UInt8.ofNat c.toNat)] at hlength
  exact parseManifest_eq_ok.mpr ⟨hlength, m.fields, hloads, m.uniqueObjects_document,
    m.describes_fields libraries, h⟩

/-- What an accepted text says of itself. -/
structure WellFormed (libraries : ManifestLibraries) (data : Bytes) (m : BackupManifest) : Prop where
  /-- It is an object without repeated or unknown keys, whose pairs are the fields. -/
  pairs : ∃ pairs, libraries.loads data = .ok (.object pairs) ∧
    uniqueObjects (.object pairs) = true ∧ BackupManifest.Describes libraries pairs m
  /-- The creation time is a moment, with which the identifier begins. -/
  created : ∃ t : Moment, t.Valid ∧ m.createdAtUtc.toList = t.canonical ∧
    t.compact ++ ['-'] <+: m.backupId.toList
  /-- The target of the operation is present, and no other one. -/
  target : m.operation = .apply ∧ m.targetProfileId.isSome ∧ m.targetBackupId = none ∨
    m.operation = .rollback ∧ m.targetBackupId.isSome ∧ m.targetProfileId = none
  /-- Written again, it is read as the same manifest. -/
  again : ∃ data', serializeManifest m = .ok data' ∧
    (ReadsBack libraries m → parseManifest libraries data' = .ok m)

/-- A manifest names exactly the target its operation has. -/
theorem BackupManifest.target_of_accepted {m : BackupManifest} (h : m.targetMatches = true) :
    m.operation = .apply ∧ m.targetProfileId.isSome ∧ m.targetBackupId = none ∨
      m.operation = .rollback ∧ m.targetBackupId.isSome ∧ m.targetProfileId = none := by
  unfold targetMatches at h
  cases hoperation : m.operation with
  | apply =>
    rw [hoperation] at h
    obtain ⟨hprofile, hbackup⟩ := Bool.and_eq_true_iff.mp h
    exact .inl ⟨rfl, hprofile, Option.isNone_iff_eq_none.mp hbackup⟩
  | rollback =>
    rw [hoperation] at h
    obtain ⟨hbackup, hprofile⟩ := Bool.and_eq_true_iff.mp h
    exact .inr ⟨rfl, hbackup, Option.isNone_iff_eq_none.mp hprofile⟩

/-- The manifest format: a round trip, what is accepted, and that the rest is rejected for one
    reason. -/
theorem manifest_law (libraries : ManifestLibraries) :
    (∀ m data, m.accepted = true → serializeManifest m = .ok data → ReadsBack libraries m →
      parseManifest libraries data = .ok m) ∧
    (∀ data m, parseManifest libraries data = .ok m → WellFormed libraries data m) ∧
    ∀ data, (∃ m, parseManifest libraries data = .ok m) ∨
      parseManifest libraries data = .error (.profile .backupInvalid) := by
  refine ⟨fun m data h hdata hloads => parseManifest_serializeManifest h hdata hloads, ?_, ?_⟩
  · intro data m hparse
    obtain ⟨-, pairs, hloads, hunique, hdescribes, haccepted⟩ := parseManifest_eq_ok.mp hparse
    obtain ⟨-, hcreated, -, -, -, -, htarget, hprefix⟩ := BackupManifest.accepted_iff.mp haccepted
    obtain ⟨hvalid, hcanonical⟩ := timestampCanonical_eq hcreated
    have hagain := serializeManifest_of_accepted haccepted
    exact ⟨⟨pairs, hloads, hunique, hdescribes⟩, ⟨_, hvalid, hcanonical, hprefix⟩,
      BackupManifest.target_of_accepted htarget,
      ⟨_, hagain, fun hreads => parseManifest_serializeManifest haccepted hagain hreads⟩⟩
  · intro data
    cases hparse : parseManifest libraries data with
    | ok m => exact .inl ⟨m, rfl⟩
    | error e => exact .inr (congrArg Except.error (parseManifest_eq_error hparse))

/-- Libraries that know the text of one manifest. -/
def librariesFor (m : BackupManifest) : ManifestLibraries where
  loads data :=
    if data = m.dump.toList.map (fun c => UInt8.ofNat c.toNat) then .ok m.document
    else .error .jsonDecodeError
  isLiteralOne
    | .int n => n == 1
    | _ => false
  isLiteralOne_one := rfl

/-- The libraries made for a manifest read its numbers back. -/
theorem readsBack_librariesFor (m : BackupManifest) : ReadsBack (librariesFor m) m := by
  unfold ReadsBack librariesFor
  dsimp only
  rw [if_pos rfl]

/-- The manifest of a rollback. -/
def rollbackManifest : BackupManifest where
  backupId := "20260718T120000000001Z-0123456789ab"
  createdAtUtc := "2026-07-18T12:00:00.000001Z"
  sourceSha256 := "e3b0c44298fc1c149afbf4c8996fb92427ae41e4649b934ca495991b7852b855"
  sourceByteCount := 0
  operation := .rollback
  targetProfileId := none
  targetBackupId := some "20260717T080000000000Z-ba9876543210"

theorem manifest_law_rollback :
    ∃ data, serializeManifest rollbackManifest = .ok data ∧
      parseManifest (librariesFor rollbackManifest) data = .ok rollbackManifest ∧
      WellFormed (librariesFor rollbackManifest) data rollbackManifest := by
  have haccepted : rollbackManifest.accepted = true := by decide +kernel
  have hdata := serializeManifest_of_accepted haccepted
  have hparse := (manifest_law (librariesFor rollbackManifest)).1 _ _ haccepted hdata
    (readsBack_librariesFor _)
  exact ⟨_, hdata, hparse, (manifest_law _).2.1 _ _ hparse⟩

end Aurora.ConfigProfiles
