/-
  The boundary of the protected forms: the headers of a request, and its body.

  `validate_form_headers` decides from the header values how many bytes of the body may be read.
  `parse_form` reads the body as a small urlencoded form.

  The headers are texts that a client chooses.  The length is checked with `isdigit` and then
  converted with `int`, and the two do not agree on the superscript digits of ISO-8859-1: on such a
  length the conversion raises `ValueError`.  `form_boundary_iff` says that this is the only input
  on which the boundary is not total and exact.
-/
import Mathlib.Data.Finset.Basic
import Aurora.Lib.Latin1
import Aurora.Lib.Pieces
import Aurora.Lib.Urlencoded
import Aurora.Lib.Dict

namespace Aurora.ControlPlane

open Latin1 Urlencoded

/-! ## The code -/

/-- The statuses a form is refused with. -/
inductive HTTPStatus
  | badRequest
  | lengthRequired
  | requestEntityTooLarge
  | unsupportedMediaType
  deriving DecidableEq

/-- The reason codes of the audit. -/
inductive AuditReason
  | authenticated | invalidCredentials | attemptLimit | loggedOut | authenticationRequired
  | authenticationDisabled | invalidSession | expiredSession | malformedCookie | missingCsrf
  | invalidCsrf | contentType | contentLength | bodyTooLarge | transferEncoding | malformedForm
  | controlsDisabled | operationNotAllowlisted | invalidBrightness | missingConfirmation
  | invalidConfirmation | operationLimit | operationInProgress | connectionFailure | timeout
  | httpRejection | redirectRejection | oversizedResponse | malformedJson | missingExpectedState
  | stateVerificationMismatch | unauthorizedResponse | missingSuccess | invalidSuccess
  | commandMismatch | missingComponentState | ambiguousComponentState | verified
  | partialCompletion
  deriving DecidableEq

/-- The refusal of a form. -/
structure FormError where
  status : HTTPStatus
  reason : AuditReason
  deriving DecidableEq

/-- What Python raises. -/
inductive Raised
  | valueError
  | unicodeDecodeError
  deriving DecidableEq

/-- The value of a header: HTTP decodes its bytes as ISO-8859-1. -/
structure HeaderText where
  chars : List Char
  latin1 : ∀ c ∈ chars, c.toNat < 256

/-- The header of a text whose characters are checked. -/
def HeaderText.ofChars (chars : List Char) (h : chars.all (·.toNat < 256) = true) : HeaderText where
  chars := chars
  latin1 := fun c hc => of_decide_eq_true (List.all_eq_true.mp h c hc)

/-- The most fields of a form. -/
def maxFormFields : Nat := 4

/-- The content type is that of a form. -/
def supportedContentType : Option HeaderText → Bool
  | none => false
  | some contentType =>
    match (contentType.chars.splitOn ';').map strip with
    | [] => false
    | mediaType :: parameters =>
      lower mediaType = "application/x-www-form-urlencoded".toList &&
        parameters.all fun parameter =>
          lower parameter = "charset=utf-8".toList || lower parameter = "charset=\"utf-8\"".toList

/-- `validate_form_headers` -/
def validateFormHeaders (contentTypes contentLengths : Option (List HeaderText))
    (transferEncoding : Option HeaderText) (maximumBodyBytes : Int) :
    Except Raised (Option Int × Option FormError) :=
  if transferEncoding.isSome then
    .ok (none, some ⟨.badRequest, .transferEncoding⟩)
  else
    match contentTypes with
    | some [contentType] =>
      if supportedContentType (some contentType) then
        match contentLengths with
        | none => .ok (none, some ⟨.lengthRequired, .contentLength⟩)
        | some [rawLength] =>
          if rawLength.chars.length > 10 ∨ ¬isdigit rawLength.chars then
            .ok (none, some ⟨.badRequest, .contentLength⟩)
          else
            match int rawLength.chars with
            | none => .error .valueError
            | some length =>
              if length > maximumBodyBytes then
                .ok (none, some ⟨.requestEntityTooLarge, .bodyTooLarge⟩)
              else .ok (some length, none)
        | some _ => .ok (none, some ⟨.badRequest, .contentLength⟩)
      else .ok (none, some ⟨.unsupportedMediaType, .contentType⟩)
    | _ => .ok (none, some ⟨.unsupportedMediaType, .contentType⟩)

/-- `str.find` of the percent sign, from an index on. -/
def findPercent (encoded : List Char) (start : Nat) : Option Nat :=
  ((encoded.drop start).findIdx? (· = '%')).map (start + ·)

/-- The whole text is two hexadecimal digits. -/
def fullmatchEscape : List Char → Bool
  | [hi, lo] => (hexValue hi).isSome && (hexValue lo).isSome
  | _ => false

theorem findPercent_some {encoded : List Char} {start index : Nat}
    (h : findPercent encoded start = some index) :
    ∃ before after, encoded.drop start = before ++ '%' :: after ∧ '%' ∉ before ∧
      index = start + before.length := by
  obtain ⟨i, hi, rfl⟩ := Option.map_eq_some_iff.mp h
  obtain ⟨hlt, hat, hbefore⟩ := List.findIdx?_eq_some_iff_getElem.mp hi
  refine ⟨(encoded.drop start).take i, (encoded.drop start).drop (i + 1), ?_, ?_, ?_⟩
  · have hpercent : (encoded.drop start)[i] = '%' := of_decide_eq_true hat
    rw [← hpercent, List.getElem_cons_drop hlt, List.take_append_drop]
  · intro hmem
    obtain ⟨j, hj, hget⟩ := List.getElem_of_mem hmem
    rw [List.length_take] at hj
    rw [List.getElem_take] at hget
    exact hbefore j (by omega) (decide_eq_true hget)
  · rw [List.length_take, Nat.min_eq_left (Nat.le_of_lt hlt)]

/-- The loop of `_percent_escapes_are_valid`, from an index on. -/
def escapesValidFrom (encoded : List Char) (start : Nat) : Bool :=
  match h : findPercent encoded start with
  | none => true
  | some index =>
    fullmatchEscape ((encoded.drop (index + 1)).take 2) && escapesValidFrom encoded (index + 3)
termination_by encoded.length - start
decreasing_by
  obtain ⟨before, after, hdrop, -, rfl⟩ := findPercent_some h
  have hlength := congrArg List.length hdrop
  simp only [List.length_drop, List.length_append, List.length_cons] at hlength
  omega

/-- Every percent sign starts an escape. -/
def percentEscapesAreValid (encoded : List Char) : Bool := escapesValidFrom encoded 0

/-- The text of bytes below 128. -/
def asciiText (body : List UInt8) : List Char := body.map fun b => Char.ofNat b.toNat

/-- `bytes.decode("ascii")`. -/
def decodeAscii (body : List UInt8) : Except Raised (List Char) :=
  if body.all (· < 128) then .ok (asciiText body) else .error .unicodeDecodeError

/-- What `parse_qsl` raises: `UnicodeDecodeError` for bytes that are no UTF-8, else `ValueError`. -/
def raisedBy : QslError → Raised
  | .undecodable => .unicodeDecodeError
  | .tooManyFields => .valueError
  | .badField => .valueError

/-- The pairs go into a dictionary one after the other, until one is unexpected or repeated. -/
def collectFields (allowedFields : Finset String) :
    List (String × String) → Dict String String → Option (Dict String String)
  | [], fields => some fields
  | (key, value) :: rest, fields =>
    if key ∉ allowedFields ∨ key ∈ fields.keys then none
    else collectFields allowedFields rest (fields.set key value)

/-- `parse_form` -/
def parseForm (body : List UInt8) (allowedFields requiredFields : Finset String) :
    Except Raised (Option (Dict String String)) :=
  match decodeAscii body with
  | .error .unicodeDecodeError => .ok none
  | .error e => .error e
  | .ok encoded =>
    if percentEscapesAreValid encoded then
      match (parseQsl encoded maxFormFields).mapError raisedBy with
      -- the handler names `UnicodeDecodeError` and `ValueError`
      | .error .unicodeDecodeError => .ok none
      | .error .valueError => .ok none
      | .ok pairs =>
        match collectFields allowedFields pairs Dict.empty with
        | none => .ok none
        | some fields =>
          if ∀ key ∈ requiredFields, key ∈ fields.keys then .ok (some fields) else .ok none
    else .ok none

/-! ## The scan for escapes -/

variable {rest : List Char}

/-- Characters before the first `%` escape nothing. -/
theorem isEscaped_append {before : List Char} (h : '%' ∉ before) :
    IsEscaped (before ++ rest) ↔ IsEscaped rest := by
  induction before with
  | nil => exact Iff.rfl
  | cons c before ih =>
    have hc : c ≠ '%' := fun hc => h (hc ▸ List.mem_cons_self)
    rw [← ih fun hmem => h (List.mem_cons_of_mem _ hmem), List.cons_append]
    generalize before ++ rest = text
    constructor
    · rintro ⟨bytes, hbytes⟩
      cases hbytes with
      | escape => exact absurd rfl hc
      | plus hrest => exact ⟨_, hrest⟩
      | plain _ _ hrest => exact ⟨_, hrest⟩
    · rintro ⟨bytes, hbytes⟩
      by_cases hplus : c = '+'
      · rw [hplus]
        exact ⟨_, .plus hbytes⟩
      · exact ⟨_, .plain hc hplus hbytes⟩

/-- A `%` needs two hexadecimal digits after it. -/
theorem isEscaped_percent :
    IsEscaped ('%' :: rest) ↔ fullmatchEscape (rest.take 2) = true ∧ IsEscaped (rest.drop 2) := by
  constructor
  · rintro ⟨bytes, hbytes⟩
    cases hbytes with
    | escape hhi hlo hrest =>
      refine ⟨?_, _, hrest⟩
      show ((hexValue _).isSome && (hexValue _).isSome) = true
      rw [hhi, hlo]
      rfl
    | plain hpercent => exact absurd rfl hpercent
  · rintro ⟨hmatch, bytes, hbytes⟩
    rcases rest with _ | ⟨hi, _ | ⟨lo, rest⟩⟩
    · cases hmatch
    · cases hmatch
    · obtain ⟨hhi, hlo⟩ := Bool.and_eq_true_iff.mp hmatch
      obtain ⟨x, hx⟩ := Option.isSome_iff_exists.mp hhi
      obtain ⟨y, hy⟩ := Option.isSome_iff_exists.mp hlo
      exact ⟨_, .escape hx hy hbytes⟩

/-- The scan finds out whether every escape is whole. -/
theorem escapesValidFrom_iff (encoded : List Char) (start : Nat) :
    escapesValidFrom encoded start = true ↔ IsEscaped (encoded.drop start) := by
  fun_induction escapesValidFrom encoded start with
  | case1 start hfind =>
    have hnone : '%' ∉ encoded.drop start := by
      intro hmem
      have := List.findIdx?_eq_none_iff.mp (Option.map_eq_none_iff.mp hfind) _ hmem
      simp at this
    refine iff_of_true rfl ?_
    rw [← List.append_nil (encoded.drop start), isEscaped_append hnone]
    exact ⟨_, .nil⟩
  | case2 start index hfind ih =>
    obtain ⟨before, after, hdrop, hnone, rfl⟩ := findPercent_some hfind
    have hafter : ∀ n, encoded.drop (start + before.length + 1 + n) = after.drop n := by
      intro n
      have h : (encoded.drop start).drop (before.length + (n + 1)) = after.drop n := by
        rw [hdrop, ← List.drop_drop, List.drop_left]
        rfl
      rw [← h, List.drop_drop]
      congr 1
      omega
    have hfirst := hafter 0
    have hnext := hafter 2
    rw [Nat.add_zero, List.drop_zero] at hfirst
    rw [Bool.and_eq_true_iff, ih, hdrop, isEscaped_append hnone, isEscaped_percent, hfirst, hnext]

/-! ## The headers -/

/-- A content type is urlencoded, with no parameter but a UTF-8 charset. -/
def UrlencodedType (text : List Char) : Prop :=
  ∃ mediaType parameters, text = [';'].intercalate (mediaType :: parameters) ∧
    (∀ piece ∈ mediaType :: parameters, ';' ∉ piece) ∧
    IsWord "application/x-www-form-urlencoded".toList mediaType ∧
    ∀ parameter ∈ parameters, IsWord "charset=utf-8".toList parameter ∨
      IsWord "charset=\"utf-8\"".toList parameter

theorem supportedContentType_iff (contentType : HeaderText) :
    supportedContentType (some contentType) = true ↔ UrlencodedType contentType.chars := by
  have htype : ∀ piece, lower (strip piece) = "application/x-www-form-urlencoded".toList ↔
      IsWord "application/x-www-form-urlencoded".toList piece := fun piece =>
    lower_strip_iff rfl rfl (by decide)
  have hplain : ∀ piece, lower (strip piece) = "charset=utf-8".toList ↔
      IsWord "charset=utf-8".toList piece := fun piece =>
    lower_strip_iff rfl rfl (by decide)
  have hquoted : ∀ piece, lower (strip piece) = "charset=\"utf-8\"".toList ↔
      IsWord "charset=\"utf-8\"".toList piece := fun piece =>
    lower_strip_iff rfl rfl (by decide)
  obtain ⟨mediaType, parameters, hpieces⟩ :=
    List.exists_cons_of_ne_nil (List.splitOn_ne_nil ';' contentType.chars)
  obtain ⟨-, hchars, hwhole⟩ := splitOn_eq_iff.mp hpieces
  unfold supportedContentType
  simp only [hpieces, List.map_cons, List.all_map, Bool.and_eq_true, decide_eq_true_eq,
    List.all_eq_true, Function.comp_apply, Bool.or_eq_true, htype, hplain, hquoted]
  constructor
  · rintro ⟨hmedia, hparameters⟩
    exact ⟨mediaType, parameters, hchars, hwhole, hmedia, hparameters⟩
  · rintro ⟨mediaType', parameters', hchars', hwhole', hmedia, hparameters⟩
    have hsame := splitOn_eq_iff.mpr ⟨List.cons_ne_nil _ _, hchars', hwhole'⟩
    rw [hpieces] at hsame
    obtain ⟨rfl, rfl⟩ := List.cons.inj hsame
    exact ⟨hmedia, hparameters⟩

/-- The headers of a form whose body has an accepted length. -/
structure AcceptedHeaders (contentTypes contentLengths : Option (List HeaderText))
    (transferEncoding : Option HeaderText) (maximumBodyBytes length : Int) : Prop where
  unencoded : transferEncoding = none
  typed : ∃ contentType, contentTypes = some [contentType] ∧ UrlencodedType contentType.chars
  bounded : ∃ (rawLength : HeaderText) (n : Nat), contentLengths = some [rawLength] ∧
    1 ≤ rawLength.chars.length ∧ rawLength.chars.length ≤ 10 ∧ IsNumeral rawLength.chars n ∧
    length = n ∧ length ≤ maximumBodyBytes

/-- The header check returns, a length or an error, and the length of accepted headers only. -/
def HeadersExact (contentTypes contentLengths : Option (List HeaderText))
    (transferEncoding : Option HeaderText) (maximumBodyBytes : Int) : Prop :=
  ∃ result, validateFormHeaders contentTypes contentLengths transferEncoding maximumBodyBytes =
      .ok result ∧
    (result.2 = none ↔ result.1.isSome) ∧
    ∀ length, result.1 = some length ↔
      AcceptedHeaders contentTypes contentLengths transferEncoding maximumBodyBytes length

/-- The header check reaches a length of digits, not all of them decimal. -/
def SuperscriptLength (contentTypes contentLengths : Option (List HeaderText))
    (transferEncoding : Option HeaderText) : Prop :=
  transferEncoding = none ∧
    (∃ contentType, contentTypes = some [contentType] ∧
      supportedContentType (some contentType) = true) ∧
    ∃ rawLength : HeaderText, contentLengths = some [rawLength] ∧ rawLength.chars.length ≤ 10 ∧
      isdigit rawLength.chars ∧ ∃ c ∈ rawLength.chars, IsSuperscript c

variable {contentTypes contentLengths : Option (List HeaderText)}
  {transferEncoding : Option HeaderText} {maximumBodyBytes : Int}

/-- A refusal is exact when the headers are not accepted. -/
theorem headersExact_of_refused {error : FormError}
    (h : validateFormHeaders contentTypes contentLengths transferEncoding maximumBodyBytes =
      .ok (none, some error))
    (hnot : ∀ length, ¬AcceptedHeaders contentTypes contentLengths transferEncoding
      maximumBodyBytes length) :
    HeadersExact contentTypes contentLengths transferEncoding maximumBodyBytes :=
  ⟨_, h, by simp, fun length => iff_of_false nofun (hnot length)⟩

/-- A text of one to ten decimal digits passes the checks before the conversion. -/
theorem isdigit_of_isNumeral {text : List Char} {n : Nat} (hsome : 1 ≤ text.length)
    (h : IsNumeral text n) : isdigit text := by
  refine ⟨?_, fun c hc => .inl (h.1 c hc)⟩
  rintro rfl
  exact absurd hsome (by decide)

/-- The check of the length, once the content type is supported. -/
theorem headersExact_length {contentType : HeaderText}
    (htype : supportedContentType (some contentType) = true) (rawLength : HeaderText) :
    HeadersExact (some [contentType]) (some [rawLength]) none maximumBodyBytes ↔
      ¬SuperscriptLength (some [contentType]) (some [rawLength]) none := by
  -- a length that is too long or no digits is refused before any conversion
  by_cases hdigits : rawLength.chars.length > 10 ∨ ¬isdigit rawLength.chars
  · have hrun : validateFormHeaders (some [contentType]) (some [rawLength]) none maximumBodyBytes =
        .ok (none, some ⟨.badRequest, .contentLength⟩) := by
      simp [validateFormHeaders, htype, hdigits]
    refine iff_of_true (headersExact_of_refused hrun ?_) ?_
    · intro length h
      obtain ⟨raw, n, hraw, hsome, hshort, hnumeral, -, -⟩ := h.bounded
      obtain rfl : rawLength = raw := by simpa using hraw
      exact hdigits.elim (by omega) fun hnot => hnot (isdigit_of_isNumeral hsome hnumeral)
    · rintro ⟨-, -, raw, hraw, hshort, hdigit, -⟩
      obtain rfl : rawLength = raw := by simpa using hraw
      exact hdigits.elim (by omega) fun hnot => hnot hdigit
  · have hkept := hdigits
    rw [not_or, not_not] at hkept
    obtain ⟨hshort, hdigit⟩ := hkept
    -- digits are a numeral, or contain a superscript
    rcases int_of_isdigit hdigit with ⟨n, hint, hnumeral⟩ | ⟨hint, hsuper⟩
    · have hplain : ¬SuperscriptLength (some [contentType]) (some [rawLength]) none := by
        rintro ⟨-, -, raw, hraw, -, -, c, hc, hsuper⟩
        obtain rfl : rawLength = raw := by simpa using hraw
        exact not_isDecimal_of_isSuperscript hsuper (hnumeral.1 c hc)
      refine iff_of_true ?_ hplain
      by_cases hlarge : (n : Int) > maximumBodyBytes
      · have hrun : validateFormHeaders (some [contentType]) (some [rawLength]) none
            maximumBodyBytes = .ok (none, some ⟨.requestEntityTooLarge, .bodyTooLarge⟩) := by
          simp [validateFormHeaders, htype, hdigits, hint, hlarge]
        refine headersExact_of_refused hrun ?_
        intro length h
        obtain ⟨raw, m, hraw, -, -, hread, hlength, hbound⟩ := h.bounded
        obtain rfl : rawLength = raw := by simpa using hraw
        rw [hlength, hread.2, ← hnumeral.2] at hbound
        omega
      · have hrun : validateFormHeaders (some [contentType]) (some [rawLength]) none
            maximumBodyBytes = .ok (some n, none) := by
          simp [validateFormHeaders, htype, hdigits, hint, hlarge]
        refine ⟨_, hrun, by simp, fun length => ?_⟩
        constructor
        · intro h
          obtain rfl : (n : Int) = length := Option.some.inj h
          exact ⟨rfl, ⟨contentType, rfl, (supportedContentType_iff contentType).mp htype⟩,
            rawLength, n, rfl, List.length_pos_iff.mpr hdigit.1, by omega, hnumeral, rfl, by omega⟩
        · intro h
          obtain ⟨raw, m, hraw, -, -, hread, hlength, -⟩ := h.bounded
          obtain rfl : rawLength = raw := by simpa using hraw
          rw [hlength, hread.2, ← hnumeral.2]
    · -- the conversion raises, so nothing is returned
      refine iff_of_false ?_ (not_not.mpr ⟨rfl, ⟨contentType, rfl, htype⟩, rawLength, rfl,
        by omega, hdigit, hsuper⟩)
      rintro ⟨result, hrun, -⟩
      have hraises : validateFormHeaders (some [contentType]) (some [rawLength]) none
          maximumBodyBytes = .error .valueError := by
        simp [validateFormHeaders, htype, hdigits, hint]
      rw [hraises] at hrun
      cases hrun

/-- The header check is exact unless it reaches a length with a superscript. -/
theorem headersExact_iff (contentTypes contentLengths : Option (List HeaderText))
    (transferEncoding : Option HeaderText) (maximumBodyBytes : Int) :
    HeadersExact contentTypes contentLengths transferEncoding maximumBodyBytes ↔
      ¬SuperscriptLength contentTypes contentLengths transferEncoding := by
  -- the checks in their order: the encoding, the type, the length
  by_cases hunencoded : transferEncoding = none
  · subst hunencoded
    by_cases htyped : ∃ contentType, contentTypes = some [contentType] ∧
        supportedContentType (some contentType) = true
    · obtain ⟨contentType, rfl, htype⟩ := htyped
      by_cases hlengths : ∃ rawLength, contentLengths = some [rawLength]
      · obtain ⟨rawLength, rfl⟩ := hlengths
        exact headersExact_length htype rawLength
      · have hrun : ∃ status, validateFormHeaders (some [contentType]) contentLengths none
            maximumBodyBytes = .ok (none, some ⟨status, .contentLength⟩) := by
          unfold validateFormHeaders
          rw [if_neg (by simp)]
          dsimp only
          rw [if_pos htype]
          rcases contentLengths with _ | _ | ⟨rawLength, _ | ⟨second, rest⟩⟩
          · exact ⟨_, rfl⟩
          · exact ⟨_, rfl⟩
          · exact absurd ⟨rawLength, rfl⟩ hlengths
          · exact ⟨_, rfl⟩
        obtain ⟨status, hrun⟩ := hrun
        refine iff_of_true (headersExact_of_refused hrun fun length h => ?_) ?_
        · obtain ⟨rawLength, n, hraw, -⟩ := h.bounded
          exact hlengths ⟨rawLength, hraw⟩
        · rintro ⟨-, -, rawLength, hraw, -⟩
          exact hlengths ⟨rawLength, hraw⟩
    · have hrun : validateFormHeaders contentTypes contentLengths none maximumBodyBytes =
          .ok (none, some ⟨.unsupportedMediaType, .contentType⟩) := by
        unfold validateFormHeaders
        rw [if_neg (by simp)]
        rcases contentTypes with _ | _ | ⟨contentType, _ | ⟨second, rest⟩⟩
        · rfl
        · rfl
        · exact if_neg fun htype => htyped ⟨contentType, rfl, htype⟩
        · rfl
      refine iff_of_true (headersExact_of_refused hrun fun length h => ?_) fun h => htyped h.2.1
      obtain ⟨contentType, htypes, hurlencoded⟩ := h.typed
      exact htyped ⟨contentType, htypes, (supportedContentType_iff contentType).mpr hurlencoded⟩
  · have hrun : validateFormHeaders contentTypes contentLengths transferEncoding maximumBodyBytes =
        .ok (none, some ⟨.badRequest, .transferEncoding⟩) :=
      if_pos (Option.isSome_iff_ne_none.mpr hunencoded)
    exact iff_of_true (headersExact_of_refused hrun fun length h => hunencoded h.unencoded)
      fun h => hunencoded h.1

/-! ## The body -/

/-- A body is a form: ASCII, its escapes whole, and the pairs of the mapping are what it spells.  No
field is repeated, since the keys of a mapping are distinct. -/
structure AcceptedForm (body : List UInt8) (allowedFields requiredFields : Finset String)
    (mapping : Dict String String) : Prop where
  ascii : ∀ b ∈ body, b < 128
  escaped : IsEscaped (asciiText body)
  spelled : SpellsForm (asciiText body) mapping.entries
  few : mapping.size ≤ 4
  expected : ∀ key ∈ mapping.keys, key ∈ allowedFields
  complete : ∀ key ∈ requiredFields, key ∈ mapping.keys

/-- The form is read, or refused, and the mapping is what the body spells. -/
def FormExact (body : List UInt8) (allowedFields requiredFields : Finset String) : Prop :=
  ∃ result, parseForm body allowedFields requiredFields = .ok result ∧
    ∀ mapping, result = some mapping ↔ AcceptedForm body allowedFields requiredFields mapping

/-- New and expected pairs all go into the dictionary, behind the ones in it. -/
theorem collectFields_iff {allowedFields : Finset String} : ∀ {pairs : List (String × String)}
    {fields mapping : Dict String String},
    collectFields allowedFields pairs fields = some mapping ↔
      mapping.entries = fields.entries ++ pairs ∧ ∀ pair ∈ pairs, pair.1 ∈ allowedFields
  | [], fields, mapping => by
    unfold collectFields
    rw [List.append_nil]
    constructor
    · intro h
      obtain rfl := Option.some.inj h
      exact ⟨rfl, by simp⟩
    · rintro ⟨h, -⟩
      exact congrArg some (Dict.ext h.symm)
  | (key, value) :: rest, fields, mapping => by
    unfold collectFields
    split
    case isTrue hrefused =>
      refine iff_of_false nofun ?_
      rintro ⟨hentries, hallowed⟩
      rcases hrefused with hnot | hrepeated
      · exact hnot (hallowed _ List.mem_cons_self)
      · have hdistinct := mapping.distinct
        rw [hentries, List.map_append, List.nodup_append] at hdistinct
        exact hdistinct.2.2 key hrepeated key List.mem_cons_self rfl
    case isFalse hfresh =>
      rw [not_or, not_not] at hfresh
      have hset : (fields.set key value).entries = fields.entries ++ [(key, value)] :=
        Dict.set_of_not_mem_entries hfresh.2 value
      rw [collectFields_iff, hset, List.append_assoc, List.singleton_append]
      refine and_congr_right fun _ => ?_
      constructor
      · intro hrest pair hpair
        rcases List.mem_cons.mp hpair with rfl | hpair
        · exact hfresh.1
        · exact hrest pair hpair
      · intro hall pair hpair
        exact hall pair (List.mem_cons_of_mem _ hpair)

variable {body : List UInt8} {allowedFields requiredFields : Finset String}

/-- Every exception of the decoding and of the parsing is caught. -/
theorem parseForm_returns (body : List UInt8) (allowedFields requiredFields : Finset String) :
    ∃ result, parseForm body allowedFields requiredFields = .ok result := by
  unfold parseForm decodeAscii
  split
  case h_1 => exact ⟨_, rfl⟩
  case h_2 e hother hdecode =>
    split at hdecode
    · cases hdecode
    · exact absurd (Except.error.inj hdecode).symm hother
  case h_3 =>
    split
    · split
      · exact ⟨_, rfl⟩
      · exact ⟨_, rfl⟩
      · split
        · exact ⟨_, rfl⟩
        · split <;> exact ⟨_, rfl⟩
    · exact ⟨_, rfl⟩

/-- The checks that a mapping has passed. -/
theorem parseForm_some {mapping : Dict String String} :
    parseForm body allowedFields requiredFields = .ok (some mapping) ↔
      (∀ b ∈ body, b < 128) ∧ percentEscapesAreValid (asciiText body) = true ∧
        ∃ pairs, parseQsl (asciiText body) maxFormFields = .ok pairs ∧
          collectFields allowedFields pairs Dict.empty = some mapping ∧
          ∀ key ∈ requiredFields, key ∈ mapping.keys := by
  unfold parseForm decodeAscii
  have hall : body.all (· < 128) = true ↔ ∀ b ∈ body, b < 128 := by
    simp only [List.all_eq_true, decide_eq_true_eq]
  by_cases hascii : ∀ b ∈ body, b < 128
  · rw [if_pos (hall.mpr hascii)]
    cases hvalid : percentEscapesAreValid (asciiText body) with
    | false => simp [hvalid]
    | true =>
      cases hparse : parseQsl (asciiText body) maxFormFields with
      | error e => cases e <;> simp [hvalid, hparse, Except.mapError, raisedBy]
      | ok pairs =>
        cases hfields : collectFields allowedFields pairs Dict.empty with
        | none => simp [hvalid, hparse, Except.mapError, hfields]
        | some fields =>
          by_cases hcomplete : ∀ key ∈ requiredFields, key ∈ fields.keys
          · have hkept : ∀ key ∈ requiredFields, key ∈ fields.keys := hcomplete
            simp only [hvalid, hparse, Except.mapError, hfields, if_pos hcomplete]
            constructor
            · intro h
              obtain rfl := Option.some.inj (Except.ok.inj h)
              exact ⟨hascii, trivial, pairs, rfl, hfields, hkept⟩
            · rintro ⟨-, -, pairs', hpairs, hread, -⟩
              obtain rfl := Except.ok.inj hpairs
              rw [hfields] at hread
              rw [Option.some.inj hread]
              rfl
          · simp only [hvalid, hparse, Except.mapError, hfields, if_neg hcomplete]
            refine iff_of_false (fun h => by cases h) ?_
            rintro ⟨-, -, pairs', hpairs, hread, hkeys⟩
            obtain rfl := Except.ok.inj hpairs
            rw [hfields] at hread
            obtain rfl := Option.some.inj hread
            exact hcomplete hkeys
  · rw [if_neg (mt hall.mp hascii)]
    exact iff_of_false (fun h => by cases h) fun h => hascii h.1

/-- A form is read exactly when it is accepted, and as the mapping it spells. -/
theorem parseForm_iff {mapping : Dict String String} :
    parseForm body allowedFields requiredFields = .ok (some mapping) ↔
      AcceptedForm body allowedFields requiredFields mapping := by
  have hscan : percentEscapesAreValid (asciiText body) = true ↔ IsEscaped (asciiText body) :=
    escapesValidFrom_iff (asciiText body) 0
  rw [parseForm_some, hscan]
  constructor
  · rintro ⟨hascii, hescaped, pairs, hparse, hfields, hcomplete⟩
    obtain ⟨hspelled, hfew⟩ := (parseQsl_iff hescaped).mp hparse
    obtain ⟨hentries, hall⟩ := collectFields_iff.mp hfields
    obtain rfl : mapping.entries = pairs := hentries
    refine ⟨hascii, hescaped, hspelled, hfew, ?_, hcomplete⟩
    intro key hkey
    obtain ⟨pair, hpair, rfl⟩ := List.mem_map.mp hkey
    exact hall pair hpair
  · intro h
    refine ⟨h.ascii, h.escaped, mapping.entries, ?_, ?_, h.complete⟩
    · exact (parseQsl_iff h.escaped).mpr ⟨h.spelled, h.few⟩
    · exact collectFields_iff.mpr
        ⟨rfl, fun pair hpair => h.expected _ (List.mem_map_of_mem hpair)⟩

theorem formExact (body : List UInt8) (allowedFields requiredFields : Finset String) :
    FormExact body allowedFields requiredFields := by
  obtain ⟨result, hresult⟩ := parseForm_returns body allowedFields requiredFields
  refine ⟨result, hresult, fun mapping => ?_⟩
  rw [← parseForm_iff, hresult, Except.ok.injEq]

/-! ## The boundary -/

/-- The boundary is total and exact on a request unless the length it checks is written with a
superscript. -/
theorem form_boundary_iff (contentTypes contentLengths : Option (List HeaderText))
    (transferEncoding : Option HeaderText) (maximumBodyBytes : Int) (body : List UInt8)
    (allowedFields requiredFields : Finset String) :
    HeadersExact contentTypes contentLengths transferEncoding maximumBodyBytes ∧
        FormExact body allowedFields requiredFields ↔
      ¬SuperscriptLength contentTypes contentLengths transferEncoding := by
  rw [headersExact_iff]
  exact and_iff_left (formExact body allowedFields requiredFields)

/-- An urlencoded content type, written as browsers do. -/
def plainFormType : HeaderText :=
  .ofChars "application/x-www-form-urlencoded".toList (by decide)

/-- A length of one character, the superscript two. -/
def superscriptTwo : HeaderText := .ofChars ['²'] (by decide)

/-- A superscript passes `isdigit`, and converting it raises. -/
theorem superscript_length_raises :
    validateFormHeaders (some [plainFormType]) (some [superscriptTwo]) none 4096 =
        .error .valueError ∧
      ¬(HeadersExact (some [plainFormType]) (some [superscriptTwo]) none 4096 ∧
        FormExact [] ∅ ∅) := by
  have hraises : validateFormHeaders (some [plainFormType]) (some [superscriptTwo]) none 4096 =
      .error .valueError := by decide
  refine ⟨hraises, ?_⟩
  rintro ⟨⟨result, hreturned, -⟩, -⟩
  rw [hraises] at hreturned
  cases hreturned

end Aurora.ControlPlane
