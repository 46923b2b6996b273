/-
  What the password commands make of any text.

  Reading a hash ends in one of three ways (`parsePasswordHash_ends`): with its parts, which lie
  within the bounds, with an error of the format, or with the `ValueError` of a work factor whose
  digits are not all decimal.  The last one passes both commands, and `passwordLaw_iff` says that
  nothing else breaks their law.

  1. **Parts** — decoding a part, and the way back.
  2. **Reading** — the three ways.
  3. **Round trip** — a hash that was made is read back.
  4. **Law** — what the commands promise, and when.
-/
import Aurora.Security.Passwords

namespace Aurora.Security

open Program

variable {table : Unicode.DigitTable}

/-! ## Parts -/

/-- A part is decoded, or an error of the format. -/
theorem decode_ends (value : List Char) :
    (∃ bytes, decode value = .ok bytes) ∨
      ∃ message, decode value = .error (.passwordHash message) := by
  unfold decode
  split
  · exact .inr ⟨_, rfl⟩
  · split
    · exact .inl ⟨_, rfl⟩
    · exact .inr ⟨_, rfl⟩

theorem isEncodedCharacter_urlsafe :
    ∀ n < 64, IsEncodedCharacter (Base64.urlsafe (Base64.sextetChar n)) := by
  decide

theorem encode_eq (value : List UInt8) : encode value = Base64.unpadded value :=
  Base64.rstrip_urlsafeB64encode value

theorem isEncodedCharacter_of_mem {value : List UInt8} {c : Char} (h : c ∈ encode value) :
    IsEncodedCharacter c := by
  rw [encode_eq] at h
  obtain ⟨n, hn, rfl⟩ := List.mem_map.mp h
  exact isEncodedCharacter_urlsafe n (Base64.sextets_lt n hn)

theorem length_encode (value : List UInt8) :
    (encode value).length = (4 * value.length + 2) / 3 := by
  rw [encode_eq, Base64.length_unpadded]

theorem decode_encode {value : List UInt8} (h : value ≠ []) : decode (encode value) = .ok value := by
  have hlength := List.length_pos_of_ne_nil h
  have hsome : encode value ≠ [] := by
    intro hnil
    have hzero := length_encode value
    rw [hnil, List.length_nil] at hzero
    omega
  have hcharacters : (encode value).all (fun c => IsEncodedCharacter c) = true :=
    List.all_eq_true.mpr fun c hc => decide_eq_true (isEncodedCharacter_of_mem hc)
  unfold decode
  rw [if_neg (by rintro (hnil | hall); exacts [hsome hnil, hall hcharacters]), encode_eq,
    Base64.urlsafeB64decode_unpadded]

/-! ## Reading -/

/-- The text of a hash with a work factor of digits that are not all decimal. -/
def UndecimalWorkFactor (table : Unicode.DigitTable) (encodedHash : List Char) : Prop :=
  encodedHash.length ≤ maxEncodedHashCharacters ∧ ∃ digits saltText keyText,
    encodedHash.splitOn '$' =
      [hashScheme, hashVersion, "i=".toList ++ digits, saltText, keyText] ∧
    Unicode.isdigit table digits ∧ ∃ c ∈ digits, table.IsOther c

/-- What a hash may hold. -/
def WithinBounds (iterations : Nat) (salt key : List UInt8) : Prop :=
  (minIterations ≤ iterations ∧ iterations ≤ maxIterations) ∧ salt.length = saltBytes ∧
    key.length = derivedKeyBytes

/-- How reading a hash ends. -/
inductive ParseEnd (table : Unicode.DigitTable) (encodedHash : List Char) :
    Except PasswordException (Nat × List UInt8 × List UInt8) → Prop
  | accepted {iterations : Nat} {salt key : List UInt8} (h : WithinBounds iterations salt key)
      (hdecimal : ¬UndecimalWorkFactor table encodedHash) :
      ParseEnd table encodedHash (.ok (iterations, salt, key))
  | refused (message : String) (hdecimal : ¬UndecimalWorkFactor table encodedHash) :
      ParseEnd table encodedHash (.error (.passwordHash message))
  | misread (h : UndecimalWorkFactor table encodedHash) :
      ParseEnd table encodedHash (.error .value)

/-- How the parser ends, over every text. -/
theorem parsePasswordHash_ends (encodedHash : List Char) :
    ParseEnd table encodedHash (parsePasswordHash table encodedHash) := by
  unfold parsePasswordHash
  split
  case isTrue hlength =>
    refine .refused _ fun ⟨hmax, digits, saltText, keyText, hsplit, _⟩ => hlength ⟨?_, hmax⟩
    refine List.length_pos_iff.mpr fun hnil => ?_
    rw [hnil, List.splitOn_nil] at hsplit
    cases hsplit
  case isFalse hlength =>
    rw [not_not] at hlength
    split
    case h_2 hparts =>
      exact .refused _ fun ⟨_, digits, saltText, keyText, hsplit, _⟩ => hparts _ _ _ _ _ hsplit
    case h_1 scheme version parameter saltText keyText hparts =>
      -- the five parts of the text are those of any such hash
      have hsame : ∀ {digits saltText' keyText'}, encodedHash.splitOn '$' =
          [hashScheme, hashVersion, "i=".toList ++ digits, saltText', keyText'] →
          scheme = hashScheme ∧ version = hashVersion ∧ parameter = "i=".toList ++ digits := by
        intro digits saltText' keyText' hsplit
        rw [hparts] at hsplit
        simp only [List.cons.injEq] at hsplit
        exact ⟨hsplit.1, hsplit.2.1, hsplit.2.2.1⟩
      split
      case isTrue hother =>
        refine .refused _ fun ⟨_, digits, _, _, hsplit, _⟩ => ?_
        obtain ⟨hscheme, hversion, -⟩ := hsame hsplit
        exact hother.elim (fun h => h hscheme) fun h => h hversion
      case isFalse hscheme =>
        rw [not_or, not_not, not_not] at hscheme
        split
        case isTrue hmalformed =>
          refine .refused _ fun ⟨_, digits, _, _, hsplit, hdigits, _⟩ => ?_
          obtain ⟨-, -, rfl⟩ := hsame hsplit
          exact hmalformed.elim (fun h => h (List.prefix_append _ _)) fun h => h hdigits
        case isFalse hparameter =>
          rw [not_or, not_not, not_not] at hparameter
          obtain ⟨⟨digits, rfl⟩, hdigits⟩ := hparameter
          rw [show ("i=".toList ++ digits).drop 2 = digits from rfl] at hdigits ⊢
          split
          case h_1 hint =>
            refine .misread ⟨hlength.2, digits, saltText, keyText, ?_, hdigits,
              (Unicode.int_of_isdigit hdigits).mp hint⟩
            rw [hparts, hscheme.1, hscheme.2]
          case h_2 iterations hint =>
            have hdecimal : ¬UndecimalWorkFactor table encodedHash := by
              rintro ⟨_, digits', _, _, hsplit, hdigits', hother⟩
              obtain rfl := List.append_cancel_left (hsame hsplit).2.2
              rw [(Unicode.int_of_isdigit hdigits').mpr hother] at hint
              cases hint
            split
            case isTrue => exact .refused _ hdecimal
            case isFalse hbounds =>
              rw [not_not] at hbounds
              rcases decode_ends saltText with ⟨salt, hsalt⟩ | ⟨message, hsalt⟩
              · rcases decode_ends keyText with ⟨key, hkey⟩ | ⟨message, hkey⟩
                · rw [hsalt, hkey]
                  show ParseEnd table encodedHash (if _ then _ else _)
                  split
                  case isTrue => exact .refused _ hdecimal
                  case isFalse hmaterial =>
                    rw [not_or, not_not, not_not] at hmaterial
                    exact .accepted ⟨hbounds, hmaterial⟩ hdecimal
                · rw [hsalt, hkey]
                  exact .refused message hdecimal
              · rw [hsalt]
                exact .refused message hdecimal

/-! ## Round trip -/

theorem hashScheme_part : '$' ∉ hashScheme := by decide

theorem hashVersion_part : '$' ∉ hashVersion := by decide

/-- The work factor contains no separator. -/
theorem workFactor_part (iterations : Nat) : '$' ∉ "i=".toList ++ Nat.toDigits 10 iterations := by
  intro h
  rcases List.mem_append.mp h with h | h
  · exact absurd h (by decide)
  · exact absurd (Nat.isDigit_of_mem_toDigits (by decide) (by decide) h) (by decide)

/-- Neither does an encoded value. -/
theorem encode_part (value : List UInt8) : '$' ∉ encode value := fun h =>
  absurd (isEncodedCharacter_of_mem h) (by decide)

/-- So a written hash is split into its five parts. -/
theorem splitOn_hashText (iterations : Nat) (salt key : List UInt8) :
    (hashText iterations salt key).splitOn '$' =
      [hashScheme, hashVersion, "i=".toList ++ Nat.toDigits 10 iterations, encode salt,
        encode key] := by
  unfold hashText
  refine List.splitOn_intercalate '$' ?_ (List.cons_ne_nil _ _)
  simp only [List.forall_mem_cons]
  exact ⟨hashScheme_part, hashVersion_part, workFactor_part _, encode_part _, encode_part _,
    List.forall_mem_nil _⟩

/-- The text of a hash within the bounds fits the length limit. -/
theorem length_hashText {iterations : Nat} {salt key : List UInt8}
    (h : WithinBounds iterations salt key) :
    1 ≤ (hashText iterations salt key).length ∧
      (hashText iterations salt key).length ≤ maxEncodedHashCharacters := by
  obtain ⟨⟨-, hmax⟩, hsalt, hkey⟩ := h
  have hdigits : (Nat.toDigits 10 iterations).length ≤ 7 :=
    (Nat.length_toDigits_le_iff (by decide) (by decide)).mpr
      (Nat.lt_of_le_of_lt hmax (by decide))
  have hlength : (hashText iterations salt key).length =
      20 + (1 + (2 + (1 + (2 + (Nat.toDigits 10 iterations).length + (1 +
        ((encode salt).length + (1 + (encode key).length))))))) := by
    unfold hashText
    simp only [List.intercalate, List.intersperse, List.flatten_cons, List.flatten_nil,
      List.length_append, List.length_cons, List.length_nil]
    rfl
  rw [length_encode, length_encode, hsalt, hkey] at hlength
  unfold saltBytes derivedKeyBytes at hlength
  unfold maxEncodedHashCharacters
  omega

theorem parsePasswordHash_hashText {iterations : Nat} {salt key : List UInt8}
    (h : WithinBounds iterations salt key) :
    parsePasswordHash table (hashText iterations salt key) = .ok (iterations, salt, key) := by
  have hlength := length_hashText h
  obtain ⟨hbounds, hsalt, hkey⟩ := h
  have hsome : salt ≠ [] ∧ key ≠ [] := by
    constructor <;> rintro rfl
    · cases hsalt
    · cases hkey
  unfold parsePasswordHash
  rw [if_neg (not_not.mpr hlength), splitOn_hashText]
  dsimp only
  rw [if_neg (by simp), if_neg (by
    rw [not_or, not_not, not_not]
    exact ⟨List.prefix_append _ _, Unicode.isdigit_toDigits iterations⟩)]
  rw [show ("i=".toList ++ Nat.toDigits 10 iterations).drop 2 = Nat.toDigits 10 iterations from rfl,
    Unicode.int_toDigits]
  dsimp only
  rw [if_neg (not_not.mpr hbounds), decode_encode hsome.1, decode_encode hsome.2]
  exact if_neg (by simp [hsalt, hkey])

/-! ## Law -/

/-- A system that draws bytes, and derives keys as a function. -/
structure Environment where
  tokenBytes (count : Nat) : { bytes : List UInt8 // bytes.length = count }
  pbkdf2Hmac (password salt : List UInt8) (iterations dklen : Nat) :
    { bytes : List UInt8 // bytes.length = dklen }

/-- The answers of an environment. -/
def Environment.answer (e : Environment) :
    Unit → (c : PasswordInterface.Call) → PasswordInterface.Answer c × Unit
  | _, .tokenBytes count => (e.tokenBytes count, ())
  | _, .pbkdf2Hmac password salt iterations dklen =>
    (e.pbkdf2Hmac password salt iterations dklen, ())

/-- What a command ends with. -/
def Environment.run {α : Type} (e : Environment) (x : PasswordProgram α) :
    Except PasswordException α :=
  (x.play e.answer ()).1

/-- What the commands promise for a password and a text. -/
structure PasswordLaw (table : Unicode.DigitTable) (password encodedHash : List Char) : Prop where
  verifies : ∀ t r, Runs (verifyPassword table password encodedHash) t r → ∃ b, r = .ok b
  validates : validatePasswordHash table encodedHash = .ok () ∨
    ∃ message, validatePasswordHash table encodedHash = .error (.passwordHash message)
  /-- Keys are derived within the bounds only. -/
  bounded : ∀ t r, Runs (verifyPassword table password encodedHash) t r → ∀ x ∈ t,
    ∃ salt key iterations, WithinBounds iterations salt key ∧
      parsePasswordHash table encodedHash = .ok (iterations, salt, key) ∧
      x.1 = .pbkdf2Hmac (encodeUtf8 password) salt iterations derivedKeyBytes
  /-- The password's own hash is read back and verifies. -/
  roundTrip : passwordIsAcceptable password → ∀ (e : Environment) (salt : Option (List UInt8))
    (iterations : Nat), (∀ given ∈ salt, given.length = saltBytes) →
    minIterations ≤ iterations ∧ iterations ≤ maxIterations →
    ∃ encoded, e.run (hashPassword password salt iterations) = .ok encoded ∧
      parsePasswordHash table encoded =
        .ok (iterations, salt.getD (e.tokenBytes saltBytes).1,
          (e.pbkdf2Hmac (encodeUtf8 password) (salt.getD (e.tokenBytes saltBytes).1) iterations
            derivedKeyBytes).1) ∧
      e.run (verifyPassword table password encoded) = .ok true

/-- A password's own hash is read back and verifies. -/
theorem hashPassword_roundTrip {password : List Char} (hpassword : passwordIsAcceptable password)
    (e : Environment) {salt : Option (List UInt8)} {iterations : Nat}
    (hsalt : ∀ given ∈ salt, given.length = saltBytes)
    (hbounds : minIterations ≤ iterations ∧ iterations ≤ maxIterations) :
    ∃ encoded, e.run (hashPassword password salt iterations) = .ok encoded ∧
      parsePasswordHash table encoded =
        .ok (iterations, salt.getD (e.tokenBytes saltBytes).1,
          (e.pbkdf2Hmac (encodeUtf8 password) (salt.getD (e.tokenBytes saltBytes).1) iterations
            derivedKeyBytes).1) ∧
      e.run (verifyPassword table password encoded) = .ok true := by
  have hactive : (salt.getD (e.tokenBytes saltBytes).1).length = saltBytes := by
    cases salt with
    | none => exact (e.tokenBytes saltBytes).2
    | some given => exact hsalt given rfl
  have hhash : e.run (hashPassword password salt iterations) =
      .ok (hashText iterations (salt.getD (e.tokenBytes saltBytes).1)
        (e.pbkdf2Hmac (encodeUtf8 password) (salt.getD (e.tokenBytes saltBytes).1) iterations
          derivedKeyBytes).1) := by
    unfold hashPassword
    rw [if_neg (not_not.mpr hpassword), if_neg (not_not.mpr hbounds)]
    cases salt with
    | none => exact (congrArg e.run (if_neg (not_not.mpr hactive))).trans rfl
    | some given => exact (congrArg e.run (if_neg (not_not.mpr hactive))).trans rfl
  generalize hkey : e.pbkdf2Hmac (encodeUtf8 password) (salt.getD (e.tokenBytes saltBytes).1)
    iterations derivedKeyBytes = key at hhash ⊢
  have hparse := @parsePasswordHash_hashText table _ _ _ ⟨hbounds, hactive, key.2⟩
  refine ⟨_, hhash, hparse, ?_⟩
  unfold verifyPassword
  rw [if_neg (not_not.mpr hpassword), hparse]
  show Except.ok ((e.pbkdf2Hmac _ _ _ _).1 == key.1) = _
  rw [hkey, beq_self_eq_true]

theorem passwordLaw_iff (table : Unicode.DigitTable) (password encodedHash : List Char) :
    PasswordLaw table password encodedHash ↔ ¬UndecimalWorkFactor table encodedHash := by
  have hends := @parsePasswordHash_ends table encodedHash
  constructor
  · intro h hundecimal
    have hvalidates := h.validates
    unfold validatePasswordHash at hvalidates
    generalize hparse : parsePasswordHash table encodedHash = parsed at hends hvalidates
    -- a work factor that is no decimal text leaves with the exception of `int`
    cases hends with
    | accepted _ hdecimal => exact hdecimal hundecimal
    | refused _ hdecimal => exact hdecimal hundecimal
    | misread _ =>
      rcases hvalidates with hvalid | ⟨message, hvalid⟩
      · cases hvalid
      · cases hvalid
  · intro hdecimal
    -- verifying returns, validating ends in its two ways, the work is bounded
    refine ⟨?_, ?_, ?_, fun hpassword e _ _ hsalt hbounds =>
      hashPassword_roundTrip hpassword e hsalt hbounds⟩
    · intro t r hrun
      unfold verifyPassword at hrun
      split at hrun
      · obtain ⟨-, rfl⟩ := runs_pure.mp hrun
        exact ⟨_, rfl⟩
      · generalize hparse : parsePasswordHash table encodedHash = parsed at hends hrun
        cases hends with
        | accepted _ _ =>
          obtain ⟨answer, t', rfl, hrest⟩ := (runs_ask_bind (I := PasswordInterface)).mp hrun
          obtain ⟨-, rfl⟩ := runs_pure.mp hrest
          exact ⟨_, rfl⟩
        | refused _ _ =>
          obtain ⟨-, rfl⟩ := runs_pure.mp hrun
          exact ⟨_, rfl⟩
        | misread hundecimal => exact absurd hundecimal hdecimal
    · unfold validatePasswordHash
      generalize hparse : parsePasswordHash table encodedHash = parsed at hends
      cases hends with
      | accepted _ _ => exact .inl rfl
      | refused message _ => exact .inr ⟨message, rfl⟩
      | misread hundecimal => exact absurd hundecimal hdecimal
    · intro t r hrun x hx
      unfold verifyPassword at hrun
      split at hrun
      · obtain ⟨rfl, -⟩ := runs_pure.mp hrun
        cases hx
      · generalize hparse : parsePasswordHash table encodedHash = parsed at hends hrun ⊢
        cases hends with
        | accepted hwithin _ =>
          obtain ⟨answer, t', rfl, hrest⟩ := (runs_ask_bind (I := PasswordInterface)).mp hrun
          obtain ⟨rfl, -⟩ := runs_pure.mp hrest
          obtain rfl := List.mem_singleton.mp hx
          exact ⟨_, _, _, hwithin, rfl, rfl⟩
        | refused _ _ =>
          obtain ⟨rfl, -⟩ := runs_pure.mp hrun
          cases hx
        | misread hundecimal => exact absurd hundecimal hdecimal

/-- A superscript in the work factor: validating and verifying raise the `ValueError` of `int`. -/
theorem superscript_workFactor :
    let encodedHash := "aurora-pbkdf2-sha256$v1$i=60000²$a$a".toList
    ¬PasswordLaw Unicode.unicode15 "secret".toList encodedHash ∧
      validatePasswordHash Unicode.unicode15 encodedHash = .error .value ∧
      Runs (verifyPassword Unicode.unicode15 "secret".toList encodedHash) [] (.error .value) := by
  intro encodedHash
  have hparse : parsePasswordHash Unicode.unicode15 encodedHash = .error .value := by decide
  have hvalidate : validatePasswordHash Unicode.unicode15 encodedHash = .error .value := by
    unfold validatePasswordHash
    rw [hparse]
    rfl
  refine ⟨fun h => ?_, hvalidate, ?_⟩
  · rcases h.validates with hvalid | ⟨message, hvalid⟩
    · rw [hvalidate] at hvalid
      cases hvalid
    · rw [hvalidate] at hvalid
      cases hvalid
  · unfold verifyPassword
    rw [if_neg (by decide), hparse]
    exact .raise _

end Aurora.Security
