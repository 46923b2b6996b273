/-
  Password hashes: a versioned text of a work factor, a salt and a derived key.

  The bytes that the operating system draws and the keys that PBKDF2 derives are answers of an
  environment.  Texts are lists of characters, and what is a digit is a table of Unicode.

  1. **Format** — encoding a part, reading a text.
  2. **Commands** — hashing, validating and verifying a password.
-/
import Aurora.Lib.Base64
import Aurora.Lib.Interaction
import Aurora.Lib.UnicodeDigits

namespace Aurora.Security

open Program

/-- The first field of an encoded hash. -/
def hashScheme : List Char := "aurora-pbkdf2-sha256".toList
/-- Its version. -/
def hashVersion : List Char := "v1".toList
/-- The iterations of a new hash. -/
def defaultIterations : Nat := 600000
/-- The fewest iterations. -/
def minIterations : Nat := 200000
/-- The most iterations. -/
def maxIterations : Nat := 1000000
/-- The length of a salt. -/
def saltBytes : Nat := 16
/-- The length of a derived key. -/
def derivedKeyBytes : Nat := 32
/-- The longest password. -/
def maxPasswordCharacters : Nat := 1024
/-- The longest encoded hash. -/
def maxEncodedHashCharacters : Nat := 256

/-- What is raised: the errors of the format, and the `ValueError` of `int`. -/
inductive PasswordException
  | passwordHash (message : String)
  | value
deriving DecidableEq, Repr

/-! ## Calls -/

/-- The calls of the module. -/
inductive PasswordCall
  | tokenBytes (count : Nat)
  | pbkdf2Hmac (password salt : List UInt8) (iterations dklen : Nat)

/-- Both answer with as many bytes as they are asked for. -/
def PasswordInterface : Interface where
  Call := PasswordCall
  Answer
    | .tokenBytes count => { bytes : List UInt8 // bytes.length = count }
    | .pbkdf2Hmac _ _ _ dklen => { bytes : List UInt8 // bytes.length = dklen }

/-- A program of the module. -/
abbrev PasswordProgram (α : Type) : Type := Program PasswordInterface PasswordException α

/-- Random bytes. -/
def tokenBytes (count : Nat) : PasswordProgram { bytes : List UInt8 // bytes.length = count } :=
  ask (I := PasswordInterface) (.tokenBytes count)

/-- The derived key of a password. -/
def pbkdf2Hmac (password salt : List UInt8) (iterations dklen : Nat) :
    PasswordProgram { bytes : List UInt8 // bytes.length = dklen } :=
  ask (I := PasswordInterface) (.pbkdf2Hmac password salt iterations dklen)

/-! ## Format -/

/-- `str.encode` as UTF-8. -/
def encodeUtf8 (text : List Char) : List UInt8 := text.flatMap String.utf8EncodeChar

/-- The password has an admitted length. -/
def passwordIsAcceptable (password : List Char) : Prop :=
  0 < password.length ∧ password.length ≤ maxPasswordCharacters

instance (password : List Char) : Decidable (passwordIsAcceptable password) :=
  inferInstanceAs (Decidable (0 < password.length ∧ password.length ≤ maxPasswordCharacters))

/-- The characters of `_ENCODED_PART`. -/
def IsEncodedCharacter (c : Char) : Prop :=
  'A' ≤ c ∧ c ≤ 'Z' ∨ 'a' ≤ c ∧ c ≤ 'z' ∨ '0' ≤ c ∧ c ≤ '9' ∨ c = '_' ∨ c = '-'

instance : DecidablePred IsEncodedCharacter := fun c =>
  inferInstanceAs (Decidable ('A' ≤ c ∧ c ≤ 'Z' ∨ 'a' ≤ c ∧ c ≤ 'z' ∨ '0' ≤ c ∧ c ≤ '9' ∨
    c = '_' ∨ c = '-'))

/-- `_encode` -/
def encode (value : List UInt8) : List Char :=
  (Base64.urlsafeB64encode value).rdropWhile (· = '=')

/-- `_decode` -/
def decode (value : List Char) : Except PasswordException (List UInt8) :=
  if value = [] ∨ ¬(value.all (fun c => IsEncodedCharacter c) = true) then
    .error (.passwordHash "password hash encoding is malformed")
  else
    match Base64.urlsafeB64decode (value ++ Base64.padding value.length) with
    | some bytes => .ok bytes
    | none => .error (.passwordHash "password hash encoding is malformed")

/-- `_parse_password_hash` -/
def parsePasswordHash (table : Unicode.DigitTable) (encodedHash : List Char) :
    Except PasswordException (Nat × List UInt8 × List UInt8) :=
  if ¬(1 ≤ encodedHash.length ∧ encodedHash.length ≤ maxEncodedHashCharacters) then
    .error (.passwordHash "password hash length is unsupported")
  else
    match encodedHash.splitOn '$' with
    | [scheme, version, parameter, saltText, keyText] =>
      if scheme ≠ hashScheme ∨ version ≠ hashVersion then
        .error (.passwordHash "password hash scheme or version is unsupported")
      else if ¬("i=".toList <+: parameter) ∨ ¬Unicode.isdigit table (parameter.drop 2) then
        .error (.passwordHash "password hash parameters are malformed")
      else
        match Unicode.int table (parameter.drop 2) with
        | none => .error .value
        | some iterations =>
          if ¬(minIterations ≤ iterations ∧ iterations ≤ maxIterations) then
            .error (.passwordHash "password hash work factor is outside safe bounds")
          else do
            let salt ← decode saltText
            let expected ← decode keyText
            if salt.length ≠ saltBytes ∨ expected.length ≠ derivedKeyBytes then
              .error (.passwordHash "password hash material has an unsupported length")
            else .ok (iterations, salt, expected)
    | _ => .error (.passwordHash "password hash scheme or version is unsupported")

/-! ## Commands -/

/-- The text of a hash. -/
def hashText (iterations : Nat) (salt key : List UInt8) : List Char :=
  ['$'].intercalate [hashScheme, hashVersion, "i=".toList ++ Nat.toDigits 10 iterations, encode salt,
    encode key]

/-- `hash_password` -/
def hashPassword (password : List Char) (salt : Option (List UInt8)) (iterations : Nat) :
    PasswordProgram (List Char) :=
  if ¬passwordIsAcceptable password then
    raise (.passwordHash "password length is outside the supported range")
  else if ¬(minIterations ≤ iterations ∧ iterations ≤ maxIterations) then
    raise (.passwordHash "password hash work factor is outside safe bounds")
  else do
    let activeSalt ← match salt with
      | some salt => pure salt
      | none => do
        let token ← tokenBytes saltBytes
        pure token.1
    if activeSalt.length ≠ saltBytes then
      raise (.passwordHash "password hash salt length is unsupported")
    else do
      let derived ← pbkdf2Hmac (encodeUtf8 password) activeSalt iterations derivedKeyBytes
      pure (hashText iterations activeSalt derived.1)

/-- `validate_password_hash` -/
def validatePasswordHash (table : Unicode.DigitTable) (encodedHash : List Char) :
    Except PasswordException Unit := do
  let _ ← parsePasswordHash table encodedHash
  .ok ()

/-- `verify_password` -/
def verifyPassword (table : Unicode.DigitTable) (password encodedHash : List Char) :
    PasswordProgram Bool :=
  if ¬passwordIsAcceptable password then pure false
  else
    match parsePasswordHash table encodedHash with
    | .error (.passwordHash _) => pure false
    | .error .value => raise .value
    | .ok (iterations, salt, expected) => do
      let actual ← pbkdf2Hmac (encodeUtf8 password) salt iterations derivedKeyBytes
      pure (actual.1 == expected)

end Aurora.Security
