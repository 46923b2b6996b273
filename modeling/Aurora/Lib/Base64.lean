/-
  Base64: three bytes as four characters.

  A group of three bytes is four numbers below 64, and each number is a character.  The last group
  may be short: its last number is filled up with zero bits, and the text with padding.
  `octets_sextets` reads the bytes back from the numbers, `a2b_b2a` from the padded text.
-/
import Mathlib.Data.List.DropRight

namespace Aurora.Base64

/-! ## Numbers below 64 -/

/-- The bytes in groups of six bits. -/
def sextets : List UInt8 → List Nat
  | a :: b :: c :: rest =>
    a.toNat / 4 :: (a.toNat % 4 * 16 + b.toNat / 16) :: (b.toNat % 16 * 4 + c.toNat / 64) ::
      c.toNat % 64 :: sextets rest
  | [a, b] => [a.toNat / 4, a.toNat % 4 * 16 + b.toNat / 16, b.toNat % 16 * 4]
  | [a] => [a.toNat / 4, a.toNat % 4 * 16]
  | [] => []

/-- The whole bytes of groups of six bits; what is left over is dropped. -/
def octets : List Nat → List UInt8
  | a :: b :: c :: d :: rest =>
    UInt8.ofNat (a * 4 + b / 16) :: UInt8.ofNat (b % 16 * 16 + c / 4) ::
      UInt8.ofNat (c % 4 * 64 + d) :: octets rest
  | [a, b, c] => [UInt8.ofNat (a * 4 + b / 16), UInt8.ofNat (b % 16 * 16 + c / 4)]
  | [a, b] => [UInt8.ofNat (a * 4 + b / 16)]
  | _ => []

/-- Four sextets to three octets, rounded up. -/
theorem length_sextets (bytes : List UInt8) :
    (sextets bytes).length = (4 * bytes.length + 2) / 3 := by
  fun_induction sextets bytes with
  | case1 a b c rest ih =>
    simp only [List.length_cons, ih]
    omega
  | case2 => simp only [List.length_cons, List.length_nil]
  | case3 => simp only [List.length_cons, List.length_nil]
  | case4 => rfl

theorem sextets_lt {bytes : List UInt8} : ∀ n ∈ sextets bytes, n < 64 := by
  fun_induction sextets bytes with
  | case1 a b c rest ih =>
    have ha := a.toNat_lt
    have hb := b.toNat_lt
    have hc := c.toNat_lt
    simp only [List.forall_mem_cons]
    exact ⟨by omega, by omega, by omega, by omega, ih⟩
  | case2 a b =>
    have ha := a.toNat_lt
    have hb := b.toNat_lt
    simp only [List.forall_mem_cons]
    exact ⟨by omega, by omega, by omega, List.forall_mem_nil _⟩
  | case3 a =>
    have ha := a.toNat_lt
    simp only [List.forall_mem_cons]
    exact ⟨by omega, by omega, List.forall_mem_nil _⟩
  | case4 => exact List.forall_mem_nil _

/-- A number that is a byte's is read as that byte. -/
theorem ofNat_eq {n : Nat} {a : UInt8} (h : n = a.toNat) : UInt8.ofNat n = a := by
  rw [h]
  exact UInt8.ofNat_toNat

/-- The octets are read back from the sextets. -/
theorem octets_sextets (bytes : List UInt8) : octets (sextets bytes) = bytes := by
  fun_induction sextets bytes with
  | case1 a b c rest ih =>
    have hb := b.toNat_lt
    have hc := c.toNat_lt
    unfold octets
    rw [ih, ofNat_eq (a := a) (by omega), ofNat_eq (a := b) (by omega),
      ofNat_eq (a := c) (by omega)]
  | case2 a b =>
    have hb := b.toNat_lt
    unfold octets
    rw [ofNat_eq (a := a) (by omega), ofNat_eq (a := b) (by omega)]
  | case3 a =>
    unfold octets
    rw [ofNat_eq (a := a) (by omega)]
  | case4 => rfl

/-! ## Characters -/

/-- The alphabet. -/
def sextetChar (n : Nat) : Char :=
  if n < 26 then Char.ofNat (65 + n)
  else if n < 52 then Char.ofNat (71 + n)
  else if n < 62 then Char.ofNat (n - 4)
  else if n = 62 then '+'
  else '/'

/-- The six bits of a character. -/
def charSextet (c : Char) : Option Nat :=
  if 65 ≤ c.toNat ∧ c.toNat ≤ 90 then some (c.toNat - 65)
  else if 97 ≤ c.toNat ∧ c.toNat ≤ 122 then some (c.toNat - 71)
  else if 48 ≤ c.toNat ∧ c.toNat ≤ 57 then some (c.toNat + 4)
  else if c = '+' then some 62
  else if c = '/' then some 63
  else none

/-- The alphabet is read back, checked character for character. -/
theorem charSextet_sextetChar : ∀ n < 64, charSextet (sextetChar n) = some n := by
  decide

/-- The padding that makes a length a multiple of four. -/
def padding (length : Nat) : List Char := List.replicate ((4 - length % 4) % 4) '='

/-- `base64.b64encode` -/
def b2a (bytes : List UInt8) : List Char :=
  (sextets bytes).map sextetChar ++ padding (sextets bytes).length

/-- `binascii.a2b_base64` in its strict mode: characters of the alphabet, then the padding they
    need.  Bits left over need not be zero. -/
def a2b (text : List Char) : Option (List UInt8) :=
  let characters := text.takeWhile (· ≠ '=')
  if characters.length % 4 ≠ 1 ∧ text.dropWhile (· ≠ '=') = padding characters.length then
    (characters.mapM charSextet).map octets
  else none

theorem mapM_charSextet {numbers : List Nat} (h : ∀ n ∈ numbers, n < 64) :
    (numbers.map sextetChar).mapM charSextet = some numbers := by
  induction numbers with
  | nil => rfl
  | cons n rest ih =>
    rw [List.forall_mem_cons] at h
    rw [List.map_cons, List.mapM_cons, charSextet_sextetChar n h.1, ih h.2]
    rfl

theorem sextetChar_ne : ∀ n < 64, sextetChar n ≠ '=' := by
  decide

/-- Where the padding begins. -/
theorem cut_padding {characters : List Char} {k : Nat} (h : ∀ c ∈ characters, c ≠ '=') :
    (characters ++ List.replicate k '=').takeWhile (· ≠ '=') = characters ∧
      (characters ++ List.replicate k '=').dropWhile (· ≠ '=') = List.replicate k '=' := by
  have hcharacters : ∀ c ∈ characters, decide (c ≠ '=') = true := fun c hc => decide_eq_true (h c hc)
  rw [List.takeWhile_append_of_pos hcharacters, List.dropWhile_append_of_pos hcharacters]
  cases k with
  | zero => exact ⟨List.append_nil _, rfl⟩
  | succ k => exact ⟨List.append_nil _, rfl⟩

theorem a2b_b2a (bytes : List UInt8) : a2b (b2a bytes) = some bytes := by
  have hcharacters : ∀ c ∈ (sextets bytes).map sextetChar, c ≠ '=' := by
    intro c hc
    obtain ⟨n, hn, rfl⟩ := List.mem_map.mp hc
    exact sextetChar_ne n (sextets_lt n hn)
  obtain ⟨htake, hdrop⟩ := cut_padding (k := (4 - (sextets bytes).length % 4) % 4) hcharacters
  have hlength : (sextets bytes).length % 4 ≠ 1 := by
    rw [length_sextets]
    omega
  unfold a2b b2a padding
  dsimp only
  rw [htake, hdrop, List.length_map, if_pos ⟨hlength, rfl⟩, mapM_charSextet sextets_lt]
  exact congrArg some (octets_sextets bytes)

/-! ## Texts without padding -/

/-- `-` and `_` stand for `+` and `/` in names and addresses. -/
def urlsafe (c : Char) : Char := if c = '+' then '-' else if c = '/' then '_' else c

/-- The character that one of the other alphabet stands for. -/
def altchar (c : Char) : Char := if c = '-' then '+' else if c = '_' then '/' else c

/-- `base64.urlsafe_b64encode` -/
def urlsafeB64encode (bytes : List UInt8) : List Char := (b2a bytes).map urlsafe

/-- `base64.b64decode` of the alphabet with `-` and `_`. -/
def urlsafeB64decode (text : List Char) : Option (List UInt8) := a2b (text.map altchar)

/-- The characters of a text before its padding. -/
def unpadded (bytes : List UInt8) : List Char :=
  (sextets bytes).map fun n => urlsafe (sextetChar n)

/-- The two alphabets correspond, checked character for character. -/
theorem altchar_urlsafe : ∀ n < 64, altchar (urlsafe (sextetChar n)) = sextetChar n := by
  decide

theorem urlsafe_ne : ∀ n < 64, urlsafe (sextetChar n) ≠ '=' := by
  decide

/-- The length of the text without its padding. -/
theorem length_unpadded (bytes : List UInt8) :
    (unpadded bytes).length = (4 * bytes.length + 2) / 3 := by
  unfold unpadded
  rw [List.length_map, length_sextets]

/-- The text is the unpadded one and its padding. -/
theorem urlsafeB64encode_eq (bytes : List UInt8) :
    urlsafeB64encode bytes = unpadded bytes ++ padding (unpadded bytes).length := by
  unfold urlsafeB64encode b2a unpadded padding
  rw [List.map_append, List.map_map, List.map_replicate, List.length_map]
  rfl

/-- Stripping the padding leaves the characters. -/
theorem rstrip_urlsafeB64encode (bytes : List UInt8) :
    (urlsafeB64encode bytes).rdropWhile (· = '=') = unpadded bytes := by
  have hlast : ∀ hne : unpadded bytes ≠ [], ¬decide ((unpadded bytes).getLast hne = '=') = true := by
    intro hne heq
    obtain ⟨n, hn, hchar⟩ := List.mem_map.mp (List.getLast_mem hne)
    exact urlsafe_ne n (sextets_lt n hn) (hchar.trans (of_decide_eq_true heq))
  rw [urlsafeB64encode_eq]
  unfold padding
  induction (4 - (unpadded bytes).length % 4) % 4 with
  | zero =>
    rw [List.replicate_zero, List.append_nil]
    exact List.rdropWhile_eq_self_iff.mpr hlast
  | succ k ih =>
    rw [List.replicate_succ', ← List.append_assoc, List.rdropWhile_concat_pos _ _ _ (by decide)]
    exact ih

/-- The characters with their padding are read as the bytes. -/
theorem urlsafeB64decode_unpadded (bytes : List UInt8) :
    urlsafeB64decode (unpadded bytes ++ padding (unpadded bytes).length) = some bytes := by
  have hmap : (unpadded bytes).map altchar = (sextets bytes).map sextetChar := by
    unfold unpadded
    rw [List.map_map]
    exact List.map_congr_left fun n hn => altchar_urlsafe n (sextets_lt n hn)
  have hpadding : (padding (unpadded bytes).length).map altchar =
      padding (sextets bytes).length := by
    unfold padding unpadded
    rw [List.map_replicate, List.length_map]
    rfl
  unfold urlsafeB64decode
  rw [List.map_append, hmap, hpadding]
  exact a2b_b2a bytes

end Aurora.Base64
