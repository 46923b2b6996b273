/-
  Compact JSON text of nested lists of integers, plain strings and null.

  `encode` writes what a JSON encoder with separators `,` and `:` writes for such values: no
  blanks, integers in decimal, strings in quotes.  Strings are plain: printable ASCII without a
  quote or a backslash, so no character is escaped.

  The text determines the value (`encode_injective`).  The proof is the usual one for a
  prefix-free code: an encoded value followed by a delimiter can be read off the front of a text
  in one way only (`encode_prefixed`), by induction on the value.
-/
import Mathlib.Data.List.Basic

namespace Aurora

/-- The JSON values in use: no objects, no fractions. -/
inductive Json where
  | null
  | int (n : Int)
  | str (s : String)
  | arr (items : List Json)

namespace Json

/-- Decimal digits, with a sign when negative. -/
def decimal (n : Int) : List Char :=
  if n < 0 then '-' :: Nat.toDigits 10 n.natAbs else Nat.toDigits 10 n.natAbs

mutual
/-- The text of a value. -/
def encode : Json → List Char
  | null => ['n', 'u', 'l', 'l']
  | int n => decimal n
  | str s => '"' :: s.toList ++ ['"']
  | arr [] => ['[', ']']
  | arr (x :: xs) => '[' :: encode x ++ encodeRest xs
/-- The text of the elements after the first, with the closing bracket. -/
def encodeRest : List Json → List Char
  | [] => [']']
  | x :: xs => ',' :: encode x ++ encodeRest xs
end

/-- A character a string may hold without escaping. -/
def PlainChar (c : Char) : Prop := 0x20 ≤ c.toNat ∧ c.toNat < 0x7f ∧ c ≠ '"' ∧ c ≠ '\\'

instance (c : Char) : Decidable (PlainChar c) := inferInstanceAs (Decidable (_ ∧ _ ∧ _ ∧ _))

/-- What a test of every character finds: the search over the text, not over all characters. -/
theorem forall_of_all {P : Char → Prop} [DecidablePred P] {l : List Char}
    (h : l.all (fun c => decide (P c)) = true) : ∀ c ∈ l, P c :=
  fun c hc => of_decide_eq_true (List.all_eq_true.mp h c hc)

mutual
/-- Every string in the value is plain. -/
def Plain : Json → Prop
  | null => True
  | int _ => True
  | str s => ∀ c ∈ s.toList, PlainChar c
  | arr xs => PlainItems xs
/-- The items are plain. -/
def PlainItems : List Json → Prop
  | [] => True
  | x :: xs => Plain x ∧ PlainItems xs
end

theorem plainItems_iff : ∀ {xs : List Json}, PlainItems xs ↔ ∀ x ∈ xs, Plain x
  | [] => by simp [PlainItems]
  | x :: xs => by
    rw [PlainItems, plainItems_iff, List.forall_mem_cons]

/-! ## Reading a number or a string off the front of a text -/

/-- A number is written with digits and a minus sign. -/
theorem decimal_chars {n : Int} {c : Char} (h : c ∈ decimal n) : c.isDigit = true ∨ c = '-' := by
  unfold decimal at h
  split at h
  · rcases List.mem_cons.mp h with h | h
    · exact Or.inr h
    · exact Or.inl (Nat.isDigit_of_mem_toDigits (by decide) (by decide) h)
  · exact Or.inl (Nat.isDigit_of_mem_toDigits (by decide) (by decide) h)

/-- A number is never written as nothing. -/
theorem decimal_ne_nil (n : Int) : decimal n ≠ [] := by
  unfold decimal
  split
  · exact List.cons_ne_nil _ _
  · exact Nat.toDigits_ne_nil

/-- Different numbers have different digits. -/
theorem toDigits_injective {m n : Nat} (h : Nat.toDigits 10 m = Nat.toDigits 10 n) : m = n := by
  have hm := Nat.ofDigitChars_toDigits (b := 10) (n := m) (by decide) (by decide)
  have hn := Nat.ofDigitChars_toDigits (b := 10) (n := n) (by decide) (by decide)
  rw [← hm, ← hn, h]

/-- Different integers are written differently. -/
theorem decimal_injective {m n : Int} (h : decimal m = decimal n) : m = n := by
  have hminus : ∀ k : Nat, '-' ∉ Nat.toDigits 10 k := fun k hk =>
    absurd (Nat.isDigit_of_mem_toDigits (by decide) (by decide) hk) (by decide)
  unfold decimal at h
  split at h <;> split at h
  · have := toDigits_injective (List.cons.inj h).2
    omega
  · exact absurd (h ▸ List.mem_cons_self) (hminus n.natAbs)
  · exact absurd (h ▸ List.mem_cons_self) (hminus m.natAbs)
  · have := toDigits_injective h
    omega

/-- Two texts that agree, each a block without stops followed by a rest that is empty or starts
    with a stop, agree block by block. -/
theorem cut_at {stop : Char → Prop} : ∀ {a b r r' : List Char}, (∀ c ∈ a, ¬stop c) →
    (∀ c ∈ b, ¬stop c) → (∀ c ∈ r.head?, stop c) → (∀ c ∈ r'.head?, stop c) → a ++ r = b ++ r' →
    a = b ∧ r = r'
  | [], [], _, _, _, _, _, _, h => ⟨rfl, h⟩
  | [], c :: b, r, r', _, hb, hr, _, h =>
    absurd (hr c (by rw [List.nil_append] at h; rw [h]; rfl)) (hb c List.mem_cons_self)
  | c :: a, [], r, r', ha, _, _, hr', h =>
    absurd (hr' c (by rw [List.nil_append] at h; rw [← h]; rfl)) (ha c List.mem_cons_self)
  | c :: a, d :: b, r, r', ha, hb, hr, hr', h => by
    rw [List.cons_append, List.cons_append, List.cons.injEq] at h
    obtain ⟨hab, hrr⟩ := cut_at (fun x hx => ha x (List.mem_cons_of_mem _ hx))
      (fun x hx => hb x (List.mem_cons_of_mem _ hx)) hr hr' h.2
    exact ⟨by rw [h.1, hab], hrr⟩

/-- The text after a value starts with a separator or a closing bracket, if there is any. -/
def Delimited (r : List Char) : Prop := ∀ c ∈ r.head?, c = ',' ∨ c = ']'

/-- Two texts that agree, each a block without separators followed by a delimited rest, agree block
    by block. -/
theorem block_prefixed {a b r r' : List Char} (ha : ∀ c ∈ a, c ≠ ',' ∧ c ≠ ']')
    (hb : ∀ c ∈ b, c ≠ ',' ∧ c ≠ ']') (hr : Delimited r) (hr' : Delimited r')
    (h : a ++ r = b ++ r') : a = b ∧ r = r' :=
  cut_at (fun c hc => not_or.mpr (ha c hc)) (fun c hc => not_or.mpr (hb c hc)) hr hr' h

/-- Two texts that agree up to their first quote. -/
theorem quoted_prefixed : ∀ {a b r r' : List Char}, (∀ c ∈ a, c ≠ '"') → (∀ c ∈ b, c ≠ '"') →
    a ++ '"' :: r = b ++ '"' :: r' → a = b ∧ r = r'
  | [], [], _, _, _, _, h => ⟨rfl, (List.cons.inj h).2⟩
  | [], c :: b, _, _, _, hb, h => absurd (List.cons.inj h).1.symm (hb c List.mem_cons_self)
  | c :: a, [], _, _, ha, _, h => absurd (List.cons.inj h).1 (ha c List.mem_cons_self)
  | c :: a, d :: b, r, r', ha, hb, h => by
    rw [List.cons_append, List.cons_append, List.cons.injEq] at h
    obtain ⟨hab, hrr⟩ := quoted_prefixed (fun x hx => ha x (List.mem_cons_of_mem _ hx))
      (fun x hx => hb x (List.mem_cons_of_mem _ hx)) h.2
    exact ⟨by rw [h.1, hab], hrr⟩

theorem decimal_block (n : Int) : ∀ c ∈ decimal n, c ≠ ',' ∧ c ≠ ']' := by
  intro c hc
  rcases decimal_chars hc with h | h
  · refine ⟨?_, ?_⟩ <;> rintro rfl <;> exact absurd h (by decide)
  · rw [h]
    decide

/-- A number starts with a digit or a sign, so with nothing that starts another value. -/
theorem decimal_head {n : Int} {c : Char} {r s : List Char} (hc : c.isDigit = false ∧ c ≠ '-')
    (h : decimal n ++ r = c :: s) : False := by
  cases hd : decimal n with
  | nil => exact decimal_ne_nil n hd
  | cons d l =>
    rw [hd, List.cons_append, List.cons.injEq] at h
    rcases decimal_chars (n := n) (c := d) (by rw [hd]; exact List.mem_cons_self) with hdig | hdig
    · rw [h.1, hc.1] at hdig
      cases hdig
    · exact hc.2 (h.1 ▸ hdig)

/-! ## The code is prefix free -/

/-- What follows an item begins with a delimiter. -/
theorem delimited_rest (xs : List Json) (r : List Char) : Delimited (encodeRest xs ++ r) := by
  intro c hc
  cases xs with
  | nil => exact Or.inr (by simpa [encodeRest, eq_comm] using hc)
  | cons x xs => exact Or.inl (by simpa [encodeRest, eq_comm] using hc)

mutual
/-- A value at the front of a delimited text is determined by the text, and so is what follows. -/
theorem encode_prefixed : ∀ (a b : Json) (r r' : List Char), Plain a → Plain b → Delimited r →
    Delimited r' → encode a ++ r = encode b ++ r' → a = b ∧ r = r'
  | null, b, r, r', _, hb, hr, hr', h => by
    cases b with
    | null => exact ⟨rfl, by simpa [encode] using h⟩
    | int n => exact (decimal_head (by decide) h.symm).elim
    | str s => simp [encode] at h
    | arr ys => cases ys <;> simp [encode] at h
  | int n, b, r, r', _, hb, hr, hr', h => by
    cases b with
    | null => exact (decimal_head (by decide) h).elim
    | int m =>
      obtain ⟨hnm, hrr⟩ := block_prefixed (decimal_block n) (decimal_block m) hr hr' h
      exact ⟨by rw [decimal_injective hnm], hrr⟩
    | str s => exact (decimal_head (by decide) h).elim
    | arr ys => cases ys <;> exact (decimal_head (by decide) h).elim
  | str s, b, r, r', ha, hb, hr, hr', h => by
    cases b with
    | null => simp [encode] at h
    | int n => exact (decimal_head (by decide) h.symm).elim
    | str t =>
      simp only [encode, List.cons_append, List.append_assoc, List.nil_append, List.cons.injEq,
        true_and] at h
      obtain ⟨hst, hrr⟩ := quoted_prefixed (fun c hc => (ha c hc).2.2.1)
        (fun c hc => (hb c hc).2.2.1) h
      exact ⟨by rw [String.toList_injective hst], hrr⟩
    | arr ys => cases ys <;> simp [encode] at h
  | arr xs, b, r, r', ha, hb, hr, hr', h => by
    cases b with
    | null => cases xs <;> simp [encode] at h
    | int n => cases xs <;> exact (decimal_head (by decide) h.symm).elim
    | str s => cases xs <;> simp [encode] at h
    | arr ys =>
      obtain ⟨hxy, hrr⟩ := items_prefixed xs ys r r' ha hb h
      exact ⟨by rw [hxy], hrr⟩
/-- The same for a bracketed list. -/
theorem items_prefixed : ∀ (xs ys : List Json) (r r' : List Char), PlainItems xs → PlainItems ys →
    encode (arr xs) ++ r = encode (arr ys) ++ r' → xs = ys ∧ r = r'
  | [], [], r, r', _, _, h => ⟨rfl, by simpa [encode] using h⟩
  | [], y :: ys, r, r', _, hy, h => by
    simp only [encode, List.cons_append, List.append_assoc, List.cons.injEq, true_and,
      List.nil_append] at h
    exact (encode_not_close y _ _ h.symm).elim
  | x :: xs, [], r, r', hx, _, h => by
    simp only [encode, List.cons_append, List.append_assoc, List.cons.injEq, true_and,
      List.nil_append] at h
    exact (encode_not_close x _ _ h).elim
  | x :: xs, y :: ys, r, r', hx, hy, h => by
    simp only [encode, List.cons_append, List.append_assoc, List.cons.injEq, true_and] at h
    obtain ⟨hxy, hrest⟩ := encode_prefixed x y _ _ hx.1 hy.1 (delimited_rest xs r)
      (delimited_rest ys r') h
    obtain ⟨hxs, hrr⟩ := rest_prefixed xs ys r r' hx.2 hy.2 hrest
    exact ⟨by rw [hxy, hxs], hrr⟩
/-- The same for the elements after the first. -/
theorem rest_prefixed : ∀ (xs ys : List Json) (r r' : List Char), PlainItems xs → PlainItems ys →
    encodeRest xs ++ r = encodeRest ys ++ r' → xs = ys ∧ r = r'
  | [], [], r, r', _, _, h => ⟨rfl, by simpa [encodeRest] using h⟩
  | [], y :: ys, r, r', _, _, h => by simp [encodeRest] at h
  | x :: xs, [], r, r', _, _, h => by simp [encodeRest] at h
  | x :: xs, y :: ys, r, r', hx, hy, h => by
    simp only [encodeRest, List.cons_append, List.append_assoc, List.cons.injEq, true_and] at h
    obtain ⟨hxy, hrest⟩ := encode_prefixed x y _ _ hx.1 hy.1 (delimited_rest xs r)
      (delimited_rest ys r') h
    obtain ⟨hxs, hrr⟩ := rest_prefixed xs ys r r' hx.2 hy.2 hrest
    exact ⟨by rw [hxy, hxs], hrr⟩
/-- No value starts with a closing bracket. -/
theorem encode_not_close : ∀ (a : Json) (r s : List Char), encode a ++ r = ']' :: s → False
  | null, r, s, h => by simp [encode] at h
  | int n, r, s, h => decimal_head (by decide) h
  | str t, r, s, h => by simp [encode] at h
  | arr xs, r, s, h => by cases xs <;> simp [encode] at h
end

/-- The text determines the value. -/
theorem encode_injective {a b : Json} (ha : Plain a) (hb : Plain b) (h : encode a = encode b) :
    a = b :=
  (encode_prefixed a b [] [] ha hb (by simp [Delimited]) (by simp [Delimited])
    (by rw [List.append_nil, List.append_nil, h])).1

/-! ## Bytes -/

/-- A character of the text is ASCII. -/
def Ascii (c : Char) : Prop := c.toNat < 128

instance (c : Char) : Decidable (Ascii c) := inferInstanceAs (Decidable (_ < _))

theorem decimal_ascii {n : Int} {c : Char} (h : c ∈ decimal n) : Ascii c := by
  rcases decimal_chars h with hdigit | rfl
  · have hle := (Char.isDigit_iff_toNat.mp hdigit).2
    exact Nat.lt_of_le_of_lt hle (by decide)
  · decide

mutual
/-- A plain value encodes to ASCII. -/
theorem encode_ascii : ∀ (j : Json), Plain j → ∀ c ∈ encode j, Ascii c
  | null, _ => by
    simp only [encode]
    exact forall_of_all (by decide)
  | int n, _ => fun c hc => decimal_ascii hc
  | str s, hs => fun c hc => by
    simp only [encode, List.cons_append, List.mem_cons, List.mem_append, List.not_mem_nil,
      or_false] at hc
    rcases hc with rfl | hc | rfl
    · decide
    · have := (hs c hc).2.1
      unfold Ascii
      omega
    · decide
  | arr [], _ => by
    simp only [encode]
    exact forall_of_all (by decide)
  | arr (x :: xs), hs => fun c hc => by
    simp only [encode, List.cons_append, List.mem_cons, List.mem_append] at hc
    rcases hc with rfl | hc | hc
    · decide
    · exact encode_ascii x hs.1 c hc
    · exact encodeRest_ascii xs hs.2 c hc
/-- The same for the elements after the first. -/
theorem encodeRest_ascii : ∀ (xs : List Json), PlainItems xs → ∀ c ∈ encodeRest xs, Ascii c
  | [], _ => by
    simp only [encodeRest]
    exact forall_of_all (by decide)
  | x :: xs, hs => fun c hc => by
    simp only [encodeRest, List.cons_append, List.mem_cons, List.mem_append] at hc
    rcases hc with rfl | hc | hc
    · decide
    · exact encode_ascii x hs.1 c hc
    · exact encodeRest_ascii xs hs.2 c hc
end

/-- The ASCII bytes of the text. -/
def bytes (j : Json) : List UInt8 := (encode j).map fun c => UInt8.ofNat c.toNat

/-- On ASCII the bytes tell the characters apart. -/
theorem ofNat_injective {c d : Char} (hc : Ascii c) (hd : Ascii d)
    (h : UInt8.ofNat c.toNat = UInt8.ofNat d.toNat) : c = d := by
  have hval : c.toNat % 256 = d.toNat % 256 := by
    simpa using congrArg UInt8.toNat h
  unfold Ascii at hc hd
  exact Char.toNat_inj.mp (by omega)

theorem map_ofNat_injective : ∀ {a b : List Char}, (∀ c ∈ a, Ascii c) → (∀ c ∈ b, Ascii c) →
    (a.map fun c => UInt8.ofNat c.toNat) = b.map (fun c => UInt8.ofNat c.toNat) → a = b
  | [], [], _, _, _ => rfl
  | [], _ :: _, _, _, h => nomatch h
  | _ :: _, [], _, _, h => nomatch h
  | c :: a, d :: b, ha, hb, h => by
    rw [List.map_cons, List.map_cons, List.cons.injEq] at h
    rw [ofNat_injective (ha c List.mem_cons_self) (hb d List.mem_cons_self) h.1,
      map_ofNat_injective (fun x hx => ha x (List.mem_cons_of_mem _ hx))
        (fun x hx => hb x (List.mem_cons_of_mem _ hx)) h.2]

/-- The bytes determine the value. -/
theorem bytes_injective {a b : Json} (ha : Plain a) (hb : Plain b) (h : bytes a = bytes b) :
    a = b :=
  encode_injective ha hb (map_ofNat_injective (encode_ascii a ha) (encode_ascii b hb) h)

/-- A plain value encodes to printable ASCII. -/
example : encode (arr [int 1, str "wled", arr [str "wled.healthy"], null, int (-5)]) =
    "[1,\"wled\",[\"wled.healthy\"],null,-5]".toList := by decide +kernel

end Json

end Aurora
