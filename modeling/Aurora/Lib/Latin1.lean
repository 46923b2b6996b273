/-
  The text methods of Python on the characters that ISO-8859-1 decodes to.

  An HTTP server decodes header bytes as ISO-8859-1, so a header value is a text whose characters
  all lie below 256.  On such texts `str.strip`, `str.lower`, `str.isdigit` and `int` are given
  here.  `isdigit` accepts the superscripts, which have a digit value but are no decimal digits, and
  `int` does not: `int_of_isdigit` says exactly when the number is read.
-/
import Mathlib.Data.List.DropRight
import Mathlib.Data.Nat.Digits.Defs

namespace Aurora.Latin1

/-! ## Characters -/

/-- A decimal digit. -/
def IsDecimal (c : Char) : Prop := 48 ≤ c.toNat ∧ c.toNat ≤ 57

/-- A digit that is no decimal digit: two, three and one as superscripts. -/
def IsSuperscript (c : Char) : Prop := c.toNat = 178 ∨ c.toNat = 179 ∨ c.toNat = 185

/-- White space, which `strip` removes. -/
def IsSpace (c : Char) : Prop :=
  9 ≤ c.toNat ∧ c.toNat ≤ 13 ∨ 28 ≤ c.toNat ∧ c.toNat ≤ 32 ∨ c.toNat = 133 ∨ c.toNat = 160

instance : DecidablePred IsDecimal := fun c =>
  inferInstanceAs (Decidable (48 ≤ c.toNat ∧ c.toNat ≤ 57))

instance : DecidablePred IsSuperscript := fun c =>
  inferInstanceAs (Decidable (c.toNat = 178 ∨ c.toNat = 179 ∨ c.toNat = 185))

instance : DecidablePred IsSpace := fun c =>
  inferInstanceAs (Decidable (9 ≤ c.toNat ∧ c.toNat ≤ 13 ∨ 28 ≤ c.toNat ∧ c.toNat ≤ 32 ∨
    c.toNat = 133 ∨ c.toNat = 160))

/-- A superscript digit is no decimal one. -/
theorem not_isDecimal_of_isSuperscript {c : Char} (h : IsSuperscript c) : ¬IsDecimal c := by
  unfold IsSuperscript at h
  unfold IsDecimal
  omega

/-- The value of a decimal digit. -/
def digitValue (c : Char) : Nat := c.toNat - 48

/-- The capital letters; the sign between `Ö` and `Ø` is not one. -/
def IsUpper (c : Char) : Prop :=
  65 ≤ c.toNat ∧ c.toNat ≤ 90 ∨ 192 ≤ c.toNat ∧ c.toNat ≤ 222 ∧ c.toNat ≠ 215

instance : DecidablePred IsUpper := fun c =>
  inferInstanceAs (Decidable (65 ≤ c.toNat ∧ c.toNat ≤ 90 ∨
    192 ≤ c.toNat ∧ c.toNat ≤ 222 ∧ c.toNat ≠ 215))

/-- Every small letter stands 32 places after its capital. -/
def lowerChar (c : Char) : Char := if IsUpper c then Char.ofNat (c.toNat + 32) else c

theorem toNat_lowerChar (c : Char) :
    (lowerChar c).toNat = if IsUpper c then c.toNat + 32 else c.toNat := by
  unfold lowerChar
  split
  case isTrue h =>
    unfold IsUpper at h
    have hvalid : (c.toNat + 32).isValidChar := by
      left
      omega
    rw [Char.ofNat, dif_pos hvalid]
    rfl
  case isFalse => rfl

/-- Lowering a character neither makes nor removes white space. -/
theorem isSpace_lowerChar (c : Char) : IsSpace (lowerChar c) ↔ IsSpace c := by
  unfold IsSpace
  rw [toNat_lowerChar]
  split
  case isTrue h =>
    unfold IsUpper at h
    omega
  case isFalse => exact Iff.rfl

/-! ## Texts -/

/-- `str.strip`. -/
def strip (text : List Char) : List Char :=
  (text.dropWhile fun c => IsSpace c).rdropWhile fun c => IsSpace c

/-- `str.lower`. -/
def lower (text : List Char) : List Char := text.map lowerChar

/-- `str.isdigit`: some character, and only digits. -/
def isdigit (text : List Char) : Prop :=
  text ≠ [] ∧ ∀ c ∈ text, IsDecimal c ∨ IsSuperscript c

instance (text : List Char) : Decidable (isdigit text) :=
  decidable_of_iff (text ≠ [] ∧ text.all (fun c => IsDecimal c ∨ IsSuperscript c) = true)
    (and_congr_right fun _ => by simp only [List.all_eq_true, decide_eq_true_eq])

/-- The number after some digits: decimal digits, with single underscores between them. -/
def digits (value : Nat) (afterDigit : Bool) : List Char → Option Nat
  | [] => if afterDigit then some value else none
  | c :: rest =>
    if IsDecimal c then digits (10 * value + digitValue c) true rest
    else if c = '_' ∧ afterDigit then digits value false rest
    else none

/-- `int` of a text: a sign may come before the digits.  Without a number it is `none`, where Python
raises `ValueError`. -/
def int (text : List Char) : Option Int :=
  match strip text with
  | '+' :: rest => (digits 0 false rest).map fun n : Nat => (n : Int)
  | '-' :: rest => (digits 0 false rest).map fun n : Nat => -(n : Int)
  | rest => (digits 0 false rest).map fun n : Nat => (n : Int)

/-! ## What a stripped and lowered text is -/

/-- A text is a word, whatever the case of its letters and the white space around them. -/
def IsWord (word text : List Char) : Prop :=
  ∃ before core after, text = before ++ core ++ after ∧ (∀ c ∈ before, IsSpace c) ∧
    (∀ c ∈ after, IsSpace c) ∧ lower core = word

/-- A text is what `strip` leaves between white space. -/
theorem strip_spec (text : List Char) :
    ∃ before after, text = before ++ strip text ++ after ∧ (∀ c ∈ before, IsSpace c) ∧
      (∀ c ∈ after, IsSpace c) := by
  let rest := text.dropWhile fun c => decide (IsSpace c)
  refine ⟨text.takeWhile fun c => decide (IsSpace c), rest.rtakeWhile fun c => decide (IsSpace c),
    ?_, ?_, ?_⟩
  · have hrest : strip text ++ rest.rtakeWhile (fun c => decide (IsSpace c)) = rest :=
      List.rdropWhile_append_rtakeWhile ..
    rw [List.append_assoc, hrest]
    exact (List.takeWhile_append_dropWhile ..).symm
  · intro c hc
    simpa using List.mem_takeWhile_imp hc
  · intro c hc
    simpa using List.mem_rtakeWhile_imp hc

/-- White space around a text without white space at its ends is all that `strip` removes. -/
theorem strip_between {before core after : List Char} (hbefore : ∀ c ∈ before, IsSpace c)
    (hafter : ∀ c ∈ after, IsSpace c) (hfirst : ∀ c ∈ core.head?, ¬IsSpace c)
    (hlast : ∀ c ∈ core.getLast?, ¬IsSpace c) (hcore : core ≠ []) :
    strip (before ++ core ++ after) = core := by
  obtain ⟨first, middle, rfl⟩ := List.exists_cons_of_ne_nil hcore
  have hdrop : (before ++ first :: middle ++ after).dropWhile (fun c => decide (IsSpace c)) =
      first :: middle ++ after := by
    rw [List.append_assoc, List.dropWhile_append_of_pos (by simpa using hbefore)]
    exact List.dropWhile_cons_of_neg (by simpa using hfirst first rfl)
  unfold strip
  rw [hdrop]
  unfold List.rdropWhile
  rw [List.reverse_append, List.dropWhile_append_of_pos (by simpa using hafter)]
  obtain ⟨init, last, hsnoc⟩ : ∃ init last, first :: middle = init ++ [last] :=
    ⟨_, _, (List.dropLast_append_getLast (List.cons_ne_nil first middle)).symm⟩
  rw [hsnoc] at hlast ⊢
  rw [List.reverse_append, List.reverse_singleton, List.singleton_append,
    List.dropWhile_cons_of_neg (by simpa using hlast last (by simp)), List.reverse_cons,
    List.reverse_reverse]

/-- A text strips and lowers to a word when it is that word. -/
theorem lower_strip_iff {word text : List Char} {first last : Char}
    (hfirst : word.head? = some first) (hlast : word.getLast? = some last)
    (hspace : ¬IsSpace first ∧ ¬IsSpace last) :
    lower (strip text) = word ↔ IsWord word text := by
  constructor
  · intro h
    obtain ⟨before, after, htext, hbefore, hafter⟩ := strip_spec text
    exact ⟨before, strip text, after, htext, hbefore, hafter, h⟩
  · rintro ⟨before, core, after, rfl, hbefore, hafter, rfl⟩
    have hhead : ∀ c ∈ core.head?, ¬IsSpace c := by
      intro c hc
      rw [← isSpace_lowerChar]
      have hmapped : (lower core).head? = some (lowerChar c) := by
        rw [lower, List.head?_map, Option.mem_def.mp hc]
        rfl
      rw [hmapped] at hfirst
      rw [Option.some.inj hfirst]
      exact hspace.1
    have hend : ∀ c ∈ core.getLast?, ¬IsSpace c := by
      intro c hc
      rw [← isSpace_lowerChar]
      have hmapped : (lower core).getLast? = some (lowerChar c) := by
        rw [lower, List.getLast?_map, Option.mem_def.mp hc]
        rfl
      rw [hmapped] at hlast
      rw [Option.some.inj hlast]
      exact hspace.2
    rw [strip_between hbefore hafter hhead hend (by rintro rfl; cases hfirst)]

/-! ## What a text of digits is read as -/

/-- A text of decimal digits is a number. -/
def IsNumeral (text : List Char) (n : Nat) : Prop :=
  (∀ c ∈ text, IsDecimal c) ∧ n = Nat.ofDigits 10 (text.map digitValue).reverse

/-- Decimal digits are read as their number. -/
theorem digits_of_decimal {text : List Char} (h : ∀ c ∈ text, IsDecimal c) (value : Nat) :
    digits value true text =
      some (value * 10 ^ text.length + Nat.ofDigits 10 (text.map digitValue).reverse) := by
  induction text generalizing value with
  | nil => simp [digits]
  | cons c rest ih =>
    rw [List.forall_mem_cons] at h
    unfold digits
    rw [if_pos h.1, ih h.2]
    simp only [List.map_cons, List.reverse_cons, Nat.ofDigits_append, List.length_reverse,
      List.length_map, Nat.ofDigits_singleton, List.length_cons, pow_succ]
    congr 1
    ring

/-- A superscript is never read. -/
theorem digits_of_superscript {text : List Char} {c : Char} (hc : c ∈ text)
    (hsuper : IsSuperscript c) (value : Nat) (afterDigit : Bool) :
    digits value afterDigit text = none := by
  induction text generalizing value afterDigit with
  | nil => cases hc
  | cons d rest ih =>
    unfold digits
    rcases List.mem_cons.mp hc with rfl | hrest
    · have hother : c ≠ '_' := by
        rintro rfl
        revert hsuper
        decide
      rw [if_neg (not_isDecimal_of_isSuperscript hsuper), if_neg (fun h => hother h.1)]
    · split
      · exact ih hrest _ _
      · split
        · exact ih hrest _ _
        · rfl

/-- A text of digits starts with no white space and no sign: `int` reads it as it is. -/
theorem int_eq_digits {text : List Char} (h : isdigit text) :
    int text = (digits 0 false text).map fun n : Nat => (n : Int) := by
  obtain ⟨hsome, hdigits⟩ := h
  have hspace : ∀ c ∈ text, ¬IsSpace c := by
    intro c hc
    have := hdigits c hc
    unfold IsDecimal IsSuperscript at this
    unfold IsSpace
    omega
  have hstrip : strip text = text := by
    have h := @strip_between [] text [] (by simp) (by simp)
      (fun c hc => hspace c (List.mem_of_mem_head? hc))
      (fun c hc => hspace c (List.mem_of_mem_getLast? hc)) hsome
    simpa using h
  obtain ⟨c, rest, rfl⟩ := List.exists_cons_of_ne_nil hsome
  have hc := hdigits c (by simp)
  unfold int
  rw [hstrip]
  split
  case h_1 heq =>
    obtain ⟨rfl, -⟩ := List.cons.inj heq
    exact absurd hc (by decide)
  case h_2 heq =>
    obtain ⟨rfl, -⟩ := List.cons.inj heq
    exact absurd hc (by decide)
  case h_3 => rfl

/-- What passes `isdigit` is a number unless a superscript is among the digits. -/
theorem int_of_isdigit {text : List Char} (h : isdigit text) :
    (∃ n : Nat, int text = some (n : Int) ∧ IsNumeral text n) ∨
      int text = none ∧ ∃ c ∈ text, IsSuperscript c := by
  rw [int_eq_digits h]
  by_cases hsuper : ∃ c ∈ text, IsSuperscript c
  · right
    obtain ⟨c, hc, hs⟩ := hsuper
    rw [digits_of_superscript hc hs]
    exact ⟨rfl, c, hc, hs⟩
  · left
    have hdecimal : ∀ c ∈ text, IsDecimal c := by
      intro c hc
      exact (h.2 c hc).resolve_right fun hs => hsuper ⟨c, hc, hs⟩
    obtain ⟨c, rest, rfl⟩ := List.exists_cons_of_ne_nil h.1
    refine ⟨_, ?_, hdecimal, rfl⟩
    have hcons : digits 0 false (c :: rest) = digits 0 true (c :: rest) := by
      unfold digits
      rw [if_pos (hdecimal c (by simp)), if_pos (hdecimal c (by simp))]
    rw [hcons, digits_of_decimal hdecimal, Nat.zero_mul, Nat.zero_add]
    rfl

end Aurora.Latin1
