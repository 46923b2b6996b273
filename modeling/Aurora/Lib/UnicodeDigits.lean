/-
  Digits in Unicode texts, as the text methods of Python see them.

  A character may be a decimal digit, with a value, or another digit such as a superscript.
  `str.isdigit` accepts both, `int` reads the decimal ones only: `int_of_isdigit` says exactly when a
  text of digits is a number.  Which characters these are is a table that grows with the versions of
  Unicode; `unicode15` is the one of Python 3.12.
-/
import Mathlib.Data.List.Basic
import Mathlib.Data.Nat.Digits.Defs

namespace Aurora.Unicode

/-! ## Tables -/

/-- What a version of Unicode says of digits. -/
structure DigitTable where
  /-- The value of a decimal digit. -/
  decimal : Char → Option Nat
  /-- The digits that are not decimal digits. -/
  IsOther : Char → Prop
  decidableOther : DecidablePred IsOther
  decimal_digitChar : ∀ d < 10, decimal (Nat.digitChar d) = some d
  decimal_of_isOther : ∀ c, IsOther c → decimal c = none

variable (table : DigitTable)

instance : DecidablePred table.IsOther := table.decidableOther

/-! ## Texts -/

/-- A digit, decimal or not. -/
def IsDigit (c : Char) : Prop := (table.decimal c).isSome ∨ table.IsOther c

instance : DecidablePred (IsDigit table) := fun c =>
  inferInstanceAs (Decidable ((table.decimal c).isSome ∨ table.IsOther c))

/-- `str.isdigit`: some character, and only digits. -/
def isdigit (text : List Char) : Prop := text ≠ [] ∧ ∀ c ∈ text, IsDigit table c

instance (text : List Char) : Decidable (isdigit table text) :=
  decidable_of_iff (text ≠ [] ∧ text.all (fun c => IsDigit table c) = true)
    (and_congr_right fun _ => by simp only [List.all_eq_true, decide_eq_true_eq])

/-- The number after some digits. -/
def digits (value : Nat) : List Char → Option Nat
  | [] => some value
  | c :: rest =>
    match table.decimal c with
    | some digit => digits (10 * value + digit) rest
    | none => none

/-- `int` of a text of digits; without a number it is `none`, where Python raises `ValueError`. -/
def int (text : List Char) : Option Nat := digits table 0 text

variable {table}

/-! ## What is read -/

theorem digits_cons (value : Nat) (c : Char) (rest : List Char) :
    digits table value (c :: rest) =
      (table.decimal c).bind fun digit => digits table (10 * value + digit) rest := by
  cases h : table.decimal c <;> simp only [digits, h] <;> rfl

theorem digits_isSome {value : Nat} {text : List Char} :
    (digits table value text).isSome ↔ ∀ c ∈ text, (table.decimal c).isSome := by
  induction text generalizing value with
  | nil => exact iff_of_true rfl (List.forall_mem_nil _)
  | cons c rest ih =>
    rw [digits_cons, List.forall_mem_cons]
    cases hc : table.decimal c with
    | none => exact iff_of_false Bool.false_ne_true fun h => Bool.false_ne_true h.1
    | some digit =>
      rw [Option.bind_some, ih]
      exact (and_iff_right rfl).symm

/-- What passes `isdigit` is a number unless one of the digits is not decimal. -/
theorem int_of_isdigit {text : List Char} (h : isdigit table text) :
    int table text = none ↔ ∃ c ∈ text, table.IsOther c := by
  constructor
  · intro hnone
    by_contra hall
    have hsome : (int table text).isSome := by
      refine digits_isSome.mpr fun c hc => ?_
      exact (h.2 c hc).resolve_right fun hother => hall ⟨c, hc, hother⟩
    rw [hnone] at hsome
    cases hsome
  · rintro ⟨c, hc, hother⟩
    cases hread : int table text with
    | none => rfl
    | some n =>
      have hsome := digits_isSome.mp (Option.isSome_iff_exists.mpr ⟨n, hread⟩) c hc
      rw [table.decimal_of_isOther c hother] at hsome
      cases hsome

theorem digits_append {value : Nat} {text rest : List Char} :
    digits table value (text ++ rest) =
      (digits table value text).bind fun n => digits table n rest := by
  induction text generalizing value with
  | nil => rfl
  | cons c text ih =>
    rw [List.cons_append, digits_cons, digits_cons]
    cases table.decimal c with
    | none => rfl
    | some digit => exact ih

/-- The decimal text of a number is read as that number. -/
theorem int_toDigits (n : Nat) : int table (Nat.toDigits 10 n) = some n := by
  have htext := Nat.toDigits_eq_if (b := 10) (n := n) (by decide)
  induction n using Nat.strong_induction_on with
  | _ n ih =>
    rw [htext]
    split
    case isTrue hlt =>
      unfold int
      rw [digits_cons, table.decimal_digitChar n hlt]
      exact congrArg some (by omega)
    case isFalse hle =>
      unfold int
      rw [digits_append]
      have hquotient : digits table 0 (Nat.toDigits 10 (n / 10)) = some (n / 10) :=
        ih (n / 10) (by omega) (Nat.toDigits_eq_if (by decide))
      rw [hquotient, Option.bind_some, digits_cons,
        table.decimal_digitChar _ (Nat.mod_lt n (by decide))]
      exact congrArg some (by omega)

theorem isdigit_toDigits (n : Nat) : isdigit table (Nat.toDigits 10 n) := by
  refine ⟨Nat.toDigits_ne_nil, fun c hc => .inl ?_⟩
  exact digits_isSome.mp (Option.isSome_iff_exists.mpr ⟨n, int_toDigits n⟩) c hc

/-! ## Unicode 15 -/

/-- The zeros of the decimal digits; the nine others follow each. -/
def decimalZeros : List Nat :=
  [0x30, 0x660, 0x6F0, 0x7C0, 0x966, 0x9E6, 0xA66, 0xAE6, 0xB66, 0xBE6, 0xC66, 0xCE6, 0xD66, 0xDE6,
    0xE50, 0xED0, 0xF20, 0x1040, 0x1090, 0x17E0, 0x1810, 0x1946, 0x19D0, 0x1A80, 0x1A90, 0x1B50,
    0x1BB0, 0x1C40, 0x1C50, 0xA620, 0xA8D0, 0xA900, 0xA9D0, 0xA9F0, 0xAA50, 0xABF0, 0xFF10, 0x104A0,
    0x10D30, 0x11066, 0x110F0, 0x11136, 0x111D0, 0x112F0, 0x11450, 0x114D0, 0x11650, 0x116C0,
    0x11730, 0x118E0, 0x11950, 0x11C50, 0x11D50, 0x11DA0, 0x11F50, 0x16A60, 0x16AC0, 0x16B50,
    0x1D7CE, 0x1D7D8, 0x1D7E2, 0x1D7EC, 0x1D7F6, 0x1E140, 0x1E2F0, 0x1E4F0, 0x1E950, 0x1FBF0]

/-- The first and the last of the other digits: superscripts, subscripts, digits in circles and
    brackets, and those of scripts without a zero. -/
def otherDigits : List (Nat × Nat) :=
  [(0xB2, 0xB3), (0xB9, 0xB9), (0x1369, 0x1371), (0x19DA, 0x19DA), (0x2070, 0x2070),
    (0x2074, 0x2079), (0x2080, 0x2089), (0x2460, 0x2468), (0x2474, 0x247C), (0x2488, 0x2490),
    (0x24EA, 0x24EA), (0x24F5, 0x24FD), (0x24FF, 0x24FF), (0x2776, 0x277E), (0x2780, 0x2788),
    (0x278A, 0x2792), (0x10A40, 0x10A43), (0x10E60, 0x10E68), (0x11052, 0x1105A),
    (0x1F100, 0x1F10A)]

/-- No character is both. -/
theorem otherDigits_apart : ∀ range ∈ otherDigits, ∀ start ∈ decimalZeros,
    range.2 < start ∨ start + 10 ≤ range.1 := by
  decide

/-- The digits of Unicode 15. -/
def unicode15 : DigitTable where
  decimal c :=
    (decimalZeros.find? fun start => start ≤ c.toNat ∧ c.toNat < start + 10).map (c.toNat - ·)
  IsOther c := ∃ range ∈ otherDigits, range.1 ≤ c.toNat ∧ c.toNat ≤ range.2
  decidableOther := fun c =>
    inferInstanceAs (Decidable (∃ range ∈ otherDigits, range.1 ≤ c.toNat ∧ c.toNat ≤ range.2))
  decimal_digitChar := by decide
  decimal_of_isOther := by
    rintro c ⟨range, hrange, hfirst, hlast⟩
    rw [Option.map_eq_none_iff, List.find?_eq_none]
    intro start hstart hdecimal
    have hvalue := of_decide_eq_true hdecimal
    have hapart := otherDigits_apart range hrange start hstart
    omega

example : int unicode15 "٦00".toList = some 600 ∧ isdigit unicode15 "6²".toList ∧
    int unicode15 "6²".toList = none := by decide

end Aurora.Unicode
