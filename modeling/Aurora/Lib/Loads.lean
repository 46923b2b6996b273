/-
  What `json.loads` returns, and what it raises.

  A text of Python is a list of code points; a JSON escape can write a lone surrogate, so a text
  need not be one of Unicode characters.  Integers have no bound, but a literal with more digits
  than the interpreter converts raises a plain `ValueError`, with the numbers in its message.
-/
import Aurora.Lib.Binary64

namespace Aurora

/-- A text of Python: code points, lone surrogates among them. -/
abbrev PyText := List (Fin 0x110000)

/-- The code points of a literal. -/
def PyText.of (literal : String) : PyText := literal.toList.map fun c => Fin.ofNat 0x110000 c.toNat

/-- The code point of a character. -/
def PyText.code (c : Char) : Fin 0x110000 := Fin.ofNat 0x110000 c.toNat

/-- The character of a code point that is no surrogate. -/
def PyText.char? (code : Fin 0x110000) : Option Char :=
  if code.val.isValidChar then some (Char.ofNat code.val) else none

/-- The text in Unicode characters, when no surrogate stands alone in it. -/
def PyText.string? (s : PyText) : Option String := (s.mapM PyText.char?).map String.ofList

theorem PyText.val_code (c : Char) : (PyText.code c).val = c.toNat := by
  have hlt : c.toNat < 0x110000 := by
    have hvalid : c.toNat.isValidChar := c.valid
    rcases hvalid with h | h <;> omega
  exact Nat.mod_eq_of_lt hlt

/-- A code point that is no surrogate is a character. -/
theorem PyText.char?_eq_some {code : Fin 0x110000} {c : Char} :
    PyText.char? code = some c ↔ code = PyText.code c := by
  unfold PyText.char?
  constructor
  · intro h
    split at h
    case isTrue hvalid =>
      obtain rfl := Option.some.inj h
      have hnat : (Char.ofNat code.val).toNat = code.val := by
        rw [Char.ofNat, dif_pos hvalid]
        rfl
      exact Fin.ext (hnat.symm.trans (PyText.val_code _).symm)
    case isFalse => cases h
  · rintro rfl
    rw [PyText.val_code, if_pos (show c.toNat.isValidChar from c.valid), Char.ofNat_toNat]

/-- A text without surrogates is a list of characters. -/
theorem PyText.mapM_char? {s : PyText} {l : List Char} :
    s.mapM PyText.char? = some l ↔ s = l.map PyText.code := by
  induction s generalizing l with
  | nil =>
    cases l with
    | nil => exact iff_of_true rfl rfl
    | cons c l => exact iff_of_false (fun h => nomatch h) fun h => nomatch h
  | cons code rest ih =>
    rw [List.mapM_cons]
    constructor
    · intro h
      obtain ⟨c, hc, h⟩ := Option.bind_eq_some_iff.mp h
      obtain ⟨l', hrest, h⟩ := Option.bind_eq_some_iff.mp h
      obtain rfl := Option.some.inj h
      rw [List.map_cons, ← ih.mp hrest, ← PyText.char?_eq_some.mp hc]
    · intro h
      cases l with
      | nil => cases h
      | cons c l =>
        obtain ⟨hcode, hrest⟩ := List.cons.inj h
        refine Option.bind_eq_some_iff.mpr ⟨c, PyText.char?_eq_some.mpr hcode, ?_⟩
        exact Option.bind_eq_some_iff.mpr ⟨l, ih.mpr hrest, rfl⟩

/-- The text of a literal is read back, and only that text. -/
theorem PyText.string?_eq_some {s : PyText} {t : String} : s.string? = some t ↔ s = PyText.of t := by
  unfold PyText.string?
  rw [Option.map_eq_some_iff]
  constructor
  · rintro ⟨l, hl, rfl⟩
    rw [PyText.mapM_char?.mp hl]
    unfold PyText.of
    rw [String.toList_ofList]
    rfl
  · rintro rfl
    exact ⟨t.toList, PyText.mapM_char?.mpr rfl, String.ofList_toList⟩

/-- Different strings are different texts. -/
theorem PyText.of_injective {a b : String} (h : PyText.of a = PyText.of b) : a = b :=
  Option.some.inj ((PyText.string?_eq_some.mpr h).symm.trans (PyText.string?_eq_some.mpr rfl)).symm

/-- A JSON document as Python holds it.  In an object every key is bound once. -/
inductive JsonDocument
  | null
  | bool (b : Bool)
  | int (n : Int)
  | float (x : FloatValue)
  | text (s : PyText)
  | array (items : List JsonDocument)
  | object (fields : List (PyText × JsonDocument))

/-- What `json.loads` raises. -/
inductive LoadsError
  | unicodeDecodeError
  | jsonDecodeError
  /-- A plain `ValueError`: an integer literal has more digits than the limit. -/
  | digitLimit (limit digits : Nat)

/-- `json.loads` of some interpreter. -/
abbrev Loads := List UInt8 → Except LoadsError JsonDocument

/-- The message of the `ValueError` for a long integer literal. -/
def digitLimitMessage (limit digits : Nat) : String :=
  "Exceeds the limit (" ++ toString limit ++
    " digits) for integer string conversion: value has " ++ toString digits ++
    " digits; use sys.set_int_max_str_digits() to increase the limit"

/-- A code that does not start like the message is another text. -/
theorem digitLimitMessage_ne {code : String} (h : code.toList.head? ≠ some 'E')
    (limit digits : Nat) : digitLimitMessage limit digits ≠ code := by
  rintro rfl
  refine h ?_
  unfold digitLimitMessage
  simp only [String.toList_append, List.append_assoc]
  exact List.head?_append_of_ne_nil _ (List.cons_ne_nil 'E' _)

namespace JsonDocument

/-- `payload.get(key)` of a mapping: `None` without the key. -/
def get (fields : List (PyText × JsonDocument)) (key : String) : JsonDocument :=
  (fields.lookup (PyText.of key)).getD .null

/-- The value is this text. -/
def isText (literal : String) : JsonDocument → Bool
  | text s => s = PyText.of literal
  | _ => false

/-- The document is `null`. -/
def isNull : JsonDocument → Bool
  | null => true
  | _ => false

/-- The value, if it is a Boolean. -/
def bool? : JsonDocument → Option Bool
  | bool b => some b
  | _ => none

/-- The value, if it is an integer and no Boolean. -/
def int? : JsonDocument → Option Int
  | int n => some n
  | _ => none

end JsonDocument

end Aurora
