/-
  Forms in the urlencoded format, read as `urllib.parse.parse_qsl` reads them.

  A form is a text of fields with `&` between them, and a field is a name and a value with `=`
  between them.  Each is escaped: `+` stands for a space, `%` and two hexadecimal digits stand for
  a byte, and the bytes are the UTF-8 encoding of a text.

  `Escaped` and `SpellsForm` say what a text spells; `parseQsl` computes it, with blank values kept
  and every defect an error.  `parseQsl_iff` says that on a text whose escapes are whole the two
  agree.
-/
import Mathlib.Data.List.TakeWhile
import Mathlib.Data.List.Forall2
import Aurora.Lib.Checks
import Aurora.Lib.Pieces

namespace Aurora.Urlencoded

/-! ## What a text spells -/

/-- The value of a hexadecimal digit. -/
def hexValue (c : Char) : Option Nat :=
  if 48 ≤ c.toNat ∧ c.toNat ≤ 57 then some (c.toNat - 48)
  else if 65 ≤ c.toNat ∧ c.toNat ≤ 70 then some (c.toNat - 55)
  else if 97 ≤ c.toNat ∧ c.toNat ≤ 102 then some (c.toNat - 87)
  else none

/-- The byte of an ASCII character. -/
def byteOf (c : Char) : UInt8 := UInt8.ofNat c.toNat

/-- The byte that two hexadecimal digits write. -/
def hexByte (x y : Nat) : UInt8 := UInt8.ofNat (16 * x + y)

/-- The bytes that an escaped text stands for. -/
inductive Escaped : List Char → List UInt8 → Prop
  | nil : Escaped [] []
  | escape {hi lo : Char} {x y : Nat} (hhi : hexValue hi = some x) (hlo : hexValue lo = some y)
      {text bytes} (h : Escaped text bytes) : Escaped ('%' :: hi :: lo :: text) (hexByte x y :: bytes)
  | plus {text bytes} (h : Escaped text bytes) : Escaped ('+' :: text) (byteOf ' ' :: bytes)
  | plain {c : Char} (hpercent : c ≠ '%') (hplus : c ≠ '+') {text bytes} (h : Escaped text bytes) :
      Escaped (c :: text) (byteOf c :: bytes)

/-- An escaped text stands for a text: the one whose UTF-8 encoding its bytes are. -/
def SpellsText (piece : List Char) (text : String) : Prop :=
  ∃ bytes, Escaped piece bytes ∧ text.toByteArray = bytes.toByteArray

/-- A field is a name and a value; the first `=` ends the name. -/
def SpellsField (field : List Char) (pair : String × String) : Prop :=
  ∃ name value, field = name ++ '=' :: value ∧ '=' ∉ name ∧ '&' ∉ field ∧
    SpellsText name pair.1 ∧ SpellsText value pair.2

/-- A form is its fields with `&` between them. -/
def SpellsForm (text : List Char) (pairs : List (String × String)) : Prop :=
  ∃ fields, text = ['&'].intercalate fields ∧ List.Forall₂ SpellsField fields pairs

/-! ## Reading -/

/-- Why a form cannot be read. -/
inductive QslError
  | tooManyFields
  | badField
  | undecodable
  deriving DecidableEq

/-- `unquote_to_bytes`: escapes are replaced by their byte; a `%` that starts none stands for
itself. -/
def unquoteToBytes : List Char → List UInt8
  | [] => []
  | c :: hi :: lo :: rest =>
    match if c = '%' then (hexValue hi, hexValue lo) else (none, none) with
    | (some x, some y) => hexByte x y :: unquoteToBytes rest
    | _ => byteOf c :: unquoteToBytes (hi :: lo :: rest)
  | c :: rest => byteOf c :: unquoteToBytes rest

/-- A plus sign stands for a space. -/
def plusToSpace (c : Char) : Char := if c = '+' then ' ' else c

/-- `unquote_plus`, with UTF-8 and strict errors. -/
def unquotePlus (piece : List Char) : Except QslError String :=
  match String.fromUTF8? (unquoteToBytes (piece.map plusToSpace)).toByteArray with
  | some text => .ok text
  | none => .error .undecodable

/-- One field: everything before the first `=` is its name. -/
def parseField (field : List Char) : Except QslError (String × String) :=
  match field.dropWhile (· ≠ '=') with
  | [] => .error .badField
  | _ :: value => do
    let name ← unquotePlus (field.takeWhile (· ≠ '='))
    let value ← unquotePlus value
    return (name, value)

/-- `parse_qsl` with blank values kept, strict parsing and a limit on the fields. -/
def parseQsl (text : List Char) (maxNumFields : Nat) : Except QslError (List (String × String)) :=
  if text = [] then .ok []
  else if maxNumFields < 1 + text.count '&' then .error .tooManyFields
  else (text.splitOn '&').mapM parseField

/-! ## Reading gives what is spelled -/

variable {text piece field : List Char} {bytes : List UInt8}

/-- A text whose escapes are whole: every `%` starts one. -/
def IsEscaped (text : List Char) : Prop := ∃ bytes, Escaped text bytes

/-- A hexadecimal digit is none of the marks of a form. -/
theorem ne_of_hexValue {c : Char} {x : Nat} (h : hexValue c = some x) :
    c ≠ '%' ∧ c ≠ '+' ∧ c ≠ '&' ∧ c ≠ '=' := by
  refine ⟨?_, ?_, ?_, ?_⟩ <;>
  · rintro rfl
    cases h

theorem unquoteToBytes_escape {hi lo : Char} {x y : Nat} (hhi : hexValue hi = some x)
    (hlo : hexValue lo = some y) :
    unquoteToBytes ('%' :: hi :: lo :: text) = hexByte x y :: unquoteToBytes text := by
  rw [unquoteToBytes, if_pos rfl, hhi, hlo]

theorem unquoteToBytes_plain {c : Char} (h : c ≠ '%') :
    unquoteToBytes (c :: text) = byteOf c :: unquoteToBytes text := by
  rcases text with _ | ⟨hi, _ | ⟨lo, rest⟩⟩
  · rfl
  · rfl
  · rw [unquoteToBytes, if_neg h]

/-- Unquoting computes the bytes that a text stands for. -/
theorem Escaped.unquote (h : Escaped text bytes) :
    unquoteToBytes (text.map plusToSpace) = bytes := by
  induction h with
  | nil => rfl
  | escape hhi hlo _ ih =>
    have hkept : ∀ {c : Char} {x : Nat}, hexValue c = some x → plusToSpace c = c :=
      fun hx => if_neg (ne_of_hexValue hx).2.1
    simp only [List.map_cons, hkept hhi, hkept hlo]
    rw [show plusToSpace '%' = '%' from rfl, unquoteToBytes_escape hhi hlo, ih]
  | plus _ ih =>
    rw [List.map_cons, show plusToSpace '+' = ' ' from rfl, unquoteToBytes_plain (by decide), ih]
  | plain hpercent hplus _ ih =>
    rw [List.map_cons, show plusToSpace _ = _ from if_neg hplus, unquoteToBytes_plain hpercent, ih]

/-- A piece is read as the text it spells, and as no other. -/
theorem unquotePlus_iff (hpiece : IsEscaped piece) {text : String} :
    unquotePlus piece = .ok text ↔ SpellsText piece text := by
  obtain ⟨bytes, hbytes⟩ := hpiece
  have hread : unquotePlus piece = .ok text ↔ text.toByteArray = bytes.toByteArray := by
    unfold unquotePlus
    rw [hbytes.unquote]
    unfold String.fromUTF8?
    split
    case h_1 decoded hdecoded =>
      split at hdecoded
      case isTrue hvalid =>
        obtain rfl := Option.some.inj hdecoded
        constructor
        · intro h
          obtain rfl := Except.ok.inj h
          rfl
        · intro h
          congr 1
          exact (String.toByteArray_inj.mp h).symm
      case isFalse => cases hdecoded
    case h_2 hdecoded =>
      split at hdecoded
      case isTrue => cases hdecoded
      case isFalse hvalid =>
        refine iff_of_false nofun fun h => hvalid ?_
        rw [← h]
        exact text.isValidUTF8
  rw [hread]
  constructor
  · intro h
    exact ⟨bytes, hbytes, h⟩
  · rintro ⟨bytes', hbytes', h⟩
    rw [h, ← hbytes.unquote, ← hbytes'.unquote]

/-- A mark that is no digit cuts no escape: the parts of an escaped text are escaped. -/
theorem Escaped.parts {sep : Char} (hsep : hexValue sep = none) (hpercent : sep ≠ '%')
    {rest : List Char} (h : Escaped text bytes) : ∀ {first : List Char},
      text = first ++ sep :: rest → IsEscaped first ∧ IsEscaped rest := by
  induction h with
  | nil =>
    intro first h
    exact absurd h.symm (by simp)
  -- the mark is none of the three characters of an escape
  | @escape hi lo x y hhi hlo text bytes h ih =>
    intro first hfirst
    rcases first with _ | ⟨c, _ | ⟨d, _ | ⟨e, first⟩⟩⟩
    · obtain ⟨rfl, -⟩ := List.cons.inj hfirst
      exact absurd rfl hpercent
    · obtain ⟨-, hfirst⟩ := List.cons.inj hfirst
      obtain ⟨rfl, -⟩ := List.cons.inj hfirst
      rw [hsep] at hhi
      cases hhi
    · obtain ⟨-, hfirst⟩ := List.cons.inj hfirst
      obtain ⟨-, hfirst⟩ := List.cons.inj hfirst
      obtain ⟨rfl, -⟩ := List.cons.inj hfirst
      rw [hsep] at hlo
      cases hlo
    · simp only [List.cons_append, List.cons.injEq] at hfirst
      obtain ⟨rfl, rfl, rfl, htext⟩ := hfirst
      obtain ⟨⟨_, hleft⟩, hright⟩ := ih htext
      exact ⟨⟨_, .escape hhi hlo hleft⟩, hright⟩
  | plus h ih =>
    intro first hfirst
    cases first with
    | nil =>
      obtain ⟨-, rfl⟩ := List.cons.inj hfirst
      exact ⟨⟨_, .nil⟩, _, h⟩
    | cons c first =>
      obtain ⟨rfl, htext⟩ := List.cons.inj hfirst
      obtain ⟨⟨_, hleft⟩, hright⟩ := ih htext
      exact ⟨⟨_, .plus hleft⟩, hright⟩
  | plain hother hplus h ih =>
    intro first hfirst
    cases first with
    | nil =>
      obtain ⟨-, rfl⟩ := List.cons.inj hfirst
      exact ⟨⟨_, .nil⟩, _, h⟩
    | cons c first =>
      obtain ⟨rfl, htext⟩ := List.cons.inj hfirst
      obtain ⟨⟨_, hleft⟩, hright⟩ := ih htext
      exact ⟨⟨_, .plain hother hplus hleft⟩, hright⟩

/-- The fields of an escaped text are escaped. -/
theorem isEscaped_of_fields : ∀ {fields : List (List Char)},
    IsEscaped (['&'].intercalate fields) → ∀ field ∈ fields, IsEscaped field
  | [], _ => by simp
  | [field], h => by simpa using h
  | first :: second :: rest, ⟨bytes, h⟩ => by
    rw [List.intercalate_cons_cons, List.append_assoc, List.singleton_append] at h
    obtain ⟨hfirst, hrest⟩ := h.parts rfl (by decide) rfl
    intro field hfield
    rcases List.mem_cons.mp hfield with rfl | hfield
    · exact hfirst
    · exact isEscaped_of_fields hrest field hfield

/-- A field is read as the pair it spells, and as no other. -/
theorem parseField_iff (hfield : IsEscaped field) (hamp : '&' ∉ field)
    {pair : String × String} : parseField field = .ok pair ↔ SpellsField field pair := by
  have hcut : field = field.takeWhile (· ≠ '=') ++ field.dropWhile (· ≠ '=') :=
    (List.takeWhile_append_dropWhile ..).symm
  have hname : '=' ∉ field.takeWhile (· ≠ '=') := by
    intro h
    simpa using List.mem_takeWhile_imp h
  unfold parseField
  cases hrest : field.dropWhile (· ≠ '=') with
  | nil =>
    refine iff_of_false nofun ?_
    rintro ⟨name, value, rfl, hnone, -, -⟩
    have hmem : '=' ∈ (name ++ '=' :: value).takeWhile (· ≠ '=') := by
      rw [hrest, List.append_nil] at hcut
      rw [← hcut]
      simp
    exact hname hmem
  | cons mark value =>
    obtain rfl : mark = '=' := by
      have := List.head?_dropWhile_not (· ≠ '=') field
      rw [hrest] at this
      simpa using this
    rw [hrest] at hcut
    obtain ⟨bytes, hbytes⟩ := hfield
    obtain ⟨hescaped, hvalue⟩ := hbytes.parts rfl (by decide) hcut
    simp only [bind_eq_ok, unquotePlus_iff hescaped, unquotePlus_iff hvalue]
    constructor
    · rintro ⟨name, hn, text, hv, h⟩
      obtain rfl := Except.ok.inj h
      exact ⟨_, value, hcut, hname, hamp, hn, hv⟩
    · rintro ⟨name, value', h, hnone, -, hn, hv⟩
      obtain ⟨hsame, rfl⟩ := cut_first hname hnone (hcut.symm.trans h)
      rw [hsame]
      exact ⟨_, hn, _, hv, rfl⟩

/-- `parse_qsl` reads the pairs that an escaped text spells, if they are not too many. -/
theorem parseQsl_iff (htext : IsEscaped text) {maxNumFields : Nat}
    {pairs : List (String × String)} :
    parseQsl text maxNumFields = .ok pairs ↔
      SpellsForm text pairs ∧ pairs.length ≤ maxNumFields := by
  by_cases hempty : text = []
  · subst hempty
    have hread : parseQsl [] maxNumFields = .ok [] := rfl
    rw [hread]
    constructor
    · intro h
      obtain rfl := Except.ok.inj h
      exact ⟨⟨[], rfl, .nil⟩, Nat.zero_le _⟩
    · rintro ⟨⟨fields, hfields, hspelled⟩, -⟩
      cases hspelled with
      | nil => rfl
      | @cons field pair fields pairs hfield hrest =>
        -- a field holds its `=`, so the empty text has none
        obtain ⟨name, value, rfl, -⟩ := hfield
        have hmem : '=' ∈ ['&'].intercalate ((name ++ '=' :: value) :: fields) := by
          cases fields with
          | nil => simp
          | cons second fields =>
            rw [List.intercalate_cons_cons]
            simp
        rw [← hfields] at hmem
        cases hmem
  · have hcount := @length_splitOn Char _ '&' text
    have hfields : ∀ field ∈ text.splitOn '&', IsEscaped field := by
      refine isEscaped_of_fields ?_
      rw [List.intercalate_splitOn]
      exact htext
    have hread : (text.splitOn '&').mapM parseField = .ok pairs ↔ SpellsForm text pairs := by
      rw [mapM_eq_ok]
      constructor
      · intro h
        refine ⟨text.splitOn '&', (List.intercalate_splitOn '&').symm, ?_⟩
        have hwhole : ∀ field ∈ text.splitOn '&', IsEscaped field ∧ '&' ∉ field :=
          fun field hfield => ⟨hfields field hfield, not_mem_of_splitOn field hfield⟩
        exact ((List.forall₂_and_left _ _).mpr ⟨hwhole, h⟩).imp fun field pair hpair =>
          (parseField_iff hpair.1.1 hpair.1.2).mp hpair.2
      · rintro ⟨fields, rfl, hspelled⟩
        have hwhole : ∀ field ∈ fields, '&' ∉ field := by
          have hboth : List.Forall₂ (fun field pair => '&' ∉ field ∧ SpellsField field pair)
              fields pairs := by
            refine hspelled.imp fun field pair hpair => ⟨?_, hpair⟩
            obtain ⟨name, value, -, -, hamp, -⟩ := hpair
            exact hamp
          exact ((List.forall₂_and_left _ _).mp hboth).1
        have hsplit : (['&'].intercalate fields).splitOn '&' = fields :=
          splitOn_eq_iff.mpr ⟨by rintro rfl; exact hempty rfl, rfl, hwhole⟩
        rw [hsplit] at hfields ⊢
        have hboth := fun field hfield => And.intro (hfields field hfield) (hwhole field hfield)
        exact ((List.forall₂_and_left _ _).mpr ⟨hboth, hspelled⟩).imp fun field pair hpair =>
          (parseField_iff hpair.1.1 hpair.1.2).mpr hpair.2
    unfold parseQsl
    rw [if_neg hempty]
    split
    case isTrue hmany =>
      refine iff_of_false nofun ?_
      rintro ⟨hspelled, hfew⟩
      have hlength := (mapM_eq_ok.mp (hread.mpr hspelled)).length_eq
      omega
    case isFalse hfew =>
      rw [hread]
      refine ⟨fun h => ⟨h, ?_⟩, And.left⟩
      have hlength := (mapM_eq_ok.mp (hread.mpr h)).length_eq
      omega

end Aurora.Urlencoded
