/-
  The value-free plan between two configuration documents.

  A document is a tree of mappings, sequences and scalars.  `walk` compares two trees and lists, in
  the order in which the source makes them, the changes it adds; `planChanges` keeps the first ones
  up to a maximum and sorts them by path.  Scalars follow Python: `True == 1 == 1.0`, which is why
  their types are compared first.
-/
import Mathlib.Data.List.Sort
import Mathlib.Data.String.Basic
import Aurora.Lib.Binary64

namespace Aurora.ConfigProfiles

/-! ## Scalars -/

/-- A scalar of a loaded document. -/
inductive Scalar
  | none
  | bool (b : Bool)
  | int (n : Int)
  | float (x : FloatValue)
  | str (s : String)
  | bytes (data : List UInt8)
  | date (ordinal : Int)
  /-- A time with or without a zone, in microseconds. -/
  | datetime (aware : Bool) (microseconds : Int)
deriving DecidableEq

namespace Scalar

/-- `type(value)` -/
def typeName : Scalar → String
  | none => "NoneType"
  | bool _ => "bool"
  | int _ => "int"
  | float _ => "float"
  | str _ => "str"
  | bytes _ => "bytes"
  | date _ => "date"
  | datetime _ _ => "datetime"

/-- The number a scalar compares as. -/
def number? : Scalar → Option ℚ
  | bool b => some (if b then 1 else 0)
  | int n => some n
  | float (.finite q) => some q
  | _ => Option.none

/-- `left == right` -/
def equal (left right : Scalar) : Bool :=
  match left.number?, right.number? with
  | some x, some y => x = y
  | _, _ => left = right && left ≠ float .nan

end Scalar

/-! ## Documents -/

/-- A part of a document. -/
inductive Node
  | scalar (value : Scalar)
  | list (items : List Node)
  | mapping (entries : List (String × Node))

/-- `left != right` or another type, for nodes that are not both mappings or both sequences. -/
def Node.differs : Node → Node → Bool
  | .scalar left, .scalar right => left.typeName ≠ right.typeName || !left.equal right
  | _, _ => true

/-- The keys of a mapping. -/
def keys (entries : List (String × Node)) : List String := entries.map Prod.fst

/-! ## Planning -/

/-- How a part of the configuration changes. -/
inductive ChangeType
  | added | removed | changed
deriving DecidableEq, Repr

/-- One change of a plan. -/
structure PlanChange where
  path : String
  changeType : ChangeType
deriving DecidableEq

/-- The path of a key. -/
def childPath (path key : String) : String := if path = "" then key else path ++ "." ++ key

/-- The path of an index. -/
def itemPath (path : String) (index : Nat) : String := path ++ "[" ++ toString index ++ "]"

/-- `sorted(left_keys | right_keys, key=str)` -/
def sortedKeys (left right : List (String × Node)) : List String :=
  (keys left ∪ keys right).dedup.insertionSort (· ≤ ·)

mutual

/-- The changes that comparing two nodes adds, in order. -/
def walk : Node → Node → String → List PlanChange
  | .mapping left, right, path =>
    match right with
    | .mapping right =>
      let children := walkEntries left right path
      (sortedKeys left right).flatMap fun key =>
        if key ∉ keys left then [⟨childPath path key, .added⟩]
        else if key ∉ keys right then [⟨childPath path key, .removed⟩]
        else (children.lookup key).getD []
    | _ => [⟨path, .changed⟩]
  | .list left, right, path =>
    match right with
    | .list right => walkItems left right path 0
    | _ => [⟨path, .changed⟩]
  | .scalar left, right, path =>
    if Node.differs (.scalar left) right then [⟨path, .changed⟩] else []

/-- The changes below every key that both mappings have. -/
def walkEntries : List (String × Node) → List (String × Node) → String →
    List (String × List PlanChange)
  | [], _, _ => []
  | (key, left) :: rest, right, path =>
    match right.lookup key with
    | some other => (key, walk left other (childPath path key)) :: walkEntries rest right path
    | none => walkEntries rest right path

/-- The changes of two sequences from an index on. -/
def walkItems : List Node → List Node → String → Nat → List PlanChange
  | [], right, path, index =>
    (List.range right.length).map fun i => ⟨itemPath path (index + i), .added⟩
  | left :: rest, right, path, index =>
    match right with
    | [] => (List.range (rest.length + 1)).map fun i => ⟨itemPath path (index + i), .removed⟩
    | other :: others =>
      walk left other (itemPath path index) ++ walkItems rest others path (index + 1)

end

/-- The changes added so far, and whether one was left out. -/
structure Additions where
  changes : List PlanChange
  truncated : Bool

/-- One more change, as long as there is room for it. -/
def Additions.add (maximumChanges : Int) (a : Additions) (change : PlanChange) : Additions :=
  if (a.changes.length : Int) ≥ maximumChanges then { a with truncated := true }
  else { a with changes := a.changes ++ [change] }

/-- Sorted changes and whether the result was truncated. -/
def planChanges (active candidate : List (String × Node)) (maximumChanges : Int) :
    List PlanChange × Bool :=
  let added := (walk (.mapping active) (.mapping candidate) "").foldl (Additions.add maximumChanges)
    ⟨[], false⟩
  (added.changes.insertionSort (fun a b => a.path ≤ b.path), added.truncated)

end Aurora.ConfigProfiles
