import ExternalFields.Yaml.SetOrder
import ExternalFields.Yaml.Tag

/-!
# Outlines

Data as it is to be written. An object that is reached more than once is spelled out at its first
place, and only named at the others, so that an outline is finite even of data that holds itself.
Parts of a document can be written as copies of their own, whose objects are not those of the rest.

* **`Outline`**: data as it is written
* **`Outline.levels`**: how deeply it is nested
* **`Outlining`**: steps that remember the objects met
* **`Value.outline`**: the outline of data
-/

namespace ExternalFields.Yaml

/-- An object: its mark, and the copy of the document that it belongs to. The document itself is the
copy of number zero. -/
structure Identity where
  copy : Nat
  mark : Nat
  deriving DecidableEq, Repr

/-- Data as it is written: scalars are text of some kind, and `again` stands for an object that is
spelled out before. -/
inductive Outline where
  | scalar (tag : Tag) (text : Text) (object : Option Identity)
  | octets (content : Octets)
  | list (items : List Outline) (object : Option Identity)
  | mapping (tag : Tag) (entries : List (Outline × Outline)) (object : Option Identity)
  | again (object : Identity)
  deriving Repr, Inhabited

namespace Outline

mutual

/-- How many levels an outline has: a scalar is one. -/
def levels : Outline → Nat
  | .scalar .. | .octets _ | .again _ => 1
  | .list items _ => levelsOfAll items + 1
  | .mapping _ entries _ => levelsOfEntries entries + 1

/-- How many levels the deepest of some outlines has. -/
def levelsOfAll : List Outline → Nat
  | [] => 0
  | item :: rest => max (levels item) (levelsOfAll rest)

/-- How many levels the deepest of some keys and values has. -/
def levelsOfEntries : List (Outline × Outline) → Nat
  | [] => 0
  | (key, value) :: rest => max (max (levels key) (levels value)) (levelsOfEntries rest)

end

end Outline

/-! ## Objects met -/

/-- The objects met so far, those of them met again, each with the latest first, and the number of
copies made. -/
structure Outliner where
  met : List Identity := []
  repeated : List Identity := []
  copies : Nat := 0
  deriving Repr, Inhabited

/-- Steps that outline data. They fail on data that cannot be written. -/
abbrev Outlining := StateT Outliner (Except ReadError)

namespace Outlining

/-- The number of a new copy. -/
def newCopy : Outlining Nat := do
  modify fun outliner => { outliner with copies := outliner.copies + 1 }
  return (← get).copies

/-- Outlines an object of a copy: spells it out if it is met for the first time. -/
def once (copy : Nat) (mark : Mark) (spell : Option Identity → Outlining Outline) :
    Outlining Outline := do
  match mark with
  | none => spell none
  | some mark =>
    let object : Identity := ⟨copy, mark⟩
    let outliner ← get
    if outliner.met.contains object then
      if !outliner.repeated.contains object then
        set { outliner with repeated := object :: outliner.repeated }
      return .again object
    else
      set { outliner with met := object :: outliner.met }
      spell (some object)

/-- The result of steps, and the objects that were met more than once, in the order in which that
was noticed. -/
def result {α : Type} (steps : Outlining α) : Except ReadError (α × List Identity) := do
  let (outline, outliner) ← steps.run {}
  return (outline, outliner.repeated.reverse)

end Outlining

/-! ## Data -/

/-- The text of a number: infinities and not-a-number start with a point, and a number with an
exponent has a point before it. -/
def floatText : Binary64 → String
  | .nan => ".nan"
  | .infinite negative => if negative then "-.inf" else ".inf"
  | x =>
    let chars := x.text.toList
    if chars.contains '.' then x.text
    else
      String.ofList (chars.takeWhile (· != 'e')) ++
        (if chars.contains 'e' then ".0" else "") ++ String.ofList (chars.dropWhile (· != 'e'))

namespace Value

/-- Whether a value is the same in every copy, being no object. -/
def isShared : Value → Bool
  | .null | .bool _ | .int _ | .float _ | .text _ | .binary _ => true
  | _ => false

/-- A scalar that is written as this text. -/
def outlineScalar (tag : Tag) (text : Text) (object : Option Identity) : Outlining Outline :=
  return .scalar tag text object

mutual

/-- The outline of data in a copy. A pair that holds no objects is the same in every copy. -/
def outline (copy : Nat) : Value → Outlining Outline
  | .null => outlineScalar .null "null" none
  | .bool b => outlineScalar .bool (if b then "true" else "false") none
  | .int n =>
    match wholeText? n with
    | some digits => outlineScalar .int digits none
    | none => throw .tooManyDigits
  | .float x => outlineScalar .float (floatText x) none
  | .text s => outlineScalar .text s none
  | .binary octets => return .octets octets
  | .date d mark => Outlining.once copy mark (outlineScalar .timestamp d.text)
  | .timestamp t mark => Outlining.once copy mark (outlineScalar .timestamp (t.text " "))
  | .list items mark =>
    Outlining.once copy mark fun object => return .list (← outlineAll copy items) object
  | .pair key value mark =>
    Outlining.once (if key.isShared && value.isShared then 0 else copy) mark fun object => do
      return .list [← outline copy key, ← outline copy value] object
  | .mapping entries mark =>
    Outlining.once copy mark fun object =>
      return .mapping .mapping (← outlineEntries copy entries) object
  | .set members mark =>
    Outlining.once copy mark fun object => do
      let entries ← outlineMembers copy members
      let entries := if copy = 0 then entries else Value.relisted (members.zip entries)
      return .mapping .set entries object
  | .endless => throw .tooDeep

/-- The outlines of values in order. -/
def outlineAll (copy : Nat) : List Value → Outlining (List Outline)
  | [] => return []
  | value :: rest => return (← outline copy value) :: (← outlineAll copy rest)

/-- The outlines of keys and values in order. -/
def outlineEntries (copy : Nat) : List (Value × Value) → Outlining (List (Outline × Outline))
  | [] => return []
  | (key, value) :: rest =>
    return (← outline copy key, ← outline copy value) :: (← outlineEntries copy rest)

/-- The outlines of the members of a set, which are keys of null values. -/
def outlineMembers (copy : Nat) : List Value → Outlining (List (Outline × Outline))
  | [] => return []
  | member :: rest =>
    return (← outline copy member, ← outlineScalar .null "null" none)
      :: (← outlineMembers copy rest)

end

end Value

end ExternalFields.Yaml
