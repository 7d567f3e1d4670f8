import ExternalFields.Calendar
import ExternalFields.Decimal.Reading
import ExternalFields.Decimal.Shortest
import ExternalFields.Text.Quoted

/-!
# Document data

The data that a YAML document holds. Collections and dates carry a mark: two of them with the same
mark are one object of the document, reached through an alias. Data that was not read from a
document has no marks. An object may hold itself; it is then followed some levels down, and its
marks tell where it starts again.

* **`ReadError`**: why the data of a document cannot be read or written
* **`Value`**: the data
* **`Value.sameKey`**: when two keys of a mapping are one key
* **`Value.ofPairs`**: the entries of a mapping written as pairs
* **`Value.lookup`**: the value under a text key
* **`Value.keyText`**: a key as a name
-/

namespace ExternalFields.Yaml

/-! ## Faults -/

/-- Why the data of a document cannot be read or written. All but the first are faults of what the
text says, not of its form. -/
inductive ReadError where
  /-- The text is not one document of known kinds of data. -/
  | malformed
  /-- An escape is beyond the last code point. -/
  | noSuchCharacter
  /-- An escape is beyond all numbers that could be code points. -/
  | noSuchCode
  /-- The calendar has no such day, or the day no such time. -/
  | noSuchDate
  /-- A scalar marked as a number holds none. -/
  | notNumber
  /-- A scalar marked as a number is empty. -/
  | emptyNumber
  /-- A place of a number to the base sixty is beyond the range of floating-point numbers. -/
  | noSuchPlace
  /-- A number has too many digits to be read or written. -/
  | tooManyDigits
  /-- A scalar marked as a truth value holds none. -/
  | notFlag
  /-- A scalar marked as a point in time holds none. -/
  | notTimestamp
  /-- What is marked as a point in time is a mapping. -/
  | compoundTimestamp
  /-- Data is nested too deeply, as data is that holds itself. -/
  | tooDeep
  deriving DecidableEq, Repr

/-! ## Data -/

/-- Which object of its document a value is, if it was read from one. -/
abbrev Mark := Option Nat

/-- The data of a document. The entries of a mapping are in document order. A `pair` is an entry of
a list of pairs; `endless` stands where data that holds itself is followed no further. -/
inductive Value where
  | null
  | bool (b : Bool)
  | int (n : Int)
  | float (x : Binary64)
  | text (s : Text)
  | binary (octets : Octets)
  | date (d : Date) (mark : Mark)
  | timestamp (t : Timestamp) (mark : Mark)
  | list (items : List Value) (mark : Mark)
  | pair (key value : Value) (mark : Mark)
  | mapping (entries : List (Value × Value)) (mark : Mark)
  | set (members : List Value) (mark : Mark)
  | endless
  deriving Repr, BEq, Inhabited

/-- The entries of a mapping, in order. -/
abbrev Entries := List (Value × Value)

namespace Value

/-! ## Keys -/

/-- The number that a value is, if it is one: truth values count as zero and one. -/
def number? : Value → Option (Int ⊕ Binary64)
  | .bool b => some (.inl (if b then 1 else 0))
  | .int n => some (.inl n)
  | .float .nan => none
  | .float x => some (match x.toInt? with
    | some n => .inl n
    | none => .inr x)
  | _ => none

/-- Whether two values are one key. Numbers are compared by value whatever their kind, and
not-a-number is equal to none; collections are no keys. -/
def sameKey (a b : Value) : Bool :=
  match a, b with
  | .null, .null => true
  | .text s, .text t => s == t
  | .binary m, .binary n => m == n
  | .date d _, .date e _ => d == e
  | .timestamp t _, .timestamp u _ => t.sameInstant u
  | _, _ =>
    match a.number?, b.number? with
    | some (.inl m), some (.inl n) => m == n
    | some (.inr x), some (.inr y) => x == y
    | _, _ => false

/-- Puts a value under a key. A key that is there already keeps its place and its form. -/
def put (key value : Value) : Entries → Entries
  | [] => [(key, value)]
  | (k, v) :: rest =>
    if k.sameKey key then (k, value) :: rest else (k, v) :: put key value rest

/-- The entries of a mapping written as these pairs: of a repeated key the first place and the
last value count. -/
def ofPairs (pairs : Entries) : Entries :=
  pairs.foldl (fun entries (key, value) => put key value entries) []

/-- Whether a value is this text. -/
def isText (name : Text) : Value → Bool
  | .text s => s == name
  | _ => false

/-- The value under a text key. -/
def lookup (name : Text) : Entries → Option Value
  | [] => none
  | (key, value) :: rest => if key.isText name then some value else lookup name rest

/-- A key as a name. Truth values and the null value are named in words with a capital letter. -/
def keyText : Value → Except ReadError Text
  | .null => .ok "None"
  | .bool b => .ok (if b then "True" else "False")
  | .int n =>
    match wholeText? n with
    | some digits => .ok digits
    | none => .error .tooManyDigits
  | .float x => .ok x.text
  | .text s => .ok s
  | .binary octets => .ok ("b" ++ Text.quoteOctets octets)
  | .date d _ => .ok d.text
  | .timestamp t _ => .ok (t.text " ")
  | .list .. | .pair .. | .mapping .. | .set .. | .endless => .ok ""

end Value

end ExternalFields.Yaml
