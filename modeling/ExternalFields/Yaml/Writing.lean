import ExternalFields.Text.Base64
import ExternalFields.Yaml.Outline
import ExternalFields.Yaml.Pen
import ExternalFields.Yaml.Style

/-!
# Writing documents

Outlines as YAML text: block style, two columns per level, the items of a list at the column of the
key they stand under. An object reached more than once is written at its first place with an
anchor, and as an alias of it at the others.

* **`Writer`**: the text so far
* **`Outlining.write`**: the text of a document
-/

namespace ExternalFields.Yaml

/-! ## Nodes -/

/-- The text so far, and the objects of the document that are reached more than once. -/
structure Writer where
  pen : Pen := {}
  repeated : List Identity

namespace Writer

/-- Applies strokes to the text. -/
def draw (writer : Writer) (strokes : Pen → Pen) : Writer :=
  { writer with pen := strokes writer.pen }

/-- The name of an object that is reached more than once: they are numbered from one. -/
def name? (writer : Writer) (object : Identity) : Option String :=
  (writer.repeated.idxOf? object).map fun index =>
    let digits := Nat.toDigits 10 (index + 1)
    "id" ++ String.ofList (List.replicate (3 - digits.length) '0' ++ digits)

/-- Writes the anchor of an object that has a name. -/
def announce (writer : Writer) (object? : Option Identity) : Writer :=
  match object?.bind writer.name? with
  | some name => writer.draw (·.indicator ("&" ++ name) true)
  | none => writer

/-- Writes an alias. -/
def refer (writer : Writer) (object : Identity) : Writer :=
  match writer.name? object with
  | some name => writer.draw (·.indicator ("*" ++ name) true)
  | none => writer

/-- Whether a key can be written on one line with its value: a scalar that is not empty, holds no
line breaks and, together with its tag and anchor, has fewer than 128 characters. -/
def isSimpleKey (writer : Writer) : Outline → Bool
  | .again _ => true
  | .scalar tag text object =>
    let anchorLength := ((object.bind writer.name?).map String.length).getD 0
    !text.isEmpty && !text.chars.any isBreak
      && anchorLength + tag.short.length + text.length < 128
  | _ => false

/-- Writes a scalar whose further lines stand at the column `indent`; a simple key has none. Only
texts need quotes. -/
def scalar (writer : Writer) (simpleKey : Bool) (indent : Nat) (tag : Tag) (text : Text) :
    Writer :=
  writer.draw fun pen =>
    match if tag == .text then Style.ofText simpleKey text else .plain with
    | .plain => pen.plain (!simpleKey) indent text.chars
    | .single => pen.single (!simpleKey) indent text.chars
    | .double => pen.double (!simpleKey) indent text

/-- Writes a key that stays on one line. -/
def simpleKey (writer : Writer) (indent : Nat) : Outline → Writer
  | .scalar tag text object => (writer.announce object).scalar true (indent + 2) tag text
  | .again object => writer.refer object
  | _ => writer

/-- Writes octets in base 64. -/
def octets (writer : Writer) (indent : Nat) (content : Octets) : Writer :=
  writer.draw fun pen =>
    let pen := pen.indicator Tag.binary.short true
    if content.isEmpty then pen.double true indent []
    else pen.literal indent (Base64.encodeLines content)

/-- Writes the brackets of an empty collection. -/
def emptyCollection (writer : Writer) (opening closing : String) : Writer :=
  writer.draw fun pen =>
    let opened := pen.indicator opening true
    { opened with spaced := true }.indicator closing false

mutual

/-- Writes a value below a collection whose markup stands at the column `indent?`, nothing for the
document itself. `inMapping` says that the collection is a mapping. -/
def node (writer : Writer) (inMapping : Bool) (indent? : Option Nat) : Outline → Writer
  | .scalar tag text object =>
    (writer.announce object).scalar false (indent?.getD 0 + 2) tag text
  | .octets content => writer.octets (indent?.getD 0 + 2) content
  | .list items object =>
    let writer := writer.announce object
    if items.isEmpty then writer.emptyCollection "[" "]"
    else
      let flush := inMapping && !writer.pen.fresh
      let indent := match indent? with
        | none => 0
        | some outer => if flush then outer else outer + 2
      nodes writer indent items
  | .mapping tag pairs object =>
    let writer := writer.announce object
    let writer := if tag == .mapping then writer else writer.draw (·.indicator tag.short true)
    if pairs.isEmpty then writer.emptyCollection "\x7b" "\x7d"
    else entries writer (match indent? with | none => 0 | some outer => outer + 2) pairs
  | .again object => writer.refer object

/-- Writes the items of a list, each behind a dash at the column `indent`. -/
def nodes (writer : Writer) (indent : Nat) : List Outline → Writer
  | [] => writer
  | item :: rest =>
    let writer := writer.draw fun pen => (pen.indentTo indent).indicator "-" true true
    nodes (node writer false (some indent) item) indent rest

/-- Writes the entries of a mapping at the column `indent`. -/
def entries (writer : Writer) (indent : Nat) : List (Outline × Outline) → Writer
  | [] => writer
  | (key, value) :: rest =>
    let writer := writer.draw (·.indentTo indent)
    let writer :=
      if writer.isSimpleKey key then
        (simpleKey writer indent key).draw (·.indicator ":" false)
      else
        let writer := node (writer.draw (·.indicator "?" true true)) true (some indent) key
        writer.draw fun pen => (pen.indentTo indent).indicator ":" true true
    entries (node writer true (some indent) value) indent rest

end

end Writer

/-- So many levels of data can be written. -/
def deepestOutline : Nat := 329

/-- The text of a document that holds one value. -/
def Outlining.write (document : Outlining Outline) : Except ReadError String := do
  let (outline, repeated) ← document.result
  if deepestOutline < outline.levels then throw .tooDeep
  let writer : Writer := { repeated }
  return ((writer.node false none outline).draw (·.indentTo 0)).pen.text

end ExternalFields.Yaml
