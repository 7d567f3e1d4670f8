import ExternalFields.Text.Template.Filling

/-!
# Templates

Texts with fields in braces that are filled with named values. A field names its value and may ask
for properties and parts of it, for quotes around it, and for a layout, which may itself hold
fields. Doubled braces stand for single ones.

* **`Template.fillingOf`**: what a field stands for
* **`Template.fill`**: the filled template
-/

namespace ExternalFields.Template

/-- The values that fields may name. -/
abbrev Values := List (Text × Text)

/-! ## Fields -/

/-- Takes the steps from a filling to what a field names of it: a name after a point is a property,
an index in brackets a part. -/
def follow (filling : Filling) : Nat → Text → Except Problem Filling
  | _, [] => .ok filling
  | 0, _ :: _ => .error .malformed
  | fuel + 1, mark :: rest => do
    if mark = '[' then
      let index := rest.takeWhile fun c : CodePoint => c != ']'
      if index.isEmpty || index.length = rest.length then .error .malformed
      else follow (← filling.part index) fuel (rest.drop (index.length + 1))
    else if mark = '.' then
      let name := rest.takeWhile fun c : CodePoint => c != '.' && c != '['
      if name.isEmpty then .error .malformed
      else follow (← filling.property name) fuel (rest.drop name.length)
    else .error .malformed

/-- What a field stands for, given its name. -/
def fillingOf (values : Values) (field : Text) : Except Problem Filling := do
  let name := field.takeWhile fun c : CodePoint => c != '.' && c != '['
  if name.isEmpty then .error .outOfRange
  else
    match ← numberOf? name with
    | some _ => .error .outOfRange
    | none =>
      match values.lookup name with
      | none => .error (.unknownName name)
      | some value => follow (.text value) field.length (field.drop name.length)

/-- The name of a field: up to a closing brace, a colon or an exclamation mark, brackets being
passed over. The result starts with that character. -/
def takeName (inBrackets : Bool) : Text → Except Problem (Text × Text)
  | [] => .error .malformed
  | c :: rest =>
    if inBrackets then
      (takeName (c != ']') rest).map fun (name, others) => (c :: name, others)
    else if c = '\x7b' then .error .malformed
    else if c = '\x7d' ∨ c = ':' ∨ c = '!' then .ok ([], c :: rest)
    else (takeName (c == '[') rest).map fun (name, others) => (c :: name, others)

/-- A layout up to the brace that closes its field, `depth` braces being open within it. -/
def takeLayout (depth : Nat) : Text → Except Problem (Text × Text)
  | [] => .error .malformed
  | c :: rest =>
    if c = '\x7d' ∧ depth = 0 then .ok ([], rest)
    else
      let depth := if c = '\x7b' then depth + 1 else if c = '\x7d' then depth - 1 else depth
      (takeLayout depth rest).map fun (layout, others) => (c :: layout, others)

/-- A field, taken apart. -/
structure Field where
  name : Text
  conversion : Option CodePoint := none
  layout : Text := []

/-- The end of a field from the character after its name and conversion on, and the rest. -/
def Field.takeEnd (field : Field) : Text → Except Problem (Field × Text)
  | [] => .error .malformed
  | c :: rest =>
    if c = '\x7d' then .ok (field, rest)
    else if c = ':' then
      (takeLayout 0 rest).map fun (layout, others) => ({ field with layout }, others)
    else .error .malformed

/-- The field after an opening brace, and the rest of the template. -/
def takeField (text : Text) : Except Problem (Field × Text) := do
  let (name, rest) ← takeName false text
  match rest with
  | mark :: conversion :: others =>
    if mark = '!' then Field.takeEnd { name, conversion := some conversion } others
    else Field.takeEnd { name } rest
  | _ => Field.takeEnd { name } rest

/-! ## Filling -/

/-- Fills a template whose layouts may hold fields `nesting` levels deep. -/
def fillText (values : Values) (nesting : Nat) : Nat → Text → Except Problem Text
  | _, [] => .ok []
  | 0, _ :: _ => .error .malformed
  | _ + 1, [c] => if c = '\x7b' ∨ c = '\x7d' then .error .malformed else .ok [c]
  | fuel + 1, c :: next :: rest => do
    if (c = '\x7b' ∨ c = '\x7d') ∧ next = c then return c :: (← fillText values nesting fuel rest)
    else if c = '\x7b' then
      let (field, others) ← takeField (next :: rest)
      let filling ← fillingOf values field.name
      let filling ← filling.convert field.conversion
      let layout ←
        if field.layout.contains '\x7b' then
          match nesting with
          | 0 => .error .malformed
          | nesting + 1 => fillText values nesting fuel field.layout
        else .ok field.layout
      return (← filling.layOut layout) ++ (← fillText values nesting fuel others)
    else if c = '\x7d' then .error .malformed
    else return c :: (← fillText values nesting fuel (next :: rest))

/-- Fills a template with values. -/
def fill (values : Values) (template : Text) : Except Problem Text :=
  fillText values 1 template.length.succ template

end ExternalFields.Template
