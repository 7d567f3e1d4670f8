import ExternalFields.Text.Quoted
import ExternalFields.Text.Template.Kind
import ExternalFields.Text.Template.Layout

/-!
# Fillings

What the fields of templates stand for: a text, or anything that can be reached from a text by its
properties and parts. Numbers, tuples and kinds are among them, and the members of kinds, by
themselves or bound to a value.

* **`Filling`**, **`Filling.ownKind`**: fillings and their kinds
* **`Filling.shown`**: a filling as it is shown
* **`Filling.property`**, **`Filling.part`**: what can be reached from a filling
* **`Filling.layOut`**: a filling laid out
-/

namespace ExternalFields.Template

/-- What a field stands for. -/
inductive Filling where
  | text (text : Text)
  | number (n : Nat)
  | flag (value : Bool)
  | nothing
  | tuple (items : List Filling)
  | kind (k : Kind)
  /-- A kind with an argument in brackets. -/
  | applied (k : Kind) (argument : Filling)
  /-- The entries of a kind. -/
  | entries (k : Kind)
  /-- A member of a kind, by itself. -/
  | member (owner : Kind) (sort : MemberSort) (name : String)
  /-- A slot of a kind, bound to a value. -/
  | boundSlot (owner : Kind) (name : String) (self : Filling)
  /-- A method, bound to a value or a kind. -/
  | boundMethod (name : String) (self : Filling)

namespace Filling

/-- The kind of a filling. -/
def ownKind : Filling → Kind
  | .text _ => .text
  | .number _ => .number
  | .flag _ => .flag
  | .nothing => .nothing
  | .tuple _ => .tuple
  | .kind _ => .kind
  | .applied .. => .applied
  | .entries _ => .entries
  | .member _ sort _ => sort.kind
  | .boundSlot .. => .boundSlot
  | .boundMethod .. => .boundMethod

/-! ## How fillings are shown -/

/-- A kind as it is shown. -/
def kindText (k : Kind) : Text := "<class '" ++ k.facts.fullName ++ "'>"

/-- A member of a kind as it is shown. -/
def memberText (owner : Kind) (sort : MemberSort) (name : String) : Text :=
  let called := match sort with
    | .slot => "slot wrapper"
    | .method | .kindMethod => "method"
    | .property => "attribute"
    | .field => "member"
  "<" ++ called ++ " '" ++ name ++ "' of '" ++ owner.facts.fullName ++ "' objects>"

/-- The entries of a kind as they are shown: its members, by name. -/
def entriesText (k : Kind) : Text :=
  let entry := fun (member : MemberSort × String) =>
    "'" ++ (member.2 : Text) ++ "': " ++ memberText k member.1 member.2
  "\x7b" ++ List.intercalate (", " : Text) (k.members.map entry) ++ "\x7d"

mutual

/-- A filling as it is shown with quotes around texts. What is bound is shown without its place in
memory. -/
def quoted (quote : Text → Text) : Filling → Text
  | .text s => quote s
  | .number n => Text.ofNat n
  | .flag value => if value then "True" else "False"
  | .nothing => "None"
  | .tuple items =>
    "(" ++ List.intercalate ", " (quotedAll quote items)
      ++ (if items.length = 1 then "," else "") ++ ")"
  | .kind k => kindText k
  | .applied k argument => k.facts.fullName ++ "[" ++ argument.quoted quote ++ "]"
  | .entries k => Kind.entries.facts.fullName ++ "(" ++ entriesText k ++ ")"
  | .member owner sort name => memberText owner sort name
  | .boundSlot _ name self =>
    "<method-wrapper '" ++ name ++ "' of " ++ self.ownKind.facts.name ++ " object>"
  | .boundMethod name self =>
    "<built-in method " ++ name ++ " of " ++ self.ownKind.facts.name ++ " object>"

/-- Several fillings as they are shown with quotes around texts. -/
def quotedAll (quote : Text → Text) : List Filling → List Text
  | [] => []
  | filling :: rest => filling.quoted quote :: quotedAll quote rest

end

/-- A filling as it is shown. -/
def shown : Filling → Text
  | .text s => s
  | .entries k => entriesText k
  | filling => filling.quoted Text.quote

/-! ## Properties -/

/-- A note, or nothing. -/
def ofNote : Option String → Filling
  | some note => .text note
  | none => .nothing

/-- What is told about a kind. If that is nothing, the kind may still have a property for what is
told about its values. -/
def noteOf (k : Kind) : Filling :=
  match k.facts.note, k.entry? "__doc__" with
  | none, some (.member sort) => .member k sort "__doc__"
  | note, _ => ofNote note

/-- Several kinds. -/
def ofKinds (kinds : List Kind) : Filling := .tuple (kinds.map .kind)

/-- The property or field of a filling that has a name, if it can be worked out. -/
def worked? (filling : Filling) (name : String) : Option Filling :=
  if name = "__class__" then some (.kind filling.ownKind)
  else
    match filling, name with
    | .number n, "real" | .number n, "numerator" => some (.number n)
    | .number _, "imag" => some (.number 0)
    | .number _, "denominator" => some (.number 1)
    | .flag b, "real" | .flag b, "numerator" => some (.number b.toNat)
    | .flag _, "imag" => some (.number 0)
    | .flag _, "denominator" => some (.number 1)
    | .kind k, "__name__" | .kind k, "__qualname__" => some (.text k.facts.name)
    | .kind k, "__module__" => some (.text k.facts.home)
    | .kind k, "__doc__" => some (noteOf k)
    | .kind k, "__text_signature__" => some (ofNote k.facts.signature)
    | .kind k, "__dict__" => some (.entries k)
    | .kind k, "__mro__" => some (ofKinds k.line)
    | .kind k, "__bases__" => some (ofKinds (k.line.drop 1 |>.take 1))
    | .kind k, "__base__" => some ((k.line[1]?).elim .nothing .kind)
    | .kind k, "__basicsize__" => some (.number k.facts.size)
    | .kind k, "__itemsize__" => some (.number k.facts.itemSize)
    | .kind k, "__flags__" => some (.number k.facts.flags)
    | .kind k, "__weakrefoffset__" => some (.number k.facts.weakOffset)
    | .kind k, "__dictoffset__" => some (.number k.facts.tableOffset)
    | .applied k _, "__origin__" => some (.kind k)
    | .applied _ argument, "__args__" => some (.tuple [argument])
    | .applied .., "__unpacked__" => some (.flag false)
    | .applied .., "__parameters__" => some (.tuple [])
    | .applied .., "__typing_unpacked_tuple_args__" => some .nothing
    | .member owner .., "__objclass__" => some (.kind owner)
    | .member _ _ own, "__name__" => some (.text own)
    | .member owner _ own, "__qualname__" => some (.text (owner.facts.name ++ "." ++ own))
    | .boundSlot owner .., "__objclass__" => some (.kind owner)
    | .boundSlot _ own _, "__name__" => some (.text own)
    | .boundSlot owner own _, "__qualname__" => some (.text (owner.facts.name ++ "." ++ own))
    | .boundSlot _ _ self, "__self__" => some self
    | .boundMethod own _, "__name__" => some (.text own)
    | .boundMethod own self, "__qualname__" =>
      let place := match self with
        | .kind k => k
        | _ => self.ownKind
      some (.text (place.facts.name ++ "." ++ own))
    | .boundMethod own self, "__self__" => some (if own = "maketrans" then .nothing else self)
    | .boundMethod .., "__module__" => some .nothing
    | _, _ => none

/-- An entry of the kind `owner`, as it is found among the entries. -/
def ofEntry (owner : Kind) (name : String) : Entry → Filling
  | .member sort => .member owner sort name
  | .maker | .helper => .boundMethod name (.kind owner)
  | .note note => ofNote note

/-- What an entry of the kind `owner` is for a value of a kind that descends from it. -/
def bound? (self : Filling) (owner : Kind) (name : String) : Entry → Option Filling
  | .member .slot => some (.boundSlot owner name self)
  | .member .method => some (.boundMethod name self)
  | .member .kindMethod => some (.boundMethod name (.kind self.ownKind))
  | .member .property | .member .field => self.worked? name
  | entry => some (ofEntry owner name entry)

/-- What an entry of the kind `owner` is for a kind that descends from it. -/
def ofKindEntry (k owner : Kind) (name : String) : Entry → Filling
  | .member .kindMethod => .boundMethod name (.kind k)
  | entry => ofEntry owner name entry

/-- What a name stands for, given a kind: the properties and fields that all kinds have come first,
then what the kind has for its values, then what else all kinds have. -/
def ofKind? (k : Kind) (name : String) : Option Filling :=
  match Kind.kind.find? name, k.find? name with
  | some (_, .member .property), _ | some (_, .member .field), _ => worked? (.kind k) name
  | _, some (owner, entry) => some (ofKindEntry k owner name entry)
  | some (owner, entry), none => bound? (.kind k) owner name entry
  | none, none => none

/-- What a kind with an argument has of its own. Anything else is left to the kind. -/
def ownNames : List String :=
  ["__class__", "__origin__", "__args__", "__unpacked__", "__parameters__",
    "__typing_unpacked_tuple_args__", "__mro_entries__", "__reduce_ex__", "__reduce__", "__copy__",
    "__deepcopy__"]

/-- What a name stands for, given a value that is not a kind. -/
def ofValue? (filling : Filling) (name : String) : Option Filling := do
  let (owner, entry) ← filling.ownKind.find? name
  bound? filling owner name entry

/-- A property of a filling. -/
def property (filling : Filling) (name : Text) : Except Problem Filling :=
  let found := match filling with
    | .kind k => ofKind? k name.string
    | .applied k _ =>
      if ownNames.contains name.string then filling.ofValue? name.string
      else ofKind? k name.string
    | _ => filling.ofValue? name.string
  match found with
  | some property => .ok property
  | none => .error .noProperty

/-! ## Parts -/

/-- The item of a list at an index. -/
def item {α : Type} (items : List α) (index : Nat) : Except Problem α :=
  match items[index]? with
  | some item => .ok item
  | none => .error .outOfRange

/-- Whether a kind can take an argument in brackets. -/
def takesArgument (k : Kind) : Bool :=
  k == .kind || (k.find? "__class_getitem__").isSome

/-- The part of a filling at an index: a character of a text, an item of a tuple, an entry of a
kind, or a kind with its argument. -/
def part (filling : Filling) (index : Text) : Except Problem Filling := do
  match filling, ← numberOf? index with
  | .text s, some n => return .text [← item s n]
  | .tuple items, some n => item items n
  | .kind k, n? =>
    if takesArgument k then .ok (.applied k (n?.elim (.text index) .number))
    else .error .notIndexable
  | .entries _, some _ => .error (.unknownName index)
  | .entries k, none =>
    match k.entry? index.string with
    | some entry => .ok (ofEntry k index.string entry)
    | none => .error (.unknownName index)
  | _, _ => .error .notIndexable

/-! ## Laying out -/

/-- What a filling is turned into before it is laid out. -/
def convert (filling : Filling) : Option CodePoint → Except Problem Filling
  | none => .ok filling
  | some c =>
    if c = 's' then .ok (.text filling.shown)
    else if c = 'r' then .ok (.text (filling.quoted Text.quote))
    else if c = 'a' then .ok (.text (filling.quoted Text.quoteAscii))
    else .error .malformed

/-- Lays out a filling. Only texts and numbers can be laid out in any but the usual way. -/
def layOut (filling : Filling) (layout : Text) : Except Problem Text :=
  match filling with
  | .text s => do (← read).ofString s
  | .number n => do (← read).ofNumber n
  | .flag value => if layout.isEmpty then .ok filling.shown else do (← read).ofNumber value.toNat
  | _ => if layout.isEmpty then .ok filling.shown else .error .notText
where
  /-- The layout that is written. -/
  read : Except Problem Layout :=
    match Layout.ofText? layout with
    | some layout => .ok layout
    | none => .error .malformed

end Filling

end ExternalFields.Template
