import ExternalFields.Decimal.Binary64
import ExternalFields.Text.Template.Basic

/-!
# Layouts

How a value is laid out in a template: a fill character, an alignment, a sign, a form with its base
shown, zeros, a width, groups of digits, a precision, and a letter for the form, in this order. All
of it may be missing. Texts take only some of it.

* **`Layout`**, **`Layout.ofText?`**: layouts and how they are written
* **`Layout.ofString`**: a text laid out
* **`Numeral`**, **`Layout.numeral`**: the parts of a number in the form that is asked for
* **`Layout.ofNumber`**: a number laid out
-/

namespace ExternalFields.Template

/-- Where a value stands in a wider space. -/
inductive Alignment where
  | left
  | right
  | center
  /-- The space stands between the sign of a number and its digits. -/
  | inner
  deriving DecidableEq, Repr

/-- How a value is laid out. -/
structure Layout where
  fill : Option CodePoint := none
  alignment : Option Alignment := none
  sign : Option CodePoint := none
  /-- Whether a zero has no sign. -/
  isUnsigned : Bool := false
  /-- Whether the base of a number is shown, or the point of one without decimals. -/
  isExplicit : Bool := false
  /-- Whether zeros fill the space, there being no other fill character. -/
  hasZeros : Bool := false
  width : Option Nat := none
  /-- What parts groups of digits. -/
  separator : Option CodePoint := none
  precision : Option Nat := none
  form : Option CodePoint := none
  deriving Repr

namespace Layout

/-! ## Reading -/

/-- The alignment that a character asks for. -/
def alignmentOf? (c : CodePoint) : Option Alignment :=
  if c = '<' then some .left else if c = '>' then some .right
  else if c = '^' then some .center else if c = '=' then some .inner else none

/-- The fill character and the alignment at the start of a layout, and the rest. -/
def takeAlignment : Text → Option CodePoint × Option Alignment × Text
  | fill :: mark :: rest =>
    match alignmentOf? mark, alignmentOf? fill with
    | some alignment, _ => (some fill, some alignment, rest)
    | none, some alignment => (none, some alignment, mark :: rest)
    | none, none => (none, none, fill :: mark :: rest)
  | [mark] =>
    match alignmentOf? mark with
    | some alignment => (none, some alignment, [])
    | none => (none, none, [mark])
  | [] => (none, none, [])

/-- The first character of a text if it is one of those given, and the rest. -/
def takeOneOf (marks : Text) : Text → Option CodePoint × Text
  | c :: rest => if marks.contains c then (some c, rest) else (none, c :: rest)
  | [] => (none, [])

/-- The precision after a point, if there is a point, and the rest. -/
def takePrecision (text : Text) : Option (Option Nat × Text) :=
  match takeOneOf "." text with
  | (none, rest) => some (none, rest)
  | (some _, rest) =>
    match takeNumber rest with
    | some (some n, rest) => some (some n, rest)
    | _ => none

/-- The forms whose digits can be parted by a character. -/
def groupedForms (separator : CodePoint) : Text :=
  if separator = '_' then "deEfFgG%boxX" else "deEfFgG%"

/-- Reads a layout. -/
def ofText? (text : Text) : Option Layout := do
  let (fill, alignment, rest) := takeAlignment text
  let (sign, rest) := takeOneOf "+- " rest
  let (unsigned, rest) := takeOneOf "z" rest
  let (explicit, rest) := takeOneOf "#" rest
  let (zero, rest) := if fill.isSome then (none, rest) else takeOneOf "0" rest
  let (width, rest) ← takeNumber rest
  let (comma, rest) := takeOneOf "," rest
  let (line, rest) := takeOneOf "_" rest
  let (precision, rest) ← takePrecision rest
  let separator := comma.or line
  if rest.length ≤ 1 && !(comma.isSome && line.isSome) then
    some { fill, alignment, sign, isUnsigned := unsigned.isSome, isExplicit := explicit.isSome,
           hasZeros := zero.isSome, width, separator, precision, form := rest.head? }
  else none

/-- The fill character. -/
def filler (layout : Layout) : CodePoint :=
  layout.fill.getD (if layout.hasZeros then '0' else ' ')

/-- The widest layout. -/
def widest : Nat := 0xFFFFFFFF

/-! ## Texts -/

/-- Whether a layout is one of texts. -/
def isOfTexts (layout : Layout) : Bool :=
  layout.sign.isNone && !layout.isUnsigned && !layout.isExplicit && layout.separator.isNone
    && layout.alignment != some .inner && layout.form.all fun c : CodePoint => c == 's'

/-- How much of some space stands before a value. -/
def spaceBefore (space : Nat) : Alignment → Nat
  | .left | .inner => 0
  | .right => space
  | .center => space / 2

/-- Puts space around a value of a length, `inner` after the first part of it. -/
def spread (layout : Layout) (usual : Alignment) (first rest : Text) : Text :=
  let alignment := layout.alignment.getD usual
  let space := layout.width.getD 0 - (first.length + rest.length)
  let inner := if alignment = .inner then space else 0
  let before := spaceBefore space alignment
  let fill := fun count => List.replicate count layout.filler
  fill before ++ first ++ fill inner ++ rest ++ fill (space - before - inner)

/-- Lays out a text. -/
def ofString (layout : Layout) (text : Text) : Except Problem Text :=
  if !layout.isOfTexts then .error .malformed
  else if layout.width.any (widest < ·) then .error .tooWide
  else
    let kept := match layout.precision with
      | some precision => text.take precision
      | none => text
    .ok (layout.spread .left [] kept)

end Layout

/-! ## Forms of numbers -/

/-- A number in parts: what stands before its digits, the digits that can be grouped, and what
stands after them. -/
structure Numeral where
  start : Text := []
  digits : Text := []
  rest : Text := []

/-- So many zeros. -/
def zeros (count : Nat) : Text := List.replicate count '0'

/-- The digits of a number in a base. -/
def digitsIn (base n : Nat) : Text := Text.ofChars (Nat.toDigits base n)

/-- The first `decimals + 1` digits of a number, rounded, and the exponent of the first one. -/
def leadingDigits (n decimals : Nat) : Text × Nat :=
  let length := (Nat.toDigits 10 n).length
  if length ≤ decimals + 1 then
    (digitsIn 10 n ++ zeros (decimals + 1 - length), length - 1)
  else
    let digits := digitsIn 10 (Binary64.roundHalfEven n (Nat.pow 10 (length - (decimals + 1))))
    (digits.take (decimals + 1), length - 1 + (digits.length - (decimals + 1)))

/-- The decimals after a point, which stands by itself only if that is asked for. -/
def pointed (isExplicit : Bool) (decimals : Text) : Text :=
  if decimals.isEmpty && !isExplicit then [] else "." ++ decimals

/-- The letter and the digits of an exponent, two digits at least. -/
def exponentText (letter : CodePoint) (exponent : Nat) : Text :=
  [letter] ++ "+" ++ (if exponent < 10 then "0" else "") ++ Text.ofNat exponent

/-- A text without the zeros at its end. -/
def withoutZeros (digits : Text) : Text :=
  (digits.reverse.dropWhile fun c : CodePoint => c == '0').reverse

/-- A number in capitals. -/
def Numeral.capital (numeral : Numeral) : Numeral :=
  let upper := fun text : Text => Text.ofChars (text.chars.map Char.toUpper)
  { start := upper numeral.start, digits := upper numeral.digits, rest := upper numeral.rest }

namespace Layout

/-- A number with a point and so many decimals. -/
def fixed (layout : Layout) (n decimals : Nat) : Numeral where
  digits := digitsIn 10 n
  rest := pointed layout.isExplicit (zeros decimals)

/-- A number with one digit before the point and an exponent. -/
def scientific (layout : Layout) (n decimals : Nat) : Numeral :=
  let (digits, exponent) := leadingDigits n decimals
  { digits := digits.take 1
    rest := pointed layout.isExplicit (digits.drop 1) ++ exponentText 'e' exponent }

/-- A number with so many digits that count, without an exponent if they reach to the point. Zeros
at the end do not count, and no number has more decimal digits than binary ones. -/
def general (layout : Layout) (n count : Nat) : Numeral :=
  let decimals := if layout.isExplicit then count - 1 else min (count - 1) n.log2
  let (digits, exponent) := leadingDigits n decimals
  let kept := if layout.isExplicit then id else withoutZeros
  if exponent < max count 1 then
    { digits := digits.take (exponent + 1)
      rest := pointed layout.isExplicit (kept (digits.drop (exponent + 1))) }
  else
    { digits := digits.take 1
      rest := pointed layout.isExplicit (kept (digits.drop 1)) ++ exponentText 'e' exponent }

/-- A whole number in a base, whose mark is shown if that is asked for. -/
def whole (layout : Layout) (mark : Text) (base n : Nat) : Numeral where
  start := if layout.isExplicit then mark else []
  digits := digitsIn base n

/-- The greatest number of decimals. -/
def mostDecimals : Nat := 0x7FFFFFFF

/-- Whole numbers have no decimals, and no sign that a zero could lose. -/
def checkWhole (layout : Layout) : Except Problem Unit :=
  if layout.precision.isSome || layout.isUnsigned then .error .malformed else .ok ()

/-- There is an end to decimals. -/
def checkDecimals (layout : Layout) : Except Problem Unit :=
  if layout.precision.any (mostDecimals < ·) then .error .malformed else .ok ()

/-- Characters have no sign and no base. -/
def checkCharacter (layout : Layout) : Except Problem Unit :=
  if layout.sign.isSome || layout.isExplicit then .error .malformed else layout.checkWhole

/-- A number in the form that a layout asks for, if there is such a form. Forms with decimals round
it first. -/
def numeral (layout : Layout) (n : Nat) : Except Problem Numeral := do
  let decimals := layout.precision.getD 6
  let rounded := Binary64.roundWhole n
  match layout.form.map CodePoint.char with
  | none | some 'd' | some 'n' => do layout.checkWhole; return layout.whole [] 10 n
  | some 'b' => do layout.checkWhole; return layout.whole "0b" 2 n
  | some 'o' => do layout.checkWhole; return layout.whole "0o" 8 n
  | some 'x' => do layout.checkWhole; return layout.whole "0x" 16 n
  | some 'X' => do layout.checkWhole; return (layout.whole "0x" 16 n).capital
  | some 'c' => do
    layout.checkCharacter
    match CodePoint.ofNat? n with
    | some c => return { rest := [c] }
    | none => .error .noCharacter
  | some 'e' => do layout.checkDecimals; return layout.scientific rounded decimals
  | some 'E' => do layout.checkDecimals; return (layout.scientific rounded decimals).capital
  | some 'f' | some 'F' => do layout.checkDecimals; return layout.fixed rounded decimals
  | some 'g' => do layout.checkDecimals; return layout.general rounded decimals
  | some 'G' => do layout.checkDecimals; return (layout.general rounded decimals).capital
  | some '%' => do
    layout.checkDecimals
    let numeral := layout.fixed (Binary64.roundWhole (100 * rounded)) decimals
    return { numeral with rest := numeral.rest ++ "%" }
  | some _ => .error .malformed

/-! ## Numbers -/

/-- Whether the digits of the form can be parted as asked for. -/
def isGroupable (layout : Layout) : Bool :=
  layout.separator.all fun separator => layout.form.all (groupedForms separator).contains

/-- How many digits a group holds. -/
def groupSize (layout : Layout) : Nat :=
  if layout.form.all ("deEfFgG%" : Text).contains then 3 else 4

/-- Digits in groups, all of it backwards, with zeros until there are `least` characters. -/
def groupsOf (size : Nat) (separator : CodePoint) : Nat → Text → Nat → Text
  | 0, digits, _ => digits
  | fuel + 1, digits, least =>
    let length := min size (max (max digits.length least) 1)
    let group := digits.take length ++ zeros (length - digits.length)
    let others := digits.drop length
    if others.isEmpty && least ≤ length then group
    else group ++ separator :: groupsOf size separator fuel others (least - length - 1)

/-- Digits, in groups if that is asked for, with zeros until there are `least` characters. -/
def grouped (layout : Layout) (digits : Text) (least : Nat) : Text :=
  match layout.separator with
  | none => zeros (least - digits.length) ++ digits
  | some separator =>
    (groupsOf layout.groupSize separator (digits.length + least) digits.reverse least).reverse

/-- Lays out a number. -/
def ofNumber (layout : Layout) (n : Nat) : Except Problem Text := do
  if !layout.isGroupable then .error .malformed
  let numeral ← layout.numeral n
  if layout.width.any (widest < ·) then .error .tooWide
  let sign := layout.sign.filter fun c : CodePoint => c != '-'
  let start := sign.toList ++ numeral.start
  let usual := if layout.hasZeros then .inner else .right
  let room := layout.width.getD 0 - (start.length + numeral.rest.length)
  let least := if layout.filler = '0' && layout.alignment.getD usual = .inner then room else 0
  let digits := if numeral.digits.isEmpty then [] else layout.grouped numeral.digits least
  return layout.spread usual start (digits ++ numeral.rest)

end Layout

end ExternalFields.Template
