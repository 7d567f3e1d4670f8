import ExternalFields.Decimal.Reading
import ExternalFields.Text.Blank

/-!
# Tags

The tag of a node says what kind of data it is. A plain scalar without a tag gets the tag whose
pattern its text fits; text that fits none is text.

* **`Tag`**: the kinds of data
* **`Tag.ofPlain`**: the kind of a plain scalar
* **`Tag.ofUri`**: the kind that a written tag names
-/

namespace ExternalFields.Yaml

/-- The kinds of data. `merge` and `standard` are those of the keys `<<` and `=`. -/
inductive Tag where
  | null
  | bool
  | int
  | float
  | text
  | binary
  | timestamp
  | list
  | mapping
  | set
  | pairs
  | orderedPairs
  | merge
  | standard
  | unknown (uri : String)
  deriving DecidableEq, Repr, Inhabited

namespace Tag

/-- The namespace of the kinds that every document knows. -/
def coreSpace : String := "tag:yaml.org,2002:"

/-- The name of a known kind. -/
def name : Tag → String
  | .null => "null"
  | .bool => "bool"
  | .int => "int"
  | .float => "float"
  | .text => "str"
  | .binary => "binary"
  | .timestamp => "timestamp"
  | .list => "seq"
  | .mapping => "map"
  | .set => "set"
  | .pairs => "pairs"
  | .orderedPairs => "omap"
  | .merge => "merge"
  | .standard => "value"
  | .unknown uri => uri

/-- The known kinds. -/
def known : List Tag :=
  [.null, .bool, .int, .float, .text, .binary, .timestamp, .list, .mapping, .set, .pairs,
    .orderedPairs, .merge, .standard]

/-- The kind that a written tag names. -/
def ofUri (uri : String) : Tag :=
  match known.find? (fun tag => coreSpace ++ tag.name == uri) with
  | some tag => tag
  | none => .unknown uri

/-- A known kind as it is written in front of a node. -/
def short (tag : Tag) : String := "!!" ++ tag.name

/-- Whether data of a kind is a single text, number or the like. -/
def isScalar (tag : Tag) : Bool :=
  [Tag.null, .bool, .int, .float, .text, .binary, .timestamp].contains tag

/-- Whether data of a kind is made up of other data. -/
def isCollection (tag : Tag) : Bool :=
  [Tag.list, .mapping, .set, .pairs, .orderedPairs].contains tag

/-! ## Patterns of plain scalars -/

/-- A digit of a base, or the underscore that may separate digits. -/
def isSpacedDigit (base : Nat) (c : Char) : Bool :=
  isDigitOf base c || c == '_'

/-- A non-empty run of digits of a base with underscores. -/
def isSpacedRun (base : Nat) (chars : List Char) : Bool :=
  !chars.isEmpty && chars.all (isSpacedDigit base)

/-- Digits with underscores, the first one a digit. -/
def isDecimalRun : List Char → Bool
  | [] => false
  | first :: rest => isDigitOf 10 first && rest.all (isSpacedDigit 10)

/-- Digits with underscores, the first one a digit other than zero. -/
def isCountingRun : List Char → Bool
  | [] => false
  | first :: rest => first != '0' && isDecimalRun (first :: rest)

/-- The parts of a text between its colons. -/
def splitColons : List Char → List (List Char)
  | [] => [[]]
  | c :: rest =>
    if c = ':' then [] :: splitColons rest
    else
      match splitColons rest with
      | [] => [[c]]
      | part :: parts => (c :: part) :: parts

/-- A place of a number to the base sixty after the first: below sixty, in one or two digits. -/
def isSixtieth : List Char → Bool
  | [ones] => isDigitOf 10 ones
  | [tens, ones] => isDigitOf 6 tens && isDigitOf 10 ones
  | _ => false

/-- A number to the base sixty, of at least two places, whose first place fits `isFirst`. -/
def isSexagesimal (isFirst : List Char → Bool) (chars : List Char) : Bool :=
  match splitColons chars with
  | first :: second :: rest => isFirst first && isSixtieth second && rest.all isSixtieth
  | _ => false

/-- Binary, octal, decimal, hexadecimal and base-sixty numbers. -/
def isInt (chars : List Char) : Bool :=
  let digits := (splitSign chars).2
  match digits with
  | ['0'] => true
  | '0' :: 'b' :: rest => isSpacedRun 2 rest
  | '0' :: 'x' :: rest => isSpacedRun 16 rest
  | '0' :: rest => isSpacedRun 8 rest
  | _ => isCountingRun digits || isSexagesimal isCountingRun digits

/-- An exponent with its sign, or nothing. -/
def isExponent : List Char → Bool
  | [] => true
  | mark :: sign :: digits =>
    (mark == 'e' || mark == 'E') && (sign == '-' || sign == '+') && !digits.isEmpty
      && digits.all (isDigitOf 10)
  | _ => false

/-- What may follow the point of a number: digits with underscores, and an exponent. -/
def isFraction (chars : List Char) : Bool :=
  isExponent (chars.dropWhile (isSpacedDigit 10))

/-- Decimals with a point, base-sixty numbers with a point, infinities and not-a-number. -/
def isFloat (chars : List Char) : Bool :=
  let (negative, unsigned) := splitSign chars
  let hasSign := negative || chars.head? == some '+'
  let whole := unsigned.takeWhile (· != '.')
  match unsigned.dropWhile (· != '.') with
  | [] => false
  | _ :: fraction =>
    if whole.isEmpty then
      fraction == ['i', 'n', 'f'] || fraction == ['I', 'n', 'f'] || fraction == ['I', 'N', 'F']
        || (!hasSign && (fraction == ['n', 'a', 'n'] || fraction == ['N', 'a', 'N']
          || fraction == ['N', 'A', 'N']
          || (fraction.head?.any (isDigitOf 10) && isFraction fraction)))
    else
      (isDecimalRun whole && isFraction fraction)
        || (isSexagesimal isDecimalRun whole && fraction.all (isSpacedDigit 10))

/-- The words that are null. -/
def nullWords : List String := ["", "~", "null", "Null", "NULL"]

/-- The words for true, in lower case. -/
def trueWords : List String := ["yes", "true", "on"]

/-- The words for false, in lower case. -/
def falseWords : List String := ["no", "false", "off"]

/-- A word in lower case, with a capital, and in capitals. -/
def casings (word : String) : List String :=
  [word, word.capitalize, word.map Char.toUpper]

/-- The words that are truth values. -/
def isBool (chars : List Char) : Bool :=
  ((trueWords ++ falseWords).flatMap casings).contains (String.ofList chars)

end Tag

/-! ## Points in time -/

/-- A written day or point in time, its parts as the digits stand there. -/
structure TimestampParts where
  year : List Char
  month : List Char
  day : List Char
  /-- Hour, minute and second. -/
  clock : Option (List Char × List Char × List Char) := none
  fraction : List Char := []
  /-- Whether the zone is universal time or lies behind it, with its hours and minutes. -/
  zone : Option (Bool × List Char × List Char) := none

namespace TimestampParts

/-- Takes at least `least` and at most `most` digits. -/
def takeDigits (least most : Nat) (chars : List Char) : Option (List Char × List Char) :=
  let digits := (chars.take most).takeWhile (isDigitOf 10)
  if digits.length < least then none else some (digits, chars.drop digits.length)

/-- Takes one given character. -/
def takeChar (c : Char) : List Char → Option (List Char)
  | first :: rest => if first = c then some rest else none
  | [] => none

/-- Whether a character is a blank or a tab. -/
def isSpacing (c : Char) : Bool := c == ' ' || c == '\t'

/-- The zone at the end of a point in time. -/
def zoneOf? (chars : List Char) : Option (Option (Bool × List Char × List Char)) :=
  match chars.dropWhile isSpacing with
  | [] => if chars.isEmpty then some none else none
  | 'Z' :: rest => if rest.isEmpty then some (some (false, [], [])) else none
  | sign :: rest =>
    if sign = '-' ∨ sign = '+' then do
      let (hours, rest) ← takeDigits 1 2 rest
      match rest with
      | [] => some (some (sign == '-', hours, []))
      | _ =>
        let rest ← takeChar ':' rest
        let (minutes, rest) ← takeDigits 2 2 rest
        if rest.isEmpty then some (some (sign == '-', hours, minutes)) else none
    else none

/-- Minute, second, fraction and zone after the hour of a point in time. -/
def clockOf? (parts : TimestampParts) (hour rest : List Char) : Option TimestampParts := do
  let rest ← takeChar ':' rest
  let (minute, rest) ← takeDigits 2 2 rest
  let rest ← takeChar ':' rest
  let (second, rest) ← takeDigits 2 2 rest
  let (fraction, rest) := match rest with
    | '.' :: tail => (tail.takeWhile (isDigitOf 10), tail.dropWhile (isDigitOf 10))
    | tail => ([], tail)
  let zone ← zoneOf? rest
  some { parts with clock := some (hour, minute, second), fraction, zone }

/-- The parts of a written day or point in time. A day alone is taken with one or two digits for
month and day. -/
def ofLine? (chars : List Char) : Option TimestampParts := do
  let (year, rest) ← takeDigits 4 4 chars
  let rest ← takeChar '-' rest
  let (month, rest) ← takeDigits 1 2 rest
  let rest ← takeChar '-' rest
  let (day, rest) ← takeDigits 1 2 rest
  let parts : TimestampParts := { year, month, day }
  match rest with
  | [] => some parts
  | separator :: tail =>
    if separator = 'T' ∨ separator = 't' then do
      let (hour, tail) ← takeDigits 1 2 tail
      parts.clockOf? hour tail
    else if isSpacing separator then do
      let (hour, tail) ← takeDigits 1 2 (tail.dropWhile isSpacing)
      parts.clockOf? hour tail
    else none

/-- The parts of a written day or point in time, after which a line may end. -/
def ofChars? (chars : List Char) : Option TimestampParts :=
  ofLine? (Text.dropLineFeed chars)

/-- Whether the parts are those of a plain scalar: a day alone has two digits for month and day. -/
def isPlain (parts : TimestampParts) : Bool :=
  parts.clock.isSome || (parts.month.length = 2 && parts.day.length = 2)

end TimestampParts

/-! ## Resolution -/

/-- The indicators that are a kind of text by themselves. -/
def Tag.indicators : List Char := ['!', '&', '*']

/-- The kind of text that is such an indicator. No data is of this kind. -/
def Tag.indicator : Tag := .unknown (coreSpace ++ "yaml")

/-- The kind of a line of text without a tag. -/
def Tag.ofLine (chars : List Char) : Tag :=
  if nullWords.contains (String.ofList chars) then .null
  else if isBool chars then .bool
  else if isFloat chars then .float
  else if isInt chars then .int
  else if (TimestampParts.ofLine? chars).any TimestampParts.isPlain then .timestamp
  else if chars = ['<', '<'] then .merge
  else if chars = ['='] then .standard
  else if indicators.any (fun c => chars = [c]) then .indicator
  else .text

/-- The kind of a plain scalar without a tag. The end of the line after it does not count. -/
def Tag.ofPlain (chars : List Char) : Tag :=
  if chars = ['\n'] then .text else ofLine (Text.dropLineFeed chars)

end ExternalFields.Yaml
