import ExternalFields.Text.Basic
import ExternalFields.Yaml.Cursor
import ExternalFields.Yaml.Tag

/-!
# Scalar styles

A text is written plain if it would read back as the same text, between apostrophes if it needs no
escapes, and between quotation marks otherwise.

* **`Style`**: the three ways
* **`Style.ofText`**: the way in which a text is written
-/

namespace ExternalFields.Yaml

/-- The ways to write a text. -/
inductive Style where
  | plain
  | single
  | double
  deriving DecidableEq, Repr

namespace Style

/-- The characters that need an escape. -/
def isSpecial (c : Char) : Bool :=
  let code := c.toNat
  !(c == '\n' || (0x20 ≤ code && code ≤ 0x7E) || code == 0x85
    || (0xA0 ≤ code && code ≤ 0xFFFD && code != 0xFEFF) || (0x10000 ≤ code && code < 0x10FFFF))

/-- White space around the indicators of YAML: a gap, or a NUL character. -/
def isSeparator (c : Char) : Bool := isGap c

/-- Whether nothing or white space comes first. -/
def startsBlank : List Char → Bool
  | [] => true
  | c :: _ => isSeparator c

/-- Whether a character at the start of a text, followed by `rest`, would be read as markup. -/
def isLeadingMarkup (c : Char) (rest : List Char) : Bool :=
  ['#', ',', '[', ']', '{', '}', '&', '*', '!', '|', '>', '\'', '"', '%', '@', '\u0060'].contains c
    || ((c == '?' || c == ':' || c == '-') && startsBlank rest)

/-- Whether markup would be read within a text: a colon before white space, or a hash after it. -/
def hasInnerMarkup (afterBlank : Bool) : List Char → Bool
  | [] => false
  | c :: rest =>
    (c == ':' && startsBlank rest) || (c == '#' && afterBlank)
      || hasInnerMarkup (isSeparator c) rest

/-- Whether any markup would be read in a text. -/
def hasMarkup (chars : List Char) : Bool :=
  match chars with
  | [] => false
  | c :: rest =>
    chars.take 3 == ['-', '-', '-'] || chars.take 3 == ['.', '.', '.']
      || isLeadingMarkup c rest || hasInnerMarkup (isSeparator c) rest

/-- Whether two neighbours fit `first` and `second`. -/
def hasPair (first second : Char → Bool) : List Char → Bool
  | a :: b :: rest => (first a && second b) || hasPair first second (b :: rest)
  | _ => false

/-- Whether a text reads back as itself without quotes. -/
def allowsPlain (chars : List Char) : Bool :=
  Tag.ofPlain chars == .text && !chars.any isBreak && !chars.any isSpecial
    && chars.head? != some ' ' && chars.getLast? != some ' ' && !hasMarkup chars

/-- Whether a text can stand between apostrophes: blanks next to line breaks would be lost. -/
def allowsSingle (chars : List Char) : Bool :=
  !chars.any isSpecial && !hasPair isBreak (· == ' ') chars && !hasPair (· == ' ') isBreak chars

/-- The way in which a text is written; as a simple key it stays on one line. Halves of pairs need
escapes. -/
def ofText (simpleKey : Bool) (text : Text) : Style :=
  let chars := text.chars
  if text.hasHalf then .double
  else if allowsPlain chars then .plain
  else if allowsSingle chars && !(simpleKey && chars.any isBreak) then .single
  else .double

end Style

end ExternalFields.Yaml
