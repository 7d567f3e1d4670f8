import ExternalFields.Yaml.Value

/-!
# Going through a document

The classes of characters that the form of a document rests on, a place in its text, and the steps
that go on from there. Steps fail on text that is not YAML.

* **`isBreak`**: the characters that end a line inside a scalar
* **`isGap`**: the characters that separate tokens
* **`isAllowed`**: the characters that a document may hold
* **`Cursor`**: a place in a text
* **`Scan`**: steps through a text
-/

namespace ExternalFields.Yaml

/-! ## Characters -/

/-- The characters that end a line: line feed, next line, line and paragraph separator. -/
def isBreak (c : Char) : Bool :=
  c == '\n' || c == '\u0085' || c == '\u2028' || c == '\u2029'

/-- A line break, or the carriage return that may stand before one. -/
def isLineEnd (c : Char) : Bool :=
  isBreak c || c == '\r'

/-- The end of the text, which reads as NUL, or the end of a line. -/
def isEnd (c : Char) : Bool :=
  isLineEnd c || c == '\x00'

/-- A blank, or the end of a line or of the text. -/
def isBlankOrEnd (c : Char) : Bool :=
  isEnd c || c == ' '

/-- A blank, a tab, or the end of a line or of the text. -/
def isGap (c : Char) : Bool :=
  isBlankOrEnd c || c == '\t'

/-- Whether a document may hold a character: control characters other than tab and line ends, and
the last code points of the first plane are refused. -/
def isAllowed (c : Char) : Bool :=
  let code := c.toNat
  c == '\t' || c == '\n' || c == '\r' || (0x20 ≤ code && code ≤ 0x7E) || code == 0x85
    || (0xA0 ≤ code && code ≤ 0xFFFD) || 0x10000 ≤ code

/-! ## Places -/

/-- A place in a text of `size` characters: what is left of it, and where that starts. -/
structure Cursor where
  rest : List Char
  size : Nat
  index : Nat := 0
  line : Nat := 0
  column : Nat := 0

namespace Cursor

/-- The start of a text. -/
def ofText (chars : List Char) : Cursor := { rest := chars, size := chars.length }

/-- The number of characters left. No walk through the text takes more steps. -/
def left (cursor : Cursor) : Nat := cursor.size - cursor.index

/-- The character `ahead` places on; NUL beyond the end of the text. -/
def peek (cursor : Cursor) (ahead : Nat := 0) : Char :=
  cursor.rest.getD ahead '\x00'

/-- Whether a line ends with the character `c` before `rest`: a carriage return leaves that to the
line feed after it. -/
def endsLine (c : Char) (rest : List Char) : Bool :=
  isBreak c || (c == '\r' && rest.head? != some '\n')

/-- Goes on by one character. Byte order marks take no column. -/
def next (cursor : Cursor) : Cursor :=
  match cursor.rest with
  | [] => cursor
  | c :: rest =>
    if endsLine c rest then
      { cursor with rest, index := cursor.index + 1, line := cursor.line + 1, column := 0 }
    else
      { cursor with
        rest
        index := cursor.index + 1
        column := if c == '\uFEFF' then cursor.column else cursor.column + 1 }

/-- Goes on by some characters. -/
def skip (cursor : Cursor) : Nat → Cursor
  | 0 => cursor
  | count + 1 => cursor.next.skip count

/-- Whether a document marker stands here: three dashes or dots before a gap. -/
def atMarker (cursor : Cursor) (c : Char) : Bool :=
  cursor.rest.take 3 == [c, c, c] && isGap (cursor.peek 3)

/-- Whether either document marker stands here. -/
def atAnyMarker (cursor : Cursor) : Bool :=
  cursor.atMarker '-' || cursor.atMarker '.'

end Cursor

/-! ## Steps -/

/-- Steps through a text, with a result. -/
abbrev Scan := StateT Cursor (Except ReadError)

namespace Scan

/-- Fails, the text not being YAML. -/
def fail {α : Type} : Scan α := throw .malformed

/-- Fails unless a condition holds. -/
def require (condition : Bool) : Scan Unit :=
  if condition then pure () else fail

/-- The character `ahead` places on. -/
def peek (ahead : Nat := 0) : Scan Char :=
  return (← get).peek ahead

/-- Goes on by some characters. -/
def skip (count : Nat := 1) : Scan Unit :=
  modify (·.skip count)

/-- Takes the characters up to the first one that does not fit. -/
def takeWhile (fits : Char → Bool) : Scan (List Char) := do
  let taken := (← get).rest.takeWhile fits
  skip taken.length
  return taken

/-- Takes the line end that stands here, if there is one. Those of ASCII and the next-line
character count as line feeds. -/
def lineEnd : Scan (Option Char) := do
  let c ← peek
  if c == '\r' || c == '\n' || c == '\u0085' then
    skip (if c == '\r' && (← peek 1) == '\n' then 2 else 1)
    return some '\n'
  else if isBreak c then
    skip
    return some c
  else return none

/-- Goes on over a comment, if one starts here. -/
def comment : Scan Unit := do
  if (← peek) == '#' then discard <| takeWhile (!isEnd ·)

/-- Goes on over blanks, a comment and the end of the line; anything else there is an error. -/
def restOfLine : Scan Unit := do
  discard <| takeWhile (· == ' ')
  comment
  require (isEnd (← peek))
  discard lineEnd

end Scan

end ExternalFields.Yaml
