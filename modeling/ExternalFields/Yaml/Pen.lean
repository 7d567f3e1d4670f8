import ExternalFields.Text.Utf8
import ExternalFields.Yaml.Cursor

/-!
# Laying out text

The place where the next character of a document is written. Long scalars are broken at blanks
once a line is wider than 80 columns, and continued at an indentation.

* **`Pen`**: the text so far and where its last line stands
* **`Pen.indicator`**, **`Pen.indentTo`**: markup and line starts
* **`Pen.plain`**, **`Pen.single`**, **`Pen.double`**: scalars in each style
-/

namespace ExternalFields.Yaml

/-- The text written so far. `column` is the length of its last line; `spaced` says that no blank
is needed before the next token, `fresh` that the last line holds nothing but markup that a
collection may follow on the same line. -/
structure Pen where
  text : String := ""
  column : Nat := 0
  spaced : Bool := true
  fresh : Bool := true
  deriving Inhabited

namespace Pen

/-- The width beyond which lines are broken. -/
def bestWidth : Nat := 80

/-! ## Strokes -/

/-- Writes characters that do not end the line. -/
def put (pen : Pen) (s : String) : Pen :=
  { pen with text := pen.text ++ s, column := pen.column + s.length }

/-- Writes characters that do not end the line. -/
def putChars (pen : Pen) (chars : List Char) : Pen :=
  pen.put (String.ofList chars)

/-- Ends the line with a line break. -/
def lineBreak (pen : Pen) (c : Char) : Pen :=
  { text := pen.text.push c, column := 0, spaced := true, fresh := true }

/-- Goes to a column at the start of a line: a new line, unless this one is still empty enough. -/
def indentTo (pen : Pen) (indent : Nat) : Pen :=
  let pen :=
    if !pen.fresh || indent < pen.column || (pen.column == indent && !pen.spaced) then
      pen.lineBreak '\n'
    else pen
  if pen.column < indent then
    { pen.put (String.ofList (List.replicate (indent - pen.column) ' ')) with spaced := true }
  else pen

/-- Writes markup, after a blank if one is `needed` to set it off. -/
def indicator (pen : Pen) (mark : String) (needed : Bool) (keepsFresh : Bool := false) : Pen :=
  let written := pen.put (if pen.spaced || !needed then mark else " " ++ mark)
  { written with spaced := false, fresh := pen.fresh && keepsFresh }

/-- States that the last line ends in text. -/
def settled (pen : Pen) : Pen :=
  { pen with spaced := false, fresh := false }

/-! ## Scalars -/

/-- The characters up to the first one that fits `stop`, and the rest. -/
def cut (stop : Char → Bool) (chars : List Char) : List Char × List Char :=
  (chars.takeWhile fun c => !stop c, chars.dropWhile fun c => !stop c)

/-- The rest of a plain scalar. Where a word ends, a single blank is a place to break the line. -/
def plainRest (folds : Bool) (indent : Nat) (chars : List Char) (pen : Pen) : Pen :=
  match chars with
  | [] => pen
  | c :: rest =>
    if c = ' ' then
      let blanks := ' ' :: rest.takeWhile (· == ' ')
      let others := rest.dropWhile (· == ' ')
      let pen :=
        if blanks.length = 1 && bestWidth < pen.column && folds then (pen.indentTo indent).settled
        else pen.putChars blanks
      plainRest folds indent others pen
    else
      plainRest folds indent (rest.dropWhile (· != ' '))
        (pen.putChars (c :: rest.takeWhile (· != ' ')))
termination_by chars.length
decreasing_by
  · exact Nat.lt_succ_of_le (List.dropWhile_suffix _).length_le
  · exact Nat.lt_succ_of_le (List.dropWhile_suffix _).length_le

/-- A plain scalar, set off by a blank. -/
def plain (pen : Pen) (folds : Bool) (indent : Nat) (chars : List Char) : Pen :=
  if chars.isEmpty then pen
  else
    let pen := if pen.spaced then pen else pen.put " "
    plainRest folds indent chars pen.settled

/-- Writes a run of line breaks: one that starts with a line feed takes one more, since a single
one would read back as a blank. -/
def breakRun (indent : Nat) (breaks : List Char) (pen : Pen) : Pen :=
  let pen := if breaks.head? == some '\n' then pen.lineBreak '\n' else pen
  (breaks.foldl lineBreak pen).indentTo indent

/-- The rest of a scalar between apostrophes; `atStart` says that nothing of it is written yet. -/
def singleRest (folds : Bool) (indent : Nat) (atStart : Bool) (chars : List Char) (pen : Pen) :
    Pen :=
  match chars with
  | [] => pen
  | c :: rest =>
    if c = ' ' then
      let blanks := ' ' :: rest.takeWhile (· == ' ')
      let others := rest.dropWhile (· == ' ')
      let pen :=
        if blanks.length = 1 && bestWidth < pen.column && folds && !atStart && !others.isEmpty then
          pen.indentTo indent
        else pen.putChars blanks
      singleRest folds indent false others pen
    else if isBreak c then
      singleRest folds indent false (rest.dropWhile isBreak)
        (pen.breakRun indent (c :: rest.takeWhile isBreak))
    else singleRest folds indent false rest (pen.put (if c = '\'' then "''" else c.toString))
termination_by chars.length
decreasing_by
  · exact Nat.lt_succ_of_le (List.dropWhile_suffix _).length_le
  · exact Nat.lt_succ_of_le (List.dropWhile_suffix _).length_le
  · simp

/-- A scalar between apostrophes. -/
def single (pen : Pen) (folds : Bool) (indent : Nat) (chars : List Char) : Pen :=
  (singleRest folds indent true chars (pen.indicator "'" true)).indicator "'" false

/-- The letters that stand for characters after a backslash. -/
def escapeLetters : List (Char × Char) :=
  [('\x00', '0'), ('\x07', 'a'), ('\x08', 'b'), ('\t', 't'), ('\n', 'n'), ('\x0B', 'v'),
    ('\x0C', 'f'), ('\r', 'r'), ('\x1B', 'e'), ('"', '"'), ('\\', '\\'), ('\u0085', 'N'),
    ('\u2028', 'L'), ('\u2029', 'P')]

/-- Whether a code point is escaped between quotation marks. -/
def isEscaped (c : CodePoint) : Bool :=
  escapeLetters.any (·.1 == c.char) || c.isHalf || c.val == 0xFEFF
    || !((0x20 ≤ c.val && c.val ≤ 0x7E) || (0xA0 ≤ c.val && c.val ≤ 0xFFFD))

/-- The escape of a code point: by letter if it has one, otherwise by its number. -/
def escape (c : CodePoint) : String :=
  let upperHex (width : Nat) : String := (Utf8.hex width c.val).map Char.toUpper
  match escapeLetters.lookup c.char with
  | some letter => String.ofList ['\\', letter]
  | none =>
    if c.val ≤ 0xFF then "\\x" ++ upperHex 2
    else if c.val ≤ 0xFFFF then "\\u" ++ upperHex 4
    else "\\U" ++ upperHex 8

/-- The rest of a scalar between quotation marks. `pending` are characters handled and not yet
written, last one first; escapes are written at once. Inside the text, a blank and the end of an
escape are places to break the line, which a backslash at its end and one before a blank mark. -/
def doubleRest (folds : Bool) (indent : Nat) (atStart : Bool) (pending : List Char) :
    Text → Pen → Pen
  | [], pen => pen.putChars pending.reverse
  | c :: rest, pen =>
    let escaped := isEscaped c
    let pen := if escaped then (pen.putChars pending.reverse).put (escape c) else pen
    let pending := if escaped then [] else pending
    let reach := if escaped then pen.column - 1 else pen.column + pending.length
    let inside := !atStart && !rest.isEmpty
    let breaks := inside && (c == ' ' || pending.isEmpty) && bestWidth < reach && folds
    let pen :=
      if breaks then
        let pen := (((pen.putChars pending.reverse).put "\\").indentTo indent).settled
        let next? := if escaped then rest.head? else some c
        if next?.any fun c : CodePoint => c == ' ' then pen.put "\\" else pen
      else pen
    let pending := if breaks then [] else pending
    doubleRest folds indent false (if escaped then [] else c.char :: pending) rest pen

/-- A scalar between quotation marks. -/
def double (pen : Pen) (folds : Bool) (indent : Nat) (text : Text) : Pen :=
  (doubleRest folds indent true [] text (pen.indicator "\"" true)).indicator "\"" false

/-- Lines in literal style. -/
def literal (pen : Pen) (indent : Nat) (lines : List (List Char)) : Pen :=
  lines.foldl (fun pen line => ((pen.indentTo indent).putChars line).lineBreak '\n')
    ((pen.indicator "|" true).lineBreak '\n')

end Pen

end ExternalFields.Yaml
