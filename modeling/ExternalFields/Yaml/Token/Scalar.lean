import ExternalFields.Decimal.Reading
import ExternalFields.Text.Basic
import ExternalFields.Yaml.Cursor

/-!
# Scalars in a document

Reading the text of scalars in each of their styles. Inside quoted and plain scalars a single line
break reads as a blank, and of several the first is dropped; a folded scalar does the same between
lines that do not start with a blank, and a literal one keeps them all.

* **`Scan.blockScalar`**: literal and folded scalars
* **`Scan.quotedScalar`**: scalars between apostrophes and between quotation marks
* **`Scan.plainScalar`**: scalars without quotes
-/

namespace ExternalFields.Yaml.Scan

/-! ## Block scalars -/

/-- How the line breaks at the end of a block scalar are kept. -/
inductive Chomping where
  | clip
  | strip
  | keep
  deriving DecidableEq

/-- The chomping that a sign asks for. -/
def chompingOf? (c : Char) : Option Chomping :=
  if c == '+' then some .keep else if c == '-' then some .strip else none

/-- The indentation that a digit asks for; zero is no indentation. -/
def indentOf? (c : Char) : Scan (Option Nat) := do
  if isDigitOf 10 c then
    require (c != '0')
    return digitValue? c
  else return none

/-- The indicators in the header of a block scalar: chomping and indentation in either order. -/
def blockHeader : Scan (Chomping × Option Nat) := do
  let first ← peek
  match chompingOf? first with
  | some chomping =>
    skip
    let indent? ← indentOf? (← peek)
    if indent?.isSome then skip
    require (isBlankOrEnd (← peek))
    return (chomping, indent?)
  | none =>
    match ← indentOf? first with
    | some indent =>
      skip
      let chomping? := chompingOf? (← peek)
      if chomping?.isSome then skip
      require (isBlankOrEnd (← peek))
      return (chomping?.getD .clip, some indent)
    | none =>
      require (isBlankOrEnd first)
      return (.clip, none)

/-- The empty lines before the first line of a block scalar and the widest indentation seen. -/
def leadingLines : Nat → List Char → Nat → Scan (List Char × Nat)
  | 0, breaks, widest => return (breaks, widest)
  | fuel + 1, breaks, widest => do
    if (← peek) == ' ' then
      skip
      leadingLines fuel breaks (max widest (← get).column)
    else
      match ← lineEnd with
      | some c => leadingLines fuel (breaks ++ [c]) widest
      | none => return (breaks, widest)

/-- Goes on over blanks up to a column. -/
def blanksTo (indent : Nat) : Nat → Scan Unit
  | 0 => return ()
  | fuel + 1 => do
    if (← get).column < indent && (← peek) == ' ' then
      skip
      blanksTo indent fuel

/-- Empty lines inside a block scalar, and the indentation of the line after them. -/
def emptyLines (indent : Nat) : Nat → List Char → Scan (List Char)
  | 0, breaks => return breaks
  | fuel + 1, breaks => do
    blanksTo indent indent
    match ← lineEnd with
    | some c => emptyLines indent fuel (breaks ++ [c])
    | none => return breaks

/-- Whether a line of a block scalar goes on at the indentation. -/
def atBlockLine (indent : Nat) : Scan Bool := do
  let cursor ← get
  return cursor.column == indent && !cursor.rest.isEmpty

/-- The lines of a block scalar after `text`, before which stand the empty lines `breaks`. The
result holds the text, last character first, the last line end and the empty lines after it. -/
def blockLines (folded : Bool) (indent : Nat) :
    Nat → List Char → List Char → Scan (List Char × Option Char × List Char)
  | 0, text, breaks => return (text, none, breaks)
  | fuel + 1, text, breaks => do
    let indented := fun (c : Char) => c == ' ' || c == '\t'
    let startsIndented := indented (← peek)
    let line ← takeWhile (!isEnd ·)
    let text := line.reverse ++ (breaks.reverse ++ text)
    let lineEnd? ← lineEnd
    let breaks ← emptyLines indent (← get).left []
    if ← atBlockLine indent then
      let joins := folded && lineEnd? == some '\n' && !startsIndented && !indented (← peek)
      let text :=
        if joins then if breaks.isEmpty then ' ' :: text else text
        else lineEnd?.toList ++ text
      blockLines folded indent fuel text breaks
    else return (text, lineEnd?, breaks)

/-- A literal or folded scalar inside a collection at the column `outer`, from its indicator on. -/
def blockScalar (folded : Bool) (outer : Int) : Scan (List Char) := do
  skip
  let (chomping, indent?) ← blockHeader
  restOfLine
  let least := (max 1 (outer + 1)).toNat
  let length := (← get).left + 1
  let (breaks, indent) ← match indent? with
    | some given => do
      let indent := least + given - 1
      pure (← emptyLines indent length [], indent)
    | none => do
      let (breaks, widest) ← leadingLines length [] 0
      pure (breaks, max least widest)
  let (text, lineEnd?, breaks) ←
    if ← atBlockLine indent then blockLines folded indent length [] breaks
    else pure ([], none, breaks)
  let text := if chomping == .strip then text else lineEnd?.toList ++ text
  let text := if chomping == .keep then breaks.reverse ++ text else text
  return text.reverse

/-! ## Quoted scalars -/

/-- The characters that a letter after a backslash stands for. -/
def escapes : List (Char × Char) :=
  [('0', '\x00'), ('a', '\x07'), ('b', '\x08'), ('t', '\t'), ('\t', '\t'), ('n', '\n'),
    ('v', '\x0B'), ('f', '\x0C'), ('r', '\r'), ('e', '\x1B'), (' ', ' '), ('"', '"'),
    ('\\', '\\'), ('/', '/'), ('N', '\u0085'), ('_', '\u00A0'), ('L', '\u2028'), ('P', '\u2029')]

/-- The number of hexadecimal digits after a letter that starts a code. -/
def codeLength? (c : Char) : Option Nat :=
  if c == 'x' then some 2 else if c == 'u' then some 4 else if c == 'U' then some 8 else none

/-- The greatest number that is taken for a code point at all. -/
def greatestCode : Nat := 0x7FFFFFFF

/-- The code point of a number, which must be one. -/
def codePoint (code : Nat) : Scan CodePoint :=
  if greatestCode < code then throw .noSuchCode
  else
    match CodePoint.ofNat? code with
    | some c => return c
    | none => throw .noSuchCharacter

/-- Line breaks inside a quoted scalar, with the blanks around them. A document marker must not
stand at the start of a line. -/
def quotedBreaks : Nat → List Char → Scan (List Char)
  | 0, breaks => return breaks
  | fuel + 1, breaks => do
    require (!(← get).atAnyMarker)
    discard <| takeWhile fun c => c == ' ' || c == '\t'
    match ← lineEnd with
    | some c => quotedBreaks fuel (breaks ++ [c])
    | none => return breaks

/-- What line breaks inside a scalar read as, given the first one and the others. -/
def foldedBreaks (first : Char) (others : List Char) : List Char :=
  if first != '\n' then first :: others else if others.isEmpty then [' '] else others

/-- What an escape stands for, from after its backslash on. An escaped line end stands for
nothing, and so do the blanks after it. -/
def escapeSequence : Scan Text := do
  let c ← peek
  match escapes.lookup c, codeLength? c with
  | some escaped, _ =>
    skip
    return [↑escaped]
  | none, some length =>
    skip
    let digits := (← get).rest.take length
    require (digits.length == length && digits.all (isDigitOf 16))
    skip length
    return [← codePoint (digitsValue 16 digits)]
  | none, none =>
    match ← lineEnd with
    | some _ => return Text.ofChars (← quotedBreaks (← get).left.succ [])
    | none => fail

/-- The rest of a quoted scalar after `text`, whose last code point comes first. -/
def quotedRest (double : Bool) : Nat → Text → Scan Text
  | 0, _ => fail
  | fuel + 1, text => do
    let c ← peek
    let quote := if double then '"' else '\''
    if c == quote then
      if !double && (← peek 1) == quote then
        skip 2
        quotedRest double fuel (↑quote :: text)
      else
        skip
        return text.reverse
    else if double && c == '\\' then
      skip
      let sequence ← escapeSequence
      quotedRest double fuel (sequence.reverse ++ text)
    else if c == ' ' || c == '\t' || isLineEnd c then
      let blanks ← takeWhile fun c => c == ' ' || c == '\t'
      match ← lineEnd with
      | some first =>
        let others ← quotedBreaks (← get).left.succ []
        quotedRest double fuel (Text.ofChars (foldedBreaks first others).reverse ++ text)
      | none =>
        require (!(← get).rest.isEmpty)
        quotedRest double fuel (Text.ofChars blanks.reverse ++ text)
    else
      require (!(← get).rest.isEmpty)
      skip
      quotedRest double fuel (↑c :: text)

/-- A quoted scalar, from its quote on. -/
def quotedScalar (double : Bool) : Scan Text := do
  skip
  quotedRest double (← get).left.succ []

/-! ## Plain scalars -/

/-- Whether a plain scalar ends before `rest`: at a gap, at a colon before a gap, and inside flow
collections at their markup too. -/
def endsPlain (inFlow : Bool) : List Char → Bool
  | [] => true
  | c :: rest =>
    let after := rest.headD '\x00'
    let isMarkup (marks : List Char) (c : Char) : Bool := inFlow && marks.contains c
    isGap c || (c == ':' && (isGap after || isMarkup [',', '[', ']', '{', '}'] after))
      || isMarkup [',', '?', '[', ']', '{', '}'] c

/-- The length of the word of a plain scalar that stands here. -/
def plainWordLength (inFlow : Bool) : List Char → Nat
  | [] => 0
  | c :: rest => if endsPlain inFlow (c :: rest) then 0 else plainWordLength inFlow rest + 1

/-- Empty lines inside a plain scalar and the blanks after them; nothing if a document marker
follows one of them. -/
def plainBreaks : Nat → List Char → Scan (Option (List Char))
  | 0, breaks => return some breaks
  | fuel + 1, breaks => do
    discard <| takeWhile (· == ' ')
    match ← lineEnd with
    | some c =>
      if (← get).atAnyMarker then return none else plainBreaks fuel (breaks ++ [c])
    | none => return some breaks

/-- The blanks and line breaks after a word of a plain scalar, as they read if another word
follows, and whether a line has ended. Nothing is read if a document marker follows. -/
def plainSpaces : Scan (List Char × Bool) := do
  let blanks ← takeWhile (· == ' ')
  match ← lineEnd with
  | some first =>
    if (← get).atAnyMarker then return ([], true)
    match ← plainBreaks (← get).left.succ [] with
    | some others => return (foldedBreaks first others, true)
    | none => return ([], true)
  | none => return (blanks, false)

/-- The words of a plain scalar after `text`, whose last character comes first, with the spaces
that stand before the next word. The result also says whether the scalar ends after a line end. -/
def plainWords (inFlow : Bool) (indent : Int) :
    Nat → List Char → List Char → Bool → Scan (List Char × Bool)
  | 0, text, _, atLineStart => return (text, atLineStart)
  | fuel + 1, text, spaces, atLineStart => do
    let length := plainWordLength inFlow (← get).rest
    if (← peek) == '#' || length == 0 then return (text, atLineStart)
    let word := (← get).rest.take length
    skip length
    let text := word.reverse ++ (spaces.reverse ++ text)
    let (spaces, ended) ← plainSpaces
    let cursor ← get
    if spaces.isEmpty || cursor.peek == '#' || (!inFlow && (cursor.column : Int) < indent) then
      return (text, ended)
    plainWords inFlow indent fuel text spaces ended

/-- A plain scalar inside a collection at the column `outer`, and whether it ends after a line
end, where a key may follow. -/
def plainScalar (inFlow : Bool) (outer : Int) : Scan (List Char × Bool) := do
  let (text, ended) ← plainWords inFlow (outer + 1) (← get).left.succ [] [] false
  return (text.reverse, ended)

end ExternalFields.Yaml.Scan
