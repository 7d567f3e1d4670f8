import ExternalFields.Decimal.Reading
import ExternalFields.Text.Utf8
import ExternalFields.Yaml.Token.Basic
import ExternalFields.Yaml.Token.Scalar

/-!
# Taking documents apart

The tokens of a document, one after the other. Two things need memory: the columns of the open
block collections, whose ends show only in the indentation of a later line; and the places where a
key without an indicator may have started, which shows only at the colon after it.

* **`Candidate`**: a place where a key may have started
* **`Lexer`**: what is remembered between tokens
* **`Token.ofText`**: the tokens of a text
-/

namespace ExternalFields.Yaml

/-- A place where a key may have started. A token at the column of the enclosing block collection
is `required` to be one. -/
structure Candidate where
  /-- The number of tokens before the place. -/
  position : Nat
  required : Bool
  index : Nat
  line : Nat
  column : Nat

/-- What is remembered between tokens. `tokens` are the `count` tokens so far, the latest first;
`columns` are those of the open block collections, innermost first; `candidates` has one place for
each open flow collection, innermost first, and one for the block collections. -/
structure Lexer where
  cursor : Cursor
  tokens : List Token := []
  count : Nat := 0
  columns : List Nat := []
  candidates : List (Option Candidate) := [none]
  allowsKey : Bool := true

namespace Lexer

/-- An error, the text not being YAML. -/
def fail {α : Type} : Except ReadError α := .error .malformed

/-- Whether a flow collection is open. -/
def inFlow (lexer : Lexer) : Bool := lexer.candidates.length > 1

/-- The column of the innermost block collection, -1 outside all. -/
def indent (lexer : Lexer) : Int :=
  match lexer.columns with
  | [] => -1
  | column :: _ => column

/-- Adds a token. -/
def emit (lexer : Lexer) (token : Token) : Lexer :=
  { lexer with tokens := token :: lexer.tokens, count := lexer.count + 1 }

/-- Goes on by some characters. -/
def skip (lexer : Lexer) (count : Nat) : Lexer :=
  { lexer with cursor := lexer.cursor.skip count }

/-- Takes steps through the text. -/
def scan {α : Type} (lexer : Lexer) (steps : Scan α) : Except ReadError (α × Lexer) := do
  let (result, cursor) ← steps.run lexer.cursor
  return (result, { lexer with cursor })

/-! ## Keys without an indicator -/

/-- Whether a key that started at a candidate could still end here: on the same line, within 1024
characters. -/
def isFresh (lexer : Lexer) (candidate : Candidate) : Bool :=
  candidate.line == lexer.cursor.line && lexer.cursor.index - candidate.index ≤ 1024

/-- Gives up candidates that have become too old. A required one must not be given up. -/
def dropStale (lexer : Lexer) : Except ReadError Lexer :=
  let isStale := fun (candidate : Candidate) => !lexer.isFresh candidate
  if lexer.candidates.any (·.any fun candidate => isStale candidate && candidate.required) then fail
  else return { lexer with candidates := lexer.candidates.map (·.filter (lexer.isFresh ·)) }

/-- Replaces the candidate of the innermost collection. -/
def setCandidate (lexer : Lexer) (candidate? : Option Candidate) : Lexer :=
  { lexer with candidates := candidate? :: lexer.candidates.drop 1 }

/-- The candidate of the innermost collection. -/
def candidate? (lexer : Lexer) : Option Candidate :=
  lexer.candidates.head?.join

/-- Gives up the candidate of the innermost collection. -/
def dropCandidate (lexer : Lexer) : Except ReadError Lexer :=
  match lexer.candidate? with
  | some candidate => if candidate.required then fail else return lexer.setCandidate none
  | none => return lexer

/-- Remembers that a key may start here, where keys are allowed. -/
def saveCandidate (lexer : Lexer) : Except ReadError Lexer := do
  if lexer.allowsKey then
    let cursor := lexer.cursor
    return (← lexer.dropCandidate).setCandidate <| some {
      position := lexer.count
      required := !lexer.inFlow && lexer.indent == cursor.column
      index := cursor.index
      line := cursor.line
      column := cursor.column }
  else return lexer

/-- States whether a key may start at the next token. -/
def allowKey (lexer : Lexer) (allowed : Bool) : Lexer :=
  { lexer with allowsKey := allowed }

/-! ## Indentation -/

/-- Ends the block collections that stand right of a column. -/
def unwind (lexer : Lexer) (column : Int) : Lexer :=
  if lexer.inFlow then lexer
  else
    let ended := lexer.columns.takeWhile fun (other : Nat) => decide (column < other)
    ended.foldl (fun lexer _ => lexer.emit .blockEnd)
      { lexer with columns := lexer.columns.drop ended.length }

/-- Opens a block collection at a column right of the innermost one. The result also says whether
there was need to. -/
def openBlock (lexer : Lexer) (column : Nat) : Lexer × Bool :=
  if lexer.indent < column then ({ lexer with columns := column :: lexer.columns }, true)
  else (lexer, false)

/-- Opens a block collection here if there is need to, with its token. -/
def openHere (lexer : Lexer) (token : Token) : Lexer :=
  let (opened, isNew) := lexer.openBlock lexer.cursor.column
  if isNew then opened.emit token else opened

/-! ## Directives, anchors and tags -/

/-- The characters of names. -/
def isNameChar (c : Char) : Bool :=
  ('0' ≤ c && c ≤ '9') || ('A' ≤ c && c ≤ 'Z') || ('a' ≤ c && c ≤ 'z') || c == '-' || c == '_'

/-- The characters of tags apart from escapes. -/
def isTagChar (c : Char) : Bool :=
  isNameChar c || "-;/?:@&=+$,_.!~*'()[]".toList.contains c

/-- A name that is not empty. -/
def name : Scan (List Char) := do
  let name ← Scan.takeWhile isNameChar
  Scan.require (!name.isEmpty)
  return name

/-- A run of escaped octets in a tag. -/
def tagOctets : Nat → Octets → Scan Octets
  | 0, octets => return octets
  | fuel + 1, octets => do
    if (← Scan.peek) == '%' then
      Scan.skip
      let digits := (← get).rest.take 2
      Scan.require (digits.length == 2 && digits.all (isDigitOf 16))
      Scan.skip 2
      tagOctets fuel (octets ++ [UInt8.ofNat (digitsValue 16 digits)])
    else return octets

/-- The text of a tag after its shorthand, after `text`. -/
def tagText : Nat → List Char → Scan (List Char)
  | 0, text => return text
  | fuel + 1, text => do
    let taken ← Scan.takeWhile isTagChar
    let text := text ++ taken
    if (← Scan.peek) == '%' then
      match Utf8.decode (← tagOctets (← get).left []) with
      | .ok chars => tagText fuel (text ++ chars)
      | .error _ => Scan.fail
    else return text

/-- The text of a tag, which must not be empty. -/
def tagUri : Scan String := do
  let text ← tagText (← get).left.succ []
  Scan.require (!text.isEmpty)
  return String.ofList text

/-- The shorthand at the start of a tag: an exclamation mark, alone or with a name and another
one. -/
def tagHandle : Scan String := do
  Scan.require ((← Scan.peek) == '!')
  Scan.skip
  if (← Scan.peek) == ' ' then return "!"
  let name ← Scan.takeWhile isNameChar
  Scan.require ((← Scan.peek) == '!')
  Scan.skip
  return "!" ++ String.ofList name ++ "!"

/-- A version number. -/
def versionPart : Scan Nat := do
  let digits ← Scan.takeWhile (isDigitOf 10)
  Scan.require (!digits.isEmpty)
  if maxDigits < digits.length then throw .tooManyDigits
  return digitsValue 10 digits

/-- A directive, from its percent sign on to the end of its line. -/
def directive : Scan Directive := do
  Scan.skip
  let word := String.ofList (← name)
  Scan.require (isBlankOrEnd (← Scan.peek))
  let result ← if word = "YAML" then do
      discard <| Scan.takeWhile (· == ' ')
      let major ← versionPart
      Scan.require ((← Scan.peek) == '.')
      Scan.skip
      discard versionPart
      Scan.require (isBlankOrEnd (← Scan.peek))
      pure (Directive.version major)
    else if word = "TAG" then do
      discard <| Scan.takeWhile (· == ' ')
      let handle ← tagHandle
      Scan.require ((← Scan.peek) == ' ')
      discard <| Scan.takeWhile (· == ' ')
      let uri ← tagUri
      Scan.require (isBlankOrEnd (← Scan.peek))
      pure (Directive.handle handle uri)
    else do
      discard <| Scan.takeWhile (!isEnd ·)
      pure Directive.other
  Scan.restOfLine
  return result

/-- The name of an anchor or an alias, from its indicator on. -/
def anchorName : Scan String := do
  Scan.skip
  let name ← name
  let c ← Scan.peek
  Scan.require (isGap c || "?:,]\x7d%@\u0060".toList.contains c)
  return String.ofList name

/-- A tag: verbatim between angle brackets, alone, or a shorthand with the rest. -/
def tagToken : Scan Token := do
  let c ← Scan.peek 1
  let token ← if c == '<' then do
      Scan.skip 2
      let uri ← tagUri
      Scan.require ((← Scan.peek) == '>')
      Scan.skip
      pure (Token.tag none uri)
    else if isGap c then do
      Scan.skip
      pure (Token.tag none "!")
    else do
      let word := (← get).rest.drop 1 |>.takeWhile (!isBlankOrEnd ·)
      let handle ← if word.contains '!' then tagHandle else do
        Scan.skip
        pure "!"
      let suffix ← tagUri
      pure (Token.tag (some handle) suffix)
  Scan.require (isBlankOrEnd (← Scan.peek))
  return token

/-! ## One token -/

/-- Goes on over blanks, comments and line ends to the next token. A line end outside flow
collections makes way for a key. -/
def gap (inFlow : Bool) : Nat → Bool → Scan Bool
  | 0, allowsKey => return allowsKey
  | fuel + 1, allowsKey => do
    discard <| Scan.takeWhile (· == ' ')
    Scan.comment
    match ← Scan.lineEnd with
    | some _ => gap inFlow fuel (allowsKey || !inFlow)
    | none => return allowsKey

/-- Goes to the next token. -/
def toToken (lexer : Lexer) : Except ReadError Lexer := do
  let start := if lexer.cursor.index == 0 && lexer.cursor.peek == '\uFEFF' then 1 else 0
  let lexer := lexer.skip start
  let (allowed, lexer) ← lexer.scan (gap lexer.inFlow lexer.cursor.left.succ lexer.allowsKey)
  let lexer ← (lexer.allowKey allowed).dropStale
  return lexer.unwind lexer.cursor.column

/-- A directive, which ends everything before it. -/
def takeDirective (lexer : Lexer) : Except ReadError Lexer := do
  let lexer ← (lexer.unwind (-1)).dropCandidate
  let (found, lexer) ← lexer.scan directive
  return (lexer.allowKey false).emit (.directive found)

/-- A document marker, which ends everything before it. -/
def takeMarker (lexer : Lexer) (token : Token) : Except ReadError Lexer := do
  let lexer ← (lexer.unwind (-1)).dropCandidate
  return ((lexer.allowKey false).skip 3).emit token

/-- The opening bracket of a flow collection, which may be a key as a whole. -/
def takeOpening (lexer : Lexer) (token : Token) : Except ReadError Lexer := do
  let lexer ← lexer.saveCandidate
  let lexer := { lexer with candidates := none :: lexer.candidates }
  return ((lexer.allowKey true).skip 1).emit token

/-- The closing bracket of a flow collection. -/
def takeClosing (lexer : Lexer) (token : Token) : Except ReadError Lexer := do
  if !lexer.inFlow then fail
  let lexer ← lexer.dropCandidate
  let lexer := { lexer with candidates := lexer.candidates.drop 1 }
  return ((lexer.allowKey false).skip 1).emit token

/-- The comma between the entries of a flow collection. -/
def takeComma (lexer : Lexer) : Except ReadError Lexer := do
  let lexer ← (lexer.allowKey true).dropCandidate
  return (lexer.skip 1).emit .flowEntry

/-- The dash before an item of a block list, which may open the list. -/
def takeDash (lexer : Lexer) : Except ReadError Lexer := do
  if !lexer.inFlow && !lexer.allowsKey then fail
  let lexer := if lexer.inFlow then lexer else lexer.openHere .blockListStart
  let lexer ← (lexer.allowKey true).dropCandidate
  return (lexer.skip 1).emit .blockEntry

/-- The question mark before a key, which may open a block mapping. -/
def takeQuestion (lexer : Lexer) : Except ReadError Lexer := do
  if !lexer.inFlow && !lexer.allowsKey then fail
  let lexer := if lexer.inFlow then lexer else lexer.openHere .blockMappingStart
  let lexer ← (lexer.allowKey (!lexer.inFlow)).dropCandidate
  return (lexer.skip 1).emit .key

/-- The colon after a key without an indicator: the key's own tokens go before it. -/
def takeKeyColon (lexer : Lexer) (candidate : Candidate) : Lexer :=
  let lexer := lexer.setCandidate none
  let (lexer, opens) :=
    if lexer.inFlow then (lexer, false) else lexer.openBlock candidate.column
  let keyLength := lexer.count - candidate.position
  let start := if opens then [Token.key, .blockMappingStart] else [.key]
  { lexer with
    tokens := lexer.tokens.take keyLength ++ start ++ lexer.tokens.drop keyLength
    count := lexer.count + start.length
    allowsKey := false }

/-- The colon before a value. -/
def takeColon (lexer : Lexer) : Except ReadError Lexer := do
  match lexer.candidate? with
  | some candidate => return ((lexer.takeKeyColon candidate).skip 1).emit .value
  | none =>
    if !lexer.inFlow && !lexer.allowsKey then fail
    let lexer := if lexer.inFlow then lexer else lexer.openHere .blockMappingStart
    let lexer ← (lexer.allowKey (!lexer.inFlow)).dropCandidate
    return (lexer.skip 1).emit .value

/-- A token that may start a key and that no key follows. -/
def takeKeyStart (lexer : Lexer) (steps : Scan Token) : Except ReadError Lexer := do
  let lexer ← lexer.saveCandidate
  let (token, lexer) ← lexer.scan steps
  return (lexer.allowKey false).emit token

/-- A block scalar, after which a key may follow. -/
def takeBlockScalar (lexer : Lexer) (folded : Bool) : Except ReadError Lexer := do
  let lexer ← (lexer.allowKey true).dropCandidate
  let (text, lexer) ← lexer.scan (Scan.blockScalar folded lexer.indent)
  return lexer.emit (.scalar (Text.ofChars text) false)

/-- A plain scalar, after which a key may follow if it ends after a line end. -/
def takePlain (lexer : Lexer) : Except ReadError Lexer := do
  let lexer ← lexer.saveCandidate
  let ((text, ended), lexer) ← lexer.scan (Scan.plainScalar lexer.inFlow lexer.indent)
  return (lexer.allowKey ended).emit (.scalar (Text.ofChars text) true)

/-- Whether a plain scalar may start with a character before `after`. -/
def startsPlain (inFlow : Bool) (c after : Char) : Bool :=
  !(isGap c || "-?:,[]\x7b\x7d#&*!|>'\"%@\u0060".toList.contains c)
    || (!isGap after && (c == '-' || (!inFlow && (c == '?' || c == ':'))))

/-- The token that stands here. -/
def takeToken (lexer : Lexer) : Except ReadError Lexer :=
  let cursor := lexer.cursor
  let c := cursor.peek
  let after := cursor.peek 1
  let setOff := lexer.inFlow || isGap after
  if c == '%' && cursor.column == 0 then lexer.takeDirective
  else if cursor.column == 0 && cursor.atMarker '-' then lexer.takeMarker .documentStart
  else if cursor.column == 0 && cursor.atMarker '.' then lexer.takeMarker .documentEnd
  else if c == '[' then lexer.takeOpening .flowListStart
  else if c == '\x7b' then lexer.takeOpening .flowMappingStart
  else if c == ']' then lexer.takeClosing .flowListEnd
  else if c == '\x7d' then lexer.takeClosing .flowMappingEnd
  else if c == ',' then lexer.takeComma
  else if c == '-' && isGap after then lexer.takeDash
  else if c == '?' && setOff then lexer.takeQuestion
  else if c == ':' && setOff then lexer.takeColon
  else if c == '*' then lexer.takeKeyStart (Token.alias <$> anchorName)
  else if c == '&' then lexer.takeKeyStart (Token.anchor <$> anchorName)
  else if c == '!' then lexer.takeKeyStart tagToken
  else if c == '|' && !lexer.inFlow then lexer.takeBlockScalar false
  else if c == '>' && !lexer.inFlow then lexer.takeBlockScalar true
  else if c == '\'' || c == '"' then
    lexer.takeKeyStart ((Token.scalar · false) <$> Scan.quotedScalar (c == '"'))
  else if startsPlain lexer.inFlow c after then lexer.takePlain
  else fail

/-- The end of the text, which ends all block collections. -/
def finish (lexer : Lexer) : Except ReadError (List Token) := do
  let lexer ← (lexer.unwind (-1)).dropCandidate
  return (lexer.emit .streamEnd).tokens.reverse

/-- The tokens that are told already, before the text is looked at any further: those before the
first place where a key may still turn out to have started. -/
def settledTokens (lexer : Lexer) : List Token :=
  let places := lexer.candidates.filterMap fun candidate? =>
    (candidate?.filter (lexer.isFresh ·)).map Candidate.position
  match places.min? with
  | none => lexer.tokens.reverse
  | some position => lexer.tokens.reverse.take position

/-- What is left if the text after the settled tokens is at fault. -/
def stop (lexer : Lexer) (fault : ReadError) : TokenStream :=
  { tokens := lexer.settledTokens, fault := some fault }

/-- The tokens from here on. Every token takes characters, so that there is an end. -/
def run (lexer : Lexer) : TokenStream :=
  match lexer.toToken with
  | .error e => lexer.stop e
  | .ok ready =>
    if ready.cursor.rest.isEmpty then
      match ready.finish with
      | .ok tokens => { tokens }
      | .error e => lexer.stop e
    else
      match ready.takeToken with
      | .error e => lexer.stop e
      | .ok after =>
        if after.cursor.left < lexer.cursor.left then after.run else lexer.stop .malformed
termination_by lexer.cursor.left

end Lexer

/-- The tokens of a text. -/
def Token.ofText (chars : List Char) : TokenStream :=
  if chars.all isAllowed then Lexer.run { cursor := Cursor.ofText chars }
  else { tokens := [], fault := some .malformed }

end ExternalFields.Yaml
