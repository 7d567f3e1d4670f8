import ExternalFields.Text.Printable
import ExternalFields.Text.Utf8

/-!
# Quoted texts

How a name is shown inside a message: between quotes, with everything that could not be seen
written as an escape. Apostrophes are the quotes, unless the text holds apostrophes and no
quotation marks.

* **`quote`**: a text between quotes
* **`quoteAscii`**: the same with every character beyond ASCII escaped
* **`quoteOctets`**: octets between quotes
-/

namespace ExternalFields.Text

/-- The quote that surrounds a text. -/
def quoteMark (text : Text) : CodePoint :=
  if text.contains '\'' && !text.contains '"' then '"' else '\''

/-- A code point as the shortest numeric escape that can hold it. -/
def numericEscape (c : CodePoint) : Text :=
  if c.val ≤ 0xFF then "\\x" ++ Utf8.hex 2 c.val
  else if c.val ≤ 0xFFFF then "\\u" ++ Utf8.hex 4 c.val
  else "\\U" ++ Utf8.hex 8 c.val

/-- One code point between the quotes `mark`; `shown` says which ones stand for themselves. -/
def quotePoint (shown : CodePoint → Bool) (mark c : CodePoint) : Text :=
  if c = mark || c = '\\' then ['\\', c]
  else if c = '\t' then "\\t"
  else if c = '\n' then "\\n"
  else if c = '\r' then "\\r"
  else if shown c then [c]
  else numericEscape c

/-- A text between quotes. -/
def quoteWith (shown : CodePoint → Bool) (text : Text) : Text :=
  let mark := quoteMark text
  mark :: text.flatMap (quotePoint shown mark) ++ [mark]

/-- A text between quotes, printable characters as themselves. -/
def quote (text : Text) : Text :=
  quoteWith isPrintable text

/-- A text between quotes, printable ASCII characters as themselves. -/
def quoteAscii (text : Text) : Text :=
  quoteWith (fun c => c.val < 0x80 && isPrintable c) text

/-- Octets between quotes, the printable ASCII characters among them as themselves. -/
def quoteOctets (octets : Octets) : Text :=
  quoteAscii (ofChars (octets.map fun octet => Char.ofNat octet.toNat))

end ExternalFields.Text
