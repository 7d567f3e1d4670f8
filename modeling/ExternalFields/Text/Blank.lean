import ExternalFields.Text.Basic

/-!
# Blanks and line ends

The white space that is trimmed from the ends of a text: the separators of Unicode together with
the control characters that separate lines, pages and records. The zero-width characters are not
among them. Line ends come in several spellings, all of which may be read as a line feed.

* **`isBlank`**: the class of blanks
* **`strip`**: a text without the blanks at its ends
* **`stripNumber`**: a number without the blanks around it
* **`unifyLineEnds`**: a text whose lines all end in line feeds
* **`dropLineFeed`**: a text without the line feed at its end
-/

namespace ExternalFields.Text

/-! ## Blanks -/

/-- The code points of the class, as closed ranges in order. -/
def blankRanges : List (Nat × Nat) :=
  [(0x09, 0x0D), (0x1C, 0x20), (0x85, 0x85), (0xA0, 0xA0), (0x1680, 0x1680), (0x2000, 0x200A),
    (0x2028, 0x2029), (0x202F, 0x202F), (0x205F, 0x205F), (0x3000, 0x3000)]

/-- Whether a code point is trimmed from the ends of a text. -/
def isBlank (c : CodePoint) : Bool :=
  blankRanges.any fun (low, high) => low ≤ c.val && c.val ≤ high

/-- Whether a code point is trimmed from the ends of a number: the separators of records are
not. -/
def isNumberBlank (c : CodePoint) : Bool :=
  isBlank c && !(0x1C ≤ c.val && c.val ≤ 0x1F)

/-- What stands between the first and the last item that are no blanks. -/
def stripBy {α : Type} (isBlank : α → Bool) (items : List α) : List α :=
  ((items.dropWhile isBlank).reverse.dropWhile isBlank).reverse

/-- A text without the blanks at its ends. -/
def strip (text : Text) : Text :=
  stripBy isBlank text

/-- A number without the blanks around it. -/
def stripNumber (chars : List Char) : List Char :=
  stripBy (isNumberBlank ∘ CodePoint.ofChar) chars

/-! ## Line ends -/

/-- Replaces carriage returns, with the line feeds after them if there are any, by line feeds. -/
def unifyLineEnds : List Char → List Char
  | '\r' :: '\n' :: rest => '\n' :: unifyLineEnds rest
  | '\r' :: rest => '\n' :: unifyLineEnds rest
  | c :: rest => c :: unifyLineEnds rest
  | [] => []

/-- A text without the line feed at its end, if there is one. -/
def dropLineFeed (chars : List Char) : List Char :=
  if chars.getLast? = some '\n' then chars.dropLast else chars

end ExternalFields.Text
