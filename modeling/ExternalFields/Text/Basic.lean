/-!
# Texts

A text is a list of code points. The code points from U+D800 to U+DFFF are halves of pairs and stand
for no characters, but an escape can write one by itself, so that a text may hold them.

* **`CodePoint`**, **`Text`**: code points and texts
* **`Text.ofString`**: the text that characters make up
* **`Text.chars`**: a text as characters
-/

namespace ExternalFields

/-- A code point: that of a character, or half of a pair. -/
abbrev CodePoint := Fin 0x110000

/-- A text. -/
abbrev Text := List CodePoint

namespace CodePoint

/-- Every character has a code point. -/
theorem toNat_lt (c : Char) : c.toNat < 0x110000 := by
  have valid := c.valid
  simp only [UInt32.isValidChar, Nat.isValidChar] at valid
  have value : c.toNat = c.val.toNat := rfl
  omega

/-- The code point of a character. -/
def ofChar (c : Char) : CodePoint := ⟨c.toNat, toNat_lt c⟩

/-- The code point of a number, if there is one. -/
def ofNat? (n : Nat) : Option CodePoint :=
  if h : n < 0x110000 then some ⟨n, h⟩ else none

/-- Whether a code point is half of a pair. -/
def isHalf (c : CodePoint) : Bool :=
  0xD800 ≤ c.val && c.val ≤ 0xDFFF

/-- The character of a code point. The replacement character stands in for halves of pairs. -/
def char (c : CodePoint) : Char :=
  if c.isHalf then '\uFFFD' else Char.ofNat c.val

end CodePoint

namespace Text

/-- The text that characters make up. -/
def ofChars (chars : List Char) : Text := chars.map CodePoint.ofChar

/-- The text that the characters of a string make up. -/
def ofString (s : String) : Text := ofChars s.toList

/-- The characters of a text. The replacement character stands in for halves of pairs. -/
def chars (text : Text) : List Char := text.map CodePoint.char

/-- A text as a string. The replacement character stands in for halves of pairs. -/
def string (text : Text) : String := String.ofList text.chars

/-- Whether a text holds halves of pairs. -/
def hasHalf (text : Text) : Bool := text.any CodePoint.isHalf

/-- Whether a text starts with another one. -/
def startsWith (text start : Text) : Bool := start.isPrefixOf text

/-- Whether a text ends with another one. -/
def endsWith (text ending : Text) : Bool := ending.isSuffixOf text

/-- The text of a whole number. -/
def ofNat (n : Nat) : Text := ofChars (Nat.toDigits 10 n)

end Text

instance : Coe Char CodePoint := ⟨CodePoint.ofChar⟩

instance : Coe String Text := ⟨Text.ofString⟩

end ExternalFields
