import ExternalFields.Decimal.Reading
import ExternalFields.Text.Basic

/-!
# Faults and numbers of templates

* **`Template.Problem`**: why a template cannot be filled
* **`Template.takeNumber`**, **`Template.numberOf?`**: the numbers that templates write
-/

namespace ExternalFields.Template

/-- Why a template cannot be filled. -/
inductive Problem where
  /-- Its braces or its layouts are not well formed. -/
  | malformed
  /-- No value has the name. -/
  | unknownName (name : Text)
  /-- A field is numbered, or a value has too few parts. -/
  | outOfRange
  /-- A field asks for a property that a value does not have. -/
  | noProperty
  /-- A field asks for a part of a value that is not given by a number, or that the value has not
  got. -/
  | notIndexable
  /-- What is neither text nor number is to be laid out. -/
  | notText
  /-- A number is to be shown as the character that it is not the number of. -/
  | noCharacter
  /-- A value is to be laid out wider than any memory. -/
  | tooWide
  deriving DecidableEq, Repr

/-- The greatest number that a template can hold. -/
def greatestNumber : Nat := 0x7FFFFFFFFFFFFFFF

/-- The number in digits of any script at the start of a text, if there is one, and the rest;
nothing if it is too great. -/
def takeNumber (text : Text) : Option (Option Nat × Text) :=
  let digits := (text.chars.map Text.plainDigit).takeWhile (isDigitOf 10)
  let number? := natOfChars? 10 digits
  if number?.any (greatestNumber < ·) then none else some (number?, text.drop digits.length)

/-- The number that a text writes, if it is one. No text may start with a number that is too
great. -/
def numberOf? (text : Text) : Except Problem (Option Nat) :=
  match takeNumber text with
  | none => .error .malformed
  | some (number?, rest) => .ok (if rest.isEmpty then number? else none)

end ExternalFields.Template
