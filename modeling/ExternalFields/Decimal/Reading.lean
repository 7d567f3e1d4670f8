import ExternalFields.Decimal.Binary64

/-!
# Numbers in digits

Every script that writes numbers to the base ten place by place has ten code points in a row for
the digits from zero to nine. A decimal is a whole part, a fraction after a point, and an exponent
of ten. Whole numbers of more than 4300 decimal digits are neither read nor written.

* **`Text.plainDigit`**: a digit of any script as one of the ten usual ones
* **`digitsValue`**: the number that digits of a base write
* **`maxDigits`**, **`wholeText?`**: a whole number in decimal digits, and how many it may have
* **`Binary64.ofChars?`**: the floating-point number nearest to a written decimal
-/

namespace ExternalFields

/-! ## Digits -/

namespace Text

/-- The code points of the digits zero. -/
def zeros : List Nat :=
  [0x30, 0x660, 0x6F0, 0x7C0, 0x966, 0x9E6, 0xA66, 0xAE6, 0xB66, 0xBE6, 0xC66, 0xCE6, 0xD66,
    0xDE6, 0xE50, 0xED0, 0xF20, 0x1040, 0x1090, 0x17E0, 0x1810, 0x1946, 0x19D0, 0x1A80, 0x1A90,
    0x1B50, 0x1BB0, 0x1C40, 0x1C50, 0xA620, 0xA8D0, 0xA900, 0xA9D0, 0xA9F0, 0xAA50, 0xABF0,
    0xFF10, 0x104A0, 0x10D30, 0x11066, 0x110F0, 0x11136, 0x111D0, 0x112F0, 0x11450, 0x114D0,
    0x11650, 0x116C0, 0x11730, 0x118E0, 0x11950, 0x11C50, 0x11D50, 0x11DA0, 0x16A60, 0x16AC0,
    0x16B50, 0x1D7CE, 0x1D7D8, 0x1D7E2, 0x1D7EC, 0x1D7F6, 0x1E140, 0x1E2F0, 0x1E950, 0x1FBF0]

/-- A digit of any script as one of the ten usual ones; other characters stay what they are. -/
def plainDigit (c : Char) : Char :=
  match zeros.find? fun first => first ≤ c.toNat && c.toNat < first + 10 with
  | some first => Char.ofNat ('0'.toNat + (c.toNat - first))
  | none => c

end Text

/-- The value of a digit up to base sixteen. -/
def digitValue? (c : Char) : Option Nat :=
  if '0' ≤ c ∧ c ≤ '9' then some (c.toNat - '0'.toNat)
  else if 'a' ≤ c ∧ c ≤ 'f' then some (c.toNat - 'a'.toNat + 10)
  else if 'A' ≤ c ∧ c ≤ 'F' then some (c.toNat - 'A'.toNat + 10)
  else none

/-- Whether a character is a digit of a base. -/
def isDigitOf (base : Nat) (c : Char) : Bool :=
  match digitValue? c with
  | some value => value < base
  | none => false

/-- The number written by the digits among the characters. -/
def digitsValue (base : Nat) (chars : List Char) : Nat :=
  chars.foldl (fun n c => match digitValue? c with
    | some value => n * base + value
    | none => n) 0

/-- The number written by a non-empty run of digits and nothing else. -/
def natOfChars? (base : Nat) (chars : List Char) : Option Nat :=
  if !chars.isEmpty && chars.all (isDigitOf base) then some (digitsValue base chars) else none

/-! ## Whole numbers -/

/-- More decimal digits than this are neither read nor written as a number. -/
def maxDigits : Nat := 4300

/-- A number in decimal digits, nothing if there are too many of them. -/
def wholeText? (n : Int) : Option String :=
  let digits := Nat.toDigits 10 n.natAbs
  if maxDigits < digits.length then none
  else some (String.ofList (if n < 0 then '-' :: digits else digits))

/-! ## Decimals -/

/-- A sign in front of a number, and the rest. -/
def splitSign : List Char → Bool × List Char
  | '-' :: rest => (true, rest)
  | '+' :: rest => (false, rest)
  | chars => (false, chars)

/-- The exponent written after the digits of a decimal: none is zero. -/
def exponentOfChars? : List Char → Option Int
  | [] => some 0
  | mark :: rest =>
    if mark = 'e' ∨ mark = 'E' then
      let (negative, digits) := splitSign rest
      (natOfChars? 10 digits).map fun n => if negative then -(n : Int) else n
    else none

/-- The number nearest to a written decimal without a sign. -/
def magnitudeOfChars? (negative : Bool) (chars : List Char) : Option Binary64 :=
  let isDigit := isDigitOf 10
  let whole := chars.takeWhile isDigit
  let afterWhole := chars.dropWhile isDigit
  let (fraction, tail) := match afterWhole with
    | '.' :: rest => (rest.takeWhile isDigit, rest.dropWhile isDigit)
    | rest => ([], rest)
  if whole.isEmpty && fraction.isEmpty then none
  else (exponentOfChars? tail).map fun exponent =>
    Binary64.ofDecimal negative (digitsValue 10 (whole ++ fraction)) (exponent - fraction.length)

/-- The number nearest to a written decimal; infinity and not-a-number are written as words, in
lower case. -/
def Binary64.ofChars? (chars : List Char) : Option Binary64 :=
  let (negative, rest) := splitSign chars
  let word := String.ofList rest
  if word = "inf" ∨ word = "infinity" then some (.infinite negative)
  else if word = "nan" then some .nan
  else magnitudeOfChars? negative rest

end ExternalFields
