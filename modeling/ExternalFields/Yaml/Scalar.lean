import ExternalFields.Decimal.Reading
import ExternalFields.Text.Base64
import ExternalFields.Text.Blank
import ExternalFields.Yaml.Tag
import ExternalFields.Yaml.Value

/-!
# Scalars

The data that the text of a scalar stands for, given its tag.

* **`Scalar.int`**, **`Scalar.float`**, **`Scalar.bool`**, **`Scalar.timestamp`**,
  **`Scalar.binary`**: scalars of each kind
* **`Scalar.read`**: a scalar of any kind
-/

namespace ExternalFields.Yaml

namespace Scalar

/-- The text of a number without the blanks around it, in the usual digits. -/
def plainNumber (chars : List Char) : List Char :=
  (Text.stripNumber chars).map Text.plainDigit

/-- The letter that marks digits of a base, in either case. -/
def baseMarks (base : Nat) : List Char :=
  if base = 2 then ['b', 'B'] else if base = 8 then ['o', 'O']
  else if base = 16 then ['x', 'X'] else []

/-- Digits of a base without the zero and the letter that may stand before them. -/
def dropBaseMark (base : Nat) : List Char → List Char
  | '0' :: mark :: digits =>
    if (baseMarks base).contains mark then digits else '0' :: mark :: digits
  | digits => digits

/-- A whole number in digits of a base, with a sign and blanks around it. -/
def intOf? (base : Nat) (chars : List Char) : Option Int := do
  let (negative, digits) := splitSign (plainNumber chars)
  if base = 10 && maxDigits < digits.length then none
  let n ← natOfChars? base (dropBaseMark base digits)
  return if negative then -(n : Int) else n

/-- The sum of the places of a number to the base sixty, each read by `place?`. -/
def sexagesimal? {α : Type} (place? : List Char → Option α) (zero : α)
    (step : α → α → α) (chars : List Char) : Option α := do
  let places ← (Tag.splitColons chars).mapM place?
  return places.foldl step zero

/-- A whole number. -/
def int (text : List Char) : Except ReadError Value :=
  let chars := text.filter (· != '_')
  let (negative, digits) := splitSign chars
  let number? := match digits with
    | ['0'] => some 0
    | '0' :: 'b' :: rest => intOf? 2 rest
    | '0' :: 'x' :: rest => intOf? 16 rest
    | '0' :: rest => intOf? 8 ('0' :: rest)
    | _ =>
      if digits.contains ':' then
        sexagesimal? (intOf? 10) 0 (fun n place => n * 60 + place) digits
      else intOf? 10 digits
  if digits.isEmpty then .error .emptyNumber
  else
    match number? with
    | some n => .ok (.int (if negative then -n else n))
    | none => .error .notNumber

/-- The sum of places to the base sixty, the last one first, each times the power of sixty that
goes with it. No power may be out of range. -/
def sumOfSixtieths (sum : Binary64) (power : Nat) : List Binary64 → Except ReadError Binary64
  | [] => .ok sum
  | place :: rest =>
    match Binary64.ofInt power with
    | .finite negative units =>
      sumOfSixtieths (sum.add (place.mul (.finite negative units))) (power * 60) rest
    | _ => .error .noSuchPlace

/-- The word for not-a-number, in lower case. -/
def nanWord : List Char := ['.', 'n', 'a', 'n']

/-- The text of a floating-point number in lower case: whether it has a minus sign, and the rest. -/
def signedMagnitude (text : List Char) : Bool × List Char :=
  splitSign ((text.filter (· != '_')).map Char.toLower)

/-- A number read from its text, if it is one. -/
def numberOr {α : Type} (number? : Option α) : Except ReadError α :=
  match number? with
  | some number => .ok number
  | none => .error .notNumber

/-- A floating-point number without a sign. -/
def magnitude (chars : List Char) : Except ReadError Binary64 :=
  if chars = ['.', 'i', 'n', 'f'] then .ok (.infinite false)
  else if chars = nanWord then .ok .nan
  else if chars.contains ':' then do
    let places ← numberOr ((Tag.splitColons chars).mapM (Binary64.ofChars? ∘ plainNumber))
    sumOfSixtieths (.finite false 0) 1 places.reverse
  else numberOr (Binary64.ofChars? (plainNumber chars))

/-- A floating-point number. -/
def float (text : List Char) : Except ReadError Value := do
  if text.all (· == '_') then throw .emptyNumber
  let (negative, chars) := signedMagnitude text
  let x ← magnitude chars
  return .float (if negative then x.neg else x)

/-- A truth value. -/
def bool (text : List Char) : Except ReadError Value :=
  let word := String.ofList (text.map Char.toLower)
  if Tag.trueWords.contains word then .ok (.bool true)
  else if Tag.falseWords.contains word then .ok (.bool false)
  else .error .notFlag

/-- The microseconds that a fraction of a second writes, cut after six digits. -/
def microseconds (fraction : List Char) : Nat :=
  let digits := fraction.take 6
  digitsValue 10 (digits ++ List.replicate (6 - digits.length) '0')

/-- A day or a point in time. -/
def timestamp (text : List Char) (mark : Mark) : Except ReadError Value :=
  match TimestampParts.ofChars? text with
  | none => .error .notTimestamp
  | some parts =>
    let number := digitsValue 10
    let date : Date := ⟨number parts.year, number parts.month, number parts.day⟩
    match parts.clock with
    | none => if date.isValid then .ok (.date date mark) else .error .noSuchDate
    | some (hour, minute, second) =>
      let offset := parts.zone.map fun (behind, hours, minutes) =>
        let total : Int := (number hours * 60 + number minutes : Nat)
        if behind then -total else total
      let time : Timestamp := {
        date
        hour := number hour
        minute := number minute
        second := number second
        microsecond := microseconds parts.fraction
        offset }
      if time.isValid then .ok (.timestamp time mark) else .error .noSuchDate

/-- Octets in base 64. -/
def binary (text : List Char) : Except ReadError Value :=
  if text.all (·.toNat < 0x80) then
    match Base64.decode text with
    | some octets => .ok (.binary octets)
    | none => .error .malformed
  else .error .malformed

/-- The data that the text of a scalar stands for. -/
def read (tag : Tag) (text : Text) (mark : Mark) : Except ReadError Value :=
  match tag with
  | .null => .ok .null
  | .bool => bool text.chars
  | .int => int text.chars
  | .float => float text.chars
  | .text => .ok (.text text)
  | .binary => binary text.chars
  | .timestamp => timestamp text.chars mark
  | _ => .error .malformed

end Scalar

end ExternalFields.Yaml
