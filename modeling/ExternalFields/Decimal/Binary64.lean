/-!
# Binary floating-point numbers

The numbers of 64-bit binary floating point, by meaning: every finite one is a whole number of
units of `2^-1074`, the smallest positive one. All arithmetic is exact arithmetic on units followed
by one rounding.

* **`Binary64`**: the numbers
* **`Binary64.ofRatio`**: the number nearest to a ratio, a tie going to the even significand
* **`Binary64.ofDecimal`**: the number nearest to a decimal
* **`Binary64.add`**, **`Binary64.mul`**: sum and product, rounded
-/

namespace ExternalFields

/-- A floating-point number. A finite one is `units · 2^-1074`, with its sign apart, so that zero
has two signs. -/
inductive Binary64 where
  | nan
  | infinite (negative : Bool)
  | finite (negative : Bool) (units : Nat)
  deriving DecidableEq, Repr, Inhabited

namespace Binary64

/-! ## Precision -/

/-- The number of units in one. -/
def unitsPerOne : Nat := Nat.pow 2 1074

/-- The first number of units that is out of range. -/
def unitLimit : Nat := Nat.pow 2 2098

/-- The number of trailing bits that a number of this size has no room for: a significand has 53
bits. -/
def spareBits (units : Nat) : Nat :=
  if units = 0 then 0 else Nat.log2 units + 1 - 53

/-- The whole number nearest to `num / den`, the even one of two. -/
def roundHalfEven (num den : Nat) : Nat :=
  let quotient := num / den
  let remainder := num % den
  if 2 * remainder < den then quotient
  else if den < 2 * remainder then quotient + 1
  else if quotient % 2 = 0 then quotient
  else quotient + 1

/-- The whole number nearest to `n` that is one of these numbers. -/
def roundWhole (n : Nat) : Nat :=
  let step := Nat.pow 2 (spareBits n)
  roundHalfEven n step * step

/-- The number nearest to `num / den` units. -/
def ofUnits (negative : Bool) (num den : Nat) : Binary64 :=
  let step := Nat.pow 2 (spareBits (num / den))
  let units := roundHalfEven num (den * step) * step
  if units < unitLimit then .finite negative units else .infinite negative

/-- The number nearest to `num / den`. -/
def ofRatio (negative : Bool) (num den : Nat) : Binary64 :=
  ofUnits negative (num * unitsPerOne) den

/-- The number nearest to a whole number. -/
def ofInt (n : Int) : Binary64 :=
  ofRatio (decide (n < 0)) n.natAbs 1

/-- The number nearest to `digits · 10^exponent`. Exponents far beyond the range decide the result
by themselves. -/
def ofDecimal (negative : Bool) (digits : Nat) (exponent : Int) : Binary64 :=
  let place : Int := (Nat.toDigits 10 digits).length + exponent
  if digits = 0 || place < -400 then .finite negative 0
  else if 400 < place then .infinite negative
  else if 0 ≤ exponent then ofRatio negative (digits * Nat.pow 10 exponent.toNat) 1
  else ofRatio negative digits (Nat.pow 10 (-exponent).toNat)

/-! ## Arithmetic -/

/-- The number with the other sign. -/
def neg : Binary64 → Binary64
  | .nan => .nan
  | .infinite negative => .infinite !negative
  | .finite negative units => .finite (!negative) units

/-- The sum, rounded. -/
def add : Binary64 → Binary64 → Binary64
  | .nan, _ | _, .nan => .nan
  | .infinite a, .infinite b => if a = b then .infinite a else .nan
  | .infinite a, .finite _ _ => .infinite a
  | .finite _ _, .infinite b => .infinite b
  | .finite a m, .finite b n =>
    if a = b then ofUnits a (m + n) 1
    else if n < m then ofUnits a (m - n) 1
    else if m < n then ofUnits b (n - m) 1
    else .finite false 0

/-- The product, rounded. -/
def mul : Binary64 → Binary64 → Binary64
  | .nan, _ | _, .nan => .nan
  | .infinite a, .infinite b => .infinite (a != b)
  | .infinite a, .finite b n => if n = 0 then .nan else .infinite (a != b)
  | .finite a m, .infinite b => if m = 0 then .nan else .infinite (a != b)
  | .finite a m, .finite b n => ofUnits (a != b) (m * n) unitsPerOne

/-- The whole number that a number is equal to, if there is one. -/
def toInt? : Binary64 → Option Int
  | .finite negative units =>
    if units % unitsPerOne = 0 then
      let n : Int := (units / unitsPerOne : Nat)
      some (if negative then -n else n)
    else none
  | _ => none

end Binary64

end ExternalFields
