import ExternalFields.Decimal.Binary64

/-!
# Shortest decimals

A floating-point number is written with the fewest decimal digits that read back as the same
number. The numbers that read back as `x` are the ones closer to `x` than to its neighbours; the
search looks, for 1, 2, … digits, at the two decimals on either side of `x` and takes the first
that lies in that interval, the nearer one if both do.

* **`shortestIn`**: the shortest decimal in an interval around a value
* **`Binary64.shortest`**: the shortest decimal of a positive number
* **`Binary64.text`**: its written form
-/

namespace ExternalFields

/-! ## Decimals in an interval -/

/-- The values `low / den` to `high / den` around `value / den`; the ends belong to it if
`closed`. -/
structure Surroundings where
  low : Nat
  value : Nat
  high : Nat
  den : Nat
  closed : Bool

/-- Whether `digits · 10^place` lies in the interval. -/
def Surroundings.contains (s : Surroundings) (digits : Nat) (place : Int) : Bool :=
  let scaled := digits * Nat.pow 10 place.toNat * s.den
  let shift := Nat.pow 10 (-place).toNat
  if s.closed then s.low * shift ≤ scaled && scaled ≤ s.high * shift
  else s.low * shift < scaled && scaled < s.high * shift

/-- The decimal point of `num / den`: the `k` with `10^(k-1) ≤ num / den < 10^k`. -/
def decimalPoint (num den : Nat) : Int :=
  if den ≤ num then (Nat.toDigits 10 (num / den)).length
  else
    let length := (Nat.toDigits 10 (den / num)).length
    if den ≤ num * Nat.pow 10 (length - 1) then 2 - length else 1 - length

/-- The shortest decimal `(digits, place)` in the interval, looking at decimals of `count` digits
first and of at most `more` digits more. -/
def shortestFrom (s : Surroundings) (point : Int) (count : Nat) : Nat → Nat × Int
  | 0 => (0, 0)
  | more + 1 =>
    let place := point - count
    let num := s.value * Nat.pow 10 (-place).toNat
    let den := s.den * Nat.pow 10 place.toNat
    let below := num / den
    let above := below + 1
    match s.contains below place, s.contains above place with
    | true, true =>
      let rest := 2 * (num % den)
      if rest < den || (rest = den && below % 2 = 0) then (below, place) else (above, place)
    | true, false => (below, place)
    | false, true => (above, place)
    | false, false => shortestFrom s point (count + 1) more

/-- The shortest decimal in the interval: seventeen digits tell any two neighbours apart. -/
def shortestIn (s : Surroundings) : Nat × Int :=
  shortestFrom s (decimalPoint s.value s.den) 1 17

/-! ## Written numbers -/

/-- The shortest decimal that reads back as `units` units, `units` being positive. Halfway to a
neighbour still reads back if the significand is even; below a power of two the neighbours are
closer. -/
def Binary64.shortest (units : Nat) : Nat × Int :=
  let step := Nat.pow 2 (spareBits units)
  let significand := units / step
  let lower := if significand = Nat.pow 2 52 && 1 < step then step else 2 * step
  shortestIn {
    low := 4 * units - lower
    value := 4 * units
    high := 4 * units + 2 * step
    den := 4 * unitsPerOne
    closed := significand % 2 = 0 }

/-- How decimals are laid out: positional if the decimal point lies from `firstPoint` to
`lastPoint` places after the first digit, with an exponent of at least two digits otherwise. -/
structure DecimalLayout where
  firstPoint : Int
  lastPoint : Int

/-- Positional notation reaches from one ten-thousandth to below ten to the sixteenth. -/
def Binary64.layout : DecimalLayout := ⟨-3, 16⟩

/-- `0.digits · 10^point` in positional notation, always with a point. -/
def positional (digits : List Char) (point : Int) : List Char :=
  if point ≤ 0 then '0' :: '.' :: (List.replicate (-point).toNat '0' ++ digits)
  else
    let whole := digits.take point.toNat ++ List.replicate (point.toNat - digits.length) '0'
    let rest := digits.drop point.toNat
    whole ++ '.' :: (if rest.isEmpty then ['0'] else rest)

/-- `0.digits · 10^point` with an exponent. -/
def scientific (digits : List Char) (point : Int) : List Char :=
  let exponent := point - 1
  let size := Nat.toDigits 10 exponent.natAbs
  let mantissa := match digits with
    | first :: second :: rest => first :: '.' :: second :: rest
    | short => short
  mantissa ++ 'e' :: (if exponent < 0 then '-' else '+') ::
    (List.replicate (2 - size.length) '0' ++ size)

/-- `digits · 10^place` in a layout. -/
def DecimalLayout.write (layout : DecimalLayout) (digits : Nat) (place : Int) : List Char :=
  let all := Nat.toDigits 10 digits
  let point := all.length + place
  let kept := (all.reverse.dropWhile (· = '0')).reverse
  if layout.firstPoint ≤ point ∧ point ≤ layout.lastPoint then positional kept point
  else scientific kept point

/-- The written form of a number: the shortest decimal that reads back. -/
def Binary64.text : Binary64 → String
  | .nan => "nan"
  | .infinite negative => if negative then "-inf" else "inf"
  | .finite negative units =>
    let (digits, place) := if units = 0 then (0, 0) else shortest units
    let body := if digits = 0 then ['0', '.', '0'] else layout.write digits place
    String.ofList (if negative then '-' :: body else body)

end ExternalFields
