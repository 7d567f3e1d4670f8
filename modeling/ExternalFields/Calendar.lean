/-!
# Calendar

Dates and points in time as they stand in documents, on the Gregorian calendar extended to all
years from 1 to 9999.

* **`Date`**, **`Timestamp`**: the two kinds
* **`Date.isValid`**, **`Timestamp.isValid`**: which of them exist
* **`Date.text`**, **`Timestamp.text`**: their written forms
* **`Timestamp.sameInstant`**: equality across time zones
-/

namespace ExternalFields

/-- A day. -/
structure Date where
  year : Nat
  month : Nat
  day : Nat
  deriving DecidableEq, Repr, Inhabited

/-- A time of a day, in a zone `offset` minutes ahead of universal time if the zone is known. -/
structure Timestamp where
  date : Date
  hour : Nat
  minute : Nat
  second : Nat
  microsecond : Nat
  offset : Option Int
  deriving DecidableEq, Repr, Inhabited

/-! ## Existence -/

/-- Whether February has 29 days. -/
def isLeapYear (year : Nat) : Bool :=
  year % 4 = 0 && (year % 100 ≠ 0 || year % 400 = 0)

/-- The number of days of a month, zero if there is no such month. -/
def daysInMonth (year month : Nat) : Nat :=
  match month with
  | 2 => if isLeapYear year then 29 else 28
  | 4 | 6 | 9 | 11 => 30
  | 1 | 3 | 5 | 7 | 8 | 10 | 12 => 31
  | _ => 0

/-- Whether the calendar has this day. -/
def Date.isValid (d : Date) : Bool :=
  1 ≤ d.year && d.year ≤ 9999 && 1 ≤ d.day && d.day ≤ daysInMonth d.year d.month

/-- Whether the day has this time and there can be such a zone: less than a day away. -/
def Timestamp.isValid (t : Timestamp) : Bool :=
  t.date.isValid && t.hour < 24 && t.minute < 60 && t.second < 60 && t.microsecond < 1000000
    && (t.offset.all fun minutes => minutes.natAbs < 24 * 60)

/-! ## Written forms -/

/-- The decimal digits of `n`, at least `width` of them. -/
def padded (width n : Nat) : String :=
  let digits := Nat.toDigits 10 n
  String.ofList (List.replicate (width - digits.length) '0' ++ digits)

/-- A day as year, month and day. -/
def Date.text (d : Date) : String :=
  s!"{padded 4 d.year}-{padded 2 d.month}-{padded 2 d.day}"

/-- A zone as hours and minutes ahead of universal time. -/
def offsetText (minutes : Int) : String :=
  let sign := if minutes < 0 then "-" else "+"
  s!"{sign}{padded 2 (minutes.natAbs / 60)}:{padded 2 (minutes.natAbs % 60)}"

/-- Day and time with `separator` between them. Microseconds and zone stand only where there are
any. -/
def Timestamp.text (separator : String) (t : Timestamp) : String :=
  let fraction := if t.microsecond = 0 then "" else "." ++ padded 6 t.microsecond
  let zone := match t.offset with
    | some minutes => offsetText minutes
    | none => ""
  s!"{t.date.text}{separator}{padded 2 t.hour}:{padded 2 t.minute}:{padded 2 t.second}"
    ++ fraction ++ zone

/-! ## Instants -/

/-- The number of days before the first of January of a year. -/
def daysBeforeYear (year : Nat) : Nat :=
  let past := year - 1
  past * 365 + past / 4 - past / 100 + past / 400

/-- The number of days of a year before the end of its month `months`. -/
def daysThroughMonth (year : Nat) : Nat → Nat
  | 0 => 0
  | months + 1 => daysThroughMonth year months + daysInMonth year (months + 1)

/-- The number of days of the calendar up to this one, itself included. -/
def Date.ordinal (d : Date) : Nat :=
  daysBeforeYear d.year + daysThroughMonth d.year (d.month - 1) + d.day

/-- Microseconds from the start of the calendar, by the clock of universal time if the zone is
known. -/
def Timestamp.instant (t : Timestamp) : Int :=
  let seconds : Int := ((t.date.ordinal * 24 + t.hour) * 60 + t.minute) * 60 + t.second
  (seconds - 60 * t.offset.getD 0) * 1000000 + t.microsecond

/-- Two times are the same instant if their zones are both known or both unknown and their clocks
agree. -/
def Timestamp.sameInstant (a b : Timestamp) : Bool :=
  a.offset.isSome = b.offset.isSome && a.instant = b.instant

end ExternalFields
