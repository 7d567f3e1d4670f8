import ExternalFields.Yaml.Value

/-!
# The order of sets

A set keeps its members in a table and lists them in the order of their places there. The place of a
number follows from its value and from the members that were there before it. The places of other
members follow from nothing that a document says, so that a set which holds any of them lists its
members in the order of the document.

* **`Value.fingerprint?`**: what the place of a number follows from
* **`SetTable`**: the table of a set
* **`Value.listed`**: the members of a set as it lists them
* **`Value.relisted`**: the same of a copy of a set
-/

namespace ExternalFields.Yaml

/-! ## Fingerprints -/

/-- The prime number that fingerprints are taken modulo of. -/
def fingerprintPrime : Nat := Nat.pow 2 61 - 1

/-- The fingerprint of a number with this sign and remainder, negative ones counting down from
`2^64`. Minus one has that of minus two. -/
def fingerprint (negative : Bool) (remainder : Nat) : Nat :=
  if negative && remainder != 0 then Nat.pow 2 64 - max remainder 2 else remainder

/-- The fingerprint of a number, which depends on its value alone. A unit of floating-point numbers
is as good as `2^24`, for `2^61` is as good as one. -/
def Value.fingerprint? (value : Value) : Option Nat :=
  match value.number? with
  | some (.inl n) => some (fingerprint (n < 0) (n.natAbs % fingerprintPrime))
  | some (.inr (.finite negative units)) =>
    some (fingerprint negative (units * Nat.pow 2 24 % fingerprintPrime))
  | some (.inr (.infinite negative)) => some (fingerprint negative 314159)
  | some (.inr .nan) | none => none

/-! ## Tables -/

/-- The table of a set, whose members stand for something: its places, some of them taken by a
fingerprint and what its member stands for, and the number of members. -/
structure SetTable (α : Type) where
  places : Array (Option (Nat × α))
  count : Nat := 0

namespace SetTable

variable {α : Type}

/-- An empty table with more than `count` places, which are a power of two. -/
def empty (count : Nat) : SetTable α where
  places := Array.replicate (if count < 8 then 8 else Nat.pow 2 (Nat.log2 count + 1)) none

/-- The free place that a search from a place on finds. It tries the nine places that follow, too,
as far as they are all there, and then goes elsewhere. -/
def freePlace (places : Array (Option (Nat × α))) (spread : Nat) : Nat → Nat → Nat
  | 0, place => place
  | fuel + 1, place =>
    let tries := if place + 9 < places.size then 10 else 1
    match (List.range' place tries).find? fun i => (places.getD i none).isNone with
    | some free => free
    | none =>
      let spread := spread / 32
      freePlace places spread fuel ((place * 5 + 1 + spread) % places.size)

/-- Puts a member into a free place. The search goes through all places once its fingerprint is
used up. -/
def put (table : SetTable α) (member : Nat × α) : SetTable α :=
  let size := table.places.size
  let place := freePlace table.places member.1 (size + 13) (member.1 % size)
  { places := table.places.setIfInBounds place (some member), count := table.count + 1 }

/-- The members in the order of their places. -/
def members (table : SetTable α) : List (Nat × α) :=
  table.places.toList.filterMap id

/-- Whether a table would be too full with so many members. -/
def isFull (table : SetTable α) (count : Nat) : Bool :=
  (table.places.size - 1) * 3 ≤ count * 5

/-- Moves to a table with more than `count` places. -/
def grow (table : SetTable α) (count : Nat) : SetTable α :=
  table.members.foldl put (empty count)

/-- Adds a member, and moves to a larger table if there are too many. -/
def add (table : SetTable α) (member : Nat × α) : SetTable α :=
  let table := table.put member
  if table.isFull table.count then
    table.grow (table.count * if 50000 < table.count then 2 else 4)
  else table

/-- What members stand for in the order of their places, once they are added one after the other.
Without a fingerprint for each of them they stay in the order they are in. -/
def listed (table : SetTable α) (members : List (Value × α)) : List α :=
  match members.mapM fun (member, a) => member.fingerprint?.map fun print => (print, a) with
  | some members => (members.foldl add table).members.map Prod.snd
  | none => members.map Prod.snd

end SetTable

/-! ## Listing members -/

/-- The members of a set as it lists them. It is made from all of them at once. -/
def Value.listed (members : List Value) : List Value :=
  let small := SetTable.empty 0
  let count := members.length
  let table := if small.isFull count then SetTable.empty (count * 2) else small
  table.listed (members.map fun member => (member, member))

/-- What the members of a set stand for as a copy of the set lists them. It is made from one after
the other. -/
def Value.relisted {α : Type} (members : List (Value × α)) : List α :=
  (SetTable.empty 0).listed members

end ExternalFields.Yaml
