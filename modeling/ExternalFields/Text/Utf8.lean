import ExternalFields.Text.Basic

/-!
# UTF-8

Reading octets as text. A character is a lead octet followed by the tail octets that its lead
asks for; anything else is a fault, reported with its place and its cause.

* **`Utf8.tails`**: the ranges that the octets after a lead octet lie in
* **`Utf8.next`**: the first character of a text, or the fault it starts with
* **`Utf8.decode`**: the whole text, or its first fault
* **`Utf8.decodeWith`**: the whole text, faults replaced by other text
* **`Utf8.encode`**, **`Utf8.encode?`**: the octets of a text
-/

namespace ExternalFields

/-- The content of a file or of a response. -/
abbrev Octets := List UInt8

namespace Utf8

/-! ## Faults -/

/-- Why octets are not text. -/
inductive Cause where
  /-- No character starts with this octet. -/
  | start
  /-- A character is broken off by an octet that cannot continue it. -/
  | continuation
  /-- The octets end inside a character. -/
  | cut
  deriving DecidableEq, Repr

/-- A run of `length` octets from `position` on that is not text; `first` is its first octet. -/
structure Fault where
  position : Nat
  length : Nat
  first : UInt8
  cause : Cause
  deriving DecidableEq, Repr

/-- The wording of a cause. -/
def Cause.message : Cause → String
  | .start => "invalid start byte"
  | .continuation => "invalid continuation byte"
  | .cut => "unexpected end of data"

/-- The lower-case hexadecimal digits of `n`, at least `width` of them. -/
def hex (width n : Nat) : String :=
  let digits := Nat.toDigits 16 n
  String.ofList (List.replicate (width - digits.length) '0' ++ digits)

/-- One octet is named by its value, several by their places. -/
def Fault.message (f : Fault) : String :=
  let what :=
    if f.length = 1 then s!"byte 0x{hex 2 f.first.toNat} in position {f.position}"
    else s!"bytes in position {f.position}-{f.position + f.length - 1}"
  s!"'utf-8' codec can't decode {what}: {f.cause.message}"

/-! ## Decoding -/

/-- The ranges of the octets after `lead`: none at all when no character starts with it. The
second octet of a character that would be too long for its value, half of a pair or beyond the last
code point lies outside its range. -/
def tails (lead : Nat) : Option (List (Nat × Nat)) :=
  let any := (0x80, 0xBF)
  if lead < 0x80 then some []
  else if lead < 0xC2 then none
  else if lead < 0xE0 then some [any]
  else if lead = 0xE0 then some [(0xA0, 0xBF), any]
  else if lead = 0xED then some [(0x80, 0x9F), any]
  else if lead < 0xF0 then some [any, any]
  else if lead = 0xF0 then some [(0x90, 0xBF), any, any]
  else if lead < 0xF4 then some [any, any, any]
  else if lead = 0xF4 then some [(0x80, 0x8F), any, any]
  else none

/-- The part of the character's value that a lead octet with `count` tails carries. -/
def leadBits (lead count : Nat) : Nat :=
  match count with
  | 0 => lead
  | 1 => lead % 0x20
  | 2 => lead % 0x10
  | _ => lead % 0x08

/-- Takes one octet per range. The result is the value read and the number of octets taken, or the
number of sound octets before the fault and its cause. -/
def takeTails (value taken : Nat) : List (Nat × Nat) → Octets → Except (Nat × Cause) (Nat × Nat)
  | [], _ => .ok (value, taken)
  | _ :: _, [] => .error (taken, .cut)
  | (low, high) :: ranges, octet :: rest =>
    if low ≤ octet.toNat ∧ octet.toNat ≤ high then
      takeTails (value * 0x40 + octet.toNat % 0x40) (taken + 1) ranges rest
    else .error (taken, .continuation)

/-- The first character of `lead :: rest` with the number of octets of `rest` that belong to it,
or the cause of its fault with the number of octets of `rest` that belong to that. -/
def next (lead : UInt8) (rest : Octets) : Except (Nat × Cause) (Char × Nat) :=
  match tails lead.toNat with
  | none => .error (0, .start)
  | some ranges =>
    match takeTails (leadBits lead.toNat ranges.length) 0 ranges rest with
    | .ok (value, taken) => .ok (Char.ofNat value, taken)
    | .error fault => .error fault

/-- Decodes from `position` on. -/
def decodeFrom (position : Nat) (octets : Octets) : Except Fault (List Char) :=
  match octets with
  | [] => .ok []
  | lead :: rest =>
    match next lead rest with
    | .error (taken, cause) => .error ⟨position, taken + 1, lead, cause⟩
    | .ok (c, taken) => (c :: ·) <$> decodeFrom (position + taken + 1) (rest.drop taken)
termination_by octets.length
decreasing_by simp only [List.length_drop, List.length_cons]; omega

/-- The characters of a text, or its first fault. -/
def decode (octets : Octets) : Except Fault (List Char) :=
  decodeFrom 0 octets

/-- The text that octets write, with what `replace` makes of it in the place of each fault. -/
def decodeWith (replace : Octets → Text) (octets : Octets) : Text :=
  match octets with
  | [] => []
  | lead :: rest =>
    match next lead rest with
    | .ok (c, taken) => ↑c :: decodeWith replace (rest.drop taken)
    | .error (taken, _) => replace (lead :: rest.take taken) ++ decodeWith replace (rest.drop taken)
termination_by octets.length
decreasing_by all_goals simp only [List.length_drop, List.length_cons]; omega

/-! ## Encoding -/

/-- The octets of a string. -/
def encode (s : String) : Octets :=
  s.toUTF8.toList

/-- The octets of a text, nothing if it holds halves of pairs. -/
def encode? (text : Text) : Option Octets :=
  if text.hasHalf then none else some (encode text.string)

end Utf8

end ExternalFields
