import ExternalFields.Text.Utf8

/-!
# Base 64

Octets written with 64 printable characters, three octets in four characters.

* **`Base64.encodeLines`**: the written form in lines
* **`Base64.decode`**: the octets of a written form
-/

namespace ExternalFields.Base64

/-- The 64 digits, in order of their values. -/
def alphabet : List Char :=
  "ABCDEFGHIJKLMNOPQRSTUVWXYZabcdefghijklmnopqrstuvwxyz0123456789+/".toList

/-- The digit of a value. -/
def digit (value : Nat) : Char :=
  alphabet.getD value '='

/-- The written form: three octets become four digits, a rest is padded. -/
def encode : Octets → List Char
  | a :: b :: c :: rest =>
    let n := (a.toNat * 0x100 + b.toNat) * 0x100 + c.toNat
    digit (n / 0x40000) :: digit (n / 0x1000 % 0x40) :: digit (n / 0x40 % 0x40) ::
      digit (n % 0x40) :: encode rest
  | [a, b] =>
    let n := (a.toNat * 0x100 + b.toNat) * 4
    [digit (n / 0x1000), digit (n / 0x40 % 0x40), digit (n % 0x40), '=']
  | [a] =>
    let n := a.toNat * 0x10
    [digit (n / 0x40), digit (n % 0x40), '=', '=']
  | [] => []

/-- A text in lines of `width` characters, the last one as long as what is left. -/
def inLines (width : Nat) (chars : List Char) : List (List Char) :=
  if chars.isEmpty || width = 0 then []
  else if chars.length ≤ width then [chars]
  else chars.take width :: inLines width (chars.drop width)
termination_by chars.length
decreasing_by
  rename_i h _
  have : width ≠ 0 := fun hw => h (by simp [hw])
  have : chars.length ≠ 0 := fun hc => h (by simp [List.length_eq_zero_iff.mp hc])
  simp only [List.length_drop]
  omega

/-- The written form in lines of 76 digits. -/
def encodeLines (octets : Octets) : List (List Char) :=
  inLines 76 (encode octets)

/-- Decodes from within a group of four: `held` are the digits of the group so far, `pads` the
padding seen. Characters that are no digits are passed over. -/
def decodeFrom (held : List Nat) (pads : Nat) : List Char → Option Octets
  | [] => if held.isEmpty then some [] else none
  | c :: rest =>
    if c = '=' then
      if 2 ≤ held.length ∧ 4 ≤ held.length + pads + 1 then
        match held with
        | [a, b] => some [UInt8.ofNat (a * 4 + b / 0x10)]
        | [a, b, d] =>
          some [UInt8.ofNat (a * 4 + b / 0x10), UInt8.ofNat (b % 0x10 * 0x10 + d / 4)]
        | _ => none
      else decodeFrom held (if 2 ≤ held.length then pads + 1 else pads) rest
    else
      match alphabet.idxOf? c with
      | none => decodeFrom held pads rest
      | some value =>
        match held with
        | [a, b, d] =>
          (decodeFrom [] 0 rest).map fun octets =>
            UInt8.ofNat (a * 4 + b / 0x10) :: UInt8.ofNat (b % 0x10 * 0x10 + d / 4) ::
              UInt8.ofNat (d % 4 * 0x40 + value) :: octets
        | _ => decodeFrom (held ++ [value]) 0 rest

/-- The octets of a written form, nothing if it ends inside a group. -/
def decode (chars : List Char) : Option Octets :=
  decodeFrom [] 0 chars

end ExternalFields.Base64
