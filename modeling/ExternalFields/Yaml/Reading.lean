import ExternalFields.Yaml.Node.Building
import ExternalFields.Yaml.Node.Composing
import ExternalFields.Yaml.Token.Lexer

/-!
# Reading documents

* **`Value.read`**, **`Value.readOctets`**: the data of a document
-/

namespace ExternalFields.Yaml

/-- The data of a document, null if it is empty. -/
def Value.read (chars : List Char) : Except ReadError Value := do
  match ← Graph.ofTokens (Token.ofText chars) with
  | none => return .null
  | some graph => graph.toValue

/-- The code units of two octets each, given which octet of them is the high one. -/
def units16 (bigEndian : Bool) : Octets → Option (List Nat)
  | [] => some []
  | [_] => none
  | a :: b :: rest =>
    let unit := if bigEndian then a.toNat * 0x100 + b.toNat else b.toNat * 0x100 + a.toNat
    (units16 bigEndian rest).map (unit :: ·)

/-- The characters of code units of sixteen bits, nothing if half of a pair stands alone. -/
def charsOfUnits : List Nat → Option (List Char)
  | [] => some []
  | unit :: rest =>
    if unit < 0xD800 ∨ 0xDFFF < unit then (charsOfUnits rest).map (Char.ofNat unit :: ·)
    else if 0xDBFF < unit then none
    else
      match rest with
      | low :: tail =>
        if 0xDC00 ≤ low ∧ low ≤ 0xDFFF then
          let code := 0x10000 + (unit - 0xD800) * 0x400 + (low - 0xDC00)
          (charsOfUnits tail).map (Char.ofNat code :: ·)
        else none
      | [] => none

/-- The characters of a document in octets. Without a byte order mark of the wider encoding it is
UTF-8. -/
def charsOfOctets (octets : Octets) : Option (List Char) :=
  match octets with
  | 0xFF :: 0xFE :: _ => (units16 false octets).bind charsOfUnits
  | 0xFE :: 0xFF :: _ => (units16 true octets).bind charsOfUnits
  | _ => (Utf8.decode octets).toOption

/-- The data of a document in octets. -/
def Value.readOctets (octets : Octets) : Except ReadError Value :=
  match charsOfOctets octets with
  | some chars => Value.read chars
  | none => .error .malformed

end ExternalFields.Yaml
