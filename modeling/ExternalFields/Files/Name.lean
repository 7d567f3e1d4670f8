import ExternalFields.Text.Utf8

/-!
# Names of files

The names of files are octets, which mostly are text. Each octet of a name that is no text reads as
a half of a pair, one of those from U+DC80 to U+DCFF, and such a half stands for its octet.

* **`FileName.octets`**: the octets of a name
* **`FileName.ofOctets`**: the name that octets write
* **`FileName.isUsable`**: which texts can be names
-/

namespace ExternalFields.FileName

/-- The octet that half of a pair stands for, if it stands for any. -/
def strayOctet? (c : CodePoint) : Option UInt8 :=
  if 0xDC80 ≤ c.val ∧ c.val ≤ 0xDCFF then some (UInt8.ofNat (c.val - 0xDC00)) else none

/-- The half of a pair that stands for an octet. -/
def strayHalf (octet : UInt8) : CodePoint :=
  ⟨0xDC00 + octet.toNat, by have := octet.toNat_lt; omega⟩

/-- The octets of a code point. -/
def pointOctets (c : CodePoint) : Octets :=
  match strayOctet? c with
  | some octet => [octet]
  | none => Utf8.encode c.char.toString

/-- The octets of a name. -/
def octets (name : Text) : Octets :=
  name.flatMap pointOctets

/-- The name that octets write. -/
def ofOctets (octets : Octets) : Text :=
  Utf8.decodeWith (·.map strayHalf) octets

/-- The name that the octets of a text write. -/
def normal (name : Text) : Text :=
  if name.hasHalf then ofOctets (octets name) else name

/-- A name as it is shown to people: the replacement character stands where it is no text. -/
def shown (name : Text) : Text :=
  if name.hasHalf then Utf8.decodeWith (fun _ => ['\uFFFD']) (octets name) else name

/-- Whether a text has octets: its halves of pairs stand for octets. -/
def isEncodable (name : Text) : Bool :=
  name.all fun c => !c.isHalf || (strayOctet? c).isSome

/-- Whether a text can be a name: it has octets, and holds no NUL character. -/
def isUsable (name : Text) : Bool :=
  isEncodable name && !name.contains '\x00'

end ExternalFields.FileName
