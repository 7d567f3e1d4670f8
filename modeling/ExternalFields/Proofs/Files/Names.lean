import ExternalFields.Proofs.Files.Spelling
import ExternalFields.Proofs.Text.Utf8

/-!
# Names as octets

Octets that are no text are kept in a name as halves of pairs, each of which stands for its octet.
So nothing is lost when octets are read as a name, and the form in which a directory lists a name is
the same for that form.

* **`octets_ofOctets`**: the name that octets write has these octets.
* **`normal_normal`**: the listed form of a name is its own.
* `isName_normal`: no name is listed as dots.
-/

namespace ExternalFields.FileName

lemma isHalf_ofChar (c : Char) : CodePoint.isHalf (CodePoint.ofChar c) = false := by
  have valid := c.valid
  simp only [UInt32.isValidChar, Nat.isValidChar] at valid
  have value : (CodePoint.ofChar c).val = c.val.toNat := rfl
  rw [CodePoint.isHalf, Bool.and_eq_false_iff, decide_eq_false_iff_not, decide_eq_false_iff_not]
  omega

/-- The octets of a character are those of its text. -/
lemma pointOctets_ofChar (c : Char) :
    pointOctets (CodePoint.ofChar c) = Utf8.encode c.toString := by
  have whole := isHalf_ofChar c
  have char : (CodePoint.ofChar c).char = c := by
    rw [CodePoint.char, whole]
    exact Char.ofNat_toNat c
  have no_octet : strayOctet? (CodePoint.ofChar c) = none := by
    simp only [CodePoint.isHalf, Bool.and_eq_false_iff, decide_eq_false_iff_not] at whole
    rw [strayOctet?, if_neg (by omega)]
  rw [pointOctets, no_octet, char]

/-- The half of a pair that stands for an octet has that octet. -/
lemma pointOctets_strayHalf {octet : UInt8} (high : 0x80 ≤ octet.toNat) :
    pointOctets (strayHalf octet) = [octet] := by
  have least := octet.toNat_lt
  have value : (strayHalf octet).val = 0xDC00 + octet.toNat := rfl
  have same : UInt8.ofNat ((strayHalf octet).val - 0xDC00) = octet :=
    Utf8.ofNat_eq (by omega)
  rw [pointOctets, strayOctet?, if_pos (by omega), same]

lemma octets_map_strayHalf {stray : Octets} (high : ∀ octet ∈ stray, 0x80 ≤ octet.toNat) :
    octets (stray.map strayHalf) = stray := by
  rw [octets, List.flatMap_map, List.flatMap_congr fun octet mem =>
    pointOctets_strayHalf (high octet mem)]
  exact List.flatMap_singleton' stray

/-- **The name that octets write has these octets.** -/
theorem octets_ofOctets : ∀ stored : Octets, octets (ofOctets stored) = stored
  | [] => by
      rw [ofOctets, Utf8.decodeWith]
      rfl
  | lead :: rest => by
      rw [ofOctets, Utf8.decodeWith]
      split
      · next c taken read =>
          have tail := octets_ofOctets (rest.drop taken)
          rw [ofOctets, octets] at tail
          rw [octets, List.flatMap_cons, tail, pointOctets_ofChar, Utf8.next_ok read,
            List.cons_append, List.take_append_drop]
      · next taken cause fault =>
          have tail := octets_ofOctets (rest.drop taken)
          have stray := octets_map_strayHalf (Utf8.next_error fault)
          rw [ofOctets, octets] at tail
          rw [octets] at stray ⊢
          rw [List.flatMap_append, tail, stray, List.cons_append, List.take_append_drop]
termination_by stored => stored.length
decreasing_by all_goals simp only [List.length_drop, List.length_cons]; omega

/-- **The listed form of a name is its own.** -/
theorem normal_normal (name : Text) : normal (normal name) = normal name := by
  by_cases halves : name.hasHalf
  · have listed : normal name = ofOctets (octets name) := if_pos halves
    rw [listed, normal]
    split
    · rw [octets_ofOctets]
    · rfl
  · have listed : normal name = name := if_neg halves
    rw [listed, listed]

/-- Halves of pairs are no ASCII characters. -/
lemma pointOctets_half {c : CodePoint} (half : c.isHalf) :
    ∃ octet ∈ pointOctets c, 0x80 ≤ octet.toNat := by
  rw [pointOctets]
  split
  · next octet stray =>
      rw [strayOctet?] at stray
      split at stray
      · next range =>
          obtain rfl := Option.some.inj stray
          have value : (UInt8.ofNat (c.val - 0xDC00)).toNat = (c.val - 0xDC00) % 256 :=
            UInt8.toNat_ofNat'
          exact ⟨_, .head _, by omega⟩
      · cases stray
  · have replaced : c.char = '\uFFFD' := if_pos half
    rw [replaced, Utf8.encode_char]
    exact ⟨0xEF, by decide, by decide⟩

/-- A name with halves of pairs is not listed as ASCII text. -/
lemma normal_ne_ascii {name ascii : Text} (plain : ∀ octet ∈ octets ascii, octet.toNat < 0x80)
    (other : name ≠ ascii) : normal name ≠ ascii := by
  intro listed
  by_cases halves : name.hasHalf
  · rw [normal, if_pos halves] at listed
    have same := octets_ofOctets (octets name)
    rw [listed] at same
    obtain ⟨c, mem, half⟩ := List.any_eq_true.mp halves
    obtain ⟨octet, there, high⟩ := pointOctets_half half
    have low := plain octet (by rw [same]; exact List.mem_flatMap.mpr ⟨c, mem, there⟩)
    omega
  · rw [normal, if_neg halves] at listed
    exact other listed

/-- No name is listed as dots. -/
lemma isName_normal {name : Text} (is_name : Path.IsName name) : Path.IsName (normal name) :=
  ⟨normal_ne_ascii (by decide +kernel) is_name.1, normal_ne_ascii (by decide +kernel) is_name.2⟩

end ExternalFields.FileName
