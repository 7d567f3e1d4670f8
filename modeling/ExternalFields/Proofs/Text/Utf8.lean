import ExternalFields.Text.Utf8
import Mathlib.Data.List.Basic
import Mathlib.Tactic.Lemma

/-!
# Octets of characters

A character that was read from octets is written as the same octets again: each lead octet asks for
the tails of one length of character, and its ranges keep out the values that are written shorter.
Octets that are no text are no ASCII characters.

* `encode_char`: the octets of a single character.
* `takeTails_ok`: the value that tails make up.
* **`next_ok`**: what was read as a character is written the same way.
* **`next_error`**: the octets of a fault are no ASCII characters.
-/

namespace ExternalFields.Utf8

/-! ## Single characters -/

lemma toList_loop (bytes : ByteArray) (i : ℕ) (read : List UInt8) :
    ByteArray.toList.loop bytes i read = read.reverse ++ bytes.data.toList.drop i := by
  rw [ByteArray.toList.loop]
  split
  · next inside =>
      have length : i < bytes.data.toList.length := by
        rw [Array.length_toList]
        exact inside
      have here : bytes.get! i = bytes.data.toList[i] := getElem!_pos bytes.data i inside
      rw [toList_loop bytes (i + 1), List.drop_eq_getElem_cons length, here, List.reverse_cons,
        List.append_assoc, List.singleton_append]
  · next past =>
      have length : bytes.data.toList.length ≤ i := by
        rw [Array.length_toList]
        exact Nat.le_of_not_lt past
      rw [List.drop_eq_nil_of_le length, List.append_nil]
termination_by bytes.size - i

/-- The octets of a single character. -/
lemma encode_char (c : Char) : encode c.toString = String.utf8EncodeChar c := by
  rw [encode, String.toUTF8_eq_toByteArray, Char.toString_eq_singleton,
    String.toByteArray_singleton, List.utf8Encode, List.flatMap_singleton, ByteArray.toList,
    toList_loop, List.reverse_nil, List.nil_append, List.drop_zero, List.toList_data_toByteArray]

/-! ## Tails -/

/-- The value that tails make up, after what comes before them. -/
def tailValue (value : ℕ) (octets : Octets) : ℕ :=
  octets.foldl (fun value octet => value * 0x40 + octet.toNat % 0x40) value

/-- Tails are octets in their ranges, one for each. -/
lemma takeTails_ok : ∀ {ranges : List (ℕ × ℕ)} {rest : Octets} {value taken last count : ℕ},
    takeTails value taken ranges rest = .ok (last, count) →
      ∃ octets after, rest = octets ++ after ∧ count = taken + octets.length
        ∧ List.Forall₂ (fun range octet => range.1 ≤ octet.toNat ∧ octet.toNat ≤ range.2)
          ranges octets
        ∧ last = tailValue value octets
  | [], rest, value, taken, last, count, h => by
      cases h
      exact ⟨[], rest, rfl, rfl, .nil, rfl⟩
  | _ :: _, [], _, _, _, _, h => by cases h
  | (low, high) :: ranges, octet :: rest, value, taken, last, count, h => by
      rw [takeTails] at h
      split at h
      · next within =>
          obtain ⟨octets, after, rfl, rfl, inside, rfl⟩ := takeTails_ok h
          exact ⟨octet :: octets, after, rfl, by rw [List.length_cons]; omega,
            .cons within inside, rfl⟩
      · cases h

/-- The sound octets before a fault lie in their ranges. -/
lemma takeTails_error {low : ℕ} : ∀ {ranges : List (ℕ × ℕ)} {rest : Octets}
    {value taken count : ℕ} {cause : Cause}, (∀ range ∈ ranges, low ≤ range.1) →
      takeTails value taken ranges rest = .error (count, cause) →
        taken ≤ count ∧ ∀ octet ∈ rest.take (count - taken), low ≤ octet.toNat
  | [], _, _, _, _, _, _, h => by cases h
  | _ :: _, [], _, _, _, _, _, h => by
      cases h
      exact ⟨Nat.le_refl _, by simp⟩
  | (least, most) :: ranges, octet :: rest, value, taken, count, cause, above, h => by
      rw [takeTails] at h
      split at h
      · next within =>
          obtain ⟨more, sound⟩ :=
            takeTails_error (fun range mem => above range (.tail _ mem)) h
          have here : low ≤ octet.toNat := Nat.le_trans (above _ (.head _)) within.1
          refine ⟨by omega, fun other mem => ?_⟩
          rw [show count - taken = (count - (taken + 1)) + 1 by omega, List.take_succ_cons] at mem
          obtain rfl | mem := List.mem_cons.mp mem
          · exact here
          · exact sound other mem
      · cases h
        exact ⟨Nat.le_refl _, by simp⟩

/-! ## Characters -/

/-- A lead octet and the ranges of the octets after it, by the length of the character. -/
inductive Leads (lead : ℕ) : List (ℕ × ℕ) → Prop where
  | one : lead < 0x80 → Leads lead []
  | two : 0xC2 ≤ lead → lead < 0xE0 → Leads lead [(0x80, 0xBF)]
  | three {low high : ℕ} : 0xE0 ≤ lead → lead < 0xF0 → 0x80 ≤ low → high ≤ 0xBF →
      (lead = 0xE0 → 0xA0 ≤ low) → (lead = 0xED → high ≤ 0x9F) →
        Leads lead [(low, high), (0x80, 0xBF)]
  | four {low high : ℕ} : 0xF0 ≤ lead → lead ≤ 0xF4 → 0x80 ≤ low → high ≤ 0xBF →
      (lead = 0xF0 → 0x90 ≤ low) → (lead = 0xF4 → high ≤ 0x8F) →
        Leads lead [(low, high), (0x80, 0xBF), (0x80, 0xBF)]

lemma leads_of_tails {lead : ℕ} {ranges : List (ℕ × ℕ)} (found : tails lead = some ranges) :
    Leads lead ranges := by
  simp only [tails] at found
  repeat' split at found
  all_goals cases found
  · exact .one ‹_›
  · exact .two (by omega) ‹_›
  -- three octets: after E0, after ED, and after the others
  · exact .three (by omega) (by omega) (by omega) (by omega) (by omega) (by omega)
  · exact .three (by omega) (by omega) (by omega) (by omega) (by omega) (by omega)
  · exact .three (by omega) (by omega) (by omega) (by omega) (by omega) (by omega)
  -- four octets: after F0, after F4, and after those between
  · exact .four (by omega) (by omega) (by omega) (by omega) (by omega) (by omega)
  · exact .four (by omega) (by omega) (by omega) (by omega) (by omega) (by omega)
  · exact .four (by omega) (by omega) (by omega) (by omega) (by omega) (by omega)

lemma toNat_ofNat {n : ℕ} (small : n < 0x110000) (whole : n < 0xD800 ∨ 0xDFFF < n) :
    (Char.ofNat n).val.toNat = n := by
  have valid : n.isValidChar := by
    rw [Nat.isValidChar]
    omega
  rw [Char.ofNat, dif_pos valid]
  rfl

lemma ofNat_eq {n : ℕ} {octet : UInt8} (same : n = octet.toNat) : UInt8.ofNat n = octet := by
  rw [same, UInt8.ofNat_toNat]

/-- **What was read as a character is written the same way.** -/
theorem next_ok {lead : UInt8} {rest : Octets} {c : Char} {taken : ℕ}
    (h : next lead rest = .ok (c, taken)) : encode c.toString = lead :: rest.take taken := by
  rw [next] at h
  split at h
  · cases h
  · next ranges found =>
      split at h
      · next value count taken_eq =>
          cases h
          obtain ⟨octets, after, rfl, rfl, inside, rfl⟩ := takeTails_ok taken_eq
          have least : lead.toNat < 0x100 := lead.toNat_lt
          rw [Nat.zero_add, List.take_left' rfl, encode_char, String.utf8EncodeChar]
          cases leads_of_tails found with
          | one ascii =>
              cases inside
              simp only [tailValue, leadBits, List.foldl_nil, List.length_nil]
              rw [toNat_ofNat (by omega) (by omega), if_pos (by omega), ofNat_eq rfl]
          | two lower upper =>
              obtain _ | ⟨⟨low₁, high₁⟩, _ | _⟩ := inside
              simp only [tailValue, leadBits, List.foldl_nil, List.foldl_cons, List.length_nil,
                List.length_cons]
              rw [toNat_ofNat (by omega) (by omega), if_neg (by omega), if_pos (by omega)]
              simp only [List.cons.injEq, and_true]
              exact ⟨ofNat_eq (by omega), ofNat_eq (by omega)⟩
          | three lower upper _ _ after_e0 after_ed =>
              obtain _ | ⟨⟨low₁, high₁⟩, _ | ⟨⟨low₂, high₂⟩, _ | _⟩⟩ := inside
              simp only [tailValue, leadBits, List.foldl_nil, List.foldl_cons, List.length_nil,
                List.length_cons]
              rw [toNat_ofNat (by omega) (by omega), if_neg (by omega), if_neg (by omega),
                if_pos (by omega)]
              simp only [List.cons.injEq, and_true]
              exact ⟨ofNat_eq (by omega), ofNat_eq (by omega), ofNat_eq (by omega)⟩
          | four lower upper _ _ after_f0 after_f4 =>
              obtain _ | ⟨⟨low₁, high₁⟩, _ | ⟨⟨low₂, high₂⟩, _ | ⟨⟨low₃, high₃⟩, _ | _⟩⟩⟩ := inside
              simp only [tailValue, leadBits, List.foldl_nil, List.foldl_cons, List.length_nil,
                List.length_cons]
              rw [toNat_ofNat (by omega) (by omega), if_neg (by omega), if_neg (by omega),
                if_neg (by omega)]
              simp only [List.cons.injEq, and_true]
              exact ⟨ofNat_eq (by omega), ofNat_eq (by omega), ofNat_eq (by omega),
                ofNat_eq (by omega)⟩
      · cases h

/-- **The octets of a fault are no ASCII characters.** -/
theorem next_error {lead : UInt8} {rest : Octets} {taken : ℕ} {cause : Cause}
    (h : next lead rest = .error (taken, cause)) :
    ∀ octet ∈ lead :: rest.take taken, 0x80 ≤ octet.toNat := by
  rw [next] at h
  split at h
  · next found =>
      cases h
      have lead_high : 0x80 ≤ lead.toNat := by
        by_contra low
        rw [tails, if_pos (by omega)] at found
        cases found
      simpa using lead_high
  · next ranges found =>
      split at h
      · cases h
      · next fault failed =>
          cases h
          have above : 0x80 ≤ lead.toNat ∧ ∀ range ∈ ranges, 0x80 ≤ range.1 := by
            cases leads_of_tails found with
            | one _ => cases failed
            | two lower _ => exact ⟨by omega, by simp⟩
            | three lower _ low _ _ _ => exact ⟨by omega, by simpa using low⟩
            | four lower _ low _ _ _ => exact ⟨by omega, by simpa using low⟩
          obtain ⟨-, sound⟩ := takeTails_error above.2 failed
          rintro octet (_ | ⟨_, mem⟩)
          · exact above.1
          · exact sound octet mem

end ExternalFields.Utf8
