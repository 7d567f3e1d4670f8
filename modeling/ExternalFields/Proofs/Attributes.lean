import ExternalFields.Attribute
import ExternalFields.Proofs.Results

/-!
# Typed attributes

An attribute may be missing or null.  Otherwise it is read exactly if it is of its type.

* `Attribute.Allows`: what may be found under the key of an attribute.
* **`Attribute.text?_ok_iff`**, **`Attribute.flag?_ok_iff`**, **`Attribute.texts_ok_iff`**: the
  attributes of each type.
-/

namespace ExternalFields.Attribute

open Yaml

inductive IsText : Value → Prop
  | text (s : Text) : IsText (.text s)

inductive IsFlag : Value → Prop
  | bool (b : Bool) : IsFlag (.bool b)

inductive IsTextList : Value → Prop
  | list {items : List Value} {mark : Mark} (texts : ∀ item ∈ items, IsText item) :
      IsTextList (.list items mark)

/-- What is found under a key is nothing, or null, or a value that fits. -/
def Allows (fits : Value → Prop) (found : Option Value) : Prop :=
  ∀ value, found = some value → value = .null ∨ fits value

variable {entries : Entries} {path key : Text}

lemma allows_none (fits : Value → Prop) : Allows fits none := nofun

lemma allows_some {fits : Value → Prop} {value : Value} :
    Allows fits (some value) ↔ value = .null ∨ fits value := by
  simp [Allows]

lemma not_allows {fits : Value → Prop} {value : Value} (not_null : value ≠ .null)
    (unfit : ¬ fits value) : ¬ Allows fits (some value) :=
  fun allowed => (allowed value rfl).elim not_null unfit

lemma text?_ok_iff : (∃ s, text? entries path key = .ok s) ↔
    Allows IsText (Value.lookup key entries) := by
  rw [text?]
  split
  · next found => simp [found, allows_none]
  · next found => simp [found, allows_some]
  · next s found => simp [found, allows_some, IsText.text s]
  · next not_null not_text found =>
      rw [found]
      refine iff_of_false nofun (not_allows not_null fun fits => ?_)
      cases fits with
      | text s => exact not_text s rfl

lemma flag?_ok_iff : (∃ b, flag? entries path key = .ok b) ↔
    Allows IsFlag (Value.lookup key entries) := by
  rw [flag?]
  split
  · next found => simp [found, allows_none]
  · next found => simp [found, allows_some]
  · next b found => simp [found, allows_some, IsFlag.bool b]
  · next not_null not_flag found =>
      rw [found]
      refine iff_of_false nofun (not_allows not_null fun fits => ?_)
      cases fits with
      | bool b => exact not_flag b rfl

lemma allTexts?_ok_iff : ∀ items : List Value,
    (∃ strings, allTexts? items = some strings) ↔ ∀ item ∈ items, IsText item
  | [] => by simp [allTexts?]
  | item :: rest => by
      rw [List.forall_mem_cons, ← allTexts?_ok_iff rest]
      cases item with
      | text s => simp [allTexts?, IsText.text s]
      | _ => exact iff_of_false nofun nofun

lemma texts_ok_iff : (∃ strings, texts entries path key = .ok strings) ↔
    Allows IsTextList (Value.lookup key entries) := by
  rw [texts]
  split
  · next found => simp [found, allows_none]
  · next found => simp [found, allows_some]
  · next items mark found =>
      rw [found]
      have all_texts := allTexts?_ok_iff items
      split
      · next strings read =>
          have fits : IsTextList (.list items mark) := .list (all_texts.mp ⟨strings, read⟩)
          exact iff_of_true ⟨strings, rfl⟩ (allows_some.mpr (.inr fits))
      · next unread =>
          refine iff_of_false nofun (not_allows nofun fun fits => ?_)
          cases fits with
          | list texts =>
              obtain ⟨strings, read⟩ := all_texts.mpr texts
              cases unread.symm.trans read
  · next not_null not_list found =>
      rw [found]
      refine iff_of_false nofun (not_allows not_null fun fits => ?_)
      cases fits with
      | list _ => exact not_list _ _ rfl

end ExternalFields.Attribute
