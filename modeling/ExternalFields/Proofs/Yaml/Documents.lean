import ExternalFields.Package
import ExternalFields.Proofs.Yaml.Outlines

/-!
# What is written

A document is written from an outline by strokes of a pen, each of which keeps the pen clean
(`Writer.node_clean`): a text that holds what a document may not is written between quotation marks,
and everything else holds allowed characters only.  So whatever the fields hold, control characters
and halves of pairs included, their document holds allowed characters (`Field.render_mayHold`).

* `mayHold_encodeLines`: octets in base 64.
* `Style.mayHold_of_ne_double`: texts that need no quotation marks.
* **`Writer.node_clean`**: the text of an outline.
* **`Field.render_mayHold`**: the document of fields.
-/

namespace ExternalFields

/-! ## Base 64 -/

namespace Base64

open Yaml

lemma isAllowed_digit (value : ℕ) : isAllowed (digit value) := by
  have digits : MayHold alphabet := by decide
  rw [digit, List.getD_eq_getElem?_getD]
  cases found : alphabet[value]? with
  | none => decide
  | some c => exact digits c (List.mem_of_getElem? found)

lemma mayHold_encode : ∀ octets : Octets, MayHold (encode octets)
  | [] => mayHold_nil
  | [_] | [_, _] => by
      simp only [encode, mayHold_cons, isAllowed_digit, mayHold_nil, true_and, and_true]
      decide
  | a :: b :: c :: rest => by
      simp only [encode, mayHold_cons, isAllowed_digit, true_and]
      exact mayHold_encode rest

lemma mayHold_inLines (width : ℕ) (chars : List Char) (clean : MayHold chars) :
    ∀ line ∈ inLines width chars, MayHold line := by
  fun_induction inLines width chars with
  | case1 => exact List.forall_mem_nil _
  | case2 => exact List.forall_mem_singleton.mpr clean
  | case3 chars _ _ ih =>
      exact List.forall_mem_cons.mpr
        ⟨clean.subset (List.take_subset _ _), ih (clean.subset (List.drop_subset _ _))⟩

lemma mayHold_encodeLines (octets : Octets) : ∀ line ∈ encodeLines octets, MayHold line :=
  mayHold_inLines 76 _ (mayHold_encode octets)

end Base64

namespace Yaml

/-- A text that is not written between quotation marks holds allowed characters. -/
lemma Style.mayHold_of_ne_double {simpleKey : Bool} {text : Text}
    (other : ofText simpleKey text ≠ .double) : MayHold text.chars := by
  have unspecial : text.chars.any isSpecial = false := by
    rw [ofText] at other
    split_ifs at other with half plain single
    · exact absurd rfl other
    · simp only [allowsPlain, Bool.and_eq_true, Bool.not_eq_true'] at plain
      exact plain.1.1.1.2
    · simp only [allowsSingle, Bool.and_eq_true, Bool.not_eq_true'] at single
      exact single.1.1.1
    · exact absurd rfl other
  intro c mem
  refine isAllowed_of_unspecial ?_
  by_contra special
  exact absurd (List.any_eq_true.mpr ⟨c, mem, by simpa using special⟩) (by simp [unspecial])

/-! ## Outlines -/

namespace Writer

variable {writer : Writer}

/-- A writer whose pen is clean. -/
def IsClean (writer : Writer) : Prop := writer.pen.IsClean

lemma mayHold_name? {object : Identity} {name : String} (named : writer.name? object = some name) :
    MayHold name.toList := by
  rw [name?, Option.map_eq_some_iff] at named
  obtain ⟨index, -, rfl⟩ := named
  rw [String.toList_append, mayHold_append]
  refine ⟨by decide, ?_⟩
  rw [String.toList_ofList]
  exact mayHold_padded _ (mayHold_toDigits 10 (index + 1))

/-- Markup with the name of an object. -/
lemma mark_clean (clean : writer.IsClean) {mark name : String} (marked : MayHold mark.toList)
    {object : Identity} (named : writer.name? object = some name) :
    (writer.draw (·.indicator (mark ++ name) true)).IsClean := by
  refine Pen.indicator_clean clean ?_ true false
  rw [String.toList_append, mayHold_append]
  exact ⟨marked, mayHold_name? named⟩

lemma announce_clean (clean : writer.IsClean) (object? : Option Identity) :
    (writer.announce object?).IsClean := by
  rw [announce]
  split
  · next name named =>
      obtain ⟨object, -, named⟩ := Option.bind_eq_some_iff.mp named
      exact mark_clean clean (by decide) named
  · exact clean

lemma refer_clean (clean : writer.IsClean) (object : Identity) : (writer.refer object).IsClean := by
  rw [refer]
  split
  · next named => exact mark_clean clean (by decide) named
  · exact clean

lemma scalar_clean (clean : writer.IsClean) (simpleKey : Bool) (indent : ℕ) {tag : Tag}
    {text : Text} (allowed : tag ≠ .text → MayHold text.chars) :
    (writer.scalar simpleKey indent tag text).IsClean := by
  have unquoted : ∀ style ≠ Style.double,
      (if tag == .text then Style.ofText simpleKey text else .plain) = style →
        MayHold text.chars := by
    rintro _ other rfl
    split at other
    · exact Style.mayHold_of_ne_double other
    · next other_tag => exact allowed (by simpa using other_tag)
  rw [scalar, draw, IsClean]
  dsimp only
  split
  · next plain => exact Pen.plain_clean clean _ _ (unquoted _ (by decide) plain)
  · next single => exact Pen.single_clean clean _ _ (unquoted _ (by decide) single)
  · exact Pen.double_clean clean _ _ text

lemma simpleKey_clean (clean : writer.IsClean) (indent : ℕ) {key : Outline}
    (key_clean : key.IsClean) : (writer.simpleKey indent key).IsClean := by
  cases key_clean with
  | scalar allowed => exact scalar_clean (announce_clean clean _) true _ allowed
  | again object => exact refer_clean clean object
  | octets _ => exact clean
  | list _ => exact clean
  | mapping _ _ _ => exact clean

lemma octets_clean (clean : writer.IsClean) (indent : ℕ) (content : Octets) :
    (writer.octets indent content).IsClean := by
  have tagged : (writer.pen.indicator Tag.binary.short true).IsClean :=
    Pen.indicator_clean clean (by decide) true false
  rw [octets, draw, IsClean]
  exact (Pen.double_clean tagged true indent []).ite
    (Pen.literal_clean tagged indent (Base64.mayHold_encodeLines content))

lemma emptyCollection_clean (clean : writer.IsClean) {opening closing : String}
    (opens : MayHold opening.toList) (closes : MayHold closing.toList) :
    (writer.emptyCollection opening closing).IsClean :=
  Pen.indicator_clean ((Pen.indicator_clean clean opens true false).of_text rfl) closes false false

mutual

/-- **The text of an outline is clean.** -/
theorem node_clean : ∀ {outline : Outline} {writer : Writer} (inMapping : Bool)
    (indent? : Option ℕ), outline.IsClean → writer.IsClean →
      (node writer inMapping indent? outline).IsClean
  | .scalar .., _, _, _, .scalar allowed, clean =>
      scalar_clean (announce_clean clean _) false _ allowed
  | .octets content, _, _, _, _, clean => octets_clean clean _ content
  | .again object, _, _, _, _, clean => refer_clean clean object
  | .list items object, writer, inMapping, indent?, .list items_clean, clean => by
      have announced := announce_clean clean object
      rw [node]
      split
      · exact emptyCollection_clean announced (by decide) (by decide)
      · exact nodes_clean _ items_clean announced
  | .mapping tag pairs object, writer, inMapping, indent?, .mapping named keys values, clean => by
      have tagged : (if tag == .mapping then writer.announce object else
          (writer.announce object).draw (·.indicator tag.short true)).IsClean := by
        have announced := announce_clean clean object
        split
        · exact announced
        · exact Pen.indicator_clean announced named true false
      rw [node.eq_def]
      dsimp only
      split
      · exact emptyCollection_clean tagged (by decide) (by decide)
      · exact entries_clean _ keys values tagged

/-- The items of a list. -/
theorem nodes_clean : ∀ {items : List Outline} {writer : Writer} (indent : ℕ),
    (∀ item ∈ items, item.IsClean) → writer.IsClean → (nodes writer indent items).IsClean
  | [], _, _, _, clean => clean
  | item :: rest, writer, indent, items_clean, clean => by
      obtain ⟨first, others⟩ := List.forall_mem_cons.mp items_clean
      have dashed : (writer.draw fun pen => (pen.indentTo indent).indicator "-" true true).IsClean :=
        Pen.indicator_clean (Pen.indentTo_clean clean indent) (by decide) true true
      rw [nodes]
      exact nodes_clean indent others (node_clean false (some indent) first dashed)

/-- The entries of a mapping. -/
theorem entries_clean : ∀ {pairs : List (Outline × Outline)} {writer : Writer} (indent : ℕ),
    (∀ pair ∈ pairs, pair.1.IsClean) → (∀ pair ∈ pairs, pair.2.IsClean) → writer.IsClean →
      (entries writer indent pairs).IsClean
  | [], _, _, _, _, clean => clean
  | (key, value) :: rest, writer, indent, keys, values, clean => by
      obtain ⟨key_clean, other_keys⟩ := List.forall_mem_cons.mp keys
      obtain ⟨value_clean, other_values⟩ := List.forall_mem_cons.mp values
      have started : (writer.draw (·.indentTo indent)).IsClean := Pen.indentTo_clean clean indent
      rw [entries]
      dsimp only
      refine entries_clean indent other_keys other_values
        (node_clean true (some indent) value_clean ?_)
      split
      · exact Pen.indicator_clean (simpleKey_clean started indent key_clean) (by decide) false false
      · have asked : ((writer.draw (·.indentTo indent)).draw (·.indicator "?" true true)).IsClean :=
          Pen.indicator_clean started (by decide) true true
        have named := node_clean true (some indent) key_clean asked
        exact Pen.indicator_clean (Pen.indentTo_clean named indent) (by decide) true true

end

end Writer

/-- What is written of clean outlines is allowed. -/
lemma write_mayHold {document : Outlining Outline} {text : String}
    (clean : Yields Outline.IsClean document) (written : document.write = .ok text) :
    MayHold text.toList := by
  simp only [Outlining.write, Outlining.result, bind_eq_ok, pure_eq_ok] at written
  obtain ⟨⟨outline, repeated⟩, ⟨⟨_, outliner⟩, run, same⟩, written⟩ := written
  cases same
  split at written
  · cases written
  · cases written
    have started : Writer.IsClean { repeated := outliner.repeated.reverse } := mayHold_nil
    exact Pen.indentTo_clean (Writer.node_clean false none (clean _ _ _ run) started) 0

end Yaml

open Yaml

/-- **The document of fields holds allowed characters**, whatever the fields hold. -/
theorem Field.render_mayHold {owned : Bool} {fields : List Field} {text : String}
    (rendered : Field.render owned fields = .ok text) : MayHold text.toList := by
  refine write_mayHold ?_ rendered
  exact (outlineAll_clean owned fields).bind fun _ clean => .pure (.list clean)

lemma Injected.text_mayHold {injected : Injected} {text : String}
    (written : injected.text = .ok text) : MayHold text.toList :=
  Field.render_mayHold (mapError_eq_ok.mp written)

end ExternalFields
