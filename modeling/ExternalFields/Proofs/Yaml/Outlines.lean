import ExternalFields.Field.Rendering
import ExternalFields.Proofs.Files.Names
import ExternalFields.Proofs.Results
import ExternalFields.Proofs.Yaml.Strokes

/-!
# What is outlined

Of the scalars in an outline only texts can hold characters that a document may not hold: numbers,
dates and truth values are spelled with letters, digits and a few marks.  Outlining remembers the
objects that it meets, but this has no part in what is spelled; so what the outline of data is made
of follows from the data, whatever was met before (`Yields`).

* `mayHold_positional`, `mayHold_scientific`, `mayHold_wholeText?`: numbers.
* `Outline.IsClean`: outlines whose other scalars hold allowed characters.
* `Yields`: what steps yield, from wherever they start.
* `SetTable.mem_listed`: what a set lists is what was put into it.
* **`Value.outline_clean`**, **`Field.outline_clean`**: data and fields.
-/

namespace ExternalFields

/-- The characters of a string are those of its text. -/
@[simp] lemma Text.chars_ofString (s : String) : Text.chars (s : Text) = s.toList := by
  have char_ofChar : ∀ c : Char, CodePoint.char (CodePoint.ofChar c) = c := by
    intro c
    rw [CodePoint.char, FileName.isHalf_ofChar, if_neg Bool.false_ne_true]
    exact Char.ofNat_toNat c
  rw [Text.ofString, Text.ofChars, Text.chars, List.map_map]
  exact List.map_id'' char_ofChar _

namespace Yaml

/-! ## Numbers and dates -/

lemma mayHold_wholeText? {n : Int} {digits : String} (written : wholeText? n = some digits) :
    MayHold digits.toList := by
  rw [wholeText?] at written
  split at written
  · cases written
  · cases written
    rw [String.toList_ofList]
    split
    · exact mayHold_cons.mpr ⟨by decide, mayHold_toDigits _ _⟩
    · exact mayHold_toDigits _ _

lemma mayHold_positional {digits : List Char} (clean : MayHold digits) (point : Int) :
    MayHold (positional digits point) := by
  rw [positional]
  split
  · rw [mayHold_cons, mayHold_cons]
    exact ⟨by decide, by decide, mayHold_padded _ clean⟩
  · have whole := clean.subset (List.take_subset point.toNat digits)
    have zeros := mayHold_replicate (point.toNat - digits.length) (by decide : isAllowed '0')
    rw [mayHold_append, mayHold_append, mayHold_cons]
    refine ⟨⟨whole, zeros⟩, by decide, ?_⟩
    split
    · decide
    · exact clean.subset (List.drop_subset point.toNat digits)

lemma mayHold_scientific {digits : List Char} (clean : MayHold digits) (point : Int) :
    MayHold (scientific digits point) := by
  unfold scientific
  dsimp only
  have exponent := mayHold_padded (2 - (Nat.toDigits 10 (point - 1).natAbs).length)
    (mayHold_toDigits 10 (point - 1).natAbs)
  have sign : isAllowed (if point - 1 < 0 then '-' else '+') := by
    split <;> decide
  rw [mayHold_append, mayHold_cons, mayHold_cons]
  refine ⟨?_, by decide, sign, exponent⟩
  split
  · simp only [mayHold_cons] at clean ⊢
    exact ⟨clean.1, by decide, clean.2⟩
  · exact clean

lemma mayHold_binary64 : ∀ x : Binary64, MayHold x.text.toList
  | .nan => by decide
  | .infinite negative => by cases negative <;> decide
  | .finite negative units => by
      have body : ∀ digits place, MayHold
          (if digits = 0 then ['0', '.', '0'] else Binary64.layout.write digits place) := by
        intro digits place
        split
        · decide
        · have kept : MayHold
              ((Nat.toDigits 10 digits).reverse.dropWhile (· = '0')).reverse := by
            refine (mayHold_toDigits 10 digits).subset fun c mem => ?_
            have mem := List.mem_reverse.mp mem
            exact List.mem_reverse.mp ((List.dropWhile_sublist _).subset mem)
          rw [DecimalLayout.write]
          split
          · exact mayHold_positional kept _
          · exact mayHold_scientific kept _
      rw [Binary64.text]
      dsimp only
      rw [String.toList_ofList]
      split
      · exact mayHold_cons.mpr ⟨by decide, body _ _⟩
      · exact body _ _

lemma mayHold_floatText (x : Binary64) : MayHold (floatText x).toList := by
  have text := mayHold_binary64 x
  unfold floatText
  split
  · decide
  · split <;> decide
  · dsimp only
    split
    · exact text
    · rw [String.toList_append, String.toList_append, String.toList_ofList, String.toList_ofList,
        mayHold_append, mayHold_append]
      refine ⟨⟨text.subset (List.takeWhile_sublist _).subset, ?_⟩,
        text.subset (List.dropWhile_sublist _).subset⟩
      split <;> decide

lemma mayHold_number (width n : ℕ) : MayHold (padded width n).toList := by
  rw [padded, String.toList_ofList]
  exact mayHold_padded _ (mayHold_toDigits 10 n)

lemma mayHold_date (d : Date) : MayHold d.text.toList := by
  simp only [Date.text, String.toList_append, mayHold_append, toString, mayHold_number]
  decide

lemma mayHold_timestamp (t : Timestamp) : MayHold (t.text " ").toList := by
  have zone : ∀ minutes, MayHold (offsetText minutes).toList := by
    intro minutes
    simp only [offsetText, String.toList_append, mayHold_append, toString, mayHold_number]
    split <;> decide
  simp only [Timestamp.text, String.toList_append, mayHold_append, toString, mayHold_number,
    mayHold_date]
  refine ⟨⟨by decide, ?_⟩, ?_⟩
  · split
    · decide
    · rw [String.toList_append, mayHold_append]
      exact ⟨by decide, mayHold_number _ _⟩
  · split
    · exact zone _
    · decide

/-! ## Sets -/

namespace SetTable

variable {α : Type} {table : SetTable α} {member other : Nat × α}

/-- What is in a table after steps that add one member each was added, or was there before. -/
lemma mem_foldl {step : SetTable α → Nat × α → SetTable α}
    (one : ∀ table member other, other ∈ (step table member).members →
      other = member ∨ other ∈ table.members) {added : List (Nat × α)} :
    ∀ {table : SetTable α}, other ∈ (added.foldl step table).members →
      other ∈ added ∨ other ∈ table.members := by
  induction added with
  | nil => exact fun mem => .inr mem
  | cons member rest ih =>
      intro table mem
      rcases ih mem with later | mem
      · exact .inl (List.mem_cons_of_mem _ later)
      · rcases one _ _ _ mem with rfl | before
        · exact .inl List.mem_cons_self
        · exact .inr before

lemma mem_put (mem : other ∈ (table.put member).members) :
    other = member ∨ other ∈ table.members := by
  simp only [members, put, List.mem_filterMap, id_eq, exists_eq_right, Array.mem_toList_iff]
    at mem ⊢
  rcases Array.mem_or_eq_of_mem_setIfInBounds mem with mem | same
  · exact .inr mem
  · exact .inl (Option.some.inj same)

lemma not_mem_empty (count : Nat) : other ∉ (empty count).members := by
  simp [members, empty]

lemma mem_add (mem : other ∈ (table.add member).members) :
    other = member ∨ other ∈ table.members := by
  rw [add] at mem
  split at mem
  · rcases mem_foldl (fun _ _ _ => mem_put) mem with mem | none_yet
    · exact mem_put mem
    · exact absurd none_yet (not_mem_empty _)
  · exact mem_put mem

end SetTable

lemma mapM_fingerprint {α : Type} {members : List (Value × α)} :
    ∀ {prints : List (ℕ × α)},
      members.mapM (fun (member, a) => member.fingerprint?.map fun print => (print, a)) = some prints →
      prints.map Prod.snd = members.map Prod.snd := by
  induction members with
  | nil =>
      rintro prints ⟨⟩
      rfl
  | cons first rest ih =>
      intro prints found
      simp only [List.mapM_cons, Option.bind_eq_bind, Option.bind_eq_some_iff, Option.map_eq_some_iff,
        Option.pure_def, Option.some.injEq] at found
      obtain ⟨_, ⟨print, -, rfl⟩, others, found, rfl⟩ := found
      rw [List.map_cons, List.map_cons, ih found]

/-- **What a copy of a set lists is what its members stand for.** -/
lemma mem_relisted {α : Type} {members : List (Value × α)} {a : α}
    (mem : a ∈ Value.relisted members) : a ∈ members.map Prod.snd := by
  rw [Value.relisted, SetTable.listed] at mem
  split at mem
  · next prints found =>
      obtain ⟨⟨print, b⟩, there, rfl⟩ := List.mem_map.mp mem
      rcases SetTable.mem_foldl (fun _ _ _ => SetTable.mem_add) there with added | none_yet
      · rw [← mapM_fingerprint found]
        exact List.mem_map_of_mem added
      · exact absurd none_yet (SetTable.not_mem_empty _)
  · exact mem

/-! ## Steps -/

/-- What steps yield, from wherever they start. -/
def Yields {α : Type} (sort : α → Prop) (steps : Outlining α) : Prop :=
  ∀ outliner a after, steps.run outliner = .ok (a, after) → sort a

namespace Yields

variable {α β : Type} {sort : α → Prop}

lemma pure {a : α} (of_sort : sort a) : Yields sort (Pure.pure a) := by
  rintro outliner _ after ⟨⟩
  exact of_sort

lemma throw (e : ReadError) : Yields sort (MonadExcept.throw e) := by
  rintro outliner a after ⟨⟩

lemma bind {first : α → Prop} {second : β → Prop} {step : Outlining α} {rest : α → Outlining β}
    (begun : Yields first step) (followed : ∀ a, first a → Yields second (rest a)) :
    Yields second (step >>= rest) := by
  intro outliner b after run
  rw [StateT.run_bind, bind_eq_ok] at run
  obtain ⟨⟨a, between⟩, step_run, rest_run⟩ := run
  exact followed a (begun outliner a between step_run) between b after rest_run

/-- Steps of which nothing is said. -/
lemma any (step : Outlining α) : Yields (fun _ => True) step := fun _ _ _ _ => trivial

end Yields

/-! ## Outlines -/

/-- An outline whose scalars hold allowed characters only, if they are no texts. -/
inductive Outline.IsClean : Outline → Prop where
  | scalar {tag : Tag} {text : Text} {object : Option Identity} :
      (tag ≠ .text → MayHold text.chars) → IsClean (.scalar tag text object)
  | octets (content : Octets) : IsClean (.octets content)
  | list {items : List Outline} {object : Option Identity} :
      (∀ item ∈ items, item.IsClean) → IsClean (.list items object)
  | mapping {tag : Tag} {entries : List (Outline × Outline)} {object : Option Identity} :
      MayHold tag.short.toList → (∀ entry ∈ entries, entry.1.IsClean) →
        (∀ entry ∈ entries, entry.2.IsClean) → IsClean (.mapping tag entries object)
  | again (object : Identity) : IsClean (.again object)

/-- Keys and values that are clean. -/
def AreClean (entries : List (Outline × Outline)) : Prop :=
  ∀ entry ∈ entries, entry.1.IsClean ∧ entry.2.IsClean

lemma Outline.isClean_mapping {tag : Tag} {entries : List (Outline × Outline)}
    {object : Option Identity} (named : MayHold tag.short.toList) (clean : AreClean entries) :
    (Outline.mapping tag entries object).IsClean :=
  .mapping named (fun entry mem => (clean entry mem).1) fun entry mem => (clean entry mem).2

lemma Outline.isClean_text {text : Text} {object : Option Identity} :
    (Outline.scalar .text text object).IsClean :=
  .scalar fun other => absurd rfl other

/-- A string of allowed characters can be a scalar of any kind. -/
lemma Outline.isClean_string {tag : Tag} {s : String} {object : Option Identity}
    (clean : MayHold s.toList) : (Outline.scalar tag s object).IsClean :=
  .scalar fun _ => by rwa [Text.chars_ofString]

/-- An object is spelled out, or is named. -/
lemma yields_once {copy : ℕ} {mark : Mark} {spell : Option Identity → Outlining Outline}
    (spelled : ∀ object, Yields Outline.IsClean (spell object)) :
    Yields Outline.IsClean (Outlining.once copy mark spell) := by
  rw [Outlining.once.eq_def]
  cases mark with
  | none => exact spelled none
  | some mark =>
      refine (Yields.any get).bind fun outliner _ => ?_
      split
      · have named : Yields Outline.IsClean (pure (.again ⟨copy, mark⟩)) := .pure (.again _)
        dsimp only
        split
        · exact (Yields.any _).bind fun _ _ => named
        · exact named
      · exact (Yields.any _).bind fun _ _ => spelled _

namespace Value

mutual

/-- **The outline of data is clean.** -/
theorem outline_clean (copy : ℕ) : ∀ value : Value, Yields Outline.IsClean (value.outline copy)
  | .null => .pure (Outline.isClean_string (by decide))
  | .bool false | .bool true => .pure (Outline.isClean_string (by decide))
  | .int n => by
      rw [outline]
      split
      · next written => exact .pure (Outline.isClean_string (mayHold_wholeText? written))
      · exact .throw _
  | .float x => .pure (Outline.isClean_string (mayHold_floatText x))
  | .text _ => .pure Outline.isClean_text
  | .binary octets => .pure (.octets octets)
  | .date d _ => yields_once fun _ => .pure (Outline.isClean_string (mayHold_date d))
  | .timestamp t _ => yields_once fun _ => .pure (Outline.isClean_string (mayHold_timestamp t))
  | .list items _ => by
      rw [outline]
      exact yields_once fun _ => (outlineAll_clean copy items).bind fun _ clean =>
        .pure (.list clean)
  | .pair key value _ => by
      rw [outline]
      refine yields_once fun _ => (outline_clean copy key).bind fun _ key_clean =>
        (outline_clean copy value).bind fun _ value_clean => .pure (.list ?_)
      exact List.forall_mem_cons.mpr ⟨key_clean, List.forall_mem_singleton.mpr value_clean⟩
  | .mapping entries _ => by
      rw [outline]
      exact yields_once fun _ => (outlineEntries_clean copy entries).bind fun _ clean =>
        .pure (Outline.isClean_mapping (by decide) clean)
  | .set members _ => by
      rw [outline]
      refine yields_once fun _ => (outlineMembers_clean copy members).bind fun entries clean =>
        .pure (Outline.isClean_mapping (by decide) ?_)
      split
      · exact clean
      · intro entry mem
        obtain ⟨⟨_, _⟩, zipped, rfl⟩ := List.mem_map.mp (mem_relisted mem)
        exact clean _ (List.of_mem_zip zipped).2
  | .endless => .throw _

lemma outlineAll_clean (copy : ℕ) : ∀ items : List Value,
    Yields (fun outlines => ∀ item ∈ outlines, item.IsClean) (outlineAll copy items)
  | [] => .pure (List.forall_mem_nil _)
  | value :: rest => by
      rw [outlineAll]
      exact (outline_clean copy value).bind fun _ first =>
        (outlineAll_clean copy rest).bind fun _ others =>
          .pure (List.forall_mem_cons.mpr ⟨first, others⟩)

lemma outlineEntries_clean (copy : ℕ) : ∀ entries : List (Value × Value),
    Yields AreClean (outlineEntries copy entries)
  | [] => .pure (List.forall_mem_nil _)
  | (key, value) :: rest => by
      rw [outlineEntries]
      exact (outline_clean copy key).bind fun _ key_clean =>
        (outline_clean copy value).bind fun _ value_clean =>
          (outlineEntries_clean copy rest).bind fun _ others =>
            .pure (List.forall_mem_cons.mpr ⟨⟨key_clean, value_clean⟩, others⟩)

lemma outlineMembers_clean (copy : ℕ) : ∀ members : List Value,
    Yields AreClean (outlineMembers copy members)
  | [] => .pure (List.forall_mem_nil _)
  | member :: rest => by
      rw [outlineMembers]
      have null : Yields Outline.IsClean (outlineScalar .null "null" none) :=
        .pure (Outline.isClean_string (by decide))
      exact (outline_clean copy member).bind fun _ member_clean =>
        null.bind fun _ null_clean =>
          (outlineMembers_clean copy rest).bind fun _ others =>
            .pure (List.forall_mem_cons.mpr ⟨⟨member_clean, null_clean⟩, others⟩)

end

end Value

end Yaml

namespace Field

open Yaml

lemma outlineEntry_clean (key : Text) {items : List Outline}
    (clean : ∀ item ∈ items, item.IsClean) : AreClean [outlineEntry key items] :=
  List.forall_mem_singleton.mpr ⟨Outline.isClean_text, .list clean⟩

mutual

/-- **So are fields.** -/
theorem outline_clean (owned : Bool) : ∀ field : Field,
    Yields Outline.IsClean (field.outline owned)
  | ⟨name, type, external, description, pattern, index, docValues, normalize, multiFields,
      attributes, fields⟩ => by
      rw [outline]
      dsimp only
      -- with a copy of its own or without one, the same steps follow
      split
      all_goals
        refine (Yields.any _).bind fun copy _ => ?_
        refine (Value.outlineEntries_clean 0 _).bind fun scalars scalars_clean => ?_
        refine (outlineAll_clean false multiFields).bind fun listed listed_clean => ?_
        refine (Value.outlineEntries_clean copy attributes).bind fun others others_clean => ?_
        refine (outlineChildren_clean owned fields).bind fun children children_clean => ?_
        refine .pure (Outline.isClean_mapping (by decide) ?_)
        refine List.forall_mem_append.mpr ⟨List.forall_mem_append.mpr
          ⟨List.forall_mem_append.mpr ⟨scalars_clean, ?_⟩, others_clean⟩, children_clean⟩
        split
        · exact List.forall_mem_nil _
        · exact outlineEntry_clean _ listed_clean

lemma outlineAll_clean (owned : Bool) : ∀ fields : List Field,
    Yields (fun outlines => ∀ item ∈ outlines, item.IsClean) (outlineAll owned fields)
  | [] => .pure (List.forall_mem_nil _)
  | field :: rest => by
      rw [outlineAll]
      exact (outline_clean owned field).bind fun _ first =>
        (outlineAll_clean owned rest).bind fun _ others =>
          .pure (List.forall_mem_cons.mpr ⟨first, others⟩)

lemma outlineChildren_clean (owned : Bool) : ∀ fields : Option (List Field),
    Yields AreClean (outlineChildren owned fields)
  | none => .pure (List.forall_mem_nil _)
  | some fields => by
      rw [outlineChildren]
      exact (outlineAll_clean owned fields).bind fun _ clean => .pure (outlineEntry_clean _ clean)

end

end Field

end ExternalFields
