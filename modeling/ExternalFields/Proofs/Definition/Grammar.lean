import ExternalFields.Proofs.Attributes
import ExternalFields.Proofs.Definition.Layouts
import ExternalFields.Proofs.Definition.Records
import ExternalFields.Proofs.DocumentErrors

/-!
# The grammar of schema documents

Which data writes definitions is said here without reading it: null, lists of records that hold
their names, and mappings of records under their paths, among them root sets.  Whether a key names a
record depends on the path around it, so the grammar is about data under a path.

The reader accepts this data and no other, and the definitions that it gives stand for the records
one by one, at every level; a root set is no record there, but what it holds takes its place.

* `Definition.Grammatical`: the data that writes definitions under a path.
* `Definition.levelOf`: the records of one level, with the names that they have there.
* `Definition.Mirrors`: definitions that stand for records, and so do those below them.
* **`Definition.ofValue_grammar`**: the reader accepts the grammar and mirrors the records, and what
  it does not accept is reported.
* **`Definition.ofValue_circular`**: data that holds itself, or a key that cannot be written out, is
  not reported as it should be.
-/

namespace ExternalFields.Definition

open Yaml Attribute

/-! ## Attributes -/

/-- A record whose attributes have the right types, those of definitions apart. -/
structure IsTyped (entries : Entries) : Prop where
  texts : ∀ key ∈ (["type", "description", "pattern"] : List Text),
    Allows IsText (Value.lookup key entries)
  flags : ∀ key ∈ (["index", "doc_values"] : List Text), Allows IsFlag (Value.lookup key entries)
  normalize : Allows IsTextList (Value.lookup "normalize" entries)

/-- The attributes of a record are read exactly if they have the right types. -/
lemma scalarsOf_ok_iff {entries : Entries} {path name : Text} :
    (∃ scalars, scalarsOf entries path name = .ok scalars) ↔ IsTyped entries := by
  simp only [scalarsOf, exists_bind_eq_ok, pure_eq_ok, Except.ok.injEq, exists_eq', and_true,
    exists_and_right, text?_ok_iff, flag?_ok_iff, texts_ok_iff]
  constructor
  · rintro ⟨type, description, pattern, index, docValues, normalize⟩
    exact ⟨by simp [type, description, pattern], by simp [index, docValues], normalize⟩
  · intro typed
    refine ⟨typed.texts _ ?_, typed.texts _ ?_, typed.texts _ ?_, typed.flags _ ?_,
      typed.flags _ ?_, typed.normalize⟩ <;> simp

/-! ## The grammar -/

/-- The name that a full path has under an enclosing one: without that and a dot, if it starts with
them, otherwise as it is. -/
inductive Stripped (enclosing full : Text) : Text → Prop
  | below {name : Text} (inside : enclosing ≠ []) (path : full = enclosing ++ "." ++ name) :
      Stripped enclosing full name
  | whole (outside : enclosing = [] ∨ ¬ (enclosing ++ "." : Text) <+: full) :
      Stripped enclosing full full

mutual

/-- Data that writes definitions under the path `enclosing`. -/
inductive Grammatical : Text → Value → Prop
  | null {enclosing : Text} : Grammatical enclosing .null
  | list {enclosing : Text} {items : List Value} {mark : Mark}
      (records : ∀ item ∈ items, IsItem enclosing item) : Grammatical enclosing (.list items mark)
  | mapping {enclosing : Text} {entries : Entries} {mark : Mark}
      (records : ∀ entry ∈ entries, IsEntry enclosing entry.1 entry.2) :
      Grammatical enclosing (.mapping entries mark)

/-- An item of a list is a record that holds its name. -/
inductive IsItem : Text → Value → Prop
  | record {enclosing name : Text} {entries : Entries} {mark : Mark}
      (found : Value.lookup "name" entries = some (.text name)) (named : name ≠ [])
      (record : IsRecord (FieldPath.join enclosing name) entries) :
      IsItem enclosing (.mapping entries mark)

/-- An entry of a mapping is a root set, whose fields stand under the same path, or a record whose
key names it. -/
inductive IsEntry : Text → Value → Value → Prop
  | rootSet {enclosing : Text} {key : Value} {entries : Entries} {mark : Mark}
      (root : Value.lookup "root" entries = some (.bool true))
      (fields : MayStand enclosing (Value.lookup "fields" entries)) :
      IsEntry enclosing key (.mapping entries mark)
  | record {enclosing full name : Text} {key : Value} {entries : Entries} {mark : Mark}
      (no_root : Value.lookup "root" entries ≠ some (.bool true))
      (text : key.keyText = .ok full) (stripped : Stripped enclosing full name) (named : name ≠ [])
      (record : IsRecord (FieldPath.join enclosing name) entries) :
      IsEntry enclosing key (.mapping entries mark)

/-- A record with its own path has attributes of the right types, and definitions under that path,
where it has any. -/
inductive IsRecord : Text → Entries → Prop
  | intro {path : Text} {entries : Entries} (typed : IsTyped entries)
      (multiFields : MayStand path (Value.lookup "multi_fields" entries))
      (fields : MayStand path (Value.lookup "fields" entries)) : IsRecord path entries

/-- What may be found where definitions stand. -/
inductive MayStand : Text → Option Value → Prop
  | absent {enclosing : Text} : MayStand enclosing none
  | present {enclosing : Text} {value : Value} (grammatical : Grammatical enclosing value) :
      MayStand enclosing (some value)

end

/-! ## Names -/

lemma stripped_iff {enclosing full name : Text} :
    Stripped enclosing full name ↔ FieldPath.relativeTo enclosing full = name := by
  rw [FieldPath.relativeTo]
  by_cases top : enclosing = []
  · rw [if_pos (by simpa using top)]
    constructor
    · rintro (⟨inside, -⟩ | -)
      · exact absurd top inside
      · rfl
    · rintro rfl
      exact .whole (.inl top)
  · rw [if_neg (by simpa using top)]
    cases stripped : (enclosing ++ "." : Text).isPrefixOf? full with
    | some rest =>
        have path := List.isPrefixOf?_eq_some_iff_append_eq.mp stripped
        constructor
        · rintro (⟨-, rfl⟩ | outside)
          · exact List.append_cancel_left path
          · exact absurd ⟨rest, path⟩ (outside.resolve_left top)
        · rintro rfl
          exact .below top path.symm
    | none =>
        have outside : ¬ (enclosing ++ "." : Text) <+: full := by
          rintro ⟨rest, path⟩
          cases stripped.symm.trans (List.isPrefixOf?_eq_some_iff_append_eq.mpr path)
        constructor
        · rintro (⟨-, rfl⟩ | -)
          · exact absurd ⟨_, rfl⟩ outside
          · rfl
        · rintro rfl
          exact .whole (.inr outside)

/-- A name that is given is taken if it is not empty. -/
lemma recordName_some {enclosing given name : Text} {entries : Entries} :
    recordName enclosing (some given) entries = .ok name ↔ given = name ∧ name ≠ [] := by
  have checked : recordName enclosing (some given) entries
      = if given.isEmpty then .error (.definitionWithoutName enclosing) else .ok given := rfl
  rw [checked]
  split
  · next empty =>
      refine iff_of_false nofun ?_
      rintro ⟨rfl, named⟩
      exact named (List.isEmpty_iff.mp empty)
  · next named =>
      rw [Except.ok.injEq]
      refine ⟨fun same => ⟨same, ?_⟩, And.left⟩
      rintro rfl
      exact named (List.isEmpty_iff.mpr same)

/-- Otherwise it must be found in the record. -/
lemma recordName_none {enclosing name : Text} {entries : Entries} :
    recordName enclosing none entries = .ok name ↔
      Value.lookup "name" entries = some (.text name) ∧ name ≠ [] := by
  have own : recordName enclosing none entries
      = recordName enclosing (some (ownName (.mapping entries none))) entries := rfl
  rw [own, recordName_some, ownName]
  refine and_congr_left fun named => ?_
  split
  · next s found => rw [found, Option.some.injEq, Value.text.injEq]
  · next no_text =>
      refine iff_of_false ?_ (no_text name)
      rintro rfl
      exact named rfl

/-- An entry that is no root set is a record, and its key names it. -/
lemma isEntry_iff {enclosing : Text} {key record : Value} (no_root : ¬ isRootSet record) :
    IsEntry enclosing key record ↔ ∃ full, key.keyText = .ok full ∧
      ∃ entries mark name, record = .mapping entries mark
        ∧ (FieldPath.relativeTo enclosing full = name ∧ name ≠ [])
        ∧ IsRecord (FieldPath.join enclosing name) entries := by
  constructor
  · rintro (⟨root, -⟩ | ⟨-, text, stripped, named, record⟩)
    · exact absurd (isRootSet_mapping.mpr root) no_root
    · exact ⟨_, text, _, _, _, rfl, ⟨stripped_iff.mp stripped, named⟩, record⟩
  · rintro ⟨full, text, entries, mark, name, rfl, ⟨stripped, named⟩, record⟩
    exact .record (mt isRootSet_mapping.mpr no_root) text (stripped_iff.mpr stripped) named record

/-! ## Acceptance -/

mutual

/-- **The reader accepts the grammar.**  The proof follows the reader. -/
lemma ofValue_ok_iff : ∀ (value : Value) {enclosing : Text},
    (∃ definitions, ofValue enclosing value = .ok definitions) ↔ Grammatical enclosing value
  | .null, _ => iff_of_true ⟨[], rfl⟩ .null
  | .mapping entries mark, enclosing => by
      rw [ofValue, ofEntries_ok_iff entries]
      exact ⟨.mapping, fun | .mapping records => records⟩
  | .list items mark, enclosing => by
      rw [ofValue, ofItems_ok_iff items]
      exact ⟨.list, fun | .list records => records⟩
  | .bool _, _ | .int _, _ | .float _, _ | .text _, _ | .binary _, _ | .date .., _
  | .timestamp .., _ | .pair .., _ | .set .., _ | .endless, _ => iff_of_false nofun nofun

lemma ofEntries_ok_iff : ∀ (entries : Entries) {enclosing : Text},
    (∃ definitions, ofEntries enclosing entries = .ok definitions) ↔
      ∀ entry ∈ entries, IsEntry enclosing entry.1 entry.2
  | [], _ => by simp [ofEntries]
  | (key, record) :: rest, enclosing => by
      rw [List.forall_mem_cons, ← ofEntries_ok_iff rest, ofEntries]
      split
      · next root =>
          simp only [exists_bind_eq_ok, pure_eq_ok, Except.ok.injEq, exists_eq', and_true,
            exists_and_right, ofRootSet_ok_iff record root key]
      · next no_root =>
          simp only [exists_bind_eq_ok, exists_map_eq_ok, mapError_eq_ok, pure_eq_ok,
            Except.ok.injEq, exists_eq', and_true, exists_and_right, ofRecord_ok_iff record,
            recordName_some, isEntry_iff no_root, ← and_assoc]

lemma ofItems_ok_iff : ∀ (items : List Value) {enclosing : Text},
    (∃ definitions, ofItems enclosing items = .ok definitions) ↔
      ∀ item ∈ items, IsItem enclosing item
  | [], _ => by simp [ofItems]
  | item :: rest, enclosing => by
      rw [List.forall_mem_cons, ← ofItems_ok_iff rest, ofItems]
      simp only [exists_bind_eq_ok, pure_eq_ok, Except.ok.injEq, exists_eq', and_true,
        exists_and_right, ofRecord_ok_iff item, recordName_none]
      refine and_congr_left fun _ => ⟨?_, ?_⟩
      · rintro ⟨entries, mark, name, rfl, ⟨found, named⟩, record⟩
        exact .record found named record
      · rintro (⟨found, named, record⟩)
        exact ⟨_, _, _, rfl, ⟨found, named⟩, record⟩

/-- A record is read if it has a name. -/
lemma ofRecord_ok_iff : ∀ (record : Value) {enclosing : Text} {key? : Option Text},
    (∃ definition, ofRecord enclosing key? record = .ok definition) ↔
      ∃ entries mark name, record = .mapping entries mark
        ∧ recordName enclosing key? entries = .ok name
        ∧ IsRecord (FieldPath.join enclosing name) entries
  | .mapping entries mark, enclosing, key? => by
      simp only [ofRecord, exists_bind_eq_ok, pure_eq_ok, Except.ok.injEq, exists_eq', and_true,
        exists_and_right, scalarsOf_ok_iff, ofEntry_ok_iff entries]
      constructor
      · rintro ⟨name, named, typed, multiFields, fields⟩
        exact ⟨entries, mark, name, rfl, named, .intro typed multiFields fields⟩
      · rintro ⟨_, _, name, ⟨rfl, rfl⟩, named, ⟨typed, multiFields, fields⟩⟩
        exact ⟨name, named, typed, multiFields, fields⟩
  | .null, _, _ | .list .., _, _ | .bool _, _, _ | .int _, _, _ | .float _, _, _ | .text _, _, _
  | .binary _, _, _ | .date .., _, _ | .timestamp .., _, _ | .pair .., _, _ | .set .., _, _
  | .endless, _, _ => iff_of_false nofun nofun

/-- A root set is read if its fields are, whatever its key. -/
lemma ofRootSet_ok_iff : ∀ (record : Value), isRootSet record → ∀ (key : Value) {enclosing : Text},
    (∃ definitions, ofRootSet enclosing record = .ok definitions) ↔ IsEntry enclosing key record
  | .mapping entries mark, root, key, enclosing => by
      have marked := isRootSet_mapping.mp root
      rw [ofRootSet, ofEntry_ok_iff entries]
      constructor
      · exact .rootSet marked
      · rintro (⟨-, fields⟩ | ⟨no_root, -, -, -, -⟩)
        · exact fields
        · exact absurd marked no_root

lemma ofEntry_ok_iff : ∀ (entries : Entries) {enclosing name : Text},
    (∃ definitions, ofEntry enclosing name entries = .ok definitions) ↔
      MayStand enclosing (Value.lookup name entries)
  | [], _, _ => iff_of_true ⟨[], rfl⟩ .absent
  | (key, value) :: rest, enclosing, name => by
      rw [ofEntry, Value.lookup]
      split
      · rw [ofValue_ok_iff value]
        exact ⟨.present, fun | .present grammatical => grammatical⟩
      · exact ofEntry_ok_iff rest

end

/-! ## Levels -/

/-- The entries of a record. -/
def entriesOf : Value → Entries
  | .mapping entries _ => entries
  | _ => []

mutual

/-- The records of one level, in order, each with the name that it has there. -/
def levelOf (enclosing : Text) : Value → List (Text × Entries)
  | .mapping entries _ => levelOfEntries enclosing entries
  | .list items _ => items.map fun item => (ownName item, entriesOf item)
  | _ => []

/-- The records of a mapping.  What a root set holds takes its place. -/
def levelOfEntries (enclosing : Text) : Entries → List (Text × Entries)
  | [] => []
  | (key, record) :: rest =>
    (if isRootSet record then levelOfRootSet enclosing record
      else [(FieldPath.relativeTo enclosing (keyName key), entriesOf record)])
      ++ levelOfEntries enclosing rest

/-- The records that a root set holds. -/
def levelOfRootSet (enclosing : Text) : Value → List (Text × Entries)
  | .mapping entries _ => levelUnder enclosing "fields" entries
  | _ => []

/-- The records under a text key of a record. -/
def levelUnder (enclosing name : Text) : Entries → List (Text × Entries)
  | [] => []
  | (key, value) :: rest =>
    if key.isText name then levelOf enclosing value else levelUnder enclosing name rest

end

/-- Definitions that stand for the records of a level, one for each and in their order, and the same
at all levels below. -/
inductive Mirrors : Text → List (Text × Entries) → List Definition → Prop
  | nil {enclosing : Text} : Mirrors enclosing [] []
  | cons {enclosing : Text} {entries : Entries} {records : List (Text × Entries)}
      {definition : Definition} {rest : List Definition}
      (multiFields : Mirrors (FieldPath.join enclosing definition.name)
        (levelUnder (FieldPath.join enclosing definition.name) "multi_fields" entries)
        definition.multiFields)
      (fields : Mirrors (FieldPath.join enclosing definition.name)
        (levelUnder (FieldPath.join enclosing definition.name) "fields" entries) definition.fields)
      (others : Mirrors enclosing records rest) :
      Mirrors enclosing ((definition.name, entries) :: records) (definition :: rest)

lemma Mirrors.append {enclosing : Text} {records others : List (Text × Entries)}
    {definitions rest : List Definition} (mirrors : Mirrors enclosing records definitions)
    (others_mirror : Mirrors enclosing others rest) :
    Mirrors enclosing (records ++ others) (definitions ++ rest) := by
  induction mirrors with
  | nil => exact others_mirror
  | cons multiFields fields _ _ _ ih => exact .cons multiFields fields (ih others_mirror)

mutual

/-- **What is read mirrors the records** of its level. -/
lemma mirrors_of_ofValue : ∀ (value : Value) {enclosing : Text} {definitions : List Definition},
    ofValue enclosing value = .ok definitions →
      Mirrors enclosing (levelOf enclosing value) definitions
  | .null, _, _, h => by
      cases h
      exact .nil
  | .mapping entries _, _, _, h => mirrors_of_ofEntries entries h
  | .list items _, _, _, h => mirrors_of_ofItems items h
  | .bool _, _, _, h | .int _, _, _, h | .float _, _, _, h | .text _, _, _, h
  | .binary _, _, _, h | .date .., _, _, h | .timestamp .., _, _, h | .pair .., _, _, h
  | .set .., _, _, h | .endless, _, _, h => by cases h

lemma mirrors_of_ofEntries : ∀ (entries : Entries) {enclosing : Text}
    {definitions : List Definition}, ofEntries enclosing entries = .ok definitions →
      Mirrors enclosing (levelOfEntries enclosing entries) definitions
  | [], _, _, h => by
      cases h
      exact .nil
  | (key, record) :: rest, enclosing, definitions, h => by
      rw [levelOfEntries]
      rw [ofEntries] at h
      split at h
      · next root =>
          simp only [bind_eq_ok, pure_eq_ok, Except.ok.injEq] at h
          obtain ⟨first, first_ok, others, others_ok, rfl⟩ := h
          rw [if_pos root]
          exact (mirrors_of_ofRootSet record first_ok).append (mirrors_of_ofEntries rest others_ok)
      · next no_root =>
          simp only [bind_eq_ok, map_eq_ok, pure_eq_ok, Except.ok.injEq] at h
          obtain ⟨full, text, first, ⟨definition, definition_ok, rfl⟩, others, others_ok, rfl⟩ := h
          rw [if_neg no_root, keyName_of_ok text]
          exact (mirrors_of_ofRecord record definition_ok).append
            (mirrors_of_ofEntries rest others_ok)

lemma mirrors_of_ofItems : ∀ (items : List Value) {enclosing : Text}
    {definitions : List Definition}, ofItems enclosing items = .ok definitions →
      Mirrors enclosing (items.map fun item => (ownName item, entriesOf item)) definitions
  | [], _, _, h => by
      cases h
      exact .nil
  | item :: rest, _, _, h => by
      simp only [ofItems, bind_eq_ok, pure_eq_ok, Except.ok.injEq] at h
      obtain ⟨definition, definition_ok, others, others_ok, rfl⟩ := h
      exact (mirrors_of_ofRecord item definition_ok).append (mirrors_of_ofItems rest others_ok)

lemma mirrors_of_ofRecord : ∀ (record : Value) {enclosing : Text} {key? : Option Text}
    {definition : Definition}, ofRecord enclosing key? record = .ok definition →
      Mirrors enclosing [(key?.getD (ownName record), entriesOf record)] [definition]
  | .mapping entries _, _, key?, definition, h => by
      rw [← (ofRecord_name h).2]
      simp only [ofRecord, bind_eq_ok, pure_eq_ok, Except.ok.injEq] at h
      obtain ⟨name, -, scalars, scalars_ok, multiFields, multiFields_ok, fields, fields_ok, rfl⟩ :=
        h
      obtain rfl := scalarsOf_name scalars_ok
      exact .cons (mirrors_of_ofEntry entries multiFields_ok) (mirrors_of_ofEntry entries fields_ok)
        .nil
  | .null, _, _, _, h | .list .., _, _, _, h | .bool _, _, _, _, h | .int _, _, _, _, h
  | .float _, _, _, _, h | .text _, _, _, _, h | .binary _, _, _, _, h | .date .., _, _, _, h
  | .timestamp .., _, _, _, h | .pair .., _, _, _, h | .set .., _, _, _, h
  | .endless, _, _, _, h => by cases h

lemma mirrors_of_ofRootSet : ∀ (record : Value) {enclosing : Text} {definitions : List Definition},
    ofRootSet enclosing record = .ok definitions →
      Mirrors enclosing (levelOfRootSet enclosing record) definitions
  | .mapping entries _, _, _, h => mirrors_of_ofEntry entries h
  | .null, _, _, h | .list .., _, _, h | .bool _, _, _, h | .int _, _, _, h | .float _, _, _, h
  | .text _, _, _, h | .binary _, _, _, h | .date .., _, _, h | .timestamp .., _, _, h
  | .pair .., _, _, h | .set .., _, _, h | .endless, _, _, h => by
      cases h
      exact .nil

lemma mirrors_of_ofEntry : ∀ (entries : Entries) {enclosing name : Text}
    {definitions : List Definition}, ofEntry enclosing name entries = .ok definitions →
      Mirrors enclosing (levelUnder enclosing name entries) definitions
  | [], _, _, _, h => by
      cases h
      exact .nil
  | (key, value) :: rest, _, _, _, h => by
      rw [levelUnder]
      rw [ofEntry] at h
      split at h
      · next here =>
          rw [if_pos here]
          exact mirrors_of_ofValue value h
      · next elsewhere =>
          rw [if_neg elsewhere]
          exact mirrors_of_ofEntry rest h

end

/-! ## The reader and its grammar -/

/-- **The reader accepts exactly its grammar.**  Data is read as definitions exactly if it writes
some under that path.  The definitions stand for its records at every level, one by one and in
order, and what a root set holds stands in its place.  Data that is not read fails with an error of
its form, unless it holds itself, or a key in it is a number of too many digits to be a name. -/
theorem ofValue_grammar (enclosing : Text) (value : Value) :
    ((∃ definitions, ofValue enclosing value = .ok definitions) ↔ Grammatical enclosing value) ∧
    (∀ definitions, ofValue enclosing value = .ok definitions →
      Mirrors enclosing (levelOf enclosing value) definitions) ∧
    (¬ Grammatical enclosing value →
      ∃ e, ofValue enclosing value = .error e ∧ FailsBy value e) := by
  refine ⟨ofValue_ok_iff value, fun definitions => mirrors_of_ofValue value, fun refused => ?_⟩
  cases read : ofValue enclosing value with
  | ok definitions => exact absurd ((ofValue_ok_iff value).mp ⟨definitions, read⟩) refused
  | error e => exact ⟨e, rfl, ofValue_failsOnly value .self e read⟩

/-- A document with a root set, a key that is a number, a key that ends in a dot, and a record of a
list that is marked as a root set, which means nothing there. -/
def dottedDocument : Value :=
  .mapping [
    (.text "base", .mapping [(.text "root", .bool true), (.text "fields", .mapping [
      (.text "tags", .mapping [(.text "index", .null)] none),
      (.int 7, .mapping [(.text "normalize", .list [.text "array"] none)] none)] none)] none),
    (.text "host.", .mapping [(.text "name", .bool true), (.text "fields", .list [
      .mapping [(.text "name", .text "ip"), (.text "root", .bool true)] none] none)] none)] none

/-- The same key below the record that it repeats. -/
def dottedBelow : Value :=
  .mapping [(.text "host", .mapping [(.text "fields", .mapping [
    (.text "host.", .mapping [] none)] none)] none)] none

/-- The key that ends in a dot names a record at top level, but not below the record that it
repeats. -/
theorem ofValue_grammar_dotted :
    Grammatical "" dottedDocument ∧
      (levelOf "" dottedDocument).map Prod.fst = ["tags", "7", "host."] ∧
      (∃ definitions, ofValue "" dottedDocument = .ok definitions
        ∧ Mirrors "" (levelOf "" dottedDocument) definitions) ∧
      ¬ Grammatical "" dottedBelow ∧
      ∃ e, ofValue "" dottedBelow = .error e ∧ FailsBy dottedBelow e := by
  obtain ⟨accepts, mirrors, -⟩ := ofValue_grammar "" dottedDocument
  obtain ⟨accepts_below, -, fails_below⟩ := ofValue_grammar "" dottedBelow
  have refused : ¬ Grammatical "" dottedBelow := by
    rw [← accepts_below]
    rintro ⟨definitions, ⟨⟩⟩
  exact ⟨accepts.mp ⟨_, rfl⟩, by decide, ⟨_, rfl, mirrors _ rfl⟩, refused, fails_below refused⟩

/-- The data of a list of one record whose fields are the list itself, followed some levels down. -/
def circular : Nat → Value
  | 0 => .endless
  | levels + 1 =>
    .list [.mapping [(.text "name", .text "x"), (.text "fields", circular levels)] (some 1)]
      (some 0)

lemma ofValue_circle (levels : Nat) : ∀ enclosing,
    ofValue enclosing (circular levels) = .error (.unusable .tooDeep) := by
  induction levels with
  | zero => exact fun _ => rfl
  | succ levels ih =>
      intro enclosing
      have record : ofRecord enclosing none
          (.mapping [(.text "name", .text "x"), (.text "fields", circular levels)] (some 1))
            = ofEntry (FieldPath.join enclosing "x") "fields"
                [(.text "name", .text "x"), (.text "fields", circular levels)]
              >>= fun fields => .ok { name := "x", fields } := rfl
      have below : ofEntry (FieldPath.join enclosing "x") "fields"
          [(.text "name", .text "x"), (.text "fields", circular levels)]
            = .error (.unusable .tooDeep) := ih _
      rw [circular, ofValue, ofItems, record, below]
      rfl

/-- A number of 4301 digits, one more than can be written out. -/
def longNumber : Int := Nat.pow 10 4300

lemma longNumber_unwritten : wholeText? longNumber = none := by decide +kernel

/-- A record whose key is that number. -/
def longKeyed : Value := .mapping [(.int longNumber, .mapping [] none)] none

lemma ofValue_longKeyed (enclosing : Text) :
    ofValue enclosing longKeyed = .error (.unusable .tooManyDigits) := by
  have key : Value.keyText (.int longNumber) = .error .tooManyDigits := by
    rw [Value.keyText, longNumber_unwritten]
  rw [longKeyed, ofValue, ofEntries, key]
  rfl

/-- **Data that holds itself is no document, but that is not reported**: following it comes to an
end with an error that is none of form, and so does a key that cannot be written out. -/
theorem ofValue_circular :
    (¬ Grammatical "" (circular 495) ∧
      ofValue "" (circular 495) = .error (.unusable .tooDeep) ∧
      ¬ (DocumentError.unusable .tooDeep).IsOfForm) ∧
    (¬ Grammatical "" longKeyed ∧
      ofValue "" longKeyed = .error (.unusable .tooManyDigits) ∧
      ¬ (DocumentError.unusable .tooManyDigits).IsOfForm) := by
  have too_deep := ofValue_circle 495 ""
  have too_long := ofValue_longKeyed ""
  refine ⟨⟨?_, too_deep, nofun⟩, ?_, too_long, nofun⟩
  · rw [← ofValue_ok_iff, too_deep]
    exact nofun
  · rw [← ofValue_ok_iff, too_long]
    exact nofun

end ExternalFields.Definition
