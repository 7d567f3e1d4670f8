import ExternalFields.Proofs.Definition.Named
import ExternalFields.Proofs.Field.Entries
import ExternalFields.Proofs.FieldPath

/-!
# Layouts of schema documents

The same definitions can be written in many ways.  Any list of them is written as a list of records
that carry their names, or as a mapping of records under their full paths; a record may leave out
what is empty, and hold more than is read of it; and any run of the records of a mapping may stand
in a root set, again in either layout.

* `Definition.Writes`: the ways to write definitions under a path.
* **`Definition.ofValue_layouts`**: definitions with names can be written, and whichever way they
  are, they are read as what they are.
-/

namespace ExternalFields.Definition

open Yaml

/-! ## Attributes -/

/-- What is found under a key is one of the values that show an attribute; of an attribute that is
empty, it may also be null, or nothing. -/
def Shows (isEmpty : Prop) (shown : Value → Prop) (found : Option Value) : Prop :=
  (isEmpty ∧ (found = none ∨ found = some .null)) ∨ ∃ value, shown value ∧ found = some value

/-- A record that shows the attributes of a definition.  Other keys do not matter, nor does the
order of keys. -/
structure ShowsAttributes (definition : Definition) (entries : Entries) : Prop where
  type : Shows (definition.type = []) (· = .text definition.type) (Value.lookup "type" entries)
  description : Shows (definition.description = []) (· = .text definition.description)
    (Value.lookup "description" entries)
  pattern : Shows (definition.pattern = []) (· = .text definition.pattern)
    (Value.lookup "pattern" entries)
  index : Shows (definition.index = none) (∃ b, definition.index = some b ∧ · = .bool b)
    (Value.lookup "index" entries)
  docValues : Shows (definition.docValues = none) (∃ b, definition.docValues = some b ∧ · = .bool b)
    (Value.lookup "doc_values" entries)
  normalize : Shows (definition.normalize = [])
    (∃ mark, · = .list (definition.normalize.map .text) mark) (Value.lookup "normalize" entries)

section

variable {entries : Entries} {key : Text} (path : Text)

lemma text?_of_shows {s : Text}
    (shows_text : Shows (s = []) (· = .text s) (Value.lookup key entries)) :
    ∃ found, Attribute.text? entries path key = .ok found ∧ found.getD "" = s := by
  rcases shows_text with ⟨rfl, absent | null⟩ | ⟨_, rfl, found⟩
  · exact ⟨none, by rw [Attribute.text?, absent], rfl⟩
  · exact ⟨none, by rw [Attribute.text?, null], rfl⟩
  · exact ⟨some s, by rw [Attribute.text?, found], rfl⟩

lemma flag?_of_shows {flag : Option Bool}
    (shows_flag : Shows (flag = none) (∃ b, flag = some b ∧ · = .bool b)
      (Value.lookup key entries)) :
    Attribute.flag? entries path key = .ok flag := by
  rcases shows_flag with ⟨rfl, absent | null⟩ | ⟨_, ⟨b, rfl, rfl⟩, found⟩
  · rw [Attribute.flag?, absent]
  · rw [Attribute.flag?, null]
  · rw [Attribute.flag?, found]

lemma texts_of_shows {strings : List Text}
    (shows_texts : Shows (strings = []) (∃ mark, · = .list (strings.map .text) mark)
      (Value.lookup key entries)) :
    Attribute.texts entries path key = .ok strings := by
  rcases shows_texts with ⟨rfl, absent | null⟩ | ⟨_, ⟨mark, rfl⟩, found⟩
  · rw [Attribute.texts, absent]
  · rw [Attribute.texts, null]
  · simp only [Attribute.texts, found, allTexts?_map_text]

/-- The attributes that a record shows are read. -/
lemma ShowsAttributes.scalarsOf_eq {definition : Definition}
    (attributes : ShowsAttributes definition entries) :
    scalarsOf entries path definition.name
      = .ok { definition with multiFields := [], fields := [] } := by
  obtain ⟨type, type_read, type_eq⟩ := text?_of_shows path attributes.type
  obtain ⟨description, description_read, description_eq⟩ :=
    text?_of_shows path attributes.description
  obtain ⟨pattern, pattern_read, pattern_eq⟩ := text?_of_shows path attributes.pattern
  have index_read := flag?_of_shows path attributes.index
  have docValues_read := flag?_of_shows path attributes.docValues
  have normalize_read := texts_of_shows path attributes.normalize
  rw [scalarsOf, type_read, description_read, pattern_read, index_read, docValues_read,
    normalize_read]
  simp only [ok_bind, pure_eq_ok, type_eq, description_eq, pattern_eq]

end

/-! ## Layouts -/

mutual

/-- The ways to write definitions that stand under the path `enclosing`. -/
inductive Writes : Text → List Definition → Value → Prop
  | nothing {enclosing : Text} : Writes enclosing [] .null
  | list {enclosing : Text} {definitions : List Definition} {items : List Value} {mark : Mark}
      (written : WritesItems enclosing definitions items) :
      Writes enclosing definitions (.list items mark)
  | mapping {enclosing : Text} {definitions : List Definition} {entries : Entries} {mark : Mark}
      (written : WritesEntries enclosing definitions entries) :
      Writes enclosing definitions (.mapping entries mark)

/-- In a list, each definition is a record that holds its name. -/
inductive WritesItems : Text → List Definition → List Value → Prop
  | nil {enclosing : Text} : WritesItems enclosing [] []
  | cons {enclosing : Text} {definition : Definition} {rest : List Definition} {entries : Entries}
      {mark : Mark} {items : List Value}
      (name : Value.lookup "name" entries = some (.text definition.name))
      (written : WritesRecord (FieldPath.join enclosing definition.name) definition entries)
      (others : WritesItems enclosing rest items) :
      WritesItems enclosing (definition :: rest) (.mapping entries mark :: items)

/-- In a mapping, each definition is a record under its full path, whatever name the record holds;
and a run of definitions may be the fields of a root set, under any key. -/
inductive WritesEntries : Text → List Definition → Entries → Prop
  | nil {enclosing : Text} : WritesEntries enclosing [] []
  | record {enclosing : Text} {definition : Definition} {rest : List Definition} {key : Value}
      {entries : Entries} {mark : Mark} {records : Entries}
      (path : key.keyText = .ok (FieldPath.join enclosing definition.name))
      (no_root : Value.lookup "root" entries ≠ some (.bool true))
      (written : WritesRecord (FieldPath.join enclosing definition.name) definition entries)
      (others : WritesEntries enclosing rest records) :
      WritesEntries enclosing (definition :: rest) ((key, .mapping entries mark) :: records)
  | rootSet {enclosing : Text} {run rest : List Definition} {key : Value} {entries : Entries}
      {mark : Mark} {records : Entries}
      (root : Value.lookup "root" entries = some (.bool true))
      (written : WritesUnder enclosing run (Value.lookup "fields" entries))
      (others : WritesEntries enclosing rest records) :
      WritesEntries enclosing (run ++ rest) ((key, .mapping entries mark) :: records)

/-- A record of a definition with the given path shows its attributes, and writes its multi-fields
and the definitions below it under that path. -/
inductive WritesRecord : Text → Definition → Entries → Prop
  | intro {path : Text} {definition : Definition} {entries : Entries}
      (named : definition.name ≠ [])
      (attributes : ShowsAttributes definition entries)
      (multiFields : WritesUnder path definition.multiFields (Value.lookup "multi_fields" entries))
      (fields : WritesUnder path definition.fields (Value.lookup "fields" entries)) :
      WritesRecord path definition entries

/-- Where there are no definitions, nothing need be written. -/
inductive WritesUnder : Text → List Definition → Option Value → Prop
  | absent {enclosing : Text} : WritesUnder enclosing [] none
  | present {enclosing : Text} {definitions : List Definition} {value : Value}
      (written : Writes enclosing definitions value) :
      WritesUnder enclosing definitions (some value)

end

/-! ## Reading -/

lemma isRootSet_mapping {entries : Entries} {mark : Mark} :
    isRootSet (.mapping entries mark) ↔ Value.lookup "root" entries = some (.bool true) := by
  rw [isRootSet]
  split
  · next root => simpa using root
  · next no_root => simpa using no_root

/-- A record with a name is read if all that it shows is. -/
lemma ofRecord_of_shows {enclosing : Text} {key? : Option Text} {definition : Definition}
    {entries : Entries} {mark : Mark}
    (name : recordName enclosing key? entries = .ok definition.name)
    (attributes : ShowsAttributes definition entries)
    (multiFields : ofEntry (FieldPath.join enclosing definition.name) "multi_fields" entries
      = .ok definition.multiFields)
    (fields : ofEntry (FieldPath.join enclosing definition.name) "fields" entries
      = .ok definition.fields) :
    ofRecord enclosing key? (.mapping entries mark) = .ok definition := by
  rw [ofRecord, name]
  simp only [ok_bind, pure_eq_ok, attributes.scalarsOf_eq, multiFields, fields]
  cases definition
  rfl

mutual

/-- What a value writes is read of it.  The proof follows the reader: the path that a key is made
relative to is always the one that the name was joined to. -/
lemma ofValue_of_writes : ∀ (value : Value) {enclosing : Text} {definitions : List Definition},
    Writes enclosing definitions value → ofValue enclosing value = .ok definitions
  | .null, _, _, .nothing => rfl
  | .mapping entries _, _, _, .mapping written => ofEntries_of_writes entries written
  | .list items _, _, _, .list written => ofItems_of_writes items written

lemma ofEntries_of_writes : ∀ (entries : Entries) {enclosing : Text}
    {definitions : List Definition},
    WritesEntries enclosing definitions entries → ofEntries enclosing entries = .ok definitions
  | [], _, _, .nil => rfl
  | (_, .mapping entries mark) :: records, enclosing, _,
      @WritesEntries.record _ definition _ _ _ _ _ path no_root
        (.intro named attributes multiFields fields) others => by
      have name : recordName enclosing (some definition.name) entries = .ok definition.name :=
        if_neg (by simpa using named)
      have here : ofRecord enclosing (some definition.name) (.mapping entries mark)
          = .ok definition :=
        ofRecord_of_shows name attributes (ofEntry_of_writes entries multiFields)
          (ofEntry_of_writes entries fields)
      rw [ofEntries, if_neg (mt isRootSet_mapping.mp no_root), path]
      simp only [Except.mapError, ok_bind, FieldPath.relativeTo_join, here,
        ofEntries_of_writes records others]
      rfl
  | (_, .mapping entries mark) :: records, enclosing, _, .rootSet root written others => by
      have here : ofRootSet enclosing (.mapping entries mark) = .ok _ :=
        ofEntry_of_writes entries written
      rw [ofEntries, if_pos (isRootSet_mapping.mpr root), here, ofEntries_of_writes records others]
      rfl

lemma ofItems_of_writes : ∀ (items : List Value) {enclosing : Text}
    {definitions : List Definition},
    WritesItems enclosing definitions items → ofItems enclosing items = .ok definitions
  | [], _, _, .nil => rfl
  | .mapping entries mark :: items, enclosing, definition :: _,
      .cons found (.intro named attributes multiFields fields) others => by
      have name : recordName enclosing none entries = .ok definition.name := by
        simp [recordName, found, named]
      have here : ofRecord enclosing none (.mapping entries mark) = .ok definition :=
        ofRecord_of_shows name attributes (ofEntry_of_writes entries multiFields)
          (ofEntry_of_writes entries fields)
      rw [ofItems, here, ofItems_of_writes items others]
      rfl

lemma ofEntry_of_writes : ∀ (entries : Entries) {enclosing name : Text}
    {definitions : List Definition},
    WritesUnder enclosing definitions (Value.lookup name entries) →
      ofEntry enclosing name entries = .ok definitions
  | [], _, _, _, .absent => rfl
  | (key, value) :: rest, enclosing, name, definitions, written => by
      rw [Value.lookup] at written
      rw [ofEntry]
      split at written
      · next here =>
          cases written with
          | present written =>
              rw [if_pos here]
              exact ofValue_of_writes value written
      · next elsewhere =>
          rw [if_neg elsewhere]
          exact ofEntry_of_writes rest written

end

/-! ## Writing -/

/-- A record that holds all of a definition, with its multi-fields and fields in lists. -/
def fullEntries (definition : Definition) (multiFields fields : List Value) : Entries := [
  (.text "name", .text definition.name),
  (.text "type", .text definition.type),
  (.text "description", .text definition.description),
  (.text "pattern", .text definition.pattern),
  (.text "index", definition.index.elim .null .bool),
  (.text "doc_values", definition.docValues.elim .null .bool),
  (.text "normalize", .list (definition.normalize.map .text) none),
  (.text "multi_fields", .list multiFields none),
  (.text "fields", .list fields none)]

lemma shows_flag (flag : Option Bool) :
    Shows (flag = none) (∃ b, flag = some b ∧ · = .bool b) (some (flag.elim .null .bool)) := by
  cases flag with
  | none => exact .inl ⟨rfl, .inr rfl⟩
  | some b => exact .inr ⟨.bool b, ⟨b, rfl, rfl⟩, rfl⟩

/-- A full record writes its definition. -/
lemma writesRecord_fullEntries {path : Text} {definition : Definition}
    {multiFields fields : List Value} (named : definition.name ≠ [])
    (multi_written : WritesItems path definition.multiFields multiFields)
    (fields_written : WritesItems path definition.fields fields) :
    WritesRecord path definition (fullEntries definition multiFields fields) := by
  have attributes : ShowsAttributes definition (fullEntries definition multiFields fields) := {
    type := .inr ⟨_, rfl, rfl⟩
    description := .inr ⟨_, rfl, rfl⟩
    pattern := .inr ⟨_, rfl, rfl⟩
    index := shows_flag definition.index
    docValues := shows_flag definition.docValues
    normalize := .inr ⟨_, ⟨none, rfl⟩, rfl⟩ }
  exact .intro named attributes (.present (.list multi_written)) (.present (.list fields_written))

/-- Definitions with names can be written as lists all the way down. -/
lemma exists_writesItems (definitions : List Definition) :
    Named definitions → ∀ enclosing, ∃ items, WritesItems enclosing definitions items := by
  induction definitions using forest_induction with
  | nil => exact fun _ _ => ⟨[], .nil⟩
  | cons definition rest ih_multi ih_below ih_rest =>
      intro named enclosing
      cases named with
      | cons name_ne multiFields below others =>
          obtain ⟨multi_items, multi_written⟩ := ih_multi multiFields _
          obtain ⟨items, items_written⟩ := ih_below below _
          obtain ⟨rest_items, rest_written⟩ := ih_rest others enclosing
          exact ⟨.mapping (fullEntries definition multi_items items) none :: rest_items,
            .cons rfl (writesRecord_fullEntries name_ne multi_written items_written) rest_written⟩

/-- Definitions with names can be written as a mapping. -/
lemma exists_writesEntries (definitions : List Definition) :
    Named definitions → ∀ enclosing, ∃ entries, WritesEntries enclosing definitions entries := by
  intro named enclosing
  induction definitions with
  | nil => exact ⟨[], .nil⟩
  | cons definition rest ih =>
      cases named with
      | cons name_ne multiFields below others =>
          obtain ⟨multi_items, multi_written⟩ := exists_writesItems _ multiFields _
          obtain ⟨items, items_written⟩ := exists_writesItems _ below _
          obtain ⟨records, records_written⟩ := ih others
          have no_root : Value.lookup "root" (fullEntries definition multi_items items)
              ≠ some (.bool true) := nofun
          exact ⟨(.text (FieldPath.join enclosing definition.name),
              .mapping (fullEntries definition multi_items items) none) :: records,
            .record rfl no_root (writesRecord_fullEntries name_ne multi_written items_written)
              records_written⟩

/-- **All layouts of a schema document denote the same definitions.**  Definitions that have names
can be written as a list and as a mapping, under any path; and every value that writes them, with
the lists of definitions at all depths in either layout, with anything else in the records, and with
any runs of records in root sets, is read as these definitions in their order.  No two names need be
different for that. -/
theorem ofValue_layouts {definitions : List Definition} (named : Named definitions)
    (enclosing : Text) :
    (∃ items mark, Writes enclosing definitions (.list items mark)) ∧
      (∃ entries mark, Writes enclosing definitions (.mapping entries mark)) ∧
      ∀ value, Writes enclosing definitions value →
        ofValue enclosing value = .ok definitions := by
  obtain ⟨items, items_written⟩ := exists_writesItems definitions named enclosing
  obtain ⟨entries, entries_written⟩ := exists_writesEntries definitions named enclosing
  exact ⟨⟨items, none, .list items_written⟩, ⟨entries, none, .mapping entries_written⟩,
    fun value written => ofValue_of_writes value written⟩

/-- Definitions in which a name repeats that of the definition around it. -/
def mixedDefinitions : List Definition := [
  { name := "host", fields := [
    { name := "host.ip", type := "ip" },
    { name := "name", type := "keyword", index := some true, multiFields := [
      { name := "text", type := "match_only_text" }] }] },
  { name := "tags", type := "keyword", normalize := ["array"] }]

/-- A mapping that writes them: a root set with a list of one record, whose fields are a mapping
with a list of multi-fields in it, and a record that holds another name. -/
def mixedDocument : Value :=
  .mapping [
    (.text "base", .mapping [(.text "root", .bool true), (.text "fields", .list [
      .mapping [(.text "level", .int 1), (.text "name", .text "host"), (.text "fields", .mapping [
        (.text "host.host.ip", .mapping [(.text "type", .text "ip")] none),
        (.text "host.name", .mapping [(.text "index", .bool true), (.text "type", .text "keyword"),
          (.text "multi_fields", .list [.mapping [(.text "type", .text "match_only_text"),
            (.text "name", .text "text")] none] none)] none)] none)] none] none)] none),
    (.text "tags", .mapping [(.text "name", .text "host"), (.text "description", .null),
      (.text "normalize", .list [.text "array"] none), (.text "type", .text "keyword")] none)] none

/-- The document is read as the definitions that it writes. -/
theorem ofValue_layouts_mixed :
    Named mixedDefinitions ∧ Writes "" mixedDefinitions mixedDocument ∧
      ofValue "" mixedDocument = .ok mixedDefinitions := by
  have named : Named mixedDefinitions :=
    .cons (by decide) .nil (.cons (by decide) .nil .nil (.cons (by decide)
      (.cons (by decide) .nil .nil .nil) .nil .nil)) (.cons (by decide) .nil .nil .nil)
  have written : Writes "" mixedDefinitions mixedDocument := by
    refine .mapping (@WritesEntries.rootSet _ [_] [_] _ _ _ _ rfl (.present (.list
      (.cons rfl (.intro (by decide) ?host .absent (.present (.mapping
        (.record rfl nofun (.intro (by decide) ?ip .absent .absent)
        (.record rfl nofun (.intro (by decide) ?name (.present (.list
          (.cons rfl (.intro (by decide) ?text .absent .absent) .nil))) .absent) .nil))))) .nil)))
      (.record rfl nofun (.intro (by decide) ?tags .absent .absent) .nil))
    all_goals constructor <;> simp +decide [Shows, Value.lookup]
  exact ⟨named, written, (ofValue_layouts named "").2.2 mixedDocument written⟩

end ExternalFields.Definition
