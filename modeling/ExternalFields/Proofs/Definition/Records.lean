import ExternalFields.Proofs.Definition.Flattening
import ExternalFields.Proofs.Field.Occurrence

/-!
# Records of schema documents

The records of a schema document are listed in document order, each with its full name: its key,
or in a list the path of the record it stands in and its own name.  A root set is no record itself;
what it holds stands in its place.

Reading makes a record's key relative to the record around it, and the names on the way to its
definition are joined again when paths are compared.  Where full names extend each other, the one
undoes the other, so the places of the definitions are the records, in order, and the path of each
is the record's full name (`places_of_ofValue`).

* `Definition.Record`, `Definition.recordsOf`: a record at its full name, and all of a document.
* `Definition.Record.IsFull`: a name that extends that of the record around it.
* **`Definition.find?_fullName`**: each full name finds what its record defines, and no other path
  finds anything.
-/

namespace ExternalFields.Definition

open Yaml

/-! ## Records -/

/-- The name that a record holds itself. -/
def ownName : Value → Text
  | .mapping entries _ =>
    match Value.lookup "name" entries with
    | some (.text s) => s
    | _ => ""
  | _ => ""

/-- A record of a document.  `enclosing` is the path of the record it stands in, empty at top level,
and `key?` is the name that it has from the mapping it stands in, if it stands in one. -/
structure Record where
  enclosing : Text
  key? : Option Text
  fullName : Text
  value : Value

namespace Record

/-- What is read of a record. -/
def read (r : Record) : Except DocumentError Definition := ofRecord r.enclosing r.key? r.value

/-- Whether the full name is that of the record around, a dot and a rest. -/
def IsFull (r : Record) : Prop :=
  r.enclosing ≠ [] → (r.enclosing ++ "." : Text) <+: r.fullName

instance (r : Record) : Decidable r.IsFull := inferInstanceAs (Decidable (_ → _))

/-- The record under a key of a mapping. -/
def ofKey (enclosing key : Text) (value : Value) : Record where
  enclosing
  key? := some (FieldPath.relativeTo enclosing key)
  fullName := key
  value

/-- The record of a list. -/
def ofItem (enclosing : Text) (value : Value) : Record where
  enclosing
  key? := none
  fullName := FieldPath.join enclosing (ownName value)
  value

end Record

/-- A key as the text that names its record. -/
def keyName (key : Value) : Text := key.keyText.toOption.getD ""

mutual

/-- The records of a value that stands in a record, in document order. -/
def recordsOf (enclosing : Text) : Value → List Record
  | .mapping entries _ => recordsOfEntries enclosing entries
  | .list items _ => recordsOfItems enclosing items
  | _ => []

/-- The records of a mapping: one for each key, but for a root set those of its fields. -/
def recordsOfEntries (enclosing : Text) : Entries → List Record
  | [] => []
  | (key, value) :: rest =>
    (if isRootSet value then recordsOfRootSet enclosing value
      else .ofKey enclosing (keyName key) value :: recordsBelow (keyName key) value)
      ++ recordsOfEntries enclosing rest

/-- The records of a list. -/
def recordsOfItems (enclosing : Text) : List Value → List Record
  | [] => []
  | item :: rest =>
    .ofItem enclosing item :: recordsBelow (FieldPath.join enclosing (ownName item)) item
      ++ recordsOfItems enclosing rest

/-- The records in a record of the given full name, its fields before its multi-fields. -/
def recordsBelow (fullName : Text) : Value → List Record
  | .mapping entries _ =>
    recordsUnder fullName "fields" entries ++ recordsUnder fullName "multi_fields" entries
  | _ => []

/-- The records in a root set. -/
def recordsOfRootSet (enclosing : Text) : Value → List Record
  | .mapping entries _ => recordsUnder enclosing "fields" entries
  | _ => []

/-- The records under a text key of a record. -/
def recordsUnder (enclosing name : Text) : Entries → List Record
  | [] => []
  | (key, value) :: rest =>
    if key.isText name then recordsOf enclosing value else recordsUnder enclosing name rest

end

/-! ## Names and paths -/

/-- A path that is spelled by the names above, none of which is empty. -/
def Spells (above : List Text) (path : Text) : Prop :=
  path = List.intercalate "." above ∧ ∀ name ∈ above, name ≠ []

lemma Spells.nil : Spells [] "" := ⟨rfl, by simp⟩

lemma Spells.isEmpty {above : List Text} {path : Text} (spells : Spells above path) :
    path.isEmpty = above.isEmpty := by
  obtain ⟨rfl, named⟩ := spells
  cases above with
  | nil => rfl
  | cons first others =>
      have first_ne := named first List.mem_cons_self
      cases others with
      | nil => simpa using first_ne
      | cons second others => simp [List.intercalate_cons_cons, first_ne]

/-- The path of the definition at a place, given the path that the names above spell. -/
lemma Spells.path_eq {above : List Text} {path : Text} (spells : Spells above path)
    (definition : Definition) :
    Place.path ⟨above, definition⟩ = FieldPath.join path definition.name := by
  rw [FieldPath.join, spells.isEmpty, Place.path, Place.names]
  cases above with
  | nil => simp
  | cons first others =>
      rw [intercalate_concat _ _ _ (List.cons_ne_nil first others), ← spells.1]
      rfl

lemma Spells.concat {above : List Text} {path : Text} (spells : Spells above path)
    {definition : Definition} (named : definition.name ≠ []) :
    Spells (above ++ [definition.name]) (FieldPath.join path definition.name) := by
  refine ⟨(spells.path_eq definition).symm, fun name member => ?_⟩
  rcases List.mem_append.mp member with h | h
  · exact spells.2 name h
  · rw [List.mem_singleton.mp h]
    exact named

/-- **A full name made relative and joined again** is the same name. -/
lemma Record.IsFull.join_relativeTo {enclosing key : Text} {value : Value}
    (full : (Record.ofKey enclosing key value).IsFull) :
    FieldPath.join enclosing (FieldPath.relativeTo enclosing key) = key := by
  rw [FieldPath.join, FieldPath.relativeTo]
  by_cases top : enclosing = []
  · simp [top]
  · obtain ⟨rest, rest_eq⟩ := full top
    have stripped : (enclosing ++ "." : Text).isPrefixOf? key = some rest :=
      List.isPrefixOf?_eq_some_iff_append_eq.mpr rest_eq
    have below : ¬ enclosing.isEmpty := by simpa using top
    rw [if_neg below, if_neg below, stripped]
    exact rest_eq

/-! ## Records and places -/

/-- The name of a definition is the one given to its record, or the one the record holds. -/
lemma ofRecord_name {value : Value} {enclosing : Text} {key? : Option Text}
    {definition : Definition} (h : ofRecord enclosing key? value = .ok definition) :
    definition.name ≠ [] ∧ definition.name = key?.getD (ownName value) := by
  cases value with
  | mapping entries _ =>
      simp only [ofRecord, bind_eq_ok, pure_eq_ok, Except.ok.injEq] at h
      obtain ⟨name, name_ok, scalars, scalars_ok, _, _, _, _, rfl⟩ := h
      obtain rfl := scalarsOf_name scalars_ok
      refine ⟨recordName_ok name_ok, ?_⟩
      cases key? with
      | none | some _ =>
          simp only [recordName] at name_ok
          split_ifs at name_ok
          exact (Except.ok.inj name_ok).symm
  | _ => cases h

lemma keyName_of_ok {key : Value} {name : Text}
    (named : key.keyText.mapError DocumentError.unusable = .ok name) : keyName key = name := by
  rw [keyName, mapError_eq_ok.mp named]
  rfl

/-- A path, and what is defined there. -/
def Place.located (place : Place) : Text × Option Definition := (place.path, some place.definition)

/-- A full name, and what is read of the record. -/
def Record.located (r : Record) : Text × Option Definition := (r.fullName, r.read.toOption)

/-- A record and those in it stand at the places of its definition and of those below that, if they
do so below it and the names above join to the full name. -/
lemma located_cons {r : Record} {records : List Record} {above : List Text}
    {definition : Definition} (read : r.read = .ok definition)
    (path_eq : Place.path ⟨above, definition⟩ = r.fullName)
    (below : (places (above ++ [definition.name]) definition.fields
      ++ places (above ++ [definition.name]) definition.multiFields).map Place.located
        = records.map Record.located) :
    (places above [definition]).map Place.located = (r :: records).map Record.located := by
  rw [places_cons, places_nil, List.append_nil, List.map_cons, List.map_cons, below, Place.located,
    Record.located, path_eq, read]
  rfl

mutual

/-- **The places of the definitions are the records of the value**, in order, if all full names
extend each other.  The proof follows the reader; on the way down the names above a definition
always spell the path of the record around it. -/
lemma places_of_ofValue : ∀ (value : Value) {above : List Text} {enclosing : Text}
    {definitions : List Definition}, Spells above enclosing →
      ofValue enclosing value = .ok definitions →
      (∀ r ∈ recordsOf enclosing value, r.IsFull) →
      (places above definitions).map Place.located
        = (recordsOf enclosing value).map Record.located
  | .null, _, _, _, _, h, _ => by
      cases h
      rfl
  | .mapping entries _, _, _, _, spells, h, full => places_of_ofEntries entries spells h full
  | .list items _, _, _, _, spells, h, full => places_of_ofItems items spells h full
  | .bool _, _, _, _, _, h, _ | .int _, _, _, _, _, h, _ | .float _, _, _, _, _, h, _
  | .text _, _, _, _, _, h, _ | .binary _, _, _, _, _, h, _ | .date .., _, _, _, _, h, _
  | .timestamp .., _, _, _, _, h, _ | .pair .., _, _, _, _, h, _ | .set .., _, _, _, _, h, _
  | .endless, _, _, _, _, h, _ => by cases h

lemma places_of_ofEntries : ∀ (entries : Entries) {above : List Text} {enclosing : Text}
    {definitions : List Definition}, Spells above enclosing →
      ofEntries enclosing entries = .ok definitions →
      (∀ r ∈ recordsOfEntries enclosing entries, r.IsFull) →
      (places above definitions).map Place.located
        = (recordsOfEntries enclosing entries).map Record.located
  | [], _, _, _, _, h, _ => by
      cases h
      rfl
  | (key, value) :: rest, above, enclosing, definitions, spells, h, full => by
      rw [recordsOfEntries] at full ⊢
      rw [ofEntries] at h
      split at h
      · next root =>
          rw [if_pos root] at full ⊢
          obtain ⟨full_set, full_rest⟩ := List.forall_mem_append.mp full
          simp only [bind_eq_ok, pure_eq_ok, Except.ok.injEq] at h
          obtain ⟨first, first_ok, others, others_ok, rfl⟩ := h
          rw [places_append, List.map_append, List.map_append,
            places_of_ofRootSet value spells first_ok full_set,
            places_of_ofEntries rest spells others_ok full_rest]
      · next no_root =>
          rw [if_neg no_root] at full ⊢
          obtain ⟨full_record, full_rest⟩ := List.forall_mem_append.mp full
          obtain ⟨full_here, full_below⟩ := List.forall_mem_cons.mp full_record
          simp only [bind_eq_ok, map_eq_ok, pure_eq_ok, Except.ok.injEq] at h
          obtain ⟨name, name_ok, first, ⟨definition, definition_ok, rfl⟩, others, others_ok, rfl⟩ :=
            h
          obtain rfl := keyName_of_ok name_ok
          have path_eq : Place.path ⟨above, definition⟩ = keyName key := by
            rw [spells.path_eq, (ofRecord_name definition_ok).2]
            exact full_here.join_relativeTo
          have here := located_cons (r := .ofKey enclosing (keyName key) value) definition_ok
            path_eq (places_of_ofRecord value spells definition_ok path_eq full_below)
          rw [places_append, List.map_append, List.map_append, here,
            places_of_ofEntries rest spells others_ok full_rest]

lemma places_of_ofItems : ∀ (items : List Value) {above : List Text} {enclosing : Text}
    {definitions : List Definition}, Spells above enclosing →
      ofItems enclosing items = .ok definitions →
      (∀ r ∈ recordsOfItems enclosing items, r.IsFull) →
      (places above definitions).map Place.located
        = (recordsOfItems enclosing items).map Record.located
  | [], _, _, _, _, h, _ => by
      cases h
      rfl
  | item :: rest, above, enclosing, definitions, spells, h, full => by
      rw [recordsOfItems] at full ⊢
      obtain ⟨full_record, full_rest⟩ := List.forall_mem_append.mp full
      obtain ⟨-, full_below⟩ := List.forall_mem_cons.mp full_record
      simp only [ofItems, bind_eq_ok, pure_eq_ok, Except.ok.injEq] at h
      obtain ⟨definition, definition_ok, others, others_ok, rfl⟩ := h
      have path_eq : Place.path ⟨above, definition⟩
          = FieldPath.join enclosing (ownName item) := by
        rw [spells.path_eq, (ofRecord_name definition_ok).2]
        rfl
      have here := located_cons (r := .ofItem enclosing item) definition_ok path_eq
        (places_of_ofRecord item spells definition_ok path_eq full_below)
      rw [← List.singleton_append, places_append, List.map_append, List.map_append, here,
        places_of_ofItems rest spells others_ok full_rest]

/-- What is below the definition of a record are the records in it. -/
lemma places_of_ofRecord : ∀ (value : Value) {above : List Text} {enclosing fullName : Text}
    {key? : Option Text} {definition : Definition}, Spells above enclosing →
      ofRecord enclosing key? value = .ok definition →
      Place.path ⟨above, definition⟩ = fullName →
      (∀ r ∈ recordsBelow fullName value, r.IsFull) →
      (places (above ++ [definition.name]) definition.fields
        ++ places (above ++ [definition.name]) definition.multiFields).map Place.located
          = (recordsBelow fullName value).map Record.located
  | .mapping entries _, above, enclosing, fullName, key?, definition, spells, h, path_eq, full => by
      rw [spells.path_eq] at path_eq
      subst path_eq
      have spells_below := spells.concat (ofRecord_name h).1
      simp only [ofRecord, bind_eq_ok, pure_eq_ok, Except.ok.injEq] at h
      obtain ⟨name, name_ok, scalars, scalars_ok, multiFields, multiFields_ok, fields, fields_ok,
        rfl⟩ := h
      rw [recordsBelow] at full ⊢
      obtain ⟨full_fields, full_multi⟩ := List.forall_mem_append.mp full
      obtain rfl := scalarsOf_name scalars_ok
      rw [List.map_append, List.map_append,
        places_of_ofEntry entries spells_below fields_ok full_fields,
        places_of_ofEntry entries spells_below multiFields_ok full_multi]
  | .null, _, _, _, _, _, _, h, _, _ | .list .., _, _, _, _, _, _, h, _, _
  | .bool _, _, _, _, _, _, _, h, _, _ | .int _, _, _, _, _, _, _, h, _, _
  | .float _, _, _, _, _, _, _, h, _, _ | .text _, _, _, _, _, _, _, h, _, _
  | .binary _, _, _, _, _, _, _, h, _, _ | .date .., _, _, _, _, _, _, h, _, _
  | .timestamp .., _, _, _, _, _, _, h, _, _ | .pair .., _, _, _, _, _, _, h, _, _
  | .set .., _, _, _, _, _, _, h, _, _ | .endless, _, _, _, _, _, _, h, _, _ => by cases h

lemma places_of_ofRootSet : ∀ (value : Value) {above : List Text} {enclosing : Text}
    {definitions : List Definition}, Spells above enclosing →
      ofRootSet enclosing value = .ok definitions →
      (∀ r ∈ recordsOfRootSet enclosing value, r.IsFull) →
      (places above definitions).map Place.located
        = (recordsOfRootSet enclosing value).map Record.located
  | .mapping entries _, _, _, _, spells, h, full => places_of_ofEntry entries spells h full
  | .null, _, _, _, _, h, _ | .list .., _, _, _, _, h, _ | .bool _, _, _, _, _, h, _
  | .int _, _, _, _, _, h, _ | .float _, _, _, _, _, h, _ | .text _, _, _, _, _, h, _
  | .binary _, _, _, _, _, h, _ | .date .., _, _, _, _, h, _ | .timestamp .., _, _, _, _, h, _
  | .pair .., _, _, _, _, h, _ | .set .., _, _, _, _, h, _ | .endless, _, _, _, _, h, _ => by
      cases h
      rfl

lemma places_of_ofEntry : ∀ (entries : Entries) {above : List Text} {enclosing name : Text}
    {definitions : List Definition}, Spells above enclosing →
      ofEntry enclosing name entries = .ok definitions →
      (∀ r ∈ recordsUnder enclosing name entries, r.IsFull) →
      (places above definitions).map Place.located
        = (recordsUnder enclosing name entries).map Record.located
  | [], _, _, _, _, _, h, _ => by
      cases h
      rfl
  | (key, value) :: rest, _, _, _, _, spells, h, full => by
      rw [recordsUnder] at full ⊢
      rw [ofEntry] at h
      split at h
      · next here =>
          rw [if_pos here] at full ⊢
          exact places_of_ofValue value spells h full
      · next elsewhere =>
          rw [if_neg elsewhere] at full ⊢
          exact places_of_ofEntry rest spells h full

end

/-! ## Looking up full names -/

/-- **Each record is found by its full name.**  In a document that is read, let every record of a
mapping be keyed by the full name of the record around it, a dot and a rest; the keys at top level
are free, and those of root sets do not count.  If no two records have the same full name, and no
full name holds the segment `*`, then the lookup of each full name, multi-fields included, gives
what is read of its record, and the lookup of any other path gives nothing. -/
theorem find?_fullName {data : Value} {definitions : List Definition}
    (read : ofValue "" data = .ok definitions) (full : ∀ r ∈ recordsOf "" data, r.IsFull)
    (distinct : ((recordsOf "" data).map Record.fullName).Nodup)
    (noWildcard : ∀ r ∈ recordsOf "" data, ("*" : Text) ∉ FieldPath.segments r.fullName) :
    (∀ r ∈ recordsOf "" data, ∃ definition,
      r.read = .ok definition ∧ find? definitions r.fullName = some definition) ∧
    ∀ path, (∀ r ∈ recordsOf "" data, r.fullName ≠ path) → find? definitions path = none := by
  have places_eq := places_of_ofValue data .nil read full
  have paths_eq : (places [] definitions).map Place.path
      = (recordsOf "" data).map Record.fullName := by
    have fst_eq := congrArg (List.map Prod.fst) places_eq
    rwa [List.map_map, List.map_map] at fst_eq
  have unambiguous : Unambiguous definitions := by
    refine ⟨by rw [paths_eq]; exact distinct, fun place member => ?_⟩
    have path_member : place.path ∈ (recordsOf "" data).map Record.fullName := by
      rw [← paths_eq]
      exact List.mem_map_of_mem member
    obtain ⟨r, r_member, same_path⟩ := List.mem_map.mp path_member
    rw [← place.segments_path, ← same_path]
    rintro segment there rfl
    exact noWildcard r r_member there
  constructor
  · intro r member
    have located : r.located ∈ (places [] definitions).map Place.located := by
      rw [places_eq]
      exact List.mem_map_of_mem member
    obtain ⟨place, place_member, same⟩ := List.mem_map.mp located
    obtain ⟨path_eq, defined⟩ := Prod.mk.inj same
    refine ⟨place.definition, ?_, unambiguous.find?_eq_some.mpr ⟨place, place_member, path_eq, rfl⟩⟩
    cases r_read : r.read with
    | error e => simp [r_read, Except.toOption] at defined
    | ok definition =>
        rw [r_read] at defined
        cases defined
        rfl
  · intro path unnamed
    cases found : find? definitions path with
    | none => rfl
    | some definition =>
        obtain ⟨place, place_member, path_eq, -⟩ := unambiguous.find?_eq_some.mp found
        have path_member : path ∈ (recordsOf "" data).map Record.fullName := by
          rw [← paths_eq, ← path_eq]
          exact List.mem_map_of_mem place_member
        obtain ⟨r, r_member, same_path⟩ := List.mem_map.mp path_member
        exact absurd same_path (unnamed r r_member)

/-! ## An example -/

/-- A document of nested mappings with two root sets, one of them among the fields of a record. -/
def nestedDocument : Value :=
  .mapping [
    (.text "base", .mapping [(.text "root", .bool true), (.text "fields", .mapping [
      (.text "@timestamp", .mapping [(.text "type", .text "date")] none)] none)] none),
    (.text "host", .mapping [(.text "type", .text "group"), (.text "fields", .mapping [
      (.text "host.name", .mapping [(.text "type", .text "keyword"), (.text "multi_fields", .list [
        .mapping [(.text "name", .text "text"), (.text "type", .text "match_only_text")] none]
          none)] none),
      (.text "addresses", .mapping [(.text "root", .bool true), (.text "fields", .mapping [
        (.text "host.ip.v4", .mapping [(.text "type", .text "ip")] none)] none)] none)]
          none)] none)] none

/-- What it defines. -/
def nestedDefinitions : List Definition := [
  { name := "@timestamp", type := "date" },
  { name := "host", type := "group", fields := [
    { name := "name", type := "keyword", multiFields := [
      { name := "text", type := "match_only_text" }] },
    { name := "ip.v4", type := "ip" }] }]

/-- All its records are found by their full names, and its root sets are not. -/
theorem find?_fullName_nested :
    ofValue "" nestedDocument = .ok nestedDefinitions ∧
      (recordsOf "" nestedDocument).map Record.fullName
        = ["@timestamp", "host", "host.name", "host.name.text", "host.ip.v4"] ∧
      (∀ r ∈ recordsOf "" nestedDocument, r.IsFull) ∧
      (∀ r ∈ recordsOf "" nestedDocument, ∃ definition,
        r.read = .ok definition ∧ find? nestedDefinitions r.fullName = some definition) ∧
      find? nestedDefinitions "base" = none ∧ find? nestedDefinitions "host.addresses" = none := by
  have read : ofValue "" nestedDocument = .ok nestedDefinitions := rfl
  have full : ∀ r ∈ recordsOf "" nestedDocument, r.IsFull := by decide
  obtain ⟨found, others⟩ := find?_fullName read full (by decide) (by decide)
  exact ⟨read, rfl, full, found, others _ (by decide), others _ (by decide)⟩

end ExternalFields.Definition
