import ExternalFields.Definition.Reading
import ExternalFields.Failure
import ExternalFields.Proofs.Field.RoundTrip

/-!
# What reading a document fails with

Definitions and fields are read of data that may hold anything.  Nearly all that can be wrong with
it is wrong with its form, which comes out as a parse error.  Two things are not: data that holds
itself is followed no further at some depth, and a key that is a number of too many digits names no
definition.  Both are then somewhere in the data.

* `Value.Holds`: what stands in data, at any depth.
* `DocumentError.IsOfForm`: the errors that come out as parse errors.
* `Definition.FailsBy`, **`Definition.ofValue_failsOnly`**: what reading definitions fails with.
* `Field.FailsBy`, **`Field.ofValue_failsOnly`**: what reading fields fails with.
-/

namespace ExternalFields

open Yaml

/-! ## Parts of data -/

/-- What stands in data as an item of a list or under a key of a mapping, at any depth, itself
included. -/
inductive Yaml.Value.Holds (whole : Value) : Value → Prop
  | self : Holds whole whole
  | item {items : List Value} {mark : Mark} {item : Value} (list : Holds whole (.list items mark))
      (member : item ∈ items) : Holds whole item
  | value {entries : Entries} {mark : Mark} {key value : Value}
      (mapping : Holds whole (.mapping entries mark)) (member : (key, value) ∈ entries) :
      Holds whole value

/-- An entry of a mapping that stands in data. -/
def Yaml.Value.HoldsEntry (whole : Value) (entry : Value × Value) : Prop :=
  ∃ entries mark, whole.Holds (.mapping entries mark) ∧ entry ∈ entries

lemma Yaml.Value.HoldsEntry.value {whole key value : Value} :
    whole.HoldsEntry (key, value) → whole.Holds value
  | ⟨_, _, held, member⟩ => .value held member

/-! ## Errors of form -/

/-- An error of the form of a document, which comes out as a parse error. -/
def DocumentError.IsOfForm (e : DocumentError) : Prop :=
  Failure.ofDocument e = .schema (.parse (.document e))

namespace Attribute

variable (entries : Entries) (path key : Text)

lemma text?_failsOnly : FailsOnly DocumentError.IsOfForm (text? entries path key) := by
  rw [text?]
  split
  · exact .ok none
  · exact .ok none
  · exact .ok _
  · exact .error rfl

lemma flag?_failsOnly : FailsOnly DocumentError.IsOfForm (flag? entries path key) := by
  rw [flag?]
  split
  · exact .ok none
  · exact .ok none
  · exact .ok _
  · exact .error rfl

lemma texts_failsOnly : FailsOnly DocumentError.IsOfForm (texts entries path key) := by
  rw [texts]
  split
  · exact .ok []
  · exact .ok []
  · split
    · exact .ok _
    · exact .error rfl
  · exact .error rfl

end Attribute

open Attribute

/-! ## Definitions -/

namespace Definition

/-- What reading definitions of some data fails with: an error of form, the end of data that holds
itself, or a key that is a number of too many digits. -/
inductive FailsBy (data : Value) : DocumentError → Prop
  | form {e : DocumentError} (form : e.IsOfForm) : FailsBy data e
  | depth (endless : data.Holds .endless) : FailsBy data (.unusable .tooDeep)
  | key {n : Int} {record : Value} (held : data.HoldsEntry (.int n, record))
      (unwritten : wholeText? n = none) : FailsBy data (.unusable .tooManyDigits)

lemma recordName_failsOnly (enclosing : Text) (key? : Option Text) (entries : Entries) :
    FailsOnly DocumentError.IsOfForm (recordName enclosing key? entries) := by
  have checked : ∀ name : Text, FailsOnly DocumentError.IsOfForm
      (if name.isEmpty then .error (.definitionWithoutName enclosing) else .ok name) := by
    intro name
    split
    · exact .error rfl
    · exact .ok name
  exact checked _

lemma scalarsOf_failsOnly (entries : Entries) (path name : Text) :
    FailsOnly DocumentError.IsOfForm (scalarsOf entries path name) := by
  refine (text?_failsOnly entries path "type").bind fun _ _ => ?_
  refine (text?_failsOnly entries path "description").bind fun _ _ => ?_
  refine (text?_failsOnly entries path "pattern").bind fun _ _ => ?_
  refine (flag?_failsOnly entries path "index").bind fun _ _ => ?_
  refine (flag?_failsOnly entries path "doc_values").bind fun _ _ => ?_
  refine (texts_failsOnly entries path "normalize").bind fun _ _ => ?_
  exact .ok _

/-- The only keys without a text are numbers of too many digits. -/
lemma keyText_error : ∀ {key : Value} {e : ReadError}, key.keyText = .error e →
    e = .tooManyDigits ∧ ∃ n, key = .int n ∧ wholeText? n = none
  | .int n, e, failed => by
      rw [Value.keyText] at failed
      split at failed
      · cases failed
      · next unwritten =>
          cases failed
          exact ⟨rfl, n, rfl, unwritten⟩
  | .null, _, failed | .bool _, _, failed | .float _, _, failed | .text _, _, failed
  | .binary _, _, failed | .date .., _, failed | .timestamp .., _, failed | .list .., _, failed
  | .pair .., _, failed | .mapping .., _, failed | .set .., _, failed | .endless, _, failed => by
      cases failed

variable {whole : Value}

lemma keyText_failsOnly {key record : Value} (held : whole.HoldsEntry (key, record)) :
    FailsOnly (FailsBy whole) (key.keyText.mapError .unusable) := by
  refine .mapError fun e failed => ?_
  obtain ⟨rfl, n, rfl, unwritten⟩ := keyText_error failed
  exact .key held unwritten

mutual

/-- **What reading definitions fails with.**  The proof follows the reader, all of whose steps go
from data to parts of it. -/
lemma ofValue_failsOnly : ∀ (value : Value) {enclosing : Text}, whole.Holds value →
    FailsOnly (FailsBy whole) (ofValue enclosing value)
  | .null, _, _ => .ok []
  | .mapping entries mark, _, held =>
      ofEntries_failsOnly entries fun _ member => ⟨entries, mark, held, member⟩
  | .list items _, _, held => ofItems_failsOnly items fun _ member => .item held member
  | .endless, _, held => .error (.depth held)
  | .bool _, _, _ | .int _, _, _ | .float _, _, _ | .text _, _, _ | .binary _, _, _
  | .date .., _, _ | .timestamp .., _, _ | .pair .., _, _ | .set .., _, _ => .error (.form rfl)

lemma ofEntries_failsOnly : ∀ (entries : Entries) {enclosing : Text},
    (∀ entry ∈ entries, whole.HoldsEntry entry) →
      FailsOnly (FailsBy whole) (ofEntries enclosing entries)
  | [], _, _ => .ok []
  | (key, record) :: rest, enclosing, held => by
      obtain ⟨held_here, held_rest⟩ := List.forall_mem_cons.mp held
      have others : ∀ first : List Definition, FailsOnly (FailsBy whole) (do
          let others ← ofEntries enclosing rest
          return first ++ others) :=
        fun first => (ofEntries_failsOnly rest held_rest).bind fun _ _ => .ok _
      rw [ofEntries]
      split
      · exact (ofRootSet_failsOnly record held_here.value).bind fun first _ => others first
      · refine (keyText_failsOnly held_here).bind fun name _ => ?_
        refine ((ofRecord_failsOnly record held_here.value).map _).bind fun first _ => ?_
        exact others first

lemma ofItems_failsOnly : ∀ (items : List Value) {enclosing : Text},
    (∀ item ∈ items, whole.Holds item) → FailsOnly (FailsBy whole) (ofItems enclosing items)
  | [], _, _ => .ok []
  | item :: rest, enclosing, held => by
      obtain ⟨held_here, held_rest⟩ := List.forall_mem_cons.mp held
      rw [ofItems]
      refine (ofRecord_failsOnly item held_here).bind fun first _ => ?_
      exact (ofItems_failsOnly rest held_rest).bind fun _ _ => .ok _

lemma ofRecord_failsOnly : ∀ (record : Value) {enclosing : Text} {key? : Option Text},
    whole.Holds record → FailsOnly (FailsBy whole) (ofRecord enclosing key? record)
  | .mapping entries mark, enclosing, key?, held => by
      have parts : ∀ entry ∈ entries, whole.HoldsEntry entry :=
        fun entry member => ⟨entries, mark, held, member⟩
      rw [ofRecord]
      refine ((recordName_failsOnly enclosing key? entries).mono fun _ => .form).bind
        fun name _ => ?_
      refine ((scalarsOf_failsOnly entries _ name).mono fun _ => .form).bind fun scalars _ => ?_
      refine (ofEntry_failsOnly entries parts).bind fun multiFields _ => ?_
      exact (ofEntry_failsOnly entries parts).bind fun _ _ => .ok _
  | .endless, _, _, held => .error (.depth held)
  | .null, _, _, _ | .list .., _, _, _ | .bool _, _, _, _ | .int _, _, _, _ | .float _, _, _, _
  | .text _, _, _, _ | .binary _, _, _, _ | .date .., _, _, _ | .timestamp .., _, _, _
  | .pair .., _, _, _ | .set .., _, _, _ => .error (.form rfl)

lemma ofRootSet_failsOnly : ∀ (record : Value) {enclosing : Text}, whole.Holds record →
    FailsOnly (FailsBy whole) (ofRootSet enclosing record)
  | .mapping entries mark, _, held =>
      ofEntry_failsOnly entries fun _ member => ⟨entries, mark, held, member⟩
  | .null, _, _ | .list .., _, _ | .bool _, _, _ | .int _, _, _ | .float _, _, _ | .text _, _, _
  | .binary _, _, _ | .date .., _, _ | .timestamp .., _, _ | .pair .., _, _ | .set .., _, _
  | .endless, _, _ => .ok []

lemma ofEntry_failsOnly : ∀ (entries : Entries) {enclosing name : Text},
    (∀ entry ∈ entries, whole.HoldsEntry entry) →
      FailsOnly (FailsBy whole) (ofEntry enclosing name entries)
  | [], _, _, _ => .ok []
  | (key, value) :: rest, _, _, held => by
      obtain ⟨held_here, held_rest⟩ := List.forall_mem_cons.mp held
      rw [ofEntry]
      split
      · exact ofValue_failsOnly value held_here.value
      · exact ofEntry_failsOnly rest held_rest

end

end Definition

/-! ## Fields -/

namespace Field

/-- What reading fields of some data fails with: an error of form, or the end of data that holds
itself. -/
inductive FailsBy (data : Value) : DocumentError → Prop
  | form {e : DocumentError} (form : e.IsOfForm) : FailsBy data e
  | depth (endless : data.Holds .endless) : FailsBy data (.unusable .tooDeep)

lemma nameOf_failsOnly (enclosing : Text) (entries : Entries) :
    FailsOnly DocumentError.IsOfForm (nameOf enclosing entries) := by
  rw [nameOf]
  split
  · split
    · exact .error rfl
    · exact .ok _
  · exact .error rfl

lemma scalarsOf_failsOnly (entries : Entries) (path name : Text) :
    FailsOnly DocumentError.IsOfForm (scalarsOf entries path name) := by
  refine (text?_failsOnly entries path "type").bind fun _ _ => ?_
  refine (text?_failsOnly entries path "external").bind fun _ _ => ?_
  refine (text?_failsOnly entries path "description").bind fun _ _ => ?_
  refine (text?_failsOnly entries path "pattern").bind fun _ _ => ?_
  refine (flag?_failsOnly entries path "index").bind fun _ _ => ?_
  refine (flag?_failsOnly entries path "doc_values").bind fun _ _ => ?_
  refine (texts_failsOnly entries path "normalize").bind fun _ _ => ?_
  exact .ok _

variable {whole : Value}

mutual

/-- **What reading fields fails with.** -/
lemma ofValue_failsOnly : ∀ (value : Value) {enclosing : Text}, whole.Holds value →
    FailsOnly (FailsBy whole) (ofValue enclosing value)
  | .null, _, _ => .ok []
  | .list items _, _, held => ofItems_failsOnly items fun _ member => .item held member
  | .endless, _, held => .error (.depth held)
  | .bool _, _, _ | .int _, _, _ | .float _, _, _ | .text _, _, _ | .binary _, _, _
  | .date .., _, _ | .timestamp .., _, _ | .pair .., _, _ | .mapping .., _, _ | .set .., _, _ =>
      .error (.form rfl)

lemma ofItems_failsOnly : ∀ (items : List Value) {enclosing : Text},
    (∀ item ∈ items, whole.Holds item) → FailsOnly (FailsBy whole) (ofItems enclosing items)
  | [], _, _ => .ok []
  | item :: rest, enclosing, held => by
      obtain ⟨held_here, held_rest⟩ := List.forall_mem_cons.mp held
      rw [ofItems]
      refine (ofItem_failsOnly item held_here).bind fun first _ => ?_
      exact (ofItems_failsOnly rest held_rest).bind fun _ _ => .ok _

lemma ofItem_failsOnly : ∀ (item : Value) {enclosing : Text}, whole.Holds item →
    FailsOnly (FailsBy whole) (ofItem enclosing item)
  | .mapping entries mark, enclosing, held => by
      have parts : ∀ entry ∈ entries, whole.HoldsEntry entry :=
        fun entry member => ⟨entries, mark, held, member⟩
      rw [ofItem]
      refine ((nameOf_failsOnly enclosing entries).mono fun _ => .form).bind fun name _ => ?_
      refine ((scalarsOf_failsOnly entries _ name).mono fun _ => .form).bind fun scalars _ => ?_
      refine (ofEntry_failsOnly entries parts).bind fun multiFields _ => ?_
      exact (ofEntry_failsOnly entries parts).bind fun _ _ => .ok _
  | .endless, _, held => .error (.depth held)
  | .null, _, _ | .list .., _, _ | .bool _, _, _ | .int _, _, _ | .float _, _, _ | .text _, _, _
  | .binary _, _, _ | .date .., _, _ | .timestamp .., _, _ | .pair .., _, _ | .set .., _, _ =>
      .error (.form rfl)

lemma ofEntry_failsOnly : ∀ (entries : Entries) {enclosing name : Text},
    (∀ entry ∈ entries, whole.HoldsEntry entry) →
      FailsOnly (FailsBy whole) (ofEntry enclosing name entries)
  | [], _, _, _ => .ok none
  | (key, value) :: rest, _, _, held => by
      obtain ⟨held_here, held_rest⟩ := List.forall_mem_cons.mp held
      rw [ofEntry_cons]
      split
      · split
        · exact .ok none
        · exact (ofValue_failsOnly value held_here.value).map some
      · exact ofEntry_failsOnly rest held_rest

end

end Field

end ExternalFields
