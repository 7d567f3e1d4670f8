import ExternalFields.Yaml.Value
import Mathlib.Data.List.Basic
import Mathlib.Data.List.Perm.Basic
import Mathlib.Tactic.Lemma

/-!
# Mappings

The entries of a mapping have different keys, where numbers of one value are one key, whatever
their kind.  Putting a value under a key keeps it that way, and a mapping is updated by putting one
entry after the other.

A text is the same key as nothing but itself, so what stands under text keys is told by look-ups
(`mem_iff_lookup`): after an update by another mapping it is what that one says, and otherwise what
was there before (`lookup_updated`).

* `Value.IsMapping`: different entries have different keys.
* `Value.updated`, `Value.without`: a mapping updated by another one, and without a text key.
-/

namespace ExternalFields.Yaml.Value

/-- Entries whose keys differ from each other. -/
def IsMapping (entries : Entries) : Prop :=
  (entries.map Prod.fst).Pairwise fun key later => key.sameKey later = false

instance (entries : Entries) : Decidable (IsMapping entries) :=
  inferInstanceAs (Decidable (List.Pairwise _ _))

/-- A mapping updated by another one. -/
def updated (entries new : Entries) : Entries :=
  new.foldl (fun entries entry => put entry.1 entry.2 entries) entries

/-- A mapping without the entry of a text key. -/
def without (name : Text) (entries : Entries) : Entries :=
  entries.filter fun entry => !entry.1.isText name

/-! ## Text keys -/

lemma isText_iff {key : Value} {name : Text} : key.isText name ↔ key = .text name := by
  cases key <;> simp [isText]

/-- Only the same text is one key with a text. -/
lemma sameKey_text (key : Value) (name : Text) : key.sameKey (.text name) = key.isText name := by
  cases key <;> simp [sameKey, isText, number?]

lemma text_sameKey (name : Text) (key : Value) :
    (Value.text name).sameKey key = key.isText name := by
  cases key <;> simp [sameKey, isText, number?, eq_comm]

/-- If one of two like keys is a text, so is the other. -/
lemma isText_of_sameKey {key other : Value} (same : key.sameKey other) (name : Text) :
    key.isText name = other.isText name := by
  rw [Bool.eq_iff_iff]
  constructor
  · intro text
    rwa [isText_iff.mp text, text_sameKey] at same
  · intro text
    rwa [isText_iff.mp text, sameKey_text] at same

/-! ## Putting values under keys -/

/-- A key that is new comes last; any other one keeps its place and form. -/
lemma keys_put (key value : Value) (entries : Entries) :
    (put key value entries).map Prod.fst
      = if entries.any fun entry => entry.1.sameKey key then entries.map Prod.fst
        else entries.map Prod.fst ++ [key] := by
  induction entries with
  | nil => rfl
  | cons entry rest ih =>
      rw [put]
      by_cases same : entry.1.sameKey key
      · simp [same]
      · simp only [same, Bool.false_eq_true, if_false, List.map_cons, ih, List.any_cons,
          Bool.false_or]
        split <;> rfl

/-- An entry under a new key is added at the end. -/
lemma put_of_new {key : Value} (value : Value) {entries : Entries}
    (new : ∀ entry ∈ entries, entry.1.sameKey key = false) :
    put key value entries = entries ++ [(key, value)] := by
  induction entries with
  | nil => rfl
  | cons entry rest ih =>
      rw [put, new entry List.mem_cons_self,
        ih fun other there => new other (List.mem_cons_of_mem entry there)]
      rfl

lemma IsMapping.put {entries : Entries} (mapping : IsMapping entries) (key value : Value) :
    IsMapping (put key value entries) := by
  rw [IsMapping, keys_put]
  split
  · exact mapping
  · next new =>
      refine List.pairwise_append.mpr ⟨mapping, List.pairwise_singleton _ _, ?_⟩
      simpa using new

lemma IsMapping.updated {entries : Entries} (mapping : IsMapping entries) (new : Entries) :
    IsMapping (updated entries new) := by
  induction new generalizing entries with
  | nil => exact mapping
  | cons entry rest ih => exact ih (mapping.put entry.1 entry.2)

lemma IsMapping.without {entries : Entries} (mapping : IsMapping entries) (name : Text) :
    IsMapping (without name entries) :=
  mapping.sublist (List.filter_sublist.map Prod.fst)

/-! ## Looking up texts -/

/-- A look-up finds what was put there last. -/
lemma lookup_put (name : Text) (key value : Value) (entries : Entries) :
    lookup name (put key value entries)
      = if key.isText name then some value else lookup name entries := by
  induction entries with
  | nil => rfl
  | cons entry rest ih =>
      rw [put]
      by_cases same : entry.1.sameKey key
      · rw [if_pos same, lookup, lookup, isText_of_sameKey same]
        split <;> rfl
      · rw [if_neg same, lookup, lookup, ih]
        by_cases here : entry.1.isText name
        · have elsewhere : ¬ key.isText name := by
            intro there
            rw [isText_iff.mp there, sameKey_text] at same
            exact same here
          rw [if_pos here, if_pos here, if_neg elsewhere]
        · rw [if_neg here, if_neg here]

lemma lookup_without (name other : Text) (entries : Entries) :
    lookup name (without other entries) = if name = other then none else lookup name entries := by
  induction entries with
  | nil => simp [without, lookup]
  | cons entry rest ih =>
      rw [without] at ih
      rw [without, List.filter_cons, lookup]
      by_cases there : entry.1.isText other
      · have here : entry.1.isText name ↔ name = other := by
          rw [isText_iff.mp there, isText_iff, text.injEq, eq_comm]
        simp only [there, Bool.not_true, Bool.false_eq_true, if_false, ih, here]
        split <;> rfl
      · simp only [there, Bool.not_false, if_true, lookup, ih]
        by_cases here : entry.1.isText name
        · have differs : name ≠ other := by
            rintro rfl
            exact there here
          rw [if_pos here, if_pos here, if_neg differs]
        · rw [if_neg here, if_neg here]

/-- What stands under the first key of a mapping does not stand further back as well. -/
lemma IsMapping.lookup_rest {key value : Value} {rest : Entries}
    (mapping : IsMapping ((key, value) :: rest)) {name : Text} (here : key.isText name) :
    lookup name rest = none := by
  rw [IsMapping, List.map_cons, List.pairwise_cons] at mapping
  induction rest with
  | nil => rfl
  | cons entry rest ih =>
      simp only [List.map_cons, List.forall_mem_cons, List.pairwise_cons] at mapping
      obtain ⟨⟨first, others⟩, -, pairwise⟩ := mapping
      rw [isText_iff.mp here, text_sameKey] at first
      rw [lookup, first]
      exact ih ⟨others, pairwise⟩

/-- **An update says what is new**, and leaves the rest as it was. -/
lemma lookup_updated (name : Text) {new : Entries} (mapping : IsMapping new) (entries : Entries) :
    lookup name (updated entries new) = (lookup name new).or (lookup name entries) := by
  induction new generalizing entries with
  | nil => rfl
  | cons entry rest ih =>
      have mapping_rest : IsMapping rest := List.Pairwise.of_cons mapping
      have step := ih mapping_rest (put entry.1 entry.2 entries)
      rw [updated] at step
      rw [updated, List.foldl_cons, step, lookup_put, lookup]
      by_cases here : entry.1.isText name
      · rw [if_pos here, if_pos here, mapping.lookup_rest here]
        rfl
      · rw [if_neg here, if_neg here]

/-- **A text key has the value that a look-up finds.** -/
lemma mem_iff_lookup {entries : Entries} (mapping : IsMapping entries) {name : Text}
    {value : Value} : (.text name, value) ∈ entries ↔ lookup name entries = some value := by
  induction entries with
  | nil => simp [lookup]
  | cons entry rest ih =>
      obtain ⟨key, first⟩ := entry
      have ih := ih (List.Pairwise.of_cons mapping)
      rw [List.mem_cons, ih, lookup]
      by_cases here : key.isText name
      · rw [if_pos here, mapping.lookup_rest here, isText_iff.mp here]
        simp [eq_comm]
      · have differs : ¬ (Value.text name, value) = (key, first) := by
          intro same
          exact here (isText_iff.mpr (congrArg Prod.fst same).symm)
        rw [if_neg here, or_iff_right differs]

end ExternalFields.Yaml.Value
