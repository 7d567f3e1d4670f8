import ExternalFields.Manifest
import ExternalFields.Proofs.Attributes
import ExternalFields.Proofs.Text.Blanks

/-!
# References in manifests

A manifest declares its reference three levels down, and each level may be missing or null.  So the
data is looked at as a whole first: what is found at each level, with nothing below a level that is
missing.  Reading fails exactly if something is found there that is neither null nor of its type.

Other keys play no part, and neither do blanks around the reference.  Both are changes of one level
that leave what is read there as it is, and reading a level is stated for any way of reading what is
below it (`level_bind_ok`, `level_bind_congr`).

* `Manifest.dependenciesIn`, `Manifest.ecsIn`, `Manifest.referenceFound`: what is found at a level.
* `Manifest.IsWellFormed`, `Manifest.declared`: data that can be read, and what it declares.
* **`Manifest.referenceIn_ok_iff`**: reading gives what is declared.
* `Manifest.Dresses`: other keys at all levels, and blanks around the reference.
* **`Manifest.referenceIn_dressed`**: neither changes anything.
-/

namespace ExternalFields.Manifest

open Yaml Attribute

/-! ## Levels -/

inductive IsMapping : Value → Prop
  | mapping {entries : Entries} {mark : Mark} : IsMapping (.mapping entries mark)

/-- What is found under a key of a level, nothing if that is no mapping. -/
def under (key : Text) : Option Value → Option Value
  | some (.mapping entries _) => Value.lookup key entries
  | _ => none

/-- The dependencies in the data of a manifest. -/
def dependenciesIn (data : Value) : Option Value := under "dependencies" (some data)

/-- The dependency on the common schema. -/
def ecsIn (data : Value) : Option Value := under "ecs" (dependenciesIn data)

/-- What stands in the place of the reference. -/
def referenceFound (data : Value) : Option Value := under "reference" (ecsIn data)

/-- Every level of the data is missing, null or a mapping, and the reference is missing, null or a
text. -/
structure IsWellFormed (data : Value) : Prop where
  root : Allows IsMapping (some data)
  dependencies : Allows IsMapping (dependenciesIn data)
  ecs : Allows IsMapping (ecsIn data)
  reference : Allows IsText (referenceFound data)

/-- A text without the blanks at its ends, empty if there is none. -/
def trimmed : Option Value → Text
  | some (.text s) => Text.strip s
  | _ => ""

/-- The reference that is declared, empty if there is none. -/
def declared (data : Value) : Text := trimmed (referenceFound data)

/-! ## Reading -/

/-- How the reference is read, once it is found. -/
def textReference : Option Value → Except ConfigurationError Text
  | none | some .null => .ok ""
  | some (.text s) => .ok (Text.strip s)
  | some _ => .error .referenceNotText

lemma ecsReference_eq (ecs : Option Value) :
    ecsReference ecs = section? "dependencies.ecs" ecs >>= fun entries =>
      textReference (Value.lookup "reference" entries) := by
  rw [ecsReference]
  refine congrArg _ (funext fun entries => ?_)
  rcases Value.lookup "reference" entries with _ | _ | _ <;> rfl

lemma textReference_ok_iff {found : Option Value} {reference : Text} :
    textReference found = .ok reference ↔ Allows IsText found ∧ trimmed found = reference := by
  cases found with
  | none => simp [textReference, allows_none, trimmed]
  | some value =>
      cases value with
      | null => simp [textReference, allows_some, trimmed]
      | text s => simp [textReference, allows_some, trimmed, IsText.text s]
      | _ =>
          refine iff_of_false (by rintro ⟨⟩) (mt And.left (not_allows ?_ ?_))
          · rintro ⟨⟩
          · rintro ⟨⟩

variable {β : Type} {f : Option Value → Except ConfigurationError β} {name key : Text}
  {found : Option Value}

/-- A level is read if it is null or a mapping, and what is found in it is. -/
lemma level_bind_ok {b : β} :
    (section? name found >>= fun entries => f (Value.lookup key entries)) = .ok b ↔
      Allows IsMapping found ∧ f (under key found) = .ok b := by
  cases found with
  | none => simp [section?, allows_none, under, Value.lookup]
  | some value =>
      cases value with
      | null => simp [section?, allows_some, under, Value.lookup]
      | mapping entries mark => simp [section?, allows_some, under, IsMapping.mapping]
      | _ =>
          refine iff_of_false (by rintro ⟨⟩) (mt And.left (not_allows ?_ ?_))
          · rintro ⟨⟩
          · rintro ⟨⟩

lemma ecsReference_ok_iff {ecs : Option Value} {reference : Text} :
    ecsReference ecs = .ok reference ↔ Allows IsMapping ecs ∧
      Allows IsText (under "reference" ecs) ∧ trimmed (under "reference" ecs) = reference := by
  rw [ecsReference_eq, level_bind_ok, textReference_ok_iff]

lemma dependencyReference_ok_iff {dependencies : Option Value} {reference : Text} :
    dependencyReference dependencies = .ok reference ↔ Allows IsMapping dependencies ∧
      ecsReference (under "ecs" dependencies) = .ok reference := by
  rw [dependencyReference, level_bind_ok]

/-- **Reading gives the reference that is declared**, exactly if the data is well formed. -/
lemma referenceIn_ok_iff {data : Value} {reference : Text} :
    referenceIn data = .ok reference ↔ IsWellFormed data ∧ declared data = reference := by
  have levels : referenceIn data = .ok reference ↔ Allows IsMapping (some data) ∧
      dependencyReference (dependenciesIn data) = .ok reference := by
    cases data with
    | null => simp [referenceIn, allows_some, dependenciesIn, under]
    | mapping entries mark =>
        simp [referenceIn, allows_some, dependenciesIn, under, IsMapping.mapping]
    | _ =>
        refine iff_of_false (by rintro ⟨⟩) (mt And.left (not_allows ?_ ?_))
        · rintro ⟨⟩
        · rintro ⟨⟩
  rw [levels, dependencyReference_ok_iff, ecsReference_ok_iff]
  constructor
  · rintro ⟨root, dependencies, ecs, text, same⟩
    exact ⟨⟨root, dependencies, ecs, text⟩, same⟩
  · rintro ⟨⟨root, dependencies, ecs, text⟩, same⟩
    exact ⟨root, dependencies, ecs, text, same⟩

/-! ## Other keys, and blanks -/

/-- Entries to which others are added, under other keys than `key`; the value of that may change. -/
inductive Adds (key : Text) (change : Value → Value → Prop) : Entries → Entries → Prop
  | nil : Adds key change [] []
  | keep {entry : Value × Value} {entries more : Entries} (other : ¬ entry.1.isText key)
      (adds : Adds key change entries more) : Adds key change (entry :: entries) (entry :: more)
  | change {value changed : Value} {entries more : Entries} (changes : change value changed)
      (adds : Adds key change entries more) :
      Adds key change ((.text key, value) :: entries) ((.text key, changed) :: more)
  | add {entry : Value × Value} {entries more : Entries} (other : ¬ entry.1.isText key)
      (adds : Adds key change entries more) : Adds key change entries (entry :: more)

/-- A level with more entries.  Null is a level without any. -/
inductive Widens (key : Text) (change : Value → Value → Prop) : Value → Value → Prop
  | same (value : Value) : Widens key change value value
  | null {entries : Entries} {mark : Mark} (others : ∀ entry ∈ entries, ¬ entry.1.isText key) :
      Widens key change .null (.mapping entries mark)
  | mapping {entries more : Entries} {mark : Mark} (adds : Adds key change entries more) :
      Widens key change (.mapping entries mark) (.mapping more mark)

/-- A text with blanks around it. -/
inductive Pads : Value → Value → Prop
  | same (value : Value) : Pads value value
  | text {s front back : Text} (front_blank : ∀ c ∈ front, Text.isBlank c)
      (back_blank : ∀ c ∈ back, Text.isBlank c) : Pads (.text s) (.text (front ++ s ++ back))

/-- The data of a manifest with other keys at all its levels, and with blanks around the
reference. -/
def Dresses : Value → Value → Prop :=
  Widens "dependencies" (Widens "ecs" (Widens "reference" Pads))

variable {change : Value → Value → Prop}

lemma lookup_of_others : ∀ {entries : Entries}, (∀ entry ∈ entries, ¬ entry.1.isText key) →
    Value.lookup key entries = none
  | [], _ => rfl
  | (_, _) :: _, others => by
      obtain ⟨other, rest⟩ := List.forall_mem_cons.mp others
      rw [Value.lookup, if_neg other, lookup_of_others rest]

lemma Adds.lookup {entries more : Entries} (adds : Adds key change entries more) :
    Option.Rel change (Value.lookup key entries) (Value.lookup key more) := by
  have here : Value.isText key (.text key) := by simp [Value.isText]
  induction adds with
  | nil => exact .none
  | keep other _ ih =>
      rw [Value.lookup, Value.lookup, if_neg other, if_neg other]
      exact ih
  | change changes _ _ =>
      rw [Value.lookup, Value.lookup, if_pos here, if_pos here]
      exact .some changes
  | add other _ ih =>
      rw [Value.lookup.eq_2, if_neg other]
      exact ih

/-- A level that is widened is read alike, if what may change in it is. -/
lemma level_bind_congr {wider : Option Value}
    (congr : ∀ found changed, Option.Rel change found changed → f changed = f found)
    (widens : Option.Rel (Widens key change) found wider) :
    (section? name wider >>= fun entries => f (Value.lookup key entries))
      = section? name found >>= fun entries => f (Value.lookup key entries) := by
  cases widens with
  | none => rfl
  | some widens =>
      cases widens with
      | same => rfl
      | null others =>
          rw [section?, section?, ok_bind, ok_bind, lookup_of_others others]
          rfl
      | mapping adds => exact congr _ _ adds.lookup

lemma textReference_congr (found padded : Option Value) (pads : Option.Rel Pads found padded) :
    textReference padded = textReference found := by
  cases pads with
  | none => rfl
  | some pads =>
      cases pads with
      | same => rfl
      | text front_blank back_blank =>
          rw [textReference, textReference, Text.strip, Text.strip,
            Text.stripBy_surrounded front_blank back_blank]

lemma ecsReference_congr (ecs dressed : Option Value)
    (dresses : Option.Rel (Widens "reference" Pads) ecs dressed) :
    ecsReference dressed = ecsReference ecs := by
  rw [ecsReference_eq, ecsReference_eq]
  exact level_bind_congr textReference_congr dresses

lemma dependencyReference_congr (dependencies dressed : Option Value)
    (dresses : Option.Rel (Widens "ecs" (Widens "reference" Pads)) dependencies dressed) :
    dependencyReference dressed = dependencyReference dependencies :=
  level_bind_congr ecsReference_congr dresses

/-- **Other keys and blanks change nothing**, not even what reading fails with. -/
lemma referenceIn_dressed {data dressed : Value} (dresses : Dresses data dressed) :
    referenceIn dressed = referenceIn data := by
  cases dresses with
  | same => rfl
  | null others => rw [referenceIn, referenceIn, lookup_of_others others]
  | mapping adds => exact dependencyReference_congr _ _ adds.lookup

end ExternalFields.Manifest
