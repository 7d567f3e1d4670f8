import ExternalFields.Proofs.Results
import ExternalFields.Schema.Store
import Mathlib.Data.List.TakeWhile

/-!
# Filling plain templates

A template of characters that stand for themselves and of fields that only name their values is
always filled: the values are put in the places of the fields, unchanged.  The usual address of
schemas is such a template.

* `IsName`: the names that fields can have by themselves.
* `Fills`: what such a template is filled to.
* **`Fills.fillText`**: it is filled to that.
* **`url_usual`**: the address of every version.
-/

namespace ExternalFields

namespace Template

variable {values : Values}

/-- The brace that opens a field. -/
abbrev opening : CodePoint := '\x7b'

/-- The brace that closes a field. -/
abbrev closing : CodePoint := '\x7d'

/-- A name that stands for a value by itself: it holds no mark, and is no number. -/
structure IsName (name : Text) : Prop where
  nonempty : name ≠ []
  unmarked : ∀ c ∈ name, c ∉ ("\x7b\x7d[:!." : Text)
  notNumber : numberOf? name = .ok none

/-- What a template of plain characters and plain fields is filled to. -/
inductive Fills (values : Values) : Text → Text → Prop where
  | nil : Fills values [] []
  | plain {c : CodePoint} {template text : Text} : c ≠ opening → c ≠ closing →
      Fills values template text → Fills values (c :: template) (c :: text)
  | field {name value template text : Text} : IsName name → values.lookup name = some value →
      Fills values template text →
        Fills values (opening :: (name ++ closing :: template)) (value ++ text)

/-! ## Fields -/

lemma takeName_plain {rest : Text} : ∀ {name : Text},
    (∀ c ∈ name, c ∉ ("\x7b\x7d[:!." : Text)) →
      takeName false (name ++ closing :: rest) = .ok (name, closing :: rest)
  | [], _ => by
      rw [List.nil_append, takeName, if_neg Bool.false_ne_true, if_neg (by decide),
        if_pos (.inl rfl)]
  | c :: name, unmarked => by
      have c_unmarked := unmarked c List.mem_cons_self
      have opens : c ≠ opening := fun same => c_unmarked (same ▸ by decide)
      have closes : c ≠ closing := fun same => c_unmarked (same ▸ by decide)
      have lays : c ≠ ':' := fun same => c_unmarked (same ▸ by decide)
      have converts : c ≠ '!' := fun same => c_unmarked (same ▸ by decide)
      have indexes : (c == ('[' : CodePoint)) = false :=
        beq_false_of_ne fun same => c_unmarked (same ▸ by decide)
      have others : takeName false (name ++ closing :: rest) = .ok (name, closing :: rest) :=
        takeName_plain fun other there => unmarked other (List.mem_cons_of_mem c there)
      rw [List.cons_append, takeName, if_neg Bool.false_ne_true, if_neg opens,
        if_neg (by simp [closes, lays, converts]), indexes, others]
      rfl

lemma takeField_plain {name rest : Text} (unmarked : ∀ c ∈ name, c ∉ ("\x7b\x7d[:!." : Text)) :
    takeField (name ++ closing :: rest) = .ok ({ name }, rest) := by
  rw [takeField, takeName_plain unmarked]
  cases rest <;> rfl

lemma fillingOf_name {name value : Text} (plain : IsName name)
    (known : values.lookup name = some value) : fillingOf values name = .ok (.text value) := by
  have whole : (name.takeWhile fun c : CodePoint => c != '.' && c != '[') = name := by
    refine List.takeWhile_eq_self_iff.mpr fun c there => ?_
    have c_unmarked := plain.unmarked c there
    have points : c ≠ '.' := fun same => c_unmarked (same ▸ by decide)
    have indexes : c ≠ '[' := fun same => c_unmarked (same ▸ by decide)
    simp [points, indexes]
  simp only [fillingOf, whole, List.isEmpty_iff, plain.nonempty, plain.notNumber, known,
    List.drop_length]
  cases name.length <;> rfl

/-- Without a layout a text stays as it is. -/
lemma layOut_text (text : Text) : (Filling.text text).layOut [] = .ok text := by
  show Layout.ofString {} text = .ok text
  simp [Layout.ofString, Layout.isOfTexts, Layout.spread, Layout.spaceBefore]

/-! ## Templates -/

lemma fillText_plain {c : CodePoint} (opens : c ≠ opening) (closes : c ≠ closing)
    {nesting fuel : ℕ} :
    ∀ text : Text, fillText values nesting (fuel + 1) (c :: text)
      = (c :: ·) <$> fillText values nesting fuel text
  | [] => by
      cases fuel <;> simp [fillText, opens, closes]
  | next :: rest => by
      simp only [fillText, opens, closes, false_or, false_and, if_false, pure_eq_ok]
      cases fillText values nesting fuel (next :: rest) <;> rfl

lemma fillText_field {name value rest : Text} (plain : IsName name)
    (known : values.lookup name = some value) {nesting fuel : ℕ} :
    fillText values nesting (fuel + 1) (opening :: (name ++ closing :: rest))
      = (value ++ ·) <$> fillText values nesting fuel rest := by
  obtain ⟨first, others, rfl⟩ := List.exists_cons_of_ne_nil plain.nonempty
  have opens : first ≠ opening := fun same =>
    plain.unmarked first List.mem_cons_self (same ▸ by decide)
  rw [List.cons_append, fillText]
  simp only [opens, and_false, if_false, if_true]
  rw [← List.cons_append, takeField_plain plain.unmarked]
  simp only [ok_bind, fillingOf_name plain known, Filling.convert, List.contains_nil,
    Bool.false_eq_true, if_false, layOut_text, pure_eq_ok]
  cases fillText values nesting fuel rest <;> rfl

/-- A plain template is filled. -/
theorem Fills.fillText {template text : Text} (fills : Fills values template text) {nesting : ℕ} :
    ∀ {fuel : ℕ}, template.length < fuel → fillText values nesting fuel template = .ok text := by
  induction fills with
  | nil =>
      intro fuel _
      cases fuel <;> rfl
  | plain opens closes _ ih =>
      rintro (_ | fuel) enough
      · cases enough
      · rw [fillText_plain opens closes, ih (Nat.lt_of_succ_lt_succ enough)]
        rfl
  | field name known _ ih =>
      rintro (_ | fuel) enough
      · cases enough
      · rw [fillText_field name known, ih]
        · rfl
        · simp only [List.length_cons, List.length_append] at enough
          omega

/-- Plain characters in front stay there. -/
lemma Fills.append {template text : Text} (fills : Fills values template text) :
    ∀ {start : Text}, (∀ c ∈ start, c ∉ ([opening, closing] : Text)) →
      Fills values (start ++ template) (start ++ text)
  | [], _ => fills
  | c :: _, unmarked =>
      have c_unmarked := unmarked c List.mem_cons_self
      .plain (fun same => c_unmarked (by simp [same])) (fun same => c_unmarked (by simp [same]))
        (fills.append fun other there => unmarked other (List.mem_cons_of_mem c there))

/-- Whether texts share no character can be checked. -/
lemma unmarked_of_all {text marks : Text} (checked : text.all fun c => !marks.contains c) :
    ∀ c ∈ text, c ∉ marks := by
  simpa using checked

end Template

open Template in
/-- **The address of a version.**  The usual template names the version and the file, and nothing
in them keeps it from being filled. -/
theorem Store.url_usual (root : Path) (version : Text) :
    ({ root } : Store).url version
      = .ok (("https://raw.githubusercontent.com/elastic/ecs/" : Text) ++ (version
          ++ (("/generated/ecs/" : Text) ++ ("ecs_nested.yml" : Text)))) := by
  have reference : IsName "reference" := ⟨by decide, unmarked_of_all (by decide), by decide +kernel⟩
  have filename : IsName "filename" := ⟨by decide, unmarked_of_all (by decide), by decide +kernel⟩
  have file : Fills [("reference", version), ("filename", "ecs_nested.yml")]
      (opening :: (("filename" : Text) ++ closing :: [])) (("ecs_nested.yml" : Text) ++ []) :=
    .field filename rfl .nil
  rw [List.append_nil] at file
  have named : Fills [("reference", version), ("filename", "ecs_nested.yml")]
      (opening :: (("reference" : Text) ++ closing :: (("/generated/ecs/" : Text)
        ++ opening :: (("filename" : Text) ++ closing :: []))))
      (version ++ (("/generated/ecs/" : Text) ++ ("ecs_nested.yml" : Text))) :=
    .field reference rfl (file.append (unmarked_of_all (by decide)))
  have template :
      ("https://raw.githubusercontent.com/elastic/ecs/\x7breference\x7d/generated/ecs/\x7bfilename\x7d"
        : Text)
      = ("https://raw.githubusercontent.com/elastic/ecs/" : Text) ++ opening ::
        (("reference" : Text) ++ closing :: (("/generated/ecs/" : Text)
          ++ opening :: (("filename" : Text) ++ closing :: []))) := by
    decide +kernel
  have scheme : ∀ c ∈ ("https://raw.githubusercontent.com/elastic/ecs/" : Text),
      c ∉ ([opening, closing] : Text) := unmarked_of_all (by decide)
  have whole := named.append scheme
  rw [← template] at whole
  exact whole.fillText (Nat.lt_succ_self _)

end ExternalFields
