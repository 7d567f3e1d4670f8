import ExternalFields.Text.Blank
import Mathlib.Data.List.DropRight
import Mathlib.Tactic.Lemma

/-!
# What stands between blanks

A text is trimmed from both ends in turn.  What is left is all that stands between blanks: a core
that neither starts nor ends with one.  There is only one such core, so further blanks around a text
do not change what trimming leaves.

* `Text.IsCore`: what stands between the blanks of a list.
* **`Text.stripBy_eq_iff`**: trimming leaves the core.
* **`Text.stripBy_surrounded`**: further blanks change nothing.
-/

namespace ExternalFields.Text

variable {α : Type} {isBlank : α → Bool} {front items back core : List α}

/-- Items that are a core between blanks, which has no blanks at its own ends. -/
structure IsCore (isBlank : α → Bool) (items core : List α) : Prop where
  between : ∃ front back, items = front ++ core ++ back
    ∧ (∀ c ∈ front, isBlank c) ∧ ∀ c ∈ back, isBlank c
  head : ∀ c ∈ core.head?, ¬ isBlank c
  last : ∀ c ∈ core.getLast?, ¬ isBlank c

lemma stripBy_eq (isBlank : α → Bool) (items : List α) :
    stripBy isBlank items = (items.dropWhile isBlank).rdropWhile isBlank := rfl

/-- What trimming leaves is a core. -/
lemma isCore_stripBy (isBlank : α → Bool) (items : List α) :
    IsCore isBlank items (stripBy isBlank items) where
  between := by
    refine ⟨items.takeWhile isBlank, (items.dropWhile isBlank).rtakeWhile isBlank, ?_,
      fun c => List.mem_takeWhile_imp, fun c => List.mem_rtakeWhile_imp⟩
    rw [stripBy_eq, List.append_assoc, List.rdropWhile_append_rtakeWhile,
      List.takeWhile_append_dropWhile]
  head := by
    rw [stripBy_eq]
    intro c first
    -- the first item that is left is the first one that the front end left
    obtain ⟨rest, left⟩ := List.rdropWhile_prefix isBlank (l := items.dropWhile isBlank)
    have first_left : c ∈ (items.dropWhile isBlank).head? := by
      rw [← left, List.head?_append]
      simp [Option.mem_def.mp first]
    have not_blank := List.head?_dropWhile_not isBlank items
    rw [Option.mem_def.mp first_left] at not_blank
    simpa using not_blank
  last := by
    rw [stripBy_eq]
    intro c last
    obtain ⟨nonempty, rfl⟩ := List.mem_getLast?_eq_getLast last
    exact List.rdropWhile_last_not isBlank _ nonempty

/-- Blanks are dropped up to the first item that is none. -/
lemma dropWhile_blanks {rest : List α} (front_blank : ∀ c ∈ front, isBlank c)
    (head : ∀ c ∈ rest.head?, ¬ isBlank c) : (front ++ rest).dropWhile isBlank = rest := by
  rw [List.dropWhile_append_of_pos front_blank]
  cases rest with
  | nil => rfl
  | cons first others => exact List.dropWhile_cons_of_neg (head first rfl)

/-- Blanks around a core are trimmed. -/
lemma stripBy_of_isCore (is_core : IsCore isBlank items core) : stripBy isBlank items = core := by
  obtain ⟨⟨front, back, rfl, front_blank, back_blank⟩, head, last⟩ := is_core
  have back_blank' : ∀ c ∈ back.reverse, isBlank c := by simpa using back_blank
  have last' : ∀ c ∈ core.reverse.head?, ¬ isBlank c := by simpa using last
  cases core with
  | nil =>
      have blank : ∀ c ∈ front ++ [] ++ back, isBlank c := by
        simpa [or_imp, forall_and] using ⟨front_blank, back_blank⟩
      rw [stripBy, List.dropWhile_eq_nil_iff.mpr blank]
      rfl
  | cons first rest =>
      have head' : ∀ c ∈ (first :: rest ++ back).head?, ¬ isBlank c := head
      rw [stripBy, List.append_assoc, dropWhile_blanks front_blank head', List.reverse_append,
        dropWhile_blanks back_blank' last', List.reverse_reverse]

/-- **Trimming leaves what stands between the blanks**, and that is unique. -/
theorem stripBy_eq_iff : stripBy isBlank items = core ↔ IsCore isBlank items core := by
  refine ⟨?_, stripBy_of_isCore⟩
  rintro rfl
  exact isCore_stripBy isBlank items

/-- **Further blanks around a text** do not change what trimming leaves. -/
theorem stripBy_surrounded (front_blank : ∀ c ∈ front, isBlank c)
    (back_blank : ∀ c ∈ back, isBlank c) :
    stripBy isBlank (front ++ items ++ back) = stripBy isBlank items := by
  obtain ⟨⟨before, behind, between, before_blank, behind_blank⟩, head, last⟩ :=
    isCore_stripBy isBlank items
  refine stripBy_of_isCore ⟨⟨front ++ before, behind ++ back, ?_, ?_, ?_⟩, head, last⟩
  · conv_lhs => rw [between]
    simp only [List.append_assoc]
  · exact List.forall_mem_append.mpr ⟨front_blank, before_blank⟩
  · exact List.forall_mem_append.mpr ⟨behind_blank, back_blank⟩

end ExternalFields.Text
