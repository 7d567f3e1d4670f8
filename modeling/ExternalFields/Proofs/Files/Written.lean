import ExternalFields.Proofs.Files.Tree
import Mathlib.Data.List.Basic
import Mathlib.Tactic.Lemma

/-!
# Written paths

Slashes separate the segments of a written path, and what is between them can be put together again.
Empty segments and single dots are lost in reading; a text that has neither, and no two dots, is the
path that its segments are.

* `splitSlashes_injective`: a text is made up of what is between its slashes.
* `ofText_no_dot`: a path that was read has no single dots.
* `Path.IsSegment`, **`ofText_segment`**: a text that names one file or directory.
* `Path.IsExact`, **`ofText_exact`**: a text that is a path to the letter.
* `Path.IsWritten`, `Path.IsDirect`, **`ofText_text`**: a path that was read is read back from its
  text.
-/

namespace ExternalFields.Path

instance : DecidablePred IsName := fun _ => inferInstanceAs (Decidable (_ ∧ _))

/-- A text that is the name of one file or directory. -/
structure IsSegment (text : Text) : Prop where
  nonempty : text ≠ []
  no_slash : ('/' : CodePoint) ∉ text
  name : IsName text

/-- A text that is a path to the letter: there is a name before, between and after its slashes. -/
def IsExact (text : Text) : Prop :=
  ∀ segment ∈ splitSlashes text, segment ≠ [] ∧ IsName segment

instance : DecidablePred IsExact := fun text =>
  inferInstanceAs (Decidable (∀ segment ∈ splitSlashes text, segment ≠ [] ∧ IsName segment))

/-- A path whose segments are texts without slashes, as they are read. -/
structure IsWritten (path : Path) : Prop where
  root : path.root = [] ∨ path.root = "/" ∨ path.root = "//"
  segments : ∀ segment ∈ path.segments, isStep segment ∧ ('/' : CodePoint) ∉ segment

/-- A written path that does not lead up. -/
structure IsDirect (path : Path) : Prop where
  written : path.IsWritten
  down : (".." : Text) ∉ path.segments

lemma IsDirect.isPlain {path : Path} (direct : path.IsDirect) : path.IsPlain := by
  intro segment mem
  constructor
  · rintro rfl
    exact absurd (direct.written.segments _ mem).1 (by decide)
  · rintro rfl
    exact direct.down mem

/-! ## Slashes -/

/-- The segments of a written path are what it is split into at its slashes. -/
lemma splitSlashes_eq_splitOn (text : Text) :
    splitSlashes text = text.splitOn ('/' : CodePoint) := by
  induction text with
  | nil => rfl
  | cons c rest ih =>
      rw [splitSlashes, List.splitOn_cons_eq_if_modifyHead, ih]
      simp only [beq_iff_eq]
      split
      · rfl
      · cases found : rest.splitOn ('/' : CodePoint) with
        | nil => exact absurd found (List.splitOn_ne_nil _ rest)
        | cons segment others => rfl

/-- **A text is made up of what is between its slashes.** -/
lemma splitSlashes_injective : Function.Injective splitSlashes := by
  have rejoin : Function.LeftInverse (List.intercalate [('/' : CodePoint)]) splitSlashes :=
    fun text => by
      rw [splitSlashes_eq_splitOn]
      exact List.intercalate_splitOn _
  exact rejoin.injective

lemma splitSlashes_of_no_slash : ∀ {text : Text}, ('/' : CodePoint) ∉ text →
    splitSlashes text = [text]
  | [], _ => rfl
  | c :: rest, no_slash => by
      have rest_eq := splitSlashes_of_no_slash fun mem => no_slash (.tail _ mem)
      have here : c ≠ ('/' : CodePoint) := by
        rintro rfl
        exact no_slash (.head _)
      rw [splitSlashes, if_neg here, rest_eq]

/-! ## Reading -/

/-- A path that was read has no single dots. -/
lemma ofText_no_dot (text : Text) : ("." : Text) ∉ (ofText text).segments := by
  intro mem
  exact absurd (List.mem_filter.mp mem).2 (by decide)

/-- A path that does not start with a slash is relative. -/
lemma rootOf_eq_nil {text : Text} (h : text.head? ≠ some ('/' : CodePoint)) : rootOf text = [] := by
  cases text with
  | nil => rfl
  | cons c rest =>
      have here : (c == ('/' : CodePoint)) = false := by simpa using h
      rw [rootOf, List.takeWhile_cons, here]
      rfl

/-- **A text that is a path to the letter** is relative, and loses nothing in reading. -/
theorem ofText_exact {text : Text} (exact : IsExact text) :
    ofText text = ⟨[], splitSlashes text⟩ := by
  have relative : text.head? ≠ some ('/' : CodePoint) := by
    cases text with
    | nil => simp
    | cons c rest =>
        intro slash
        have here : c = ('/' : CodePoint) := by simpa using slash
        refine (exact [] ?_).1 rfl
        rw [splitSlashes, if_pos here]
        exact .head _
  have steps : (splitSlashes text).filter isStep = splitSlashes text := by
    rw [List.filter_eq_self]
    intro segment mem
    obtain ⟨nonempty, name⟩ := exact segment mem
    simp [isStep, nonempty, name.1]
  rw [ofText, rootOf_eq_nil relative, steps]

lemma IsSegment.isExact {text : Text} (segment : IsSegment text) : IsExact text := by
  rw [IsExact, splitSlashes_of_no_slash segment.no_slash]
  simpa using ⟨segment.nonempty, segment.name⟩

/-- The path of a name has that name as its only segment. -/
theorem ofText_segment {text : Text} (segment : IsSegment text) : ofText text = ⟨[], [text]⟩ := by
  rw [ofText_exact segment.isExact, splitSlashes_of_no_slash segment.no_slash]

/-- A relative path goes on from the path that it is seen from. -/
lemma child_of_relative {path : Path} {text : Text} (relative : (ofText text).isAbsolute = false) :
    path.child text = ⟨path.root, path.segments ++ (ofText text).segments⟩ := by
  rw [child, join, if_neg (by simp [relative])]

/-! ## Writing and reading -/

lemma no_slash_of_mem : ∀ {text segment : Text}, segment ∈ splitSlashes text →
    ('/' : CodePoint) ∉ segment
  | [], segment, mem => by
      rw [List.mem_singleton.mp mem]
      exact List.not_mem_nil
  | c :: rest, segment, mem => by
      rw [splitSlashes] at mem
      split at mem
      · rcases List.mem_cons.mp mem with rfl | mem
        · exact List.not_mem_nil
        · exact no_slash_of_mem mem
      · next here =>
          split at mem
          · rw [List.mem_singleton.mp mem]
            simpa using Ne.symm here
          · next first others found =>
              rcases List.mem_cons.mp mem with rfl | mem
              · have rest_eq : ('/' : CodePoint) ∉ first :=
                  no_slash_of_mem (by rw [found]; exact .head _)
                simpa using ⟨Ne.symm here, rest_eq⟩
              · exact no_slash_of_mem (by rw [found]; exact .tail _ mem)

/-- What is read is a written path. -/
lemma isWritten_ofText (text : Text) : (ofText text).IsWritten := by
  refine ⟨?_, fun segment mem => ?_⟩
  · show rootOf text = [] ∨ rootOf text = "/" ∨ rootOf text = "//"
    rw [rootOf]
    split <;> simp
  · rcases List.mem_filter.mp mem with ⟨mem, step⟩
    exact ⟨step, no_slash_of_mem mem⟩

/-- Steps put together with slashes do not start with a slash. -/
lemma takeWhile_intercalate {segments : List Text}
    (written : ∀ segment ∈ segments, isStep segment ∧ ('/' : CodePoint) ∉ segment) :
    (List.intercalate "/" segments).takeWhile (fun c : CodePoint => c == '/') = [] := by
  cases segments with
  | nil => rfl
  | cons first rest =>
      rcases written first (.head _) with ⟨step, no_slash⟩
      cases first with
      | nil => cases step
      | cons c others =>
          have here : ('/' : CodePoint) ≠ c := fun same => no_slash (by simp [same])
          cases rest with
          | nil => simp [List.intercalate, Ne.symm here]
          | cons next more => simp [List.intercalate, Ne.symm here]

/-- **A written path is read back from its text.** -/
theorem ofText_text {path : Path} (written : path.IsWritten) : ofText path.text = path := by
  rcases path with ⟨root, segments⟩
  rcases written with ⟨roots, written⟩
  dsimp only at roots written
  have front := takeWhile_intercalate written
  have back : (splitSlashes (List.intercalate "/" segments)).filter isStep = segments := by
    by_cases empty : segments = []
    · rw [empty]
      decide
    · have no_slash := fun segment mem => (written segment mem).2
      have rejoined : splitSlashes (List.intercalate "/" segments) = segments :=
        (splitSlashes_eq_splitOn _).trans (List.splitOn_intercalate _ no_slash empty)
      rw [rejoined]
      exact List.filter_eq_self.mpr fun segment mem => (written segment mem).1
  rw [text]
  dsimp only
  rcases roots with rfl | rfl | rfl
  · split
    · next empty =>
        have empty : List.intercalate "/" segments = [] := by simpa using empty
        rw [empty] at back
        rw [← back]
        decide
    · rw [List.nil_append, ofText, rootOf, front, back]
      rfl
  · show ofText (('/' : CodePoint) :: List.intercalate "/" segments) = _
    rw [ofText, rootOf, splitSlashes, if_pos rfl, List.filter_cons_of_neg (by decide), back,
      List.takeWhile_cons_of_pos (by decide), front]
    rfl
  · show ofText (('/' : CodePoint) :: ('/' : CodePoint) :: List.intercalate "/" segments) = _
    rw [ofText, rootOf, splitSlashes, if_pos rfl, List.filter_cons_of_neg (by decide),
      splitSlashes, if_pos rfl, List.filter_cons_of_neg (by decide), back,
      List.takeWhile_cons_of_pos (by decide), List.takeWhile_cons_of_pos (by decide), front]
    rfl

end ExternalFields.Path
