import ExternalFields.FieldPath
import Mathlib.Data.List.Basic
import Mathlib.Tactic.Lemma

/-!
# Segments of dotted paths

The segments of a path are what it is split into at its dots (`segments_eq_splitOn`), and joining
them with dots gives the path back.  The parts that a path is joined from may hold dots themselves;
the path then has the segments of all of them in turn.

* `segments_intercalate`: the segments of a joined path are those of its parts.
* `segments_injective`: paths with the same segments are the same.
* `join_join`, `relativeTo_join`: joining names step by step, and taking a name off again.
-/

namespace ExternalFields.FieldPath

/-- The dot between the parts of a path. -/
lemma dot_eq : ("." : Text) = [('.' : CodePoint)] := rfl

/-- The segments of a path are what it is split into at its dots. -/
lemma segments_eq_splitOn (path : Text) : segments path = path.splitOn ('.' : CodePoint) := by
  induction path with
  | nil => rfl
  | cons c rest ih =>
      rw [segments, List.splitOn_cons_eq_if_modifyHead, ih]
      simp only [beq_iff_eq]
      split
      · rfl
      · cases found : rest.splitOn ('.' : CodePoint) with
        | nil => exact absurd found (List.splitOn_ne_nil _ rest)
        | cons segment others => rfl

/-- A dot separates the segments before it from those after it. -/
lemma segments_append_dot (front rest : Text) :
    segments (front ++ "." ++ rest) = segments front ++ segments rest := by
  rw [dot_eq, List.append_assoc, List.singleton_append]
  simp only [segments_eq_splitOn, List.splitOn_append_cons_self]

/-- **The segments of a joined path** are those of its parts. -/
lemma segments_intercalate : ∀ parts : List Text, parts ≠ [] →
    segments (List.intercalate "." parts) = parts.flatMap segments
  | [], h => absurd rfl h
  | [part], _ => by simp
  | part :: next :: others, _ => by
      have ih := segments_intercalate (next :: others) (List.cons_ne_nil _ _)
      rw [List.intercalate_cons_cons, segments_append_dot, ih]
      rfl

/-- **A path is made up of its segments.** -/
lemma segments_injective : Function.Injective segments := by
  have rejoin : Function.LeftInverse (List.intercalate ".") segments := fun path => by
    rw [dot_eq, segments_eq_splitOn]
    exact List.intercalate_splitOn _
  exact rejoin.injective

/-! ## Joining names -/

lemma join_nil (name : Text) : join [] name = name := rfl

lemma join_of_ne_nil {enclosing : Text} (below : enclosing ≠ []) (name : Text) :
    join enclosing name = enclosing ++ "." ++ name :=
  if_neg (by simpa using below)

lemma join_ne_nil (enclosing : Text) {name : Text} (named : name ≠ []) :
    join enclosing name ≠ [] := by
  by_cases top : enclosing = []
  · rwa [top, join_nil]
  · simp [join_of_ne_nil top, named]

/-- Names are joined one after the other, or all at once. -/
lemma join_join (enclosing : Text) {name : Text} (named : name ≠ []) (inner : Text) :
    join (join enclosing name) inner = join enclosing (name ++ "." ++ inner) := by
  rw [join_of_ne_nil (join_ne_nil enclosing named)]
  by_cases top : enclosing = []
  · rw [top, join_nil, join_nil]
  · rw [join_of_ne_nil top, join_of_ne_nil top]
    simp only [List.append_assoc]

/-- **A name is what is left of its path** without the path that encloses it. -/
lemma relativeTo_join (enclosing name : Text) :
    relativeTo enclosing (join enclosing name) = name := by
  by_cases top : enclosing = []
  · rw [top, join_nil]
    rfl
  · have stripped : (enclosing ++ "." : Text).isPrefixOf? (enclosing ++ "." ++ name) = some name :=
      List.isPrefixOf?_eq_some_iff_append_eq.mpr rfl
    rw [join_of_ne_nil top, relativeTo, if_neg (by simpa using top), stripped]
    rfl

end ExternalFields.FieldPath
