import ExternalFields.Files.FileSystem
import ExternalFields.Proofs.Results
import Mathlib.Data.List.Induction
import Mathlib.Tactic.Lemma

/-!
# File systems as trees

A file system is a list of places in the model.  The ones that systems keep are trees: whatever is
there has its parent directory, and so has the working directory (`FileSystem.IsTree`).  In a tree
nothing is out of reach: where a path without dots leads to nothing, nothing is.

* `FileSystem.IsTree`: the file systems that are trees; `IsTree.put` adds something to one.
* `FileSystem.Keeps`, `FileSystem.Extends`: what is there stays there; it even stays as it is.
* **`Extends.find`**, **`Extends.read`**: what a path led to, it leads to still.
* `Path.IsPlain`, `FileSystem.placeOf`: the place of a path without dots is spelled by its segments.
* **`item?_placeOf_of_missing`**: nothing is at the place of a path that is missing.
-/

namespace ExternalFields

/-- A segment that is the name of what it leads to. -/
def Path.IsName (segment : Text) : Prop := segment ≠ "." ∧ segment ≠ ".."

/-- A path without dots. -/
def Path.IsPlain (path : Path) : Prop := ∀ segment ∈ path.segments, IsName segment

namespace FileSystem

variable {fs after : FileSystem}

/-! ## Items -/

lemma isDirectoryAt_iff {place : Location} :
    fs.isDirectoryAt place ↔ fs.item? place = some .directory := by
  rw [isDirectoryAt, beq_iff_eq]

lemma item?_nil : fs.item? [] = some .directory := rfl

/-- Taking the entries of a place out of a list leaves those of the others. -/
lemma lookup_filter_ne (place other : Location) :
    ∀ items : List (Location × Item),
      (items.filter fun entry => entry.1 != place).lookup other
        = if other = place then none else items.lookup other
  | [] => by simp
  | (name, content) :: rest => by
      have ih := lookup_filter_ne place other rest
      by_cases same : name = place
      · subst same
        by_cases h : other = name
        · subst h
          simpa using ih
        · have h' : (other == name) = false := beq_eq_false_iff_ne.mpr h
          simpa [List.lookup_cons, h, h'] using ih
      · rw [List.filter_cons_of_pos (by simpa using same), List.lookup_cons, List.lookup_cons, ih]
        by_cases h : other = name
        · subst h
          simp [same]
        · have h' : (other == name) = false := beq_eq_false_iff_ne.mpr h
          simp [h']

/-- What is put at a place is there, and everything else is as before. -/
lemma item?_put {place : Location} (item : Item) (below_root : place ≠ []) (other : Location) :
    (fs.put place item).item? other = if other = place then some item else fs.item? other := by
  by_cases root : other = []
  · subst root
    rw [if_neg below_root.symm]
    rfl
  · simp only [item?, put, List.isEmpty_iff, root, ↓reduceIte, List.lookup_cons, lookup_filter_ne]
    by_cases h : other = place
    · simp [h]
    · simp [h, beq_eq_false_iff_ne.mpr h]

/-! ## Trees -/

/-- A tree: the working directory is there, and so is the parent directory of all that is there. -/
structure IsTree (fs : FileSystem) : Prop where
  here : fs.isDirectoryAt fs.here
  parent : ∀ place item, fs.item? place = some item → fs.isDirectoryAt place.dropLast

/-- Paths start at directories. -/
lemma IsTree.start (tree : fs.IsTree) (path : Path) : fs.isDirectoryAt (fs.start path) := by
  rw [FileSystem.start]
  split
  · rfl
  · exact tree.here

/-- In a tree there are directories all the way to anything that is there. -/
lemma IsTree.above (tree : fs.IsTree) {place : Location} :
    ∀ (rest : Location) (item : Item), rest ≠ [] → fs.item? (place ++ rest) = some item →
      fs.isDirectoryAt place := by
  intro rest
  -- from the end, since a tree only says that the parent is a directory
  induction rest using List.reverseRecOn with
  | nil => exact fun _ h => absurd rfl h
  | append_singleton front last ih =>
      intro item _ there
      rw [← List.append_assoc] at there
      have parent := tree.parent _ _ there
      rw [List.dropLast_concat] at parent
      by_cases empty : front = []
      · rwa [empty, List.append_nil] at parent
      · exact ih .directory empty (isDirectoryAt_iff.mp parent)

/-- Nothing is above the root directory, and there is always that. -/
lemma ne_nil_of_fresh {place : Location} (fresh : fs.item? place = none) : place ≠ [] := by
  rintro rfl
  rw [item?_nil] at fresh
  cases fresh

/-- Putting something into a directory, where nothing was, leaves a tree. -/
lemma IsTree.put (tree : fs.IsTree) {place : Location} {item : Item}
    (directory : fs.isDirectoryAt place.dropLast) (fresh : fs.item? place = none) :
    (fs.put place item).IsTree := by
  have below_root := ne_nil_of_fresh fresh
  have stays : ∀ other, fs.isDirectoryAt other → (fs.put place item).isDirectoryAt other := by
    intro other h
    rw [isDirectoryAt_iff] at h ⊢
    rw [item?_put item below_root, if_neg]
    · exact h
    · rintro rfl
      rw [fresh] at h
      cases h
  refine ⟨stays _ tree.here, fun other content there => ?_⟩
  rw [item?_put item below_root] at there
  split at there
  · next same =>
      rw [same]
      exact stays _ directory
  · exact stays _ (tree.parent other content there)

/-! ## Growth -/

/-- A file system keeps what another one has: directories stay directories, and what is there stays
there.  That is all that following a path asks for. -/
structure Keeps (before after : FileSystem) : Prop where
  here : after.here = before.here
  directories : ∀ place, before.isDirectoryAt place → after.isDirectoryAt place
  there : ∀ place, (before.item? place).isSome → (after.item? place).isSome

/-- A file system extends another one if it has all that was there, as it was. -/
structure Extends (before after : FileSystem) : Prop where
  here : after.here = before.here
  kept : ∀ place item, before.item? place = some item → after.item? place = some item

lemma Extends.refl (fs : FileSystem) : fs.Extends fs := ⟨rfl, fun _ _ h => h⟩

lemma Extends.trans {first second third : FileSystem} (h₁ : first.Extends second)
    (h₂ : second.Extends third) : first.Extends third :=
  ⟨h₂.here.trans h₁.here, fun place item h => h₂.kept place item (h₁.kept place item h)⟩

lemma Extends.keeps (grown : fs.Extends after) : fs.Keeps after where
  here := grown.here
  directories place directory := by
    rw [isDirectoryAt_iff] at directory ⊢
    exact grown.kept place _ directory
  there place there := by
    obtain ⟨item, there⟩ := Option.isSome_iff_exists.mp there
    rw [grown.kept place item there]
    rfl

/-- Putting something where nothing was changes nothing else. -/
lemma extends_put {place : Location} {item : Item} (fresh : fs.item? place = none) :
    fs.Extends (fs.put place item) := by
  refine ⟨rfl, fun other content there => ?_⟩
  rw [item?_put item (ne_nil_of_fresh fresh), if_neg]
  · exact there
  · rintro rfl
    rw [fresh] at there
    cases there

lemma ne_nil_of_file {place : Location} (file : ¬ fs.isDirectoryAt place) : place ≠ [] := by
  rintro rfl
  exact file rfl

/-- Writing a file where no directory is takes nothing away. -/
lemma keeps_put_file {place : Location} {content : Octets} (file : ¬ fs.isDirectoryAt place) :
    fs.Keeps (fs.put place (.file content)) := by
  have below_root := ne_nil_of_file file
  refine ⟨rfl, fun other directory => ?_, fun other there => ?_⟩
  · rw [isDirectoryAt_iff] at directory ⊢
    rw [item?_put _ below_root, if_neg]
    · exact directory
    · rintro rfl
      exact file (isDirectoryAt_iff.mpr directory)
  · rw [item?_put _ below_root]
    split
    · rfl
    · exact there

lemma Keeps.start (keeps : fs.Keeps after) (path : Path) : after.start path = fs.start path := by
  rw [FileSystem.start, FileSystem.start, keeps.here]

/-- Where one could go, one can still go. -/
lemma Keeps.enter (keeps : fs.Keeps after) {place next : Location} {segment : Text}
    (entered : fs.enter place segment = .ok next) : after.enter place segment = .ok next := by
  simp only [FileSystem.enter] at entered ⊢
  split at entered
  · cases entered
  · next directory =>
      have directory' : after.isDirectoryAt place :=
        keeps.directories place (by simpa using directory)
      simp only [directory', Bool.not_true, Bool.false_eq_true, ↓reduceIte]
      split at entered
      · next dot => rw [if_pos dot, entered]
      · next dot =>
          rw [if_neg dot]
          split at entered
          · next dots => rw [if_pos dots, entered]
          · next dots =>
              rw [if_neg dots]
              split at entered
              · cases entered
              · next short =>
                  rw [if_neg short]
                  split at entered
                  · next there =>
                      rw [if_pos (keeps.there _ there)]
                      exact entered
                  · cases entered

/-- Following a path to the end goes on leading to the same place. -/
lemma Keeps.follow (keeps : fs.Keeps after) : ∀ {segments : List Text} {place last : Location},
    fs.follow place segments = .ok last → after.follow place segments = .ok last
  | [], _, _, h => h
  | segment :: rest, place, last, h => by
      rw [FileSystem.follow] at h ⊢
      split at h
      · next next entered =>
          rw [keeps.enter entered]
          exact keeps.follow h
      · cases h

/-- What a path led to, it leads to still. -/
lemma Extends.find (grown : fs.Extends after) {path : Path} {item : Item}
    (found : fs.find path = .ok item) : after.find path = .ok item := by
  simp only [FileSystem.find, locate, bind_eq_ok] at found ⊢
  obtain ⟨place, ⟨_, usable, followed⟩, there⟩ := found
  refine ⟨place, ⟨_, usable, ?_⟩, ?_⟩
  · rw [grown.keeps.start]
    exact grown.keeps.follow followed
  · split at there
    · next other there' =>
        rw [grown.kept _ _ there']
        exact there
    · cases there

lemma read_eq_ok {path : Path} {content : Octets} :
    fs.read path = .ok content ↔ fs.find path = .ok (.file content) := by
  rw [FileSystem.read]
  split
  · next found => simp [found]
  · next found => simp [found]
  · next found => simp [found]

/-- Files keep their contents. -/
lemma Extends.read (grown : fs.Extends after) {path : Path} {content : Octets}
    (read : fs.read path = .ok content) : after.read path = .ok content :=
  read_eq_ok.mpr (grown.find (read_eq_ok.mp read))

/-! ## Paths without dots -/

/-- The place that a path without dots names. -/
def placeOf (fs : FileSystem) (path : Path) : Location :=
  fs.start path ++ path.segments.map FileName.normal

/-- A name leads from a directory to what has that name there. -/
lemma enter_name {place next : Location} {segment : Text} (name : Path.IsName segment)
    (entered : fs.enter place segment = .ok next) : next = place ++ [FileName.normal segment] := by
  simp only [FileSystem.enter, name.1, name.2, ↓reduceIte] at entered
  split at entered
  · cases entered
  · split at entered
    · cases entered
    · split at entered
      · exact (Except.ok.inj entered).symm
      · cases entered

lemma follow_names : ∀ {segments : List Text} {place last : Location},
    (∀ segment ∈ segments, Path.IsName segment) → fs.follow place segments = .ok last →
      last = place ++ segments.map FileName.normal
  | [], place, last, _, h => by
      rw [List.map_nil, List.append_nil]
      exact (Except.ok.inj h).symm
  | segment :: rest, place, last, names, h => by
      rw [FileSystem.follow] at h
      split at h
      · next next entered =>
          have last_eq := follow_names (fun other mem => names other (.tail _ mem)) h
          rw [last_eq, enter_name (names segment (.head _)) entered, List.map_cons,
            List.append_assoc, List.singleton_append]
      · cases h

lemma enter_ne_missing {place : Location} {segment : Text} (name : Path.IsName segment)
    (there : (fs.item? (place ++ [FileName.normal segment])).isSome) :
    fs.enter place segment ≠ .error .missing := by
  simp only [FileSystem.enter, name.1, name.2, ↓reduceIte, there]
  split
  · rintro ⟨⟩
  · split <;> rintro ⟨⟩

/-- Names lead to whatever is at the place that they spell, unless one of them is too long or
something on the way is no directory. -/
lemma follow_ne_missing (tree : fs.IsTree) : ∀ {segments : List Text} {place : Location},
    (∀ segment ∈ segments, Path.IsName segment) →
      (fs.item? (place ++ segments.map FileName.normal)).isSome →
        fs.follow place segments ≠ .error .missing
  | [], _, _, _ => by
      rintro ⟨⟩
  | segment :: rest, place, names, there => by
      rw [List.map_cons, ← List.singleton_append, ← List.append_assoc] at there
      have next_there : (fs.item? (place ++ [FileName.normal segment])).isSome := by
        by_cases last : rest = []
        · simpa [last] using there
        · obtain ⟨item, there⟩ := Option.isSome_iff_exists.mp there
          have directory := tree.above (rest.map FileName.normal) item (by simpa using last) there
          rw [isDirectoryAt_iff.mp directory]
          rfl
      have name := names segment (.head _)
      rw [FileSystem.follow]
      split
      · next next entered =>
          rw [enter_name name entered]
          exact follow_ne_missing tree (fun other mem => names other (.tail _ mem)) there
      · next obstacle entered =>
          rw [← entered]
          exact enter_ne_missing name next_there

lemma checkPath_ne_missing {path : Path} : checkPath path ≠ .error .missing := by
  rw [checkPath]
  split
  · rintro ⟨⟩
  · split <;> rintro ⟨⟩

/-- Nothing is at the place of a path that is missing. -/
lemma item?_placeOf_of_missing (tree : fs.IsTree) {path : Path} (plain : path.IsPlain)
    (missing : fs.find path = .error .missing) : fs.item? (fs.placeOf path) = none := by
  by_contra there
  have there : (fs.item? (fs.placeOf path)).isSome := Option.isSome_iff_ne_none.mpr there
  have followed := follow_ne_missing tree plain there
  simp only [FileSystem.find, locate] at missing
  cases check : checkPath path with
  | error obstacle =>
      rw [check, error_bind, error_bind] at missing
      cases missing
      exact checkPath_ne_missing check
  | ok _ =>
      rw [check, ok_bind] at missing
      cases reached : fs.follow (fs.start path) path.segments with
      | error obstacle =>
          rw [reached, error_bind] at missing
          cases missing
          exact followed reached
      | ok place =>
          rw [reached, ok_bind, follow_names plain reached] at missing
          obtain ⟨item, there⟩ := Option.isSome_iff_exists.mp there
          rw [placeOf] at there
          simp [there, pure, Except.pure] at missing

end FileSystem

end ExternalFields
