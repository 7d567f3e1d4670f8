import ExternalFields.Proofs.Files.Errors

/-!
# Why a path leads to nothing

Following a path stops at the first segment that leads nowhere.  In a tree what has been reached by
then is there: it is a file, which has nothing below it; or it is a directory, and the segment is
too long for a name, or nothing has that name.  Only the last of these means that what the path is
for is missing.

* `follow_stops`, `follow_reaches`: where following stops, and what has been reached.
* `FileSystem.RunsThroughFile`, `FileSystem.IsOverlong`: the two other obstacles.
* **`find_obstructed`**: a path fails otherwise than by missing exactly if one of them is met.
-/

namespace ExternalFields.FileSystem

variable {fs : FileSystem} {path : Path}

/-! ## Where following stops -/

/-- Following stops at the first segment that cannot be entered. -/
lemma follow_stops : ∀ {segments : List Text} {place : Location} {obstacle : Obstacle},
    fs.follow place segments = .error obstacle →
      ∃ front segment rest reached, segments = front ++ segment :: rest
        ∧ fs.follow place front = .ok reached ∧ fs.enter reached segment = .error obstacle
  | [], _, _, stopped => nomatch stopped
  | segment :: rest, place, obstacle, stopped => by
      rw [follow] at stopped
      split at stopped
      · next next entered =>
          obtain ⟨front, other, others, reached, rfl, followed, stops⟩ := follow_stops stopped
          refine ⟨segment :: front, other, others, reached, rfl, ?_, stops⟩
          rw [follow, entered]
          exact followed
      · next entered =>
          cases stopped
          exact ⟨[], segment, rest, place, rfl, rfl, entered⟩

/-- A segment that cannot be entered is where following stops. -/
lemma follow_of_stop {front rest : List Text} {segment : Text} {place reached : Location}
    {obstacle : Obstacle} (followed : fs.follow place front = .ok reached)
    (stops : fs.enter reached segment = .error obstacle) :
    fs.follow place (front ++ segment :: rest) = .error obstacle := by
  rw [follow_append, followed, ok_bind, follow, stops]

/-- In a tree a segment leads from what is there to what is there. -/
lemma enter_there (tree : fs.IsTree) {place next : Location} {segment : Text}
    (entered : fs.enter place segment = .ok next) : (fs.item? next).isSome := by
  simp only [enter] at entered
  split_ifs at entered with outside dot dots long there
  · have directory : fs.item? place = some .directory :=
      isDirectoryAt_iff.mp (by simpa using outside)
    rw [← Except.ok.inj entered, directory]
    rfl
  · have directory : fs.item? place = some .directory :=
      isDirectoryAt_iff.mp (by simpa using outside)
    rw [← Except.ok.inj entered, isDirectoryAt_iff.mp (tree.parent _ _ directory)]
    rfl
  · rw [← Except.ok.inj entered]
    exact there

/-- In a tree whatever has been reached is there. -/
lemma follow_reaches (tree : fs.IsTree) : ∀ {segments : List Text} {place reached : Location},
    (fs.item? place).isSome → fs.follow place segments = .ok reached →
      (fs.item? reached).isSome
  | [], _, _, there, followed => by
      cases followed
      exact there
  | segment :: rest, place, reached, _, followed => by
      rw [follow] at followed
      split at followed
      · next next entered => exact follow_reaches tree (enter_there tree entered) followed
      · cases followed

/-! ## Obstacles -/

/-- A path that goes on after one of its beginnings has led to a file. -/
def RunsThroughFile (fs : FileSystem) (path : Path) : Prop :=
  ∃ front segment rest place content, path.segments = front ++ segment :: rest
    ∧ fs.follow (fs.start path) front = .ok place ∧ fs.item? place = some (.file content)

/-- A path that is too long, or comes to a segment that is too long for a name. -/
def IsOverlong (fs : FileSystem) (path : Path) : Prop :=
  longestPath < path.size
    ∨ ∃ front segment rest place, path.segments = front ++ segment :: rest
      ∧ fs.follow (fs.start path) front = .ok place ∧ isTooLong segment

lemma checkPath_eq (usable : path.isUsable) :
    checkPath path = if longestPath < path.size then .error .nameTooLong else .ok () := by
  simp only [checkPath, usable, Bool.not_true, Bool.false_eq_true, ↓reduceIte]

/-- A path that can be used and is not too long is followed to its end. -/
lemma find_eq (usable : path.isUsable) (short : ¬ longestPath < path.size) :
    fs.find path = (fs.follow (fs.start path) path.segments >>= fun place =>
      match fs.item? place with
      | some item => .ok item
      | none => .error .missing) := by
  rw [find, locate, checkPath_eq usable, if_neg short]
  rfl

lemma enter_of_file {place : Location} {content : Octets}
    (file : fs.item? place = some (.file content)) (segment : Text) :
    fs.enter place segment = .error .notDirectory := by
  have outside : fs.isDirectoryAt place = false := by
    rw [isDirectoryAt, file]
    rfl
  rw [enter, outside]
  rfl

/-- A segment that is too long is no way on, from wherever it is taken. -/
lemma enter_of_long {segment : Text} (long : isTooLong segment) (place : Location) :
    ∃ obstacle, fs.enter place segment = .error obstacle ∧ obstacle ≠ .missing := by
  have dot : segment ≠ "." := by
    rintro rfl
    exact absurd long (by decide +kernel)
  have dots : segment ≠ ".." := by
    rintro rfl
    exact absurd long (by decide +kernel)
  rw [enter, if_neg dot, if_neg dots, if_pos long]
  split
  · exact ⟨_, rfl, by rintro ⟨⟩⟩
  · exact ⟨_, rfl, by rintro ⟨⟩⟩

/-- A segment that cannot be entered stands after a file, or is too long, or names nothing. -/
lemma enter_error (place_there : (fs.item? place).isSome) {segment : Text} {obstacle : Obstacle}
    (stops : fs.enter place segment = .error obstacle) :
    (∃ content, fs.item? place = some (.file content)) ∨ isTooLong segment
      ∨ obstacle = .missing := by
  simp only [enter] at stops
  split_ifs at stops with outside dot dots long there
  · obtain ⟨item, found⟩ := Option.isSome_iff_exists.mp place_there
    cases item with
    | file content => exact .inl ⟨content, found⟩
    | directory =>
        rw [isDirectoryAt_iff.mpr found] at outside
        cases outside
  · exact .inr (.inl long)
  · exact .inr (.inr (Except.error.inj stops).symm)

/-- **A path fails otherwise than by missing** exactly if it runs through a file, or is too long or
comes to a name that is. -/
theorem find_obstructed (tree : fs.IsTree) (usable : path.isUsable) :
    (∃ obstacle, fs.find path = .error obstacle ∧ obstacle ≠ .missing) ↔
      fs.RunsThroughFile path ∨ fs.IsOverlong path := by
  by_cases short : longestPath < path.size
  · refine ⟨fun _ => .inr (.inl short), fun _ => ⟨.nameTooLong, ?_, by rintro ⟨⟩⟩⟩
    rw [find, locate, checkPath_eq usable, if_pos short]
    rfl
  rw [find_eq usable short]
  constructor
  · rintro ⟨obstacle, lost, present⟩
    have start_there : (fs.item? (fs.start path)).isSome := by
      rw [isDirectoryAt_iff.mp (tree.start path)]
      rfl
    cases followed : fs.follow (fs.start path) path.segments with
    | ok place =>
        obtain ⟨item, there⟩ :=
          Option.isSome_iff_exists.mp (follow_reaches tree start_there followed)
        rw [followed, ok_bind, there] at lost
        cases lost
    | error other =>
        rw [followed] at lost
        cases lost
        obtain ⟨front, segment, rest, reached, segments, front_followed, stops⟩ :=
          follow_stops followed
        obtain ⟨content, file⟩ | long | missing :=
          enter_error (follow_reaches tree start_there front_followed) stops
        · exact .inl ⟨front, segment, rest, reached, content, segments, front_followed, file⟩
        · exact .inr (.inr ⟨front, segment, rest, reached, segments, front_followed, long⟩)
        · exact absurd missing present
  · rintro (⟨front, segment, rest, place, content, segments, followed, file⟩
      | too_long | ⟨front, segment, rest, place, segments, followed, long⟩)
    · refine ⟨.notDirectory, ?_, by rintro ⟨⟩⟩
      rw [segments, follow_of_stop followed (enter_of_file file segment)]
      rfl
    · exact absurd too_long short
    · obtain ⟨obstacle, stops, present⟩ := @enter_of_long fs segment long place
      refine ⟨obstacle, ?_, present⟩
      rw [segments, follow_of_stop followed stops]
      rfl

/-! ## An example -/

/-- Of two paths to nothing, one runs through a file and the other one does not. -/
example : let fs : FileSystem := { items := [(["cache"], .file [])] }
    fs.find ⟨[], ["cache", "ecs"]⟩ = .error .notDirectory
      ∧ fs.find ⟨[], ["other", "ecs"]⟩ = .error .missing := by
  decide +kernel

end ExternalFields.FileSystem
