import ExternalFields.Proofs.Files.Tree

/-!
# Making directories and writing files

What the operations that add to a file system do to a tree.

* `makeDirectory_ok`, `write_ok`: what the two operations put where, if they succeed.
* **`read_of_write`**: what has been written can be read.
* **`makeDirectoriesTo_induction`**: what each new directory preserves, a row of them preserves,
  whether or not the last one is reached.
* `makeDirectories_grows`: so a tree only grows, and **`makeDirectories_elsewhere`**: only on the
  way to the directory.
* **`write_new`**: writing what was missing, after making room for it, touches nothing.
* `makeDirectories_ne_unusable`, `write_ne_unusable`: a usable path is never said to be unusable.
-/

namespace ExternalFields.FileSystem

variable {fs : FileSystem}

/-! ## New places -/

/-- A new place is the start of its path, or is named by the last segment in the directory that the
others lead to. -/
lemma locateNew_ok {path : Path} {place : Location} (located : fs.locateNew path = .ok place) :
    checkPath path = .ok () ∧
      (path.segments = [] ∧ place = fs.start path ∨
        ∃ (front : List Text) (name : Text) (parent : Location), path.segments = front ++ [name]
          ∧ fs.follow (fs.start path) front = .ok parent ∧ fs.isDirectoryAt parent
          ∧ (name = ".." ∧ place = parent.dropLast
            ∨ name ≠ ".." ∧ isTooLong name = false
              ∧ place = parent ++ [FileName.normal name])) := by
  simp only [locateNew, bind_eq_ok] at located
  obtain ⟨_, check, located⟩ := located
  refine ⟨check, ?_⟩
  cases last : path.segments.getLast? with
  | none =>
      rw [last] at located
      exact .inl ⟨List.getLast?_eq_none_iff.mp last, (Except.ok.inj located).symm⟩
  | some name =>
      rw [last] at located
      obtain ⟨front, segments⟩ := List.getLast?_eq_some_iff.mp last
      simp only [segments, List.dropLast_concat, bind_eq_ok] at located
      obtain ⟨parent, followed, located⟩ := located
      refine .inr ⟨front, name, parent, segments, followed, ?_⟩
      split at located
      · cases located
      · next directory =>
          refine ⟨by simpa using directory, ?_⟩
          split at located
          · next dots => exact .inl ⟨dots, (Except.ok.inj located).symm⟩
          · next dots =>
              split at located
              · cases located
              · next short =>
                  exact .inr ⟨dots, by simpa using short, (Except.ok.inj located).symm⟩

/-- In a tree, an operation on a place that is no directory is on a name in a directory. -/
lemma locateNew_name (tree : fs.IsTree) {path : Path} {place : Location}
    (located : fs.locateNew path = .ok place) (file : ¬ fs.isDirectoryAt place) :
    ∃ (front : List Text) (name : Text) (parent : Location), path.segments = front ++ [name]
      ∧ fs.follow (fs.start path) front = .ok parent ∧ fs.isDirectoryAt parent
      ∧ name ≠ ".." ∧ isTooLong name = false ∧ place = parent ++ [FileName.normal name] := by
  obtain ⟨_, ⟨-, start⟩ | ⟨front, name, parent, segments, followed, directory, last⟩⟩ :=
    locateNew_ok located
  · rw [start] at file
    exact absurd (tree.start path) file
  · obtain ⟨-, up⟩ | last := last
    · rw [up] at file
      exact absurd (tree.parent _ _ (isDirectoryAt_iff.mp directory)) file
    · exact ⟨front, name, parent, segments, followed, directory, last⟩

/-- The place of a name in the directory that other names lead to is spelled by all of them. -/
lemma placeOf_concat {path : Path} {front : List Text} {name : Text} {parent : Location}
    (plain : path.IsPlain) (segments : path.segments = front ++ [name])
    (followed : fs.follow (fs.start path) front = .ok parent) :
    fs.placeOf path = parent ++ [FileName.normal name] := by
  have names : ∀ segment ∈ front, Path.IsName segment := fun segment mem =>
    plain segment (by rw [segments]; exact List.mem_append_left _ mem)
  rw [placeOf, segments, List.map_append, ← List.append_assoc, ← follow_names names followed]
  rfl

/-! ## One directory, one file -/

/-- A directory is made in a directory that is there, where nothing was. -/
lemma makeDirectory_ok (tree : fs.IsTree) {path : Path} {made : FileSystem}
    (h : fs.makeDirectory path = .ok made) :
    ∃ place, fs.isDirectoryAt place.dropLast ∧ fs.item? place = none
      ∧ made = fs.put place .directory ∧ (path.IsPlain → place = fs.placeOf path) := by
  rw [makeDirectory] at h
  split at h
  · next place located =>
      split at h
      · cases h
      · next fresh =>
          have fresh : fs.item? place = none := by simpa using fresh
          have file : ¬ fs.isDirectoryAt place := by
            rw [isDirectoryAt_iff, fresh]
            rintro ⟨⟩
          obtain ⟨front, name, parent, segments, followed, directory, -, -, rfl⟩ :=
            locateNew_name tree located file
          refine ⟨_, ?_, fresh, (Except.ok.inj h).symm, fun plain => ?_⟩
          · rwa [List.dropLast_concat]
          · exact (placeOf_concat plain segments followed).symm
  · cases h

/-- A file is written to a directory that is there, where no directory was. -/
lemma write_ok (tree : fs.IsTree) {path : Path} {content : Octets} {written : FileSystem}
    (h : fs.write path content = .ok written) :
    ∃ place, fs.isDirectoryAt place.dropLast ∧ ¬ fs.isDirectoryAt place
      ∧ written = fs.put place (.file content) ∧ (path.IsPlain → place = fs.placeOf path) := by
  rw [write] at h
  split at h
  · next place located =>
      split at h
      · cases h
      · next file =>
          obtain ⟨front, name, parent, segments, followed, directory, -, -, rfl⟩ :=
            locateNew_name tree located file
          refine ⟨_, ?_, file, (Except.ok.inj h).symm, fun plain => ?_⟩
          · rwa [List.dropLast_concat]
          · exact (placeOf_concat plain segments followed).symm
  · cases h

/-- Following segments is following the first ones, and the others from there. -/
lemma follow_append (rest : List Text) : ∀ (front : List Text) (place : Location),
    fs.follow place (front ++ rest) = (fs.follow place front >>= fun next => fs.follow next rest)
  | [], _ => rfl
  | segment :: front, place => by
      rw [List.cons_append, FileSystem.follow, FileSystem.follow]
      cases fs.enter place segment with
      | ok next => exact follow_append rest front next
      | error obstacle => rfl

lemma follow_singleton (place : Location) (name : Text) :
    fs.follow place [name] = fs.enter place name := by
  rw [FileSystem.follow]
  cases fs.enter place name <;> rfl

lemma follow_concat {front : List Text} {name : Text} {place parent : Location}
    (followed : fs.follow place front = .ok parent) :
    fs.follow place (front ++ [name]) = fs.enter parent name := by
  rw [follow_append, followed, ok_bind, follow_singleton]

/-- **What has been written can be read**, by the same path, unless that ends in a dot. -/
theorem read_of_write (tree : fs.IsTree) {path : Path} {content : Octets} {written : FileSystem}
    (no_dot : ("." : Text) ∉ path.segments) (h : fs.write path content = .ok written) :
    written.read path = .ok content := by
  rw [write] at h
  split at h
  · next place located =>
      split at h
      · cases h
      · next file =>
          obtain ⟨front, name, parent, segments, followed, directory, dots, short, rfl⟩ :=
            locateNew_name tree located file
          have keeps : fs.Keeps written := by
            cases h
            exact keeps_put_file file
          have there : written.item? (parent ++ [FileName.normal name]) = some (.file content) := by
            cases h
            rw [item?_put _ (by simp), if_pos rfl]
          have dot : name ≠ "." := by
            rintro rfl
            exact no_dot (by simp [segments])
          have entered : written.enter parent name = .ok (parent ++ [FileName.normal name]) := by
            simp [enter, keeps.directories parent directory, dot, dots, short, there]
          have followed' : written.follow (written.start path) path.segments
              = .ok (parent ++ [FileName.normal name]) := by
            rw [keeps.start, segments, follow_concat (keeps.follow followed), entered]
          rw [read_eq_ok, find, locate, (locateNew_ok located).1, ok_bind, followed', ok_bind,
            there]
          rfl
  · cases h

/-! ## Rows of directories -/

/-- **What each new directory preserves, a row of them preserves**, whether or not the last one is
reached. -/
theorem makeDirectoriesTo_induction (P : FileSystem → Prop) {path : Path}
    (step : ∀ {fs made : FileSystem} {up : Path}, up.root = path.root →
      up.segments <+: path.segments → P fs → fs.makeDirectory up = .ok made → P made)
    (depth : Nat) {fs : FileSystem} (h : P fs) : P (fs.makeDirectoriesTo path depth).2 := by
  induction depth generalizing path fs with
  | zero =>
      rw [makeDirectoriesTo]
      split
      · next made => exact step rfl (List.prefix_refl _) h made
      · exact h
  | succ depth ih =>
      have above := @ih path.parent (fun root segments => step root
        (segments.trans (List.dropLast_prefix _))) fs h
      rw [makeDirectoriesTo]
      split
      · next made => exact step rfl (List.prefix_refl _) h made
      · split
        · exact h
        · split
          -- the parents are missing: they are made first, then the directory is tried again
          · split
            · next parents => rwa [parents] at above
            · next parents =>
                rw [parents] at above
                split
                · next made => exact step rfl (List.prefix_refl _) above made
                · exact above
          · exact h

/-- A tree only grows, and stays a tree. -/
lemma makeDirectories_grows (tree : fs.IsTree) (path : Path) :
    (fs.makeDirectories path).2.IsTree ∧ fs.Extends (fs.makeDirectories path).2 := by
  refine makeDirectoriesTo_induction (fun made => made.IsTree ∧ fs.Extends made)
    (fun _ _ now made => ?_) _ ⟨tree, .refl fs⟩
  obtain ⟨place, directory, fresh, rfl, -⟩ := makeDirectory_ok now.1 made
  exact ⟨now.1.put directory fresh, now.2.trans (extends_put fresh)⟩

/-- **New directories are on the way**: elsewhere everything is as before. -/
theorem makeDirectories_elsewhere (tree : fs.IsTree) {path : Path} (plain : path.IsPlain)
    {place : Location} (elsewhere : ¬ place <+: fs.placeOf path) :
    (fs.makeDirectories path).2.item? place = fs.item? place := by
  refine (makeDirectoriesTo_induction
    (fun made => made.IsTree ∧ fs.Extends made ∧ made.item? place = fs.item? place)
    (fun root segments now made => ?_) _ ⟨tree, .refl fs, rfl⟩).2.2
  obtain ⟨other, directory, fresh, rfl, other_eq⟩ := makeDirectory_ok now.1 made
  refine ⟨now.1.put directory fresh, now.2.1.trans (extends_put fresh), ?_⟩
  rw [item?_put _ (ne_nil_of_fresh fresh), if_neg, now.2.2]
  rintro rfl
  apply elsewhere
  rw [other_eq fun segment mem => plain segment (segments.subset mem), placeOf, placeOf,
    now.2.1.keeps.start, start, start, Path.isAbsolute, Path.isAbsolute, root]
  exact (List.prefix_append_right_inj _).mpr (segments.map _)

/-! ## New files -/

lemma segments_ne_nil_of_missing (tree : fs.IsTree) {path : Path}
    (missing : fs.find path = .error .missing) : path.segments ≠ [] := by
  intro empty
  have start : fs.item? (fs.start path) = some .directory := isDirectoryAt_iff.mp (tree.start path)
  rw [find, locate] at missing
  cases check : checkPath path with
  | error obstacle =>
      rw [check, error_bind, error_bind] at missing
      cases missing
      exact checkPath_ne_missing check
  | ok _ =>
      rw [check, ok_bind, empty, FileSystem.follow, ok_bind, start] at missing
      cases missing

/-- The place of a path is not on the way to its parent. -/
lemma not_placeOf_prefix_parent {path : Path} (below : path.segments ≠ []) :
    ¬ fs.placeOf path <+: fs.placeOf path.parent := by
  intro above
  have shorter := above.length_le
  have length := List.length_pos_iff.mpr below
  simp only [placeOf, Path.parent, List.length_append, List.length_map, List.length_dropLast]
    at shorter
  have start : fs.start { path with segments := path.segments.dropLast } = fs.start path := rfl
  rw [start] at shorter
  omega

/-- **Writing what was missing touches nothing**, once there is room for it: nothing was at the
place of the path, and making room has put nothing there. -/
theorem write_new (tree : fs.IsTree) {path : Path} (plain : path.IsPlain) {content : Octets}
    {made written : FileSystem} (missing : fs.find path = .error .missing)
    (room : (fs.makeDirectories path.parent).2 = made)
    (h : made.write path content = .ok written) :
    written.IsTree ∧ fs.Extends written ∧ written.read path = .ok content := by
  obtain ⟨tree', grown⟩ := makeDirectories_grows tree path.parent
  have elsewhere := makeDirectories_elsewhere tree
    (fun segment mem => plain segment ((List.dropLast_sublist _).subset mem))
    (not_placeOf_prefix_parent (segments_ne_nil_of_missing tree missing))
  rw [room] at tree' grown elsewhere
  obtain ⟨place, directory, -, rfl, place_eq⟩ := write_ok tree' h
  have fresh : made.item? place = none := by
    rw [place_eq plain, placeOf, grown.keeps.start, ← placeOf, elsewhere]
    exact item?_placeOf_of_missing tree plain missing
  refine ⟨tree'.put directory fresh, grown.trans (extends_put fresh), ?_⟩
  exact read_of_write tree' (fun mem => (plain _ mem).1 rfl) h

/-! ## Usable paths -/

lemma isUsable_of_checkPath {path : Path} (check : checkPath path = .ok ()) : path.isUsable := by
  by_contra unusable
  rw [checkPath, if_pos (by simpa using unusable)] at check
  cases check

/-- A path that has been written to can be used. -/
lemma checkPath_of_write {path : Path} {content : Octets} {written : FileSystem}
    (h : fs.write path content = .ok written) : checkPath path = .ok () := by
  rw [write] at h
  split at h
  · next place located => exact (locateNew_ok located).1
  · cases h

/-- What is missing has a path that can be used. -/
lemma isUsable_of_missing {path : Path} (missing : fs.find path = .error .missing) :
    path.isUsable := by
  by_contra unusable
  have check : checkPath path = .error .unusable := by
    rw [checkPath, if_pos (by simpa using unusable)]
  rw [find, locate, check, error_bind, error_bind] at missing
  cases missing

lemma checkPath_ne_unusable {path : Path} (usable : path.isUsable) :
    checkPath path ≠ .error .unusable := by
  simp only [checkPath, usable, Bool.not_true, Bool.false_eq_true, ↓reduceIte]
  split <;> rintro ⟨⟩

lemma follow_ne_unusable : ∀ {segments : List Text} {place : Location},
    fs.follow place segments ≠ .error .unusable
  | [], _ => by
      rintro ⟨⟩
  | segment :: rest, place => by
      rw [FileSystem.follow]
      split
      · exact follow_ne_unusable
      · next obstacle entered =>
          rintro ⟨⟩
          simp only [FileSystem.enter] at entered
          repeat' split at entered
          all_goals cases entered

lemma locateNew_ne_unusable {path : Path} (usable : path.isUsable) :
    fs.locateNew path ≠ .error .unusable := by
  intro h
  rw [locateNew] at h
  cases check : checkPath path with
  | error obstacle =>
      rw [check, error_bind] at h
      exact checkPath_ne_unusable usable (check.trans (congrArg _ (Except.error.inj h)))
  | ok _ =>
      rw [check, ok_bind] at h
      split at h
      · cases h
      · cases followed : fs.follow (fs.start path) path.segments.dropLast with
        | error obstacle =>
            rw [followed, error_bind] at h
            exact follow_ne_unusable (followed.trans (congrArg _ (Except.error.inj h)))
        | ok parent =>
            rw [followed, ok_bind] at h
            repeat' split at h
            all_goals cases h

lemma makeDirectory_ne_unusable {path : Path} {e : FileError} (usable : path.isUsable)
    (h : fs.makeDirectory path = .error e) : e.obstacle ≠ .unusable := by
  rw [makeDirectory] at h
  split at h
  · split at h
    · cases h
      rintro ⟨⟩
    · cases h
  · next obstacle located =>
      cases h
      rintro rfl
      exact locateNew_ne_unusable usable located

lemma write_ne_unusable {path : Path} {content : Octets} {e : FileError} (usable : path.isUsable)
    (h : fs.write path content = .error e) : e.obstacle ≠ .unusable := by
  rw [write] at h
  split at h
  · split at h
    · cases h
      rintro ⟨⟩
    · cases h
  · next obstacle located =>
      cases h
      rintro rfl
      exact locateNew_ne_unusable usable located

lemma orDirectory_ne_unusable {path : Path} {e e' : FileError}
    (h : fs.orDirectory path e = .error e') (not_unusable : e.obstacle ≠ .unusable) :
    e'.obstacle ≠ .unusable := by
  rw [orDirectory] at h
  split at h
  · cases h
  · cases h
    exact not_unusable
  · next other tested =>
      cases h
      rw [isDirectory?, test] at tested
      split at tested
      · cases tested
      · split at tested
        · cases tested
        · next obstacle _ present =>
            cases tested
            rintro rfl
            exact present rfl

lemma isUsable_parent {path : Path} (usable : path.isUsable) : path.parent.isUsable := by
  rw [Path.isUsable, List.all_eq_true] at usable ⊢
  exact fun segment mem => usable segment ((List.dropLast_sublist _).subset mem)

lemma makeDirectoriesTo_ne_unusable {path : Path} (usable : path.isUsable) (depth : Nat)
    {e : FileError} (h : (fs.makeDirectoriesTo path depth).1 = .error e) :
    e.obstacle ≠ .unusable := by
  induction depth generalizing path fs with
  | zero =>
      rw [makeDirectoriesTo] at h
      split at h
      · cases h
      · next failed =>
          have not_unusable := makeDirectory_ne_unusable usable failed
          dsimp only at h
          split at h
          · cases h
            exact not_unusable
          · exact orDirectory_ne_unusable h not_unusable
  | succ depth ih =>
      rw [makeDirectoriesTo] at h
      split at h
      · cases h
      · next failed =>
          have not_unusable := makeDirectory_ne_unusable usable failed
          rw [if_neg not_unusable] at h
          split at h
          · split at h
            · next parents =>
                cases h
                exact ih (isUsable_parent usable) (congrArg Prod.fst parents)
            · split at h
              · cases h
              · next failed =>
                  have not_unusable := makeDirectory_ne_unusable usable failed
                  dsimp only at h
                  split at h
                  · cases h
                    exact not_unusable
                  · exact orDirectory_ne_unusable h not_unusable
          · exact orDirectory_ne_unusable h not_unusable

lemma makeDirectories_ne_unusable {path : Path} (usable : path.isUsable) {e : FileError}
    (h : (fs.makeDirectories path).1 = .error e) : e.obstacle ≠ .unusable :=
  makeDirectoriesTo_ne_unusable usable _ h

end ExternalFields.FileSystem
