import ExternalFields.Manifest
import ExternalFields.Proofs.Actions
import ExternalFields.Proofs.Files.Listing
import ExternalFields.Proofs.Files.Written

/-!
# Scaffolds

A scaffold is only written where its path leads to nothing.  Between that question and the writing
the directories on the way are made, and this can change where the path leads: if one of them was
missing, and two dots lead out of it again, the path now leads to a file that was there all along
(`scaffold_over`).  Otherwise the answer still holds when the file is written
(`write_absent`, `write_absent_plain`), and no file loses its content.

* **`makeDirectories_there`**: a directory that is there is not made again.
* `scaffold_cases`: the ways that writing a scaffold can go.
* **`scaffold_changes`**: what it changes.
-/

namespace ExternalFields

namespace FileSystem

variable {fs : FileSystem}

/-! ## Directories that are there -/

/-- **A directory that is there is not made again.** -/
lemma makeDirectories_there {path : Path} (no_dot : ("." : Text) ∉ path.segments)
    (found : fs.find path = .ok .directory) : fs.makeDirectories path = (.ok (), fs) := by
  obtain ⟨located, there⟩ := item?_of_find found
  have taken : fs.makeDirectory path = .error ⟨.exists, path⟩ := by
    rw [makeDirectory, locateNew_of_locate no_dot located]
    simp [there]
  have passes : fs.orDirectory path ⟨.exists, path⟩ = .ok () := by
    simp [orDirectory, isDirectory?, test, found]
  rw [makeDirectories]
  cases path.segments.length <;> simp [makeDirectoriesTo, taken, passes]

/-! ## Questions before writing -/

/-- A path that leads nowhere, by its own question, leads to nothing. -/
lemma not_find_of_absent {path : Path} (absent : fs.exists? path = .ok false) (item : Item) :
    fs.find path ≠ .ok item := by
  intro found
  rw [exists?, test, found] at absent
  cases absent

/-- A file that is written where its path has just led to nothing is new. -/
lemma write_absent (tree : fs.IsTree) {path : Path} {content : Octets} {written : FileSystem}
    (no_dot : ("." : Text) ∉ path.segments) (absent : fs.exists? path = .ok false)
    (h : fs.write path content = .ok written) : fs.item? (fs.destination path) = none := by
  rw [write] at h
  split at h
  · next place located =>
      split at h
      · cases h
      · next file =>
          obtain ⟨front, name, parent, segments, followed, directory, dots, short, place_eq⟩ :=
            locateNew_name tree located file
          rw [← locateNew_spells no_dot located]
          by_contra there
          have dot : name ≠ "." := by
            rintro rfl
            exact no_dot (by simp [segments])
          have entered : fs.enter parent name = .ok place := by
            simp [enter, directory, dot, dots, short, ← place_eq, Option.isSome_iff_ne_none, there]
          obtain ⟨item, there⟩ := Option.ne_none_iff_exists'.mp there
          refine not_find_of_absent absent item ?_
          rw [find, locate, (locateNew_ok located).1, ok_bind, segments, follow_concat followed,
            entered, ok_bind, there]
          rfl
  · cases h

/-- A file that is written where its path led to nothing in another file system is new there, if no
part of the path leads up. -/
lemma write_absent_plain (tree : fs.IsTree) {now written : FileSystem} {path : Path}
    {content : Octets} (plain : path.IsPlain) (absent : fs.exists? path = .ok false)
    (h : now.write path content = .ok written) : fs.item? (fs.destination path) = none := by
  by_contra there
  obtain ⟨item, there⟩ := Option.ne_none_iff_exists'.mp there
  have found := find_there tree plain there
  rw [checkPath_of_write h, ok_bind] at found
  split at found
  · rw [exists?, test, found] at absent
    cases absent
  · exact not_find_of_absent absent item found

end FileSystem

open FileSystem

namespace Manifest

variable {σ : Type} {world after : World σ} {path : Path} {result : Except Failure Path}

/-- The octets of the template. -/
def templateOctets : Octets := Utf8.encode template

/-- **The ways that writing a scaffold can go**: it fails before anything is written, perhaps after
making directories; or the path led nowhere, and the file is written. -/
lemma scaffold_cases (h : (scaffold path).run.run world = (result, after)) :
    (∃ failure, result = .error failure ∧ (after.files = world.files
        ∨ after.files = (world.files.makeDirectories path.parent).2))
      ∨ result = .ok (after.files.resolve path) ∧ world.files.exists? path = .ok false
        ∧ (world.files.makeDirectories path.parent).2.write path templateOctets
          = .ok after.files := by
  rw [scaffold, Action.run_bind, Action.run_files] at h
  dsimp only at h
  rw [Action.run_bind, Action.run_ofExcept] at h
  rcases asked : world.files.exists? path with e | _ | _
  · rw [asked] at h
    cases h
    exact .inl ⟨_, rfl, .inl rfl⟩
  · rw [asked] at h
    simp only [Except.mapError, Bool.false_eq_true, ↓reduceIte] at h
    rw [Action.run_bind, Action.run_makeDirectories] at h
    rcases room : world.files.makeDirectories path.parent with ⟨e | _, made⟩
    · rw [room] at h
      cases h
      exact .inl ⟨_, rfl, .inr rfl⟩
    · rw [room] at h
      dsimp only [Except.mapError] at h
      rw [Action.run_bind, Action.run_write] at h
      rcases written : (world.withFiles made).files.write path (Utf8.encode template)
        with e | files
      · rw [written] at h
        cases h
        exact .inl ⟨_, rfl, .inr rfl⟩
      · rw [written] at h
        dsimp only at h
        have usable : path.isUsable := isUsable_of_checkPath (checkPath_of_write written)
        rw [Action.run_bind, Action.run_files] at h
        dsimp only at h
        rw [Action.run_ofExcept, absolute, if_pos usable] at h
        cases h
        exact .inr ⟨rfl, rfl, written⟩
  · rw [asked] at h
    cases h
    exact .inl ⟨_, rfl, .inl rfl⟩

/-- **Writing a scaffold keeps what is there**, unless a missing directory stands before two dots in
its path.  If it fails, all that is new are directories.  It succeeds only if the path led nowhere;
then the file is where the path spells, other places are as they were or are new directories, and
the file is new if no part of the path leads up, or if the directory that it is in was there. -/
theorem scaffold_changes {text : Text} (tree : world.files.IsTree)
    (h : (scaffold (Path.ofText text)).run.run world = (result, after)) :
    (∀ failure, result = .error failure →
        world.files.Extends after.files ∧
        ∀ place content, after.files.item? place = some (.file content) →
          world.files.item? place = some (.file content)) ∧
    ∀ absolute, result = .ok absolute →
      absolute = world.files.resolve (Path.ofText text) ∧
      (∀ item, world.files.find (Path.ofText text) ≠ .ok item) ∧
      after.files.item? (world.files.destination (Path.ofText text))
        = some (.file templateOctets) ∧
      after.files.read (Path.ofText text) = .ok templateOctets ∧
      (∀ place, place ≠ world.files.destination (Path.ofText text) →
        after.files.item? place = world.files.item? place ∨
          world.files.item? place = none ∧ after.files.item? place = some .directory) ∧
      ((".." : Text) ∉ (Path.ofText text).segments ∨
          world.files.find (Path.ofText text).parent = .ok .directory →
        world.files.item? (world.files.destination (Path.ofText text)) = none ∧
          world.files.Extends after.files) := by
  have no_dot := Path.ofText_no_dot text
  generalize Path.ofText text = path at no_dot h ⊢
  have no_dot_parent : ("." : Text) ∉ path.parent.segments :=
    fun mem => no_dot ((List.dropLast_sublist _).subset mem)
  obtain ⟨made_tree, grown⟩ := makeDirectories_grows tree path.parent
  obtain ⟨failure, rfl, unchanged | made⟩ | ⟨rfl, absent, written⟩ := scaffold_cases h
  · refine ⟨fun _ _ => ?_, by rintro _ ⟨⟩⟩
    rw [unchanged]
    exact ⟨.refl _, fun _ _ there => there⟩
  · refine ⟨fun _ _ => ?_, by rintro _ ⟨⟩⟩
    rw [made]
    exact ⟨grown, fun place content => (makeDirectories_file no_dot_parent place content).mp⟩
  · refine ⟨by rintro _ ⟨⟩, fun absolute same => ?_⟩
    cases same
    obtain ⟨-, keeps, items⟩ := write_leaves made_tree no_dot written
    rw [destination_congr grown.here] at items
    have here : after.files.here = world.files.here := keeps.here.trans grown.here
    refine ⟨?_, not_find_of_absent absent, ?_, read_of_write made_tree no_dot written,
      fun place elsewhere => ?_, fun stays => ?_⟩
    · exact resolve_congr here _
    · rw [items, if_pos rfl]
    · rw [items, if_neg elsewhere]
      exact (makeDirectories_spells no_dot_parent place).imp_right fun new => ⟨new.1, new.2.1⟩
    · have fresh : world.files.item? (world.files.destination path) = none := by
        obtain down | housed := stays
        · have plain : path.IsPlain := fun segment mem =>
            ⟨fun dot => no_dot (dot ▸ mem), fun dots => down (dots ▸ mem)⟩
          exact write_absent_plain tree plain absent written
        · rw [makeDirectories_there no_dot_parent housed] at written
          exact write_absent tree no_dot absent written
      refine ⟨fresh, here, fun place item there => ?_⟩
      rw [items, if_neg]
      · exact grown.kept place item there
      · rintro rfl
        rw [fresh] at there
        cases there

/-! ## Examples -/

/-- A package with one file. -/
def bareWorld : World Unit where
  files := { items := [(["fields.yml"], .file [0x61])] }
  memory := ()

lemma bareWorld_tree : bareWorld.files.IsTree :=
  (isProper_of_entries (by decide) (by decide) (by decide +kernel)).tree

/-- A scaffold in directories that have to be made leaves the file as it is. -/
theorem scaffold_changes_bare :
    let after := ((scaffold (Path.ofText "_dev//./build/build.yml")).run.run bareWorld).2
    bareWorld.files.item? ["_dev", "build", "build.yml"] = none ∧
      after.files.item? ["_dev", "build", "build.yml"] = some (.file templateOctets) ∧
      after.files.item? ["fields.yml"] = some (.file [0x61]) := by
  intro after
  have run : (scaffold (Path.ofText "_dev//./build/build.yml")).run.run bareWorld
      = (.ok (Path.ofText "/_dev/build/build.yml"), after) :=
    Prod.ext (by decide +kernel) rfl
  obtain ⟨-, -, written, -, -, new⟩ := (scaffold_changes bareWorld_tree run).2 _ rfl
  obtain ⟨fresh, grown⟩ := new (.inl (by decide))
  exact ⟨fresh, written, grown.kept _ _ rfl⟩

/-- **A scaffold can be written over a file**: a directory that is missing before two dots is made,
and then the path leads to the file beside it. -/
theorem scaffold_over :
    let path := Path.ofText "missing/../fields.yml"
    let run := (scaffold path).run.run bareWorld
    bareWorld.files.exists? path = .ok false ∧
      run.1 = .ok (Path.ofText "/fields.yml") ∧
      bareWorld.files.item? ["fields.yml"] = some (.file [0x61]) ∧
      run.2.files.item? ["fields.yml"] = some (.file templateOctets) := by
  intro path run
  have succeeds : run.1 = .ok (Path.ofText "/fields.yml") := by decide +kernel
  refine ⟨by decide +kernel, succeeds, rfl, ?_⟩
  obtain ⟨failure, fails, -⟩ | ⟨-, -, written⟩ := scaffold_cases (rfl : run = (run.1, run.2))
  · cases succeeds.symm.trans fails
  · obtain ⟨made_tree, grown⟩ := makeDirectories_grows bareWorld_tree path.parent
    obtain ⟨-, -, items⟩ := write_leaves made_tree (Path.ofText_no_dot _) written
    rw [destination_congr grown.here] at items
    exact (items ["fields.yml"]).trans (if_pos (by decide))

end Manifest

end ExternalFields
