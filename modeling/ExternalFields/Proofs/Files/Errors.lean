import ExternalFields.Proofs.Files.Listing

/-!
# Why operations on paths fail

An operation says that a path is unusable only of a path that is: no name may hold a null character
or be beyond all octets.  A question about a path fails only if the path is too long to be followed,
and what is there can be read unless it is a directory.

* `FileError.IsFounded`: an error that calls its path unusable only if it is.
* **`read_founded`**, **`write_founded`**, **`makeDirectories_founded`**: the errors of operations.
* `test_error`, `entries_error`: why questions about paths fail.
* `read_error`: why what is there cannot be read.
-/

namespace ExternalFields

/-- An error that calls its path unusable only if it is. -/
def FileError.IsFounded (e : FileError) : Prop :=
  e.obstacle = .unusable → e.path.isUsable = false

lemma FileError.IsFounded.of_usable {e : FileError}
    (fit : e.path.isUsable → e.obstacle ≠ .unusable) : e.IsFounded := by
  intro unusable
  by_contra usable
  exact fit (Bool.not_eq_false _ ▸ usable) unusable

namespace FileSystem

variable {fs : FileSystem} {path : Path}

/-! ## Questions -/

lemma follow_error : ∀ {segments : List Text} {place : Location} {obstacle : Obstacle},
    fs.follow place segments = .error obstacle → isAbsence obstacle ∨ obstacle = .nameTooLong
  | [], _, _, h => nomatch h
  | segment :: rest, place, obstacle, h => by
      rw [follow] at h
      split at h
      · exact follow_error h
      · next entered =>
          cases h
          simp only [enter] at entered
          split_ifs at entered <;> cases entered <;> simp [isAbsence]

/-- Where looking for something can fail: at the path itself, on the way, or at its end. -/
lemma find_fails {obstacle : Obstacle} (h : fs.find path = .error obstacle) :
    checkPath path = .error obstacle
      ∨ fs.follow (fs.start path) path.segments = .error obstacle ∨ obstacle = .missing := by
  rw [find, locate] at h
  cases check : checkPath path with
  | error other =>
      rw [check] at h
      cases h
      exact .inl rfl
  | ok =>
      rw [check, ok_bind] at h
      cases followed : fs.follow (fs.start path) path.segments with
      | error other =>
          rw [followed] at h
          cases h
          exact .inr (.inl rfl)
      | ok place =>
          rw [followed, ok_bind] at h
          split at h <;> cases h
          exact .inr (.inr rfl)

/-- A path leads to nothing because there is nothing, or because it is too long. -/
lemma find_error {obstacle : Obstacle} (h : fs.find path = .error obstacle) :
    isAbsence obstacle ∨ obstacle = .nameTooLong := by
  rcases find_fails h with check | followed | rfl
  · unfold checkPath at check
    split_ifs at check <;> cases check <;> simp [isAbsence]
  · exact follow_error followed
  · exact .inl rfl

/-- Only of a path that is too long can nothing be said. -/
lemma test_error {fits : Item → Bool} :
    FailsOnly (· = ⟨.nameTooLong, path⟩) (fs.test fits path) := by
  intro e h
  rw [test] at h
  split at h
  · cases h
  · next obstacle lost =>
      split at h
      · cases h
      · next present =>
          cases h
          rw [(find_error lost).resolve_left present]

/-- What is there can be read, unless it is a directory. -/
lemma read_error (there : fs.exists? path = .ok true) :
    FailsOnly (fun e => e = ⟨.isDirectory, path⟩ ∧ fs.find path = .ok .directory)
      (fs.read path) := by
  obtain ⟨item, found, -⟩ := test_ok there
  intro e h
  rw [read, found] at h
  cases item with
  | file content => cases h
  | directory => exact ⟨(Except.error.inj h).symm, found⟩

lemma entries_error : FailsOnly (· = ⟨.nameTooLong, path⟩) (fs.entries path) := by
  rw [entries]
  refine test_error.bind fun there _ => ?_
  cases there <;> exact .ok _

/-! ## Operations -/

lemma find_ne_unusable (usable : path.isUsable) : fs.find path ≠ .error .unusable := by
  intro h
  rcases find_fails h with check | followed | missing
  · exact checkPath_ne_unusable usable check
  · exact follow_ne_unusable followed
  · cases missing

lemma read_founded : FailsOnly FileError.IsFounded (fs.read path) := by
  intro e h
  rw [FileSystem.read] at h
  split at h
  · cases h
  · cases h
    rintro ⟨⟩
  · next obstacle lost =>
      cases h
      exact .of_usable fun usable same =>
        find_ne_unusable usable (lost.trans (congrArg Except.error same))

lemma write_founded (content : Octets) :
    FailsOnly FileError.IsFounded (fs.write path content) := by
  intro e h
  have at_path : e.path = path := by
    rw [FileSystem.write] at h
    split at h
    · split at h <;> cases h
      rfl
    · cases h
      rfl
  exact .of_usable fun usable => write_ne_unusable (at_path ▸ usable) h

lemma makeDirectory_unusable (unusable : path.isUsable = false) :
    fs.makeDirectory path = .error ⟨.unusable, path⟩ := by
  have check : checkPath path = .error .unusable := by
    rw [checkPath, unusable]
    rfl
  rw [makeDirectory, locateNew, check]
  rfl

/-- An unusable path is called so at once, before any of its parents is looked at. -/
theorem makeDirectories_founded : FailsOnly FileError.IsFounded (fs.makeDirectories path).1 := by
  intro e h
  cases usable : path.isUsable with
  | true =>
      intro unusable
      exact absurd unusable (makeDirectories_ne_unusable usable h)
  | false =>
      have same : e = ⟨.unusable, path⟩ := by
        rcases segments : path.segments with _ | ⟨segment, rest⟩
        · rw [Path.isUsable, segments] at usable
          cases usable
        · rw [makeDirectories, segments, List.length_cons, makeDirectoriesTo,
            makeDirectory_unusable usable] at h
          exact (Except.error.inj h).symm
      rw [same]
      exact fun _ => usable

end FileSystem

end ExternalFields
