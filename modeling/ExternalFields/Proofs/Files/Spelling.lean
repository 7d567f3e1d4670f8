import ExternalFields.Proofs.Files.Making

/-!
# Places spelled with dots

There are no links in a file system, so that the segments of a path spell the place it leads to, two
dots cancelling the name before them.  The path need not lead anywhere for that, and what it leads
to cannot be elsewhere.

* `FileSystem.spell`, `FileSystem.destination`: the place that segments, or a path, spell.
* **`follow_spells`**: following segments leads where they spell.
* `Path.StaysBelow`, **`spell_staysBelow`**: segments that never lead above where they start.
* **`write_spells`**, **`makeDirectories_spells`**: files are written where their path spells, and
  directories are made where its beginnings do.
* **`write_leaves`**: what writing a file leaves; `Keeps.read`: files can be read later.
-/

namespace ExternalFields

/-- Whether segments never lead above the place that is `depth` levels above where they start. -/
def Path.staysInside : ℕ → List Text → Bool
  | _, [] => true
  | depth, segment :: rest =>
    if segment = "." then staysInside depth rest
    else if segment = ".." then depth != 0 && staysInside (depth - 1) rest
    else staysInside (depth + 1) rest

/-- A name at the end leads nowhere above. -/
lemma Path.staysInside_concat {name : Text} (is_name : IsName name) :
    ∀ {depth : ℕ} {segments : List Text}, staysInside depth segments →
      staysInside depth (segments ++ [name])
  | depth, [], _ => by
      rw [List.nil_append, staysInside, if_neg is_name.1, if_neg is_name.2, staysInside]
  | depth, segment :: rest, inside => by
      rw [staysInside] at inside
      rw [List.cons_append, staysInside]
      split
      · next dot =>
          rw [if_pos dot] at inside
          exact staysInside_concat is_name inside
      · next dot =>
          rw [if_neg dot] at inside
          split
          · next dots =>
              rw [if_pos dots, Bool.and_eq_true] at inside
              rw [inside.1, Bool.true_and]
              exact staysInside_concat is_name inside.2
          · next dots =>
              rw [if_neg dots] at inside
              exact staysInside_concat is_name inside

/-- A path that starts where it is taken from, and never leads above that. -/
structure Path.IsInner (path : Path) : Prop where
  relative : path.isAbsolute = false
  inside : staysInside 0 path.segments

namespace FileSystem

variable {fs : FileSystem}

/-! ## Spelling -/

/-- The place to which a segment leads from another one. -/
def beyond (place : Location) (segment : Text) : Location :=
  if segment = "." then place
  else if segment = ".." then place.dropLast
  else place ++ [FileName.normal segment]

/-- The place that segments spell from a place on. -/
def spell (place : Location) (segments : List Text) : Location :=
  segments.foldl beyond place

/-- The place that a path spells. -/
def destination (fs : FileSystem) (path : Path) : Location :=
  spell (fs.start path) path.segments

@[simp] lemma spell_nil (place : Location) : spell place [] = place := rfl

@[simp] lemma spell_cons (place : Location) (segment : Text) (rest : List Text) :
    spell place (segment :: rest) = spell (beyond place segment) rest := rfl

@[simp] lemma spell_append (place : Location) (front rest : List Text) :
    spell place (front ++ rest) = spell (spell place front) rest :=
  List.foldl_append

lemma beyond_name {segment : Text} (name : Path.IsName segment) (place : Location) :
    beyond place segment = place ++ [FileName.normal segment] := by
  rw [beyond, if_neg name.1, if_neg name.2]

/-- Names spell themselves. -/
lemma spell_names (place : Location) : ∀ {segments : List Text},
    (∀ segment ∈ segments, Path.IsName segment) →
      spell place segments = place ++ segments.map FileName.normal
  | [], _ => by simp
  | segment :: rest, names => by
      rw [spell_cons, spell_names _ fun other mem => names other (.tail _ mem),
        beyond_name (names segment (.head _)), List.map_cons, List.append_assoc,
        List.singleton_append]

lemma destination_of_plain {path : Path} (plain : path.IsPlain) :
    fs.destination path = fs.placeOf path :=
  spell_names _ plain

lemma enter_spells {place next : Location} {segment : Text}
    (entered : fs.enter place segment = .ok next) : next = beyond place segment := by
  by_cases name : Path.IsName segment
  · rw [beyond_name name, enter_name name entered]
  · simp only [FileSystem.enter] at entered
    split at entered
    · cases entered
    · by_cases dot : segment = "."
      · rw [if_pos dot] at entered
        rw [beyond, if_pos dot]
        exact (Except.ok.inj entered).symm
      · have dots : segment = ".." := by_contra fun dots => name ⟨dot, dots⟩
        rw [if_neg dot, if_pos dots] at entered
        rw [beyond, if_neg dot, if_pos dots]
        exact (Except.ok.inj entered).symm

/-- **Following segments leads where they spell.** -/
lemma follow_spells : ∀ {segments : List Text} {place last : Location},
    fs.follow place segments = .ok last → last = spell place segments
  | [], _, _, followed => (Except.ok.inj followed).symm
  | segment :: rest, place, last, followed => by
      rw [FileSystem.follow] at followed
      split at followed
      · next next entered =>
          rw [spell_cons, ← enter_spells entered]
          exact follow_spells followed
      · cases followed

lemma locate_spells {path : Path} {place : Location} (located : fs.locate path = .ok place) :
    place = fs.destination path := by
  simp only [locate, bind_eq_ok] at located
  obtain ⟨_, -, followed⟩ := located
  exact follow_spells followed

/-- What can be read is at the place that the path spells. -/
lemma item?_of_read {path : Path} {content : Octets} (read : fs.read path = .ok content) :
    fs.item? (fs.destination path) = some (.file content) := by
  rw [read_eq_ok, find, bind_eq_ok] at read
  obtain ⟨place, located, there⟩ := read
  rw [← locate_spells located]
  split at there
  · next item found => rw [found, Except.ok.inj there]
  · cases there

/-- A new place is where its path spells, unless that ends in a single dot. -/
lemma locateNew_spells {path : Path} {place : Location} (no_dot : ("." : Text) ∉ path.segments)
    (located : fs.locateNew path = .ok place) : place = fs.destination path := by
  obtain ⟨_, ⟨empty, start⟩ | ⟨front, name, parent, segments, followed, -, last⟩⟩ :=
    locateNew_ok located
  · rw [destination, empty, spell_nil, start]
  · have dot : name ≠ "." := by
      rintro rfl
      exact no_dot (by simp [segments])
    rw [destination, segments, spell_append, ← follow_spells followed, spell_cons, spell_nil]
    obtain ⟨rfl, up⟩ | ⟨dots, -, down⟩ := last
    · rw [up, beyond, if_neg dot, if_pos rfl]
    · rw [down, beyond_name ⟨dot, dots⟩]

/-- The place of what is there is also the one that something new would have, for a path that does
not end in a single dot. -/
lemma locateNew_of_locate {path : Path} {place : Location}
    (no_dot : ("." : Text) ∉ path.segments) (located : fs.locate path = .ok place) :
    fs.locateNew path = .ok place := by
  simp only [locate, bind_eq_ok] at located
  obtain ⟨_, check, followed⟩ := located
  rw [locateNew, check, ok_bind]
  cases last : path.segments.getLast? with
  | none =>
      rw [List.getLast?_eq_none_iff.mp last] at followed
      exact followed
  | some name =>
      obtain ⟨front, segments⟩ := List.getLast?_eq_some_iff.mp last
      rw [segments, follow_append, bind_eq_ok] at followed
      obtain ⟨parent, front_followed, entered⟩ := followed
      rw [follow_singleton] at entered
      have dot : name ≠ "." := by
        rintro rfl
        exact no_dot (by simp [segments])
      dsimp only
      rw [segments, List.dropLast_concat, front_followed, ok_bind]
      simp only [enter, if_neg dot] at entered
      split_ifs at entered with directory dots long there
      · rw [if_neg directory, if_pos dots]
        exact entered
      · rw [if_neg directory, if_neg dots, if_neg long]
        exact entered

/-! ## Writing -/

/-- **Files are written where their path spells**, if there is no directory. -/
theorem write_spells (tree : fs.IsTree) {path : Path} {content : Octets} {written : FileSystem}
    (no_dot : ("." : Text) ∉ path.segments) (h : fs.write path content = .ok written) :
    fs.isDirectoryAt (fs.destination path).dropLast ∧ ¬ fs.isDirectoryAt (fs.destination path)
      ∧ written = fs.put (fs.destination path) (.file content) := by
  rw [write] at h
  split at h
  · next place located =>
      split at h
      · cases h
      · next file =>
          obtain ⟨_, _, parent, -, -, directory, -, -, place_eq⟩ :=
            locateNew_name tree located file
          rw [← locateNew_spells no_dot located]
          refine ⟨?_, file, (Except.ok.inj h).symm⟩
          rwa [place_eq, List.dropLast_concat]
  · cases h

/-- Writing over a file, or where nothing is, leaves a tree. -/
lemma IsTree.put_file (tree : fs.IsTree) {place : Location} {content : Octets}
    (directory : fs.isDirectoryAt place.dropLast) (file : ¬ fs.isDirectoryAt place) :
    (fs.put place (.file content)).IsTree := by
  have keeps : fs.Keeps (fs.put place (.file content)) := keeps_put_file file
  refine ⟨keeps.directories _ tree.here, fun other item there => keeps.directories _ ?_⟩
  rw [item?_put _ (ne_nil_of_file file)] at there
  split at there
  · next same => rwa [same]
  · exact tree.parent other item there

/-- **What writing a file leaves**: a tree in which everything is still there, with the file where
its path spells, and all other places as they were. -/
theorem write_leaves (tree : fs.IsTree) {path : Path} {content : Octets} {written : FileSystem}
    (no_dot : ("." : Text) ∉ path.segments) (h : fs.write path content = .ok written) :
    written.IsTree ∧ fs.Keeps written ∧ ∀ place, written.item? place
      = if place = fs.destination path then some (.file content) else fs.item? place := by
  obtain ⟨directory, file, rfl⟩ := write_spells tree no_dot h
  exact ⟨tree.put_file directory file, keeps_put_file file,
    fun place => item?_put _ (ne_nil_of_file file) place⟩

/-! ## Making directories -/

/-- A directory is made where its path spells, where nothing was. -/
lemma makeDirectory_spells {path : Path} {made : FileSystem}
    (no_dot : ("." : Text) ∉ path.segments) (h : fs.makeDirectory path = .ok made) :
    fs.item? (fs.destination path) = none ∧ made = fs.put (fs.destination path) .directory := by
  rw [makeDirectory] at h
  split at h
  · next place located =>
      split at h
      · cases h
      · next fresh =>
          rw [← locateNew_spells no_dot located]
          exact ⟨by simpa using fresh, (Except.ok.inj h).symm⟩
  · cases h

/-- **Directories are made where the beginnings of their path spell**, where nothing was, and all
else stays as it is. -/
theorem makeDirectories_spells {path : Path} (no_dot : ("." : Text) ∉ path.segments)
    (place : Location) :
    (fs.makeDirectories path).2.item? place = fs.item? place
      ∨ fs.item? place = none ∧ (fs.makeDirectories path).2.item? place = some .directory
        ∧ ∃ up, up <+: path.segments ∧ place = spell (fs.start path) up := by
  refine (makeDirectoriesTo_induction
    (fun made => fs.Extends made ∧ (made.item? place = fs.item? place
      ∨ fs.item? place = none ∧ made.item? place = some .directory
        ∧ ∃ up, up <+: path.segments ∧ place = spell (fs.start path) up))
    (fun {now made up} root segments sofar step => ?_) _ ⟨.refl fs, .inl rfl⟩).2
  obtain ⟨grown, so_far⟩ := sofar
  obtain ⟨fresh, rfl⟩ := makeDirectory_spells (fun mem => no_dot (segments.subset mem)) step
  have start : now.start up = fs.start path := by
    rw [FileSystem.start, FileSystem.start, Path.isAbsolute, Path.isAbsolute, root, grown.here]
  refine ⟨grown.trans (extends_put fresh), ?_⟩
  rw [item?_put _ (ne_nil_of_fresh fresh)]
  by_cases same : place = now.destination up
  · subst same
    have before : fs.item? (now.destination up) = none := by
      obtain unchanged | ⟨before, -⟩ := so_far
      · rw [← unchanged, fresh]
      · exact before
    rw [if_pos rfl]
    exact .inr ⟨before, rfl, up.segments, segments, by rw [destination, start]⟩
  · rw [if_neg same]
    exact so_far

/-- Making directories leaves all files as they are. -/
lemma makeDirectories_file {path : Path} (no_dot : ("." : Text) ∉ path.segments)
    (place : Location) (content : Octets) :
    (fs.makeDirectories path).2.item? place = some (.file content)
      ↔ fs.item? place = some (.file content) := by
  obtain same | ⟨before, made, -⟩ := makeDirectories_spells no_dot place
  · rw [same]
  · simp [before, made]

/-! ## Reading later -/

lemma Keeps.trans {first second third : FileSystem} (h₁ : first.Keeps second)
    (h₂ : second.Keeps third) : first.Keeps third where
  here := h₂.here.trans h₁.here
  directories place directory := h₂.directories place (h₁.directories place directory)
  there place there := h₂.there place (h₁.there place there)

lemma destination_congr {after : FileSystem} (here : after.here = fs.here) (path : Path) :
    after.destination path = fs.destination path := by
  rw [destination, destination, FileSystem.start, FileSystem.start, here]

lemma resolve_congr {after : FileSystem} (here : after.here = fs.here) (path : Path) :
    after.resolve path = fs.resolve path := by
  rw [resolve, resolve, FileSystem.start, FileSystem.start, here]

/-- What a path led to somewhere, it leads to what is there by then. -/
lemma Keeps.find {after : FileSystem} (keeps : fs.Keeps after) {path : Path} {item later : Item}
    (found : fs.find path = .ok item) (there : after.item? (fs.destination path) = some later) :
    after.find path = .ok later := by
  simp only [FileSystem.find, locate, bind_eq_ok] at found
  obtain ⟨place, ⟨_, usable, followed⟩, -⟩ := found
  have followed' : after.follow (after.start path) path.segments = .ok place := by
    rw [keeps.start]
    exact keeps.follow followed
  have place_eq : place = fs.destination path := follow_spells followed
  rw [FileSystem.find, locate, usable, ok_bind, followed', ok_bind, place_eq, there]
  rfl

/-- A path that led to a file leads there still, and what the file holds by then can be read. -/
lemma Keeps.read {after : FileSystem} (keeps : fs.Keeps after) {path : Path}
    {content later : Octets} (read : fs.read path = .ok content)
    (there : after.item? (fs.destination path) = some (.file later)) :
    after.read path = .ok later :=
  read_eq_ok.mpr (keeps.find (read_eq_ok.mp read) there)

/-! ## Staying inside -/

/-- Segments that stay inside spell nothing but places inside, all the way. -/
lemma spell_staysInside (area : Location) : ∀ {segments up : List Text} {below : Location},
    Path.staysInside below.length segments → up <+: segments →
      area <+: spell (area ++ below) up
  | _, [], below, _, _ => List.prefix_append area below
  | [], _ :: _, _, _, start => absurd (List.prefix_nil.mp start) (List.cons_ne_nil _ _)
  | segment :: rest, other :: up, below, inside, start => by
      obtain ⟨rfl, further⟩ := List.cons_prefix_cons.mp start
      rw [spell_cons]
      by_cases dot : other = "."
      · rw [Path.staysInside, if_pos dot] at inside
        rw [beyond, if_pos dot]
        exact spell_staysInside area inside further
      · by_cases dots : other = ".."
        · rw [Path.staysInside, if_neg dot, if_pos dots] at inside
          rw [beyond, if_neg dot, if_pos dots]
          cases below using List.reverseRecOn with
          | nil => cases inside
          | append_singleton front last =>
              rw [List.length_append, List.length_singleton] at inside
              rw [← List.append_assoc, List.dropLast_concat]
              exact spell_staysInside area inside further
        · rw [Path.staysInside, if_neg dot, if_neg dots] at inside
          rw [beyond_name ⟨dot, dots⟩, List.append_assoc]
          refine spell_staysInside area ?_ further
          rwa [List.length_append]

end FileSystem

end ExternalFields
