import ExternalFields.Proofs.Files.Names
import Mathlib.Data.List.Lex
import Mathlib.Data.List.Nodup
import Mathlib.Order.Fin.Basic

/-!
# What directories list

A directory lists the names of what is there, each once and in the form that spells its place, as
long as every place is in the file system once and its names are listed ones.  New directories and
files keep to that.  What names lead to in a tree depends on nothing but what is at the place that
they spell, apart from names and paths that are too long.

* `Path.before_iff`: the order of paths is that of their lists of segments.
* `FileSystem.IsListable`: every place is there once, under listed names;
  **`makeDirectories_listable`**, **`write_listable`**: it stays so.
* `FileSystem.IsProper`: the file systems that disks keep.
* `mem_names`, `names_nodup`, **`entries_ok`**: what a directory lists.
* **`find_there`**, `test_there`: what a path without dots leads to in a tree.
-/

namespace ExternalFields

/-! ## The order of paths -/

lemma Path.segmentsBefore_iff : ∀ {a b : List Text}, segmentsBefore a b ↔ a < b
  | [], [] => by simp [segmentsBefore]
  | [], _ :: _ => by simp [segmentsBefore]
  | _ :: _, [] => by simp [segmentsBefore]
  | a :: as, b :: bs => by
      rw [segmentsBefore, List.cons_lt_cons_iff, Bool.or_eq_true, Bool.and_eq_true,
        decide_eq_true_eq, beq_iff_eq, segmentsBefore_iff]

/-- The order of paths is that of their lists of segments. -/
lemma Path.before_iff {a b : Path} : a.before b ↔ a.segments < b.segments :=
  segmentsBefore_iff

namespace FileSystem

variable {fs : FileSystem}

/-! ## Places with listed names -/

/-- A name as directories list it. -/
structure IsListed (name : Text) : Prop where
  normal : FileName.normal name = name
  name : Path.IsName name

/-- File systems in which every place is there once, under listed names. -/
structure IsListable (fs : FileSystem) : Prop where
  distinct : (fs.items.map Prod.fst).Nodup
  names : ∀ place item, fs.item? place = some item → ∀ name ∈ place, IsListed name

/-- Places are spelled with listed names, from where there are no others. -/
lemma listed_spell : ∀ {segments : List Text} {place : Location},
    (∀ name ∈ place, IsListed name) → ∀ name ∈ spell place segments, IsListed name
  | [], _, listed => listed
  | segment :: rest, place, listed => by
      rw [spell_cons]
      apply listed_spell
      intro name mem
      rw [beyond] at mem
      split at mem
      · exact listed name mem
      · next dot =>
          split at mem
          · exact listed name ((List.dropLast_sublist _).subset mem)
          · next dots =>
              obtain mem | mem := List.mem_append.mp mem
              · exact listed name mem
              · rw [List.mem_singleton.mp mem]
                exact ⟨FileName.normal_normal segment, FileName.isName_normal ⟨dot, dots⟩⟩

lemma IsListable.listed_destination (listable : fs.IsListable) (tree : fs.IsTree) (path : Path) :
    ∀ name ∈ fs.destination path, IsListed name :=
  listed_spell (listable.names _ _ (isDirectoryAt_iff.mp (tree.start path)))

/-- What is put at a place with listed names leaves it so. -/
lemma IsListable.put (listable : fs.IsListable) {place : Location} {item : Item}
    (below_root : place ≠ []) (listed : ∀ name ∈ place, IsListed name) :
    (fs.put place item).IsListable := by
  refine ⟨?_, fun other found there => ?_⟩
  · have others : ((fs.items.filter fun entry => entry.1 != place).map Prod.fst).Nodup :=
      listable.distinct.sublist (List.filter_sublist.map Prod.fst)
    refine List.nodup_cons.mpr ⟨?_, others⟩
    simp
  · rw [item?_put item below_root] at there
    split at there
    · next same => rwa [same]
    · exact listable.names other found there

/-- Making directories leaves a file system listable. -/
theorem makeDirectories_listable (listable : fs.IsListable) (tree : fs.IsTree) {path : Path}
    (no_dot : ("." : Text) ∉ path.segments) : (fs.makeDirectories path).2.IsListable := by
  refine (makeDirectoriesTo_induction (fun made => made.IsTree ∧ made.IsListable)
    (fun {now made up} _ segments so_far step => ?_) _ ⟨tree, listable⟩).2
  obtain ⟨tree_now, listable_now⟩ := so_far
  obtain ⟨fresh, made_eq⟩ := makeDirectory_spells (fun mem => no_dot (segments.subset mem)) step
  have listed := listable_now.listed_destination tree_now up
  obtain ⟨place, directory, fresh', made_eq', -⟩ := makeDirectory_ok tree_now step
  refine ⟨?_, ?_⟩
  · rw [made_eq']
    exact tree_now.put directory fresh'
  · rw [made_eq]
    exact listable_now.put (ne_nil_of_fresh fresh) listed

/-- Writing a file leaves a file system listable. -/
theorem write_listable (listable : fs.IsListable) (tree : fs.IsTree) {path : Path}
    {content : Octets} {written : FileSystem} (no_dot : ("." : Text) ∉ path.segments)
    (h : fs.write path content = .ok written) : written.IsListable := by
  obtain ⟨-, file, rfl⟩ := write_spells tree no_dot h
  exact listable.put (ne_nil_of_file file) (listable.listed_destination tree path)

/-- The file systems that disks keep: trees of listed names, which paths can name. -/
structure IsProper (fs : FileSystem) : Prop where
  tree : fs.IsTree
  listable : fs.IsListable
  names : ∀ place item, fs.item? place = some item → ∀ name ∈ place,
    name ≠ [] ∧ ('/' : CodePoint) ∉ name ∧ FileName.isUsable name

/-- A file system is proper if each of its entries is. -/
lemma isProper_of_entries (distinct : (fs.items.map Prod.fst).Nodup)
    (here : fs.isDirectoryAt fs.here)
    (each : ∀ entry ∈ fs.items, fs.isDirectoryAt entry.1.dropLast ∧ ∀ name ∈ entry.1,
      (FileName.normal name = name ∧ Path.IsName name)
        ∧ name ≠ [] ∧ ('/' : CodePoint) ∉ name ∧ FileName.isUsable name) : fs.IsProper := by
  have entry : ∀ place item, fs.item? place = some item →
      place = [] ∨ (place, item) ∈ fs.items := by
    intro place item there
    rw [item?] at there
    split at there
    · next root => exact .inl (by simpa using root)
    · rcases List.lookup_eq_some_iff.mp there with ⟨front, rest, items, -⟩
      exact .inr (by simp [items])
  refine ⟨⟨here, fun place item there => ?_⟩, ⟨distinct, fun place item there => ?_⟩,
    fun place item there => ?_⟩
  · rcases entry place item there with rfl | mem
    · rfl
    · exact (each _ mem).1
  · intro name mem_name
    rcases entry place item there with rfl | mem
    · cases mem_name
    · rcases ((each _ mem).2 name mem_name).1 with ⟨normal, name⟩
      exact ⟨normal, name⟩
  · intro name mem_name
    rcases entry place item there with rfl | mem
    · cases mem_name
    · exact ((each _ mem).2 name mem_name).2

/-! ## Listings -/

lemma lookup_isSome {place : Location} : ∀ {items : List (Location × Item)},
    (items.lookup place).isSome ↔ place ∈ items.map Prod.fst
  | [] => by simp
  | (other, item) :: rest => by
      rw [List.lookup_cons, List.map_cons, List.mem_cons]
      by_cases same : place = other
      · simp [same]
      · rw [beq_eq_false_iff_ne.mpr same]
        simp [same, lookup_isSome]

lemma names_eq (place : Location) : fs.names place = ((fs.items.map Prod.fst).filterMap fun other =>
    if other.dropLast == place && !other.isEmpty then other.getLast? else none).mergeSort
      fun a b => !(b < a) := by
  rw [List.filterMap_map]
  rfl

lemma getLast?_below {place other : Location} {name : Text} :
    (if other.dropLast == place && !other.isEmpty then other.getLast? else none) = some name
      ↔ other = place ++ [name] := by
  cases other using List.reverseRecOn with
  | nil => simp
  | append_singleton front last =>
      rw [List.dropLast_concat, List.getLast?_concat]
      simp

/-- A directory lists the names of what is there. -/
lemma mem_names {place : Location} {name : Text} :
    name ∈ fs.names place ↔ (fs.item? (place ++ [name])).isSome := by
  rw [names_eq, List.mem_mergeSort, List.mem_filterMap]
  simp only [getLast?_below, exists_eq_right]
  rw [item?, if_neg (by simp), lookup_isSome]

/-- A directory lists each name once. -/
lemma names_nodup (listable : fs.IsListable) (place : Location) : (fs.names place).Nodup := by
  rw [names_eq, (List.mergeSort_perm _ _).nodup_iff]
  refine listable.distinct.filterMap fun a b name of_a of_b => ?_
  rw [Option.mem_def, getLast?_below] at of_a of_b
  rw [of_a, of_b]

/-- What a path leads to is at the place that it spells. -/
lemma item?_of_find {path : Path} {item : Item} (found : fs.find path = .ok item) :
    fs.locate path = .ok (fs.destination path)
      ∧ fs.item? (fs.destination path) = some item := by
  rw [find, bind_eq_ok] at found
  obtain ⟨place, located, there⟩ := found
  rw [← locate_spells located]
  split at there
  · next other found => exact ⟨located, found.trans (congrArg some (Except.ok.inj there))⟩
  · cases there

lemma isUsable_of_find {path : Path} {item : Item} (found : fs.find path = .ok item) :
    path.isUsable := by
  rcases item?_of_find found with ⟨located, -⟩
  simp only [locate, bind_eq_ok] at located
  rcases located with ⟨_, check, -⟩
  exact isUsable_of_checkPath check

/-- What is asked about a path is asked about what it leads to. -/
lemma test_ok {fits : Item → Bool} {path : Path} (h : fs.test fits path = .ok true) :
    ∃ item, fs.find path = .ok item ∧ fits item := by
  rw [test] at h
  split at h
  · next item found => exact ⟨item, found, Except.ok.inj h⟩
  · split at h <;> cases h

lemma isDirectory?_ok {path : Path} (h : fs.isDirectory? path = .ok true) :
    fs.find path = .ok .directory := by
  obtain ⟨item, found, fits⟩ := test_ok h
  rw [found, beq_iff_eq.mp fits]

lemma isFile?_ok {path : Path} (h : fs.isFile? path = .ok true) :
    ∃ content, fs.find path = .ok (.file content) := by
  obtain ⟨item, found, fits⟩ := test_ok h
  cases item with
  | directory => cases fits
  | file content => exact ⟨content, found⟩

/-- **What a path is said to hold**: everything in the directory that it leads to, by name, and
nothing if it leads to none. -/
theorem entries_ok {path : Path} {listing : List (Text × Item)}
    (h : fs.entries path = .ok listing) :
    fs.isDirectory? path = .ok false ∧ listing = []
      ∨ fs.find path = .ok .directory ∧ listing.map Prod.fst = fs.names (fs.destination path)
        ∧ ∀ name item, (name, item) ∈ listing
          ↔ fs.item? (fs.destination path ++ [name]) = some item := by
  simp only [entries, bind_eq_ok] at h
  obtain ⟨directory, tested, h⟩ := h
  cases directory with
  | false =>
      cases h
      exact .inl ⟨tested, rfl⟩
  | true =>
      have found := isDirectory?_ok tested
      obtain ⟨located, -⟩ := item?_of_find found
      rw [located] at h
      cases h
      refine .inr ⟨found, ?_, fun name item => ?_⟩
      · have there : ∀ name ∈ fs.names (fs.destination path),
            ((fs.item? (fs.destination path ++ [name])).map fun item => (name, item)).map Prod.fst
              = some name := by
          intro name mem
          obtain ⟨item, there⟩ := Option.isSome_iff_exists.mp (mem_names.mp mem)
          rw [there]
          rfl
        exact (List.map_filterMap ..).trans
          ((List.filterMap_congr there).trans List.filterMap_some)
      · simp only [List.mem_filterMap, mem_names, Option.map_eq_some_iff, Prod.mk.injEq]
        constructor
        · rintro ⟨_, -, _, there, rfl, rfl⟩
          exact there
        · intro there
          exact ⟨name, Option.isSome_of_eq_some there, item, there, rfl, rfl⟩

/-! ## What names lead to -/

/-- Names lead to whatever is at the place that they spell in a tree, unless one is too long. -/
lemma follow_there (tree : fs.IsTree) : ∀ {segments : List Text} {place : Location},
    (∀ segment ∈ segments, Path.IsName segment) →
      (fs.item? (place ++ segments.map FileName.normal)).isSome →
        fs.follow place segments = if segments.any isTooLong then .error .nameTooLong
          else .ok (place ++ segments.map FileName.normal)
  | [], place, _, _ => by simp [FileSystem.follow]
  | segment :: rest, place, names, there => by
      obtain ⟨dot, dots⟩ := names segment (.head _)
      obtain ⟨item, found⟩ := Option.isSome_iff_exists.mp there
      have directory : fs.isDirectoryAt place := tree.above _ item (by simp) found
      have spelled : place ++ (segment :: rest).map FileName.normal
          = place ++ [FileName.normal segment] ++ rest.map FileName.normal := by simp
      rw [spelled] at there ⊢
      have next_there : (fs.item? (place ++ [FileName.normal segment])).isSome := by
        obtain ⟨item, there⟩ := Option.isSome_iff_exists.mp there
        by_cases last : rest = []
        · simpa [last] using Option.isSome_of_eq_some there
        · have directory := tree.above (rest.map FileName.normal) item (by simpa using last) there
          rw [isDirectoryAt_iff.mp directory]
          rfl
      rw [FileSystem.follow, enter, if_neg (by simp [directory]), if_neg dot, if_neg dots]
      by_cases long : isTooLong segment
      · simp [long]
      · rw [if_neg long, if_pos next_there]
        dsimp only
        rw [follow_there tree (fun other mem => names other (.tail _ mem)) there]
        simp [long]

/-- What a path without dots leads to in a tree, where there is something at its place. -/
lemma find_there (tree : fs.IsTree) {path : Path} (plain : path.IsPlain) {item : Item}
    (there : fs.item? (fs.destination path) = some item) :
    fs.find path = (checkPath path >>= fun _ =>
      if path.segments.any isTooLong then .error .nameTooLong else .ok item) := by
  rw [destination_of_plain plain] at there
  have followed := follow_there tree plain (Option.isSome_of_eq_some there)
  rw [find, locate]
  cases check : checkPath path with
  | error obstacle => rfl
  | ok _ =>
      rw [ok_bind, ok_bind, followed]
      split
      · rfl
      · rw [placeOf] at there
        rw [ok_bind, there]
        rfl

/-- What is asked about a path that can be used is asked about what is at its place. -/
lemma test_there (tree : fs.IsTree) {fits : Item → Bool} {path : Path} (plain : path.IsPlain)
    (usable : path.isUsable) {item : Item} {answer : Bool}
    (there : fs.item? (fs.destination path) = some item) (h : fs.test fits path = .ok answer) :
    answer = fits item := by
  have found := find_there tree plain there
  have check : checkPath path = .ok () ∨ checkPath path = .error .nameTooLong := by
    simp only [checkPath, usable, Bool.not_true, Bool.false_eq_true, ↓reduceIte]
    split
    · exact .inr rfl
    · exact .inl rfl
  have obstacle_or_item : fs.find path = .ok item ∨ fs.find path = .error .nameTooLong := by
    rw [found]
    obtain check | check := check
    · rw [check, ok_bind]
      split
      · exact .inr rfl
      · exact .inl rfl
    · rw [check]
      exact .inr rfl
  rw [test] at h
  obtain found | found := obstacle_or_item
  · rw [found] at h
    exact (Except.ok.inj h).symm
  · rw [found] at h
    cases h

end FileSystem

end ExternalFields
