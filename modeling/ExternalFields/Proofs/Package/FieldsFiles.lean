import ExternalFields.Package
import ExternalFields.Proofs.Files.Listing
import ExternalFields.Proofs.Files.Written

/-!
# The fields files of a package

The fields files of a package are the files that match one of two patterns below its root: those in
its own directory of fields, and those in the directories of its data streams.  They are found by
listing directories, and are put in the order of their paths.

* `Package.IsFieldsFile`: the fields files, by their places.
* `Package.IsListing`, `listing_unique`: the fields files in order, each once; there is one such
  list.
* `fieldsFilesIn_ok`, `streams_ok`: what is found in one directory.
* **`fieldsFiles_ok`**: what is found is the fields files in order.
-/

namespace ExternalFields.Package

open FileSystem

/-! ## Patterns -/

/-- Whether segments match `fields/*.yml` or `data_stream/*/fields/*.yml`. -/
def matchesPattern : List Text → Bool
  | [fields, name] => fields == "fields" && Text.endsWith name ".yml"
  | [streams, _, fields, name] =>
    streams == "data_stream" && fields == "fields" && Text.endsWith name ".yml"
  | _ => false

/-- A path from the root of a package that matches one of the patterns, with a file at its place. -/
structure IsFieldsFile (files : FileSystem) (root path : Path) : Prop where
  relative : path.root = []
  pattern : matchesPattern path.segments
  file : ∃ content, files.item? (files.destination root ++ path.segments) = some (.file content)

/-- The fields files of a package in the order of their paths, without repetition. -/
structure IsListing (files : FileSystem) (root : Path) (paths : List Path) : Prop where
  ordered : paths.Pairwise fun a b => a.before b
  complete : ∀ path, path ∈ paths ↔ IsFieldsFile files root path

lemma IsListing.nodup {files : FileSystem} {root : Path} {paths : List Path}
    (listing : IsListing files root paths) : paths.Nodup := by
  refine listing.ordered.imp fun {a b} before => ?_
  rintro rfl
  exact lt_irrefl _ (Path.before_iff.mp before)

/-- The fields files of a package have one order. -/
lemma listing_unique {files : FileSystem} {root : Path} {paths others : List Path}
    (listing : IsListing files root paths) (other : IsListing files root others) :
    paths = others := by
  have perm : paths.Perm others := (List.perm_ext_iff_of_nodup listing.nodup other.nodup).mpr
    fun path => (listing.complete path).trans (other.complete path).symm
  refine perm.eq_of_pairwise (fun a b _ _ below above => ?_) listing.ordered other.ordered
  exact absurd (Path.before_iff.mp above) (lt_asymm (Path.before_iff.mp below))

variable {files : FileSystem} {root : Path}

/-! ## Paths below the root -/

/-- A path with listed names is at the place that they spell. -/
lemma destination_join {segments : List Text} (listed : ∀ name ∈ segments, IsListed name) :
    files.destination (root.join ⟨[], segments⟩) = files.destination root ++ segments := by
  have normal : segments.map FileName.normal = segments :=
    (List.map_congr_left fun name mem => (listed name mem).normal).trans (List.map_id' segments)
  show spell (files.start root) (root.segments ++ segments) = _
  rw [spell_append, spell_names _ fun name mem => (listed name mem).name, normal]
  rfl

lemma isPlain_join (plain : root.IsPlain) {segments : List Text}
    (listed : ∀ name ∈ segments, IsListed name) : (root.join ⟨[], segments⟩).IsPlain := by
  intro segment mem
  rcases List.mem_append.mp (show segment ∈ root.segments ++ segments from mem) with mem | mem
  · exact plain segment mem
  · exact (listed segment mem).name

lemma isUsable_join (usable : root.isUsable) {segments : List Text}
    (names : ∀ name ∈ segments, FileName.isUsable name) :
    (root.join ⟨[], segments⟩).isUsable := by
  rw [Path.isUsable, List.all_eq_true] at usable ⊢
  intro segment mem
  rcases List.mem_append.mp (show segment ∈ root.segments ++ segments from mem) with mem | mem
  · exact usable segment mem
  · exact names segment mem

/-! ## Directories -/

/-- What a search in a package relies on: a tree with listed names, a root without dots that is
there, and files below it that paths can name. -/
structure IsSearchable (files : FileSystem) (root : Path) : Prop where
  tree : files.IsTree
  listable : files.IsListable
  plain : root.IsPlain
  there : files.find root = .ok .directory
  usable : ∀ place content, files.destination root <+: place →
    files.item? place = some (.file content) → ∀ name ∈ place, FileName.isUsable name

/-- What is in a directory of a package is listed there, if paths can name the directory. -/
lemma IsSearchable.mem_entries (search : IsSearchable files root) {segments : List Text}
    (usable : ∀ name ∈ segments, FileName.isUsable name) {listing : List (Text × Item)}
    (h : files.entries (root.join ⟨[], segments⟩) = .ok listing) {name : Text} {item : Item}
    (there : files.item? (files.destination root ++ segments ++ [name]) = some item) :
    (name, item) ∈ listing := by
  have listed : ∀ name ∈ segments, IsListed name := fun name mem =>
    search.listable.names _ item there name (by simp [mem])
  have directory := search.tree.above [name] item (by simp) there
  rw [isDirectoryAt_iff, ← destination_join listed] at directory
  rcases entries_ok h with ⟨tested, -⟩ | ⟨-, -, mem⟩
  · have answer := test_there search.tree (isPlain_join search.plain listed)
      (isUsable_join (isUsable_of_find search.there) usable) directory tested
    cases answer
  · rw [mem, destination_join listed]
    exact there

/-- The paths of what a listing of a directory has with the ending of fields files. -/
def candidates (segments : List Text) (listing : List (Text × Item)) : List Path :=
  ((listing.map Prod.fst).filter (Text.endsWith · ".yml")).map fun name => ⟨[], segments ++ [name]⟩

lemma mem_candidates {segments : List Text} {listing : List (Text × Item)} {path : Path} :
    path ∈ candidates segments listing ↔ ∃ name item, (name, item) ∈ listing
      ∧ Text.endsWith name ".yml" ∧ path = ⟨[], segments ++ [name]⟩ := by
  simp only [candidates, List.mem_map, List.mem_filter]
  constructor
  · rintro ⟨_, ⟨⟨⟨name, item⟩, there, rfl⟩, ends⟩, rfl⟩
    exact ⟨name, item, there, ends, rfl⟩
  · rintro ⟨name, item, there, ends, rfl⟩
    exact ⟨name, ⟨⟨_, there, rfl⟩, ends⟩, rfl⟩

/-- The fields files in a directory are those candidates that are files. -/
lemma fieldsFilesIn_filters {segments : List Text} {paths : List Path}
    (h : fieldsFilesIn files root ⟨[], segments⟩ = .ok paths) :
    ∃ listing, files.entries (root.join ⟨[], segments⟩) = .ok listing
      ∧ paths.Sublist (candidates segments listing)
      ∧ (∀ path, path ∈ paths ↔ path ∈ candidates segments listing
        ∧ files.isFile? (root.join path) = .ok true)
      ∧ ∀ path ∈ candidates segments listing,
        ∃ fits, files.isFile? (root.join path) = .ok fits := by
  simp only [fieldsFilesIn, bind_eq_ok] at h
  rcases h with ⟨listing, listing_eq, h⟩
  exact ⟨listing, listing_eq, filterM_eq_ok h⟩

/-- No fields file in a directory is found twice. -/
lemma fieldsFilesIn_nodup (listable : files.IsListable) {segments : List Text} {paths : List Path}
    (h : fieldsFilesIn files root ⟨[], segments⟩ = .ok paths) : paths.Nodup := by
  rcases fieldsFilesIn_filters h with ⟨listing, listing_eq, sublist, -⟩
  refine List.Nodup.sublist sublist (List.Nodup.map ?_ (List.Nodup.filter _ ?_))
  · intro a b same
    simpa using same
  · rcases entries_ok listing_eq with ⟨-, rfl⟩ | ⟨-, names, -⟩
    · exact List.nodup_nil
    · rw [names]
      exact names_nodup listable _

/-- **What is found in one directory** is the files there with the ending of fields files. -/
theorem fieldsFilesIn_ok (search : IsSearchable files root) {segments : List Text}
    (listed : ∀ name ∈ segments, IsListed name) {paths : List Path}
    (h : fieldsFilesIn files root ⟨[], segments⟩ = .ok paths) (path : Path) :
    path ∈ paths ↔ ∃ name content, path = ⟨[], segments ++ [name]⟩ ∧ Text.endsWith name ".yml"
      ∧ files.item? (files.destination root ++ segments ++ [name]) = some (.file content) := by
  rcases fieldsFilesIn_filters h with ⟨listing, listing_eq, -, mem, tests⟩
  have all_listed : ∀ {name item},
      files.item? (files.destination root ++ segments ++ [name]) = some item →
        ∀ other ∈ segments ++ [name], IsListed other := by
    intro name item there other mem_names
    exact search.listable.names _ item there other (by simp_all)
  rw [mem, mem_candidates]
  constructor
  · rintro ⟨⟨name, item, in_listing, ends, rfl⟩, file⟩
    have there : files.item? (files.destination root ++ segments ++ [name]) = some item := by
      rcases entries_ok listing_eq with ⟨-, rfl⟩ | ⟨-, -, mem_listing⟩
      · cases in_listing
      · rw [← destination_join listed]
        exact (mem_listing name item).mp in_listing
    rcases isFile?_ok file with ⟨content, found⟩
    have file_there := (item?_of_find found).2
    rw [destination_join (all_listed there), ← List.append_assoc] at file_there
    exact ⟨name, content, rfl, ends, file_there⟩
  · rintro ⟨name, content, rfl, ends, there⟩
    have usable : ∀ other ∈ segments ++ [name], FileName.isUsable other := fun other mem_names =>
      search.usable _ content ⟨segments ++ [name], by simp⟩ there other (by simp_all)
    have in_listing := search.mem_entries
      (fun other mem_names => usable other (List.mem_append_left _ mem_names)) listing_eq there
    have candidate : ⟨[], segments ++ [name]⟩ ∈ candidates segments listing :=
      mem_candidates.mpr ⟨name, _, in_listing, ends, rfl⟩
    rcases tests _ candidate with ⟨fits, tested⟩
    have names_listed := all_listed there
    rw [List.append_assoc, ← destination_join names_listed] at there
    have answer := test_there search.tree (isPlain_join search.plain names_listed)
      (isUsable_join (isUsable_of_find search.there) usable) there tested
    rw [answer] at tested
    exact ⟨⟨name, _, in_listing, ends, rfl⟩, tested⟩

lemma listed_fields : IsListed "fields" := ⟨by decide, by decide⟩

lemma listed_streams : ∀ name ∈ (["data_stream"] : List Text), IsListed name :=
  List.forall_mem_singleton.mpr ⟨by decide, by decide⟩

/-- The data streams of a package are the directories in one of its own. -/
lemma streams_ok (search : IsSearchable files root) {paths : List Path}
    (h : streams files root = .ok paths) :
    paths.Nodup ∧ ∀ path, path ∈ paths ↔ ∃ name, path = ⟨[], ["data_stream", name]⟩
      ∧ files.item? (files.destination root ++ (["data_stream", name] : Location))
        = some .directory := by
  simp only [streams, bind_eq_ok, pure_eq_ok] at h
  rcases h with ⟨listing, listing_eq, h⟩
  cases h
  constructor
  · have names : (listing.map Prod.fst).Nodup := by
      rcases entries_ok listing_eq with ⟨-, rfl⟩ | ⟨-, names, -⟩
      · exact List.nodup_nil
      · rw [names]
        exact names_nodup search.listable _
    have kept := names.sublist (List.Sublist.map Prod.fst
      (List.filter_sublist (p := fun entry => entry.2 == Item.directory)))
    have paths := kept.map (f := fun name => (⟨[], ["data_stream", name]⟩ : Path))
      (fun a b same => by simpa using same)
    rw [List.map_map] at paths
    exact paths
  · intro path
    simp only [List.mem_map, List.mem_filter]
    constructor
    · rintro ⟨⟨name, item⟩, ⟨in_listing, directory⟩, rfl⟩
      rcases entries_ok listing_eq with ⟨-, rfl⟩ | ⟨-, -, mem⟩
      · cases in_listing
      · have there := (mem name item).mp in_listing
        have item_eq : item = .directory := by simpa using directory
        rw [destination_join listed_streams, List.append_assoc, item_eq] at there
        exact ⟨name, rfl, there⟩
    · rintro ⟨name, rfl, there⟩
      have usable : ∀ name ∈ (["data_stream"] : List Text), FileName.isUsable name :=
        List.forall_mem_singleton.mpr (by decide)
      rw [← List.singleton_append, ← List.append_assoc] at there
      exact ⟨_, ⟨search.mem_entries usable listing_eq there, rfl⟩, rfl⟩

/-! ## Packages -/

/-- Distinct relative paths are put in their order. -/
lemma mergeSort_ordered {paths : List Path} (nodup : paths.Nodup)
    (relative : ∀ path ∈ paths, path.root = []) :
    (paths.mergeSort fun a b => !b.before a).Pairwise fun a b => a.before b := by
  have le_iff : ∀ a b : Path, (!b.before a) = true ↔ a.segments ≤ b.segments := by
    intro a b
    rw [Bool.not_eq_true', ← Bool.not_eq_true, Path.before_iff, not_lt]
  have weakly := @List.pairwise_mergeSort Path (fun a b => !b.before a)
    (fun a b c => by simpa only [le_iff] using le_trans)
    (fun a b => by simpa only [Bool.or_eq_true, le_iff] using le_total _ _) paths
  have distinct := (List.mergeSort_perm paths fun a b => !b.before a).nodup_iff.mpr nodup
  refine (weakly.and distinct).imp_of_mem fun {a b} mem_a mem_b both => ?_
  rcases both with ⟨below, different⟩
  rw [Path.before_iff]
  refine lt_of_le_of_ne ((le_iff a b).mp below) fun same => different ?_
  rw [List.mem_mergeSort] at mem_a mem_b
  have roots := (relative a mem_a).trans (relative b mem_b).symm
  cases a
  cases b
  rw [Path.mk.injEq]
  exact ⟨roots, same⟩

/-- The fields files of one data stream. -/
lemma ofStream_ok (search : IsSearchable files root) {stream : Text} {paths : List Path}
    (there : files.item? (files.destination root ++ (["data_stream", stream] : Location))
      = some .directory)
    (h : fieldsFilesIn files root ⟨[], ["data_stream", stream, "fields"]⟩ = .ok paths)
    (path : Path) :
    path ∈ paths ↔ ∃ name content, path = ⟨[], ["data_stream", stream, "fields", name]⟩
      ∧ Text.endsWith name ".yml" ∧ files.item? (files.destination root
        ++ (["data_stream", stream, "fields", name] : Location)) = some (.file content) := by
  have stream_listed := search.listable.names _ _ there stream (by simp)
  have listed : ∀ name ∈ (["data_stream", stream, "fields"] : List Text), IsListed name := by
    simp only [List.forall_mem_cons]
    exact ⟨listed_streams _ (.head _), stream_listed, listed_fields, by simp⟩
  rw [fieldsFilesIn_ok search listed h]
  simp

/-- The fields files of all data streams. -/
lemma ofStreams_ok (search : IsSearchable files root) {found : List Path}
    {ofStreams : List (List Path)} (found_eq : streams files root = .ok found)
    (h : (found.mapM fun stream => fieldsFilesIn files root (stream.join ⟨[], ["fields"]⟩))
      = .ok ofStreams) :
    ofStreams.flatten.Nodup ∧ ∀ path, path ∈ ofStreams.flatten ↔ ∃ stream name content,
      path = ⟨[], ["data_stream", stream, "fields", name]⟩ ∧ Text.endsWith name ".yml"
        ∧ files.item? (files.destination root
          ++ (["data_stream", stream, "fields", name] : Location)) = some (.file content) := by
  rcases streams_ok search found_eq with ⟨nodup, mem_found⟩
  have results := mapM_eq_ok h
  have mem_ofStreams : ∀ paths ∈ ofStreams, ∃ stream ∈ found,
      fieldsFilesIn files root (stream.join ⟨[], ["fields"]⟩) = .ok paths := by
    intro paths mem
    rw [← List.mem_map, results]
    exact List.mem_map.mpr ⟨paths, mem, rfl⟩
  constructor
  · rw [List.nodup_flatten]
    constructor
    · intro paths mem
      rcases mem_ofStreams paths mem with ⟨stream, mem_stream, of_stream⟩
      rcases (mem_found stream).mp mem_stream with ⟨name, rfl, -⟩
      exact fieldsFilesIn_nodup search.listable of_stream
    · -- two streams differ in their names, which the paths of their files hold
      have disjoint : (found.map fun stream =>
          fieldsFilesIn files root (stream.join ⟨[], ["fields"]⟩)).Pairwise fun one other =>
            ∀ paths others, one = .ok paths → other = .ok others → List.Disjoint paths others := by
        rw [List.pairwise_map]
        refine List.Pairwise.imp_of_mem (fun mem_one mem_other different => ?_) nodup
        intro paths others one_eq other_eq path mem_path mem_others
        rcases (mem_found _).mp mem_one with ⟨one, rfl, one_there⟩
        rcases (mem_found _).mp mem_other with ⟨other, rfl, other_there⟩
        rcases (ofStream_ok search one_there one_eq path).mp mem_path with ⟨_, _, rfl, -⟩
        rcases (ofStream_ok search other_there other_eq _).mp mem_others with ⟨_, _, same, -⟩
        simp_all
      rw [results, List.pairwise_map] at disjoint
      exact disjoint.imp fun each => each _ _ rfl rfl
  · intro path
    rw [List.mem_flatten]
    constructor
    · rintro ⟨paths, mem, mem_path⟩
      rcases mem_ofStreams paths mem with ⟨_, mem_stream, of_stream⟩
      rcases (mem_found _).mp mem_stream with ⟨stream, rfl, there⟩
      exact ⟨stream, (ofStream_ok search there of_stream path).mp mem_path⟩
    · rintro ⟨stream, name, content, rfl, ends, file⟩
      have there : files.item? (files.destination root
          ++ (["data_stream", stream] : Location)) = some .directory :=
        isDirectoryAt_iff.mp (search.tree.above ["fields", name] _ (by simp) (by simpa using file))
      have mem_stream := (mem_found ⟨[], ["data_stream", stream]⟩).mpr ⟨stream, rfl, there⟩
      have of_stream := List.mem_map_of_mem (f := fun stream : Path =>
        fieldsFilesIn files root (stream.join ⟨[], ["fields"]⟩)) mem_stream
      rw [results, List.mem_map] at of_stream
      rcases of_stream with ⟨paths, mem, paths_eq⟩
      exact ⟨paths, mem,
        (ofStream_ok search there paths_eq.symm _).mpr ⟨name, content, rfl, ends, file⟩⟩

/-- The fields files of a package are its own and those of its data streams. -/
lemma isFieldsFile_iff {path : Path} : IsFieldsFile files root path ↔
    (∃ name content, path = ⟨[], ["fields", name]⟩ ∧ Text.endsWith name ".yml"
      ∧ files.item? (files.destination root ++ (["fields", name] : Location))
        = some (.file content))
    ∨ ∃ stream name content, path = ⟨[], ["data_stream", stream, "fields", name]⟩
      ∧ Text.endsWith name ".yml" ∧ files.item? (files.destination root
        ++ (["data_stream", stream, "fields", name] : Location)) = some (.file content) := by
  constructor
  · rcases path with ⟨start, segments⟩
    rintro ⟨relative, pattern, content, there⟩
    rw [show start = [] from relative]
    dsimp only at pattern there
    rw [matchesPattern.eq_def] at pattern
    split at pattern
    · next fields name =>
        rw [Bool.and_eq_true, beq_iff_eq] at pattern
        rcases pattern with ⟨rfl, ends⟩
        exact .inl ⟨name, content, rfl, ends, there⟩
    · next streams stream fields name =>
        rw [Bool.and_eq_true, Bool.and_eq_true, beq_iff_eq, beq_iff_eq] at pattern
        rcases pattern with ⟨⟨rfl, rfl⟩, ends⟩
        exact .inr ⟨stream, name, content, rfl, ends, there⟩
    · cases pattern
  · rintro (⟨name, content, rfl, ends, there⟩ | ⟨stream, name, content, rfl, ends, there⟩)
    · exact ⟨rfl, by simpa [matchesPattern] using ends, content, there⟩
    · exact ⟨rfl, by simpa [matchesPattern] using ends, content, there⟩

/-- **What is found is the fields files in order.** -/
theorem fieldsFiles_ok (search : IsSearchable files root) {paths : List Path}
    (h : fieldsFiles files root = .ok paths) : IsListing files root paths := by
  simp only [fieldsFiles, bind_eq_ok, pure_eq_ok] at h
  rcases h with ⟨own, own_eq, found, found_eq, ofStreams, ofStreams_eq, h⟩
  cases h
  rcases ofStreams_ok search found_eq ofStreams_eq with ⟨streams_nodup, mem_streams⟩
  have own_nodup := fieldsFilesIn_nodup search.listable own_eq
  have mem_own := fieldsFilesIn_ok search (List.forall_mem_singleton.mpr listed_fields) own_eq
  have complete : ∀ path, path ∈ own ++ ofStreams.flatten ↔ IsFieldsFile files root path := by
    intro path
    rw [List.mem_append, mem_own, mem_streams, isFieldsFile_iff]
    simp
  refine ⟨mergeSort_ordered ?_ fun path mem => ((complete path).mp mem).relative, fun path => ?_⟩
  · refine List.nodup_append.mpr ⟨own_nodup, streams_nodup, ?_⟩
    rintro one mem_one other mem_other rfl
    rcases (mem_own one).mp mem_one with ⟨_, _, rfl, -⟩
    rcases (mem_streams _).mp mem_other with ⟨_, _, _, same, -⟩
    simp at same
  · rw [List.mem_mergeSort, complete]

end ExternalFields.Package
