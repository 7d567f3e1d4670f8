import ExternalFields.Proofs.Schema.Confinement

/-!
# One version, one entry

The entry of a version is found by reading its text as a path, and its address by putting the text
into a template.  Where both take the text to the letter (`IsVersion`), versions with addresses of
their own have entries of their own, and a cache that starts out empty never holds anything but what
the server answers for the address of the version: that is an invariant of retrievals
(`Retrieves.faithful`).  Texts that are only read as the same path share an entry
(`retrieve_shared`).

* `IsVersion`, `destination_entry`, **`entry_injective`**: versions and their entries.
* `Server.Answers`: servers with one answer for each address.
* `Store.IsFaithful`: every file of a cache is what the server answers for its version.
* **`Retrieves.faithful`**, `retrieveAll_faithful`: this is preserved by retrievals, one or many.
* **`retrieve_own`**: a retrieval brings what the server answers for its own address.
-/

namespace ExternalFields

open FileSystem

variable {σ : Type}

/-- A version whose text is a path to the letter: there is a name before, between and after its
slashes, each as directories list it. -/
structure IsVersion (version : Text) : Prop where
  exact : Path.IsExact version
  normal : ∀ segment ∈ Path.splitSlashes version, FileName.normal segment = segment

instance : DecidablePred IsVersion := fun version =>
  decidable_of_iff (Path.IsExact version
      ∧ ∀ segment ∈ Path.splitSlashes version, FileName.normal segment = segment)
    ⟨fun h => ⟨h.1, h.2⟩, fun h => ⟨h.exact, h.normal⟩⟩

/-- A server with one answer for each address, which touches neither the files nor the record of
requests. -/
structure Server.Answers (server : Server σ) (answer : Text → Reply) : Prop where
  apart : server.IsApart
  reply : ∀ url world, (server url world).1 = answer url

namespace Store

variable {store : Store} {server : Server σ} {schema reference version : Text}
  {world after : World σ} {result : Except Failure Octets} {answer : Text → Reply}

/-! ## Entries of versions -/

/-- The place of the entry of a version: its segments, in the directory of the schema. -/
lemma destination_entry (schema_name : Path.IsSegment schema)
    (file_name : Path.IsSegment store.file) (named : IsVersion version) (files : FileSystem) :
    files.destination (store.entry schema version)
      = store.area schema files ++ Path.splitSlashes version
        ++ [FileName.normal store.file] := by
  have version_eq := Path.ofText_exact named.exact
  have names : ∀ segment ∈ Path.splitSlashes version, Path.IsName segment :=
    fun segment mem => (named.exact segment mem).2
  rw [entry_eq schema_name file_name (by rw [version_eq]; rfl), version_eq, destination,
    spell_append, spell_append, spell_append, spell_names _ names, List.map_congr_left named.normal,
    List.map_id']
  rw [spell_cons, spell_nil, spell_cons, spell_nil, beyond_name schema_name.name,
    beyond_name file_name.name]
  rfl

/-- Versions with the same entry are the same, also of different schemas. -/
lemma version_of_entry {other otherVersion : Text} {files : FileSystem}
    (schema_name : Path.IsSegment schema) (other_name : Path.IsSegment other)
    (file_name : Path.IsSegment store.file) (named : IsVersion version)
    (other_named : IsVersion otherVersion)
    (same : files.destination (store.entry schema version)
      = files.destination (store.entry other otherVersion)) : version = otherVersion := by
  rw [destination_entry schema_name file_name named, destination_entry other_name file_name
    other_named, area, area] at same
  have behind := List.append_cancel_right same
  rw [List.append_assoc, List.append_assoc] at behind
  -- behind the root comes the name of the schema, one segment on either side
  have segments := List.append_cancel_left behind
  exact Path.splitSlashes_injective (List.cons.inj segments).2

/-- **Versions have entries of their own.** -/
theorem entry_injective (schema_name : Path.IsSegment schema)
    (file_name : Path.IsSegment store.file) {other : Text} (named : IsVersion version)
    (other_named : IsVersion other) {files : FileSystem}
    (same : files.destination (store.entry schema version)
      = files.destination (store.entry schema other)) : version = other :=
  version_of_entry schema_name schema_name file_name named other_named same

lemma area_prefix_entry (schema_name : Path.IsSegment schema)
    (file_name : Path.IsSegment store.file) (named : IsVersion version) (files : FileSystem) :
    store.area schema files <+: files.destination (store.entry schema version) := by
  rw [destination_entry schema_name file_name named, List.append_assoc]
  exact List.prefix_append _ _

/-! ## What a retrieval leaves -/

/-- A retrieval leaves a tree in which everything is still there. -/
lemma Retrieves.keeps (apart : server.IsApart) (tree : world.files.IsTree)
    (no_dot : ("." : Text) ∉ store.root.segments)
    (h : Retrieves store server schema reference world result after) :
    after.files.IsTree ∧ world.files.Keeps after.files := by
  have same : world.files.IsTree ∧ world.files.Keeps world.files := ⟨tree, (Extends.refl _).keeps⟩
  cases h with
  | unversioned _ => exact same
  | unreadable _ _ => exact same
  | cached _ _ => exact same
  | addressless _ _ _ => exact same
  | refused asks _ =>
      rw [asks.files apart]
      exact same
  | unhoused asks _ room =>
      obtain ⟨tree', grown⟩ := asks.makeDirectories_grows apart tree room
      exact ⟨tree', grown.keeps⟩
  | unkept asks _ room _ =>
      obtain ⟨tree', grown⟩ := asks.makeDirectories_grows apart tree room
      exact ⟨tree', grown.keeps⟩
  | @kept version _ _ _ _ made written asks _ room kept =>
      obtain ⟨tree', grown⟩ := asks.makeDirectories_grows apart tree room
      obtain ⟨written_tree, keeps, -⟩ :=
        write_leaves tree' (entry_no_dot no_dot schema version) kept
      exact ⟨written_tree, grown.keeps.trans keeps⟩

/-- Content that was obtained is at the entry of its version. -/
lemma Retrieves.read_obtained (apart : server.IsApart) (tree : world.files.IsTree)
    (no_dot : ("." : Text) ∉ store.root.segments) {content : Octets}
    (h : Retrieves store server schema reference world (.ok content) after) :
    ∃ version, gitReference reference = .ok version
      ∧ after.files.read (store.entry schema version) = .ok content := by
  cases h with
  | @cached version _ named found => exact ⟨version, named, cached_eq_some.mp found⟩
  | @kept version _ _ _ _ made written asks _ room kept =>
      obtain ⟨tree', -⟩ := asks.makeDirectories_grows apart tree room
      exact ⟨version, asks.named, read_of_write tree' (entry_no_dot no_dot schema version) kept⟩

/-- What was a file is a file after a retrieval. -/
lemma Retrieves.file (apart : server.IsApart) (tree : world.files.IsTree)
    (no_dot : ("." : Text) ∉ store.root.segments)
    (h : Retrieves store server schema reference world result after) {place : Location}
    {content : Octets} (there : world.files.item? place = some (.file content)) :
    ∃ later, after.files.item? place = some (.file later) := by
  obtain same | ⟨_, -, ⟨fresh, -⟩ | ⟨-, _, later, -, -, written⟩⟩ := h.places apart tree no_dot place
  · exact ⟨content, same.trans there⟩
  · rw [fresh] at there
    cases there
  · exact ⟨later, written⟩

/-! ## The invariant -/

/-- Every file in the directory of a schema is the entry of a version, and holds what the server
answers for the address of that version. -/
def IsFaithful (store : Store) (schema : Text) (answer : Text → Reply) (files : FileSystem) :
    Prop :=
  ∀ place content, store.area schema files <+: place →
    files.item? place = some (.file content) →
      ∃ version url, IsVersion version
        ∧ place = files.destination (store.entry schema version)
        ∧ store.url version = .ok url ∧ answer url = .response 200 content

/-- The entry of a version holds what the server answers for its address. -/
lemma IsFaithful.entry {files : FileSystem} (faithful : store.IsFaithful schema answer files)
    (schema_name : Path.IsSegment schema) (file_name : Path.IsSegment store.file)
    (named : IsVersion version) {content : Octets}
    (there : files.item? (files.destination (store.entry schema version))
      = some (.file content)) :
    ∃ url, store.url version = .ok url ∧ answer url = .response 200 content := by
  obtain ⟨other, url, other_named, place, address, answered⟩ :=
    faithful _ content (area_prefix_entry schema_name file_name named files) there
  have same := entry_injective schema_name file_name named other_named place
  subst same
  exact ⟨url, address, answered⟩

/-- What a retrieval asks of its names: its store has names to the letter, and what its reference
names is a version. -/
structure IsProper (store : Store) (schema : Text) (references : List Text) : Prop where
  no_dot : ("." : Text) ∉ store.root.segments
  schema_name : Path.IsSegment schema
  file_name : Path.IsSegment store.file
  versions : ∀ reference ∈ references, ∀ version, gitReference reference = .ok version →
    IsVersion version

/-- **A retrieval preserves the invariant**: the file that it may write holds what the server
answers for its own address. -/
theorem Retrieves.faithful (answers : server.Answers answer) (tree : world.files.IsTree)
    (proper : store.IsProper schema [reference])
    (faithful : store.IsFaithful schema answer world.files)
    (h : Retrieves store server schema reference world result after) :
    store.IsFaithful schema answer after.files := by
  obtain ⟨-, keeps⟩ := h.keeps answers.apart tree proper.no_dot
  have here := keeps.here
  intro place content within there
  rw [area, destination_congr here, ← area] at within
  obtain same | ⟨version, named, ⟨-, directory, -⟩ | ⟨rfl, url, sent, address, replied, written⟩⟩ :=
    h.places answers.apart tree proper.no_dot place
  · rw [same] at there
    obtain ⟨version, url, named, place_eq, rest⟩ := faithful place content within there
    exact ⟨version, url, named, by rw [place_eq, destination_congr here], rest⟩
  · rw [directory] at there
    cases there
  · rw [written] at there
    cases there
    refine ⟨version, url, proper.versions reference (.head _) version named, ?_, address, ?_⟩
    · rw [destination_congr here]
    · rw [← answers.reply, replied]

/-! ## Runs -/

/-- The world after some retrievals, one after the other. -/
def retrieveAll (store : Store) (server : Server σ) (schema : Text) :
    List Text → World σ → World σ
  | [], world => world
  | reference :: rest, world =>
    retrieveAll store server schema rest
      ((store.retrieve server schema reference).run.run world).2

lemma IsProper.mono {references others : List Text} (proper : store.IsProper schema references)
    (fewer : ∀ reference ∈ others, reference ∈ references) : store.IsProper schema others where
  no_dot := proper.no_dot
  schema_name := proper.schema_name
  file_name := proper.file_name
  versions reference mem := proper.versions reference (fewer reference mem)

/-- **A run preserves the invariant**, and what was a file stays one. -/
theorem retrieveAll_faithful (answers : server.Answers answer) :
    ∀ {references : List Text} {world : World σ}, store.IsProper schema references →
      world.files.IsTree → store.IsFaithful schema answer world.files →
        (store.retrieveAll server schema references world).files.IsTree
          ∧ world.files.Keeps (store.retrieveAll server schema references world).files
          ∧ store.IsFaithful schema answer
            (store.retrieveAll server schema references world).files
          ∧ ∀ place content, world.files.item? place = some (.file content) →
            ∃ later, (store.retrieveAll server schema references world).files.item? place
              = some (.file later)
  | [], _, _, tree, faithful =>
      ⟨tree, (Extends.refl _).keeps, faithful, fun _ content there => ⟨content, there⟩⟩
  | reference :: rest, world, proper, tree, faithful => by
      have proper_first : store.IsProper schema [reference] :=
        proper.mono (by simp)
      have retrieves : Retrieves store server schema reference world _ _ :=
        retrieves_run (Prod.eta _).symm
      obtain ⟨tree', keeps⟩ := retrieves.keeps answers.apart tree proper.no_dot
      have faithful' := retrieves.faithful answers tree proper_first faithful
      obtain ⟨last_tree, last_keeps, last_faithful, last_file⟩ := retrieveAll_faithful answers
        (proper.mono fun other mem => .tail _ mem) tree' faithful'
      refine ⟨last_tree, keeps.trans last_keeps, last_faithful, fun place content there => ?_⟩
      obtain ⟨later, there'⟩ := retrieves.file answers.apart tree proper.no_dot there
      exact last_file place later there'

/-- A cache without files is faithful to any server. -/
lemma faithful_of_empty {files : FileSystem}
    (empty : ∀ place content, store.area schema files <+: place →
      files.item? place ≠ some (.file content)) : store.IsFaithful schema answer files :=
  fun place content within there => absurd there (empty place content within)

/-- **A retrieval brings what the server answers for its own address**, wherever a run of retrievals
on a cache without files has come to; and that stays at the entry of its version, whatever is
retrieved later.  Versions with other addresses have other entries. -/
theorem retrieve_own (answers : server.Answers answer) {start : World σ}
    (tree : start.files.IsTree)
    (empty : ∀ place content, store.area schema start.files <+: place →
      start.files.item? place ≠ some (.file content))
    {before between : List Text}
    (proper : store.IsProper schema (before ++ reference :: between)) {content : Octets}
    (h : (store.retrieve server schema reference).run.run
      (store.retrieveAll server schema before start) = (.ok content, after)) :
    ∃ version url, gitReference reference = .ok version ∧ store.url version = .ok url
      ∧ answer url = .response 200 content
      ∧ (store.retrieveAll server schema between after).files.read (store.entry schema version)
        = .ok content
      ∧ ∀ other, IsVersion other → store.url other ≠ store.url version →
        start.files.destination (store.entry schema other)
          ≠ start.files.destination (store.entry schema version) := by
  have proper_reference : store.IsProper schema [reference] := proper.mono (by simp)
  obtain ⟨tree_now, -, faithful_now, -⟩ := retrieveAll_faithful answers
    (proper.mono fun _ mem => List.mem_append_left _ mem) tree (faithful_of_empty empty)
  have retrieves := retrieves_run h
  obtain ⟨tree_after, -⟩ := retrieves.keeps answers.apart tree_now proper.no_dot
  have faithful_after := retrieves.faithful answers tree_now proper_reference faithful_now
  obtain ⟨version, named, read⟩ := retrieves.read_obtained answers.apart tree_now proper.no_dot
  have is_version := proper_reference.versions reference (.head _) version named
  have there := item?_of_read read
  obtain ⟨url, address, answered⟩ :=
    faithful_after.entry proper.schema_name proper.file_name is_version there
  refine ⟨version, url, named, address, answered, ?_, fun other other_version different same => ?_⟩
  · obtain ⟨-, keeps, faithful_later, stays⟩ := retrieveAll_faithful answers
      (proper.mono fun _ mem => List.mem_append_right _ (.tail _ mem)) tree_after faithful_after
    obtain ⟨later, there_later⟩ := stays _ content there
    have read_later := keeps.read read there_later
    rw [← destination_congr keeps.here] at there_later
    obtain ⟨url', address', answered'⟩ :=
      faithful_later.entry proper.schema_name proper.file_name is_version there_later
    cases address.symm.trans address'
    cases answered.symm.trans answered'
    exact read_later
  · exact different (congrArg _
      (entry_injective proper.schema_name proper.file_name other_version is_version same))

/-! ## Examples -/

lemma named_isVersion {version : Text} (named : gitReference reference = .ok version)
    (is_version : IsVersion version) :
    ∀ other, gitReference reference = .ok other → IsVersion other := by
  intro other other_named
  cases named.symm.trans other_named
  exact is_version

/-- What a server answers that sends the length of each address. -/
def lengthAnswer (url : Text) : Reply := .response 200 [UInt8.ofNat url.length]

def lengthServer : Server Unit := fun url world => (lengthAnswer url, world)

/-- The second of three versions brings what the server answers for its own address. -/
theorem retrieve_own_second :
    let world := smallStore.retrieveAll lengthServer ecsSchema ["git@v8"]
      { files := {}, memory := () }
    let after := ((smallStore.retrieve lengthServer ecsSchema "git@feature/x").run.run world).2
    let last := smallStore.retrieveAll lengthServer ecsSchema ["git@main", "git@v8"] after
    ((smallStore.retrieve lengthServer ecsSchema "git@feature/x").run.run world).1 = .ok [84]
      ∧ lengthAnswer "https://raw.githubusercontent.com/elastic/ecs/feature/x/generated/ecs/ecs_nested.yml"
        = .response 200 [84]
      ∧ last.files.read (smallStore.entry ecsSchema "feature/x") = .ok [84] := by
  intro world after last
  have answers : lengthServer.Answers lengthAnswer := ⟨fun _ _ => ⟨rfl, rfl⟩, fun _ _ => rfl⟩
  have proper : smallStore.IsProper ecsSchema
      ((["git@v8"] : List Text) ++ (["git@feature/x", "git@main", "git@v8"] : List Text)) := by
    refine ⟨by decide, ⟨by decide, by decide, by decide⟩, ⟨by decide, by decide, by decide⟩, ?_⟩
    simp only [List.cons_append, List.nil_append, List.forall_mem_cons, List.not_mem_nil,
      false_implies, implies_true, and_true]
    have main := named_isVersion (by rfl : gitReference "git@main" = .ok "main") (by decide)
    have v8 := named_isVersion (by rfl : gitReference "git@v8" = .ok "v8") (by decide)
    exact ⟨v8, named_isVersion rfl (by decide : IsVersion "feature/x"), main, v8⟩
  have empty : ∀ place content, smallStore.area ecsSchema {} <+: place →
      ({} : FileSystem).item? place ≠ some (.file content) := by
    rintro place content ⟨rest, rfl⟩
    rintro ⟨⟩
  have brought : (smallStore.retrieve lengthServer ecsSchema "git@feature/x").run.run world
      = (.ok [84], after) := Prod.ext (by decide +kernel) rfl
  obtain ⟨version, url, named, address, answered, read, -⟩ :=
    retrieve_own answers empty_isTree empty proper brought
  cases named
  exact ⟨congrArg Prod.fst brought, by decide +kernel, read⟩

/-- **Texts that are read as the same path share an entry**: what was sent for the address of one
is brought for the other one, whose address has another answer. -/
theorem retrieve_shared :
    let world := smallStore.retrieveAll lengthServer ecsSchema ["git@v8"]
      { files := {}, memory := () }
    smallStore.url "v8"
        = .ok "https://raw.githubusercontent.com/elastic/ecs/v8/generated/ecs/ecs_nested.yml"
      ∧ smallStore.url "v8/"
        = .ok "https://raw.githubusercontent.com/elastic/ecs/v8//generated/ecs/ecs_nested.yml"
      ∧ ((smallStore.retrieve lengthServer ecsSchema "git@v8/").run.run world).1 = .ok [77]
      ∧ lengthAnswer "https://raw.githubusercontent.com/elastic/ecs/v8//generated/ecs/ecs_nested.yml"
        = .response 200 [78] := by
  decide +kernel

end Store

end ExternalFields
