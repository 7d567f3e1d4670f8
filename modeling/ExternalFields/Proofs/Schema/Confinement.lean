import ExternalFields.Proofs.Files.Spelling
import ExternalFields.Proofs.Files.Written
import ExternalFields.Proofs.Schema.CacheRuns

/-!
# Where the cache reads and writes

A version is part of the path of its cache entry, and is not looked at before.  So a retrieval reads
and writes the file that this path spells, and makes the directories that its beginnings spell
(`Retrieves.places`), wherever that is.  It is in the directory of the schema if the version is a
path that never leads above where it starts (`load_confined`); other versions lead out of the cache
(`load_outside`).

* `Store.area`: the directory of a schema in a cache.
* **`Retrieves.places`**: the places that a retrieval changes.
* `Retrieves.source`: where the content of a retrieval is from.
* **`load_confined`**: a cache stays inside its directory.
-/

namespace ExternalFields

open FileSystem

variable {σ : Type}

namespace Store

variable {store : Store} {server : Server σ} {schema reference version : Text}
  {world after : World σ} {result : Except Failure Octets}

/-! ## Entries -/

/-- The directory of a schema in a cache. -/
def area (store : Store) (schema : Text) (files : FileSystem) : Location :=
  files.destination store.root ++ [FileName.normal schema]

lemma child_no_dot {path : Path} (no_dot : ("." : Text) ∉ path.segments) (text : Text) :
    ("." : Text) ∉ (path.child text).segments := by
  rw [Path.child, Path.join]
  split
  · exact Path.ofText_no_dot text
  · rw [List.mem_append]
    exact not_or.mpr ⟨no_dot, Path.ofText_no_dot text⟩

lemma entry_no_dot (no_dot : ("." : Text) ∉ store.root.segments) (schema version : Text) :
    ("." : Text) ∉ (store.entry schema version).segments :=
  child_no_dot (child_no_dot (child_no_dot no_dot schema) version) store.file

lemma parent_no_dot {path : Path} (no_dot : ("." : Text) ∉ path.segments) :
    ("." : Text) ∉ path.parent.segments :=
  fun mem => no_dot ((List.dropLast_sublist _).subset mem)

/-- The entry of a relative version is the version seen from the directory of the schema. -/
lemma entry_eq (schema_name : Path.IsSegment schema) (file_name : Path.IsSegment store.file)
    (relative : (Path.ofText version).isAbsolute = false) :
    store.entry schema version = ⟨store.root.root,
      store.root.segments ++ ([schema] ++ (Path.ofText version).segments) ++ [store.file]⟩ := by
  have schema_eq := Path.ofText_segment schema_name
  have file_eq := Path.ofText_segment file_name
  rw [entry, Path.child_of_relative (by rw [file_eq]; rfl), Path.child_of_relative relative,
    Path.child_of_relative (by rw [schema_eq]; rfl), schema_eq, file_eq, List.append_assoc]

/-- The beginnings of the path of an entry spell places on the way to the cache, or places in the
directory of the schema. -/
lemma area_of_entry (files : FileSystem) (schema_name : Path.IsSegment schema)
    (file_name : Path.IsSegment store.file) (inner : (Path.ofText version).IsInner)
    {up : List Text} (start : up <+: (store.entry schema version).segments) :
    up <+: store.root.segments
      ∨ store.area schema files <+: spell (files.start (store.entry schema version)) up := by
  rw [entry_eq schema_name file_name inner.relative] at start ⊢
  have start_eq : files.start ⟨store.root.root, store.root.segments
      ++ ([schema] ++ (Path.ofText version).segments) ++ [store.file]⟩ = files.start store.root :=
    rfl
  rw [start_eq]
  rw [List.append_assoc, List.append_assoc, List.singleton_append] at start
  obtain shorter | longer :=
    List.prefix_or_prefix_of_prefix start (List.prefix_append store.root.segments _)
  · exact .inl shorter
  · obtain ⟨further, rfl⟩ := longer
    have further_start := (List.prefix_append_right_inj _).mp start
    cases further with
    | nil =>
        rw [List.append_nil]
        exact .inl (List.prefix_refl _)
    | cons segment rest =>
        obtain ⟨same, rest_start⟩ := List.cons_prefix_cons.mp further_start
        right
        rw [same, spell_append, spell_cons, beyond_name schema_name.name]
        have inside := Path.staysInside_concat file_name.name inner.inside
        have within : store.area schema files <+: spell (store.area schema files ++ []) rest :=
          spell_staysInside _ inside rest_start
        rwa [List.append_nil] at within

/-- An entry itself is in the directory of its schema. -/
lemma area_destination (files : FileSystem) (schema_name : Path.IsSegment schema)
    (file_name : Path.IsSegment store.file) (inner : (Path.ofText version).IsInner) :
    store.area schema files <+: files.destination (store.entry schema version) := by
  obtain short | within := area_of_entry files schema_name file_name inner (List.prefix_refl _)
  · rw [entry_eq schema_name file_name inner.relative] at short
    have length := short.length_le
    simp only [List.length_append, List.length_singleton] at length
    omega
  · exact within

/-! ## Changes -/

/-- Only a response with the status 200 brings content. -/
lemma content_eq_ok {url : Text} {reply : Reply} {content : Octets}
    (brought : reply.content schema url = .ok content) : reply = .response 200 content := by
  rw [Reply.content.eq_def] at brought
  split at brought
  · cases brought
  · cases brought
  · cases brought
    rfl
  · cases brought
  · cases brought

/-- A place on the way to an entry, where a directory was made. -/
def IsHoused (entry : Path) (before after : FileSystem) (place : Location) : Prop :=
  before.item? place = none ∧ after.item? place = some .directory
    ∧ ∃ up, up <+: entry.segments ∧ place = spell (before.start entry) up

/-- Making room for an entry makes directories on the way to it, and changes nothing else. -/
lemma housed_or_same (files : FileSystem) {entry : Path} (no_dot : ("." : Text) ∉ entry.segments)
    (place : Location) :
    (files.makeDirectories entry.parent).2.item? place = files.item? place
      ∨ IsHoused entry files (files.makeDirectories entry.parent).2 place := by
  obtain same | ⟨fresh, made, up, start, spelled⟩ :=
    @makeDirectories_spells files entry.parent (parent_no_dot no_dot) place
  · exact .inl same
  · exact .inr ⟨fresh, made, up, start.trans (List.dropLast_prefix _), spelled⟩

/-- **What a retrieval changes**: it makes directories on the way to its entry, and may write what
the server has sent to that entry.  All other places stay as they are. -/
theorem Retrieves.places (apart : server.IsApart) (tree : world.files.IsTree)
    (no_dot : ("." : Text) ∉ store.root.segments)
    (h : Retrieves store server schema reference world result after) (place : Location) :
    after.files.item? place = world.files.item? place
      ∨ ∃ version, gitReference reference = .ok version
        ∧ (IsHoused (store.entry schema version) world.files after.files place
          ∨ place = world.files.destination (store.entry schema version)
            ∧ ∃ url content, store.url version = .ok url
              ∧ (server url (asking schema reference url world)).1 = .response 200 content
              ∧ after.files.item? place = some (.file content)) := by
  -- three of the ways end after room was made, two of them without writing
  have housing : ∀ {version url : Text} {reply : Reply} {replied : World σ}
      {made : FileSystem} {housed : Except FileError Unit},
      Asks store server schema reference version url world reply replied →
      replied.files.makeDirectories (store.entry schema version).parent = (housed, made) →
        made.item? place = world.files.item? place
          ∨ IsHoused (store.entry schema version) world.files made place := by
    intro version url reply replied made housed asks room
    have places := housed_or_same world.files (entry_no_dot no_dot schema version) place
    rwa [← asks.files apart, room, asks.files apart] at places
  cases h with
  | unversioned _ => exact .inl rfl
  | unreadable _ _ => exact .inl rfl
  | cached _ _ => exact .inl rfl
  | addressless _ _ _ => exact .inl rfl
  | refused asks _ => exact .inl (by rw [asks.files apart])
  | unhoused asks _ room =>
      obtain same | housed := housing asks room
      · exact .inl same
      · exact .inr ⟨_, asks.named, .inl housed⟩
  | unkept asks _ room _ =>
      obtain same | housed := housing asks room
      · exact .inl same
      · exact .inr ⟨_, asks.named, .inl housed⟩
  | @kept version url _ _ content made written asks brought room kept =>
      obtain ⟨tree', grown⟩ := asks.makeDirectories_grows apart tree room
      obtain ⟨-, -, items⟩ := write_leaves tree' (entry_no_dot no_dot schema version) kept
      have item := items place
      rw [destination_congr grown.here] at item
      by_cases entry : place = world.files.destination (store.entry schema version)
      · rw [if_pos entry] at item
        have sent : (server url (asking schema reference url world)).1 = .response 200 content := by
          rw [asks.replied]
          exact content_eq_ok brought
        exact .inr ⟨version, asks.named, .inr ⟨entry, url, content, asks.address, sent, item⟩⟩
      · rw [if_neg entry] at item
        obtain same | ⟨fresh, directory, up⟩ := housing asks room
        · exact .inl (item.trans same)
        · exact .inr ⟨version, asks.named, .inl ⟨fresh, item.trans directory, up⟩⟩

/-! ## Sources -/

/-- **Where content is from**: the file at the entry of the version, or the server, which has just
sent it. -/
lemma Retrieves.source (apart : server.IsApart) {content : Octets}
    (h : Retrieves store server schema reference world (.ok content) after) :
    ∃ version, gitReference reference = .ok version
      ∧ (after = world ∧ world.files.read (store.entry schema version) = .ok content
        ∨ ∃ url, store.url version = .ok url ∧ after.requests = world.requests ++ [url]
          ∧ (server url (asking schema reference url world)).1 = .response 200 content) := by
  cases h with
  | @cached version _ named found =>
      exact ⟨version, named, .inl ⟨rfl, cached_eq_some.mp found⟩⟩
  | @kept version url _ replied _ _ _ asks brought _ _ =>
      have requests : replied.requests = world.requests ++ [url] := asks.requests apart
      refine ⟨version, asks.named, .inr ⟨url, asks.address, requests, ?_⟩⟩
      rw [asks.replied]
      exact content_eq_ok brought

/-- A load leaves the files and the requests of its retrieval; without a reference, which the
retrieval refuses, it has left both alone. -/
lemma load_leaves {loaded : Except Failure (Option (List Definition))}
    {obtained : Except Failure Octets} {last : World σ}
    (run : (store.retrieve server schema reference).run.run world = (obtained, last))
    (h : (store.load server schema reference).run.run world = (loaded, after)) :
    after.files = last.files ∧ after.requests = last.requests := by
  rw [load_run, run] at h
  split at h
  · next unnamed =>
      have unnamed : reference = [] := List.isEmpty_iff.mp unnamed
      subst unnamed
      cases retrieves_run run with
      | unversioned _ =>
          cases h
          exact ⟨rfl, rfl⟩
      | unreadable named _ => cases named
      | cached named _ => cases named
      | addressless named _ _ => cases named
      | refused asks _ => cases asks.named
      | unhoused asks _ _ => cases asks.named
      | unkept asks _ _ _ => cases asks.named
      | kept asks _ _ _ => cases asks.named
  · cases obtained <;> cases h <;> exact ⟨rfl, rfl⟩

/-! ## The directory of a schema -/

/-- **A cache stays inside its directory**, for versions that never lead above where they start.  A
load changes nothing outside the directory of the schema, apart from making the directories on the
way to the cache; and no file outside is ever the content that it works on. -/
theorem load_confined (apart : server.IsApart) (tree : world.files.IsTree)
    (no_dot : ("." : Text) ∉ store.root.segments) (schema_name : Path.IsSegment schema)
    (file_name : Path.IsSegment store.file)
    (inner : ∀ version, gitReference reference = .ok version → (Path.ofText version).IsInner)
    {loaded : Except Failure (Option (List Definition))}
    (h : (store.load server schema reference).run.run world = (loaded, after)) :
    (∀ place, after.files.item? place ≠ world.files.item? place →
        store.area schema world.files <+: place
          ∨ after.files.item? place = some .directory
            ∧ ∃ up, up <+: store.root.segments ∧ place = spell (world.files.start store.root) up)
      ∧ ∀ content, ((store.retrieve server schema reference).run.run world).1 = .ok content →
        (∃ place, store.area schema world.files <+: place
            ∧ world.files.item? place = some (.file content))
          ∨ ∃ url, after.requests = world.requests ++ [url]
            ∧ (server url (asking schema reference url world)).1 = .response 200 content := by
  cases run : (store.retrieve server schema reference).run.run world with
  | mk obtained last =>
      have retrieves := retrieves_run run
      obtain ⟨files, requests⟩ := load_leaves run h
      refine ⟨fun place changed => ?_, ?_⟩
      · rw [files] at changed ⊢
        obtain same | ⟨version, named, changes⟩ := retrieves.places apart tree no_dot place
        · exact absurd same changed
        · have version_inner := inner version named
          obtain ⟨-, made, up, start, rfl⟩ | ⟨rfl, -⟩ := changes
          · obtain above | within :=
              area_of_entry world.files schema_name file_name version_inner start
            · refine .inr ⟨made, up, above, ?_⟩
              rw [entry_eq schema_name file_name version_inner.relative]
              rfl
            · exact .inl within
          · exact .inl (area_destination world.files schema_name file_name version_inner)
      · rintro content rfl
        obtain ⟨version, named, ⟨-, read⟩ | ⟨url, -, requested, sent⟩⟩ := retrieves.source apart
        · exact .inl ⟨_, area_destination world.files schema_name file_name (inner version named),
            item?_of_read read⟩
        · exact .inr ⟨url, requests.trans requested, sent⟩

/-! ## Examples -/

/-- A server that sends the same octet for every address. -/
def plainServer : Server Unit := fun _ world => (.response 200 [0x61], world)

def smallStore : Store where
  root := Path.ofText "cache"

/-- A version that makes a detour within its schema leads nowhere else. -/
theorem load_confined_detour :
    let world : World Unit := { files := {}, memory := () }
    let after := ((smallStore.load plainServer ecsSchema "git@v8/../main").run.run world).2
    after.files.item? ["cache", "ecs", "main", "ecs_nested.yml"] = some (.file [0x61])
      ∧ ∀ place, after.files.item? place ≠ world.files.item? place →
        (["cache", "ecs"] : Location) <+: place ∨ after.files.item? place = some .directory := by
  intro world after
  have schema_name : Path.IsSegment ecsSchema := ⟨by decide, by decide, by decide⟩
  have file_name : Path.IsSegment smallStore.file := ⟨by decide, by decide, by decide⟩
  have inner : ∀ version, gitReference "git@v8/../main" = .ok version →
      (Path.ofText version).IsInner := by
    rintro version ⟨⟩
    exact ⟨by decide, by decide⟩
  have loaded : (smallStore.load plainServer ecsSchema "git@v8/../main").run.run world
      = (_, after) := (Prod.eta _).symm
  have confined := load_confined (fun _ _ => ⟨rfl, rfl⟩) empty_isTree (by decide) schema_name
    file_name inner loaded
  refine ⟨by decide +kernel, fun place changed => ?_⟩
  obtain within | ⟨directory, -⟩ := confined.1 place changed
  · exact .inl within
  · exact .inr directory

/-- **A version can lead out of the cache**: with enough dots in it, what the server sends is
written beside the cache, and a file that is there is taken for a schema. -/
theorem load_outside :
    let world : World Unit := { files := {}, memory := () }
    let after := ((smallStore.load plainServer ecsSchema "git@../../elsewhere").run.run world).2
    let other := after.withFiles
      (after.files.put ["elsewhere", "ecs_nested.yml"] (.file [0x62]))
    ¬ smallStore.area ecsSchema world.files <+: ["elsewhere", "ecs_nested.yml"]
      ∧ world.files.item? ["elsewhere", "ecs_nested.yml"] = none
      ∧ after.files.item? ["elsewhere", "ecs_nested.yml"] = some (.file [0x61])
      ∧ ((smallStore.retrieve plainServer ecsSchema "git@../../elsewhere").run.run other).1
        = .ok [0x62] := by
  decide +kernel

end Store

end ExternalFields
