import ExternalFields.Proofs.Schema.Versions

/-!
# Loads that run side by side

Several loads share one cache, each with its own retrieval, and take their steps in any order.
Nothing holds the others back while one of them is between missing an entry and writing it: they may
make the same directories, and write the same entry.  A request may be under way for as long as it
likes; the server answers each address in one way, so that the step that makes the request stands
for the moment at which the answer is there.

That does no harm, since all of them write the same to the same entry.  The invariant has a part
that all loads share, every entry holds the body of its address (`Store.HoldsBodies`), and a part
for each load, which says what it has got hold of at each of its stages (`Retrieval.IsSound`).  A
step of a load preserves the first part and leads on to a sound stage (`Retrieval.step_sound`); for
the other loads only what they have written or read counts, and that can be read ever after.

* `Load`, `Traffic`, `Traffic.run`: loads, some of them under way, and any order of their steps.
* **`Traffic.run_sound`**: every order preserves the invariant.
* **`Traffic.run_benign`**: entries, contents and requests of loads that run side by side.
-/

namespace ExternalFields

open FileSystem

variable {σ : Type}

/-! ## Loads under way -/

/-- A load of a version of a schema: how far its retrieval has come, and what it has requested. -/
structure Load where
  schema : Text
  reference : Text
  version : Text
  named : gitReference reference = .ok version
  stage : Retrieval := .started
  requests : List Text := []

namespace Load

/-- The next step of a load. -/
def step (store : Store) (server : Server σ) (load : Load) (world : World σ) : Load × World σ :=
  let (stage, after) :=
    Retrieval.step store server load.schema load.reference load.version load.stage world
  ({ load with
      stage, requests := load.requests ++ after.requests.drop world.requests.length }, after)

/-- The content that a load has returned. -/
def returned? (load : Load) : Option Octets :=
  match load.stage with
  | .finished (.ok content) => some content
  | _ => none

/-- What a load asks for. -/
def names (load : Load) : Text × Text := (load.schema, load.reference)

end Load

/-- Some loads, and the world that they share. -/
structure Traffic (σ : Type) where
  loads : List Load
  world : World σ

namespace Traffic

/-- One of the loads takes its next step. -/
def turn (store : Store) (server : Server σ) (traffic : Traffic σ) (i : Nat) : Traffic σ :=
  match traffic.loads[i]? with
  | none => traffic
  | some load =>
    let (load, world) := load.step store server traffic.world
    { loads := traffic.loads.set i load, world }

/-- The loads take steps in some order. -/
def run (store : Store) (server : Server σ) (order : List Nat) (traffic : Traffic σ) : Traffic σ :=
  order.foldl (turn store server) traffic

end Traffic

/-! ## What entries hold -/

namespace Store

/-- The server answers the address of a version with a body. -/
def Publishes (store : Store) (answer : Text → Reply) (version : Text) (content : Octets) : Prop :=
  ∃ url, store.url version = .ok url ∧ answer url = .response 200 content

/-- Every file at an entry of a version holds the body that the server answers its address with. -/
def HoldsBodies (store : Store) (answer : Text → Reply) (files : FileSystem) : Prop :=
  ∀ schema version content, Path.IsSegment schema → IsVersion version →
    files.item? (files.destination (store.entry schema version)) = some (.file content) →
      store.Publishes answer version content

variable {store : Store} {answer : Text → Reply} {schema version : Text} {content later : Octets}
  {files after : FileSystem}

lemma Publishes.unique (published : store.Publishes answer version content)
    (published' : store.Publishes answer version later) : content = later := by
  obtain ⟨url, address, answered⟩ := published
  obtain ⟨url', address', answered'⟩ := published'
  cases address.symm.trans address'
  cases answered.symm.trans answered'
  rfl

end Store

/-- Everything is kept, and files stay files. -/
structure FileSystem.KeepsFiles (before after : FileSystem) : Prop where
  keeps : before.Keeps after
  files : ∀ place content, before.item? place = some (.file content) →
    ∃ later, after.item? place = some (.file later)

lemma FileSystem.KeepsFiles.refl (files : FileSystem) : files.KeepsFiles files :=
  ⟨(Extends.refl files).keeps, fun _ content there => ⟨content, there⟩⟩

namespace Store

variable {store : Store} {answer : Text → Reply} {schema version : Text} {content : Octets}
  {files after : FileSystem}

/-- **What was read of an entry can be read ever after.** -/
lemma HoldsBodies.read (bodies : store.HoldsBodies answer files)
    (bodies_after : store.HoldsBodies answer after) (kept : files.KeepsFiles after)
    (schema_name : Path.IsSegment schema) (named : IsVersion version)
    (read : files.read (store.entry schema version) = .ok content) :
    after.read (store.entry schema version) = .ok content := by
  have there := item?_of_read read
  obtain ⟨later, there_later⟩ := kept.files _ content there
  have read_later := kept.keeps.read read there_later
  have published := bodies schema version content schema_name named there
  have published_later := bodies_after schema version later schema_name named
    (item?_of_read read_later)
  rwa [published.unique published_later]

lemma HoldsBodies.housed (bodies : store.HoldsBodies answer files)
    (no_dot : ("." : Text) ∉ store.root.segments) (tree : files.IsTree) (schema version : Text) :
    (files.makeDirectories (store.entry schema version).parent).2.IsTree
      ∧ files.KeepsFiles (files.makeDirectories (store.entry schema version).parent).2
      ∧ store.HoldsBodies answer
        (files.makeDirectories (store.entry schema version).parent).2 := by
  have room_no_dot := parent_no_dot (entry_no_dot no_dot schema version)
  obtain ⟨made_tree, grown⟩ := makeDirectories_grows tree (store.entry schema version).parent
  refine ⟨made_tree, ⟨grown.keeps, fun place content there => ⟨content, ?_⟩⟩, ?_⟩
  · exact (makeDirectories_file room_no_dot place content).mpr there
  · intro other otherVersion content other_name other_named there
    rw [destination_congr grown.here, makeDirectories_file room_no_dot] at there
    exact bodies other otherVersion content other_name other_named there

/-- Writing an entry changes no other one. -/
lemma HoldsBodies.written (bodies : store.HoldsBodies answer files)
    (no_dot : ("." : Text) ∉ store.root.segments) (file_name : Path.IsSegment store.file)
    (tree : files.IsTree) (schema_name : Path.IsSegment schema) (named : IsVersion version)
    (published : store.Publishes answer version content)
    (written : files.write (store.entry schema version) content = .ok after) :
    after.IsTree ∧ files.KeepsFiles after ∧ store.HoldsBodies answer after := by
  obtain ⟨after_tree, keeps, items⟩ := write_leaves tree (entry_no_dot no_dot schema version)
    written
  refine ⟨after_tree, ⟨keeps, fun place old there => ?_⟩, ?_⟩
  · rw [items place]
    split
    · exact ⟨content, rfl⟩
    · exact ⟨old, there⟩
  · intro other otherVersion held other_name other_named there
    rw [destination_congr keeps.here, items] at there
    split at there
    · next same =>
        -- the entry of another version would be elsewhere
        cases there
        rw [version_of_entry other_name schema_name file_name other_named named same]
        exact published
    · exact bodies other otherVersion held other_name other_named there

end Store

/-! ## Stages of a load -/

namespace Retrieval

/-- What a retrieval has got hold of at each of its stages. -/
inductive IsSound (store : Store) (answer : Text → Reply) (schema version : Text)
    (files : FileSystem) : Retrieval → Prop
  | started : IsSound store answer schema version files .started
  | missed {url : Text} (address : store.url version = .ok url) :
      IsSound store answer schema version files (.missed url)
  | received {content : Octets} (published : store.Publishes answer version content) :
      IsSound store answer schema version files (.received content)
  | housed {content : Octets} (published : store.Publishes answer version content) :
      IsSound store answer schema version files (.housed content)
  | returned {content : Octets} (published : store.Publishes answer version content)
      (read : files.read (store.entry schema version) = .ok content) :
      IsSound store answer schema version files (.finished (.ok content))
  | failed {failure : Failure} :
      IsSound store answer schema version files (.finished (.error failure))

/-- How many requests a retrieval has made at most. -/
def requested : Retrieval → Nat
  | .started | .missed _ => 0
  | .received _ | .housed _ | .finished _ => 1

variable {store : Store} {server : Server σ} {answer : Text → Reply}
  {schema reference version : Text} {stage next : Retrieval} {world after : World σ}

/-- Stages stay sound while entries keep what they hold. -/
lemma IsSound.mono {files later : FileSystem} (schema_name : Path.IsSegment schema)
    (named : IsVersion version) (bodies : store.HoldsBodies answer files)
    (bodies_later : store.HoldsBodies answer later) (kept : files.KeepsFiles later)
    (sound : stage.IsSound store answer schema version files) :
    stage.IsSound store answer schema version later := by
  cases sound with
  | started => exact .started
  | missed address => exact .missed address
  | received published => exact .received published
  | housed published => exact .housed published
  | returned published read =>
      exact .returned published (bodies.read bodies_later kept schema_name named read)
  | failed => exact .failed

/-- Reading the cache brings what the server publishes, or the address to ask for it. -/
lemma start_sound (schema_name : Path.IsSegment schema) (named : IsVersion version)
    (bodies : store.HoldsBodies answer world.files)
    (h : start store schema reference version world = (next, after)) :
    after.files = world.files ∧ next.IsSound store answer schema version after.files := by
  rw [start] at h
  split at h
  · cases h
    exact ⟨rfl, .failed⟩
  · next content found =>
      cases h
      have read := Store.cached_eq_some.mp found
      exact ⟨rfl, .returned (bodies schema version content schema_name named (item?_of_read read))
        read⟩
  · dsimp only at h
    split at h
    · cases h
      exact ⟨rfl, .failed⟩
    · next url address =>
        cases h
        exact ⟨rfl, .missed address⟩

lemma request_sound (answers : server.Answers answer) {url : Text}
    (address : store.url version = .ok url)
    (h : request server schema url world = (next, after)) :
    after.files = world.files ∧ next.IsSound store answer schema version after.files := by
  have replied := answers.reply url (world.requesting url)
  have same_files := (answers.apart url (world.requesting url)).1
  rw [request] at h
  generalize server url (world.requesting url) = asked at h replied same_files
  obtain ⟨reply, last⟩ := asked
  dsimp only at h replied same_files
  split at h
  · cases h
    exact ⟨same_files, .failed⟩
  · next content brought =>
      cases h
      rw [Store.content_eq_ok brought] at replied
      exact ⟨same_files, .received ⟨url, address, replied.symm⟩⟩

/-- **A step of a load preserves what entries hold**, and leads on to a sound stage. -/
lemma step_sound (answers : server.Answers answer) (no_dot : ("." : Text) ∉ store.root.segments)
    (file_name : Path.IsSegment store.file) (schema_name : Path.IsSegment schema)
    (named : IsVersion version) (tree : world.files.IsTree)
    (bodies : store.HoldsBodies answer world.files)
    (sound : stage.IsSound store answer schema version world.files)
    (h : step store server schema reference version stage world = (next, after)) :
    after.files.IsTree ∧ world.files.KeepsFiles after.files
      ∧ store.HoldsBodies answer after.files
      ∧ next.IsSound store answer schema version after.files := by
  cases sound with
  | started =>
      obtain ⟨same_files, sound⟩ := start_sound schema_name named bodies h
      rw [same_files] at sound ⊢
      exact ⟨tree, .refl _, bodies, sound⟩
  | missed address =>
      obtain ⟨same_files, sound⟩ := request_sound answers address h
      rw [same_files] at sound ⊢
      exact ⟨tree, .refl _, bodies, sound⟩
  | received published =>
      obtain ⟨made_tree, kept, made_bodies⟩ := bodies.housed no_dot tree schema version
      rw [step, house] at h
      dsimp only at h
      split at h
      · cases h
        exact ⟨made_tree, kept, made_bodies, .failed⟩
      · cases h
        exact ⟨made_tree, kept, made_bodies, .housed published⟩
  | housed published =>
      rw [step, keep] at h
      split at h
      · cases h
        exact ⟨tree, .refl _, bodies, .failed⟩
      · next written_files written =>
          cases h
          obtain ⟨written_tree, kept, written_bodies⟩ :=
            bodies.written no_dot file_name tree schema_name named published written
          have read := read_of_write tree (Store.entry_no_dot no_dot schema version) written
          exact ⟨written_tree, kept, written_bodies, .returned published read⟩
  | returned published read =>
      cases h
      exact ⟨tree, .refl _, bodies, .returned published read⟩
  | failed =>
      cases h
      exact ⟨tree, .refl _, bodies, .failed⟩

/-- A step adds a request only where the stage allows for one. -/
lemma step_requests (apart : server.IsApart)
    (h : step store server schema reference version stage world = (next, after)) :
    ∃ sent, after.requests = world.requests ++ sent
      ∧ stage.requested + sent.length ≤ next.requested := by
  have silent : after.requests = world.requests → stage.requested ≤ next.requested →
      ∃ sent, after.requests = world.requests ++ sent
        ∧ stage.requested + sent.length ≤ next.requested :=
    fun same le => ⟨[], by rw [same, List.append_nil], le⟩
  cases stage with
  | started =>
      rw [step, start] at h
      split at h
      · cases h
        exact silent rfl (Nat.zero_le _)
      · cases h
        exact silent rfl (Nat.zero_le _)
      · dsimp only at h
        split at h <;> cases h <;> exact silent rfl (Nat.zero_le _)
  | missed url =>
      have same_requests := (apart url (world.requesting url)).2
      rw [step, request] at h
      generalize server url (world.requesting url) = asked at h same_requests
      obtain ⟨reply, last⟩ := asked
      dsimp only at h same_requests
      split at h <;> cases h <;> exact ⟨[url], same_requests, Nat.le_refl 1⟩
  | received content =>
      rw [step, house] at h
      dsimp only at h
      split at h <;> cases h <;> exact silent rfl (Nat.le_refl 1)
  | housed content =>
      rw [step, keep] at h
      split at h <;> cases h <;> exact silent rfl (Nat.le_refl 1)
  | finished result =>
      cases h
      exact silent rfl (Nat.le_refl 1)

end Retrieval

/-! ## Steps of loads -/

namespace Load

variable {store : Store} {server : Server σ} {answer : Text → Reply} {load next : Load}
  {world after : World σ}

/-- A step of a load is one of its retrieval, whose requests are added to those of the load. -/
lemma step_eq (h : load.step store server world = (next, after)) :
    ∃ stage, Retrieval.step store server load.schema load.reference load.version load.stage world
        = (stage, after)
      ∧ next = { load with
          stage, requests := load.requests ++ after.requests.drop world.requests.length } := by
  rw [step] at h
  generalize Retrieval.step store server load.schema load.reference load.version load.stage world
    = stepped at h
  obtain ⟨stage, last⟩ := stepped
  cases h
  exact ⟨stage, rfl, rfl⟩

/-- A load of a version, to the letter, that has come to a sound stage by one request at most. -/
structure IsSound (store : Store) (answer : Text → Reply) (files : FileSystem) (load : Load) :
    Prop where
  schema_name : Path.IsSegment load.schema
  is_version : IsVersion load.version
  stage : load.stage.IsSound store answer load.schema load.version files
  requests : load.requests.length ≤ load.stage.requested

lemma IsSound.mono {files later : FileSystem} (bodies : store.HoldsBodies answer files)
    (bodies_later : store.HoldsBodies answer later) (kept : files.KeepsFiles later)
    (sound : load.IsSound store answer files) : load.IsSound store answer later where
  schema_name := sound.schema_name
  is_version := sound.is_version
  stage := sound.stage.mono sound.schema_name sound.is_version bodies bodies_later kept
  requests := sound.requests

/-- **A step leaves a sound load**, and entries that hold what they should. -/
lemma step_sound (answers : server.Answers answer) (no_dot : ("." : Text) ∉ store.root.segments)
    (file_name : Path.IsSegment store.file) (tree : world.files.IsTree)
    (bodies : store.HoldsBodies answer world.files) (sound : load.IsSound store answer world.files)
    (h : load.step store server world = (next, after)) :
    after.files.IsTree ∧ world.files.KeepsFiles after.files
      ∧ store.HoldsBodies answer after.files ∧ next.IsSound store answer after.files := by
  obtain ⟨stage, stepped, rfl⟩ := step_eq h
  obtain ⟨tree', kept, bodies', stage_sound⟩ := Retrieval.step_sound answers no_dot file_name
    sound.schema_name sound.is_version tree bodies sound.stage stepped
  obtain ⟨sent, requests, count⟩ := Retrieval.step_requests answers.apart stepped
  refine ⟨tree', kept, bodies', sound.schema_name, sound.is_version, stage_sound, ?_⟩
  have so_far := sound.requests
  rw [requests, List.drop_left, List.length_append]
  dsimp only
  omega

lemma IsSound.returned {files : FileSystem} {content : Octets}
    (sound : load.IsSound store answer files) (returned : load.returned? = some content) :
    store.Publishes answer load.version content
      ∧ files.read (store.entry load.schema load.version) = .ok content := by
  have stage_sound := sound.stage
  rw [returned?] at returned
  split at returned
  · next stage =>
      cases returned
      rw [stage] at stage_sound
      cases stage_sound with
      | returned published read => exact ⟨published, read⟩
  · cases returned

lemma IsSound.requests_le {files : FileSystem} (sound : load.IsSound store answer files) :
    load.requests.length ≤ 1 := by
  have requests := sound.requests
  cases stage : load.stage <;> rw [stage] at requests <;>
    simp only [Retrieval.requested] at requests <;> omega

/-- A load that finds its entry returns what it holds, without a request. -/
lemma step_of_read {content : Octets} (started : load.stage = .started)
    (read : world.files.read (store.entry load.schema load.version) = .ok content) :
    load.step store server world = ({ load with stage := .finished (.ok content) }, world) := by
  have found := Store.cached_eq_some.mpr read
  have stepped : Retrieval.step store server load.schema load.reference load.version load.stage
      world = (.finished (.ok content), world) := by
    rw [started, Retrieval.step, Retrieval.start, found]
  simp only [step, stepped, List.drop_length, List.append_nil]

lemma step_of_returned {content : Octets} (returned : load.returned? = some content) :
    load.step store server world = (load, world) := by
  rw [returned?] at returned
  split at returned
  · next stage =>
      have stepped : Retrieval.step store server load.schema load.reference load.version load.stage
          world = (load.stage, world) := by
        rw [stage, Retrieval.step]
      simp only [step, stepped, List.drop_length, List.append_nil]
  · cases returned

end Load

/-! ## Any order of steps -/

namespace Traffic

variable {store : Store} {server : Server σ} {answer : Text → Reply} {traffic : Traffic σ}

/-- The invariant: a tree whose entries hold what they should, and loads at sound stages. -/
structure IsSound (store : Store) (answer : Text → Reply) (traffic : Traffic σ) : Prop where
  tree : traffic.world.files.IsTree
  bodies : store.HoldsBodies answer traffic.world.files
  loads : ∀ load ∈ traffic.loads, load.IsSound store answer traffic.world.files

lemma turn_eq {i : Nat} {load next : Load} {after : World σ} (there : traffic.loads[i]? = some load)
    (h : load.step store server traffic.world = (next, after)) :
    traffic.turn store server i = { loads := traffic.loads.set i next, world := after } := by
  simp only [turn, there, h]

/-- **A turn preserves the invariant**, and all files. -/
lemma turn_sound (answers : server.Answers answer) (no_dot : ("." : Text) ∉ store.root.segments)
    (file_name : Path.IsSegment store.file) (sound : traffic.IsSound store answer) (i : Nat) :
    (traffic.turn store server i).IsSound store answer
      ∧ traffic.world.files.KeepsFiles (traffic.turn store server i).world.files := by
  cases there : traffic.loads[i]? with
  | none =>
      rw [turn, there]
      exact ⟨sound, .refl _⟩
  | some load =>
      cases stepped : load.step store server traffic.world with
      | mk next after =>
          rw [turn_eq there stepped]
          obtain ⟨tree, kept, bodies, next_sound⟩ := Load.step_sound answers no_dot file_name
            sound.tree sound.bodies (sound.loads load (List.mem_of_getElem? there)) stepped
          refine ⟨⟨tree, bodies, fun other mem => ?_⟩, kept⟩
          obtain unmoved | rfl := List.mem_or_eq_of_mem_set mem
          · exact (sound.loads other unmoved).mono sound.bodies bodies kept
          · exact next_sound

/-- **Every order of steps preserves the invariant.** -/
theorem run_sound (answers : server.Answers answer) (no_dot : ("." : Text) ∉ store.root.segments)
    (file_name : Path.IsSegment store.file) : ∀ (order : List Nat) {traffic : Traffic σ},
      traffic.IsSound store answer → (traffic.run store server order).IsSound store answer
  | [], _, sound => sound
  | i :: rest, _, sound =>
      run_sound answers no_dot file_name rest (turn_sound answers no_dot file_name sound i).1

lemma turn_elsewhere {i j : Nat} (other : i ≠ j) :
    (traffic.turn store server i).loads[j]? = traffic.loads[j]? := by
  rw [turn]
  split
  · rfl
  · exact List.getElem?_set_ne other

lemma run_elsewhere {j : Nat} : ∀ {order : List Nat} {traffic : Traffic σ}, j ∉ order →
    (traffic.run store server order).loads[j]? = traffic.loads[j]?
  | [], _, _ => rfl
  | i :: rest, traffic, elsewhere => by
      obtain ⟨other, elsewhere⟩ := not_or.mp (List.mem_cons.not.mp elsewhere)
      exact (run_elsewhere elsewhere).trans (turn_elsewhere (Ne.symm other))

/-- Loads go on asking for what they asked for. -/
lemma turn_names (i : Nat) :
    (traffic.turn store server i).loads.map Load.names = traffic.loads.map Load.names := by
  rw [turn]
  split
  · rfl
  · next load there =>
      have here : (traffic.loads.map Load.names)[i]? = some load.names := by
        rw [List.getElem?_map, there]
        rfl
      obtain ⟨bound, here⟩ := List.getElem?_eq_some_iff.mp here
      rw [List.map_set]
      exact (congrArg _ here.symm).trans (List.set_getElem_self bound)

lemma run_names : ∀ (order : List Nat) {traffic : Traffic σ},
    (traffic.run store server order).loads.map Load.names = traffic.loads.map Load.names
  | [], _ => rfl
  | i :: rest, _ => (run_names rest).trans (turn_names i)

lemma run_returned {j : Nat} {load : Load} {content : Octets}
    (returned : load.returned? = some content) : ∀ (order : List Nat) {traffic : Traffic σ},
      traffic.loads[j]? = some load → (traffic.run store server order).loads[j]? = some load
  | [], _, there => there
  | i :: rest, traffic, there => by
      have still_there : (traffic.turn store server i).loads[j]? = some load := by
        by_cases own : i = j
        · subst own
          rw [turn_eq there (Load.step_of_returned returned)]
          exact List.getElem?_set_self (List.getElem?_eq_some_iff.mp there).1
        · exact (turn_elsewhere own).trans there
      exact run_returned returned rest still_there

/-- **A load whose entry can be read returns it at its first step**, whatever the other loads do
before and after. -/
lemma run_late (answers : server.Answers answer) (no_dot : ("." : Text) ∉ store.root.segments)
    (file_name : Path.IsSegment store.file) {j : Nat} {load : Load} {content : Octets}
    (started : load.stage = .started) : ∀ (order : List Nat) {traffic : Traffic σ},
      traffic.IsSound store answer → traffic.loads[j]? = some load →
      traffic.world.files.read (store.entry load.schema load.version) = .ok content → j ∈ order →
      (traffic.run store server order).loads[j]?
        = some { load with stage := .finished (.ok content) }
  | i :: rest, traffic, sound, there, readable, turns => by
      by_cases own : i = j
      · -- its first step; from here on it has returned
        subst own
        refine run_returned rfl rest ?_
        rw [turn_eq there (Load.step_of_read started readable)]
        exact List.getElem?_set_self (List.getElem?_eq_some_iff.mp there).1
      · obtain ⟨sound', kept⟩ := turn_sound answers no_dot file_name sound i
        have load_sound := sound.loads load (List.mem_of_getElem? there)
        have still_readable := sound.bodies.read sound'.bodies kept load_sound.schema_name
          load_sound.is_version readable
        have still_there : (traffic.turn store server i).loads[j]? = some load :=
          (turn_elsewhere own).trans there
        have turns_later := (List.mem_cons.mp turns).resolve_left (Ne.symm own)
        exact run_late answers no_dot file_name started rest sound' still_there still_readable
          turns_later

/-- Loads that have not started, on a cache whose entries hold what they should. -/
structure IsFresh (store : Store) (answer : Text → Reply) (traffic : Traffic σ) : Prop where
  tree : traffic.world.files.IsTree
  bodies : store.HoldsBodies answer traffic.world.files
  loads : ∀ load ∈ traffic.loads, Path.IsSegment load.schema ∧ IsVersion load.version
    ∧ load.stage = .started ∧ load.requests = []

lemma IsFresh.isSound (fresh : traffic.IsFresh store answer) : traffic.IsSound store answer where
  tree := fresh.tree
  bodies := fresh.bodies
  loads load mem := by
    obtain ⟨schema_name, is_version, started, silent⟩ := fresh.loads load mem
    refine ⟨schema_name, is_version, ?_, ?_⟩
    · rw [started]
      exact .started
    · rw [started, silent]
      exact Nat.le_refl 0

/-- **Loads may run side by side.**  Let some loads of versions, written to the letter, share a
cache in which every entry holds the body that the server answers its address with, and let them
take their steps in any order.  Then entries hold nothing else at any time, what a load returns is
the body of its version, and no load makes more than one request.  A load that takes its first step
after another one for the same version has returned makes none, and returns the same. -/
theorem run_benign (answers : server.Answers answer) (no_dot : ("." : Text) ∉ store.root.segments)
    (file_name : Path.IsSegment store.file) {start : Traffic σ} (fresh : start.IsFresh store answer)
    (order : List Nat) {reached : Traffic σ}
    (reached_eq : start.run store server order = reached) :
    store.HoldsBodies answer reached.world.files
      ∧ reached.loads.map Load.names = start.loads.map Load.names
      ∧ (∀ load ∈ reached.loads, load.requests.length ≤ 1 ∧
        ∀ content, load.returned? = some content → store.Publishes answer load.version content)
      ∧ ∀ first ∈ reached.loads, ∀ content, first.returned? = some content →
        ∀ j second, start.loads[j]? = some second → second.names = first.names → j ∉ order →
          ∀ later, j ∈ later → ∃ late, (reached.run store server later).loads[j]? = some late
            ∧ late.requests = [] ∧ late.returned? = some content := by
  have sound : reached.IsSound store answer := by
    rw [← reached_eq]
    exact run_sound answers no_dot file_name order fresh.isSound
  refine ⟨sound.bodies, ?_, fun load mem => ⟨(sound.loads load mem).requests_le, fun content
    returned => ((sound.loads load mem).returned returned).1⟩, ?_⟩
  · rw [← reached_eq]
    exact run_names order
  · intro first first_mem content returned j second there same_names not_yet later turns
    have readable := ((sound.loads first first_mem).returned returned).2
    obtain ⟨same_schema, same_reference⟩ := Prod.mk.inj same_names
    have same_version : second.version = first.version := by
      have named := second.named
      rw [same_reference] at named
      exact Except.ok.inj (named.symm.trans first.named)
    rw [← same_schema, ← same_version] at readable
    obtain ⟨-, -, started, silent⟩ := fresh.loads second (List.mem_of_getElem? there)
    have still_there : reached.loads[j]? = some second := by
      rw [← reached_eq, run_elsewhere not_yet, there]
    exact ⟨_, run_late answers no_dot file_name started later sound still_there readable turns,
      silent, rfl⟩

/-! ## Examples -/

open Store

/-- A load of the common schema that has not started. -/
def ecsLoad (version : Text) : Load where
  schema := ecsSchema
  reference := gitMark ++ version
  version := version
  named := by rw [gitReference, List.isPrefixOf?_eq_some_iff_append_eq.mpr rfl]

/-- Three loads of one version, and one of another. -/
def busyTraffic : Traffic Unit where
  loads := [ecsLoad "v8", ecsLoad "v8", ecsLoad "main", ecsLoad "v8"]
  world := { files := {}, memory := () }

/-- The first two loads both miss the entry and both write it; the last one finds it. -/
theorem run_benign_busy :
    let reached := busyTraffic.run smallStore lengthServer [0, 1, 0, 1, 2, 1, 0, 0, 1]
    let last := reached.run smallStore lengthServer [2, 3]
    busyTraffic.IsFresh smallStore lengthAnswer
      ∧ reached.loads.map (fun load => (load.returned?, load.requests.length))
        = [(some [77], 1), (some [77], 1), (none, 0), (none, 0)]
      ∧ smallStore.Publishes lengthAnswer "v8" [77]
      ∧ ∃ late, last.loads[3]? = some late ∧ late.requests = [] ∧ late.returned? = some [77] := by
  intro reached last
  have answers : lengthServer.Answers lengthAnswer := ⟨fun _ _ => ⟨rfl, rfl⟩, fun _ _ => rfl⟩
  have file_name : Path.IsSegment smallStore.file := ⟨by decide, by decide, by decide⟩
  have fresh : busyTraffic.IsFresh smallStore lengthAnswer := by
    refine ⟨empty_isTree, fun _ _ _ schema_name is_version there => ?_, fun load mem => ?_⟩
    · rw [destination_entry schema_name file_name is_version] at there
      cases there
    · simp only [busyTraffic, List.mem_cons, List.not_mem_nil, or_false] at mem
      rcases mem with rfl | rfl | rfl | rfl <;>
        exact ⟨⟨by decide, by decide, by decide⟩, by decide, rfl, rfl⟩
  obtain ⟨-, -, loads, served⟩ := run_benign answers (by decide) file_name fresh
    [0, 1, 0, 1, 2, 1, 0, 0, 1] (show _ = reached from rfl)
  have returned : (("v8" : Text), (ecsLoad "v8").names, some [77])
      ∈ reached.loads.map fun load => (load.version, load.names, load.returned?) := by
    decide +kernel
  obtain ⟨first, first_mem, same⟩ := List.mem_map.mp returned
  obtain ⟨same_version, same_names, first_returned⟩ : first.version = "v8"
      ∧ first.names = (ecsLoad "v8").names ∧ first.returned? = some [77] := by
    simpa using same
  have published := (loads first first_mem).2 [77] first_returned
  rw [same_version] at published
  have late := served first first_mem [77] first_returned 3 (ecsLoad "v8") rfl same_names.symm
    (by decide) [2, 3] (by decide)
  exact ⟨fresh, by decide +kernel, published, late⟩

/-- **Texts that name the same file share an entry**: a letter, and the two halves of pairs that
stand for its octets. -/
theorem run_shared :
    let stray : Text := [FileName.strayHalf 0xC3, FileName.strayHalf 0xA9]
    let reached := Traffic.run smallStore lengthServer [0, 0, 0, 0, 1]
      { loads := [ecsLoad "é", ecsLoad stray], world := { files := {}, memory := () } }
    Path.IsExact "é" ∧ Path.IsExact stray
      ∧ (smallStore.url "é").map lengthAnswer = .ok (.response 200 [76])
      ∧ (smallStore.url stray).map lengthAnswer = .ok (.response 200 [77])
      ∧ reached.loads.map Load.returned? = [some [76], some [76]] := by
  decide +kernel

end Traffic

end ExternalFields
