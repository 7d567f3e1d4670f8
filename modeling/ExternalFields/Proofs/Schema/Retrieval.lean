import ExternalFields.Proofs.Files.Making
import ExternalFields.Schema.Store

/-!
# The ways a retrieval can go

`Store.retrieve` runs four steps, each of which may end the retrieval.  `Store.Retrieves` lists what
can come of that, with everything that was seen on the way, and what follows is read off that list.

* `Store.Retrieves`: the results of a retrieval, and the worlds it leaves.
* **`retrieves_run`**: these are all there are.
* **`Retrieves.grows`**: where no path has dots, nothing that is there is touched.
* `Retrieves.requests`: one address is requested at most, of a version that the cache misses.
* **`Retrieves.read_entry`**: content that was obtained is in the cache.
* `Retrieves.of_read`: content that is in the cache is all there is to a retrieval.
* `Retrieves.read_downloaded`: content that was downloaded is in the cache, unless the cache failed.
* `load_run`: a load is a retrieval whose content is then read.
-/

namespace ExternalFields

variable {σ : Type}

/-- A server that answers without touching the files, or the record of requests. -/
def Server.IsApart (server : Server σ) : Prop :=
  ∀ url world, (server url world).2.files = world.files
    ∧ (server url world).2.requests = world.requests

/-- The failures of reading or writing the cache. -/
def Failure.IsOfCache : Failure → Prop
  | .schema (.cacheUnreadable _) | .schema (.cacheNotMade _) | .schema (.cacheUnwritable _) => True
  | _ => False

namespace Store

variable {store : Store} {server : Server σ} {schema reference version : Text}
  {world after : World σ}

/-- A reference that names a version is not empty. -/
lemma reference_ne_nil (named : gitReference reference = .ok version) : reference ≠ [] := by
  rintro rfl
  cases named

/-! ## The worlds on the way -/

/-- The world in which the address of a schema is worked out. -/
def pulling (schema reference : Text) (world : World σ) : World σ :=
  world.logging logName ("Pulling " ++ schema ++ " dependency using reference: " ++ reference)

/-- The world that a request is made in. -/
def asking (schema reference url : Text) (world : World σ) : World σ :=
  ((pulling schema reference world).logging logName ("Schema URL: " ++ url)).requesting url

/-- The world in which room is made for what was downloaded. -/
def downloaded (content : Octets) (world : World σ) : World σ :=
  world.logging logName ("Downloaded " ++ Text.ofNat content.length ++ " bytes")

/-- The world in which what was downloaded is written. -/
def housed (entry : Path) (files : FileSystem) (world : World σ) : World σ :=
  (world.withFiles files).logging logName ("Cache downloaded schema: " ++ entry.text)

/-! ## Outcomes -/

/-- A retrieval up to the reply of the server: the schema is not in the cache, and is requested. -/
structure Asks (store : Store) (server : Server σ) (schema reference version url : Text)
    (world : World σ) (reply : Reply) (replied : World σ) : Prop where
  named : gitReference reference = .ok version
  missing : cached world.files (store.entry schema version) = .ok none
  address : store.url version = .ok url
  replied : server url (asking schema reference url world) = (reply, replied)

/-- The ways a retrieval can go, with its result and the world it leaves. -/
inductive Retrieves (store : Store) (server : Server σ) (schema reference : Text)
    (world : World σ) : Except Failure Octets → World σ → Prop where
  /-- The reference names no version. -/
  | unversioned {e : ConfigurationError} :
      gitReference reference = .error e →
        Retrieves store server schema reference world (.error (.configuration e)) world
  /-- The cache entry is in the way. -/
  | unreadable {version : Text} {failure : Failure} :
      gitReference reference = .ok version →
      cached world.files (store.entry schema version) = .error failure →
        Retrieves store server schema reference world (.error failure) world
  /-- The schema is in the cache. -/
  | cached {version : Text} {content : Octets} :
      gitReference reference = .ok version →
      cached world.files (store.entry schema version) = .ok (some content) →
        Retrieves store server schema reference world (.ok content) world
  /-- The schema is not in the cache, and its address cannot be worked out. -/
  | addressless {version : Text} {problem : Template.Problem} :
      gitReference reference = .ok version →
      cached world.files (store.entry schema version) = .ok none →
      store.url version = .error problem →
        Retrieves store server schema reference world (.error (.template problem))
          (pulling schema reference world)
  /-- The server brings no content. -/
  | refused {version url : Text} {reply : Reply} {replied : World σ} {failure : Failure} :
      Asks store server schema reference version url world reply replied →
      reply.content schema url = .error failure →
        Retrieves store server schema reference world (.error failure) replied
  /-- There is no room for the content. -/
  | unhoused {version url : Text} {reply : Reply} {replied : World σ} {content : Octets}
      {e : FileError} {made : FileSystem} :
      Asks store server schema reference version url world reply replied →
      reply.content schema url = .ok content →
      replied.files.makeDirectories (store.entry schema version).parent = (.error e, made) →
        Retrieves store server schema reference world
          (.error (cacheFailure .cacheNotMade (store.entry schema version).parent e))
          ((downloaded content replied).withFiles made)
  /-- The content cannot be written to the cache. -/
  | unkept {version url : Text} {reply : Reply} {replied : World σ} {content : Octets}
      {e : FileError} {made : FileSystem} :
      Asks store server schema reference version url world reply replied →
      reply.content schema url = .ok content →
      replied.files.makeDirectories (store.entry schema version).parent = (.ok (), made) →
      made.write (store.entry schema version) content = .error e →
        Retrieves store server schema reference world
          (.error (cacheFailure .cacheUnwritable (store.entry schema version) e))
          (housed (store.entry schema version) made (downloaded content replied))
  /-- The content is written to the cache. -/
  | kept {version url : Text} {reply : Reply} {replied : World σ} {content : Octets}
      {made written : FileSystem} :
      Asks store server schema reference version url world reply replied →
      reply.content schema url = .ok content →
      replied.files.makeDirectories (store.entry schema version).parent = (.ok (), made) →
      made.write (store.entry schema version) content = .ok written →
        Retrieves store server schema reference world (.ok content)
          ((housed (store.entry schema version) made (downloaded content replied)).withFiles
            written)

/-! ## Steps -/

lemma retrieve_run (store : Store) (server : Server σ) (schema reference : Text)
    (world : World σ) :
    (store.retrieve server schema reference).run.run world
      = match gitReference reference with
        | .error e => (.error (.configuration e), world)
        | .ok version =>
          let (retrieval, after) :=
            Retrieval.steps store server schema reference version 4 .started world
          (retrieval.result, after) := by
  rw [retrieve]
  cases gitReference reference with
  | error e => rfl
  | ok version =>
      show (Action.ofExcept id (Retrieval.steps store server schema reference version 4 .started
        world).1.result).run.run (Retrieval.steps store server schema reference version 4 .started
        world).2 = _
      cases result : (Retrieval.steps store server schema reference version 4 .started
          world).1.result with
      | error failure =>
          simp only [result]
          rfl
      | ok content =>
          simp only [result]
          rfl

lemma steps_of_step {retrieval next : Retrieval}
    (h : Retrieval.step store server schema reference version retrieval world = (next, after))
    (count : Nat) :
    Retrieval.steps store server schema reference version (count + 1) retrieval world
      = Retrieval.steps store server schema reference version count next after := by
  rw [Retrieval.steps, h]

/-- A retrieval that is over stays as it is. -/
lemma steps_finished {result : Except Failure Octets} : ∀ count : Nat,
    Retrieval.steps store server schema reference version count (.finished result) world
      = (.finished result, world)
  | 0 => rfl
  | count + 1 => by
      rw [steps_of_step rfl, steps_finished count]

/-- What was downloaded is housed and kept, or that fails. -/
lemma retrieves_received {url : Text} {reply : Reply} {replied : World σ} {content : Octets}
    {retrieval : Retrieval}
    (asks : Asks store server schema reference version url world reply replied)
    (brought : reply.content schema url = .ok content)
    (ended : Retrieval.steps store server schema reference version 2 (.received content)
      (downloaded content replied) = (retrieval, after)) :
    Retrieves store server schema reference world retrieval.result after := by
  cases room : replied.files.makeDirectories (store.entry schema version).parent with
  | mk result made =>
      cases result with
      | error e =>
          have house : Retrieval.step store server schema reference version (.received content)
              (downloaded content replied) = (.finished (.error
                (cacheFailure .cacheNotMade (store.entry schema version).parent e)),
                (downloaded content replied).withFiles made) := by
            simp only [Retrieval.step, Retrieval.house, downloaded, World.logging, room]
          rw [steps_of_step house, steps_finished] at ended
          cases ended
          exact .unhoused asks brought room
      | ok _ =>
          have house : Retrieval.step store server schema reference version (.received content)
              (downloaded content replied) = (.housed content,
                housed (store.entry schema version) made (downloaded content replied)) := by
            simp only [Retrieval.step, Retrieval.house, downloaded, World.logging, room, housed]
          rw [steps_of_step house] at ended
          cases written : made.write (store.entry schema version) content with
          | error e =>
              have keep : Retrieval.step store server schema reference version (.housed content)
                  (housed (store.entry schema version) made (downloaded content replied))
                  = (.finished (.error
                    (cacheFailure .cacheUnwritable (store.entry schema version) e)),
                    housed (store.entry schema version) made (downloaded content replied)) := by
                simp only [Retrieval.step, Retrieval.keep, housed, World.logging, World.withFiles,
                  written]
              rw [steps_of_step keep, steps_finished] at ended
              cases ended
              exact .unkept asks brought room written
          | ok kept =>
              have keep : Retrieval.step store server schema reference version (.housed content)
                  (housed (store.entry schema version) made (downloaded content replied))
                  = (.finished (.ok content), (housed (store.entry schema version) made
                    (downloaded content replied)).withFiles kept) := by
                simp only [Retrieval.step, Retrieval.keep, housed, World.logging, World.withFiles,
                  written]
              rw [steps_of_step keep, steps_finished] at ended
              cases ended
              exact .kept asks brought room written

/-- A schema that is missing is requested, and what comes is received or refused. -/
lemma retrieves_missed {url : Text} {retrieval : Retrieval}
    (named : gitReference reference = .ok version)
    (missing : cached world.files (store.entry schema version) = .ok none)
    (address : store.url version = .ok url)
    (ended : Retrieval.steps store server schema reference version 3 (.missed url)
      ((pulling schema reference world).logging logName ("Schema URL: " ++ url))
        = (retrieval, after)) :
    Retrieves store server schema reference world retrieval.result after := by
  cases answer : server url (asking schema reference url world) with
  | mk reply replied =>
      have asks : Asks store server schema reference version url world reply replied :=
        ⟨named, missing, address, answer⟩
      rw [asking] at answer
      cases brought : reply.content schema url with
      | error failure =>
          have request : Retrieval.step store server schema reference version (.missed url)
              ((pulling schema reference world).logging logName ("Schema URL: " ++ url))
              = (.finished (.error failure), replied) := by
            simp only [Retrieval.step, Retrieval.request, answer, brought]
          rw [steps_of_step request, steps_finished] at ended
          cases ended
          exact .refused asks brought
      | ok content =>
          have request : Retrieval.step store server schema reference version (.missed url)
              ((pulling schema reference world).logging logName ("Schema URL: " ++ url))
              = (.received content, downloaded content replied) := by
            simp only [Retrieval.step, Retrieval.request, answer, brought, downloaded]
          rw [steps_of_step request] at ended
          exact retrieves_received asks brought ended

/-- A schema that is not in the cache is requested, if its address can be worked out. -/
lemma retrieves_missing {retrieval : Retrieval} (named : gitReference reference = .ok version)
    (missing : cached world.files (store.entry schema version) = .ok none)
    (ended : Retrieval.steps store server schema reference version 4 .started world
      = (retrieval, after)) :
    Retrieves store server schema reference world retrieval.result after := by
  cases address : store.url version with
  | error problem =>
      have start : Retrieval.step store server schema reference version .started world
          = (.finished (.error (.template problem)), pulling schema reference world) := by
        simp only [Retrieval.step, Retrieval.start, missing, address, pulling]
      rw [steps_of_step start, steps_finished] at ended
      cases ended
      exact .addressless named missing address
  | ok url =>
      have start : Retrieval.step store server schema reference version .started world
          = (.missed url,
            (pulling schema reference world).logging logName ("Schema URL: " ++ url)) := by
        simp only [Retrieval.step, Retrieval.start, missing, address, pulling]
      rw [steps_of_step start] at ended
      exact retrieves_missed named missing address ended

/-- **Every retrieval goes one of these ways.** -/
theorem retrieves_run {result : Except Failure Octets}
    (h : (store.retrieve server schema reference).run.run world = (result, after)) :
    Retrieves store server schema reference world result after := by
  rw [retrieve_run] at h
  cases named : gitReference reference with
  | error e =>
      rw [named] at h
      cases h
      exact .unversioned named
  | ok version =>
      rw [named] at h
      cases ended : Retrieval.steps store server schema reference version 4 .started world with
      | mk retrieval last =>
          simp only [ended] at h
          cases h
          cases found : cached world.files (store.entry schema version) with
          | error failure =>
              have start : Retrieval.step store server schema reference version .started world
                  = (.finished (.error failure), world) := by
                simp only [Retrieval.step, Retrieval.start, found]
              rw [steps_of_step start, steps_finished] at ended
              cases ended
              exact .unreadable named found
          | ok content? =>
              cases content? with
              | some content =>
                  have start : Retrieval.step store server schema reference version .started world
                      = (.finished (.ok content), world) := by
                    simp only [Retrieval.step, Retrieval.start, found]
                  rw [steps_of_step start, steps_finished] at ended
                  cases ended
                  exact .cached named found
              | none => exact retrieves_missing named found ended

/-! ## The cache -/

lemma cached_eq_some {files : FileSystem} {entry : Path} {content : Octets} :
    cached files entry = .ok (some content) ↔ files.read entry = .ok content := by
  rw [cached]
  split
  · next read => simp [read]
  · next e read =>
      rw [read]
      split <;> simp

/-- The cache misses an entry only if there is nothing at its path. -/
lemma find_of_cached_none {files : FileSystem} {entry : Path}
    (missing : cached files entry = .ok none) : files.find entry = .error .missing := by
  rw [cached] at missing
  split at missing
  · cases missing
  · next e read =>
      split at missing
      · next obstacle =>
          rw [FileSystem.read] at read
          split at read
          · cases read
          · cases read
            cases obstacle
          · next found =>
              cases read
              rw [found]
              exact congrArg _ obstacle
      · cases missing
      · cases missing

/-- Failing to change the cache is a failure of the cache, for a path that can be used. -/
lemma cacheFailure_of_usable {wrap : Path → SchemaError} {path : Path} {e : FileError}
    (usable : e.obstacle ≠ .unusable) : cacheFailure wrap path e = .schema (wrap path) := by
  rw [cacheFailure, if_neg usable]

/-! ## What follows -/

/-- The entry of a reference has no dots, if the reference names a version. -/
def HasPlainEntry (store : Store) (schema reference : Text) : Prop :=
  ∀ version, gitReference reference = .ok version → (store.entry schema version).IsPlain

variable {result : Except Failure Octets}

lemma Asks.files {url : Text} {reply : Reply} {replied : World σ} (apart : server.IsApart)
    (asks : Asks store server schema reference version url world reply replied) :
    replied.files = world.files := by
  have files := (apart url (asking schema reference url world)).1
  rw [asks.replied] at files
  exact files

lemma Asks.requests {url : Text} {reply : Reply} {replied : World σ} (apart : server.IsApart)
    (asks : Asks store server schema reference version url world reply replied) :
    replied.requests = world.requests ++ [url] := by
  have requests := (apart url (asking schema reference url world)).2
  rw [asks.replied] at requests
  exact requests

/-- Making room for what was downloaded touches nothing that is there. -/
lemma Asks.makeDirectories_grows {url : Text} {reply : Reply} {replied : World σ} {path : Path}
    {made : FileSystem} {result : Except FileError Unit} (apart : server.IsApart)
    (tree : world.files.IsTree)
    (asks : Asks store server schema reference version url world reply replied)
    (room : replied.files.makeDirectories path = (result, made)) :
    made.IsTree ∧ world.files.Extends made := by
  rw [← asks.files apart] at tree ⊢
  have grown := FileSystem.makeDirectories_grows tree path
  rwa [room] at grown

/-- What was downloaded, once written, is in the cache, and nothing else has changed. -/
lemma Asks.write_new {url : Text} {reply : Reply} {replied : World σ} {content : Octets}
    {made written : FileSystem} (apart : server.IsApart) (tree : world.files.IsTree)
    (plain : store.HasPlainEntry schema reference)
    (asks : Asks store server schema reference version url world reply replied)
    (room : replied.files.makeDirectories (store.entry schema version).parent = (.ok (), made))
    (h : made.write (store.entry schema version) content = .ok written) :
    written.IsTree ∧ world.files.Extends written
      ∧ written.read (store.entry schema version) = .ok content := by
  rw [asks.files apart] at room
  exact FileSystem.write_new tree (plain version asks.named) (find_of_cached_none asks.missing)
    (congrArg Prod.snd room) h

/-- **A retrieval touches nothing that is there.** -/
theorem Retrieves.grows (apart : server.IsApart) (tree : world.files.IsTree)
    (plain : store.HasPlainEntry schema reference)
    (h : Retrieves store server schema reference world result after) :
    after.files.IsTree ∧ world.files.Extends after.files := by
  cases h with
  | unversioned _ => exact ⟨tree, .refl _⟩
  | unreadable _ _ => exact ⟨tree, .refl _⟩
  | cached _ _ => exact ⟨tree, .refl _⟩
  | addressless _ _ _ => exact ⟨tree, .refl _⟩
  | refused asks _ =>
      rw [asks.files apart]
      exact ⟨tree, .refl _⟩
  | unhoused asks _ room => exact asks.makeDirectories_grows apart tree room
  | unkept asks _ room _ => exact asks.makeDirectories_grows apart tree room
  | kept asks _ room written =>
      obtain ⟨tree', grown, -⟩ := asks.write_new apart tree plain room written
      exact ⟨tree', grown⟩

/-- A retrieval requests nothing, or one address, if the reference names a version that is missing
in the cache. -/
lemma Retrieves.requests (apart : server.IsApart)
    (h : Retrieves store server schema reference world result after) :
    after.requests = world.requests
      ∨ ∃ version url reply replied,
          Asks store server schema reference version url world reply replied
            ∧ after.requests = world.requests ++ [url] := by
  cases h with
  | unversioned _ => exact .inl rfl
  | unreadable _ _ => exact .inl rfl
  | cached _ _ => exact .inl rfl
  | addressless _ _ _ => exact .inl rfl
  | refused asks _ =>
      have requests := asks.requests apart
      exact .inr ⟨_, _, _, _, asks, requests⟩
  | unhoused asks _ _ =>
      have requests := asks.requests apart
      exact .inr ⟨_, _, _, _, asks, requests⟩
  | unkept asks _ _ _ =>
      have requests := asks.requests apart
      exact .inr ⟨_, _, _, _, asks, requests⟩
  | kept asks _ _ _ =>
      have requests := asks.requests apart
      exact .inr ⟨_, _, _, _, asks, requests⟩

/-- **Content that was obtained is in the cache.** -/
theorem Retrieves.read_entry (apart : server.IsApart) (tree : world.files.IsTree)
    (plain : store.HasPlainEntry schema reference) {content : Octets}
    (h : Retrieves store server schema reference world (.ok content) after) :
    ∃ version, gitReference reference = .ok version
      ∧ after.files.read (store.entry schema version) = .ok content := by
  cases h with
  | cached named found => exact ⟨_, named, cached_eq_some.mp found⟩
  | kept asks _ room written =>
      obtain ⟨-, -, read⟩ := asks.write_new apart tree plain room written
      exact ⟨_, asks.named, read⟩

/-- An entry that is not missing is all there is to a retrieval. -/
lemma Retrieves.unasked (named : gitReference reference = .ok version)
    (present : Store.cached world.files (store.entry schema version) ≠ .ok none)
    {obtained : Except Failure Octets}
    (h : Retrieves store server schema reference world obtained after) :
    after = world
      ∧ Store.cached world.files (store.entry schema version) = some <$> obtained := by
  have not_asking : ∀ {version url reply replied},
      ¬ Asks store server schema reference version url world reply replied := by
    intro _ _ _ _ asks
    cases named.symm.trans asks.named
    exact present asks.missing
  cases h with
  | unversioned unnamed => cases named.symm.trans unnamed
  | unreadable named' unreadable =>
      cases named.symm.trans named'
      exact ⟨rfl, unreadable⟩
  | cached named' found =>
      cases named.symm.trans named'
      exact ⟨rfl, found⟩
  | addressless named' missing _ =>
      cases named.symm.trans named'
      exact absurd missing present
  | refused asks _ => exact absurd asks not_asking
  | unhoused asks _ _ => exact absurd asks not_asking
  | unkept asks _ _ _ => exact absurd asks not_asking
  | kept asks _ _ _ => exact absurd asks not_asking

/-- Content that is in the cache is all there is to a retrieval. -/
lemma Retrieves.of_read (named : gitReference reference = .ok version) {content : Octets}
    (read : world.files.read (store.entry schema version) = .ok content)
    (h : Retrieves store server schema reference world result after) :
    result = .ok content ∧ after = world := by
  have found := cached_eq_some.mpr read
  have present : Store.cached world.files (store.entry schema version) ≠ .ok none := by
    rw [found]
    rintro ⟨⟩
  obtain ⟨same, obtained⟩ := h.unasked named present
  obtain ⟨other, result_eq, other_eq⟩ := map_eq_ok.mp (obtained.symm.trans found)
  cases other_eq
  exact ⟨result_eq, same⟩

/-- Content that was downloaded is in the cache, unless the cache failed. -/
lemma Retrieves.read_downloaded (apart : server.IsApart) (tree : world.files.IsTree)
    (plain : store.HasPlainEntry schema reference) {url : Text} {body : Octets}
    {replied : World σ}
    (asks : Asks store server schema reference version url world (.response 200 body) replied)
    (h : Retrieves store server schema reference world result after) :
    (∃ failure, result = .error failure ∧ failure.IsOfCache)
      ∨ result = .ok body ∧ after.files.read (store.entry schema version) = .ok body := by
  have same : ∀ {version' url' reply' replied'},
      Asks store server schema reference version' url' world reply' replied' →
        version' = version ∧ reply'.content schema url' = .ok body := by
    intro version' url' reply' replied' asks'
    cases asks.named.symm.trans asks'.named
    cases asks.address.symm.trans asks'.address
    cases asks.replied.symm.trans asks'.replied
    exact ⟨rfl, rfl⟩
  have usable := FileSystem.isUsable_of_missing (find_of_cached_none asks.missing)
  cases h with
  | unversioned unnamed => cases asks.named.symm.trans unnamed
  | unreadable named unreadable =>
      cases asks.named.symm.trans named
      cases asks.missing.symm.trans unreadable
  | cached named found =>
      cases asks.named.symm.trans named
      cases asks.missing.symm.trans found
  | addressless named _ problem =>
      cases asks.named.symm.trans named
      cases asks.address.symm.trans problem
  | refused asks' refused => cases refused.symm.trans (same asks').2
  | @unhoused _ _ _ _ _ e _ asks' _ room =>
      obtain ⟨rfl, -⟩ := same asks'
      have not_unusable : e.obstacle ≠ .unusable :=
        FileSystem.makeDirectories_ne_unusable (FileSystem.isUsable_parent usable)
          (congrArg Prod.fst room)
      refine .inl ⟨_, rfl, ?_⟩
      rw [cacheFailure_of_usable not_unusable]
      trivial
  | unkept asks' _ _ unwritten =>
      obtain ⟨rfl, -⟩ := same asks'
      refine .inl ⟨_, rfl, ?_⟩
      rw [cacheFailure_of_usable (FileSystem.write_ne_unusable usable unwritten)]
      trivial
  | kept asks' brought room written =>
      obtain ⟨rfl, brought'⟩ := same asks'
      cases brought.symm.trans brought'
      obtain ⟨-, -, read⟩ := asks'.write_new apart tree plain room written
      exact .inr ⟨rfl, read⟩

/-! ## Loads -/

/-- What a load makes of the content of a schema. -/
def reading (store : Store) (schema reference : Text) (content : Octets) :
    Except Failure (Option (List Definition)) :=
  match readSchema content with
  | .ok definitions => .ok (some definitions)
  | .error (.inr e) => .error (.data e)
  | .error (.inl e) =>
    match gitReference reference with
    | .ok version =>
      .error (.schema (.unreadableSchema schema reference (store.entry schema version) e))
    | .error e => .error (.configuration e)

/-- A load is a retrieval whose content is then read, if there is a reference at all. -/
lemma load_run (store : Store) (server : Server σ) (schema reference : Text) (world : World σ) :
    (store.load server schema reference).run.run world
      = if reference.isEmpty then
          (.ok none,
            world.logging logName (Text.uppercase schema ++ " dependency isn't defined"))
        else
          match (store.retrieve server schema reference).run.run world with
          | (.error failure, after) => (.error failure, after)
          | (.ok content, after) => (store.reading schema reference content, after) := by
  rw [load]
  by_cases none_named : reference.isEmpty
  · rw [if_pos none_named, if_pos none_named]
    rfl
  · rw [if_neg none_named, if_neg none_named]
    show ((store.retrieve server schema reference >>= _).run.run world) = _
    rw [ExceptT.run_bind, StateT.run_bind]
    cases run : (store.retrieve server schema reference).run.run world with
    | mk result after =>
        cases result with
        | error failure => rfl
        | ok content =>
            dsimp only [bind, pure, StateT.bind, StateT.run]
            rw [reading]
            cases read : readSchema content with
            | ok definitions => rfl
            | error e =>
                cases e with
                | inr e => rfl
                | inl e =>
                    cases named : gitReference reference with
                    | ok version => rfl
                    | error e => rfl

end Store

end ExternalFields
