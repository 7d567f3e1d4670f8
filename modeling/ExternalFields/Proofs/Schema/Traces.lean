import ExternalFields.Proofs.CommandLine.Failures
import ExternalFields.Proofs.Files.Obstacles
import ExternalFields.Proofs.Schema.Confinement

/-!
# Loads that leave no trace

A load asks the server only if its cache entry is missing, and changes files only after the server
has answered with content.  So what it comes to is decided by three things in turn: the reference,
what the path of the entry leads to, and the answer.  A load that fails by one of them has changed
no file; one that fails later has added directories at most (`load_decided`).

A path that runs through a file, or is too long, is in the way of the cache like a directory in the
place of the entry is: nothing is requested then.

* `gitReference_ok`, `gitReference_error`: the references that name a version.
* `Failure.IsOfAnswer`, `Failure.IsBeforehand`: failures by the answer, and before any request.
* `Retrieves.failure_files`, `Retrieves.failure_requests`: what a retrieval with such a failure
  leaves.
* `cached_iff_missing`, `cached_of_way`: the three states of an entry.
* `Answers`, `Retrieves.missing`: what follows a request.
* **`load_decided`**: both together, for loads.
-/

namespace ExternalFields

open FileSystem

variable {σ : Type}

/-! ## References -/

lemma gitReference_ok {reference version : Text} :
    gitReference reference = .ok version ↔ reference = gitMark ++ version := by
  rw [gitReference]
  split
  · next found =>
      have marked := List.isPrefixOf?_eq_some_iff_append_eq.mp found
      rw [← marked]
      simp
  · next found =>
      constructor
      · rintro ⟨⟩
      · rintro rfl
        cases found.symm.trans (List.isPrefixOf?_eq_some_iff_append_eq.mpr rfl)

/-- A reference without the mark names no version. -/
lemma gitReference_error {reference : Text} :
    (∃ e, gitReference reference = .error e) ↔ ¬ gitMark <+: reference := by
  cases named : gitReference reference with
  | ok version =>
      rw [gitReference_ok] at named
      simp [named]
  | error e =>
      refine ⟨fun _ => ?_, fun _ => ⟨e, rfl⟩⟩
      rintro ⟨version, marked⟩
      cases named.symm.trans (gitReference_ok.mpr marked.symm)

/-! ## Failures -/

namespace Failure

/-- The failures that come before any request: of the reference, and of what the cache holds. -/
inductive IsBeforehand : Failure → Prop where
  | configuration (e : ConfigurationError) : IsBeforehand (.configuration e)
  | cacheUnreadable (path : Path) : IsBeforehand (.schema (.cacheUnreadable path))

/-- The failures by the answer of the server. -/
inductive IsOfAnswer : Failure → Prop where
  | unsatisfied (schema url : Text) : IsOfAnswer (.schema (.unsatisfied schema url))
  | unreachable (url : Text) : IsOfAnswer (.schema (.unreachable url))
  | unexpectedStatus (status : Int) (url : Text) :
      IsOfAnswer (.schema (.unexpectedStatus status url))

lemma cacheFailure_isOf {wrap : Path → SchemaError} {path : Path} {e : FileError}
    (later : ¬ (IsBeforehand (.schema (wrap path)) ∨ IsOfAnswer (.schema (wrap path)))) :
    ¬ ((cacheFailure wrap path e).IsBeforehand ∨ (cacheFailure wrap path e).IsOfAnswer) := by
  rw [cacheFailure]
  split
  · rintro (h | h) <;> cases h
  · exact later

end Failure

namespace Store

variable {store : Store} {server : Server σ} {schema reference version url : Text}
  {world after replied : World σ} {reply : Reply} {failure : Failure}

/-- What the server answers is a failure of the answer, unless the request was interrupted. -/
lemma content_error (calm : ∀ failure, reply ≠ .interrupted failure)
    (refused : reply.content schema url = .error failure) : failure.IsOfAnswer := by
  rw [Reply.content.eq_def] at refused
  split at refused
  · cases refused
    exact .unreachable url
  · cases refused
    exact .unsatisfied schema url
  · cases refused
  · cases refused
    exact .unexpectedStatus _ url
  · exact absurd rfl (calm _)

lemma Asks.uninterrupted (calm : server.IsUninterrupted)
    (asks : Asks store server schema reference version url world reply replied) :
    ∀ failure, reply ≠ .interrupted failure := by
  intro failure same
  refine calm url (asking schema reference url world) failure ?_
  rw [asks.replied, same]

/-- **A retrieval that fails beforehand, or by the answer, has changed no file.** -/
lemma Retrieves.failure_files (apart : server.IsApart)
    (sort : failure.IsBeforehand ∨ failure.IsOfAnswer)
    (h : Retrieves store server schema reference world (.error failure) after) :
    after.files = world.files := by
  cases h with
  | unversioned _ => rfl
  | unreadable _ _ => rfl
  | addressless _ _ _ => rfl
  | refused asks _ => exact asks.files apart
  | unhoused _ _ _ =>
      exact absurd sort (Failure.cacheFailure_isOf (by rintro (h | h) <;> cases h))
  | unkept _ _ _ _ =>
      exact absurd sort (Failure.cacheFailure_isOf (by rintro (h | h) <;> cases h))

/-- A retrieval that fails beforehand has requested nothing. -/
lemma Retrieves.failure_requests (calm : server.IsUninterrupted) (sort : failure.IsBeforehand)
    (h : Retrieves store server schema reference world (.error failure) after) :
    after.requests = world.requests := by
  cases h with
  | unversioned _ => rfl
  | unreadable _ _ => rfl
  | addressless _ _ _ => rfl
  | refused asks refused =>
      have answered := content_error (asks.uninterrupted calm) refused
      cases answered <;> cases sort
  | unhoused _ _ _ =>
      exact absurd (.inl sort) (Failure.cacheFailure_isOf (by rintro (h | h) <;> cases h))
  | unkept _ _ _ _ =>
      exact absurd (.inl sort) (Failure.cacheFailure_isOf (by rintro (h | h) <;> cases h))

/-! ## Entries -/

/-- The cache misses an entry exactly if it is missing. -/
lemma cached_iff_missing {files : FileSystem} {entry : Path} :
    cached files entry = .ok none ↔ files.find entry = .error .missing := by
  refine ⟨find_of_cached_none, fun missing => ?_⟩
  rw [cached, FileSystem.read, missing]

/-- A directory in the place of an entry is in the way, and so is any other obstacle than missing
parts, unless no file can have the path. -/
lemma cached_of_way {files : FileSystem} {entry : Path} (usable : entry.isUsable)
    (way : files.find entry = .ok .directory
      ∨ ∃ obstacle, files.find entry = .error obstacle ∧ obstacle ≠ .missing) :
    cached files entry = .error (.schema (.cacheUnreadable entry)) := by
  rw [cached, FileSystem.read]
  obtain directory | ⟨obstacle, lost, present⟩ := way
  · rw [directory]
  · rw [lost]
    have not_unusable : obstacle ≠ .unusable := by
      rintro rfl
      exact find_ne_unusable usable lost
    cases obstacle <;> first | rfl | contradiction

/-! ## Answers -/

/-- What a load of a missing entry comes to, by the answer of the server, and the files that it
leaves. -/
def Answers (store : Store) (schema reference url : Text) (entry : Path)
    (before after : FileSystem) (loaded : Except Failure (Option (List Definition))) :
    Reply → Prop
  | .noResponse => loaded = .error (.schema (.unreachable url)) ∧ after = before
  | .interrupted failure => loaded = .error failure ∧ after = before
  | .response status body =>
    if status = 404 then loaded = .error (.schema (.unsatisfied schema url)) ∧ after = before
    else if status ≠ 200 then
      loaded = .error (.schema (.unexpectedStatus status url)) ∧ after = before
    else
      loaded = store.reading schema reference body
          ∧ (∃ made, before.Extends made ∧ made.write entry body = .ok after)
        ∨ (loaded = .error (.schema (.cacheNotMade entry.parent))
            ∨ loaded = .error (.schema (.cacheUnwritable entry)))
          ∧ before.Extends after

/-- What a load makes of what its retrieval has brought. -/
def readingOf (store : Store) (schema reference : Text) :
    Except Failure Octets → Except Failure (Option (List Definition))
  | .error failure => .error failure
  | .ok content => store.reading schema reference content

/-- A refusal is the answer, and leaves the files. -/
lemma answers_of_refused {entry : Path} {files : FileSystem}
    (refused : reply.content schema url = .error failure) :
    Answers store schema reference url entry files files (.error failure) reply := by
  rw [Reply.content.eq_def] at refused
  split at refused
  · cases refused
    exact ⟨rfl, rfl⟩
  · cases refused
    rw [Answers, if_pos rfl]
    exact ⟨rfl, rfl⟩
  · cases refused
  · next other not_missing not_fine =>
      cases refused
      rw [Answers, if_neg not_missing, if_pos not_fine]
      exact ⟨rfl, rfl⟩
  · cases refused
    exact ⟨rfl, rfl⟩

/-- **What follows a request**: a missing entry is requested once, and the load is decided by the
answer. -/
lemma Retrieves.missing (addressed : store.IsAddressed) (apart : server.IsApart)
    (tree : world.files.IsTree) (named : gitReference reference = .ok version)
    (missing : world.files.find (store.entry schema version) = .error .missing)
    {obtained : Except Failure Octets}
    (h : Retrieves store server schema reference world obtained after) :
    ∃ url, store.url version = .ok url ∧ after.requests = world.requests ++ [url]
      ∧ Answers store schema reference url (store.entry schema version) world.files after.files
        (store.readingOf schema reference obtained)
        (server url (asking schema reference url world)).1 := by
  have usable := isUsable_of_missing missing
  have missed := cached_iff_missing.mpr missing
  -- a reply with content has the status 200
  have brings : ∀ {url : Text} {body : Octets} {files : FileSystem} {loaded},
      (loaded = store.reading schema reference body
          ∧ (∃ made, world.files.Extends made
            ∧ made.write (store.entry schema version) body = .ok files)
        ∨ (loaded = .error (.schema (.cacheNotMade (store.entry schema version).parent))
            ∨ loaded = .error (.schema (.cacheUnwritable (store.entry schema version))))
          ∧ world.files.Extends files) →
        Answers store schema reference url (store.entry schema version) world.files files loaded
          (.response 200 body) := by
    intro url body files loaded outcome
    rw [Answers, if_neg (by decide), if_neg (by decide)]
    exact outcome
  cases h with
  | unversioned unnamed => cases named.symm.trans unnamed
  | unreadable named' unreadable =>
      cases named.symm.trans named'
      cases missed.symm.trans unreadable
  | cached named' found =>
      cases named.symm.trans named'
      cases missed.symm.trans found
  | addressless named' _ problem =>
      obtain ⟨url, address⟩ := addressed _
      cases address.symm.trans problem
  | refused asks refused =>
      cases named.symm.trans asks.named
      refine ⟨_, asks.address, asks.requests apart, ?_⟩
      rw [asks.replied, asks.files apart]
      exact answers_of_refused refused
  | @unhoused _ _ _ _ _ e _ asks brought room =>
      cases named.symm.trans asks.named
      obtain ⟨-, grown⟩ := asks.makeDirectories_grows apart tree room
      have not_unusable : e.obstacle ≠ .unusable :=
        makeDirectories_ne_unusable (isUsable_parent usable) (congrArg Prod.fst room)
      have requests := asks.requests apart
      refine ⟨_, asks.address, requests, ?_⟩
      rw [asks.replied, content_eq_ok brought, cacheFailure_of_usable not_unusable]
      exact brings (.inr ⟨.inl rfl, grown⟩)
  | unkept asks brought room unwritten =>
      cases named.symm.trans asks.named
      obtain ⟨-, grown⟩ := asks.makeDirectories_grows apart tree room
      have requests := asks.requests apart
      refine ⟨_, asks.address, requests, ?_⟩
      rw [asks.replied, content_eq_ok brought,
        cacheFailure_of_usable (write_ne_unusable usable unwritten)]
      exact brings (.inr ⟨.inr rfl, grown⟩)
  | kept asks brought room written =>
      cases named.symm.trans asks.named
      obtain ⟨-, grown⟩ := asks.makeDirectories_grows apart tree room
      have requests := asks.requests apart
      refine ⟨_, asks.address, requests, ?_⟩
      rw [asks.replied, content_eq_ok brought]
      exact brings (.inl ⟨rfl, _, grown, written⟩)

/-! ## Loads -/

/-- A load with a reference is a retrieval whose content is then read. -/
lemma retrieves_load {loaded : Except Failure (Option (List Definition))}
    (needed : reference ≠ [])
    (h : (store.load server schema reference).run.run world = (loaded, after)) :
    ∃ obtained, Retrieves store server schema reference world obtained after
      ∧ loaded = store.readingOf schema reference obtained := by
  rw [load_run, if_neg (by simpa using needed)] at h
  cases run : (store.retrieve server schema reference).run.run world with
  | mk obtained last =>
      rw [run] at h
      cases obtained <;> cases h <;> exact ⟨_, retrieves_run run, rfl⟩

/-- What content is read as is no failure of the reference, of the cache or of an answer. -/
lemma reading_error {content : Octets} (named : gitReference reference = .ok version)
    (failed : store.reading schema reference content = .error failure) :
    ¬ (failure.IsBeforehand ∨ failure.IsOfAnswer) := by
  rw [reading, named] at failed
  split at failed
  · cases failed
  · cases failed
    rintro (h | h) <;> cases h
  · cases failed
    rintro (h | h) <;> cases h

/-- Content is brought for a version only. -/
lemma Retrieves.named {content : Octets}
    (h : Retrieves store server schema reference world (.ok content) after) :
    ∃ version, gitReference reference = .ok version := by
  cases h with
  | cached named _ => exact ⟨_, named⟩
  | kept asks _ _ _ => exact ⟨_, asks.named⟩

/-- A load that fails beforehand or by the answer fails in its retrieval. -/
lemma retrieves_of_failure {loaded : Except Failure (Option (List Definition))}
    (h : (store.load server schema reference).run.run world = (loaded, after))
    (failed : loaded = .error failure) (sort : failure.IsBeforehand ∨ failure.IsOfAnswer) :
    Retrieves store server schema reference world (.error failure) after := by
  by_cases needed : reference = []
  · subst needed
    rw [load_run] at h
    cases h
    cases failed
  · obtain ⟨obtained, retrieves, rfl⟩ := retrieves_load needed h
    cases obtained with
    | error other =>
        cases failed
        exact retrieves
    | ok content =>
        obtain ⟨version, named⟩ := retrieves.named
        exact absurd sort (reading_error named failed)

/-- A retrieval fails by its reference only if that names no version. -/
lemma Retrieves.configuration (calm : server.IsUninterrupted) {e : ConfigurationError}
    (h : Retrieves store server schema reference world (.error (.configuration e)) after) :
    ∃ e, gitReference reference = .error e := by
  generalize failed : Failure.configuration e = failure at h
  cases h with
  | unversioned unnamed => exact ⟨_, unnamed⟩
  | unreadable _ unreadable =>
      subst failed
      rw [Store.cached] at unreadable
      split at unreadable
      · cases unreadable
      · split at unreadable <;> cases unreadable
  | addressless _ _ _ => cases failed
  | refused asks refused =>
      subst failed
      have answered := content_error (asks.uninterrupted calm) refused
      cases answered
  | unhoused _ _ _ =>
      rw [cacheFailure] at failed
      split at failed <;> cases failed
  | unkept _ _ _ _ =>
      rw [cacheFailure] at failed
      split at failed <;> cases failed

/-- **How a load is decided, and what it leaves.**  If it fails by its reference, by an entry that
is in the way or by the answer, no file has changed, and in the first two cases nothing was
requested.  It fails by its reference exactly if that is not empty and lacks the mark.  Otherwise it
is decided by what the path of the entry leads to: a file is read; a directory is in the way, as is
a path that runs through a file or is too long; and only if the entry is missing is it requested,
once, and the answer decides.  If there is then no room for the content, all that was there is as it
was. -/
theorem load_decided (addressed : store.IsAddressed) (apart : server.IsApart)
    (calm : server.IsUninterrupted) (tree : world.files.IsTree)
    (usable : ∀ version, reference = gitMark ++ version → (store.entry schema version).isUsable)
    {loaded : Except Failure (Option (List Definition))}
    (h : (store.load server schema reference).run.run world = (loaded, after)) :
    (∀ failure, loaded = .error failure → failure.IsBeforehand ∨ failure.IsOfAnswer →
        after.files = world.files) ∧
    (∀ failure, loaded = .error failure → failure.IsBeforehand →
        after.requests = world.requests) ∧
    ((∃ e, loaded = .error (.configuration e)) ↔ reference ≠ [] ∧ ¬ gitMark <+: reference) ∧
    ∀ version, reference = gitMark ++ version →
      let entry := store.entry schema version
      (∀ content, world.files.find entry = .ok (.file content) →
        loaded = store.reading schema reference content ∧ after = world) ∧
      (world.files.find entry = .ok .directory
          ∨ world.files.RunsThroughFile entry ∨ world.files.IsOverlong entry →
        loaded = .error (.schema (.cacheUnreadable entry)) ∧ after = world) ∧
      ((∀ item, world.files.find entry ≠ .ok item) → ¬ world.files.RunsThroughFile entry →
          ¬ world.files.IsOverlong entry →
        ∃ url, store.url version = .ok url ∧ after.requests = world.requests ++ [url]
          ∧ Answers store schema reference url entry world.files after.files loaded
            (server url (asking schema reference url world)).1) := by
  refine ⟨fun failure failed sort => ?_, fun failure failed sort => ?_, ?_, ?_⟩
  · exact (retrieves_of_failure h failed sort).failure_files apart sort
  · exact (retrieves_of_failure h failed (.inl sort)).failure_requests calm sort
  · constructor
    · rintro ⟨e, failed⟩
      have retrieves := retrieves_of_failure h failed (.inl (.configuration e))
      refine ⟨?_, gitReference_error.mp (retrieves.configuration calm)⟩
      rintro rfl
      rw [load_run] at h
      cases h
      cases failed
    · rintro ⟨needed, unmarked⟩
      obtain ⟨e, unnamed⟩ := gitReference_error.mpr unmarked
      rw [load_run, if_neg (by simpa using needed), retrieve_run, unnamed] at h
      cases h
      exact ⟨e, rfl⟩
  · intro version marked entry
    have named := gitReference_ok.mpr marked
    obtain ⟨obtained, retrieves, rfl⟩ := retrieves_load (reference_ne_nil named) h
    refine ⟨fun content found => ?_, fun way => ?_, fun absent through overlong => ?_⟩
    · have held := cached_eq_some.mpr (read_eq_ok.mpr found)
      obtain ⟨same, brought⟩ := retrieves.unasked named (by rw [held]; rintro ⟨⟩)
      rw [held] at brought
      cases obtained <;> cases brought
      exact ⟨rfl, same⟩
    · have in_way := cached_of_way (usable version marked)
        (way.imp_right (find_obstructed tree (usable version marked)).mpr)
      obtain ⟨same, brought⟩ := retrieves.unasked named (by rw [in_way]; rintro ⟨⟩)
      rw [in_way] at brought
      cases obtained <;> cases brought
      exact ⟨rfl, same⟩
    · have missing : world.files.find entry = .error .missing := by
        cases found : world.files.find entry with
        | ok item => exact absurd found (absent item)
        | error obstacle =>
            by_contra present
            have obstructed := (find_obstructed tree (usable version marked)).mp
              ⟨obstacle, found, fun same => present (by rw [same])⟩
            exact obstructed.elim through overlong
      exact retrieves.missing addressed apart tree named missing

/-! ## Examples -/

/-- A server that has nothing. -/
def emptyServer : Server Unit := fun _ world => (.response 404 [], world)

lemma emptyServer_uninterrupted : emptyServer.IsUninterrupted := by
  rintro _ _ _ ⟨⟩

/-- A cache with a file in the place of a version. -/
def blockedWorld : World Unit where
  files := { items := [(["cache"], .directory), (["cache", "ecs"], .directory),
    (["cache", "ecs", "v8"], .file [0x61])] }
  memory := ()

/-- A version whose entry runs through the file is not asked for; another one is, in vain.  Both
leave the files. -/
theorem load_decided_blocked :
    let blocked := (smallStore.load emptyServer ecsSchema "git@v8").run.run blockedWorld
    let missed := (smallStore.load emptyServer ecsSchema "git@v9").run.run blockedWorld
    blocked.1 = .error (.schema (.cacheUnreadable (smallStore.entry ecsSchema "v8")))
      ∧ blocked.2 = blockedWorld
      ∧ (∃ url, missed.1 = .error (.schema (.unsatisfied ecsSchema url))
        ∧ missed.2.requests = [url])
      ∧ missed.2.files = blockedWorld.files := by
  intro blocked missed
  have tree : blockedWorld.files.IsTree :=
    (isProper_of_entries (by decide) (by decide) (by decide +kernel)).tree
  have usable : ∀ {reference version : Text}, reference = gitMark ++ version →
      (smallStore.entry ecsSchema version).isUsable → ∀ other, reference = gitMark ++ other →
        (smallStore.entry ecsSchema other).isUsable := by
    rintro _ version rfl fits other same
    rwa [← List.append_cancel_left same]
  have addressed : smallStore.IsAddressed := fun version => ⟨_, Store.url_usual _ version⟩
  have apart : emptyServer.IsApart := fun _ _ => ⟨rfl, rfl⟩
  have v9_usable : (smallStore.entry ecsSchema "v9").isUsable := by decide +kernel
  obtain ⟨-, -, -, decided⟩ := load_decided addressed apart emptyServer_uninterrupted tree
    (usable rfl (by decide +kernel)) (Prod.eta blocked).symm
  obtain ⟨-, -, -, decided'⟩ := load_decided addressed apart emptyServer_uninterrupted tree
    (usable rfl v9_usable) (Prod.eta missed).symm
  obtain ⟨-, in_way, -⟩ := decided "v8" rfl
  obtain ⟨-, -, asked⟩ := decided' "v9" rfl
  have through : blockedWorld.files.RunsThroughFile (smallStore.entry ecsSchema "v8") :=
    ⟨["cache", "ecs", "v8"], "ecs_nested.yml", [], ["cache", "ecs", "v8"], [0x61],
      by decide +kernel, by decide +kernel, rfl⟩
  have missing : blockedWorld.files.find (smallStore.entry ecsSchema "v9") = .error .missing := by
    decide +kernel
  have clear : ¬ (blockedWorld.files.RunsThroughFile (smallStore.entry ecsSchema "v9")
      ∨ blockedWorld.files.IsOverlong (smallStore.entry ecsSchema "v9")) := by
    rw [← find_obstructed tree v9_usable]
    rintro ⟨obstacle, lost, present⟩
    cases missing.symm.trans lost
    exact present rfl
  obtain ⟨failed, same⟩ := in_way (.inr (.inl through))
  obtain ⟨url, -, requests, answer⟩ := asked (by rw [missing]; rintro _ ⟨⟩)
    (fun runs => clear (.inl runs)) (fun long => clear (.inr long))
  obtain ⟨unsatisfied, files⟩ := answer
  exact ⟨failed, same, ⟨url, unsatisfied, requests⟩, files⟩

/-- A cache with the directory of the common schema. -/
def roomyWorld : World Unit where
  files := { items := [(["cache"], .directory), (["cache", "ecs"], .directory)] }
  memory := ()

/-- A name of 64 characters of four octets each: one octet more than a name can have. -/
def longVersion : Text := List.replicate 64 0x10348

/-- **Not every entry that is nowhere is asked for**, though no file is in the way and the server
would answer that there is no such version: one whose name is too long is in the way of the cache,
and one whose name cannot be put into octets is none of the failures of a load. -/
theorem load_unasked :
    let long := (smallStore.load emptyServer ecsSchema (gitMark ++ longVersion)).run.run roomyWorld
    let half := (smallStore.load emptyServer ecsSchema (gitMark ++ [0xD800])).run.run roomyWorld
    (∀ version, ¬ roomyWorld.files.RunsThroughFile (smallStore.entry ecsSchema version))
      ∧ (∀ url, (emptyServer url roomyWorld).1 = .response 404 [])
      ∧ roomyWorld.files.find (smallStore.entry ecsSchema longVersion) = .error .nameTooLong
      ∧ long.1 = .error (.schema (.cacheUnreadable (smallStore.entry ecsSchema longVersion)))
      ∧ long.2.requests = []
      ∧ roomyWorld.files.find (smallStore.entry ecsSchema [0xD800]) = .error .unusable
      ∧ half.1 = .error (.file ⟨.unusable, smallStore.entry ecsSchema [0xD800]⟩) := by
  intro long half
  refine ⟨?_, fun _ => rfl, by decide +kernel, ?_, by decide +kernel, by decide +kernel, ?_⟩
  · rintro version ⟨front, segment, rest, place, content, -, -, file⟩
    have no_files : ∀ entry ∈ roomyWorld.files.items, entry.2 = .directory := by decide
    rw [item?] at file
    split at file
    · cases file
    · obtain ⟨before, later, items, -⟩ := List.lookup_eq_some_iff.mp file
      cases no_files (place, .file content) (by simp [items])
  · exact failureOf?_eq_some.mp (by decide +kernel)
  · exact failureOf?_eq_some.mp (by decide +kernel)

end Store

end ExternalFields
