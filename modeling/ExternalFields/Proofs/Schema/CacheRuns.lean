import ExternalFields.Proofs.Schema.Retrieval

/-!
# Runs on one cache

Loaders with addresses and servers of their own may share a cache.  A run is any sequence of their
calls; what the servers answer may change from one call to the next.  In a tree, where no name has
two dots in it, every call leaves a tree that has all that was there (`perform_grows`), so that what
one call has brought is there for all later ones.

* `Cache`, `Call`, `Call.perform`, `Cache.run`: caches, the calls on them, and their runs.
* `Call.IsProper`: what is asked of the calls.
* `run_grows`: a run leaves a tree that has all that was there.
* **`run_cache`**: the law of the cache.
-/

namespace ExternalFields

variable {σ : Type}

/-- A cache: the directory it is kept in, and the name that schemas have in it. -/
structure Cache where
  root : Path
  file : Text

/-- What a call is for: the document of a schema, or its definitions. -/
inductive Purpose where
  | document
  | definitions
  deriving DecidableEq

/-- A call on a cache, for a version of a schema, with the address template and the server of the
loader that makes it. -/
structure Call (σ : Type) where
  purpose : Purpose
  address : Text
  server : Server σ
  schema : Text
  reference : Text

/-- What calls bring: a document, or the definitions in it, unless no version is named. -/
abbrev Delivery := Octets ⊕ Option (List Definition)

namespace Call

variable {cache : Cache} {call : Call σ} {world after : World σ}

/-- The store that a call goes through. -/
def store (cache : Cache) (call : Call σ) : Store where
  root := cache.root
  address := call.address
  file := cache.file

/-- The place of what a call is for, if it names a version. -/
def entry (cache : Cache) (call : Call σ) (version : Text) : Path :=
  (call.store cache).entry call.schema version

/-- What a call brings, and the world after it. -/
def perform (cache : Cache) (call : Call σ) (world : World σ) :
    Except Failure Delivery × World σ :=
  match call.purpose with
  | .document =>
    let (result, after) :=
      ((call.store cache).retrieve call.server call.schema call.reference).run.run world
    (result.map .inl, after)
  | .definitions =>
    let (result, after) :=
      ((call.store cache).load call.server call.schema call.reference).run.run world
    (result.map .inr, after)

/-- A call gets hold of content, from the cache or from the server. -/
def Obtains (cache : Cache) (call : Call σ) (world : World σ) (content : Octets) : Prop :=
  (((call.store cache).retrieve call.server call.schema call.reference).run.run world).1
    = .ok content

/-- What a call makes of content. -/
def deliver (cache : Cache) (call : Call σ) (content : Octets) : Except Failure Delivery :=
  match call.purpose with
  | .document => .ok (.inl content)
  | .definitions => ((call.store cache).reading call.schema call.reference content).map .inr

end Call

/-- The world after some calls, one after the other. -/
def Cache.run (cache : Cache) : List (Call σ) → World σ → World σ
  | [], world => world
  | call :: rest, world => cache.run rest (call.perform cache world).2

/-! ## What is asked of calls -/

/-- A cache whose paths have no dots: neither its directory nor its name for schemas has two dots
between slashes.  Single dots mean nothing there. -/
structure Cache.IsPlain (cache : Cache) : Prop where
  root : cache.root.IsPlain
  file : (Path.ofText cache.file).IsPlain

/-- A call whose schema and version have no two dots between slashes, with a server that does not
touch the files. -/
structure Call.IsProper (call : Call σ) : Prop where
  schema : (Path.ofText call.schema).IsPlain
  version : ∀ version, gitReference call.reference = .ok version → (Path.ofText version).IsPlain
  apart : call.server.IsApart

/-- A text is a path without dots if nothing between its slashes is two dots. -/
lemma isPlain_ofText {text : Text} (no_dots : (".." : Text) ∉ Path.splitSlashes text) :
    (Path.ofText text).IsPlain := by
  intro segment mem
  obtain ⟨mem, step⟩ := List.mem_filter.mp mem
  refine ⟨?_, ?_⟩
  · rintro rfl
    exact absurd step (by decide)
  · rintro rfl
    exact no_dots mem

lemma isPlain_child {path : Path} {text : Text} (plain : path.IsPlain)
    (text_plain : (Path.ofText text).IsPlain) : (path.child text).IsPlain := by
  rw [Path.child, Path.join]
  split
  · exact text_plain
  · intro segment mem
    obtain mem | mem := List.mem_append.mp mem
    · exact plain segment mem
    · exact text_plain segment mem

lemma Call.IsProper.plain {cache : Cache} {call : Call σ} (proper : call.IsProper)
    (plain : cache.IsPlain) :
    (call.store cache).HasPlainEntry call.schema call.reference := fun version named =>
  isPlain_child (isPlain_child (isPlain_child plain.root proper.schema)
    (proper.version version named)) plain.file

/-! ## One call -/

namespace Call

variable {cache : Cache} {call : Call σ} {world after : World σ}
  {result : Except Failure Delivery}

/-- A call delivers what its retrieval brings, if it needs one. -/
lemma perform_eq (needed : call.purpose = .document ∨ call.reference ≠ [])
    {obtained : Except Failure Octets}
    (h : ((call.store cache).retrieve call.server call.schema call.reference).run.run world
      = (obtained, after)) :
    call.perform cache world = (obtained >>= call.deliver cache, after) := by
  cases purpose : call.purpose with
  | document =>
      simp only [perform, purpose, h]
      cases obtained with
      | error failure => rfl
      | ok content => simp only [Except.map, ok_bind, deliver, purpose]
  | definitions =>
      have named : call.reference ≠ [] := needed.resolve_left (by rw [purpose]; decide)
      have named' : ¬ call.reference.isEmpty := by simpa using named
      simp only [perform, purpose, Store.load_run, named', h]
      cases obtained with
      | error failure => rfl
      | ok content => simp [deliver, purpose]

/-- A call retrieves, or notes that no version is named. -/
lemma perform_cases (h : call.perform cache world = (result, after)) :
    (∃ obtained, (call.store cache).Retrieves call.server call.schema call.reference world
        obtained after ∧ result = obtained >>= call.deliver cache)
      ∨ after.files = world.files ∧ after.requests = world.requests ∧ result = .ok (.inr none) := by
  by_cases needed : call.purpose = .document ∨ call.reference ≠ []
  · left
    cases run : ((call.store cache).retrieve call.server call.schema
        call.reference).run.run world with
    | mk obtained last =>
        rw [perform_eq needed run] at h
        cases h
        exact ⟨obtained, Store.retrieves_run run, rfl⟩
  · right
    obtain ⟨purpose, unnamed⟩ := not_or.mp needed
    have purpose : call.purpose = .definitions := by
      cases other : call.purpose with
      | document => exact absurd other purpose
      | definitions => rfl
    have unnamed : call.reference.isEmpty := by simpa using unnamed
    simp only [perform, purpose, Store.load_run, unnamed, ↓reduceIte] at h
    cases h
    exact ⟨rfl, rfl, rfl⟩

/-- A call leaves a tree that has all that was there. -/
lemma perform_grows (plain : cache.IsPlain) (proper : call.IsProper) (tree : world.files.IsTree)
    (h : call.perform cache world = (result, after)) :
    after.files.IsTree ∧ world.files.Extends after.files := by
  obtain ⟨obtained, retrieves, -⟩ | ⟨files, -, -⟩ := perform_cases h
  · exact retrieves.grows proper.apart tree (proper.plain plain)
  · rw [files]
    exact ⟨tree, .refl _⟩

/-- A call requests nothing, or one address, if it names a version that is missing in the cache. -/
lemma perform_requests (proper : call.IsProper) (h : call.perform cache world = (result, after)) :
    after.requests = world.requests
      ∨ ∃ version url reply replied,
          (call.store cache).Asks call.server call.schema call.reference version url world reply
              replied
            ∧ after.requests = world.requests ++ [url] := by
  obtain ⟨obtained, retrieves, -⟩ | ⟨-, requests, -⟩ := perform_cases h
  · exact retrieves.requests proper.apart
  · exact .inl requests

/-- A call requests nothing if it names no version, or one that has something at its place. -/
lemma perform_silent (proper : call.IsProper) (h : call.perform cache world = (result, after))
    (settled : call.reference = [] ∨ (∃ e, gitReference call.reference = .error e)
      ∨ ∃ version item, gitReference call.reference = .ok version
          ∧ world.files.find (call.entry cache version) = .ok item) :
    after.requests = world.requests := by
  obtain silent | ⟨version, url, reply, replied, asks, -⟩ := perform_requests proper h
  · exact silent
  · obtain empty | ⟨e, unnamed⟩ | ⟨other, item, named, found⟩ := settled
    · exact absurd empty (Store.reference_ne_nil asks.named)
    · cases asks.named.symm.trans unnamed
    · cases asks.named.symm.trans named
      cases (Store.find_of_cached_none asks.missing).symm.trans found

/-- What a call downloads is in the cache, unless the cache failed. -/
lemma perform_downloaded (plain : cache.IsPlain) (proper : call.IsProper)
    (tree : world.files.IsTree) (h : call.perform cache world = (result, after))
    {version url : Text} {body : Octets} {replied : World σ}
    (asks : (call.store cache).Asks call.server call.schema call.reference version url world
      (.response 200 body) replied) :
    (∃ failure, result = .error failure ∧ failure.IsOfCache)
      ∨ after.files.read (call.entry cache version) = .ok body := by
  have needed := Store.reference_ne_nil asks.named
  cases run : ((call.store cache).retrieve call.server call.schema
      call.reference).run.run world with
  | mk obtained last =>
      rw [perform_eq (.inr needed) run] at h
      cases h
      obtain ⟨failure, rfl, of_cache⟩ | ⟨-, read⟩ :=
        (Store.retrieves_run run).read_downloaded proper.apart tree (proper.plain plain) asks
      · exact .inl ⟨failure, rfl, of_cache⟩
      · exact .inr read

/-- A call that obtains content delivers it, and leaves it in the cache. -/
lemma perform_obtained (plain : cache.IsPlain) (proper : call.IsProper)
    (tree : world.files.IsTree) (h : call.perform cache world = (result, after))
    {content : Octets} (obtains : call.Obtains cache world content) :
    result = call.deliver cache content
      ∧ ∃ version, gitReference call.reference = .ok version
        ∧ after.files.read (call.entry cache version) = .ok content := by
  rw [Obtains] at obtains
  cases run : ((call.store cache).retrieve call.server call.schema
      call.reference).run.run world with
  | mk obtained last =>
      rw [run] at obtains
      subst obtains
      obtain ⟨version, named, read⟩ :=
        (Store.retrieves_run run).read_entry proper.apart tree (proper.plain plain)
      rw [perform_eq (.inr (Store.reference_ne_nil named)) run] at h
      cases h
      exact ⟨rfl, version, named, read⟩

/-- A call whose content is in the cache delivers that, and leaves the world as it is. -/
lemma perform_of_read {version : Text} (named : gitReference call.reference = .ok version)
    {content : Octets} (read : world.files.read (call.entry cache version) = .ok content) :
    call.perform cache world = (call.deliver cache content, world) := by
  have needed := Store.reference_ne_nil named
  cases run : ((call.store cache).retrieve call.server call.schema
      call.reference).run.run world with
  | mk obtained last =>
      obtain ⟨rfl, rfl⟩ := (Store.retrieves_run run).of_read named read
      rw [perform_eq (.inr needed) run, ok_bind]

end Call

/-! ## Runs -/

/-- A run leaves a tree that has all that was there. -/
lemma run_grows {cache : Cache} (plain : cache.IsPlain) : ∀ {calls : List (Call σ)}
    {world : World σ}, (∀ call ∈ calls, call.IsProper) → world.files.IsTree →
      (cache.run calls world).files.IsTree ∧ world.files.Extends (cache.run calls world).files
  | [], _, _, tree => ⟨tree, .refl _⟩
  | call :: rest, world, proper, tree => by
      obtain ⟨tree', grown⟩ := Call.perform_grows plain (proper call (.head _)) tree rfl
      obtain ⟨tree'', grown'⟩ := run_grows plain (fun other mem => proper other (.tail _ mem)) tree'
      exact ⟨tree'', grown.trans grown'⟩

/-- **The law of the cache.**  Wherever a run has come to, a call changes nothing that is there.  It
requests nothing, or the address of its version; what it downloads from there is in the cache
afterwards, unless the cache failed.  It requests nothing if it names no version, or if there is
something at the place of the version.  Once it has got hold of content, later calls for the same
version of the same schema leave the world as it is and make of that content what they are for,
whatever calls come in between. -/
theorem run_cache {cache : Cache} (plain : cache.IsPlain) {start : World σ}
    (tree : start.files.IsTree) {before between : List (Call σ)} {call : Call σ}
    (proper : ∀ other ∈ before ++ call :: between, other.IsProper) {now after : World σ}
    {result : Except Failure Delivery} (reached : cache.run before start = now)
    (performed : call.perform cache now = (result, after)) :
    now.files.Extends after.files
      ∧ (after.requests = now.requests
        ∨ ∃ version url, gitReference call.reference = .ok version
          ∧ (call.store cache).url version = .ok url
          ∧ after.requests = now.requests ++ [url]
          ∧ ∀ body, (call.server url (Store.asking call.schema call.reference url now)).1
              = .response 200 body →
            (∃ failure, result = .error failure ∧ failure.IsOfCache)
              ∨ after.files.read (call.entry cache version) = .ok body)
      ∧ (call.reference = [] ∨ (∃ e, gitReference call.reference = .error e)
          ∨ (∃ version item, gitReference call.reference = .ok version
            ∧ now.files.find (call.entry cache version) = .ok item) →
        after.requests = now.requests)
      ∧ ∀ content, call.Obtains cache now content → ∀ later : Call σ,
          later.schema = call.schema → later.reference = call.reference →
          later.perform cache (cache.run between after)
              = (later.deliver cache content, cache.run between after)
            ∧ (later.purpose = call.purpose → later.deliver cache content = result) := by
  have proper_before : ∀ other ∈ before, other.IsProper := fun other mem =>
    proper other (List.mem_append_left _ mem)
  have proper_call : call.IsProper := proper call (by simp)
  have proper_between : ∀ other ∈ between, other.IsProper := fun other mem =>
    proper other (List.mem_append_right _ (.tail _ mem))
  have tree_now : now.files.IsTree := by
    rw [← reached]
    exact (run_grows plain proper_before tree).1
  obtain ⟨tree_after, grown⟩ := Call.perform_grows plain proper_call tree_now performed
  refine ⟨grown, ?_, Call.perform_silent proper_call performed, ?_⟩
  · obtain silent | ⟨version, url, reply, replied, asks, requests⟩ :=
      Call.perform_requests proper_call performed
    · exact .inl silent
    · refine .inr ⟨version, url, asks.named, asks.address, requests, fun body downloaded => ?_⟩
      rw [asks.replied] at downloaded
      cases downloaded
      exact Call.perform_downloaded plain proper_call tree_now performed asks
  · intro content obtains later same_schema same_reference
    obtain ⟨delivered, version, named, read⟩ :=
      Call.perform_obtained plain proper_call tree_now performed obtains
    have kept := (run_grows plain proper_between tree_after).2.read read
    have entry : later.entry cache version = call.entry cache version := by
      rw [Call.entry, Call.entry, same_schema]
      rfl
    rw [← same_reference] at named
    rw [← entry] at kept
    refine ⟨Call.perform_of_read named kept, fun same_purpose => ?_⟩
    rw [delivered, Call.deliver, Call.deliver, same_purpose, same_schema, same_reference]
    rfl

/-! ## A run -/

/-- A server that never answers the same twice: it counts requests, and answers their number. -/
def countingServer : Server Nat := fun _ world =>
  (.response 200 [UInt8.ofNat world.memory], { world with memory := world.memory + 1 })

/-- A call for the document of a version of the common schema, on that server. -/
def countingCall (reference : Text) : Call Nat where
  purpose := .document
  address := "https://host/\x7breference\x7d/\x7bfilename\x7d"
  server := countingServer
  schema := ecsSchema
  reference := reference

def countingCache : Cache where
  root := Path.ofText "/cache"
  file := "ecs.yml"

lemma countingCall_proper {reference version : Text} (named : gitReference reference = .ok version)
    (no_dots : (".." : Text) ∉ Path.splitSlashes version) :
    (countingCall reference).IsProper where
  schema := by
    have no_dots : (".." : Text) ∉ Path.splitSlashes ecsSchema := by decide
    exact isPlain_ofText no_dots
  version other named' := by
    cases named.symm.trans named'
    exact isPlain_ofText no_dots
  apart _ _ := ⟨rfl, rfl⟩

lemma empty_isTree : ({} : FileSystem).IsTree := by
  refine ⟨rfl, fun place item there => ?_⟩
  cases place with
  | nil => rfl
  | cons name rest => cases there

/-- A version is requested once, though the server has other answers, and though the entry of a
second version, which lies within the first one, cannot be had. -/
theorem run_cache_counting :
    let call := countingCall "git@v8"
    let after := (call.perform countingCache { files := {}, memory := 0 }).2
    let last := countingCache.run [countingCall "git@v8/ecs.yml", countingCall "git@main"] after
    after.requests = [("https://host/v8/ecs.yml" : Text)]
      ∧ after.files.read (call.entry countingCache "v8") = .ok [0]
      ∧ call.perform countingCache last = (.ok (.inl [0]), last) := by
  intro call after last
  have proper : ∀ other ∈ [] ++ call :: [countingCall "git@v8/ecs.yml", countingCall "git@main"],
      other.IsProper := by
    simp only [List.nil_append, List.forall_mem_cons, List.not_mem_nil, false_implies,
      implies_true, and_true]
    exact ⟨countingCall_proper rfl (by decide), countingCall_proper rfl (by decide),
      countingCall_proper rfl (by decide)⟩
  have performed : call.perform countingCache { files := {}, memory := 0 }
      = ((call.perform countingCache { files := {}, memory := 0 }).1, after) := (Prod.eta _).symm
  have law := run_cache ⟨isPlain_ofText (by decide), isPlain_ofText (by decide)⟩ empty_isTree
    proper (show countingCache.run [] ({ files := {}, memory := 0 } : World Nat) = _ from rfl)
    performed
  obtain ⟨-, silent | ⟨version, url, named, address, -, downloaded⟩, -, again⟩ := law
  · exact absurd silent (by decide +kernel)
  · have obtains : call.Obtains countingCache { files := {}, memory := 0 } [0] := by
      rw [Call.Obtains]
      decide +kernel
    obtain ⟨later, same⟩ := again _ obtains call rfl rfl
    refine ⟨by decide +kernel, ?_, later⟩
    cases named
    refine (downloaded [0] rfl).resolve_left ?_
    rintro ⟨failure, failed, -⟩
    cases (same rfl).trans failed

end ExternalFields
