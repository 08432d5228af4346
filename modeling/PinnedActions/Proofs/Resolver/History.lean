import PinnedActions.Proofs.Resolver.Memory

/-!
# What a resolver remembers comes from its first success

A resolver is used by one call after another, and a session is **reached** when it is what such a
history of calls leads to from a session that remembers nothing.

* `rel_of_afterCalls` — what each call respects, a whole history does.
* `sound_of_afterCalls` — reached sessions are sound.
* `lookup_specs_of_history` — what is remembered under the key of a version spec is the result of
  the first call that asked for something with that key and would succeed without a memory.

Two spellings of a version may share a key, so what was found for one is the answer for the other.
`answer_resolveSpec_of_history` says when that is not what the other would have found by itself.
-/

set_option autoImplicit false

namespace PinnedActions

/-- A version spec in a repository. -/
structure SpecRequest where
  owner : Text
  repo : Text
  spec : Text
deriving DecidableEq, Repr

namespace SpecRequest

/-- The repository of a request, by owner and name. -/
def repository (q : SpecRequest) : Text × Text := (q.owner, q.repo)

/-- What the result for a request is remembered under. -/
def key (q : SpecRequest) : CacheKey := Resolver.specKey q.owner q.repo q.spec

/-- What a resolver that remembers nothing answers. -/
def fresh (source : Source) (q : SpecRequest) : Option (Except Failure Resolution) :=
  (Resolver.resolveSpec source q.owner q.repo q.spec).answer .empty

/-- What a resolver that remembers nothing finds. -/
def found? (source : Source) (q : SpecRequest) : Option Resolution :=
  match q.fresh source with
  | some (.ok r) => some r
  | _ => none

theorem found?_eq_some {source : Source} {q : SpecRequest} {r : Resolution} :
    q.found? source = some r ↔ q.fresh source = some (.ok r) := by
  unfold found?
  split
  · rename_i h
    simp [h]
  · rename_i h
    exact ⟨nofun, fun h' => absurd h' (h r)⟩

end SpecRequest

/-- A call on a resolver. -/
inductive Call where
  | reference (owner repo name : Text)
  | spec (owner repo wanted : Text)
  | latest (owner repo : Text) (version : Option Text)
deriving DecidableEq, Repr

namespace Call

/-- The session after a call, when the call ends. -/
def after (source : Source) (s : Session) : Call → Option Session
  | reference owner repo name =>
    ((Resolver.resolveReference source owner repo name).runFrom s).map Prod.snd
  | spec owner repo wanted =>
    ((Resolver.resolveSpec source owner repo wanted).runFrom s).map Prod.snd
  | latest owner repo version =>
    ((Resolver.latest source owner repo version).runFrom s).map Prod.snd

/-- The repository of a call, by owner and name. -/
def repository : Call → Text × Text
  | reference owner repo _ => (owner, repo)
  | spec owner repo _ => (owner, repo)
  | latest owner repo _ => (owner, repo)

/-- The request that a call makes, when it is one about a version. -/
def request? : Call → Option SpecRequest
  | reference .. => none
  | spec owner repo wanted => some ⟨owner, repo, wanted⟩
  | latest owner repo version =>
    (version.filter fun v => !(Text.trim v).isEmpty).map fun wanted => ⟨owner, repo, wanted⟩

/-- A request is about the repository of its call. -/
theorem repository_of_request? {call : Call} {q : SpecRequest} (h : call.request? = some q) :
    q.repository = call.repository := by
  cases call with
  | reference owner repo name => cases h
  | spec owner repo wanted =>
    cases h
    rfl
  | latest owner repo version =>
    obtain ⟨wanted, -, rfl⟩ := Option.map_eq_some_iff.1 h
    rfl

end Call

/-- The session after a history of calls, when all of them end. -/
def afterCalls (source : Source) (s : Session) (calls : List Call) : Option Session :=
  calls.foldlM (Call.after source) s

/-- Whether a session is what some history of calls leads to. -/
def Session.IsReached (source : Source) (s : Session) : Prop :=
  ∃ calls, afterCalls source .empty calls = some s

/-- What the first request with a key found, of those in a history that find something. -/
def firstFound (source : Source) (calls : List Call) (k : CacheKey) : Option Resolution :=
  (calls.filterMap Call.request?).findSome? fun q => if q.key = k then q.found? source else none

namespace Resolver

open Walk

variable {source : Source} {owner repo : Text} {s t : Session}

/-! ## Reached sessions -/

/-- Whether a call leads from a session to one that is related to it. -/
def MovesBy (source : Source) (rel : Session → Session → Prop) : Call → Prop
  | .reference owner repo name => Moves rel (resolveReference source owner repo name)
  | .spec owner repo wanted => Moves rel (resolveSpec source owner repo wanted)
  | .latest owner repo version => Moves rel (latest source owner repo version)

/-- A relation between sessions that every call on a resolver respects. -/
structure Respected (source : Source) (rel : Session → Session → Prop) : Prop where
  refl : ∀ s, rel s s
  trans : ∀ s t u, rel s t → rel t u → rel s u
  reference : ∀ owner repo name, Moves rel (resolveReference source owner repo name)
  spec : ∀ owner repo wanted, Moves rel (resolveSpec source owner repo wanted)
  latest : ∀ owner repo version, Moves rel (latest source owner repo version)

section Respected

variable {rel : Session → Session → Prop} {call : Call} {calls : List Call}

theorem MovesBy.after (hmoves : MovesBy source rel call) (h : call.after source s = some t) :
    rel s t := by
  unfold Call.after at h
  cases call with
  | reference owner repo name =>
    obtain ⟨⟨r, u⟩, hrun, rfl⟩ := Option.map_eq_some_iff.1 h
    exact hmoves s r _ hrun
  | spec owner repo wanted =>
    obtain ⟨⟨r, u⟩, hrun, rfl⟩ := Option.map_eq_some_iff.1 h
    exact hmoves s r _ hrun
  | latest owner repo version =>
    obtain ⟨⟨r, u⟩, hrun, rfl⟩ := Option.map_eq_some_iff.1 h
    exact hmoves s r _ hrun

/-- What every call of a history respects, the whole history does. -/
theorem rel_of_afterCalls (hrefl : ∀ s, rel s s) (htrans : ∀ s t u, rel s t → rel t u → rel s u)
    (hmoves : ∀ call ∈ calls, MovesBy source rel call) (h : afterCalls source s calls = some t) :
    rel s t := by
  induction calls generalizing s with
  | nil =>
    cases h
    exact hrefl _
  | cons call rest ih =>
    obtain ⟨u, h1, h2⟩ := Option.bind_eq_some_iff.1 h
    obtain ⟨hcall, hrest⟩ := List.forall_mem_cons.1 hmoves
    exact htrans s u t (hcall.after h1) (ih hrest h2)

theorem Respected.movesBy (hrel : Respected source rel) (call : Call) :
    MovesBy source rel call := by
  cases call with
  | reference owner repo name => exact hrel.reference owner repo name
  | spec owner repo wanted => exact hrel.spec owner repo wanted
  | latest owner repo version => exact hrel.latest owner repo version

/-- What every call respects, a history of calls does. -/
theorem Respected.afterCalls (hrel : Respected source rel)
    (h : afterCalls source s calls = some t) : rel s t :=
  rel_of_afterCalls hrel.refl hrel.trans (fun call _ => hrel.movesBy call) h

end Respected

variable {asked : List (Text × Text)} {calls : List Call}

theorem movesBy_keeps (hblind : source.catalog.CaseBlind asked) {call : Call}
    (hasked : call.repository ∈ asked) : MovesBy source (Keeps source asked) call := by
  cases call with
  | reference owner repo name => exact resolveReference_keeps hblind hasked name
  | spec owner repo wanted => exact resolveSpec_keeps hblind hasked wanted
  | latest owner repo version => exact latest_keeps hblind hasked version

/-- **What a reached session remembers is true.** -/
theorem sound_of_afterCalls (hblind : source.catalog.CaseBlind asked)
    (hasked : ∀ call ∈ calls, call.repository ∈ asked)
    (h : afterCalls source .empty calls = some s) : s.Sound source asked :=
  rel_of_afterCalls progress_keeps.refl progress_keeps.trans
    (fun call hcall => movesBy_keeps hblind (hasked call hcall)) h (Session.sound_empty ..)

/-! ## One call -/

/-- Where nothing is remembered about a spec, the answer is the one without a memory. -/
theorem answer_resolveSpec_of_lookup_eq_none (hblind : source.catalog.CaseBlind asked)
    (hasked : (owner, repo) ∈ asked) (hs : s.Sound source asked) {spec : Text}
    (h : s.specs.lookup (specKey owner repo spec) = none) :
    (resolveSpec source owner repo spec).answer s =
      SpecRequest.fresh source ⟨owner, repo, spec⟩ := by
  by_cases hblank : Text.trim spec = []
  · rw [SpecRequest.fresh, resolveSpec_of_blank hblank]
    rfl
  rw [SpecRequest.fresh, answer_resolveSpec_miss hblank h, answer_resolveSpec_miss hblank rfl]
  exact (lookUp_parallel_of_sound hblind hasked hasked (Kin.self source owner repo) _ _ _).answer_eq
    ⟨hs, Session.sound_empty ..⟩

/-- Whether two sessions remember the same about specs. -/
def SameSpecs (s t : Session) : Prop := t.specs = s.specs

theorem progress_sameSpecs : Progress SameSpecs where
  refl _ := rfl
  trans _ _ _ h h' := Eq.trans h' h
  fetches _ _ := rfl

theorem resolveReference_sameSpecs (name : Text) :
    Moves SameSpecs (resolveReference source owner repo name) :=
  resolveReference_moves progress_sameSpecs fun _ _ _ _ _ => rfl

/-- Looking a version up adds references and no specs. -/
theorem lookUp_sameSpecs (spec normalized : Text) (kind : Version.Kind) :
    Moves SameSpecs (lookUp source owner repo spec normalized kind) :=
  (progress_sameSpecs.congruence source owner repo).lookUp resolveReference_sameSpecs spec
    normalized kind

theorem fresh_of_blank {spec : Text} (h : Text.trim spec = []) :
    SpecRequest.fresh source ⟨owner, repo, spec⟩ = some (.error .emptySpec) := by
  rw [SpecRequest.fresh, resolveSpec_of_blank h]
  rfl

/-- What resolving a spec adds to what is remembered. -/
theorem lookup_specs_of_resolveSpec (hblind : source.catalog.CaseBlind asked)
    (hasked : (owner, repo) ∈ asked) (hs : s.Sound source asked) {spec : Text}
    {result : Except Failure Resolution}
    (h : (resolveSpec source owner repo spec).runFrom s = some (result, t)) (k : CacheKey) :
    t.specs.lookup k = (s.specs.lookup k).or
      (if specKey owner repo spec = k then SpecRequest.found? source ⟨owner, repo, spec⟩
        else none) := by
  by_cases hblank : Text.trim spec = []
  · rw [resolveSpec_of_blank hblank] at h
    cases h
    rw [SpecRequest.found?, fresh_of_blank hblank]
    simp
  have hmemo := h
  rw [resolveSpec_eq_memo hblank] at hmemo
  have hfresh : s.specs.lookup (specKey owner repo spec) = none →
      SpecRequest.fresh source ⟨owner, repo, spec⟩ = some result := fun hlookup => by
    rw [← answer_resolveSpec_of_lookup_eq_none hblind hasked hs hlookup, answer_of_runFrom h]
  have hspecs : ∀ {r : Except Failure Resolution} {u : Session},
      (lookUp source owner repo (Text.trim spec) (Version.classify spec).2
        (Version.classify spec).1).runFrom s = some (r, u) → u.specs = s.specs :=
    lookUp_sameSpecs _ _ _ s _ _
  cases memoRun_of_runFrom hmemo with
  | hit hlookup =>
    split
    · rename_i hk
      rw [← hk, hlookup]
      rfl
    · rw [Option.or_none]
  | failed hlookup hrun =>
    rw [SpecRequest.found?, hfresh hlookup, hspecs hrun]
    simp
  | found hlookup hrun =>
    rw [SpecRequest.found?, hfresh hlookup, Session.lookup_addSpec, hspecs hrun]
    by_cases hk : k = specKey owner repo spec
    · rw [if_pos hk, if_pos hk.symm, hk, hlookup]
      rfl
    · rw [if_neg hk, if_neg (Ne.symm hk), Option.or_none]

/-- What a call adds to what is remembered about specs. -/
theorem lookup_specs_of_after (hblind : source.catalog.CaseBlind asked)
    (hs : s.Sound source asked) {call : Call} (hasked : call.repository ∈ asked)
    (h : call.after source s = some t) (k : CacheKey) :
    t.specs.lookup k = (s.specs.lookup k).or (firstFound source [call] k) := by
  have hspec : ∀ {owner repo wanted : Text} {r : Except Failure Resolution},
      (owner, repo) ∈ asked → (resolveSpec source owner repo wanted).runFrom s = some (r, t) →
      t.specs.lookup k = (s.specs.lookup k).or
        ([(⟨owner, repo, wanted⟩ : SpecRequest)].findSome? fun q =>
          if q.key = k then q.found? source else none) := by
    intro owner repo wanted r hasked hrun
    rw [lookup_specs_of_resolveSpec hblind hasked hs hrun, List.findSome?_singleton, SpecRequest.key]
  unfold Call.after at h
  cases call with
  | reference owner repo name =>
    obtain ⟨⟨r, u⟩, hrun, rfl⟩ := Option.map_eq_some_iff.1 h
    rw [show u.specs = s.specs from resolveReference_sameSpecs name s r u hrun]
    exact (Option.or_none).symm
  | spec owner repo wanted =>
    obtain ⟨⟨r, u⟩, hrun, rfl⟩ := Option.map_eq_some_iff.1 h
    exact hspec hasked hrun
  | latest owner repo version =>
    obtain ⟨⟨r, u⟩, hrun, rfl⟩ := Option.map_eq_some_iff.1 h
    rw [firstFound, List.filterMap_cons, Call.request?]
    cases hversion : version.filter fun v => !(Text.trim v).isEmpty with
    | some wanted =>
      rw [latest_of_asked hversion] at hrun
      exact hspec hasked hrun
    | none =>
      rw [latest_of_not_asked hversion] at hrun
      have hspecs : u.specs = s.specs := (progress_sameSpecs.congruence source owner repo).latest
        resolveReference_sameSpecs (fun _ hnone => by cases hnone) s r u hrun
      rw [hspecs]
      exact (Option.or_none).symm

/-! ## A history of calls -/

theorem firstFound_cons (call : Call) (rest : List Call) (k : CacheKey) :
    firstFound source (call :: rest) k =
      (firstFound source [call] k).or (firstFound source rest k) := by
  rw [firstFound, firstFound, firstFound, ← List.findSome?_append, ← List.filterMap_append]
  rfl

theorem lookup_specs_of_afterCalls (hblind : source.catalog.CaseBlind asked)
    (hs : s.Sound source asked) (hasked : ∀ call ∈ calls, call.repository ∈ asked)
    (h : afterCalls source s calls = some t) (k : CacheKey) :
    t.specs.lookup k = (s.specs.lookup k).or (firstFound source calls k) := by
  induction calls generalizing s with
  | nil =>
    cases h
    exact (Option.or_none).symm
  | cons call rest ih =>
    obtain ⟨u, h1, h2⟩ := Option.bind_eq_some_iff.1 h
    obtain ⟨hcall, hrest⟩ := List.forall_mem_cons.1 hasked
    have hu : u.Sound source asked := (movesBy_keeps hblind hcall).after h1 hs
    rw [ih hu hrest h2, lookup_specs_of_after hblind hs hcall h1, firstFound_cons call rest,
      Option.or_assoc]

/-- **What is remembered about a spec is what the first request under its key found.** -/
theorem lookup_specs_of_history (hblind : source.catalog.CaseBlind asked)
    (hasked : ∀ call ∈ calls, call.repository ∈ asked)
    (h : afterCalls source .empty calls = some s) (k : CacheKey) :
    s.specs.lookup k = firstFound source calls k :=
  (lookup_specs_of_afterCalls hblind (Session.sound_empty ..) hasked h k).trans (Option.none_or)

/-! ## Two spellings under one key -/

/-- The names that are tried for a request without searching a listing. -/
def namesTried (q : SpecRequest) : List Text :=
  match (Version.classify q.spec).1 with
  | .exact => spellings (Text.trim q.spec) (Version.classify q.spec).2
  | .literal => [Text.trim q.spec]
  | .minor | .major => []

theorem trim_ne_nil_of_found? {q : SpecRequest} {r : Resolution} (h : q.found? source = some r) :
    Text.trim q.spec ≠ [] := by
  intro hblank
  have hfresh := SpecRequest.found?_eq_some.1 h
  rw [fresh_of_blank hblank] at hfresh
  cases hfresh

/-- Requests with one key that try the same names find the same. -/
theorem found?_congr (hblind : source.catalog.CaseBlind asked) {q q' : SpecRequest}
    (hasked : q.repository ∈ asked) (hasked' : q'.repository ∈ asked) (hkey : q.key = q'.key)
    (hnames : namesTried q = namesTried q') {r : Resolution} (h : q.found? source = some r) : q'.found? source = some r := by
  have hne := trim_ne_nil_of_found? h
  obtain ⟨ho, hr, hform⟩ := key_eq_key_iff.1 hkey
  have hne' : Text.trim q'.spec ≠ [] := by
    rwa [Ne, ← Version.foldedForm_eq_nil_iff, ← hform, Version.foldedForm_eq_nil_iff]
  have hkind := Version.kind_eq_of_foldedForm_eq hform
  have hkin := kin_of_caseBlind hblind hasked hasked' ho hr
  have hsound : Session.Sound source asked .empty ∧ Session.Sound source asked .empty :=
    ⟨Session.sound_empty .., Session.sound_empty ..⟩
  rw [SpecRequest.found?_eq_some, SpecRequest.fresh] at h ⊢
  rw [answer_resolveSpec_miss hne rfl] at h
  rw [answer_resolveSpec_miss hne' rfl]
  rw [namesTried, namesTried] at hnames
  cases hk : (Version.classify q.spec).1 with
  | exact =>
    rw [← hkind, hk] at hnames
    rw [hk] at h
    rw [← hkind, hk]
    simp only at hnames
    refine Parallel.answer_ok (S := fun s s' => s.Sound source asked ∧ s'.Sound source asked)
      (R := Failure.SameClass) (.bind ?_ fun found => ?_) hsound h
    · rw [hnames]
      exact (congruence_of_sound hkin).firstExisting
        (resolveReference_parallel hblind hasked hasked' hkin) _
    · split
      · exact .pure _
      · exact .fail rfl
  | literal =>
    rw [← hkind, hk] at hnames
    rw [hk] at h
    rw [← hkind, hk, ← List.singleton_inj.1 hnames]
    exact (lookUp_parallel_of_sound hblind hasked hasked' hkin _ _ .literal).answer_ok hsound h
  | minor =>
    rw [hk] at h
    rw [← hkind, hk, ← Version.normal_eq_of_foldedForm_eq hform (by rw [hk]; decide)]
    exact (lookUp_parallel_of_sound hblind hasked hasked' hkin _ _ .minor).answer_ok hsound h
  | major =>
    rw [hk] at h
    rw [← hkind, hk, ← Version.normal_eq_of_foldedForm_eq hform (by rw [hk]; decide)]
    exact (lookUp_parallel_of_sound hblind hasked hasked' hkin _ _ .major).answer_ok hsound h

/-- A literal spec that is found without a memory is found under its own name. -/
theorem tag_of_found?_literal {q : SpecRequest} (hkind : (Version.classify q.spec).1 = .literal)
    {r : Resolution} (h : q.found? source = some r) : r.tag = Text.trim q.spec := by
  have hne := trim_ne_nil_of_found? h
  rw [SpecRequest.found?_eq_some, SpecRequest.fresh, answer_resolveSpec_miss hne rfl, hkind] at h
  obtain ⟨t, hrun⟩ := exists_runFrom_of_answer h
  obtain ⟨commit, u, -, hrun⟩ := runFrom_bind_eq_ok hrun
  cases hrun
  rfl

theorem exists_of_firstFound {calls : List Call} {k : CacheKey} {r : Resolution}
    (h : firstFound source calls k = some r) :
    ∃ q ∈ calls.filterMap Call.request?, q.key = k ∧ q.found? source = some r := by
  obtain ⟨q, hq, hfound⟩ := List.exists_of_findSome?_eq_some h
  split at hfound
  · rename_i hk
    exact ⟨q, hq, hk, hfound⟩
  · cases hfound

/-- The requests of a history are about the repositories of its calls. -/
theorem repository_mem_of_mem_requests (hasked : ∀ call ∈ calls, call.repository ∈ asked)
    {q : SpecRequest} (hq : q ∈ calls.filterMap Call.request?) : q.repository ∈ asked := by
  obtain ⟨call, hcall, hrequest⟩ := List.mem_filterMap.1 hq
  rw [Call.repository_of_request? hrequest]
  exact hasked call hcall

/-- What the first success under a key gives is given to every request with that key. -/
theorem answer_eq_firstFound (hblind : source.catalog.CaseBlind asked)
    (hasked : ∀ call ∈ calls, call.repository ∈ asked)
    (hcalls : afterCalls source .empty calls = some s) {q : SpecRequest}
    (hq : q.repository ∈ asked) :
    (resolveSpec source q.owner q.repo q.spec).answer s =
      match firstFound source calls q.key with
      | some r => some (.ok r)
      | none => q.fresh source := by
  have hs := sound_of_afterCalls hblind hasked hcalls
  have hlookup := lookup_specs_of_history hblind hasked hcalls q.key
  cases hfirst : firstFound source calls q.key with
  | none =>
    rw [hfirst] at hlookup
    exact answer_resolveSpec_of_lookup_eq_none hblind hq hs hlookup
  | some r =>
    rw [hfirst] at hlookup
    obtain ⟨q', -, hkey, hfound⟩ := exists_of_firstFound hfirst
    have hform := (key_eq_key_iff.1 hkey).2.2
    have hne : Text.trim q.spec ≠ [] := by
      rw [Ne, ← Version.foldedForm_eq_nil_iff, ← hform, Version.foldedForm_eq_nil_iff]
      exact trim_ne_nil_of_found? hfound
    rw [resolveSpec_eq_memo hne]
    exact answer_of_runFrom (runFrom_memo_of_some hlookup)

theorem answer_eq_fresh_of_namesTried (hblind : source.catalog.CaseBlind asked)
    (hasked : ∀ call ∈ calls, call.repository ∈ asked)
    (hcalls : afterCalls source .empty calls = some s) {q : SpecRequest}
    (hq : q.repository ∈ asked)
    (h : ∀ q' ∈ calls.filterMap Call.request?, q'.key = q.key → namesTried q' = namesTried q) :
    (resolveSpec source q.owner q.repo q.spec).answer s = q.fresh source := by
  rw [answer_eq_firstFound hblind hasked hcalls hq]
  cases hfirst : firstFound source calls q.key with
  | none => rfl
  | some r =>
    obtain ⟨q', hq', hkey, hfound⟩ := exists_of_firstFound hfirst
    exact (SpecRequest.found?_eq_some.1 (found?_congr hblind
      (repository_mem_of_mem_requests hasked hq') hq hkey (h q' hq' hkey) hfound)).symm

/-- **When the memory for specs shows.**  After any history of calls, a request gets what the first
success under its key found, and what it would find by itself if there was none.  So the memory
shows exactly when that success found something else.  It never does if all requests under the key
tried the same names, in particular for minor and major versions; and for a literal spec it shows
exactly when the tag is not spelled like the spec.  It is enough that the catalog is blind to case for
the repositories of these calls. -/
theorem answer_resolveSpec_of_history {calls : List Call} {q : SpecRequest}
    (hblind : source.catalog.CaseBlind (q.repository :: calls.map Call.repository))
    (hcalls : afterCalls source .empty calls = some s) :
    ((resolveSpec source q.owner q.repo q.spec).answer s =
      match firstFound source calls q.key with
      | some r => some (.ok r)
      | none => q.fresh source) ∧
    ((resolveSpec source q.owner q.repo q.spec).answer s = q.fresh source ↔
      ∀ r, firstFound source calls q.key = some r → q.fresh source = some (.ok r)) ∧
    ((∀ q' ∈ calls.filterMap Call.request?, q'.key = q.key → namesTried q' = namesTried q) →
      (resolveSpec source q.owner q.repo q.spec).answer s = q.fresh source) ∧
    ((Version.classify q.spec).1 = .minor ∨ (Version.classify q.spec).1 = .major →
      (resolveSpec source q.owner q.repo q.spec).answer s = q.fresh source) ∧
    ((Version.classify q.spec).1 = .literal →
      ∀ r, (resolveSpec source q.owner q.repo q.spec).answer s = some (.ok r) →
        (q.fresh source = some (.ok r) ↔ r.tag = Text.trim q.spec)) := by
  have hasked : ∀ call ∈ calls, call.repository ∈ q.repository :: calls.map Call.repository :=
    fun call hcall => List.mem_cons_of_mem _ (List.mem_map_of_mem hcall)
  have hanswer := answer_eq_firstFound hblind hasked hcalls List.mem_cons_self
  have hfresh := @answer_eq_fresh_of_namesTried _ _ _ _ hblind hasked hcalls _ List.mem_cons_self
  have hkinds : ∀ {q' : SpecRequest}, q'.key = q.key →
      (Version.classify q'.spec).1 = (Version.classify q.spec).1 := fun hkey =>
    Version.kind_eq_of_foldedForm_eq (key_eq_key_iff.1 hkey).2.2
  refine ⟨hanswer, ?_, hfresh, fun hkind => ?_,
    fun hkind r hr => ⟨fun hfresh => ?_, fun htag => ?_⟩⟩
  · rw [hanswer]
    cases firstFound source calls q.key with
    | none => simp
    | some r => simp [eq_comm]
  · refine hfresh fun q' _ hkey => ?_
    rw [namesTried, namesTried, hkinds hkey]
    rcases hkind with hkind | hkind <;> rw [hkind]
  · exact tag_of_found?_literal hkind (SpecRequest.found?_eq_some.2 hfresh)
  · rw [hanswer] at hr
    cases hfirst : firstFound source calls q.key with
    | none =>
      rw [hfirst] at hr
      exact hr
    | some r' =>
      rw [hfirst] at hr
      cases hr
      obtain ⟨q', hq', hkey, hfound⟩ := exists_of_firstFound hfirst
      have hkind' := (hkinds hkey).trans hkind
      have hnames : namesTried q' = namesTried q := by
        rw [namesTried, namesTried, hkind', hkind, ← htag, tag_of_found?_literal hkind' hfound]
      exact SpecRequest.found?_eq_some.1 (found?_congr hblind
        (repository_mem_of_mem_requests hasked hq') List.mem_cons_self hkey hnames hfound)

/-- A catalog in which every repository has a tag `stable`, and no other. -/
def stableOnly : Source := ⟨Catalog.ofEnding "/stable".toList (List.replicate 40 'a'), 1⟩

/-- What a resolver remembers once it has resolved `stable` in `o/r`. -/
def stableSession : Session where
  references := [(Session.key ['o'] ['r'] "stable".toList, List.replicate 40 'a')]
  specs := [(Session.key ['o'] ['r'] "stable".toList, ⟨"stable".toList, List.replicate 40 'a'⟩)]
  fetched := ["repos/o/r/git/ref/tags/stable".toList]

theorem answer_resolveSpec_of_history_stable :
    afterCalls stableOnly .empty [.spec ['o'] ['r'] "stable".toList] = some stableSession ∧
      ((resolveSpec stableOnly ['O'] ['r'] "Stable".toList).answer stableSession =
          SpecRequest.fresh stableOnly ⟨['O'], ['r'], "Stable".toList⟩ ↔
        ∀ r, firstFound stableOnly [.spec ['o'] ['r'] "stable".toList]
            (SpecRequest.key ⟨['O'], ['r'], "Stable".toList⟩) = some r →
          SpecRequest.fresh stableOnly ⟨['O'], ['r'], "Stable".toList⟩ = some (.ok r)) :=
  have hcalls : afterCalls stableOnly .empty [.spec ['o'] ['r'] "stable".toList] =
      some stableSession := by decide +kernel
  ⟨hcalls, (answer_resolveSpec_of_history (q := ⟨['O'], ['r'], "Stable".toList⟩)
    (Catalog.caseBlind_ofEnding (by decide) _ _) hcalls).2.1⟩

/-- **The memory for specs is not transparent.**  Once `stable` was resolved, `Stable` resolves too,
and to `stable`; without a memory it is not found. -/
theorem stable_answers_for_capital_stable :
    (∀ asked, stableOnly.catalog.CaseBlind asked) ∧
      afterCalls stableOnly .empty [.spec ['o'] ['r'] "stable".toList] = some stableSession ∧
      (resolveSpec stableOnly ['o'] ['r'] "Stable".toList).answer stableSession =
        some (.ok ⟨"stable".toList, List.replicate 40 'a'⟩) ∧
      SpecRequest.fresh stableOnly ⟨['o'], ['r'], "Stable".toList⟩ =
        some (.error (.notFound "repos/o/r/git/ref/tags/Stable".toList)) := by
  refine ⟨Catalog.caseBlind_ofEnding (by decide) _, ?_, ?_, ?_⟩ <;> decide +kernel

end Resolver

end PinnedActions
