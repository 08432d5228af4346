import PinnedActions.Proofs.Resolver.Commits

/-!
# What a resolver answers is right

A resolver may be asked for commits, for versions and for the latest version, and its listings may be
searched in between, in any order and any number of times.  Whatever it was asked before, what it
answers is right (`answers_of_inquiries`):

* the tag that it gives for a version satisfies the version, and the commit is in lowercase and is
  the one that the tag has for a resolver that remembers nothing;
* the latest version is the latest release with the commit of its tag, or else, when there is no
  release to be had, the first tag of the listing (`IsLatest`).
-/

set_option autoImplicit false

namespace PinnedActions

/-- What a resolver can be asked: to answer a call, or just to search its listings. -/
inductive Inquiry where
  | call (call : Call)
  | search (owner repo normalized : Text) (kind : Version.Kind)
deriving DecidableEq, Repr

/-- The repository of an inquiry, by owner and name. -/
def Inquiry.repository : Inquiry → Text × Text
  | call c => c.repository
  | search owner repo _ _ => (owner, repo)

/-- The session after an inquiry, when the inquiry ends. -/
def Inquiry.after (source : Source) (s : Session) : Inquiry → Option Session
  | call c => c.after source s
  | search owner repo normalized kind =>
    ((Resolver.findMatchingTag source owner repo normalized kind).runFrom s).map Prod.snd

/-- The session after several inquiries, when all of them end. -/
def afterInquiries (source : Source) (s : Session) (inquiries : List Inquiry) : Option Session :=
  inquiries.foldlM (Inquiry.after source) s

namespace Catalog

/-- The catalog that answers a path by the first of several endings that it has, and knows nothing
else. -/
def ofEndings (table : List (Text × Json)) : Catalog := fun path =>
  match table.find? fun p => p.1.isSuffixOf path with
  | some p => .ok p.2
  | none => .error (.notFound path)

theorem caseBlind_ofEndings {table : List (Text × Json)} (h : ∀ p ∈ table, p.1.length ≤ 9)
    (asked : List (Text × Text)) : (ofEndings table).CaseBlind asked := by
  intro owner repo owner' repo' _ _ _ _ e
  have hfind : table.find? (fun p => p.1.isSuffixOf (e.path owner repo)) =
      table.find? fun p => p.1.isSuffixOf (e.path owner' repo') := by
    induction table with
    | nil => rfl
    | cons p rest ih =>
      have hp := h p List.mem_cons_self
      rw [List.find?_cons, List.find?_cons, isSuffixOf_path hp, isSuffixOf_path hp,
        ih fun q hq => h q (List.mem_cons_of_mem p hq)]
  rw [ofEndings, ofEndings, hfind]
  split
  · exact .value _
  · exact .failure rfl

end Catalog

namespace Resolver

open Walk

variable {source : Source} {asked : List (Text × Text)} {owner repo : Text} {s t : Session}

/-! ## Any sequence of inquiries -/

/-- **What a resolver remembers is true**, whatever it was asked. -/
theorem sound_of_inquiries (hblind : source.catalog.CaseBlind asked)
    {inquiries : List Inquiry} (hasked : ∀ inquiry ∈ inquiries, inquiry.repository ∈ asked)
    (hs : s.Sound source asked) (h : afterInquiries source s inquiries = some t) :
    t.Sound source asked := by
  induction inquiries generalizing s with
  | nil =>
    cases h
    exact hs
  | cons inquiry rest ih =>
    obtain ⟨u, h1, h2⟩ := Option.bind_eq_some_iff.1 h
    obtain ⟨hinquiry, hrest⟩ := List.forall_mem_cons.1 hasked
    refine ih hrest ?_ h2
    cases inquiry with
    | call c => exact (movesBy_keeps hblind hinquiry).after h1 hs
    | search owner repo normalized kind =>
      obtain ⟨⟨r, v⟩, hrun, rfl⟩ := Option.map_eq_some_iff.1 h1
      obtain ⟨paths, rfl⟩ := (findMatchingTag_onlyAsks normalized kind).exists_addFetches hrun
      exact progress_keeps.fetches s paths hs

/-! ## Commits -/

/-- A commit that is found without a memory is in lowercase. -/
theorem lowercase_of_freshCommit {name commit : Text}
    (h : freshCommit source owner repo name = some (.ok commit)) :
    Text.lowercase commit = commit := by
  obtain ⟨t, hrun⟩ := exists_runFrom_of_answer h
  exact (resolveReference_ensures supplies_lowercase name .empty _ t Session.commitsAre_empty
    hrun).2 commit rfl

/-! ## The latest version -/

/-- Whether there is no release to be had that counts as the latest: the catalog has none, or it has
no name, or no tag has its name. -/
def LacksRelease (source : Source) (owner repo : Text) : Prop :=
  (∃ f, f.isNotFound = true ∧
    reply source (Endpoint.path owner repo .latestRelease) Payload.release = .error f) ∨
  ∃ release, reply source (Endpoint.path owner repo .latestRelease) Payload.release = .ok release ∧
    (release.tagName = [] ∨
      ∃ f, f.isNotFound = true ∧ freshCommit source owner repo release.tagName = some (.error f))

/-- What the latest version of a repository may be. -/
inductive IsLatest (source : Source) (owner repo : Text) : Resolution → Prop where
  /-- The release that counts as the latest, with the commit of its tag. -/
  | release {release : Release} {commit : Text}
      (hrelease : reply source (Endpoint.path owner repo .latestRelease) Payload.release =
        .ok release)
      (hname : release.tagName ≠ [])
      (hcommit : freshCommit source owner repo release.tagName = some (.ok commit)) :
      IsLatest source owner repo ⟨release.tagName, commit⟩
  /-- Without such a release, the first tag of the listing, with the commit given there. -/
  | tag {name hash : Text} {rest : List Tag} (hlacks : LacksRelease source owner repo)
      (htags : reply source (Endpoint.path owner repo .newestTag) Payload.tags =
        .ok (⟨name, some hash⟩ :: rest)) :
      IsLatest source owner repo ⟨name, Text.lowercase hash⟩

/-- What is found is the latest release; where nothing is found, there is none to be had. -/
theorem latestRelease_spec (hs : s.Sound source asked) (hasked : (owner, repo) ∈ asked)
    {found : Option Resolution}
    (h : (latestRelease source owner repo).runFrom s = some (.ok found, t)) :
    (found = none ∧ LacksRelease source owner repo) ∨
      ∃ r, found = some r ∧ IsLatest source owner repo r := by
  unfold latestRelease at h
  obtain ⟨release?, u, hfetch, h⟩ := runFrom_bind_eq_ok h
  rcases runFrom_ifFound_eq_ok hfetch with ⟨release, rfl, hrun⟩ | ⟨rfl, f, hf, hrun⟩
  · rw [runFrom_fetch] at hrun
    obtain ⟨hrelease, rfl⟩ := Prod.mk.inj (Option.some.inj hrun)
    simp only at h
    split at h
    · rename_i hempty
      cases h
      exact .inl ⟨rfl, .inr ⟨release, hrelease, .inl (by simpa using hempty)⟩⟩
    · rename_i hname
      obtain ⟨commit?, v, hcommit, h⟩ := runFrom_bind_eq_ok h
      have hfresh : (resolveReference source owner repo release.tagName).answer _ =
          freshCommit source owner repo release.tagName :=
        answer_resolveReference
          (progress_keeps.fetches s [Endpoint.path owner repo .latestRelease] hs) hasked _
      rcases runFrom_ifFound_eq_ok hcommit with ⟨commit, rfl, hrun⟩ | ⟨rfl, f, hf, hrun⟩
      · cases h
        exact .inr ⟨_, rfl, .release hrelease (by simpa using hname)
          (hfresh.symm.trans (answer_of_runFrom hrun))⟩
      · cases h
        exact .inl ⟨rfl, .inr ⟨release, hrelease,
          .inr ⟨f, hf, hfresh.symm.trans (answer_of_runFrom hrun)⟩⟩⟩
  · rw [runFrom_fetch] at hrun
    cases h
    exact .inl ⟨rfl, .inl ⟨f, hf, (Prod.mk.inj (Option.some.inj hrun)).1⟩⟩

theorem newestTag_spec (hlacks : LacksRelease source owner repo) {r : Resolution}
    (h : (newestTag source owner repo).runFrom s = some (.ok r, t)) :
    IsLatest source owner repo r := by
  unfold newestTag at h
  obtain ⟨tags, u, hfetch, h⟩ := runFrom_bind_eq_ok h
  rw [runFrom_fetch] at hfetch
  have htags := (Prod.mk.inj (Option.some.inj hfetch)).1
  split at h
  · cases h
    exact .tag hlacks htags
  · cases h

/-- **The latest version is the latest release, or else the newest tag.** -/
theorem isLatest_of_latest (hs : s.Sound source asked) (hasked : (owner, repo) ∈ asked)
    {version : Option Text}
    (hversion : (version.filter fun v => !(Text.trim v).isEmpty) = none) {r : Resolution}
    (h : (latest source owner repo version).runFrom s = some (.ok r, t)) :
    IsLatest source owner repo r := by
  rw [latest_of_not_asked hversion] at h
  obtain ⟨found, u, hrelease, h⟩ := runFrom_bind_eq_ok h
  rcases latestRelease_spec hs hasked hrelease with ⟨rfl, hlacks⟩ | ⟨r', rfl, hlatest⟩
  · exact newestTag_spec hlacks h
  · cases h
    exact hlatest

/-! ## All answers -/

/-- **What a resolver answers is right**, whatever it was asked before.  The tag that it gives for a
version satisfies the version, and the commit is in lowercase and is the one that the tag has without
a memory.  What it gives for the latest version, when no version is asked for, is the latest release
or else the newest tag.  It is enough that the catalog is blind to case for the repositories that the
resolver is asked about. -/
theorem answers_of_inquiries {inquiries : List Inquiry}
    (hblind : source.catalog.CaseBlind ((owner, repo) :: inquiries.map Inquiry.repository))
    (h : afterInquiries source .empty inquiries = some s) :
    (∀ spec r t, (resolveSpec source owner repo spec).runFrom s = some (.ok r, t) →
      Text.lowercase r.commit = r.commit ∧
      freshCommit source owner repo r.tag = some (.ok r.commit) ∧
      Version.satisfies r.tag (Version.classify spec).2 (Version.classify spec).1 = true) ∧
    ∀ version r t, (version.filter fun v => !(Text.trim v).isEmpty) = none →
      (latest source owner repo version).runFrom s = some (.ok r, t) →
        IsLatest source owner repo r := by
  have hasked : (owner, repo) ∈ (owner, repo) :: inquiries.map Inquiry.repository :=
    List.mem_cons_self
  have hs := sound_of_inquiries hblind
    (fun inquiry hinquiry => List.mem_cons_of_mem _ (List.mem_map_of_mem hinquiry))
    (Session.sound_empty ..) h
  refine ⟨fun spec r t hrun => ?_, fun version r t hversion hrun =>
    isLatest_of_latest hs hasked hversion hrun⟩
  obtain ⟨hsatisfies, hcommit⟩ := serves_of_resolveSpec hblind hasked hs hrun
  exact ⟨lowercase_of_freshCommit hcommit, hcommit, hsatisfies⟩

/-- A catalog in which the latest release of every repository is `v1.0.0`, and that tag exists. -/
def released : Source := ⟨Catalog.ofEndings [
  ("s/latest".toList, .obj [("tag_name".toList, .str "v1.0.0".toList)]),
  ("/v1.0.0".toList, .obj [("object".toList,
    .obj [("sha".toList, .str (List.replicate 40 'A')), ("type".toList, .str commitType)])])], 1⟩

/-- What a resolver remembers of it after a search that was in vain and a version that was found. -/
def releasedSession : Session where
  references := [(Session.key ['o'] ['r'] "v1.0.0".toList, List.replicate 40 'a')]
  specs := [(Session.key ['o'] ['r'] "v1.0.0".toList, ⟨"v1.0.0".toList, List.replicate 40 'a'⟩)]
  fetched := ["repos/o/r/git/ref/tags/v1.0.0".toList, "repos/o/r/tags?per_page=100&page=1".toList,
    "repos/o/r/releases?per_page=100&page=1".toList]

theorem answers_of_inquiries_released :
    afterInquiries released .empty [.search ['o'] ['r'] "v1".toList .major,
        .call (.spec ['o'] ['r'] "1.0.0".toList)] = some releasedSession ∧
      Version.satisfies "v1.0.0".toList (Version.classify "V1.0.0".toList).2
        (Version.classify "V1.0.0".toList).1 = true ∧
      IsLatest released ['O'] ['R'] ⟨"v1.0.0".toList, List.replicate 40 'a'⟩ :=
  have hinquiries : afterInquiries released .empty [.search ['o'] ['r'] "v1".toList .major,
      .call (.spec ['o'] ['r'] "1.0.0".toList)] = some releasedSession := by decide +kernel
  have hspec : (resolveSpec released ['O'] ['r'] "V1.0.0".toList).runFrom releasedSession =
      some (.ok ⟨"v1.0.0".toList, List.replicate 40 'a'⟩, releasedSession) := by decide +kernel
  have hlatest : (latest released ['O'] ['R'] none).answer releasedSession =
      some (.ok ⟨"v1.0.0".toList, List.replicate 40 'a'⟩) := by decide +kernel
  have ⟨_, hrun⟩ := exists_runFrom_of_answer hlatest
  have hblind := Catalog.caseBlind_ofEndings (by decide)
  ⟨hinquiries, ((answers_of_inquiries (hblind _) hinquiries).1 _ _ _ hspec).2.2,
    (answers_of_inquiries (hblind _) hinquiries).2 none _ _ rfl hrun⟩

end Resolver

end PinnedActions
