import PinnedActions.Proofs.Resolver.Lookup
import PinnedActions.Proofs.Version.Kind

/-!
# What a resolver remembers is true

A session is **sound** for a catalog when everything it remembers could be found out again: the
commit under a reference is what a resolver that remembers nothing would answer, and the result
under a version spec is a tag that satisfies the spec, with its commit.  Both are said of every
spelling that is filed under the same key, not just of the one that was looked up.  So the catalog
has to be **blind to case**, that is, to say the same about a repository in whatever letter case.  All
of this is relative to a list of the repositories that are asked about, in the spellings that are used
for them: nothing is said, and nothing has to be assumed, about others.

Looking something up keeps a session sound (`resolveSpec_keeps`, `latest_keeps`), and what is looked
up in a sound session is right (`serves_of_resolveSpec`).
-/

set_option autoImplicit false

namespace PinnedActions

/-- Two failures that a search for a version treats alike. -/
def Failure.SameClass (f f' : Failure) : Prop := f.isNotFound = f'.isNotFound

/-- Whether a catalog says the same about repositories of a list, given by owner and name, that differ
in letter case only: the same answer, or failures of one class. -/
def Catalog.CaseBlind (catalog : Catalog) (asked : List (Text × Text)) : Prop :=
  ∀ owner repo owner' repo' : Text, (owner, repo) ∈ asked → (owner', repo') ∈ asked →
    Text.lowercase owner = Text.lowercase owner' → Text.lowercase repo = Text.lowercase repo' →
    ∀ e : Endpoint,
      Walk.Alike Failure.SameClass (catalog (e.path owner repo)) (catalog (e.path owner' repo'))

namespace Catalog

/-- The catalog that answers every path with a certain ending by one commit, and knows nothing
else. -/
def ofEnding (ending hash : Text) : Catalog := fun path =>
  if ending.isSuffixOf path then
    .ok (.obj [("object".toList,
      .obj [("sha".toList, .str hash), ("type".toList, .str Resolver.commitType)])])
  else .error (.notFound path)

theorem length_suffix (e : Endpoint) : 9 ≤ e.suffix.length := by
  have happend : ∀ l r : Text, 9 ≤ l.length → 9 ≤ (l ++ r).length := fun l r h => by
    rw [List.length_append]
    omega
  cases e with
  | tagReference name => exact happend _ _ (by decide)
  | tagObject hash => exact happend _ _ (by decide)
  | releases page => exact happend _ _ (happend _ _ (happend _ _ (by decide)))
  | tags page => exact happend _ _ (happend _ _ (happend _ _ (by decide)))
  | latestRelease => decide
  | newestTag => decide

/-- An ending that is no longer than any question belongs to the question. -/
theorem isSuffixOf_path {ending owner repo : Text} {e : Endpoint} (h : ending.length ≤ 9) :
    ending.isSuffixOf (e.path owner repo) = ending.isSuffixOf e.suffix := by
  have hsuffix : e.suffix <:+ e.path owner repo :=
    ⟨"repos/".toList ++ owner ++ '/' :: repo ++ ['/'], List.append_assoc ..⟩
  rw [Bool.eq_iff_iff, List.isSuffixOf_iff_suffix, List.isSuffixOf_iff_suffix]
  have hlength := Nat.le_trans h (length_suffix e)
  exact ⟨fun h' => List.suffix_of_suffix_length_le h' hsuffix hlength, fun h' => h'.trans hsuffix⟩

theorem caseBlind_ofEnding {ending : Text} (h : ending.length ≤ 9) (hash : Text)
    (asked : List (Text × Text)) : (ofEnding ending hash).CaseBlind asked := by
  intro owner repo owner' repo' _ _ _ _ e
  rw [ofEnding, ofEnding, isSuffixOf_path h, isSuffixOf_path h]
  split
  · exact .value _
  · exact .failure rfl

end Catalog

namespace Resolver

open Walk

variable {source : Source} {asked : List (Text × Text)} {owner repo owner' repo' : Text}
  {s t : Session}

theorem key_eq_key_iff {name name' : Text} :
    Session.key owner repo name = Session.key owner' repo' name' ↔
      Text.lowercase owner = Text.lowercase owner' ∧ Text.lowercase repo = Text.lowercase repo' ∧
        name = name' := by
  simp [Session.key]

theorem kin_of_caseBlind (hblind : source.catalog.CaseBlind asked)
    (hasked : (owner, repo) ∈ asked) (hasked' : (owner', repo') ∈ asked)
    (ho : Text.lowercase owner = Text.lowercase owner')
    (hr : Text.lowercase repo = Text.lowercase repo') :
    Kin source Failure.SameClass owner repo owner' repo' where
  isNotFound _ _ h := h
  answers := hblind owner repo owner' repo' hasked hasked' ho hr
  decode _ _ := rfl
  raises f f' h := by cases h <;> rfl

/-! ## Without a memory -/

/-- The commit of a reference for a resolver that remembers nothing. -/
def freshCommit (source : Source) (owner repo name : Text) : Option (Except Failure Text) :=
  (resolveReference source owner repo name).answer .empty

theorem freshCommit_of_not_isFullHash {name : Text} (h : Version.isFullHash name = false)
    (s : Session) : freshCommit source owner repo name =
      (dereference source owner repo name).answer s := by
  rw [freshCommit, resolveReference_eq_memo h, answer_memo_of_none (by rfl)]
  exact (dereference_onlyAsks name).answer_eq .empty s

/-- The letter case of a repository does not matter for the commits of its references. -/
theorem freshCommit_congr (hblind : source.catalog.CaseBlind asked)
    (hasked : (owner, repo) ∈ asked) (hasked' : (owner', repo') ∈ asked)
    (ho : Text.lowercase owner = Text.lowercase owner')
    (hr : Text.lowercase repo = Text.lowercase repo') {name commit : Text}
    (h : freshCommit source owner repo name = some (.ok commit)) :
    freshCommit source owner' repo' name = some (.ok commit) := by
  cases hhash : Version.isFullHash name with
  | true =>
    rw [freshCommit, resolveReference_of_hash hhash] at h ⊢
    exact h
  | false =>
    rw [freshCommit_of_not_isFullHash hhash .empty] at h ⊢
    have hparallel := (kin_of_caseBlind hblind hasked hasked' ho hr).congruence (S := fun _ _ => True)
      fun _ _ _ _ _ => trivial
    exact (hparallel.dereference name).answer_ok trivial h

/-- Whether a resolution serves a spec: its tag satisfies the spec, and its commit is that of the
tag. -/
def Serves (source : Source) (owner repo spec : Text) (r : Resolution) : Prop :=
  Version.satisfies r.tag (Version.classify spec).2 (Version.classify spec).1 = true ∧
    freshCommit source owner repo r.tag = some (.ok r.commit)

/-- What a spec is filed under. -/
def specKey (owner repo spec : Text) : CacheKey :=
  Session.key owner repo (Version.foldedForm spec)

/-- What serves a spec serves every spec that is filed under the same key. -/
theorem Serves.congr (hblind : source.catalog.CaseBlind asked) (hasked : (owner, repo) ∈ asked)
    (hasked' : (owner', repo') ∈ asked) {spec spec' : Text} {r : Resolution}
    (hkey : specKey owner repo spec = specKey owner' repo' spec')
    (h : Serves source owner repo spec r) : Serves source owner' repo' spec' r := by
  obtain ⟨ho, hr, hform⟩ := key_eq_key_iff.1 hkey
  refine ⟨?_, freshCommit_congr hblind hasked hasked' ho hr h.2⟩
  rw [← Version.kind_eq_of_foldedForm_eq hform, ← Version.satisfies_congr hform]
  exact h.1

end Resolver

/-! ## Sound sessions -/

/-- Whether everything that a session remembers of the repositories of a list could be found out
again. -/
structure Session.Sound (source : Source) (asked : List (Text × Text)) (s : Session) : Prop where
  references : ∀ owner repo name commit, (owner, repo) ∈ asked →
    s.references.lookup (Session.key owner repo name) = some commit →
      Resolver.freshCommit source owner repo name = some (.ok commit)
  specs : ∀ owner repo spec r, (owner, repo) ∈ asked →
    s.specs.lookup (Resolver.specKey owner repo spec) = some r →
      Resolver.Serves source owner repo spec r

namespace Session

variable {s : Session}

theorem sound_empty (source : Source) (asked : List (Text × Text)) : Sound source asked .empty where
  references _ _ _ _ _ h := by cases h
  specs _ _ _ _ _ h := by cases h

theorem lookup_addReference (k k' : CacheKey) (commit : Text) :
    (s.addReference k commit).references.lookup k' =
      if k' = k then some commit else s.references.lookup k' := by
  by_cases h : k' = k
  · simp [addReference, h]
  · simp [addReference, List.lookup_cons, h, beq_false_of_ne h]

theorem lookup_addSpec (k k' : CacheKey) (r : Resolution) :
    (s.addSpec k r).specs.lookup k' = if k' = k then some r else s.specs.lookup k' := by
  by_cases h : k' = k
  · simp [addSpec, h]
  · simp [addSpec, List.lookup_cons, h, beq_false_of_ne h]

end Session

namespace Resolver

open Walk

variable {source : Source} {asked : List (Text × Text)} {owner repo owner' repo' : Text}
  {s t : Session}

/-- Whether a sound session stays sound. -/
def Keeps (source : Source) (asked : List (Text × Text)) (s t : Session) : Prop :=
  s.Sound source asked → t.Sound source asked

theorem progress_keeps : Progress (Keeps source asked) where
  refl _ h := h
  trans _ _ _ h h' hs := h' (h hs)
  fetches _ _ h := ⟨h.references, h.specs⟩

theorem resolveReference_keeps (hblind : source.catalog.CaseBlind asked)
    (hasked : (owner, repo) ∈ asked) (name : Text) :
    Moves (Keeps source asked) (resolveReference source owner repo name) := by
  refine resolveReference_moves progress_keeps fun s commit hhash _ hfresh hs => ?_
  refine ⟨fun o r n c hasked' hlookup => ?_, hs.specs⟩
  rw [Session.lookup_addReference] at hlookup
  split at hlookup
  · rename_i hkey
    obtain ⟨ho, hr, rfl⟩ := key_eq_key_iff.1 hkey
    cases hlookup
    rw [← freshCommit_of_not_isFullHash hhash s] at hfresh
    exact freshCommit_congr hblind hasked hasked' ho.symm hr.symm hfresh
  · exact hs.references o r n c hasked' hlookup

/-- In a sound session a reference has the commit that it has without a memory. -/
theorem answer_resolveReference (hs : s.Sound source asked) (hasked : (owner, repo) ∈ asked)
    (name : Text) :
    (resolveReference source owner repo name).answer s = freshCommit source owner repo name := by
  cases hhash : Version.isFullHash name with
  | true => rw [freshCommit, resolveReference_of_hash hhash]; rfl
  | false =>
    rw [resolveReference_eq_memo hhash]
    cases hlookup : s.references.lookup (Session.key owner repo name) with
    | some commit =>
      rw [hs.references owner repo name commit hasked hlookup,
        answer_of_runFrom (runFrom_memo_of_some hlookup)]
    | none => rw [freshCommit_of_not_isFullHash hhash s, answer_memo_of_none hlookup]

theorem freshCommit_of_runFrom {name commit : Text} (hs : s.Sound source asked)
    (hasked : (owner, repo) ∈ asked)
    (h : (resolveReference source owner repo name).runFrom s = some (.ok commit, t)) :
    freshCommit source owner repo name = some (.ok commit) := by
  rw [← answer_resolveReference hs hasked, answer_of_runFrom h]

/-- What resolving references gives under two spellings of a repository does not depend on what is
remembered about it. -/
theorem resolveReference_parallel (hblind : source.catalog.CaseBlind asked)
    (hasked : (owner, repo) ∈ asked) (hasked' : (owner', repo') ∈ asked)
    {R : Failure → Failure → Prop} (hkin : Kin source R owner repo owner' repo') (name : Text) :
    Parallel (fun s s' => s.Sound source asked ∧ s'.Sound source asked) R
      (resolveReference source owner repo name) (resolveReference source owner' repo' name) := by
  rintro s s' ⟨hs, hs'⟩
  cases hhash : Version.isFullHash name with
  | true =>
    rw [resolveReference_of_hash hhash, resolveReference_of_hash hhash]
    exact .ended (.value _) ⟨hs, hs'⟩
  | false =>
    have hparallel := hkin.congruence (S := fun _ _ => True) fun _ _ _ _ _ => trivial
    refine (hparallel.dereference name s s' trivial).of_results ?_ ?_ fun r r' t t' h h' => ?_
    · rw [← answer, ← answer, answer_resolveReference hs hasked, freshCommit_of_not_isFullHash hhash]
    · rw [← answer, ← answer, answer_resolveReference hs' hasked', freshCommit_of_not_isFullHash hhash]
    · exact ⟨resolveReference_keeps hblind hasked name s r t h hs,
        resolveReference_keeps hblind hasked' name s' r' t' h' hs'⟩

/-- Walks for two spellings of a repository are parallel in sound sessions. -/
theorem congruence_of_sound {R : Failure → Failure → Prop}
    (hkin : Kin source R owner repo owner' repo') :
    Congruence source source owner repo owner' repo' fun _ w w' =>
      Parallel (fun s s' => s.Sound source asked ∧ s'.Sound source asked) R w w' :=
  hkin.congruence fun s s' path path' h =>
    ⟨progress_keeps.fetches s [path] h.1, progress_keeps.fetches s' [path'] h.2⟩

theorem lookUp_parallel_of_sound (hblind : source.catalog.CaseBlind asked)
    (hasked : (owner, repo) ∈ asked) (hasked' : (owner', repo') ∈ asked)
    {R : Failure → Failure → Prop} (hkin : Kin source R owner repo owner' repo')
    (spec normalized : Text) (kind : Version.Kind) :
    Parallel (fun s s' => s.Sound source asked ∧ s'.Sound source asked) R
      (lookUp source owner repo spec normalized kind)
      (lookUp source owner' repo' spec normalized kind) :=
  (congruence_of_sound hkin).lookUp (resolveReference_parallel hblind hasked hasked' hkin) spec
    normalized kind

theorem lookUp_keeps (hblind : source.catalog.CaseBlind asked) (hasked : (owner, repo) ∈ asked)
    (spec normalized : Text) (kind : Version.Kind) :
    Moves (Keeps source asked) (lookUp source owner repo spec normalized kind) :=
  (progress_keeps.congruence source owner repo).lookUp (resolveReference_keeps hblind hasked) spec
    normalized kind

/-! ## What is looked up is right -/

theorem mem_of_mem_distinctIgnoringCase {name : Text} {candidates : List Text}
    (h : name ∈ distinctIgnoringCase candidates) : name ∈ candidates := by
  suffices hsuff : ∀ kept : List Text,
      name ∈ candidates.foldl (fun kept c =>
        if c.isEmpty || kept.any (Text.sameIgnoringCase · c) then kept else c :: kept) kept →
      name ∈ kept ∨ name ∈ candidates by
    simpa using hsuff [] (List.mem_reverse.1 h)
  clear h
  induction candidates with
  | nil => simp
  | cons c rest ih =>
    intro kept h
    rw [List.foldl_cons] at h
    split at h
    · rcases ih kept h with h | h
      · exact .inl h
      · exact .inr (List.mem_cons_of_mem c h)
    · rcases ih _ h with h | h
      · rcases List.mem_cons.1 h with rfl | h
        · exact .inr List.mem_cons_self
        · exact .inl h
      · exact .inr (List.mem_cons_of_mem c h)

/-- All spellings of a recognised version spell the same number. -/
theorem digitsOf_of_mem_spellings {spec name : Text} (hspec : Text.trim spec = spec)
    (hkind : (Version.classify spec).1 ≠ .literal)
    (h : name ∈ spellings spec (Version.classify spec).2) :
    Version.digitsOf name = Version.digitsOf (Version.classify spec).2 := by
  have hdigits := Version.digitsOf_normal hkind
  rw [hspec] at hdigits
  have h := mem_of_mem_distinctIgnoringCase h
  simp only [List.mem_cons, List.not_mem_nil, or_false] at h
  rcases h with rfl | rfl | rfl
  · rfl
  · exact hdigits.symm
  · rw [hdigits]
    cases spec with
    | nil => rfl
    | cons c rest =>
      rw [withoutV]
      split
      · rename_i hc
        rw [Version.classify_fst, hspec] at hkind
        exact Version.digitsOf_of_leadingV hc hkind
      · rfl

theorem firstExisting_eq_some (hblind : source.catalog.CaseBlind asked)
    (hasked : (owner, repo) ∈ asked) {names : List Text} {r : Resolution}
    (hs : s.Sound source asked)
    (h : (firstExisting source owner repo names).runFrom s = some (.ok (some r), t)) :
    r.tag ∈ names ∧ freshCommit source owner repo r.tag = some (.ok r.commit) := by
  induction names generalizing s with
  | nil => cases h
  | cons name rest ih =>
    rw [firstExisting] at h
    obtain ⟨found, u, h1, h2⟩ := runFrom_bind_eq_ok h
    rcases runFrom_ifFound_eq_ok h1 with ⟨commit, rfl, hrun⟩ | ⟨rfl, f, -, hrun⟩
    · cases h2
      exact ⟨List.mem_cons_self, freshCommit_of_runFrom hs hasked hrun⟩
    · have hu : u.Sound source asked := resolveReference_keeps hblind hasked name s _ _ hrun hs
      obtain ⟨hmem, hfresh⟩ := ih hu h2
      exact ⟨List.mem_cons_of_mem name hmem, hfresh⟩

theorem satisfies_of_searchFrom {α : Type} {path : Nat → Text}
    {read : Json → Except Mismatch (List α)} {pick : α → Option Text} {p : Text → Prop}
    (hpick : ∀ entry name, pick entry = some name → p name) {patience page : Nat} {name : Text}
    (h : (searchFrom source path read pick patience page).runFrom s = some (.ok (some name), t)) :
    p name := by
  induction patience generalizing page s with
  | zero => cases h
  | succ patience ih =>
    rw [searchFrom] at h
    obtain ⟨entries, u, -, h⟩ := runFrom_bind_eq_ok h
    split at h
    · cases h
    · split at h
      · rename_i hsome
        cases h
        obtain ⟨entry, -, hentry⟩ := List.exists_of_findSome?_eq_some hsome
        exact hpick entry name hentry
      · split at h
        · cases h
        · exact ih h

theorem satisfies_of_findMatchingTag {normalized tag : Text} {kind : Version.Kind}
    (h : (findMatchingTag source owner repo normalized kind).runFrom s = some (.ok tag, t)) :
    Version.satisfies tag normalized kind = true := by
  unfold findMatchingTag at h
  obtain ⟨name, u, h1, h2⟩ := runFrom_bind_eq_ok h
  cases name with
  | some name =>
    cases h2
    refine satisfies_of_searchFrom (p := fun name => Version.satisfies name normalized kind = true)
      (fun entry name hentry => ?_) h1
    rw [pickRelease] at hentry
    split at hentry
    · rename_i hsat
      cases hentry
      exact (Bool.and_eq_true_iff.1 hsat).2
    · cases hentry
  | none =>
    obtain ⟨name, v, h3, h4⟩ := runFrom_bind_eq_ok h2
    cases name with
    | none => cases h4
    | some name =>
      cases h4
      refine satisfies_of_searchFrom
        (p := fun name => Version.satisfies name normalized kind = true)
        (fun entry name hentry => ?_) h3
      rw [pickTag] at hentry
      split at hentry
      · rename_i hsat
        cases hentry
        exact hsat
      · cases hentry

theorem resolveListed_serves {normalized : Text} {kind : Version.Kind} {r : Resolution}
    (hs : s.Sound source asked) (hasked : (owner, repo) ∈ asked)
    (h : (resolveListed source owner repo normalized kind).runFrom s = some (.ok r, t)) :
    Version.satisfies r.tag normalized kind = true ∧
      freshCommit source owner repo r.tag = some (.ok r.commit) := by
  obtain ⟨tag, u, h1, h2⟩ := runFrom_bind_eq_ok h
  obtain ⟨commit, v, h3, h4⟩ := runFrom_bind_eq_ok h2
  cases h4
  obtain ⟨paths, rfl⟩ := (findMatchingTag_onlyAsks ..).exists_addFetches h1
  exact ⟨satisfies_of_findMatchingTag h1,
    freshCommit_of_runFrom (progress_keeps.fetches s paths hs) hasked h3⟩

theorem lookUp_serves (hblind : source.catalog.CaseBlind asked) (hasked : (owner, repo) ∈ asked)
    {spec : Text} {r : Resolution} (hspec : Text.trim spec = spec) (hs : s.Sound source asked)
    (h : (lookUp source owner repo spec (Version.classify spec).2
      (Version.classify spec).1).runFrom s = some (.ok r, t)) :
    Serves source owner repo spec r := by
  rw [Serves]
  cases hkind : (Version.classify spec).1 with
  | exact =>
    rw [hkind] at h
    obtain ⟨found, u, h1, h2⟩ := runFrom_bind_eq_ok h
    cases found with
    | none => cases h2
    | some r' =>
      cases h2
      obtain ⟨hmem, hcommit⟩ := firstExisting_eq_some hblind hasked hs h1
      refine ⟨?_, hcommit⟩
      rw [Version.satisfies, beq_iff_eq]
      exact digitsOf_of_mem_spellings hspec (by rw [hkind]; decide) hmem
  | literal =>
    rw [hkind] at h
    obtain ⟨commit, u, h1, h2⟩ := runFrom_bind_eq_ok h
    cases h2
    refine ⟨?_, freshCommit_of_runFrom hs hasked h1⟩
    rw [Version.classify_fst, hspec] at hkind
    rw [Version.satisfies, Version.classify_of_literal (by rw [hspec]; exact hkind), hspec,
      beq_self_eq_true]
  | minor => rw [hkind] at h; exact resolveListed_serves hs hasked h
  | major => rw [hkind] at h; exact resolveListed_serves hs hasked h

/-! ## Version specs -/

theorem resolveSpec_of_blank {spec : Text} (h : Text.trim spec = []) :
    resolveSpec source owner repo spec = fail .emptySpec := by
  rw [resolveSpec, h]
  rfl

/-- Any other spec is looked up once, and remembered. -/
theorem resolveSpec_eq_memo {spec : Text} (h : Text.trim spec ≠ []) :
    resolveSpec source owner repo spec =
      memo (fun s => s.specs.lookup (specKey owner repo spec))
        (fun r s => s.addSpec (specKey owner repo spec) r)
        (lookUp source owner repo (Text.trim spec) (Version.classify spec).2
          (Version.classify spec).1) := by
  rw [resolveSpec, if_neg (by simpa using h), Version.classify_trim]
  unfold specKey Version.foldedForm
  obtain ⟨kind, normalized⟩ := Version.classify spec
  refine bind_congr fun s => ?_
  dsimp only
  cases s.specs.lookup (Session.key owner repo (Text.lowercase normalized)) <;> rfl

theorem answer_resolveSpec_miss {spec : Text} (h : Text.trim spec ≠ [])
    (hs : s.specs.lookup (specKey owner repo spec) = none) :
    (resolveSpec source owner repo spec).answer s =
      (lookUp source owner repo (Text.trim spec) (Version.classify spec).2
        (Version.classify spec).1).answer s := by
  rw [resolveSpec_eq_memo h]
  exact answer_memo_of_none hs

/-- The answer is in the memory afterwards, whether or not it was there before. -/
theorem lookup_of_resolveSpec {spec : Text} {r : Resolution}
    (h : (resolveSpec source owner repo spec).runFrom s = some (.ok r, t)) :
    t.specs.lookup (specKey owner repo spec) = some r := by
  by_cases hblank : Text.trim spec = []
  · rw [resolveSpec_of_blank hblank] at h
    cases h
  rw [resolveSpec_eq_memo hblank] at h
  cases memoRun_of_runFrom h with
  | hit hlookup => exact hlookup
  | found => rw [Session.lookup_addSpec, if_pos rfl]

/-- And from then on it is taken from there. -/
theorem runFrom_resolveSpec_of_lookup {spec : Text} (hspec : Text.trim spec ≠ []) {r : Resolution}
    (h : s.specs.lookup (specKey owner repo spec) = some r) :
    (resolveSpec source owner repo spec).runFrom s = some (.ok r, s) := by
  rw [resolveSpec_eq_memo hspec]
  exact runFrom_memo_of_some h

/-- **Resolving a spec keeps a session sound.** -/
theorem resolveSpec_keeps (hblind : source.catalog.CaseBlind asked)
    (hasked : (owner, repo) ∈ asked) (spec : Text) :
    Moves (Keeps source asked) (resolveSpec source owner repo spec) := by
  intro s r t h hs
  by_cases hblank : Text.trim spec = []
  · rw [resolveSpec_of_blank hblank] at h
    cases h
    exact hs
  rw [resolveSpec_eq_memo hblank] at h
  cases memoRun_of_runFrom h with
  | hit => exact hs
  | failed _ hrun => exact lookUp_keeps hblind hasked _ _ _ s _ t hrun hs
  | @found r u _ hrun =>
    have hu : u.Sound source asked := lookUp_keeps hblind hasked _ _ _ s _ u hrun hs
    refine ⟨hu.references, fun o r' n c hasked' hlook => ?_⟩
    rw [Session.lookup_addSpec] at hlook
    split at hlook
    · rename_i hkey
      cases hlook
      rw [← Version.classify_trim] at hrun
      have hsame : specKey owner repo (Text.trim spec) = specKey o r' n := by
        rw [hkey, specKey, specKey, Version.foldedForm, Version.classify_trim, Version.foldedForm]
      exact Serves.congr hblind hasked hasked' hsame
        (lookUp_serves hblind hasked (Text.trim_trim spec) hs hrun)
    · exact hu.specs o r' n c hasked' hlook

theorem latest_keeps (hblind : source.catalog.CaseBlind asked) (hasked : (owner, repo) ∈ asked)
    (version : Option Text) : Moves (Keeps source asked) (latest source owner repo version) :=
  (progress_keeps.congruence source owner repo).latest (resolveReference_keeps hblind hasked)
    fun spec _ => resolveSpec_keeps hblind hasked spec

/-- **What a sound session answers is right**: the tag satisfies the spec, and the commit is the one
that the tag has without a memory. -/
theorem serves_of_resolveSpec (hblind : source.catalog.CaseBlind asked)
    (hasked : (owner, repo) ∈ asked) {spec : Text} {r : Resolution} (hs : s.Sound source asked)
    (h : (resolveSpec source owner repo spec).runFrom s = some (.ok r, t)) :
    Serves source owner repo spec r :=
  (resolveSpec_keeps hblind hasked spec s _ _ h hs).specs owner repo spec r hasked
    (lookup_of_resolveSpec h)

end Resolver

end PinnedActions
