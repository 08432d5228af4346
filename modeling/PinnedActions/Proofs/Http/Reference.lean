import PinnedActions.Http.Client
import PinnedActions.Proofs.Http.Address

/-!
# Where the name of a tag leads

A client asks for a tag at an address that has the name of the tag at its end, escaped.  Escaping
keeps dots and slashes as they are, so the segments of dots in a name are still there when the
address is read as a URL, and count.  `request_follows_course` says where this leads: to the place of
the tags of the repository, below the root, and from there along the course of the name.

A name that never leads up stays among the tags of its repository.  One that does has to lead down
again over the same segments, and if it takes another way, the request may be the one for a tag of
another repository (`name_leads_to_another_repository`).
-/

set_option autoImplicit false

namespace PinnedActions

namespace Url

/-! ## The text of a path -/

/-- Segments with a slash after each come off a text one by one. -/
theorem splitOn_flatMap_concat {segments : List Text} (h : ∀ segment ∈ segments, '/' ∉ segment)
    (x : Text) :
    (segments.flatMap (· ++ ['/']) ++ x).splitOn '/' = segments ++ x.splitOn '/' := by
  induction segments with
  | nil => rfl
  | cons segment rest ih =>
    rw [List.flatMap_cons, List.append_assoc, List.append_assoc, List.singleton_append,
      List.splitOn_append_cons_self_of_not_mem (h segment List.mem_cons_self),
      ih fun s hs => h s (List.mem_cons_of_mem segment hs), List.cons_append]

theorem splitOn_flatMap_slash {segments : List Text} (h : ∀ segment ∈ segments, '/' ∉ segment) :
    (segments.flatMap ('/' :: ·)).splitOn '/' = [] :: segments := by
  induction segments using List.reverseRecOn with
  | nil => rfl
  | append_singleton front last ih =>
    rw [List.flatMap_append, List.flatMap_singleton, List.splitOn_append_cons_self,
      ih fun segment hs => h segment (List.mem_append_left _ hs),
      List.splitOn_eq_singleton (h last (by simp)), List.cons_append]

/-- The text of a path starts with the text of some segments and a slash when the path has these
segments first, and then more. -/
theorem flatMap_slash_prefix_iff {front back : List Text}
    (hfront : ∀ segment ∈ front, '/' ∉ segment) (hback : ∀ segment ∈ back, '/' ∉ segment) :
    (front ++ [[]]).flatMap ('/' :: ·) <+: back.flatMap ('/' :: ·) ↔
      ∃ more, more ≠ [] ∧ back = front ++ more := by
  rw [List.flatMap_append, List.flatMap_singleton]
  constructor
  · rintro ⟨rest, hrest⟩
    rw [List.append_assoc, List.singleton_append] at hrest
    have hsplit := splitOn_flatMap_slash hback
    rw [← hrest, List.splitOn_append_cons_self, splitOn_flatMap_slash hfront, List.cons_append,
      List.cons.injEq] at hsplit
    exact ⟨_, List.splitOn_ne_nil '/' rest, hsplit.2.symm⟩
  · rintro ⟨more, hmore, rfl⟩
    obtain ⟨segment, more, rfl⟩ := List.exists_cons_of_ne_nil hmore
    rw [List.flatMap_append, List.flatMap_cons, List.prefix_append_right_inj]
    exact ⟨segment ++ more.flatMap ('/' :: ·), rfl⟩

end Url

namespace Endpoint

/-! ## Names -/

/-- Whether a character may stand in the name of an account or a repository. -/
def isNameChar (c : Char) : Bool :=
  Text.isAsciiLetter c || Text.isAsciiDigit c || c = '-' || c = '_' || c = '.'

/-- Whether a text can be the name of an account or a repository: letters and digits of ASCII, minus
signs, underlines, and dots that are not at its ends. -/
structure IsName (name : Text) : Prop where
  chars : name.all isNameChar = true
  head : name.head? ≠ some '.'
  last : name.getLast? ≠ some '.'

instance (name : Text) : Decidable (IsName name) :=
  decidable_of_iff (name.all isNameChar = true ∧ name.head? ≠ some '.' ∧ name.getLast? ≠ some '.')
    ⟨fun h => ⟨h.1, h.2.1, h.2.2⟩, fun h => ⟨h.chars, h.head, h.last⟩⟩

namespace IsName

variable {name : Text}

theorem escape_eq (h : IsName name) : escape name = name :=
  Percent.encode_of_forall fun c hc => by
    have hplain := List.all_eq_true.1 h.chars c hc
    simp only [isNameChar, Bool.or_eq_true] at hplain
    simp only [isPlain, Bool.or_eq_true]
    tauto

theorem isDot_eq_false (h : IsName name) : Url.isDot name = false := by
  rw [← Bool.not_eq_true, ← h.escape_eq, Url.isDot_escape]
  rintro rfl
  exact h.head rfl

theorem isDoubleDot_eq_false (h : IsName name) : Url.isDoubleDot name = false := by
  rw [← Bool.not_eq_true, ← h.escape_eq, Url.isDoubleDot_escape]
  rintro rfl
  exact h.head rfl

theorem isDrive_eq_false (h : IsName name) : Url.isDrive name = false := by
  rw [← h.escape_eq, Url.isDrive_escape]

theorem slash_not_mem (h : IsName name) : '/' ∉ name := fun hmem =>
  absurd (List.all_eq_true.1 h.chars _ hmem) (by decide)

end IsName

/-! ## Paths of tags -/

theorem isInert_of_isPlain {c : Char} (hc : isPlain c = true) : Url.isInert c = true := by
  have hle : ∀ {a b : Char}, a ≤ b ↔ a.toNat ≤ b.toNat := Iff.rfl
  simp only [isPlain, Text.isAsciiLetter, Text.isAsciiDigit, Bool.or_eq_true, Bool.and_eq_true,
    decide_eq_true_eq, hle, ← Char.toNat_inj, Char.reduceToNat] at hc
  simp only [Url.isInert, Url.keepInPath, Url.keepInFragment, Url.isPrintable, Bool.and_eq_true,
    decide_eq_true_eq, bne_iff_ne, ne_eq, ← Char.toNat_inj, Char.reduceToNat]
  omega

theorem isInert_escape (name : Text) : Url.IsInert (escape name) := fun c hc => by
  rcases Percent.mem_of_mem_encode hc with ⟨-, hplain⟩ | rfl | hdigit
  · exact isInert_of_isPlain hplain
  · decide
  · have hdigits : Percent.capitalDigits.all Url.isInert = true := by decide
    exact List.all_eq_true.1 hdigits c hdigit

/-- The segments of the place where the tags of a repository are. -/
def tagsPlace (owner repo : Text) : List Text :=
  ["repos".toList, owner, repo, "git".toList, "ref".toList, "tags".toList]

variable {owner repo : Text}

theorem isName_of_mem_tagsPlace (howner : IsName owner) (hrepo : IsName repo) {segment : Text}
    (h : segment ∈ tagsPlace owner repo) : IsName segment := by
  simp only [tagsPlace, List.mem_cons, List.not_mem_nil, or_false] at h
  rcases h with rfl | rfl | rfl | rfl | rfl | rfl
  · decide
  · exact howner
  · exact hrepo
  · decide
  · decide
  · decide

theorem path_tagReference (owner repo name : Text) :
    (tagReference name).path owner repo =
      (tagsPlace owner repo).flatMap (· ++ ['/']) ++ escape name := by
  have hpath : (tagReference name).path owner repo = "repos".toList ++ '/' :: (owner ++ '/' ::
      (repo ++ '/' :: ("git".toList ++ '/' :: ("ref".toList ++ '/' :: ("tags".toList ++ '/' ::
        escape name))))) := by
    rw [path_eq]
    rfl
  simp only [hpath, tagsPlace, List.flatMap_cons, List.flatMap_nil, List.append_assoc,
    List.cons_append, List.nil_append]

theorem splitOn_path_tagReference (howner : IsName owner) (hrepo : IsName repo) (name : Text) :
    ((tagReference name).path owner repo).splitOn '/' =
      tagsPlace owner repo ++ (name.splitOn '/').map escape := by
  rw [path_tagReference, Url.splitOn_flatMap_concat fun segment h =>
      (isName_of_mem_tagsPlace howner hrepo h).slash_not_mem,
    escape, Percent.splitOn_encode (by decide) (by decide) (by decide)]
  rfl

theorem isInert_path_tagReference (howner : IsName owner) (hrepo : IsName repo) (name : Text) :
    Url.IsInert ((tagReference name).path owner repo) := by
  rw [path_tagReference]
  refine List.forall_mem_append.2 ⟨fun c hc => ?_, isInert_escape name⟩
  obtain ⟨segment, hsegment, hc⟩ := List.mem_flatMap.1 hc
  rcases List.mem_append.1 hc with hc | hc
  · rw [← (isName_of_mem_tagsPlace howner hrepo hsegment).escape_eq] at hc
    exact isInert_escape segment c hc
  · rw [List.mem_singleton.1 hc]
    decide

end Endpoint

/-! ## What is asked -/

theorem Url.withoutCredentials_path (u : Url) (path : UrlPath) :
    ({ u with path } : Url).withoutCredentials = { u.withoutCredentials with path } := by
  simp only [withoutCredentials]
  split <;> rfl

/-- Whether a URL leads to something among the tags of a repository, below a root. -/
def Url.IsTagOf (root : Url) (owner repo : Text) (u : Url) : Prop :=
  root.pathText ++ (Endpoint.tagReference []).path owner repo <+: u.pathText

instance (root : Url) (owner repo : Text) (u : Url) : Decidable (root.IsTagOf owner repo u) :=
  inferInstanceAs (Decidable (_ <+: _))

open Endpoint (IsName tagsPlace)

variable {c : Client} {root : Url} {owner repo : Text} {stem : List Text}

theorem Url.isTagOf_iff (hroot : root.path = .segments (stem ++ [[]]))
    (hstem : ∀ segment ∈ stem, '/' ∉ segment) (howner : IsName owner) (hrepo : IsName repo) {u : Url}
    {segments : List Text} (hu : u.path = .segments segments)
    (hsegments : ∀ segment ∈ segments, '/' ∉ segment) :
    root.IsTagOf owner repo u ↔
      ∃ more, more ≠ [] ∧ segments = stem ++ tagsPlace owner repo ++ more := by
  have hfront : root.pathText ++ (Endpoint.tagReference []).path owner repo =
      (stem ++ tagsPlace owner repo ++ [[]]).flatMap ('/' :: ·) := by
    have hescape : Endpoint.escape [] = [] := rfl
    rw [pathText, hroot, Endpoint.path_tagReference, hescape]
    simp [tagsPlace]
  have hback : u.pathText = segments.flatMap ('/' :: ·) := by rw [pathText, hu]
  rw [IsTagOf, hfront, hback]
  refine flatMap_slash_prefix_iff (fun segment h => ?_) hsegments
  rcases List.mem_append.1 h with h | h
  · exact hstem segment h
  · exact (Endpoint.isName_of_mem_tagsPlace howner hrepo h).slash_not_mem

namespace Client

theorem request?_of_parse? {path : Text} {u : Url} (h : Url.parse? (c.address path) = some u) :
    c.request? path = if isAskable u.withoutCredentials then .ok ⟨u.withoutCredentials, c.headers⟩
      else .error (unanswered (c.address path)
        (about "builder error".toList u.withoutCredentials)) := by
  rw [request?]
  simp only [h]

theorem address_tagReference (c : Client) (owner repo name : Text) :
    c.address ((Endpoint.tagReference name).path owner repo) =
      c.base ++ '/' :: (Endpoint.tagReference name).path owner repo := by
  rw [address, Endpoint.path_eq, Text.dropLeading]
  simp

/-- The path of a tag, read below a root, follows the course of its name. -/
theorem resolveDots_path_tagReference (stem : List Text) (howner : IsName owner)
    (hrepo : IsName repo) (name : Text) :
    Url.resolveDots stem.reverse
        (((Endpoint.tagReference name).path owner repo).splitOn '/') =
      Url.climb (Course.ofName name).ups (stem ++ tagsPlace owner repo) ++
        Course.landing name := by
  have hplain : ∀ segment ∈ tagsPlace owner repo,
      Url.isDoubleDot segment = false ∧ Url.isDot segment = false := fun segment h =>
    have hname := Endpoint.isName_of_mem_tagsPlace howner hrepo h
    ⟨hname.isDoubleDot_eq_false, hname.isDot_eq_false⟩
  rw [Endpoint.splitOn_path_tagReference howner hrepo, Url.resolveDots_append (by simp),
    Url.foldl_advance_of_plain hplain, ← List.reverse_append, Course.resolveDots_escape]

/-- **The name of a tag is a course from the tags of its repository.**  What is asked for is at the end
of the course, and is one of these tags only if the course leads down again over all that it led up
over. -/
theorem request_follows_course (hroot : Url.parse? (c.address []) = some root)
    (hweb : root.scheme = "http".toList ∨ root.scheme = "https".toList) (hquery : root.query = none)
    (hfragment : root.fragment = none) (howner : IsName owner) (hrepo : IsName repo) (name : Text) :
    ∃ stem : List Text, root.path = .segments (stem ++ [[]]) ∧
      let here := stem ++ tagsPlace owner repo
      let ups := (Course.ofName name).ups
      let path := (Endpoint.tagReference name).path owner repo
      let url : Url := { root.withoutCredentials with
        path := .segments (Url.climb ups here ++ Course.landing name) }
      c.request? path = (if isAskable url then .ok ⟨url, c.headers⟩
        else .error (unanswered (c.address path) (about "builder error".toList url))) ∧
      (ups ≤ 6 → Url.climb ups here = stem ++ (tagsPlace owner repo).take (6 - ups)) ∧
      (root.IsTagOf owner repo url ↔ ∃ more, more ≠ [] ∧
        Course.landing name = here.drop (Url.climb ups here).length ++ more) ∧
      (ups = 0 → root.IsTagOf owner repo url) := by
  obtain ⟨usual, husual⟩ : ∃ usual, Url.webSchemes.lookup root.scheme = some usual := by
    rcases hweb with h | h <;> exact ⟨_, by rw [h]; rfl⟩
  obtain ⟨stem, hstem, hslash, hparse⟩ := Url.parse?_below hroot husual hquery hfragment
  have hresolve := resolveDots_path_tagReference stem howner hrepo name
  have hurl := hparse (Endpoint.isInert_path_tagReference howner hrepo name)
  rw [hresolve, ← address_tagReference] at hurl
  have htag : root.IsTagOf owner repo { root.withoutCredentials with
      path := .segments (Url.climb (Course.ofName name).ups (stem ++ tagsPlace owner repo) ++
        Course.landing name) } ↔ _ :=
    Url.isTagOf_iff hstem hslash howner hrepo rfl fun segment h => by
      rw [← hresolve] at h
      rcases Url.mem_resolveDots h with h | h | rfl
      · exact hslash segment (List.mem_reverse.1 h)
      · exact Text.not_mem_of_mem_splitOn h
      · exact List.not_mem_nil
  refine ⟨stem, hstem, ?_, fun hups => ?_, ?_, fun hups => htag.2 ?_⟩
  · rw [request?_of_parse? hurl, Url.withoutCredentials_path]
  · exact Url.climb_append
      (fun segment h => (Endpoint.isName_of_mem_tagsPlace howner hrepo h).isDrive_eq_false) hups stem
  · simp only [htag, Url.climb_append_eq_iff]
  · rw [hups, Url.climb_zero]
    exact ⟨_, Course.landing_ne_nil name, rfl⟩

/-- The client of an API that is not at the root of its host, and a name that leads up twice and comes
down by another way. -/
theorem request_follows_course_of_crookedName :
    let c : Client := ⟨"https://ghe.example.com/api/v3".toList, none⟩
    let root : Url := ⟨"https".toList, Url.noCredentials, some "ghe.example.com".toList, none,
      .segments ["api".toList, "v3".toList, []], none, none⟩
    let name := "../tags/./v1/../../../heads/main".toList
    (Url.parse? (c.address []) = some root ∧
      (root.scheme = "http".toList ∨ root.scheme = "https".toList) ∧ root.query = none ∧
      root.fragment = none ∧ IsName "a.b".toList ∧ IsName "c-d".toList) ∧
    ∃ stem : List Text, root.path = .segments (stem ++ [[]]) ∧
      let here := stem ++ tagsPlace "a.b".toList "c-d".toList
      let ups := (Course.ofName name).ups
      let path := (Endpoint.tagReference name).path "a.b".toList "c-d".toList
      let url : Url := { root.withoutCredentials with
        path := .segments (Url.climb ups here ++ Course.landing name) }
      c.request? path = (if isAskable url then .ok ⟨url, c.headers⟩
        else .error (unanswered (c.address path) (about "builder error".toList url))) ∧
      (ups ≤ 6 →
        Url.climb ups here = stem ++ (tagsPlace "a.b".toList "c-d".toList).take (6 - ups)) ∧
      (root.IsTagOf "a.b".toList "c-d".toList url ↔ ∃ more, more ≠ [] ∧
        Course.landing name = here.drop (Url.climb ups here).length ++ more) ∧
      (ups = 0 → root.IsTagOf "a.b".toList "c-d".toList url) := by
  intro c root name
  have hroot : Url.parse? (c.address []) = some root := by decide +kernel
  have howner : IsName "a.b".toList := by decide
  have hrepo : IsName "c-d".toList := by decide
  exact ⟨⟨hroot, .inr rfl, rfl, rfl, howner, hrepo⟩,
    request_follows_course hroot (.inr rfl) rfl rfl howner hrepo name⟩

/-- A name that leads out of its repository, and down to a tag of another one: the request is the one
for that tag. -/
theorem name_leads_to_another_repository :
    let c : Client := ⟨"https://api.github.com".toList, none⟩
    let root : Url := ⟨"https".toList, Url.noCredentials, some "api.github.com".toList, none,
      .segments [[]], none, none⟩
    let name := "../../../../../actions/checkout/git/ref/tags/v4".toList
    let url : Url := { root with path := .segments ["repos".toList, "actions".toList,
      "checkout".toList, "git".toList, "ref".toList, "tags".toList, "v4".toList] }
    Url.parse? (c.address []) = some root ∧ IsName ['o'] ∧ IsName ['r'] ∧ name ≠ [] ∧
      c.request? ((Endpoint.tagReference name).path ['o'] ['r']) = .ok ⟨url, c.headers⟩ ∧
      ¬root.IsTagOf ['o'] ['r'] url ∧
      c.request? ((Endpoint.tagReference "v4".toList).path "actions".toList "checkout".toList) =
        .ok ⟨url, c.headers⟩ := by
  intro c root name url
  have hask : isAskable url = true := by decide +kernel
  have hcredentials : url.withoutCredentials = url := by decide +kernel
  refine ⟨by decide +kernel, by decide, by decide, by decide, ?_, by decide +kernel, ?_⟩
  · rw [request?_of_parse? (u := url) (by decide +kernel), hcredentials, if_pos hask]
  · rw [request?_of_parse? (u := url) (by decide +kernel), hcredentials, if_pos hask]

end Client

end PinnedActions
