import PinnedActions.Proofs.Catalog.Answered
import PinnedActions.Resolver.Listing

/-!
# Searching the listings is searching all that is listed

A listing comes in pages, and a search goes through them until one has what is searched for.  Here a
listing is what all its pages together list, with the reason why it ends (`Lists`), and the search is
shown to be one for the first entry that is offered (`runFrom_searchPages`).

* `Listing.entries` — the entries of all pages, `Listing.failure?` — why more of them cannot be had.
* `Listing.search` — what a search for an entry comes to, `Listing.reach` — how many pages it takes.
* `exists_lists` — with a catalog that answers only so many paths every listing ends, and within the
  patience for so many answers (`Lists.reach_le`).

A search through two listings then looks at the second one only where the first ends without an offer
and without a failure (`findMatchingTag_searches`).
-/

set_option autoImplicit false

namespace PinnedActions

namespace Resolver

open Walk

variable {α β : Type} {catalog : Catalog} {owner repo : Text}

/-! ## Listings -/

/-- Why a listing ends. -/
inductive Ending where
  /-- Its last page is not full. -/
  | short
  /-- The page after its last one is not there. -/
  | missing
  /-- The page after its last one cannot be had. -/
  | broken (f : Failure)

/-- The pages of a listing, and why there are no more. -/
structure Listing (α : Type) where
  pages : List (List α)
  ending : Ending

namespace Listing

/-- All entries, page by page. -/
def entries (l : Listing α) : List α := l.pages.flatten

/-- The failure that a listing ends in, if it does. -/
def failure? (l : Listing α) : Option Failure :=
  match l.ending with
  | .broken f => some f
  | _ => none

/-- What a search for an entry comes to. -/
def search (offers : α → Bool) (l : Listing α) : Except Failure (Option α) :=
  match l.entries.find? offers with
  | some a => .ok (some a)
  | none =>
    match l.failure? with
    | some f => .error f
    | none => .ok none

/-- How many pages a listing takes to be known to its end. -/
def extent (l : Listing α) : Nat :=
  match l.ending with
  | .short => l.pages.length
  | _ => l.pages.length + 1

/-- How many pages a search for an entry takes: as many as there are up to the first that has one,
and all that there are when none has. -/
def reach (offers : α → Bool) (l : Listing α) : Nat :=
  match l.pages.findIdx? (·.any offers) with
  | some i => i + 1
  | none => l.extent

/-- Whether a listing is known to its end and has nothing to offer. -/
def EndsWithout (offers : α → Bool) (l : Listing α) : Prop :=
  l.entries.find? offers = none ∧ l.failure? = none

/-- A listing with one more page before all others. -/
def cons (page : List α) (l : Listing α) : Listing α := ⟨page :: l.pages, l.ending⟩

variable {offers : α → Bool} {page : List α} {l : Listing α} {a : α}

@[simp] theorem failure?_cons : (cons page l).failure? = l.failure? := rfl

@[simp] theorem entries_cons : (cons page l).entries = page ++ l.entries := rfl

@[simp] theorem extent_cons : (cons page l).extent = l.extent + 1 := by
  rw [extent, extent, cons]
  cases l.ending <;> rfl

/-- A short page is a page before none. -/
theorem cons_short (page : List α) : cons page ⟨[], .short⟩ = ⟨[page], .short⟩ := rfl

theorem search_cons_of_some (h : page.find? offers = some a) :
    (cons page l).search offers = .ok (some a) := by
  rw [search, entries_cons, List.find?_append, h]
  rfl

theorem search_cons_of_none (h : page.find? offers = none) :
    (cons page l).search offers = l.search offers := by
  rw [search, search, entries_cons, List.find?_append, h]
  rfl

theorem reach_cons_of_some (h : page.find? offers = some a) : (cons page l).reach offers = 1 := by
  have hany : page.any offers = true := by
    rw [List.any_eq_true]
    exact ⟨a, List.mem_of_find?_eq_some h, List.find?_some h⟩
  rw [reach, cons, List.findIdx?_cons, hany]
  rfl

theorem reach_cons_of_none (h : page.find? offers = none) :
    (cons page l).reach offers = l.reach offers + 1 := by
  have hany : page.any offers = false := by
    rw [List.any_eq_false]
    exact List.find?_eq_none.1 h
  have hidx : (cons page l).pages.findIdx? (·.any offers) =
      (l.pages.findIdx? (·.any offers)).map (· + 1) := by
    rw [cons, List.findIdx?_cons, hany]
    rfl
  rw [reach, reach, hidx, extent_cons]
  cases l.pages.findIdx? (·.any offers) <;> rfl

theorem reach_cons_pos : 0 < (cons page l).reach offers := by
  cases h : page.find? offers with
  | some a =>
    rw [reach_cons_of_some h]
    exact Nat.one_pos
  | none =>
    rw [reach_cons_of_none h]
    exact Nat.succ_pos _

theorem reach_le_extent (offers : α → Bool) (l : Listing α) : l.reach offers ≤ l.extent := by
  rw [reach]
  cases h : l.pages.findIdx? (·.any offers) with
  | none => exact le_rfl
  | some i =>
    have hi : i < l.pages.length := (List.findIdx?_eq_some_iff_findIdx_eq.1 h).1
    show i + 1 ≤ l.extent
    rw [extent]
    split <;> omega

theorem extent_le (l : Listing α) : l.extent ≤ l.pages.length + 1 := by
  rw [extent]
  split <;> omega

theorem search_of_some (h : l.entries.find? offers = some a) :
    l.search offers = .ok (some a) := by
  rw [search, h]

theorem search_of_failure {f : Failure} (h : l.entries.find? offers = none)
    (hf : l.failure? = some f) : l.search offers = .error f := by
  rw [search, h, hf]

theorem search_of_endsWithout (h : l.EndsWithout offers) : l.search offers = .ok none := by
  rw [search, h.1, h.2]

end Listing

/-- Whether a listing is what the pages from a number on say. -/
inductive Lists (say : Nat → Except Failure (List α)) : Nat → Listing α → Prop where
  | short {n : Nat} {page : List α} (h : say n = .ok page) (hshort : page.length < pageSize) :
      Lists say n ⟨[page], .short⟩
  | missing {n : Nat} {f : Failure} (h : say n = .error f) (hf : f.isNotFound = true) :
      Lists say n ⟨[], .missing⟩
  | broken {n : Nat} {f : Failure} (h : say n = .error f) (hf : f.isNotFound = false) :
      Lists say n ⟨[], .broken f⟩
  | full {n : Nat} {page : List α} {l : Listing α} (h : say n = .ok page)
      (hfull : pageSize ≤ page.length) (hrest : Lists say (n + 1) l) : Lists say n (l.cons page)

/-- A search asks for at least one page. -/
theorem Lists.reach_pos {say : Nat → Except Failure (List α)} {n : Nat} {l : Listing α}
    {offers : α → Bool} (h : Lists say n l) : 0 < l.reach offers := by
  cases h with
  | missing => exact Nat.one_pos
  | broken => exact Nat.one_pos
  | @short _ page _ _ =>
    rw [← Listing.cons_short]
    exact Listing.reach_cons_pos
  | full => exact Listing.reach_cons_pos

/-- What the catalog says about a page of the releases. -/
def releasesPage (catalog : Catalog) (owner repo : Text) (page : Nat) :
    Except Failure (List Release) :=
  catalog.tells (Endpoint.path owner repo (.releases page)) Payload.releases

/-- What the catalog says about a page of the tags. -/
def tagsPage (catalog : Catalog) (owner repo : Text) (page : Nat) : Except Failure (List Tag) :=
  catalog.tells (Endpoint.path owner repo (.tags page)) Payload.tags

/-! ## One listing -/

section Search

variable {path : Nat → Text} {read : Json → Except Mismatch (List α)} {pick : α → Option Text}
  {offers : α → Bool} {name : α → Text} {n : Nat} {l : Listing α}

/-- The first name that is made is that of the first entry that is offered. -/
theorem findSome?_eq_map_find? (hpick : ∀ a, pick a = if offers a then some (name a) else none)
    (entries : List α) : entries.findSome? pick = (entries.find? offers).map name := by
  induction entries with
  | nil => rfl
  | cons a rest ih =>
    rw [List.findSome?_cons, List.find?_cons, hpick]
    cases offers a with
    | true => rfl
    | false => exact ih

/-- A page that is missing, or cannot be had, is where a search ends. -/
theorem runFrom_searchFrom_of_error {f : Failure} (h : catalog.tells (path n) read = .error f)
    (patience steps : Nat) (s : Session) :
    (searchFrom ⟨catalog, patience⟩ path read pick (steps + 1) n).runFrom s =
      some (if f.isNotFound then .ok none else .error f, s.addFetch (path n)) := by
  have hfetch : (Walk.fetch ⟨catalog, patience⟩ (path n) read).ifFound.runFrom s =
      some (if f.isNotFound then .ok none else .error f, s.addFetch (path n)) := by
    rw [runFrom_ifFound, Catalog.runFrom_fetch, h]
    rfl
  rw [searchFrom]
  cases hf : f.isNotFound with
  | true =>
    rw [hf, if_pos rfl] at hfetch
    rw [runFrom_bind_of_ok hfetch]
    rfl
  | false =>
    rw [hf, if_neg Bool.false_ne_true] at hfetch
    rw [runFrom_bind_of_error hfetch]
    rfl

/-- On a page, a search ends with what it finds, or because the page is not full, or goes on. -/
theorem runFrom_searchFrom_of_ok {page : List α} (h : catalog.tells (path n) read = .ok page)
    (patience steps : Nat) (s : Session) :
    (searchFrom ⟨catalog, patience⟩ path read pick (steps + 1) n).runFrom s =
      match page.findSome? pick with
      | some found => some (.ok (some found), s.addFetch (path n))
      | none =>
        if page.length < pageSize then some (.ok none, s.addFetch (path n))
        else (searchFrom ⟨catalog, patience⟩ path read pick steps (n + 1)).runFrom
          (s.addFetch (path n)) := by
  have hfetch : (Walk.fetch ⟨catalog, patience⟩ (path n) read).ifFound.runFrom s =
      some (.ok (some page), s.addFetch (path n)) := by
    rw [runFrom_ifFound, Catalog.runFrom_fetch, h]
    rfl
  rw [searchFrom, runFrom_bind_of_ok hfetch]
  dsimp only
  cases page.findSome? pick with
  | some found => rfl
  | none =>
    dsimp only
    split <;> rfl

/-- The pages before the next one, and the next one, are pages in a row. -/
theorem addFetches_pages (path : Nat → Text) (n k : Nat) (s : Session) :
    (s.addFetch (path n)).addFetches ((List.range' (n + 1) k).map path).reverse =
      s.addFetches ((List.range' n (k + 1)).map path).reverse := by
  simp [Session.addFetches, Session.addFetch, List.range'_succ]

/-- **A search from a page on is one through all that is listed from there**, and asks for the pages
that this takes. -/
theorem runFrom_searchFrom (hpick : ∀ a, pick a = if offers a then some (name a) else none)
    (h : Lists (fun page => catalog.tells (path page) read) n l) (patience : Nat) {steps : Nat}
    (hsteps : l.reach offers ≤ steps) (s : Session) :
    (searchFrom ⟨catalog, patience⟩ path read pick steps n).runFrom s =
      some ((l.search offers).map (Option.map name),
        s.addFetches ((List.range' n (l.reach offers)).map path).reverse) := by
  obtain ⟨steps, rfl⟩ : ∃ k, steps = k + 1 := Nat.exists_eq_add_of_le' (h.reach_pos.trans_le hsteps)
  induction h generalizing steps s with
  | missing h hf =>
    rw [runFrom_searchFrom_of_error h, if_pos hf]
    rfl
  | broken h hf =>
    rw [runFrom_searchFrom_of_error h, if_neg (by simp [hf])]
    rfl
  | @short n page h hshort =>
    rw [runFrom_searchFrom_of_ok h, findSome?_eq_map_find? hpick, ← Listing.cons_short]
    cases hfind : page.find? offers with
    | some a =>
      rw [Listing.search_cons_of_some hfind, Listing.reach_cons_of_some hfind]
      rfl
    | none =>
      rw [Listing.search_cons_of_none hfind, Listing.reach_cons_of_none hfind]
      exact if_pos hshort
  | @full n page l h hfull hrest ih =>
    rw [runFrom_searchFrom_of_ok h, findSome?_eq_map_find? hpick]
    cases hfind : page.find? offers with
    | some a =>
      rw [Listing.search_cons_of_some hfind, Listing.reach_cons_of_some hfind]
      rfl
    | none =>
      rw [Listing.reach_cons_of_none hfind] at hsteps
      have hmore : 0 < l.reach offers := hrest.reach_pos
      obtain ⟨steps, rfl⟩ : ∃ k, steps = k + 1 := Nat.exists_eq_add_of_le' (by omega)
      rw [Listing.search_cons_of_none hfind, Listing.reach_cons_of_none hfind, Option.map_none]
      dsimp only
      rw [if_neg (by omega), ih _ _ (by omega), addFetches_pages]

/-- A search of the whole listing. -/
theorem runFrom_searchPages (hpick : ∀ a, pick a = if offers a then some (name a) else none)
    (h : Lists (fun page => catalog.tells (path page) read) 1 l) {patience : Nat}
    (hpatience : l.reach offers ≤ patience) (s : Session) :
    (searchPages ⟨catalog, patience⟩ path read pick).runFrom s =
      some ((l.search offers).map (Option.map name),
        s.addFetches ((List.range' 1 (l.reach offers)).map path).reverse) :=
  runFrom_searchFrom hpick h patience hpatience s

/-! ## Listings end -/

/-- As far as one looks, a listing ends or all pages are there. -/
theorem exists_lists_or (say : Nat → Except Failure (List α)) (n k : Nat) :
    (∃ l, Lists say n l) ∨ ∀ i ∈ List.range' n k, ∃ page, say i = .ok page := by
  induction k generalizing n with
  | zero => exact .inr nofun
  | succ k ih =>
    cases h : say n with
    | error f =>
      cases hf : f.isNotFound with
      | true => exact .inl ⟨_, .missing h hf⟩
      | false => exact .inl ⟨_, .broken h hf⟩
    | ok page =>
      by_cases hshort : page.length < pageSize
      · exact .inl ⟨_, .short h hshort⟩
      rcases ih (n + 1) with ⟨l, hrest⟩ | hrest
      · exact .inl ⟨_, .full h (not_lt.1 hshort) hrest⟩
      · rw [List.range'_succ, List.forall_mem_cons]
        exact .inr ⟨⟨page, h⟩, hrest⟩

/-- Different pages that are there are different answers. -/
theorem le_ncard_of_pages (hfinite : catalog.answered.Finite) (hpath : Function.Injective path)
    {k : Nat} (h : ∀ i ∈ List.range' n k, ∃ page, catalog.tells (path i) read = .ok page) :
    k ≤ catalog.answered.ncard := by
  have hnodup : ((List.range' n k).map path).Nodup := (List.nodup_range' ..).map hpath
  have hle := Catalog.length_le_ncard_answered hfinite hnodup fun p hp => by
    obtain ⟨i, hi, rfl⟩ := List.mem_map.1 hp
    obtain ⟨page, hpage⟩ := h i hi
    exact Catalog.mem_answered_of_tells hpage
  rwa [List.length_map, List.length_range'] at hle

/-- **A listing ends** when only so many paths are answered. -/
theorem exists_lists (hfinite : catalog.answered.Finite) (hpath : Function.Injective path)
    (n : Nat) : ∃ l, Lists (fun page => catalog.tells (path page) read) n l := by
  refine (exists_lists_or _ n (catalog.answered.ncard + 1)).resolve_right fun h => ?_
  exact absurd (le_ncard_of_pages hfinite hpath h) (by omega)

/-- All pages of a listing are there. -/
theorem Lists.exists_page {say : Nat → Except Failure (List α)} (h : Lists say n l) :
    ∀ i ∈ List.range' n l.pages.length, ∃ page, say i = .ok page := by
  induction h with
  | missing => exact nofun
  | broken => exact nofun
  | short h =>
    rw [List.length_singleton, List.range'_one, List.forall_mem_singleton]
    exact ⟨_, h⟩
  | full h _ _ ih =>
    rw [Listing.cons, List.length_cons, List.range'_succ, List.forall_mem_cons]
    exact ⟨⟨_, h⟩, ih⟩

/-- A search of a listing takes no more pages than there are answers, and one. -/
theorem Lists.reach_le (hfinite : catalog.answered.Finite) (hpath : Function.Injective path)
    (h : Lists (fun page => catalog.tells (path page) read) n l) :
    l.reach offers ≤ catalog.answered.ncard + 1 :=
  calc l.reach offers ≤ l.extent := l.reach_le_extent offers
    _ ≤ l.pages.length + 1 := l.extent_le
    _ ≤ catalog.answered.ncard + 1 :=
      Nat.succ_le_succ (le_ncard_of_pages hfinite hpath h.exists_page)

end Search

/-! ## Two listings -/

/-- Whether a release is no pre-release and satisfies a version. -/
def offersRelease (normalized : Text) (kind : Version.Kind) (r : Release) : Bool :=
  !r.prerelease && Version.satisfies r.tagName normalized kind

/-- Whether a tag satisfies a version. -/
def offersTag (normalized : Text) (kind : Version.Kind) (t : Tag) : Bool :=
  Version.satisfies t.name normalized kind

theorem pickRelease_eq (normalized : Text) (kind : Version.Kind) (r : Release) :
    pickRelease normalized kind r =
      if offersRelease normalized kind r then some r.tagName else none := rfl

theorem pickTag_eq (normalized : Text) (kind : Version.Kind) (t : Tag) :
    pickTag normalized kind t = if offersTag normalized kind t then some t.name else none := rfl

/-- The first pages of the releases. -/
def firstReleases (k : Nat) : List Endpoint := (List.range' 1 k).map .releases

/-- The first pages of the tags. -/
def firstTags (k : Nat) : List Endpoint := (List.range' 1 k).map .tags

/-- What a search for a version in the listings of a repository comes to, and what it asks for. -/
structure Finds (owner repo normalized : Text) (kind : Version.Kind) (releases : Listing Release)
    (tags : Listing Tag) (result : Except Failure Text) (asked : List Endpoint) : Prop where
  /-- The first release that is offered is the answer. -/
  release : ∀ r, releases.entries.find? (offersRelease normalized kind) = some r →
    result = .ok r.tagName
  /-- Where releases cannot be had, that is the answer just when none is offered before. -/
  releasesBroken : ∀ f, releases.failure? = some f →
    (result = .error f ↔ releases.entries.find? (offersRelease normalized kind) = none)
  /-- Where there is no such release, the first tag that is offered is the answer. -/
  tag : releases.EndsWithout (offersRelease normalized kind) →
    ∀ t, tags.entries.find? (offersTag normalized kind) = some t → result = .ok t.name
  /-- Where tags cannot be had, that is the answer just when none is offered before. -/
  tagsBroken : releases.EndsWithout (offersRelease normalized kind) → ∀ f, tags.failure? = some f →
    (result = .error f ↔ tags.entries.find? (offersTag normalized kind) = none)
  /-- Where there is neither, there is no release to be had. -/
  neither : releases.EndsWithout (offersRelease normalized kind) →
    tags.EndsWithout (offersTag normalized kind) →
      result = .error (.noMatchingRelease owner repo normalized)
  /-- As long as there may be a release, nothing is asked about the tags. -/
  askedReleases : ¬releases.EndsWithout (offersRelease normalized kind) →
    asked = firstReleases (releases.reach (offersRelease normalized kind))
  /-- Then they are asked about as far as it takes. -/
  askedBoth : releases.EndsWithout (offersRelease normalized kind) →
    asked = firstReleases (releases.reach (offersRelease normalized kind)) ++
      firstTags (tags.reach (offersTag normalized kind))

namespace Finds

variable {normalized : Text} {kind : Version.Kind} {releases : Listing Release} {tags : Listing Tag}

theorem of_release {r : Release}
    (h : releases.entries.find? (offersRelease normalized kind) = some r) :
    Finds owner repo normalized kind releases tags (.ok r.tagName)
      (firstReleases (releases.reach (offersRelease normalized kind))) := by
  constructor <;> simp [Listing.EndsWithout, h]

theorem of_releasesBroken {f : Failure}
    (h : releases.entries.find? (offersRelease normalized kind) = none)
    (hf : releases.failure? = some f) :
    Finds owner repo normalized kind releases tags (.error f)
      (firstReleases (releases.reach (offersRelease normalized kind))) := by
  constructor <;> simp [Listing.EndsWithout, h, hf]

/-- Without a release, the answer is what a search through the tags comes to. -/
theorem of_endsWithout (h : releases.EndsWithout (offersRelease normalized kind)) :
    Finds owner repo normalized kind releases tags
      (match tags.search (offersTag normalized kind) with
        | .ok (some t) => .ok t.name
        | .ok none => .error (.noMatchingRelease owner repo normalized)
        | .error f => .error f)
      (firstReleases (releases.reach (offersRelease normalized kind)) ++
        firstTags (tags.reach (offersTag normalized kind))) := by
  cases ht : tags.entries.find? (offersTag normalized kind) with
  | some t =>
    rw [Listing.search_of_some ht]
    constructor <;> simp [ht, h.1, h.2, Listing.EndsWithout]
  | none =>
    cases hf : tags.failure? with
    | some f =>
      rw [Listing.search_of_failure ht hf]
      constructor <;> simp [ht, hf, h.1, h.2, Listing.EndsWithout]
    | none =>
      rw [Listing.search_of_endsWithout ⟨ht, hf⟩]
      constructor <;> simp [h, ht, hf, h.1, h.2]

end Finds

theorem nodup_path_firstReleases (k : Nat) :
    ((firstReleases k).map (Endpoint.path owner repo)).Nodup := by
  rw [firstReleases, List.map_map]
  exact (List.nodup_range' ..).map Endpoint.releases_path_injective

/-- No page is among the first ones of both listings, or twice among those of one. -/
theorem nodup_path_append (k m : Nat) :
    ((firstReleases k ++ firstTags m).map (Endpoint.path owner repo)).Nodup := by
  rw [List.map_append, List.nodup_append']
  refine ⟨nodup_path_firstReleases k, ?_, ?_⟩
  · rw [firstTags, List.map_map]
    exact (List.nodup_range' ..).map Endpoint.tags_path_injective
  · intro p hp hp'
    simp only [firstReleases, firstTags, List.map_map, List.mem_map, Function.comp] at hp hp'
    obtain ⟨i, -, rfl⟩ := hp
    obtain ⟨j, -, hj⟩ := hp'
    cases Endpoint.path_injective owner repo hj

section FindMatchingTag

variable {normalized : Text} {kind : Version.Kind} {releases : Listing Release} {tags : Listing Tag}

theorem runFrom_searchReleases (normalized : Text) (kind : Version.Kind)
    (hfinite : catalog.answered.Finite) (h : Lists (releasesPage catalog owner repo) 1 releases)
    {patience : Nat} (hpatience : catalog.answered.ncard < patience) (s : Session) :
    (searchPages ⟨catalog, patience⟩ (fun page => Endpoint.path owner repo (.releases page))
        Payload.releases (pickRelease normalized kind)).runFrom s =
      some ((releases.search (offersRelease normalized kind)).map (Option.map Release.tagName),
        s.addFetches ((firstReleases (releases.reach (offersRelease normalized kind))).map
          (Endpoint.path owner repo)).reverse) := by
  have hreach : releases.reach (offersRelease normalized kind) ≤ patience :=
    (h.reach_le hfinite Endpoint.releases_path_injective).trans hpatience
  rw [runFrom_searchPages (pickRelease_eq _ _) h hreach, firstReleases, List.map_map]
  rfl

theorem runFrom_searchTags (normalized : Text) (kind : Version.Kind)
    (hfinite : catalog.answered.Finite) (h : Lists (tagsPage catalog owner repo) 1 tags)
    {patience : Nat} (hpatience : catalog.answered.ncard < patience) (s : Session) :
    (searchPages ⟨catalog, patience⟩ (fun page => Endpoint.path owner repo (.tags page))
        Payload.tags (pickTag normalized kind)).runFrom s =
      some ((tags.search (offersTag normalized kind)).map (Option.map Tag.name),
        s.addFetches ((firstTags (tags.reach (offersTag normalized kind))).map
          (Endpoint.path owner repo)).reverse) := by
  have hreach : tags.reach (offersTag normalized kind) ≤ patience :=
    (h.reach_le hfinite Endpoint.tags_path_injective).trans hpatience
  rw [runFrom_searchPages (pickTag_eq _ _) h hreach, firstTags, List.map_map]
  rfl

/-- Where no release is offered, what comes next is a search through the tags. -/
theorem runFrom_findMatchingTag_of_endsWithout (hfinite : catalog.answered.Finite)
    (hreleases : Lists (releasesPage catalog owner repo) 1 releases)
    (htags : Lists (tagsPage catalog owner repo) 1 tags)
    (h : releases.EndsWithout (offersRelease normalized kind)) {patience : Nat}
    (hpatience : catalog.answered.ncard < patience) (s : Session) :
    (findMatchingTag ⟨catalog, patience⟩ owner repo normalized kind).runFrom s =
      some (match tags.search (offersTag normalized kind) with
        | .ok (some t) => .ok t.name
        | .ok none => .error (.noMatchingRelease owner repo normalized)
        | .error f => .error f,
        s.addFetches ((firstReleases (releases.reach (offersRelease normalized kind)) ++
          firstTags (tags.reach (offersTag normalized kind))).map
            (Endpoint.path owner repo)).reverse) := by
  have hfirst := runFrom_searchReleases normalized kind hfinite hreleases hpatience s
  have hsecond := runFrom_searchTags normalized kind hfinite htags hpatience
  rw [Listing.search_of_endsWithout h] at hfirst
  rw [findMatchingTag, runFrom_bind_of_ok hfirst, List.map_append, List.reverse_append,
    ← Session.addFetches_addFetches]
  generalize s.addFetches _ = u at hsecond ⊢
  cases hsearch : tags.search (offersTag normalized kind) with
  | ok found =>
    rw [hsearch] at hsecond
    cases found <;> exact runFrom_bind_of_ok (hsecond u) _
  | error f =>
    rw [hsearch] at hsecond
    exact runFrom_bind_of_error (hsecond u) _

/-- **Searching the listings is searching all that is listed.**  With a catalog that answers only so
many paths both listings of a repository end.  A search for a version ends, too, within the patience
for so many answers; what it comes to is what a search through all releases, and then through all
tags, comes to (`Finds`); and it asks for the pages that this takes, one after the other and each of
them once. -/
theorem findMatchingTag_searches (hfinite : catalog.answered.Finite) (owner repo normalized : Text)
    (kind : Version.Kind) :
    (∃ releases, Lists (releasesPage catalog owner repo) 1 releases) ∧
    (∃ tags, Lists (tagsPage catalog owner repo) 1 tags) ∧
    ∀ releases tags, Lists (releasesPage catalog owner repo) 1 releases →
      Lists (tagsPage catalog owner repo) 1 tags →
      ∃ result asked, Finds owner repo normalized kind releases tags result asked ∧
        (asked.map (Endpoint.path owner repo)).Nodup ∧
        ∀ patience, catalog.answered.ncard < patience → ∀ s,
          (findMatchingTag ⟨catalog, patience⟩ owner repo normalized kind).runFrom s =
            some (result, s.addFetches (asked.map (Endpoint.path owner repo)).reverse) := by
  refine ⟨exists_lists hfinite Endpoint.releases_path_injective 1,
    exists_lists hfinite Endpoint.tags_path_injective 1, fun releases tags hreleases htags => ?_⟩
  have hfirst := fun patience (hpatience : catalog.answered.ncard < patience) s =>
    runFrom_searchReleases normalized kind hfinite hreleases hpatience s
  cases hfind : releases.entries.find? (offersRelease normalized kind) with
  | some r =>
    refine ⟨_, _, .of_release hfind, nodup_path_firstReleases _, fun patience hpatience s => ?_⟩
    rw [Listing.search_of_some hfind] at hfirst
    rw [findMatchingTag, runFrom_bind_of_ok (hfirst patience hpatience s)]
    rfl
  | none =>
    cases hfailure : releases.failure? with
    | some f =>
      refine ⟨_, _, .of_releasesBroken hfind hfailure, nodup_path_firstReleases _,
        fun patience hpatience s => ?_⟩
      rw [Listing.search_of_failure hfind hfailure] at hfirst
      rw [findMatchingTag, runFrom_bind_of_error (hfirst patience hpatience s)]
    | none =>
      have hends : releases.EndsWithout (offersRelease normalized kind) := ⟨hfind, hfailure⟩
      refine ⟨_, _, ?_, nodup_path_append _ _, fun patience hpatience =>
        runFrom_findMatchingTag_of_endsWithout hfinite hreleases htags hends hpatience⟩
      exact .of_endsWithout hends

/-- A full page of releases that are all pre-releases, with no page after it, and a page of tags. -/
def onlyPrereleases : List (Text × Answer) :=
  [("repos/o/r/releases?per_page=100&page=1".toList, .ok (.arr (List.replicate pageSize
      (.obj [("tag_name".toList, .str "v1.5.0".toList), ("prerelease".toList, .bool true)])))),
    ("repos/o/r/tags?per_page=100&page=1".toList, .ok (.arr
      [.obj [("name".toList, .str "v2.0.0".toList)], .obj [("name".toList, .str "v1.4.0".toList)]]))]

/-- Where all releases are pre-releases, the first tag that satisfies the version is found after the
page that is not there. -/
theorem findMatchingTag_searches_onlyPrereleases :
    (Catalog.ofTable onlyPrereleases).answered.Finite ∧
    ∃ asked, asked = [.releases 1, .releases 2, .tags 1] ∧ ∀ s,
      (findMatchingTag (Source.ofTable onlyPrereleases) ['o'] ['r'] "v1".toList .major).runFrom s =
        some (.ok "v1.4.0".toList, s.addFetches (asked.map (Endpoint.path ['o'] ['r'])).reverse) := by
  have hfinite := Catalog.finite_answered_ofTable onlyPrereleases
  have hreleases : Lists (releasesPage (Catalog.ofTable onlyPrereleases) ['o'] ['r']) 1
      (Listing.cons (List.replicate pageSize ⟨"v1.5.0".toList, true⟩) ⟨[], .missing⟩) :=
    .full rfl (by decide) (.missing rfl rfl)
  have htags : Lists (tagsPage (Catalog.ofTable onlyPrereleases) ['o'] ['r']) 1
      ⟨[[⟨"v2.0.0".toList, none⟩, ⟨"v1.4.0".toList, none⟩]], .short⟩ := .short rfl (by decide)
  obtain ⟨result, asked, hfinds, -, hrun⟩ :=
    (findMatchingTag_searches hfinite ['o'] ['r'] "v1".toList .major).2.2 _ _ hreleases htags
  have hends : Listing.EndsWithout (offersRelease "v1".toList .major)
      (Listing.cons (List.replicate pageSize ⟨"v1.5.0".toList, true⟩) ⟨[], .missing⟩) :=
    ⟨by decide +kernel, rfl⟩
  obtain rfl := hfinds.tag hends ⟨"v1.4.0".toList, none⟩ (by decide +kernel)
  exact ⟨hfinite, asked, (hfinds.askedBoth hends).trans (by decide +kernel),
    hrun _ (Source.ncard_answered_lt_patience onlyPrereleases)⟩

end FindMatchingTag

end Resolver

end PinnedActions
