import PinnedActions.Proofs.Catalog.Answered
import PinnedActions.Proofs.Resolver.Congruence

/-!
# The chain of a tag

A tag points to an object, which may be a tag object that points on, and how far this goes is up to
the catalog.  `station?` lists the questions that it leads to, one for each object of the chain, and
resolving a reference is shown to end exactly when the chain does
(`resolveReference_follows_the_chain`).

## What is here

* `object?` — the object at a station, or why it cannot be had; `next?` — the station it points to.
* `runFrom_chase` — one step along the chain.  From it follow by induction what a walk that comes to
  the end does (`runFrom_chase_of_isLast`), and that one that ends has come there
  (`exists_isLast_of_chase`).
* `not_isLast_of_comesBack` — a chain that comes back to a station has no last one.
* `comesBack_of_not_isLast` — a chain without a last station comes back to one if only so many paths
  are answered.  So with the patience for so many answers a walk that is given up would not have
  ended at all (`resolveReference_endless_iff`).
-/

set_option autoImplicit false

namespace PinnedActions

namespace Resolver

open Walk

variable {catalog : Catalog} {owner repo name : Text} {s : Session}

/-! ## Stations -/

/-- The object that a question leads to. -/
def object? (catalog : Catalog) (owner repo : Text) (e : Endpoint) : Except Failure GitObject :=
  catalog.tells (e.path owner repo) Payload.gitReference

/-- The question that a tag object leads on to. -/
def next? (catalog : Catalog) (owner repo : Text) (e : Endpoint) : Option Endpoint :=
  match object? catalog owner repo e with
  | .ok o => if o.type = tagType then some (.tagObject o.hash) else none
  | .error _ => none

/-- The questions along a chain, from the first one on. -/
def station? (catalog : Catalog) (owner repo : Text) (first : Endpoint) : Nat → Option Endpoint
  | 0 => some first
  | k + 1 => (station? catalog owner repo first k).bind (next? catalog owner repo)

/-- Whether a question is the last one of a chain: it cannot be answered, or leads to no tag
object. -/
def IsLast (catalog : Catalog) (owner repo : Text) (first : Endpoint) (n : Nat) (last : Endpoint) :
    Prop :=
  station? catalog owner repo first n = some last ∧ next? catalog owner repo last = none

/-- The chain from the second station on. -/
theorem station?_succ_of_next? {e e' : Endpoint} (h : next? catalog owner repo e = some e')
    (k : Nat) : station? catalog owner repo e (k + 1) = station? catalog owner repo e' k := by
  induction k with
  | zero => exact h
  | succ k ih => rw [station?, ih, station?]

/-- Nothing comes after the last station. -/
theorem IsLast.station?_eq_none {first last : Endpoint} {n k : Nat}
    (h : IsLast catalog owner repo first n last) (hk : n < k) :
    station? catalog owner repo first k = none := by
  induction k, hk using Nat.le_induction with
  | base => rw [station?, h.1, Option.bind_some, h.2]
  | succ k _ ih => rw [station?, ih, Option.bind_none]

/-! ## Going along a chain -/

/-- The object at the end of the chain that starts at a question. -/
def chase (source : Source) (owner repo : Text) (patience : Nat) (e : Endpoint) :
    Walk GitObject := do
  let first ← Walk.fetch source (e.path owner repo) Payload.gitReference
  follow source owner repo patience first

theorem follow_of_type_ne {source : Source} {o : GitObject} (h : o.type ≠ tagType)
    (patience : Nat) : follow source owner repo patience o = return o := by
  cases patience <;> exact if_pos h

theorem follow_zero_of_type_eq {source : Source} {o : GitObject} (h : o.type = tagType) :
    follow source owner repo 0 o = Walk.endless :=
  if_neg (not_not.2 h)

theorem follow_succ_of_type_eq {source : Source} {o : GitObject} (h : o.type = tagType)
    (patience : Nat) :
    follow source owner repo (patience + 1) o =
      chase source owner repo patience (.tagObject o.hash) :=
  if_neg (not_not.2 h)

/-- **One step along a chain.**  A walk ends at the last station, and goes on at any other one as
long as it has patience. -/
theorem runFrom_chase (source : Source) (patience : Nat) (e : Endpoint) (s : Session) :
    (chase source owner repo patience e).runFrom s =
      match next? source.catalog owner repo e, patience with
      | none, _ => some (object? source.catalog owner repo e, s.addFetch (e.path owner repo))
      | some _, 0 => none
      | some e', patience + 1 =>
        (chase source owner repo patience e').runFrom (s.addFetch (e.path owner repo)) := by
  have hfetch : (Walk.fetch source (e.path owner repo) Payload.gitReference).runFrom s =
      some (object? source.catalog owner repo e, s.addFetch (e.path owner repo)) :=
    Catalog.runFrom_fetch source.patience s
  rw [chase, next?]
  cases hobject : object? source.catalog owner repo e with
  | error f =>
    rw [hobject] at hfetch
    exact runFrom_bind_of_error hfetch _
  | ok o =>
    rw [hobject] at hfetch
    rw [runFrom_bind_of_ok hfetch]
    by_cases htag : o.type = tagType
    · simp only [if_pos htag]
      cases patience with
      | zero => rw [follow_zero_of_type_eq htag]; rfl
      | succ patience => rw [follow_succ_of_type_eq htag]
    · simp only [if_neg htag]
      rw [follow_of_type_ne htag]
      rfl

/-- **A walk along a chain comes to the last station**, by way of all others in their order. -/
theorem runFrom_chase_of_isLast {first last : Endpoint} {n : Nat}
    (h : IsLast catalog owner repo first n last) :
    ∃ asked : List Endpoint,
      asked.map some = (List.range (n + 1)).map (station? catalog owner repo first) ∧
      ∀ patience, n ≤ patience → ∀ given s,
        (chase ⟨catalog, given⟩ owner repo patience first).runFrom s =
          some (object? catalog owner repo last,
            s.addFetches (asked.map (Endpoint.path owner repo)).reverse) := by
  induction n generalizing first with
  | zero =>
    obtain rfl : first = last := Option.some.inj h.1
    refine ⟨[first], rfl, fun patience _ given s => ?_⟩
    rw [runFrom_chase, h.2]
    rfl
  | succ n ih =>
    cases hnext : next? catalog owner repo first with
    | none =>
      have hnone := IsLast.station?_eq_none (k := n + 1) ⟨rfl, hnext⟩ n.succ_pos
      rw [h.1] at hnone
      cases hnone
    | some e =>
      obtain ⟨asked, hasked, hrun⟩ := ih ⟨station?_succ_of_next? hnext n ▸ h.1, h.2⟩
      refine ⟨first :: asked, ?_, fun patience hpatience given s => ?_⟩
      · rw [List.map_cons, hasked, List.range_succ_eq_map (n := n + 1), List.map_cons, List.map_map]
        congr 1
        exact List.map_congr_left fun k _ => (station?_succ_of_next? hnext k).symm
      · obtain ⟨patience, rfl⟩ := Nat.exists_eq_add_of_le' (n.succ_pos.trans_le hpatience)
        rw [runFrom_chase, hnext]
        dsimp only
        rw [hrun patience (by omega)]
        simp [Session.addFetches, Session.addFetch]

/-- A walk along a chain that ends has come to the last station. -/
theorem exists_isLast_of_chase {source : Source} {patience : Nat} {first : Endpoint}
    (h : (chase source owner repo patience first).runFrom s ≠ none) :
    ∃ n last, IsLast source.catalog owner repo first n last := by
  induction patience generalizing first s with
  | zero =>
    cases hnext : next? source.catalog owner repo first with
    | none => exact ⟨0, first, rfl, hnext⟩
    | some e =>
      rw [runFrom_chase, hnext] at h
      exact absurd rfl h
  | succ patience ih =>
    cases hnext : next? source.catalog owner repo first with
    | none => exact ⟨0, first, rfl, hnext⟩
    | some e =>
      rw [runFrom_chase, hnext] at h
      obtain ⟨n, last, hn, hlast⟩ := ih h
      exact ⟨n + 1, last, (station?_succ_of_next? hnext n).trans hn, hlast⟩

/-! ## Chains that come back -/

/-- Whether a chain comes back to a station. -/
def ComesBack (catalog : Catalog) (owner repo : Text) (first : Endpoint) : Prop :=
  ∃ i j, i < j ∧ station? catalog owner repo first i ≠ none ∧
    station? catalog owner repo first i = station? catalog owner repo first j

/-- From equal stations on, the chain goes the same way. -/
theorem station?_add_eq {first : Endpoint} {i j : Nat}
    (h : station? catalog owner repo first i = station? catalog owner repo first j) (k : Nat) :
    station? catalog owner repo first (i + k) = station? catalog owner repo first (j + k) := by
  induction k with
  | zero => exact h
  | succ k ih => rw [← Nat.add_assoc, ← Nat.add_assoc, station?, station?, ih]

/-- **A chain that comes back has no last station.** -/
theorem not_isLast_of_comesBack {first : Endpoint} (h : ComesBack catalog owner repo first)
    (n : Nat) (last : Endpoint) : ¬IsLast catalog owner repo first n last := by
  intro hlast
  obtain ⟨i, j, hij, hi, heq⟩ := h
  rcases lt_or_ge n i with hni | hin
  · exact hi (hlast.station?_eq_none hni)
  · obtain ⟨k, rfl⟩ := Nat.exists_eq_add_of_le hin
    have hlater := hlast.station?_eq_none (k := j + k) (by omega)
    rw [← station?_add_eq heq k, hlast.1] at hlater
    cases hlater

theorem mem_answered_of_next? {e : Endpoint} (h : next? catalog owner repo e ≠ none) :
    e.path owner repo ∈ catalog.answered := by
  rw [next?] at h
  split at h
  · rename_i o hobject
    exact Catalog.mem_answered_of_tells hobject
  · exact absurd rfl h

/-- Up to some station, either one of them is the last, or all of them lead on. -/
theorem exists_station?_of_not_isLast {first : Endpoint} {k : Nat}
    (h : ∀ n last, n ≤ k → ¬IsLast catalog owner repo first n last) :
    ∀ n ≤ k, ∃ e, station? catalog owner repo first n = some e ∧
      next? catalog owner repo e ≠ none := by
  intro n hn
  have hlast : ∀ e, station? catalog owner repo first n = some e →
      next? catalog owner repo e ≠ none := fun e he hnext => h n e hn ⟨he, hnext⟩
  induction n with
  | zero => exact ⟨first, rfl, hlast first rfl⟩
  | succ n ih =>
    obtain ⟨e, he, hnext⟩ := ih (by omega) fun e he hnext => h n e (by omega) ⟨he, hnext⟩
    obtain ⟨e', he'⟩ := Option.ne_none_iff_exists'.1 hnext
    have hstation : station? catalog owner repo first (n + 1) = some e' := by
      rw [station?, he, Option.bind_some, he']
    exact ⟨e', hstation, hlast e' hstation⟩

/-- **A chain without an end comes back**, when only so many paths are answered. -/
theorem comesBack_of_not_isLast (hfinite : catalog.answered.Finite)
    (h : ∀ n last, n ≤ catalog.answered.ncard →
      ¬IsLast catalog owner repo (.tagReference name) n last) :
    ComesBack catalog owner repo (.tagReference name) := by
  by_contra hback
  have : Nonempty Endpoint := ⟨.tagReference name⟩
  choose! e he hnext using exists_station?_of_not_isLast h
  -- the questions up to there are all different, and one too many
  have hinj : ∀ i ∈ List.range (catalog.answered.ncard + 1),
      ∀ j ∈ List.range (catalog.answered.ncard + 1),
        (e i).path owner repo = (e j).path owner repo → i = j := by
    intro i hi j hj hpath
    have hi' := he i (Nat.lt_succ_iff.1 (List.mem_range.1 hi))
    have hj' := he j (Nat.lt_succ_iff.1 (List.mem_range.1 hj))
    have heq := hi'.trans ((congrArg some (Endpoint.path_injective owner repo hpath)).trans hj'.symm)
    rcases lt_trichotomy i j with hlt | hij | hlt
    · exact absurd ⟨i, j, hlt, by simp [hi'], heq⟩ hback
    · exact hij
    · exact absurd ⟨j, i, hlt, by simp [hj'], heq.symm⟩ hback
  have hle := Catalog.length_le_ncard_answered hfinite (List.Nodup.map_on hinj List.nodup_range)
    fun p hp => by
      obtain ⟨k, hk, rfl⟩ := List.mem_map.1 hp
      exact mem_answered_of_next? (hnext k (Nat.lt_succ_iff.1 (List.mem_range.1 hk)))
  rw [List.length_map, List.length_range] at hle
  omega

/-! ## Resolving a reference -/

/-- What resolving a reference makes of the end of its chain, and of the session.  Only a commit is
remembered. -/
def conclude (owner repo name : Text) :
    Except Failure GitObject × Session → Except Failure Text × Session
  | (.error f, t) => (.error f, t)
  | (.ok o, t) =>
    if o.type = commitType then
      (.ok (Text.lowercase o.hash),
        t.addReference (Session.key owner repo name) (Text.lowercase o.hash))
    else (.error (.unsupportedObject name o.type), t)

/-- A reference that is not remembered is resolved by going along its chain. -/
theorem runFrom_resolveReference {source : Source} (hname : Version.isFullHash name = false)
    (hnew : s.references.lookup (Session.key owner repo name) = none) :
    (resolveReference source owner repo name).runFrom s =
      ((chase source owner repo source.patience (.tagReference name)).runFrom s).map
        (conclude owner repo name) := by
  have hchase : dereference source owner repo name =
      chase source owner repo source.patience (.tagReference name) >>= fun last =>
        if last.type ≠ commitType then Walk.fail (.unsupportedObject name last.type)
        else return Text.lowercase last.hash := by
    rw [dereference, chase, bind_assoc]
  rw [resolveReference_eq_memo hname, runFrom_memo_of_none hnew, remember, hchase, runFrom_bind,
    runFrom_bind]
  rcases (chase source owner repo source.patience (.tagReference name)).runFrom s with
    _ | ⟨f | o, t⟩
  · rfl
  · rfl
  · simp only [Option.bind_some, Option.map_some, conclude]
    by_cases htype : o.type = commitType
    · rw [if_neg (not_not.2 htype), if_pos htype]
      rfl
    · rw [if_pos htype, if_neg htype]
      rfl

/-- **A reference is resolved by following its chain, and as far as that goes.**  A reference that is
no hash and not remembered is resolved, with enough patience, just when its chain has a last station.
Then every station is asked about once, in their order, and the result is the failure at the last one,
or the commit there, which is remembered, or that its object is of no use.  When the chain comes back
to a station, no patience is enough. -/
theorem resolveReference_follows_the_chain (hname : Version.isFullHash name = false)
    (hnew : s.references.lookup (Session.key owner repo name) = none) :
    ((∃ patience, (resolveReference ⟨catalog, patience⟩ owner repo name).runFrom s ≠ none) ↔
      ∃ n last, IsLast catalog owner repo (.tagReference name) n last) ∧
    (∀ n last, IsLast catalog owner repo (.tagReference name) n last →
      ∃ asked : List Endpoint, asked.map some =
          (List.range (n + 1)).map (station? catalog owner repo (.tagReference name)) ∧
        ∀ patience, n ≤ patience →
          (resolveReference ⟨catalog, patience⟩ owner repo name).runFrom s =
            some (conclude owner repo name (object? catalog owner repo last,
              s.addFetches (asked.map (Endpoint.path owner repo)).reverse))) ∧
    (ComesBack catalog owner repo (.tagReference name) → ∀ patience,
      (resolveReference ⟨catalog, patience⟩ owner repo name).runFrom s = none) := by
  have hends : ∀ patience, (resolveReference ⟨catalog, patience⟩ owner repo name).runFrom s ≠ none →
      ∃ n last, IsLast catalog owner repo (.tagReference name) n last := by
    intro patience h
    rw [runFrom_resolveReference hname hnew, Ne, Option.map_eq_none_iff] at h
    exact exists_isLast_of_chase h
  have hruns : ∀ n last, IsLast catalog owner repo (.tagReference name) n last →
      ∃ asked : List Endpoint, asked.map some =
          (List.range (n + 1)).map (station? catalog owner repo (.tagReference name)) ∧
        ∀ patience, n ≤ patience →
          (resolveReference ⟨catalog, patience⟩ owner repo name).runFrom s =
            some (conclude owner repo name (object? catalog owner repo last,
              s.addFetches (asked.map (Endpoint.path owner repo)).reverse)) := by
    intro n last hlast
    obtain ⟨asked, hasked, hrun⟩ := runFrom_chase_of_isLast hlast
    refine ⟨asked, hasked, fun patience hpatience => ?_⟩
    rw [runFrom_resolveReference hname hnew, hrun patience hpatience]
    rfl
  refine ⟨⟨fun ⟨patience, h⟩ => hends patience h, fun ⟨n, last, hlast⟩ => ?_⟩, hruns,
    fun hback patience => ?_⟩
  · obtain ⟨asked, -, hrun⟩ := hruns n last hlast
    exact ⟨n, by simp [hrun n le_rfl]⟩
  · by_contra h
    obtain ⟨n, last, hlast⟩ := hends patience h
    exact not_isLast_of_comesBack hback n last hlast

/-- The answer that a tag points to an object. -/
def pointsTo (hash type : Text) : Answer :=
  .ok (.obj [("object".toList, .obj [("sha".toList, .str hash), ("type".toList, .str type)])])

/-- A tag whose tag object points to another one, and that to a commit, and a tag whose tag objects
point to each other. -/
def chainAndLoop : List (Text × Answer) :=
  [("repos/o/r/git/ref/tags/v1".toList, pointsTo ['b'] tagType),
    ("repos/o/r/git/tags/b".toList, pointsTo ['a'] tagType),
    ("repos/o/r/git/tags/a".toList, pointsTo ['C'] commitType),
    ("repos/o/r/git/ref/tags/loop".toList, pointsTo ['x'] tagType),
    ("repos/o/r/git/tags/x".toList, pointsTo ['y'] tagType),
    ("repos/o/r/git/tags/y".toList, pointsTo ['x'] tagType)]

/-- The first tag is resolved with three questions, the second one never. -/
theorem resolveReference_follows_chainAndLoop :
    Version.isFullHash "v1".toList = false ∧ Version.isFullHash "loop".toList = false ∧
    Session.empty.references.lookup (Session.key ['o'] ['r'] "v1".toList) = none ∧
    Session.empty.references.lookup (Session.key ['o'] ['r'] "loop".toList) = none ∧
    (∀ patience, 2 ≤ patience →
      (resolveReference ⟨Catalog.ofTable chainAndLoop, patience⟩ ['o'] ['r'] "v1".toList).runFrom
          .empty =
        some (.ok ['c'], (Session.empty.addFetches
          (["repos/o/r/git/tags/a", "repos/o/r/git/tags/b", "repos/o/r/git/ref/tags/v1"].map
            String.toList)).addReference (Session.key ['o'] ['r'] "v1".toList) ['c'])) ∧
    ∀ patience, (resolveReference ⟨Catalog.ofTable chainAndLoop, patience⟩ ['o'] ['r']
      "loop".toList).runFrom .empty = none := by
  have hchain := @resolveReference_follows_the_chain (Catalog.ofTable chainAndLoop) ['o'] ['r']
    "v1".toList .empty (by decide) rfl
  have hloop := @resolveReference_follows_the_chain (Catalog.ofTable chainAndLoop) ['o'] ['r']
    "loop".toList .empty (by decide) rfl
  have hlast : IsLast (Catalog.ofTable chainAndLoop) ['o'] ['r'] (.tagReference "v1".toList) 2
      (.tagObject ['a']) := ⟨by decide +kernel, by decide +kernel⟩
  have hback : ComesBack (Catalog.ofTable chainAndLoop) ['o'] ['r']
      (.tagReference "loop".toList) := ⟨1, 3, by decide, by decide +kernel, by decide +kernel⟩
  obtain ⟨asked, hasked, hrun⟩ := hchain.2.1 2 _ hlast
  have hthree : asked.map some =
      [Endpoint.tagReference "v1".toList, .tagObject ['b'], .tagObject ['a']].map some :=
    hasked.trans (by decide +kernel)
  obtain rfl := List.map_injective_iff.2 (Option.some_injective _) hthree
  refine ⟨by decide, by decide, rfl, rfl, fun patience hpatience => ?_, hloop.2.2 hback⟩
  rw [hrun patience hpatience]
  decide +kernel

/-- **Patience for all answers is enough patience**: where it runs out, the chain comes back. -/
theorem resolveReference_endless_iff (hfinite : catalog.answered.Finite) {patience : Nat}
    (hpatience : catalog.answered.ncard < patience) (hname : Version.isFullHash name = false)
    (hnew : s.references.lookup (Session.key owner repo name) = none) :
    (resolveReference ⟨catalog, patience⟩ owner repo name).runFrom s = none ↔
      ComesBack catalog owner repo (.tagReference name) := by
  refine ⟨fun h => comesBack_of_not_isLast hfinite fun n last hn hlast => ?_, fun h => ?_⟩
  · obtain ⟨asked, -, hrun⟩ := runFrom_chase_of_isLast hlast
    rw [runFrom_resolveReference hname hnew, hrun patience (by omega)] at h
    cases h
  · rw [runFrom_resolveReference hname hnew, Option.map_eq_none_iff]
    by_contra hends
    obtain ⟨n, last, hlast⟩ := exists_isLast_of_chase hends
    exact not_isLast_of_comesBack h n last hlast

end Resolver

end PinnedActions
