import PinnedActions.Catalog.Endpoint
import PinnedActions.Proofs.Text.Cut
import PinnedActions.Proofs.Text.Percent
import Mathlib.Data.Nat.Digits.Lemmas

/-!
# Different questions have different paths

The path of a question about a repository has the owner and the name of the repository in it as they
are, and then what is asked, with the name of a tag escaped.  It can be taken apart again.  The first
slashes end the owner and the repository, as these have none; what comes after tells the six kinds of
questions apart by a few of its characters (`kindOf`); and what was escaped can be read back.

* `suffix_injective` — questions about one repository.
* `path_eq_iff_of_plain` — questions about any repositories.
* `not_mem_escape` — an escaped name has nothing that would start a query or a fragment.

`paths_tell_questions_apart` puts these together.
-/

set_option autoImplicit false

namespace PinnedActions

/-- Different numbers have different numerals. -/
theorem Text.decimal_injective : Function.Injective Text.decimal := by
  intro m n h
  have hvalue := congrArg (Nat.ofDigitChars 10 · 0) h
  simpa only [Text.decimal, Nat.ofDigitChars_ten_toDigits] using hvalue

namespace Endpoint

/-! ## Escaped names -/

theorem escape_injective : Function.Injective escape :=
  Percent.encode_injective (by decide)

/-- Nothing but the plain characters, percent signs and digits stands in an escaped name. -/
theorem not_mem_escape {c : Char} (hplain : isPlain c = false) (hpercent : c ≠ '%')
    (hdigit : c ∉ Percent.capitalDigits) (name : Text) : c ∉ escape name := by
  intro h
  rcases Percent.mem_of_mem_encode h with ⟨-, hc⟩ | hc | hc
  · rw [hplain] at hc
    cases hc
  · exact hpercent hc
  · exact hdigit hc

/-! ## What is asked -/

/-- Which of the six kinds of questions is asked, by a few characters of the part of the path after the
repository. -/
def kindOf (t : Text) : Nat :=
  if t[0]? = some 'g' then if t[4]? = some 'r' then 0 else 1
  else if t[0]? = some 'r' then if t[8]? = some '?' then 2 else 4
  else if t[15]? = none then 5 else 3

theorem kindOf_suffix (e : Endpoint) : kindOf e.suffix = e.ctorIdx := by
  cases e <;> rfl

theorem suffix_injective : Function.Injective suffix := by
  intro e e' h
  have hkind : e.ctorIdx = e'.ctorIdx := by rw [← kindOf_suffix, h, kindOf_suffix]
  cases e <;> cases e'
  case tagReference.tagReference name name' =>
    rw [escape_injective (List.append_cancel_left h)]
  case tagObject.tagObject hash hash' => rw [List.append_cancel_left h]
  case releases.releases page page' =>
    rw [Text.decimal_injective (List.append_cancel_left h)]
  case tags.tags page page' => rw [Text.decimal_injective (List.append_cancel_left h)]
  case latestRelease.latestRelease => rfl
  case newestTag.newestTag => rfl
  all_goals cases hkind

/-! ## Paths -/

section OneRepository

variable (owner repo : Text)

theorem path_eq (e : Endpoint) :
    e.path owner repo = "repos/".toList ++ (owner ++ '/' :: (repo ++ '/' :: e.suffix)) := by
  unfold path
  simp only [List.append_assoc, List.cons_append]

theorem path_injective : Function.Injective (path owner repo) := by
  intro e e' h
  rw [path_eq, path_eq] at h
  have hname := (List.cons.inj (List.append_cancel_left (List.append_cancel_left h))).2
  exact suffix_injective (List.cons.inj (List.append_cancel_left hname)).2

variable {owner repo}

/-- Two paths for one repository are the same only if they go on in the same way. -/
theorem suffix_eq_of_path_eq {e e' : Endpoint} (h : e.path owner repo = e'.path owner repo) :
    e.suffix = e'.suffix :=
  congrArg suffix (path_injective owner repo h)

theorem releases_path_injective :
    Function.Injective fun page => (releases page).path owner repo :=
  (path_injective owner repo).comp fun _ _ => releases.inj

theorem tags_path_injective : Function.Injective fun page => (tags page).path owner repo :=
  (path_injective owner repo).comp fun _ _ => tags.inj

end OneRepository

/-- The first two slashes after the fixed part end the owner and the name of the repository. -/
theorem path_eq_iff_of_plain {owner repo owner' repo' : Text} (howner : '/' ∉ owner)
    (hrepo : '/' ∉ repo) (howner' : '/' ∉ owner') (hrepo' : '/' ∉ repo') {e e' : Endpoint} :
    e.path owner repo = e'.path owner' repo' ↔ owner = owner' ∧ repo = repo' ∧ e = e' := by
  constructor
  · intro h
    rw [path_eq, path_eq] at h
    obtain ⟨rfl, hname⟩ := (Text.append_mark_inj howner howner').1 (List.append_cancel_left h)
    obtain ⟨rfl, hsuffix⟩ := (Text.append_mark_inj hrepo hrepo').1 hname
    exact ⟨rfl, rfl, suffix_injective hsuffix⟩
  · rintro ⟨rfl, rfl, rfl⟩
    rfl

/-- **Different questions have different paths**, whatever their owners and repositories look like
apart from slashes.  An escaped name can be read back and has the form that it should have, so that no
query and no fragment can start in it. -/
theorem paths_tell_questions_apart {owner repo owner' repo' : Text} (howner : '/' ∉ owner)
    (hrepo : '/' ∉ repo) (howner' : '/' ∉ owner') (hrepo' : '/' ∉ repo') (e e' : Endpoint) :
    (e.path owner repo = e'.path owner' repo' → owner = owner' ∧ repo = repo' ∧ e = e') ∧
    ∀ name, Percent.decode (escape name) = Utf8.encode name ∧
      Percent.IsEncoded isPlain (escape name) ∧ '?' ∉ escape name ∧ '#' ∉ escape name :=
  ⟨(path_eq_iff_of_plain howner hrepo howner' hrepo').1, fun name =>
    ⟨Percent.decode_encode (by decide) name, Percent.isEncoded_encode isPlain name,
      not_mem_escape (by decide) (by decide) (by decide) name,
      not_mem_escape (by decide) (by decide) (by decide) name⟩⟩

/-- An owner that looks like a query, and a tag whose name looks like an escaped one. -/
theorem paths_tell_questions_apart_of_crookedOwner :
    ('/' ∉ "o?per_page=1&page=2#".toList ∧ '/' ∉ ['r'] ∧ '/' ∉ ['o'] ∧ '/' ∉ "r?x".toList) ∧
    ((tagReference "v1/\u03B2?%2E#".toList).path "o?per_page=1&page=2#".toList ['r'] =
        (tagObject "../ref/tags/v1".toList).path ['o'] "r?x".toList →
      "o?per_page=1&page=2#".toList = ['o'] ∧ ['r'] = "r?x".toList ∧
        tagReference "v1/\u03B2?%2E#".toList = tagObject "../ref/tags/v1".toList) ∧
    ∀ name, Percent.decode (escape name) = Utf8.encode name ∧
      Percent.IsEncoded isPlain (escape name) ∧ '?' ∉ escape name ∧ '#' ∉ escape name :=
  have howner : '/' ∉ "o?per_page=1&page=2#".toList := by decide
  have hrepo : '/' ∉ "r?x".toList := by decide
  ⟨⟨howner, by decide, by decide, hrepo⟩,
    paths_tell_questions_apart howner (by decide) (by decide) hrepo _ _⟩

end Endpoint

end PinnedActions
