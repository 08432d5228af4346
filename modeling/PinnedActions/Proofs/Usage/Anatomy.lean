import PinnedActions.Proofs.Workflow.File

/-!
# What is on the line of a usage

A usage that was read from a line has all that is on the line, up to letter case and white space.

* `reading_loses_nothing` takes the line apart.  It is the indent, the keyword, the separator, the
  value in its quotes and a tail, with more white space in front of the value if the line has it.
  The value is the path of the action, an at sign and the reference as it is spelled on the line;
  the tail is the comment (`IsAnatomy`).
* `rewritten_line_reads_back` puts a line together.  It is read as the usage that it was written
  for, with a space for the separator if there was none, and that usage has the same line again.

The reader cuts, drops and strips one after the other, and each of these is undone by an equation
between texts: `eq_of_cut?` for the keyword, `exists_trim` for white space, `eq_of_cutComment` for
the comment, `eq_of_unwrap` for the quotes.  The first result chains them.
-/

set_option autoImplicit false

namespace PinnedActions

/-! ## Parts of repositories -/

namespace Action

/-- Whether neither part of the repository of an action has a slash in it. -/
def IsPlain (a : Action) : Prop := '/' ∉ a.owner ∧ '/' ∉ a.repo

theorem isPlain_of_action? {path : Text} {a : Action} (h : Usage.action? path = some a) :
    a.IsPlain := by
  unfold Usage.action? at h
  split at h
  · rename_i owner repo more hsplit
    have hpart : ∀ part ∈ [owner, repo], '/' ∉ part := fun part hpart =>
      Text.not_mem_of_mem_splitOn (t := path) (by
        rw [hsplit]
        exact (List.prefix_append [owner, repo] more).subset hpart)
    split at h
    · cases h
    · cases h
      exact ⟨hpart owner (by simp), hpart repo (by simp)⟩
  · cases h

theorem ne_nil_of_action? {path : Text} {a : Action} (h : Usage.action? path = some a) :
    a.owner ≠ [] ∧ a.repo ≠ [] := by
  unfold Usage.action? at h
  split at h
  · split at h
    · cases h
    · rename_i hne
      cases h
      simpa using hne
  · cases h

end Action

namespace Usage

open Text

/-! ## A line taken apart -/

/-- Whether a text may follow the value on the line of a usage with a comment: it is white space,
and there is no comment, or after white space and a number sign there is what is trimmed to the
comment. -/
def IsTail (tail comment : Text) : Prop :=
  (isBlankText tail = true ∧ comment = []) ∨
    ∃ blanks text, isBlankText blanks = true ∧ tail = blanks ++ '#' :: text ∧ trim text = comment

/-- The parts that a line has around and between those that its usage keeps. -/
structure IsAnatomy (line : Text) (u : Usage) (padding written tail : Text) : Prop where
  line : line = u.indent ++ keyword ++ u.separator ++ padding ++
    u.quote.wrap (u.action.fullPath ++ '@' :: written) ++ tail
  /-- White space that is no separator, such as a no-break space. -/
  padding : isBlankText padding = true
  /-- The reference is kept in lowercase. -/
  reference : lowercase written = u.reference
  lastAt : '@' ∉ written
  tail : IsTail tail u.comment
  expression : ¬['$', '{', '{'] <:+: u.action.fullPath ++ '@' :: written
  foreign : ∀ start ∈ foreignStarts, ¬start <+: u.action.fullPath ++ '@' :: written

/-- A value and its comment with what was stripped from them. -/
theorem exists_tail {t value comment : Text} (h : splitValue t = (value, comment)) :
    ∃ padding tail, isBlankText padding = true ∧ t = padding ++ (value ++ tail) ∧
      ∀ r : Text, isBlankText r = true → IsTail (tail ++ r) comment := by
  rw [splitValue, Prod.mk.injEq] at h
  obtain ⟨hvalue, hcomment⟩ := h
  obtain ⟨padding, blanks, hpadding, hblanks, hbefore⟩ := exists_trim (cutComment false false t).1
  rw [hvalue] at hbefore
  have ht := eq_of_cutComment false false t
  rw [hbefore] at ht
  refine ⟨padding, blanks ++ _, List.all_eq_true.2 hpadding, by simpa using ht, fun r hr => ?_⟩
  have hr' : ∀ c ∈ r, isBlank c = true := List.all_eq_true.1 hr
  cases hafter : (cutComment false false t).2 with
  | none =>
    rw [hafter] at hcomment
    left
    refine ⟨?_, hcomment.symm⟩
    simpa [isBlankText] using ⟨hblanks, hr'⟩
  | some text =>
    rw [hafter] at hcomment
    right
    refine ⟨blanks, text ++ r, List.all_eq_true.2 hblanks, by simp, ?_⟩
    rw [trim_append_of_blank hr', ← hcomment, Option.getD_some]

/-- **A usage has all that is on its line.**  The keyword is the first one, and the owner and the
repository are the first two parts of a path. -/
theorem reading_loses_nothing {line : Text} {u : Usage} (h : parse? line = some u) :
    (∃ padding written tail, IsAnatomy line u padding written tail) ∧
      (∀ before after, line = before ++ (keyword ++ after) → u.indent.length ≤ before.length) ∧
      (u.action.owner ≠ [] ∧ u.action.repo ≠ []) ∧ u.action.IsPlain := by
  obtain ⟨after, inner, written, h⟩ := parse?_eq_some_iff.1 h
  obtain ⟨hforeign, hinner, hat, -, haction⟩ := target?_eq_some_iff.1 h.target
  obtain ⟨hexpression, hstarts⟩ := isForeign_eq_false_iff.1 hforeign
  rw [hinner] at hexpression hstarts
  refine ⟨?_, fun before after' => length_le_of_cut? h.cut, Action.ne_nil_of_action? haction,
    Action.isPlain_of_action? haction⟩
  obtain ⟨l, r, hl, hr, hrest⟩ := exists_trim (after.dropWhile isSeparator)
  obtain ⟨padding, tail, hpadding, hvalue, htail⟩ := exists_tail h.value
  refine ⟨l ++ padding, written, tail ++ r, ?_, ?_, h.reference.symm, hat,
    htail r (List.all_eq_true.2 hr), hexpression, hstarts⟩
  · calc line = u.indent ++ (keyword ++ after) := eq_of_cut? h.cut
      _ = u.indent ++ (keyword ++ (u.separator ++ after.dropWhile isSeparator)) := by
        rw [h.separator, List.takeWhile_append_dropWhile]
      _ = u.indent ++ (keyword ++ (u.separator ++
          (l ++ (padding ++ (u.quote.wrap inner ++ tail) ++ r)))) := by rw [hrest, hvalue]
      _ = u.indent ++ keyword ++ u.separator ++ (l ++ padding) ++
          u.quote.wrap (u.action.fullPath ++ '@' :: written) ++ (tail ++ r) := by
        rw [hinner]
        simp only [List.append_assoc]
  · rw [isBlankText, List.all_append, Bool.and_eq_true]
    exact ⟨List.all_eq_true.2 hl, hpadding⟩

/-- A line on which every step of the reader has something to pass over. -/
def crookedLine : Text :=
  "\t- a#: uses: \u3000\"own/re'po//sub#dir/@v1@LATEST\u03A3\"\u00A0# it's # uses: \r".toList

/-- What is read from it. -/
def crookedUsage : Usage where
  line := 0
  indent := "\t- a#: ".toList
  separator := [' ']
  quote := .double
  action := ⟨"own".toList, "re'po".toList, some "/sub#dir/@v1".toList⟩
  reference := "latest\u03C2".toList
  comment := "it's # uses:".toList

theorem reading_loses_nothing_of_crookedLine :
    parse? crookedLine = some crookedUsage ∧
    (∃ padding written tail, IsAnatomy crookedLine crookedUsage padding written tail) ∧
    (∀ before after, crookedLine = before ++ (keyword ++ after) →
      crookedUsage.indent.length ≤ before.length) ∧
    (crookedUsage.action.owner ≠ [] ∧ crookedUsage.action.repo ≠ []) ∧
    crookedUsage.action.IsPlain :=
  have h : parse? crookedLine = some crookedUsage := by decide +kernel
  ⟨h, reading_loses_nothing h⟩

/-! ## A line put together -/

/-- **A line that was written is read as what it was written for**, and what is read has the same
line. -/
theorem rewritten_line_reads_back {line : Text} {u : Usage} (h : parse? line = some u)
    (hquotes : NoQuotes u.action.fullPath) {reference comment : Text} (hne : reference ≠ [])
    (hordinary : ∀ c ∈ reference, isOrdinary c = true) (hcomment : trim comment = comment) :
    ∃ v, parse? (u.render reference comment) = some v ∧
      v = { u with
        separator := u.writtenSeparator
        reference := lowercase reference
        comment } ∧
      v.render v.reference v.comment = u.render reference comment := by
  have hread := parse?_render_of_ordinary (readable_of_parse? h hquotes)
    (lowercase_eq_nil_iff.not.2 hne) (isOrdinary_of_mem_lowercase hordinary)
    (hcomment ▸ isTrimmed_trim comment)
  rw [← line_of_parse? h] at hread
  refine ⟨(u.repinned reference comment).respaced, hread, rfl, ?_⟩
  rw [render_respaced]
  exact u.render_repinned reference comment

/-- A usage without a separator, on a line with a number sign in its value. -/
def unspacedUsage : Usage where
  line := 0
  indent := "- ".toList
  separator := []
  quote := .double
  action := ⟨"Owner".toList, "Repo".toList, some "a b#c".toList⟩
  reference := "v1".toList
  comment := []

theorem rewritten_line_reads_back_of_unspacedUsage :
    parse? "- uses:\"Owner/Repo/a b#c@V1\"".toList = some unspacedUsage ∧
    ∃ v, parse? (unspacedUsage.render "LATEST\u03A3".toList "\"it's\" # uses: a/b@c".toList) =
        some v ∧
      v = { unspacedUsage with
        separator := unspacedUsage.writtenSeparator
        reference := lowercase "LATEST\u03A3".toList
        comment := "\"it's\" # uses: a/b@c".toList } ∧
      v.render v.reference v.comment =
        unspacedUsage.render "LATEST\u03A3".toList "\"it's\" # uses: a/b@c".toList :=
  have h : parse? "- uses:\"Owner/Repo/a b#c@V1\"".toList = some unspacedUsage := by decide +kernel
  have hordinary : "LATEST\u03A3".toList.all isOrdinary = true := by decide
  ⟨h, rewritten_line_reads_back h (by decide +kernel) (by decide) (List.all_eq_true.1 hordinary)
    (by decide +kernel)⟩

end Usage

end PinnedActions
