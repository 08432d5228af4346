import PinnedActions.Proofs.Text.Utf8
import PinnedActions.Proofs.Version.Comment

/-!
# Tidy comments

A comment that is taken apart and put together again is **tidy**: there is no white space around it,
and one space between its version and its remark.

* `exists_split` — what a comment consists of: its version and its remark, with white space before,
  between and after them.
* `split_tidy` — a comment and its tidy form have the same version and the same remark, so making a
  tidy comment tidy changes nothing.
* `nonblanks_tidy` — the two have the same characters, up to white space.
* `decode?_drop_encode` — cutting the version off the bytes of a comment, by the number of its own
  bytes, cuts between two characters.
-/

set_option autoImplicit false

namespace PinnedActions

namespace Utf8

theorem encode_append (a b : Text) : encode (a ++ b) = encode a ++ encode b :=
  List.flatMap_append

/-- The bytes after those of a beginning are those of the rest. -/
theorem decode?_drop_encode (a b : Text) :
    decode? ((encode (a ++ b)).drop (encode a).length) = some b := by
  rw [encode_append, List.drop_left, decode?_encode]

end Utf8

namespace Comment

open Text

variable {comment : Text}

/-- The comment as it is put together from its version and its remark. -/
def tidy (comment : Text) : Text := join (split comment).1 (split comment).2

/-- The characters of a text that are not white space. -/
def nonblanks (t : Text) : Text := t.filter fun c => !isBlank c

/-! ## Taking apart -/

theorem isTrimmed_split (comment : Text) : IsTrimmed (split comment).2 :=
  isTrimmed_trim _

theorem split_of_blank (h : isBlankText comment = true) : split comment = ([], []) := by
  rw [split, trim_eq_nil_iff.2 h]
  rfl

/-- White space around a comment does not matter. -/
theorem split_trim (comment : Text) : split (trim comment) = split comment := by
  rw [split, split, trim_trim]

/-- Only white space has no version. -/
theorem split_fst_eq_nil_iff : (split comment).1 = [] ↔ isBlankText comment = true := by
  refine ⟨fun h => trim_eq_nil_iff.1 (eq_nil_of_split (isTrimmed_trim comment) ?_), fun h => ?_⟩
  · rwa [split_trim]
  · rw [split_of_blank h]

/-- What follows the first word starts with white space. -/
theorem isBlank_of_afterFirstWord {t : Text} {c : Char} {rest : Text}
    (h : afterFirstWord t = c :: rest) : isBlank c = true := by
  have hhead := List.head?_dropWhile_not (fun c => !isBlank c) t
  rw [← afterFirstWord, h] at hhead
  simpa using hhead

/-- **A comment is its version and its remark, with white space around them.**  There is white space
between them if there is a remark. -/
theorem exists_split (comment : Text) : ∃ l m r : Text, isBlankText l = true ∧
    isBlankText m = true ∧ isBlankText r = true ∧ (m = [] ↔ (split comment).2 = []) ∧
      comment = l ++ ((split comment).1 ++ (m ++ ((split comment).2 ++ r))) := by
  simp only [isBlankText, List.all_eq_true]
  obtain ⟨l, r, hl, hr, hcomment⟩ := exists_trim comment
  obtain ⟨m, r', hm, hr', hafter⟩ := exists_trim (afterFirstWord (trim comment))
  have hwords : trim comment =
      (split comment).1 ++ (m ++ ((split comment).2 ++ r')) := by
    rw [split, ← hafter, firstWord, afterFirstWord, List.takeWhile_append_dropWhile]
  rw [hwords] at hcomment
  by_cases hremark : (split comment).2 = []
  · refine ⟨l, [], m ++ (r' ++ r), hl, by simp, ?_, by simp [hremark], ?_⟩
    · simpa [or_imp, forall_and] using ⟨hm, hr', hr⟩
    · simpa [hremark] using hcomment
  · refine ⟨l, m, r' ++ r, hl, hm, ?_, iff_of_false ?_ hremark, by simpa using hcomment⟩
    · simpa [or_imp, forall_and] using ⟨hr', hr⟩
    · -- the remark is trimmed, but it would follow the first word at once
      rintro rfl
      obtain ⟨c, rest, hcons⟩ := List.exists_cons_of_ne_nil hremark
      have hc : isBlank c = false := (isTrimmed_split comment).1 c (by simp [hcons])
      have hfollows : afterFirstWord (trim comment) = c :: (rest ++ r') := by
        rw [hafter, ← List.cons_append, ← hcons]
        rfl
      rw [isBlank_of_afterFirstWord hfollows] at hc
      cases hc

/-! ## Putting together again -/

theorem tidy_eq (comment : Text) : tidy comment =
    (split comment).1 ++ ((if (split comment).2 = [] then [] else [' ']) ++ (split comment).2) := by
  have hremark : trim (split comment).2 = (split comment).2 :=
    trim_of_isTrimmed (isTrimmed_split comment)
  by_cases hversion : (split comment).1 = []
  · rw [tidy, split_of_blank (split_fst_eq_nil_iff.1 hversion)]
    rfl
  by_cases hnone : (split comment).2 = []
  · rw [tidy, join_of_no_remark hversion (hremark.trans hnone), hnone]
    simp
  · rw [tidy, join_of_remark hversion (by rwa [hremark]), hremark, if_neg hnone]
    rfl

/-- **Taking apart what was put together again gives the same parts.** -/
theorem split_tidy (comment : Text) : split (tidy comment) = split comment := by
  by_cases hversion : (split comment).1 = []
  · rw [tidy, split_of_blank (split_fst_eq_nil_iff.1 hversion)]
    rfl
  · rw [tidy, split_join hversion (noBlanks_split comment),
      trim_of_isTrimmed (isTrimmed_split comment)]

theorem tidy_tidy (comment : Text) : tidy (tidy comment) = tidy comment := by
  rw [tidy, split_tidy, ← tidy]

theorem nonblanks_append (a b : Text) : nonblanks (a ++ b) = nonblanks a ++ nonblanks b :=
  List.filter_append a b

theorem nonblanks_of_blank {t : Text} (h : isBlankText t = true) : nonblanks t = [] := by
  simpa [nonblanks, isBlankText] using h

/-- **Nothing but white space is changed.** -/
theorem nonblanks_tidy (comment : Text) : nonblanks (tidy comment) = nonblanks comment := by
  obtain ⟨l, m, r, hl, hm, hr, -, hcomment⟩ := exists_split comment
  have hgap : nonblanks (if (split comment).2 = [] then [] else [' ']) = [] := by
    split <;> rfl
  rw [tidy_eq, nonblanks_append, nonblanks_append, hgap]
  conv_rhs => rw [hcomment]
  simp only [nonblanks_append, nonblanks_of_blank hl, nonblanks_of_blank hm, nonblanks_of_blank hr,
    List.nil_append, List.append_nil]

/-! ## The bytes of a comment -/

/-- **The remark is what the bytes after those of the version say**, up to white space. -/
theorem exists_rest_of_bytes (comment : Text) : ∃ rest,
    Utf8.decode? ((Utf8.encode (trim comment)).drop (Utf8.encode (split comment).1).length) =
      some rest ∧ (split comment).2 = trim rest := by
  have hwords : trim comment = (split comment).1 ++ afterFirstWord (trim comment) :=
    List.takeWhile_append_dropWhile.symm
  refine ⟨afterFirstWord (trim comment), ?_, rfl⟩
  conv_lhs => rw [hwords]
  exact Utf8.decode?_drop_encode _ _

/-! ## Together -/

/-- **Comments are taken apart and put together with nothing lost but white space.**

* The version of a comment is one word, and missing just when the comment is blank; the remark is
  trimmed; and both come back out of the comment that is put together from them.
* So do any word and any text, up to the white space around the text.
* Putting a comment together from its parts a second time changes nothing.
* It is made of the two parts as they are.  What it does is drop the white space around them, and
  write one space for what is between them, if there is a remark.
* All other characters stay in place.
* Instead of the characters of the version, the bytes of the version may be cut off. -/
theorem only_blanks_change :
    (∀ comment : Text, (split comment).1.NoBlanks ∧
      ((split comment).1 = [] ↔ isBlankText comment = true) ∧ IsTrimmed (split comment).2 ∧
        split (join (split comment).1 (split comment).2) = split comment) ∧
    (∀ version remark : Text, version ≠ [] → version.NoBlanks →
      split (join version remark) = (version, trim remark)) ∧
    (∀ comment : Text, tidy (tidy comment) = tidy comment) ∧
    (∀ comment : Text, ∃ l m r : Text, isBlankText l = true ∧ isBlankText m = true ∧
      isBlankText r = true ∧ (m = [] ↔ (split comment).2 = []) ∧
        comment = l ++ ((split comment).1 ++ (m ++ ((split comment).2 ++ r))) ∧
          tidy comment = (split comment).1 ++
            ((if (split comment).2 = [] then [] else [' ']) ++ (split comment).2)) ∧
    (∀ comment : Text, nonblanks (tidy comment) = nonblanks comment) ∧
    ∀ comment : Text, ∃ rest,
      Utf8.decode? ((Utf8.encode (trim comment)).drop (Utf8.encode (split comment).1).length) =
        some rest ∧ (split comment).2 = trim rest := by
  refine ⟨fun comment => ⟨noBlanks_split comment, split_fst_eq_nil_iff, isTrimmed_split comment,
      split_tidy comment⟩,
    fun version remark hne hword => split_join hne hword, tidy_tidy, fun comment => ?_,
    nonblanks_tidy, exists_rest_of_bytes⟩
  obtain ⟨l, m, r, hl, hm, hr, hgap, hcomment⟩ := exists_split comment
  exact ⟨l, m, r, hl, hm, hr, hgap, hcomment, tidy_eq comment⟩

/-- The white space around a remark may be an ideographic space or a no-break space. -/
theorem only_blanks_change_of_wideSpaces :
    "v1.2".toList ≠ [] ∧ Text.NoBlanks "v1.2".toList ∧
    split (join "v1.2".toList "\u3000by \u00E9lan\u00A0".toList) =
      ("v1.2".toList, "by \u00E9lan".toList) := by
  have hne : "v1.2".toList ≠ [] := by decide
  have hword : Text.NoBlanks "v1.2".toList := by decide
  exact ⟨hne, hword, (only_blanks_change.2.1 _ _ hne hword).trans (by decide)⟩

end Comment

end PinnedActions
