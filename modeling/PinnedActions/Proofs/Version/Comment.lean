import PinnedActions.Proofs.Text.Trim
import PinnedActions.Version.Comment

/-!
# Taking comments apart and putting them together

A version that is one word comes back out of a comment that it was put into, and so does the remark
after it, up to white space at its ends (`split_join`).  A comment that was put together is trimmed
(`isTrimmed_join`), so it is what the reader of the line finds.
-/

set_option autoImplicit false

namespace PinnedActions

namespace Comment

open Text

variable {version remark comment : Text}

/-- The version of a comment has no white space in it. -/
theorem noBlanks_split (comment : Text) : NoBlanks (split comment).1 := fun c h => by
  have hc := List.mem_takeWhile_imp h
  simpa using hc

/-- The version and the remark are parts of the comment. -/
theorem mem_of_mem_split {c : Char} (h : c ∈ (split comment).1 ∨ c ∈ (split comment).2) :
    c ∈ comment := by
  rcases h with h | h
  · exact mem_of_mem_trim ((List.takeWhile_prefix _).subset h)
  · exact mem_of_mem_trim ((List.dropWhile_suffix _).subset (mem_of_mem_trim h))

/-- Without a version there is nothing in the comment. -/
theorem eq_nil_of_split {comment : Text} (htrim : IsTrimmed comment)
    (h : (split comment).1 = []) : comment = [] := by
  rw [split, trim_of_isTrimmed htrim] at h
  cases comment with
  | nil => rfl
  | cons c rest =>
    have hc : isBlank c = false := htrim.1 c rfl
    simp [firstWord, hc] at h

theorem join_of_remark (hversion : version ≠ []) (hremark : trim remark ≠ []) :
    join version remark = version ++ ' ' :: trim remark := by
  simp [join, hversion, hremark]

theorem join_of_no_remark (hversion : version ≠ []) (hremark : trim remark = []) :
    join version remark = version := by
  simp [join, hversion, hremark]

/-- White space around a remark does not matter. -/
theorem join_trim (version remark : Text) : join version (trim remark) = join version remark := by
  rw [join, join, trim_trim]

/-- A comment is trimmed if its version is. -/
theorem isTrimmed_join_of_isTrimmed (h : IsTrimmed version) : IsTrimmed (join version remark) := by
  by_cases hversion : version = []
  · rw [join, if_pos (by simp [hversion])]
    exact isTrimmed_trim remark
  by_cases hremark : trim remark = []
  · rwa [join_of_no_remark hversion hremark]
  rw [join_of_remark hversion hremark]
  refine isTrimmed_append hversion (by simp) h.1 fun c hc => (isTrimmed_trim remark).2 c ?_
  rwa [List.getLast?_cons_of_ne_nil hremark] at hc

theorem isTrimmed_join (h : version.NoBlanks) : IsTrimmed (join version remark) :=
  isTrimmed_join_of_isTrimmed (isTrimmed_of_noBlanks h)

/-- What is put together is made of its parts and of spaces. -/
theorem mem_of_mem_join {c : Char} (h : c ∈ join version remark) :
    c ∈ version ∨ c = ' ' ∨ c ∈ remark := by
  by_cases hversion : version = []
  · right; right
    rw [join, if_pos (by simp [hversion])] at h
    exact mem_of_mem_trim h
  by_cases hremark : trim remark = []
  · rw [join_of_no_remark hversion hremark] at h
    exact .inl h
  · rw [join_of_remark hversion hremark, List.mem_append, List.mem_cons] at h
    exact h.imp_right (Or.imp_right mem_of_mem_trim)

/-- **Taking a comment apart undoes putting it together.** -/
theorem split_join (hversion : version ≠ []) (h : version.NoBlanks) :
    split (join version remark) = (version, trim remark) := by
  have hword : ∀ c ∈ version, (!isBlank c) = true := fun c hc => by rw [h c hc]; rfl
  rw [split, trim_of_isTrimmed (isTrimmed_join h)]
  by_cases hremark : trim remark = []
  · rw [join_of_no_remark hversion hremark, firstWord, afterFirstWord,
      List.takeWhile_eq_self_iff.2 hword, List.dropWhile_eq_nil_iff.2 hword, hremark]
    rfl
  · have hspace : (!isBlank ' ') = false := by decide
    have hrest : trim (' ' :: trim remark) = trim remark :=
      (trim_prepend_of_blank (List.forall_mem_singleton.2 (by decide)) _).trans (trim_trim _)
    rw [join_of_remark hversion hremark, firstWord, afterFirstWord,
      List.takeWhile_append_of_pos hword, List.dropWhile_append_of_pos hword,
      List.takeWhile_cons_of_neg (by simp [hspace]), List.dropWhile_cons_of_neg (by simp [hspace]),
      List.append_nil, hrest]

end Comment

end PinnedActions
