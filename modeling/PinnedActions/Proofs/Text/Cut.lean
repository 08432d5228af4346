import PinnedActions.Text.Basic
import Mathlib.Data.List.Infix

/-!
# Where a text is cut

`Text.cut?` cuts at the first occurrence of a text (`length_le_of_cut?`) and `Text.cutLast?` at the
last one of a mark.  Where the cut is does not depend on what comes after an occurrence
(`cut?_append`), and not on what comes before a character that is the last of its kind
(`cutLast?_append`).  The same goes for a cut where the characters of a class end (`span_append`,
`span_append_of_neg`).  Two parts with a mark between them can be told again if the mark is not in the
first one (`append_mark_inj`), and otherwise up to where the cut is (`append_mark_eq_iff`).  A cut at
all characters of a class leaves none of them (`eq_false_of_mem_splitOnP`).
-/

set_option autoImplicit false

namespace PinnedActions

namespace Text

variable {needle t before after : Text} {mark : Char}

theorem isPrefixOf?_eq_some_iff : needle.isPrefixOf? t = some after ↔ t = needle ++ after := by
  rw [List.isPrefixOf?_eq_some_iff_append_eq, eq_comm]

theorem isPrefixOf?_eq_none_iff : needle.isPrefixOf? t = none ↔ ¬needle <+: t := by
  rw [Option.eq_none_iff_forall_ne_some]
  simp only [Ne, isPrefixOf?_eq_some_iff]
  exact ⟨fun h ⟨after, ha⟩ => h after ha.symm, fun h after ha => h ⟨after, ha.symm⟩⟩

/-! ## The first occurrence of a text -/

/-- What is cut at an occurrence is what is around it. -/
theorem eq_of_cut? (h : cut? needle t = some (before, after)) :
    t = before ++ (needle ++ after) := by
  induction t generalizing before with
  | nil =>
    rw [cut?] at h
    split at h
    · rename_i hempty
      cases h
      simpa using hempty
    · cases h
  | cons c rest ih =>
    rw [cut?] at h
    split at h
    · rename_i hprefix
      cases h
      rw [List.nil_append]
      exact isPrefixOf?_eq_some_iff.1 hprefix
    · obtain ⟨⟨before', after'⟩, hcut, heq⟩ := Option.map_eq_some_iff.1 h
      cases heq
      rw [ih hcut, List.cons_append]

/-- **A cut does not depend on what comes after it.** -/
theorem cut?_append (hne : needle ≠ []) (h : cut? needle t = some (before, after)) (x : Text) :
    cut? needle (before ++ (needle ++ x)) = some (before, x) := by
  induction t generalizing before with
  | nil =>
    rw [cut?, if_neg (by simpa using hne)] at h
    cases h
  | cons c rest ih =>
    rw [cut?] at h
    split at h
    · cases h
      obtain ⟨d, needle', rfl⟩ := List.exists_cons_of_ne_nil hne
      rw [List.nil_append, List.cons_append, cut?, ← List.cons_append,
        isPrefixOf?_eq_some_iff.2 rfl]
    · rename_i hprefix
      obtain ⟨⟨before', after'⟩, hcut, heq⟩ := Option.map_eq_some_iff.1 h
      cases heq
      have hnot : needle.isPrefixOf? (c :: (before' ++ (needle ++ x))) = none := by
        rw [isPrefixOf?_eq_none_iff] at hprefix ⊢
        -- an occurrence that starts here would end before the one that was found does
        intro hx
        refine hprefix ?_
        have hx' : needle <+: c :: (before' ++ needle) := by
          rw [← List.append_assoc, ← List.cons_append] at hx
          exact List.prefix_of_prefix_length_le hx (List.prefix_append _ _) (by simp; omega)
        refine hx'.trans ⟨after, ?_⟩
        rw [eq_of_cut? hcut]
        simp
      rw [List.cons_append, cut?, hnot]
      simp only [ih hcut, Option.map_some]

/-- No occurrence starts before the cut. -/
theorem length_le_of_cut? (h : cut? needle t = some (before, after)) {before' after' : Text}
    (ht : t = before' ++ (needle ++ after')) : before.length ≤ before'.length := by
  induction t generalizing before before' with
  | nil =>
    have hbefore := eq_of_cut? h
    rw [List.nil_eq, List.append_eq_nil_iff] at hbefore
    simp [hbefore.1]
  | cons c rest ih =>
    rw [cut?] at h
    split at h
    · cases h
      exact Nat.zero_le _
    · rename_i hnot
      obtain ⟨⟨before₀, after₀⟩, hcut, heq⟩ := Option.map_eq_some_iff.1 h
      cases heq
      cases before' with
      | nil => exact absurd ⟨after', ht.symm⟩ (isPrefixOf?_eq_none_iff.1 hnot)
      | cons d before' => exact Nat.succ_le_succ (ih hcut (List.cons.inj ht).2)

theorem contains_iff : contains needle t = true ↔ needle <:+: t := by
  rw [contains]
  induction t with
  | nil =>
    rw [cut?]
    split <;> simp_all
  | cons c rest ih =>
    rw [cut?, List.infix_cons_iff]
    split
    · rename_i hfound
      simpa using .inl ⟨_, (isPrefixOf?_eq_some_iff.1 hfound).symm⟩
    · rename_i hnot
      rw [isPrefixOf?_eq_none_iff] at hnot
      simp [hnot, ← ih]

/-! ## The last occurrence of a mark -/

section CutLast

/-! The mark may be a character of a text or, in the name of a file, a byte. -/

variable {α : Type} [DecidableEq α] {mark : α} {t before after : List α}

theorem cutLast?_eq_none_iff : cutLast? mark t = none ↔ mark ∉ t := by
  induction t with
  | nil => simp [cutLast?]
  | cons c rest ih =>
    rw [cutLast?]
    split
    · rename_i hcut
      have : mark ∈ rest := by
        by_contra hmem
        rw [ih.2 hmem] at hcut
        cases hcut
      simp [this]
    · rename_i hcut
      simp [ih.1 hcut, eq_comm]

theorem eq_of_cutLast? (h : cutLast? mark t = some (before, after)) :
    t = before ++ mark :: after ∧ mark ∉ after := by
  induction t generalizing before with
  | nil => cases h
  | cons c rest ih =>
    rw [cutLast?] at h
    split at h
    · rename_i hcut
      cases h
      obtain ⟨hrest, hmem⟩ := ih hcut
      exact ⟨by rw [List.cons_append, ← hrest], hmem⟩
    · rename_i hcut
      split at h
      · rename_i hc
        cases h
        exact ⟨by rw [hc, List.nil_append], cutLast?_eq_none_iff.1 hcut⟩
      · cases h

/-- **A cut at the last mark does not depend on what comes before it.** -/
theorem cutLast?_append (h : mark ∉ after) (before : List α) :
    cutLast? mark (before ++ mark :: after) = some (before, after) := by
  induction before with
  | nil => rw [List.nil_append, cutLast?, cutLast?_eq_none_iff.2 h, if_pos rfl]
  | cons c rest ih => rw [List.cons_append, cutLast?, ih]

end CutLast

/-! ## Where a class of characters ends -/

/-- A text is cut where the characters of a class end. -/
theorem span_append {p : Char → Bool} {l r : Text} (hl : ∀ c ∈ l, p c = true)
    (hr : ∀ c, r.head? = some c → p c = false) :
    (l ++ r).takeWhile p = l ∧ (l ++ r).dropWhile p = r := by
  rw [List.takeWhile_append_of_pos hl, List.dropWhile_append_of_pos hl]
  cases r with
  | nil => simp
  | cons c r => simp [hr c rfl]

/-- What comes after a character outside a class is not looked at. -/
theorem takeWhile_append_of_neg {p : Char → Bool} {c : Char} (hc : p c = false) (t x : Text) :
    (t ++ c :: x).takeWhile p = t.takeWhile p := by
  induction t with
  | nil => simp [hc]
  | cons d t ih => simp only [List.cons_append, List.takeWhile_cons, ih]

theorem dropWhile_append_of_neg {p : Char → Bool} {c : Char} (hc : p c = false) (t x : Text) :
    (t ++ c :: x).dropWhile p = t.dropWhile p ++ c :: x := by
  induction t with
  | nil => simp [hc]
  | cons d t ih =>
    simp only [List.cons_append, List.dropWhile_cons, ih]
    split <;> rfl

theorem span_append_of_neg {p : Char → Bool} {c : Char} (hc : p c = false) (t x : Text) :
    (t ++ c :: x).span p = (t.takeWhile p, t.dropWhile p ++ c :: x) := by
  rw [List.span_eq_takeWhile_dropWhile, takeWhile_append_of_neg hc, dropWhile_append_of_neg hc]

/-- Two texts that go on after a mark are the same when they do so at one place, or at two places of
which the mark at the second one is in what follows the first. -/
theorem append_mark_eq_iff {a b x y : Text} :
    a ++ mark :: x = b ++ mark :: y ↔ (a = b ∧ x = y) ∨
      (∃ piece, a = b ++ mark :: piece ∧ y = piece ++ mark :: x) ∨
      (∃ piece, b = a ++ mark :: piece ∧ x = piece ++ mark :: y) := by
  constructor
  · intro h
    -- what one front has more than the other starts with the mark at the end of the shorter one
    rcases List.append_eq_append_iff.1 h with ⟨rest, hfront, hrest⟩ | ⟨rest, hfront, hrest⟩ <;>
      rcases rest with _ | ⟨c, piece⟩
    · exact .inl ⟨by simpa using hfront.symm, by simpa using hrest⟩
    · obtain ⟨rfl, hback⟩ := List.cons.inj hrest
      exact .inr (.inr ⟨piece, hfront, hback⟩)
    · exact .inl ⟨by simpa using hfront, by simpa using hrest.symm⟩
    · obtain ⟨rfl, hback⟩ := List.cons.inj hrest
      exact .inr (.inl ⟨piece, hfront, hback⟩)
  · rintro (⟨rfl, rfl⟩ | ⟨piece, rfl, rfl⟩ | ⟨piece, rfl, rfl⟩) <;> simp

/-- The first mark of its kind is in one place. -/
theorem append_mark_inj {a b x y : Text} (ha : mark ∉ a) (hb : mark ∉ b) :
    a ++ mark :: x = b ++ mark :: y ↔ a = b ∧ x = y := by
  rw [append_mark_eq_iff, or_iff_left]
  rintro (⟨piece, rfl, -⟩ | ⟨piece, rfl, -⟩)
  · exact ha (by simp)
  · exact hb (by simp)

/-! ## All occurrences of a class of characters -/

theorem eq_false_of_mem_splitOnP {p : Char → Bool} {piece : Text} (h : piece ∈ t.splitOnP p)
    {c : Char} (hc : c ∈ piece) : p c = false := by
  induction t generalizing piece with
  | nil =>
    rw [List.splitOnP_nil, List.mem_singleton] at h
    rw [h] at hc
    cases hc
  | cons d t ih =>
    rw [List.splitOnP_cons_eq_if_modifyHead] at h
    split at h
    · rcases List.mem_cons.1 h with rfl | h
      · cases hc
      · exact ih h hc
    · rename_i hd
      obtain ⟨first, rest, hsplit⟩ := List.exists_cons_of_ne_nil (List.splitOnP_ne_nil p t)
      rw [hsplit] at h ih
      rw [List.modifyHead_cons] at h
      rcases List.mem_cons.1 h with rfl | h
      · rcases List.mem_cons.1 hc with rfl | hc
        · exact Bool.eq_false_iff.2 hd
        · exact ih List.mem_cons_self hc
      · exact ih (List.mem_cons_of_mem first h) hc

theorem not_mem_of_mem_splitOn {piece : Text} (h : piece ∈ t.splitOn mark) : mark ∉ piece := by
  intro hmem
  rw [List.splitOn_eq_splitOnP] at h
  simpa using eq_false_of_mem_splitOnP h hmem

end Text

end PinnedActions
