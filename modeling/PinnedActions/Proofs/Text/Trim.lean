import PinnedActions.Text.Blank
import Mathlib.Data.List.DropRight

/-!
# White space at the ends

`Text.trim` takes the white space off both ends of a text.  What is needed of it is that it gives a
text whose ends are not blank (`isTrimmed_trim`), that it leaves such a text alone
(`trim_of_isTrimmed`), and that padding a text does not change what is left of it (`trim_pad`).
-/

set_option autoImplicit false

namespace PinnedActions

namespace Text

/-- Whether neither the first nor the last character is blank. -/
def IsTrimmed (t : Text) : Prop :=
  (∀ c, t.head? = some c → isBlank c = false) ∧ ∀ c, t.getLast? = some c → isBlank c = false

/-- Whether there is no white space in a text. -/
def NoBlanks (t : Text) : Prop := ∀ c ∈ t, isBlank c = false

instance (t : Text) : Decidable t.NoBlanks := List.decidableBAll _ t

theorem isTrimmed_of_noBlanks {t : Text} (h : t.NoBlanks) : IsTrimmed t :=
  ⟨fun c hc => h c (List.mem_of_head? hc), fun c hc => h c (List.mem_of_getLast? hc)⟩

theorem isTrimmed_append {a b : Text} (ha : a ≠ []) (hb : b ≠ [])
    (hhead : ∀ c, a.head? = some c → isBlank c = false)
    (hlast : ∀ c, b.getLast? = some c → isBlank c = false) : IsTrimmed (a ++ b) := by
  constructor
  · intro c hc
    rw [List.head?_append_of_ne_nil _ ha] at hc
    exact hhead c hc
  · intro c hc
    rw [List.getLast?_append_of_ne_nil _ hb] at hc
    exact hlast c hc

theorem trim_eq (t : Text) : trim t = (t.dropWhile isBlank).rdropWhile isBlank := rfl

theorem trimStart_append_of_blank {l : Text} (hl : ∀ c ∈ l, isBlank c = true) (t : Text) :
    trimStart (l ++ t) = trimStart t :=
  List.dropWhile_append_of_pos hl

theorem trimEnd_append_of_blank {r : Text} (hr : ∀ c ∈ r, isBlank c = true) (t : Text) :
    trimEnd (t ++ r) = trimEnd t := by
  rw [trimEnd, dropTrailing, List.reverse_append, List.dropWhile_append_of_pos]
  · rfl
  · exact fun c hc => hr c (List.mem_reverse.1 hc)

/-- **Padding does not count.** -/
theorem trim_pad {l r : Text} (hl : ∀ c ∈ l, isBlank c = true) (hr : ∀ c ∈ r, isBlank c = true)
    (t : Text) : trim (l ++ (t ++ r)) = trim t := by
  rw [trim, trimStart_append_of_blank hl, trim]
  by_cases ht : ∀ c ∈ t, isBlank c = true
  · -- nothing of the text is left, so the padding after it goes with it
    have h1 : trimStart (t ++ r) = [] := by
      rw [trimStart_append_of_blank ht]
      exact List.dropWhile_eq_nil_iff.2 hr
    have h2 : trimStart t = [] := List.dropWhile_eq_nil_iff.2 ht
    rw [h1, h2]
  · have hne : (t.dropWhile isBlank).isEmpty = false := by
      rw [List.isEmpty_eq_false_iff]
      exact fun h => ht (List.dropWhile_eq_nil_iff.1 h)
    have h1 : trimStart (t ++ r) = trimStart t ++ r := by
      simp only [trimStart, dropLeading, List.dropWhile_append, hne]
      rfl
    rw [h1, trimEnd_append_of_blank hr]

theorem trim_append_of_blank {r : Text} (hr : ∀ c ∈ r, isBlank c = true) (t : Text) :
    trim (t ++ r) = trim t :=
  trim_pad (l := []) (by simp) hr t

theorem trim_prepend_of_blank {l : Text} (hl : ∀ c ∈ l, isBlank c = true) (t : Text) :
    trim (l ++ t) = trim t := by
  simpa using trim_pad hl (r := []) (by simp) t

/-- A text is its trimmed form with white space around it. -/
theorem exists_trim (t : Text) : ∃ l r : Text, (∀ c ∈ l, isBlank c = true) ∧
    (∀ c ∈ r, isBlank c = true) ∧ t = l ++ (trim t ++ r) := by
  refine ⟨t.takeWhile isBlank, (t.dropWhile isBlank).rtakeWhile isBlank,
    fun c hc => List.mem_takeWhile_imp hc, fun c hc => List.mem_rtakeWhile_imp hc, ?_⟩
  rw [trim_eq, List.rdropWhile_append_rtakeWhile, List.takeWhile_append_dropWhile]

theorem mem_of_mem_trim {t : Text} {c : Char} (h : c ∈ trim t) : c ∈ t := by
  obtain ⟨l, r, -, -, he⟩ := exists_trim t
  rw [he]
  simp [h]

theorem trim_of_isTrimmed {t : Text} (h : IsTrimmed t) : trim t = t := by
  cases t with
  | nil => rfl
  | cons c rest =>
    have hc : isBlank c = false := h.1 c rfl
    rw [trim_eq, List.dropWhile_cons_of_neg (by simp [hc]), List.rdropWhile_eq_self_iff]
    intro hne
    simp [h.2 _ (List.getLast?_eq_some_getLast hne)]

theorem isTrimmed_trim (t : Text) : IsTrimmed (trim t) := by
  constructor
  · intro c hc
    obtain ⟨r, hr⟩ : trim t <+: t.dropWhile isBlank := List.rdropWhile_prefix isBlank _
    have hd : (t.dropWhile isBlank).head? = some c := by
      rw [← hr, List.head?_append, hc]
      rfl
    have := List.head?_dropWhile_not isBlank t
    rw [hd] at this
    simpa using this
  · intro c hc
    have hne : trim t ≠ [] := by
      rintro h
      simp [h] at hc
    have hlast := List.rdropWhile_last_not isBlank (t.dropWhile isBlank) hne
    rw [List.getLast?_eq_some_getLast hne, Option.some_inj] at hc
    rw [← hc]
    exact Bool.eq_false_iff.2 hlast

theorem trim_trim (t : Text) : trim (trim t) = trim t :=
  trim_of_isTrimmed (isTrimmed_trim t)

/-- Nothing is left of white space. -/
theorem trim_eq_nil_iff {t : Text} : trim t = [] ↔ isBlankText t = true := by
  rw [isBlankText, List.all_eq_true]
  constructor
  · intro h
    obtain ⟨l, r, hl, hr, ht⟩ := exists_trim t
    rw [ht, h, List.nil_append]
    exact fun c hc => (List.mem_append.1 hc).elim (hl c) (hr c)
  · intro h
    simpa [trim, trimStart, trimEnd, dropLeading, dropTrailing] using trim_append_of_blank h []

end Text

end PinnedActions
