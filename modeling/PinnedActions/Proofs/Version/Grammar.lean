import PinnedActions.Proofs.Text.Cut
import PinnedActions.Version.Basic
import Mathlib.Data.List.TakeWhile

/-!
# The grammar of versions

A version is one, two or three numbers with dots between them, and a `v` may stand in front.  After
three numbers there may be a label: a sign, and what names a pre-release or a build.

* `Numbered` is the grammar without the `v`, with one constructor for each form, and `Written` is
  the grammar with it.
* `written_iff` — the recogniser, which goes over a text once from the left, accepts exactly this.
  A number ends where its digits end, because neither a dot nor a sign is a digit
  (`afterNumber?_append`), so it does not matter that the recogniser never looks back.
* `Written.kind_eq` — no text is a version of two kinds.
-/

set_option autoImplicit false

namespace PinnedActions

namespace Version

/-! ## The forms -/

/-- Whether a text is a number: at least one decimal digit of any script, and nothing else. -/
structure IsNumber (t : Text) : Prop where
  ne_nil : t ≠ []
  isDigit : ∀ c ∈ t, Text.isDigit c = true

/-- Whether a text is the label of a version: a sign, and one or more ASCII letters, ASCII digits,
low lines, dots and minus signs. -/
inductive IsLabel : Text → Prop
  | intro {sign : Char} {name : Text} (hsign : sign = '-' ∨ sign = '+') (hne : name ≠ [])
      (hname : ∀ c ∈ name, isSuffixChar c = true) : IsLabel (sign :: name)

/-- Whether a text is a version of a kind without a `v`. -/
inductive Numbered : Kind → Text → Prop
  | major {a : Text} (ha : IsNumber a) : Numbered .major a
  | minor {a b : Text} (ha : IsNumber a) (hb : IsNumber b) : Numbered .minor (a ++ '.' :: b)
  | exact {a b c : Text} (ha : IsNumber a) (hb : IsNumber b) (hc : IsNumber c) :
      Numbered .exact (a ++ '.' :: (b ++ '.' :: c))
  | labelled {a b c label : Text} (ha : IsNumber a) (hb : IsNumber b) (hc : IsNumber c)
      (hlabel : IsLabel label) : Numbered .exact (a ++ '.' :: (b ++ '.' :: (c ++ label)))

/-- Whether a text is a version of a kind, with or without a `v`. -/
inductive Written (kind : Kind) : Text → Prop
  | plain {t : Text} (h : Numbered kind t) : Written kind t
  | leadingV {t : Text} (h : Numbered kind t) : Written kind ('v' :: t)

variable {kind : Kind} {t number rest : Text}

/-! ## The pieces of the recogniser -/

theorem isSuffix_iff : isSuffix t = true ↔ IsLabel t := by
  constructor
  · intro h
    cases t with
    | nil => cases h
    | cons sign name =>
      simp only [isSuffix, Bool.and_eq_true, Bool.or_eq_true, decide_eq_true_eq,
        Bool.not_eq_true', List.isEmpty_eq_false_iff, List.all_eq_true] at h
      obtain ⟨⟨hsign, hne⟩, hname⟩ := h
      exact ⟨hsign, hne, hname⟩
  · rintro ⟨hsign, hne, hname⟩
    simpa [isSuffix, hne] using ⟨hsign, hname⟩

/-- **A number is cut off where its digits end.** -/
theorem afterNumber?_append (h : IsNumber number)
    (hrest : ∀ c, rest.head? = some c → Text.isDigit c = false) :
    afterNumber? (number ++ rest) = some rest := by
  obtain ⟨c, digits, rfl⟩ := List.exists_cons_of_ne_nil h.ne_nil
  obtain ⟨hc, hdigits⟩ := List.forall_mem_cons.1 h.isDigit
  rw [List.cons_append, afterNumber?, if_pos hc, (Text.span_append hdigits hrest).2]

theorem afterNumber?_self (h : IsNumber number) : afterNumber? number = some [] := by
  have hself : afterNumber? (number ++ []) = some [] := afterNumber?_append h (by simp)
  rwa [List.append_nil] at hself

theorem afterNumber?_append_dot (h : IsNumber number) (rest : Text) :
    afterNumber? (number ++ '.' :: rest) = some ('.' :: rest) :=
  afterNumber?_append h fun c hc => by
    obtain rfl : '.' = c := by simpa using hc
    decide

theorem afterNumber?_append_label (h : IsNumber number) {label : Text} (hlabel : IsLabel label) :
    afterNumber? (number ++ label) = some label :=
  afterNumber?_append h fun c hc => by
    obtain ⟨hsign, -, -⟩ := hlabel
    obtain rfl : _ = c := by simpa using hc
    rcases hsign with rfl | rfl <;> decide

/-- What is cut off is a number. -/
theorem eq_append_of_afterNumber? (h : afterNumber? t = some rest) :
    ∃ number, IsNumber number ∧ t = number ++ rest := by
  cases t with
  | nil => cases h
  | cons c t =>
    rw [afterNumber?] at h
    split at h
    · rename_i hc
      obtain rfl := Option.some.inj h
      refine ⟨c :: t.takeWhile Text.isDigit, ⟨by simp, ?_⟩, ?_⟩
      · exact List.forall_mem_cons.2 ⟨hc, fun d hd => List.mem_takeWhile_imp hd⟩
      · rw [List.cons_append, List.takeWhile_append_dropWhile]
    · cases h

theorem eq_dot_append_of_afterDot? (h : (afterDot? t >>= afterNumber?) = some rest) :
    ∃ number, IsNumber number ∧ t = '.' :: (number ++ rest) := by
  obtain ⟨after, hdot, hnumber⟩ := Option.bind_eq_some_iff.1 h
  obtain ⟨number, hdigits, rfl⟩ := eq_append_of_afterNumber? hnumber
  refine ⟨number, hdigits, ?_⟩
  unfold afterDot? at hdot
  split at hdot
  · rw [Option.some.inj hdot]
  · cases hdot

/-! ## The recogniser -/

theorem kindOfNumbers_of_numbered (h : Numbered kind t) : kindOfNumbers t = kind := by
  cases h with
  | major ha => simp [kindOfNumbers, afterNumber?_self ha]
  | minor ha hb => simp [kindOfNumbers, afterNumber?_append_dot ha, afterDot?, afterNumber?_self hb]
  | exact ha hb hc =>
    simp [kindOfNumbers, afterNumber?_append_dot ha, afterDot?, afterNumber?_append_dot hb,
      afterNumber?_self hc]
  | labelled ha hb hc hlabel =>
    have hcut := afterNumber?_append_label hc hlabel
    have hsuffix := isSuffix_iff.2 hlabel
    -- a label is not empty, so the recogniser does not stop before it
    obtain ⟨-, -, -⟩ := hlabel
    simp [kindOfNumbers, afterNumber?_append_dot ha, afterDot?, afterNumber?_append_dot hb, hcut,
      hsuffix]

/-- Each way through the recogniser is a form of the grammar. -/
theorem numbered_of_kindOfNumbers (h : kindOfNumbers t = kind) (hkind : kind ≠ .literal) :
    Numbered kind t := by
  unfold kindOfNumbers at h
  split at h
  · exact absurd h.symm hkind
  · rename_i hfirst
    obtain ⟨a, ha, rfl⟩ := eq_append_of_afterNumber? hfirst
    rw [List.append_nil, ← h]
    exact .major ha
  rename_i hfirst
  obtain ⟨a, ha, rfl⟩ := eq_append_of_afterNumber? hfirst
  split at h
  · exact absurd h.symm hkind
  · rename_i hsecond
    obtain ⟨b, hb, rfl⟩ := eq_dot_append_of_afterDot? hsecond
    rw [List.append_nil, ← h]
    exact .minor ha hb
  rename_i hsecond
  obtain ⟨b, hb, rfl⟩ := eq_dot_append_of_afterDot? hsecond
  split at h
  · exact absurd h.symm hkind
  · rename_i hthird
    obtain ⟨c, hc, rfl⟩ := eq_dot_append_of_afterDot? hthird
    rw [List.append_nil, ← h]
    exact .exact ha hb hc
  rename_i hthird
  obtain ⟨c, hc, rfl⟩ := eq_dot_append_of_afterDot? hthird
  split at h
  · rename_i hlabel
    rw [← h]
    exact .labelled ha hb hc (isSuffix_iff.1 hlabel)
  · exact absurd h.symm hkind

/-- **The recogniser of numbers accepts the grammar without the `v`.** -/
theorem numbered_iff : Numbered kind t ↔ kind ≠ .literal ∧ kindOfNumbers t = kind := by
  refine ⟨fun h => ⟨?_, kindOfNumbers_of_numbered h⟩, fun h => numbered_of_kindOfNumbers h.2 h.1⟩
  rintro rfl
  cases h

/-- What starts with a number starts with a digit. -/
theorem Numbered.exists_digit (h : Numbered kind t) :
    ∃ digit rest, t = digit :: rest ∧ Text.isDigit digit = true := by
  have hnumber : ∀ {a : Text}, IsNumber a → ∀ rest : Text,
      ∃ digit rest', a ++ rest = digit :: rest' ∧ Text.isDigit digit = true := by
    intro a ha rest
    obtain ⟨digit, digits, rfl⟩ := List.exists_cons_of_ne_nil ha.ne_nil
    exact ⟨digit, digits ++ rest, rfl, ha.isDigit digit List.mem_cons_self⟩
  cases h with
  | major ha => simpa using hnumber ha []
  | minor ha => exact hnumber ha _
  | exact ha => exact hnumber ha _
  | labelled ha => exact hnumber ha _

theorem dropOne_of_numbered (h : Numbered kind t) : Text.dropOne 'v' t = t := by
  obtain ⟨digit, rest, rfl, hdigit⟩ := h.exists_digit
  rw [Text.dropOne, if_neg]
  rintro rfl
  exact absurd hdigit (by decide)

/-- **The recogniser accepts exactly the grammar.** -/
theorem written_iff : Written kind t ↔ kind ≠ .literal ∧ kindOf t = kind := by
  constructor
  · rintro (h | h)
    · rw [kindOf, dropOne_of_numbered h]
      exact numbered_iff.1 h
    · exact numbered_iff.1 h
  · intro h
    rw [kindOf, ← numbered_iff] at h
    cases t with
    | nil => exact .plain h
    | cons c rest =>
      rw [Text.dropOne] at h
      split at h
      · rename_i hc
        exact hc ▸ .leadingV h
      · exact .plain h

instance (kind : Kind) (t : Text) : Decidable (Written kind t) :=
  decidable_of_iff (kind ≠ .literal ∧ kindOf t = kind) written_iff.symm

/-- **No text is a version of two kinds.** -/
theorem Written.kind_eq {kind' : Kind} (h : Written kind t) (h' : Written kind' t) :
    kind = kind' :=
  (written_iff.1 h).2.symm.trans (written_iff.1 h').2

/-- What is not recognised is no version of any kind. -/
theorem kindOf_eq_literal_iff : kindOf t = .literal ↔ ∀ kind, ¬Written kind t := by
  simp only [written_iff, not_and]
  constructor
  · intro h kind hkind heq
    exact hkind (heq.symm.trans h)
  · intro h
    by_contra hne
    exact h _ hne rfl

end Version

end PinnedActions
