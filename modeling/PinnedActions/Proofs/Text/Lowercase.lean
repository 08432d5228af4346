import PinnedActions.Text.Lowercase
import Mathlib.Data.List.Basic

/-!
# What is in lowercase stays as it is

Lowercasing looks at the neighbours of a sigma, so little can be said about the lowercase form of
the parts of a text.  Three things can be said in general, and what is remembered under the lowercase
of a name relies on them.

* `lowercase_lowercase` — lowercase text is its own lowercase form.  No lowercase form is a capital
  again; that is a fact about the table, which `apart` checks run against run.  Facts about single
  runs are checked together (`isTabular_of_mem`).
* `lowercase_eq_map` — without a capital sigma and a dotted capital I, lowercasing works character
  by character.
* `lowercase_append_barrier` — what stands on the two sides of a slash is lowered separately.

A character that lowercasing leaves alone, whatever its neighbours, is called **small** here.
-/

set_option autoImplicit false

namespace PinnedActions

namespace Text

/-! ## Runs -/

/-- All runs of characters that lowercasing may change: the capitals of ASCII, the two characters
with a rule of their own, and the table. -/
def changingRuns : List (Nat × Nat × Nat × Nat) :=
  (0x41, 0x5A, 1, 0x61) :: (0x130, 0x130, 2, 0x69) :: (0x3A3, 0x3A3, 2, 0x3C3) :: lowercaseRuns

/-- Whether no lowercase form in the first run belongs to the second: the two stretches do not meet,
or every other code point is meant in both and they interleave. -/
def apart (r r' : Nat × Nat × Nat × Nat) : Bool :=
  -- the kernel evaluates this for many pairs of runs, hence projections and no patterns
  bif Nat.ble r'.1 (r.2.2.2 + (r.2.1 - r.1)) && Nat.ble r.2.2.2 r'.2.1 then
    (Nat.beq r.2.2.1 2 || Nat.beq r.1 r.2.1) && Nat.beq r'.2.2.1 2 &&
      Nat.beq ((r.2.2.2 + r'.1) % 2) 1
  else true

/-- Whether all lowercase forms of a run are characters. -/
def isSound : Nat × Nat × Nat × Nat → Bool
  | (first, last, _, image) =>
    Nat.blt (image + (last - first)) 0xD800 ||
      (Nat.blt 0xDFFF image && Nat.blt (image + (last - first)) 0x110000)

theorem lowerInRun_eq_some {n m first last step image : Nat} :
    lowerInRun n (first, last, step, image) = some m ↔
      (first ≤ n ∧ n ≤ last ∧ (n - first) % step = 0) ∧ image + (n - first) = m := by
  rw [lowerInRun]
  split <;> simp_all

theorem lowerInRun_of_apart {r r' : Nat × Nat × Nat × Nat} {n m : Nat} (h : apart r r' = true)
    (hm : lowerInRun n r = some m) : lowerInRun m r' = none := by
  obtain ⟨first, last, step, image⟩ := r
  obtain ⟨first', last', step', image'⟩ := r'
  obtain ⟨⟨h1, h2, h3⟩, rfl⟩ := lowerInRun_eq_some.1 hm
  rw [lowerInRun, if_neg]
  rintro ⟨h4, h5, h6⟩
  have hmeet : (Nat.ble first' (image + (last - first)) && Nat.ble image last') = true := by
    simp only [Bool.and_eq_true, Nat.ble_eq]
    omega
  simp only [apart, hmeet, cond_true, Bool.and_eq_true, Bool.or_eq_true, Nat.beq_eq] at h
  obtain ⟨⟨rfl | rfl, rfl⟩, h⟩ := h <;> omega

theorem isValidChar_of_isSound {r : Nat × Nat × Nat × Nat} {n m : Nat} (h : isSound r = true)
    (hm : lowerInRun n r = some m) : m.isValidChar := by
  obtain ⟨first, last, step, image⟩ := r
  obtain ⟨⟨h1, h2, -⟩, rfl⟩ := lowerInRun_eq_some.1 hm
  simp only [isSound, Bool.or_eq_true, Bool.and_eq_true, Nat.blt_eq] at h
  simp only [Nat.isValidChar]
  omega

/-! ## The table -/

/-- Some runs, and a stretch of code points that they are within. -/
structure RunBlock where
  first : Nat
  last : Nat
  runs : List (Nat × Nat × Nat × Nat)

/-- The runs in blocks of sixteen, at most as many blocks as are asked for. -/
def blocksOf : Nat → List (Nat × Nat × Nat × Nat) → List RunBlock
  | 0, _ => []
  | n + 1, runs =>
    let block := runs.take 16
    ⟨block.foldr (fun r first => Nat.min r.1 first) 0x110000,
      block.foldr (fun r last => Nat.max r.2.1 last) 0, block⟩ :: blocksOf n (runs.drop 16)

/-- All runs of characters that lowercasing may change, in blocks. -/
def changingBlocks : List RunBlock := blocksOf 12 changingRuns

/-- Whether the lowercase forms in a run are outside the stretch of a block. -/
def RunBlock.isClearOf (b : RunBlock) (r : Nat × Nat × Nat × Nat) : Bool :=
  Nat.blt (r.2.2.2 + (r.2.1 - r.1)) b.first || Nat.blt b.last r.2.2.2

/-- What is outside the stretch of a block is apart from all its runs. -/
theorem apart_of_isClearOf {b : RunBlock} {r r' : Nat × Nat × Nat × Nat}
    (h : b.isClearOf r = true) (hr' : (Nat.ble b.first r'.1 && Nat.ble r'.2.1 b.last) = true) :
    apart r r' = true := by
  simp only [RunBlock.isClearOf, Bool.or_eq_true, Bool.and_eq_true, Nat.blt_eq, Nat.ble_eq]
    at h hr'
  have hmeet : (Nat.ble r'.1 (r.2.2.2 + (r.2.1 - r.1)) && Nat.ble r.2.2.2 r'.2.1) = false := by
    rw [Bool.eq_false_iff, Ne, Bool.and_eq_true, Nat.ble_eq, Nat.ble_eq]
    omega
  rw [apart, hmeet, cond_false]

theorem lowercaseRuns_apart : ∀ r ∈ lowercaseRuns, changingRuns.all (apart r) = true := by
  have hruns : changingBlocks.flatMap RunBlock.runs = changingRuns := by decide +kernel
  have hwithin : (changingBlocks.all fun b => b.runs.all fun r =>
      Nat.ble b.first r.1 && Nat.ble r.2.1 b.last) = true := by decide +kernel
  -- most runs are outside most blocks, so few pairs of runs are left to be looked at
  have hpairs : (lowercaseRuns.all fun r => changingBlocks.all fun b =>
      b.isClearOf r || b.runs.all (apart r)) = true := by decide +kernel
  intro r hr
  have hblocks := List.all_eq_true.1 (List.all_eq_true.1 hpairs r hr)
  rw [← hruns, List.all_eq_true]
  intro r' hr'
  obtain ⟨b, hb, hmem⟩ := List.mem_flatMap.1 hr'
  rcases (Bool.or_eq_true _ _).mp (hblocks b hb) with hclear | hall
  · exact apart_of_isClearOf hclear (List.all_eq_true.1 (List.all_eq_true.1 hwithin b hb) r' hmem)
  · exact List.all_eq_true.1 hall r' hmem

/-- Whether a stretch of code points has no white space in it. -/
def isBlankFree (first last : Nat) : Bool :=
  blankRanges.all fun b => Nat.blt last b.1 || Nat.blt b.2 first

theorem isBlank_of_isBlankFree {first last : Nat} (h : isBlankFree first last = true) {c : Char}
    (hc : first ≤ c.toNat ∧ c.toNat ≤ last) : isBlank c = false := by
  rw [isBlank, inRanges, List.any_eq_false]
  intro b hb
  have hapart := List.all_eq_true.1 h b hb
  simp only [Bool.or_eq_true, Nat.blt_eq] at hapart
  simp only [Bool.and_eq_true, decide_eq_true_eq]
  omega

/-- What a run of the table is like: its lowercase forms are characters; it is about characters
beyond ASCII, and the Kelvin sign is the only one of them whose lowercase form is not; it has
nothing to do with what a dotted capital I and a capital sigma become; and there is no white space
in it. -/
structure IsTabular (r : Nat × Nat × Nat × Nat) : Prop where
  sound : isSound r = true
  first : 0x80 ≤ r.1
  image : 0x80 ≤ r.2.2.2 ∨ r = (0x212A, 0x212A, 1, 0x6B)
  others : ∀ n ∈ [0x307, 0x3C2, 0x3C3], lowerInRun n r = none
  blankFree : isBlankFree r.1 r.2.1 = true
  blankFreeImage : isBlankFree r.2.2.2 (r.2.2.2 + (r.2.1 - r.1)) = true

/-- The table is gone through once, as it is long. -/
theorem isTabular_of_mem : ∀ r ∈ lowercaseRuns, IsTabular r := by
  have h : (lowercaseRuns.all fun r => isSound r &&
      decide (0x80 ≤ r.1 ∧ (0x80 ≤ r.2.2.2 ∨ r = (0x212A, 0x212A, 1, 0x6B))) &&
      isBlankFree r.1 r.2.1 && isBlankFree r.2.2.2 (r.2.2.2 + (r.2.1 - r.1)) &&
      [0x307, 0x3C2, 0x3C3].all fun n => (lowerInRun n r).isNone) = true := by decide +kernel
  intro r hr
  have hrun := List.all_eq_true.1 h r hr
  simp only [Bool.and_eq_true, decide_eq_true_eq, List.all_eq_true, Option.isNone_iff_eq_none]
    at hrun
  obtain ⟨⟨⟨⟨hsound, hfirst, himage⟩, hblank⟩, hblankImage⟩, hothers⟩ := hrun
  exact ⟨hsound, hfirst, himage, hothers, hblank, hblankImage⟩

/-! ## Small characters -/

/-- Whether lowercasing leaves a character alone, whatever its neighbours. -/
def IsSmall (c : Char) : Prop := ∀ r ∈ changingRuns, lowerInRun c.toNat r = none

instance (c : Char) : Decidable (IsSmall c) := by unfold IsSmall; infer_instance

theorem toNat_ofNat {n : Nat} (h : n.isValidChar) : (Char.ofNat n).toNat = n := by
  rw [Char.ofNat, dif_pos h]
  rfl

theorem isSmall_of_apart {r : Nat × Nat × Nat × Nat} {n m : Nat}
    (h : changingRuns.all (apart r) = true) (hm : lowerInRun n r = some m) (hv : m.isValidChar) :
    IsSmall (Char.ofNat m) := by
  intro r' hr'
  rw [toNat_ofNat hv]
  exact lowerInRun_of_apart (List.all_eq_true.1 h r' hr') hm

theorem IsSmall.ne_dottedI {c : Char} (h : IsSmall c) : c ≠ '\u0130' := by
  rintro rfl
  have := h (0x130, 0x130, 2, 0x69) (by simp [changingRuns])
  simp [lowerInRun] at this

theorem IsSmall.ne_sigma {c : Char} (h : IsSmall c) : c ≠ '\u03A3' := by
  rintro rfl
  have := h (0x3A3, 0x3A3, 2, 0x3C3) (by simp [changingRuns])
  simp [lowerInRun] at this

/-- A character is no ASCII capital exactly when its code point says so. -/
theorem asciiCapital_iff {c : Char} : ('A' ≤ c ∧ c ≤ 'Z') ↔ 0x41 ≤ c.toNat ∧ c.toNat ≤ 0x5A := by
  simp only [Char.le_def, UInt32.le_iff_toNat_le, Char.toNat_val]
  exact Iff.rfl

/-- Lowering an ASCII capital adds 32 to its code point. -/
theorem toNat_asciiLower (c : Char) : (asciiLower c).toNat =
    if 0x41 ≤ c.toNat ∧ c.toNat ≤ 0x5A then c.toNat + 32 else c.toNat := by
  rw [asciiLower]
  simp only [asciiCapital_iff]
  split
  · exact toNat_ofNat (.inl (by omega))
  · rfl

theorem asciiLower_asciiLower (c : Char) : asciiLower (asciiLower c) = asciiLower c := by
  have h := toNat_asciiLower c
  rw [← Char.toNat_inj, toNat_asciiLower (asciiLower c), if_neg]
  split at h <;> omega

theorem IsSmall.lowerChar {c : Char} (h : IsSmall c) : lowerChar c = c := by
  rw [Text.lowerChar]
  split
  · have hA := h (0x41, 0x5A, 1, 0x61) (by simp [changingRuns])
    rw [asciiLower, if_neg]
    intro hc
    have := asciiCapital_iff.1 hc
    simp [lowerInRun, this.1, this.2, Nat.mod_one] at hA
  · rw [List.findSome?_eq_none_iff.2 fun r hr => h r (by simp [changingRuns, hr])]

/-! ## Single characters -/

/-- What `lowerChar` does beyond ASCII: nothing, or what a run of the table says. -/
theorem lowerChar_cases {c : Char} (h : ¬c.toNat < 0x80) :
    (lowerChar c = c ∧ ∀ r ∈ lowercaseRuns, lowerInRun c.toNat r = none) ∨
      ∃ r ∈ lowercaseRuns, ∃ m, lowerInRun c.toNat r = some m ∧ lowerChar c = Char.ofNat m := by
  rw [lowerChar, if_neg h]
  cases hf : lowercaseRuns.findSome? (lowerInRun c.toNat) with
  | none => exact .inl ⟨rfl, List.findSome?_eq_none_iff.1 hf⟩
  | some m =>
    obtain ⟨r, hr, hm⟩ := List.exists_of_findSome?_eq_some hf
    exact .inr ⟨r, hr, m, hm, rfl⟩

theorem isSmall_of_ascii {c : Char} (h : c.toNat < 0x80) (hA : ¬(0x41 ≤ c.toNat ∧ c.toNat ≤ 0x5A)) :
    IsSmall c := by
  intro r hr
  simp only [changingRuns, List.mem_cons] at hr
  rcases hr with rfl | rfl | rfl | hr
  · rw [lowerInRun, if_neg (by omega)]
  · rw [lowerInRun, if_neg (by omega)]
  · rw [lowerInRun, if_neg (by omega)]
  · obtain ⟨first, last, step, image⟩ := r
    have := (isTabular_of_mem _ hr).first
    simp only at this
    rw [lowerInRun, if_neg (by omega)]

theorem isSmall_asciiLower {c : Char} (h : c.toNat < 0x80) : IsSmall (asciiLower c) := by
  refine isSmall_of_ascii ?_ ?_ <;> rw [toNat_asciiLower] <;> split <;> omega

/-- What the two characters with a rule of their own become is small. -/
theorem isSmall_of_ruled {c : Char} (h : c ∈ ['i', '\u0307', '\u03C2', '\u03C3']) : IsSmall c := by
  have hbeyond : ∀ n ∈ [0x307, 0x3C2, 0x3C3], ∀ r ∈ changingRuns, lowerInRun n r = none := by
    intro n hn r hr
    simp only [changingRuns, List.mem_cons] at hr
    rcases hr with rfl | rfl | rfl | hr
    · revert n
      decide
    · revert n
      decide
    · revert n
      decide
    · exact (isTabular_of_mem r hr).others n hn
  rcases List.mem_cons.1 h with rfl | h
  · exact isSmall_of_ascii (by decide) (by decide)
  · exact hbeyond c.toNat (List.mem_map_of_mem h)

/-- The lowercase form of a character without a rule of its own is small. -/
theorem isSmall_lowerChar {c : Char} (hI : c ≠ '\u0130') (hS : c ≠ '\u03A3') :
    IsSmall (lowerChar c) := by
  by_cases hc : c.toNat < 0x80
  · rw [lowerChar, if_pos hc]
    exact isSmall_asciiLower hc
  rcases lowerChar_cases hc with ⟨he, hnone⟩ | ⟨r, hr, m, hm, he⟩
  · rw [he]
    have hI' : c.toNat ≠ 0x130 := fun h => hI (Char.toNat_inj.1 h)
    have hS' : c.toNat ≠ 0x3A3 := fun h => hS (Char.toNat_inj.1 h)
    intro r hr
    simp only [changingRuns, List.mem_cons] at hr
    rcases hr with rfl | rfl | rfl | hr
    · rw [lowerInRun, if_neg (by omega)]
    · rw [lowerInRun, if_neg (by omega)]
    · rw [lowerInRun, if_neg (by omega)]
    · exact hnone r hr
  · rw [he]
    exact isSmall_of_apart (lowercaseRuns_apart r hr) hm
      (isValidChar_of_isSound (isTabular_of_mem r hr).sound hm)

/-- A lowercase form in ASCII other than `k` comes from ASCII. -/
theorem lt_of_lowerChar_lt {c : Char} (h : (lowerChar c).toNat < 0x80) (hk : lowerChar c ≠ 'k') :
    c.toNat < 0x80 := by
  by_contra hc
  rcases lowerChar_cases hc with ⟨he, -⟩ | ⟨⟨first, last, step, image⟩, hr, m, hm, he⟩
  · exact hc (he ▸ h)
  · have hv := isValidChar_of_isSound (isTabular_of_mem _ hr).sound hm
    obtain ⟨⟨h1, h2, -⟩, rfl⟩ := lowerInRun_eq_some.1 hm
    rw [he, toNat_ofNat hv] at h
    rcases (isTabular_of_mem _ hr).image with hi | hi
    · simp only at hi
      omega
    · simp only [Prod.mk.injEq] at hi
      obtain ⟨rfl, rfl, rfl, rfl⟩ := hi
      apply hk
      rw [he, show c.toNat = 0x212A by omega]

theorem lowerChar_eq_v_iff {c : Char} : lowerChar c = 'v' ↔ c = 'v' ∨ c = 'V' := by
  constructor
  · intro h
    have hc := lt_of_lowerChar_lt (c := c) (by rw [h]; decide) (by rw [h]; decide)
    rw [lowerChar, if_pos hc] at h
    have hv : (asciiLower c).toNat = 0x76 := congrArg Char.toNat h
    rw [toNat_asciiLower] at hv
    have hcode : c.toNat = 0x76 ∨ c.toNat = 0x56 := by split at hv <;> omega
    exact hcode.imp (Char.toNat_inj.1 ·) (Char.toNat_inj.1 ·)
  · rintro (rfl | rfl) <;> rfl

/-! ## Blank characters -/

/-- No lowercase form of a character beyond ASCII is blank, unless the character is. -/
theorem isBlank_lowerChar {c : Char} (hc : ¬c.toNat < 0x80) (h : isBlank c = false) :
    isBlank (lowerChar c) = false := by
  rcases lowerChar_cases hc with ⟨he, -⟩ | ⟨⟨first, last, step, image⟩, hr, m, hm, he⟩
  · rwa [he]
  · have htabular := isTabular_of_mem _ hr
    have hv := isValidChar_of_isSound htabular.sound hm
    obtain ⟨⟨h1, h2, -⟩, rfl⟩ := lowerInRun_eq_some.1 hm
    refine isBlank_of_isBlankFree htabular.blankFreeImage ?_
    rw [he, toNat_ofNat hv]
    simp only
    omega

/-- A blank character is its own lowercase form. -/
theorem lowerChar_of_isBlank {c : Char} (h : isBlank c = true) : lowerChar c = c := by
  by_cases hc : c.toNat < 0x80
  · rw [lowerChar, if_pos hc, asciiLower, if_neg]
    intro hA
    have hcapitals : isBlankFree 0x41 0x5A = true := by decide
    rw [isBlank_of_isBlankFree hcapitals (asciiCapital_iff.1 hA)] at h
    cases h
  · rcases lowerChar_cases hc with ⟨he, -⟩ | ⟨⟨first, last, step, image⟩, hr, m, hm, -⟩
    · exact he
    · obtain ⟨⟨h1, h2, -⟩, -⟩ := lowerInRun_eq_some.1 hm
      rw [isBlank_of_isBlankFree (isTabular_of_mem _ hr).blankFree ⟨h1, h2⟩] at h
      cases h

/-! ## Texts -/

theorem isSmall_of_mem_lowerAt {before after : Text} {c d : Char}
    (h : d ∈ lowerAt before c after) : IsSmall d := by
  rw [lowerAt] at h
  split at h
  · exact isSmall_of_ruled (List.mem_append_left ['\u03C2', '\u03C3'] h)
  · rename_i hI
    split at h
    · refine isSmall_of_ruled ?_
      split at h <;> simp_all
    · rename_i hS
      rw [List.mem_singleton.1 h]
      exact isSmall_lowerChar hI hS

theorem isSmall_of_mem_lowerAfter {before t : Text} {d : Char} (h : d ∈ lowerAfter before t) :
    IsSmall d := by
  induction t generalizing before with
  | nil => simp [lowerAfter] at h
  | cons c rest ih =>
    rw [lowerAfter, List.mem_append] at h
    rcases h with h | h
    · exact isSmall_of_mem_lowerAt h
    · exact ih h

/-- Every character of a lowercase text is small. -/
theorem isSmall_of_mem_lowercase {t : Text} {d : Char} (h : d ∈ lowercase t) : IsSmall d :=
  isSmall_of_mem_lowerAfter h

/-- Where the characters of a lowercase form come from: a character of the text, taken by itself, or
one of the two rules of their own. -/
theorem exists_of_mem_lowercase {t : Text} {d : Char} (h : d ∈ lowercase t) :
    (∃ c ∈ t, d = lowerChar c) ∨ d ∈ ['i', '\u0307', '\u03C2', '\u03C3'] := by
  suffices hafter : ∀ before, d ∈ lowerAfter before t →
      (∃ c ∈ t, d = lowerChar c) ∨ d ∈ ['i', '\u0307', '\u03C2', '\u03C3'] from hafter [] h
  clear h
  induction t with
  | nil => exact fun _ => nofun
  | cons c rest ih =>
    intro before h
    rw [lowerAfter, List.mem_append] at h
    rcases h with h | h
    · rw [lowerAt] at h
      split at h
      · exact .inr (List.mem_append_left _ h)
      · split at h
        · right
          split at h <;> simp_all
        · exact .inl ⟨c, List.mem_cons_self, List.mem_singleton.1 h⟩
    · exact (ih _ h).imp_left fun ⟨c', hc', hd⟩ => ⟨c', List.mem_cons_of_mem c hc', hd⟩

/-- What a character becomes is part of the lowercase form. -/
theorem exists_lowerAt_subset {t : Text} {c : Char} (h : c ∈ t) :
    ∃ before after, lowerAt before c after ⊆ lowercase t := by
  suffices hafter : ∀ first, ∃ before after, lowerAt before c after ⊆ lowerAfter first t from
    hafter []
  induction t with
  | nil => cases h
  | cons d rest ih =>
    intro first
    rw [lowerAfter]
    rcases List.mem_cons.1 h with rfl | h
    · exact ⟨first, rest, List.subset_append_left _ _⟩
    · obtain ⟨before, after, hsub⟩ := ih h (d :: first)
      exact ⟨before, after, List.Subset.trans hsub (List.subset_append_right _ _)⟩

theorem lowercase_eq_nil_iff {t : Text} : lowercase t = [] ↔ t = [] := by
  cases t with
  | nil => simp [lowercase, lowerAfter]
  | cons c rest =>
    have hne : lowerAt [] c rest ≠ [] := by
      rw [lowerAt]
      split
      · simp
      · split
        · split <;> simp
        · simp
    simp [lowercase, lowerAfter, hne]

theorem lowerAfter_eq_map {before t : Text} (h : ∀ c ∈ t, c ≠ '\u0130' ∧ c ≠ '\u03A3') :
    lowerAfter before t = t.map lowerChar := by
  induction t generalizing before with
  | nil => rfl
  | cons c rest ih =>
    obtain ⟨hI, hS⟩ := h c (by simp)
    rw [lowerAfter, lowerAt, if_neg hI, if_neg hS, ih fun d hd => h d (by simp [hd])]
    rfl

/-- **Without the two characters that have a rule of their own, lowercasing goes character by
character.** -/
theorem lowercase_eq_map {t : Text} (h : ∀ c ∈ t, c ≠ '\u0130' ∧ c ≠ '\u03A3') :
    lowercase t = t.map lowerChar :=
  lowerAfter_eq_map h

theorem lowercase_eq_self {t : Text} (h : ∀ c ∈ t, IsSmall c) : lowercase t = t := by
  rw [lowercase_eq_map fun c hc => ⟨(h c hc).ne_dottedI, (h c hc).ne_sigma⟩]
  exact (List.map_congr_left fun c hc => (h c hc).lowerChar).trans (List.map_id t)

/-- **Lowercasing twice is lowercasing once.** -/
theorem lowercase_lowercase (t : Text) : lowercase (lowercase t) = lowercase t :=
  lowercase_eq_self fun _ h => isSmall_of_mem_lowercase h

/-! ## Separators -/

/-- Whether a character keeps what is on one side of it from mattering on the other. -/
structure IsBarrier (c : Char) : Prop where
  cased : isCased c = false
  ignorable : isCaseIgnorable c = false
  small : IsSmall c

theorem isBarrier_slash : IsBarrier '/' where
  cased := by decide
  ignorable := by decide +kernel
  small := isSmall_of_ascii (by decide) (by decide)

theorem meetsCased_append {c : Char} (hc : IsBarrier c) (t rest : Text) :
    meetsCased (t ++ c :: rest) = meetsCased t := by
  rw [meetsCased, meetsCased, List.dropWhile_append]
  cases t.dropWhile isCaseIgnorable with
  | nil =>
    rw [List.isEmpty_nil, if_pos rfl, List.dropWhile_cons_of_neg (by simp [hc.ignorable])]
    exact hc.cased
  | cons d tail => rfl

/-- A text after a barrier is lowered as if it stood alone. -/
theorem lowerAfter_append_barrier {c : Char} (hc : IsBarrier c) (before rest t : Text) :
    lowerAfter (before ++ c :: rest) t = lowerAfter before t := by
  induction t generalizing before with
  | nil => rfl
  | cons d t ih =>
    rw [lowerAfter, lowerAfter, lowerAt, lowerAt, meetsCased_append hc, ← List.cons_append, ih]

/-- So is a text before one. -/
theorem lowerAfter_barrier {c : Char} (hc : IsBarrier c) (before t rest : Text) :
    lowerAfter before (t ++ c :: rest) = lowerAfter before t ++ c :: lowercase rest := by
  induction t generalizing before with
  | nil =>
    have hat : lowerAt before c rest = [c] := by
      rw [lowerAt, if_neg hc.small.ne_dottedI, if_neg hc.small.ne_sigma, hc.small.lowerChar]
    rw [List.nil_append, lowerAfter, lowerAfter, hat, List.nil_append, List.singleton_append,
      ← List.nil_append (c :: before), lowerAfter_append_barrier hc, lowercase]
  | cons d t ih =>
    rw [List.cons_append, lowerAfter, lowerAfter, lowerAt, lowerAt, meetsCased_append hc, ih,
      List.append_assoc]

/-- **The two sides of a barrier are lowered each by itself.** -/
theorem lowercase_append_barrier {c : Char} (hc : IsBarrier c) (t rest : Text) :
    lowercase (t ++ c :: rest) = lowercase t ++ c :: lowercase rest :=
  lowerAfter_barrier hc [] t rest

end Text

end PinnedActions
