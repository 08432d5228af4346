import PinnedActions.Text.Utf8
import Mathlib.Tactic.SplitIfs

/-!
# Decoding what was encoded

`Utf8.decode?` gives back every text from its bytes (`decode?_encode`), so a file that was written can
be read, and texts with the same bytes are the same.  It gives back nothing else: the bytes of a file
that can be read are the encoding of its text (`decode?_eq_some_iff`).

A character takes one to four bytes.  What its lead byte announces is computed once for each of these
numbers, with the range in which the second byte has to lie.  The way back goes through the same
four cases (`Announces`).
-/

set_option autoImplicit false

namespace PinnedActions

namespace Utf8

/-! ## Lead bytes -/

theorem lead?_one {v : Nat} (h : v < 0x80) : lead? v = some ⟨0, v, 0x80, 0xBF⟩ := if_pos h

theorem lead?_two {v : Nat} (h : 0x80 ≤ v) (h' : v < 0x800) :
    lead? (v / 64 % 32 + 0xC0) = some ⟨1, v / 64, 0x80, 0xBF⟩ := by
  unfold lead?
  rw [if_neg (by omega), if_pos (by omega)]
  simp only [Option.some.injEq, Lead.mk.injEq, true_and, and_true]
  omega

/-- The range of the second byte excludes what would fit into two bytes, and surrogates. -/
theorem exists_lead?_three {v : Nat} (h : 0x800 ≤ v) (h' : v < 0x10000)
    (hscalar : v < 0xD800 ∨ 0xDFFF < v) :
    ∃ lowest highest, lead? (v / 4096 % 16 + 0xE0) = some ⟨2, v / 4096, lowest, highest⟩ ∧
      lowest ≤ v / 64 % 64 + 0x80 ∧ v / 64 % 64 + 0x80 ≤ highest := by
  unfold lead?
  rw [if_neg (by omega), if_neg (by omega)]
  split_ifs with hE0 hED hother
  · exact ⟨_, _, by rw [show v / 4096 = 0 by omega], by omega, by omega⟩
  · exact ⟨_, _, by rw [show v / 4096 = 0xD by omega], by omega, by omega⟩
  · exact ⟨_, _, by rw [show v / 4096 % 16 + 0xE0 - 0xE0 = v / 4096 by omega], by omega, by omega⟩
  all_goals omega

/-- The range of the second byte excludes what would fit into three bytes, and all that is above the
last code point. -/
theorem exists_lead?_four {v : Nat} (h : 0x10000 ≤ v) (h' : v < 0x110000) :
    ∃ lowest highest, lead? (v / 262144 % 8 + 0xF0) = some ⟨3, v / 262144, lowest, highest⟩ ∧
      lowest ≤ v / 4096 % 64 + 0x80 ∧ v / 4096 % 64 + 0x80 ≤ highest := by
  unfold lead?
  rw [if_neg (by omega), if_neg (by omega), if_neg (by omega), if_neg (by omega), if_neg (by omega)]
  split_ifs with hF0 hother hF4
  · exact ⟨_, _, by rw [show v / 262144 = 0 by omega], by omega, by omega⟩
  · exact ⟨_, _, by rw [show v / 262144 % 8 + 0xF0 - 0xF0 = v / 262144 by omega], by omega,
      by omega⟩
  · exact ⟨_, _, by rw [show v / 262144 = 4 by omega], by omega, by omega⟩
  · omega

/-! ## One character -/

theorem toNat_byte {n : Nat} (h : n < 0x100) : (UInt8.ofNat n).toNat = n :=
  UInt8.toNat_ofNat_of_lt' h

/-- One more byte of a character. -/
theorem continueFrom_cons {n bits lowest highest x : Nat} (hlow : lowest ≤ x + 0x80)
    (hhigh : x + 0x80 ≤ highest) (hx : x < 64) (rest : List UInt8) :
    continueFrom (n + 1) bits lowest highest (UInt8.ofNat (x + 0x80) :: rest) =
      continueFrom n (bits * 64 + x) 0x80 0xBF rest := by
  rw [continueFrom, toNat_byte (by omega), if_pos ⟨hlow, hhigh⟩, Nat.add_sub_cancel]

/-- A byte of a character after the second one. -/
theorem continueFrom_cons_mod (n bits v : Nat) (rest : List UInt8) :
    continueFrom (n + 1) bits 0x80 0xBF (UInt8.ofNat (v % 64 + 0x80) :: rest) =
      continueFrom n (bits * 64 + v % 64) 0x80 0xBF rest :=
  continueFrom_cons (by omega) (by omega) (by omega) rest

theorem pieces_of_lead {n following bits lowest highest : Nat} (hn : n < 0x100)
    (h : lead? n = some ⟨following, bits, lowest, highest⟩) {bytes rest : List UInt8} {c : Char}
    (hfollowing : continueFrom following bits lowest highest bytes = (some c.toNat, rest)) :
    pieces (UInt8.ofNat n :: bytes) = some c :: pieces rest := by
  have hstep : step (UInt8.ofNat n) bytes = (some c, rest) := by
    rw [step, toNat_byte hn, h]
    simp only [hfollowing, Option.map_some, Char.ofNat_toNat]
  rw [pieces, hstep]

/-- **A character is read from its bytes**, and what follows them is left. -/
theorem pieces_utf8EncodeChar_append (c : Char) (rest : List UInt8) :
    pieces (String.utf8EncodeChar c ++ rest) = some c :: pieces rest := by
  have hvalid : c.toNat < 0xD800 ∨ 0xDFFF < c.toNat ∧ c.toNat < 0x110000 := c.valid
  have hval : c.val.toNat = c.toNat := rfl
  unfold String.utf8EncodeChar
  simp only [hval]
  split_ifs with h1 h2 h3 <;> simp only [List.cons_append, List.nil_append]
  · exact pieces_of_lead (by omega) (lead?_one (by omega)) rfl
  · refine pieces_of_lead (by omega) (lead?_two (by omega) (by omega)) ?_
    rw [continueFrom_cons_mod, continueFrom]
    congr 2
    omega
  · obtain ⟨lowest, highest, hlead, hlow, hhigh⟩ :=
      exists_lead?_three (v := c.toNat) (by omega) (by omega) (by omega)
    refine pieces_of_lead (by omega) hlead ?_
    rw [continueFrom_cons hlow hhigh (by omega), continueFrom_cons_mod, continueFrom]
    congr 2
    omega
  · obtain ⟨lowest, highest, hlead, hlow, hhigh⟩ :=
      exists_lead?_four (v := c.toNat) (by omega) (by omega)
    refine pieces_of_lead (by omega) hlead ?_
    rw [continueFrom_cons hlow hhigh (by omega), continueFrom_cons_mod, continueFrom_cons_mod,
      continueFrom]
    congr 2
    omega

/-! ## Back to the bytes -/

/-- What a lead byte announces: the bits that it has besides its mark, and a range for the second
byte that excludes overlong forms, surrogates and numbers above the last code point. -/
inductive Announces : (byte following bits lowest highest : Nat) → Prop where
  | one {b : Nat} (h : b < 0x80) : Announces b 0 b 0x80 0xBF
  | two {bits : Nat} (h : 2 ≤ bits ∧ bits < 32) : Announces (bits + 0xC0) 1 bits 0x80 0xBF
  | three {bits lowest highest : Nat} (h : bits < 16) (hlow : 0x80 ≤ lowest)
      (hhigh : highest ≤ 0xBF) (hlong : bits = 0 → 0xA0 ≤ lowest)
      (hsurrogate : bits = 0xD → highest ≤ 0x9F) :
      Announces (bits + 0xE0) 2 bits lowest highest
  | four {bits lowest highest : Nat} (h : bits ≤ 4) (hlow : 0x80 ≤ lowest) (hhigh : highest ≤ 0xBF)
      (hlong : bits = 0 → 0x90 ≤ lowest) (hlast : bits = 4 → highest ≤ 0x8F) :
      Announces (bits + 0xF0) 3 bits lowest highest

theorem announces_of_lead? {b following bits lowest highest : Nat}
    (h : lead? b = some ⟨following, bits, lowest, highest⟩) :
    Announces b following bits lowest highest := by
  unfold lead? at h
  split_ifs at h with h1 h2 hE0 hED h3 hF0 h4 hF4 <;> cases h
  · exact .one h1
  · obtain ⟨bits, rfl⟩ := Nat.exists_eq_add_of_le' (show 0xC0 ≤ b by omega)
    rw [Nat.add_sub_cancel]
    exact .two (by omega)
  · subst hE0
    exact @Announces.three 0 _ _ (by decide) (by decide) (by decide) (by decide) (by decide)
  · subst hED
    exact @Announces.three 0xD _ _ (by decide) (by decide) (by decide) (by decide) (by decide)
  · obtain ⟨bits, rfl⟩ := Nat.exists_eq_add_of_le' (show 0xE0 ≤ b by omega)
    rw [Nat.add_sub_cancel]
    exact .three (by omega) (by decide) (by decide) (by omega) (by omega)
  · subst hF0
    exact @Announces.four 0 _ _ (by decide) (by decide) (by decide) (by decide) (by decide)
  · obtain ⟨bits, rfl⟩ := Nat.exists_eq_add_of_le' (show 0xF0 ≤ b by omega)
    rw [Nat.add_sub_cancel]
    exact .four (by omega) (by decide) (by decide) (by omega) (by omega)
  · subst hF4
    exact @Announces.four 4 _ _ (by decide) (by decide) (by decide) (by decide) (by decide)

/-- One more byte of a character that was read. -/
theorem exists_byte_of_continueFrom {n bits lowest highest point : Nat} {bytes rest : List UInt8}
    (hlow : 0x80 ≤ lowest)
    (h : continueFrom (n + 1) bits lowest highest bytes = (some point, rest)) :
    ∃ x more, bytes = UInt8.ofNat (x + 0x80) :: more ∧ (lowest ≤ x + 0x80 ∧ x + 0x80 ≤ highest) ∧
      continueFrom n (bits * 64 + x) 0x80 0xBF more = (some point, rest) := by
  cases bytes with
  | nil => cases h
  | cons b more =>
    rw [continueFrom] at h
    split at h
    · rename_i hrange
      obtain ⟨x, hx⟩ := Nat.exists_eq_add_of_le' (Nat.le_trans hlow hrange.1)
      rw [hx, Nat.add_sub_cancel] at h
      rw [hx] at hrange
      exact ⟨x, more, by rw [← hx, UInt8.ofNat_toNat], hrange, h⟩
    · cases h

theorem val_ofNat {n : Nat} (h : n < 0xD800 ∨ 0xDFFF < n ∧ n < 0x110000) :
    (Char.ofNat n).val.toNat = n := by
  rw [Char.ofNat, dif_pos h]
  rfl

/-- **A character has the bytes that it was read from.** -/
theorem cons_eq_of_announces {b following bits lowest highest point : Nat} {bytes rest : List UInt8}
    (h : Announces b following bits lowest highest)
    (hread : continueFrom following bits lowest highest bytes = (some point, rest)) :
    UInt8.ofNat b :: bytes = String.utf8EncodeChar (Char.ofNat point) ++ rest := by
  unfold String.utf8EncodeChar
  cases h with
  | one h =>
    cases hread
    simp only [val_ofNat (n := b) (by omega)]
    rw [if_pos (by omega), List.singleton_append]
  | two h =>
    obtain ⟨x, more, rfl, hx, hread⟩ := exists_byte_of_continueFrom (by decide) hread
    cases hread
    simp only [val_ofNat (n := bits * 64 + x) (by omega)]
    rw [if_neg (by omega), if_pos (by omega), List.cons_append, List.singleton_append]
    congr 3 <;> omega
  | three h hlow hhigh hlong hsurrogate =>
    obtain ⟨x, more, rfl, hx, hread⟩ := exists_byte_of_continueFrom hlow hread
    obtain ⟨y, more, rfl, hy, hread⟩ := exists_byte_of_continueFrom (by decide) hread
    cases hread
    simp only [val_ofNat (n := (bits * 64 + x) * 64 + y) (by omega)]
    rw [if_neg (by omega), if_neg (by omega), if_pos (by omega)]
    simp only [List.cons_append, List.nil_append]
    congr 4 <;> omega
  | four h hlow hhigh hlong hlast =>
    obtain ⟨x, more, rfl, hx, hread⟩ := exists_byte_of_continueFrom hlow hread
    obtain ⟨y, more, rfl, hy, hread⟩ := exists_byte_of_continueFrom (by decide) hread
    obtain ⟨z, more, rfl, hz, hread⟩ := exists_byte_of_continueFrom (by decide) hread
    cases hread
    simp only [val_ofNat (n := ((bits * 64 + x) * 64 + y) * 64 + z) (by omega)]
    rw [if_neg (by omega), if_neg (by omega), if_neg (by omega)]
    simp only [List.cons_append, List.nil_append]
    congr 5 <;> omega

theorem cons_eq_of_step {b : UInt8} {bytes rest : List UInt8} {c : Char}
    (h : step b bytes = (some c, rest)) : b :: bytes = String.utf8EncodeChar c ++ rest := by
  rw [step] at h
  cases hlead : lead? b.toNat with
  | none =>
    rw [hlead] at h
    cases h
  | some lead =>
    simp only [hlead, Prod.mk.injEq, Option.map_eq_some_iff] at h
    obtain ⟨⟨point, hpoint, rfl⟩, hrest⟩ := h
    rw [← cons_eq_of_announces (announces_of_lead? hlead) (Prod.ext hpoint hrest),
      UInt8.ofNat_toNat]

/-! ## Texts -/

theorem pieces_encode (t : Text) : pieces (encode t) = t.map some := by
  induction t with
  | nil => simp [encode, pieces]
  | cons c rest ih =>
    rw [encode, List.flatMap_cons, pieces_utf8EncodeChar_append, ← encode, ih, List.map_cons]

/-- **What was encoded can be decoded.** -/
theorem decode?_encode (t : Text) : decode? (encode t) = some t := by
  rw [decode?, pieces_encode]
  induction t with
  | nil => rfl
  | cons c rest ih =>
    rw [List.map_cons, List.mapM_cons, ih]
    rfl

theorem eq_encode_of_pieces {t : Text} {bytes : List UInt8} (h : pieces bytes = t.map some) :
    bytes = encode t := by
  induction t generalizing bytes with
  | nil =>
    cases bytes with
    | nil => rfl
    | cons b rest =>
      rw [pieces] at h
      cases h
  | cons c t ih =>
    cases bytes with
    | nil =>
      rw [pieces] at h
      cases h
    | cons b rest =>
      rw [pieces, List.map_cons, List.cons.injEq] at h
      have hstep : step b rest = (some c, (step b rest).2) := Prod.ext h.1 rfl
      rw [cons_eq_of_step hstep, ih h.2, encode, encode, List.flatMap_cons]

/-- **Exactly the encodings of texts can be decoded.** -/
theorem decode?_eq_some_iff {bytes : List UInt8} {t : Text} :
    decode? bytes = some t ↔ bytes = encode t := by
  refine ⟨fun h => eq_encode_of_pieces ?_, fun h => h ▸ decode?_encode t⟩
  rw [decode?] at h
  generalize pieces bytes = ps at h
  induction ps generalizing t with
  | nil =>
    cases h
    rfl
  | cons p ps ih =>
    rw [List.mapM_cons, Option.bind_eq_bind, Option.bind_eq_some_iff] at h
    obtain ⟨c, hc, h⟩ := h
    rw [id] at hc
    rw [Option.bind_eq_bind, Option.bind_eq_some_iff] at h
    obtain ⟨rest, hrest, h⟩ := h
    cases h
    rw [hc, ih hrest, List.map_cons]

end Utf8

end PinnedActions
