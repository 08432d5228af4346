import PinnedActions.Proofs.Text.Cut
import PinnedActions.Proofs.Text.Utf8
import PinnedActions.Text.Percent

/-!
# Percent encoding, and back

What is written with `Percent.encode` is read with `Percent.decode`: the bytes of the text come back
(`decode_encode`), provided that a percent sign does not stand for itself.  So different texts are
written differently (`encode_injective`).

What is written has a simple form (`IsEncoded`): the characters that stand for themselves, and percent
signs with two digits in capitals after each.  So a mark that stands for itself still separates what it
separated before (`splitOn_encode`).
-/

set_option autoImplicit false

namespace PinnedActions

namespace Utf8

/-- Texts with the same bytes are the same. -/
theorem encode_injective : Function.Injective encode := by
  intro s t h
  rw [← Option.some_inj, ← decode?_encode s, h, decode?_encode]

/-- A byte below 128 is a character of its own. -/
theorem toNat_of_mem_utf8EncodeChar {c : Char} {b : UInt8} (hb : b ∈ String.utf8EncodeChar c)
    (hascii : b.toNat < 0x80) : b.toNat = c.toNat := by
  have hval : c.val.toNat = c.toNat := rfl
  have hlong : ∀ {n : Nat}, 0x80 ≤ n → n < 0x100 → ¬(UInt8.ofNat n).toNat < 0x80 := fun h h' => by
    rw [toNat_byte h']
    omega
  unfold String.utf8EncodeChar at hb
  simp only [hval] at hb
  split_ifs at hb with h1 h2 h3 <;> simp only [List.mem_cons, List.not_mem_nil, or_false] at hb
  · rw [hb]
    exact toNat_byte (by omega)
  · rcases hb with rfl | rfl <;> exact absurd hascii (hlong (by omega) (by omega))
  · rcases hb with rfl | rfl | rfl <;> exact absurd hascii (hlong (by omega) (by omega))
  · rcases hb with rfl | rfl | rfl | rfl <;> exact absurd hascii (hlong (by omega) (by omega))

end Utf8

namespace Percent

/-! ## Reading back -/

theorem upperHexDigit_mod (n : Nat) : Text.upperHexDigit (n % 16) = Text.upperHexDigit n := by
  rw [Text.upperHexDigit, Text.upperHexDigit, Nat.mod_mod]

theorem digitValue?_upperHexDigit (n : Nat) :
    Text.digitValue? 16 (Text.upperHexDigit n) = some (n % 16) := by
  have hdigits : ∀ d < 16, Text.digitValue? 16 (Text.upperHexDigit d) = some d := by decide
  rw [← upperHexDigit_mod, hdigits _ (Nat.mod_lt n (by decide))]

theorem pair?_byte (b : UInt8) :
    pair? (Text.upperHexDigit (b.toNat / 16)) (Text.upperHexDigit b.toNat) = some b := by
  have hb : b.toNat < 256 := b.toNat_lt
  have hvalue : b.toNat / 16 % 16 * 16 + b.toNat % 16 = b.toNat := by omega
  rw [pair?, digitValue?_upperHexDigit, digitValue?_upperHexDigit]
  simp only [Option.bind_eq_bind, Option.bind_some, hvalue, UInt8.ofNat_toNat]

theorem decode_byte_append (b : UInt8) (rest : Text) :
    decode (byte b ++ rest) = b :: decode rest := by
  rw [byte, List.cons_append, List.cons_append, List.cons_append, List.nil_append, decode,
    pair?_byte]

theorem decode_flatMap_byte_append (bytes : List UInt8) (rest : Text) :
    decode (bytes.flatMap byte ++ rest) = bytes ++ decode rest := by
  induction bytes with
  | nil => rfl
  | cons b bytes ih =>
    rw [List.flatMap_cons, List.append_assoc, decode_byte_append, ih, List.cons_append]

theorem decode_cons_of_ne {c : Char} (hc : c ≠ '%') (rest : Text) :
    decode (c :: rest) = String.utf8EncodeChar c ++ decode rest := by
  rw [decode]
  rintro high low rest' rfl
  exact absurd rfl hc

variable {keep : Char → Bool}

/-- **What was written is read back**, as bytes. -/
theorem decode_encode (hkeep : keep '%' = false) (t : Text) :
    decode (encode keep t) = Utf8.encode t := by
  induction t with
  | nil => rfl
  | cons c rest ih =>
    rw [encode, List.flatMap_cons, ← encode, Utf8.encode, List.flatMap_cons, ← Utf8.encode, ← ih,
      encodeChar]
    split
    · rename_i hc
      refine decode_cons_of_ne ?_ _
      rintro rfl
      rw [hkeep] at hc
      cases hc
    · exact decode_flatMap_byte_append _ _

theorem encode_injective (hkeep : keep '%' = false) : Function.Injective (encode keep) := by
  intro s t h
  apply Utf8.encode_injective
  rw [← decode_encode hkeep, h, decode_encode hkeep]

/-! ## The form of what is written -/

/-- The digits of base sixteen, in capitals. -/
def capitalDigits : Text := "0123456789ABCDEF".toList

/-- Whether a text is made of characters of a class, and of percent signs each with two digits in
capitals after it. -/
inductive IsEncoded (keep : Char → Bool) : Text → Prop where
  | nil : IsEncoded keep []
  | kept {c : Char} {rest : Text} (hc : keep c = true) (h : IsEncoded keep rest) :
    IsEncoded keep (c :: rest)
  | byte {high low : Char} {rest : Text} (hhigh : high ∈ capitalDigits) (hlow : low ∈ capitalDigits)
    (h : IsEncoded keep rest) : IsEncoded keep ('%' :: high :: low :: rest)

theorem upperHexDigit_mem (n : Nat) : Text.upperHexDigit n ∈ capitalDigits := by
  have hdigits : ∀ d < 16, Text.upperHexDigit d ∈ capitalDigits := by decide
  rw [← upperHexDigit_mod]
  exact hdigits _ (Nat.mod_lt n (by decide))

theorem IsEncoded.bytes_append (bytes : List UInt8) {rest : Text} (h : IsEncoded keep rest) :
    IsEncoded keep (bytes.flatMap Percent.byte ++ rest) := by
  induction bytes with
  | nil => exact h
  | cons b bytes ih =>
    rw [List.flatMap_cons, List.append_assoc]
    exact .byte (upperHexDigit_mem _) (upperHexDigit_mem _) ih

/-- **What is written has that form.** -/
theorem isEncoded_encode (keep : Char → Bool) (t : Text) : IsEncoded keep (encode keep t) := by
  induction t with
  | nil => exact .nil
  | cons c rest ih =>
    rw [encode, List.flatMap_cons, encodeChar]
    split
    · rename_i hc
      exact .kept hc ih
    · exact .bytes_append _ ih

/-! ## What stands in it -/

theorem encode_of_forall {t : Text} (h : ∀ c ∈ t, keep c = true) : encode keep t = t := by
  rw [encode, List.flatMap_congr (g := fun c => [c]) fun c hc => ?_, List.flatMap_singleton']
  rw [encodeChar, if_pos (h c hc)]

theorem mem_of_mem_encode {t : Text} {c : Char} (h : c ∈ encode keep t) :
    c ∈ t ∧ keep c = true ∨ c = '%' ∨ c ∈ capitalDigits := by
  obtain ⟨d, hd, hc⟩ := List.mem_flatMap.1 h
  rw [encodeChar] at hc
  split at hc
  · rename_i hkeep
    rw [List.mem_singleton.1 hc]
    exact .inl ⟨hd, hkeep⟩
  · obtain ⟨b, -, hb⟩ := List.mem_flatMap.1 hc
    simp only [byte, List.mem_cons, List.not_mem_nil, or_false] at hb
    rcases hb with rfl | rfl | rfl
    · exact .inr (.inl rfl)
    · exact .inr (.inr (upperHexDigit_mem _))
    · exact .inr (.inr (upperHexDigit_mem _))

theorem encode_join (mark : Char) (hmark : keep mark = true) (parts : List Text) :
    encode keep (Text.join [mark] parts) = Text.join [mark] (parts.map (encode keep)) := by
  have hsingle : encode keep [mark] = [mark] := by
    rw [encode, List.flatMap_singleton, encodeChar, if_pos hmark]
  induction parts with
  | nil => rfl
  | cons part rest ih =>
    cases rest with
    | nil => simp [Text.join, List.intercalate_singleton]
    | cons next rest =>
      simp only [Text.join, List.map_cons, List.intercalate_cons_cons] at ih ⊢
      rw [← ih, encode, List.flatMap_append, List.flatMap_append, ← encode, ← encode, ← encode,
        hsingle]

/-- The pieces between marks that stand for themselves are written one by one. -/
theorem splitOn_encode {mark : Char} (hmark : keep mark = true) (hpercent : mark ≠ '%')
    (hdigit : mark ∉ capitalDigits) (t : Text) :
    (encode keep t).splitOn mark = (t.splitOn mark).map (encode keep) := by
  have hjoin : encode keep t = Text.join [mark] ((t.splitOn mark).map (encode keep)) := by
    rw [← encode_join mark hmark, Text.join, List.intercalate_splitOn]
  rw [hjoin]
  refine List.splitOn_intercalate mark (fun piece hpiece hmem => ?_)
    (by simp)
  obtain ⟨part, hpart, rfl⟩ := List.mem_map.1 hpiece
  rcases mem_of_mem_encode hmem with ⟨h, -⟩ | h | h
  · exact Text.not_mem_of_mem_splitOn hpart h
  · exact hpercent h
  · exact hdigit h

end Percent

end PinnedActions
