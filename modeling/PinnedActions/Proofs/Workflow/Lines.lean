import PinnedActions.Proofs.Text.Cut
import PinnedActions.Workflow.Lines
import Mathlib.Data.List.Basic

/-!
# Reading back what was written

A file is written as its lines with a line feed after each.  Reading it again gives the same lines,
with two differences: a carriage return at the end of a line counts as part of the break and is
lost, and there is one more line, which is empty, unless the last one is empty already
(`texts_ofContent_content`).
-/

set_option autoImplicit false

namespace PinnedActions

namespace Lines

/-- The text without a carriage return at its end. -/
def dropReturn (t : Text) : Text := if t.getLast? = some '\r' then t.dropLast else t

/-- Whether a text is read back as one line, with all its characters. -/
def IsWhole (t : Text) : Prop := '\n' ∉ t ∧ t.getLast? ≠ some '\r'

theorem IsWhole.dropReturn_eq {t : Text} (h : IsWhole t) : dropReturn t = t := if_neg h.2

theorem dropReturn_eq_self_iff {t : Text} : dropReturn t = t ↔ t.getLast? ≠ some '\r' := by
  refine ⟨fun h hlast => ?_, fun h => if_neg h⟩
  rw [dropReturn, if_pos hlast] at h
  have hlength := congrArg List.length h
  rw [List.length_dropLast] at hlength
  have hne : t ≠ [] := by
    rintro rfl
    cases hlast
  have := List.length_pos_of_ne_nil hne
  omega

/-! ## Breaks -/

theorem unifyBreaks_append {line : Text} (h : '\n' ∉ line) (rest : Text) :
    unifyBreaks (line ++ '\n' :: rest) = dropReturn line ++ '\n' :: unifyBreaks rest := by
  induction line with
  | nil => rfl
  | cons c line ih =>
    simp only [List.mem_cons, not_or] at h
    cases line with
    | nil =>
      by_cases hc : c = '\r'
      · rw [hc]
        rfl
      · have hline : dropReturn [c] = [c] := if_neg (by simpa using hc)
        rw [hline]
        simp [unifyBreaks, hc]
    | cons d line =>
      have hd : d ≠ '\n' := fun hd => h.2 (hd ▸ List.mem_cons_self)
      have hreturn : dropReturn (c :: d :: line) = c :: dropReturn (d :: line) := by
        simp only [dropReturn, List.getLast?_cons_cons]
        split <;> rfl
      calc unifyBreaks (c :: (d :: line ++ '\n' :: rest))
          = c :: unifyBreaks (d :: line ++ '\n' :: rest) := by simp [unifyBreaks, hd]
        _ = c :: (dropReturn (d :: line) ++ '\n' :: unifyBreaks rest) := by rw [ih h.2]
        _ = dropReturn (c :: d :: line) ++ '\n' :: unifyBreaks rest := by
          rw [hreturn, List.cons_append]

theorem not_mem_dropReturn {t : Text} {c : Char} (h : c ∉ t) : c ∉ dropReturn t := by
  rw [dropReturn]
  split
  · exact fun hc => h (List.dropLast_subset t hc)
  · exact h

/-- The lines that are written, with a line feed after each. -/
theorem unifyBreaks_join {lines : List Text} (hne : lines ≠ []) (h : ∀ l ∈ lines, '\n' ∉ l) :
    unifyBreaks (Text.join ['\n'] lines ++ ['\n']) =
      Text.join ['\n'] (lines.map dropReturn) ++ ['\n'] := by
  induction lines with
  | nil => exact absurd rfl hne
  | cons l rest ih =>
    have hl := unifyBreaks_append (h l List.mem_cons_self)
    cases rest with
    | nil =>
      simp only [Text.join, List.intercalate_singleton, List.map_cons, List.map_nil]
      exact hl []
    | cons l' rest =>
      have hrest := ih (by simp) fun m hm => h m (List.mem_cons_of_mem l hm)
      simp only [Text.join, List.map_cons, List.intercalate_cons_cons, List.append_assoc,
        List.cons_append, List.nil_append] at hrest ⊢
      rw [hl, hrest]

/-! ## Lines -/

theorem not_mem_of_mem_ofContent {content line : Text} (h : line ∈ (ofContent content).texts) :
    '\n' ∉ line :=
  Text.not_mem_of_mem_splitOn h

theorem ofContent_ne_nil (content : Text) : (ofContent content).texts ≠ [] :=
  List.splitOn_ne_nil _ _

theorem join_concat {lines : List Text} (hne : lines ≠ []) :
    Text.join ['\n'] (lines ++ [[]]) = Text.join ['\n'] lines ++ ['\n'] := by
  induction lines with
  | nil => exact absurd rfl hne
  | cons l rest ih =>
    cases rest with
    | nil => simp [Text.join, List.intercalate]
    | cons l' rest =>
      have hrest := ih (by simp)
      simp only [Text.join, List.cons_append, List.intercalate_cons_cons, List.append_assoc]
        at hrest ⊢
      rw [hrest]

/-- Lines with a line feed after each are found again, and an empty one after the last. -/
theorem splitOn_join_concat {lines : List Text} (hne : lines ≠ []) (h : ∀ l ∈ lines, '\n' ∉ l) :
    (Text.join ['\n'] lines ++ ['\n']).splitOn '\n' = lines ++ [[]] := by
  rw [← join_concat hne]
  refine List.splitOn_intercalate '\n' (fun l hl => ?_) (by simp)
  rcases List.mem_append.1 hl with hl | hl
  · exact h l hl
  · simp [List.mem_singleton.1 hl]

theorem texts_ofContent_join {lines : List Text} (hne : lines ≠ []) (h : ∀ l ∈ lines, '\n' ∉ l) :
    (ofContent (Text.join ['\n'] lines ++ ['\n'])).texts = lines.map dropReturn ++ [[]] := by
  rw [ofContent, unifyBreaks_join hne h]
  refine splitOn_join_concat (by simpa using hne) fun l hl => ?_
  obtain ⟨l', hl', rfl⟩ := List.mem_map.1 hl
  exact not_mem_dropReturn (h l' hl')

/-- The last line ends the joined lines. -/
theorem exists_join_eq (lines : List Text) (last : Text) :
    ∃ front, Text.join ['\n'] (lines ++ [last]) = front ++ last := by
  induction lines with
  | nil => exact ⟨[], by simp [Text.join, List.intercalate]⟩
  | cons l rest ih =>
    obtain ⟨front, hfront⟩ := ih
    refine ⟨l ++ '\n' :: front, ?_⟩
    rw [List.cons_append, Text.join, List.intercalate_cons_of_ne_nil (by simp), ← Text.join, hfront]
    simp

/-- What is written is some lines with a line feed after each; only an empty one may be missing at
the end. -/
theorem exists_content_eq {ls : Lines} (hne : ls.texts ≠ []) (h : ∀ l ∈ ls.texts, '\n' ∉ l) :
    ∃ lines, lines ≠ [] ∧ (ls.texts = lines ∨ ls.texts = lines ++ [[]]) ∧
      ls.content = Text.join ['\n'] lines ++ ['\n'] := by
  obtain ⟨lines, last, htexts⟩ := (List.eq_nil_or_concat ls.texts).resolve_left hne
  rw [List.concat_eq_append] at htexts
  by_cases hlast : last = [] ∧ lines ≠ []
  · refine ⟨lines, hlast.2, .inr (by rw [htexts, hlast.1]), ?_⟩
    rw [content, htexts, hlast.1, join_concat hlast.2, endLine, if_pos (by simp)]
  · refine ⟨ls.texts, hne, .inl rfl, ?_⟩
    rw [content, endLine, if_neg]
    intro hend
    obtain ⟨front, hfront⟩ := exists_join_eq lines last
    rw [htexts, hfront] at hend
    by_cases hempty : last = []
    · have hnil : lines = [] := Decidable.byContradiction fun hlines => hlast ⟨hempty, hlines⟩
      rw [hnil, hempty] at hfront
      simp [Text.join] at hfront
      simp [hfront, hempty] at hend
    · rw [List.getLast?_append_of_ne_nil _ hempty] at hend
      exact h last (by simp [htexts]) (List.mem_of_getLast? hend)

/-- **Reading what was written** gives the lines again, without carriage returns at their ends and
perhaps with an empty line more. -/
theorem texts_ofContent_content {ls : Lines} (hne : ls.texts ≠ [])
    (h : ∀ l ∈ ls.texts, '\n' ∉ l) :
    (ofContent ls.content).texts = ls.texts.map dropReturn ∨
      (ofContent ls.content).texts = ls.texts.map dropReturn ++ [[]] := by
  obtain ⟨lines, hlines, htexts, hcontent⟩ := exists_content_eq hne h
  have hmem : ∀ l ∈ lines, '\n' ∉ l := fun l hl =>
    h l (by rcases htexts with h | h <;> simp [h, hl])
  have hread : (ofContent ls.content).texts = lines.map dropReturn ++ [[]] := by
    rw [hcontent, texts_ofContent_join hlines hmem]
  rcases htexts with htexts | htexts
  · right
    rw [hread, htexts]
  · left
    rw [hread, htexts]
    simp [dropReturn]

end Lines

end PinnedActions
