import PinnedActions.Proofs.Workflow.Lines

/-!
# Loading what was loaded and written

A content is loaded, written, and loaded again.  Writing puts a line feed after each line, and a
carriage return that was the last character of a line is then in front of a line feed, where loading
takes it for a part of the break.  So each round takes one carriage return off the end of each line
(`texts_reloaded`), and a round changes nothing else but the empty line after a last break that was
missing.

Lines that end in a carriage return come from two of them before a line feed, and from one at the
end of a content (`forall_getLast?_ne_return_iff`).  Without these the lines are loaded again as they
were, and a second round writes what the first one wrote; with them neither is so
(`lines_are_loaded_again`).
-/

set_option autoImplicit false

namespace PinnedActions

namespace Lines

/-! ## Carriage returns in a content -/

/-- The last character stays the last. -/
theorem getLast?_unifyBreaks (t : Text) : (unifyBreaks t).getLast? = t.getLast? := by
  fun_induction unifyBreaks t with
  | case1 rest ih => simp [List.getLast?_cons, ih]
  | case2 c rest _ ih => simp [List.getLast?_cons, ih]
  | case3 => rfl

theorem not_prefix_of_no_break {c : Char} {rest : Text}
    (h : ∀ rest', c = '\r' → rest = '\n' :: rest' → False) : ¬['\r', '\n'] <+: c :: rest := by
  rintro ⟨rest', heq⟩
  cases heq
  exact h rest' rfl rfl

theorem unifyBreaks_eq_self_iff {t : Text} : unifyBreaks t = t ↔ ¬['\r', '\n'] <:+: t := by
  fun_induction unifyBreaks t with
  | case1 rest ih =>
    have hinside : ['\r', '\n'] <:+: '\r' :: '\n' :: rest :=
      (List.prefix_append ['\r', '\n'] rest).isInfix
    simp [hinside]
  | case2 c rest hc ih => simp [List.infix_cons_iff, not_prefix_of_no_break hc, ih]
  | case3 => simp

/-- A line feed comes first where one came first, perhaps after a carriage return. -/
theorem prefix_unifyBreaks_iff {t : Text} :
    ['\n'] <+: unifyBreaks t ↔ ['\n'] <+: t ∨ ['\r', '\n'] <+: t := by
  fun_cases unifyBreaks t with
  | case1 rest => simp
  | case2 c rest hc => simp [not_prefix_of_no_break hc, List.cons_prefix_cons]
  | case3 => simp

/-- A carriage return is left before a line feed where there were two of them. -/
theorem infix_unifyBreaks_iff {t : Text} :
    ['\r', '\n'] <:+: unifyBreaks t ↔ ['\r', '\r', '\n'] <:+: t := by
  fun_induction unifyBreaks t with
  | case1 rest ih => simp [List.infix_cons_iff, List.cons_prefix_cons, ih]
  | case2 c rest hc ih =>
    have hnot := not_prefix_of_no_break hc
    rw [List.cons_prefix_cons] at hnot
    rw [List.infix_cons_iff, List.infix_cons_iff, ih, List.cons_prefix_cons, List.cons_prefix_cons,
      prefix_unifyBreaks_iff]
    tauto
  | case3 => simp

theorem suffix_singleton_iff {t : Text} {c : Char} : [c] <:+ t ↔ t.getLast? = some c := by
  rw [List.getLast?_eq_some_iff]
  exact exists_congr fun _ => eq_comm

/-- The line feed at the end completes a break after a carriage return. -/
theorem infix_endLine_iff {t : Text} :
    ['\r', '\n'] <:+: endLine t ↔ ['\r', '\n'] <:+: t ∨ t.getLast? = some '\r' := by
  rw [endLine]
  split
  · rename_i hlast
    simp [hlast]
  · have hpair : ['\r'] ++ ['\n'] <:+ t ++ ['\n'] ↔ ['\r'] <:+ t := List.suffix_append_self_iff
    rw [List.singleton_append] at hpair
    rw [List.infix_concat_iff, hpair, suffix_singleton_iff, or_comm]

/-! ## Lines that end in a carriage return -/

theorem map_dropReturn_eq_self_iff {lines : List Text} :
    lines.map dropReturn = lines ↔ ∀ l ∈ lines, l.getLast? ≠ some '\r' := by
  have hid : lines.map dropReturn = lines ↔ lines.map dropReturn = lines.map id := by
    rw [List.map_id]
  rw [hid, List.map_inj_left]
  exact forall₂_congr fun l _ => dropReturn_eq_self_iff

theorem infix_join_iff {lines : List Text} (hne : lines ≠ []) (h : ∀ l ∈ lines, '\n' ∉ l) :
    ['\r', '\n'] <:+: Text.join ['\n'] lines ++ ['\n'] ↔
      ¬∀ l ∈ lines, l.getLast? ≠ some '\r' := by
  rw [← map_dropReturn_eq_self_iff, ← not_iff_not, not_not, ← unifyBreaks_eq_self_iff]
  constructor
  · intro hsame
    have hread := texts_ofContent_join hne h
    rw [ofContent, hsame, splitOn_join_concat hne h] at hread
    exact (List.append_cancel_right hread).symm
  · intro hsame
    rw [unifyBreaks_join hne h, hsame]

/-! ## Loading what was written -/

theorem content_ofContent (content : Text) :
    (ofContent content).content = endLine (unifyBreaks content) := by
  rw [Lines.content, ofContent, Text.join, List.intercalate_splitOn]

/-- What is loaded is written as some lines with a line feed after each.  If there was one at the end
of the content, the last line is the empty one after it. -/
theorem exists_lines (content : Text) : ∃ lines, lines ≠ [] ∧ (∀ l ∈ lines, '\n' ∉ l) ∧
    (ofContent content).texts = lines ++ (if content.getLast? = some '\n' then [[]] else []) ∧
    (ofContent content).content = Text.join ['\n'] lines ++ ['\n'] := by
  rw [content_ofContent, endLine, getLast?_unifyBreaks, ofContent]
  split
  · rename_i hlast
    rw [← getLast?_unifyBreaks, List.getLast?_eq_some_iff] at hlast
    obtain ⟨front, hfront⟩ := hlast
    have hjoin : Text.join ['\n'] (front.splitOn '\n') = front := List.intercalate_splitOn '\n'
    have hne : front.splitOn '\n' ≠ [] := List.splitOn_ne_nil '\n' front
    have hbreaks : ∀ l ∈ front.splitOn '\n', '\n' ∉ l := fun l => Text.not_mem_of_mem_splitOn
    refine ⟨front.splitOn '\n', hne, hbreaks, ?_, ?_⟩
    · rw [hfront, ← splitOn_join_concat hne hbreaks, hjoin]
    · rw [hjoin, hfront]
  · refine ⟨_, List.splitOn_ne_nil '\n' (unifyBreaks content), fun l => Text.not_mem_of_mem_splitOn,
      (List.append_nil _).symm, ?_⟩
    rw [Text.join, List.intercalate_splitOn]

/-- The empty line after the break that is missing at the end of a content. -/
def missingLine (content : Text) : List Text :=
  if content.getLast? = some '\n' then [] else [[]]

/-- **A round takes one carriage return off the end of each line.** -/
theorem texts_reloaded (content : Text) :
    (ofContent (ofContent content).content).texts =
      (ofContent content).texts.map dropReturn ++ missingLine content := by
  obtain ⟨lines, hne, hbreaks, htexts, hcontent⟩ := exists_lines content
  rw [hcontent, texts_ofContent_join hne hbreaks, htexts, missingLine]
  split
  · simp [dropReturn]
  · simp

/-- Whether no line break of a content has two carriage returns, and the content does not end in
one. -/
def HasPlainBreaks (content : Text) : Prop :=
  ¬['\r', '\r', '\n'] <:+: content ∧ content.getLast? ≠ some '\r'

theorem forall_getLast?_ne_return_iff {content : Text} :
    (∀ l ∈ (ofContent content).texts, l.getLast? ≠ some '\r') ↔ HasPlainBreaks content := by
  obtain ⟨lines, hne, hbreaks, htexts, hcontent⟩ := exists_lines content
  have hlines : (∀ l ∈ (ofContent content).texts, l.getLast? ≠ some '\r') ↔
      ∀ l ∈ lines, l.getLast? ≠ some '\r' := by
    rw [htexts, List.forall_mem_append]
    refine and_iff_left fun l hl => ?_
    split at hl
    · simp [List.mem_singleton.1 hl]
    · cases hl
  have hwritten := infix_join_iff hne hbreaks
  rw [← hcontent, content_ofContent, infix_endLine_iff, infix_unifyBreaks_iff,
    getLast?_unifyBreaks] at hwritten
  rw [hlines, ← not_iff_not, ← hwritten, HasPlainBreaks]
  tauto

/-- A second round writes what the first one wrote, without the breaks that were left in it. -/
theorem content_reloaded (content : Text) :
    (ofContent (ofContent content).content).content = unifyBreaks (ofContent content).content := by
  obtain ⟨lines, -, -, -, hcontent⟩ := exists_lines content
  rw [content_ofContent (ofContent content).content, endLine, getLast?_unifyBreaks, if_pos]
  rw [hcontent]
  simp

/-- **What was loaded and written is loaded with the same lines**, the empty one after a missing
break apart, exactly when its breaks are plain; and then, and only then, a second round writes the
same.  In any case no line loses more than one carriage return at its end. -/
theorem lines_are_loaded_again (content : Text) :
    (ofContent (ofContent content).content).texts =
      (ofContent content).texts.map dropReturn ++ missingLine content ∧
    ((ofContent (ofContent content).content).texts =
      (ofContent content).texts ++ missingLine content ↔ HasPlainBreaks content) ∧
    ((ofContent (ofContent content).content).content = (ofContent content).content ↔
      HasPlainBreaks content) := by
  refine ⟨texts_reloaded content, ?_, ?_⟩
  · rw [texts_reloaded, List.append_left_inj, map_dropReturn_eq_self_iff,
      forall_getLast?_ne_return_iff]
  · rw [content_reloaded, unifyBreaks_eq_self_iff, content_ofContent, infix_endLine_iff,
      infix_unifyBreaks_iff, getLast?_unifyBreaks, HasPlainBreaks, not_or]

/-- Of two carriage returns before a line feed one is left after a round, and none after two. -/
theorem second_return_is_lost :
    (ofContent "a\r\r\nb\n".toList).texts = ["a\r".toList, ['b'], []] ∧
    ¬((ofContent (ofContent "a\r\r\nb\n".toList).content).texts =
        (ofContent "a\r\r\nb\n".toList).texts ∨
      (ofContent (ofContent "a\r\r\nb\n".toList).content).texts =
        (ofContent "a\r\r\nb\n".toList).texts ++ [[]]) ∧
    (ofContent (ofContent "a\r\r\nb\n".toList).content).content ≠
      (ofContent "a\r\r\nb\n".toList).content := by
  decide

end Lines

end PinnedActions
