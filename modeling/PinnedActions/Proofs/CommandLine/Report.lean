import PinnedActions.CommandLine.Report

/-!
# Which reports can be told

In JSON a path is told in full, so a report can be told if and only if all paths in it are texts
(`isSome_ofIssues`, `isSome_ofFix`, `isSome_ofUpdate`).  Nothing else in a report stands in the way of
that, and a report that names no path can always be told.
-/

set_option autoImplicit false

namespace PinnedActions

/-- Whether some paths are all texts. -/
def Path.AreTexts (paths : List Bytes) : Prop := ∀ path ∈ paths, (Utf8.decode? path).isSome = true

namespace Report

variable {α β : Type}

/-- Several things can be told together if each of them can. -/
theorem isSome_mapM_iff {tell : α → Option β} {told : List α} :
    (told.mapM tell).isSome = true ↔ ∀ a ∈ told, (tell a).isSome = true := by
  induction told with
  | nil => simp
  | cons a rest ih =>
    rw [List.mapM_cons, List.forall_mem_cons, ← ih]
    cases tell a with
    | none => simp
    | some b => cases rest.mapM tell <;> simp

/-- A list of things each of which names a path can be told if the paths are texts. -/
theorem isSome_mapM_iff_areTexts {tell : α → Option β} {path : α → Bytes} {told : List α}
    (htell : ∀ a, (tell a).isSome = (Utf8.decode? (path a)).isSome) :
    (told.mapM tell).isSome = true ↔ Path.AreTexts (told.map path) := by
  rw [isSome_mapM_iff, Path.AreTexts, List.forall_mem_map]
  simp only [htell]

theorem isSome_ofIssue (i : Issue) : (ofIssue i).isSome = (Utf8.decode? i.path).isSome := by
  rw [ofIssue]
  cases Utf8.decode? i.path <;> rfl

theorem isSome_ofWarning (w : Warning) : (ofWarning w).isSome = (Utf8.decode? w.path).isSome := by
  rw [ofWarning]
  cases Utf8.decode? w.path <;> rfl

/-- **What is wrong can be told if its paths are texts.** -/
theorem isSome_ofIssues (issues : List Issue) :
    (ofIssues issues).isSome = true ↔ Path.AreTexts (issues.map Issue.path) := by
  rw [ofIssues, Option.isSome_map, isSome_mapM_iff_areTexts isSome_ofIssue]

theorem isSome_ofWarnings (warnings : List Warning) :
    (ofWarnings warnings).isSome = true ↔ Path.AreTexts (warnings.map Warning.path) := by
  rw [ofWarnings, Option.isSome_map, isSome_mapM_iff_areTexts isSome_ofWarning]

/-- **What a fix did can be told if the paths of its warnings are texts.** -/
theorem isSome_ofFix (r : FixReport) :
    (ofFix r).isSome = true ↔ Path.AreTexts (r.warnings.map Warning.path) := by
  rw [← isSome_ofWarnings, ofFix]
  cases ofWarnings r.warnings <;> rfl

/-- **What an update did can be told if the paths of its warnings are texts.** -/
theorem isSome_ofUpdate (r : UpdateReport) :
    (ofUpdate r).isSome = true ↔ Path.AreTexts (r.warnings.map Warning.path) := by
  rw [← isSome_ofWarnings, ofUpdate]
  cases ofWarnings r.warnings <;> rfl

end Report

end PinnedActions
