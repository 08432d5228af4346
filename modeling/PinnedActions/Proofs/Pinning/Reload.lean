import PinnedActions.Pinning.Verify
import PinnedActions.Proofs.Pinning.Edit

/-!
# Reading the files again

An operation works on files in memory; what stays is what is written of them.  `reload` gives the
files as they are read again afterwards, from the new content of those that are dirty and from the
old content of the others.  A file that **tracks** the content that it was read from is read again
with the same usages (`occurrences_reload`), up to the separator that is written for a usage without
one, and for a check that makes no difference (`verify_reload`).
-/

set_option autoImplicit false

namespace PinnedActions

/-- The occurrence with the separator that is written for its usage. -/
def Occurrence.respaced (o : Occurrence) : Occurrence := { o with usage := o.usage.respaced }

/-- Whether what an edit writes is read back. -/
def Edit.Writable (e : Edit) : Prop := Usage.Writable e.reference e.comment

namespace Pinning

/-- The files with some paths and contents. -/
def load (contents : List (Bytes × Text)) : List WorkflowFile :=
  contents.map fun p => WorkflowFile.parse p.1 p.2

/-- The content of a file once it is saved, when it was read from another. -/
def savedContent (content : Text) (f : WorkflowFile) : Text :=
  if f.isDirty then f.content else content

/-- The files as they are read again once they are saved. -/
def reload (contents : List (Bytes × Text)) (files : List WorkflowFile) : List WorkflowFile :=
  load (List.zipWith (fun p f => (p.1, savedContent p.2 f)) contents files)

/-! ## Files and their contents -/

/-- Whether a file comes from a content by changes of pins. -/
structure Tracks (p : Bytes × Text) (f : WorkflowFile) : Prop where
  path : f.path = p.1
  clean : f.isDirty = false → f.lines = Lines.ofContent p.2
  faithful : f.Faithful

theorem tracks_load {contents : List (Bytes × Text)}
    (h : ∀ f ∈ load contents, ∀ u ∈ f.usages, Text.NoQuotes u.action.fullPath) :
    List.Forall₂ Tracks contents (load contents) := by
  rw [load, List.forall₂_map_right_iff, List.forall₂_same]
  exact fun p hp => ⟨rfl, fun _ => rfl,
    WorkflowFile.faithful_parse (h _ (List.mem_map.2 ⟨p, hp, rfl⟩))⟩

theorem Tracks.repin {p : Bytes × Text} {f : WorkflowFile} (h : Tracks p f)
    {reference comment : Text} (hwritable : Usage.Writable reference comment) (i : Nat) :
    Tracks p (f.repin i reference comment).1 where
  path := (WorkflowFile.path_repin f i reference comment).trans h.path
  clean hdirty := by
    have hlines := WorkflowFile.lines_repin_of_not_dirty hdirty
    rw [WorkflowFile.isDirty, hlines] at hdirty
    rw [hlines, h.clean hdirty]
  faithful := h.faithful.repin hwritable i

/-- What every change of pin that can be read back keeps true of a file, edits that can be read back
keep true of all files. -/
theorem forall₂_applyEdits {α : Type} {P : α → WorkflowFile → Prop}
    (hrepin : ∀ a f reference comment i, P a f → Usage.Writable reference comment →
      P a (f.repin i reference comment).1)
    {l : List α} {files : List WorkflowFile} (h : List.Forall₂ P l files) {edits : List Edit}
    (hedits : ∀ e ∈ edits, e.Writable) : List.Forall₂ P l (applyEdits files edits) := by
  induction edits generalizing files with
  | nil => exact h
  | cons e rest ih =>
    have hwritable : e.Writable := hedits e List.mem_cons_self
    have hfirst : List.Forall₂ P l (applyEdit files e) :=
      forall₂_applyEdit h fun a f _ hf => hrepin a f _ _ e.index hf hwritable
    exact ih hfirst fun e' he' => hedits e' (List.mem_cons_of_mem e he')

/-- **Edits keep files on the track of their contents.** -/
theorem tracks_applyEdits {contents : List (Bytes × Text)} {files : List WorkflowFile}
    (h : List.Forall₂ Tracks contents files) {edits : List Edit}
    (hedits : ∀ e ∈ edits, e.Writable) :
    List.Forall₂ Tracks contents (applyEdits files edits) :=
  forall₂_applyEdits (fun _ _ _ _ i hf hwritable => hf.repin hwritable i) h hedits

/-! ## Usages -/

theorem Tracks.usages_savedContent {p : Bytes × Text} {f : WorkflowFile} (h : Tracks p f) :
    (WorkflowFile.parse p.1 (savedContent p.2 f)).usages.map Usage.respaced =
      f.usages.map Usage.respaced := by
  rw [savedContent]
  split
  · exact h.faithful.usages_parse_content p.1
  · rename_i hdirty
    rw [← h.faithful.usages, h.clean (by simpa using hdirty)]
    rfl

theorem map_respaced_occurrencesIn (file : Nat) (path : Bytes) (i : Nat) (us : List Usage) :
    (occurrencesIn file path i us).map Occurrence.respaced =
      occurrencesIn file path i (us.map Usage.respaced) := by
  induction us generalizing i with
  | nil => rfl
  | cons u rest ih =>
    rw [occurrencesIn, List.map_cons, ih]
    rfl

/-- **The usages are read again.** -/
theorem occurrences_reload {contents : List (Bytes × Text)} {files : List WorkflowFile}
    (h : List.Forall₂ Tracks contents files) :
    (occurrences (reload contents files)).map Occurrence.respaced =
      (occurrences files).map Occurrence.respaced := by
  suffices hfrom : ∀ i, (occurrencesFrom i (reload contents files)).map Occurrence.respaced =
      (occurrencesFrom i files).map Occurrence.respaced from hfrom 0
  induction h with
  | nil => exact fun _ => rfl
  | @cons p f contents files hp _ ih =>
    intro i
    have hreload : reload (p :: contents) (f :: files) =
        WorkflowFile.parse p.1 (savedContent p.2 f) :: reload contents files := rfl
    have hpath : (WorkflowFile.parse p.1 (savedContent p.2 f)).path = f.path := hp.path.symm
    rw [hreload, occurrencesFrom, occurrencesFrom, List.map_append, List.map_append, ih,
      map_respaced_occurrencesIn, map_respaced_occurrencesIn, hp.usages_savedContent, hpath]

/-! ## Checks -/

variable {source : Source}

theorem check_respaced (o : Occurrence) : check source o.respaced = check source o := rfl

theorem checkAll_map_respaced (os : List Occurrence) :
    checkAll source (os.map Occurrence.respaced) = checkAll source os := by
  induction os with
  | nil => rfl
  | cons o rest ih => rw [List.map_cons, checkAll, checkAll, ih, check_respaced]

theorem inScope_map_respaced (settings : Settings) (target : Target) (files : List WorkflowFile) :
    (inScope settings target files).map Occurrence.respaced =
      ((occurrences files).map Occurrence.respaced).filter
        fun o => isInScope settings target o.usage.action := by
  rw [inScope, List.filter_map]
  rfl

/-- **A check cannot tell files from what is read again of them.** -/
theorem verify_reload {contents : List (Bytes × Text)} {files : List WorkflowFile}
    (h : List.Forall₂ Tracks contents files) (settings : Settings) :
    verify source settings (reload contents files) = verify source settings files := by
  rw [verify, verify, ← checkAll_map_respaced, inScope_map_respaced, occurrences_reload h,
    ← inScope_map_respaced, checkAll_map_respaced]

end Pinning

end PinnedActions
