import PinnedActions.Proofs.Pinning.Edit
import PinnedActions.Proofs.Pinning.Renumber
import PinnedActions.Proofs.Workflow.Shape

/-!
# Files without the usages that are out of scope

`onlyInScope` takes the usages out of the files that an operation is not about.  The others keep
their order and get new numbers: as many as there were usages in scope before them (`rank`).  What
is in scope is the same but for the numbers (`inScope_onlyInScope`), and to change it and then take
the rest out is to take the rest out and change it under the new numbers (`applyEdits_onlyInScope`).
-/

set_option autoImplicit false

namespace PinnedActions

namespace Pinning

variable {settings : Settings} {target : Target} {files : List WorkflowFile}

/-- Whether an operation is about a usage. -/
abbrev covers (settings : Settings) (target : Target) (u : Usage) : Bool :=
  isInScope settings target u.action

/-- The file without the usages that an operation is not about. -/
def restrict (settings : Settings) (target : Target) (f : WorkflowFile) : WorkflowFile :=
  { f with usages := f.usages.filter (covers settings target) }

/-- The files without the usages that an operation is not about. -/
def onlyInScope (settings : Settings) (target : Target) (files : List WorkflowFile) :
    List WorkflowFile :=
  files.map (restrict settings target)

/-- The number of usages in scope in front of a usage. -/
def rank (settings : Settings) (target : Target) (files : List WorkflowFile) : Renumbering :=
  fun file index =>
    match files[file]? with
    | some f => (f.usages.take index).countP (covers settings target)
    | none => index

/-! ## Positions in a list and in what is left of it -/

theorem getElem?_filter_countP {α : Type} {p : α → Bool} {l : List α} {i : Nat} {a : α}
    (h : l[i]? = some a) (ha : p a = true) :
    (l.filter p)[(l.take i).countP p]? = some a := by
  induction l generalizing i with
  | nil => cases h
  | cons b l ih =>
    cases i with
    | zero =>
      cases h
      rw [List.take_zero, List.countP_nil, List.filter_cons_of_pos ha, List.getElem?_cons_zero]
    | succ i =>
      rw [List.take_succ_cons, List.countP_cons, List.filter_cons]
      split
      · exact ih h
      · exact ih h

theorem set_filter_countP {α : Type} {p : α → Bool} {l : List α} {i : Nat} {a b : α}
    (h : l[i]? = some a) (ha : p a = true) (hb : p b = true) :
    (l.filter p).set ((l.take i).countP p) b = (l.set i b).filter p := by
  induction l generalizing i with
  | nil => cases h
  | cons c l ih =>
    cases i with
    | zero =>
      cases h
      rw [List.take_zero, List.countP_nil, List.set_cons_zero, List.filter_cons_of_pos ha,
        List.filter_cons_of_pos hb, List.set_cons_zero]
    | succ i =>
      rw [List.take_succ_cons, List.countP_cons, List.set_cons_succ, List.filter_cons,
        List.filter_cons]
      split
      · rw [List.set_cons_succ, ih h]
      · exact ih h

/-! ## Occurrences -/

theorem occurrencesIn_filter (file : Nat) (path : Bytes) (i k : Nat) (us : List Usage) :
    occurrencesIn file path k (us.filter (covers settings target)) =
      ((occurrencesIn file path i us).filter fun o => covers settings target o.usage).map
        fun o => { o with index := k + (us.take (o.index - i)).countP (covers settings target) } := by
  induction us generalizing i k with
  | nil => rfl
  | cons u rest ih =>
    -- in what follows the first usage every number is one more
    have hrest : ∀ o ∈ (occurrencesIn file path (i + 1) rest).filter
        fun o => covers settings target o.usage, o.index - i = (o.index - (i + 1)) + 1 := by
      intro o ho
      have := (mem_occurrencesIn.1 (List.mem_filter.1 ho).1).2.2.1
      omega
    rw [occurrencesIn, List.filter_cons, List.filter_cons]
    split
    · rename_i hu
      rw [occurrencesIn, List.map_cons, Nat.sub_self, List.take_zero, List.countP_nil, Nat.add_zero,
        ih (i + 1) (k + 1)]
      congr 1
      refine List.map_congr_left fun o ho => ?_
      rw [hrest o ho, List.take_succ_cons, List.countP_cons_of_pos hu]
      congr 1
      omega
    · rename_i hu
      rw [ih (i + 1) k]
      refine List.map_congr_left fun o ho => ?_
      rw [hrest o ho, List.take_succ_cons, List.countP_cons_of_neg hu]

/-- **What is in scope is all that is left**, with new numbers. -/
theorem occurrences_onlyInScope (settings : Settings) (target : Target)
    (files : List WorkflowFile) :
    occurrences (onlyInScope settings target files) =
      (inScope settings target files).map (Occurrence.renumber (rank settings target files)) := by
  suffices h : ∀ i, occurrencesFrom i (onlyInScope settings target files) =
      ((occurrencesFrom i files).filter fun o => covers settings target o.usage).map
        (Occurrence.renumber fun file => rank settings target files (file - i)) from h 0
  induction files with
  | nil => exact fun _ => rfl
  | cons f rest ih =>
    intro i
    have hcons : onlyInScope settings target (f :: rest) =
        restrict settings target f :: onlyInScope settings target rest := rfl
    rw [hcons, occurrencesFrom, occurrencesFrom, List.filter_append, List.map_append, ih]
    congr 1
    · rw [restrict, occurrencesIn_filter i f.path 0 0]
      refine List.map_congr_left fun o ho => ?_
      have hfile := (mem_occurrencesIn.1 (List.mem_filter.1 ho).1).1
      simp [Occurrence.renumber, rank, hfile]
    · refine List.map_congr_left fun o ho => ?_
      have hfile := (mem_occurrencesFrom.1 (List.mem_filter.1 ho).1).1
      rw [Occurrence.renumber, Occurrence.renumber, rank, rank,
        show o.file - i = o.file - (i + 1) + 1 by omega, List.getElem?_cons_succ]

theorem inScope_onlyInScope (settings : Settings) (target : Target) (files : List WorkflowFile) :
    inScope settings target (onlyInScope settings target files) =
      (inScope settings target files).map (Occurrence.renumber (rank settings target files)) := by
  rw [inScope, occurrences_onlyInScope, List.filter_eq_self]
  intro o ho
  obtain ⟨o', ho', rfl⟩ := List.mem_map.1 ho
  exact (List.mem_filter.1 ho').2

theorem countDirty_onlyInScope (files : List WorkflowFile) :
    countDirty (onlyInScope settings target files) = countDirty files := by
  rw [countDirty, countDirty, onlyInScope, List.countP_map]
  rfl

/-! ## Edits -/

/-- Whether an edit is about a usage in scope. -/
def IsInScope (settings : Settings) (target : Target) (files : List WorkflowFile) (e : Edit) :
    Prop :=
  ∃ o ∈ inScope settings target files, e.place = o.place

theorem IsInScope.applyEdits {e : Edit} (h : IsInScope settings target files e)
    (edits : List Edit) : IsInScope settings target (applyEdits files edits) e := by
  obtain ⟨o, ho, hplace⟩ := h
  refine ⟨edited edits o, ?_, by rw [hplace, place_edited]⟩
  rw [inScope_applyEdits]
  exact List.mem_map_of_mem ho

/-- To change a usage in scope is to change it in what is left of its file. -/
theorem restrict_repin {f : WorkflowFile} {i : Nat} {u : Usage} (hu : f.usages[i]? = some u)
    (hcovers : covers settings target u = true) (reference comment : Text) :
    ((restrict settings target f).repin ((f.usages.take i).countP (covers settings target))
        reference comment).1 =
      restrict settings target (f.repin i reference comment).1 := by
  have hrepinned : covers settings target (u.repinned reference comment) = true := hcovers
  rw [WorkflowFile.repin_of_some (getElem?_filter_countP hu hcovers),
    WorkflowFile.repin_of_some hu, restrict, restrict]
  congr 1
  exact set_filter_countP hu hcovers hrepinned

theorem applyEdit_onlyInScope {e : Edit} (he : IsInScope settings target files e) :
    applyEdit (onlyInScope settings target files) (e.renumber (rank settings target files)) =
      onlyInScope settings target (applyEdit files e) := by
  obtain ⟨o, ho, hplace⟩ := he
  obtain ⟨⟨f, hf, -, hu⟩, hcovers⟩ := mem_inScope.1 ho
  obtain ⟨hfile, hindex⟩ := Prod.mk.inj hplace
  rw [← hfile] at hf
  rw [← hindex] at hu
  have hrestrict : (onlyInScope settings target files)[e.file]? =
      some (restrict settings target f) := by
    rw [onlyInScope, List.getElem?_map, hf]
    rfl
  have hindex : (e.renumber (rank settings target files)).index =
      (f.usages.take e.index).countP (covers settings target) := by
    rw [Edit.renumber, rank, hf]
  rw [applyEdit_of_some (e := e.renumber _) hrestrict, applyEdit_of_some hf, hindex, onlyInScope,
    onlyInScope, List.map_set]
  congr 1
  exact restrict_repin hu hcovers e.reference e.comment

/-- A change of pin puts no usage into scope and takes none out. -/
theorem map_covers_repin (f : WorkflowFile) (i : Nat) (reference comment : Text) :
    (f.repin i reference comment).1.usages.map (covers settings target) =
      f.usages.map (covers settings target) :=
  WorkflowFile.map_repin_of_unpinned (fun _ => rfl) f i reference comment

theorem rank_applyEdit (e : Edit) :
    rank settings target (applyEdit files e) = rank settings target files := by
  cases hf : files[e.file]? with
  | none => rw [applyEdit_of_none hf]
  | some f =>
    have hcount : ∀ (us : List Usage) (i : Nat), (us.take i).countP (covers settings target) =
        ((us.map (covers settings target)).take i).countP id := fun us i => by
      rw [← List.map_take, List.countP_map]
      rfl
    funext file index
    rw [applyEdit_of_some hf, rank, rank]
    by_cases hfile : e.file = file
    · subst hfile
      obtain ⟨hlt, -⟩ := List.getElem?_eq_some_iff.1 hf
      rw [List.getElem?_set_self hlt, hf]
      simp only
      rw [hcount, hcount, map_covers_repin]
    · rw [List.getElem?_set_ne hfile]

/-- **To change what is in scope and then take the rest out is to take the rest out first**, and
make the changes under the new numbers. -/
theorem applyEdits_onlyInScope {edits : List Edit}
    (h : ∀ e ∈ edits, IsInScope settings target files e) :
    applyEdits (onlyInScope settings target files)
        (edits.map (Edit.renumber (rank settings target files))) =
      onlyInScope settings target (applyEdits files edits) := by
  induction edits generalizing files with
  | nil => rfl
  | cons e rest ih =>
    have hrest : ∀ e' ∈ rest, IsInScope settings target (applyEdit files e) e' := fun e' he' =>
      (h e' (List.mem_cons_of_mem e he')).applyEdits [e]
    rw [List.map_cons, applyEdits, List.foldl_cons, applyEdit_onlyInScope (h e List.mem_cons_self),
      ← rank_applyEdit e]
    exact ih hrest

end Pinning

end PinnedActions
