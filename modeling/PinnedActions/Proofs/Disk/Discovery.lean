import PinnedActions.Disk.Discovery
import PinnedActions.Proofs.Disk.Locate

/-!
# Discovered files and what saving them does

In a tree with proper names the path of a discovered file leads to that file, and to no link to it
(`Disk.Holds`).  So saving the file rewrites it where it is, and leaves all else on the disk alone;
in particular the other discovered files stay where they are.

* `Path.parts_join` — the parts of a path below a directory.
* `Discovery.exists_holds_of_mem_discover` — where the discovered files are.
* `Discovery.Saved` — the disk after files were saved, compared to the disk before.

Two paths may lead to one file, as the directories that are searched may be links.  The file then has
what was saved last.
-/

set_option autoImplicit false

namespace PinnedActions

/-! ## Paths below directories -/

namespace Path

theorem isName_iff {t : Bytes} : isName t = true ↔ partOf? t = some (.named t) ∧ slash ∉ t := by
  simp [isName]

theorem filterMap_partOf?_of_isName {name : Bytes} (h : isName name = true) :
    (name.splitOn slash).filterMap partOf? = [.named name] := by
  obtain ⟨hpart, hslash⟩ := isName_iff.1 h
  rw [List.splitOn_eq_singleton hslash, List.filterMap_cons_some hpart, List.filterMap_nil]

theorem parts_of_isName {name : Bytes} (h : isName name = true) : parts name = [.named name] := by
  obtain ⟨hpart, hslash⟩ := isName_iff.1 h
  have hdot : name ≠ [dot] := by
    rintro rfl
    cases hpart
  have hrelative : name.head? ≠ some slash := fun hhead => hslash (List.mem_of_mem_head? hhead)
  rw [parts, filterMap_partOf?_of_isName h, List.splitOn_eq_singleton hslash]
  simp [hdot, hrelative]

theorem parts_append {directory : Bytes} (h : directory ≠ []) (t : Bytes) :
    parts (directory ++ slash :: t) = parts directory ++ (t.splitOn slash).filterMap partOf? := by
  have hpieces := List.splitOn_ne_nil slash directory
  have hhead : (directory ++ slash :: t).head? = directory.head? := by
    rw [List.head?_append, List.head?_eq_some_head h, Option.some_or]
  have hfirst : (directory.splitOn slash ++ t.splitOn slash).head? = (directory.splitOn slash).head? := by
    rw [List.head?_append, List.head?_eq_some_head hpieces, Option.some_or]
  rw [parts, parts, List.splitOn_append_cons_self, hhead, hfirst, List.filterMap_append,
    List.append_assoc]

theorem parts_root_append (t : Bytes) :
    parts (slash :: t) = .root :: (t.splitOn slash).filterMap partOf? := by
  rw [parts, List.splitOn_cons_eq_if_modifyHead]
  rfl

/-- The parts of a relative path below a directory are those of the directory and its own, if it does
not say that it starts here. -/
theorem parts_join_of_relative {t : Bytes} (hrelative : t.head? ≠ some slash)
    (hparts : parts t = (t.splitOn slash).filterMap partOf?) (directory : Bytes) :
    parts (join directory t) = parts directory ++ parts t := by
  rw [join, if_neg hrelative]
  split
  · rename_i hnil
    rw [List.getLast?_eq_none_iff.1 hnil]
    rfl
  · rename_i last hlast
    obtain ⟨front, rfl⟩ := List.getLast?_eq_some_iff.1 hlast
    split
    · rename_i hslash
      rw [hslash, List.append_assoc, List.singleton_append]
      cases front with
      | nil =>
        rw [List.nil_append, List.nil_append, parts_root_append, parts_root_append, hparts]
        rfl
      | cons c front =>
        rw [parts_append (List.cons_ne_nil c front), parts_append (List.cons_ne_nil c front), hparts]
        simp [partOf?]
    · rw [parts_append (List.append_ne_nil_of_right_ne_nil front (List.cons_ne_nil last [])), hparts]

/-- **The parts of a path below a directory** are those of the directory and the name. -/
theorem parts_join {name : Bytes} (h : isName name = true) (directory : Bytes) :
    parts (join directory name) = parts directory ++ [.named name] := by
  have hparts := parts_of_isName h
  have hrelative : name.head? ≠ some slash := fun hhead =>
    (isName_iff.1 h).2 (List.mem_of_mem_head? hhead)
  rw [parts_join_of_relative hrelative (hparts.trans (filterMap_partOf?_of_isName h).symm), hparts]

theorem parts_foldl_join {names : List Bytes} (h : ∀ name ∈ names, isName name = true)
    (directory : Bytes) :
    parts (names.foldl join directory) = parts directory ++ names.map .named := by
  induction names generalizing directory with
  | nil => simp
  | cons name rest ih =>
    obtain ⟨hname, hrest⟩ := List.forall_mem_cons.1 h
    rw [List.foldl_cons, ih hrest, parts_join hname, List.map_cons, List.append_assoc,
      List.singleton_append]

end Path

namespace Disk

open Node

variable {d d' : Disk} {path : Bytes} {names : List Bytes} {mode : Nat} {parts : List Part}
  {content : Bytes}

/-! ## Paths that lead to files -/

/-- The place that a path leads to, links being followed. -/
def place? (d : Disk) (path : Bytes) : Option (List Bytes) :=
  match d.locate true path with
  | .ok (names, _) => some names
  | .error _ => none

theorem locate_of_place? (h : d.place? path = some names) :
    d.locate true path = .ok (names, d.tree.get? names) := by
  rw [place?, locate, locateParts] at h
  rw [locate, locateParts]
  split_ifs at h ⊢
  cases htravel : travel d.tree true linkLimit d.current.reverse (Path.parts path) with
  | error e =>
    rw [htravel] at h
    cases h
  | ok names' =>
    rw [htravel] at h
    cases h
    rfl

/-- The text at the end of a path is that of the bytes at the place that the path leads to. -/
theorem decode?_of_readText {text : Text} (hplace : d.place? path = some names)
    (hfile : d.tree.get? names = some (.file content mode)) (h : d.readText path = .ok text) :
    Utf8.decode? content = some text := by
  have hbytes : d.readBytes path = .ok content := by
    rw [readBytes, locate_of_place? hplace, hfile]
    rfl
  rw [readText, hbytes] at h
  cases hdecode : Utf8.decode? content with
  | none => simp [bind, Except.bind, hdecode] at h
  | some t =>
    simp only [bind, Except.bind, hdecode] at h
    cases h
    rfl

/-- Whether a path leads to a file at a place, whether or not a link at its end is followed, and the
directory of the file is there. -/
structure Holds (d : Disk) (path : Bytes) (names : List Bytes) (mode : Nat) : Prop where
  nonempty : path ≠ []
  file : ∃ content, d.tree.get? names = some (.file content mode)
  leads : ∀ followLast,
    Leads d.tree followLast linkLimit d.current.reverse (Path.parts path) names
  parent : ∀ above, Path.parent? (Path.parts path) = some above → d.isDirAt above = true

theorem locateParts_of_leads {followLast : Bool}
    (h : Leads d.tree followLast linkLimit d.current.reverse parts names) :
    d.locateParts followLast parts = .ok (names, d.tree.get? names) := by
  rw [locateParts, leads_iff.1 h]
  rfl

theorem locate_of_leads {followLast : Bool} (hne : path ≠ [])
    (h : Leads d.tree followLast linkLimit d.current.reverse (Path.parts path) names) :
    d.locate followLast path = .ok (names, d.tree.get? names) := by
  rw [locate, if_neg (by simpa using hne), locateParts_of_leads h]

theorem isDirAt_iff : d.isDirAt parts = true ↔
    ∃ names entries, Leads d.tree true linkLimit d.current.reverse parts names ∧
      d.tree.get? names = some (.dir entries) := by
  constructor
  · intro h
    rw [isDirAt, locateParts] at h
    cases htravel : travel d.tree true linkLimit d.current.reverse parts with
    | error e =>
      rw [htravel] at h
      cases h
    | ok names =>
      rw [htravel] at h
      cases hnode : d.tree.get? names with
      | none => simp [bind, Except.bind, pure, Except.pure, hnode] at h
      | some node =>
        simp only [bind, Except.bind, pure, Except.pure, hnode] at h
        cases node with
        | dir entries => exact ⟨names, entries, leads_iff.2 htravel, hnode⟩
        | _ => cases h
  · rintro ⟨names, entries, hleads, hdir⟩
    rw [isDirAt, locateParts_of_leads hleads, hdir]
    rfl

/-- Whether two disks look the same from outside. -/
structure Alike (d d' : Disk) : Prop where
  current : d'.current = d.current
  shape : SameShape d.tree d'.tree

namespace Alike

theorem refl (d : Disk) : Alike d d := ⟨rfl, .refl d.tree⟩

theorem trans {d'' : Disk} (h : Alike d d') (h' : Alike d' d'') : Alike d d'' :=
  ⟨h'.current.trans h.current, h.shape.trans h'.shape⟩

theorem travel_eq (h : Alike d d') (followLast : Bool) (parts : List Part) :
    travel d'.tree followLast linkLimit d'.current.reverse parts =
      travel d.tree followLast linkLimit d.current.reverse parts := by
  rw [h.current, travel_congr h.shape]

theorem place?_eq (h : Alike d d') (path : Bytes) : d'.place? path = d.place? path := by
  rw [place?, place?, locate, locate, locateParts, locateParts, h.travel_eq]
  split_ifs
  · rfl
  · cases travel d.tree true linkLimit d.current.reverse (Path.parts path) <;> rfl

theorem isDirAt_of (h : Alike d d') (hdir : d.isDirAt parts = true) : d'.isDirAt parts = true := by
  obtain ⟨names, entries, hleads, hentries⟩ := isDirAt_iff.1 hdir
  obtain ⟨entries', hentries'⟩ := h.shape.exists_dir hentries
  exact isDirAt_iff.2 ⟨names, entries',
    leads_iff.2 ((h.travel_eq true parts).trans (leads_iff.1 hleads)), hentries'⟩

/-- A path leads to the same file on disks that look the same. -/
theorem holds (h : Alike d d') (hholds : d.Holds path names mode) : d'.Holds path names mode where
  nonempty := hholds.nonempty
  file := by
    obtain ⟨content, hfile⟩ := hholds.file
    exact h.shape.exists_file hfile
  leads followLast :=
    leads_iff.2 ((h.travel_eq followLast _).trans (leads_iff.1 (hholds.leads followLast)))
  parent above habove := h.isDirAt_of (hholds.parent above habove)

end Alike

namespace Holds

theorem locate (h : d.Holds path names mode) (followLast : Bool) :
    d.locate followLast path = .ok (names, d.tree.get? names) :=
  locate_of_leads h.nonempty (h.leads followLast)

theorem place? (h : d.Holds path names mode) : d.place? path = some names := by
  rw [Disk.place?, h.locate]

theorem modeFor (h : d.Holds path names mode) : d.modeFor path = mode := by
  obtain ⟨content, hfile⟩ := h.file
  rw [Disk.modeFor, node?, h.locate, hfile]

end Holds

/-! ## Writing -/

theorem makeDirs_of_isDirAt (h : d.isDirAt parts = true) (levels : Nat) :
    d.makeDirs levels parts = .ok d := by
  obtain ⟨names, entries, hleads, hdir⟩ := isDirAt_iff.1 h
  obtain ⟨names', node, hitself, hnode⟩ := hleads.itself hdir
  have hmake : d.makeDir parts = .error .exists := by
    rw [makeDir, locateParts_of_leads hitself, hnode]
    rfl
  cases parts with
  | nil => cases levels <;> rfl
  | cons part rest =>
    rw [makeDirs.eq_def]
    simp only [hmake, h, if_true]

/-- **Writing to a path that leads to a file rewrites the file where it is.** -/
theorem Holds.write (h : d.Holds path names mode) (content : Bytes) :
    d.write path content = .ok (d.setNode names (.file content mode)) := by
  obtain ⟨old, hfile⟩ := h.file
  unfold Disk.write
  simp only
  split
  · rename_i above habove
    rw [makeDirs_of_isDirAt (h.parent above habove)]
    simp only [bind, Except.bind, h.locate, hfile, h.modeFor]
  · simp only [bind, Except.bind, h.locate, hfile, h.modeFor]

/-- A file that was rewritten leaves the disk as it looks. -/
theorem alike_setNode (h : d.tree.get? names = some (.file content mode)) (content' : Bytes) :
    Alike d (d.setNode names (.file content' mode)) :=
  ⟨rfl, sameShape_put h⟩

end Disk

/-! ## Discovered files -/

namespace Discovery

open Disk Node

variable {d d' : Disk} {path p : Bytes} {root : Bytes} {keep : Bytes → Bool} {names : List Bytes}
  {mode : Nat}

/-- Whether some names lead from a node to a file, and a path is made of them below another. -/
def IsBelow (path p : Bytes) (node : Node) : Prop :=
  ∃ names content mode, node.get? names = some (.file content mode) ∧
    (∀ name ∈ names, Path.isName name = true) ∧ p = names.foldl Path.join path

mutual

theorem isBelow_of_mem_filesBelow (path p : Bytes) : ∀ node : Node, node.isProper = true →
    p ∈ filesBelow path node → IsBelow path p node
  | .file content mode, _, h =>
    ⟨[], content, mode, rfl, nofun, List.mem_singleton.1 h⟩
  | .link _, _, h => nomatch h
  | .other .., _, h => nomatch h
  | .dir entries, hproper, h => by
    obtain ⟨name, node, hname, hlookup, names, content, mode, hfile, hnames, hp⟩ :=
      isBelow_of_mem_filesIn path p entries hproper h
    refine ⟨name :: names, content, mode, ?_, List.forall_mem_cons.2 ⟨hname, hnames⟩, hp⟩
    rw [get?, hlookup]
    exact hfile

theorem isBelow_of_mem_filesIn (path p : Bytes) : ∀ entries : List (Bytes × Node),
    areProper entries = true → p ∈ filesIn path entries →
      ∃ name node, Path.isName name = true ∧ entries.lookup name = some node ∧
        IsBelow (Path.join path name) p node
  | [], _, h => nomatch h
  | (name, node) :: rest, hproper, h => by
    obtain ⟨hname, hfirst, hnode, hrest⟩ := areProper_cons.1 hproper
    rcases List.mem_append.1 h with h | h
    · refine ⟨name, node, hname, ?_, isBelow_of_mem_filesBelow _ p node hnode h⟩
      rw [lookup_cons_eq, if_pos rfl]
    · obtain ⟨name', node', hname', hlookup, hbelow⟩ := isBelow_of_mem_filesIn path p rest hrest h
      refine ⟨name', node', hname', ?_, hbelow⟩
      obtain ⟨front, back, heq, -⟩ := List.lookup_eq_some_iff.1 hlookup
      have hmem : (name', node') ∈ rest := by simp [heq]
      rw [lookup_cons_eq, if_neg (hfirst _ hmem), hlookup]

end

theorem leads_of_node? {node : Node} (h : d.node? path = some node) :
    ∃ names, Leads d.tree true linkLimit d.current.reverse (Path.parts path) names ∧
      d.tree.get? names = some node := by
  rw [node?, locate, locateParts] at h
  split_ifs at h
  cases htravel : travel d.tree true linkLimit d.current.reverse (Path.parts path) with
  | error e =>
    rw [htravel] at h
    cases h
  | ok names =>
    rw [htravel] at h
    exact ⟨names, leads_iff.2 htravel, h⟩

/-- **The path of a file below a directory leads to the file.** -/
theorem holds_of_leads {place below : List Bytes} {entries : List (Bytes × Node)}
    {content : Bytes}
    (h : Leads d.tree true linkLimit d.current.reverse (Path.parts path) place)
    (hdir : d.tree.get? place = some (.dir entries))
    (hfile : (Node.dir entries).get? below = some (.file content mode))
    (hbelow : ∀ name ∈ below, Path.isName name = true) :
    d.Holds (below.foldl Path.join path) (place ++ below) mode := by
  have hparts := Path.parts_foldl_join hbelow path
  obtain ⟨front, last, rfl⟩ : ∃ front last, below = front ++ [last] := by
    refine ((List.eq_nil_or_concat below).resolve_left ?_).imp fun front ⟨last, h⟩ =>
      ⟨last, h.trans List.concat_eq_append⟩
    rintro rfl
    cases hfile
  refine ⟨?_, ⟨content, ?_⟩, fun followLast => ?_, fun above habove => ?_⟩
  · intro hnil
    have hnone : Path.parts [] = [] := rfl
    rw [hnil, hnone] at hparts
    simp at hparts
  · rw [get?_append, hdir]
    exact hfile
  · rw [hparts]
    exact h.append hdir (by simp) hfile nofun
  · rw [hparts, List.map_append, ← List.append_assoc, Path.parent?] at habove
    simp only [List.map_cons, List.map_nil, List.getLast?_concat, List.dropLast_concat,
      Option.some.injEq] at habove
    subst habove
    obtain ⟨inner, hinner⟩ := exists_dir_of_get?_append (List.cons_ne_nil last []) hfile
    rw [isDirAt_iff]
    cases front with
    | nil => exact ⟨place, entries, by simpa using h, hdir⟩
    | cons name front =>
      refine ⟨_, inner, h.append hdir (List.cons_ne_nil name front) hinner nofun, ?_⟩
      rw [get?_append, hdir]
      exact hinner

/-- What a search through a directory finds is below the directory. -/
theorem exists_below_of_mem_scan (hproper : d.tree.isProper = true) (h : p ∈ scan d path keep) :
    ∃ place entries, d.node? path = some (.dir entries) ∧
      Leads d.tree true linkLimit d.current.reverse (Path.parts path) place ∧
      d.tree.get? place = some (.dir entries) ∧ IsBelow path p (.dir entries) ∧ keep p = true := by
  rw [scan] at h
  split at h
  · rename_i entries hnode
    obtain ⟨place, hleads, hdir⟩ := leads_of_node? hnode
    obtain ⟨hmem, hkeep⟩ := List.mem_filter.1 h
    rw [← filesBelow] at hmem
    exact ⟨place, entries, hnode, hleads, hdir,
      isBelow_of_mem_filesBelow path p _ (isProper_of_get? hproper hdir) hmem, hkeep⟩
  · cases h

theorem exists_holds_of_mem_scan (hproper : d.tree.isProper = true) (h : p ∈ scan d path keep) :
    ∃ names mode, d.Holds p names mode := by
  obtain ⟨place, entries, -, hleads, hdir, ⟨names, content, mode, hfile, hnames, rfl⟩, -⟩ :=
    exists_below_of_mem_scan hproper h
  exact ⟨_, mode, holds_of_leads hleads hdir hfile hnames⟩

/-- **The paths of discovered files lead to them.** -/
theorem exists_holds_of_mem_discover (hproper : d.tree.isProper = true)
    (h : p ∈ discover d root) : ∃ names mode, d.Holds p names mode := by
  rcases List.mem_append.1 ((List.mergeSort_perm _ _).subset h) with h | h
  · exact exists_holds_of_mem_scan hproper h
  · exact exists_holds_of_mem_scan hproper h

/-! ## Loading -/

/-- The file at a path, when it is there and is text. -/
def file? (d : Disk) (path : Bytes) : Option WorkflowFile :=
  (d.readText path).toOption.map (WorkflowFile.parse path)

theorem eq_of_loadPaths {paths : List Bytes} {files : List WorkflowFile}
    (h : loadPaths d paths = .ok files) : files = paths.filterMap (file? d) := by
  induction paths generalizing files with
  | nil =>
    cases h
    rfl
  | cons path rest ih =>
    rw [loadPaths] at h
    split at h
    · rename_i content hread
      have hfile : file? d path = some (WorkflowFile.parse path content) := by
        rw [file?, hread]
        rfl
      cases hrest : loadPaths d rest with
      | error e =>
        rw [hrest] at h
        cases h
      | ok others =>
        rw [hrest] at h
        cases h
        rw [List.filterMap_cons_some hfile, ← ih hrest]
    · rename_i hread
      have hfile : file? d path = none := by
        rw [file?, hread]
        rfl
      rw [List.filterMap_cons_none hfile, ih h]
    · cases h

/-- The files that are loaded are the discovered ones that are text. -/
theorem eq_of_loadAll {files : List WorkflowFile} (h : loadAll d root = .ok files) :
    files = (discover d root).filterMap (file? d) :=
  eq_of_loadPaths h

theorem exists_content_of_file? {f : WorkflowFile} (h : file? d path = some f) :
    ∃ content, d.readText path = .ok content ∧ f = WorkflowFile.parse path content := by
  rw [file?] at h
  cases hread : d.readText path with
  | error e =>
    rw [hread] at h
    cases h
  | ok content =>
    rw [hread] at h
    cases h
    exact ⟨content, rfl, rfl⟩

/-- A file that is loaded is what its content says, and its path is a discovered one. -/
theorem exists_content_of_loadAll {files : List WorkflowFile} (h : loadAll d root = .ok files)
    {f : WorkflowFile} (hf : f ∈ files) :
    f.path ∈ discover d root ∧
      ∃ content, d.readText f.path = .ok content ∧ f = WorkflowFile.parse f.path content := by
  rw [eq_of_loadAll h] at hf
  obtain ⟨path, hpath, hfile⟩ := List.mem_filterMap.1 hf
  obtain ⟨content, hread, rfl⟩ := exists_content_of_file? hfile
  exact ⟨hpath, content, hread, rfl⟩

/-! ## Saving -/

/-- The disk with a file rewritten at a place, if the file has a changed line. -/
def rewrite (d : Disk) (names : List Bytes) (mode : Nat) (f : WorkflowFile) : Disk :=
  if f.isDirty then d.setNode names (.file (Utf8.encode f.content) mode) else d

theorem save_of_holds {f : WorkflowFile} (h : d.Holds f.path names mode) :
    save d f = .ok (rewrite d names mode f, f.isDirty) := by
  rw [save, rewrite]
  cases f.isDirty with
  | false => rfl
  | true =>
    rw [if_pos rfl, if_pos rfl, h.write]
    rfl

theorem alike_rewrite {f : WorkflowFile} (h : d.Holds f.path names mode) :
    Alike d (rewrite d names mode f) := by
  obtain ⟨content, hfile⟩ := h.file
  rw [rewrite]
  split
  · exact alike_setNode hfile _
  · exact .refl d

/-- The disk after files were saved one after the other, compared to the disk before.  All looks the
same from outside.  A file to which no path of a file with a changed line leads has the bytes that it
had; and one to which such a path leads has the content of the last file that was saved there. -/
structure Saved (d : Disk) (files : List WorkflowFile) (d' : Disk) : Prop where
  alike : Alike d d'
  kept : ∀ names content mode, d.tree.get? names = some (.file content mode) →
    (∀ f ∈ files, f.isDirty = true → d.place? f.path ≠ some names) →
      d'.tree.get? names = some (.file content mode)
  rewritten : ∀ before f after, files = before ++ f :: after → f.isDirty = true →
    (∀ g ∈ after, g.isDirty = true → d.place? g.path ≠ d.place? f.path) →
      ∃ names content mode, d.place? f.path = some names ∧
        d.tree.get? names = some (.file content mode) ∧
        d'.tree.get? names = some (.file (Utf8.encode f.content) mode)

/-- Saving files without a changed line does nothing. -/
theorem Saved.of_clean {files : List WorkflowFile} (hclean : ∀ f ∈ files, f.isDirty = false) :
    Saved d files d where
  alike := .refl d
  kept _ _ _ hfile _ := hfile
  rewritten before f after heq hdirty _ := by
    rw [hclean f (heq ▸ List.mem_append_right before List.mem_cons_self)] at hdirty
    cases hdirty

theorem Saved.cons {f : WorkflowFile} {rest : List WorkflowFile}
    (hholds : d.Holds f.path names mode) (h : Saved (rewrite d names mode f) rest d') :
    Saved d (f :: rest) d' := by
  have halike := alike_rewrite hholds
  obtain ⟨old, hfile⟩ := hholds.file
  refine ⟨halike.trans h.alike, fun names' content mode' hfile' hnone => ?_,
    fun before g after heq hdirty hlast => ?_⟩
  · refine h.kept names' content mode' ?_ fun g hg hdirty => ?_
    · rw [rewrite]
      split
      · rename_i hdirty
        have hne := hnone f List.mem_cons_self hdirty
        rw [hholds.place?] at hne
        exact get?_put_of_ne hfile (fun heq => hne (congrArg some heq.symm)) hfile'
      · exact hfile'
    · rw [halike.place?_eq]
      exact hnone g (List.mem_cons_of_mem f hg) hdirty
  · cases before with
    | nil =>
      obtain ⟨rfl, rfl⟩ := List.cons.inj heq
      refine ⟨names, old, mode, hholds.place?, hfile, h.kept _ _ _ ?_ fun g hg hgdirty => ?_⟩
      · rw [rewrite, if_pos hdirty]
        exact get?_put hfile
      · rw [halike.place?_eq, ← hholds.place?]
        exact hlast g hg hgdirty
    | cons first before =>
      obtain ⟨rfl, rfl⟩ := List.cons.inj heq
      obtain ⟨names', content, mode', hplace, hthere, hnew⟩ :=
        h.rewritten before g after rfl hdirty fun g' hg' hdirty' => by
          rw [halike.place?_eq, halike.place?_eq]
          exact hlast g' hg' hdirty'
      obtain ⟨content', hbefore⟩ := halike.shape.symm.exists_file hthere
      rw [halike.place?_eq] at hplace
      exact ⟨names', content', mode', hplace, hbefore, hnew⟩

end Discovery

end PinnedActions
