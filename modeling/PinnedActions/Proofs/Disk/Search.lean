import PinnedActions.Proofs.Disk.Discovery
import PinnedActions.Proofs.Disk.PathOrder
import PinnedActions.Proofs.Text.Cut
import PinnedActions.Proofs.Text.Utf8
import Mathlib.Data.List.Nodup

/-!
# What is discovered

`Discovery.discover` goes through two directories of a project in the tree, name by name.  What it
finds is stated here by paths, as somebody would who looks at the disk from outside: a path is
discovered when it leads to a regular file, all that it goes through below the directory are
directories, and the file has the right name (`Disk.HasFile`, `IsWorkflowName`, `IsManifestName`).
A link will do on the way to the directory, and nowhere below it.  Names are bytes, so a file is also
discovered if its name is no text; a pipe, a socket or a device never is.

* `HasFile.exists_file`, `hasFile_of_get?` — the files that paths lead to in this way are those that
  names lead to in the tree.
* `mem_scan_iff` — so these are what a search through a directory finds.
* `pairwise_discover` — no path is found twice, as the names in a directory differ; so the
  discovered paths are in the strict order of paths.
* `loadPaths_eq` — every discovered file can be read, and those that are text are loaded.

`discovery_is_exact` has all of it.  The entries of a directory may come in any order; a tree with
the same entries in another order is another tree, and what is said holds of both.
-/

set_option autoImplicit false

namespace PinnedActions

/-! ## Names of files -/

/-- Whether a name has the ending of a workflow, with something before the dot. -/
def IsWorkflowName (name : Bytes) : Prop :=
  ∃ stem, stem ≠ [] ∧ (name = stem ++ Utf8.bytes ".yml" ∨ name = stem ++ Utf8.bytes ".yaml")

/-- Whether a name is that of an action manifest. -/
def IsManifestName (name : Bytes) : Prop :=
  name = Utf8.bytes "action.yml" ∨ name = Utf8.bytes "action.yaml"

namespace Path

variable {name : Bytes}

theorem join_ne_nil (h : isName name = true) (directory : Bytes) : join directory name ≠ [] := by
  intro hnil
  have hparts := parts_join h directory
  rw [hnil] at hparts
  have hlength := congrArg List.length hparts
  simp [parts, partOf?] at hlength

theorem fileName?_join (h : isName name = true) (directory : Bytes) :
    fileName? (join directory name) = some name := by
  rw [fileName?, parts_join h, List.getLast?_concat]

/-- **The ending of a name** is what follows its last dot, if something stands before that. -/
theorem extension?_join_eq_some_iff (h : isName name = true) (directory : Bytes) {ending : Bytes}
    (hdot : dot ∉ ending) :
    extension? (join directory name) = some ending ↔
      ∃ stem, stem ≠ [] ∧ name = stem ++ dot :: ending := by
  have hextension : extension? (join directory name) = (Text.cutLast? dot name).bind
      fun cut => if cut.1.isEmpty then none else some cut.2 := by
    rw [extension?, fileName?_join h]
    rfl
  rw [hextension, Option.bind_eq_some_iff]
  constructor
  · rintro ⟨⟨stem, after⟩, hcut, hsome⟩
    rw [Option.ite_none_left_eq_some, Option.some.injEq] at hsome
    obtain ⟨hstem, rfl⟩ := hsome
    exact ⟨stem, by simpa using hstem, (Text.eq_of_cutLast? hcut).1⟩
  · rintro ⟨stem, hstem, rfl⟩
    exact ⟨(stem, ending), Text.cutLast?_append hdot stem, by simpa using hstem⟩

end Path

namespace Discovery

theorem isWorkflowFile_join {name : Bytes} (h : Path.isName name = true) (directory : Bytes) :
    isWorkflowFile (Path.join directory name) = true ↔ IsWorkflowName name := by
  rw [isWorkflowFile]
  simp only [Bool.or_eq_true, decide_eq_true_eq]
  rw [Path.extension?_join_eq_some_iff h directory (by decide),
    Path.extension?_join_eq_some_iff h directory (by decide), ← exists_or]
  exact exists_congr fun stem => and_or_left.symm

theorem isActionManifest_join {name : Bytes} (h : Path.isName name = true) (directory : Bytes) :
    isActionManifest (Path.join directory name) = true ↔ IsManifestName name := by
  rw [isActionManifest, Path.fileName?_join h, IsManifestName]
  simp only [Bool.or_eq_true, decide_eq_true_eq, Option.some.injEq]

end Discovery

/-! ## Files below a directory -/

namespace Disk

open Node

variable {d : Disk} {directory path : Bytes} {way place : List Bytes} {name : Bytes}
  {entries : List (Bytes × Node)} {node : Node}

/-- What is at the end of a path, a link there not being followed. -/
def nodeItself? (d : Disk) (path : Bytes) : Option Node :=
  match d.locate false path with
  | .ok (_, node) => node
  | .error _ => none

/-- Whether there is a regular file of a name at the end of a way down from a directory.  The
directory may be reached through links.  All that the way goes through below it are directories
themselves, and what is at its end is a file itself. -/
structure HasFile (d : Disk) (directory : Bytes) (way : List Bytes) (name : Bytes) : Prop where
  named : ∀ n ∈ way ++ [name], Path.isName n = true
  start : d.isDir directory = true
  through : ∀ front, front <+: way → front ≠ [] →
    ∃ entries, d.nodeItself? (front.foldl Path.join directory) = some (.dir entries)
  file : ∃ content mode,
    d.nodeItself? (Path.join (way.foldl Path.join directory) name) = some (.file content mode)

theorem isDir_iff : d.isDir path = true ↔ ∃ entries, d.node? path = some (.dir entries) := by
  rw [Disk.isDir]
  cases d.node? path with
  | none => simp
  | some node => cases node <;> simp [Node.isDir]

theorem isDir_of_leads (hne : path ≠ [])
    (hleads : Leads d.tree true linkLimit d.current.reverse (Path.parts path) place)
    (hdir : d.tree.get? place = some (.dir entries)) : d.isDir path = true := by
  refine isDir_iff.2 ⟨entries, ?_⟩
  rw [node?, locate_of_leads hne hleads, hdir]

section Below

/-! A directory and its place in the tree. -/

variable (hleads : Leads d.tree true linkLimit d.current.reverse (Path.parts directory) place)
  (hdir : d.tree.get? place = some (.dir entries))

include hleads hdir

/-- What is under a name in a directory is what the path of the name leads to. -/
theorem nodeItself?_join (hname : Path.isName name = true) :
    d.nodeItself? (Path.join directory name) = entries.lookup name := by
  have hthere := hleads.concat hdir name
  rw [← Path.parts_join hname] at hthere
  rw [nodeItself?, locate_of_leads (Path.join_ne_nil hname directory) hthere]
  exact (get?_concat place name d.tree).trans (by rw [hdir]; rfl)

/-- What names lead to below a directory, the path that is made of them leads to, be a link at its
end followed or not. -/
theorem leads_foldl_join {followLast : Bool} (hnamed : ∀ n ∈ way, Path.isName n = true)
    (hway : way ≠ []) (hnode : (Node.dir entries).get? way = some node)
    (hlink : ∀ target, node ≠ .link target) :
    Leads d.tree followLast linkLimit d.current.reverse
        (Path.parts (way.foldl Path.join directory)) (place ++ way) ∧
      d.tree.get? (place ++ way) = some node := by
  rw [Path.parts_foldl_join hnamed, get?_append, hdir]
  exact ⟨hleads.append hdir hway hnode hlink, hnode⟩

theorem nodeItself?_foldl_join (hnamed : ∀ n ∈ way, Path.isName n = true) (hway : way ≠ [])
    (hnode : (Node.dir entries).get? way = some node) (hlink : ∀ target, node ≠ .link target) :
    d.nodeItself? (way.foldl Path.join directory) = some node := by
  have hne : way.foldl Path.join directory ≠ [] := by
    rcases List.eq_nil_or_concat way with hnil | ⟨front, name, rfl⟩
    · exact absurd hnil hway
    · rw [List.concat_eq_append, List.foldl_append]
      exact Path.join_ne_nil (hnamed name (by simp)) _
  obtain ⟨hthere, hget⟩ := leads_foldl_join hleads hdir hnamed hway hnode hlink
  rw [nodeItself?, locate_of_leads hne hthere, hget]

/-- **A file below a directory is one in the tree**, under the same names. -/
theorem HasFile.exists_file (h : d.HasFile directory way name) :
    ∃ content mode, (Node.dir entries).get? (way ++ [name]) = some (.file content mode) := by
  induction way generalizing directory place entries with
  | nil =>
    have hfile := h.file
    rw [List.foldl_nil, nodeItself?_join hleads hdir (h.named name (by simp))] at hfile
    simpa [get?] using hfile
  | cons n rest ih =>
    have hname := h.named n List.mem_cons_self
    obtain ⟨inner, hinner⟩ := h.through [n] ⟨rest, rfl⟩ (List.cons_ne_nil n [])
    have hlookup := (nodeItself?_join hleads hdir hname).symm.trans hinner
    have hget : (Node.dir entries).get? [n] = some (.dir inner) := by
      rw [get?, hlookup]
      rfl
    obtain ⟨hleads', hdir'⟩ : Leads d.tree true linkLimit d.current.reverse
          (Path.parts (Path.join directory n)) (place ++ [n]) ∧
        d.tree.get? (place ++ [n]) = some (.dir inner) :=
      leads_foldl_join hleads hdir (List.forall_mem_singleton.2 hname) (List.cons_ne_nil n []) hget
        nofun
    have hrest : d.HasFile (Path.join directory n) rest name := {
      named := fun m hm => h.named m (List.mem_cons_of_mem n hm)
      start := isDir_of_leads (Path.join_ne_nil hname directory) hleads' hdir'
      through := fun front hfront hne =>
        h.through (n :: front) (List.cons_prefix_cons.2 ⟨rfl, hfront⟩) (List.cons_ne_nil n front)
      file := h.file }
    obtain ⟨content, mode, hfile⟩ := ih hleads' hdir' hrest
    refine ⟨content, mode, ?_⟩
    rw [List.cons_append, get?, hlookup]
    exact hfile

/-- A file in the tree is one below the directory. -/
theorem hasFile_of_get? (hstart : d.isDir directory = true)
    (hnamed : ∀ n ∈ way ++ [name], Path.isName n = true) {content : Bytes} {mode : Nat}
    (hfile : (Node.dir entries).get? (way ++ [name]) = some (.file content mode)) :
    d.HasFile directory way name where
  named := hnamed
  start := hstart
  through front hfront hne := by
    obtain ⟨more, rfl⟩ := hfront
    obtain ⟨inner, hinner⟩ := exists_dir_of_get?_append (by simp) ((List.append_assoc ..) ▸ hfile)
    exact ⟨inner, nodeItself?_foldl_join hleads hdir (fun n hn => hnamed n (by simp [hn])) hne
      hinner nofun⟩
  file := by
    refine ⟨content, mode, ?_⟩
    have hentry := nodeItself?_foldl_join hleads hdir hnamed (by simp) hfile nofun
    rwa [List.foldl_append] at hentry

end Below

end Disk

/-! ## Searching through a directory -/

namespace Discovery

open Disk Node

variable {d : Disk} {root directory path p : Bytes} {keep : Bytes → Bool} {node : Node}
  {entries : List (Bytes × Node)} {paths : List Bytes}

theorem mem_filesIn_of_lookup {name : Bytes} (h : entries.lookup name = some node)
    (hp : p ∈ filesBelow (Path.join path name) node) : p ∈ filesIn path entries := by
  induction entries with
  | nil => cases h
  | cons e rest ih =>
    obtain ⟨n, first⟩ := e
    rw [lookup_cons_eq] at h
    rw [filesIn, List.mem_append]
    split at h
    · rename_i hn
      cases h
      exact .inl (hn ▸ hp)
    · exact .inr (ih h)

/-- What names lead to is passed by. -/
theorem mem_filesBelow_of_get? {names : List Bytes} {content : Bytes} {mode : Nat}
    (h : node.get? names = some (.file content mode)) :
    names.foldl Path.join path ∈ filesBelow path node := by
  induction names generalizing node path with
  | nil =>
    cases h
    rw [filesBelow]
    exact List.mem_singleton_self path
  | cons name rest ih =>
    obtain ⟨entries, child, rfl, hlookup, hchild⟩ := exists_entry_of_get? h
    rw [filesBelow]
    exact mem_filesIn_of_lookup hlookup (ih hchild)

/-- **A search through a directory finds the files below it** that are to be kept. -/
theorem mem_scan_iff (hproper : d.tree.isProper = true) :
    p ∈ scan d directory keep ↔ ∃ way name, d.HasFile directory way name ∧
      p = Path.join (way.foldl Path.join directory) name ∧ keep p = true := by
  constructor
  · intro h
    obtain ⟨place, entries, hnode, hleads, hdir, hbelow, hkeep⟩ :=
      exists_below_of_mem_scan hproper h
    obtain ⟨names, content, mode, hfile, hnamed, rfl⟩ := hbelow
    obtain ⟨way, name, rfl⟩ : ∃ way name, names = way ++ [name] := by
      rcases List.eq_nil_or_concat names with rfl | ⟨way, name, rfl⟩
      · cases hfile
      · exact ⟨way, name, List.concat_eq_append⟩
    rw [List.foldl_append] at hkeep ⊢
    exact ⟨way, name, hasFile_of_get? hleads hdir (isDir_iff.2 ⟨entries, hnode⟩) hnamed hfile,
      rfl, hkeep⟩
  · rintro ⟨way, name, h, rfl, hkeep⟩
    obtain ⟨entries, hnode⟩ := isDir_iff.1 h.start
    obtain ⟨place, hleads, hdir⟩ := leads_of_node? hnode
    obtain ⟨content, mode, hfile⟩ := h.exists_file hleads hdir
    have hmem : (way ++ [name]).foldl Path.join directory ∈ filesBelow directory (.dir entries) :=
      mem_filesBelow_of_get? hfile
    rw [List.foldl_append, filesBelow] at hmem
    rw [scan, hnode]
    exact List.mem_filter.2 ⟨hmem, hkeep⟩

/-- The parts of the path of a file below a directory. -/
theorem parts_of_mem_scan (hproper : d.tree.isProper = true) (h : p ∈ scan d directory keep) :
    ∃ names : List Bytes, Path.parts p = Path.parts directory ++ names.map .named := by
  obtain ⟨way, name, hfile, rfl, -⟩ := (mem_scan_iff hproper).1 h
  refine ⟨way ++ [name], ?_⟩
  rw [← Path.parts_foldl_join hfile.named, List.foldl_append]
  rfl

/-! ## Once each -/

/-- The parts of the path of a file below an entry of a directory. -/
theorem IsBelow.parts_eq {name : Bytes} (h : IsBelow (Path.join path name) p node)
    (hname : Path.isName name = true) :
    ∃ more, Path.parts p = Path.parts path ++ .named name :: more := by
  obtain ⟨names, -, -, -, hnamed, rfl⟩ := h
  exact ⟨names.map .named, by
    rw [Path.parts_foldl_join hnamed, Path.parts_join hname, List.append_assoc,
      List.singleton_append]⟩

mutual

theorem nodup_parts_filesBelow (path : Bytes) : ∀ node : Node, node.isProper = true →
    ((filesBelow path node).map Path.parts).Nodup
  | .file .., _ => List.nodup_singleton _
  | .link _, _ => List.nodup_nil
  | .other .., _ => List.nodup_nil
  | .dir entries, hproper => nodup_parts_filesIn path entries hproper

theorem nodup_parts_filesIn (path : Bytes) : ∀ entries : List (Bytes × Node),
    areProper entries = true → ((filesIn path entries).map Path.parts).Nodup
  | [], _ => List.nodup_nil
  | (name, node) :: rest, hproper => by
    obtain ⟨hname, hfirst, hnode, hrest⟩ := areProper_cons.1 hproper
    rw [filesIn, List.map_append, List.nodup_append]
    refine ⟨nodup_parts_filesBelow _ node hnode, nodup_parts_filesIn path rest hrest,
      List.forall_mem_map.2 fun p hp => List.forall_mem_map.2 fun q hq heq => ?_⟩
    -- the name after the path tells a file below the first entry from one below another
    obtain ⟨more, hmore⟩ := (isBelow_of_mem_filesBelow _ p node hnode hp).parts_eq hname
    obtain ⟨name', node', hname', hlookup, hbelow⟩ := isBelow_of_mem_filesIn path q rest hrest hq
    obtain ⟨more', hmore'⟩ := hbelow.parts_eq hname'
    rw [hmore, hmore', List.append_cancel_left_eq, List.cons.injEq, Part.named.injEq] at heq
    obtain ⟨front, back, hsplit, -⟩ := List.lookup_eq_some_iff.1 hlookup
    exact hfirst (name', node') (by simp [hsplit]) heq.1.symm

end

theorem nodup_parts_scan (hproper : d.tree.isProper = true) (directory : Bytes)
    (keep : Bytes → Bool) : ((scan d directory keep).map Path.parts).Nodup := by
  rw [scan]
  split
  · rename_i entries hnode
    obtain ⟨place, -, hdir⟩ := leads_of_node? hnode
    have hnodup := nodup_parts_filesIn directory entries (isProper_of_get? hproper hdir)
    exact hnodup.sublist (List.filter_sublist.map Path.parts)
  · exact List.nodup_nil

theorem parts_workflowsPath (root : Bytes) : Path.parts (workflowsPath root) =
    Path.parts root ++ [.named (Utf8.bytes ".github"), .named (Utf8.bytes "workflows")] := by
  rw [workflowsPath, Path.parts_join_of_relative (by decide) (by decide)]
  rfl

theorem parts_actionsPath (root : Bytes) : Path.parts (actionsPath root) =
    Path.parts root ++ [.named (Utf8.bytes ".github"), .named (Utf8.bytes "actions")] := by
  rw [actionsPath, Path.parts_join_of_relative (by decide) (by decide)]
  rfl

/-- No two discovered paths have the same parts. -/
theorem nodup_parts_discover (hproper : d.tree.isProper = true) (root : Bytes) :
    ((discover d root).map Path.parts).Nodup := by
  refine ((List.mergeSort_perm _ _).map Path.parts).nodup_iff.2 ?_
  rw [List.map_append, List.nodup_append]
  refine ⟨nodup_parts_scan hproper _ _, nodup_parts_scan hproper _ _,
    List.forall_mem_map.2 fun p hp => List.forall_mem_map.2 fun q hq heq => ?_⟩
  obtain ⟨names, hnames⟩ := parts_of_mem_scan hproper hp
  obtain ⟨names', hnames'⟩ := parts_of_mem_scan hproper hq
  rw [hnames, hnames', parts_workflowsPath, parts_actionsPath, List.append_assoc,
    List.append_assoc, List.append_cancel_left_eq] at heq
  cases heq

/-- **The discovered paths are in the strict order of paths.** -/
theorem pairwise_discover (hproper : d.tree.isProper = true) (root : Bytes) :
    (discover d root).Pairwise fun p q => Path.before p q = true := by
  have hle : ∀ p q, (!Path.before q p) = true ↔ Path.code p ≤ Path.code q := fun p q => by
    rw [Bool.not_eq_true', Bool.eq_false_iff, Ne, Path.before_iff, not_lt]
  have htrans : ∀ p q r, (!Path.before q p) = true → (!Path.before r q) = true →
      (!Path.before r p) = true :=
    fun p q r hpq hqr => (hle p r).2 (((hle p q).1 hpq).trans ((hle q r).1 hqr))
  have htotal : ∀ p q, (!Path.before q p || !Path.before p q) = true := fun p q => by
    rw [Bool.or_eq_true, hle, hle]
    exact le_total _ _
  have hsorted : (discover d root).Pairwise fun p q => (!Path.before q p) = true :=
    List.pairwise_mergeSort htrans htotal _
  have hdistinct := List.pairwise_map.1 (nodup_parts_discover hproper root)
  refine (hsorted.and hdistinct).imp fun {p q} h => ?_
  rw [Path.before_iff]
  exact lt_of_le_of_ne ((hle p q).1 h.1) (Path.code_inj.not.2 h.2)

/-- There is one list of the discovered paths in this order. -/
theorem discover_eq_of_perm (hproper : d.tree.isProper = true)
    (hsorted : paths.Pairwise fun p q => Path.before p q = true)
    (hperm : (scan d (workflowsPath root) isWorkflowFile ++
      scan d (actionsPath root) isActionManifest).Perm paths) : discover d root = paths := by
  refine List.Perm.eq_of_pairwise (fun p q _ _ hpq hqp => ?_) (pairwise_discover hproper root)
    hsorted ((List.mergeSort_perm _ _).trans hperm)
  rw [Path.before_iff] at hpq hqp
  exact absurd hqp hpq.asymm

/-! ## Loading -/

theorem file?_of_readBytes {content : Bytes} (h : d.readBytes p = .ok content) :
    file? d p = (Utf8.decode? content).map (WorkflowFile.parse p) := by
  rw [file?, readText, h]
  simp only [bind, Except.bind]
  cases Utf8.decode? content <;> rfl

/-- What can be read is loaded if it is text, and passed over otherwise. -/
theorem loadPaths_eq (h : ∀ p ∈ paths, ∃ content, d.readBytes p = .ok content) :
    loadPaths d paths = .ok (paths.filterMap (file? d)) := by
  induction paths with
  | nil => rfl
  | cons p rest ih =>
    obtain ⟨⟨content, hcontent⟩, hrest⟩ := List.forall_mem_cons.1 h
    have hfile := file?_of_readBytes hcontent
    rw [loadPaths, ih hrest, readText, hcontent]
    simp only [bind, Except.bind]
    cases hdecode : Utf8.decode? content with
    | none =>
      rw [hdecode] at hfile
      rw [List.filterMap_cons_none hfile]
    | some t =>
      rw [hdecode] at hfile
      rw [List.filterMap_cons_some hfile]
      rfl

theorem map_path_filterMap_file? (d : Disk) (paths : List Bytes) :
    (paths.filterMap (file? d)).map WorkflowFile.path =
      paths.filter fun p => (file? d p).isSome := by
  rw [List.map_filterMap, ← List.filterMap_eq_filter]
  refine List.filterMap_congr fun p _ => ?_
  rw [Option.guard]
  cases hfile : file? d p with
  | none => rfl
  | some f =>
    obtain ⟨content, -, rfl⟩ := exists_content_of_file? hfile
    rfl

/-- A discovered file is there, and can be read. -/
theorem exists_file_of_mem_discover (hproper : d.tree.isProper = true) (h : p ∈ discover d root) :
    ∃ content mode, d.nodeItself? p = some (.file content mode) ∧ d.readBytes p = .ok content := by
  obtain ⟨names, mode, hholds⟩ := exists_holds_of_mem_discover hproper h
  obtain ⟨content, hfile⟩ := hholds.file
  refine ⟨content, mode, ?_, ?_⟩
  · rw [nodeItself?, hholds.locate, hfile]
  · rw [readBytes, hholds.locate, hfile]
    rfl

/-- What is loaded from a discovered path is what its bytes encode. -/
theorem file?_eq_some_iff (hproper : d.tree.isProper = true) (h : p ∈ discover d root)
    {f : WorkflowFile} : file? d p = some f ↔ ∃ text mode,
      d.nodeItself? p = some (.file (Utf8.encode text) mode) ∧ f = WorkflowFile.parse p text := by
  obtain ⟨content, mode, hentry, hbytes⟩ := exists_file_of_mem_discover hproper h
  rw [file?_of_readBytes hbytes, Option.map_eq_some_iff, hentry]
  constructor
  · rintro ⟨text, htext, rfl⟩
    rw [Utf8.decode?_eq_some_iff.1 htext]
    exact ⟨text, mode, rfl, rfl⟩
  · rintro ⟨text, mode', hsame, rfl⟩
    cases hsame
    exact ⟨text, Utf8.decode?_encode text, rfl⟩

/-! ## All of it -/

/-- Whether a path is that of a workflow or an action manifest of a project. -/
inductive IsProjectFile (d : Disk) (root : Bytes) : Bytes → Prop where
  | workflow {way : List Bytes} {name : Bytes} (h : d.HasFile (workflowsPath root) way name)
      (hname : IsWorkflowName name) :
      IsProjectFile d root (Path.join (way.foldl Path.join (workflowsPath root)) name)
  | manifest {way : List Bytes} {name : Bytes} (h : d.HasFile (actionsPath root) way name)
      (hname : IsManifestName name) :
      IsProjectFile d root (Path.join (way.foldl Path.join (actionsPath root)) name)

/-- **The workflows and the action manifests of a project are discovered.** -/
theorem mem_discover_iff (hproper : d.tree.isProper = true) :
    p ∈ discover d root ↔ IsProjectFile d root p := by
  rw [discover, List.mem_mergeSort, List.mem_append, mem_scan_iff hproper, mem_scan_iff hproper]
  constructor
  · rintro (⟨way, name, h, rfl, hkeep⟩ | ⟨way, name, h, rfl, hkeep⟩)
    · exact .workflow h ((isWorkflowFile_join (h.named name (by simp)) _).1 hkeep)
    · exact .manifest h ((isActionManifest_join (h.named name (by simp)) _).1 hkeep)
  · rintro (⟨h, hname⟩ | ⟨h, hname⟩)
    · exact .inl ⟨_, _, h, rfl, (isWorkflowFile_join (h.named _ (by simp)) _).2 hname⟩
    · exact .inr ⟨_, _, h, rfl, (isActionManifest_join (h.named _ (by simp)) _).2 hname⟩

/-- **Exactly the right files are discovered, once each.**  The discovered paths are in the strict
order of paths, and they are those of the workflows and the action manifests of the project.  All of
them that are text are loaded, in that order, and nothing else is. -/
theorem discovery_is_exact (hproper : d.tree.isProper = true) (root : Bytes) :
    (discover d root).Pairwise (fun p q => Path.before p q = true) ∧
    (∀ p, p ∈ discover d root ↔ IsProjectFile d root p) ∧
    ∃ files, loadAll d root = .ok files ∧
      (files.map WorkflowFile.path).Sublist (discover d root) ∧
      (∀ p ∈ discover d root, p ∈ files.map WorkflowFile.path ↔
        ∃ text mode, d.nodeItself? p = some (.file (Utf8.encode text) mode)) ∧
      ∀ f ∈ files, ∃ text mode, d.nodeItself? f.path = some (.file (Utf8.encode text) mode) ∧
        f = WorkflowFile.parse f.path text := by
  have hload : loadAll d root = .ok ((discover d root).filterMap (file? d)) :=
    loadPaths_eq fun p hp => by
      obtain ⟨content, -, -, hbytes⟩ := exists_file_of_mem_discover hproper hp
      exact ⟨content, hbytes⟩
  refine ⟨pairwise_discover hproper root, fun p => mem_discover_iff hproper, _, hload, ?_,
    fun p hp => ?_, fun f hf => ?_⟩
  · rw [map_path_filterMap_file?]
    exact List.filter_sublist
  · rw [map_path_filterMap_file?, List.mem_filter, and_iff_right hp, Option.isSome_iff_exists]
    constructor
    · rintro ⟨f, hfile⟩
      obtain ⟨text, mode, hentry, -⟩ := (file?_eq_some_iff hproper hp).1 hfile
      exact ⟨text, mode, hentry⟩
    · rintro ⟨text, mode, hentry⟩
      exact ⟨_, (file?_eq_some_iff hproper hp).2 ⟨text, mode, hentry, rfl⟩⟩
  · obtain ⟨p, hp, hfile⟩ := List.mem_filterMap.1 hf
    obtain ⟨text, mode, hentry, rfl⟩ := (file?_eq_some_iff hproper hp).1 hfile
    exact ⟨text, mode, hentry, rfl⟩

/-- A project whose workflows are elsewhere.  Among them are a directory that is called like a file,
a file without anything before its ending, one whose name is no text, a pipe, and links to a file and
back up; and among the actions are one that is not text and a link to another one. -/
def mixedDisk : Disk where
  tree := .dir [
    (Utf8.bytes "p", .dir [(Utf8.bytes ".github", .dir [
      (Utf8.bytes "workflows", .link (Utf8.bytes "../../shared")),
      (Utf8.bytes "actions", .dir [
        (Utf8.bytes "setup", .dir [
          (Utf8.bytes "action.yml", .file (Utf8.bytes "- uses: a/b@v1") 0o644),
          (Utf8.bytes "helper.yml", .file [] 0o644)]),
        (Utf8.bytes "again", .link (Utf8.bytes "setup")),
        (Utf8.bytes "action.yaml", .file [0xFF] 0o644)])])]),
    (Utf8.bytes "shared", .dir [
      (Utf8.bytes "ci-2.yml", .file [] 0o644),
      (Utf8.bytes "ci.yml", .dir [(Utf8.bytes "a.yaml", .file [] 0o644)]),
      (Utf8.bytes "ci", .dir [(Utf8.bytes "b.yml", .file [] 0o644)]),
      (Utf8.bytes ".yml", .file [] 0o644),
      (0xFF :: Utf8.bytes ".yml", .file [] 0o644),
      (Utf8.bytes "pipe.yml", .other 0o644 (some [])),
      (Utf8.bytes "alias.yml", .link (Utf8.bytes "ci-2.yml")),
      (Utf8.bytes "loop", .link (Utf8.bytes "/shared"))])]
  current := []

/-- The files of this project, in the order of paths. -/
def mixedPaths : List Bytes := [Utf8.bytes "/p/.github/actions/action.yaml",
  Utf8.bytes "/p/.github/actions/setup/action.yml", Utf8.bytes "/p/.github/workflows/ci/b.yml",
  Utf8.bytes "/p/.github/workflows/ci-2.yml", Utf8.bytes "/p/.github/workflows/ci.yml/a.yaml",
  Utf8.bytes "/p/.github/workflows/" ++ 0xFF :: Utf8.bytes ".yml"]

theorem discovery_is_exact_of_mixedDisk :
    mixedDisk.tree.isProper = true ∧ discover mixedDisk (Utf8.bytes "/p") = mixedPaths ∧
    mixedPaths.Pairwise (fun p q => Path.before p q = true) ∧
    (∀ p, p ∈ mixedPaths ↔ IsProjectFile mixedDisk (Utf8.bytes "/p") p) ∧
    ∃ files, loadAll mixedDisk (Utf8.bytes "/p") = .ok files ∧
      (files.map WorkflowFile.path).Sublist mixedPaths ∧
      (∀ p ∈ mixedPaths, p ∈ files.map WorkflowFile.path ↔
        ∃ text mode, mixedDisk.nodeItself? p = some (.file (Utf8.encode text) mode)) ∧
      ∀ f ∈ files, ∃ text mode,
        mixedDisk.nodeItself? f.path = some (.file (Utf8.encode text) mode) ∧
          f = WorkflowFile.parse f.path text := by
  have hproper : mixedDisk.tree.isProper = true := by decide +kernel
  have hpaths : discover mixedDisk (Utf8.bytes "/p") = mixedPaths :=
    discover_eq_of_perm hproper (by decide +kernel) (List.isPerm_iff.1 (by decide +kernel))
  have h := discovery_is_exact hproper (Utf8.bytes "/p")
  rw [hpaths] at h
  exact ⟨hproper, hpaths, h⟩

end Discovery

end PinnedActions
