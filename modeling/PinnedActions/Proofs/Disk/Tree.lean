import PinnedActions.Disk.Node
import PinnedActions.Disk.Path
import Mathlib.Tactic.SplitIfs

/-!
# Rewriting files in trees

A place in a tree is a sequence of names.  A file that is given another content where it is leaves all
else alone: what is at each place looks the same from outside (`SameShape`), and every other file is
what it was.

* `get?_put` and `get?_put_of_ne` — what is found after a file was rewritten.
* `sameShape_put` — the shape of the tree is kept.
* `isProper` — whether the entries of all directories have names that a path can be made of, and no
  two entries of a directory the same.  Every tree on a real disk is so.
-/

set_option autoImplicit false

namespace PinnedActions

/-- Whether bytes can be the name of an entry: between slashes they stand for themselves. -/
def Path.isName (t : Bytes) : Bool := partOf? t = some (.named t) && slash ∉ t

namespace Node

variable {t new old : Node} {names other : List Bytes} {content content' : Bytes} {mode : Nat}

/-! ## What is at a place -/

theorem get?_append (names more : List Bytes) (t : Node) :
    t.get? (names ++ more) = (t.get? names).bind (·.get? more) := by
  induction names generalizing t with
  | nil => rfl
  | cons name rest ih =>
    cases t with
    | dir entries =>
      rw [List.cons_append, get?, get?]
      cases entries.lookup name with
      | none => rfl
      | some child => exact ih child
    | _ => rfl

/-- The entry of a node under a name.  Only a directory has entries. -/
def child? (name : Bytes) : Node → Option Node
  | .dir entries => entries.lookup name
  | _ => none

theorem get?_concat (names : List Bytes) (name : Bytes) (t : Node) :
    t.get? (names ++ [name]) = (t.get? names).bind (child? name) := by
  rw [get?_append]
  congr 1
  funext node
  cases node with
  | dir entries =>
    rw [get?, child?]
    cases entries.lookup name <;> rfl
  | _ => rfl

theorem lookup_cons_eq (name n : Bytes) (node : Node) (rest : List (Bytes × Node)) :
    ((name, node) :: rest).lookup n = if n = name then some node else rest.lookup n := by
  rw [List.lookup_cons]
  by_cases h : n = name
  · rw [if_pos h, beq_iff_eq.2 h]
  · rw [if_neg h, beq_eq_false_iff_ne.2 h]

theorem lookup_setEntry (name n : Bytes) (node : Node) (entries : List (Bytes × Node)) :
    (setEntry name node entries).lookup n = if n = name then some node else entries.lookup n := by
  induction entries with
  | nil => exact lookup_cons_eq name n node []
  | cons e rest ih =>
    obtain ⟨m, first⟩ := e
    rw [setEntry]
    split
    · rename_i hm
      rw [lookup_cons_eq, lookup_cons_eq, hm]
      split_ifs <;> rfl
    · rename_i hm
      rw [lookup_cons_eq, lookup_cons_eq, ih]
      by_cases h : n = m
      · rw [if_pos h, if_pos h, if_neg (h ▸ hm)]
      · rw [if_neg h, if_neg h]

/-- What is found below a directory after something was put below one of its entries. -/
theorem get?_put_cons {name : Bytes} {rest : List Bytes} {entries : List (Bytes × Node)} {child : Node}
    (h : entries.lookup name = some child) (n : Bytes) (more : List Bytes) :
    (put new (name :: rest) (.dir entries)).get? (n :: more) =
      if n = name then (put new rest child).get? more else (dir entries).get? (n :: more) := by
  rw [put, get?, lookup_setEntry, h, Option.getD_some]
  split
  · rfl
  · rfl

/-- Only a directory has something below it. -/
theorem exists_entry_of_get? {name : Bytes} {rest : List Bytes} (h : t.get? (name :: rest) = some old) :
    ∃ entries child, t = .dir entries ∧ entries.lookup name = some child ∧
      child.get? rest = some old := by
  cases t with
  | dir entries =>
    obtain ⟨child, hchild, h⟩ := Option.bind_eq_some_iff.1 h
    exact ⟨entries, child, rfl, hchild, h⟩
  | _ => cases h

/-- What something is below is a directory. -/
theorem exists_dir_of_get?_append {more : List Bytes} (hmore : more ≠ [])
    (h : t.get? (names ++ more) = some old) : ∃ entries, t.get? names = some (.dir entries) := by
  rw [get?_append] at h
  obtain ⟨node, hnode, hbelow⟩ := Option.bind_eq_some_iff.1 h
  obtain ⟨name, rest, rfl⟩ := List.exists_cons_of_ne_nil hmore
  obtain ⟨entries, -, rfl, -⟩ := exists_entry_of_get? hbelow
  exact ⟨entries, hnode⟩

/-- What was put where something was is there. -/
theorem get?_put (h : t.get? names = some old) : (put new names t).get? names = some new := by
  induction names generalizing t with
  | nil => rfl
  | cons name rest ih =>
    obtain ⟨entries, child, rfl, hchild, h⟩ := exists_entry_of_get? h
    rw [get?_put_cons hchild, if_pos rfl]
    exact ih h

/-- Another file is what it was. -/
theorem get?_put_of_ne (h : t.get? names = some (.file content mode)) (hne : other ≠ names)
    {mode' : Nat} (hother : t.get? other = some (.file content' mode')) :
    (put new names t).get? other = some (.file content' mode') := by
  induction names generalizing t other with
  | nil =>
    cases h
    cases other with
    | nil => exact absurd rfl hne
    | cons n more => cases hother
  | cons name rest ih =>
    obtain ⟨entries, child, rfl, hchild, hchildfile⟩ := exists_entry_of_get? h
    cases other with
    | nil => cases hother
    | cons n more =>
      rw [get?_put_cons hchild]
      split
      · rename_i hn
        subst hn
        rw [get?, hchild] at hother
        exact ih hchildfile (fun heq => hne (by rw [heq])) hother
      · exact hother

/-! ## Shapes -/

/-- What a node is from outside: a file with its permissions, a link with its target, a directory,
or something else that is what it is. -/
def face : Node → Node
  | .file _ mode => .file [] mode
  | .dir _ => .dir []
  | node => node

/-- Whether two trees look the same at every place. -/
def SameShape (t t' : Node) : Prop := ∀ names, (t.get? names).map face = (t'.get? names).map face

namespace SameShape

theorem refl (t : Node) : SameShape t t := fun _ => rfl

theorem trans {t t' t'' : Node} (h : SameShape t t') (h' : SameShape t' t'') : SameShape t t'' :=
  fun names => (h names).trans (h' names)

theorem symm {t t' : Node} (h : SameShape t t') : SameShape t' t := fun names => (h names).symm

theorem exists_face {t t' node : Node} (h : SameShape t t') (hnode : t.get? names = some node) :
    ∃ node', t'.get? names = some node' ∧ node'.face = node.face := by
  have hface := h names
  rw [hnode, Option.map_some] at hface
  exact Option.map_eq_some_iff.1 hface.symm

theorem exists_file {t t' : Node} (h : SameShape t t')
    (hfile : t.get? names = some (.file content mode)) :
    ∃ content', t'.get? names = some (.file content' mode) := by
  obtain ⟨node, hnode, hface⟩ := h.exists_face hfile
  cases node with
  | file content' mode' =>
    cases hface
    exact ⟨content', hnode⟩
  | _ => cases hface

theorem exists_dir {t t' : Node} (h : SameShape t t') {entries : List (Bytes × Node)}
    (hdir : t.get? names = some (.dir entries)) : ∃ entries', t'.get? names = some (.dir entries') := by
  obtain ⟨node, hnode, hface⟩ := h.exists_face hdir
  cases node with
  | dir entries' => exact ⟨entries', hnode⟩
  | _ => cases hface

end SameShape

/-- **A file that is rewritten leaves the shape of the tree as it is.** -/
theorem sameShape_put (h : t.get? names = some (.file content mode)) :
    SameShape t (put (.file content' mode) names t) := by
  intro other
  induction names generalizing t other with
  | nil =>
    cases h
    cases other with
    | nil => rfl
    | cons n more => rfl
  | cons name rest ih =>
    obtain ⟨entries, child, rfl, hchild, h⟩ := exists_entry_of_get? h
    cases other with
    | nil => rfl
    | cons n more =>
      rw [get?_put_cons hchild]
      split
      · rename_i hn
        rw [hn, get?, hchild]
        exact ih h more
      · rfl

/-! ## Names -/

mutual

/-- Whether the entries of all directories are properly named. -/
def isProper : Node → Bool
  | .file .. => true
  | .link _ => true
  | .dir entries => areProper entries
  | .other .. => true

/-- Whether entries have different names that a path can be made of, and so have those below. -/
def areProper : List (Bytes × Node) → Bool
  | [] => true
  | (name, node) :: rest =>
    Path.isName name && !rest.any (·.1 = name) && isProper node && areProper rest

end

theorem areProper_cons {name : Bytes} {node : Node} {rest : List (Bytes × Node)} :
    areProper ((name, node) :: rest) = true ↔ Path.isName name = true ∧
      (∀ e ∈ rest, e.1 ≠ name) ∧ node.isProper = true ∧ areProper rest = true := by
  rw [areProper]
  simp [and_assoc]

theorem isProper_of_lookup {name : Bytes} {node : Node} {entries : List (Bytes × Node)}
    (hproper : areProper entries = true) (h : entries.lookup name = some node) :
    node.isProper = true := by
  induction entries with
  | nil => cases h
  | cons e rest ih =>
    obtain ⟨n, first⟩ := e
    obtain ⟨-, -, hfirst, hrest⟩ := areProper_cons.1 hproper
    rw [lookup_cons_eq] at h
    split at h
    · cases h
      exact hfirst
    · exact ih hrest h

/-- A part of a properly named tree is properly named. -/
theorem isProper_of_get? {node : Node} (hproper : t.isProper = true) (h : t.get? names = some node) :
    node.isProper = true := by
  induction names generalizing t with
  | nil =>
    cases h
    exact hproper
  | cons name rest ih =>
    obtain ⟨entries, child, rfl, hchild, h⟩ := exists_entry_of_get? h
    exact ih (isProper_of_lookup hproper hchild) h

end Node

end PinnedActions
