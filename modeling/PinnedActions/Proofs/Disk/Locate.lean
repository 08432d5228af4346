import PinnedActions.Disk.Write
import PinnedActions.Proofs.Disk.Tree

/-!
# Where paths lead

A path is gone along name by name, and a link on the way is replaced by where it leads.  All this
looks at the tree from outside only, so a path leads to the same place in every tree of the same shape
(`travel_congr`).

* `Leads` — the ways from a position to a place, one step for each link that is followed.
* `Leads.append` — below a directory, names lead where they lead in the tree, unless to a link.  One
  name leads even to a link that is not followed (`Leads.concat`).
* `Leads.itself` — a way to something leads to something, too, if a link at its end is not followed.
-/

set_option autoImplicit false

namespace PinnedActions

namespace Disk

open Node

variable {t t' : Node} {followLast : Bool} {links : Nat} {position names more : List Bytes}
  {parts : List Part} {name : Bytes} {rest : List Part} {node : Node} {entries : List (Bytes × Node)}

/-! ## Going along -/

/-- How it goes on past a name, given the node at hand and the one that the name leads to. -/
def pass (followLast : Bool) (position : List Bytes) (name : Bytes) (rest : List Part)
    (onward : Except DiskFault Halt) : Option Node → Option Node → Except DiskFault Halt
  | none, _ => .error .missing
  | some (.dir _), none =>
    if rest.isEmpty then .ok (.arrived (name :: position)) else .error .missing
  | some (.dir _), some (.file ..) | some (.dir _), some (.other ..) =>
    if rest.isEmpty then .ok (.arrived (name :: position)) else .error .notDirectory
  | some (.dir _), some (.link target) =>
    if rest.isEmpty && !followLast then .ok (.arrived (name :: position))
    else .ok (.atLink position target rest)
  | some (.dir _), some (.dir _) => onward
  | some _, _ => .error .notDirectory

theorem advance_named (t : Node) (followLast : Bool) (position : List Bytes) (name : Bytes)
    (rest : List Part) :
    advance t followLast position (.named name :: rest) =
      pass followLast position name rest (advance t followLast (name :: position) rest)
        (t.get? position.reverse) (t.get? (name :: position).reverse) := by
  rw [advance, List.reverse_cons, get?_concat]
  cases t.get? position.reverse with
  | none => rfl
  | some node =>
    cases node with
    | dir entries =>
      rw [Option.bind_some, child?]
      simp only
      cases entries.lookup name with
      | none => rfl
      | some child => cases child <;> rfl
    | _ => rfl

/-- How it goes on depends on what the nodes look like from outside. -/
theorem pass_congr {onward : Except DiskFault Halt} {a a' b b' : Option Node}
    (ha : a.map face = a'.map face) (hb : b.map face = b'.map face) :
    pass followLast position name rest onward a b =
      pass followLast position name rest onward a' b' := by
  have hface : ∀ a b, pass followLast position name rest onward (a.map face) (b.map face) =
      pass followLast position name rest onward a b := by
    intro a b
    rcases a with _ | ⟨⟩ | ⟨⟩ | ⟨⟩ | ⟨⟩ <;> rcases b with _ | ⟨⟩ | ⟨⟩ | ⟨⟩ | ⟨⟩ <;> rfl
  rw [← hface a, ← hface a', ha, hb]

theorem advance_congr (h : SameShape t t') (followLast : Bool) (position : List Bytes)
    (parts : List Part) : advance t followLast position parts = advance t' followLast position parts := by
  induction parts generalizing position with
  | nil => rfl
  | cons part rest ih =>
    cases part with
    | root => exact ih []
    | here => exact ih position
    | up => exact ih position.tail
    | named name =>
      rw [advance_named, advance_named, ih]
      exact pass_congr (h _) (h _)

theorem travel_zero (t : Node) (followLast : Bool) (position : List Bytes) (parts : List Part) :
    travel t followLast 0 position parts =
      match advance t followLast position parts with
      | .error e => .error e
      | .ok (.arrived position) => .ok position.reverse
      | .ok (.atLink ..) => .error .tooManyLinks := by
  cases hhalt : advance t followLast position parts with
  | error e =>
    rw [travel]
    simp only [hhalt]
  | ok halt =>
    rw [travel]
    cases halt <;> simp only [hhalt]

theorem travel_succ (t : Node) (followLast : Bool) (links : Nat) (position : List Bytes)
    (parts : List Part) :
    travel t followLast (links + 1) position parts =
      match advance t followLast position parts with
      | .error e => .error e
      | .ok (.arrived position) => .ok position.reverse
      | .ok (.atLink position target rest) =>
        travel t followLast links position (Path.parts target ++ rest) := by
  cases hhalt : advance t followLast position parts with
  | error e =>
    rw [travel]
    simp only [hhalt]
  | ok halt =>
    rw [travel]
    cases halt <;> simp only [hhalt]

/-- **A path leads to the same place in every tree of the same shape.** -/
theorem travel_congr (h : SameShape t t') (followLast : Bool) (links : Nat) (position : List Bytes)
    (parts : List Part) :
    travel t followLast links position parts = travel t' followLast links position parts := by
  induction links generalizing position parts with
  | zero => rw [travel_zero, travel_zero, advance_congr h]
  | succ links ih =>
    rw [travel_succ, travel_succ, advance_congr h]
    simp only [ih]

/-! ## Below directories -/

/-- Names lead down where they lead in the tree. -/
theorem advance_names (hdir : t.get? position.reverse = some (.dir entries))
    (hnode : (Node.dir entries).get? names = some node) (hlink : ∀ target, node ≠ .link target) :
    advance t followLast position (names.map .named) =
      .ok (.arrived (names.reverse ++ position)) := by
  induction names generalizing position entries with
  | nil => rfl
  | cons name rest ih =>
    have hchild : t.get? (name :: position).reverse = entries.lookup name := by
      rw [List.reverse_cons, get?_concat, hdir]
      rfl
    obtain ⟨_, child, heq, hlookup, hnode⟩ := exists_entry_of_get? hnode
    cases heq
    rw [List.map_cons, advance_named, hdir, hchild, hlookup, List.reverse_cons, List.append_assoc,
      List.singleton_append]
    cases child with
    | file content mode | other mode reading =>
      cases rest with
      | nil => rfl
      | cons n more => cases hnode
    | link target =>
      cases rest with
      | nil =>
        cases hnode
        exact absurd rfl (hlink target)
      | cons n more => cases hnode
    | dir below => exact ih (hchild.trans hlookup) hnode

/-- All that it can come to past a name: down into a directory, to a link that is to be followed, or
to the end. -/
inductive Passes (followLast : Bool) (position : List Bytes) (name : Bytes) (rest : List Part)
    (onward : Except DiskFault Halt) : Option Node → Halt → Prop where
  | down {below : List (Bytes × Node)} {halt : Halt} (h : onward = .ok halt) :
      Passes followLast position name rest onward (some (.dir below)) halt
  | turned {target : Bytes} (h : rest = [] → followLast = true) :
      Passes followLast position name rest onward (some (.link target)) (.atLink position target rest)
  | ended {b : Option Node} (hrest : rest = []) (hdir : ∀ below, b ≠ some (.dir below))
      (hlink : ∀ target, b = some (.link target) → followLast = false) :
      Passes followLast position name rest onward b (.arrived (name :: position))

theorem passes_of_pass {onward : Except DiskFault Halt} {a b : Option Node} {halt : Halt}
    (h : pass followLast position name rest onward a b = .ok halt) :
    (∃ entries, a = some (.dir entries)) ∧ Passes followLast position name rest onward b halt := by
  obtain ⟨entries, rfl⟩ : ∃ entries, a = some (.dir entries) := by
    rcases a with _ | ⟨⟩ | ⟨⟩ | ⟨entries⟩ | ⟨⟩
    case some.dir => exact ⟨entries, rfl⟩
    all_goals cases h
  refine ⟨⟨entries, rfl⟩, ?_⟩
  rcases b with _ | ⟨⟩ | ⟨target⟩ | ⟨⟩ | ⟨⟩
  · rw [pass] at h
    split at h
    · rename_i hrest
      cases h
      exact .ended (List.isEmpty_iff.1 hrest) nofun nofun
    · cases h
  · rw [pass] at h
    split at h
    · rename_i hrest
      cases h
      exact .ended (List.isEmpty_iff.1 hrest) nofun nofun
    · cases h
  · rw [pass] at h
    split at h
    · rename_i hend
      rw [Bool.and_eq_true, Bool.not_eq_true'] at hend
      cases h
      exact .ended (List.isEmpty_iff.1 hend.1) nofun fun _ _ => hend.2
    · rename_i hturn
      cases h
      exact .turned fun hrest => by simpa [hrest] using hturn
  · exact .down h
  · rw [pass] at h
    split at h
    · rename_i hrest
      cases h
      exact .ended (List.isEmpty_iff.1 hrest) nofun nofun
    · cases h

/-- How it goes on from a halt. -/
def resume (t : Node) (followLast : Bool) (more : List Part) : Halt → Except DiskFault Halt
  | .arrived position => advance t followLast position more
  | .atLink position target rest => .ok (.atLink position target (rest ++ more))

/-- Where a path comes to a directory, or to a link, it goes on from there. -/
theorem advance_append {more : List Part} {halt : Halt} (hmore : more ≠ [])
    (h : advance t true position parts = .ok halt)
    (hdir : ∀ p, halt = .arrived p → ∃ entries, t.get? p.reverse = some (.dir entries)) :
    advance t followLast position (parts ++ more) = resume t followLast more halt := by
  induction parts generalizing position with
  | nil =>
    cases h
    rfl
  | cons part rest ih =>
    cases part with
    | root => exact ih h
    | here => exact ih h
    | up => exact ih h
    | named name =>
      rw [advance_named] at h
      obtain ⟨⟨entries, hentries⟩, hpasses⟩ := passes_of_pass h
      rw [List.cons_append, advance_named, hentries]
      generalize hchild : t.get? (name :: position).reverse = child at hpasses
      cases hpasses with
      | down h => exact ih h
      | turned _ => simp [pass, resume, hmore]
      | ended _ hne _ =>
        obtain ⟨below, hbelow⟩ := hdir _ rfl
        exact absurd (hchild.symm.trans hbelow) (hne below)

/-- Without following a link at the end, a path comes to the same halt, or to that link. -/
theorem advance_itself {halt : Halt} (h : advance t true position parts = .ok halt) :
    advance t false position parts = .ok halt ∨
      ∃ p target name, halt = .atLink p target [] ∧
        advance t false position parts = .ok (.arrived (name :: p)) ∧
        t.get? (name :: p).reverse = some (.link target) := by
  induction parts generalizing position with
  | nil => exact .inl h
  | cons part rest ih =>
    cases part with
    | root => exact ih h
    | here => exact ih h
    | up => exact ih h
    | named name =>
      rw [advance_named] at h ⊢
      obtain ⟨⟨entries, hentries⟩, hpasses⟩ := passes_of_pass h
      rw [hentries]
      generalize hchild : t.get? (name :: position).reverse = child at hpasses
      cases hpasses with
      | down h => exact ih h
      | @turned target _ =>
        cases rest with
        | nil => exact .inr ⟨position, target, name, rfl, rfl, hchild⟩
        | cons part rest => exact .inl rfl
      | ended hrest hne hlink =>
        subst hrest
        left
        rcases child with _ | ⟨⟩ | ⟨target⟩ | ⟨below⟩ | ⟨⟩
        case some.dir => exact absurd rfl (hne below)
        all_goals rfl

/-! ## Whole ways -/

/-- The ways from a position along parts to a place, with a number of links that may be followed. -/
inductive Leads (t : Node) (followLast : Bool) :
    Nat → List Bytes → List Part → List Bytes → Prop where
  | arrived {links : Nat} {position : List Bytes} {parts : List Part} {p : List Bytes}
      (h : advance t followLast position parts = .ok (.arrived p)) :
      Leads t followLast links position parts p.reverse
  | turned {links : Nat} {position : List Bytes} {parts : List Part} {p : List Bytes} {target : Bytes}
      {rest : List Part} {names : List Bytes}
      (h : advance t followLast position parts = .ok (.atLink p target rest))
      (hleads : Leads t followLast links p (Path.parts target ++ rest) names) :
      Leads t followLast (links + 1) position parts names

theorem leads_iff :
    Leads t followLast links position parts names ↔
      travel t followLast links position parts = .ok names := by
  constructor
  · intro h
    induction h with
    | @arrived links position parts p h =>
      cases links with
      | zero => rw [travel_zero, h]
      | succ links => rw [travel_succ, h]
    | turned h _ ih =>
      rw [travel_succ, h]
      exact ih
  · intro h
    induction links generalizing position parts with
    | zero =>
      rw [travel_zero] at h
      split at h
      · cases h
      · rename_i hhalt
        cases h
        exact .arrived hhalt
      · cases h
    | succ links ih =>
      rw [travel_succ] at h
      split at h
      · cases h
      · rename_i hhalt
        cases h
        exact .arrived hhalt
      · rename_i hhalt
        exact .turned hhalt (ih h)

/-- **Below a directory, names lead where they lead in the tree.** -/
theorem Leads.append {below : List Bytes} (h : Leads t true links position parts names)
    (hdir : t.get? names = some (.dir entries)) (hbelow : below ≠ [])
    (hnode : (Node.dir entries).get? below = some node) (hlink : ∀ target, node ≠ .link target) :
    Leads t followLast links position (parts ++ below.map .named) (names ++ below) := by
  have hmore : below.map Part.named ≠ [] := fun hnil => hbelow (List.map_eq_nil_iff.1 hnil)
  induction h with
  | @arrived links position parts p h =>
    have hhalt : advance t followLast position (parts ++ below.map .named) =
        .ok (.arrived (below.reverse ++ p)) := by
      rw [advance_append hmore h fun p' hp => by cases hp; exact ⟨entries, hdir⟩]
      exact advance_names hdir hnode hlink
    have hleads : Leads t followLast links position (parts ++ below.map .named) _ := .arrived hhalt
    rwa [List.reverse_append, List.reverse_reverse] at hleads
  | turned h _ ih =>
    refine .turned (advance_append hmore h nofun) ?_
    rw [← List.append_assoc]
    exact ih hdir

/-- A name at the end leads to what is there, be it a link, if a link at the end is not followed. -/
theorem Leads.concat (h : Leads t true links position parts names)
    (hdir : t.get? names = some (.dir entries)) (name : Bytes) :
    Leads t false links position (parts ++ [.named name]) (names ++ [name]) := by
  induction h with
  | @arrived links position parts p h =>
    have hhalt : advance t false position (parts ++ [.named name]) = .ok (.arrived (name :: p)) := by
      rw [advance_append (List.cons_ne_nil _ _) h fun p' hp => by cases hp; exact ⟨entries, hdir⟩,
        resume, advance_named, hdir]
      rcases t.get? (name :: p).reverse with _ | ⟨⟩ | ⟨⟩ | ⟨⟩ | ⟨⟩ <;> rfl
    have hleads : Leads t false links position (parts ++ [.named name]) _ := .arrived hhalt
    rwa [List.reverse_cons] at hleads
  | turned h _ ih =>
    refine .turned (advance_append (List.cons_ne_nil _ _) h nofun) ?_
    rw [← List.append_assoc]
    exact ih hdir

/-- A way to something that is there leads to something, too, if a link at the end is not
followed. -/
theorem Leads.itself (h : Leads t true links position parts names) (hnode : t.get? names = some node) :
    ∃ names' node', Leads t false links position parts names' ∧ t.get? names' = some node' := by
  induction h with
  | arrived h =>
    rcases advance_itself h with h | ⟨p, target, name, hhalt, -, -⟩
    · exact ⟨_, node, .arrived h, hnode⟩
    · cases hhalt
  | turned h _ ih =>
    rcases advance_itself h with h | ⟨p, target, name, -, harrived, hlink⟩
    · obtain ⟨names', node', hleads, hnode'⟩ := ih hnode
      exact ⟨names', node', .turned h hleads, hnode'⟩
    · exact ⟨_, _, .arrived harrived, hlink⟩

end Disk

end PinnedActions
