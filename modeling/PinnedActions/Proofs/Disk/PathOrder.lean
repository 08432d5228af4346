import PinnedActions.Disk.Path
import Mathlib.Data.List.Lex
import Mathlib.Data.Prod.Lex

/-!
# The order of paths

Paths are compared part by part.  To see that this is an order, every part is given a **code** in a
linear order, which makes the comparison of two paths that of two lists of codes
(`Path.before_iff`).  Different parts have different codes, so two paths of which neither stands
before the other have the same parts (`Path.code_inj`).
-/

set_option autoImplicit false

namespace PinnedActions

/-- Bytes stand in the order of their numbers. -/
theorem Bytes.map_toNat_lt_iff {m n : Bytes} : m.map UInt8.toNat < n.map UInt8.toNat ↔ m < n := by
  induction m generalizing n with
  | nil => cases n <;> simp
  | cons a m ih =>
    cases n with
    | nil => simp
    | cons b n =>
      rw [List.map_cons, List.map_cons, List.cons_lt_cons_iff, List.cons_lt_cons_iff, ih,
        UInt8.toNat_inj, UInt8.lt_iff_toNat_lt]

/-- The name of a part that has one. -/
def Part.name : Part → Bytes
  | named name => name
  | _ => []

/-- The code of a part: its sort and then the numbers of the bytes of its name. -/
def Part.code (p : Part) : Nat ×ₗ List Nat := toLex (p.rank, p.name.map UInt8.toNat)

theorem Part.code_injective : Function.Injective Part.code := by
  intro a b h
  obtain ⟨hrank, hname⟩ := Prod.mk.inj (toLex_inj.1 h)
  have hname := List.map_injective_iff.2 (fun _ _ => UInt8.toNat_inj.1) hname
  cases a <;> cases b <;> simp_all [Part.rank, Part.name]

theorem Part.before_iff {a b : Part} : Part.before a b = true ↔ a.code < b.code := by
  rw [Part.code, Part.code, Prod.Lex.toLex_lt_toLex, Bytes.map_toNat_lt_iff]
  cases a <;> cases b <;> simp [Part.before, Part.rank, Part.name]

namespace Path

/-- The code of a path. -/
def code (path : Bytes) : List (Nat ×ₗ List Nat) := (parts path).map Part.code

/-- Paths with one code have the same parts. -/
theorem code_inj {a b : Bytes} : code a = code b ↔ parts a = parts b :=
  (List.map_injective_iff.2 Part.code_injective).eq_iff

theorem partsBefore_iff {as bs : List Part} :
    partsBefore as bs = true ↔ as.map Part.code < bs.map Part.code := by
  induction as generalizing bs with
  | nil => cases bs <;> simp [partsBefore]
  | cons a as ih =>
    cases bs with
    | nil => simp [partsBefore]
    | cons b bs =>
      rw [partsBefore, List.map_cons, List.map_cons, List.cons_lt_cons_iff]
      split
      · rename_i hab
        simp [hab, ih]
      · rename_i hab
        simp [Part.before_iff, Part.code_injective.eq_iff, hab]

/-- **The order of paths is the order of their codes.** -/
theorem before_iff {a b : Bytes} : Path.before a b = true ↔ code a < code b :=
  partsBefore_iff

end Path

end PinnedActions
