import PinnedActions.Http.Url
import PinnedActions.Proofs.Catalog.Paths
import Mathlib.Logic.Function.Iterate

/-!
# Where segments of dots lead

Reading a path is a walk: each segment in turn is taken, and what is left of the path so far changes
(`Url.advance`).  `resolveDots_eq` says that this is all there is to it, apart from an empty segment
that dots leave at the very end.

The name of a tag is a walk as well.  Escaping leaves the parts between its slashes apart, and makes
neither dots of what is no dots nor the other way round, however a dot is written
(`plainDots_escape`).  So the walk can be told from the name as it is: a `Course` leads some steps up
from where it starts and then down through some names.  `Course.foldl_advance` says that reading the
escaped name follows the course.
-/

set_option autoImplicit false

namespace PinnedActions

namespace Url

/-! ## One segment after the other -/

/-- The segments of a path so far after one more, from the last to the first. -/
def advance (before : List Text) (segment : Text) : List Text :=
  if isDoubleDot segment then goUp before
  else if isDot segment then before
  else segment :: before

/-- What dots leave at the very end of a path: an empty segment. -/
def ending (segments : List Text) : List Text :=
  if segments.getLast?.any fun segment => isDoubleDot segment || isDot segment then [[]] else []

theorem ending_cons {segments : List Text} (hne : segments ≠ []) (segment : Text) :
    ending (segment :: segments) = ending segments := by
  rw [ending, ending, List.getLast?_cons, List.getLast?_eq_some_getLast hne, Option.getD_some]

/-- **Segments are read one after the other.** -/
theorem resolveDots_eq (before segments : List Text) :
    resolveDots before segments = (segments.foldl advance before).reverse ++ ending segments := by
  induction segments generalizing before with
  | nil => simp [resolveDots, ending]
  | cons segment rest ih =>
    cases rest with
    | nil =>
      by_cases hup : isDoubleDot segment <;> by_cases hdot : isDot segment <;>
        simp [resolveDots, advance, ending, hup, hdot]
    | cons next rest =>
      rw [ending_cons (List.cons_ne_nil next rest), List.foldl_cons, ← ih, resolveDots]
      simp only [List.isEmpty_cons, advance, Bool.false_eq_true, if_false]
      split_ifs <;> rfl

theorem resolveDots_append {front back : List Text} (hne : back ≠ []) (before : List Text) :
    resolveDots before (front ++ back) = resolveDots (front.foldl advance before) back := by
  have hending : ending (front ++ back) = ending back := by
    rw [ending, ending, List.getLast?_append_of_ne_nil front hne]
  rw [resolveDots_eq, resolveDots_eq, List.foldl_append, hending]

/-- Segments that are no dots stay. -/
theorem foldl_advance_of_plain {segments : List Text}
    (h : ∀ segment ∈ segments, isDoubleDot segment = false ∧ isDot segment = false)
    (before : List Text) : segments.foldl advance before = segments.reverse ++ before := by
  induction segments generalizing before with
  | nil => rfl
  | cons segment rest ih =>
    obtain ⟨hup, hdot⟩ := h segment List.mem_cons_self
    rw [List.foldl_cons, ih fun s hs => h s (List.mem_cons_of_mem segment hs), advance, hup, hdot,
      List.reverse_cons, List.append_assoc]
    rfl

theorem mem_goUp {segment : Text} {before : List Text} (h : segment ∈ goUp before) :
    segment ∈ before := by
  cases before with
  | nil => exact h
  | cons last before =>
    rw [goUp] at h
    split at h
    · exact h
    · exact List.mem_cons_of_mem last h

theorem mem_foldl_advance {segments : List Text} {segment : Text} {before : List Text}
    (h : segment ∈ segments.foldl advance before) : segment ∈ before ∨ segment ∈ segments := by
  induction segments generalizing before with
  | nil => exact .inl h
  | cons next rest ih =>
    rw [List.foldl_cons] at h
    rcases ih h with h | h
    · rw [advance] at h
      split_ifs at h
      · exact .inl (mem_goUp h)
      · exact .inl h
      · rcases List.mem_cons.1 h with rfl | h
        · exact .inr List.mem_cons_self
        · exact .inl h
    · exact .inr (List.mem_cons_of_mem next h)

theorem mem_resolveDots {before segments : List Text} {segment : Text}
    (h : segment ∈ resolveDots before segments) :
    segment ∈ before ∨ segment ∈ segments ∨ segment = [] := by
  rw [resolveDots_eq, List.mem_append, List.mem_reverse] at h
  rcases h with h | h
  · exact (mem_foldl_advance h).imp_right .inl
  · rw [ending] at h
    split at h
    · exact .inr (.inr (List.mem_singleton.1 h))
    · cases h

/-! ## Steps up -/

/-- The segments of a path after so many steps up.  No step goes past a drive. -/
def climb (steps : Nat) (segments : List Text) : List Text := (goUp^[steps] segments.reverse).reverse

theorem goUp_suffix (before : List Text) : goUp before <:+ before := by
  cases before with
  | nil => exact List.suffix_refl _
  | cons last before =>
    rw [goUp]
    split
    · exact List.suffix_refl _
    · exact List.suffix_cons last before

theorem prefix_climb (steps : Nat) (segments : List Text) : climb steps segments <+: segments := by
  rw [climb, ← List.reverse_suffix, List.reverse_reverse]
  induction steps with
  | zero => exact List.suffix_refl _
  | succ steps ih =>
    rw [Function.iterate_succ_apply']
    exact (goUp_suffix _).trans ih

/-- What follows the segments that are left continues the path as it was only if it names again those
that were taken away. -/
theorem climb_append_eq_iff {steps : Nat} {here back more : List Text} :
    climb steps here ++ back = here ++ more ↔
      back = here.drop (climb steps here).length ++ more := by
  have hhere : climb steps here ++ here.drop (climb steps here).length = here :=
    List.prefix_iff_eq_append.1 (prefix_climb steps here)
  calc climb steps here ++ back = here ++ more
    _ ↔ climb steps here ++ back =
        climb steps here ++ (here.drop (climb steps here).length ++ more) := by
      rw [← List.append_assoc, hhere]
    _ ↔ _ := List.append_right_inj _

theorem climb_zero (segments : List Text) : climb 0 segments = segments :=
  List.reverse_reverse segments

theorem climb_succ_concat {last : Text} (hlast : isDrive last = false) (steps : Nat)
    (segments : List Text) : climb (steps + 1) (segments ++ [last]) = climb steps segments := by
  rw [climb, List.reverse_concat, Function.iterate_succ_apply, goUp, if_neg (by simp [hlast]), climb]

/-- Where there are no drives, every step up takes a segment away. -/
theorem climb_append {back : List Text} (hback : ∀ segment ∈ back, isDrive segment = false)
    {steps : Nat} (hsteps : steps ≤ back.length) (front : List Text) :
    climb steps (front ++ back) = front ++ back.take (back.length - steps) := by
  induction back using List.reverseRecOn generalizing steps with
  | nil =>
    rw [Nat.le_zero.1 hsteps, climb_zero]
    rfl
  | append_singleton back last ih =>
    rw [List.length_append, List.length_singleton] at hsteps ⊢
    cases steps with
    | zero => rw [climb_zero, Nat.sub_zero, List.take_of_length_le (by simp)]
    | succ steps =>
      rw [← List.append_assoc, climb_succ_concat (hback last (by simp)),
        ih (fun segment h => hback segment (List.mem_append_left _ h)) (by omega),
        List.take_append_of_le_length (by omega), Nat.add_sub_add_right]

/-! ## Dots in escaped names -/

theorem plainDots_cons_of_ne {c : Char} (hc : c ≠ '%') (rest : Text) :
    plainDots (c :: rest) = c :: plainDots rest := by
  rw [plainDots] <;> rintro rest' rfl <;> exact absurd rfl hc

/-- A byte that is no dot is not written as one. -/
theorem plainDots_byte_append {b : UInt8} (hb : b.toNat ≠ '.'.toNat) (rest : Text) :
    plainDots (Percent.byte b ++ rest) = Percent.byte b ++ plainDots rest := by
  have hdigit : ∀ n, Text.upperHexDigit n ≠ '%' := fun n h =>
    absurd (h ▸ Percent.upperHexDigit_mem n) (by decide)
  have hpair := Percent.pair?_byte b
  simp only [Percent.byte, List.cons_append, List.nil_append]
  rw [plainDots, plainDots_cons_of_ne (hdigit _), plainDots_cons_of_ne (hdigit _)]
  all_goals
    intro rest' _ h
    obtain ⟨hhigh, h⟩ := List.cons.inj h
    rw [hhigh, (List.cons.inj h).1] at hpair
    exact absurd (congrArg UInt8.toNat (Option.some.inj hpair)).symm hb

theorem plainDots_flatMap_byte_append {bytes : List UInt8}
    (hbytes : ∀ b ∈ bytes, b.toNat ≠ '.'.toNat) (rest : Text) :
    plainDots (bytes.flatMap Percent.byte ++ rest) =
      bytes.flatMap Percent.byte ++ plainDots rest := by
  induction bytes with
  | nil => rfl
  | cons b bytes ih =>
    rw [List.flatMap_cons, List.append_assoc, plainDots_byte_append (hbytes b List.mem_cons_self),
      ih fun b' hb' => hbytes b' (List.mem_cons_of_mem b hb'), List.append_assoc]

/-- **No dot of an escaped name is written as a byte.** -/
theorem plainDots_escape (name : Text) :
    plainDots (Endpoint.escape name) = Endpoint.escape name := by
  induction name with
  | nil => rfl
  | cons c rest ih =>
    rw [Endpoint.escape, Percent.encode, List.flatMap_cons, ← Percent.encode, ← Endpoint.escape,
      Percent.encodeChar]
    split
    · rename_i hplain
      have hc : c ≠ '%' := by
        rintro rfl
        exact absurd hplain (by decide)
      rw [List.singleton_append, plainDots_cons_of_ne hc, ih]
    · rename_i hplain
      -- a byte that is a dot comes from the character, and that would stand for itself
      rw [plainDots_flatMap_byte_append (fun b hb hdot => hplain ?_), ih]
      have hc : c = '.' := Char.toNat_inj.1 <| by
        rw [← Utf8.toNat_of_mem_utf8EncodeChar hb (by rw [hdot]; decide), hdot]
      rw [hc]
      decide

theorem isDot_escape {name : Text} : isDot (Endpoint.escape name) = true ↔ name = ['.'] := by
  rw [isDot, decide_eq_true_iff, plainDots_escape]
  exact Endpoint.escape_injective.eq_iff' (by decide)

theorem isDoubleDot_escape {name : Text} :
    isDoubleDot (Endpoint.escape name) = true ↔ name = ['.', '.'] := by
  rw [isDoubleDot, decide_eq_true_iff, plainDots_escape]
  exact Endpoint.escape_injective.eq_iff' (by decide)

theorem isDrive_eq_false {segment : Text} (hcolon : ':' ∉ segment) (hbar : '|' ∉ segment) :
    isDrive segment = false := by
  rw [isDrive.eq_def]
  split
  · rename_i letter mark
    simp only [List.mem_cons, List.not_mem_nil, or_false, not_or] at hcolon hbar
    simp [Ne.symm hcolon.2, Ne.symm hbar.2]
  · rfl

theorem isDrive_escape (name : Text) : isDrive (Endpoint.escape name) = false :=
  isDrive_eq_false (Endpoint.not_mem_escape (by decide) (by decide) (by decide) name)
    (Endpoint.not_mem_escape (by decide) (by decide) (by decide) name)

end Url

/-! ## Courses -/

/-- A way from one place to another: some steps up, and then down through some names, of which the
last comes first. -/
structure Course where
  ups : Nat
  names : List Text
deriving DecidableEq, Repr

namespace Course

/-- The course that stays. -/
def start : Course := ⟨0, []⟩

/-- The course that goes on with a part.  Two dots undo the last name, or lead up where there is
none. -/
def step (way : Course) (part : Text) : Course :=
  if part = ['.', '.'] then
    match way.names with
    | [] => { way with ups := way.ups + 1 }
    | _ :: names => { way with names }
  else if part = ['.'] then way
  else { way with names := part :: way.names }

/-- The course through the parts of a name. -/
def through (parts : List Text) : Course := parts.foldl step start

/-- Where a course leads when its names are escaped, from the last segment to the first. -/
def target (way : Course) (before : List Text) : List Text :=
  way.names.map Endpoint.escape ++ Url.goUp^[way.ups] before

/-- Reading an escaped part goes on with the course. -/
theorem advance_target (way : Course) (before : List Text) (part : Text) :
    Url.advance (way.target before) (Endpoint.escape part) = (way.step part).target before := by
  rw [Url.advance, step]
  simp only [Url.isDoubleDot_escape, Url.isDot_escape]
  split_ifs
  · cases hnames : way.names with
    | nil =>
      rw [target, target, hnames, Function.iterate_succ_apply']
      rfl
    | cons name names =>
      -- an escaped name is never taken for a drive, so it can be left again
      rw [target, target, hnames, List.map_cons, List.cons_append, Url.goUp,
        if_neg (by simp [Url.isDrive_escape])]
  · rfl
  · rfl

/-- **Reading the escaped parts of a name follows its course.** -/
theorem foldl_advance (before parts : List Text) :
    (parts.map Endpoint.escape).foldl Url.advance before = (through parts).target before := by
  suffices h : ∀ way : Course, (parts.map Endpoint.escape).foldl Url.advance (way.target before) =
      (parts.foldl step way).target before from h start
  induction parts with
  | nil => exact fun way => rfl
  | cons part rest ih =>
    intro way
    rw [List.map_cons, List.foldl_cons, List.foldl_cons, advance_target, ih]

/-- The course of a name, through the parts between its slashes. -/
def ofName (name : Text) : Course := through (name.splitOn '/')

/-- The segments that the course of a name leads down through, when they are escaped. -/
def landing (name : Text) : List Text :=
  ((ofName name).names.map Endpoint.escape).reverse ++
    Url.ending ((name.splitOn '/').map Endpoint.escape)

/-- **Reading an escaped name goes up and then down.** -/
theorem resolveDots_escape (here : List Text) (name : Text) :
    Url.resolveDots here.reverse ((name.splitOn '/').map Endpoint.escape) =
      Url.climb (ofName name).ups here ++ landing name := by
  rw [Url.resolveDots_eq, foldl_advance, ← ofName, target, List.reverse_append, List.append_assoc]
  rfl

/-- A name leads down to something, and be it an empty segment. -/
theorem landing_ne_nil (name : Text) : landing name ≠ [] := by
  obtain ⟨front, last, hparts⟩ : ∃ front last, name.splitOn '/' = front ++ [last] :=
    ⟨_, _, (List.dropLast_append_getLast (List.splitOn_ne_nil '/' name)).symm⟩
  rw [landing, ofName, through, hparts, List.foldl_concat, step, Url.ending, List.map_append,
    List.map_singleton, List.getLast?_concat, Option.any_some]
  simp only [Bool.or_eq_true, Url.isDoubleDot_escape, Url.isDot_escape]
  by_cases hdots : last = ['.', '.'] ∨ last = ['.']
  · rw [if_pos hdots]
    exact List.append_ne_nil_of_right_ne_nil _ (List.cons_ne_nil _ _)
  · rw [if_neg fun h => hdots (.inl h), if_neg fun h => hdots (.inr h), List.map_cons,
      List.reverse_cons]
    simp

end Course

end PinnedActions
