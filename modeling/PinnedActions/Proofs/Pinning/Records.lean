import Mathlib.Algebra.GroupWithZero.Nat
import Mathlib.Data.Char
import Mathlib.Data.List.Induction
import Mathlib.Data.List.Lex
import PinnedActions.Pinning.Update

/-!
# The records of an update

An update files its records under keys and keeps them in the order of the keys.  Counting one more
usage changes the record under its key, or makes one (`mem_changeRecord`), and leaves the others and
the order alone (`InOrder.changeRecord`).

So the records tally with the usages that were counted: each record has counted those with its key,
and every usage that is to be counted has a record (`Tallies`).  One more usage keeps it so
(`Tallies.count`), and an update starts with no record and no usage (`tallies_foldl`).
-/

set_option autoImplicit false

namespace PinnedActions

/-- What a record is filed under: its repository and its version, in lowercase. -/
def UpdateRecord.key (record : UpdateRecord) : Text :=
  Text.lowercase record.repository ++ '|' :: Text.lowercase record.spec

namespace Pinning

/-- Records and what they are filed under. -/
abbrev Ledger := List (Text × UpdateRecord)

/-- Whether records are in the strict order of their keys. -/
def InOrder (ledger : Ledger) : Prop := ledger.Pairwise fun p q => Text.before p.1 q.1 = true

variable {ledger : Ledger} {key : Text} {new record : UpdateRecord}
  {change : UpdateRecord → UpdateRecord} {p : Text × UpdateRecord}

/-! ## Looking up -/

theorem before_iff {a b : Text} : Text.before a b = true ↔ a < b := decide_eq_true_iff

theorem InOrder.nodup_key (h : InOrder ledger) : (ledger.map Prod.fst).Nodup :=
  List.pairwise_map.2 (h.imp fun hlt => (before_iff.1 hlt).ne)

/-- What is filed under a key is what looking the key up gives. -/
theorem InOrder.lookup_of_mem (h : InOrder ledger) (hp : (key, record) ∈ ledger) :
    ledger.lookup key = some record := by
  obtain ⟨before, after, rfl⟩ := List.append_of_mem hp
  obtain ⟨-, -, hbefore⟩ := List.pairwise_append.1 h
  refine List.lookup_eq_some_iff.2 ⟨before, after, rfl, fun q hq => ?_⟩
  exact bne_iff_ne.2 (before_iff.1 (hbefore q hq _ List.mem_cons_self)).ne'

theorem mem_of_lookup (h : ledger.lookup key = some record) : (key, record) ∈ ledger := by
  obtain ⟨before, after, rfl, -⟩ := List.lookup_eq_some_iff.1 h
  exact List.mem_append_right before List.mem_cons_self

theorem lookup_of_forall_ne (h : ∀ p ∈ ledger, p.1 ≠ key) : ledger.lookup key = none :=
  List.lookup_eq_none_iff.2 fun p hp => bne_iff_ne.2 (h p hp).symm

/-! ## One change -/

/-- **A change of a record is about the one under its key**, which is made if there is none. -/
theorem mem_changeRecord (h : InOrder ledger) :
    p ∈ changeRecord key new change ledger ↔
      p = (key, change ((ledger.lookup key).getD new)) ∨ p ∈ ledger ∧ p.1 ≠ key := by
  induction ledger with
  | nil => simp [changeRecord]
  | cons first rest ih =>
    obtain ⟨k, record⟩ := first
    obtain ⟨hfirst, hrest⟩ := List.pairwise_cons.1 h
    rw [changeRecord]
    split
    · rename_i hkey
      subst hkey
      have hother : ∀ q ∈ rest, q.1 ≠ key := fun q hq => (before_iff.1 (hfirst q hq)).ne'
      rw [List.lookup_cons_self, Option.getD_some, List.mem_cons, List.mem_cons]
      refine or_congr_right ⟨fun hp => ⟨.inr hp, hother p hp⟩, ?_⟩
      rintro ⟨rfl | hp, hne⟩
      · exact absurd rfl hne
      · exact hp
    · rename_i hne
      split
      · rename_i hlt
        -- the key comes before all others, so it is new
        have hother : ∀ q ∈ (k, record) :: rest, q.1 ≠ key := fun q hq => by
          rcases List.mem_cons.1 hq with rfl | hq
          · exact Ne.symm hne
          · exact ((before_iff.1 hlt).trans (before_iff.1 (hfirst q hq))).ne'
        rw [lookup_of_forall_ne hother, Option.getD_none, List.mem_cons]
        exact or_congr_right ⟨fun hp => ⟨hp, hother p hp⟩, And.left⟩
      · have hlookup : ((k, record) :: rest).lookup key = rest.lookup key := by
          rw [List.lookup_cons, beq_false_of_ne hne]
        rw [hlookup, List.mem_cons, List.mem_cons, ih hrest]
        constructor
        · rintro (rfl | rfl | ⟨hp, hpk⟩)
          · exact .inr ⟨.inl rfl, Ne.symm hne⟩
          · exact .inl rfl
          · exact .inr ⟨.inr hp, hpk⟩
        · rintro (rfl | ⟨rfl | hp, hpk⟩)
          · exact .inr (.inl rfl)
          · exact .inl rfl
          · exact .inr (.inr ⟨hp, hpk⟩)

theorem InOrder.changeRecord (h : InOrder ledger) :
    InOrder (changeRecord key new change ledger) := by
  induction ledger with
  | nil => exact List.pairwise_singleton _ _
  | cons first rest ih =>
    obtain ⟨k, record⟩ := first
    obtain ⟨hfirst, hrest⟩ := List.pairwise_cons.1 h
    rw [Pinning.changeRecord]
    split
    · exact List.pairwise_cons.2 ⟨hfirst, hrest⟩
    · rename_i hne
      split
      · rename_i hlt
        refine List.pairwise_cons.2 ⟨List.forall_mem_cons.2 ⟨hlt, fun q hq => ?_⟩, h⟩
        exact before_iff.2 ((before_iff.1 hlt).trans (before_iff.1 (hfirst q hq)))
      · rename_i hnlt
        refine List.pairwise_cons.2 ⟨fun q hq => ?_, ih hrest⟩
        rcases (mem_changeRecord hrest).1 hq with rfl | ⟨hq, -⟩
        · have hle : ¬key < k := fun hlt => hnlt (before_iff.2 hlt)
          exact before_iff.2 ((lt_trichotomy key k).resolve_left hle |>.resolve_left hne)
        · exact hfirst q hq

/-- What a change adds to one record it adds to the sum over all records. -/
theorem sum_changeRecord {f : UpdateRecord → Nat} {n : Nat} (hnew : f new = 0)
    (hchange : ∀ record, f (change record) = f record + n) (ledger : Ledger) :
    ((changeRecord key new change ledger).map fun p => f p.2).sum =
      (ledger.map fun p => f p.2).sum + n := by
  induction ledger with
  | nil => simp [changeRecord, hchange, hnew]
  | cons first rest ih =>
    obtain ⟨k, record⟩ := first
    rw [changeRecord]
    split
    · simp only [List.map_cons, List.sum_cons, hchange]
      omega
    · split
      · simp only [List.map_cons, List.sum_cons, hchange, hnew]
        omega
      · simp only [List.map_cons, List.sum_cons, ih]
        omega

/-! ## Many changes -/

/-- An occurrence and the verdict on it. -/
abbrev Ruling : Type := Occurrence × Verdict

/-- The key of the record that counts an occurrence. -/
def keyFor : Ruling → Option Text
  | (o, .resolved version _ _) => some (recordKey o.usage.action version)
  | _ => none

/-- Whether an occurrence is counted as moved under a key. -/
def movesUnder (key : Text) (q : Ruling) : Bool := keyFor q == some key && q.2.edit?.isSome

/-- Whether an occurrence is counted as unchanged under a key. -/
def staysUnder (key : Text) (q : Ruling) : Bool := keyFor q == some key && q.2.edit?.isNone

/-- Whether a record has counted what is to be counted under a key. -/
structure Counts (qs : List Ruling) (key : Text) (record : UpdateRecord) : Prop where
  updated : record.updated = qs.countP (movesUnder key)
  unchanged : record.unchanged = qs.countP (staysUnder key)

/-- Whether a record is named like an occurrence that is counted under a key. -/
def Named (qs : List Ruling) (key : Text) (record : UpdateRecord) : Prop :=
  ∃ o version r edit, (o, .resolved version r edit) ∈ qs ∧ recordKey o.usage.action version = key ∧
    record.repository = o.usage.action.repository ∧ record.spec = version

/-- Whether a record has what an occurrence that is counted under a key resolved to. -/
def Found (qs : List Ruling) (key : Text) (record : UpdateRecord) : Prop :=
  ∃ o version r edit, (o, .resolved version r edit) ∈ qs ∧ recordKey o.usage.action version = key ∧
    record.tag = r.tag ∧ record.commit = r.commit

/-- Whether records tally with the occurrences that were counted. -/
structure Tallies (qs : List Ruling) (ledger : Ledger) : Prop where
  inOrder : InOrder ledger
  counts : ∀ p ∈ ledger, Counts qs p.1 p.2
  named : ∀ p ∈ ledger, Named qs p.1 p.2
  found : ∀ p ∈ ledger, Found qs p.1 p.2
  counted : ∀ q ∈ qs, ∀ key, keyFor q = some key → ∃ record, (key, record) ∈ ledger

section

variable {qs : List Ruling} {q : Ruling} {o : Occurrence} {version : Text} {r : Resolution}
  {edit : Option Edit}

theorem Named.append (h : Named qs key record) (q : Ruling) : Named (qs ++ [q]) key record := by
  obtain ⟨o, version, r, edit, hq, hnamed⟩ := h
  exact ⟨o, version, r, edit, List.mem_append_left _ hq, hnamed⟩

theorem Found.append (h : Found qs key record) (q : Ruling) : Found (qs ++ [q]) key record := by
  obtain ⟨o, version, r, edit, hq, hfound⟩ := h
  exact ⟨o, version, r, edit, List.mem_append_left _ hq, hfound⟩

/-- An occurrence that is not counted under a key does not matter to it. -/
theorem Counts.skip (h : Counts qs key record) (hkey : keyFor q ≠ some key) :
    Counts (qs ++ [q]) key record where
  updated := by simp [h.updated, List.countP_append, movesUnder, hkey]
  unchanged := by simp [h.unchanged, List.countP_append, staysUnder, hkey]

theorem counts_newRecord (h : ∀ q ∈ qs, keyFor q ≠ some key) (a : Action) (version : Text) :
    Counts qs key (newRecord a version) where
  updated := (List.countP_eq_zero.2 fun q hq => by simp [movesUnder, h q hq]).symm
  unchanged := (List.countP_eq_zero.2 fun q hq => by simp [staysUnder, h q hq]).symm

/-- One more occurrence is counted once. -/
theorem Counts.count (h : Counts qs key record) (hkey : recordKey o.usage.action version = key) :
    Counts (qs ++ [(o, .resolved version r edit)]) key
      (UpdateRecord.count record r edit) := by
  subst hkey
  constructor <;> cases edit <;>
    simp [UpdateRecord.count, h.updated, h.unchanged, List.countP_append, movesUnder, staysUnder,
      keyFor, Verdict.edit?]

/-- An occurrence that is not counted keeps the records tallying. -/
theorem Tallies.skip (h : Tallies qs ledger) (hkey : keyFor q = none) :
    Tallies (qs ++ [q]) ledger where
  inOrder := h.inOrder
  counts p hp := (h.counts p hp).skip (by simp [hkey])
  named p hp := (h.named p hp).append q
  found p hp := (h.found p hp).append q
  counted q' hq' key hkey' := by
    rcases List.mem_append.1 hq' with hq' | hq'
    · exact h.counted q' hq' key hkey'
    · rw [List.mem_singleton.1 hq', hkey] at hkey'
      cases hkey'

/-- The record for a version of an action, which may be a new one. -/
def recordAt (ledger : Ledger) (a : Action) (version : Text) : UpdateRecord :=
  (ledger.lookup (recordKey a version)).getD (newRecord a version)

theorem mem_addRecord (h : InOrder ledger) :
    p ∈ addRecord ledger (o, .resolved version r edit) ↔
      p = (recordKey o.usage.action version,
          UpdateRecord.count (recordAt ledger o.usage.action version) r edit) ∨
        p ∈ ledger ∧ p.1 ≠ recordKey o.usage.action version :=
  mem_changeRecord h

theorem Tallies.counts_recordAt (h : Tallies qs ledger) (a : Action) (version : Text) :
    Counts qs (recordKey a version) (recordAt ledger a version) := by
  rw [recordAt]
  cases hlookup : ledger.lookup (recordKey a version) with
  | some record => exact h.counts _ (mem_of_lookup hlookup)
  | none =>
    refine counts_newRecord (fun q hq hkey => ?_) a version
    obtain ⟨record, hrecord⟩ := h.counted q hq _ hkey
    rw [h.inOrder.lookup_of_mem hrecord] at hlookup
    cases hlookup

/-- A record is named like the first occurrence that it counts. -/
theorem Tallies.named_recordAt (h : Tallies qs ledger) (o : Occurrence) (version : Text)
    (r : Resolution) (edit : Option Edit) :
    Named (qs ++ [(o, .resolved version r edit)]) (recordKey o.usage.action version)
      (recordAt ledger o.usage.action version) := by
  rw [recordAt]
  cases hlookup : ledger.lookup (recordKey o.usage.action version) with
  | some record => exact (h.named _ (mem_of_lookup hlookup)).append _
  | none => exact ⟨o, version, r, edit, by simp, rfl, rfl, rfl⟩

/-- **One more occurrence keeps the records tallying.** -/
theorem Tallies.count (h : Tallies qs ledger) (o : Occurrence) (version : Text) (r : Resolution)
    (edit : Option Edit) :
    Tallies (qs ++ [(o, .resolved version r edit)])
      (addRecord ledger (o, .resolved version r edit)) where
  inOrder := h.inOrder.changeRecord
  counts p hp := by
    rcases (mem_addRecord h.inOrder).1 hp with rfl | ⟨hp, hne⟩
    · exact (h.counts_recordAt o.usage.action version).count rfl
    · exact (h.counts p hp).skip (by simpa [keyFor] using hne.symm)
  named p hp := by
    rcases (mem_addRecord h.inOrder).1 hp with rfl | ⟨hp, -⟩
    · have hnamed := h.named_recordAt o version r edit
      cases edit <;> exact hnamed
    · exact (h.named p hp).append _
  found p hp := by
    rcases (mem_addRecord h.inOrder).1 hp with rfl | ⟨hp, -⟩
    · exact ⟨o, version, r, edit, by simp, rfl, by cases edit <;> rfl, by cases edit <;> rfl⟩
    · exact (h.found p hp).append _
  counted q hq key hkey := by
    by_cases heq : key = recordKey o.usage.action version
    · exact ⟨_, (mem_addRecord h.inOrder).2 (.inl (by rw [heq]))⟩
    · rcases List.mem_append.1 hq with hq | hq
      · obtain ⟨record, hrecord⟩ := h.counted q hq key hkey
        exact ⟨record, (mem_addRecord h.inOrder).2 (.inr ⟨hrecord, heq⟩)⟩
      · rw [List.mem_singleton.1 hq] at hkey
        exact absurd (Option.some.inj hkey).symm heq

end

/-- **In the end the records tally with all occurrences.** -/
theorem tallies_foldl (qs : List Ruling) : Tallies qs (qs.foldl addRecord []) := by
  induction qs using List.reverseRecOn with
  | nil => exact ⟨List.Pairwise.nil, nofun, nofun, nofun, nofun⟩
  | append_singleton qs q ih =>
    rw [List.foldl_append, List.foldl_cons, List.foldl_nil]
    obtain ⟨o, v⟩ := q
    cases v with
    | pass => exact ih.skip rfl
    | warned w => exact ih.skip rfl
    | resolved version r edit => exact ih.count o version r edit

/-- A number that every count of an occurrence adds to is the sum over the records in the end. -/
theorem sum_foldl_addRecord {f : UpdateRecord → Nat} {counted : Ruling → Bool}
    (hnew : ∀ a version, f (newRecord a version) = 0)
    (hskip : ∀ q, keyFor q = none → counted q = false)
    (hcount : ∀ record o version r edit, f (UpdateRecord.count record r edit) =
      f record + (counted (o, .resolved version r edit)).toNat) (qs : List Ruling) :
    ((qs.foldl addRecord []).map fun p => f p.2).sum = qs.countP counted := by
  induction qs using List.reverseRecOn with
  | nil => rfl
  | append_singleton qs q ih =>
    rw [List.foldl_append, List.foldl_cons, List.foldl_nil, List.countP_append,
      List.countP_singleton, ← ih]
    have hskipped : keyFor q = none → addRecord (qs.foldl addRecord []) q = qs.foldl addRecord [] →
        ((addRecord (qs.foldl addRecord []) q).map fun p => f p.2).sum =
          ((qs.foldl addRecord []).map fun p => f p.2).sum + if counted q then 1 else 0 :=
      fun hkey hsame => by simp [hsame, hskip q hkey]
    obtain ⟨o, v⟩ := q
    cases v with
    | pass => exact hskipped rfl rfl
    | warned w => exact hskipped rfl rfl
    | resolved version r edit =>
      rw [addRecord, sum_changeRecord (hnew _ _) fun record => hcount record o version r edit]
      cases counted (o, .resolved version r edit) <;> rfl

/-- The records together count as moved what has an edit. -/
theorem sum_updated (qs : List Ruling) :
    ((qs.foldl addRecord []).map fun p => p.2.updated).sum =
      qs.countP fun q => q.2.edit?.isSome := by
  refine sum_foldl_addRecord (fun _ _ => rfl) (fun q hq => ?_) (fun record o version r edit => ?_) qs
  · obtain ⟨o, v⟩ := q
    cases v with
    | pass => rfl
    | warned w => rfl
    | resolved version r edit => cases hq
  · cases edit <;> rfl

/-- They count what is to be counted. -/
theorem sum_counted (qs : List Ruling) :
    ((qs.foldl addRecord []).map fun p => p.2.updated + p.2.unchanged).sum =
      qs.countP fun q => (keyFor q).isSome := by
  refine sum_foldl_addRecord (f := fun record => record.updated + record.unchanged)
    (fun _ _ => rfl) (fun q hq => by rw [hq]; rfl) (fun record o version r edit => ?_) qs
  cases edit with
  | none => exact (Nat.add_assoc _ _ _).symm
  | some e => exact Nat.add_right_comm _ _ _

end Pinning

end PinnedActions
