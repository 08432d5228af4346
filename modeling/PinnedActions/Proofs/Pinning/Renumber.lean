import PinnedActions.Pinning.Update
import PinnedActions.Pinning.Upgrade
import PinnedActions.Pinning.Verify

/-!
# Operations do not look at the numbers of usages

An operation tells the usages of a file apart by their numbers, but what it does with a usage does
not depend on its number.  So when all usages are numbered otherwise, it asks the same questions,
finds the same, reports the same, and wants the same edits made under the new numbers.

Every step of an operation has a lemma that says so: `renumber` goes past it.  For the steps that ask
the catalog this is an equation between computations, which includes what becomes of the session.
-/

set_option autoImplicit false

namespace PinnedActions

/-- Another number for every usage, given the position of its file and the number that it has. -/
abbrev Renumbering := Nat → Nat → Nat

variable (ρ : Renumbering)

/-- The occurrence with another number. -/
def Occurrence.renumber (o : Occurrence) : Occurrence := { o with index := ρ o.file o.index }

/-- The edit for the usage with another number. -/
def Edit.renumber (e : Edit) : Edit := { e with index := ρ e.file e.index }

/-- The verdict on the usage with another number. -/
def Verdict.renumber : Verdict → Verdict
  | resolved version r edit => resolved version r (edit.map (Edit.renumber ρ))
  | v => v

/-- The group of the usages with other numbers. -/
def RepoUsages.renumber (g : RepoUsages) : RepoUsages :=
  { g with occurrences := g.occurrences.map (Occurrence.renumber ρ) }

namespace Pinning

variable {ρ} {source : Source}

/-! ## Checks -/

theorem checkAll_renumber (os : List Occurrence) :
    checkAll source (os.map (Occurrence.renumber ρ)) = checkAll source os := by
  have hcheck : ∀ o, check source (o.renumber ρ) = check source o := fun _ => rfl
  induction os with
  | nil => rfl
  | cons o rest ih => rw [List.map_cons, checkAll, checkAll, hcheck, ih]

/-! ## Verdicts -/

theorem editFor_renumber (o : Occurrence) (reference comment : Text) :
    editFor (o.renumber ρ) reference comment =
      (editFor o reference comment).map (Edit.renumber ρ) := by
  rw [editFor, editFor, Occurrence.renumber]
  split <;> rfl

theorem settle_renumber (o : Occurrence) (version remark : Text) (unresolved : Failure → Text) :
    settle source (o.renumber ρ) version remark unresolved =
      Verdict.renumber ρ <$> settle source o version remark unresolved := by
  unfold settle
  rw [map_bind]
  refine bind_congr fun result => ?_
  cases result with
  | error f => rfl
  | ok r => simp only [editFor_renumber, map_pure]; rfl

theorem judgeFix_renumber (o : Occurrence) :
    judgeFix source (o.renumber ρ) = Verdict.renumber ρ <$> judgeFix source o := by
  have husage : (o.renumber ρ).usage = o.usage := rfl
  simp only [judgeFix, husage, settle_renumber]
  split
  · rfl
  · split
    · rfl
    · rfl

theorem judgeUpdate_renumber (o : Occurrence) :
    judgeUpdate source (o.renumber ρ) = Verdict.renumber ρ <$> judgeUpdate source o := by
  have husage : (o.renumber ρ).usage = o.usage := rfl
  simp only [judgeUpdate, husage, settle_renumber]
  split <;> rfl

theorem judgeAll_renumber {judge : Occurrence → Sure Verdict}
    (hjudge : ∀ o, judge (o.renumber ρ) = Verdict.renumber ρ <$> judge o) (os : List Occurrence) :
    judgeAll judge (os.map (Occurrence.renumber ρ)) =
      List.map (Verdict.renumber ρ) <$> judgeAll judge os := by
  induction os with
  | nil => rfl
  | cons o rest ih =>
    rw [List.map_cons, judgeAll, judgeAll, hjudge, ih]
    simp only [map_bind, bind_map_left, map_pure, List.map_cons]

theorem editsOf_renumber (vs : List Verdict) :
    editsOf (vs.map (Verdict.renumber ρ)) = (editsOf vs).map (Edit.renumber ρ) := by
  rw [editsOf, editsOf, List.filterMap_map, List.map_filterMap]
  congr 1
  funext v
  cases v <;> rfl

theorem warningsOf_renumber (vs : List Verdict) :
    warningsOf (vs.map (Verdict.renumber ρ)) = warningsOf vs := by
  rw [warningsOf, warningsOf, List.filterMap_map]
  congr 1
  funext v
  cases v <;> rfl

/-! ## Records -/

theorem addRecord_renumber (records : List (Text × UpdateRecord)) (o : Occurrence) (v : Verdict) :
    addRecord records (o.renumber ρ, v.renumber ρ) = addRecord records (o, v) := by
  cases v with
  | pass => rfl
  | warned w => rfl
  | resolved version r edit => cases edit <;> rfl

theorem foldl_addRecord_renumber (os : List Occurrence) (vs : List Verdict)
    (records : List (Text × UpdateRecord)) :
    ((os.map (Occurrence.renumber ρ)).zip (vs.map (Verdict.renumber ρ))).foldl addRecord records =
      (os.zip vs).foldl addRecord records := by
  rw [List.zip_map, List.foldl_map]
  congr 1
  funext records p
  exact addRecord_renumber records p.1 p.2

/-! ## Groups -/

theorem addToGroup_renumber (o : Occurrence) (groups : List RepoUsages) :
    addToGroup (o.renumber ρ) (groups.map (RepoUsages.renumber ρ)) =
      (addToGroup o groups).map (RepoUsages.renumber ρ) := by
  induction groups with
  | nil => rfl
  | cons g rest ih =>
    have hkey : (g.renumber ρ).key = g.key := rfl
    have husage : (o.renumber ρ).usage = o.usage := rfl
    rw [List.map_cons, addToGroup, addToGroup, hkey, husage]
    split
    · simp [RepoUsages.renumber]
    · rw [ih, List.map_cons]

theorem groupByRepository_renumber (os : List Occurrence) :
    groupByRepository (os.map (Occurrence.renumber ρ)) =
      (groupByRepository os).map (RepoUsages.renumber ρ) := by
  suffices h : ∀ groups : List RepoUsages,
      (os.map (Occurrence.renumber ρ)).foldl (fun groups o => addToGroup o groups)
          (groups.map (RepoUsages.renumber ρ)) =
        (os.foldl (fun groups o => addToGroup o groups) groups).map (RepoUsages.renumber ρ) from
    h []
  induction os with
  | nil => exact fun _ => rfl
  | cons o rest ih =>
    intro groups
    rw [List.map_cons, List.foldl_cons, List.foldl_cons, addToGroup_renumber, ih]

theorem groupEdits_renumber (r : Resolution) (g : RepoUsages) :
    groupEdits r (g.renumber ρ) = (groupEdits r g).map (Edit.renumber ρ) := by
  rw [groupEdits, groupEdits, RepoUsages.renumber, List.filterMap_map, List.map_filterMap]
  congr 1
  funext o
  exact editFor_renumber o r.commit _

theorem groupRecord_renumber (r : Resolution) (g : RepoUsages) :
    groupRecord r (g.renumber ρ) = groupRecord r g := by
  rw [groupRecord, groupRecord, groupEdits_renumber, List.length_map]
  rfl

theorem upgradeGroups_renumber (version : Option Text) (groups : List RepoUsages) :
    upgradeGroups source version (groups.map (RepoUsages.renumber ρ)) =
      (fun p => (p.1.map (Edit.renumber ρ), p.2)) <$> upgradeGroups source version groups := by
  induction groups with
  | nil => rfl
  | cons g rest ih =>
    rw [List.map_cons, upgradeGroups, upgradeGroups, map_bind]
    refine bind_congr fun result => ?_
    cases result with
    | error f => rfl
    | ok r =>
      simp only [ih, map_bind, bind_map_left, map_pure, groupEdits_renumber, groupRecord_renumber,
        List.map_append]

end Pinning

end PinnedActions
