import PinnedActions.Pinning.Verify
import PinnedActions.Proofs.Pinning.Restrict
import PinnedActions.Proofs.Pinning.Upgrade
import PinnedActions.Proofs.Pinning.Verdict
import PinnedActions.Proofs.Resolver.Closed

/-!
# Usages that are out of scope

An operation does not see a usage that it is not about.  Taken out of the files, such a usage makes
no difference to what is reported, to what is asked and remembered, to the lines, or to the usages
that are left; and left in the files it stays as it is, and so does its line (`SeesOnly`).  There is
one exception, which is wanted: an operation that is aimed at a repository complains when nothing is
in scope (`ComplainsWithout`).

`sees_only_what_is_in_scope` says so of all four operations.
-/

set_option autoImplicit false

namespace PinnedActions

namespace Pinning

open Resolver Walk

variable {source : Source} {settings : Settings} {target : Target} {version : Option Text}
  {files files' : List WorkflowFile} {s t : Session}

/-! ## What stays -/

/-- Whether one file comes from another by changes of pins in scope only.  The usages keep all but
their pins, and those out of scope keep everything.  A line stays unless a usage in scope stands on
it; so a usage out of scope keeps its line if no two usages stand on one. -/
structure Untouched (settings : Settings) (target : Target) (f f' : WorkflowFile) : Prop where
  path : f'.path = f.path
  unpinned : f'.usages.map Usage.unpinned = f.usages.map Usage.unpinned
  usages : ∀ (i : Nat) (u : Usage), f.usages[i]? = some u → covers settings target u = false →
    f'.usages[i]? = some u
  lines : ∀ k : Nat, (∀ u ∈ f.usages, covers settings target u = true → u.line ≠ k) →
    f'.lines.line? k = f.lines.line? k
  ownLines : f.LinesApart → ∀ u ∈ f.usages, covers settings target u = false →
    f'.lines.line? u.line = f.lines.line? u.line

namespace Untouched

theorem refl (f : WorkflowFile) : Untouched settings target f f where
  path := rfl
  unpinned := rfl
  usages _ _ hu _ := hu
  lines _ _ := rfl
  ownLines _ _ _ _ := rfl

/-- No usage in scope stands on the line of one out of scope. -/
theorem line_ne {f : WorkflowFile} (hf : f.LinesApart) {u : Usage} (hu : u ∈ f.usages)
    (hout : covers settings target u = false) :
    ∀ v ∈ f.usages, covers settings target v = true → v.line ≠ u.line := by
  intro v hv hin hline
  have hsame : v = u := List.inj_on_of_nodup_map hf hv hu hline
  rw [hsame, hout] at hin
  cases hin

theorem repin {f f' : WorkflowFile} (h : Untouched settings target f f') {i : Nat} {u : Usage}
    (hu : f'.usages[i]? = some u) (hin : covers settings target u = true)
    (reference comment : Text) :
    Untouched settings target f (f'.repin i reference comment).1 := by
  -- the usage in scope stood on the same line before
  obtain ⟨u₀, hu₀, hunpinned⟩ : ∃ u₀ ∈ f.usages, u₀.unpinned = u.unpinned := by
    rw [← List.mem_map, ← h.unpinned]
    exact List.mem_map_of_mem (List.mem_of_getElem? hu)
  obtain ⟨hline, -, -, -, haction⟩ := Usage.unpinned_eq_iff.1 hunpinned
  have hin₀ : covers settings target u₀ = true := by rwa [covers, haction]
  have hlines : ∀ k : Nat, (∀ v ∈ f.usages, covers settings target v = true → v.line ≠ k) →
      (f'.repin i reference comment).1.lines.line? k = f.lines.line? k := fun k hk => by
    have hne : ∀ v, f'.usages[i]? = some v → v.line ≠ k := fun v hv => by
      rw [hu] at hv
      cases hv
      exact hline ▸ hk u₀ hu₀ hin₀
    rw [WorkflowFile.line?_repin_of_ne hne, h.lines k hk]
  refine ⟨(WorkflowFile.path_repin ..).trans h.path,
    (WorkflowFile.map_unpinned_repin ..).trans h.unpinned, fun j v hv hout => ?_, hlines,
    fun hf v hv hout => hlines _ (line_ne hf hv hout)⟩
  have hj := h.usages j v hv hout
  have hij : i ≠ j := by
    rintro rfl
    rw [hu] at hj
    cases hj
    rw [hin] at hout
    cases hout
  rw [WorkflowFile.usages_repin, List.getElem?_modify_ne _ _ hij, hj]

end Untouched

/-- **Edits in scope leave the rest alone.** -/
theorem untouched_applyEdits {edits : List Edit}
    (hedits : ∀ e ∈ edits, IsInScope settings target files e) :
    List.Forall₂ (Untouched settings target) files (applyEdits files edits) := by
  suffices h : ∀ files', List.Forall₂ (Untouched settings target) files files' →
      (∀ e ∈ edits, IsInScope settings target files' e) →
        List.Forall₂ (Untouched settings target) files (applyEdits files' edits) from
    h files (List.forall₂_same.2 fun f _ => .refl f) hedits
  clear hedits
  induction edits with
  | nil => exact fun _ h _ => h
  | cons e rest ih =>
    intro files' h hedits
    refine ih (applyEdit files' e) (forall₂_applyEdit h fun f f' hf' hff' => ?_) fun e' he' =>
      (hedits e' (List.mem_cons_of_mem e he')).applyEdits [e]
    obtain ⟨o, ho, hplace⟩ := hedits e List.mem_cons_self
    obtain ⟨⟨f'', hf'', -, hu⟩, hin⟩ := mem_inScope.1 ho
    obtain ⟨hfile, hindex⟩ := Prod.mk.inj hplace
    rw [hfile, hf''] at hf'
    cases hf'
    rw [hindex]
    exact hff'.repin hu hin e.reference e.comment

/-! ## What is seen -/

/-- Whether an operation on some files does not see the usages out of scope.  Without them it does
the same, up to there being fewer usages in the end; and it leaves them alone. -/
structure SeesOnly (settings : Settings) (target : Target) {ρ : Type}
    (op : List WorkflowFile → Sure (ρ × List WorkflowFile)) (files : List WorkflowFile) :
    Prop where
  same : op (onlyInScope settings target files) =
    Prod.map id (onlyInScope settings target) <$> op files
  untouched : ∀ s r files' t, (op files).run s = some ((r, files'), t) →
    List.Forall₂ (Untouched settings target) files files'

/-- Whether an operation that is aimed at a repository complains exactly when it has nothing to do;
then it asks nothing and changes nothing. -/
structure ComplainsWithout (settings : Settings) (key : Text) {ρ : Type}
    (op : List WorkflowFile → Sure (Except Failure ρ × List WorkflowFile))
    (files : List WorkflowFile) : Prop where
  complains : inScope settings (.repository key) files = [] →
    ∀ s, (op files).run s = some ((.error (.repositoryNotReferenced key), files), s)
  only : ∀ s key' files' t,
    (op files).run s = some ((.error (.repositoryNotReferenced key'), files'), t) →
      inScope settings (.repository key) files = []

theorem verify_onlyInScope (files : List WorkflowFile) :
    verify source settings (onlyInScope settings .everything files) =
      verify source settings files := by
  rw [verify, verify, inScope_onlyInScope, checkAll_renumber]

theorem fix_seesOnly (files : List WorkflowFile) :
    SeesOnly settings .everything (fix source settings) files := by
  refine ⟨?_, fun s report files' t h => ?_⟩
  · rw [fix, fix, inScope_onlyInScope, judgeAll_renumber judgeFix_renumber, bind_map_left, map_bind]
    refine Sure.bind_congr fun s vs t hrun => ?_
    have hedits := exists_place_of_judgeAll (fun _ _ _ _ h => isFor_of_judgeFix h) hrun
    simp only [editsOf_renumber, warningsOf_renumber, List.length_map, map_pure, Prod.map_apply,
      id_eq, applyEdits_onlyInScope hedits, countDirty_onlyInScope]
  · obtain ⟨vs, hrun, rfl⟩ := fix_run h
    exact untouched_applyEdits
      (exists_place_of_judgeAll (fun _ _ _ _ h => isFor_of_judgeFix h) hrun)

theorem referenced_onlyInScope :
    Referenced settings target (onlyInScope settings target files) ↔
      Referenced settings target files := by
  rw [Referenced, Referenced, inScope_onlyInScope]
  simp only [ne_eq, List.map_eq_nil_iff]

/-- Where nothing is in scope, there is nothing to see. -/
theorem seesOnly_of_complains {ρ : Type} {key : Text}
    {op : List WorkflowFile → Sure (Except Failure ρ × List WorkflowFile)}
    (hop : ∀ files, inScope settings (.repository key) files = [] →
      op files = pure (.error (.repositoryNotReferenced key), files))
    (hempty : inScope settings (.repository key) files = []) :
    SeesOnly settings (.repository key) op files := by
  refine ⟨?_, fun s report files' t h => ?_⟩
  · have hempty' : inScope settings (.repository key)
        (onlyInScope settings (.repository key) files) = [] := by
      rw [inScope_onlyInScope, hempty, List.map_nil]
    rw [hop files hempty, hop _ hempty', map_pure]
    rfl
  · rw [hop files hempty] at h
    cases h
    exact List.forall₂_same.2 fun f _ => .refl f

theorem update_seesOnly (target : Target) (files : List WorkflowFile) :
    SeesOnly settings target (update source settings target) files := by
  by_cases hreferenced : Referenced settings target files
  · refine ⟨?_, fun s report files' t h => ?_⟩
    · rw [update_of_referenced hreferenced,
        update_of_referenced (referenced_onlyInScope.2 hreferenced), inScope_onlyInScope,
        judgeAll_renumber judgeUpdate_renumber, bind_map_left, map_bind]
      refine Sure.bind_congr fun s vs t hrun => ?_
      have hedits := exists_place_of_judgeAll (fun _ _ _ _ h => isFor_of_judgeUpdate h) hrun
      simp only [editsOf_renumber, warningsOf_renumber, List.length_map, map_pure, Prod.map_apply,
        id_eq, applyEdits_onlyInScope hedits, countDirty_onlyInScope, updateReport,
        foldl_addRecord_renumber]
    · rw [update_of_referenced hreferenced] at h
      obtain ⟨vs, u, hrun, h⟩ := Sure.run_bind_eq_some h
      cases h
      exact untouched_applyEdits
        (exists_place_of_judgeAll (fun _ _ _ _ h => isFor_of_judgeUpdate h) hrun)
  · obtain ⟨key, rfl, hempty⟩ := exists_of_not_referenced hreferenced
    exact seesOnly_of_complains (fun _ => update_of_not_referenced) hempty

theorem upgrade_seesOnly (target : Target) (version : Option Text) (files : List WorkflowFile) :
    SeesOnly settings target (upgrade source settings target version) files := by
  by_cases hreferenced : Referenced settings target files
  · have hplace : ∀ {s edits records t}, (upgradeGroups source version
        (groupByRepository (inScope settings target files))).run s = some ((edits, records), t) →
          ∀ e ∈ edits, IsInScope settings target files e := fun hrun e he => by
      obtain ⟨done, u, -, hprefix, rfl⟩ := (groupsRun_of_run hrun).exists_settles
      exact exists_place_of_mem_editsFor hprefix he
    refine ⟨?_, fun s report files' t h => ?_⟩
    · rw [upgrade_of_referenced hreferenced,
        upgrade_of_referenced (referenced_onlyInScope.2 hreferenced), inScope_onlyInScope,
        groupByRepository_renumber, upgradeGroups_renumber, bind_map_left, map_bind]
      refine Sure.bind_congr fun s p t hrun => ?_
      simp only [map_pure, Prod.map_apply, id_eq, applyEdits_onlyInScope (hplace hrun),
        countDirty_onlyInScope, upgradeReport]
    · rw [upgrade_of_referenced hreferenced] at h
      obtain ⟨⟨edits, records⟩, u, hrun, h⟩ := Sure.run_bind_eq_some h
      cases h
      exact untouched_applyEdits (hplace hrun)
  · obtain ⟨key, rfl, hempty⟩ := exists_of_not_referenced hreferenced
    exact seesOnly_of_complains (fun _ => upgrade_of_not_referenced) hempty

/-! ## When nothing is in scope -/

theorem update_complainsWithout (key : Text) (files : List WorkflowFile) :
    ComplainsWithout settings key (update source settings (.repository key)) files := by
  refine ⟨fun hempty s => ?_, fun s key' files' t h => Decidable.byContradiction fun hne => ?_⟩
  · rw [update_of_not_referenced hempty]
    rfl
  · have hreferenced : Referenced settings (.repository key) files := fun _ hkey => by
      cases hkey
      exact hne
    rw [update_of_referenced hreferenced] at h
    obtain ⟨vs, u, -, h⟩ := Sure.run_bind_eq_some h
    cases h

theorem upgrade_complainsWithout
    (hcatalog : ∀ path key, source.catalog path ≠ .error (.repositoryNotReferenced key))
    (key : Text) (version : Option Text) (files : List WorkflowFile) :
    ComplainsWithout settings key (upgrade source settings (.repository key) version) files := by
  refine ⟨fun hempty s => ?_, fun s key' files' t h => ?_⟩
  · rw [upgrade_of_not_referenced hempty]
    rfl
  · obtain ⟨done, hfails, -⟩ := exists_failsAfter h
    rcases hfails with ⟨g, rest, u, -, -, hrun⟩ | ⟨_, hkey, hempty, -⟩
    · have hfailure := (closed_failsOnly (P := fun f => ∀ key, f ≠ .repositoryNotReferenced key)
        (fun path f hf key hkey => hcatalog path key (hkey ▸ hf)) (fun _ _ => nofun)
        (fun f f' hf => by cases hf <;> exact nofun)).latest_related version u _ t hrun
      exact absurd rfl (hfailure key')
    · cases hkey
      exact hempty

/-! ## All operations -/

/-- **An operation sees only what is in scope.**  None of the four operations sees a usage that it is
not about, and none changes it.  Aimed at a repository, `update` and `upgrade` complain exactly when
nothing is in scope, provided that this is no answer of the catalog. -/
theorem sees_only_what_is_in_scope (source : Source) (settings : Settings)
    (files : List WorkflowFile) :
    verify source settings (onlyInScope settings .everything files) =
        verify source settings files ∧
      SeesOnly settings .everything (fix source settings) files ∧
      (∀ target, SeesOnly settings target (update source settings target) files) ∧
      (∀ target version,
        SeesOnly settings target (upgrade source settings target version) files) ∧
      (∀ key, ComplainsWithout settings key (update source settings (.repository key)) files) ∧
      ((∀ path key, source.catalog path ≠ .error (.repositoryNotReferenced key)) →
        ∀ key version,
          ComplainsWithout settings key (upgrade source settings (.repository key) version) files) :=
  ⟨verify_onlyInScope files, fix_seesOnly files, fun target => update_seesOnly target files,
    fun target version => upgrade_seesOnly target version files,
    fun key => update_complainsWithout key files,
    fun hcatalog key version => upgrade_complainsWithout hcatalog key version files⟩

/-- What the catalog of a table says is in the table, or it is that something is not there. -/
theorem answer_ofTable (table : List (Text × Answer)) (path : Text) :
    Catalog.ofTable table path ∈ table.map Prod.snd ∨
      Catalog.ofTable table path = .error (.notFound path) := by
  rw [Catalog.ofTable]
  cases h : table.lookup path with
  | none => exact .inr rfl
  | some answer =>
    obtain ⟨front, rest, rfl, -⟩ := List.lookup_eq_some_iff.1 h
    exact .inl (by simp)

/-- An upgrade that is aimed at `a/b` leaves the usage of `c/d` alone, and one that is aimed at a
repository that is not used complains. -/
theorem sees_only_what_is_in_scope_of_mixedFile :
    List.Forall₂ (Untouched .default (.repository "a/b".toList)) [mixedFile] [movedFile] ∧
      (upgrade halfway .default (.repository "e/f".toList) none [mixedFile]).run .empty =
        some ((.error (.repositoryNotReferenced "e/f".toList), [mixedFile]), .empty) := by
  have hrun : ((upgrade halfway .default (.repository "a/b".toList) none [mixedFile]).run
      .empty).map (fun p => p.1.2) = some [movedFile] := by decide +kernel
  have hempty : inScope .default (.repository "e/f".toList) [mixedFile] = [] := by decide +kernel
  have hcatalog : ∀ path key, halfway.catalog path ≠ .error (.repositoryNotReferenced key) := by
    intro path key h
    have hanswer : halfway.catalog path ∈ _ ∨ halfway.catalog path = _ := answer_ofTable _ path
    rw [h] at hanswer
    rcases hanswer with hmem | hmissing
    · simp [down] at hmem
    · cases hmissing
  obtain ⟨-, -, -, hsees, -, hcomplains⟩ := sees_only_what_is_in_scope halfway .default [mixedFile]
  obtain ⟨⟨⟨r, files⟩, t⟩, h, rfl⟩ := Option.map_eq_some_iff.1 hrun
  exact ⟨(hsees _ none).untouched _ r _ t h, (hcomplains hcatalog _ none).complains hempty .empty⟩

end Pinning

end PinnedActions
