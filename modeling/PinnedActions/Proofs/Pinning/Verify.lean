import PinnedActions.Pinning.Verify
import PinnedActions.Proofs.Disk.PathOrder
import PinnedActions.Proofs.Pinning.Scope
import PinnedActions.Proofs.Resolver.History
import Mathlib.Data.List.ReduceOption

/-!
# No false pass

A usage that `verify` passes is pinned to the commit of the version that its comment names, and
anybody can find that out again: it is **vouched for** (`Vouched`).  `Checks` lists what a check of
one usage can come to, and `Checks.judged` says what that means if the session is sound;
`checkAll_spec` does the same for several usages.  `verify_no_false_pass` puts this together for all
files.
-/

set_option autoImplicit false

namespace PinnedActions

/-- The repository of an action, by owner and name. -/
def Action.ownerAndRepo (a : Action) : Text × Text := (a.owner, a.repo)

namespace Pinning

open Resolver Walk

variable {source : Source} {asked : List (Text × Text)} {s t : Session}

/-- Whether a usage is pinned as it should be: its reference is a full commit hash, its comment
names a version, and there is a tag that satisfies the version and whose commit is that hash. -/
def Vouched (source : Source) (u : Usage) : Prop :=
  Version.isFullHash u.reference = true ∧ (Comment.split u.comment).1 ≠ [] ∧
    ∃ tag commit,
      Version.satisfies tag (Version.classify (Comment.split u.comment).1).2
        (Version.classify (Comment.split u.comment).1).1 = true ∧
      freshCommit source u.action.owner u.action.repo tag = some (.ok commit) ∧
      Text.sameIgnoringCase commit u.reference = true

/-! ## Checking usages -/

theorem check_of_not_pinned {o : Occurrence} (h : Version.isFullHash o.usage.reference = false) :
    check source o = pure (some (issueAt o .notPinned (notPinnedMessage o.usage))) := by
  unfold check
  simp [h]

theorem check_of_no_version {o : Occurrence} (h : Version.isFullHash o.usage.reference = true)
    (hversion : (Comment.split o.usage.comment).1 = []) :
    check source o = pure (some (issueAt o .missingVersion (missingVersionMessage o.usage))) := by
  unfold check
  simp [h, hversion]

/-- What is wrong with an occurrence, given what its version resolves to. -/
def compared (o : Occurrence) (version : Text) : Except Failure Resolution → Option Issue
  | .error f => some (issueAt o .unresolved (unresolvedMessage o.usage version f))
  | .ok r =>
    if Text.sameIgnoringCase r.commit o.usage.reference then none
    else some (issueAt o .mismatch (mismatchMessage o.usage version r))

theorem run_check_of_version {o : Occurrence} (h : Version.isFullHash o.usage.reference = true)
    (hversion : (Comment.split o.usage.comment).1 ≠ []) (s : Session) :
    (check source o).run s =
      ((resolveSpec source o.usage.action.owner o.usage.action.repo
        (Comment.split o.usage.comment).1).runFrom s).map fun p =>
          (compared o (Comment.split o.usage.comment).1 p.1, p.2) := by
  have hempty : (Comment.split o.usage.comment).1.isEmpty = false := by simpa using hversion
  unfold check
  simp only [h, hempty, Bool.not_true, Bool.false_eq_true, if_false]
  rw [StateT.run_bind, Option.map_eq_bind]
  congr 1
  funext p
  obtain ⟨r, t⟩ := p
  cases r with
  | error f => rfl
  | ok r =>
    simp only [compared, Function.comp_apply]
    split <;> rfl

/-- All that checking an occurrence can come to. -/
inductive Checks (source : Source) (o : Occurrence) (s : Session) :
    Option Issue → Session → Prop where
  | notPinned (h : Version.isFullHash o.usage.reference = false) :
      Checks source o s (some (issueAt o .notPinned (notPinnedMessage o.usage))) s
  | missingVersion (h : Version.isFullHash o.usage.reference = true)
      (hversion : (Comment.split o.usage.comment).1 = []) :
      Checks source o s (some (issueAt o .missingVersion (missingVersionMessage o.usage))) s
  | lookedUp {result : Except Failure Resolution} {t : Session}
      (h : Version.isFullHash o.usage.reference = true)
      (hversion : (Comment.split o.usage.comment).1 ≠ [])
      (hrun : (resolveSpec source o.usage.action.owner o.usage.action.repo
        (Comment.split o.usage.comment).1).runFrom s = some (result, t)) :
      Checks source o s (compared o (Comment.split o.usage.comment).1 result) t

theorem checks_of_run {o : Occurrence} {outcome : Option Issue}
    (h : (check source o).run s = some (outcome, t)) : Checks source o s outcome t := by
  cases hhash : Version.isFullHash o.usage.reference with
  | false =>
    rw [check_of_not_pinned hhash] at h
    cases h
    exact .notPinned hhash
  | true =>
    by_cases hversion : (Comment.split o.usage.comment).1 = []
    · rw [check_of_no_version hhash hversion] at h
      cases h
      exact .missingVersion hhash hversion
    rw [run_check_of_version hhash hversion] at h
    obtain ⟨⟨result, u⟩, hrun, houtcome⟩ := Option.map_eq_some_iff.1 h
    cases houtcome
    exact .lookedUp hhash hversion hrun

theorem place_of_compared {o : Occurrence} {version : Text} {result : Except Failure Resolution}
    {issue : Issue} (h : compared o version result = some issue) :
    issue.path = o.path ∧ issue.line = o.usage.lineNumber := by
  cases result with
  | error f =>
    cases h
    exact ⟨rfl, rfl⟩
  | ok r =>
    rw [compared] at h
    split at h
    · cases h
    · cases h
      exact ⟨rfl, rfl⟩

/-- An issue stands where the usage stands. -/
theorem Checks.place {o : Occurrence} {outcome : Option Issue} (h : Checks source o s outcome t)
    {issue : Issue} (hissue : outcome = some issue) :
    issue.path = o.path ∧ issue.line = o.usage.lineNumber := by
  cases h with
  | notPinned _ =>
    cases hissue
    exact ⟨rfl, rfl⟩
  | missingVersion _ _ =>
    cases hissue
    exact ⟨rfl, rfl⟩
  | lookedUp _ _ _ => exact place_of_compared hissue

/-- A usage without an issue is vouched for. -/
theorem Checks.vouched (hblind : source.catalog.CaseBlind asked) (hs : s.Sound source asked)
    {o : Occurrence} (hasked : o.usage.action.ownerAndRepo ∈ asked)
    {outcome : Option Issue} (h : Checks source o s outcome t) (hnone : outcome = none) :
    Vouched source o.usage := by
  cases h with
  | notPinned _ => cases hnone
  | missingVersion _ _ => cases hnone
  | @lookedUp result _ hhash hversion hrun =>
    cases result with
    | error f => cases hnone
    | ok r =>
      rw [compared] at hnone
      split at hnone
      · rename_i hsame
        obtain ⟨hsat, hfresh⟩ := serves_of_resolveSpec hblind hasked hs hrun
        exact ⟨hhash, hversion, r.tag, r.commit, hsat, hfresh, hsame⟩
      · cases hnone

theorem Checks.sound (hblind : source.catalog.CaseBlind asked) (hs : s.Sound source asked)
    {o : Occurrence} (hasked : o.usage.action.ownerAndRepo ∈ asked) {outcome : Option Issue}
    (h : Checks source o s outcome t) : t.Sound source asked := by
  cases h with
  | notPinned _ => exact hs
  | missingVersion _ _ => exact hs
  | lookedUp _ _ hrun => exact resolveSpec_keeps hblind hasked _ s _ t hrun hs

/-- What the outcome of a check means: an issue stands where the usage stands, and no issue means
that the usage is vouched for. -/
def Judged (source : Source) (o : Occurrence) : Option Issue → Prop
  | some issue => issue.path = o.path ∧ issue.line = o.usage.lineNumber
  | none => Vouched source o.usage

theorem Checks.judged (hblind : source.catalog.CaseBlind asked) (hs : s.Sound source asked)
    {o : Occurrence} (hasked : o.usage.action.ownerAndRepo ∈ asked)
    {outcome : Option Issue} (h : Checks source o s outcome t) : Judged source o outcome := by
  cases outcome with
  | some issue => exact h.place rfl
  | none => exact h.vouched hblind hs hasked rfl

theorem checkAll_spec (hblind : source.catalog.CaseBlind asked) {os : List Occurrence}
    (hasked : ∀ o ∈ os, o.usage.action.ownerAndRepo ∈ asked) {issues : List Issue}
    (hs : s.Sound source asked)
    (h : (checkAll source os).run s = some (issues, t)) :
    ∃ outcomes : List (Option Issue),
      List.Forall₂ (Judged source) os outcomes ∧ issues = outcomes.reduceOption := by
  induction os generalizing s issues with
  | nil =>
    cases h
    exact ⟨[], .nil, rfl⟩
  | cons o rest ih =>
    obtain ⟨outcome, u, h1, h⟩ := Sure.run_bind_eq_some h
    obtain ⟨others, v, h2, h⟩ := Sure.run_bind_eq_some h
    cases h
    obtain ⟨ho, hrest⟩ := List.forall_mem_cons.1 hasked
    have hchecks := checks_of_run h1
    obtain ⟨outcomes, hall, rfl⟩ := ih hrest (hchecks.sound hblind hs ho) h2
    refine ⟨outcome :: outcomes, .cons (hchecks.judged hblind hs ho) hall, ?_⟩
    cases outcome <;> rfl

/-! ## All files -/

/-- What becomes of a usage, given with the path of its file.  An issue is about a usage that is not
ignored and stands where it stands; without an issue the usage is ignored or vouched for. -/
def Accounted (source : Source) (settings : Settings) (p : Bytes × Usage) : Option Issue → Prop
  | some issue => settings.ignores p.2.action = false ∧ issue.path = p.1 ∧
      issue.line = p.2.lineNumber
  | none => settings.ignores p.2.action = true ∨ Vouched source p.2

/-- Outcomes for what is in scope are outcomes for everything, with nothing for what is ignored. -/
theorem exists_accounted {settings : Settings} {os : List Occurrence}
    {outcomes : List (Option Issue)}
    (h : List.Forall₂ (Judged source)
      (os.filter fun o => isInScope settings .everything o.usage.action) outcomes) :
    ∃ all : List (Option Issue),
      List.Forall₂ (Accounted source settings) (os.map fun o => (o.path, o.usage)) all ∧
        all.reduceOption = outcomes.reduceOption := by
  induction os generalizing outcomes with
  | nil =>
    cases h
    exact ⟨[], .nil, rfl⟩
  | cons o rest ih =>
    have hscope : isInScope settings .everything o.usage.action =
        !settings.ignores o.usage.action := Bool.true_and _
    rw [List.filter_cons] at h
    split at h
    · rename_i hin
      rw [hscope, Bool.not_eq_true'] at hin
      cases h with
      | @cons _ outcome _ others hjudged hrest =>
        obtain ⟨all, hall, hreduce⟩ := ih hrest
        refine ⟨outcome :: all, .cons ?_ hall, ?_⟩
        · cases outcome with
          | none => exact .inr hjudged
          | some issue => exact ⟨hin, hjudged⟩
        · cases outcome <;> simp [List.reduceOption_cons_of_some, List.reduceOption_cons_of_none,
            hreduce]
    · rename_i hout
      rw [hscope, Bool.not_eq_true', Bool.not_eq_false] at hout
      obtain ⟨all, hall, hreduce⟩ := ih h
      exact ⟨none :: all, .cons (.inl hout) hall, hreduce⟩

theorem exists_of_accounted {settings : Settings} {ps : List (Bytes × Usage)}
    {all : List (Option Issue)} (h : List.Forall₂ (Accounted source settings) ps all)
    {p : Bytes × Usage} (hp : p ∈ ps) :
    Accounted source settings p none ∨
      ∃ issue ∈ all.reduceOption, Accounted source settings p (some issue) := by
  induction h with
  | nil => cases hp
  | @cons q outcome ps all hq _ ih =>
    rcases List.mem_cons.1 hp with rfl | hp
    · cases outcome with
      | none => exact .inl hq
      | some issue => exact .inr ⟨issue, by simp [List.reduceOption_cons_of_some], hq⟩
    · rcases ih hp with h | ⟨issue, hmem, h⟩
      · exact .inl h
      · refine .inr ⟨issue, ?_, h⟩
        cases outcome <;>
          simp [List.reduceOption_cons_of_some, List.reduceOption_cons_of_none, hmem]

/-! ## The order of issues -/

/-- What issues are sorted by. -/
def issueKey (i : Issue) : List (Nat ×ₗ List Nat) ×ₗ Nat := toLex (Path.code i.path, i.line)

theorem issueLe_iff {a b : Issue} : issueLe a b = true ↔ issueKey a ≤ issueKey b := by
  rw [issueKey, issueKey, Prod.Lex.toLex_le_toLex, issueLe]
  split
  · rename_i h
    simp [Path.before_iff.1 h]
  · rename_i h
    rw [Path.before_iff, not_lt] at h
    split
    · rename_i h'
      rw [Path.before_iff] at h'
      simp [h'.ne', h'.not_gt]
    · rename_i h'
      rw [Path.before_iff, not_lt] at h'
      simp [le_antisymm h' h]

theorem pairwise_mergeSort_issueLe (issues : List Issue) :
    (issues.mergeSort issueLe).Pairwise fun a b => Path.before a.path b.path = true ∨
      Path.parts a.path = Path.parts b.path ∧ a.line ≤ b.line := by
  have htrans : ∀ a b c, issueLe a b = true → issueLe b c = true → issueLe a c = true :=
    fun a b c hab hbc => issueLe_iff.2 ((issueLe_iff.1 hab).trans (issueLe_iff.1 hbc))
  have htotal : ∀ a b, (issueLe a b || issueLe b a) = true := fun a b => by
    rw [Bool.or_eq_true, issueLe_iff, issueLe_iff]
    exact le_total _ _
  have hsorted := List.pairwise_mergeSort htrans htotal issues
  refine hsorted.imp fun {a b} hab => ?_
  rwa [issueLe_iff, issueKey, issueKey, Prod.Lex.toLex_le_toLex, ← Path.before_iff,
    Path.code_inj] at hab

/-! ## The whole run -/

/-- **No false pass.**  Every usage is accounted for, in order, by at most one issue; the issues are
listed by path, part by part, and then by line; and a usage that is not ignored and has no issue is
vouched for.  It is enough that the catalog is blind to case for the repositories of the usages and of
the calls that led here. -/
theorem verify_no_false_pass {calls : List Call} (hcalls : afterCalls source .empty calls = some s)
    {settings : Settings} {files : List WorkflowFile} {issues : List Issue}
    (hblind : source.catalog.CaseBlind
      (calls.map Call.repository ++ (usagesOf files).map fun p => p.2.action.ownerAndRepo))
    (h : (verify source settings files).run s = some (issues, t)) :
    (∃ outcomes : List (Option Issue),
      List.Forall₂ (Accounted source settings) (usagesOf files) outcomes ∧
        issues.Perm outcomes.reduceOption) ∧
    issues.Pairwise (fun a b => Path.before a.path b.path = true ∨
      Path.parts a.path = Path.parts b.path ∧ a.line ≤ b.line) ∧
    ∀ f ∈ files, ∀ u ∈ f.usages, settings.ignores u.action = false →
      (∀ issue ∈ issues, ¬(issue.path = f.path ∧ issue.line = u.lineNumber)) →
        Vouched source u := by
  obtain ⟨found, u, hrun, h⟩ := Sure.run_bind_eq_some h
  cases h
  have hs := sound_of_afterCalls hblind
    (fun call hcall => List.mem_append_left _ (List.mem_map_of_mem hcall)) hcalls
  have hasked : ∀ o ∈ inScope settings .everything files, o.usage.action.ownerAndRepo ∈
      calls.map Call.repository ++ (usagesOf files).map fun p => p.2.action.ownerAndRepo := by
    intro o ho
    rw [← map_usage_occurrences, List.map_map]
    exact List.mem_append_right _
      (List.mem_map_of_mem (f := fun o => o.usage.action.ownerAndRepo) (List.mem_of_mem_filter ho))
  obtain ⟨outcomes, hjudged, rfl⟩ := checkAll_spec hblind hasked hs hrun
  obtain ⟨all, hall, hreduce⟩ := exists_accounted hjudged
  rw [map_usage_occurrences] at hall
  have hperm := List.mergeSort_perm outcomes.reduceOption issueLe
  rw [← hreduce] at hperm ⊢
  refine ⟨⟨all, hall, hperm⟩, pairwise_mergeSort_issueLe _, fun f hf u hu hignored hnone => ?_⟩
  have hmem : (f.path, u) ∈ usagesOf files :=
    List.mem_flatMap.2 ⟨f, hf, List.mem_map.2 ⟨u, hu, rfl⟩⟩
  rcases exists_of_accounted hall hmem with haccounted | ⟨issue, hissue, -, hplace⟩
  · rcases haccounted with hignores | hvouched
    · rw [hignored] at hignores
      cases hignores
    · exact hvouched
  · exact absurd hplace (hnone issue (hperm.mem_iff.2 hissue))

/-- A catalog in which every repository has a tag `v1.0.0`, and no other. -/
def onlyExact : Source := ⟨Catalog.ofEnding "/v1.0.0".toList (List.replicate 40 'a'), 1⟩

/-- A usage that is pinned to it. -/
def pinnedUsage : Usage where
  line := 0
  indent := "- ".toList
  separator := [' ']
  quote := .bare
  action := ⟨['o'], ['r'], none⟩
  reference := List.replicate 40 'a'
  comment := "v1.0.0".toList

theorem verify_no_false_pass_pinned :
    (verify onlyExact .default [⟨Utf8.bytes "ci.yml", ⟨[], false⟩, [pinnedUsage]⟩]).run .empty =
      some ([], {
        references := [(Session.key ['o'] ['r'] "v1.0.0".toList, List.replicate 40 'a')]
        specs := [(Session.key ['o'] ['r'] "v1.0.0".toList,
          ⟨"v1.0.0".toList, List.replicate 40 'a'⟩)]
        fetched := ["repos/o/r/git/ref/tags/v1.0.0".toList] }) ∧
    Vouched onlyExact pinnedUsage :=
  have hrun : (verify onlyExact .default
      [⟨Utf8.bytes "ci.yml", ⟨[], false⟩, [pinnedUsage]⟩]).run .empty = some ([], {
        references := [(Session.key ['o'] ['r'] "v1.0.0".toList, List.replicate 40 'a')]
        specs := [(Session.key ['o'] ['r'] "v1.0.0".toList,
          ⟨"v1.0.0".toList, List.replicate 40 'a'⟩)]
        fetched := ["repos/o/r/git/ref/tags/v1.0.0".toList] }) := by decide +kernel
  have hcalls : afterCalls onlyExact .empty [] = some .empty := rfl
  have hblind := Catalog.caseBlind_ofEnding (by decide) _
  ⟨hrun, (verify_no_false_pass hcalls (hblind _) hrun).2.2 _ List.mem_cons_self
    pinnedUsage List.mem_cons_self (by decide +kernel) (by simp)⟩

end Pinning

end PinnedActions
