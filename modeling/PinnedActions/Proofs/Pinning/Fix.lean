import PinnedActions.Proofs.Pinning.Reload
import PinnedActions.Proofs.Pinning.Verdict
import PinnedActions.Proofs.Resolver.Commits
import PinnedActions.Proofs.Version.Comment

/-!
# What a fix makes of a usage

A fix goes by the version in the comment of a usage, or by its reference (`basis`), and asks for one
resolution (`judgeFix_eq`).  Its verdicts say what becomes of the occurrences: as no two of them
stand at one place, each occurrence is in the end what its own verdict makes of it
(`map_edited_of_isFor`).  What is written for a commit that is a full hash can be read back
(`writable_of_basis`).
-/

set_option autoImplicit false

namespace PinnedActions

namespace Pinning

open Resolver Walk

variable {source : Source} {s t : Session}

/-! ## One usage -/

/-- The version that a fix goes by, and the remark that it keeps. -/
def basis (u : Usage) : Option (Text × Text) :=
  if (Comment.split u.comment).1 ≠ [] then some (Comment.split u.comment)
  else if Version.isFullHash u.reference then none
  else some (u.reference, [])

theorem judgeFix_of_none {o : Occurrence} (h : basis o.usage = none) :
    judgeFix source o = pure .pass := by
  rw [basis] at h
  split at h
  · cases h
  · rename_i hversion
    split at h
    · rename_i hhash
      rw [not_not] at hversion
      simp [judgeFix, hversion, hhash]
    · cases h

theorem judgeFix_of_some {o : Occurrence} {version remark : Text}
    (h : basis o.usage = some (version, remark)) :
    judgeFix source o = settle source o version remark (unfixableMessage o.usage version) := by
  rw [basis] at h
  split at h
  · rename_i hversion
    rw [Option.some_inj] at h
    rw [h] at hversion
    simp [judgeFix, h, hversion]
  · rename_i hversion
    split at h
    · cases h
    · rename_i hhash
      cases h
      rw [not_not] at hversion
      simp [judgeFix, hversion, hhash]

/-- All that judging a usage can come to: there is nothing to go by, or the version does not
resolve, or it resolves. -/
inductive Judges (source : Source) (o : Occurrence) (s : Session) : Verdict → Session → Prop where
  | pass (h : basis o.usage = none) : Judges source o s .pass s
  | warned {version remark : Text} {f : Failure} {t : Session}
      (h : basis o.usage = some (version, remark))
      (hrun : (resolveSpec source o.usage.action.owner o.usage.action.repo version).runFrom s =
        some (.error f, t)) :
      Judges source o s (.warned (warn o (unfixableMessage o.usage version f))) t
  | resolved {version remark : Text} {r : Resolution} {t : Session}
      (h : basis o.usage = some (version, remark))
      (hrun : (resolveSpec source o.usage.action.owner o.usage.action.repo version).runFrom s =
        some (.ok r, t)) :
      Judges source o s (.resolved version r (editFor o r.commit (Comment.join version remark))) t

theorem judges_of_run {o : Occurrence} {v : Verdict} (h : (judgeFix source o).run s = some (v, t)) :
    Judges source o s v t := by
  cases hbasis : basis o.usage with
  | none =>
    rw [judgeFix_of_none hbasis] at h
    cases h
    exact .pass hbasis
  | some p =>
    obtain ⟨version, remark⟩ := p
    rw [judgeFix_of_some hbasis] at h
    cases settleRun_of_run h with
    | warned hrun => exact .warned hbasis hrun
    | resolved hrun => exact .resolved hbasis hrun

/-! ## What is written -/

/-- What is asked of a usage so that its reference can become the version in its comment. -/
structure Fixable (u : Usage) : Prop where
  nonempty : u.reference ≠ []
  reference : u.reference.NoBlanks
  comment : '\n' ∉ u.comment

/-- The version is one word, and the remark is on the same line. -/
theorem basis_spec {u : Usage} (hu : Fixable u) {version remark : Text}
    (h : basis u = some (version, remark)) :
    version ≠ [] ∧ version.NoBlanks ∧ '\n' ∉ remark := by
  rw [basis] at h
  split at h
  · rename_i hversion
    rw [Option.some_inj] at h
    have hmem : ∀ c ∈ remark, c ∈ (Comment.split u.comment).2 := fun c hc => by rwa [h]
    have hword := Comment.noBlanks_split u.comment
    rw [h] at hversion hword
    exact ⟨hversion, hword, fun hc => hu.comment (Comment.mem_of_mem_split (.inr (hmem _ hc)))⟩
  · split at h
    · cases h
    · cases h
      exact ⟨hu.nonempty, hu.reference, List.not_mem_nil⟩

/-- **What is written for a commit that is a full hash is read back**, when the version is one word
and the remark is on one line. -/
theorem writable_join {version remark commit : Text} (hword : version.NoBlanks)
    (hremark : '\n' ∉ remark) (hhash : Version.isFullHash commit = true) :
    Usage.Writable commit (Comment.join version remark) := by
  have hlower := Version.isFullHash_lowercase hhash
  refine ⟨fun hnil => ?_, Version.isOrdinary_of_isFullHash hlower,
    Comment.isTrimmed_join hword, fun hmem => ?_⟩
  · rw [hnil] at hlower
    cases hlower
  · rcases Comment.mem_of_mem_join hmem with hmem | hmem | hmem
    · exact absurd (hword _ hmem) (by decide)
    · exact absurd hmem (by decide)
    · exact hremark hmem

theorem writable_of_basis {u : Usage} (hu : Fixable u) {version remark commit : Text}
    (h : basis u = some (version, remark)) (hhash : Version.isFullHash commit = true) :
    Usage.Writable commit (Comment.join version remark) :=
  have ⟨_, hword, hremark⟩ := basis_spec hu h
  writable_join hword hremark hhash

/-- Whether a verdict has no edit but one for an occurrence, which writes a full hash and one of some
comments. -/
def EditsTo (o : Occurrence) (comments : Text → Prop) (v : Verdict) : Prop :=
  ∀ e, v.edit? = some e → ∃ commit comment, Version.isFullHash commit = true ∧
    comments comment ∧ editFor o commit comment = some e

/-- Whether a comment is what a fix writes for a usage. -/
def IsFixed (u : Usage) (comment : Text) : Prop :=
  ∃ version remark, basis u = some (version, remark) ∧ comment = Comment.join version remark

/-- **A fix writes full hashes**, and the comments that it goes by. -/
theorem Judges.editsTo {o : Occurrence} {v : Verdict} (h : Judges source o s v t)
    (hhex : source.catalog.HexCommits) (hs : s.CommitsAre fun c => Version.isFullHash c = true) :
    EditsTo o (IsFixed o.usage) v ∧ t.CommitsAre fun c => Version.isFullHash c = true := by
  have hsupplies := supplies_isFullHash hhex
  cases h with
  | pass _ => exact ⟨nofun, hs⟩
  | warned _ hrun => exact ⟨nofun, (resolveSpec_ensures hsupplies _ s _ t hs hrun).1⟩
  | resolved hbasis hrun =>
    obtain ⟨ht, hhash⟩ := resolveSpec_ensures hsupplies _ s _ t hs hrun
    exact ⟨fun e he => ⟨_, _, hhash _ rfl, ⟨_, _, hbasis, rfl⟩, he⟩, ht⟩

/-- Whether a verdict has no edit but one that is about an occurrence and can be read back. -/
def EditsWell (o : Occurrence) (v : Verdict) : Prop :=
  ∀ e, v.edit? = some e → e.place = o.place ∧ e.Writable

theorem EditsTo.editsWell {o : Occurrence} {comments : Text → Prop} {v : Verdict}
    (h : EditsTo o comments v) (hwritable : ∀ commit comment, Version.isFullHash commit = true →
      comments comment → Usage.Writable commit comment) : EditsWell o v := by
  intro e he
  obtain ⟨commit, comment, hhash, hcomment, hedit⟩ := h e he
  obtain ⟨-, rfl⟩ := editFor_eq_some.1 hedit
  exact ⟨rfl, hwritable commit comment hhash hcomment⟩

theorem Judges.editsWell {o : Occurrence} {v : Verdict} (h : Judges source o s v t)
    (hhex : source.catalog.HexCommits) (hu : Fixable o.usage)
    (hs : s.CommitsAre fun c => Version.isFullHash c = true) :
    EditsWell o v ∧ t.CommitsAre fun c => Version.isFullHash c = true := by
  refine (h.editsTo hhex hs).imp_left fun hedits => hedits.editsWell ?_
  rintro commit _ hhash ⟨version, remark, hbasis, rfl⟩
  exact writable_of_basis hu hbasis hhash

/-! ## All usages -/

theorem editsWell_of_judgeAll {os : List Occurrence} (hhex : source.catalog.HexCommits)
    (hos : ∀ o ∈ os, Fixable o.usage) {vs : List Verdict}
    (hs : s.CommitsAre fun c => Version.isFullHash c = true)
    (h : (judgeAll (judgeFix source) os).run s = some (vs, t)) :
    List.Forall₂ EditsWell os vs :=
  forall₂_of_judgeAll
    (fun o ho _ _ _ hs h => (judges_of_run h).editsWell hhex (hos o ho) hs) hs h

/-- The occurrence once a verdict on it is carried out. -/
def carriedOut (o : Occurrence) (v : Verdict) : Occurrence :=
  match v.edit? with
  | some e => { o with usage := o.usage.repinned e.reference e.comment }
  | none => o

theorem exists_of_mem_editsOf {os : List Occurrence} {vs : List Verdict}
    (h : List.Forall₂ EditsWell os vs) {e : Edit} (he : e ∈ editsOf vs) :
    ∃ o ∈ os, e.place = o.place ∧ e.Writable := by
  obtain ⟨o, ho, v, hv, hedit⟩ := exists_verdict_of_mem_filterMap h he
  exact ⟨o, ho, hv e hedit⟩

/-- **Each occurrence is in the end what its verdict makes of it.** -/
theorem map_edited_of_isFor {os : List Occurrence} {vs : List Verdict}
    (h : List.Forall₂ IsFor os vs) (hnodup : (os.map Occurrence.place).Nodup) :
    os.map (edited (editsOf vs)) = List.zipWith carriedOut os vs := by
  induction h with
  | nil => rfl
  | @cons o v os vs hv hrest ih =>
    rw [List.map_cons, List.nodup_cons] at hnodup
    have hout : ∀ e ∈ editsOf vs, e.place ≠ o.place := fun e he hplace => by
      obtain ⟨o', ho', v', hv', he'⟩ := exists_verdict_of_mem_filterMap hrest he
      exact hnodup.1 (List.mem_map.2 ⟨o', ho', (hv' e he').symm.trans hplace⟩)
    rw [List.map_cons, List.zipWith_cons_cons, ← ih hnodup.2]
    cases he : v.edit? with
    | none =>
      have hedits : editsOf (v :: vs) = editsOf vs := List.filterMap_cons_none he
      rw [hedits, edited_of_not_mem hout, carriedOut, he]
    | some e =>
      have hedits : editsOf (v :: vs) = e :: editsOf vs := List.filterMap_cons_some he
      have hplace := hv e he
      have hhead : edit o e = carriedOut o v := by
        rw [edit, if_pos hplace.symm, carriedOut, he]
      have htail : ∀ o' ∈ os, edit o' e = o' := fun o' ho' =>
        if_neg fun h => hnodup.1 (List.mem_map.2 ⟨o', ho', h.trans hplace⟩)
      rw [hedits]
      congr 1
      · rw [edited, List.foldl_cons, ← edited, edited_of_not_mem, hhead]
        rwa [place_edit]
      · refine List.map_congr_left fun o' ho' => ?_
        rw [edited, List.foldl_cons, ← edited, htail o' ho']

theorem map_edited_editsOf {os : List Occurrence} {vs : List Verdict}
    (h : List.Forall₂ EditsWell os vs) (hnodup : (os.map Occurrence.place).Nodup) :
    os.map (edited (editsOf vs)) = List.zipWith carriedOut os vs :=
  map_edited_of_isFor (h.imp fun _ _ hv e he => (hv e he).1) hnodup

end Pinning

end PinnedActions
