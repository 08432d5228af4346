import PinnedActions.Proofs.Pinning.Records
import PinnedActions.Proofs.Pinning.UpgradeThenVerify
import PinnedActions.Proofs.Resolver.WriteOnce

/-!
# What an update has to account for

Every usage in scope meets one **fate** in an update: there is a warning about it, or one record
counts it, as moved or as unchanged.  `update_accounts_for_every_usage` says that the report is the
account of these fates and of nothing else.

A record has the commit that was found last for any of the usages that it counts.  That it is the
commit of all of them is due to the memory of the resolver.  As no name has a bar in it, usages with
one record are of one repository and have versions with one lowercase form (`recordKey_inj`), so
their resolutions are remembered under one key; and what is remembered stays, so at the end of the
run it is still what each of them resolved to (`Recalled`).  A spelling of a version that fails
before another one succeeds has no part in this; it has a warning.
-/

set_option autoImplicit false

namespace PinnedActions

/-! ## Keys -/

/-- **The key of a record has a repository and a version in it**, each in lowercase, and they can be
told from it if there is no bar in the name of the repository. -/
theorem Pinning.recordKey_inj {a b : Action} {v w : Text} (ha : '|' ∉ a.repository)
    (hb : '|' ∉ b.repository) (h : recordKey a v = recordKey b w) :
    a.repoKey = b.repoKey ∧ Text.lowercase v = Text.lowercase w := by
  have hbar : ∀ {a : Action}, '|' ∉ a.repository → '|' ∉ a.repoKey := fun ha hmem =>
    ha (Text.mark_mem_of_mem_lowercase (by decide) hmem)
  exact (Text.append_mark_inj (hbar ha) (hbar hb)).1 h

namespace Pinning

open Resolver Walk

variable {source : Source} {settings : Settings} {target : Target}
  {files files' : List WorkflowFile} {s t u : Session} {o o' : Occurrence}

/-- Versions with one lowercase form, of repositories with one key, are remembered under one key. -/
theorem specKey_eq_of_lowercase_eq {a b : Action} {v w : Text} (ha : a.IsPlain)
    (hrepo : a.repoKey = b.repoKey) (hv : v.NoBlanks) (hw : w.NoBlanks)
    (h : Text.lowercase v = Text.lowercase w) :
    specKey a.owner a.repo v = specKey b.owner b.repo w := by
  obtain ⟨howner, hname⟩ := Action.lowercase_eq_of_repoKey_eq ha hrepo
  refine key_eq_key_iff.2 ⟨howner, hname, Version.foldedForm_eq_of_lowercase_eq ?_⟩
  rwa [Text.trim_of_isTrimmed (Text.isTrimmed_of_noBlanks hv),
    Text.trim_of_isTrimmed (Text.isTrimmed_of_noBlanks hw)]

/-! ## What the session recalls -/

/-- The remark that a comment has after its version. -/
abbrev remarkOf (o : Occurrence) : Text := (Comment.split o.usage.comment).2

/-- What an update made of an occurrence, as far as a session recalls it: there is a warning, or the
version resolved to what the session has for it. -/
inductive Recalled (t : Session) (o : Occurrence) : Verdict → Prop where
  | warned (message : Text) : Recalled t o (.warned (warn o message))
  | resolved {r : Resolution} (hversion : versionOf o ≠ [])
      (hlookup : t.specs.lookup
        (specKey o.usage.action.owner o.usage.action.repo (versionOf o)) = some r) :
      Recalled t o (.resolved (versionOf o) r
        (editFor o r.commit (Comment.join (versionOf o) (remarkOf o))))

theorem Recalled.lookup {version : Text} {r : Resolution} {edit : Option Edit}
    (h : Recalled t o (.resolved version r edit)) : version.NoBlanks ∧
      t.specs.lookup (specKey o.usage.action.owner o.usage.action.repo version) = some r := by
  cases h with
  | resolved _ hlookup => exact ⟨Comment.noBlanks_split _, hlookup⟩

/-- A verdict has a warning, or there is a record that counts it. -/
theorem Recalled.isSome_warning? {v : Verdict} (h : Recalled t o v) :
    v.warning?.isSome = !(keyFor (o, v)).isSome := by
  cases h <;> rfl

theorem Recalled.isFor {v : Verdict} (h : Recalled t o v) : IsFor o v := by
  intro e he
  cases h with
  | warned => cases he
  | resolved =>
    obtain ⟨-, rfl⟩ := editFor_eq_some.1 he
    rfl

theorem recalled_of_judgeUpdate {v : Verdict} (h : (judgeUpdate source o).run s = some (v, t)) :
    Recalled t o v := by
  cases judgesUpdate_of_run h with
  | unversioned => exact .warned _
  | settled h =>
    cases h with
    | warned => exact .warned _
    | resolved hrun =>
      refine .resolved (fun hempty => ?_) (lookup_of_resolveSpec hrun)
      have hblank : Text.trim (versionOf o) = [] := by rw [hempty]; rfl
      rw [resolveSpec_of_blank hblank] at hrun
      cases hrun

/-- What is recalled stays so. -/
theorem Recalled.mono {v : Verdict} (h : Recalled s o v) (hkept : s.KeptIn t) : Recalled t o v := by
  cases h with
  | warned message => exact .warned message
  | resolved hversion hlookup => exact .resolved hversion (hkept.specs _ _ hlookup)

/-- What every call on a resolver respects, the verdicts of an update do. -/
theorem respects_of_judgeUpdates {rel : Session → Session → Prop} (hrel : Respected source rel)
    {os : List Occurrence} {vs : List Verdict}
    (h : (judgeAll (judgeUpdate source) os).run s = some (vs, t)) : rel s t :=
  respects_of_judgeAll hrel (fun _ _ _ _ => respects_of_judgeUpdate hrel) h

/-- **At the end of a run all of it is recalled.** -/
theorem recalled_of_judgeAll {os : List Occurrence} {vs : List Verdict}
    (h : (judgeAll (judgeUpdate source) os).run s = some (vs, t)) :
    List.Forall₂ (Recalled t) os vs := by
  induction os generalizing s vs with
  | nil =>
    cases h
    exact .nil
  | cons o rest ih =>
    obtain ⟨v, u, h1, h⟩ := Sure.run_bind_eq_some h
    obtain ⟨others, w, h2, h⟩ := Sure.run_bind_eq_some h
    cases h
    have hkept : u.KeptIn t := respects_of_judgeUpdates respected_keptIn h2
    exact .cons ((recalled_of_judgeUpdate h1).mono hkept) (ih h2)

/-! ## Fates -/

/-- What becomes of a usage in an update. -/
inductive Fate where
  /-- There is a warning about it. -/
  | warned (warning : Warning)
  /-- A record counts it as updated. -/
  | moved (record : UpdateRecord)
  /-- A record counts it as unchanged. -/
  | kept (record : UpdateRecord)
deriving DecidableEq, Repr

/-- The warning about a usage. -/
def Fate.warning? : Fate → Option Warning
  | warned w => some w
  | _ => none

/-- Whether a usage ends as a record says: the record is for its repository and its version, it has
the commit of the record up to the case of ASCII letters, and in its comment are the version and the
remark that were there before. -/
structure EndsAs (record : UpdateRecord) (o o' : Occurrence) : Prop where
  place : o'.place = o.place
  repository : Text.lowercase record.repository = keyOf o
  version : Text.lowercase record.spec = Text.lowercase (versionOf o)
  commit : Text.sameIgnoringCase record.commit o'.usage.reference = true
  comment : Comment.split o'.usage.comment = Comment.split o.usage.comment

/-- Whether a usage with some fate ends like this, given the records of the report.  A usage is moved
if it does not have the commit and the comment already; all others end as they were. -/
inductive Meets (records : List UpdateRecord) : Occurrence × Fate → Occurrence → Prop where
  | warned {o : Occurrence} (message : Text) : Meets records (o, .warned (warn o message)) o
  | moved {o o' : Occurrence} {record : UpdateRecord} (hrecord : record ∈ records)
      (hagrees : agrees o.usage record.commit (Comment.join (versionOf o) (remarkOf o)) = false)
      (hends : EndsAs record o o') : Meets records (o, .moved record) o'
  | kept {o : Occurrence} {record : UpdateRecord} (hrecord : record ∈ records)
      (hagrees : agrees o.usage record.commit (Comment.join (versionOf o) (remarkOf o)) = true)
      (hends : EndsAs record o o) : Meets records (o, .kept record) o

/-- The fate that goes with a verdict, given all records. -/
def fateOf (ledger : Ledger) : Ruling → Fate
  | (o, .resolved version _ edit) =>
    if edit.isSome then .moved (recordAt ledger o.usage.action version)
    else .kept (recordAt ledger o.usage.action version)
  | (o, v) => .warned (v.warning?.getD (warn o []))

/-- Occurrences with their fates, once all of them are counted. -/
def accountOf (qs : List Ruling) : List (Occurrence × Fate) :=
  qs.map fun q => (q.1, fateOf (qs.foldl addRecord []) q)

theorem Recalled.warning?_fateOf {v : Verdict} (h : Recalled t o v) (ledger : Ledger) :
    (fateOf ledger (o, v)).warning? = v.warning? := by
  cases h with
  | warned message => rfl
  | @resolved r =>
    rw [fateOf]
    split <;> rfl

section Rulings

variable {qs : List Ruling} {ledger : Ledger} (htallies : Tallies qs ledger)
  (hrecalled : ∀ o v, (o, v) ∈ qs → Recalled t o v)
  (hplain : ∀ o v, (o, v) ∈ qs → o.usage.action.IsPlain)
  (hbar : ∀ o v, (o, v) ∈ qs → '|' ∉ o.usage.action.repository)

include htallies in
/-- A record has the key that it is filed under. -/
theorem key_of_tallies {p : Text × UpdateRecord} (hp : p ∈ ledger) : p.1 = p.2.key := by
  obtain ⟨o, version, r, edit, -, hkey, hrepository, hspec⟩ := htallies.named p hp
  rw [UpdateRecord.key, hrepository, hspec, ← hkey]
  rfl

include hrecalled hplain hbar in
/-- **What is counted under one key resolved to one thing.** -/
theorem resolution_eq {o o' : Occurrence} {version version' : Text} {r r' : Resolution}
    {edit edit' : Option Edit} (hq : (o, .resolved version r edit) ∈ qs)
    (hq' : (o', .resolved version' r' edit') ∈ qs)
    (hkey : recordKey o.usage.action version = recordKey o'.usage.action version') : r = r' := by
  obtain ⟨hrepo, hversion⟩ := recordKey_inj (hbar _ _ hq) (hbar _ _ hq') hkey
  obtain ⟨hword, hlookup⟩ := (hrecalled _ _ hq).lookup
  obtain ⟨hword', hlookup'⟩ := (hrecalled _ _ hq').lookup
  rw [specKey_eq_of_lowercase_eq (hplain _ _ hq) hrepo hword hword' hversion] at hlookup
  exact Option.some.inj (hlookup.symm.trans hlookup')

include htallies hrecalled hplain hbar in
/-- **Whatever a record counts, it has the commit of it**, and is for its repository and version. -/
theorem exists_record {o : Occurrence} {version : Text} {r : Resolution} {edit : Option Edit}
    (hq : (o, .resolved version r edit) ∈ qs) :
    ∃ record, (recordKey o.usage.action version, record) ∈ ledger ∧
      Text.lowercase record.repository = keyOf o ∧
      Text.lowercase record.spec = Text.lowercase version ∧ record.commit = r.commit := by
  obtain ⟨record, hrecord⟩ := htallies.counted _ hq _ rfl
  obtain ⟨o₁, v₁, r₁, edit₁, hq₁, hkey₁, hrepository, hspec⟩ := htallies.named _ hrecord
  obtain ⟨o₂, v₂, r₂, edit₂, hq₂, hkey₂, -, hcommit⟩ := htallies.found _ hrecord
  obtain ⟨hrepo, hversion⟩ := recordKey_inj (hbar _ _ hq₁) (hbar _ _ hq) hkey₁
  refine ⟨record, hrecord, ?_, hspec ▸ hversion, ?_⟩
  · rw [hrepository]
    exact hrepo
  · rw [hcommit, resolution_eq hrecalled hplain hbar hq₂ hq hkey₂]

include htallies in
/-- The record that is filed under the key of a version is the record at it. -/
theorem recordAt_of_mem {a : Action} {version : Text} {record : UpdateRecord}
    (h : (recordKey a version, record) ∈ ledger) : recordAt ledger a version = record := by
  rw [recordAt, htallies.inOrder.lookup_of_mem h, Option.getD_some]

include htallies hrecalled hplain hbar in
/-- **Each usage meets the fate that goes with the verdict on it.** -/
theorem meets_fateOf (hlower : t.CommitsAre fun c => Text.lowercase c = c) {o : Occurrence}
    {v : Verdict} (hq : (o, v) ∈ qs) :
    Meets (ledger.map Prod.snd) (o, fateOf ledger (o, v)) (carriedOut o v) := by
  cases hrecalled _ _ hq with
  | warned message => exact .warned message
  | @resolved r hversion hlookup =>
    obtain ⟨record, hrecord, hrepository, hspec, hcommit⟩ :=
      exists_record htallies hrecalled hplain hbar hq
    have hmem : record ∈ ledger.map Prod.snd := List.mem_map.2 ⟨_, hrecord, rfl⟩
    rw [fateOf, recordAt_of_mem htallies hrecord]
    cases hedit : editFor o r.commit (Comment.join (versionOf o) (remarkOf o)) with
    | none =>
      have hagrees := editFor_eq_none.1 hedit
      rw [← hcommit] at hagrees
      have hsame := (Bool.and_eq_true_iff.1 hagrees).1
      exact .kept hmem hagrees ⟨rfl, hrepository, hspec, hsame, rfl⟩
    | some e =>
      obtain ⟨hagrees, rfl⟩ := editFor_eq_some.1 hedit
      have hreference : Text.lowercase r.commit = record.commit := by
        rw [hcommit]
        exact hlower.specs _ r hlookup
      have hsplit : Comment.split (Comment.join (versionOf o) (remarkOf o)) =
          Comment.split o.usage.comment := by
        rw [Comment.split_join hversion (Comment.noBlanks_split _)]
        exact Prod.ext rfl (Text.trim_trim _)
      rw [← hcommit] at hagrees
      exact .moved hmem hagrees ⟨rfl, hrepository, hspec,
        Text.sameIgnoringCase_iff.2 (congrArg _ hreference.symm), hsplit⟩

include htallies in
/-- Records are told apart by what they are filed under. -/
theorem recordAt_eq_iff {key : Text} {record : UpdateRecord} (hrecord : (key, record) ∈ ledger)
    {o : Occurrence} {version : Text} {r : Resolution} {edit : Option Edit}
    (hq : (o, .resolved version r edit) ∈ qs) :
    recordAt ledger o.usage.action version = record ↔ recordKey o.usage.action version = key := by
  constructor
  · intro hat
    obtain ⟨record', hrecord'⟩ := htallies.counted _ hq _ rfl
    have hkey : recordKey o.usage.action version = record'.key := key_of_tallies htallies hrecord'
    rw [hkey, ← recordAt_of_mem htallies hrecord', hat]
    exact (key_of_tallies htallies hrecord).symm
  · rintro rfl
    exact recordAt_of_mem htallies hrecord

include htallies in
theorem movesUnder_iff {key : Text} {record : UpdateRecord} (hrecord : (key, record) ∈ ledger)
    {q : Ruling} (hq : q ∈ qs) : movesUnder key q = true ↔ fateOf ledger q = .moved record := by
  obtain ⟨o, v⟩ := q
  cases v with
  | pass => exact iff_of_false nofun nofun
  | warned w => exact iff_of_false nofun nofun
  | resolved version r edit =>
    have hat := recordAt_eq_iff htallies hrecord hq
    cases edit with
    | none => simp [movesUnder, fateOf, Verdict.edit?]
    | some e => simp [movesUnder, fateOf, Verdict.edit?, keyFor, hat]

include htallies in
theorem staysUnder_iff {key : Text} {record : UpdateRecord} (hrecord : (key, record) ∈ ledger)
    {q : Ruling} (hq : q ∈ qs) : staysUnder key q = true ↔ fateOf ledger q = .kept record := by
  obtain ⟨o, v⟩ := q
  cases v with
  | pass => exact iff_of_false nofun nofun
  | warned w => exact iff_of_false nofun nofun
  | resolved version r edit =>
    have hat := recordAt_eq_iff htallies hrecord hq
    cases edit with
    | none => simp [staysUnder, fateOf, Verdict.edit?, keyFor, hat]
    | some e => simp [staysUnder, fateOf, Verdict.edit?]

include htallies in
/-- **A record counts the fates that name it.** -/
theorem counts_of_mem {record : UpdateRecord} (hrecord : record ∈ ledger.map Prod.snd) :
    record.updated = (qs.map (fateOf ledger)).count (.moved record) ∧
      record.unchanged = (qs.map (fateOf ledger)).count (.kept record) ∧
      0 < record.updated + record.unchanged := by
  obtain ⟨⟨key, record⟩, hmem, rfl⟩ := List.mem_map.1 hrecord
  have hcounts := htallies.counts _ hmem
  have hupdated : record.updated = (qs.map (fateOf ledger)).count (.moved record) := by
    rw [hcounts.updated, List.count, List.countP_map]
    exact List.countP_congr fun q hq => (movesUnder_iff htallies hmem hq).trans beq_iff_eq.symm
  have hunchanged : record.unchanged = (qs.map (fateOf ledger)).count (.kept record) := by
    rw [hcounts.unchanged, List.count, List.countP_map]
    exact List.countP_congr fun q hq => (staysUnder_iff htallies hmem hq).trans beq_iff_eq.symm
  refine ⟨hupdated, hunchanged, ?_⟩
  -- the usage that the record was named after is one of those that it counts
  obtain ⟨o, version, r, edit, hq, hkey, -⟩ := htallies.named _ hmem
  have hkeyFor : keyFor (o, .resolved version r edit) = some key := congrArg some hkey
  rw [hcounts.updated, hcounts.unchanged]
  cases edit with
  | none =>
    have hstays : staysUnder key (o, .resolved version r none) = true := by
      simp [staysUnder, hkeyFor, Verdict.edit?]
    exact Nat.add_pos_right _ (List.countP_pos_iff.2 ⟨_, hq, hstays⟩)
  | some e =>
    have hmoves : movesUnder key (o, .resolved version r (some e)) = true := by
      simp [movesUnder, hkeyFor, Verdict.edit?]
    exact Nat.add_pos_left (List.countP_pos_iff.2 ⟨_, hq, hmoves⟩) _

include htallies in
/-- The records are in the order of their keys. -/
theorem pairwise_key : ((ledger.map Prod.snd).map UpdateRecord.key).Pairwise
    fun a b => Text.before a b = true := by
  have hkeys : (ledger.map Prod.snd).map UpdateRecord.key = ledger.map Prod.fst := by
    rw [List.map_map]
    exact List.map_congr_left fun p hp => (key_of_tallies htallies hp).symm
  rw [hkeys]
  exact List.pairwise_map.2 htallies.inOrder

include htallies in
/-- No two records are for one repository and one version. -/
theorem nodup_repository_version : ((ledger.map Prod.snd).map fun record =>
    (Text.lowercase record.repository, Text.lowercase record.spec)).Nodup := by
  refine List.Nodup.of_map (fun p => p.1 ++ '|' :: p.2) ?_
  rw [List.map_map]
  exact (pairwise_key htallies).imp fun hlt => (before_iff.1 hlt).ne

end Rulings

/-! ## All files -/

/-- Whether usages with their fates are an account of an update: they are the usages in scope, each
of them ends as its fate has it, the warnings of the report are those among the fates, and each of
its records counts the fates that name it. -/
structure AccountsFor (settings : Settings) (target : Target) (files files' : List WorkflowFile)
    (report : UpdateReport) (account : List (Occurrence × Fate)) : Prop where
  usages : account.map Prod.fst = inScope settings target files
  ends : List.Forall₂ (Meets report.records) account (inScope settings target files')
  warnings : report.warnings = account.filterMap fun p => p.2.warning?
  updated : ∀ record ∈ report.records,
    record.updated = (account.map Prod.snd).count (.moved record)
  unchanged : ∀ record ∈ report.records,
    record.unchanged = (account.map Prod.snd).count (.kept record)

section Verdicts

variable {os : List Occurrence} {vs : List Verdict} (hrecalled : List.Forall₂ (Recalled t) os vs)

include hrecalled

theorem map_fst_rulings : (os.zip vs).map Prod.fst = os :=
  List.map_fst_zip hrecalled.length_eq.le

theorem map_snd_rulings : (os.zip vs).map Prod.snd = vs :=
  List.map_snd_zip hrecalled.length_eq.ge

theorem recalled_of_mem_rulings {o : Occurrence} {v : Verdict} (hq : (o, v) ∈ os.zip vs) :
    Recalled t o v :=
  (List.forall₂_iff_zip.1 hrecalled).2 hq

/-- Each occurrence is in the end what its verdict makes of it. -/
theorem map_edited_rulings (hnodup : (os.map Occurrence.place).Nodup) :
    os.map (edited (editsOf vs)) = (os.zip vs).map fun q => carriedOut q.1 q.2 := by
  rw [map_edited_of_isFor (hrecalled.imp fun _ _ h => h.isFor) hnodup, List.map_zip_eq_zipWith]
  rfl

theorem warningsOf_eq_filterMap : warningsOf vs = (os.zip vs).filterMap fun q => q.2.warning? :=
  calc warningsOf vs = ((os.zip vs).map Prod.snd).filterMap Verdict.warning? := by
        rw [map_snd_rulings hrecalled, warningsOf]
    _ = (os.zip vs).filterMap fun q => q.2.warning? := List.filterMap_map

/-- The warnings are those among the fates. -/
theorem warningsOf_eq_filterMap_fateOf (ledger : Ledger) :
    warningsOf vs = (os.zip vs).filterMap fun q => (fateOf ledger q).warning? := by
  rw [warningsOf_eq_filterMap hrecalled]
  exact List.filterMap_congr fun q hq =>
    ((recalled_of_mem_rulings hrecalled hq).warning?_fateOf ledger).symm

theorem length_editsOf : (editsOf vs).length = (os.zip vs).countP fun q => q.2.edit?.isSome := by
  have hcount : ((os.zip vs).map Prod.snd).countP (fun v => v.edit?.isSome) =
      (os.zip vs).countP fun q => q.2.edit?.isSome := List.countP_map
  rw [← hcount, map_snd_rulings hrecalled, editsOf, List.length_filterMap_eq_countP]

/-- What is not counted in a record has a warning. -/
theorem length_warningsOf_add : (warningsOf vs).length +
    (os.zip vs).countP (fun q => (keyFor q).isSome) = os.length := by
  have hwarnings : (warningsOf vs).length =
      (os.zip vs).countP fun q => decide ¬(keyFor q).isSome = true := by
    rw [warningsOf_eq_filterMap hrecalled, List.length_filterMap_eq_countP]
    refine List.countP_congr fun q hq => ?_
    rw [(recalled_of_mem_rulings hrecalled hq).isSome_warning?]
    simp
  rw [hwarnings, Nat.add_comm, ← List.length_eq_countP_add_countP, List.length_zip,
    hrecalled.length_eq, Nat.min_self]

end Verdicts

/-- **The fates that go with the verdicts are an account of the update.** -/
theorem accountsFor_accountOf (hs : s.IsReached source) {contents : List (Bytes × Text)}
    (hbar : ∀ o ∈ inScope settings target (load contents),
      '|' ∉ o.usage.action.owner ∧ '|' ∉ o.usage.action.repo) {vs : List Verdict}
    (hrun : (judgeAll (judgeUpdate source) (inScope settings target (load contents))).run s =
      some (vs, t)) :
    AccountsFor settings target (load contents) (applyEdits (load contents) (editsOf vs))
      (updateReport (inScope settings target (load contents)) vs
        (applyEdits (load contents) (editsOf vs)))
      (accountOf ((inScope settings target (load contents)).zip vs)) := by
  have hrecalled := recalled_of_judgeAll hrun
  have htallies := tallies_foldl ((inScope settings target (load contents)).zip vs)
  have hlower : t.CommitsAre fun c => Text.lowercase c = c :=
    respects_of_judgeUpdates respected_lowercase hrun (commitsAre_lowercase_of_isReached hs)
  have hmem : ∀ o v, (o, v) ∈ (inScope settings target (load contents)).zip vs →
      Recalled t o v := fun o v => recalled_of_mem_rulings hrecalled
  have hplain : ∀ o v, (o, v) ∈ (inScope settings target (load contents)).zip vs →
      o.usage.action.IsPlain := fun o v hq => isPlain_of_mem_inScope (List.of_mem_zip hq).1
  have hnobar : ∀ o v, (o, v) ∈ (inScope settings target (load contents)).zip vs →
      '|' ∉ o.usage.action.repository := fun o v hq => by
    obtain ⟨howner, hrepo⟩ := hbar o (List.of_mem_zip hq).1
    simp [Action.repository, howner, hrepo]
  refine ⟨?_, ?_, ?_, fun record hrecord => ?_, fun record hrecord => ?_⟩ <;> rw [accountOf]
  · rw [List.map_map]
    exact map_fst_rulings hrecalled
  · rw [inScope_applyEdits, map_edited_rulings hrecalled (nodup_place_inScope _ _ _),
      List.forall₂_map_left_iff, List.forall₂_map_right_iff, List.forall₂_same]
    exact fun q hq => meets_fateOf htallies hmem hplain hnobar hlower hq
  · rw [List.filterMap_map]
    exact warningsOf_eq_filterMap_fateOf hrecalled _
  · rw [List.map_map]
    exact (counts_of_mem htallies hrecord).1
  · rw [List.map_map]
    exact (counts_of_mem htallies hrecord).2.1

/-- **An update accounts for every usage once.**  After an update that ends well, of files that were
just read, from whatever earlier calls have left behind, and with no bar in the names of the
repositories in scope:

* there is an account of the report (`AccountsFor`), in which each usage in scope has one fate;
* so the warnings and the counts of all records add up to the number of usages in scope;
* no record counts nothing, there is one record for a repository and a version in lowercase, and they
  are in the strict order of their keys;
* the report counts the usages that were moved for all records together. -/
theorem update_accounts_for_every_usage (hs : s.IsReached source) {contents : List (Bytes × Text)}
    (hbar : ∀ o ∈ inScope settings target (load contents),
      '|' ∉ o.usage.action.owner ∧ '|' ∉ o.usage.action.repo)
    {report : UpdateReport}
    (h : (update source settings target (load contents)).run s = some ((.ok report, files'), t)) :
    (∃ account, AccountsFor settings target (load contents) files' report account) ∧
    report.warnings.length +
        (report.records.map fun record => record.updated + record.unchanged).sum =
      (inScope settings target (load contents)).length ∧
    (∀ record ∈ report.records, 0 < record.updated + record.unchanged) ∧
    (report.records.map fun record =>
      (Text.lowercase record.repository, Text.lowercase record.spec)).Nodup ∧
    (report.records.map UpdateRecord.key).Pairwise (fun a b => Text.before a b = true) ∧
    report.updated = (report.records.map UpdateRecord.updated).sum := by
  cases updateRun_of_run h with
  | @judged vs _ _ hrun =>
    have hrecalled := recalled_of_judgeAll hrun
    have htallies := tallies_foldl ((inScope settings target (load contents)).zip vs)
    refine ⟨⟨_, accountsFor_accountOf hs hbar hrun⟩, ?_,
      fun record hrecord => (counts_of_mem htallies hrecord).2.2,
      nodup_repository_version htallies, pairwise_key htallies, ?_⟩
    · rw [updateReport, List.map_map]
      exact (congrArg _ (sum_counted _)).trans (length_warningsOf_add hrecalled)
    · rw [updateReport, List.map_map]
      exact (length_editsOf hrecalled).trans (sum_updated _).symm

/-- A catalog in which `o/r` has one tag, which is told apart from others by its letter case. -/
def oneSpelling : Source := Source.ofTable [("repos/o/r/git/ref/tags/main".toList,
  .ok (.obj [("object".toList,
    .obj [("sha".toList, .str (List.replicate 40 'A')), ("type".toList, .str commitType)])]))]

/-- Three spellings of one version, the first of which is unknown, and a usage without a version. -/
def spelledContents : List (Bytes × Text) := [(Utf8.bytes "ci.yml",
  ("- uses: o/r@v0 # Main\n- uses: o/r/x@v0 # main (keep)\n" ++
    "- uses: O/R@aaaaaaaaaaaaaaaaaaaaaaaaaaaaaaaaaaaaaaaa # MAIN\n- uses: o/r@v0\n").toList)]

/-- What the update has to report. -/
def spelledReport : UpdateReport where
  records := [⟨"o/r".toList, "main".toList, "main".toList, List.replicate 40 'a', 1, 1⟩]
  updated := 1
  filesChanged := 1
  warnings := [⟨Utf8.bytes "ci.yml", 1,
      "unable to resolve o/r spec Main: not found: repos/o/r/git/ref/tags/Main".toList⟩,
    ⟨Utf8.bytes "ci.yml", 4, "missing version comment for o/r".toList⟩]

/-- The file once it is updated. -/
def spelledUpdated : List WorkflowFile :=
  applyEdits (load spelledContents) [⟨0, 1, List.replicate 40 'a', "main (keep)".toList⟩]

theorem update_accounts_for_every_usage_of_spelledContents :
    ((update oneSpelling .default .everything (load spelledContents)).run .empty).map Prod.fst =
      some (.ok spelledReport, spelledUpdated) ∧
    ∃ account, AccountsFor .default .everything (load spelledContents) spelledUpdated spelledReport
      account := by
  have hrun : ((update oneSpelling .default .everything (load spelledContents)).run .empty).map
      Prod.fst = some (.ok spelledReport, spelledUpdated) := by decide +kernel
  obtain ⟨⟨_, t⟩, h, rfl⟩ := Option.map_eq_some_iff.1 hrun
  exact ⟨hrun, (update_accounts_for_every_usage ⟨[], rfl⟩ (by decide +kernel) h).1⟩

end Pinning

end PinnedActions
