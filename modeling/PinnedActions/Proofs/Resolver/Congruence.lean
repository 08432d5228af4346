import PinnedActions.Proofs.Resolver.Memo
import PinnedActions.Resolver.Spec

/-!
# What the walks of a resolver are made of

A resolver makes its walks out of few things: it asks the catalog about a repository, it fails in one
of five ways of its own, it resolves references, and it does one thing after another.  The walk for a
repository under one spelling and the walk for it under another are made alike, and so are the walks
through two catalogs.

A relation between walks is a **congruence** (`Congruence`) when it holds of what both are made of,
and is kept by what they are made with.  Then it holds of the two walks themselves, one lemma for each
function of the resolver.  What it says about resolving references and version specs depends on what
is remembered, so these are left open where they come in.

A property of single walks is a congruence that looks at one of the two.
-/

set_option autoImplicit false

namespace PinnedActions

namespace Resolver

open Walk

/-- The failures that a resolver comes to by itself, in the same way under two spellings of a
repository. -/
inductive Raises (owner repo owner' repo' : Text) : Failure → Failure → Prop where
  | unsupportedObject (reference type : Text) :
      Raises owner repo owner' repo' (.unsupportedObject reference type)
        (.unsupportedObject reference type)
  | noReleaseFound (spec : Text) :
      Raises owner repo owner' repo' (.noReleaseFound owner repo spec)
        (.noReleaseFound owner' repo' spec)
  | noMatchingRelease (spec : Text) :
      Raises owner repo owner' repo' (.noMatchingRelease owner repo spec)
        (.noMatchingRelease owner' repo' spec)
  | noRelease : Raises owner repo owner' repo' (.noRelease owner repo) (.noRelease owner' repo')
  | emptySpec : Raises owner repo owner' repo' .emptySpec .emptySpec

/-- Whether the answers about an endpoint are read with a reader. -/
inductive ReadWith : {α : Type} → Endpoint → (Json → Except Mismatch α) → Prop where
  | tagReference (name : Text) : ReadWith (.tagReference name) Payload.gitReference
  | tagObject (hash : Text) : ReadWith (.tagObject hash) Payload.gitReference
  | releases (page : Nat) : ReadWith (.releases page) Payload.releases
  | tags (page : Nat) : ReadWith (.tags page) Payload.tags
  | latestRelease : ReadWith .latestRelease Payload.release
  | newestTag : ReadWith .newestTag Payload.tags

/-- Whether a relation between walks has what the walks through two catalogs, for two spellings of a
repository, are made of, and is kept by what they are made with. -/
structure Congruence (source source' : Source) (owner repo owner' repo' : Text)
    (C : ∀ α : Type, Walk α → Walk α → Prop) : Prop where
  patience : source.patience = source'.patience
  pure : ∀ (α : Type) (a : α), C α (Pure.pure a) (Pure.pure a)
  fail : ∀ (α : Type) (f f' : Failure), Raises owner repo owner' repo' f f' →
    C α (Walk.fail f) (Walk.fail f')
  endless : ∀ α : Type, C α Walk.endless Walk.endless
  fetch : ∀ (α : Type) (e : Endpoint) (read : Json → Except Mismatch α), ReadWith e read →
    C α (Walk.fetch source (e.path owner repo) read)
      (Walk.fetch source' (e.path owner' repo') read)
  bind : ∀ (α β : Type) (w w' : Walk α) (k k' : α → Walk β), C α w w' → (∀ a, C β (k a) (k' a)) →
    C β (w >>= k) (w' >>= k')
  ifFound : ∀ (α : Type) (w w' : Walk α), C α w w' → C (Option α) w.ifFound w'.ifFound

section

variable {source : Source} {owner repo : Text}

/-! ## References -/

theorem resolveReference_of_hash {name : Text} (h : Version.isFullHash name = true) :
    resolveReference source owner repo name = pure (Text.lowercase name) := by
  rw [resolveReference, if_pos h]

/-- Any other reference is looked up once, and remembered. -/
theorem resolveReference_eq_memo {name : Text} (h : Version.isFullHash name = false) :
    resolveReference source owner repo name =
      memo (fun s => s.references.lookup (Session.key owner repo name))
        (fun commit s => s.addReference (Session.key owner repo name) commit)
        (dereference source owner repo name) := by
  rw [resolveReference, if_neg (by simp [h])]
  refine bind_congr fun s => ?_
  dsimp only
  cases s.references.lookup (Session.key owner repo name) <;> rfl

/-! ## Versions -/

/-- The tag and the commit for a minor or a major version, which the listings are searched for. -/
def resolveListed (source : Source) (owner repo normalized : Text) (kind : Version.Kind) :
    Walk Resolution := do
  let tag ← findMatchingTag source owner repo normalized kind
  let commit ← resolveReference source owner repo tag
  return ⟨tag, commit⟩

theorem latest_of_asked {version : Option Text} {spec : Text}
    (h : (version.filter fun v => !(Text.trim v).isEmpty) = some spec) :
    latest source owner repo version = resolveSpec source owner repo spec := by
  unfold latest
  rw [h]

theorem latest_of_not_asked {version : Option Text}
    (h : (version.filter fun v => !(Text.trim v).isEmpty) = none) :
    latest source owner repo version = latest source owner repo none := by
  unfold latest
  rw [h]
  rfl

end

namespace Congruence

variable {source source' : Source} {owner repo owner' repo' : Text}
  {C : ∀ α : Type, Walk α → Walk α → Prop}

/-! ## Asking -/

theorem follow (hC : Congruence source source' owner repo owner' repo' C) (patience : Nat)
    (object : GitObject) :
    C GitObject (follow source owner repo patience object)
      (follow source' owner' repo' patience object) := by
  induction patience generalizing object with
  | zero =>
    rw [Resolver.follow, Resolver.follow]
    split
    · exact hC.pure _ _
    · exact hC.endless _
  | succ patience ih =>
    rw [Resolver.follow, Resolver.follow]
    split
    · exact hC.pure _ _
    · exact hC.bind _ _ _ _ _ _ (hC.fetch _ _ _ (.tagObject _)) ih

theorem dereference (hC : Congruence source source' owner repo owner' repo' C) (name : Text) :
    C Text (dereference source owner repo name) (dereference source' owner' repo' name) := by
  unfold Resolver.dereference
  rw [← hC.patience]
  refine hC.bind _ _ _ _ _ _ (hC.fetch _ _ _ (.tagReference _)) fun first =>
    hC.bind _ _ _ _ _ _ (hC.follow ..) fun last => ?_
  split
  · exact hC.fail _ _ _ (.unsupportedObject ..)
  · exact hC.pure _ _

theorem searchFrom (hC : Congruence source source' owner repo owner' repo' C) {α : Type}
    (e : Nat → Endpoint) {read : Json → Except Mismatch (List α)} (hread : ∀ n, ReadWith (e n) read)
    (pick : α → Option Text) (patience page : Nat) :
    C (Option Text) (searchFrom source (fun n => (e n).path owner repo) read pick patience page)
      (searchFrom source' (fun n => (e n).path owner' repo') read pick patience page) := by
  induction patience generalizing page with
  | zero => exact hC.endless _
  | succ patience ih =>
    rw [Resolver.searchFrom, Resolver.searchFrom]
    refine hC.bind _ _ _ _ _ _ (hC.ifFound _ _ _ (hC.fetch _ _ _ (hread page))) fun entries => ?_
    split
    · exact hC.pure _ _
    · split
      · exact hC.pure _ _
      · split
        · exact hC.pure _ _
        · exact ih _

theorem findMatchingTag (hC : Congruence source source' owner repo owner' repo' C) (normalized : Text)
    (kind : Version.Kind) :
    C Text (findMatchingTag source owner repo normalized kind)
      (findMatchingTag source' owner' repo' normalized kind) := by
  unfold Resolver.findMatchingTag searchPages
  rw [← hC.patience]
  refine hC.bind _ _ _ _ _ _ (hC.searchFrom .releases .releases ..) fun name => ?_
  split
  · exact hC.pure _ _
  · refine hC.bind _ _ _ _ _ _ (hC.searchFrom .tags .tags ..) fun name => ?_
    split
    · exact hC.pure _ _
    · exact hC.fail _ _ _ (.noMatchingRelease _)

theorem newestTag (hC : Congruence source source' owner repo owner' repo' C) :
    C Resolution (newestTag source owner repo) (newestTag source' owner' repo') := by
  unfold Resolver.newestTag
  refine hC.bind _ _ _ _ _ _ (hC.fetch _ _ _ .newestTag) fun tags => ?_
  split
  · exact hC.pure _ _
  · exact hC.fail _ _ _ .noRelease

/-! ## Resolving references -/

theorem firstExisting (hC : Congruence source source' owner repo owner' repo' C)
    (href : ∀ name, C Text (resolveReference source owner repo name)
      (resolveReference source' owner' repo' name)) (names : List Text) :
    C (Option Resolution) (firstExisting source owner repo names)
      (firstExisting source' owner' repo' names) := by
  induction names with
  | nil => exact hC.pure _ _
  | cons name rest ih =>
    rw [Resolver.firstExisting, Resolver.firstExisting]
    refine hC.bind _ _ _ _ _ _ (hC.ifFound _ _ _ (href name)) fun found => ?_
    split
    · exact hC.pure _ _
    · exact ih

theorem resolveListed (hC : Congruence source source' owner repo owner' repo' C)
    (href : ∀ name, C Text (resolveReference source owner repo name)
      (resolveReference source' owner' repo' name)) (normalized : Text) (kind : Version.Kind) :
    C Resolution (resolveListed source owner repo normalized kind)
      (resolveListed source' owner' repo' normalized kind) :=
  hC.bind _ _ _ _ _ _ (hC.findMatchingTag ..) fun tag =>
    hC.bind _ _ _ _ _ _ (href tag) fun _ => hC.pure _ _

/-- **Walks that look a version up are related** when those that resolve references are. -/
theorem lookUp (hC : Congruence source source' owner repo owner' repo' C)
    (href : ∀ name, C Text (resolveReference source owner repo name)
      (resolveReference source' owner' repo' name)) (spec normalized : Text)
    (kind : Version.Kind) :
    C Resolution (lookUp source owner repo spec normalized kind)
      (lookUp source' owner' repo' spec normalized kind) := by
  cases kind with
  | exact =>
    refine hC.bind _ _ _ _ _ _ (hC.firstExisting href _) fun found => ?_
    split
    · exact hC.pure _ _
    · exact hC.fail _ _ _ (.noReleaseFound _)
  | literal => exact hC.bind _ _ _ _ _ _ (href spec) fun _ => hC.pure _ _
  | minor => exact hC.resolveListed href normalized .minor
  | major => exact hC.resolveListed href normalized .major

theorem latestRelease (hC : Congruence source source' owner repo owner' repo' C)
    (href : ∀ name, C Text (resolveReference source owner repo name)
      (resolveReference source' owner' repo' name)) :
    C (Option Resolution) (latestRelease source owner repo)
      (latestRelease source' owner' repo') := by
  unfold Resolver.latestRelease
  refine hC.bind _ _ _ _ _ _ (hC.ifFound _ _ _ (hC.fetch _ _ _ .latestRelease)) fun release => ?_
  split
  · exact hC.pure _ _
  · split
    · exact hC.pure _ _
    · refine hC.bind _ _ _ _ _ _ (hC.ifFound _ _ _ (href _)) fun commit => ?_
      split
      · exact hC.pure _ _
      · exact hC.pure _ _

/-- **So are walks to the latest version**, when those that resolve specs are, too. -/
theorem latest (hC : Congruence source source' owner repo owner' repo' C)
    (href : ∀ name, C Text (resolveReference source owner repo name)
      (resolveReference source' owner' repo' name))
    {version : Option Text}
    (hspec : ∀ spec, (version.filter fun v => !(Text.trim v).isEmpty) = some spec →
      C Resolution (resolveSpec source owner repo spec) (resolveSpec source' owner' repo' spec)) :
    C Resolution (latest source owner repo version) (latest source' owner' repo' version) := by
  cases h : version.filter fun v => !(Text.trim v).isEmpty with
  | some spec =>
    rw [latest_of_asked h, latest_of_asked h]
    exact hspec spec h
  | none =>
    rw [latest_of_not_asked h, latest_of_not_asked h]
    refine hC.bind _ _ _ _ _ _ (hC.latestRelease href) fun found => ?_
    split
    · exact hC.pure _ _
    · exact hC.newestTag

end Congruence

end Resolver

end PinnedActions
