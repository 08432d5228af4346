import PinnedActions.Resolver.Listing
import PinnedActions.Resolver.Reference

/-!
# Resolving version specs

`Resolver.resolveSpec` finds the tag and the commit for a version spec.

* An exact version is a tag under one of a few spellings; the first that exists is taken.
* A minor or major version is the first release or tag that satisfies it.
* Anything else is itself the name of a tag.

Results are remembered under the lowercase of the normal form, so two spellings of one version are
looked up once.

`Resolver.latest` finds what an upgrade should move to: the latest release or, when there is none to
be had, the newest tag.
-/

set_option autoImplicit false

namespace PinnedActions

namespace Resolver

/-! ## Exact versions -/

/-- A version without its leading `v`, in either case. -/
def withoutV : Text → Text
  | [] => []
  | c :: rest => if c = 'v' ∨ c = 'V' then rest else c :: rest

/-- The texts that are not empty and differ from all before them in more than ASCII case. -/
def distinctIgnoringCase (candidates : List Text) : List Text :=
  (candidates.foldl (fun kept c =>
    if c.isEmpty || kept.any (Text.sameIgnoringCase · c) then kept else c :: kept) []).reverse

/-- The spellings under which an exact version is looked for, in this order: its normal form, the
spec as it was given, and that without its `v`. -/
def spellings (spec normalized : Text) : List Text :=
  distinctIgnoringCase [normalized, spec, withoutV spec]

/-- The first of several references that exists, with its commit. -/
def firstExisting (source : Source) (owner repo : Text) : List Text → Walk (Option Resolution)
  | [] => return none
  | name :: rest => do
    match ← (resolveReference source owner repo name).ifFound with
    | some commit => return some ⟨name, commit⟩
    | none => firstExisting source owner repo rest

/-- The tag of an exact version. -/
def resolveExact (source : Source) (owner repo spec normalized : Text) : Walk Resolution := do
  match ← firstExisting source owner repo (spellings spec normalized) with
  | some r => return r
  | none => Walk.fail (.noReleaseFound owner repo spec)

/-! ## All versions -/

/-- The tag and the commit for a trimmed spec with its kind and normal form, whatever is
remembered about specs. -/
def lookUp (source : Source) (owner repo spec normalized : Text) :
    Version.Kind → Walk Resolution
  | .exact => resolveExact source owner repo spec normalized
  | .literal => do
    let commit ← resolveReference source owner repo spec
    return ⟨spec, commit⟩
  | kind => do
    let tag ← findMatchingTag source owner repo normalized kind
    let commit ← resolveReference source owner repo tag
    return ⟨tag, commit⟩

/-- The tag and the commit for a version spec. -/
def resolveSpec (source : Source) (owner repo spec : Text) : Walk Resolution := do
  let spec := Text.trim spec
  if spec.isEmpty then Walk.fail .emptySpec
  else
    let (kind, normalized) := Version.classify spec
    let key := Session.key owner repo (Text.lowercase normalized)
    match (← Walk.session).specs.lookup key with
    | some r => return r
    | none =>
      let r ← lookUp source owner repo spec normalized kind
      Walk.change (·.addSpec key r)
      return r

/-! ## The latest version -/

/-- The latest release with its commit, when there is one that names a tag that exists. -/
def latestRelease (source : Source) (owner repo : Text) : Walk (Option Resolution) := do
  match ← (Walk.fetch source (Endpoint.path owner repo .latestRelease) Payload.release).ifFound with
  | none => return none
  | some r =>
    if r.tagName.isEmpty then return none
    else
      match ← (resolveReference source owner repo r.tagName).ifFound with
      | none => return none
      | some commit => return some ⟨r.tagName, commit⟩

/-- The first entry of the listing of tags, when there is one and it has a commit. -/
def newestTag (source : Source) (owner repo : Text) : Walk Resolution := do
  let tags ← Walk.fetch source (Endpoint.path owner repo .newestTag) Payload.tags
  match tags with
  | ⟨name, some hash⟩ :: _ => return ⟨name, Text.lowercase hash⟩
  | _ => Walk.fail (.noRelease owner repo)

/-- What an upgrade moves to: a version when one is asked for, otherwise the latest. -/
def latest (source : Source) (owner repo : Text) (version : Option Text) : Walk Resolution := do
  match version.filter fun v => !(Text.trim v).isEmpty with
  | some spec => resolveSpec source owner repo spec
  | none =>
    match ← latestRelease source owner repo with
    | some r => return r
    | none => newestTag source owner repo

end Resolver

end PinnedActions
