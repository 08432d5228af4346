import PinnedActions.Resolver.Session

/-!
# Searching the listings

A minor or major version is looked for among the releases and, when none of them satisfies it, among
the tags.  Both are listed page by page, newest first, and the first entry that satisfies the version
is the answer.  A page that is not full, or is not there, is the end of its listing.
-/

set_option autoImplicit false

namespace PinnedActions

namespace Resolver

/-- The first entry of a listing of which `pick` makes a name, from a page on. -/
def searchFrom {α : Type} (source : Source) (path : Nat → Text)
    (read : Json → Except Mismatch (List α)) (pick : α → Option Text) :
    Nat → Nat → Walk (Option Text)
  | 0, _ => Walk.endless
  | patience + 1, page => do
    match ← (Walk.fetch source (path page) read).ifFound with
    | none => return none
    | some entries =>
      match entries.findSome? pick with
      | some name => return some name
      | none =>
        if entries.length < pageSize then return none
        else searchFrom source path read pick patience (page + 1)

/-- The first entry of a listing of which `pick` makes a name. -/
def searchPages {α : Type} (source : Source) (path : Nat → Text)
    (read : Json → Except Mismatch (List α)) (pick : α → Option Text) : Walk (Option Text) :=
  searchFrom source path read pick source.patience 1

/-- The name of a release that satisfies a version and is no pre-release. -/
def pickRelease (normalized : Text) (kind : Version.Kind) (r : Release) : Option Text :=
  if !r.prerelease && Version.satisfies r.tagName normalized kind then some r.tagName else none

/-- The name of a tag that satisfies a version. -/
def pickTag (normalized : Text) (kind : Version.Kind) (t : Tag) : Option Text :=
  if Version.satisfies t.name normalized kind then some t.name else none

/-- The first release, or else the first tag, that satisfies a version. -/
def findMatchingTag (source : Source) (owner repo normalized : Text) (kind : Version.Kind) :
    Walk Text := do
  match ← searchPages source (fun page => Endpoint.path owner repo (.releases page))
      Payload.releases (pickRelease normalized kind) with
  | some name => return name
  | none =>
    match ← searchPages source (fun page => Endpoint.path owner repo (.tags page))
        Payload.tags (pickTag normalized kind) with
    | some name => return name
    | none => Walk.fail (.noMatchingRelease owner repo normalized)

end Resolver

end PinnedActions
