import PinnedActions.Resolver.Session

/-!
# The commit of a reference

A full commit hash is its own commit.  Any other reference is the name of a tag.  A tag points to an
object, which may be a tag object that points on; `follow` goes along that chain until it comes to
something else, and that has to be a commit.  Only a commit that was found is remembered.
-/

set_option autoImplicit false

namespace PinnedActions

namespace Resolver

/-- The type of an object that points on. -/
def tagType : Text := "tag".toList

/-- The type of an object that a reference may end at. -/
def commitType : Text := "commit".toList

/-- The object at the end of a chain of tag objects. -/
def follow (source : Source) (owner repo : Text) : Nat → GitObject → Walk GitObject
  | patience, object =>
    if object.type ≠ tagType then return object
    else match patience with
      | 0 => Walk.endless
      | patience + 1 => do
        let next ← Walk.fetch source (Endpoint.path owner repo (.tagObject object.hash))
          Payload.gitReference
        follow source owner repo patience next

/-- The commit at the end of the chain that starts at a tag, asking the catalog for every link. -/
def dereference (source : Source) (owner repo name : Text) : Walk Text := do
  let first ← Walk.fetch source (Endpoint.path owner repo (.tagReference name))
    Payload.gitReference
  let last ← follow source owner repo source.patience first
  if last.type ≠ commitType then Walk.fail (.unsupportedObject name last.type)
  else return Text.lowercase last.hash

/-- The commit of a reference, in lowercase. -/
def resolveReference (source : Source) (owner repo reference : Text) : Walk Text := do
  if Version.isFullHash reference then return Text.lowercase reference
  let key := Session.key owner repo reference
  match (← Walk.session).references.lookup key with
  | some commit => return commit
  | none =>
    let commit ← dereference source owner repo reference
    Walk.change (·.addReference key commit)
    return commit

end Resolver

end PinnedActions
