import PinnedActions.Catalog.Payload
import PinnedActions.Json.Parser

/-!
# Failures

Everything that can go wrong, as causes; `Failure.message` has the wording.

Two classes of failures steer the search for a version.  A failure that `isNotFound` means that the
catalog does not have what was asked for, and the search goes on with the next candidate.  A failure
that `isExhausted` means that there was no next candidate.  All others end whatever is going on.
-/

set_option autoImplicit false

namespace PinnedActions

/-- What the file system can refuse. -/
inductive DiskFault where
  | missing
  | exists
  | notDirectory
  | isDirectory
  | noDevice
  | tooManyLinks
  | notText
deriving DecidableEq, Repr

/-- The wording of a refusal of the file system. -/
def DiskFault.message : DiskFault → Text
  | .missing => "No such file or directory (os error 2)".toList
  | .exists => "File exists (os error 17)".toList
  | .notDirectory => "Not a directory (os error 20)".toList
  | .isDirectory => "Is a directory (os error 21)".toList
  | .noDevice => "No such device or address (os error 6)".toList
  | .tooManyLinks => "Too many levels of symbolic links (os error 40)".toList
  | .notText => "stream did not contain valid UTF-8".toList

/-- Why an answer of the catalog could not be used. -/
inductive DecodeFault where
  /-- The body is not JSON. -/
  | malformed (fault : Json.Fault)
  /-- The body is JSON of another shape. -/
  | mismatch (mismatch : Mismatch)
deriving DecidableEq, Repr

/-- The wording of such a cause. -/
def DecodeFault.message : DecodeFault → Text
  | .malformed fault => fault.message
  | .mismatch m => m.message

/-- Everything that can go wrong. -/
inductive Failure where
  /-- The catalog does not have what was asked for. -/
  | notFound (path : Text)
  /-- The catalog answered with a status that is neither a success nor a 404. -/
  | http (status : Nat) (path message : Text)
  /-- There was no answer. -/
  | transport (message : Text)
  /-- The answer is not what it should be. -/
  | decode (path : Text) (cause : DecodeFault)
  /-- A tag points to something other than a commit. -/
  | unsupportedObject (reference type : Text)
  /-- No spelling of an exact version is a tag. -/
  | noReleaseFound (owner repo spec : Text)
  /-- No release and no tag satisfies a version. -/
  | noMatchingRelease (owner repo spec : Text)
  /-- A repository has neither releases nor tags. -/
  | noRelease (owner repo : Text)
  | emptySpec
  | invalidRepository (argument : Text)
  | repositoryNotReferenced (repository : Text)
  | disk (fault : DiskFault)
  /-- The settings are not the YAML that they should be. -/
  | settings
deriving DecidableEq, Repr

namespace Failure

/-- Whether the catalog does not have what was asked for. -/
def isNotFound : Failure → Bool
  | notFound _ => true
  | _ => false

/-- Whether every candidate was tried in vain. -/
def isExhausted : Failure → Bool
  | noReleaseFound .. | noMatchingRelease .. | noRelease .. => true
  | _ => false

/-- The wording of a failure. -/
def message : Failure → Text
  | notFound path => "not found: ".toList ++ path
  | http status path m =>
    "HTTP ".toList ++ Text.decimal status ++ " for ".toList ++ path ++ ": ".toList ++ m
  | transport m => "request failed: ".toList ++ m
  | decode path cause =>
    "failed to decode response for ".toList ++ path ++ ": ".toList ++ cause.message
  | unsupportedObject reference type =>
    "tag ".toList ++ reference ++ " resolved to unsupported type ".toList ++ type
  | noReleaseFound owner repo spec =>
    "no release found for ".toList ++ owner ++ '/' :: repo ++ " with tag ".toList ++ spec
  | noMatchingRelease owner repo spec =>
    "no release found matching ".toList ++ spec ++ " for ".toList ++ owner ++ '/' :: repo
  | noRelease owner repo => "no release or tag found for ".toList ++ owner ++ '/' :: repo
  | emptySpec => "empty version specification".toList
  | invalidRepository argument =>
    "repository argument must be in the form owner/repo: '".toList ++ argument ++ ['\'']
  | repositoryNotReferenced repository =>
    "repository ".toList ++ repository ++
      " not referenced in workflows or composite actions".toList
  | disk fault => fault.message
  | settings => "the document is not one of settings".toList

/-- The wording of a failure followed by the wording of its cause, when it has one. -/
def chain : Failure → Text
  | decode path cause => (decode path cause).message ++ ": ".toList ++ cause.message
  | f => f.message

end Failure

end PinnedActions
