import PinnedActions.Text.Blank
import PinnedActions.Text.Numeral
import PinnedActions.Usage.Basic

/-!
# Settings of a project

A project may say where the API is, how long to wait for it, and which actions to leave alone.  The
last is a list of **ignore patterns**: `owner/repo` for one repository, `owner/*` for all of an
owner.  Letter case and blanks around a pattern do not count.

`Settings.advice` finds what is wrong with the settings.  A base address that is not one of the web
is an error; a timeout of zero, and a pattern of another shape, are only worth a warning.
-/

set_option autoImplicit false

namespace PinnedActions

/-- The settings of a project. -/
structure Settings where
  apiUrl : Text
  timeoutSeconds : Nat
  ignore : List Text
deriving DecidableEq, Repr

/-- How serious a piece of advice is. -/
inductive Severity where
  | warning
  | error
deriving DecidableEq, Repr

/-- The word for a severity. -/
def Severity.name : Severity → Text
  | .warning => "warning".toList
  | .error => "error".toList

/-- Something to say about the settings. -/
structure Advice where
  severity : Severity
  message : Text
deriving DecidableEq, Repr

namespace Settings

/-- The settings of a project that says nothing. -/
def default : Settings := ⟨"https://api.github.com".toList, 30, []⟩

/-! ## Ignored actions -/

/-- Whether an ignore pattern is about an action. -/
def ignoredBy (pattern : Text) (a : Action) : Bool :=
  let pattern := Text.lowercase (Text.trim pattern)
  match Text.dropEnd? "/*".toList pattern with
  | some owner => owner == Text.lowercase a.owner
  | none => pattern == a.repoKey

/-- Whether an action is to be left alone. -/
def ignores (s : Settings) (a : Action) : Bool := s.ignore.any fun pattern => ignoredBy pattern a

/-! ## Advice -/

/-- Whether a pattern has the shape that patterns should have. -/
def isWellFormed (pattern : Text) : Bool :=
  match (Text.trim pattern).splitOn '/' with
  | [owner, repo] => !owner.isEmpty && !repo.isEmpty && owner != ['*']
  | _ => false

/-- Advice about the timeout. -/
def timeoutAdvice (s : Settings) : List Advice :=
  if s.timeoutSeconds = 0 then
    [⟨.warning, "timeout_secs is 0; requests will use a 1 second timeout".toList⟩]
  else []

/-- Advice about the base address. -/
def apiUrlAdvice (s : Settings) : List Advice :=
  if "http://".toList.isPrefixOf s.apiUrl || "https://".toList.isPrefixOf s.apiUrl then []
  else [⟨.error, "api_url '".toList ++ s.apiUrl ++ "' is not an http(s) URL".toList⟩]

/-- Advice about a pattern. -/
def patternAdvice (pattern : Text) : Option Advice :=
  if isWellFormed pattern then none
  else some ⟨.warning, "ignore pattern '".toList ++ pattern ++
    "' should be 'owner/repo' or 'owner/*'".toList⟩

/-- Everything that there is to say about the settings. -/
def advice (s : Settings) : List Advice :=
  s.timeoutAdvice ++ s.apiUrlAdvice ++ s.ignore.filterMap patternAdvice

end Settings

end PinnedActions
