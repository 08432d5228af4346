import PinnedActions.Json.Double

/-!
# JSON values

The values that the catalog answers with and that reports are printed as.  Integers and other
numbers are kept apart, because a message about a value of the wrong type names them differently.
The members of an object stand in some order; a reader of JSON text puts them in the order of their
keys, and a report lists them in the order in which they are to be printed.
-/

set_option autoImplicit false

namespace PinnedActions

/-- A JSON value. -/
inductive Json where
  | null
  | bool (b : Bool)
  | int (n : Int)
  | real (x : Json.Double)
  | str (s : Text)
  | arr (items : List Json)
  | obj (members : List (Text × Json))

namespace Json

/-- The member of an object with a given key. -/
def member? (key : Text) : Json → Option Json
  | .obj members => members.lookup key
  | _ => none

/-- The text of a JSON string. -/
def text? : Json → Option Text
  | .str s => some s
  | _ => none

/-- The members with one more, in the order of keys.  A member of the same key is replaced. -/
def insertMember (key : Text) (value : Json) : List (Text × Json) → List (Text × Json)
  | [] => [(key, value)]
  | (k, v) :: rest =>
    if key = k then (key, value) :: rest
    else if Text.before key k then (key, value) :: (k, v) :: rest
    else (k, v) :: insertMember key value rest

end Json

end PinnedActions
