import PinnedActions.Catalog.Endpoint
import PinnedActions.Failure

/-!
# Catalogs

A **catalog** answers paths.  The answer is a JSON value or a failure, and it depends on the path
alone, so a catalog is a function; that it may change in the course of time is expressed by using
another catalog for the next call.

What a catalog says decides how long some searches take: a chain of tag objects may be long, and a
listing may have many pages.  Such a walk is therefore made with some **patience**, a number of steps
after which it is given up.  A `Source` is a catalog together with the patience to use with it.  For
a catalog that has only so many entries `Source.ofTable` chooses a patience that suffices for every
walk that ends at all.
-/

set_option autoImplicit false

namespace PinnedActions

/-- What a catalog says about a path. -/
abbrev Answer := Except Failure Json

/-- A function that answers paths. -/
abbrev Catalog := Text → Answer

/-- A catalog and the number of steps to go on with a walk. -/
structure Source where
  catalog : Catalog
  patience : Nat

namespace Catalog

/-- The catalog that says what a table says, and knows nothing else. -/
def ofTable (table : List (Text × Answer)) : Catalog := fun path =>
  match table.lookup path with
  | some answer => answer
  | none => .error (.notFound path)

end Catalog

namespace Source

/-- The catalog of a table.  A walk that does not come back to a path it has seen uses up an entry
with every step, so it ends within as many steps as there are entries, and one more. -/
def ofTable (table : List (Text × Answer)) : Source := ⟨Catalog.ofTable table, table.length + 1⟩

end Source

end PinnedActions
