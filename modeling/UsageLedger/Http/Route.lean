/-
Where a request goes.

There are five routes, each with one method.  A path that only lacks or has a last slash
too many is pointed to the route it means, whatever the method.
-/
import UsageLedger.Http.Problem
import UsageLedger.Http.Target

namespace UsageLedger.Http

/-- What can be asked for. -/
inductive Route
  | health
  | createKey
  | registerEvent
  | registerBatch
  /-- What a user owes. -/
  | price (user : String)
  deriving DecidableEq, Repr

namespace Route

/-- The method of a route. -/
def method : Route → String
  | health | price _ => "GET"
  | createKey | registerEvent | registerBatch => "POST"

/-- Removes a line feed at the end of the last segment. -/
def dropFinalLineFeed (segment : List Char) : List Char :=
  if segment.getLast? = some '\n' then segment.dropLast else segment

/-- The route of a path.  A line feed at its end does not count. -/
def ofPath? (path : List (List Char)) : Option Route :=
  let last := dropFinalLineFeed (path.getLast?.getD [])
  match (path.dropLast ++ [last]).map String.ofList with
  | ["", "health"] => some health
  | ["", "v1", "api-keys"] => some createKey
  | ["", "v1", "events"] => some registerEvent
  | ["", "v1", "events", "batch"] => some registerBatch
  | ["", "v1", "users", user, "price"] => if user.isEmpty then none else some (price user)
  | _ => none

/-- A path without slashes at its end. -/
def withoutLastSlashes (path : List (List Char)) : List (List Char) :=
  (path.reverse.dropWhile (·.isEmpty)).reverse

/-- The route of a request. -/
def find (method : String) (path : List (List Char)) : Except Problem Route :=
  match ofPath? path with
  | some route => if route.method = method then .ok route else .error .wrongMethod
  | none =>
    if path.getLast? = some [] ∧ (ofPath? (withoutLastSlashes path)).isSome then .error .misplaced
    else .error .notFound

end Route

end UsageLedger.Http
