/-
The target of a request.

A target is a path and perhaps a query, percent-encoded.  Both are decoded here; the path
first loses its dot segments, and only then is decoded, so an encoded slash is a slash.
-/
import UsageLedger.Text.Percent

namespace UsageLedger.Http

/-- Adds a segment to those before it; a dot adds nothing, and two dots take one away. -/
def addSegment (segments : List (List Char)) (segment : List Char) : List (List Char) :=
  if segment = ['.'] then segments
  else if segment = ['.', '.'] then
    if segments = [[]] then segments else segments.dropLast
  else segments ++ [segment]

/-- The segments of a path, without dot segments. -/
def segments (path : List Char) : List (List Char) :=
  (Text.parts '/' path).foldl addSegment []

/-- What a request is about. -/
structure Target where
  /-- The decoded segments of the path; the first is empty. -/
  path : List (List Char)
  query : List (String × String)
  deriving DecidableEq, Repr

/-- Reads a target.  What follows a number sign is not part of it. -/
def Target.read (target : String) : Target :=
  let cs := target.toList.takeWhile (· ≠ '#')
  let path := segments (cs.takeWhile (· ≠ '?'))
  let decoded := path.map Text.percentDecode
  ⟨decoded.flatMap (Text.parts '/'), Text.queryFields ((cs.dropWhile (· ≠ '?')).drop 1)⟩

/-- The last value under a name in a query. -/
def Target.lastValue? (target : Target) (name : String) : Option String :=
  List.lookup name target.query.reverse

end UsageLedger.Http
