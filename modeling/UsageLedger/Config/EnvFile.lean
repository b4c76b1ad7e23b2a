/-
Files that lay down environment variables.

A file is a run of bindings `NAME=value`, with blank lines and comments between them.  A
binding may begin with the word `export`.  A value in single quotes is taken as it is, one
in double quotes may hold escapes, and one without quotes ends at a comment; quoted values
may go over several lines.  A name without `=` is bound to nothing, which counts as a
binding of its own.  What cannot be read is left out, up to the end of its line.

In a value, `${NAME}` stands for the value of another variable: one bound earlier in the
file, or else one of the process.
-/
import UsageLedger.Text.Blank

namespace UsageLedger.EnvFile

/-- A name and what it is bound to, if anything. -/
abbrev Binding := String × Option String

/-! ### Lines -/

/-- A blank that does not end a line. -/
def isInlineBlank (c : Char) : Bool := Text.isBlank c && c != '\n' && c != '\r'

/-- The character does not end a line. -/
def isInline (c : Char) : Bool := c != '\n'

/-- A line feed for every end of a line, however it is written. -/
def unifyLineEnds : List Char → List Char
  | [] => []
  | '\r' :: '\n' :: rest => '\n' :: unifyLineEnds rest
  | '\r' :: rest => '\n' :: unifyLineEnds rest
  | c :: rest => c :: unifyLineEnds rest

/-- What comes after the line. -/
def nextLine (cs : List Char) : List Char := (cs.dropWhile isInline).drop 1

/-- Removes a comment, if one follows. -/
def dropComment (cs : List Char) : List Char :=
  match cs.dropWhile isInlineBlank with
  | '#' :: rest => rest.dropWhile isInline
  | _ => cs

/-- Removes the end of a line, when nothing else is left on the line. -/
def endLine? (cs : List Char) : Option (List Char) :=
  match cs.dropWhile isInlineBlank with
  | [] => some []
  | '\n' :: rest => some rest
  | _ => none

/-! ### Names and values

A reader that fails hands back where it did, because the line is left from there.
-/

/-- A part of a binding and the text after it, or the place where reading failed. -/
abbrev Reading (α : Type) := Except (List Char) (α × List Char)

/-- Removes the word `export` in front of a name. -/
def dropExport (cs : List Char) : List Char :=
  match cs with
  | 'e' :: 'x' :: 'p' :: 'o' :: 'r' :: 't' :: c :: rest =>
    if isInlineBlank c then rest.dropWhile isInlineBlank else cs
  | _ => cs

/-- The character can be part of a name without quotes. -/
def isNameChar (c : Char) : Bool := c != '=' && c != '#' && !Text.isBlank c

/-- Reads a name; a comment stands in the place of none. -/
def readName (cs : List Char) : Reading (Option String) :=
  match cs with
  | '#' :: _ => .ok (none, cs)
  | '\'' :: rest =>
    match rest.takeWhile (· != '\''), rest.dropWhile (· != '\'') with
    | c :: name, _ :: after => .ok (some (String.ofList (c :: name)), after)
    | _, _ => .error cs
  | _ =>
    match cs.takeWhile isNameChar with
    | [] => .error cs
    | name => .ok (some (String.ofList name), cs.dropWhile isNameChar)

/-- The text up to a closing quote, and what follows it.  A backslash and the character after it
stay together. -/
def untilQuote? (quote : Char) (seen : List Char) : List Char → Option (List Char × List Char)
  | [] => none
  | ['\\'] => none
  | '\\' :: c :: rest => untilQuote? quote (c :: '\\' :: seen) rest
  | c :: rest => if c = quote then some (seen.reverse, rest) else untilQuote? quote (c :: seen) rest

/-- Replaces a backslash and the character after it by what they stand for. -/
def unescape (meaning : Char → Option Char) : List Char → List Char
  | [] => []
  | '\\' :: c :: rest =>
    match meaning c with
    | some d => d :: unescape meaning rest
    | none => '\\' :: unescape meaning (c :: rest)
  | c :: rest => c :: unescape meaning rest

/-- The escapes within single quotes. -/
def singleEscape (c : Char) : Option Char := if c = '\\' ∨ c = '\'' then some c else none

/-- The escapes within double quotes. -/
def doubleEscape (c : Char) : Option Char :=
  match c with
  | '\\' | '\'' | '"' => some c
  | 'a' => some '\x07'
  | 'b' => some '\x08'
  | 'f' => some '\x0c'
  | 'n' => some '\n'
  | 'r' => some '\r'
  | 't' => some '\t'
  | 'v' => some '\x0b'
  | _ => none

/-- What comes before a comment; a comment begins after a blank. -/
def beforeComment : List Char → List Char
  | [] => []
  | c :: '#' :: rest => if Text.isBlank c then [] else c :: beforeComment ('#' :: rest)
  | c :: rest => c :: beforeComment rest

/-- Reads a value in quotes. -/
def readQuoted (quote : Char) (meaning : Char → Option Char) (cs : List Char) : Reading String :=
  match untilQuote? quote [] (cs.drop 1) with
  | some (text, rest) => .ok (String.ofList (unescape meaning text), rest)
  | none => .error cs

/-- Reads a value without quotes, which ends at a comment. -/
def readBare (cs : List Char) : Reading String :=
  let text := beforeComment (cs.takeWhile isInline)
  .ok (String.ofList (Text.trim Text.isBlank text), cs.dropWhile isInline)

/-- Reads a value, in front of which blanks may stand. -/
def readValue (cs : List Char) : Reading String :=
  match cs.dropWhile isInlineBlank with
  | '\'' :: rest => readQuoted '\'' singleEscape ('\'' :: rest)
  | '"' :: rest => readQuoted '"' doubleEscape ('"' :: rest)
  | _ => readBare cs

/-- Reads what a name is bound to. -/
def readBound (cs : List Char) : Reading (Option String) :=
  match cs.dropWhile isInlineBlank with
  | '=' :: rest => (readValue rest).map fun (value, rest) => (some value, rest)
  | rest => .ok (none, rest)

/-- Reads a binding up to the end of its line. -/
def readBinding (cs : List Char) : Except (List Char) (Option Binding × List Char) := do
  let (name, rest) ← readName (dropExport cs)
  let (value, rest) ← readBound rest
  let rest := dropComment rest
  match endLine? rest with
  | some rest => return (name.map fun name => (name, value), rest)
  | none => throw rest

/-- Reads the bindings of a text.  Each one takes at least a character, so a fuel of the length of
the text is enough. -/
def readBindings : (fuel : Nat) → List Char → List Binding
  | 0, _ => []
  | fuel + 1, cs =>
    match cs.dropWhile Text.isBlank with
    | [] => []
    | cs =>
      match readBinding cs with
      | .ok (binding, rest) => binding.toList ++ readBindings fuel rest
      | .error rest => readBindings fuel (nextLine rest)

/-! ### References to other variables -/

/-- A reference to a variable, after its opening: the name, a value for want of one, and the text
after it. -/
def reference? (cs : List Char) : Option (String × Option String × List Char) :=
  let isName (c : Char) : Bool := c != '\x7d' && c != ':'
  let name := String.ofList (cs.takeWhile isName)
  match cs.dropWhile isName with
  | '\x7d' :: rest => some (name, none, rest)
  | ':' :: '-' :: rest =>
    match rest.dropWhile (· != '\x7d') with
    | _ :: after => some (name, some (String.ofList (rest.takeWhile (· != '\x7d'))), after)
    | [] => none
  | _ => none

/-- Replaces the references in a value.  A fuel of the length of the value is enough. -/
def expand (value : String → Option String → String) : (fuel : Nat) → List Char → List Char
  | _, [] => []
  | 0, cs => cs
  | fuel + 1, '$' :: '\x7b' :: rest =>
    match reference? rest with
    | some (name, default, rest) => (value name default).toList ++ expand value fuel rest
    | none => '$' :: expand value fuel ('\x7b' :: rest)
  | fuel + 1, c :: rest => c :: expand value fuel rest

/-- The value of a variable that is referred to.  One that is bound to nothing has no text. -/
def valueOf (bound : List Binding) (environment : List (String × String)) (name : String)
    (default : Option String) : String :=
  match bound.lookup name with
  | some value => value.getD ""
  | none => ((environment.lookup name).or default).getD ""

/-- Binds a name: in its place when it is bound already, at the end otherwise. -/
def bind (bound : List Binding) (binding : Binding) : List Binding :=
  if bound.any (·.1 = binding.1) then bound.map fun b => if b.1 = binding.1 then binding else b
  else bound ++ [binding]

/-- Binds one name after the other; references see what is bound before. -/
def resolve (environment : List (String × String)) (bindings : List Binding) : List Binding :=
  bindings.foldl (fun bound (name, value) =>
    let value := value.map fun s =>
      String.ofList (expand (valueOf bound environment) s.length s.toList)
    bind bound (name, value)) []

/-- Removes one mark of the order of bytes at the front of a file. -/
def dropByteOrderMark : List Char → List Char
  | '\uFEFF' :: rest => rest
  | cs => cs

/-- What a file binds, in a process with the given variables. -/
def read (environment : List (String × String)) (text : String) : List Binding :=
  let cs := unifyLineEnds (dropByteOrderMark text.toList)
  resolve environment (readBindings (cs.length + 1) cs)

end UsageLedger.EnvFile
