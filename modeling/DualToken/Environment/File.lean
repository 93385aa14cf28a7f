import DualToken.Environment
import DualToken.Text.Alphanumeric
import DualToken.Text.Blank

/-!
# Environment files

An environment file assigns values to variables that the environment does not hold yet, one
assignment a line. Blank lines and comments are skipped; a line that cannot be read ends the file.

A value ends at a blank, behind which only a comment may follow. In single quotes every character
stands for itself. Elsewhere a backslash escapes the next character, and a dollar sign names a
variable whose value is put in its place, with braces around the name or without: without braces the
name is the longest run of letters and digits, and the character behind it stands for itself,
whatever it is.
-/

set_option autoImplicit false

namespace DualToken.EnvironmentFile

/-! ## Values -/

/-- Where a reader stands in a value. -/
inductive Place where
  /-- Outside of single quotes; `quoted` says whether inside of double quotes. -/
  | free (quoted : Bool)
  /-- Inside of single quotes. -/
  | single
  /-- Behind a backslash. -/
  | escaped (quoted : Bool)
  /-- In a name behind a dollar sign. -/
  | named (quoted : Bool) (name : List Char)
  | braced (quoted : Bool) (name : List Char)
  | behind
  | comment
  deriving DecidableEq, Repr

/-- The character that a backslash and another character stand for. -/
def unescape? (character : Char) : Option Char :=
  if character = 'n' then some '\n'
  else if "\\'\"$ ".toList.contains character then some character
  else none

/-- Where a reader goes with the next character, and what the value gains. -/
def Place.next? (valueOf : String → String) (character : Char) :
    Place → Option (Place × List Char)
  | free false =>
    if character = '$' then some (named false [], [])
    else if character = '\'' then some (single, [])
    else if character = '"' then some (free true, [])
    else if character = '\\' then some (escaped false, [])
    else if character = ' ' || character = '\t' then some (behind, [])
    else some (free false, [character])
  | free true =>
    if character = '$' then some (named true [], [])
    else if character = '"' then some (free false, [])
    else if character = '\\' then some (escaped true, [])
    else some (free true, [character])
  | single => some (if character = '\'' then (free false, []) else (single, [character]))
  | escaped quoted => (unescape? character).map fun meant => (free quoted, [meant])
  | named quoted name =>
    if Text.isAlphanumeric character then some (named quoted (name ++ [character]), [])
    else if character = '\x7b' && name.isEmpty then some (braced quoted [], [])
    else
      let value := (valueOf (String.ofList name)).toList
      some (if character = '$' then (named quoted [], value)
        else (free quoted, value ++ [character]))
  | braced quoted name =>
    some (if character = '\x7d' then (free quoted, (valueOf (String.ofList name)).toList)
      else (braced quoted (name ++ [character]), []))
  | behind =>
    if character = ' ' || character = '\t' then some (behind, [])
    else if character = '#' then some (comment, [])
    else none
  | comment => some (comment, [])

/-- What the value gains at the end of the line, if it may end there. -/
def Place.finish? (valueOf : String → String) : Place → Option (List Char)
  | free quoted | escaped quoted => if quoted then none else some []
  | named quoted name => if quoted then none else some (valueOf (String.ofList name)).toList
  | single | braced _ _ => none
  | behind | comment => some []

/-- Reads a value from a place in it. -/
def readFrom? (valueOf : String → String) : Place → List Char → Option (List Char)
  | place, [] => place.finish? valueOf
  | place, character :: rest => do
    let (place, gained) ← place.next? valueOf character
    return gained ++ (← readFrom? valueOf place rest)

def readValue? (valueOf : String → String) (characters : List Char) : Option String :=
  (readFrom? valueOf (.free false) characters).map String.ofList

/-! ## Lines -/

/-- What a line says. -/
inductive Line where
  /-- Nothing. -/
  | blank
  /-- That a variable has a value. -/
  | assignment (name value : String)
  deriving DecidableEq, Repr

/-- Whether a character may stand in a name. -/
def isNameCharacter (character : Char) : Bool :=
  character.isAlphanum || character = '_' || character = '.'

/-- The name at the front of a text, and the rest without blanks at its front. -/
def takeName? (characters : List Char) : Option (String × List Char) :=
  match characters with
  | [] => none
  | first :: _ =>
    if first.isAlpha || first = '_' then
      some (String.ofList (characters.takeWhile isNameCharacter),
        Text.trimStart (characters.dropWhile isNameCharacter))
    else none

/-- The name of an assignment and the text behind its equals sign. A word that exports the variable
may stand in front, but it may also be the name itself. -/
def takeTarget? (characters : List Char) : Option (String × List Char) := do
  let (name, rest) ← takeName? characters
  match rest with
  | '=' :: value => return (name, Text.trimStart value)
  | other =>
    guard (name = "export")
    let (name, rest) ← takeName? other
    match rest with
    | '=' :: value => return (name, Text.trimStart value)
    | _ => none

/-- Whether nothing but a comment is there. -/
def isVoid (characters : List Char) : Bool :=
  characters.isEmpty || characters.head? = some '#'

def readLine? (valueOf : String → String) (line : List Char) : Option Line :=
  let content := Text.trimBoth line
  if isVoid content then some .blank
  else do
    let (name, value) ← takeTarget? content
    if isVoid value then return .assignment name ""
    else return .assignment name (← readValue? valueOf value)

/-! ## Files -/

/-- Carries out an assignment; a variable that holds a text keeps it. No environment can hold the
character with code zero. -/
def assign? (name value : String) (environment : Environment) : Option Environment :=
  if (environment.text? name).isSome then some environment
  else if value.toList.contains '\x00' then none
  else some (environment.set name value)

/-- Carries out the lines up to the first that cannot be read. -/
def loadLines? : List (List Char) → Environment → Option Environment
  | [], environment => some environment
  | line :: others, environment =>
    match readLine? (fun name => (environment.text? name).getD "") line with
    | none => some environment
    | some .blank => loadLines? others environment
    | some (.assignment name value) =>
      (assign? name value environment).bind fun next => loadLines? others next

/-- The environment with the assignments of a file, unless it cannot hold one of them. -/
def load? (file : String) (environment : Environment) : Option Environment :=
  loadLines? (file.toList.splitOn '\n') environment

end DualToken.EnvironmentFile
