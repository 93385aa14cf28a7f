/-!
# Media types

A media type has a type and a subtype with a slash between them, and parameters behind semicolons. A
plus sign behind the first character of the subtype parts a suffix from it, and the last one counts.
A parameter has a name, an equals sign and a value, which may be quoted. The text is checked by a
machine that reads one character at a time.

A body is JSON when its type is `application` and its subtype or its suffix is `json`; case does not
matter.
-/

set_option autoImplicit false

namespace DualToken.MediaType

/-- Whether a character may stand in a name. -/
def isNameCharacter (character : Char) : Bool :=
  character.isAlphanum || "!#$%&'*+-.^_`|~".toList.contains character

/-- Whether a character may stand between quotes. -/
def isQuotable (character : Char) : Bool :=
  0x1F < character.toNat && character.toNat ≠ 0x7F

/-- Where a media type is being read. -/
inductive Phase where
  /-- Before the type. -/
  | start
  | type
  | slash
  | subtype
  /-- Where a parameter begins. -/
  | parameter
  /-- In the name of a parameter. -/
  | name
  /-- Where a value begins. -/
  | value
  /-- In a value without quotes. -/
  | plain
  | openQuote
  | quoted
  /-- Behind the closing quote. -/
  | closed
  deriving DecidableEq, Repr

namespace Phase

/-- The phase behind one more character, or nothing if it cannot stand here. -/
def next? (phase : Phase) (character : Char) : Option Phase :=
  let named (stay : Phase) : Option Phase :=
    if isNameCharacter character then some stay else none
  match phase with
  | start => named type
  | type => if character = '/' then some slash else named type
  | slash => named subtype
  | subtype => if character = ';' then some parameter else named subtype
  | parameter => if character = ' ' then some parameter else named name
  | name => if character = '=' then some value else named name
  | value => if character = '"' then some openQuote else named plain
  | plain => if character = ';' then some parameter else named plain
  | openQuote => if isQuotable character then some quoted else none
  | quoted =>
    if character = '"' then some closed else if isQuotable character then some quoted else none
  | closed =>
    if character = ';' then some parameter else if character = ' ' then some closed else none

/-- Whether the text may end here. -/
def mayEnd : Phase → Bool
  | slash | subtype | parameter | value | plain | closed => true
  | start | type | name | openQuote | quoted => false

end Phase

/-- Whether a text is a media type. -/
def isWellFormed (characters : List Char) : Bool :=
  match characters.foldlM Phase.next? .start with
  | some phase => phase.mayEnd
  | none => false

/-- The subtype without its suffix, and the suffix. -/
def splitSuffix (subtype : List Char) : List Char × Option (List Char) :=
  let behind := subtype.reverse.takeWhile (· ≠ '+')
  match subtype.reverse.dropWhile (· ≠ '+') with
  | [] => (subtype, none)
  | _ :: [] => (subtype, none)
  | _ :: before => (before.reverse, some behind.reverse)

/-- Whether a text names JSON. -/
def isJson (characters : List Char) : Bool :=
  let lower := characters.map Char.toLower
  let subtype := (((lower.dropWhile (· ≠ '/')).drop 1).takeWhile (· ≠ ';'))
  let (base, suffix) := splitSuffix subtype
  isWellFormed characters && lower.takeWhile (· ≠ '/') = "application".toList &&
    (base = "json".toList || suffix = some "json".toList)

end DualToken.MediaType
