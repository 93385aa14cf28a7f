import DualToken.Text.Utf8

/-!
# Where a database is

A database is named by a URL. Behind the scheme stands the name of a file, with percent signs for
characters that a URL cannot hold, and behind a question mark parameters that say how the file is
used. The name `:memory:` stands for a database that has no file.
-/

set_option autoImplicit false

namespace DualToken.Database

/-- Where a database is, and how it is used. -/
structure Location where
  file : String
  /-- Whether it has no file. -/
  isInMemory : Bool := false
  isReadOnly : Bool := false
  deriving DecidableEq, Repr

namespace Location

/-- Why a URL does not name a database. -/
inductive Fault where
  /-- The name of the file is not text from this byte on. -/
  | notText (index : Nat)
  /-- A parameter does not have such a value. -/
  | badValue (parameter value : String)
  /-- There is no such parameter. -/
  | unknownParameter (name : String)
  deriving DecidableEq, Repr

/-- A character as it stands between quotes. -/
def quotedCharacter (character : Char) : List Char :=
  if character = '\n' then ['\\', 'n']
  else if character = '\r' then ['\\', 'r']
  else if character = '\t' then ['\\', 't']
  else if character = '"' || character = '\\' then ['\\', character]
  else [character]

def quoted (text : String) : String :=
  "\"" ++ String.ofList (text.toList.flatMap quotedCharacter) ++ "\""

/-- The message of a fault. -/
def Fault.message : Fault → String
  | notText index =>
    s!"error with configuration: invalid utf-8 sequence of 1 bytes from index {index}"
  | badValue parameter value =>
    s!"error with configuration: unknown value {quoted value} for \x60{parameter}\x60"
  | unknownParameter name =>
    s!"error with configuration: unknown query parameter \x60{name}\x60 " ++
      "while parsing connection URL"

/-! ## Percent signs -/

/-- The value of a hexadecimal digit. -/
def hexValue? (byte : UInt8) : Option UInt8 :=
  if 0x30 ≤ byte && byte ≤ 0x39 then some (byte - 0x30)
  else if 0x41 ≤ byte && byte ≤ 0x46 then some (byte - 0x41 + 10)
  else if 0x61 ≤ byte && byte ≤ 0x66 then some (byte - 0x61 + 10)
  else none

/-- The bytes that a text stands for: a percent sign and two digits stand for one byte. -/
def percentDecoded : List UInt8 → List UInt8
  | 0x25 :: high :: low :: rest =>
    match hexValue? high, hexValue? low with
    | some high, some low => (high * 16 + low) :: percentDecoded rest
    | _, _ => 0x25 :: percentDecoded (high :: low :: rest)
  | byte :: rest => byte :: percentDecoded rest
  | [] => []

/-- How many bytes at the front are text. -/
def textLength (bytes : List UInt8) : Nat :=
  ((List.range (bytes.length + 1)).filter fun length =>
    (Text.ofUtf8? (bytes.take length)).isSome).getLastD 0

/-- The name of a file as text. -/
def fileName (text : List Char) : Except Fault String :=
  let bytes := percentDecoded (Text.utf8Chars text)
  match Text.ofUtf8? bytes with
  | some name => .ok name
  | none => .error (.notText (textLength bytes))

/-- The text of a name or value among the parameters, where a plus sign stands for a blank; a byte
that is no text becomes the replacement character. -/
def parameterText (text : List Char) : String :=
  let bytes := percentDecoded (Text.utf8Chars (text.map fun character =>
    if character = '+' then ' ' else character))
  match Text.ofUtf8? bytes with
  | some content => content
  | none => String.ofList (bytes.map fun byte =>
      if byte < 0x80 then Char.ofNat byte.toNat else '\uFFFD')

/-! ## Reading -/

/-- The parameters behind the question mark. -/
def parameters (text : List Char) : List (String × String) :=
  ((text.splitOn '&').filter (!·.isEmpty)).map fun part =>
    (parameterText (part.takeWhile (· ≠ '=')), parameterText ((part.dropWhile (· ≠ '=')).drop 1))

/-- The location with one more parameter. -/
def applyParameter (location : Location) (name value : String) : Except Fault Location :=
  match name, value with
  | "mode", "ro" => .ok { location with isReadOnly := true }
  | "mode", "rw" | "mode", "rwc" => .ok location
  | "mode", "memory" => .ok { location with isInMemory := true }
  | "cache", "private" | "cache", "shared" => .ok location
  | "immutable", "true" | "immutable", "1" | "immutable", "false" | "immutable", "0" => .ok location
  | "vfs", _ => .ok location
  | "mode", other | "cache", other | "immutable", other => .error (.badValue name other)
  | other, _ => .error (.unknownParameter other)

/-- The list without all copies of another at its front. -/
def dropCopies (copied characters : List Char) : List Char :=
  if copied ≠ [] ∧ copied.isPrefixOf characters then
    dropCopies copied (characters.drop copied.length)
  else characters
termination_by characters.length
decreasing_by
  rename_i both
  have bound := (List.isPrefixOf_iff_prefix.mp both.2).length_le
  have positive := List.length_pos_iff.mpr both.1
  rw [List.length_drop]
  omega

def read (url : String) : Except Fault Location := do
  let name := dropCopies "//".toList (dropCopies "sqlite:".toList url.toList)
  let front := name.takeWhile (· ≠ '?')
  let location : Location ←
    if front = ":memory:".toList then pure { file := ":memory:", isInMemory := true }
    else (fileName front).map fun file => { file }
  (parameters ((name.dropWhile (· ≠ '?')).drop 1)).foldlM
    (fun location (name, value) => location.applyParameter name value) location

/-! ## Files -/

/-- The directory that a file is in; one without a slash is in the current directory. -/
def directoryOf (file : String) : String :=
  match file.toList.reverse.dropWhile (· ≠ '/') with
  | [] => "."
  | [_] => "/"
  | _ :: front => String.ofList front.reverse

/-- Whether a file could be opened, where these directories and files are. A database that is not
only read makes its file; one without a file or without a name needs none. -/
def canOpen (location : Location) (directories files : List String) : Bool :=
  location.isInMemory || location.file.isEmpty ||
    directories.contains (directoryOf location.file) &&
      location.file.toList.getLast? ≠ some '/' && !directories.contains location.file &&
      (!location.isReadOnly || files.contains location.file)

end Location

end DualToken.Database
