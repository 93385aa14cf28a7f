import DualToken.AuthError

/-!
# Faults of the database

What the database answers when it cannot carry out a statement: a number that names the fault, and a
text. The rest of the library sees such a fault as an error of storage.
-/

set_option autoImplicit false

namespace DualToken.Database

/-- Why the database refused. -/
inductive Fault where
  /-- The table has been dropped. -/
  | noTable (table : String)
  /-- A value has to be unique in its column and is there already. -/
  | notUnique (column : String)
  /-- A row with this number is there already. -/
  | numberTaken (column : String)
  /-- No number is left for another row. -/
  | full
  /-- The file of the database cannot be opened. -/
  | cannotOpen
  deriving DecidableEq, Repr

namespace Fault

/-- The number that names the fault. -/
def code : Fault → Nat
  | noTable _ => 1
  | notUnique _ => 2067
  | numberTaken _ => 1555
  | full => 13
  | cannotOpen => 14

/-- The text of the fault. -/
def text : Fault → String
  | noTable table => s!"no such table: {table}"
  | notUnique column => s!"UNIQUE constraint failed: {column}"
  | numberTaken column => s!"UNIQUE constraint failed: {column}"
  | full => "database or disk is full"
  | cannotOpen => "unable to open database file"

/-- The message of the fault. -/
def message (fault : Fault) : String :=
  s!"error returned from database: (code: {fault.code}) {fault.text}"

/-- The fault as the rest of the library sees it. -/
def toAuthError (fault : Fault) : AuthError :=
  .storage fault.message

end Fault

end DualToken.Database
