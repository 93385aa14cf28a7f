import DualToken.Database.Fault
import DualToken.Revocation.Record

/-!
# The table of recorded tokens

The records of one database, in the order in which they were made. Recording a token that is there
already gives back its record; the number that it would have got is used up nevertheless, so numbers
increase with gaps.
-/

set_option autoImplicit false

namespace DualToken

/-- The records, and the last number that was used up. -/
structure RevocationTable where
  /-- The records, the oldest first. -/
  records : List RecordedToken := []
  /-- The last number that was used up. -/
  lastNumber : Nat := 0
  deriving DecidableEq, Repr

namespace RevocationTable

/-- The name of the table. -/
def name : String := "blacklisted_tokens"

/-- The fault of a table that has been dropped. -/
def missing : Database.Fault := .noTable name

/-- The record of a token. -/
def find? (table : RevocationTable) (token : String) : Option RecordedToken :=
  table.records.find? (·.token = token)

/-- Whether a token is recorded. -/
def contains (table : RevocationTable) (token : String) : Bool :=
  (table.find? token).isSome

/-- Records a token, unless it is recorded already. -/
def record (table : RevocationTable) (token : String) (now : Int) :
    RecordedToken × RevocationTable :=
  let number := table.lastNumber + 1
  match table.find? token with
  | some existing => (existing, { table with lastNumber := number })
  | none =>
    let made : RecordedToken := ⟨number, token, now⟩
    (made, ⟨table.records ++ [made], number⟩)

end RevocationTable

end DualToken
