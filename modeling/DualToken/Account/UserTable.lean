import DualToken.Account.User
import DualToken.Database.Fault

/-!
# The table of users

Rows have different numbers and different emails. A new row gets a number above every number that a
row of the table ever got, so the number of a deleted row does not come back. The table can be
edited by hand, row by row; an edit may store any text as a role, but not an email that is taken.
-/

set_option autoImplicit false

namespace DualToken

/-- The rows of the users, and the highest number that a new row got. -/
structure UserTable where
  rows : List UserRow := []
  /-- The highest number that a new row got so far. -/
  lastNumber : Int := 0
  deriving DecidableEq, Repr

/-- A column that holds text. -/
inductive TextColumn where
  | firstName
  | lastName
  | email
  | passwordHash
  | role
  | phoneNumber
  | address
  deriving DecidableEq, Repr

/-- A change made to a row by hand. -/
inductive RowEdit where
  | text (column : TextColumn) (value : String)
  /-- Another number of the row. -/
  | number (value : Int64)
  /-- Another time of making. -/
  | createdAt (value : Int64)
  deriving DecidableEq, Repr

/-- The row with another text in a column. -/
def UserRow.withText (row : UserRow) (column : TextColumn) (value : String) : UserRow :=
  match column with
  | .firstName => { row with firstName := value }
  | .lastName => { row with lastName := value }
  | .email => { row with email := value }
  | .passwordHash => { row with passwordHash := value }
  | .role => { row with role := value }
  | .phoneNumber => { row with phoneNumber := value }
  | .address => { row with address := value }

/-- The row after an edit. -/
def UserRow.edited (row : UserRow) : RowEdit → UserRow
  | .text column value => row.withText column value
  | .number value => { row with id := value }
  | .createdAt value => { row with createdAt := value }

namespace UserTable

/-- The name of the table. -/
def name : String := "users"

/-- The row of a number. -/
def byId? (table : UserTable) (id : Int64) : Option UserRow :=
  table.rows.find? (·.id = id)

/-- The row of an email. -/
def byEmail? (table : UserTable) (email : String) : Option UserRow :=
  table.rows.find? (·.email = email)

/-- The number that the next row gets: one above every number so far. -/
def nextNumber (table : UserTable) : Int :=
  table.rows.foldl (fun highest row => max highest row.id.toInt) table.lastNumber + 1

/-- Adds a row with the next number. -/
def insert (table : UserTable) (row : UserRow) : Except Database.Fault (UserRow × UserTable) :=
  if table.nextNumber > Int64.maxValue.toInt then .error .full
  else if (table.byEmail? row.email).isSome then .error (.notUnique "users.email")
  else
    let numbered := { row with id := Int64.ofInt table.nextNumber }
    .ok (numbered, ⟨table.rows ++ [numbered], table.nextNumber⟩)

/-- The fault that an edit of a row would be, if the new value is another row's. -/
def editFault? (table : UserTable) (id : Int64) : RowEdit → Option Database.Fault
  | .text .email value =>
    if table.rows.any (fun row => row.id ≠ id && row.email = value) then
      some (.notUnique "users.email")
    else none
  | .number value =>
    if value ≠ id && (table.byId? value).isSome then some (.numberTaken "users.id") else none
  | _ => none

/-- Edits the row of a number, and tells how many rows there were to edit. -/
def edit (table : UserTable) (id : Int64) (change : RowEdit) :
    Except Database.Fault (Nat × UserTable) :=
  if (table.byId? id).isNone then .ok (0, table)
  else match table.editFault? id change with
    | some fault => .error fault
    | none =>
      let rows := table.rows.map fun row => if row.id = id then row.edited change else row
      .ok (1, { table with rows })

/-- Deletes the row of a number, and tells how many rows there were to delete. -/
def delete (table : UserTable) (id : Int64) : Nat × UserTable :=
  ((table.rows.filter (·.id = id)).length, { table with rows := table.rows.filter (·.id ≠ id) })

end UserTable

end DualToken
