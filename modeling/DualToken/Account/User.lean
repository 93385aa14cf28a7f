import DualToken.Account.Role
import DualToken.AuthError
import DualToken.Json.Record
import DualToken.Json.Value

/-!
# Users

A user as the rest of the library sees it, and the row in which it is stored. A row keeps the role
as text; a row whose text is no role's name cannot be read as a user.
-/

set_option autoImplicit false

namespace DualToken

structure User where
  /-- The number of the user's row. -/
  id : Int64
  firstName : String
  lastName : String
  /-- The email, unique among users. -/
  email : String
  passwordHash : String
  role : Role
  phoneNumber : String
  address : String
  /-- When the user was created, in seconds. -/
  createdAt : Int64
  deriving DecidableEq, Repr

namespace User

/-- The first and the last name, with a space between them. -/
def displayName (user : User) : String :=
  user.firstName ++ " " ++ user.lastName

/-- How a user is read. -/
def layout : Json.Layout :=
  [("id", .required Json.readInt64), ("first_name", .required Json.readText),
    ("last_name", .required Json.readText), ("email", .required Json.readText),
    ("password_hash", .required Json.readText), ("role", .required (Json.readName Role.ofName?)),
    ("phone_number", .required Json.readText), ("address", .required Json.readText),
    ("created_at", .required Json.readInt64)]

def read : Json.Reader User := fun bytes =>
  (layout.read bytes).map fun (id, firstName, lastName, email, passwordHash, role, phoneNumber,
      address, createdAt, ()) =>
    ⟨id, firstName, lastName, email, passwordHash, role, phoneNumber, address, createdAt⟩

/-- The user as it is shown: everything but the hash of the password. -/
def json (user : User) : Json.Value :=
  .object [("id", .integer user.id.toInt), ("first_name", .text user.firstName),
    ("last_name", .text user.lastName), ("email", .text user.email),
    ("role", .text user.role.name), ("phone_number", .text user.phoneNumber),
    ("address", .text user.address), ("created_at", .integer user.createdAt.toInt)]

end User

/-- A user as it is stored. -/
structure UserRow where
  /-- The number of the row. -/
  id : Int64
  firstName : String
  lastName : String
  email : String
  passwordHash : String
  role : String
  phoneNumber : String
  address : String
  /-- When the row was made, in seconds. -/
  createdAt : Int64
  deriving DecidableEq, Repr

/-- The user in a row, if its role is one. -/
def UserRow.user (row : UserRow) : Except AuthError User :=
  match Role.ofName? row.role with
  | some role =>
    .ok ⟨row.id, row.firstName, row.lastName, row.email, row.passwordHash, role, row.phoneNumber,
      row.address, row.createdAt⟩
  | none => .error (.storage (Role.unknownMessage row.role))

end DualToken
