import DualToken.Account.Role
import DualToken.AuthError
import DualToken.Json.Record
import DualToken.Json.Value
import DualToken.Text.Blank

/-!
# Registration and login forms

The form of a new user has six fields, and the role is not among them: whoever registers is a
customer. A form is accepted when no field but the password is blank, the email has an at sign, and
the password has between 3 and 130 characters.
-/

set_option autoImplicit false

namespace DualToken

/-- A user to be created. -/
structure NewUser where
  firstName : String
  lastName : String
  email : String
  password : String
  phoneNumber : String
  address : String
  /-- The role: a form never sets it. -/
  role : Role := .customer
  deriving DecidableEq, Repr

namespace NewUser

/-- How the form is read. -/
def layout : Json.Layout :=
  [("first_name", .required Json.readText), ("last_name", .required Json.readText),
    ("email", .required Json.readText), ("password", .required Json.readText),
    ("phone_number", .required Json.readText), ("address", .required Json.readText)]

def read : Json.Reader NewUser := fun bytes =>
  (layout.read bytes).map fun (firstName, lastName, email, password, phoneNumber, address, ()) =>
    { firstName, lastName, email, password, phoneNumber, address }

/-- The fields that must not be blank, by name. -/
def requiredFields (form : NewUser) : List (String × String) :=
  [("first_name", form.firstName), ("last_name", form.lastName), ("email", form.email),
    ("phone_number", form.phoneNumber), ("address", form.address)]

/-- The shortest and the longest password, in characters. -/
def passwordLengths : Nat × Nat := (3, 130)

/-- Checks the form; the first fault is reported. -/
def validate (form : NewUser) : Except AuthError Unit :=
  match form.requiredFields.find? fun field => Text.isBlankText field.2 with
  | some (name, _) => .error (.badRequest s!"{name} is required")
  | none =>
    if !form.email.toList.contains '@' then .error (.badRequest "email is invalid")
    else if passwordLengths.1 ≤ form.password.length &&
        form.password.length ≤ passwordLengths.2 then .ok ()
    else .error (.badRequest "password must be between 3 and 130 characters")

/-- The form with its role. -/
def json (form : NewUser) : Json.Value :=
  .object [("first_name", .text form.firstName), ("last_name", .text form.lastName),
    ("email", .text form.email), ("password", .text form.password),
    ("phone_number", .text form.phoneNumber), ("address", .text form.address),
    ("role", .text form.role.name)]

end NewUser

/-- What a user gives to log in. -/
structure Credentials where
  email : String
  password : String
  deriving DecidableEq, Repr

namespace Credentials

/-- How credentials are read. -/
def layout : Json.Layout :=
  [("email", .required Json.readText), ("password", .required Json.readText)]

def read : Json.Reader Credentials := fun bytes =>
  (layout.read bytes).map fun (email, password, ()) => { email, password }

end Credentials

end DualToken
