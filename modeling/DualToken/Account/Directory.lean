import DualToken.Account.Registration
import DualToken.Account.UserTable
import DualToken.Crypto.PasswordHash
import DualToken.Program

/-!
# The directory of users

The directory keeps the table of users and creates new ones. Creating a user takes three steps: the
email is looked up, the password is hashed, and the row is inserted. Other creations may come in
between, so it is the insertion that has the last word on whether the email is free.
-/

set_option autoImplicit false

namespace DualToken

/-- The state of the directory. -/
structure Directory where
  /-- The table, unless it has been dropped. -/
  table : Option UserTable := some {}
  /-- How many salts have been drawn for password hashes. -/
  saltsDrawn : Nat := 0
  deriving DecidableEq, Repr

namespace Directory

/-- The fault of a table that has been dropped. -/
def missing : Database.Fault := .noTable UserTable.name

/-- The table, or the fault of its absence. -/
def liveTable (directory : Directory) : Except AuthError UserTable :=
  match directory.table with
  | some table => .ok table
  | none => .error missing.toAuthError

/-- A user that was looked up by its row. -/
def ofRow? (row : Option UserRow) : Except AuthError (Option User) :=
  match row with
  | none => .ok none
  | some row => row.user.map some

/-- The user of a number. -/
def userById (directory : Directory) (id : Int64) : Except AuthError (Option User) :=
  directory.liveTable.bind fun table => ofRow? (table.byId? id)

/-- The user of an email. -/
def userByEmail (directory : Directory) (email : String) : Except AuthError (Option User) :=
  directory.liveTable.bind fun table => ofRow? (table.byEmail? email)

/-- The salt of a draw: sixteen bytes. -/
def salt (draw : Nat) : List UInt8 :=
  (List.range 16).map fun position => UInt8.ofNat (draw >>> (8 * position))

/-! ## Creating users -/

/-- A step of creating a user. -/
inductive Step where
  /-- Looks up an email. -/
  | find (email : String)
  | hash (password : String)
  /-- Inserts the row of a form, with the hash of its password. -/
  | insert (form : NewUser) (passwordHash : String)
  deriving DecidableEq, Repr

def Step.Reply : Step → Type
  | .find _ => Except AuthError (Option User)
  | .hash _ => Except AuthError String
  | .insert _ _ => Except AuthError User

/-- Inserts the row of a form. An email that is taken by now is no fault of the database. -/
def insertForm (directory : Directory) (now : Int) (form : NewUser) (passwordHash : String) :
    Except AuthError User × Directory :=
  let row : UserRow :=
    { id := 0, firstName := form.firstName, lastName := form.lastName, email := form.email,
      passwordHash, role := form.role.name, phoneNumber := form.phoneNumber,
      address := form.address, createdAt := Int64.ofInt now }
  match directory.table with
  | none => (.error missing.toAuthError, directory)
  | some table =>
    match table.insert row with
    | .ok (inserted, table) => (inserted.user, { directory with table := some table })
    | .error (.notUnique _) => (.error .userExists, directory)
    | .error fault => (.error fault.toAuthError, directory)

def perform (cost : Nat) (now : Int) : (step : Step) → Directory → step.Reply × Directory
  | .find email, directory => (directory.userByEmail email, directory)
  | .hash password, directory =>
    ((PasswordHash.hash cost (salt directory.saltsDrawn) password).mapError .storage,
      { directory with saltsDrawn := directory.saltsDrawn + 1 })
  | .insert form passwordHash, directory => directory.insertForm now form passwordHash

/-- Creates the user of a form. -/
def create (form : NewUser) : Program Step Step.Reply (Except AuthError User) :=
  .act (.find form.email) fun found =>
    match found with
    | .error error => .done (.error error)
    | .ok (some _) => .done (.error .userExists)
    | .ok none =>
      .act (.hash form.password) fun hashed =>
        match hashed with
        | .error error => .done (.error error)
        | .ok passwordHash => .act (.insert form passwordHash) .done

/-- Creates a user without interruption. -/
def createUser (directory : Directory) (cost : Nat) (now : Int) (form : NewUser) :
    Except AuthError User × Directory :=
  (create form).run (perform cost now) directory

/-- Whether a password is that of a hash. -/
def comparePasswords (passwordHash password : String) : Bool :=
  PasswordHash.verify password passwordHash

end Directory

end DualToken
