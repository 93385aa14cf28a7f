import DualToken.Account.Directory
import DualToken.Proofs.Account.UserTable
import DualToken.Proofs.Program

/-!
# Creating users

A user is created by an insertion at the end of three steps, and every earlier step leaves the rows
alone. So a creation that succeeds has added one row, with the fields of its form, the name of its
role and the hash of its password (`Adds`), and one that fails has added none
(`createUser_cases`). As the role of a form is a role, the new row is read back as a user, so there
is no insertion behind which the creation still fails.

No step of a creation gives out a number twice (`follows_perform`).
-/

set_option autoImplicit false

namespace DualToken

/-- The row of a form, with a number. -/
def NewUser.row (form : NewUser) (passwordHash : String) (now : Int) (id : Int64) : UserRow :=
  { id, firstName := form.firstName, lastName := form.lastName, email := form.email,
    passwordHash, role := form.role.name, phoneNumber := form.phoneNumber,
    address := form.address, createdAt := Int64.ofInt now }

/-- The user in the row of a form. -/
def NewUser.user (form : NewUser) (passwordHash : String) (now : Int) (id : Int64) : User :=
  { id, firstName := form.firstName, lastName := form.lastName, email := form.email,
    passwordHash, role := form.role, phoneNumber := form.phoneNumber,
    address := form.address, createdAt := Int64.ofInt now }

@[simp] theorem NewUser.user_row (form : NewUser) (passwordHash : String) (now : Int)
    (id : Int64) :
    (form.row passwordHash now id).user = .ok (form.user passwordHash now id) := by
  simp only [UserRow.user, row, Role.ofName?_name]
  rfl

/-- A user has the number of its row. -/
theorem UserRow.id_of_user {row : UserRow} {user : User} (read : row.user = .ok user) :
    user.id = row.id := by
  rw [UserRow.user] at read
  split at read
  · exact congrArg User.id (Except.ok.inj read).symm
  · exact absurd read nofun

/-- A user has the hash of its row. -/
theorem UserRow.passwordHash_of_user {row : UserRow} {user : User} (read : row.user = .ok user) :
    user.passwordHash = row.passwordHash := by
  rw [UserRow.user] at read
  split at read
  · exact congrArg User.passwordHash (Except.ok.inj read).symm
  · exact absurd read nofun

namespace Directory

variable {directory after : Directory} {form : NewUser} {cost : Nat} {now : Int}

/-! ## The insertion -/

/-- An insertion fails and changes nothing, or it adds a row that is read back as a user. -/
theorem insertForm_cases (directory : Directory) (now : Int) (form : NewUser)
    (passwordHash : String) :
    (∃ error, directory.insertForm now form passwordHash = (.error error, directory)) ∨
      ∃ table changed id, directory.table = some table ∧
        table.Inserts (form.row passwordHash now 0) (form.row passwordHash now id) changed ∧
        directory.insertForm now form passwordHash =
          (.ok (form.user passwordHash now id), { directory with table := some changed }) := by
  rw [insertForm]
  cases present : directory.table with
  | none => exact .inl ⟨_, rfl⟩
  | some table =>
    dsimp only
    cases outcome : table.insert (form.row passwordHash now 0) with
    | error fault =>
      rw [NewUser.row] at outcome
      simp only [outcome]
      cases fault with
      | notUnique column => exact .inl ⟨_, rfl⟩
      | _ => exact .inl ⟨_, rfl⟩
    | ok result =>
      obtain ⟨inserted, changed⟩ := result
      have inserts := UserTable.insert_eq_ok_iff.1 outcome
      obtain rfl : inserted = form.row passwordHash now (Int64.ofInt table.nextNumber) :=
        inserts.inserted_eq
      refine .inr ⟨table, changed, _, rfl, inserts, ?_⟩
      rw [NewUser.row] at outcome
      simp only [outcome, NewUser.user_row]

/-- A row of a free email is inserted with the next number. -/
theorem insertForm_of_free {table : UserTable} (present : directory.table = some table)
    (fits : table.nextNumber ≤ Int64.maxValue.toInt) (free : table.byEmail? form.email = none)
    (now : Int) (passwordHash : String) :
    directory.insertForm now form passwordHash =
      (.ok (form.user passwordHash now (Int64.ofInt table.nextNumber)), { directory with
        table := some ⟨table.rows ++ [form.row passwordHash now (Int64.ofInt table.nextNumber)],
          table.nextNumber⟩ }) := by
  have inserts : table.Inserts (form.row passwordHash now 0)
      (form.row passwordHash now (Int64.ofInt table.nextNumber)) _ := ⟨fits, free, rfl, rfl⟩
  have inserted := UserTable.insert_eq_ok_iff.2 inserts
  rw [NewUser.row] at inserted
  simp only [insertForm, present, inserted, NewUser.user_row]

/-- A row of an email that is taken is not inserted, which is no fault of the database. -/
theorem insertForm_of_taken {table : UserTable} (present : directory.table = some table)
    (fits : table.nextNumber ≤ Int64.maxValue.toInt)
    (taken : (table.byEmail? form.email).isSome = true) (now : Int) (passwordHash : String) :
    directory.insertForm now form passwordHash = (.error .userExists, directory) := by
  simp only [insertForm, present, UserTable.insert, if_neg (Int.not_lt.2 fits), taken, if_true]

/-! ## Numbers -/

/-- What becomes of a directory whose numbers nobody edits: a table that is there was there before,
and numbers are not given out twice. -/
def Follows (directory after : Directory) : Prop :=
  ∀ changed, after.table = some changed →
    ∃ table, directory.table = some table ∧ (table.Counts → table.Follows changed)

theorem Follows.refl (directory : Directory) : directory.Follows directory :=
  fun table present => ⟨table, present, fun _ => .refl table⟩

theorem follows_of_table (same : after.table = directory.table) : directory.Follows after :=
  fun table present => ⟨table, same ▸ present, fun _ => .refl table⟩

theorem Follows.trans {last : Directory} (first : directory.Follows after)
    (second : after.Follows last) : directory.Follows last := by
  intro changed present
  obtain ⟨table, present, follows⟩ := second changed present
  obtain ⟨earlier, present, follows'⟩ := first table present
  refine ⟨earlier, present, fun counts => ?_⟩
  have step := follows' counts
  exact step.trans (follows (Int.le_trans counts step.last))

/-- **No step of a creation gives out a number twice.** -/
theorem follows_perform (cost : Nat) (now : Int) (step : Step) (directory : Directory) :
    directory.Follows (perform cost now step directory).2 := by
  cases step with
  | find email => exact .refl directory
  | hash password => exact follows_of_table rfl
  | insert form passwordHash =>
    rw [perform]
    rcases insertForm_cases directory now form passwordHash with
      ⟨error, failed⟩ | ⟨table, changed, id, present, inserts, made⟩
    · rw [failed]
      exact .refl directory
    · rw [made]
      intro other present'
      obtain rfl := Option.some.inj present'
      exact ⟨table, present, inserts.follows⟩

/-- The table, if it is there, is numbered. -/
def IsNumbered (directory : Directory) : Prop :=
  ∀ table, directory.table = some table → table.IsNumbered

/-- The number was given out, and no row has it any more. -/
def Retires (directory : Directory) (id : Int64) : Prop :=
  ∀ table, directory.table = some table → table.Retires id

/-- A directory without users is numbered. -/
theorem isNumbered_empty : ({} : Directory).IsNumbered := by
  rintro table present
  obtain rfl := Option.some.inj present
  exact ⟨(by decide : Int64.minValue.toInt ≤ 0), nofun⟩

theorem IsNumbered.follows (numbered : directory.IsNumbered) (follows : directory.Follows after) :
    after.IsNumbered := by
  intro changed present
  obtain ⟨table, present, step⟩ := follows changed present
  have start := numbered table present
  exact start.follows (step start.counts)

/-- **A number that was given out and is gone does not come back.** -/
theorem Retires.follows {id : Int64} (retires : directory.Retires id)
    (follows : directory.Follows after) : after.Retires id := by
  intro changed present
  obtain ⟨table, present, step⟩ := follows changed present
  have start := retires table present
  exact start.follows (step start.counts)

/-! ## Whole creations -/

/-- What a creation without interruption comes to. -/
theorem createUser_eq (directory : Directory) (cost : Nat) (now : Int) (form : NewUser) :
    directory.createUser cost now form =
      match directory.userByEmail form.email with
      | .error error => (.error error, directory)
      | .ok (some _) => (.error .userExists, directory)
      | .ok none =>
        let drawn := { directory with saltsDrawn := directory.saltsDrawn + 1 }
        match PasswordHash.hash cost (salt directory.saltsDrawn) form.password with
        | .error detail => (.error (.storage detail), drawn)
        | .ok passwordHash => drawn.insertForm now form passwordHash := by
  rw [createUser, create, Program.run_act, perform]
  dsimp only
  cases directory.userByEmail form.email with
  | error error => rfl
  | ok known =>
    cases known with
    | some user => rfl
    | none =>
      dsimp only
      rw [Program.run_act, perform]
      dsimp only
      cases PasswordHash.hash cost (salt directory.saltsDrawn) form.password with
      | error detail => rfl
      | ok passwordHash => rfl

/-- What a creation that succeeds has done: it has added one row, with the fields of its form and a
hash of its password, under an email that was free. -/
structure Adds (cost : Nat) (now : Int) (form : NewUser) (directory : Directory)
    (table : UserTable) (row : UserRow) (after : Directory) : Prop where
  present : directory.table = some table
  inserts : table.Inserts (form.row row.passwordHash now 0) row
    ⟨table.rows ++ [row], table.nextNumber⟩
  hashed : PasswordHash.hash cost (salt directory.saltsDrawn) form.password = .ok row.passwordHash
  after_eq : after =
    ⟨some ⟨table.rows ++ [row], table.nextNumber⟩, directory.saltsDrawn + 1⟩

/-- **A creation fails and leaves the rows alone, or it adds a row and answers with its user.** -/
theorem createUser_cases (directory : Directory) (cost : Nat) (now : Int) (form : NewUser) :
    (∃ error, (directory.createUser cost now form).1 = .error error ∧
        (directory.createUser cost now form).2.table = directory.table) ∨
      ∃ table row user, row.user = .ok user ∧
        (directory.createUser cost now form).1 = .ok user ∧
        Adds cost now form directory table row (directory.createUser cost now form).2 := by
  rw [createUser_eq]
  cases directory.userByEmail form.email with
  | error error => exact .inl ⟨error, rfl, rfl⟩
  | ok known =>
    cases known with
    | some user => exact .inl ⟨.userExists, rfl, rfl⟩
    | none =>
      dsimp only
      cases hashed : PasswordHash.hash cost (salt directory.saltsDrawn) form.password with
      | error detail => exact .inl ⟨.storage detail, rfl, rfl⟩
      | ok passwordHash =>
        dsimp only
        rcases insertForm_cases { directory with saltsDrawn := directory.saltsDrawn + 1 } now form
          passwordHash with ⟨error, failed⟩ | ⟨table, changed, id, present, inserts, made⟩
        · rw [failed]
          exact .inl ⟨error, rfl, rfl⟩
        · rw [made]
          obtain rfl := inserts.changed_eq
          exact .inr ⟨table, form.row passwordHash now id, _, form.user_row passwordHash now id,
            rfl, present, inserts, hashed, rfl⟩

/-- **A creation succeeds**, if the table is there and has a number left, the email is free, and the
cost is allowed. -/
theorem exists_createUser_ok {table : UserTable} (present : directory.table = some table)
    (free : table.byEmail? form.email = none)
    (fits : table.nextNumber ≤ Int64.maxValue.toInt) (allowed : PasswordHash.isCost cost = true)
    (now : Int) : ∃ user, (directory.createUser cost now form).1 = .ok user := by
  have unknown : directory.userByEmail form.email = .ok none := by
    simp only [userByEmail, liveTable, present, Except.bind, free, ofRow?]
  have hashed : PasswordHash.hash cost (salt directory.saltsDrawn) form.password = .ok _ :=
    if_pos allowed
  rw [createUser_eq, unknown, hashed]
  have drawn : { directory with saltsDrawn := directory.saltsDrawn + 1 }.table = some table :=
    present
  dsimp only
  rw [insertForm_of_free drawn fits free]
  exact ⟨_, rfl⟩

end Directory

end DualToken
