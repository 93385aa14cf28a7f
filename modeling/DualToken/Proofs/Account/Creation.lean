import DualToken.Proofs.Account.Directory
import DualToken.Proofs.Interleaving

/-!
# Creations that take turns

A creation is at one of four stages: it is to look its email up, to hash its password, to insert its
row, or it has ended. A turn moves it to the next stage (`Moves`). Any number of others may have
turns in between, so what a creation has seen may no longer be the case when it inserts; it is the
insertion that looks again, in one step with the row.

The stages of all creations and the table behind them are followed turn by turn (`Standing.turn`).
There is a number left for every creation that may still insert a row, so no insertion fails for
want of one.
-/

set_option autoImplicit false

namespace DualToken

namespace Directory

/-! ## The stages of a creation -/

/-- How far a creation has come. -/
inductive Stage where
  /-- The email is to be looked up. -/
  | asking
  /-- The email was free, and the password is to be hashed. -/
  | hashing
  /-- The row with this hash is to be inserted. -/
  | inserting (passwordHash : String)
  | ended (result : Except AuthError User)

namespace Stage

def isPending : Stage → Bool
  | ended _ => false
  | _ => true

/-- The result of a creation that has ended. -/
def result? : Stage → Option (Except AuthError User)
  | ended result => some result
  | _ => none

/-- The hash that was made for a creation. -/
def passwordHash? : Stage → Option String
  | inserting passwordHash => some passwordHash
  | ended (.ok user) => some user.passwordHash
  | _ => none

/-- The stage behind a look that found a row. -/
def behindLook : Option UserRow → Stage
  | none => hashing
  | some row =>
    match row.user with
    | .ok _ => ended (.error .userExists)
    | .error error => ended (.error error)

end Stage

/-- A creation that is under way. -/
structure Creation where
  form : NewUser
  stage : Stage := .asking

/-- Hashes the password of a form and inserts its row. -/
def hashAndInsert (form : NewUser) : Program Step Step.Reply (Except AuthError User) :=
  .act (.hash form.password) fun hashed =>
    match hashed with
    | .error error => .done (.error error)
    | .ok passwordHash => .act (.insert form passwordHash) .done

/-- What is left of a creation. -/
def Creation.program (creation : Creation) : Program Step Step.Reply (Except AuthError User) :=
  match creation.stage with
  | .asking => create creation.form
  | .hashing => hashAndInsert creation.form
  | .inserting passwordHash => .act (.insert creation.form passwordHash) .done
  | .ended result => .done result

/-- What the turn of a creation does to its stage and to the table. -/
inductive Moves (cost : Nat) (now : Int) (form : NewUser) (table : UserTable) :
    Stage → Stage → UserTable → Prop
  | looks : Moves cost now form table .asking (.behindLook (table.byEmail? form.email)) table
  | hashes {draw : Nat} {passwordHash : String}
      (made : PasswordHash.hash cost (salt draw) form.password = .ok passwordHash) :
      Moves cost now form table .hashing (.inserting passwordHash) table
  /-- The email was taken since the look. -/
  | meets {passwordHash : String} {row : UserRow} (found : table.byEmail? form.email = some row) :
      Moves cost now form table (.inserting passwordHash) (.ended (.error .userExists)) table
  | inserts {passwordHash : String} {id : Int64} {table' : UserTable}
      (inserts :
        table.Inserts (form.row passwordHash now 0) (form.row passwordHash now id) table') :
      Moves cost now form table (.inserting passwordHash)
        (.ended (.ok (form.user passwordHash now id))) table'

section Turns

variable {cost : Nat} {now : Int} {directory : Directory} {table : UserTable}

/-- A creation that has not ended has a next step, and moves on with it. -/
theorem exists_moves (allowed : PasswordHash.isCost cost = true)
    (present : directory.table = some table) (fits : table.nextNumber ≤ Int64.maxValue.toInt)
    {creation : Creation} (pending : creation.stage.isPending = true) :
    ∃ step next stage table', creation.program = .act step next ∧
      Moves cost now creation.form table creation.stage stage table' ∧
      next (perform cost now step directory).1 = { creation with stage }.program ∧
      (perform cost now step directory).2.table = some table' := by
  obtain ⟨form, stage⟩ := creation
  cases stage with
  | asking =>
    refine ⟨_, _, .behindLook (table.byEmail? form.email), table, rfl, .looks, ?_, present⟩
    have looked : directory.userByEmail form.email = ofRow? (table.byEmail? form.email) := by
      rw [userByEmail, liveTable, present]
      rfl
    rw [perform, looked]
    cases table.byEmail? form.email with
    | none => rfl
    | some row =>
      rw [ofRow?, Stage.behindLook]
      cases row.user with
      | ok user => rfl
      | error error => rfl
  | hashing =>
    have made : PasswordHash.hash cost (salt directory.saltsDrawn) form.password = .ok _ :=
      if_pos allowed
    refine ⟨_, _, .inserting _, table, rfl, .hashes made, ?_, present⟩
    rw [perform, made]
    rfl
  | inserting passwordHash =>
    cases found : table.byEmail? form.email with
    | some row =>
      refine ⟨_, _, .ended (.error .userExists), table, rfl, .meets found, ?_, ?_⟩
      · rw [perform, insertForm_of_taken present fits (by rw [found]; rfl)]
        rfl
      · rw [perform, insertForm_of_taken present fits (by rw [found]; rfl), present]
    | none =>
      refine ⟨_, _, .ended (.ok _), _, rfl, .inserts ⟨fits, found, rfl, rfl⟩, ?_, ?_⟩
      · rw [perform, insertForm_of_free present fits found]
        rfl
      · rw [perform, insertForm_of_free present fits found]
  | ended result => exact absurd pending Bool.false_ne_true

end Turns

/-! ## All creations -/

/-- How many creations have not ended. -/
def pending (creations : List Creation) : Nat :=
  creations.countP (·.stage.isPending)

/-- The programs are what is left of the creations, and the table has a number for each creation
that may still insert a row. Every hash was made of the password of its form. -/
structure Standing (cost : Nat) (creations : List Creation)
    (programs : List (Program Step Step.Reply (Except AuthError User))) (directory : Directory)
    (table : UserTable) : Prop where
  programs_eq : programs = creations.map (·.program)
  present : directory.table = some table
  counts : table.Counts
  room : table.nextNumber + pending creations ≤ Int64.maxValue.toInt + 1
  hashed : ∀ creation ∈ creations, ∀ passwordHash,
    creation.stage.passwordHash? = some passwordHash →
      ∃ draw, PasswordHash.hash cost (salt draw) creation.form.password = .ok passwordHash

/-- What the turn of a position does to the creations and to the table. -/
inductive Turned (cost : Nat) (now : Int) (position : Nat) (creations : List Creation)
    (table : UserTable) : List Creation → UserTable → Prop
  | idle (ended : ∀ creation, creations[position]? = some creation →
      creation.stage.isPending = false) :
      Turned cost now position creations table creations table
  | moved {creation : Creation} {stage : Stage} {table' : UserTable}
      (found : creations[position]? = some creation)
      (moves : Moves cost now creation.form table creation.stage stage table') :
      Turned cost now position creations table
        (creations.set position { creation with stage }) table'

section Schedules

variable {cost : Nat} {now : Int} {position : Nat} {form : NewUser} {directory : Directory}
  {table table' : UserTable} {stage stage' : Stage} {creation : Creation}
  {creations creations' : List Creation}
  {programs : List (Program Step Step.Reply (Except AuthError User))}

theorem Moves.isPending (moves : Moves cost now form table stage stage' table') :
    stage.isPending = true := by
  cases moves with
  | _ => rfl

/-- A number is used up only by a creation that ends. -/
theorem Moves.room (moves : Moves cost now form table stage stage' table')
    (counts : table.Counts) :
    table'.Counts ∧
      table'.nextNumber + (if stage'.isPending then 1 else 0) ≤ table.nextNumber + 1 := by
  cases moves with
  | inserts inserts =>
    refine ⟨Int.le_trans counts (inserts.follows counts).last, ?_⟩
    rw [Stage.isPending, if_neg nofun, Int.add_zero]
    exact inserts.nextNumber_le counts
  | _ =>
    refine ⟨counts, ?_⟩
    split
    · exact Int.le_refl _
    · omega

/-- A hash is made of the password, and stays what it is. -/
theorem Moves.hashed (moves : Moves cost now form table stage stage' table')
    {passwordHash : String} (has : stage'.passwordHash? = some passwordHash) :
    stage.passwordHash? = some passwordHash ∨
      ∃ draw, PasswordHash.hash cost (salt draw) form.password = .ok passwordHash := by
  cases moves with
  | looks =>
    unfold Stage.behindLook at has
    split at has
    · exact absurd has nofun
    · split at has
      · exact absurd has nofun
      · exact absurd has nofun
  | hashes made =>
    obtain rfl := Option.some.inj has
    exact .inr ⟨_, made⟩
  | meets _ => exact absurd has nofun
  | inserts _ => exact .inl has

/-- A creation that moves on is counted as long as it has not ended. -/
theorem pending_set (found : creations[position]? = some creation)
    (waits : creation.stage.isPending = true) (stage : Stage) :
    pending (creations.set position { creation with stage }) + 1 =
      pending creations + if stage.isPending then 1 else 0 := by
  obtain ⟨inside, rfl⟩ := List.getElem?_eq_some_iff.1 found
  have counted : 0 < pending creations :=
    List.countP_pos_iff.2 ⟨_, List.getElem_mem inside, waits⟩
  rw [pending] at counted ⊢
  rw [List.countP_set inside, waits, pending, if_pos rfl]
  dsimp only
  omega

/-- **A turn moves a creation on, unless it has ended**, and the standing is preserved. -/
theorem Standing.turn (standing : Standing cost creations programs directory table)
    (allowed : PasswordHash.isCost cost = true) (now : Int) (position : Nat) :
    ∃ creations' table', Turned cost now position creations table creations' table' ∧
      Standing cost creations'
        (Interleaving.turn (perform cost now) (programs, directory) position).1
        (Interleaving.turn (perform cost now) (programs, directory) position).2 table' := by
  have left : programs[position]? = creations[position]?.map (·.program) := by
    rw [standing.programs_eq, List.getElem?_map]
  cases found : creations[position]? with
  | none =>
    rw [found, Option.map_none] at left
    rw [Interleaving.turn_of_none left]
    exact ⟨creations, table, .idle (by simp [found]), standing⟩
  | some creation =>
    rw [found, Option.map_some] at left
    cases waits : creation.stage.isPending with
    | false =>
      have ended : ∃ result, creation.program = .done result := by
        obtain ⟨form, stage⟩ := creation
        cases stage with
        | ended result => exact ⟨result, rfl⟩
        | _ => exact absurd waits nofun
      obtain ⟨result, ended⟩ := ended
      rw [ended] at left
      rw [Interleaving.turn_of_done left]
      refine ⟨creations, table, .idle fun other found' => ?_, standing⟩
      obtain rfl := Option.some.inj (found.symm.trans found')
      exact waits
    | true =>
      have counted : 0 < pending creations :=
        List.countP_pos_iff.2 ⟨creation, List.mem_of_getElem? found, waits⟩
      have room := standing.room
      obtain ⟨step, next, stage, table', acts, moves, goes, present⟩ :=
        @exists_moves _ now _ _ allowed standing.present (by omega) _ waits
      rw [acts] at left
      rw [Interleaving.turn_of_act left]
      obtain ⟨counts, used⟩ := moves.room standing.counts
      refine ⟨_, table', .moved found moves, ?_, present, counts, ?_, ?_⟩
      · rw [goes, standing.programs_eq, List.map_set]
      · have still := pending_set found waits stage
        split at used
        · next waits' =>
          rw [if_pos waits'] at still
          omega
        · next ended =>
          rw [if_neg ended] at still
          omega
      · intro other member passwordHash has
        rcases List.mem_or_eq_of_mem_set member with member | rfl
        · exact standing.hashed other member passwordHash has
        · rcases moves.hashed has with had | made
          · exact standing.hashed creation (List.mem_of_getElem? found) passwordHash had
          · exact made

/-- A creation keeps its form. -/
theorem map_form_set (found : creations[position]? = some creation) (stage : Stage) :
    (creations.set position { creation with stage }).map (·.form) = creations.map (·.form) := by
  obtain ⟨inside, rfl⟩ := List.getElem?_eq_some_iff.1 found
  have inside' : position < (creations.map (·.form)).length := by rwa [List.length_map]
  have same : (creations.map (·.form))[position] = creations[position].form := List.getElem_map _
  rw [List.map_set, ← same, List.set_getElem_self]

theorem Turned.map_form (turned : Turned cost now position creations table creations' table') :
    creations'.map (·.form) = creations.map (·.form) := by
  cases turned with
  | idle _ => rfl
  | moved found _ => exact map_form_set found _

end Schedules

/-! ## Starts and ends -/

/-- The result of the creation at a position, if it has ended. -/
def result? (programs : List (Program Step Step.Reply (Except AuthError User))) (position : Nat) :
    Option (Except AuthError User) :=
  programs[position]?.bind Interleaving.result?

section Ends

variable {cost : Nat} {position : Nat} {forms : List NewUser} {directory : Directory}
  {table : UserTable} {stage : Stage} {creations : List Creation}
  {programs : List (Program Step Step.Reply (Except AuthError User))}

/-- A creation is done after three steps at most. -/
theorem endsWithin_create (form : NewUser) : Interleaving.EndsWithin 3 (create form) := by
  intro (found : Except AuthError (Option User))
  cases found with
  | error error => trivial
  | ok known =>
    cases known with
    | some user => trivial
    | none =>
      intro (hashed : Except AuthError String)
      cases hashed with
      | error error => trivial
      | ok passwordHash => exact fun _ => trivial

/-- Before the first turn every creation is about to look for its email. -/
theorem standing_create (present : directory.table = some table) (counts : table.Counts)
    (room : table.nextNumber + forms.length ≤ Int64.maxValue.toInt + 1) (cost : Nat) :
    Standing cost (forms.map fun form => { form }) (forms.map create) directory table where
  programs_eq := by
    rw [List.map_map]
    rfl
  present := present
  counts := counts
  room := by
    have all : pending (forms.map fun form => { form }) ≤ forms.length := by
      rw [pending]
      exact Nat.le_trans List.countP_le_length (Nat.le_of_eq (List.length_map _))
    omega
  hashed := by
    intro creation member passwordHash has
    obtain ⟨form, -, rfl⟩ := List.mem_map.1 member
    exact absurd has nofun

/-- The form of a creation is that of its position. -/
theorem exists_creation (forms_eq : creations.map (·.form) = forms) {form : NewUser}
    (asked : forms[position]? = some form) :
    ∃ stage, creations[position]? = some ⟨form, stage⟩ := by
  rw [← forms_eq, List.getElem?_map] at asked
  obtain ⟨⟨_, stage⟩, found, rfl⟩ := Option.map_eq_some_iff.1 asked
  exact ⟨stage, found⟩

/-- The result of a creation shows in its stage. -/
theorem Standing.result?_eq (standing : Standing cost creations programs directory table)
    {creation : Creation} (found : creations[position]? = some creation) :
    result? programs position = creation.stage.result? := by
  rw [result?, standing.programs_eq, List.getElem?_map, found]
  obtain ⟨form, stage⟩ := creation
  cases stage with
  | _ => rfl

theorem stage_of_result? {result : Except AuthError User} (ended : stage.result? = some result) :
    stage = .ended result := by
  cases stage with
  | ended other => exact congrArg Stage.ended (Option.some.inj ended)
  | _ => exact absurd ended nofun

end Ends

end Directory

end DualToken
