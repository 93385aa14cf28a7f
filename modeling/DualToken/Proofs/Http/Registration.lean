import DualToken.Proofs.Account.Directory
import DualToken.Proofs.Http.Requests
import DualToken.Proofs.Service.Calm
import DualToken.Proofs.Service.Refusal

/-!
# Registering

Of all requests only one that is posted to the path of registrations can change the users, and it
changes them by a creation. The call for it may fail, stay unanswered, or come behind other calls,
but none of those changes the users either. So the request is answered as created and has added one
row, or it is answered otherwise, or not at all, and has added none (`Router.respond_cases`).

The form that is read from a body has no member for the role, the number or the hash, and reading
passes over members that it does not know. So whatever else a body says, the new row is that of a
customer, with the next number and a hash of the password (`registration_sound`).
-/

set_option autoImplicit false

namespace DualToken

open Operation

/-! ## Forms -/

/-- A value that was changed behind a reader is the change of a value that was read. -/
theorem Json.exists_of_readFront_map {α β : Type} {reader : Json.Reader α} {change : α → β}
    {bytes : List UInt8} {value : β}
    (read : Json.readFront (fun bytes => (reader bytes).map change) bytes = .ok value) :
    ∃ found, value = change found := by
  rw [readFront] at read
  cases outcome : reader bytes with
  | stop problem rest =>
    simp only [outcome, Outcome.map_stop] at read
    exact absurd read nofun
  | value found rest =>
    simp only [outcome, Outcome.map_value, Except.ok.injEq] at read
    exact ⟨found, read.symm⟩

/-- **Whatever a body says, the form that is read from it is that of a customer.** -/
theorem NewUser.role_of_read {request : Request} {form : NewUser}
    (read : JsonBody.read NewUser.read request = .ok form) : form.role = .customer := by
  rw [JsonBody.read] at read
  split_ifs at read
  split at read
  · next value found =>
    obtain rfl := Except.ok.inj read
    obtain ⟨members, rfl⟩ := Json.exists_of_readFront_map found
    rfl
  · exact absurd read nofun
  · exact absurd read nofun

/-! ## The call for a creation -/

/-- What waiting for a store makes of its reply. -/
def StoreReply.awaited {α : Type} : StoreReply α → Except Failure α
  | .answer result => result.mapError .refused
  | .silence => .error .unanswered

/-- Waiting for a store is one call. -/
theorem Operation.run_await (call : StoreCall) :
    (await call).run = .act (.store call) fun reply =>
      .done (StoreReply.awaited (α := call.Result) reply) := by
  unfold await
  rw [run_act_bind]
  congr 1
  funext reply
  cases reply with
  | answer result => exact run_ofExcept result
  | silence => rfl

namespace State

variable {service : Service}

/-- A call comes out in one of three ways, and until then nobody moves the clock or changes the
users. -/
theorem exists_met_sameSetting (service : Service) (call : StoreCall) (state : State) :
    ∃ met, state.SameSetting met ∧ Met service call met (state.perform service (.store call)) := by
  obtain ⟨_, _, taken⟩ := exists_takeIncident call state
  have start : state.SameSetting (state.takeIncident call).2 := by
    rw [taken]
    exact ⟨rfl, rfl⟩
  rw [perform]
  cases same : state.takeIncident call with
  | mk incident noted =>
    rw [same] at start
    rw [performWithin, same]
    cases incident with
    | pass => exact ⟨noted, start, .answered⟩
    | fail => exact ⟨noted, start, .failed⟩
    | hang => exact ⟨noted, start, .silent⟩
    | record token =>
      exact ⟨_, (sustains_replies service state).rival ⟨rfl, rfl⟩ same start, .answered⟩
    | logout secretToken =>
      cases state.incidentCount with
      | zero => exact ⟨noted, start, .answered⟩
      | succ less =>
        have left := Program.Obeys.run state.SameSetting
          (Service.ends_logout service state secretToken none)
          (fun action later allowed kept =>
            (sustains_replies service state).performWithin less allowed kept) noted start
        exact ⟨_, left.2, .answered⟩

/-- What a creation that a request calls for comes to: the user of a row that it has added, or no
user and no other rows. -/
theorem run_await_createUser (service : Service) (form : NewUser) (state : State) :
    (∃ table row user,
        Directory.Adds service.hashCost state.now form state.directory table row
          (state.run service (await (.createUser form))).2.directory ∧
        row.user = .ok user ∧ (state.run service (await (.createUser form))).1 = .ok user) ∨
      ((∃ failure, (state.run service (await (.createUser form))).1 = .error failure) ∧
        (state.run service (await (.createUser form))).2.directory.table =
          state.directory.table) := by
  obtain ⟨met, same, comesOut⟩ := exists_met_sameSetting service (.createUser form) state
  rw [run, Operation.run_await, Program.run_act, Program.run_done]
  generalize state.perform service (.store (.createUser form)) = outcome at comesOut ⊢
  cases comesOut with
  | failed => exact .inr ⟨⟨_, rfl⟩, congrArg Directory.table same.directory⟩
  | silent => exact .inr ⟨⟨_, rfl⟩, congrArg Directory.table same.directory⟩
  | answered =>
    rw [answer, carryOut, same.now, same.directory]
    rcases state.directory.createUser_cases service.hashCost state.now form with
      ⟨error, failed, kept⟩ | ⟨table, row, user, read, made, adds⟩
    · refine .inr ⟨⟨.refused error, ?_⟩, kept⟩
      simp only [failed]
      rfl
    · refine .inl ⟨table, row, user, adds, read, ?_⟩
      simp only [made]
      rfl

end State

/-! ## Requests to register -/

/-- The request is posted to the path of registrations. -/
structure Request.IsRegistration (request : Request) : Prop where
  posted : request.method = "POST"
  path : Route.ofPath? request.path = some .register

/-- The answer is that something has been created. -/
def IsCreated (answer : Except Failure Response) : Prop :=
  ∃ response, answer = .ok response ∧ response.status = 201

/-- The request has a form that is accepted, and a row of it has been added. -/
structure Request.Enrolls (request : Request) (service : Service) (state : State) (form : NewUser)
    (table : UserTable) (row : UserRow) (after : Directory) : Prop where
  read : JsonBody.read NewUser.read request = .ok form
  valid : form.validate = .ok ()
  adds : Directory.Adds service.hashCost state.now form state.directory table row after

namespace Route

variable {service : Service} {request : Request} {form : NewUser}

/-- Registering, when a form can be read and is accepted. -/
theorem serve_register (posted : request.method = "POST")
    (read : JsonBody.read NewUser.read request = .ok form) (valid : form.validate = .ok ()) :
    register.serve service request = (do
      let user : User ← await (.createUser form)
      return .ofJson 201 user.json) := by
  simp only [serve, policy?, act, allowed, posted, List.contains_cons, BEq.rfl, Bool.true_or,
    if_true, handle, Handler.register, Handler.withBody, read, valid]
  rfl

/-- Registering, when a form can be read but is not accepted. -/
theorem serve_register_invalid (posted : request.method = "POST")
    (read : JsonBody.read NewUser.read request = .ok form) {error : AuthError}
    (invalid : form.validate = .error error) :
    register.serve service request = refuse error := by
  simp only [serve, policy?, act, allowed, posted, List.contains_cons, BEq.rfl, Bool.true_or,
    if_true, handle, Handler.register, Handler.withBody, read, invalid]
  rfl

/-- Registering, when no form can be read. -/
theorem serve_register_fault (posted : request.method = "POST") {fault : JsonBody.Fault}
    (unread : JsonBody.read NewUser.read request = .error fault) :
    register.serve service request = pure fault.response := by
  simp only [serve, policy?, act, allowed, posted, List.contains_cons, BEq.rfl, Bool.true_or,
    if_true, handle, Handler.register, Handler.withBody, unread]

end Route

/-! ## Answers -/

/-- No error is reported as a creation. -/
theorem AuthError.status_ne (error : AuthError) : error.status ≠ 201 := by
  cases error with
  | _ => simp [status]

theorem not_isCreated_of_status {response : Response} (other : response.status ≠ 201) :
    ¬ IsCreated (.ok response) := by
  rintro ⟨_, same, created⟩
  obtain rfl := Except.ok.inj same
  exact other created

/-- No failure is answered as a creation. -/
theorem not_isCreated_settled (failure : Failure) :
    ¬ IsCreated (Gate.settled (.error failure)) := by
  cases failure with
  | refused error => exact not_isCreated_of_status error.status_ne
  | crashed => exact nofun
  | unanswered => exact nofun

/-- Finishing a response does not make it a creation or less of one. -/
theorem isCreated_finish_iff {answer : Except Failure Response} {method : String} {route : Route} :
    IsCreated (answer.map (Router.finish method route)) ↔ IsCreated answer := by
  cases answer with
  | error failure => exact ⟨nofun, nofun⟩
  | ok response =>
    constructor
    · rintro ⟨_, same, created⟩
      obtain rfl := Except.ok.inj same
      exact ⟨response, rfl, (Router.status_finish _ _ _).symm.trans created⟩
    · rintro ⟨_, same, created⟩
      obtain rfl := Except.ok.inj same
      exact ⟨_, rfl, (Router.status_finish _ _ _).trans created⟩

namespace State

variable {service : Service} {state : State} {request : Request}

/-- A request to register adds a row and is answered with its user, or it does not and is not
answered as created. -/
theorem serve_register_cases (service : Service) (state : State)
    (posted : request.method = "POST") :
    (∃ form table row user, request.Enrolls service state form table row
          (state.run service (Route.register.serve service request)).2.directory ∧
        row.user = .ok user ∧
        (state.run service (Route.register.serve service request)).1 =
          .ok (.ofJson 201 user.json)) ∨
      (¬ IsCreated (Gate.settled (state.run service (Route.register.serve service request)).1) ∧
        (state.run service (Route.register.serve service request)).2.directory.table =
          state.directory.table) := by
  cases read : JsonBody.read NewUser.read request with
  | error fault =>
    rw [Route.serve_register_fault posted read]
    refine .inr ⟨not_isCreated_of_status ?_, rfl⟩
    cases fault with
    | _ => decide
  | ok form =>
    cases valid : form.validate with
    | error error =>
      rw [Route.serve_register_invalid posted read valid]
      exact .inr ⟨not_isCreated_settled (.refused error), rfl⟩
    | ok done =>
      rcases run_await_createUser service form state with
        ⟨table, row, user, adds, stored, made⟩ | ⟨⟨failure, failed⟩, kept⟩
      · have answered : state.run service (Route.register.serve service request) =
            (.ok (.ofJson 201 user.json), (state.run service (await (.createUser form))).2) := by
          rw [Route.serve_register posted read valid]
          exact (run_bind_ok made _).1
        rw [answered]
        exact .inl ⟨form, table, row, user, ⟨read, valid, adds⟩, stored, rfl⟩
      · have stopped : state.run service (Route.register.serve service request) =
            (.error failure, (state.run service (await (.createUser form))).2) := by
          rw [Route.serve_register posted read valid]
          exact (run_bind_error failed _).1
        rw [stopped]
        exact .inr ⟨not_isCreated_settled failure, kept⟩

/-- **A request to register is answered as created**, if its form is accepted, its email is free,
there is a number left, the cost is allowed and the call meets no incident. -/
theorem isCreated_respond {form : NewUser} {table : UserTable} (calm : state.IsCalm)
    (isRegistration : request.IsRegistration)
    (read : JsonBody.read NewUser.read request = .ok form) (valid : form.validate = .ok ())
    (present : state.directory.table = some table) (free : table.byEmail? form.email = none)
    (fits : table.nextNumber ≤ Int64.maxValue.toInt)
    (allowed : PasswordHash.isCost service.hashCost = true) :
    IsCreated (state.run service (Router.respond service request)).1 := by
  obtain ⟨user, made⟩ := Directory.exists_createUser_ok present free fits allowed state.now
  have awaited : (state.run service (await (.createUser form))).1 = .ok user := by
    rw [run, Operation.run_await, Program.run_act, Program.run_done, calm.perform_store]
    simp only [answer, carryOut, made]
    rfl
  have noPreflight : request.method ≠ "OPTIONS" := by
    rw [isRegistration.posted]
    decide
  rw [(run_respond service state isRegistration.path noPreflight).1]
  have answered : (state.run service (Route.register.serve service request)).1 =
      .ok (.ofJson 201 user.json) := by
    rw [Route.serve_register isRegistration.posted read valid]
    exact congrArg Prod.fst (run_bind_ok awaited _).1
  rw [answered]
  exact isCreated_finish_iff.2 ⟨_, rfl, rfl⟩

/-! ## All requests -/

/-- An operation that creates no user. -/
abbrev Spares (state : State) (α : Type) (operation : Operation α) : Prop :=
  operation.Ends Action.KeepsUsers state (fun _ => True) fun _ => True

theorem composes_spares (state : State) : Composes state.Spares where
  pure _ := ends_pure trivial
  throw _ := ends_throw trivial
  bind first second := first.bind fun value _ => second value
  attempt ends := ends.attempt.mono (fun _ _ => trivial) fun _ _ => trivial
  clock := (ends_clock nofun).mono (fun _ _ => trivial) fun _ fails => fails

/-- Requests to other routes create no user. -/
theorem serves_spares (service : Service) (state : State) (request : Request) {route : Route}
    (other : route ≠ .register) : Serves service request route state.Spares where
  toComposes := composes_spares state
  createUser _ same := absurd same other
  listRevoked := Ends.guarantees (ends_callStore nofun fun _ storage => storage)
  login credentials _ := (Service.ends_login service state credentials).guarantees
  validate token kind := (Service.ends_validate service state token kind).keepsUsers.guarantees
  refresh secretToken _ := (Service.ends_refresh service state secretToken).guarantees
  renew access secretToken _ := (Service.ends_renew service state access secretToken).guarantees
  logout secretToken presented _ :=
    (Service.ends_logout service state secretToken presented).guarantees

/-- **A request that is no registration creates no user.** -/
theorem directory_of_not_isRegistration (service : Service) (state : State)
    (other : ¬ request.IsRegistration) :
    (state.run service (Router.respond service request)).2.directory = state.directory := by
  by_cases path : Route.ofPath? request.path = some .register
  · by_cases preflight : request.method = "OPTIONS"
    · simp only [Router.respond, if_pos preflight]
      rfl
    · have notPosted : ¬ Route.register.allowed.contains request.method = true := by
        intro allowed
        exact other ⟨by simpa [Route.allowed] using allowed, path⟩
      rw [(run_respond service state path preflight).1, Route.serve, Route.policy?, Route.act]
      dsimp only
      rw [if_neg notPosted]
      rfl
  · have ends := (composes_spares state).respond fun route found =>
      serves_spares service state request fun same => path (same ▸ found)
    exact (Ends.run service ends).2.directory

/-- **A request is answered as created and has added a row of a customer, or it is not a
registration that is answered so, and has left the rows alone.** -/
theorem respond_cases (service : Service) (state : State) (request : Request) :
    (∃ form table row user, request.IsRegistration ∧
        request.Enrolls service state form table row
          (state.run service (Router.respond service request)).2.directory ∧
        row.user = .ok user ∧
        (state.run service (Router.respond service request)).1 =
          .ok (Router.finish "POST" .register (.ofJson 201 user.json))) ∨
      (¬ (request.IsRegistration ∧
          IsCreated (state.run service (Router.respond service request)).1) ∧
        (state.run service (Router.respond service request)).2.directory.table =
          state.directory.table) := by
  by_cases isRegistration : request.IsRegistration
  · obtain ⟨posted, path⟩ := isRegistration
    have noPreflight : request.method ≠ "OPTIONS" := by
      rw [posted]
      decide
    rw [(run_respond service state path noPreflight).1, posted]
    rcases serve_register_cases service state posted with
      ⟨form, table, row, user, enrolls, stored, answered⟩ | ⟨notCreated, kept⟩
    · refine .inl ⟨form, table, row, user, ⟨posted, path⟩, enrolls, stored, ?_⟩
      rw [answered]
      rfl
    · exact .inr ⟨fun both => notCreated (isCreated_finish_iff.1 both.2), kept⟩
  · refine .inr ⟨fun both => isRegistration both.1, ?_⟩
    rw [directory_of_not_isRegistration service state isRegistration]

end State

/-! ## The rows behind a request -/

namespace Directory

variable {directory after : Directory} {cost : Nat} {now : Int} {form : NewUser}
  {table : UserTable} {row : UserRow}

/-- The rows of the users, and none if the table has been dropped. -/
def rows (directory : Directory) : List UserRow :=
  (directory.table.map (·.rows)).getD []

/-- No two rows have the same email, and the highest number is one of sixty-four bits. -/
structure IsSound (directory : Directory) : Prop where
  emails : (directory.rows.map (·.email)).Nodup
  counts : ∀ table, directory.table = some table → table.Counts

/-- The row is that of a new customer: it has the fields of the form, and a number above every
number of a row and above every number that was given out. -/
structure IsNewCustomer (directory : Directory) (form : NewUser) (row : UserRow) : Prop where
  role : row.role = "customer"
  firstName : row.firstName = form.firstName
  lastName : row.lastName = form.lastName
  email : row.email = form.email
  phoneNumber : row.phoneNumber = form.phoneNumber
  address : row.address = form.address
  above : ∀ table, directory.table = some table →
    table.lastNumber < row.id.toInt ∧ ∀ old ∈ table.rows, old.id.toInt < row.id.toInt

/-- A directory without users is sound. -/
theorem isSound_empty : ({} : Directory).IsSound := by
  refine ⟨List.nodup_nil, fun table present => ?_⟩
  obtain rfl := Option.some.inj present
  exact (by decide : Int64.minValue.toInt ≤ 0)

theorem rows_of_table (same : after.table = directory.table) : after.rows = directory.rows := by
  rw [rows, rows, same]

theorem IsSound.of_table (sound : directory.IsSound) (same : after.table = directory.table) :
    after.IsSound :=
  ⟨rows_of_table same ▸ sound.emails, fun table present => sound.counts table (same ▸ present)⟩

theorem Adds.rows_eq (adds : Adds cost now form directory table row after) :
    after.rows = directory.rows ++ [row] := by
  simp [rows, adds.present, adds.after_eq]

theorem Adds.isSound (adds : Adds cost now form directory table row after)
    (sound : directory.IsSound) : after.IsSound := by
  have emails := sound.emails
  have counts := sound.counts table adds.present
  simp only [rows, adds.present, Option.map_some, Option.getD_some] at emails
  refine ⟨?_, fun changed present => ?_⟩
  · simp only [rows, adds.after_eq, Option.map_some, Option.getD_some]
    exact adds.inserts.emails emails
  · rw [adds.after_eq] at present
    obtain rfl := Option.some.inj present
    exact Int.le_trans counts (adds.inserts.follows counts).last

theorem Adds.isNewCustomer (adds : Adds cost now form directory table row after)
    (sound : directory.IsSound) (isCustomer : form.role = .customer) :
    directory.IsNewCustomer form row := by
  have made := adds.inserts.inserted_eq
  refine ⟨?_, ?_, ?_, ?_, ?_, ?_, fun found present => ?_⟩
  · rw [made]
    exact congrArg Role.name isCustomer
  · rw [made]
    rfl
  · rw [made]
    rfl
  · rw [made]
    rfl
  · rw [made]
    rfl
  · rw [made]
    rfl
  · obtain rfl : found = table := Option.some.inj (present.symm.trans adds.present)
    have number : row.id.toInt = found.nextNumber := by
      rw [made]
      exact (sound.counts found present).toInt_ofInt adds.inserts.fits
    rw [number]
    exact ⟨found.lastNumber_lt_nextNumber, fun old => UserTable.toInt_lt_nextNumber⟩

end Directory

/-! ## Histories -/

/-- The event comes from outside: a request, a move of the clock, or a plan of incidents. -/
def Event.IsFromOutside : Event → Prop
  | request _ | setClock _ | advanceClock _ | plan _ _ => True
  | _ => False

namespace State

variable {service : Service} {state : State}

/-- **A request keeps all rows, and the emails distinct.** -/
theorem grows_respond (service : Service) (sound : state.directory.IsSound) (request : Request) :
    (state.run service (Router.respond service request)).2.directory.IsSound ∧
      state.directory.rows <+:
        (state.run service (Router.respond service request)).2.directory.rows := by
  rcases respond_cases service state request with
    ⟨form, table, row, user, -, enrolls, -⟩ | ⟨-, kept⟩
  · rw [enrolls.adds.rows_eq]
    exact ⟨enrolls.adds.isSound sound, List.prefix_append _ _⟩
  · rw [Directory.rows_of_table kept]
    exact ⟨sound.of_table kept, List.prefix_refl _⟩

theorem grows_step (service : Service) (sound : state.directory.IsSound) {event : Event}
    (outside : event.IsFromOutside) :
    (state.step service event).2.directory.IsSound ∧
      state.directory.rows <+: (state.step service event).2.directory.rows := by
  cases event with
  | request request => exact grows_respond service sound request
  | setClock time => exact ⟨sound, List.prefix_refl _⟩
  | advanceClock span => exact ⟨sound, List.prefix_refl _⟩
  | plan store incidents =>
    cases store with
    | revocations => exact ⟨sound, List.prefix_refl _⟩
    | users => exact ⟨sound, List.prefix_refl _⟩
  | _ => exact outside.elim

/-- **Whatever comes from outside keeps all rows, and the emails distinct.** -/
theorem grows_after (service : Service) {history : List Event}
    (outside : ∀ event ∈ history, event.IsFromOutside) (sound : state.directory.IsSound) :
    (state.after service history).directory.IsSound ∧
      state.directory.rows <+: (state.after service history).directory.rows := by
  induction history generalizing state with
  | nil => exact ⟨sound, List.prefix_refl _⟩
  | cons event later ih =>
    obtain ⟨here, behind⟩ := List.forall_mem_cons.1 outside
    obtain ⟨sound', grown⟩ := grows_step service sound here
    obtain ⟨sound'', grown'⟩ := ih behind sound'
    exact ⟨sound'', grown.trans grown'⟩

end State

/-- **Registering cannot escalate, overwrite or succeed by half.** Behind any requests, whatever
their bodies say and whichever calls fail, all rows are as they were and no two of them have the
same email. A request to register that is answered as created has added one row, that of a new
customer with the fields of the form in its body; and any other request, and one that is answered
otherwise or not at all, has left the table as it was. -/
theorem registration_sound (service : Service) {state : State} (sound : state.directory.IsSound)
    {history : List Event} (outside : ∀ event ∈ history, event.IsFromOutside)
    (request : Request) :
    let reached := state.after service history
    let answer := (reached.run service (Router.respond service request)).1
    let after := (reached.run service (Router.respond service request)).2
    (request.IsRegistration ∧ IsCreated answer →
        ∃ form row, JsonBody.read NewUser.read request = .ok form ∧ form.validate = .ok () ∧
          reached.directory.IsNewCustomer form row ∧
          after.directory.rows = reached.directory.rows ++ [row]) ∧
      (¬ (request.IsRegistration ∧ IsCreated answer) →
        after.directory.table = reached.directory.table) ∧
      state.directory.rows <+: reached.directory.rows ∧
      reached.directory.rows <+: after.directory.rows ∧
      (after.directory.rows.map (·.email)).Nodup := by
  intro reached answer after
  obtain ⟨sound', grown⟩ := State.grows_after service outside sound
  obtain ⟨sound'', grown'⟩ := State.grows_respond service sound' request
  refine ⟨?_, ?_, grown, grown', sound''.emails⟩
  · intro created
    rcases State.respond_cases service reached request with
      ⟨form, table, row, user, -, enrolls, -⟩ | ⟨notCreated, -⟩
    · have isCustomer := NewUser.role_of_read enrolls.read
      exact ⟨form, row, enrolls.read, enrolls.valid, enrolls.adds.isNewCustomer sound' isCustomer,
        enrolls.adds.rows_eq⟩
    · exact absurd created notCreated
  · intro notCreated
    rcases State.respond_cases service reached request with
      ⟨form, table, row, user, isRegistration, -, -, answered⟩ | ⟨-, kept⟩
    · refine absurd ⟨isRegistration, ?_⟩ notCreated
      exact ⟨_, answered, Router.status_finish _ _ _⟩
    · exact kept

/-- A body that claims the role and the number of an administrator is that of a customer. -/
theorem registration_sound_behind_escalation :
    let service : Service := ⟨⟨[1], [2]⟩, 900, 86400, 300, ⟨true, 900, 86400⟩, .table, 4⟩
    let owner : UserRow := ⟨1, "Ada", "Byron", "ada@example.org", "hash", "admin", "1", "London", 0⟩
    let state : State := { now := 60, directory := ⟨some ⟨[owner], 1⟩, 0⟩ }
    let body : Json.Value := .object [("role", .text "admin"), ("id", .integer 1),
      ("first_name", .text "Eve"), ("last_name", .text "Ning"), ("email", .text "eve@example.org"),
      ("password", .text "secret"), ("phone_number", .text "2"), ("address", .text "Paris")]
    let request : Request :=
      { method := "POST", target := "/api/v1/register", body := body.bytes,
        headers := [("content-type", Text.utf8 "application/json")] }
    let reached := state.after service [.setClock 61]
    ∃ row, (reached.run service (Router.respond service request)).2.directory.rows =
        [owner, row] ∧ row.role = "customer" ∧ owner.id.toInt < row.id.toInt := by
  intro service owner state body request reached
  have sound : state.directory.IsSound := by
    refine ⟨by decide, fun table present => ?_⟩
    obtain rfl := Option.some.inj present
    exact (by decide : Int64.minValue.toInt ≤ 1)
  have outside : ∀ event ∈ [Event.setClock 61], event.IsFromOutside := by
    intro event member
    obtain rfl := List.mem_singleton.1 member
    trivial
  have read : JsonBody.read NewUser.read request =
      .ok ⟨"Eve", "Ning", "eve@example.org", "secret", "2", "Paris", .customer⟩ := by
    decide +kernel
  have isRegistration : request.IsRegistration := ⟨rfl, by decide +kernel⟩
  have created : IsCreated (reached.run service (Router.respond service request)).1 :=
    State.isCreated_respond ⟨rfl, rfl, rfl⟩ isRegistration read (by decide +kernel) rfl
      (by decide +kernel) (by decide) rfl
  obtain ⟨adds, -⟩ := registration_sound service sound outside request
  obtain ⟨form, row, -, -, isNew, rows⟩ := adds ⟨isRegistration, created⟩
  exact ⟨row, rows, isNew.role, (isNew.above _ rfl).2 owner (List.mem_singleton.2 rfl)⟩

end DualToken
