import DualToken.Proofs.Account.Directory
import DualToken.Proofs.Service.Revocation
import DualToken.Proofs.Service.Validation

/-!
# Tokens of deleted users

A token names its user by the number of the user's row, and every check of the token looks the row
up. So all tokens of a user come to an end when the row is deleted, whether they are recorded or
not, and they stay dead as long as no other row gets the number.

Rows get numbers by insertions alone, unless a number is edited by hand. Whatever else happens, the
directory goes on without giving out a number twice (`KeepsNumbers.follows`). So the number of a
deleted row is retired, and a new user with the same email, names and role has another one
(`deleted_for_ever`).
-/

set_option autoImplicit false

namespace DualToken

open Relation (ReflTransGen)

/-! ## What keeps the numbers -/

/-- The event edits no number of a row by hand. -/
def Event.KeepsNumbers : Event → Prop
  | editUser _ change => change.KeepsNumber
  | _ => True

/-- Something happens that edits no number by hand: a whole event, a single action of an operation
that takes turns with others, or a single step of creating a user. -/
inductive KeepsNumbers (service : Service) (state : State) : State → Prop
  | event {event : Event} (keeps : event.KeepsNumbers) :
      KeepsNumbers service state (state.step service event).2
  | action (action : Action) : KeepsNumbers service state (state.perform service action).2
  | create (step : Directory.Step) :
      KeepsNumbers service state { state with
        directory := (Directory.perform service.hashCost state.now step state.directory).2 }

/-- What a state can have become while no number was edited by hand. -/
abbrev LaterKeepingNumbers (service : Service) : State → State → Prop :=
  ReflTransGen (KeepsNumbers service)

/-- A history without such edits leads to a later state. -/
theorem laterKeepingNumbers_after (service : Service) {history : List Event}
    (keeps : ∀ event ∈ history, event.KeepsNumbers) (state : State) :
    LaterKeepingNumbers service state (state.after service history) := by
  induction history generalizing state with
  | nil => exact .refl
  | cons event later ih =>
    obtain ⟨here, behind⟩ := List.forall_mem_cons.1 keeps
    exact .head (.event here) (ih behind _)

namespace State

variable {service : Service} {state : State}

theorem follows_createUser (cost : Nat) (now : Int) (form : NewUser) (directory : Directory) :
    directory.Follows (directory.createUser cost now form).2 :=
  Program.run_preserves directory.Follows
    (fun step between follows => follows.trans (Directory.follows_perform cost now step between))
    (Directory.create form) directory (.refl directory)

variable (service) in
/-- **Actions give out no number twice.** -/
theorem sustains_follows (start : Directory) :
    Sustains service (fun _ => True) (fun _ _ => True)
      fun state => start.Follows state.directory where
  take {call state} _ follows := by
    obtain ⟨_, _, taken⟩ := exists_takeIncident call state
    rw [taken]
    exact follows
  rival {call _ _ _} _ _ follows := by
    rw [recordBefore]
    cases call.target with
    | revocations => exact follows
    | users => exact follows
  logout _ _ := (Program.obeys_trivial _).mono fun _ _ _ _ => trivial
  answer {call state} _ follows := by
    refine ⟨trivial, ?_⟩
    cases call with
    | createUser form => exact follows.trans (follows_createUser _ _ form state.directory)
    | _ => exact follows
  fail _ := trivial
  hang _ := trivial
  act {action state} depth noCall _ follows := by
    refine ⟨trivial, ?_⟩
    cases action with
    | store call => exact absurd rfl (noCall call)
    | clock =>
      rw [performWithin_clock]
      exact follows
    | drawName =>
      rw [performWithin_drawName]
      exact follows
    | setSession session kind token expiresAt =>
      rw [performWithin_setSession]
      exact follows
    | blacklistSession session kind =>
      rw [performWithin_blacklistSession]
      exact follows
    | clearSession session =>
      rw [performWithin_clearSession]
      exact follows

theorem follows_perform (action : Action) (state : State) :
    state.directory.Follows (state.perform service action).2.directory :=
  ((sustains_follows service state.directory).performWithin state.incidentCount trivial
    (.refl state.directory)).2

theorem follows_run {α : Type} (operation : Operation α) (state : State) :
    state.directory.Follows (state.run service operation).2.directory :=
  ((sustains_follows service state.directory).run (Program.obeys_trivial operation.run)
    (.refl state.directory)).2

theorem follows_changeUsers {change : UserTable → Except Database.Fault (Nat × UserTable)}
    (keeps : ∀ table count changed, change table = .ok (count, changed) → table.Follows changed)
    (state : State) : state.directory.Follows (state.changeUsers change).2.directory := by
  rw [changeUsers]
  split
  · exact .refl _
  · next table present =>
    split
    · exact .refl _
    · next count changed made =>
      intro other present'
      obtain rfl := Option.some.inj present'
      exact ⟨table, present, fun _ => keeps table count changed made⟩

theorem follows_dropTable (table : TableName) (state : State) :
    state.directory.Follows (state.dropTable table).2.directory := by
  cases table with
  | users =>
    rw [dropTable]
    dsimp only
    split
    · exact .refl _
    · rintro _ ⟨⟩
  | revocations =>
    rw [dropTable]
    dsimp only
    split
    · exact .refl _
    · exact .refl _

/-- **Every event that edits no number by hand gives out no number twice.** -/
theorem follows_step {event : Event} (keeps : event.KeepsNumbers) (state : State) :
    state.directory.Follows (state.step service event).2.directory := by
  cases event with
  | createUser form => exact follows_createUser _ _ form state.directory
  | createUserTwice form =>
    exact Interleaving.run_preserves state.directory.Follows
      (fun step between follows => follows.trans (Directory.follows_perform _ _ step between))
      [0, 1, 0, 1, 0, 1] [Directory.create form, Directory.create form] state.directory (.refl _)
  | editUser id change =>
    exact follows_changeUsers (fun _ _ _ made => UserTable.follows_edit keeps made) state
  | deleteUser id =>
    refine follows_changeUsers (fun table count changed made => ?_) state
    obtain rfl : (table.delete id).2 = changed := congrArg Prod.snd (Except.ok.inj made)
    exact table.follows_delete id
  | dropTable table => exact follows_dropTable table state
  | login credentials => exact follows_run _ state
  | issuePair user => exact follows_run _ state
  | validate token kind => exact follows_run _ state
  | refresh secretToken => exact follows_run _ state
  | renew access secretToken => exact follows_run _ state
  | logout secretToken presented => exact follows_run _ state
  | isRevoked token => exact follows_run _ state
  | listRevoked => exact follows_run _ state
  | request request => exact follows_run _ state
  | plan store incidents =>
    cases store with
    | revocations => exact .refl _
    | users => exact .refl _
  | _ => exact .refl _

end State

variable {service : Service} {state later : State} {number : Int64}

theorem KeepsNumbers.follows (step : KeepsNumbers service state later) :
    state.directory.Follows later.directory := by
  cases step with
  | event keeps => exact State.follows_step keeps state
  | action action => exact State.follows_perform action state
  | create step => exact Directory.follows_perform _ _ step state.directory

/-- **Whatever happens without such edits, no number is given out twice.** -/
theorem LaterKeepingNumbers.follows (run : LaterKeepingNumbers service state later) :
    state.directory.Follows later.directory := by
  induction run with
  | refl => exact .refl _
  | tail _ step ih => exact ih.trans step.follows

/-! ## Deleting a row -/

/-- The table has a row of the number. -/
def Directory.HasRow (directory : Directory) (number : Int64) : Prop :=
  ∃ table, directory.table = some table ∧ ∃ row ∈ table.rows, row.id = number

/-- **A number whose row is deleted is retired.** -/
theorem State.retires_deleteUser (numbered : state.directory.IsNumbered)
    (there : state.directory.HasRow number) :
    (state.step service (.deleteUser number)).2.directory.Retires number := by
  obtain ⟨table, present, row, member, rfl⟩ := there
  intro changed present'
  simp only [State.step, State.changeUsers, present, Option.some.injEq] at present'
  subst present'
  exact (numbered table present).retires_delete member

/-! ## Tokens of a retired number -/

namespace State

section Refusing

variable {token : String} {claims : Claims}

/-- The claims of a token that validates are what it says, and their number is not retired. -/
theorem said_of_validate {kind : TokenKind}
    (ok : (state.run service (service.validate token kind)).1 = .ok claims) :
    Codec.said? token = some claims ∧ ¬ state.directory.Retires claims.sub := by
  have ends := (Service.ends_validate service state token kind).keepsUsers
  obtain ⟨decoded, user, found, -⟩ := Ends.of_ok ends ok
  refine ⟨(Codec.says_of_decodeAt decoded).said, fun retires => ?_⟩
  obtain ⟨table, row, present, held, -⟩ := Directory.userById_eq_ok_iff.1 found
  have same : row.id = claims.sub := by simpa using List.find?_some held
  exact (retires table present).absent row (List.mem_of_find?_eq_some held) same

/-- **A token of a retired number does not validate.** -/
theorem refusesCheck_validate (service : Service) (retires : state.directory.Retires claims.sub)
    (said : Codec.said? token = some claims) (kind : TokenKind) :
    state.RefusesCheck service (service.validate token kind) := by
  cases outcome : (state.run service (service.validate token kind)).1 with
  | error failure => exact refusesCheck_of_error outcome
  | ok accepted =>
    obtain ⟨said', stands⟩ := said_of_validate outcome
    obtain rfl : accepted = claims := Option.some.inj (said'.symm.trans said)
    exact absurd retires stands

/-- An access token of a retired number is not renewed, whatever the secret token is. -/
theorem refusesCheck_renew (retires : state.directory.Retires claims.sub) (token : String) :
    state.RefusesCheck service (service.renew claims token) := by
  cases outcome : (state.run service (service.validate token .secret)).1 with
  | error failure => exact (refusesCheck_of_error outcome).bind _
  | ok accepted =>
    have differs : accepted.sub ≠ claims.sub := fun same =>
      (said_of_validate outcome).2 (same ▸ retires)
    refine ⟨.identityMismatch, ?_, rfl⟩
    rw [Service.renew, (run_bind_ok outcome _).1, if_neg fun both => differs both.2]
    rfl

end Refusing

end State

/-! ## Deletion for ever -/

/-- **Tokens of a deleted user are dead for ever.** As long as no number is edited by hand, a number
whose row has been deleted is not that of any later row, and whoever is created later gets another
one. Everything that is given a token with this number refuses it: it does not validate as either
kind, it is neither refreshed nor renewed, and the gate lets no request through with it. -/
theorem deleted_for_ever (service : Service) {first before later : State} {number : Int64}
    (numbered : first.directory.IsNumbered) (earlier : LaterKeepingNumbers service first before)
    (there : before.directory.HasRow number)
    (afterwards : LaterKeepingNumbers service
      (before.step service (.deleteUser number)).2 later) :
    ¬ later.directory.HasRow number ∧
      (∀ form user, (later.directory.createUser service.hashCost later.now form).1 = .ok user →
        user.id ≠ number) ∧
      (∀ claims secretToken, claims.sub = number →
        later.RefusesCheck service (service.renew claims secretToken)) ∧
      ∀ token claims, Codec.said? token = some claims → claims.sub = number →
        (∀ kind, later.RefusesCheck service (service.validate token kind)) ∧
          later.RefusesCheck service (service.refresh token) ∧
          (∀ access, later.RefusesCheck service (service.renew access token)) ∧
          (∀ policy headers handler, Carrier.token? headers .access = some token →
            (later.run service (Gate.enter service policy headers handler)).1 =
              .error (.refused .unauthenticated)) ∧
          ∀ request route policy, Route.ofPath? request.path = some route →
            route.policy? = some policy → Carrier.token? request.headers .access = some token →
            request.method ≠ "OPTIONS" →
              ∃ response, (later.run service (Router.respond service request)).1 = .ok response ∧
                response.status = 401 := by
  have retires : later.directory.Retires number :=
    (State.retires_deleteUser (numbered.follows earlier.follows) there).follows afterwards.follows
  refine ⟨?_, ?_, ?_, ?_⟩
  · rintro ⟨table, present, row, member, same⟩
    exact (retires table present).absent row member same
  · intro form user created
    rcases later.directory.createUser_cases service.hashCost later.now form with
      ⟨error, failed, -⟩ | ⟨table, row, made, read, answered, adds⟩
    · exact absurd (created.symm.trans failed) nofun
    · obtain rfl : user = made := Except.ok.inj (created.symm.trans answered)
      rw [row.id_of_user read]
      exact (retires table adds.present).ne_of_inserts adds.inserts
  · rintro claims secretToken rfl
    exact State.refusesCheck_renew retires secretToken
  · rintro token claims said rfl
    have refuses := State.refusesCheck_validate service retires said
    refine ⟨refuses, (refuses .secret).bind _, fun access => (refuses .secret).bind _, ?_, ?_⟩
    · intro policy headers handler carried
      exact (refuses .access).enter policy carried handler
    · intro request route policy found gated carried noPreflight
      exact (refuses .access).respond found gated carried noPreflight

/-- The first user of a service is deleted and registers anew with the same form. An access token
that was issued for the first of the two rows does not validate. -/
theorem deleted_for_ever_behind_registration :
    let service : Service := ⟨⟨[1], [2]⟩, 900, 86400, 300, ⟨true, 900, 86400⟩, .table, 4⟩
    let form : NewUser := ⟨"Ada", "Byron", "ada@example.org", "secret", "1", "London", .customer⟩
    let claims : Claims := Claims.forUser (form.user "hash" 0 1) "session" "name" .access 0 900
    let before : State := ({ now := 0 } : State).after service [.createUser form]
    let later : State := (before.step service (.deleteUser 1)).2.after service [.createUser form]
    before.directory.HasRow claims.sub ∧
      later.RefusesCheck service (service.validate (service.codec.issue claims) .access) := by
  intro service form claims before later
  have keeps : ∀ event ∈ [Event.createUser form], event.KeepsNumbers := by
    intro event member
    obtain rfl := List.mem_singleton.1 member
    trivial
  have there : before.directory.HasRow 1 := by
    have created : ∃ user, (Directory.createUser {} service.hashCost 0 form).1 = .ok user :=
      Directory.exists_createUser_ok rfl rfl (by decide) rfl 0
    obtain ⟨user, made⟩ := created
    rcases Directory.createUser_cases {} service.hashCost 0 form with
      ⟨error, failed, -⟩ | ⟨table, row, user', -, -, adds⟩
    · exact absurd (made.symm.trans failed) nofun
    · obtain rfl := Option.some.inj adds.present
      refine ⟨_, congrArg Directory.table adds.after_eq, row, ?_, ?_⟩
      · exact List.mem_append_right _ (List.mem_singleton.2 rfl)
      · rw [adds.inserts.inserted_eq]
        exact (by decide : Int64.ofInt ({} : UserTable).nextNumber = 1)
  have earlier : LaterKeepingNumbers service { now := 0 } before :=
    laterKeepingNumbers_after service keeps _
  obtain ⟨-, -, -, dead⟩ := deleted_for_ever service Directory.isNumbered_empty earlier there
    (laterKeepingNumbers_after service keeps _)
  exact ⟨there, (dead _ claims (Codec.says_issue service.codec claims).said rfl).1 .access⟩

end DualToken
