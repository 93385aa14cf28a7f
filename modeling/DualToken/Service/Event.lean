import DualToken.Http.Router
import DualToken.Interleaving
import DualToken.Service.State

/-!
# Events

Whatever happens to a service is an event: an operation, a request, a move of the clock, a change
made to the stores directly, a new plan of incidents, or a look at what has happened so far. A
history is a list of events, and `State.after` is the state that it leads to.

Events that use the stores directly are not calls of the service: they are not noted and meet no
incidents.
-/

set_option autoImplicit false

namespace DualToken

/-- A table of the database. -/
inductive TableName where
  | users
  /-- The recorded tokens. -/
  | revocations
  deriving DecidableEq, Repr

/-- Something that happens to a service. -/
inductive Event where
  | setClock (time : Int)
  | advanceClock (span : Int)
  | createUser (form : NewUser)
  /-- A user is created twice at the same time. -/
  | createUserTwice (form : NewUser)
  /-- A user is looked up by number. -/
  | userById (id : Int64)
  /-- A user is looked up by email. -/
  | userByEmail (email : String)
  /-- A password is compared with that of the user of an email. -/
  | checkPassword (email password : String)
  /-- A user's row is edited by hand. -/
  | editUser (id : Int64) (change : RowEdit)
  | deleteUser (id : Int64)
  | dropTable (table : TableName)
  /-- A user logs in. -/
  | login (credentials : Credentials)
  /-- A pair of tokens is issued to a user. -/
  | issuePair (user : User)
  | mint (claims : Claims)
  | validate (token : String) (kind : TokenKind)
  | refresh (secretToken : String)
  | renew (access : Claims) (secretToken : String)
  /-- A session is ended. -/
  | logout (secretToken : String) (presented : Option String)
  /-- The service is asked whether a token is revoked. -/
  | isRevoked (token : String)
  /-- The service is asked for all revoked tokens. -/
  | listRevoked
  /-- The current tokens of a session are looked at. -/
  | session (session : String)
  /-- A slot of a session is emptied. -/
  | blacklistSession (session : String) (kind : TokenKind)
  | record (token : String)
  /-- The store is asked directly whether a token is recorded. -/
  | lookup (token : String)
  /-- The store is asked directly for all recorded tokens. -/
  | list
  /-- A store gets a plan of incidents. -/
  | plan (store : StoreName) (incidents : List Incident)
  /-- The calls since the last look are taken away. -/
  | takeCalls
  /-- The server is looked at, and the commands since the last look are taken away. -/
  | takeCommands
  /-- A failure is queued at the server. -/
  | queueFailure (command line : String)
  /-- An entry of another writer is queued at the server. -/
  | queueRival (token value : String)
  | request (request : Request)

namespace Event

/-- What an event answers when nothing goes wrong. -/
def Answer : Event → Type
  | setClock _ | advanceClock _ => Int
  | createUser _ => User
  | createUserTwice _ => List (Except AuthError User)
  | userById _ | userByEmail _ => Option User
  | checkPassword _ _ => Option Bool
  | editUser _ _ | deleteUser _ => Nat
  | dropTable _ => Unit
  | login _ | issuePair _ => TokenPair
  | mint _ => String
  | validate _ _ => Claims
  | refresh _ | renew _ _ => String
  | logout _ _ => Unit
  | isRevoked _ => Bool
  | listRevoked => List RecordedToken
  | session _ => Option String × Option String
  | blacklistSession _ _ => Option String
  | record _ => RecordedToken
  | lookup _ => Bool
  | list => List RecordedToken
  | plan _ _ => Unit
  | takeCalls => List StoreCall
  | takeCommands => Redis.Server × List String
  | queueFailure _ _ | queueRival _ _ => Unit
  | request _ => Response

end Event

/-- The outcome of an event. -/
abbrev Event.Outcome (event : Event) : Type := Except Failure event.Answer

namespace State

/-! ## Direct use of the stores -/

/-- An outcome of a store as the outcome of an event. -/
def ofStore {α : Type} (result : Except AuthError α) : Except Failure α :=
  result.mapError .refused

def createUser (service : Service) (form : NewUser) (state : State) :
    Except Failure User × State :=
  let (result, directory) := state.directory.createUser service.hashCost state.now form
  (ofStore result, { state with directory })

/-- Creates a user twice at the same time, step by step in turn. Refusals come first in the
answer. -/
def createUserTwice (service : Service) (form : NewUser) (state : State) :
    List (Except AuthError User) × State :=
  let (programs, directory) :=
    Interleaving.run (Directory.perform service.hashCost state.now) [0, 1, 0, 1, 0, 1]
      [Directory.create form, Directory.create form] state.directory
  let results := programs.filterMap Interleaving.result?
  let isError : Except AuthError User → Bool
    | .error _ => true
    | .ok _ => false
  (results.filter isError ++ results.filter (!isError ·), { state with directory })

/-- Compares a password with that of the user of an email. -/
def checkPassword (email password : String) (state : State) : Except Failure (Option Bool) :=
  ofStore <| (state.directory.userByEmail email).map fun user =>
    user.map fun user => Directory.comparePasswords user.passwordHash password

/-- Changes the table of users by hand. -/
def changeUsers (change : UserTable → Except Database.Fault (Nat × UserTable)) (state : State) :
    Except Failure Nat × State :=
  match state.directory.table with
  | none => (.error (.refused Directory.missing.toAuthError), state)
  | some table =>
    match change table with
    | .error fault => (.error (.refused fault.toAuthError), state)
    | .ok (count, table) =>
      (.ok count, { state with directory := { state.directory with table := some table } })

def dropTable (table : TableName) (state : State) : Except Failure Unit × State :=
  match table with
  | .users =>
    match state.directory.table with
    | none => (.error (.refused Directory.missing.toAuthError), state)
    | some _ => (.ok (), { state with directory := { state.directory with table := none } })
  | .revocations =>
    match state.revocations.table with
    | none => (.error (.refused RevocationTable.missing.toAuthError), state)
    | some _ => (.ok (), { state with revocations := { state.revocations with table := none } })

/-- Runs one call past the incidents. -/
def direct (service : Service) (call : StoreCall) (state : State) :
    Except Failure call.Result × State :=
  let (result, state) := state.carryOut service call
  (ofStore result, state)

/-! ## Histories -/

/-- Lets an event happen. -/
def step (service : Service) : (event : Event) → State → event.Outcome × State
  | .setClock time, state => (.ok time, { state with now := time })
  | .advanceClock span, state => (.ok (state.now + span), { state with now := state.now + span })
  | .createUser form, state => state.createUser service form
  | .createUserTwice form, state =>
    let (results, state) := state.createUserTwice service form
    (.ok results, state)
  | .userById id, state => (ofStore (state.directory.userById id), state)
  | .userByEmail email, state => (ofStore (state.directory.userByEmail email), state)
  | .checkPassword email password, state => (state.checkPassword email password, state)
  | .editUser id change, state => state.changeUsers fun table => table.edit id change
  | .deleteUser id, state => state.changeUsers fun table => .ok (table.delete id)
  | .dropTable table, state => state.dropTable table
  | .login credentials, state => state.run service (service.login credentials)
  | .issuePair user, state => state.run service (service.issuePair user)
  | .mint claims, state => (.ok (service.codec.issue claims), state)
  | .validate token kind, state => state.run service (service.validate token kind)
  | .refresh secretToken, state => state.run service (service.refresh secretToken)
  | .renew access secretToken, state => state.run service (service.renew access secretToken)
  | .logout secretToken presented, state =>
    state.run service (service.logout secretToken presented)
  | .isRevoked token, state => state.run service (Service.isRevoked token)
  | .listRevoked, state => state.run service Service.listRevoked
  | .session session, state =>
    (.ok (state.sessions.get? session .access state.now,
      state.sessions.get? session .secret state.now), state)
  | .blacklistSession session kind, state =>
    let (token, sessions) := state.sessions.blacklist session kind
    (.ok token, { state with sessions })
  | .record token, state => state.direct service (.record token)
  | .lookup token, state => state.direct service (.lookup token)
  | .list, state => state.direct service .list
  | .plan store incidents, state => (.ok (), state.withPlan store incidents)
  | .takeCalls, state => (.ok state.calls.reverse, { state with calls := [] })
  | .takeCommands, state =>
    let (names, server) := state.revocations.server.takeReceived
    (.ok (server, names), { state with revocations := { state.revocations with server } })
  | .queueFailure command line, state =>
    let server := state.revocations.server
    (.ok (), { state with revocations := { state.revocations with
      server := { server with failures := server.failures ++ [(command, line)] } } })
  | .queueRival token value, state =>
    let server := state.revocations.server
    (.ok (), { state with revocations := { state.revocations with
      server := { server with rivals := server.rivals ++ [(token, value)] } } })
  | .request request, state => state.run service (Router.respond service request)

/-- The state that a history leads to. -/
def after (service : Service) (history : List Event) (state : State) : State :=
  history.foldl (fun current event => (current.step service event).2) state

end State

end DualToken
