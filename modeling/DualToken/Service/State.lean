import DualToken.Account.Directory
import DualToken.Revocation.Store
import DualToken.Service.Operations
import DualToken.Session.Cache
import DualToken.Token.Name

/-!
# The world of the service

The state holds everything that an operation can change: the directory of users, the recorded
tokens, the cache of sessions, the clock, and how many names have been drawn.

Each of the two stores has a plan of incidents. Every call that the service makes to a store is
noted and takes the next incident of that store's plan before it is carried out: the call may fail,
or stay unanswered, or another writer or another logout comes first. A logout that comes first makes
calls of its own, which take further incidents; as each incident is taken once, this comes to an
end.
-/

set_option autoImplicit false

namespace DualToken

/-- What happens to a call before it is carried out. -/
inductive Incident where
  /-- Nothing. -/
  | pass
  | fail
  /-- The call is never answered. -/
  | hang
  /-- Another writer records a token first; only a call for recorded tokens meets one. -/
  | record (token : String)
  /-- A whole logout with a secret token comes first. -/
  | logout (secretToken : String)
  deriving DecidableEq, Repr

inductive StoreName where
  /-- The recorded tokens. -/
  | revocations
  | users
  deriving DecidableEq, Repr

/-- The store that a call goes to. -/
def StoreCall.target : StoreCall → StoreName
  | record _ | lookup _ | list => .revocations
  | userById _ | userByEmail _ | createUser _ => .users

/-- Everything that operations change. -/
structure State where
  /-- The clock, in seconds. -/
  now : Int
  /-- How many names have been drawn. -/
  namesDrawn : Nat := 0
  /-- The users. -/
  directory : Directory := {}
  /-- The recorded tokens. -/
  revocations : RevocationStore := {}
  /-- The current tokens of each session. -/
  sessions : SessionCache := {}
  /-- The incidents that calls for recorded tokens will meet. -/
  revocationPlan : List Incident := []
  /-- The incidents that calls for users will meet. -/
  userPlan : List Incident := []
  /-- The calls that were made, the latest first. -/
  calls : List StoreCall := []
  deriving DecidableEq, Repr

namespace State

/-! ## Incidents -/

/-- The plan of a store. -/
def plan (state : State) : StoreName → List Incident
  | .revocations => state.revocationPlan
  | .users => state.userPlan

/-- The state with another plan for a store. -/
def withPlan (state : State) (store : StoreName) (plan : List Incident) : State :=
  match store with
  | .revocations => { state with revocationPlan := plan }
  | .users => { state with userPlan := plan }

/-- How many incidents are planned. -/
def incidentCount (state : State) : Nat :=
  state.revocationPlan.length + state.userPlan.length

/-- Notes a call and takes the incident that it meets. -/
def takeIncident (state : State) (call : StoreCall) : Incident × State :=
  let noted := { state with calls := call :: state.calls }
  match state.plan call.target with
  | [] => (.pass, noted)
  | incident :: later => (incident, noted.withPlan call.target later)

/-! ## Carrying out calls -/

def record (service : Service) (state : State) (token : String) :
    Except AuthError RecordedToken × State :=
  let (result, revocations) := state.revocations.record service.backend token state.now
  (result, { state with revocations })

/-- Lets another writer record a token before a call. The directory of users has no such writer. -/
def recordBefore (service : Service) (call : StoreCall) (token : String) (state : State) : State :=
  match call.target with
  | .revocations => (state.record service token).2
  | .users => state

def carryOut (service : Service) : (call : StoreCall) → State →
    Except AuthError call.Result × State
  | .record token, state => state.record service token
  | .lookup token, state =>
    let (result, revocations) := state.revocations.lookup service.backend token
    (result, { state with revocations })
  | .list, state =>
    let (result, revocations) := state.revocations.list service.backend
    (result, { state with revocations })
  | .userById id, state => (state.directory.userById id, state)
  | .userByEmail email, state => (state.directory.userByEmail email, state)
  | .createUser form, state =>
    let (result, directory) := state.directory.createUser service.hashCost state.now form
    (result, { state with directory })

/-- Carries out a call and answers it. -/
def answer (service : Service) (call : StoreCall) (state : State) :
    StoreReply call.Result × State :=
  let (result, state) := state.carryOut service call
  (.answer result, state)

/-- The error of a call that fails by an incident. -/
def incidentError : AuthError := .storage "connection refused"

/-! ## Performing actions -/

/-- Performs an action, where incidents may start logouts nested at most `depth` deep. -/
def performWithin (service : Service) : (depth : Nat) → (action : Action) → State →
    action.Reply × State
  | depth, .store call, state =>
    let (incident, state) := state.takeIncident call
    match incident with
    | .pass => state.answer service call
    | .fail => (.answer (.error incidentError), state)
    | .hang => (.silence, state)
    | .record token => (state.recordBefore service call token).answer service call
    | .logout secretToken =>
      match depth with
      | 0 => state.answer service call
      | inner + 1 =>
        let (_, state) :=
          Program.run (performWithin service inner) (service.logout secretToken none).run state
        state.answer service call
  | _, .clock, state => (state.now, state)
  | _, .drawName, state =>
    let drawn := state.namesDrawn + 1
    (TokenName.ofCount drawn, { state with namesDrawn := drawn })
  | _, .setSession session kind token expiresAt, state =>
    ((), { state with sessions := state.sessions.set session kind token expiresAt state.now })
  | _, .blacklistSession session kind, state =>
    let (token, sessions) := state.sessions.blacklist session kind
    (token, { state with sessions })
  | _, .clearSession session, state =>
    let (tokens, sessions) := state.sessions.clear session
    (tokens, { state with sessions })

def perform (service : Service) (action : Action) (state : State) : action.Reply × State :=
  state.performWithin service state.incidentCount action

/-- Runs an operation to its end. -/
def run {α : Type} (service : Service) (operation : Operation α) (state : State) :
    Except Failure α × State :=
  Program.run (perform service) operation.run state

end State

end DualToken
