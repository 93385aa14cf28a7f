import DualToken.Account.Registration
import DualToken.Account.User
import DualToken.Program
import DualToken.Revocation.Record
import DualToken.Token.Claims

/-!
# What the service does to the world

The service acts on two stores, on the cache of sessions, on the clock and on the source of names.
Every operation of the service is a program of such actions, so it can be interrupted between any
two of them.

A store may answer, with a result or an error, or never answer at all. A call is bounded when
silence counts as an error of storage. Most calls are bounded and tried a second time after an error
of storage, but no more often.
-/

set_option autoImplicit false

namespace DualToken

/-! ## Actions -/

/-- A call to one of the two stores. -/
inductive StoreCall where
  | record (token : String)
  /-- Asks whether a token is recorded. -/
  | lookup (token : String)
  /-- Asks for all recorded tokens. -/
  | list
  /-- Asks for the user of a number. -/
  | userById (id : Int64)
  /-- Asks for the user of an email. -/
  | userByEmail (email : String)
  | createUser (form : NewUser)
  deriving DecidableEq, Repr

/-- What a store answers when nothing goes wrong. -/
def StoreCall.Result : StoreCall → Type
  | record _ => RecordedToken
  | lookup _ => Bool
  | list => List RecordedToken
  | userById _ => Option User
  | userByEmail _ => Option User
  | createUser _ => User

/-- How a store reacts to a call. -/
inductive StoreReply (α : Type) where
  | answer (result : Except AuthError α)
  /-- It never answers. -/
  | silence

/-- One step of an operation. -/
inductive Action where
  | store (call : StoreCall)
  | clock
  /-- Draws a name that was never drawn before. -/
  | drawName
  /-- Makes a token current in the cache. -/
  | setSession (session : String) (kind : TokenKind) (token : String) (expiresAt : Int64)
  /-- Empties a slot of the cache. -/
  | blacklistSession (session : String) (kind : TokenKind)
  /-- Drops a session from the cache. -/
  | clearSession (session : String)
  deriving DecidableEq, Repr

/-- The reply to a step. -/
def Action.Reply : Action → Type
  | store call => StoreReply call.Result
  | clock => Int
  | drawName => String
  | setSession _ _ _ _ => Unit
  | blacklistSession _ _ => Option String
  | clearSession _ => Option String × Option String

/-! ## Operations -/

/-- Why an operation has no result. -/
inductive Failure where
  | refused (error : AuthError)
  /-- It needed a time beyond the range of times, and broke off. -/
  | crashed
  /-- A store that it waits for without bound never answers. -/
  | unanswered
  deriving DecidableEq, Repr

/-- A program of the service that ends with a result or a failure. -/
abbrev Operation (α : Type) : Type := ExceptT Failure (Program Action Action.Reply) α

namespace Operation

def act (action : Action) : Operation action.Reply :=
  ExceptT.lift (Program.perform action)

def refuse {α : Type} (error : AuthError) : Operation α :=
  throw (.refused error)

/-- Goes on with a result, or refuses. -/
def ofExcept {α : Type} (result : Except AuthError α) : Operation α :=
  match result with
  | .ok value => pure value
  | .error error => refuse error

/-- Goes on with a value, or breaks off where there is none. -/
def orCrash {α : Type} (value : Option α) : Operation α :=
  match value with
  | some found => pure found
  | none => throw .crashed

/-- Runs an operation to its end and hands on its result or refusal; other failures go through. -/
def attempt {α : Type} (operation : Operation α) : Operation (Except AuthError α) :=
  ExceptT.mk do
    match ← operation.run with
    | .ok value => return .ok (.ok value)
    | .error (.refused error) => return .ok (.error error)
    | .error failure => return .error failure

def clock : Operation Int := act .clock

def drawName : Operation String := act .drawName

/-- Waits for a store as long as it takes. -/
def await (call : StoreCall) : Operation call.Result := do
  match ← act (.store call) with
  | .answer result => ofExcept result
  | .silence => throw .unanswered

/-- Calls a store and waits for a limited time. -/
def bounded (call : StoreCall) : Operation (Except AuthError call.Result) := do
  match ← act (.store call) with
  | .answer result => return result
  | .silence => return .error .timedOut

/-- Calls a store, and once more if it fails. -/
def callStore (call : StoreCall) : Operation call.Result := do
  match ← bounded call with
  | .error (.storage _) => ofExcept (← bounded call)
  | result => ofExcept result

end Operation

end DualToken
