import DualToken.Program
import DualToken.Redis.Server
import DualToken.Revocation.Record
import DualToken.Text.Decimal

/-!
# The record of tokens on a Redis server

Every instance of the service can share one record. A field of the hash is a token, and its value
holds the number of the record and the time of recording with a colon between them.

Recording looks whether the token is there, draws a number, and writes the field if it is still
missing. If another writer came first, that writer's record is the answer. So a field that is there
is never written again, and an unused number does no harm.
-/

set_option autoImplicit false

namespace DualToken.Redis

/-- The value of a record's field. -/
def writeValue (id createdAt : Int) : String :=
  Text.ofInteger id ++ ":" ++ Text.ofInteger createdAt

/-- The record in a field. -/
def readValue (token value : String) : Except AuthError RecordedToken :=
  let characters := value.toList
  let parts := do
    let id ← Text.readInt64? (characters.takeWhile (· ≠ ':'))
    match characters.dropWhile (· ≠ ':') with
    | [] => none
    | _ :: time => return RecordedToken.mk id.toInt token (← Text.readInt64? time).toInt
  match parts with
  | some record => .ok record
  | none => .error (.storage s!"malformed revocation record: {value}")

/-- A program that sends commands, and its outcome. -/
abbrev Session (α : Type) := Program Command Command.Reply (Except AuthError α)

/-- Sends a command and goes on with its result, or ends with its error. -/
def send {α : Type} (command : Command) (next : command.Result → Session α) : Session α :=
  .act command fun reply =>
    match reply with
    | .ok result => next result
    | .error error => .done (.error error.toAuthError)

def record (token : String) (now : Int) : Session RecordedToken :=
  send (.get token) fun (existing : Option String) =>
    match existing with
    | some value => .done (readValue token value)
    | none =>
      send .increment fun (id : Int) =>
        let value := writeValue id now
        send (.putNew token value) fun (isNew : Bool) =>
          if isNew then .done (readValue token value)
          else send (.get token) fun (existing : Option String) =>
            match existing with
            | some value => .done (readValue token value)
            | none => .done (.error Error.missingText.toAuthError)

/-- Whether a token is recorded. -/
def lookup (token : String) : Session Bool :=
  send (.contains token) fun found => .done (.ok found)

/-- All records, by their numbers. -/
def list : Session (List RecordedToken) :=
  send .all fun (entries : List (String × String)) =>
    .done ((entries.mapM fun entry => readValue entry.1 entry.2).map fun records =>
      records.mergeSort fun first second => first.id ≤ second.id)

end DualToken.Redis
