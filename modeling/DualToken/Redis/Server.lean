import DualToken.Redis.Error

/-!
# A Redis server

A server as far as the record of tokens needs it: one hash from text to text, and one counter. It
carries out one command at a time. To try what a record survives, failures can be queued, each for
the next command of a name, and entries of other writers can be queued, which are put into the hash
just before a conditional write looks at it.
-/

set_option autoImplicit false

namespace DualToken.Redis

/-- A command to the server. -/
inductive Command where
  | get (field : String)
  /-- The counter, after adding one to it. -/
  | increment
  /-- Writes a field that is not there, and tells whether it was written. -/
  | putNew (field value : String)
  /-- Whether a field is there. -/
  | contains (field : String)
  /-- All fields with their values. -/
  | all
  deriving DecidableEq, Repr

namespace Command

/-- The name of a command. -/
def name : Command → String
  | get _ => "HGET"
  | increment => "INCRBY"
  | putNew _ _ => "HSETNX"
  | contains _ => "HEXISTS"
  | all => "HGETALL"

/-- What a command answers when it is carried out. -/
def Result : Command → Type
  | get _ => Option String
  | increment => Int
  | putNew _ _ => Bool
  | contains _ => Bool
  | all => List (String × String)

/-- What a command answers. -/
abbrev Reply (command : Command) : Type := Except Error command.Result

end Command

/-- The state of a server. -/
structure Server where
  /-- The hash, its fields in the order in which they were first written. -/
  hash : List (String × String) := []
  counter : Int := 0
  /-- The names of the commands received since the last look at them, the latest first. -/
  received : List String := []
  /-- Failures in waiting: the name of the command that fails, and the error line. -/
  failures : List (String × String) := []
  /-- Entries of other writers in waiting. -/
  rivals : List (String × String) := []
  deriving DecidableEq, Repr

namespace Server

/-- The hash with a field written, whether it is there or not. -/
def put (hash : List (String × String)) (entry : String × String) : List (String × String) :=
  if (hash.lookup entry.1).isSome then
    hash.map fun old => if old.1 = entry.1 then entry else old
  else hash ++ [entry]

/-- The server with the entries of other writers in its hash. -/
def admitRivals (server : Server) : Server :=
  { server with hash := server.rivals.foldl put server.hash, rivals := [] }

def carryOut : (command : Command) → Server → command.Reply × Server
  | .get field, server => (.ok (server.hash.lookup field), server)
  | .increment, server =>
    if server.counter < Int64.maxValue.toInt then
      (.ok (server.counter + 1), { server with counter := server.counter + 1 })
    else (.error (.refused "ERR" (some "increment or decrement would overflow")), server)
  | .putNew field value, server =>
    let server := server.admitRivals
    if (server.hash.lookup field).isSome then (.ok false, server)
    else (.ok true, { server with hash := put server.hash (field, value) })
  | .contains field, server => (.ok (server.hash.lookup field).isSome, server)
  | .all, server => (.ok server.hash, server)

/-- Receives a command: it fails if the next failure in waiting names it, and is carried out
otherwise. -/
def receive (command : Command) (server : Server) : command.Reply × Server :=
  let server := { server with received := command.name :: server.received }
  match server.failures with
  | (name, line) :: later =>
    if name = command.name then (.error (.ofLine line), { server with failures := later })
    else carryOut command server
  | [] => carryOut command server

/-- The names of the commands received since the last look, the earliest first, and the server
without them. -/
def takeReceived (server : Server) : List String × Server :=
  (server.received.reverse, { server with received := [] })

end Server

end DualToken.Redis
