import DualToken.Redis.Record
import DualToken.Revocation.Table

/-!
# The revocation store

Recorded tokens are kept in a table of the database or on a Redis server, as the service is set up.
Both backends answer the same three questions. The store only ever grows.
-/

set_option autoImplicit false

namespace DualToken

/-- Where recorded tokens are kept. -/
inductive RevocationBackend where
  /-- In a table of the database. -/
  | table
  | redis
  deriving DecidableEq, Repr

namespace RevocationBackend

/-- The name of a backend. -/
def name : RevocationBackend → String
  | table => "sqlite"
  | redis => "redis"

/-- The backend of a name. -/
def ofName? (text : String) : Option RevocationBackend :=
  if text = "sqlite" then some table else if text = "redis" then some redis else none

end RevocationBackend

/-- The state of both places. -/
structure RevocationStore where
  /-- The table, unless it has been dropped. -/
  table : Option RevocationTable := some {}
  server : Redis.Server := {}
  deriving DecidableEq, Repr

namespace RevocationStore

/-- Runs a session with the server. -/
def withServer {α : Type} (store : RevocationStore) (session : Redis.Session α) :
    Except AuthError α × RevocationStore :=
  let (result, server) := session.run Redis.Server.receive store.server
  (result, { store with server })

def record (backend : RevocationBackend) (store : RevocationStore) (token : String) (now : Int) :
    Except AuthError RecordedToken × RevocationStore :=
  match backend with
  | .redis => store.withServer (Redis.record token now)
  | .table =>
    match store.table with
    | none => (.error RevocationTable.missing.toAuthError, store)
    | some table =>
      let (record, table) := table.record token now
      (.ok record, { store with table := some table })

/-- Whether a token is recorded. -/
def lookup (backend : RevocationBackend) (store : RevocationStore) (token : String) :
    Except AuthError Bool × RevocationStore :=
  match backend with
  | .redis => store.withServer (Redis.lookup token)
  | .table =>
    match store.table with
    | none => (.error RevocationTable.missing.toAuthError, store)
    | some table => (.ok (table.contains token), store)

/-- All records, the oldest first. -/
def list (backend : RevocationBackend) (store : RevocationStore) :
    Except AuthError (List RecordedToken) × RevocationStore :=
  match backend with
  | .redis => store.withServer Redis.list
  | .table =>
    match store.table with
    | none => (.error RevocationTable.missing.toAuthError, store)
    | some table => (.ok table.records, store)

end RevocationStore

end DualToken
