import DualToken.Configuration
import DualToken.Database.Fault
import DualToken.Database.Location
import DualToken.Revocation.Connection
import DualToken.Service.Operations

/-!
# Starting

The service starts when its configuration can be read, its keys can be used, its stores can be
reached and its address can be listened at, and these are tried in this order. What depends on the
machine is given as a value, so that starting is a function.
-/

set_option autoImplicit false

namespace DualToken

/-- What the service finds on its machine. -/
structure Machine where
  /-- Whether servers can be reached. -/
  network : Redis.Network
  directories : List String
  files : List String
  /-- Whether an address is one of the machine. -/
  owns : SocketAddress → Bool

/-- Why the service does not start. -/
inductive StartupFault where
  /-- The environment cannot hold a value of the environment file. -/
  | unfitValue
  /-- A setting cannot be read. -/
  | invalid (setting : InvalidSetting)
  /-- The keys cannot be used, or the revocation store cannot be reached. -/
  | refused (error : AuthError)
  /-- The URL of the database cannot be read. -/
  | badLocation (fault : Database.Location.Fault)
  /-- The database cannot be opened. -/
  | database (fault : Database.Fault)
  /-- The address is none of the machine. -/
  | foreignAddress
  deriving DecidableEq, Repr

/-- The message of a fault; a value that the environment cannot hold has none. -/
def StartupFault.message : StartupFault → String
  | unfitValue => ""
  | invalid setting => setting.message
  | refused error => error.message
  | badLocation fault => fault.message
  | database fault => fault.message
  | foreignAddress => "Cannot assign requested address (os error 99)"

namespace Startup

/-- The environment after an environment file, if there is one. -/
def environment (given : Environment) (file : Option String) :
    Except StartupFault Environment :=
  match file with
  | none => .ok given
  | some text =>
    match EnvironmentFile.load? text given with
    | some loaded => .ok loaded
    | none => .error .unfitValue

/-- The configuration of a process. -/
def configuration (given : Environment) (file : Option String) :
    Except StartupFault Configuration := do
  let loaded ← environment given file
  (Configuration.read loaded).mapError .invalid

/-- The cost of the password hashes of a service that has started. -/
def hashCost : Nat := 12

/-- Opens the database at a URL. -/
def openDatabase (machine : Machine) (url : String) : Except StartupFault Unit := do
  let location ← (Database.Location.read url).mapError .badLocation
  if location.canOpen machine.directories machine.files then return ()
  else throw (.database .cannotOpen)

/-- Starts the service of a configuration. -/
def start (machine : Machine) (configuration : Configuration) : Except StartupFault Service := do
  let service ← (Service.ofSettings configuration.auth configuration.secureCookies
    configuration.backend hashCost).mapError .refused
  openDatabase machine configuration.databaseUrl
  (RevocationStore.connect machine.network configuration.backend
    configuration.redisUrl).mapError .refused
  if machine.owns configuration.bindAddress then return service
  else throw .foreignAddress

/-- Starts the service of a process. -/
def run (machine : Machine) (given : Environment) (file : Option String) :
    Except StartupFault Service := do
  start machine (← configuration given file)

end Startup

end DualToken
