import DualToken.Environment.File
import DualToken.Net.SocketAddress
import DualToken.Revocation.Store
import DualToken.Settings

/-!
# Configuration

The configuration is read from the environment. Each setting has a variable and a default, which
counts when the variable is missing; the first setting that cannot be read is refused with the value
that it had. Keys and addresses of stores are taken as they are; numbers, the address to listen at
and the choice whether cookies are secure may stand between blanks.
-/

set_option autoImplicit false

namespace DualToken

/-- The configuration of the service. -/
structure Configuration where
  databaseUrl : String := "sqlite:storefront.db"
  /-- Where the Redis server is. -/
  redisUrl : Option String := none
  /-- Where recorded tokens are kept. -/
  backend : RevocationBackend := .table
  /-- Where the service listens. -/
  bindAddress : SocketAddress := .loopback 8080
  /-- Whether token cookies are for encrypted connections only. -/
  secureCookies : Bool := true
  /-- The keys, lifetimes and limits. -/
  auth : AuthSettings := {}
  deriving DecidableEq, Repr

/-- A setting that cannot be read. -/
structure InvalidSetting where
  /-- The variable. -/
  key : String
  value : String
  deriving DecidableEq, Repr

/-- The message about a setting. -/
def InvalidSetting.message (setting : InvalidSetting) : String :=
  s!"{setting.key} has an invalid value: {setting.value}"

namespace Configuration

/-! ## Settings -/

/-- Reads a setting between blanks, or takes the default. -/
def setting {α : Type} (environment : Environment) (key : String) (default : α)
    (read? : String → Option α) : Except InvalidSetting α :=
  match environment.text? key with
  | none => .ok default
  | some value =>
    match read? (Text.trim value) with
    | some result => .ok result
    | none => .error ⟨key, value⟩

/-- Reads a number of sixty-four bits without a sign. -/
def readWord? (text : String) : Option UInt64 :=
  (Text.readUnsigned? (UInt64.size - 1) text.toList).map UInt64.ofNat

def readBool? (text : String) : Option Bool :=
  if text = "true" then some true else if text = "false" then some false else none

/-- Reads where recorded tokens are kept; the case of ASCII letters does not matter. -/
def readBackend (environment : Environment) : Except InvalidSetting RevocationBackend :=
  match environment.text? "REVOCATION_BACKEND" with
  | none => .ok .table
  | some value =>
    let name := String.ofList (value.toList.map Char.toLower)
    match RevocationBackend.ofName? name with
    | some backend => .ok backend
    | none => .error ⟨"REVOCATION_BACKEND", name⟩

/-- Reads the keys, lifetimes and limits. -/
def readAuth (environment : Environment) : Except InvalidSetting AuthSettings := do
  let defaults : AuthSettings := {}
  let number (key : String) (default : UInt64) := setting environment key default readWord?
  let accessLifetime ← number "JWT_ACCESS_TTL_SECS" defaults.accessLifetime
  let secretLifetime ← number "JWT_EXP" defaults.secretLifetime
  let renewalWindow ← number "RENEW_WINDOW_SECS" defaults.renewalWindow
  let storageTimeout ← number "STORAGE_TIMEOUT_MS" defaults.storageTimeout
  return { accessKey := (environment.text? "JWT_ACCESS_KEY").getD defaults.accessKey,
           secretKey := (environment.text? "JWT_SECRET_KEY").getD defaults.secretKey,
           accessLifetime, secretLifetime, renewalWindow, storageTimeout }

def read (environment : Environment) : Except InvalidSetting Configuration := do
  let defaults : Configuration := {}
  let backend ← readBackend environment
  let auth ← readAuth environment
  let bindAddress ← setting environment "BIND_ADDR" defaults.bindAddress SocketAddress.read?
  let secureCookies ← setting environment "COOKIE_SECURE" defaults.secureCookies readBool?
  return { databaseUrl := (environment.text? "DATABASE_URL").getD defaults.databaseUrl,
           redisUrl := (environment.text? "REDIS_URL").filter (!·.isEmpty),
           backend, bindAddress, secureCookies, auth }

end Configuration

end DualToken
