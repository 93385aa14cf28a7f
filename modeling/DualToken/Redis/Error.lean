import DualToken.AuthError

/-!
# Errors of a Redis server

A server refuses a command with a line that begins with a code, which the text behind it explains.
The codes that the protocol knows have a name and a common description; any other code stands for
itself. A connection can fail before any command is sent.
-/

set_option autoImplicit false

namespace DualToken.Redis

/-- Why a command was not carried out. -/
inductive Error where
  /-- The server refused with a code and possibly a text behind it. -/
  | refused (code : String) (detail : Option String)
  /-- The server answered with nothing where text was due. -/
  | missingText
  /-- The address of the server cannot be used. -/
  | badAddress (reason : String)
  /-- No network leads to the server. -/
  | unreachable
  /-- The socket of the server is not there. -/
  | noSocket
  deriving DecidableEq, Repr

namespace Error

/-- The names of the codes that the protocol knows. -/
def codeNames : List (String × String) :=
  [("ERR", "ResponseError"), ("EXECABORT", "ExecAbortError"), ("LOADING", "BusyLoadingError"),
    ("NOSCRIPT", "NoScriptError"), ("MOVED", "Moved"), ("ASK", "Ask"), ("TRYAGAIN", "TryAgain"),
    ("CLUSTERDOWN", "ClusterDown"), ("CROSSSLOT", "CrossSlot"), ("MASTERDOWN", "MasterDown"),
    ("READONLY", "ReadOnly"), ("NOTBUSY", "NotBusy")]

/-- A description, the name of the error, and possibly a detail. -/
def describe (description name : String) (detail : Option String) : String :=
  match detail with
  | some text => s!"{description} - {name}: {text}"
  | none => s!"{description}- {name}"

/-- The message of an error. -/
def message : Error → String
  | refused code detail =>
    match codeNames.lookup code with
    | some name => describe "An error was signalled by the server" name detail
    | none => code ++ ": " ++ detail.getD "Unknown extension error encountered"
  | missingText =>
    describe "Response was of incompatible type" "TypeError"
      (some "\"Response type not string compatible.\" (response was nil)")
  | badAddress reason => describe reason "InvalidClientConfig" none
  | unreachable => "Network is unreachable (os error 101)"
  | noSocket => "No such file or directory (os error 2)"

/-- The error that an error line reports. -/
def ofLine (line : String) : Error :=
  let code := line.toList.takeWhile (· ≠ ' ')
  match line.toList.dropWhile (· ≠ ' ') with
  | [] => refused (String.ofList code) none
  | _ :: detail => refused (String.ofList code) (some (String.ofList detail))

/-- The error as the rest of the library sees it. -/
def toAuthError (error : Error) : AuthError :=
  .storage error.message

end Error

end DualToken.Redis
