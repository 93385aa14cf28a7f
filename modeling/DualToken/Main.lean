import DualToken.Startup

/-!
# The command

The command starts the service of its process and says whether it could. Requests are then answered
by `Router.respond`, wherever they come from.
-/

set_option autoImplicit false

namespace DualToken.Command

/-- The entries of a block of bytes in which every entry ends with a zero byte. -/
def entries (block : List UInt8) : List (List UInt8) :=
  (block.splitOn 0).filter (!·.isEmpty)

/-- The name and value of an entry. -/
def binding? (entry : List UInt8) : Option (String × List UInt8) :=
  (Text.ofUtf8? (entry.takeWhile (· ≠ 0x3D))).map fun name =>
    (name, (entry.dropWhile (· ≠ 0x3D)).drop 1)

/-- The environment of the process. -/
def environment : IO Environment := do
  let block ← IO.FS.readBinFile "/proc/self/environ"
  return ⟨(entries block.data.toList).filterMap binding?⟩

/-- The environment file of the current directory, if there is one. -/
def environmentFile : IO (Option String) := do
  let content ← (IO.FS.readFile ".env").toBaseIO
  return content.toOption

/-- The machine, as far as a database asks for it. -/
def machine (location : Database.Location) : IO Machine := do
  let here ← IO.currentDir
  let directories ← [Database.Location.directoryOf location.file, location.file].filterM
    fun (name : String) => (here / name).isDir
  let files ← [location.file].filterM fun (name : String) => (here / name).pathExists
  return { network := .reachable, directories, files, owns := fun _ => true }

def start : IO (Except StartupFault Service) := do
  match Startup.configuration (← environment) (← environmentFile) with
  | .error fault => return .error fault
  | .ok configuration =>
    let location := (Database.Location.read configuration.databaseUrl).toOption
    let machine ← machine (location.getD { file := "" })
    return Startup.start machine configuration

end DualToken.Command

/-- Starts the service and reports why it does not start. -/
def main : IO UInt32 := do
  match ← DualToken.Command.start with
  | .ok _ =>
    IO.println "ready"
    return 0
  | .error fault =>
    IO.eprintln fault.message
    return 1
