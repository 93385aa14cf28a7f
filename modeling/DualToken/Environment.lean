import DualToken.Text.Utf8

/-!
# Environments

The environment of a process gives values to names. A value is a list of bytes; one that is not
well-formed text counts as missing, so a default may take its place.
-/

set_option autoImplicit false

namespace DualToken

/-- The variables of a process with their values; of two entries for a name the first counts. -/
structure Environment where
  entries : List (String × List UInt8) := []
  deriving DecidableEq, Repr

namespace Environment

/-- The text that a variable holds. -/
def text? (environment : Environment) (name : String) : Option String :=
  (environment.entries.lookup name).bind Text.ofUtf8?

/-- The environment with a text as the value of a variable. -/
def set (environment : Environment) (name text : String) : Environment :=
  ⟨(name, Text.utf8 text) :: environment.entries⟩

end Environment

end DualToken
