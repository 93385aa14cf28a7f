/-!
# Settings of the service

The keys, lifetimes and limits that the service runs with. Lifetimes and the renewal window are
given as unsigned words of sixty-four bits and are used as signed ones, so a word with its top bit
set counts as negative.
-/

set_option autoImplicit false

namespace DualToken

/-- The keys, lifetimes and limits. -/
structure AuthSettings where
  accessKey : String := ""
  secretKey : String := ""
  /-- The lifetime of access tokens, in seconds. -/
  accessLifetime : UInt64 := 60
  /-- The lifetime of secret tokens, in seconds. -/
  secretLifetime : UInt64 := 300
  /-- How long before its expiry an access token is renewed, in seconds. -/
  renewalWindow : UInt64 := 15
  /-- How long a store may take to answer, in milliseconds. -/
  storageTimeout : UInt64 := 2000
  deriving DecidableEq, Repr

/-- A word of sixty-four bits as a signed number. -/
def signedSeconds (word : UInt64) : Int :=
  word.toInt64.toInt

end DualToken
