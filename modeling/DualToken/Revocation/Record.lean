import DualToken.Json.Value

/-!
# Recorded tokens

A token that is recorded must never be accepted again. A record numbers the token and tells when it
was recorded; it is made once for each token and never changed.
-/

set_option autoImplicit false

namespace DualToken

/-- The record of a revoked token. -/
structure RecordedToken where
  /-- The number of the record. -/
  id : Int
  token : String
  /-- When the token was recorded, in seconds. -/
  createdAt : Int
  deriving DecidableEq, Repr

/-- The record as it is shown. -/
def RecordedToken.json (record : RecordedToken) : Json.Value :=
  .object [("id", .integer record.id), ("token", .text record.token),
    ("created_at", .integer record.createdAt)]

end DualToken
