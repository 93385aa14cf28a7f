import DualToken.Redis.Address
import DualToken.Revocation.Store

/-!
# Reaching the revocation store

The table is always at hand. A Redis server is reached at the address that the configuration gives.
-/

set_option autoImplicit false

namespace DualToken.RevocationStore

/-- Makes sure that the store of a backend can be used. -/
def connect (network : Redis.Network) (backend : RevocationBackend) (redisUrl : Option String) :
    Except AuthError Unit :=
  match backend, redisUrl with
  | .table, _ => .ok ()
  | .redis, none => .error (.storage "REVOCATION_BACKEND=redis requires REDIS_URL")
  | .redis, some address => (Redis.connect network address).mapError Redis.Error.toAuthError

end DualToken.RevocationStore
