/-!
# Roles

A user is an administrator or a customer. A role is written by its name, and reading a name gives
back the role (`ofName?_name`).
-/

set_option autoImplicit false

namespace DualToken

/-- What a user may do. -/
inductive Role where
  /-- Administrators may see the record of revoked tokens. -/
  | admin
  /-- Everyone else. -/
  | customer
  deriving DecidableEq, Repr

namespace Role

/-- The name of a role. -/
def name : Role → String
  | admin => "admin"
  | customer => "customer"

/-- The role of a name. -/
def ofName? (text : String) : Option Role :=
  if text = "admin" then some admin else if text = "customer" then some customer else none

/-- The message for a name that is no role's. -/
def unknownMessage (text : String) : String :=
  s!"unknown role: {text}"

@[simp] theorem ofName?_name (role : Role) : ofName? role.name = some role := by
  cases role <;> decide

end Role

end DualToken
