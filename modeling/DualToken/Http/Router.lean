import DualToken.Http.Gate
import DualToken.Http.JsonBody

/-!
# Routes and handlers

The service answers under seven paths. Accounts are registered; a login hands out a pair of tokens,
a refresh a new access token, and a logout takes both away; the user behind a token and the record
of revoked tokens can be asked for.

A path that is not known is not found, and a known path refuses other methods than its own, after
its gate if it is guarded. Every response may be read by pages of any origin, and a request that
asks what is allowed is answered without looking at the route.
-/

set_option autoImplicit false

namespace DualToken

/-- The tokens that a body may carry in the place of headers and cookies. -/
structure TokenBody where
  secretToken : Option String := none
  accessToken : Option String := none
  deriving DecidableEq, Repr

namespace TokenBody

/-- How the body is read. -/
def layout : Json.Layout :=
  [("secret_token", .optional Json.readText), ("access_token", .optional Json.readText)]

def read : Json.Reader TokenBody := fun bytes =>
  (layout.read bytes).map fun (secretToken, accessToken, ()) => { secretToken, accessToken }

/-- The tokens in the body of a request; a body that cannot be read carries none. -/
def ofRequest (request : Request) : TokenBody :=
  match JsonBody.read read request with
  | .ok body => body
  | .error _ => {}

end TokenBody

/-! ## Handlers -/

namespace Handler

open Operation

/-- Reads the body of a request for a handler; a fault is answered at once. -/
def withBody {α : Type} (reader : Json.Reader α) (request : Request)
    (handler : α → Operation Response) : Operation Response :=
  match JsonBody.read reader request with
  | .ok body => handler body
  | .error fault => return fault.response

/-- Creates a user. -/
def register (request : Request) : Operation Response :=
  withBody NewUser.read request fun form => do
    ofExcept form.validate
    let user : User ← await (.createUser form)
    return .ofJson 201 user.json

/-- Begins a session. -/
def login (service : Service) (request : Request) : Operation Response :=
  withBody Credentials.read request fun credentials => do
    let pair ← service.login credentials
    let now ← clock
    let jar ← orCrash (service.cookies.setPair? pair now [])
    return { Response.ofJson 200 pair.json with cookies := jar }

/-- The secret token of a request. -/
def secretToken (request : Request) : Operation String :=
  let body := TokenBody.ofRequest request
  match (Carrier.token? request.headers .secret).or body.secretToken with
  | some token => return token
  | none => refuse .unauthenticated

/-- Hands out a new access token. -/
def refresh (service : Service) (request : Request) : Operation Response := do
  let secret ← secretToken request
  let access ← service.refresh secret
  let now ← clock
  let jar ← orCrash (service.cookies.setAccess? access now [])
  return { Response.ofJson 200 (TokenPair.json ⟨access, secret⟩) with cookies := jar }

/-- Ends a session. -/
def logout (service : Service) (request : Request) : Operation Response := do
  let secret ← secretToken request
  let body := TokenBody.ofRequest request
  service.logout secret ((Carrier.token? request.headers .access).or body.accessToken)
  let now ← clock
  let jar ← orCrash (service.cookies.clear? now [])
  return { status := 204, cookies := jar }

/-- Shows the user behind the token. -/
def me (identity : Option Identity) : Operation Response :=
  match identity with
  | some identity => return .ofJson 200 identity.json
  | none => refuse .unauthenticated

/-- Shows whether there is a user behind the request, and which. -/
def whoami (identity : Option Identity) : Operation Response :=
  match identity with
  | some identity =>
    return .ofJson 200 (.object [("authenticated", .boolean true), ("user", identity.json)])
  | none => return .ofJson 200 (.object [("authenticated", .boolean false)])

/-- Shows the record of revoked tokens. -/
def blacklistedTokens : Operation Response := do
  let records : List RecordedToken ← Service.listRevoked
  return .ofJson 200 (.list (records.map RecordedToken.json))

end Handler

/-! ## Routes -/

/-- A known path. -/
inductive Route where
  | register
  | login
  /-- A new access token. -/
  | refresh
  | logout
  /-- The user behind the token. -/
  | me
  /-- The record of revoked tokens. -/
  | blacklistedTokens
  /-- The user behind the request, if any. -/
  | whoami
  deriving DecidableEq, Repr

namespace Route

/-- The routes with their paths. -/
def paths : List (String × Route) :=
  [("/api/v1/register", register), ("/api/v1/login", login), ("/api/v1/refresh", refresh),
    ("/api/v1/logout", logout), ("/api/v1/me", me),
    ("/api/v1/blacklisted_tokens", blacklistedTokens), ("/api/v1/whoami", whoami)]

/-- The route of a path. -/
def ofPath? (path : String) : Option Route :=
  paths.lookup path

/-- The methods that a route answers, as it says when it refuses another. -/
def allowed : Route → List String
  | register | login | refresh | logout => ["POST"]
  | me | blacklistedTokens | whoami => ["GET", "HEAD"]

/-- What a guarded route demands. -/
def policy? : Route → Option Policy
  | register | login | refresh | logout => none
  | me => some .user
  | blacklistedTokens => some (.role .admin)
  | whoami => some .anyone

/-- What a route does with a request of one of its methods. -/
def handle (service : Service) (request : Request) (route : Route) (identity : Option Identity) :
    Operation Response :=
  match route with
  | register => Handler.register request
  | login => Handler.login service request
  | refresh => Handler.refresh service request
  | logout => Handler.logout service request
  | me => Handler.me identity
  | blacklistedTokens => Handler.blacklistedTokens
  | whoami => Handler.whoami identity

/-- Answers a request to the route. -/
def respond (service : Service) (request : Request) (route : Route) : Operation Response := do
  let isAllowed := route.allowed.contains request.method
  let handler (identity : Option Identity) : Operation Response :=
    if isAllowed then route.handle service request identity else pure { status := 405 }
  let response ← Gate.settle <|
    match route.policy? with
    | some policy => Gate.enter service policy request.headers handler
    | none => handler none
  if isAllowed then return response
  else return response.withHeader "allow" (String.intercalate "," route.allowed)

end Route

/-! ## The router -/

namespace Router

/-- The headers of every response. -/
def commonHeaders : List (String × String) :=
  [("access-control-allow-origin", "*"),
    ("vary", "origin, access-control-request-method, access-control-request-headers")]

/-- The answer to a request that asks what is allowed. -/
def preflight (route : Option Route) : Response :=
  let response : Response :=
    { status := 200, headers := commonHeaders ++
        [("access-control-allow-methods", "*"), ("access-control-allow-headers", "*")] }
  match route with
  | some route => response.withHeader "allow" (String.intercalate "," route.allowed)
  | none => response

def respond (service : Service) (request : Request) : Operation Response := do
  let route := Route.ofPath? request.path
  if request.method = "OPTIONS" then return preflight route
  else
    let response ← match route with
      | some route => route.respond service request
      | none => pure { status := 404 }
    let shared := { response with headers := commonHeaders ++ response.headers }
    return if request.method = "HEAD" then shared.withoutBody else shared

end Router

end DualToken
