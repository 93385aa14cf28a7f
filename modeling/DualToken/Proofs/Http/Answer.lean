import Mathlib.Tactic.SplitIfs
import DualToken.Http.Router
import DualToken.Proofs.Service.Operation

/-!
# How a request is answered

A request to a known path is served by its route, behind the gate if the route is guarded; what
comes out is settled and finished, and neither performs any action (`Router.run_respond`). So a
response is a function of the outcome, of the route and of the method, and a refusal is reported in
one way for each (`Router.reported`). The gate lets a request with a token through if the token is
accepted and the policy allows its caller (`Gate.enter_some`).
-/

set_option autoImplicit false

namespace DualToken

open Operation

/-! ## Settling -/

namespace Gate

/-- The outcome in which a refusal has become the response that reports it. -/
def settled : Except Failure Response → Except Failure Response
  | .ok response => .ok response
  | .error (.refused error) => .ok (.ofError error)
  | .error failure => .error failure

/-- Settling an operation performs what the operation performs. -/
theorem run_settle (operation : Operation Response) :
    (settle operation).run = operation.run >>= fun result => .done (settled result) := by
  rw [settle, run_bind, run_attempt]
  refine (Program.bind_assoc _ _ _).trans ?_
  congr 1
  funext result
  rcases result with failure | response
  · cases failure with
    | refused error => rfl
    | crashed => rfl
    | unanswered => rfl
  · rfl

/-- The outcome in which a failure of a token or of storage has become the one that the gate
shows. -/
def accepted : Except Failure Claims → Except Failure Claims
  | .ok claims => .ok claims
  | .error (.refused error) => .error (.refused error.atGate)
  | .error failure => .error failure

/-- Accepting a token performs what validating it performs. -/
theorem run_accept (service : Service) (token : String) :
    (accept service token).run =
      (service.validate token .access).run >>= fun result => .done (accepted result) := by
  rw [accept, run_bind, run_attempt]
  refine (Program.bind_assoc _ _ _).trans ?_
  congr 1
  funext result
  rcases result with failure | claims
  · cases failure with
    | refused error => rfl
    | crashed => rfl
    | unanswered => rfl
  · rfl

end Gate

/-! ## Behind the gate -/

/-- The policy allows a caller of the role. -/
def Policy.allows : Policy → Role → Bool
  | .role demanded, given => given = demanded
  | _, _ => true

namespace Gate

/-- What is done for a caller that is let through. -/
def serve (service : Service) (headers : Headers) (claims : Claims)
    (handler : Option Identity → Operation Response) : Operation Response := do
  match ← renewal service headers claims with
  | none => settle (handler (some (Identity.ofClaims claims)))
  | some renewed =>
    let now ← clock
    let jar ← orCrash (service.cookies.setAccess? renewed now [])
    let response ← settle (handler (some (Identity.ofClaims claims)))
    return withRenewal renewed jar response

/-- A request without a token is let through if anyone is. -/
theorem enter_none (service : Service) (policy : Policy) {headers : Headers}
    (none : Carrier.token? headers .access = none)
    (handler : Option Identity → Operation Response) :
    enter service policy headers handler =
      if policy = .anyone then settle (handler Option.none) else refuse .unauthenticated := by
  unfold enter
  rw [none]
  cases policy with
  | anyone => rw [if_pos rfl]
  | user => rw [if_neg nofun]
  | role role => rw [if_neg nofun]

/-- A request with a token is let through if the token is accepted and its caller allowed. -/
theorem enter_some (service : Service) (policy : Policy) {headers : Headers} {token : String}
    (carried : Carrier.token? headers .access = some token)
    (handler : Option Identity → Operation Response) :
    enter service policy headers handler = accept service token >>= fun claims =>
      if policy.allows claims.role then serve service headers claims handler
      else refuse .forbidden := by
  unfold enter
  rw [carried]
  refine congrArg (accept service token >>= ·) (funext fun claims => ?_)
  cases policy with
  | anyone => rfl
  | user => rfl
  | role demanded =>
    by_cases same : claims.role = demanded
    · have allowed : (Policy.role demanded).allows claims.role = true := decide_eq_true same
      rw [if_pos allowed]
      exact if_pos same
    · have denied : ¬ (Policy.role demanded).allows claims.role = true :=
        fun allowed => same (of_decide_eq_true allowed)
      rw [if_neg denied]
      exact (if_neg same).trans rfl

end Gate

/-! ## Routes -/

/-- What a route does with a request of some caller. -/
def Route.act (service : Service) (request : Request) (route : Route) (identity : Option Identity) :
    Operation Response :=
  if route.allowed.contains request.method then route.handle service request identity
  else pure { status := 405 }

/-- What a route does with a request, behind its gate if it is guarded. -/
def Route.serve (service : Service) (request : Request) (route : Route) : Operation Response :=
  match route.policy? with
  | some policy => Gate.enter service policy request.headers (route.act service request)
  | none => route.act service request none

/-- Answering a request to a route is serving it; what comes out is settled, and says which methods
are allowed if that is due. -/
theorem Route.respond_eq (service : Service) (request : Request) (route : Route) :
    route.respond service request = Gate.settle (route.serve service request) >>=
      fun response => if route.allowed.contains request.method then pure response
        else pure (response.withHeader "allow" (String.intercalate "," route.allowed)) := by
  cases route <;> rfl

namespace Router

/-- The response as it is sent: it says which methods are allowed, if that is due, and carries the
common headers, and no body if only the head was asked for. -/
def finish (method : String) (route : Route) (response : Response) : Response :=
  let named := if route.allowed.contains method then response
    else response.withHeader "allow" (String.intercalate "," route.allowed)
  let shared := { named with headers := commonHeaders ++ named.headers }
  if method = "HEAD" then shared.withoutBody else shared

/-- The response that reports an error to a request of a route. -/
def reported (method : String) (route : Route) (error : AuthError) : Response :=
  finish method route (.ofError error)

@[simp] theorem status_finish (method : String) (route : Route) (response : Response) :
    (finish method route response).status = response.status := by
  rw [finish]
  split_ifs <;> rfl

@[simp] theorem cookies_finish (method : String) (route : Route) (response : Response) :
    (finish method route response).cookies = response.cookies := by
  rw [finish]
  split_ifs <;> rfl

@[simp] theorem status_reported (method : String) (route : Route) (error : AuthError) :
    (reported method route error).status = error.status :=
  status_finish method route (.ofError error)

theorem body_finish {method : String} (whole : method ≠ "HEAD") (route : Route)
    (response : Response) : (finish method route response).body = response.body := by
  rw [finish]
  simp only [if_neg whole]
  split_ifs <;> rfl

/-- **A finished response keeps its headers**, behind the common ones and before the methods that
are allowed, if these are due. -/
theorem headers_finish (method : String) (route : Route) (response : Response) :
    (finish method route response).headers = commonHeaders ++ (response.headers ++
      if route.allowed.contains method then []
      else [("allow", String.intercalate "," route.allowed)]) := by
  have named : (if route.allowed.contains method then response
      else response.withHeader "allow" (String.intercalate "," route.allowed)).headers =
        response.headers ++ if route.allowed.contains method then []
          else [("allow", String.intercalate "," route.allowed)] := by
    split
    · exact (List.append_nil _).symm
    · rfl
  rw [finish, ← named]
  split
  · rfl
  · rfl

/-- A response has a header if it had it before, or if it is one that every response gets. -/
theorem mem_headers_finish {method : String} {route : Route} {response : Response}
    {header : String × String} (member : header ∈ (finish method route response).headers) :
    header ∈ commonHeaders ∨ header ∈ response.headers ∨ header.1 = "allow" := by
  rw [headers_finish, List.mem_append, List.mem_append] at member
  refine member.imp_right (Or.imp_right fun added => ?_)
  split at added
  · exact absurd added List.not_mem_nil
  · rw [List.mem_singleton.1 added]

theorem headers_subset_finish (method : String) (route : Route) (response : Response) :
    response.headers ⊆ (finish method route response).headers := by
  rw [headers_finish]
  exact List.Subset.trans (List.subset_append_left _ _) (List.subset_append_right _ _)

/-- **Answering a request to a known path is serving it**; settling and finishing perform no
action. -/
theorem run_respond (service : Service) {request : Request} {route : Route}
    (found : Route.ofPath? request.path = some route) (noPreflight : request.method ≠ "OPTIONS") :
    (respond service request).run = (route.serve service request).run >>= fun result =>
      .done ((Gate.settled result).map (finish request.method route)) := by
  have routed : (route.respond service request).run =
      (Gate.settle (route.serve service request)).run >>= fun
        | .ok response => if route.allowed.contains request.method then .done (.ok response)
            else .done (.ok (response.withHeader "allow" (String.intercalate "," route.allowed)))
        | .error failure => .done (.error failure) := by
    rw [Route.respond_eq, Operation.run_bind]
    congr 1
    funext result
    cases result with
    | ok response =>
      dsimp only
      split
      · rfl
      · rfl
    | error failure => rfl
  rw [respond]
  simp only [found, if_neg noPreflight]
  rw [Operation.run_bind, routed, Gate.run_settle]
  simp only [Program.bind_assoc]
  congr 1
  funext result
  simp only [Program.done_bind]
  cases Gate.settled result with
  | error failure => rfl
  | ok response =>
    dsimp only [Except.map, finish]
    split
    · rfl
    · rfl

end Router

end DualToken
