import DualToken.Proofs.Service.Revocation

/-!
# Requests that arrive

An arrival is a request with the service and the state that it meets. Comparing two arrivals says
what a caller can learn from the answers; and what an answer tells about one arrival is a statement
about the state in which the request came in.
-/

set_option autoImplicit false

namespace DualToken

/-- A request that arrives at a service in some state. -/
structure Arrival where
  service : Service
  state : State
  request : Request

namespace Arrival

/-- How the request is answered. -/
def outcome (arrival : Arrival) : Except Failure Response :=
  (arrival.state.run arrival.service (Router.respond arrival.service arrival.request)).1

/-- How an operation of the service ends, if it is run when the request arrives. -/
def result {α : Type} (arrival : Arrival) (operation : Operation α) : Except Failure α :=
  (arrival.state.run arrival.service operation).1

variable {arrival : Arrival}

/-- A request that its route refuses is answered with a report. -/
theorem outcome_of_refused {route : Route} {error : AuthError}
    (found : Route.ofPath? arrival.request.path = some route)
    (noPreflight : arrival.request.method ≠ "OPTIONS")
    (refused : arrival.result (route.serve arrival.service arrival.request) =
      .error (.refused error)) :
    arrival.outcome = .ok (Router.reported arrival.request.method route error) :=
  Router.respond_refused found noPreflight refused

/-- Behind an operation that fails nothing changes the result. -/
theorem result_bind {α β : Type} {operation : Operation α} {failure : Failure}
    (failed : arrival.result operation = .error failure) (next : α → Operation β) :
    arrival.result (operation >>= next) = .error failure :=
  congrArg Prod.fst (State.run_bind_error failed next).1

end Arrival

end DualToken
