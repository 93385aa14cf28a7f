import DualToken.Proofs.Http.Answer

/-!
# What holds of requests

Answering a request is composed of operations of the service, of reading the clock, and of refusals
that are settled. So a property that holds of these parts, and of operations that are composed of
operations that have it, holds of answering every request (`Compositional.respond`). If it holds
only of some operations, it still holds of the requests whose routes come down to those
(`Composes.respond`): a route refreshes, renews and logs out with one secret token only, the one
that it takes from the request. This is the only place that follows the gate and the handlers.
-/

set_option autoImplicit false

namespace DualToken

open Operation

/-! ## Secret tokens of a request -/

/-- The secret token of a request to refresh or to log out. -/
def Request.secretToken? (request : Request) : Option String :=
  (Carrier.token? request.headers .secret).or (TokenBody.ofRequest request).secretToken

/-- The secret token that a route takes from a request. -/
def Route.secretToken? (request : Request) : Route → Option String
  | refresh | logout => request.secretToken?
  | me | blacklistedTokens | whoami => Carrier.token? request.headers .secret
  | register | login => none

/-! ## Properties of operations -/

/-- The property holds of what is composed of operations that have it. -/
structure Composes (holds : (α : Type) → Operation α → Prop) : Prop where
  /-- A value has the property. -/
  pure {α : Type} (value : α) : holds α (pure value)
  /-- A failure has the property. -/
  throw {α : Type} (failure : Failure) : holds α (throw failure)
  /-- One operation after another has the property. -/
  bind {α β : Type} {operation : Operation α} {next : α → Operation β} :
    holds α operation → (∀ value, holds β (next value)) → holds β (operation >>= next)
  /-- An operation whose refusal is handed on has the property. -/
  attempt {α : Type} {operation : Operation α} :
    holds α operation → holds (Except AuthError α) (attempt operation)
  clock : holds Int clock

/-- The property holds besides of the operations of the service that a route may use for a
request. -/
structure Serves (service : Service) (request : Request) (route : Route)
    (holds : (α : Type) → Operation α → Prop) : Prop extends Composes holds where
  createUser (form : NewUser) : route = .register → holds User (await (.createUser form))
  listRevoked : holds (List RecordedToken) Service.listRevoked
  /-- Logging in. -/
  login (credentials : Credentials) : route = .login → holds TokenPair (service.login credentials)
  validate (token : String) (kind : TokenKind) : holds Claims (service.validate token kind)
  refresh (secretToken : String) : route.secretToken? request = some secretToken →
    holds String (service.refresh secretToken)
  renew (access : Claims) (secretToken : String) :
    route.secretToken? request = some secretToken → holds String (service.renew access secretToken)
  /-- Logging out. -/
  logout (secretToken : String) (presented : Option String) :
    route.secretToken? request = some secretToken →
      holds Unit (service.logout secretToken presented)

/-- The property holds of the operations of the service, and of what is composed of operations that
have it. -/
structure Compositional (service : Service) (holds : (α : Type) → Operation α → Prop) : Prop
    extends Composes holds where
  createUser (form : NewUser) : holds User (await (.createUser form))
  listRevoked : holds (List RecordedToken) Service.listRevoked
  /-- Logging in. -/
  login (credentials : Credentials) : holds TokenPair (service.login credentials)
  validate (token : String) (kind : TokenKind) : holds Claims (service.validate token kind)
  refresh (secretToken : String) : holds String (service.refresh secretToken)
  renew (access : Claims) (secretToken : String) : holds String (service.renew access secretToken)
  /-- Logging out. -/
  logout (secretToken : String) (presented : Option String) :
    holds Unit (service.logout secretToken presented)

variable {service : Service} {request : Request} {route : Route}
  {holds : (α : Type) → Operation α → Prop}

namespace Composes

theorem orCrash (composes : Composes holds) {α : Type} (value : Option α) :
    holds α (orCrash value) := by
  cases value with
  | some found => exact composes.pure found
  | none => exact composes.throw .crashed

theorem settle (composes : Composes holds) {operation : Operation Response}
    (parts : holds Response operation) : holds Response (Gate.settle operation) := by
  refine composes.bind (composes.attempt parts) fun result => ?_
  rcases result with error | response
  · exact composes.pure _
  · exact composes.pure _

theorem withBody (composes : Composes holds) {α : Type} (reader : Json.Reader α)
    (request : Request) {handler : α → Operation Response}
    (handles : ∀ value, holds Response (handler value)) :
    holds Response (Handler.withBody reader request handler) := by
  rw [Handler.withBody]
  split
  · exact handles _
  · exact composes.pure _

/-- What is done with the secret token of a request is done with no other token. -/
theorem secretToken (composes : Composes holds) {next : String → Operation Response}
    (uses : ∀ token, request.secretToken? = some token → holds Response (next token)) :
    holds Response (Handler.secretToken request >>= next) := by
  unfold Handler.secretToken
  rw [Request.secretToken?] at uses
  dsimp only
  cases carried : (Carrier.token? request.headers .secret).or
      (TokenBody.ofRequest request).secretToken with
  | some token =>
    dsimp only
    rw [pure_bind]
    exact uses token carried
  | none => exact composes.throw _

end Composes

namespace Serves

/-! ## The gate -/

theorem accept (serves : Serves service request route holds) (token : String) :
    holds Claims (Gate.accept service token) := by
  refine serves.bind (serves.attempt (serves.validate token .access)) fun result => ?_
  rcases result with error | claims
  · exact serves.throw _
  · exact serves.pure _

theorem renewal (serves : Serves service request route holds) {policy : Policy}
    (guarded : route.policy? = some policy) (claims : Claims) :
    holds (Option String) (Gate.renewal service request.headers claims) := by
  have taken : route.secretToken? request = Carrier.token? request.headers .secret := by
    cases route with
    | me => rfl
    | blacklistedTokens => rfl
    | whoami => rfl
    | _ => exact absurd guarded nofun
  refine serves.bind serves.clock fun now => ?_
  split
  · cases carried : Carrier.token? request.headers .secret with
    | none => exact serves.pure none
    | some secretToken =>
      have renewed := serves.attempt (serves.renew claims secretToken (taken.trans carried))
      refine serves.bind renewed fun result => ?_
      rcases result with error | token
      · exact serves.pure none
      · exact serves.pure (some token)
  · exact serves.pure none

/-- A caller that is let through is served with a renewed access token, or without one. -/
theorem pass (serves : Serves service request route holds) {policy : Policy}
    (guarded : route.policy? = some policy) (claims : Claims)
    {handler : Option Identity → Operation Response}
    (handles : ∀ identity, holds Response (handler identity)) :
    holds Response (Gate.serve service request.headers claims handler) := by
  refine serves.bind (serves.renewal guarded claims) fun renewed => ?_
  cases renewed with
  | none => exact serves.settle (handles _)
  | some renewed =>
    refine serves.bind serves.clock fun now => ?_
    refine serves.bind (serves.orCrash _) fun jar => ?_
    refine serves.bind (serves.settle (handles _)) fun response => ?_
    exact serves.pure _

theorem enter (serves : Serves service request route holds) {policy : Policy}
    (guarded : route.policy? = some policy) {handler : Option Identity → Operation Response}
    (handles : ∀ identity, holds Response (handler identity)) :
    holds Response (Gate.enter service policy request.headers handler) := by
  cases carried : Carrier.token? request.headers .access with
  | none =>
    rw [Gate.enter_none service policy carried]
    split
    · exact serves.settle (handles none)
    · exact serves.throw _
  | some token =>
    rw [Gate.enter_some service policy carried]
    refine serves.bind (serves.accept token) fun claims => ?_
    split
    · exact serves.pass guarded claims handles
    · exact serves.throw _

/-! ## Handlers -/

theorem handle (serves : Serves service request route holds) (identity : Option Identity) :
    holds Response (route.handle service request identity) := by
  cases route with
  | register =>
    refine serves.withBody _ request fun form => ?_
    have checked : holds Unit (ofExcept form.validate) := by
      cases form.validate with
      | ok done => exact serves.pure done
      | error error => exact serves.throw _
    refine serves.bind checked fun _ => ?_
    exact serves.bind (serves.createUser form rfl) fun user => serves.pure _
  | login =>
    refine serves.withBody _ request fun credentials => ?_
    refine serves.bind (serves.login credentials rfl) fun pair => ?_
    refine serves.bind serves.clock fun now => ?_
    exact serves.bind (serves.orCrash _) fun jar => serves.pure _
  | refresh =>
    refine serves.secretToken fun secret carried => ?_
    refine serves.bind (serves.refresh secret carried) fun access => ?_
    refine serves.bind serves.clock fun now => ?_
    exact serves.bind (serves.orCrash _) fun jar => serves.pure _
  | logout =>
    refine serves.secretToken fun secret carried => ?_
    refine serves.bind (serves.logout secret _ carried) fun _ => ?_
    refine serves.bind serves.clock fun now => ?_
    exact serves.bind (serves.orCrash _) fun jar => serves.pure _
  | me =>
    cases identity with
    | some identity => exact serves.pure _
    | none => exact serves.throw _
  | blacklistedTokens =>
    exact serves.bind serves.listRevoked fun records => serves.pure _
  | whoami =>
    cases identity with
    | some identity => exact serves.pure _
    | none => exact serves.pure _

theorem act (serves : Serves service request route holds) (identity : Option Identity) :
    holds Response (route.act service request identity) := by
  rw [Route.act]
  split
  · exact serves.handle identity
  · exact serves.pure _

theorem respond (serves : Serves service request route holds) :
    holds Response (route.respond service request) := by
  have served : holds Response (route.serve service request) := by
    unfold Route.serve
    split
    · next policy guarded => exact serves.enter guarded serves.act
    · exact serves.act none
  rw [Route.respond_eq]
  refine serves.bind (serves.settle served) fun response => ?_
  split
  · exact serves.pure _
  · exact serves.pure _

end Serves

/-! ## The router -/

/-- **What holds of the operations that the route of a request may use, and of what is composed of
them, holds of answering the request.** -/
theorem Composes.respond (composes : Composes holds)
    (serves : ∀ route, Route.ofPath? request.path = some route →
      Serves service request route holds) :
    holds Response (Router.respond service request) := by
  unfold Router.respond
  dsimp only
  split
  · exact composes.pure _
  · split
    · next route found =>
      exact composes.bind (serves route found).respond fun response => composes.pure _
    · exact composes.pure _

/-- **What holds of the operations of the service and of what is composed of them, holds of
answering a request.** -/
theorem Compositional.respond (compositional : Compositional service holds) (request : Request) :
    holds Response (Router.respond service request) := by
  have composes := compositional.toComposes
  refine composes.respond fun route _ => ⟨composes, ?_, ?_, ?_, ?_, ?_, ?_, ?_⟩
  · exact fun form _ => compositional.createUser form
  · exact compositional.listRevoked
  · exact fun credentials _ => compositional.login credentials
  · exact compositional.validate
  · exact fun secretToken _ => compositional.refresh secretToken
  · exact fun access secretToken _ => compositional.renew access secretToken
  · exact fun secretToken presented _ => compositional.logout secretToken presented

end DualToken
