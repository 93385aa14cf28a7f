import DualToken.Proofs.Http.Arrival
import DualToken.Proofs.Service.Validation

/-!
# Who passes the gate

A request to a guarded route is answered in one of five ways (`Arrival.Answers`): nobody is named
and the route is open to anyone; a token is missing; a token is not acceptable; a caller is known
but not allowed; or a caller is known, allowed, and served. In the last two everything speaks for
the token, and what is shown about the caller is what the row of the user says at that time.

A request that is turned away has been read about and nothing else, so it leaves no trace in the
state and nothing is set by its response.
-/

set_option autoImplicit false

namespace DualToken

open Operation

/-! ## Identities -/

/-- The identity of a user as its row says. -/
def Identity.ofUser (user : User) : Identity :=
  ⟨user.id, user.role, user.displayName, user.email, user.phoneNumber, user.address⟩

/-- Claims that agree with a user name the user's identity. -/
theorem Claims.identity_of_matches {claims : Claims} {user : User}
    (agrees : claims.matchesUser user = true) :
    Identity.ofClaims claims = Identity.ofUser user := by
  simp only [matchesUser, Bool.and_eq_true, decide_eq_true_eq] at agrees
  obtain ⟨⟨⟨⟨⟨sub, role⟩, name⟩, email⟩, phoneNumber⟩, address⟩ := agrees
  rw [Identity.ofClaims, Identity.ofUser, sub, role, name, email, phoneNumber, address]

/-! ## Guarded routes -/

/-- A request with a token, at a guarded route. -/
theorem Route.serve_some (service : Service) {request : Request} {route : Route} {policy : Policy}
    {token : String} (guarded : route.policy? = some policy)
    (carried : Carrier.token? request.headers .access = some token) :
    route.serve service request = Gate.accept service token >>= fun claims =>
      if policy.allows claims.role then
        Gate.serve service request.headers claims (route.act service request)
      else refuse .forbidden := by
  rw [serve, guarded]
  exact Gate.enter_some service policy carried _

/-- What a guarded route shows a caller. -/
def Route.Shows (identity : Option Identity) (body : ResponseBody) : Route → Prop
  | me => ∃ caller, identity = some caller ∧ body = .json caller.json
  | whoami =>
    match identity with
    | some caller => body =
        .json (.object [("authenticated", .boolean true), ("user", caller.json)])
    | none => body = .json (.object [("authenticated", .boolean false)])
  | _ => True

/-- A response of a guarded route to a caller that was let through. -/
structure Route.Fits (route : Route) (identity : Option Identity) (response : Response) :
    Prop where
  known : response.status ≠ 401
  /-- The caller was allowed. -/
  allowed : response.status ≠ 403
  shows : response.status = 200 → route.Shows identity response.body

section Serving

variable {service : Service} {state : State} {route : Route} {request : Request}

theorem Route.fits_of_success {identity : Option Identity} {response : Response}
    (ok : response.status = 200) (shows : route.Shows identity response.body) :
    route.Fits identity response := by
  refine ⟨?_, ?_, fun _ => shows⟩
  · simp [ok]
  · simp [ok]

/-- A response of another status shows nothing. -/
theorem Route.fits_of_failure {identity : Option Identity} {response : Response} {status : Nat}
    (failed : response.status = status) (other : status ∉ [200, 401, 403]) :
    route.Fits identity response := by
  simp only [List.mem_cons, List.not_mem_nil, or_false, not_or] at other
  subst failed
  exact ⟨other.2.1, other.2.2, fun ok => absurd ok other.1⟩

/-- What a guarded route does with a caller fits the caller. -/
theorem Route.ends_act (service : Service) (state : State) (request : Request) {policy : Policy}
    (guarded : route.policy? = some policy)
    (identity : Option Identity) (unnamed : identity = none → policy = .anyone) :
    (route.act service request identity).Ends Action.Reads state (route.Fits identity)
      Failure.IsOfStorage := by
  rw [act]
  split
  · cases route with
    | me =>
      obtain rfl : Policy.user = policy := Option.some.inj guarded
      cases identity with
      | some caller => exact ends_pure (fits_of_success rfl ⟨caller, rfl, rfl⟩)
      | none => exact absurd (unnamed rfl) nofun
    | whoami =>
      cases identity with
      | some caller => exact ends_pure (fits_of_success rfl rfl)
      | none => exact ends_pure (fits_of_success rfl rfl)
    | blacklistedTokens =>
      refine Ends.bind (ends_callStore .list fun _ storage => storage) fun records _ => ?_
      exact ends_pure (fits_of_success rfl trivial)
    | register => exact absurd guarded nofun
    | login => exact absurd guarded nofun
    | refresh => exact absurd guarded nofun
    | logout => exact absurd guarded nofun
  · exact ends_pure (fits_of_failure rfl (by decide : 405 ∉ [200, 401, 403]))

/-- Settling reports failures of storage, and lets none but other failures through. -/
theorem Gate.ends_settle {guarantee : Action → Prop} {identity : Option Identity}
    {operation : Operation Response}
    (ends : operation.Ends guarantee state (route.Fits identity) Failure.IsOfStorage) :
    (settle operation).Ends guarantee state (route.Fits identity) fun _ => False := by
  have noOther : ∀ failure : Failure,
      failure.IsOfStorage ∧ (∀ error, failure ≠ .refused error) → False := by
    rintro failure ⟨⟨detail, rfl⟩, noRefusal⟩
    exact noRefusal _ rfl
  refine (ends.attempt.mono (fun _ ended => ended) noOther).bind fun result ended => ?_
  rcases result with error | response
  · obtain ⟨detail, storage⟩ := ended
    obtain rfl : error = .storage detail := Failure.refused.inj storage
    exact ends_pure (Route.fits_of_failure rfl (by decide : 500 ∉ [200, 401, 403]))
  · exact ends_pure ended

/-- No refusal of a renewal comes out, and it breaks off only if the end of the new token cannot be
reckoned. -/
theorem Gate.ends_renewal (service : Service) (state : State) (headers : Headers) (claims : Claims)
    {failing : Failure → Prop}
    (breaks : Time.add? state.now service.accessLifetime = none → failing .crashed) :
    (renewal service headers claims).Ends Action.KeepsUsers state (fun _ => True) failing := by
  have unrefused : ∀ failure : Failure,
      (failure.IsOfCheck ∨ failing failure) ∧ (∀ error, failure ≠ .refused error) →
        failing failure := by
    rintro failure ⟨(⟨error, -, rfl⟩ | ⟨detail, rfl⟩) | broken, noRefusal⟩
    · exact absurd rfl (noRefusal error)
    · exact absurd rfl (noRefusal _)
    · exact broken
  refine (ends_clock nofun).bind fun now _ => ?_
  split
  · cases Carrier.token? headers .secret with
    | none => exact ends_pure trivial
    | some secretToken =>
      have renewed : (service.renew claims secretToken).Ends Action.KeepsUsers state
          (fun _ => True) fun failure => failure.IsOfCheck ∨ failing failure :=
        Service.ends_renew_of service state (fun _ => .inl) (.inr ∘ breaks) claims secretToken
      refine (renewed.attempt.mono (fun _ ended => ended) unrefused).bind fun result _ => ?_
      rcases result with error | token
      · exact ends_pure trivial
      · exact ends_pure trivial
  · exact ends_pure trivial

/-- **What is done for a caller that is let through fits the caller**, and ends in no refusal. -/
theorem Gate.ends_serve (service : Service) (state : State) (request : Request) {policy : Policy}
    (guarded : route.policy? = some policy)
    (claims : Claims) :
    (serve service request.headers claims (route.act service request)).Ends Action.KeepsUsers state
      (route.Fits (some (Identity.ofClaims claims))) (· = .crashed) := by
  have handled : ∀ state, (settle (route.act service request
      (some (Identity.ofClaims claims)))).Ends Action.KeepsUsers state
        (route.Fits (some (Identity.ofClaims claims))) (· = .crashed) := by
    intro state
    have acts := Route.ends_act service state request guarded (some (Identity.ofClaims claims))
      fun absent => absurd absent nofun
    exact (ends_settle acts).keepsUsers.mono (fun _ fits => fits) fun _ never => never.elim
  have renewing : (renewal service request.headers claims).Ends Action.KeepsUsers state
      (fun _ => True) (· = .crashed) :=
    ends_renewal service state request.headers claims fun _ => rfl
  refine renewing.bind fun renewed _ => ?_
  cases renewed with
  | none => exact handled state
  | some renewed =>
    refine (ends_clock nofun).bind fun now _ => ?_
    refine Ends.bind (ends_orCrash (Eq.refl Failure.crashed)) fun jar _ => ?_
    refine (handled state).bind fun response fits => ?_
    exact ends_pure ⟨fits.known, fits.allowed, fits.shows⟩

end Serving

/-! ## Answers of guarded routes -/

namespace Arrival

/-- The request was read about, and nothing else was done for it. -/
structure IsQuiet (arrival : Arrival) : Prop where
  /-- Every action reads. -/
  reads : ∀ performed ∈ arrival.state.trace arrival.service
    (Router.respond arrival.service arrival.request), performed.action.Reads
  /-- Nothing has changed, unless others were let in. -/
  unchanged : arrival.state.Plans Incident.IsPlain → arrival.state.Unchanged
    (arrival.state.run arrival.service (Router.respond arrival.service arrival.request)).2

/-- The ways in which a request to a guarded route is answered. -/
inductive Answers (arrival : Arrival) (route : Route) (policy : Policy) : Response → Prop
  /-- No token is presented, and none is needed. -/
  | anonymous {inner : Response}
      (none : Carrier.token? arrival.request.headers .access = none) (everyone : policy = .anyone)
      (fits : route.Fits Option.none inner) :
      Answers arrival route policy (Router.finish arrival.request.method route inner)
  | missing (none : Carrier.token? arrival.request.headers .access = none)
      (demanding : policy ≠ .anyone) (quiet : arrival.IsQuiet) :
      Answers arrival route policy
        (Router.reported arrival.request.method route .unauthenticated)
  /-- The token is not acceptable. -/
  | invalid {token : String}
      (carried : Carrier.token? arrival.request.headers .access = some token)
      (quiet : arrival.IsQuiet) :
      Answers arrival route policy
        (Router.reported arrival.request.method route .unauthenticated)
  | forbidden {token : String} {claims : Claims} {user : User}
      (carried : Carrier.token? arrival.request.headers .access = some token)
      (vouches : arrival.state.Vouches arrival.service token claims user)
      (denied : policy.allows user.role = false) (quiet : arrival.IsQuiet) :
      Answers arrival route policy (Router.reported arrival.request.method route .forbidden)
  /-- The caller is known and allowed. -/
  | served {token : String} {claims : Claims} {user : User} {inner : Response}
      (carried : Carrier.token? arrival.request.headers .access = some token)
      (vouches : arrival.state.Vouches arrival.service token claims user)
      (allowed : policy.allows user.role = true)
      (fits : route.Fits (some (Identity.ofUser user)) inner) :
      Answers arrival route policy (Router.finish arrival.request.method route inner)

variable {arrival : Arrival} {route : Route} {policy : Policy} {response : Response}

/-- A request that is served like an operation that only reads is quiet. -/
theorem isQuiet_of_reads {α : Type} {operation : Operation α} {promise : α → Prop}
    {failing : Failure → Prop} (found : Route.ofPath? arrival.request.path = some route)
    (noPreflight : arrival.request.method ≠ "OPTIONS")
    (ends : operation.Ends Action.Reads arrival.state promise failing)
    (after : (arrival.state.run arrival.service (route.serve arrival.service arrival.request)).2 =
      (arrival.state.run arrival.service operation).2)
    (trace : arrival.state.trace arrival.service (route.serve arrival.service arrival.request) =
      arrival.state.trace arrival.service operation) : arrival.IsQuiet := by
  obtain ⟨answered, same⟩ := State.run_respond arrival.service arrival.state found noPreflight
  constructor
  · rw [same, trace]
    exact fun performed member => State.reads_of_mem_trace ends member
  · intro plain
    rw [answered]
    change arrival.state.Unchanged (arrival.state.run arrival.service _).2
    rw [after]
    exact State.unchanged_of_reads ends plain

/-- A request without a token, behind the gate. -/
theorem answers_of_none (found : Route.ofPath? arrival.request.path = some route)
    (guarded : route.policy? = some policy) (noPreflight : arrival.request.method ≠ "OPTIONS")
    (none : Carrier.token? arrival.request.headers .access = none)
    (ok : arrival.outcome = .ok response) : arrival.Answers route policy response := by
  have served : route.serve arrival.service arrival.request = if policy = .anyone then
      Gate.settle (route.act arrival.service arrival.request Option.none)
      else refuse .unauthenticated := by
    rw [Route.serve, guarded]
    exact Gate.enter_none arrival.service policy none _
  rw [outcome, (State.run_respond arrival.service arrival.state found noPreflight).1, served] at ok
  by_cases everyone : policy = .anyone
  · rw [if_pos everyone] at ok
    have ends := (Gate.ends_settle (Route.ends_act arrival.service arrival.state arrival.request
      guarded Option.none fun _ => everyone)).keepsUsers
    cases settled : (arrival.state.run arrival.service (Gate.settle
        (route.act arrival.service arrival.request Option.none))).1 with
    | ok inner =>
      rw [settled] at ok
      obtain rfl : Router.finish arrival.request.method route inner = response := Except.ok.inj ok
      exact .anonymous none everyone (State.Ends.of_ok ends settled)
    | error failure => exact (State.Ends.of_error ends settled).elim
  · rw [if_neg everyone] at ok served
    obtain rfl : Router.reported arrival.request.method route .unauthenticated = response :=
      Except.ok.inj ok
    have idle : (pure () : Operation Unit).Ends Action.Reads arrival.state (fun _ => True)
        fun _ => True := ends_pure trivial
    refine .missing none everyone (isQuiet_of_reads found noPreflight idle ?_ ?_)
    · rw [served]
      rfl
    · rw [served]
      rfl

/-- A request with a token, behind the gate. -/
theorem answers_of_some (found : Route.ofPath? arrival.request.path = some route)
    (guarded : route.policy? = some policy) (noPreflight : arrival.request.method ≠ "OPTIONS")
    {token : String} (carried : Carrier.token? arrival.request.headers .access = some token)
    (ok : arrival.outcome = .ok response) : arrival.Answers route policy response := by
  have served := Route.serve_some arrival.service guarded carried
  have checks := Service.ends_validate arrival.service arrival.state token .access
  obtain ⟨accepting, steps⟩ := State.run_accept arrival.service arrival.state token
  rw [outcome, (State.run_respond arrival.service arrival.state found noPreflight).1, served] at ok
  cases validated : (arrival.state.run arrival.service
      (arrival.service.validate token .access)).1 with
  | error failure =>
    obtain ⟨error, rfl, shown⟩ := (State.Ends.of_error checks.keepsUsers validated).atGate
    rw [validated, Gate.accepted, shown] at accepting
    obtain ⟨stops, nothing⟩ := State.run_bind_error (congrArg Prod.fst accepting) _
    rw [stops] at ok
    obtain rfl : Router.reported arrival.request.method route .unauthenticated = response :=
      Except.ok.inj ok
    refine .invalid carried (isQuiet_of_reads found noPreflight checks ?_ ?_)
    · rw [served, stops, accepting]
    · rw [served, nothing, steps]
  | ok claims =>
    rw [validated, Gate.accepted] at accepting
    obtain ⟨user, vouches⟩ := State.vouches_of_validate validated
    have identity := Claims.identity_of_matches vouches.agrees
    have role : claims.role = user.role := congrArg Identity.role identity
    obtain ⟨goesOn, after⟩ := State.run_bind_ok (congrArg Prod.fst accepting) fun claims =>
      if policy.allows claims.role then Gate.serve arrival.service arrival.request.headers claims
        (route.act arrival.service arrival.request)
      else refuse .forbidden
    rw [goesOn] at ok
    by_cases allowed : policy.allows claims.role = true
    · rw [if_pos allowed] at ok
      have ends := Gate.ends_serve arrival.service
        (arrival.state.run arrival.service (Gate.accept arrival.service token)).2 arrival.request
        guarded claims
      cases serving : ((arrival.state.run arrival.service (Gate.accept arrival.service token)).2.run
          arrival.service (Gate.serve arrival.service arrival.request.headers claims
            (route.act arrival.service arrival.request))).1 with
      | ok inner =>
        rw [serving] at ok
        obtain rfl : Router.finish arrival.request.method route inner = response :=
          Except.ok.inj ok
        exact .served carried vouches (role ▸ allowed) (identity ▸ State.Ends.of_ok ends serving)
      | error failure =>
        obtain rfl := State.Ends.of_error ends serving
        rw [serving] at ok
        exact absurd ok nofun
    · rw [if_neg allowed] at ok goesOn after
      obtain rfl : Router.reported arrival.request.method route .forbidden = response :=
        Except.ok.inj ok
      refine .forbidden carried vouches (role ▸ Bool.eq_false_iff.2 allowed)
        (isQuiet_of_reads found noPreflight checks ?_ ?_)
      · rw [served, goesOn, accepting]
        rfl
      · rw [served, after, steps]
        exact List.append_nil _

/-- **A request to a guarded route is answered in one of five ways.** -/
theorem answers (found : Route.ofPath? arrival.request.path = some route)
    (guarded : route.policy? = some policy) (noPreflight : arrival.request.method ≠ "OPTIONS")
    (ok : arrival.outcome = .ok response) : arrival.Answers route policy response := by
  cases carried : Carrier.token? arrival.request.headers .access with
  | none => exact answers_of_none found guarded noPreflight carried ok
  | some token => exact answers_of_some found guarded noPreflight carried ok

end Arrival

end DualToken
