import DualToken.Proofs.Http.Carrier
import DualToken.Proofs.Http.Gate
import DualToken.Proofs.Service.Reachable

/-!
# The gate is sound

What a guarded route answers tells what must have been found out about the request
(`Arrival.gate_sound`): who is shown or allowed is the user of the token as the users' table has it
at that time, a token that is presented is never passed over, and whoever is turned away has changed
nothing. Without faults a caller who lacks the role is told so exactly if everything else speaks for
the token.

The claims have to agree with the row in this. A token whose row has changed since is not
acceptable, also where the change took a role away: an administrator who has become a customer is
unauthenticated, not forbidden (`stale_admin_unauthenticated`).
-/

set_option autoImplicit false

namespace DualToken

open Operation

namespace Arrival

/-- The request asks a route with the method GET. -/
structure Gets (arrival : Arrival) (route : Route) : Prop where
  found : Route.ofPath? arrival.request.path = some route
  got : arrival.request.method = "GET"

/-- The request carries an access token, and everything speaks for it. -/
structure Accepts (arrival : Arrival) (token : String) (claims : Claims) (user : User) : Prop where
  carried : Carrier.token? arrival.request.headers .access = some token
  vouches : arrival.state.Vouches arrival.service token claims user

/-- Nobody comes in between while the request is answered, and no store fails. -/
structure IsFaultless (arrival : Arrival) : Prop where
  calm : arrival.state.IsCalm
  succeed : ∀ performed ∈ arrival.state.trace arrival.service
    (Router.respond arrival.service arrival.request), performed.action.Succeeds performed.reply

variable {arrival : Arrival} {route : Route} {response : Response}

theorem Gets.noPreflight (gets : arrival.Gets route) : arrival.request.method ≠ "OPTIONS" := by
  rw [gets.got]
  decide

theorem Gets.noHead (gets : arrival.Gets route) : arrival.request.method ≠ "HEAD" := by
  rw [gets.got]
  decide

/-- A request for the methods of a route is not turned away. -/
theorem status_of_preflight (preflight : arrival.request.method = "OPTIONS")
    (ok : arrival.outcome = .ok response) : response.status = 200 := by
  have answered : Router.respond arrival.service arrival.request =
      pure (Router.preflight (Route.ofPath? arrival.request.path)) := by
    unfold Router.respond
    exact if_pos preflight
  rw [outcome, answered] at ok
  obtain rfl : Router.preflight (Route.ofPath? arrival.request.path) = response :=
    Except.ok.inj ok
  cases Route.ofPath? arrival.request.path with
  | none => rfl
  | some route => rfl

/-- A report sets nothing. -/
theorem headers_reported (method : String) (route : Route) (error : AuthError) :
    ∀ header ∈ (Router.reported method route error).allHeaders,
      header.1 ≠ "set-cookie" ∧ header.1 ≠ Gate.renewalHeader := by
  have shared : ∀ header ∈ Router.commonHeaders,
      header.1 ≠ "set-cookie" ∧ header.1 ≠ Gate.renewalHeader := by decide
  intro header member
  rw [Response.allHeaders, Router.reported, Router.cookies_finish] at member
  rcases Router.mem_headers_finish (List.append_nil _ ▸ member) with common | own | allow
  · exact shared header common
  · obtain rfl := List.mem_singleton.1 own
    decide
  · rw [allow]
    decide

/-- What a response of success tells. -/
theorem Answers.of_success {policy : Policy} (answers : arrival.Answers route policy response)
    (noHead : arrival.request.method ≠ "HEAD") (ok : response.status = 200) :
    (policy = .anyone ∧ Carrier.token? arrival.request.headers .access = none ∧
        route.Shows none response.body) ∨
      ∃ token claims user, arrival.Accepts token claims user ∧ policy.allows user.role = true ∧
        route.Shows (some (Identity.ofUser user)) response.body := by
  cases answers with
  | anonymous none everyone fits =>
    rw [Router.status_finish] at ok
    rw [Router.body_finish noHead]
    exact .inl ⟨everyone, none, fits.shows ok⟩
  | missing none demanding quiet => exact absurd ok (by simp [AuthError.status])
  | invalid carried quiet => exact absurd ok (by simp [AuthError.status])
  | forbidden carried vouches denied quiet => exact absurd ok (by simp [AuthError.status])
  | served carried vouches allowed fits =>
    rw [Router.status_finish] at ok
    rw [Router.body_finish noHead]
    exact .inr ⟨_, _, _, ⟨carried, vouches⟩, allowed, fits.shows ok⟩

/-- Only a caller who is known is told that something is forbidden. -/
theorem Answers.of_forbidden {policy : Policy} (answers : arrival.Answers route policy response)
    (status : response.status = 403) :
    ∃ token claims user, arrival.Accepts token claims user ∧ policy.allows user.role = false := by
  cases answers with
  | anonymous none everyone fits =>
    rw [Router.status_finish] at status
    exact absurd status fits.allowed
  | missing none demanding quiet => exact absurd status (by simp [AuthError.status])
  | invalid carried quiet => exact absurd status (by simp [AuthError.status])
  | forbidden carried vouches denied quiet => exact ⟨_, _, _, ⟨carried, vouches⟩, denied⟩
  | served carried vouches allowed fits =>
    rw [Router.status_finish] at status
    exact absurd status fits.allowed

/-- A request that is turned away is answered with a report, and quietly. -/
theorem Answers.of_refusal {policy : Policy} (answers : arrival.Answers route policy response)
    (status : response.status = 401 ∨ response.status = 403) :
    ∃ error, response = Router.reported arrival.request.method route error ∧
      arrival.IsQuiet := by
  cases answers with
  | anonymous none everyone fits =>
    rw [Router.status_finish] at status
    exact absurd status (not_or.2 ⟨fits.known, fits.allowed⟩)
  | missing none demanding quiet => exact ⟨_, rfl, quiet⟩
  | invalid carried quiet => exact ⟨_, rfl, quiet⟩
  | forbidden carried vouches denied quiet => exact ⟨_, rfl, quiet⟩
  | served carried vouches allowed fits =>
    rw [Router.status_finish] at status
    exact absurd status (not_or.2 ⟨fits.known, fits.allowed⟩)

/-- Without faults the lookup of the token that is presented does not fail. -/
theorem IsFaultless.lookup (faultless : arrival.IsFaultless) {policy : Policy} {token : String}
    (found : Route.ofPath? arrival.request.path = some route)
    (guarded : route.policy? = some policy) (noPreflight : arrival.request.method ≠ "OPTIONS")
    (carried : Carrier.token? arrival.request.headers .access = some token) :
    Action.Succeeds (.store (.lookup token))
      (arrival.state.perform arrival.service (.store (.lookup token))).1 := by
  let first : Performed Action Action.Reply := ⟨.store (.lookup token),
    (arrival.state.perform arrival.service (.store (.lookup token))).1⟩
  have asked : first ∈ arrival.state.trace arrival.service (Service.isRevoked token) := by
    rw [State.trace, Service.run_isRevoked, Program.trace_act]
    exact List.mem_cons_self
  have verified : first ∈ arrival.state.trace arrival.service
      (arrival.service.verify token .access) := State.mem_trace_bind (Service.isRevoked token) asked
  have validated : first ∈ arrival.state.trace arrival.service
      (arrival.service.validate token .access) := State.mem_trace_bind _ verified
  refine faultless.succeed first ?_
  rw [(State.run_respond arrival.service arrival.state found noPreflight).2,
    Route.serve_some arrival.service guarded carried]
  refine State.mem_trace_bind (Gate.accept arrival.service token) ?_
  rw [(State.run_accept arrival.service arrival.state token).2]
  exact validated

/-- Without faults a caller who is known but not allowed is told so. -/
theorem Accepts.forbidden {policy : Policy} {token : String} {claims : Claims} {user : User}
    (accepts : arrival.Accepts token claims user) (faultless : arrival.IsFaultless)
    (found : Route.ofPath? arrival.request.path = some route)
    (guarded : route.policy? = some policy) (noPreflight : arrival.request.method ≠ "OPTIONS")
    (denied : policy.allows user.role = false) :
    arrival.outcome = .ok (Router.reported arrival.request.method route .forbidden) := by
  obtain ⟨carried, vouches⟩ := accepts
  obtain ⟨after, validates⟩ := vouches.goes_validate faultless.calm
    (faultless.lookup found guarded noPreflight carried)
  have role : claims.role = user.role :=
    congrArg Identity.role (Claims.identity_of_matches vouches.agrees)
  have accepted := (State.run_accept arrival.service arrival.state token).1
  rw [validates.run] at accepted
  refine outcome_of_refused found noPreflight ?_
  rw [result, Route.serve_some arrival.service guarded carried,
    (State.run_bind_ok (congrArg Prod.fst accepted) _).1, role, if_neg (Bool.eq_false_iff.1 denied)]
  rfl

/-- **The gate is sound.** -/
theorem gate_sound (arrival : Arrival) :
    (∀ response, arrival.Gets .me → arrival.outcome = .ok response → response.status = 200 →
      ∃ token claims user, arrival.Accepts token claims user ∧
        response.body = .json (Identity.ofUser user).json) ∧
    (∀ response, arrival.Gets .blacklistedTokens → arrival.outcome = .ok response →
      response.status = 200 →
        ∃ token claims user, arrival.Accepts token claims user ∧ user.role = .admin) ∧
    (∀ response, arrival.Gets .blacklistedTokens → arrival.outcome = .ok response →
      response.status = 403 →
        ∃ token claims user, arrival.Accepts token claims user ∧ user.role ≠ .admin) ∧
    (arrival.Gets .blacklistedTokens → arrival.IsFaultless →
      ((∃ response, arrival.outcome = .ok response ∧ response.status = 403) ↔
        ∃ token claims user, arrival.Accepts token claims user ∧ user.role ≠ .admin)) ∧
    (∀ response, arrival.Gets .whoami → arrival.outcome = .ok response → response.status = 200 →
      (Carrier.token? arrival.request.headers .access = none ∧
        response.body = .json (.object [("authenticated", .boolean false)])) ∨
      ∃ token claims user, arrival.Accepts token claims user ∧
        response.body = .json (.object [("authenticated", .boolean true),
          ("user", (Identity.ofUser user).json)])) ∧
    (∀ route policy response, Route.ofPath? arrival.request.path = some route →
      route.policy? = some policy → arrival.outcome = .ok response →
        response.status = 401 ∨ response.status = 403 →
          response.cookies = [] ∧
          (∀ header ∈ response.allHeaders,
            header.1 ≠ "set-cookie" ∧ header.1 ≠ Gate.renewalHeader) ∧
          arrival.IsQuiet) := by
  have demands : ∀ role, Policy.allows (.role .admin) role = true ↔ role = .admin :=
    fun _ => decide_eq_true_iff
  have forbidden : ∀ response, arrival.Gets .blacklistedTokens → arrival.outcome = .ok response →
      response.status = 403 →
        ∃ token claims user, arrival.Accepts token claims user ∧ user.role ≠ .admin := by
    intro response gets ok status
    obtain ⟨token, claims, user, accepts, denied⟩ :=
      (answers gets.found rfl gets.noPreflight ok).of_forbidden status
    exact ⟨token, claims, user, accepts, fun admin =>
      Bool.eq_false_iff.1 denied ((demands _).2 admin)⟩
  refine ⟨fun response gets ok status => ?_, fun response gets ok status => ?_, forbidden,
    fun gets faultless => ⟨?_, ?_⟩, fun response gets ok status => ?_,
    fun route policy response found guarded ok status => ?_⟩
  · obtain ⟨everyone, -⟩ | ⟨token, claims, user, accepts, -, caller, ⟨⟩, body⟩ :=
      (answers gets.found rfl gets.noPreflight ok).of_success gets.noHead status
    · exact absurd everyone nofun
    · exact ⟨token, claims, user, accepts, body⟩
  · obtain ⟨everyone, -⟩ | ⟨token, claims, user, accepts, allowed, -⟩ :=
      (answers gets.found rfl gets.noPreflight ok).of_success gets.noHead status
    · exact absurd everyone nofun
    · exact ⟨token, claims, user, accepts, (demands _).1 allowed⟩
  · rintro ⟨response, ok, status⟩
    exact forbidden response gets ok status
  · rintro ⟨token, claims, user, accepts, noAdmin⟩
    refine ⟨_, accepts.forbidden faultless gets.found rfl gets.noPreflight ?_,
      Router.status_reported _ _ _⟩
    exact Bool.eq_false_iff.2 fun allowed => noAdmin ((demands _).1 allowed)
  · obtain ⟨-, none, body⟩ | ⟨token, claims, user, accepts, -, body⟩ :=
      (answers gets.found rfl gets.noPreflight ok).of_success gets.noHead status
    · exact .inl ⟨none, body⟩
    · exact .inr ⟨token, claims, user, accepts, body⟩
  · have noPreflight : arrival.request.method ≠ "OPTIONS" := by
      intro preflight
      rw [status_of_preflight preflight ok] at status
      exact absurd status (by decide)
    obtain ⟨error, rfl, quiet⟩ := (answers found guarded noPreflight ok).of_refusal status
    exact ⟨Router.cookies_finish _ _ _, headers_reported _ _ _, quiet⟩

end Arrival

/-! ## A caller whose row changes -/

/-- A user of some role logs in to a service that starts with this user. -/
theorem State.exists_login (role : Role) :
    ∃ (service : Service) (start opened : State) (credentials : Credentials) (claims : Claims)
      (row : UserRow) (user : User),
      start.sessions = {} ∧ (start.step service (.login credentials)).2 = opened ∧
      opened.IsWhole service {} ∧
      service.codec.decodeAt (service.codec.issue claims) .access opened.now = .ok claims ∧
      opened.directory.table = some ⟨[row], 1⟩ ∧ row.id = 1 ∧ claims.sub = 1 ∧
      row.user = .ok user ∧ claims.matchesUser user = true ∧ user.role = role := by
  obtain ⟨service, start, credentials, row, user, ready, role⟩ := State.exists_isReady role
  obtain ⟨access, secret, calls, sessions, logsIn⟩ := ready.exists_logsIn
  have ran : (start.step service (.login credentials)).2 = { start with
      calls, namesDrawn := start.namesDrawn + 3, sessions } := congrArg Prod.snd logsIn.goes.run
  exact ⟨service, start, _, credentials, access, row, user, ready.sessions, ran,
    ready.whole.frame _ sessions calls, logsIn.decoded, ready.table, ready.rowId,
    logsIn.ofUser.trans ready.userId, ready.read, logsIn.matched, role⟩

/-- A request for the record of tokens, with an access token. -/
def Request.forRecords (token : String) : Request :=
  { method := "GET", target := "/api/v1/blacklisted_tokens",
    headers := [("Authorization", Text.utf8 token)] }

namespace Arrival

theorem gets_forRecords (service : Service) (state : State) (token : String) :
    Gets ⟨service, state, .forRecords token⟩ .blacklistedTokens := by
  have found : Route.ofPath? (Request.path ⟨"GET", "/api/v1/blacklisted_tokens", [], []⟩) =
      some .blacklistedTokens := by decide
  exact ⟨found, rfl⟩

theorem carries_forRecords (codec : Codec) (claims : Claims) :
    Carrier.token? (Request.forRecords (codec.issue claims)).headers .access =
      some (codec.issue claims) := by
  have lower : "Authorization".map Char.toLower = "authorization" := by decide +kernel
  have header : (Request.forRecords (codec.issue claims)).headers.valuesOf
      (Carrier.headerName .access) = [Text.utf8 (codec.issue claims)] := by
    simp [Request.forRecords, Headers.valuesOf, Carrier.headerName, lower]
  exact Carrier.token?_issue header

/-- A request that goes no further than the gate meets no fault if validating its token meets none.
-/
theorem isFaultless_of_validate {arrival : Arrival} {route : Route} {policy : Policy}
    {token : String} (calm : arrival.state.IsCalm)
    (found : Route.ofPath? arrival.request.path = some route)
    (guarded : route.policy? = some policy) (noPreflight : arrival.request.method ≠ "OPTIONS")
    (carried : Carrier.token? arrival.request.headers .access = some token)
    (succeed : ∀ performed ∈ arrival.state.trace arrival.service
      (arrival.service.validate token .access), performed.action.Succeeds performed.reply)
    (stops : ∀ claims, (arrival.state.run arrival.service
      (arrival.service.validate token .access)).1 = .ok claims →
        policy.allows claims.role = false) :
    arrival.IsFaultless := by
  refine ⟨calm, ?_⟩
  obtain ⟨accepted, trace⟩ := State.run_accept arrival.service arrival.state token
  rw [(State.run_respond arrival.service arrival.state found noPreflight).2,
    Route.serve_some arrival.service guarded carried]
  cases validated : (arrival.state.run arrival.service
      (arrival.service.validate token .access)).1 with
  | ok claims =>
    rw [validated] at accepted
    have denied : ¬ policy.allows claims.role = true := Bool.eq_false_iff.1 (stops claims validated)
    rw [(State.run_bind_ok (congrArg Prod.fst accepted) _).2, trace, if_neg denied]
    exact (List.append_nil _).symm ▸ succeed
  | error failure =>
    obtain ⟨error, refused⟩ : ∃ error, Gate.accepted (.error failure) = .error error := by
      cases failure <;> exact ⟨_, rfl⟩
    rw [validated, refused] at accepted
    rw [(State.run_bind_error (congrArg Prod.fst accepted) _).2, trace]
    exact succeed

/-- A customer whose token is acceptable is told that the record of tokens is forbidden. -/
theorem customer_forbidden :
    ∃ (arrival : Arrival) (token : String) (claims : Claims) (user : User) (response : Response),
      arrival.Gets .blacklistedTokens ∧ arrival.IsFaultless ∧
      arrival.Accepts token claims user ∧ user.role = .customer ∧
      arrival.outcome = .ok response ∧ response.status = 403 := by
  obtain ⟨service, start, opened, credentials, claims, row, user, -, -, whole, decoded, rows, id,
    sub, read, agrees, role⟩ := State.exists_login .customer
  let arrival : Arrival := ⟨service, opened, .forRecords (service.codec.issue claims)⟩
  have gets : arrival.Gets .blacklistedTokens := gets_forRecords service opened _
  have carried := carries_forRecords service.codec claims
  have found : opened.directory.userById claims.sub = .ok (some user) :=
    Directory.userById_eq_ok_iff.2 ⟨_, row, rows, by simp [UserTable.byId?, id, sub], read⟩
  have claimed : claims.role = .customer := by
    rw [← role]
    exact congrArg Identity.role (Claims.identity_of_matches agrees)
  obtain ⟨calls, validates⟩ := whole.goes_validate rfl decoded found agrees
  have faultless : arrival.IsFaultless := by
    refine isFaultless_of_validate whole.calm gets.found rfl gets.noPreflight carried
      validates.succeed fun other ok => ?_
    obtain rfl : claims = other := Except.ok.inj ((congrArg Prod.fst validates.run).symm.trans ok)
    rw [claimed]
    rfl
  obtain ⟨vouched, vouches⟩ := State.vouches_of_validate (congrArg Prod.fst validates.run)
  have accepts : arrival.Accepts (service.codec.issue claims) claims vouched := ⟨carried, vouches⟩
  have customer : vouched.role = .customer := by
    rw [← claimed]
    exact (congrArg Identity.role (Claims.identity_of_matches vouches.agrees)).symm
  obtain ⟨response, ok, status⟩ := ((gate_sound arrival).2.2.2.1 gets faultless).2
    ⟨_, claims, vouched, accepts, by simp [customer]⟩
  exact ⟨arrival, _, claims, vouched, response, gets, faultless, accepts, customer, ok, status⟩

/-- It is not so that a caller whose row is no administrator's is told so if the token is not
recorded, decodes, and has a row: an administrator whose row has been changed to a customer's is
unauthenticated. -/
theorem stale_admin_unauthenticated :
    ¬ ∀ (arrival : Arrival) (token : String) (claims : Claims) (user : User),
      arrival.state.IsReachable arrival.service → arrival.Gets .blacklistedTokens →
      arrival.IsFaultless → Carrier.token? arrival.request.headers .access = some token →
      arrival.state.FindsClear arrival.service token →
      arrival.service.codec.decodeAt token .access arrival.state.now = .ok claims →
      arrival.state.directory.Has claims.sub user → user.role ≠ .admin →
        ∃ response, arrival.outcome = .ok response ∧ response.status = 403 := by
  intro claimed
  obtain ⟨service, start, opened, credentials, claims, row, user, empty, opens, whole, decoded,
    rows, id, sub, read, agrees, role⟩ := State.exists_login .admin
  let changed : UserRow := row.withText .role "customer"
  let later : State := { opened with
    directory := { opened.directory with table := some ⟨[changed], 1⟩ } }
  let demoted : User := { user with role := .customer }
  let arrival : Arrival := ⟨service, later, .forRecords (service.codec.issue claims)⟩
  have edited : (opened.step service (.editUser 1 (.text .role "customer"))).2 = later := by
    simp [State.step, State.changeUsers, rows, UserTable.edit, UserTable.byId?,
      UserTable.editFault?, UserRow.edited, id, later, changed]
  have reachable : later.IsReachable service :=
    ⟨start, [.login credentials, .editUser 1 (.text .role "customer")], empty, by
      rw [← edited, ← opens]
      rfl⟩
  have read' : changed.user = .ok demoted := by
    unfold UserRow.user at read
    split at read
    · obtain rfl := Except.ok.inj read
      rfl
    · cases read
  have gets : arrival.Gets .blacklistedTokens := gets_forRecords service later _
  have carried := carries_forRecords service.codec claims
  have has : later.directory.Has claims.sub demoted :=
    ⟨_, changed, rfl, by simp [UserTable.byId?, changed, UserRow.withText, id, sub], read'⟩
  have whole' : later.IsWhole service {} :=
    ⟨whole.backend, ⟨whole.calm.revocationPlan, whole.calm.userPlan, whole.calm.rivals⟩,
      whole.table⟩
  have claimedRole : claims.role = .admin := by
    rw [← role]
    exact congrArg Identity.role (Claims.identity_of_matches agrees)
  have stale : claims.matchesUser demoted = false := by
    simp [Claims.matchesUser, demoted, claimedRole]
  obtain ⟨refused, succeed⟩ := whole'.refuses_stale rfl decoded
    (Directory.userById_eq_ok_iff.2 has) stale
  have faultless : arrival.IsFaultless := by
    refine isFaultless_of_validate whole'.calm gets.found rfl gets.noPreflight carried
      succeed fun other ok => ?_
    cases refused.symm.trans ok
  obtain ⟨calls, asked⟩ := whole'.goes_isRevoked (service.codec.issue claims)
  obtain ⟨response, ok, status⟩ := claimed arrival _ claims demoted reachable gets faultless carried
    (State.findsClear_of_isRevoked (congrArg Prod.fst asked.run)) decoded has (by simp [demoted])
  obtain ⟨token, other, vouched, ⟨carried', vouches⟩, -⟩ :=
    (answers gets.found rfl gets.noPreflight ok).of_forbidden status
  obtain rfl : service.codec.issue claims = token := Option.some.inj (carried.symm.trans carried')
  obtain rfl : claims = other := Except.ok.inj (decoded.symm.trans vouches.decoded)
  obtain rfl : demoted = vouched := Option.some.inj (Except.ok.inj
    ((Directory.userById_eq_ok_iff.2 has).symm.trans (Directory.userById_eq_ok_iff.2 vouches.row)))
  cases stale.symm.trans vouches.agrees

end Arrival

end DualToken
