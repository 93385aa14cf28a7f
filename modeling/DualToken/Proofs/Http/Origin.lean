import DualToken.Proofs.Http.Renewal

/-!
# Where the cookies of a response come from

A response sets cookies in four ways only: a login hands out a pair, a refresh an access token, a
logout takes both cookies away, and the gate of a guarded route renews the access token of the
request. All of this happens at the time at which the request comes in. Every other answer, a
refusal or a report included, sets none (`Arrival.sets_cookies`).

So what is to be shown of every cookie that a response sets is shown for these ways.
-/

set_option autoImplicit false

namespace DualToken

open Operation

/-! ## Jars -/

namespace CookiePolicy

/-- The cookie of a token at some time. -/
def tokenCookie (policy : CookiePolicy) (kind : TokenKind) (token : String) (now : Int) :
    SetCookie :=
  ⟨SetCookie.tokenName kind, token, policy.isSecure, now + policy.lifetime kind⟩

/-- The dates that the cookie of a token takes can be written. -/
def CanDate (policy : CookiePolicy) (kind : TokenKind) (now : Int) : Prop :=
  HttpDate.IsWritable now ∧ HttpDate.IsWritable (now + policy.lifetime kind)

variable {policy : CookiePolicy} {kind : TokenKind} {token : String} {pair : TokenPair} {now : Int}
  {cookie : SetCookie} {jar : CookieJar}

theorem tokenCookie?_eq_some_iff : policy.tokenCookie? kind token now = some cookie ↔
    policy.CanDate kind now ∧ cookie = policy.tokenCookie kind token now := by
  rw [tokenCookie?, cookie?, CanDate]
  split
  · next dates => simp [dates, tokenCookie, eq_comm]
  · next dates => simp [dates]

/-- An access token is set in a cookie of its own. -/
theorem setAccess?_eq_some_iff : policy.setAccess? token now [] = some jar ↔
    policy.CanDate .access now ∧ jar = [policy.tokenCookie .access token now] := by
  rw [setAccess?, Option.map_eq_some_iff]
  simp only [tokenCookie?_eq_some_iff, CookieJar.add, List.filter_nil, List.nil_append]
  constructor
  · rintro ⟨_, ⟨dates, rfl⟩, rfl⟩
    exact ⟨dates, rfl⟩
  · rintro ⟨dates, rfl⟩
    exact ⟨_, ⟨dates, rfl⟩, rfl⟩

/-- Both tokens of a pair are set, each in a cookie of its own. -/
theorem setPair?_eq_some_iff : policy.setPair? pair now [] = some jar ↔
    (∀ kind, policy.CanDate kind now) ∧ jar = [policy.tokenCookie .access pair.access now,
      policy.tokenCookie .secret pair.secret now] := by
  have kinds : (∀ kind, policy.CanDate kind now) ↔
      policy.CanDate .access now ∧ policy.CanDate .secret now :=
    ⟨fun dates => ⟨dates .access, dates .secret⟩, fun dates kind => by
      cases kind
      · exact dates.1
      · exact dates.2⟩
  have added (first second : SetCookie) (other : first.name ≠ second.name) :
      CookieJar.add [first] second = [first, second] := by
    simp [CookieJar.add, other]
  have different : (policy.tokenCookie .access pair.access now).name ≠
      (policy.tokenCookie .secret pair.secret now).name := by
    have names : SetCookie.tokenName .access ≠ SetCookie.tokenName .secret := by decide
    exact names
  rw [setPair?, Option.bind_eq_bind, Option.bind_eq_some_iff, kinds]
  simp only [setAccess?_eq_some_iff, Option.bind_eq_bind, Option.bind_eq_some_iff,
    tokenCookie?_eq_some_iff]
  constructor
  · rintro ⟨_, ⟨dates, rfl⟩, _, ⟨dates', rfl⟩, made⟩
    exact ⟨⟨dates, dates'⟩, (added _ _ different ▸ Option.some.inj made).symm⟩
  · rintro ⟨⟨dates, dates'⟩, rfl⟩
    exact ⟨_, ⟨dates, rfl⟩, _, ⟨dates', rfl⟩, congrArg some (added _ _ different)⟩

/-- Cookies that take tokens away are empty. -/
theorem of_mem_clear? (cleared : policy.clear? now [] = some jar) (member : cookie ∈ jar) :
    cookie.value = "" := by
  have removal {kind : TokenKind} {cookie : SetCookie}
      (made : policy.removalCookie? kind now = some cookie) : cookie.value = "" := by
    rw [removalCookie?, cookie?] at made
    split at made
    · rw [← Option.some.inj made]
    · cases made
  rw [clear?, Option.bind_eq_bind, Option.bind_eq_some_iff] at cleared
  obtain ⟨access, made, rest⟩ := cleared
  obtain ⟨secret, made', rest⟩ := Option.bind_eq_some_iff.1 rest
  obtain rfl := Option.some.inj rest
  simp only [CookieJar.add, List.filter_nil, List.nil_append, List.mem_append, List.mem_filter,
    List.mem_singleton] at member
  rcases member with ⟨rfl, -⟩ | rfl
  · exact removal made
  · exact removal made'

end CookiePolicy

/-! ## Answers without cookies -/

section Plain

variable {service : Service} {state : State} {request : Request} {route : Route}

/-- Settling makes a report of a refusal and leaves everything else as it is. -/
theorem State.run_settle (service : Service) (state : State) (operation : Operation Response) :
    (state.run service (Gate.settle operation)).1 =
      Gate.settled (state.run service operation).1 := by
  rw [run, Gate.run_settle, Program.run_bind]
  rfl

/-- What is settled was given or is a report. -/
theorem Gate.of_settled {outcome : Except Failure Response} {response : Response}
    (ok : settled outcome = .ok response) :
    outcome = .ok response ∨ ∃ error, response = .ofError error := by
  rcases outcome with failure | given
  · cases failure with
    | refused error => exact .inr ⟨error, (Except.ok.inj ok).symm⟩
    | crashed => cases ok
    | unanswered => cases ok
  · exact .inl ok

/-- The clock shows the time of the state. -/
theorem State.now_of_clock {now : Int} (read : (state.run service clock).1 = .ok now) :
    state.now = now := by
  rw [(goes_clock state).run] at read
  exact Except.ok.inj read

variable (service state) in
/-- Accepting a token takes no time. -/
theorem State.now_accept (token : String) :
    (state.run service (Gate.accept service token)).2.now = state.now := by
  rw [(run_accept service state token).1]
  exact (Ends.run service (Service.ends_validate service state token .access).keepsUsers).2.now

variable (service state) in
/-- Renewing a token at the gate takes no time. -/
theorem State.now_renewal (headers : Headers) (claims : Claims) :
    (state.run service (Gate.renewal service headers claims)).2.now = state.now := by
  have ends : (Gate.renewal service headers claims).Ends Action.KeepsUsers state (fun _ => True)
      fun _ => True := Gate.ends_renewal service state headers claims fun _ => trivial
  exact (Ends.run service ends).2.now

/-- A handler sets no cookie unless it hands out or takes away tokens. -/
theorem Route.cookies_act {identity : Option Identity} {inner : Response}
    (other : route ∉ [login, refresh, logout] ∨ request.method ≠ "POST")
    (ok : (state.run service (route.act service request identity)).1 = .ok inner) :
    inner.cookies = [] := by
  rw [act] at ok
  split at ok
  · next allowed =>
    cases route with
    | register =>
      rw [handle, Handler.register, Handler.withBody] at ok
      split at ok
      · obtain ⟨_, -, rest⟩ := State.exists_ok_of_bind ok
        obtain ⟨_, -, rest⟩ := State.exists_ok_of_bind rest
        obtain rfl := Except.ok.inj rest
        rfl
      · next fault _ =>
        obtain rfl := Except.ok.inj ok
        cases fault <;> rfl
    | me =>
      cases identity with
      | some identity =>
        obtain rfl := Except.ok.inj ok
        rfl
      | none => cases ok
    | blacklistedTokens =>
      obtain ⟨_, -, rest⟩ := State.exists_ok_of_bind ok
      obtain rfl := Except.ok.inj rest
      rfl
    | whoami =>
      cases identity with
      | some identity =>
        obtain rfl := Except.ok.inj ok
        rfl
      | none =>
        obtain rfl := Except.ok.inj ok
        rfl
    | _ =>
      -- the routes that hand out or take away tokens answer to posts only
      rcases other with other | other
      · exact absurd (by decide) other
      · exact absurd (by simpa [Route.allowed] using allowed) other
  · obtain rfl := Except.ok.inj ok
    rfl

end Plain

/-! ## Renewals at the gate -/

/-- What is accepted is what was validated. -/
theorem Gate.of_accepted {outcome : Except Failure Claims} {claims : Claims}
    (ok : accepted outcome = .ok claims) : outcome = .ok claims := by
  rcases outcome with failure | given
  · cases failure with
    | refused error => cases ok
    | crashed => cases ok
    | unanswered => cases ok
  · exact ok

namespace Arrival

variable {arrival : Arrival}

/-- The gate has put an access token in the place of that of the request. -/
structure Replaces (arrival : Arrival) (token renewed secretToken : String)
    (access secret minted : Claims) : Prop where
  presented : Carrier.token? arrival.request.headers .access = some token
  /-- The access token of the request is good. -/
  decoded : arrival.service.codec.decodeAt token .access arrival.state.now = .ok access
  carried : Carrier.token? arrival.request.headers .secret = some secretToken
  /-- The new token is one for the secret token of the request. -/
  reissue : ∃ (passed : State) (log : List (Performed Action Action.Reply)) (user : User),
    passed.now = arrival.state.now ∧
      passed.Reissue arrival.service secretToken renewed log secret minted user
  session : secret.sid = access.sid

/-- The gate renews an access token for the secret token of the request, in the session of both. -/
theorem Renews.exists_replaces {renewed : String} (renews : arrival.Renews renewed) :
    ∃ token secretToken access secret minted,
      arrival.Replaces token renewed secretToken access secret minted := by
  obtain ⟨found, guarded, noPreflight, presented, accepted, allowed, renewal⟩ := renews
  next route policy token access passed =>
  have accepting := (State.run_accept arrival.service arrival.state token).1
  have validated := Gate.of_accepted
    ((congrArg Prod.fst accepting).symm.trans (congrArg Prod.fst accepted))
  have checks := (Service.ends_validate arrival.service arrival.state token .access).keepsUsers
  have time := State.now_accept arrival.service arrival.state token
  rw [accepted] at time
  obtain ⟨-, secretToken, carried, given⟩ := State.renewal_eq_some_iff.1 renewal
  obtain ⟨secret, minted, user, reissue⟩ :=
    (State.Reissues.gate arrival.request.headers access carried renewal).exists_reissue
  obtain ⟨secret', minted', renewing⟩ := State.renewsSession_of_renew given
  have ends := (Service.ends_validate arrival.service passed secretToken .secret).keepsUsers
  obtain rfl : secret = secret' := Except.ok.inj
    (reissue.decoded.symm.trans (State.Ends.of_ok ends renewing.accepted).1)
  exact ⟨token, secretToken, access, secret, minted, presented,
    (State.Ends.of_ok checks validated).1, carried, ⟨passed, _, user, time, reissue⟩,
    renewing.secretOf.1⟩

end Arrival

/-! ## The four ways -/

namespace Arrival

variable {arrival : Arrival} {route : Route} {response inner : Response}

/-- The ways in which the cookies of a response are set. -/
inductive Sets (arrival : Arrival) : CookieJar → Prop
  /-- No cookie is set. -/
  | nothing : Sets arrival []
  /-- A login hands out a pair. -/
  | pair {credentials : Credentials} {pair : TokenPair} {jar : CookieJar}
      (posts : arrival.Posts .login)
      (read : JsonBody.read Credentials.read arrival.request = .ok credentials)
      (loggedIn : arrival.result (arrival.service.login credentials) = .ok pair)
      (set : arrival.service.cookies.setPair? pair arrival.state.now [] = some jar) :
      Sets arrival jar
  /-- A refresh hands out an access token. -/
  | refreshed {secretToken access : String} {jar : CookieJar} (posts : arrival.Posts .refresh)
      (carried : arrival.request.secretToken? = some secretToken)
      (given : arrival.result (arrival.service.refresh secretToken) = .ok access)
      (set : arrival.service.cookies.setAccess? access arrival.state.now [] = some jar) :
      Sets arrival jar
  /-- A logout takes both cookies away. -/
  | cleared {jar : CookieJar} (posts : arrival.Posts .logout)
      (set : arrival.service.cookies.clear? arrival.state.now [] = some jar) : Sets arrival jar
  /-- The gate renews the access token of the request. -/
  | renewed {renewed : String} {jar : CookieJar} (renews : arrival.Renews renewed)
      (set : arrival.service.cookies.setAccess? renewed arrival.state.now [] = some jar) :
      Sets arrival jar

/-- A guarded route sets a cookie only for a renewed access token. -/
theorem sets_of_guarded {policy : Policy} (found : Route.ofPath? arrival.request.path = some route)
    (guarded : route.policy? = some policy) (noPreflight : arrival.request.method ≠ "OPTIONS")
    (served : arrival.result (route.serve arrival.service arrival.request) = .ok inner) :
    arrival.Sets inner.cookies := by
  have other : route ∉ [.login, .refresh, .logout] ∨ arrival.request.method ≠ "POST" := by
    refine .inl fun member => ?_
    simp only [List.mem_cons, List.not_mem_nil, or_false] at member
    rcases member with rfl | rfl | rfl <;> cases guarded
  have handled {state : State} {identity : Option Identity} {shown : Response}
      (ok : (state.run arrival.service (Gate.settle
        (route.act arrival.service arrival.request identity))).1 = .ok shown) :
      shown.cookies = [] := by
    rw [State.run_settle] at ok
    rcases Gate.of_settled ok with given | ⟨error, rfl⟩
    · exact Route.cookies_act other given
    · rfl
  cases carried : Carrier.token? arrival.request.headers .access with
  | none =>
    rw [result, Route.serve, guarded] at served
    dsimp only at served
    rw [Gate.enter_none arrival.service policy carried] at served
    split at served
    · exact handled served ▸ .nothing
    · cases served
  | some token =>
    rw [result, Route.serve_some arrival.service guarded carried] at served
    obtain ⟨claims, accepted, rest⟩ := State.exists_ok_of_bind served
    split at rest
    · next allowed =>
      obtain ⟨renewed?, renewal, rest⟩ := State.exists_ok_of_bind rest
      cases renewed? with
      | none => exact handled rest ▸ .nothing
      | some renewed =>
        obtain ⟨now, read, rest⟩ := State.exists_ok_of_bind rest
        obtain ⟨jar, set, rest⟩ := State.exists_ok_of_bind rest
        obtain ⟨shown, given, rest⟩ := State.exists_ok_of_bind rest
        obtain rfl := Except.ok.inj rest
        have time := State.now_of_clock read
        rw [State.now_renewal, State.now_accept] at time
        subst time
        rw [Gate.withRenewal, handled given, List.append_nil]
        exact .renewed (.intro found guarded noPreflight carried (Prod.ext accepted rfl) allowed
          renewal) (State.some_of_orCrash set)
    · cases rest

/-- A posted request to an unguarded route sets the cookies of what its handler hands out or takes
away. -/
theorem sets_of_posted (posts : arrival.Posts route) (unguarded : route.policy? = none)
    (served : arrival.result (route.serve arrival.service arrival.request) = .ok inner) :
    arrival.Sets inner.cookies := by
  have posted := posts.posted
  cases route with
  | register =>
    rw [result, Route.serve, unguarded] at served
    exact Route.cookies_act (.inl (by decide)) served ▸ .nothing
  | login =>
    cases read : JsonBody.read Credentials.read arrival.request with
    | error fault =>
      rw [result, Route.serve_login_fault posted read] at served
      obtain rfl := Except.ok.inj served
      have none : fault.response.cookies = [] := by cases fault <;> rfl
      exact none ▸ .nothing
    | ok credentials =>
      rw [result, Route.serve_login posted read] at served
      obtain ⟨pair, loggedIn, rest⟩ := State.exists_ok_of_bind served
      obtain ⟨now, clocked, rest⟩ := State.exists_ok_of_bind rest
      obtain ⟨jar, set, rest⟩ := State.exists_ok_of_bind rest
      obtain rfl := Except.ok.inj rest
      have time := State.now_of_clock clocked
      rw [(State.Ends.run arrival.service
        (Service.ends_login arrival.service arrival.state credentials)).2.now] at time
      subst time
      exact .pair posts read loggedIn (State.some_of_orCrash set)
  | refresh =>
    cases carried : arrival.request.secretToken? with
    | none =>
      rw [result, Route.serve_of_no_secretToken (.inl rfl) posted carried] at served
      cases served
    | some secretToken =>
      rw [result, Route.serve_refresh posted carried] at served
      obtain ⟨access, given, rest⟩ := State.exists_ok_of_bind served
      obtain ⟨now, clocked, rest⟩ := State.exists_ok_of_bind rest
      obtain ⟨jar, set, rest⟩ := State.exists_ok_of_bind rest
      obtain rfl := Except.ok.inj rest
      have time := State.now_of_clock clocked
      rw [(State.Ends.run arrival.service
        (Service.ends_refresh arrival.service arrival.state secretToken)).2.now] at time
      subst time
      exact .refreshed posts carried given (State.some_of_orCrash set)
  | logout =>
    cases carried : arrival.request.secretToken? with
    | none =>
      rw [result, Route.serve_of_no_secretToken (.inr rfl) posted carried] at served
      cases served
    | some secretToken =>
      rw [result, Route.serve_logout posted carried] at served
      obtain ⟨_, ended, rest⟩ := State.exists_ok_of_bind served
      obtain ⟨now, clocked, rest⟩ := State.exists_ok_of_bind rest
      obtain ⟨jar, set, rest⟩ := State.exists_ok_of_bind rest
      obtain rfl := Except.ok.inj rest
      have time := State.now_of_clock clocked
      rw [(State.Ends.run arrival.service (Service.ends_logout arrival.service arrival.state
        secretToken arrival.request.accessToken?)).2.now] at time
      subst time
      exact .cleared posts (State.some_of_orCrash set)
  | me => cases unguarded
  | blacklistedTokens => cases unguarded
  | whoami => cases unguarded

/-- **Every response sets its cookies in one of the four ways, or none.** -/
theorem sets_cookies (ok : arrival.outcome = .ok response) : arrival.Sets response.cookies := by
  by_cases preflight : arrival.request.method = "OPTIONS"
  · rw [outcome, Router.respond] at ok
    simp only [if_pos preflight] at ok
    obtain rfl := Except.ok.inj ok
    have none (route : Option Route) : (Router.preflight route).cookies = [] := by
      cases route <;> rfl
    exact none _ ▸ .nothing
  cases found : Route.ofPath? arrival.request.path with
  | none =>
    rw [outcome, Router.respond] at ok
    simp only [if_neg preflight, found, pure_bind] at ok
    split at ok
    · obtain rfl := Except.ok.inj ok
      exact .nothing
    · obtain rfl := Except.ok.inj ok
      exact .nothing
  | some route =>
    rw [outcome, (State.run_respond arrival.service arrival.state found preflight).1] at ok
    cases served : (arrival.state.run arrival.service
        (route.serve arrival.service arrival.request)).1 with
    | error failure =>
      rw [served] at ok
      cases failure with
      | refused error =>
        obtain rfl := Except.ok.inj ok
        rw [Router.cookies_finish]
        exact .nothing
      | crashed => cases ok
      | unanswered => cases ok
    | ok inner =>
      rw [served] at ok
      obtain rfl := Except.ok.inj ok
      rw [Router.cookies_finish]
      cases guard : route.policy? with
      | some policy => exact sets_of_guarded found guard preflight served
      | none =>
        by_cases posted : arrival.request.method = "POST"
        · exact sets_of_posted ⟨found, posted⟩ guard served
        · rw [Route.serve, guard] at served
          exact Route.cookies_act (.inr posted) served ▸ .nothing

end Arrival

end DualToken
