import DualToken.Proofs.Http.Arrival
import DualToken.Proofs.Http.Requests
import DualToken.Proofs.Service.Refusal

/-!
# What a refusal discloses

Two requests that are refused for one kind of cause get one and the same response, whatever the
causes were and however the states and the services differ (`Arrival.refused_alike`): a caller
cannot tell a forged token from a revoked one, a user who is gone from a store that hangs, one
storage error from another, or an unknown email from a wrong password. None of these responses sets
a cookie.

The argument is the classification of failures in `DualToken.Proofs.Service.Refusal`: every failure
that an operation can end with is one that is reported in the same way as all others of its kind.
-/

set_option autoImplicit false

namespace DualToken

open Operation

/-! ## Tokens of a request -/

/-- The access token that is presented with a request to log out. -/
def Request.accessToken? (request : Request) : Option String :=
  (Carrier.token? request.headers .access).or (TokenBody.ofRequest request).accessToken

namespace Route

variable {service : Service} {request : Request} {token : String}

/-- Logging in, when the body can be read. -/
theorem serve_login {credentials : Credentials} (posted : request.method = "POST")
    (read : JsonBody.read Credentials.read request = .ok credentials) :
    login.serve service request = (do
      let pair ← service.login credentials
      let now ← clock
      let jar ← orCrash (service.cookies.setPair? pair now [])
      return { Response.ofJson 200 pair.json with cookies := jar }) := by
  simp only [serve, policy?, act, allowed, posted, List.contains_cons, BEq.rfl, Bool.true_or,
    if_true, handle, Handler.login, Handler.withBody, read]

/-- Refreshing, when there is a secret token. -/
theorem serve_refresh (posted : request.method = "POST")
    (carried : request.secretToken? = some token) :
    refresh.serve service request = (do
      let access ← service.refresh token
      let now ← clock
      let jar ← orCrash (service.cookies.setAccess? access now [])
      return { Response.ofJson 200 (TokenPair.json ⟨access, token⟩) with cookies := jar }) := by
  rw [Request.secretToken?] at carried
  simp only [serve, policy?, act, allowed, posted, List.contains_cons, BEq.rfl, Bool.true_or,
    if_true, handle, Handler.refresh, Handler.secretToken, carried, pure_bind]

/-- Logging out, when there is a secret token. -/
theorem serve_logout (posted : request.method = "POST")
    (carried : request.secretToken? = some token) :
    logout.serve service request = (do
      service.logout token request.accessToken?
      let now ← clock
      let jar ← orCrash (service.cookies.clear? now [])
      return { status := 204, cookies := jar }) := by
  rw [Request.secretToken?] at carried
  simp only [serve, policy?, act, allowed, posted, List.contains_cons, BEq.rfl, Bool.true_or,
    if_true, handle, Handler.logout, Handler.secretToken, carried, pure_bind]
  rfl

/-- Without a secret token there is nothing to refresh or to log out. -/
theorem serve_of_no_secretToken {route : Route} (uses : route = refresh ∨ route = logout)
    (posted : request.method = "POST") (none : request.secretToken? = none) :
    route.serve service request = refuse .unauthenticated := by
  rw [Request.secretToken?] at none
  rcases uses with rfl | rfl
  · simp only [serve, policy?, act, allowed, posted, List.contains_cons, BEq.rfl, Bool.true_or,
      if_true, handle, Handler.refresh, Handler.secretToken, none]
    rfl
  · simp only [serve, policy?, act, allowed, posted, List.contains_cons, BEq.rfl, Bool.true_or,
      if_true, handle, Handler.logout, Handler.secretToken, none]
    rfl

end Route

/-! ## Reports -/

/-- All errors of tokens are reported alike. -/
theorem AuthError.RefusesToken.ofError {error : AuthError} (refuses : error.RefusesToken) :
    Response.ofError error = Response.ofError .unauthenticated := by
  cases refuses <;> rfl

/-- A kind of cause for which a request is refused. -/
inductive Refusal where
  /-- The access token that a request to a guarded route presents. -/
  | accessToken (route : Route) (method : String)
  /-- The secret token of a request to refresh or to log out. -/
  | secretToken
  /-- A store, at a request to log in, to refresh or to log out. -/
  | storage
  /-- The credentials of a request to log in. -/
  | credentials

namespace Refusal

/-- The status of the response. -/
def status : Refusal → Nat
  | storage => 500
  | _ => 401

/-- The response to all requests that are refused for one kind of cause. -/
def response : Refusal → Response
  | accessToken route method => Router.reported method route .unauthenticated
  | secretToken => Router.reported "POST" .refresh .unauthenticated
  | storage => Router.reported "POST" .refresh (.storage "")
  | credentials => Router.reported "POST" .login .invalidCredentials

theorem status_response (refusal : Refusal) : refusal.response.status = refusal.status := by
  cases refusal <;> exact Router.status_finish _ _ _

theorem cookies_response (refusal : Refusal) : refusal.response.cookies = [] := by
  cases refusal <;> exact Router.cookies_finish _ _ _

end Refusal

/-! ## Causes -/

namespace Arrival

/-- The request is posted to a route. -/
structure Posts (arrival : Arrival) (route : Route) : Prop where
  found : Route.ofPath? arrival.request.path = some route
  posted : arrival.request.method = "POST"

/-- What is posted does not ask what is allowed. -/
theorem Posts.noPreflight {arrival : Arrival} {route : Route} (posts : arrival.Posts route) :
    arrival.request.method ≠ "OPTIONS" :=
  posts.posted ▸ by decide

/-- The request is one to refresh or to log out, and this fails. -/
inductive Fails (arrival : Arrival) (failure : Failure) : Prop
  | refresh {token : String} (posts : arrival.Posts .refresh)
      (carried : arrival.request.secretToken? = some token)
      (failed : arrival.result (arrival.service.refresh token) = .error failure)
  /-- Logging out fails. -/
  | logout {token : String} (posts : arrival.Posts .logout)
      (carried : arrival.request.secretToken? = some token)
      (failed : arrival.result (arrival.service.logout token arrival.request.accessToken?) =
        .error failure)

/-- The request is refused for a kind of cause. -/
inductive IsRefused (arrival : Arrival) : Refusal → Prop
  /-- A guarded route is asked with an access token that does not validate, for whatever
  reason. -/
  | accessToken {route : Route} {policy : Policy} {token : String}
      (found : Route.ofPath? arrival.request.path = some route)
      (guarded : route.policy? = some policy) (noPreflight : arrival.request.method ≠ "OPTIONS")
      (carried : Carrier.token? arrival.request.headers .access = some token)
      (invalid : ∀ claims, arrival.result (arrival.service.validate token .access) ≠ .ok claims) :
      IsRefused arrival (.accessToken route arrival.request.method)
  /-- A request to refresh or to log out has no secret token. -/
  | noSecretToken {route : Route} (posts : arrival.Posts route)
      (uses : route = .refresh ∨ route = .logout) (none : arrival.request.secretToken? = none) :
      IsRefused arrival .secretToken
  /-- It has a secret token that is refused, and not for storage. -/
  | secretToken {error : AuthError} (fails : arrival.Fails (.refused error))
      (noStorage : ∀ detail, error ≠ .storage detail) : IsRefused arrival .secretToken
  | storage {detail : String} (fails : arrival.Fails (.refused (.storage detail))) :
      IsRefused arrival .storage
  /-- A store fails at a request to log in. -/
  | loginStorage {credentials : Credentials} {detail : String} (posts : arrival.Posts .login)
      (read : JsonBody.read Credentials.read arrival.request = .ok credentials)
      (failed : arrival.result (arrival.service.login credentials) =
        .error (.refused (.storage detail))) :
      IsRefused arrival .storage
  /-- The credentials are those of no user, be it for the email or for the password, and that is
  found out. -/
  | credentials {credentials : Credentials} (posts : arrival.Posts .login)
      (read : JsonBody.read Credentials.read arrival.request = .ok credentials)
      (foreign : ∀ user, ¬ Service.AreOf credentials user arrival.state.directory)
      (noStorage : ∀ detail, arrival.result (arrival.service.login credentials) ≠
        .error (.refused (.storage detail))) :
      IsRefused arrival .credentials

variable {arrival first second : Arrival} {refusal : Refusal}

theorem Posts.outcome {route : Route} (posts : arrival.Posts route) {error : AuthError}
    (refused : arrival.result (route.serve arrival.service arrival.request) =
      .error (.refused error)) :
    arrival.outcome = .ok (Router.reported "POST" route error) := by
  obtain ⟨found, posted⟩ := posts
  rw [← posted]
  refine outcome_of_refused found ?_ refused
  rw [posted]
  decide

/-- A request to refresh or to log out that fails is answered with a report, and its failure is one
of minting. -/
theorem Fails.outcome {error : AuthError} (fails : arrival.Fails (.refused error)) :
    arrival.outcome = .ok (Router.reported "POST" .refresh error) ∧
      Failure.IsOfMinting (.refused error) := by
  cases fails with
  | refresh posts carried failed =>
    refine ⟨posts.outcome ?_, State.Ends.of_error (Service.ends_refresh _ _ _) failed⟩
    rw [Route.serve_refresh posts.posted carried]
    exact result_bind failed _
  | logout posts carried failed =>
    refine ⟨posts.outcome ?_, .inl (State.Ends.of_error (Service.ends_logout _ _ _ _) failed)⟩
    rw [Route.serve_logout posts.posted carried]
    exact result_bind failed _

/-- Foreign credentials are refused as such, unless a store fails. -/
theorem result_login {credentials : Credentials}
    (foreign : ∀ user, ¬ Service.AreOf credentials user arrival.state.directory)
    (noStorage : ∀ detail, arrival.result (arrival.service.login credentials) ≠
      .error (.refused (.storage detail))) :
    arrival.result (arrival.service.login credentials) = .error (.refused .invalidCredentials) := by
  have kind := (Service.ends_authenticate arrival.state credentials).keepsUsers
  rw [Service.login_eq] at noStorage ⊢
  cases authenticated : arrival.result (Service.authenticate credentials) with
  | ok user => exact absurd (State.Ends.of_ok kind authenticated) (foreign user)
  | error failure =>
    have failed := result_bind authenticated arrival.service.issuePair
    obtain rfl | ⟨detail, rfl⟩ := State.Ends.of_error kind authenticated
    · exact failed
    · exact absurd failed (noStorage detail)

/-- A request that is refused gets the response to all requests that are refused for the same kind
of cause. -/
theorem IsRefused.outcome (refused : arrival.IsRefused refusal) :
    arrival.outcome = .ok refusal.response := by
  cases refused with
  | @accessToken route policy token found guarded noPreflight carried invalid =>
    have kind := (Service.ends_validate arrival.service arrival.state token .access).keepsUsers
    cases validated : arrival.result (arrival.service.validate token .access) with
    | ok claims => exact absurd validated (invalid claims)
    | error failure =>
      obtain ⟨error, rfl, shown⟩ := (State.Ends.of_error kind validated).atGate
      have entered := (Gate.enter_refused policy carried
        (route.act arrival.service arrival.request) validated).1
      refine outcome_of_refused found noPreflight ?_
      rw [result, Route.serve, guarded, ← shown]
      exact congrArg Prod.fst entered
  | @noSecretToken route posts uses none =>
    have refuses : arrival.result (route.serve arrival.service arrival.request) =
        .error (.refused .unauthenticated) := by
      rw [Route.serve_of_no_secretToken uses posts.posted none]
      rfl
    have same := posts.outcome refuses
    rcases uses with rfl | rfl
    · exact same
    · exact same
  | @secretToken error fails noStorage =>
    obtain ⟨reported, kind⟩ := fails.outcome
    obtain (⟨error, refuses, ⟨⟩⟩ | ⟨detail, ⟨⟩⟩) | broken := kind
    · rw [reported, Router.reported, refuses.ofError]
      rfl
    · exact absurd rfl (noStorage detail)
    · exact absurd broken (by simp)
  | storage fails => exact fails.outcome.1
  | @loginStorage credentials detail posts read failed =>
    have refuses : arrival.result (Route.login.serve arrival.service arrival.request) =
        .error (.refused (.storage detail)) := by
      rw [Route.serve_login posts.posted read]
      exact result_bind failed _
    have reported := posts.outcome refuses
    exact reported
  | credentials posts read foreign noStorage =>
    refine posts.outcome ?_
    rw [Route.serve_login posts.posted read]
    exact result_bind (result_login foreign noStorage) _

/-- **Requests that are refused for one kind of cause get one and the same response**, which sets no
cookie: the service, the state and the cause in detail leave no trace in it. -/
theorem refused_alike (refused : first.IsRefused refusal) (refused' : second.IsRefused refusal) :
    first.outcome = second.outcome ∧ first.outcome = .ok refusal.response ∧
      refusal.response.status = refusal.status ∧ refusal.response.cookies = [] := by
  have same := refused.outcome
  exact ⟨same.trans refused'.outcome.symm, same, refusal.status_response,
    refusal.cookies_response⟩

/-- A token that is recorded as revoked and one that a store gives no answer about are refused
alike. -/
theorem revoked_like_unanswered :
    let service : Service := ⟨⟨[1], [2]⟩, 900, 86400, 300, ⟨true, 900, 86400⟩, .table, 4⟩
    let request : UInt8 → Request := fun token =>
      { method := "GET", target := "/api/v1/me", headers := [("Authorization", [token])] }
    let revoked : Arrival :=
      ⟨service, State.after service [.record "a"] { now := 0 }, request 0x61⟩
    let unanswered : Arrival :=
      ⟨service, { now := 0, revocationPlan := [.hang, .fail] }, request 0x62⟩
    revoked.IsRefused (.accessToken .me "GET") ∧ unanswered.IsRefused (.accessToken .me "GET") ∧
      revoked.outcome = unanswered.outcome := by
  intro service request revoked unanswered
  have recorded : revoked.result (service.validate "a" .access) =
      .error (.refused .blacklisted) := rfl
  have silent : unanswered.result (service.validate "b" .access) =
      .error (.refused State.incidentError) := rfl
  have found : Route.ofPath? (request 0x61).path = some .me := by decide
  have guarded : Route.me.policy? = some .user := rfl
  have carried : Carrier.token? (request 0x61).headers .access = some "a" := by decide +kernel
  have carried' : Carrier.token? (request 0x62).headers .access = some "b" := by decide +kernel
  have refused : revoked.IsRefused (.accessToken .me "GET") := by
    refine .accessToken found guarded (by decide) carried fun claims ok => ?_
    exact absurd (recorded.symm.trans ok) (by simp)
  have refused' : unanswered.IsRefused (.accessToken .me "GET") := by
    refine .accessToken found guarded (by decide) carried' fun claims ok => ?_
    exact absurd (silent.symm.trans ok) (by simp)
  exact ⟨refused, refused', (refused_alike refused refused').1⟩

end Arrival

end DualToken
