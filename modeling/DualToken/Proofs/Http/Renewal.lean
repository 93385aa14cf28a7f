import DualToken.Proofs.Http.Handover
import DualToken.Proofs.Http.Removal

/-!
# Renewal on the way

A caller who asks for the user behind a token, and whose access token is about to expire, is given
a new one on the way. The new token shows in two places of the response, a header and a cookie;
both come from the one outcome of the renewal (`Arrival.IsAccepted.outcome_of_some`), so there is
never one without the other.

A renewal that is not due, or that fails, does not show. Neither handler does anything with the
stores, so the calls that the renewal has made have no effect on what is answered, and the response
is that to the same request without its secret token (`Arrival.renewed_exactly_when_due`).
-/

set_option autoImplicit false

namespace DualToken

open Operation

/-! ## The window -/

/-- The time that is left of a token fits a signed word, if time has begun. -/
theorem Claims.toInt_left {claims : Claims} {now : Int} (begun : 0 ≤ now)
    (running : now < claims.exp.toInt) :
    (claims.exp - Int64.ofInt now).toInt = claims.exp.toInt - now := by
  have latest := claims.exp.toInt_lt
  have fits : (Int64.ofInt now).toInt = now := Int64.toInt_ofInt_of_le (by omega) (by omega)
  rw [Int64.toInt_sub, fits]
  exact Int.bmod_eq_of_le (by omega) (by omega)

/-- A word without the sign bit is the number that it is. -/
theorem signedSeconds_of_lt {word : UInt64} (small : word.toNat < 2 ^ 63) :
    signedSeconds word = word.toNat := by
  rw [signedSeconds, Int64.toInt, UInt64.toBitVec_toInt64, BitVec.toInt_eq_toNat_bmod,
    UInt64.toNat_toBitVec]
  exact Int.bmod_eq_of_le (by omega) (by omega)

/-- A word with the sign bit is a number below zero. -/
theorem signedSeconds_of_le {word : UInt64} (large : 2 ^ 63 ≤ word.toNat) :
    signedSeconds word = word.toNat - UInt64.size := by
  have below := word.toNat_lt
  rw [signedSeconds, Int64.toInt, UInt64.toBitVec_toInt64, BitVec.toInt_eq_toNat_bmod,
    UInt64.toNat_toBitVec, Int.bmod_def, UInt64.size]
  omega

/-! ## Handlers that show the user -/

/-- The response has nothing that a renewal adds. -/
structure Response.IsPlain (response : Response) : Prop where
  headers : ∀ header ∈ response.headers, header.1 ≠ Gate.renewalHeader
  cookies : response.cookies = []

/-- **What a caller is shown depends on the method and on the caller**, and on nothing that is
stored. -/
theorem Route.exists_act {route : Route} (shows : route = .me ∨ route = .whoami) (service : Service)
    (request : Request) (identity : Identity) :
    ∃ plain : Response, plain.IsPlain ∧ ∀ headers,
      route.act service { request with headers } (some identity) = pure plain := by
  have shown (value : Json.Value) : (Response.ofJson 200 value).IsPlain := by
    refine ⟨fun header member => ?_, rfl⟩
    rw [List.mem_singleton.1 member]
    decide
  by_cases allowed : route.allowed.contains request.method
  · rcases shows with rfl | rfl
    · exact ⟨_, shown _, fun headers => if_pos allowed⟩
    · exact ⟨_, shown _, fun headers => if_pos allowed⟩
  · exact ⟨{ status := 405 }, ⟨nofun, rfl⟩, fun headers => if_neg allowed⟩

/-! ## Renewals -/

namespace State

variable {service : Service} {state : State} {headers : Headers} {claims : Claims}

/-- Without a secret token nothing is renewed. -/
theorem renewal_of_none (none : Carrier.token? headers .secret = Option.none) :
    state.run service (Gate.renewal service headers claims) = (.ok Option.none, state) := by
  rw [Gate.renewal, none, ((goes_clock state).run_bind _).1]
  split
  · rfl
  · rfl

/-- **A renewal gives a token exactly if it is due**, a secret token is carried, and renewing with
it gives the token. -/
theorem renewal_eq_some_iff {renewed : String} :
    (state.run service (Gate.renewal service headers claims)).1 = .ok (some renewed) ↔
      Gate.isExpiring service claims state.now = true ∧ ∃ secretToken,
        Carrier.token? headers .secret = some secretToken ∧
          (state.run service (service.renew claims secretToken)).1 = .ok renewed := by
  constructor
  · intro ok
    cases carried : Carrier.token? headers .secret with
    | none =>
      rw [renewal_of_none carried] at ok
      exact absurd (Except.ok.inj ok).symm (Option.some_ne_none renewed)
    | some secretToken =>
      refine ⟨?_, secretToken, rfl, (renewed_of_renewal carried ok).1⟩
      rw [Gate.renewal, carried, ((goes_clock state).run_bind _).1] at ok
      split at ok
      · next due => exact due
      · exact absurd (Except.ok.inj ok).symm (Option.some_ne_none renewed)
  · rintro ⟨due, secretToken, carried, ok⟩
    have attempted : (state.run service (attempt (service.renew claims secretToken))).1 =
        .ok (.ok renewed) := by
      rw [run_attempt_eq, ok]
      rfl
    rw [Gate.renewal, carried, ((goes_clock state).run_bind _).1, if_pos due]
    dsimp only
    rw [(run_bind_ok attempted _).1]
    rfl

/-- What is renewed for an access token belongs to its session: the secret token is accepted, and it
and the new token are of the session and of the user that the claims of the access token name. -/
structure RenewsSession (service : Service) (state : State) (claims : Claims)
    (secretToken renewed : String) (secret minted : Claims) : Prop where
  accepted : (state.run service (service.validate secretToken .secret)).1 = .ok secret
  secretOf : secret.sid = claims.sid ∧ secret.sub = claims.sub
  issued : renewed = service.codec.issue minted
  kind : minted.kind = .access
  mintedOf : minted.sid = claims.sid ∧ minted.sub = claims.sub

/-- **Renewing takes a secret token of the session and gives an access token of the session.** -/
theorem renewsSession_of_renew {secretToken renewed : String}
    (ok : (state.run service (service.renew claims secretToken)).1 = .ok renewed) :
    ∃ secret minted, state.RenewsSession service claims secretToken renewed secret minted := by
  obtain ⟨secret', minted, user, reissue⟩ := (Reissues.renew claims ok).exists_reissue
  obtain ⟨secret, accepted, rest⟩ := exists_ok_of_bind ok
  have ends := (Service.ends_validate service state secretToken .secret).keepsUsers
  obtain rfl : secret = secret' :=
    Except.ok.inj ((Ends.of_ok ends accepted).1.symm.trans reissue.decoded)
  have same : secret.sid = claims.sid ∧ secret.sub = claims.sub := by
    by_contra other
    rw [if_neg other] at rest
    exact absurd rest nofun
  have user : minted.sub = secret.sub := congrArg Identity.userId reissue.identity
  exact ⟨secret, minted, accepted, same, reissue.issued, reissue.kind,
    reissue.session.trans same.1, user.trans same.2⟩

end State

/-! ## Responses -/

namespace Response

/-- The tokens in the header that repeats a renewed token. -/
def renewedTokens (response : Response) : List String :=
  (response.headers.filter (·.1 = Gate.renewalHeader)).map Prod.snd

/-- The access tokens that are set as cookies. -/
def accessCookies (response : Response) : List String :=
  (response.cookies.filter (·.name = SetCookie.tokenName .access)).map (·.value)

variable {response plain : Response}

theorem IsPlain.renewedTokens_eq (isPlain : plain.IsPlain) : plain.renewedTokens = [] := by
  rw [renewedTokens, List.filter_eq_nil_iff.2 fun header member => ?_, List.map_nil]
  exact fun named => isPlain.headers header member (of_decide_eq_true named)

theorem IsPlain.accessCookies_eq (isPlain : plain.IsPlain) : plain.accessCookies = [] := by
  rw [accessCookies, isPlain.cookies]
  rfl

/-- Finishing a response repeats no token. -/
theorem renewedTokens_finish (method : String) (route : Route) :
    (Router.finish method route response).renewedTokens = response.renewedTokens := by
  have common : Router.commonHeaders.filter (·.1 = Gate.renewalHeader) = [] := by decide
  have allow : (if route.allowed.contains method then []
      else [("allow", String.intercalate "," route.allowed)]).filter
        (·.1 = Gate.renewalHeader) = [] := by
    rw [List.filter_eq_nil_iff]
    intro header member
    split at member
    · exact absurd member List.not_mem_nil
    · rw [List.mem_singleton.1 member]
      exact fun same => absurd (of_decide_eq_true same) (by decide : "allow" ≠ Gate.renewalHeader)
  rw [renewedTokens, Router.headers_finish, List.filter_append, List.filter_append, common, allow,
    List.nil_append, List.append_nil, renewedTokens]

theorem accessCookies_finish (method : String) (route : Route) :
    (Router.finish method route response).accessCookies = response.accessCookies := by
  rw [accessCookies, Router.cookies_finish, accessCookies]

/-- Responses with one body have one body when they are finished. -/
theorem body_finish_congr (method : String) (route : Route) (same : response.body = plain.body) :
    (Router.finish method route response).body = (Router.finish method route plain).body := by
  by_cases whole : method = "HEAD"
  · subst whole
    rfl
  · rw [Router.body_finish whole, Router.body_finish whole, same]

variable {policy : CookiePolicy} {renewed : String} {now : Int} {jar : CookieJar}

/-- **A renewed token is repeated in a header and set as a cookie.** -/
theorem IsPlain.withRenewal (isPlain : plain.IsPlain) (isValue : Headers.isValue renewed = true)
    (set : policy.setAccess? renewed now [] = some jar) :
    (Gate.withRenewal renewed jar plain).renewedTokens = [renewed] ∧
      (Gate.withRenewal renewed jar plain).accessCookies = [renewed] := by
  have headers : (Gate.withRenewal renewed jar plain).headers =
      plain.headers ++ [(Gate.renewalHeader, renewed)] := if_pos isValue
  have none := isPlain.renewedTokens_eq
  refine ⟨?_, ?_⟩
  · rw [renewedTokens] at none ⊢
    rw [headers, List.filter_append, List.map_append, none]
    rfl
  · obtain ⟨cookie, rfl, pair⟩ := List.map_eq_singleton_iff.1 (CookiePolicy.setAccess?_eq_some set)
    obtain ⟨name, value⟩ := Prod.mk.inj pair
    have cookies : (Gate.withRenewal renewed [cookie] plain).cookies = [cookie] := by
      rw [Gate.withRenewal, isPlain.cookies, List.append_nil]
    rw [accessCookies, cookies]
    simp [name, value]

end Response

/-! ## Requests behind the gate -/

/-- The request without its secret token. -/
def Request.withoutSecret (request : Request) : Request :=
  { request with headers := request.headers.without .secret }

namespace Arrival

/-- The arrival of the request without its secret token, in the same state. -/
def withoutSecret (arrival : Arrival) : Arrival :=
  { arrival with request := arrival.request.withoutSecret }

/-- The state behind the check of an access token. -/
def passed (arrival : Arrival) (token : String) : State :=
  (arrival.state.run arrival.service (arrival.service.validate token .access)).2

/-- The access token of a request for the user behind it is accepted. -/
structure IsAccepted (arrival : Arrival) (route : Route) (token : String) (claims : Claims) :
    Prop where
  found : Route.ofPath? arrival.request.path = some route
  shows : route = .me ∨ route = .whoami
  /-- A request that asks what is allowed is answered without the gate. -/
  noPreflight : arrival.request.method ≠ "OPTIONS"
  carried : Carrier.token? arrival.request.headers .access = some token
  accepted : arrival.result (arrival.service.validate token .access) = .ok claims

/-- The access token has no more time left than the window, a secret token is carried, and renewing
with it gives a token. -/
structure IsDue (arrival : Arrival) (token : String) (claims : Claims) (window : UInt64)
    (secretToken renewed : String) : Prop where
  close : claims.exp.toInt - arrival.state.now ≤ window.toNat
  carried : Carrier.token? arrival.request.headers .secret = some secretToken
  given : ((arrival.passed token).run arrival.service
    (arrival.service.renew claims secretToken)).1 = .ok renewed

namespace IsAccepted

variable {arrival : Arrival} {route : Route} {token : String} {claims : Claims}

theorem withoutSecret (accepts : arrival.IsAccepted route token claims) :
    arrival.withoutSecret.IsAccepted route token claims where
  found := accepts.found
  shows := accepts.shows
  noPreflight := accepts.noPreflight
  carried := (Carrier.token?_without .secret .access arrival.request.headers).trans accepts.carried
  accepted := accepts.accepted

/-- Checking the access token takes no time, and it is not over. -/
theorem running (accepts : arrival.IsAccepted route token claims) :
    (arrival.passed token).now = arrival.state.now ∧ arrival.state.now < claims.exp.toInt := by
  have ends := (Service.ends_validate arrival.service arrival.state token .access).keepsUsers
  obtain ⟨-, -, running⟩ := Codec.decodeAt_eq_ok_iff.1 (State.Ends.of_ok ends accepts.accepted).1
  exact ⟨(State.Ends.run arrival.service ends).2.1, running⟩

/-- The routes for the user behind a token let every accepted caller through. -/
theorem exists_policy (accepts : arrival.IsAccepted route token claims) :
    ∃ policy, route.policy? = some policy ∧ policy.allows claims.role = true := by
  rcases accepts.shows with rfl | rfl
  · exact ⟨.user, rfl, rfl⟩
  · exact ⟨.anyone, rfl, rfl⟩

/-- Behind the gate the caller is served. -/
theorem outcome_eq (accepts : arrival.IsAccepted route token claims) :
    arrival.outcome = (Gate.settled ((arrival.passed token).run arrival.service
      (Gate.serve arrival.service arrival.request.headers claims
        (route.act arrival.service arrival.request))).1).map
      (Router.finish arrival.request.method route) := by
  obtain ⟨policy, guarded, allowed⟩ := accepts.exists_policy
  have accepting := (State.run_accept arrival.service arrival.state token).1
  have accepted : (arrival.state.run arrival.service
      (arrival.service.validate token .access)).1 = .ok claims := accepts.accepted
  rw [accepted, Gate.accepted] at accepting
  rw [outcome, (State.run_respond arrival.service arrival.state accepts.found
      accepts.noPreflight).1, Route.serve_some arrival.service guarded accepts.carried,
    (State.run_bind_ok (congrArg Prod.fst accepting) _).1, if_pos allowed, accepting]
  rfl

/-- **No failure of a renewal shows**, unless it is a crash. -/
theorem exists_renewal (accepts : arrival.IsAccepted route token claims)
    (noCrash : arrival.outcome ≠ .error .crashed) :
    ∃ renewed, ((arrival.passed token).run arrival.service
      (Gate.renewal arrival.service arrival.request.headers claims)).1 = .ok renewed := by
  cases renewal : ((arrival.passed token).run arrival.service
      (Gate.renewal arrival.service arrival.request.headers claims)).1 with
  | ok renewed => exact ⟨renewed, rfl⟩
  | error failure =>
    have ends := Gate.ends_renewal arrival.service (arrival.passed token) arrival.request.headers
      claims fun _ => Eq.refl Failure.crashed
    obtain rfl := State.Ends.of_error ends renewal
    rw [accepts.outcome_eq, Gate.serve, (State.run_bind_error renewal _).1] at noCrash
    exact absurd rfl noCrash

variable {plain : Response}

/-- A response without a renewal is what the caller is shown. -/
theorem outcome_of_none (accepts : arrival.IsAccepted route token claims)
    (acts : route.act arrival.service arrival.request (some (Identity.ofClaims claims)) =
      pure plain)
    (renewal : ((arrival.passed token).run arrival.service
      (Gate.renewal arrival.service arrival.request.headers claims)).1 = .ok none) :
    arrival.outcome = .ok (Router.finish arrival.request.method route plain) := by
  rw [accepts.outcome_eq, Gate.serve, (State.run_bind_ok renewal _).1, acts]
  rfl

/-- A response with a renewal is what the caller is shown, with the new token in both places, unless
the cookie cannot be made. -/
theorem outcome_of_some (accepts : arrival.IsAccepted route token claims)
    (acts : route.act arrival.service arrival.request (some (Identity.ofClaims claims)) =
      pure plain)
    {renewed : String} (renewal : ((arrival.passed token).run arrival.service
      (Gate.renewal arrival.service arrival.request.headers claims)).1 = .ok (some renewed)) :
    arrival.outcome = (arrival.service.cookies.setAccess? renewed arrival.state.now []).elim
      (.error .crashed) fun jar => .ok (Router.finish arrival.request.method route
        (Gate.withRenewal renewed jar plain)) := by
  have ends : (Gate.renewal arrival.service arrival.request.headers claims).Ends Action.KeepsUsers
      (arrival.passed token) (fun _ => True) fun _ => True :=
    Gate.ends_renewal arrival.service (arrival.passed token) arrival.request.headers claims
      fun _ => trivial
  have now := (State.Ends.run arrival.service ends).2.now.trans accepts.running.1
  rw [accepts.outcome_eq, Gate.serve, (State.run_bind_ok renewal _).1]
  dsimp only
  rw [((State.goes_clock _).run_bind _).1, now, acts]
  cases arrival.service.cookies.setAccess? renewed arrival.state.now [] with
  | none => rfl
  | some jar => rfl

/-- **Nothing crashes as long as the times can be reckoned**: that at which a token from now would
end, and the dates of its cookie. -/
theorem outcome_ne_crashed (accepts : arrival.IsAccepted route token claims)
    (within : Time.add? arrival.state.now arrival.service.accessLifetime ≠ none)
    (dates : HttpDate.IsWritable arrival.state.now ∧
      HttpDate.IsWritable (arrival.state.now + arrival.service.cookies.lifetime .access)) :
    arrival.outcome ≠ .error .crashed := by
  obtain ⟨plain, -, acts⟩ := Route.exists_act accepts.shows arrival.service arrival.request
    (Identity.ofClaims claims)
  have ends : (Gate.renewal arrival.service arrival.request.headers claims).Ends Action.KeepsUsers
      (arrival.passed token) (fun _ => True) fun _ => False :=
    Gate.ends_renewal arrival.service (arrival.passed token) arrival.request.headers claims
      fun beyond => within (accepts.running.1 ▸ beyond)
  cases renewal : ((arrival.passed token).run arrival.service
      (Gate.renewal arrival.service arrival.request.headers claims)).1 with
  | error failure => exact (State.Ends.of_error ends renewal).elim
  | ok renewed? =>
    cases renewed? with
    | none =>
      rw [accepts.outcome_of_none (acts _) renewal]
      exact nofun
    | some renewed =>
      obtain ⟨jar, set⟩ := CookiePolicy.exists_setAccess? arrival.service.cookies renewed dates
      rw [accepts.outcome_of_some (acts _) renewal, set]
      exact nofun

/-- Without a secret token, what the caller is shown is all there is to the response. -/
theorem outcome_withoutSecret (accepts : arrival.IsAccepted route token claims)
    (acts : route.act arrival.service arrival.request.withoutSecret
      (some (Identity.ofClaims claims)) = pure plain) :
    arrival.withoutSecret.outcome =
      .ok (Router.finish arrival.request.method route plain) := by
  refine accepts.withoutSecret.outcome_of_none acts ?_
  have none : Carrier.token? arrival.withoutSecret.request.headers .secret = Option.none :=
    Carrier.token?_without .secret .secret arrival.request.headers
  rw [State.renewal_of_none none]

/-- **The renewal gives a token exactly if it is due.** -/
theorem renewal_eq_some_iff (accepts : arrival.IsAccepted route token claims)
    (begun : 0 ≤ arrival.state.now) {window : UInt64} (small : window.toNat < 2 ^ 63)
    (set : arrival.service.renewalWindow = signedSeconds window) {renewed : String} :
    ((arrival.passed token).run arrival.service
        (Gate.renewal arrival.service arrival.request.headers claims)).1 = .ok (some renewed) ↔
      ∃ secretToken, arrival.IsDue token claims window secretToken renewed := by
  obtain ⟨now, running⟩ := accepts.running
  have close : Gate.isExpiring arrival.service claims (arrival.passed token).now = true ↔
      claims.exp.toInt - arrival.state.now ≤ window.toNat := by
    rw [Gate.isExpiring, now, Claims.toInt_left begun running, set, signedSeconds_of_lt small,
      decide_eq_true_iff]
  rw [State.renewal_eq_some_iff, close]
  constructor
  · rintro ⟨close, secretToken, carried, given⟩
    exact ⟨secretToken, close, carried, given⟩
  · rintro ⟨secretToken, close, carried, given⟩
    exact ⟨close, secretToken, carried, given⟩

end IsAccepted

/-- **An access token is renewed exactly when that is due, and otherwise nothing shows.** A request
for the user behind an access token that is accepted meets any state, with any failures planned, and
nothing crashes because a time cannot be reckoned (`IsAccepted.outcome_ne_crashed`). Then the time
that is left of the token is what the signed words say. The request is answered, with the status and
the body that the request without its secret token is answered with, and the tokens in the header
and in the cookies are the same, at most one. They are the token that renewing gives if no more time
is left than the window, and a secret token is carried, and renewing with it succeeds; that takes a
secret token of the same session and user, and gives an access token of them. In every other case
the response is that to the request without its secret token. -/
theorem renewed_exactly_when_due {arrival : Arrival} {route : Route} {token : String}
    {claims : Claims} (accepts : arrival.IsAccepted route token claims)
    (begun : 0 ≤ arrival.state.now) {window : UInt64} (small : window.toNat < 2 ^ 63)
    (set : arrival.service.renewalWindow = signedSeconds window)
    (noCrash : arrival.outcome ≠ .error .crashed) :
    (claims.exp - Int64.ofInt arrival.state.now).toInt = claims.exp.toInt - arrival.state.now ∧
      ∃ response plain, arrival.outcome = .ok response ∧
        arrival.withoutSecret.outcome = .ok plain ∧
        response.status = plain.status ∧ response.body = plain.body ∧
        response.accessCookies = response.renewedTokens ∧ response.renewedTokens.length ≤ 1 ∧
        (∀ renewed, renewed ∈ response.renewedTokens ↔
          ∃ secretToken, arrival.IsDue token claims window secretToken renewed) ∧
        (∀ secretToken renewed, arrival.IsDue token claims window secretToken renewed →
          ∃ secret minted, (arrival.passed token).RenewsSession arrival.service claims secretToken
            renewed secret minted) ∧
        ((∀ secretToken renewed, ¬ arrival.IsDue token claims window secretToken renewed) →
          response = plain) := by
  obtain ⟨plain, isPlain, acts⟩ := Route.exists_act accepts.shows arrival.service arrival.request
    (Identity.ofClaims claims)
  obtain ⟨renewed?, renewal⟩ := accepts.exists_renewal noCrash
  have due {renewed : String} : renewed? = some renewed ↔
      ∃ secretToken, arrival.IsDue token claims window secretToken renewed := by
    rw [← accepts.renewal_eq_some_iff begun small set, renewal, Except.ok.injEq]
  have bare := accepts.outcome_withoutSecret (acts _)
  refine ⟨Claims.toInt_left begun accepts.running.2, ?_⟩
  have ofSession : ∀ secretToken renewed,
      arrival.IsDue token claims window secretToken renewed → _ :=
    fun secretToken renewed due => State.renewsSession_of_renew due.given
  cases renewed? with
  | none =>
    refine ⟨_, _, accepts.outcome_of_none (acts _) renewal, bare, rfl, rfl, ?_, ?_, ?_, ofSession,
      fun _ => rfl⟩
    · rw [Response.accessCookies_finish, Response.renewedTokens_finish, isPlain.accessCookies_eq,
        isPlain.renewedTokens_eq]
    · rw [Response.renewedTokens_finish, isPlain.renewedTokens_eq]
      exact Nat.zero_le 1
    · intro renewed
      rw [Response.renewedTokens_finish, isPlain.renewedTokens_eq, ← due]
      simp
  | some renewed =>
    have ok := accepts.outcome_of_some (acts _) renewal
    obtain ⟨jar, added⟩ : ∃ jar, arrival.service.cookies.setAccess? renewed arrival.state.now [] =
        some jar := by
      refine Option.ne_none_iff_exists'.1 fun none => noCrash ?_
      rw [ok, none, Option.elim_none]
    rw [added, Option.elim_some] at ok
    obtain ⟨minted, issued⟩ := Gate.exists_issue_of_renewal renewal
    have isValue : Headers.isValue renewed = true := by
      rw [issued]
      exact Carrier.isValue_issue arrival.service.codec minted
    obtain ⟨headers, cookies⟩ := isPlain.withRenewal isValue added
    refine ⟨_, _, ok, bare, ?_, Response.body_finish_congr _ _ rfl, ?_, ?_, ?_, ofSession, ?_⟩
    · rw [Router.status_finish, Router.status_finish, Gate.withRenewal]
    · rw [Response.accessCookies_finish, Response.renewedTokens_finish, headers, cookies]
    · rw [Response.renewedTokens_finish, headers]
      exact Nat.le_refl 1
    · intro other
      rw [Response.renewedTokens_finish, headers, List.mem_singleton, ← due, Option.some.injEq,
        eq_comm]
    · intro never
      obtain ⟨secretToken, isDue⟩ := due.1 rfl
      exact absurd isDue (never secretToken renewed)

/-- A token with fifteen minutes left meets a window of fifteen minutes. The request presents it
behind the scheme, and its secret token in the header for it: the response has a new access token
in both places. -/
theorem renewed_exactly_when_due_at_window : ∃ (arrival : Arrival)
    (token secretToken renewed : String) (claims : Claims) (response : Response),
    arrival.IsAccepted .whoami token claims ∧
      arrival.IsDue token claims 900 secretToken renewed ∧ arrival.outcome = .ok response ∧
      response.renewedTokens = [renewed] ∧ response.accessCookies = [renewed] := by
  obtain ⟨service, state, access, secret, renewed, claims, response, window, now, carried, accepted,
    renews, ok⟩ := exists_renews_whoami
  let arrival : Arrival := ⟨service, state, .toWhoami access secret⟩
  have accepts : arrival.IsAccepted .whoami access claims :=
    ⟨Request.ofPath?_toWhoami access secret, .inr rfl, by change "GET" ≠ "OPTIONS"; decide, carried,
      accepted⟩
  have begun : 0 ≤ state.now := by omega
  have set : service.renewalWindow = signedSeconds 900 := window.trans (by decide)
  have noCrash : arrival.outcome ≠ .error .crashed := by
    rw [ok]
    exact nofun
  obtain ⟨-, response', plain, ok', -, -, -, cookies, single, due, -⟩ :=
    renewed_exactly_when_due accepts begun (by decide) set noCrash
  obtain rfl : response = response' := Except.ok.inj (ok.symm.trans ok')
  have repeated : renewed ∈ response.renewedTokens :=
    List.mem_map.2 ⟨_, List.mem_filter.2 ⟨renews.header ok, decide_eq_true rfl⟩, rfl⟩
  obtain ⟨secretToken, isDue⟩ := (due renewed).1 repeated
  obtain ⟨only, tokens⟩ := List.length_eq_one_iff.1
    (Nat.le_antisymm single (List.length_pos_of_mem repeated))
  obtain rfl : renewed = only := List.mem_singleton.1 (tokens ▸ repeated)
  exact ⟨arrival, access, secretToken, renewed, claims, response, accepts, isDue, ok, tokens,
    cookies.trans tokens⟩

end Arrival

end DualToken
