import DualToken.Proofs.Http.Cookies
import DualToken.Proofs.Http.Disclosure
import DualToken.Proofs.Http.Passwords
import DualToken.Proofs.Service.Reissue

/-!
# What is handed out is read back

A token leaves the service in the body of a response, in a cookie, and in the header that repeats a
renewed token. It comes back in a header or in a cookie. Nothing of it is lost on either way: what a
successful login or refresh shows in its body is what the next request carries if its client sends
the cookies back (`Response.ComesBack`), and a renewed token always has its header
(`handed_out_read_back`).
-/

set_option autoImplicit false

namespace DualToken

open Operation Service

/-! ## Jars with tokens -/

namespace CookiePolicy

variable {policy : CookiePolicy} {token : String} {pair : TokenPair} {now : Int} {jar : CookieJar}

theorem tokenCookie?_eq_some {kind : TokenKind} {cookie : SetCookie}
    (made : policy.tokenCookie? kind token now = some cookie) :
    cookie.name = SetCookie.tokenName kind ∧ cookie.value = token := by
  rw [tokenCookie?, cookie?] at made
  split at made
  · obtain rfl := Option.some.inj made
    exact ⟨rfl, rfl⟩
  · exact absurd made nofun

theorem setAccess?_eq_some (set : policy.setAccess? token now [] = some jar) :
    jar.map (fun cookie => (cookie.name, cookie.value)) =
      [(SetCookie.tokenName .access, token)] := by
  obtain ⟨cookie, made, rfl⟩ := Option.map_eq_some_iff.1 set
  obtain ⟨name, value⟩ := tokenCookie?_eq_some made
  simp [CookieJar.add, name, value]

/-- An access token is set if the dates of its cookie can be written. -/
theorem exists_setAccess? (policy : CookiePolicy) (token : String)
    (dates : HttpDate.IsWritable now ∧ HttpDate.IsWritable (now + policy.lifetime .access)) :
    ∃ jar, policy.setAccess? token now [] = some jar := by
  rw [setAccess?, tokenCookie?, cookie?, if_pos dates]
  exact ⟨_, rfl⟩

theorem setPair?_eq_some (set : policy.setPair? pair now [] = some jar) :
    jar.map (fun cookie => (cookie.name, cookie.value)) =
      [(SetCookie.tokenName .access, pair.access), (SetCookie.tokenName .secret, pair.secret)] := by
  obtain ⟨first, setFirst, rest⟩ := Option.bind_eq_some_iff.1 set
  obtain ⟨cookie, made, added⟩ := Option.bind_eq_some_iff.1 rest
  obtain rfl := Option.some.inj added
  obtain ⟨access, madeAccess, rfl⟩ := Option.map_eq_some_iff.1 setFirst
  obtain ⟨name, value⟩ := tokenCookie?_eq_some made
  obtain ⟨name', value'⟩ := tokenCookie?_eq_some madeAccess
  have kept : (CookieJar.add [] access).filter (·.name ≠ cookie.name) = [access] := by
    rw [name]
    simp [CookieJar.add, name', SetCookie.tokenName]
  rw [CookieJar.add, kept]
  simp [name, value, name', value']

end CookiePolicy

/-! ## Responses that hand out tokens -/

/-- The tokens that are minted along a log are issued. -/
theorem NamesTokens.issued {codec : Codec} {log : List (Performed Action Action.Reply)}
    (named : NamesTokens codec log) {token : String} (minted : token ∈ newTokens log) :
    ∃ claims, token = codec.issue claims := by
  obtain ⟨claims, tokens, -⟩ := named
  rw [tokens] at minted
  obtain ⟨own, -, rfl⟩ := List.mem_map.1 minted
  exact ⟨own, rfl⟩

namespace Response

/-- The token that the body shows under the name of the cookie of a kind. -/
def shownToken? (response : Response) (kind : TokenKind) : Option String :=
  match response.body with
  | .json (.object members) =>
    match members.lookup (SetCookie.tokenName kind) with
    | some (.text token) => some token
    | _ => none
  | _ => none

/-- The body shows a token of the kind, and whoever sends the cookies of the response back presents
it with the next request. -/
def ComesBack (response : Response) (kind : TokenKind) : Prop :=
  ∃ token, response.shownToken? kind = some token ∧
    ∀ (headers : Headers) (lists : List (List SentCookie)), headers.SendsBack response lists →
      Carrier.token? headers kind = some token

variable {response : Response}

theorem shownToken?_of_body {pair : TokenPair} (body : response.body = .json pair.json) :
    response.shownToken? .access = some pair.access ∧
      response.shownToken? .secret = some pair.secret := by
  rw [shownToken?, shownToken?, body]
  exact ⟨rfl, rfl⟩

/-- No header of a JSON response sets a cookie. -/
theorem plain_ofJson (status : Nat) (value : Json.Value) :
    ∀ header ∈ (ofJson status value).headers, header.1 ≠ "set-cookie" := by
  intro header member
  rw [List.mem_singleton.1 member]
  decide

/-- Finishing a response leaves the cookies as they are and adds no other. -/
theorem HandsOut.finish {codec : Codec} {tokens : List (TokenKind × String)}
    (hands : response.HandsOut codec tokens) (method : String) (route : Route) :
    (Router.finish method route response).HandsOut codec tokens where
  plain := by
    intro header member
    rcases Router.mem_headers_finish member with common | own | allow
    · have others : ∀ header ∈ Router.commonHeaders, header.1 ≠ "set-cookie" := by decide
      exact others header common
    · exact hands.plain header own
    · rw [allow]
      decide
  cookies := by
    rw [Router.cookies_finish]
    exact hands.cookies
  kinds := hands.kinds
  issued := hands.issued

end Response

/-! ## Requests that are answered with success -/

theorem State.some_of_orCrash {service : Service} {state : State} {α : Type} {found : Option α}
    {value : α} (ok : (state.run service (orCrash found)).1 = .ok value) : found = some value := by
  cases found with
  | none => exact absurd ok nofun
  | some other => exact congrArg some (Except.ok.inj ok)

/-- Logging in, when the body cannot be read. -/
theorem Route.serve_login_fault {service : Service} {request : Request} {fault : JsonBody.Fault}
    (posted : request.method = "POST")
    (unread : JsonBody.read Credentials.read request = .error fault) :
    login.serve service request = pure fault.response := by
  simp only [serve, policy?, act, allowed, posted, List.contains_cons, BEq.rfl, Bool.true_or,
    if_true, handle, Handler.login, Handler.withBody, unread]

namespace Arrival

variable {arrival : Arrival} {route : Route} {response : Response}

/-- No refusal is answered with success, so a request that is answered so was served. -/
theorem exists_served (found : Route.ofPath? arrival.request.path = some route)
    (noPreflight : arrival.request.method ≠ "OPTIONS") (ok : arrival.outcome = .ok response)
    (success : response.status = 200) :
    ∃ inner, arrival.result (route.serve arrival.service arrival.request) = .ok inner ∧
      inner.status = 200 ∧ response = Router.finish arrival.request.method route inner := by
  rw [outcome, (State.run_respond arrival.service arrival.state found noPreflight).1] at ok
  rw [result]
  cases served : (arrival.state.run arrival.service
      (route.serve arrival.service arrival.request)).1 with
  | ok inner =>
    rw [served] at ok
    obtain rfl := Except.ok.inj ok
    exact ⟨inner, rfl, (Router.status_finish _ _ _).symm.trans success, rfl⟩
  | error failure =>
    rw [served] at ok
    cases failure with
    | refused error =>
      obtain rfl := Except.ok.inj ok
      rw [Router.status_finish] at success
      have failed : error.status ≠ 200 := by
        cases error with
        | _ => simp [AuthError.status]
      exact absurd success failed
    | crashed => cases ok
    | unanswered => cases ok

/-- A login that succeeds hands out the pair that its body shows. -/
theorem exists_pair_of_login (posts : arrival.Posts .login) (ok : arrival.outcome = .ok response)
    (success : response.status = 200) :
    ∃ pair : TokenPair, response.body = .json pair.json ∧
      response.HandsOut arrival.service.codec [(.access, pair.access), (.secret, pair.secret)] := by
  obtain ⟨inner, served, status, rfl⟩ :=
    exists_served posts.found posts.noPreflight ok success
  cases read : JsonBody.read Credentials.read arrival.request with
  | error fault =>
    rw [result, Route.serve_login_fault posts.posted read] at served
    obtain rfl : fault.response = inner := Except.ok.inj served
    exact absurd status (by cases fault <;> decide)
  | ok credentials =>
    rw [result, Route.serve_login posts.posted read] at served
    obtain ⟨pair, loggedIn, rest⟩ := State.exists_ok_of_bind served
    obtain ⟨now, -, rest⟩ := State.exists_ok_of_bind rest
    obtain ⟨jar, set, rest⟩ := State.exists_ok_of_bind rest
    obtain rfl := Except.ok.inj rest
    have minted := State.newTokens_login loggedIn
    have named := (State.compositional_namesTokens arrival.service).login credentials arrival.state
    refine ⟨pair, Router.body_finish (by simp [posts.posted]) _ _, Response.HandsOut.finish ?_ _ _⟩
    refine ⟨Response.plain_ofJson 200 pair.json,
      CookiePolicy.setPair?_eq_some (State.some_of_orCrash set), ?_, fun token member => ?_⟩
    · simp
    · refine named.issued (minted ▸ ?_)
      simp only [List.mem_cons, List.not_mem_nil, or_false] at member ⊢
      exact member.imp (congrArg Prod.snd) (congrArg Prod.snd)

/-- A refresh that succeeds hands out the access token that its body shows. -/
theorem exists_access_of_refresh (posts : arrival.Posts .refresh)
    (ok : arrival.outcome = .ok response) (success : response.status = 200) :
    ∃ pair : TokenPair, response.body = .json pair.json ∧
      response.HandsOut arrival.service.codec [(.access, pair.access)] := by
  obtain ⟨inner, served, status, rfl⟩ :=
    exists_served posts.found posts.noPreflight ok success
  cases carried : arrival.request.secretToken? with
  | none =>
    rw [result, Route.serve_of_no_secretToken (.inl rfl) posts.posted carried] at served
    cases served
  | some secret =>
    rw [result, Route.serve_refresh posts.posted carried] at served
    obtain ⟨access, refreshed, rest⟩ := State.exists_ok_of_bind served
    obtain ⟨now, -, rest⟩ := State.exists_ok_of_bind rest
    obtain ⟨jar, set, rest⟩ := State.exists_ok_of_bind rest
    obtain rfl := Except.ok.inj rest
    obtain ⟨claims, minted, user, reissue⟩ := (State.Reissues.refresh refreshed).exists_reissue
    refine ⟨⟨access, secret⟩, Router.body_finish (by simp [posts.posted]) _ _,
      Response.HandsOut.finish ?_ _ _⟩
    refine ⟨Response.plain_ofJson 200 (TokenPair.json ⟨access, secret⟩),
      CookiePolicy.setAccess?_eq_some (State.some_of_orCrash set), List.nodup_singleton _,
      fun token member => ?_⟩
    obtain rfl := List.mem_singleton.1 member
    exact ⟨minted, reissue.issued⟩

end Arrival

/-! ## Requests whose access token is renewed -/

/-- A token that the gate renews is issued. -/
theorem Gate.exists_issue_of_renewal {service : Service} {state : State} {headers : Headers}
    {access : Claims} {renewed : String}
    (ok : (state.run service (renewal service headers access)).1 = .ok (some renewed)) :
    ∃ claims, renewed = service.codec.issue claims := by
  cases carried : Carrier.token? headers .secret with
  | some secretToken =>
    obtain ⟨secret, minted, user, reissue⟩ :=
      (State.Reissues.gate headers access carried ok).exists_reissue
    exact ⟨minted, reissue.issued⟩
  | none =>
    obtain ⟨now, -, rest⟩ := State.exists_ok_of_bind ok
    rw [carried] at rest
    split at rest
    · exact absurd rest nofun
    · exact absurd rest nofun

namespace Arrival

variable {arrival : Arrival} {response : Response}

/-- The gate of a guarded route renews the access token of the request. -/
inductive Renews (arrival : Arrival) (renewed : String) : Prop
  /-- The access token is accepted for a caller who is allowed, and the renewal gives a token. -/
  | intro {route : Route} {policy : Policy} {token : String} {claims : Claims} {passed : State}
      (found : Route.ofPath? arrival.request.path = some route)
      (guarded : route.policy? = some policy) (noPreflight : arrival.request.method ≠ "OPTIONS")
      (carried : Carrier.token? arrival.request.headers .access = some token)
      (accepted : arrival.state.run arrival.service (Gate.accept arrival.service token) =
        (.ok claims, passed))
      (allowed : policy.allows claims.role = true)
      (renewal : (passed.run arrival.service
        (Gate.renewal arrival.service arrival.request.headers claims)).1 = .ok (some renewed))

/-- **The response to a request whose access token is renewed has a header with the new token.** -/
theorem Renews.header {renewed : String} (renews : arrival.Renews renewed)
    (ok : arrival.outcome = .ok response) : (Gate.renewalHeader, renewed) ∈ response.headers := by
  obtain ⟨found, guarded, noPreflight, carried, accepted, allowed, renewal⟩ := renews
  rw [outcome, (State.run_respond arrival.service arrival.state found noPreflight).1,
    Route.serve_some arrival.service guarded carried,
    (State.run_bind_ok (congrArg Prod.fst accepted) _).1, if_pos allowed, accepted] at ok
  cases served : (State.run arrival.service (Gate.serve arrival.service arrival.request.headers _
      (Route.act arrival.service arrival.request _)) _).1 with
  | error failure =>
    obtain rfl := State.Ends.of_error (Gate.ends_serve arrival.service _ arrival.request guarded _)
      served
    rw [served] at ok
    cases ok
  | ok inner =>
    rw [served] at ok
    obtain rfl := Except.ok.inj ok
    rw [Gate.serve, (State.run_bind_ok renewal _).1] at served
    obtain ⟨now, -, rest⟩ := State.exists_ok_of_bind served
    obtain ⟨jar, -, rest⟩ := State.exists_ok_of_bind rest
    obtain ⟨handled, -, rest⟩ := State.exists_ok_of_bind rest
    obtain rfl := Except.ok.inj rest
    obtain ⟨claims, rfl⟩ := Gate.exists_issue_of_renewal renewal
    refine Router.headers_subset_finish _ _ _ ?_
    rw [Gate.withRenewal]
    dsimp only
    rw [if_pos (Carrier.isValue_issue arrival.service.codec claims)]
    exact List.mem_append_right _ List.mem_cons_self

end Arrival

/-! ## Logging in -/

/-- The request that logs in with credentials. -/
def Request.toLogin (credentials : Credentials) : Request :=
  { method := "POST", target := "/api/v1/login"
    headers := [("content-type", Text.utf8 "application/json")]
    body := (Json.Value.object [("email", .text credentials.email),
      ("password", .text credentials.password)]).bytes }

/-- **Credentials are read as they were posted**, if the body is not too large. -/
theorem Request.read_toLogin {credentials : Credentials}
    (fits : (toLogin credentials).body.length ≤ JsonBody.maxSize) :
    JsonBody.read Credentials.read (toLogin credentials) = .ok credentials := by
  let record : Credentials.layout.Record := (credentials.email, credentials.password, ())
  have fields : Json.Layout.Matches Credentials.layout
      ([("email", Json.Value.text credentials.email),
        ("password", .text credentials.password)].map fun member => (member.1, member.2.bytes))
      record :=
    .cons (Json.reads_text credentials.email) (.cons (Json.reads_text credentials.password) .nil)
  have object := Json.Layout.read_object (fields.fills (by decide))
    (Json.Layout.Draft.complete?_full Credentials.layout record) []
  rw [List.append_nil] at object
  have found : Credentials.read (toLogin credentials).body = .value credentials [] := by
    rw [Credentials.read, toLogin, object]
    rfl
  exact JsonBody.read_of_value rfl fits found

theorem Arrival.posts_toLogin (service : Service) (state : State) (credentials : Credentials) :
    Posts ⟨service, state, .toLogin credentials⟩ .login := by
  have found : Route.ofPath? (Request.path ⟨"POST", "/api/v1/login", [], []⟩) = some .login := by
    decide
  exact ⟨found, rfl⟩

/-- **Credentials that log in are answered with the pair**, unless the dates of the cookies cannot
be written. -/
theorem Arrival.outcome_of_login {arrival : Arrival} {credentials : Credentials} {pair : TokenPair}
    (posts : arrival.Posts .login)
    (read : JsonBody.read Credentials.read arrival.request = .ok credentials)
    (loggedIn : arrival.result (arrival.service.login credentials) = .ok pair) :
    arrival.outcome = (arrival.service.cookies.setPair? pair arrival.state.now []).elim
      (.error .crashed) fun jar => .ok (Router.finish arrival.request.method .login
        { Response.ofJson 200 pair.json with cookies := jar }) := by
  have now := (State.Ends.run arrival.service
    (Service.ends_login arrival.service arrival.state credentials)).2.now
  rw [outcome,
    (State.run_respond arrival.service arrival.state posts.found posts.noPreflight).1,
    Route.serve_login posts.posted read, (State.run_bind_ok loggedIn _).1,
    ((State.goes_clock _).run_bind _).1, now]
  cases arrival.service.cookies.setPair? pair arrival.state.now [] with
  | none => rfl
  | some jar => rfl

/-- Credentials that log in are answered with success, if the dates of the cookies can be written.
-/
theorem Arrival.login_answered {arrival : Arrival} {credentials : Credentials} {pair : TokenPair}
    (posts : arrival.Posts .login)
    (read : JsonBody.read Credentials.read arrival.request = .ok credentials)
    (loggedIn : arrival.result (arrival.service.login credentials) = .ok pair)
    (dates : ∀ kind, HttpDate.IsWritable arrival.state.now ∧
      HttpDate.IsWritable (arrival.state.now + arrival.service.cookies.lifetime kind)) :
    ∃ response, arrival.outcome = .ok response ∧ response.status = 200 := by
  obtain ⟨jar, set⟩ : ∃ jar,
      arrival.service.cookies.setPair? pair arrival.state.now [] = some jar := by
    simp only [CookiePolicy.setPair?, CookiePolicy.setAccess?, CookiePolicy.tokenCookie?,
      CookiePolicy.cookie?, if_pos (dates _)]
    exact ⟨_, rfl⟩
  rw [outcome_of_login posts read loggedIn, set]
  exact ⟨_, rfl, Router.status_finish _ _ _⟩

/-- The first user of a service has registered, and nothing fails a minute later. -/
theorem State.exists_first_user : ∃ (state : State) (credentials : Credentials) (user : User),
    (Request.toLogin credentials).body.length ≤ JsonBody.maxSize ∧ state.IsCalm ∧
      state.directory.userByEmail credentials.email = .ok (some user) ∧
      Directory.comparePasswords user.passwordHash credentials.password = true ∧
      state.now = 60 := by
  let service : Service := ⟨⟨[1], [2]⟩, 900, 86400, 300, ⟨true, 900, 86400⟩, .table, 4⟩
  let form : NewUser := ⟨"Ada", "Byron", "ada@example.org", "secret", "1", "London", .customer⟩
  let registered : State :=
    (({ now := 0 } : State).run service (Router.respond service (.toRegister form))).2
  have fits : (Request.toRegister form).body.length ≤ JsonBody.maxSize := by decide +kernel
  obtain ⟨created, calm⟩ := State.first_registration service rfl rfl fits (by decide +kernel)
  obtain ⟨user, found, decides⟩ := State.exists_registered service Directory.isSound_empty
    (Request.read_toRegister rfl fits) (Request.isRegistration_toRegister form) created
    (Event.isFromOutside_setClock 60)
  exact ⟨registered.after service [.setClock 60], ⟨"ada@example.org", "secret"⟩, user,
    by decide +kernel, calm, found, (decides "secret").2 rfl, rfl⟩

/-- The first user of a service registers and logs in a minute later. -/
theorem State.exists_first_login :
    ∃ (service : Service) (state : State) (credentials : Credentials) (pair : TokenPair),
      (Request.toLogin credentials).body.length ≤ JsonBody.maxSize ∧
        (state.run service (service.login credentials)).1 = .ok pair ∧
        ∀ kind, HttpDate.IsWritable state.now ∧
          HttpDate.IsWritable (state.now + service.cookies.lifetime kind) := by
  let service : Service := ⟨⟨[1], [2]⟩, 900, 86400, 300, ⟨true, 900, 86400⟩, .table, 4⟩
  obtain ⟨state, credentials, user, fits, calm, found, right, now⟩ := State.exists_first_user
  obtain ⟨pair, loggedIn⟩ : ∃ pair,
      (state.run service (service.login credentials)).1 = .ok pair := by
    refine State.login_right (calm.answers found) found right ?_ ?_
    · rw [now]
      rfl
    · rw [now]
      rfl
  refine ⟨service, state, credentials, pair, fits, loggedIn, fun kind => ?_⟩
  rw [now]
  cases kind <;> decide

/-! ## Sending the cookies of a pair back -/

/-- A cookie with a token as a client writes it. -/
def SentCookie.ofToken (before : List Char) (kind : TokenKind) (token : String) : SentCookie :=
  ⟨before, (SetCookie.tokenName kind).toList, token.toList, []⟩

theorem SentCookie.isWellFormed_ofToken {before : List Char}
    (spacing : ∀ character ∈ before, Headers.IsSpacing character) (kind : TokenKind)
    {codec : Codec} {token : String} (issued : ∃ claims, token = codec.issue claims) :
    (ofToken before kind token).IsWellFormed where
  spacing := fun character member => spacing character (by simpa [ofToken] using member)
  named := by cases kind <;> exact nofun
  name := by
    have letters : ((SetCookie.tokenName kind).toList.all fun character =>
        decide (Text.IsVisible character ∧ character ≠ '=' ∧ character ≠ ';')) = true := by
      cases kind <;> decide
    exact fun character member => of_decide_eq_true (List.all_eq_true.1 letters character member)
  value := by
    obtain ⟨claims, same⟩ := issued
    have visible := Carrier.isVisible_issue codec claims
    have inside := Carrier.noSemicolon_issue codec claims
    rw [← same] at visible inside
    intro character member
    exact ⟨(visible character member).isTextCharacter, fun sign => inside (sign ▸ member)⟩

/-- The headers of a request with the cookies of two tokens, in another order and next to a cookie
of another name. -/
def Headers.ofPair (pair : TokenPair) : Headers :=
  [("Cookie", Text.utf8 ("theme=dark; secret_token=" ++ pair.secret)),
    ("Cookie", Text.utf8 ("access_token=" ++ pair.access))]

theorem Response.HandsOut.sendsBack_ofPair {response : Response} {codec : Codec} {pair : TokenPair}
    (hands : response.HandsOut codec [(.access, pair.access), (.secret, pair.secret)]) :
    (Headers.ofPair pair).SendsBack response
      [[⟨[], "theme".toList, "dark".toList, []⟩, .ofToken [' '] .secret pair.secret],
        [.ofToken [] .access pair.access]] := by
  have lower : "Cookie".map Char.toLower = "cookie" := by decide +kernel
  have pairs : response.setPairs = [SetCookie.tokenPair (.access, pair.access),
      SetCookie.tokenPair (.secret, pair.secret)] := hands.setPairs_eq
  have space : ∀ character ∈ [' '], Headers.IsSpacing character :=
    fun character member => .inl (List.mem_singleton.1 member)
  have other : ∀ kind, (SetCookie.tokenName kind).toList ≠ "theme".toList := by
    intro kind
    cases kind <;> decide
  have theme : SentCookie.IsWellFormed ⟨[], "theme".toList, "dark".toList, []⟩ := by
    have name : ("theme".toList.all fun letter =>
        decide (Text.IsVisible letter ∧ letter ≠ '=' ∧ letter ≠ ';')) = true := by decide
    have value : ("dark".toList.all fun letter =>
        decide (Text.IsVisible letter ∧ letter ≠ ';')) = true := by decide
    refine ⟨nofun, by decide, fun letter member => ?_, fun letter member => ?_⟩
    · exact of_decide_eq_true (List.all_eq_true.1 name letter member)
    · exact (of_decide_eq_true (List.all_eq_true.1 value letter member)).imp_left
        Text.IsVisible.isTextCharacter
  refine ⟨?_, ?_, ?_, ?_, ?_⟩
  · intro kind
    cases kind <;> simp [Headers.ofPair, Headers.valuesOf, Carrier.headerName, lower]
  · have front : "theme=dark; secret_token=".toList =
        "theme".toList ++ '=' :: "dark".toList ++ ';' :: ' ' :: "secret_token".toList ++ ['='] := by
      decide
    have front' : "access_token=".toList = "access_token".toList ++ ['='] := by decide
    simp [Headers.ofPair, Headers.valuesOf, lower, Text.utf8, SentCookie.line, SentCookie.written,
      SentCookie.pair, SentCookie.ofToken, SetCookie.tokenName, List.intercalate, front, front']
  · intro cookie member
    simp only [List.flatten_cons, List.flatten_nil, List.append_nil, List.cons_append,
      List.nil_append, List.mem_cons, List.not_mem_nil, or_false] at member
    rcases member with rfl | rfl | rfl
    · exact theme
    · exact SentCookie.isWellFormed_ofToken space .secret
        (hands.issued (.secret, pair.secret) (by simp))
    · exact SentCookie.isWellFormed_ofToken (fun _ member => absurd member List.not_mem_nil) .access
        (hands.issued (.access, pair.access) (by simp))
  · intro handed member
    rw [pairs] at member
    simp only [List.mem_cons, List.not_mem_nil, or_false] at member
    rcases member with rfl | rfl
    · exact ⟨.ofToken [] .access pair.access, by simp, rfl⟩
    · exact ⟨.ofToken [' '] .secret pair.secret, by simp, rfl⟩
  · intro cookie member
    rw [pairs]
    simp only [List.flatten_cons, List.flatten_nil, List.append_nil, List.cons_append,
      List.nil_append, List.mem_cons, List.not_mem_nil, or_false] at member ⊢
    rcases member with rfl | rfl | rfl
    · right
      rintro handed (rfl | rfl)
      · rw [SetCookie.tokenPair, SentCookie.takeWhile_pair _ _ (SetCookie.tokenName_noSign _)]
        exact other .access
      · rw [SetCookie.tokenPair, SentCookie.takeWhile_pair _ _ (SetCookie.tokenName_noSign _)]
        exact other .secret
    · exact .inl (.inr rfl)
    · exact .inl (.inl rfl)

/-! ## A renewal at the gate -/

section Renewing

variable {service : Service} {state : State} {table : RevocationTable} {access secret : Claims}
  {user : User} {secretToken renewed : String} {expiry : Int}

/-- Renewing with an acceptable secret token of the same session gives a token. -/
theorem State.IsWhole.goes_renew (whole : state.IsWhole service table)
    (absent : table.contains secretToken = false)
    (decoded : service.codec.decodeAt secretToken .secret state.now = .ok secret)
    (found : state.directory.userById secret.sub = .ok (some user))
    (matched : secret.matchesUser user = true)
    (same : secret.sid = access.sid ∧ secret.sub = access.sub)
    (within : Time.add? state.now service.accessLifetime = some expiry)
    (made : service.codec.issue
      (secret.reissue (TokenName.ofCount (state.namesDrawn + 1)) .access state.now expiry) =
        renewed) :
    ∃ calls, state.Goes service (service.renew access secretToken) renewed { state with
      calls
      namesDrawn := state.namesDrawn + 1
      sessions := state.sessions.set secret.sid .access renewed secret.exp state.now } := by
  obtain ⟨calls, validated⟩ := whole.goes_validate absent decoded found matched
  obtain ⟨calls', minted⟩ := (whole.noted calls).goes_mintAccess absent within made
  refine ⟨calls', validated.bind ?_⟩
  rw [if_pos same]
  exact minted

/-- A due renewal with an acceptable secret token of the same session gives a token. -/
theorem State.IsWhole.goes_renewal (whole : state.IsWhole service table) {headers : Headers}
    (carried : Carrier.token? headers .secret = some secretToken)
    (due : Gate.isExpiring service access state.now = true)
    (absent : table.contains secretToken = false)
    (decoded : service.codec.decodeAt secretToken .secret state.now = .ok secret)
    (found : state.directory.userById secret.sub = .ok (some user))
    (matched : secret.matchesUser user = true)
    (same : secret.sid = access.sid ∧ secret.sub = access.sub)
    (within : Time.add? state.now service.accessLifetime = some expiry)
    (made : service.codec.issue
      (secret.reissue (TokenName.ofCount (state.namesDrawn + 1)) .access state.now expiry) =
        renewed) :
    ∃ calls, state.Goes service (Gate.renewal service headers access) (some renewed) { state with
      calls
      namesDrawn := state.namesDrawn + 1
      sessions := state.sessions.set secret.sid .access renewed secret.exp state.now } := by
  obtain ⟨calls, renews⟩ := whole.goes_renew absent decoded found matched same within made
  refine ⟨calls, (goes_clock state).bind ?_⟩
  rw [if_pos due, carried]
  exact renews.attempt.bind (goes_pure _ _)

end Renewing

/-- The request that asks who the user is, with an access token behind the scheme and a secret
token. -/
def Request.toWhoami (access secret : String) : Request :=
  { method := "GET", target := "/api/v1/whoami"
    headers := [("Authorization", Text.utf8 ("Bearer " ++ access)),
      ("Authorization-X", Text.utf8 secret)] }

theorem Request.ofPath?_toWhoami (access secret : String) :
    Route.ofPath? (toWhoami access secret).path = some .whoami := by
  have found : Route.ofPath? (path ⟨"GET", "/api/v1/whoami", [], []⟩) = some .whoami := by decide
  exact found

theorem Request.valuesOf_toWhoami (access secret : String) :
    (toWhoami access secret).headers.valuesOf (Carrier.headerName .access) =
        [Text.utf8Chars ([] ++ (Carrier.scheme ++ ([] ++ access.toList)) ++ [])] ∧
      (toWhoami access secret).headers.valuesOf (Carrier.headerName .secret) =
        [Text.utf8 secret] := by
  have lower : "Authorization".map Char.toLower = "authorization" := by decide +kernel
  have lower' : "Authorization-X".map Char.toLower = "authorization-x" := by decide +kernel
  have front : Text.utf8 ("Bearer " ++ access) =
      Text.utf8Chars (Carrier.scheme ++ access.toList) := by
    rw [Text.utf8, String.toList_append]
    rfl
  simp only [toWhoami, front, Headers.valuesOf, Carrier.headerName, List.filter_cons, lower, lower']
  simp

theorem Request.carries_toWhoami (codec : Codec) (access secret : Claims) :
    let headers := (toWhoami (codec.issue access) (codec.issue secret)).headers
    Carrier.token? headers .access = some (codec.issue access) ∧
      Carrier.token? headers .secret = some (codec.issue secret) := by
  obtain ⟨header, header'⟩ := valuesOf_toWhoami (codec.issue access) (codec.issue secret)
  refine ⟨?_, Carrier.token?_issue header'⟩
  exact Carrier.token?_of_presents (.behind [] [] [] nofun) header
    (Carrier.isVisible_issue codec access) (Carrier.issue_ne_nil codec access)

/-- A renewal is answered, if the dates of the cookie can be written. -/
theorem Arrival.renewal_answered {service : Service} {state passed after : State}
    {access secret renewed : String} {claims : Claims}
    (carried : Carrier.token? (Request.toWhoami access secret).headers .access = some access)
    (accepted : state.run service (Gate.accept service access) = (.ok claims, passed))
    (renewal : passed.Goes service
      (Gate.renewal service (Request.toWhoami access secret).headers claims) (some renewed) after)
    (dates : HttpDate.IsWritable after.now ∧
      HttpDate.IsWritable (after.now + service.cookies.lifetime .access)) :
    let arrival : Arrival := ⟨service, state, .toWhoami access secret⟩
    arrival.Renews renewed ∧ ∃ response, arrival.outcome = .ok response := by
  intro arrival
  have found : Route.ofPath? arrival.request.path = some .whoami :=
    Request.ofPath?_toWhoami access secret
  have noPreflight : arrival.request.method ≠ "OPTIONS" := by
    change "GET" ≠ "OPTIONS"
    decide
  have everyone : Policy.anyone.allows claims.role = true := rfl
  refine ⟨.intro found rfl noPreflight carried accepted everyone
    (congrArg Prod.fst renewal.run), ?_⟩
  obtain ⟨jar, set⟩ := CookiePolicy.exists_setAccess? service.cookies renewed dates
  rw [outcome, (State.run_respond service state found noPreflight).1,
    Route.serve_some service rfl carried, (State.run_bind_ok (congrArg Prod.fst accepted) _).1,
    if_pos everyone, accepted, Gate.serve, (renewal.run_bind _).1]
  dsimp only
  rw [((State.goes_clock after).run_bind _).1, set]
  exact ⟨_, rfl⟩

/-- A caller whose access token is about to expire presents it behind the scheme, and the gate
renews it. -/
theorem Arrival.exists_renews_whoami : ∃ (service : Service) (state : State)
    (access secret renewed : String) (claims : Claims) (response : Response),
    let arrival : Arrival := ⟨service, state, .toWhoami access secret⟩
    service.renewalWindow = 900 ∧ state.now = 60 ∧
      Carrier.token? arrival.request.headers .access = some access ∧
      arrival.result (service.validate access .access) = .ok claims ∧
      arrival.Renews renewed ∧ arrival.outcome = .ok response := by
  obtain ⟨ready, state, credentials, row, user, isReady, -⟩ := State.exists_isReady .customer
  let service : Service := { ready with renewalWindow := 900, cookies := ⟨true, 900, 86400⟩ }
  let access : Claims := Claims.forUser user "session" "first" .access 60 960
  let secret : Claims := Claims.forUser user "session" "second" .secret 60 86460
  have whole : state.IsWhole service {} :=
    ⟨isReady.whole.backend, isReady.whole.calm, isReady.whole.table⟩
  have matched := State.matchesUser_forUser user "session"
  have decoded : service.codec.decodeAt (service.codec.issue access) .access state.now =
      .ok access := Codec.decodeAt_issue_of_lt isReady.early isReady.running
  have decoded' : service.codec.decodeAt (service.codec.issue secret) .secret state.now =
      .ok secret := Codec.decodeAt_issue_of_lt isReady.early isReady.running'
  obtain ⟨carried, carried'⟩ := Request.carries_toWhoami service.codec access secret
  obtain ⟨calls, validates⟩ := whole.goes_validate rfl decoded isReady.byId (matched _ _ _ _)
  have accepted : state.run service (Gate.accept service (service.codec.issue access)) =
      (.ok access, { state with calls }) := by
    rw [(State.run_accept service state _).1, validates.run]
    rfl
  have due : Gate.isExpiring service access state.now = true := by
    have close : (Int64.ofInt 960 - Int64.ofInt 60).toInt ≤ 900 := by decide
    rw [isReady.now]
    exact decide_eq_true close
  have dates : HttpDate.IsWritable state.now ∧ HttpDate.IsWritable (state.now + 900) := by
    rw [isReady.now]
    decide
  obtain ⟨calls', renewal⟩ := (whole.noted calls).goes_renewal carried' due rfl decoded'
    isReady.byId (matched _ _ _ _) ⟨rfl, rfl⟩ isReady.accessEnd rfl
  obtain ⟨renews, response, ok⟩ := renewal_answered carried accepted renewal dates
  exact ⟨service, state, _, _, _, access, response, rfl, isReady.now, carried,
    congrArg Prod.fst validates.run, renews, ok⟩

theorem Arrival.exists_renews : ∃ (arrival : Arrival) (renewed : String) (response : Response),
    arrival.Renews renewed ∧ arrival.outcome = .ok response := by
  obtain ⟨_, _, _, _, renewed, _, response, _, _, _, _, renews, ok⟩ := exists_renews_whoami
  exact ⟨_, renewed, response, renews, ok⟩

/-! ## The two ways -/

/-- **What the service hands out, the gate reads back.** A token that is issued under any keys for
any claims can be the value of a header, and a header that holds it, raw or behind the scheme and
with spaces around it, carries it unchanged. After a login that succeeds both tokens come back:
whatever next request sends the cookies of the response back, among any other well-formed cookies
and over any number of headers, carries the tokens that the body shows. After a refresh that
succeeds the access token does. And the response to a request whose access token the gate renews
always has the header with the new token. -/
theorem handed_out_read_back :
    (∀ (codec : Codec) (claims : Claims), Headers.isValue (codec.issue claims) = true ∧
      ∀ (kind : TokenKind) (headers : Headers) (text : List Char) (others : List (List UInt8)),
        Carrier.Presents (codec.issue claims) text →
        headers.valuesOf (Carrier.headerName kind) = Text.utf8Chars text :: others →
          Carrier.token? headers kind = some (codec.issue claims)) ∧
      (∀ (arrival : Arrival) (response : Response), arrival.outcome = .ok response →
        response.status = 200 →
          (arrival.Posts .login → ∀ kind, response.ComesBack kind) ∧
            (arrival.Posts .refresh → response.ComesBack .access)) ∧
      ∀ (arrival : Arrival) (renewed : String) (response : Response), arrival.Renews renewed →
        arrival.outcome = .ok response → (Gate.renewalHeader, renewed) ∈ response.headers := by
  refine ⟨fun codec claims => ⟨Carrier.isValue_issue codec claims, ?_⟩,
    fun arrival response ok success => ⟨fun posts => ?_, fun posts => ?_⟩,
    fun arrival renewed response renews ok => renews.header ok⟩
  · intro kind headers text others presents header
    exact Carrier.token?_of_presents presents header (Carrier.isVisible_issue codec claims)
      (Carrier.issue_ne_nil codec claims)
  · obtain ⟨pair, body, hands⟩ := Arrival.exists_pair_of_login posts ok success
    obtain ⟨access, secret⟩ := Response.shownToken?_of_body body
    rintro (_ | _)
    · exact ⟨pair.access, access, fun headers lists sends => hands.token? (by simp) sends⟩
    · exact ⟨pair.secret, secret, fun headers lists sends => hands.token? (by simp) sends⟩
  · obtain ⟨pair, body, hands⟩ := Arrival.exists_access_of_refresh posts ok success
    obtain ⟨access, -⟩ := Response.shownToken?_of_body body
    exact ⟨pair.access, access, fun headers lists sends => hands.token? (by simp) sends⟩

/-- A token is read from a header in which it stands behind the scheme, with tabs and spaces. The
first user of a service logs in, and the next request has the cookies in two headers, in another
order and next to a cookie of another name: both tokens come back. A caller whose access token is
renewed finds the new one in the header. -/
theorem login_and_renewal_read_back :
    (let claims : Claims := ⟨1, .customer, "Ada Byron", "ada@example.org", "1", "London", 1000, 0,
        "token", "session", .access⟩
      let token := Codec.issue ⟨[1], [2]⟩ claims
      Carrier.token? [("authorization",
        Text.utf8Chars ([' '] ++ (Carrier.scheme ++ (['\t', ' '] ++ token.toList)) ++ []))]
          .access = some token) ∧
      (∃ (arrival : Arrival) (response : Response) (pair : TokenPair),
        arrival.Posts .login ∧ arrival.outcome = .ok response ∧ response.status = 200 ∧
          response.body = .json pair.json ∧
          Carrier.token? (.ofPair pair) .access = some pair.access ∧
          Carrier.token? (.ofPair pair) .secret = some pair.secret) ∧
      ∃ (arrival : Arrival) (renewed : String) (response : Response),
        arrival.Renews renewed ∧ arrival.outcome = .ok response ∧
          (Gate.renewalHeader, renewed) ∈ response.headers := by
  obtain ⟨issued, returns, renewals⟩ := handed_out_read_back
  refine ⟨?_, ?_, ?_⟩
  · have lower : "authorization".map Char.toLower = "authorization" := by decide +kernel
    have spacing : ∀ character ∈ [' '] ++ ['\t', ' '] ++ [], Headers.IsSpacing character := by
      simp [Headers.IsSpacing]
    -- said of any value, so that nothing has to evaluate the signature
    have header : ∀ value : List UInt8, Headers.valuesOf [("authorization", value)]
        (Carrier.headerName .access) = [value] := by
      intro value
      simp [Headers.valuesOf, Carrier.headerName, lower]
    exact (issued _ _).2 .access _ _ [] (.behind [' '] ['\t', ' '] [] spacing) (header _)
  · obtain ⟨service, state, credentials, pair, fits, loggedIn, dates⟩ := State.exists_first_login
    have posts := Arrival.posts_toLogin service state credentials
    obtain ⟨response, ok, success⟩ :=
      Arrival.login_answered posts (Request.read_toLogin fits) loggedIn dates
    obtain ⟨pair, body, hands⟩ := Arrival.exists_pair_of_login posts ok success
    obtain ⟨access, secret⟩ := Response.shownToken?_of_body body
    have back := (returns _ response ok success).1 posts
    refine ⟨_, response, pair, posts, ok, success, body, ?_, ?_⟩
    · obtain ⟨token, shown, read⟩ := back .access
      rw [read _ _ hands.sendsBack_ofPair, ← shown, access]
    · obtain ⟨token, shown, read⟩ := back .secret
      rw [read _ _ hands.sendsBack_ofPair, ← shown, secret]
  · obtain ⟨arrival, renewed, response, renews, ok⟩ := Arrival.exists_renews
    exact ⟨arrival, renewed, response, renews, ok, renewals arrival renewed response renews ok⟩

end DualToken
