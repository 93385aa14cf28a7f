import DualToken.Proofs.Http.CookieDates
import DualToken.Startup

/-!
# Lifetimes that are configured

The lifetimes of tokens are read from the environment as numbers of sixty-four bits without a sign
(`Configuration.gives_lifetime`), and the service takes them as numbers with one. On the way to an
answer they pass two ranges: a token needs a time at which it ends, and its cookie a date that can
be written, so before the year 10000. A login with the right password is granted exactly if both
kinds of token pass both (`Arrival.SignsIn.grants`), and crashes otherwise
(`Arrival.SignsIn.crashes`).

A number that ends before the year 10000 has no sign bit and passes. A greater one passes only if
it is taken as a negative one (`Arrival.CanGrant.lifetime_eq_sub`). So what a configuration
promises is kept exactly if it stays before that year (`login_lasts_as_configured`), and reading a
configuration does not see to it.
-/

set_option autoImplicit false

namespace DualToken

open Operation

/-! ## Numbers in the environment -/

/-- The lifetime of tokens of a kind. -/
def AuthSettings.lifetime (settings : AuthSettings) : TokenKind → UInt64
  | .access => settings.accessLifetime
  | .secret => settings.secretLifetime

namespace Configuration

/-- The variable with the lifetime of tokens of a kind. -/
def lifetimeKey : TokenKind → String
  | .access => "JWT_ACCESS_TTL_SECS"
  | .secret => "JWT_EXP"

/-- The number that a variable writes, or the default if the variable has no text. -/
inductive Gives (environment : Environment) (key : String) (default : Nat) : Nat → Prop
  | missing (none : environment.text? key = none) : Gives environment key default default
  | written {text : String} {number : Nat} (some : environment.text? key = some text)
      (read : Text.readUnsigned? (UInt64.size - 1) (Text.trim text).toList = .some number) :
      Gives environment key default number

variable {environment : Environment} {key : String} {configuration : Configuration}

/-- A variable without text gives the default. -/
theorem Gives.eq_of_missing {default number : Nat} (gives : Gives environment key default number)
    (none : environment.text? key = none) : number = default := by
  cases gives with
  | missing _ => rfl
  | written some read => exact absurd (some.symm.trans none) (Option.some_ne_none _)

/-- A word that is read is the number that is written. -/
theorem readUnsigned?_of_readWord? {text : String} {word : UInt64}
    (read : readWord? text = some word) :
    Text.readUnsigned? (UInt64.size - 1) text.toList = some word.toNat := by
  obtain ⟨number, written, rfl⟩ := Option.map_eq_some_iff.1 read
  have small : number ≤ UInt64.size - 1 :=
    of_decide_eq_true (Option.filter_eq_some_iff.1 written).2
  rw [written, UInt64.toNat_ofNat_of_lt' (Nat.lt_of_le_pred (by decide) small)]

/-- A number is taken from its variable, or is the default. -/
theorem gives_of_setting {default word : UInt64}
    (accepted : setting environment key default readWord? = .ok word) :
    Gives environment key default.toNat word.toNat := by
  rw [setting] at accepted
  split at accepted
  · next missing =>
    obtain rfl := Except.ok.inj accepted
    exact .missing missing
  · next text written =>
    split at accepted
    · next result read =>
      obtain rfl := Except.ok.inj accepted
      exact .written written (readUnsigned?_of_readWord? read)
    · cases accepted

/-- What is read behind a setting is read after the setting. -/
theorem exists_ok_of_bind {α β : Type} {first : Except InvalidSetting α}
    {next : α → Except InvalidSetting β} {result : β} (ok : first >>= next = .ok result) :
    ∃ value, first = .ok value ∧ next value = .ok result := by
  cases first with
  | error fault => cases ok
  | ok value => exact ⟨value, rfl, ok⟩

/-- **The lifetimes of a configuration that is read are the numbers in the environment.** -/
theorem gives_lifetime (read : Configuration.read environment = .ok configuration)
    (kind : TokenKind) : Gives environment (lifetimeKey kind)
      (({} : AuthSettings).lifetime kind).toNat (configuration.auth.lifetime kind).toNat := by
  obtain ⟨backend, -, rest⟩ := exists_ok_of_bind read
  obtain ⟨auth, settings, rest⟩ := exists_ok_of_bind rest
  obtain ⟨bindAddress, -, rest⟩ := exists_ok_of_bind rest
  obtain ⟨secureCookies, -, rest⟩ := exists_ok_of_bind rest
  obtain rfl := Except.ok.inj rest
  obtain ⟨accessLifetime, access, rest⟩ := exists_ok_of_bind settings
  obtain ⟨secretLifetime, secret, rest⟩ := exists_ok_of_bind rest
  obtain ⟨renewalWindow, -, rest⟩ := exists_ok_of_bind rest
  obtain ⟨storageTimeout, -, rest⟩ := exists_ok_of_bind rest
  obtain rfl := Except.ok.inj rest
  cases kind with
  | access => exact gives_of_setting access
  | secret => exact gives_of_setting secret

end Configuration

/-! ## Logins that crash -/

namespace State

variable {service : Service} {state : State} {credentials : Credentials} {user : User}

/-- Claims cannot be made for a user if there is no time at which they end. -/
theorem run_claimsForUser_of_none {session : String} {kind : TokenKind} {lifetime : Int}
    (none : Time.add? state.now lifetime = Option.none) :
    (state.run service (Service.claimsForUser user session kind lifetime)).1 =
      .error .crashed := by
  rw [Service.claimsForUser, ((goes_clock state).run_bind _).1, none]
  rfl

/-- A pair cannot be issued if there is no time at which one of its tokens ends. -/
theorem run_issueIn_of_none {session : String} {kind : TokenKind}
    (none : Time.add? state.now (service.lifetime kind) = Option.none) :
    (state.run service (service.issueIn user session)).1 = .error .crashed := by
  rw [Service.issueIn]
  cases within : Time.add? state.now service.accessLifetime with
  | none => exact congrArg Prod.fst (run_bind_error (run_claimsForUser_of_none within) _).1
  | some expiry =>
    rw [((goes_claimsForUser within).run_bind _).1]
    cases kind with
    | access => exact absurd (within.symm.trans none) (Option.some_ne_none expiry)
    | secret =>
      refine congrArg Prod.fst (run_bind_error ?_ _).1
      exact run_claimsForUser_of_none none

theorem run_issuePair_of_none {kind : TokenKind}
    (none : Time.add? state.now (service.lifetime kind) = Option.none) :
    (state.run service (service.issuePair user)).1 = .error .crashed := by
  rw [Service.issuePair_eq, ((goes_drawName state).run_bind _).1]
  exact run_issueIn_of_none none

end State

namespace Arrival

/-- A user logs in with the right password, and the store answers. -/
structure SignsIn (arrival : Arrival) (credentials : Credentials) (user : User) : Prop where
  posts : arrival.Posts .login
  read : JsonBody.read Credentials.read arrival.request = .ok credentials
  answers : StoreReply.Succeeds
    (arrival.state.perform arrival.service (.store (.userByEmail credentials.email))).1
  found : arrival.state.directory.userByEmail credentials.email = .ok (some user)
  right : Directory.comparePasswords user.passwordHash credentials.password = true

/-- There are times at which tokens end that are made now, and the dates of their cookies can be
written. -/
structure CanGrant (arrival : Arrival) : Prop where
  within (kind : TokenKind) :
    (Time.add? arrival.state.now (arrival.service.lifetime kind)).isSome
  dates (kind : TokenKind) : arrival.service.cookies.CanDate kind arrival.state.now

/-- The answer is a success that shows a token of each kind, and the tokens have these ends. -/
def Grants (arrival : Arrival) (ends : TokenKind → Int) : Prop :=
  ∃ response, arrival.outcome = .ok response ∧ response.status = 200 ∧
    ∀ kind, ∃ token claims, response.shownToken? kind = some token ∧
      arrival.service.codec.Says token claims ∧ claims.kind = kind ∧
      claims.exp.toInt = ends kind

variable {arrival : Arrival} {credentials : Credentials} {user : User}
  {ends ends' : TokenKind → Int}

/-- The tokens of an answer have one end each. -/
theorem Grants.unique (first : arrival.Grants ends) (second : arrival.Grants ends') :
    ends = ends' := by
  obtain ⟨response, ok, -, shows⟩ := first
  obtain ⟨response', ok', -, shows'⟩ := second
  obtain rfl := Except.ok.inj (ok.symm.trans ok')
  funext kind
  obtain ⟨token, claims, shown, said, -, here⟩ := shows kind
  obtain ⟨token', claims', shown', said', -, there⟩ := shows' kind
  obtain rfl := Option.some.inj (shown.symm.trans shown')
  obtain rfl := said.unique said'
  exact here.symm.trans there

namespace SignsIn

/-- **Whoever signs in is granted tokens of the lifetimes of the service**, if such tokens are
possible. -/
theorem grants (signsIn : arrival.SignsIn credentials user) (can : arrival.CanGrant) :
    arrival.Grants fun kind => arrival.state.now + arrival.service.lifetime kind := by
  obtain ⟨pair, loggedIn⟩ := State.login_right signsIn.answers signsIn.found signsIn.right
    (can.within .access) (can.within .secret)
  obtain ⟨owner, claims, new⟩ := State.exists_isNewToken_of_login loggedIn
  have answered := outcome_of_login signsIn.posts signsIn.read loggedIn
  rw [CookiePolicy.setPair?_eq_some_iff.2 ⟨can.dates, rfl⟩, Option.elim_some] at answered
  have posted : arrival.request.method ≠ "HEAD" := signsIn.posts.posted ▸ by decide
  obtain ⟨access, secret⟩ := Response.shownToken?_of_body (Router.body_finish posted .login
    { Response.ofJson 200 pair.json with
      cookies := [arrival.service.cookies.tokenCookie .access pair.access arrival.state.now,
        arrival.service.cookies.tokenCookie .secret pair.secret arrival.state.now] })
  refine ⟨_, answered, Router.status_finish _ _ _, fun kind => ?_⟩
  refine ⟨pair.token kind, claims kind, ?_, (new kind).said, (new kind).ofKind,
    (new kind).expiry⟩
  cases kind with
  | access => exact access
  | secret => exact secret

/-- Otherwise the service crashes. -/
theorem crashes (signsIn : arrival.SignsIn credentials user) (cannot : ¬ arrival.CanGrant) :
    arrival.outcome = .error .crashed := by
  by_cases within :
      ∀ kind, (Time.add? arrival.state.now (arrival.service.lifetime kind)).isSome
  · obtain ⟨pair, loggedIn⟩ := State.login_right signsIn.answers signsIn.found signsIn.right
      (within .access) (within .secret)
    have undated : arrival.service.cookies.setPair? pair arrival.state.now [] = none :=
      Option.eq_none_iff_forall_ne_some.2 fun jar set =>
        cannot ⟨within, (CookiePolicy.setPair?_eq_some_iff.1 set).1⟩
    rw [outcome_of_login signsIn.posts signsIn.read loggedIn, undated, Option.elim_none]
  · obtain ⟨kind, beyond⟩ := not_forall.1 within
    rw [Option.not_isSome_iff_eq_none] at beyond
    have now := State.now_callStore arrival.service arrival.state
      (.userByEmail credentials.email) nofun
    have crashed : (arrival.state.run arrival.service
        (arrival.service.login credentials)).1 = .error .crashed := by
      rw [State.run_login signsIn.answers signsIn.found, if_pos signsIn.right]
      exact State.run_issuePair_of_none (now.symm ▸ beyond)
    rw [outcome, (State.run_respond arrival.service arrival.state signsIn.posts.found
      signsIn.posts.noPreflight).1, Route.serve_login signsIn.posts.posted signsIn.read,
      (State.run_bind_error crashed _).1]
    rfl

end SignsIn

end Arrival

/-! ## Lifetimes that can be kept -/

/-- A configuration is read from the environment that the environment file leads to. -/
theorem Startup.exists_environment {given : Environment} {file : Option String}
    {configuration : Configuration} (read : Startup.configuration given file = .ok configuration) :
    ∃ loaded, environment given file = .ok loaded ∧
      Configuration.read loaded = .ok configuration := by
  rw [Startup.configuration] at read
  cases made : environment given file with
  | error fault =>
    rw [made] at read
    cases read
  | ok loaded =>
    rw [made] at read
    change (Configuration.read loaded).mapError StartupFault.invalid = .ok configuration at read
    refine ⟨loaded, rfl, ?_⟩
    cases settings : Configuration.read loaded with
    | error fault =>
      rw [settings] at read
      cases read
    | ok other =>
      rw [settings] at read
      exact congrArg Except.ok (Except.ok.inj read)

/-- The lifetimes of a service are the words of its settings with a sign. -/
theorem Service.lifetime_eq {settings : AuthSettings} {secure : Bool} {backend : RevocationBackend}
    {hashCost : Nat} {service : Service}
    (set : ofSettings settings secure backend hashCost = .ok service) (kind : TokenKind) :
    service.lifetime kind = signedSeconds (settings.lifetime kind) := by
  obtain ⟨codec, -, rfl⟩ := exists_eq_of_ofSettings set
  cases kind <;> rfl

namespace Arrival

variable {arrival : Arrival} {settings : AuthSettings} {secure : Bool}
  {backend : RevocationBackend} {hashCost : Nat}

/-- Lifetimes that end before the year 10000 are kept. -/
theorem canGrant_of_le
    (set : Service.ofSettings settings secure backend hashCost = .ok arrival.service)
    (begun : 0 ≤ arrival.state.now) (before : ∀ kind,
      arrival.state.now + (settings.lifetime kind).toNat ≤ HttpDate.latest) :
    arrival.CanGrant ∧
      ∀ kind, arrival.service.lifetime kind = (settings.lifetime kind).toNat := by
  simp only [HttpDate.latest] at before
  have kept (kind : TokenKind) :
      arrival.service.lifetime kind = (settings.lifetime kind).toNat := by
    have bound := before kind
    rw [Service.lifetime_eq set, signedSeconds_of_lt (by omega)]
  refine ⟨⟨fun kind => ?_, fun kind => ?_⟩, kept⟩
  · have bound := before kind
    rw [kept, Time.add?, if_pos]
    · rfl
    · simp only [Time.longestSpan, Time.earliest, Time.latest]
      omega
  · have bound := before kind
    rw [CookiePolicy.CanDate, Service.lifetime_cookies set, kept, HttpDate.IsWritable,
      HttpDate.IsWritable]
    simp only [HttpDate.earliest, HttpDate.latest]
    omega

/-- A longer lifetime is granted only as a negative one. -/
theorem CanGrant.lifetime_eq_sub (can : arrival.CanGrant)
    (set : Service.ofSettings settings secure backend hashCost = .ok arrival.service)
    {kind : TokenKind}
    (beyond : HttpDate.latest < arrival.state.now + (settings.lifetime kind).toNat) :
    arrival.service.lifetime kind = (settings.lifetime kind).toNat - UInt64.size := by
  have writable := (can.dates kind).2.2
  rw [Service.lifetime_cookies set, Service.lifetime_eq set] at writable
  rw [Service.lifetime_eq set]
  by_cases small : (settings.lifetime kind).toNat < 2 ^ 63
  · rw [signedSeconds_of_lt small] at writable
    omega
  · exact signedSeconds_of_le (Nat.le_of_not_lt small)

/-- Lifetimes that are kept end before the year 10000. -/
theorem SignsIn.le_of_grants {credentials : Credentials} {user : User}
    (signsIn : arrival.SignsIn credentials user)
    (set : Service.ofSettings settings secure backend hashCost = .ok arrival.service)
    (granted : arrival.Grants fun kind => arrival.state.now + (settings.lifetime kind).toNat)
    (kind : TokenKind) :
    arrival.state.now + (settings.lifetime kind).toNat ≤ HttpDate.latest := by
  by_cases can : arrival.CanGrant
  · have same : arrival.state.now + ((settings.lifetime kind).toNat : Int) =
        arrival.state.now + arrival.service.lifetime kind :=
      congrFun (granted.unique (signsIn.grants can)) kind
    by_contra beyond
    have wrapped := can.lifetime_eq_sub set (Int.not_le.1 beyond)
    simp only [UInt64.size] at wrapped
    omega
  · obtain ⟨response, ok, -⟩ := granted
    exact absurd (ok.symm.trans (signsIn.crashes can)) nofun

end Arrival

/-! ## A user of a service that has started -/

/-- An environment with two keys. -/
def Environment.withKeys : Environment :=
  (({} : Environment).set "JWT_ACCESS_KEY" "a").set "JWT_SECRET_KEY" "b"

/-- A user signs in at a service whose configuration has these keys. -/
theorem Arrival.exists_signsIn {configuration : Configuration}
    (access : configuration.auth.accessKey = "a") (secret : configuration.auth.secretKey = "b") :
    ∃ (service : Service) (state : State) (request : Request) (credentials : Credentials)
      (user : User), Service.ofSettings configuration.auth configuration.secureCookies
          configuration.backend Startup.hashCost = .ok service ∧
        Arrival.SignsIn ⟨service, state, request⟩ credentials user ∧ state.now = 60 := by
  obtain ⟨codec, keys⟩ := Service.exists_ofKeys
  obtain ⟨state, credentials, user, fits, calm, found, right, now⟩ := State.exists_first_user
  rw [← access, ← secret] at keys
  obtain ⟨service, set⟩ : ∃ service, Service.ofSettings configuration.auth
      configuration.secureCookies configuration.backend Startup.hashCost = .ok service := by
    rw [Service.ofSettings, keys]
    exact ⟨_, rfl⟩
  exact ⟨service, state, .toLogin credentials, credentials, user, set, ⟨posts_toLogin _ _ _,
    Request.read_toLogin fits, calm.answers found, found, right⟩, now⟩

/-! ## Logins under a configuration -/

/-- **A login keeps the configured lifetimes exactly if the tokens end before the year 10000.** The
configuration is read from any environment, with any environment file, and its keys can be used.
Then the lifetimes are the numbers that the variables for them hold, or the defaults. A user signs
in at any time since 1970 with the right password, and the store answers. If both tokens are to end
before the year 10000 the answer is a success, and each of them ends when its lifetime is over.
Otherwise it is not so: the service crashes, or a lifetime that needs all of the sixty-four bits is
taken as a negative one, and the token with it is over before it is handed out. -/
theorem login_lasts_as_configured {given : Environment} {file : Option String}
    {configuration : Configuration} (read : Startup.configuration given file = .ok configuration)
    {service : Service}
    (set : Service.ofSettings configuration.auth configuration.secureCookies configuration.backend
      Startup.hashCost = .ok service)
    {state : State} {request : Request} {credentials : Credentials} {user : User}
    (signsIn : Arrival.SignsIn ⟨service, state, request⟩ credentials user)
    (begun : 0 ≤ state.now) :
    ∃ (loaded : Environment) (number : TokenKind → Nat),
      Startup.environment given file = .ok loaded ∧
      (∀ kind, Configuration.Gives loaded (Configuration.lifetimeKey kind)
        (({} : AuthSettings).lifetime kind).toNat (number kind)) ∧
      (Arrival.Grants ⟨service, state, request⟩ (fun kind => state.now + number kind) ↔
        ∀ kind, state.now + number kind ≤ HttpDate.latest) ∧
      ((∃ kind, HttpDate.latest < state.now + number kind) →
        Arrival.outcome ⟨service, state, request⟩ = .error .crashed ∨
          ∃ ends, Arrival.Grants ⟨service, state, request⟩ ends ∧
            ∃ kind, ends kind = state.now + number kind - UInt64.size ∧ ends kind < state.now) := by
  obtain ⟨loaded, environment, settings⟩ := Startup.exists_environment read
  let arrival : Arrival := ⟨service, state, request⟩
  refine ⟨loaded, fun kind => (configuration.auth.lifetime kind).toNat, environment,
    Configuration.gives_lifetime settings,
    ⟨fun granted => signsIn.le_of_grants set granted, fun before => ?_⟩, ?_⟩
  · obtain ⟨can, kept⟩ : arrival.CanGrant ∧ _ := Arrival.canGrant_of_le set begun before
    have ends : (fun kind => state.now + service.lifetime kind) =
        fun kind => state.now + ((configuration.auth.lifetime kind).toNat : Int) :=
      funext fun kind => congrArg (state.now + ·) (kept kind)
    exact ends ▸ signsIn.grants can
  · rintro ⟨kind, beyond⟩
    by_cases can : arrival.CanGrant
    · have wrapped : service.lifetime kind =
          (configuration.auth.lifetime kind).toNat - UInt64.size := can.lifetime_eq_sub set beyond
      have below := (configuration.auth.lifetime kind).toNat_lt
      refine .inr ⟨_, signsIn.grants can, kind, ?_, ?_⟩
      · dsimp only
        omega
      · dsimp only [UInt64.size] at wrapped ⊢
        omega
    · exact .inl (signsIn.crashes can)

/-- By default the access token of a login ends after a minute and the secret token after five. -/
theorem login_lasts_as_configured_by_default : ∃ (configuration : Configuration)
    (service : Service) (state : State) (request : Request) (credentials : Credentials)
    (user : User), Startup.configuration .withKeys none = .ok configuration ∧
      Service.ofSettings configuration.auth configuration.secureCookies configuration.backend
        Startup.hashCost = .ok service ∧
      Arrival.SignsIn ⟨service, state, request⟩ credentials user ∧ state.now = 60 ∧
      ∃ ends, Arrival.Grants ⟨service, state, request⟩ ends ∧ ends .access = 120 ∧
        ends .secret = 360 := by
  let configuration : Configuration := { auth := { accessKey := "a", secretKey := "b" } }
  have read : Startup.configuration .withKeys none = .ok configuration := by decide +kernel
  obtain ⟨service, state, request, credentials, user, set, signsIn, now⟩ :=
    @Arrival.exists_signsIn configuration rfl rfl
  have begun : 0 ≤ state.now := by omega
  obtain ⟨loaded, number, environment, gives, keeps, -⟩ :=
    login_lasts_as_configured read set signsIn begun
  have none : ∀ kind, Environment.withKeys.text? (Configuration.lifetimeKey kind) = none := by
    rintro (_ | _) <;> decide +kernel
  have defaults : ∀ kind, number kind = (({} : AuthSettings).lifetime kind).toNat := by
    intro kind
    obtain rfl : Environment.withKeys = loaded := Except.ok.inj environment
    exact (gives kind).eq_of_missing (none kind)
  have access : number .access = 60 := defaults .access
  have secret : number .secret = 300 := defaults .secret
  refine ⟨configuration, service, state, request, credentials, user, read, set, signsIn, now, _,
    keeps.2 ?_, ?_, ?_⟩
  · rintro (_ | _)
    · rw [access, now]
      decide
    · rw [secret, now]
      decide
  · rw [access, now]
    rfl
  · rw [secret, now]
    rfl

/-- It is not so that a login keeps every lifetime that is accepted: the greatest number of
sixty-four bits is accepted as the lifetime of secret tokens. -/
theorem not_login_lasts_as_configured : ¬ ∀ (given : Environment) (file : Option String)
    (configuration : Configuration), Startup.configuration given file = .ok configuration →
    ∀ service, Service.ofSettings configuration.auth configuration.secureCookies
        configuration.backend Startup.hashCost = .ok service →
    ∀ (state : State) (request : Request) (credentials : Credentials) (user : User),
      Arrival.SignsIn ⟨service, state, request⟩ credentials user → 0 ≤ state.now →
      state.now ≤ 32535215999 → ∀ (loaded : Environment) (number : TokenKind → Nat),
        Startup.environment given file = .ok loaded →
        (∀ kind, Configuration.Gives loaded (Configuration.lifetimeKey kind)
          (({} : AuthSettings).lifetime kind).toNat (number kind)) →
        Arrival.Grants ⟨service, state, request⟩ fun kind => state.now + number kind := by
  intro always
  let given := Environment.withKeys.set "JWT_EXP" "18446744073709551615"
  let configuration : Configuration := { auth :=
    { accessKey := "a", secretKey := "b", secretLifetime := 18446744073709551615 } }
  have settings : Configuration.read given = .ok configuration := by decide +kernel
  have read : Startup.configuration given none = .ok configuration := by decide +kernel
  obtain ⟨service, state, request, credentials, user, set, signsIn, now⟩ :=
    @Arrival.exists_signsIn configuration rfl rfl
  have granted := always given none configuration read service set state request credentials user
    signsIn (by omega) (by omega) given _ rfl (Configuration.gives_lifetime settings)
  have before : state.now + ((18446744073709551615 : UInt64).toNat : Int) ≤ 253402300799 :=
    signsIn.le_of_grants set granted .secret
  have number : (18446744073709551615 : UInt64).toNat = 18446744073709551615 := by decide
  omega

end DualToken
