import DualToken.Proofs.Account.Keys
import DualToken.Proofs.Http.Passwords
import DualToken.Proofs.Service.Decision
import DualToken.Proofs.Service.Freshness

/-!
# Logging in

A login looks for the row of an email, compares the password, and only then draws names and makes
tokens current. So a login that fails has drawn no name and has changed nothing
(`State.failed_login`), and one that succeeds hands out two tokens of a new session that say of the
user what the row says (`Service.IsNewToken`). Such a token validates at once, unless it is recorded
(`Service.IsNewToken.validates`). Both together are `login_opens`.
-/

set_option autoImplicit false

namespace DualToken

open Operation Service

/-- The token of a kind. -/
def TokenPair.token (pair : TokenPair) : TokenKind → String
  | .access => pair.access
  | .secret => pair.secret

namespace Service

variable {service : Service} {user : User} {session token : String} {kind : TokenKind}
  {claims : Claims} {now : Int}

/-- The lifetime of tokens of a kind, in seconds. -/
def lifetime (service : Service) : TokenKind → Int
  | .access => service.accessLifetime
  | .secret => service.secretLifetime

/-- What a service takes over from its settings. -/
theorem exists_eq_of_ofSettings {settings : AuthSettings} {secure : Bool}
    {backend : RevocationBackend} {hashCost : Nat}
    (set : ofSettings settings secure backend hashCost = .ok service) :
    ∃ codec, Codec.ofKeys settings.accessKey settings.secretKey = .ok codec ∧
      service = ⟨codec, signedSeconds settings.accessLifetime,
        signedSeconds settings.secretLifetime, signedSeconds settings.renewalWindow,
        .ofSettings secure settings, backend, hashCost⟩ := by
  rw [ofSettings] at set
  cases made : Codec.ofKeys settings.accessKey settings.secretKey with
  | error error =>
    rw [made] at set
    cases set
  | ok codec =>
    rw [made] at set
    exact ⟨codec, rfl, (Except.ok.inj set).symm⟩

/-- There are keys that can be used. -/
theorem exists_ofKeys : ∃ codec, Codec.ofKeys "a" "b" = .ok codec := by
  rw [Codec.ofKeys, if_neg (by decide), if_neg (by decide), if_neg (by decide)]
  exact ⟨_, rfl⟩

/-- There is a service whose access tokens last for fifteen minutes and whose secret tokens last for
a day. -/
theorem exists_ofSettings : ∃ (settings : AuthSettings) (codec : Codec),
    settings.accessLifetime = 900 ∧ settings.secretLifetime = 86400 ∧
      ofSettings settings true .table 4 =
        .ok ⟨codec, 900, 86400, 15, ⟨true, 900, 86400⟩, .table, 4⟩ := by
  obtain ⟨codec, keys⟩ := exists_ofKeys
  let settings : AuthSettings :=
    { accessKey := "a", secretKey := "b", accessLifetime := 900, secretLifetime := 86400 }
  have seconds : signedSeconds 900 = 900 ∧ signedSeconds 86400 = 86400 := by decide
  refine ⟨settings, codec, rfl, rfl, ?_⟩
  rw [ofSettings, keys]
  dsimp only [Except.map, CookiePolicy.ofSettings, settings]
  rw [seconds.1, seconds.2]
  rfl

/-! ## New tokens -/

/-- The token is one of a kind that is made now, for a session of the user. -/
structure IsNewToken (service : Service) (now : Int) (user : User) (session : String)
    (kind : TokenKind) (token : String) (claims : Claims) : Prop where
  issued : token = service.codec.issue claims
  ofKind : claims.kind = kind
  inSession : claims.sid = session
  /-- The claims say of the user what its row says. -/
  identity : Identity.ofClaims claims = Identity.ofUser user
  issuedAt : claims.iat.toInt = now
  /-- The token is over when the lifetime of its kind is. -/
  expiry : claims.exp.toInt = now + service.lifetime kind

/-- The claims that are made for a user are those of a new token. -/
theorem isNewToken_forUser {expiry : Int}
    (within : Time.add? now (service.lifetime kind) = some expiry)
    (user : User) (session name : String) :
    service.IsNewToken now user session kind
      (service.codec.issue (Claims.forUser user session name kind now expiry))
      (Claims.forUser user session name kind now expiry) := by
  obtain ⟨rfl, issuedAt, fits⟩ := Time.toInt_ofInt_of_add? within
  exact ⟨rfl, rfl, rfl, rfl, issuedAt, fits⟩

namespace IsNewToken

theorem said (new : service.IsNewToken now user session kind token claims) :
    service.codec.Says token claims :=
  new.issued ▸ service.codec.says_issue claims

/-- A new token lasts for a while. -/
theorem running (new : service.IsNewToken now user session kind token claims)
    (positive : 0 < service.lifetime kind) : now < claims.exp.toInt := by
  have expiry := new.expiry
  omega

theorem decoded (new : service.IsNewToken now user session kind token claims) (early : 0 ≤ now)
    (positive : 0 < service.lifetime kind) :
    service.codec.decodeAt token kind now = .ok claims := by
  rw [new.issued, ← new.ofKind]
  exact Codec.decodeAt_issue_of_lt early (new.running positive)

/-- **A new token validates**, if it is not recorded and no store fails. -/
theorem validates {state : State}
    (new : service.IsNewToken state.now user session kind token claims) (early : 0 ≤ state.now)
    (positive : 0 < service.lifetime kind)
    (found : state.directory.userById user.id = .ok (some user))
    (plain : state.Plans Incident.IsPlain) (absent : ¬ state.Holds service token)
    (succeed : ∀ performed ∈ state.trace service (service.validate token kind),
      performed.action.Succeeds performed.reply) :
    (state.run service (service.validate token kind)).1 = .ok claims := by
  obtain ⟨recorded, asked⟩ := State.exists_answer fun performed member =>
    succeed performed (State.mem_trace_bind (service.verify token kind)
      (State.mem_trace_bind (isRevoked token) member))
  change Bool at recorded
  have ran : (state.run service (isRevoked token)).1 = .ok recorded :=
    congrArg Prod.fst (State.goes_callStore asked).run
  obtain rfl : recorded = false :=
    Bool.eq_false_iff.2 fun yes => absent ((State.isRevoked_iff_holds plain ran).1 yes)
  have clear : state.Answers service (.lookup token) false := State.answers_iff.2 ran
  have decoded := new.decoded early positive
  have verified : state.Goes service (service.verify token kind) claims
      (state.behindLookup service token) := by
    refine ⟨?_, fun performed member => succeed performed (State.mem_trace_bind _ member)⟩
    rw [(State.run_verify_of_clear clear kind).1, decoded]
    rfl
  obtain ⟨row, looked⟩ := State.exists_answer fun performed member =>
    verified.succeed_next succeed performed (State.mem_trace_bind (callStore (.userById claims.sub))
      member)
  have answered : (state.behindLookup service token).Answers service (.userById claims.sub) row :=
    State.answers_iff.2 (congrArg Prod.fst (State.goes_callStore looked).run)
  have own : claims.sub = user.id := congrArg Identity.userId new.identity
  exact State.ok_of_admits ⟨⟨clear, decoded⟩, ⟨row, answered⟩,
    ⟨user, own ▸ Directory.userById_eq_ok_iff.1 found, new.identity⟩⟩

end IsNewToken

end Service

namespace State

variable {service : Service} {state : State} {credentials : Credentials} {user : User}

/-! ## New sessions -/

/-- Both tokens of a new session are in the cache. -/
theorem get?_opened {session : String} {pair : TokenPair} {expiresAt : Int64}
    (running : state.now < expiresAt.toInt) (kind : TokenKind) :
    (state.opened session pair expiresAt).sessions.get? session kind state.now =
      some (pair.token kind) := by
  cases kind with
  | access =>
    have access : (state.sessions.set session .access pair.access expiresAt state.now).Keeps session
        .access pair.access expiresAt.toInt := SessionCache.keeps_set_self expiresAt state.now
    have different : TokenKind.access ≠ .secret := nofun
    exact (access.set_of_ne_kind different expiresAt state.now).get? running
  | secret => exact (SessionCache.keeps_set_self expiresAt state.now).get? running

/-- Issuing a pair draws a name for the session and one for each token. -/
theorem Goes.newNames_issuePair {access secret : Claims} {after : State}
    (goes : state.Goes service (service.issuePair user)
      ⟨service.codec.issue access, service.codec.issue secret⟩ after) :
    newNames (state.trace service (service.issuePair user)) =
      [TokenName.ofCount (state.namesDrawn + 1), access.jti, secret.jti] := by
  have draws : state.Goes service drawName _ _ := goes_drawName state
  obtain ⟨ran, traced⟩ := draws.run_bind (service.issueIn user)
  have outcome := congrArg Prod.fst goes.run
  rw [issuePair_eq] at outcome ⊢
  rw [ran] at outcome
  rw [traced, newNames_append, trace_drawName]
  rcases issueIn_cases service _ user (TokenName.ofCount (state.namesDrawn + 1)) with
    ⟨-, failure, failed⟩ | ⟨access', secret', names, -, ok⟩
  · exact absurd (outcome.symm.trans failed) nofun
  · obtain ⟨same, same'⟩ := TokenPair.mk.inj (Except.ok.inj (outcome.symm.trans ok))
    rw [names, service.codec.issue_injective same, service.codec.issue_injective same']
    rfl

/-- **Issuing a pair opens a new session**: three names are drawn, one for the session and one for
each of two new tokens, and both tokens are current. -/
theorem exists_goes_issuePair (service : Service) (state : State) (user : User)
    (positive : ∀ kind, 0 < service.lifetime kind)
    (within : ∀ kind, (Time.add? state.now (service.lifetime kind)).isSome) :
    ∃ (pair : TokenPair) (session : String) (claims : TokenKind → Claims) (expiresAt : Int64),
      state.Goes service (service.issuePair user) pair (state.opened session pair expiresAt) ∧
      state.now < expiresAt.toInt ∧
      newNames (state.trace service (service.issuePair user)) =
        [session, (claims .access).jti, (claims .secret).jti] ∧
      (claims .access).jti ≠ (claims .secret).jti ∧
      ∀ kind, service.IsNewToken state.now user session kind (pair.token kind) (claims kind) := by
  obtain ⟨accessEnd, within₁⟩ := Option.isSome_iff_exists.1 (within .access)
  obtain ⟨secretEnd, within₂⟩ := Option.isSome_iff_exists.1 (within .secret)
  obtain ⟨access, made⟩ : ∃ access, access = Claims.forUser user
    (TokenName.ofCount (state.namesDrawn + 1)) (TokenName.ofCount (state.namesDrawn + 2)) .access
      state.now accessEnd := ⟨_, rfl⟩
  obtain ⟨secret, made'⟩ : ∃ secret, secret = Claims.forUser user
    (TokenName.ofCount (state.namesDrawn + 1)) (TokenName.ofCount (state.namesDrawn + 3)) .secret
      state.now secretEnd := ⟨_, rfl⟩
  have goes := goes_issuePair_opened within₁ within₂ made made'
  have session : secret.sid = TokenName.ofCount (state.namesDrawn + 1) := made' ▸ rfl
  have new := isNewToken_forUser within₁ user (TokenName.ofCount (state.namesDrawn + 1))
    (TokenName.ofCount (state.namesDrawn + 2))
  have new' := isNewToken_forUser within₂ user (TokenName.ofCount (state.namesDrawn + 1))
    (TokenName.ofCount (state.namesDrawn + 3))
  rw [← made] at new
  rw [← made'] at new'
  refine ⟨_, TokenName.ofCount (state.namesDrawn + 1), fun
    | .access => access
    | .secret => secret, secret.exp, session ▸ goes, new'.running (positive .secret),
    goes.newNames_issuePair, ?_, fun kind => ?_⟩
  · rw [made, made']
    intro same
    have count : state.namesDrawn + 2 = state.namesDrawn + 3 := TokenName.ofCount_injective same
    omega
  · cases kind with
    | access => exact new
    | secret => exact new'

/-- Claims that are made for a user are those of a new token, and making them takes no time. -/
theorem isNewToken_of_claimsForUser {kind : TokenKind} {claims : Claims} {session : String}
    {lifetime : Int} (own : lifetime = service.lifetime kind)
    (ok : (state.run service (claimsForUser user session kind lifetime)).1 = .ok claims) :
    service.IsNewToken state.now user session kind (service.codec.issue claims) claims ∧
      (state.run service (claimsForUser user session kind lifetime)).2.now = state.now := by
  subst own
  cases within : Time.add? state.now (service.lifetime kind) with
  | none =>
    rw [claimsForUser, ((goes_clock state).run_bind _).1, within] at ok
    cases ok
  | some expiry =>
    rw [(goes_claimsForUser within).run] at ok ⊢
    obtain rfl := Except.ok.inj ok
    exact ⟨isNewToken_forUser within user session _, rfl⟩

/-- **What is handed out as a pair are two new tokens** of a session whose name is drawn for it. -/
theorem exists_isNewToken_of_issuePair {pair : TokenPair}
    (ok : (state.run service (service.issuePair user)).1 = .ok pair) :
    ∃ claims : TokenKind → Claims, ∀ kind, service.IsNewToken state.now user
      (TokenName.ofCount (state.namesDrawn + 1)) kind (pair.token kind) (claims kind) := by
  rw [issuePair_eq, ((goes_drawName state).run_bind _).1, issueIn] at ok
  obtain ⟨access, made, rest⟩ := exists_ok_of_bind ok
  obtain ⟨secret, made', rest⟩ := exists_ok_of_bind rest
  obtain ⟨_, -, rest⟩ := exists_ok_of_bind rest
  obtain ⟨_, -, rest⟩ := exists_ok_of_bind rest
  obtain rfl := Except.ok.inj rest
  have lifetime : service.accessLifetime = service.lifetime .access := rfl
  have lifetime' : service.secretLifetime = service.lifetime .secret := rfl
  obtain ⟨new, now⟩ := isNewToken_of_claimsForUser lifetime made
  obtain ⟨new', -⟩ := isNewToken_of_claimsForUser lifetime' made'
  rw [now] at new'
  refine ⟨fun
    | .access => access
    | .secret => secret, fun kind => ?_⟩
  cases kind with
  | access => exact new
  | secret => exact new'

/-- A login hands out two new tokens of its user, in a session whose name is drawn for it. -/
theorem exists_isNewToken_of_login {pair : TokenPair}
    (ok : (state.run service (service.login credentials)).1 = .ok pair) :
    ∃ (user : User) (claims : TokenKind → Claims), ∀ kind, service.IsNewToken state.now user
      (TokenName.ofCount (state.namesDrawn + 1)) kind (pair.token kind) (claims kind) := by
  have mintless : (authenticate credentials).Obeys MintsNothing (fun _ _ => True) fun _ => True :=
    obeys_authenticate fun _ => ⟨rfl, rfl⟩
  have nameless := (mintsNothing_of_obeys service mintless state).1
  have now := (Ends.run service (ends_authenticate state credentials).keepsUsers).2.now
  have count : (state.run service (authenticate credentials)).2.namesDrawn = state.namesDrawn :=
    Draws.last_eq_of_none (draws_run (authenticate credentials).run state) nameless
  rw [login_eq] at ok
  obtain ⟨user, -, issued⟩ := exists_ok_of_bind ok
  obtain ⟨claims, new⟩ := exists_isNewToken_of_issuePair issued
  rw [now, count] at new
  exact ⟨user, claims, new⟩

/-! ## Logins that fail -/

/-- **A login that fails has changed nothing and has drawn no name.** It fails for the credentials
or for storage, if there are times at which the tokens end. -/
theorem failed_login {failure : Failure} (positive : ∀ kind, 0 < service.lifetime kind)
    (within : ∀ kind, (Time.add? state.now (service.lifetime kind)).isSome)
    (failed : (state.run service (service.login credentials)).1 = .error failure) :
    (failure = .refused .invalidCredentials ∨ failure.IsOfStorage) ∧
      newNames (state.trace service (service.login credentials)) = [] ∧
      OnlyDisturbed service (storeCalls (state.trace service (service.login credentials))) state
        (state.run service (service.login credentials)).2 ∧
      (state.Plans Incident.IsPlain →
        state.Unchanged (state.run service (service.login credentials)).2) := by
  have ends := ends_authenticate state credentials
  have reads : (authenticate credentials).Obeys Action.Reads (fun _ _ => True) fun _ => True :=
    obeys_authenticate (.userByEmail credentials.email)
  have mintless : (authenticate credentials).Obeys MintsNothing (fun _ _ => True) fun _ => True :=
    obeys_authenticate fun _ => ⟨rfl, rfl⟩
  rw [login_eq] at failed ⊢
  cases outcome : (state.run service (authenticate credentials)).1 with
  | ok user =>
    have now := (Ends.run service ends.keepsUsers).2.now
    rw [← now] at within
    obtain ⟨pair, _, _, _, issues, -⟩ := exists_goes_issuePair service _ user positive within
    rw [(run_bind_ok outcome _).1, issues.run] at failed
    exact absurd failed nofun
  | error other =>
    obtain ⟨ran, traced⟩ := run_bind_error outcome service.issuePair
    rw [ran] at failed ⊢
    rw [traced]
    obtain rfl := Except.error.inj failed
    exact ⟨Ends.of_error ends.keepsUsers outcome, (mintsNothing_of_obeys service mintless state).1,
      onlyDisturbed_of_reads reads state, unchanged_of_reads ends⟩

/-! ## Logins that succeed -/

/-- A login has opened a session of the user: a name is drawn for it and one for each of two new
tokens, both are current in it, and each of them validates, unless it was recorded before. Whoever
validates them may do so behind other checks, since a check leaves the state unchanged. -/
structure Opens (service : Service) (state : State) (credentials : Credentials) (user : User)
    (pair : TokenPair) (session : String) (claims : TokenKind → Claims) : Prop where
  names : newNames (state.trace service (service.login credentials)) =
    [session, (claims .access).jti, (claims .secret).jti]
  different : (claims .access).jti ≠ (claims .secret).jti
  new (kind : TokenKind) :
    service.IsNewToken state.now user session kind (pair.token kind) (claims kind)
  current (kind : TokenKind) :
    (state.run service (service.login credentials)).2.sessions.get? session kind state.now =
      some (pair.token kind)
  valid (kind : TokenKind) : ¬ state.Holds service (pair.token kind) → ∀ checked : State,
    (state.run service (service.login credentials)).2.Unchanged checked →
      checked.Plans Incident.IsPlain →
        (∀ performed ∈ checked.trace service (service.validate (pair.token kind) kind),
          performed.action.Succeeds performed.reply) →
        (checked.run service (service.validate (pair.token kind) kind)).1 = .ok (claims kind)

/-- The user of an email gives the right password. -/
theorem run_authenticate
    (answers : StoreReply.Succeeds
      (state.perform service (.store (.userByEmail credentials.email))).1)
    (found : state.directory.userByEmail credentials.email = .ok (some user))
    (right : Directory.comparePasswords user.passwordHash credentials.password = true) :
    (state.run service (authenticate credentials)).1 = .ok user := by
  refine (congrArg Prod.fst (run_bind_ok (run_userByEmail answers found) _).1).trans ?_
  dsimp only
  rw [if_pos right]
  rfl

/-- **A login with the right password opens a session**, if no store fails. -/
theorem exists_opens (early : 0 ≤ state.now) (positive : ∀ kind, 0 < service.lifetime kind)
    (within : ∀ kind, (Time.add? state.now (service.lifetime kind)).isSome)
    (found : state.directory.userByEmail credentials.email = .ok (some user))
    (found' : state.directory.userById user.id = .ok (some user))
    (right : Directory.comparePasswords user.passwordHash credentials.password = true)
    (plain : state.Plans Incident.IsPlain)
    (succeed : ∀ performed ∈ state.trace service (service.login credentials),
      performed.action.Succeeds performed.reply) :
    ∃ pair session claims, (state.run service (service.login credentials)).1 = .ok pair ∧
      state.Opens service credentials user pair session claims := by
  obtain ⟨value, answered⟩ := exists_answer fun performed member =>
    succeed performed (mem_trace_bind (callStore (.userByEmail credentials.email)) member)
  have known := run_authenticate ⟨value, congrArg Prod.fst answered⟩ found right
  have unchanged : state.Unchanged (state.run service (authenticate credentials)).2 :=
    unchanged_of_reads (ends_authenticate state credentials) plain
  have mintless : (authenticate credentials).Obeys MintsNothing (fun _ _ => True) fun _ => True :=
    obeys_authenticate fun _ => ⟨rfl, rfl⟩
  have nameless := (mintsNothing_of_obeys service mintless state).1
  obtain ⟨ran, traced⟩ := run_bind_ok known service.issuePair
  rw [← login_eq] at ran traced
  generalize (state.run service (authenticate credentials)).2 = asked at ran traced unchanged
  have now : asked.now = state.now := unchanged.now
  rw [← now] at early within
  obtain ⟨pair, session, claims, expiresAt, issues, running, names, different, new⟩ :=
    exists_goes_issuePair service asked user positive within
  rw [issues.run] at ran
  refine ⟨pair, session, claims, congrArg Prod.fst ran, ?_, different, now ▸ new, fun kind => ?_,
    fun kind absent checked same plain' succeed' => ?_⟩
  · rw [traced, newNames_append, nameless, names]
    rfl
  · rw [ran, ← now]
    exact get?_opened running kind
  · rw [ran] at same
    have now' : checked.now = asked.now := same.now
    have directory : checked.directory = state.directory :=
      same.directory.trans unchanged.directory
    have absent' : ¬ checked.Holds service (pair.token kind) := fun holds =>
      absent (unchanged.records.holds_iff.1 (same.records.holds_iff.1 holds))
    exact IsNewToken.validates (now'.symm ▸ new kind) (now'.symm ▸ early) (positive kind)
      (directory.symm ▸ found') plain' absent' succeed'

end State

/-- **A fresh login is valid at once.** Let there be times at which tokens of both kinds end, later
than now. Whatever became of a directory without users, a stored row whose role is known is the one
that its email and its number find; if the password is right and no store fails, a login hands out
two new tokens of a new session, which are what the cache shows for it, and both of them validate at
once, as what they were made for, unless they were recorded before. A login that fails, for whatever
reason, has drawn no name and has changed nothing. -/
theorem login_opens {service : Service} {state : State} (early : 0 ≤ state.now)
    (positive : ∀ kind, 0 < service.lifetime kind)
    (within : ∀ kind, (Time.add? state.now (service.lifetime kind)).isSome) :
    (∀ start row user credentials, Later service start state → start.directory = {} →
      state.directory.Stores row user → credentials.email = row.email →
      Directory.comparePasswords row.passwordHash credentials.password = true →
      state.Plans Incident.IsPlain →
      (∀ performed ∈ state.trace service (service.login credentials),
        performed.action.Succeeds performed.reply) →
      ∃ pair session claims, (state.run service (service.login credentials)).1 = .ok pair ∧
        state.Opens service credentials user pair session claims) ∧
    ∀ credentials failure, (state.run service (service.login credentials)).1 = .error failure →
      (failure = .refused .invalidCredentials ∨ failure.IsOfStorage) ∧
        newNames (state.trace service (service.login credentials)) = [] ∧
        State.OnlyDisturbed service (storeCalls (state.trace service (service.login credentials)))
          state (state.run service (service.login credentials)).2 ∧
        (state.Plans Incident.IsPlain →
          state.Unchanged (state.run service (service.login credentials)).2) := by
  refine ⟨fun start row user credentials run empty stores email right plain succeed => ?_,
    fun credentials failure failed => State.failed_login positive within failed⟩
  have keyed := run.isKeyed empty
  have found := keyed.userByEmail stores
  have found' := keyed.userById stores
  rw [← email] at found
  rw [← UserRow.id_of_user stores.2] at found'
  rw [← UserRow.passwordHash_of_user stores.2] at right
  exact State.exists_opens early positive within found found' right plain succeed

/-- The first user of a service is created and logs in, and both tokens validate at once. -/
theorem logged_in_behind_creation :
    ∃ (service : Service) (start state : State) (credentials : Credentials) (user : User)
      (pair : TokenPair) (session : String) (claims : TokenKind → Claims),
      Later service start state ∧ start.directory = {} ∧
        (state.run service (service.login credentials)).1 = .ok pair ∧
        state.Opens service credentials user pair session claims ∧
        ∀ kind, ((state.run service (service.login credentials)).2.run service
          (service.validate (pair.token kind) kind)).1 = .ok (claims kind) := by
  let service : Service := ⟨⟨[1], [2]⟩, 900, 86400, 300, ⟨true, 900, 86400⟩, .table, 4⟩
  let form : NewUser :=
    ⟨"Ada", "Byron", "ada@example.org", "password1", "1", "London", .customer⟩
  let credentials : Credentials := ⟨"ada@example.org", "password1"⟩
  let start : State := { now := 60 }
  let state : State := { start with directory := (start.directory.createUser 4 60 form).2 }
  have run : Later service start state := .single (.event (.createUser form))
  have created : ∃ user, (start.directory.createUser 4 60 form).1 = .ok user :=
    Directory.exists_createUser_ok rfl rfl (by decide) rfl 60
  rcases Directory.createUser_cases start.directory 4 60 form with
    ⟨error, failed, -⟩ | ⟨table, row, user, read, -, adds⟩
  · obtain ⟨user, made⟩ := created
    exact absurd (made.symm.trans failed) nofun
  have stores : state.directory.Stores row user := by
    refine ⟨⟨_, congrArg Directory.table adds.after_eq, ?_⟩, read⟩
    exact List.mem_append_right _ (List.mem_singleton.2 rfl)
  have email : credentials.email = row.email := by
    rw [adds.inserts.inserted_eq]
    rfl
  have right : Directory.comparePasswords row.passwordHash credentials.password = true :=
    PasswordHash.verify_hash (Directory.length_salt _) adds.hashed
  -- how the login and the checks go is known where nothing is planned
  have calm : state.IsCalm := ⟨rfl, rfl, rfl⟩
  have whole : state.IsWhole service {} := ⟨rfl, calm, rfl⟩
  have plain : ∀ {middle : State}, middle.IsCalm → middle.Plans Incident.IsPlain :=
    fun calm incident planned => absurd planned (calm.not_planned incident)
  have early : 0 ≤ state.now := by decide
  have positive : ∀ kind, 0 < service.lifetime kind := by
    rintro (_ | _)
    · decide
    · decide
  have within : Time.add? state.now service.accessLifetime = some 960 := rfl
  have within' : Time.add? state.now service.secretLifetime = some 86460 := rfl
  have found := (run.isKeyed rfl).userByEmail stores
  have found' := (run.isKeyed rfl).userById stores
  rw [← email] at found
  rw [← UserRow.id_of_user read] at found'
  obtain ⟨calls, sessions, -, goes⟩ := State.goes_login calm found
    (UserRow.passwordHash_of_user read ▸ right) within within' rfl rfl
  obtain ⟨pair, session, claims, ok, opens⟩ := (login_opens early positive fun
    | .access => rfl
    | .secret => rfl).1 start row user credentials run rfl stores email right (plain calm)
      goes.succeed
  refine ⟨service, start, state, credentials, user, pair, session, claims, run, rfl, ok, opens,
    fun kind => ?_⟩
  have new := opens.new kind
  have own : (claims kind).sub = user.id := congrArg Identity.userId new.identity
  have later := whole.frame (state.namesDrawn + 3) sessions calls
  obtain ⟨_, checks⟩ := later.goes_validate rfl (new.decoded early (positive kind))
    (own ▸ found') (Claims.matches_of_identity new.identity)
  have absent : ¬ state.Holds service (pair.token kind) := by
    rw [whole.holds_iff]
    exact nofun
  rw [goes.run]
  exact opens.valid kind absent _ (by rw [goes.run]; exact .refl _)
    (plain later.calm) checks.succeed

end DualToken
