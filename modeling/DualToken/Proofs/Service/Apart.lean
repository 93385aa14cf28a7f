import DualToken.Proofs.Revocation.Growth
import DualToken.Proofs.Service.Reachable
import DualToken.Proofs.Service.Refusal
import DualToken.Proofs.Service.Success

/-!
# What operations on some sessions leave alone

An operation on some sessions, whatever incidents it meets, leaves all other sessions alone
(`Apart`): the record grows only by tokens that say they belong to one of its sessions, and the
cache shows for every other session what it showed before. This is an invariant of every single
action, so it holds in the middle of an operation as well as behind it.

What an operation is given may be any text. The sessions of refreshing, renewing and logging out are
those of well signed secret tokens only, and a login works on the session that it names.
-/

set_option autoImplicit false

namespace DualToken

open Operation Service

variable {service : Service} {sessions : String → Prop} {start state : State}

/-! ## Sessions of secret tokens -/

/-- The session of a secret token that is well signed. -/
def Service.SessionOf (service : Service) (secretToken session : String) : Prop :=
  ∃ claims, Codec.verify? service.codec.secretKey secretToken = some claims ∧ claims.sid = session

theorem Service.concerns_of_sessionOf {secretToken : String}
    (own : ∀ session, service.SessionOf secretToken session → sessions session) :
    service.Concerns sessions secretToken :=
  fun claims read => own claims.sid ⟨claims, read, rfl⟩

/-- The incident concerns only some of the sessions: no other writer comes first, and a logout that
comes first is of one of them. -/
inductive Incident.IsOn (service : Service) (sessions : String → Prop) : Incident → Prop
  | pass : IsOn service sessions .pass
  | fail : IsOn service sessions .fail
  | hang : IsOn service sessions .hang
  | logout {secretToken : String} (concerns : service.Concerns sessions secretToken) :
      IsOn service sessions (.logout secretToken)

/-! ## The invariant -/

/-- The token says that it belongs to one of the sessions. -/
def Codec.OfSome (codec : Codec) (sessions : String → Prop) (token : String) : Prop :=
  ∃ session, sessions session ∧ codec.OfSession session token

namespace State

/-- Since the start only what belongs to some sessions has changed. -/
structure Apart (service : Service) (sessions : String → Prop) (start state : State) : Prop where
  sorted : state.IsSorted service
  unique : state.sessions.IsUnique
  /-- No other writer is waiting. -/
  alone : state.revocations.server.rivals = []
  plans : state.Plans (Incident.IsOn service sessions)
  now : state.now = start.now
  /-- The record has grown by tokens of these sessions. -/
  grows : RevocationStore.Grows service.backend (service.codec.OfSome sessions) start.revocations
    state.revocations
  /-- The cache shows the same for every other session. -/
  elsewhere : ∀ session kind, ¬ sessions session →
    state.sessions.get? session kind start.now = start.sessions.get? session kind start.now

/-- The call is carried out for some of the sessions. -/
theorem Apart.answer (apart : Apart service sessions start state) {call : StoreCall}
    (deed : Deed service sessions (.store call)) :
    Apart service sessions start (state.answer service call).2 := by
  obtain ⟨sorted, unique, alone, plans, now, grows, elsewhere⟩ := apart
  cases deed with
  | ask asks =>
    cases call with
    | record token => exact asks.elim
    | lookup token =>
      have same := state.revocations.sameRecords_lookup service.backend token
      exact ⟨sorted, unique, same.rivals.trans alone, plans, now, grows.trans same.grows, elsewhere⟩
    | list =>
      have same := state.revocations.sameRecords_list service.backend
      exact ⟨sorted, unique, same.rivals.trans alone, plans, now, grows.trans same.grows, elsewhere⟩
    | userById id => exact ⟨sorted, unique, alone, plans, now, grows, elsewhere⟩
    | userByEmail email => exact ⟨sorted, unique, alone, plans, now, grows, elsewhere⟩
    | createUser form => exact ⟨sorted, unique, alone, plans, now, grows, elsewhere⟩
  | record own belongs =>
    exact ⟨sorted, unique, RevocationStore.rivals_record service.backend _ state.now alone, plans,
      now, grows.trans (RevocationStore.grows_record ⟨_, own, belongs⟩ state.now alone), elsewhere⟩

/-- **Deeds on some sessions leave all others alone**, whatever comes first. -/
theorem sustains_apart (service : Service) (sessions : String → Prop) (start : State) :
    Sustains service (Deed service sessions) (Relied service everySession)
      (Apart service sessions start) where
  take {call state} _ apart := by
    have plans := (apart.plans.takeIncident .pass call).2
    obtain ⟨_, _, taken⟩ := exists_takeIncident call state
    rw [taken] at plans ⊢
    exact ⟨apart.sorted, apart.unique, apart.alone, plans, apart.now, apart.grows, apart.elsewhere⟩
  rival {call _ _ _} apart met _ := by
    have on := (apart.plans.takeIncident .pass call).1
    rw [met] at on
    cases on
  logout {call _ _ _} apart met := by
    have on := (apart.plans.takeIncident .pass call).1
    rw [met] at on
    cases on with
    | logout concerns => exact does_logout concerns none
  answer deed apart := ⟨trivial, apart.answer deed⟩
  fail _ := trivial
  hang _ := trivial
  act {action state} depth noCall deed apart := by
    obtain ⟨relied, sorted⟩ := apart.sorted.performWithin depth (deed.mono fun _ _ => trivial)
    refine ⟨relied, ?_⟩
    obtain ⟨-, unique, alone, plans, now, grows, elsewhere⟩ := apart
    have different : ∀ {own other : String}, sessions own → ¬ sessions other → other ≠ own := by
      rintro own other within outside rfl
      exact outside within
    cases deed with
    | ask asks => exact absurd rfl (noCall _)
    | record own belongs => exact absurd rfl (noCall _)
    | clock =>
      rw [performWithin_clock] at sorted ⊢
      exact ⟨sorted, unique, alone, plans, now, grows, elsewhere⟩
    | name =>
      rw [performWithin_drawName] at sorted ⊢
      exact ⟨sorted, unique, alone, plans, now, grows, elsewhere⟩
    | set claims own expiresAt =>
      rw [performWithin_setSession] at sorted ⊢
      refine ⟨sorted, unique.set _ _ _ _ _, alone, plans, now, grows, ?_⟩
      intro other kind outside
      rw [← elsewhere other kind outside, ← now]
      exact unique.get?_set_of_ne (different own outside) kind expiresAt state.now
    | blacklist own kind =>
      rw [performWithin_blacklistSession] at sorted ⊢
      refine ⟨sorted, unique.blacklist _ _, alone, plans, now, grows, ?_⟩
      intro other kind outside
      rw [← elsewhere other kind outside]
      exact SessionCache.get?_eq_of_entry?_eq
        (SessionCache.entry?_blacklist_of_ne (different own outside)) kind _
    | clear own =>
      rw [performWithin_clearSession] at sorted ⊢
      refine ⟨sorted, unique.clear _, alone, plans, now, grows, ?_⟩
      intro other kind outside
      rw [← elsewhere other kind outside]
      exact SessionCache.get?_eq_of_entry?_eq
        (SessionCache.entry?_clear_of_ne (different own outside)) kind _

namespace Apart

variable {α β : Type}

/-- An operation that does deeds on some sessions leaves all others alone. -/
theorem run (apart : Apart service sessions start state) {operation : Operation α}
    {promise : α → Prop}
    (does : operation.Obeys (Deed service sessions) (Relied service everySession) promise) :
    Apart service sessions start (state.run service operation).2 :=
  ((sustains_apart service sessions start).run does apart).2

/-- The same of one that comes behind an operation that did so. -/
theorem bind {operation : Operation α} {next : α → Operation β}
    (apart : Apart service sessions start (state.run service operation).2)
    (does : ∀ value, (next value).Obeys (Deed service sessions) (Relied service everySession)
      fun _ => True) :
    Apart service sessions start (state.run service (operation >>= next)).2 := by
  cases ran : (state.run service operation).1 with
  | error failure =>
    rw [(run_bind_error ran next).1]
    exact apart
  | ok value =>
    rw [(run_bind_ok ran next).1]
    exact apart.run (does value)

/-! ## Logging in -/

/-- A pair of tokens is issued in the session that is named next. -/
theorem issuePair (apart : Apart service sessions start state)
    (own : sessions (TokenName.ofCount (state.namesDrawn + 1))) (user : User) :
    Apart service sessions start (state.run service (service.issuePair user)).2 := by
  have named : Apart service sessions start (state.run service drawName).2 :=
    apart.run (obeys_drawName .name)
  obtain ⟨issues, -⟩ := (goes_drawName state).run_bind (service.issueIn user)
  rw [(goes_drawName state).run] at named
  rw [issuePair_eq, issues]
  exact named.run (does_issueIn user own)

end Apart

/-- No logout draws a name. -/
theorem sustains_namesDrawn (service : Service) (count : Nat) :
    Sustains service (· ≠ .drawName) (fun _ _ => True) fun state => state.namesDrawn = count where
  take {call state} _ same := by
    obtain ⟨_, _, taken⟩ := exists_takeIncident call state
    rw [taken]
    exact same
  rival {call _ _ _} _ _ same := by
    rw [recordBefore]
    cases call.target with
    | revocations => exact same
    | users => exact same
  logout _ _ := obeys_logout nofun nofun (fun _ => nofun) (fun _ _ => nofun) none
  answer {call _} _ same := by
    refine ⟨trivial, ?_⟩
    cases call with
    | _ => exact same
  fail _ := trivial
  hang _ := trivial
  act {action state} depth noCall noName same := by
    refine ⟨trivial, ?_⟩
    cases action with
    | store call => exact absurd rfl (noCall call)
    | clock => rwa [performWithin_clock]
    | drawName => exact absurd rfl noName
    | setSession session kind token expiresAt => rwa [performWithin_setSession]
    | blacklistSession session kind => rwa [performWithin_blacklistSession]
    | clearSession session => rwa [performWithin_clearSession]

/-- A login works on the session that is named next. -/
theorem Apart.login (apart : Apart service sessions start state)
    (own : sessions (TokenName.ofCount (state.namesDrawn + 1))) (credentials : Credentials) :
    Apart service sessions start (state.run service (service.login credentials)).2 := by
  have known : Apart service sessions start
      (state.run service (authenticate credentials)).2 :=
    apart.run (obeys_authenticate (.ask trivial))
  have names : (state.run service (authenticate credentials)).2.namesDrawn = state.namesDrawn :=
    ((sustains_namesDrawn service state.namesDrawn).run (obeys_authenticate nofun) rfl).2
  rw [login_eq]
  cases ran : (state.run service (authenticate credentials)).1 with
  | error failure =>
    rw [(run_bind_error ran _).1]
    exact known
  | ok user =>
    rw [(run_bind_ok ran _).1]
    exact known.issuePair (names ▸ own) user

/-! ## Requests -/

section Requests

variable {request : Request}

/-- A request to log in works on the session that is named next, if it is one to log in at all. -/
theorem Apart.respond_login (apart : Apart service sessions start state)
    (found : Route.ofPath? request.path = some .login)
    (own : sessions (TokenName.ofCount (state.namesDrawn + 1))) :
    Apart service sessions start (state.run service (Router.respond service request)).2 := by
  by_cases noPreflight : request.method = "OPTIONS"
  · have answered : Router.respond service request = pure (Router.preflight (some .login)) := by
      rw [Router.respond, found]
      exact if_pos noPreflight
    rw [answered]
    exact apart
  · rw [(State.run_respond service state found noPreflight).1]
    change Apart service sessions start
      (state.run service (Route.login.act service request none)).2
    rw [Route.act]
    split
    · change Apart service sessions start (state.run service (Handler.login service request)).2
      rw [Handler.login, Handler.withBody]
      split
      · next credentials _ =>
        refine (apart.login own credentials).bind fun pair => ?_
        refine does_clock.bind fun now _ => ?_
        exact (obeys_orCrash _).bind fun jar _ => obeys_pure trivial
      · exact apart
    · exact apart

/-- **A request works on the session of the secret token that its route takes from it**, or on the
session that is named next if it is one to log in. -/
theorem Apart.respond (apart : Apart service sessions start state)
    (concerns : ∀ route secretToken, Route.ofPath? request.path = some route →
      route.secretToken? request = some secretToken → service.Concerns sessions secretToken)
    (own : Route.ofPath? request.path = some .login →
      sessions (TokenName.ofCount (state.namesDrawn + 1))) :
    Apart service sessions start (state.run service (Router.respond service request)).2 := by
  by_cases login : Route.ofPath? request.path = some .login
  · exact apart.respond_login login (own login)
  · apply apart.run
    apply Composes.respond (composes_does service)
    intro route found
    refine ⟨composes_does service, fun form _ => does_createUser service form,
      does_listRevoked, ?_, ?_, ?_, ?_, ?_⟩
    · rintro credentials rfl
      exact absurd found login
    · exact fun token kind => (does_validate token kind).mono fun _ _ => trivial
    · exact fun secretToken taken => does_refresh (concerns route secretToken found taken)
    · exact fun access secretToken taken =>
        does_renew access (concerns route secretToken found taken)
    · exact fun secretToken presented taken =>
        does_logout (concerns route secretToken found taken) presented

/-- **A request leaves the clock and the users as they were**, unless it registers a user. -/
theorem sameSetting_respond (service : Service) (state : State)
    (noRegister : Route.ofPath? request.path ≠ some .register) :
    state.SameSetting (state.run service (Router.respond service request)).2 := by
  have reads : clock.Ends Action.KeepsUsers state (fun now => now = state.now) fun _ => True :=
    ends_clock nofun
  have composes : Composes fun _ operation =>
      operation.Ends Action.KeepsUsers state (fun _ => True) fun _ => True :=
    { pure := fun _ => ends_pure trivial
      throw := fun _ => ends_throw trivial
      bind := fun first second => first.bind fun value _ => second value
      attempt := fun ends => ends.attempt.guarantees
      clock := reads.guarantees }
  refine (Ends.run service (Composes.respond composes ?_)).2
  intro route found
  refine ⟨composes, ?_, ?_, fun credentials _ => (ends_login service state credentials).guarantees,
    fun token kind => (ends_validate service state token kind).keepsUsers.guarantees,
    fun secretToken _ => (ends_refresh service state secretToken).guarantees,
    fun access secretToken _ => (ends_renew service state access secretToken).guarantees,
    fun secretToken presented _ =>
      (ends_logout service state secretToken presented).guarantees⟩
  · rintro form rfl
    exact absurd found noRegister
  · exact Ends.guarantees (ends_callStore nofun fun _ storage => storage)

end Requests

end State

end DualToken
