import DualToken.Proofs.Http.Answer
import DualToken.Proofs.Service.Change

/-!
# Revocation is permanent

A token that is recorded stays barred: no change to the state makes a lookup of it answer with no
(`Later.bars`). Every operation that is given a token asks for it before anything else, so a barred
token is turned away. The operation asks once, and a second time if the first call fails; an answer
is a yes and the token counts as revoked, and without any answer the refusal is one of storage
(`TurnsAway`). The gate does not let such a request through to any handler.
-/

set_option autoImplicit false

namespace DualToken

namespace State

/-- The actions that an operation performs, with their replies. -/
def trace {α : Type} (service : Service) (operation : Operation α) (state : State) :
    List (Performed Action Action.Reply) :=
  Program.trace (perform service) operation.run state

/-- The token is recorded. -/
def Holds (service : Service) (state : State) (token : String) : Prop :=
  state.revocations.Holds service.backend token

/-- No lookup of the token is answered with no. -/
def Bars (service : Service) (state : State) (token : String) : Prop :=
  state.revocations.Bars service.backend token

end State

variable {service : Service} {state later : State} {token : String}

/-! ## Barred tokens -/

/-- No change lifts the bar. -/
theorem Change.bars (change : Change service state later) (bars : state.Bars service token) :
    later.Bars service token := by
  cases change with
  | record other => exact RevocationStore.Bars.record bars other state.now
  | dropRecords =>
    rw [State.Bars] at bars ⊢
    cases backend : service.backend with
    | table => exact nofun
    | redis =>
      rw [backend] at bars
      exact bars
  | read revocations same =>
    obtain ⟨server, rfl, received, failures, rfl⟩ := same
    rw [State.Bars] at bars ⊢
    cases backend : service.backend with
    | table =>
      rw [backend] at bars
      exact bars
    | redis =>
      rw [backend] at bars
      exact bars
  | serve received failures rivals =>
    rw [State.Bars] at bars ⊢
    cases backend : service.backend with
    | table =>
      rw [backend] at bars
      exact bars
    | redis =>
      rw [backend] at bars
      exact bars
  | clock _ => exact bars
  | name => exact bars
  | create _ => exact bars
  | users _ _ _ _ => exact bars
  | dropUsers => exact bars
  | setSession _ _ _ _ => exact bars
  | blacklistSession _ _ => exact bars
  | clearSession _ => exact bars
  | incidents _ _ _ => exact bars

theorem Changes.bars (changes : Changes service state later) (bars : state.Bars service token) :
    later.Bars service token :=
  changes.preserve (fun _ _ change => change.bars) bars

/-- **A barred token stays barred, whatever happens later.** -/
theorem Later.bars (run : Later service state later) (bars : state.Bars service token) :
    later.Bars service token :=
  run.changes.bars bars

theorem State.Holds.bars (holds : state.Holds service token) : state.Bars service token :=
  RevocationStore.Holds.bars holds

/-! ## Lookups of barred tokens -/

/-- A reply to a lookup of a barred token: yes, or a failure of the store. -/
inductive Refusing : StoreReply Bool → Prop
  | recorded : Refusing (.answer (.ok true))
  | failed (detail : String) : Refusing (.answer (.error (.storage detail)))
  /-- The store did not answer. -/
  | silent : Refusing .silence

namespace State

/-- A lookup of a barred token is never answered with no. -/
theorem refusing_lookup (bars : state.Bars service token) :
    Refusing (state.perform service (.store (.lookup token))).1 := by
  obtain ⟨met, before, comesOut⟩ :=
    exists_met_perform service (.lookup token) state
  generalize state.perform service (.store (.lookup token)) = outcome at comesOut ⊢
  cases comesOut with
  | failed => exact .failed _
  | silent => exact .silent
  | answered =>
    have barred : met.Bars service token := Changes.bars before bars
    change Refusing (.answer (met.revocations.lookup service.backend token).1)
    rcases RevocationStore.Bars.lookup barred with yes | ⟨detail, failed⟩
    · exact yes ▸ .recorded
    · exact failed ▸ .failed detail

end State

/-! ## Operations that ask first -/

/-- An operation that asks for a token before anything else, and refuses if it is revoked. -/
def AsksFirst {α : Type} (token : String) (operation : Operation α) : Prop :=
  ∃ rest : Operation α, operation = Service.isRevoked token >>= fun revoked =>
    if revoked then Operation.refuse .blacklisted else rest

section Asking

variable {α β : Type}

theorem AsksFirst.bind {operation : Operation α} (asks : AsksFirst token operation)
    (next : α → Operation β) : AsksFirst token (operation >>= next) := by
  obtain ⟨rest, rfl⟩ := asks
  refine ⟨rest >>= next, ?_⟩
  rw [bind_assoc]
  congr 1
  funext revoked
  cases revoked with
  | true => rfl
  | false => rfl

theorem asksFirst_verify (service : Service) (token : String) (kind : TokenKind) :
    AsksFirst token (service.verify token kind) :=
  ⟨_, rfl⟩

theorem asksFirst_validate (service : Service) (token : String) (kind : TokenKind) :
    AsksFirst token (service.validate token kind) :=
  (asksFirst_verify service token kind).bind _

theorem asksFirst_refresh (service : Service) (token : String) :
    AsksFirst token (service.refresh token) :=
  (asksFirst_validate service token .secret).bind _

theorem asksFirst_renew (service : Service) (access : Claims) (token : String) :
    AsksFirst token (service.renew access token) :=
  (asksFirst_validate service token .secret).bind _

theorem asksFirst_logout (service : Service) (token : String) (presented : Option String) :
    AsksFirst token (service.logout token presented) :=
  (asksFirst_verify service token .secret).bind _

/-- A lookup with its reply. -/
def asked (token : String) (reply : StoreReply Bool) : Performed Action Action.Reply :=
  ⟨.store (.lookup token), reply⟩

/-- The operation asks for the token, twice at most, and does nothing else. If one of the calls is
answered it refuses the token as revoked; if both fail it refuses for storage. -/
def TurnsAway (service : Service) (token : String) (operation : Operation α) (state : State) :
    Prop :=
  ∃ replies : List (StoreReply Bool),
    state.trace service operation = replies.map (asked token) ∧ replies.length ≤ 2 ∧
      ((∃ reply ∈ replies, reply.Succeeds) →
        (state.run service operation).1 = .error (.refused .blacklisted)) ∧
      ((∀ reply ∈ replies, ¬ reply.Succeeds) →
        replies.length = 2 ∧
          ∃ detail, (state.run service operation).1 = .error (.refused (.storage detail)))

/-- A call that fails does not succeed. -/
theorem not_succeeds_of_outcome {reply : StoreReply Bool} {error : AuthError}
    (failed : reply.outcome = .error error) : ¬ reply.Succeeds := by
  rintro ⟨result, rfl⟩
  exact absurd failed (by simp [StoreReply.outcome])

/-- A refusing reply is a yes or a failure. -/
theorem Refusing.cases {reply : StoreReply Bool} (refusing : Refusing reply) :
    reply = .answer (.ok true) ∨ ∃ detail, reply.outcome = .error (.storage detail) := by
  cases refusing with
  | recorded => exact .inl rfl
  | failed detail => exact .inr ⟨detail, rfl⟩
  | silent => exact .inr ⟨_, rfl⟩

/-- **An operation that asks first turns a barred token away.** -/
theorem AsksFirst.turnsAway {operation : Operation α} (asks : AsksFirst token operation)
    (bars : state.Bars service token) : TurnsAway service token operation state := by
  obtain ⟨rest, rfl⟩ := asks
  have first := State.refusing_lookup bars
  have changed : Changes service state (state.perform service (.store (.lookup token))).2 :=
    State.changes_perform _ state
  have between := changed.bars bars
  rw [TurnsAway, State.trace, State.run, Operation.run_bind, Service.run_isRevoked]
  simp only [Program.act_bind, Program.trace_act, Program.run_act]
  cases performed : state.perform service (.store (.lookup token)) with
  | mk reply middle =>
    change StoreReply Bool at reply
    rw [performed] at first between
    rcases first.cases with rfl | ⟨detail, failed⟩
    · refine ⟨[.answer (.ok true)], rfl, by simp, fun _ => rfl, fun none => ?_⟩
      exact absurd ⟨true, rfl⟩ (none _ (List.mem_singleton.2 rfl))
    · have second := State.refusing_lookup between
      rw [Service.afterLookup_storage failed]
      simp only [Program.act_bind, Program.trace_act, Program.run_act]
      cases again : middle.perform service (.store (.lookup token)) with
      | mk other last =>
        change StoreReply Bool at other
        rw [again] at second
        rcases second.cases with rfl | ⟨detail', failed'⟩
        · refine ⟨[reply, .answer (.ok true)], rfl, by simp, fun _ => rfl, fun none => ?_⟩
          exact absurd ⟨true, rfl⟩ (none _ (by simp))
        · have unanswered := not_succeeds_of_outcome failed
          have unanswered' := not_succeeds_of_outcome failed'
          rw [Service.secondLookup_storage failed']
          refine ⟨[reply, other], rfl, by simp, ?_, fun _ => ⟨rfl, detail', rfl⟩⟩
          rintro ⟨some, member, succeeds⟩
          simp only [List.mem_cons, List.not_mem_nil, or_false] at member
          rcases member with rfl | rfl
          · exact absurd succeeds unanswered
          · exact absurd succeeds unanswered'

/-- Whatever the replies, a token that is turned away is refused. -/
theorem TurnsAway.refused {operation : Operation α}
    (turnsAway : TurnsAway service token operation state) :
    ∃ error, (state.run service operation).1 = .error (.refused error) ∧
      error.atGate = .unauthenticated := by
  obtain ⟨replies, -, -, answered, unanswered⟩ := turnsAway
  by_cases succeeds : ∃ reply ∈ replies, reply.Succeeds
  · exact ⟨_, answered succeeds, rfl⟩
  · obtain ⟨-, detail, refused⟩ := unanswered fun reply member answer =>
      succeeds ⟨reply, member, answer⟩
    exact ⟨_, refused, rfl⟩

end Asking

/-! ## The gate -/

section Gate

variable {α β : Type}

namespace State

/-- Behind a failure nothing happens. -/
theorem run_bind_error {operation : Operation α} {failure : Failure}
    (failed : (state.run service operation).1 = .error failure) (next : α → Operation β) :
    state.run service (operation >>= next) = (.error failure, (state.run service operation).2) ∧
      state.trace service (operation >>= next) = state.trace service operation := by
  rw [run] at failed
  simp only [run, trace, Operation.run_bind, Program.run_bind, Program.trace_bind, failed,
    Program.run_done, Program.trace_done, List.append_nil, and_self]

/-- What comes behind a value. -/
theorem run_bind_ok {operation : Operation α} {value : α}
    (ok : (state.run service operation).1 = .ok value) (next : α → Operation β) :
    state.run service (operation >>= next) =
        (state.run service operation).2.run service (next value) ∧
      state.trace service (operation >>= next) = state.trace service operation ++
        (state.run service operation).2.trace service (next value) := by
  rw [run] at ok
  simp only [run, trace, Operation.run_bind, Program.run_bind, Program.trace_bind, ok, and_self]

end State

variable (service state token) in
/-- Accepting a token leads to the same state as validating it, by the same steps. -/
theorem State.run_accept :
    state.run service (Gate.accept service token) =
        (Gate.accepted (state.run service (service.validate token .access)).1,
          (state.run service (service.validate token .access)).2) ∧
      state.trace service (Gate.accept service token) =
        state.trace service (service.validate token .access) := by
  simp only [State.run, State.trace, Gate.run_accept, Program.run_bind, Program.trace_bind,
    Program.run_done, Program.trace_done, List.append_nil, and_self]

/-- The gate lets no request through whose access token is refused: it does what validation does,
and reports the refusal in its own way. -/
theorem Gate.enter_refused (policy : Policy) {headers : Headers}
    (carried : Carrier.token? headers .access = some token)
    (handler : Option Identity → Operation Response) {error : AuthError}
    (refused : (state.run service (service.validate token .access)).1 = .error (.refused error)) :
    state.run service (Gate.enter service policy headers handler) =
        (.error (.refused error.atGate), (state.run service (service.validate token .access)).2) ∧
      state.trace service (Gate.enter service policy headers handler) =
        state.trace service (service.validate token .access) := by
  obtain ⟨accepted, asked⟩ := State.run_accept service state token
  rw [refused] at accepted
  unfold Gate.enter
  rw [carried]
  obtain ⟨stops, nothing⟩ := State.run_bind_error (congrArg Prod.fst accepted) _
  rw [accepted] at stops
  exact ⟨stops, nothing.trans asked⟩

/-- The gate lets no request with a barred access token through to a handler. -/
theorem Gate.enter_barred (policy : Policy) {headers : Headers}
    (carried : Carrier.token? headers .access = some token)
    (handler : Option Identity → Operation Response) (bars : state.Bars service token) :
    (state.run service (Gate.enter service policy headers handler)).1 =
        .error (.refused .unauthenticated) ∧
      state.trace service (Gate.enter service policy headers handler) =
        state.trace service (service.validate token .access) := by
  obtain ⟨error, refused, shown⟩ :=
    ((asksFirst_validate service token .access).turnsAway bars).refused
  obtain ⟨stops, asked⟩ := Gate.enter_refused policy carried handler refused
  rw [stops, shown]
  exact ⟨rfl, asked⟩

variable (service state) in
/-- Answering a request to a known path leads to the same state as serving it, by the same steps. -/
theorem State.run_respond {request : Request} {route : Route}
    (found : Route.ofPath? request.path = some route) (noPreflight : request.method ≠ "OPTIONS") :
    state.run service (Router.respond service request) =
        ((Gate.settled (state.run service (route.serve service request)).1).map
          (Router.finish request.method route),
          (state.run service (route.serve service request)).2) ∧
      state.trace service (Router.respond service request) =
        state.trace service (route.serve service request) := by
  simp only [State.run, State.trace, Router.run_respond service found noPreflight,
    Program.run_bind, Program.trace_bind, Program.run_done, Program.trace_done, List.append_nil,
    and_self]

/-- A request whose route refuses it is answered with a report of the refusal. -/
theorem Router.respond_refused {request : Request} {route : Route}
    (found : Route.ofPath? request.path = some route) (noPreflight : request.method ≠ "OPTIONS")
    {error : AuthError}
    (refused : (state.run service (route.serve service request)).1 = .error (.refused error)) :
    (state.run service (Router.respond service request)).1 =
      .ok (Router.reported request.method route error) := by
  rw [(State.run_respond service state found noPreflight).1, refused]
  rfl

/-- A gated route is served behind its gate. -/
theorem Route.serve_gated {route : Route} {policy : Policy} (gated : route.policy? = some policy)
    (service : Service) (request : Request) :
    route.serve service request =
      Gate.enter service policy request.headers (route.act service request) := by
  rw [Route.serve, gated]

/-- A request that the gate of its route turns away is answered as unauthenticated. -/
theorem Router.respond_unauthenticated {request : Request} {route : Route} {policy : Policy}
    (found : Route.ofPath? request.path = some route) (gated : route.policy? = some policy)
    (noPreflight : request.method ≠ "OPTIONS")
    (refused : (state.run service
        (Gate.enter service policy request.headers (route.act service request))).1 =
      .error (.refused .unauthenticated)) :
    ∃ response, (state.run service (Router.respond service request)).1 = .ok response ∧
      response.status = 401 := by
  rw [← Route.serve_gated gated] at refused
  exact ⟨_, Router.respond_refused found noPreflight refused, Router.status_finish _ _ _⟩

/-- A request to a gated route with a barred access token is answered as unauthenticated, and
nothing is done for it but to validate the token. -/
theorem Router.respond_barred {request : Request} {route : Route} {policy : Policy}
    (found : Route.ofPath? request.path = some route) (gated : route.policy? = some policy)
    (carried : Carrier.token? request.headers .access = some token)
    (noPreflight : request.method ≠ "OPTIONS") (bars : state.Bars service token) :
    (∃ response, (state.run service (Router.respond service request)).1 = .ok response ∧
        response.status = 401) ∧
      state.trace service (Router.respond service request) =
        state.trace service (service.validate token .access) := by
  obtain ⟨refused, asked⟩ := Gate.enter_barred policy carried (route.act service request) bars
  refine ⟨Router.respond_unauthenticated found gated noPreflight refused, ?_⟩
  rw [(State.run_respond service state found noPreflight).2, Route.serve_gated gated, asked]

end Gate

/-! ## Revocation for ever -/

/-- From now on the token is turned away, whatever happens. -/
def State.Rejects (service : Service) (state : State) (token : String) : Prop :=
  ∀ later, Later service state later → ∀ kind,
    TurnsAway service token (service.validate token kind) later

theorem State.Holds.rejects {service : Service} {state : State} {token : String}
    (holds : state.Holds service token) : state.Rejects service token :=
  fun _ run kind => (asksFirst_validate service token kind).turnsAway (run.bars holds.bars)

/-- **A token that is recorded is turned away for ever, by everything that is given it.** -/
theorem revoked_for_ever (service : Service) {state later : State} {token : String}
    (recorded : state.Holds service token) (run : Later service state later) :
    (∀ kind, TurnsAway service token (service.validate token kind) later) ∧
      TurnsAway service token (service.refresh token) later ∧
      (∀ access, TurnsAway service token (service.renew access token) later) ∧
      (∀ presented, TurnsAway service token (service.logout token presented) later) ∧
      (∀ policy headers handler, Carrier.token? headers .access = some token →
        (later.run service (Gate.enter service policy headers handler)).1 =
            .error (.refused .unauthenticated) ∧
          later.trace service (Gate.enter service policy headers handler) =
            later.trace service (service.validate token .access)) ∧
      (∀ request route policy, Route.ofPath? request.path = some route →
        route.policy? = some policy → Carrier.token? request.headers .access = some token →
        request.method ≠ "OPTIONS" →
          (∃ response, (later.run service (Router.respond service request)).1 = .ok response ∧
              response.status = 401) ∧
            later.trace service (Router.respond service request) =
              later.trace service (service.validate token .access)) := by
  have bars : later.Bars service token := run.bars recorded.bars
  refine ⟨fun kind => ?_, ?_, fun access => ?_, fun presented => ?_, ?_, ?_⟩
  · exact (asksFirst_validate service token kind).turnsAway bars
  · exact (asksFirst_refresh service token).turnsAway bars
  · exact (asksFirst_renew service access token).turnsAway bars
  · exact (asksFirst_logout service token presented).turnsAway bars
  · intro policy headers handler carried
    exact Gate.enter_barred policy carried handler bars
  · intro request route policy found gated carried noPreflight
    exact Router.respond_barred found gated carried noPreflight bars

/-- A token that was recorded in the table is turned away although the table has been dropped since,
calls hang, and the clock has been set back. -/
theorem revoked_behind_dropped_table :
    let service : Service := ⟨⟨[1], [2]⟩, 900, 86400, 300, ⟨true, 900, 86400⟩, .table, 4⟩
    let state : State := State.after service [.record "token"] { now := 60 }
    let later : State := state.after service
      [.plan .revocations [.hang, .record "other"], .dropTable .revocations, .setClock 0]
    state.Holds service "token" ∧ Later service state later ∧
      TurnsAway service "token" (service.logout "token" none) later := by
  intro service state later
  have recorded : state.Holds service "token" := ⟨_, rfl, rfl⟩
  have run : Later service state later := later_after service _ state
  exact ⟨recorded, run, (revoked_for_ever service recorded run).2.2.2.1 none⟩

end DualToken
