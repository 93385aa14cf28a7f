import DualToken.Proofs.Http.Requests
import DualToken.Proofs.Service.Ending
import DualToken.Proofs.Service.Faults

/-!
# Isolated failures do not show

Every call that an operation of the service makes is made by `callStore`, so an error of storage is
followed by a second call. If no failure that is planned for a store comes right behind another one,
the second call is carried out, and it finds everything as the first one would have found it.

So a run that meets such failures shadows the run that meets none (`Shadows`): the two states differ
in plans and notes only. A call keeps it so (`hides_callStore`), and what is composed of calls and
of actions on the cache and the clock does (`hides_retries`). No operation makes a call in another
way (`Retries.logout` and the like), hence login, validation, refresh, renewal, logout and both
questions for revoked tokens come to the same result and to the same state
(`isolated_failures_hidden`).
-/

set_option autoImplicit false

namespace DualToken

open Operation

/-! ## Operations whose calls are all retried -/

/-- The call creates a user. -/
def StoreCall.Registers : StoreCall → Prop
  | createUser _ => True
  | _ => False

/-- The property holds of calls that are retried, other than creating users, and of actions that are
no calls, and of what is composed of operations that have it. -/
structure Retries (holds : (α : Type) → Operation α → Prop) : Prop extends Composes holds where
  call (call : StoreCall) : ¬ call.Registers → holds call.Result (callStore call)
  drawName : holds String drawName
  setSession (session : String) (kind : TokenKind) (token : String) (expiresAt : Int64) :
    holds Unit (act (.setSession session kind token expiresAt))
  blacklistSession (session : String) (kind : TokenKind) :
    holds (Option String) (act (.blacklistSession session kind))
  clearSession (session : String) :
    holds (Option String × Option String) (act (.clearSession session))

namespace Retries

variable {service : Service} {holds : (α : Type) → Operation α → Prop}

theorem refuse (retries : Retries holds) {α : Type} (error : AuthError) :
    holds α (Operation.refuse error) :=
  retries.throw (.refused error)

theorem ofExcept (retries : Retries holds) {α : Type} (result : Except AuthError α) :
    holds α (Operation.ofExcept result) := by
  cases result with
  | ok value => exact retries.pure value
  | error error => exact retries.refuse error

theorem verify (retries : Retries holds) (token : String) (kind : TokenKind) :
    holds Claims (service.verify token kind) := by
  refine retries.bind (retries.call (.lookup token) id) fun (isRecorded : Bool) => ?_
  cases isRecorded with
  | true => exact retries.refuse .blacklisted
  | false => exact retries.bind retries.clock fun now => retries.ofExcept _

theorem validate (retries : Retries holds) (token : String) (kind : TokenKind) :
    holds Claims (service.validate token kind) := by
  refine retries.bind (retries.verify token kind) fun claims => ?_
  refine retries.bind (retries.call (.userById claims.sub) id) fun (user : Option User) => ?_
  cases user with
  | none => exact retries.refuse .identityMismatch
  | some user =>
    dsimp only
    split
    · exact retries.pure claims
    · exact retries.refuse .identityMismatch

theorem claimsForUser (retries : Retries holds) (user : User) (session : String) (kind : TokenKind)
    (lifetime : Int) : holds Claims (Service.claimsForUser user session kind lifetime) := by
  refine retries.bind retries.clock fun now => ?_
  refine retries.bind (retries.orCrash _) fun expiry => ?_
  exact retries.bind retries.drawName fun name => retries.pure _

theorem login (retries : Retries holds) (credentials : Credentials) :
    holds TokenPair (service.login credentials) := by
  have issues (user : User) : holds TokenPair (service.issuePair user) := by
    refine retries.bind retries.drawName fun session => ?_
    refine retries.bind (retries.claimsForUser user session .access _) fun access => ?_
    refine retries.bind (retries.claimsForUser user session .secret _) fun secret => ?_
    refine retries.bind (retries.setSession session .access _ _) fun _ => ?_
    exact retries.bind (retries.setSession session .secret _ _) fun _ => retries.pure _
  refine retries.bind (retries.call (.userByEmail credentials.email) id)
    fun (user : Option User) => ?_
  cases user with
  | none => exact retries.refuse .invalidCredentials
  | some user =>
    dsimp only
    split
    · exact issues user
    · exact retries.refuse .invalidCredentials

/-- The second lookup of a minting is retried like the first. -/
theorem mintAccess (retries : Retries holds) (secretToken : String) (claims : Claims) :
    holds String (service.mintAccess secretToken claims) := by
  refine retries.bind retries.clock fun now => ?_
  refine retries.bind (retries.orCrash _) fun expiry => ?_
  refine retries.bind retries.drawName fun name => ?_
  refine retries.bind (retries.setSession claims.sid .access _ _) fun _ => ?_
  refine retries.bind (retries.attempt (retries.call (.lookup secretToken) id))
    fun (answer : Except AuthError Bool) => ?_
  rcases answer with error | (_ | _)
  · exact retries.bind (retries.blacklistSession claims.sid .access) fun _ => retries.refuse error
  · exact retries.pure _
  · refine retries.bind (retries.clearSession claims.sid) fun _ => ?_
    exact retries.bind (retries.call (.record _) id) fun _ => retries.refuse .blacklisted

theorem refresh (retries : Retries holds) (secretToken : String) :
    holds String (service.refresh secretToken) :=
  retries.bind (retries.validate secretToken .secret) fun claims =>
    retries.mintAccess secretToken claims

theorem renew (retries : Retries holds) (access : Claims) (secretToken : String) :
    holds String (service.renew access secretToken) := by
  refine retries.bind (retries.validate secretToken .secret) fun claims => ?_
  split
  · exact retries.mintAccess secretToken claims
  · exact retries.refuse .identityMismatch

theorem recordAll (retries : Retries holds) (tokens : List String) :
    holds Unit (Service.recordAll tokens) := by
  induction tokens with
  | nil => exact retries.pure ()
  | cons token others ih => exact retries.bind (retries.call (.record token) id) fun _ => ih

theorem logout (retries : Retries holds) (secretToken : String) (presented : Option String) :
    holds Unit (service.logout secretToken presented) := by
  refine retries.bind (retries.verify secretToken .secret) fun claims => ?_
  refine retries.bind (retries.call (.record secretToken) id) fun _ => ?_
  refine retries.bind retries.clock fun now => ?_
  refine retries.bind (retries.clearSession claims.sid) fun current => ?_
  exact retries.recordAll _

end Retries

/-! ## Plans of isolated failures -/

/-- Calls are only let through, failed or left unanswered, and behind a call that is not let through
the next one is. -/
structure IsIsolated (plan : List Incident) : Prop where
  plain : ∀ incident ∈ plan, incident.IsPlain
  apart : plan.IsChain fun first second => first = .pass ∨ second = .pass

namespace IsIsolated

variable {plan : List Incident}

theorem tail (isolated : IsIsolated plan) : IsIsolated plan.tail := by
  cases plan with
  | nil => exact isolated
  | cons incident later =>
    exact ⟨(List.forall_mem_cons.1 isolated.plain).2, isolated.apart.of_cons⟩

theorem isPlain_headD (isolated : IsIsolated plan) : (plan.headD .pass).IsPlain := by
  cases plan with
  | nil => exact .pass
  | cons incident later => exact isolated.plain incident List.mem_cons_self

/-- A call behind one that is not let through is let through. -/
theorem headD_tail (isolated : IsIsolated plan) (faulty : plan.headD .pass ≠ .pass) :
    plan.tail.headD .pass = .pass := by
  cases plan with
  | nil => rfl
  | cons incident later =>
    cases later with
    | nil => rfl
    | cons next others =>
      obtain ⟨pass | pass, -⟩ := List.isChain_cons_cons.1 isolated.apart
      · exact absurd pass faulty
      · exact pass

end IsIsolated

namespace State

/-- The state with empty plans. -/
def unplanned (state : State) : State :=
  { state with revocationPlan := [], userPlan := [] }

/-- The states differ in plans and notes only, where nothing is planned in the one and isolated
failures in the other. -/
structure Shadows (clean faulty : State) : Prop where
  same : ∃ calls, clean = { faulty.unplanned with calls }
  isolated (store : StoreName) : IsIsolated (faulty.plan store)

/-! ## The run without failures, and its shadow -/

namespace Shadows

variable {service : Service} {state clean faulty : State} {call : StoreCall}

/-- The shadow of a state whose plans hold isolated failures. -/
theorem of_isolated (revocations : IsIsolated state.revocationPlan)
    (users : IsIsolated state.userPlan) : Shadows state.unplanned state where
  same := ⟨state.calls, rfl⟩
  isolated store := by
    cases store with
    | revocations => exact revocations
    | users => exact users

/-- Nothing comes in between without failures. -/
theorem plan_clean (shadows : Shadows clean faulty) (store : StoreName) :
    clean.plan store = [] := by
  obtain ⟨calls, rfl⟩ := shadows.same
  cases store with
  | revocations => rfl
  | users => rfl

/-- Calls are noted on either side, whether the other makes them or not. -/
theorem note (shadows : Shadows clean faulty) (calls : List StoreCall) :
    Shadows { clean with calls } faulty where
  same := by
    obtain ⟨_, rfl⟩ := shadows.same
    exact ⟨calls, rfl⟩
  isolated := shadows.isolated

/-- Taking an incident leaves isolated failures. -/
theorem take (shadows : Shadows clean faulty) (call : StoreCall) :
    Shadows clean (faulty.takeIncident call).2 where
  same := by
    obtain ⟨calls, rfl⟩ := shadows.same
    obtain ⟨revocationPlan, userPlan, taken⟩ := exists_takeIncident call faulty
    rw [taken]
    exact ⟨calls, rfl⟩
  isolated store := by
    rw [plan_takeIncident]
    split_ifs
    · exact (shadows.isolated store).tail
    · exact shadows.isolated store

/-- What is carried out on both sides is answered alike. -/
theorem answer (shadows : Shadows clean faulty) (call : StoreCall) :
    (faulty.answer service call).1 = (clean.answer service call).1 ∧
      Shadows (clean.answer service call).2 (faulty.answer service call).2 := by
  obtain ⟨⟨calls, rfl⟩, isolated⟩ := shadows
  cases call with
  | record token => exact ⟨rfl, ⟨calls, rfl⟩, isolated⟩
  | lookup token => exact ⟨rfl, ⟨calls, rfl⟩, isolated⟩
  | list => exact ⟨rfl, ⟨calls, rfl⟩, isolated⟩
  | userById id => exact ⟨rfl, ⟨calls, rfl⟩, isolated⟩
  | userByEmail email => exact ⟨rfl, ⟨calls, rfl⟩, isolated⟩
  | createUser form => exact ⟨rfl, ⟨calls, rfl⟩, isolated⟩

variable (service) in
/-- A call that is let through is answered as without failures. -/
theorem perform_of_pass (shadows : Shadows clean faulty)
    (pass : (faulty.takeIncident call).1 = .pass) :
    (faulty.perform service (.store call)).1 = (clean.perform service (.store call)).1 ∧
      Shadows (clean.perform service (.store call)).2
        (faulty.perform service (.store call)).2 := by
  rw [State.perform_of_pass pass, perform_of_nil (shadows.plan_clean call.target)]
  exact ((shadows.take call).note _).answer call

/-- A call behind a failure is let through. -/
theorem pass_behind (shadows : Shadows clean faulty)
    (faults : (faulty.takeIncident call).1 ≠ .pass) :
    ((faulty.takeIncident call).2.takeIncident call).1 = .pass := by
  rw [takeIncident_fst] at faults ⊢
  rw [plan_takeIncident, if_pos rfl]
  exact (shadows.isolated call.target).headD_tail faults

variable (service) in
/-- An action that is no call is performed alike on both sides. -/
theorem perform_act (shadows : Shadows clean faulty) {action : Action}
    (noCall : ∀ call, action ≠ .store call) :
    (faulty.perform service action).1 = (clean.perform service action).1 ∧
      Shadows (clean.perform service action).2 (faulty.perform service action).2 := by
  obtain ⟨⟨calls, rfl⟩, isolated⟩ := shadows
  cases action with
  | store call => exact absurd rfl (noCall call)
  | clock =>
    rw [perform_clock, perform_clock]
    exact ⟨rfl, ⟨calls, rfl⟩, isolated⟩
  | drawName =>
    rw [perform_drawName, perform_drawName]
    exact ⟨rfl, ⟨calls, rfl⟩, isolated⟩
  | setSession session kind token expiresAt =>
    rw [perform_setSession, perform_setSession]
    exact ⟨rfl, ⟨calls, rfl⟩, isolated⟩
  | blacklistSession session kind =>
    rw [perform_blacklistSession, perform_blacklistSession]
    exact ⟨rfl, ⟨calls, rfl⟩, isolated⟩
  | clearSession session =>
    rw [perform_clearSession, perform_clearSession]
    exact ⟨rfl, ⟨calls, rfl⟩, isolated⟩

end Shadows

variable {service : Service} {α β : Type}

/-- **The operation comes to the same with isolated failures as without**, if no call would fail by
itself. -/
def Hides (service : Service) (operation : Operation α) : Prop :=
  ∀ ⦃clean faulty : State⦄, Shadows clean faulty →
    (∀ performed ∈ clean.trace service operation, performed.action.Succeeds performed.reply) →
      (faulty.run service operation).1 = (clean.run service operation).1 ∧
        Shadows (clean.run service operation).2 (faulty.run service operation).2

/-- **A call hides one failure**: it is made again, and finds everything as it was. -/
theorem hides_callStore (call : StoreCall) : Hides service (callStore call) := by
  intro clean faulty shadows succeed
  obtain ⟨value, answered⟩ := exists_answer succeed
  have goes : clean.Goes service (callStore call) value
      (clean.perform service (.store call)).2 := goes_callStore answered
  by_cases pass : (faulty.takeIncident call).1 = .pass
  · obtain ⟨same, shadows'⟩ := shadows.perform_of_pass service pass
    have goes' : faulty.Goes service (callStore call) value
        (faulty.perform service (.store call)).2 :=
      goes_callStore (Prod.ext (same.trans (by rw [answered])) rfl)
    rw [goes.run, goes'.run]
    exact ⟨rfl, shadows'⟩
  · have plain : (faulty.takeIncident call).1.IsPlain :=
      takeIncident_fst call faulty ▸ (shadows.isolated call.target).isPlain_headD
    obtain ⟨reply, detail, storage, failed⟩ :=
      exists_perform_of_fault service (plain.isFault pass)
    obtain ⟨same, shadows'⟩ :=
      (shadows.take call).perform_of_pass service (shadows.pass_behind pass)
    have again : faulty.run service (callStore call) = (.ok value,
        ((faulty.takeIncident call).2.perform service (.store call)).2) := by
      rw [State.run, run_callStore, Program.run_act, failed, afterFirst_storage storage,
        Program.run_act, Program.run_done, same, answered]
      rfl
    rw [goes.run, again]
    exact ⟨rfl, shadows'⟩

theorem Hides.bind {operation : Operation α} {next : α → Operation β}
    (first : Hides service operation) (second : ∀ value, Hides service (next value)) :
    Hides service (operation >>= next) := by
  intro clean faulty shadows succeed
  obtain ⟨same, shadows'⟩ :=
    first shadows fun performed member => succeed performed (mem_trace_bind _ member)
  cases result : (clean.run service operation).1 with
  | error failure =>
    rw [(run_bind_error result next).1, (run_bind_error (same.trans result) next).1]
    exact ⟨rfl, shadows'⟩
  | ok value =>
    obtain ⟨ran, traced⟩ := run_bind_ok result next
    rw [ran, (run_bind_ok (same.trans result) next).1]
    refine second value shadows' fun performed member => succeed performed ?_
    rw [traced]
    exact List.mem_append_right _ member

theorem Hides.attempt {operation : Operation α} (hides : Hides service operation) :
    Hides service (attempt operation) := by
  intro clean faulty shadows succeed
  obtain ⟨same, shadows'⟩ := hides shadows fun performed member =>
    succeed performed (mem_trace_attempt member)
  rw [run_attempt_eq, run_attempt_eq, same]
  exact ⟨rfl, shadows'⟩

theorem hides_act {action : Action} (noCall : ∀ call, action ≠ .store call) :
    Hides service (act action) := by
  intro clean faulty shadows _
  obtain ⟨same, shadows'⟩ := shadows.perform_act service noCall
  exact ⟨congrArg Except.ok same, shadows'⟩

/-- **What is composed of calls that are retried hides isolated failures.** -/
theorem hides_retries (service : Service) :
    Retries fun _ operation => Hides service operation where
  pure _ _ _ shadows _ := ⟨rfl, shadows⟩
  throw _ _ _ shadows _ := ⟨rfl, shadows⟩
  bind := Hides.bind
  attempt := Hides.attempt
  clock := hides_act nofun
  call call _ := hides_callStore call
  drawName := hides_act nofun
  setSession _ _ _ _ := hides_act nofun
  blacklistSession _ _ := hides_act nofun
  clearSession _ := hides_act nofun

end State

/-! ## Calls that do not fail by themselves -/

namespace State

/-- With the record in the database, both tables are there and every stored role is known, and
nothing is planned. -/
structure IsSound (service : Service) (state : State) : Prop where
  unplanned (store : StoreName) : state.plan store = []
  backend : service.backend = .table
  records : ∃ records, state.revocations.table = some records
  users : ∃ users, state.directory.table = some users ∧
    ∀ row ∈ users.rows, ∃ role, Role.ofName? row.role = some role

namespace IsSound

variable {service : Service} {state : State}

/-- Whoever is stored is found. -/
theorem exists_ofRow? {rows : List UserRow}
    (known : ∀ row ∈ rows, ∃ role, Role.ofName? row.role = some role)
    (property : UserRow → Bool) :
    ∃ user, Directory.ofRow? (rows.find? property) = .ok user := by
  cases found : rows.find? property with
  | none => exact ⟨none, rfl⟩
  | some row =>
    obtain ⟨role, named⟩ := known row (List.mem_of_find?_eq_some found)
    simp only [Directory.ofRow?, UserRow.user, named]
    exact ⟨_, rfl⟩

/-- **A call that creates no user succeeds**, and leaves the tables as sound as they were. -/
theorem perform_store (sound : state.IsSound service) {call : StoreCall}
    (noRegister : ¬ call.Registers) :
    StoreReply.Succeeds (state.perform service (.store call)).1 ∧
      (state.perform service (.store call)).2.IsSound service := by
  rw [perform_of_nil (sound.unplanned call.target)]
  obtain ⟨unplanned, backend, ⟨records, present⟩, ⟨users, live, known⟩⟩ := sound
  have kept : ({ state with calls := call :: state.calls } : State).IsSound service :=
    ⟨unplanned, backend, ⟨records, present⟩, ⟨users, live, known⟩⟩
  cases call with
  | record token =>
    simp only [answer, carryOut, record, backend, RevocationStore.record, present]
    exact ⟨⟨_, rfl⟩, unplanned, backend, ⟨_, rfl⟩, ⟨users, live, known⟩⟩
  | lookup token =>
    simp only [answer, carryOut, backend, RevocationStore.lookup, present]
    exact ⟨⟨_, rfl⟩, kept⟩
  | list =>
    simp only [answer, carryOut, backend, RevocationStore.list, present]
    exact ⟨⟨_, rfl⟩, kept⟩
  | userById id =>
    obtain ⟨user, found⟩ := exists_ofRow? known (·.id = id)
    have answered : state.directory.userById id = .ok user := by
      rw [Directory.userById, Directory.liveTable, live]
      exact found
    simp only [answer, carryOut, answered]
    exact ⟨⟨_, rfl⟩, kept⟩
  | userByEmail email =>
    obtain ⟨user, found⟩ := exists_ofRow? known (·.email = email)
    have answered : state.directory.userByEmail email = .ok user := by
      rw [Directory.userByEmail, Directory.liveTable, live]
      exact found
    simp only [answer, carryOut, answered]
    exact ⟨⟨_, rfl⟩, kept⟩
  | createUser form => exact absurd trivial noRegister

theorem perform (sound : state.IsSound service) {action : Action}
    (noRegister : ∀ call, action = .store call → ¬ call.Registers) :
    action.Succeeds (state.perform service action).1 ∧
      (state.perform service action).2.IsSound service := by
  have ⟨unplanned, backend, records, users⟩ := sound
  cases action with
  | store call => exact sound.perform_store (noRegister call rfl)
  | clock => exact ⟨trivial, by rw [perform_clock]; exact sound⟩
  | drawName =>
    exact ⟨trivial, by rw [perform_drawName]; exact ⟨unplanned, backend, records, users⟩⟩
  | setSession session kind token expiresAt =>
    exact ⟨trivial, by rw [perform_setSession]; exact ⟨unplanned, backend, records, users⟩⟩
  | blacklistSession session kind =>
    exact ⟨trivial, by rw [perform_blacklistSession]; exact ⟨unplanned, backend, records, users⟩⟩
  | clearSession session =>
    exact ⟨trivial, by rw [perform_clearSession]; exact ⟨unplanned, backend, records, users⟩⟩

/-- An action that is no call creates no user. -/
theorem obeys_act_of_noCall {rely : (action : Action) → action.Reply → Prop} {action : Action}
    (noCall : ∀ call, action ≠ .store call) :
    (act action).Obeys (fun action => ∀ call, action = .store call → ¬ call.Registers) rely
      fun _ => True :=
  (obeys_act fun call same => absurd same (noCall call)).mono fun _ _ => trivial

/-- What is composed of calls that are retried creates no user, whatever it relies on. -/
theorem retries_obeys (rely : (action : Action) → action.Reply → Prop) :
    Retries fun _ operation => operation.Obeys
      (fun action => ∀ call, action = .store call → ¬ call.Registers) rely fun _ => True where
  pure _ := obeys_pure trivial
  throw := obeys_throw
  bind first second := first.bind fun value _ => second value
  attempt obeys := obeys.attempt.mono fun _ _ => trivial
  clock := obeys_act_of_noCall nofun
  call call noRegister := by
    refine (obeys_callStore fun other same => ?_).mono fun _ _ => trivial
    obtain rfl := Action.store.inj same
    exact noRegister
  drawName := obeys_act_of_noCall nofun
  setSession _ _ _ _ := obeys_act_of_noCall nofun
  blacklistSession _ _ := obeys_act_of_noCall nofun
  clearSession _ := obeys_act_of_noCall nofun

end IsSound

end State

/-! ## Events -/

/-- The event is a call of the service whose own calls are all retried. -/
def Event.IsRetried : Event → Prop
  | .login _ | .validate _ _ | .refresh _ | .renew _ _ | .logout _ _ | .isRevoked _
  | .listRevoked => True
  | _ => False

/-- What holds of operations whose calls are retried holds of such events: the event runs an
operation that has the property, and performs what the operation performs. -/
theorem Retries.event {holds : (α : Type) → Operation α → Prop} (retries : Retries holds)
    (service : Service) {event : Event} (retried : event.IsRetried) :
    ∃ operation, holds event.Answer operation ∧ ∀ state : State,
      state.step service event = state.run service operation ∧
        event.trace service state = state.trace service operation := by
  cases event with
  | login credentials => exact ⟨_, retries.login credentials, fun _ => ⟨rfl, rfl⟩⟩
  | validate token kind => exact ⟨_, retries.validate token kind, fun _ => ⟨rfl, rfl⟩⟩
  | refresh secretToken => exact ⟨_, retries.refresh secretToken, fun _ => ⟨rfl, rfl⟩⟩
  | renew access secretToken => exact ⟨_, retries.renew access secretToken, fun _ => ⟨rfl, rfl⟩⟩
  | logout secretToken presented =>
    exact ⟨_, retries.logout secretToken presented, fun _ => ⟨rfl, rfl⟩⟩
  | isRevoked token => exact ⟨_, retries.call (.lookup token) id, fun _ => ⟨rfl, rfl⟩⟩
  | listRevoked => exact ⟨_, retries.call .list id, fun _ => ⟨rfl, rfl⟩⟩
  | _ => exact retried.elim

/-- **No call fails by itself** where both tables are there and every stored role is known. -/
theorem State.IsSound.succeed {service : Service} {event : Event} {state : State}
    (sound : state.IsSound service) (retried : event.IsRetried) :
    ∀ performed ∈ event.trace service state, performed.action.Succeeds performed.reply := by
  obtain ⟨operation, obeys, runs⟩ :=
    (State.IsSound.retries_obeys Action.Succeeds).event service retried
  rw [(runs state).2]
  intro performed member
  obtain ⟨-, succeeds⟩ := Program.Obeys.trace_of_run (State.IsSound service) obeys
    (fun action _ noRegister sound => sound.perform noRegister) state sound performed member
  exact succeeds

/-- **Isolated failures do not show.** If no call would fail by itself, and behind every call that
is planned to fail or to stay unanswered the next call to the same store is let through, then an
operation comes to the same outcome as with empty plans, and leads to the same state but for the
plans and the notes of the calls. -/
theorem isolated_failures_hidden {service : Service} {event : Event} {state : State}
    (retried : event.IsRetried) (revocations : IsIsolated state.revocationPlan)
    (users : IsIsolated state.userPlan)
    (sound : ∀ performed ∈ event.trace service state.unplanned,
      performed.action.Succeeds performed.reply) :
    (state.step service event).1 = (state.unplanned.step service event).1 ∧
      ∃ revocationPlan userPlan calls, (state.step service event).2 =
        { (state.unplanned.step service event).2 with revocationPlan, userPlan, calls } := by
  obtain ⟨operation, hides, runs⟩ := (State.hides_retries service).event service retried
  have shadows := State.Shadows.of_isolated revocations users
  rw [(runs state.unplanned).2] at sound
  obtain ⟨same, ⟨calls, led⟩, -⟩ := hides shadows sound
  rw [(runs state).1, (runs state.unplanned).1]
  refine ⟨same, (state.run service operation).2.revocationPlan,
    (state.run service operation).2.userPlan, (state.run service operation).2.calls, ?_⟩
  rw [led]
  rfl

/-- Someone logs in although the first look for the user is never answered. -/
theorem isolated_failures_hidden_from_login :
    ∃ (service : Service) (state : State) (credentials : Credentials) (pair : TokenPair),
      state.userPlan = [.hang, .pass, .fail] ∧
        (state.step service (.login credentials)).1 = .ok pair := by
  obtain ⟨service, start, credentials, row, user, ready, -⟩ := State.exists_isReady .customer
  obtain ⟨pair, calls, sessions, goes⟩ :=
    ready.exists_goes_login start.calls start.namesDrawn start.sessions
  let state : State := { start with userPlan := [.hang, .pass, .fail] }
  have unplanned : state.unplanned = start :=
    congrArg₂ (fun revocationPlan userPlan => { start with revocationPlan, userPlan })
      ready.whole.calm.revocationPlan.symm ready.whole.calm.userPlan.symm
  have known : ∃ role, Role.ofName? row.role = some role := by
    cases named : Role.ofName? row.role with
    | some role => exact ⟨role, rfl⟩
    | none => exact absurd ready.read (by simp [UserRow.user, named])
  have sound : start.IsSound service :=
    { unplanned := fun store => by
        cases store with
        | revocations => exact ready.whole.calm.revocationPlan
        | users => exact ready.whole.calm.userPlan
      backend := ready.whole.backend
      records := ⟨_, ready.whole.table⟩
      users := ⟨_, ready.table, by simpa using known⟩ }
  have revocations : IsIsolated state.revocationPlan := by
    rw [show state.revocationPlan = [] from ready.whole.calm.revocationPlan]
    exact ⟨fun _ planned => absurd planned List.not_mem_nil, .nil⟩
  have users : IsIsolated state.userPlan :=
    ⟨by simp [state, Incident.IsPlain.hang, Incident.IsPlain.pass, Incident.IsPlain.fail],
      by simp [state]⟩
  have retried : (Event.login credentials).IsRetried := trivial
  have hidden := isolated_failures_hidden retried revocations users
    (unplanned ▸ sound.succeed retried)
  have clean : (state.unplanned.step service (.login credentials)).1 = .ok pair := by
    rw [unplanned]
    exact congrArg Prod.fst goes.run
  exact ⟨service, state, credentials, pair, rfl, hidden.1.trans clean⟩

end DualToken
