import DualToken.Proofs.Service.Ending
import DualToken.Proofs.Service.Faults
import DualToken.Proofs.Service.Isolation

/-!
# Logouts that fail

A logout records its secret token before it drops the session from the cache. So whatever comes in
between, the session is in the cache as it was, or a secret token of the session has been recorded
(`State.Awaits`). This is shown of every action, however deep the logouts are nested that come
first, and so of a logout that fails somewhere on the way.

A logout asks for its secret token before anything else, and a token that is recorded is refused. A
logout that has failed can therefore be repeated as long as it has not recorded its secret token;
then it records all that it was to record (`repeated_logout`). Behind that point it is refused, and
what it had not recorded yet it does not record any more (`failed_logout_not_completed`).
-/

set_option autoImplicit false

namespace DualToken

open Operation Service State

/-! ## What stays recorded -/

namespace State

variable {service : Service} {state noted : State} {token : String}

theorem Holds.takeIncident (holds : state.Holds service token) (call : StoreCall) :
    (state.takeIncident call).2.Holds service token := by
  obtain ⟨_, _, taken⟩ := exists_takeIncident call state
  rw [taken]
  exact holds

theorem Holds.recordBefore (holds : state.Holds service token) (call : StoreCall)
    (other : String) : (state.recordBefore service call other).Holds service token := by
  rw [State.recordBefore]
  cases call.target with
  | revocations => exact RevocationStore.Holds.record holds other state.now
  | users => exact holds

theorem Holds.answer (holds : state.Holds service token) (call : StoreCall) :
    (state.answer service call).2.Holds service token := by
  cases call with
  | record other => exact RevocationStore.Holds.record holds other state.now
  | lookup other => exact (RevocationStore.sameRecords_lookup _ _ other).holds_iff.2 holds
  | list => exact (RevocationStore.sameRecords_list _ _).holds_iff.2 holds
  | userById id => exact holds
  | userByEmail email => exact holds
  | createUser form => exact holds

variable (service token) in
/-- **A recorded token stays recorded**, whatever is done and whatever comes first. -/
theorem sustains_holds :
    Sustains service (fun _ => True) (fun _ _ => True) fun state => state.Holds service token where
  take _ holds := holds.takeIncident _
  rival _ _ holds := holds.recordBefore _ _
  logout _ _ := obeys_logout trivial trivial (fun _ => trivial) (fun _ _ => trivial) none
  answer _ holds := ⟨trivial, holds.answer _⟩
  fail _ := trivial
  hang _ := trivial
  act {action state} depth noCall _ holds := by
    refine ⟨trivial, ?_⟩
    cases action with
    | store call => exact absurd rfl (noCall call)
    | clock => rwa [performWithin_clock]
    | drawName => rwa [performWithin_drawName]
    | setSession session kind token expiresAt => rwa [performWithin_setSession]
    | blacklistSession session kind => rwa [performWithin_blacklistSession]
    | clearSession session => rwa [performWithin_clearSession]

end State

/-! ## Sessions that are in use -/

/-- The action leaves the session in the cache alone: a token is recorded or looked up, the clock is
read, or another session is dropped. -/
inductive Action.Spares (session : String) : Action → Prop
  | record (token : String) : Spares session (.store (.record token))
  | lookup (token : String) : Spares session (.store (.lookup token))
  | clock : Spares session .clock
  | clear {other : String} (different : other ≠ session) : Spares session (.clearSession other)

/-- A logout of another session leaves this one alone. -/
theorem Service.spares_logout {service : Service} {session other : String}
    {rely : (action : Action) → action.Reply → Prop}
    (foreign : ¬ service.SessionOf other session) (presented : Option String) :
    (service.logout other presented).Obeys (Action.Spares session) rely fun _ => True := by
  refine obeys_logout (.lookup other) .clock .record (fun claims decoded => .clear ?_) presented
  rintro rfl
  obtain ⟨now, decoded⟩ := decoded
  exact foreign ⟨claims, (Codec.decodeAt_eq_ok_iff.1 decoded).1, rfl⟩

namespace State

/-- The session is as it was at the start, or a secret token of it has been recorded: that of the
logout in question, or that of a logout that was planned to come first. -/
inductive Awaits (service : Service) (start : State) (secretToken session : String)
    (state : State) : Prop
  /-- A secret token of the session is recorded. -/
  | recorded {other : String} (own : service.SessionOf other session)
      (known : other = secretToken ∨ Incident.logout other ∈ start.revocationPlan)
      (holds : state.Holds service other)
  /-- The session is as it was. -/
  | waiting (same : state.sessions.entry? session = start.sessions.entry? session)
      (planned : ∀ incident ∈ state.revocationPlan, incident ∈ start.revocationPlan)

variable {service : Service} {start state : State} {secretToken session : String}

namespace Awaits

/-- What takes no token away, leaves the session alone and plans nothing changes nothing here. -/
theorem of_entry?_eq {after : State} (awaits : Awaits service start secretToken session state)
    (kept : ∀ token, state.Holds service token → after.Holds service token)
    (same : after.sessions.entry? session = state.sessions.entry? session)
    (planned : ∀ incident ∈ after.revocationPlan, incident ∈ state.revocationPlan) :
    Awaits service start secretToken session after := by
  cases awaits with
  | recorded own known holds => exact .recorded own known (kept _ holds)
  | waiting unchanged fewer =>
    exact .waiting (same.trans unchanged) fun incident member =>
      fewer incident (planned incident member)

theorem takeIncident (awaits : Awaits service start secretToken session state) (call : StoreCall) :
    Awaits service start secretToken session (state.takeIncident call).2 := by
  refine awaits.of_entry?_eq (fun _ holds => holds.takeIncident call) ?_ ?_
  · rw [sessions_takeIncident]
  · intro incident member
    have taken := plan_takeIncident call state .revocations
    change (state.takeIncident call).2.revocationPlan = _ at taken
    rw [taken] at member
    split_ifs at member with same
    · exact List.mem_of_mem_tail member
    · exact member

theorem recordBefore (awaits : Awaits service start secretToken session state) (call : StoreCall)
    (token : String) :
    Awaits service start secretToken session (state.recordBefore service call token) := by
  refine awaits.of_entry?_eq (fun _ holds => holds.recordBefore call token) ?_ ?_
  · rw [sessions_recordBefore]
  · rw [State.recordBefore]
    cases call.target with
    | revocations => exact fun _ member => member
    | users => exact fun _ member => member

theorem answer (awaits : Awaits service start secretToken session state) (call : StoreCall) :
    Awaits service start secretToken session (state.answer service call).2 := by
  refine awaits.of_entry?_eq (fun _ holds => holds.answer call) ?_ ?_
  · rw [sessions_answer]
  · cases call with
    | _ => exact fun _ member => member

end Awaits

/-! ## Careful worlds -/

/-- A way to perform actions that takes no token away, and by which actions that spare the session
leave it as it was or follow a record of a secret token of it. -/
structure IsCareful (service : Service) (start : State) (secretToken session : String)
    (world : (action : Action) → State → action.Reply × State) : Prop where
  holds {token : String} (action : Action) (state : State) :
    state.Holds service token → (world action state).2.Holds service token
  /-- A token is recorded when that is answered. -/
  records {token : String} {made : RecordedToken} {state after : State} :
    world (.store (.record token)) state = (StoreReply.answer (.ok made), after) →
      after.Holds service token
  spares {action : Action} {state : State} : action.Spares session →
    Awaits service start secretToken session state →
      Awaits service start secretToken session (world action state).2

namespace IsCareful

variable {world : (action : Action) → State → action.Reply × State}

/-- A call gives a value when a try of it is answered with that value, and then it is over. -/
theorem exists_answered (call : StoreCall) {value : call.Result}
    (ok : ((callStore call).run.run world state).1 = .ok value) :
    ∃ before, world (.store call) before =
      (StoreReply.answer (.ok value), ((callStore call).run.run world state).2) := by
  rw [Operation.run_callStore, Program.run_act, Operation.afterFirst] at ok ⊢
  split at ok
  · exact ⟨_, Prod.ext (StoreReply.eq_of_outcome ok) rfl⟩
  · exact ⟨_, Prod.ext (StoreReply.eq_of_outcome ok) rfl⟩

/-- What follows a step that holds a secret token of the session may do as it likes. -/
theorem awaits_of_holds (careful : IsCareful service start secretToken session world)
    {other : String} (own : service.SessionOf other session)
    (known : other = secretToken ∨ Incident.logout other ∈ start.revocationPlan) {α : Type}
    (program : Program Action Action.Reply α) (holds : state.Holds service other) :
    Awaits service start secretToken session (program.run world state).2 :=
  .recorded own known (Program.run_preserves (fun state => state.Holds service other)
    (fun action state holds => careful.holds action state holds) program state holds)

/-- An operation that spares the session leaves it as it was. -/
theorem awaits_of_spares (careful : IsCareful service start secretToken session world) {α : Type}
    {operation : Operation α} {promise : α → Prop}
    (spares : operation.Obeys (Action.Spares session) (fun _ _ => True) promise)
    (awaits : Awaits service start secretToken session state) :
    Awaits service start secretToken session (operation.run.run world state).2 :=
  (Program.Obeys.run (Awaits service start secretToken session) spares
    (fun _ _ spares awaits => ⟨trivial, careful.spares spares awaits⟩) state awaits).2

/-- **A logout of the session drops it only behind the record of its secret token.** -/
theorem awaits_logout (careful : IsCareful service start secretToken session world)
    {other : String} (known : other = secretToken ∨ Incident.logout other ∈ start.revocationPlan)
    (presented : Option String) (awaits : Awaits service start secretToken session state) :
    Awaits service start secretToken session
      ((service.logout other presented).run.run world state).2 := by
  by_cases own : service.SessionOf other session
  · have verifies : (service.verify other .secret).Obeys (Action.Spares session)
        (fun _ _ => True) fun _ => True :=
      (obeys_verify (.lookup other) .clock .secret).mono fun _ _ => trivial
    have records : (Service.record other).Obeys (Action.Spares session)
        (fun _ _ => True) fun _ => True :=
      (obeys_callStore (Action.Spares.record other)).mono fun _ _ => trivial
    have verified := careful.awaits_of_spares verifies awaits
    have recorded := careful.awaits_of_spares records verified
    -- up to the record of its secret token a logout spares every session, and behind it a secret
    -- token of the session is recorded, whatever becomes of the cache
    rw [Service.logout, Operation.run_bind, Program.run_bind]
    split
    · next claims _ =>
      rw [Operation.run_bind, Program.run_bind]
      split
      · next made ok =>
        obtain ⟨before, answered⟩ := exists_answered (.record other) ok
        exact careful.awaits_of_holds own known _ (careful.records answered)
      · exact recorded
    · exact verified
  · exact careful.awaits_of_spares (spares_logout own presented) awaits

end IsCareful

/-- A call for recorded tokens that meets a logout meets one that was planned. -/
theorem mem_of_takeIncident {call : StoreCall} (target : call.target = .revocations)
    {noted : State} {other : String} (met : state.takeIncident call = (.logout other, noted)) :
    Incident.logout other ∈ state.revocationPlan := by
  have first := takeIncident_fst call state
  rw [met, target] at first
  change _ = state.revocationPlan.headD .pass at first
  cases planned : state.revocationPlan with
  | nil =>
    rw [planned] at first
    exact absurd first nofun
  | cons incident later =>
    rw [planned] at first
    obtain rfl : Incident.logout other = incident := first
    exact List.mem_cons_self

/-- A call for recorded tokens leaves the session as it was, if what comes first does. -/
theorem Awaits.performCall {depth : Nat}
    (inner : ∀ less, depth = less + 1 →
      IsCareful service start secretToken session (performWithin service less))
    {call : StoreCall} (target : call.target = .revocations)
    (awaits : Awaits service start secretToken session state) :
    Awaits service start secretToken session
      (state.performWithin service depth (.store call)).2 := by
  cases awaits with
  | recorded own known holds =>
    exact .recorded own known ((sustains_holds service _).performWithin depth trivial holds).2
  | waiting same planned =>
    have waits : Awaits service start secretToken session state := .waiting same planned
    have taken := waits.takeIncident call
    cases met : state.takeIncident call with
    | mk incident noted =>
      rw [met] at taken
      rw [performWithin, met]
      cases incident with
      | pass => exact taken.answer call
      | fail => exact taken
      | hang => exact taken
      | record token => exact (taken.recordBefore call token).answer call
      | logout other =>
        cases depth with
        | zero => exact taken.answer call
        | succ less =>
          have known := planned _ (mem_of_takeIncident target met)
          exact ((inner less rfl).awaits_logout (.inr known) none taken).answer call

/-- Performing actions is careful, if it is so for the actions of the logouts that come first. -/
theorem isCareful_of_inner {depth : Nat}
    (inner : ∀ less, depth = less + 1 →
      IsCareful service start secretToken session (performWithin service less)) :
    IsCareful service start secretToken session (performWithin service depth) where
  holds action _ holds := ((sustains_holds service _).performWithin depth trivial holds).2
  records {token made state after} answered := by
    obtain ⟨met, -, comesOut⟩ :=
      exists_met (fun less _ => changes_performWithin less) (.record token) state
    generalize state.performWithin service depth (.store (.record token)) = outcome
      at comesOut answered
    cases comesOut with
    | failed => exact absurd (congrArg Prod.fst answered) nofun
    | silent => exact absurd (congrArg Prod.fst answered) nofun
    | answered =>
      obtain rfl : _ = after := congrArg Prod.snd answered
      exact RevocationStore.holds_of_record_ok (StoreReply.answer.inj (congrArg Prod.fst answered))
  spares {action state} spares awaits := by
    cases spares with
    | record token => exact awaits.performCall inner rfl
    | lookup token => exact awaits.performCall inner rfl
    | clock => rwa [performWithin_clock]
    | clear different =>
      rw [performWithin_clearSession]
      refine awaits.of_entry?_eq (fun _ holds => holds) ?_ fun _ member => member
      exact SessionCache.entry?_clear_of_ne different.symm

variable (service start secretToken session)

/-- **Performing actions is careful**, however deep the logouts are nested that come first. -/
theorem isCareful_performWithin (depth : Nat) :
    IsCareful service start secretToken session (performWithin service depth) := by
  induction depth with
  | zero => exact isCareful_of_inner fun less same => absurd same (by simp)
  | succ depth ih =>
    refine isCareful_of_inner fun less same => ?_
    obtain rfl : depth = less := Nat.succ.inj same
    exact ih

theorem isCareful_perform : IsCareful service start secretToken session (perform service) where
  holds action state := (isCareful_performWithin service start secretToken session
    state.incidentCount).holds action state
  records {_ _ state _} := (isCareful_performWithin service start secretToken session
    state.incidentCount).records
  spares {_ state} := (isCareful_performWithin service start secretToken session
    state.incidentCount).spares

/-! ## Logouts that are repeated -/

section Repeating

variable {service : Service} {state : State} {secretToken : String} {presented : Option String}
  {claims : Claims}

/-- Dropping the session would hand the token back. -/
def Yields (state : State) (session token : String) : Prop :=
  (state.sessions.clear session).1.1 = some token ∨ (state.sessions.clear session).1.2 = some token

/-- The token is to be recorded by the logout: it is the secret token, or current in the session, or
it was presented and is of the session. -/
def IsDue (service : Service) (state : State) (secretToken : String) (presented : Option String)
    (claims : Claims) (token : String) : Prop :=
  token = secretToken ∨ state.Yields claims.sid token ∨
    (presented = some token ∧ service.isOfSession token claims state.now = true)

/-- What a logout records. -/
theorem Goes.isDue_of_logout {after : State} {done : Unit} (calm : state.IsCalm)
    (goes : state.Goes service (service.logout secretToken presented) done after)
    (decoded : service.codec.decodeAt secretToken .secret state.now = .ok claims) (token : String) :
    after.Holds service token ↔
      state.IsDue service secretToken presented claims token ∨ state.Holds service token := by
  obtain ⟨said, decodes, holds⟩ := goes.of_logout calm
  obtain rfl : said = claims := Except.ok.inj (decodes.symm.trans decoded)
  rw [holds, IsDue, Yields]
  tauto

/-- Without faults, a logout with a secret token that is recorded is refused, and only asks for
it. -/
theorem Holds.run_logout (holds : state.Holds service secretToken) (calm : state.IsCalm)
    (quiet : state.revocations.server.failures = []) :
    state.run service (service.logout secretToken presented) = (.error (.refused .blacklisted),
      (state.perform service (.store (.lookup secretToken))).2) := by
  have answered : (state.perform service (.store (.lookup secretToken))).1 =
      StoreReply.answer (.ok true) := by
    rw [calm.perform_store]
    exact congrArg _ (RevocationStore.Holds.lookup holds quiet)
  have asked : state.Goes service (isRevoked secretToken) true _ :=
    goes_callStore (Prod.ext answered rfl)
  have refused : state.run service (service.verify secretToken .secret) =
      (.error (.refused .blacklisted), _) := (asked.run_bind _).1
  rw [Service.logout, (run_bind_error (congrArg Prod.fst refused) _).1, refused]

/-- Without faults, a logout with a secret token that is acceptable is done, if no store fails in
it. -/
theorem IsCalm.exists_goes_logout (calm : state.IsCalm)
    (decoded : service.codec.decodeAt secretToken .secret state.now = .ok claims)
    (absent : ¬ state.Holds service secretToken)
    (succeed : ∀ performed ∈ state.trace service (service.logout secretToken presented),
      performed.action.Succeeds performed.reply) :
    ∃ ended, state.Goes service (service.logout secretToken presented) () ended := by
  obtain ⟨_, first⟩ := exists_answer fun performed member => succeed performed
    (mem_trace_bind (service.verify secretToken .secret)
      (mem_trace_bind (isRevoked secretToken) member))
  obtain ⟨found, answered, recorded⟩ := calm.exists_lookup ⟨_, congrArg Prod.fst first⟩
  obtain rfl : found = false := Bool.eq_false_iff.2 fun yes => absent (recorded.1 yes)
  obtain ⟨looked, behind⟩ : ∃ looked,
      (state.perform service (.store (.lookup secretToken))).2 = looked := ⟨_, rfl⟩
  have asked : state.Goes service (isRevoked secretToken) false looked :=
    goes_callStore (Prod.ext answered behind)
  have verified : state.Goes service (service.verify secretToken .secret) claims looked := by
    refine asked.bind ((goes_clock looked).bind (goes_ofExcept ?_ looked))
    rwa [← behind, calm.now_perform]
  have rest := verified.succeed_next succeed
  obtain ⟨made, answered⟩ := exists_answer fun performed member =>
    rest performed (mem_trace_bind (Service.record secretToken) member)
  have recorded : Goes service (Service.record secretToken) _ made _ := goes_callStore answered
  have buries := (goes_clearSession service claims.sid _).succeed_next
    ((goes_clock _).succeed_next (recorded.succeed_next rest))
  obtain ⟨ended, buried⟩ := exists_goes_recordAll buries
  exact ⟨ended, verified.bind (recorded.bind ((goes_clock _).bind
    ((goes_clearSession service claims.sid _).bind buried)))⟩

end Repeating

/-! ## A user who has logged in -/

/-- A user has logged in, and whatever is planned then, the state is reachable. -/
theorem exists_loggedIn :
    ∃ (service : Service) (state : State) (secret access : Claims) (user : User),
      state.IsWhole service {} ∧
      (∀ incidents, { state with revocationPlan := incidents }.IsReachable service) ∧
      service.codec.decodeAt (service.codec.issue secret) .secret state.now = .ok secret ∧
      state.directory.userById secret.sub = .ok (some user) ∧ secret.matchesUser user = true ∧
      service.isOfSession (service.codec.issue access) secret state.now = true ∧
      service.codec.issue access ≠ service.codec.issue secret := by
  obtain ⟨service, start, credentials, row, user, ready, -⟩ := exists_isReady .customer
  obtain ⟨access, secret, calls, sessions, logsIn⟩ := ready.exists_logsIn
  refine ⟨service, { start with calls, namesDrawn := start.namesDrawn + 3, sessions }, secret,
    access, user, ready.whole.frame _ _ _, fun incidents => ?_, logsIn.decoded',
    logsIn.ofUser' ▸ ready.byId, logsIn.matched', ?_, ?_⟩
  · refine ⟨start, [.login credentials, .plan .revocations incidents], ready.sessions, ?_⟩
    have opened : (start.step service (.login credentials)).2 =
        { start with calls, namesDrawn := start.namesDrawn + 3, sessions } :=
      congrArg Prod.snd logsIn.goes.run
    rw [State.after, List.foldl_cons, opened]
    rfl
  · exact isOfSession_of_decodeAt logsIn.decoded logsIn.sameSession
      (logsIn.ofUser.trans logsIn.ofUser'.symm)
  · intro same
    obtain rfl := service.codec.issue_injective same
    obtain ⟨⟩ : TokenKind.access = .secret := logsIn.isAccess.symm.trans logsIn.isSecret

/-- A logout with an access token of its session fails behind the record of its secret token, and
the access token is not recorded. -/
theorem exists_interrupted :
    ∃ (service : Service) (state failed : State) (secretToken access detail : String)
      (claims : Claims),
      state.IsReachable service ∧ state.Plans Incident.IsPlain ∧
        (state.faultless.run service (service.validate secretToken .secret)).1 = .ok claims ∧
        state.run service (service.logout secretToken (some access)) =
          (.error (.refused (.storage detail)), failed) ∧
        state.IsDue service secretToken (some access) claims access ∧
        failed.Holds service secretToken ∧ ¬ failed.Holds service access := by
  obtain ⟨service, state, secret, access, user, whole, reachable, decoded, found, matched, own,
    different⟩ := exists_loggedIn
  let secretToken := service.codec.issue secret
  let faulty : State := { state with revocationPlan := [.pass, .pass, .fail, .fail] }
  -- the secret token is looked up and recorded
  obtain ⟨calls, asks⟩ := whole.goes_isRevoked secretToken
  have asks := asks.planned_pass whole.calm.revocationPlan rfl [.pass, .fail, .fail]
  have verifies : faulty.Goes service (service.verify secretToken .secret) secret _ :=
    asks.bind ((goes_clock _).bind (goes_ofExcept decoded _))
  obtain ⟨calls', made, records⟩ := (whole.noted calls).goes_record secretToken
  let noted : State := { state with
    calls := calls'
    revocations := { state.revocations with
      table := some (RevocationTable.record {} secretToken state.now).2 }
    revocationPlan := [.fail, .fail] }
  have records : Goes service (Service.record secretToken)
      { state with calls, revocationPlan := [.pass, .fail, .fail] } made noted :=
    records.planned_pass whole.calm.revocationPlan rfl [.fail, .fail]
  -- the session is dropped, and the first token that is to be recorded then is not
  obtain ⟨token, others, pending⟩ : ∃ token others, sortedOnce
      (((noted.sessions.clear secret.sid).1.1.toList ++
        (noted.sessions.clear secret.sid).1.2.toList ++
        ((some (service.codec.issue access)).filter fun token =>
          service.isOfSession token secret noted.now).toList).filter (· ≠ secretToken)) =
            token :: others := by
    apply List.exists_cons_of_ne_nil
    refine List.ne_nil_of_mem (mem_sortedOnce.2 (List.mem_filter.2 ⟨?_, decide_eq_true different⟩))
    exact List.mem_append_right _ (Option.mem_toList.2 (Option.filter_eq_some_iff.2 ⟨rfl, own⟩))
  let failed : State := { noted with
    calls := .record token :: .record token :: calls'
    sessions := (noted.sessions.clear secret.sid).2
    revocationPlan := [] }
  obtain ⟨detail, buries⟩ : ∃ detail, State.run service (Service.record token)
      { noted with sessions := (noted.sessions.clear secret.sid).2 } =
        (.error (.refused (.storage detail)), failed) :=
    exists_run_callStore_of_faults .fail .fail
  have fails : faulty.run service (service.logout secretToken (some (service.codec.issue access))) =
      (.error (.refused (.storage detail)), failed) := by
    rw [Service.logout, (verifies.run_bind _).1, (records.run_bind _).1,
      ((goes_clock _).run_bind _).1, ((goes_clearSession service secret.sid noted).run_bind _).1]
    dsimp only
    rw [pending, recordAll, (run_bind_error (congrArg Prod.fst buries) _).1, buries]
  have settled : faulty.faultless.IsWhole service {} :=
    ⟨whole.backend, ⟨rfl, rfl, rfl⟩, whole.table⟩
  obtain ⟨_, validates⟩ := settled.goes_validate rfl decoded found matched
  have left : failed.faultless.IsWhole service
      (RevocationTable.record {} secretToken state.now).2 :=
    ⟨whole.backend, ⟨rfl, rfl, rfl⟩, rfl⟩
  have holds (token : String) : failed.Holds service token ↔
      token = secretToken ∨ RevocationTable.contains {} token = true := by
    rw [← holds_faultless, left.holds_iff]
    exact RevocationTable.contains_record {} secretToken state.now token
  refine ⟨service, faulty, failed, secretToken, service.codec.issue access, detail, secret,
    reachable _, ?_, congrArg Prod.fst validates.run, fails, .inr (.inr ⟨rfl, own⟩), ?_, ?_⟩
  · intro incident planned
    have users : faulty.userPlan = [] := whole.calm.userPlan
    rw [users, List.append_nil] at planned
    simp only [faulty, List.mem_cons, List.not_mem_nil, or_false] at planned
    rcases planned with rfl | rfl | rfl | rfl
    · exact .pass
    · exact .pass
    · exact .fail
    · exact .fail
  · exact (holds secretToken).2 (.inl rfl)
  · rw [holds]
    rintro (same | none)
    · exact different same
    · exact absurd none nofun

end State

/-- **A logout that fails is completed by repeating it, unless it has recorded its secret token.**
Let any incidents come in between a logout with a secret token that decodes, and let it be repeated
behind them. If it has recorded its secret token, it is refused then, and records nothing. If it has
not, and no store fails any more, it is done, and every token is recorded that it was to record at
first; only the tokens that were current in the session may have gone to another logout that was
planned to come first, one with another secret token of the session, which is recorded then. -/
theorem repeated_logout {service : Service} {state : State} {secretToken : String} {claims : Claims}
    (decoded : service.codec.decodeAt secretToken .secret state.now = .ok claims)
    (presented : Option String) :
    let after := (state.run service (service.logout secretToken presented)).2
    let again := after.faultless.run service (service.logout secretToken presented)
    (after.Holds service secretToken →
      again.1 = .error (.refused .blacklisted) ∧
        ∀ token, again.2.Holds service token ↔ after.Holds service token) ∧
      (¬ after.Holds service secretToken →
        (∀ performed ∈ after.faultless.trace service (service.logout secretToken presented),
          performed.action.Succeeds performed.reply) →
        again.1 = .ok () ∧ ∀ token, state.IsDue service secretToken presented claims token →
          again.2.Holds service token ∨ (state.Yields claims.sid token ∧
            ∃ other, other ≠ secretToken ∧ service.SessionOf other claims.sid ∧
              Incident.logout other ∈ state.revocationPlan ∧ after.Holds service other)) := by
  intro after again
  have setting : state.SameSetting after :=
    (Ends.run service (ends_logout service state secretToken presented)).2
  have awaits : Awaits service state secretToken claims.sid after :=
    (isCareful_perform service state secretToken claims.sid).awaits_logout (.inl rfl) presented
      (.waiting rfl fun _ planned => planned)
  clear_value after
  have calm : after.faultless.IsCalm := ⟨rfl, rfl, rfl⟩
  refine ⟨fun holds => ?_, fun absent succeed => ?_⟩
  · have held := (holds_faultless service after secretToken).2 holds
    have refused : again = _ := held.run_logout calm rfl
    refine ⟨congrArg Prod.fst refused, fun token => ?_⟩
    have lookup : Action.store (.lookup secretToken) ≠ .store (.record token) := nofun
    rw [refused]
    exact (calm.holds_iff lookup).trans (holds_faultless service after token)
  · have now : after.faultless.now = state.now := setting.now
    have decoded' : service.codec.decodeAt secretToken .secret after.faultless.now = .ok claims :=
      now.symm ▸ decoded
    obtain ⟨ended, left⟩ := calm.exists_goes_logout decoded'
      (fun holds => absent ((holds_faultless service after secretToken).1 holds)) succeed
    obtain rfl : again.2 = ended := congrArg Prod.snd left.run
    refine ⟨congrArg Prod.fst left.run, fun token due => ?_⟩
    have recorded := (left.isDue_of_logout calm decoded' token).2
    rcases due with rfl | yields | ⟨shown, own⟩
    · exact .inl (recorded (.inl (.inl rfl)))
    · cases awaits with
      | waiting same _ =>
        left
        apply recorded
        have kept := SessionCache.clear_eq_of_entry?_eq same
        rw [Yields, ← kept] at yields
        exact .inl (.inr (.inl yields))
      | recorded own known held =>
        rcases known with rfl | planned
        · exact absurd held absent
        · exact .inr ⟨yields, _, fun same => absent (same ▸ held), own, planned, held⟩
    · exact .inl (recorded (.inl (.inr (.inr ⟨shown, now.symm ▸ own⟩))))

/-- A logout whose first lookups fail is completed by repeating it. -/
theorem logout_completed_by_repeating :
    ∃ (service : Service) (state : State) (secretToken detail : String) (claims : Claims),
      let after := (state.run service (service.logout secretToken none)).2
      let again := after.faultless.run service (service.logout secretToken none)
      (state.run service (service.logout secretToken none)).1 =
          .error (.refused (.storage detail)) ∧
        again.1 = .ok () ∧ ∀ token, state.IsDue service secretToken none claims token →
          again.2.Holds service token := by
  obtain ⟨service, state, secret, access, user, whole, -, decoded, -⟩ := exists_loggedIn
  let faulty : State := { state with revocationPlan := [.fail, .fail] }
  let asking : StoreCall := .lookup (service.codec.issue secret)
  let failed : State := { state with
    calls := asking :: asking :: state.calls, revocationPlan := [] }
  obtain ⟨detail, asks⟩ : ∃ detail, faulty.run service (isRevoked (service.codec.issue secret)) =
      (.error (.refused (.storage detail)), failed) :=
    exists_run_callStore_of_faults .fail .fail
  have verifies : faulty.run service (service.verify (service.codec.issue secret) .secret) =
      (.error (.refused (.storage detail)), failed) := by
    rw [Service.verify, (run_bind_error (congrArg Prod.fst asks) _).1, asks]
  have fails : faulty.run service (service.logout (service.codec.issue secret) none) =
      (.error (.refused (.storage detail)), failed) := by
    rw [Service.logout, (run_bind_error (congrArg Prod.fst verifies) _).1, verifies]
  have whole' : failed.faultless.IsWhole service {} := ⟨whole.backend, ⟨rfl, rfl, rfl⟩, whole.table⟩
  obtain ⟨calls, table, -, succeeds⟩ := whole'.goes_logout rfl decoded
  have absent : ¬ failed.Holds service (service.codec.issue secret) := by
    rw [← holds_faultless, whole'.holds_iff]
    exact nofun
  have decoded' : service.codec.decodeAt (service.codec.issue secret) .secret faulty.now =
      .ok secret := decoded
  have repeated := (repeated_logout decoded' none).2
  rw [fails] at repeated
  obtain ⟨done, recorded⟩ := repeated absent succeeds.succeed
  refine ⟨service, faulty, service.codec.issue secret, detail, secret, ?_⟩
  rw [fails]
  refine ⟨rfl, done, fun token due => ?_⟩
  rcases recorded token due with holds | ⟨-, other, -, -, planned, -⟩
  · exact holds
  · exact absurd planned (by simp [faulty])

/-- It is not so that a logout that fails is completed by repeating it: when it has recorded its
secret token and fails behind that, it is refused, and the access token is not recorded. -/
theorem failed_logout_not_completed :
    ¬ ∀ (service : Service) (state : State) (secretToken detail : String)
      (presented : Option String) (claims : Claims),
      state.IsReachable service → state.Plans Incident.IsPlain →
      (state.faultless.run service (service.validate secretToken .secret)).1 = .ok claims →
      (state.run service (service.logout secretToken presented)).1 =
        .error (.refused (.storage detail)) →
      let after := (state.run service (service.logout secretToken presented)).2
      ∀ token, state.IsDue service secretToken presented claims token →
        (after.faultless.run service (service.logout secretToken presented)).2.Holds service
          token := by
  intro completed
  obtain ⟨service, state, failed, secretToken, access, detail, claims, reachable, plain, validates,
    fails, due, held, lost⟩ := exists_interrupted
  have recorded := completed service state secretToken detail (some access) claims reachable plain
    validates (congrArg Prod.fst fails) access due
  -- the repeated logout is refused, so the record is what it was
  have calm : failed.faultless.IsCalm := ⟨rfl, rfl, rfl⟩
  have held' := (holds_faultless service failed secretToken).2 held
  have lookup : Action.store (.lookup secretToken) ≠ .store (.record access) := nofun
  rw [fails, held'.run_logout calm rfl] at recorded
  exact lost ((holds_faultless service failed access).1 ((calm.holds_iff lookup).1 recorded))

end DualToken
