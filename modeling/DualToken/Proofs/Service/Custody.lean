import DualToken.Proofs.Http.Requests
import DualToken.Proofs.Service.Success
import DualToken.Proofs.Session.Cache

/-!
# Where access tokens go

The cache remembers one access token of each session, the one that was made current last. While
nothing comes in between, this token cannot get lost: it stays in the cache until it is taken out,
or until the session is over (`Accounted.run`). This holds of any program that acts on the state.

What the service takes out of the cache, it also records (`Restores`). So between two operations the
access token that was made current last in a session is recorded or current, unless the session is
over.
-/

set_option autoImplicit false

namespace DualToken

/-! ## Logs -/

/-- The access token that an action makes current in a session, with the end that the session is
given. -/
def Action.minted? (session : String) : Action → Option (String × Int64)
  | .setSession other .access token expiresAt =>
    if other = session then some (token, expiresAt) else none
  | _ => none

/-- The access token that was made current last in a session, with the end that the session was
given with it. -/
def lastMinted? (session : String) (log : List (Performed Action Action.Reply)) :
    Option (String × Int64) :=
  (log.filterMap fun performed => performed.action.minted? session).getLast?

/-- The access token that an action takes out of the cache. -/
def taken? : Performed Action Action.Reply → Option String
  | ⟨.blacklistSession _ .access, token⟩ => token
  | ⟨.clearSession _, tokens⟩ => Prod.fst tokens
  | _ => none

theorem lastMinted?_append (session : String) (log later : List (Performed Action Action.Reply)) :
    lastMinted? session (log ++ later) =
      (lastMinted? session later).or (lastMinted? session log) := by
  rw [lastMinted?, List.filterMap_append, List.getLast?_append]
  rfl

theorem lastMinted?_singleton (session : String) (performed : Performed Action Action.Reply) :
    lastMinted? session [performed] = performed.action.minted? session := by
  cases minted : performed.action.minted? session with
  | none => simp [lastMinted?, minted]
  | some found => simp [lastMinted?, minted]

/-- Only making an access token current in the session mints one for it. -/
theorem Action.eq_of_minted? {session token : String} {expiresAt : Int64} {action : Action}
    (minted : action.minted? session = some (token, expiresAt)) :
    action = .setSession session .access token expiresAt := by
  cases action with
  | setSession other kind made until' =>
    cases kind with
    | access =>
      rw [Action.minted?] at minted
      split at minted
      · next same =>
        cases minted
        rw [same]
      · exact absurd minted nofun
    | secret => exact absurd minted nofun
  | _ => exact absurd minted nofun

/-! ## Tokens that are accounted for -/

/-- The access token that was made current last in each session is recorded, or current in it, or
was taken out of it, unless the session is over. -/
def Accounted (service : Service) (log : List (Performed Action Action.Reply)) (state : State) :
    Prop :=
  ∀ session token expiresAt, lastMinted? session log = some (token, expiresAt) →
    state.Holds service token ∨ state.sessions.Keeps session .access token expiresAt.toInt ∨
      expiresAt.toInt ≤ state.now ∨ token ∈ log.filterMap taken?

namespace Accounted

variable {service : Service} {state : State} {log : List (Performed Action Action.Reply)}

/-- What an action does to a token that is current, if it makes no other current in its session. -/
theorem keeps_perform (calm : state.IsCalm) {session token : String} {expiresAt : Int64}
    (keeps : state.sessions.Keeps session .access token expiresAt.toInt) (action : Action)
    (other : action.minted? session = none) :
    (state.perform service action).2.sessions.Keeps session .access token expiresAt.toInt ∨
      expiresAt.toInt ≤ state.now ∨
      taken? ⟨action, (state.perform service action).1⟩ = some token := by
  have different : TokenKind.access ≠ .secret := nofun
  cases action with
  | store call =>
    rw [(calm.store_frame call).1]
    exact .inl keeps
  | clock =>
    rw [State.perform_clock]
    exact .inl keeps
  | drawName =>
    rw [State.perform_drawName]
    exact .inl keeps
  | setSession session' kind made until' =>
    rw [State.perform_setSession]
    by_cases same : session = session'
    · subst same
      cases kind with
      | access =>
        rw [Action.minted?, if_pos rfl] at other
        exact absurd other nofun
      | secret => exact .inl (keeps.set_of_ne_kind different until' state.now)
    · by_cases running : state.now < expiresAt.toInt
      · exact .inl (keeps.set_of_ne same running)
      · exact .inr (.inl (Int.not_lt.1 running))
  | blacklistSession session' kind =>
    rw [State.perform_blacklistSession]
    by_cases same : session = session'
    · subst same
      cases kind with
      | access => exact .inr (.inr keeps.blacklist)
      | secret => exact .inl (keeps.blacklist_of_ne_kind different)
    · exact .inl (keeps.of_entry_eq (SessionCache.entry?_blacklist_of_ne same))
  | clearSession session' =>
    rw [State.perform_clearSession]
    by_cases same : session = session'
    · subst same
      exact .inr (.inr keeps.clear_access)
    · exact .inl (keeps.of_entry_eq (SessionCache.entry?_clear_of_ne same))

/-- An action loses no token. -/
theorem perform (accounted : Accounted service log state) (calm : state.IsCalm)
    (action : Action) :
    Accounted service (log ++ [⟨action, (state.perform service action).1⟩])
      (state.perform service action).2 := by
  intro session token expiresAt last
  rw [lastMinted?_append, lastMinted?_singleton] at last
  rw [calm.now_perform action, List.filterMap_append, List.mem_append]
  cases minted : action.minted? session with
  | some made =>
    rw [minted, Option.some_or] at last
    cases last
    obtain rfl := Action.eq_of_minted? minted
    rw [State.perform_setSession]
    exact .inr (.inl (SessionCache.keeps_set_self expiresAt state.now))
  | none =>
    rw [minted, Option.none_or] at last
    rcases accounted session token expiresAt last with holds | keeps | late | taken
    · exact .inl (holds.perform calm action)
    · rcases keeps_perform calm keeps action minted with keeps | late | taken
      · exact .inr (.inl keeps)
      · exact .inr (.inr (.inl late))
      · exact .inr (.inr (.inr (.inr (by simp [taken]))))
    · exact .inr (.inr (.inl late))
    · exact .inr (.inr (.inr (.inl taken)))

/-- **No program loses the access token that was made current last.** -/
theorem run {α : Type} (program : Program Action Action.Reply α)
    (accounted : Accounted service log state) (calm : state.IsCalm) :
    Accounted service (log ++ program.trace (State.perform service) state)
      (program.run (State.perform service) state).2 := by
  induction program generalizing log state with
  | done result =>
    rw [Program.trace_done, List.append_nil]
    exact accounted
  | act action next ih =>
    have acted := ih (state.perform service action).1 (accounted.perform calm action)
      (calm.perform action)
    rw [List.append_assoc] at acted
    exact acted

end Accounted

/-! ## Tokens that are taken out -/

/-- Whatever access token the operation takes out of the cache is recorded when it ends, if no store
fails. -/
def Restores {α : Type} (service : Service) (operation : Operation α) (state : State) : Prop :=
  (∀ performed ∈ state.trace service operation, performed.action.Succeeds performed.reply) →
    ∀ token ∈ (state.trace service operation).filterMap taken?,
      (state.run service operation).2.Holds service token

section Restoring

open Operation Service

variable {α β : Type} {service : Service} {state : State}

/-- An operation that takes nothing out of the cache. -/
theorem restores_of_obeys {operation : Operation α} {promise : α → Prop}
    (obeys : operation.Obeys (fun action => ∀ reply, taken? ⟨action, reply⟩ = none)
      (fun _ _ => True) promise)
    (state : State) : Restores service operation state := by
  intro _ token member
  obtain ⟨performed, member, taken⟩ := List.mem_filterMap.1 member
  have none : taken? performed = none := Program.Obeys.trace obeys state performed member _
  exact absurd (none.symm.trans taken) nofun

theorem restores_act {action : Action} (none : ∀ reply, taken? ⟨action, reply⟩ = none)
    (state : State) : Restores service (act action) state :=
  restores_of_obeys (obeys_act none) state

theorem restores_pure (value : α) (state : State) :
    Restores service (pure value : Operation α) state :=
  fun _ _ taken => absurd taken List.not_mem_nil

theorem restores_throw (failure : Failure) (state : State) :
    Restores service (throw failure : Operation α) state :=
  fun _ _ taken => absurd taken List.not_mem_nil

theorem restores_orCrash (value : Option α) (state : State) :
    Restores service (orCrash value) state :=
  restores_of_obeys (obeys_orCrash value) state

theorem restores_callStore (call : StoreCall) (state : State) :
    Restores service (callStore call) state :=
  restores_of_obeys (obeys_callStore fun _ => rfl) state

/-- An operation that only checks takes nothing out. -/
theorem restores_of_checks {operation : Operation α} {promise : α → Prop}
    (checks : operation.Obeys (Deed service fun _ => False) (fun _ _ => True) promise)
    (state : State) : Restores service operation state := by
  refine restores_of_obeys (checks.imp (fun action deed reply => ?_) fun _ _ => id) state
  rcases deed.cases_of_none with ⟨call, rfl, -⟩ | rfl | rfl
  · rfl
  · rfl
  · rfl

/-- One operation after another restores what is taken out. -/
theorem Restores.bind {operation : Operation α} {next : α → Operation β} (calm : state.IsCalm)
    (first : Restores service operation state)
    (second : ∀ value after, state.Goes service operation value after → after.IsCalm →
      Restores service (next value) after) :
    Restores service (operation >>= next) state := by
  intro succeed token taken
  cases ran : state.run service operation with
  | mk outcome after =>
    cases outcome with
    | error failure =>
      obtain ⟨run, trace⟩ := State.run_bind_error (congrArg Prod.fst ran) next
      rw [trace] at succeed taken
      rw [run]
      exact first succeed token taken
    | ok value =>
      have here := fun performed member => succeed performed (State.mem_trace_bind _ member)
      have goes : state.Goes service operation value after := ⟨ran, here⟩
      have calm' := goes.calm calm
      obtain ⟨run, trace⟩ := goes.run_bind next
      rw [trace] at succeed taken
      rw [run]
      have later := fun performed member => succeed performed (List.mem_append_right _ member)
      rw [List.filterMap_append, List.mem_append] at taken
      rcases taken with taken | taken
      · have holds := first here token taken
        rw [ran] at holds
        exact holds.run _ calm'
      · exact second value after goes calm' later token taken

theorem Restores.attempt {operation : Operation α} (restores : Restores service operation state) :
    Restores service (attempt operation) state := by
  have same : state.trace service (Operation.attempt operation) = state.trace service operation ∧
      (state.run service (Operation.attempt operation)).2 = (state.run service operation).2 := by
    simp only [State.trace, State.run, run_attempt, Program.trace_bind, Program.run_bind]
    rcases (Program.run (State.perform service) operation.run state).1 with failure | value
    · cases failure with
      | refused error => exact ⟨List.append_nil _, rfl⟩
      | crashed => exact ⟨List.append_nil _, rfl⟩
      | unanswered => exact ⟨List.append_nil _, rfl⟩
    · exact ⟨List.append_nil _, rfl⟩
  rw [Restores, same.1, same.2]
  exact restores

/-- Clearing a session restores the access token that it takes out, if what follows records it. -/
theorem restores_clear_bind {session : String} {next : Option String × Option String → Operation β}
    {tokens : Option String × Option String} {cleared : State}
    (clears : state.Goes service (act (.clearSession session)) tokens cleared)
    (rest : Restores service (next tokens) cleared)
    (held : (∀ performed ∈ cleared.trace service (next tokens),
        performed.action.Succeeds performed.reply) →
      ∀ token, tokens.1 = some token → (cleared.run service (next tokens)).2.Holds service token) :
    Restores service (act (.clearSession session) >>= next) state := by
  obtain ⟨run, trace⟩ := clears.run_bind next
  intro succeed token taken
  rw [trace] at succeed taken
  rw [run]
  have later := fun performed member => succeed performed (List.mem_append_right _ member)
  rw [List.filterMap_append, List.mem_append] at taken
  rcases taken with here | taken
  · obtain ⟨performed, member, taken⟩ := List.mem_filterMap.1 here
    obtain rfl := List.mem_singleton.1 member
    have same : (state.perform service (.clearSession session)).1 = tokens :=
      Except.ok.inj (congrArg Prod.fst clears.run)
    exact held later token (same ▸ taken)
  · exact rest later token taken

/-! ## The operations of the service -/

theorem restores_clock (state : State) : Restores service clock state :=
  restores_act (fun _ => rfl) state

theorem restores_drawName (state : State) : Restores service drawName state :=
  restores_act (fun _ => rfl) state

theorem restores_claimsForUser (calm : state.IsCalm) (user : User) (session : String)
    (kind : TokenKind) (lifetime : Int) :
    Restores service (claimsForUser user session kind lifetime) state := by
  refine Restores.bind calm (restores_clock _) fun now _ _ calm => ?_
  refine Restores.bind calm (restores_orCrash _ _) fun expiry _ _ calm => ?_
  refine Restores.bind calm (restores_drawName _) fun name _ _ _ => ?_
  exact restores_pure _ _

theorem restores_issuePair (calm : state.IsCalm) (user : User) :
    Restores service (service.issuePair user) state := by
  refine Restores.bind calm (restores_drawName _) fun session _ _ calm => ?_
  refine Restores.bind calm (restores_claimsForUser calm _ _ _ _) fun access _ _ calm => ?_
  refine Restores.bind calm (restores_claimsForUser calm _ _ _ _) fun secret _ _ calm => ?_
  refine Restores.bind calm (restores_act (fun _ => rfl) _) fun _ _ _ calm => ?_
  refine Restores.bind calm (restores_act (fun _ => rfl) _) fun _ _ _ _ => ?_
  exact restores_pure _ _

theorem restores_login (calm : state.IsCalm) (credentials : Credentials) :
    Restores service (service.login credentials) state := by
  refine Restores.bind calm (restores_callStore _ _) fun user _ _ calm => ?_
  cases user with
  | none => exact restores_throw _ _
  | some user =>
    dsimp only
    split
    · exact restores_issuePair calm user
    · exact restores_throw _ _

/-- A token that has just been minted is recorded when its session is cleared again. -/
theorem restores_withdrawal (calm : state.IsCalm) {session token : String} {time : Int}
    (keeps : state.sessions.Keeps session .access token time) :
    Restores service (do
      let _ ← act (.clearSession session)
      let _ ← record token
      refuse (α := α) .blacklisted) state := by
  have clears := State.goes_clearSession service session state
  have calm' := clears.calm calm
  refine restores_clear_bind clears ?_ fun succeed other found => ?_
  · exact Restores.bind calm' (restores_callStore _ _) fun _ _ _ _ => restores_throw _ _
  · obtain rfl : token = other := Option.some.inj (keeps.clear_access.symm.trans found)
    obtain ⟨made, answered⟩ := State.exists_answer fun performed member =>
      succeed performed (State.mem_trace_bind (record token) member)
    have recorded : State.Goes service (record token) _ made _ := State.goes_callStore answered
    obtain ⟨run, -⟩ := recorded.run_bind fun _ => (refuse .blacklisted : Operation α)
    rw [run]
    exact (recorded.of_record calm' token).2 (.inl rfl)

theorem restores_mintAccess (calm : state.IsCalm) (secretToken : String) (claims : Claims) :
    Restores service (service.mintAccess secretToken claims) state := by
  refine Restores.bind calm (restores_clock _) fun now _ _ calm => ?_
  refine Restores.bind calm (restores_orCrash _ _) fun expiry _ _ calm => ?_
  refine Restores.bind calm (restores_drawName _) fun name before _ calm => ?_
  refine Restores.bind calm (restores_act (fun _ => rfl) _) fun _ minted set calm => ?_
  have keeps : minted.sessions.Keeps claims.sid .access
      (service.codec.issue (claims.reissue name .access now expiry)) claims.exp.toInt := by
    obtain ⟨-, rfl⟩ := set.unique (State.goes_setSession _ _ _ _ before)
    exact SessionCache.keeps_set_self claims.exp before.now
  refine Restores.bind calm (restores_callStore _ _).attempt fun result asked goes calm' => ?_
  obtain ⟨revoked, rfl, answered⟩ := goes.of_attempt_callStore
  have frame : (minted.perform service (.store (.lookup secretToken))).2.sessions =
      minted.sessions := (calm.store_frame _).1
  rw [answered] at frame
  cases revoked with
  | false => exact restores_pure _ _
  | true => exact restores_withdrawal calm' (frame ▸ keeps)

theorem restores_refresh (calm : state.IsCalm) (secretToken : String) :
    Restores service (service.refresh secretToken) state := by
  refine Restores.bind calm (restores_of_checks (does_validate _ _) _) fun claims _ _ calm => ?_
  exact restores_mintAccess calm secretToken claims

theorem restores_renew (calm : state.IsCalm) (access : Claims) (secretToken : String) :
    Restores service (service.renew access secretToken) state := by
  refine Restores.bind calm (restores_of_checks (does_validate _ _) _) fun claims _ _ calm => ?_
  split
  · exact restores_mintAccess calm secretToken claims
  · exact restores_throw _ _

theorem restores_recordAll (calm : state.IsCalm) (tokens : List String) :
    Restores service (recordAll tokens) state := by
  induction tokens generalizing state with
  | nil => exact restores_pure _ _
  | cons token tokens ih =>
    exact Restores.bind calm (restores_callStore _ _) fun _ _ _ calm => ih calm

theorem restores_logout (calm : state.IsCalm) (secretToken : String) (presented : Option String) :
    Restores service (service.logout secretToken presented) state := by
  refine Restores.bind calm (restores_of_checks (does_verify _ _) _) fun claims _ _ calm => ?_
  refine Restores.bind calm (restores_callStore _ _) fun made noted recorded calm' => ?_
  refine Restores.bind calm' (restores_clock _) fun now read ticked calm'' => ?_
  have clears := State.goes_clearSession service claims.sid read
  refine restores_clear_bind clears (restores_recordAll (clears.calm calm'') _) ?_
  intro succeed token found
  obtain ⟨after, others⟩ := State.exists_goes_recordAll succeed
  have holds : after.Holds service token := by
    refine (others.of_recordAll (clears.calm calm'') token).2 ?_
    by_cases same : token = secretToken
    · have kept : noted.Holds service token := (recorded.of_record calm token).2 (.inl same)
      exact .inr (clears.holds calm'' (ticked.holds calm' kept))
    · left
      rw [mem_sortedOnce, List.mem_filter, found]
      simp [same]
  exact congrArg Prod.snd others.run ▸ holds

/-- **Restoring what is taken out is a property that requests inherit.** -/
theorem compositional_restores (service : Service) :
    Compositional service fun _ operation =>
      ∀ state : State, state.IsCalm → Restores service operation state where
  pure value := fun state _ => restores_pure value state
  throw failure := fun state _ => restores_throw failure state
  bind first second := fun state calm =>
    Restores.bind calm (first state calm) fun value after _ calm => second value after calm
  attempt restores := fun state calm => (restores state calm).attempt
  clock := fun state _ => restores_clock state
  createUser form := fun state calm => by
    refine Restores.bind calm (restores_act (fun _ => rfl) _) fun reply _ _ _ => ?_
    rcases reply with (error | user) | _
    · exact restores_throw _ _
    · exact restores_pure _ _
    · exact restores_throw _ _
  listRevoked := fun state _ => restores_callStore _ state
  login credentials := fun _ calm => restores_login calm credentials
  validate token kind := fun state _ => restores_of_checks (does_validate token kind) state
  refresh secretToken := fun _ calm => restores_refresh calm secretToken
  renew access secretToken := fun _ calm => restores_renew calm access secretToken
  logout secretToken presented := fun _ calm => restores_logout calm secretToken presented

end Restoring

end DualToken
