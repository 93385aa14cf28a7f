import DualToken.Proofs.Crypto.PasswordHash
import DualToken.Proofs.Service.Calm
import DualToken.Proofs.Service.Deed
import DualToken.Proofs.Session.Cache

/-!
# Operations that succeed

`State.Goes` says that an operation gives a value and leads to a state, and that no store fails on
the way. It is composed like operations (`Goes.bind`), and taken apart like them (`Goes.of_bind`),
so that a value tells what must have happened before it. In a calm state with its table of recorded
tokens, everything succeeds that is not refused, and the state that it leads to can be written down,
but for the notes of the calls that were made.
-/

set_option autoImplicit false

namespace DualToken.State

open Operation Service

variable {α β : Type} {service : Service} {state middle after : State}

/-- The operation gives the value and leads to the state, and no store fails on the way. -/
structure Goes (service : Service) (operation : Operation α) (state : State) (value : α)
    (after : State) : Prop where
  run : state.run service operation = (.ok value, after)
  /-- No store fails. -/
  succeed : ∀ performed ∈ state.trace service operation,
    performed.action.Succeeds performed.reply

theorem goes_pure (value : α) (state : State) :
    state.Goes service (pure value) value state :=
  ⟨rfl, fun _ member => absurd member List.not_mem_nil⟩

theorem goes_act {action : Action}
    (succeeds : action.Succeeds (state.perform service action).1) :
    state.Goes service (act action) (state.perform service action).1
      (state.perform service action).2 := by
  refine ⟨rfl, fun performed member => ?_⟩
  obtain rfl := List.mem_singleton.1 member
  exact succeeds

/-- What comes behind an operation that succeeds. -/
theorem Goes.run_bind {operation : Operation α} {value : α}
    (goes : state.Goes service operation value middle) (next : α → Operation β) :
    state.run service (operation >>= next) = middle.run service (next value) ∧
      state.trace service (operation >>= next) =
        state.trace service operation ++ middle.trace service (next value) := by
  have both := run_bind_ok (congrArg Prod.fst goes.run) next
  rwa [goes.run] at both

/-- One operation after another. -/
theorem Goes.bind {operation : Operation α} {next : α → Operation β} {value : α} {result : β}
    (first : state.Goes service operation value middle)
    (second : middle.Goes service (next value) result after) :
    state.Goes service (operation >>= next) result after := by
  obtain ⟨run, trace⟩ := first.run_bind next
  refine ⟨run.trans second.run, fun performed member => ?_⟩
  rw [trace] at member
  rcases List.mem_append.1 member with member | member
  · exact first.succeed performed member
  · exact second.succeed performed member

/-- An operation whose refusal would have been handed on. -/
theorem Goes.attempt {operation : Operation α} {value : α}
    (goes : state.Goes service operation value after) :
    state.Goes service (attempt operation) (.ok value) after := by
  obtain ⟨ran, succeed⟩ := goes
  rw [State.run] at ran
  refine ⟨?_, ?_⟩
  · rw [State.run, run_attempt, Program.run_bind, ran]
    rfl
  · rw [State.trace, run_attempt, Program.trace_bind, ran]
    intro performed member
    rw [List.mem_append] at member
    exact succeed performed (member.resolve_right List.not_mem_nil)

/-- A call that is answered at once. -/
theorem goes_callStore {call : StoreCall} {value : call.Result}
    (answered : state.perform service (.store call) = (StoreReply.answer (.ok value), after)) :
    state.Goes service (callStore call) value after := by
  constructor
  · rw [run, run_callStore, Program.run_act, answered]
    rfl
  · intro performed member
    rw [trace, run_callStore, Program.trace_act, answered] at member
    obtain rfl := List.mem_singleton.1 member
    exact ⟨value, rfl⟩

theorem goes_clock (state : State) : state.Goes service clock state.now state := by
  have goes : state.Goes service clock (state.perform service .clock).1
      (state.perform service .clock).2 := goes_act trivial
  rwa [perform_clock] at goes

theorem goes_drawName (state : State) :
    state.Goes service drawName (TokenName.ofCount (state.namesDrawn + 1))
      { state with namesDrawn := state.namesDrawn + 1 } := by
  have goes : state.Goes service drawName (state.perform service .drawName).1
      (state.perform service .drawName).2 := goes_act trivial
  rwa [perform_drawName] at goes

theorem goes_setSession (session : String) (kind : TokenKind) (token : String) (expiresAt : Int64)
    (state : State) :
    state.Goes service (act (.setSession session kind token expiresAt)) ()
      { state with sessions := state.sessions.set session kind token expiresAt state.now } := by
  have goes : state.Goes service (act (.setSession session kind token expiresAt)) _ _ :=
    goes_act trivial
  rwa [perform_setSession] at goes

theorem goes_clearSession (service : Service) (session : String) (state : State) :
    state.Goes service (act (.clearSession session)) (state.sessions.clear session).1
      { state with sessions := (state.sessions.clear session).2 } := by
  have goes : state.Goes service (act (.clearSession session)) _ _ := goes_act trivial
  rwa [perform_clearSession] at goes

theorem goes_ofExcept {result : Except AuthError α} {value : α} (ok : result = .ok value)
    (state : State) : state.Goes service (ofExcept result) value state := by
  subst ok
  exact goes_pure value state

theorem goes_orCrash {found : Option α} {value : α} (some : found = .some value)
    (state : State) : state.Goes service (orCrash found) value state := by
  subst some
  exact goes_pure value state

/-! ## Logging in -/

/-- The claims of a user's new token are true of the user. -/
theorem matchesUser_forUser (user : User) (sid jti : String) (kind : TokenKind)
    (now expiry : Int) : (Claims.forUser user sid jti kind now expiry).matchesUser user = true := by
  simp [Claims.forUser, Claims.matchesUser]

/-- The claims of a new token of a user. -/
theorem goes_claimsForUser {user : User} {session : String} {kind : TokenKind}
    {lifetime expiry : Int} (within : Time.add? state.now lifetime = some expiry) :
    state.Goes service (claimsForUser user session kind lifetime)
      (Claims.forUser user session (TokenName.ofCount (state.namesDrawn + 1)) kind state.now expiry)
      { state with namesDrawn := state.namesDrawn + 1 } :=
  (goes_clock state).bind ((goes_orCrash within _).bind ((goes_drawName _).bind (goes_pure _ _)))

/-- The state behind a new session: three names have been drawn, and both tokens are current until
the session is over. -/
def opened (state : State) (session : String) (pair : TokenPair) (expiresAt : Int64) : State :=
  { state with
    namesDrawn := state.namesDrawn + 3
    sessions := (state.sessions.set session .access pair.access expiresAt state.now).set session
      .secret pair.secret expiresAt state.now }

/-- Issuing a pair of tokens opens a new session, which is over with the secret token. -/
theorem goes_issuePair_opened {user : User} {accessEnd secretEnd : Int} {access secret : Claims}
    (within : Time.add? state.now service.accessLifetime = some accessEnd)
    (within' : Time.add? state.now service.secretLifetime = some secretEnd)
    (made : access = Claims.forUser user (TokenName.ofCount (state.namesDrawn + 1))
      (TokenName.ofCount (state.namesDrawn + 2)) .access state.now accessEnd)
    (made' : secret = Claims.forUser user (TokenName.ofCount (state.namesDrawn + 1))
      (TokenName.ofCount (state.namesDrawn + 3)) .secret state.now secretEnd) :
    state.Goes service (service.issuePair user)
      ⟨service.codec.issue access, service.codec.issue secret⟩
      (state.opened secret.sid ⟨service.codec.issue access, service.codec.issue secret⟩
        secret.exp) := by
  have first : Goes service (claimsForUser user (TokenName.ofCount (state.namesDrawn + 1)) .access
      service.accessLifetime) { state with namesDrawn := state.namesDrawn + 1 } access
        { state with namesDrawn := state.namesDrawn + 2 } := made ▸ goes_claimsForUser within
  have second : Goes service (claimsForUser user (TokenName.ofCount (state.namesDrawn + 1)) .secret
      service.secretLifetime) { state with namesDrawn := state.namesDrawn + 2 } secret
        { state with namesDrawn := state.namesDrawn + 3 } := made' ▸ goes_claimsForUser within'
  have session : secret.sid = TokenName.ofCount (state.namesDrawn + 1) := made' ▸ rfl
  rw [session]
  refine (goes_drawName state).bind (first.bind (second.bind ?_))
  refine (goes_setSession _ _ _ _ _).bind ((goes_setSession _ _ _ _ _).bind ?_)
  exact goes_pure _ _

/-- A new session of a user, in which both tokens are current. -/
theorem goes_issuePair {user : User} {accessEnd secretEnd : Int} {access secret : Claims}
    (within : Time.add? state.now service.accessLifetime = some accessEnd)
    (within' : Time.add? state.now service.secretLifetime = some secretEnd)
    (made : access = Claims.forUser user (TokenName.ofCount (state.namesDrawn + 1))
      (TokenName.ofCount (state.namesDrawn + 2)) .access state.now accessEnd)
    (made' : secret = Claims.forUser user (TokenName.ofCount (state.namesDrawn + 1))
      (TokenName.ofCount (state.namesDrawn + 3)) .secret state.now secretEnd) :
    ∃ sessions : SessionCache,
      sessions.Keeps secret.sid .secret (service.codec.issue secret) secret.exp.toInt ∧
      state.Goes service (service.issuePair user)
        ⟨service.codec.issue access, service.codec.issue secret⟩
        { state with namesDrawn := state.namesDrawn + 3, sessions } :=
  ⟨_, SessionCache.keeps_set_self _ _, goes_issuePair_opened within within' made made'⟩

/-- A user who gives the right password is logged in. -/
theorem goes_login (calm : state.IsCalm) {credentials : Credentials} {user : User}
    {accessEnd secretEnd : Int} {access secret : Claims}
    (found : state.directory.userByEmail credentials.email = .ok (some user))
    (right : Directory.comparePasswords user.passwordHash credentials.password = true)
    (within : Time.add? state.now service.accessLifetime = some accessEnd)
    (within' : Time.add? state.now service.secretLifetime = some secretEnd)
    (made : access = Claims.forUser user (TokenName.ofCount (state.namesDrawn + 1))
      (TokenName.ofCount (state.namesDrawn + 2)) .access state.now accessEnd)
    (made' : secret = Claims.forUser user (TokenName.ofCount (state.namesDrawn + 1))
      (TokenName.ofCount (state.namesDrawn + 3)) .secret state.now secretEnd) :
    ∃ calls sessions,
      SessionCache.Keeps sessions secret.sid .secret (service.codec.issue secret)
        secret.exp.toInt ∧
      state.Goes service (service.login credentials)
        ⟨service.codec.issue access, service.codec.issue secret⟩
        { state with calls, namesDrawn := state.namesDrawn + 3, sessions } := by
  have looked : state.Goes service (callStore (.userByEmail credentials.email)) (some user)
      { state with calls := .userByEmail credentials.email :: state.calls } := by
    refine goes_callStore ?_
    rw [calm.perform_store]
    simp only [answer, carryOut, found]
    rfl
  obtain ⟨sessions, keeps, issues⟩ : ∃ sessions : SessionCache,
      sessions.Keeps secret.sid .secret (service.codec.issue secret) secret.exp.toInt ∧
      Goes service (service.issuePair user)
        { state with calls := .userByEmail credentials.email :: state.calls } _ _ :=
    goes_issuePair within within' made made'
  refine ⟨.userByEmail credentials.email :: state.calls, sessions, keeps, looked.bind ?_⟩
  dsimp only
  rw [if_pos right]
  exact issues

theorem Goes.calm {operation : Operation α} {value : α} (calm : state.IsCalm)
    (goes : state.Goes service operation value after) : after.IsCalm := by
  have kept : (state.run service operation).2.IsCalm := calm.run operation
  rwa [goes.run] at kept

theorem Goes.holds {operation : Operation α} {value : α} {token : String} (calm : state.IsCalm)
    (goes : state.Goes service operation value after) (holds : state.Holds service token) :
    after.Holds service token := by
  have kept : (state.run service operation).2.Holds service token := holds.run operation calm
  rwa [goes.run] at kept

/-! ## What must have happened -/

/-- What an operation does, it does also if another one follows. -/
theorem mem_trace_bind (operation : Operation α) {next : α → Operation β}
    {performed : Performed Action Action.Reply}
    (member : performed ∈ state.trace service operation) :
    performed ∈ state.trace service (operation >>= next) := by
  rw [trace, run_bind, Program.trace_bind]
  exact List.mem_append_left _ member

/-- What an operation does, it does also if its refusal is handed on. -/
theorem mem_trace_attempt {operation : Operation α} {performed : Performed Action Action.Reply}
    (member : performed ∈ state.trace service operation) :
    performed ∈ state.trace service (Operation.attempt operation) := by
  rw [trace, run_attempt, Program.trace_bind]
  exact List.mem_append_left _ member

/-- Where no store fails in two operations, none fails in the second. -/
theorem Goes.succeed_next {operation : Operation α} {next : α → Operation β} {value : α}
    (goes : state.Goes service operation value middle)
    (succeed : ∀ performed ∈ state.trace service (operation >>= next),
      performed.action.Succeeds performed.reply) :
    ∀ performed ∈ middle.trace service (next value), performed.action.Succeeds performed.reply := by
  intro performed member
  apply succeed
  rw [(goes.run_bind next).2]
  exact List.mem_append_right _ member

/-- An operation after another gives a value only behind a value of the other. -/
theorem Goes.of_bind {operation : Operation α} {next : α → Operation β} {result : β}
    (goes : state.Goes service (operation >>= next) result after) :
    ∃ value middle, state.Goes service operation value middle ∧
      middle.Goes service (next value) result after ∧
      state.trace service (operation >>= next) =
        state.trace service operation ++ middle.trace service (next value) := by
  cases ran : state.run service operation with
  | mk outcome middle =>
    cases outcome with
    | error failure =>
      obtain ⟨failed, -⟩ := run_bind_error (congrArg Prod.fst ran) next
      exact absurd (failed.symm.trans goes.run) nofun
    | ok value =>
      have first : state.Goes service operation value middle :=
        ⟨ran, fun performed member => goes.succeed performed (mem_trace_bind _ member)⟩
      obtain ⟨run, trace⟩ := first.run_bind next
      refine ⟨value, middle, first, ⟨run.symm.trans goes.run, fun performed member => ?_⟩, trace⟩
      refine goes.succeed performed ?_
      rw [trace]
      exact List.mem_append_right _ member

theorem Goes.unique {operation : Operation α} {value value' : α} {after' : State}
    (goes : state.Goes service operation value after)
    (goes' : state.Goes service operation value' after') : value = value' ∧ after = after' := by
  have same := goes.run.symm.trans goes'.run
  cases same
  exact ⟨rfl, rfl⟩

/-- A call of which no reply is a failure is answered at once. -/
theorem exists_answer {call : StoreCall}
    (succeed : ∀ performed ∈ state.trace service (callStore call),
      performed.action.Succeeds performed.reply) :
    ∃ value, state.perform service (.store call) =
      (StoreReply.answer (.ok value), (state.perform service (.store call)).2) := by
  rw [trace, run_callStore, Program.trace_act] at succeed
  obtain ⟨value, answered⟩ := succeed _ List.mem_cons_self
  exact ⟨value, Prod.ext answered rfl⟩

theorem Goes.of_callStore {call : StoreCall} {value : call.Result}
    (goes : state.Goes service (callStore call) value after) :
    state.perform service (.store call) = (StoreReply.answer (.ok value), after) := by
  obtain ⟨value', answered⟩ := exists_answer goes.succeed
  obtain ⟨rfl, rfl⟩ := goes.unique (goes_callStore answered)
  exact answered

theorem Goes.of_attempt_callStore {call : StoreCall} {result : Except AuthError call.Result}
    (goes : state.Goes service (Operation.attempt (callStore call)) result after) :
    ∃ value, result = .ok value ∧
      state.perform service (.store call) = (StoreReply.answer (.ok value), after) := by
  obtain ⟨value, answered⟩ := exists_answer fun performed member =>
    goes.succeed performed (mem_trace_attempt member)
  obtain ⟨rfl, rfl⟩ := goes.unique (goes_callStore answered).attempt
  exact ⟨value, rfl, answered⟩

theorem Goes.of_ofExcept {result : Except AuthError α} {value : α}
    (goes : state.Goes service (ofExcept result) value after) :
    result = .ok value ∧ after = state := by
  cases result with
  | ok found =>
    obtain ⟨rfl, rfl⟩ := goes.unique (goes_pure found state)
    exact ⟨rfl, rfl⟩
  | error error => exact absurd goes.run nofun

/-- What the record holds after a token has been recorded. -/
theorem Goes.of_record {token : String} {made : RecordedToken} (calm : state.IsCalm)
    (goes : state.Goes service (Service.record token) made after) (other : String) :
    after.Holds service other ↔ other = token ∨ state.Holds service other := by
  have answered := goes.of_callStore
  have later : after = (state.perform service (.store (.record token))).2 :=
    (congrArg Prod.snd answered).symm
  have recorded : after.Holds service token := by
    rw [later]
    exact calm.holds_of_succeeds ⟨made, congrArg Prod.fst answered⟩
  constructor
  · intro holds
    by_cases same : other = token
    · exact .inl same
    · rw [later] at holds
      refine .inr ((calm.holds_iff ?_).1 holds)
      rintro ⟨⟩
      exact same rfl
  · rintro (rfl | holds)
    · exact recorded
    · rw [later]
      exact holds.perform calm _

/-- What the record holds after some tokens have been recorded. -/
theorem Goes.of_recordAll {tokens : List String} {done : Unit} (calm : state.IsCalm)
    (goes : state.Goes service (recordAll tokens) done after) (other : String) :
    after.Holds service other ↔ other ∈ tokens ∨ state.Holds service other := by
  induction tokens generalizing state with
  | nil =>
    obtain ⟨-, rfl⟩ := goes.unique (goes_pure () state)
    simp
  | cons token tokens ih =>
    obtain ⟨made, middle, recorded, others, -⟩ := goes.of_bind
    rw [ih (recorded.calm calm) others, recorded.of_record calm, List.mem_cons]
    tauto

/-- Recording tokens is done if no reply is a failure. -/
theorem exists_goes_recordAll {tokens : List String}
    (succeed : ∀ performed ∈ state.trace service (recordAll tokens),
      performed.action.Succeeds performed.reply) :
    ∃ after, state.Goes service (recordAll tokens) () after := by
  induction tokens generalizing state with
  | nil => exact ⟨state, goes_pure () state⟩
  | cons token tokens ih =>
    obtain ⟨made, answered⟩ := exists_answer fun performed member =>
      succeed performed (mem_trace_bind (Service.record token) member)
    have recorded : state.Goes service (Service.record token) made _ := goes_callStore answered
    obtain ⟨after, others⟩ := ih (recorded.succeed_next succeed)
    exact ⟨after, recorded.bind others⟩

/-- A token that is verified decodes at this time, and verifying it is one lookup. -/
theorem Goes.of_verify {token : String} {kind : TokenKind} {claims : Claims} (calm : state.IsCalm)
    (goes : state.Goes service (service.verify token kind) claims after) :
    service.codec.decodeAt token kind state.now = .ok claims ∧
      after = (state.perform service (.store (.lookup token))).2 := by
  obtain ⟨revoked, middle, asked, checked, -⟩ := goes.of_bind
  have later : middle = (state.perform service (.store (.lookup token))).2 :=
    (congrArg Prod.snd asked.of_callStore).symm
  cases revoked with
  | true => exact absurd checked.run nofun
  | false =>
    obtain ⟨now, middle', read, decoded, -⟩ := checked.of_bind
    obtain ⟨rfl, rfl⟩ := read.unique (goes_clock middle)
    obtain ⟨ok, rfl⟩ := decoded.of_ofExcept
    refine ⟨?_, later⟩
    rwa [later, calm.now_perform] at ok

/-! ## With a table of recorded tokens -/

/-- Recorded tokens are kept in a table, which is there, and nothing comes in between. -/
structure IsWhole (service : Service) (state : State) (table : RevocationTable) : Prop where
  /-- Recorded tokens are kept in the table. -/
  backend : service.backend = .table
  /-- No incidents are planned. -/
  calm : state.IsCalm
  table : state.revocations.table = some table

section Whole

variable {table : RevocationTable} {token : String}

theorem IsWhole.goes_isRevoked (whole : state.IsWhole service table) (token : String) :
    ∃ calls, state.Goes service (isRevoked token) (table.contains token)
      { state with calls } := by
  refine ⟨.lookup token :: state.calls, goes_callStore ?_⟩
  rw [whole.calm.perform_store]
  simp only [answer, carryOut, RevocationStore.lookup, whole.backend, whole.table]
  rfl

theorem IsWhole.goes_record (whole : state.IsWhole service table) (token : String) :
    ∃ calls made, state.Goes service (Service.record token) made { state with
      calls,
      revocations :=
        { state.revocations with table := some (table.record token state.now).2 } } := by
  refine ⟨.record token :: state.calls, (table.record token state.now).1, ?_⟩
  refine goes_callStore ?_
  rw [whole.calm.perform_store]
  simp only [answer, carryOut, State.record, RevocationStore.record, whole.backend, whole.table]
  rfl

theorem goes_userById (calm : state.IsCalm) {id : Int64} {user : Option User}
    (found : state.directory.userById id = .ok user) :
    ∃ calls, state.Goes service (callStore (.userById id)) user { state with calls } := by
  refine ⟨.userById id :: state.calls, goes_callStore ?_⟩
  rw [calm.perform_store]
  simp only [answer, carryOut, found]
  rfl

/-- What is recorded is what is in the table. -/
theorem IsWhole.holds_iff (whole : state.IsWhole service table) :
    state.Holds service token ↔ table.contains token = true := by
  unfold State.Holds RevocationStore.Holds
  simp [whole.backend, whole.table]

/-- The stores are whole at any time, and for any service that keeps its records in the table. -/
theorem IsWhole.later (whole : state.IsWhole service table) {other : Service}
    (backend : other.backend = .table) (now : Int) (namesDrawn : Nat) (sessions : SessionCache)
    (calls : List StoreCall) :
    { state with now, namesDrawn, sessions, calls }.IsWhole other table :=
  ⟨backend, ⟨whole.calm.revocationPlan, whole.calm.userPlan, whole.calm.rivals⟩, whole.table⟩

/-- What does not concern the stores leaves them whole. -/
theorem IsWhole.frame (whole : state.IsWhole service table) (namesDrawn : Nat)
    (sessions : SessionCache) (calls : List StoreCall) :
    { state with namesDrawn, sessions, calls }.IsWhole service table :=
  whole.later whole.backend state.now namesDrawn sessions calls

/-- With another table the stores are still whole. -/
theorem IsWhole.withTable (whole : state.IsWhole service table) (changed : RevocationTable)
    (namesDrawn : Nat) (sessions : SessionCache) (calls : List StoreCall) :
    { state with
      namesDrawn, sessions, calls
      revocations := { state.revocations with table := some changed } }.IsWhole service changed :=
  ⟨whole.backend, ⟨whole.calm.revocationPlan, whole.calm.userPlan, whole.calm.rivals⟩, rfl⟩

theorem IsWhole.noted (whole : state.IsWhole service table) (calls : List StoreCall) :
    { state with calls }.IsWhole service table :=
  whole.frame state.namesDrawn state.sessions calls

/-- A token that is not recorded and decodes is verified. -/
theorem IsWhole.goes_verify (whole : state.IsWhole service table) {kind : TokenKind}
    {claims : Claims} (absent : table.contains token = false)
    (decoded : service.codec.decodeAt token kind state.now = .ok claims) :
    ∃ calls, state.Goes service (service.verify token kind) claims { state with calls } := by
  obtain ⟨calls, asked⟩ := whole.goes_isRevoked token
  refine ⟨calls, asked.bind ?_⟩
  rw [absent]
  exact (goes_clock _).bind (goes_ofExcept decoded _)

/-- A token whose claims are true of its user besides is validated. -/
theorem IsWhole.goes_validate (whole : state.IsWhole service table) {kind : TokenKind}
    {claims : Claims} {user : User} (absent : table.contains token = false)
    (decoded : service.codec.decodeAt token kind state.now = .ok claims)
    (found : state.directory.userById claims.sub = .ok (some user))
    (matched : claims.matchesUser user = true) :
    ∃ calls, state.Goes service (service.validate token kind) claims { state with calls } := by
  obtain ⟨calls, verified⟩ := whole.goes_verify absent decoded
  obtain ⟨calls', looked⟩ := goes_userById (whole.noted calls).calm found
  refine ⟨calls', verified.bind (looked.bind ?_)⟩
  dsimp only
  rw [if_pos matched]
  exact goes_pure claims _

/-- A secret token that is not recorded mints an access token. -/
theorem IsWhole.goes_mintAccess (whole : state.IsWhole service table) {claims : Claims}
    {expiry : Int} {access : String} (absent : table.contains token = false)
    (within : Time.add? state.now service.accessLifetime = some expiry)
    (made : service.codec.issue
      (claims.reissue (TokenName.ofCount (state.namesDrawn + 1)) .access state.now expiry) =
        access) :
    ∃ calls, state.Goes service (service.mintAccess token claims) access { state with
      calls
      namesDrawn := state.namesDrawn + 1
      sessions := state.sessions.set claims.sid .access access claims.exp state.now } := by
  obtain ⟨calls, asked⟩ := (whole.frame (state.namesDrawn + 1)
    (state.sessions.set claims.sid .access access claims.exp state.now)
    state.calls).goes_isRevoked token
  rw [absent] at asked
  subst made
  refine ⟨calls, (goes_clock state).bind ((goes_orCrash within _).bind ?_)⟩
  refine (goes_drawName _).bind ((goes_setSession _ _ _ _ _).bind (asked.attempt.bind ?_))
  exact goes_pure _ _

/-- An acceptable secret token is refreshed. -/
theorem IsWhole.goes_refresh (whole : state.IsWhole service table) {claims : Claims} {user : User}
    {expiry : Int} {access : String} (absent : table.contains token = false)
    (decoded : service.codec.decodeAt token .secret state.now = .ok claims)
    (found : state.directory.userById claims.sub = .ok (some user))
    (matched : claims.matchesUser user = true)
    (within : Time.add? state.now service.accessLifetime = some expiry)
    (made : service.codec.issue
      (claims.reissue (TokenName.ofCount (state.namesDrawn + 1)) .access state.now expiry) =
        access) :
    ∃ calls, state.Goes service (service.refresh token) access { state with
      calls
      namesDrawn := state.namesDrawn + 1
      sessions := state.sessions.set claims.sid .access access claims.exp state.now } := by
  obtain ⟨calls, validated⟩ := whole.goes_validate absent decoded found matched
  obtain ⟨calls', minted⟩ := (whole.noted calls).goes_mintAccess absent within made
  exact ⟨calls', validated.bind minted⟩

/-- Recording tokens adds them to the table. -/
theorem IsWhole.goes_recordAll (whole : state.IsWhole service table) (tokens : List String) :
    ∃ calls table', (∀ other, table'.contains other = true ↔
        other ∈ tokens ∨ table.contains other = true) ∧
      state.Goes service (recordAll tokens) () { state with
        calls, revocations := { state.revocations with table := some table' } } := by
  induction tokens generalizing state table with
  | nil =>
    refine ⟨state.calls, table, fun other => by simp, ?_⟩
    rw [← whole.table]
    exact goes_pure () state
  | cons token tokens ih =>
    obtain ⟨calls, made, recorded⟩ := whole.goes_record token
    have whole' : IsWhole service { state with
        calls
        revocations := { state.revocations with table := some (table.record token state.now).2 } }
          (table.record token state.now).2 := whole.withTable _ _ _ _
    obtain ⟨calls', table', contains, others⟩ := ih whole'
    refine ⟨calls', table', fun other => ?_, recorded.bind others⟩
    rw [contains, table.contains_record, List.mem_cons]
    tauto

/-- An unexpired secret token that is not recorded ends its session. -/
theorem IsWhole.goes_logout (whole : state.IsWhole service table) {claims : Claims}
    (absent : table.contains token = false)
    (decoded : service.codec.decodeAt token .secret state.now = .ok claims) :
    ∃ calls table', (∀ other, table'.contains other = true ↔
        other = token ∨ other ∈ (state.sessions.clear claims.sid).1.1.toList ++
          (state.sessions.clear claims.sid).1.2.toList ∨ table.contains other = true) ∧
      state.Goes service (service.logout token none) () { state with
        calls
        revocations := { state.revocations with table := some table' }
        sessions := (state.sessions.clear claims.sid).2 } := by
  obtain ⟨calls, verified⟩ := whole.goes_verify absent decoded
  obtain ⟨calls', made, recorded⟩ := (whole.noted calls).goes_record token
  have whole' : IsWhole service { state with
      calls := calls'
      revocations := { state.revocations with table := some (table.record token state.now).2 }
      sessions := (state.sessions.clear claims.sid).2 } (table.record token state.now).2 :=
    whole.withTable _ _ _ _
  obtain ⟨calls'', table', contains, others⟩ := whole'.goes_recordAll (sortedOnce
    (((state.sessions.clear claims.sid).1.1.toList ++
      (state.sessions.clear claims.sid).1.2.toList ++ []).filter (· ≠ token)))
  refine ⟨calls'', table', fun other => ?_, verified.bind (recorded.bind ?_)⟩
  · rw [contains, table.contains_record, mem_sortedOnce, List.mem_filter, decide_eq_true_iff,
      List.append_nil]
    by_cases same : other = token
    · simp [same]
    · simp [same]
  · exact (goes_clock _).bind ((goes_clearSession _ _ _).bind others)

end Whole

/-! ## A user who can log in -/

/-- The service has not been used, and its only user logs in with the credentials. The clock shows a
minute. -/
structure IsReady (service : Service) (credentials : Credentials) (row : UserRow) (user : User)
    (state : State) : Prop where
  whole : state.IsWhole service {}
  sessions : state.sessions = {}
  now : state.now = 60
  namesDrawn : state.namesDrawn = 0
  /-- The row is the only one. -/
  table : state.directory.table = some ⟨[row], 1⟩
  rowId : row.id = 1
  userId : user.id = 1
  read : row.user = .ok user
  byEmail : state.directory.userByEmail credentials.email = .ok (some user)
  byId : state.directory.userById user.id = .ok (some user)
  /-- The password is that of the user. -/
  right : Directory.comparePasswords user.passwordHash credentials.password = true
  accessEnd : Time.add? state.now service.accessLifetime = some 960
  secretEnd : Time.add? state.now service.secretLifetime = some 86460

namespace IsReady

variable {credentials : Credentials} {row : UserRow} {user : User}

theorem early (ready : state.IsReady service credentials row user) : 0 ≤ state.now := by
  rw [ready.now]
  decide

/-- An access token is not over at once. -/
theorem running (ready : state.IsReady service credentials row user) :
    state.now < (Int64.ofInt 960).toInt := by
  rw [ready.now]
  decide

/-- A secret token is not over at once. -/
theorem running' (ready : state.IsReady service credentials row user) :
    state.now < (Int64.ofInt 86460).toInt := by
  rw [ready.now]
  decide

end IsReady

/-- The user can log in whatever names and sessions there are. -/
theorem IsReady.exists_goes_login {credentials : Credentials} {row : UserRow} {user : User}
    (ready : state.IsReady service credentials row user) (calls : List StoreCall)
    (namesDrawn : Nat) (sessions : SessionCache) :
    ∃ pair calls' sessions', Goes service (service.login credentials)
      { state with calls, namesDrawn, sessions } pair
      { state with calls := calls', namesDrawn := namesDrawn + 3, sessions := sessions' } := by
  obtain ⟨calls', sessions', -, goes⟩ := goes_login
    (ready.whole.frame namesDrawn sessions calls).calm ready.byEmail ready.right ready.accessEnd
      ready.secretEnd rfl rfl
  exact ⟨_, calls', sessions', goes⟩

/-- The user of a service that is ready logs in and gets tokens that are issued for these claims.
The login notes its calls and opens a session in the cache. -/
structure LogsIn (service : Service) (credentials : Credentials) (user : User) (start : State)
    (access secret : Claims) (calls : List StoreCall) (sessions : SessionCache) : Prop where
  goes : start.Goes service (service.login credentials)
    ⟨service.codec.issue access, service.codec.issue secret⟩
    { start with calls, namesDrawn := start.namesDrawn + 3, sessions }
  isAccess : access.kind = .access
  isSecret : secret.kind = .secret
  /-- The session has the first name that is drawn. -/
  session : secret.sid = TokenName.ofCount (start.namesDrawn + 1)
  sameSession : access.sid = secret.sid
  ofUser : access.sub = user.id
  ofUser' : secret.sub = user.id
  /-- What the claims say of the user is true. -/
  matched : access.matchesUser user = true
  matched' : secret.matchesUser user = true
  accessEnd : access.exp = Int64.ofInt 960
  secretEnd : secret.exp = Int64.ofInt 86460
  /-- Neither token is over yet. -/
  decoded : service.codec.decodeAt (service.codec.issue access) .access start.now = .ok access
  decoded' : service.codec.decodeAt (service.codec.issue secret) .secret start.now = .ok secret

section

variable {credentials : Credentials} {user : User} {access secret : Claims}
  {calls : List StoreCall} {sessions : SessionCache}

theorem LogsIn.running
    (logsIn : state.LogsIn service credentials user access secret calls sessions) :
    state.now < access.exp.toInt :=
  (Codec.decodeAt_eq_ok_iff.1 logsIn.decoded).2.2

theorem LogsIn.running'
    (logsIn : state.LogsIn service credentials user access secret calls sessions) :
    state.now < secret.exp.toInt :=
  (Codec.decodeAt_eq_ok_iff.1 logsIn.decoded').2.2

end

theorem IsReady.exists_logsIn {credentials : Credentials} {row : UserRow} {user : User}
    (ready : state.IsReady service credentials row user) :
    ∃ access secret calls sessions,
      state.LogsIn service credentials user access secret calls sessions := by
  obtain ⟨access, made⟩ : ∃ access, access = Claims.forUser user
    (TokenName.ofCount (state.namesDrawn + 1)) (TokenName.ofCount (state.namesDrawn + 2)) .access
      state.now 960 := ⟨_, rfl⟩
  obtain ⟨secret, made'⟩ : ∃ secret, secret = Claims.forUser user
    (TokenName.ofCount (state.namesDrawn + 1)) (TokenName.ofCount (state.namesDrawn + 3)) .secret
      state.now 86460 := ⟨_, rfl⟩
  obtain ⟨calls, sessions, -, goes⟩ := goes_login ready.whole.calm ready.byEmail ready.right
    ready.accessEnd ready.secretEnd made made'
  have isAccess : access.kind = .access := made ▸ rfl
  have isSecret : secret.kind = .secret := made' ▸ rfl
  have session : access.sid = TokenName.ofCount (state.namesDrawn + 1) := made ▸ rfl
  have session' : secret.sid = TokenName.ofCount (state.namesDrawn + 1) := made' ▸ rfl
  exact ⟨access, secret, calls, sessions, {
    goes
    isAccess
    isSecret
    session := session'
    sameSession := session.trans session'.symm
    ofUser := made ▸ rfl
    ofUser' := made' ▸ rfl
    matched := made ▸ matchesUser_forUser ..
    matched' := made' ▸ matchesUser_forUser ..
    accessEnd := made ▸ rfl
    secretEnd := made' ▸ rfl
    decoded := isAccess ▸ Codec.decodeAt_issue_of_lt ready.early (made ▸ ready.running)
    decoded' := isSecret ▸ Codec.decodeAt_issue_of_lt ready.early (made' ▸ ready.running') }⟩

/-- There is a service with a user of any role. -/
theorem exists_isReady (role : Role) :
    ∃ (service : Service) (state : State) (credentials : Credentials) (row : UserRow) (user : User),
      state.IsReady service credentials row user ∧ user.role = role := by
  let service : Service := ⟨⟨[1], [2]⟩, 900, 86400, 300, ⟨true, 900, 86400⟩, .table, 4⟩
  let salt := Directory.salt 0
  let written := PasswordHash.Parts.write ⟨4, salt, PasswordHash.digest 4 salt "password1"⟩
  let row (passwordHash : String) : UserRow := ⟨1, "Test", "User", "test@example.com", passwordHash,
    role.name, "628123456789", "1 Test Street", 0⟩
  let user (passwordHash : String) : User := ⟨1, "Test", "User", "test@example.com", passwordHash,
    role, "628123456789", "1 Test Street", 0⟩
  let directory (passwordHash : String) : Directory := { table := some ⟨[row passwordHash], 1⟩ }
  have hashed : PasswordHash.hash 4 salt "password1" = .ok written := if_pos rfl
  -- what is read of the row does not depend on the hash, which is not to be computed here
  have read : ∀ passwordHash, (row passwordHash).user = .ok (user passwordHash) := by
    intro passwordHash
    cases role <;> rfl
  have byEmail : ∀ passwordHash, (directory passwordHash).userByEmail "test@example.com" =
      .ok (some (user passwordHash)) := by
    intro passwordHash
    change (row passwordHash).user.map some = _
    rw [read]
    rfl
  have byId : ∀ passwordHash, (directory passwordHash).userById 1 =
      .ok (some (user passwordHash)) := by
    intro passwordHash
    change (row passwordHash).user.map some = _
    rw [read]
    rfl
  refine ⟨service, { now := 60, directory := directory written }, ⟨"test@example.com", "password1"⟩,
    row written, user written, ?_, rfl⟩
  exact {
    whole := ⟨rfl, ⟨rfl, rfl, rfl⟩, rfl⟩
    sessions := rfl
    now := rfl
    namesDrawn := rfl
    table := rfl
    rowId := rfl
    userId := rfl
    read := read written
    byEmail := byEmail written
    byId := byId written
    right := PasswordHash.verify_hash rfl hashed
    accessEnd := rfl
    secretEnd := rfl }

end DualToken.State
