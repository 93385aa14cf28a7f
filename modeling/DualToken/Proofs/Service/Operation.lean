import DualToken.Proofs.Program
import DualToken.Service.Operations

/-!
# Operations as programs

An operation ends with a value or with a failure. Here are its programs spelled out: what comes
after an action, after a failure, and after a call to a store that is tried twice
(`run_callStore`); and the rules by which an operation keeps a contract, where the promise concerns
its value and a failure owes nothing.
-/

set_option autoImplicit false

namespace DualToken

/-! ## Replies of a store -/

namespace StoreReply

variable {α : Type}

/-- What a bounded call makes of a reply: silence is an error of storage. -/
def outcome : StoreReply α → Except AuthError α
  | .answer result => result
  | .silence => .error .timedOut

/-- The reply is a result. -/
def Succeeds (reply : StoreReply α) : Prop :=
  ∃ result, reply = .answer (.ok result)

/-- Only an answer makes an operation succeed. -/
theorem eq_of_outcome {reply : StoreReply α} {value : α}
    (ok : reply.outcome.mapError Failure.refused = .ok value) : reply = .answer (.ok value) := by
  rcases reply with (error | result) | _
  · exact absurd ok nofun
  · exact congrArg _ (congrArg _ (Except.ok.inj ok))
  · exact absurd ok nofun

end StoreReply

/-- The reply is not one in which a store failed. -/
def Action.Succeeds : (action : Action) → action.Reply → Prop
  | .store _, reply => StoreReply.Succeeds reply
  | _, _ => True

namespace Operation

variable {α β : Type}

/-! ## Programs -/

@[simp] theorem run_pure (value : α) : (pure value : Operation α).run = .done (.ok value) := rfl

@[simp] theorem run_refuse (error : AuthError) :
    (refuse error : Operation α).run = .done (.error (.refused error)) := rfl

@[simp] theorem run_throw (failure : Failure) :
    (throw failure : Operation α).run = .done (.error failure) := rfl

@[simp] theorem run_ofExcept (result : Except AuthError α) :
    (ofExcept result).run = .done (result.mapError .refused) := by
  cases result with
  | ok value => rfl
  | error error => rfl

@[simp] theorem run_act_bind (action : Action) (next : action.Reply → Operation α) :
    (act action >>= next).run = .act action fun reply => (next reply).run := rfl

/-- What comes after an operation comes after its value, and a failure stays. -/
theorem run_bind (operation : Operation α) (next : α → Operation β) :
    (operation >>= next).run = operation.run >>= fun
      | .ok value => (next value).run
      | .error failure => .done (.error failure) := by
  rw [ExceptT.run_bind]
  congr 1
  funext result
  cases result with
  | ok value => rfl
  | error failure => rfl

/-- An operation whose refusal is handed on. -/
theorem run_attempt (operation : Operation α) :
    (attempt operation).run = operation.run >>= fun
      | .ok value => .done (.ok (.ok value))
      | .error (.refused error) => .done (.ok (.error error))
      | .error failure => .done (.error failure) := by
  rw [attempt, ExceptT.run_mk]
  congr 1

/-- How a call goes on behind its first reply: an error of storage is followed by a second call. -/
def afterFirst (call : StoreCall) (first : (Action.store call).Reply) :
    Program Action Action.Reply (Except Failure call.Result) :=
  match StoreReply.outcome (α := call.Result) first with
  | .error (.storage _) => .act (.store call) fun second =>
      .done ((StoreReply.outcome second).mapError .refused)
  | result => .done (result.mapError .refused)

theorem afterFirst_storage {call : StoreCall} {first : StoreReply call.Result} {detail : String}
    (failed : first.outcome = .error (.storage detail)) :
    afterFirst call first = .act (.store call) fun second =>
      .done ((StoreReply.outcome second).mapError .refused) := by
  unfold afterFirst
  rw [failed]

/-- **A call is made once, and once more if the first reply is an error of storage.** -/
theorem run_callStore (call : StoreCall) :
    (callStore call).run = .act (.store call) (afterFirst call) := by
  unfold callStore bounded
  simp only [bind_assoc, run_act_bind]
  congr 1
  funext first
  rcases first with (error | value) | _
  · cases error with
    | storage detail =>
      change Program.act _ _ = Program.act _ _
      congr 1
      funext second
      cases second with
      | answer result => exact run_ofExcept result
      | silence => rfl
    | _ => rfl
  · rfl
  · change Program.act _ _ = Program.act _ _
    congr 1
    funext second
    cases second with
    | answer result => exact run_ofExcept result
    | silence => rfl

/-- How an operation goes on behind the first reply to its call. -/
def afterCall (call : StoreCall) (next : call.Result → Operation β)
    (first : (Action.store call).Reply) : Program Action Action.Reply (Except Failure β) :=
  afterFirst call first >>= fun
    | .ok value => (next value).run
    | .error failure => .done (.error failure)

@[simp] theorem afterCall_ok (call : StoreCall) (next : call.Result → Operation β)
    (value : call.Result) :
    afterCall call next (StoreReply.answer (.ok value)) = (next value).run :=
  rfl

theorem run_callStore_bind (call : StoreCall) (next : call.Result → Operation β) :
    (callStore call >>= next).run = .act (.store call) (afterCall call next) := by
  rw [run_bind, run_callStore]
  refine congrArg (Program.act (Action.store call)) (funext fun first => ?_)
  unfold afterCall
  refine congrArg (Program.andThen _) (funext fun result => ?_)
  cases result with
  | ok value => rfl
  | error failure => rfl

/-- How an operation goes on behind the first reply to a call that it attempts. -/
def afterAttempt (call : StoreCall) (next : Except AuthError call.Result → Operation β)
    (first : (Action.store call).Reply) : Program Action Action.Reply (Except Failure β) :=
  afterFirst call first >>= fun
    | .ok value => (next (.ok value)).run
    | .error (.refused error) => (next (.error error)).run
    | .error failure => .done (.error failure)

@[simp] theorem afterAttempt_ok (call : StoreCall)
    (next : Except AuthError call.Result → Operation β) (value : call.Result) :
    afterAttempt call next (StoreReply.answer (.ok value)) = (next (.ok value)).run :=
  rfl

theorem run_attempt_callStore_bind (call : StoreCall)
    (next : Except AuthError call.Result → Operation β) :
    (attempt (callStore call) >>= next).run = .act (.store call) (afterAttempt call next) := by
  rw [run_bind, run_attempt, run_callStore]
  refine congrArg (Program.act (Action.store call)) (funext fun first => ?_)
  refine (Program.bind_assoc _ _ _).trans ?_
  rw [afterAttempt]
  congr 1
  funext result
  rcases result with failure | value
  · cases failure with
    | refused error => rfl
    | crashed => rfl
    | unanswered => rfl
  · rfl

/-! ## Contracts -/

section Contracts

variable (guarantee : Action → Prop) (rely : (action : Action) → action.Reply → Prop)

/-- The operation keeps a contract that promises something about its value. -/
def Obeys (promise : α → Prop) (operation : Operation α) : Prop :=
  operation.run.Obeys guarantee rely fun result => ∀ value, result = .ok value → promise value

variable {guarantee rely} {middle promise : α → Prop} {further : β → Prop}

theorem obeys_pure {value : α} (promised : promise value) :
    Obeys guarantee rely promise (pure value : Operation α) := by
  rintro other ⟨⟩
  exact promised

theorem obeys_throw (failure : Failure) :
    Obeys guarantee rely promise (throw failure : Operation α) := by
  rintro other ⟨⟩

theorem obeys_refuse (error : AuthError) :
    Obeys guarantee rely promise (refuse error : Operation α) :=
  obeys_throw (.refused error)

theorem obeys_ofExcept (result : Except AuthError α) :
    Obeys guarantee rely (fun value => result = .ok value) (ofExcept result) := by
  cases result with
  | ok value => exact obeys_pure rfl
  | error error => exact obeys_refuse error

theorem obeys_orCrash (value : Option α) :
    Obeys guarantee rely (fun found => value = some found) (orCrash value) := by
  cases value with
  | some found => exact obeys_pure rfl
  | none => exact obeys_throw .crashed

/-- One action, and whatever can be relied on about its reply. -/
theorem obeys_act {action : Action} (allowed : guarantee action) :
    Obeys guarantee rely (rely action) (act action) := by
  refine ⟨allowed, fun reply relied => ?_⟩
  rintro value ⟨⟩
  exact relied

theorem obeys_clock (allowed : guarantee .clock) :
    clock.Obeys guarantee rely (rely .clock) :=
  obeys_act allowed

theorem obeys_drawName (allowed : guarantee .drawName) :
    drawName.Obeys guarantee rely (rely .drawName) :=
  obeys_act allowed

theorem Obeys.bind {operation : Operation α} {next : α → Operation β}
    (first : operation.Obeys guarantee rely middle)
    (second : ∀ value, middle value → (next value).Obeys guarantee rely further) :
    (operation >>= next).Obeys guarantee rely further := by
  rw [Obeys, run_bind]
  refine Program.Obeys.bind first fun result promised => ?_
  cases result with
  | ok value => exact second value (promised value rfl)
  | error failure => exact nofun

theorem Obeys.mono {weaker : α → Prop} {operation : Operation α}
    (obeys : operation.Obeys guarantee rely promise)
    (implies : ∀ value, promise value → weaker value) :
    operation.Obeys guarantee rely weaker :=
  Program.Obeys.mono obeys fun _ promised value same => implies value (promised value same)

/-- An operation leads where its second part leads, if its first part keeps its contract and its
failures lead there too. -/
theorem Obeys.leads_bind {goal : Program Action Action.Reply (Except Failure β) → Prop}
    {operation : Operation α} {next : α → Operation β}
    (first : operation.Obeys guarantee rely middle)
    (fails : ∀ failure, goal (.done (.error failure)))
    (second : ∀ value, middle value → (next value).run.Leads guarantee rely goal) :
    (operation >>= next).run.Leads guarantee rely goal := by
  rw [run_bind]
  refine Program.Obeys.leads_bind first fun result promised => ?_
  cases result with
  | ok value => exact second value (promised value rfl)
  | error failure => exact fails failure

/-- What an attempt hands on keeps the promise if it is a value. -/
theorem Obeys.attempt {operation : Operation α} (obeys : operation.Obeys guarantee rely promise) :
    (attempt operation).Obeys guarantee rely fun result =>
      ∀ value, result = .ok value → promise value := by
  rw [Obeys, run_attempt]
  refine Program.Obeys.bind obeys fun result promised => ?_
  rcases result with failure | value
  · cases failure with
    | refused error =>
      rintro other ⟨⟩
      exact nofun
    | crashed => exact nofun
    | unanswered => exact nofun
  · rintro other ⟨⟩
    rintro same ⟨⟩
    exact promised value rfl

/-- A call that is allowed is allowed twice. -/
theorem obeys_callStore {call : StoreCall} (allowed : guarantee (.store call)) :
    (callStore call).Obeys guarantee rely fun value =>
      rely (.store call) (.answer (.ok value)) := by
  have settled : ∀ reply : StoreReply call.Result, rely (.store call) reply →
      ∀ value, (StoreReply.outcome reply).mapError Failure.refused = .ok value →
        rely (.store call) (.answer (.ok value)) := by
    intro reply relied value same
    rcases reply with (error | result) | _
    · exact absurd same nofun
    · obtain rfl : result = value := Except.ok.inj same
      exact relied
    · exact absurd same nofun
  rw [Obeys, run_callStore]
  refine ⟨allowed, fun first relied => ?_⟩
  unfold afterFirst
  split
  · exact ⟨allowed, settled⟩
  · exact settled first relied

end Contracts

end Operation

namespace Service

/-- How asking for a token goes on behind the first reply. -/
def afterLookup (token : String) (first : (Action.store (.lookup token)).Reply) :
    Program Action Action.Reply (Except Failure Bool) :=
  Operation.afterFirst (.lookup token) first

/-- What the second reply to a lookup says. -/
def secondLookup (token : String) (second : (Action.store (.lookup token)).Reply) :
    Program Action Action.Reply (Except Failure Bool) :=
  .done ((StoreReply.outcome second).mapError .refused)

/-- Asking whether a token is revoked is one lookup, and another if the first fails. -/
theorem run_isRevoked (token : String) :
    (isRevoked token).run = .act (.store (.lookup token)) (afterLookup token) :=
  Operation.run_callStore (.lookup token)

@[simp] theorem afterLookup_ok (token : String) (found : Bool) :
    afterLookup token (StoreReply.answer (.ok found)) = .done (.ok found) := rfl

@[simp] theorem secondLookup_ok (token : String) (found : Bool) :
    secondLookup token (StoreReply.answer (.ok found)) = .done (.ok found) := rfl

theorem afterLookup_storage {token : String} {first : StoreReply Bool} {detail : String}
    (failed : first.outcome = .error (.storage detail)) :
    afterLookup token first = .act (.store (.lookup token)) (secondLookup token) :=
  Operation.afterFirst_storage failed

theorem secondLookup_storage {token : String} {second : StoreReply Bool} {detail : String}
    (failed : second.outcome = .error (.storage detail)) :
    secondLookup token second = .done (.error (.refused (.storage detail))) :=
  congrArg (fun outcome => Program.done (Except.mapError Failure.refused outcome)) failed

/-! ## Parts of operations -/

open Operation

/-- The user who is to be logged in. -/
def authenticate (credentials : Credentials) : Operation User := do
  let user : Option User ← callStore (.userByEmail credentials.email)
  match user with
  | none => refuse .invalidCredentials
  | some user =>
    if Directory.comparePasswords user.passwordHash credentials.password then return user
    else refuse .invalidCredentials

/-- Logging in is issuing a pair of tokens to the user who is to be logged in. -/
theorem login_eq (service : Service) (credentials : Credentials) :
    service.login credentials = authenticate credentials >>= service.issuePair := by
  unfold login authenticate
  refine Eq.trans (congrArg _ (funext fun (user : Option User) => ?_)) (bind_assoc _ _ _).symm
  cases user with
  | none => rfl
  | some user =>
    dsimp only
    split
    · rfl
    · rfl

/-- What is left of issuing a pair of tokens when the session has its name. -/
def issueIn (service : Service) (user : User) (session : String) : Operation TokenPair := do
  let access ← claimsForUser user session .access service.accessLifetime
  let secret ← claimsForUser user session .secret service.secretLifetime
  let pair : TokenPair := ⟨service.codec.issue access, service.codec.issue secret⟩
  act (.setSession session .access pair.access secret.exp)
  act (.setSession session .secret pair.secret secret.exp)
  return pair

/-- A pair of tokens is issued in a session that is named first. -/
theorem issuePair_eq (service : Service) (user : User) :
    service.issuePair user = drawName >>= service.issueIn user := rfl

/-! ## Actions of operations -/

section Contracts

variable {service : Service} {token : String} {guarantee : Action → Prop}
  {rely : (action : Action) → action.Reply → Prop}

/-- Verifying a token looks it up and reads the clock, and gives the claims that it decodes to. -/
theorem obeys_verify (asks : guarantee (.store (.lookup token))) (reads : guarantee .clock)
    (kind : TokenKind) : (service.verify token kind).Obeys guarantee rely
      fun claims => ∃ now, service.codec.decodeAt token kind now = .ok claims := by
  refine Obeys.bind (obeys_callStore asks) fun revoked _ => ?_
  cases revoked with
  | true => exact obeys_refuse .blacklisted
  | false =>
    refine (obeys_clock reads).bind fun now _ => ?_
    exact (obeys_ofExcept _).mono fun _ decoded => ⟨now, decoded⟩

/-- Validating a token looks up a user besides. -/
theorem obeys_validate (asks : guarantee (.store (.lookup token))) (reads : guarantee .clock)
    (finds : ∀ id, guarantee (.store (.userById id))) (kind : TokenKind) :
    (service.validate token kind).Obeys guarantee rely
      fun claims => ∃ now, service.codec.decodeAt token kind now = .ok claims := by
  refine (obeys_verify asks reads kind).bind fun claims decoded => ?_
  refine Obeys.bind (obeys_callStore (finds claims.sub)) fun user _ => ?_
  cases user with
  | none => exact obeys_refuse .identityMismatch
  | some user =>
    dsimp only
    split
    · exact obeys_pure decoded
    · exact obeys_refuse .identityMismatch

/-- Recording tokens records. -/
theorem obeys_recordAll {tokens : List String}
    (records : ∀ token ∈ tokens, guarantee (.store (.record token))) :
    (recordAll tokens).Obeys guarantee rely fun _ => True := by
  induction tokens with
  | nil => exact obeys_pure trivial
  | cons token others ih =>
    refine Obeys.bind (obeys_callStore (records token List.mem_cons_self)) fun _ _ => ?_
    exact ih fun other member => records other (List.mem_cons_of_mem token member)

/-- Logging out looks up, records, reads the clock, and clears the session that the token says. -/
theorem obeys_logout (asks : guarantee (.store (.lookup token))) (reads : guarantee .clock)
    (records : ∀ token, guarantee (.store (.record token)))
    (clears : ∀ claims, (∃ now, service.codec.decodeAt token .secret now = .ok claims) →
      guarantee (.clearSession claims.sid)) (presented : Option String) :
    (service.logout token presented).Obeys guarantee rely fun _ => True := by
  refine (obeys_verify asks reads .secret).bind fun claims decoded => ?_
  refine Obeys.bind (obeys_callStore (records token)) fun _ _ => ?_
  refine (obeys_clock reads).bind fun now _ => ?_
  refine (obeys_act (clears claims decoded)).bind ?_
  rintro ⟨access, secret⟩ -
  exact obeys_recordAll fun token _ => records token

/-- Finding out who logs in looks up a user. -/
theorem obeys_authenticate {credentials : Credentials}
    (finds : guarantee (.store (.userByEmail credentials.email))) :
    (authenticate credentials).Obeys guarantee rely fun _ => True := by
  refine Obeys.bind (obeys_callStore finds) fun user _ => ?_
  cases user with
  | none => exact obeys_refuse .invalidCredentials
  | some user =>
    dsimp only
    split
    · exact obeys_pure trivial
    · exact obeys_refuse .invalidCredentials

end Contracts

end Service

end DualToken
