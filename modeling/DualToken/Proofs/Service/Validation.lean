import DualToken.Proofs.Service.Refusal
import DualToken.Proofs.Service.Success

/-!
# What validating a token finds

A token validates only if everything has been found out that speaks for it (`State.Vouches`): a
lookup was answered and the token was not recorded then, it decodes at this time, and its claims are
those of a row of the table of users. Without faults this is also enough
(`State.Vouches.goes_validate`).

Validating reads and changes nothing. Unless other writers or other logouts are planned, the state
behind an operation that only reads is the one before it, but for the notes of the calls
(`State.unchanged_of_reads`).
-/

set_option autoImplicit false

namespace DualToken

/-! ## Operations that only read -/

/-- The incident lets nobody else come first. -/
inductive Incident.IsPlain : Incident → Prop
  | pass : IsPlain .pass
  | fail : IsPlain .fail
  | hang : IsPlain .hang

namespace State

variable {service : Service} {state start : State} {token : String}

/-- What the state holds is as it was at the start. -/
structure Unchanged (start state : State) : Prop extends SameSetting start state where
  /-- The records are the same. -/
  records : start.revocations.SameRecords state.revocations
  sessions : state.sessions = start.sessions
  /-- No name has been drawn. -/
  namesDrawn : state.namesDrawn = start.namesDrawn

theorem Unchanged.refl (state : State) : state.Unchanged state :=
  ⟨⟨rfl, rfl⟩, .refl _, rfl, rfl⟩

variable (service) in
/-- **Reading changes nothing**, if nobody else comes first. -/
theorem sustains_unchanged (start : State) :
    Sustains service Action.Reads start.Replies
      fun state => start.Unchanged state ∧ state.Plans Incident.IsPlain where
  take {call state} _ kept := by
    obtain ⟨same, plain⟩ := kept
    refine ⟨?_, (plain.takeIncident .pass call).2⟩
    obtain ⟨_, _, taken⟩ := exists_takeIncident call state
    rw [taken]
    exact ⟨⟨same.now, same.directory⟩, same.records, same.sessions, same.namesDrawn⟩
  rival {call _ _ _} kept met _ := by
    have plain := (kept.2.takeIncident .pass call).1
    rw [met] at plain
    cases plain
  logout {call _ _ _} kept met := by
    have plain := (kept.2.takeIncident .pass call).1
    rw [met] at plain
    cases plain
  answer {call state} reads kept := by
    obtain ⟨same, plain⟩ := kept
    refine ⟨(replies_answer same.toSameSetting reads.keepsUsers).1, ?_⟩
    cases reads with
    | lookup token =>
      have kept := state.revocations.sameRecords_lookup service.backend token
      exact ⟨⟨⟨same.now, same.directory⟩, same.records.trans kept, same.sessions, same.namesDrawn⟩,
        plain⟩
    | list =>
      have kept := state.revocations.sameRecords_list service.backend
      exact ⟨⟨⟨same.now, same.directory⟩, same.records.trans kept, same.sessions, same.namesDrawn⟩,
        plain⟩
    | userById id => exact ⟨same, plain⟩
    | userByEmail email => exact ⟨same, plain⟩
  fail _ := ⟨fun _ failed => ⟨_, (Except.error.inj failed).symm⟩, nofun⟩
  hang _ := ⟨fun _ failed => ⟨_, (Except.error.inj failed).symm⟩, nofun⟩
  act {action state} depth noCall reads kept := by
    cases reads with
    | clock =>
      rw [performWithin_clock]
      exact ⟨kept.1.now, kept⟩
    | _ => exact absurd rfl (noCall _)

section Reading

variable {α : Type} {operation : Operation α} {promise : α → Prop} {failing : Failure → Prop}

/-- An operation that only reads leaves the state as it is, if nobody else comes first. -/
theorem unchanged_of_reads (ends : operation.Ends Action.Reads state promise failing)
    (plain : state.Plans Incident.IsPlain) : state.Unchanged (state.run service operation).2 :=
  ((sustains_unchanged service state).run ends ⟨.refl state, plain⟩).2.1

/-- An operation that only reads does nothing else, whoever comes first. -/
theorem reads_of_mem_trace (ends : operation.Ends Action.Reads state promise failing)
    {performed : Performed Action Action.Reply}
    (member : performed ∈ state.trace service operation) : performed.action.Reads := by
  have obeys : operation.run.Obeys (fun action => action.Reads ∧ action.KeepsUsers) state.Replies
      (Operation.IsEnd promise failing) :=
    Program.Obeys.imp ends (fun _ reads => ⟨reads, reads.keepsUsers⟩) fun _ _ replied => replied
  obtain ⟨⟨reads, -⟩, -⟩ := Program.Obeys.trace_of_run state.SameSetting obeys
    (fun _ later reads kept => (sustains_replies service state).performWithin later.incidentCount
      reads.2 kept) state ⟨rfl, rfl⟩ performed member
  exact reads

end Reading

/-! ## Lookups -/

/-- A lookup of the token is answered with no, and the token is not recorded then. -/
structure Clears (service : Service) (state : State) (token : String) : Prop where
  answered : (state.perform service (.store (.lookup token))).1 = StoreReply.answer (.ok false)
  absent : ¬ (state.perform service (.store (.lookup token))).2.Holds service token

/-- A lookup is answered with no only if the token is not recorded. -/
theorem clears_of_answered
    (answered : (state.perform service (.store (.lookup token))).1 =
      StoreReply.answer (.ok false)) : state.Clears service token := by
  refine ⟨answered, ?_⟩
  obtain ⟨met, -, comesOut⟩ := exists_met_perform service (.lookup token) state
  generalize state.perform service (.store (.lookup token)) = outcome at comesOut answered ⊢
  cases comesOut with
  | failed => exact absurd answered nofun
  | silent => exact absurd answered nofun
  | answered =>
    have no : (met.revocations.lookup service.backend token).1 = .ok false :=
      StoreReply.answer.inj answered
    have same := met.revocations.sameRecords_lookup service.backend token
    intro holds
    exact absurd ((RevocationStore.lookup_ok_iff no).2 (same.holds_iff.1 holds)) nofun

/-- A call gives a value only if it is the answer to the first try, or to the second behind a first
that failed. -/
theorem answered_of_callStore {call : StoreCall} {value : call.Result}
    (ok : (state.run service (Operation.callStore call)).1 = .ok value) :
    (state.perform service (.store call)).1 = StoreReply.answer (.ok value) ∨
      (¬ StoreReply.Succeeds (state.perform service (.store call)).1 ∧
        ((state.perform service (.store call)).2.perform service (.store call)).1 =
          StoreReply.answer (.ok value)) := by
  rw [State.run, Operation.run_callStore, Program.run_act, Operation.afterFirst] at ok
  split at ok
  · next detail failed =>
    refine .inr ⟨?_, StoreReply.eq_of_outcome ok⟩
    rintro ⟨result, answered⟩
    rw [answered] at failed
    cases failed
  · exact .inl (StoreReply.eq_of_outcome ok)

/-- The token is found not to be recorded, by the first lookup or by the second. -/
def FindsClear (service : Service) (state : State) (token : String) : Prop :=
  state.Clears service token ∨
    (¬ StoreReply.Succeeds (state.perform service (.store (.lookup token))).1 ∧
      (state.perform service (.store (.lookup token))).2.Clears service token)

/-- Asking whether a token is revoked gives no only if a lookup was answered with no. -/
theorem findsClear_of_isRevoked
    (ok : (state.run service (Service.isRevoked token)).1 = .ok false) :
    state.FindsClear service token := by
  rcases answered_of_callStore ok with answered | ⟨failed, answered⟩
  · exact .inl (clears_of_answered answered)
  · exact .inr ⟨failed, clears_of_answered answered⟩

end State

/-! ## Tokens that are vouched for -/

/-- The user of a number, as its row says. -/
def Directory.Has (directory : Directory) (id : Int64) (user : User) : Prop :=
  ∃ table row, directory.table = some table ∧ table.byId? id = some row ∧ row.user = .ok user

theorem Directory.userById_eq_ok_iff {directory : Directory} {id : Int64} {user : User} :
    directory.userById id = .ok (some user) ↔ directory.Has id user := by
  unfold Has userById liveTable
  cases directory.table with
  | none => exact ⟨nofun, fun ⟨_, _, present, _⟩ => absurd present nofun⟩
  | some table =>
    change ofRow? (table.byId? id) = .ok (some user) ↔ _
    cases found : table.byId? id with
    | none =>
      refine ⟨nofun, ?_⟩
      rintro ⟨_, row, ⟨⟩, found', -⟩
      exact absurd (found.symm.trans found') nofun
    | some row =>
      change row.user.map some = .ok (some user) ↔ _
      constructor
      · intro ok
        cases read : row.user with
        | error error =>
          rw [read] at ok
          exact absurd ok nofun
        | ok user' =>
          rw [read] at ok
          obtain rfl : user' = user := Option.some.inj (Except.ok.inj ok)
          exact ⟨table, row, rfl, found, read⟩
      · rintro ⟨_, row', ⟨⟩, found', read⟩
        obtain rfl : row = row' := Option.some.inj (found.symm.trans found')
        rw [read]
        rfl

namespace State

variable {service : Service} {state : State} {token : String} {claims : Claims}

/-- Everything speaks for the access token: it is found not to be recorded, it decodes at this time,
its number is that of a row of the table of users, and its claims agree with that row. -/
structure Vouches (service : Service) (state : State) (token : String) (claims : Claims)
    (user : User) : Prop where
  clear : state.FindsClear service token
  decoded : service.codec.decodeAt token .access state.now = .ok claims
  row : state.directory.Has claims.sub user
  /-- What the claims say about the user is still so. -/
  agrees : claims.matchesUser user = true

/-- A value of two operations is a value of the second behind a value of the first. -/
theorem exists_ok_of_bind {α β : Type} {operation : Operation α} {next : α → Operation β}
    {result : β} (ok : (state.run service (operation >>= next)).1 = .ok result) :
    ∃ value, (state.run service operation).1 = .ok value ∧
      ((state.run service operation).2.run service (next value)).1 = .ok result := by
  cases first : (state.run service operation).1 with
  | ok value =>
    rw [(run_bind_ok first next).1] at ok
    exact ⟨value, rfl, ok⟩
  | error failure =>
    rw [(run_bind_error first next).1] at ok
    exact absurd ok nofun

/-- **A token that validates is vouched for.** -/
theorem vouches_of_validate
    (ok : (state.run service (service.validate token .access)).1 = .ok claims) :
    ∃ user, state.Vouches service token claims user := by
  have ends := (Service.ends_validate service state token .access).keepsUsers
  obtain ⟨decoded, user, found, agrees⟩ := Ends.of_ok ends ok
  obtain ⟨_, verified, -⟩ := exists_ok_of_bind ok
  obtain ⟨revoked, asked, rest⟩ := exists_ok_of_bind verified
  refine ⟨user, ?_, decoded, Directory.userById_eq_ok_iff.1 found, agrees⟩
  cases revoked with
  | false => exact findsClear_of_isRevoked asked
  | true => exact absurd rest nofun

/-- In a calm state a token that is found not to be recorded is not recorded. -/
theorem FindsClear.absent (clear : state.FindsClear service token) (calm : state.IsCalm) :
    ¬ state.Holds service token := by
  intro holds
  have holds' := holds.perform calm (.store (.lookup token))
  rcases clear with clear | ⟨-, clear⟩
  · exact clear.absent holds'
  · exact clear.absent (holds'.perform (calm.perform _) _)

/-- **Without faults a token that is vouched for validates.** -/
theorem Vouches.goes_validate {user : User} (vouches : state.Vouches service token claims user)
    (calm : state.IsCalm)
    (succeeds : Action.Succeeds (.store (.lookup token))
      (state.perform service (.store (.lookup token))).1) :
    ∃ after, state.Goes service (service.validate token .access) claims after := by
  obtain ⟨found, answered, recorded⟩ := calm.exists_lookup succeeds
  obtain rfl : found = false :=
    Bool.eq_false_iff.2 fun yes => vouches.clear.absent calm (recorded.1 yes)
  obtain ⟨middle, behind⟩ : ∃ middle, (state.perform service (.store (.lookup token))).2 = middle :=
    ⟨_, rfl⟩
  have asked : state.Goes service (Service.isRevoked token) false middle :=
    goes_callStore (Prod.ext answered behind)
  have calm' : middle.IsCalm := behind ▸ calm.perform _
  have same : middle.now = state.now := behind ▸ calm.now_perform _
  have users : middle.directory = state.directory := by
    rw [← behind, calm.perform_store]
    rfl
  have verified : state.Goes service (service.verify token .access) claims middle :=
    asked.bind ((goes_clock _).bind (goes_ofExcept (same.symm ▸ vouches.decoded) _))
  obtain ⟨calls, looked⟩ := goes_userById calm'
    (users.symm ▸ Directory.userById_eq_ok_iff.2 vouches.row)
  refine ⟨{ middle with calls }, verified.bind (looked.bind ?_)⟩
  dsimp only
  rw [if_pos vouches.agrees]
  exact goes_pure claims _

/-! ## Refused checks -/

section Checks

variable {α β : Type}

/-- The operation is refused because a token is not acceptable, or because that cannot be found
out. -/
def RefusesCheck (service : Service) (state : State) (operation : Operation α) : Prop :=
  ∃ error, (state.run service operation).1 = .error (.refused error) ∧
    error.atGate = .unauthenticated

theorem RefusesCheck.bind {operation : Operation α}
    (refuses : state.RefusesCheck service operation) (next : α → Operation β) :
    state.RefusesCheck service (operation >>= next) := by
  obtain ⟨error, refused, shown⟩ := refuses
  exact ⟨error, by rw [(run_bind_error refused next).1], shown⟩

/-- The gate lets no request through whose access token is refused. -/
theorem RefusesCheck.enter {headers : Headers}
    (refuses : state.RefusesCheck service (service.validate token .access))
    (policy : Policy) (carried : Carrier.token? headers .access = some token)
    (handler : Option Identity → Operation Response) :
    (state.run service (Gate.enter service policy headers handler)).1 =
      .error (.refused .unauthenticated) := by
  obtain ⟨error, refused, shown⟩ := refuses
  rw [(Gate.enter_refused policy carried handler refused).1, shown]

/-- A request to a gated route whose access token is refused is answered as unauthenticated. -/
theorem RefusesCheck.respond (refuses : state.RefusesCheck service (service.validate token .access))
    {request : Request} {route : Route} {policy : Policy}
    (found : Route.ofPath? request.path = some route)
    (gated : route.policy? = some policy)
    (carried : Carrier.token? request.headers .access = some token)
    (noPreflight : request.method ≠ "OPTIONS") :
    ∃ response, (state.run service (Router.respond service request)).1 = .ok response ∧
      response.status = 401 :=
  Router.respond_unauthenticated found gated noPreflight (refuses.enter policy carried _)

/-- What fails as a check does is refused for that. -/
theorem refusesCheck_of_ends {operation : Operation α} {promise : α → Prop}
    (ends : operation.Ends Action.KeepsUsers state promise Failure.IsOfCheck) {failure : Failure}
    (failed : (state.run service operation).1 = .error failure) :
    state.RefusesCheck service operation := by
  obtain ⟨error, rfl, shown⟩ := (Ends.of_error ends failed).atGate
  exact ⟨error, failed, shown⟩

/-- Validation fails as a check does. -/
theorem refusesCheck_of_error {kind : TokenKind} {failure : Failure}
    (failed : (state.run service (service.validate token kind)).1 = .error failure) :
    state.RefusesCheck service (service.validate token kind) :=
  refusesCheck_of_ends (Service.ends_validate service state token kind).keepsUsers failed

/-- A token that does not decode now is refused. -/
theorem refusesCheck_verify {kind : TokenKind} {error : AuthError}
    (undecodable : service.codec.decodeAt token kind state.now = .error error) :
    state.RefusesCheck service (service.verify token kind) := by
  have ends := (Service.ends_verify service state token kind).keepsUsers
  cases outcome : (state.run service (service.verify token kind)).1 with
  | error failure => exact refusesCheck_of_ends ends outcome
  | ok claims =>
    have decoded := Ends.of_ok ends outcome
    exact absurd (decoded.symm.trans undecodable) nofun

end Checks

/-! ## Refusals without faults -/

section Refusing

variable {α β : Type} {middle : State} {error : AuthError}

/-- The operation is refused, although no store fails on the way. -/
structure Refuses (service : Service) (operation : Operation α) (state : State)
    (error : AuthError) : Prop where
  refused : (state.run service operation).1 = .error (.refused error)
  /-- No store fails. -/
  succeed : ∀ performed ∈ state.trace service operation,
    performed.action.Succeeds performed.reply

theorem refuses_refuse (service : Service) (state : State) (error : AuthError) :
    state.Refuses service (Operation.refuse error : Operation α) error :=
  ⟨rfl, fun _ member => absurd member List.not_mem_nil⟩

/-- A refusal behind an operation that succeeds. -/
theorem Goes.refuses {operation : Operation α} {next : α → Operation β} {value : α}
    (goes : state.Goes service operation value middle)
    (refuses : middle.Refuses service (next value) error) :
    state.Refuses service (operation >>= next) error := by
  obtain ⟨run, trace⟩ := goes.run_bind next
  refine ⟨run ▸ refuses.refused, fun performed member => ?_⟩
  rw [trace] at member
  rcases List.mem_append.1 member with member | member
  · exact goes.succeed performed member
  · exact refuses.succeed performed member

/-- **A token whose claims no longer agree with the row of its user is refused**, though no store
fails. -/
theorem IsWhole.refuses_stale {table : RevocationTable} (whole : state.IsWhole service table)
    {kind : TokenKind} {user : User} (absent : table.contains token = false)
    (decoded : service.codec.decodeAt token kind state.now = .ok claims)
    (found : state.directory.userById claims.sub = .ok (some user))
    (stale : claims.matchesUser user = false) :
    state.Refuses service (service.validate token kind) .identityMismatch := by
  obtain ⟨calls, verified⟩ := whole.goes_verify absent decoded
  obtain ⟨calls', looked⟩ := goes_userById (whole.noted calls).calm found
  refine verified.refuses (looked.refuses ?_)
  dsimp only
  rw [if_neg (Bool.eq_false_iff.1 stale)]
  exact refuses_refuse service _ _

end Refusing

end State

end DualToken
