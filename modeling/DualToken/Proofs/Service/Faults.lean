import DualToken.Proofs.Service.Validation

/-!
# Calls that meet faults

A call meets the first incident of its store's plan, or none. If the incident is plain, the call is
carried out as it was made, or it comes out as an error of storage and nothing has changed. So two
faults in a row make a call fail that is tried twice (`exists_run_callStore_of_faults`), and as long
as all incidents are plain, an answer about a token is the truth (`isRevoked_iff_holds`).
-/

set_option autoImplicit false

namespace DualToken

/-- The call fails, or it is not answered. -/
inductive Incident.IsFault : Incident → Prop
  | fail : IsFault .fail
  | hang : IsFault .hang

theorem Incident.IsPlain.isFault {incident : Incident} (plain : incident.IsPlain)
    (faulty : incident ≠ .pass) : incident.IsFault := by
  cases plain with
  | pass => exact absurd rfl faulty
  | fail => exact .fail
  | hang => exact .hang

namespace State

open Operation Service

variable {service : Service} {state : State} {call : StoreCall}

/-! ## Taking incidents -/

/-- A call meets the first incident of its store's plan. -/
theorem takeIncident_fst (call : StoreCall) (state : State) :
    (state.takeIncident call).1 = (state.plan call.target).headD .pass := by
  rw [takeIncident]
  split
  · next nothing => rw [nothing, List.headD_nil]
  · next incident later planned => rw [planned, List.headD_cons]

/-- The incident that a call meets is taken out of its store's plan. -/
theorem plan_takeIncident (call : StoreCall) (state : State) (store : StoreName) :
    (state.takeIncident call).2.plan store =
      if store = call.target then (state.plan store).tail else state.plan store := by
  rw [takeIncident]
  split
  · next nothing =>
    split_ifs with same
    · rw [same, nothing, List.tail_nil]
      exact nothing
    · rfl
  · next incident later planned =>
    split_ifs with same
    · rw [same, planned, List.tail_cons]
      cases call.target with
      | revocations => rfl
      | users => rfl
    · cases store with
      | revocations =>
        cases target : call.target with
        | revocations => exact absurd target.symm same
        | users => rfl
      | users =>
        cases target : call.target with
        | revocations => rfl
        | users => exact absurd target.symm same

/-- A call that is let through is carried out. -/
theorem perform_of_pass (pass : (state.takeIncident call).1 = .pass) :
    state.perform service (.store call) = (state.takeIncident call).2.answer service call := by
  rw [perform, performWithin]
  cases met : state.takeIncident call with
  | mk incident noted =>
    rw [met] at pass
    obtain rfl : incident = .pass := pass
    rfl

/-- Where nothing is planned, a call is carried out. -/
theorem perform_of_nil (nothing : state.plan call.target = []) :
    state.perform service (.store call) =
      { state with calls := call :: state.calls }.answer service call := by
  have noted : state.takeIncident call = (.pass, { state with calls := call :: state.calls }) := by
    rw [takeIncident, nothing]
  rw [perform_of_pass (congrArg Prod.fst noted), noted]

variable (service) in
/-- A call that is failed or left unanswered comes out as an error of storage, and changes
nothing. -/
theorem exists_perform_of_fault (fault : (state.takeIncident call).1.IsFault) :
    ∃ (reply : StoreReply call.Result) (detail : String),
      reply.outcome = .error (.storage detail) ∧
        state.perform service (.store call) = (reply, (state.takeIncident call).2) := by
  rw [perform, performWithin]
  cases met : state.takeIncident call with
  | mk incident noted =>
    rw [met] at fault
    cases fault with
    | fail => exact ⟨_, _, rfl, rfl⟩
    | hang => exact ⟨_, _, rfl, rfl⟩

/-! ## Calls that are tried twice -/

/-- What an attempt makes of an outcome. -/
def handOn {α : Type} : Except Failure α → Except Failure (Except AuthError α)
  | .ok value => .ok (.ok value)
  | .error (.refused error) => .ok (.error error)
  | .error failure => .error failure

/-- An attempt leads to the state that the operation leads to. -/
theorem run_attempt_eq {α : Type} (operation : Operation α) (state : State) :
    state.run service (attempt operation) =
      (handOn (state.run service operation).1, (state.run service operation).2) := by
  rw [run, run_attempt, Program.run_bind]
  change _ = (handOn (operation.run.run (perform service) state).1,
    (operation.run.run (perform service) state).2)
  rcases (operation.run.run (perform service) state).1 with failure | value
  · cases failure with
    | refused error => rfl
    | crashed => rfl
    | unanswered => rfl
  · rfl

/-- Two faults in a row make a call fail. -/
theorem exists_run_callStore_of_faults (fault : (state.takeIncident call).1.IsFault)
    (fault' : ((state.takeIncident call).2.takeIncident call).1.IsFault) :
    ∃ detail, state.run service (callStore call) = (.error (.refused (.storage detail)),
      ((state.takeIncident call).2.takeIncident call).2) := by
  obtain ⟨reply, detail, storage, failed⟩ := exists_perform_of_fault service fault
  obtain ⟨reply', detail', storage', failed'⟩ := exists_perform_of_fault service fault'
  refine ⟨detail', ?_⟩
  rw [run, run_callStore, Program.run_act, failed, afterFirst_storage storage, Program.run_act,
    failed', Program.run_done, storage']
  rfl

/-! ## Answers are true -/

/-- A lookup that is answered behind a plain incident tells whether the token is held. -/
theorem holds_iff_of_answered {token : String} {found : Bool}
    (plain : (state.takeIncident (.lookup token)).1.IsPlain)
    (answered : (state.perform service (.store (.lookup token))).1 =
      StoreReply.answer (.ok found)) : found = true ↔ state.Holds service token := by
  by_cases pass : (state.takeIncident (.lookup token)).1 = .pass
  · obtain ⟨_, _, taken⟩ := exists_takeIncident (.lookup token) state
    rw [perform_of_pass pass, taken] at answered
    have ok : (state.revocations.lookup service.backend token).1 = .ok found :=
      StoreReply.answer.inj answered
    exact RevocationStore.lookup_ok_iff ok
  · obtain ⟨reply, detail, storage, failed⟩ := exists_perform_of_fault service (plain.isFault pass)
    rw [failed] at answered
    obtain rfl : reply = StoreReply.answer (.ok found) := answered
    exact absurd storage nofun

/-- **Whether a token is revoked is answered truly**, if nobody else comes first. -/
theorem isRevoked_iff_holds {token : String} {found : Bool}
    (plain : state.Plans Incident.IsPlain)
    (ok : (state.run service (isRevoked token)).1 = .ok found) :
    found = true ↔ state.Holds service token := by
  have met := (plain.takeIncident .pass (.lookup token)).1
  rcases answered_of_callStore ok with answered | ⟨-, answered⟩
  · exact holds_iff_of_answered met answered
  · have kept := (sustains_unchanged service state).performWithin state.incidentCount
      (.lookup token) ⟨.refl state, plain⟩
    obtain ⟨-, unchanged, plain'⟩ := kept
    have met' := (plain'.takeIncident .pass (.lookup token)).1
    exact (holds_iff_of_answered met' answered).trans unchanged.records.holds_iff

/-! ## Calls that are let through -/

/-- A call that is planned to be let through comes out as if nothing was planned. -/
theorem perform_planned_pass (nothing : state.revocationPlan = [])
    (target : call.target = .revocations) (later : List Incident) :
    { state with revocationPlan := .pass :: later }.perform service (.store call) =
      ((state.perform service (.store call)).1,
        { (state.perform service (.store call)).2 with revocationPlan := later }) := by
  have nothing' : state.plan call.target = [] := target ▸ nothing
  rw [perform_of_nil nothing']
  cases call with
  | record token => exact perform_of_pass rfl
  | lookup token => exact perform_of_pass rfl
  | list => exact perform_of_pass rfl
  | _ => exact absurd target nofun

/-- What succeeds with nothing planned succeeds when it is planned to be let through. -/
theorem Goes.planned_pass {value : call.Result} {after : State}
    (goes : state.Goes service (callStore call) value after) (nothing : state.revocationPlan = [])
    (target : call.target = .revocations) (later : List Incident) :
    { state with revocationPlan := .pass :: later }.Goes service (callStore call) value
      { after with revocationPlan := later } := by
  apply goes_callStore
  rw [perform_planned_pass nothing target, goes.of_callStore]
  rfl

/-- A token that would be validated with nothing planned is validated when its lookup is let
through. -/
theorem IsWhole.goes_validate_planned {table : RevocationTable} {token : String} {kind : TokenKind}
    {claims : Claims} {user : User} (whole : state.IsWhole service table)
    (absent : table.contains token = false)
    (decoded : service.codec.decodeAt token kind state.now = .ok claims)
    (found : state.directory.userById claims.sub = .ok (some user))
    (matched : claims.matchesUser user = true) (later : List Incident) :
    ∃ calls, { state with revocationPlan := .pass :: later }.Goes service
      (service.validate token kind) claims { state with calls, revocationPlan := later } := by
  obtain ⟨noted, asks⟩ := whole.goes_isRevoked token
  have asks := asks.planned_pass whole.calm.revocationPlan rfl later
  rw [absent] at asks
  let verified : State := { state with calls := noted, revocationPlan := later }
  have looks : verified.Goes service (callStore (.userById claims.sub)) (some user)
      { verified with calls := .userById claims.sub :: noted } := by
    apply goes_callStore
    have found : verified.directory.userById claims.sub = .ok (some user) := found
    have nothing : verified.plan (StoreCall.userById claims.sub).target = [] := whole.calm.userPlan
    rw [perform_of_nil nothing]
    simp only [answer, carryOut, found]
    rfl
  have verifies : Goes service (service.verify token kind)
      { state with revocationPlan := .pass :: later } claims verified :=
    asks.bind ((goes_clock _).bind (goes_ofExcept decoded _))
  refine ⟨.userById claims.sub :: noted, verifies.bind (looks.bind ?_)⟩
  dsimp only
  rw [if_pos matched]
  exact goes_pure claims _

end State

end DualToken
