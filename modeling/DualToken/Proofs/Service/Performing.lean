import DualToken.Proofs.Service.Change
import DualToken.Proofs.Service.Operation

/-!
# What performing actions sustains

Before a call is carried out it meets an incident, and the incident may be a whole logout whose
calls meet further incidents. An invariant of the state is sustained under a contract when the
contract's actions keep it, when incidents keep it, and when every logout that comes first keeps the
contract itself (`State.Sustains`). What is shown of these parts holds of every action, however deep
the logouts are nested, and of every operation that keeps the contract.
-/

set_option autoImplicit false

namespace DualToken.State

/-! ## Meeting incidents -/

/-- All incidents that are planned have the property. -/
def Plans (property : Incident → Prop) (state : State) : Prop :=
  ∀ incident ∈ state.revocationPlan ++ state.userPlan, property incident

/-- The incident that a call meets was planned, or it is none, and what is planned after it was
planned before. -/
theorem Plans.takeIncident {property : Incident → Prop} {state : State}
    (plans : state.Plans property) (pass : property .pass) (call : StoreCall) :
    property (state.takeIncident call).1 ∧ (state.takeIncident call).2.Plans property := by
  rw [State.takeIncident]
  split
  · exact ⟨pass, plans⟩
  · next incident later planned =>
    cases target : call.target with
    | revocations =>
      rw [target, plan] at planned
      simp only [Plans, planned, List.cons_append, List.forall_mem_cons] at plans
      exact plans
    | users =>
      rw [target, plan] at planned
      simp only [Plans, planned, List.forall_mem_append, List.forall_mem_cons] at plans
      obtain ⟨records, met, users⟩ := plans
      exact ⟨met, List.forall_mem_append.2 ⟨records, users⟩⟩

/-! ## Sustained invariants -/

/-- What has to be shown for actions to keep an invariant and to get replies that can be relied
on. -/
structure Sustains (service : Service) (guarantee : Action → Prop)
    (rely : (action : Action) → action.Reply → Prop) (invariant : State → Prop) : Prop where
  /-- Noting a call and taking the incident that it meets keeps the invariant. -/
  take {call : StoreCall} {state : State} : guarantee (.store call) → invariant state →
    invariant (state.takeIncident call).2
  /-- Another writer that comes first keeps the invariant. -/
  rival {call : StoreCall} {state noted : State} {token : String} : invariant state →
    state.takeIncident call = (.record token, noted) → invariant noted →
      invariant (noted.recordBefore service call token)
  /-- A logout that comes first keeps the contract. -/
  logout {call : StoreCall} {state noted : State} {secretToken : String} : invariant state →
    state.takeIncident call = (.logout secretToken, noted) →
      Operation.Obeys guarantee rely (fun _ => True) (service.logout secretToken none)
  /-- A call that is carried out keeps the invariant. -/
  answer {call : StoreCall} {state : State} : guarantee (.store call) → invariant state →
    rely (.store call) (state.answer service call).1 ∧ invariant (state.answer service call).2
  fail {call : StoreCall} : guarantee (.store call) →
    rely (.store call) (StoreReply.answer (.error incidentError))
  /-- A call may stay unanswered. -/
  hang {call : StoreCall} : guarantee (.store call) → rely (.store call) StoreReply.silence
  /-- An action that is no call keeps the invariant. -/
  act {action : Action} {state : State} (depth : Nat) : (∀ call, action ≠ .store call) →
    guarantee action → invariant state → rely action (state.performWithin service depth action).1 ∧
      invariant (state.performWithin service depth action).2

namespace Sustains

variable {service : Service} {guarantee : Action → Prop}
  {rely : (action : Action) → action.Reply → Prop} {invariant : State → Prop}

/-- A call keeps the invariant, if the actions of the logouts that come first do. -/
theorem performCall (sustains : Sustains service guarantee rely invariant) {depth : Nat}
    (inner : ∀ less, depth = less + 1 → ∀ action state, guarantee action → invariant state →
      rely action (performWithin service less action state).1 ∧
        invariant (performWithin service less action state).2)
    {call : StoreCall} (allowed : guarantee (.store call)) {state : State}
    (start : invariant state) :
    rely (.store call) (state.performWithin service depth (.store call)).1 ∧
      invariant (state.performWithin service depth (.store call)).2 := by
  have taken := sustains.take allowed start
  cases same : state.takeIncident call with
  | mk incident noted =>
    rw [same] at taken
    rw [performWithin, same]
    cases incident with
    | pass => exact sustains.answer allowed taken
    | fail => exact ⟨sustains.fail allowed, taken⟩
    | hang => exact ⟨sustains.hang allowed, taken⟩
    | record token => exact sustains.answer allowed (sustains.rival start same taken)
    | logout secretToken =>
      cases depth with
      | zero => exact sustains.answer allowed taken
      | succ less =>
        have left := Program.Obeys.run invariant (sustains.logout start same)
          (fun action state allowed kept => inner less rfl action state allowed kept) noted taken
        exact sustains.answer allowed left.2

/-- **An action keeps the invariant and gets a reply that can be relied on**, whatever comes
first. -/
theorem performWithin (sustains : Sustains service guarantee rely invariant) (depth : Nat)
    {action : Action} (allowed : guarantee action) {state : State} (start : invariant state) :
    rely action (state.performWithin service depth action).1 ∧
      invariant (state.performWithin service depth action).2 := by
  induction depth generalizing action state with
  | zero =>
    cases action with
    | store call =>
      exact sustains.performCall (fun less same => absurd same (by simp)) allowed start
    | _ => exact sustains.act 0 nofun allowed start
  | succ depth ih =>
    cases action with
    | store call =>
      refine sustains.performCall (fun less same action state allowed kept => ?_) allowed start
      obtain rfl : depth = less := Nat.succ.inj same
      exact ih allowed kept
    | _ => exact sustains.act (depth + 1) nofun allowed start

/-- **An operation that keeps the contract keeps the invariant.** -/
theorem run (sustains : Sustains service guarantee rely invariant) {α : Type}
    {operation : Operation α} {promise : Except Failure α → Prop}
    (obeys : operation.run.Obeys guarantee rely promise) {state : State} (start : invariant state) :
    promise (state.run service operation).1 ∧ invariant (state.run service operation).2 :=
  Program.Obeys.run invariant obeys
    (fun _ state allowed kept => sustains.performWithin state.incidentCount allowed kept) state
    start

end Sustains

end DualToken.State
