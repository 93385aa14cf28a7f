import DualToken.Proofs.Service.Revocation

/-!
# Stores that nothing comes in between

A state is calm when no incidents are planned and no other writer waits at the server. Every call is
then carried out as it is made, and the state stays calm. What is recorded in a calm state changes
by calls that record, each adding its own token (`IsCalm.revocations`), so a token that is not
recorded stays so until it is recorded itself.
-/

set_option autoImplicit false

namespace DualToken.State

variable {service : Service} {state : State} {token : String}

/-! ## Actions on the cache and the clock -/

section Performing

variable (service) (state) (session : String) (kind : TokenKind)

@[simp] theorem perform_clock : state.perform service .clock = (state.now, state) :=
  performWithin_clock service _ state

@[simp] theorem perform_drawName :
    state.perform service .drawName = (TokenName.ofCount (state.namesDrawn + 1),
      { state with namesDrawn := state.namesDrawn + 1 }) :=
  performWithin_drawName service _ state

@[simp] theorem perform_setSession (token : String) (expiresAt : Int64) :
    state.perform service (.setSession session kind token expiresAt) = ((), { state with
      sessions := state.sessions.set session kind token expiresAt state.now }) :=
  performWithin_setSession service _ session kind state token expiresAt

@[simp] theorem perform_blacklistSession :
    state.perform service (.blacklistSession session kind) =
      ((state.sessions.blacklist session kind).1,
        { state with sessions := (state.sessions.blacklist session kind).2 }) :=
  performWithin_blacklistSession service _ session kind state

@[simp] theorem perform_clearSession :
    state.perform service (.clearSession session) =
      ((state.sessions.clear session).1,
        { state with sessions := (state.sessions.clear session).2 }) :=
  performWithin_clearSession service _ session state

end Performing

/-! ## Calm states -/

/-- No incidents are planned, and no other writer waits at the server. -/
structure IsCalm (state : State) : Prop where
  /-- Calls for recorded tokens meet no incident. -/
  revocationPlan : state.revocationPlan = []
  /-- Calls for users meet no incident. -/
  userPlan : state.userPlan = []
  /-- No other writer waits. -/
  rivals : state.revocations.server.rivals = []

theorem IsCalm.not_planned (calm : state.IsCalm) (incident : Incident) :
    incident ∉ state.revocationPlan ++ state.userPlan := by
  rw [calm.revocationPlan, calm.userPlan]
  exact List.not_mem_nil

/-- In a calm state a call is carried out. -/
theorem IsCalm.perform_store (calm : state.IsCalm) (call : StoreCall) :
    state.perform service (.store call) =
      { state with calls := call :: state.calls }.answer service call := by
  have unplanned : state.plan call.target = [] := by
    cases call.target with
    | revocations => exact calm.revocationPlan
    | users => exact calm.userPlan
  have passes : state.takeIncident call = (.pass, { state with calls := call :: state.calls }) := by
    rw [takeIncident, unplanned]
  rw [perform, performWithin, passes]

variable (service) in
/-- **In a calm state the records change by recording a token, or not at all.** -/
theorem IsCalm.revocations (calm : state.IsCalm) (action : Action) :
    (∃ token, action = .store (.record token) ∧
      (state.perform service action).2.revocations =
        (state.revocations.record service.backend token state.now).2) ∨
      state.revocations.SameRecords (state.perform service action).2.revocations := by
  have unchanged : state.revocations.SameRecords state.revocations :=
    ⟨state.revocations.server, rfl, _, _, rfl⟩
  cases action with
  | store call =>
    rw [calm.perform_store call]
    cases call with
    | record token => exact .inl ⟨token, rfl, rfl⟩
    | lookup token => exact .inr (RevocationStore.sameRecords_lookup _ _ token)
    | list => exact .inr (RevocationStore.sameRecords_list _ _)
    | userById id => exact .inr unchanged
    | userByEmail email => exact .inr unchanged
    | createUser form => exact .inr unchanged
  | clock => exact .inr (perform_clock service state ▸ unchanged)
  | drawName => exact .inr (perform_drawName service state ▸ unchanged)
  | setSession session kind token expiresAt =>
    exact .inr (perform_setSession service state session kind token expiresAt ▸ unchanged)
  | blacklistSession session kind =>
    exact .inr (perform_blacklistSession service state session kind ▸ unchanged)
  | clearSession session => exact .inr (perform_clearSession service state session ▸ unchanged)

/-- **A calm state stays calm.** -/
theorem IsCalm.perform (calm : state.IsCalm) (action : Action) :
    (state.perform service action).2.IsCalm := by
  have rivals : (state.perform service action).2.revocations.server.rivals = [] := by
    rcases calm.revocations service action with ⟨token, -, same⟩ | same
    · rw [same]
      exact RevocationStore.rivals_record _ token state.now calm.rivals
    · exact same.rivals.trans calm.rivals
  cases action with
  | store call =>
    rw [calm.perform_store call] at rivals ⊢
    cases call with
    | record token => exact ⟨calm.revocationPlan, calm.userPlan, rivals⟩
    | lookup token => exact ⟨calm.revocationPlan, calm.userPlan, rivals⟩
    | list => exact ⟨calm.revocationPlan, calm.userPlan, rivals⟩
    | userById id => exact ⟨calm.revocationPlan, calm.userPlan, rivals⟩
    | userByEmail email => exact ⟨calm.revocationPlan, calm.userPlan, rivals⟩
    | createUser form => exact ⟨calm.revocationPlan, calm.userPlan, rivals⟩
  | clock => exact perform_clock service state ▸ calm
  | drawName =>
    rw [perform_drawName]
    exact ⟨calm.revocationPlan, calm.userPlan, calm.rivals⟩
  | setSession session kind token expiresAt =>
    rw [perform_setSession]
    exact ⟨calm.revocationPlan, calm.userPlan, calm.rivals⟩
  | blacklistSession session kind =>
    rw [perform_blacklistSession]
    exact ⟨calm.revocationPlan, calm.userPlan, calm.rivals⟩
  | clearSession session =>
    rw [perform_clearSession]
    exact ⟨calm.revocationPlan, calm.userPlan, calm.rivals⟩

/-- A call leaves the cache alone, and takes no time. -/
theorem IsCalm.store_frame (calm : state.IsCalm) (call : StoreCall) :
    (state.perform service (.store call)).2.sessions = state.sessions ∧
      (state.perform service (.store call)).2.now = state.now := by
  rw [calm.perform_store call]
  cases call with
  | record token => exact ⟨rfl, rfl⟩
  | lookup token => exact ⟨rfl, rfl⟩
  | list => exact ⟨rfl, rfl⟩
  | userById id => exact ⟨rfl, rfl⟩
  | userByEmail email => exact ⟨rfl, rfl⟩
  | createUser form => exact ⟨rfl, rfl⟩

/-- Performing an action takes no time. -/
theorem IsCalm.now_perform (calm : state.IsCalm) (action : Action) :
    (state.perform service action).2.now = state.now := by
  cases action with
  | store call => exact (calm.store_frame call).2
  | clock => rw [perform_clock]
  | drawName => rw [perform_drawName]
  | setSession session kind token expiresAt => rw [perform_setSession]
  | blacklistSession session kind => rw [perform_blacklistSession]
  | clearSession session => rw [perform_clearSession]

/-! ## Recorded tokens -/

/-- A recorded token stays recorded. -/
theorem Holds.perform (holds : state.Holds service token) (calm : state.IsCalm) (action : Action) :
    (state.perform service action).2.Holds service token := by
  rw [State.Holds]
  rcases calm.revocations service action with ⟨other, -, same⟩ | same
  · rw [same]
    exact RevocationStore.Holds.record holds other state.now
  · exact same.holds_iff.2 holds

/-- A token that is not recorded stays so until it is recorded itself. -/
theorem IsCalm.holds_iff (calm : state.IsCalm) {action : Action}
    (other : action ≠ .store (.record token)) :
    (state.perform service action).2.Holds service token ↔ state.Holds service token := by
  refine ⟨fun holds => Classical.byContradiction fun absent => ?_,
    fun holds => holds.perform calm action⟩
  rw [State.Holds] at holds absent
  rcases calm.revocations service action with ⟨recorded, rfl, same⟩ | same
  · rw [same] at holds
    refine RevocationStore.not_holds_record state.now ?_ calm.rivals absent holds
    rintro rfl
    exact other rfl
  · exact absent (same.holds_iff.1 holds)

/-- A token is recorded when the call to record it has succeeded. -/
theorem IsCalm.holds_of_succeeds (calm : state.IsCalm)
    (succeeds : Action.Succeeds (.store (.record token))
      (state.perform service (.store (.record token))).1) :
    (state.perform service (.store (.record token))).2.Holds service token := by
  obtain ⟨made, answered⟩ := succeeds
  rw [calm.perform_store] at answered ⊢
  injection answered with ok
  exact RevocationStore.holds_of_record_ok ok

/-- A lookup that succeeds tells whether the token is recorded. -/
theorem IsCalm.exists_lookup (calm : state.IsCalm)
    (succeeds : Action.Succeeds (.store (.lookup token))
      (state.perform service (.store (.lookup token))).1) :
    ∃ found : Bool, (state.perform service (.store (.lookup token))).1 =
        StoreReply.answer (.ok found) ∧ (found = true ↔ state.Holds service token) := by
  obtain ⟨found, answered⟩ := succeeds
  change Bool at found
  refine ⟨found, answered, ?_⟩
  rw [calm.perform_store] at answered
  injection answered with ok
  exact RevocationStore.lookup_ok_iff ok

/-! ## Whole operations -/

section Running

variable {α : Type} (operation : Operation α)

theorem IsCalm.run (calm : state.IsCalm) : (state.run service operation).2.IsCalm :=
  Program.run_preserves IsCalm (fun action _ calm => calm.perform action) operation.run state calm

/-- What is recorded stays so through an operation. -/
theorem Holds.run (holds : state.Holds service token) (calm : state.IsCalm) :
    (state.run service operation).2.Holds service token :=
  (Program.run_preserves (fun middle => middle.IsCalm ∧ middle.Holds service token)
    (fun action _ same => ⟨same.1.perform action, same.2.perform same.1 action⟩)
    operation.run state ⟨calm, holds⟩).2

end Running

end DualToken.State
