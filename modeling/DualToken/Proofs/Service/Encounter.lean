import DualToken.Proofs.Service.Retry

/-!
# What calls meet

A call is noted and takes the incident that its store has planned; another writer, or a whole
logout, may come first; then the call is carried out, or it fails, or it is not answered. The state
that the call finds when it is its turn is `State.disturbed`, and how it comes out there is
`State.met_disturbed`. That logouts come first at a limited depth does not show, since every
incident is taken once (`State.performWithin_of_le`).

A call that only asks changes nothing beyond what came first. So an operation that only reads leads
to a state that differs from the one before it by what others did, and by nothing else
(`State.onlyDisturbed_of_reads`). And where every call succeeds, failures that are still planned do
not show (`State.run_unplanned`).
-/

set_option autoImplicit false

namespace DualToken

/-- The call to a store that an action is. -/
def Action.call? : Action → Option StoreCall
  | .store call => some call
  | _ => none

/-- The calls to the stores in a log. -/
def storeCalls (log : List (Performed Action Action.Reply)) : List StoreCall :=
  log.filterMap (·.action.call?)

theorem storeCalls_append (log later : List (Performed Action Action.Reply)) :
    storeCalls (log ++ later) = storeCalls log ++ storeCalls later :=
  List.filterMap_append

namespace State

variable {service : Service} {state : State} {call : StoreCall}

/-! ## Nested incidents -/

/-- A call takes one incident, if any is planned for its store. -/
theorem incidentCount_takeIncident (call : StoreCall) (state : State) :
    (state.takeIncident call).2.incidentCount + min 1 (state.plan call.target).length =
      state.incidentCount := by
  rw [takeIncident]
  split
  · next nothing =>
    rw [nothing]
    rfl
  · next incident later planned =>
    cases target : call.target with
    | revocations =>
      rw [target, plan] at planned
      simp only [incidentCount, withPlan, plan, planned, List.length_cons]
      omega
    | users =>
      rw [target, plan] at planned
      simp only [incidentCount, withPlan, plan, planned, List.length_cons]
      omega

theorem incidentCount_takeIncident_le (call : StoreCall) (state : State) :
    (state.takeIncident call).2.incidentCount ≤ state.incidentCount :=
  incidentCount_takeIncident call state ▸ Nat.le_add_right _ _

/-- Whatever comes before a call was planned. -/
theorem incidentCount_takeIncident_of_ne (met : (state.takeIncident call).1 ≠ .pass) :
    (state.takeIncident call).2.incidentCount + 1 = state.incidentCount := by
  have taken := incidentCount_takeIncident call state
  rw [takeIncident_fst] at met
  cases planned : state.plan call.target with
  | nil => exact absurd (by rw [planned, List.headD_nil]) met
  | cons incident later =>
    rw [planned, List.length_cons] at taken
    omega

variable (service) in
/-- Nothing that is performed plans an incident. -/
theorem sustains_incidentCount (bound : Nat) :
    Sustains service (fun _ => True) (fun _ _ => True)
      fun state => state.incidentCount ≤ bound where
  take {call state} _ kept := Nat.le_trans (incidentCount_takeIncident_le call state) kept
  rival {call _ _ _} _ _ kept := by
    rw [recordBefore]
    cases call.target with
    | revocations => exact kept
    | users => exact kept
  logout _ _ := (Program.obeys_trivial _).mono fun _ _ _ _ => trivial
  answer {call _} _ kept := by
    refine ⟨trivial, ?_⟩
    cases call with
    | _ => exact kept
  fail _ := trivial
  hang _ := trivial
  act {action state} depth noCall _ kept := by
    refine ⟨trivial, ?_⟩
    cases action with
    | store call => exact absurd rfl (noCall call)
    | clock => exact performWithin_clock service depth state ▸ kept
    | drawName => exact performWithin_drawName service depth state ▸ kept
    | setSession session kind token expiresAt =>
      exact performWithin_setSession service depth session kind state token expiresAt ▸ kept
    | blacklistSession session kind =>
      exact performWithin_blacklistSession service depth session kind state ▸ kept
    | clearSession session =>
      exact performWithin_clearSession service depth session state ▸ kept

/-- A logout that comes first is taken, so fewer incidents are left to those who come before it. -/
theorem incidentCount_of_logout {noted : State} {secretToken : String}
    (met : state.takeIncident call = (.logout secretToken, noted)) :
    noted.incidentCount + 1 = state.incidentCount := by
  have taken : (state.takeIncident call).1 ≠ .pass →
      (state.takeIncident call).2.incidentCount + 1 = state.incidentCount :=
    incidentCount_takeIncident_of_ne
  rw [met] at taken
  exact taken nofun

/-- Two depths that allow for all incidents come to the same. -/
theorem performWithin_congr {bound depth depth' : Nat} (within : bound ≤ depth)
    (within' : bound ≤ depth') (action : Action) {state : State}
    (enough : state.incidentCount ≤ bound) :
    state.performWithin service depth' action = state.performWithin service depth action := by
  induction bound using Nat.strongRecOn generalizing depth depth' action state with
  | ind bound ih =>
    cases action with
    | store call =>
      cases met : state.takeIncident call with
      | mk incident noted =>
        rw [performWithin, performWithin, met]
        cases incident with
        | logout secretToken =>
          have fewer := incidentCount_of_logout met
          obtain ⟨inner, rfl⟩ := Nat.exists_eq_add_one.2 (show 0 < depth by omega)
          obtain ⟨inner', rfl⟩ := Nat.exists_eq_add_one.2 (show 0 < depth' by omega)
          have agree : ∀ (action : Action) (state : State),
              state.incidentCount ≤ noted.incidentCount →
                state.performWithin service inner' action =
                    state.performWithin service inner action ∧
                  (state.performWithin service inner action).2.incidentCount ≤
                    noted.incidentCount :=
            fun action state few =>
              ⟨ih noted.incidentCount (by omega) (by omega) (by omega) action few,
                ((sustains_incidentCount service noted.incidentCount).performWithin
                  inner trivial few).2⟩
          have ran := Program.run_congr (fun state => state.incidentCount ≤ noted.incidentCount)
            agree (service.logout secretToken none).run noted (Nat.le_refl _)
          dsimp only
          rw [ran]
        | _ => rfl
    | clock => rw [performWithin_clock, performWithin_clock]
    | drawName => rw [performWithin_drawName, performWithin_drawName]
    | setSession session kind token expiresAt =>
      rw [performWithin_setSession, performWithin_setSession]
    | blacklistSession session kind =>
      rw [performWithin_blacklistSession, performWithin_blacklistSession]
    | clearSession session => rw [performWithin_clearSession, performWithin_clearSession]

/-- **Incidents nest no deeper than they are many**: every depth that allows for all of them comes
to the same. -/
theorem performWithin_of_le {depth : Nat} (action : Action) {state : State}
    (enough : state.incidentCount ≤ depth) :
    state.performWithin service depth action = state.perform service action :=
  performWithin_congr (Nat.le_refl _) enough action (Nat.le_refl _)

/-- A logout that comes first runs like any other. -/
theorem runWithin_of_le {α : Type} {depth : Nat} (operation : Operation α) {state : State}
    (enough : state.incidentCount ≤ depth) :
    Program.run (performWithin service depth) operation.run state = state.run service operation :=
  Program.run_congr (fun state => state.incidentCount ≤ depth)
    (fun action _ few => ⟨performWithin_of_le action few,
      ((sustains_incidentCount service depth).performWithin _ trivial few).2⟩)
    operation.run state enough

/-! ## What comes before a call -/

/-- What a call finds when it is its turn: it is noted, and whoever comes first has been. -/
def disturbed (service : Service) (call : StoreCall) (state : State) : State :=
  let (incident, noted) := state.takeIncident call
  match incident with
  | .record token => noted.recordBefore service call token
  | .logout secretToken => (noted.run service (service.logout secretToken none)).2
  | _ => noted

variable (service) in
/-- **A call comes out in one of three ways when it is its turn.** -/
theorem met_disturbed (call : StoreCall) (state : State) :
    Met service call (state.disturbed service call) (state.perform service (.store call)) := by
  rw [perform, performWithin, disturbed]
  cases met : state.takeIncident call with
  | mk incident noted =>
    cases incident with
    | pass => exact .answered
    | fail => exact .failed
    | hang => exact .silent
    | record token => exact .answered
    | logout secretToken =>
      dsimp only
      rw [← incidentCount_of_logout met]
      dsimp only
      rw [runWithin_of_le _ (Nat.le_refl _)]
      exact .answered

/-! ## Asking -/

/-- The stores have been asked, and nothing else has happened: the server may have taken notes, and
a failure that was queued at it is used up. -/
def OnlyAsked (before after : State) : Prop :=
  ∃ revocations, before.revocations.SameRecords revocations ∧ after = { before with revocations }

theorem OnlyAsked.refl (state : State) : state.OnlyAsked state :=
  ⟨state.revocations, .refl _, rfl⟩

theorem onlyAsked_answer (service : Service) (reads : Action.Reads (.store call)) (state : State) :
    state.OnlyAsked (state.answer service call).2 := by
  cases reads with
  | lookup token =>
    exact ⟨_, RevocationStore.sameRecords_lookup service.backend state.revocations token, rfl⟩
  | list => exact ⟨_, RevocationStore.sameRecords_list service.backend state.revocations, rfl⟩
  | userById id => exact .refl state
  | userByEmail email => exact .refl state

variable (service) in
/-- A call that only asks changes nothing beyond what comes first. -/
theorem onlyAsked_perform (reads : Action.Reads (.store call)) (state : State) :
    (state.disturbed service call).OnlyAsked (state.perform service (.store call)).2 := by
  have comesOut := met_disturbed service call state
  generalize state.perform service (.store call) = outcome at comesOut ⊢
  cases comesOut with
  | answered => exact onlyAsked_answer service reads _
  | failed => exact .refl _
  | silent => exact .refl _

/-- The calls that were made only asked, so the one state comes from the other by what others did
before the calls, and by nothing else. -/
inductive OnlyDisturbed (service : Service) : List StoreCall → State → State → Prop
  | nil (state : State) : OnlyDisturbed service [] state state
  | call {call : StoreCall} {later : List StoreCall} {state after : State}
      (asked : (state.disturbed service call).OnlyAsked (state.perform service (.store call)).2)
      (rest : OnlyDisturbed service later (state.perform service (.store call)).2 after) :
      OnlyDisturbed service (call :: later) state after

/-- **An operation that only reads changes nothing**, beyond what others do before its calls. -/
theorem onlyDisturbed_of_reads {α : Type} {operation : Operation α} {promise : α → Prop}
    (obeys : operation.Obeys Action.Reads (fun _ _ => True) promise) (state : State) :
    OnlyDisturbed service (storeCalls (state.trace service operation)) state
      (state.run service operation).2 := by
  have programs : ∀ (program : Program Action Action.Reply (Except Failure α))
      (kept : Except Failure α → Prop), program.Obeys Action.Reads (fun _ _ => True) kept →
        ∀ state : State, OnlyDisturbed service (storeCalls (program.trace (perform service) state))
          state (program.run (perform service) state).2 := by
    intro program kept obeys
    induction program with
    | done result => exact .nil
    | act action next ih =>
      intro state
      obtain ⟨reads, rest⟩ := obeys
      have later := ih (state.perform service action).1 (rest _ trivial)
        (state.perform service action).2
      cases action with
      | store call => exact .call (onlyAsked_perform service reads state) later
      | clock =>
        rw [perform_clock] at later
        rw [Program.trace_act, Program.run_act, perform_clock]
        exact later
      | _ => exact absurd reads nofun
  exact programs _ _ obeys state

/-! ## Failures that are not met -/

/-- A call that succeeds although failures may be planned is let through. -/
theorem pass_of_succeeds {call : StoreCall} (plain : state.Plans Incident.IsPlain)
    (succeeds : StoreReply.Succeeds (state.perform service (.store call)).1) :
    (state.takeIncident call).1 = .pass := by
  have met := (plain.takeIncident .pass call).1
  refine Classical.byContradiction fun other => ?_
  obtain ⟨reply, detail, storage, failed⟩ := exists_perform_of_fault service (met.isFault other)
  obtain ⟨value, answered⟩ := succeeds
  rw [failed] at answered
  obtain rfl : reply = .answer (.ok value) := answered
  exact absurd storage nofun

/-- What succeeds where failures may be planned goes as where nothing is planned. -/
theorem perform_unplanned (plain : state.Plans Incident.IsPlain) {action : Action}
    (succeeds : action.Succeeds (state.perform service action).1) :
    state.unplanned.perform service action =
        ((state.perform service action).1, (state.perform service action).2.unplanned) ∧
      (state.perform service action).2.Plans Incident.IsPlain := by
  cases action with
  | store call =>
    have later := (plain.takeIncident .pass call).2
    obtain ⟨revocationPlan, userPlan, taken⟩ := exists_takeIncident call state
    rw [State.perform_of_pass (pass_of_succeeds plain succeeds)]
    rw [taken] at later ⊢
    rw [perform_of_nil (by cases call.target <;> rfl)]
    cases call with
    | _ => exact ⟨rfl, later⟩
  | clock =>
    rw [perform_clock, perform_clock]
    exact ⟨rfl, plain⟩
  | drawName =>
    rw [perform_drawName, perform_drawName]
    exact ⟨rfl, plain⟩
  | setSession session kind token expiresAt =>
    rw [perform_setSession, perform_setSession]
    exact ⟨rfl, plain⟩
  | blacklistSession session kind =>
    rw [perform_blacklistSession, perform_blacklistSession]
    exact ⟨rfl, plain⟩
  | clearSession session =>
    rw [perform_clearSession, perform_clearSession]
    exact ⟨rfl, plain⟩

/-- **Planned failures that are not met do not show.** -/
theorem run_unplanned {α : Type} {operation : Operation α} (plain : state.Plans Incident.IsPlain)
    (succeed : ∀ performed ∈ state.trace service operation,
      performed.action.Succeeds performed.reply) :
    state.unplanned.run service operation =
        ((state.run service operation).1, (state.run service operation).2.unplanned) ∧
      state.unplanned.trace service operation = state.trace service operation := by
  have programs : ∀ (program : Program Action Action.Reply (Except Failure α)) (state : State),
      state.Plans Incident.IsPlain →
      (∀ performed ∈ program.trace (perform service) state,
        performed.action.Succeeds performed.reply) →
      program.run (perform service) state.unplanned =
          ((program.run (perform service) state).1,
            (program.run (perform service) state).2.unplanned) ∧
        program.trace (perform service) state.unplanned =
          program.trace (perform service) state := by
    intro program
    induction program with
    | done result => exact fun _ _ _ => ⟨rfl, rfl⟩
    | act action next ih =>
      intro state plain succeed
      rw [Program.trace_act, List.forall_mem_cons] at succeed
      obtain ⟨same, plain'⟩ := perform_unplanned plain succeed.1
      obtain ⟨ran, traced⟩ := ih _ _ plain' succeed.2
      rw [Program.run_act, Program.trace_act, same]
      exact ⟨ran, congrArg _ traced⟩
  exact programs operation.run state plain succeed

end State

end DualToken
