import Mathlib.Logic.Relation
import DualToken.Proofs.Interleaving
import DualToken.Proofs.Program
import DualToken.Proofs.Revocation.Store
import DualToken.Service.Event

/-!
# What can happen to the state

Whatever happens to a service, an event or a single action of an operation that takes turns with
others, changes the state by steps of a few kinds (`Change`). So a property of the state that every
such step preserves holds ever after (`Later.changes`); this is the only place that looks at all
events and actions.
-/

set_option autoImplicit false

namespace DualToken

open Relation (ReflTransGen)

/-- The kinds of steps in which the state changes. -/
inductive Change (service : Service) (state : State) : State → Prop
  | clock (time : Int) : Change service state { state with now := time }
  | name : Change service state { state with namesDrawn := state.namesDrawn + 1 }
  /-- A step of creating a user is made. -/
  | create (step : Directory.Step) :
      Change service state { state with
        directory := (Directory.perform service.hashCost state.now step state.directory).2 }
  /-- The row of a user is edited or deleted. -/
  | users (table changed : UserTable) (present : state.directory.table = some table)
      (byHand : (∃ id edit count, table.edit id edit = .ok (count, changed)) ∨
        ∃ id, changed = (table.delete id).2) :
      Change service state { state with
        directory := { state.directory with table := some changed } }
  /-- The table of users is dropped. -/
  | dropUsers :
      Change service state { state with directory := { state.directory with table := none } }
  /-- The table of recorded tokens is dropped. -/
  | dropRecords :
      Change service state { state with revocations := { state.revocations with table := none } }
  | record (token : String) : Change service state (state.record service token).2
  | read (revocations : RevocationStore) (same : state.revocations.SameRecords revocations) :
      Change service state { state with revocations }
  /-- Failures or entries of other writers are queued at the server, or its notes taken away. -/
  | serve (received : List String) (failures rivals : List (String × String)) :
      Change service state { state with revocations := { state.revocations with
        server := { state.revocations.server with received, failures, rivals } } }
  /-- A token is made current. -/
  | setSession (session : String) (kind : TokenKind) (token : String) (expiresAt : Int64) :
      Change service state { state with
        sessions := state.sessions.set session kind token expiresAt state.now }
  /-- A slot of the cache is emptied. -/
  | blacklistSession (session : String) (kind : TokenKind) :
      Change service state { state with sessions := (state.sessions.blacklist session kind).2 }
  /-- A session is dropped from the cache. -/
  | clearSession (session : String) :
      Change service state { state with sessions := (state.sessions.clear session).2 }
  /-- Incidents are planned or met, and calls are noted or taken away. -/
  | incidents (revocationPlan userPlan : List Incident) (calls : List StoreCall) :
      Change service state { state with revocationPlan, userPlan, calls }

/-- Any number of changes. -/
abbrev Changes (service : Service) : State → State → Prop :=
  ReflTransGen (Change service)

/-- What every change preserves, changes preserve. -/
theorem Changes.preserve {service : Service} {invariant : State → Prop}
    (preserved : ∀ before after, Change service before after → invariant before → invariant after)
    {before after : State} (changes : Changes service before after) (start : invariant before) :
    invariant after := by
  induction changes with
  | refl => exact start
  | tail _ change ih => exact preserved _ _ change ih

namespace State

variable (service : Service)

/-! ## Actions -/

section Performing

variable (depth : Nat) (session : String) (kind : TokenKind) (state : State)

@[simp] theorem performWithin_clock :
    state.performWithin service depth .clock = (state.now, state) := by
  cases depth <;> rfl

@[simp] theorem performWithin_drawName :
    state.performWithin service depth .drawName =
      (TokenName.ofCount (state.namesDrawn + 1),
        { state with namesDrawn := state.namesDrawn + 1 }) := by
  cases depth <;> rfl

@[simp] theorem performWithin_setSession (token : String) (expiresAt : Int64) :
    state.performWithin service depth (.setSession session kind token expiresAt) =
      ((), { state with
        sessions := state.sessions.set session kind token expiresAt state.now }) := by
  cases depth <;> rfl

@[simp] theorem performWithin_blacklistSession :
    state.performWithin service depth (.blacklistSession session kind) =
      ((state.sessions.blacklist session kind).1,
        { state with sessions := (state.sessions.blacklist session kind).2 }) := by
  cases depth <;> rfl

@[simp] theorem performWithin_clearSession :
    state.performWithin service depth (.clearSession session) =
      ((state.sessions.clear session).1,
        { state with sessions := (state.sessions.clear session).2 }) := by
  cases depth <;> rfl

end Performing

/-- Taking an incident changes plans and notes only. -/
theorem exists_takeIncident (call : StoreCall) (state : State) :
    ∃ revocationPlan userPlan, (state.takeIncident call).2 =
      { state with revocationPlan, userPlan, calls := call :: state.calls } := by
  rw [takeIncident]
  split
  · exact ⟨state.revocationPlan, state.userPlan, rfl⟩
  · next incident later planned =>
    cases call.target with
    | revocations => exact ⟨later, state.userPlan, rfl⟩
    | users => exact ⟨state.revocationPlan, later, rfl⟩

theorem change_takeIncident (call : StoreCall) (state : State) :
    Change service state (state.takeIncident call).2 := by
  obtain ⟨revocationPlan, userPlan, same⟩ := exists_takeIncident call state
  rw [same]
  exact .incidents revocationPlan userPlan _

/-- Creating a user is a series of steps. -/
theorem changes_createUser (form : NewUser) (state : State) :
    Changes service state { state with
      directory := (state.directory.createUser service.hashCost state.now form).2 } :=
  Program.run_preserves
    (fun directory => Changes service state { state with directory })
    (fun step _ before => before.tail (.create step)) (Directory.create form)
    state.directory .refl

/-- A call that is carried out changes the store that it goes to. -/
theorem changes_carryOut (call : StoreCall) (state : State) :
    Changes service state (state.carryOut service call).2 := by
  cases call with
  | record token => exact .single (.record token)
  | lookup token =>
    exact .single (.read _ (state.revocations.sameRecords_lookup service.backend token))
  | list => exact .single (.read _ (state.revocations.sameRecords_list service.backend))
  | userById id => exact .refl
  | userByEmail email => exact .refl
  | createUser form => exact changes_createUser service form state

/-- The ways in which a call comes out, when it is its turn in some state: it is carried out, it
fails, or it is not answered. -/
inductive Met (call : StoreCall) (met : State) : StoreReply call.Result × State → Prop
  /-- The call is carried out. -/
  | answered : Met call met (met.answer service call)
  | failed : Met call met (.answer (.error incidentError), met)
  /-- The call is not answered. -/
  | silent : Met call met (.silence, met)

variable {service}

/-- A call comes out in one of three ways, and before that there are only changes. -/
theorem exists_met {depth : Nat}
    (inner : ∀ less, depth = less + 1 → ∀ action state,
      Changes service state (performWithin service less action state).2)
    (call : StoreCall) (state : State) :
    ∃ met, Changes service state met ∧
      Met service call met (state.performWithin service depth (.store call)) := by
  have taken := change_takeIncident service call state
  cases same : state.takeIncident call with
  | mk incident noted =>
    rw [same] at taken
    rw [performWithin, same]
    cases incident with
    | pass => exact ⟨noted, .single taken, .answered⟩
    | fail => exact ⟨noted, .single taken, .failed⟩
    | hang => exact ⟨noted, .single taken, .silent⟩
    | record token =>
      refine ⟨_, .head taken ?_, .answered⟩
      rw [recordBefore]
      cases call.target with
      | revocations => exact .single (.record token)
      | users => exact .refl
    | logout secretToken =>
      cases depth with
      | zero => exact ⟨noted, .single taken, .answered⟩
      | succ less =>
        refine ⟨_, .head taken ?_, .answered⟩
        exact Program.run_preserves (Changes service noted)
          (fun action state before => before.trans (inner less rfl action state))
          (service.logout secretToken none).run noted .refl

theorem Met.changes {call : StoreCall} {met : State} {outcome : StoreReply call.Result × State}
    (comesOut : Met service call met outcome) : Changes service met outcome.2 := by
  cases comesOut with
  | answered => exact changes_carryOut service call met
  | failed => exact .refl
  | silent => exact .refl

/-- Performing an action is a series of changes, if it is so for the actions of the logouts that
come first. -/
theorem changes_of_inner {depth : Nat}
    (inner : ∀ less, depth = less + 1 → ∀ action state,
      Changes service state (performWithin service less action state).2)
    (action : Action) (state : State) :
    Changes service state (state.performWithin service depth action).2 := by
  cases action with
  | store call =>
    obtain ⟨met, before, comesOut⟩ := exists_met inner call state
    exact before.trans comesOut.changes
  | clock => exact performWithin_clock service depth state ▸ .refl
  | drawName => exact performWithin_drawName service depth state ▸ .single .name
  | setSession session kind token expiresAt =>
    exact performWithin_setSession service depth session kind state token expiresAt ▸
      .single (.setSession session kind token expiresAt)
  | blacklistSession session kind =>
    exact performWithin_blacklistSession service depth session kind state ▸
      .single (.blacklistSession session kind)
  | clearSession session =>
    exact performWithin_clearSession service depth session state ▸ .single (.clearSession session)

theorem changes_performWithin (depth : Nat) (action : Action) (state : State) :
    Changes service state (state.performWithin service depth action).2 := by
  induction depth generalizing action state with
  | zero => exact changes_of_inner (fun less same => absurd same (by simp)) action state
  | succ depth ih =>
    refine changes_of_inner (fun less same => ?_) action state
    obtain rfl : depth = less := Nat.succ.inj same
    exact ih

/-- A call comes out in one of three ways, after changes that others make. -/
theorem exists_met_perform (service : Service) (call : StoreCall) (state : State) :
    ∃ met, Changes service state met ∧
      Met service call met (state.perform service (.store call)) :=
  exists_met (fun less _ => changes_performWithin less) call state

theorem changes_perform (action : Action) (state : State) :
    Changes service state (state.perform service action).2 :=
  changes_performWithin state.incidentCount action state

/-- **Running an operation is a series of changes.** -/
theorem changes_run {α : Type} (operation : Operation α) (state : State) :
    Changes service state (state.run service operation).2 :=
  Program.run_preserves (Changes service state)
    (fun action state before => before.trans (changes_perform action state)) operation.run state
    .refl

/-! ## Events -/

/-- Creating a user twice is a series of changes. -/
theorem changes_createUserTwice (form : NewUser) (state : State) :
    Changes service state (state.createUserTwice service form).2 :=
  Interleaving.run_preserves (fun directory => Changes service state { state with directory })
    (fun step _ before => before.tail (.create step)) [0, 1, 0, 1, 0, 1]
    [Directory.create form, Directory.create form] state.directory .refl

/-- A change by hand is a change to the rows. -/
theorem changes_changeUsers {change : UserTable → Except Database.Fault (Nat × UserTable)}
    (byHand : ∀ table count changed, change table = .ok (count, changed) →
      (∃ id edit count, table.edit id edit = .ok (count, changed)) ∨
        ∃ id, changed = (table.delete id).2)
    (state : State) : Changes service state (state.changeUsers change).2 := by
  rw [changeUsers]
  split
  · exact .refl
  · next table present =>
    split
    · exact .refl
    · next count changed made =>
      exact .single (.users table changed present (byHand table count changed made))

/-- Changing the rows changes nothing but the directory. -/
theorem exists_changeUsers (change : UserTable → Except Database.Fault (Nat × UserTable))
    (state : State) : ∃ directory, (state.changeUsers change).2 = { state with directory } := by
  rw [changeUsers]
  split
  · exact ⟨state.directory, rfl⟩
  · split
    · exact ⟨state.directory, rfl⟩
    · exact ⟨_, rfl⟩

/-- Dropping a table changes nothing but the directory, or the records if they are in the table. -/
theorem exists_dropTable (table : TableName) (state : State) :
    ∃ directory records, (records = none ∨ records = state.revocations.table) ∧
      (state.dropTable table).2 = { state with
        directory, revocations := { state.revocations with table := records } } := by
  cases table with
  | users =>
    rw [dropTable]
    dsimp only
    split
    · exact ⟨state.directory, state.revocations.table, .inr rfl, rfl⟩
    · exact ⟨_, state.revocations.table, .inr rfl, rfl⟩
  | revocations =>
    rw [dropTable]
    dsimp only
    split
    · exact ⟨state.directory, state.revocations.table, .inr rfl, rfl⟩
    · exact ⟨state.directory, none, .inl rfl, rfl⟩

/-- Dropping a table is a change. -/
theorem changes_dropTable (table : TableName) (state : State) :
    Changes service state (state.dropTable table).2 := by
  cases table with
  | users =>
    rw [dropTable]
    dsimp only
    split
    · exact .refl
    · exact .single .dropUsers
  | revocations =>
    rw [dropTable]
    dsimp only
    split
    · exact .refl
    · exact .single .dropRecords

/-- **Every event is a series of changes.** -/
theorem changes_step (event : Event) (state : State) :
    Changes service state (state.step service event).2 := by
  cases event with
  | setClock time => exact .single (.clock time)
  | advanceClock span => exact .single (.clock _)
  | createUser form => exact changes_createUser service form state
  | createUserTwice form => exact changes_createUserTwice form state
  | userById id => exact .refl
  | userByEmail email => exact .refl
  | checkPassword email password => exact .refl
  | editUser id change =>
    refine changes_changeUsers (fun table count changed made => ?_) state
    exact .inl ⟨id, change, count, made⟩
  | deleteUser id =>
    refine changes_changeUsers (fun table count changed made => ?_) state
    exact .inr ⟨id, congrArg Prod.snd (Except.ok.inj made).symm⟩
  | dropTable table => exact changes_dropTable table state
  | login credentials => exact changes_run _ state
  | issuePair user => exact changes_run _ state
  | mint claims => exact .refl
  | validate token kind => exact changes_run _ state
  | refresh secretToken => exact changes_run _ state
  | renew access secretToken => exact changes_run _ state
  | logout secretToken presented => exact changes_run _ state
  | isRevoked token => exact changes_run _ state
  | listRevoked => exact changes_run _ state
  | session session => exact .refl
  | blacklistSession session kind => exact .single (.blacklistSession session kind)
  | record token => exact changes_carryOut service (.record token) state
  | lookup token => exact changes_carryOut service (.lookup token) state
  | list => exact changes_carryOut service .list state
  | plan store incidents =>
    cases store with
    | revocations => exact .single (.incidents incidents state.userPlan state.calls)
    | users => exact .single (.incidents state.revocationPlan incidents state.calls)
  | takeCalls => exact .single (.incidents state.revocationPlan state.userPlan [])
  | takeCommands =>
    exact .single (.serve [] state.revocations.server.failures state.revocations.server.rivals)
  | queueFailure command line =>
    exact .single (.serve state.revocations.server.received _ state.revocations.server.rivals)
  | queueRival token value =>
    exact .single (.serve state.revocations.server.received state.revocations.server.failures _)
  | request request => exact changes_run _ state

/-! ## What comes later -/

end State

/-- Something happens: a whole event, or a single action of an operation that takes turns with
others. -/
inductive Happens (service : Service) (state : State) : State → Prop
  | event (event : Event) : Happens service state (state.step service event).2
  | action (action : Action) : Happens service state (state.perform service action).2

/-- What a state can have become, whatever happened in between and in whatever order. -/
abbrev Later (service : Service) : State → State → Prop :=
  ReflTransGen (Happens service)

/-- Whatever happens is a series of changes. -/
theorem Later.changes {service : Service} {state later : State} (run : Later service state later) :
    Changes service state later := by
  induction run with
  | refl => exact .refl
  | tail _ happens ih =>
    cases happens with
    | event event => exact ih.trans (State.changes_step event _)
    | action action => exact ih.trans (State.changes_perform action _)

/-- A history leads to a later state. -/
theorem later_after (service : Service) (history : List Event) (state : State) :
    Later service state (state.after service history) := by
  induction history generalizing state with
  | nil => exact .refl
  | cons event later ih => exact .head (.event event) (ih _)

end DualToken
