import DualToken.Proofs.Service.Calm
import DualToken.Proofs.Service.Reachable

/-!
# Races

In a race several calls of the service are under way at the same time. A schedule says, action by
action, whose turn it is, and when the clock is moved in between; what is performed is noted with
the position of the call that it is for. A turn is one of `DualToken.Interleaving`. As only actions
that operations are known to do are performed, the cache stays sorted through a race
(`Race.Sorted.step`).
-/

set_option autoImplicit false

namespace DualToken

/-! ## Calls -/

/-- A call of an operation of the service. -/
inductive Call where
  /-- A user logs in. -/
  | login (credentials : Credentials)
  /-- A pair of tokens is issued to a user. -/
  | issuePair (user : User)
  | validate (token : String) (kind : TokenKind)
  | refresh (secretToken : String)
  | renew (access : Claims) (secretToken : String)
  /-- A session is ended. -/
  | logout (secretToken : String) (presented : Option String)
  /-- The service is asked whether a token is revoked. -/
  | isRevoked (token : String)
  /-- The service is asked for all revoked tokens. -/
  | listRevoked

/-- What is left to do of a call. In the end there may be a new access token. -/
abbrev Course : Type := Program Action Action.Reply (Except Failure (Option String))

namespace Call

/-- The operation that is called. Of the results only new access tokens matter here. -/
def operation (service : Service) : Call → Operation (Option String)
  | login credentials => do
    let _ ← service.login credentials
    return none
  | issuePair user => do
    let _ ← service.issuePair user
    return none
  | validate token kind => do
    let _ ← service.validate token kind
    return none
  | refresh secretToken => do
    let token ← service.refresh secretToken
    return some token
  | renew access secretToken => do
    let token ← service.renew access secretToken
    return some token
  | logout secretToken presented => do
    service.logout secretToken presented
    return none
  | isRevoked token => do
    let _ ← Service.isRevoked token
    return none
  | listRevoked => do
    let _ ← Service.listRevoked
    return none

/-- What is to be done for the call. -/
def course (service : Service) (call : Call) : Course :=
  (call.operation service).run

/-- The secret token that the call is given, if any, is of one of the sessions. -/
def Concerns (service : Service) (sessions : String → Prop) : Call → Prop
  | refresh secretToken | renew _ secretToken | logout secretToken _ =>
    service.Concerns sessions secretToken
  | _ => True

/-- The call is given no secret token of the session. -/
abbrev Spares (service : Service) (session : String) : Call → Prop :=
  Concerns service (· ≠ session)

open Operation Service

variable {service : Service} {sessions : String → Prop} {call : Call}

/-- Every call does what operations do, on the sessions that it concerns. -/
theorem Concerns.does (concerns : call.Concerns service sessions) :
    Does service sessions (fun _ => True) (call.operation service) := by
  have ignored : ∀ {α : Type} {promise : α → Prop} {operation : Operation α}
      (result : α → Option String), Does service sessions promise operation →
        Does service sessions (fun _ => True) (operation >>= fun value => pure (result value)) :=
    fun result does => does.bind fun _ _ => obeys_pure trivial
  cases call with
  | login credentials => exact ignored _ (does_login credentials)
  | issuePair user => exact ignored _ (does_issuePair user)
  | validate token kind => exact ignored _ (does_validate token kind)
  | refresh secretToken => exact ignored _ (does_refresh concerns)
  | renew access secretToken => exact ignored _ (does_renew access concerns)
  | logout secretToken presented => exact ignored _ (does_logout concerns presented)
  | isRevoked token => exact ignored _ (does_isRevoked token)
  | listRevoked => exact ignored _ does_listRevoked

theorem concerns_everySession (call : Call) : call.Concerns service everySession := by
  cases call with
  | refresh secretToken => exact fun _ _ => trivial
  | renew access secretToken => exact fun _ _ => trivial
  | logout secretToken presented => exact fun _ _ => trivial
  | _ => trivial

end Call

/-! ## Races -/

/-- Calls that are under way at the same time. -/
structure Race where
  /-- What is left of each call. -/
  courses : List Course
  /-- The state that they share. -/
  state : State
  /-- What was performed, each with the position of its call, the latest first. -/
  performed : List (Nat × Performed Action Action.Reply) := []

/-- One moment of a race. -/
inductive Moment where
  /-- It is the turn of the call at a position. -/
  | turn (position : Nat)
  | clock (time : Int)
  deriving DecidableEq

namespace Race

/-- Calls that have not done anything yet. -/
def start (service : Service) (calls : List Call) (state : State) : Race :=
  { courses := calls.map (·.course service), state }

/-- What the call at a position will perform when it is its turn. -/
def next? (service : Service) (race : Race) (position : Nat) :
    Option (Performed Action Action.Reply) :=
  match race.courses[position]? with
  | some (.act action _) => some ⟨action, (race.state.perform service action).1⟩
  | _ => none

/-- Lets a moment pass. -/
def step (service : Service) (race : Race) : Moment → Race
  | .turn position =>
    let (courses, state) :=
      Interleaving.turn (State.perform service) (race.courses, race.state) position
    let entry := (race.next? service position).map fun performed => (position, performed)
    { courses, state, performed := entry.toList ++ race.performed }
  | .clock time => { race with state := { race.state with now := time } }

/-- Lets the moments of a schedule pass. -/
def run (service : Service) (schedule : List Moment) (race : Race) : Race :=
  schedule.foldl (step service) race

/-- The result of the call at a position, when it has ended. -/
def result? (race : Race) (position : Nat) : Option (Except Failure (Option String)) :=
  race.courses[position]?.bind Interleaving.result?

variable {service : Service} {race : Race}

/-- A turn performs the action that is next. -/
theorem step_turn {position : Nat} {action : Action} {next : action.Reply → Course}
    (found : race.courses[position]? = some (.act action next)) :
    race.step service (.turn position) =
      { courses := race.courses.set position (next (race.state.perform service action).1),
        state := (race.state.perform service action).2,
        performed := (position, ⟨action, (race.state.perform service action).1⟩) ::
          race.performed } := by
  simp [step, next?, Interleaving.turn, found]

variable (service) in
/-- A turn performs the action that is next, or passes without effect because nothing is left. -/
theorem step_turn_cases (race : Race) (position : Nat) :
    (∃ action next, race.courses[position]? = some (.act action next)) ∨
      (race.step service (.turn position) = race ∧
        ∀ course, race.courses[position]? = some course → ∃ result, course = .done result) := by
  cases found : race.courses[position]? with
  | none =>
    refine .inr ⟨?_, nofun⟩
    simp [step, next?, Interleaving.turn, found]
  | some course =>
    cases course with
    | act action next => exact .inl ⟨action, next, rfl⟩
    | done result =>
      refine .inr ⟨?_, ?_⟩
      · simp [step, next?, Interleaving.turn, found]
      · rintro course ⟨⟩
        exact ⟨result, rfl⟩

/-- What was performed stays noted. -/
theorem performed_step (race : Race) (moment : Moment) :
    race.performed ⊆ (race.step service moment).performed := by
  cases moment with
  | turn position => exact List.subset_append_right _ _
  | clock time => exact List.Subset.refl _

theorem performed_run (race : Race) (schedule : List Moment) :
    race.performed ⊆ (race.run service schedule).performed := by
  induction schedule generalizing race with
  | nil => exact List.Subset.refl _
  | cons moment later ih => exact List.Subset.trans (performed_step race moment) (ih _)

/-! ## The cache in a race -/

/-- The cache is sorted, and whatever is left to do keeps it so. -/
structure Sorted (service : Service) (race : Race) : Prop where
  /-- Every token that is current in a session belongs to it. -/
  state : race.state.IsSorted service
  /-- What is left of the calls does what operations do. -/
  courses : ∀ course ∈ race.courses,
    course.Obeys (Deed service everySession) (Relied service everySession) fun _ => True

/-- Every moment of a race keeps the cache sorted. -/
theorem Sorted.step (sorted : race.Sorted service) (moment : Moment) :
    (race.step service moment).Sorted service := by
  cases moment with
  | clock time => exact ⟨sorted.state.of_sessions rfl, sorted.courses⟩
  | turn position =>
    rcases step_turn_cases service race position with ⟨action, next, found⟩ | ⟨same, -⟩
    · obtain ⟨deed, rest⟩ := sorted.courses _ (List.mem_of_getElem? found)
      obtain ⟨relied, kept⟩ := sorted.state.performWithin race.state.incidentCount deed
      rw [step_turn found]
      refine ⟨kept, fun course member => ?_⟩
      rcases List.mem_or_eq_of_mem_set member with member | rfl
      · exact sorted.courses course member
      · exact rest _ relied
    · rw [same]
      exact sorted

theorem Sorted.start {state : State} (sorted : state.IsSorted service) (calls : List Call) :
    (Race.start service calls state).Sorted service := by
  refine ⟨sorted, fun course member => ?_⟩
  obtain ⟨call, -, rfl⟩ := List.mem_map.1 member
  exact Program.Obeys.mono call.concerns_everySession.does fun _ _ => trivial

end Race

end DualToken
