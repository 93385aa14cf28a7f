import DualToken.Proofs.Http.Requests
import DualToken.Proofs.Service.Change
import DualToken.Proofs.Service.Deed
import DualToken.Proofs.Service.Performing
import DualToken.Proofs.Session.Cache

/-!
# What the cache holds

From an empty cache on, every token that is current in a session says that it belongs to this
session and is of the kind of its slot. All operations and all requests keep this, because they make
no other tokens current and because what clearing a session hands back is then of that session.
-/

set_option autoImplicit false

namespace DualToken

/-- The sessions of all names. -/
abbrev everySession : String → Prop := fun _ => True

/-! ## Requests -/

section Requests

open Operation Service

variable (service : Service) {sessions : String → Prop}
  {rely : (action : Action) → action.Reply → Prop}

/-- What is composed of operations that do deeds does deeds. -/
theorem composes_does : Composes fun _ operation =>
    operation.Obeys (Deed service sessions) rely fun _ => True where
  pure _ := obeys_pure trivial
  throw := obeys_throw
  bind first second := Obeys.bind first fun value _ => second value
  attempt does := (Obeys.attempt does).mono fun _ _ => trivial
  clock := does_clock

theorem does_createUser (form : NewUser) :
    (await (.createUser form)).Obeys (Deed service sessions) rely fun _ => True := by
  have asks : Deed service sessions (.store (.createUser form)) := .ask trivial
  refine (obeys_act asks).bind fun reply _ => ?_
  rcases reply with result | _
  · exact (obeys_ofExcept result).mono fun _ _ => trivial
  · exact obeys_throw .unanswered

/-- **Doing deeds is a property that requests inherit.** -/
theorem compositional_does :
    Compositional service fun _ => Does service everySession fun _ => True where
  toComposes := composes_does service
  createUser := does_createUser service
  listRevoked := does_listRevoked
  login := does_login
  validate token kind := (does_validate token kind).mono fun _ _ => trivial
  refresh _ := does_refresh fun _ _ => trivial
  renew access _ := does_renew access fun _ _ => trivial
  logout _ presented := does_logout (fun _ _ => trivial) presented

end Requests

/-! ## The tokens in the cache -/

/-- Every token that is current in a session belongs to it and is of the kind of its slot. -/
def State.IsSorted (service : Service) (state : State) : Prop :=
  ∀ session kind token, state.sessions.IsLive session kind token →
    ∃ claims, service.codec.Says token claims ∧ claims.sid = session ∧ claims.kind = kind

namespace State

variable {service : Service} {state : State}

/-- In a sorted cache, clearing a session hands back tokens of that session. -/
theorem IsSorted.ofSession {session token : String} (sorted : state.IsSorted service)
    (member : token ∈ (state.sessions.clear session).1.1.toList ++
      (state.sessions.clear session).1.2.toList) : service.codec.OfSession session token := by
  obtain ⟨kind, live⟩ := SessionCache.isLive_of_mem_clear member
  obtain ⟨claims, said, sid, -⟩ := sorted session kind token live
  exact ⟨claims, said, sid⟩

/-- Changes that leave the cache alone leave it sorted. -/
theorem IsSorted.of_sessions {after : State} (sorted : state.IsSorted service)
    (same : after.sessions = state.sessions) : after.IsSorted service := by
  intro session kind token live
  exact sorted session kind token (same ▸ live)

theorem sessions_takeIncident (call : StoreCall) (state : State) :
    (state.takeIncident call).2.sessions = state.sessions := by
  obtain ⟨_, _, same⟩ := exists_takeIncident call state
  rw [same]

theorem sessions_answer (call : StoreCall) (state : State) :
    (state.answer service call).2.sessions = state.sessions := by
  cases call with
  | record token => rfl
  | lookup token => rfl
  | list => rfl
  | userById id => rfl
  | userByEmail email => rfl
  | createUser form => rfl

theorem sessions_recordBefore (service : Service) (call : StoreCall) (token : String)
    (state : State) :
    (state.recordBefore service call token).sessions = state.sessions := by
  rw [recordBefore]
  cases call.target with
  | revocations => rfl
  | users => rfl

/-- **Deeds keep the cache sorted**, and get the replies that they rely on. -/
theorem sustains_isSorted (service : Service) :
    Sustains service (Deed service everySession) (Relied service everySession)
      (IsSorted service) where
  take _ sorted := sorted.of_sessions (sessions_takeIncident _ _)
  rival _ _ noted := noted.of_sessions (sessions_recordBefore service _ _ _)
  logout _ _ := Service.does_logout (fun _ _ => trivial) none
  answer _ sorted := ⟨trivial, sorted.of_sessions (sessions_answer _ _)⟩
  fail _ := trivial
  hang _ := trivial
  act {action state} depth noCall deed sorted := by
    cases deed with
    | ask asks => exact absurd rfl (noCall _)
    | record own belongs => exact absurd rfl (noCall _)
    | clock =>
      rw [performWithin_clock]
      exact ⟨trivial, sorted⟩
    | name =>
      rw [performWithin_drawName]
      exact ⟨trivial, sorted.of_sessions rfl⟩
    | set claims own expiresAt =>
      rw [performWithin_setSession]
      refine ⟨trivial, fun session kind token live => ?_⟩
      rcases SessionCache.isLive_of_set live with ⟨rfl, rfl, rfl⟩ | live
      · exact ⟨claims, Codec.says_issue service.codec claims, rfl, rfl⟩
      · exact sorted session kind token live
    | blacklist own kind =>
      rw [performWithin_blacklistSession]
      refine ⟨trivial, fun session kind token live => ?_⟩
      exact sorted session kind token (SessionCache.isLive_of_blacklist live)
    | clear own =>
      rw [performWithin_clearSession]
      refine ⟨fun token member => sorted.ofSession member, fun session kind token live => ?_⟩
      exact sorted session kind token (SessionCache.isLive_of_clear live)

theorem IsSorted.performWithin (depth : Nat) {action : Action}
    (deed : Deed service everySession action) (sorted : state.IsSorted service) :
    Relied service everySession action (state.performWithin service depth action).1 ∧
      (state.performWithin service depth action).2.IsSorted service :=
  (sustains_isSorted service).performWithin depth deed sorted

/-- **Running an operation keeps the cache sorted.** -/
theorem IsSorted.run {α : Type} {operation : Operation α} {promise : α → Prop}
    (does : Service.Does service everySession promise operation) (sorted : state.IsSorted service) :
    (state.run service operation).2.IsSorted service :=
  ((sustains_isSorted service).run does sorted).2

/-- **Every event keeps the cache sorted.** -/
theorem IsSorted.step (event : Event) (sorted : state.IsSorted service) :
    (state.step service event).2.IsSorted service := by
  cases event with
  | login credentials => exact sorted.run (Service.does_login credentials)
  | issuePair user => exact sorted.run (Service.does_issuePair user)
  | validate token kind => exact sorted.run (Service.does_validate token kind)
  | refresh secretToken => exact sorted.run (Service.does_refresh fun _ _ => trivial)
  | renew access secretToken => exact sorted.run (Service.does_renew access fun _ _ => trivial)
  | logout secretToken presented =>
    exact sorted.run (Service.does_logout (fun _ _ => trivial) presented)
  | isRevoked token => exact sorted.run (Service.does_isRevoked token)
  | listRevoked => exact sorted.run Service.does_listRevoked
  | request request => exact sorted.run ((compositional_does service).respond request)
  | blacklistSession session kind =>
    exact fun session kind token live =>
      sorted session kind token (SessionCache.isLive_of_blacklist live)
  | editUser id change =>
    obtain ⟨_, edited⟩ := exists_changeUsers (fun table => table.edit id change) state
    exact sorted.of_sessions ((congrArg State.sessions edited).trans rfl)
  | deleteUser id =>
    obtain ⟨_, deleted⟩ := exists_changeUsers (fun table => .ok (table.delete id)) state
    exact sorted.of_sessions ((congrArg State.sessions deleted).trans rfl)
  | dropTable table =>
    obtain ⟨_, _, -, dropped⟩ := exists_dropTable table state
    exact sorted.of_sessions ((congrArg State.sessions dropped).trans rfl)
  | plan store incidents =>
    cases store with
    | revocations => exact sorted.of_sessions rfl
    | users => exact sorted.of_sessions rfl
  | _ => exact sorted.of_sessions rfl

/-- A state that some history leads to from a state with an empty cache. -/
def IsReachable (service : Service) (state : State) : Prop :=
  ∃ start history, start.sessions = {} ∧ state = State.after service history start

/-- **In every reachable state the cache is sorted.** -/
theorem IsReachable.isSorted (reachable : state.IsReachable service) :
    state.IsSorted service := by
  obtain ⟨start, history, empty, rfl⟩ := reachable
  have sorted : start.IsSorted service := by
    rintro session kind token ⟨entry, member, -⟩
    rw [empty] at member
    exact absurd member List.not_mem_nil
  have run : ∀ state : State, state.IsSorted service →
      (state.after service history).IsSorted service := by
    induction history with
    | nil => exact fun _ sorted => sorted
    | cons event later ih => exact fun state sorted => ih _ (sorted.step event)
  exact run start sorted

end State

end DualToken
