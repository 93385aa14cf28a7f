import DualToken.Proofs.Service.Apart

/-!
# Sessions are isolated

In a run from an empty service, in which nobody else writes to the record, a step adds to the record
only tokens of the sessions that it works on, so the record cannot be stuffed with foreign texts;
and a step that is an operation or a request changes for no other session what the cache shows, and
for no other token whether it is acceptable (`sessions_isolated`). This is so whatever texts are
presented as tokens, and also when an access token of another session is presented to a logout.
-/

set_option autoImplicit false

namespace DualToken

open Operation Service

/-! ## Validating without faults -/

namespace State

/-- The state when nothing comes in between any more and no failure is waiting. -/
def faultless (state : State) : State :=
  { state with
    revocationPlan := []
    userPlan := []
    revocations := { state.revocations with
      server := { state.revocations.server with failures := [], rivals := [] } } }

theorem holds_faultless (service : Service) (state : State) (token : String) :
    state.faultless.Holds service token ↔ state.Holds service token := by
  unfold State.Holds RevocationStore.Holds
  cases service.backend with
  | table => rfl
  | redis => rfl

variable {service : Service} {first second : State} {token : String}

/-- Two states without faults in which the token is as acceptable in the one as in the other. -/
structure Alike (service : Service) (token : String) (first second : State) : Prop
    extends SameSetting first second where
  calm : first.IsCalm
  calm' : second.IsCalm
  quiet : first.revocations.server.failures = []
  quiet' : second.revocations.server.failures = []
  table : second.revocations.table.isSome = first.revocations.table.isSome
  holds : second.Holds service token ↔ first.Holds service token

/-- What is done to validate a token. -/
inductive Validates (token : String) : Action → Prop
  | lookup : Validates token (.store (.lookup token))
  | clock : Validates token .clock
  | find (id : Int64) : Validates token (.store (.userById id))

/-- Such states reply alike, and stay alike. -/
theorem Alike.perform {action : Action} (validates : Validates token action)
    (alike : Alike service token first second) :
    (second.perform service action).1 = (first.perform service action).1 ∧
      Alike service token (first.perform service action).2 (second.perform service action).2 := by
  have calm : (first.perform service action).2.IsCalm := alike.calm.perform action
  have calm' : (second.perform service action).2.IsCalm := alike.calm'.perform action
  obtain ⟨⟨now, directory⟩, calm₀, calm₀', quiet, quiet', table, holds⟩ := alike
  cases validates with
  | lookup =>
    rw [calm₀.perform_store] at calm ⊢
    rw [calm₀'.perform_store] at calm' ⊢
    have same := first.revocations.sameRecords_lookup service.backend token
    have same' := second.revocations.sameRecords_lookup service.backend token
    refine ⟨?_, ⟨now, directory⟩, calm, calm', ?_, ?_, ?_, ?_⟩
    · exact congrArg StoreReply.answer
        (RevocationStore.lookup_eq_of_holds_iff quiet quiet' table holds)
    · exact RevocationStore.failures_lookup quiet token
    · exact RevocationStore.failures_lookup quiet' token
    · exact (congrArg Option.isSome same'.table).trans
        (table.trans (congrArg Option.isSome same.table).symm)
    · exact same'.holds_iff.trans (holds.trans same.holds_iff.symm)
  | clock =>
    rw [perform_clock] at calm ⊢
    rw [perform_clock] at calm' ⊢
    exact ⟨now, ⟨now, directory⟩, calm, calm', quiet, quiet', table, holds⟩
  | find id =>
    rw [calm₀.perform_store] at calm ⊢
    rw [calm₀'.perform_store] at calm' ⊢
    refine ⟨?_, ⟨now, directory⟩, calm, calm', quiet, quiet', table, holds⟩
    exact congrArg (fun directory => StoreReply.answer (Directory.userById directory id)) directory

/-- **In such states a token validates alike.** -/
theorem Alike.validate (alike : Alike service token first second) (kind : TokenKind) :
    (second.run service (service.validate token kind)).1 =
      (first.run service (service.validate token kind)).1 := by
  have validates : (service.validate token kind).Obeys (Validates token) (fun _ _ => True)
      fun _ => True :=
    (obeys_validate .lookup .clock .find kind).mono fun _ _ => trivial
  exact Program.Obeys.run_eq (Alike service token) validates
    (fun _ _ _ validates alike => alike.perform validates) alike

/-- A token that belongs to none of the sessions validates as before. -/
theorem Apart.validate {sessions : String → Prop} {start state : State}
    (apart : Apart service sessions start state) (setting : start.SameSetting state)
    (foreign : ¬ service.codec.OfSome sessions token) (kind : TokenKind) :
    (state.faultless.run service (service.validate token kind)).1 =
      (start.faultless.run service (service.validate token kind)).1 := by
  have holds : state.Holds service token ↔ start.Holds service token := by
    constructor
    · intro holds
      rcases apart.grows.added holds with held | new
      · exact held
      · exact absurd new foreign
    · exact apart.grows.kept
  have alike : Alike service token start.faultless state.faultless :=
    { now := setting.now
      directory := setting.directory
      calm := ⟨rfl, rfl, rfl⟩
      calm' := ⟨rfl, rfl, rfl⟩
      quiet := rfl
      quiet' := rfl
      table := apart.grows.table
      holds := by rw [holds_faultless, holds_faultless, holds] }
  exact alike.validate kind

end State

/-! ## Events -/

/-- The incident is another writer. -/
def Incident.IsRival : Incident → Prop
  | .record _ => True
  | _ => False

namespace Event

/-- The event writes to the record directly, or has somebody else write to it. -/
def WritesRecords : Event → Prop
  | .record _ | .queueRival _ _ => True
  | .plan _ incidents => ∃ incident ∈ incidents, incident.IsRival
  | _ => False

/-- The event is an operation on tokens and sessions, or a request. -/
def IsOperation : Event → Prop
  | .login _ | .issuePair _ | .validate _ _ | .refresh _ | .renew _ _ | .logout _ _ | .isRevoked _
  | .listRevoked | .blacklistSession _ _ | .request _ => True
  | _ => False

/-- The event is a request to register a user. -/
def Registers : Event → Prop
  | .request arrived => Route.ofPath? arrived.path = some .register
  | _ => False

/-- The sessions that an event works on: that of the secret token that it is given, if it is well
signed; that which is named next, if it opens one; or that which it names itself. -/
def sessions (service : Service) (state : State) : Event → String → Prop
  | .login _ | .issuePair _ => (· = TokenName.ofCount (state.namesDrawn + 1))
  | .refresh secretToken | .renew _ secretToken | .logout secretToken _ =>
    service.SessionOf secretToken
  | .blacklistSession own _ => (· = own)
  | .request arrived => fun session =>
    (Route.ofPath? arrived.path = some .login ∧
        session = TokenName.ofCount (state.namesDrawn + 1)) ∨
      ∃ route secretToken, Route.ofPath? arrived.path = some route ∧
        route.secretToken? arrived = some secretToken ∧ service.SessionOf secretToken session
  | _ => fun _ => False

end Event

namespace State

variable {service : Service} {state : State}

/-- The sessions that an event works on, or a logout that is planned to come first. -/
def worksOn (service : Service) (state : State) (event : Event) (session : String) : Prop :=
  event.sessions service state session ∨
    ∃ secretToken, Incident.logout secretToken ∈ state.revocationPlan ++ state.userPlan ∧
      service.SessionOf secretToken session

/-- The cache is in order, and nobody else is going to write to the record. -/
structure IsTidy (service : Service) (state : State) : Prop where
  sorted : state.IsSorted service
  unique : state.sessions.IsUnique
  /-- No other writer is waiting. -/
  alone : state.revocations.server.rivals = []
  /-- No other writer is planned to come first. -/
  plans : state.Plans (¬ ·.IsRival)

/-- An event has not begun yet. -/
theorem IsTidy.apart (tidy : state.IsTidy service) (event : Event) :
    Apart service (state.worksOn service event) state state := by
  refine ⟨tidy.sorted, tidy.unique, tidy.alone, ?_, rfl, .refl _, fun _ _ _ => rfl⟩
  intro incident planned
  cases incident with
  | pass => exact .pass
  | fail => exact .fail
  | hang => exact .hang
  | record token => exact absurd trivial (tidy.plans _ planned)
  | logout secretToken =>
    exact .logout (concerns_of_sessionOf fun session own => .inr ⟨secretToken, planned, own⟩)

/-- **An operation leaves every session alone that it does not work on.** -/
theorem IsTidy.apart_step (tidy : state.IsTidy service) {event : Event}
    (operation : event.IsOperation) :
    Apart service (state.worksOn service event) state (state.step service event).2 := by
  have apart := tidy.apart event
  cases event with
  | login credentials => exact apart.login (.inl rfl) credentials
  | issuePair user => exact apart.issuePair (.inl rfl) user
  | validate token kind => exact apart.run (does_validate token kind)
  | refresh secretToken => exact apart.run (does_refresh (concerns_of_sessionOf fun _ => .inl))
  | renew access secretToken =>
    exact apart.run (does_renew access (concerns_of_sessionOf fun _ => .inl))
  | logout secretToken presented =>
    exact apart.run (does_logout (concerns_of_sessionOf fun _ => .inl) presented)
  | isRevoked token => exact apart.run (does_isRevoked token)
  | listRevoked => exact apart.run does_listRevoked
  | blacklistSession session kind =>
    have deed : Deed service (state.worksOn service (.blacklistSession session kind))
        (.blacklistSession session kind) := .blacklist (.inl rfl) kind
    have noCall : ∀ call, Action.blacklistSession session kind ≠ .store call := fun _ => nofun
    have emptied := ((sustains_apart service _ state).act 0 noCall deed apart).2
    rwa [performWithin_blacklistSession] at emptied
  | request request =>
    apply apart.respond
    · intro route secretToken found taken
      apply concerns_of_sessionOf
      intro session own
      exact .inl (.inr ⟨route, secretToken, found, taken, own⟩)
    · intro login
      exact .inl (.inl ⟨login, rfl⟩)
  | _ => exact operation.elim

/-- **An operation that registers nobody leaves the clock and the users as they were.** -/
theorem sameSetting_step (service : Service) (state : State) {event : Event}
    (operation : event.IsOperation) (noRegister : ¬ event.Registers) :
    state.SameSetting (state.step service event).2 := by
  cases event with
  | login credentials => exact (Ends.run service (ends_login service state credentials)).2
  | issuePair user => exact (Ends.run service (ends_issuePair service state user)).2
  | validate token kind =>
    exact (Ends.run service (ends_validate service state token kind).keepsUsers).2
  | refresh secretToken => exact (Ends.run service (ends_refresh service state secretToken)).2
  | renew access secretToken =>
    exact (Ends.run service (ends_renew service state access secretToken)).2
  | logout secretToken presented =>
    exact (Ends.run service (ends_logout service state secretToken presented)).2
  | isRevoked token => exact (Ends.run service (ends_isRevoked state token).keepsUsers).2
  | listRevoked =>
    have lists : listRevoked.Ends Action.KeepsUsers state _ Failure.IsOfStorage :=
      ends_callStore nofun fun _ storage => storage
    exact (Ends.run service lists).2
  | blacklistSession session kind => exact ⟨rfl, rfl⟩
  | request request => exact sameSetting_respond service state noRegister
  | _ => exact operation.elim

/-! ## Runs -/

/-- What a step has added to the record, and that no other writer is to come. -/
structure Grown (service : Service) (sessions : String → Prop) (before after : State) : Prop where
  /-- No other writer is waiting. -/
  alone : after.revocations.server.rivals = []
  /-- No other writer is planned to come first. -/
  plans : after.Plans (¬ ·.IsRival)
  added {token : String} : after.Holds service token →
    before.Holds service token ∨ service.codec.OfSome sessions token

theorem Apart.grown {sessions : String → Prop} {start : State}
    (apart : Apart service sessions start state) : Grown service sessions start state := by
  refine ⟨apart.alone, ?_, apart.grows.added⟩
  intro incident planned
  cases apart.plans incident planned with
  | _ => exact nofun

/-- Only an event that writes to the record directly adds anything but tokens of the sessions that
it works on. -/
theorem IsTidy.grown_step (tidy : state.IsTidy service) {event : Event}
    (clean : ¬ event.WritesRecords) :
    Grown service (state.worksOn service event) state (state.step service event).2 := by
  have reading : ∀ after : State, after.Plans (¬ ·.IsRival) →
      state.revocations.SameRecords after.revocations →
        Grown service (state.worksOn service event) state after := by
    intro after plans same
    exact ⟨same.rivals.trans tidy.alone, plans, fun holds => .inl (same.holds_iff.1 holds)⟩
  cases event with
  | record token => exact absurd trivial clean
  | queueRival token value => exact absurd trivial clean
  | plan store incidents =>
    have planned : ∀ incident ∈ incidents, ¬ incident.IsRival := by
      intro incident member rival
      exact clean ⟨incident, member, rival⟩
    obtain ⟨records, users⟩ := List.forall_mem_append.1 tidy.plans
    cases store with
    | revocations => exact reading _ (List.forall_mem_append.2 ⟨planned, users⟩) (.refl _)
    | users => exact reading _ (List.forall_mem_append.2 ⟨records, planned⟩) (.refl _)
  | editUser id change =>
    obtain ⟨_, edited⟩ := exists_changeUsers (fun table => table.edit id change) state
    change Grown service _ state (state.changeUsers fun table => table.edit id change).2
    rw [edited]
    exact reading _ tidy.plans (.refl _)
  | deleteUser id =>
    obtain ⟨_, deleted⟩ := exists_changeUsers (fun table => .ok (table.delete id)) state
    change Grown service _ state (state.changeUsers fun table => .ok (table.delete id)).2
    rw [deleted]
    exact reading _ tidy.plans (.refl _)
  | dropTable table =>
    obtain ⟨_, _, fewer, dropped⟩ := exists_dropTable table state
    change Grown service _ state (state.dropTable table).2
    rw [dropped]
    exact ⟨tidy.alone, tidy.plans, fun holds => .inl (RevocationStore.Holds.of_table fewer holds)⟩
  | lookup token =>
    exact reading _ tidy.plans (state.revocations.sameRecords_lookup service.backend token)
  | list => exact reading _ tidy.plans (state.revocations.sameRecords_list service.backend)
  | takeCommands => exact reading _ tidy.plans ⟨_, rfl, _, _, rfl⟩
  | queueFailure command line => exact reading _ tidy.plans ⟨_, rfl, _, _, rfl⟩
  | setClock time => exact reading _ tidy.plans (.refl _)
  | advanceClock span => exact reading _ tidy.plans (.refl _)
  | createUser form => exact reading _ tidy.plans (.refl _)
  | createUserTwice form => exact reading _ tidy.plans (.refl _)
  | userById id => exact reading _ tidy.plans (.refl _)
  | userByEmail email => exact reading _ tidy.plans (.refl _)
  | checkPassword email password => exact reading _ tidy.plans (.refl _)
  | mint claims => exact reading _ tidy.plans (.refl _)
  | session session => exact reading _ tidy.plans (.refl _)
  | takeCalls => exact reading _ tidy.plans (.refl _)
  | _ => exact Apart.grown (tidy.apart_step trivial)

/-- Every change keeps one entry for each session. -/
theorem isUnique_change {before after : State} (change : Change service before after)
    (unique : before.sessions.IsUnique) : after.sessions.IsUnique := by
  cases change with
  | setSession session kind token expiresAt => exact unique.set session kind token expiresAt _
  | blacklistSession session kind => exact unique.blacklist session kind
  | clearSession session => exact unique.clear session
  | _ => exact unique

/-- **Every step keeps the cache in order**, unless it writes to the record directly. -/
theorem IsTidy.step (tidy : state.IsTidy service) {event : Event}
    (clean : ¬ event.WritesRecords) : (state.step service event).2.IsTidy service := by
  have grown := tidy.grown_step clean
  refine ⟨tidy.sorted.step event, ?_, grown.alone, grown.plans⟩
  exact (changes_step event state).preserve (fun _ _ => isUnique_change) tidy.unique

/-- A service that has not been used. -/
structure IsEmpty (service : Service) (state : State) : Prop where
  sessions : state.sessions = {}
  /-- Nothing is recorded. -/
  records : ∀ token, ¬ state.Holds service token
  /-- No other writer is waiting. -/
  alone : state.revocations.server.rivals = []
  /-- No other writer is planned to come first. -/
  plans : state.Plans (¬ ·.IsRival)

theorem IsEmpty.tidy (empty : state.IsEmpty service) : state.IsTidy service where
  sorted := by
    rintro session kind token ⟨entry, member, -⟩
    rw [empty.sessions] at member
    exact absurd member List.not_mem_nil
  unique := by
    rw [empty.sessions]
    exact List.nodup_nil
  alone := empty.alone
  plans := empty.plans

/-- A service that is ready for its first user has not been used. -/
theorem IsReady.isEmpty {credentials : Credentials} {row : UserRow} {user : User}
    (ready : state.IsReady service credentials row user) : state.IsEmpty service where
  sessions := ready.sessions
  records _ holds := absurd (ready.whole.holds_iff.1 holds) nofun
  alone := ready.whole.calm.rivals
  plans incident planned := absurd planned (ready.whole.calm.not_planned incident)

/-- **Along a history the cache stays in order and nothing comes into the record but tokens of the
service's own.** -/
theorem IsTidy.after (tidy : state.IsTidy service) (history : List Event)
    (clean : ∀ event ∈ history, ¬ event.WritesRecords) :
    (state.after service history).IsTidy service ∧
      ∀ token, (state.after service history).Holds service token →
        state.Holds service token ∨ ∃ session, service.codec.OfSession session token := by
  induction history generalizing state with
  | nil => exact ⟨tidy, fun _ => .inl⟩
  | cons event later ih =>
    obtain ⟨clean, cleanLater⟩ := List.forall_mem_cons.1 clean
    obtain ⟨tidyLater, added⟩ := ih (tidy.step clean) cleanLater
    refine ⟨tidyLater, ?_⟩
    intro token holds
    rcases added token holds with held | own
    · rcases (tidy.grown_step clean).added held with held | ⟨session, -, own⟩
      · exact .inl held
      · exact .inr ⟨session, own⟩
    · exact .inr own

/-- **Sessions are isolated, and the record cannot be stuffed.** Let anything happen to a service
that has not been used, only that nobody writes to the record directly. Then every token that is
current in a session is signed for its slot and says that it belongs to this session. Every token in
the record is signed by the service, and what a step adds to it belongs to a session that the step
works on. So an operation or a request changes for no other token, whatever text it is, whether it
is valid, also if it was presented to a logout; and for no other session what the cache shows. -/
theorem sessions_isolated {start : State} (empty : start.IsEmpty service) (history : List Event)
    (event : Event) (clean : ∀ happened ∈ history ++ [event], ¬ happened.WritesRecords) :
    let before := start.after service history
    let after := (before.step service event).2
    (∀ session kind token, after.sessions.IsLive session kind token →
        ∃ claims, service.codec.Says token claims ∧ claims.sid = session ∧ claims.kind = kind) ∧
      (∀ token, after.Holds service token → (∃ session, service.codec.OfSession session token) ∧
        (before.Holds service token ∨
          ∃ session, before.worksOn service event session ∧
            service.codec.OfSession session token)) ∧
      (event.IsOperation →
        (¬ event.Registers → ∀ token kind,
          (∀ claims, Codec.said? token = some claims → ¬ before.worksOn service event claims.sid) →
            (after.faultless.run service (service.validate token kind)).1 =
              (before.faultless.run service (service.validate token kind)).1) ∧
        ∀ session kind, ¬ before.worksOn service event session →
          after.sessions.get? session kind after.now =
            before.sessions.get? session kind before.now) := by
  intro before after
  obtain ⟨cleanBefore, cleanLast⟩ := List.forall_mem_append.1 clean
  have cleanEvent := cleanLast event List.mem_cons_self
  obtain ⟨tidy, held⟩ := empty.tidy.after history cleanBefore
  have grown := tidy.grown_step cleanEvent
  refine ⟨(tidy.step cleanEvent).sorted, ?_, ?_⟩
  · intro token holds
    have added := grown.added holds
    refine ⟨?_, added⟩
    rcases added with before | ⟨session, -, own⟩
    · exact (held token before).resolve_left (empty.records token)
    · exact ⟨session, own⟩
  · intro operation
    have apart := tidy.apart_step operation
    constructor
    · intro noRegister token kind foreign
      apply apart.validate (sameSetting_step service _ operation noRegister)
      rintro ⟨session, own, claims, signed, rfl⟩
      exact foreign claims signed.said own
    · intro session kind outside
      rw [apart.now]
      exact apart.elsewhere session kind outside

/-- A user who has logged in twice logs out of the first session and presents the access token of
the second, which is valid as before. -/
theorem valid_behind_foreign_logout :
    ∃ (service : Service) (start : State) (credentials : Credentials) (secret access : Claims),
      let history : List Event := [.login credentials, .login credentials]
      let left : Event := .logout (service.codec.issue secret) (some (service.codec.issue access))
      let before := start.after service history
      let after := (before.step service left).2
      start.IsEmpty service ∧ (∀ happened ∈ history ++ [left], ¬ happened.WritesRecords) ∧
        secret.sid ≠ access.sid ∧
        (before.faultless.run service
          (service.validate (service.codec.issue access) .access)).1 = .ok access ∧
        (after.faultless.run service
          (service.validate (service.codec.issue access) .access)).1 = .ok access := by
  obtain ⟨service, start, credentials, row, user, ready, -⟩ := exists_isReady .customer
  obtain ⟨secret, made⟩ : ∃ secret, secret = Claims.forUser user
    (TokenName.ofCount (start.namesDrawn + 1)) (TokenName.ofCount (start.namesDrawn + 3)) .secret
      start.now 86460 := ⟨_, rfl⟩
  obtain ⟨access, made'⟩ : ∃ access, access = Claims.forUser user
    (TokenName.ofCount (start.namesDrawn + 4)) (TokenName.ofCount (start.namesDrawn + 5)) .access
      start.now 960 := ⟨_, rfl⟩
  let left : Event := .logout (service.codec.issue secret) (some (service.codec.issue access))
  have clean : ∀ happened ∈ [Event.login credentials, .login credentials] ++ [left],
      ¬ happened.WritesRecords := by
    simp [Event.WritesRecords, left]
  have different : secret.sid ≠ access.sid := by
    rw [made, made']
    change TokenName.ofCount (start.namesDrawn + 1) ≠ TokenName.ofCount (start.namesDrawn + 4)
    rw [ready.namesDrawn]
    decide
  obtain ⟨calls, sessions, -, first⟩ :=
    goes_login ready.whole.calm ready.byEmail ready.right ready.accessEnd ready.secretEnd rfl made
  let opened : State := { start with namesDrawn := start.namesDrawn + 3, sessions, calls }
  have whole : opened.IsWhole service {} := ready.whole.frame _ sessions calls
  obtain ⟨calls', sessions', -, second⟩ :=
    goes_login whole.calm ready.byEmail ready.right ready.accessEnd ready.secretEnd made' rfl
  let before : State := { start with
    namesDrawn := start.namesDrawn + 6, sessions := sessions', calls := calls' }
  have whole' : before.IsWhole service {} := ready.whole.frame _ sessions' calls'
  have ran : start.after service [.login credentials, .login credentials] = before := by
    have opens : (start.step service (.login credentials)).2 = opened := congrArg Prod.snd first.run
    have opens' : (opened.step service (.login credentials)).2 = before :=
      congrArg Prod.snd second.run
    rw [← opens', ← opens]
    rfl
  -- the access token of the second session is valid
  have decoded : service.codec.decodeAt (service.codec.issue access) .access start.now =
      .ok access :=
    made' ▸ Codec.decodeAt_issue_of_lt ready.early ready.running
  have settled : before.faultless.IsWhole service {} :=
    ⟨whole'.backend, ⟨rfl, rfl, rfl⟩, whole'.table⟩
  have ofUser : access.sub = user.id := made' ▸ rfl
  obtain ⟨calls, validates⟩ := settled.goes_validate rfl decoded (ofUser ▸ ready.byId)
    (made' ▸ matchesUser_forUser _ _ _ _ _ _)
  have valid := congrArg Prod.fst validates.run
  -- and the logout works on the first session only
  have foreign : ∀ other, Codec.said? (service.codec.issue access) = some other →
      ¬ before.worksOn service left other.sid := by
    intro other said
    obtain rfl := Option.some.inj ((service.codec.says_issue access).said.symm.trans said)
    rintro (⟨signed, read, same⟩ | ⟨secretToken, planned, -⟩)
    · have said' := (Codec.said?_of_verify? read).1
      obtain rfl := Option.some.inj ((service.codec.says_issue secret).said.symm.trans said')
      exact different same
    · exact whole'.calm.not_planned _ planned
  have isolated := sessions_isolated ready.isEmpty _ _ clean
  rw [ran] at isolated
  have same := (isolated.2.2 trivial).1 not_false _ .access foreign
  refine ⟨service, start, credentials, secret, access, ready.isEmpty, clean, different, ?_⟩
  rw [ran]
  exact ⟨valid, same.trans valid⟩

end State

end DualToken
