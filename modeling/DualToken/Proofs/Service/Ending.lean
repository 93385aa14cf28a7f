import DualToken.Proofs.Service.Minting
import DualToken.Proofs.Service.Reachable

/-!
# The end of a session

A logout records its secret token, the tokens that are current in the session, and the access token
that it is presented if it belongs to the session: nothing else, and nothing less
(`State.Goes.of_logout`). Along any history of calls in which no store fails and the clock is not
set back, the access token that was minted last for a session is recorded or current
(`Settled.after`), so a logout rejects it for ever (`logout_ends_session`).

An access token that a refresh has replaced is neither current nor revoked. It is accepted until its
own time is over (`rotated_outlives_logout`), which is not after that of the secret token.
-/

set_option autoImplicit false

namespace DualToken

open Operation Service

/-! ## What a logout records -/

/-- **A logout records its secret token, the tokens that are current in the session, and the token
that it is presented if it is of the session.** -/
theorem State.Goes.of_logout {service : Service} {state after : State} {secretToken : String}
    {presented : Option String} {done : Unit} (calm : state.IsCalm)
    (goes : state.Goes service (service.logout secretToken presented) done after) :
    ∃ claims, service.codec.decodeAt secretToken .secret state.now = .ok claims ∧
      ∀ other, after.Holds service other ↔ other = secretToken ∨
        (state.sessions.clear claims.sid).1.1 = some other ∨
        (state.sessions.clear claims.sid).1.2 = some other ∨
        (presented = some other ∧ service.isOfSession other claims state.now = true) ∨
        state.Holds service other := by
  obtain ⟨claims, verified, verifies, rest, -⟩ := goes.of_bind
  obtain ⟨decoded, looked⟩ := verifies.of_verify calm
  have calm₁ := verifies.calm calm
  obtain ⟨made, recorded, records, rest, -⟩ := rest.of_bind
  have calm₂ := records.calm calm₁
  obtain ⟨now, noted, reads, rest, -⟩ := rest.of_bind
  obtain ⟨rfl, rfl⟩ := reads.unique (State.goes_clock recorded)
  obtain ⟨tokens, cleared, clears, buries, -⟩ := rest.of_bind
  have calm₃ := clears.calm calm₂
  obtain ⟨rfl, rfl⟩ := clears.unique (State.goes_clearSession service claims.sid noted)
  -- up to here only the record has changed, and it by the secret token
  have sessions : noted.sessions = state.sessions := by
    have noting : (verified.perform service (.store (.record secretToken))).2.sessions =
        verified.sessions := (calm₁.store_frame _).1
    rw [records.of_callStore] at noting
    rw [noting, looked]
    exact (calm.store_frame _).1
  have now : noted.now = state.now := by
    have noting : (verified.perform service (.store (.record secretToken))).2.now =
        verified.now := (calm₁.store_frame _).2
    rw [records.of_callStore] at noting
    rw [noting, looked]
    exact (calm.store_frame _).2
  refine ⟨claims, decoded, fun other => ?_⟩
  have before : verified.Holds service other ↔ state.Holds service other := by
    rw [looked]
    exact calm.holds_iff nofun
  have middle : State.Holds service { noted with
      sessions := (noted.sessions.clear claims.sid).2 } other ↔ noted.Holds service other := Iff.rfl
  rw [buries.of_recordAll calm₃, middle, records.of_record calm₁, before, mem_sortedOnce,
    List.mem_filter, sessions, now]
  simp only [List.mem_append, Option.mem_toList, Option.filter_eq_some_iff, decide_eq_true_eq,
    ne_eq]
  by_cases same : other = secretToken
  · simp [same]
  · simp [same, or_assoc]

/-! ## Histories without failures -/

/-- What an event performs: the actions of its operation, if it is one. -/
def Event.trace (service : Service) (event : Event) (state : State) :
    List (Performed Action Action.Reply) :=
  match event with
  | .login credentials => state.trace service (service.login credentials)
  | .issuePair user => state.trace service (service.issuePair user)
  | .validate token kind => state.trace service (service.validate token kind)
  | .refresh secretToken => state.trace service (service.refresh secretToken)
  | .renew access secretToken => state.trace service (service.renew access secretToken)
  | .logout secretToken presented => state.trace service (service.logout secretToken presented)
  | .isRevoked token => state.trace service (Service.isRevoked token)
  | .listRevoked => state.trace service Service.listRevoked
  | .request arrived => state.trace service (Router.respond service arrived)
  | _ => []

/-- The event is a call of the service or a request, or it changes users, or it moves the clock but
does not set it back. -/
def Event.IsOrderly (state : State) : Event → Prop
  | .setClock time => state.now ≤ time
  | .advanceClock span => 0 ≤ span
  | .createUser _ | .editUser _ _ | .deleteUser _ => True
  | .login _ | .issuePair _ | .validate _ _ | .refresh _ | .renew _ _ | .logout _ _ | .isRevoked _
  | .listRevoked | .request _ => True
  | _ => False

namespace State

/-- What a history performs. -/
def log (service : Service) : List Event → State → List (Performed Action Action.Reply)
  | [], _ => []
  | event :: later, state =>
    event.trace service state ++ (state.step service event).2.log service later

/-- Every event of a history is orderly when it happens. -/
def IsOrderly (service : Service) : List Event → State → Prop
  | [], _ => True
  | event :: later, state =>
    event.IsOrderly state ∧ (state.step service event).2.IsOrderly service later

end State

/-- The access token that was made current last in each session is accounted for, and what was taken
out of the cache is recorded. -/
structure Settled (service : Service) (log : List (Performed Action Action.Reply)) (state : State) :
    Prop where
  /-- Nothing comes in between. -/
  calm : state.IsCalm
  /-- No access token is lost. -/
  accounted : Accounted service log state
  /-- What was taken out is recorded. -/
  restored : ∀ token ∈ log.filterMap taken?, state.Holds service token

namespace Settled

variable {service : Service} {log : List (Performed Action Action.Reply)} {state : State}

/-- In a calm state nothing has to be accounted for yet. -/
theorem start (service : Service) (calm : state.IsCalm) : Settled service [] state :=
  ⟨calm, fun _ _ _ none => absurd none nofun, fun _ taken => absurd taken List.not_mem_nil⟩

/-- **Between two operations, the access token that was minted last for a session is recorded or
current, unless the session is over.** -/
theorem current (settled : Settled service log state) {session token : String} {expiresAt : Int64}
    (last : lastMinted? session log = some (token, expiresAt)) :
    state.Holds service token ∨ state.sessions.Keeps session .access token expiresAt.toInt ∨
      expiresAt.toInt ≤ state.now := by
  rcases settled.accounted session token expiresAt last with holds | keeps | late | taken
  · exact .inl holds
  · exact .inr (.inl keeps)
  · exact .inr (.inr late)
  · exact .inl (settled.restored token taken)

/-- An operation that restores what it takes out leaves things settled. -/
theorem run (settled : Settled service log state) {α : Type} {operation : Operation α}
    (restores : Restores service operation state)
    (succeed : ∀ performed ∈ state.trace service operation,
      performed.action.Succeeds performed.reply) :
    Settled service (log ++ state.trace service operation) (state.run service operation).2 := by
  refine ⟨settled.calm.run operation, settled.accounted.run operation.run settled.calm, ?_⟩
  intro token taken
  rw [List.filterMap_append, List.mem_append] at taken
  rcases taken with taken | taken
  · exact (settled.restored token taken).run operation settled.calm
  · exact restores succeed token taken

/-- Changing users and moving the clock on leaves things settled. -/
theorem frame (settled : Settled service log state) (directory : Directory) {now : Int}
    (onward : state.now ≤ now) :
    Settled service (log ++ []) { state with directory, now } := by
  rw [List.append_nil]
  refine ⟨⟨settled.calm.revocationPlan, settled.calm.userPlan, settled.calm.rivals⟩, ?_,
    settled.restored⟩
  intro session token expiresAt last
  rcases settled.accounted session token expiresAt last with holds | keeps | late | taken
  · exact .inl holds
  · exact .inr (.inl keeps)
  · exact .inr (.inr (.inl (Int.le_trans late onward)))
  · exact .inr (.inr (.inr taken))

/-- Every orderly event in which no store fails leaves things settled. -/
theorem step (settled : Settled service log state) (event : Event)
    (orderly : event.IsOrderly state)
    (succeed : ∀ performed ∈ event.trace service state,
      performed.action.Succeeds performed.reply) :
    Settled service (log ++ event.trace service state) (state.step service event).2 := by
  have calm := settled.calm
  have restores := compositional_restores service
  have changed : ∀ change, ∃ directory,
      (state.changeUsers change).2 = { state with directory } := by
    intro change
    rw [State.changeUsers]
    split
    · exact ⟨_, rfl⟩
    · split
      · exact ⟨_, rfl⟩
      · exact ⟨_, rfl⟩
  cases event with
  | login credentials => exact settled.run (restores.login credentials state calm) succeed
  | issuePair user => exact settled.run (restores_issuePair calm user) succeed
  | validate token kind => exact settled.run (restores.validate token kind state calm) succeed
  | refresh secretToken => exact settled.run (restores.refresh secretToken state calm) succeed
  | renew access secretToken =>
    exact settled.run (restores.renew access secretToken state calm) succeed
  | logout secretToken presented =>
    exact settled.run (restores.logout secretToken presented state calm) succeed
  | isRevoked token => exact settled.run (restores_callStore _ state) succeed
  | listRevoked => exact settled.run (restores.listRevoked state calm) succeed
  | request request => exact settled.run (restores.respond request state calm) succeed
  | setClock time => exact settled.frame state.directory orderly
  | advanceClock span =>
    exact settled.frame state.directory (Int.le_add_of_nonneg_right orderly)
  | createUser form => exact settled.frame _ (Int.le_refl _)
  | editUser id change =>
    obtain ⟨directory, same⟩ := changed fun table => table.edit id change
    have kept := settled.frame directory (Int.le_refl _)
    rwa [← same] at kept
  | deleteUser id =>
    obtain ⟨directory, same⟩ := changed fun table => .ok (table.delete id)
    have kept := settled.frame directory (Int.le_refl _)
    rwa [← same] at kept
  | _ => exact absurd orderly id

/-- **An orderly history in which no store fails leaves things settled.** -/
theorem after (settled : Settled service log state) (history : List Event)
    (orderly : state.IsOrderly service history)
    (succeed : ∀ performed ∈ state.log service history,
      performed.action.Succeeds performed.reply) :
    Settled service (log ++ state.log service history) (state.after service history) := by
  induction history generalizing log state with
  | nil =>
    rw [State.log, List.append_nil]
    exact settled
  | cons event later ih =>
    obtain ⟨here, rest⟩ := orderly
    rw [State.log, ← List.append_assoc]
    refine ih (settled.step event here fun performed member => ?_) rest fun performed member => ?_
    · exact succeed performed (List.mem_append_left _ member)
    · exact succeed performed (List.mem_append_right _ member)

end Settled

/-! ## A session with a refresh -/

/-- A user logs in, refreshes the access token and logs out. The access token of the login is still
accepted then. -/
theorem State.IsWhole.goes_session {service : Service} {state : State}
    (whole : state.IsWhole service {}) {credentials : Credentials} {user : User}
    {accessEnd secretEnd : Int}
    (found : state.directory.userByEmail credentials.email = .ok (some user))
    (found' : state.directory.userById user.id = .ok (some user))
    (right : Directory.comparePasswords user.passwordHash credentials.password = true)
    (within : Time.add? state.now service.accessLifetime = some accessEnd)
    (within' : Time.add? state.now service.secretLifetime = some secretEnd)
    (early : 0 ≤ state.now) (running : state.now < (Int64.ofInt accessEnd).toInt)
    (running' : state.now < (Int64.ofInt secretEnd).toInt)
    (fresh : TokenName.ofCount (state.namesDrawn + 2) ≠ TokenName.ofCount (state.namesDrawn + 4)) :
    ∃ access secret renewed claims, ∃ opened refreshed ended last : State,
      state.Goes service (service.login credentials) ⟨access, secret⟩ opened ∧
      opened.Goes service (service.refresh secret) renewed refreshed ∧
      refreshed.Goes service (service.logout secret none) () ended ∧
      ended.Goes service (service.validate access .access) claims last := by
  obtain ⟨access, made⟩ : ∃ access, access = Claims.forUser user
    (TokenName.ofCount (state.namesDrawn + 1)) (TokenName.ofCount (state.namesDrawn + 2)) .access
      state.now accessEnd := ⟨_, rfl⟩
  obtain ⟨secret, made'⟩ : ∃ secret, secret = Claims.forUser user
    (TokenName.ofCount (state.namesDrawn + 1)) (TokenName.ofCount (state.namesDrawn + 3)) .secret
      state.now secretEnd := ⟨_, rfl⟩
  obtain ⟨calls, sessions, keeps, opens⟩ :=
    State.goes_login whole.calm found right within within' made made'
  have isAccess : access.kind = .access := made ▸ rfl
  have isSecret : secret.kind = .secret := made' ▸ rfl
  have ofUser : access.sub = user.id := made ▸ rfl
  have ofUser' : secret.sub = user.id := made' ▸ rfl
  have matched : access.matchesUser user = true := made ▸ State.matchesUser_forUser ..
  have matched' : secret.matchesUser user = true := made' ▸ State.matchesUser_forUser ..
  have decoded : service.codec.decodeAt (service.codec.issue access) .access state.now =
      .ok access := isAccess ▸ Codec.decodeAt_issue_of_lt early (made ▸ running)
  have decoded' : service.codec.decodeAt (service.codec.issue secret) .secret state.now =
      .ok secret := isSecret ▸ Codec.decodeAt_issue_of_lt early (made' ▸ running')
  -- the refresh puts another access token in the place of the first
  obtain ⟨renewed, minted⟩ : ∃ renewed, service.codec.issue (secret.reissue
    (TokenName.ofCount (state.namesDrawn + 4)) .access state.now accessEnd) = renewed := ⟨_, rfl⟩
  have other : service.codec.issue access ≠ renewed := by
    intro same
    have claims := service.codec.issue_injective (same.trans minted.symm)
    rw [made] at claims
    exact fresh (congrArg Claims.jti claims)
  have other' : service.codec.issue access ≠ service.codec.issue secret := by
    intro same
    obtain rfl := service.codec.issue_injective same
    exact absurd (isAccess.symm.trans isSecret) nofun
  have opened := whole.frame (state.namesDrawn + 3) sessions calls
  obtain ⟨calls', refreshes⟩ :=
    opened.goes_refresh rfl decoded' (ofUser' ▸ found') matched' within minted
  have refreshed := whole.frame (state.namesDrawn + 4)
    (sessions.set secret.sid .access renewed secret.exp state.now) calls'
  obtain ⟨calls'', table, contains, ends⟩ := refreshed.goes_logout rfl decoded'
  have absent : table.contains (service.codec.issue access) = false := by
    refine Bool.eq_false_iff.2 fun recorded => ?_
    have different : TokenKind.secret ≠ .access := nofun
    have current : ((sessions.set secret.sid .access renewed secret.exp state.now).clear
        secret.sid).1.1 = some renewed := (SessionCache.keeps_set_self _ _).clear_access
    have current' : ((sessions.set secret.sid .access renewed secret.exp state.now).clear
        secret.sid).1.2 = some (service.codec.issue secret) :=
      (keeps.set_of_ne_kind different _ _).clear_secret
    rcases (contains _).1 recorded with same | member | none
    · exact other' same
    · rw [current, current'] at member
      rcases List.mem_pair.1 member with same | same
      · exact other same
      · exact other' same
    · exact absurd none nofun
  have ended : State.IsWhole service { state with
      calls := calls''
      namesDrawn := state.namesDrawn + 4
      revocations := { state.revocations with table := some table }
      sessions := ((sessions.set secret.sid .access renewed secret.exp state.now).clear
        secret.sid).2 } table := whole.withTable _ _ _ _
  obtain ⟨last, validates⟩ := ended.goes_validate absent decoded (ofUser ▸ found') matched
  exact ⟨_, _, _, _, _, _, _, _, opens, refreshes, ends, validates⟩

/-- Some user of some service logs in, refreshes the access token and logs out, and the first access
token is still accepted then. -/
theorem exists_session :
    ∃ (service : Service) (start opened refreshed ended last : State) (credentials : Credentials)
      (access secret renewed : String) (claims : Claims),
      start.IsCalm ∧
      start.Goes service (service.login credentials) ⟨access, secret⟩ opened ∧
      opened.Goes service (service.refresh secret) renewed refreshed ∧
      refreshed.Goes service (service.logout secret none) () ended ∧
      ended.Goes service (service.validate access .access) claims last := by
  obtain ⟨service, start, credentials, row, user, ready, -⟩ := State.exists_isReady .customer
  have fresh :
      TokenName.ofCount (start.namesDrawn + 2) ≠ TokenName.ofCount (start.namesDrawn + 4) := by
    rw [ready.namesDrawn]
    decide
  obtain ⟨access, secret, renewed, claims, opened, refreshed, ended, last, session⟩ :=
    ready.whole.goes_session ready.byEmail ready.byId ready.right ready.accessEnd ready.secretEnd
      ready.early ready.running ready.running' fresh
  exact ⟨service, start, opened, refreshed, ended, last, credentials, access, secret, renewed,
    claims, ready.whole.calm, session⟩

/-! ## The end of a session -/

/-- **A logout ends the session.** After any orderly history in which no store fails, a logout that
succeeds has its secret token turned away for ever, and with it the access token that it was
presented if it is of the session, and the access token that was minted last for the session, unless
the secret token that minted it has ended. What is minted last is what a login hands out beside the
secret token, or a refresh or a renewal for it. No access token that a refresh or a renewal hands
out for the secret token is accepted once the time of the secret token is over. -/
theorem logout_ends_session {service : Service} {start after : State} (calm : start.IsCalm)
    (history : List Event) (orderly : start.IsOrderly service history)
    (succeed : ∀ performed ∈ start.log service history,
      performed.action.Succeeds performed.reply)
    {secretToken : String} {presented : Option String}
    (left : (start.after service history).Goes service
      (service.logout secretToken presented) () after) :
    ∃ claims, service.codec.decodeAt secretToken .secret (start.after service history).now =
        .ok claims ∧
      after.Rejects service secretToken ∧
      (∀ token, presented = some token →
        service.isOfSession token claims (start.after service history).now = true →
          after.Rejects service token) ∧
      (∀ token expiresAt,
        lastMinted? claims.sid (start.log service history) = some (token, expiresAt) →
          (start.after service history).now < expiresAt.toInt → after.Rejects service token) ∧
      (∀ state credentials access later,
        State.Goes service (service.login credentials) state ⟨access, secretToken⟩ later →
          lastMinted? claims.sid (state.trace service (service.login credentials)) =
            some (access, claims.exp)) ∧
      ∀ state access later, ∀ operation : Operation String,
        (operation = service.refresh secretToken ∨
          ∃ current, operation = service.renew current secretToken) →
        State.Goes service operation state access later →
          lastMinted? claims.sid (state.trace service operation) = some (access, claims.exp) ∧
            ∀ last : State, last.IsCalm → claims.exp.toInt ≤ last.now → ∀ kind accepted,
              (last.run service (service.validate access kind)).1 ≠ .ok accepted := by
  have settled := (Settled.start service calm).after history orderly succeed
  rw [List.nil_append] at settled
  obtain ⟨claims, decoded, holds⟩ := left.of_logout settled.calm
  have said := Codec.says_of_decodeAt decoded
  refine ⟨claims, decoded, ?_, fun token shown own => ?_, fun token expiresAt last within => ?_,
    fun state credentials access later goes => ?_,
    fun state access later operation mints goes => ?_⟩
  · exact ((holds secretToken).2 (.inl rfl)).rejects
  · exact ((holds token).2 (.inr (.inr (.inr (.inl ⟨shown, own⟩))))).rejects
  · refine State.Holds.rejects ((holds token).2 ?_)
    rcases settled.current last with recorded | keeps | late
    · exact .inr (.inr (.inr (.inr recorded)))
    · exact .inr (.inl keeps.clear_access)
    · exact absurd late (Int.not_le.2 within)
  · obtain ⟨secret, said', last⟩ := goes.of_login
    rwa [said'.unique said] at last
  · obtain ⟨last, minted, said', within⟩ := goes.of_minting said mints
    refine ⟨last, fun state calm late kind accepted => ?_⟩
    exact calm.not_accepted said' (Int.le_trans (Int64.le_iff_toInt_le.1 within) late) kind accepted

/-- A logout after a login and a refresh rejects the secret token and the access token of the
refresh. -/
theorem logged_out_after_refresh :
    ∃ (service : Service) (start opened refreshed ended : State) (credentials : Credentials)
      (access secret renewed : String),
      start.Goes service (service.login credentials) ⟨access, secret⟩ opened ∧
      opened.Goes service (service.refresh secret) renewed refreshed ∧
      refreshed.Goes service (service.logout secret none) () ended ∧
      ended.Rejects service secret ∧ ended.Rejects service renewed := by
  obtain ⟨service, start, opened, refreshed, ended, -, credentials, access, secret, renewed, -,
    calm, opens, refreshes, ends, -⟩ := exists_session
  have first : (start.step service (.login credentials)).2 = opened := congrArg Prod.snd opens.run
  have second : (opened.step service (.refresh secret)).2 = refreshed :=
    congrArg Prod.snd refreshes.run
  have later : start.after service [.login credentials, .refresh secret] = refreshed := by
    rw [← second, ← first]
    rfl
  have log : start.log service [.login credentials, .refresh secret] =
      start.trace service (service.login credentials) ++
        opened.trace service (service.refresh secret) := by
    simp only [State.log, Event.trace, first, List.append_nil]
  obtain ⟨claims, decoded, rejected, -, lastRejected, -, minting⟩ := logout_ends_session calm
    [.login credentials, .refresh secret] ⟨trivial, trivial, trivial⟩
    (fun performed member => by
      rw [log, List.mem_append] at member
      rcases member with member | member
      · exact opens.succeed performed member
      · exact refreshes.succeed performed member)
    (later.symm ▸ ends)
  have running := (Codec.decodeAt_eq_ok_iff.1 decoded).2.2
  obtain ⟨last, -⟩ := minting opened renewed refreshed _ (.inl rfl) refreshes
  refine ⟨service, start, opened, refreshed, ended, credentials, access, secret, renewed, opens,
    refreshes, ends, rejected, lastRejected renewed claims.exp ?_ running⟩
  rw [log, lastMinted?_append, last]
  rfl

/-- It is not so that a logout rejects every access token of its session: the access token that a
login handed out, once a refresh has replaced it, is still accepted. -/
theorem rotated_outlives_logout :
    ¬ ∀ (service : Service) (start opened after : State) (credentials : Credentials)
      (pair : TokenPair) (history : List Event) (presented : Option String),
      start.IsCalm → start.Goes service (service.login credentials) pair opened →
      opened.IsOrderly service history →
      (∀ performed ∈ opened.log service history, performed.action.Succeeds performed.reply) →
      (opened.after service history).Goes service (service.logout pair.secret presented) () after →
      after.Rejects service pair.access := by
  intro claimed
  obtain ⟨service, start, opened, refreshed, ended, last, credentials, access, secret, renewed,
    claims, calm, opens, refreshes, ends, validates⟩ := exists_session
  have later : opened.after service [.refresh secret] = refreshed := congrArg Prod.snd refreshes.run
  have log : opened.log service [.refresh secret] =
      opened.trace service (service.refresh secret) := List.append_nil _
  have rejects := claimed service start opened ended credentials ⟨access, secret⟩ [.refresh secret]
    none calm opens ⟨trivial, trivial⟩ (log.symm ▸ refreshes.succeed) (later.symm ▸ ends)
  obtain ⟨error, refused, -⟩ := (rejects ended .refl .access).refused
  exact absurd (refused.symm.trans (congrArg Prod.fst validates.run)) nofun

end DualToken
