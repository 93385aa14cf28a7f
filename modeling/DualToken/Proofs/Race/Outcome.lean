import DualToken.Proofs.Race.Capture
import DualToken.Proofs.Race.Standing

/-!
# A refresh that races a logout

Exactly one refresh and one logout are given the same secret token, and any number of other calls
are under way that are given none of its session. However their turns are mixed, the contest stands
as it should after each of them (`Racing.step`), so when both have ended no token of theirs is left
alive.
-/

set_option autoImplicit false

namespace DualToken

namespace Contest

variable {service : Service} {contest : Contest service}

/-- What is performed in the race is as it should be: the stores succeed, other calls open other
sessions, and when the logout reads the clock the presented token is not expired. -/
structure Fits (contest : Contest service) (shown : String → Prop)
    (entry : Nat × Performed Action Action.Reply) : Prop where
  /-- No store fails. -/
  succeeds : entry.2.action.Succeeds entry.2.reply
  /-- The name of the session is not drawn by others. -/
  apart : 2 ≤ entry.1 → ∀ name : String, entry.2 = ⟨.drawName, name⟩ → name ≠ contest.session
  /-- The presented token is of the session and not expired. -/
  owns : entry.1 = 1 → ∀ now : Int, entry.2 = ⟨.clock, now⟩ → ∀ token, shown token →
    contest.presented = some token ∧ contest.Owns token now

/-- A race of a refresh, a logout, and others, at its stages. -/
structure Racing (contest : Contest service) (shown : String → Prop) (minting : Minting)
    (leaving : Leaving) (race : Race) : Prop where
  /-- The cache is sorted, and stays so. -/
  sorted : race.Sorted service
  /-- Nothing comes in between. -/
  calm : race.state.IsCalm
  /-- The time of the secret token is not over. -/
  running : race.state.now < contest.time
  /-- What is left of the refresh. -/
  minter : ∃ course, race.courses[0]? = some course ∧ contest.Leaves minting course
  /-- What is left of the logout. -/
  leaver : race.courses[1]? = some (contest.remainder leaving)
  /-- What is left of the others does nothing on the session. -/
  others : ∀ position, 2 ≤ position → ∀ course, race.courses[position]? = some course →
    course.Obeys (Deed service (· ≠ contest.session)) (Relied service (· ≠ contest.session))
      fun _ => True
  standing : contest.Standing shown minting leaving race.state
  /-- The token that the refresh has made current. -/
  noted : ∀ session kind token expiresAt reply,
    (0, ⟨.setSession session kind token expiresAt, reply⟩) ∈ race.performed →
      minting.token? = some token

namespace Racing

variable {shown : String → Prop} {minting : Minting} {leaving : Leaving} {race : Race}

/-- Setting the clock, but not to the time of the secret token or behind it. -/
theorem clock (racing : contest.Racing shown minting leaving race) {time : Int}
    (before : time < contest.time) :
    contest.Racing shown minting leaving (race.step service (.clock time)) where
  sorted := racing.sorted.step (.clock time)
  calm := ⟨racing.calm.revocationPlan, racing.calm.userPlan, racing.calm.rivals⟩
  running := before
  minter := racing.minter
  leaver := racing.leaver
  others := racing.others
  standing := racing.standing.spared ⟨Iff.rfl, fun _ => id, fun _ => id, id⟩
  noted := racing.noted

/-- A turn of the refresh. -/
theorem minter_turn (racing : contest.Racing shown minting leaving race) {action : Action}
    {next : action.Reply → Course} (found : race.courses[0]? = some (.act action next))
    (fits : contest.Fits shown (0, ⟨action, (race.state.perform service action).1⟩)) :
    ∃ minting', contest.Racing shown minting' leaving (race.step service (.turn 0)) := by
  obtain ⟨course, same, left⟩ := racing.minter
  obtain rfl := Option.some.inj (found.symm.trans same)
  obtain ⟨minting', left', standing, kept, made⟩ :=
    racing.standing.minter_turn racing.calm racing.running left fits.succeeds
  have sorted := racing.sorted.step (.turn 0)
  rw [Race.step_turn found] at sorted ⊢
  have within : 0 < race.courses.length := (List.getElem?_eq_some_iff.1 found).1
  refine ⟨minting', sorted, racing.calm.perform action, ?_, ⟨_, ?_, left'⟩, ?_, ?_, standing, ?_⟩
  · exact (racing.calm.now_perform action).symm ▸ racing.running
  · exact List.getElem?_set_self within
  · exact (List.getElem?_set_ne (by decide)).trans racing.leaver
  · intro position later course at_
    rw [List.getElem?_set_ne (by omega)] at at_
    exact racing.others position later course at_
  · intro session kind token expiresAt reply member
    rcases List.mem_cons.1 member with same | member
    · cases same
      exact made session kind token expiresAt rfl
    · exact kept token (racing.noted session kind token expiresAt reply member)

/-- A turn of the logout. -/
theorem leaver_turn (racing : contest.Racing shown minting leaving race) {action : Action}
    {next : action.Reply → Course} (found : race.courses[1]? = some (.act action next))
    (fits : contest.Fits shown (1, ⟨action, (race.state.perform service action).1⟩))
    (foreign : ∀ token, shown token → token ≠ contest.secretToken) :
    ∃ leaving', contest.Racing shown minting leaving' (race.step service (.turn 1)) ∧
      leaving'.turnsLeft < leaving.turnsLeft := by
  have left : contest.remainder leaving = .act action next :=
    Option.some.inj (racing.leaver.symm.trans found)
  have owns : action = .clock → ∀ token, shown token →
      contest.presented = some token ∧ contest.Owns token race.state.now := by
    rintro rfl
    refine fits.owns rfl race.state.now ?_
    rw [State.perform_clock]
  obtain ⟨leaving', left', standing, nearer⟩ :=
    racing.standing.leaver_turn racing.calm racing.running left fits.succeeds owns foreign
  have sorted := racing.sorted.step (.turn 1)
  rw [Race.step_turn found] at sorted ⊢
  have within : 1 < race.courses.length := (List.getElem?_eq_some_iff.1 found).1
  obtain ⟨course, first, minter⟩ := racing.minter
  refine ⟨leaving', ⟨sorted, racing.calm.perform action, ?_, ⟨course, ?_, minter⟩, ?_, ?_, standing,
    ?_⟩, nearer⟩
  · exact (racing.calm.now_perform action).symm ▸ racing.running
  · exact (List.getElem?_set_ne (by decide)).trans first
  · exact (List.getElem?_set_self within).trans (congrArg some left')
  · intro position later course at_
    rw [List.getElem?_set_ne (by omega)] at at_
    exact racing.others position later course at_
  · intro session kind token expiresAt reply member
    rcases List.mem_cons.1 member with same | member
    · exact absurd (congrArg Prod.fst same) Nat.zero_ne_one
    · exact racing.noted session kind token expiresAt reply member

/-- A turn of any other call. -/
theorem other_turn (racing : contest.Racing shown minting leaving race) {position : Nat}
    (later : 2 ≤ position) {action : Action} {next : action.Reply → Course}
    (found : race.courses[position]? = some (.act action next))
    (fits : contest.Fits shown (position, ⟨action, (race.state.perform service action).1⟩)) :
    contest.Racing shown minting leaving (race.step service (.turn position)) := by
  obtain ⟨deed, rest⟩ := racing.others position later _ found
  have spared : contest.Spared race.state (race.state.perform service action).2 :=
    .of_deed racing.calm racing.running deed
  have relied : Relied service (· ≠ contest.session) action
      (race.state.perform service action).1 := by
    cases deed with
    | name =>
      refine fits.apart later _ ?_
      rfl
    | clear own =>
      rw [State.perform_clearSession]
      exact fun token member => racing.sorted.state.ofSession member
    | _ => trivial
  have sorted := racing.sorted.step (.turn position)
  rw [Race.step_turn found] at sorted ⊢
  obtain ⟨course, first, minter⟩ := racing.minter
  have within : position < race.courses.length := (List.getElem?_eq_some_iff.1 found).1
  refine ⟨sorted, racing.calm.perform action, ?_, ⟨course, ?_, minter⟩, ?_, ?_,
    racing.standing.spared spared, ?_⟩
  · exact (racing.calm.now_perform action).symm ▸ racing.running
  · exact (List.getElem?_set_ne (by omega)).trans first
  · exact (List.getElem?_set_ne (by omega)).trans racing.leaver
  · intro other after course at_
    by_cases same : position = other
    · subst same
      rw [List.getElem?_set_self within] at at_
      obtain rfl := Option.some.inj at_
      exact rest _ relied
    · rw [List.getElem?_set_ne same] at at_
      exact racing.others other after course at_
  · intro session kind token expiresAt reply member
    rcases List.mem_cons.1 member with same | member
    · exact absurd (congrArg Prod.fst same) (by dsimp only; omega)
    · exact racing.noted session kind token expiresAt reply member

/-- **Every moment of the race keeps the contest as it should stand, and every turn of the logout
brings the logout nearer to its end.** -/
theorem step (racing : contest.Racing shown minting leaving race) (moment : Moment)
    (early : ∀ time, moment = .clock time → time < contest.time)
    (fits : ∀ entry ∈ (race.step service moment).performed, contest.Fits shown entry)
    (foreign : ∀ token, shown token → token ≠ contest.secretToken) :
    ∃ minting' leaving', contest.Racing shown minting' leaving' (race.step service moment) ∧
      leaving'.turnsLeft ≤ leaving.turnsLeft - if moment = .turn 1 then 1 else 0 := by
  cases moment with
  | clock time => exact ⟨minting, leaving, racing.clock (early time rfl), by simp⟩
  | turn position =>
    rcases Race.step_turn_cases service race position with
      ⟨action, next, found⟩ | ⟨same, ended⟩
    · rw [Race.step_turn found] at fits
      have fit := fits _ List.mem_cons_self
      match position with
      | 0 =>
        obtain ⟨minting', racing'⟩ := racing.minter_turn found fit
        exact ⟨minting', leaving, racing', by simp⟩
      | 1 =>
        obtain ⟨leaving', racing', nearer⟩ := racing.leaver_turn found fit foreign
        exact ⟨minting, leaving', racing', by simpa using Nat.le_sub_one_of_lt nearer⟩
      | position + 2 =>
        have later : 2 ≤ position + 2 := Nat.le_add_left 2 position
        exact ⟨minting, leaving, racing.other_turn later found fit, by simp⟩
    · rw [same]
      refine ⟨minting, leaving, racing, ?_⟩
      by_cases own : position = 1
      · subst own
        obtain ⟨result, done⟩ := ended _ racing.leaver
        rw [(Leaving.eq_of_done done).1]
        exact Nat.zero_le _
      · simp [own]

/-- A race goes on as it should. -/
theorem run (racing : contest.Racing shown minting leaving race) (schedule : List Moment)
    (early : ∀ time, .clock time ∈ schedule → time < contest.time)
    (fits : ∀ entry ∈ (race.run service schedule).performed, contest.Fits shown entry)
    (foreign : ∀ token, shown token → token ≠ contest.secretToken) :
    ∃ minting' leaving', contest.Racing shown minting' leaving' (race.run service schedule) ∧
      leaving'.turnsLeft ≤ leaving.turnsLeft - schedule.count (.turn 1) := by
  induction schedule generalizing minting leaving race with
  | nil => exact ⟨minting, leaving, racing, Nat.le_refl _⟩
  | cons moment later ih =>
    obtain ⟨minting', leaving', racing', nearer⟩ := racing.step moment
      (fun time same => early time (same ▸ List.mem_cons_self))
      (fun entry member => fits entry (Race.performed_run _ later member)) foreign
    obtain ⟨minting'', leaving'', racing'', nearest⟩ := ih racing'
      (fun time member => early time (List.mem_cons_of_mem moment member)) fits
    refine ⟨minting'', leaving'', racing'', ?_⟩
    have counted : (moment :: later).count (.turn 1) =
        later.count (.turn 1) + if moment = .turn 1 then 1 else 0 := by
      rw [List.count_cons]
      simp
    omega

end Racing

/-! ## The start and the end -/

/-- At its start the race is as it should be. -/
theorem racing_start {state : State} (shown : String → Prop) (sorted : state.IsSorted service)
    (calm : state.IsCalm) (unrecorded : ¬ state.Holds service contest.secretToken)
    (running : state.now < contest.time) {minter : Call}
    (mints : minter = .refresh contest.secretToken ∨
      ∃ access, minter = .renew access contest.secretToken)
    {others : List Call} (spare : ∀ call ∈ others, call.Spares service contest.session) :
    contest.Racing shown .preparing .asking (Race.start service
      (minter :: .logout contest.secretToken contest.presented :: others) state) where
  sorted := Race.Sorted.start sorted _
  calm := calm
  running := running
  minter := by
    refine ⟨_, rfl, ?_⟩
    rcases mints with rfl | ⟨access, rfl⟩
    · exact prepares_refresh
    · exact prepares_renew access
  leaver := rfl
  others := by
    intro position later course found
    obtain ⟨position, rfl⟩ := Nat.exists_eq_add_of_le' later
    have listed : course ∈ others.map (·.course service) := List.mem_of_getElem? found
    obtain ⟨call, member, rfl⟩ := List.mem_map.1 listed
    exact Program.Obeys.mono (spare call member).does fun _ _ => trivial
  standing :=
    { recorded := ⟨fun holds => unrecorded holds, nofun⟩
      mints := nofun
      kept := nofun
      caught := nofun
      buried := nofun
      gone := fun cleared _ => absurd rfl cleared
      minded := fun _ _ => trivial }
  noted := nofun

section Ends

variable {shown : String → Prop} {minting : Minting} {leaving : Leaving} {race : Race}

/-- A call that has ended has nothing left to do. -/
theorem course_of_result? {position : Nat} {course : Course}
    {result : Except Failure (Option String)} (found : race.courses[position]? = some course)
    (ended : race.result? position = some result) : course = .done result := by
  rw [Race.result?, found, Option.bind_some] at ended
  cases course with
  | done other => exact congrArg Program.done (Option.some.inj ended)
  | act action next => exact absurd ended nofun

/-- A logout that has ended has recorded everything. -/
theorem Racing.leaver_ended (racing : contest.Racing shown minting leaving race)
    {result : Except Failure (Option String)} (ended : race.result? 1 = some result) :
    leaving = .burying [] ∧ result = .ok none :=
  Leaving.eq_of_done (course_of_result? racing.leaver ended)

/-- A refresh that has ended has failed without a new token, or refused and buried it, or handed it
out. -/
theorem Racing.minter_ended (racing : contest.Racing shown minting leaving race)
    {outcome : Except Failure (Option String)} (ended : race.result? 0 = some outcome) :
    (minting = .preparing ∧ ∃ failure, outcome = .error failure) ∨
      (∃ token, minting = .buried token ∧ outcome = .error (.refused .blacklisted)) ∨
      ∃ token, minting = .returned token ∧ outcome = .ok (some token) := by
  obtain ⟨course, found, left⟩ := racing.minter
  obtain rfl := course_of_result? found ended
  cases minting with
  | preparing =>
    rcases left with ⟨failure, same⟩ | ⟨token, -, same⟩
    · cases same
      exact .inl ⟨rfl, failure, rfl⟩
    · exact absurd same nofun
  | checking token => exact absurd (left.trans (contest.run_check token)) nofun
  | dropping token => exact absurd left nofun
  | burying token => exact absurd (left.trans (run_bury token)) nofun
  | buried token =>
    cases left
    exact .inr (.inl ⟨token, rfl, rfl⟩)
  | returned token =>
    cases left
    exact .inr (.inr ⟨token, rfl, rfl⟩)

end Ends

/-- The refresh has made the token current in the race. -/
def Made (race : Race) (token : String) : Prop :=
  ∃ session kind expiresAt reply,
    (0, ⟨.setSession session kind token expiresAt, reply⟩) ∈ race.performed

/-- The token is presented to the logout, and an access token of the session and the user that was
not expired whenever the logout has read the clock in the race. -/
def Shows (contest : Contest service) (race : Race) (token : String) : Prop :=
  contest.presented = some token ∧ ∃ claims : Claims,
    Codec.verify? service.codec.accessKey token = some claims ∧ claims.kind = .access ∧
      claims.sid = contest.session ∧ claims.sub = contest.claims.sub ∧
      ∀ now : Int, (1, ⟨.clock, now⟩) ∈ race.performed → now < claims.exp.toInt

theorem Shows.ne {race : Race} {token : String} (shows : contest.Shows race token) :
    token ≠ contest.secretToken := by
  obtain ⟨-, claims, read, isAccess, -⟩ := shows
  refine ne_of_says (Codec.says_of_verify? ?_) isAccess
  rw [isAccess]
  exact read

/-- What is noted in the race fits. -/
theorem fits_of_mem {race : Race}
    (succeed : ∀ entry ∈ race.performed, entry.2.action.Succeeds entry.2.reply)
    (apart : ∀ position (name : String), 2 ≤ position →
      (position, ⟨.drawName, name⟩) ∈ race.performed → name ≠ contest.session)
    {entry : Nat × Performed Action Action.Reply} (member : entry ∈ race.performed) :
    contest.Fits (contest.Shows race) entry where
  succeeds := succeed entry member
  apart later name same := by
    obtain ⟨position, performed⟩ := entry
    subst same
    exact apart position name later member
  owns own now same token shows := by
    obtain ⟨position, performed⟩ := entry
    subst same own
    obtain ⟨presented, claims, read, isAccess, sid, sub, running⟩ := shows
    exact ⟨presented, claims, read, isAccess, sid, sub, running now member⟩

end Contest

/-- **A refresh that races a logout leaves no live token.** However the turns of the two and of any
calls that spare the session are mixed, the logout succeeds; and when both have ended, the secret
token is recorded, the new token and the presented token are turned away for ever, and the cache has
no token of the session. -/
theorem refresh_racing_logout {service : Service} (contest : Contest service) {state : State}
    (reachable : state.IsReachable service) (calm : state.IsCalm)
    (unrecorded : ¬ state.Holds service contest.secretToken) (running : state.now < contest.time)
    {minter : Call} (mints : minter = .refresh contest.secretToken ∨
      ∃ access, minter = .renew access contest.secretToken)
    {others : List Call} (spare : ∀ call ∈ others, call.Spares service contest.session)
    (schedule : List Moment) (early : ∀ time, .clock time ∈ schedule → time < contest.time)
    {ends : Race} (run : ends = (Race.start service
      (minter :: .logout contest.secretToken contest.presented :: others) state).run service
        schedule)
    (succeed : ∀ entry ∈ ends.performed, entry.2.action.Succeeds entry.2.reply)
    (apart : ∀ position (name : String), 2 ≤ position →
      (position, ⟨.drawName, name⟩) ∈ ends.performed → name ≠ contest.session) :
    (∀ result, ends.result? 1 = some result → result = .ok none) ∧
      (8 ≤ schedule.count (.turn 1) → ends.result? 1 = some (.ok none)) ∧
      ∀ outcome, ends.result? 0 = some outcome → ends.result? 1 ≠ none →
        ends.state.Holds service contest.secretToken ∧
        (∀ token, Contest.Made ends token →
          outcome = .ok (some token) ∨ outcome = .error (.refused .blacklisted)) ∧
        (∀ token, Contest.Made ends token ∨ outcome = .ok (some token) →
          ends.state.Rejects service token) ∧
        (∀ token, contest.Shows ends token → ends.state.Rejects service token) ∧
        ∀ kind now, ends.state.sessions.get? contest.session kind now = none := by
  have foreign : ∀ token, contest.Shows ends token → token ≠ contest.secretToken :=
    fun token shows => shows.ne
  have start := Contest.racing_start (contest.Shows ends) reachable.isSorted calm unrecorded running
    mints spare
  obtain ⟨minting, leaving, racing, left⟩ := start.run schedule early
    (fun entry member => Contest.fits_of_mem succeed apart (run ▸ member)) foreign
  rw [← run] at racing
  refine ⟨fun result ended => (racing.leaver_ended ended).2, fun enough => ?_, ?_⟩
  · have none : leaving.turnsLeft = 0 := by
      have eight : Contest.Leaving.asking.turnsLeft = 8 := rfl
      omega
    rw [Race.result?, racing.leaver, Contest.Leaving.eq_of_turnsLeft none]
    rfl
  · intro outcome ended left
    obtain ⟨result, done⟩ := Option.ne_none_iff_exists'.1 left
    obtain ⟨rfl, rfl⟩ := racing.leaver_ended done
    have standing := racing.standing
    have noted : ∀ token, Contest.Made ends token → minting.token? = some token := by
      rintro token ⟨session, kind, expiresAt, reply, member⟩
      exact racing.noted session kind token expiresAt reply member
    have shut : ¬ minting.IsOpen := by
      rcases racing.minter_ended ended with ⟨rfl, -⟩ | ⟨token, rfl, -⟩ | ⟨token, rfl, -⟩
      · exact id
      · exact id
      · exact id
    have gone := standing.gone nofun shut
    refine ⟨standing.recorded.2 trivial, fun token made => ?_, fun token minted => ?_,
      fun token shows => ?_, fun kind now => SessionCache.get?_of_none gone now⟩
    · have current := noted token made
      rcases racing.minter_ended ended with ⟨rfl, -⟩ | ⟨other, rfl, refused⟩ | ⟨other, rfl, ok⟩
      · exact absurd current nofun
      · exact .inr refused
      · cases current
        exact .inl ok
    · refine State.Holds.rejects ?_
      rcases racing.minter_ended ended with ⟨rfl, failure, failed⟩ | ⟨other, rfl, refused⟩ |
        ⟨other, rfl, ok⟩
      · rcases minted with made | ok
        · exact absurd (noted token made) nofun
        · exact absurd (failed.symm.trans ok) nofun
      · rcases minted with made | ok
        · cases noted token made
          exact standing.buried token rfl
        · exact absurd (refused.symm.trans ok) nofun
      · have same : other = token := by
          rcases minted with made | returned
          · exact Option.some.inj (noted token made)
          · cases ok.symm.trans returned
            rfl
        subst same
        exact (standing.caught other rfl [] rfl).resolve_left List.not_mem_nil
    · exact ((standing.minded token shows).resolve_left List.not_mem_nil).rejects

/-- A user who has just logged in refreshes and logs out at the same time, and logs in again
meanwhile. The refresh makes its token current while the logout is under way, and finds the secret
token recorded. Neither the new token nor the one that was presented is accepted any more. -/
theorem refresh_caught_by_logout :
    ∃ (service : Service) (state : State) (contest : Contest service) (credentials : Credentials)
      (schedule : List Moment) (ends : Race) (access presented : String),
      state.IsReachable service ∧ ends = (Race.start service [.refresh contest.secretToken,
        .logout contest.secretToken contest.presented, .login credentials] state).run service
          schedule ∧
      Contest.Made ends access ∧ contest.Shows ends presented ∧
      ends.result? 0 = some (.error (.refused .blacklisted)) ∧
      ends.result? 1 = some (.ok none) ∧ ends.result? 2 = some (.ok none) ∧
      ends.state.Rejects service access ∧ ends.state.Rejects service presented ∧
      ∀ kind now, ends.state.sessions.get? contest.session kind now = none := by
  obtain ⟨service, start, credentials, row, user, ready, -⟩ := State.exists_isReady .customer
  obtain ⟨access, secret, calls, sessions, logsIn⟩ := ready.exists_logsIn
  let state : State := { start with calls, namesDrawn := start.namesDrawn + 3, sessions }
  have whole : state.IsWhole service {} := ready.whole.frame _ _ _
  have reachable : state.IsReachable service := by
    refine ⟨start, [.login credentials], ready.sessions, ?_⟩
    have first : (start.step service (.login credentials)).2 = state :=
      congrArg Prod.snd logsIn.goes.run
    rw [State.after, List.foldl_cons, first]
    rfl
  let contest : Contest service :=
    ⟨service.codec.issue secret, secret, some (service.codec.issue access),
      (Codec.decodeAt_eq_ok_iff.1 logsIn.decoded').1, logsIn.isSecret⟩
  have unrecorded : ¬ state.Holds service contest.secretToken :=
    fun holds => Bool.false_ne_true (whole.holds_iff.1 holds)
  have found : state.directory.userById secret.sub = .ok (some user) := by
    rw [logsIn.ofUser']
    exact ready.byId
  have logins : ∀ (calls : List StoreCall) (namesDrawn : Nat) (sessions : SessionCache),
      ∃ calls' namesDrawn' sessions', State.Goes service
        ((Call.login credentials).operation service) { state with calls, namesDrawn, sessions } none
          { state with calls := calls', namesDrawn := namesDrawn', sessions := sessions' } := by
    intro calls namesDrawn sessions
    obtain ⟨pair, calls', sessions', goes⟩ := ready.exists_goes_login calls namesDrawn sessions
    exact ⟨calls', namesDrawn + 3, sessions', goes.bind (State.goes_pure _ _)⟩
  have running : state.now < contest.time := logsIn.running'
  have early : (70 : Int) < access.exp.toInt := by
    rw [logsIn.accessEnd]
    decide
  have sooner : access.exp.toInt < secret.exp.toInt := by
    rw [logsIn.accessEnd, logsIn.secretEnd]
    decide
  obtain ⟨token, calls', namesDrawn, sessions', performed, comes, current⟩ :=
    contest.exists_exposed whole rfl running found logsIn.matched' ready.accessEnd logins early
  obtain ⟨ends, caught, courses⟩ := contest.exists_caught
    (whole.later whole.backend 70 namesDrawn sessions' calls') token (.done (.ok none)) performed
      access.exp.toInt
  obtain ⟨schedule, before, run, succeed⟩ := comes.trans caught
  have results : ends.result? 0 = some (.error (.refused .blacklisted)) ∧
      ends.result? 1 = some (.ok none) ∧ ends.result? 2 = some (.ok none) := by
    simp only [Race.result?, courses]
    exact ⟨rfl, rfl, rfl⟩
  have made : Contest.Made ends token := ⟨_, _, _, _, caught.subset current⟩
  have shows : contest.Shows ends (service.codec.issue access) := by
    refine ⟨rfl, access, (Codec.decodeAt_eq_ok_iff.1 logsIn.decoded).1, logsIn.isAccess,
      logsIn.sameSession, logsIn.ofUser.trans logsIn.ofUser'.symm, fun now member => ?_⟩
    rw [run] at member
    exact (Race.reading_lt whole.calm logsIn.running before member).resolve_left List.not_mem_nil
  have apart : ∀ position (name : String), 2 ≤ position →
      (position, ⟨.drawName, name⟩) ∈ ends.performed → name ≠ contest.session := by
    rintro position name - member rfl
    rw [run] at member
    obtain ⟨count, later, same⟩ := (Race.exists_name member).resolve_left List.not_mem_nil
    have same : start.namesDrawn + 1 = count :=
      TokenName.ofCount_injective (logsIn.session.symm.trans same)
    have later : start.namesDrawn + 3 < count := later
    omega
  have spare : ∀ call ∈ [Call.login credentials], call.Spares service contest.session := by
    intro call listed
    rw [List.mem_singleton.1 listed]
    trivial
  obtain ⟨-, -, closed⟩ := refresh_racing_logout contest reachable whole.calm unrecorded
    running (.inl rfl) spare schedule
    (fun moved listed => Int.lt_trans (before moved listed) sooner) run
    (fun entry member => (succeed entry member).resolve_left List.not_mem_nil) apart
  obtain ⟨-, -, rejected, rejected', gone⟩ :=
    closed _ results.1 (results.2.1 ▸ Option.some_ne_none _)
  exact ⟨service, state, contest, credentials, schedule, ends, token, _, reachable, run, made,
    shows, results.1, results.2.1, results.2.2, rejected token (.inl made), rejected' _ shows, gone⟩

end DualToken
