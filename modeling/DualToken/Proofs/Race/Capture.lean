import DualToken.Proofs.Race.Stages
import DualToken.Proofs.Service.Freshness

/-!
# How a refresh is caught

What is performed in a race is performed in some state that the race comes through, so it is as what
every action keeps says (`Race.performed_of_invariant`). Parts of calls that succeed can be put one
behind another (`Race.Comes.exists_next`), and so a race comes about in which a logout catches a
refresh: both find that the secret token is not recorded and the refresh makes its token current
(`Contest.exists_exposed`); then the logout records the secret token before the refresh asks for it
once more (`Contest.exists_caught`).
-/

set_option autoImplicit false

namespace DualToken

namespace Race

variable {service : Service} {race : Race}

/-! ## What is performed -/

/-- What every action and every setting of the clock keeps, a moment keeps. -/
theorem step_preserves (invariant : State → Prop)
    (acts : ∀ action state, invariant state → invariant (state.perform service action).2)
    {moment : Moment} (moves : ∀ time, moment = .clock time → ∀ state : State, invariant state →
      invariant { state with now := time })
    (start : invariant race.state) : invariant (race.step service moment).state := by
  cases moment with
  | clock time => exact moves time rfl race.state start
  | turn position =>
    rcases step_turn_cases service race position with ⟨action, next, found⟩ | ⟨same, -⟩
    · rw [step_turn found]
      exact acts action race.state start
    · rw [same]
      exact start

/-- What a moment notes is performed in the state before it. -/
theorem reply_of_mem_step {moment : Moment} {entry : Nat × Performed Action Action.Reply}
    (member : entry ∈ (race.step service moment).performed) :
    entry ∈ race.performed ∨ entry.2.reply = (race.state.perform service entry.2.action).1 := by
  cases moment with
  | clock time => exact .inl member
  | turn position =>
    rcases step_turn_cases service race position with ⟨action, next, found⟩ | ⟨same, -⟩
    · rw [step_turn found] at member
      rcases List.mem_cons.1 member with rfl | earlier
      · exact .inr rfl
      · exact .inl earlier
    · rw [same] at member
      exact .inl member

/-- **Whatever is performed in a race is performed in a state that the race comes through**, so what
every action and every setting of the clock keeps holds of that state. -/
theorem performed_of_invariant (invariant : State → Prop)
    (acts : ∀ action state, invariant state → invariant (state.perform service action).2)
    {schedule : List Moment}
    (moves : ∀ time, .clock time ∈ schedule → ∀ state : State, invariant state →
      invariant { state with now := time })
    (start : invariant race.state) {entry : Nat × Performed Action Action.Reply}
    (member : entry ∈ (race.run service schedule).performed) :
    entry ∈ race.performed ∨ ∃ state, invariant state ∧
      entry.2.reply = (state.perform service entry.2.action).1 := by
  induction schedule generalizing race with
  | nil => exact .inl member
  | cons moment later ih =>
    have kept : invariant (race.step service moment).state :=
      step_preserves invariant acts (fun time same => moves time (same ▸ List.mem_cons_self)) start
    rcases ih (fun time listed => moves time (List.mem_cons_of_mem moment listed)) kept member with
      noted | performed
    · exact (reply_of_mem_step noted).imp_right fun reply => ⟨race.state, start, reply⟩
    · exact .inr performed

/-- The clock readings in a calm race are before a time that the clock stays before. -/
theorem reading_lt {schedule : List Moment} {time : Int}
    (calm : race.state.IsCalm) (running : race.state.now < time)
    (early : ∀ moved, .clock moved ∈ schedule → moved < time) {position : Nat} {now : Int}
    (member : (position, ⟨.clock, now⟩) ∈ (race.run service schedule).performed) :
    (position, ⟨.clock, now⟩) ∈ race.performed ∨ now < time := by
  refine (performed_of_invariant (fun state => state.IsCalm ∧ state.now < time) ?_ ?_
    ⟨calm, running⟩ member).imp_right ?_
  · rintro action state ⟨calm, running⟩
    exact ⟨calm.perform action, (calm.now_perform action).symm ▸ running⟩
  · rintro moved listed state ⟨calm, -⟩
    exact ⟨⟨calm.revocationPlan, calm.userPlan, calm.rivals⟩, early moved listed⟩
  · rintro ⟨state, ⟨-, running⟩, same⟩
    rw [State.perform_clock] at same
    exact Int.lt_of_le_of_lt (Int.le_of_eq same) running

/-- The names that are drawn in a race are behind those that had been drawn before. -/
theorem exists_name {schedule : List Moment} {position : Nat} {name : String}
    (member : (position, ⟨.drawName, name⟩) ∈ (race.run service schedule).performed) :
    (position, ⟨.drawName, name⟩) ∈ race.performed ∨
      ∃ count, race.state.namesDrawn < count ∧ name = TokenName.ofCount count := by
  refine (performed_of_invariant (fun state => race.state.namesDrawn ≤ state.namesDrawn) ?_
    (fun _ _ _ kept => kept) (Nat.le_refl _) member).imp_right ?_
  · exact fun action state kept => Nat.le_trans kept (State.draws_perform service state action).le
  · rintro ⟨state, kept, same⟩
    rw [State.perform_drawName] at same
    exact ⟨state.namesDrawn + 1, Nat.lt_succ_of_le kept, same⟩

/-! ## Turns without a break -/

variable (service) in
theorem run_append (race : Race) (earlier later : List Moment) :
    race.run service (earlier ++ later) = (race.run service earlier).run service later :=
  List.foldl_append

variable (service) in
/-- A call that is given the turns of its first part without a break does what running that part
does. -/
theorem run_part {α : Type} (race : Race) {position : Nat} {first : Program Action Action.Reply α}
    {rest : α → Course} (found : race.courses[position]? = some (first >>= rest)) :
    race.run service (List.replicate
        (first.trace (State.perform service) race.state).length (.turn position)) =
      { courses := race.courses.set position
          (rest (first.run (State.perform service) race.state).1),
        state := (first.run (State.perform service) race.state).2,
        performed := ((first.trace (State.perform service) race.state).map
          fun performed => (position, performed)).reverse ++ race.performed } := by
  have within : position < race.courses.length := (List.getElem?_eq_some_iff.1 found).1
  induction first generalizing race with
  | done result =>
    have same : race.courses.set position (rest result) = race.courses := by
      obtain ⟨_, here⟩ := List.getElem?_eq_some_iff.1 found
      rw [← Program.done_bind result rest, ← here, List.set_getElem_self]
    rw [Program.run_done, same]
    rfl
  | act action next ih =>
    rw [Program.trace_act, List.length_cons, List.replicate_succ, run, List.foldl_cons,
      step_turn found]
    refine (ih _ _ (List.getElem?_set_self within) (by simpa using within)).trans ?_
    simp

/-- On some schedule the race comes to another, while the clock stays before a time and no store
fails. -/
def Comes (service : Service) (time : Int) (race later : Race) : Prop :=
  ∃ schedule : List Moment, (∀ moved, .clock moved ∈ schedule → moved < time) ∧
    later = race.run service schedule ∧
    ∀ entry ∈ later.performed, entry ∈ race.performed ∨ entry.2.action.Succeeds entry.2.reply

section Coming

variable {time : Int} {middle later : Race}

theorem Comes.refl (service : Service) (time : Int) (race : Race) : race.Comes service time race :=
  ⟨[], nofun, rfl, fun _ member => .inl member⟩

theorem Comes.trans (first : race.Comes service time middle)
    (second : middle.Comes service time later) : race.Comes service time later := by
  obtain ⟨schedule, early, rfl, succeed⟩ := first
  obtain ⟨schedule', early', rfl, succeed'⟩ := second
  refine ⟨schedule ++ schedule', fun moved listed => ?_, (run_append service race _ _).symm,
    fun entry member => ?_⟩
  · exact (List.mem_append.1 listed).elim (early moved) (early' moved)
  · exact (succeed' entry member).elim (succeed entry) .inr

/-- The clock is set to an earlier time than the one that it stays before. -/
theorem comes_clock (race : Race) {moved : Int} (early : moved < time) :
    race.Comes service time { race with state := { race.state with now := moved } } := by
  refine ⟨[.clock moved], fun other listed => ?_, rfl, fun _ member => .inl member⟩
  cases List.mem_singleton.1 listed
  exact early

/-- What was performed before is still noted. -/
theorem Comes.subset (comes : race.Comes service time later) :
    race.performed ⊆ later.performed := by
  obtain ⟨schedule, -, rfl, -⟩ := comes
  exact performed_run race schedule

/-- **A part of a call that succeeds can be made next**, without a break, and what it performs is
noted. -/
theorem Comes.exists_next {courses : List Course} {state after : State}
    {performed : List (Nat × Performed Action Action.Reply)}
    (comes : race.Comes service time ⟨courses, state, performed⟩) (position : Nat) {α : Type}
    {operation : Operation α} {next : α → Operation (Option String)} {value : α}
    (found : courses[position]? = some (operation >>= next).run)
    (goes : state.Goes service operation value after) :
    ∃ performed', race.Comes service time
        ⟨courses.set position (next value).run, after, performed'⟩ ∧
      ∀ made ∈ state.trace service operation, (position, made) ∈ performed' := by
  rw [Operation.run_bind] at found
  have part := run_part service ⟨courses, state, performed⟩ found
  have ran : operation.run.run (State.perform service) state = (.ok value, after) := goes.run
  rw [ran] at part
  refine ⟨_, comes.trans ⟨_, fun moved listed => ?_, part.symm, fun entry member => ?_⟩,
    fun made member => ?_⟩
  · exact absurd (List.eq_of_mem_replicate listed) nofun
  · rcases List.mem_append.1 member with member | member
    · obtain ⟨made, own, rfl⟩ := List.mem_map.1 (List.mem_reverse.1 member)
      exact .inr (goes.succeed made own)
    · exact .inl member
  · exact List.mem_append_left _ (List.mem_reverse.2 (List.mem_map_of_mem member))

end Coming

end Race

/-! ## A refresh and a logout -/

namespace Contest

open Operation

section Caught

variable {service : Service} (contest : Contest service) {state : State} {table : RevocationTable}

/-- A refresh may have made its token current, and a logout may be about to record the secret token,
when another call has ended and the clock has moved on. -/
theorem exists_exposed (whole : state.IsWhole service table)
    (absent : table.contains contest.secretToken = false) (running : state.now < contest.time)
    {user : User} (found : state.directory.userById contest.claims.sub = .ok (some user))
    (matched : contest.claims.matchesUser user = true) {expiry : Int}
    (within : Time.add? state.now service.accessLifetime = some expiry) {other : Call}
    (goes : ∀ (calls : List StoreCall) (namesDrawn : Nat) (sessions : SessionCache),
      ∃ calls' namesDrawn' sessions',
        State.Goes service (other.operation service) { state with calls, namesDrawn, sessions } none
          { state with calls := calls', namesDrawn := namesDrawn', sessions := sessions' })
    {moved time : Int} (early : moved < time) :
    ∃ token calls namesDrawn sessions performed,
      (Race.start service [.refresh contest.secretToken,
          .logout contest.secretToken contest.presented, other] state).Comes service time
        ⟨[(contest.check token).run, contest.leave.run, .done (.ok none)],
          { state with now := moved, calls, namesDrawn, sessions }, performed⟩ ∧
      (0, ⟨.setSession contest.session .access token contest.claims.exp, ()⟩) ∈ performed := by
  have decoded := contest.decodeAt_secretToken running
  obtain ⟨token, issued⟩ : ∃ token, service.codec.issue (contest.claims.reissue
    (TokenName.ofCount (state.namesDrawn + 1)) .access state.now expiry) = token := ⟨_, rfl⟩
  -- both find that the secret token is not recorded
  obtain ⟨calls, validated⟩ := whole.goes_validate absent decoded found matched
  obtain ⟨_, comes, -⟩ := (Race.Comes.refl service time (Race.start service
    [.refresh contest.secretToken, .logout contest.secretToken contest.presented, other]
      state)).exists_next 0 (congrArg (some ∘ ExceptT.run) (operation_refresh _)) validated
  obtain ⟨calls, asked⟩ := (whole.noted calls).goes_isRevoked contest.secretToken
  rw [absent] at asked
  obtain ⟨_, comes, -⟩ := comes.exists_next 1
    (congrArg (some ∘ ExceptT.run) contest.operation_logout) asked
  have read : State.Goes service clock { state with calls } state.now { state with calls } :=
    State.goes_clock _
  obtain ⟨_, comes, -⟩ := comes.exists_next 1 rfl read
  rw [contest.decodeAt_of_lt running] at comes
  -- another call comes between the issue of the new token and making it current
  have prepared : State.Goes service contest.prepare { state with calls } token
      { state with calls, namesDrawn := state.namesDrawn + 1 } :=
    (State.goes_clock _).bind ((State.goes_orCrash within _).bind
      ((State.goes_drawName _).bind (issued ▸ State.goes_pure _ _)))
  obtain ⟨_, comes, -⟩ := comes.exists_next 0
    (congrArg (some ∘ ExceptT.run) contest.mintAccess_bind) prepared
  obtain ⟨calls, namesDrawn, sessions, called⟩ := goes calls (state.namesDrawn + 1) state.sessions
  obtain ⟨_, comes, -⟩ := comes.exists_next 2
    (congrArg (some ∘ ExceptT.run) (bind_pure (other.operation service)).symm) called
  obtain ⟨_, comes, made⟩ := comes.exists_next 0 rfl (State.goes_setSession _ _ _ _ _)
  exact ⟨token, calls, namesDrawn, _, _, comes.trans (Race.comes_clock _ early),
    made _ List.mem_cons_self⟩

/-- When the new token is current and the secret token is about to be recorded, the refresh may be
refused and the logout go through. -/
theorem exists_caught (whole : state.IsWhole service table) (token : String) (other : Course)
    (performed : List (Nat × Performed Action Action.Reply)) (time : Int) :
    ∃ ends : Race, Race.Comes service time
        ⟨[(contest.check token).run, contest.leave.run, other], state, performed⟩ ends ∧
      ends.courses = [.done (.error (.refused .blacklisted)), .done (.ok none), other] := by
  -- the logout records the secret token and clears the session
  obtain ⟨calls, made, recorded⟩ := whole.goes_record contest.secretToken
  obtain ⟨table', records⟩ : ∃ table',
    (table.record contest.secretToken state.now).2 = table' := ⟨_, rfl⟩
  have contains : table'.contains contest.secretToken = true :=
    records ▸ (table.contains_record _ _ _).2 (.inl rfl)
  rw [records] at recorded
  obtain ⟨_, comes, -⟩ := (Race.Comes.refl service time
    ⟨[(contest.check token).run, contest.leave.run, other], state, performed⟩).exists_next 1 rfl
      recorded
  obtain ⟨_, comes, -⟩ := comes.exists_next 1 rfl (State.goes_clock _)
  obtain ⟨_, comes, -⟩ := comes.exists_next 1 rfl (State.goes_clearSession service _ _)
  -- the refresh finds the record, drops the session and records its token
  have cleared := whole.withTable table' state.namesDrawn (state.sessions.clear contest.session).2
  obtain ⟨calls, asked⟩ := (cleared calls).goes_isRevoked contest.secretToken
  rw [contains] at asked
  obtain ⟨_, comes, -⟩ := comes.exists_next 0 rfl asked.attempt
  obtain ⟨_, comes, -⟩ := comes.exists_next 0 rfl (State.goes_clearSession service _ _)
  have dropped (table : RevocationTable) := whole.withTable table state.namesDrawn
    ((state.sessions.clear contest.session).2.clear contest.session).2
  obtain ⟨calls, made, buried⟩ := (dropped table' calls).goes_record token
  obtain ⟨_, comes, -⟩ := comes.exists_next 0 rfl buried
  -- the logout records what it has found
  obtain ⟨calls, last, -, others⟩ := (dropped _ calls).goes_recordAll _
  obtain ⟨_, comes, -⟩ := comes.exists_next 1 rfl others
  exact ⟨_, comes, rfl⟩

end Caught

end Contest

end DualToken
