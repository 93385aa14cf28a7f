import DualToken.Proofs.Race.Stages

/-!
# How a contest stands

Whichever of a refresh and a logout comes later sees the other: a logout records the secret token
before it clears the session, and a refresh makes its token current before it asks for the secret
token again. So either the refresh finds the secret token recorded and buries the new token itself,
or the new token is still current when the logout clears the session, and the logout buries it.

`Contest.Standing` says this of the state, stage by stage. The turns of the refresh
(`Standing.minter_turn`), those of the logout (`Standing.leaver_turn`) and what is done on other
sessions (`Standing.spared`) keep it.
-/

set_option autoImplicit false

namespace DualToken

namespace Contest

open Operation Service

variable {service : Service} {contest : Contest service} {before after : State}

/-! ## What other sessions leave alone -/

/-- Between two states nothing has happened to the contest. -/
structure Spared (contest : Contest service) (before after : State) : Prop where
  /-- The secret token is recorded behind it if it was so before. -/
  recorded : after.Holds service contest.secretToken ↔ before.Holds service contest.secretToken
  /-- No token is taken from the record. -/
  holds : ∀ token, before.Holds service token → after.Holds service token
  /-- The access token of the session is kept. -/
  keeps : ∀ token, before.sessions.Keeps contest.session .access token contest.time →
    after.sessions.Keeps contest.session .access token contest.time
  /-- The session does not come back. -/
  gone : before.sessions.entry? contest.session = none →
    after.sessions.entry? contest.session = none

/-- A step that neither records the secret token nor touches the session leaves the contest alone.
-/
theorem Spared.of_sessions (calm : before.IsCalm) {action : Action}
    (other : action ≠ .store (.record contest.secretToken))
    (same : SessionCache.entry? (before.perform service action).2.sessions contest.session =
      before.sessions.entry? contest.session) :
    contest.Spared before (before.perform service action).2 where
  recorded := calm.holds_iff other
  holds _ holds := holds.perform calm action
  keeps _ keeps := keeps.of_entry_eq same
  gone absent := same.trans absent

/-- **What is done on other sessions before the time of the secret token leaves the contest
alone.** -/
theorem Spared.of_deed (calm : before.IsCalm) (running : before.now < contest.time)
    {action : Action} (deed : Deed service (· ≠ contest.session) action) :
    contest.Spared before (before.perform service action).2 := by
  cases deed with
  | @ask call asks =>
    refine .of_sessions calm ?_ (by rw [(calm.store_frame call).1])
    rintro ⟨⟩
    exact asks
  | @record session token own belongs =>
    refine .of_sessions calm ?_ (by rw [(calm.store_frame _).1])
    rintro ⟨⟩
    exact ne_of_ofSession own belongs rfl
  | clock => exact .of_sessions calm nofun (by rw [State.perform_clock])
  | name => exact .of_sessions calm nofun (by rw [State.perform_drawName])
  | set claims own expiresAt =>
    refine ⟨calm.holds_iff nofun, fun token holds => holds.perform calm _,
      fun token keeps => ?_, fun absent => ?_⟩
    · rw [State.perform_setSession]
      exact keeps.set_of_ne (Ne.symm own) running
    · rw [State.perform_setSession]
      exact SessionCache.entry?_set_of_none (Ne.symm own) absent
  | @blacklist session own kind =>
    refine .of_sessions calm nofun ?_
    rw [State.perform_blacklistSession]
    exact SessionCache.entry?_blacklist_of_ne (Ne.symm own)
  | @clear session own =>
    refine .of_sessions calm nofun ?_
    rw [State.perform_clearSession]
    exact SessionCache.entry?_clear_of_ne (Ne.symm own)

/-! ## The standing of a contest -/

namespace Leaving

/-- A token that is presented is looked after, or will be. -/
def Minds (held : String → Prop) (token : String) : Leaving → Prop
  | clearing own => own = some token
  | burying tokens => token ∈ tokens ∨ held token
  | _ => True

theorem Minds.mono {held more : String → Prop} {token : String} {leaving : Leaving}
    (minds : leaving.Minds held token) (within : held token → more token) :
    leaving.Minds more token := by
  cases leaving with
  | burying tokens => exact minds.imp_right within
  | clearing own => exact minds
  | _ => trivial

end Leaving

/-- How a contest stands at the stages of the refresh and of the logout. -/
structure Standing (contest : Contest service) (shown : String → Prop) (minting : Minting)
    (leaving : Leaving) (state : State) : Prop where
  /-- The secret token is recorded once the logout has done so. -/
  recorded : state.Holds service contest.secretToken ↔ leaving.HasRecorded
  /-- The new token is an access token of the session. -/
  mints : ∀ token, minting.token? = some token → contest.Mints token
  /-- A new token stays current until the session is cleared. -/
  kept : ∀ token, minting.atLarge? = some token → leaving.pending? = none →
    state.sessions.Keeps contest.session .access token contest.time
  /-- A token that was handed out is recorded, or will be by the logout. -/
  caught : ∀ token, minting = .returned token → ∀ tokens, leaving.pending? = some tokens →
    token ∈ tokens ∨ state.Holds service token
  /-- A token that was buried is recorded. -/
  buried : ∀ token, minting = .buried token → state.Holds service token
  /-- A session that was cleared is gone, but for a token that is about to be dropped. -/
  gone : leaving.pending? ≠ none → ¬ minting.IsOpen →
    state.sessions.entry? contest.session = none
  /-- The presented token is looked after. -/
  minded : ∀ token, shown token → leaving.Minds (state.Holds service) token

variable {shown : String → Prop} {minting : Minting} {leaving : Leaving} {state : State}

/-- Where nothing has happened to the contest, it stands as before. -/
theorem Standing.spared (standing : contest.Standing shown minting leaving before)
    (spared : contest.Spared before after) : contest.Standing shown minting leaving after where
  recorded := spared.recorded.trans standing.recorded
  mints := standing.mints
  kept token large uncleared := spared.keeps token (standing.kept token large uncleared)
  caught token returned tokens pending :=
    (standing.caught token returned tokens pending).imp_right (spared.holds token)
  buried token buried := spared.holds token (standing.buried token buried)
  gone cleared shut := spared.gone (standing.gone cleared shut)
  minded token shows := (standing.minded token shows).mono (spared.holds token)

/-! ### Turns of the refresh -/

/-- Making the new token current. -/
theorem Standing.set {token : String}
    (standing : contest.Standing shown .preparing leaving state) (calm : state.IsCalm)
    (mints : contest.Mints token) :
    contest.Standing shown (.checking token) leaving (state.perform service
      (.setSession contest.session .access token contest.claims.exp)).2 where
  recorded := Iff.trans (calm.holds_iff nofun) standing.recorded
  mints := by
    rintro _ ⟨⟩
    exact mints
  kept := by
    rintro _ ⟨⟩ -
    rw [State.perform_setSession]
    exact SessionCache.keeps_set_self contest.claims.exp state.now
  caught := nofun
  buried := nofun
  gone _ shut := absurd trivial shut
  minded token shows := (standing.minded token shows).mono fun holds => holds.perform calm _

/-- A new token is handed out when the secret token is not recorded, which means that the session
has not been cleared. -/
theorem Standing.return {token : String}
    (standing : contest.Standing shown (.checking token) leaving state)
    (absent : ¬ state.Holds service contest.secretToken) :
    contest.Standing shown (.returned token) leaving state where
  recorded := standing.recorded
  mints := standing.mints
  kept := standing.kept
  caught _ _ tokens pending :=
    absurd (standing.recorded.2 (Leaving.hasRecorded_of_pending? pending)) absent
  buried := nofun
  gone cleared _ := by
    obtain ⟨tokens, pending⟩ := Option.ne_none_iff_exists'.1 cleared
    exact absurd (standing.recorded.2 (Leaving.hasRecorded_of_pending? pending)) absent
  minded := standing.minded

theorem Standing.withdraw {token : String}
    (standing : contest.Standing shown (.checking token) leaving state) :
    contest.Standing shown (.dropping token) leaving state where
  recorded := standing.recorded
  mints := standing.mints
  kept := nofun
  caught := nofun
  buried := nofun
  gone _ shut := absurd trivial shut
  minded := standing.minded

/-- Dropping the session of the new token. -/
theorem Standing.drop {token : String}
    (standing : contest.Standing shown (.dropping token) leaving state) (calm : state.IsCalm) :
    contest.Standing shown (.burying token) leaving
      (state.perform service (.clearSession contest.session)).2 where
  recorded := Iff.trans (calm.holds_iff nofun) standing.recorded
  mints := standing.mints
  kept := nofun
  caught := nofun
  buried := nofun
  gone _ _ := by
    rw [State.perform_clearSession]
    exact SessionCache.entry?_clear_self
  minded token shows := (standing.minded token shows).mono fun holds => holds.perform calm _

/-- Recording the new token. -/
theorem Standing.bury {token : String}
    (standing : contest.Standing shown (.burying token) leaving state) (calm : state.IsCalm)
    (holds : (state.perform service (.store (.record token))).2.Holds service token) :
    contest.Standing shown (.buried token) leaving
      (state.perform service (.store (.record token))).2 where
  recorded := by
    have different : token ≠ contest.secretToken := (standing.mints token rfl).ne
    have other : Action.store (.record token) ≠ .store (.record contest.secretToken) := by
      simpa using different
    exact (calm.holds_iff other).trans standing.recorded
  mints := standing.mints
  kept := nofun
  caught := nofun
  buried := by
    rintro _ ⟨⟩
    exact holds
  gone cleared shut := by
    rw [(calm.store_frame _).1]
    exact standing.gone cleared shut
  minded token shows := (standing.minded token shows).mono fun holds => holds.perform calm _

/-- **A turn of the refresh brings it to a next stage.** -/
theorem Standing.minter_turn {action : Action} {next : action.Reply → Course}
    (standing : contest.Standing shown minting leaving state) (calm : state.IsCalm)
    (running : state.now < contest.time) (left : contest.Leaves minting (.act action next))
    (succeeds : action.Succeeds (state.perform service action).1) :
    ∃ minting', contest.Leaves minting' (next (state.perform service action).1) ∧
      contest.Standing shown minting' leaving (state.perform service action).2 ∧
      (∀ token, minting.token? = some token → minting'.token? = some token) ∧
      ∀ session kind token expiresAt, action = .setSession session kind token expiresAt →
        minting'.token? = some token := by
  cases minting with
  | preparing =>
    rcases left with (⟨failure, ended⟩ | ⟨token, mints, same⟩) | ⟨deed, rest⟩
    · exact absurd ended nofun
    · cases same
      refine ⟨.checking token, rfl, standing.set calm mints, nofun, ?_⟩
      rintro _ _ _ _ ⟨⟩
      rfl
    · have spared : contest.Spared state (state.perform service action).2 :=
        .of_deed calm running (deed.mono nofun)
      refine ⟨.preparing, rest _ trivial, standing.spared spared, nofun, ?_⟩
      rintro session kind token expiresAt rfl
      cases deed with
      | set claims own expiresAt => exact absurd own id
  | checking token =>
    cases left.trans (contest.run_check token)
    have spared : contest.Spared state
        (state.perform service (.store (.lookup contest.secretToken))).2 :=
      .of_deed calm running (.ask trivial)
    have asked := standing.spared spared
    obtain ⟨found, answered, tells⟩ := calm.exists_lookup succeeds
    rw [answered]
    cases found with
    | true => exact ⟨.dropping token, rfl, asked.withdraw, fun _ same => same, nofun⟩
    | false =>
      have absent : ¬ (state.perform service
          (.store (.lookup contest.secretToken))).2.Holds service contest.secretToken :=
        fun holds => absurd (tells.2 (spared.recorded.1 holds)) nofun
      exact ⟨.returned token, rfl, asked.return absent, fun _ same => same, nofun⟩
  | dropping token =>
    cases left.trans (contest.run_drop token)
    exact ⟨.burying token, rfl, standing.drop calm, fun _ same => same, nofun⟩
  | burying token =>
    cases left.trans (run_bury token)
    have buried := standing.bury calm (calm.holds_of_succeeds succeeds)
    obtain ⟨made, answered⟩ := succeeds
    rw [answered]
    exact ⟨.buried token, rfl, buried, fun _ same => same, nofun⟩
  | buried token => exact absurd left nofun
  | returned token => exact absurd left nofun

/-! ### Turns of the logout -/

/-- Recording the secret token. -/
theorem Standing.record (standing : contest.Standing shown minting .recording state)
    (calm : state.IsCalm)
    (holds : (state.perform service (.store (.record contest.secretToken))).2.Holds service
      contest.secretToken) :
    contest.Standing shown minting .presenting
      (state.perform service (.store (.record contest.secretToken))).2 where
  recorded := ⟨fun _ => trivial, fun _ => holds⟩
  mints := standing.mints
  kept token large uncleared := by
    rw [(calm.store_frame _).1]
    exact standing.kept token large uncleared
  caught := nofun
  buried token buried := (standing.buried token buried).perform calm _
  gone cleared _ := absurd rfl cleared
  minded _ _ := trivial

/-- Looking at the presented token. -/
theorem Standing.present (standing : contest.Standing shown minting .presenting state)
    (owns : ∀ token, shown token →
      contest.presented = some token ∧ contest.Owns token state.now) :
    contest.Standing shown minting (.clearing (contest.presented.filter fun token =>
      service.isOfSession token contest.claims state.now)) state where
  recorded := standing.recorded
  mints := standing.mints
  kept := standing.kept
  caught := nofun
  buried := standing.buried
  gone cleared _ := absurd rfl cleared
  minded token shows := by
    obtain ⟨presented, owned⟩ := owns token shows
    exact Option.filter_eq_some_iff.2 ⟨presented, owned.isOfSession⟩

/-- Clearing the session: a new token that was handed out is found in it. -/
theorem Standing.clear {own : Option String}
    (standing : contest.Standing shown minting (.clearing own) state) (calm : state.IsCalm)
    (foreign : ∀ token, shown token → token ≠ contest.secretToken) :
    contest.Standing shown minting
      (.burying (contest.pending own (state.sessions.clear contest.session).1))
      (state.perform service (.clearSession contest.session)).2 where
  recorded := Iff.trans (calm.holds_iff nofun) standing.recorded
  mints := standing.mints
  kept := nofun
  caught := by
    rintro token rfl _ ⟨⟩
    have current := (standing.kept token rfl rfl).clear_access
    have different : token ≠ contest.secretToken := (standing.mints token rfl).ne
    refine .inl (contest.mem_pending.2 ⟨?_, different⟩)
    simp [current]
  buried token buried := (standing.buried token buried).perform calm _
  gone _ _ := by
    rw [State.perform_clearSession]
    exact SessionCache.entry?_clear_self
  minded token shows := by
    have same : own = some token := standing.minded token shows
    refine .inl (contest.mem_pending.2 ⟨?_, foreign token shows⟩)
    simp [same]

theorem Standing.recordNext {token : String} {tokens : List String}
    (standing : contest.Standing shown minting (.burying (token :: tokens)) state)
    (calm : state.IsCalm)
    (holds : (state.perform service (.store (.record token))).2.Holds service token) :
    contest.Standing shown minting (.burying tokens)
      (state.perform service (.store (.record token))).2 := by
  have next : ∀ other, other ∈ token :: tokens ∨ state.Holds service other →
      other ∈ tokens ∨ (state.perform service (.store (.record token))).2.Holds service other := by
    rintro other (member | held)
    · rcases List.mem_cons.1 member with rfl | member
      · exact .inr holds
      · exact .inl member
    · exact .inr (held.perform calm _)
  exact {
    recorded := ⟨fun _ => trivial, fun _ => (standing.recorded.2 trivial).perform calm _⟩
    mints := standing.mints
    kept := nofun
    caught := by
      rintro other returned _ ⟨⟩
      exact next other (standing.caught other returned _ rfl)
    buried := fun other buried => (standing.buried other buried).perform calm _
    gone := fun _ shut => by
      rw [(calm.store_frame _).1]
      exact standing.gone nofun shut
    minded := fun other shows => next other (standing.minded other shows) }

/-- **A turn of the logout brings it to a next stage, and nearer to its end.** -/
theorem Standing.leaver_turn {action : Action} {next : action.Reply → Course}
    (standing : contest.Standing shown minting leaving state) (calm : state.IsCalm)
    (running : state.now < contest.time) (left : contest.remainder leaving = .act action next)
    (succeeds : action.Succeeds (state.perform service action).1)
    (owns : action = .clock → ∀ token, shown token →
      contest.presented = some token ∧ contest.Owns token state.now)
    (foreign : ∀ token, shown token → token ≠ contest.secretToken) :
    ∃ leaving', next (state.perform service action).1 = contest.remainder leaving' ∧
      contest.Standing shown minting leaving' (state.perform service action).2 ∧
      leaving'.turnsLeft < leaving.turnsLeft := by
  cases leaving with
  | asking =>
    cases left.symm.trans contest.remainder_asking
    have spared : contest.Spared state
        (state.perform service (.store (.lookup contest.secretToken))).2 :=
      .of_deed calm running (.ask trivial)
    have asked := standing.spared spared
    obtain ⟨found, answered, tells⟩ := calm.exists_lookup succeeds
    rw [answered]
    cases found with
    | true => exact (standing.recorded.1 (tells.1 rfl)).elim
    | false =>
      refine ⟨.timing, rfl, ?_, by decide⟩
      exact ⟨asked.recorded, asked.mints, asked.kept, asked.caught, asked.buried, asked.gone,
        asked.minded⟩
  | timing =>
    cases left.symm.trans contest.remainder_timing
    rw [State.perform_clock]
    refine ⟨.recording, congrArg ExceptT.run (contest.decodeAt_of_lt running), ?_, by decide⟩
    exact ⟨standing.recorded, standing.mints, standing.kept, standing.caught, standing.buried,
      standing.gone, standing.minded⟩
  | recording =>
    cases left.symm.trans contest.remainder_recording
    have recorded := standing.record calm (calm.holds_of_succeeds succeeds)
    obtain ⟨made, answered⟩ := succeeds
    rw [answered]
    exact ⟨.presenting, rfl, recorded, by decide⟩
  | presenting =>
    cases left.symm.trans contest.remainder_presenting
    rw [State.perform_clock]
    exact ⟨.clearing _, rfl, standing.present (owns rfl), Nat.lt_succ_self 4⟩
  | clearing own =>
    cases left.symm.trans (contest.remainder_clearing own)
    have cleared := standing.clear calm foreign
    rw [State.perform_clearSession] at cleared ⊢
    refine ⟨.burying _, rfl, cleared, ?_⟩
    exact Nat.lt_succ_of_le (contest.length_pending_le own _)
  | burying tokens =>
    cases tokens with
    | nil => exact absurd left nofun
    | cons token tokens =>
      cases left.symm.trans (contest.remainder_burying_cons token tokens)
      have recorded := standing.recordNext calm (calm.holds_of_succeeds succeeds)
      obtain ⟨made, answered⟩ := succeeds
      rw [answered]
      exact ⟨.burying tokens, rfl, recorded, Nat.lt_succ_self _⟩

end Contest

end DualToken
