import DualToken.Proofs.Service.Ending
import DualToken.Proofs.Service.Faults
import DualToken.Proofs.Service.Isolation

/-!
# Refreshes that fail

A refresh makes the token that it mints current before it asks a second time whether the secret
token is revoked. If it gets no answer, it withdraws the new token. The token that was current
before is not put back: it has simply stopped being current, as behind every refresh.

So a refresh that fails leaves users, record and cache as they were, or it fails for storage and the
cache has lost the access token of this one session (`failed_refresh`). A logout behind it records
what it would have recorded, except for that token.
-/

set_option autoImplicit false

namespace DualToken

/-! ## What a withdrawal takes out of the cache -/

namespace SessionCache

variable {before : SessionCache} {session : String} {now : Int}

/-- The session is not over, if there is an entry for it. -/
def Runs (cache : SessionCache) (session : String) (now : Int) : Prop :=
  ∀ entry, cache.entry? session = some entry → entry.isExpiredAt now = false

/-- The session has lost its access token, and nothing else has changed. Sessions that are over have
nothing to show; they may have been dropped, and the session itself may be running again. -/
structure Loses (now : Int) (session : String) (before after : SessionCache) : Prop where
  access : after.get? session .access now = none
  secret : before.Runs session now →
    after.get? session .secret now = before.get? session .secret now
  others (other : String) (kind : TokenKind) : other ≠ session →
    after.get? other kind now = before.get? other kind now
  /-- Clearing the session hands back what it would have handed back, but no access token. -/
  cleared : (after.clear session).1 = (none, (before.clear session).1.2)
  clearedOthers (other : String) : other ≠ session → before.Runs other now →
    (after.clear other).1 = (before.clear other).1

/-- The entry of a session behind a token that was made current and withdrawn. -/
theorem entry?_blacklist_set (token : String) (expiresAt : Int64) :
    entry? ((before.set session .access token expiresAt now).blacklist session .access).2 session =
      some { access := ⟨some token, false⟩
             secret := ((before.entry? session).getD {}).secret
             expiresAt := max ((before.entry? session).getD {}).expiresAt expiresAt } := by
  rw [blacklist, entry?_set_self]
  exact entry?_put_self _

/-- **What was made current and withdrawn leaves no access token in its session**, and everything
else as it was. -/
theorem IsUnique.loses (unique : before.IsUnique) (token : String) (expiresAt : Int64) :
    Loses now session before
      ((before.set session .access token expiresAt now).blacklist session .access).2 where
  access := by
    rw [get?, entry?_blacklist_set, Option.bind_some]
    split
    · rfl
    · rfl
  secret := by
    intro runs
    rw [get?, get?, entry?_blacklist_set, Option.bind_some]
    cases found : before.entry? session with
    | none =>
      split
      · rfl
      · rfl
    | some entry =>
      have running := runs entry found
      have later : entry.expiresAt.toInt ≤ (max entry.expiresAt expiresAt).toInt :=
        (toInt_le_toInt_max _ _).1
      have running' : SessionEntry.isExpiredAt
          ⟨⟨some token, false⟩, entry.secret, max entry.expiresAt expiresAt⟩ now = false := by
        simp only [SessionEntry.isExpiredAt, decide_eq_false_iff_not, Int.not_le] at running ⊢
        exact Int.lt_of_lt_of_le running later
      rw [Option.getD_some, running', Option.bind_some, running]
      rfl
  others other kind different :=
    (get?_eq_of_entry?_eq (entry?_blacklist_of_ne different) kind now).trans
      (unique.get?_set_of_ne different kind expiresAt now)
  cleared := by
    rw [SessionCache.clear, SessionCache.clear, entry?_blacklist_set]
    cases before.entry? session with
    | none => rfl
    | some entry => rfl
  clearedOthers other different runs := by
    apply clear_eq_of_entry?_eq
    rw [entry?_blacklist_of_ne different]
    cases found : before.entry? other with
    | none => exact entry?_set_of_none different found
    | some entry => exact entry?_set_of_ne different found (runs entry found)

end SessionCache

/-! ## Minting -/

open Operation Service

/-- How a minting goes on with what it finds out about the secret token. -/
def Service.conclude (claims : Claims) (access : String) : Except AuthError Bool → Operation String
  | .ok false => pure access
  | .ok true => do
    let _ ← act (.clearSession claims.sid)
    let _ ← record access
    refuse .blacklisted
  | .error error => do
    let _ ← act (.blacklistSession claims.sid .access)
    refuse error

/-- Refreshing and renewing validate the secret token, and then mint an access token or refuse. -/
theorem Service.exists_minting_of_refreshes {service : Service} {secretToken : String}
    {operation : Operation String}
    (refreshes : operation = service.refresh secretToken ∨
      ∃ current, operation = service.renew current secretToken) :
    ∃ next : Claims → Operation String,
      operation = service.validate secretToken .secret >>= next ∧ ∀ claims,
        next claims = service.mintAccess secretToken claims ∨
          next claims = refuse .identityMismatch := by
  rcases refreshes with rfl | ⟨current, rfl⟩
  · exact ⟨_, rfl, fun _ => .inl rfl⟩
  · refine ⟨_, rfl, fun claims => ?_⟩
    split
    · exact .inl rfl
    · exact .inr rfl

namespace State

variable {service : Service} {state : State} {claims : Claims} {secretToken access : String}
  {expiry : Int}

/-- The state with a new access token that is current. -/
def minted (state : State) (claims : Claims) (access : String) : State :=
  { state with
    namesDrawn := state.namesDrawn + 1
    sessions := state.sessions.set claims.sid .access access claims.exp state.now }

/-- A minting makes its token current and then asks for the secret token. -/
theorem run_mintAccess (within : Time.add? state.now service.accessLifetime = some expiry)
    (made : service.codec.issue
      (claims.reissue (TokenName.ofCount (state.namesDrawn + 1)) .access state.now expiry) =
        access) :
    state.run service (service.mintAccess secretToken claims) =
      (state.minted claims access).run service
        (attempt (isRevoked secretToken) >>= conclude claims access) := by
  subst made
  rw [mintAccess, ((goes_clock state).run_bind _).1, ((goes_orCrash within _).run_bind _).1,
    ((goes_drawName _).run_bind _).1]
  exact ((goes_setSession _ _ _ _ _).run_bind _).1

/-- What a minting finds out about the secret token decides how it ends. -/
theorem run_mintAccess_of_asked
    (within : Time.add? state.now service.accessLifetime = some expiry)
    (made : service.codec.issue
      (claims.reissue (TokenName.ofCount (state.namesDrawn + 1)) .access state.now expiry) = access)
    {result : Except Failure Bool} {answer : Except AuthError Bool} {asked : State}
    (asks : (state.minted claims access).run service (isRevoked secretToken) = (result, asked))
    (hands : handOn result = .ok answer) :
    state.run service (service.mintAccess secretToken claims) =
      asked.run service (conclude claims access answer) := by
  have attempted : (state.minted claims access).run service (attempt (isRevoked secretToken)) =
      (.ok answer, asked) := by
    rw [run_attempt_eq, asks, hands]
  rw [run_mintAccess within made, (run_bind_ok (congrArg Prod.fst attempted) _).1, attempted]

/-- **A minting that gets no answer is refused**, and its token is withdrawn. -/
theorem run_mintAccess_of_error
    (within : Time.add? state.now service.accessLifetime = some expiry)
    (made : service.codec.issue
      (claims.reissue (TokenName.ofCount (state.namesDrawn + 1)) .access state.now expiry) = access)
    {error : AuthError} {asked : State}
    (asks : (state.minted claims access).run service (isRevoked secretToken) =
      (.error (.refused error), asked)) :
    state.run service (service.mintAccess secretToken claims) = (.error (.refused error),
      { asked with sessions := (asked.sessions.blacklist claims.sid .access).2 }) := by
  have withdraws : asked.Goes service (act (.blacklistSession claims.sid .access))
      (asked.perform service (.blacklistSession claims.sid .access)).1
      (asked.perform service (.blacklistSession claims.sid .access)).2 := goes_act trivial
  rw [perform_blacklistSession] at withdraws
  rw [run_mintAccess_of_asked within made asks rfl]
  exact (withdraws.run_bind fun _ => refuse error).1

/-! ## What a failure leaves behind -/

/-- A refresh that fails leaves users, time, record and cache as they were, or it fails for storage
and the session of its secret token has lost its access token. -/
structure LosesAtMost (service : Service) (secretToken : String) (failure : Failure)
    (before after : State) : Prop extends SameSetting before after where
  records : before.revocations.SameRecords after.revocations
  sessions : after.sessions = before.sessions ∨ ∃ claims, failure.IsOfStorage ∧
    service.codec.decodeAt secretToken .secret before.now = .ok claims ∧
      before.sessions.Loses before.now claims.sid after.sessions

section Failing

variable {before middle after : State} {failure : Failure}

/-- Reading before the refresh fails makes no difference. -/
theorem LosesAtMost.behind (loses : middle.LosesAtMost service secretToken failure after)
    (unchanged : before.Unchanged middle) :
    before.LosesAtMost service secretToken failure after where
  now := loses.now.trans unchanged.now
  directory := loses.directory.trans unchanged.directory
  records := unchanged.records.trans loses.records
  sessions := by
    rw [← unchanged.sessions, ← unchanged.now]
    exact loses.sessions

/-- What is left behind when nothing has been made current. -/
theorem Unchanged.losesAtMost (unchanged : before.Unchanged after) :
    before.LosesAtMost service secretToken failure after :=
  ⟨unchanged.toSameSetting, unchanged.records, .inl unchanged.sessions⟩

/-- **A minting that fails loses the access token of its session at most.** The secret token is not
recorded when the minting begins, so the second lookup can only confirm this or fail. -/
theorem losesAtMost_of_mintAccess (unique : state.sessions.IsUnique)
    (plain : state.Plans Incident.IsPlain)
    (decoded : service.codec.decodeAt secretToken .secret state.now = .ok claims)
    (absent : ¬ state.Holds service secretToken)
    (failed : (state.run service (service.mintAccess secretToken claims)).1 = .error failure) :
    state.LosesAtMost service secretToken failure
      (state.run service (service.mintAccess secretToken claims)).2 := by
  cases within : Time.add? state.now service.accessLifetime with
  | none =>
    have crashes : state.run service (service.mintAccess secretToken claims) =
        (.error .crashed, state) := by
      rw [mintAccess, ((goes_clock state).run_bind _).1, within]
      exact (run_bind_error rfl _).1
    rw [crashes]
    exact (Unchanged.refl state).losesAtMost
  | some expiry =>
    obtain ⟨access, made⟩ : ∃ access, service.codec.issue (claims.reissue
      (TokenName.ofCount (state.namesDrawn + 1)) .access state.now expiry) = access := ⟨_, rfl⟩
    have plain' : (state.minted claims access).Plans Incident.IsPlain := plain
    have ends := ends_isRevoked (state.minted claims access) secretToken
    have unchanged : (state.minted claims access).Unchanged
        ((state.minted claims access).run service (isRevoked secretToken)).2 :=
      unchanged_of_reads ends plain'
    cases asks : (state.minted claims access).run service (isRevoked secretToken) with
    | mk result asked =>
      rw [asks] at unchanged
      cases result with
      | ok found =>
        have answer := isRevoked_iff_holds plain' (congrArg Prod.fst asks)
        obtain rfl : found = false := Bool.eq_false_iff.2 fun yes => absent (answer.1 yes)
        rw [run_mintAccess_of_asked within made asks rfl] at failed
        obtain ⟨⟩ : (.ok access : Except Failure String) = .error failure := failed
      | error fault =>
        obtain ⟨detail, rfl⟩ := Ends.of_error ends.keepsUsers (congrArg Prod.fst asks)
        have ended := run_mintAccess_of_error within made asks
        rw [ended] at failed ⊢
        obtain rfl := Except.error.inj failed
        refine ⟨⟨unchanged.now, unchanged.directory⟩, unchanged.records,
          .inr ⟨claims, ⟨detail, rfl⟩, decoded, ?_⟩⟩
        rw [unchanged.sessions]
        exact unique.loses access claims.exp

/-- **A refresh or a renewal that fails loses the access token of its session at most.** -/
theorem losesAtMost_of_refresh (unique : state.sessions.IsUnique)
    (plain : state.Plans Incident.IsPlain) {operation : Operation String}
    (refreshes : operation = service.refresh secretToken ∨
      ∃ current, operation = service.renew current secretToken)
    (failed : (state.run service operation).1 = .error failure) :
    state.LosesAtMost service secretToken failure (state.run service operation).2 := by
  obtain ⟨next, rfl, goesOn⟩ := exists_minting_of_refreshes refreshes
  have ends := ends_validate service state secretToken .secret
  obtain ⟨-, unchanged, plain'⟩ := (sustains_unchanged service state).run ends ⟨.refl state, plain⟩
  cases validated : (state.run service (service.validate secretToken .secret)).1 with
  | error fault =>
    rw [(run_bind_error validated next).1]
    exact unchanged.losesAtMost
  | ok claims =>
    obtain ⟨decoded, -⟩ := Ends.of_ok ends.keepsUsers validated
    have absent : ¬ state.Holds service secretToken := by
      obtain ⟨_, verified, -⟩ := exists_ok_of_bind validated
      obtain ⟨found, asked, rest⟩ := exists_ok_of_bind verified
      intro holds
      obtain rfl := (isRevoked_iff_holds plain asked).2 holds
      exact absurd rest nofun
    rw [(run_bind_ok validated next).1] at failed ⊢
    rcases goesOn claims with mints | refuses
    · rw [mints] at failed ⊢
      refine (losesAtMost_of_mintAccess ?_ plain' ?_ ?_ failed).behind unchanged
      · rwa [unchanged.sessions]
      · rwa [unchanged.now]
      · exact fun holds => absent (unchanged.records.holds_iff.1 holds)
    · rw [refuses]
      exact unchanged.losesAtMost

/-- **A logout behind it records the same tokens**, except for the access token that was lost. -/
theorem LosesAtMost.logout (loses : before.LosesAtMost service secretToken failure after)
    {other : String} {presented : Option String} {ended ended' : State}
    (left : before.faultless.Goes service (service.logout other presented) () ended)
    (left' : after.faultless.Goes service (service.logout other presented) () ended')
    (decoded : service.codec.decodeAt other .secret before.now = .ok claims)
    (runs : before.sessions.Runs claims.sid before.now) (token : String) :
    (ended'.Holds service token ↔ ended.Holds service token) ∨
      ∃ claims', service.codec.decodeAt secretToken .secret before.now = .ok claims' ∧
        claims'.sid = claims.sid ∧ (before.sessions.clear claims.sid).1.1 = some token := by
  obtain ⟨said, decodes, holds⟩ := left.of_logout ⟨rfl, rfl, rfl⟩
  obtain ⟨said', decodes', holds'⟩ := left'.of_logout ⟨rfl, rfl, rfl⟩
  obtain rfl : said = claims := Except.ok.inj (decodes.symm.trans decoded)
  have now : after.faultless.now = before.faultless.now := loses.now
  obtain rfl : said' = said := by
    rw [now] at decodes'
    exact Except.ok.inj (decodes'.symm.trans decoded)
  have held : after.Holds service token ↔ before.Holds service token := loses.records.holds_iff
  have records := holds token
  have records' := holds' token
  rw [holds_faultless] at records records'
  rw [held, now] at records'
  rcases loses.sessions with same | ⟨claims', -, said, lost⟩
  · left
    rw [records, records', show after.faultless.sessions = before.faultless.sessions from same]
  · by_cases sid : claims'.sid = said'.sid
    · by_cases current : (before.sessions.clear said'.sid).1.1 = some token
      · exact .inr ⟨claims', said, sid, current⟩
      · left
        have cleared : (after.faultless.sessions.clear said'.sid).1 =
            (none, (before.faultless.sessions.clear said'.sid).1.2) := sid ▸ lost.cleared
        have other : (before.faultless.sessions.clear said'.sid).1.1 ≠ some token := current
        simp only [records, records', cleared, other, reduceCtorEq, false_or]
    · left
      have same : (after.faultless.sessions.clear said'.sid).1 =
          (before.faultless.sessions.clear said'.sid).1 :=
        lost.clearedOthers _ (Ne.symm sid) runs
      rw [records, records', same]

end Failing

/-- There is one entry for each session in every reachable state. -/
theorem IsReachable.isUnique (reachable : state.IsReachable service) :
    state.sessions.IsUnique := by
  obtain ⟨start, history, empty, rfl⟩ := reachable
  refine (later_after service history start).changes.preserve (fun _ _ => isUnique_change) ?_
  rw [empty]
  exact List.nodup_nil

end State

/-! ## An access token that is lost -/

/-- Both lookups behind a minting fail, and the access token that was current before is lost. -/
theorem State.exists_withdrawal :
    ∃ (service : Service) (state after : State) (secretToken access session : String)
      (failure : Failure), state.IsReachable service ∧ state.Plans Incident.IsPlain ∧
        state.run service (service.refresh secretToken) = (.error failure, after) ∧
        state.sessions.get? session .access state.now = some access ∧
        after.sessions.get? session .access after.now = none := by
  obtain ⟨service, start, credentials, row, user, ready, -⟩ := exists_isReady .customer
  obtain ⟨_, secret, calls, sessions, logsIn⟩ := ready.exists_logsIn
  have opened := ready.whole.frame (start.namesDrawn + 3) sessions calls
  obtain ⟨access, minted⟩ : ∃ access, service.codec.issue (secret.reissue
    (TokenName.ofCount (start.namesDrawn + 4)) .access start.now 960) = access := ⟨_, rfl⟩
  obtain ⟨calls', refreshes⟩ := opened.goes_refresh rfl logsIn.decoded'
    (logsIn.ofUser' ▸ ready.byId) logsIn.matched' ready.accessEnd minted
  let refreshed : State := { start with
    calls := calls'
    namesDrawn := start.namesDrawn + 4
    sessions := sessions.set secret.sid .access access secret.exp start.now }
  have whole : refreshed.IsWhole service {} := ready.whole.frame _ _ _
  let faulty : State := { refreshed with revocationPlan := [.pass, .fail, .fail] }
  have reachable : faulty.IsReachable service := by
    refine ⟨start, [.login credentials, .refresh (service.codec.issue secret),
      .plan .revocations [.pass, .fail, .fail]], ready.sessions, ?_⟩
    have first : (start.step service (.login credentials)).2 =
        { start with calls, namesDrawn := start.namesDrawn + 3, sessions } :=
      congrArg Prod.snd logsIn.goes.run
    have second : (State.step service (.refresh (service.codec.issue secret))
        { start with calls, namesDrawn := start.namesDrawn + 3, sessions }).2 = refreshed :=
      congrArg Prod.snd refreshes.run
    rw [State.after, List.foldl_cons, first, List.foldl_cons, second]
    rfl
  -- the first lookup is let through, the other two fail
  obtain ⟨noted, validates⟩ := whole.goes_validate_planned rfl logsIn.decoded'
    (logsIn.ofUser' ▸ ready.byId) logsIn.matched' [.fail, .fail]
  let looked : State := { refreshed with calls := noted, revocationPlan := [.fail, .fail] }
  have validates : faulty.Goes service (service.validate (service.codec.issue secret) .secret)
      secret looked := validates
  obtain ⟨other, minted'⟩ : ∃ other, service.codec.issue (secret.reissue
    (TokenName.ofCount (looked.namesDrawn + 1)) .access looked.now 960) = other := ⟨_, rfl⟩
  have within : Time.add? looked.now service.accessLifetime = some 960 := ready.accessEnd
  obtain ⟨detail, fails⟩ : ∃ detail, State.run service (isRevoked (service.codec.issue secret))
      (looked.minted secret other) = (.error (.refused (.storage detail)), _) :=
    exists_run_callStore_of_faults .fail .fail
  have ended := run_mintAccess_of_error within minted' fails
  refine ⟨service, faulty, _, service.codec.issue secret, access, secret.sid, _, reachable, ?_,
    (validates.run_bind _).1.trans ended, ?_, ?_⟩
  · intro incident planned
    have users : faulty.userPlan = [] := whole.calm.userPlan
    rw [users, List.append_nil] at planned
    simp only [faulty, List.mem_cons, List.not_mem_nil, or_false] at planned
    rcases planned with rfl | rfl | rfl
    · exact .pass
    · exact .fail
    · exact .fail
  · exact (SessionCache.keeps_set_self _ _).get? logsIn.running'
  · exact (reachable.isUnique.loses other secret.exp).access

/-- **A refresh that fails changes nothing but the access token of its session.** Let a refresh or a
renewal fail in a reachable state, where calls may fail or stay unanswered as they like. Then users,
record and cache are what they were, unless it failed for storage and the session of its secret
token has lost its access token. A logout of any session that is not over then records what it would
have recorded without the failure, if no store fails in it, except for that access token. -/
theorem failed_refresh {service : Service} {state : State} (reachable : state.IsReachable service)
    (plain : state.Plans Incident.IsPlain) {secretToken : String} {operation : Operation String}
    (refreshes : operation = service.refresh secretToken ∨
      ∃ current, operation = service.renew current secretToken) {failure : Failure}
    (failed : (state.run service operation).1 = .error failure) :
    let after := (state.run service operation).2
    state.LosesAtMost service secretToken failure after ∧
      ∀ other presented ended ended' claims,
        state.faultless.Goes service (service.logout other presented) () ended →
        after.faultless.Goes service (service.logout other presented) () ended' →
        service.codec.decodeAt other .secret state.now = .ok claims →
        state.sessions.Runs claims.sid state.now →
        ∀ token, (ended'.Holds service token ↔ ended.Holds service token) ∨
          ∃ claims', service.codec.decodeAt secretToken .secret state.now = .ok claims' ∧
            claims'.sid = claims.sid ∧ (state.sessions.clear claims.sid).1.1 = some token := by
  have loses := State.losesAtMost_of_refresh reachable.isUnique plain refreshes failed
  exact ⟨loses, fun other presented ended ended' claims left left' decoded runs token =>
    loses.logout left left' decoded runs token⟩

/-- A refresh whose last lookups fail loses no more than the access token of its session. -/
theorem failed_refresh_behind_lookup :
    ∃ (service : Service) (state : State) (secretToken : String) (failure : Failure),
      (state.run service (service.refresh secretToken)).1 = .error failure ∧
        state.LosesAtMost service secretToken failure
          (state.run service (service.refresh secretToken)).2 := by
  obtain ⟨service, state, after, secretToken, access, session, failure, reachable, plain, ran, -,
    -⟩ := State.exists_withdrawal
  have failed : (state.run service (service.refresh secretToken)).1 = .error failure :=
    congrArg Prod.fst ran
  exact ⟨service, state, secretToken, failure, failed,
    (failed_refresh reachable plain (.inl rfl) failed).1⟩

/-- The cache does not show after every failed refresh what it showed before: the access token that
was current is not put back. -/
theorem failed_refresh_loses_access :
    ¬ ∀ (service : Service) (state : State) (secretToken : String) (failure : Failure),
      state.IsReachable service → state.Plans Incident.IsPlain →
        (state.run service (service.refresh secretToken)).1 = .error failure →
          let after := (state.run service (service.refresh secretToken)).2
          ∀ session kind, after.sessions.get? session kind after.now =
            state.sessions.get? session kind state.now := by
  intro unchanged
  obtain ⟨service, state, after, secretToken, access, session, failure, reachable, plain, ran,
    shown, lost⟩ := State.exists_withdrawal
  have same := unchanged service state secretToken failure reachable plain
    (congrArg Prod.fst ran) session .access
  rw [ran] at same
  exact absurd (lost.symm.trans (same.trans shown)) nofun

end DualToken
