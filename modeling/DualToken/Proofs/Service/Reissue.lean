import DualToken.Proofs.Http.Gate
import DualToken.Proofs.Service.Freshness

/-!
# Refreshed tokens stay within their session

An access token that is handed out for a secret token, by refreshing, by renewing, or by the gate on
the way to a handler, takes over what the secret token says about the user and the session
(`State.Reissue`). It is over when the secret token is, at the latest: the two expiries are compared
as integers, because a time that lies within the range of times fits a signed word.

So refreshing late, or often, makes no session longer. Until its own time is over, and unless it is
recorded or the row of the user changes, the token is as good as one that came from a login
(`reissued_within_session`).
-/

set_option autoImplicit false

namespace DualToken

open Operation Service

/-! ## Times that fit -/

/-- A time from which a span leads to another time fits a signed word, and so does the other. -/
theorem Time.toInt_ofInt_of_add? {time span later : Int} (sum : add? time span = some later) :
    later = time + span ∧ (Int64.ofInt time).toInt = time ∧ (Int64.ofInt later).toInt = later := by
  rw [add?] at sum
  split at sum
  · next within =>
    obtain rfl := Option.some.inj sum
    simp only [longestSpan, earliest, latest] at within
    refine ⟨rfl, ?_, ?_⟩
    · exact Int64.toInt_ofInt_of_le (by omega) (by omega)
    · exact Int64.toInt_ofInt_of_le (by omega) (by omega)
  · exact absurd sum nofun

/-- Claims made anew are over at the earlier of the two ends. -/
theorem Claims.toInt_exp_reissue (claims : Claims) (name : String) (kind : TokenKind)
    (now expiry : Int) : (claims.reissue name kind now expiry).exp.toInt =
      min (Int64.ofInt expiry).toInt claims.exp.toInt := by
  have unfolded : (claims.reissue name kind now expiry).exp =
      if Int64.ofInt expiry ≤ claims.exp then Int64.ofInt expiry else claims.exp := rfl
  rw [unfolded]
  split
  · next before =>
    rw [Int64.le_iff_toInt_le] at before
    omega
  · next after =>
    rw [Int64.le_iff_toInt_le] at after
    omega

/-- Claims that name the identity of a user agree with the user. -/
theorem Claims.matches_of_identity {claims : Claims} {user : User}
    (same : Identity.ofClaims claims = Identity.ofUser user) : claims.matchesUser user = true := by
  simp only [Identity.ofClaims, Identity.ofUser, Identity.mk.injEq] at same
  obtain ⟨sub, role, name, email, phoneNumber, address⟩ := same
  rw [matchesUser, sub, role, name, email, phoneNumber, address]
  simp

/-! ## Handing out for a secret token -/

namespace State

/-- An access token is handed out for a secret token; the log is what is performed for that. -/
inductive Reissues (service : Service) (state : State) (secretToken token : String) :
    List (Performed Action Action.Reply) → Prop
  | refresh (ok : (state.run service (service.refresh secretToken)).1 = .ok token) :
      Reissues service state secretToken token (state.trace service (service.refresh secretToken))
  | renew (access : Claims)
      (ok : (state.run service (service.renew access secretToken)).1 = .ok token) :
      Reissues service state secretToken token
        (state.trace service (service.renew access secretToken))
  /-- The gate renews the access token of a request. -/
  | gate (headers : Headers) (access : Claims)
      (carried : Carrier.token? headers .secret = some secretToken)
      (ok : (state.run service (Gate.renewal service headers access)).1 = .ok (some token)) :
      Reissues service state secretToken token
        (state.trace service (Gate.renewal service headers access))

/-- The access token is issued for claims that are made anew from those of the secret token. -/
structure Reissue (service : Service) (state : State) (secretToken token : String)
    (log : List (Performed Action Action.Reply)) (secret minted : Claims) (user : User) : Prop where
  /-- The secret token is read at this time. -/
  decoded : service.codec.decodeAt secretToken .secret state.now = .ok secret
  /-- There is a row of the user. -/
  row : state.directory.Has secret.sub user
  /-- The claims of the secret token agree with the row. -/
  agrees : secret.matchesUser user = true
  issued : token = service.codec.issue minted
  /-- The name is the only one that is drawn. -/
  named : newNames log = [minted.jti]
  kind : minted.kind = .access
  session : minted.sid = secret.sid
  identity : Identity.ofClaims minted = Identity.ofClaims secret
  issuedAt : minted.iat.toInt = state.now
  /-- The lifetime of access tokens is cut off at the end of the secret token. -/
  expiry : minted.exp.toInt = min (state.now + service.accessLifetime) secret.exp.toInt

section Reissuing

variable {service : Service} {state : State} {secretToken token : String}
  {log : List (Performed Action Action.Reply)}

/-- Refreshing, renewing and the renewal at the gate validate the secret token and mint an access
token from its claims. -/
theorem exists_reissue_of_mint {next : Claims → Operation String}
    (mints : ∀ claims, next claims = service.mintAccess secretToken claims ∨
      ∃ error, next claims = refuse error)
    (ok : (state.run service (service.validate secretToken .secret >>= next)).1 = .ok token) :
    ∃ secret minted user, state.Reissue service secretToken token
      (state.trace service (service.validate secretToken .secret >>= next)) secret minted user := by
  obtain ⟨secret, checked, rest⟩ := exists_ok_of_bind ok
  have ends := (ends_validate service state secretToken .secret).keepsUsers
  obtain ⟨decoded, user, found, agrees⟩ := Ends.of_ok ends checked
  obtain ⟨now, -⟩ := (Ends.run service ends).2
  have nameless := (mintsNothing_of_obeys service
    (obeys_mintless_validate service secretToken .secret) state).1
  rcases mints secret with minting | ⟨error, refuses⟩
  · rw [minting] at rest
    rcases mintAccess_cases service (state.run service (service.validate secretToken .secret)).2
      secretToken secret with ⟨-, crashed⟩ | ⟨name, expiry, within, names, -, made⟩
    · exact absurd (rest.symm.trans crashed) nofun
    · rw [now] at within made
      obtain ⟨rfl, issuedAt, fits⟩ := Time.toInt_ofInt_of_add? within
      refine ⟨secret, secret.reissue name .access state.now (state.now + service.accessLifetime),
        user, decoded, Directory.userById_eq_ok_iff.1 found, agrees, made token rest, ?_, rfl, rfl,
        rfl, issuedAt, ?_⟩
      · rw [(run_bind_ok checked next).2, newNames_append, nameless, minting, names]
        rfl
      · rw [Claims.toInt_exp_reissue, fits]
  · rw [refuses] at rest
    exact absurd rest nofun

/-- What the gate hands on is what renewing hands out, and nothing else is named. -/
theorem renewed_of_renewal {headers : Headers} {access : Claims}
    (carried : Carrier.token? headers .secret = some secretToken)
    (ok : (state.run service (Gate.renewal service headers access)).1 = .ok (some token)) :
    (state.run service (service.renew access secretToken)).1 = .ok token ∧
      newNames (state.trace service (Gate.renewal service headers access)) =
        newNames (state.trace service (service.renew access secretToken)) := by
  rw [Gate.renewal, carried, ((goes_clock state).run_bind _).1] at ok
  rw [Gate.renewal, carried, ((goes_clock state).run_bind _).2, trace_clock]
  split at ok
  · next due =>
    rw [if_pos due]
    obtain ⟨result, attempted, handed⟩ := exists_ok_of_bind ok
    rw [(run_bind_ok attempted _).2, trace_attempt]
    rw [run_attempt_eq] at attempted
    rcases result with error | other
    · exact absurd handed nofun
    · obtain rfl : other = token := Option.some.inj (Except.ok.inj handed)
      have renewed : (state.run service (service.renew access secretToken)).1 = .ok other := by
        generalize (state.run service (service.renew access secretToken)).1 = outcome at attempted
        rcases outcome with failure | value
        · cases failure with
          | refused error => exact absurd attempted nofun
          | crashed => exact absurd attempted nofun
          | unanswered => exact absurd attempted nofun
        · cases attempted
          rfl
      refine ⟨renewed, ?_⟩
      rw [newNames_append, newNames_append]
      exact List.append_nil _
  · exact absurd ok nofun

/-- **Whatever is handed out for a secret token is issued for claims that are made anew from those
of the secret token.** -/
theorem Reissues.exists_reissue (reissues : state.Reissues service secretToken token log) :
    ∃ secret minted user,
      state.Reissue service secretToken token log secret minted user := by
  have renewed : ∀ access, (state.run service (service.renew access secretToken)).1 = .ok token →
      ∃ secret minted user, state.Reissue service secretToken token
        (state.trace service (service.renew access secretToken)) secret minted user := by
    intro access ok
    refine exists_reissue_of_mint (fun claims => ?_) ok
    split
    · exact .inl rfl
    · exact .inr ⟨_, rfl⟩
  cases reissues with
  | refresh ok => exact exists_reissue_of_mint (fun _ => .inl rfl) ok
  | renew access ok => exact renewed access ok
  | gate headers access carried ok =>
    obtain ⟨ok, names⟩ := renewed_of_renewal carried ok
    obtain ⟨secret, minted, user, reissue⟩ := renewed access ok
    exact ⟨secret, minted, user, { reissue with named := names.trans reissue.named }⟩

namespace Reissue

variable {secret minted : Claims} {user : User}

/-- From the end of the secret token on, the access token decodes as neither kind. -/
theorem decodeAt_of_over (reissue : state.Reissue service secretToken token log secret minted user)
    {now : Int} (ended : secret.exp.toInt ≤ now) (kind : TokenKind) :
    ∃ error, service.codec.decodeAt token kind now = .error error := by
  cases decoded : service.codec.decodeAt token kind now with
  | error error => exact ⟨error, rfl⟩
  | ok claims =>
    obtain ⟨-, -, running⟩ := Codec.decodeAt_eq_ok_iff.1 decoded
    have said := Codec.says_of_decodeAt decoded
    rw [reissue.issued] at said
    obtain rfl := said.unique (service.codec.says_issue minted)
    have expiry := reissue.expiry
    omega

/-- **The access token validates without faults, as what it was issued for**, until its own time is
over, if it is not recorded and the row of its user shows the same identity. -/
theorem validates (reissue : state.Reissue service secretToken token log secret minted user)
    {later : State} {user' : User} (early : 0 ≤ later.now) (running : later.now < minted.exp.toInt)
    (calm : later.IsCalm) (absent : ¬ later.Holds service token)
    (row : later.directory.Has secret.sub user')
    (same : Identity.ofUser user' = Identity.ofUser user)
    (succeeds : Action.Succeeds (.store (.lookup token))
      (later.perform service (.store (.lookup token))).1) :
    (later.run service (service.validate token .access)).1 = .ok minted := by
  obtain ⟨found, answered, recorded⟩ := calm.exists_lookup succeeds
  obtain rfl : found = false := Bool.eq_false_iff.2 fun yes => absent (recorded.1 yes)
  have decoded : service.codec.decodeAt token .access later.now = .ok minted := by
    rw [reissue.issued, ← reissue.kind]
    exact Codec.decodeAt_issue_of_lt early running
  have identity : Identity.ofClaims minted = Identity.ofUser user' := by
    rw [reissue.identity, Claims.identity_of_matches reissue.agrees, same]
  have own : minted.sub = secret.sub := congrArg Identity.userId reissue.identity
  have vouches : later.Vouches service token minted user' :=
    ⟨.inl (clears_of_answered answered), decoded, own ▸ row, Claims.matches_of_identity identity⟩
  obtain ⟨after, goes⟩ := vouches.goes_validate calm succeeds
  rw [goes.run]

end Reissue

end Reissuing

end State

/-- **No refreshed access token outlives its secret token or departs from it.** Whatever access
token is handed out for a secret token, in any state and behind any faults, says what the secret
token says about the user and the session. It is an access token that is issued now under a name of
its own, and it is over when the lifetime of access tokens is over or the secret token is, whichever
is earlier. From the end of the secret token on it decodes as nothing and every check refuses it.
Until its own end it validates as just these claims if no store fails, unless it is recorded or the
user's row has changed. -/
theorem reissued_within_session (service : Service) {state : State} {secretToken token : String}
    {log : List (Performed Action Action.Reply)}
    (reissues : state.Reissues service secretToken token log) :
    ∃ secret minted user, state.Reissue service secretToken token log secret minted user ∧
      (∀ later : State, secret.exp.toInt ≤ later.now → ∀ kind,
        (∃ error, service.codec.decodeAt token kind later.now = .error error) ∧
          later.RefusesCheck service (service.validate token kind)) ∧
      ∀ (later : State) user', 0 ≤ later.now → later.now < minted.exp.toInt → later.IsCalm →
        ¬ later.Holds service token → later.directory.Has secret.sub user' →
        Identity.ofUser user' = Identity.ofUser user →
        (∀ performed ∈ later.trace service (service.validate token .access),
          performed.action.Succeeds performed.reply) →
        (later.run service (service.validate token .access)).1 = .ok minted := by
  obtain ⟨secret, minted, user, reissue⟩ := reissues.exists_reissue
  refine ⟨secret, minted, user, reissue, ?_, ?_⟩
  · intro later ended kind
    obtain ⟨error, undecodable⟩ := reissue.decodeAt_of_over ended kind
    exact ⟨⟨error, undecodable⟩, (State.refusesCheck_verify undecodable).bind _⟩
  · intro later user' early running calm absent row same succeed
    refine reissue.validates early running calm absent row same ?_
    obtain ⟨found, answered⟩ := State.exists_answer fun performed member =>
      succeed performed (State.mem_trace_bind _ (State.mem_trace_bind _ member))
    exact ⟨found, congrArg Prod.fst answered⟩

/-- A session is refreshed a minute before its end. The new access token is over with the session,
and not fifteen minutes later, and it is refused from then on. -/
theorem refreshed_before_end_of_session :
    ∃ (service : Service) (state : State) (secretToken token : String),
      state.Reissues service secretToken token
          (state.trace service (service.refresh secretToken)) ∧
        ∃ secret minted user, state.Reissue service secretToken token
            (state.trace service (service.refresh secretToken)) secret minted user ∧
          secret.exp.toInt < state.now + service.accessLifetime ∧
          minted.exp.toInt = secret.exp.toInt ∧
          ({ state with now := secret.exp.toInt } : State).RefusesCheck service
            (service.validate token .access) := by
  obtain ⟨service, start, credentials, row, user, ready, -⟩ := State.exists_isReady .customer
  have lifetime : service.accessLifetime = 900 := by
    have sum := (Time.toInt_ofInt_of_add? ready.accessEnd).1
    have now := ready.now
    omega
  let state : State := { start with now := 86400 }
  let secret : Claims := Claims.forUser user "session" "name" .secret 60 86460
  have whole : state.IsWhole service {} :=
    ⟨ready.whole.backend, ⟨ready.whole.calm.revocationPlan, ready.whole.calm.userPlan,
      ready.whole.calm.rivals⟩, ready.whole.table⟩
  have running : (86400 : Int) < (Int64.ofInt 86460).toInt := by decide
  have decoded : service.codec.decodeAt (service.codec.issue secret) .secret state.now =
      .ok secret := Codec.decodeAt_issue_of_lt (Int.natCast_nonneg 86400) running
  have within : Time.add? 86400 service.accessLifetime = some 87300 := by
    rw [lifetime]
    decide
  obtain ⟨calls, refreshes⟩ := whole.goes_refresh rfl decoded ready.byId
    (State.matchesUser_forUser user _ _ _ _ _) within rfl
  have reissues := State.Reissues.refresh (congrArg Prod.fst refreshes.run)
  obtain ⟨secret', minted, user', reissue, ended, -⟩ := reissued_within_session service reissues
  obtain rfl : secret = secret' := Except.ok.inj (decoded.symm.trans reissue.decoded)
  have cut : (Int64.ofInt 86460).toInt < 86400 + service.accessLifetime := by
    rw [lifetime]
    decide
  refine ⟨service, state, _, _, reissues, secret, minted, user', reissue, cut, ?_, ?_⟩
  · rw [reissue.expiry]
    exact Int.min_eq_right (Int.le_of_lt cut)
  · exact (ended _ (Int.le_refl _) .access).2

end DualToken
