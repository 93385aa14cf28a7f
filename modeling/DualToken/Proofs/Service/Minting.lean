import DualToken.Proofs.Service.Custody

/-!
# What is minted

A login, a refresh and a renewal hand out the access token that they made current last in its
session, and a refreshed access token does not outlive the secret token (`State.Goes.of_login`,
`State.Goes.of_minting`). No token is accepted once its time is over.
-/

set_option autoImplicit false

namespace DualToken

open Operation Service

/-! ## Minting -/

section Minting

variable {service : Service} {state middle after : State} {session : String} {α β : Type}

/-- What an operation that mints nothing leaves to the next. -/
theorem lastMinted?_bind {operation : Operation α} {value : α}
    (goes : state.Goes service operation value middle)
    (none : lastMinted? session (state.trace service operation) = none)
    (next : α → Operation β) :
    lastMinted? session (state.trace service (operation >>= next)) =
      lastMinted? session (middle.trace service (next value)) := by
  rw [(goes.run_bind next).2, lastMinted?_append, none, Option.or_none]

/-- Operations that make no access token current mint none. -/
theorem lastMinted?_eq_none {operation : Operation α} {promise : α → Prop}
    (obeys : operation.Obeys (fun action => action.minted? session = none) (fun _ _ => True)
      promise)
    (state : State) : lastMinted? session (state.trace service operation) = none := by
  have nothing : (state.trace service operation).filterMap
      (fun performed => performed.action.minted? session) = [] :=
    List.filterMap_eq_nil_iff.2 fun performed member =>
      Program.Obeys.trace obeys state performed member
  rw [lastMinted?, nothing]
  rfl

/-- Checking a token mints nothing. -/
theorem lastMinted?_of_checks {operation : Operation α} {promise : α → Prop}
    (checks : operation.Obeys (Deed service fun _ => False) (fun _ _ => True) promise)
    (state : State) : lastMinted? session (state.trace service operation) = none := by
  refine lastMinted?_eq_none (checks.imp (fun action deed => ?_) fun _ _ => id) state
  rcases deed.cases_of_none with ⟨call, rfl, -⟩ | rfl | rfl
  · rfl
  · rfl
  · rfl

/-- A value is as promised. -/
theorem State.Goes.promised {operation : Operation α} {value : α} {guarantee : Action → Prop}
    {promise : α → Prop} (goes : state.Goes service operation value after)
    (obeys : operation.Obeys guarantee (fun _ _ => True) promise) : promise value :=
  (Program.Obeys.run (fun _ => True) obeys (fun _ _ _ _ => ⟨trivial, trivial⟩) state trivial).1
    value (congrArg Prod.fst goes.run)

/-- **An access token that is handed out is the one that was minted last**, and it does not outlive
the secret token. -/
theorem State.Goes.of_mintAccess {secretToken token : String} {claims : Claims}
    (goes : state.Goes service (service.mintAccess secretToken claims) token after) :
    lastMinted? claims.sid (state.trace service (service.mintAccess secretToken claims)) =
        some (token, claims.exp) ∧
      ∃ minted, service.codec.Says token minted ∧ minted.exp ≤ claims.exp := by
  obtain ⟨now, ticked, reads, rest, -⟩ := goes.of_bind
  obtain ⟨expiry, added, adds, rest, -⟩ := rest.of_bind
  obtain ⟨name, drawn, draws, rest, -⟩ := rest.of_bind
  obtain ⟨done, current, sets, rest, -⟩ := rest.of_bind
  obtain ⟨result, asked, asks, rest, -⟩ := rest.of_bind
  obtain ⟨revoked, rfl, -⟩ := asks.of_attempt_callStore
  cases revoked with
  | true =>
    obtain ⟨tokens, cleared, -, rest, -⟩ := rest.of_bind
    obtain ⟨made, recorded, -, refused, -⟩ := rest.of_bind
    exact absurd refused.run nofun
  | false =>
    obtain ⟨rfl, -⟩ := rest.unique (State.goes_pure _ asked)
    refine ⟨?_, _, Codec.says_issue service.codec _, claims.exp_reissue_le name .access now expiry⟩
    have crashes : lastMinted? claims.sid (ticked.trace service
        (orCrash (Time.add? now service.accessLifetime))) = none :=
      lastMinted?_eq_none (obeys_orCrash _) ticked
    have lookup : lastMinted? claims.sid (current.trace service
        (Operation.attempt (isRevoked secretToken))) = none :=
      lastMinted?_eq_none (Obeys.attempt (obeys_callStore rfl)) current
    have mints : lastMinted? claims.sid (drawn.trace service (act (.setSession claims.sid .access
        (service.codec.issue (claims.reissue name .access now expiry)) claims.exp))) =
          some (service.codec.issue (claims.reissue name .access now expiry), claims.exp) := by
      refine (lastMinted?_singleton _ _).trans ?_
      rw [Action.minted?, if_pos rfl]
    rw [mintAccess, lastMinted?_bind reads rfl, lastMinted?_bind adds crashes,
      lastMinted?_bind draws rfl, (sets.run_bind _).2, lastMinted?_append,
      lastMinted?_bind asks lookup]
    exact mints

/-- A refresh or a renewal hands out the access token that was minted last. -/
theorem State.Goes.of_minting {secretToken token : String} {claims : Claims}
    (said : service.codec.Says secretToken claims) {operation : Operation String}
    (mints : operation = service.refresh secretToken ∨
      ∃ access, operation = service.renew access secretToken)
    (goes : state.Goes service operation token after) :
    lastMinted? claims.sid (state.trace service operation) = some (token, claims.exp) ∧
      ∃ minted, service.codec.Says token minted ∧ minted.exp ≤ claims.exp := by
  have checks : (service.validate secretToken .secret).Obeys (Deed service fun _ => False)
      (fun _ _ => True) fun claims =>
        ∃ now, service.codec.decodeAt secretToken .secret now = .ok claims :=
    does_validate secretToken .secret
  have unmixed : ∀ {found middle}, state.Goes service (service.validate secretToken .secret) found
      middle → found = claims := by
    intro found middle validates
    obtain ⟨now, decoded⟩ := validates.promised checks
    exact (Codec.says_of_decodeAt decoded).unique said
  rcases mints with rfl | ⟨access, rfl⟩
  · obtain ⟨found, middle, validates, rest, -⟩ := goes.of_bind
    obtain rfl := unmixed validates
    rw [refresh, lastMinted?_bind validates (lastMinted?_of_checks checks state)]
    exact rest.of_mintAccess
  · obtain ⟨found, middle, validates, rest, -⟩ := goes.of_bind
    obtain rfl := unmixed validates
    rw [renew, lastMinted?_bind validates (lastMinted?_of_checks checks state)]
    split at rest
    · next same =>
      rw [if_pos same]
      exact rest.of_mintAccess
    · exact absurd rest.run nofun

theorem obeys_claimsForUser (session : String) (user : User) (session' : String) (kind : TokenKind)
    (lifetime : Int) :
    (claimsForUser user session' kind lifetime).Obeys
      (fun action => action.minted? session = none) (fun _ _ => True)
      fun claims => claims.sid = session' := by
  have reads : clock.Obeys (fun action => action.minted? session = none) (fun _ _ => True)
      fun _ => True := obeys_clock rfl
  have draws : drawName.Obeys (fun action => action.minted? session = none) (fun _ _ => True)
      fun _ => True := obeys_drawName rfl
  refine reads.bind fun now _ => ?_
  refine (obeys_orCrash _).bind fun expiry _ => ?_
  refine draws.bind fun name _ => ?_
  exact obeys_pure rfl

theorem State.Goes.of_issuePair {user : User} {pair : TokenPair}
    (goes : state.Goes service (service.issuePair user) pair after) :
    ∃ secret, service.codec.Says pair.secret secret ∧
      lastMinted? secret.sid (state.trace service (service.issuePair user)) =
        some (pair.access, secret.exp) := by
  obtain ⟨name, drawn, draws, rest, -⟩ := goes.of_bind
  obtain ⟨access, first, makes, rest, -⟩ := rest.of_bind
  obtain ⟨secret, second, makes', rest, -⟩ := rest.of_bind
  obtain ⟨done, current, sets, rest, -⟩ := rest.of_bind
  obtain ⟨done', current', sets', rest, -⟩ := rest.of_bind
  obtain ⟨rfl, -⟩ := rest.unique (State.goes_pure _ current')
  refine ⟨secret, Codec.says_issue service.codec secret, ?_⟩
  obtain rfl : secret.sid = name := makes'.promised (obeys_claimsForUser name ..)
  have mints : lastMinted? secret.sid (second.trace service (act (.setSession secret.sid .access
      (service.codec.issue access) secret.exp))) =
        some (service.codec.issue access, secret.exp) := by
    refine (lastMinted?_singleton _ _).trans ?_
    rw [Action.minted?, if_pos rfl]
  rw [issuePair, lastMinted?_bind draws rfl,
    lastMinted?_bind makes (lastMinted?_eq_none (obeys_claimsForUser ..) drawn),
    lastMinted?_bind makes' (lastMinted?_eq_none (obeys_claimsForUser ..) first),
    (sets.run_bind _).2, lastMinted?_append, lastMinted?_bind sets' rfl]
  exact mints

/-- A login hands out the access token that was minted last. -/
theorem State.Goes.of_login {credentials : Credentials} {pair : TokenPair}
    (goes : state.Goes service (service.login credentials) pair after) :
    ∃ secret, service.codec.Says pair.secret secret ∧
      lastMinted? secret.sid (state.trace service (service.login credentials)) =
        some (pair.access, secret.exp) := by
  obtain ⟨user, middle, looks, rest, -⟩ := goes.of_bind
  have lookup : ∀ session, lastMinted? session (state.trace service
      (callStore (.userByEmail credentials.email))) = none :=
    fun session => lastMinted?_eq_none (obeys_callStore rfl) state
  cases user with
  | none => exact absurd rest.run nofun
  | some user =>
    dsimp only at rest
    split at rest
    · next same =>
      obtain ⟨secret, said, last⟩ := rest.of_issuePair
      refine ⟨secret, said, ?_⟩
      rw [login, lastMinted?_bind looks (lookup secret.sid)]
      dsimp only
      rwa [if_pos same]
    · exact absurd rest.run nofun

end Minting

/-! ## Time -/

/-- The clock shows the time. -/
def Shows (now : Int) : (action : Action) → action.Reply → Prop
  | .clock, time => time = now
  | _, _ => True

/-- What is validated decodes at the time that the clock shows. -/
theorem shows_validate (service : Service) (now : Int) (token : String) (kind : TokenKind) :
    (service.validate token kind).Obeys (fun _ => True) (Shows now)
      fun claims => service.codec.decodeAt token kind now = .ok claims := by
  have calls : ∀ call, (callStore call).Obeys (fun _ => True) (Shows now) fun _ => True :=
    fun call => obeys_callStore trivial
  have reads : clock.Obeys (fun _ => True) (Shows now) fun time => time = now :=
    obeys_clock trivial
  have verified : (service.verify token kind).Obeys (fun _ => True) (Shows now)
      fun claims => service.codec.decodeAt token kind now = .ok claims := by
    refine (calls (.lookup token)).bind fun revoked _ => ?_
    cases revoked with
    | true => exact obeys_refuse .blacklisted
    | false =>
      refine reads.bind ?_
      rintro time rfl
      exact obeys_ofExcept _
  refine verified.bind fun claims decoded => ?_
  refine (calls (.userById claims.sub)).bind fun user _ => ?_
  cases user with
  | none => exact obeys_refuse .identityMismatch
  | some user =>
    dsimp only
    split
    · exact obeys_pure decoded
    · exact obeys_refuse .identityMismatch

/-- A token whose time is over is not accepted. -/
theorem State.IsCalm.not_accepted {service : Service} {state : State} {token : String}
    {claims : Claims} (calm : state.IsCalm) (said : service.codec.Says token claims)
    (late : claims.exp.toInt ≤ state.now) (kind : TokenKind) (accepted : Claims) :
    (state.run service (service.validate token kind)).1 ≠ .ok accepted := by
  intro ok
  have shows : ∀ action middle, True → State.IsCalm middle ∧ middle.now = state.now →
      Shows state.now action (middle.perform service action).1 ∧
        (middle.perform service action).2.IsCalm ∧
        (middle.perform service action).2.now = state.now := by
    rintro action middle - ⟨calm, same⟩
    refine ⟨?_, calm.perform action, (calm.now_perform action).trans same⟩
    cases action with
    | clock =>
      rw [State.perform_clock]
      exact same
    | _ => trivial
  have decoded := (Program.Obeys.run _ (shows_validate service state.now token kind) shows state
    ⟨calm, rfl⟩).1 accepted ok
  obtain rfl := (Codec.says_of_decodeAt decoded).unique said
  exact absurd late (Int.not_le.2 (Codec.decodeAt_eq_ok_iff.1 decoded).2.2)

end DualToken
