import DualToken.Proofs.Service.Withdrawal
import DualToken.Proofs.Token.Name

/-!
# No two tokens are alike

Tokens of the same user and the same session that are minted in the same second say the same, but
for their names. A name is drawn for each token before the token is signed, so along a log the new
tokens are issued for claims that are named with the new names, in the same order (`NamesTokens`).
This is a property that requests inherit, and it does not depend on where the names come from.

The names of a log are consecutive, whatever incidents are met (`Draws`), because the logouts that
come first draw none. So no two tokens of a history are alike, those included that are withdrawn and
never handed out, and recording one of them revokes no other (`new_tokens_distinct`).
-/

set_option autoImplicit false

namespace DualToken

open Operation Service

/-! ## New tokens and new names -/

/-- The name that is drawn. -/
def newName? : Performed Action Action.Reply → Option String
  | ⟨.drawName, name⟩ => some name
  | _ => none

/-- The token that is made current. A token is signed to be made current at once. -/
def newToken? : Performed Action Action.Reply → Option String
  | ⟨.setSession _ _ token _, _⟩ => some token
  | _ => none

/-- The names that are drawn along a log. -/
def newNames (log : List (Performed Action Action.Reply)) : List String :=
  log.filterMap newName?

/-- The tokens that are minted along a log, those included that are withdrawn afterwards. -/
def newTokens (log : List (Performed Action Action.Reply)) : List String :=
  log.filterMap newToken?

theorem newNames_append (log later : List (Performed Action Action.Reply)) :
    newNames (log ++ later) = newNames log ++ newNames later :=
  List.filterMap_append

theorem newTokens_append (log later : List (Performed Action Action.Reply)) :
    newTokens (log ++ later) = newTokens log ++ newTokens later :=
  List.filterMap_append

/-- The new tokens are issued for claims that are named with new names, in the same order. -/
def NamesTokens (codec : Codec) (log : List (Performed Action Action.Reply)) : Prop :=
  ∃ claims : List Claims, newTokens log = claims.map codec.issue ∧
    (claims.map Claims.jti).Sublist (newNames log)

namespace NamesTokens

variable {codec : Codec} {log later : List (Performed Action Action.Reply)}

theorem of_none (none : newTokens log = []) : NamesTokens codec log :=
  ⟨[], none, List.nil_sublist _⟩

theorem append (first : NamesTokens codec log) (second : NamesTokens codec later) :
    NamesTokens codec (log ++ later) := by
  obtain ⟨claims, tokens, names⟩ := first
  obtain ⟨claims', tokens', names'⟩ := second
  refine ⟨claims ++ claims', ?_, ?_⟩
  · rw [newTokens_append, List.map_append, tokens, tokens']
  · rw [newNames_append, List.map_append]
    exact names.append names'

/-- **Where no name is given twice, no two tokens are alike.** -/
theorem nodup (named : NamesTokens codec log) (distinct : (newNames log).Nodup) :
    (newTokens log).Nodup := by
  obtain ⟨claims, tokens, names⟩ := named
  have different : claims.Nodup := List.Nodup.of_map _ (distinct.sublist names)
  rw [tokens]
  exact different.map fun _ _ same => codec.issue_injective same

end NamesTokens

/-! ## Operations name their tokens -/

namespace State

section Naming

variable {α β : Type} {service : Service} {state : State}

theorem trace_clock (service : Service) (state : State) :
    state.trace service clock = [⟨.clock, state.now⟩] := by
  have acts : state.trace service clock = [⟨.clock, (state.perform service .clock).1⟩] := rfl
  rw [acts, perform_clock]

theorem trace_drawName (service : Service) (state : State) :
    state.trace service drawName = [⟨.drawName, TokenName.ofCount (state.namesDrawn + 1)⟩] := by
  have acts : state.trace service drawName =
      [⟨.drawName, (state.perform service .drawName).1⟩] := rfl
  rw [acts, perform_drawName]

/-- An attempt performs what the operation performs. -/
theorem trace_attempt (operation : Operation α) :
    state.trace service (attempt operation) = state.trace service operation := by
  simp only [trace, run_attempt, Program.trace_bind]
  rcases (Program.run (perform service) operation.run state).1 with failure | value
  · cases failure with
    | refused error => exact List.append_nil _
    | crashed => exact List.append_nil _
    | unanswered => exact List.append_nil _
  · exact List.append_nil _

/-- The action draws no name and makes no token current. -/
def MintsNothing (action : Action) : Prop :=
  ∀ reply, newName? ⟨action, reply⟩ = none ∧ newToken? ⟨action, reply⟩ = none

/-- Calling a store mints nothing. -/
theorem obeys_mintless_callStore (call : StoreCall) :
    (callStore call).Obeys MintsNothing (fun _ _ => True) fun _ => True :=
  (obeys_callStore fun _ => ⟨rfl, rfl⟩).mono fun _ _ => trivial

/-- An operation that performs only such actions. -/
theorem mintsNothing_of_obeys (service : Service) {operation : Operation α} {promise : α → Prop}
    (obeys : operation.Obeys MintsNothing (fun _ _ => True) promise) (state : State) :
    newNames (state.trace service operation) = [] ∧
      newTokens (state.trace service operation) = [] := by
  have all : ∀ performed ∈ state.trace service operation, MintsNothing performed.action :=
    Program.Obeys.trace obeys state
  constructor
  · exact List.filterMap_eq_nil_iff.2 fun performed member => (all performed member _).1
  · exact List.filterMap_eq_nil_iff.2 fun performed member => (all performed member _).2

theorem namesTokens_of_obeys {operation : Operation α} {promise : α → Prop}
    (obeys : operation.Obeys MintsNothing (fun _ _ => True) promise) (state : State) :
    NamesTokens service.codec (state.trace service operation) :=
  .of_none (mintsNothing_of_obeys service obeys state).2

theorem namesTokens_bind {operation : Operation α} {next : α → Operation β}
    (first : NamesTokens service.codec (state.trace service operation))
    (second : ∀ value (later : State),
      NamesTokens service.codec (later.trace service (next value))) :
    NamesTokens service.codec (state.trace service (operation >>= next)) := by
  cases outcome : (state.run service operation).1 with
  | error failure =>
    rw [(run_bind_error outcome next).2]
    exact first
  | ok value =>
    rw [(run_bind_ok outcome next).2]
    exact first.append (second value _)

/-! ### Minting -/

/-- A minting makes its token current, asks for the secret token, and goes on with what it finds
out. -/
theorem mintAccess_eq (service : Service) (secretToken : String) (claims : Claims) :
    service.mintAccess secretToken claims = clock >>= fun now =>
      orCrash (Time.add? now service.accessLifetime) >>= fun expiry => drawName >>= fun name =>
        act (.setSession claims.sid .access
            (service.codec.issue (claims.reissue name .access now expiry)) claims.exp) >>= fun _ =>
          attempt (isRevoked secretToken) >>=
            conclude claims (service.codec.issue (claims.reissue name .access now expiry)) :=
  rfl

/-- How a minting goes on gives its own token or fails, and mints no other. -/
theorem obeys_conclude (secretToken : String) (claims : Claims) (access : String) :
    Obeys MintsNothing (fun _ _ => True) (· = access)
      (attempt (isRevoked secretToken) >>= conclude claims access) := by
  have asks : (isRevoked secretToken).Obeys MintsNothing (fun _ _ => True) fun _ => True :=
    obeys_mintless_callStore (.lookup secretToken)
  refine asks.attempt.bind fun answer _ => ?_
  rcases answer with error | revoked
  · exact (obeys_act fun _ => ⟨rfl, rfl⟩).bind fun _ _ => obeys_refuse error
  · cases revoked with
    | false => exact obeys_pure rfl
    | true =>
      exact (obeys_act fun _ => ⟨rfl, rfl⟩).bind fun _ _ =>
        Obeys.bind (obeys_mintless_callStore (.record access)) fun _ _ => obeys_refuse .blacklisted

/-- What a minting performs before it asks for the secret token. -/
theorem trace_mintAccess {claims : Claims} {secretToken access : String} {expiry : Int}
    (within : Time.add? state.now service.accessLifetime = some expiry)
    (made : service.codec.issue
      (claims.reissue (TokenName.ofCount (state.namesDrawn + 1)) .access state.now expiry) =
        access) :
    state.trace service (service.mintAccess secretToken claims) =
      [⟨.clock, state.now⟩, ⟨.drawName, TokenName.ofCount (state.namesDrawn + 1)⟩,
          ⟨.setSession claims.sid .access access claims.exp, ()⟩] ++
        (state.minted claims access).trace service
          (attempt (isRevoked secretToken) >>= conclude claims access) := by
  subst made
  rw [mintAccess_eq, ((goes_clock state).run_bind _).2, ((goes_orCrash within _).run_bind _).2,
    ((goes_drawName _).run_bind _).2, ((goes_setSession _ _ _ _ _).run_bind _).2, within,
    trace_clock, trace_drawName]
  rfl

/-- **A minting draws one name and makes one token current**, which is issued for the claims that
are named so, and no other token is handed out. Or the time of the token would be beyond the range
of times, and nothing is minted. -/
theorem mintAccess_cases (service : Service) (state : State) (secretToken : String)
    (claims : Claims) :
    (newTokens (state.trace service (service.mintAccess secretToken claims)) = [] ∧
      (state.run service (service.mintAccess secretToken claims)).1 = .error .crashed) ∨
    ∃ name expiry, Time.add? state.now service.accessLifetime = some expiry ∧
      newNames (state.trace service (service.mintAccess secretToken claims)) = [name] ∧
      newTokens (state.trace service (service.mintAccess secretToken claims)) =
        [service.codec.issue (claims.reissue name .access state.now expiry)] ∧
      ∀ token, (state.run service (service.mintAccess secretToken claims)).1 = .ok token →
        token = service.codec.issue (claims.reissue name .access state.now expiry) := by
  cases within : Time.add? state.now service.accessLifetime with
  | none =>
    left
    have crashes : (state.run service (service.mintAccess secretToken claims)).1 =
        .error .crashed ∧ state.trace service (service.mintAccess secretToken claims) =
          [⟨.clock, state.now⟩] := by
      rw [mintAccess_eq, ((goes_clock state).run_bind _).1, ((goes_clock state).run_bind _).2,
        within, trace_clock]
      exact ⟨rfl, rfl⟩
    rw [crashes.2]
    exact ⟨rfl, crashes.1⟩
  | some expiry =>
    right
    refine ⟨TokenName.ofCount (state.namesDrawn + 1), expiry, rfl, ?_⟩
    rw [trace_mintAccess within rfl, run_mintAccess within rfl]
    generalize service.codec.issue
      (claims.reissue (TokenName.ofCount (state.namesDrawn + 1)) .access state.now expiry) = access
    have concludes := obeys_conclude secretToken claims access
    obtain ⟨names, tokens⟩ := mintsNothing_of_obeys service concludes
      (state.minted claims access)
    refine ⟨?_, ?_, fun token ok => ?_⟩
    · rw [newNames_append, names]
      rfl
    · rw [newTokens_append, tokens]
      rfl
    · exact (Program.Obeys.run (fun _ => True) concludes
        (fun _ _ _ _ => ⟨trivial, trivial⟩) _ trivial).1 token ok

/-! ### Pairs of tokens -/

/-- Claims for a user are named with the name that is drawn, and nothing is made current yet. -/
theorem claimsForUser_cases (service : Service) (state : State) (user : User) (session : String)
    (kind : TokenKind) (lifetime : Int) :
    newTokens (state.trace service (claimsForUser user session kind lifetime)) = [] ∧
      ∀ claims, (state.run service (claimsForUser user session kind lifetime)).1 = .ok claims →
        newNames (state.trace service (claimsForUser user session kind lifetime)) =
          [claims.jti] := by
  cases within : Time.add? state.now lifetime with
  | none =>
    rw [claimsForUser, ((goes_clock state).run_bind _).1, ((goes_clock state).run_bind _).2, within,
      trace_clock]
    exact ⟨rfl, fun _ ok => absurd ok nofun⟩
  | some expiry =>
    have trace : state.trace service (claimsForUser user session kind lifetime) =
        [⟨.clock, state.now⟩, ⟨.drawName, TokenName.ofCount (state.namesDrawn + 1)⟩] := by
      rw [claimsForUser, ((goes_clock state).run_bind _).2, ((goes_orCrash within _).run_bind _).2,
        ((goes_drawName _).run_bind _).2, within, trace_clock, trace_drawName]
      rfl
    rw [trace, (goes_claimsForUser within).run]
    refine ⟨rfl, ?_⟩
    rintro claims ⟨⟩
    rfl

/-- **Issuing a pair draws two names and makes two tokens current**, which are issued for the claims
that are named so, and the pair is handed out. Or a time would be beyond the range of times, and
nothing is minted. -/
theorem issueIn_cases (service : Service) (state : State) (user : User) (session : String) :
    (newTokens (state.trace service (service.issueIn user session)) = [] ∧
      ∃ failure, (state.run service (service.issueIn user session)).1 = .error failure) ∨
    ∃ access secret : Claims,
      newNames (state.trace service (service.issueIn user session)) = [access.jti, secret.jti] ∧
      newTokens (state.trace service (service.issueIn user session)) =
        [service.codec.issue access, service.codec.issue secret] ∧
      (state.run service (service.issueIn user session)).1 =
        .ok ⟨service.codec.issue access, service.codec.issue secret⟩ := by
  obtain ⟨tokens, names⟩ := claimsForUser_cases service state user session .access
    service.accessLifetime
  rw [issueIn]
  cases made :
      (state.run service (claimsForUser user session .access service.accessLifetime)).1 with
  | error failure =>
    rw [(run_bind_error made _).1, (run_bind_error made _).2]
    exact .inl ⟨tokens, failure, rfl⟩
  | ok access =>
    rw [(run_bind_ok made _).1, (run_bind_ok made _).2]
    generalize (state.run service
      (claimsForUser user session .access service.accessLifetime)).2 = middle
    obtain ⟨tokens', names'⟩ := claimsForUser_cases service middle user session .secret
      service.secretLifetime
    cases made' : (middle.run service
        (claimsForUser user session .secret service.secretLifetime)).1 with
    | error failure =>
      rw [(run_bind_error made' _).1, (run_bind_error made' _).2]
      refine .inl ⟨?_, failure, rfl⟩
      rw [newTokens_append, tokens, tokens']
      rfl
    | ok secret =>
      rw [(run_bind_ok made' _).1, (run_bind_ok made' _).2]
      refine .inr ⟨access, secret, ?_, ?_, rfl⟩
      · rw [newNames_append, newNames_append, names access made, names' secret made']
        rfl
      · rw [newTokens_append, newTokens_append, tokens, tokens']
        rfl

/-! ### The operations of the service -/

theorem namesTokens_issuePair (state : State) (user : User) :
    NamesTokens service.codec (state.trace service (service.issuePair user)) := by
  rw [issuePair_eq]
  refine namesTokens_bind (.of_none (by rw [trace_drawName]; rfl)) fun session later => ?_
  rcases issueIn_cases service later user session
    with ⟨none, -⟩ | ⟨access, secret, names, tokens, -⟩
  · exact .of_none none
  · refine ⟨[access, secret], tokens, ?_⟩
    rw [names]
    exact .refl _

theorem namesTokens_mintAccess (state : State) (secretToken : String) (claims : Claims) :
    NamesTokens service.codec (state.trace service (service.mintAccess secretToken claims)) := by
  rcases mintAccess_cases service state secretToken claims with
    ⟨none, -⟩ | ⟨name, expiry, -, names, tokens, -⟩
  · exact .of_none none
  · refine ⟨[claims.reissue name .access state.now expiry], tokens, ?_⟩
    rw [names]
    exact .refl _

/-- Validating a token mints nothing. -/
theorem obeys_mintless_validate (service : Service) (token : String) (kind : TokenKind) :
    (service.validate token kind).Obeys MintsNothing (fun _ _ => True) fun _ => True :=
  (obeys_validate (fun _ => ⟨rfl, rfl⟩) (fun _ => ⟨rfl, rfl⟩) (fun _ _ => ⟨rfl, rfl⟩) kind).mono
    fun _ _ => trivial

variable (service) in
/-- **Naming new tokens with new names is a property that requests inherit.** -/
theorem compositional_namesTokens : Compositional service fun _ operation =>
    ∀ state : State, NamesTokens service.codec (state.trace service operation) where
  pure _ := fun _ => .of_none rfl
  throw _ := fun _ => .of_none rfl
  bind first second := fun state => namesTokens_bind (first state) second
  attempt named := fun state => (trace_attempt _).symm ▸ named state
  clock := fun state => .of_none (by rw [trace_clock]; rfl)
  createUser form := by
    have creates : MintsNothing (.store (.createUser form)) := fun _ => ⟨rfl, rfl⟩
    have obeys : (await (.createUser form)).Obeys MintsNothing (fun _ _ => True)
        fun _ => True := by
      refine (obeys_act creates).bind fun reply _ => ?_
      rcases reply with result | _
      · exact (obeys_ofExcept result).mono fun _ _ => trivial
      · exact obeys_throw .unanswered
    exact namesTokens_of_obeys obeys
  listRevoked := namesTokens_of_obeys (obeys_mintless_callStore .list)
  login credentials := by
    intro state
    rw [login_eq]
    have known : (authenticate credentials).Obeys MintsNothing (fun _ _ => True) fun _ => True :=
      obeys_authenticate fun _ => ⟨rfl, rfl⟩
    exact namesTokens_bind (namesTokens_of_obeys known state) fun user later =>
      namesTokens_issuePair later user
  validate token kind := namesTokens_of_obeys (obeys_mintless_validate service token kind)
  refresh secretToken := fun state => by
    refine namesTokens_bind (namesTokens_of_obeys (obeys_mintless_validate service _ _) state) ?_
    exact fun claims later => namesTokens_mintAccess later secretToken claims
  renew access secretToken := fun state => by
    refine namesTokens_bind (namesTokens_of_obeys (obeys_mintless_validate service _ _) state) ?_
    intro claims later
    split
    · exact namesTokens_mintAccess later secretToken claims
    · exact .of_none rfl
  logout secretToken presented := by
    refine namesTokens_of_obeys (obeys_logout ?_ ?_ ?_ ?_ presented)
    · exact fun _ => ⟨rfl, rfl⟩
    · exact fun _ => ⟨rfl, rfl⟩
    · exact fun _ _ => ⟨rfl, rfl⟩
    · exact fun _ _ _ => ⟨rfl, rfl⟩

/-! ### What is handed out -/

/-- What is minted behind an operation that mints nothing. -/
theorem newTokens_bind {operation : Operation α} {next : α → Operation β} {result : β}
    (none : newTokens (state.trace service operation) = [])
    (ok : (state.run service (operation >>= next)).1 = .ok result) :
    ∃ value, newTokens (state.trace service (operation >>= next)) =
        newTokens ((state.run service operation).2.trace service (next value)) ∧
      ((state.run service operation).2.run service (next value)).1 = .ok result := by
  obtain ⟨value, first, second⟩ := exists_ok_of_bind ok
  refine ⟨value, ?_, second⟩
  rw [(run_bind_ok first next).2, newTokens_append, none, List.nil_append]

/-- Issuing a pair mints the pair that it hands out. -/
theorem newTokens_issuePair {user : User} {pair : TokenPair}
    (ok : (state.run service (service.issuePair user)).1 = .ok pair) :
    newTokens (state.trace service (service.issuePair user)) = [pair.access, pair.secret] := by
  rw [issuePair_eq] at ok ⊢
  have none : newTokens (state.trace service drawName) = [] := by
    rw [trace_drawName]
    rfl
  obtain ⟨session, same, issued⟩ := newTokens_bind none ok
  rw [same]
  rcases issueIn_cases service _ user session with
    ⟨-, failure, failed⟩ | ⟨access, secret, -, tokens, made⟩
  · exact absurd (issued.symm.trans failed) nofun
  · obtain rfl := Except.ok.inj (issued.symm.trans made)
    exact tokens

/-- Logging in mints the pair that it hands out. -/
theorem newTokens_login {credentials : Credentials} {pair : TokenPair}
    (ok : (state.run service (service.login credentials)).1 = .ok pair) :
    newTokens (state.trace service (service.login credentials)) = [pair.access, pair.secret] := by
  rw [login_eq] at ok ⊢
  have known : (authenticate credentials).Obeys MintsNothing (fun _ _ => True) fun _ => True :=
    obeys_authenticate fun _ => ⟨rfl, rfl⟩
  obtain ⟨user, same, issued⟩ := newTokens_bind (mintsNothing_of_obeys service known state).2 ok
  rw [same]
  exact newTokens_issuePair issued

theorem newTokens_mintAccess {secretToken token : String} {claims : Claims}
    (ok : (state.run service (service.mintAccess secretToken claims)).1 = .ok token) :
    newTokens (state.trace service (service.mintAccess secretToken claims)) = [token] := by
  rcases mintAccess_cases service state secretToken claims with
    ⟨-, crashed⟩ | ⟨name, expiry, -, -, tokens, made⟩
  · exact absurd (ok.symm.trans crashed) nofun
  · rw [tokens, made token ok]

/-- Refreshing mints the token that it hands out. -/
theorem newTokens_refresh {secretToken token : String}
    (ok : (state.run service (service.refresh secretToken)).1 = .ok token) :
    newTokens (state.trace service (service.refresh secretToken)) = [token] := by
  have checks := obeys_mintless_validate service secretToken .secret
  obtain ⟨claims, same, minted⟩ := newTokens_bind (mintsNothing_of_obeys service checks state).2 ok
  exact same.trans (newTokens_mintAccess minted)

/-- Renewing mints the token that it hands out. -/
theorem newTokens_renew {access : Claims} {secretToken token : String}
    (ok : (state.run service (service.renew access secretToken)).1 = .ok token) :
    newTokens (state.trace service (service.renew access secretToken)) = [token] := by
  have checks := obeys_mintless_validate service secretToken .secret
  obtain ⟨claims, same, minted⟩ := newTokens_bind (mintsNothing_of_obeys service checks state).2 ok
  rw [Service.renew, same]
  split at minted
  · next own =>
    rw [if_pos own]
    exact newTokens_mintAccess minted
  · cases minted

end Naming

end State

/-! ## Names are consecutive -/

/-- The names that are drawn along a log are those of the counters from one to another. -/
def Draws (log : List (Performed Action Action.Reply)) (first last : Nat) : Prop :=
  ∃ count, last = first + count ∧
    newNames log = (List.range' (first + 1) count).map TokenName.ofCount

namespace Draws

variable {log later : List (Performed Action Action.Reply)} {first middle last : Nat}

theorem of_none (none : newNames log = []) (count : Nat) : Draws log count count :=
  ⟨0, rfl, none⟩

theorem append (draws : Draws log first middle) (further : Draws later middle last) :
    Draws (log ++ later) first last := by
  obtain ⟨count, rfl, names⟩ := draws
  obtain ⟨count', rfl, names'⟩ := further
  refine ⟨count + count', Nat.add_assoc _ _ _, ?_⟩
  rw [newNames_append, names, names', ← List.map_append, Nat.add_right_comm, List.range'_append_1]

theorem le (draws : Draws log first last) : first ≤ last := by
  obtain ⟨count, rfl, -⟩ := draws
  exact Nat.le_add_right first count

/-- Where no name is drawn, the count stays. -/
theorem last_eq_of_none (draws : Draws log first last) (none : newNames log = []) :
    last = first := by
  obtain ⟨count, rfl, names⟩ := draws
  rw [none, eq_comm, List.map_eq_nil_iff, List.range'_eq_nil_iff] at names
  rw [names, Nat.add_zero]

/-- Consecutive names are different. -/
theorem nodup (draws : Draws log first last) : (newNames log).Nodup := by
  obtain ⟨count, -, names⟩ := draws
  rw [names]
  exact List.Nodup.map TokenName.ofCount_injective List.nodup_range'

end Draws

namespace State

variable {service : Service} {state : State}

/-- **An action draws the next name, or none.** No logout that comes first draws any. -/
theorem draws_perform (service : Service) (state : State) (action : Action) :
    Draws [⟨action, (state.perform service action).1⟩] state.namesDrawn
      (state.perform service action).2.namesDrawn := by
  by_cases draws : action = .drawName
  · subst draws
    rw [perform_drawName]
    exact ⟨1, rfl, rfl⟩
  · have kept : (state.perform service action).2.namesDrawn = state.namesDrawn :=
      ((sustains_namesDrawn service state.namesDrawn).performWithin state.incidentCount draws rfl).2
    rw [kept]
    refine .of_none ?_ _
    cases action with
    | drawName => exact absurd rfl draws
    | _ => rfl

/-- What a program draws, whatever incidents it meets. -/
theorem draws_run {α : Type} (program : Program Action Action.Reply α) (state : State) :
    Draws (program.trace (perform service) state) state.namesDrawn
      (program.run (perform service) state).2.namesDrawn := by
  induction program generalizing state with
  | done result => exact .of_none rfl _
  | act action next ih =>
    rw [Program.trace_act, Program.run_act]
    exact (draws_perform service state action).append (ih _ _)

end State

/-- What an event draws. Only operations draw names. -/
theorem Event.draws (service : Service) (event : Event) (state : State) :
    Draws (event.trace service state) state.namesDrawn
      (state.step service event).2.namesDrawn := by
  have changed : ∀ change, (state.changeUsers change).2.namesDrawn = state.namesDrawn := by
    intro change
    obtain ⟨directory, same⟩ := State.exists_changeUsers change state
    rw [same]
  cases event with
  | login credentials => exact State.draws_run _ state
  | issuePair user => exact State.draws_run _ state
  | validate token kind => exact State.draws_run _ state
  | refresh secretToken => exact State.draws_run _ state
  | renew access secretToken => exact State.draws_run _ state
  | logout secretToken presented => exact State.draws_run _ state
  | isRevoked token => exact State.draws_run _ state
  | listRevoked => exact State.draws_run _ state
  | request arrived => exact State.draws_run _ state
  | editUser id change =>
    rw [State.step, changed]
    exact .of_none rfl _
  | deleteUser id =>
    rw [State.step, changed]
    exact .of_none rfl _
  | dropTable table =>
    obtain ⟨directory, records, -, same⟩ := State.exists_dropTable table state
    rw [State.step, same]
    exact .of_none rfl _
  | plan store incidents =>
    cases store with
    | revocations => exact .of_none rfl _
    | users => exact .of_none rfl _
  | _ => exact .of_none rfl _

/-- The tokens of an event are named with its names. -/
theorem Event.namesTokens (service : Service) (event : Event) (state : State) :
    NamesTokens service.codec (event.trace service state) := by
  have named := State.compositional_namesTokens service
  cases event with
  | login credentials => exact named.login credentials state
  | issuePair user => exact State.namesTokens_issuePair state user
  | validate token kind => exact named.validate token kind state
  | refresh secretToken => exact named.refresh secretToken state
  | renew access secretToken => exact named.renew access secretToken state
  | logout secretToken presented => exact named.logout secretToken presented state
  | isRevoked token =>
    exact State.namesTokens_of_obeys (State.obeys_mintless_callStore (.lookup token)) state
  | listRevoked => exact named.listRevoked state
  | request arrived => exact named.respond arrived state
  | _ => exact .of_none rfl

namespace State

/-- **The names of a history are consecutive, and its tokens are named with them.** -/
theorem draws_log (service : Service) (history : List Event) (state : State) :
    Draws (state.log service history) state.namesDrawn (state.after service history).namesDrawn ∧
      NamesTokens service.codec (state.log service history) := by
  induction history generalizing state with
  | nil => exact ⟨.of_none rfl _, .of_none rfl⟩
  | cons event later ih =>
    obtain ⟨draws, named⟩ := ih (state.step service event).2
    exact ⟨(event.draws service state).append draws, (event.namesTokens service state).append named⟩

end State

/-! ## Distinct tokens -/

/-- Recording a token makes no other token recorded, and takes none out of the record. -/
theorem State.holds_record_of_ne {service : Service} {state : State} {token other : String}
    (alone : state.revocations.server.rivals = []) (different : token ≠ other) :
    (state.record service token).2.Holds service other ↔ state.Holds service other := by
  constructor
  · intro holds
    by_contra absent
    exact RevocationStore.not_holds_record state.now different.symm alone absent holds
  · exact fun holds => RevocationStore.Holds.record holds token state.now

/-- **No two tokens of a history are alike.** Whatever happens, and whichever incidents are met, the
tokens that are minted along a history are issued for claims with the names that are drawn along it,
which are all different. So the tokens at any two places are different texts, and recording one of
them revokes the other neither way. What logging in, issuing a pair, refreshing and renewing hand
out are the tokens that they mint. -/
theorem new_tokens_distinct (service : Service) :
    (∀ start history, NamesTokens service.codec (State.log service history start) ∧
      (newNames (State.log service history start)).Nodup ∧
      (newTokens (State.log service history start)).Pairwise fun first second =>
        first ≠ second ∧ ∀ state : State, state.revocations.server.rivals = [] →
          ((state.record service first).2.Holds service second ↔ state.Holds service second) ∧
            ((state.record service second).2.Holds service first ↔ state.Holds service first)) ∧
      (∀ (state : State) credentials pair,
        (state.run service (service.login credentials)).1 = .ok pair →
          newTokens (state.trace service (service.login credentials)) =
            [pair.access, pair.secret]) ∧
      (∀ (state : State) user pair, (state.run service (service.issuePair user)).1 = .ok pair →
        newTokens (state.trace service (service.issuePair user)) = [pair.access, pair.secret]) ∧
      (∀ (state : State) secretToken token,
        (state.run service (service.refresh secretToken)).1 = .ok token →
          newTokens (state.trace service (service.refresh secretToken)) = [token]) ∧
      ∀ (state : State) access secretToken token,
        (state.run service (service.renew access secretToken)).1 = .ok token →
          newTokens (state.trace service (service.renew access secretToken)) = [token] := by
  refine ⟨fun start history => ?_, ?_, ?_, ?_, ?_⟩
  · obtain ⟨draws, named⟩ := State.draws_log service history start
    refine ⟨named, draws.nodup, (named.nodup draws.nodup).imp fun different => ?_⟩
    refine ⟨different, fun state alone => ⟨?_, ?_⟩⟩
    · exact State.holds_record_of_ne alone different
    · exact State.holds_record_of_ne alone different.symm
  · exact fun _ _ _ ok => State.newTokens_login ok
  · exact fun _ _ _ ok => State.newTokens_issuePair ok
  · exact fun _ _ _ ok => State.newTokens_refresh ok
  · exact fun _ _ _ _ ok => State.newTokens_renew ok

/-- A user logs in twice in the same second. The four tokens that are handed out are all different.
-/
theorem two_logins_distinct :
    ∃ (service : Service) (start : State) (credentials : Credentials) (first second : TokenPair),
      newTokens (start.log service [.login credentials, .login credentials]) =
          [first.access, first.secret, second.access, second.secret] ∧
        [first.access, first.secret, second.access, second.secret].Nodup := by
  obtain ⟨service, start, credentials, row, user, ready, -⟩ := State.exists_isReady .customer
  obtain ⟨first, calls, sessions, logsIn⟩ :=
    ready.exists_goes_login start.calls start.namesDrawn start.sessions
  obtain ⟨second, calls', sessions', logsIn'⟩ :=
    ready.exists_goes_login calls (start.namesDrawn + 3) sessions
  have tokens : newTokens (start.log service [.login credentials, .login credentials]) =
      [first.access, first.secret, second.access, second.secret] := by
    have here := State.newTokens_login (congrArg Prod.fst logsIn.run)
    have there := State.newTokens_login (congrArg Prod.fst logsIn'.run)
    have behind : (start.step service (.login credentials)).2 = _ := congrArg Prod.snd logsIn.run
    rw [State.log, State.log, State.log, newTokens_append, newTokens_append, behind]
    exact congrArg₂ (· ++ ·) here (congrArg (· ++ []) there)
  refine ⟨service, start, credentials, first, second, tokens, ?_⟩
  obtain ⟨-, -, distinct⟩ := (new_tokens_distinct service).1 start
    [.login credentials, .login credentials]
  rw [tokens] at distinct
  exact distinct.imp And.left

end DualToken
