import DualToken.Proofs.Service.Performing

/-!
# Why operations are refused

The stores and the clock answer for one state: the clock does not move while an operation runs, what
is said about the users is true of the directory as it was, and a call that fails is an error of
storage (`State.Replies`). This is so whatever incidents the calls meet, because no logout that
comes first creates a user (`State.sustains_replies`).

`Operation.Ends` is a contract that bounds how an operation fails as well as what its value is.
Under such replies a check fails because the token is not acceptable or because a store failed, and
for no other reason; minting may also break off; and logging in is refused for its credentials or
for storage.
-/

set_option autoImplicit false

namespace DualToken

/-! ## Kinds of failures -/

/-- The error says that a token is not acceptable. -/
inductive AuthError.RefusesToken : AuthError → Prop
  | invalidSignature : RefusesToken .invalidSignature
  | expired : RefusesToken .expired
  | blacklisted : RefusesToken .blacklisted
  | identityMismatch : RefusesToken .identityMismatch

namespace Failure

/-- A store failed or did not answer. -/
def IsOfStorage (failure : Failure) : Prop :=
  ∃ detail, failure = .refused (.storage detail)

/-- A token is not acceptable, or that cannot be found out. -/
def IsOfCheck (failure : Failure) : Prop :=
  (∃ error : AuthError, error.RefusesToken ∧ failure = .refused error) ∨ failure.IsOfStorage

/-- A check fails, or a time is beyond the range of times. -/
def IsOfMinting (failure : Failure) : Prop :=
  failure.IsOfCheck ∨ failure = .crashed

theorem isOfCheck_of_refuses {error : AuthError} (refuses : error.RefusesToken) :
    IsOfCheck (.refused error) :=
  .inl ⟨error, refuses, rfl⟩

/-- At the gate all failures of checks look the same. -/
theorem IsOfCheck.atGate {failure : Failure} (check : failure.IsOfCheck) :
    ∃ error, failure = .refused error ∧ error.atGate = .unauthenticated := by
  obtain ⟨error, refuses, rfl⟩ | ⟨detail, rfl⟩ := check
  · refine ⟨error, rfl, ?_⟩
    cases refuses <;> rfl
  · exact ⟨.storage detail, rfl, rfl⟩

end Failure

/-- A token that cannot be decoded is not acceptable. -/
theorem Codec.decodeAt_error {codec : Codec} {token : String} {kind : TokenKind} {now : Int}
    {error : AuthError} (failed : codec.decodeAt token kind now = .error error) :
    error.RefusesToken := by
  rw [decodeAt] at failed
  split at failed
  · exact Except.error.inj failed ▸ .invalidSignature
  · split_ifs at failed
    · exact Except.error.inj failed ▸ .invalidSignature
    · exact Except.error.inj failed ▸ .expired

/-- A row that is no user is an error of storage. -/
theorem Directory.ofRow?_error {row : Option UserRow} {error : AuthError}
    (failed : ofRow? row = .error error) : ∃ detail, error = .storage detail := by
  cases row with
  | none => exact absurd failed nofun
  | some row =>
    rw [ofRow?, UserRow.user] at failed
    split at failed
    · exact absurd failed nofun
    · exact ⟨_, (Except.error.inj failed).symm⟩

/-- A table that is missing is an error of storage. -/
theorem Directory.find_error {directory : Directory} {find : UserTable → Option UserRow}
    {error : AuthError}
    (failed : (directory.liveTable.bind fun table => ofRow? (find table)) = .error error) :
    ∃ detail, error = .storage detail := by
  rw [liveTable] at failed
  split at failed
  · exact ofRow?_error failed
  · exact ⟨_, (Except.error.inj failed).symm⟩

/-! ## Actions and replies -/

/-- The action changes nothing: a store is asked, or the clock is read. -/
inductive Action.Reads : Action → Prop
  | lookup (token : String) : Reads (.store (.lookup token))
  | list : Reads (.store .list)
  /-- A user is looked up by number. -/
  | userById (id : Int64) : Reads (.store (.userById id))
  /-- A user is looked up by email. -/
  | userByEmail (email : String) : Reads (.store (.userByEmail email))
  | clock : Reads .clock

/-- The action creates no user. -/
def Action.KeepsUsers (action : Action) : Prop :=
  ∀ form, action ≠ .store (.createUser form)

theorem Action.Reads.keepsUsers {action : Action} (reads : action.Reads) : action.KeepsUsers := by
  rintro form rfl
  cases reads

/-- What is said about a user is true of the directory. -/
def StoreCall.IsTrue (directory : Directory) : (call : StoreCall) → call.Result → Prop
  | .userById id, user => directory.userById id = .ok user
  | .userByEmail email, user => directory.userByEmail email = .ok user
  | _, _ => True

/-- The replies of a state: stores fail for storage only, what they say about users is true, and the
clock stands still. -/
def State.Replies (state : State) : (action : Action) → action.Reply → Prop
  | .store call, reply =>
    (∀ error, StoreReply.outcome (α := call.Result) reply = .error error →
      ∃ detail, error = .storage detail) ∧
    ∀ value, StoreReply.outcome (α := call.Result) reply = .ok value →
      call.IsTrue state.directory value
  | .clock, now => now = state.now
  | _, _ => True

/-! ## Contracts that bound failures -/

namespace Operation

section Contracts

variable {α β : Type}

/-- The outcome is a value as promised, or a failure of some kind. -/
def IsEnd (promise : α → Prop) (failing : Failure → Prop) : Except Failure α → Prop
  | .ok value => promise value
  | .error failure => failing failure

/-- With the replies of a state, the operation performs only actions that it guarantees; its value
is as promised, or its failure is of some kind. -/
def Ends (guarantee : Action → Prop) (state : State) (promise : α → Prop)
    (failing : Failure → Prop) (operation : Operation α) : Prop :=
  operation.run.Obeys guarantee state.Replies (IsEnd promise failing)

variable {guarantee : Action → Prop} {state : State} {middle promise : α → Prop}
  {further : β → Prop} {failing : Failure → Prop}

theorem ends_pure {value : α} (promised : promise value) :
    Ends guarantee state promise failing (pure value : Operation α) :=
  promised

theorem ends_throw {failure : Failure} (fails : failing failure) :
    Ends guarantee state promise failing (throw failure : Operation α) :=
  fails

theorem ends_refuse {error : AuthError} (fails : failing (.refused error)) :
    Ends guarantee state promise failing (refuse error : Operation α) :=
  fails

theorem ends_ofExcept {result : Except AuthError α}
    (fails : ∀ error, result = .error error → failing (.refused error)) :
    Ends guarantee state (fun value => result = .ok value) failing (ofExcept result) := by
  cases result with
  | ok value => exact ends_pure rfl
  | error error => exact ends_refuse (fails error rfl)

theorem ends_orCrash {value : Option α} (fails : failing .crashed) :
    Ends guarantee state (fun found => value = some found) failing (orCrash value) := by
  cases value with
  | some found => exact ends_pure rfl
  | none => exact ends_throw fails

theorem ends_act {action : Action} (allowed : guarantee action) :
    Ends guarantee state (state.Replies action) failing (act action) :=
  ⟨allowed, fun _ replied => replied⟩

/-- The clock shows the time of the state. -/
theorem ends_clock (allowed : guarantee .clock) :
    Ends guarantee state (fun now => now = state.now) failing clock :=
  ends_act allowed

theorem Ends.bind {operation : Operation α} {next : α → Operation β}
    (first : operation.Ends guarantee state middle failing)
    (second : ∀ value, middle value → (next value).Ends guarantee state further failing) :
    (operation >>= next).Ends guarantee state further failing := by
  rw [Ends, run_bind]
  refine Program.Obeys.bind first fun result ended => ?_
  cases result with
  | ok value => exact second value ended
  | error failure => exact ended

/-- A contract may promise less and fail for more reasons. -/
theorem Ends.mono {weaker : α → Prop} {failing' : Failure → Prop} {operation : Operation α}
    (ends : operation.Ends guarantee state promise failing)
    (promises : ∀ value, promise value → weaker value)
    (fails : ∀ failure, failing failure → failing' failure) :
    operation.Ends guarantee state weaker failing' := by
  refine Program.Obeys.mono ends fun result ended => ?_
  cases result with
  | ok value => exact promises value ended
  | error failure => exact fails failure ended

/-- A contract that says nothing about the outcome. -/
theorem Ends.guarantees {operation : Operation α}
    (ends : operation.Ends guarantee state promise failing) :
    operation.Ends guarantee state (fun _ => True) fun _ => True :=
  ends.mono (fun _ _ => trivial) fun _ _ => trivial

/-- What only reads creates no user. -/
theorem Ends.keepsUsers {operation : Operation α}
    (ends : operation.Ends Action.Reads state promise failing) :
    operation.Ends Action.KeepsUsers state promise failing :=
  Program.Obeys.imp ends (fun _ reads => reads.keepsUsers) fun _ _ replied => replied

/-- An attempt hands on a value or a refusal, and fails in other ways only. -/
theorem Ends.attempt {operation : Operation α}
    (ends : operation.Ends guarantee state promise failing) :
    (attempt operation).Ends guarantee state (fun
      | .ok value => promise value
      | .error error => failing (.refused error))
      fun failure => failing failure ∧ ∀ error, failure ≠ .refused error := by
  rw [Ends, run_attempt]
  refine Program.Obeys.bind ends fun result ended => ?_
  rcases result with failure | value
  · cases failure with
    | refused error => exact ended
    | crashed => exact ⟨ended, nofun⟩
    | unanswered => exact ⟨ended, nofun⟩
  · exact ended

/-- A call fails when the second try fails for storage. -/
theorem ends_callStore {call : StoreCall} (allowed : guarantee (.store call))
    (fails : ∀ failure : Failure, failure.IsOfStorage → failing failure) :
    (callStore call).Ends guarantee state (call.IsTrue state.directory) failing := by
  have settled : ∀ reply : StoreReply call.Result, state.Replies (.store call) reply →
      IsEnd (call.IsTrue state.directory) failing
        ((StoreReply.outcome reply).mapError Failure.refused) := by
    rintro reply ⟨failed, answered⟩
    cases outcome : StoreReply.outcome reply with
    | ok value => exact answered value outcome
    | error error =>
      obtain ⟨detail, rfl⟩ := failed error outcome
      exact fails _ ⟨detail, rfl⟩
  rw [Ends, run_callStore]
  refine ⟨allowed, fun first replied => ?_⟩
  unfold afterFirst
  split
  · exact ⟨allowed, settled⟩
  · exact settled first replied

end Contracts

end Operation

namespace Service

open Operation Failure

variable (service : Service) (state : State)

/-! ## Checking tokens -/

theorem ends_isRevoked (token : String) :
    (isRevoked token).Ends Action.Reads state (fun _ => True) IsOfStorage :=
  (ends_callStore (.lookup token) fun _ storage => storage).mono (fun _ _ => trivial)
    fun _ storage => storage

/-- **Verifying fails for the token or for storage**, and otherwise gives the claims that the token
decodes to now. -/
theorem ends_verify (token : String) (kind : TokenKind) :
    (service.verify token kind).Ends Action.Reads state
      (fun claims => service.codec.decodeAt token kind state.now = .ok claims) IsOfCheck := by
  refine ((ends_isRevoked state token).mono (fun _ _ => trivial) fun _ => .inr).bind
    fun revoked _ => ?_
  cases revoked with
  | true => exact ends_refuse (isOfCheck_of_refuses .blacklisted)
  | false =>
    refine (ends_clock .clock).bind ?_
    rintro now rfl
    exact ends_ofExcept fun error failed => isOfCheck_of_refuses (Codec.decodeAt_error failed)

/-- **Validating fails for the token or for storage**, and otherwise gives the claims that the token
decodes to now and that are true of a user. -/
theorem ends_validate (token : String) (kind : TokenKind) :
    (service.validate token kind).Ends Action.Reads state
      (fun claims => service.codec.decodeAt token kind state.now = .ok claims ∧
        ∃ user, state.directory.userById claims.sub = .ok (some user) ∧
          claims.matchesUser user = true) IsOfCheck := by
  refine (ends_verify service state token kind).bind fun claims decoded => ?_
  refine Ends.bind (ends_callStore (.userById claims.sub) fun _ => .inr) fun user found => ?_
  cases user with
  | none => exact ends_refuse (isOfCheck_of_refuses .identityMismatch)
  | some user =>
    dsimp only
    split
    · next agrees => exact ends_pure ⟨decoded, user, found, agrees⟩
    · exact ends_refuse (isOfCheck_of_refuses .identityMismatch)

/-! ## Minting tokens -/

theorem ends_record (token : String) :
    (record token).Ends Action.KeepsUsers state (fun _ => True) IsOfStorage :=
  (ends_callStore nofun fun _ storage => storage).mono (fun _ _ => trivial) fun _ storage => storage

/-- A minting breaks off only if the end of the token cannot be reckoned. -/
theorem ends_mintAccess_of {failing : Failure → Prop}
    (checks : ∀ failure : Failure, failure.IsOfCheck → failing failure)
    (breaks : Time.add? state.now service.accessLifetime = none → failing .crashed)
    (secretToken : String) (claims : Claims) :
    (service.mintAccess secretToken claims).Ends Action.KeepsUsers state (fun _ => True)
      failing := by
  refine (ends_clock nofun).bind fun now shown => ?_
  subst shown
  have reckoned : (orCrash (Time.add? state.now service.accessLifetime)).Ends Action.KeepsUsers
      state (fun _ => True) failing := by
    cases within : Time.add? state.now service.accessLifetime with
    | some expiry => exact ends_pure trivial
    | none => exact ends_throw (breaks within)
  refine reckoned.bind fun expiry _ => ?_
  refine (ends_act nofun).bind fun name _ => ?_
  refine (ends_act nofun).bind fun _ _ => ?_
  have asked := (ends_isRevoked state secretToken).keepsUsers
  refine (asked.attempt.mono (fun _ ended => ended) fun _ ended => checks _ (.inr ended.1)).bind
    fun revoked ended => ?_
  rcases revoked with error | revoked
  · refine (ends_act nofun).bind fun _ _ => ?_
    exact ends_refuse (checks _ (.inr ended))
  · cases revoked with
    | false => exact ends_pure trivial
    | true =>
      refine (ends_act nofun).bind fun _ _ => ?_
      refine ((ends_record state _).mono (fun _ _ => trivial) fun _ => checks _ ∘ .inr).bind
        fun _ _ => ?_
      exact ends_refuse (checks _ (isOfCheck_of_refuses .blacklisted))

theorem ends_mintAccess (secretToken : String) (claims : Claims) :
    (service.mintAccess secretToken claims).Ends Action.KeepsUsers state (fun _ => True)
      IsOfMinting :=
  ends_mintAccess_of service state (fun _ => .inl) (fun _ => .inr rfl) secretToken claims

/-- **Refreshing fails for the token or for storage, or breaks off.** -/
theorem ends_refresh (secretToken : String) :
    (service.refresh secretToken).Ends Action.KeepsUsers state (fun _ => True) IsOfMinting := by
  have checked := (ends_validate service state secretToken .secret).keepsUsers
  refine (checked.mono (fun _ _ => trivial) fun _ => .inl).bind fun claims _ => ?_
  exact ends_mintAccess service state secretToken claims

theorem ends_renew_of {failing : Failure → Prop}
    (checks : ∀ failure : Failure, failure.IsOfCheck → failing failure)
    (breaks : Time.add? state.now service.accessLifetime = none → failing .crashed)
    (access : Claims) (secretToken : String) :
    (service.renew access secretToken).Ends Action.KeepsUsers state (fun _ => True) failing := by
  have checked := (ends_validate service state secretToken .secret).keepsUsers
  refine (checked.mono (fun _ _ => trivial) fun _ => checks _).bind fun claims _ => ?_
  split
  · exact ends_mintAccess_of service state checks breaks secretToken claims
  · exact ends_refuse (checks _ (isOfCheck_of_refuses .identityMismatch))

theorem ends_renew (access : Claims) (secretToken : String) :
    (service.renew access secretToken).Ends Action.KeepsUsers state (fun _ => True)
      IsOfMinting :=
  ends_renew_of service state (fun _ => .inl) (fun _ => .inr rfl) access secretToken

/-! ## Logging in and out -/

/-- The credentials are those of a user. -/
def AreOf (credentials : Credentials) (user : User) (directory : Directory) : Prop :=
  directory.userByEmail credentials.email = .ok (some user) ∧
    Directory.comparePasswords user.passwordHash credentials.password = true

/-- **Credentials are refused as such, or for storage**, unless they are those of a user. -/
theorem ends_authenticate (credentials : Credentials) :
    (authenticate credentials).Ends Action.Reads state
      (fun user => AreOf credentials user state.directory)
      fun failure => failure = .refused .invalidCredentials ∨ failure.IsOfStorage := by
  refine Ends.bind (ends_callStore (.userByEmail credentials.email) fun _ => .inr)
    fun user found => ?_
  cases user with
  | none => exact ends_refuse (.inl rfl)
  | some user =>
    dsimp only
    split
    · next right => exact ends_pure ⟨found, right⟩
    · exact ends_refuse (.inl rfl)

/-- Issuing a pair of tokens may break off. -/
theorem ends_issuePair (user : User) :
    (service.issuePair user).Ends Action.KeepsUsers state (fun _ => True) (· = .crashed) := by
  have claims : ∀ session kind lifetime, (claimsForUser user session kind lifetime).Ends
      Action.KeepsUsers state (fun _ => True) (· = .crashed) := by
    intro session kind lifetime
    refine (ends_clock nofun).bind fun now _ => ?_
    refine Ends.bind (ends_orCrash (Eq.refl Failure.crashed)) fun expiry _ => ?_
    exact (ends_act nofun).bind fun name _ => ends_pure trivial
  refine (ends_act nofun).bind fun session _ => ?_
  refine (claims session .access _).bind fun access _ => ?_
  refine (claims session .secret _).bind fun secret _ => ?_
  refine (ends_act nofun).bind fun _ _ => ?_
  exact (ends_act nofun).bind fun _ _ => ends_pure trivial

/-- **Logging in fails for the credentials or for storage, or breaks off.** -/
theorem ends_login (credentials : Credentials) :
    (service.login credentials).Ends Action.KeepsUsers state (fun _ => True) fun failure =>
      (failure = .refused .invalidCredentials ∨ failure.IsOfStorage) ∨ failure = .crashed := by
  rw [login_eq]
  refine ((ends_authenticate state credentials).keepsUsers.mono (fun _ known => known)
    fun _ => .inl).bind fun user _ => ?_
  exact (ends_issuePair service state user).mono (fun _ _ => trivial) fun _ => .inr

theorem ends_recordAll (tokens : List String) :
    (recordAll tokens).Ends Action.KeepsUsers state (fun _ => True) IsOfStorage := by
  induction tokens with
  | nil => exact ends_pure trivial
  | cons token others ih => exact (ends_record state token).bind fun _ _ => ih

/-- **Logging out fails for the token or for storage.** -/
theorem ends_logout (secretToken : String) (presented : Option String) :
    (service.logout secretToken presented).Ends Action.KeepsUsers state (fun _ => True)
      IsOfCheck := by
  refine (ends_verify service state secretToken .secret).keepsUsers.bind fun claims _ => ?_
  refine ((ends_record state secretToken).mono (fun _ _ => trivial) fun _ => .inr).bind
    fun _ _ => ?_
  refine (ends_clock nofun).bind fun now _ => ?_
  refine (ends_act nofun).bind ?_
  rintro ⟨access, secret⟩ -
  exact (ends_recordAll state _).mono (fun _ _ => trivial) fun _ => .inr

end Service

/-! ## The replies of a state -/

namespace State

variable {service : Service} {state start : State}

/-- The clock and the users are as they were at the start. -/
structure SameSetting (start state : State) : Prop where
  now : state.now = start.now
  directory : state.directory = start.directory

/-- A call that is carried out is answered truly. -/
theorem replies_answer (same : start.SameSetting state) {call : StoreCall}
    (keeps : Action.KeepsUsers (.store call)) :
    start.Replies (.store call) (state.answer service call).1 ∧
      start.SameSetting (state.answer service call).2 := by
  cases call with
  | record token =>
    exact ⟨⟨fun _ failed => RevocationStore.record_error failed, fun _ _ => trivial⟩,
      same.now, same.directory⟩
  | lookup token =>
    exact ⟨⟨fun _ failed => RevocationStore.lookup_error failed, fun _ _ => trivial⟩,
      same.now, same.directory⟩
  | list =>
    exact ⟨⟨fun _ failed => RevocationStore.list_error failed, fun _ _ => trivial⟩,
      same.now, same.directory⟩
  | userById id =>
    exact ⟨⟨fun _ failed => Directory.find_error failed, fun _ found => same.directory ▸ found⟩,
      same⟩
  | userByEmail email =>
    exact ⟨⟨fun _ failed => Directory.find_error failed, fun _ found => same.directory ▸ found⟩,
      same⟩
  | createUser form => exact absurd rfl (keeps form)

variable (service) in
/-- **Whatever incidents are met, the replies are those of the state at the start**, as long as no
user is created, and the clock and the users stay as they were. -/
theorem sustains_replies (start : State) :
    Sustains service Action.KeepsUsers start.Replies start.SameSetting where
  take {call state} _ same := by
    obtain ⟨_, _, taken⟩ := exists_takeIncident call state
    rw [taken]
    exact ⟨same.now, same.directory⟩
  rival {call _ _ _} _ _ same := by
    rw [recordBefore]
    cases call.target with
    | revocations => exact ⟨same.now, same.directory⟩
    | users => exact same
  logout _ _ :=
    Program.Obeys.mono (Service.ends_logout service start _ none) fun _ _ _ _ => trivial
  answer keeps same := replies_answer same keeps
  fail _ := ⟨fun _ failed => ⟨_, (Except.error.inj failed).symm⟩, nofun⟩
  hang _ := ⟨fun _ failed => ⟨_, (Except.error.inj failed).symm⟩, nofun⟩
  act {action state} depth noCall _ same := by
    cases action with
    | store call => exact absurd rfl (noCall call)
    | clock =>
      rw [performWithin_clock]
      exact ⟨same.now, same⟩
    | drawName =>
      rw [performWithin_drawName]
      exact ⟨trivial, same.now, same.directory⟩
    | setSession session kind token expiresAt =>
      rw [performWithin_setSession]
      exact ⟨trivial, same.now, same.directory⟩
    | blacklistSession session kind =>
      rw [performWithin_blacklistSession]
      exact ⟨trivial, same.now, same.directory⟩
    | clearSession session =>
      rw [performWithin_clearSession]
      exact ⟨trivial, same.now, same.directory⟩

variable (service) in
/-- How an operation ends that keeps its contract. -/
theorem Ends.run {α : Type} {operation : Operation α} {promise : α → Prop}
    {failing : Failure → Prop}
    (ends : operation.Ends Action.KeepsUsers state promise failing) :
    Operation.IsEnd promise failing (state.run service operation).1 ∧
      state.SameSetting (state.run service operation).2 :=
  (sustains_replies service state).run ends ⟨rfl, rfl⟩

/-- What is known when the operation fails. -/
theorem Ends.of_error {α : Type} {operation : Operation α} {promise : α → Prop}
    {failing : Failure → Prop}
    (ends : operation.Ends Action.KeepsUsers state promise failing) {failure : Failure}
    (failed : (state.run service operation).1 = .error failure) : failing failure := by
  have ended := (Ends.run service ends).1
  rwa [failed] at ended

/-- What is known when the operation gives a value. -/
theorem Ends.of_ok {α : Type} {operation : Operation α} {promise : α → Prop}
    {failing : Failure → Prop}
    (ends : operation.Ends Action.KeepsUsers state promise failing) {value : α}
    (ok : (state.run service operation).1 = .ok value) : promise value := by
  have ended := (Ends.run service ends).1
  rwa [ok] at ended

end State

end DualToken
