import DualToken.Proofs.Service.Encounter
import DualToken.Proofs.Service.Reissue

/-!
# Validation decides exactly

A call is tried once, or twice if the first try gives an error of storage (`State.tries`). Whatever
is planned and whoever comes first, everything speaks for a token (`State.Admits`) or something
speaks first against it (`State.Declines`): it cannot be found out whether it is recorded, it is
recorded, it is not signed as it should be, it is expired, its user cannot be read, or the row of
its user says something else. Both are said of the tries and of what is stored, and validation
accepts and refuses accordingly (`validation_decides`).
-/

set_option autoImplicit false

namespace DualToken

open Operation Service

/-- A token that cannot be decoded is not signed as it should be, or it is expired. -/
theorem Codec.decodeAt_error_cases {codec : Codec} {token : String} {kind : TokenKind} {now : Int}
    {error : AuthError}
    (failed : codec.decodeAt token kind now = .error error) :
    error = .invalidSignature ∨ error = .expired := by
  rw [decodeAt] at failed
  split at failed
  · exact .inl (Except.error.inj failed).symm
  · split_ifs at failed
    · exact .inl (Except.error.inj failed).symm
    · exact .inr (Except.error.inj failed).symm

namespace Service

/-- What becomes of claims whose user has been looked for. -/
def compareWith (claims : Claims) (user : Option User) : Operation Claims :=
  match user with
  | none => refuse .identityMismatch
  | some user => if claims.matchesUser user then return claims else refuse .identityMismatch

/-- Validating a token is verifying it, looking for its user, and comparing the two. -/
theorem validate_eq (service : Service) (token : String) (kind : TokenKind) :
    service.validate token kind = service.verify token kind >>= fun claims =>
      callStore (.userById claims.sub) >>= compareWith claims := rfl

end Service

namespace State

variable {service : Service} {state : State} {call : StoreCall}

/-! ## Tries -/

/-- The replies to a call that is made again if the first reply is an error of storage, and the
state behind the last of them. -/
def tries (service : Service) (call : StoreCall) (state : State) :
    List (StoreReply call.Result) × State :=
  let first := state.perform service (.store call)
  match StoreReply.outcome (α := call.Result) first.1 with
  | .error (.storage _) =>
    let second := first.2.perform service (.store call)
    ([first.1, second.1], second.2)
  | _ => ([first.1], first.2)

/-- The call is answered with the value by the last try at least. -/
def Answers (service : Service) (state : State) (call : StoreCall) (value : call.Result) : Prop :=
  StoreReply.answer (.ok value) ∈ (state.tries service call).1

/-- No try is answered with a value, and the last one comes out as an error of storage. -/
structure Fails (service : Service) (state : State) (call : StoreCall) (detail : String) :
    Prop where
  never : ∀ reply ∈ (state.tries service call).1, ¬ StoreReply.Succeeds reply
  last : (state.tries service call).1.getLast?.map StoreReply.outcome =
    some (.error (.storage detail))

variable (service state call) in
/-- **A call is tried once, or twice exactly if the first try gives an error of storage.** -/
theorem length_tries :
    ((state.tries service call).1.length = 1 ∨ (state.tries service call).1.length = 2) ∧
      ((state.tries service call).1.length = 2 ↔ ∃ detail,
        StoreReply.outcome (α := call.Result) (state.perform service (.store call)).1 =
          .error (.storage detail)) := by
  rw [tries]
  dsimp only
  split
  · next detail failed => exact ⟨.inr rfl, fun _ => ⟨detail, failed⟩, fun _ => rfl⟩
  · next other =>
    exact ⟨.inl rfl, fun two => (nomatch two), fun ⟨detail, failed⟩ =>
      absurd failed (other detail)⟩

variable (service state call) in
/-- A call comes to what its last try comes to. -/
theorem run_callStore_tries :
    ∃ front last, (state.tries service call).1 = front ++ [last] ∧
      (∀ reply ∈ front, ¬ StoreReply.Succeeds reply) ∧
      state.run service (callStore call) =
        ((StoreReply.outcome last).mapError .refused, (state.tries service call).2) := by
  rw [State.run, run_callStore, Program.run_act, tries]
  dsimp only
  split
  · next detail failed =>
    refine ⟨[_], _, rfl, fun reply member => ?_, ?_⟩
    · obtain rfl := List.mem_singleton.1 member
      rintro ⟨result, answered⟩
      rw [answered] at failed
      cases failed
    · rw [afterFirst_storage failed, Program.run_act, Program.run_done]
  · next other =>
    refine ⟨[], _, rfl, fun _ member => absurd member List.not_mem_nil, ?_⟩
    unfold afterFirst
    split
    · next detail failed => exact absurd failed (other detail)
    · rfl

variable (service state call) in
theorem storeCalls_callStore :
    storeCalls (state.trace service (callStore call)) =
      List.replicate (state.tries service call).1.length call := by
  rw [State.trace, run_callStore, Program.trace_act, tries]
  dsimp only
  split
  · next detail failed =>
    rw [afterFirst_storage failed]
    rfl
  · next other =>
    unfold afterFirst
    split
    · next detail failed => exact absurd failed (other detail)
    · rfl

theorem answers_iff {value : call.Result} :
    state.Answers service call value ↔ (state.run service (callStore call)).1 = .ok value := by
  obtain ⟨front, last, replies, failed, ran⟩ := run_callStore_tries service state call
  rw [Answers, replies, ran, List.mem_append, List.mem_singleton]
  constructor
  · rintro (member | rfl)
    · exact absurd ⟨value, rfl⟩ (failed _ member)
    · rfl
  · exact fun ok => .inr (StoreReply.eq_of_outcome ok).symm

theorem fails_iff {detail : String} :
    state.Fails service call detail ↔
      (state.run service (callStore call)).1 = .error (.refused (.storage detail)) := by
  obtain ⟨front, last, replies, failed, ran⟩ := run_callStore_tries service state call
  have came : (state.tries service call).1.getLast?.map StoreReply.outcome =
      some (StoreReply.outcome last) := by
    rw [replies, List.getLast?_concat, Option.map_some]
  have refused : (state.run service (callStore call)).1 = .error (.refused (.storage detail)) ↔
      StoreReply.outcome last = .error (.storage detail) := by
    rw [ran]
    cases StoreReply.outcome last with
    | ok value => exact ⟨nofun, nofun⟩
    | error error =>
      change Except.error (Failure.refused error) = _ ↔ _
      rw [Except.error.injEq, Failure.refused.injEq, Except.error.injEq]
  rw [refused]
  refine ⟨fun fails => Option.some.inj (came.symm.trans fails.last), fun outcome => ⟨?_, ?_⟩⟩
  · intro reply member
    rw [replies, List.mem_append, List.mem_singleton] at member
    rcases member with member | rfl
    · exact failed reply member
    · rintro ⟨result, rfl⟩
      exact absurd outcome nofun
  · rw [came, outcome]

/-- A call that only asks is answered, or fails for storage. -/
theorem answers_or_fails (reads : Action.Reads (.store call)) :
    (∃ value, state.Answers service call value) ∨ ∃ detail, state.Fails service call detail := by
  have ends : (callStore call).Ends Action.Reads state (call.IsTrue state.directory)
      Failure.IsOfStorage := ends_callStore reads fun _ storage => storage
  cases ran : (state.run service (callStore call)).1 with
  | ok value => exact .inl ⟨value, answers_iff.2 ran⟩
  | error failure =>
    obtain ⟨detail, rfl⟩ := Ends.of_error ends.keepsUsers ran
    exact .inr ⟨detail, fails_iff.2 ran⟩

/-- What is said about users is true. -/
theorem isTrue_of_answers {value : call.Result} (reads : Action.Reads (.store call))
    (answers : state.Answers service call value) : call.IsTrue state.directory value := by
  have ends : (callStore call).Ends Action.Reads state (call.IsTrue state.directory)
      fun _ => True := ends_callStore reads fun _ _ => trivial
  exact Ends.of_ok ends.keepsUsers (answers_iff.1 answers)

/-! ## Decisions -/

variable {token : String} {kind : TokenKind} {claims : Claims}

/-- The token is found not to be recorded, and it decodes now to the claims. -/
structure Passes (service : Service) (state : State) (token : String) (kind : TokenKind)
    (claims : Claims) : Prop where
  clear : state.Answers service (.lookup token) false
  decoded : service.codec.decodeAt token kind state.now = .ok claims

/-- The state in which the user of a token is looked for. -/
abbrev behindLookup (service : Service) (state : State) (token : String) : State :=
  (state.tries service (.lookup token)).2

/-- Everything speaks for the token: it passes, the call for its user is answered, and its claims
say of the user what the row says. -/
structure Admits (service : Service) (state : State) (token : String) (kind : TokenKind)
    (claims : Claims) : Prop extends state.Passes service token kind claims where
  answered : ∃ found,
    (state.behindLookup service token).Answers service (.userById claims.sub) found
  row : ∃ user, state.directory.Has claims.sub user ∧
    Identity.ofClaims claims = Identity.ofUser user

/-- What speaks first against the token. -/
inductive Declines (service : Service) (state : State) (token : String) (kind : TokenKind) :
    AuthError → Prop
  /-- It cannot be found out whether the token is recorded. -/
  | unanswered {detail : String} (fails : state.Fails service (.lookup token) detail) :
      Declines service state token kind (.storage detail)
  | recorded (answers : state.Answers service (.lookup token) true) :
      Declines service state token kind .blacklisted
  | forged (clear : state.Answers service (.lookup token) false)
      (unsigned : service.codec.decodeAt token kind state.now = .error .invalidSignature) :
      Declines service state token kind .invalidSignature
  | expired (clear : state.Answers service (.lookup token) false)
      (late : service.codec.decodeAt token kind state.now = .error .expired) :
      Declines service state token kind .expired
  /-- The user cannot be looked for, or its row cannot be read. -/
  | unread {claims : Claims} {detail : String} (passes : state.Passes service token kind claims)
      (fails : (state.behindLookup service token).Fails service (.userById claims.sub) detail) :
      Declines service state token kind (.storage detail)
  /-- There is no such user, or the row says something else. -/
  | stranger {claims : Claims} (passes : state.Passes service token kind claims)
      (answered : ∃ found,
        (state.behindLookup service token).Answers service (.userById claims.sub) found)
      (other : ∀ user, state.directory.Has claims.sub user →
        Identity.ofClaims claims ≠ Identity.ofUser user) :
      Declines service state token kind .identityMismatch

/-- What a call leads to. -/
theorem run_callStore_snd (service : Service) (state : State) (call : StoreCall) :
    (state.run service (callStore call)).2 = (state.tries service call).2 := by
  obtain ⟨front, last, -, -, ran⟩ := run_callStore_tries service state call
  rw [ran]

theorem sameSetting_tries (reads : Action.Reads (.store call)) :
    state.SameSetting (state.tries service call).2 := by
  have ends : (callStore call).Ends Action.Reads state (call.IsTrue state.directory)
      fun _ => True := ends_callStore reads fun _ _ => trivial
  exact run_callStore_snd service state call ▸ (Ends.run service ends.keepsUsers).2

theorem run_ofExcept_eq {α : Type} (service : Service) (result : Except AuthError α)
    (state : State) :
    state.run service (ofExcept result) = (result.mapError .refused, state) ∧
      state.trace service (ofExcept result) = [] := by
  rw [State.run, State.trace, run_ofExcept]
  exact ⟨rfl, rfl⟩

/-- A token that is answered not to be recorded is decoded. -/
theorem run_verify_of_clear (clear : state.Answers service (.lookup token) false)
    (kind : TokenKind) :
    state.run service (service.verify token kind) =
        ((service.codec.decodeAt token kind state.now).mapError .refused,
          state.behindLookup service token) ∧
      storeCalls (state.trace service (service.verify token kind)) =
        storeCalls (state.trace service (isRevoked token)) := by
  have asked : state.run service (isRevoked token) =
      (.ok false, state.behindLookup service token) :=
    Prod.ext (answers_iff.1 clear) (run_callStore_snd service state (.lookup token))
  have now : (state.behindLookup service token).now = state.now :=
    (sameSetting_tries (.lookup token)).now
  have looked := run_bind_ok (congrArg Prod.fst asked) fun revoked =>
    if revoked then refuse .blacklisted
    else clock >>= fun now => ofExcept (service.codec.decodeAt token kind now)
  rw [asked] at looked
  have ticks : (state.behindLookup service token).Goes service clock _ _ := goes_clock _
  have read := ticks.run_bind fun now => ofExcept (service.codec.decodeAt token kind now)
  obtain ⟨decoded, nothing⟩ := run_ofExcept_eq service
    (service.codec.decodeAt token kind (state.behindLookup service token).now)
    (state.behindLookup service token)
  rw [decoded, nothing, now] at read
  refine ⟨looked.1.trans read.1, ?_⟩
  refine (congrArg storeCalls (looked.2.trans (congrArg _ read.2))).trans ?_
  rw [storeCalls_append]
  exact List.append_nil _

/-- A token that is not answered to be unrecorded is refused, with no more calls. -/
theorem run_verify_of_refused {error : AuthError}
    (refused : state.Answers service (.lookup token) true ∧ error = .blacklisted ∨
      ∃ detail, state.Fails service (.lookup token) detail ∧ error = .storage detail)
    (kind : TokenKind) :
    (state.run service (service.verify token kind)).1 = .error (.refused error) ∧
      storeCalls (state.trace service (service.verify token kind)) =
        storeCalls (state.trace service (isRevoked token)) := by
  rcases refused with ⟨answers, rfl⟩ | ⟨detail, fails, rfl⟩
  · have asked : (state.run service (isRevoked token)).1 = .ok true := answers_iff.1 answers
    obtain ⟨ran, traced⟩ := run_bind_ok asked fun revoked =>
      if revoked then refuse .blacklisted
      else clock >>= fun now => ofExcept (service.codec.decodeAt token kind now)
    refine ⟨congrArg Prod.fst ran, (congrArg storeCalls traced).trans ?_⟩
    rw [storeCalls_append]
    exact List.append_nil _
  · have asked : (state.run service (isRevoked token)).1 = .error (.refused (.storage detail)) :=
      fails_iff.1 fails
    obtain ⟨ran, traced⟩ := run_bind_error asked fun revoked =>
      if revoked then refuse .blacklisted
      else clock >>= fun now => ofExcept (service.codec.decodeAt token kind now)
    exact ⟨congrArg Prod.fst ran, congrArg storeCalls traced⟩

/-- Comparing does nothing to the state. -/
theorem run_compareWith (service : Service) (claims : Claims) (user : Option User) (state : State) :
    state.trace service (compareWith claims user) = [] ∧
      (state.run service (compareWith claims user)).1 =
        if user.any claims.matchesUser then .ok claims
        else .error (.refused .identityMismatch) := by
  cases user with
  | none => exact ⟨rfl, rfl⟩
  | some user =>
    rw [compareWith, Option.any_some]
    split
    · exact ⟨rfl, rfl⟩
    · exact ⟨rfl, rfl⟩

/-- Comparing makes no calls. -/
theorem trace_bind_compareWith (operation : Operation (Option User)) (claims : Claims)
    (state : State) :
    state.trace service (operation >>= compareWith claims) = state.trace service operation := by
  cases found : (state.run service operation).1 with
  | ok user =>
    rw [(run_bind_ok found _).2, (run_compareWith service claims user _).1, List.append_nil]
  | error failure => exact (run_bind_error found _).2

/-- For a token that passes, the user is looked for. -/
theorem run_validate_of_passes (passes : state.Passes service token kind claims) :
    state.run service (service.validate token kind) =
        (state.behindLookup service token).run service
          (callStore (.userById claims.sub) >>= compareWith claims) ∧
      storeCalls (state.trace service (service.validate token kind)) =
        storeCalls (state.trace service (isRevoked token)) ++
          storeCalls ((state.behindLookup service token).trace service
            (callStore (.userById claims.sub))) := by
  obtain ⟨ran, traced⟩ := run_verify_of_clear passes.clear kind
  rw [passes.decoded] at ran
  have both := run_bind_ok (congrArg Prod.fst ran) fun claims =>
    callStore (.userById claims.sub) >>= compareWith claims
  rw [ran] at both
  rw [validate_eq]
  refine ⟨both.1, ?_⟩
  rw [both.2, storeCalls_append, traced]
  exact congrArg (_ ++ storeCalls ·) (trace_bind_compareWith _ claims _)

/-- Claims agree with a user if they say of it what its row says. -/
theorem matchesUser_iff {user : User} :
    claims.matchesUser user = true ↔ Identity.ofClaims claims = Identity.ofUser user :=
  ⟨Claims.identity_of_matches, Claims.matches_of_identity⟩

/-- What is found of a user is what is stored. -/
theorem userById_of_answers {found : Option User}
    (answers : (state.behindLookup service token).Answers service (.userById claims.sub) found) :
    state.directory.userById claims.sub = .ok found := by
  have true : (state.behindLookup service token).directory.userById claims.sub = .ok found :=
    isTrue_of_answers (.userById claims.sub) answers
  rwa [(sameSetting_tries (.lookup token)).directory] at true

theorem ok_of_admits (admits : state.Admits service token kind claims) :
    (state.run service (service.validate token kind)).1 = .ok claims := by
  obtain ⟨found, answers⟩ := admits.answered
  obtain ⟨user, row, same⟩ := admits.row
  have stored : state.directory.userById claims.sub = .ok found := userById_of_answers answers
  obtain rfl : found = some user :=
    Except.ok.inj (stored.symm.trans (Directory.userById_eq_ok_iff.2 row))
  rw [(run_validate_of_passes admits.toPasses).1,
    (run_bind_ok (answers_iff.1 answers) (compareWith claims)).1, (run_compareWith ..).2]
  exact if_pos (matchesUser_iff.2 same)

theorem error_of_declines {error : AuthError} (declines : state.Declines service token kind error) :
    (state.run service (service.validate token kind)).1 = .error (.refused error) := by
  rw [validate_eq]
  cases declines with
  | unanswered fails =>
    rw [(run_bind_error (run_verify_of_refused (.inr ⟨_, fails, rfl⟩) kind).1 _).1]
  | recorded answers =>
    rw [(run_bind_error (run_verify_of_refused (.inl ⟨answers, rfl⟩) kind).1 _).1]
  | forged clear unsigned =>
    have refused := congrArg Prod.fst (run_verify_of_clear clear kind).1
    rw [unsigned] at refused
    rw [(run_bind_error refused _).1]
  | expired clear late =>
    have refused := congrArg Prod.fst (run_verify_of_clear clear kind).1
    rw [late] at refused
    rw [(run_bind_error refused _).1]
  | unread passes fails =>
    rw [← validate_eq, (run_validate_of_passes passes).1,
      (run_bind_error (fails_iff.1 fails) (compareWith _)).1]
  | stranger passes answered other =>
    obtain ⟨found, answers⟩ := answered
    change Option User at found
    have stored := userById_of_answers answers
    rw [← validate_eq, (run_validate_of_passes passes).1,
      (run_bind_ok (answers_iff.1 answers) (compareWith _)).1, (run_compareWith ..).2]
    refine if_neg fun agrees => ?_
    cases found with
    | none => exact absurd agrees nofun
    | some user =>
      rw [Option.any_some, matchesUser_iff] at agrees
      exact other user (Directory.userById_eq_ok_iff.1 stored) agrees

variable (service state token kind) in
/-- **Everything speaks for a token, or something speaks first against it.** -/
theorem admits_or_declines :
    (∃ claims, state.Admits service token kind claims) ∨
      ∃ error, state.Declines service token kind error := by
  have looked : (∃ recorded, state.Answers service (.lookup token) recorded) ∨
      ∃ detail, state.Fails service (.lookup token) detail := answers_or_fails (.lookup token)
  rcases looked with ⟨recorded, answers⟩ | ⟨detail, fails⟩
  · change Bool at recorded
    cases recorded with
    | true => exact .inr ⟨_, .recorded answers⟩
    | false =>
      cases decoded : service.codec.decodeAt token kind state.now with
      | error error =>
        rcases Codec.decodeAt_error_cases decoded with rfl | rfl
        · exact .inr ⟨_, .forged answers decoded⟩
        · exact .inr ⟨_, .expired answers decoded⟩
      | ok claims =>
        have passes : state.Passes service token kind claims := ⟨answers, decoded⟩
        rcases answers_or_fails (.userById claims.sub) with answered | ⟨detail, fails⟩
        · by_cases row : ∃ user, state.directory.Has claims.sub user ∧
              Identity.ofClaims claims = Identity.ofUser user
          · exact .inl ⟨claims, passes, answered, row⟩
          · refine .inr ⟨_, .stranger passes answered fun user stored same => ?_⟩
            exact row ⟨user, stored, same⟩
        · exact .inr ⟨_, .unread passes fails⟩
  · exact .inr ⟨_, .unanswered fails⟩

/-- A row whose role is not known is not answered. -/
theorem not_answers_of_unknownRole {id : Int64} {table : UserTable} {row : UserRow}
    (present : state.directory.table = some table) (found : table.byId? id = some row)
    (unknown : Role.ofName? row.role = none) (user : Option User) :
    ¬ (state.behindLookup service token).Answers service (.userById id) user := by
  intro answers
  have true : (state.behindLookup service token).directory.userById id = .ok user :=
    isTrue_of_answers (.userById id) answers
  rw [(sameSetting_tries (.lookup token)).directory, Directory.userById, Directory.liveTable,
    present] at true
  have read : Directory.ofRow? (table.byId? id) = .ok user := true
  rw [found, Directory.ofRow?, UserRow.user, unknown] at read
  cases read

/-! ## Calls -/

theorem storeCalls_isRevoked (service : Service) (state : State) (token : String) :
    storeCalls (state.trace service (isRevoked token)) =
      List.replicate (state.tries service (.lookup token)).1.length (.lookup token) :=
  storeCalls_callStore service state (.lookup token)

/-- For a token that passes, the user is looked for behind the token. -/
theorem storeCalls_of_passes (passes : state.Passes service token kind claims) :
    storeCalls (state.trace service (service.validate token kind)) =
      List.replicate (state.tries service (.lookup token)).1.length (.lookup token) ++
        List.replicate ((state.behindLookup service token).tries service
          (.userById claims.sub)).1.length (.userById claims.sub) := by
  rw [(run_validate_of_passes passes).2, storeCalls_isRevoked, storeCalls_callStore]

/-- For a token that does not pass, no user is looked for. -/
theorem storeCalls_of_not_passes (stops : ∀ claims, ¬ state.Passes service token kind claims) :
    storeCalls (state.trace service (service.validate token kind)) =
      List.replicate (state.tries service (.lookup token)).1.length (.lookup token) := by
  suffices fails : ∃ failure, (state.run service (service.verify token kind)).1 = .error failure ∧
      storeCalls (state.trace service (service.verify token kind)) =
        storeCalls (state.trace service (isRevoked token)) by
    obtain ⟨failure, failed, calls⟩ := fails
    rw [validate_eq, (run_bind_error failed _).2, calls, storeCalls_isRevoked]
  rcases admits_or_declines service state token kind with ⟨claims, admits⟩ | ⟨error, declines⟩
  · exact absurd admits.toPasses (stops claims)
  · cases declines with
    | unanswered fails => exact ⟨_, run_verify_of_refused (.inr ⟨_, fails, rfl⟩) kind⟩
    | recorded answers => exact ⟨_, run_verify_of_refused (.inl ⟨answers, rfl⟩) kind⟩
    | forged clear unsigned =>
      obtain ⟨ran, calls⟩ := run_verify_of_clear clear kind
      rw [unsigned] at ran
      exact ⟨_, congrArg Prod.fst ran, calls⟩
    | expired clear late =>
      obtain ⟨ran, calls⟩ := run_verify_of_clear clear kind
      rw [late] at ran
      exact ⟨_, congrArg Prod.fst ran, calls⟩
    | unread passes fails => exact absurd passes (stops _)
    | stranger passes answered other => exact absurd passes (stops _)

end State

open State in
/-- **Validation decides exactly.** A token is accepted, with its claims, if and only if everything
speaks for it, and otherwise it is refused for what speaks first against it; a stored role that is
not known counts as an error of storage. The token is looked up once, or twice exactly if the first
try gives an error of storage, and so is its user, but only for a token that passes. Nothing changes
beyond what others do before these calls, so nothing at all if nobody comes first. -/
theorem validation_decides (service : Service) (state : State) (token : String) (kind : TokenKind) :
    (∀ claims, (state.run service (service.validate token kind)).1 = .ok claims ↔
        state.Admits service token kind claims) ∧
      (∀ failure, (state.run service (service.validate token kind)).1 = .error failure ↔
        ∃ error, failure = .refused error ∧ state.Declines service token kind error) ∧
      (∀ id table row, state.directory.table = some table → table.byId? id = some row →
        Role.ofName? row.role = none → ∀ user,
          ¬ (state.behindLookup service token).Answers service (.userById id) user) ∧
      (∀ claims, state.Passes service token kind claims →
        storeCalls (state.trace service (service.validate token kind)) =
          List.replicate (state.tries service (.lookup token)).1.length (.lookup token) ++
            List.replicate ((state.behindLookup service token).tries service
              (.userById claims.sub)).1.length (.userById claims.sub)) ∧
      ((∀ claims, ¬ state.Passes service token kind claims) →
        storeCalls (state.trace service (service.validate token kind)) =
          List.replicate (state.tries service (.lookup token)).1.length (.lookup token)) ∧
      (∀ call (middle : State),
        ((middle.tries service call).1.length = 1 ∨ (middle.tries service call).1.length = 2) ∧
          ((middle.tries service call).1.length = 2 ↔ ∃ detail,
            StoreReply.outcome (α := call.Result) (middle.perform service (.store call)).1 =
              .error (.storage detail))) ∧
      OnlyDisturbed service (storeCalls (state.trace service (service.validate token kind))) state
        (state.run service (service.validate token kind)).2 ∧
      (state.Plans Incident.IsPlain →
        state.Unchanged (state.run service (service.validate token kind)).2) := by
  have decided := admits_or_declines service state token kind
  have reads : (service.validate token kind).Obeys Action.Reads (fun _ _ => True) _ :=
    obeys_validate (.lookup token) .clock (fun id => .userById id) kind
  refine ⟨fun claims => ⟨fun ok => ?_, ok_of_admits⟩, fun failure => ⟨fun failed => ?_, ?_⟩,
    fun _ _ _ present found unknown => not_answers_of_unknownRole present found unknown,
    fun _ => storeCalls_of_passes, storeCalls_of_not_passes,
    fun call middle => length_tries service middle call, onlyDisturbed_of_reads reads state,
    unchanged_of_reads (ends_validate service state token kind)⟩
  · rcases decided with ⟨found, admits⟩ | ⟨error, declines⟩
    · obtain rfl : found = claims := Except.ok.inj ((ok_of_admits admits).symm.trans ok)
      exact admits
    · exact absurd ((error_of_declines declines).symm.trans ok) nofun
  · rcases decided with ⟨claims, admits⟩ | ⟨error, declines⟩
    · exact absurd ((ok_of_admits admits).symm.trans failed) nofun
    · exact ⟨error, Except.error.inj (failed.symm.trans (error_of_declines declines)), declines⟩
  · rintro ⟨error, rfl, declines⟩
    exact error_of_declines declines

end DualToken
