import DualToken.Proofs.Race.Calls

/-!
# The stages of a refresh and of a logout

A refresh and a logout with the same secret token contend about its session. Each of them is at any
moment at one of a few stages, and a stage says what is left to do.

A refresh prepares a new token without touching records or sessions, until it makes the token
current (`Contest.Prepared`). Then it checks whether the secret token has been recorded meanwhile;
if so, it drops the session and records the new token. A logout asks for the secret token, reads the
clock, records the token, reads the clock again, clears the session, and records what it has found.
-/

set_option autoImplicit false

namespace DualToken

/-- What a refresh and a logout contend about: a secret token that can be read, and the access token
that is presented to the logout. -/
structure Contest (service : Service) where
  secretToken : String
  /-- The claims of the secret token. -/
  claims : Claims
  presented : Option String
  /-- The secret token is read under the key of its kind. -/
  reads : Codec.verify? service.codec.secretKey secretToken = some claims
  isSecret : claims.kind = .secret

namespace Contest

open Operation Service

variable {service : Service} (contest : Contest service)

/-- The session of the secret token. -/
abbrev session : String := contest.claims.sid

/-- The time from which on the secret token is expired. -/
abbrev time : Int := contest.claims.exp.toInt

/-! ## Tokens -/

theorem said : service.codec.Says contest.secretToken contest.claims := by
  refine Codec.says_of_verify? ?_
  rw [contest.isSecret]
  exact contest.reads

/-- Before its time the secret token decodes to its claims. -/
theorem decodeAt_secretToken {now : Int} (running : now < contest.time) :
    service.codec.decodeAt contest.secretToken .secret now = .ok contest.claims :=
  Codec.decodeAt_eq_ok_iff.2 ⟨contest.reads, contest.isSecret, running⟩

variable {contest}

/-- The secret token decodes to no other claims. -/
theorem eq_claims {claims : Claims}
    (decoded : ∃ now, service.codec.decodeAt contest.secretToken .secret now = .ok claims) :
    claims = contest.claims := by
  obtain ⟨now, decoded⟩ := decoded
  have read := (Codec.decodeAt_eq_ok_iff.1 decoded).1
  exact Option.some.inj (read.symm.trans contest.reads)

/-- A token of another session is not the secret token. -/
theorem ne_of_ofSession {session token : String} (other : session ≠ contest.session)
    (belongs : service.codec.OfSession session token) : token ≠ contest.secretToken := by
  rintro rfl
  obtain ⟨claims, said, rfl⟩ := belongs
  exact other (congrArg Claims.sid (said.unique contest.said))

/-- An access token is not the secret token. -/
theorem ne_of_says {token : String} {claims : Claims} (said : service.codec.Says token claims)
    (isAccess : claims.kind = .access) : token ≠ contest.secretToken := by
  rintro rfl
  rw [said.unique contest.said, contest.isSecret] at isAccess
  exact absurd isAccess nofun

variable (contest)

/-- The token was issued as an access token of the session. -/
def Mints (token : String) : Prop :=
  ∃ claims : Claims, token = service.codec.issue claims ∧ claims.kind = .access ∧
    claims.sid = contest.session

/-- The token is an access token of the session and the user of the secret token, and not expired
at the time. -/
def Owns (token : String) (now : Int) : Prop :=
  ∃ claims, Codec.verify? service.codec.accessKey token = some claims ∧ claims.kind = .access ∧
    claims.sid = contest.session ∧ claims.sub = contest.claims.sub ∧ now < claims.exp.toInt

variable {contest}

theorem Mints.ne {token : String} (mints : contest.Mints token) : token ≠ contest.secretToken := by
  obtain ⟨claims, rfl, isAccess, -⟩ := mints
  exact ne_of_says (Codec.says_issue service.codec claims) isAccess

theorem Owns.isOfSession {token : String} {now : Int} (owns : contest.Owns token now) :
    service.isOfSession token contest.claims now = true := by
  obtain ⟨claims, read, isAccess, sid, sub, running⟩ := owns
  exact isOfSession_of_decodeAt (Codec.decodeAt_eq_ok_iff.2 ⟨read, isAccess, running⟩) sid sub

variable (contest)

/-! ## The refresh -/

/-- Records a new token of the session and refuses. -/
def bury (token : String) : Operation (Option String) := do
  let _ ← record token
  refuse .blacklisted

/-- Drops the session, and buries the new token. -/
def drop (token : String) : Operation (Option String) := do
  let _ ← act (.clearSession contest.session)
  bury token

/-- Hands the new token out, or withdraws it, as the secret token turns out to be recorded. -/
def settle (token : String) : Except AuthError Bool → Operation (Option String)
  | .ok false => return some token
  | .ok true => contest.drop token
  | .error error => do
    let _ ← act (.blacklistSession contest.session .access)
    refuse error

/-- Asks for the secret token again when the new token is current. -/
def check (token : String) : Operation (Option String) :=
  attempt (isRevoked contest.secretToken) >>= contest.settle token

/-- What minting does when the new token is current. -/
def confirm (token : String) : Operation String := do
  match ← attempt (isRevoked contest.secretToken) with
  | .ok false => return token
  | .ok true =>
    let _ ← act (.clearSession contest.session)
    let _ ← record token
    refuse .blacklisted
  | .error error =>
    let _ ← act (.blacklistSession contest.session .access)
    refuse error

theorem confirm_bind (token : String) :
    (do return some (← contest.confirm token)) = contest.check token := by
  unfold confirm check
  rw [bind_assoc]
  congr 1
  funext revoked
  rcases revoked with error | revoked
  · rfl
  · cases revoked with
    | false => rfl
    | true =>
      refine (bind_assoc (act (.clearSession contest.session)) _ _).trans ?_
      refine congrArg (act (.clearSession contest.session) >>= ·) (funext fun _ => ?_)
      exact bind_assoc (record token) _ _

/-- Makes the new token current, and checks the secret token. -/
def expose (token : String) : Operation (Option String) := do
  let _ ← act (.setSession contest.session .access token contest.claims.exp)
  contest.check token

/-- Issues a new token of the session, which is not current yet. -/
def prepare : Operation String := do
  let now ← clock
  let expiry ← orCrash (Time.add? now service.accessLifetime)
  let name ← drawName
  return service.codec.issue (contest.claims.reissue name .access now expiry)

/-- A minting issues its token before it makes it current. -/
theorem mintAccess_bind :
    (do return some (← service.mintAccess contest.secretToken contest.claims)) =
      contest.prepare >>= contest.expose := by
  unfold Service.mintAccess prepare
  simp only [bind_assoc]
  refine congrArg (clock >>= ·) (funext fun now => ?_)
  refine congrArg (orCrash (Time.add? now service.accessLifetime) >>= ·) (funext fun expiry => ?_)
  refine congrArg (drawName >>= ·) (funext fun name => ?_)
  exact congrArg (act (.setSession contest.session .access _ contest.claims.exp) >>= ·)
    (funext fun _ => contest.confirm_bind _)

/-- A refresh validates the secret token, and mints a new token from its claims. -/
theorem operation_refresh (secretToken : String) :
    (Call.refresh secretToken).operation service =
      service.validate secretToken .secret >>= fun claims =>
        (do return some (← service.mintAccess secretToken claims)) :=
  bind_assoc (service.validate secretToken .secret) _ _

/-- The new token is about to become current, or there is none. -/
def Prepared (course : Course) : Prop :=
  (∃ failure, course = .done (.error failure)) ∨
    ∃ token, contest.Mints token ∧
      course = .act (.setSession contest.session .access token contest.claims.exp) fun _ =>
        (contest.check token).run

/-- Up to then a refresh asks the stores, reads the clock and draws names. -/
abbrev Prepares (course : Course) : Prop :=
  course.Leads (Deed service fun _ => False) (fun _ _ => True) contest.Prepared

variable {contest}

/-- What is issued in preparation is an access token of the session. -/
theorem does_prepare :
    contest.prepare.Obeys (Deed service fun _ => False) (fun _ _ => True) contest.Mints := by
  have draws : drawName.Obeys (Deed service fun _ => False) (fun _ _ => True) fun _ => True :=
    obeys_act Deed.name
  refine does_clock.bind fun now _ => (obeys_orCrash _).bind fun expiry _ => ?_
  refine draws.bind fun name _ => obeys_pure ?_
  exact ⟨contest.claims.reissue name .access now expiry, rfl, rfl, rfl⟩

theorem prepares_mintAccess :
    contest.Prepares (do
      let token ← service.mintAccess contest.secretToken contest.claims
      return some token : Operation (Option String)).run := by
  rw [contest.mintAccess_bind]
  refine does_prepare.leads_bind (fun failure => .inl ⟨failure, rfl⟩) fun token mints => ?_
  exact Program.leads_of_goal (.inr ⟨token, mints, rfl⟩)

/-- A refresh with the secret token prepares a new token. -/
theorem prepares_refresh :
    contest.Prepares ((Call.refresh contest.secretToken).course service) := by
  have fails : ∀ failure, contest.Prepared (.done (.error failure)) :=
    fun failure => .inl ⟨failure, rfl⟩
  rw [Call.course, operation_refresh]
  refine (does_validate contest.secretToken .secret).leads_bind fails fun claims decoded => ?_
  obtain rfl := eq_claims decoded
  exact prepares_mintAccess

/-- A renewal with the secret token prepares a new token. -/
theorem prepares_renew (access : Claims) :
    contest.Prepares ((Call.renew access contest.secretToken).course service) := by
  have fails : ∀ failure, contest.Prepared (.done (.error failure)) :=
    fun failure => .inl ⟨failure, rfl⟩
  unfold Call.course Call.operation Service.renew
  simp only [bind_assoc]
  refine (does_validate contest.secretToken .secret).leads_bind fails fun claims decoded => ?_
  obtain rfl := eq_claims decoded
  by_cases same : contest.claims.sid = access.sid ∧ contest.claims.sub = access.sub
  · rw [if_pos same]
    exact prepares_mintAccess
  · rw [if_neg same]
    exact Program.leads_of_goal (fails _)

variable (contest)

/-- The stages of a refresh. -/
inductive Minting where
  /-- A new token is being prepared, or there will be none. -/
  | preparing
  /-- The new token is current, and the secret token is about to be checked. -/
  | checking (token : String)
  /-- The secret token is recorded, so the session is about to be dropped. -/
  | dropping (token : String)
  /-- The new token is about to be recorded. -/
  | burying (token : String)
  /-- The new token is recorded, and the refresh refused. -/
  | buried (token : String)
  /-- The new token is handed out. -/
  | returned (token : String)

/-- What is left of a refresh at a stage. -/
def Leaves : Minting → Course → Prop
  | .preparing, course => contest.Prepares course
  | .checking token, course => course = (contest.check token).run
  | .dropping token, course => course = (contest.drop token).run
  | .burying token, course => course = (bury token).run
  | .buried _, course => course = .done (.error (.refused .blacklisted))
  | .returned token, course => course = .done (.ok (some token))

namespace Minting

def token? : Minting → Option String
  | preparing => none
  | checking token | dropping token | burying token | buried token | returned token => some token

/-- The new token that is recorded by nobody but the logout, if at all. -/
def atLarge? : Minting → Option String
  | checking token | returned token => some token
  | _ => none

/-- The refresh may yet make the session appear in the cache, or has done so and may yet drop it. -/
def IsOpen : Minting → Prop
  | checking _ | dropping _ => True
  | _ => False

end Minting

/-! ### Its turns -/

theorem run_check (token : String) :
    (contest.check token).run = .act (.store (.lookup contest.secretToken))
      (afterAttempt (.lookup contest.secretToken) (contest.settle token)) :=
  run_attempt_callStore_bind (.lookup contest.secretToken) (contest.settle token)

theorem run_drop (token : String) :
    (contest.drop token).run =
      .act (.clearSession contest.session) fun _ => (bury token).run := rfl

theorem run_bury (token : String) :
    (bury token).run = .act (.store (.record token))
      (afterCall (.record token) fun _ => refuse .blacklisted) :=
  run_callStore_bind _ _

/-! ## The logout -/

/-- The tokens that a logout records besides the secret token. -/
def pending (own : Option String) (tokens : Option String × Option String) : List String :=
  sortedOnce ((tokens.1.toList ++ tokens.2.toList ++ own.toList).filter (· ≠ contest.secretToken))

theorem mem_pending {own : Option String} {tokens : Option String × Option String}
    {token : String} :
    token ∈ contest.pending own tokens ↔
      token ∈ tokens.1.toList ++ tokens.2.toList ++ own.toList ∧ token ≠ contest.secretToken := by
  rw [pending, mem_sortedOnce, List.mem_filter, decide_eq_true_iff]

/-- The stages of a logout. -/
inductive Leaving where
  /-- The secret token is about to be asked for. -/
  | asking
  /-- The secret token is about to be decoded. -/
  | timing
  /-- The secret token is about to be recorded. -/
  | recording
  /-- The presented token is about to be looked at. -/
  | presenting
  /-- The session is about to be cleared. -/
  | clearing (own : Option String)
  /-- Tokens are about to be recorded. -/
  | burying (tokens : List String)

/-- Records tokens, and ends. -/
def finish (tokens : List String) : Operation (Option String) := do
  recordAll tokens
  return none

/-- Clears the session, and records what it has found. -/
def clear (own : Option String) : Operation (Option String) := do
  let tokens ← act (.clearSession contest.session)
  finish (contest.pending own tokens)

/-- Looks at the presented token, and clears the session. -/
def present : Operation (Option String) := do
  let now ← clock
  contest.clear (contest.presented.filter fun token => service.isOfSession token contest.claims now)

/-- Records the secret token, and goes on to the presented token. -/
def leave : Operation (Option String) := do
  let _ ← record contest.secretToken
  contest.present

/-- Goes on if the secret token decodes. -/
def decodeAt (now : Int) : Operation (Option String) :=
  match service.codec.decodeAt contest.secretToken .secret now with
  | .ok _ => contest.leave
  | .error error => refuse error

/-- Decodes the secret token, and records it. -/
def decode : Operation (Option String) := do
  let now ← clock
  contest.decodeAt now

/-- Goes on if the secret token is not recorded. -/
def enter : Bool → Operation (Option String)
  | true => refuse .blacklisted
  | false => contest.decode

/-- What is left of a logout at a stage. -/
def remainder : Leaving → Course
  | .asking => (Call.logout contest.secretToken contest.presented).course service
  | .timing => contest.decode.run
  | .recording => contest.leave.run
  | .presenting => contest.present.run
  | .clearing own => (contest.clear own).run
  | .burying tokens => (finish tokens).run

namespace Leaving

/-- The secret token is recorded. -/
def HasRecorded : Leaving → Prop
  | asking | timing | recording => False
  | _ => True

/-- The tokens that are still to be recorded, when the session has been cleared. -/
def pending? : Leaving → Option (List String)
  | burying tokens => some tokens
  | _ => none

theorem hasRecorded_of_pending? {leaving : Leaving} {tokens : List String}
    (pending : leaving.pending? = some tokens) : leaving.HasRecorded := by
  cases leaving with
  | burying tokens => trivial
  | _ => exact absurd pending nofun

/-- How many turns are left at most. -/
def turnsLeft : Leaving → Nat
  | asking => 8
  | timing => 7
  | recording => 6
  | presenting => 5
  | clearing _ => 4
  | burying tokens => tokens.length

theorem eq_of_turnsLeft {leaving : Leaving} (none : leaving.turnsLeft = 0) :
    leaving = .burying [] := by
  cases leaving with
  | burying tokens => exact congrArg burying (List.length_eq_zero_iff.1 none)
  | _ => exact absurd none nofun

end Leaving

/-! ### Its turns -/

/-- A logout asks for the secret token first. -/
theorem operation_logout :
    (Call.logout contest.secretToken contest.presented).operation service =
      isRevoked contest.secretToken >>= contest.enter := by
  unfold Call.operation Service.logout Service.verify
  simp only [bind_assoc]
  refine congrArg (isRevoked contest.secretToken >>= ·) (funext fun revoked => ?_)
  cases revoked with
  | true => rfl
  | false =>
    refine (bind_assoc clock _ _).trans (congrArg (clock >>= ·) (funext fun now => ?_))
    unfold decodeAt
    cases decoded : service.codec.decodeAt contest.secretToken .secret now with
    | error error => rfl
    | ok claims =>
      obtain rfl := eq_claims ⟨now, decoded⟩
      refine congrArg (record contest.secretToken >>= ·) (funext fun _ => ?_)
      refine congrArg (clock >>= ·) (funext fun now => ?_)
      exact bind_assoc (act (.clearSession contest.session)) _ _

theorem remainder_asking :
    contest.remainder .asking = .act (.store (.lookup contest.secretToken))
      (afterCall (.lookup contest.secretToken) contest.enter) :=
  (congrArg ExceptT.run contest.operation_logout).trans
    (run_callStore_bind (.lookup contest.secretToken) contest.enter)

theorem remainder_timing :
    contest.remainder .timing = .act .clock fun now => (contest.decodeAt now).run := rfl

/-- Before the time of the secret token, it is recorded next. -/
theorem decodeAt_of_lt {now : Int} (running : now < contest.time) :
    contest.decodeAt now = contest.leave := by
  rw [decodeAt, contest.decodeAt_secretToken running]

theorem remainder_recording :
    contest.remainder .recording = .act (.store (.record contest.secretToken))
      (afterCall (.record contest.secretToken) fun _ => contest.present) :=
  run_callStore_bind _ _

theorem remainder_presenting :
    contest.remainder .presenting = .act .clock fun now => contest.remainder
      (.clearing (contest.presented.filter fun token =>
        service.isOfSession token contest.claims now)) := rfl

theorem remainder_clearing (own : Option String) :
    contest.remainder (.clearing own) = .act (.clearSession contest.session) fun tokens =>
      contest.remainder (.burying (contest.pending own tokens)) := rfl

theorem remainder_burying_cons (token : String) (tokens : List String) :
    contest.remainder (.burying (token :: tokens)) = .act (.store (.record token))
      (afterCall (.record token) fun _ => finish tokens) := by
  rw [← run_callStore_bind]
  refine congrArg ExceptT.run ?_
  exact bind_assoc (record token) (fun _ => recordAll tokens) fun _ => pure none

variable {contest} in
/-- A logout has ended when there is nothing left to record. -/
theorem Leaving.eq_of_done {leaving : Leaving} {result : Except Failure (Option String)}
    (done : contest.remainder leaving = .done result) :
    leaving = .burying [] ∧ result = .ok none := by
  cases leaving with
  | asking => exact absurd (contest.remainder_asking.symm.trans done) nofun
  | timing => exact absurd done nofun
  | recording => exact absurd (contest.remainder_recording.symm.trans done) nofun
  | presenting => exact absurd done nofun
  | clearing own => exact absurd done nofun
  | burying tokens =>
    cases tokens with
    | nil =>
      cases done
      exact ⟨rfl, rfl⟩
    | cons token tokens =>
      exact absurd ((contest.remainder_burying_cons token tokens).symm.trans done) nofun

/-- A logout records three tokens at most besides the secret token. -/
theorem length_pending_le (own : Option String) (tokens : Option String × Option String) :
    (contest.pending own tokens).length ≤ 3 := by
  have found : (contest.pending own tokens).length ≤
      (tokens.1.toList ++ tokens.2.toList ++ own.toList).length :=
    Nat.le_trans (length_sortedOnce_le _) (List.length_filter_le _ _)
  have access : tokens.1.toList.length ≤ 1 := Option.length_toList_le
  have secret : tokens.2.toList.length ≤ 1 := Option.length_toList_le
  have shown : own.toList.length ≤ 1 := Option.length_toList_le
  simp only [List.length_append] at found
  omega

end Contest

end DualToken
