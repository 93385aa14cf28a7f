import Mathlib.Tactic.Tauto
import DualToken.Proofs.Service.Operation
import DualToken.Proofs.Token.Codec
import DualToken.Service.Operations

/-!
# What the service does

`Deed` lists the actions that operations on some sessions perform: they ask the stores, read the
clock and draw names, and what they do to the cache and to the record concerns those sessions only.
A token that is made current is one that was issued for its slot; a token that is recorded belongs
to one of the sessions.

The operations keep to this as long as the names that are drawn name such sessions and clearing a
session hands back tokens of that session (`Relied`). An operation that is given a secret token
works on the session that the token says.
-/

set_option autoImplicit false

namespace DualToken

/-- The token says that it belongs to the session. -/
def Codec.OfSession (codec : Codec) (session token : String) : Prop :=
  ∃ claims, codec.Says token claims ∧ claims.sid = session

/-- The call changes no record. -/
def StoreCall.Asks : StoreCall → Prop
  | .record _ => False
  | _ => True

/-- The actions of operations on some sessions. -/
inductive Deed (service : Service) (sessions : String → Prop) : Action → Prop
  /-- A store is asked, or a user created. -/
  | ask {call : StoreCall} (asks : call.Asks) : Deed service sessions (.store call)
  /-- A token of one of the sessions is recorded. -/
  | record {session token : String} (own : sessions session)
      (belongs : service.codec.OfSession session token) :
      Deed service sessions (.store (.record token))
  | clock : Deed service sessions .clock
  | name : Deed service sessions .drawName
  /-- A token that was issued for a slot of one of the sessions becomes current in it. -/
  | set (claims : Claims) (own : sessions claims.sid) (expiresAt : Int64) :
      Deed service sessions
        (.setSession claims.sid claims.kind (service.codec.issue claims) expiresAt)
  /-- A slot of one of the sessions is emptied. -/
  | blacklist {session : String} (own : sessions session) (kind : TokenKind) :
      Deed service sessions (.blacklistSession session kind)
  /-- One of the sessions is dropped. -/
  | clear {session : String} (own : sessions session) :
      Deed service sessions (.clearSession session)

/-- What operations on some sessions do, operations on more sessions do. -/
theorem Deed.mono {service : Service} {sessions more : String → Prop} {action : Action}
    (deed : Deed service sessions action) (within : ∀ session, sessions session → more session) :
    Deed service more action := by
  cases deed with
  | ask asks => exact .ask asks
  | record own belongs => exact .record (within _ own) belongs
  | clock => exact .clock
  | name => exact .name
  | set claims own expiresAt => exact .set claims (within _ own) expiresAt
  | blacklist own kind => exact .blacklist (within _ own) kind
  | clear own => exact .clear (within _ own)

/-- Operations on no session ask the stores, read the clock and draw names. -/
theorem Deed.cases_of_none {service : Service} {action : Action}
    (deed : Deed service (fun _ => False) action) :
    (∃ call : StoreCall, action = .store call ∧ call.Asks) ∨ action = .clock ∨
      action = .drawName := by
  cases deed with
  | ask asks => exact .inl ⟨_, rfl, asks⟩
  | record own belongs => exact own.elim
  | clock => exact .inr (.inl rfl)
  | name => exact .inr (.inr rfl)
  | set claims own expiresAt => exact own.elim
  | blacklist own kind => exact own.elim
  | clear own => exact own.elim

/-- The replies that operations on some sessions rely on. -/
def Relied (service : Service) (sessions : String → Prop) : (action : Action) → action.Reply → Prop
  | .drawName, name => sessions name
  | .clearSession session, tokens =>
    ∀ token ∈ tokens.1.toList ++ tokens.2.toList, service.codec.OfSession session token
  | _, _ => True

/-- The secret token is of one of the sessions, if it can be read at all. -/
def Service.Concerns (service : Service) (sessions : String → Prop) (secretToken : String) : Prop :=
  ∀ claims, Codec.verify? service.codec.secretKey secretToken = some claims → sessions claims.sid

namespace Service

open Operation

variable {service : Service} {sessions : String → Prop}

/-- An operation that does deeds on some sessions only. -/
abbrev Does {α : Type} (service : Service) (sessions : String → Prop) (promise : α → Prop)
    (operation : Operation α) : Prop :=
  operation.Obeys (Deed service sessions) (Relied service sessions) promise

/-! ## Checking tokens

Checking tokens relies on nothing. -/

section Checking

variable {rely : (action : Action) → action.Reply → Prop}

theorem does_callStore (call : StoreCall) (asks : call.Asks) :
    (callStore call).Obeys (Deed service sessions) rely fun _ => True :=
  (obeys_callStore (.ask asks)).mono fun _ _ => trivial

theorem does_isRevoked (token : String) :
    (isRevoked token).Obeys (Deed service sessions) rely fun _ => True :=
  does_callStore (.lookup token) trivial

theorem does_listRevoked : listRevoked.Obeys (Deed service sessions) rely fun _ => True :=
  does_callStore .list trivial

theorem does_clock : clock.Obeys (Deed service sessions) rely fun _ => True :=
  (obeys_clock .clock).mono fun _ _ => trivial

/-- Verifying a token gives the claims that it decodes to. -/
theorem does_verify (token : String) (kind : TokenKind) :
    (service.verify token kind).Obeys (Deed service sessions) rely
      fun claims => ∃ now, service.codec.decodeAt token kind now = .ok claims :=
  obeys_verify (.ask trivial) .clock kind

/-- Validating a token gives the claims that it decodes to. -/
theorem does_validate (token : String) (kind : TokenKind) :
    (service.validate token kind).Obeys (Deed service sessions) rely
      fun claims => ∃ now, service.codec.decodeAt token kind now = .ok claims :=
  obeys_validate (.ask trivial) .clock (fun _ => .ask trivial) kind

end Checking

/-- A secret token that is acceptable is of one of the sessions. -/
theorem Concerns.own {secretToken : String} (concerns : service.Concerns sessions secretToken)
    {claims : Claims}
    (decoded : ∃ now, service.codec.decodeAt secretToken .secret now = .ok claims) :
    sessions claims.sid := by
  obtain ⟨now, decoded⟩ := decoded
  exact concerns claims (Codec.decodeAt_eq_ok_iff.1 decoded).1

/-! ## Minting tokens -/

section Minting

variable {rely : (action : Action) → action.Reply → Prop}

theorem does_claimsForUser (user : User) (session : String) (kind : TokenKind) (lifetime : Int) :
    (claimsForUser user session kind lifetime).Obeys (Deed service sessions) rely
      fun claims => claims.sid = session ∧ claims.kind = kind := by
  refine does_clock.bind fun now _ => ?_
  refine (obeys_orCrash _).bind fun expiry _ => ?_
  refine (obeys_drawName .name).bind fun name _ => ?_
  exact obeys_pure ⟨rfl, rfl⟩

theorem does_issueIn (user : User) {session : String} (own : sessions session) :
    (service.issueIn user session).Obeys (Deed service sessions) rely fun _ => True := by
  refine (does_claimsForUser user session .access _).bind ?_
  rintro access ⟨sid, kind⟩
  refine (does_claimsForUser user session .secret _).bind ?_
  rintro secret ⟨sid', kind'⟩
  have setsAccess : Deed service sessions (.setSession session .access
      (service.codec.issue access) secret.exp) := by
    have deed : Deed service sessions (.setSession access.sid access.kind
        (service.codec.issue access) secret.exp) := .set access (sid ▸ own) secret.exp
    rwa [sid, kind] at deed
  have setsSecret : Deed service sessions (.setSession session .secret
      (service.codec.issue secret) secret.exp) := by
    have deed : Deed service sessions (.setSession secret.sid secret.kind
        (service.codec.issue secret) secret.exp) := .set secret (sid' ▸ own) secret.exp
    rwa [sid', kind'] at deed
  refine (obeys_act setsAccess).bind fun _ _ => ?_
  refine (obeys_act setsSecret).bind fun _ _ => ?_
  exact obeys_pure trivial

theorem does_issuePair (user : User) :
    Does service sessions (fun _ => True) (service.issuePair user) := by
  have names : Does service sessions sessions drawName := obeys_drawName .name
  rw [issuePair_eq]
  exact names.bind fun session own => does_issueIn user own

theorem does_login (credentials : Credentials) :
    Does service sessions (fun _ => True) (service.login credentials) := by
  rw [login_eq]
  exact (obeys_authenticate (.ask trivial)).bind fun user _ => does_issuePair user

theorem does_record {session token : String} (own : sessions session)
    (belongs : service.codec.OfSession session token) :
    (record token).Obeys (Deed service sessions) rely fun _ => True :=
  (obeys_callStore (.record own belongs)).mono fun _ _ => trivial

theorem does_mintAccess (secretToken : String) {claims : Claims} (own : sessions claims.sid) :
    (service.mintAccess secretToken claims).Obeys (Deed service sessions) rely fun _ => True := by
  refine does_clock.bind fun now _ => ?_
  refine (obeys_orCrash _).bind fun expiry _ => ?_
  refine (obeys_drawName .name).bind fun name _ => ?_
  have sets : Deed service sessions (.setSession claims.sid .access
      (service.codec.issue (claims.reissue name .access now expiry)) claims.exp) :=
    .set (claims.reissue name .access now expiry) own claims.exp
  have belongs : service.codec.OfSession claims.sid
      (service.codec.issue (claims.reissue name .access now expiry)) :=
    ⟨_, Codec.says_issue _ _, rfl⟩
  refine (obeys_act sets).bind fun _ _ => ?_
  refine (does_isRevoked secretToken).attempt.bind fun revoked _ => ?_
  rcases revoked with error | revoked
  · refine (obeys_act (.blacklist own .access)).bind fun _ _ => ?_
    exact obeys_refuse error
  · cases revoked with
    | false => exact obeys_pure trivial
    | true =>
      refine (obeys_act (.clear own)).bind fun _ _ => ?_
      refine (does_record own belongs).bind fun _ _ => ?_
      exact obeys_refuse .blacklisted

theorem does_refresh {secretToken : String} (concerns : service.Concerns sessions secretToken) :
    (service.refresh secretToken).Obeys (Deed service sessions) rely fun _ => True := by
  refine (does_validate secretToken .secret).bind fun claims decoded => ?_
  exact does_mintAccess secretToken (concerns.own decoded)

theorem does_renew (access : Claims) {secretToken : String}
    (concerns : service.Concerns sessions secretToken) :
    (service.renew access secretToken).Obeys (Deed service sessions) rely fun _ => True := by
  refine (does_validate secretToken .secret).bind fun claims decoded => ?_
  split
  · exact does_mintAccess secretToken (concerns.own decoded)
  · exact obeys_refuse .identityMismatch

/-! ## Ending sessions -/

theorem does_recordAll {session : String} (own : sessions session) {tokens : List String}
    (belong : ∀ token ∈ tokens, service.codec.OfSession session token) :
    (recordAll tokens).Obeys (Deed service sessions) rely fun _ => True :=
  obeys_recordAll fun token member => .record own (belong token member)

end Minting

/-- Texts in order, each once, are the given texts. -/
theorem mem_sortedOnce {text : String} {texts : List String} :
    text ∈ sortedOnce texts ↔ text ∈ texts := by
  have loop : ∀ (others : List String) (first : String) (found : List String),
      text ∈ List.eraseRepsBy.loop (· == ·) first others found ↔
        text ∈ found ∨ text = first ∨ text ∈ others := by
    intro others
    induction others with
    | nil => simp [List.eraseRepsBy.loop, or_comm]
    | cons next others ih =>
      intro first found
      rw [List.eraseRepsBy.loop]
      split
      · next same =>
        obtain rfl : first = next := beq_iff_eq.1 same
        rw [ih, List.mem_cons]
        tauto
      · rw [ih, List.mem_cons, List.mem_cons]
        tauto
  rw [sortedOnce, List.eraseReps]
  rw [← List.mem_mergeSort (l := texts)]
  cases texts.mergeSort fun first second => decide (first ≤ second) with
  | nil => rfl
  | cons first others =>
    rw [List.eraseRepsBy, loop]
    simp

/-- Texts in order, each once, are no more than the given texts. -/
theorem length_sortedOnce_le (texts : List String) :
    (sortedOnce texts).length ≤ texts.length := by
  have loop : ∀ (others : List String) (first : String) (found : List String),
      (List.eraseRepsBy.loop (· == ·) first others found).length ≤
        found.length + others.length + 1 := by
    intro others
    induction others with
    | nil =>
      intro first found
      simp [List.eraseRepsBy.loop]
    | cons next others ih =>
      intro first found
      rw [List.eraseRepsBy.loop]
      split
      · exact Nat.le_trans (ih first found) (by simp)
      · have within := ih next (first :: found)
        simp only [List.length_cons] at within ⊢
        omega
  rw [sortedOnce, List.eraseReps, ← List.length_mergeSort (l := texts)]
  cases texts.mergeSort fun first second => decide (first ≤ second) with
  | nil => exact Nat.le_refl _
  | cons first others =>
    have within := loop others first []
    rw [List.length_nil, Nat.zero_add] at within
    exact within

theorem isOfSession_of_decodeAt {token : String} {access claims : Claims} {now : Int}
    (decoded : service.codec.decodeAt token .access now = .ok access)
    (sid : access.sid = claims.sid) (sub : access.sub = claims.sub) :
    service.isOfSession token claims now = true := by
  simp only [isOfSession, decoded, sid, sub, decide_true, Bool.and_self]

/-- Logging out draws no name, so it does not matter which names are relied on. -/
theorem does_logout {names : String → Prop} {secretToken : String}
    (concerns : service.Concerns sessions secretToken) (presented : Option String) :
    (service.logout secretToken presented).Obeys (Deed service sessions) (Relied service names)
      fun _ => True := by
  refine (does_verify secretToken .secret).bind fun claims decoded => ?_
  have own := concerns.own decoded
  have belongs : service.codec.OfSession claims.sid secretToken := by
    obtain ⟨now, decoded⟩ := decoded
    exact ⟨claims, Codec.says_of_decodeAt decoded, rfl⟩
  refine (does_record own belongs).bind fun _ _ => ?_
  refine does_clock.bind fun now _ => ?_
  refine (obeys_act (.clear own)).bind ?_
  rintro ⟨access, secret⟩ cleared
  refine does_recordAll own fun token member => ?_
  have pending := (List.mem_filter.1 (mem_sortedOnce.1 member)).1
  rcases List.mem_append.1 pending with current | shown
  · exact cleared token current
  · obtain ⟨-, ofSession⟩ := Option.filter_eq_some_iff.1 (Option.mem_toList.1 shown)
    rw [isOfSession] at ofSession
    split at ofSession
    · next shown decoded =>
      have same := Bool.and_eq_true_iff.1 ofSession
      exact ⟨shown, Codec.says_of_decodeAt decoded, of_decide_eq_true same.1⟩
    · exact absurd ofSession nofun

end Service

end DualToken
