import DualToken.Proofs.Http.Origin
import DualToken.Proofs.Service.Opening

/-!
# Renewing never shortens access

An access token that is made for a secret token ends when the lifetime of access tokens is over, or
with the secret token if that is earlier (`State.Reissue`). So late in a session the new token is
cut short, and it has to be shown that it is still not over before the one it replaces. Two bounds
hold of every access token that is handed out for a secret token (`Service.IsHandedOut`): it lasts
for no more than the lifetime of access tokens from the time at which it is handed out, and it does
not outlast the secret token. For the token of a login the second bound is that access tokens are
set to last no longer than secret tokens. A new token ends at one of the two bounds, and while the
clock does not go back both have only moved on (`Service.IsHandedOut.exp_le`).

The gate renews the access token of a request with whatever secret token the request carries, if
this is one of the same session. Sessions are named with names that are drawn, so along a history
none is opened twice, and the secret token of a session is one (`State.HandsOut.unique`).
-/

set_option autoImplicit false

namespace DualToken

open Operation

/-! ## Lifetimes from settings -/

/-- Words in order are signed numbers in order, unless the greater is read as a negative one. -/
theorem signedSeconds_le {first second : UInt64} (ordered : first ≤ second) :
    signedSeconds first ≤ signedSeconds second ∨ signedSeconds second < 0 := by
  rw [UInt64.le_iff_toNat_le] at ordered
  by_cases small : second.toNat < 2 ^ 63
  · rw [signedSeconds_of_lt small, signedSeconds_of_lt (by omega)]
    omega
  · right
    have below := second.toNat_lt
    rw [signedSeconds_of_le (Nat.le_of_not_lt small), UInt64.size]
    omega

/-! ## Clocks that do not go back -/

namespace State

/-- No event of a history sets the clock back. -/
def NeverGoesBack (service : Service) : List Event → State → Prop
  | [], _ => True
  | event :: later, state => state.now ≤ (state.step service event).2.now ∧
      (state.step service event).2.NeverGoesBack service later

variable {service : Service} {state : State} {history later : List Event}

theorem NeverGoesBack.now_le (onward : state.NeverGoesBack service history) :
    state.now ≤ (state.after service history).now := by
  induction history generalizing state with
  | nil => exact Int.le_refl _
  | cons event later ih => exact Int.le_trans onward.1 (ih onward.2)

theorem after_append : state.after service (history ++ later) =
    (state.after service history).after service later :=
  List.foldl_append

theorem neverGoesBack_append : state.NeverGoesBack service (history ++ later) ↔
    state.NeverGoesBack service history ∧
      (state.after service history).NeverGoesBack service later := by
  induction history generalizing state with
  | nil => exact ⟨fun onward => ⟨trivial, onward⟩, And.right⟩
  | cons event rest ih => exact (and_congr_right fun _ => ih).trans and_assoc.symm

end State

/-! ## What events hand out -/

namespace Event

/-- A session is opened: a pair of tokens is handed out. -/
inductive Opens (service : Service) (state : State) : Event → TokenPair → Prop
  | login {credentials : Credentials} {pair : TokenPair}
      (ok : (state.run service (service.login credentials)).1 = .ok pair) :
      Opens service state (.login credentials) pair
  | issuePair {user : User} {pair : TokenPair}
      (ok : (state.run service (service.issuePair user)).1 = .ok pair) :
      Opens service state (.issuePair user) pair
  /-- A request logs a user in. -/
  | request {request : Request} {credentials : Credentials} {pair : TokenPair}
      (posts : Arrival.Posts ⟨service, state, request⟩ .login)
      (read : JsonBody.read Credentials.read request = .ok credentials)
      (ok : (state.run service (service.login credentials)).1 = .ok pair) :
      Opens service state (.request request) pair

/-- An access token of the session of a secret token is handed out. -/
inductive Hands (service : Service) (state : State) : Event → String → String → Prop
  | opened {event : Event} {pair : TokenPair} (opens : event.Opens service state pair) :
      Hands service state event pair.secret pair.access
  | refresh {secretToken access : String}
      (ok : (state.run service (service.refresh secretToken)).1 = .ok access) :
      Hands service state (.refresh secretToken) secretToken access
  | renew {claims : Claims} {secretToken access : String}
      (ok : (state.run service (service.renew claims secretToken)).1 = .ok access) :
      Hands service state (.renew claims secretToken) secretToken access
  /-- A request refreshes with a secret token. -/
  | refreshed {request : Request} {secretToken access : String}
      (posts : Arrival.Posts ⟨service, state, request⟩ .refresh)
      (carried : request.secretToken? = some secretToken)
      (ok : (state.run service (service.refresh secretToken)).1 = .ok access) :
      Hands service state (.request request) secretToken access
  /-- The gate renews the access token of a request. -/
  | renewed {request : Request} {secretToken access : String}
      (carried : Carrier.token? request.headers .secret = some secretToken)
      (renews : Arrival.Renews ⟨service, state, request⟩ access) :
      Hands service state (.request request) secretToken access

/-- An access token is renewed with a secret token. -/
inductive Renews (service : Service) (state : State) : Event → String → String → String → Prop
  | renew {claims : Claims} {token secretToken renewed : String}
      (said : service.codec.Says token claims)
      (ok : (state.run service (service.renew claims secretToken)).1 = .ok renewed) :
      Renews service state (.renew claims secretToken) token secretToken renewed
  /-- The gate renews the access token of a request. -/
  | gate {request : Request} {token secretToken renewed : String}
      (presented : Carrier.token? request.headers .access = some token)
      (carried : Carrier.token? request.headers .secret = some secretToken)
      (renews : Arrival.Renews ⟨service, state, request⟩ renewed) :
      Renews service state (.request request) token secretToken renewed

variable {service : Service} {state : State} {event : Event} {pair : TokenPair}
  {token secretToken access renewed : String}

/-- Every access token in a cookie of a response is handed out. -/
theorem exists_hands {request : Request} {response : Response} {cookie : SetCookie}
    (ok : Arrival.outcome ⟨service, state, request⟩ = .ok response)
    (member : cookie ∈ response.cookies) (named : cookie.name = SetCookie.tokenName .access)
    (nonempty : cookie.value ≠ "") :
    ∃ secretToken, Hands service state (.request request) secretToken cookie.value := by
  have sets := Arrival.sets_cookies ok
  generalize response.cookies = jar at sets member
  cases sets with
  | nothing => exact absurd member List.not_mem_nil
  | cleared posts set => exact absurd (CookiePolicy.of_mem_clear? set member) nonempty
  | pair posts read loggedIn set =>
    obtain ⟨-, rfl⟩ := CookiePolicy.setPair?_eq_some_iff.1 set
    simp only [List.mem_cons, List.not_mem_nil, or_false] at member
    rcases member with rfl | rfl
    · exact ⟨_, .opened (.request posts read loggedIn)⟩
    · have different : SetCookie.tokenName .secret ≠ SetCookie.tokenName .access := by decide
      exact absurd named different
  | refreshed posts carried given set =>
    obtain ⟨-, rfl⟩ := CookiePolicy.setAccess?_eq_some_iff.1 set
    obtain rfl := List.mem_singleton.1 member
    exact ⟨_, .refreshed posts carried given⟩
  | renewed renews set =>
    obtain ⟨token, secretToken, access, secret, minted, replaces⟩ := renews.exists_replaces
    obtain ⟨-, rfl⟩ := CookiePolicy.setAccess?_eq_some_iff.1 set
    obtain rfl := List.mem_singleton.1 member
    exact ⟨secretToken, .renewed replaces.carried renews⟩

/-- What is renewed is handed out. -/
theorem Renews.hands (renews : event.Renews service state token secretToken renewed) :
    event.Hands service state secretToken renewed := by
  cases renews with
  | renew said ok => exact .renew ok
  | gate presented carried renews => exact .renewed carried renews

/-- A token is renewed with a secret token of its session. -/
theorem Renews.exists_session (renews : event.Renews service state token secretToken renewed) :
    ∃ access secret, service.codec.Says token access ∧ service.codec.Says secretToken secret ∧
      secret.sid = access.sid := by
  cases renews with
  | renew said ok =>
    obtain ⟨secret, minted, renewing⟩ := State.renewsSession_of_renew ok
    have ends := (Service.ends_validate service state secretToken .secret).keepsUsers
    exact ⟨_, secret, said, Codec.says_of_decodeAt (State.Ends.of_ok ends renewing.accepted).1,
      renewing.secretOf.1⟩
  | gate presented carried renews =>
    obtain ⟨token', secretToken', access, secret, minted, replaces⟩ := renews.exists_replaces
    obtain rfl := Option.some.inj (presented.symm.trans replaces.presented)
    obtain rfl := Option.some.inj (carried.symm.trans replaces.carried)
    obtain ⟨passed, log, user, now, reissue⟩ := replaces.reissue
    exact ⟨access, secret, Codec.says_of_decodeAt replaces.decoded,
      Codec.says_of_decodeAt reissue.decoded, replaces.session⟩

end Event

/-! ## The ends of what is handed out -/

namespace Service

/-- An access token is handed out for a secret token, with claims that go together. -/
structure IsHandedOut (service : Service) (now : Int) (secretToken access : String)
    (secret minted : Claims) : Prop where
  said : service.codec.Says access minted
  secretSaid : service.codec.Says secretToken secret
  kind : minted.kind = .access
  session : minted.sid = secret.sid
  /-- The two are made together, or the access token is made for the secret token while that
  lasts. -/
  ends : (minted.exp.toInt = now + service.accessLifetime ∧
      secret.exp.toInt = now + service.secretLifetime) ∨
    (now < secret.exp.toInt ∧
      minted.exp.toInt = min (now + service.accessLifetime) secret.exp.toInt)

variable {service : Service} {now now' : Int} {secretToken token renewed : String}
  {secret secret' minted minted' : Claims}

namespace IsHandedOut

/-- An access token lasts for no more than the lifetime of access tokens. -/
theorem exp_le_lifetime (handedOut : service.IsHandedOut now secretToken token secret minted) :
    minted.exp.toInt ≤ now + service.accessLifetime := by
  rcases handedOut.ends with ⟨expiry, -⟩ | ⟨-, cut⟩
  · exact Int.le_of_eq expiry
  · rw [cut]
    exact Int.min_le_left _ _

/-- An access token does not outlast its secret token, unless this was over when it was made. -/
theorem exp_le_secret
    (ordered : service.accessLifetime ≤ service.secretLifetime ∨ service.secretLifetime < 0)
    (handedOut : service.IsHandedOut now secretToken token secret minted)
    (lasting : now < secret.exp.toInt) : minted.exp.toInt ≤ secret.exp.toInt := by
  rcases handedOut.ends with ⟨expiry, secretExpiry⟩ | ⟨-, cut⟩
  · omega
  · rw [cut]
    exact Int.min_le_right _ _

/-- **What is handed out later for a secret token ends no earlier.** The end of an access token is
at most the lifetime of access tokens away, and at most the end of the secret token. Neither bound
moves back, so a later token, which ends at one of the two, ends no earlier. -/
theorem exp_le
    (ordered : service.accessLifetime ≤ service.secretLifetime ∨ service.secretLifetime < 0)
    (first : service.IsHandedOut now secretToken token secret minted)
    (second : service.IsHandedOut now' secretToken renewed secret' minted') (onward : now ≤ now') :
    minted.exp.toInt ≤ minted'.exp.toInt := by
  obtain rfl := first.secretSaid.unique second.secretSaid
  have short : minted.exp.toInt ≤ now' + service.accessLifetime := by
    calc minted.exp.toInt
      _ ≤ now + service.accessLifetime := first.exp_le_lifetime
      _ ≤ now' + service.accessLifetime := Int.add_le_add_right onward _
  rcases second.ends with ⟨expiry, -⟩ | ⟨lasting, cut⟩
  · rw [expiry]
    exact short
  · rw [cut]
    exact Int.le_min.2 ⟨short, first.exp_le_secret ordered (Int.lt_of_le_of_lt onward lasting)⟩

end IsHandedOut

end Service

namespace State

variable {service : Service} {state : State} {secretToken access : String}
  {log : List (Performed Action Action.Reply)} {secret minted : Claims} {user : User}

theorem Reissue.isHandedOut
    (reissue : state.Reissue service secretToken access log secret minted user) :
    service.IsHandedOut state.now secretToken access secret minted where
  said := reissue.issued ▸ service.codec.says_issue minted
  secretSaid := Codec.says_of_decodeAt reissue.decoded
  kind := reissue.kind
  session := reissue.session
  ends := .inr ⟨(Codec.decodeAt_eq_ok_iff.1 reissue.decoded).2.2, reissue.expiry⟩

end State

namespace Event

variable {service : Service} {state : State} {event : Event} {pair pair' : TokenPair}
  {secretToken access : String}

/-- What opens a session makes two new tokens of it. -/
theorem Opens.exists_isNewToken (opens : event.Opens service state pair) :
    ∃ (user : User) (claims : TokenKind → Claims), ∀ kind, service.IsNewToken state.now user
      (TokenName.ofCount (state.namesDrawn + 1)) kind (pair.token kind) (claims kind) := by
  cases opens with
  | login ok => exact State.exists_isNewToken_of_login ok
  | issuePair ok => exact ⟨_, State.exists_isNewToken_of_issuePair ok⟩
  | request posts read ok => exact State.exists_isNewToken_of_login ok

/-- **Whatever is handed out belongs to its secret token.** -/
theorem Hands.exists_isHandedOut (hands : event.Hands service state secretToken access) :
    ∃ secret minted, service.IsHandedOut state.now secretToken access secret minted := by
  cases hands with
  | opened opens =>
    obtain ⟨user, claims, new⟩ := opens.exists_isNewToken
    exact ⟨claims .secret, claims .access, (new .access).said, (new .secret).said,
      (new .access).ofKind, (new .access).inSession.trans (new .secret).inSession.symm,
      .inl ⟨(new .access).expiry, (new .secret).expiry⟩⟩
  | refresh ok =>
    obtain ⟨secret, minted, user, reissue⟩ := (State.Reissues.refresh ok).exists_reissue
    exact ⟨secret, minted, reissue.isHandedOut⟩
  | @renew claims _ _ ok =>
    obtain ⟨secret, minted, user, reissue⟩ := (State.Reissues.renew claims ok).exists_reissue
    exact ⟨secret, minted, reissue.isHandedOut⟩
  | refreshed posts carried ok =>
    obtain ⟨secret, minted, user, reissue⟩ := (State.Reissues.refresh ok).exists_reissue
    exact ⟨secret, minted, reissue.isHandedOut⟩
  | renewed carried renews =>
    obtain ⟨token, secretToken', access, secret, minted, replaces⟩ := renews.exists_replaces
    obtain rfl := Option.some.inj (carried.symm.trans replaces.carried)
    obtain ⟨passed, log, user, now, reissue⟩ := replaces.reissue
    have handedOut := reissue.isHandedOut
    rw [now] at handedOut
    exact ⟨secret, minted, handedOut⟩

/-! ## Sessions are opened once -/

/-- An event opens at most one session. -/
theorem Opens.unique (first : event.Opens service state pair)
    (second : event.Opens service state pair') : pair = pair' := by
  cases first with
  | login ok =>
    cases second with
    | login ok' => exact Except.ok.inj (ok.symm.trans ok')
  | issuePair ok =>
    cases second with
    | issuePair ok' => exact Except.ok.inj (ok.symm.trans ok')
  | request posts read ok =>
    cases second with
    | request posts' read' ok' =>
      obtain rfl := Except.ok.inj (read.symm.trans read')
      exact Except.ok.inj (ok.symm.trans ok')

end Event

namespace State

variable {service : Service} {state : State}

variable (service state) in
/-- Issuing a pair draws a name, whatever comes of it. -/
theorem namesDrawn_lt_issuePair (user : User) :
    state.namesDrawn < (state.run service (service.issuePair user)).2.namesDrawn := by
  rw [Service.issuePair_eq, ((goes_drawName state).run_bind _).1]
  let drawn : State := { state with namesDrawn := state.namesDrawn + 1 }
  exact (draws_run (service.issueIn user (TokenName.ofCount (state.namesDrawn + 1))).run drawn).le

theorem namesDrawn_lt_login {credentials : Credentials} {pair : TokenPair}
    (ok : (state.run service (service.login credentials)).1 = .ok pair) :
    state.namesDrawn < (state.run service (service.login credentials)).2.namesDrawn := by
  rw [Service.login_eq] at ok ⊢
  obtain ⟨user, known, -⟩ := exists_ok_of_bind ok
  rw [(run_bind_ok known _).1]
  exact Nat.lt_of_le_of_lt (draws_run (Service.authenticate credentials).run state).le
    (namesDrawn_lt_issuePair service _ user)

end State

/-- What opens a session draws a name. -/
theorem Event.Opens.namesDrawn_lt {service : Service} {state : State} {event : Event}
    {pair : TokenPair} (opens : event.Opens service state pair) :
    state.namesDrawn < (state.step service event).2.namesDrawn := by
  cases opens with
  | login ok => exact State.namesDrawn_lt_login ok
  | issuePair ok => exact State.namesDrawn_lt_issuePair service state _
  | @request request credentials _ posts read ok =>
    have served := congrArg Prod.snd
      (State.run_respond service state posts.found posts.noPreflight).1
    have stepped : (state.step service (.request request)).2 =
        (state.run service (Router.respond service request)).2 := rfl
    rw [stepped, served, Route.serve_login posts.posted read, (State.run_bind_ok ok _).1]
    exact Nat.lt_of_lt_of_le (State.namesDrawn_lt_login ok) (State.draws_run _ _).le

namespace State

/-- A history hands out a secret token, with a session that is opened for it. -/
def HandsOut (service : Service) : List Event → State → String → Prop
  | [], _, _ => False
  | event :: later, state, secretToken =>
    (∃ access, event.Opens service state ⟨access, secretToken⟩) ∨
      (state.step service event).2.HandsOut service later secretToken

variable {service : Service} {state : State} {history : List Event} {first second : String}

/-- The session of a secret token has a name that the history draws. -/
theorem HandsOut.exists_claims (handsOut : state.HandsOut service history first) :
    ∃ claims count, service.codec.Says first claims ∧ claims.sid = TokenName.ofCount count ∧
      state.namesDrawn < count := by
  induction history generalizing state with
  | nil => exact handsOut.elim
  | cons event later ih =>
    rcases handsOut with ⟨access, opens⟩ | handsOut
    · obtain ⟨user, claims, new⟩ := opens.exists_isNewToken
      exact ⟨claims .secret, _, (new .secret).said, (new .secret).inSession, Nat.lt_succ_self _⟩
    · obtain ⟨claims, count, said, named, drawn⟩ := ih handsOut
      exact ⟨claims, count, said, named, Nat.lt_of_le_of_lt (event.draws service state).le drawn⟩

/-- A session that an event opens is not opened later. -/
theorem HandsOut.sid_ne {event : Event} {pair : TokenPair} {claims claims' : Claims}
    (opens : event.Opens service state pair)
    (later : (state.step service event).2.HandsOut service history second)
    (said : service.codec.Says pair.secret claims) (said' : service.codec.Says second claims') :
    claims.sid ≠ claims'.sid := by
  obtain ⟨user, made, new⟩ := opens.exists_isNewToken
  have own : service.codec.Says pair.secret (made .secret) := (new .secret).said
  obtain ⟨drawn, count, said'', named, above⟩ := later.exists_claims
  obtain rfl := said.unique own
  obtain rfl := said'.unique said''
  rw [(new .secret).inSession, named]
  intro same
  have here := opens.namesDrawn_lt
  have equal := TokenName.ofCount_injective same
  omega

/-- **A session has one secret token.** -/
theorem HandsOut.unique {claims claims' : Claims} (handsOut : state.HandsOut service history first)
    (handsOut' : state.HandsOut service history second) (said : service.codec.Says first claims)
    (said' : service.codec.Says second claims') (same : claims.sid = claims'.sid) :
    first = second := by
  induction history generalizing state with
  | nil => exact handsOut.elim
  | cons event later ih =>
    rcases handsOut with ⟨access, opens⟩ | handsOut
    · rcases handsOut' with ⟨access', opens'⟩ | handsOut'
      · exact (TokenPair.mk.inj (opens.unique opens')).2
      · exact absurd same (sid_ne opens handsOut' said said')
    · rcases handsOut' with ⟨access', opens'⟩ | handsOut'
      · exact absurd same.symm (sid_ne opens' handsOut said' said)
      · exact ih handsOut handsOut'

end State

/-! ## A minute after a login -/

/-- A user logs in, and a minute later the secret token refreshes and renews. -/
theorem State.exists_minute_later : ∃ (settings : AuthSettings) (service : Service)
    (start later : State) (credentials : Credentials) (access secret : Claims)
    (refreshed renewed : String),
    Service.ofSettings settings true .table 4 = .ok service ∧
      settings.accessLifetime ≤ settings.secretLifetime ∧
      (start.run service (service.login credentials)).1 =
        .ok ⟨service.codec.issue access, service.codec.issue secret⟩ ∧
      start.NeverGoesBack service [.login credentials, .setClock 120] ∧
      start.after service [.login credentials, .setClock 120] = later ∧
      (later.run service (service.refresh (service.codec.issue secret))).1 = .ok refreshed ∧
      (later.run service (service.renew access (service.codec.issue secret))).1 =
        .ok renewed := by
  obtain ⟨ready, start, credentials, row, user, isReady, -⟩ := State.exists_isReady .customer
  obtain ⟨settings, codec, short, long, set⟩ := Service.exists_ofSettings
  let service : Service := ⟨codec, 900, 86400, 15, ⟨true, 900, 86400⟩, .table, 4⟩
  have ordered : settings.accessLifetime ≤ settings.secretLifetime := by
    rw [short, long]
    decide
  have within : Time.add? start.now 900 = some 960 := by
    rw [isReady.now]
    decide
  have within' : Time.add? start.now 86400 = some 86460 := by
    rw [isReady.now]
    decide
  obtain ⟨access, made⟩ : ∃ access, access = Claims.forUser user
    (TokenName.ofCount (start.namesDrawn + 1)) (TokenName.ofCount (start.namesDrawn + 2)) .access
      start.now 960 := ⟨_, rfl⟩
  obtain ⟨secret, made'⟩ : ∃ secret, secret = Claims.forUser user
    (TokenName.ofCount (start.namesDrawn + 1)) (TokenName.ofCount (start.namesDrawn + 3)) .secret
      start.now 86460 := ⟨_, rfl⟩
  obtain ⟨calls, sessions, -, opens⟩ : ∃ calls sessions, _ ∧ start.Goes service _ _ _ :=
    goes_login isReady.whole.calm isReady.byEmail isReady.right within within' made made'
  let later : State :=
    { start with calls, sessions, namesDrawn := start.namesDrawn + 3, now := 120 }
  have opened : (start.step service (.login credentials)).2 =
      { start with calls, sessions, namesDrawn := start.namesDrawn + 3 } :=
    congrArg Prod.snd opens.run
  have ahead : start.after service [.login credentials, .setClock 120] = later :=
    congrArg (fun state : State => (state.step service (.setClock 120)).2) opened
  have onward : start.NeverGoesBack service [.login credentials, .setClock 120] := by
    have early : start.now ≤ 120 := by
      rw [isReady.now]
      decide
    have same : (start.step service (.login credentials)).2.now = start.now := by rw [opened]
    exact ⟨Int.le_of_eq same.symm, Int.le_trans (Int.le_of_eq same) early, trivial⟩
  -- a minute later the secret token lasts for nearly a day
  have whole : later.IsWhole service {} := isReady.whole.later rfl 120 _ sessions calls
  have running : (120 : Int) < (Int64.ofInt 86460).toInt := by decide
  have decoded : service.codec.decodeAt (service.codec.issue secret) .secret later.now =
      .ok secret := by
    have isSecret : secret.kind = .secret := made' ▸ rfl
    exact isSecret ▸ Codec.decodeAt_issue_of_lt (Int.natCast_nonneg 120) (made' ▸ running)
  have found : later.directory.userById secret.sub = .ok (some user) := made' ▸ isReady.byId
  have matched : secret.matchesUser user = true := made' ▸ matchesUser_forUser ..
  have same : secret.sid = access.sid ∧ secret.sub = access.sub := by
    rw [made, made']
    exact ⟨rfl, rfl⟩
  have behind : Time.add? 120 900 = some 1020 := by decide
  obtain ⟨_, refreshes⟩ := whole.goes_refresh rfl decoded found matched behind rfl
  obtain ⟨_, renews⟩ := whole.goes_renew rfl decoded found matched same behind rfl
  exact ⟨settings, service, start, later, credentials, access, secret, _, _, set, ordered,
    congrArg Prod.fst opens.run, onward, ahead, congrArg Prod.fst refreshes.run,
    congrArg Prod.fst renews.run⟩

/-! ## Access is not shortened -/

/-- A token ends no earlier than another access token, and is one of the same session. -/
def Codec.Extends (codec : Codec) (renewed token : String) : Prop :=
  ∃ later earlier, codec.Says renewed later ∧ codec.Says token earlier ∧
    later.kind = .access ∧ earlier.kind = .access ∧ later.sid = earlier.sid ∧
    earlier.exp.toInt ≤ later.exp.toInt

/-- What is handed out later for the same secret token extends what was handed out before. -/
theorem Event.Hands.extended_by {service : Service}
    (ordered : service.accessLifetime ≤ service.secretLifetime ∨ service.secretLifetime < 0)
    {state later : State} {event event' : Event} {secretToken token renewed : String}
    (onward : state.now ≤ later.now) (handed : event.Hands service state secretToken token)
    (handed' : event'.Hands service later secretToken renewed) :
    service.codec.Extends renewed token := by
  obtain ⟨secret, minted, first⟩ := handed.exists_isHandedOut
  obtain ⟨secret', minted', second⟩ := handed'.exists_isHandedOut
  obtain rfl := first.secretSaid.unique second.secretSaid
  exact ⟨minted', minted, second.said, first.said, second.kind, first.kind,
    second.session.trans first.session.symm, first.exp_le ordered second onward⟩

/-- **Renewing never shortens access.** Access tokens are set to last no longer than secret tokens.
In a history that never sets the clock back, an access token is handed out for a secret token:
beside it when the session is opened, or by refreshing or renewing with it. Whatever is handed out
later for the same secret token ends no earlier. And if the access token is renewed later, with any
secret token that the history has handed out, then this is the secret token of its session, and
what is renewed ends no earlier. Every access token that a response sets in a cookie is handed out
so. -/
theorem renewing_extends_access {settings : AuthSettings} {secure : Bool}
    {backend : RevocationBackend} {hashCost : Nat} {service : Service}
    (set : Service.ofSettings settings secure backend hashCost = .ok service)
    (ordered : settings.accessLifetime ≤ settings.secretLifetime) {start : State}
    {before between : List Event} {first : Event} {secretToken token : String}
    (onward : start.NeverGoesBack service (before ++ first :: between))
    (handed : first.Hands service (start.after service before) secretToken token) :
    (∀ (second : Event) renewed, second.Hands service
        (start.after service (before ++ first :: between)) secretToken renewed →
      service.codec.Extends renewed token) ∧
    (∀ (second : Event) other renewed, second.Renews service
        (start.after service (before ++ first :: between)) token other renewed →
      start.HandsOut service (before ++ first :: between) secretToken →
      start.HandsOut service (before ++ first :: between) other →
      other = secretToken ∧ service.codec.Extends renewed token) ∧
    ∀ state request response, Arrival.outcome ⟨service, state, request⟩ = .ok response →
      ∀ cookie ∈ response.cookies, cookie.name = SetCookie.tokenName .access →
        cookie.value ≠ "" →
        ∃ secretToken, Event.Hands service state (.request request) secretToken cookie.value := by
  have lifetimes : service.accessLifetime ≤ service.secretLifetime ∨
      service.secretLifetime < 0 := by
    obtain ⟨codec, -, rfl⟩ := Service.exists_eq_of_ofSettings set
    exact signedSeconds_le ordered
  have time : (start.after service before).now ≤
      (start.after service (before ++ first :: between)).now := by
    have rest := (State.neverGoesBack_append.1 onward).2.now_le
    rwa [← State.after_append] at rest
  refine ⟨fun second renewed handed' => handed.extended_by lifetimes time handed',
    fun second other renewed renews opened opened' => ?_,
    fun state request response ok cookie member named nonempty =>
      Event.exists_hands ok member named nonempty⟩
  obtain ⟨secret, minted, out⟩ := handed.exists_isHandedOut
  obtain ⟨access, secret', said, said', same⟩ := renews.exists_session
  obtain rfl := out.said.unique said
  obtain rfl : secretToken = other :=
    opened.unique opened' out.secretSaid said' (out.session.symm.trans same.symm)
  exact ⟨rfl, handed.extended_by lifetimes time renews.hands⟩

/-- A user logs in. A minute later the session is refreshed, or its access token is renewed: either
way the new access token ends no earlier than that of the login. -/
theorem renewing_extends_access_after_minute : ∃ (settings : AuthSettings) (service : Service)
    (start later : State) (credentials : Credentials) (pair : TokenPair) (access : Claims)
    (refreshed renewed : String),
    Service.ofSettings settings true .table 4 = .ok service ∧
      (start.run service (service.login credentials)).1 = .ok pair ∧
      start.after service [.login credentials, .setClock 120] = later ∧
      (later.run service (service.refresh pair.secret)).1 = .ok refreshed ∧
      (later.run service (service.renew access pair.secret)).1 = .ok renewed ∧
      service.codec.Extends refreshed pair.access ∧ service.codec.Extends renewed pair.access := by
  obtain ⟨settings, service, start, later, credentials, access, secret, refreshed, renewed, set,
    ordered, loggedIn, onward, ahead, refreshes, renews⟩ := State.exists_minute_later
  have opens : Event.Opens service start (.login credentials) _ := .login loggedIn
  have handsOut : start.HandsOut service [.login credentials, .setClock 120]
      (service.codec.issue secret) := .inl ⟨_, opens⟩
  have handed : Event.Hands service (start.after service []) (.login credentials) _ _ :=
    .opened opens
  have onward' : start.NeverGoesBack service ([] ++ .login credentials :: [.setClock 120]) := onward
  obtain ⟨refreshing, renewing, -⟩ := renewing_extends_access set ordered onward' handed
  rw [List.nil_append, ahead] at refreshing renewing
  exact ⟨settings, service, start, later, credentials, _, access, refreshed, renewed, set, loggedIn,
    ahead, refreshes, renews, refreshing _ _ (.refresh refreshes),
    (renewing _ _ _ (.renew (service.codec.says_issue access) renews) handsOut handsOut).2⟩

end DualToken
