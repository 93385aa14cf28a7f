import DualToken.Proofs.Service.Decision
import DualToken.Proofs.Service.Freshness
import DualToken.Proofs.Service.Interruption

/-!
# Refreshes that are overtaken

A refresh looks its secret token up before it mints and once more behind that. A revocation may come
in before the first lookup, between the two or behind both, and every call may fail or hang. What
the operation comes to is decided by its last lookup (`State.lastLookup?`): by the reply to it, and
by what is recorded when it is made. Unless the secret token is not recorded then, and the lookup
says so, the refresh is refused, and the cache does not show what it has minted
(`overtaken_refresh`).
-/

set_option autoImplicit false

namespace DualToken

open Operation Service

namespace State

variable {α β : Type} {service : Service} {state : State} {token : String}

/-! ## Calls along a run -/

/-- The actions that an operation performs, with their replies, and with the state behind each of
them. -/
def timeline (service : Service) (operation : Operation α) (state : State) :
    List (Performed Action Action.Reply × State) :=
  Program.timeline (perform service) operation.run state

theorem timeline_bind_ok {operation : Operation α} {value : α}
    (ok : (state.run service operation).1 = .ok value) (next : α → Operation β) :
    state.timeline service (operation >>= next) = state.timeline service operation ++
      (state.run service operation).2.timeline service (next value) := by
  rw [run] at ok
  simp only [run, timeline, Operation.run_bind, Program.timeline_bind, ok]

theorem timeline_bind_error {operation : Operation α} {failure : Failure}
    (failed : (state.run service operation).1 = .error failure) (next : α → Operation β) :
    state.timeline service (operation >>= next) = state.timeline service operation := by
  rw [run] at failed
  simp only [timeline, Operation.run_bind, Program.timeline_bind, failed, Program.timeline_done,
    List.append_nil]

theorem timeline_attempt (operation : Operation α) (state : State) :
    state.timeline service (attempt operation) = state.timeline service operation := by
  simp only [timeline, run_attempt, Program.timeline_bind]
  rcases (Program.run (perform service) operation.run state).1 with failure | value
  · cases failure with
    | refused error => exact List.append_nil _
    | crashed => exact List.append_nil _
    | unanswered => exact List.append_nil _
  · exact List.append_nil _

/-- **The last try of a call decides what it comes to**, and the tries before it fail. -/
theorem timeline_callStore (service : Service) (state : State) (call : StoreCall) :
    ∃ front last, ∃ before : State,
      state.timeline service (callStore call) =
        front ++ [(⟨.store call, last⟩, (state.run service (callStore call)).2)] ∧
      (∀ entry ∈ front, entry.1.action = .store call ∧ ¬ entry.1.action.Succeeds entry.1.reply) ∧
      (state.run service (callStore call)).1 =
        (StoreReply.outcome (α := call.Result) last).mapError .refused ∧
      before.perform service (.store call) = (last, (state.run service (callStore call)).2) := by
  rw [State.timeline, State.run, run_callStore, Program.timeline_act, Program.run_act, afterFirst]
  split
  · next detail failed =>
    refine ⟨[_], _, _, rfl, fun entry member => ?_, rfl, rfl⟩
    obtain rfl := List.mem_singleton.1 member
    refine ⟨rfl, ?_⟩
    rintro ⟨result, answered⟩
    cases failed.symm.trans (congrArg StoreReply.outcome answered)
  · exact ⟨[], _, state, rfl, fun _ member => absurd member List.not_mem_nil, rfl, rfl⟩

/-! ## The last lookup -/

/-- The reply to a lookup of the token, with the state behind it. -/
def lookup? (token : String) :
    Performed Action Action.Reply × State → Option (StoreReply Bool × State)
  | (⟨.store (.lookup other), reply⟩, behind) =>
      if other = token then some (reply, behind) else none
  | _ => none

/-- The reply to the last lookup of the token in an operation, with the state behind it. -/
def lastLookup? (service : Service) (token : String) (operation : Operation α) (state : State) :
    Option (StoreReply Bool × State) :=
  ((state.timeline service operation).filterMap (lookup? token)).getLast?

/-- What does not look the token up. -/
def Overlooks (token : String) (action : Action) : Prop :=
  action ≠ .store (.lookup token)

/-- An operation that does not look the token up has no last lookup of it. -/
theorem lastLookup?_eq_none {operation : Operation α} {promise : α → Prop}
    (obeys : operation.Obeys (Overlooks token) (fun _ _ => True) promise) (state : State) :
    state.lastLookup? service token operation = none := by
  have overlooks : ∀ performed ∈ state.trace service operation, Overlooks token performed.action :=
    Program.Obeys.trace obeys state
  rw [lastLookup?, List.getLast?_eq_none_iff, List.filterMap_eq_nil_iff]
  rintro ⟨⟨action, reply⟩, behind⟩ member
  have performed : (⟨action, reply⟩ : Performed Action Action.Reply) ∈
      state.trace service operation := by
    rw [State.trace, ← Program.map_fst_timeline]
    exact List.mem_map_of_mem member
  unfold lookup?
  split
  · next other _ _ same =>
    obtain ⟨⟨rfl, -⟩, -⟩ := same
    exact if_neg fun own => overlooks _ performed (congrArg _ (congrArg _ own))
  · rfl

/-- The last lookup of a whole is that of its second part, or of the first if the second has none.
-/
theorem lastLookup?_bind_ok {operation : Operation α} {value : α}
    (ok : (state.run service operation).1 = .ok value) (next : α → Operation β) :
    state.lastLookup? service token (operation >>= next) =
      ((state.run service operation).2.lastLookup? service token (next value)).or
        (state.lastLookup? service token operation) := by
  rw [lastLookup?, timeline_bind_ok ok, List.filterMap_append, List.getLast?_append]
  rfl

theorem lastLookup?_bind_error {operation : Operation α} {failure : Failure}
    (failed : (state.run service operation).1 = .error failure) (next : α → Operation β) :
    state.lastLookup? service token (operation >>= next) =
      state.lastLookup? service token operation := by
  rw [lastLookup?, timeline_bind_error failed, lastLookup?]

/-- Where there is a lookup in the first part, there is a last one in the whole. -/
theorem exists_lastLookup?_bind {operation : Operation α} {found : StoreReply Bool × State}
    (asks : state.lastLookup? service token operation = some found) (next : α → Operation β) :
    ∃ reply behind, state.lastLookup? service token (operation >>= next) =
      some (reply, behind) := by
  cases outcome : (state.run service operation).1 with
  | ok value =>
    rw [lastLookup?_bind_ok outcome, asks]
    cases (state.run service operation).2.lastLookup? service token (next value) with
    | none => exact ⟨_, _, rfl⟩
    | some last => exact ⟨_, _, rfl⟩
  | error failure =>
    rw [lastLookup?_bind_error outcome, asks]
    exact ⟨_, _, rfl⟩

/-- What comes behind the lookups does not show. -/
theorem lastLookup?_bind {operation : Operation α} {next : α → Operation β} {promise : β → Prop}
    (obeys : ∀ value, (next value).Obeys (Overlooks token) (fun _ _ => True) promise) :
    state.lastLookup? service token (operation >>= next) =
      state.lastLookup? service token operation := by
  cases outcome : (state.run service operation).1 with
  | ok value => rw [lastLookup?_bind_ok outcome, lastLookup?_eq_none (obeys value), Option.none_or]
  | error failure => exact lastLookup?_bind_error outcome next

/-- A lookup behind an operation is behind its lookups. -/
theorem Goes.lastLookup?_bind {operation : Operation α} {next : α → Operation β} {value : α}
    {middle : State} {found : StoreReply Bool × State}
    (goes : state.Goes service operation value middle)
    (asks : middle.lastLookup? service token (next value) = some found) :
    state.lastLookup? service token (operation >>= next) = some found := by
  rw [lastLookup?_bind_ok (congrArg Prod.fst goes.run), goes.run, asks, Option.some_or]

theorem lastLookup?_attempt (operation : Operation α) (state : State) :
    state.lastLookup? service token (attempt operation) =
      state.lastLookup? service token operation := by
  rw [lastLookup?, timeline_attempt, lastLookup?]

/-- A lookup that is answered tells whether the token is recorded behind it. -/
theorem holds_iff_of_lookup {found : Bool}
    (answered : (state.perform service (.store (.lookup token))).1 =
      StoreReply.answer (.ok found)) :
    found = true ↔ (state.perform service (.store (.lookup token))).2.Holds service token := by
  obtain ⟨met, -, comesOut⟩ := exists_met_perform service (.lookup token) state
  generalize state.perform service (.store (.lookup token)) = outcome at comesOut answered ⊢
  cases comesOut with
  | failed => exact absurd answered nofun
  | silent => exact absurd answered nofun
  | answered =>
    have asked : (met.revocations.lookup service.backend token).1 = .ok found :=
      StoreReply.answer.inj answered
    have same := met.revocations.sameRecords_lookup service.backend token
    exact (RevocationStore.lookup_ok_iff asked).trans same.holds_iff.symm

/-- A lookup before which another writer records the token is answered accordingly. -/
theorem IsWhole.goes_isRevoked_recorded {table : RevocationTable}
    (whole : state.IsWhole service table) (token : String)
    (later : List Incident) :
    ∃ calls table', { state with revocationPlan := .record token :: later }.Goes service
      (isRevoked token) true { state with
        calls
        revocationPlan := later
        revocations := { state.revocations with table := some table' } } := by
  have contains : (table.record token state.now).2.contains token = true :=
    (table.contains_record token state.now token).2 (.inl rfl)
  refine ⟨.lookup token :: state.calls, (table.record token state.now).2, goes_callStore ?_⟩
  have taken : takeIncident { state with revocationPlan := .record token :: later }
      (.lookup token) = (.record token,
        { state with calls := .lookup token :: state.calls, revocationPlan := later }) := rfl
  have recorded : recordBefore service (.lookup token) token
      { state with calls := .lookup token :: state.calls, revocationPlan := later } =
        { state with
          calls := .lookup token :: state.calls
          revocationPlan := later
          revocations := { state.revocations with
            table := some (table.record token state.now).2 } } := by
    simp only [recordBefore, StoreCall.target, record, RevocationStore.record,
      whole.backend, whole.table]
  rw [perform, performWithin, taken]
  dsimp only
  rw [recorded]
  simp only [answer, carryOut, RevocationStore.lookup, whole.backend, contains]
  rfl

/-- **Asking whether a token is revoked comes to what the last lookup comes to**, and an answer to
that one is true. -/
theorem lastLookup?_isRevoked (service : Service) (state : State) (token : String) :
    ∃ reply, state.lastLookup? service token (isRevoked token) =
        some (reply, (state.run service (isRevoked token)).2) ∧
      (state.run service (isRevoked token)).1 = (StoreReply.outcome reply).mapError .refused ∧
      ∀ found, reply = StoreReply.answer (.ok found) →
        (found = true ↔ (state.run service (isRevoked token)).2.Holds service token) := by
  obtain ⟨front, reply, before, calls, -, ran, made⟩ :=
    timeline_callStore service state (.lookup token)
  have calls : state.timeline service (isRevoked token) = front ++
      [(⟨.store (.lookup token), reply⟩, (state.run service (isRevoked token)).2)] := calls
  refine ⟨reply, ?_, ran, fun found answered => ?_⟩
  · rw [lastLookup?, calls, List.filterMap_append, List.getLast?_append]
    simp only [List.filterMap_cons, lookup?, if_true, List.filterMap_nil, List.getLast?_singleton,
      Option.some_or]
  · have replied := congrArg Prod.fst made
    have told := holds_iff_of_lookup (replied.trans answered)
    rwa [made] at told

/-- A validation looks its token up before anything else. -/
theorem lastLookup?_validate (service : Service) (state : State) (token : String)
    (kind : TokenKind) :
    state.lastLookup? service token (service.validate token kind) =
      state.lastLookup? service token (isRevoked token) := by
  have timeless : Overlooks token .clock := nofun
  have compares : ∀ claims : Claims, Obeys (Overlooks token) (fun _ _ => True) (fun _ => True)
      (callStore (.userById claims.sub) >>= compareWith claims) := by
    intro claims
    refine Obeys.bind (obeys_callStore nofun) fun user _ => ?_
    cases user with
    | none => exact obeys_refuse _
    | some user =>
      rw [compareWith]
      split
      · exact obeys_pure trivial
      · exact obeys_refuse _
  have decodes : ∀ revoked : Bool, Obeys (Overlooks token) (fun _ _ => True) (fun _ => True)
      (if revoked then refuse .blacklisted
        else clock >>= fun now => ofExcept (service.codec.decodeAt token kind now)) := by
    intro revoked
    split
    · exact obeys_refuse _
    · exact (obeys_clock timeless).bind fun now _ => (obeys_ofExcept _).mono fun _ _ => trivial
  rw [validate_eq, lastLookup?_bind compares]
  exact lastLookup?_bind decodes

/-! ## What is withdrawn -/

/-- A call to record the token has succeeded along the log. -/
def Records (token : String) (log : List (Performed Action Action.Reply)) : Prop :=
  ∃ performed ∈ log, performed.action = .store (.record token) ∧
    performed.action.Succeeds performed.reply

/-- What records nothing does not count. -/
theorem records_append_iff {earlier log : List (Performed Action Action.Reply)}
    (others : ∀ performed ∈ earlier, performed.action ≠ .store (.record token)) :
    Records token (earlier ++ log) ↔ Records token log := by
  constructor
  · rintro ⟨performed, member, own, succeeds⟩
    rcases List.mem_append.1 member with member | member
    · exact absurd own (others performed member)
    · exact ⟨performed, member, own, succeeds⟩
  · rintro ⟨performed, member, own, succeeds⟩
    exact ⟨performed, List.mem_append_right _ member, own, succeeds⟩

/-- **Recording a token succeeds by a try that succeeds**, and then the token is recorded. Otherwise
it fails for storage. -/
theorem run_record_cases (service : Service) (state : State) (token : String) :
    (Records token (state.trace service (Service.record token)) ∧
        (state.run service (Service.record token)).2.Holds service token ∧
        ∃ made, (state.run service (Service.record token)).1 = .ok made) ∨
      (¬ Records token (state.trace service (Service.record token)) ∧
        ∃ detail, (state.run service (Service.record token)).1 =
          .error (.refused (.storage detail))) := by
  obtain ⟨front, last, before, calls, failed, ran, made⟩ :=
    timeline_callStore service state (.record token)
  have tries : state.trace service (Service.record token) =
      front.map Prod.fst ++ [⟨.store (.record token), last⟩] := by
    have mapped :=
      (Program.map_fst_timeline (perform service) (Service.record token).run state).symm
    refine mapped.trans ((congrArg (List.map Prod.fst) calls).trans ?_)
    rw [List.map_append]
    rfl
  cases outcome : (state.run service (Service.record token)).1 with
  | ok value =>
    have answered : last = StoreReply.answer (.ok value) :=
      StoreReply.eq_of_outcome (ran.symm.trans outcome)
    have succeeds : StoreReply.Succeeds last := ⟨value, answered⟩
    refine .inl ⟨⟨⟨.store (.record token), last⟩, ?_, rfl, succeeds⟩, ?_, value, rfl⟩
    · rw [tries]
      exact List.mem_append_right _ (List.mem_singleton.2 rfl)
    · rw [answered] at made
      exact (isCareful_perform service state token token).records made
  | error failure =>
    obtain ⟨detail, rfl⟩ := Ends.of_error (ends_record state token) outcome
    refine .inr ⟨?_, detail, rfl⟩
    rw [tries]
    rintro ⟨performed, member, -, succeeds⟩
    rcases List.mem_append.1 member with member | member
    · obtain ⟨entry, tried, rfl⟩ := List.mem_map.1 member
      exact (failed entry tried).2 succeeds
    · obtain rfl := List.mem_singleton.1 member
      obtain ⟨value, answered⟩ := succeeds
      have answered : last = StoreReply.answer (.ok value) := answered
      rw [answered] at ran
      exact absurd (ran.symm.trans outcome) nofun

/-- **A session that is dropped stays dropped** where no token is made current, whoever comes first.
-/
theorem sustains_dropped (service : Service) (session : String) :
    Sustains service MintsNothing (fun _ _ => True)
      fun state => state.sessions.entry? session = none where
  take _ dropped :=
    (congrArg (SessionCache.entry? · session) (sessions_takeIncident _ _)).trans dropped
  rival _ _ dropped :=
    (congrArg (SessionCache.entry? · session) (sessions_recordBefore service _ _ _)).trans dropped
  logout _ _ := obeys_logout (fun _ => ⟨rfl, rfl⟩) (fun _ => ⟨rfl, rfl⟩) (fun _ _ => ⟨rfl, rfl⟩)
    (fun _ _ _ => ⟨rfl, rfl⟩) none
  answer _ dropped :=
    ⟨trivial, (congrArg (SessionCache.entry? · session) (sessions_answer _ _)).trans dropped⟩
  fail _ := trivial
  hang _ := trivial
  act {action state} depth noCall mintless dropped := by
    refine ⟨trivial, ?_⟩
    cases action with
    | store call => exact absurd rfl (noCall call)
    | clock => rwa [performWithin_clock]
    | drawName => rwa [performWithin_drawName]
    | setSession session kind token expiresAt => exact absurd (mintless ()).2 nofun
    | blacklistSession session kind =>
      rw [performWithin_blacklistSession]
      exact SessionCache.entry?_blacklist_of_none dropped
    | clearSession session =>
      rw [performWithin_clearSession]
      exact SessionCache.entry?_clear_of_none dropped

end State

/-- A token that has been minted in vain is recorded. -/
def Service.bury (access : String) : Operation String := do
  let _ ← record access
  refuse .blacklisted

namespace State

variable {service : Service} {state : State} {token : String}

/-- What follows a minting whose secret token turns out to be recorded: the session is dropped, and
the minted token is recorded, or that fails. -/
theorem run_conclude_recorded (service : Service) (asked : State) (claims : Claims)
    (access : String) :
    let outcome := asked.run service (conclude claims access (.ok true))
    let log := asked.trace service (conclude claims access (.ok true))
    outcome.2.sessions.entry? claims.sid = none ∧
      (Records access log ∧ outcome.2.Holds service access ∧
          outcome.1 = .error (.refused .blacklisted) ∨
        ¬ Records access log ∧ ∃ detail, outcome.1 = .error (.refused (.storage detail))) := by
  intro outcome log
  obtain ⟨cleared, left⟩ : ∃ cleared : State,
    cleared = { asked with sessions := (asked.sessions.clear claims.sid).2 } := ⟨_, rfl⟩
  have clears := goes_clearSession service claims.sid asked
  rw [← left] at clears
  have dropped : cleared.sessions.entry? claims.sid = none := by
    rw [left]
    exact SessionCache.entry?_clear_self
  have mintless : (Service.record access).Obeys MintsNothing (fun _ _ => True) fun _ => True :=
    obeys_mintless_callStore (.record access)
  have still : (cleared.run service (Service.record access)).2.sessions.entry? claims.sid = none :=
    ((sustains_dropped service claims.sid).run mintless dropped).2
  have ran : outcome = cleared.run service (bury access) := (clears.run_bind fun _ => bury access).1
  have traced : log = asked.trace service (act (.clearSession claims.sid)) ++
      cleared.trace service (bury access) := (clears.run_bind fun _ => bury access).2
  have records : Records access log ↔ Records access (cleared.trace service (bury access)) := by
    rw [traced]
    refine records_append_iff fun performed member => ?_
    obtain rfl := List.mem_singleton.1 member
    exact nofun
  rw [records, ran, bury]
  rcases run_record_cases service cleared access with ⟨recorded, holds, made, ok⟩ |
    ⟨missed, detail, failed⟩
  · obtain ⟨ran', traced'⟩ := run_bind_ok ok fun _ => (refuse .blacklisted : Operation String)
    rw [ran', traced']
    exact ⟨still, .inl ⟨(List.append_nil _).symm ▸ recorded, holds, rfl⟩⟩
  · obtain ⟨ran', traced'⟩ :=
      run_bind_error failed fun _ => (refuse .blacklisted : Operation String)
    rw [ran', traced']
    exact ⟨still, .inr ⟨missed, detail, rfl⟩⟩

/-! ## What is withheld -/

/-- What a refresh comes to, by the reply to its last lookup and the state behind it. -/
structure Withholds (service : Service) (secretToken : String) (now : Int)
    (log : List (Performed Action Action.Reply)) (outcome : Except Failure String × State)
    (reply : StoreReply Bool) (behind : State) : Prop where
  /-- If the last lookup fails, or the secret token is recorded then, nothing is handed out, and the
  cache shows nothing that was minted. -/
  closed : ¬ StoreReply.Succeeds reply ∨ behind.Holds service secretToken →
    (∃ failure, outcome.1 = .error failure) ∧
      ∀ token ∈ newTokens log, ∀ session kind time,
        outcome.2.sessions.get? session kind time ≠ some token
  /-- If the last lookup says so behind the minting, the session is dropped. The minted token is
  recorded, unless that fails, and the error tells which. -/
  withdrawn : reply = StoreReply.answer (.ok true) → ∀ token ∈ newTokens log,
    ∃ claims, service.codec.decodeAt secretToken .secret now = .ok claims ∧
      outcome.2.sessions.entry? claims.sid = none ∧
        (Records token log ∧ outcome.2.Holds service token ∧
            outcome.1 = .error (.refused .blacklisted) ∨
          ¬ Records token log ∧ ∃ detail, outcome.1 = .error (.refused (.storage detail)))

variable {secretToken access : String} {now : Int} {claims : Claims}
  {log earlier : List (Performed Action Action.Reply)} {outcome : Except Failure String × State}
  {reply : StoreReply Bool} {behind : State}

/-- A refresh that fails and has minted nothing withholds it. -/
theorem withholds_of_nothing {failure : Failure} (failed : outcome.1 = .error failure)
    (nothing : newTokens log = []) :
    Withholds service secretToken now log outcome reply behind where
  closed _ := ⟨⟨failure, failed⟩, fun _ member => absurd (nothing ▸ member) List.not_mem_nil⟩
  withdrawn _ _ member := absurd (nothing ▸ member) List.not_mem_nil

/-- Reading before makes no difference. -/
theorem Withholds.append (withholds : Withholds service secretToken now log outcome reply behind)
    (reads : ∀ performed ∈ earlier, performed.action.Reads) :
    Withholds service secretToken now (earlier ++ log) outcome reply behind := by
  have mintless : newTokens earlier = [] := by
    refine List.filterMap_eq_nil_iff.2 fun performed member => ?_
    obtain ⟨action, reply⟩ := performed
    cases reads _ member with
    | _ => rfl
  have records : ∀ token, Records token (earlier ++ log) ↔ Records token log := by
    refine fun token => records_append_iff fun performed member own => ?_
    have read := reads performed member
    rw [own] at read
    exact absurd read nofun
  have minted : newTokens (earlier ++ log) = newTokens log := by
    rw [newTokens_append, mintless, List.nil_append]
  refine ⟨fun overtaken => ?_, fun found token member => ?_⟩
  · rw [minted]
    exact withholds.closed overtaken
  · rw [minted] at member
    rw [records]
    exact withholds.withdrawn found token member

/-- A sorted cache shows a token only in the slot that the token says. -/
theorem get?_ne_of_says {after : State} (sorted : after.IsSorted service)
    (said : service.codec.Says token claims)
    (hidden : ∀ time, after.sessions.get? claims.sid claims.kind time = none) (session : String)
    (kind : TokenKind) (time : Int) : after.sessions.get? session kind time ≠ some token := by
  intro shown
  obtain ⟨claims', said', rfl, rfl⟩ := sorted session kind token (SessionCache.isLive_of_get? shown)
  obtain rfl := said.unique said'
  exact absurd (shown.symm.trans (hidden time)) nofun

/-! ## Minting -/

/-- How a minting goes on looks no token up. -/
theorem overlooks_conclude (secretToken : String) (claims : Claims) (access : String)
    (answer : Except AuthError Bool) :
    (conclude claims access answer).Obeys (Overlooks secretToken) (fun _ _ => True)
      fun _ => True := by
  rcases answer with error | revoked
  · exact (obeys_act nofun).bind fun _ _ => obeys_refuse error
  · cases revoked with
    | false => exact obeys_pure trivial
    | true =>
      have records : Overlooks secretToken (.store (.record access)) := nofun
      refine (obeys_act nofun).bind fun _ _ => ?_
      exact Obeys.bind (obeys_callStore records) fun _ _ => obeys_refuse .blacklisted

/-- The last lookup of a minting is that behind its token. -/
theorem lastLookup?_mintAccess {expiry : Int}
    (within : Time.add? state.now service.accessLifetime = some expiry)
    (made : service.codec.issue
      (claims.reissue (TokenName.ofCount (state.namesDrawn + 1)) .access state.now expiry) = access)
    (asks : (state.minted claims access).lastLookup? service secretToken (isRevoked secretToken) =
      some (reply, behind)) :
    state.lastLookup? service secretToken (service.mintAccess secretToken claims) =
      some (reply, behind) := by
  subst made
  rw [mintAccess_eq]
  refine (goes_clock state).lastLookup?_bind ((goes_orCrash within _).lastLookup?_bind
    ((goes_drawName _).lastLookup?_bind ((goes_setSession _ _ _ _ _).lastLookup?_bind ?_)))
  rw [lastLookup?_bind (overlooks_conclude secretToken claims _), lastLookup?_attempt]
  exact asks

/-- A minting makes its token current and no other. -/
theorem newTokens_minting {expiry : Int}
    (within : Time.add? state.now service.accessLifetime = some expiry)
    (made : service.codec.issue
      (claims.reissue (TokenName.ofCount (state.namesDrawn + 1)) .access state.now expiry) =
        access) :
    newTokens (state.trace service (service.mintAccess secretToken claims)) = [access] := by
  rw [trace_mintAccess within made, newTokens_append,
    (mintsNothing_of_obeys service (obeys_conclude secretToken claims access) _).2]
  rfl

/-- A minting records what it records when it has found out about the secret token. -/
theorem records_mintAccess_iff {expiry : Int}
    (within : Time.add? state.now service.accessLifetime = some expiry)
    (made : service.codec.issue
      (claims.reissue (TokenName.ofCount (state.namesDrawn + 1)) .access state.now expiry) = access)
    {answer : Bool} {asked : State}
    (asks : (state.minted claims access).run service (isRevoked secretToken) =
      (.ok answer, asked)) :
    Records token (state.trace service (service.mintAccess secretToken claims)) ↔
      Records token (asked.trace service (conclude claims access (.ok answer))) := by
  have attempted : (state.minted claims access).run service (attempt (isRevoked secretToken)) =
      (.ok (.ok answer), asked) := by
    rw [run_attempt_eq, asks]
    rfl
  have traced := (run_bind_ok (congrArg Prod.fst attempted) (conclude claims access)).2
  rw [attempted, trace_attempt] at traced
  have looks : (callStore (.lookup secretToken)).Obeys (· ≠ .store (.record token))
      (fun _ _ => True) fun _ => True :=
    (obeys_callStore nofun).mono fun _ _ => trivial
  have lookups : ∀ performed ∈ (state.minted claims access).trace service (isRevoked secretToken),
      performed.action ≠ .store (.record token) := Program.Obeys.trace looks _
  rw [trace_mintAccess within made, traced, records_append_iff, records_append_iff lookups]
  intro performed member own
  simp only [List.mem_cons, List.not_mem_nil, or_false] at member
  rcases member with rfl | rfl | rfl
  · exact absurd own nofun
  · exact absurd own nofun
  · exact absurd own nofun

/-- **A minting withholds its token** where it is overtaken. -/
theorem exists_withholds_mintAccess {expiry : Int}
    (within : Time.add? state.now service.accessLifetime = some expiry)
    (decoded : service.codec.decodeAt secretToken .secret state.now = .ok claims)
    (sorted : (state.run service (service.mintAccess secretToken claims)).2.IsSorted service) :
    ∃ reply behind, state.lastLookup? service secretToken (service.mintAccess secretToken claims) =
        some (reply, behind) ∧
      Withholds service secretToken state.now
        (state.trace service (service.mintAccess secretToken claims))
        (state.run service (service.mintAccess secretToken claims)) reply behind := by
  obtain ⟨access, made⟩ : ∃ access, service.codec.issue (claims.reissue
    (TokenName.ofCount (state.namesDrawn + 1)) .access state.now expiry) = access := ⟨_, rfl⟩
  have said := service.codec.says_issue (claims.reissue (TokenName.ofCount (state.namesDrawn + 1))
    .access state.now expiry)
  rw [made] at said
  have tokens :
      newTokens (state.trace service (service.mintAccess secretToken claims)) = [access] :=
    newTokens_minting within made
  obtain ⟨reply, asks, came, told⟩ :=
    lastLookup?_isRevoked service (state.minted claims access) secretToken
  refine ⟨reply, _, lastLookup?_mintAccess within made asks, ?_⟩
  cases ran : (state.minted claims access).run service (isRevoked secretToken) with
  | mk result asked =>
    rw [ran] at came told
    cases outcome : StoreReply.outcome reply with
    | error error =>
      rw [outcome] at came
      have ended := run_mintAccess_of_error within made (ran.trans (congrArg (·, asked) came))
      rw [ended] at sorted ⊢
      refine ⟨fun _ => ⟨⟨_, rfl⟩, fun token member => ?_⟩, fun answered => ?_⟩
      · obtain rfl := List.mem_singleton.1 (tokens ▸ member)
        exact get?_ne_of_says sorted said fun time => SessionCache.get?_blacklist_self time
      · rw [answered] at outcome
        exact absurd outcome nofun
    | ok found =>
      rw [outcome] at came
      have answered : reply = StoreReply.answer (.ok found) :=
        StoreReply.eq_of_outcome (congrArg (Except.mapError Failure.refused) outcome)
      have ran : (state.minted claims access).run service (isRevoked secretToken) =
          (.ok found, asked) := ran.trans (congrArg (·, asked) came)
      have ended := run_mintAccess_of_asked within made ran rfl
      cases found with
      | false =>
        refine ⟨fun overtaken => ?_, fun yes => absurd (answered.symm.trans yes) nofun⟩
        rcases overtaken with failed | holds
        · exact absurd ⟨false, answered⟩ failed
        · exact absurd ((told false answered).2 holds) nofun
      | true =>
        obtain ⟨dropped, decided⟩ := run_conclude_recorded service asked claims access
        rw [← ended, ← records_mintAccess_iff within made ran] at decided
        rw [← ended] at dropped
        refine ⟨fun _ => ⟨?_, fun token member => ?_⟩, fun _ token member => ?_⟩
        · rcases decided with ⟨-, -, refused⟩ | ⟨-, detail, failed⟩
          · exact ⟨_, refused⟩
          · exact ⟨_, failed⟩
        · obtain rfl := List.mem_singleton.1 (tokens ▸ member)
          exact get?_ne_of_says sorted said fun time => SessionCache.get?_of_none dropped time
        · obtain rfl := List.mem_singleton.1 (tokens ▸ member)
          exact ⟨claims, decoded, dropped, decided⟩

/-- **A validation before a minting or a refusal withholds what is minted**, where it is overtaken.
-/
theorem exists_withholds_of_validate {next : Claims → Operation String}
    (goesOn : ∀ claims, next claims = service.mintAccess secretToken claims ∨
      next claims = refuse .identityMismatch)
    (sorted :
      (state.run service (service.validate secretToken .secret >>= next)).2.IsSorted service) :
    ∃ reply behind, state.lastLookup? service secretToken
        (service.validate secretToken .secret >>= next) = some (reply, behind) ∧
      Withholds service secretToken state.now
        (state.trace service (service.validate secretToken .secret >>= next))
        (state.run service (service.validate secretToken .secret >>= next)) reply behind := by
  obtain ⟨first, asks, -, -⟩ := lastLookup?_isRevoked service state secretToken
  rw [← lastLookup?_validate service state secretToken .secret] at asks
  obtain ⟨last, behind, looked⟩ := exists_lastLookup?_bind asks next
  have nothing : newTokens (state.trace service (service.validate secretToken .secret)) = [] :=
    (mintsNothing_of_obeys service (obeys_mintless_validate service secretToken .secret) state).2
  have ends := ends_validate service state secretToken .secret
  cases validated : (state.run service (service.validate secretToken .secret)).1 with
  | error failure =>
    obtain ⟨ran, traced⟩ := run_bind_error validated next
    refine ⟨last, behind, looked, withholds_of_nothing (congrArg Prod.fst ran) ?_⟩
    rw [traced, nothing]
  | ok claims =>
    obtain ⟨ran, traced⟩ := run_bind_ok validated next
    have asked : state.lastLookup? service secretToken
        (service.validate secretToken .secret >>= next) = _ := lastLookup?_bind_ok validated next
    have now : (state.run service (service.validate secretToken .secret)).2.now = state.now :=
      (Ends.run service ends.keepsUsers).2.now
    obtain ⟨decoded, -⟩ := Ends.of_ok ends.keepsUsers validated
    have reads : ∀ performed ∈ state.trace service (service.validate secretToken .secret),
        performed.action.Reads := fun performed member => reads_of_mem_trace ends member
    rw [ran] at sorted
    rw [ran, traced]
    generalize (state.run service (service.validate secretToken .secret)).2 = checked at *
    rcases goesOn claims with mints | refuses
    · rw [mints] at sorted asked ⊢
      cases within : Time.add? checked.now service.accessLifetime with
      | none =>
        rcases mintAccess_cases service checked secretToken claims with
          ⟨minted, crashed⟩ | ⟨_, _, within', -⟩
        · refine ⟨last, behind, looked, withholds_of_nothing crashed ?_⟩
          rw [newTokens_append, nothing, minted]
          rfl
        · exact absurd (within.symm.trans within') nofun
      | some expiry =>
        rw [← now] at decoded ⊢
        obtain ⟨reply, behind', lookup, withholds⟩ :=
          exists_withholds_mintAccess within decoded sorted
        refine ⟨reply, behind', ?_, withholds.append reads⟩
        rw [asked, lookup, Option.some_or]
    · rw [refuses]
      refine ⟨last, behind, looked, withholds_of_nothing rfl ?_⟩
      rw [newTokens_append, nothing]
      rfl

end State

/-- **A refresh that is overtaken by a revocation never pays out.** In every reachable state,
whatever fails, hangs or comes first, a refresh or a renewal has a last lookup of its secret token.
If that one fails, or if the secret token is recorded when it is answered, nothing is handed out,
and no session shows a token that was minted on the way. If it is answered so behind the minting,
the session has no entry left. Then the minted token is recorded and the error says that the secret
token is revoked, or no call to record the minted token has succeeded and the error is one of
storage. -/
theorem overtaken_refresh {service : Service} {state : State}
    (reachable : state.IsReachable service) {secretToken : String} {operation : Operation String}
    (refreshes : operation = service.refresh secretToken ∨
      ∃ current, operation = service.renew current secretToken) :
    ∃ reply behind, state.lastLookup? service secretToken operation = some (reply, behind) ∧
      State.Withholds service secretToken state.now (state.trace service operation)
        (state.run service operation) reply behind := by
  have sorted : (state.run service operation).2.IsSorted service := by
    rcases refreshes with rfl | ⟨current, rfl⟩
    · exact reachable.isSorted.run (does_refresh fun _ _ => trivial)
    · exact reachable.isSorted.run (does_renew current fun _ _ => trivial)
  obtain ⟨next, rfl, goesOn⟩ := exists_minting_of_refreshes refreshes
  exact State.exists_withholds_of_validate goesOn sorted

/-- Someone who has logged in refreshes, and another writer records the secret token between the two
lookups. The session is dropped, and the new access token is recorded. -/
theorem refreshed_behind_record :
    ∃ (service : Service) (state behind : State) (secretToken access : String) (claims : Claims),
      state.IsReachable service ∧
        state.lastLookup? service secretToken (service.refresh secretToken) =
          some (StoreReply.answer (.ok true), behind) ∧
        newTokens (state.trace service (service.refresh secretToken)) = [access] ∧
        let outcome := state.run service (service.refresh secretToken)
        outcome.1 = .error (.refused .blacklisted) ∧ outcome.2.Holds service access ∧
          outcome.2.sessions.entry? claims.sid = none ∧
          ∀ session kind time, outcome.2.sessions.get? session kind time ≠ some access := by
  obtain ⟨service, start, credentials, row, user, ready, -⟩ := State.exists_isReady .customer
  obtain ⟨_, secret, calls, sessions, logsIn⟩ := ready.exists_logsIn
  have decoded := logsIn.decoded'
  let opened : State := { start with calls, namesDrawn := start.namesDrawn + 3, sessions }
  have whole : opened.IsWhole service {} := ready.whole.frame _ _ _
  obtain ⟨secretToken, issued⟩ : ∃ secretToken, service.codec.issue secret = secretToken := ⟨_, rfl⟩
  rw [issued] at decoded
  let state : State := { opened with revocationPlan := [.pass, .record secretToken] }
  have reachable : state.IsReachable service := by
    refine ⟨start, [.login credentials, .plan .revocations [.pass, .record secretToken]],
      ready.sessions, ?_⟩
    have first : (start.step service (.login credentials)).2 = opened :=
      congrArg Prod.snd logsIn.goes.run
    rw [State.after, List.foldl_cons, first]
    rfl
  -- the first lookup is let through, the other one is overtaken
  obtain ⟨noted, validates⟩ := whole.goes_validate_planned rfl decoded
    (logsIn.ofUser' ▸ ready.byId) logsIn.matched' [.record secretToken]
  let checked : State := { opened with calls := noted, revocationPlan := [.record secretToken] }
  have validates : state.Goes service (service.validate secretToken .secret) secret checked :=
    validates
  obtain ⟨access, minted⟩ : ∃ access, service.codec.issue (secret.reissue
    (TokenName.ofCount (checked.namesDrawn + 1)) .access checked.now 960) = access := ⟨_, rfl⟩
  have within : Time.add? checked.now service.accessLifetime = some 960 := ready.accessEnd
  obtain ⟨calls', table, asks⟩ := (ready.whole.frame (start.namesDrawn + 4)
    (sessions.set secret.sid .access access secret.exp start.now) noted).goes_isRevoked_recorded
      secretToken []
  let asked : State := { checked.minted secret access with
    calls := calls'
    revocationPlan := []
    revocations := { start.revocations with table := some table } }
  have asks : (checked.minted secret access).Goes service (isRevoked secretToken) true asked := asks
  obtain ⟨reply, looked, came, told⟩ :=
    State.lastLookup?_isRevoked service (checked.minted secret access) secretToken
  rw [asks.run] at looked came told
  obtain rfl : reply = StoreReply.answer (.ok true) := StoreReply.eq_of_outcome came.symm
  have last : state.lastLookup? service secretToken (service.refresh secretToken) =
      some (StoreReply.answer (.ok true), asked) :=
    validates.lastLookup?_bind (State.lastLookup?_mintAccess within minted looked)
  have tokens : newTokens (state.trace service (service.refresh secretToken)) = [access] := by
    rw [Service.refresh, (validates.run_bind _).2, newTokens_append,
      State.newTokens_minting within minted, (State.mintsNothing_of_obeys service
        (State.obeys_mintless_validate service secretToken .secret) state).2]
    rfl
  -- the minted token is recorded then
  have settled : (State.IsWhole service { asked with
      sessions := (asked.sessions.clear secret.sid).2 } table) :=
    ⟨whole.backend, ⟨rfl, whole.calm.userPlan, whole.calm.rivals⟩, rfl⟩
  obtain ⟨_, _, records⟩ := settled.goes_record access
  have refused : (state.run service (service.refresh secretToken)).1 =
      .error (.refused .blacklisted) := by
    have ended := (validates.run_bind (service.mintAccess secretToken)).1.trans
      (State.run_mintAccess_of_asked within minted asks.run rfl)
    have buries := ((State.goes_clearSession service secret.sid asked).run_bind
      fun _ => bury access).1.trans (records.run_bind fun _ => refuse .blacklisted).1
    exact congrArg Prod.fst (ended.trans buries)
  obtain ⟨reply, behind, last', withholds⟩ := overtaken_refresh reachable (.inl rfl)
  obtain ⟨rfl, rfl⟩ := Prod.mk.inj (Option.some.inj (last.symm.trans last'))
  have member : access ∈ newTokens (state.trace service (service.refresh secretToken)) :=
    tokens ▸ List.mem_singleton.2 rfl
  obtain ⟨-, hidden⟩ := withholds.closed (.inr ((told true rfl).1 rfl))
  obtain ⟨claims, -, dropped, ⟨-, holds, -⟩ | ⟨-, detail, failed⟩⟩ :=
    withholds.withdrawn rfl access member
  · exact ⟨service, state, asked, secretToken, access, claims, reachable, last, tokens, refused,
      holds, dropped, hidden access member⟩
  · cases refused.symm.trans failed

end DualToken
