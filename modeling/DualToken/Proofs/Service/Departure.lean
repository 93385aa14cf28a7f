import DualToken.Proofs.Service.Decision
import DualToken.Proofs.Service.Interruption
import DualToken.Proofs.Text.Order

/-!
# What a logout revokes

The tokens that a logout revokes are its secret token, those that are current in the session, and
the access token that was presented if it is of the session and its user (`State.Revokes`). They may
coincide with one another, and some of them may be recorded already. Whatever they are, each of them
is recorded by one call: the secret token first, so that the session is closed to others from then
on, and the others in the order of their bytes (`logout_revokes`). For that, texts that are put in
order, each once, ascend (`Service.ascending_sortedOnce`), as their bytes do.
-/

set_option autoImplicit false

namespace DualToken

open Operation Service

/-! ## Texts in order -/

namespace Service

/-- The texts that are gathered are in order, each once, if those to come are in order. -/
theorem ascending_loop {others : List String} :
    ∀ {first : String} {found : List String}, (first :: others).Pairwise (· ≤ ·) →
      (first :: found).Pairwise (fun later earlier => earlier < later) →
        (List.eraseRepsBy.loop (· == ·) first others found).Pairwise (· < ·) := by
  induction others with
  | nil =>
    intro first found _ gathered
    rw [List.eraseRepsBy.loop]
    exact List.pairwise_reverse.2 gathered
  | cons next others ih =>
    intro first found ordered gathered
    obtain ⟨least, rest⟩ := List.pairwise_cons.1 ordered
    rw [List.eraseRepsBy.loop]
    split
    · next same =>
      obtain rfl : first = next := beq_iff_eq.1 same
      exact ih rest gathered
    · next other =>
      have different : first ≠ next := fun same => Bool.eq_false_iff.1 other (beq_iff_eq.2 same)
      have less : first < next := Classical.byContradiction fun notLess =>
        different (String.le_antisymm (least next List.mem_cons_self) (String.not_lt.1 notLess))
      refine ih rest (List.pairwise_cons.2 ⟨fun earlier member => ?_, gathered⟩)
      rcases List.mem_cons.1 member with rfl | member
      · exact less
      · exact String.lt_trans ((List.pairwise_cons.1 gathered).1 earlier member) less

/-- **Texts in order, each once, ascend.** -/
theorem ascending_sortedOnce (texts : List String) : (sortedOnce texts).Pairwise (· < ·) := by
  have ordered :
      (texts.mergeSort fun first second => decide (first ≤ second)).Pairwise (· ≤ ·) := by
    have sorted : (texts.mergeSort fun first second => decide (first ≤ second)).Pairwise
        fun first second => decide (first ≤ second) = true := by
      refine List.pairwise_mergeSort (fun first second third before before' => ?_)
        (fun first second => ?_) texts
      · simp only [decide_eq_true_eq] at before before' ⊢
        exact String.le_trans before before'
      · simp only [Bool.or_eq_true, decide_eq_true_eq]
        exact String.le_total first second
    exact sorted.imp of_decide_eq_true
  rw [sortedOnce, List.eraseReps]
  cases gathered : texts.mergeSort fun first second => decide (first ≤ second) with
  | nil => exact .nil
  | cons first others =>
    rw [gathered] at ordered
    exact ascending_loop ordered (List.pairwise_singleton _ _)

theorem isOfSession_iff {service : Service} {token : String} {claims : Claims} {now : Int} :
    service.isOfSession token claims now = true ↔
      ∃ access, service.codec.decodeAt token .access now = .ok access ∧ access.sid = claims.sid ∧
        access.sub = claims.sub := by
  constructor
  · intro own
    rw [isOfSession] at own
    split at own
    · next access decoded =>
      rw [Bool.and_eq_true, decide_eq_true_eq, decide_eq_true_eq] at own
      exact ⟨access, decoded, own⟩
    · cases own
  · rintro ⟨access, decoded, sid, sub⟩
    exact isOfSession_of_decodeAt decoded sid sub

end Service

namespace State

variable {service : Service} {state middle after : State} {α β : Type}

/-! ## The calls of operations that succeed -/

theorem Goes.storeCalls_bind {operation : Operation α} {next : α → Operation β} {value : α}
    (goes : state.Goes service operation value middle) :
    storeCalls (state.trace service (operation >>= next)) =
      storeCalls (state.trace service operation) ++
        storeCalls (middle.trace service (next value)) := by
  rw [(goes.run_bind next).2, storeCalls_append]

/-- A call that succeeds is made once. -/
theorem Goes.storeCalls_callStore {call : StoreCall} {value : call.Result}
    (goes : state.Goes service (callStore call) value after) :
    storeCalls (state.trace service (callStore call)) = [call] := by
  rw [State.trace, run_callStore, Program.trace_act, goes.of_callStore]
  rfl

/-- Recording tokens makes one call for each of them, in their order. -/
theorem Goes.storeCalls_recordAll {tokens : List String} {done : Unit}
    (goes : state.Goes service (recordAll tokens) done after) :
    storeCalls (state.trace service (recordAll tokens)) = tokens.map .record := by
  induction tokens generalizing state with
  | nil => rfl
  | cons token tokens ih =>
    obtain ⟨made, middle, recorded, others, -⟩ := goes.of_bind
    exact recorded.storeCalls_bind.trans
      (congrArg₂ (· ++ ·) recorded.storeCalls_callStore (ih others))

/-- Verifying a token makes one call. -/
theorem Goes.storeCalls_verify {token : String} {kind : TokenKind} {claims : Claims}
    (goes : state.Goes service (service.verify token kind) claims after) :
    storeCalls (state.trace service (service.verify token kind)) = [.lookup token] := by
  obtain ⟨revoked, middle, asked, checked, traced⟩ := goes.of_bind
  cases revoked with
  | true => exact absurd checked.run nofun
  | false =>
    obtain ⟨now, ticked, reads, decoded, traced'⟩ := checked.of_bind
    obtain ⟨ok, -⟩ := decoded.of_ofExcept
    have nothing :
        ticked.trace service (ofExcept (service.codec.decodeAt token kind now)) = [] := by
      rw [ok]
      rfl
    have looks : storeCalls (state.trace service (isRevoked token)) = [.lookup token] :=
      asked.storeCalls_callStore
    rw [nothing] at traced'
    refine (congrArg storeCalls (traced.trans (congrArg _ traced'))).trans ?_
    rw [storeCalls_append, looks]
    rfl

/-- In a calm state a call leaves the cache alone, and takes no time. -/
theorem Goes.frame_callStore {call : StoreCall} {value : call.Result} (calm : state.IsCalm)
    (goes : state.Goes service (callStore call) value after) :
    after.sessions = state.sessions ∧ after.now = state.now := by
  have frame : (state.perform service (.store call)).2.sessions = state.sessions ∧
      (state.perform service (.store call)).2.now = state.now := calm.store_frame call
  rwa [goes.of_callStore] at frame

/-- Recording tokens leaves the cache alone. -/
theorem Goes.sessions_recordAll {tokens : List String} {done : Unit} (calm : state.IsCalm)
    (goes : state.Goes service (recordAll tokens) done after) :
    after.sessions = state.sessions := by
  induction tokens generalizing state with
  | nil =>
    obtain ⟨-, rfl⟩ := goes.unique (goes_pure () state)
    rfl
  | cons token tokens ih =>
    obtain ⟨made, middle, recorded, others, -⟩ := goes.of_bind
    exact (ih (recorded.calm calm) others).trans (Goes.frame_callStore calm recorded).1

/-! ## What a logout does -/

/-- The tokens that a logout revokes. -/
inductive Revokes (service : Service) (state : State) (secretToken : String)
    (presented : Option String) (claims : Claims) : String → Prop
  | secret : Revokes service state secretToken presented claims secretToken
  /-- A token is current in the session. -/
  | current {entry : SessionEntry} (found : state.sessions.entry? claims.sid = some entry)
      {kind : TokenKind} {token : String} (live : (entry.slot kind).get? = some token) :
      Revokes service state secretToken presented claims token
  /-- The token that was presented is an unexpired access token of the session and its user. -/
  | presented {token : String} (shown : presented = some token) {access : Claims}
      (decoded : service.codec.decodeAt token .access state.now = .ok access)
      (sid : access.sid = claims.sid) (sub : access.sub = claims.sub) :
      Revokes service state secretToken presented claims token

variable {secretToken token : String} {presented : Option String} {claims : Claims}

theorem yields_iff {session : String} :
    state.Yields session token ↔ ∃ entry, state.sessions.entry? session = some entry ∧
      ∃ kind, (entry.slot kind).get? = some token := by
  rw [Yields, SessionCache.clear]
  cases found : state.sessions.entry? session with
  | none => simp
  | some entry =>
    constructor
    · rintro (live | live)
      · exact ⟨entry, rfl, .access, live⟩
      · exact ⟨entry, rfl, .secret, live⟩
    · rintro ⟨_, ⟨⟩, kind, live⟩
      cases kind with
      | access => exact .inl live
      | secret => exact .inr live

theorem isDue_iff :
    state.IsDue service secretToken presented claims token ↔
      state.Revokes service secretToken presented claims token := by
  rw [IsDue, yields_iff, isOfSession_iff]
  constructor
  · rintro (rfl | ⟨entry, found, kind, live⟩ | ⟨shown, access, decoded, sid, sub⟩)
    · exact .secret
    · exact .current found live
    · exact .presented shown decoded sid sub
  · rintro (_ | ⟨found, live⟩ | ⟨shown, decoded, sid, sub⟩)
    · exact .inl rfl
    · exact .inr (.inl ⟨_, found, _, live⟩)
    · exact .inr (.inr ⟨shown, _, decoded, sid, sub⟩)

/-- **A logout makes one call for each token that it revokes**, for the secret token first and for
the others in ascending order, and drops the session. -/
theorem Goes.storeCalls_logout {done : Unit} (calm : state.IsCalm)
    (goes : state.Goes service (service.logout secretToken presented) done after)
    (decoded : service.codec.decodeAt secretToken .secret state.now = .ok claims) :
    (∃ others : List String,
      storeCalls (state.trace service (service.logout secretToken presented)) =
          .lookup secretToken :: .record secretToken :: others.map .record ∧
        others.Pairwise (· < ·) ∧
        ∀ token, token ∈ others ↔
          token ≠ secretToken ∧ state.IsDue service secretToken presented claims token) ∧
      after.sessions = (state.sessions.clear claims.sid).2 := by
  obtain ⟨said, verified, verifies, rest, traced₁⟩ := goes.of_bind
  obtain ⟨decoded', looked⟩ := verifies.of_verify calm
  obtain rfl : said = claims := Except.ok.inj (decoded'.symm.trans decoded)
  have calm₁ := verifies.calm calm
  obtain ⟨made, recorded, records, rest, traced₂⟩ := rest.of_bind
  have calm₂ := records.calm calm₁
  obtain ⟨now, noted, reads, rest, traced₃⟩ := rest.of_bind
  obtain ⟨rfl, rfl⟩ := reads.unique (goes_clock recorded)
  obtain ⟨tokens, cleared, clears, buries, traced₄⟩ := rest.of_bind
  have calm₃ := clears.calm calm₂
  obtain ⟨rfl, rfl⟩ := clears.unique (goes_clearSession service said.sid noted)
  -- the cache and the clock are still as they were when the session is dropped
  have asked : verified.sessions = state.sessions ∧ verified.now = state.now :=
    looked ▸ calm.store_frame _
  obtain ⟨sessions, now⟩ := Goes.frame_callStore calm₁ records
  rw [asked.1] at sessions
  rw [asked.2] at now
  have noting : storeCalls (verified.trace service (Service.record secretToken)) =
      [.record secretToken] := records.storeCalls_callStore
  have calls := congrArg storeCalls
    (traced₁.trans (congrArg _ (traced₂.trans (congrArg _ (traced₃.trans (congrArg _ traced₄))))))
  simp only [storeCalls_append, verifies.storeCalls_verify, noting] at calls
  refine ⟨⟨_, calls.trans (congrArg (_ :: _ :: ·) buries.storeCalls_recordAll),
    ascending_sortedOnce _, fun token => ?_⟩, ?_⟩
  · rw [mem_sortedOnce, List.mem_filter, sessions, now, decide_eq_true_iff, and_comm]
    refine and_congr_right fun different => ?_
    simp only [List.mem_append, Option.mem_toList, Option.filter_eq_some_iff, IsDue, Yields,
      different, false_or, or_assoc]
  · rw [Goes.sessions_recordAll calm₃ buries]
    exact congrArg (fun sessions => (SessionCache.clear sessions said.sid).2) sessions

/-- In a calm state a token is found to be recorded exactly if it is, unless a store fails. -/
theorem IsCalm.exists_goes_isRevoked (calm : state.IsCalm)
    (succeed : ∀ performed ∈ state.trace service (isRevoked token),
      performed.action.Succeeds performed.reply) :
    ∃ found looked, state.Goes service (isRevoked token) found looked ∧
      (found = true ↔ state.Holds service token) := by
  obtain ⟨_, first⟩ := exists_answer succeed
  obtain ⟨found, answered, recorded⟩ := calm.exists_lookup ⟨_, congrArg Prod.fst first⟩
  exact ⟨found, _, goes_callStore (Prod.ext answered rfl), recorded⟩

/-- A logout whose secret token is refused is refused like it, and changes nothing. -/
theorem IsCalm.refused_logout (calm : state.IsCalm) {failure : Failure}
    (refused : (state.run service (service.verify secretToken .secret)).1 = .error failure)
    (presented : Option String) :
    (state.run service (service.logout secretToken presented)).1 = .error failure ∧
      state.Unchanged (state.run service (service.logout secretToken presented)).2 := by
  have plain : state.Plans Incident.IsPlain := fun incident planned =>
    absurd planned (calm.not_planned incident)
  rw [Service.logout, (run_bind_error refused _).1]
  exact ⟨rfl, unchanged_of_reads (ends_verify service state secretToken .secret) plain⟩

end State

/-- **A logout revokes exactly what it says.** Let no other writer come first, and no call of the
logout fail. A secret token that is recorded is refused as revoked, and one that does not decode now
is refused for that; nothing changes then. Any other secret token is recorded, and so are the tokens
that are current in its session and the access token that was presented if it is of the session and
its user: each of them by one call, the secret token first and the others in the order of their
bytes. The session is dropped, and no other is touched. No user is looked for. -/
theorem logout_revokes {service : Service} {state : State} {secretToken : String}
    {presented : Option String} (plain : state.Plans Incident.IsPlain)
    (alone : state.revocations.server.rivals = [])
    (succeed : ∀ performed ∈ state.trace service (service.logout secretToken presented),
      performed.action.Succeeds performed.reply) :
    let outcome := (state.run service (service.logout secretToken presented)).1
    let after := (state.run service (service.logout secretToken presented)).2
    (state.Holds service secretToken →
      outcome = .error (.refused .blacklisted) ∧ state.Unchanged after) ∧
    (¬ state.Holds service secretToken → ∀ error,
      service.codec.decodeAt secretToken .secret state.now = .error error →
        outcome = .error (.refused error) ∧ state.Unchanged after) ∧
    (¬ state.Holds service secretToken → ∀ claims,
      service.codec.decodeAt secretToken .secret state.now = .ok claims →
        outcome = .ok () ∧
        (∀ token, after.Holds service token ↔
          state.Revokes service secretToken presented claims token ∨ state.Holds service token) ∧
        (∃ others : List String,
          storeCalls (state.trace service (service.logout secretToken presented)) =
              .lookup secretToken :: .record secretToken :: others.map .record ∧
            others.Pairwise (fun first second => Text.utf8 first < Text.utf8 second) ∧
            ∀ token, token ∈ others ↔ token ≠ secretToken ∧
              state.Revokes service secretToken presented claims token) ∧
        after.sessions.entry? claims.sid = none ∧
        ∀ session, session ≠ claims.sid →
          after.sessions.entry? session = state.sessions.entry? session) := by
  intro outcome after
  obtain ⟨ran, traced⟩ := State.run_unplanned plain succeed
  have ran : state.unplanned.run service (service.logout secretToken presented) =
      (outcome, after.unplanned) := ran
  have calm : state.unplanned.IsCalm := ⟨rfl, rfl, alone⟩
  rw [← traced] at succeed ⊢
  clear_value outcome after
  obtain ⟨found, looked, asked, recorded⟩ := calm.exists_goes_isRevoked fun performed member =>
    succeed performed (State.mem_trace_bind (service.verify secretToken .secret)
      (State.mem_trace_bind (isRevoked secretToken) member))
  have answers : state.unplanned.Answers service (.lookup secretToken) found :=
    State.answers_iff.2 (congrArg Prod.fst asked.run)
  refine ⟨fun holds => ?_, fun absent error undecodable => ?_, fun absent claims decoded => ?_⟩
  · obtain rfl := recorded.2 holds
    obtain ⟨refused, same⟩ := calm.refused_logout
      (State.run_verify_of_refused (.inl ⟨answers, rfl⟩) .secret).1 presented
    rw [ran] at refused same
    exact ⟨refused, ⟨same.now, same.directory⟩, same.records, same.sessions, same.namesDrawn⟩
  · obtain rfl : found = false := Bool.eq_false_iff.2 fun yes => absent (recorded.1 yes)
    have verified := congrArg Prod.fst (State.run_verify_of_clear answers .secret).1
    have undecodable : service.codec.decodeAt secretToken .secret state.unplanned.now =
        .error error := undecodable
    rw [undecodable] at verified
    obtain ⟨refused, same⟩ := calm.refused_logout verified presented
    rw [ran] at refused same
    exact ⟨refused, ⟨same.now, same.directory⟩, same.records, same.sessions, same.namesDrawn⟩
  · obtain ⟨ended, goes⟩ := calm.exists_goes_logout decoded absent succeed
    obtain ⟨⟨others, calls, ascending, members⟩, sessions⟩ := goes.storeCalls_logout calm decoded
    obtain rfl : after.unplanned = ended := congrArg Prod.snd (ran.symm.trans goes.run)
    have sessions : after.sessions = (state.sessions.clear claims.sid).2 := sessions
    refine ⟨congrArg Prod.fst (ran.symm.trans goes.run), fun token => ?_,
      ⟨others, calls, ?_, fun token => ?_⟩, ?_, fun session different => ?_⟩
    · rw [← State.isDue_iff]
      exact goes.isDue_of_logout calm decoded token
    · exact ascending.imp Text.utf8_lt_iff.2
    · rw [← State.isDue_iff]
      exact members token
    · rw [sessions]
      exact SessionCache.entry?_clear_self
    · rw [sessions]
      exact SessionCache.entry?_clear_of_ne different

/-- Someone who has logged in logs out, and the secret token is recorded by a call of its own. -/
theorem logged_out_behind_login :
    ∃ (service : Service) (state : State) (secretToken : String) (claims : Claims)
      (others : List String),
      state.IsReachable service ∧ ¬ state.Holds service secretToken ∧
      let after := (state.run service (service.logout secretToken none)).2
      (state.run service (service.logout secretToken none)).1 = .ok () ∧
        after.Holds service secretToken ∧ after.sessions.entry? claims.sid = none ∧
        storeCalls (state.trace service (service.logout secretToken none)) =
          .lookup secretToken :: .record secretToken :: others.map .record := by
  obtain ⟨service, state, secret, access, user, whole, reachable, decoded, -⟩ :=
    State.exists_loggedIn
  have plain : state.Plans Incident.IsPlain := fun incident planned =>
    absurd planned (whole.calm.not_planned incident)
  have absent : ¬ state.Holds service (service.codec.issue secret) := by
    rw [whole.holds_iff]
    exact nofun
  have reachable : state.IsReachable service := by
    have unplanned := reachable state.revocationPlan
    exact unplanned
  obtain ⟨_, _, -, leaves⟩ := whole.goes_logout rfl decoded
  obtain ⟨done, holds, ⟨others, calls, -⟩, dropped, -⟩ :=
    (logout_revokes plain whole.calm.rivals leaves.succeed).2.2 absent secret decoded
  exact ⟨service, state, service.codec.issue secret, secret, others, reachable, absent, done,
    (holds _).2 (.inl .secret), dropped, calls⟩

end DualToken
