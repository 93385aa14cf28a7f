import DualToken.Proofs.Service.Validation
import DualToken.Proofs.Token.Spelling

/-!
# Revoked tokens have no other spelling

Recorded tokens are compared as texts, while a token is read for what it says. A text that read like
a recorded token but were spelled in another way would not be found among the records. There is no
such text (`one_spelling`): what reads as claims is spelled by three segments, the first two of
which determine the third. So a token that is recorded shuts out everything that shares its first
two segments, whatever stands behind them: the token itself for its record, and any other text for
its signature (`State.ShutsOut`).
-/

set_option autoImplicit false

namespace DualToken

namespace State

/-- Everything that is given the token refuses it. -/
structure ShutsOut (service : Service) (state : State) (token : String) : Prop where
  validate : ∀ kind, state.RefusesCheck service (service.validate token kind)
  refresh : state.RefusesCheck service (service.refresh token)
  renew : ∀ access, state.RefusesCheck service (service.renew access token)
  logout : ∀ presented, state.RefusesCheck service (service.logout token presented)
  /-- The gate lets no request through with it. -/
  enter : ∀ policy headers handler, Carrier.token? headers .access = some token →
    (state.run service (Gate.enter service policy headers handler)).1 =
      .error (.refused .unauthenticated)

variable {service : Service} {state : State} {token : String}

/-- Everything that is given a token verifies it first. -/
theorem shutsOut_of_verify
    (refuses : ∀ kind, state.RefusesCheck service (service.verify token kind)) :
    state.ShutsOut service token where
  validate kind := (refuses kind).bind _
  refresh := ((refuses .secret).bind _).bind _
  renew _ := ((refuses .secret).bind _).bind _
  logout _ := (refuses .secret).bind _
  enter policy _ handler carried := ((refuses .access).bind _).enter policy carried handler

/-- A barred token is shut out. -/
theorem Bars.shutsOut (bars : state.Bars service token) : state.ShutsOut service token :=
  shutsOut_of_verify fun kind => ((asksFirst_verify service token kind).turnsAway bars).refused

/-- A text that counts as wrongly signed under both keys is shut out. -/
theorem shutsOut_of_decodeAt
    (wrong : ∀ kind, service.codec.decodeAt token kind state.now = .error .invalidSignature) :
    state.ShutsOut service token :=
  shutsOut_of_verify fun kind => refusesCheck_verify (wrong kind)

end State

/-- **A token has one spelling.** What decodes under a kind is three segments in base 64 without
padding, with dots between them, and whatever else decodes under the kind with the same first two
segments is the same text. Any other text behind the second dot counts as a wrong signature at any
time and under either kind. So once the token is recorded, everything that begins with its first two
segments is shut out for ever, whatever stands behind them. -/
theorem one_spelling (service : Service) {token : String} {kind : TokenKind} {now : Int}
    {claims : Claims} (decoded : service.codec.decodeAt token kind now = .ok claims) :
    ∃ header payload signature : List Char,
      token.toList.splitOn '.' = [header, payload, signature] ∧
      (∀ segment ∈ [header, payload, signature],
        (∃ bytes, Base64.encode .url bytes = segment) ∧
          ∀ character ∈ segment, character ∈ Base64.Alphabet.url.symbols.toList) ∧
      (∀ other now' claims', service.codec.decodeAt other kind now' = .ok claims' →
        (other.toList.splitOn '.').take 2 = [header, payload] → other = token) ∧
      (∀ text, text ≠ signature → ∀ kind' now',
        service.codec.decodeAt (Codec.spell header payload text) kind' now' =
          .error .invalidSignature) ∧
      ∀ state later, state.Holds service token → Later service state later →
        ∀ text, later.ShutsOut service (Codec.spell header payload text) := by
  obtain ⟨read, ofKind, -⟩ := Codec.decodeAt_eq_ok_iff.1 decoded
  obtain ⟨header, payload, first, second, cut, spelled⟩ := Codec.spelled_of_verify? read
  have third := Codec.isSegment_signatureSegment (service.codec.key kind) header payload
  have respelled : ∀ text, text ≠ Codec.signatureSegment (service.codec.key kind) header payload →
      ∀ kind' now', service.codec.decodeAt (Codec.spell header payload text) kind' now' =
        .error .invalidSignature := by
    intro text other kind' now'
    exact Codec.decodeAt_respelled read ofKind cut other kind' now'
  refine ⟨header, payload, _, ?_, ?_, ?_, respelled, ?_⟩
  · rw [spelled, Codec.splitOn_spell first second, List.splitOn_eq_singleton third.noDot]
  · intro segment member
    have written : Codec.IsSegment segment := by
      simp only [List.mem_cons, List.not_mem_nil, or_false] at member
      rcases member with rfl | rfl | rfl
      · exact first
      · exact second
      · exact third
    exact ⟨written, written.symbols⟩
  · intro other now' claims' decoded' front
    obtain ⟨read', -, -⟩ := Codec.decodeAt_eq_ok_iff.1 decoded'
    obtain ⟨header', payload', first', second', -, spelled'⟩ := Codec.spelled_of_verify? read'
    rw [spelled', Codec.splitOn_spell first' second', List.take_succ_cons, List.take_succ_cons,
      List.take_zero] at front
    obtain ⟨rfl, rfl⟩ : header' = header ∧ payload' = payload := by simpa using front
    rw [spelled', spelled]
  · intro state later holds run text
    by_cases same : text = Codec.signatureSegment (service.codec.key kind) header payload
    · rw [same, ← spelled]
      exact (run.bars holds.bars).shutsOut
    · exact State.shutsOut_of_decodeAt fun kind' => respelled text same kind' later.now

/-- An access token that was issued decodes, and the same text with a padding character or a space
behind it does not. When the token is recorded, the longer texts are shut out as the token is, also
behind a dropped table. -/
theorem padded_token_shut_out :
    let service : Service := ⟨⟨[1], [2]⟩, 900, 86400, 300, ⟨true, 900, 86400⟩, .table, 4⟩
    let claims : Claims := ⟨1, .customer, "Ada Byron", "ada@example.org", "1", "London", 1000, 0,
      "token", "session", .access⟩
    let token := service.codec.issue claims
    let state : State := State.after service [.record token] { now := 60 }
    let later : State := state.after service [.dropTable .revocations]
    service.codec.decodeAt token .access 60 = .ok claims ∧ state.Holds service token ∧
      ∀ behind ∈ ["=", " ", "."],
        service.codec.decodeAt (token ++ behind) .access 60 = .error .invalidSignature ∧
          later.ShutsOut service (token ++ behind) := by
  intro service claims token state later
  have decoded : service.codec.decodeAt token .access 60 = .ok claims :=
    Codec.decodeAt_issue_of_lt (by decide) (by decide)
  -- said of any text, so that nothing has to evaluate the signature
  have recorded : ∀ text : String,
      (State.after service [.record text] { now := 60 }).Holds service text := by
    intro text
    exact ⟨_, rfl, by simp [RevocationTable.contains, RevocationTable.find?]⟩
  refine ⟨decoded, recorded token, fun behind member => ?_⟩
  have filled : ∀ behind ∈ ["=", " ", "."], behind.toList ≠ [] := by decide
  obtain ⟨header, payload, signature, split, -, -, wrong, shut⟩ := one_spelling service decoded
  have other : signature ++ behind.toList ≠ signature := fun same =>
    filled behind member (List.append_right_eq_self.1 same)
  have longer : token ++ behind = Codec.spell header payload (signature ++ behind.toList) := by
    rw [Codec.eq_spell_of_splitOn split, Codec.spell_append]
  rw [longer]
  exact ⟨wrong _ other .access 60,
    shut state later (recorded token) (later_after service _ state) _⟩

end DualToken
