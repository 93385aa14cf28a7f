import DualToken.Proofs.Token.Codec

/-!
# Tokens of the two kinds

An access token is never taken for a secret token, nor a secret token for an access token
(`Codec.kinds_apart`). The keys alone do not give this: a short key and the same key followed by a
zero byte authenticate alike (`Hmac.code_append_zero`), and yet they are different texts, so a codec
may be made of them. What gives it is that a token says one thing only, whatever key it is read
under, and that the kind is compared before the expiry: a token of the other kind counts as wrongly
signed, at any time.
-/

set_option autoImplicit false

namespace DualToken

/-! ## Keys that authenticate alike -/

namespace Hmac

/-- A key that is shorter than a block and the same key followed by a zero byte are filled to the
same block. -/
theorem blockKey_append_zero {key : List UInt8} (short : key.length < blockLength) :
    blockKey (key ++ [0]) = blockKey key := by
  have within : (key ++ [0]).length ≤ blockLength := by
    rw [List.length_append, List.length_singleton]
    exact short
  have room : blockLength - key.length = (blockLength - (key ++ [0]).length) + 1 := by
    rw [List.length_append, List.length_singleton]
    omega
  simp only [blockKey, if_pos within, if_pos (Nat.le_of_lt short)]
  rw [room, List.replicate_succ, List.append_assoc]
  rfl

/-- Two such keys authenticate every message alike. -/
theorem code_append_zero {key : List UInt8} (short : key.length < blockLength)
    (message : List UInt8) : code (key ++ [0]) message = code key message := by
  simp only [code, blockKey_append_zero short]

end Hmac

/-! ## The kind of a token -/

namespace Codec

variable {codec : Codec} {token : String} {claims : Claims} {kind : TokenKind}

/-- A token that says the other kind counts as wrongly signed, whatever its signature and its
expiry. -/
theorem decodeAt_of_other_kind (said : said? token = some claims) (other : kind ≠ claims.kind)
    (now : Int) : codec.decodeAt token kind now = .error .invalidSignature := by
  rw [decodeAt]
  cases read : verify? (codec.key kind) token with
  | none => rfl
  | some found =>
    obtain ⟨said', -⟩ := said?_of_verify? read
    obtain rfl : claims = found := Option.some.inj (said.symm.trans said')
    dsimp only
    rw [if_pos (Ne.symm other)]

/-- Under a key that authenticates like its own, an issued token is read as what it says. -/
theorem verify?_issue_of_alike {key : List UInt8}
    (alike : ∀ message, Hmac.code (codec.key claims.kind) message = Hmac.code key message)
    (early : 0 ≤ claims.exp.toInt) : verify? key (codec.issue claims) = some claims := by
  have same : signatureSegment (codec.key claims.kind) headerSegment (claimsSegment claims) =
      signatureSegment key headerSegment (claimsSegment claims) := by
    simp only [signatureSegment, alike]
  rw [verify?_issue_of_key, if_pos ⟨same, early⟩]

/-- **Access tokens and secret tokens are never interchangeable, whatever the two keys.** An issued
token counts as wrongly signed under the other kind at any time, also when its own time is over; and
no text at all is accepted as an access token at one time and as a secret token at the same or
another time. -/
theorem kinds_apart (codec : Codec) :
    (∀ claims kind now, kind ≠ claims.kind →
        codec.decodeAt (codec.issue claims) kind now = .error .invalidSignature) ∧
      ∀ token now now', ¬ ((∃ claims, codec.decodeAt token .access now = .ok claims) ∧
        ∃ claims, codec.decodeAt token .secret now' = .ok claims) := by
  constructor
  · intro claims kind now other
    exact decodeAt_of_other_kind (codec.says_issue claims).said other now
  · rintro token now now' ⟨⟨claims, accepted⟩, claims', accepted'⟩
    have isAccess : claims.kind = .access := (decodeAt_eq_ok_iff.1 accepted).2.1
    have other : TokenKind.secret ≠ claims.kind := by
      rw [isAccess]
      nofun
    have refused : codec.decodeAt token .secret now' = .error .invalidSignature :=
      decodeAt_of_other_kind (says_of_decodeAt accepted).said other now'
    exact absurd (refused.symm.trans accepted') nofun

/-- A key and the same key followed by a zero byte make a codec. An access token is well signed
under both of its keys, before its expiry as behind it, and is yet no secret token. -/
theorem refused_under_alike_key :
    let codec : Codec := ⟨Text.utf8 "key", Text.utf8 "key\x00"⟩
    let claims : Claims := ⟨1, .customer, "Test User", "test@example.com", "628123456789",
      "1 Test Street", 1000, 0, "token", "session", .access⟩
    ofKeys "key" "key\x00" = .ok codec ∧
      verify? codec.secretKey (codec.issue claims) = some claims ∧
      TokenKind.secret ≠ claims.kind ∧
      codec.decodeAt (codec.issue claims) .secret 60 = .error .invalidSignature ∧
      codec.decodeAt (codec.issue claims) .secret 1000 = .error .invalidSignature := by
  intro codec claims
  have alike : ∀ message, Hmac.code (codec.key claims.kind) message =
      Hmac.code codec.secretKey message := by
    intro message
    have followed : codec.secretKey = codec.key claims.kind ++ [0] := by decide
    rw [followed, Hmac.code_append_zero (by decide)]
  have other : TokenKind.secret ≠ claims.kind := nofun
  exact ⟨by decide, verify?_issue_of_alike alike (by decide), other,
    codec.kinds_apart.1 claims .secret 60 other, codec.kinds_apart.1 claims .secret 1000 other⟩

end Codec

end DualToken
