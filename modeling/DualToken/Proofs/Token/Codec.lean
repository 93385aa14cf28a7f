import Mathlib.Data.Option.Basic
import DualToken.Proofs.Encoding.Base64
import DualToken.Proofs.Json.Record
import DualToken.Token.Codec

/-!
# Reading tokens that were issued

A token that was issued is cut at the dots that it was put together with, since no segment holds a
dot. Its header names the algorithm, its payload is read as the claims it was written from, and the
second reading of the payload finds the expiry exactly when it is not negative. So a token is
accepted under its own key exactly when its expiry is not negative (`verify?_issue`), and reading it
gives back the claims, or refuses them for their expiry (`decodeAt_issue`).
-/

set_option autoImplicit false

namespace DualToken

open Json

/-! ## Registered claims -/

namespace RegisteredClaims

/-- The expiry that an integer stands for: negative integers stand for none. -/
def instant? (number : Int) : Option Nat :=
  if 0 ≤ number then some number.toNat else none

/-- An instant is read from an integer that is not negative, and otherwise reading stops behind
it. -/
theorem readInstant_integerBytes {byte : UInt8} (delimiter : IsDelimiter byte) (rest : List UInt8)
    (number : Int64) :
    readInstant (integerBytes number.toInt ++ byte :: rest) =
      if 0 ≤ number.toInt then .value number.toInt.toNat (byte :: rest)
      else .stop .wrongShape (byte :: rest) := by
  have fits : number.toInt < (UInt64.size : Int) := by
    have high := number.toInt_lt
    simp only [UInt64.size]
    omega
  have read := readInteger_integerBytes delimiter rest (natAbs_toInt_lt number)
    fun number => 0 ≤ number && number < (UInt64.size : Int)
  obtain ⟨first, others, written, begins⟩ := integerBytes_cases number.toInt
  rw [readInstant, dropSpaces_integerBytes]
  split
  · next more same =>
    rw [written, List.cons_append] at same
    exact absurd (List.cons.inj same).1 (ne_of_isSignOrDigit begins _ rfl)
  · next more same =>
    rw [written, List.cons_append] at same
    exact absurd (List.cons.inj same).1 (ne_of_isSignOrDigit begins _ rfl)
  · simp only [read]
    by_cases positive : 0 ≤ number.toInt
    · simp only [positive, fits, decide_true, Bool.and_self, if_true, Outcome.map_value]
    · simp only [positive, decide_false, Bool.false_and, Bool.false_eq_true, if_false,
        Outcome.map_stop]

theorem reads_instant (number : Int64) :
    Reads (readLeniently readInstant) (integerBytes number.toInt) (instant? number.toInt) := by
  by_cases positive : 0 ≤ number.toInt
  · rw [instant?, if_pos positive]
    refine Reads.leniently fun byte rest delimiter => ?_
    rw [readInstant_integerBytes delimiter, if_pos positive]
  · rw [instant?, if_neg positive]
    have stops : ∀ byte rest, IsDelimiter byte →
        readInstant (integerBytes number.toInt ++ byte :: rest) =
          .stop .wrongShape (byte :: rest) := by
      intro byte rest delimiter
      rw [readInstant_integerBytes delimiter, if_neg positive]
    exact reads_leniently_none stops

end RegisteredClaims

/-! ## Payloads -/

namespace Claims

/-- The values of the claims in the order of their layout. -/
def record (claims : Claims) : layout.Record :=
  (claims.sub, claims.role, claims.name, claims.email, claims.phoneNumber, claims.address,
    claims.exp, claims.iat, claims.jti, claims.sid, claims.kind, ())

/-- The members of the claims with the bytes of their values. -/
def written (claims : Claims) : List (String × List UInt8) :=
  [("sub", integerBytes claims.sub.toInt), ("role", textBytes claims.role.name),
    ("name", textBytes claims.name), ("email", textBytes claims.email),
    ("phone_number", textBytes claims.phoneNumber), ("address", textBytes claims.address),
    ("exp", integerBytes claims.exp.toInt), ("iat", integerBytes claims.iat.toInt),
    ("jti", textBytes claims.jti), ("sid", textBytes claims.sid),
    ("kind", textBytes claims.kind.name)]

theorem matches_written (claims : Claims) :
    Layout.Matches layout claims.written claims.record := by
  refine .cons (reads_int64 claims.sub) ?_
  refine .cons (reads_name (Role.ofName?_name claims.role)) ?_
  refine .cons (reads_text claims.name) ?_
  refine .cons (reads_text claims.email) ?_
  refine .cons (reads_text claims.phoneNumber) ?_
  refine .cons (reads_text claims.address) ?_
  refine .cons (reads_int64 claims.exp) ?_
  refine .cons (reads_int64 claims.iat) ?_
  refine .cons (reads_text claims.jti) ?_
  refine .cons (reads_text claims.sid) ?_
  exact .cons (reads_name (TokenKind.ofName?_name claims.kind)) .nil

/-- The claims in a payload are those that it was written from. -/
theorem readWhole_read (claims : Claims) : readWhole read claims.json.bytes = .ok claims := by
  have object : layout.read (claims.json.bytes ++ []) = .value claims.record [] :=
    Layout.read_object (claims.matches_written.fills (by decide))
      (Layout.Draft.complete?_full layout claims.record) []
  rw [List.append_nil] at object
  refine readWhole_of_value ?_
  rw [read, object]
  rfl

end Claims

namespace RegisteredClaims

/-- What is found of the standard members in a payload: the expiry, and the subject, which is no
text and so counts as missing. -/
def found (claims : Claims) : layout.Draft :=
  (some (instant? claims.exp.toInt), none, some none, none, none, ())

/-- The standard members that a payload lacks are missing in the draft. -/
theorem fills_written (claims : Claims) :
    Layout.Fills layout (Layout.Draft.empty layout) claims.written (found claims) := by
  have subject : Reads (readLeniently readText) (integerBytes claims.sub.toInt) none :=
    reads_leniently_none fun byte rest delimiter =>
      readText_integerBytes delimiter rest (natAbs_toInt_lt claims.sub)
  refine .known (.there (by decide) (.there (by decide) (.here subject))) ?_
  refine .unknown (by decide) (skips_text claims.role.name) ?_
  refine .unknown (by decide) (skips_text claims.name) ?_
  refine .unknown (by decide) (skips_text claims.email) ?_
  refine .unknown (by decide) (skips_text claims.phoneNumber) ?_
  refine .unknown (by decide) (skips_text claims.address) ?_
  refine .known (.here (reads_instant claims.exp)) ?_
  refine .unknown (by decide) (skips_integer claims.iat.toInt) ?_
  refine .unknown (by decide) (skips_text claims.jti) ?_
  refine .unknown (by decide) (skips_text claims.sid) ?_
  exact .unknown (by decide) (skips_text claims.kind.name) (.done _)

/-- The standard members of a payload: the expiry, and no audience. -/
theorem readWhole_read (claims : Claims) :
    readWhole read claims.json.bytes = .ok ⟨instant? claims.exp.toInt, false⟩ := by
  have object : layout.read (claims.json.bytes ++ []) =
      .value (instant? claims.exp.toInt, none, none, none, none, ()) [] :=
    Layout.read_object (fills_written claims) rfl []
  rw [List.append_nil] at object
  refine readWhole_of_value ?_
  rw [read, object]
  rfl

end RegisteredClaims

/-! ## Headers -/

/-- The header of an issued token names its algorithm. -/
theorem Header.algorithm?_text : algorithm? (Text.utf8 text) = some .hs256 := by
  have written : Text.utf8 text =
      (Value.object [("typ", .text "JWT"), ("alg", .text "HS256")]).bytes := by decide
  have type : Reads (readOptional readText) (textBytes "JWT") (some "JWT") := by
    intro byte rest delimiter
    have read := reads_text "JWT" byte rest delimiter
    rw [textBytes_append] at read ⊢
    exact congrArg (Outcome.map some) read
  have algorithm : Reads (readName Algorithm.ofName?) (textBytes "HS256") Algorithm.hs256 :=
    reads_name (by decide)
  have fills : Layout.Fills layout (Layout.Draft.empty layout)
      ([("typ", Value.text "JWT"), ("alg", .text "HS256")].map fun member =>
        (member.1, member.2.bytes))
      (some (some "JWT"), some Algorithm.hs256, none, none, none, none, none, none, none, none,
        ()) :=
    .known (.here type) (.known (.there (by decide) (.here algorithm)) (.done _))
  have object : layout.read (Text.utf8 text ++ []) =
      .value (some "JWT", .hs256, none, none, none, none, none, none, none, none, ()) [] := by
    rw [written]
    exact Layout.read_object fills rfl []
  rw [List.append_nil] at object
  rw [algorithm?, Text.ofUtf8?_utf8, Option.isSome_some, if_pos rfl, readWhole_of_value object]

/-! ## Tokens -/

namespace Codec

/-- A text is cut at a dot behind which there is no other. -/
theorem splitAtLastDot?_append {back : List Char} (noDot : '.' ∉ back) (front : List Char) :
    splitAtLastDot? (front ++ '.' :: back) = some (front, back) := by
  have others : ∀ character ∈ back.reverse, decide (character ≠ '.') = true := by
    intro character member
    refine decide_eq_true ?_
    rintro rfl
    exact noDot (List.mem_reverse.1 member)
  have reversed : (front ++ '.' :: back).reverse = back.reverse ++ '.' :: front.reverse := by simp
  rw [splitAtLastDot?, reversed, List.takeWhile_append_of_pos others,
    List.dropWhile_append_of_pos others]
  simp

/-- A token is cut into the segments that it was put together from. -/
theorem segments?_issue (codec : Codec) (claims : Claims) :
    segments? (codec.issue claims) =
      some (headerSegment, claimsSegment claims,
        signatureSegment (codec.key claims.kind) headerSegment (claimsSegment claims)) := by
  have together : (codec.issue claims).toList =
      (headerSegment ++ '.' :: claimsSegment claims) ++ '.' ::
        signatureSegment (codec.key claims.kind) headerSegment (claimsSegment claims) := by
    simp [issue]
  have signature : '.' ∉ signatureSegment (codec.key claims.kind) headerSegment
      (claimsSegment claims) := Base64.dot_notMem_encode_url _
  have payload : '.' ∉ claimsSegment claims := Base64.dot_notMem_encode_url _
  simp only [segments?, together, splitAtLastDot?_append signature, Option.bind_some,
    splitAtLastDot?_append payload, Option.map_some]

/-- Both readings of a payload succeed, unless the expiry is negative. -/
theorem claims?_bytes (claims : Claims) :
    claims? claims.json.bytes = if 0 ≤ claims.exp.toInt then some claims else none := by
  rw [claims?, claims.readWhole_read, RegisteredClaims.readWhole_read]
  by_cases positive : 0 ≤ claims.exp.toInt
  · simp [RegisteredClaims.areAcceptable, RegisteredClaims.instant?, positive]
  · simp [RegisteredClaims.areAcceptable, RegisteredClaims.instant?, positive]

/-- An issued token is read under some key as its claims or not at all. -/
theorem verify?_issue_of_key (codec : Codec) (claims : Claims) (key : List UInt8) :
    verify? key (codec.issue claims) =
      if signatureSegment (codec.key claims.kind) headerSegment (claimsSegment claims) =
          signatureSegment key headerSegment (claimsSegment claims) ∧ 0 ≤ claims.exp.toInt
      then some claims else none := by
  have header : (Base64.decode? .url headerSegment).bind Header.algorithm? = some .hs256 := by
    rw [headerSegment, Base64.decode?_encode, Option.bind_some, Header.algorithm?_text]
  have payload : (Base64.decode? .url (claimsSegment claims)).bind claims? =
      if 0 ≤ claims.exp.toInt then some claims else none := by
    rw [claimsSegment, Base64.decode?_encode, Option.bind_some, claims?_bytes]
  simp only [verify?, segments?_issue, Option.bind_eq_bind, Option.bind_some, header, payload]
  split_ifs <;> simp_all [guard]

/-- An issued token is accepted under its own key unless its expiry is negative. -/
theorem verify?_issue (codec : Codec) (claims : Claims) :
    verify? (codec.key claims.kind) (codec.issue claims) =
      if 0 ≤ claims.exp.toInt then some claims else none := by
  rw [verify?_issue_of_key]
  simp

/-- **Reading an issued token gives back all of its claims before their expiry.** From the expiry on
the token is expired, and claims whose expiry is negative are never accepted. -/
theorem decodeAt_issue (codec : Codec) (claims : Claims) (now : Int) :
    codec.decodeAt (codec.issue claims) claims.kind now =
      if claims.exp.toInt < 0 then .error .invalidSignature
      else if claims.exp.toInt ≤ now then .error .expired
      else .ok claims := by
  rw [decodeAt, verify?_issue]
  by_cases negative : claims.exp.toInt < 0
  · rw [if_neg (Int.not_le.2 negative), if_pos negative]
  · rw [if_pos (Int.not_lt.1 negative), if_neg negative]
    simp [Claims.isExpiredAt]

/-! ## What a token says -/

/-- The claims in the second segment of a token, whoever signed it. -/
def said? (token : String) : Option Claims :=
  (segments? token).bind fun (_, payload, _) =>
    (Base64.decode? .url payload).bind fun bytes => (readWhole Claims.read bytes).toOption

/-- The token says the claims, and it is signed under the key of their kind. -/
structure Says (codec : Codec) (token : String) (claims : Claims) : Prop where
  /-- The claims are those in the token. -/
  said : said? token = some claims
  /-- The signature is the one that the token ought to have. -/
  signed : ∃ header payload, segments? token =
    some (header, payload, signatureSegment (codec.key claims.kind) header payload)

/-- A token says one thing only. -/
theorem Says.unique {codec codec' : Codec} {token : String} {claims other : Claims}
    (first : codec.Says token claims) (second : codec'.Says token other) : claims = other :=
  Option.some.inj (first.said.symm.trans second.said)

/-- An issued token says the claims that it was issued for. -/
theorem says_issue (codec : Codec) (claims : Claims) :
    codec.Says (codec.issue claims) claims := by
  refine ⟨?_, _, _, segments?_issue codec claims⟩
  rw [said?, segments?_issue, Option.bind_some]
  simp only [claimsSegment, Base64.decode?_encode, Option.bind_some, Claims.readWhole_read,
    Except.toOption]

/-- Different claims are issued as different tokens. -/
theorem issue_injective (codec : Codec) {claims other : Claims}
    (same : codec.issue claims = codec.issue other) : claims = other := by
  have said := codec.says_issue claims
  rw [same] at said
  exact said.unique (codec.says_issue other)

/-- What is read of a token under a key is what the token says, and the signature is that of the
key. -/
theorem said?_of_verify? {key : List UInt8} {token : String} {claims : Claims}
    (read : verify? key token = some claims) :
    said? token = some claims ∧
      ∃ header payload, segments? token =
        some (header, payload, signatureSegment key header payload) := by
  simp only [verify?, Option.bind_eq_bind, Option.bind_eq_some_iff] at read
  obtain ⟨⟨header, payload, signature⟩, segments, algorithm, -, -, -, accepted, signed, bytes,
    decoded, said⟩ := read
  have same : signature = signatureSegment key header payload := by
    by_contra different
    have refused : (guard (signature = signatureSegment key header payload) : Option Unit) = none :=
      if_neg different
    rw [refused] at signed
    exact absurd signed nofun
  refine ⟨?_, header, payload, same ▸ segments⟩
  rw [said?, segments, Option.bind_some]
  simp only [decoded, Option.bind_some]
  rw [claims?] at said
  split at said
  · next found registered full _ =>
    split at said
    · rw [full]
      exact said
    · exact absurd said nofun
  · exact absurd said nofun

/-- A token that is accepted under the key of its kind says the claims that are read from it. -/
theorem says_of_verify? {codec : Codec} {token : String} {claims : Claims}
    (read : verify? (codec.key claims.kind) token = some claims) : codec.Says token claims := by
  obtain ⟨said, signed⟩ := said?_of_verify? read
  exact ⟨said, signed⟩

/-- What decoding a token tells: it is read under the key of the kind, and its time is not over. -/
theorem decodeAt_eq_ok_iff {codec : Codec} {token : String} {kind : TokenKind} {now : Int}
    {claims : Claims} :
    codec.decodeAt token kind now = .ok claims ↔
      verify? (codec.key kind) token = some claims ∧ claims.kind = kind ∧
        now < claims.exp.toInt := by
  rw [decodeAt]
  cases read : verify? (codec.key kind) token with
  | none => simp
  | some found =>
    simp only [Option.some.injEq]
    by_cases same : found.kind = kind
    · by_cases expired : found.exp.toInt ≤ now
      · simp only [same, ne_eq, not_true_eq_false, if_false, Claims.isExpiredAt, expired,
          decide_true, if_true]
        refine ⟨nofun, ?_⟩
        rintro ⟨rfl, -, running⟩
        exact absurd expired (Int.not_le.2 running)
      · simp only [same, ne_eq, not_true_eq_false, if_false, Claims.isExpiredAt, expired,
          decide_false, Bool.false_eq_true, Except.ok.injEq]
        constructor
        · rintro rfl
          exact ⟨rfl, same, Int.not_le.1 expired⟩
        · rintro ⟨rfl, -, -⟩
          rfl
    · simp only [ne_eq, same, not_false_eq_true, if_true]
      refine ⟨nofun, ?_⟩
      rintro ⟨rfl, kinds, -⟩
      exact absurd kinds same

/-- An issued token decodes before its time. -/
theorem decodeAt_issue_of_lt {codec : Codec} {claims : Claims} {now : Int}
    (early : 0 ≤ now) (running : now < claims.exp.toInt) :
    codec.decodeAt (codec.issue claims) claims.kind now = .ok claims := by
  refine decodeAt_eq_ok_iff.2 ⟨?_, rfl, running⟩
  rw [verify?_issue, if_pos (Int.le_of_lt (Int.lt_of_le_of_lt early running))]

/-- A token that decodes says what it decodes to. -/
theorem says_of_decodeAt {codec : Codec} {token : String} {kind : TokenKind} {now : Int}
    {claims : Claims} (decoded : codec.decodeAt token kind now = .ok claims) :
    codec.Says token claims := by
  obtain ⟨read, rfl, -⟩ := decodeAt_eq_ok_iff.1 decoded
  exact says_of_verify? read

end Codec

end DualToken
