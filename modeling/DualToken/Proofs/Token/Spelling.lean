import DualToken.Proofs.Token.Codec

/-!
# The spelling of a token

A token that reads as claims under some key is three segments in base 64 with dots between them
(`Codec.spelled_of_verify?`), although it is only cut at its last two dots: a segment that holds a
dot does not read as bytes. Base 64 is read strictly, and the signature is compared as a text, so
the first two segments leave no choice for the third: whatever else stands behind the second dot
makes no token of either kind (`Codec.decodeAt_respelled`).
-/

set_option autoImplicit false

namespace DualToken.Codec

variable {codec : Codec} {key : List UInt8} {token : String} {claims : Claims} {kind : TokenKind}
  {header payload signature : List Char}

/-! ## Segments -/

/-- A text whose parts in front of the last two dots are given. -/
def spell (header payload text : List Char) : String :=
  String.ofList (header ++ '.' :: (payload ++ '.' :: text))

/-- The segment is the written form of some bytes. -/
def IsSegment (segment : List Char) : Prop :=
  ∃ bytes, Base64.encode .url bytes = segment

theorem IsSegment.noDot {segment : List Char} (written : IsSegment segment) : '.' ∉ segment := by
  obtain ⟨bytes, rfl⟩ := written
  exact Base64.dot_notMem_encode_url bytes

/-- A segment consists of the symbols of its alphabet, and nothing pads it. -/
theorem IsSegment.symbols {segment : List Char} (written : IsSegment segment) :
    ∀ character ∈ segment, character ∈ Base64.Alphabet.url.symbols.toList := by
  obtain ⟨bytes, rfl⟩ := written
  intro character member
  exact Base64.mem_symbols_of_mem_encode .url member

theorem isSegment_of_decode? {segment : List Char} {bytes : List UInt8}
    (read : Base64.decode? .url segment = some bytes) : IsSegment segment :=
  ⟨bytes, Base64.encode_of_decode? .url read⟩

/-- What is cut at its last dot has the dot there. -/
theorem eq_of_splitAtLastDot? {characters front back : List Char}
    (cut : splitAtLastDot? characters = some (front, back)) :
    characters = front ++ '.' :: back := by
  have whole := List.takeWhile_append_dropWhile (p := (· ≠ '.')) (l := characters.reverse)
  rw [splitAtLastDot?] at cut
  split at cut
  · cases cut
  · next dot before dropped =>
    obtain ⟨rfl, rfl⟩ := Prod.mk.inj (Option.some.inj cut)
    -- what is dropped begins with the first character that is a dot
    have isDot : dot = '.' := by
      have first := List.head?_dropWhile_not (fun character : Char => decide (character ≠ '.'))
        characters.reverse
      rw [dropped] at first
      simpa using first
    subst isDot
    rw [dropped] at whole
    simpa using (congrArg List.reverse whole).symm

/-- A token is spelled by its segments. -/
theorem eq_spell_of_segments? (cut : segments? token = some (header, payload, signature)) :
    token = spell header payload signature := by
  simp only [segments?, Option.bind_eq_some_iff, Option.map_eq_some_iff, Prod.mk.injEq,
    Prod.exists] at cut
  obtain ⟨signed, back, last, front, middle, first, rfl, rfl, rfl⟩ := cut
  have spelled : token.toList = front ++ '.' :: (middle ++ '.' :: back) := by
    rw [eq_of_splitAtLastDot? last, eq_of_splitAtLastDot? first, List.append_assoc,
      List.cons_append]
  rw [spell, ← spelled, String.ofList_toList]

/-- The parts between the dots of a text that is spelled. -/
theorem splitOn_spell (header' : IsSegment header) (payload' : IsSegment payload)
    (text : List Char) :
    (spell header payload text).toList.splitOn '.' = header :: payload :: text.splitOn '.' := by
  rw [spell, String.toList_ofList, List.splitOn_append_cons_self, List.splitOn_append_cons_self,
    List.splitOn_eq_singleton header'.noDot, List.splitOn_eq_singleton payload'.noDot]
  rfl

/-- A text with three parts between its dots is spelled by them. -/
theorem eq_spell_of_splitOn (split : token.toList.splitOn '.' = [header, payload, signature]) :
    token = spell header payload signature := by
  have together : ['.'].intercalate (token.toList.splitOn '.') = token.toList :=
    List.intercalate_splitOn '.'
  rw [split] at together
  rw [spell, ← String.ofList_toList (s := token), ← together]
  simp [List.intercalate_cons_cons]

/-- What is written behind a text is written behind its last part. -/
theorem spell_append (header payload text : List Char) (behind : String) :
    spell header payload text ++ behind = spell header payload (text ++ behind.toList) := by
  rw [← String.toList_inj, String.toList_append, spell, spell, String.toList_ofList,
    String.toList_ofList, List.append_assoc, List.cons_append, List.append_assoc, List.cons_append]

/-- The two segments in front and what is behind them can be told from what they spell. -/
theorem spell_inj {header' payload' text : List Char} (first : IsSegment header)
    (second : IsSegment payload) (third : IsSegment signature) (first' : IsSegment header')
    (second' : IsSegment payload')
    (same : spell header' payload' text = spell header payload signature) :
    header' = header ∧ payload' = payload ∧ text = signature := by
  have parts := congrArg (fun token : String => token.toList.splitOn '.') same
  simp only [splitOn_spell first second, splitOn_spell first' second',
    List.splitOn_eq_singleton third.noDot, List.cons.injEq] at parts
  obtain ⟨sameHeader, samePayload, others⟩ := parts
  have together : ['.'].intercalate (text.splitOn '.') = text := List.intercalate_splitOn '.'
  rw [others, List.intercalate_singleton] at together
  exact ⟨sameHeader, samePayload, together.symm⟩

/-! ## What reads as claims -/

/-- **A token that reads as claims is spelled by three segments in base 64**, and the last is the
signature of the others. -/
theorem spelled_of_verify? (read : verify? key token = some claims) :
    ∃ header payload, IsSegment header ∧ IsSegment payload ∧
      segments? token = some (header, payload, signatureSegment key header payload) ∧
      token = spell header payload (signatureSegment key header payload) := by
  obtain ⟨-, header, payload, cut⟩ := said?_of_verify? read
  refine ⟨header, payload, ?_, ?_, cut, eq_spell_of_segments? cut⟩
  · simp only [verify?, cut, Option.bind_eq_bind, Option.bind_some, Option.bind_eq_some_iff] at read
    obtain ⟨_, ⟨bytes, decoded, -⟩, -⟩ := read
    exact isSegment_of_decode? decoded
  · simp only [verify?, cut, Option.bind_eq_bind, Option.bind_some, Option.bind_eq_some_iff] at read
    obtain ⟨_, -, _, -, _, -, bytes, decoded, -⟩ := read
    exact isSegment_of_decode? decoded

theorem isSegment_signatureSegment (key : List UInt8) (header payload : List Char) :
    IsSegment (signatureSegment key header payload) :=
  ⟨_, rfl⟩

/-- What a token says is in its second segment. -/
theorem said?_congr {other : String} {header' signature' : List Char}
    (cut : segments? token = some (header, payload, signature))
    (cut' : segments? other = some (header', payload, signature')) : said? token = said? other := by
  rw [said?, said?, cut, cut']
  rfl

/-- **Nothing but its signature stands behind the second dot of a token.** Any other text there
counts as a wrong signature, under either kind and at any time. -/
theorem decodeAt_respelled (read : verify? (codec.key kind) token = some claims)
    (ofKind : claims.kind = kind)
    (cut : segments? token = some (header, payload, signature)) {text : List Char}
    (other : text ≠ signature) (kind' : TokenKind) (now : Int) :
    codec.decodeAt (spell header payload text) kind' now = .error .invalidSignature := by
  obtain ⟨_, _, first, second, cut', -⟩ := spelled_of_verify? read
  obtain ⟨rfl, rfl, rfl⟩ : header = _ ∧ payload = _ ∧ signature = _ := by
    simpa using cut.symm.trans cut'
  rw [decodeAt]
  cases reread : verify? (codec.key kind') (spell header payload text) with
  | none => rfl
  | some found =>
    obtain ⟨header', payload', first', second', cut'', spelled⟩ := spelled_of_verify? reread
    obtain ⟨rfl, rfl, rfl⟩ := spell_inj first' second' (isSegment_signatureSegment _ _ _) first
      second spelled
    have same : found = claims := by
      have said := said?_congr cut'' cut'
      rw [(said?_of_verify? reread).1, (said?_of_verify? read).1] at said
      exact Option.some.inj said
    have kinds : found.kind ≠ kind' := by
      rintro rfl
      rw [same, ofKind] at other
      exact other rfl
    dsimp only
    rw [if_pos kinds]

end DualToken.Codec
