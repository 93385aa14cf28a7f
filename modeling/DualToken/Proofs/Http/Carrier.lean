import DualToken.Http.Carrier
import DualToken.Proofs.Encoding.Base64
import DualToken.Proofs.Json.Text
import DualToken.Token.Codec

/-!
# Tokens on their way

A text of visible ASCII characters passes through a header unchanged: its bytes can be used as text,
and trimming takes off only the blanks around it. The scheme ends in a space, so it is never taken
for the beginning of such a text, and taking it off leaves the text that stands behind it. A token
that is issued is visible, since its segments are in base 64. So it is carried by its header however
it is presented there (`Carrier.token?_of_presents`).
-/

set_option autoImplicit false

namespace DualToken

/-! ## Visible text -/

namespace Text

/-- A visible character of ASCII. -/
def IsVisible (character : Char) : Prop :=
  0x21 ≤ character.toNat ∧ character.toNat ≤ 0x7E

instance (character : Char) : Decidable (IsVisible character) :=
  inferInstanceAs (Decidable (_ ∧ _))

variable {front characters before after : List Char}

theorem IsVisible.isBlank {character : Char} (visible : IsVisible character) :
    isBlank character = false := by
  obtain ⟨above, below⟩ := visible
  simp only [Text.isBlank, Bool.or_eq_false_iff, Bool.and_eq_false_iff, decide_eq_false_iff_not,
    beq_eq_false_iff_ne]
  omega

/-- A text that begins with a visible character has no blanks to trim at its front. -/
theorem trimStart_of_visible {first : Char} {rest : List Char} (visible : IsVisible first) :
    trimStart (first :: rest) = first :: rest := by
  rw [trimStart, List.dropWhile_cons_of_neg]
  simp [visible.isBlank]

/-- A text that ends in a visible text has no blanks to trim at its back. -/
theorem trimEnd_append_of_visible (visible : ∀ character ∈ characters, IsVisible character)
    (nonempty : characters ≠ []) : trimEnd (front ++ characters) = front ++ characters := by
  obtain ⟨rest, last, rfl⟩ := List.eq_nil_or_concat' characters |>.resolve_left nonempty
  have seen : IsVisible last := visible last (by simp)
  rw [trimEnd, ← List.append_assoc, List.reverse_concat, trimStart_of_visible seen,
    ← List.reverse_concat, List.reverse_reverse]

/-- Blanks around a text that is trimmed are all that trimming takes. -/
theorem trimBoth_padded (blank : ∀ character ∈ before ++ after, isBlank character = true)
    (start : trimStart characters = characters) (back : trimEnd characters = characters) :
    trimBoth (before ++ characters ++ after) = characters := by
  have front : ∀ character ∈ before, isBlank character = true :=
    fun character member => blank character (List.mem_append_left after member)
  have behind : ∀ character ∈ after, isBlank character = true :=
    fun character member => blank character (List.mem_append_right before member)
  have dropped : trimStart (before ++ characters ++ after) = trimStart (characters ++ after) := by
    rw [trimStart, List.append_assoc, List.dropWhile_append_of_pos front]
    rfl
  have kept : trimEnd (characters ++ after) = characters := by
    have reversed : ∀ character ∈ after.reverse, isBlank character = true :=
      fun character member => behind character (List.mem_reverse.1 member)
    rw [trimEnd, List.reverse_append, trimStart, List.dropWhile_append_of_pos reversed]
    exact back
  rw [trimBoth, dropped]
  cases characters with
  | nil =>
    rw [List.nil_append, trimStart, ← List.append_nil after, List.dropWhile_append_of_pos behind]
    rfl
  | cons first rest =>
    rw [trimStart, List.dropWhile_cons] at start
    split at start
    · have shorter := congrArg List.length start
      have bound := (List.dropWhile_sublist isBlank (l := rest)).length_le
      rw [List.length_cons] at shorter
      omega
    · next sees =>
      rw [List.cons_append, trimStart, List.dropWhile_cons_of_neg sees]
      exact kept

/-- A text that neither begins nor ends with a blank is left as it is. -/
theorem trimEnds_of_bounded
    (front : ∀ first, characters.head? = some first → isBlank first = false)
    (back : ∀ last, characters.getLast? = some last → isBlank last = false) :
    trimStart characters = characters ∧ trimEnd characters = characters := by
  have whole {characters : List Char}
      (seen : ∀ first, characters.head? = some first → isBlank first = false) :
      trimStart characters = characters := by
    cases characters with
    | nil => rfl
    | cons first rest => rw [trimStart, List.dropWhile_cons_of_neg (by simp [seen first rfl])]
  refine ⟨whole front, ?_⟩
  rw [trimEnd, whole fun last ends => back last ?_, List.reverse_reverse]
  rwa [← List.head?_reverse]

/-- Blanks around a visible text are all that trimming takes. -/
theorem trimBoth_of_visible (blank : ∀ character ∈ before ++ after, isBlank character = true)
    (visible : ∀ character ∈ characters, IsVisible character) :
    trimBoth (before ++ characters ++ after) = characters := by
  refine trimBoth_padded blank ?_ ?_
  · cases characters with
    | nil => rfl
    | cons first rest => exact trimStart_of_visible (visible first List.mem_cons_self)
  · by_cases empty : characters = []
    · subst empty
      rfl
    · have back := @trimEnd_append_of_visible [] _ visible empty
      exact back

end Text

namespace Headers

/-- A character that a value can have which is used as text. -/
def IsTextCharacter (character : Char) : Prop :=
  character = '\t' ∨ 0x20 ≤ character.toNat ∧ character.toNat ≤ 0x7E

/-- A space or a tab. -/
def IsSpacing (character : Char) : Prop :=
  character = ' ' ∨ character = '\t'

theorem IsSpacing.isBlank {character : Char} (spacing : IsSpacing character) :
    Text.isBlank character = true := by
  rcases spacing with rfl | rfl <;> decide

theorem IsSpacing.isTextCharacter {character : Char} (spacing : IsSpacing character) :
    IsTextCharacter character := by
  rcases spacing with rfl | rfl
  · exact .inr (by decide)
  · exact .inl rfl

end Headers

theorem Text.IsVisible.isTextCharacter {character : Char} (visible : IsVisible character) :
    Headers.IsTextCharacter character :=
  .inr ⟨Nat.le_of_succ_le visible.1, visible.2⟩

namespace Headers

variable {characters : List Char}

/-- The bytes of a text can be given as the value of a header if its characters can. -/
theorem all_isTextByte (usable : ∀ character ∈ characters, IsTextCharacter character) :
    Text.utf8Chars characters = (characters.map fun character => UInt8.ofNat character.toNat) ∧
      (Text.utf8Chars characters).all isTextByte = true := by
  induction characters with
  | nil => exact ⟨rfl, rfl⟩
  | cons first rest ih =>
    obtain ⟨written, all⟩ := ih fun character member => usable character (.tail first member)
    have own : first.toNat = 0x09 ∨ 0x20 ≤ first.toNat ∧ first.toNat ≤ 0x7E :=
      (usable first List.mem_cons_self).imp_left (congrArg Char.toNat)
    have value : (UInt8.ofNat first.toNat).toNat = first.toNat := by
      rw [UInt8.toNat_ofNat']
      omega
    have byte : isTextByte (UInt8.ofNat first.toNat) = true := by
      simp only [isTextByte, Bool.or_eq_true, Bool.and_eq_true, decide_eq_true_eq,
        UInt8.le_iff_toNat_le, ← UInt8.toNat_inj, value]
      exact own
    rw [Text.utf8Chars_cons, Text.utf8EncodeChar_ascii (by omega), written]
    refine ⟨rfl, ?_⟩
    rw [List.singleton_append, List.all_cons, byte, ← written, all]
    rfl

/-- **A text of such characters is read back from its bytes.** -/
theorem text?_utf8Chars (usable : ∀ character ∈ characters, IsTextCharacter character) :
    text? (Text.utf8Chars characters) = some characters := by
  obtain ⟨written, all⟩ := all_isTextByte usable
  rw [text?, if_pos all, written, List.map_map]
  congr 1
  refine (List.map_congr_left fun character member => ?_).trans (List.map_id characters)
  have small : character.toNat < 256 := by
    rcases usable character member with rfl | ⟨-, below⟩
    · decide
    · omega
  rw [Function.comp_apply, UInt8.toNat_ofNat', Nat.mod_eq_of_lt small, Char.ofNat_toNat, id]

end Headers

namespace Carrier

/-- A visible text has no scheme in front. -/
theorem stripFront_of_visible {characters : List Char}
    (visible : ∀ character ∈ characters, Text.IsVisible character) :
    stripFront scheme characters = characters := by
  refine if_neg fun front => ?_
  obtain ⟨rest, rfl⟩ := List.isPrefixOf_iff_prefix.1 front
  have space := visible ' ' (List.mem_append_left rest (by decide))
  exact absurd space (by decide)

/-- A text loses the scheme in front. -/
theorem stripFront_append (front characters : List Char) :
    stripFront front (front ++ characters) = characters := by
  rw [stripFront, if_pos (List.isPrefixOf_iff_prefix.2 (List.prefix_append front characters)),
    List.drop_left]

/-- A token that is issued consists of symbols, with dots between the segments. -/
theorem mem_issue {codec : Codec} {claims : Claims} {character : Char}
    (member : character ∈ (codec.issue claims).toList) :
    character ∈ '.' :: Base64.Alphabet.url.symbols.toList := by
  rw [Codec.issue, String.toList_ofList] at member
  simp only [List.mem_append, List.mem_cons] at member
  rcases member with header | rfl | payload | rfl | signature
  · exact .tail _ (Base64.mem_symbols_of_mem_encode .url header)
  · exact List.mem_cons_self
  · exact .tail _ (Base64.mem_symbols_of_mem_encode .url payload)
  · exact List.mem_cons_self
  · exact .tail _ (Base64.mem_symbols_of_mem_encode .url signature)

/-- A token that is issued is visible. -/
theorem isVisible_issue (codec : Codec) (claims : Claims) :
    ∀ character ∈ (codec.issue claims).toList, Text.IsVisible character := by
  have visible : (('.' :: Base64.Alphabet.url.symbols.toList).all fun symbol =>
      decide (Text.IsVisible symbol)) = true := by decide
  exact fun character member => of_decide_eq_true (List.all_eq_true.1 visible _ (mem_issue member))

/-- No cookie is cut within a token that is issued. -/
theorem noSemicolon_issue (codec : Codec) (claims : Claims) :
    ';' ∉ (codec.issue claims).toList := by
  have other : ';' ∉ '.' :: Base64.Alphabet.url.symbols.toList := by decide
  exact fun member => other (mem_issue member)

theorem issue_ne_nil (codec : Codec) (claims : Claims) : (codec.issue claims).toList ≠ [] := by
  rw [Codec.issue, String.toList_ofList]
  simp

/-- **A token that is issued can be given as the value of a header.** -/
theorem isValue_issue (codec : Codec) (claims : Claims) :
    Headers.isValue (codec.issue claims) = true :=
  (Headers.all_isTextByte fun character member =>
    (isVisible_issue codec claims character member).isTextCharacter).2

/-- The text of a header that holds a token, with spaces and tabs around it. -/
inductive Presents (token : String) : List Char → Prop
  /-- The token stands alone. -/
  | raw (before after : List Char)
      (spacing : ∀ character ∈ before ++ after, Headers.IsSpacing character) :
      Presents token (before ++ token.toList ++ after)
  /-- The token stands behind the scheme. -/
  | behind (before between after : List Char)
      (spacing : ∀ character ∈ before ++ between ++ after, Headers.IsSpacing character) :
      Presents token (before ++ (scheme ++ (between ++ token.toList)) ++ after)

namespace Presents

variable {token : String} {text : List Char}

theorem usable (presents : Presents token text)
    (visible : ∀ character ∈ token.toList, Text.IsVisible character) :
    ∀ character ∈ text, Headers.IsTextCharacter character := by
  intro character member
  cases presents with
  | raw before after spacing =>
    simp only [List.mem_append] at member spacing
    rcases member with (front | own) | back
    · exact (spacing character (.inl front)).isTextCharacter
    · exact (visible character own).isTextCharacter
    · exact (spacing character (.inr back)).isTextCharacter
  | behind before between after spacing =>
    have letters : (scheme.all fun letter =>
        decide (Text.IsVisible letter ∨ letter = ' ')) = true := by decide
    simp only [List.mem_append] at member spacing
    rcases member with (front | letter | middle | own) | back
    · exact (spacing character (.inl (.inl front))).isTextCharacter
    · rcases of_decide_eq_true (List.all_eq_true.1 letters character letter) with seen | space
      · exact seen.isTextCharacter
      · exact Headers.IsSpacing.isTextCharacter (.inl space)
    · exact (spacing character (.inl (.inr middle))).isTextCharacter
    · exact (visible character own).isTextCharacter
    · exact (spacing character (.inr back)).isTextCharacter

/-- What is left of the text is the token. -/
theorem trimmed (presents : Presents token text)
    (visible : ∀ character ∈ token.toList, Text.IsVisible character)
    (nonempty : token.toList ≠ []) :
    Text.trimBoth (stripFront scheme (Text.trimBoth text)) = token.toList := by
  cases presents with
  | raw before after spacing =>
    have nothing : ∀ character ∈ ([] ++ [] : List Char), Text.isBlank character = true := nofun
    have alone := Text.trimBoth_of_visible nothing visible
    rw [Text.trimBoth_of_visible (fun character member => (spacing character member).isBlank)
      visible, stripFront_of_visible visible]
    simpa using alone
  | behind before between after spacing =>
    have outer : ∀ character ∈ before ++ after, Text.isBlank character = true := by
      intro character member
      refine (spacing character ?_).isBlank
      simp only [List.mem_append] at member ⊢
      exact member.imp_left .inl
    have inner : ∀ character ∈ between ++ [], Text.isBlank character = true := by
      intro character member
      refine (spacing character ?_).isBlank
      simp only [List.mem_append, List.not_mem_nil, or_false] at member ⊢
      exact .inl (.inr member)
    have start : Text.trimStart (scheme ++ (between ++ token.toList)) =
        scheme ++ (between ++ token.toList) := by
      have letters : scheme = 'B' :: "earer ".toList := by decide
      rw [letters, List.cons_append]
      exact Text.trimStart_of_visible (by decide)
    have back : Text.trimEnd (scheme ++ (between ++ token.toList)) =
        scheme ++ (between ++ token.toList) := by
      rw [← List.append_assoc]
      exact Text.trimEnd_append_of_visible visible nonempty
    have rest := Text.trimBoth_of_visible inner visible
    rw [Text.trimBoth_padded outer start back, stripFront_append]
    simpa using rest

end Presents

/-- **A visible token is carried by its header**, raw or behind the scheme, whatever blanks stand
around it. -/
theorem token?_of_presents {headers : Headers} {kind : TokenKind} {token : String}
    {text : List Char} {others : List (List UInt8)} (presents : Presents token text)
    (header : headers.valuesOf (headerName kind) = Text.utf8Chars text :: others)
    (visible : ∀ character ∈ token.toList, Text.IsVisible character)
    (nonempty : token.toList ≠ []) : token? headers kind = some token := by
  have carried : headerToken? headers kind = some token := by
    rw [headerToken?, header]
    simp only [Headers.text?_utf8Chars (presents.usable visible), Option.bind_some,
      presents.trimmed visible nonempty, List.isEmpty_iff, if_neg nonempty, String.ofList_toList]
  rw [token?, carried, Option.some_or]

/-- **A token that is issued is carried unchanged by its header.** -/
theorem token?_issue {headers : Headers} {kind : TokenKind} {codec : Codec} {claims : Claims}
    {others : List (List UInt8)}
    (header : headers.valuesOf (headerName kind) = Text.utf8 (codec.issue claims) :: others) :
    token? headers kind = some (codec.issue claims) := by
  have bare : Presents (codec.issue claims) ([] ++ (codec.issue claims).toList ++ []) :=
    .raw [] [] nofun
  rw [List.nil_append, List.append_nil] at bare
  exact token?_of_presents bare header (isVisible_issue codec claims) (issue_ne_nil codec claims)

end Carrier

end DualToken
