import Mathlib.Data.List.DropRight
import DualToken.Proofs.Http.Disclosure
import DualToken.Proofs.Http.Gate
import DualToken.Proofs.Http.Removal

/-!
# When a request carries a token

What a request carries is said here without a word about how it is read: a header presents a token
raw or behind the scheme (`Carrier.Credential`), a part of a cookie header is a cookie or is passed
over (`Carrier.IsCookie`), and the header comes before the first cookie of the name that has a value
(`Carrier.Carries`). The reader finds a token exactly if the request carries it in this sense, and
it never finds an empty one (`Carrier.token?_eq_some_iff`, `Carrier.token?_ne_empty`).

A header counts as absent when it is missing, when its bytes are no text, or when it is blank
(`Carrier.IsAbsent`). A header that holds the scheme alone is none of these. The space at the end of
the scheme is trimmed away before the scheme is looked for, so the word that is left is taken for
the token: such a request is neither anonymous nor identified by its cookie, but refused
(`Arrival.AsksWho.unauthenticated`).
-/

set_option autoImplicit false

namespace DualToken

namespace Headers

/-! ## Trimming -/

variable {text core : List Char}

/-- A text is a core with spaces and tabs around it, and neither end of the core is one. -/
inductive Trims : (text core : List Char) → Prop
  | intro (before core after : List Char)
      (spacing : ∀ character ∈ before ++ after, IsSpacing character)
      (front : ∀ first, core.head? = some first → ¬ IsSpacing first)
      (back : ∀ last, core.getLast? = some last → ¬ IsSpacing last) :
      Trims (before ++ core ++ after) core

/-- Among the characters of a text in a header the blank ones are spaces and tabs. -/
theorem IsTextCharacter.isBlank_iff {character : Char} (usable : IsTextCharacter character) :
    Text.isBlank character = true ↔ IsSpacing character := by
  refine ⟨fun blank => ?_, IsSpacing.isBlank⟩
  rcases usable with rfl | ⟨above, below⟩
  · exact .inr rfl
  · have space : character.toNat = 0x20 := by
      simp only [Text.isBlank, Bool.or_eq_true, Bool.and_eq_true, decide_eq_true_eq,
        beq_iff_eq] at blank
      omega
    exact .inl (Char.toNat_inj.1 space)

theorem not_isSpacing {character : Char} (seen : Text.isBlank character = false) :
    ¬ IsSpacing character :=
  fun spacing => absurd spacing.isBlank (by simp [seen])

/-- What trimming leaves does not begin with a blank. -/
theorem isBlank_of_head?_trimBoth {first : Char}
    (starts : (Text.trimBoth text).head? = some first) : Text.isBlank first = false := by
  obtain ⟨after, split⟩ : Text.trimBoth text <+: Text.trimStart text :=
    List.rdropWhile_prefix Text.isBlank (Text.trimStart text)
  have same : (text.dropWhile Text.isBlank).head? = some first := by
    rw [← Text.trimStart, ← split, List.head?_append, starts, Option.some_or]
  have kept := List.head?_dropWhile_not Text.isBlank text
  rw [same] at kept
  simpa using kept

/-- What trimming leaves does not end in a blank. -/
theorem isBlank_of_getLast?_trimBoth {last : Char}
    (ends : (Text.trimBoth text).getLast? = some last) : Text.isBlank last = false := by
  rw [Text.trimBoth, Text.trimEnd, List.getLast?_reverse, Text.trimStart] at ends
  have kept := List.head?_dropWhile_not Text.isBlank (Text.trimStart text).reverse
  rw [ends] at kept
  simpa using kept

/-- **Trimming a text of a header takes the spaces and tabs off both its ends**, and no more than
these. -/
theorem trimBoth_eq_iff (usable : ∀ character ∈ text, IsTextCharacter character) :
    Text.trimBoth text = core ↔ Trims text core := by
  constructor
  · intro trimmed
    obtain ⟨before, after, split, blank, blank'⟩ := Text.exists_append_trim text
    have spacing : ∀ character ∈ before ++ after, IsSpacing character := by
      intro character member
      have among : character ∈ text := by
        rw [split]
        simp only [List.mem_append] at member ⊢
        exact member.imp_left .inl
      refine (usable character among).isBlank_iff.1 ?_
      rcases List.mem_append.1 member with front | back
      · exact List.all_eq_true.1 blank character front
      · exact List.all_eq_true.1 blank' character back
    rw [trimmed] at split
    rw [split]
    refine .intro before core after spacing (fun first starts => ?_) fun last ends => ?_
    · exact not_isSpacing (isBlank_of_head?_trimBoth (trimmed ▸ starts))
    · exact not_isSpacing (isBlank_of_getLast?_trimBoth (trimmed ▸ ends))
  · rintro ⟨before, core, after, spacing, front, back⟩
    have sees {character : Char} (among : character ∈ core) (other : ¬ IsSpacing character) :
        Text.isBlank character = false := by
      have own : character ∈ before ++ core ++ after := by simp [among]
      exact Bool.eq_false_iff.2 fun blank => other ((usable character own).isBlank_iff.1 blank)
    obtain ⟨start, stop⟩ := Text.trimEnds_of_bounded
      (fun first starts => sees (List.mem_of_mem_head? starts) (front first starts))
      fun last ends => sees (List.mem_of_mem_getLast? ends) (back last ends)
    have blank : ∀ character ∈ before ++ after, Text.isBlank character = true :=
      fun character member => (spacing character member).isBlank
    exact Text.trimBoth_padded blank start stop

/-- What is left is part of the text. -/
theorem Trims.subset (trims : Trims text core) : ∀ character ∈ core, character ∈ text := by
  obtain ⟨before, core, after, -, -, -⟩ := trims
  exact fun character member => List.mem_append_left after (List.mem_append_right before member)

/-- What is left is not trimmed any more. -/
theorem Trims.self (trims : Trims text core) : Trims core core := by
  obtain ⟨before, core, after, -, front, back⟩ := trims
  have again := Trims.intro [] core [] nofun front back
  rwa [List.nil_append, List.append_nil] at again

/-- Spaces and tabs only are trimmed away altogether. -/
theorem trims_nil_iff : Trims text [] ↔ ∀ character ∈ text, IsSpacing character := by
  constructor
  · rintro ⟨before, core, after, spacing, -, -⟩
    simpa using spacing
  · intro spacing
    have trims := Trims.intro text [] [] (by simpa using spacing) nofun nofun
    rwa [List.append_nil, List.append_nil] at trims

/-! ## Bytes -/

/-- A value of visible ASCII characters, spaces and tabs is the bytes of a text. -/
structure Reads (value : List UInt8) (text : List Char) : Prop where
  written : value = Text.utf8Chars text
  usable : ∀ character ∈ text, IsTextCharacter character

/-- **A value can be used as text exactly if it consists of visible ASCII characters, spaces and
tabs.** -/
theorem text?_eq_some_iff {value : List UInt8} : text? value = some text ↔ Reads value text := by
  constructor
  · intro read
    have usable := isTextCharacter_of_text? read
    refine ⟨?_, usable⟩
    rw [text?] at read
    split at read
    · obtain rfl := Option.some.inj read
      rw [(all_isTextByte usable).1, List.map_map]
      refine (List.map_id value).symm.trans (List.map_congr_left fun byte _ => ?_)
      have valid : byte.toNat.isValidChar := .inl (Nat.lt_trans byte.toNat_lt (by decide))
      have number : (Char.ofNat byte.toNat).toNat = byte.toNat := by
        rw [Char.ofNat, dif_pos valid]
        rfl
      rw [Function.comp_apply, number, UInt8.ofNat_toNat, id]
    · exact absurd read.symm (Option.some_ne_none text)
  · rintro ⟨rfl, usable⟩
    exact text?_utf8Chars usable

end Headers

namespace Carrier

open Headers (Trims Reads IsSpacing IsTextCharacter)

variable {headers : Headers} {kind : TokenKind} {token : String}

/-! ## The header -/

/-- What the text of a header presents as a token. -/
inductive Credential (text : List Char) : (token : List Char) → Prop
  /-- All of the text, which does not begin with the scheme. -/
  | raw {token : List Char} (trims : Trims text token) (nonempty : token ≠ [])
      (bare : ¬ scheme <+: token) : Credential text token
  /-- What stands behind the scheme. -/
  | behind {rest token : List Char} (trims : Trims text (scheme ++ rest))
      (inner : Trims rest token) : Credential text token

/-- The header of a kind counts as absent: it is missing, or its first value is no text or blank. -/
def IsAbsent (headers : Headers) (kind : TokenKind) : Prop :=
  ∀ value others text, headers.valuesOf (headerName kind) = value :: others → Reads value text →
    ∀ character ∈ text, IsSpacing character

theorem scheme_append_ne_nil (rest : List Char) : scheme ++ rest ≠ [] :=
  List.append_ne_nil_of_left_ne_nil (by decide) rest

/-- Behind the scheme there is something left, because trimming has left no space at the end. -/
theorem ne_nil_of_behind {text rest token : List Char} (trims : Trims text (scheme ++ rest))
    (inner : Trims rest token) : token ≠ [] := by
  rintro rfl
  have blank := Headers.trims_nil_iff.1 inner
  have ends := List.getLast?_eq_some_getLast (scheme_append_ne_nil rest)
  generalize (scheme ++ rest).getLast _ = last at ends
  have other : ¬ IsSpacing last := by
    generalize shape : scheme ++ rest = core at trims ends
    cases trims with
    | intro before core after spacing front back => exact back last ends
  refine other ?_
  by_cases empty : rest = []
  · subst empty
    have space : scheme.getLast? = some ' ' := by decide
    rw [List.append_nil, space] at ends
    exact .inl (Option.some.inj ends).symm
  · rw [List.getLast?_append_of_ne_nil _ empty] at ends
    exact blank last (List.mem_of_mem_getLast? ends)

theorem Credential.ne_nil {text token : List Char} (credential : Credential text token) :
    token ≠ [] := by
  cases credential with
  | raw trims nonempty bare => exact nonempty
  | behind trims inner => exact ne_nil_of_behind trims inner

/-- **The text of a header presents what is left of it** when it has been trimmed, freed of the
scheme and trimmed again. -/
theorem credential_iff {text token : List Char}
    (usable : ∀ character ∈ text, IsTextCharacter character) :
    Credential text token ↔
      Text.trimBoth (stripFront scheme (Text.trimBoth text)) = token ∧ token ≠ [] := by
  have part {core : List Char} (trims : Trims text core) :
      ∀ character ∈ core, IsTextCharacter character :=
    fun character member => usable character (trims.subset character member)
  constructor
  · intro credential
    refine ⟨?_, credential.ne_nil⟩
    cases credential with
    | raw trims nonempty bare =>
      have noScheme : stripFront scheme token = token :=
        if_neg fun front => bare (List.isPrefixOf_iff_prefix.1 front)
      rw [(Headers.trimBoth_eq_iff usable).2 trims, noScheme]
      exact (Headers.trimBoth_eq_iff (part trims)).2 trims.self
    | @behind rest token trims inner =>
      have inside : ∀ character ∈ rest, IsTextCharacter character :=
        fun character member => part trims character (List.mem_append_right scheme member)
      rw [(Headers.trimBoth_eq_iff usable).2 trims, stripFront_append]
      exact (Headers.trimBoth_eq_iff inside).2 inner
  · rintro ⟨left, nonempty⟩
    have trims := (Headers.trimBoth_eq_iff usable).1 (Eq.refl (Text.trimBoth text))
    by_cases front : scheme <+: Text.trimBoth text
    · obtain ⟨rest, split⟩ := front
      rw [← split] at left trims
      rw [stripFront_append] at left
      have inside : ∀ character ∈ rest, IsTextCharacter character :=
        fun character member => part trims character (List.mem_append_right scheme member)
      exact .behind trims ((Headers.trimBoth_eq_iff inside).1 left)
    · rw [stripFront, if_neg fun found => front (List.isPrefixOf_iff_prefix.1 found),
        (Headers.trimBoth_eq_iff (part trims)).2 trims.self] at left
      subst left
      exact .raw trims nonempty front

/-- A text presents some token unless it is blank: the scheme is never all of it. -/
theorem exists_credential_iff {text : List Char}
    (usable : ∀ character ∈ text, IsTextCharacter character) :
    (∃ token, Credential text token) ↔ ¬ ∀ character ∈ text, IsSpacing character := by
  rw [← Headers.trims_nil_iff, ← Headers.trimBoth_eq_iff usable]
  have trims := (Headers.trimBoth_eq_iff usable).1 (Eq.refl (Text.trimBoth text))
  constructor
  · rintro ⟨token, credential⟩ blank
    cases credential with
    | raw trims nonempty bare =>
      exact nonempty (((Headers.trimBoth_eq_iff usable).2 trims).symm.trans blank)
    | behind trims inner =>
      exact absurd (((Headers.trimBoth_eq_iff usable).2 trims).symm.trans blank)
        (scheme_append_ne_nil _)
  · intro seen
    by_cases front : scheme <+: Text.trimBoth text
    · obtain ⟨rest, split⟩ := front
      rw [← split] at trims
      have inside : ∀ character ∈ rest, IsTextCharacter character := fun character member =>
        usable character (trims.subset character (List.mem_append_right scheme member))
      exact ⟨_, .behind trims ((Headers.trimBoth_eq_iff inside).1 rfl)⟩
    · exact ⟨_, .raw trims seen front⟩

/-- **A header has a token exactly if its first value is a text that presents it.** -/
theorem headerToken?_eq_some_iff : headerToken? headers kind = some token ↔
    ∃ value others text, headers.valuesOf (headerName kind) = value :: others ∧ Reads value text ∧
      Credential text token.toList := by
  rw [headerToken?]
  cases values : headers.valuesOf (headerName kind) with
  | nil => simp
  | cons value others =>
    dsimp only
    rw [Option.bind_eq_some_iff]
    constructor
    · rintro ⟨text, read, found⟩
      have reads := Headers.text?_eq_some_iff.1 read
      split at found
      · exact absurd found.symm (Option.some_ne_none token)
      · next nonempty =>
        obtain rfl := Option.some.inj found
        refine ⟨value, others, text, rfl, reads, ?_⟩
        rw [String.toList_ofList]
        exact (credential_iff reads.usable).2 ⟨rfl, by simpa using nonempty⟩
    · rintro ⟨value', others', text, same, reads, credential⟩
      obtain ⟨rfl, -⟩ := List.cons.inj same
      obtain ⟨left, nonempty⟩ := (credential_iff reads.usable).1 credential
      refine ⟨text, Headers.text?_eq_some_iff.2 reads, ?_⟩
      rw [left, if_neg (by simpa using nonempty), String.ofList_toList]

/-- **A header has no token exactly if it counts as absent.** -/
theorem headerToken?_eq_none_iff : headerToken? headers kind = none ↔ IsAbsent headers kind := by
  rw [Option.eq_none_iff_forall_ne_some]
  constructor
  · intro never value others text first reads
    by_contra seen
    obtain ⟨token, credential⟩ := (exists_credential_iff reads.usable).2 seen
    refine never (String.ofList token)
      (headerToken?_eq_some_iff.2 ⟨value, others, text, first, reads, ?_⟩)
    rwa [String.toList_ofList]
  · intro absent token found
    obtain ⟨value, others, text, first, reads, credential⟩ := headerToken?_eq_some_iff.1 found
    exact (exists_credential_iff reads.usable).1 ⟨_, credential⟩
      (absent value others text first reads)

/-! ## Cookies -/

/-- A part of a cookie header is a cookie: a name, an equals sign and a value, with spaces and tabs
around the two. -/
inductive IsCookie : (part name value : List Char) → Prop
  | intro {left right name value : List Char} (noSign : '=' ∉ left) (named : Trims left name)
      (nonempty : name ≠ []) (valued : Trims right value) :
      IsCookie (left ++ '=' :: right) name value

/-- The cookies among the parts of a header, in order. -/
inductive InParts : List (List Char) → List (List Char × List Char) → Prop
  | nil : InParts [] []
  | cookie {part name value : List Char} {parts : List (List Char)}
      {cookies : List (List Char × List Char)} (isCookie : IsCookie part name value)
      (rest : InParts parts cookies) : InParts (part :: parts) ((name, value) :: cookies)
  /-- A part that is no cookie is passed over. -/
  | malformed {part : List Char} {parts : List (List Char)}
      {cookies : List (List Char × List Char)} (noCookie : ∀ name value, ¬ IsCookie part name value)
      (rest : InParts parts cookies) : InParts (part :: parts) cookies

/-- The cookies in the values of cookie headers, in order. -/
inductive InValues : List (List UInt8) → List (List Char × List Char) → Prop
  | nil : InValues [] []
  /-- The parts of a text are separated by semicolons. -/
  | text {value : List UInt8} {values : List (List UInt8)} {parts : List (List Char)}
      {own later : List (List Char × List Char)} (reads : Reads value ([';'].intercalate parts))
      (some : parts ≠ []) (separate : ∀ part ∈ parts, ';' ∉ part) (first : InParts parts own)
      (rest : InValues values later) : InValues (value :: values) (own ++ later)
  /-- A value that is no text is passed over. -/
  | unreadable {value : List UInt8} {values : List (List UInt8)}
      {cookies : List (List Char × List Char)} (noText : ∀ text, ¬ Reads value text)
      (rest : InValues values cookies) : InValues (value :: values) cookies

/-- **A part is read as a cookie exactly if it is one.** -/
theorem pair?_eq_some_iff {part name value : List Char}
    (usable : ∀ character ∈ part, IsTextCharacter character) :
    pair? part = some (name, value) ↔ IsCookie part name value := by
  constructor
  · intro read
    rw [pair?] at read
    have split := List.takeWhile_append_dropWhile (p := fun character => decide (character ≠ '='))
      (l := part)
    have noSign : '=' ∉ part.takeWhile (· ≠ '=') := by
      intro member
      simpa using List.mem_takeWhile_imp member
    cases behind : part.dropWhile (· ≠ '=') with
    | nil =>
      rw [behind] at read
      exact absurd read.symm (Option.some_ne_none _)
    | cons sign right =>
      rw [behind] at read split
      dsimp only at read
      obtain rfl : sign = '=' := by
        have kept := List.head?_dropWhile_not (fun character => decide (character ≠ '=')) part
        rw [behind] at kept
        simpa using kept
      split at read
      · exact absurd read.symm (Option.some_ne_none _)
      · next nonempty =>
        obtain ⟨named, valued⟩ := Prod.mk.inj (Option.some.inj read)
        have inside {core : List Char} (among : ∀ character ∈ core, character ∈ part) :
            ∀ character ∈ core, IsTextCharacter character :=
          fun character member => usable character (among character member)
        have left : ∀ character ∈ part.takeWhile (· ≠ '='), character ∈ part :=
          fun character member => (List.takeWhile_prefix _).subset member
        have behind : ∀ character ∈ right, character ∈ part :=
          fun character member => split ▸ List.mem_append_right _ (.tail _ member)
        rw [← split]
        refine .intro noSign ((Headers.trimBoth_eq_iff (inside left)).1 named) ?_
          ((Headers.trimBoth_eq_iff (inside behind)).1 valued)
        rw [← named]
        simpa using nonempty
  · intro isCookie
    cases isCookie with
    | @intro left right name value noSign named nonempty valued =>
      have inLeft : ∀ character ∈ left, IsTextCharacter character :=
        fun character member => usable character (List.mem_append_left _ member)
      have inRight : ∀ character ∈ right, IsTextCharacter character :=
        fun character member => usable character (List.mem_append_right left (.tail _ member))
      rw [SentCookie.pair?_append noSign, (Headers.trimBoth_eq_iff inLeft).2 named,
        (Headers.trimBoth_eq_iff inRight).2 valued,
        if_neg (by simpa using nonempty)]

/-- The cookies among the parts are those that are read. -/
theorem inParts_iff {parts : List (List Char)} {cookies : List (List Char × List Char)}
    (usable : ∀ part ∈ parts, ∀ character ∈ part, IsTextCharacter character) :
    InParts parts cookies ↔ parts.filterMap pair? = cookies := by
  constructor
  · intro among
    induction among with
    | nil => rfl
    | cookie isCookie rest ih =>
      rw [List.filterMap_cons_some
        ((pair?_eq_some_iff (usable _ List.mem_cons_self)).2 isCookie),
        ih fun part member => usable part (.tail _ member)]
    | @malformed part parts cookies noCookie rest ih =>
      have none : pair? part = none := by
        rw [Option.eq_none_iff_forall_ne_some]
        exact fun (name, value) read => noCookie name value
          ((pair?_eq_some_iff (usable _ List.mem_cons_self)).1 read)
      rw [List.filterMap_cons_none none, ih fun part member => usable part (.tail _ member)]
  · rintro rfl
    induction parts with
    | nil => exact .nil
    | cons part parts ih =>
      have later := ih fun part member => usable part (.tail _ member)
      have own := fun name value => @pair?_eq_some_iff part name value (usable _ List.mem_cons_self)
      cases read : pair? part with
      | none =>
        rw [List.filterMap_cons_none read]
        exact .malformed (fun name value isCookie =>
          absurd (read.symm.trans ((own name value).2 isCookie)).symm (Option.some_ne_none _)) later
      | some cookie =>
        rw [List.filterMap_cons_some read]
        exact .cookie ((own _ _).1 read) later

/-- The cookies in the values are those that are read. -/
theorem inValues_iff {values : List (List UInt8)} {cookies : List (List Char × List Char)} :
    InValues values cookies ↔ (values.flatMap fun value =>
      (Headers.text? value).toList.flatMap fun characters =>
        (parts characters).filterMap pair?) = cookies := by
  constructor
  · intro among
    induction among with
    | nil => rfl
    | @text value values parts' own later reads some separate first rest ih =>
      have cut : parts ([';'].intercalate parts') = parts' :=
        List.splitOn_intercalate ';' separate some
      have usable : ∀ part ∈ parts', ∀ character ∈ part, IsTextCharacter character :=
        fun part member character inside =>
          reads.usable character ((mem_parts (cut.symm ▸ member)).2 character inside)
      rw [List.flatMap_cons, ih, Headers.text?_eq_some_iff.2 reads]
      simp only [Option.toList_some, List.flatMap_singleton]
      rw [cut, (inParts_iff usable).1 first]
    | @unreadable value values cookies noText rest ih =>
      have none : Headers.text? value = none := by
        rw [Option.eq_none_iff_forall_ne_some]
        exact fun text read => noText text (Headers.text?_eq_some_iff.1 read)
      rw [List.flatMap_cons, ih, none]
      rfl
  · rintro rfl
    induction values with
    | nil => exact .nil
    | cons value values ih =>
      rw [List.flatMap_cons]
      cases read : Headers.text? value with
      | none =>
        exact .unreadable (fun text reads =>
          absurd (read.symm.trans (Headers.text?_eq_some_iff.2 reads)).symm
            (Option.some_ne_none text)) ih
      | some text =>
        have reads := Headers.text?_eq_some_iff.1 read
        simp only [Option.toList_some, List.flatMap_singleton]
        have joined : [';'].intercalate (parts text) = text := List.intercalate_splitOn ';'
        rw [← joined] at reads
        have own := (inParts_iff fun part member character inside =>
          reads.usable character (joined.symm ▸ (mem_parts member).2 character inside)).2
            (Eq.refl ((parts text).filterMap pair?))
        exact .text reads (List.splitOn_ne_nil ';' text)
          (fun part member => (mem_parts member).1) own ih

/-- The cookies of a request are those in the values of its cookie headers. -/
theorem inValues_cookies_iff {found : List (List Char × List Char)} :
    InValues (headers.valuesOf "cookie") found ↔ cookies headers = found := by
  rw [inValues_iff, ← cookies_eq_flatMap]

/-! ## The token of a request -/

/-- A cookie has the name of the tokens of a kind, and a value. -/
def Holds (kind : TokenKind) (cookie : List Char × List Char) : Prop :=
  cookie.1 = (SetCookie.tokenName kind).toList ∧ cookie.2 ≠ []

/-- The request carries the token. -/
inductive Carries (headers : Headers) (kind : TokenKind) (token : String) : Prop
  /-- The first header of the kind presents it. -/
  | header {value : List UInt8} {others : List (List UInt8)} {text : List Char}
      (first : headers.valuesOf (headerName kind) = value :: others) (reads : Reads value text)
      (credential : Credential text token.toList)
  /-- The header counts as absent, and the first cookie of the name that has a value holds it. -/
  | cookie {name : List Char} {before later : List (List Char × List Char)}
      (absent : IsAbsent headers kind)
      (sent : InValues (headers.valuesOf "cookie") (before ++ (name, token.toList) :: later))
      (holds : Holds kind (name, token.toList)) (first : ∀ cookie ∈ before, ¬ Holds kind cookie)

theorem holds_iff {cookie : List Char × List Char} : Holds kind cookie ↔
    (decide (cookie.1 = (SetCookie.tokenName kind).toList) && !cookie.2.isEmpty) = true := by
  simp [Holds]

/-- The cookies carry the value of the first one that has the name and a value. -/
theorem cookieToken?_eq_some_iff : cookieToken? headers kind = some token ↔
    ∃ name before later, InValues (headers.valuesOf "cookie")
        (before ++ (name, token.toList) :: later) ∧
      Holds kind (name, token.toList) ∧ ∀ cookie ∈ before, ¬ Holds kind cookie := by
  simp only [inValues_cookies_iff, holds_iff, cookieToken?, Option.map_eq_some_iff,
    List.find?_eq_some_iff_append, Prod.exists]
  constructor
  · rintro ⟨name, value, ⟨holds, before, later, split, first⟩, rfl⟩
    refine ⟨name, before, later, ?_⟩
    rw [String.toList_ofList]
    exact ⟨split, holds, fun cookie member => by
      simpa only [Bool.not_eq_true', Bool.not_eq_true] using first cookie member⟩
  · rintro ⟨name, before, later, split, holds, first⟩
    refine ⟨name, token.toList, ⟨holds, before, later, split, fun cookie member => ?_⟩,
      String.ofList_toList⟩
    simpa only [Bool.not_eq_true', Bool.not_eq_true] using first cookie member

theorem cookieToken?_eq_none_iff : cookieToken? headers kind = none ↔
    ∃ sent, InValues (headers.valuesOf "cookie") sent ∧ ∀ cookie ∈ sent, ¬ Holds kind cookie := by
  simp only [inValues_cookies_iff, holds_iff, cookieToken?, Option.map_eq_none_iff,
    List.find?_eq_none, exists_eq_left']

/-- **A token is found exactly if the request carries it.** -/
theorem token?_eq_some_iff : token? headers kind = some token ↔ Carries headers kind token := by
  rw [token?, Option.or_eq_some_iff, headerToken?_eq_some_iff, headerToken?_eq_none_iff,
    cookieToken?_eq_some_iff]
  constructor
  · rintro (⟨value, others, text, first, reads, credential⟩ |
      ⟨absent, name, before, later, sent, holds, first⟩)
    · exact .header first reads credential
    · exact .cookie absent sent holds first
  · rintro (⟨first, reads, credential⟩ | ⟨absent, sent, holds, first⟩)
    · exact .inl ⟨_, _, _, first, reads, credential⟩
    · exact .inr ⟨absent, _, _, _, sent, holds, first⟩

/-- **No token is found exactly if the header counts as absent and no cookie of the name has a
value.** -/
theorem token?_eq_none_iff : token? headers kind = none ↔ IsAbsent headers kind ∧
    ∃ sent, InValues (headers.valuesOf "cookie") sent ∧ ∀ cookie ∈ sent, ¬ Holds kind cookie := by
  rw [token?, Option.or_eq_none_iff, headerToken?_eq_none_iff, cookieToken?_eq_none_iff]

/-- **What is found is never empty.** -/
theorem token?_ne_empty (headers : Headers) (kind : TokenKind) : token? headers kind ≠ some "" := by
  intro found
  cases token?_eq_some_iff.1 found with
  | header first reads credential => exact credential.ne_nil String.toList_empty
  | cookie absent sent holds first => exact holds.2 String.toList_empty

/-! ## The scheme alone -/

/-- The word that the scheme is, without the space behind it. -/
def schemeWord : List Char := "Bearer".toList

/-- **A header that holds the scheme alone presents its word**, whatever spaces and tabs are around
it. -/
theorem token?_of_schemeWord {text : List Char} {others : List (List UInt8)}
    (first : headers.valuesOf (headerName kind) = Text.utf8Chars text :: others)
    (alone : Trims text schemeWord) : token? headers kind = some "Bearer" := by
  have letters :
      ("Bearer".toList.all fun character => decide (Text.IsVisible character)) = true := by decide
  have visible : ∀ character ∈ "Bearer".toList, Text.IsVisible character :=
    fun character member => of_decide_eq_true (List.all_eq_true.1 letters character member)
  obtain ⟨before, after, rfl, spacing⟩ : ∃ before after, text = before ++ schemeWord ++ after ∧
      ∀ character ∈ before ++ after, IsSpacing character := by
    cases alone with
    | intro before core after spacing front back => exact ⟨before, after, rfl, spacing⟩
  exact token?_of_presents (.raw before after spacing) first visible (by decide)

end Carrier

/-! ## Who the caller is -/

namespace Arrival

variable {arrival : Arrival}

/-- The request asks who the caller is. -/
structure AsksWho (arrival : Arrival) : Prop where
  found : Route.ofPath? arrival.request.path = some .whoami
  asked : arrival.request.method = "GET"

/-- **A caller without a token is anonymous.** -/
theorem AsksWho.anonymous (asks : arrival.AsksWho)
    (none : Carrier.token? arrival.request.headers .access = none) :
    ∃ response, arrival.outcome = .ok response ∧ response.status = 200 ∧
      response.body = .json (.object [("authenticated", .boolean false)]) := by
  have noPreflight : arrival.request.method ≠ "OPTIONS" := by simp [asks.asked]
  have allowed : Route.whoami.allowed.contains arrival.request.method = true := by
    rw [asks.asked]
    decide
  have served : Route.whoami.serve arrival.service arrival.request =
      Gate.settle (pure (.ofJson 200 (.object [("authenticated", .boolean false)]))) := by
    have entered := Gate.enter_none arrival.service .anyone none
      (Route.whoami.act arrival.service arrival.request)
    rw [if_pos rfl, Route.act, if_pos allowed] at entered
    exact entered
  rw [outcome, (State.run_respond arrival.service arrival.state asks.found noPreflight).1, served]
  exact ⟨_, rfl, Router.status_finish _ _ _, Router.body_finish (by simp [asks.asked]) _ _⟩

/-- **A caller whose header holds the scheme alone is refused**, whatever cookies come along. -/
theorem AsksWho.unauthenticated (asks : arrival.AsksWho) {text : List Char}
    {others : List (List UInt8)} (first : arrival.request.headers.valuesOf
      (Carrier.headerName .access) = Text.utf8Chars text :: others)
    (alone : Headers.Trims text Carrier.schemeWord) :
    ∃ response, arrival.outcome = .ok response ∧ response.status = 401 := by
  have refused : arrival.IsRefused (.accessToken .whoami arrival.request.method) := by
    refine .accessToken asks.found rfl (by simp [asks.asked])
      (Carrier.token?_of_schemeWord first alone) fun claims accepted => ?_
    obtain ⟨user, vouches⟩ := State.vouches_of_validate accepted
    have decoded := (Codec.decodeAt_eq_ok_iff.1 vouches.decoded).1
    have noSegments : Codec.segments? "Bearer" = none := by decide
    rw [Codec.verify?, noSegments] at decoded
    cases decoded
  exact ⟨_, refused.outcome, Refusal.status_response _⟩

end Arrival

/-! ## The rule -/

/-- **Both kinds of token are carried by one rule.** Over all headers, with any bytes as their
values, a token is found exactly if the request carries it: its header comes first, raw or behind
the scheme, and counts as absent if it is missing, no text, or blank; then the first cookie of the
name that has a value counts, in the order of the headers, where values that are no text and parts
that are no cookie are passed over. Nothing is found exactly if neither is there, and what is found
is never empty. A header that holds the scheme alone does not count as absent: it presents the
scheme's word. So in every state of every service a caller who asks who it is stays anonymous if no
token is found, and is refused if the header holds the scheme alone. -/
theorem request_carries_token (headers : Headers) (kind : TokenKind) :
    (∀ token, Carrier.token? headers kind = some token ↔ Carrier.Carries headers kind token) ∧
      Carrier.token? headers kind ≠ some "" ∧
      (Carrier.token? headers kind = none ↔ Carrier.IsAbsent headers kind ∧
        ∃ sent, Carrier.InValues (headers.valuesOf "cookie") sent ∧
          ∀ cookie ∈ sent, ¬ Carrier.Holds kind cookie) ∧
      (∀ (text : List Char) (others : List (List UInt8)),
        headers.valuesOf (Carrier.headerName kind) = Text.utf8Chars text :: others →
          Headers.Trims text Carrier.schemeWord → Carrier.token? headers kind = some "Bearer") ∧
      ∀ arrival : Arrival, arrival.AsksWho → arrival.request.headers = headers →
        (Carrier.token? headers .access = none →
          ∃ response, arrival.outcome = .ok response ∧ response.status = 200 ∧
            response.body = .json (.object [("authenticated", .boolean false)])) ∧
        ∀ (text : List Char) (others : List (List UInt8)),
          headers.valuesOf (Carrier.headerName .access) = Text.utf8Chars text :: others →
          Headers.Trims text Carrier.schemeWord →
            ∃ response, arrival.outcome = .ok response ∧ response.status = 401 := by
  refine ⟨fun token => Carrier.token?_eq_some_iff, Carrier.token?_ne_empty headers kind,
    Carrier.token?_eq_none_iff,
    fun text others first alone => Carrier.token?_of_schemeWord first alone,
    fun arrival asks same => ?_⟩
  subst same
  exact ⟨asks.anonymous, fun text others first alone => asks.unauthenticated first alone⟩

/-- The scheme, with the space that belongs to it, is the scheme alone. -/
theorem Carrier.trims_scheme : Headers.Trims Carrier.scheme Carrier.schemeWord := by
  refine .intro [] schemeWord [' '] ?_ ?_ ?_
  · intro character member
    exact .inl (List.mem_singleton.1 member)
  · intro first starts
    obtain rfl : 'B' = first := Option.some.inj starts
    exact Headers.not_isSpacing (by decide)
  · intro last ends
    obtain rfl : 'r' = last := Option.some.inj ends
    exact Headers.not_isSpacing (by decide)

/-- A blank header counts as absent, so the access token is that of the second cookie of the name,
the first one that has a value. Without headers the caller is anonymous, and with the scheme alone
the caller is refused, although a cookie holds a token. -/
theorem request_carries_token_of_cookie :
    let service : Service := ⟨⟨[1], [2]⟩, 900, 86400, 300, ⟨true, 900, 86400⟩, .table, 4⟩
    let cookie : List UInt8 := Text.utf8 "theme; access_token=; access_token=abc"
    let arrival : Headers → Arrival := fun headers =>
      ⟨service, { now := 0 }, { method := "GET", target := "/api/v1/whoami", headers }⟩
    Carrier.Carries [("Authorization", [0x20, 0x09]), ("Cookie", cookie)] .access "abc" ∧
      (∃ response, (arrival []).outcome = .ok response ∧ response.status = 200) ∧
      ∃ response, (arrival [("Authorization", Text.utf8Chars Carrier.scheme),
        ("Cookie", cookie)]).outcome = .ok response ∧ response.status = 401 := by
  intro service cookie arrival
  have who (headers : Headers) := (request_carries_token headers .access).2.2.2.2
  have found : Route.ofPath? (Request.path ⟨"GET", "/api/v1/whoami", [], []⟩) = some .whoami := by
    decide
  have asks (headers : Headers) : (arrival headers).AsksWho := ⟨found, rfl⟩
  refine ⟨((request_carries_token _ .access).1 "abc").1 (by decide +kernel), ?_, ?_⟩
  · obtain ⟨response, ok, success, -⟩ := (who [] _ (asks []) rfl).1 (by decide +kernel)
    exact ⟨response, ok, success⟩
  · refine (who _ _ (asks _) rfl).2 Carrier.scheme [] ?_ Carrier.trims_scheme
    decide +kernel

/-- A header that holds the scheme alone does not count as absent: the request has no cookie, and
yet a token is found. -/
theorem bare_scheme_not_absent :
    ¬ ∀ (headers : Headers) (kind : TokenKind) (text : List Char) (others : List (List UInt8)),
      headers.valuesOf (Carrier.headerName kind) = Text.utf8Chars text :: others →
        Headers.Trims text Carrier.schemeWord →
          Carrier.token? headers kind = Carrier.cookieToken? headers kind := by
  intro absent
  have same := absent [("Authorization", Text.utf8Chars Carrier.scheme)] .access Carrier.scheme []
    (by decide +kernel) Carrier.trims_scheme
  exact absurd same (by decide +kernel)

end DualToken
