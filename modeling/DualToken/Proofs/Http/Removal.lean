import DualToken.Proofs.Http.Cookies

/-!
# Requests without one of their tokens

A request loses a token when the headers of its kind go and the cookies of its name are cut out of
every cookie header. Nothing else that the request carries is touched, so its token of the other
kind is found as before (`Carrier.token?_without`). This is what a response is compared with that
should not show whether a token came along.

A cookie header whose value cannot be used as text stays as it is: no cookie is read from it, and
with some of its bytes gone it might be read.
-/

set_option autoImplicit false

namespace DualToken

/-! ## Cutting cookies out -/

namespace Carrier

/-- Whether a part of a cookie header is a cookie of a kind of token. -/
def isTokenPart (kind : TokenKind) (part : List Char) : Bool :=
  (pair? part).any (·.1 = (SetCookie.tokenName kind).toList)

/-- The value of a cookie header without the cookies of a kind of token. -/
def cutCookies (kind : TokenKind) (value : List UInt8) : List UInt8 :=
  match Headers.text? value with
  | some characters =>
    Text.utf8Chars ([';'].intercalate ((parts characters).filter (!isTokenPart kind ·)))
  | none => value

end Carrier

namespace Headers

/-- The headers without the tokens of a kind. -/
def without (kind : TokenKind) (headers : Headers) : Headers :=
  (headers.filter fun header => header.1.map Char.toLower ≠ Carrier.headerName kind).map
    fun header => if header.1.map Char.toLower = "cookie" then
      (header.1, Carrier.cutCookies kind header.2) else header

/-- The characters of a value that can be used as text. -/
theorem isTextCharacter_of_text? {value : List UInt8} {characters : List Char}
    (read : text? value = some characters) :
    ∀ character ∈ characters, IsTextCharacter character := by
  rw [text?] at read
  split at read
  · next all =>
    obtain rfl := Option.some.inj read
    intro character member
    obtain ⟨byte, among, rfl⟩ := List.mem_map.1 member
    have text := List.all_eq_true.1 all byte among
    have valid : byte.toNat.isValidChar := .inl (Nat.lt_trans byte.toNat_lt (by decide))
    have number : (Char.ofNat byte.toNat).toNat = byte.toNat := by
      rw [Char.ofNat, dif_pos valid]
      rfl
    simp only [isTextByte, Bool.or_eq_true, Bool.and_eq_true, decide_eq_true_eq,
      UInt8.le_iff_toNat_le] at text
    refine text.imp ?_ fun range => number.symm ▸ range
    rintro rfl
    rfl
  · exact absurd read.symm (Option.some_ne_none characters)

/-- The headers of a name are cut if they are cookie headers, and gone if they carry tokens of the
kind. -/
theorem valuesOf_without (kind : TokenKind) (headers : Headers) (name : String) :
    (headers.without kind).valuesOf name =
      if name = Carrier.headerName kind then []
      else if name = "cookie" then (headers.valuesOf name).map (Carrier.cutCookies kind)
      else headers.valuesOf name := by
  have named : (fun header : String × List UInt8 => decide (header.1.map Char.toLower = name)) ∘
      (fun header => if header.1.map Char.toLower = "cookie" then
        (header.1, Carrier.cutCookies kind header.2) else header) =
      fun header => decide (header.1.map Char.toLower = name) := by
    funext header
    rw [Function.comp_apply]
    split
    · rfl
    · rfl
  rw [valuesOf, without, List.filter_map, named, List.filter_filter, List.map_map]
  split
  · next own =>
    subst own
    simp
  · next other =>
    have kept : (fun header : String × List UInt8 => decide (header.1.map Char.toLower = name) &&
        decide (header.1.map Char.toLower ≠ Carrier.headerName kind)) =
        fun header => decide (header.1.map Char.toLower = name) := by
      funext header
      by_cases same : header.1.map Char.toLower = name
      · simp [same, other]
      · simp [same]
    rw [kept]
    split
    · next cookie =>
      subst cookie
      rw [valuesOf, List.map_map]
      refine List.map_congr_left fun header member => ?_
      have same := of_decide_eq_true (List.mem_filter.1 member).2
      simp only [Function.comp_apply, if_pos same]
    · next noCookie =>
      rw [valuesOf]
      refine List.map_congr_left fun header member => ?_
      have same := of_decide_eq_true (List.mem_filter.1 member).2
      simp only [Function.comp_apply, same, if_neg noCookie]

end Headers

namespace Carrier

variable {kind : TokenKind}

/-- A part of a header has no semicolon, and its characters are those of the header. -/
theorem mem_parts {characters part : List Char} (member : part ∈ parts characters) :
    ';' ∉ part ∧ ∀ character ∈ part, character ∈ characters := by
  induction characters generalizing part with
  | nil =>
    obtain rfl : part = [] := by simpa [parts] using member
    exact ⟨List.not_mem_nil, fun _ among => among⟩
  | cons first rest ih =>
    have later {other : List Char} (among : other ∈ parts rest) :
        ';' ∉ other ∧ ∀ character ∈ other, character ∈ first :: rest :=
      ⟨(ih among).1, fun character own => .tail first ((ih among).2 character own)⟩
    rw [parts, List.splitOn_cons_eq_if_modifyHead, ← parts] at member
    split at member
    · rcases List.mem_cons.1 member with rfl | among
      · exact ⟨List.not_mem_nil, fun _ own => absurd own List.not_mem_nil⟩
      · exact later among
    · next other =>
      obtain ⟨front, others, split⟩ := List.exists_cons_of_ne_nil (List.splitOn_ne_nil ';' rest)
      rw [parts, split, List.modifyHead_cons] at member
      rw [parts, split] at later
      rcases List.mem_cons.1 member with rfl | among
      · obtain ⟨noSign, inside⟩ := later List.mem_cons_self
        refine ⟨fun sign => ?_, ?_⟩
        · rcases List.mem_cons.1 sign with rfl | sign
          · exact other rfl
          · exact noSign sign
        · intro character own
          rcases List.mem_cons.1 own with rfl | own
          · exact List.mem_cons_self
          · exact inside character own
      · exact later (.tail front among)

/-- A character of parts that are put together is a semicolon or of one of the parts. -/
theorem mem_intercalate {kept : List (List Char)} {character : Char}
    (member : character ∈ [';'].intercalate kept) :
    character = ';' ∨ ∃ part ∈ kept, character ∈ part := by
  induction kept with
  | nil => exact absurd member List.not_mem_nil
  | cons first rest ih =>
    cases rest with
    | nil => exact .inr ⟨first, List.mem_cons_self, by simpa using member⟩
    | cons second rest =>
      rw [List.intercalate_cons_cons, List.mem_append, List.mem_append] at member
      rcases member with (own | sign) | later
      · exact .inr ⟨first, List.mem_cons_self, own⟩
      · exact .inl (List.mem_singleton.1 sign)
      · rcases ih later with sign | ⟨part, among, own⟩
        · exact .inl sign
        · exact .inr ⟨part, .tail first among, own⟩

/-- Parts of a header are read again when they are put together. -/
theorem filterMap_parts_intercalate {kept : List (List Char)}
    (separate : ∀ part ∈ kept, ';' ∉ part) :
    (parts ([';'].intercalate kept)).filterMap pair? = kept.filterMap pair? := by
  by_cases empty : kept = []
  · subst empty
    rfl
  · rw [parts, List.splitOn_intercalate ';' separate empty]

/-- Cutting out parts cuts out their cookies. -/
theorem filterMap_filter_parts (kind : TokenKind) (parts : List (List Char)) :
    (parts.filter (!isTokenPart kind ·)).filterMap pair? =
      (parts.filterMap pair?).filter (·.1 ≠ (SetCookie.tokenName kind).toList) := by
  rw [List.filterMap_filter, List.filter_filterMap]
  refine List.filterMap_congr fun part _ => ?_
  rw [isTokenPart]
  cases pair? part with
  | none => rfl
  | some cookie =>
    by_cases own : cookie.1 = (SetCookie.tokenName kind).toList
    · simp [own, Option.filter]
    · simp [own, Option.filter]

/-- The cookies that are left in the value of a header are those of other names. -/
theorem filterMap_cutCookies (kind : TokenKind) (value : List UInt8) :
    ((Headers.text? (cutCookies kind value)).toList.flatMap fun characters =>
        (parts characters).filterMap pair?) =
      ((Headers.text? value).toList.flatMap fun characters =>
        (parts characters).filterMap pair?).filter (·.1 ≠ (SetCookie.tokenName kind).toList) := by
  cases read : Headers.text? value with
  | none =>
    rw [cutCookies, read]
    simp [read]
  | some characters =>
    have among {part : List Char}
        (member : part ∈ (parts characters).filter (!isTokenPart kind ·)) :=
      mem_parts (List.mem_filter.1 member).1
    have usable : ∀ character ∈ [';'].intercalate ((parts characters).filter (!isTokenPart kind ·)),
        Headers.IsTextCharacter character := by
      intro character member
      rcases mem_intercalate member with rfl | ⟨part, kept, own⟩
      · exact .inr (by decide)
      · exact Headers.isTextCharacter_of_text? read character ((among kept).2 character own)
    rw [cutCookies, read]
    dsimp only
    rw [Headers.text?_utf8Chars usable]
    simp only [Option.toList_some, List.flatMap_singleton]
    rw [filterMap_parts_intercalate fun part kept => (among kept).1, filterMap_filter_parts]

/-- The cookies of a request are those of its cookie headers, one header after the other. -/
theorem cookies_eq_flatMap (headers : Headers) :
    cookies headers = (headers.valuesOf "cookie").flatMap fun value =>
      (Headers.text? value).toList.flatMap fun characters =>
        (parts characters).filterMap pair? := by
  rw [cookies]
  induction headers.valuesOf "cookie" with
  | nil => rfl
  | cons value values ih =>
    rw [List.flatMap_cons, ← ih]
    cases read : Headers.text? value with
    | none =>
      rw [List.filterMap_cons_none read]
      rfl
    | some characters =>
      rw [List.filterMap_cons_some read, List.flatMap_cons]
      simp only [Option.toList_some, List.flatMap_singleton]

theorem headerName_injective {kind kind' : TokenKind} (same : headerName kind = headerName kind') :
    kind = kind' := by
  revert same
  cases kind <;> cases kind' <;> decide

theorem headerName_ne_cookie (kind : TokenKind) : headerName kind ≠ "cookie" := by
  cases kind <;> decide

/-- The cookies that are left in a request are those of other names. -/
theorem cookies_without (kind : TokenKind) (headers : Headers) :
    cookies (headers.without kind) =
      (cookies headers).filter (·.1 ≠ (SetCookie.tokenName kind).toList) := by
  rw [cookies_eq_flatMap, cookies_eq_flatMap, Headers.valuesOf_without,
    if_neg (headerName_ne_cookie kind).symm, if_pos rfl, List.flatMap_map, List.filter_flatMap]
  simp only [filterMap_cutCookies]

theorem headerToken?_without (kind other : TokenKind) (headers : Headers) :
    headerToken? (headers.without kind) other =
      if other = kind then none else headerToken? headers other := by
  rw [headerToken?, Headers.valuesOf_without, if_neg (headerName_ne_cookie other)]
  by_cases own : other = kind
  · rw [if_pos own, if_pos (congrArg headerName own)]
  · rw [if_neg own, if_neg fun same => own (headerName_injective same), headerToken?]

theorem cookieToken?_without (kind other : TokenKind) (headers : Headers) :
    cookieToken? (headers.without kind) other =
      if other = kind then none else cookieToken? headers other := by
  rw [cookieToken?, cookies_without, List.find?_filter]
  by_cases own : other = kind
  · subst own
    rw [if_pos rfl, Option.map_eq_none_iff, List.find?_eq_none]
    intro cookie _ both
    simp only [decide_eq_true_eq, Bool.and_eq_true] at both
    exact both.1 both.2.1
  · have unlike : (SetCookie.tokenName other).toList ≠ (SetCookie.tokenName kind).toList :=
      fun same => own (SetCookie.tokenName_injective (String.toList_inj.1 same))
    rw [if_neg own, cookieToken?]
    congr 2
    funext cookie
    by_cases named : cookie.1 = (SetCookie.tokenName other).toList
    · simp only [named, unlike, ne_eq, not_false_eq_true, decide_true, Bool.true_and, true_and,
        Bool.decide_eq_true]
    · simp only [named, decide_false, Bool.false_and, Bool.false_eq_true, and_false]

/-- **A request without its token of a kind carries none**, and its token of the other kind is found
as before. -/
theorem token?_without (kind other : TokenKind) (headers : Headers) :
    token? (headers.without kind) other =
      if other = kind then none else token? headers other := by
  rw [token?, headerToken?_without, cookieToken?_without]
  split
  · rfl
  · rfl

end Carrier

end DualToken
