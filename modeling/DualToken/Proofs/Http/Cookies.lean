import DualToken.Http.Message
import DualToken.Proofs.Http.Carrier

/-!
# Cookies that come back

A client keeps the name and the value of each cookie that a response sets, and sends them back with
its other cookies, in as many headers as it likes. Reading the headers recovers every cookie that is
well-formed, in order (`SentCookie.cookies_of_sent`). So the first cookie of a token's name is the
one that was set, wherever it stands among the others (`Headers.SendsBack.token?`).
-/

set_option autoImplicit false

namespace DualToken

/-! ## Cookies of a request -/

/-- A cookie as a client writes it into a header, with spaces and tabs before and after it. -/
structure SentCookie where
  before : List Char
  name : List Char
  value : List Char
  after : List Char

namespace SentCookie

/-- The name and the value, with the equals sign between them. -/
def pair (cookie : SentCookie) : List Char :=
  cookie.name ++ '=' :: cookie.value

def written (cookie : SentCookie) : List Char :=
  cookie.before ++ cookie.pair ++ cookie.after

/-- The text of a header with some cookies. -/
def line (cookies : List SentCookie) : List Char :=
  [';'].intercalate (cookies.map written)

/-- What is read of the cookie. -/
def read (cookie : SentCookie) : List Char × List Char :=
  (cookie.name, Text.trimBoth (cookie.value ++ cookie.after))

/-- The cookie has a name, and its name and its value can stand in a header between the signs that
separate them. -/
structure IsWellFormed (cookie : SentCookie) : Prop where
  spacing : ∀ character ∈ cookie.before ++ cookie.after, Headers.IsSpacing character
  named : cookie.name ≠ []
  name : ∀ character ∈ cookie.name,
    Text.IsVisible character ∧ character ≠ '=' ∧ character ≠ ';'
  value : ∀ character ∈ cookie.value, Headers.IsTextCharacter character ∧ character ≠ ';'

variable {cookie : SentCookie} {cookies : List SentCookie}

theorem takeWhile_pair (name value : List Char) (noSign : '=' ∉ name) :
    (name ++ '=' :: value).takeWhile (· ≠ '=') = name := by
  have before : ∀ character ∈ name, decide (character ≠ '=') = true :=
    fun character member => decide_eq_true fun sign => noSign (sign ▸ member)
  rw [List.takeWhile_append_of_pos before, List.takeWhile_cons_of_neg (by decide), List.append_nil]

/-- A name without an equals sign is told from the value behind it. -/
theorem pair_inj {name name' value value' : List Char} (noSign : '=' ∉ name) (noSign' : '=' ∉ name')
    (same : name ++ '=' :: value = name' ++ '=' :: value') : name = name' ∧ value = value' := by
  have names := congrArg (List.takeWhile (· ≠ '=')) same
  rw [takeWhile_pair name value noSign, takeWhile_pair name' value' noSign'] at names
  subst names
  exact ⟨rfl, (List.cons.inj (List.append_cancel_left same)).2⟩

/-- A part is cut at its first equals sign. -/
theorem pair?_append {name : List Char} (noSign : '=' ∉ name) (value : List Char) :
    Carrier.pair? (name ++ '=' :: value) = if (Text.trimBoth name).isEmpty then none
      else some (Text.trimBoth name, Text.trimBoth value) := by
  have before : ∀ character ∈ name, decide (character ≠ '=') = true :=
    fun character member => decide_eq_true fun sign => noSign (sign ▸ member)
  rw [Carrier.pair?, List.dropWhile_append_of_pos before, List.dropWhile_cons_of_neg (by decide),
    takeWhile_pair name value noSign]

/-- **A well-formed cookie is read.** -/
theorem IsWellFormed.pair?_written (formed : cookie.IsWellFormed) :
    Carrier.pair? cookie.written = some cookie.read := by
  have noSign : '=' ∉ cookie.before ++ cookie.name := by
    intro member
    rcases List.mem_append.1 member with front | own
    · rcases formed.spacing '=' (List.mem_append_left _ front) with sign | sign
      · exact absurd sign (by decide)
      · exact absurd sign (by decide)
    · exact (formed.name '=' own).2.1 rfl
  have blank : ∀ character ∈ cookie.before ++ [], Text.isBlank character = true := by
    intro character member
    rw [List.append_nil] at member
    exact (formed.spacing character (List.mem_append_left _ member)).isBlank
  have name := Text.trimBoth_of_visible blank
    fun character member => (formed.name character member).1
  rw [List.append_nil] at name
  have shape : cookie.written =
      cookie.before ++ cookie.name ++ '=' :: (cookie.value ++ cookie.after) := by
    simp [written, pair]
  rw [shape, pair?_append noSign]
  simp only [name, List.isEmpty_iff, if_neg formed.named, read]

theorem IsWellFormed.usable (formed : cookie.IsWellFormed) :
    ∀ character ∈ cookie.written, Headers.IsTextCharacter character ∧ character ≠ ';' := by
  have spacing : ∀ character ∈ cookie.before ++ cookie.after,
      Headers.IsTextCharacter character ∧ character ≠ ';' := by
    intro character member
    refine ⟨(formed.spacing character member).isTextCharacter, ?_⟩
    rcases formed.spacing character member with rfl | rfl
    · decide
    · decide
  intro character member
  simp only [written, pair, List.mem_append, List.mem_cons] at member spacing
  rcases member with (front | name | rfl | value) | back
  · exact spacing character (.inl front)
  · obtain ⟨seen, -, inside⟩ := formed.name character name
    exact ⟨seen.isTextCharacter, inside⟩
  · exact ⟨.inr (by decide), by decide⟩
  · exact formed.value character value
  · exact spacing character (.inr back)

/-- The characters of a header are those of the cookies, and the signs between them. -/
theorem usable_line (formed : ∀ cookie ∈ cookies, cookie.IsWellFormed) :
    ∀ character ∈ line cookies, Headers.IsTextCharacter character := by
  induction cookies with
  | nil => exact nofun
  | cons first rest ih =>
    have own := (formed first List.mem_cons_self).usable
    have later := ih fun cookie member => formed cookie (.tail first member)
    cases rest with
    | nil =>
      intro character member
      exact (own character (by simpa [line] using member)).1
    | cons second rest =>
      intro character member
      have split : line (first :: second :: rest) =
          first.written ++ ';' :: line (second :: rest) := by
        simp [line, List.intercalate]
      rw [split, List.mem_append, List.mem_cons] at member
      rcases member with front | rfl | back
      · exact (own character front).1
      · exact .inr (by decide)
      · exact later character back

/-- **The cookies of a header are read, in order.** -/
theorem parts_line (formed : ∀ cookie ∈ cookies, cookie.IsWellFormed) :
    (Carrier.parts (line cookies)).filterMap Carrier.pair? = cookies.map read := by
  by_cases empty : cookies = []
  · subst empty
    rfl
  · have separate : ∀ part ∈ cookies.map written, ';' ∉ part := by
      intro part member
      obtain ⟨cookie, among, rfl⟩ := List.mem_map.1 member
      exact fun sign => ((formed cookie among).usable ';' sign).2 rfl
    rw [Carrier.parts, line, List.splitOn_intercalate ';' separate (by simpa using empty),
      List.filterMap_map]
    refine List.filterMap_eq_map_iff_forall_eq_some.2 fun cookie member => ?_
    exact (formed cookie member).pair?_written

/-- **The cookies of a request are read over all headers**, in order. -/
theorem cookies_of_sent {headers : Headers} {lists : List (List SentCookie)}
    (sent : headers.valuesOf "cookie" = lists.map fun cookies => Text.utf8Chars (line cookies))
    (formed : ∀ cookie ∈ lists.flatten, cookie.IsWellFormed) :
    Carrier.cookies headers = lists.flatten.map read := by
  have each : ∀ cookies ∈ lists, ∀ cookie ∈ cookies, cookie.IsWellFormed :=
    fun cookies among cookie member => formed cookie (List.mem_flatten_of_mem among member)
  rw [Carrier.cookies, sent]
  clear sent formed
  induction lists with
  | nil => rfl
  | cons first rest ih =>
    have own := each first List.mem_cons_self
    have later := ih fun cookies among => each cookies (.tail first among)
    rw [List.map_cons, List.filterMap_cons_some (Headers.text?_utf8Chars (usable_line own)),
      List.flatMap_cons, parts_line own, later, List.flatten_cons, List.map_append]

end SentCookie

/-! ## Cookies of a response -/

namespace SetCookie

theorem tokenName_noSign (kind : TokenKind) : '=' ∉ (tokenName kind).toList := by
  cases kind <;> decide

theorem tokenName_noSemicolon (kind : TokenKind) : ';' ∉ (tokenName kind).toList := by
  cases kind <;> decide

theorem tokenName_injective {kind kind' : TokenKind} (same : tokenName kind = tokenName kind') :
    kind = kind' := by
  revert same
  cases kind <;> cases kind' <;> decide

/-- The name and the value of the cookie with a token. -/
def tokenPair (token : TokenKind × String) : List Char :=
  (tokenName token.1).toList ++ '=' :: token.2.toList

/-- The header that sets a cookie begins with the name and the value. -/
theorem takeWhile_text {cookie : SetCookie} (name : ';' ∉ cookie.name.toList)
    (value : ';' ∉ cookie.value.toList) :
    cookie.text.toList.takeWhile (· ≠ ';') = cookie.name.toList ++ '=' :: cookie.value.toList := by
  have inside : ∀ character ∈ cookie.name.toList ++ '=' :: cookie.value.toList,
      decide (character ≠ ';') = true := by
    intro character member
    refine decide_eq_true fun sign => ?_
    subst sign
    rcases List.mem_append.1 member with front | back
    · exact name front
    · exact value ((List.mem_cons.1 back).resolve_left (by decide))
  have sign : "=".toList = ['='] := by decide
  have first : "; HttpOnly; SameSite=Strict".toList =
      ';' :: " HttpOnly; SameSite=Strict".toList := by decide
  simp only [text, String.toList_append, sign, first, List.append_assoc, List.cons_append,
    List.nil_append]
  have shape : ∀ attributes : List Char,
      cookie.name.toList ++ '=' :: (cookie.value.toList ++ ';' :: attributes) =
        (cookie.name.toList ++ '=' :: cookie.value.toList) ++ ';' :: attributes := by
    simp
  rw [shape, List.takeWhile_append_of_pos inside, List.takeWhile_cons_of_neg (by decide),
    List.append_nil]

end SetCookie

/-- What a client keeps of the headers that set cookies: the names and the values, without the
attributes behind them. -/
def Response.setPairs (response : Response) : List (List Char) :=
  (response.allHeaders.filter fun header => header.1 = "set-cookie").map fun header =>
    header.2.toList.takeWhile (· ≠ ';')

/-- The request carries no token in a header of its own. Its cookie headers hold what the response
set, and besides only well-formed cookies of other names. -/
structure Headers.SendsBack (headers : Headers) (response : Response)
    (lists : List (List SentCookie)) : Prop where
  /-- There are no headers for tokens. -/
  bare : ∀ kind, headers.valuesOf (Carrier.headerName kind) = []
  /-- Each list of cookies is sent in a header. -/
  sent : headers.valuesOf "cookie" =
    lists.map fun cookies => Text.utf8Chars (SentCookie.line cookies)
  formed : ∀ cookie ∈ lists.flatten, cookie.IsWellFormed
  /-- Every cookie that was set comes back. -/
  all : ∀ pair ∈ response.setPairs, ∃ cookie ∈ lists.flatten, cookie.pair = pair
  others : ∀ cookie ∈ lists.flatten, cookie.pair ∈ response.setPairs ∨
    ∀ pair ∈ response.setPairs, pair.takeWhile (· ≠ '=') ≠ cookie.name

/-- The response hands out tokens in cookies, at most one of each kind, and sets no other cookie. -/
structure Response.HandsOut (response : Response) (codec : Codec)
    (tokens : List (TokenKind × String)) : Prop where
  /-- No other header sets a cookie. -/
  plain : ∀ header ∈ response.headers, header.1 ≠ "set-cookie"
  cookies : response.cookies.map (fun cookie => (cookie.name, cookie.value)) =
    tokens.map fun token => (SetCookie.tokenName token.1, token.2)
  /-- The kinds are different. -/
  kinds : (tokens.map Prod.fst).Nodup
  issued : ∀ token ∈ tokens, ∃ claims, token.2 = codec.issue claims

namespace Response.HandsOut

variable {response : Response} {codec : Codec} {tokens : List (TokenKind × String)}

/-- **A client keeps the names and the tokens.** -/
theorem setPairs_eq (hands : response.HandsOut codec tokens) :
    response.setPairs = tokens.map SetCookie.tokenPair := by
  have plain : (response.headers.filter fun header => header.1 = "set-cookie") = [] :=
    List.filter_eq_nil_iff.2 fun header member => by simpa using hands.plain header member
  have setting : ((response.cookies.map fun cookie => ("set-cookie", cookie.text)).filter
      fun header => header.1 = "set-cookie") =
        response.cookies.map fun cookie => ("set-cookie", cookie.text) := by
    refine List.filter_eq_self.2 fun header member => ?_
    obtain ⟨cookie, -, rfl⟩ := List.mem_map.1 member
    rfl
  have written : ∀ cookie ∈ response.cookies, cookie.text.toList.takeWhile (· ≠ ';') =
      cookie.name.toList ++ '=' :: cookie.value.toList := by
    intro cookie member
    have among : (cookie.name, cookie.value) ∈
        tokens.map fun token => (SetCookie.tokenName token.1, token.2) :=
      hands.cookies ▸ List.mem_map_of_mem member
    obtain ⟨token, handed, same⟩ := List.mem_map.1 among
    obtain ⟨name, value⟩ := Prod.mk.inj same
    obtain ⟨claims, issued⟩ := hands.issued token handed
    refine SetCookie.takeWhile_text ?_ ?_
    · exact name ▸ SetCookie.tokenName_noSemicolon token.1
    · rw [← value, issued]
      exact Carrier.noSemicolon_issue codec claims
  have pairs := congrArg (List.map fun pair => pair.1.toList ++ '=' :: pair.2.toList) hands.cookies
  rw [List.map_map, List.map_map] at pairs
  rw [Response.setPairs, Response.allHeaders, List.filter_append, plain, setting, List.nil_append,
    List.map_map]
  exact (List.map_congr_left written).trans pairs

/-- What comes back under the name of a token is the token. -/
theorem value_of_named (hands : response.HandsOut codec tokens) {kind : TokenKind} {token : String}
    (handed : (kind, token) ∈ tokens) {headers : Headers} {lists : List (List SentCookie)}
    (sends : headers.SendsBack response lists) {cookie : SentCookie}
    (among : cookie ∈ lists.flatten) (named : cookie.name = (SetCookie.tokenName kind).toList) :
    cookie.value = token.toList := by
  have noSign : '=' ∉ cookie.name := named ▸ SetCookie.tokenName_noSign kind
  rcases sends.others cookie among with own | other
  · rw [hands.setPairs_eq] at own
    obtain ⟨⟨kind', token'⟩, handed', same⟩ := List.mem_map.1 own
    obtain ⟨name, value⟩ := SentCookie.pair_inj (SetCookie.tokenName_noSign kind') noSign same
    obtain rfl : kind' = kind :=
      SetCookie.tokenName_injective (String.toList_inj.1 (name.trans named))
    have tokens := List.inj_on_of_nodup_map hands.kinds handed' handed rfl
    rw [← value, (Prod.mk.inj tokens).2]
  · have set : SetCookie.tokenPair (kind, token) ∈ response.setPairs :=
      hands.setPairs_eq ▸ List.mem_map_of_mem handed
    refine absurd ?_ (other _ set)
    rw [SetCookie.tokenPair, SentCookie.takeWhile_pair _ _ (SetCookie.tokenName_noSign kind), named]

/-- **A token that is handed out in a cookie is the token of the next request**, wherever its cookie
stands. -/
theorem token? (hands : response.HandsOut codec tokens) {kind : TokenKind} {token : String}
    (handed : (kind, token) ∈ tokens) {headers : Headers} {lists : List (List SentCookie)}
    (sends : headers.SendsBack response lists) : Carrier.token? headers kind = some token := by
  obtain ⟨claims, issued⟩ : ∃ claims, token = codec.issue claims := hands.issued _ handed
  have visible : ∀ character ∈ token.toList, Text.IsVisible character :=
    issued ▸ Carrier.isVisible_issue codec claims
  have nonempty : token.toList ≠ [] := issued ▸ Carrier.issue_ne_nil codec claims
  clear issued
  have value : ∀ cookie ∈ lists.flatten, cookie.name = (SetCookie.tokenName kind).toList →
      cookie.read.2 = token.toList := by
    intro cookie among named
    have blank : ∀ character ∈ [] ++ cookie.after, Text.isBlank character = true :=
      fun character member =>
        ((sends.formed cookie among).spacing character (List.mem_append_right _ member)).isBlank
    rw [SentCookie.read, hands.value_of_named handed sends among named]
    exact Text.trimBoth_of_visible blank visible
  obtain ⟨own, among, same⟩ : ∃ cookie ∈ lists.flatten,
      cookie.pair = SetCookie.tokenPair (kind, token) :=
    sends.all _ (hands.setPairs_eq ▸ List.mem_map_of_mem handed)
  have named : own.name = (SetCookie.tokenName kind).toList := by
    have noSign : '=' ∉ own.name := fun member => ((sends.formed own among).name '=' member).2.1 rfl
    exact (SentCookie.pair_inj noSign (SetCookie.tokenName_noSign kind) same).1
  have carried : Carrier.cookieToken? headers kind = some token := by
    rw [Carrier.cookieToken?, SentCookie.cookies_of_sent sends.sent sends.formed]
    -- a cookie of the name is found, and it need not be the one that was set, but has its value
    cases found : (lists.flatten.map SentCookie.read).find? fun cookie =>
        cookie.1 = (SetCookie.tokenName kind).toList && !cookie.2.isEmpty with
    | none =>
      refine absurd ?_ (List.find?_eq_none.1 found _ (List.mem_map_of_mem among))
      rw [value own among named, SentCookie.read, named]
      simpa using nonempty
    | some pair =>
      obtain ⟨cookie, among', rfl⟩ := List.mem_map.1 (List.mem_of_find?_eq_some found)
      have named' := List.find?_some found
      simp only [Bool.and_eq_true, decide_eq_true_eq] at named'
      rw [Option.map_some, value cookie among' named'.1, String.ofList_toList]
  rw [Carrier.token?, Carrier.headerToken?, sends.bare kind, carried]
  rfl

end Response.HandsOut

end DualToken
