import DualToken.Proofs.Http.Origin
import DualToken.Proofs.Service.Opening
import DualToken.Proofs.Time.HttpDate

/-!
# How long cookies last

A client learns of a token from the text of a header, which it takes apart at the semicolons: the
first part has the name and the value, and one of the others the date (`SetCookie.read?`). What the
service writes is read back whole (`SetCookie.read?_text`), the date by `HttpDate.read?_write`.

The date of a cookie is counted from the configured lifetime of its kind, and the end of the token
in it by the service that hands the token out (`Arrival.Ends`). At a login the two are one
(`Arrival.Ends.pair`). An access token that is minted for a secret token ends with the secret token
at the latest (`Arrival.Ends.reissued`), while its cookie is dated as if it did not. So what the
texts of headers promise of tokens is that no cookie ends before its token
(`cookies_last_as_tokens`), and near the end of a session cookies outlast their tokens
(`late_refresh_outlasts_token`).
-/

set_option autoImplicit false

namespace DualToken

open Operation

/-! ## Reading what a header sets -/

/-- What a client keeps of a header that sets a cookie. -/
structure KeptCookie where
  name : String
  value : String
  /-- The time from which on the cookie is gone, if the header says one. -/
  expires : Option Int
  deriving DecidableEq, Repr

namespace SetCookie

/-- The value of the first attribute of a name. -/
def attribute? (attributes : List (List Char)) (name : String) : Option String :=
  ((attributes.filterMap Carrier.pair?).find? (·.1 = name.toList)).map fun found =>
    String.ofList found.2

/-- What a client reads of the text of a header that sets a cookie. -/
def read? (text : String) : Option KeptCookie :=
  match Carrier.parts text.toList with
  | [] => none
  | first :: attributes =>
    (Carrier.pair? first).map fun (name, value) =>
      { name := String.ofList name, value := String.ofList value
        expires := (attribute? attributes "Expires").bind HttpDate.read? }

/-- The parts of the text of a header. -/
def textParts (cookie : SetCookie) : List (List Char) :=
  [cookie.name.toList ++ '=' :: cookie.value.toList, " HttpOnly".toList,
      " SameSite=Strict".toList] ++
    (if cookie.isSecure then [" Secure".toList] else []) ++
    [" Path=/".toList, " Expires=".toList ++ (HttpDate.write cookie.expires).toList]

theorem toList_text (cookie : SetCookie) :
    cookie.text.toList = [';'].intercalate cookie.textParts := by
  have sign : "=".toList = ['='] := by decide
  have first : "; HttpOnly; SameSite=Strict".toList =
      ';' :: " HttpOnly".toList ++ ';' :: " SameSite=Strict".toList := by decide
  have secure : "; Secure".toList = ';' :: " Secure".toList := by decide
  have last : "; Path=/; Expires=".toList =
      ';' :: " Path=/".toList ++ ';' :: " Expires=".toList := by decide
  rw [text, textParts]
  split
  · simp only [String.toList_append, sign, first, secure, last]
    simp [List.intercalate]
  · simp only [String.toList_append, sign, first, last]
    simp [List.intercalate]

/-- The value of a cookie can stand in a header: its characters are visible, and none separates. -/
def IsPlain (value : String) : Prop :=
  ∀ character ∈ value.toList, Text.IsVisible character ∧ character ≠ ';'

theorem isPlain_issue (codec : Codec) (claims : Claims) : IsPlain (codec.issue claims) :=
  fun character member => ⟨Carrier.isVisible_issue codec claims character member,
    fun sign => Carrier.noSemicolon_issue codec claims (sign ▸ member)⟩

variable {cookie : SetCookie} {kind : TokenKind}

/-- The parts are recovered from the text. -/
theorem parts_text (named : cookie.name = tokenName kind) (isPlain : IsPlain cookie.value) :
    Carrier.parts cookie.text.toList = cookie.textParts := by
  have pair : ';' ∉ cookie.name.toList ++ '=' :: cookie.value.toList := by
    simp only [List.mem_append, List.mem_cons, not_or]
    refine ⟨named ▸ tokenName_noSemicolon kind, by decide, fun member => ?_⟩
    exact (isPlain ';' member).2 rfl
  have date : ';' ∉ " Expires=".toList ++ (HttpDate.write cookie.expires).toList := by
    rw [List.mem_append, not_or]
    exact ⟨by decide, HttpDate.semicolon_notMem_write cookie.expires⟩
  have separate : ∀ part ∈ cookie.textParts, ';' ∉ part := by
    have fixed : ';' ∉ " HttpOnly".toList ∧ ';' ∉ " SameSite=Strict".toList ∧
        ';' ∉ " Secure".toList ∧ ';' ∉ " Path=/".toList := by decide
    obtain ⟨first, second, third, fourth⟩ := fixed
    rw [textParts]
    split
    · simp only [List.forall_mem_append, List.forall_mem_cons]
      exact ⟨⟨⟨pair, first, second, nofun⟩, third, nofun⟩, fourth, date, nofun⟩
    · simp only [List.forall_mem_append, List.forall_mem_cons]
      exact ⟨⟨⟨pair, first, second, nofun⟩, nofun⟩, fourth, date, nofun⟩
  have some : cookie.textParts ≠ [] := List.cons_ne_nil _ _
  rw [toList_text, Carrier.parts, List.splitOn_intercalate ';' separate some]

/-- A date has no blanks around it. -/
theorem trimBoth_write (time : Int) :
    Text.trimBoth (HttpDate.write time).toList = (HttpDate.write time).toList := by
  obtain ⟨middle, split⟩ := HttpDate.exists_toList_write time
  generalize (HttpDate.write time).toList = text at split
  subst split
  have weekdays : ∀ day < 7, ((HttpDate.weekdayNames.getD day "").toList ++ [',']).head?.all
      (!Text.isBlank ·) = true := by decide +kernel
  have zone : "GMT".toList.getLast? = some 'T' := by decide
  have nothing : ∀ character ∈ ([] ++ [] : List Char), Text.isBlank character = true := nofun
  have front : ∀ first, (HttpDate.weekdayPart (time / 86400) ++ (middle ++ "GMT".toList)).head? =
      some first → Text.isBlank first = false := by
    intro first starts
    have seen := weekdays (Calendar.weekday (time / 86400)) (by rw [Calendar.weekday]; omega)
    rw [HttpDate.weekdayPart, List.head?_append_of_ne_nil _ (by simp)] at starts
    rw [starts] at seen
    simpa using seen
  have back : ∀ last, (HttpDate.weekdayPart (time / 86400) ++ (middle ++ "GMT".toList)).getLast? =
      some last → Text.isBlank last = false := by
    intro last ends
    rw [← List.append_assoc, List.getLast?_append_of_ne_nil _ (by decide), zone] at ends
    obtain rfl := Option.some.inj ends
    decide
  obtain ⟨start, stop⟩ := Text.trimEnds_of_bounded front back
  have alone := Text.trimBoth_padded nothing start stop
  rwa [List.nil_append, List.append_nil] at alone

/-- The attribute with the time is the one that is found. -/
theorem attribute?_textParts (cookie : SetCookie) :
    attribute? cookie.textParts.tail "Expires" = some (HttpDate.write cookie.expires) := by
  have noSign : '=' ∉ " Expires".toList := by decide
  have shape : " Expires=".toList ++ (HttpDate.write cookie.expires).toList =
      " Expires".toList ++ '=' :: (HttpDate.write cookie.expires).toList := by
    have sign : " Expires=".toList = " Expires".toList ++ ['='] := by decide
    rw [sign, List.append_assoc]
    rfl
  have date : Carrier.pair? (" Expires=".toList ++ (HttpDate.write cookie.expires).toList) =
      some ("Expires".toList, (HttpDate.write cookie.expires).toList) := by
    have name : Text.trimBoth " Expires".toList = "Expires".toList := by decide
    rw [shape, SentCookie.pair?_append noSign, name, trimBoth_write]
    exact if_neg (by decide)
  have only : Carrier.pair? " HttpOnly".toList = none := by decide
  have site : Carrier.pair? " SameSite=Strict".toList =
      some ("SameSite".toList, "Strict".toList) := by decide
  have secure : Carrier.pair? " Secure".toList = none := by decide
  have path : Carrier.pair? " Path=/".toList = some ("Path".toList, "/".toList) := by decide
  have found : (cookie.textParts.tail.filterMap Carrier.pair?) =
      [("SameSite".toList, "Strict".toList), ("Path".toList, "/".toList),
        ("Expires".toList, (HttpDate.write cookie.expires).toList)] := by
    rw [textParts]
    split
    · simp only [List.cons_append, List.nil_append, List.tail_cons, List.filterMap_cons, only, site,
        secure, path, date, List.filterMap_nil]
    · simp only [List.cons_append, List.nil_append, List.tail_cons, List.filterMap_cons, only, site,
        path, date, List.filterMap_nil]
  rw [attribute?, found, List.find?_cons_of_neg (by decide), List.find?_cons_of_neg (by decide),
    List.find?_cons_of_pos (by simp), Option.map_some, String.ofList_toList]

/-- **A client reads the name, the value and the time of a cookie** that holds a token or is taken
away. -/
theorem read?_text (named : cookie.name = tokenName kind) (isPlain : IsPlain cookie.value) :
    read? cookie.text = some ⟨cookie.name, cookie.value, some cookie.expires⟩ := by
  have nothing : ∀ character ∈ ([] ++ [] : List Char), Text.isBlank character = true := nofun
  have value := Text.trimBoth_of_visible nothing fun character member =>
    (isPlain character member).1
  have names : ∀ kind, Text.trimBoth (tokenName kind).toList = (tokenName kind).toList ∧
      (tokenName kind).toList.isEmpty = false := by
    rintro (_ | _) <;> decide
  obtain ⟨name, some⟩ := names kind
  have first : Carrier.pair? (cookie.name.toList ++ '=' :: cookie.value.toList) =
      .some (cookie.name.toList, cookie.value.toList) := by
    rw [List.nil_append, List.append_nil] at value
    rw [named, SentCookie.pair?_append (tokenName_noSign kind), name, some, value]
    rfl
  have date := attribute?_textParts cookie
  have parts : cookie.textParts = (cookie.name.toList ++ '=' :: cookie.value.toList) ::
      cookie.textParts.tail := rfl
  rw [read?, parts_text named isPlain, parts]
  dsimp only
  rw [first, date, Option.bind_some, HttpDate.read?_write, Option.map_some]
  simp only [String.ofList_toList]

end SetCookie

/-! ## Cookies with tokens -/

namespace Service

/-- The cookies of a service last as long as its tokens are made to last. -/
theorem lifetime_cookies {settings : AuthSettings} {secure : Bool} {backend : RevocationBackend}
    {hashCost : Nat} {service : Service}
    (set : ofSettings settings secure backend hashCost = .ok service) (kind : TokenKind) :
    service.cookies.lifetime kind = service.lifetime kind := by
  obtain ⟨codec, -, rfl⟩ := exists_eq_of_ofSettings set
  cases kind <;> rfl

end Service

namespace Arrival

variable {arrival : Arrival} {response : Response} {cookie : SetCookie}

/-- The cookie holds a token that is issued for the claims, and it lasts as long as the cookies of
the kind do. -/
structure Holds (arrival : Arrival) (cookie : SetCookie) (claims : Claims) : Prop where
  named : cookie.name = SetCookie.tokenName claims.kind
  issued : cookie.value = arrival.service.codec.issue claims
  expires : cookie.expires = arrival.state.now + arrival.service.cookies.lifetime claims.kind

/-- The time at which a token that is handed out in answer to a request ends. -/
inductive Ends (arrival : Arrival) (claims : Claims) : Prop
  /-- A token of a login lasts for the lifetime of its kind. -/
  | pair (posts : arrival.Posts .login)
      (counted : claims.exp.toInt = arrival.state.now + arrival.service.lifetime claims.kind)
  /-- An access token for the secret token of the request lasts for the lifetime of its kind, or
  until the secret token ends if that is earlier. -/
  | reissued {secretToken : String} {secret : Claims} (kind : claims.kind = .access)
      (carried : arrival.request.secretToken? = some secretToken)
      (decoded : arrival.service.codec.decodeAt secretToken .secret arrival.state.now = .ok secret)
      (cut : claims.exp.toInt =
        min (arrival.state.now + arrival.service.lifetime claims.kind) secret.exp.toInt)

theorem holds_tokenCookie {kind : TokenKind} {token : String} {claims : Claims}
    (issued : token = arrival.service.codec.issue claims) (ofKind : claims.kind = kind) :
    arrival.Holds (arrival.service.cookies.tokenCookie kind token arrival.state.now) claims := by
  subst ofKind
  exact ⟨rfl, issued, rfl⟩

/-- **Every cookie that is set holds a token that ends in one of the two ways**, or takes one
away. -/
theorem exists_holds (ok : arrival.outcome = .ok response) (member : cookie ∈ response.cookies) :
    cookie.value = "" ∨ ∃ claims, arrival.Holds cookie claims ∧ arrival.Ends claims := by
  have sets := sets_cookies ok
  generalize response.cookies = jar at sets member
  cases sets with
  | nothing => exact absurd member List.not_mem_nil
  | cleared posts set => exact .inl (CookiePolicy.of_mem_clear? set member)
  | @pair credentials pair _ posts read loggedIn set =>
    obtain ⟨user, claims, new⟩ := State.exists_isNewToken_of_login loggedIn
    have ends (kind : TokenKind) : arrival.Ends (claims kind) := by
      refine .pair posts ?_
      rw [(new kind).ofKind]
      exact (new kind).expiry
    obtain ⟨-, rfl⟩ := CookiePolicy.setPair?_eq_some_iff.1 set
    simp only [List.mem_cons, List.not_mem_nil, or_false] at member
    rcases member with rfl | rfl
    · exact .inr ⟨_, holds_tokenCookie (new .access).issued (new .access).ofKind, ends .access⟩
    · exact .inr ⟨_, holds_tokenCookie (new .secret).issued (new .secret).ofKind, ends .secret⟩
  | @refreshed secretToken access _ posts carried given set =>
    obtain ⟨secret, minted, user, reissue⟩ := (State.Reissues.refresh given).exists_reissue
    obtain ⟨-, rfl⟩ := CookiePolicy.setAccess?_eq_some_iff.1 set
    obtain rfl := List.mem_singleton.1 member
    refine .inr ⟨minted, holds_tokenCookie reissue.issued reissue.kind,
      .reissued reissue.kind carried reissue.decoded ?_⟩
    rw [reissue.kind]
    exact reissue.expiry
  | @renewed renewed _ renews set =>
    obtain ⟨token, secretToken, access, secret, minted, replaces⟩ := renews.exists_replaces
    obtain ⟨passed, log, user, now, reissue⟩ := replaces.reissue
    obtain ⟨-, rfl⟩ := CookiePolicy.setAccess?_eq_some_iff.1 set
    obtain rfl := List.mem_singleton.1 member
    have carried : arrival.request.secretToken? = some secretToken := by
      rw [Request.secretToken?, replaces.carried, Option.some_or]
    refine .inr ⟨minted, holds_tokenCookie reissue.issued reissue.kind,
      .reissued reissue.kind carried (now ▸ reissue.decoded) ?_⟩
    rw [reissue.kind, ← now]
    exact reissue.expiry

/-- What a client reads of a cookie that holds a token. -/
theorem Holds.read {claims : Claims} (holds : arrival.Holds cookie claims) :
    SetCookie.read? cookie.text =
      some ⟨SetCookie.tokenName claims.kind, cookie.value, some cookie.expires⟩ := by
  have isPlain : SetCookie.IsPlain cookie.value := by
    rw [holds.issued]
    exact SetCookie.isPlain_issue _ _
  rw [← holds.named]
  exact SetCookie.read?_text holds.named isPlain

end Arrival

/-! ## A late refresh -/

/-- The request that refreshes with a secret token. -/
def Request.toRefresh (secretToken : String) : Request :=
  { method := "POST", target := "/api/v1/refresh"
    headers := [("Authorization-X", Text.utf8 secretToken)] }

theorem Arrival.posts_toRefresh (service : Service) (state : State) (secretToken : String) :
    Posts ⟨service, state, .toRefresh secretToken⟩ .refresh := by
  have found :
      Route.ofPath? (Request.path ⟨"POST", "/api/v1/refresh", [], []⟩) = some .refresh := by
    decide
  exact ⟨found, rfl⟩

theorem Request.secretToken?_toRefresh (codec : Codec) (secret : Claims) :
    (toRefresh (codec.issue secret)).secretToken? = some (codec.issue secret) := by
  have lower : "Authorization-X".map Char.toLower = "authorization-x" := by decide +kernel
  have header : (toRefresh (codec.issue secret)).headers.valuesOf (Carrier.headerName .secret) =
      [Text.utf8 (codec.issue secret)] := by
    simp only [toRefresh, Headers.valuesOf, Carrier.headerName, List.filter_cons, lower]
    simp
  rw [secretToken?, Carrier.token?_issue header, Option.some_or]

/-- A refresh that gives a token is answered, if the dates of the cookie can be written. -/
theorem Arrival.refresh_answered {arrival : Arrival} {secretToken access : String}
    (posts : arrival.Posts .refresh) (carried : arrival.request.secretToken? = some secretToken)
    (given : arrival.result (arrival.service.refresh secretToken) = .ok access)
    (dates : arrival.service.cookies.CanDate .access arrival.state.now) :
    ∃ response, arrival.outcome = .ok response ∧ response.cookies =
      [arrival.service.cookies.tokenCookie .access access arrival.state.now] := by
  have now := (State.Ends.run arrival.service
    (Service.ends_refresh arrival.service arrival.state secretToken)).2.now
  have set := CookiePolicy.setAccess?_eq_some_iff.2 ⟨dates, Eq.refl
    [arrival.service.cookies.tokenCookie .access access arrival.state.now]⟩
  have served : (arrival.state.run arrival.service
      (Route.refresh.serve arrival.service arrival.request)).1 =
        .ok { Response.ofJson 200 (TokenPair.json ⟨access, secretToken⟩) with
          cookies := [arrival.service.cookies.tokenCookie .access access arrival.state.now] } := by
    rw [Route.serve_refresh posts.posted carried, (State.run_bind_ok given _).1,
      ((State.goes_clock _).run_bind _).1, now, set]
    rfl
  rw [outcome,
    (State.run_respond arrival.service arrival.state posts.found posts.noPreflight).1, served]
  exact ⟨_, rfl, Router.cookies_finish _ _ _⟩

/-- A session is refreshed a minute before its end, where access tokens last for fifteen minutes. -/
theorem Arrival.exists_late_refresh : ∃ (settings : AuthSettings) (service : Service)
    (state : State) (request : Request) (response : Response) (cookie : SetCookie)
    (minted : Claims),
    Service.ofSettings settings true .table 4 = .ok service ∧
      Arrival.outcome ⟨service, state, request⟩ = .ok response ∧ cookie ∈ response.cookies ∧
      cookie.value ≠ "" ∧ Arrival.Holds ⟨service, state, request⟩ cookie minted ∧
      cookie.expires = 87300 ∧ minted.exp.toInt = 86460 := by
  obtain ⟨ready, start, credentials, row, user, isReady, -⟩ := State.exists_isReady .customer
  obtain ⟨settings, codec, -, -, set⟩ := Service.exists_ofSettings
  let service : Service := ⟨codec, 900, 86400, 15, ⟨true, 900, 86400⟩, .table, 4⟩
  let state : State := { start with now := 86400 }
  let secret : Claims := Claims.forUser user "session" "name" .secret 60 86460
  have whole : state.IsWhole service {} := isReady.whole.later rfl 86400 _ _ _
  have running : (86400 : Int) < (Int64.ofInt 86460).toInt := by decide
  have decoded : service.codec.decodeAt (service.codec.issue secret) .secret state.now =
      .ok secret := Codec.decodeAt_issue_of_lt (Int.natCast_nonneg 86400) running
  have within : Time.add? 86400 900 = some 87300 := by decide
  obtain ⟨calls, refreshes⟩ := whole.goes_refresh rfl decoded isReady.byId
    (State.matchesUser_forUser user _ _ _ _ _) within rfl
  have given := congrArg Prod.fst refreshes.run
  obtain ⟨secret', minted, user', reissue⟩ := (State.Reissues.refresh given).exists_reissue
  obtain rfl : secret = secret' := Except.ok.inj (decoded.symm.trans reissue.decoded)
  let arrival : Arrival := ⟨service, state, .toRefresh (service.codec.issue secret)⟩
  have dates : arrival.service.cookies.CanDate .access arrival.state.now := by
    have writable : HttpDate.IsWritable 86400 ∧ HttpDate.IsWritable 87300 := by decide
    exact writable
  have posts : arrival.Posts .refresh := posts_toRefresh _ _ _
  obtain ⟨response, ok, cookies⟩ :=
    Arrival.refresh_answered posts (Request.secretToken?_toRefresh _ _) given dates
  have holds : arrival.Holds _ minted := holds_tokenCookie reissue.issued reissue.kind
  refine ⟨settings, service, state, _, response, _, minted, set, ok,
    cookies ▸ List.mem_singleton_self _, ?_, holds, rfl, ?_⟩
  · rw [holds.issued]
    exact fun empty => Carrier.issue_ne_nil _ _ (congrArg String.toList empty)
  · have cut : min (86400 + 900 : Int) (Int64.ofInt 86460).toInt = 86460 := by decide
    exact reissue.expiry.trans cut

/-! ## Cookies and their tokens -/

/-- **The date of a cookie is that of its token, unless the token is cut short.** A service is set
up with any settings, and a response to any request, in any state, sets a cookie that is not empty.
Then a client that reads the text of the header finds the name of a kind of token, a token that says
claims of this kind, and a date; and the date is the time of the request and the lifetime of the
kind. If the request is a login the token ends at this date. Otherwise it is an access token for the
secret token of the request: it ends at this date or with the secret token, whichever is earlier, so
the cookie never ends before its token, and it ends later exactly if the secret token has less time
left than access tokens get. -/
theorem cookies_last_as_tokens {settings : AuthSettings} {secure : Bool}
    {backend : RevocationBackend} {hashCost : Nat} {service : Service}
    (set : Service.ofSettings settings secure backend hashCost = .ok service) {state : State}
    {request : Request} {response : Response}
    (ok : Arrival.outcome ⟨service, state, request⟩ = .ok response) {cookie : SetCookie}
    (member : cookie ∈ response.cookies) (nonempty : cookie.value ≠ "") :
    ∃ (claims : Claims) (expires : Int),
      SetCookie.read? cookie.text =
          some ⟨SetCookie.tokenName claims.kind, cookie.value, some expires⟩ ∧
        service.codec.Says cookie.value claims ∧
        expires = state.now + service.lifetime claims.kind ∧
        (Arrival.Posts ⟨service, state, request⟩ .login ∧ claims.exp.toInt = expires ∨
          claims.kind = .access ∧ ∃ secretToken secret,
            request.secretToken? = some secretToken ∧
              service.codec.decodeAt secretToken .secret state.now = .ok secret ∧
              claims.exp.toInt = min expires secret.exp.toInt) := by
  obtain empty | ⟨claims, holds, ends⟩ := Arrival.exists_holds ok member
  · exact absurd empty nonempty
  · have expires : cookie.expires = state.now + service.lifetime claims.kind :=
      Service.lifetime_cookies set claims.kind ▸ holds.expires
    refine ⟨claims, cookie.expires, holds.read, ?_, expires, ?_⟩
    · rw [holds.issued]
      exact service.codec.says_issue claims
    · rw [expires]
      cases ends with
      | pair posts counted => exact .inl ⟨posts, counted⟩
      | reissued kind carried decoded cut => exact .inr ⟨kind, _, _, carried, decoded, cut⟩

/-- A refresh a minute before the secret token ends sets a cookie that lasts fifteen minutes. -/
theorem late_refresh_outlasts_token : ∃ (settings : AuthSettings) (service : Service)
    (state : State) (request : Request) (response : Response) (cookie : SetCookie),
    Service.ofSettings settings true .table 4 = .ok service ∧
      Arrival.outcome ⟨service, state, request⟩ = .ok response ∧ cookie ∈ response.cookies ∧
      cookie.value ≠ "" ∧ ∃ (claims : Claims) (expires : Int),
        SetCookie.read? cookie.text =
            some ⟨SetCookie.tokenName claims.kind, cookie.value, some expires⟩ ∧
          service.codec.Says cookie.value claims ∧
          expires = state.now + service.lifetime claims.kind ∧
          expires = 87300 ∧ claims.exp.toInt = 86460 := by
  obtain ⟨settings, service, state, request, response, cookie, minted, set, ok, member, nonempty,
    holds, expires, ends⟩ := Arrival.exists_late_refresh
  obtain ⟨claims, date, read, said, counted, -⟩ :=
    cookies_last_as_tokens set ok member nonempty
  have same : claims = minted := said.unique (holds.issued ▸ service.codec.says_issue minted)
  have kept : cookie.expires = date := by
    have both := holds.read.symm.trans read
    simp only [Option.some.injEq, KeptCookie.mk.injEq] at both
    exact both.2.2
  exact ⟨settings, service, state, request, response, cookie, set, ok, member, nonempty, claims,
    date, read, said, counted, kept ▸ expires, same ▸ ends⟩

/-- The date of a cookie is not always the end of the token in it. -/
theorem not_cookies_end_as_tokens : ¬ ∀ (settings : AuthSettings) (secure : Bool)
    (backend : RevocationBackend) (hashCost : Nat) (service : Service),
    Service.ofSettings settings secure backend hashCost = .ok service →
    ∀ (state : State) (request : Request) (response : Response),
      Arrival.outcome ⟨service, state, request⟩ = .ok response →
      ∀ cookie ∈ response.cookies, cookie.value ≠ "" →
        ∀ (claims : Claims) (kept : KeptCookie), service.codec.Says cookie.value claims →
          SetCookie.read? cookie.text = some kept → kept.expires = some claims.exp.toInt := by
  intro always
  obtain ⟨settings, service, state, request, response, cookie, minted, set, ok, member, nonempty,
    holds, expires, ends⟩ := Arrival.exists_late_refresh
  have said : service.codec.Says cookie.value minted :=
    holds.issued ▸ service.codec.says_issue minted
  have equal : some cookie.expires = some minted.exp.toInt := always settings true .table 4 service
    set state request response ok cookie member nonempty minted _ said holds.read
  rw [expires, ends] at equal
  exact absurd equal (by decide)

end DualToken
