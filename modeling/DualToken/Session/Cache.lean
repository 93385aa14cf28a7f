import DualToken.Token.Claims

/-!
# Current tokens of each session

The cache remembers, for every login session, the access token and the secret token that are
current, and when the session is over. It is a help for logging out and no authority: what has been
revoked is decided elsewhere.

A slot keeps what it held after it has been emptied, beside the note that it is dead. An entry whose
time is over reads as empty, and such entries are dropped whenever a session is added.
-/

set_option autoImplicit false

namespace DualToken

/-- The current token of one kind. -/
structure TokenSlot where
  /-- The token that was put in last. -/
  value : Option String := none
  /-- Whether it is still current. -/
  isLive : Bool := false
  deriving DecidableEq, Repr

namespace TokenSlot

/-- The slot with a current token. -/
def set (token : String) : TokenSlot := ⟨some token, true⟩

def get? (slot : TokenSlot) : Option String :=
  if slot.isLive then slot.value else none

/-- The slot without a current token. -/
def kill (slot : TokenSlot) : TokenSlot := { slot with isLive := false }

end TokenSlot

/-- The tokens and the end of a session. -/
structure SessionEntry where
  /-- The slot of the access token. -/
  access : TokenSlot := {}
  /-- The slot of the secret token. -/
  secret : TokenSlot := {}
  /-- The second from which on the session is over. -/
  expiresAt : Int64 := 0
  deriving DecidableEq, Repr

namespace SessionEntry

/-- Whether the session is over. -/
def isExpiredAt (entry : SessionEntry) (now : Int) : Bool :=
  entry.expiresAt.toInt ≤ now

/-- The slot of a kind. -/
def slot (entry : SessionEntry) : TokenKind → TokenSlot
  | .access => entry.access
  | .secret => entry.secret

/-- The entry with another slot of a kind. -/
def withSlot (entry : SessionEntry) (kind : TokenKind) (slot : TokenSlot) : SessionEntry :=
  match kind with
  | .access => { entry with access := slot }
  | .secret => { entry with secret := slot }

end SessionEntry

/-- The entries of all sessions, one for each. -/
structure SessionCache where
  entries : List (String × SessionEntry) := []
  deriving DecidableEq, Repr

namespace SessionCache

/-- The entry of a session. -/
def entry? (cache : SessionCache) (session : String) : Option SessionEntry :=
  cache.entries.lookup session

/-- The cache without a session. -/
def erase (cache : SessionCache) (session : String) : SessionCache :=
  ⟨cache.entries.filter (·.1 ≠ session)⟩

/-- The cache with an entry in the place of any other of its session. -/
def put (cache : SessionCache) (session : String) (entry : SessionEntry) : SessionCache :=
  ⟨(session, entry) :: (cache.erase session).entries⟩

/-- The cache without the sessions that are over. -/
def prune (cache : SessionCache) (now : Int) : SessionCache :=
  ⟨cache.entries.filter fun entry => !entry.2.isExpiredAt now⟩

/-- Makes a token current. The token before it simply stops being current, and the end of the
session never moves back. -/
def set (cache : SessionCache) (session : String) (kind : TokenKind) (token : String)
    (expiresAt : Int64) (now : Int) : SessionCache :=
  let kept := if (cache.entry? session).isSome then cache else cache.prune now
  let entry := (kept.entry? session).getD {}
  kept.put session
    ({ entry with expiresAt := max entry.expiresAt expiresAt }.withSlot kind (.set token))

/-- The current token of a session, unless the session is over. -/
def get? (cache : SessionCache) (session : String) (kind : TokenKind) (now : Int) :
    Option String :=
  (cache.entry? session).bind fun entry =>
    if entry.isExpiredAt now then none else (entry.slot kind).get?

/-- Empties a slot and hands back what was current in it. -/
def blacklist (cache : SessionCache) (session : String) (kind : TokenKind) :
    Option String × SessionCache :=
  match cache.entry? session with
  | none => (none, cache)
  | some entry =>
    ((entry.slot kind).get?, cache.put session (entry.withSlot kind (entry.slot kind).kill))

/-- Drops a session and hands back both tokens that were current in it. -/
def clear (cache : SessionCache) (session : String) :
    (Option String × Option String) × SessionCache :=
  match cache.entry? session with
  | none => ((none, none), cache)
  | some entry => ((entry.access.get?, entry.secret.get?), cache.erase session)

end SessionCache

end DualToken
