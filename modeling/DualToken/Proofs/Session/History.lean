import Mathlib.Data.List.Induction
import DualToken.Proofs.Session.Cache

/-!
# The cache as its history tells it

What the cache shows of a slot can be told from what was done with the cache: the latest that was
done to the slot was that a token was made current (`Latest`), and the session is not over. The
cache itself keeps less, because sessions that are over are dropped when another is added, and
more, because a slot keeps a dead value. Neither is ever seen.

A cache follows its history (`Follows`) when a token that it holds is the latest of its slot, and
the latest token of a slot is held as long as the session is not over. Every use preserves this
while the clock does not go back and the sessions keep their ends (`follows_after`), and what the
cache shows and hands back is read off what it holds (`pruning_invisible`).
-/

set_option autoImplicit false

namespace DualToken.SessionCache

/-! ## Uses -/

/-- Something that is done with the cache. -/
inductive Use where
  /-- A token is made current in a session with an end. -/
  | set (session : String) (kind : TokenKind) (token : String) (expiresAt : Int64)
  | get (session : String) (kind : TokenKind)
  | blacklist (session : String) (kind : TokenKind)
  | clear (session : String)
  deriving DecidableEq

/-- A use and the time at which it is made. -/
structure Moment where
  now : Int
  use : Use
  deriving DecidableEq

namespace Use

/-- The cache behind a use. -/
def apply (cache : SessionCache) (now : Int) : Use → SessionCache
  | set session kind token expiresAt => cache.set session kind token expiresAt now
  | get _ _ => cache
  | blacklist session kind => (cache.blacklist session kind).2
  | clear session => (cache.clear session).2

/-- The use makes a token current in the slot, or empties it. -/
def Touches (session : String) (kind : TokenKind) : Use → Prop
  | set session' kind' _ _ => session' = session ∧ kind' = kind
  | get _ _ => False
  | blacklist session' kind' => session' = session ∧ kind' = kind
  | clear session' => session' = session

/-- The use gives a session no other end than its own, which is not before the beginning of time. -/
def Respects (ends : String → Int64) : Use → Prop
  | set session _ _ expiresAt => expiresAt = ends session ∧ 0 ≤ expiresAt.toInt
  | _ => True

/-- The token of a slot that a use hands back. -/
def handsBack? (cache : SessionCache) (session : String) (kind : TokenKind) :
    Use → Option String
  | blacklist session' kind' =>
    if session' = session ∧ kind' = kind then (cache.blacklist session' kind').1 else none
  | clear session' =>
    if session' = session then
      match kind with
      | .access => (cache.clear session').1.1
      | .secret => (cache.clear session').1.2
    else none
  | _ => none

end Use

/-- The cache behind a history, which begins with an empty cache. -/
def after (history : List Moment) : SessionCache :=
  history.foldl (fun cache moment => moment.use.apply cache moment.now) {}

/-- The latest that was done to the slot was that the token was made current in it. -/
def Latest (history : List Moment) (session : String) (kind : TokenKind) (token : String) : Prop :=
  ∃ earlier moment later expiresAt, history = earlier ++ moment :: later ∧
    moment.use = .set session kind token expiresAt ∧
    ∀ other ∈ later, ¬ other.use.Touches session kind

section Histories

variable {history : List Moment} {moment : Moment} {session other : String}
  {kind kind' : TokenKind} {token : String}

theorem after_append_singleton (history : List Moment) (moment : Moment) :
    after (history ++ [moment]) = moment.use.apply (after history) moment.now := by
  rw [after, List.foldl_append]
  rfl

theorem not_latest_nil : ¬ Latest [] session kind token := by
  rintro ⟨earlier, moment, later, expiresAt, split, -⟩
  exact absurd split.symm (by simp)

/-- **One more use decides for the slots that it touches**, and changes nothing for the others. -/
theorem latest_append_singleton :
    Latest (history ++ [moment]) session kind token ↔
      (∃ expiresAt, moment.use = .set session kind token expiresAt) ∨
        (¬ moment.use.Touches session kind ∧ Latest history session kind token) := by
  constructor
  · rintro ⟨earlier, made, later, expiresAt, split, isSet, untouched⟩
    rcases List.eq_nil_or_concat later with rfl | ⟨front, last, rfl⟩
    · obtain ⟨rfl, same⟩ := List.append_inj' split rfl
      obtain rfl := List.singleton_inj.1 same
      exact .inl ⟨expiresAt, isSet⟩
    · rw [List.concat_eq_append, ← List.cons_append, ← List.append_assoc] at split
      obtain ⟨rfl, same⟩ := List.append_inj' split rfl
      obtain rfl := List.singleton_inj.1 same
      simp only [List.concat_eq_append, List.forall_mem_append, List.forall_mem_singleton]
        at untouched
      exact .inr ⟨untouched.2, earlier, made, front, expiresAt, rfl, isSet, untouched.1⟩
  · rintro (⟨expiresAt, isSet⟩ | ⟨untouched, earlier, made, later, expiresAt, rfl, isSet, rest⟩)
    · exact ⟨history, moment, [], expiresAt, rfl, isSet, nofun⟩
    · refine ⟨earlier, made, later ++ [moment], expiresAt, by simp, isSet, ?_⟩
      exact List.forall_mem_append.2 ⟨rest, List.forall_mem_singleton.2 untouched⟩

end Histories

/-! ## What is held -/

/-- What is current in a slot, whether or not the session is over. -/
def held? (cache : SessionCache) (session : String) (kind : TokenKind) : Option String :=
  (cache.entry? session).bind fun entry => (entry.slot kind).get?

section Held

variable {cache : SessionCache} {session other : String} {kind kind' : TokenKind}
  {token : String} {expiresAt : Int64} {now : Int}

/-- What is held is shown until the session is over. -/
theorem get?_eq_held? :
    cache.get? session kind now = (cache.entry? session).bind fun entry =>
      if entry.isExpiredAt now then none else cache.held? session kind := by
  rw [get?, held?]
  cases cache.entry? session with
  | none => rfl
  | some entry => rfl

theorem blacklist_fst : (cache.blacklist session kind).1 = cache.held? session kind := by
  rw [blacklist, held?]
  cases cache.entry? session with
  | none => rfl
  | some entry => rfl

theorem clear_fst :
    (cache.clear session).1 = (cache.held? session .access, cache.held? session .secret) := by
  rw [clear, held?, held?]
  cases cache.entry? session with
  | none => rfl
  | some entry => rfl

theorem held?_of_entry?_eq {after : SessionCache}
    (same : after.entry? session = cache.entry? session) :
    after.held? session kind = cache.held? session kind := by
  rw [held?, held?, same]

theorem held?_set_self :
    (cache.set session kind token expiresAt now).held? session kind' =
      if kind' = kind then some token else cache.held? session kind' := by
  rw [held?, entry?_set_self, Option.bind_some, slot_withSlot]
  split
  · rfl
  · rw [held?]
    cases cache.entry? session with
    | none => cases kind' <;> rfl
    | some entry => cases kind' <;> rfl

theorem held?_blacklist :
    (cache.blacklist session kind).2.held? other kind' =
      if session = other ∧ kind = kind' then none else cache.held? other kind' := by
  by_cases same : other = session
  · subst same
    rw [blacklist]
    cases found : cache.entry? other with
    | none =>
      have empty : cache.held? other kind' = none := by rw [held?, found, Option.bind_none]
      simp only [empty, ite_self]
    | some entry =>
      rw [held?, entry?_put_self, Option.bind_some, slot_withSlot, held?, found, Option.bind_some]
      by_cases alike : kind' = kind
      · rw [if_pos alike, if_pos ⟨rfl, alike.symm⟩]
        rfl
      · rw [if_neg alike, if_neg fun both => alike both.2.symm]
  · rw [if_neg fun both => same both.1.symm]
    exact held?_of_entry?_eq (entry?_blacklist_of_ne same)

theorem held?_clear :
    (cache.clear session).2.held? other kind =
      if session = other then none else cache.held? other kind := by
  by_cases same : other = session
  · subst same
    rw [if_pos rfl, held?, entry?_clear_self, Option.bind_none]
  · rw [if_neg (Ne.symm same)]
    exact held?_of_entry?_eq (entry?_clear_of_ne same)

/-- What a use hands back is what is held in a slot that it empties. -/
theorem touches_of_handsBack? {use : Use}
    (handed : use.handsBack? cache session kind = some token) :
    use.Touches session kind ∧ cache.held? session kind = some token := by
  cases use with
  | set session' kind' token' expiresAt => cases handed
  | get session' kind' => cases handed
  | blacklist session' kind' =>
    rw [Use.handsBack?] at handed
    split at handed
    · next same =>
      obtain ⟨rfl, rfl⟩ := same
      exact ⟨⟨rfl, rfl⟩, blacklist_fst ▸ handed⟩
    · cases handed
  | clear session' =>
    simp only [Use.handsBack?, clear_fst] at handed
    split at handed
    · next same =>
      subst same
      cases kind with
      | access => exact ⟨rfl, handed⟩
      | secret => exact ⟨rfl, handed⟩
    · cases handed

/-- Nothing is handed back by a use that makes a token current. -/
theorem not_set_of_handsBack? {use : Use} (handed : use.handsBack? cache session kind = some token)
    (session' : String) (kind' : TokenKind) (token' : String) :
    use ≠ .set session' kind' token' expiresAt := by
  rintro rfl
  cases handed

end Held

/-! ## Following the history -/

/-- The cache holds what the history tells: sessions have their ends, a token that is held is the
latest of its slot, and the latest token of a slot is held unless the session is over. -/
structure Follows (ends : String → Int64) (history : List Moment) (now : Int)
    (cache : SessionCache) : Prop where
  unique : cache.IsUnique
  ending {session : String} {entry : SessionEntry} : cache.entry? session = some entry →
    entry.expiresAt = ends session
  latest {session : String} {kind : TokenKind} {token : String} :
    cache.held? session kind = some token → Latest history session kind token
  /-- Until the session is over, its slots are not forgotten. -/
  held {session : String} {kind : TokenKind} {token : String} :
    Latest history session kind token → now < (ends session).toInt →
      cache.held? session kind = some token

section Following

variable {ends : String → Int64} {history : List Moment} {cache : SessionCache} {now later : Int}

theorem Follows.mono (follows : Follows ends history now cache) (ordered : now ≤ later) :
    Follows ends history later cache :=
  { follows with
    held := fun latest running => follows.held latest (Int.lt_of_le_of_lt ordered running) }

theorem follows_nil (ends : String → Int64) (now : Int) : Follows ends [] now {} where
  unique := List.nodup_nil
  ending := nofun
  latest := nofun
  held := fun latest => absurd latest not_latest_nil

/-- The end of a session is the end that it is given, again or for the first time. -/
theorem max_eq_of_respects {first second : Int64} (known : first = second ∨ first = 0)
    (positive : 0 ≤ second.toInt) : max first second = second := by
  have unfolded : max first second = if first ≤ second then second else first := rfl
  rw [unfolded]
  split
  · rfl
  · next after =>
    rcases known with same | rfl
    · exact same
    · have least : (0 : Int64) ≤ second := Int64.le_iff_toInt_le.2 positive
      exact absurd least after

/-- Making a token current keeps the cache beside its history. -/
theorem Follows.set (follows : Follows ends history now cache) {session : String} {kind : TokenKind}
    {token : String} {expiresAt : Int64}
    (respects : (Use.set session kind token expiresAt).Respects ends) :
    Follows ends (history ++ [⟨now, .set session kind token expiresAt⟩]) now
      (cache.set session kind token expiresAt now) := by
  obtain ⟨rfl, positive⟩ := respects
  refine ⟨follows.unique.set session kind token _ now, ?_, ?_, ?_⟩
  · intro other entry found
    by_cases same : other = session
    · subst same
      rw [entry?_set_self, Option.some.injEq] at found
      rw [← found, expiresAt_withSlot]
      refine max_eq_of_respects ?_ positive
      cases known : cache.entry? other with
      | none => exact .inr rfl
      | some entry => exact .inl (follows.ending known)
    · rcases follows.unique.entry?_set_cases same kind token (ends session) now
        with kept | ⟨gone, -⟩
      · exact follows.ending (kept.symm.trans found)
      · exact absurd (gone.symm.trans found) nofun
  · intro other kind' token' holds
    rw [latest_append_singleton]
    by_cases same : other = session
    · subst same
      rw [held?_set_self] at holds
      split at holds
      · next alike =>
        obtain rfl := Option.some.inj holds
        exact .inl ⟨ends other, by rw [alike]⟩
      · next unlike => exact .inr ⟨fun touches => unlike touches.2.symm, follows.latest holds⟩
    · refine .inr ⟨fun touches => same touches.1.symm, follows.latest ?_⟩
      rcases follows.unique.entry?_set_cases same kind token (ends session) now
        with kept | ⟨gone, -⟩
      · exact (held?_of_entry?_eq kept).symm.trans holds
      · rw [held?, gone] at holds
        cases holds
  · intro other kind' token' latest running
    rcases latest_append_singleton.1 latest with ⟨expiresAt, isSet⟩ | ⟨untouched, latest⟩
    · obtain ⟨rfl, rfl, rfl, -⟩ := Use.set.inj isSet
      rw [held?_set_self, if_pos rfl]
    · have holds := follows.held latest running
      by_cases same : other = session
      · subst same
        rw [held?_set_self, if_neg fun alike => untouched ⟨rfl, alike.symm⟩]
        exact holds
      · rcases follows.unique.entry?_set_cases same kind token (ends session) now with
          kept | ⟨-, entry, found, ended⟩
        · exact (held?_of_entry?_eq kept).trans holds
        · rw [SessionEntry.isExpiredAt, decide_eq_true_eq, follows.ending found] at ended
          exact absurd running (Int.not_lt.2 ended)

/-- Emptying a slot keeps the cache beside its history. -/
theorem Follows.blacklist (follows : Follows ends history now cache) (session : String)
    (kind : TokenKind) :
    Follows ends (history ++ [⟨now, .blacklist session kind⟩]) now
      (cache.blacklist session kind).2 := by
  refine ⟨follows.unique.blacklist session kind, ?_, ?_, ?_⟩
  · intro other entry found
    by_cases same : other = session
    · subst same
      rw [SessionCache.blacklist] at found
      split at found
      · exact follows.ending found
      · next old known =>
        rw [entry?_put_self, Option.some.injEq] at found
        rw [← found, expiresAt_withSlot]
        exact follows.ending known
    · exact follows.ending ((entry?_blacklist_of_ne same).symm.trans found)
  · intro other kind' token holds
    rw [held?_blacklist] at holds
    split at holds
    · cases holds
    · next untouched => exact latest_append_singleton.2 (.inr ⟨untouched, follows.latest holds⟩)
  · intro other kind' token latest running
    rcases latest_append_singleton.1 latest with ⟨expiresAt, isSet⟩ | ⟨untouched, latest⟩
    · cases isSet
    · rw [held?_blacklist]
      exact (if_neg untouched).trans (follows.held latest running)

/-- Dropping a session keeps the cache beside its history. -/
theorem Follows.clear (follows : Follows ends history now cache) (session : String) :
    Follows ends (history ++ [⟨now, .clear session⟩]) now (cache.clear session).2 := by
  refine ⟨follows.unique.clear session, ?_, ?_, ?_⟩
  · intro other entry found
    by_cases same : other = session
    · subst same
      rw [entry?_clear_self] at found
      cases found
    · exact follows.ending ((entry?_clear_of_ne same).symm.trans found)
  · intro other kind token holds
    rw [held?_clear] at holds
    split at holds
    · cases holds
    · next untouched => exact latest_append_singleton.2 (.inr ⟨untouched, follows.latest holds⟩)
  · intro other kind token latest running
    rcases latest_append_singleton.1 latest with ⟨expiresAt, isSet⟩ | ⟨untouched, latest⟩
    · cases isSet
    · rw [held?_clear]
      exact (if_neg untouched).trans (follows.held latest running)

/-- Looking keeps the cache beside its history. -/
theorem Follows.get (follows : Follows ends history now cache) (session : String)
    (kind : TokenKind) : Follows ends (history ++ [⟨now, .get session kind⟩]) now cache := by
  refine ⟨follows.unique, follows.ending, fun holds => ?_, fun latest running => ?_⟩
  · exact latest_append_singleton.2 (.inr ⟨nofun, follows.latest holds⟩)
  · rcases latest_append_singleton.1 latest with ⟨expiresAt, isSet⟩ | ⟨-, latest⟩
    · cases isSet
    · exact follows.held latest running

/-- **Every use keeps the cache beside its history.** -/
theorem Follows.apply (follows : Follows ends history now cache) {use : Use}
    (respects : use.Respects ends) :
    Follows ends (history ++ [⟨now, use⟩]) now (use.apply cache now) := by
  cases use with
  | set session kind token expiresAt => exact follows.set respects
  | get session kind => exact follows.get session kind
  | blacklist session kind => exact follows.blacklist session kind
  | clear session => exact follows.clear session

/-- **The cache follows its history** while the clock does not go back. -/
theorem follows_after (ordered : (history.map (·.now)).Pairwise (· ≤ ·))
    (respects : ∀ moment ∈ history, moment.use.Respects ends)
    (reached : ∀ moment ∈ history, moment.now ≤ now) :
    Follows ends history now (after history) := by
  induction history using List.reverseRecOn generalizing now with
  | nil => exact follows_nil ends now
  | append_singleton history moment ih =>
    simp only [List.forall_mem_append, List.forall_mem_singleton] at respects reached
    rw [List.map_append, List.pairwise_append] at ordered
    obtain ⟨ordered, -, before⟩ := ordered
    have earlier : ∀ other ∈ history, other.now ≤ moment.now := fun other member =>
      before other.now (List.mem_map_of_mem member) moment.now (by simp)
    rw [after_append_singleton]
    exact ((ih ordered respects.1 earlier).apply respects.2).mono reached.2

end Following

/-! ## What is seen of the cache -/

section Seen

variable {ends : String → Int64} {history : List Moment} {cache : SessionCache} {now : Int}
  {session : String} {kind : TokenKind} {token : String}

/-- What is shown is the latest token of the slot, until the session is over. -/
theorem Follows.get?_eq_some_iff (follows : Follows ends history now cache) :
    cache.get? session kind now = some token ↔
      now < (ends session).toInt ∧ Latest history session kind token := by
  rw [get?_eq_held?, Option.bind_eq_some_iff]
  constructor
  · rintro ⟨entry, found, shown⟩
    split at shown
    · cases shown
    · next running =>
      rw [SessionEntry.isExpiredAt, decide_eq_true_eq, follows.ending found] at running
      exact ⟨Int.not_le.1 running, follows.latest shown⟩
  · rintro ⟨running, latest⟩
    have holds := follows.held latest running
    obtain ⟨entry, found, -⟩ := Option.bind_eq_some_iff.1 holds
    have unexpired : entry.isExpiredAt now = false := by
      rw [SessionEntry.isExpiredAt, follows.ending found]
      exact decide_eq_false (Int.not_le.2 running)
    exact ⟨entry, found, by rw [unexpired]; exact holds⟩

/-- Until the session is over, what is held is shown. -/
theorem Follows.held?_eq_get? (follows : Follows ends history now cache)
    (running : now < (ends session).toInt) :
    cache.held? session kind = cache.get? session kind now := by
  refine Option.ext fun token => ?_
  rw [follows.get?_eq_some_iff]
  exact ⟨fun holds => ⟨running, follows.latest holds⟩, fun shown => follows.held shown.2 running⟩

/-- A session that is added leaves no other that is over. -/
theorem unexpired_of_added {expiresAt : Int64} (added : cache.entry? session = none)
    {entry : String × SessionEntry}
    (member : entry ∈ (cache.set session kind token expiresAt now).entries)
    (other : entry.1 ≠ session) : entry.2.isExpiredAt now = false := by
  rw [SessionCache.set, added] at member
  rcases List.mem_cons.1 member with rfl | member
  · exact absurd rfl other
  · have pruned : entry ∈ (cache.prune now).entries := List.mem_of_mem_filter member
    simpa using (List.mem_filter.1 pruned).2

/-- A token that is held behind a use of its slot was made current after that use, or by it. -/
theorem Latest.exists_set {earlier later : List Moment} {moment : Moment}
    (latest : Latest (earlier ++ moment :: later) session kind token)
    (touched : moment.use.Touches session kind)
    (emptied : ∀ expiresAt, moment.use ≠ .set session kind token expiresAt) :
    ∃ again ∈ later, ∃ expiresAt, again.use = .set session kind token expiresAt := by
  induction later using List.reverseRecOn with
  | nil =>
    rcases latest_append_singleton.1 latest with ⟨expiresAt, isSet⟩ | ⟨untouched, -⟩
    · exact absurd isSet (emptied expiresAt)
    · exact absurd touched untouched
  | append_singleton later last ih =>
    rw [← List.cons_append, ← List.append_assoc] at latest
    rcases latest_append_singleton.1 latest with ⟨expiresAt, isSet⟩ | ⟨-, latest⟩
    · exact ⟨last, by simp, expiresAt, isSet⟩
    · obtain ⟨again, member, isSet⟩ := ih latest
      exact ⟨again, List.mem_append_left _ member, isSet⟩

end Seen

/-- **Nothing is seen of what the cache drops.** Behind any history in which the clock never goes
back and every session is given one end, the cache shows a token if and only if its session is not
over and the latest that was done to its slot was that it was made current, whatever was done to
other sessions. Until the session is over, emptying a slot or dropping the session hands back
exactly what would have been shown. A slot that has handed back a token hands one back again only
if that one has been made current in it since. And behind a token of a session that had no entry,
every other entry that is left is of a session that is not over. -/
theorem pruning_invisible {ends : String → Int64} {history : List Moment} {now : Int}
    (ordered : (history.map (·.now) ++ [now]).Pairwise (· ≤ ·))
    (respects : ∀ moment ∈ history, moment.use.Respects ends) :
    (∀ session kind token, (after history).get? session kind now = some token ↔
      now < (ends session).toInt ∧ Latest history session kind token) ∧
    (∀ session, now < (ends session).toInt →
      (∀ kind, ((after history).blacklist session kind).1 =
        (after history).get? session kind now) ∧
      ((after history).clear session).1 =
        ((after history).get? session .access now, (after history).get? session .secret now)) ∧
    (∀ earlier moment later, history = earlier ++ moment :: later → ∀ session kind first,
      moment.use.handsBack? (after earlier) session kind = some first →
      ∀ (use : Use) (token : String), use.handsBack? (after history) session kind = some token →
        ∃ again ∈ later, again.use = .set session kind token (ends session)) ∧
    ∀ session kind token expiresAt, entry? (after history) session = none →
      ∀ entry ∈ ((after history).set session kind token expiresAt now).entries,
        entry.1 ≠ session → entry.2.isExpiredAt now = false := by
  rw [List.pairwise_append] at ordered
  obtain ⟨ordered, -, before⟩ := ordered
  have reached : ∀ moment ∈ history, moment.now ≤ now := fun moment member =>
    before moment.now (List.mem_map_of_mem member) now (List.mem_singleton.2 rfl)
  have follows := follows_after ordered respects reached
  refine ⟨fun session kind token => follows.get?_eq_some_iff, fun session running => ⟨?_, ?_⟩, ?_,
    fun session kind token expiresAt added entry member => unexpired_of_added added member⟩
  · intro kind
    rw [blacklist_fst, follows.held?_eq_get? running]
  · rw [clear_fst, follows.held?_eq_get? running, follows.held?_eq_get? running]
  · rintro earlier moment later rfl session kind first handed use token handed'
    have touched := (touches_of_handsBack? handed).1
    have latest := follows.latest (touches_of_handsBack? handed').2
    obtain ⟨again, member, expiresAt, isSet⟩ :=
      latest.exists_set touched fun expiresAt => not_set_of_handsBack? handed session kind token
    have known := respects again (List.mem_append_right _ (List.mem_cons_of_mem _ member))
    rw [isSet] at known
    exact ⟨again, member, by rw [isSet, known.1]⟩

/-- Three sessions, of which the first is over when the third is added. Its entry is dropped, and
its token is shown no more, although nobody has emptied its slot; the second session shows the
token that was made current behind the one that it has handed back. -/
theorem pruning_invisible_behind_end :
    let history : List Moment := [⟨10, .set "first" .access "a" 100⟩,
      ⟨20, .set "second" .secret "b" 300⟩, ⟨120, .set "third" .access "c" 300⟩,
      ⟨130, .blacklist "second" .secret⟩, ⟨140, .set "second" .secret "d" 300⟩]
    (after history).get? "first" .access 150 = none ∧
      (after history).get? "second" .secret 150 = some "d" ∧
      ((after history).clear "second").1 = (none, some "d") := by
  intro history
  let ends : String → Int64 := fun session => if session = "first" then 100 else 300
  obtain ⟨shown, handed, -, -⟩ := @pruning_invisible ends history 150 (by decide)
    (by simp [history, ends, Use.Respects])
  have latest : Latest (history.dropLast ++ [⟨140, .set "second" .secret "d" 300⟩]) "second" .secret
      "d" := latest_append_singleton.2 (.inl ⟨300, rfl⟩)
  have second : (after history).get? "second" .secret 150 = some "d" :=
    (shown "second" .secret "d").2 ⟨by decide, latest⟩
  have access : (after history).get? "second" .access 150 = none := by decide
  refine ⟨Option.eq_none_iff_forall_ne_some.2 fun token shows => ?_, second, ?_⟩
  · have running := ((shown "first" .access token).1 shows).1
    exact absurd running (by decide)
  · rw [(handed "second" (by decide)).2, second, access]

end DualToken.SessionCache
