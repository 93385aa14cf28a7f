import Mathlib.Data.List.Nodup
import DualToken.Session.Cache

/-!
# What the cache of sessions keeps

`IsLive` says that a slot of some entry holds a token that is current; no step makes a token current
but `set`, and it makes only its own token so. `Keeps` says that a token is current in its session
and that the session does not end before some time. Until then a token is kept through everything
that concerns other sessions, also when entries whose time is over are dropped.
-/

set_option autoImplicit false

namespace DualToken.SessionCache

variable {cache : SessionCache} {session other : String} {kind : TokenKind} {token : String}

/-! ## Entries -/

theorem entry?_eq_none_iff :
    cache.entry? session = none ↔ ∀ entry ∈ cache.entries, entry.1 ≠ session := by
  unfold entry?
  rw [List.lookup_eq_none_iff]
  refine forall₂_congr fun entry _ => ?_
  rw [bne_iff_ne]
  exact ne_comm

theorem mem_of_entry? {entry : SessionEntry} (found : cache.entry? session = some entry) :
    (session, entry) ∈ cache.entries := by
  obtain ⟨front, back, split, -⟩ := List.lookup_eq_some_iff.1 found
  rw [split]
  exact List.mem_append_right front List.mem_cons_self

/-- A filter that keeps the first entry of a session finds it. -/
theorem lookup_filter {keep : String × SessionEntry → Bool} {entry : SessionEntry}
    (found : cache.entry? session = some entry) (kept : keep (session, entry) = true) :
    (cache.entries.filter keep).lookup session = some entry := by
  obtain ⟨front, back, split, others⟩ := List.lookup_eq_some_iff.1 found
  rw [split, List.filter_append, List.filter_cons_of_pos kept]
  refine List.lookup_eq_some_iff.2 ⟨_, _, rfl, fun entry member => ?_⟩
  exact others entry (List.mem_of_mem_filter member)

@[simp] theorem entry?_erase_self : entry? (cache.erase session) session = none := by
  refine entry?_eq_none_iff.2 fun entry member => ?_
  simpa using (List.mem_filter.1 member).2

theorem entry?_filter_of_none {keep : String × SessionEntry → Bool}
    (absent : cache.entry? session = none) :
    entry? (SessionCache.mk (cache.entries.filter keep)) session = none :=
  entry?_eq_none_iff.2 fun entry member =>
    entry?_eq_none_iff.1 absent entry (List.mem_of_mem_filter member)

theorem entry?_erase_of_ne (different : other ≠ session) :
    entry? (cache.erase session) other = cache.entry? other := by
  cases found : cache.entry? other with
  | none => exact entry?_filter_of_none found
  | some entry => exact lookup_filter found (by simp [different])

@[simp] theorem entry?_put_self (entry : SessionEntry) :
    entry? (cache.put session entry) session = some entry :=
  List.lookup_cons_self

theorem entry?_put_of_ne (different : other ≠ session) (entry : SessionEntry) :
    entry? (cache.put session entry) other = cache.entry? other := by
  have unequal : (other == session) = false := beq_eq_false_iff_ne.2 different
  have erased : entry? (cache.erase session) other = cache.entry? other :=
    entry?_erase_of_ne different
  unfold entry? at erased ⊢
  rw [put, List.lookup_cons, unequal]
  exact erased

/-- An entry whose time is not over is not dropped. -/
theorem entry?_prune {entry : SessionEntry} {now : Int}
    (found : cache.entry? session = some entry) (running : entry.isExpiredAt now = false) :
    entry? (cache.prune now) session = some entry :=
  lookup_filter found (by simp [running])

/-! ## Current tokens -/

/-- A slot of some entry of the session holds the token, and it is current. -/
def IsLive (cache : SessionCache) (session : String) (kind : TokenKind) (token : String) : Prop :=
  ∃ entry, (session, entry) ∈ cache.entries ∧ (entry.slot kind).get? = some token

theorem isLive_of_filter {keep : String × SessionEntry → Bool}
    (live : IsLive ⟨cache.entries.filter keep⟩ session kind token) :
    cache.IsLive session kind token := by
  obtain ⟨entry, member, current⟩ := live
  exact ⟨entry, List.mem_of_mem_filter member, current⟩

/-- What is live behind a new entry is live in it or was so before. -/
theorem isLive_of_put {entry : SessionEntry}
    (live : (cache.put session entry).IsLive other kind token) :
    (other = session ∧ (entry.slot kind).get? = some token) ∨ cache.IsLive other kind token := by
  obtain ⟨found, member, current⟩ := live
  rcases List.mem_cons.1 member with same | member
  · obtain ⟨rfl, rfl⟩ := Prod.mk.inj same
    exact .inl ⟨rfl, current⟩
  · exact .inr (isLive_of_filter ⟨found, member, current⟩)

/-- The slots of an entry with another slot and another end. -/
theorem slot_withSlot (entry : SessionEntry) (kind kind' : TokenKind) (slot : TokenSlot) :
    (entry.withSlot kind slot).slot kind' = if kind' = kind then slot else entry.slot kind' := by
  cases kind with
  | access =>
    cases kind' with
    | access => rfl
    | secret => rfl
  | secret =>
    cases kind' with
    | access => rfl
    | secret => rfl

@[simp] theorem expiresAt_withSlot (entry : SessionEntry) (kind : TokenKind) (slot : TokenSlot) :
    (entry.withSlot kind slot).expiresAt = entry.expiresAt := by
  cases kind with
  | access => rfl
  | secret => rfl

/-- Only `set` makes a token current, and only the token that it is given. -/
theorem isLive_of_set {token' : String} {kind' : TokenKind} {expiresAt : Int64} {now : Int}
    (live : (cache.set session kind token expiresAt now).IsLive other kind' token') :
    (other = session ∧ kind' = kind ∧ token' = token) ∨ cache.IsLive other kind' token' := by
  have kept : ∀ kept : SessionCache,
      (∀ other kind token, kept.IsLive other kind token → cache.IsLive other kind token) →
      (kept.put session ({ (kept.entry? session).getD {} with
          expiresAt := max ((kept.entry? session).getD {}).expiresAt expiresAt }.withSlot kind
            (.set token))).IsLive other kind' token' →
        (other = session ∧ kind' = kind ∧ token' = token) ∨ cache.IsLive other kind' token' := by
    intro kept smaller live
    rcases isLive_of_put live with ⟨rfl, current⟩ | live
    · rw [slot_withSlot] at current
      split at current
      · next same => exact .inl ⟨rfl, same, (Option.some.inj current).symm⟩
      · right
        cases found : kept.entry? other with
        | none =>
          rw [found] at current
          cases kind' with
          | access => exact absurd current (by simp [SessionEntry.slot, TokenSlot.get?])
          | secret => exact absurd current (by simp [SessionEntry.slot, TokenSlot.get?])
        | some entry =>
          rw [found] at current
          refine smaller other kind' token' ⟨entry, mem_of_entry? found, ?_⟩
          cases kind' with
          | access => exact current
          | secret => exact current
    · exact .inr (smaller _ _ _ live)
  unfold set at live
  split at live
  · exact kept cache (fun _ _ _ live => live) live
  · exact kept (cache.prune now) (fun _ _ _ live => isLive_of_filter live) live

theorem isLive_of_clear (live : (cache.clear session).2.IsLive other kind token) :
    cache.IsLive other kind token := by
  rw [clear] at live
  split at live
  · exact live
  · exact isLive_of_filter live

theorem isLive_of_blacklist {kind' : TokenKind}
    (live : (cache.blacklist session kind).2.IsLive other kind' token) :
    cache.IsLive other kind' token := by
  rw [blacklist] at live
  split at live
  · exact live
  · next entry found =>
    rcases isLive_of_put live with ⟨rfl, current⟩ | live
    · rw [slot_withSlot] at current
      split at current
      · exact absurd current (by simp [TokenSlot.get?, TokenSlot.kill])
      · exact ⟨entry, mem_of_entry? found, current⟩
    · exact live

/-- What clearing a session hands back was live in it. -/
theorem isLive_of_mem_clear
    (member : token ∈ (cache.clear session).1.1.toList ++ (cache.clear session).1.2.toList) :
    ∃ kind, cache.IsLive session kind token := by
  rw [clear] at member
  split at member
  · exact absurd member (by simp)
  · next entry found =>
    rcases List.mem_append.1 member with member | member
    · exact ⟨.access, entry, mem_of_entry? found, Option.mem_toList.1 member⟩
    · exact ⟨.secret, entry, mem_of_entry? found, Option.mem_toList.1 member⟩

/-! ## Tokens that are kept -/

/-- The token is current in the session, which does not end before the time. -/
def Keeps (cache : SessionCache) (session : String) (kind : TokenKind) (token : String)
    (time : Int) : Prop :=
  ∃ entry, cache.entry? session = some entry ∧ (entry.slot kind).get? = some token ∧
    time ≤ entry.expiresAt.toInt

/-- The entry that `set` puts in the place of another, or where there was none. -/
theorem entry?_set_self (expiresAt : Int64) (now : Int) :
    entry? (cache.set session kind token expiresAt now) session =
      some (({ (cache.entry? session).getD {} with
        expiresAt := max ((cache.entry? session).getD {}).expiresAt expiresAt }).withSlot kind
          (.set token)) := by
  unfold set
  split
  · exact entry?_put_self _
  · next absent =>
    have absent : cache.entry? session = none := by simpa using absent
    have pruned : entry? (cache.prune now) session = none := entry?_filter_of_none absent
    rw [entry?_put_self, absent, pruned]

/-- A session that is not over is left alone when a token of another is made current. -/
theorem entry?_set_of_ne (different : other ≠ session) {entry : SessionEntry} {expiresAt : Int64}
    {now : Int} (found : cache.entry? other = some entry)
    (running : entry.isExpiredAt now = false) :
    entry? (cache.set session kind token expiresAt now) other = some entry := by
  unfold set
  split
  · exact (entry?_put_of_ne different _).trans found
  · exact (entry?_put_of_ne different _).trans (entry?_prune found running)

/-- A session without an entry gets none when a token of another is made current. -/
theorem entry?_set_of_none (different : other ≠ session) {expiresAt : Int64} {now : Int}
    (absent : cache.entry? other = none) :
    entry? (cache.set session kind token expiresAt now) other = none := by
  unfold set
  split
  · exact (entry?_put_of_ne different _).trans absent
  · exact (entry?_put_of_ne different _).trans (entry?_filter_of_none absent)

@[simp] theorem entry?_clear_self : entry? (cache.clear session).2 session = none := by
  rw [clear]
  split
  · assumption
  · exact entry?_erase_self

theorem entry?_clear_of_ne (different : other ≠ session) :
    entry? (cache.clear session).2 other = cache.entry? other := by
  rw [clear]
  split
  · rfl
  · exact entry?_erase_of_ne different

theorem entry?_blacklist_of_ne (different : other ≠ session) :
    entry? (cache.blacklist session kind).2 other = cache.entry? other := by
  rw [blacklist]
  split
  · rfl
  · exact entry?_put_of_ne different _

/-- A session without an entry gets none when a slot is emptied. -/
theorem entry?_blacklist_of_none (absent : cache.entry? other = none) :
    entry? (cache.blacklist session kind).2 other = none := by
  by_cases same : other = session
  · subst same
    rw [blacklist, absent]
    exact absent
  · exact (entry?_blacklist_of_ne same).trans absent

/-- A session without an entry gets none when a session is dropped. -/
theorem entry?_clear_of_none (absent : cache.entry? other = none) :
    entry? (cache.clear session).2 other = none := by
  by_cases same : other = session
  · exact same ▸ entry?_clear_self
  · exact (entry?_clear_of_ne same).trans absent

theorem get?_of_none (absent : cache.entry? session = none) (now : Int) :
    cache.get? session kind now = none := by
  rw [get?, absent, Option.bind_none]

/-- The later of two ends is not before either of them. -/
theorem toInt_le_toInt_max (first second : Int64) :
    first.toInt ≤ (max first second).toInt ∧ second.toInt ≤ (max first second).toInt := by
  have unfolded : max first second = if first ≤ second then second else first := rfl
  rw [unfolded]
  split
  · next before => exact ⟨Int64.le_iff_toInt_le.1 before, Int.le_refl _⟩
  · next after =>
    rw [Int64.le_iff_toInt_le] at after
    exact ⟨Int.le_refl _, Int.le_of_lt (Int.not_le.1 after)⟩

/-- Making a token current keeps it to the end that it is given. -/
theorem keeps_set_self (expiresAt : Int64) (now : Int) :
    (cache.set session kind token expiresAt now).Keeps session kind token expiresAt.toInt := by
  refine ⟨_, entry?_set_self expiresAt now, ?_, ?_⟩
  · rw [slot_withSlot, if_pos rfl]
    rfl
  · rw [expiresAt_withSlot]
    exact (toInt_le_toInt_max _ expiresAt).2

/-- Making a token of one kind current keeps the token of the other kind. -/
theorem Keeps.set_of_ne_kind {token' : String} {kind' : TokenKind} {time : Int}
    (keeps : cache.Keeps session kind' token' time) (different : kind' ≠ kind) (expiresAt : Int64)
    (now : Int) :
    (cache.set session kind token expiresAt now).Keeps session kind' token' time := by
  obtain ⟨entry, found, current, within⟩ := keeps
  refine ⟨_, entry?_set_self expiresAt now, ?_, ?_⟩
  · rw [slot_withSlot, if_neg different, found]
    cases kind' with
    | access => exact current
    | secret => exact current
  · rw [expiresAt_withSlot, found]
    exact Int.le_trans within (toInt_le_toInt_max _ expiresAt).1

/-- A token is kept when a token of another session is made current before its time. -/
theorem Keeps.set_of_ne {token' : String} {kind' : TokenKind} {time : Int}
    (keeps : cache.Keeps other kind' token' time) (different : other ≠ session)
    {expiresAt : Int64} {now : Int} (running : now < time) :
    (cache.set session kind token expiresAt now).Keeps other kind' token' time := by
  obtain ⟨entry, found, current, within⟩ := keeps
  have unexpired : entry.isExpiredAt now = false :=
    decide_eq_false (Int.not_le.2 (Int.lt_of_lt_of_le running within))
  exact ⟨entry, entry?_set_of_ne different found unexpired, current, within⟩

theorem Keeps.of_entry_eq {after : SessionCache} {time : Int}
    (keeps : cache.Keeps session kind token time)
    (same : after.entry? session = cache.entry? session) :
    after.Keeps session kind token time := by
  obtain ⟨entry, found, rest⟩ := keeps
  exact ⟨entry, same.trans found, rest⟩

/-- Emptying a slot hands back the token that was kept in it. -/
theorem Keeps.blacklist {time : Int} (keeps : cache.Keeps session kind token time) :
    (cache.blacklist session kind).1 = some token := by
  obtain ⟨entry, found, current, -⟩ := keeps
  rw [SessionCache.blacklist, found]
  exact current

/-- Emptying a slot keeps the token of the other kind. -/
theorem Keeps.blacklist_of_ne_kind {kind' : TokenKind} {time : Int}
    (keeps : cache.Keeps session kind' token time) (different : kind' ≠ kind) :
    (cache.blacklist session kind).2.Keeps session kind' token time := by
  obtain ⟨entry, found, current, within⟩ := keeps
  rw [SessionCache.blacklist, found]
  refine ⟨_, entry?_put_self _, ?_, ?_⟩
  · rw [slot_withSlot, if_neg different]
    exact current
  · rw [expiresAt_withSlot]
    exact within

/-- Clearing a session hands back the access token that was kept in it. -/
theorem Keeps.clear_access {time : Int} (keeps : cache.Keeps session .access token time) :
    (cache.clear session).1.1 = some token := by
  obtain ⟨entry, found, current, -⟩ := keeps
  rw [clear, found]
  exact current

/-- Clearing a session hands back the secret token that was kept in it. -/
theorem Keeps.clear_secret {time : Int} (keeps : cache.Keeps session .secret token time) :
    (cache.clear session).1.2 = some token := by
  obtain ⟨entry, found, current, -⟩ := keeps
  rw [clear, found]
  exact current

/-! ## Other sessions -/

/-- There is one entry for each session. -/
def IsUnique (cache : SessionCache) : Prop :=
  (cache.entries.map (·.1)).Nodup

theorem IsUnique.filter (unique : cache.IsUnique) (keep : String × SessionEntry → Bool) :
    IsUnique ⟨cache.entries.filter keep⟩ :=
  List.Nodup.sublist (List.filter_sublist.map _) unique

theorem IsUnique.put (unique : cache.IsUnique) (session : String) (entry : SessionEntry) :
    IsUnique (cache.put session entry) := by
  refine List.nodup_cons.2 ⟨fun member => ?_, unique.filter _⟩
  obtain ⟨old, old', same⟩ := List.mem_map.1 member
  exact entry?_eq_none_iff.1 entry?_erase_self old old' same

theorem IsUnique.set (unique : cache.IsUnique) (session : String) (kind : TokenKind)
    (token : String) (expiresAt : Int64) (now : Int) :
    IsUnique (cache.set session kind token expiresAt now) := by
  unfold SessionCache.set
  split
  · exact unique.put _ _
  · exact IsUnique.put (unique.filter _) _ _

theorem IsUnique.blacklist (unique : cache.IsUnique) (session : String) (kind : TokenKind) :
    IsUnique (cache.blacklist session kind).2 := by
  rw [SessionCache.blacklist]
  split
  · exact unique
  · exact unique.put _ _

theorem IsUnique.clear (unique : cache.IsUnique) (session : String) :
    IsUnique (cache.clear session).2 := by
  rw [SessionCache.clear]
  split
  · exact unique
  · exact unique.filter _

/-- An entry whose time is over is dropped, and nothing takes its place. -/
theorem IsUnique.entry?_prune (unique : cache.IsUnique) {entry : SessionEntry} {now : Int}
    (found : cache.entry? session = some entry) (ended : entry.isExpiredAt now = true) :
    entry? (cache.prune now) session = none := by
  refine entry?_eq_none_iff.2 fun other member same => ?_
  obtain ⟨member, running⟩ := List.mem_filter.1 member
  have present := mem_of_entry? found
  have alone : other = (session, entry) := List.inj_on_of_nodup_map unique member present same
  rw [alone, ended] at running
  exact absurd running nofun

theorem get?_eq_of_entry?_eq {after : SessionCache}
    (same : after.entry? session = cache.entry? session) (kind : TokenKind) (now : Int) :
    after.get? session kind now = cache.get? session kind now := by
  rw [get?, get?, same]

theorem clear_eq_of_entry?_eq {after : SessionCache}
    (same : after.entry? session = cache.entry? session) :
    (after.clear session).1 = (cache.clear session).1 := by
  rw [clear, clear, same]
  cases cache.entry? session with
  | none => rfl
  | some entry => rfl

/-- A token that is kept is shown until its time. -/
theorem Keeps.get? {time now : Int} (keeps : cache.Keeps session kind token time)
    (running : now < time) : cache.get? session kind now = some token := by
  obtain ⟨entry, found, current, within⟩ := keeps
  have unexpired : entry.isExpiredAt now = false :=
    decide_eq_false (Int.not_le.2 (Int.lt_of_lt_of_le running within))
  rw [SessionCache.get?, found, Option.bind_some, unexpired]
  exact current

/-- What is shown is live. -/
theorem isLive_of_get? {now : Int} (shown : cache.get? session kind now = some token) :
    cache.IsLive session kind token := by
  rw [SessionCache.get?, Option.bind_eq_some_iff] at shown
  obtain ⟨entry, found, current⟩ := shown
  split at current
  · exact absurd current nofun
  · exact ⟨entry, mem_of_entry? found, current⟩

/-- A slot that has been emptied shows no token. -/
theorem get?_blacklist_self (now : Int) :
    (cache.blacklist session kind).2.get? session kind now = none := by
  rw [blacklist]
  split
  · next absent => exact get?_of_none absent now
  · next entry found =>
    rw [SessionCache.get?, entry?_put_self, Option.bind_some, slot_withSlot, if_pos rfl]
    split
    · rfl
    · rfl

/-- A session that is over shows no token. -/
theorem get?_of_expired {entry : SessionEntry} {now : Int}
    (found : cache.entry? session = some entry) (ended : entry.isExpiredAt now = true)
    (kind : TokenKind) : cache.get? session kind now = none := by
  rw [get?, found, Option.bind_some, if_pos ended]

/-- Making a token of one session current leaves the entry of another alone, or drops it because its
time is over. -/
theorem IsUnique.entry?_set_cases (unique : cache.IsUnique) (different : other ≠ session)
    (kind : TokenKind) (token : String) (expiresAt : Int64) (now : Int) :
    entry? (cache.set session kind token expiresAt now) other = cache.entry? other ∨
      (SessionCache.entry? (cache.set session kind token expiresAt now) other = none ∧
        ∃ entry, cache.entry? other = some entry ∧ entry.isExpiredAt now = true) := by
  cases found : cache.entry? other with
  | none => exact .inl (entry?_set_of_none different found)
  | some entry =>
    cases ended : entry.isExpiredAt now with
    | false => exact .inl (entry?_set_of_ne different found ended)
    | true =>
      unfold SessionCache.set
      split
      · exact .inl ((entry?_put_of_ne different _).trans found)
      · exact .inr ⟨(entry?_put_of_ne different _).trans (unique.entry?_prune found ended), entry,
          rfl, ended⟩

/-- **Making a token of one session current changes no token of another**, although sessions that
are over may be dropped. -/
theorem IsUnique.get?_set_of_ne (unique : cache.IsUnique) (different : other ≠ session)
    (kind' : TokenKind) (expiresAt : Int64) (now : Int) :
    (cache.set session kind token expiresAt now).get? other kind' now =
      cache.get? other kind' now := by
  rcases unique.entry?_set_cases different kind token expiresAt now with
    same | ⟨gone, entry, found, ended⟩
  · exact get?_eq_of_entry?_eq same kind' now
  · rw [get?_of_none gone, get?_of_expired found ended]

end DualToken.SessionCache
