import Mathlib.Data.List.Nodup
import DualToken.Proofs.Text.Decimal
import DualToken.Proofs.Revocation.Store

/-!
# Both backends keep the same log

The reference is read off the uses alone. `recordings` are the tokens that were to be recorded, each
with its time, and `firsts` are the first ones of each token, in their order. A recording is
answered with the first time of its token, a lookup with whether there was one, and a listing with
all first ones (`Use.expected`).

Neither backend works like that: the table uses up a number for every recording and finds a token
again through its index, the server draws a number only for a new token, writes both integers into
one text and sorts what it reads back. What they share is a list of records behind the table or the
hash (`Keeps`). A recording leaves this list alone or adds one record to its end (`Recorded`), so
both backends stay beside the reference through every sequence of uses (`Keeps.run`), and differ in
nothing but the numbers (`backends_keep_one_log`).

Numbers are integers of sixty-four bits, and so the server refuses to draw one when there is none
left. The results are about fewer uses than that.
-/

set_option autoImplicit false

namespace DualToken

/-! ## The text of a record is read back -/

namespace Redis

/-- **What is written for a record is read back as this record.** -/
theorem readValue_writeValue (token : String) (id createdAt : Int64) :
    readValue token (writeValue id.toInt createdAt.toInt) =
      .ok ⟨id.toInt, token, createdAt.toInt⟩ := by
  have characters : (writeValue id.toInt createdAt.toInt).toList =
      Text.writeInteger id.toInt ++ ':' :: Text.writeInteger createdAt.toInt := by
    simp [writeValue, Text.ofInteger]
  have noColon : ∀ character ∈ Text.writeInteger id.toInt, (character ≠ ':' : Bool) = true := by
    intro character member
    apply decide_eq_true
    rintro rfl
    exact Text.notMem_writeInteger (by decide) (by decide) _ member
  simp only [readValue, characters, List.takeWhile_append_of_pos noColon,
    List.dropWhile_append_of_pos noColon]
  simp [Text.readInt64?_writeInteger]

/-! ## Recording at a quiet server -/

namespace Server

/-- Without failures in waiting a command is carried out. -/
theorem receive_of_quiet {server : Server} (quiet : server.failures = []) (command : Command) :
    server.receive command =
      carryOut command { server with received := command.name :: server.received } := by
  simp only [receive, quiet]

end Server

section Quiet

variable {server : Server} {token : String} (now : Int)

/-- A token that is there is answered with its record, and nothing is written. -/
theorem run_record_of_some (quiet : server.failures = []) {value : String}
    (present : server.hash.lookup token = some value) :
    (record token now).run Server.receive server =
      (readValue token value, { server with received := "HGET" :: server.received }) := by
  simp [record, send, Server.receive_of_quiet, quiet, Server.carryOut, present, Command.name]

/-- A new token gets the next number, and its field goes to the end of the hash. -/
theorem run_record_of_none (quiet : server.failures = []) (alone : server.rivals = [])
    (absent : server.hash.lookup token = none) (free : server.counter < Int64.maxValue.toInt) :
    (record token now).run Server.receive server =
      (readValue token (writeValue (server.counter + 1) now), { server with
        hash := server.hash ++ [(token, writeValue (server.counter + 1) now)]
        counter := server.counter + 1
        received := "HSETNX" :: "INCRBY" :: "HGET" :: server.received }) := by
  simp [record, send, Server.receive_of_quiet, quiet, Server.carryOut, Server.admitRivals, alone,
    Server.put, absent, free, Command.name]
  exact ⟨rfl, rfl⟩

end Quiet

end Redis

namespace RevocationStore

/-! ## The reference -/

/-- A use of the store. -/
inductive Use where
  /-- Recording a token at a time. -/
  | record (token : String) (now : Int64)
  | lookup (token : String)
  | list
  deriving DecidableEq

/-- What a use is answered with. -/
inductive Answer where
  | recorded (record : RecordedToken)
  | found (isRecorded : Bool)
  | listed (records : List RecordedToken)
  deriving DecidableEq

namespace Answer

/-- The records of an answer. -/
def records : Answer → List RecordedToken
  | recorded record => [record]
  | found _ => []
  | listed records => records

/-- The answer apart from the numbers of its records. -/
def unnumbered : Answer → Answer
  | recorded record => .recorded { record with id := 0 }
  | found isRecorded => .found isRecorded
  | listed records => .listed (records.map fun record => { record with id := 0 })

end Answer

/-- The token and the time of a recording. -/
def Use.recording? : Use → Option (String × Int)
  | record token now => some (token, now.toInt)
  | lookup _ => none
  | list => none

/-- The recordings among uses, the earliest first. -/
def recordings (uses : List Use) : List (String × Int) :=
  uses.filterMap Use.recording?

/-- The log with a recording entered, unless its token is there. -/
def enter (log : List (String × Int)) (recording : String × Int) : List (String × Int) :=
  if (log.lookup recording.1).isSome then log else log ++ [recording]

/-- The first recording of each token, in their order. -/
def firsts (recordings : List (String × Int)) : List (String × Int) :=
  recordings.foldl enter []

/-- What a use is answered with behind earlier ones, apart from numbers. -/
def Use.expected (earlier : List Use) : Use → Answer
  | record token now =>
    .recorded ⟨0, token, ((recordings earlier).lookup token).getD now.toInt⟩
  | lookup token => .found ((recordings earlier).lookup token).isSome
  | list => .listed ((firsts (recordings earlier)).map fun entry => ⟨0, entry.1, entry.2⟩)

section Reference

variable {log recordings : List (String × Int)}

theorem lookup_enter (recording : String × Int) (token : String) :
    (enter log recording).lookup token = (log ++ [recording]).lookup token := by
  obtain ⟨recorded, now⟩ := recording
  rw [enter]
  split_ifs with known
  · rw [List.lookup_append]
    cases found : log.lookup token with
    | some time => rfl
    | none =>
      have other : (token == recorded) = false := by
        apply beq_eq_false_iff_ne.2
        rintro rfl
        simp [found] at known
      simp [List.lookup_cons, other]
  · rfl

theorem lookup_foldl_enter (token : String) :
    (recordings.foldl enter log).lookup token = (log ++ recordings).lookup token := by
  induction recordings generalizing log with
  | nil => rw [List.foldl_nil, List.append_nil]
  | cons recording later ih =>
    rw [List.foldl_cons, ih, List.lookup_append, lookup_enter, ← List.lookup_append,
      List.append_assoc, List.singleton_append]

/-- **The log shows the first recording of every token.** -/
theorem lookup_firsts (token : String) :
    (firsts recordings).lookup token = recordings.lookup token := by
  rw [firsts, lookup_foldl_enter, List.nil_append]

end Reference

/-! ## Running a store through uses -/

/-- The answer to a use, and the store behind it. -/
def use (backend : RevocationBackend) (store : RevocationStore) :
    Use → Except AuthError Answer × RevocationStore
  | .record token now =>
    let (result, store) := store.record backend token now.toInt
    (result.map .recorded, store)
  | .lookup token =>
    let (result, store) := store.lookup backend token
    (result.map .found, store)
  | .list =>
    let (result, store) := store.list backend
    (result.map .listed, store)

/-- The store behind all uses. -/
def after (backend : RevocationBackend) (store : RevocationStore) (uses : List Use) :
    RevocationStore :=
  uses.foldl (fun store next => (store.use backend next).2) store

/-! ## The records behind both backends -/

/-- What the log shows of a record. -/
def entry (record : RecordedToken) : String × Int :=
  (record.token, record.createdAt)

/-- The field of the hash that holds a record. -/
def field (record : RecordedToken) : String × String :=
  (record.token, Redis.writeValue record.id record.createdAt)

/-- The table lists these records as they are, or the hash has one field for each of them while
neither failures nor other writers are waiting; `last` is the last number that was drawn. -/
def Backs (backend : RevocationBackend) (store : RevocationStore) (last : Nat)
    (records : List RecordedToken) : Prop :=
  match backend with
  | .table => store.table = some ⟨records, last⟩
  | .redis => store.server.hash = records.map field ∧ store.server.counter = last ∧
      store.server.failures = [] ∧ store.server.rivals = []

/-- The store keeps these records: one for each token, in the order of their numbers. -/
structure Keeps (backend : RevocationBackend) (store : RevocationStore) (last : Nat)
    (records : List RecordedToken) : Prop where
  backs : Backs backend store last records
  /-- Every number has been drawn. -/
  drawn : ∀ record ∈ records, 0 ≤ record.id ∧ record.id ≤ last
  /-- Every time is an integer of sixty-four bits. -/
  timed : ∀ record ∈ records, ∃ time : Int64, record.createdAt = time.toInt
  ordered : records.Pairwise fun first second => first.id < second.id
  distinct : (records.map (·.token)).Nodup

/-- What a use is answered with, and what becomes of the records: a token that is there keeps its
record, a new one gets its record at the end, and reading tells what the records are. -/
inductive Answered (records : List RecordedToken) :
    Use → Answer → List RecordedToken → Prop where
  | again {token : String} {now : Int64} {record : RecordedToken}
      (found : records.find? (·.token = token) = some record) :
      Answered records (.record token now) (.recorded record) records
  | first {token : String} {now : Int64} (id : Int)
      (absent : records.find? (·.token = token) = none) :
      Answered records (.record token now) (.recorded ⟨id, token, now.toInt⟩)
        (records ++ [⟨id, token, now.toInt⟩])
  | lookup (token : String) :
      Answered records (.lookup token) (.found (records.find? (·.token = token)).isSome) records
  | list : Answered records .list (.listed records) records

section Records

variable {backend : RevocationBackend} {store : RevocationStore} {last : Nat}
  {records : List RecordedToken} {record : RecordedToken} {token : String}

/-- In a list with one pair for each record, a token is looked up at the record that a search
finds. -/
theorem lookup_map_value {α : Type} (value : RecordedToken → α) (records : List RecordedToken)
    (token : String) :
    (records.map fun record => (record.token, value record)).lookup token =
      (records.find? (·.token = token)).map value := by
  induction records with
  | nil => rfl
  | cons record others ih =>
    by_cases same : record.token = token
    · simp [same]
    · have other : (token == record.token) = false := beq_eq_false_iff_ne.2 (Ne.symm same)
      simp [List.lookup_cons, same, other, ih]

/-- A kept record is read back from its field. -/
theorem Keeps.readValue (keeps : Keeps backend store last records)
    (fits : (last : Int) ≤ Int64.maxValue.toInt) (member : record ∈ records) :
    Redis.readValue record.token (Redis.writeValue record.id record.createdAt) = .ok record := by
  obtain ⟨id, token, createdAt⟩ := record
  obtain ⟨positive, drawn⟩ := keeps.drawn _ member
  obtain ⟨time, rfl⟩ : ∃ time : Int64, createdAt = time.toInt := keeps.timed _ member
  have held : (Int64.ofInt id).toInt = id := by
    apply Int64.toInt_ofInt_of_le
    · exact Int.le_trans (by decide) positive
    · exact Int.lt_of_le_of_lt (Int.le_trans drawn fits) (by decide)
  have read := Redis.readValue_writeValue token (Int64.ofInt id) time
  rwa [held] at read

/-- The records stay as they are, though a number may be drawn. -/
theorem Keeps.again {next : Nat} {after : RevocationStore}
    (keeps : Keeps backend store last records) (later : last ≤ next)
    (backs : Backs backend after next records) : Keeps backend after next records where
  backs := backs
  drawn := by
    intro record member
    obtain ⟨positive, drawn⟩ := keeps.drawn record member
    exact ⟨positive, by omega⟩
  timed := keeps.timed
  ordered := keeps.ordered
  distinct := keeps.distinct

/-- A record of a new token with the next number follows the others. -/
theorem Keeps.first {after : RevocationStore} (keeps : Keeps backend store last records)
    (absent : records.find? (·.token = token) = none) (now : Int64)
    (backs : Backs backend after (last + 1)
      (records ++ [⟨↑(last + 1), token, now.toInt⟩])) :
    Keeps backend after (last + 1) (records ++ [⟨↑(last + 1), token, now.toInt⟩]) where
  backs := backs
  drawn := by
    intro record member
    rcases List.mem_append.1 member with member | member
    · obtain ⟨positive, drawn⟩ := keeps.drawn record member
      exact ⟨positive, by omega⟩
    · obtain rfl := List.mem_singleton.1 member
      exact ⟨by simp only; omega, Int.le_refl _⟩
  timed := by
    intro record member
    rcases List.mem_append.1 member with member | member
    · exact keeps.timed record member
    · obtain rfl := List.mem_singleton.1 member
      exact ⟨now, rfl⟩
  ordered := by
    refine List.pairwise_append.2 ⟨keeps.ordered, List.pairwise_singleton _ _, ?_⟩
    intro record member added isAdded
    obtain rfl := List.mem_singleton.1 isAdded
    have drawn := (keeps.drawn record member).2
    simp only
    omega
  distinct := by
    rw [List.map_append]
    refine List.nodup_append'.2 ⟨keeps.distinct, List.nodup_singleton _, ?_⟩
    simpa using absent

end Records

/-! ## One use -/

section Uses

variable {backend : RevocationBackend} {store : RevocationStore} {last : Nat}
  {records : List RecordedToken}

/-- Recording in the table uses up a number. -/
theorem Keeps.record_table (keeps : Keeps .table store last records) (token : String)
    (now : Int64) :
    ∃ made next records', Answered records (.record token now) (.recorded made) records' ∧
      next ≤ last + 1 ∧ (store.record .table token now.toInt).1 = .ok made ∧
      Keeps .table (store.record .table token now.toInt).2 next records' := by
  have table : store.table = some ⟨records, last⟩ := keeps.backs
  cases found : records.find? (·.token = token) with
  | some record =>
    have recorded : store.record .table token now.toInt =
        (.ok record, { store with table := some ⟨records, last + 1⟩ }) := by
      simp [RevocationStore.record, table, RevocationTable.record, RevocationTable.find?, found]
    rw [recorded]
    exact ⟨record, last + 1, records, .again found, Nat.le_refl _, rfl,
      keeps.again (Nat.le_succ _) rfl⟩
  | none =>
    have recorded : store.record .table token now.toInt =
        (.ok ⟨↑(last + 1), token, now.toInt⟩, { store with
          table := some ⟨records ++ [⟨↑(last + 1), token, now.toInt⟩], last + 1⟩ }) := by
      simp [RevocationStore.record, table, RevocationTable.record, RevocationTable.find?, found]
    rw [recorded]
    exact ⟨_, last + 1, _, .first _ found, Nat.le_refl _, rfl, keeps.first found now rfl⟩

/-- Recording at the server draws a number for a new token. -/
theorem Keeps.record_redis (keeps : Keeps .redis store last records)
    (few : (last : Int) < Int64.maxValue.toInt) (token : String) (now : Int64) :
    ∃ made next records', Answered records (.record token now) (.recorded made) records' ∧
      next ≤ last + 1 ∧ (store.record .redis token now.toInt).1 = .ok made ∧
      Keeps .redis (store.record .redis token now.toInt).2 next records' := by
  obtain ⟨hash, counter, quiet, alone⟩ := keeps.backs
  have got : store.server.hash.lookup token =
      (records.find? (·.token = token)).map fun record =>
        Redis.writeValue record.id record.createdAt := by
    rw [hash]
    exact lookup_map_value _ records token
  cases found : records.find? (·.token = token) with
  | some record =>
    rw [found, Option.map_some] at got
    have recorded := Redis.run_record_of_some now.toInt quiet got
    have read := keeps.readValue few.le (List.mem_of_find?_eq_some found)
    have same : record.token = token := by simpa using List.find?_some found
    rw [same] at read
    rw [RevocationStore.record, withServer, recorded]
    exact ⟨record, last, records, .again found, Nat.le_succ _, read,
      keeps.again (Nat.le_refl _) ⟨hash, counter, quiet, alone⟩⟩
  | none =>
    rw [found, Option.map_none] at got
    have recorded := Redis.run_record_of_none now.toInt quiet alone got (counter ▸ few)
    rw [counter, ← Int.natCast_succ] at recorded
    rw [RevocationStore.record, withServer, recorded]
    have following : Keeps .redis { store with server := { store.server with
          hash := store.server.hash ++ [(token, Redis.writeValue ↑(last + 1) now.toInt)]
          counter := ↑(last + 1)
          received := "HSETNX" :: "INCRBY" :: "HGET" :: store.server.received } }
        (last + 1) (records ++ [⟨↑(last + 1), token, now.toInt⟩]) :=
      keeps.first found now ⟨by simp [hash, field], rfl, quiet, alone⟩
    have read := following.readValue few (List.mem_append_right _ (List.mem_singleton.2 rfl))
    exact ⟨_, last + 1, _, .first _ found, Nat.le_refl _, read, following⟩

theorem Keeps.lookup (keeps : Keeps backend store last records) (token : String) :
    (store.lookup backend token).1 = .ok (records.find? (·.token = token)).isSome ∧
      Keeps backend (store.lookup backend token).2 last records := by
  cases backend with
  | table =>
    have table : store.table = some ⟨records, last⟩ := keeps.backs
    simp only [RevocationStore.lookup, table]
    exact ⟨rfl, keeps⟩
  | redis =>
    obtain ⟨hash, counter, quiet, alone⟩ := keeps.backs
    have got : (store.server.hash.lookup token).isSome =
        (records.find? (·.token = token)).isSome := by
      rw [hash]
      exact (congrArg Option.isSome (lookup_map_value _ records token)).trans Option.isSome_map
    have asked : (Redis.lookup token).run Redis.Server.receive store.server =
        (.ok (store.server.hash.lookup token).isSome,
          { store.server with received := "HEXISTS" :: store.server.received }) := by
      simp [Redis.lookup, Redis.send, Redis.Server.receive_of_quiet, quiet, Redis.Server.carryOut,
        Redis.Command.name]
    rw [RevocationStore.lookup, withServer, asked, got]
    exact ⟨rfl, keeps.again (Nat.le_refl _) ⟨hash, counter, quiet, alone⟩⟩

/-- The records are read back from their fields, in the order in which they were written. -/
theorem Keeps.mapM_readValue (keeps : Keeps backend store last records)
    (fits : (last : Int) ≤ Int64.maxValue.toInt) :
    ((records.map field).mapM fun entry => Redis.readValue entry.1 entry.2) = .ok records := by
  have read : ∀ some : List RecordedToken, (∀ record ∈ some, record ∈ records) →
      ((some.map field).mapM fun entry => Redis.readValue entry.1 entry.2) = .ok some := by
    intro some
    induction some with
    | nil => exact fun _ => rfl
    | cons record later ih =>
      intro kept
      obtain ⟨here, others⟩ := List.forall_mem_cons.1 kept
      have first : Redis.readValue (field record).1 (field record).2 = .ok record :=
        keeps.readValue fits here
      rw [List.map_cons, List.mapM_cons, first, ih others]
      rfl
  exact read records fun _ member => member

theorem Keeps.list (keeps : Keeps backend store last records)
    (fits : (last : Int) ≤ Int64.maxValue.toInt) :
    (store.list backend).1 = .ok records ∧ Keeps backend (store.list backend).2 last records := by
  cases backend with
  | table =>
    have table : store.table = some ⟨records, last⟩ := keeps.backs
    have listed : store.list .table = (.ok records, store) := by
      simp only [RevocationStore.list, table]
    rw [listed]
    exact ⟨rfl, keeps⟩
  | redis =>
    obtain ⟨hash, counter, quiet, alone⟩ := keeps.backs
    have sorted : records.mergeSort (fun first second => first.id ≤ second.id) = records := by
      apply List.mergeSort_of_pairwise
      exact keeps.ordered.imp fun {first second} less => decide_eq_true (Int.le_of_lt less)
    have asked : Redis.list.run Redis.Server.receive store.server =
        (.ok records, { store.server with received := "HGETALL" :: store.server.received }) := by
      simp only [Redis.list, Redis.send, Program.run_act, Redis.Server.receive_of_quiet quiet,
        Redis.Server.carryOut, hash, Redis.Command.name]
      rw [Program.run_done, keeps.mapM_readValue fits, Except.map, sorted]
    rw [RevocationStore.list, withServer, asked]
    exact ⟨rfl, keeps.again (Nat.le_refl _) ⟨hash, counter, quiet, alone⟩⟩

/-- **A use of either backend is answered from the records behind it.** -/
theorem Keeps.use (keeps : Keeps backend store last records)
    (few : (last : Int) < Int64.maxValue.toInt) (next : Use) :
    ∃ answer last' records', Answered records next answer records' ∧ last' ≤ last + 1 ∧
      (store.use backend next).1 = .ok answer ∧
      Keeps backend (store.use backend next).2 last' records' := by
  cases next with
  | record token now =>
    have recording : ∃ made last' records',
        Answered records (.record token now) (.recorded made) records' ∧ last' ≤ last + 1 ∧
          (store.record backend token now.toInt).1 = .ok made ∧
          Keeps backend (store.record backend token now.toInt).2 last' records' := by
      cases backend with
      | table => exact keeps.record_table token now
      | redis => exact keeps.record_redis few token now
    obtain ⟨made, last', records', answered, step, ok, kept⟩ := recording
    exact ⟨_, last', records', answered, step, congrArg (Except.map Answer.recorded) ok, kept⟩
  | lookup token =>
    obtain ⟨ok, kept⟩ := keeps.lookup token
    exact ⟨_, last, records, .lookup token, Nat.le_succ _,
      congrArg (Except.map Answer.found) ok, kept⟩
  | list =>
    obtain ⟨ok, kept⟩ := keeps.list few.le
    exact ⟨_, last, records, .list, Nat.le_succ _, congrArg (Except.map Answer.listed) ok, kept⟩

end Uses

/-! ## The records follow the reference -/

section Answers

variable {records records' : List RecordedToken} {next : Use} {answer : Answer}

/-- No record is taken away, and none is put before another. -/
theorem Answered.isPrefix (answered : Answered records next answer records') :
    records <+: records' := by
  cases answered with
  | again _ => exact List.prefix_refl _
  | first _ _ => exact List.prefix_append _ _
  | lookup _ => exact List.prefix_refl _
  | list => exact List.prefix_refl _

/-- The records go on as the log does. -/
theorem Answered.entries (answered : Answered records next answer records') :
    records'.map entry = (recordings [next]).foldl enter (records.map entry) := by
  have shown (token : String) : (records.map entry).lookup token =
      (records.find? (·.token = token)).map (·.createdAt) :=
    lookup_map_value _ records token
  cases answered with
  | again found => simp [recordings, Use.recording?, enter, shown, found]
  | first id absent => simp [recordings, Use.recording?, enter, shown, absent, entry]
  | lookup _ => rfl
  | list => rfl

/-- A recording is answered with the record that its token has from then on. -/
theorem Answered.exists_find? {token : String} {now : Int64}
    (answered : Answered records (.record token now) answer records') :
    ∃ record, answer = .recorded record ∧ records'.find? (·.token = token) = some record := by
  cases answered with
  | again found => exact ⟨_, rfl, found⟩
  | first id absent => exact ⟨_, rfl, by simp [List.find?_append, absent]⟩

/-- A token that has a record is answered with it. -/
theorem Answered.eq_of_find? {token : String} {now : Int64} {record : RecordedToken}
    (answered : Answered records (.record token now) answer records')
    (found : records.find? (·.token = token) = some record) : answer = .recorded record := by
  cases answered with
  | again found' => rw [Option.some.inj (found.symm.trans found')]
  | first id absent => exact absurd (found.symm.trans absent) nofun

/-- Apart from numbers, a use is answered as the reference says. -/
theorem Answered.expected {earlier : List Use}
    (answered : Answered records next answer records')
    (entries : records.map entry = firsts (recordings earlier)) :
    answer.unnumbered = next.expected earlier := by
  have shown (token : String) : (recordings earlier).lookup token =
      (records.find? (·.token = token)).map (·.createdAt) := by
    rw [← lookup_firsts, ← entries]
    exact lookup_map_value _ records token
  cases answered with
  | @again token now record found =>
    have same : record.token = token := by simpa using List.find?_some found
    simp [Answer.unnumbered, Use.expected, shown, found, same]
  | first id absent => simp [Answer.unnumbered, Use.expected, shown, absent]
  | lookup token => simp [Answer.unnumbered, Use.expected, shown]
  | list => simp [Answer.unnumbered, Use.expected, ← entries, entry]

/-- The records of an answer are in the order of their numbers, one for each token. -/
theorem Answered.ordered {backend : RevocationBackend} {store : RevocationStore} {last : Nat}
    (answered : Answered records next answer records')
    (keeps : Keeps backend store last records) :
    (answer.records.Pairwise fun first second => first.id < second.id) ∧
      (answer.records.map (·.token)).Nodup := by
  cases answered with
  | again _ => exact ⟨List.pairwise_singleton _ _, List.nodup_singleton _⟩
  | first _ _ => exact ⟨List.pairwise_singleton _ _, List.nodup_singleton _⟩
  | lookup _ => exact ⟨.nil, .nil⟩
  | list => exact ⟨keeps.ordered, keeps.distinct⟩

end Answers

/-! ## All uses -/

variable {backend : RevocationBackend} {store : RevocationStore} {last : Nat}
  {records : List RecordedToken}

/-- An empty store keeps no records. -/
theorem keeps_empty (backend : RevocationBackend) : Keeps backend {} 0 [] where
  backs := by
    cases backend with
    | table => rfl
    | redis => exact ⟨rfl, rfl, rfl, rfl⟩
  drawn := by simp
  timed := by simp
  ordered := .nil
  distinct := .nil

/-- **Either backend stays beside the log through all uses.** -/
theorem Keeps.run (keeps : Keeps backend store last records) (uses : List Use)
    (few : (last + uses.length : Int) ≤ Int64.maxValue.toInt) :
    ∃ last' records', last' ≤ last + uses.length ∧
      Keeps backend (after backend store uses) last' records' ∧
      records <+: records' ∧
      records'.map entry = (recordings uses).foldl enter (records.map entry) := by
  induction uses generalizing store last records with
  | nil => exact ⟨last, records, Nat.le_refl _, keeps, List.prefix_refl _, rfl⟩
  | cons next later ih =>
    rw [List.length_cons] at few
    obtain ⟨answer, middle, between, answered, step, -, kept⟩ := keeps.use (by omega) next
    obtain ⟨last', records', steps, kept', grown, entries⟩ := ih kept (by omega)
    refine ⟨last', records', by rw [List.length_cons]; omega, kept',
      answered.isPrefix.trans grown, ?_⟩
    have split : recordings (next :: later) = recordings [next] ++ recordings later := by
      rw [recordings, ← List.singleton_append, List.filterMap_append]
      rfl
    rw [entries, answered.entries, split, List.foldl_append]

/-- A token that was recorded before is answered with the record that it got then. -/
theorem use_record_again {earlier between : List Use} {token : String} {first now : Int64}
    (few : ((earlier ++ .record token first :: between).length : Int) < Int64.maxValue.toInt) :
    ((after backend {} (earlier ++ .record token first :: between)).use backend
        (.record token now)).1 =
      ((after backend {} earlier).use backend (.record token first)).1 := by
  rw [List.length_append, List.length_cons] at few
  obtain ⟨last, records, bound, keeps, -, -⟩ :=
    (keeps_empty backend).run earlier (by omega)
  obtain ⟨made, last', records', answered, step, ok, keeps'⟩ :=
    keeps.use (by omega) (.record token first)
  obtain ⟨last'', records'', bound', keeps'', grown, -⟩ := keeps'.run between (by omega)
  obtain ⟨answer, _, _, again, -, ok', -⟩ := keeps''.use (by omega) (.record token now)
  have same : answer = made := by
    obtain ⟨record, rfl, found⟩ := answered.exists_find?
    obtain ⟨added, rfl⟩ := grown
    apply again.eq_of_find?
    rw [List.find?_append, found, Option.some_or]
  rw [after, List.foldl_append, List.foldl_cons, ← after, ← after, ok, ok', same]

/-- **Both backends keep the same append-only log.** Behind the same uses of two empty stores, both
answer the next use, and what they answer differs in nothing but numbers: it is what the uses before
it say. Records are listed once for each token in the order of their numbers, and a token that was
recorded before is answered with the very record that it got then. -/
theorem backends_keep_one_log {before : List Use}
    (few : (before.length : Int) < Int64.maxValue.toInt) (next : Use) :
    ∃ answer : RevocationBackend → Answer,
      (answer .table).unnumbered = (answer .redis).unnumbered ∧
      ∀ backend, ((after backend {} before).use backend next).1 = .ok (answer backend) ∧
        (answer backend).unnumbered = next.expected before ∧
        ((answer backend).records.Pairwise fun first second => first.id < second.id) ∧
        ((answer backend).records.map (·.token)).Nodup ∧
        ∀ token now, next = .record token now →
          ∀ earlier first between, before = earlier ++ .record token first :: between →
            ((after backend {} earlier).use backend (.record token first)).1 =
              .ok (answer backend) := by
  have each (backend : RevocationBackend) : ∃ answer,
      ((after backend {} before).use backend next).1 = .ok answer ∧
        answer.unnumbered = next.expected before ∧
        (answer.records.Pairwise fun first second => first.id < second.id) ∧
        (answer.records.map (·.token)).Nodup := by
    obtain ⟨last, records, bound, keeps, -, entries⟩ :=
      (keeps_empty backend).run before (by omega)
    obtain ⟨answer, _, _, answered, -, ok, -⟩ := keeps.use (by omega) next
    exact ⟨answer, ok, answered.expected entries, answered.ordered keeps⟩
  choose answer ok expected ordered using each
  refine ⟨answer, (expected .table).trans (expected .redis).symm, fun backend =>
    ⟨ok backend, expected backend, (ordered backend).1, (ordered backend).2, ?_⟩⟩
  rintro token now rfl earlier first between rfl
  exact (use_record_again few).symm.trans (ok backend)

/-- A colon in a token does no harm, and a later recording is answered with the earlier time. -/
theorem backends_keep_one_log_behind_recording :
    ∃ answer : RevocationBackend → Answer, ∀ backend,
      ((after backend {} [.record "a:b" 5]).use backend (.record "a:b" 9)).1 =
        .ok (answer backend) ∧ (answer backend).unnumbered = .recorded ⟨0, "a:b", 5⟩ := by
  have few : ([Use.record "a:b" 5].length : Int) < Int64.maxValue.toInt := by decide
  obtain ⟨answer, -, each⟩ := backends_keep_one_log few (.record "a:b" 9)
  exact ⟨answer, fun backend => ⟨(each backend).1, (each backend).2.1.trans (by decide)⟩⟩

end RevocationStore

end DualToken
