import Mathlib.Data.List.Nodup
import DualToken.Proofs.Interleaving
import DualToken.Proofs.Revocation.Log

/-!
# Writers of one server agree

Several instances of the service record tokens at one server at the same time. A recording looks for
its token, draws a number, writes if the token is still missing, and otherwise reads what another
writer has written. Each command is carried out as a whole, but between any two of them the others
may send theirs.

At every moment a writer is at one of a few stages, and the stage says what is left of its recording
(`Stage.session`). `Moves` is all that a turn can do: to the stage of the writer whose turn it is,
to the records, and to the counter. A number that was drawn but not written yet is the writer's own:
no record has it, and no other writer (`Standing`). So every turn preserves that the server holds
records with different tokens and different numbers (`Standing.turn`), and whatever the order of the
turns, all writers of a token end with the record that the server then has for it
(`writers_agree`).
-/

set_option autoImplicit false

namespace DualToken.Redis

/-! ## The records of a server -/

/-- What the values of a hash are read as. -/
def readAll (hash : List (String × String)) : Except AuthError (List RecordedToken) :=
  hash.mapM fun entry => readValue entry.1 entry.2

/-- Nothing disturbs the server, and its hash is read as these records: their tokens differ, their
numbers differ, and the counter, an integer of sixty-four bits, has reached all of them. -/
structure Server.Holds (server : Server) (records : List RecordedToken) : Prop where
  quiet : server.failures = []
  alone : server.rivals = []
  reads : readAll server.hash = .ok records
  tokens : (records.map (·.token)).Nodup
  ids : (records.map (·.id)).Nodup
  drawn : ∀ record ∈ records, record.id ≤ server.counter
  counted : ∃ counter : Int64, server.counter = counter.toInt

section Records

variable {server : Server} {records : List RecordedToken} {hash : List (String × String)}
  {token : String}

/-- A field is read as a record of the token that names it. -/
theorem token_of_readValue {value : String} {record : RecordedToken}
    (read : readValue token value = .ok record) : record.token = token := by
  simp only [readValue] at read
  split at read
  · next made parts =>
    obtain rfl := Except.ok.inj read
    obtain ⟨id, -, behind⟩ := Option.bind_eq_some_iff.1 parts
    split at behind
    · cases behind
    · obtain ⟨time, -, same⟩ := Option.bind_eq_some_iff.1 behind
      rw [← Option.some.inj same]
  · cases read

theorem readAll_cons {entry : String × String} (reads : readAll (entry :: hash) = .ok records) :
    ∃ record following, readValue entry.1 entry.2 = .ok record ∧
      readAll hash = .ok following ∧ records = record :: following := by
  rw [readAll, List.mapM_cons, ← readAll] at reads
  cases first : readValue entry.1 entry.2 with
  | error error =>
    rw [first] at reads
    exact absurd reads nofun
  | ok record =>
    cases rest : readAll hash with
    | error error =>
      rw [first, rest] at reads
      exact absurd reads nofun
    | ok following =>
      rw [first, rest] at reads
      exact ⟨record, following, rfl, rfl, (Except.ok.inj reads).symm⟩

/-- A record that is written behind the others is read behind them. -/
theorem readAll_append_singleton {entry : String × String} {record : RecordedToken}
    (reads : readAll hash = .ok records) (read : readValue entry.1 entry.2 = .ok record) :
    readAll (hash ++ [entry]) = .ok (records ++ [record]) := by
  rw [readAll, List.mapM_append, ← readAll, reads, List.mapM_cons, read]
  rfl

/-- **A token is looked up in a hash at its record.** -/
theorem readValue_lookup (reads : readAll hash = .ok records) (token : String) :
    (hash.lookup token).map (readValue token) =
      (records.find? (·.token = token)).map Except.ok := by
  induction hash generalizing records with
  | nil =>
    obtain rfl : [] = records := Except.ok.inj reads
    rfl
  | cons entry others ih =>
    obtain ⟨field, value⟩ := entry
    obtain ⟨record, following, read, rest, rfl⟩ := readAll_cons reads
    obtain rfl := token_of_readValue read
    by_cases same : record.token = token
    · subst same
      simp [read]
    · have other : (token == record.token) = false := beq_eq_false_iff_ne.2 (Ne.symm same)
      rw [List.lookup_cons, other, List.find?_cons_of_neg (by simpa using same)]
      exact ih rest

end Records

/-! ## The stages of a recording -/

/-- How far a recording has come. -/
inductive Stage where
  /-- The token is to be looked up. -/
  | asking
  /-- The token was not there, and a number is to be drawn. -/
  | drawing
  /-- The record with this number is to be written. -/
  | writing (id : Int64)
  /-- Another writer came first, and its record is to be read. -/
  | reading
  | ended (record : RecordedToken)
  deriving DecidableEq

/-- A recording that is under way. -/
structure Writer where
  token : String
  /-- The time that the writer's clock tells. -/
  now : Int64
  stage : Stage := .asking

namespace Writer

/-- Reads the record of a writer that came first. -/
def reread (token : String) : Session RecordedToken :=
  send (.get token) fun (existing : Option String) =>
    match existing with
    | some value => .done (readValue token value)
    | none => .done (.error Error.missingText.toAuthError)

/-- Writes the record with a number. -/
def write (token : String) (now id : Int) : Session RecordedToken :=
  send (.putNew token (writeValue id now)) fun (isNew : Bool) =>
    if isNew then .done (readValue token (writeValue id now)) else reread token

/-- What is left of a recording. -/
def session (writer : Writer) : Session RecordedToken :=
  match writer.stage with
  | .asking => record writer.token writer.now.toInt
  | .drawing => send .increment fun (id : Int) => write writer.token writer.now.toInt id
  | .writing id => write writer.token writer.now.toInt id.toInt
  | .reading => reread writer.token
  | .ended record => .done (.ok record)

/-- What a writer's stage says about the server: a number to be written was drawn and is not in use,
a token to be read has a record, and a writer ends with the record of its token. -/
def Stands (writer : Writer) (records : List RecordedToken) (counter : Int) : Prop :=
  match writer.stage with
  | .asking | .drawing => True
  | .writing id => id.toInt ≤ counter ∧ id.toInt ∉ records.map (·.id)
  | .reading => writer.token ∈ records.map (·.token)
  | .ended record => record ∈ records ∧ record.token = writer.token

end Writer

/-! ## Turns -/

/-- The refusal to draw a number when there is none left. -/
def overflow : Performed Command Command.Reply :=
  ⟨.increment, .error (.refused "ERR" (some "increment or decrement would overflow"))⟩

/-- All that a turn of a writer can do: to its stage, to the records, and to the counter. -/
inductive Moves (writer : Writer) (records : List RecordedToken) (counter : Int) :
    Stage → List RecordedToken → Int → Prop where
  | found {record : RecordedToken} (reads : writer.stage = .asking ∨ writer.stage = .reading)
      (member : record ∈ records) (same : record.token = writer.token) :
      Moves writer records counter (.ended record) records counter
  | missed (isAsking : writer.stage = .asking) :
      Moves writer records counter .drawing records counter
  | drew {id : Int64} (isDrawing : writer.stage = .drawing) (next : id.toInt = counter + 1) :
      Moves writer records counter (.writing id) records id.toInt
  | lost {id : Int64} (isWriting : writer.stage = .writing id)
      (present : writer.token ∈ records.map (·.token)) :
      Moves writer records counter .reading records counter
  | won {id : Int64} (isWriting : writer.stage = .writing id)
      (absent : writer.token ∉ records.map (·.token)) :
      Moves writer records counter (.ended ⟨id.toInt, writer.token, writer.now.toInt⟩)
        (records ++ [⟨id.toInt, writer.token, writer.now.toInt⟩]) counter

section Turns

variable {server : Server} {records : List RecordedToken} {writer : Writer}

theorem Server.Holds.exists_of_lookup_some (holds : server.Holds records) {token value : String}
    (found : server.hash.lookup token = some value) :
    ∃ record ∈ records, record.token = token ∧ readValue token value = .ok record := by
  have read := readValue_lookup holds.reads token
  rw [found, Option.map_some] at read
  obtain ⟨record, search, same⟩ := Option.map_eq_some_iff.1 read.symm
  exact ⟨record, List.mem_of_find?_eq_some search, by simpa using List.find?_some search, same.symm⟩

theorem Server.Holds.notMem_of_lookup_none (holds : server.Holds records) {token : String}
    (absent : server.hash.lookup token = none) : token ∉ records.map (·.token) := by
  have read := readValue_lookup holds.reads token
  rw [absent, Option.map_none, eq_comm, Option.map_eq_none_iff, List.find?_eq_none] at read
  simpa using read

/-- The records do not depend on the notes of what was received. -/
theorem Server.Holds.noted (holds : server.Holds records) (received : List String) :
    { server with received }.Holds records :=
  { holds with }

/-- A record with a number that is not in use, written for a token that is not there, joins the
others. -/
theorem Server.Holds.written (holds : server.Holds records) {token : String} {id : Int64}
    (now : Int64) (absent : token ∉ records.map (·.token)) (drawn : id.toInt ≤ server.counter)
    (unused : id.toInt ∉ records.map (·.id)) (received : List String) :
    Server.Holds { server with
      hash := server.hash ++ [(token, writeValue id.toInt now.toInt)]
      received } (records ++ [⟨id.toInt, token, now.toInt⟩]) where
  quiet := holds.quiet
  alone := holds.alone
  reads := readAll_append_singleton holds.reads (readValue_writeValue token id now)
  tokens := by
    rw [List.map_append]
    exact List.nodup_append'.2 ⟨holds.tokens, List.nodup_singleton _, by simpa using absent⟩
  ids := by
    rw [List.map_append]
    exact List.nodup_append'.2 ⟨holds.ids, List.nodup_singleton _, by simpa using unused⟩
  drawn := by
    intro record member
    rcases List.mem_append.1 member with member | member
    · exact holds.drawn record member
    · obtain rfl := List.mem_singleton.1 member
      exact drawn
  counted := holds.counted

/-- A number that is not the last one has a next one. -/
theorem exists_next {counter : Int64} (free : counter.toInt < Int64.maxValue.toInt) :
    ∃ next : Int64, next.toInt = counter.toInt + 1 := by
  refine ⟨Int64.ofInt (counter.toInt + 1), Int64.toInt_ofInt_of_le ?_ ?_⟩
  · exact Int.le_trans counter.minValue_le_toInt (by omega)
  · exact Int.lt_of_le_of_lt (Int.add_one_le_of_lt free) (by decide)

/-- Drawing a number leaves the records alone. -/
theorem Server.Holds.counts (holds : server.Holds records)
    (free : server.counter < Int64.maxValue.toInt) (received : List String) :
    { server with counter := server.counter + 1, received }.Holds records ∧
      ∃ id : Int64, id.toInt = server.counter + 1 := by
  obtain ⟨counter, counted⟩ := holds.counted
  obtain ⟨id, next⟩ : ∃ id : Int64, id.toInt = server.counter + 1 := by
    rw [counted] at free ⊢
    exact exists_next free
  refine ⟨{ holds with drawn := fun record member => ?_, counted := ⟨_, next.symm⟩ }, _, next⟩
  have drawn := holds.drawn record member
  simp only
  omega

/-- **A turn of a writer moves it to its next stage**, unless it is at its end or there is no number
left. -/
theorem exists_moves (holds : server.Holds records)
    (stands : writer.Stands records server.counter) :
    (∃ record, writer.session = .done (.ok record)) ∨
      ∃ command next, writer.session = .act command next ∧
        (⟨command, (server.receive command).1⟩ ≠ overflow →
          ∃ stage records', next (server.receive command).1 = { writer with stage }.session ∧
            Moves writer records server.counter stage records' (server.receive command).2.counter ∧
            (server.receive command).2.Holds records' ∧
            server.hash <+: (server.receive command).2.hash) := by
  obtain ⟨token, now, stage⟩ := writer
  have admitted : ∀ received, { server with received }.admitRivals = { server with received } := by
    intro received
    simp only [Server.admitRivals, holds.alone, List.foldl_nil]
  cases stage with
  | asking =>
    refine .inr ⟨.get token, _, rfl, fun _ => ?_⟩
    rw [Server.receive_of_quiet holds.quiet, Server.carryOut]
    cases found : server.hash.lookup token with
    | some value =>
      obtain ⟨record, member, same, read⟩ := holds.exists_of_lookup_some found
      exact ⟨.ended record, records, congrArg Program.done read, .found (.inl rfl) member same,
        holds.noted _, List.prefix_refl _⟩
    | none => exact ⟨.drawing, records, rfl, .missed rfl, holds.noted _, List.prefix_refl _⟩
  | drawing =>
    refine .inr ⟨.increment, _, rfl, fun fits => ?_⟩
    rw [Server.receive_of_quiet holds.quiet, Server.carryOut] at fits ⊢
    by_cases free : server.counter < Int64.maxValue.toInt
    · obtain ⟨kept, id, next⟩ := holds.counts free ("INCRBY" :: server.received)
      rw [if_pos free]
      refine ⟨.writing id, records, ?_, ?_, kept, List.prefix_refl _⟩
      · exact congrArg (Writer.write token now.toInt) next.symm
      · rw [← next]
        exact .drew rfl next
    · rw [if_neg free] at fits
      exact absurd rfl fits
  | writing id =>
    obtain ⟨drawn, unused⟩ := stands
    refine .inr ⟨.putNew token _, _, rfl, fun _ => ?_⟩
    rw [Server.receive_of_quiet holds.quiet, Server.carryOut, admitted]
    dsimp only
    cases found : server.hash.lookup token with
    | some value =>
      obtain ⟨record, member, same, -⟩ := holds.exists_of_lookup_some found
      exact ⟨.reading, records, rfl, .lost rfl (List.mem_map.2 ⟨record, member, same⟩),
        holds.noted _, List.prefix_refl _⟩
    | none =>
      have absent := holds.notMem_of_lookup_none found
      have put : Server.put server.hash (token, writeValue id.toInt now.toInt) =
          server.hash ++ [(token, writeValue id.toInt now.toInt)] := by
        simp [Server.put, found]
      rw [put]
      exact ⟨.ended _, _, congrArg Program.done (readValue_writeValue token id now),
        .won rfl absent, holds.written now absent drawn unused _, List.prefix_append _ _⟩
  | reading =>
    refine .inr ⟨.get token, _, rfl, fun _ => ?_⟩
    rw [Server.receive_of_quiet holds.quiet, Server.carryOut]
    cases found : server.hash.lookup token with
    | some value =>
      obtain ⟨record, member, same, read⟩ := holds.exists_of_lookup_some found
      exact ⟨.ended record, records, congrArg Program.done read, .found (.inr rfl) member same,
        holds.noted _, List.prefix_refl _⟩
    | none => exact absurd stands (holds.notMem_of_lookup_none found)
  | ended record => exact .inl ⟨record, rfl⟩

/-- A number that was drawn is larger than the others, and a record is written with the writer's own
number. So a turn takes nothing from what the stage of another writer says. -/
theorem Moves.stands_of_ne {other : Writer} {stage : Stage} {records' : List RecordedToken}
    {counter counter' : Int} (moves : Moves writer records counter stage records' counter')
    (stands : other.Stands records counter)
    (apart : ∀ id, writer.stage = .writing id → other.stage ≠ .writing id) :
    other.Stands records' counter' := by
  obtain ⟨token, now, position⟩ := other
  cases moves with
  | found _ _ _ => exact stands
  | missed _ => exact stands
  | drew _ next =>
    cases position with
    | writing id =>
      obtain ⟨drawn, unused⟩ := stands
      exact ⟨by omega, unused⟩
    | _ => exact stands
  | lost _ _ => exact stands
  | won isWriting _ =>
    cases position with
    | writing id =>
      obtain ⟨drawn, unused⟩ := stands
      have differs : id.toInt ≠ _ := fun same =>
        apart _ isWriting (congrArg Stage.writing (Int64.toInt_inj.1 same))
      refine ⟨drawn, ?_⟩
      rw [List.map_append, List.mem_append, not_or]
      exact ⟨unused, fun member => differs (List.mem_singleton.1 member)⟩
    | reading =>
      obtain ⟨record, member, same⟩ := List.mem_map.1 stands
      exact List.mem_map.2 ⟨record, List.mem_append_left _ member, same⟩
    | ended record => exact ⟨List.mem_append_left _ stands.1, stands.2⟩
    | _ => exact stands

/-- The stage to which a writer moves says what is the case. -/
theorem Moves.stands {stage : Stage} {records' : List RecordedToken} {counter counter' : Int}
    (moves : Moves writer records counter stage records' counter')
    (drawn : ∀ record ∈ records, record.id ≤ counter) :
    { writer with stage }.Stands records' counter' := by
  cases moves with
  | found _ member same => exact ⟨member, same⟩
  | missed _ => trivial
  | drew _ next =>
    refine ⟨Int.le_refl _, fun member => ?_⟩
    obtain ⟨record, member, same⟩ := List.mem_map.1 member
    have bound := drawn record member
    omega
  | lost _ present => exact present
  | won _ _ => exact ⟨List.mem_append_right _ (List.mem_singleton.2 rfl), rfl⟩

/-- A writer moves to writing a number that no other writer is about to write. -/
theorem Moves.ne_writing {other : Writer} {stage : Stage} {records' : List RecordedToken}
    {counter counter' : Int} (moves : Moves writer records counter stage records' counter')
    (stands : other.Stands records counter) (id : Int64) (isWriting : stage = .writing id) :
    other.stage ≠ .writing id := by
  cases moves with
  | drew _ next =>
    obtain rfl := Stage.writing.inj isWriting
    intro same
    rw [Writer.Stands, same] at stands
    have drawn := stands.1
    omega
  | _ => exact absurd isWriting nofun

end Turns

/-! ## All turns -/

/-- The recordings of these tokens, each at the time of its writer's clock. -/
def recordings (calls : List (String × Int64)) : List (Session RecordedToken) :=
  calls.map fun call => record call.1 call.2.toInt

/-- The programs are what is left of the calls, the server holds records, and all entries of an
earlier hash are still there. What the stages of the writers say is the case, and no two of them are
about to write the same number. -/
structure Standing (calls : List (String × Int64)) (earlier : List (String × String))
    (programs : List (Session RecordedToken)) (server : Server) (writers : List Writer)
    (records : List RecordedToken) : Prop where
  holds : server.Holds records
  grown : earlier <+: server.hash
  sessions : programs = writers.map (·.session)
  called : writers.map (fun writer => (writer.token, writer.now)) = calls
  stands : ∀ (position : Nat) (writer : Writer), writers[position]? = some writer →
    writer.Stands records server.counter
  apart : ∀ (first second : Nat) (one other : Writer), first ≠ second →
    writers[first]? = some one → writers[second]? = some other →
    ∀ id, one.stage = .writing id → other.stage ≠ .writing id

section Schedules

variable {calls : List (String × Int64)} {hash : List (String × String)}
  {programs : List (Session RecordedToken)} {server : Server} {writers : List Writer}
  {records : List RecordedToken}

/-- The standing behind a move of one of the writers. -/
theorem Standing.moved (standing : Standing calls hash programs server writers records)
    {position : Nat} {writer : Writer} (found : writers[position]? = some writer) {stage : Stage}
    {server' : Server} {records' : List RecordedToken}
    (moves : Moves writer records server.counter stage records' server'.counter)
    (holds : server'.Holds records') (grown : server.hash <+: server'.hash) :
    Standing calls hash (programs.set position { writer with stage }.session) server'
      (writers.set position { writer with stage }) records' where
  holds := holds
  grown := standing.grown.trans grown
  sessions := by rw [standing.sessions, List.map_set]
  called := by
    obtain ⟨inside, rfl⟩ := List.getElem?_eq_some_iff.1 found
    have inside' : position < (writers.map fun writer => (writer.token, writer.now)).length := by
      simpa using inside
    have same : (writers.map fun writer => (writer.token, writer.now))[position] =
        (writers[position].token, writers[position].now) := List.getElem_map _
    rw [List.map_set, ← standing.called, ← same, List.set_getElem_self]
  stands := by
    intro other writer' found'
    by_cases here : position = other
    · subst here
      obtain ⟨inside, -⟩ := List.getElem?_eq_some_iff.1 found
      rw [List.getElem?_set_self inside] at found'
      obtain rfl := Option.some.inj found'
      exact moves.stands standing.holds.drawn
    · rw [List.getElem?_set_ne here] at found'
      exact moves.stands_of_ne (standing.stands other writer' found')
        (standing.apart position other writer writer' here found found')
  apart := by
    intro first second one other differs foundFirst foundSecond id isWriting
    by_cases here : position = first
    · subst here
      obtain ⟨inside, -⟩ := List.getElem?_eq_some_iff.1 found
      rw [List.getElem?_set_self inside] at foundFirst
      obtain rfl := Option.some.inj foundFirst
      rw [List.getElem?_set_ne differs] at foundSecond
      exact moves.ne_writing (standing.stands _ _ foundSecond) id isWriting
    · rw [List.getElem?_set_ne here] at foundFirst
      by_cases there : position = second
      · subst there
        obtain ⟨inside, -⟩ := List.getElem?_eq_some_iff.1 found
        rw [List.getElem?_set_self inside] at foundSecond
        obtain rfl := Option.some.inj foundSecond
        intro same
        exact moves.ne_writing (standing.stands _ _ foundFirst) id same isWriting
      · rw [List.getElem?_set_ne there] at foundSecond
        exact standing.apart first second one other differs foundFirst foundSecond id isWriting

/-- **Every turn preserves the standing.** -/
theorem Standing.turn (standing : Standing calls hash programs server writers records)
    (position : Nat)
    (fits : ∀ performed ∈ Interleaving.performed? Server.receive programs server position,
      performed ≠ overflow) :
    ∃ writers records, Standing calls hash
      (Interleaving.turn Server.receive (programs, server) position).1
      (Interleaving.turn Server.receive (programs, server) position).2 writers records := by
  have left : programs[position]? = writers[position]?.map (·.session) := by
    rw [standing.sessions, List.getElem?_map]
  cases found : writers[position]? with
  | none =>
    rw [found, Option.map_none] at left
    rw [Interleaving.turn_of_none left]
    exact ⟨writers, records, standing⟩
  | some writer =>
    rw [found, Option.map_some] at left
    rcases exists_moves standing.holds (standing.stands _ _ found) with
      ⟨record, ended⟩ | ⟨command, next, acts, goes⟩
    · rw [ended] at left
      rw [Interleaving.turn_of_done left]
      exact ⟨writers, records, standing⟩
    · rw [acts] at left
      have performs : Interleaving.performed? Server.receive programs server position =
          some ⟨command, (server.receive command).1⟩ := by
        simp only [Interleaving.performed?, left]
      obtain ⟨stage, records', session, moves, holds, grown⟩ := goes (fits _ performs)
      rw [Interleaving.turn_of_act left, session]
      exact ⟨_, records', standing.moved found moves holds grown⟩

/-- Before the first turn every writer is about to look for its token. -/
theorem standing_recordings (holds : server.Holds records) (calls : List (String × Int64)) :
    Standing calls server.hash (recordings calls) server
      (calls.map fun call => { token := call.1, now := call.2 }) records where
  holds := holds
  grown := List.prefix_refl _
  sessions := by
    rw [recordings, List.map_map]
    rfl
  called := by
    rw [List.map_map]
    exact List.map_id _
  stands := by
    intro position writer found
    rw [List.getElem?_map] at found
    obtain ⟨call, -, rfl⟩ := Option.map_eq_some_iff.1 found
    trivial
  apart := by
    intro first second one other differs found
    rw [List.getElem?_map] at found
    obtain ⟨call, -, rfl⟩ := Option.map_eq_some_iff.1 found
    exact fun _ _ isWriting => absurd isWriting nofun

/-- The standing does not depend on what is remembered of an earlier hash. -/
theorem Standing.anew (standing : Standing calls hash programs server writers records) :
    Standing calls server.hash programs server writers records :=
  { standing with grown := List.prefix_refl _ }

/-- **Every schedule preserves the standing**, as long as there are numbers left. -/
theorem Standing.run (standing : Standing calls hash programs server writers records)
    {schedule : List Nat}
    (fits : overflow ∉ Interleaving.trace Server.receive schedule programs server) :
    ∃ writers records, Standing calls hash
      (Interleaving.run Server.receive schedule programs server).1
      (Interleaving.run Server.receive schedule programs server).2 writers records := by
  refine Interleaving.run_invariant
    (fun programs server => ∃ writers records, Standing calls hash programs server writers records)
    (· ≠ overflow) ?_ ⟨writers, records, standing⟩ ?_
  · rintro programs server position ⟨writers, records, standing⟩ fits
    exact standing.turn position fits
  · rintro performed member rfl
    exact fits member

/-- A recording that is done has succeeded with a record of its token. -/
theorem Standing.exists_of_done (standing : Standing calls hash programs server writers records)
    {position : Nat} {token : String} {now : Int64} {result : Except AuthError RecordedToken}
    (called : calls[position]? = some (token, now))
    (ended : programs[position]? = some (.done result)) :
    ∃ record ∈ records, record.token = token ∧ result = .ok record := by
  rw [standing.sessions, List.getElem?_map] at ended
  obtain ⟨⟨token', now', stage⟩, found, session⟩ := Option.map_eq_some_iff.1 ended
  rw [← standing.called, List.getElem?_map, found] at called
  obtain ⟨rfl, rfl⟩ := Prod.mk.inj (Option.some.inj called)
  have stands := standing.stands position _ found
  cases stage with
  | ended record =>
    obtain ⟨member, same⟩ := stands
    exact ⟨record, member, same, (Program.done.inj session).symm⟩
  | _ => exact absurd session nofun

end Schedules

/-! ## Agreement -/

section Agreement

variable {server : Server} {records : List RecordedToken} {record : RecordedToken}

/-- A session is done one command after what comes next. -/
theorem endsWithin_send {α : Type} {commands : Nat} (command : Command)
    {next : command.Result → Session α}
    (ends : ∀ result, Interleaving.EndsWithin commands (next result)) :
    Interleaving.EndsWithin (commands + 1) (send command next) := by
  intro reply
  cases reply with
  | ok result => exact ends result
  | error error => exact Interleaving.endsWithin_done commands _

/-- A recording is done after four commands at most. -/
theorem endsWithin_record (token : String) (now : Int) :
    Interleaving.EndsWithin 4 (Redis.record token now) := by
  refine endsWithin_send (.get token) fun (existing : Option String) => ?_
  cases existing with
  | some value => trivial
  | none =>
    refine endsWithin_send .increment fun (id : Int) => ?_
    refine endsWithin_send (.putNew token _) fun (isNew : Bool) => ?_
    cases isNew with
    | true => trivial
    | false =>
      refine endsWithin_send (.get token) fun (existing : Option String) => ?_
      cases existing with
      | some value => trivial
      | none => trivial

/-- A listing tells the records, in some order. -/
theorem Server.Holds.exists_list (holds : server.Holds records) :
    ∃ listed, (Redis.list.run Server.receive server).1 = .ok listed ∧ listed.Perm records := by
  refine ⟨records.mergeSort fun first second => first.id ≤ second.id, ?_,
    List.mergeSort_perm _ _⟩
  simp only [Redis.list, send, Program.run_act, Server.receive_of_quiet holds.quiet,
    Server.carryOut, Program.run_done]
  rw [← readAll, holds.reads]
  rfl

/-- A token that has a record is answered with it. -/
theorem Server.Holds.record_again (holds : server.Holds records) (member : record ∈ records)
    (now : Int) :
    ((Redis.record record.token now).run Server.receive server).1 = .ok record := by
  cases found : server.hash.lookup record.token with
  | none => exact absurd (List.mem_map_of_mem member) (holds.notMem_of_lookup_none found)
  | some value =>
    obtain ⟨held, member', same, read⟩ := holds.exists_of_lookup_some found
    obtain rfl := List.inj_on_of_nodup_map holds.tokens member' member same
    rw [run_record_of_some now holds.quiet found, read]

/-- A record is the only one of its token, in whatever order the records are. -/
theorem Server.Holds.filter_eq (holds : server.Holds records) (member : record ∈ records)
    {listed : List RecordedToken} (permuted : listed.Perm records) :
    listed.filter (·.token = record.token) = [record] := by
  have distinct : listed.Nodup := permuted.nodup_iff.2 holds.tokens.of_map
  apply List.perm_singleton.1
  rw [List.perm_ext_iff_of_nodup (distinct.filter _) (List.nodup_singleton _)]
  intro other
  simp only [List.mem_filter, List.mem_singleton, decide_eq_true_eq]
  constructor
  · rintro ⟨listed, same⟩
    exact List.inj_on_of_nodup_map holds.tokens (permuted.mem_iff.1 listed) member same
  · rintro rfl
    exact ⟨permuted.mem_iff.2 member, rfl⟩

/-- Every token that has a record has one record. -/
theorem Server.Holds.exists_agreed (holds : server.Holds records) :
    ∃ agreed : String → RecordedToken, ∀ record ∈ records, agreed record.token = record := by
  refine ⟨fun token => (records.find? (·.token = token)).getD ⟨0, token, 0⟩,
    fun record member => ?_⟩
  simp only
  rw [← List.head?_filter, holds.filter_eq member (List.Perm.refl _), List.head?_cons,
    Option.getD_some]

end Agreement

/-- **Writers of one server agree.** From a server that holds records, any number of recordings take
turns in any order, and the numbers do not run out. Then no field that was there at some moment is
ever changed or removed, and the server holds records at every moment: their tokens and their
numbers differ, and the counter has reached all of them. A recording that had four turns is done,
every recording that is done has succeeded, and for each token there is one record with which all
recordings of the token have ended, which is the only one that is listed for it, and with which a
later recording is answered. -/
theorem writers_agree {server : Server} {records : List RecordedToken}
    (holds : server.Holds records) (calls : List (String × Int64)) (earlier later : List Nat)
    (fits : overflow ∉
      Interleaving.trace Server.receive (earlier ++ later) (recordings calls) server) :
    let before := (Interleaving.run Server.receive earlier (recordings calls) server).2
    let reached := Interleaving.run Server.receive (earlier ++ later) (recordings calls) server
    (∀ field value, before.hash.lookup field = some value →
        reached.2.hash.lookup field = some value) ∧
      ∃ (records : List RecordedToken) (agreed : String → RecordedToken),
        reached.2.Holds records ∧
        ∀ position token now, calls[position]? = some (token, now) →
          (4 ≤ (earlier ++ later).count position →
            ∃ result, reached.1[position]? = some (.done result)) ∧
          ∀ result, reached.1[position]? = some (.done result) →
            result = .ok (agreed token) ∧ (agreed token).token = token ∧
              (∃ listed, (list.run Server.receive reached.2).1 = .ok listed ∧
                listed.filter (·.token = token) = [agreed token]) ∧
              ∀ now, ((record token now).run Server.receive reached.2).1 = .ok (agreed token) := by
  intro before reached
  have split : reached = Interleaving.run Server.receive later
      (Interleaving.run Server.receive earlier (recordings calls) server).1 before :=
    Interleaving.run_append _ _ _ _ _
  rw [Interleaving.trace_append, List.mem_append, not_or] at fits
  obtain ⟨writers, records, standing⟩ := (standing_recordings holds calls).run fits.1
  obtain ⟨writers, records, standing⟩ := standing.anew.run fits.2
  rw [← split] at standing
  obtain ⟨agreed, shows⟩ := standing.holds.exists_agreed
  refine ⟨fun field value found => ?_, records, agreed, standing.holds, ?_⟩
  · obtain ⟨added, same⟩ := standing.grown
    rw [← same, List.lookup_append, found, Option.some_or]
  intro position token now called
  constructor
  · intro turns
    have asked : (recordings calls)[position]? = some (record token now.toInt) := by
      rw [recordings, List.getElem?_map, called, Option.map_some]
    exact Interleaving.exists_done asked (endsWithin_record token _) turns server
  · intro result ended
    obtain ⟨record, member, rfl, rfl⟩ := standing.exists_of_done called ended
    obtain ⟨listed, ok, permuted⟩ := standing.holds.exists_list
    rw [shows record member]
    exact ⟨rfl, rfl, ⟨listed, ok, standing.holds.filter_eq member permuted⟩,
      standing.holds.record_again member⟩

/-- Two writers of one token look for it before either of them has written it. The one that draws
its number last writes first, and both end with its record. -/
theorem writers_agree_behind_race :
    ∃ agreed : RecordedToken, agreed.token = "b" ∧ ∀ position ∈ [0, 1],
      (Interleaving.run Server.receive [0, 1, 0, 1, 1, 0, 0, 1] (recordings [("b", 5), ("b", 7)])
        { hash := [("a", writeValue 3 10)], counter := 3 }).1[position]? =
          some (.done (.ok agreed)) := by
  have holds : Server.Holds { hash := [("a", writeValue 3 10)], counter := 3 } [⟨3, "a", 10⟩] :=
    { quiet := rfl
      alone := rfl
      reads := readAll_append_singleton (rfl : readAll [] = .ok []) (readValue_writeValue "a" 3 10)
      tokens := by decide
      ids := by decide
      drawn := by decide
      counted := ⟨3, rfl⟩ }
  have fits : overflow ∉ Interleaving.trace Server.receive [0, 1, 0, 1, 1, 0, 0, 1]
      (recordings [("b", 5), ("b", 7)]) { hash := [("a", writeValue 3 10)], counter := 3 } := by
    have free : (3 : Int) < Int64.maxValue.toInt ∧ (4 : Int) < Int64.maxValue.toInt := by decide
    simp [Interleaving.trace, Interleaving.turn, Interleaving.performed?, recordings, record, send,
      Server.receive, Server.carryOut, Server.admitRivals, Server.put, overflow, free]
  obtain ⟨-, records, agreed, -, each⟩ :=
    writers_agree holds [("b", 5), ("b", 7)] [] [0, 1, 0, 1, 1, 0, 0, 1] fits
  have ends (position : Nat) (now : Int64)
      (called : [("b", (5 : Int64)), ("b", 7)][position]? = some ("b", now))
      (turns : 4 ≤ [0, 1, 0, 1, 1, 0, 0, 1].count position) : (agreed "b").token = "b" ∧
      (Interleaving.run Server.receive [0, 1, 0, 1, 1, 0, 0, 1] (recordings [("b", 5), ("b", 7)])
        { hash := [("a", writeValue 3 10)], counter := 3 }).1[position]? =
          some (.done (.ok (agreed "b"))) := by
    obtain ⟨done, shows⟩ := each position "b" now called
    obtain ⟨result, ended⟩ := done turns
    obtain ⟨rfl, same, -⟩ := shows result ended
    exact ⟨same, ended⟩
  refine ⟨agreed "b", (ends 0 5 rfl (by decide)).1, ?_⟩
  simp only [List.forall_mem_cons]
  exact ⟨(ends 0 5 rfl (by decide)).2, (ends 1 7 rfl (by decide)).2, List.forall_mem_nil _⟩

end DualToken.Redis
