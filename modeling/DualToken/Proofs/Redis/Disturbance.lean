import DualToken.Proofs.Redis.Agreement

/-!
# Recordings that are disturbed

A recording is up to four commands, and each of them may be refused. Other writers may put their
entries in just before the write looks, whatever they hold. What the server does with a command is
here only what everybody relies on (`Server.Answers`): a command that is refused changes no entry,
and one that is not refused is carried out. So the results are about every script of refusals,
whether they are queued at the server or come from anywhere else.

What a session comes to under such answers is a promise about its end (`Ends`), which is shown
stage by stage: for reading a record again, for writing one, and for a whole recording. A recording
has done one of three things (`Recorded`): it has written nothing, it has met its token at the
moment of writing, or it has added one field. In each of them the record that it answers with is
the one in the field, and what a later recording makes of the field depends on nothing but the
field (`record_survives`).
-/

set_option autoImplicit false

namespace DualToken.Redis

/-! ## Commands that may be refused -/

namespace Server

/-- A command is refused and changes no entry, or it is carried out. -/
inductive Answers (before : Server) (command : Command) : command.Reply → Server → Prop
  | refused {after : Server} (error : Error) (same : before.SameEntries after) :
      Answers before command (.error error) after
  | carriedOut {after : Server} (same : (carryOut command before).2.SameEntries after) :
      Answers before command (carryOut command before).1 after

variable {before after : Server} {field value : String}

/-- What a server has noted does not bear on what it does with a command. -/
theorem SameEntries.carryOut {noted : Server} (same : before.SameEntries noted)
    (command : Command) :
    (Server.carryOut command noted).1 = (Server.carryOut command before).1 ∧
      (Server.carryOut command before).2.SameEntries (Server.carryOut command noted).2 := by
  obtain ⟨received, failures, rfl⟩ := same
  cases command with
  | increment =>
    rw [Server.carryOut, Server.carryOut]
    dsimp only
    split
    · exact ⟨rfl, received, failures, rfl⟩
    · exact ⟨rfl, received, failures, rfl⟩
  | putNew field value =>
    rw [Server.carryOut, Server.carryOut, Server.admitRivals, Server.admitRivals]
    dsimp only
    split
    · exact ⟨rfl, received, failures, rfl⟩
    · exact ⟨rfl, received, failures, rfl⟩
  | get _ => exact ⟨rfl, received, failures, rfl⟩
  | contains _ => exact ⟨rfl, received, failures, rfl⟩
  | all => exact ⟨rfl, received, failures, rfl⟩

/-- **A server answers every command**: it refuses one if a failure in waiting names it. -/
theorem answers_receive (command : Command) (server : Server) :
    server.Answers command (server.receive command).1 (server.receive command).2 := by
  have carried : ∀ noted : Server, server.SameEntries noted →
      server.Answers command (carryOut command noted).1 (carryOut command noted).2 := by
    intro noted same
    obtain ⟨reply, same⟩ := same.carryOut command
    rw [reply]
    exact .carriedOut same
  rw [receive]
  dsimp only
  split
  · split
    · exact .refused _ ⟨_, _, rfl⟩
    · exact carried _ ⟨_, _, rfl⟩
  · exact carried _ ⟨_, _, rfl⟩

/-- Looking at a field changes no entry, and tells what is there. -/
theorem Answers.get {reply : (Command.get field).Reply}
    (answers : before.Answers (.get field) reply after) :
    before.SameEntries after ∧ ∀ found, reply = .ok found → found = before.hash.lookup field := by
  cases answers with
  | refused error same => exact ⟨same, nofun⟩
  | carriedOut same => exact ⟨same, fun found ok => (Except.ok.inj ok).symm⟩

/-- A number is drawn, or nothing has happened. -/
theorem Answers.increment {reply : Command.increment.Reply}
    (answers : before.Answers .increment reply after) :
    (∃ error, reply = .error error ∧ before.SameEntries after) ∨
      (reply = .ok (before.counter + 1) ∧
        { before with counter := before.counter + 1 }.SameEntries after) := by
  cases answers with
  | refused error same => exact .inl ⟨error, rfl, same⟩
  | carriedOut same =>
    rw [carryOut] at same ⊢
    split
    · next free =>
      rw [if_pos free] at same
      exact .inr ⟨rfl, same⟩
    · next full =>
      rw [if_neg full] at same
      exact .inl ⟨_, rfl, same⟩

/-- A field is written if it is not there when the other writers have come; or nothing has
happened. -/
theorem Answers.putNew {reply : (Command.putNew field value).Reply}
    (answers : before.Answers (.putNew field value) reply after) :
    (∃ error, reply = .error error ∧ before.SameEntries after) ∨
      (∃ other, before.admitRivals.hash.lookup field = some other ∧ reply = .ok false ∧
        before.admitRivals.SameEntries after) ∨
      (before.admitRivals.hash.lookup field = none ∧ reply = .ok true ∧
        { before.admitRivals with
          hash := before.admitRivals.hash ++ [(field, value)] }.SameEntries after) := by
  cases answers with
  | refused error same => exact .inl ⟨error, rfl, same⟩
  | carriedOut same =>
    right
    simp only [carryOut] at same ⊢
    cases found : before.admitRivals.hash.lookup field with
    | some other =>
      rw [found, Option.isSome_some, if_pos rfl] at same
      exact .inl ⟨other, rfl, by simp, same⟩
    | none =>
      rw [found, Option.isSome_none, if_neg Bool.false_ne_true, put, found, Option.isSome_none,
        if_neg Bool.false_ne_true] at same
      exact .inr ⟨rfl, by simp, same⟩

end Server

/-! ## Sessions whose commands may be refused -/

/-- What a conditional write was answered with: whether the field was new. -/
def write? : Performed Command Command.Reply → Option Bool
  | ⟨.putNew _ _, .ok isNew⟩ => some isNew
  | _ => none

/-- However its commands are answered, the session comes to an end that is as promised: by the
answers of its conditional writes, its result, and the server behind it. -/
def Ends {α : Type} :
    (List Bool → Except AuthError α → Server → Prop) → Session α → Server → Prop
  | promise, .done result, before => promise [] result before
  | promise, .act command next, before =>
    ∀ reply after, before.Answers command reply after →
      Ends (fun writes => promise ((write? ⟨command, reply⟩).toList ++ writes)) (next reply) after

section Ends

variable {σ α : Type} {promise weaker : List Bool → Except AuthError α → Server → Prop}
  {session : Session α} {before : Server}

/-- A session may promise less. -/
theorem Ends.mono (ends : Ends promise session before)
    (implies : ∀ writes result after, promise writes result after → weaker writes result after) :
    Ends weaker session before := by
  induction session generalizing promise weaker before with
  | done result => exact implies _ _ _ ends
  | act command next ih =>
    exact fun reply after answers =>
      ih reply (ends reply after answers) fun writes => implies _

/-- A session that begins with a command ends with its error or goes on with its result. -/
theorem ends_send {command : Command} {next : command.Result → Session α}
    (refused : ∀ error after, before.Answers command (.error error) after →
      promise [] (.error error.toAuthError) after)
    (answered : ∀ result after, before.Answers command (.ok result) after →
      Ends (fun writes => promise ((write? ⟨command, .ok result⟩).toList ++ writes))
        (next result) after) :
    Ends promise (send command next) before := by
  intro reply after answers
  cases reply with
  | ok result => exact answered result after answers
  | error error =>
    have unwritten : write? ⟨command, .error error⟩ = none := by
      cases command with
      | _ => rfl
    change promise ((write? ⟨command, .error error⟩).toList ++ []) _ after
    rw [unwritten]
    exact refused error after answers

/-- **A session ends as promised wherever it runs**, if every command is refused or carried out. -/
theorem Ends.run {world : (command : Command) → σ → command.Reply × σ} {server : σ → Server}
    (answers : ∀ command state,
      (server state).Answers command (world command state).1 (server (world command state).2))
    {state : σ} (ends : Ends promise session (server state)) :
    promise ((session.trace world state).filterMap write?) (session.run world state).1
      (server (session.run world state).2) := by
  induction session generalizing promise state with
  | done result => exact ends
  | act command next ih =>
    have rest := ih _ (ends _ _ (answers command state))
    rw [Program.trace_act, Program.run_act, List.filterMap_cons]
    cases written : write? ⟨command, (world command state).1⟩ with
    | none =>
      rw [written] at rest
      exact rest
    | some isNew =>
      rw [written] at rest
      exact rest

end Ends

/-! ## What a recording has done -/

/-- All that a recording can have done that would write `value`, where the hash is `before`, and
`admitted` with the entries of the other writers in it: how its conditional writes were answered,
its result, and the hash behind it. -/
inductive Recorded (token value : String) (before admitted : List (String × String)) :
    List Bool → Except AuthError RecordedToken → List (String × String) → Prop
  /-- Nothing was written; if the token was there, its record may be the answer. -/
  | unwritten {result : Except AuthError RecordedToken}
      (backed : ∀ record, result = .ok record →
        ∃ found, before.lookup token = some found ∧ readValue token found = .ok record) :
      Recorded token value before admitted [] result before
  /-- Another writer had come first, and its record may be the answer. -/
  | overtaken {result : Except AuthError RecordedToken} {found : String}
      (present : admitted.lookup token = some found)
      (backed : ∀ record, result = .ok record → readValue token found = .ok record) :
      Recorded token value before admitted [false] result admitted
  /-- The record was written, and it is the answer. -/
  | written (absent : admitted.lookup token = none) :
      Recorded token value before admitted [true] (readValue token value)
        (admitted ++ [(token, value)])

section Recorded

variable {token value : String} {before admitted after : List (String × String)}
  {writes : List Bool} {result : Except AuthError RecordedToken}

/-- A recording adds the field of its token, or leaves the hash as it found it. -/
theorem Recorded.hash (recorded : Recorded token value before admitted writes result after) :
    let found := if writes = [] then before else admitted
    writes = [true] ∧ found.lookup token = none ∧ (∃ value, after = found ++ [(token, value)]) ∨
      writes ≠ [true] ∧ after = found := by
  cases recorded with
  | unwritten _ => exact .inr ⟨nofun, rfl⟩
  | overtaken _ _ => exact .inr ⟨by decide, rfl⟩
  | written absent => exact .inl ⟨rfl, absent, value, rfl⟩

/-- The record that a recording answers with is in the field of its token. -/
theorem Recorded.backed (recorded : Recorded token value before admitted writes result after)
    {made : RecordedToken} (ok : result = .ok made) :
    ∃ value, after.lookup token = some value ∧ readValue token value = .ok made := by
  cases recorded with
  | unwritten backed => exact backed made ok
  | overtaken present backed => exact ⟨_, present, backed made ok⟩
  | written absent => exact ⟨value, by simp [List.lookup_append, absent], ok⟩

end Recorded

section Recordings

variable (token : String) (now : Int) (before : Server)

/-- Reading the record of a writer that came first changes no entry. -/
theorem ends_reread :
    Ends (fun writes result after => writes = [] ∧ before.SameEntries after ∧
      ∀ record, result = .ok record →
        ∃ found, before.hash.lookup token = some found ∧ readValue token found = .ok record)
      (Writer.reread token) before := by
  refine ends_send (fun error after answers => ?_)
    fun (existing : Option String) after answers => ?_
  · exact ⟨rfl, answers.get.1, nofun⟩
  · obtain ⟨same, tells⟩ := answers.get
    cases existing with
    | none => exact ⟨rfl, same, nofun⟩
    | some found => exact ⟨rfl, same, fun record ok => ⟨found, (tells _ rfl).symm, ok⟩⟩

/-- Writing with a number that was drawn. -/
theorem ends_write (id : Int) :
    Ends (fun writes result after => after.counter = before.counter ∧
      Recorded token (writeValue id now) before.hash before.admitRivals.hash
        writes result after.hash)
      (Writer.write token now id) before := by
  refine ends_send (fun error after answers => ?_) fun (isNew : Bool) after answers => ?_
  · obtain ⟨-, -, ⟨_, _, rfl⟩⟩ | ⟨_, -, wrong, -⟩ | ⟨-, wrong, -⟩ := answers.putNew
    · exact ⟨rfl, .unwritten nofun⟩
    · cases wrong
    · cases wrong
  · obtain ⟨_, wrong, -⟩ | ⟨found, present, told, ⟨_, _, rfl⟩⟩ | ⟨absent, told, ⟨_, _, rfl⟩⟩ :=
      answers.putNew
    · cases wrong
    · cases told
      refine (ends_reread token _).mono ?_
      rintro _ result after ⟨rfl, ⟨_, _, rfl⟩, backed⟩
      refine ⟨rfl, .overtaken present fun record ok => ?_⟩
      obtain ⟨other, there, read⟩ := backed record ok
      obtain rfl : found = other := Option.some.inj (present.symm.trans there)
      exact read
    · cases told
      exact ⟨rfl, .written absent⟩

/-- **A recording has written nothing, has been overtaken, or has written its record**, whatever was
refused, and it has drawn one number at most. -/
theorem ends_record :
    Ends (fun writes result after =>
      (after.counter = before.counter ∨ after.counter = before.counter + 1) ∧
        Recorded token (writeValue (before.counter + 1) now) before.hash before.admitRivals.hash
          writes result after.hash)
      (record token now) before := by
  refine ends_send (fun error after answers => ?_)
    fun (existing : Option String) after answers => ?_
  · obtain ⟨⟨_, _, rfl⟩, -⟩ := answers.get
    exact ⟨.inl rfl, .unwritten nofun⟩
  obtain ⟨⟨_, _, rfl⟩, tells⟩ := answers.get
  cases existing with
  | some found =>
    exact ⟨.inl rfl, .unwritten fun record ok => ⟨found, (tells _ rfl).symm, ok⟩⟩
  | none =>
    refine ends_send (fun error after answers => ?_) fun (id : Int) after answers => ?_
    · obtain ⟨_, -, ⟨_, _, rfl⟩⟩ | ⟨wrong, -⟩ := answers.increment
      · exact ⟨.inl rfl, .unwritten nofun⟩
      · cases wrong
    · obtain ⟨_, wrong, -⟩ | ⟨drawn, ⟨_, _, rfl⟩⟩ := answers.increment
      · cases wrong
      · cases drawn
        refine (ends_write token now _ _).mono ?_
        rintro writes result after ⟨counted, recorded⟩
        exact ⟨.inr counted, recorded⟩

end Recordings

/-! ## Recording once more, undisturbed -/

section Again

variable {server : Server} {token : String}

/-- The hash in which a recording of the token decides: the other writers come first, unless the
token is there. -/
def Server.deciding (server : Server) (token : String) : List (String × String) :=
  if (server.hash.lookup token).isSome then server.hash else server.admitRivals.hash

/-- A token that is there in time is answered with its record, whoever entered it. -/
theorem run_record_of_deciding_some (now : Int) (quiet : server.failures = [])
    (free : server.counter < Int64.maxValue.toInt) {value : String}
    (present : (server.deciding token).lookup token = some value) :
    ((record token now).run Server.receive server).1 = readValue token value ∧
      ((record token now).run Server.receive server).2.hash = server.deciding token := by
  cases found : server.hash.lookup token with
  | some other =>
    simp only [Server.deciding, found, Option.isSome_some, if_true] at present ⊢
    obtain rfl : other = value := Option.some.inj present
    rw [run_record_of_some now quiet found]
    exact ⟨rfl, rfl⟩
  | none =>
    have waiting : server.deciding token = server.rivals.foldl Server.put server.hash := by
      rw [Server.deciding, found]
      rfl
    rw [waiting] at present ⊢
    simp [record, send, Server.receive_of_quiet, quiet, Server.carryOut, Server.admitRivals, found,
      free, present]

/-- A token that nobody has entered gets the next number, and its field goes to the end. -/
theorem run_record_of_deciding_none (now : Int) (quiet : server.failures = [])
    (free : server.counter < Int64.maxValue.toInt)
    (absent : (server.deciding token).lookup token = none) :
    ((record token now).run Server.receive server).1 =
        readValue token (writeValue (server.counter + 1) now) ∧
      ((record token now).run Server.receive server).2.hash =
        server.deciding token ++ [(token, writeValue (server.counter + 1) now)] := by
  have missing : server.hash.lookup token = none := by
    cases found : server.hash.lookup token with
    | none => rfl
    | some other => simp [Server.deciding, found] at absent
  have waiting : server.deciding token = server.rivals.foldl Server.put server.hash := by
    rw [Server.deciding, missing]
    rfl
  rw [waiting] at absent ⊢
  simp [record, send, Server.receive_of_quiet, quiet, Server.carryOut, Server.admitRivals, missing,
    free, absent, Server.put]
  exact ⟨rfl, rfl⟩

/-- What a recording that nothing refuses makes of the field of its token: a record that can be read
is the answer, one that cannot be read is an error, and a field that is missing is added. -/
theorem decided_by_field {counter : Int64} (now : Int64) (quiet : server.failures = [])
    (counted : server.counter = counter.toInt) (fits : counter.toInt + 1 ≤ Int64.maxValue.toInt) :
    let ran := (record token now.toInt).run Server.receive server
    (∀ value, (server.deciding token).lookup token = some value →
      ran.2.hash = server.deciding token ∧
        (∀ made, readValue token value = .ok made → ran.1 = .ok made) ∧
        ((∀ made, readValue token value ≠ .ok made) →
          ∃ message, ran.1 = .error (.storage message))) ∧
      ((server.deciding token).lookup token = none →
        ∃ id : Int64, ran.1 = .ok ⟨id.toInt, token, now.toInt⟩ ∧
          ran.2.hash = server.deciding token ++ [(token, writeValue id.toInt now.toInt)]) := by
  intro ran
  have free : server.counter < Int64.maxValue.toInt := by omega
  refine ⟨fun value present => ?_, fun absent => ?_⟩
  · obtain ⟨answered, hash⟩ := run_record_of_deciding_some now.toInt quiet free present
    refine ⟨hash, fun made read => answered.trans read, fun malformed => ?_⟩
    cases read : readValue token value with
    | ok made => exact absurd read (malformed made)
    | error error =>
      obtain ⟨message, rfl⟩ := readValue_error read
      exact ⟨message, answered.trans read⟩
  · obtain ⟨answered, hash⟩ := run_record_of_deciding_none now.toInt quiet free absent
    obtain ⟨id, next⟩ := exists_next (Int.lt_of_add_one_le fits)
    rw [counted, ← next] at answered hash
    exact ⟨id, answered.trans (readValue_writeValue token id now), hash⟩

end Again

/-- **The record of a token survives every disturbance.** Whatever commands of a recording are
refused, and whatever other writers enter just before it writes, it adds the field of its token or
leaves the hash as it found it, and it adds the field only if its conditional write says so. If it
succeeds, the field holds its record. If it fails, a later recording that nothing refuses is decided
by the field alone: a record that can be read is the answer, one that cannot be read is an error,
and neither changes the hash; if there is no field, one is added. A lookup that is not refused tells
whether the field is there, whatever it holds. -/
theorem record_survives {σ : Type} {world : (command : Command) → σ → command.Reply × σ}
    {server : σ → Server}
    (answers : ∀ command state,
      (server state).Answers command (world command state).1 (server (world command state).2))
    (token : String) (now : Int64) (state : σ) {counter : Int64}
    (counted : (server state).counter = counter.toInt)
    (fits : counter.toInt + 2 ≤ Int64.maxValue.toInt) :
    let before := server state
    let ran := (record token now.toInt).run world state
    let after := server ran.2
    let writes := ((record token now.toInt).trace world state).filterMap write?
    let found := if writes = [] then before.hash else before.admitRivals.hash
    (writes = [true] ∧ found.lookup token = none ∧
          (∃ value, after.hash = found ++ [(token, value)]) ∨
        writes ≠ [true] ∧ after.hash = found) ∧
      (∀ made, ran.1 = .ok made →
        ∃ value, after.hash.lookup token = some value ∧ readValue token value = .ok made) ∧
      (∀ error, ran.1 = .error error → ∀ (later : Int64) (rivals : List (String × String)),
        let quiet := { after with failures := [], rivals }
        let again := (record token later.toInt).run Server.receive quiet
        (∀ value, (quiet.deciding token).lookup token = some value →
          again.2.hash = quiet.deciding token ∧
            (∀ made, readValue token value = .ok made → again.1 = .ok made) ∧
            ((∀ made, readValue token value ≠ .ok made) →
              ∃ message, again.1 = .error (.storage message))) ∧
          ((quiet.deciding token).lookup token = none →
            ∃ id : Int64, again.1 = .ok ⟨id.toInt, token, later.toInt⟩ ∧
              again.2.hash = quiet.deciding token ++ [(token, writeValue id.toInt later.toInt)])) ∧
      ∀ quiet : Server, quiet.failures = [] →
        ((lookup token).run Server.receive quiet).1 = .ok (quiet.hash.lookup token).isSome := by
  intro before ran after writes found
  obtain ⟨drawn, recorded⟩ := (ends_record token now.toInt before).run answers
  refine ⟨recorded.hash, fun made ok => recorded.backed ok, fun error failed later rivals => ?_,
    fun quiet silent => ?_⟩
  · obtain ⟨reached, same, fits⟩ : ∃ reached : Int64, after.counter = reached.toInt ∧
        reached.toInt + 1 ≤ Int64.maxValue.toInt := by
      rcases drawn with kept | drawn
      · exact ⟨counter, kept.trans counted, by omega⟩
      · have free : counter.toInt < Int64.maxValue.toInt := by omega
        obtain ⟨next, succeeds⟩ := exists_next free
        rw [counted, ← succeeds] at drawn
        exact ⟨next, drawn, by omega⟩
    exact decided_by_field later rfl same fits
  · simp [lookup, send, Server.receive_of_quiet, silent, Server.carryOut]

/-- The write of a recording is refused while another writer has the token in waiting with a value
that cannot be read. The recording fails and changes nothing; the later one is an error as well, and
leaves the other writer's value in the field. -/
theorem record_survives_behind_refused_write :
    let server : Server :=
      { hash := [("a", "1:5")], counter := 1, failures := [("HSETNX", "READONLY Read only")],
        rivals := [("b", "garbage")] }
    let ran := (record "b" 7).run Server.receive server
    let again := (record "b" 9).run Server.receive { ran.2 with failures := [] }
    ran.2.hash = [("a", "1:5")] ∧ again.2.hash = [("a", "1:5"), ("b", "garbage")] ∧
      ∃ message, again.1 = .error (.storage message) := by
  intro server ran again
  obtain ⟨adds, -, decided, -⟩ := @record_survives Server Server.receive id
    (fun command state => Server.answers_receive command state) "b" 7 server 1 rfl (by decide)
  have unwritten : ((record "b" 7).trace Server.receive server).filterMap write? = [] := by decide
  have unchanged : ran.2.hash = [("a", "1:5")] := by
    obtain ⟨wrong, -⟩ | ⟨-, same⟩ := adds
    · exact absurd (unwritten.symm.trans wrong) nofun
    · exact same.trans (if_pos unwritten)
  have failed : ran.1 = .error (Error.refused "READONLY" (some "Read only")).toAuthError := by
    decide
  obtain ⟨hash, -, malformed⟩ := (decided _ failed 9 ran.2.rivals).1 "garbage" (by decide)
  refine ⟨unchanged, hash.trans (by decide), malformed fun made read => ?_⟩
  have unreadable : readValue "b" "garbage" =
    .error (.storage "malformed revocation record: garbage") := by decide
  exact absurd (unreadable.symm.trans read) nofun

end DualToken.Redis
