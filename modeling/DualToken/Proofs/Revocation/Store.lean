import Mathlib.Tactic.SplitIfs
import DualToken.Proofs.Program
import DualToken.Revocation.Store

/-!
# What the revocation store holds

Nothing that the service or another writer does to the store takes a token out of it. The table can
be dropped, which loses its records; but then no lookup is answered any more. So `Bars` is what a
recorded token keeps for ever: no lookup of it is answered with no.
-/

set_option autoImplicit false

namespace DualToken

/-! ## The table -/

namespace RevocationTable

theorem contains_iff {table : RevocationTable} {token : String} :
    table.contains token = true ↔ ∃ record ∈ table.records, record.token = token := by
  simp [contains, find?]

theorem contains_record (table : RevocationTable) (other : String) (now : Int) (token : String) :
    (table.record other now).2.contains token = true ↔
      token = other ∨ table.contains token = true := by
  rw [record]
  cases found : table.find? other with
  | some existing =>
    have known : table.contains other = true := by simp [contains, found]
    constructor
    · exact .inr
    · rintro (rfl | held)
      · exact known
      · exact held
  | none =>
    simp only [contains_iff, List.mem_append, List.mem_singleton]
    constructor
    · rintro ⟨record, member | rfl, rfl⟩
      · exact .inr ⟨record, member, rfl⟩
      · exact .inl rfl
    · rintro (rfl | ⟨record, member, rfl⟩)
      · exact ⟨_, .inr rfl, rfl⟩
      · exact ⟨record, .inl member, rfl⟩

end RevocationTable

/-! ## The server -/

namespace Redis

namespace Server

/-- Whether a field is in the hash. -/
def Has (server : Server) (field : String) : Prop :=
  (server.hash.lookup field).isSome = true

theorem isSome_lookup_iff {hash : List (String × String)} {field : String} :
    (hash.lookup field).isSome = true ↔ field ∈ hash.map (·.1) := by
  simp

/-- Writing a field adds one field at most. -/
theorem isSome_lookup_put (hash : List (String × String)) (entry : String × String)
    (field : String) :
    ((put hash entry).lookup field).isSome = true ↔
      field = entry.1 ∨ (hash.lookup field).isSome = true := by
  rw [put]
  split_ifs with present
  · have names : (hash.map fun old => if old.1 = entry.1 then entry else old).map (·.1) =
        hash.map (·.1) := by
      rw [List.map_map]
      refine List.map_congr_left fun old _ => ?_
      by_cases same : old.1 = entry.1
      · simp [same]
      · simp [same]
    rw [isSome_lookup_iff] at present ⊢
    rw [names, isSome_lookup_iff]
    constructor
    · exact .inr
    · rintro (rfl | member)
      · exact present
      · exact member
  · simp only [isSome_lookup_iff, List.map_append, List.mem_append, List.map_cons, List.map_nil,
      List.mem_singleton, Or.comm]

/-- The entries of other writers take no field away. -/
theorem Has.admitRivals {server : Server} {field : String} (has : server.Has field) :
    server.admitRivals.Has field := by
  have fold : ∀ (rivals hash : List (String × String)), (hash.lookup field).isSome = true →
      ((rivals.foldl put hash).lookup field).isSome = true := by
    intro rivals
    induction rivals with
    | nil => exact fun _ present => present
    | cons rival others ih =>
      exact fun hash present => ih _ ((isSome_lookup_put hash rival field).2 (.inr present))
  exact fold server.rivals server.hash has

/-- **No command takes a field away.** -/
theorem Has.receive {server : Server} {field : String} (has : server.Has field)
    (command : Command) : (receive command server).2.Has field := by
  have carried : ∀ server : Server, server.Has field → (carryOut command server).2.Has field := by
    intro server has
    cases command with
    | get _ => exact has
    | increment =>
      rw [carryOut]
      split_ifs
      · exact has
      · exact has
    | putNew other value =>
      have admitted := has.admitRivals
      simp only [carryOut]
      split_ifs
      · exact admitted
      · exact (isSome_lookup_put _ _ _).2 (.inr admitted)
    | contains _ => exact has
    | all => exact has
  rw [Server.receive]
  dsimp only
  split
  · split_ifs
    · exact has
    · exact carried _ has
  · exact carried _ has

/-- What a server keeps of the commands that only read: all but the notes of what it received and
of the failures that are still to come. -/
def SameEntries (before after : Server) : Prop :=
  ∃ received failures, after = { before with received, failures }

/-- A command that only reads leaves the entries alone. -/
theorem receive_reads (command : Command)
    (reads : ∀ server, (carryOut command server).2 = server) (server : Server) :
    server.SameEntries (receive command server).2 := by
  rw [receive]
  dsimp only
  split
  · next failures name line later waiting =>
    split_ifs
    · exact ⟨_, later, rfl⟩
    · exact ⟨_, server.failures, by rw [reads]⟩
  · exact ⟨_, server.failures, by rw [reads]⟩

end Server

/-! ### Sessions with the server -/

/-- A session takes no field away. -/
theorem has_run {α : Type} (session : Session α) {server : Server} {field : String}
    (has : server.Has field) : (session.run Server.receive server).2.Has field :=
  Program.run_preserves (Server.Has · field) (fun command _ present => present.receive command)
    session server has

/-- A lookup changes no entry. -/
theorem sameEntries_lookup (token : String) (server : Server) :
    server.SameEntries ((lookup token).run Server.receive server).2 := by
  have read := Server.receive_reads (.contains token) (fun _ => rfl) server
  simp only [lookup, send, Program.run_act]
  split
  · exact read
  · exact read

theorem sameEntries_list (server : Server) :
    server.SameEntries (list.run Server.receive server).2 := by
  have read := Server.receive_reads .all (fun _ => rfl) server
  simp only [list, send, Program.run_act]
  split
  · exact read
  · exact read

/-- A session that succeeds behind a command was answered. -/
theorem exists_of_send_ok {α : Type} {command : Command} {next : command.Result → Session α}
    {server : Server} {value : α}
    (ok : ((send command next).run Server.receive server).1 = .ok value) :
    ∃ result, (Server.receive command server).1 = .ok result ∧
      ((next result).run Server.receive (Server.receive command server).2).1 = .ok value ∧
      ((send command next).run Server.receive server).2 =
        ((next result).run Server.receive (Server.receive command server).2).2 := by
  simp only [send, Program.run_act] at ok ⊢
  cases answered : (Server.receive command server).1 with
  | ok result =>
    rw [answered] at ok
    exact ⟨result, rfl, ok, rfl⟩
  | error error =>
    rw [answered] at ok
    exact absurd ok (by simp)

/-- A command that is answered was carried out. -/
theorem receive_ok {command : Command} {server : Server} {result : command.Result}
    (ok : (Server.receive command server).1 = .ok result) :
    Server.receive command server =
      Server.carryOut command { server with received := command.name :: server.received } := by
  rw [Server.receive] at ok ⊢
  dsimp only at ok ⊢
  split
  · next name line later waiting =>
    simp only [waiting] at ok
    split_ifs at ok ⊢ with fails
    rfl
  · rfl

/-- Only a field that is there has a value. -/
theorem has_of_receive_get {server : Server} {field value : String}
    (ok : (Server.receive (.get field) server).1 = .ok (some value)) :
    (Server.receive (.get field) server).2.Has field := by
  have carried := receive_ok ok
  rw [carried] at ok ⊢
  have found : server.hash.lookup field = some value := Except.ok.inj ok
  simp [Server.carryOut, Server.Has, found]

/-- Whatever a conditional write answers, the field is there behind it. -/
theorem has_of_receive_putNew {server : Server} {field value : String} {isNew : Bool}
    (ok : (Server.receive (.putNew field value) server).1 = .ok isNew) :
    (Server.receive (.putNew field value) server).2.Has field := by
  rw [receive_ok ok]
  simp only [Server.carryOut]
  split_ifs with present
  · exact present
  · exact (Server.isSome_lookup_put _ _ _).2 (.inl rfl)

/-- A token whose recording succeeds is there behind it. -/
theorem has_of_record_ok {token : String} {now : Int} {server : Server} {made : RecordedToken}
    (ok : ((record token now).run Server.receive server).1 = .ok made) :
    ((record token now).run Server.receive server).2.Has token := by
  obtain ⟨existing, got, ok, same⟩ := exists_of_send_ok ok
  rw [record, same]
  cases existing with
  | some value => exact has_run _ (has_of_receive_get got)
  | none =>
    obtain ⟨id, -, ok, same⟩ := exists_of_send_ok ok
    rw [same]
    obtain ⟨isNew, put, ok, same⟩ := exists_of_send_ok ok
    rw [same]
    exact has_run _ (has_of_receive_putNew put)

/-- No command makes other writers wait. -/
theorem rivals_receive (command : Command) {server : Server} (alone : server.rivals = []) :
    (Server.receive command server).2.rivals = [] := by
  have carried : ∀ server : Server, server.rivals = [] →
      (Server.carryOut command server).2.rivals = [] := by
    intro server alone
    cases command with
    | get _ => exact alone
    | increment =>
      rw [Server.carryOut]
      split_ifs
      · exact alone
      · exact alone
    | putNew name value =>
      simp only [Server.carryOut]
      split_ifs
      · rfl
      · rfl
    | contains _ => exact alone
    | all => exact alone
  rw [Server.receive]
  dsimp only
  split
  · split_ifs
    · exact alone
    · exact carried _ alone
  · exact carried _ alone

/-- Only a conditional write adds a field, if no other writer is waiting. -/
theorem not_has_receive {command : Command} {server : Server} {field : String}
    (noWrite : ∀ value, command ≠ .putNew field value) (alone : server.rivals = [])
    (absent : ¬ server.Has field) : ¬ (Server.receive command server).2.Has field := by
  have carried : ∀ server : Server, server.rivals = [] → ¬ server.Has field →
      ¬ (Server.carryOut command server).2.Has field := by
    intro server alone absent
    cases command with
    | get _ => exact absent
    | increment =>
      rw [Server.carryOut]
      split_ifs
      · exact absent
      · exact absent
    | putNew name value =>
      have admitted : server.admitRivals = server := by
        rw [Server.admitRivals, alone, List.foldl_nil, ← alone]
      have other : field ≠ name := by
        rintro rfl
        exact noWrite value rfl
      simp only [Server.carryOut, admitted]
      split_ifs with present
      · exact absent
      · intro has
        rcases (Server.isSome_lookup_put _ _ _).1 has with same | has
        · exact other same
        · exact absent has
    | contains _ => exact absent
    | all => exact absent
  rw [Server.receive]
  dsimp only
  split
  · split_ifs
    · exact absent
    · exact carried _ alone absent
  · exact carried _ alone absent

/-- Sending keeps a contract that allows the command, if what comes next keeps it and the errors of
the server are as promised. -/
theorem obeys_send {α : Type} {guarantee : Command → Prop} {command : Command}
    {next : command.Result → Session α} {promise : Except AuthError α → Prop}
    (allowed : guarantee command) (fails : ∀ error : Error, promise (.error error.toAuthError))
    (rest : ∀ result, (next result).Obeys guarantee (fun _ _ => True) promise) :
    (send command next).Obeys guarantee (fun _ _ => True) promise := by
  refine ⟨allowed, fun reply _ => ?_⟩
  cases reply with
  | ok result => exact rest result
  | error error => exact fails error

/-- Recording a token adds no other field, if no other writer is waiting. -/
theorem not_has_record {token field : String} {server : Server} (now : Int)
    (other : field ≠ token) (alone : server.rivals = []) (absent : ¬ server.Has field) :
    ¬ ((record token now).run Server.receive server).2.Has field := by
  have obeys : (record token now).Obeys (fun command => ∀ value, command ≠ .putNew field value)
      (fun _ _ => True) fun _ => True := by
    have fails : ∀ _ : Error, True := fun _ => trivial
    refine obeys_send (fun value => by simp) fails fun (existing : Option String) => ?_
    cases existing with
    | some value => trivial
    | none =>
      refine obeys_send (fun value => by simp) fails fun (id : Int) => ?_
      refine obeys_send (fun value => by simp [Ne.symm other]) fails fun (isNew : Bool) => ?_
      cases isNew with
      | true => trivial
      | false =>
        refine obeys_send (fun value => by simp) fails fun (existing : Option String) => ?_
        cases existing with
        | some value => trivial
        | none => trivial
  have preserved : ∀ command (server : Server), (∀ value, command ≠ .putNew field value) →
      server.rivals = [] ∧ ¬ server.Has field →
        True ∧ (Server.receive command server).2.rivals = [] ∧
          ¬ (Server.receive command server).2.Has field := by
    rintro command server noWrite ⟨alone, absent⟩
    exact ⟨trivial, rivals_receive command alone, not_has_receive noWrite alone absent⟩
  exact (obeys.run (fun server => server.rivals = [] ∧ ¬ server.Has field) preserved server
    ⟨alone, absent⟩).2.2

/-- A lookup that is answered tells whether the token is there. -/
theorem lookup_ok_iff {token : String} {server : Server} {found : Bool}
    (ok : ((lookup token).run Server.receive server).1 = .ok found) :
    found = true ↔ server.Has token := by
  obtain ⟨result, answered, same, -⟩ := exists_of_send_ok ok
  rw [receive_ok answered] at answered
  obtain rfl : result = found := Except.ok.inj same
  obtain rfl := Except.ok.inj answered
  rfl

/-- A lookup that fails is an error of storage. -/
theorem lookup_error {token : String} {server : Server} {error : AuthError}
    (failed : ((lookup token).run Server.receive server).1 = .error error) :
    ∃ detail, error = .storage detail := by
  simp only [lookup, send, Program.run_act] at failed
  split at failed
  · exact absurd failed (by simp)
  · exact ⟨_, (Except.error.inj failed).symm⟩

/-- A value that is no record is an error of storage. -/
theorem readValue_error {token value : String} {error : AuthError}
    (failed : readValue token value = .error error) : ∃ detail, error = .storage detail := by
  unfold readValue at failed
  dsimp only at failed
  split at failed
  · exact absurd failed nofun
  · exact ⟨_, (Except.error.inj failed).symm⟩

/-- A recording that fails is an error of storage. -/
theorem record_error {token : String} {now : Int} {server : Server} {error : AuthError}
    (failed : ((record token now).run Server.receive server).1 = .error error) :
    ∃ detail, error = .storage detail := by
  have fails : ∀ sent : Error, ∀ error,
      (.error sent.toAuthError : Except AuthError RecordedToken) = .error error →
        ∃ detail, error = .storage detail :=
    fun _ _ same => ⟨_, (Except.error.inj same).symm⟩
  have obeys : (record token now).Obeys (fun _ => True) (fun _ _ => True)
      fun result => ∀ error, result = .error error → ∃ detail, error = .storage detail := by
    refine obeys_send trivial fails fun (existing : Option String) => ?_
    cases existing with
    | some value => exact fun error failed => readValue_error failed
    | none =>
      refine obeys_send trivial fails fun (id : Int) => ?_
      refine obeys_send trivial fails fun (isNew : Bool) => ?_
      cases isNew with
      | true => exact fun error failed => readValue_error failed
      | false =>
        refine obeys_send trivial fails fun (existing : Option String) => ?_
        cases existing with
        | some value => exact fun error failed => readValue_error failed
        | none => exact fails Error.missingText
  exact (obeys.run (fun _ => True) (fun _ _ _ _ => ⟨trivial, trivial⟩) server trivial).1 error
    failed

/-- A listing that fails is an error of storage. -/
theorem list_error {server : Server} {error : AuthError}
    (failed : (list.run Server.receive server).1 = .error error) :
    ∃ detail, error = .storage detail := by
  have read : ∀ (entries : List (String × String)) (error : AuthError),
      (entries.mapM fun entry => readValue entry.1 entry.2) = .error error →
        ∃ detail, error = .storage detail := by
    intro entries
    induction entries with
    | nil => exact fun _ failed => absurd failed nofun
    | cons entry later ih =>
      intro error failed
      rw [List.mapM_cons] at failed
      cases first : readValue entry.1 entry.2 with
      | error fault =>
        rw [first] at failed
        obtain rfl : fault = error := Except.error.inj failed
        exact readValue_error first
      | ok record =>
        rw [first] at failed
        change (later.mapM fun entry => readValue entry.1 entry.2) >>=
          (fun records => pure (record :: records)) = .error error at failed
        cases others : later.mapM fun entry => readValue entry.1 entry.2 with
        | error fault =>
          rw [others] at failed
          obtain rfl : fault = error := Except.error.inj failed
          exact ih fault others
        | ok records =>
          rw [others] at failed
          exact absurd failed nofun
  simp only [list, send, Program.run_act] at failed
  split at failed
  · next entries answered =>
    change (Except.map _ (List.mapM (fun entry : String × String => readValue entry.1 entry.2)
      entries)) = .error error at failed
    cases all : List.mapM (fun entry : String × String => readValue entry.1 entry.2) entries with
    | error fault =>
      rw [all] at failed
      obtain rfl : fault = error := Except.error.inj failed
      exact read entries fault all
    | ok records =>
      rw [all] at failed
      exact absurd failed nofun
  · exact ⟨_, (Except.error.inj failed).symm⟩

end Redis

/-! ## The store -/

namespace RevocationStore

variable {backend : RevocationBackend} {store : RevocationStore} {token : String}

/-- The token is recorded. -/
def Holds (backend : RevocationBackend) (store : RevocationStore) (token : String) : Prop :=
  match backend with
  | .table => ∃ table, store.table = some table ∧ table.contains token = true
  | .redis => store.server.Has token

/-- The token is recorded, unless the table in which it may have been recorded is gone. -/
def Bars (backend : RevocationBackend) (store : RevocationStore) (token : String) : Prop :=
  match backend with
  | .table => ∀ table, store.table = some table → table.contains token = true
  | .redis => store.server.Has token

/-- The stores hold the same records; what only concerns how they are used may differ. -/
def SameRecords (before after : RevocationStore) : Prop :=
  ∃ server, after = { before with server } ∧ before.server.SameEntries server

theorem SameRecords.refl (store : RevocationStore) : store.SameRecords store :=
  ⟨store.server, rfl, _, _, rfl⟩

theorem SameRecords.trans {first second third : RevocationStore}
    (same : first.SameRecords second) (same' : second.SameRecords third) :
    first.SameRecords third := by
  obtain ⟨_, rfl, received, failures, rfl⟩ := same
  obtain ⟨_, rfl, received', failures', rfl⟩ := same'
  exact ⟨_, rfl, received', failures', rfl⟩

theorem Holds.bars (holds : store.Holds backend token) : store.Bars backend token := by
  cases backend with
  | table =>
    obtain ⟨table, present, contains⟩ := holds
    rintro other same
    rw [present] at same
    exact Option.some.inj same ▸ contains
  | redis => exact holds

/-- **Recording takes no token away.** -/
theorem Bars.record (bars : store.Bars backend token) (other : String) (now : Int) :
    (store.record backend other now).2.Bars backend token := by
  cases backend with
  | table =>
    rw [RevocationStore.record]
    cases present : store.table with
    | none => exact bars
    | some table =>
      rintro changed same
      obtain rfl := Option.some.inj same
      exact (table.contains_record other now token).2 (.inr (bars table present))
  | redis =>
    have has : store.server.Has token := bars
    exact Redis.has_run (Redis.record other now) has

/-- Recording takes no token away from a store that is there. -/
theorem Holds.record (holds : store.Holds backend token) (other : String) (now : Int) :
    (store.record backend other now).2.Holds backend token := by
  cases backend with
  | table =>
    obtain ⟨table, present, contains⟩ := holds
    rw [RevocationStore.record, present]
    exact ⟨_, rfl, (table.contains_record other now token).2 (.inr contains)⟩
  | redis => exact Redis.has_run (Redis.record other now) holds

/-- Recording a token adds no other, if no other writer is waiting. -/
theorem not_holds_record {other : String} (now : Int) (different : token ≠ other)
    (alone : store.server.rivals = []) (absent : ¬ store.Holds backend token) :
    ¬ (store.record backend other now).2.Holds backend token := by
  cases backend with
  | table =>
    rw [RevocationStore.record]
    cases present : store.table with
    | none => exact absent
    | some table =>
      rintro ⟨changed, same, contains⟩
      obtain rfl := Option.some.inj same
      rcases (table.contains_record other now token).1 contains with same | contains
      · exact different same
      · exact absent ⟨table, present, contains⟩
  | redis => exact Redis.not_has_record now different alone absent

/-- Recording makes no other writers wait. -/
theorem rivals_record (backend : RevocationBackend) (other : String) (now : Int)
    (alone : store.server.rivals = []) :
    (store.record backend other now).2.server.rivals = [] := by
  cases backend with
  | table =>
    rw [RevocationStore.record]
    cases store.table with
    | none => exact alone
    | some table => exact alone
  | redis =>
    exact Program.run_preserves (fun server => server.rivals = [])
      (fun command _ alone => Redis.rivals_receive command alone) (Redis.record other now)
      store.server alone

/-- Where the records are the same, the same tokens are held. -/
theorem SameRecords.holds_iff {after : RevocationStore} (same : store.SameRecords after) :
    after.Holds backend token ↔ store.Holds backend token := by
  obtain ⟨server, rfl, received, failures, rfl⟩ := same
  cases backend with
  | table => rfl
  | redis => rfl

/-- Where the records are the same, the same writers are waiting. -/
theorem SameRecords.rivals {after : RevocationStore} (same : store.SameRecords after) :
    after.server.rivals = store.server.rivals := by
  obtain ⟨server, rfl, received, failures, rfl⟩ := same
  rfl

/-- A token whose recording succeeds is held. -/
theorem holds_of_record_ok {now : Int} {made : RecordedToken}
    (ok : (store.record backend token now).1 = .ok made) :
    (store.record backend token now).2.Holds backend token := by
  cases backend with
  | table =>
    rw [RevocationStore.record] at ok ⊢
    cases present : store.table with
    | none => exact absurd ok (by simp [present])
    | some table => exact ⟨_, rfl, (table.contains_record token now token).2 (.inl rfl)⟩
  | redis => exact Redis.has_of_record_ok ok

/-- A lookup changes no record. -/
theorem sameRecords_lookup (backend : RevocationBackend) (store : RevocationStore)
    (token : String) : store.SameRecords (store.lookup backend token).2 := by
  cases backend with
  | table =>
    rw [lookup]
    cases present : store.table with
    | none => exact ⟨store.server, rfl, _, _, rfl⟩
    | some table => exact ⟨store.server, rfl, _, _, rfl⟩
  | redis => exact ⟨_, rfl, Redis.sameEntries_lookup token store.server⟩

theorem sameRecords_list (backend : RevocationBackend) (store : RevocationStore) :
    store.SameRecords (store.list backend).2 := by
  cases backend with
  | table =>
    rw [list]
    cases present : store.table with
    | none => exact ⟨store.server, rfl, _, _, rfl⟩
    | some table => exact ⟨store.server, rfl, _, _, rfl⟩
  | redis => exact ⟨_, rfl, Redis.sameEntries_list store.server⟩

/-- A lookup that is answered tells whether the token is held. -/
theorem lookup_ok_iff {found : Bool} (ok : (store.lookup backend token).1 = .ok found) :
    found = true ↔ store.Holds backend token := by
  cases backend with
  | table =>
    rw [lookup] at ok
    cases present : store.table with
    | none => exact absurd ok (by simp [present])
    | some table =>
      rw [present] at ok
      obtain rfl := Except.ok.inj ok
      simp [Holds, present]
  | redis => exact Redis.lookup_ok_iff ok

/-- A call to the table fails only because the table is missing, which is an error of storage. -/
theorem table_error (store : RevocationStore) {α : Type} {result : Except AuthError α}
    {error : AuthError}
    (missing : store.table = none → result = .error RevocationTable.missing.toAuthError)
    (answered : ∀ table, store.table = some table → ∃ value, result = .ok value)
    (failed : result = .error error) : ∃ detail, error = .storage detail := by
  cases present : store.table with
  | none => exact ⟨_, (Except.error.inj ((missing present).symm.trans failed)).symm⟩
  | some table =>
    obtain ⟨value, ok⟩ := answered table present
    exact absurd (ok.symm.trans failed) nofun

/-- A lookup that fails is an error of storage. -/
theorem lookup_error {error : AuthError}
    (failed : (store.lookup backend token).1 = .error error) :
    ∃ detail, error = .storage detail := by
  cases backend with
  | table =>
    refine table_error store (fun absent => ?_) (fun table present => ⟨table.contains token, ?_⟩)
      failed
    · rw [lookup, absent]
    · rw [lookup, present]
  | redis => exact Redis.lookup_error failed

/-- A recording that fails is an error of storage. -/
theorem record_error {now : Int} {error : AuthError}
    (failed : (store.record backend token now).1 = .error error) :
    ∃ detail, error = .storage detail := by
  cases backend with
  | table =>
    refine table_error store (fun absent => ?_)
      (fun table present => ⟨(table.record token now).1, ?_⟩) failed
    · rw [record, absent]
    · rw [record, present]
  | redis => exact Redis.record_error failed

/-- A listing that fails is an error of storage. -/
theorem list_error {error : AuthError} (failed : (store.list backend).1 = .error error) :
    ∃ detail, error = .storage detail := by
  cases backend with
  | table =>
    refine table_error store (fun absent => ?_) (fun table present => ⟨table.records, ?_⟩) failed
    · rw [list, absent]
    · rw [list, present]
  | redis => exact Redis.list_error failed

/-- **A lookup of a barred token is answered with yes, or fails as an error of storage.** -/
theorem Bars.lookup (bars : store.Bars backend token) :
    (store.lookup backend token).1 = .ok true ∨
      ∃ detail, (store.lookup backend token).1 = .error (.storage detail) := by
  cases answered : (store.lookup backend token).1 with
  | error error =>
    obtain ⟨detail, rfl⟩ := lookup_error answered
    exact .inr ⟨detail, rfl⟩
  | ok found =>
    left
    cases backend with
    | redis => rw [(Redis.lookup_ok_iff answered).2 bars]
    | table =>
      rw [RevocationStore.lookup] at answered
      cases present : store.table with
      | none => exact absurd answered (by simp [present])
      | some table =>
        rw [present] at answered
        rw [← Except.ok.inj answered, bars table present]

end RevocationStore

end DualToken
