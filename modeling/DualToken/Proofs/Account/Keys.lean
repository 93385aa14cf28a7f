import Mathlib.Data.List.Pairwise
import DualToken.Proofs.Account.Directory
import DualToken.Proofs.Service.Change

/-!
# Keys of the users

Rows are found by number and by email, and the first row that fits is taken. No two rows ever have
the same number or the same email (`UserTable.IsKeyed`): a new row has a number above all others and
an email that was free, and an edit by hand that would take the number or the email of another row
is refused. So in whatever became of a directory without users, every row is found by its number and
by its email (`Directory.IsKeyed.userById`, `Directory.IsKeyed.userByEmail`).
-/

set_option autoImplicit false

namespace DualToken

/-- The rows differ in number and in email. -/
structure UserRow.Apart (row other : UserRow) : Prop where
  id : row.id ≠ other.id
  email : row.email ≠ other.email

theorem UserRow.Apart.symm {row other : UserRow} (apart : row.Apart other) : other.Apart row :=
  ⟨apart.id.symm, apart.email.symm⟩

instance : Std.Symm UserRow.Apart := ⟨fun _ _ apart => apart.symm⟩

namespace UserTable

variable {table changed : UserTable} {row inserted other : UserRow}

/-- No two rows have the same number or the same email, and the highest number that was given out is
an integer of sixty-four bits, from below. -/
structure IsKeyed (table : UserTable) : Prop where
  apart : table.rows.Pairwise UserRow.Apart
  counts : table.Counts

/-! ## Finding a row -/

/-- Different rows are apart. -/
theorem IsKeyed.apart_of_ne (keyed : table.IsKeyed) (member : row ∈ table.rows)
    (member' : other ∈ table.rows) (different : row ≠ other) : row.Apart other :=
  keyed.apart.forall member member' different

/-- **A row is found by its number.** -/
theorem IsKeyed.byId? (keyed : table.IsKeyed) (member : row ∈ table.rows) :
    table.byId? row.id = some row := by
  cases outcome : table.byId? row.id with
  | none =>
    have missed : row.id ≠ row.id := by simpa using List.find?_eq_none.1 outcome row member
    exact absurd rfl missed
  | some found =>
    have same : found.id = row.id := by simpa using List.find?_some outcome
    refine congrArg some (Classical.byContradiction fun different => ?_)
    exact (keyed.apart_of_ne (List.mem_of_find?_eq_some outcome) member different).id same

/-- **A row is found by its email.** -/
theorem IsKeyed.byEmail? (keyed : table.IsKeyed) (member : row ∈ table.rows) :
    table.byEmail? row.email = some row := by
  cases outcome : table.byEmail? row.email with
  | none => exact absurd (List.mem_map_of_mem member) (byEmail?_eq_none_iff.1 outcome)
  | some found =>
    have same : found.email = row.email := by simpa using List.find?_some outcome
    refine congrArg some (Classical.byContradiction fun different => ?_)
    exact (keyed.apart_of_ne (List.mem_of_find?_eq_some outcome) member different).email same

/-! ## Changing the rows -/

/-- **A new row is apart from all others.** -/
theorem Inserts.isKeyed (inserts : table.Inserts row inserted changed) (keyed : table.IsKeyed) :
    changed.IsKeyed := by
  have number : inserted.id.toInt = table.nextNumber := by
    rw [inserts.inserted_eq]
    exact keyed.counts.toInt_ofInt inserts.fits
  have email : inserted.email = row.email := by rw [inserts.inserted_eq]
  have above := lastNumber_lt_nextNumber table
  rw [inserts.changed_eq]
  refine ⟨List.pairwise_append.2 ⟨keyed.apart, List.pairwise_singleton _ _, ?_⟩,
    Int.le_trans keyed.counts (Int.le_of_lt above)⟩
  intro old member new member'
  obtain rfl := List.mem_singleton.1 member'
  constructor
  · intro same
    have below := toInt_lt_nextNumber member
    rw [same, number] at below
    exact Int.lt_irrefl _ below
  · intro same
    refine byEmail?_eq_none_iff.1 inserts.free ?_
    rw [← email, ← same]
    exact List.mem_map_of_mem member

/-- A row that may be edited stays apart from the others. -/
theorem apart_edited {id : Int64} {change : RowEdit} (allowed : table.editFault? id change = none)
    (own : row.id = id) (member : other ∈ table.rows) (apart : row.Apart other) :
    (row.edited change).Apart other := by
  obtain rfl := own
  cases change with
  | createdAt value => exact ⟨apart.id, apart.email⟩
  | number value =>
    refine ⟨?_, apart.email⟩
    rintro rfl
    have found : (table.byId? other.id).isSome := by
      rw [byId?, List.find?_isSome]
      exact ⟨other, member, decide_eq_true rfl⟩
    rw [editFault?, found, decide_eq_true apart.id.symm] at allowed
    exact absurd allowed nofun
  | text column value =>
    cases column with
    | email =>
      refine ⟨apart.id, ?_⟩
      rintro rfl
      have taken : (table.rows.any fun old =>
          decide (old.id ≠ row.id) && decide (old.email = other.email)) = true := by
        rw [List.any_eq_true]
        exact ⟨other, member, by
          rw [decide_eq_true apart.id.symm, decide_eq_true rfl, Bool.and_self]⟩
      rw [editFault?, taken] at allowed
      exact absurd allowed nofun
    | _ => exact ⟨apart.id, apart.email⟩

/-- **Editing a row keeps the rows apart.** -/
theorem IsKeyed.edit (keyed : table.IsKeyed) {id : Int64} {change : RowEdit} {count : Nat}
    (edited : table.edit id change = .ok (count, changed)) : changed.IsKeyed := by
  rw [UserTable.edit] at edited
  split_ifs at edited
  · obtain ⟨-, rfl⟩ := Prod.mk.inj (Except.ok.inj edited)
    exact keyed
  · split at edited
    · cases edited
    · next allowed =>
      obtain ⟨-, rfl⟩ := Prod.mk.inj (Except.ok.inj edited)
      refine ⟨List.pairwise_map.2 (keyed.apart.imp_of_mem
        fun {row other} member member' apart => ?_), keyed.counts⟩
      -- two rows that are apart do not both have the number
      split_ifs with own own'
      · exact absurd (own.trans own'.symm) apart.id
      · exact apart_edited allowed own member' apart
      · next own' => exact (apart_edited allowed own' member apart.symm).symm
      · exact apart

theorem IsKeyed.delete (keyed : table.IsKeyed) (id : Int64) : (table.delete id).2.IsKeyed :=
  ⟨keyed.apart.sublist List.filter_sublist, keyed.counts⟩

end UserTable

/-! ## The directory -/

namespace Directory

variable {directory : Directory} {row : UserRow} {user : User}

/-- The rows of the table, if it is there, are apart. -/
def IsKeyed (directory : Directory) : Prop :=
  ∀ table, directory.table = some table → table.IsKeyed

/-- A directory without users is keyed. -/
theorem isKeyed_empty : ({} : Directory).IsKeyed := by
  rintro table present
  obtain rfl := Option.some.inj present
  exact ⟨.nil, (by decide : Int64.minValue.toInt ≤ 0)⟩

/-- No step of a creation makes two rows alike. -/
theorem IsKeyed.perform (keyed : directory.IsKeyed) (cost : Nat) (now : Int) (step : Step) :
    (Directory.perform cost now step directory).2.IsKeyed := by
  cases step with
  | find email => exact keyed
  | hash password => exact keyed
  | insert form passwordHash =>
    rw [Directory.perform]
    rcases insertForm_cases directory now form passwordHash with
      ⟨error, failed⟩ | ⟨table, changed, id, present, inserts, made⟩
    · rw [failed]
      exact keyed
    · rw [made]
      intro other present'
      obtain rfl := Option.some.inj present'
      exact inserts.isKeyed (keyed table present)

/-- The row is stored, and it is read as the user. -/
def Stores (directory : Directory) (row : UserRow) (user : User) : Prop :=
  (∃ table, directory.table = some table ∧ row ∈ table.rows) ∧ row.user = .ok user

/-- A user is found by its number. -/
theorem IsKeyed.userById (keyed : directory.IsKeyed) (stores : directory.Stores row user) :
    directory.userById row.id = .ok (some user) := by
  obtain ⟨⟨table, present, member⟩, read⟩ := stores
  simp only [Directory.userById, liveTable, present, Except.bind,
    (keyed table present).byId? member, ofRow?, read]
  rfl

/-- A user is found by its email. -/
theorem IsKeyed.userByEmail (keyed : directory.IsKeyed) (stores : directory.Stores row user) :
    directory.userByEmail row.email = .ok (some user) := by
  obtain ⟨⟨table, present, member⟩, read⟩ := stores
  simp only [Directory.userByEmail, liveTable, present, Except.bind,
    (keyed table present).byEmail? member, ofRow?, read]
  rfl

end Directory

/-! ## What comes later -/

/-- No change makes two rows alike. -/
theorem Change.isKeyed {service : Service} {before after : State}
    (change : Change service before after) (keyed : before.directory.IsKeyed) :
    after.directory.IsKeyed := by
  cases change with
  | create step => exact keyed.perform service.hashCost before.now step
  | users table changed present byHand =>
    intro other present'
    obtain rfl := Option.some.inj present'
    rcases byHand with ⟨id, edit, count, edited⟩ | ⟨id, rfl⟩
    · exact (keyed table present).edit edited
    · exact (keyed table present).delete id
  | dropUsers => exact fun table present => absurd present nofun
  | _ => exact keyed

/-- **In whatever becomes of a directory without users, no two rows are alike.** -/
theorem Later.isKeyed {service : Service} {start state : State} (run : Later service start state)
    (empty : start.directory = {}) : state.directory.IsKeyed :=
  run.changes.preserve (fun _ _ change => change.isKeyed) (empty ▸ Directory.isKeyed_empty)

end DualToken
