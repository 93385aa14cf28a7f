import Mathlib.Data.List.Nodup
import Mathlib.Tactic.SplitIfs
import DualToken.Account.UserTable

/-!
# Numbers and emails of the users

A new row gets a number above all numbers of rows and above the highest number that was given out,
which is never lowered. So unless a number is edited by hand, a row that is not new has the number
of an earlier row (`Follows`), and a number that was given out and is gone stays gone
(`Retires.follows`).

A row is only inserted if its email is free, so emails stay distinct (`Inserts.emails`).
-/

set_option autoImplicit false

namespace DualToken

/-! ## Editing a row -/

namespace RowEdit

/-- The edit leaves the number of the row alone. -/
def KeepsNumber : RowEdit → Prop
  | number _ => False
  | _ => True

theorem KeepsNumber.id_edited {change : RowEdit} (keeps : change.KeepsNumber) (row : UserRow) :
    (row.edited change).id = row.id := by
  cases change with
  | text column value => cases column <;> rfl
  | number value => exact keeps.elim
  | createdAt value => rfl

end RowEdit

namespace UserTable

variable {table changed : UserTable} {row inserted : UserRow}

/-! ## The next number -/

/-- The highest number of rows above a least one. -/
theorem le_highest (rows : List UserRow) (least : Int) :
    least ≤ rows.foldl (fun highest row => max highest row.id.toInt) least ∧
      ∀ row ∈ rows, row.id.toInt ≤
        rows.foldl (fun highest row => max highest row.id.toInt) least := by
  induction rows generalizing least with
  | nil => exact ⟨Int.le_refl _, nofun⟩
  | cons row others ih =>
    obtain ⟨above, each⟩ := ih (max least row.id.toInt)
    rw [List.foldl_cons]
    refine ⟨by omega, List.forall_mem_cons.2 ⟨by omega, each⟩⟩

/-- The highest number of rows is not above what bounds all of them. -/
theorem highest_le {rows : List UserRow} {least bound : Int} (start : least ≤ bound)
    (each : ∀ row ∈ rows, row.id.toInt ≤ bound) :
    rows.foldl (fun highest row => max highest row.id.toInt) least ≤ bound := by
  induction rows generalizing least with
  | nil => exact start
  | cons row others ih =>
    obtain ⟨first, others⟩ := List.forall_mem_cons.1 each
    rw [List.foldl_cons]
    exact ih (by omega) others

theorem lastNumber_lt_nextNumber (table : UserTable) : table.lastNumber < table.nextNumber := by
  have above := (le_highest table.rows table.lastNumber).1
  rw [nextNumber]
  omega

/-- The next number is above the number of every row. -/
theorem toInt_lt_nextNumber (member : row ∈ table.rows) : row.id.toInt < table.nextNumber := by
  have above := (le_highest table.rows table.lastNumber).2 row member
  rw [nextNumber]
  omega

/-- The highest number that was given out is an integer of sixty-four bits, from below. -/
def Counts (table : UserTable) : Prop :=
  Int64.minValue.toInt ≤ table.lastNumber

/-- A number that is not too large is the number of the new row. -/
theorem Counts.toInt_ofInt (counts : table.Counts)
    (fits : table.nextNumber ≤ Int64.maxValue.toInt) :
    (Int64.ofInt table.nextNumber).toInt = table.nextNumber := by
  have above := lastNumber_lt_nextNumber table
  rw [Counts] at counts
  apply Int64.toInt_ofInt_of_le
  · exact Int.le_trans (by decide) (Int.le_trans counts (Int.le_of_lt above))
  · exact Int.lt_of_le_of_lt fits (by decide)

/-! ## Inserting a row -/

/-- What an insertion that succeeds has done. -/
structure Inserts (table : UserTable) (row inserted : UserRow) (changed : UserTable) : Prop where
  fits : table.nextNumber ≤ Int64.maxValue.toInt
  free : table.byEmail? row.email = none
  inserted_eq : inserted = { row with id := Int64.ofInt table.nextNumber }
  changed_eq : changed = ⟨table.rows ++ [inserted], table.nextNumber⟩

theorem insert_eq_ok_iff :
    table.insert row = .ok (inserted, changed) ↔ table.Inserts row inserted changed := by
  rw [insert]
  split_ifs with full taken
  · exact ⟨nofun, fun inserts => absurd inserts.fits (by omega)⟩
  · refine ⟨nofun, fun inserts => absurd taken ?_⟩
    rw [inserts.free]
    exact nofun
  · constructor
    · intro ok
      obtain ⟨rfl, rfl⟩ := Prod.mk.inj (Except.ok.inj ok)
      exact ⟨by omega, by simpa using taken, rfl, rfl⟩
    · rintro ⟨-, -, rfl, rfl⟩
      rfl

theorem byEmail?_eq_none_iff {email : String} :
    table.byEmail? email = none ↔ email ∉ table.rows.map (·.email) := by
  simp [byEmail?, List.find?_eq_none]

/-- **Inserting a row keeps the emails distinct.** -/
theorem Inserts.emails (inserts : table.Inserts row inserted changed)
    (distinct : (table.rows.map (·.email)).Nodup) : (changed.rows.map (·.email)).Nodup := by
  have free := byEmail?_eq_none_iff.1 inserts.free
  rw [inserts.changed_eq, List.map_append]
  refine List.nodup_append'.2 ⟨distinct, List.nodup_singleton _, ?_⟩
  rw [inserts.inserted_eq]
  simpa using free

/-! ## Numbers are not given out twice -/

/-- What becomes of a table whose numbers nobody edits: the highest number is not lowered, and a row
that is not new has the number of an earlier one. -/
structure Follows (table changed : UserTable) : Prop where
  last : table.lastNumber ≤ changed.lastNumber
  rows : ∀ row ∈ changed.rows, (∃ old ∈ table.rows, old.id = row.id) ∨
    (table.lastNumber < row.id.toInt ∧ row.id.toInt ≤ changed.lastNumber)

theorem Follows.refl (table : UserTable) : table.Follows table :=
  ⟨Int.le_refl _, fun row member => .inl ⟨row, member, rfl⟩⟩

theorem Follows.trans {last : UserTable} (first : table.Follows changed)
    (second : changed.Follows last) : table.Follows last := by
  have raised := first.last
  have raised' := second.last
  refine ⟨by omega, fun row member => ?_⟩
  rcases second.rows row member with ⟨old, member', same⟩ | ⟨above, below⟩
  · rw [← same]
    rcases first.rows old member' with earlier | ⟨above, below⟩
    · exact .inl earlier
    · exact .inr ⟨above, by omega⟩
  · exact .inr ⟨by omega, below⟩

theorem Inserts.follows (inserts : table.Inserts row inserted changed) (counts : table.Counts) :
    table.Follows changed := by
  have above := lastNumber_lt_nextNumber table
  rw [inserts.changed_eq]
  refine ⟨Int.le_of_lt above, fun row member => ?_⟩
  rcases List.mem_append.1 member with member | member
  · exact .inl ⟨row, member, rfl⟩
  · obtain rfl := List.mem_singleton.1 member
    have number : row.id.toInt = table.nextNumber := by
      rw [inserts.inserted_eq]
      exact counts.toInt_ofInt inserts.fits
    exact .inr ⟨by omega, by simp only; omega⟩

/-- An insertion uses up one number. -/
theorem Inserts.nextNumber_le (inserts : table.Inserts row inserted changed)
    (counts : table.Counts) : changed.nextNumber ≤ table.nextNumber + 1 := by
  have bounded : ∀ row ∈ table.rows ++ [inserted], row.id.toInt ≤ table.nextNumber := by
    intro row member
    rcases List.mem_append.1 member with member | member
    · exact Int.le_of_lt (toInt_lt_nextNumber member)
    · obtain rfl := List.mem_singleton.1 member
      rw [inserts.inserted_eq]
      exact Int.le_of_eq (counts.toInt_ofInt inserts.fits)
  have highest := highest_le (Int.le_refl table.nextNumber) bounded
  rw [inserts.changed_eq, nextNumber]
  exact Int.add_le_add_right highest 1

theorem follows_edit {id : Int64} {change : RowEdit} (keeps : change.KeepsNumber) {count : Nat}
    (edited : table.edit id change = .ok (count, changed)) : table.Follows changed := by
  rw [edit] at edited
  split_ifs at edited
  · obtain ⟨-, rfl⟩ := Prod.mk.inj (Except.ok.inj edited)
    exact .refl table
  · split at edited
    · exact absurd edited nofun
    · obtain ⟨-, rfl⟩ := Prod.mk.inj (Except.ok.inj edited)
      refine ⟨Int.le_refl _, fun row member => ?_⟩
      obtain ⟨old, member', rfl⟩ := List.mem_map.1 member
      refine .inl ⟨old, member', ?_⟩
      split_ifs
      · exact (keeps.id_edited old).symm
      · rfl

theorem follows_delete (table : UserTable) (id : Int64) : table.Follows (table.delete id).2 :=
  ⟨Int.le_refl _, fun row member => .inl ⟨row, (List.mem_filter.1 member).1, rfl⟩⟩

/-- Every number of a row was given out. -/
structure IsNumbered (table : UserTable) : Prop where
  counts : table.Counts
  rows : ∀ row ∈ table.rows, row.id.toInt ≤ table.lastNumber

theorem IsNumbered.follows (numbered : table.IsNumbered) (follows : table.Follows changed) :
    changed.IsNumbered := by
  have raised := follows.last
  refine ⟨Int.le_trans numbered.counts raised, fun row member => ?_⟩
  rcases follows.rows row member with ⟨old, member', same⟩ | ⟨-, below⟩
  · have bound := numbered.rows old member'
    rw [← same]
    omega
  · exact below

/-- The number was given out, and no row has it any more. -/
structure Retires (table : UserTable) (id : Int64) : Prop where
  drawn : id.toInt ≤ table.lastNumber
  absent : ∀ row ∈ table.rows, row.id ≠ id

/-- **A number that was given out and is gone does not come back.** -/
theorem Retires.follows {id : Int64} (retires : table.Retires id)
    (follows : table.Follows changed) : changed.Retires id := by
  have drawn := retires.drawn
  refine ⟨Int.le_trans drawn follows.last, ?_⟩
  rintro row member rfl
  rcases follows.rows row member with ⟨old, member', same⟩ | ⟨above, -⟩
  · exact retires.absent old member' same
  · omega

/-- A row of a number that was given out is deleted for good. -/
theorem IsNumbered.retires_delete (numbered : table.IsNumbered) (member : row ∈ table.rows) :
    (table.delete row.id).2.Retires row.id := by
  refine ⟨numbered.rows row member, fun other member' => ?_⟩
  simpa using (List.mem_filter.1 member').2

/-- A number that was given out bounds the numbers from below. -/
theorem Retires.counts {id : Int64} (retires : table.Retires id) : table.Counts :=
  Int.le_trans id.minValue_le_toInt retires.drawn

/-- A new row does not get a number that was given out. -/
theorem Retires.ne_of_inserts {id : Int64} (retires : table.Retires id)
    (inserts : table.Inserts row inserted changed) : inserted.id ≠ id :=
  (retires.follows (inserts.follows retires.counts)).absent inserted (by
    rw [inserts.changed_eq]
    exact List.mem_append_right _ (List.mem_singleton.2 rfl))

end UserTable

end DualToken
