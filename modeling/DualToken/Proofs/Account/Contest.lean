import DualToken.Proofs.Account.Creation

/-!
# Simultaneous creations of one email

Any number of creations of one email may have looked for it before the first of them inserts its
row, so the look decides nothing. In every schedule there are two cases: no row has the email and
none of its creations has ended, or one of them has won (`Contest`). The row of the winner is what
every other one meets, at its look or at its insertion.

Creations of other emails see nothing of this. They stay beside their stages in the run in which the
creations of the email never have a turn (`Beside`). Numbers and salts are drawn from what all
creations share, so these are the only things in which the two runs may differ (`asGiven`).
-/

set_option autoImplicit false

namespace DualToken

/-! ## What a form decides of a user -/

/-- The user apart from what the directory draws: its number and the hash of its password. -/
def User.asGiven (user : User) : User :=
  { user with id := 0, passwordHash := "" }

/-- The row apart from what the directory draws. -/
def UserRow.asGiven (row : UserRow) : UserRow :=
  { row with id := 0, passwordHash := "" }

theorem UserRow.user_asGiven (row : UserRow) :
    row.asGiven.user = row.user.map User.asGiven := by
  rw [UserRow.user, UserRow.user, UserRow.asGiven]
  cases Role.ofName? row.role with
  | none => rfl
  | some role => rfl

namespace UserTable

/-- The rows of all emails but one, apart from what the directory draws. -/
def givenExcept (email : String) (table : UserTable) : List UserRow :=
  (table.rows.filter (·.email ≠ email)).map UserRow.asGiven

/-- What is found under an email, apart from what the directory draws, does not depend on the rows
of another email. -/
theorem map_byEmail? {email other : String} (differs : other ≠ email) (table : UserTable) :
    (table.byEmail? other).map UserRow.asGiven =
      (table.givenExcept email).find? (·.email = other) := by
  rw [givenExcept, List.find?_map, List.find?_filter, byEmail?]
  congr 2
  funext row
  by_cases same : row.email = other
  · simp [UserRow.asGiven, same, differs]
  · simp [UserRow.asGiven, same]

/-- What is found under an email is its first row. -/
theorem byEmail?_eq_head? (table : UserTable) (email : String) :
    table.byEmail? email = (table.rows.filter (·.email = email)).head? :=
  (List.head?_filter ..).symm

end UserTable

namespace Directory

/-! ## The creations of one email -/

/-- One creation of the email has won: it has ended with its user, whose row is the only one of the
email, and every other creation of the email that has ended has met this row. -/
structure Wins (email : String) (creations : List Creation) (table : UserTable) (winner : Nat)
    (user : User) : Prop where
  ended : ∃ form, creations[winner]? = some ⟨form, .ended (.ok user)⟩ ∧ form.email = email
  only : ∃ row, table.rows.filter (·.email = email) = [row] ∧ row.user = .ok user
  lost : ∀ position creation result, creations[position]? = some creation → position ≠ winner →
    creation.form.email = email → creation.stage = .ended result → result = .error .userExists

/-- The creations of an email have all still to end and no row has it, or one of them has won. -/
inductive Contest (email : String) (creations : List Creation) (table : UserTable) : Prop
  | vacant (free : table.rows.filter (·.email = email) = [])
      (waiting : ∀ creation ∈ creations, creation.form.email = email →
        creation.stage.isPending = true)
  | won (winner : Nat) (user : User) (wins : Wins email creations table winner user)

section Contests

variable {cost : Nat} {now : Int} {position winner : Nat} {email : String} {user : User}
  {table table' : UserTable} {stage : Stage} {creation : Creation}
  {creations creations' : List Creation}

/-- Only a creation of an email adds a row of it. -/
theorem Moves.filter_eq {form : NewUser} {stage' : Stage}
    (moves : Moves cost now form table stage stage' table') (differs : form.email ≠ email) :
    table'.rows.filter (·.email = email) = table.rows.filter (·.email = email) := by
  cases moves with
  | inserts inserts =>
    rw [inserts.changed_eq, List.filter_append, List.filter_singleton, NewUser.row,
      decide_eq_false differs]
    exact List.append_nil _
  | _ => rfl

/-- The contest goes on behind a turn of a creation that neither ends with a user nor adds a row. -/
theorem Wins.set (wins : Wins email creations table winner user)
    (found : creations[position]? = some creation) (waits : creation.stage.isPending = true)
    (same : table'.rows.filter (·.email = email) = table.rows.filter (·.email = email))
    (loses : creation.form.email = email → ∀ result, stage = .ended result →
      result = .error .userExists) :
    Wins email (creations.set position { creation with stage }) table' winner user := by
  obtain ⟨inside, -⟩ := List.getElem?_eq_some_iff.1 found
  obtain ⟨form, ended, own⟩ := wins.ended
  have other : position ≠ winner := by
    rintro rfl
    obtain rfl := Option.some.inj (found.symm.trans ended)
    exact absurd waits nofun
  refine ⟨⟨form, (List.getElem?_set_ne other).trans ended, own⟩, by rw [same]; exact wins.only, ?_⟩
  intro place creation' result there differs own isEnded
  by_cases here : position = place
  · subst here
    rw [List.getElem?_set_self inside] at there
    obtain rfl := Option.some.inj there
    exact loses own result isEnded
  · rw [List.getElem?_set_ne here] at there
    exact wins.lost place creation' result there differs own isEnded

/-- **A turn of any creation preserves the contest**: as long as no row has the email, the insertion
of a creation of it wins, and from then on every creation of it finds the row. -/
theorem Contest.moved (contest : Contest email creations table)
    (found : creations[position]? = some creation)
    (moves : Moves cost now creation.form table creation.stage stage table') :
    Contest email (creations.set position { creation with stage }) table' := by
  obtain ⟨inside, -⟩ := List.getElem?_eq_some_iff.1 found
  obtain ⟨form, before⟩ := creation
  by_cases same : form.email = email
  · subst same
    cases contest with
    | vacant free waiting =>
      have unknown : table.byEmail? form.email = none := by
        rw [UserTable.byEmail?_eq_head?, free]
        rfl
      have still (pending : stage.isPending = true) (creation : Creation)
          (member : creation ∈ creations.set position ⟨form, stage⟩)
          (own : creation.form.email = form.email) : creation.stage.isPending = true := by
        rcases List.mem_or_eq_of_mem_set member with member | rfl
        · exact waiting creation member own
        · exact pending
      cases moves with
      | looks =>
        rw [unknown] at still ⊢
        exact .vacant free (still rfl)
      | hashes _ => exact .vacant free (still rfl)
      | meets taken => exact absurd (taken.symm.trans unknown) (Option.some_ne_none _)
      | @inserts passwordHash id _ inserts =>
        refine .won position _ ⟨⟨form, List.getElem?_set_self inside, rfl⟩, ?_, ?_⟩
        · refine ⟨form.row passwordHash now id, ?_, form.user_row passwordHash now id⟩
          rw [inserts.changed_eq, List.filter_append, free]
          simp [NewUser.row]
        · intro place creation result there differs own ended
          rw [List.getElem?_set_ne differs.symm] at there
          have waits := waiting creation (List.mem_of_getElem? there) own
          rw [ended] at waits
          exact absurd waits Bool.false_ne_true
    | won winner user wins =>
      obtain ⟨row, only, read⟩ := wins.only
      have known : table.byEmail? form.email = some row := by
        rw [UserTable.byEmail?_eq_head?, only]
        rfl
      have met : ∀ result, Stage.ended (.error .userExists) = .ended result →
          result = .error .userExists :=
        fun result ended => (Stage.ended.inj ended).symm
      cases moves with
      | looks =>
        rw [known, Stage.behindLook, read]
        exact .won winner user (wins.set found rfl rfl fun _ => met)
      | hashes _ => exact .won winner user (wins.set found rfl rfl fun _ _ ended => by cases ended)
      | meets _ => exact .won winner user (wins.set found rfl rfl fun _ => met)
      | inserts inserts => exact absurd (known.symm.trans inserts.free) (Option.some_ne_none row)
  · cases contest with
    | vacant free waiting =>
      refine .vacant ((moves.filter_eq same).trans free) fun creation member own => ?_
      rcases List.mem_or_eq_of_mem_set member with member | rfl
      · exact waiting creation member own
      · exact absurd own same
    | won winner user wins =>
      exact .won winner user
        (wins.set found moves.isPending (moves.filter_eq same) fun own => absurd own same)

end Contests

/-! ## The creations of other emails -/

/-- Two creations of one form are equally far, and what they have ended with is the same apart from
what the directory draws. -/
inductive Alike : Stage → Stage → Prop
  | asking : Alike .asking .asking
  | hashing : Alike .hashing .hashing
  | inserting (first second : String) : Alike (.inserting first) (.inserting second)
  | ended {first second : Except AuthError User}
      (same : first.map User.asGiven = second.map User.asGiven) :
      Alike (.ended first) (.ended second)

/-- Two runs of the same creations differ in the creations and the rows of one email, and in what
the directory draws. -/
structure Beside (email : String) (creations others : List Creation) (table aside : UserTable) :
    Prop where
  forms : creations.map (·.form) = others.map (·.form)
  alike : ∀ (position : Nat) (creation other : Creation), creations[position]? = some creation →
    others[position]? = some other → creation.form.email ≠ email →
      Alike creation.stage other.stage
  rows : table.givenExcept email = aside.givenExcept email

section Beside

variable {cost : Nat} {now : Int} {position : Nat} {email : String} {form : NewUser}
  {table table' aside aside' : UserTable} {stage stage' first second : Stage}
  {creations others creations' others' : List Creation} {creation : Creation}

/-- An insertion adds its row, which does not show what the directory draws. -/
theorem givenExcept_of_inserts {passwordHash : String} {id : Int64}
    (inserts : table.Inserts (form.row passwordHash now 0) (form.row passwordHash now id) table')
    (email : String) :
    table'.givenExcept email =
      table.givenExcept email ++ if form.email = email then [] else [form.row "" now 0] := by
  rw [inserts.changed_eq, UserTable.givenExcept, UserTable.givenExcept, List.filter_append,
    List.map_append]
  congr 1
  by_cases same : form.email = email
  · simp [same, NewUser.row]
  · simp [same, NewUser.row, UserRow.asGiven]

/-- A creation of an email adds no row of another one. -/
theorem Moves.givenExcept_eq (moves : Moves cost now form table stage stage' table') :
    table'.givenExcept form.email = table.givenExcept form.email := by
  cases moves with
  | inserts inserts => rw [givenExcept_of_inserts inserts, if_pos rfl, List.append_nil]
  | _ => rfl

/-- A look that finds the same apart from what the directory draws leads to the same stage. -/
theorem alike_behindLook {found found' : Option UserRow}
    (same : found.map UserRow.asGiven = found'.map UserRow.asGiven) :
    Alike (.behindLook found) (.behindLook found') := by
  cases found with
  | none =>
    cases found' with
    | none => exact .hashing
    | some row' => exact absurd same.symm (Option.some_ne_none _)
  | some row =>
    cases found' with
    | none => exact absurd same (Option.some_ne_none _)
    | some row' =>
      have read : row.user.map User.asGiven = row'.user.map User.asGiven := by
        rw [← UserRow.user_asGiven, ← UserRow.user_asGiven, Option.some.inj same]
      rw [Stage.behindLook, Stage.behindLook]
      cases first : row.user with
      | ok user =>
        cases second : row'.user with
        | ok user' => exact .ended rfl
        | error error' =>
          rw [first, second] at read
          cases read
      | error error =>
        cases second : row'.user with
        | ok user' =>
          rw [first, second] at read
          cases read
        | error error' =>
          rw [first, second] at read
          obtain rfl : error = error' := Except.error.inj read
          exact .ended rfl

theorem Alike.isPending_eq (alike : Alike first second) : first.isPending = second.isPending := by
  cases alike with
  | _ => rfl

theorem Alike.map_result? (alike : Alike first second) :
    first.result?.map (·.map User.asGiven) = second.result?.map (·.map User.asGiven) := by
  cases alike with
  | ended same => exact congrArg some same
  | _ => rfl

/-- **Creations of another email move alike.** -/
theorem Alike.moves (alike : Alike first second) (differs : form.email ≠ email)
    (rows : table.givenExcept email = aside.givenExcept email)
    (moves : Moves cost now form table first stage table')
    (moves' : Moves cost now form aside second stage' aside') :
    Alike stage stage' ∧ table'.givenExcept email = aside'.givenExcept email := by
  have looks : (table.byEmail? form.email).map UserRow.asGiven =
      (aside.byEmail? form.email).map UserRow.asGiven := by
    rw [UserTable.map_byEmail? differs, UserTable.map_byEmail? differs, rows]
  cases alike with
  | asking =>
    cases moves
    cases moves'
    exact ⟨alike_behindLook looks, rows⟩
  | hashing =>
    cases moves
    cases moves'
    exact ⟨.inserting _ _, rows⟩
  | inserting _ _ =>
    -- the second look finds the same in both runs as well
    cases moves with
    | meets taken =>
      cases moves' with
      | meets _ => exact ⟨.ended rfl, rows⟩
      | inserts inserts =>
        have free : aside.byEmail? form.email = none := inserts.free
        rw [taken, free] at looks
        exact absurd looks nofun
    | inserts inserts =>
      cases moves' with
      | meets taken =>
        have free : table.byEmail? form.email = none := inserts.free
        rw [taken, free] at looks
        exact absurd looks nofun
      | inserts inserts' =>
        refine ⟨.ended rfl, ?_⟩
        rw [givenExcept_of_inserts inserts, givenExcept_of_inserts inserts', rows]
  | ended _ => cases moves

/-- A turn of a creation of the email changes nothing for the others. -/
theorem Beside.left (beside : Beside email creations others table aside)
    (turned : Turned cost now position creations table creations' table')
    (own : ∀ creation, creations[position]? = some creation → creation.form.email = email) :
    Beside email creations' others table' aside := by
  cases turned with
  | idle _ => exact beside
  | moved found moves =>
    have same := own _ found
    subst same
    refine ⟨(map_form_set found _).trans beside.forms, fun place creation other there => ?_,
      moves.givenExcept_eq.trans beside.rows⟩
    by_cases here : position = place
    · subst here
      obtain ⟨inside, -⟩ := List.getElem?_eq_some_iff.1 found
      rw [List.getElem?_set_self inside] at there
      obtain rfl := Option.some.inj there
      exact fun _ differs => absurd rfl differs
    · rw [List.getElem?_set_ne here] at there
      exact beside.alike place creation other there

/-- Turns of a creation of another email in both runs keep them beside each other. -/
theorem Beside.both (beside : Beside email creations others table aside)
    (turned : Turned cost now position creations table creations' table')
    (turned' : Turned cost now position others aside others' aside')
    (differs : ∀ creation, creations[position]? = some creation → creation.form.email ≠ email) :
    Beside email creations' others' table' aside' := by
  have pairs : ∀ creation other, creations[position]? = some creation →
      others[position]? = some other →
      creation.form = other.form ∧ Alike creation.stage other.stage := by
    intro creation other found found'
    refine ⟨?_, beside.alike position creation other found found' (differs creation found)⟩
    have form := congrArg (·[position]?) beside.forms
    simp only [List.getElem?_map, found, found', Option.map_some] at form
    exact Option.some.inj form
  have inside_iff : position < creations.length ↔ position < others.length := by
    have lengths := congrArg List.length beside.forms
    rw [List.length_map, List.length_map] at lengths
    rw [lengths]
  cases turned with
  | idle ended =>
    cases turned' with
    | idle _ => exact beside
    | @moved other _ _ found' moves' =>
      obtain ⟨inside', -⟩ := List.getElem?_eq_some_iff.1 found'
      have found := List.getElem?_eq_getElem (inside_iff.2 inside')
      have waits := (pairs _ _ found found').2.isPending_eq
      rw [ended _ found, moves'.isPending] at waits
      exact absurd waits nofun
  | @moved creation stage _ found moves =>
    obtain ⟨inside, -⟩ := List.getElem?_eq_some_iff.1 found
    cases turned' with
    | idle ended' =>
      have found' := List.getElem?_eq_getElem (inside_iff.1 inside)
      have waits := (pairs _ _ found found').2.isPending_eq
      rw [ended' _ found', moves.isPending] at waits
      exact absurd waits nofun
    | @moved other stage' _ found' moves' =>
      obtain ⟨inside', -⟩ := List.getElem?_eq_some_iff.1 found'
      obtain ⟨form, alike⟩ := pairs creation other found found'
      rw [← form] at moves'
      obtain ⟨alike', rows⟩ := alike.moves (differs creation found) beside.rows moves moves'
      refine ⟨?_, fun place creation' other' there there' => ?_, rows⟩
      · rw [map_form_set found, map_form_set found', beside.forms]
      · by_cases here : position = place
        · subst here
          rw [List.getElem?_set_self inside] at there
          rw [List.getElem?_set_self inside'] at there'
          obtain rfl := Option.some.inj there
          obtain rfl := Option.some.inj there'
          exact fun _ => alike'
        · rw [List.getElem?_set_ne here] at there there'
          exact beside.alike place creation' other' there there'

end Beside

/-! ## All turns -/

/-- Whether a turn is not one of a creation of the email. -/
def isForOthers (forms : List NewUser) (email : String) (turn : Nat × Int) : Bool :=
  forms[turn.1]?.all (·.email ≠ email)

section Runs

variable {cost : Nat} {now : Int} {position : Nat} {email : String} {forms : List NewUser}
  {directory directory' : Directory} {table table' aside : UserTable} {stage : Stage}
  {creations creations' others : List Creation}
  {programs programs' : List (Program Step Step.Reply (Except AuthError User))}

/-- An email that no row has is not won before the first turn. -/
theorem contest_start (free : ∀ row ∈ table.rows, row.email ≠ email) :
    Contest email (forms.map fun form => { form }) table := by
  refine .vacant ?_ fun creation member _ => ?_
  · simpa [List.filter_eq_nil_iff] using free
  · obtain ⟨form, -, rfl⟩ := List.mem_map.1 member
    rfl

theorem beside_start : Beside email (forms.map fun form => { form })
    (forms.map fun form => { form }) table table := by
  refine ⟨rfl, fun position creation other found found' _ => ?_, rfl⟩
  obtain rfl := Option.some.inj (found.symm.trans found')
  obtain ⟨form, -, rfl⟩ := List.mem_map.1 (List.mem_of_getElem? found)
  exact .asking

theorem Contest.turned (contest : Contest email creations table)
    (turned : Turned cost now position creations table creations' table') :
    Contest email creations' table' := by
  cases turned with
  | idle _ => exact contest
  | moved found moves => exact contest.moved found moves

/-- **A schedule is followed turn by turn**, beside the one in which the creations of an email have
no turn. -/
theorem Standing.run (standing : Standing cost creations programs directory table)
    (standing' : Standing cost others programs' directory' aside)
    (contest : Contest email creations table)
    (beside : Beside email creations others table aside)
    (forms_eq : creations.map (·.form) = forms)
    (allowed : PasswordHash.isCost cost = true) (turns : List (Nat × Int)) :
    ∃ creations' others' table' aside', creations'.map (·.form) = forms ∧
      Standing cost creations' (Interleaving.runAt (perform cost) turns programs directory).1
        (Interleaving.runAt (perform cost) turns programs directory).2 table' ∧
      Standing cost others'
        (Interleaving.runAt (perform cost) (turns.filter (isForOthers forms email))
          programs' directory').1
        (Interleaving.runAt (perform cost) (turns.filter (isForOthers forms email))
          programs' directory').2 aside' ∧
      Contest email creations' table' ∧ Beside email creations' others' table' aside' := by
  induction turns generalizing creations others programs programs' directory directory' table aside
    with
  | nil => exact ⟨creations, others, table, aside, forms_eq, standing, standing', contest, beside⟩
  | cons turn later ih =>
    obtain ⟨creations₁, table₁, turned, standing₁⟩ := standing.turn allowed turn.2 turn.1
    have forms_eq₁ := turned.map_form.trans forms_eq
    have email_of (creation : Creation) (found : creations[turn.1]? = some creation) :
        isForOthers forms email turn = !decide (creation.form.email = email) := by
      rw [isForOthers, ← forms_eq, List.getElem?_map, found]
      simp
    rw [Interleaving.runAt_cons]
    cases elsewhere : isForOthers forms email turn with
    | true =>
      obtain ⟨others₁, aside₁, turned', standing₁'⟩ := standing'.turn allowed turn.2 turn.1
      rw [List.filter_cons_of_pos elsewhere, Interleaving.runAt_cons]
      refine ih standing₁ standing₁' (contest.turned turned)
        (beside.both turned turned' fun creation found => ?_) forms_eq₁
      simpa [elsewhere] using (email_of creation found).symm
    | false =>
      rw [List.filter_cons_of_neg (by rw [elsewhere]; exact nofun)]
      refine ih standing₁ standing' (contest.turned turned)
        (beside.left turned fun creation found => ?_) forms_eq₁
      simpa [elsewhere] using (email_of creation found).symm

/-- A creation that has had its turns has ended. -/
theorem Standing.exists_ended {turns : List (Nat × Int)} {form : NewUser}
    (standing : Standing cost creations
      (Interleaving.runAt (perform cost) turns (forms.map create) directory).1 directory' table)
    (forms_eq : creations.map (·.form) = forms) (asked : forms[position]? = some form)
    (finished : 3 ≤ (turns.map Prod.fst).count position) :
    ∃ result, creations[position]? = some ⟨form, .ended result⟩ := by
  obtain ⟨stage, found⟩ := exists_creation forms_eq asked
  have called : (forms.map create)[position]? = some (create form) := by
    rw [List.getElem?_map, asked, Option.map_some]
  obtain ⟨result, done⟩ :=
    Interleaving.exists_done_at called (endsWithin_create form) finished directory
  have shown : stage.result? = some result := by
    rw [← standing.result?_eq found, result?, done]
    rfl
  exact ⟨result, stage_of_result? shown ▸ found⟩

end Runs

/-- **Simultaneous creations of one email create one user.** Creations take turns in any order and
at any times, those of one email come to their ends, and no row had the email before. Then exactly
one of these has ended with a user, every other one has ended because the user exists, and the row
of this user is the only one of the email. Creations of other emails end with what they would have
ended with if those of the email had never had a turn, apart from the numbers and the salts that
are drawn, and the rows of other emails are the same in this sense. The hash in every user that was
made is one of the password in its form. -/
theorem one_user_of_email {cost : Nat} {forms : List NewUser} {email : String}
    {directory : Directory} {table : UserTable} (allowed : PasswordHash.isCost cost = true)
    (present : directory.table = some table) (counts : table.Counts)
    (room : table.nextNumber + forms.length ≤ Int64.maxValue.toInt + 1)
    (free : ∀ row ∈ table.rows, row.email ≠ email) (turns : List (Nat × Int))
    (called : ∃ form ∈ forms, form.email = email)
    (finished : ∀ (position : Nat) (form : NewUser), forms[position]? = some form →
      form.email = email → 3 ≤ (turns.map Prod.fst).count position) :
    let reached := Interleaving.runAt (perform cost) turns (forms.map create) directory
    let without := Interleaving.runAt (perform cost) (turns.filter (isForOthers forms email))
      (forms.map create) directory
    ∃ after aside, reached.2.table = some after ∧ without.2.table = some aside ∧
      (∃ (winner : Nat) (form : NewUser) (user : User) (row : UserRow),
        forms[winner]? = some form ∧ form.email = email ∧
        result? reached.1 winner = some (.ok user) ∧
        after.rows.filter (·.email = email) = [row] ∧ row.user = .ok user ∧
        ∀ (position : Nat) (form : NewUser), forms[position]? = some form → form.email = email →
          position ≠ winner → result? reached.1 position = some (.error .userExists)) ∧
      (∀ (position : Nat) (form : NewUser), forms[position]? = some form → form.email ≠ email →
        (result? reached.1 position).map (·.map User.asGiven) =
          (result? without.1 position).map (·.map User.asGiven)) ∧
      after.givenExcept email = aside.givenExcept email ∧
      ∀ (position : Nat) (form : NewUser) (user : User), forms[position]? = some form →
        result? reached.1 position = some (.ok user) →
          ∃ draw, PasswordHash.hash cost (salt draw) form.password = .ok user.passwordHash := by
  intro reached without
  have forms_eq : (forms.map fun form => ({ form } : Creation)).map (·.form) = forms := by
    rw [List.map_map]
    exact List.map_id _
  have start := standing_create present counts room cost
  obtain ⟨creations, others, after, aside, forms_eq, standing, standing', contest, beside⟩ :=
    start.run start (contest_start free) beside_start forms_eq allowed turns
  -- what the forms ask for is still what the creations are about, in both runs
  have ended (position : Nat) (form : NewUser) (asked : forms[position]? = some form)
      (own : form.email = email) :=
    standing.exists_ended forms_eq asked (finished position form asked own)
  refine ⟨after, aside, standing.present, standing'.present, ?_, ?_, beside.rows, ?_⟩
  · cases contest with
    | vacant _ waiting =>
      obtain ⟨form, member, own⟩ := called
      obtain ⟨position, asked⟩ := List.mem_iff_getElem?.1 member
      obtain ⟨result, found⟩ := ended position form asked own
      exact absurd (waiting _ (List.mem_of_getElem? found) own) Bool.false_ne_true
    | won winner user wins =>
      obtain ⟨form, found, own⟩ := wins.ended
      obtain ⟨row, only, read⟩ := wins.only
      have asked : forms[winner]? = some form := by
        rw [← forms_eq, List.getElem?_map, found, Option.map_some]
      refine ⟨winner, form, user, row, asked, own, standing.result?_eq found, only, read, ?_⟩
      intro position form asked own differs
      obtain ⟨result, found⟩ := ended position form asked own
      obtain rfl := wins.lost position _ result found differs own rfl
      exact standing.result?_eq found
  · intro position form asked differs
    obtain ⟨stage, found⟩ := exists_creation forms_eq asked
    obtain ⟨stage', found'⟩ := exists_creation (beside.forms.symm.trans forms_eq) asked
    rw [standing.result?_eq found, standing'.result?_eq found']
    exact (beside.alike position _ _ found found' differs).map_result?
  · intro position form user asked made
    obtain ⟨stage, found⟩ := exists_creation forms_eq asked
    rw [standing.result?_eq found] at made
    obtain rfl := stage_of_result? made
    exact standing.hashed _ (List.mem_of_getElem? found) user.passwordHash rfl

/-- Two creations of one email look before either inserts, while another email is created. One of
the two ends with a user, and the other one because it exists. -/
theorem one_user_of_email_behind_two_looks :
    let form (email : String) : NewUser := ⟨"Ada", "Byron", email, "secret", "", "", .customer⟩
    let reached := Interleaving.runAt (perform 4)
      [(0, 5), (1, 6), (2, 6), (1, 7), (0, 8), (2, 8), (0, 9), (2, 9), (1, 9)]
      ([form "a", form "a", form "b"].map create) {}
    ∃ winner loser user, (winner = 0 ∧ loser = 1 ∨ winner = 1 ∧ loser = 0) ∧
      result? reached.1 winner = some (.ok user) ∧
      result? reached.1 loser = some (.error .userExists) := by
  intro form reached
  have positions (position : Nat) (asked : NewUser)
      (there : [form "a", form "a", form "b"][position]? = some asked) (own : asked.email = "a") :
      position = 0 ∨ position = 1 := by
    obtain _ | _ | _ | position := position
    · exact .inl rfl
    · exact .inr rfl
    · obtain rfl := Option.some.inj there
      exact absurd own (by decide)
    · exact absurd there nofun
  obtain ⟨after, aside, -, -, ⟨winner, asked, user, row, there, own, won, -, -, lost⟩, -⟩ :=
    @one_user_of_email 4 [form "a", form "a", form "b"] "a" {} {} (by decide) rfl
      (by decide : Int64.minValue.toInt ≤ 0) (by decide) nofun
      [(0, 5), (1, 6), (2, 6), (1, 7), (0, 8), (2, 8), (0, 9), (2, 9), (1, 9)]
      ⟨form "a", List.mem_cons_self, rfl⟩ (by
        intro position asked there own
        rcases positions position asked there own with rfl | rfl
        · decide
        · decide)
  rcases positions winner asked there own with rfl | rfl
  · exact ⟨0, 1, user, .inl ⟨rfl, rfl⟩, won, lost 1 (form "a") rfl rfl (by decide)⟩
  · exact ⟨1, 0, user, .inr ⟨rfl, rfl⟩, won, lost 0 (form "a") rfl rfl (by decide)⟩

end Directory

end DualToken
