import DualToken.Interleaving
import DualToken.Proofs.Program

/-!
# Reasoning about programs that take turns

A turn performs one action of one program, or nothing. So what every action preserves, every
schedule preserves (`run_preserves`). An invariant that ties the programs to the state is shown turn
by turn, where the replies of the trace may help (`run_invariant`).

A program that is done after some number of actions, whatever the replies are, is done as soon as
it had that many turns (`exists_done`). This holds as well where what an action does depends on the
moment of the turn (`runAt`, `exists_done_at`).
-/

set_option autoImplicit false

namespace DualToken.Interleaving

variable {Action : Type} {Reply : Action → Type} {α σ : Type}
  {world : (action : Action) → σ → Reply action × σ}

theorem turn_preserves (invariant : σ → Prop)
    (preserved : ∀ action state, invariant state → invariant (world action state).2)
    (current : List (Program Action Reply α) × σ) (position : Nat) (start : invariant current.2) :
    invariant (turn world current position).2 := by
  obtain ⟨programs, state⟩ := current
  rw [turn]
  dsimp only
  split
  · exact preserved _ state start
  · exact start

/-- What every action preserves, programs that take turns preserve. -/
theorem run_preserves (invariant : σ → Prop)
    (preserved : ∀ action state, invariant state → invariant (world action state).2)
    (schedule : List Nat) (programs : List (Program Action Reply α)) (state : σ)
    (start : invariant state) : invariant (run world schedule programs state).2 := by
  have fold : ∀ current : List (Program Action Reply α) × σ, invariant current.2 →
      invariant (schedule.foldl (turn world) current).2 := by
    induction schedule with
    | nil => exact fun _ start => start
    | cons position later ih =>
      exact fun current start => ih _ (turn_preserves invariant preserved current position start)
  exact fold (programs, state) start

/-! ## Turns -/

section Turns

variable {programs : List (Program Action Reply α)} {state : σ} {position : Nat}

theorem turn_of_act {action : Action} {next : Reply action → Program Action Reply α}
    (found : programs[position]? = some (.act action next)) :
    turn world (programs, state) position =
      (programs.set position (next (world action state).1), (world action state).2) := by
  simp only [turn, found]

theorem turn_of_done {result : α} (found : programs[position]? = some (.done result)) :
    turn world (programs, state) position = (programs, state) := by
  simp only [turn, found]

theorem turn_of_none (absent : programs[position]? = none) :
    turn world (programs, state) position = (programs, state) := by
  simp only [turn, absent]

/-- A turn leaves the programs at other positions alone. -/
theorem getElem?_turn_of_ne {other : Nat} (differs : position ≠ other) :
    (turn world (programs, state) position).1[other]? = programs[other]? := by
  rw [turn]
  dsimp only
  split
  · exact List.getElem?_set_ne differs
  · rfl

variable (world)

theorem run_cons (position : Nat) (later : List Nat) (programs : List (Program Action Reply α))
    (state : σ) :
    run world (position :: later) programs state =
      run world later (turn world (programs, state) position).1
        (turn world (programs, state) position).2 := rfl

theorem run_append (earlier later : List Nat) (programs : List (Program Action Reply α))
    (state : σ) :
    run world (earlier ++ later) programs state =
      run world later (run world earlier programs state).1 (run world earlier programs state).2 :=
  List.foldl_append

end Turns

/-! ## What a schedule performs -/

section Traces

variable (world)

/-- What the turn of a position performs, with its reply. -/
def performed? (programs : List (Program Action Reply α)) (state : σ) (position : Nat) :
    Option (Performed Action Reply) :=
  match programs[position]? with
  | some (.act action _) => some ⟨action, (world action state).1⟩
  | _ => none

/-- The actions that are performed in the order of a schedule, with their replies. -/
def trace : List Nat → List (Program Action Reply α) → σ → List (Performed Action Reply)
  | [], _, _ => []
  | position :: later, programs, state =>
    let (others, changed) := turn world (programs, state) position
    (performed? world programs state position).toList ++ trace later others changed

theorem trace_append (earlier later : List Nat) (programs : List (Program Action Reply α))
    (state : σ) :
    trace world (earlier ++ later) programs state =
      trace world earlier programs state ++
        trace world later (run world earlier programs state).1
          (run world earlier programs state).2 := by
  induction earlier generalizing programs state with
  | nil => rfl
  | cons position others ih => simp only [List.cons_append, trace, run_cons, ih, List.append_assoc]

variable {world}

/-- **What every turn preserves, a schedule preserves.** What the replies of the trace are known to
be may help with each turn. -/
theorem run_invariant (invariant : List (Program Action Reply α) → σ → Prop)
    (known : Performed Action Reply → Prop)
    (preserved : ∀ programs state position, invariant programs state →
      (∀ performed ∈ performed? world programs state position, known performed) →
      invariant (turn world (programs, state) position).1 (turn world (programs, state) position).2)
    {schedule : List Nat} {programs : List (Program Action Reply α)} {state : σ}
    (start : invariant programs state)
    (knows : ∀ performed ∈ trace world schedule programs state, known performed) :
    invariant (run world schedule programs state).1 (run world schedule programs state).2 := by
  induction schedule generalizing programs state with
  | nil => exact start
  | cons position later ih =>
    simp only [trace, List.forall_mem_append, Option.mem_toList] at knows
    obtain ⟨here, behind⟩ := knows
    exact ih (preserved programs state position start here) behind

end Traces

/-! ## Programs that come to an end -/

/-- Whatever the replies are, the program is done after so many actions. -/
def EndsWithin : Nat → Program Action Reply α → Prop
  | _, .done _ => True
  | 0, .act _ _ => False
  | actions + 1, .act _ next => ∀ reply, EndsWithin actions (next reply)

theorem endsWithin_done (actions : Nat) (result : α) :
    EndsWithin actions (.done result : Program Action Reply α) := by
  cases actions with
  | zero => trivial
  | succ actions => trivial

/-! ## Worlds that change -/

section Moments

variable {τ : Type}

/-- Runs programs on a shared state, in the order of a schedule that also says at which moment each
turn is. What an action does may depend on the moment. -/
def runAt (world : τ → (action : Action) → σ → Reply action × σ) (schedule : List (Nat × τ))
    (programs : List (Program Action Reply α)) (state : σ) : List (Program Action Reply α) × σ :=
  schedule.foldl (fun current next => turn (world next.2) current next.1) (programs, state)

theorem runAt_cons (world : τ → (action : Action) → σ → Reply action × σ) (next : Nat × τ)
    (later : List (Nat × τ)) (programs : List (Program Action Reply α)) (state : σ) :
    runAt world (next :: later) programs state =
      runAt world later (turn (world next.2) (programs, state) next.1).1
        (turn (world next.2) (programs, state) next.1).2 := rfl

/-- A world that does not change runs programs as at any moments. -/
theorem run_eq_runAt (world : (action : Action) → σ → Reply action × σ) (schedule : List Nat)
    (programs : List (Program Action Reply α)) (state : σ) :
    run world schedule programs state =
      runAt (fun _ : Unit => world) (schedule.map fun position => (position, ()))
        programs state := by
  rw [run, runAt, List.foldl_map]

/-- **A program that had enough turns is done**, whenever they were. -/
theorem exists_done_at {world : τ → (action : Action) → σ → Reply action × σ}
    {programs : List (Program Action Reply α)} {position actions : Nat}
    {program : Program Action Reply α} (found : programs[position]? = some program)
    (ends : EndsWithin actions program) {schedule : List (Nat × τ)}
    (turns : actions ≤ (schedule.map Prod.fst).count position) (state : σ) :
    ∃ result, (runAt world schedule programs state).1[position]? = some (.done result) := by
  induction schedule generalizing programs program actions state with
  | nil =>
    cases program with
    | done result => exact ⟨result, found⟩
    | act action next =>
      obtain rfl : actions = 0 := by simpa using turns
      exact ends.elim
  | cons next later ih =>
    obtain ⟨other, moment⟩ := next
    rw [runAt_cons]
    rw [List.map_cons] at turns
    by_cases same : other = position
    · subst same
      rw [List.count_cons_self] at turns
      cases program with
      | done result =>
        rw [turn_of_done found]
        exact ih found (endsWithin_done 0 result) (Nat.zero_le _) state
      | act action next =>
        rw [turn_of_act found]
        obtain ⟨inside, -⟩ := List.getElem?_eq_some_iff.1 found
        cases actions with
        | zero => exact ends.elim
        | succ actions =>
          exact ih (List.getElem?_set_self inside) (ends _) (Nat.le_of_succ_le_succ turns) _
    · rw [List.count_cons_of_ne same] at turns
      exact ih ((getElem?_turn_of_ne same).trans found) ends turns _

end Moments

/-- A program that had enough turns in a world that does not change is done. -/
theorem exists_done {programs : List (Program Action Reply α)} {position actions : Nat}
    {program : Program Action Reply α} (found : programs[position]? = some program)
    (ends : EndsWithin actions program) {schedule : List Nat}
    (turns : actions ≤ schedule.count position) (state : σ) :
    ∃ result, (run world schedule programs state).1[position]? = some (.done result) := by
  rw [run_eq_runAt]
  refine exists_done_at found ends ?_ state
  rwa [List.map_map, show (Prod.fst ∘ fun position : Nat => (position, ())) = id from rfl,
    List.map_id]

end DualToken.Interleaving
